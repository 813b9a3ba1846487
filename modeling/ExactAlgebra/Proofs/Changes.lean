import ExactAlgebra.Matrix.Mutation
import ExactAlgebra.Proofs.Agreement
import ExactAlgebra.Proofs.RealGrid

/-!
# Changes that succeed

What a change of a matrix that succeeds makes of the cells. It has found the rows and columns that its
operands are the indices of, and the quantities that they stand for; what it leaves is the outcome of one
operation on the grid. Operations on columns go through the rows one after the other, but together they do
what the operation of the same name does to the whole grid. The division of a column has no such operation:
it is the division of a row of the transposed grid.

## Main definitions

* `Matrix.Makes`: what a change makes of the cells.

## Main statements

* `Edit.of_sweepAll_ok`, `Edit.sweepAll_of_rows`: a sweep that succeeds has changed every row on its own.
* `Matrix.edit_makes`, `Matrix.Makes.edit`: a change that succeeds makes what it should, and what it should
  make it makes.
* `Matrix.of_mutate_ok`: a change succeeds only if nothing stands in its way.
* `Matrix.mutate_of_reduction`: what a reduction with a result leaves behind.
-/

namespace ExactAlgebra

namespace Grid

variable {m n : ℕ} {g h : Grid m n}

theorem ext_get (rows : ∀ i : Fin m, g.get i = h.get i) : g = h :=
  Grid.ext fun i j => congrArg (fun row : Row n => row.get j) (rows i)

/-! ## Columns, seen in a row -/

theorem get_setColumn (g : Grid m n) (j : Fin n) (column : Vector Quantity m) (r : Fin m) :
    (g.setColumn j column).get r = Row.setCell (g.get r) j (column.get r) := by
  simp [setColumn, get_eq_getElem]

theorem get_swapColumns (g : Grid m n) (a b : Fin n) (r : Fin m) :
    (g.swapColumns a b).get r = Row.swapCells (g.get r) a b := by
  simp [swapColumns, get_eq_getElem]

theorem get_multiplyColumn (g : Grid m n) (j : Fin n) (scalar : Quantity) (r : Fin m) :
    (g.multiplyColumn j scalar).get r = Row.setCell (g.get r) j (g.cell r j * scalar) := by
  simp [multiplyColumn, get_eq_getElem]

/-- A column whose cells are divided one after the other is a divided row of the transposed grid. -/
theorem divideRow?_transpose {j : Fin n} {divisor : Quantity}
    (rows : ∀ r : Fin m, ∃ q, (g.cell r j).divide? divisor = some q ∧
      h.get r = Row.setCell (g.get r) j q) :
    g.transpose.divideRow? j divisor = some h.transpose := by
  choose quotient defined made using rows
  have column : Row.divide? (g.transpose.get j) divisor = some (Vector.ofFn quotient) := by
    refine ofFnM_eq_some fun r => ?_
    rw [← defined, ← cell_transpose]
  rw [divideRow?, column, Option.map_some]
  refine congrArg some (Grid.ext fun c r => ?_)
  rw [cell, get_setRow, cell_transpose, cell, made, Row.get_setCell]
  split
  · rw [get_ofFn]
  · rw [← cell, cell_transpose]

/-- The cells of a column from which a divided row of the transposed grid comes. -/
theorem of_divideRow?_transpose {j : Fin n} {divisor : Quantity}
    (divided : g.transpose.divideRow? j divisor = some h.transpose) (r : Fin m) :
    ∃ q, (g.cell r j).divide? divisor = some q ∧ h.get r = Row.setCell (g.get r) j q := by
  obtain ⟨column, quotients, made⟩ := Option.map_eq_some_iff.mp divided
  have quotient := of_ofFnM_eq_some quotients r
  rw [← cell, cell_transpose] at quotient
  refine ⟨column.get r, quotient, Vector.ext fun c lt => ?_⟩
  have cell' : h.cell r ⟨c, lt⟩ = (g.transpose.setRow j column).cell ⟨c, lt⟩ r := by
    rw [made, cell_transpose]
  show h.cell r ⟨c, lt⟩ = (Row.setCell (g.get r) j (column.get r)).get ⟨c, lt⟩
  rw [cell', cell, get_setRow, Row.get_setCell]
  split
  · rfl
  · rw [← cell, cell_transpose]

end Grid

namespace Edit

variable {m n : ℕ} {g : Grid m n}

theorem of_replace_ok {old : Grid m n} {new : Except Error (Grid m n)} {done : Edit m n}
    (replaced : replace old new = done) (ok : done.outcome = .ok ()) : new = .ok done.grid := by
  subst replaced
  cases new with
  | error e => cases ok
  | ok g => rfl

theorem replace_of_ok {old g : Grid m n} {new : Except Error (Grid m n)} (ok : new = .ok g) :
    (replace old new).outcome = .ok () ∧ (replace old new).grid = g := by
  rw [ok]
  exact ⟨rfl, rfl⟩

theorem of_ofElimination_ok {old : Grid m n} {e : Elimination m n} {done : Edit m n}
    (reduced : ofElimination old e = done) (ok : done.outcome = .ok ()) : e.result? = some done.grid := by
  subst reduced
  have replaced : orFail .divisionByZero e.result? = .ok (ofElimination old e).grid :=
    @of_replace_ok m n old _ (replace old _) rfl ok
  exact orFail_eq_ok.mp replaced

theorem of_checked_ok {α : Type} {old : Grid m n} {checks : Except Error α} {write : α → Edit m n}
    {done : Edit m n} (checked : checked old checks write = done) (ok : done.outcome = .ok ()) :
    ∃ a, checks = .ok a ∧ write a = done := by
  subst checked
  cases checks with
  | error e => cases ok
  | ok a => exact ⟨a, rfl, rfl⟩

/-- A sweep over different rows has changed each of them as it found it, and no other row. -/
theorem of_sweep_ok {f : Fin m → Row n → Except Error (Row n)} {rows : List (Fin m)}
    (different : rows.Nodup) (ok : (sweep f rows g).outcome = .ok ()) (r : Fin m) :
    if r ∈ rows then f r (g.get r) = .ok ((sweep f rows g).grid.get r)
      else (sweep f rows g).grid.get r = g.get r := by
  induction rows generalizing g with
  | nil => rfl
  | cons i below ih =>
    obtain ⟨new, different'⟩ := List.nodup_cons.mp different
    rw [sweep] at ok ⊢
    cases changed : f i (g.get i) with
    | error e =>
      rw [changed] at ok
      cases ok
    | ok row =>
      rw [changed] at ok
      have rest := ih different' ok
      rw [Grid.get_setRow] at rest
      by_cases here : r = i
      · rw [here, if_neg new, if_pos rfl] at rest
        rw [here, if_pos List.mem_cons_self, changed, rest]
      · rw [if_neg here] at rest
        simpa only [List.mem_cons, here, false_or] using rest

/-- A sweep that succeeds has changed every row as it found it. -/
theorem of_sweepAll_ok {f : Fin m → Row n → Except Error (Row n)} {done : Edit m n}
    (swept : sweepAll g f = done) (ok : done.outcome = .ok ()) (r : Fin m) :
    f r (g.get r) = .ok (done.grid.get r) := by
  subst swept
  have changed := of_sweep_ok (List.nodup_finRange m) ok r
  rwa [if_pos (List.mem_finRange r)] at changed

/-- A sweep over different rows that can all be changed as it finds them succeeds. -/
theorem outcome_sweep_of_rows {f : Fin m → Row n → Except Error (Row n)} {rows : List (Fin m)}
    (different : rows.Nodup) (changed : ∀ r ∈ rows, ∃ row, f r (g.get r) = .ok row) :
    (sweep f rows g).outcome = .ok () := by
  induction rows generalizing g with
  | nil => rfl
  | cons i below ih =>
    obtain ⟨new, different'⟩ := List.nodup_cons.mp different
    obtain ⟨row, first⟩ := changed i List.mem_cons_self
    rw [sweep, first]
    refine ih different' fun r mem => ?_
    have other : r ≠ i := fun same => new (same ▸ mem)
    rw [Grid.get_setRow, if_neg other]
    exact changed r (List.mem_cons_of_mem i mem)

/-- A sweep makes the grid whose rows are the changed rows. -/
theorem sweepAll_of_rows {f : Fin m → Row n → Except Error (Row n)} {h : Grid m n}
    (changed : ∀ r, f r (g.get r) = .ok (h.get r)) :
    (sweepAll g f).outcome = .ok () ∧ (sweepAll g f).grid = h := by
  have ok : (sweepAll g f).outcome = .ok () :=
    outcome_sweep_of_rows (List.nodup_finRange m) fun r _ => ⟨h.get r, changed r⟩
  refine ⟨ok, Grid.ext_get fun r => ?_⟩
  have row := of_sweepAll_ok rfl ok r
  exact Except.ok.inj (row.symm.trans (changed r))

end Edit

namespace Matrix

variable {m : Matrix}

/-- What a change that succeeds makes of the cells of a matrix. -/
inductive Makes (m : Matrix) : Mutation → Grid m.rowCount m.columnCount → Prop
  | setValue {r c v : Operand} {i j q} : m.row r = .ok (.ok i) → m.column c = .ok (.ok j) →
      v.toQuantity = .ok q → Makes m (.setValue r c v) (m.grid.setCell i j q)
  | setRow {r vs : Operand} {i row} : m.row r = .ok (.ok i) → vector m.columnCount .rowLength vs = .ok row →
      Makes m (.setRow r vs) (m.grid.setRow i row)
  | setColumn {c vs : Operand} {j column} : m.column c = .ok (.ok j) →
      vector m.rowCount .columnLength vs = .ok column →
      Makes m (.setColumn c vs) (m.grid.setColumn j column)
  | swapRows {a b : Operand} {i k} : m.row a = .ok (.ok i) → m.row b = .ok (.ok k) →
      Makes m (.swapRows a b) (m.grid.swapRows i k)
  | swapColumns {a b : Operand} {j l} : m.column a = .ok (.ok j) → m.column b = .ok (.ok l) →
      Makes m (.swapColumns a b) (m.grid.swapColumns j l)
  | multiplyRow {r s : Operand} {i q} : m.row r = .ok (.ok i) → s.toQuantity = .ok q →
      Makes m (.multiplyRow r s) (m.grid.multiplyRow i q)
  | divideRow {r d : Operand} {i q g} : m.row r = .ok (.ok i) → divisor d = .ok q →
      m.grid.divideRow? i q = some g → Makes m (.divideRow r d) g
  | multiplyColumn {c s : Operand} {j q} : m.column c = .ok (.ok j) → s.toQuantity = .ok q →
      Makes m (.multiplyColumn c s) (m.grid.multiplyColumn j q)
  | divideColumn {c d : Operand} {j q g} : m.column c = .ok (.ok j) → divisor d = .ok q →
      m.grid.transpose.divideRow? j q = some g.transpose → Makes m (.divideColumn c d) g
  | addRow {r a s : Operand} {i k q} : m.row r = .ok (.ok i) → m.row a = .ok (.ok k) →
      s.toQuantity = .ok q → Makes m (.addRow r a s) (m.grid.addRow i k q)
  | reduce {g} : m.grid.echelon.result? = some g → Makes m .reduce g
  | reduceFully {g} : m.grid.reducedEchelon.result? = some g → Makes m .reduceFully g

/-- **A change that succeeds makes what it should.** What each change should make of a grid is said by a
relation with one constructor for each, in which neither checks nor the order of writes occur. -/
theorem edit_makes {change : Mutation} (ok : (m.edit change).outcome = .ok ()) :
    m.Makes change (m.edit change).grid := by
  generalize edit : m.edit change = done at ok ⊢
  -- The operations on columns tell their column in the first row, since there is one.
  have top : Fin m.rowCount := ⟨0, m.rowCount_pos⟩
  cases change with
  | setValue r c v =>
    obtain ⟨i?, row, rest⟩ := of_bind_ok (Edit.of_replace_ok edit ok)
    obtain ⟨j?, column, rest'⟩ := of_bind_ok rest
    obtain ⟨q, value, picks⟩ := of_bind_ok rest'
    obtain ⟨i, rfl, picks'⟩ := of_bind_ok picks
    obtain ⟨j, rfl, made⟩ := of_bind_ok picks'
    rw [← Except.ok.inj made]
    exact .setValue row column value
  | setRow r vs =>
    obtain ⟨i?, row, rest⟩ := of_bind_ok (Edit.of_replace_ok edit ok)
    obtain ⟨qs, values, picks⟩ := of_bind_ok rest
    obtain ⟨i, rfl, made⟩ := of_bind_ok picks
    rw [← Except.ok.inj made]
    exact .setRow row values
  | setColumn c vs =>
    obtain ⟨_, checks, swept⟩ := Edit.of_checked_ok edit ok
    obtain ⟨j?, column, checks'⟩ := of_bind_ok checks
    obtain ⟨qs, values, same⟩ := of_bind_ok checks'
    obtain rfl := Except.ok.inj same
    have rows := Edit.of_sweepAll_ok swept ok
    obtain ⟨j, rfl, -⟩ := of_bind_ok (rows top)
    have made : m.grid.setColumn j qs = done.grid := Grid.ext_get fun r => by
      rw [Grid.get_setColumn]
      exact Except.ok.inj (rows r)
    exact made ▸ .setColumn column values
  | swapRows a b =>
    obtain ⟨i?, row, rest⟩ := of_bind_ok (Edit.of_replace_ok edit ok)
    obtain ⟨k?, row', picks⟩ := of_bind_ok rest
    obtain ⟨k, rfl, picks'⟩ := of_bind_ok picks
    obtain ⟨i, rfl, made⟩ := of_bind_ok picks'
    rw [← Except.ok.inj made]
    exact .swapRows row row'
  | swapColumns a b =>
    obtain ⟨_, checks, swept⟩ := Edit.of_checked_ok edit ok
    obtain ⟨j?, column, checks'⟩ := of_bind_ok checks
    obtain ⟨l?, column', same⟩ := of_bind_ok checks'
    obtain rfl := Except.ok.inj same
    have rows := Edit.of_sweepAll_ok swept ok
    obtain ⟨l, rfl, first⟩ := of_bind_ok (rows top)
    obtain ⟨j, rfl, -⟩ := of_bind_ok first
    have made : m.grid.swapColumns j l = done.grid := Grid.ext_get fun r => by
      rw [Grid.get_swapColumns]
      exact Except.ok.inj (rows r)
    exact made ▸ .swapColumns column column'
  | multiplyRow r s =>
    obtain ⟨i?, row, rest⟩ := of_bind_ok (Edit.of_replace_ok edit ok)
    obtain ⟨q, scalar, picks⟩ := of_bind_ok rest
    obtain ⟨i, rfl, made⟩ := of_bind_ok picks
    rw [← Except.ok.inj made]
    exact .multiplyRow row scalar
  | divideRow r d =>
    obtain ⟨i?, row, rest⟩ := of_bind_ok (Edit.of_replace_ok edit ok)
    obtain ⟨q, divisor, picks⟩ := of_bind_ok rest
    obtain ⟨i, rfl, made⟩ := of_bind_ok picks
    exact .divideRow row divisor (orFail_eq_ok.mp made)
  | multiplyColumn c s =>
    obtain ⟨_, checks, swept⟩ := Edit.of_checked_ok edit ok
    obtain ⟨j?, column, checks'⟩ := of_bind_ok checks
    obtain ⟨q, scalar, same⟩ := of_bind_ok checks'
    obtain rfl := Except.ok.inj same
    have rows := Edit.of_sweepAll_ok swept ok
    obtain ⟨j, rfl, -⟩ := of_bind_ok (rows top)
    have made : m.grid.multiplyColumn j q = done.grid := Grid.ext_get fun r => by
      rw [Grid.get_multiplyColumn]
      exact Except.ok.inj (rows r)
    exact made ▸ .multiplyColumn column scalar
  | divideColumn c d =>
    obtain ⟨_, checks, swept⟩ := Edit.of_checked_ok edit ok
    obtain ⟨j?, column, checks'⟩ := of_bind_ok checks
    obtain ⟨q, divisor, same⟩ := of_bind_ok checks'
    obtain rfl := Except.ok.inj same
    have rows := Edit.of_sweepAll_ok swept ok
    obtain ⟨j, rfl, -⟩ := of_bind_ok (rows top)
    refine .divideColumn column divisor (Grid.divideRow?_transpose fun r => ?_)
    have divided : (do return Row.setCell (m.grid.get r) j (← (m.grid.cell r j).divide q)) =
      .ok (done.grid.get r) := rows r
    obtain ⟨p, quotient, made⟩ := of_bind_ok divided
    exact ⟨p, orFail_eq_ok.mp quotient, (Except.ok.inj made).symm⟩
  | addRow r a s =>
    obtain ⟨i?, row, rest⟩ := of_bind_ok (Edit.of_replace_ok edit ok)
    obtain ⟨k?, row', rest'⟩ := of_bind_ok rest
    obtain ⟨q, scalar, picks⟩ := of_bind_ok rest'
    obtain ⟨k, rfl, picks'⟩ := of_bind_ok picks
    obtain ⟨i, rfl, made⟩ := of_bind_ok picks'
    rw [← Except.ok.inj made]
    exact .addRow row row' scalar
  | reduce => exact .reduce (Edit.of_ofElimination_ok edit ok)
  | reduceFully => exact .reduceFully (Edit.of_ofElimination_ok edit ok)

/-- What a change makes is what it leaves, and it succeeds. -/
theorem Makes.edit {change : Mutation} {g : Grid m.rowCount m.columnCount} (makes : m.Makes change g) :
    (m.edit change).outcome = .ok () ∧ (m.edit change).grid = g := by
  cases makes with
  | setValue row column value =>
    rw [Matrix.edit, row, column, value]
    exact ⟨rfl, rfl⟩
  | setRow row values =>
    rw [Matrix.edit, row, values]
    exact ⟨rfl, rfl⟩
  | setColumn column values =>
    rw [Matrix.edit, column, values]
    exact Edit.sweepAll_of_rows fun r => congrArg Except.ok (Grid.get_setColumn _ _ _ r).symm
  | swapRows row row' =>
    rw [Matrix.edit, row, row']
    exact ⟨rfl, rfl⟩
  | swapColumns column column' =>
    rw [Matrix.edit, column, column']
    exact Edit.sweepAll_of_rows fun r => congrArg Except.ok (Grid.get_swapColumns _ _ _ r).symm
  | multiplyRow row scalar =>
    rw [Matrix.edit, row, scalar]
    exact ⟨rfl, rfl⟩
  | divideRow row divisor divided =>
    rw [Matrix.edit, row, divisor]
    exact Edit.replace_of_ok (orFail_eq_ok.mpr divided)
  | multiplyColumn column scalar =>
    rw [Matrix.edit, column, scalar]
    exact Edit.sweepAll_of_rows fun r => congrArg Except.ok (Grid.get_multiplyColumn _ _ _ r).symm
  | divideColumn column divisor divided =>
    rw [Matrix.edit, column, divisor]
    refine Edit.sweepAll_of_rows fun r => ?_
    obtain ⟨q, quotient, row⟩ := Grid.of_divideRow?_transpose divided r
    have divides : (m.grid.cell r _).divide _ = .ok q := orFail_eq_ok.mpr quotient
    show (do return Row.setCell (m.grid.get r) _ (← (m.grid.cell r _).divide _)) = _
    rw [divides, row]
    rfl
  | addRow row row' scalar =>
    rw [Matrix.edit, row, row', scalar]
    exact ⟨rfl, rfl⟩
  | reduce result =>
    rw [Matrix.edit, Edit.ofElimination, result]
    exact ⟨rfl, rfl⟩
  | reduceFully result =>
    rw [Matrix.edit, Edit.ofElimination, result]
    exact ⟨rfl, rfl⟩

/-- A change succeeds only if nothing stands in its way. -/
theorem of_mutate_ok {change : Mutation} (ok : (m.mutate change).2.outcome = .ok ()) :
    m.objection? change = none ∧ (m.edit change).outcome = .ok () ∧
      (m.mutate change).1 = m.withGrid (m.edit change).grid := by
  unfold mutate at ok ⊢
  cases objection : m.objection? change with
  | some e =>
    rw [objection] at ok
    cases ok
  | none =>
    rw [objection] at ok
    exact ⟨rfl, ok, rfl⟩

/-- Nothing stands in the way of a change of a writable matrix that offers it. -/
theorem objection?_eq_none (writable : m.readOnly = false) {change : Mutation}
    (offered : change.reductionName? = none ∨ m.form.hasArithmetic = true) :
    m.objection? change = none := by
  unfold objection?
  rw [writable]
  rcases offered with unnamed | offered
  · rw [unnamed]
    rfl
  · rw [offered]
    cases change.reductionName? <;> rfl

/-- A writable matrix that offers a change is left with what the change makes. -/
theorem Makes.mutate {change : Mutation} {g : Grid m.rowCount m.columnCount} (makes : m.Makes change g)
    (writable : m.readOnly = false)
    (offered : change.reductionName? = none ∨ m.form.hasArithmetic = true) :
    (m.mutate change).1 = m.withGrid g ∧ (m.mutate change).2.outcome = .ok () := by
  obtain ⟨ok, grid⟩ := makes.edit
  rw [Matrix.mutate, objection?_eq_none writable offered]
  exact ⟨congrArg m.withGrid grid, ok⟩

/-- A reduction that has a result puts it in place of the cells, and nothing else is touched. -/
theorem mutate_of_reduction (offered : m.form.hasArithmetic = true) (writable : m.readOnly = false)
    {change : Mutation} {e : Elimination m.rowCount m.columnCount}
    (reduces : m.edit change = .ofElimination m.grid e) {h : Grid m.rowCount m.columnCount}
    (result : e.result? = some h) :
    m.mutate change = (m.withGrid h, ⟨e.pivots.map .pivot, .ok ()⟩) := by
  have done : m.edit change = ⟨h, .ok (), e.pivots.map .pivot⟩ := by
    rw [reduces, Edit.ofElimination, result]
    rfl
  rw [mutate, objection?_eq_none writable (.inr offered), done]

end Matrix

end ExactAlgebra
