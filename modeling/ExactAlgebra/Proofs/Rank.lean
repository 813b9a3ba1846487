import ExactAlgebra.Matrix.Request
import ExactAlgebra.Proofs.Changes
import ExactAlgebra.Proofs.ComplexValues
import ExactAlgebra.Proofs.FailedChange
import ExactAlgebra.Proofs.RealElimination

/-!
# The rank of real matrices

The rank of a matrix on the real axis is the dimension of its row space. Elimination works on rows alone,
but what it counts is the rank of linear algebra, so it agrees with the rank of the transposed matrix; it
stays when rows or columns are exchanged, scaled or added to each other; and a product has at most the rank
of each factor.

## Main definitions

* `Operand.IsReal`, `Operand.IsNonzero`: what a value stands for, if it stands for a quantity.
* `Matrix.IsElementary`: the elementary operations on rows and columns.
* `Grid.SameRank`: a real grid with the rank of another.

## Main statements

* `Matrix.Makes.sameRank`: an elementary operation makes a grid of the same rank.
* `Matrix.rank_of_isReal`: the rank on the real axis.
-/

open Matrix (RowEquivalent rowSpace)

namespace ExactAlgebra

namespace Operand

/-- If the value stands for a quantity, the quantity is real. -/
def IsReal (v : Operand) : Prop := ∀ q, v.toQuantity = .ok q → q.isReal = true

/-- If the value stands for a quantity, the quantity is not zero. -/
def IsNonzero (v : Operand) : Prop := ∀ q, v.toQuantity = .ok q → q.isZero = false

end Operand

namespace Grid

variable {m n p : ℕ} {g h : Grid m n}

/-! ## Operations on real grids -/

/-- A grid whose values are rational numbers lies on the real axis. -/
theorem isReal_of_value_eq {a : Fin m → Fin n → ℚ} (values : ∀ i j, g.value i j = a i j) :
    g.IsReal ∧ g.re = a := by
  have cells (i : Fin m) (j : Fin n) : (g.cell i j).isReal = true ∧ (g.cell i j).re = a i j :=
    Quantity.isReal_of_value_eq (values i j)
  refine ⟨fun i j => (cells i j).1, ?_⟩
  funext i j
  exact (cells i j).2

theorem re_transpose (g : Grid m n) : g.transpose.re = g.re.transpose := by
  funext i j
  rw [re_apply, cell_transpose]
  rfl

/-- A grid that is on the real axis stays there when it is transposed, since the cells are the same ones. -/
theorem IsReal.transpose (real : g.IsReal) : g.transpose.IsReal := by
  intro i j
  rw [cell_transpose]
  exact real j i

/-- The product of real grids is real, and its real parts are the product of the matrices of real parts. This is
seen in the complex numbers, where the products of grids are known already. -/
theorem IsReal.multiply (realG : g.IsReal) {x : Grid n p} (realX : x.IsReal) :
    (g.multiply x).IsReal ∧ (g.multiply x).re = g.re * x.re := by
  refine isReal_of_value_eq fun i j => ?_
  have product := Matrix.map_mul (f := Rat.castHom ℂ) (L := g.re) (M := x.re)
  rw [value_multiply, realG.value_eq, realX.value_eq]
  exact (congrFun (congrFun product i) j).symm

/-- A real grid with the rank of another one. -/
structure SameRank (g h : Grid m n) : Prop where
  real : h.IsReal
  rank_eq : h.re.rank = g.re.rank

namespace SameRank

/-- Rows that span the same space have the same rank, so equivalence of rows is all that has to be shown for an
operation on them. -/
theorem of_rowEquivalent {u : ℚ} (real : h.IsReal) (equivalent : RowEquivalent u g.re h.re) :
    g.SameRank h :=
  ⟨real, equivalent.rank_eq⟩

/-- Row rank is column rank, so what is done to the columns may be looked at in the transposed grid. -/
theorem of_transpose (same : g.transpose.SameRank h.transpose) : g.SameRank h := by
  obtain ⟨real, rank⟩ := same
  rw [re_transpose, re_transpose, Matrix.rank_transpose, Matrix.rank_transpose] at rank
  exact ⟨fun i j => cell_transpose h j i ▸ real j i, rank⟩

end SameRank

/-! ## Row operations -/

/-- An exchange of rows keeps the rank, since the rows that span the space are the same ones. -/
theorem IsReal.sameRank_swapRows (real : g.IsReal) (a b : Fin m) : g.SameRank (g.swapRows a b) := by
  have exchanged := RowEquivalent.swapRows g.re a b
  rw [← re_swapRows] at exchanged
  exact .of_rowEquivalent (real.swapRows a b) exchanged

/-- A row whose cells are multiplied by a number other than zero. -/
theorem IsReal.sameRank_setRow (real : g.IsReal) {i : Fin m} {row : Row n} {u : ℚ} (nonzero : u ≠ 0)
    (cells : ∀ j, (row.get j).isReal = true ∧ (row.get j).re = u * g.re i j) :
    g.SameRank (g.setRow i row) := by
  refine .of_rowEquivalent (u := ∏ r, if r = i then u else 1) ?_ ?_
  · intro r j
    rw [cell, get_setRow]
    split_ifs
    · exact (cells j).1
    · exact real r j
  · have scaled : (g.setRow i row).re = fun r => (if r = i then u else 1) • g.re r := by
      funext r j
      rw [re_apply, cell, get_setRow]
      split_ifs with here
      · rw [here]
        exact (cells j).2
      · exact (one_mul _).symm
    rw [scaled]
    refine RowEquivalent.scaleRows g.re fun r => ?_
    split_ifs
    exacts [nonzero, one_ne_zero]

/-- A row is multiplied by a real number other than zero. The number can be divided by again, and so nothing of
the row space is lost. -/
theorem IsReal.sameRank_multiplyRow (real : g.IsReal) (i : Fin m) {q : Quantity} (hq : q.isReal = true)
    (nonzero : q.isZero = false) : g.SameRank (g.multiplyRow i q) := by
  refine real.sameRank_setRow (u := q.re) (Quantity.re_ne_zero hq nonzero) fun j => ?_
  have cell : ((g.get i).map (· * q)).get j = g.cell i j * q := by
    simp [get_eq_getElem]
  rw [cell, Quantity.re_mul_of_isReal (real i j), mul_comm]
  exact ⟨Quantity.isReal_mul (real i j) hq, rfl⟩

/-- A row is divided by a real number other than zero, which is to multiply it by the reciprocal. On the real
axis the quotients are those of the field. -/
theorem IsReal.sameRank_divideRow? (real : g.IsReal) {i : Fin m} {q : Quantity} (hq : q.isReal = true)
    (nonzero : q.isZero = false) (divided : g.divideRow? i q = some h) : g.SameRank h := by
  obtain ⟨row, quotients, rfl⟩ := Option.map_eq_some_iff.mp divided
  have nonzero' := Quantity.re_ne_zero hq nonzero
  refine real.sameRank_setRow (u := q.re⁻¹) (inv_ne_zero nonzero') fun j => ?_
  choose p defined realP value using fun j => Quantity.divide?_of_isReal (real i j) hq nonzero'
  obtain rfl := Option.some.inj (quotients.symm.trans (ofFnM_eq_some defined))
  rw [get_ofFn, value, div_eq_inv_mul]
  exact ⟨realP j, rfl⟩

/-- A multiple of another row is added to a row, and can be subtracted again. The row must be another one: with
the factor `-1` a row would remove itself. -/
theorem IsReal.sameRank_addRow (real : g.IsReal) {i k : Fin m} (different : i ≠ k) {q : Quantity}
    (hq : q.isReal = true) : g.SameRank (g.addRow i k q) := by
  have row (r : Fin m) : (g.addRow i k q).get r =
      if r = i then (g.get i).addMultiple (g.get k) q else g.get r := get_addRow g i k r q
  refine .of_rowEquivalent (u := 1) ?_ ?_
  · intro r j
    rw [cell, row]
    split_ifs
    · exact (real.addMultiple i k hq j).1
    · exact real r j
  · have added : (g.addRow i k q).re = g.re.addMultiples k fun r => if r = i then q.re else 0 := by
      funext r j
      rw [re_apply, cell, row, Matrix.addMultiples_apply]
      split_ifs with here
      · rw [here]
        exact (real.addMultiple i k hq j).2
      · rw [zero_mul, add_zero, re_apply]
    rw [added]
    exact RowEquivalent.addMultiples g.re (if_neg different.symm)

/-! ## Column operations -/

theorem transpose_swapColumns (g : Grid m n) (a b : Fin n) :
    (g.swapColumns a b).transpose = g.transpose.swapRows a b := by
  ext j i
  show _ = ((g.transpose.swapRows a b).get j).get i
  rw [cell_transpose, cell_swapColumns, get_swapRows]
  split_ifs <;> exact (cell_transpose g _ i).symm

/-- Multiplying a column is multiplying a row of the transposed grid, cell by cell with the same products. -/
theorem transpose_multiplyColumn (g : Grid m n) (j : Fin n) (q : Quantity) :
    (g.multiplyColumn j q).transpose = g.transpose.multiplyRow j q := by
  ext c i
  show _ = ((g.transpose.multiplyRow j q).get c).get i
  rw [cell_transpose, cell, get_multiplyColumn, Row.get_setCell, multiplyRow, get_setRow]
  split_ifs
  · rw [← cell_transpose]
    simp [get_eq_getElem]
  · exact (cell_transpose g c i).symm

/-! ## The number of rows that are not zero -/

/-- The rows that elimination leaves are counted by the rank. -/
theorem IsReal.rank?_eq (real : g.IsReal) : g.rank? = some g.re.rank := by
  obtain ⟨h, result, realH, echelon, equivalent⟩ := real.echelon_reduces
  rw [rank?, result, Option.map_some, ← realH.hasZerosOf.rank_eq echelon, equivalent.rank_eq]

/-- The rank of a grid does not depend on how its shape is written down. -/
theorem rank_re_cast {k l : ℕ} (g : Grid m n) (rows : m = k) (columns : n = l) :
    (g.cast rows columns).re.rank = g.re.rank := by
  subst rows columns
  rw [cast_rfl]

end Grid

namespace Matrix

variable {m : Matrix}

/-- The elementary operations: rows or columns are exchanged, multiplied or divided by real numbers other
than zero, or a real multiple of a row is added to another row. -/
inductive IsElementary (m : Matrix) : Mutation → Prop
  | swapRows (a b : Operand) : IsElementary m (.swapRows a b)
  | swapColumns (a b : Operand) : IsElementary m (.swapColumns a b)
  | multiplyRow {r s : Operand} : s.IsReal → s.IsNonzero → IsElementary m (.multiplyRow r s)
  | divideRow {r d : Operand} : d.IsReal → d.IsNonzero → IsElementary m (.divideRow r d)
  | multiplyColumn {c s : Operand} : s.IsReal → s.IsNonzero → IsElementary m (.multiplyColumn c s)
  | divideColumn {c d : Operand} : d.IsReal → d.IsNonzero → IsElementary m (.divideColumn c d)
  | addRow {r a s : Operand} : (∀ i k, m.row r = .ok (.ok i) → m.row a = .ok (.ok k) → i ≠ k) →
      s.IsReal → IsElementary m (.addRow r a s)

/-- What is accepted as a divisor is a quantity, and it is not zero. -/
theorem of_divisor_ok {d : Operand} {q : Quantity} (ok : divisor d = .ok q) :
    d.toQuantity = .ok q ∧ q.isZero = false := by
  obtain ⟨q', value, checked⟩ := of_bind_ok ok
  cases zero : q'.isZero with
  | true =>
    rw [zero] at checked
    cases checked
  | false =>
    rw [zero] at checked
    obtain rfl := Except.ok.inj checked
    exact ⟨value, zero⟩

/-- **An elementary operation makes a grid of the same rank.** There is a case for each; the ones on columns are
looked at in the transposed grid, where they are operations on rows. -/
theorem Makes.sameRank (real : m.grid.IsReal) {change : Mutation} (elementary : m.IsElementary change)
    {g : Grid m.rowCount m.columnCount} (makes : m.Makes change g) : m.grid.SameRank g := by
  cases elementary with
  | swapRows a b =>
    cases makes
    exact real.sameRank_swapRows _ _
  | swapColumns a b =>
    cases makes
    apply Grid.SameRank.of_transpose
    rw [Grid.transpose_swapColumns]
    exact real.transpose.sameRank_swapRows _ _
  | multiplyRow realS nonzero =>
    cases makes with
    | multiplyRow row scalar => exact real.sameRank_multiplyRow _ (realS _ scalar) (nonzero _ scalar)
  | divideRow realD nonzero =>
    cases makes with
    | divideRow row divisor divided =>
      obtain ⟨value, nonzero⟩ := of_divisor_ok divisor
      exact real.sameRank_divideRow? (realD _ value) nonzero divided
  | multiplyColumn realS nonzero =>
    cases makes with
    | multiplyColumn column scalar =>
      apply Grid.SameRank.of_transpose
      rw [Grid.transpose_multiplyColumn]
      exact real.transpose.sameRank_multiplyRow _ (realS _ scalar) (nonzero _ scalar)
  | divideColumn realD nonzero =>
    cases makes with
    | divideColumn column divisor divided =>
      obtain ⟨value, nonzero⟩ := of_divisor_ok divisor
      apply Grid.SameRank.of_transpose
      exact real.transpose.sameRank_divideRow? (realD _ value) nonzero divided
  | addRow different realS =>
    cases makes with
    | addRow row row' scalar => exact real.sameRank_addRow (different _ _ row row') (realS _ scalar)

/-- Elementary operations keep the rank, whether they succeed or not. -/
theorem sameRank_mutate (real : m.grid.IsReal) {change : Mutation} (elementary : m.IsElementary change) :
    ∃ g, (m.mutate change).1 = m.withGrid g ∧ m.grid.SameRank g := by
  cases outcome : (m.mutate change).2.outcome with
  | error e =>
    exact ⟨m.grid, mutate_eq_self_of_error m change e outcome, real, rfl⟩
  | ok done =>
    obtain ⟨-, ok, leaves⟩ := of_mutate_ok outcome
    exact ⟨_, leaves, (edit_makes ok).sameRank real elementary⟩

/-- A matrix with arithmetic that is asked for its rank answers with the number of rows, if there is one. -/
theorem outcome_answer_rank_iff {r : ℕ} :
    (m.answer .rank).outcome = .ok (.int r) ↔ m.form.hasArithmetic = true ∧ m.grid.rank? = some r := by
  rw [answer, Logged.outcome_bind]
  cases offered : m.form.hasArithmetic with
  | false =>
    have refused : (m.requireArithmetic "rank" : Logged Unit).outcome = _ := if_neg (by simp [offered])
    rw [refused]
    exact iff_of_false nofun (fun h => Bool.false_ne_true h.1)
  | true =>
    have arithmetic : (m.requireArithmetic "rank" : Logged Unit).outcome = .ok () := if_pos offered
    rw [arithmetic, Grid.rank?]
    show (m.rank >>= fun r => pure (Operand.int r)).outcome = _ ↔ _
    rw [Logged.outcome_bind, rank]
    cases m.grid.echelon.result? with
    | none => exact iff_of_false nofun (fun h => nomatch h.2)
    | some h =>
      show Except.ok (Operand.int h.nonzeroRows) = _ ↔ _
      simp

/-- **The rank of a real matrix** is answered with, as an integer, by every matrix that can be reduced,
including a matrix that is read-only. -/
theorem outcome_answer_rank (offered : m.form.hasArithmetic = true) (real : m.grid.IsReal) :
    (m.answer .rank).outcome = .ok (.int m.grid.re.rank) :=
  outcome_answer_rank_iff.mpr ⟨offered, real.rank?_eq⟩

/-- **The rank on the real axis** is the dimension of the row space, and the matrix stays as it was. The
transposed matrix has the same rank, and elementary operations keep it. The rank of a product is at most
the rank of each factor. -/
theorem rank_of_isReal (m : Matrix) (offered : m.form.hasArithmetic = true) (real : m.grid.IsReal) :
    (m.answer .rank).outcome = .ok (.int (Module.finrank ℚ (rowSpace m.grid.re))) ∧
      (m.respond .rank).1 = m ∧
      (m.transpose.answer .rank).outcome = (m.answer .rank).outcome ∧
      (∀ change, m.IsElementary change →
        ((m.mutate change).1.answer .rank).outcome = (m.answer .rank).outcome) ∧
      ∀ o : Matrix, o.form.hasArithmetic = true → o.grid.IsReal → o.rowCount = m.columnCount →
        ∃ (p : Matrix) (r s t : ℕ), m.multiply o = .ok p ∧ (p.answer .rank).outcome = .ok (.int r) ∧
          (m.answer .rank).outcome = .ok (.int s) ∧ (o.answer .rank).outcome = .ok (.int t) ∧
          r ≤ min s t := by
  have answer := outcome_answer_rank offered real
  refine ⟨?_, rfl, ?_, ?_, ?_⟩
  · rw [answer, Matrix.rank_eq_finrank_rowSpace]
  · have transposed := outcome_answer_rank (m := m.transpose) rfl real.transpose
    have rank : m.grid.transpose.re.rank = m.grid.re.rank := by
      rw [Grid.re_transpose, Matrix.rank_transpose]
    rw [transposed, answer]
    exact congrArg (fun r : ℕ => Except.ok (Operand.int r)) rank
  · intro change elementary
    obtain ⟨g, leaves, realG, rank⟩ := sameRank_mutate real elementary
    rw [leaves, outcome_answer_rank (m := m.withGrid g) offered realG, answer]
    exact congrArg (fun r : ℕ => Except.ok (Operand.int r)) rank
  · intro o offeredO realO fits
    obtain ⟨realP, product⟩ := real.multiply (realO.cast fits rfl)
    refine ⟨_, _, _, _, dif_pos fits, outcome_answer_rank rfl realP, answer,
      outcome_answer_rank offeredO realO, ?_⟩
    have bound := Matrix.rank_mul_le m.grid.re (o.grid.cast fits rfl).re
    rwa [← product, Grid.rank_re_cast] at bound

/-- The rows `0 2 1/2` and `0 4 1`, in numbers of both kinds: the second one is twice the first one. -/
theorem rank_of_dependent_rows :
    let half : Quantity := .rational (.reduce 1 2 Nat.two_pos)
    let m := ofGrid (#v[#v[0, .complex ⟨.ofInt 2, 0⟩, half], #v[0, .rational (.ofInt 4), 1]] : Grid 2 3)
      Nat.two_pos (Nat.succ_pos 2)
    let change := Mutation.addRow (.int 1) (.int 0) (.int (-2))
    (m.respond .rank).1 = m ∧ (m.transpose.answer .rank).outcome = .ok (.int 1) ∧
      ((m.mutate change).1.answer .rank).outcome = .ok (.int 1) ∧
      ∃ (p : Matrix) (r : ℕ), m.multiply m.transpose = .ok p ∧
        (p.answer .rank).outcome = .ok (.int r) ∧ r ≤ 1 := by
  intro half m change
  have real : m.grid.IsReal := by decide
  have one : (m.answer .rank).outcome = .ok (.int 1) :=
    outcome_answer_rank_iff.mpr ⟨rfl, by decide +kernel⟩
  have elementary : m.IsElementary change := by
    refine .addRow (fun i k row row' => ?_) (fun q value => ?_)
    · cases row
      cases row'
      decide
    · cases value
      rfl
  obtain ⟨-, leaves, transposed, kept, products⟩ := rank_of_isReal m rfl real
  obtain ⟨p, r, s, t, product, rankP, rankM, -, le⟩ :=
    products m.transpose rfl real.transpose rfl
  have same : s = 1 := by
    rw [one] at rankM
    cases rankM
    rfl
  exact ⟨leaves, transposed.trans one, (kept change elementary).trans one, p, r, product, rankP,
    (le.trans (min_le_left s t)).trans_eq same⟩

end Matrix

end ExactAlgebra
