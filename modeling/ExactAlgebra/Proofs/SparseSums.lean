import ExactAlgebra.Proofs.Kinds
import ExactAlgebra.Proofs.SparseForms

/-!
# Sums of sparse entries

Several entries of a sparse matrix may lie at the same place. Its matrix is made by going through the entries
and adding each of them to the cell at its place, beginning with zeros. An entry changes no other cell, so a
cell ends up as the sum of the entries at its place, in their order. Sums of quantities do not depend on the
order, not even in their kind: a sum is complex as soon as one of its terms is, whether the imaginary parts
cancel or not.

## Main definitions

* `Operand.IsFinite`: an element all of whose floats are finite.
* `SparseMatrix.Holds`: the sparse matrices of a type of elements.
* `Grid.addEntries`: the loop over the entries.
* `Matrix.IsSumOf`: each cell is the sum of the entries at its place.

## Main statements

* `ElementType.Holds.exists_toCell`: finite elements are quantities.
* `Grid.cell_addEntry`, `Grid.cell_addEntries`: what one entry and all entries do to a cell.
* `SparseMatrix.rows_addEntries`: the loop computes the sums of all places.
* `SparseMatrix.cellSum_perm`: the order of the entries does not matter.
* `Matrix.ofSparse_adds_up`: the matrix of a sparse matrix.
-/

namespace ExactAlgebra

/-! ## Finite elements -/

/-- The float is a number. -/
def FloatValue.IsFinite (x : FloatValue) : Prop :=
  ∃ negative significand power, x = .finite negative significand power

/-- No float in an element is infinite or undefined. -/
def Operand.IsFinite : Operand → Prop
  | .double bits _ => (BinaryFormat.double.decode bits).IsFinite
  | .single bits _ => (BinaryFormat.single.decode bits).IsFinite
  | .doublePair re im _ =>
    (BinaryFormat.double.decode re).IsFinite ∧ (BinaryFormat.double.decode im).IsFinite
  | _ => True

/-- A finite float stands for a fraction. There is no bound on how small or how large it may be. -/
theorem FloatValue.IsFinite.exists_ofFloat {x : FloatValue} (finite : x.IsFinite) :
    ∃ a, Rational.ofFloat x = .ok a := by
  obtain ⟨negative, significand, power, rfl⟩ := finite
  exact ⟨_, rfl⟩

namespace Quantity

/-- Only quantities that are not real stay complex in the narrowest kind. -/
theorem kind_demote {q : Quantity} : q.demote.kind = .complex ↔ q.isReal = false := by
  obtain ⟨onAxis, offAxis⟩ := q.demote_cases
  cases real : q.isReal with
  | true =>
    obtain ⟨a, same⟩ := onAxis real
    rw [same]
    exact iff_of_false nofun nofun
  | false =>
    rw [offAxis real]
    cases q with
    | rational a => cases real
    | complex z => exact iff_of_true rfl rfl

/-- Bringing a quantity to the narrowest kind does not move it off the real axis or onto it. -/
theorem isReal_demote (q : Quantity) : q.demote.isReal = q.isReal := by
  have im : q.demote.im = q.im := (sameValue_iff.mp q.demote_sameValue).2
  rw [Bool.eq_iff_iff, isReal_iff, isReal_iff, im]

end Quantity

namespace ElementType.Holds

variable {t : ElementType} {v : Operand}

/-- **Finite elements** are quantities. -/
theorem exists_toCell (held : t.Holds v) (finite : v.IsFinite) : ∃ q, v.toCell = .ok q := by
  cases held with
  | flag | integer => exact ⟨_, rfl⟩
  | half | double | single =>
    obtain ⟨a, ok⟩ := finite.exists_ofFloat
    exact ⟨.rational a, congrArg (Except.map Quantity.rational) ok⟩
  | singlePair | doublePair =>
    obtain ⟨re, re_ok⟩ := finite.1.exists_ofFloat
    obtain ⟨im, im_ok⟩ := finite.2.exists_ofFloat
    refine ⟨Quantity.demote (.complex ⟨re, im⟩), ?_⟩
    rw [Operand.toCell, re_ok, im_ok]
    rfl

/-- An element is of the complex kind only off the real axis. -/
theorem kind_cell (held : t.Holds v) {q : Quantity} (ok : v.toCell = .ok q) :
    q.kind = .complex ↔ q.isReal = false := by
  have rational {x : Except Error Rational} (ok : x.map Quantity.rational = .ok q) :
      q.kind = .complex ↔ q.isReal = false := by
    cases x with
    | error e => cases ok
    | ok a =>
      cases ok
      exact iff_of_false nofun nofun
  cases held with
  | flag | integer =>
    cases ok
    exact iff_of_false nofun nofun
  | half | single | double => exact rational ok
  | singlePair | doublePair =>
    obtain ⟨re, -, rest⟩ := of_bind_ok ok
    obtain ⟨im, -, same⟩ := of_bind_ok rest
    cases same
    rw [Quantity.kind_demote, Quantity.isReal_demote]

end ElementType.Holds

/-! ## Sparse matrices -/

namespace SparseMatrix

/-- The entries are elements of the type, at places inside the shape. -/
structure Holds (s : SparseMatrix) (t : ElementType) : Prop where
  value : ∀ e ∈ s.entries, t.Holds e.value
  row : ∀ e ∈ s.entries, 0 ≤ e.row ∧ e.row < s.rowCount
  column : ∀ e ∈ s.entries, 0 ≤ e.column ∧ e.column < s.columnCount

/-- The check of one axis looks at the greatest and the least index only. If both of them are inside of the
shape, then so is every other index. -/
theorem of_checkAxis {axis count : ℕ} {indices : List ℤ} {done : Unit}
    (ok : checkAxis axis count indices = .ok done) : ∀ i ∈ indices, 0 ≤ i ∧ i < count := by
  intro i mem
  unfold checkAxis at ok
  cases greatest : indices.max? with
  | none =>
    rw [List.max?_eq_none_iff] at greatest
    rw [greatest] at mem
    cases mem
  | some a =>
    cases least : indices.min? with
    | none =>
      rw [List.min?_eq_none_iff] at least
      rw [least] at mem
      cases mem
    | some b =>
      have le : i ≤ a := (List.max?_eq_some_iff.mp greatest).2 i mem
      have ge : b ≤ i := (List.min?_eq_some_iff.mp least).2 i mem
      rw [greatest, least] at ok
      dsimp only at ok
      split at ok
      · cases ok
      · split at ok
        · cases ok
        · omega

/-- Arranging the entries by rows or by columns neither loses an entry nor adds one. -/
theorem mem_arrange {α : Type} {o : Order} {entries : List (SparseEntry α)} {e : SparseEntry α} :
    e ∈ o.arrange entries ↔ e ∈ entries := by
  cases o with
  | given => exact Iff.rfl
  | byRow | byColumn => exact List.mem_mergeSort

/-- The sparse matrices that are made of entries hold elements at places inside the shape. -/
theorem holds_of_ofEntries {t : ElementType} {o : Order} {m n : ℕ} {entries : List (SparseEntry Operand)}
    {s : SparseMatrix} (made : ofEntries t o m n entries = .ok s) : s.Holds t := by
  obtain ⟨stored, store, rest⟩ := of_bind_ok made
  split at rest
  case isTrue => cases rest
  case isFalse numbers =>
    obtain ⟨_, rows, rest⟩ := of_bind_ok rest
    obtain ⟨_, columns, same⟩ := of_bind_ok rest
    cases same
    have inside : ∀ e ∈ entries, (0 ≤ e.row ∧ e.row < m) ∧ 0 ≤ e.column ∧ e.column < n := fun e mem =>
      ⟨of_checkAxis rows _ (List.mem_map_of_mem mem), of_checkAxis columns _ (List.mem_map_of_mem mem)⟩
    have related := ((List.forall₂_and_left _ _).mpr ⟨inside, mapM_eq_ok_iff.mp store⟩).flip
    have all : ∀ e ∈ stored, t.Holds e.value ∧ (0 ≤ e.row ∧ e.row < m) ∧ 0 ≤ e.column ∧ e.column < n := by
      refine forall_mem_of_forall₂ related fun e' e ⟨here, ok⟩ => ?_
      obtain ⟨v, value, same⟩ := of_bind_ok ok
      cases same
      exact ⟨ElementType.holds_of_store numbers value, here⟩
    exact
      { value := fun e mem => (all e (mem_arrange.mp mem)).1
        row := fun e mem => (all e (mem_arrange.mp mem)).2.1
        column := fun e mem => (all e (mem_arrange.mp mem)).2.2 }

/-- The entries at a place. -/
def entriesAt (entries : List (SparseEntry Quantity)) (i j : ℤ) : List (SparseEntry Quantity) :=
  entries.filter fun e => place e = (i, j)

/-- The sum at a place is the sum of the entries at this place, one added to the other in the order in which
they are listed. -/
theorem cellSum_eq (entries : List (SparseEntry Quantity)) (i j : ℤ) :
    cellSum entries i j = (entriesAt entries i j).foldl (fun sum e => sum + e.value) (.rational 0) := by
  rw [cellSum, entriesAt]
  congr 1
  refine List.filter_congr fun e _ => ?_
  rw [Bool.eq_iff_iff, isAt_iff, decide_eq_true_iff]

end SparseMatrix

/-! ## The loop over the entries -/

namespace Grid

open SparseMatrix (place entriesAt)

variable {m n : ℕ}

/-- The grid after an entry was added to the cell at its place. -/
def addEntry (g : Grid m n) (e : SparseEntry Quantity) : Grid m n :=
  if inside : (0 ≤ e.row ∧ e.row < m) ∧ 0 ≤ e.column ∧ e.column < n then
    let i : Fin m := ⟨e.row.toNat, by omega⟩
    let j : Fin n := ⟨e.column.toNat, by omega⟩
    g.setCell i j (g.cell i j + e.value)
  else g

/-- The grid after all entries were added, one after the other. -/
def addEntries (g : Grid m n) (entries : List (SparseEntry Quantity)) : Grid m n :=
  entries.foldl addEntry g

/-- **One entry** changes the cell at its place and no other one. -/
theorem cell_addEntry (g : Grid m n) (e : SparseEntry Quantity) (i : Fin m) (j : Fin n) :
    (g.addEntry e).cell i j = if place e = (↑↑i, ↑↑j) then g.cell i j + e.value else g.cell i j := by
  rw [addEntry, place]
  split
  case isTrue inside =>
    have here : (e.row, e.column) = ((↑↑i, ↑↑j) : ℤ × ℤ) ↔
        i = ⟨e.row.toNat, by omega⟩ ∧ j = ⟨e.column.toNat, by omega⟩ := by
      rw [Prod.mk.injEq, Fin.ext_iff, Fin.ext_iff]
      show _ ↔ i.val = e.row.toNat ∧ j.val = e.column.toNat
      omega
    rw [cell_setCell]
    by_cases same : (e.row, e.column) = ((↑↑i, ↑↑j) : ℤ × ℤ)
    · obtain ⟨row, column⟩ := here.mp same
      rw [if_pos same, if_pos ⟨row, column⟩, ← row, ← column]
    · rw [if_neg same, if_neg (mt here.mpr same)]
  case isFalse outside =>
    rw [if_neg]
    rw [Prod.mk.injEq]
    rintro ⟨row, column⟩
    omega

/-- **All entries** add those at its place to a cell, in their order. -/
theorem cell_addEntries (g : Grid m n) (entries : List (SparseEntry Quantity)) (i : Fin m) (j : Fin n) :
    (g.addEntries entries).cell i j =
      (entriesAt entries i j).foldl (fun sum e => sum + e.value) (g.cell i j) := by
  unfold addEntries entriesAt
  induction entries generalizing g with
  | nil => rfl
  | cons e entries ih =>
    rw [List.foldl_cons, ih, cell_addEntry, List.filter_cons]
    by_cases here : place e = (↑↑i, ↑↑j)
    · rw [if_pos here, if_pos (decide_eq_true here), List.foldl_cons]
    · rw [if_neg here, if_neg (mt of_decide_eq_true here)]

theorem cell_filled (q : Quantity) (i : Fin m) (j : Fin n) : (filled m n q).cell i j = q := by
  simp [filled, cell, get_eq_getElem]

theorem rows_eq_map {g : Grid m n} {f : ℕ → ℕ → Quantity}
    (cells : ∀ (i : Fin m) (j : Fin n), g.cell i j = f i j) :
    g.rows = (List.range m).map fun i => (List.range n).map (f i) := by
  refine List.ext_getElem (by simp) fun i row _ => ?_
  rw [length_rows] at row
  refine List.ext_getElem (by simp [rows]) fun j column _ => ?_
  have lt : j < n := by simpa [rows] using column
  simpa [rows, cell, get_eq_getElem] using cells ⟨i, row⟩ ⟨j, lt⟩

end Grid

/-! ## Sums of entries -/

theorem Quantity.add_right_comm (a b c : Quantity) : a + b + c = a + c + b := by
  apply eq_of_kind_of_value
  · rw [kind_add, kind_add, kind_add, kind_add, NumberKind.widest_assoc, NumberKind.widest_assoc,
      NumberKind.widest_comm b.kind]
  · rw [value_add, value_add, value_add, value_add]
    ring

namespace SparseMatrix

variable {entries : List (SparseEntry Quantity)}

/-- **The loop** over the entries computes the sums of all places. -/
theorem rows_addEntries (m n : ℕ) (entries : List (SparseEntry Quantity)) :
    ((Grid.filled m n (.rational 0)).addEntries entries).rows = sums m n entries := by
  refine Grid.rows_eq_map fun i j => ?_
  rw [Grid.cell_addEntries, cellSum_eq, Grid.cell_filled]

/-- **The order of the entries makes no difference** to the sum at a place: not to its value, and not even to
its kind or its terms, as sums of quantities may be rearranged. -/
theorem cellSum_perm {entries' : List (SparseEntry Quantity)} (order : entries.Perm entries') (i j : ℤ) :
    cellSum entries i j = cellSum entries' i j :=
  (order.filter _).foldl_eq' (fun _ _ _ _ sum => sum.add_right_comm _ _) _

/-- The sum at a place is the sum of numbers. -/
theorem value_cellSum (entries : List (SparseEntry Quantity)) (i j : ℤ) :
    (cellSum entries i j).value = ((entriesAt entries i j).map fun e => e.value.value).sum := by
  have sums (es : List (SparseEntry Quantity)) (total : Quantity) :
      (es.foldl (fun sum e => sum + e.value) total).value =
        total.value + (es.map fun e => e.value.value).sum := by
    induction es generalizing total with
    | nil => exact (add_zero _).symm
    | cons e es ih => rw [List.foldl_cons, ih, Quantity.value_add, List.map_cons, List.sum_cons, add_assoc]
  rw [cellSum_eq, sums]
  exact (congrArg (· + _) Quantity.value_zero).trans (zero_add _)

/-- The sum at a place is complex as soon as an entry there is. -/
theorem kind_cellSum (entries : List (SparseEntry Quantity)) (i j : ℤ) :
    (cellSum entries i j).kind = .complex ↔ ∃ e ∈ entriesAt entries i j, e.value.kind = .complex := by
  have widened (es : List (SparseEntry Quantity)) (total : Quantity) :
      (es.foldl (fun sum e => sum + e.value) total).kind = .complex ↔
        total.kind = .complex ∨ ∃ e ∈ es, e.value.kind = .complex := by
    induction es generalizing total with
    | nil => simp
    | cons e es ih =>
      rw [List.foldl_cons, ih, Quantity.kind_add, NumberKind.widest_eq_complex, List.exists_mem_cons_iff,
        or_assoc]
  rw [cellSum_eq, widened]
  exact or_iff_right nofun

end SparseMatrix

/-! ## The matrix of a sparse matrix -/

/-- An entry with the quantity that its value is. -/
def SparseEntry.cell (e : SparseEntry Operand) : SparseEntry Quantity := { e with value := e.value.cell }

namespace SparseMatrix

variable {s : SparseMatrix} {t : ElementType}

/-- Entries with finite values are converted without a fault, in whichever order the matrix holds them. -/
theorem convert_eq (held : s.Holds t) (finite : ∀ e ∈ s.entries, e.value.IsFinite)
    {order : List (SparseEntry Operand)} (same : order.Perm s.entries) :
    convert order = .ok (order.map SparseEntry.cell) := by
  refine mapM_eq_ok fun e mem => ?_
  have mem := same.mem_iff.mp mem
  rw [Operand.toCell_eq_cell ((held.value e mem).exists_toCell (finite e mem))]
  rfl

end SparseMatrix

namespace Matrix

open SparseMatrix (entriesAt)

/-- Each cell of the matrix is the sum of the entries at its place, and complex if one of these is not real. -/
structure IsSumOf (M : Matrix) (entries : List (SparseEntry Quantity)) : Prop where
  value : ∀ (i : Fin M.rowCount) (j : Fin M.columnCount),
    (M.grid.cell i j).value = ((entriesAt entries i j).map fun e => e.value.value).sum
  kind : ∀ (i : Fin M.rowCount) (j : Fin M.columnCount),
    (M.grid.cell i j).kind = .complex ↔ ∃ e ∈ entriesAt entries i j, e.value.isReal = false

/-- The matrix that the loop leaves is the matrix of the sums. A sum is complex just if one of its terms is,
because the zero at the beginning is rational. -/
theorem isSumOf_ofShape {m n : ℕ} {entries : List (SparseEntry Quantity)}
    (kinds : ∀ e ∈ entries, e.value.kind = .complex ↔ e.value.isReal = false)
    (rows_pos : 0 < m) (columns_pos : 0 < n) :
    (ofShape ((Grid.filled m n (.rational 0)).addEntries entries) rows_pos columns_pos).IsSumOf entries := by
  have cell (i : Fin m) (j : Fin n) :
      ((Grid.filled m n (.rational 0)).addEntries entries).cell i j = SparseMatrix.cellSum entries i j := by
    rw [Grid.cell_addEntries, Grid.cell_filled, SparseMatrix.cellSum_eq]
  have kind (i j : ℤ) : (SparseMatrix.cellSum entries i j).kind = .complex ↔
      ∃ e ∈ entriesAt entries i j, e.value.isReal = false := by
    rw [SparseMatrix.kind_cellSum]
    exact exists_congr fun e => and_congr_right fun mem => kinds e (List.mem_of_mem_filter mem)
  unfold ofShape
  split
  all_goals exact
    { value := fun i j => (congrArg Quantity.value (cell i j)).trans (SparseMatrix.value_cellSum _ _ _)
      kind := fun i j => (congrArg (Quantity.kind · = _) (cell i j)).to_iff.trans (kind i j) }

/-- **The matrix of a sparse matrix** is what a grid of zeros becomes when the entries are added one after the
other, in whichever order they are listed. Each of its cells is the exact sum of the entries at its place, and
complex exactly if one of them is not real. It is square in form exactly if its shape is. -/
theorem ofSparse_adds_up {s : SparseMatrix} {t : ElementType} (held : s.Holds t)
    (finite : ∀ e ∈ s.entries, e.value.IsFinite) (rows_pos : 0 < s.rowCount) (columns_pos : 0 < s.columnCount) :
    ∃ entries M, SparseMatrix.convert s.entries = .ok entries ∧
      M = ofShape ((Grid.filled s.rowCount s.columnCount (.rational 0)).addEntries entries) rows_pos columns_pos ∧
      (∀ order : List (SparseEntry Operand), order.Perm s.entries →
        (ofSparse { s with entries := order }).outcome = .ok M) ∧
      M.rowCount = s.rowCount ∧ M.columnCount = s.columnCount ∧ M.IsSumOf entries ∧
      M.form = if s.rowCount = s.columnCount then .square else .general := by
  have converted {order : List (SparseEntry Operand)} (same : order.Perm s.entries) :=
    SparseMatrix.convert_eq held finite same
  have kinds : ∀ e ∈ s.entries.map SparseEntry.cell,
      e.value.kind = .complex ↔ e.value.isReal = false := by
    refine List.forall_mem_map.mpr fun e mem => (held.value e mem).kind_cell ?_
    exact Operand.toCell_eq_cell ((held.value e mem).exists_toCell (finite e mem))
  refine ⟨_, _, converted (.refl _), rfl, fun order same => ?_, rowCount_ofShape .., columnCount_ofShape ..,
    isSumOf_ofShape kinds rows_pos columns_pos, form_ofShape ..⟩
  have sums : SparseMatrix.sums s.rowCount s.columnCount (order.map SparseEntry.cell) =
      SparseMatrix.sums s.rowCount s.columnCount (s.entries.map SparseEntry.cell) := by
    unfold SparseMatrix.sums
    simp only [SparseMatrix.cellSum_perm (same.map _)]
  refine (outcome_ofSparse (s := { s with entries := order }) rows_pos columns_pos).trans ?_
  rw [converted same]
  show (fromRows (SparseMatrix.sums _ _ _)).outcome = _
  rw [sums, ← SparseMatrix.rows_addEntries]
  exact outcome_fromRows _ rows_pos columns_pos

/-- The entries `1+2i` and `1-2i` at one place, with an entry `3` at another one between them. -/
def conjugateEntries : List (SparseEntry Operand) :=
  [⟨0, 0, .doublePair 0x3ff0000000000000 0x4000000000000000 none⟩, ⟨1, 1, .doublePair 0x4008000000000000 0 none⟩,
    ⟨0, 0, .doublePair 0x3ff0000000000000 0xc000000000000000 none⟩]

/-- The sum of two conjugates is a complex number without an imaginary part, whichever comes first. -/
theorem ofSparse_of_conjugates :
    ∃ s M, SparseMatrix.ofEntries .doublePair .given 2 2 conjugateEntries = .ok s ∧
      (ofSparse s).outcome = .ok M ∧ (ofSparse { s with entries := s.entries.reverse }).outcome = .ok M ∧
      M.form = .square ∧ M.rows = [[.complex ⟨.ofInt 2, 0⟩, 0], [0, .rational (.ofInt 3)]] := by
  have made : SparseMatrix.ofEntries .doublePair .given 2 2 conjugateEntries =
      .ok ⟨2, 2, conjugateEntries⟩ := rfl
  have finite : ∀ e ∈ conjugateEntries, e.value.IsFinite :=
    List.forall_mem_cons.mpr ⟨⟨⟨_, _, _, rfl⟩, _, _, _, rfl⟩, List.forall_mem_cons.mpr
      ⟨⟨⟨_, _, _, rfl⟩, _, _, _, rfl⟩, List.forall_mem_singleton.mpr ⟨⟨_, _, _, rfl⟩, _, _, _, rfl⟩⟩⟩
  have held := SparseMatrix.holds_of_ofEntries made
  obtain ⟨entries, M, converted, grid, outcome, -, -, -, form⟩ :=
    ofSparse_adds_up held finite Nat.two_pos Nat.two_pos
  obtain rfl := Except.ok.inj ((SparseMatrix.convert_eq held finite (.refl _)).symm.trans converted)
  refine ⟨_, M, made, outcome _ (.refl _), outcome _ (List.reverse_perm _), form, ?_⟩
  rw [grid, rows_ofShape]
  decide +kernel

end Matrix

end ExactAlgebra
