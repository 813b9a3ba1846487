import ExactAlgebra.Exchange.Array
import ExactAlgebra.Exchange.Sparse
import ExactAlgebra.Proofs.AlikeArguments
import ExactAlgebra.Proofs.MatrixGrammar
import ExactAlgebra.Proofs.Widening

/-!
# Sparse forms of arrays

A sparse form of an array of two dimensions lists some of its elements with their places, each place at most
once and in any order. What is not listed is zero.

The matrix of the array and the matrix of its sparse form are made in different ways. The elements of an array
are taken as plain values and split into rows. The entries of a sparse form are numbers as arrays hold them,
and each of them is added to the zero at its place. Both ways lead to the same matrix, or both fail at a float
that is not finite, if the elements are numbers: a number of single precision and the double that it is as a
plain value stand for the same fraction.

Truth values are taken for one and zero as arrays hold them, and refused as plain values. So an array of them
has no matrix, while its sparse forms have one.

## Main definitions

* `ElementType.Holds`: the elements of arrays of a type.
* `SparseMatrix.IsFormOf`: the sparse forms of an array.
* `Matrix.HasElements`: the matrix of the elements of an array.

## Main statements

* `ElementType.Holds.toCell_unboxed`: an element as a plain value.
* `SparseMatrix.cellSum_of_mem`: the sum at a place with one entry.
* `Matrix.outcome_ofSparse_of_isFormOf`: the matrix of a sparse form.
* `Matrix.ofArray_ofSparse`: the two matrices of an array.
-/

namespace ExactAlgebra

open BinaryFormat

/-! ## Elements of arrays -/

/-- The value is an element of arrays of the type. -/
inductive ElementType.Holds : ElementType → Operand → Prop
  | flag (b : Bool) : Holds .flag (.flag b)
  | integer (width : ℕ) (signed : Bool) (n : ℤ) : Holds (.integer width signed) (.wordInt n)
  | half (bits : ℕ) (mark : Mark) : Holds .half (.double bits mark)
  | single (bits : ℕ) (mark : Mark) : Holds .single (.single bits mark)
  | double (bits : ℕ) (mark : Mark) : Holds .double (.double bits mark)
  | singlePair (re im : ℕ) (mark : Mark) : Holds .singlePair (.doublePair re im mark)
  | doublePair (re im : ℕ) (mark : Mark) : Holds .doublePair (.doublePair re im mark)

/-- What is stored in an array is one of its elements. -/
theorem ElementType.holds_of_store {t : ElementType} {v w : Operand} (numbers : t ≠ .object)
    (stored : t.store v = .ok w) : t.Holds w := by
  cases t with
  | object => exact absurd rfl numbers
  | flag | half | single | double =>
    obtain ⟨b, -, rest⟩ := of_bind_ok stored
    cases rest
    constructor
  | integer width signed =>
    obtain ⟨n, -, rest⟩ := of_bind_ok stored
    obtain ⟨n, -, rest⟩ := of_bind_ok rest
    cases rest
    constructor
  | singlePair | doublePair =>
    obtain ⟨pair, -, rest⟩ := of_bind_ok stored
    cases rest
    constructor

/-- The error names a float that is not finite. -/
def Error.NamesNonFinite (e : Error) : Prop := ∃ x, e = .numeral (.notFinite x)

/-- A float has no fraction only if it is not finite, and the error names it. This is the one fault that
elements of arrays can have. -/
theorem Rational.failsOnly_ofFloat (x : FloatValue) : FailsOnly Error.NamesNonFinite (Rational.ofFloat x) := by
  rw [Rational.ofFloat]
  cases Rational.ofFloat? x with
  | none =>
    rintro e ⟨⟩
    exact ⟨x, rfl⟩
  | some a => exact .ok a

/-- A zero of either sign stands for zero. -/
theorem ofFloat_of_isZero {x : FloatValue} (zero : x.toExtended.isZero = true) :
    Rational.ofFloat x = .ok 0 := by
  have same : x.toExtended = (FloatValue.finite false 0 0).toExtended := by
    cases value : x.toExtended with
    | finite a =>
      rw [value] at zero
      rw [Rational.isZero_iff.mp zero]
      rfl
    | infinite | undefined =>
      rw [value] at zero
      cases zero
  rw [Operand.ofFloat_of_toExtended_eq same]
  rfl

/-- A float that is zero stands for the number zero, with either sign; what is dropped is the sign, which no
fraction has. -/
theorem FloatValue.isZero_toExtended {x : FloatValue} (zero : x.isZero = true) :
    x.toExtended.isZero = true := by
  cases x with
  | infinite | undefined => cases zero
  | finite negative significand power =>
    obtain rfl : significand = 0 := beq_iff_eq.mp zero
    rw [toExtended_of_toRational? (toRational?_zero negative power)]
    rfl

namespace ElementType.Holds

variable {t : ElementType} {v : Operand}

/-- The only elements without a number are floats that are not finite. -/
theorem failsOnly_toCell (held : t.Holds v) : FailsOnly Error.NamesNonFinite v.toCell := by
  have part := Rational.failsOnly_ofFloat
  cases held with
  | flag | integer => exact .ok _
  | half | double | single => exact (part _).bind fun a => .ok _
  | singlePair | doublePair => exact (part _).bind fun re => (part _).bind fun im => .ok _

/-- An element that counts as false is zero. -/
theorem toCell_of_not_counts (held : t.Holds v) (zero : v.counts = false) :
    v.toCell = .ok (.rational 0) := by
  cases held with
  | flag b =>
    cases b with
    | false => rfl
    | true => cases zero
  | integer width signed n =>
    have none : Rational.ofInt n = 0 := Rational.isZero_iff.mp (Bool.not_inj (y := true) zero)
    exact congrArg (fun a => Except.ok (Quantity.rational a)) none
  | half bits | double bits | single bits =>
    exact congrArg (Except.map Quantity.rational) (ofFloat_of_isZero (Bool.not_inj (y := true) zero))
  | singlePair re im | doublePair re im =>
    obtain ⟨re_zero, im_zero⟩ := Bool.and_eq_true_iff.mp (Bool.not_inj (y := true) zero)
    rw [Operand.toCell, ofFloat_of_isZero (FloatValue.isZero_toExtended re_zero),
      ofFloat_of_isZero (FloatValue.isZero_toExtended im_zero)]
    rfl

/-- **An element as a plain value** stands for the same number, unless it is a truth value. -/
theorem toCell_unboxed (held : t.Holds v) (numbers : t ≠ .flag) : v.unboxed.toCell = v.toCell := by
  cases held with
  | flag => exact absurd rfl numbers
  | single bits =>
    exact congrArg (Except.map Quantity.rational) (Operand.ofFloat_of_toExtended_eq (toExtended_widened bits))
  | integer | half | double | singlePair | doublePair => rfl

end ElementType.Holds

/-! ## Sums with one entry -/

/-- Adding to a rational zero gives back the quantity, with its kind. A complex zero in its place would have
made every cell complex. -/
theorem Quantity.rational_zero_add (q : Quantity) : .rational 0 + q = q := by
  have zero_add (a : Rational) : 0 + a = a := Rational.toRat_injective (by simp)
  cases q with
  | rational a => exact congrArg Quantity.rational (zero_add a)
  | complex z => exact congrArg Quantity.complex (Gaussian.ext (zero_add z.re) (zero_add z.im))

namespace SparseMatrix

/-- The place of an entry. -/
def place {α : Type} (e : SparseEntry α) : ℤ × ℤ := (e.row, e.column)

theorem isAt_iff {α : Type} {e : SparseEntry α} {i j : ℤ} :
    (e.row == i && e.column == j) = true ↔ place e = (i, j) := by
  rw [Bool.and_eq_true, beq_iff_eq, beq_iff_eq, place, Prod.mk.injEq]

variable {entries : List (SparseEntry Quantity)}

/-- Where no entry lies the sum is the rational zero that each sum begins with. -/
theorem cellSum_of_not_mem {i j : ℤ} (absent : ∀ e ∈ entries, place e ≠ (i, j)) :
    cellSum entries i j = .rational 0 := by
  have none : entries.filter (fun e => e.row == i && e.column == j) = [] :=
    List.filter_eq_nil_iff.mpr fun e mem here => absent e mem (isAt_iff.mp here)
  rw [cellSum, none]
  rfl

/-- Of entries at different places there is one at the place of an entry. -/
theorem filter_place (distinct : (entries.map place).Nodup) {e : SparseEntry Quantity} (mem : e ∈ entries) :
    entries.filter (fun e' => e'.row == e.row && e'.column == e.column) = [e] := by
  induction entries with
  | nil => cases mem
  | cons first entries ih =>
    obtain ⟨other, distinct⟩ := List.nodup_cons.mp distinct
    rcases List.mem_cons.mp mem with rfl | mem
    · have none : entries.filter (fun e' => e'.row == e.row && e'.column == e.column) = [] :=
        List.filter_eq_nil_iff.mpr fun e' mem here =>
          other (List.mem_map.mpr ⟨e', mem, isAt_iff.mp here⟩)
      refine (List.filter_cons_of_pos ?_).trans (congrArg (e :: ·) none)
      exact isAt_iff.mpr rfl
    · refine (List.filter_cons_of_neg ?_).trans (ih distinct mem)
      exact fun here => other (List.mem_map.mpr ⟨e, mem, (isAt_iff.mp here).symm⟩)

/-- **The sum at a place with one entry** is the value of the entry. -/
theorem cellSum_of_mem (distinct : (entries.map place).Nodup) {e : SparseEntry Quantity} (mem : e ∈ entries) :
    cellSum entries e.row e.column = e.value := by
  rw [cellSum, filter_place distinct mem]
  exact Quantity.rational_zero_add e.value

end SparseMatrix

/-! ## Rows of elements -/

namespace Matrix

theorem index_lt {m n i j : ℕ} (row : i < m) (column : j < n) : i * n + j < m * n :=
  calc i * n + j < (i + 1) * n := by rw [Nat.succ_mul]; omega
    _ ≤ m * n := Nat.mul_le_mul_right n row

variable {α : Type} {m n : ℕ}

/-- **Cutting a list into rows**: if the element for row `i` and column `j` is known to stand at `i * n + j`,
the rows are known as well. The induction is on the rows, and the first one is taken off the list. -/
theorem splitRows_eq_map {cells : List α} {f : ℕ → ℕ → α}
    (at_place : ∀ i < m, ∀ j < n, cells[i * n + j]? = some (f i j)) :
    splitRows n m cells = (List.range m).map fun i => (List.range n).map (f i) := by
  induction m generalizing cells f with
  | zero => rfl
  | succ m ih =>
    have first : cells.take n = (List.range n).map (f 0) := by
      refine List.ext_getElem? fun j => ?_
      by_cases column : j < n
      · have here := at_place 0 (Nat.succ_pos m) j column
        rw [Nat.zero_mul, Nat.zero_add] at here
        simp [column, here]
      · simp [column]
    have others : splitRows n m (cells.drop n) =
        (List.range m).map fun i => (List.range n).map (f (i + 1)) := by
      refine ih fun i row j column => ?_
      rw [List.getElem?_drop, ← at_place (i + 1) (Nat.succ_lt_succ row) j column]
      congr 1
      ring
    rw [splitRows, first, others, List.range_succ_eq_map, List.map_cons, List.map_map]
    rfl

/-- There are as many rows as were asked for, even if the list should be too short for them. -/
theorem length_splitRows (cells : List α) : (splitRows n m cells).length = m := by
  induction m generalizing cells with
  | zero => rfl
  | succ m ih => rw [splitRows, List.length_cons, ih]

/-- All the rows of a list of fitting length have the length that was asked for, so they make a matrix. -/
theorem length_of_mem_splitRows {cells : List α} (length : cells.length = m * n) :
    ∀ row ∈ splitRows n m cells, row.length = n := by
  induction m generalizing cells with
  | zero => exact List.forall_mem_nil _
  | succ m ih =>
    rw [Nat.succ_mul] at length
    refine List.forall_mem_cons.mpr ⟨?_, ih ?_⟩
    · rw [List.length_take, length]
      omega
    · rw [List.length_drop, length, Nat.add_sub_cancel]

/-- Nothing is lost or moved by the cutting: the rows, one after the other, are the list. -/
theorem splitRows_flatten {cells : List α} (length : cells.length = m * n) :
    (splitRows n m cells).flatten = cells := by
  induction m generalizing cells with
  | zero =>
    rw [Nat.zero_mul, List.length_eq_zero_iff] at length
    rw [length]
    rfl
  | succ m ih =>
    have others : (cells.drop n).length = m * n := by
      rw [List.length_drop, length, Nat.succ_mul, Nat.add_sub_cancel]
    rw [splitRows, List.flatten_cons, ih others, List.take_append_drop]

/-- The matrix holds what the elements of an array of two dimensions are, row by row. -/
structure HasElements (M : Matrix) (m n : ℕ) (elements : List Operand) : Prop where
  rowCount : M.rowCount = m
  columnCount : M.columnCount = n
  cells : elements.mapM Operand.toCell = .ok M.cells

/-- Equally long rows make a matrix. -/
theorem exists_fromRows {rows : List (List Quantity)} (rows_pos : 0 < rows.length) (columns_pos : 0 < n)
    (rect : ∀ row ∈ rows, row.length = n) :
    ∃ M, (fromRows rows).outcome = .ok M ∧ M.rows = rows ∧ M.rowCount = rows.length ∧ M.columnCount = n := by
  obtain ⟨g, -, same⟩ := Grid.ofListsM_ok rows n rect
  have made := outcome_fromRows g rows_pos columns_pos
  rw [same] at made
  exact ⟨_, made, (rows_ofShape ..).trans same, rowCount_ofShape .., columnCount_ofShape ..⟩

end Matrix

/-! ## The elements as quantities -/

/-- The quantity that an element is, if it is one. -/
def Operand.cell (v : Operand) : Quantity := v.toCell.toOption.getD (.rational 0)

theorem Operand.cell_of_toCell {v : Operand} {q : Quantity} (ok : v.toCell = .ok q) : v.cell = q := by
  rw [cell, ok]
  rfl

theorem Operand.toCell_eq_cell {v : Operand} (ok : ∃ q, v.toCell = .ok q) : v.toCell = .ok v.cell := by
  obtain ⟨q, ok⟩ := ok
  rw [cell_of_toCell ok, ok]

theorem Operand.mapM_toCell {elements : List Operand} (all : ∀ v ∈ elements, ∃ q, v.toCell = .ok q) :
    elements.mapM toCell = .ok (elements.map cell) :=
  mapM_eq_ok fun v mem => toCell_eq_cell (all v mem)

/-- The matrix of elements that are all quantities. -/
theorem Matrix.exists_hasElements {m n : ℕ} {elements : List Operand} (rows_pos : 0 < m) (columns_pos : 0 < n)
    (length : elements.length = m * n) (all : ∀ v ∈ elements, ∃ q, v.toCell = .ok q) :
    ∃ M, (fromRows (splitRows n m (elements.map Operand.cell))).outcome = .ok M ∧
      M.HasElements m n elements := by
  have count : (elements.map Operand.cell).length = m * n := List.length_map _ |>.trans length
  have rows : (splitRows n m (elements.map Operand.cell)).length = m := length_splitRows _
  obtain ⟨M, made, same, rowCount, columnCount⟩ :=
    exists_fromRows (rows.symm ▸ rows_pos) columns_pos (length_of_mem_splitRows count)
  refine ⟨M, made, rowCount.trans rows, columnCount, ?_⟩
  rw [Operand.mapM_toCell all, Matrix.cells, Grid.cells]
  show _ = Except.ok M.rows.flatten
  rw [same, splitRows_flatten count]

/-! ## Sparse forms -/

/-- The sparse matrix lists elements of an array of `m` rows and `n` columns, in any order. -/
structure SparseMatrix.IsFormOf (s : SparseMatrix) (m n : ℕ) (elements : List Operand) : Prop where
  rowCount : s.rowCount = m
  columnCount : s.columnCount = n
  /-- Every entry is the element at its place. -/
  inside : ∀ e ∈ s.entries, ∃ i < m, ∃ j < n, place e = (↑i, ↑j) ∧ elements[i * n + j]? = some e.value
  /-- No place is listed twice. -/
  distinct : (s.entries.map place).Nodup
  /-- No element that counts as true is left out. -/
  complete : ∀ i < m, ∀ j < n, ∀ v ∈ elements[i * n + j]?, v.counts = true →
    ∃ e ∈ s.entries, place e = (↑i, ↑j)

namespace SparseMatrix.IsFormOf

variable {s : SparseMatrix} {m n : ℕ} {elements : List Operand} {t : ElementType}
variable (form : s.IsFormOf m n elements)
include form

/-- The value of an entry is one of the elements of the array, as the entry lies at a place inside. -/
theorem value_mem {e : SparseEntry Operand} (mem : e ∈ s.entries) : e.value ∈ elements := by
  obtain ⟨i, -, j, -, -, here⟩ := form.inside e mem
  exact List.mem_of_getElem? here

/-- It is the element at the place of the entry. The place is found from the position of the entry in the list
of elements. -/
theorem getElem?_of_place {e : SparseEntry Operand} (mem : e ∈ s.entries) {i j : ℕ}
    (here : place e = (↑i, ↑j)) : elements[i * n + j]? = some e.value := by
  obtain ⟨i', -, j', -, there, value⟩ := form.inside e mem
  obtain ⟨row, column⟩ := Prod.mk.inj (there.symm.trans here)
  rwa [Int.ofNat_inj.mp row, Int.ofNat_inj.mp column] at value

/-- An element is listed or zero. -/
theorem listed_or_zero (held : ∀ v ∈ elements, t.Holds v) {i j : ℕ} (row : i < m) (column : j < n)
    {v : Operand} (here : elements[i * n + j]? = some v) :
    (∃ e ∈ s.entries, place e = (↑i, ↑j) ∧ e.value = v) ∨
      (∀ e ∈ s.entries, place e ≠ (↑i, ↑j)) ∧ v.toCell = .ok (.rational 0) := by
  by_cases listed : ∃ e ∈ s.entries, place e = (↑i, ↑j)
  · obtain ⟨e, mem, there⟩ := listed
    have same := (form.getElem?_of_place mem there).symm.trans here
    exact Or.inl ⟨e, mem, there, Option.some.inj same⟩
  · have zero : v.counts = false :=
      Bool.eq_false_iff.mpr fun counts => listed (form.complete i row j column v here counts)
    have none := (held v (List.mem_of_getElem? here)).toCell_of_not_counts zero
    exact Or.inr ⟨fun e mem there => listed ⟨e, mem, there⟩, none⟩

/-- If all entries are quantities then so are all elements. -/
theorem forall_exists_toCell (held : ∀ v ∈ elements, t.Holds v) (length : elements.length = m * n)
    (columns_pos : 0 < n) (all : ∀ e ∈ s.entries, ∃ q, e.value.toCell = .ok q) :
    ∀ v ∈ elements, ∃ q, v.toCell = .ok q := by
  intro v mem
  obtain ⟨k, here⟩ := List.mem_iff_getElem?.mp mem
  have less : k < m * n := length ▸ (List.getElem?_eq_some_iff.mp here).1
  have split : k / n * n + k % n = k := Nat.div_add_mod' k n
  rw [← split] at here
  rcases form.listed_or_zero held (Nat.div_lt_of_lt_mul (Nat.mul_comm m n ▸ less)) (Nat.mod_lt k columns_pos)
    here with ⟨e, listed, -, rfl⟩ | ⟨-, zero⟩
  · exact all e listed
  · exact ⟨_, zero⟩

/-- With quantities for all elements, the sums of the entries are the elements row by row. -/
theorem sums_eq (held : ∀ v ∈ elements, t.Holds v) (length : elements.length = m * n) :
    sums s.rowCount s.columnCount (s.entries.map fun e => { e with value := e.value.cell }) =
      Matrix.splitRows n m (elements.map Operand.cell) := by
  have places : (s.entries.map fun e => ({ e with value := e.value.cell } : SparseEntry Quantity)).map place =
      s.entries.map place := List.map_map
  have distinct := places.symm ▸ form.distinct
  rw [form.rowCount, form.columnCount, sums, Matrix.splitRows_eq_map]
  intro i row j column
  obtain ⟨v, here⟩ : ∃ v, elements[i * n + j]? = some v :=
    ⟨_, List.getElem?_eq_getElem (length ▸ Matrix.index_lt row column)⟩
  rw [List.getElem?_map, here, Option.map_some]
  rcases form.listed_or_zero held row column here with ⟨e, listed, there, rfl⟩ | ⟨absent, zero⟩
  · have sum := cellSum_of_mem distinct (List.mem_map_of_mem listed)
    obtain ⟨at_row, at_column⟩ := Prod.mk.inj there
    rw [← at_row, ← at_column, sum]
  · rw [Operand.cell_of_toCell zero, cellSum_of_not_mem]
    intro e' mem
    obtain ⟨e, listed, rfl⟩ := List.mem_map.mp mem
    exact absent e listed

end SparseMatrix.IsFormOf

/-! ## The two matrices of an array -/

namespace Matrix

variable {t : ElementType} {m n : ℕ} {elements : List Operand} {s : SparseMatrix}

/-- The matrix of an array is made of its elements as plain values, which are converted one by one and cut into
rows. -/
theorem outcome_ofArray (held : ∀ v ∈ elements, t.Holds v) (rows_pos : 0 < m) (columns_pos : 0 < n)
    (length : elements.length = m * n) (mark : Mark) :
    (ofArray (.array t [m, n] elements mark)).outcome =
      elements.mapM (fun v => v.unboxed.toCell) >>= fun cells => (fromRows (splitRows n m cells)).outcome := by
  have size : 0 < m * n := Nat.mul_pos rows_pos columns_pos
  have listed : t.listed elements = elements.map Operand.unboxed := by
    obtain ⟨v, mem⟩ := List.exists_mem_of_length_pos (length ▸ size)
    cases held v mem <;> rfl
  show (ofElements [m, n] (t.listed elements)).outcome = _
  rw [ofElements, if_neg size.ne', listed, Logged.outcome_bind, Logged.outcome_ofExcept, List.mapM_map]
  rfl

/-- The matrix of a sparse form is made of its entries, which are converted one by one and added up in a grid of
zeros. -/
theorem outcome_ofSparse (rows_pos : 0 < s.rowCount) (columns_pos : 0 < s.columnCount) :
    (ofSparse s).outcome = SparseMatrix.convert s.entries >>= fun entries =>
      (fromRows (SparseMatrix.sums s.rowCount s.columnCount entries)).outcome := by
  rw [ofSparse, if_neg (not_or.mpr ⟨rows_pos.ne', columns_pos.ne'⟩), Logged.outcome_bind,
    Logged.outcome_ofExcept]

/-- **The matrix of a sparse form** is that of the elements. -/
theorem outcome_ofSparse_of_isFormOf (form : s.IsFormOf m n elements) (held : ∀ v ∈ elements, t.Holds v)
    (rows_pos : 0 < m) (columns_pos : 0 < n) (length : elements.length = m * n)
    (all : ∀ v ∈ elements, ∃ q, v.toCell = .ok q) :
    (ofSparse s).outcome = (fromRows (splitRows n m (elements.map Operand.cell))).outcome := by
  have converted : SparseMatrix.convert s.entries =
      .ok (s.entries.map fun e => { e with value := e.value.cell }) :=
    mapM_eq_ok fun e mem => by rw [Operand.toCell_eq_cell (all _ (form.value_mem mem))]; rfl
  rw [outcome_ofSparse (form.rowCount ▸ rows_pos) (form.columnCount ▸ columns_pos), converted,
    ← form.sums_eq held length]
  rfl

/-- A sparse form is refused only because of a float that is not finite. -/
theorem outcome_ofSparse_of_not (form : s.IsFormOf m n elements) (held : ∀ v ∈ elements, t.Holds v)
    (rows_pos : 0 < m) (columns_pos : 0 < n) (length : elements.length = m * n)
    (some : ¬ ∀ v ∈ elements, ∃ q, v.toCell = .ok q) :
    ∃ x, (ofSparse s).outcome = .error (.numeral (.notFinite x)) := by
  have fails : FailsOnly Error.NamesNonFinite (SparseMatrix.convert s.entries) :=
    .mapM fun e mem => (held _ (form.value_mem mem)).failsOnly_toCell.bind fun q => .ok _
  rw [outcome_ofSparse (form.rowCount ▸ rows_pos) (form.columnCount ▸ columns_pos)]
  cases converted : SparseMatrix.convert s.entries with
  | error e =>
    obtain ⟨x, rfl⟩ := fails e converted
    exact ⟨x, rfl⟩
  | ok entries =>
    refine absurd (form.forall_exists_toCell held length columns_pos fun e mem => ?_) some
    have related := mapM_eq_ok_iff.mp converted
    exact forall_mem_of_forall₂ related (fun e e' ok => (of_bind_ok ok).imp fun q both => both.1) e mem

/-- **An array and its sparse forms** are the same matrix if the elements are numbers, or both are refused
because of a float that is not finite. An array of truth values is refused, while its sparse forms are the
matrix of ones and zeros. -/
theorem ofArray_ofSparse (form : s.IsFormOf m n elements) (held : ∀ v ∈ elements, t.Holds v)
    (rows_pos : 0 < m) (columns_pos : 0 < n) (length : elements.length = m * n) (mark : Mark) :
    (t ≠ .flag →
        (∃ M, (ofArray (.array t [m, n] elements mark)).outcome = .ok M ∧ (ofSparse s).outcome = .ok M ∧
            M.HasElements m n elements) ∨
          (∃ x, (ofArray (.array t [m, n] elements mark)).outcome = .error (.numeral (.notFinite x))) ∧
            ∃ x, (ofSparse s).outcome = .error (.numeral (.notFinite x))) ∧
      (t = .flag →
        (ofArray (.array t [m, n] elements mark)).outcome = .error (.operand (.notRational "bool")) ∧
          ∃ M, (ofSparse s).outcome = .ok M ∧ M.HasElements m n elements) := by
  have ofForm := outcome_ofSparse_of_isFormOf form held rows_pos columns_pos length
  have exists_matrix := exists_hasElements rows_pos columns_pos length
  rw [outcome_ofArray held rows_pos columns_pos length]
  constructor
  · intro numbers
    have plain : elements.mapM (fun v => v.unboxed.toCell) = elements.mapM Operand.toCell :=
      mapM_congr fun v mem => (held v mem).toCell_unboxed numbers
    rw [plain]
    by_cases all : ∀ v ∈ elements, ∃ q, v.toCell = .ok q
    · obtain ⟨M, made, isMatrix⟩ := exists_matrix all
      rw [Operand.mapM_toCell all, ofForm all]
      exact Or.inl ⟨M, made, made, isMatrix⟩
    · right
      refine ⟨?_, outcome_ofSparse_of_not form held rows_pos columns_pos length all⟩
      cases converted : elements.mapM Operand.toCell with
      | error e =>
        obtain ⟨x, rfl⟩ := FailsOnly.mapM (fun v mem => (held v mem).failsOnly_toCell) e converted
        exact ⟨x, rfl⟩
      | ok cells =>
        exact absurd (forall_mem_of_forall₂ (mapM_eq_ok_iff.mp converted) fun v q ok => ⟨q, ok⟩) all
  · rintro rfl
    constructor
    · obtain ⟨v, others, rfl⟩ := List.exists_cons_of_length_pos (length ▸ Nat.mul_pos rows_pos columns_pos)
      rw [List.mapM_cons]
      cases held v List.mem_cons_self
      rfl
    · have all : ∀ v ∈ elements, ∃ q, v.toCell = .ok q := fun v mem => by
        cases held v mem
        exact ⟨_, rfl⟩
      obtain ⟨M, made, isMatrix⟩ := exists_matrix all
      exact ⟨M, (ofForm all).trans made, isMatrix⟩

/-- A negative zero that is not listed is zero in both matrices. -/
theorem ofArray_ofSparse_negative_zero :
    ∃ M, (ofArray
          (.array .single [1, 2] [.single 0x80000000 none, .single 0x3f000000 none] none)).outcome = .ok M ∧
      (ofSparse ⟨1, 2, [⟨0, 1, .single 0x3f000000 none⟩]⟩).outcome = .ok M ∧
      M.HasElements 1 2 [.single 0x80000000 none, .single 0x3f000000 none] := by
  have held : ∀ v ∈ [Operand.single 0x80000000 none, .single 0x3f000000 none], ElementType.single.Holds v :=
    List.forall_mem_cons.mpr ⟨.single .., List.forall_mem_cons.mpr ⟨.single .., List.forall_mem_nil _⟩⟩
  have form : SparseMatrix.IsFormOf ⟨1, 2, [⟨0, 1, .single 0x3f000000 none⟩]⟩ 1 2
      [.single 0x80000000 none, .single 0x3f000000 none] :=
    { rowCount := rfl
      columnCount := rfl
      inside := List.forall_mem_cons.mpr ⟨⟨0, by decide, 1, by decide, rfl, rfl⟩, List.forall_mem_nil _⟩
      distinct := List.nodup_singleton _
      complete := by
        intro i row j column v here counts
        obtain rfl := Nat.lt_one_iff.mp row
        rcases Nat.lt_succ_iff_lt_or_eq.mp column with first | rfl
        · obtain rfl := Nat.lt_one_iff.mp first
          cases here
          cases counts
        · exact ⟨_, List.mem_cons_self, rfl⟩ }
  have finite : ∀ v ∈ [Operand.single 0x80000000 none, .single 0x3f000000 none], ∃ q, v.toCell = .ok q :=
    List.forall_mem_cons.mpr ⟨⟨_, rfl⟩, List.forall_mem_cons.mpr ⟨⟨_, rfl⟩, List.forall_mem_nil _⟩⟩
  have alike := ofArray_ofSparse form held Nat.one_pos Nat.two_pos rfl none
  refine (alike.1 nofun).resolve_right ?_
  rintro ⟨-, x, failed⟩
  obtain ⟨M, made, -⟩ := exists_hasElements Nat.one_pos Nat.two_pos rfl finite
  rw [outcome_ofSparse_of_isFormOf form held Nat.one_pos Nat.two_pos rfl finite, made] at failed
  cases failed

/-- A truth value is refused as an element of an array, and one as an entry of its sparse form. -/
theorem truth_value_in_sparse_form :
    (ofArray (.array .flag [1, 1] [.flag true] none)).outcome = .error (.operand (.notRational "bool")) ∧
      ∃ M, (ofSparse ⟨1, 1, [⟨0, 0, .flag true⟩]⟩).outcome = .ok M ∧ M.cells = [.rational 1] := by
  have entry : (ofSparse ⟨1, 1, [⟨0, 0, .flag true⟩]⟩).outcome = (fromRows [[.rational 1]]).outcome := rfl
  have rect : ∀ row ∈ [[Quantity.rational 1]], row.length = 1 := List.forall_mem_singleton.mpr rfl
  obtain ⟨M, made, rows, -⟩ := exists_fromRows (by decide) Nat.one_pos rect
  exact ⟨rfl, M, entry.trans made, congrArg List.flatten rows⟩

end Matrix

end ExactAlgebra
