import ExactAlgebra.Matrix.Elimination
import ExactAlgebra.Proofs.QuantityParts
import ExactAlgebra.Proofs.RowOperations

/-!
# Grids of real quantities

A grid whose cells lie on the real axis denotes a matrix of rational numbers. The searches of an
elimination find what they promise there, and each of its operations on grids is a row operation on the
matrix; where the operation divides, it divides by a cell that is not zero, and so it has a result.

## Main definitions

* `Grid.IsReal`: all cells lie on the real axis.
* `Grid.re`: the matrix of the real parts.

## Main statements

* `Grid.findPivot?_eq_none`, `Grid.findPivot?_eq_some`, `Row.leadingColumn?_eq_some`: the searches.
* `Grid.re_swapRows`, `Grid.clearBelow?_of_isReal`, `Grid.normalize?_of_isReal`, `Grid.re_clearAbove`:
  the operations.
-/

namespace ExactAlgebra

/-- Cells that all have a value can be put together. -/
theorem ofFnM_eq_some {α : Type} {n : ℕ} {f : Fin n → Option α} {h : Fin n → α}
    (all : ∀ i, f i = some (h i)) : Vector.ofFnM f = some (Vector.ofFn h) := by
  have pure : f = fun i => Pure.pure (h i) := funext all
  rw [pure, Vector.ofFnM_pure]
  rfl

/-- Cells that were put together all had a value. -/
theorem of_ofFnM_eq_some {α : Type} {n : ℕ} {f : Fin n → Option α} {v : Vector α n}
    (all : Vector.ofFnM f = some v) (i : Fin n) : f i = some (v.get i) := by
  induction n with
  | zero => exact i.elim0
  | succ n ih =>
    rw [Vector.ofFnM_succ] at all
    obtain ⟨w, first, rest⟩ := Option.bind_eq_some_iff.mp all
    obtain ⟨a, last, same⟩ := Option.bind_eq_some_iff.mp rest
    obtain rfl := Option.some.inj same
    induction i using Fin.lastCases with
    | last => rw [last, get_eq_getElem, Vector.getElem_push]; simp
    | cast i => rw [ih first i, get_eq_getElem, get_eq_getElem, Vector.getElem_push]; simp

/-! ## Searches -/

namespace Row

variable {n : ℕ} {r : Row n}

/-- The search for the leading cell of a row fails exactly if the row is zero. It looks at every cell, from left
to right. -/
theorem leadingColumn?_eq_none : r.leadingColumn? = none ↔ ∀ j : Fin n, (r.get j).isZero = true := by
  rw [leadingColumn?, ← Fin.find?_eq_find?_finRange, Fin.find?_eq_none_iff]
  simp

/-- If it finds a cell, this is the first one that is not zero. These two statements are all that is known about
the search in what follows. -/
theorem leadingColumn?_eq_some {c : Fin n} :
    r.leadingColumn? = some c ↔ (r.get c).isZero = false ∧ ∀ j < c, (r.get j).isZero = true := by
  rw [leadingColumn?, ← Fin.find?_eq_find?_finRange, Fin.find?_eq_some_iff]
  simp

end Row

namespace Grid

variable {m n : ℕ} {g : Grid m n}

/-- No row from `k` on is found for a column exactly if the column is zero from there on. -/
theorem pivotRow?_eq_none {k : ℕ} {c : Fin n} :
    g.pivotRow? k c = none ↔ ∀ r : Fin m, k ≤ r → (g.cell r c).isZero = true := by
  rw [pivotRow?, ← Fin.find?_eq_find?_finRange, Fin.find?_eq_none_iff]
  simp

/-- A row that is found is one to look at, and its cell is not zero. -/
theorem of_pivotRow?_eq_some {k : ℕ} {c : Fin n} {r : Fin m} (found : g.pivotRow? k c = some r) :
    k ≤ r ∧ (g.cell r c).isZero = false := by
  rw [pivotRow?, ← Fin.find?_eq_find?_finRange, Fin.find?_eq_some_iff] at found
  simpa using found.1

/-- No pivot: nothing but zeros from row and column `k` on. -/
theorem findPivot?_eq_none {k : ℕ} :
    g.findPivot? k = none ↔ ∀ r : Fin m, k ≤ r → ∀ c : Fin n, k ≤ c → (g.cell r c).isZero = true := by
  rw [findPivot?, ← Fin.findSome?_eq_findSome?_finRange, Fin.findSome?_eq_none_iff]
  constructor
  · intro none r le c le'
    have column := none c
    rw [if_pos le', Option.map_eq_none_iff, pivotRow?_eq_none] at column
    exact column r le
  · intro zero c
    split
    · rw [Option.map_eq_none_iff, pivotRow?_eq_none]
      exact fun r le => zero r le c ‹_›
    · rfl

/-- The pivot is not zero, and left of it there is nothing but zeros from row and column `k` on. -/
theorem of_findPivot?_eq_some {k : ℕ} {r : Fin m} {c : Fin n} (found : g.findPivot? k = some (r, c)) :
    k ≤ r ∧ k ≤ c ∧ (g.cell r c).isZero = false ∧
      ∀ r' : Fin m, k ≤ r' → ∀ c' < c, k ≤ (c' : ℕ) → (g.cell r' c').isZero = true := by
  rw [findPivot?, ← Fin.findSome?_eq_findSome?_finRange, Fin.findSome?_eq_some_iff] at found
  obtain ⟨c₀, here, before⟩ := found
  split at here
  case isFalse => cases here
  case isTrue le =>
    obtain ⟨r₀, row, same⟩ := Option.map_eq_some_iff.mp here
    cases same
    obtain ⟨le', nonzero⟩ := of_pivotRow?_eq_some row
    refine ⟨le', le, nonzero, fun r' from' c' left from'' => ?_⟩
    have column := before c' left
    rw [if_pos from'', Option.map_eq_none_iff, pivotRow?_eq_none] at column
    exact column r' from'

/-- Once the pivot is in its row it is not zero there, and left of it nothing has changed. -/
theorem swapRows_of_findPivot?_eq_some {k r : Fin m} {c : Fin n} (found : g.findPivot? k = some (r, c)) :
    ((g.swapRows k r).cell k c).isZero = false ∧ ∀ i, k ≤ i → ∀ j < c, (k : ℕ) ≤ j →
      ((g.swapRows k r).cell i j).isZero = true := by
  obtain ⟨le, -, nonzero, left⟩ := of_findPivot?_eq_some found
  refine ⟨?_, fun i unsettled j before large => ?_⟩
  · rwa [cell, get_swapRows, if_pos rfl]
  · rw [cell, get_swapRows]
    split_ifs
    exacts [left r le j before large, left k le_rfl j before large, left i unsettled j before large]

/-! ## Values -/

/-- All cells lie on the real axis. -/
def IsReal (g : Grid m n) : Prop := ∀ (i : Fin m) (j : Fin n), (g.cell i j).isReal = true

instance (g : Grid m n) : Decidable g.IsReal :=
  inferInstanceAs (Decidable (∀ (i : Fin m) (j : Fin n), (g.cell i j).isReal = true))

/-- The real parts of the cells, as a matrix of rational numbers. -/
def re (g : Grid m n) := Matrix.of fun (i : Fin m) (j : Fin n) => (g.cell i j).re

/-- The matrix of real parts, entry by entry. Beyond this and the lemmas after it nothing is unfolded when the
grid is seen as a matrix. -/
theorem re_apply (g : Grid m n) (i : Fin m) (j : Fin n) : g.re i j = (g.cell i j).re := rfl

/-- In a real grid the test for zero, on which all searches are built, is the test of a rational number. So what
a search finds can be said about the matrix. -/
theorem IsReal.isZero_iff (real : g.IsReal) {i : Fin m} {j : Fin n} :
    (g.cell i j).isZero = true ↔ g.re i j = 0 :=
  Quantity.isZero_iff_of_isReal (real i j)

/-- In particular a pivot is an entry of the matrix that is not zero, by which rows can be divided. -/
theorem IsReal.isZero_eq_false_iff (real : g.IsReal) {i : Fin m} {j : Fin n} :
    (g.cell i j).isZero = false ↔ g.re i j ≠ 0 := by
  rw [← Bool.not_eq_true, real.isZero_iff]

/-- Grids on the real axis have the same values when their matrices agree. -/
theorem IsReal.sameValues_iff {h : Grid m n} (realG : g.IsReal) (realH : h.IsReal) :
    g.SameValues h ↔ g.re = h.re := by
  constructor
  · intro same
    funext i j
    exact (Quantity.sameValue_iff.mp (same i j)).1
  · intro same i j
    refine Quantity.sameValue_iff.mpr ⟨congrFun (congrFun same i) j, ?_⟩
    rw [Quantity.isReal_iff.mp (realG i j), Quantity.isReal_iff.mp (realH i j)]

/-! ## The name of the shape -/

/-- Whether a grid is real does not depend on the name of its shape. This is needed because a square matrix
keeps two names for its one dimension. -/
theorem IsReal.cast {k l : ℕ} (real : g.IsReal) (rows : m = k) (columns : n = l) :
    (g.cast rows columns).IsReal := by
  subst rows columns
  rwa [cast_rfl]

/-! ## Operations -/

/-- An exchange of rows keeps a grid on the real axis: each row of the result is a row that was there. -/
theorem IsReal.swapRows (real : g.IsReal) (a b : Fin m) : (g.swapRows a b).IsReal := by
  intro i j
  rw [cell, get_swapRows]
  split_ifs
  · exact real b j
  · exact real a j
  · exact real i j

/-- An exchange of rows of the grid is one of the matrix. It is written with the permutation of the library,
whose sign is known to determinants. -/
theorem re_swapRows (g : Grid m n) (a b : Fin m) :
    (g.swapRows a b).re = g.re.submatrix (Equiv.swap a b) id := by
  funext i j
  rw [re_apply, cell, get_swapRows, Matrix.submatrix_apply, Equiv.swap_apply_def, re_apply, id_eq]
  split_ifs <;> rfl

/-- A grid of given real rows is real, and its matrix is that of the values of the rows. Each operation below
gives its rows in this way, and so only has to say what a row becomes. -/
theorem isReal_ofFn {row : Fin m → Row n} {a : Fin m → Fin n → ℚ}
    (cells : ∀ i (j : Fin n), ((row i).get j).isReal = true ∧ ((row i).get j).re = a i j) :
    IsReal (Vector.ofFn row) ∧ re (Vector.ofFn row) = Matrix.of a := by
  have rows : ∀ i : Fin m, (Vector.ofFn row).get i = row i := fun i => get_ofFn row i
  constructor
  · intro i j
    rw [cell, rows]
    exact (cells i j).1
  · funext i j
    rw [re_apply, cell, rows]
    exact (cells i j).2

/-- A multiple of a real row added to a real row. -/
theorem IsReal.addMultiple (real : g.IsReal) (i k : Fin m) {scalar : Quantity}
    (hs : scalar.isReal = true) (j : Fin n) :
    (((g.get i).addMultiple (g.get k) scalar).get j).isReal = true ∧
      (((g.get i).addMultiple (g.get k) scalar).get j).re = g.re i j + scalar.re * g.re k j := by
  have cell : ((g.get i).addMultiple (g.get k) scalar).get j = g.cell i j + g.cell k j * scalar :=
    Row.get_addMultiple (g.get i) (g.get k) scalar j
  rw [cell]
  refine ⟨Quantity.isReal_add (real i j) (Quantity.isReal_mul (real k j) hs), ?_⟩
  rw [Quantity.re_add, Quantity.re_mul_of_isReal (real k j), mul_comm, re_apply, re_apply]

/-- The rows of an elimination: each exists, on the real axis. -/
theorem IsReal.exists_cleared_row (real : g.IsReal) {k : Fin m} {c : Fin n} (pivot : g.re k c ≠ 0)
    (i : Fin m) :
    ∃ row : Row n, (if i ≤ k ∨ (g.cell i c).isZero then some (g.get i)
        else ((g.cell i c).divide? (g.cell k c)).map fun factor =>
          (g.get i).addMultiple (g.get k) (-factor)) = some row ∧
      ∀ j : Fin n, (row.get j).isReal = true ∧
        (row.get j).re = g.re i j + (if i ≤ k then 0 else -(g.re i c / g.re k c)) * g.re k j := by
  -- A row is left alone because of its place or because of a zero, which is a multiple of its own.
  by_cases settled : i ≤ k
  · refine ⟨g.get i, if_pos (Or.inl settled), fun j => ⟨real i j, ?_⟩⟩
    rw [if_pos settled, zero_mul, add_zero, re_apply]
  · by_cases zero : (g.cell i c).isZero = true
    · refine ⟨g.get i, if_pos (Or.inr zero), fun j => ⟨real i j, ?_⟩⟩
      rw [if_neg settled, real.isZero_iff.mp zero, zero_div, neg_zero, zero_mul, add_zero, re_apply]
    · obtain ⟨factor, quotient, realFactor, value⟩ :=
        Quantity.divide?_of_isReal (real i c) (real k c) pivot
      refine ⟨_, by rw [if_neg (not_or.mpr ⟨settled, zero⟩), quotient, Option.map_some], fun j => ?_⟩
      have cell := real.addMultiple i k (Quantity.isReal_neg realFactor) j
      rw [Quantity.re_neg, value] at cell
      rw [if_neg settled]
      exact cell

/-- A nonzero pivot clears its column below it: multiples of its row are added to the rows below. -/
theorem clearBelow?_of_isReal (real : g.IsReal) {k : Fin m} {c : Fin n} (pivot : g.re k c ≠ 0) :
    ∃ h, g.clearBelow? k c = some h ∧ h.IsReal ∧
      h.re = g.re.addMultiples k fun i => if i ≤ k then 0 else -(g.re i c / g.re k c) := by
  choose row defined cells using real.exists_cleared_row pivot
  obtain ⟨realRows, values⟩ := isReal_ofFn cells
  exact ⟨_, ofFnM_eq_some defined, realRows, values⟩

/-- The factor that makes the leading entry of a row one. -/
def leadingFactor (g : Grid m n) (i : Fin m) : ℚ :=
  match (g.get i).leadingColumn? with
  | none => 1
  | some c => (g.re i c)⁻¹

/-- The factor that a row is normalized by is not zero: the leading cell of the row is not, and a row without
one is multiplied by one. So the row space stays what it was. -/
theorem IsReal.leadingFactor_ne_zero (real : g.IsReal) (i : Fin m) : g.leadingFactor i ≠ 0 := by
  unfold leadingFactor
  split
  · exact one_ne_zero
  · rename_i c found
    exact inv_ne_zero (real.isZero_eq_false_iff.mp (Row.leadingColumn?_eq_some.mp found).1)

/-- The rows of a normalization: each exists, on the real axis. -/
theorem IsReal.exists_normal_row (real : g.IsReal) (i : Fin m) :
    ∃ row : Row n, (match (g.get i).leadingColumn? with
        | none => some (g.get i)
        | some c => (g.get i).divide? (g.cell i c)) = some row ∧
      ∀ j : Fin n, (row.get j).isReal = true ∧ (row.get j).re = g.leadingFactor i * g.re i j := by
  unfold leadingFactor
  cases found : (g.get i).leadingColumn? with
  | none => exact ⟨g.get i, rfl, fun j => ⟨real i j, (one_mul _).symm⟩⟩
  | some c =>
    have nonzero : g.re i c ≠ 0 := real.isZero_eq_false_iff.mp (Row.leadingColumn?_eq_some.mp found).1
    choose q quotient realQ value using
      fun j : Fin n => Quantity.divide?_of_isReal (real i j) (real i c) nonzero
    have cell : ∀ j : Fin n, (Vector.ofFn q).get j = q j := fun j => get_ofFn q j
    refine ⟨Vector.ofFn q, ofFnM_eq_some quotient, fun j => ?_⟩
    rw [cell]
    exact ⟨realQ j, by rw [value j, div_eq_inv_mul]; rfl⟩

/-- Normalization scales every row by its factor. It always has a result on the real axis, where a leading cell
can be divided by. -/
theorem normalize?_of_isReal (real : g.IsReal) :
    ∃ h, g.normalize? = some h ∧ h.IsReal ∧ h.re = fun i => g.leadingFactor i • g.re i := by
  choose row defined cells using real.exists_normal_row
  obtain ⟨realRows, values⟩ := isReal_ofFn cells
  exact ⟨_, ofFnM_eq_some defined, realRows, values⟩

/-- The rows of a clearing above row `i`: the cells above the leading one are the multiples that are taken away,
and row `i` and those below it stay. -/
theorem IsReal.clearAbove_row (real : g.IsReal) (i : Fin m) (c : Fin n) (r : Fin m) (j : Fin n) :
    ((g.clearAbove i c).cell r j).isReal = true ∧
      ((g.clearAbove i c).cell r j).re = g.re r j + (if i ≤ r then 0 else -g.re r c) * g.re i j := by
  have row : (g.clearAbove i c).get r
      = if i ≤ r ∨ (g.cell r c).isZero then g.get r
        else (g.get r).addMultiple (g.get i) (-g.cell r c) := by
    simp [clearAbove]
  rw [cell, row]
  by_cases settled : i ≤ r
  · rw [if_pos (Or.inl settled), if_pos settled, zero_mul, add_zero, re_apply]
    exact ⟨real r j, rfl⟩
  · by_cases zero : (g.cell r c).isZero = true
    · rw [if_pos (Or.inr zero), real.isZero_iff.mp zero, neg_zero, ite_self, zero_mul, add_zero,
        re_apply]
      exact ⟨real r j, rfl⟩
    · rw [if_neg (not_or.mpr ⟨settled, zero⟩), if_neg settled]
      have cell := real.addMultiple r i (Quantity.isReal_neg (real r c)) j
      rwa [Quantity.re_neg] at cell

/-- Clearing above a leading cell takes multiples of a real row away from real rows; no division is involved, so
that this never fails and never leaves the axis. -/
theorem IsReal.clearAbove (real : g.IsReal) (i : Fin m) (c : Fin n) : (g.clearAbove i c).IsReal :=
  fun r j => (real.clearAbove_row i c r j).1

/-- Clearing a column above a row adds multiples of the row to the rows above. -/
theorem IsReal.re_clearAbove (real : g.IsReal) (i : Fin m) (c : Fin n) :
    (g.clearAbove i c).re = g.re.addMultiples i fun r => if i ≤ r then 0 else -g.re r c := by
  funext r j
  exact (real.clearAbove_row i c r j).2

end Grid

end ExactAlgebra
