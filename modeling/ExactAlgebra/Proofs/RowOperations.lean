import Mathlib.LinearAlgebra.Matrix.Determinant.Basic
import Mathlib.LinearAlgebra.Matrix.Echelon.Basic
import Mathlib.LinearAlgebra.Matrix.Rank

/-!
# Row operations over a field

What row reduction may do to a matrix over a field: exchange rows, add multiples of one row to others,
and scale rows. None of this changes the row space, and every minor taken from all the rows is multiplied
by one factor, the same for each choice of columns. Both facts are carried along a reduction together.

## Main definitions

* `Matrix.rowSpace`: the vectors that the rows span.
* `Matrix.addMultiples`: multiples of one row added to the rows.
* `Matrix.RowEquivalent`: one row space, and minors that differ by a factor.

## Main statements

* `Matrix.RowEquivalent.swapRows`, `Matrix.RowEquivalent.addMultiples`,
  `Matrix.RowEquivalent.scaleRows`: the three operations.
* `Matrix.IsReducedRowEchelon.eq_of_rowSpace_eq`: two matrices in reduced row echelon form with one row
  space are equal.
-/

namespace Matrix

variable {K : Type*} [Field K] {m n : ℕ} {A B C : Matrix (Fin m) (Fin n) K}

/-- The vectors that the rows of a matrix span. -/
def rowSpace (A : Matrix (Fin m) (Fin n) K) : Submodule K (Fin n → K) :=
  Submodule.span K (Set.range A.row)

theorem row_mem_rowSpace (A : Matrix (Fin m) (Fin n) K) (i : Fin m) : A i ∈ rowSpace A :=
  Submodule.subset_span ⟨i, rfl⟩

theorem rowSpace_le {V : Submodule K (Fin n → K)} (rows : ∀ i, A i ∈ V) : rowSpace A ≤ V := by
  refine Submodule.span_le.mpr ?_
  rintro _ ⟨i, rfl⟩
  exact rows i

/-- The rank is the dimension of the row space. -/
theorem rank_eq_finrank_rowSpace (A : Matrix (Fin m) (Fin n) K) :
    A.rank = Module.finrank K (rowSpace A) :=
  A.rank_eq_finrank_span_row

/-- The matrix with a multiple of row `k` added to every row. -/
def addMultiples (A : Matrix (Fin m) (Fin n) K) (k : Fin m) (c : Fin m → K) :
    Matrix (Fin m) (Fin n) K :=
  fun i => A i + c i • A k

theorem addMultiples_apply (A : Matrix (Fin m) (Fin n) K) (k : Fin m) (c : Fin m → K) (i : Fin m)
    (j : Fin n) : addMultiples A k c i j = A i j + c i * A k j := rfl

theorem addMultiples_eq_self {k : Fin m} {c : Fin m → K} {i : Fin m} (h : c i = 0) :
    addMultiples A k c i = A i := by
  show A i + c i • A k = A i
  rw [h, zero_smul, add_zero]

theorem addMultiples_neg {k : Fin m} {c : Fin m → K} (h : c k = 0) :
    addMultiples (addMultiples A k c) k (-c) = A := by
  funext i
  show A i + c i • A k + -c i • addMultiples A k c k = A i
  rw [addMultiples_eq_self h, neg_smul, add_neg_cancel_right]

/-- One row space, and every minor taken from all the rows multiplied by `u`. -/
structure RowEquivalent (u : K) (A B : Matrix (Fin m) (Fin n) K) : Prop where
  rowSpace_eq : rowSpace B = rowSpace A
  det_columns (e : Fin m → Fin n) : det (B.submatrix id e) = u * det (A.submatrix id e)

namespace RowEquivalent

theorem refl (A : Matrix (Fin m) (Fin n) K) : RowEquivalent 1 A A :=
  ⟨rfl, fun _ => (one_mul _).symm⟩

theorem trans {u v : K} (first : RowEquivalent u A B) (second : RowEquivalent v B C) :
    RowEquivalent (u * v) A C := by
  refine ⟨second.rowSpace_eq.trans first.rowSpace_eq, fun e => ?_⟩
  rw [second.det_columns, first.det_columns, mul_left_comm, mul_assoc]

/-- The determinant is multiplied by the factor of the minors. -/
theorem det_eq {u : K} {A B : Matrix (Fin n) (Fin n) K} (h : RowEquivalent u A B) :
    B.det = u * A.det := by
  simpa using h.det_columns id

/-- The rank does not change with the row space. -/
theorem rank_eq {u : K} (h : RowEquivalent u A B) : B.rank = A.rank := by
  rw [rank_eq_finrank_rowSpace, rank_eq_finrank_rowSpace, h.rowSpace_eq]

/-! ## The three operations -/

/-- Exchanging two rows changes the sign of the minors. -/
theorem swapRows (A : Matrix (Fin m) (Fin n) K) (a b : Fin m) :
    RowEquivalent (if a = b then 1 else -1) A (A.submatrix (Equiv.swap a b) id) := by
  constructor
  · have rows : (A.submatrix (Equiv.swap a b) id).row = A.row ∘ Equiv.swap a b := rfl
    rw [rowSpace, rows, EquivLike.range_comp, rowSpace]
  · intro e
    have rows : (A.submatrix (Equiv.swap a b) id).submatrix id e
        = (A.submatrix id e).submatrix (Equiv.swap a b) id := rfl
    rw [rows, det_permute, Equiv.Perm.sign_swap']
    split <;> simp

theorem rowSpace_addMultiples_le (A : Matrix (Fin m) (Fin n) K) (k : Fin m) (c : Fin m → K) :
    rowSpace (A.addMultiples k c) ≤ rowSpace A :=
  rowSpace_le fun i =>
    Submodule.add_mem _ (row_mem_rowSpace A i) (Submodule.smul_mem _ _ (row_mem_rowSpace A k))

/-- Adding multiples of a row to the other rows keeps the minors. -/
theorem addMultiples (A : Matrix (Fin m) (Fin n) K) {k : Fin m} {c : Fin m → K} (h : c k = 0) :
    RowEquivalent 1 A (A.addMultiples k c) := by
  constructor
  · refine le_antisymm (rowSpace_addMultiples_le A k c) ?_
    calc rowSpace A = rowSpace ((A.addMultiples k c).addMultiples k (-c)) := by
          rw [addMultiples_neg h]
      _ ≤ rowSpace (A.addMultiples k c) := rowSpace_addMultiples_le _ k (-c)
  · intro e
    rw [one_mul]
    exact det_eq_of_forall_row_eq_smul_add_const c k h fun _ _ => rfl

/-- Scaling the rows by factors other than zero multiplies the minors by the product of the factors. -/
theorem scaleRows (A : Matrix (Fin m) (Fin n) K) {d : Fin m → K} (nonzero : ∀ i, d i ≠ 0) :
    RowEquivalent (∏ i, d i) A (fun i => d i • A i) := by
  constructor
  · refine le_antisymm (rowSpace_le fun i => Submodule.smul_mem _ _ (row_mem_rowSpace A i))
      (rowSpace_le fun i => ?_)
    have scaled := row_mem_rowSpace (A := fun i => d i • A i) i
    exact (Submodule.smul_mem_iff _ (nonzero i)).mp scaled
  · intro e
    exact det_mul_column d (A.submatrix id e)

end RowEquivalent

/-! ## Uniqueness of the reduced form -/

/-- In a reduced row echelon form, the coefficient of a nonzero row in a combination of the rows stands
in the leading column of the row. -/
theorem IsReducedRowEchelon.vecMul_leading (hA : A.IsReducedRowEchelon) {i : Fin m} {c : Fin n}
    (lead : A.IsLeadingEntry i c) (x : Fin m → K) : (x ᵥ* A) c = x i := by
  have others : ∀ r, r ≠ i → x r * A r c = 0 := by
    intro r ne
    rw [hA.eq_zero_of_ne_of_isLeadingEntry ne lead, mul_zero]
  calc (x ᵥ* A) c = ∑ r, x r * A r c := rfl
    _ = x i * A i c := Finset.sum_eq_single i (fun r _ ne => others r ne) (by simp)
    _ = x i := by rw [hA.eq_one lead, mul_one]

/-- The vectors of the row space are the combinations of the rows. -/
theorem mem_rowSpace {v : Fin n → K} : v ∈ rowSpace A ↔ ∃ x, x ᵥ* A = v := by
  rw [rowSpace, ← range_vecMulLinear]
  rfl

/-- A matrix whose rows lie in the row space of another one is a multiple of it. -/
theorem exists_mul_of_rowSpace_le {k : ℕ} {D : Matrix (Fin k) (Fin n) K} (le : rowSpace D ≤ rowSpace A) :
    ∃ P : Matrix (Fin k) (Fin m) K, P * A = D := by
  choose P rows using fun i => mem_rowSpace.mp (le (row_mem_rowSpace D i))
  exact ⟨P, funext rows⟩

/-- A vector of the row space that vanishes in every leading column of a reduced row echelon form is
zero. -/
theorem IsReducedRowEchelon.eq_zero_of_mem_rowSpace (hA : A.IsReducedRowEchelon) {v : Fin n → K}
    (mem : v ∈ rowSpace A) (vanishes : ∀ i c, A.IsLeadingEntry i c → v c = 0) : v = 0 := by
  obtain ⟨x, rfl⟩ := mem_rowSpace.mp mem
  have rows : ∀ i, x i • A i = 0 := by
    intro i
    by_cases zero : A i = 0
    · rw [zero, smul_zero]
    · obtain ⟨c, lead⟩ := row_ne_zero_iff_exists_isLeadingEntry.mp zero
      rw [← hA.vecMul_leading lead x, vanishes i c lead, zero_smul]
  rw [vecMul_eq_sum]
  exact Finset.sum_eq_zero fun i _ => rows i

/-- The leading column of a vector of the row space is a leading column of the reduced form. -/
theorem IsReducedRowEchelon.exists_leading (hA : A.IsReducedRowEchelon) {v : Fin n → K}
    (mem : v ∈ rowSpace A) {c : Fin n} (before : ∀ j < c, v j = 0) (nonzero : v c ≠ 0) :
    ∃ i, A.IsLeadingEntry i c := by
  by_contra none
  obtain ⟨x, rfl⟩ := mem_rowSpace.mp mem
  refine nonzero (show ∑ i, x i * A i c = 0 from Finset.sum_eq_zero fun i _ => ?_)
  -- The row counts only if its leading column comes later, and then its entry at `c` is zero.
  by_cases zero : A i = 0
  · rw [show A i c = 0 from congrFun zero c, mul_zero]
  · obtain ⟨d, lead⟩ := row_ne_zero_iff_exists_isLeadingEntry.mp zero
    rcases lt_trichotomy d c with left | same | right
    · rw [← hA.vecMul_leading lead x, before d left, zero_mul]
    · exact absurd ⟨i, same ▸ lead⟩ none
    · rw [lead.1 c right, mul_zero]

/-- A nonzero row of one reduced form meets a row of the other that leads no later, when the rows above
agree. -/
theorem IsReducedRowEchelon.leading_le (hA : A.IsReducedRowEchelon) (hB : B.IsReducedRowEchelon)
    (same : rowSpace A = rowSpace B) {i : Fin m} (above : ∀ r < i, A r = B r) {c : Fin n}
    (lead : A.IsLeadingEntry i c) : ∃ d ≤ c, B.IsLeadingEntry i d := by
  obtain ⟨r, found⟩ := hB.exists_leading (same ▸ row_mem_rowSpace A i) lead.1 lead.2
  have below : i ≤ r := by
    by_contra higher
    have ne : r ≠ i := ne_of_lt (not_le.mp higher)
    refine found.2 ?_
    rw [← above r (not_le.mp higher)]
    exact hA.eq_zero_of_ne_of_isLeadingEntry ne lead
  by_contra none
  push Not at none
  -- Row `i` of `B` would be zero up to column `c`, and so would be all rows below it.
  have zero : ∀ j ≤ c, B i j = 0 := by
    intro j le
    by_contra nonzero
    obtain ⟨d, leadB⟩ := row_ne_zero_iff_exists_isLeadingEntry.mp
      (fun h : B i = 0 => nonzero (congrFun h j))
    have later : c < d := lt_of_not_ge fun h => none d h leadB
    exact nonzero (leadB.1 j (lt_of_le_of_lt le later))
  rcases below.eq_or_lt with rfl | lt
  · exact found.2 (zero c le_rfl)
  · exact found.2 (hB.isRowEchelon lt fun j h => zero j h.le)

/-- When the rows above agree, the two reduced forms lead in the same column of a row. -/
theorem IsReducedRowEchelon.isLeadingEntry_of_above (hA : A.IsReducedRowEchelon)
    (hB : B.IsReducedRowEchelon) (same : rowSpace A = rowSpace B) {i : Fin m}
    (above : ∀ r < i, A r = B r) {c : Fin n} (lead : A.IsLeadingEntry i c) :
    B.IsLeadingEntry i c := by
  obtain ⟨d, le, leadB⟩ := hA.leading_le hB same above lead
  obtain ⟨e, le', leadA⟩ := hB.leading_le hA same.symm (fun r lt => (above r lt).symm) leadB
  rw [leadA.unique lead] at le'
  rwa [le_antisymm le le'] at leadB

/-- When the rows above agree, so do the rows. -/
theorem IsReducedRowEchelon.row_eq_of_above (hA : A.IsReducedRowEchelon)
    (hB : B.IsReducedRowEchelon) (same : rowSpace A = rowSpace B) {i : Fin m}
    (above : ∀ r < i, A r = B r) : A i = B i := by
  have mem : A i - B i ∈ rowSpace A :=
    Submodule.sub_mem _ (row_mem_rowSpace A i) (same ▸ row_mem_rowSpace B i)
  refine sub_eq_zero.mp (hA.eq_zero_of_mem_rowSpace mem fun r c lead => ?_)
  rw [Pi.sub_apply, sub_eq_zero]
  rcases eq_or_ne r i with rfl | ne
  · rw [hA.eq_one lead, hB.eq_one (hA.isLeadingEntry_of_above hB same above lead)]
  · have zeroA : A i c = 0 := hA.eq_zero_of_ne_of_isLeadingEntry ne.symm lead
    obtain ⟨r', leadB⟩ := hB.exists_leading (same ▸ row_mem_rowSpace A r) lead.1 lead.2
    rcases eq_or_ne r' i with rfl | ne'
    · have leadA := hB.isLeadingEntry_of_above hA same.symm (fun r lt => (above r lt).symm) leadB
      exact absurd zeroA leadA.2
    · rw [zeroA, hB.eq_zero_of_ne_of_isLeadingEntry ne'.symm leadB]

/-- **The reduced row echelon form of a row space is unique.** The induction is on the rows, from above: rows
that agree above a row leave it no choice. So all that a reduction has to keep is the row space. -/
theorem IsReducedRowEchelon.eq_of_rowSpace_eq (hA : A.IsReducedRowEchelon)
    (hB : B.IsReducedRowEchelon) (same : rowSpace A = rowSpace B) : A = B := by
  funext i
  induction i using WellFoundedLT.induction with
  | ind i ih => exact hA.row_eq_of_above hB same ih

end Matrix
