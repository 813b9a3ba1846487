import ExactAlgebra.Proofs.RowOperations
import Mathlib.LinearAlgebra.Matrix.Echelon.Pivot

/-!
# The way to echelon form

The states that a matrix passes through while it is reduced, and the operations that lead from one to
the next.

On the way down the first rows are in echelon form already, with nothing left to do below them. This alone
makes all columns up to the number of these rows zero below the diagonal, although the leading columns may
lie far to the right of it: so a search for the next pivot may start on the diagonal and misses nothing.

On the way up the leading columns stay where they are. Adding multiples of a row to rows above it changes
nothing up to and including the leading columns of those.

## Main definitions

* `Matrix.EchelonAbove`: the state on the way down.
* `Matrix.ReducedFrom`: the state on the way up.

## Main statements

* `Matrix.EchelonAbove.eq_zero_of_lt`: zeros below the diagonal.
* `Matrix.EchelonAbove.step_iff`: one step down, and when it fails to settle a row.
* `Matrix.ReducedFrom.clear`: one step up.
* `Matrix.ReducedFrom.isReducedRowEchelon`: the end of the way.
-/

namespace Matrix

variable {K : Type*} [Field K] {m n : ℕ} {A B : Matrix (Fin m) (Fin n) K}

/-! ## Down -/

/-- The rows above row `k` are in echelon form, together with everything below them. -/
def EchelonAbove (k : ℕ) (A : Matrix (Fin m) (Fin n) K) : Prop :=
  ∀ ⦃i₁ i₂ : Fin m⦄, i₁ < i₂ → (i₁ : ℕ) < k → ∀ ⦃j₂⦄, (∀ j₁ < j₂, A i₁ j₁ = 0) → A i₂ j₂ = 0

namespace EchelonAbove

theorem zero (A : Matrix (Fin m) (Fin n) K) : EchelonAbove 0 A :=
  fun _ _ _ impossible => absurd impossible (Nat.not_lt_zero _)

/-- Left of the step everything below the diagonal is zero. -/
theorem eq_zero_of_lt {k : ℕ} (h : EchelonAbove k A) {i : Fin m} {j : Fin n} (left : (j : ℕ) < k)
    (below : (j : ℕ) < i) : A i j = 0 := by
  induction j using WellFoundedLT.induction generalizing i with
  | ind j ih =>
    -- Row `j` is zero left of the diagonal, so nothing below it stands in column `j`.
    refine @h ⟨j, below.trans i.isLt⟩ i below left j fun j₁ lt => ?_
    exact ih j₁ lt (lt_trans lt left) lt

/-- Rows that are not settled yet may be exchanged. -/
theorem swapRows {k : ℕ} (h : EchelonAbove k A) {a b : Fin m} (ha : k ≤ a) (hb : k ≤ b) :
    EchelonAbove k (A.submatrix (Equiv.swap a b) id) := by
  intro i₁ i₂ lt settled j₂ zero
  have fixed : Equiv.swap a b i₁ = i₁ :=
    Equiv.swap_apply_of_ne_of_ne (Fin.ne_of_lt (settled.trans_le ha)) (Fin.ne_of_lt (settled.trans_le hb))
  rw [submatrix_apply, id_eq]
  refine @h i₁ _ ?_ settled j₂ fun j₁ left => ?_
  · rw [Equiv.swap_apply_def]
    split_ifs
    · exact settled.trans_le hb
    · exact settled.trans_le ha
    · exact lt
  · have entry := zero j₁ left
    rwa [submatrix_apply, fixed] at entry

/-- A multiple of a row that is not settled yet may be added to the rows below it. -/
theorem addMultiples {k : Fin m} (h : EchelonAbove k A) {c : Fin m → K} (above : ∀ i ≤ k, c i = 0) :
    EchelonAbove k (A.addMultiples k c) := by
  intro i₁ i₂ lt settled j₂ zero
  rw [addMultiples_eq_self (above i₁ (le_of_lt settled))] at zero
  rw [addMultiples_apply, h lt settled zero, h settled settled zero, mul_zero, add_zero]

/-- A row below whose pivot everything is zero, as far as the pivot goes, is settled. -/
theorem succ {k : Fin m} (h : EchelonAbove k A) {c : Fin n} (pivot : A k c ≠ 0)
    (below : ∀ i > k, ∀ j ≤ c, A i j = 0) : EchelonAbove (k + 1) A := by
  intro i₁ i₂ lt settled j₂ zero
  rcases (Nat.lt_succ_iff.mp settled).eq_or_lt with same | earlier
  · rw [Fin.ext same] at lt zero
    exact below i₂ lt j₂ (le_of_not_gt fun right => pivot (zero c right))
  · exact h lt earlier zero

theorem mono {k l : ℕ} (h : EchelonAbove l A) (le : k ≤ l) : EchelonAbove k A :=
  fun _ _ lt settled _ zero => h lt (settled.trans_le le) zero

theorem swapRows_iff {k : ℕ} {a b : Fin m} (ha : k ≤ a) (hb : k ≤ b) :
    EchelonAbove k (A.submatrix (Equiv.swap a b) id) ↔ EchelonAbove k A := by
  refine ⟨fun h => ?_, fun h => h.swapRows ha hb⟩
  have back := h.swapRows ha hb
  rwa [submatrix_submatrix, ← Equiv.coe_trans, Equiv.swap_swap] at back

theorem addMultiples_iff {k : Fin m} {c : Fin m → K} (above : ∀ i ≤ k, c i = 0) :
    EchelonAbove k (A.addMultiples k c) ↔ EchelonAbove k A := by
  refine ⟨fun h => ?_, fun h => h.addMultiples above⟩
  have back := h.addMultiples (c := -c) fun i le => neg_eq_zero.mpr (above i le)
  rwa [addMultiples_neg (above k le_rfl)] at back

/-- **One step down.** Once the search has passed over columns of zeros, row `k` and the rows above it are
settled by the multiples of row `k` that clear the column of the pivot, and by no others. -/
theorem step_iff {k : Fin m} {c : Fin n} (pivot : A k c ≠ 0)
    (passed : ∀ i, k ≤ i → ∀ j < c, (k : ℕ) ≤ j → A i j = 0) {d : Fin m → K}
    (above : ∀ i ≤ k, d i = 0) :
    EchelonAbove (k + 1) (A.addMultiples k d) ↔
      EchelonAbove k A ∧ ∀ i > k, A i c + d i * A k c = 0 := by
  -- Left of step `k` this is the invariant, from there on what the search found.
  have zeros (settled : EchelonAbove k A) (i : Fin m) (le : k ≤ i) (j : Fin n) (left : j < c) :
      A i j = 0 := by
    rcases lt_or_ge (j : ℕ) k with small | large
    · exact settled.eq_zero_of_lt small (small.trans_le le)
    · exact passed i le j left large
  constructor
  · intro h
    have settled := (addMultiples_iff above).mp (h.mono (Nat.le_succ k))
    refine ⟨settled, fun i lt => @h k i lt (Nat.lt_succ_self k) c fun j left => ?_⟩
    rw [addMultiples_eq_self (above k le_rfl), zeros settled k le_rfl j left]
  · rintro ⟨settled, cleared⟩
    refine succ (c := c) ((addMultiples_iff above).mpr settled) ?_ fun i lt j le => ?_
    · rwa [addMultiples_eq_self (above k le_rfl)]
    · rw [addMultiples_apply]
      rcases le.eq_or_lt with rfl | left
      · exact cleared i lt
      · rw [zeros settled i lt.le j left, zeros settled k le_rfl j left, mul_zero, add_zero]

/-- In echelon form all rows are settled. -/
theorem of_isRowEchelon (h : A.IsRowEchelon) (k : ℕ) : EchelonAbove k A :=
  fun _ _ lt _ _ zero => h lt zero

/-- When nothing is left to search, the settled rows decide whether the matrix is in echelon form. -/
theorem isRowEchelon_iff {k : ℕ} (rest : ∀ i : Fin m, k ≤ i → ∀ j : Fin n, k ≤ j → A i j = 0) :
    A.IsRowEchelon ↔ EchelonAbove k A := by
  refine ⟨fun h => of_isRowEchelon h k, fun h i₁ i₂ lt j₂ zero => ?_⟩
  rcases lt_or_ge (i₁ : ℕ) k with settled | unsettled
  · exact h lt settled zero
  · have below : k ≤ (i₂ : ℕ) := unsettled.trans (le_of_lt lt)
    rcases lt_or_ge (j₂ : ℕ) k with left | right
    · exact h.eq_zero_of_lt left (left.trans_le below)
    · exact rest i₂ below j₂ right

end EchelonAbove

theorem IsRowEchelon.eq_zero_of_lt (h : A.IsRowEchelon) {i : Fin m} {j : Fin n}
    (below : (j : ℕ) < i) : A i j = 0 :=
  (EchelonAbove.of_isRowEchelon h n).eq_zero_of_lt j.isLt below

/-! ## Up -/

namespace IsPivotedBy

variable {l : Fin m → WithTop (Fin n)}

theorem eq_coe_iff (h : A.IsPivotedBy l) {i : Fin m} {c : Fin n} :
    l i = c ↔ A.IsLeadingEntry i c := by
  refine ⟨h.isLeadingEntry, fun lead => ?_⟩
  cases found : l i with
  | top => exact absurd (congrFun (h.eq_top_iff.mp found) c) lead.2
  | coe d => rw [(h.isLeadingEntry found).unique lead]

/-- Up to the leading column of a row, the rows below it are zero. -/
theorem eq_zero_of_le (h : A.IsPivotedBy l) {r i : Fin m} (lt : r < i) {j : Fin n}
    (le : (j : WithTop (Fin n)) ≤ l r) : A i j = 0 :=
  h.isRowEchelon lt fun j₁ left =>
    (h.isPivotEntry r).1 j₁ (lt_of_lt_of_le (WithTop.coe_lt_coe.mpr left) le)

/-- A matrix with the same zeros up to the leading columns has the same leading columns. -/
theorem congr (h : A.IsPivotedBy l)
    (zeros : ∀ r, ∀ j : Fin n, (j : WithTop (Fin n)) ≤ l r → (B r j = 0 ↔ A r j = 0)) :
    B.IsPivotedBy l := by
  refine isPivotedBy_iff.mpr ⟨h.monotone, h.strictMonoOn, fun r => ⟨fun j lt => ?_, fun c same => ?_⟩⟩
  · exact (zeros r j lt.le).mpr ((h.isPivotEntry r).1 j lt)
  · exact mt (zeros r c same.ge).mp ((h.isPivotEntry r).2 c same)

/-- Multiples of a row added to the rows above it change nothing up to the leading columns. -/
theorem addMultiples_apply_of_le (h : A.IsPivotedBy l) {i : Fin m} {c : Fin m → K}
    (below : ∀ r, i ≤ r → c r = 0) {r : Fin m} {j : Fin n} (le : (j : WithTop (Fin n)) ≤ l r) :
    A.addMultiples i c r j = A r j := by
  rcases lt_or_ge r i with above | notAbove
  · rw [addMultiples_apply, h.eq_zero_of_le above le, mul_zero, add_zero]
  · rw [addMultiples_eq_self (below r notAbove)]

end IsPivotedBy

/-- The leading entries are one in the columns `l`, and the columns of the rows from row `s` on are cleared
above. -/
structure ReducedFrom (s : ℕ) (l : Fin m → WithTop (Fin n)) (A : Matrix (Fin m) (Fin n) K) :
    Prop where
  pivoted : A.IsPivotedBy l
  eq_one : ∀ i c, l i = (c : Fin n) → A i c = 1
  cleared : ∀ i : Fin m, s ≤ i → ∀ c, l i = (c : Fin n) → ∀ r < i, A r c = 0

namespace ReducedFrom

variable {l : Fin m → WithTop (Fin n)}

/-- A row without a leading column has nothing to clear. -/
theorem skip {i : Fin m} (h : ReducedFrom (i + 1) l A) (none : l i = ⊤) : ReducedFrom i l A := by
  refine ⟨h.pivoted, h.eq_one, fun i' le c lead r lt => ?_⟩
  rcases le.eq_or_lt with same | later
  · rw [← Fin.ext same, none] at lead
    cases lead
  · exact h.cleared i' later c lead r lt

/-- The leading column of a row is cleared by adding multiples of the row to the rows above. -/
theorem clear {i : Fin m} (h : ReducedFrom (i + 1) l A) {c : Fin n} (lead : l i = c) :
    ReducedFrom i l (A.addMultiples i fun r => if i ≤ r then 0 else -A r c) := by
  have below : ∀ r, i ≤ r → (if i ≤ r then 0 else -A r c) = 0 := fun r le => if_pos le
  have unchanged {r : Fin m} {j : Fin n} (le : (j : WithTop (Fin n)) ≤ l r) :
      A.addMultiples i (fun r => if i ≤ r then 0 else -A r c) r j = A r j :=
    h.pivoted.addMultiples_apply_of_le below le
  refine ⟨h.pivoted.congr fun r j le => by rw [unchanged le], fun r d same => ?_,
    fun i' le d same r lt => ?_⟩
  · rw [unchanged same.ge, h.eq_one r d same]
  · rw [addMultiples_apply]
    rcases le.eq_or_lt with here | later
    · -- The column of row `i` itself.
      obtain rfl : i = i' := Fin.ext here
      obtain rfl : c = d := WithTop.coe_injective (lead.symm.trans same)
      rw [if_neg (not_le.mpr lt), h.eq_one i c lead, mul_one, add_neg_cancel]
    · -- A column that was cleared before, also in row `i`.
      rw [h.cleared i' later d same r lt, h.cleared i' later d same i later, mul_zero, add_zero]

/-- When all columns are cleared the form is reduced. -/
theorem isReducedRowEchelon (h : ReducedFrom 0 l A) : A.IsReducedRowEchelon where
  isRowEchelon := h.pivoted.isRowEchelon
  eq_one i c lead := h.eq_one i c (h.pivoted.eq_coe_iff.mpr lead)
  eq_zero r i c lt lead := h.cleared i (Nat.zero_le _) c (h.pivoted.eq_coe_iff.mpr lead) r lt

end ReducedFrom

end Matrix
