import ExactAlgebra.Proofs.RowEchelon

/-!
# Elimination on the real axis

Elimination in a grid of real quantities always comes to an end with a result. The invariant that carries
the way down is `Matrix.EchelonAbove`: before step `k` the rows above row `k` are in echelon form with
nothing left to do below them. So everything below row `k` and left of column `k` is zero, and the search
that starts there finds the leftmost column that is not settled, wherever the earlier pivots lie.

## Main definitions

* `Elimination.Reduces`: a reduction that has a result, in echelon form and row equivalent to its start.
* `Grid.ReducedForm`: a reduced row echelon form with the row space of a grid.

## Main statements

* `Grid.IsReal.step`: one step of the way down.
* `Grid.IsReal.echelon_reduces`: the way down succeeds, and its exchanges of rows are counted.
* `Grid.IsReal.clearLead`: one step of the way up.
* `Grid.IsReal.reducedEchelon`: both ways lead to the reduced form.
* `Grid.ReducedForm.sameValues_iff`: the reduced form is a complete invariant of the row space.
-/

open Matrix (EchelonAbove RowEquivalent ReducedFrom rowSpace)

namespace ExactAlgebra

namespace Grid

variable {m n : ℕ} {g : Grid m n}

/-! ## Down -/

/-- **One step of the way down**: the pivot that was found is brought to its row, which keeps what is
settled, and clears its column. -/
theorem IsReal.step (real : g.IsReal) {k r : Fin m} {c : Fin n} (above : EchelonAbove k g.re)
    (found : g.findPivot? k = some (r, c)) :
    ∃ h, (g.swapRows k r).clearBelow? k c = some h ∧ h.IsReal ∧ EchelonAbove (k + 1) h.re ∧
      RowEquivalent (if k = r then 1 else -1) g.re h.re := by
  obtain ⟨le, -⟩ := of_findPivot?_eq_some found
  obtain ⟨nonzero, passed⟩ := swapRows_of_findPivot?_eq_some found
  have realS := real.swapRows k r
  have values := re_swapRows g k r
  have pivot : (g.swapRows k r).re k c ≠ 0 := realS.isZero_eq_false_iff.mp nonzero
  obtain ⟨h, defined, realH, cleared⟩ := clearBelow?_of_isReal realS pivot
  refine ⟨h, defined, realH, ?_, ?_⟩
  · have zeros : ∀ i, k ≤ i → ∀ j < c, (k : ℕ) ≤ j → (g.swapRows k r).re i j = 0 :=
      fun i le j left right => realS.isZero_iff.mp (passed i le j left right)
    rw [cleared, EchelonAbove.step_iff pivot zeros fun i le => if_pos le]
    refine ⟨values ▸ above.swapRows le_rfl le, fun i lt => ?_⟩
    rw [if_neg (not_le.mpr lt), neg_mul, div_mul_cancel₀ _ pivot, add_neg_cancel]
  · have swapped := RowEquivalent.swapRows g.re k r
    rw [← values] at swapped
    have added := swapped.trans (RowEquivalent.addMultiples (g.swapRows k r).re
      (c := fun i => if i ≤ k then 0 else -((g.swapRows k r).re i c / (g.swapRows k r).re k c))
      (if_pos le_rfl))
    rwa [mul_one, ← cleared] at added

end Grid

namespace Elimination

variable {m n : ℕ}

/-- The reduction has a result in echelon form, which is row equivalent to the grid it started from:
every exchange of rows changed the sign of the minors. -/
def Reduces (e : Elimination m n) (g : Grid m n) : Prop :=
  ∃ h, e.result? = some h ∧ h.IsReal ∧ h.re.IsRowEchelon ∧
    RowEquivalent ((-1) ^ e.swaps) g.re h.re

theorem swaps_cons (p : Pivot) (ps : List Pivot) (result? result?' : Option (Grid m n)) :
    (⟨p :: ps, result?⟩ : Elimination m n).swaps =
      (if p.row = p.step then 0 else 1) + (⟨ps, result?'⟩ : Elimination m n).swaps := by
  by_cases same : p.row = p.step <;> simp [swaps, same, Nat.add_comm]

end Elimination

namespace Grid

variable {m n : ℕ} {g : Grid m n}

/-- A grid without pivots is reduced. -/
theorem IsReal.reduces_self (real : g.IsReal) (echelon : g.re.IsRowEchelon) :
    (⟨[], some g⟩ : Elimination m n).Reduces g :=
  ⟨g, rfl, real, echelon, RowEquivalent.refl g.re⟩

/-- The steps from step `k` on succeed once the rows above row `k` are settled. -/
theorem IsReal.eliminate_reduces (real : g.IsReal) {k len : ℕ} (total : k + len = n)
    (above : EchelonAbove k g.re) : (eliminate (List.range' k len) g).Reduces g := by
  induction len generalizing k g with
  | zero =>
    -- All columns were searched.
    refine real.reduces_self ((EchelonAbove.isRowEchelon_iff fun r _ c right => ?_).mpr above)
    exact absurd c.isLt (not_lt.mpr (total ▸ right))
  | succ len ih =>
    rw [List.range'_succ, eliminate]
    split
    case isFalse beyond =>
      refine real.reduces_self ((EchelonAbove.isRowEchelon_iff fun r le c _ => ?_).mpr above)
      exact absurd (le.trans_lt r.isLt) beyond
    case isTrue below =>
      cases found : g.findPivot? k with
      | none =>
        refine real.reduces_self ((EchelonAbove.isRowEchelon_iff fun r le c right => ?_).mpr above)
        exact real.isZero_iff.mp (findPivot?_eq_none.mp found r le c right)
      | some pivot =>
        obtain ⟨r, c⟩ := pivot
        obtain ⟨h, defined, realH, aboveH, equivalent⟩ :=
          IsReal.step (k := ⟨k, below⟩) real above found
        have total' : k + 1 + len = n := by omega
        obtain ⟨final, result, realF, echelon, rest⟩ := ih realH total' aboveH
        simp only [defined]
        refine ⟨final, result, realF, echelon, ?_⟩
        -- One more sign if the pivot was brought from another row.
        rw [Elimination.swaps_cons _ _ _ (eliminate (List.range' (k + 1) len) h).result?, pow_add]
        have sign : (if (⟨k, below⟩ : Fin m) = r then 1 else -1 : ℚ)
            = (-1) ^ (if (r : ℕ) = k then 0 else 1) := by
          by_cases same : k = (r : ℕ) <;> simp [Fin.ext_iff, same, eq_comm]
        rw [← sign]
        exact equivalent.trans rest

/-- **The way down succeeds** in every grid on the real axis, and leads to a real echelon form with rows
equivalent to those of the grid. A grid of one row is that form already, and is left alone. -/
theorem IsReal.echelon_reduces (real : g.IsReal) : g.echelon.Reduces g := by
  unfold echelon
  split
  case isTrue one =>
    subst one
    exact real.reduces_self fun i₁ i₂ lt => absurd (Subsingleton.elim i₁ i₂) (ne_of_lt lt)
  case isFalse =>
    rw [List.range_eq_range']
    exact real.eliminate_reduces (Nat.zero_add n) (EchelonAbove.zero g.re)

/-! ## Up -/

/-- Normalization makes the leading entries one and leaves them where they are. -/
theorem IsReal.normalize (real : g.IsReal) (echelon : g.re.IsRowEchelon) :
    ∃ h, g.normalize? = some h ∧ h.IsReal ∧ ReducedFrom m g.leads h.re ∧
      rowSpace h.re = rowSpace g.re := by
  obtain ⟨h, defined, realH, scaled⟩ := normalize?_of_isReal real
  have pivoted := real.hasZerosOf.isPivotedBy_leads echelon
  have entry (i : Fin m) (j : Fin n) : h.re i j = g.leadingFactor i * g.re i j := by
    rw [scaled]
    rfl
  refine ⟨h, defined, realH, ⟨pivoted.congr fun i j _ => ?_, fun i c lead => ?_, fun i le => ?_⟩, ?_⟩
  · rw [entry, mul_eq_zero_iff_left (real.leadingFactor_ne_zero i)]
  · have nonzero := (pivoted.isPivotEntry i).2 c lead
    rw [leads_eq_coe, get_leadingColumns] at lead
    rw [entry, leadingFactor, lead]
    exact inv_mul_cancel₀ nonzero
  · exact absurd i.isLt (not_lt.mpr le)
  · rw [scaled]
    exact (RowEquivalent.scaleRows g.re real.leadingFactor_ne_zero).rowSpace_eq

/-- **One step of the way up**: the leading column of row `i` is cleared, if the row has one. -/
theorem IsReal.clearLead (real : g.IsReal) {r : Grid m n} {i : Fin m}
    (reduced : ReducedFrom (i + 1) r.leads g.re) :
    (g.clearLead r.leadingColumns i).IsReal ∧
      ReducedFrom i r.leads (g.clearLead r.leadingColumns i).re ∧
      rowSpace (g.clearLead r.leadingColumns i).re = rowSpace g.re := by
  unfold Grid.clearLead
  cases found : r.leadingColumns.get i with
  | none => exact ⟨real, reduced.skip (leads_eq_top.mpr found), rfl⟩
  | some c =>
    refine ⟨real.clearAbove i c, ?_, ?_⟩
    · rw [real.re_clearAbove]
      exact reduced.clear (leads_eq_coe.mpr found)
    · rw [real.re_clearAbove]
      exact (RowEquivalent.addMultiples g.re (if_pos le_rfl)).rowSpace_eq

/-- The way up from the bottom row to row `s`. -/
theorem IsReal.clearLeading_drop (real : g.IsReal) {r : Grid m n} (reduced : ReducedFrom m r.leads g.re)
    {s : ℕ} (le : s ≤ m) {h : Grid m n}
    (cleared : ((List.finRange m).drop s).foldr (Grid.clearLead r.leadingColumns) g = h) :
    h.IsReal ∧ ReducedFrom s r.leads h.re ∧ rowSpace h.re = rowSpace g.re := by
  -- The fold ends with row `s`, so the induction goes up from the bottom row.
  induction le using Nat.decreasingInduction generalizing h with
  | self =>
    rw [List.drop_eq_nil_of_le (List.length_finRange.le), List.foldr_nil] at cleared
    exact cleared ▸ ⟨real, reduced, rfl⟩
  | of_succ s lt ih =>
    have here : s < (List.finRange m).length := lt.trans_eq List.length_finRange.symm
    rw [List.drop_eq_getElem_cons here, List.getElem_finRange, List.foldr_cons] at cleared
    obtain ⟨realB, reducedB, sameB⟩ := ih rfl
    obtain ⟨realH, reducedH, sameH⟩ := IsReal.clearLead (i := ⟨s, lt⟩) realB reducedB
    exact cleared ▸ ⟨realH, reducedH, sameH.trans sameB⟩

/-- A grid on the real axis is a reduced row echelon form of another grid. -/
structure ReducedForm (g h : Grid m n) : Prop where
  real : h.IsReal
  isReduced : h.re.IsReducedRowEchelon
  rowSpace_eq : rowSpace h.re = rowSpace g.re

/-- **Both ways** lead from a grid on the real axis to its reduced form: down to an echelon form, whose leading
entries are made one, and up again with the columns of these cleared. -/
theorem IsReal.reducedEchelon (real : g.IsReal) :
    ∃ h, g.reducedEchelon.result? = some h ∧ g.ReducedForm h := by
  obtain ⟨e, result, realE, echelon, equivalent⟩ := real.echelon_reduces
  obtain ⟨d, normal, realD, reducedD, sameD⟩ := realE.normalize echelon
  obtain ⟨realH, reducedH, sameH⟩ := realD.clearLeading_drop reducedD (Nat.zero_le m) rfl
  refine ⟨_, ?_, realH, reducedH.isReducedRowEchelon, ?_⟩
  · rw [Grid.reducedEchelon, result, Option.bind_some, normal, Option.map_some]
    rfl
  · rw [sameH, sameD, equivalent.rowSpace_eq]

/-- The reduced form does not depend on the name of the shape. -/
theorem ReducedForm.cast {k l : ℕ} {h : Grid m n} (form : g.ReducedForm h) (rows : m = k)
    (columns : n = l) : (g.cast rows columns).ReducedForm (h.cast rows columns) := by
  subst rows columns
  rwa [cast_rfl, cast_rfl]

/-- Reduced forms are equal exactly when the row spaces that they come from are. -/
theorem ReducedForm.sameValues_iff {g' h h' : Grid m n} (formG : g.ReducedForm g')
    (formH : h.ReducedForm h') : g'.SameValues h' ↔ rowSpace g.re = rowSpace h.re := by
  rw [formG.real.sameValues_iff formH.real, ← formG.rowSpace_eq, ← formH.rowSpace_eq]
  exact ⟨congrArg rowSpace, formG.isReduced.eq_of_rowSpace_eq formH.isReduced⟩

end Grid

end ExactAlgebra
