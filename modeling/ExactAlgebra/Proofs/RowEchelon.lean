import ExactAlgebra.Proofs.EchelonForm
import ExactAlgebra.Proofs.RealGrid

/-!
# Grids in row echelon form

A grid is in row echelon form when each row begins further to the right than the rows above it, and the
rows of zeros come last. Only the zeros of the cells matter for this. So it can be seen in any matrix over
a field that has its zeros where the grid has them: in the real parts when all cells lie on the real axis,
in the complex values always. And the rows that are not zero can be counted there: their number is the
rank of the matrix.

## Main definitions

* `Grid.IsEchelon`: row echelon form.
* `Grid.leads`: the leading columns of the rows.
* `Matrix.HasZerosOf`: a matrix with the zeros of a grid.

## Main statements

* `Matrix.HasZerosOf.isRowEchelon_iff`, `Matrix.HasZerosOf.isReducedRowEchelon_iff`: row echelon form of the
  matrix is that of the grid.
* `Matrix.HasZerosOf.rank_eq`: the rank is the number of rows that are not zero.
-/

namespace ExactAlgebra

/-- A row with a cell that is not zero begins there or further to the left. -/
theorem Row.exists_leadingColumn? {n : ℕ} {r : Row n} {j : Fin n} (nonzero : (r.get j).isZero = false) :
    ∃ c ≤ j, r.leadingColumn? = some c := by
  cases found : r.leadingColumn? with
  | none =>
    rw [leadingColumn?_eq_none.mp found j] at nonzero
    cases nonzero
  | some c =>
    refine ⟨c, le_of_not_gt fun left => ?_, rfl⟩
    rw [(leadingColumn?_eq_some.mp found).2 j left] at nonzero
    cases nonzero

namespace Grid

variable {m n : ℕ} {g : Grid m n}

/-- Row echelon form: above a row that is not zero, every row begins further to the left. -/
def IsEchelon (g : Grid m n) : Prop :=
  ∀ i₁ i₂ : Fin m, i₁ < i₂ → ∀ c₂, (g.get i₂).leadingColumn? = some c₂ →
    ∃ c₁ < c₂, (g.get i₁).leadingColumn? = some c₁

instance (g : Grid m n) : Decidable g.IsEchelon :=
  inferInstanceAs (Decidable (∀ i₁ i₂ : Fin m, i₁ < i₂ → ∀ c₂ : Fin n,
    (g.get i₂).leadingColumn? = some c₂ → ∃ c₁ < c₂, (g.get i₁).leadingColumn? = some c₁))

/-- The leading columns of the rows. -/
def leads (g : Grid m n) (i : Fin m) : WithTop (Fin n) :=
  match g.leadingColumns.get i with
  | none => ⊤
  | some c => c

theorem leads_eq_top {i : Fin m} : g.leads i = ⊤ ↔ g.leadingColumns.get i = none := by
  unfold leads
  cases g.leadingColumns.get i with
  | none => exact iff_of_true rfl rfl
  | some c => exact iff_of_false WithTop.coe_ne_top nofun

theorem leads_eq_coe {i : Fin m} {c : Fin n} : g.leads i = c ↔ g.leadingColumns.get i = some c := by
  unfold leads
  cases g.leadingColumns.get i with
  | none => exact iff_of_false (WithTop.top_ne_coe) nofun
  | some d => rw [WithTop.coe_inj, Option.some_inj]

/-- The rows that are not zero are those with a leading column. -/
theorem nonzeroRows_eq_card (g : Grid m n) :
    g.nonzeroRows = (Finset.univ.filter fun i => g.leads i ≠ ⊤).card := by
  have rows : g.toList = (List.finRange m).map g.get := by
    refine List.ext_getElem (by simp) fun i _ _ => ?_
    simp [get_eq_getElem]
  have leading (i : Fin m) : g.leads i ≠ ⊤ ↔ (g.get i).leadingColumn?.isSome = true := by
    rw [Ne, leads_eq_top, get_leadingColumns, Option.isSome_iff_ne_none]
  rw [nonzeroRows, rows, List.filter_map, List.length_map, Finset.filter_congr fun i _ => leading i,
    Finset.card_def, Finset.filter_val, Fin.univ_def, Multiset.filter_coe, Multiset.coe_card]
  simp only [Bool.decide_eq_true, Function.comp_def]

theorem nonzeroRows_le (g : Grid m n) : g.nonzeroRows ≤ m := by
  rw [nonzeroRows_eq_card]
  exact (Finset.card_filter_le _ _).trans_eq (Finset.card_fin m)

end Grid

end ExactAlgebra

open ExactAlgebra (Grid Row)

namespace Matrix

variable {K : Type*} [Field K] {m n : ℕ} {A : Matrix (Fin m) (Fin n) K} {g : Grid m n}

/-- A matrix has its zeros where a grid has them. -/
def HasZerosOf (A : Matrix (Fin m) (Fin n) K) (g : Grid m n) : Prop :=
  ∀ i j, A i j = 0 ↔ (g.cell i j).isZero = true

namespace HasZerosOf

theorem ne_zero_iff (zeros : A.HasZerosOf g) {i : Fin m} {j : Fin n} :
    A i j ≠ 0 ↔ (g.cell i j).isZero = false := by
  rw [Ne, zeros i j, Bool.not_eq_true]

/-- Row echelon form of the matrix is that of the grid. -/
theorem isRowEchelon_iff (zeros : A.HasZerosOf g) : A.IsRowEchelon ↔ g.IsEchelon := by
  constructor
  · intro echelon i₁ i₂ lt c₂ lead
    -- If the row above began no further to the left, the leading cell would be zero.
    have nonzero := (Row.leadingColumn?_eq_some.mp lead).1
    by_contra none
    push Not at none
    refine zeros.ne_zero_iff.mpr nonzero (echelon lt fun j left => ?_)
    by_contra entry
    obtain ⟨c₁, le, lead₁⟩ := Row.exists_leadingColumn? (zeros.ne_zero_iff.mp entry)
    exact none c₁ (lt_of_le_of_lt le left) lead₁
  · intro echelon i₁ i₂ lt j₂ left
    by_contra entry
    obtain ⟨c₂, le, lead₂⟩ := Row.exists_leadingColumn? (zeros.ne_zero_iff.mp entry)
    obtain ⟨c₁, lt', lead₁⟩ := echelon i₁ i₂ lt c₂ lead₂
    have nonzero := (Row.leadingColumn?_eq_some.mp lead₁).1
    exact zeros.ne_zero_iff.mpr nonzero (left c₁ (lt_of_lt_of_le lt' le))

/-- A row of the grid begins at the leading entry of the matrix. -/
theorem leadingColumn?_iff (zeros : A.HasZerosOf g) {i : Fin m} {c : Fin n} :
    (g.get i).leadingColumn? = some c ↔ A.IsLeadingEntry i c := by
  rw [Row.leadingColumn?_eq_some, and_comm]
  exact and_congr (forall₂_congr fun j _ => (zeros i j).symm) zeros.ne_zero_iff.symm

/-- Reduced row echelon form of the matrix, where the rows of the grid begin. -/
theorem isReducedRowEchelon_iff (zeros : A.HasZerosOf g) :
    A.IsReducedRowEchelon ↔ g.IsEchelon ∧ ∀ i c, (g.get i).leadingColumn? = some c →
      A i c = 1 ∧ ∀ r < i, (g.cell r c).isZero = true := by
  constructor
  · intro reduced
    refine ⟨zeros.isRowEchelon_iff.mp reduced.isRowEchelon, fun i c lead => ?_⟩
    have entry := zeros.leadingColumn?_iff.mp lead
    exact ⟨reduced.eq_one entry, fun r above => (zeros r c).mp (reduced.eq_zero above entry)⟩
  · rintro ⟨echelon, leads⟩
    refine ⟨zeros.isRowEchelon_iff.mpr echelon, fun i c entry => ?_, fun r i c above entry => ?_⟩
    · exact (leads i c (zeros.leadingColumn?_iff.mpr entry)).1
    · exact (zeros r c).mpr ((leads i c (zeros.leadingColumn?_iff.mpr entry)).2 r above)

/-- A matrix in echelon form is pivoted by the leading columns. -/
theorem isPivotedBy_leads (zeros : A.HasZerosOf g) (echelon : A.IsRowEchelon) :
    A.IsPivotedBy g.leads := by
  refine ⟨echelon, fun i => ⟨fun j lt => ?_, fun c same => ?_⟩⟩
  · cases found : g.leadingColumns.get i with
    | none =>
      rw [Grid.get_leadingColumns, Row.leadingColumn?_eq_none] at found
      exact (zeros i j).mpr (found j)
    | some c =>
      rw [Grid.leads_eq_coe.mpr found, WithTop.coe_lt_coe] at lt
      rw [Grid.get_leadingColumns, Row.leadingColumn?_eq_some] at found
      exact (zeros i j).mpr (found.2 j lt)
  · rw [Grid.leads_eq_coe, Grid.get_leadingColumns, Row.leadingColumn?_eq_some] at same
    exact zeros.ne_zero_iff.mpr same.1

/-- **The rank of a matrix in echelon form** is the number of rows that are not zero. -/
theorem rank_eq (zeros : A.HasZerosOf g) (echelon : A.IsRowEchelon) : A.rank = g.nonzeroRows := by
  rw [(zeros.isPivotedBy_leads echelon).rank_eq, Grid.nonzeroRows_eq_card]

end HasZerosOf

end Matrix

namespace ExactAlgebra

/-- On the real axis the zeros are those of the real parts. -/
theorem Grid.IsReal.hasZerosOf {m n : ℕ} {g : Grid m n} (real : g.IsReal) : g.re.HasZerosOf g :=
  fun _ _ => real.isZero_iff.symm

end ExactAlgebra
