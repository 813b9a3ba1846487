import ExactAlgebra.Proofs.Determinant
import ExactAlgebra.Proofs.MatrixArithmetic
import ExactAlgebra.Proofs.Rank
import ExactAlgebra.Proofs.Reduction
import Mathlib.LinearAlgebra.Matrix.NonsingularInverse

/-!
# Regular matrices

Three computations tell whether a real square matrix is regular: its determinant is not zero, its rank is
full, and full reduction makes the identity matrix of it. They agree because elimination keeps the row space,
and a row space has one reduced form. For a regular matrix the row space is that of the identity matrix.

The same argument solves systems of equations. The rows of a regular matrix `A`, each followed by a row of `B`,
have the row space of the rows of the identity matrix, each followed by a row of `A⁻¹ * B`. These are in
reduced form already, so they are what full reduction leaves: the solution stands where the right side was.

## Main definitions

* `Matrix.augmented`, `Grid.augmented`: rows followed by rows, for matrices over a field and for grids.

## Main statements

* `Matrix.isReducedRowEchelon_of_unit_columns`: reduced forms with a leading one in every row.
* `Matrix.IsReducedRowEchelon.eq_one_iff_rank_eq`, `Matrix.IsReducedRowEchelon.eq_augmented`: what the reduced
  form of a regular matrix is, and that of an augmented one.
* `Grid.IsReal.exists_solution`: full reduction of an augmented grid.
* `Matrix.regular_of_isReal`: the three computations, and the solution of systems.
-/

namespace Matrix

variable {K : Type*} [Field K] {m n k : ℕ}

/-! ## Reduced forms over a field -/

/-- A matrix whose rows lead in columns of a unit matrix, from the left to the right, is in reduced row echelon
form. -/
theorem isReducedRowEchelon_of_unit_columns {A : Matrix (Fin m) (Fin n) K} (lead : Fin m → Fin n)
    (increasing : StrictMono lead) (unit : ∀ r i, A r (lead i) = if r = i then 1 else 0)
    (before : ∀ i, ∀ j < lead i, A i j = 0) : A.IsReducedRowEchelon := by
  have leads (i : Fin m) : A.IsLeadingEntry i (lead i) := by
    refine ⟨before i, ?_⟩
    rw [unit, if_pos rfl]
    exact one_ne_zero
  refine ⟨?_, ?_, ?_⟩
  · intro i₁ i₂ lt j zero
    -- The leading one of the upper row is not among the zeros, so these end before the lower row leads.
    have left : j ≤ lead i₁ := by
      by_contra right
      exact (leads i₁).2 (zero (lead i₁) (not_le.mp right))
    exact before i₂ j (left.trans_lt (increasing lt))
  · intro i c leading
    rw [leading.unique (leads i), unit, if_pos rfl]
  · intro i₁ i₂ c lt leading
    rw [leading.unique (leads i₂), unit, if_neg lt.ne]

/-- The unit matrix is in reduced form, and so it is what full reduction has to leave of every regular
matrix. -/
theorem isReducedRowEchelon_one : (1 : Matrix (Fin n) (Fin n) K).IsReducedRowEchelon :=
  isReducedRowEchelon_of_unit_columns id strictMono_id (fun _ _ => one_apply)
    fun _ _ left => one_apply_ne left.ne'

/-- The augmented matrix: the rows of one matrix, each followed by the row of another one. -/
def augmented (A : Matrix (Fin m) (Fin n) K) (B : Matrix (Fin m) (Fin k) K) :
    Matrix (Fin m) (Fin (n + k)) K :=
  fun i => Fin.append (A i) (B i)

/-- Multiplying an augmented matrix from the left multiplies both its parts, since a product is taken column by
column. -/
theorem mul_augmented {l : ℕ} (P : Matrix (Fin l) (Fin m) K) (A : Matrix (Fin m) (Fin n) K)
    (B : Matrix (Fin m) (Fin k) K) : P * augmented A B = augmented (P * A) (P * B) := by
  funext i j
  induction j using Fin.addCases with
  | left j => simp only [augmented, mul_apply, Fin.append_left]
  | right j => simp only [augmented, mul_apply, Fin.append_right]

/-- A unit matrix may be augmented by anything. -/
theorem isReducedRowEchelon_augmented_one (X : Matrix (Fin n) (Fin k) K) :
    (augmented (1 : Matrix (Fin n) (Fin n) K) X).IsReducedRowEchelon := by
  refine isReducedRowEchelon_of_unit_columns (Fin.castAdd k) (Fin.strictMono_castAdd k) ?_ ?_
  · intro r i
    rw [augmented, Fin.append_left, one_apply]
  · intro i j left
    obtain ⟨j, rfl⟩ : ∃ j' : Fin n, Fin.castAdd k j' = j :=
      ⟨⟨j, lt_trans left i.isLt⟩, rfl⟩
    rw [augmented, Fin.append_left]
    exact one_apply_ne (ne_of_gt left)

theorem rowSpace_mul_le {l : ℕ} (P : Matrix (Fin l) (Fin m) K) (A : Matrix (Fin m) (Fin n) K) :
    rowSpace (P * A) ≤ rowSpace A :=
  rowSpace_le fun i => mem_rowSpace.mpr ⟨P i, rfl⟩

/-- The row space is all of the space exactly if the rank is full. The rank is the dimension of the row space,
and there is one space of full dimension. -/
theorem rowSpace_eq_top_iff {A : Matrix (Fin m) (Fin n) K} : rowSpace A = ⊤ ↔ A.rank = n := by
  rw [rank_eq_finrank_rowSpace]
  constructor
  · intro top
    rw [top, finrank_top, Module.finrank_fin_fun]
  · intro full
    exact Submodule.eq_top_of_finrank_eq (full.trans (Module.finrank_fin_fun K).symm)

variable {A R : Matrix (Fin n) (Fin n) K}

/-- A determinant other than zero means full rank. -/
theorem det_ne_zero_iff_rank_eq : A.det ≠ 0 ↔ A.rank = n := by
  constructor
  · intro regular
    have rank := rank_of_isUnit A ((isUnit_iff_isUnit_det A).mpr regular.isUnit)
    rwa [Fintype.card_fin] at rank
  · intro full zero
    obtain ⟨P, inverse⟩ : ∃ P, P * A = 1 := by
      apply exists_mul_of_rowSpace_le
      rw [rowSpace_eq_top_iff.mpr full]
      exact le_top
    have one : P.det * A.det = 1 := by rw [← det_mul, inverse, det_one]
    rw [zero, mul_zero] at one
    exact zero_ne_one one

/-- The reduced form of a matrix with rows for all vectors is the unit matrix. -/
theorem IsReducedRowEchelon.eq_one_iff_rank_eq (reduced : R.IsReducedRowEchelon)
    (same : rowSpace R = rowSpace A) : R = 1 ↔ A.rank = n := by
  have unit : rowSpace (1 : Matrix (Fin n) (Fin n) K) = ⊤ := by
    rw [rowSpace_eq_top_iff, ← det_ne_zero_iff_rank_eq, det_one]
    exact one_ne_zero
  rw [← rowSpace_eq_top_iff, ← same]
  constructor
  · intro one
    rw [one, unit]
  · intro top
    exact reduced.eq_of_rowSpace_eq isReducedRowEchelon_one (top.trans unit.symm)

/-- The reduced form of `A` augmented by `B` is the unit matrix augmented by the solution of `A * X = B`. -/
theorem IsReducedRowEchelon.eq_augmented {B : Matrix (Fin n) (Fin k) K}
    {S : Matrix (Fin n) (Fin (n + k)) K} (regular : A.det ≠ 0) (reduced : S.IsReducedRowEchelon)
    (same : rowSpace S = rowSpace (augmented A B)) : S = augmented 1 (A⁻¹ * B) := by
  apply reduced.eq_of_rowSpace_eq (isReducedRowEchelon_augmented_one _)
  have unit : IsUnit A.det := regular.isUnit
  have forth : A⁻¹ * augmented A B = augmented 1 (A⁻¹ * B) := by
    rw [mul_augmented, nonsing_inv_mul A unit]
  have back : A * augmented 1 (A⁻¹ * B) = augmented A B := by
    rw [mul_augmented, Matrix.mul_one, mul_nonsing_inv_cancel_left A B unit]
  rw [same]
  apply le_antisymm
  · rw [← back]
    exact rowSpace_mul_le _ _
  · rw [← forth]
    exact rowSpace_mul_le _ _

end Matrix

namespace ExactAlgebra

namespace Grid

variable {m n k : ℕ}

/-- The augmented grid: the rows of one grid, each followed by the row of another one. -/
def augmented (g : Grid m n) (h : Grid m k) : Grid m (n + k) :=
  Vector.zipWith (fun (r : Row n) (s : Row k) => r ++ s) g h

theorem cell_augmented_left (g : Grid m n) (h : Grid m k) (i : Fin m) (j : Fin n) :
    (g.augmented h).cell i (Fin.castAdd k j) = g.cell i j := by
  simp [augmented, cell, get_eq_getElem]

theorem cell_augmented_right (g : Grid m n) (h : Grid m k) (i : Fin m) (j : Fin k) :
    (g.augmented h).cell i (Fin.natAdd n j) = h.cell i j := by
  simp [augmented, cell, get_eq_getElem]

/-- The real parts of an augmented grid are the real parts, augmented; so reductions of it can be followed on
the two parts. -/
theorem re_augmented (g : Grid m n) (h : Grid m k) : (g.augmented h).re = g.re.augmented h.re := by
  funext i j
  induction j using Fin.addCases with
  | left j => rw [re_apply, cell_augmented_left, Matrix.augmented, Fin.append_left, re_apply]
  | right j => rw [re_apply, cell_augmented_right, Matrix.augmented, Fin.append_right, re_apply]

/-- Real grids may be put side by side: the cells are those of the one or of the other. -/
theorem IsReal.augmented {g : Grid m n} {h : Grid m k} (realG : g.IsReal) (realH : h.IsReal) :
    (g.augmented h).IsReal := by
  intro i j
  induction j using Fin.addCases with
  | left j => exact cell_augmented_left g h i j ▸ realG i j
  | right j => exact cell_augmented_right g h i j ▸ realH i j

/-- An identity grid is real and its matrix of real parts is the unit matrix, also if its cells are complex
numbers. -/
theorem isReal_identity (n : ℕ) (kind : NumberKind) :
    (identity n kind).IsReal ∧ (identity n kind).re = 1 := by
  refine isReal_of_value_eq fun i j => ?_
  rw [value_identity, Matrix.one_apply, Matrix.one_apply, apply_ite Rat.cast, Rat.cast_one, Rat.cast_zero]

/-- The reduced form is the unit matrix exactly when the rank is full. -/
theorem ReducedForm.sameValues_identity_iff {g h : Grid n n} (form : g.ReducedForm h) (kind : NumberKind) :
    h.SameValues (identity n kind) ↔ g.re.rank = n := by
  obtain ⟨realI, one⟩ := isReal_identity n kind
  rw [form.real.sameValues_iff realI, one]
  exact form.isReduced.eq_one_iff_rank_eq form.rowSpace_eq

/-- Full reduction of the augmented grid of a system with a regular matrix solves the system. -/
theorem IsReal.exists_solution {g : Grid n n} (realG : g.IsReal) (regular : g.re.det ≠ 0) {b : Grid n k}
    (realB : b.IsReal) (kind : NumberKind) :
    ∃ (h : Grid n (n + k)) (x : Grid n k), (g.augmented b).reducedEchelon.result? = some h ∧
      h.SameValues ((identity n kind).augmented x) ∧ (g.multiply x).SameValues b := by
  obtain ⟨h, result, form⟩ := (realG.augmented realB).reducedEchelon
  obtain ⟨realI, one⟩ := isReal_identity n kind
  have reduced : h.re = Matrix.augmented 1 (g.re⁻¹ * b.re) :=
    form.isReduced.eq_augmented regular (form.rowSpace_eq.trans (by rw [re_augmented]))
  -- The solution stands in the columns that were the right side.
  let x : Grid n k := ofFn fun i j => h.cell i (Fin.natAdd n j)
  have cell (i : Fin n) (j : Fin k) : x.cell i j = h.cell i (Fin.natAdd n j) := cell_ofFn _ i j
  have realX : x.IsReal := fun i j => cell i j ▸ form.real i (Fin.natAdd n j)
  have solution : x.re = g.re⁻¹ * b.re := by
    funext i j
    rw [re_apply, cell, ← re_apply, reduced, Matrix.augmented, Fin.append_right]
  refine ⟨h, x, result, ?_, ?_⟩
  · rw [form.real.sameValues_iff (realI.augmented realX), re_augmented, reduced, one, solution]
  · obtain ⟨realP, product⟩ := realG.multiply realX
    rw [realP.sameValues_iff realB, product, solution]
    exact Matrix.mul_nonsing_inv_cancel_left g.re b.re regular.isUnit

end Grid

namespace Matrix

variable {m : Matrix}

/-- The augmented matrix, in general form: the rows of one matrix, each followed by the row of another
one. -/
def augmented (m o : Matrix) (rows : o.rowCount = m.rowCount) : Matrix :=
  ofGrid (m.grid.augmented (rows ▸ o.grid : Grid m.rowCount o.columnCount)) m.rowCount_pos
    (Nat.add_pos_left m.columnCount_pos _)

theorem augmented_mk {r n k : ℕ} (g : Grid r n) (h : Grid r k) {form form' : Form} {rows rows' : 0 < r}
    {columns : 0 < n} {columns' : 0 < k} {square : form.isSquare = true → r = n}
    {square' : form'.isSquare = true → r = k} :
    augmented ⟨form, r, n, g, rows, columns, square⟩ ⟨form', r, k, h, rows', columns', square'⟩ rfl =
      ofGrid (g.augmented h) rows (Nat.add_pos_left columns k) := rfl

theorem rows_augmented {o : Matrix} (rows : o.rowCount = m.rowCount) :
    (m.augmented o rows).rows = List.zipWith (· ++ ·) m.rows o.rows := by
  obtain ⟨form, r, n, g, pos, columns, square⟩ := m
  obtain ⟨form', r', k, h, pos', columns', square'⟩ := o
  obtain rfl : r' = r := rows
  rw [augmented_mk]
  show (g.augmented h).rows = List.zipWith (· ++ ·) g.rows h.rows
  simp [Grid.augmented, Grid.rows, Vector.toList_zipWith, List.map_zipWith, List.zipWith_map]

/-- Every square matrix can be reduced: the forms without reductions are not square. -/
theorem hasArithmetic_of_isSquare (square : m.form.isSquare = true) : m.form.hasArithmetic = true := by
  cases form : m.form with
  | operable =>
    rw [form] at square
    cases square
  | general => rfl
  | square => rfl
  | identity => rfl

/-- A determinant that is corrected for the exchanges of rows tells by being zero whether the rank is full. -/
theorem exists_determinant {n : ℕ} {g : Grid n n} (real : g.IsReal) :
    ∃ d, (determinant g (.ok true)).outcome = .ok d ∧ (d.isZero = false ↔ g.re.rank = n) := by
  obtain ⟨d, -, ⟨outcome, realD, value⟩, -⟩ := determinant_of_isReal real
  refine ⟨d, by rw [outcome], ?_⟩
  rw [← Matrix.det_ne_zero_iff_rank_eq, ← value, Ne, ← Quantity.isZero_iff_of_isReal realD,
    Bool.not_eq_true]

/-- Full reduction of a system with a regular matrix and any right side. -/
theorem solves_augmented {n : ℕ} {g : Grid n n} (real : g.IsReal) (regular : g.re.det ≠ 0)
    (kind : NumberKind) {form : Form} {pos pos' : 0 < n} {square : form.isSquare = true → n = n} {b : Matrix}
    (rows : b.rowCount = n) (realB : b.grid.IsReal) :
    let m : Matrix := ⟨form, n, n, g, pos, pos', square⟩
    ((m.augmented b rows).mutate .reduceFully).2.outcome = .ok () ∧
      ∃ x : Matrix, ∃ fits : x.rowCount = n, x.columnCount = b.columnCount ∧
        Operand.equals true (.ofMatrix ((m.augmented b rows).mutate .reduceFully).1)
          (.ofMatrix ((identity n pos kind).augmented x fits)) = .ok (.bool true) ∧
        SameResult (m.multiply x) (.ok b) := by
  intro m
  obtain ⟨formB, r, k, u, posB, columns, squareB⟩ := b
  obtain rfl : r = n := rows
  obtain ⟨h, x, result, unit, solves⟩ := real.exists_solution regular (b := u) realB kind
  have leaves := mutate_reduceFully (m := ofGrid (g.augmented u) pos (Nat.add_pos_left pos' k)) rfl rfl result
  have solved : (identity r pos kind).augmented (ofGrid x pos columns) rfl =
    ofGrid ((Grid.identity r kind).augmented x) pos (Nat.add_pos_left pos k) := augmented_mk _ x
  rw [augmented_mk, leaves]
  refine ⟨rfl, ofGrid x pos columns, rfl, rfl, ?_, ?_⟩
  · rw [solved]
    exact equals_eq_true_iff.mpr (sameValues_mk.mpr unit)
  · exact sameResult_of_value (multiply_mk ..) rfl (Grid.value_inj.mpr solves)

/-- **Regular matrices on the real axis.** The corrected determinant is not zero exactly when the rank is full,
and exactly when full reduction of a copy leaves the identity matrix. If so, full reduction of the matrix
augmented by a right side leaves the identity matrix augmented by a solution. -/
theorem regular_of_isReal (m : Matrix) (square : m.form.isSquare = true) (real : m.grid.IsReal)
    (kind : NumberKind) :
    let unit := identity m.rowCount m.rowCount_pos kind
    ∃ (d : Quantity) (r : ℕ), (m.det (.bool true)).outcome = .ok d ∧
      (m.answer .rank).outcome = .ok (.int r) ∧ (m.copy.mutate .reduceFully).2.outcome = .ok () ∧
      (d.isZero = false ↔ r = m.rowCount) ∧
      (d.isZero = false ↔
        Operand.equals true (.ofMatrix (m.copy.mutate .reduceFully).1) (.ofMatrix unit) = .ok (.bool true)) ∧
      (d.isZero = false → ∀ (b : Matrix) (rows : b.rowCount = m.rowCount), b.grid.IsReal →
        (m.augmented b rows).rows = List.zipWith (· ++ ·) m.rows b.rows ∧
        ((m.augmented b rows).mutate .reduceFully).2.outcome = .ok () ∧
        ∃ x : Matrix, ∃ fits : x.rowCount = m.rowCount, x.columnCount = b.columnCount ∧
          Operand.equals true (.ofMatrix ((m.augmented b rows).mutate .reduceFully).1)
            (.ofMatrix (unit.augmented x fits)) = .ok (.bool true) ∧
          SameResult (m.multiply x) (.ok b)) := by
  have offered : m.form.hasArithmetic = true := hasArithmetic_of_isSquare square
  have rank := outcome_answer_rank offered real
  have determinant := det_eq_determinant square (.bool true)
  obtain ⟨form, n, c, g, pos, pos', square'⟩ := m
  obtain rfl : n = c := square' square
  rw [Grid.cast_rfl] at determinant
  obtain ⟨d, outcome, regular⟩ := exists_determinant real
  obtain ⟨h, result, reduced⟩ := real.reducedEchelon
  have leaves := mutate_reduceFully (m := copy ⟨form, n, n, g, pos, pos', square'⟩)
    (hasArithmetic_copy.trans offered) (readOnly_copy _) result
  refine ⟨d, g.re.rank, by rw [determinant]; exact outcome, rank, by rw [leaves], regular, ?_, ?_⟩
  · rw [regular, leaves, equals_eq_true_iff]
    exact (reduced.sameValues_identity_iff kind).symm.trans sameValues_mk.symm
  · intro nonzero b rows realB
    refine ⟨rows_augmented rows, ?_⟩
    exact solves_augmented real (Matrix.det_ne_zero_iff_rank_eq.mpr (regular.mp nonzero)) kind rows realB

/-- A regular matrix whose rows have to be exchanged, with numbers of both kinds. -/
theorem regular_of_exchanged_rows :
    let m : Matrix := ⟨.square, 2, 2,
      #v[#v[0, .complex ⟨.ofInt 2, 0⟩], #v[.rational (.reduce 1 2 Nat.two_pos), 1]],
      Nat.two_pos, Nat.two_pos, fun _ => rfl⟩
    let b : Matrix := ofGrid #v[#v[.complex ⟨.ofInt 3, 0⟩], #v[0]] Nat.two_pos Nat.one_pos
    ∃ d, (m.det (.bool true)).outcome = .ok d ∧ d.isZero = false ∧
      ∃ x, SameResult (m.multiply x) (.ok b) := by
  intro m b
  obtain ⟨d, r, outcome, -, -, -, unit, solves⟩ := regular_of_isReal m rfl (by decide) .rational
  have reduced : (m.copy.mutate .reduceFully).1.SameValues (identity 2 Nat.two_pos .rational) := by
    decide +kernel
  have equal := equals_eq_true_iff.mpr reduced
  obtain ⟨-, -, x, -, -, -, solution⟩ := solves (unit.mpr equal) b rfl (by decide)
  exact ⟨d, outcome, unit.mpr equal, x, solution⟩

end Matrix

end ExactAlgebra
