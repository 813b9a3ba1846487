import ExactAlgebra.Matrix.Request
import ExactAlgebra.Proofs.RealElimination

/-!
# Determinants of real matrices

A row echelon form of a square matrix is upper triangular, also where a column without a pivot was skipped:
the skipped column then puts a zero on the diagonal. So the product of the diagonal is the determinant
of the form, which differs from the determinant of the matrix by one sign for each exchange of rows.

## Main statements

* `Grid.IsReal.diagonalProduct`: the product of the diagonal.
* `Grid.IsReal.exists_echelon_product`: the diagonal of the row echelon form.
* `Matrix.determinant_of_isReal`: what the elimination finds.
* `Matrix.det_of_isReal`: the corrected product is the sum over all permutations, and the other one is
  off by the signs of the exchanges, not without a warning.
-/

namespace ExactAlgebra

/-- The sign of an even or odd number of exchanges. -/
theorem Quantity.signed_of_isReal {q : Quantity} (real : q.isReal = true) (swaps : ℕ) :
    (if swaps % 2 = 0 then q else -q).isReal = true ∧
      (if swaps % 2 = 0 then q else -q).re = (-1) ^ swaps * q.re := by
  split
  case isTrue even => exact ⟨real, by rw [(Nat.even_iff.mpr even).neg_one_pow, one_mul]⟩
  case isFalse odd =>
    refine ⟨isReal_neg real, ?_⟩
    rw [re_neg, (Nat.not_even_iff_odd.mp (mt Nat.even_iff.mp odd)).neg_one_pow, neg_one_mul]

theorem Logged.ok_bind {α β : Type} (events : List Event) (a : α) (f : α → Logged β) :
    (⟨events, .ok a⟩ : Logged α) >>= f = ⟨events ++ (f a).events, (f a).outcome⟩ := rfl

namespace Grid

variable {n : ℕ} {g : Grid n n}

/-- A product of diagonal cells on the real axis, in the order in which it is computed. -/
theorem IsReal.foldl_diagonal (real : g.IsReal) (places : List (Fin n)) {start : Quantity}
    (realStart : start.isReal = true) :
    (places.foldl (fun product i => product * g.cell i i) start).isReal = true ∧
      (places.foldl (fun product i => product * g.cell i i) start).re =
        start.re * (places.map fun i => g.re i i).prod := by
  induction places generalizing start with
  | nil => exact ⟨realStart, (mul_one _).symm⟩
  | cons i places ih =>
    obtain ⟨realProduct, value⟩ := ih (Quantity.isReal_mul realStart (real i i))
    refine ⟨realProduct, ?_⟩
    rw [List.foldl_cons, value, Quantity.re_mul_of_isReal realStart, List.map_cons, List.prod_cons,
      ← mul_assoc, re_apply]

theorem IsReal.diagonalProduct (real : g.IsReal) :
    g.diagonalProduct.isReal = true ∧ g.diagonalProduct.re = ∏ i, g.re i i := by
  have realOne : (1 : Quantity).isReal = true := rfl
  obtain ⟨realProduct, value⟩ := real.foldl_diagonal (List.finRange n) realOne
  refine ⟨realProduct, ?_⟩
  rw [Fin.prod_univ_def, Grid.diagonalProduct, value, Quantity.re_one, one_mul]

/-- The diagonal of the row echelon form multiplies to the determinant, up to the exchanges of rows. -/
theorem IsReal.exists_echelon_product (real : g.IsReal) :
    ∃ h, g.echelon.result? = some h ∧ h.diagonalProduct.isReal = true ∧
      h.diagonalProduct.re = (-1) ^ g.echelon.swaps * g.re.det := by
  obtain ⟨h, result, realH, echelon, equivalent⟩ := real.echelon_reduces
  obtain ⟨realProduct, product⟩ := realH.diagonalProduct
  -- A column without a pivot is no exception: echelon forms are zero below the diagonal.
  have triangular : h.re.IsUpperTriangular := fun i j below => echelon.eq_zero_of_lt below
  refine ⟨h, result, realProduct, ?_⟩
  rw [product, ← Matrix.det_of_isUpperTriangular triangular, equivalent.det_eq]

end Grid

namespace Matrix

variable {n : ℕ} {g : Grid n n}

/-- The determinant when the elimination has a result: the product of the diagonal, corrected or reported
when it has a sign that rows were exchanged for. -/
theorem determinant_eq {h : Grid n n} (result : g.echelon.result? = some h) (correctSign : Bool) :
    determinant g (.ok correctSign) =
      if g.echelon.swaps = 0 ∨ h.diagonalProduct.isZero then
        ⟨g.echelon.pivots.map .pivot, .ok h.diagonalProduct⟩
      else if correctSign then
        ⟨g.echelon.pivots.map .pivot,
          .ok (if g.echelon.swaps % 2 = 0 then h.diagonalProduct else -h.diagonalProduct)⟩
      else ⟨g.echelon.pivots.map .pivot ++ [.uncorrectedSign g.echelon.swaps], .ok h.diagonalProduct⟩ := by
  unfold determinant
  simp only [result]
  rw [show orFail .divisionByZero (some h) = .ok h from rfl, Logged.ok_bind]
  by_cases unsigned : g.echelon.swaps = 0 ∨ h.diagonalProduct.isZero = true
  · simp only [if_pos unsigned]
    exact congrArg₂ Logged.mk (List.append_nil _) rfl
  · simp only [if_neg unsigned]
    cases correctSign
    · rfl
    · exact congrArg₂ Logged.mk (List.append_nil _) rfl

/-- What the elimination finds with and without correction. With it, the determinant of the matrix; without it,
the same up to the sign of the exchanges, and if the sign makes a difference a warning is given. -/
theorem determinant_of_isReal (real : g.IsReal) :
    ∃ corrected plain : Quantity,
      (determinant g (.ok true) = ⟨g.echelon.pivots.map .pivot, .ok corrected⟩ ∧
        corrected.isReal = true ∧ corrected.re = g.re.det) ∧
      (determinant g (.ok false)).outcome = .ok plain ∧ plain.isReal = true ∧
        plain.re = (-1) ^ g.echelon.swaps * corrected.re ∧
        (plain.re ≠ corrected.re →
          .uncorrectedSign g.echelon.swaps ∈ (determinant g (.ok false)).events) := by
  obtain ⟨h, result, realProduct, value⟩ := real.exists_echelon_product
  have twice : ((-1) ^ g.echelon.swaps * (-1) ^ g.echelon.swaps : ℚ) = 1 := by
    rw [← mul_pow, neg_one_mul, neg_neg, one_pow]
  rw [determinant_eq result, determinant_eq result]
  by_cases unsigned : g.echelon.swaps = 0 ∨ h.diagonalProduct.isZero = true
  · simp only [if_pos unsigned]
    -- Without exchanges there is nothing to correct, and zero has no sign.
    have same : (-1) ^ g.echelon.swaps * h.diagonalProduct.re = h.diagonalProduct.re := by
      rcases unsigned with none | zero
      · rw [none, pow_zero, one_mul]
      · rw [(Quantity.isZero_iff_of_isReal realProduct).mp zero, mul_zero]
    refine ⟨_, _, ⟨rfl, realProduct, ?_⟩, rfl, realProduct, same.symm, fun differ => absurd rfl differ⟩
    rw [← same, value, ← mul_assoc, twice, one_mul]
  · simp only [if_neg unsigned]
    obtain ⟨realCorrected, corrected⟩ := Quantity.signed_of_isReal realProduct g.echelon.swaps
    refine ⟨_, _, ⟨rfl, realCorrected, ?_⟩, rfl, realProduct, ?_, fun _ => ?_⟩
    · rw [corrected, value, ← mul_assoc, twice, one_mul]
    · rw [corrected, ← mul_assoc, twice, one_mul]
    · exact List.mem_append_right _ List.mem_cons_self

/-- On a square form the determinant is that of the cells. -/
theorem det_eq_determinant {m : Matrix} (square : m.form.isSquare = true) (correctSign : Operand) :
    m.det correctSign =
      determinant (m.grid.cast (m.square square) rfl) correctSign.truthy := by
  unfold det requireSquare
  rw [dif_pos square]
  rfl

/-- **The determinant on the real axis.** With correction it is the sum over all permutations and nothing
is warned of; without, it is off by one sign for each exchange of rows, and a warning is given when that
makes a difference. The matrix stays as it was. -/
theorem det_of_isReal (m : Matrix) (square : m.form.isSquare = true) (real : m.grid.IsReal) :
    let g := m.grid.cast (m.square square) rfl
    ∃ corrected plain : Quantity,
      ((m.det (.bool true)).outcome = .ok corrected ∧ corrected.isReal = true ∧
        corrected.re = ∑ σ : Equiv.Perm (Fin m.columnCount),
          (Equiv.Perm.sign σ : ℤ) * ∏ i, g.re (σ i) i) ∧
      ((m.det (.bool false)).outcome = .ok plain ∧ plain.isReal = true ∧
        plain.re = (-1) ^ g.echelon.swaps * corrected.re ∧
        (plain.re ≠ corrected.re → ∃ event ∈ (m.det (.bool false)).events, event.level = .warning)) ∧
      (∀ event ∈ (m.det (.bool true)).events, event.level ≠ .warning) ∧
      ∀ flag, (m.respond (.det (.bool flag))).1 = m := by
  intro g
  have realG : g.IsReal := real.cast (m.square square) rfl
  obtain ⟨corrected, plain, ⟨exact, realCorrected, leibniz⟩, outcome, realPlain, sign, warned⟩ :=
    determinant_of_isReal realG
  rw [det_eq_determinant square, det_eq_determinant square]
  refine ⟨corrected, plain, ⟨?_, realCorrected, ?_⟩, ⟨outcome, realPlain, sign, ?_⟩, ?_, fun _ => rfl⟩
  · exact congrArg Logged.outcome exact
  · rw [leibniz, Matrix.det_apply']
  · exact fun differ => ⟨_, warned differ, rfl⟩
  · intro event reported
    rw [show determinant g (Operand.truthy (.bool true)) = _ from exact] at reported
    obtain ⟨pivot, -, rfl⟩ := List.mem_map.mp reported
    nofun

/-- Two rows are exchanged, so the determinants are opposite. -/
theorem det_of_exchanged_rows :
    let m : Matrix := ⟨.square, 2, 2, #v[#v[0, .complex ⟨.ofInt 2, 0⟩], #v[1, .rational (.ofInt 3)]],
      Nat.two_pos, Nat.two_pos, fun _ => rfl⟩
    ∃ corrected plain, (m.det (.bool true)).outcome = .ok corrected ∧
      (m.det (.bool false)).outcome = .ok plain ∧ plain.re = -corrected.re := by
  intro m
  obtain ⟨corrected, plain, ⟨exact, -, -⟩, ⟨outcome, -, sign, -⟩, -⟩ :=
    det_of_isReal m rfl (by decide)
  have once : (m.grid.cast (m.square rfl) rfl).echelon.swaps = 1 := by decide +kernel
  exact ⟨corrected, plain, exact, outcome, by rw [sign, once, pow_one, neg_one_mul]⟩

end Matrix

end ExactAlgebra
