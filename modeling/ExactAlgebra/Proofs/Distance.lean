import ExactAlgebra.Operand.Operators
import ExactAlgebra.Proofs.ComplexValues
import ExactAlgebra.Proofs.RationalOrder
import Mathlib.Algebra.Order.Floor.Ring
import Mathlib.Analysis.Complex.Norm

/-!
# Comparisons with complex quantities are distances

As soon as one of two quantities is complex they are compared by their distance in the plane. The distance
itself is irrational as a rule, and no step of the comparison computes it: the square of the distance is a
rational number, it is cut down to an integer, and the root of that integer is cut down again. The two
roundings together lose no more than one of the distance itself would: the result is the number of whole
units in the distance. From there on a comparison is a matter of the norm of the complex numbers, and
inherits from it what survives being cut down, such as a triangle inequality with one unit of slack.

## Main definitions

* `Quantity.squaredDistance`: the square of the distance of two quantities, a rational number.
* `Quantity.wholeDistance`: the whole units in their distance.

## Main statements

* `Quantity.norm_value_sub_sq`: the squared distance is that of the complex numbers.
* `Quantity.isGreatest_wholeDistance`: two roundings in a row are one.
* `Quantity.compareTo_of_complex`: a comparison is a distance that does not exceed `Gaussian.farthest`.
* `Quantity.compareWith_complex`: comparisons as distances.
-/

namespace ExactAlgebra

namespace Quantity

/-- The square of the distance of two quantities in the plane. -/
def squaredDistance (p q : Quantity) : ℚ := (p.re - q.re) ^ 2 + (p.im - q.im) ^ 2

/-- The number of whole units in the distance, from the square of the distance cut down to an integer. -/
def wholeDistance (p q : Quantity) : ℕ := Nat.sqrt ⌊p.squaredDistance q⌋₊

theorem squaredDistance_nonneg (p q : Quantity) : 0 ≤ p.squaredDistance q :=
  add_nonneg (sq_nonneg _) (sq_nonneg _)

theorem squaredDistance_comm (p q : Quantity) : p.squaredDistance q = q.squaredDistance p := by
  rw [squaredDistance, squaredDistance, sub_sq_comm p.re, sub_sq_comm p.im]

theorem wholeDistance_comm (p q : Quantity) : p.wholeDistance q = q.wholeDistance p := by
  rw [wholeDistance, wholeDistance, squaredDistance_comm]

/-- The square of the distance is that of the complex numbers. -/
theorem norm_value_sub_sq (p q : Quantity) :
    ‖p.value - q.value‖ ^ 2 = (p.squaredDistance q : ℝ) := by
  have re : (p.value - q.value).re = p.re - q.re := rfl
  have im : (p.value - q.value).im = p.im - q.im := rfl
  rw [Complex.sq_norm, Complex.normSq_apply, re, im, squaredDistance]
  push_cast
  ring

/-! ## Rounding -/

/-- A natural number fits into the whole distance when its square fits into the squared distance: that
both the squared distance and the root are cut down makes no difference. -/
theorem le_wholeDistance_iff {p q : Quantity} {k : ℕ} :
    k ≤ p.wholeDistance q ↔ (k : ℝ) ^ 2 ≤ ‖p.value - q.value‖ ^ 2 := by
  have fits : ((k * k : ℕ) : ℚ) ≤ p.squaredDistance q ↔ (k : ℝ) ^ 2 ≤ (p.squaredDistance q : ℝ) := by
    rw [← Rat.cast_le (K := ℝ), Rat.cast_natCast, Nat.cast_mul, sq]
  rw [wholeDistance, Nat.le_sqrt, Nat.le_floor_iff (squaredDistance_nonneg p q), norm_value_sub_sq, fits]

/-- The whole distance is the greatest integer whose square does not exceed the squared distance. -/
theorem isGreatest_wholeDistance (p q : Quantity) :
    IsGreatest {k : ℤ | (k : ℝ) ^ 2 ≤ ‖p.value - q.value‖ ^ 2} (p.wholeDistance q) := by
  refine ⟨?_, fun k fits => ?_⟩
  · have fits := le_wholeDistance_iff.mp (le_refl (p.wholeDistance q))
    rwa [← Int.cast_natCast] at fits
  · -- A number and its negative have the same square.
    have size : (k.natAbs : ℝ) ^ 2 = (k : ℝ) ^ 2 := by
      rw [Nat.cast_natAbs, Int.cast_abs, sq_abs]
    have below : k.natAbs ≤ p.wholeDistance q := le_wholeDistance_iff.mpr (size.trans_le fits)
    omega

/-- The whole distance is the distance of the complex numbers cut down to an integer. -/
theorem wholeDistance_eq_floor (p q : Quantity) : (p.wholeDistance q : ℤ) = ⌊‖p.value - q.value‖⌋ := by
  have nonneg : 0 ≤ ‖p.value - q.value‖ := norm_nonneg _
  rw [eq_comm, Int.floor_eq_iff]
  constructor
  · have fits := le_wholeDistance_iff.mp (le_refl (p.wholeDistance q))
    exact_mod_cast (sq_le_sq₀ (Nat.cast_nonneg _) nonneg).mp fits
  · by_contra! beyond
    have next : ((p.wholeDistance q + 1 : ℕ) : ℝ) ≤ ‖p.value - q.value‖ := by exact_mod_cast beyond
    have fits := le_wholeDistance_iff.mpr ((sq_le_sq₀ (Nat.cast_nonneg _) nonneg).mpr next)
    omega

theorem wholeDistance_eq_zero {p q : Quantity} :
    p.wholeDistance q = 0 ↔ ‖p.value - q.value‖ < 1 := by
  have floor := wholeDistance_eq_floor p q
  rw [← Int.natCast_eq_zero, floor, Int.floor_eq_zero_iff, Set.mem_Ico]
  exact and_iff_right (norm_nonneg _)

/-- Cutting down costs the triangle inequality one unit: the floor of a sum may exceed the sum of the floors by
one, and not by more. -/
theorem wholeDistance_triangle (p q r : Quantity) :
    p.wholeDistance r ≤ p.wholeDistance q + q.wholeDistance r + 1 := by
  have shorter : ⌊‖p.value - r.value‖⌋ ≤ ⌊‖p.value - q.value‖ + ‖q.value - r.value‖⌋ :=
    Int.floor_le_floor (norm_sub_le_norm_sub_add_norm_sub ..)
  have split : ⌊‖p.value - q.value‖ + ‖q.value - r.value‖⌋ - 1 ≤
      ⌊‖p.value - q.value‖⌋ + ⌊‖q.value - r.value‖⌋ := Int.le_floor_add_floor _ _
  rw [← wholeDistance_eq_floor] at shorter split
  rw [← wholeDistance_eq_floor] at split
  omega

/-! ## Comparisons -/

/-- Two points of the plane are as far apart as the quantities that denote them. -/
theorem distance_toGaussian (p q : Quantity) :
    p.toGaussian.distance q.toGaussian = min (p.wholeDistance q) Gaussian.farthest := by
  have square (a b : Rational) : ((a - b) * (a - b)).toRat = (a.toRat - b.toRat) ^ 2 := by
    rw [Rational.toRat_mul, Rational.toRat_sub, sq]
  have squared : ((p.toGaussian.re - q.toGaussian.re) * (p.toGaussian.re - q.toGaussian.re) +
      (p.toGaussian.im - q.toGaussian.im) * (p.toGaussian.im - q.toGaussian.im)).toRat =
        p.squaredDistance q := by
    rw [Rational.toRat_add, square, square]
    rfl
  rw [Gaussian.distance, Rational.truncate_eq, squared, if_pos (squaredDistance_nonneg p q),
    Int.floor_toNat, wholeDistance]

/-- As soon as one of two quantities is complex they compare by their distance. -/
theorem compareTo_of_complex {p q : Quantity} (mixed : p.kind = .complex ∨ q.kind = .complex) :
    p.compareTo q = (min (p.wholeDistance q) Gaussian.farthest : ℕ) := by
  rw [← distance_toGaussian]
  cases p with
  | complex z => rfl
  | rational a =>
    cases q with
    | complex z => rfl
    | rational b => rcases mixed with h | h <;> cases h

theorem compareWith_of_complex {p q : Quantity} (mixed : p.kind = .complex ∨ q.kind = .complex) :
    p.compareWith (.quantity q) = .ok (min (p.wholeDistance q : ℤ) (2 ^ 31 - 1)) := by
  have plain : p.compareWith (.quantity q) = .ok (p.compareTo q) := rfl
  have farthest : (Gaussian.farthest : ℤ) = 2 ^ 31 - 1 := by decide
  rw [plain, compareTo_of_complex mixed, Nat.cast_min, farthest]

/-- Of three quantities of which two are complex, no two are rational. -/
theorem complex_of_countP {a b c : Quantity} (two : 2 ≤ [a, b, c].countP (·.kind = .complex)) :
    (a.kind = .complex ∨ b.kind = .complex) ∧ (b.kind = .complex ∨ c.kind = .complex) ∧
      (a.kind = .complex ∨ c.kind = .complex) := by
  cases a <;> cases b <;> cases c <;> simp_all [kind]

/-- **A comparison with a complex quantity is a distance.** It is the greatest integer whose square does
not exceed the exact square of the distance, a rational number, and `2 ^ 31 - 1` if that integer is
greater. So it is never negative, it is the same in both directions, and it is zero when the two points are
less than one apart, and only then. Of any three quantities two of which are complex, the outer two are at
most one unit farther apart than the way over the one between. -/
theorem compareWith_complex :
    (∀ a b : Quantity, a.kind = .complex ∨ b.kind = .complex →
      ‖a.value - b.value‖ ^ 2 = ((a.re - b.re) ^ 2 + (a.im - b.im) ^ 2 : ℚ) ∧
      ∃ k : ℤ, IsGreatest {k : ℤ | (k : ℝ) ^ 2 ≤ ‖a.value - b.value‖ ^ 2} k ∧
        a.compareWith (.quantity b) = .ok (min k (2 ^ 31 - 1)) ∧
        b.compareWith (.quantity a) = a.compareWith (.quantity b) ∧
        0 ≤ min k (2 ^ 31 - 1) ∧
        (min k (2 ^ 31 - 1) = 0 ↔ ‖a.value - b.value‖ < 1)) ∧
    (∀ a b c : Quantity, 2 ≤ [a, b, c].countP (·.kind = .complex) →
      ∃ x y z : ℤ, a.compareWith (.quantity b) = .ok x ∧ b.compareWith (.quantity c) = .ok y ∧
        a.compareWith (.quantity c) = .ok z ∧ z ≤ x + y + 1) := by
  refine ⟨fun a b mixed => ⟨norm_value_sub_sq a b, a.wholeDistance b, isGreatest_wholeDistance a b,
    compareWith_of_complex mixed, ?_, ?_, ?_⟩, fun a b c two => ?_⟩
  · rw [compareWith_of_complex mixed, compareWith_of_complex mixed.symm, wholeDistance_comm]
  · omega
  · rw [← wholeDistance_eq_zero]
    omega
  · obtain ⟨ab, bc, ac⟩ := complex_of_countP two
    refine ⟨_, _, _, compareWith_of_complex ab, compareWith_of_complex bc, compareWith_of_complex ac, ?_⟩
    have triangle := wholeDistance_triangle a b c
    omega

/-- The point `3 + 4i` is five units from zero, and `7/10 i` is less than one; from the first to the last it is
no farther than over zero, with one unit of slack. -/
theorem compareWith_three_plus_four_i :
    let a := complex ⟨.ofInt 3, .ofInt 4⟩
    let b := rational 0
    let c := complex ⟨0, .reduce 7 10 (Nat.succ_pos 9)⟩
    (a.kind = .complex ∨ b.kind = .complex) ∧ 2 ≤ [a, b, c].countP (·.kind = .complex) ∧
      (∃ k : ℤ, IsGreatest {k : ℤ | (k : ℝ) ^ 2 ≤ ‖a.value - b.value‖ ^ 2} k ∧
        a.compareWith (.quantity b) = .ok (min k (2 ^ 31 - 1))) ∧
      a.compareWith (.quantity b) = .ok 5 ∧ b.compareWith (.quantity c) = .ok 0 ∧
      (∃ x y z : ℤ, a.compareWith (.quantity b) = .ok x ∧ b.compareWith (.quantity c) = .ok y ∧
        a.compareWith (.quantity c) = .ok z ∧ z ≤ x + y + 1) := by
  intro a b c
  have two : 2 ≤ [a, b, c].countP (·.kind = .complex) := by decide
  obtain ⟨-, k, greatest, compared, -⟩ := compareWith_complex.1 a b (Or.inl rfl)
  have five : a.compareTo b = 5 := by decide +kernel
  have none : b.compareTo c = 0 := by decide +kernel
  exact ⟨Or.inl rfl, two, ⟨k, greatest, compared⟩, congrArg Except.ok five, congrArg Except.ok none,
    compareWith_complex.2 a b c two⟩

end Quantity

end ExactAlgebra
