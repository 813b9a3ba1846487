import ExactAlgebra.Number.Rational
import Mathlib.Data.Rat.Lemmas
import Mathlib.Tactic.FieldSimp
import Mathlib.Tactic.Ring

/-!
# Fractions as rational numbers

The fraction in lowest terms that a `Rational` is denotes an element of the field `ℚ`. The map is one to
one, and every operation on fractions denotes the operation of the field, whichever shortcut the
operation takes. So an equation between fractions is an equation of the field.

## Main definitions

* `Rational.toRat`: the rational number that a fraction denotes.

## Main statements

* `Rational.toRat_injective`, `Rational.toRat_reduce`: the map, and what an unreduced fraction denotes.
* `Rational.toRat_add`, `Rational.toRat_mul`, `Rational.toRat_neg`, `Rational.toRat_sub`: arithmetic.
* `Rational.divide?_eq_some`, `Rational.divide?_zero`: quotients.
-/

namespace ExactAlgebra

namespace Rational

/-- The rational number that a fraction denotes. -/
def toRat (a : Rational) : ℚ := ⟨a.num, a.den, a.den_pos.ne', a.reduced⟩

/-- The value of a fraction as a quotient of the field. It is used to compute with numerators and denominators
by the rules of the field. -/
theorem toRat_eq_div (a : Rational) : a.toRat = a.num / a.den :=
  (Rat.num_div_den a.toRat).symm

/-- **Fractions are equal if they denote one number**: both are in lowest terms, with a positive denominator,
and a rational number has one such form only. -/
theorem toRat_injective : Function.Injective toRat := by
  intro a b h
  exact ext (congrArg Rat.num h) (congrArg Rat.den h)

/-- An equation between fractions may be proved, and used, as one between rational numbers. This is how every
law of the arithmetic is transferred. -/
theorem toRat_inj {a b : Rational} : a.toRat = b.toRat ↔ a = b :=
  toRat_injective.eq_iff

@[simp] theorem toRat_zero : (0 : Rational).toRat = 0 := rfl

@[simp] theorem toRat_one : (1 : Rational).toRat = 1 := rfl

@[simp] theorem toRat_ofInt (n : Int) : (ofInt n).toRat = n := rfl

/-- Zero is the only fraction that denotes zero, so the test for zero on numerators is a test of the value. -/
@[simp] theorem toRat_eq_zero {a : Rational} : a.toRat = 0 ↔ a = 0 := by
  rw [← toRat_zero, toRat_inj]

theorem den_ne_zero (a : Rational) : (a.den : ℚ) ≠ 0 :=
  Nat.cast_ne_zero.mpr a.den_pos.ne'

/-- Reduction to lowest terms keeps the quotient. -/
theorem toRat_reduce (n : Int) (d : Nat) (pos : 0 < d) : (reduce n d pos).toRat = n / d := by
  have lowest : (reduce n d pos).toRat = Rat.normalize n d pos.ne' := by
    rw [Rat.normalize_eq]
    rfl
  rw [lowest, Rat.normalize_eq_mkRat, Rat.mkRat_eq_div]

/-! ## Arithmetic -/

@[simp] theorem toRat_neg (a : Rational) : (-a).toRat = -a.toRat := by
  rw [toRat_eq_div, toRat_eq_div, num_neg, den_neg, Int.cast_neg, neg_div]

/-- The cross sum over the least common multiple of the denominators, with the common factor of the
numerators set aside, is the sum. -/
theorem cross_sum_div_lcm (a b : Rational) :
    let f : Int := (a.num.natAbs.gcd b.num.natAbs : Nat)
    let g := a.den.gcd b.den
    (((a.num / f * (b.den / g : Nat) + b.num / f * (a.den / g : Nat)) * f : Int) : ℚ)
      / (a.den.lcm b.den : Nat) = a.toRat + b.toRat := by
  intro f g
  have left : a.num / f * f = a.num :=
    Int.ediv_mul_cancel (Int.ofNat_dvd_left.2 (Nat.gcd_dvd_left ..))
  have right : b.num / f * f = b.num :=
    Int.ediv_mul_cancel (Int.ofNat_dvd_left.2 (Nat.gcd_dvd_right ..))
  have cross : (a.num / f * (b.den / g : Nat) + b.num / f * (a.den / g : Nat)) * f
      = a.num * (b.den / g : Nat) + b.num * (a.den / g : Nat) := by
    rw [add_mul, mul_right_comm, left, mul_right_comm, right]
  have gpos : 0 < g := Nat.gcd_pos_of_pos_left _ a.den_pos
  have denA : a.den = g * (a.den / g) := (Nat.mul_div_cancel' (Nat.gcd_dvd_left ..)).symm
  have denB : b.den = g * (b.den / g) := (Nat.mul_div_cancel' (Nat.gcd_dvd_right ..)).symm
  have multiple : a.den.lcm b.den = g * (a.den / g) * (b.den / g) := by
    rw [Nat.lcm_eq_mul_div, ← denA, Nat.mul_div_assoc _ (Nat.gcd_dvd_right ..)]
  have gne : (g : ℚ) ≠ 0 := Nat.cast_ne_zero.mpr gpos.ne'
  have ane : ((a.den / g : Nat) : ℚ) ≠ 0 := by
    intro zero
    exact a.den_ne_zero (by rw [denA, Nat.cast_mul, zero, mul_zero])
  have bne : ((b.den / g : Nat) : ℚ) ≠ 0 := by
    intro zero
    exact b.den_ne_zero (by rw [denB, Nat.cast_mul, zero, mul_zero])
  have valueA : a.toRat = a.num / (g * (a.den / g : Nat)) := by
    rw [toRat_eq_div, ← Nat.cast_mul, ← denA]
  have valueB : b.toRat = b.num / (g * (b.den / g : Nat)) := by
    rw [toRat_eq_div, ← Nat.cast_mul, ← denB]
  rw [cross, multiple, valueA, valueB]
  simp only [Int.cast_add, Int.cast_mul, Int.cast_natCast, Nat.cast_mul]
  field_simp

/-- **Sums of fractions are sums.** The four ways to compute one, for equal denominators, for a zero on either
side and in general, all end in a fraction with the value of the sum. -/
@[simp] theorem toRat_add (a b : Rational) : (a + b).toRat = a.toRat + b.toRat := by
  show (add a b).toRat = _
  unfold add
  split
  case isTrue same =>
    rw [toRat_reduce, toRat_eq_div, toRat_eq_div, ← same, Int.cast_add, add_div]
  case isFalse =>
    split
    case isTrue zero => rw [toRat_eq_div a, zero, Int.cast_zero, zero_div, zero_add]
    case isFalse =>
      split
      case isTrue zero => rw [toRat_eq_div b, zero, Int.cast_zero, zero_div, add_zero]
      case isFalse => rw [toRat_reduce, cross_sum_div_lcm]

/-- Differences are computed as sums with the negative fraction, and so they need no argument of their own. -/
@[simp] theorem toRat_sub (a b : Rational) : (a - b).toRat = a.toRat - b.toRat := by
  show (a + -b).toRat = _
  rw [toRat_add, toRat_neg, sub_eq_add_neg]

/-- Numerators and denominators are multiplied, and what they make is reduced, which keeps the value. -/
@[simp] theorem toRat_mul (a b : Rational) : (a * b).toRat = a.toRat * b.toRat := by
  show (mul a b).toRat = _
  rw [mul, toRat_reduce, toRat_eq_div, toRat_eq_div, div_mul_div_comm, Int.cast_mul, Nat.cast_mul]

/-! ## Quotients -/

/-- A fraction of integers whose denominator is not zero denotes their quotient. -/
theorem ofInts?_eq_some (n : Int) {d : Int} (h : d ≠ 0) :
    ∃ a, ofInts? n d = some a ∧ a.toRat = n / d := by
  refine ⟨_, dif_neg h, ?_⟩
  have size : d.sign * d = d.natAbs := Int.sign_mul_self_eq_natAbs d
  have unit : (d.sign : ℚ) ≠ 0 := Int.cast_ne_zero.mpr (mt Int.sign_eq_zero_iff_zero.mp h)
  rw [toRat_reduce, ← Int.cast_natCast d.natAbs, ← size, Int.cast_mul, Int.cast_mul,
    mul_div_mul_left _ _ unit]

/-- Every fraction but zero has a reciprocal. The sign of the numerator goes over to what is the numerator then,
so that the denominator stays positive. -/
theorem reciprocal?_eq_some {a : Rational} (h : a ≠ 0) :
    ∃ b, a.reciprocal? = some b ∧ b.toRat = a.toRat⁻¹ := by
  have num : a.num ≠ 0 := fun zero => h (isZero_iff.mp (by simp [isZero, zero]))
  obtain ⟨b, defined, value⟩ := ofInts?_eq_some a.den num
  refine ⟨b, defined, ?_⟩
  rw [value, toRat_eq_div, inv_div, Int.cast_natCast]

@[simp] theorem reciprocal?_zero : (0 : Rational).reciprocal? = none := rfl

/-- The quotient by any divisor but zero is the quotient of the field. -/
theorem divide?_eq_some (a : Rational) {b : Rational} (h : b ≠ 0) :
    ∃ q, a.divide? b = some q ∧ q.toRat = a.toRat / b.toRat := by
  obtain ⟨r, defined, value⟩ := reciprocal?_eq_some h
  refine ⟨a * r, by rw [divide?, defined, Option.map_some], ?_⟩
  rw [toRat_mul, value, div_eq_mul_inv]

/-- Division by zero has no quotient: there is no reciprocal to multiply by. -/
@[simp] theorem divide?_zero (a : Rational) : a.divide? 0 = none := by
  rw [divide?, reciprocal?_zero, Option.map_none]

/-- Only the divisor decides whether there is a quotient. -/
theorem divide?_eq_none {a b : Rational} : a.divide? b = none ↔ b = 0 := by
  refine ⟨fun none => ?_, fun zero => by rw [zero, divide?_zero]⟩
  by_contra nonzero
  obtain ⟨q, defined, -⟩ := divide?_eq_some a nonzero
  rw [defined] at none
  cases none

end Rational

end ExactAlgebra
