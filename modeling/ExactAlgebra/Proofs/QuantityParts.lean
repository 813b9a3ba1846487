import ExactAlgebra.Number.Quantity
import ExactAlgebra.Proofs.RationalField
import Mathlib.Tactic.LinearCombination

/-!
# Real and imaginary parts of quantities

A quantity denotes a point of the plane, whatever its kind. Its two parts are rational numbers, and
every operation is described here by what it does to the parts: sum, difference and product are those of
complex numbers, and the quotient is taken over the scale `c² + cd` of the divisor `c + di`. Nothing in
these descriptions depends on the kinds of the operands.

## Main definitions

* `Quantity.re`, `Quantity.im`: the parts of a quantity.
* `Quantity.scale`: the scale of a divisor.

## Main statements

* `Quantity.re_mul`, `Quantity.im_mul` and their like: arithmetic by parts.
* `Quantity.divide?_eq_none`, `Quantity.divide?_eq_some`: the quotient by parts; whether there is one
  depends on the divisor alone.
* `Quantity.mul_quotient_iff`: when a quotient is exact.
* `Quantity.divide?_of_isReal`: on the real axis it is.
-/

namespace ExactAlgebra

namespace Gaussian

/-- The quotient by parts; there is none when the scale is zero. -/
theorem divide?_eq_some (a : Gaussian) {b : Gaussian} (h : b.divisorScale ≠ 0) :
    ∃ q, a.divide? b = some q ∧
      q.re.toRat = (a.re * b.re - a.im * b.im).toRat / b.divisorScale.toRat ∧
      q.im.toRat = (a.im * b.re - a.re * b.im).toRat / b.divisorScale.toRat := by
  obtain ⟨re, defined, value⟩ := Rational.divide?_eq_some (a.re * b.re - a.im * b.im) h
  obtain ⟨im, defined', value'⟩ := Rational.divide?_eq_some (a.im * b.re - a.re * b.im) h
  exact ⟨⟨re, im⟩, by rw [divide?, defined, defined']; rfl, value, value'⟩

/-- There is no quotient of complex numbers exactly if the scale of the divisor is zero. That is the divisor
zero, but also a purely imaginary one and the multiples of `1 - i`. -/
theorem divide?_eq_none {a b : Gaussian} : a.divide? b = none ↔ b.divisorScale = 0 := by
  refine ⟨fun none => ?_, fun zero => by rw [divide?, zero, Rational.divide?_zero]; rfl⟩
  by_contra nonzero
  obtain ⟨q, defined, -⟩ := divide?_eq_some a nonzero
  rw [defined] at none
  cases none

end Gaussian

namespace Quantity

/-- The real part of a quantity. -/
def re (q : Quantity) : ℚ := q.toGaussian.re.toRat

/-- The imaginary part of a quantity. -/
def im (q : Quantity) : ℚ := q.toGaussian.im.toRat

@[simp] theorem re_rational (a : Rational) : (rational a).re = a.toRat := rfl

@[simp] theorem im_rational (a : Rational) : (rational a).im = 0 := rfl

@[simp] theorem re_complex (z : Gaussian) : (complex z).re = z.re.toRat := rfl

@[simp] theorem im_complex (z : Gaussian) : (complex z).im = z.im.toRat := rfl

@[simp] theorem re_zero : (0 : Quantity).re = 0 := rfl

@[simp] theorem im_zero : (0 : Quantity).im = 0 := rfl

@[simp] theorem re_one : (1 : Quantity).re = 1 := rfl

@[simp] theorem im_one : (1 : Quantity).im = 0 := rfl

/-- Quantities have the same value when their parts agree. -/
theorem sameValue_iff {p q : Quantity} : p.SameValue q ↔ p.re = q.re ∧ p.im = q.im := by
  rw [SameValue, Gaussian.ext_iff, ← Rational.toRat_inj, ← Rational.toRat_inj]
  rfl

/-- A quantity is zero if both of its parts are, in either kind. For a rational quantity the imaginary part is
zero anyway. -/
theorem isZero_iff {q : Quantity} : q.isZero = true ↔ q.re = 0 ∧ q.im = 0 := by
  cases q with
  | rational a => simp [isZero, Rational.isZero_iff]
  | complex z => simp [isZero, Gaussian.isZero, Rational.isZero_iff]

/-- A quantity is on the real axis if its imaginary part is zero. A complex quantity may well be there: being
real is not a matter of the kind. -/
theorem isReal_iff {q : Quantity} : q.isReal = true ↔ q.im = 0 := by
  cases q with
  | rational a => simp [isReal]
  | complex z => simp [isReal, Gaussian.isReal, Rational.isZero_iff]

/-! ## Arithmetic -/

/-- The negative of a quantity has the negative real part; its kind is kept, so that two cases are enough
here. -/
@[simp] theorem re_neg (q : Quantity) : (-q).re = -q.re := by
  cases q with
  | rational a => exact Rational.toRat_neg a
  | complex z => exact Rational.toRat_neg z.re

@[simp] theorem im_neg (q : Quantity) : (-q).im = -q.im := by
  cases q with
  | rational a => rfl
  | complex z => exact Rational.toRat_neg z.im

/-- Sums are taken part by part. If the operands are of two kinds the rational one is made complex first, with
the imaginary part zero, and the equation is the same in all four cases. -/
@[simp] theorem re_add (p q : Quantity) : (p + q).re = p.re + q.re := by
  cases p <;> cases q <;> exact Rational.toRat_add _ _

@[simp] theorem im_add (p q : Quantity) : (p + q).im = p.im + q.im := by
  cases p with
  | complex z => exact Rational.toRat_add _ _
  | rational a =>
    cases q with
    | complex z => exact Rational.toRat_add _ _
    | rational b => exact (add_zero (0 : ℚ)).symm

/-- A difference is computed as the sum with the negative, so nothing has to be known here but the parts of
these. -/
@[simp] theorem re_sub (p q : Quantity) : (p - q).re = p.re - q.re := by
  show (p + -q).re = _
  rw [re_add, re_neg, sub_eq_add_neg]

@[simp] theorem im_sub (p q : Quantity) : (p - q).im = p.im - q.im := by
  show (p + -q).im = _
  rw [im_add, im_neg, sub_eq_add_neg]

/-- A product of which one operand is complex is the product of the plane. -/
theorem parts_mul_of_complex {p q : Quantity}
    (mixed : p * q = complex (p.toGaussian * q.toGaussian)) :
    (p * q).re = p.re * q.re - p.im * q.im ∧ (p * q).im = p.re * q.im + p.im * q.re := by
  rw [mixed, re_complex, im_complex]
  simp [re, im]

/-- **The parts of a product** are those of complex numbers, in every combination of kinds. Both are shown at
once, so that the cases are gone through a single time. -/
theorem parts_mul (p q : Quantity) :
    (p * q).re = p.re * q.re - p.im * q.im ∧ (p * q).im = p.re * q.im + p.im * q.re := by
  cases p with
  | complex z => exact parts_mul_of_complex rfl
  | rational a =>
    cases q with
    | complex z => exact parts_mul_of_complex rfl
    | rational b =>
      have product : (rational a * rational b).re = a.toRat * b.toRat := Rational.toRat_mul a b
      have real : (rational a * rational b).im = 0 := rfl
      simp [product, real]

@[simp] theorem re_mul (p q : Quantity) : (p * q).re = p.re * q.re - p.im * q.im :=
  (parts_mul p q).1

@[simp] theorem im_mul (p q : Quantity) : (p * q).im = p.re * q.im + p.im * q.re :=
  (parts_mul p q).2

/-! ## Quotients -/

/-- The scale that quotients by a quantity are taken over. -/
def scale (q : Quantity) : ℚ := q.re * q.re + q.re * q.im

/-- The scale that is computed in fractions denotes the scale of the parts, for quantities of both kinds. -/
theorem scale_toGaussian (q : Quantity) : q.toGaussian.divisorScale.toRat = q.scale := by
  simp [Gaussian.divisorScale, scale, re, im]

/-- So a divisor is refused, once it has been made complex, exactly if its scale is zero as a rational
number. -/
theorem divisorScale_eq_zero {q : Quantity} : q.toGaussian.divisorScale = 0 ↔ q.scale = 0 := by
  rw [← scale_toGaussian, Rational.toRat_eq_zero]

/-- A quotient of which one operand is complex is the quotient of the plane. -/
theorem divide?_of_complex {p q : Quantity}
    (mixed : p.divide? q = (p.toGaussian.divide? q.toGaussian).map complex) (h : q.scale ≠ 0) :
    ∃ r, p.divide? q = some r ∧ r.re = (p.re * q.re - p.im * q.im) / q.scale ∧
      r.im = (p.im * q.re - p.re * q.im) / q.scale := by
  obtain ⟨z, defined, valueRe, valueIm⟩ :=
    Gaussian.divide?_eq_some p.toGaussian (mt divisorScale_eq_zero.mp h)
  refine ⟨complex z, by rw [mixed, defined, Option.map_some], ?_, ?_⟩
  · rw [re_complex, valueRe, scale_toGaussian, Rational.toRat_sub, Rational.toRat_mul,
      Rational.toRat_mul]
    rfl
  · rw [im_complex, valueIm, scale_toGaussian, Rational.toRat_sub, Rational.toRat_mul,
      Rational.toRat_mul]
    rfl

/-- A divisor whose scale is not zero has a quotient for every dividend. -/
theorem divide?_eq_some (p : Quantity) {q : Quantity} (h : q.scale ≠ 0) :
    ∃ r, p.divide? q = some r ∧ r.re = (p.re * q.re - p.im * q.im) / q.scale ∧
      r.im = (p.im * q.re - p.re * q.im) / q.scale := by
  cases p with
  | complex z => exact divide?_of_complex rfl h
  | rational a =>
    cases q with
    | complex z => exact divide?_of_complex rfl h
    | rational b =>
      -- Between two rationals the quotient is exact: the scale cancels.
      have nonzero : b.toRat ≠ 0 := fun zero => h (by simp [scale, zero])
      obtain ⟨r, defined, value⟩ := Rational.divide?_eq_some a (mt Rational.toRat_eq_zero.mpr nonzero)
      refine ⟨rational r, by rw [divide?, defined, Option.map_some], ?_, ?_⟩
      · simp [scale, value, mul_div_mul_right _ _ nonzero]
      · simp

/-- Whether a quotient exists depends on the divisor alone, and not on the kinds. -/
theorem divide?_eq_none {p q : Quantity} : p.divide? q = none ↔ q.scale = 0 := by
  refine ⟨fun none => ?_, fun zero => ?_⟩
  · by_contra nonzero
    obtain ⟨r, defined, -⟩ := divide?_eq_some p nonzero
    rw [defined] at none
    cases none
  · have undefined : p.toGaussian.divide? q.toGaussian = none :=
      Gaussian.divide?_eq_none.mpr (divisorScale_eq_zero.mpr zero)
    cases p with
    | complex z => exact Option.map_eq_none_iff.mpr undefined
    | rational a =>
      cases q with
      | complex z => exact Option.map_eq_none_iff.mpr undefined
      | rational b =>
        have value : b.toRat = 0 := by simpa [scale] using zero
        exact Option.map_eq_none_iff.mpr
          (Rational.divide?_eq_none.mpr (Rational.toRat_eq_zero.mp value))

/-- A quotient over the scale `c² + ce` of a divisor `c + ei` gives the dividend `a + bi` back only when
the divisor is real, or the dividend is zero, or both parts of the divisor agree and the dividend is real. -/
theorem quotient_parts_iff {a b c e : ℚ} (scale : c * c + c * e ≠ 0) :
    ((a * c - b * e) / (c * c + c * e) * c - (b * c - a * e) / (c * c + c * e) * e = a ∧
        (a * c - b * e) / (c * c + c * e) * e + (b * c - a * e) / (c * c + c * e) * c = b) ↔
      e = 0 ∨ (a = 0 ∧ b = 0) ∨ (c = e ∧ b = 0) := by
  have sum : c + e ≠ 0 := by
    intro zero
    exact scale (by rw [← mul_add, zero, mul_zero])
  have real : (a * c - b * e) / (c * c + c * e) * c - (b * c - a * e) / (c * c + c * e) * e = a ↔
      e * (a * (e - c) - 2 * (b * c)) = 0 := by
    rw [div_mul_eq_mul_div, div_mul_eq_mul_div, ← sub_div, div_eq_iff scale]
    constructor <;> intro h <;> linear_combination h
  have imaginary : (a * c - b * e) / (c * c + c * e) * e + (b * c - a * e) / (c * c + c * e) * c = b ↔
      (c + e) * (b * e) = 0 := by
    rw [div_mul_eq_mul_div, div_mul_eq_mul_div, ← add_div, div_eq_iff scale]
    constructor <;> intro h <;> linear_combination -h
  rw [real, imaginary, mul_eq_zero_iff_left sum]
  constructor
  · rintro ⟨h, h'⟩
    rcases mul_eq_zero.mp h with zero | h
    · exact Or.inl zero
    · rcases mul_eq_zero.mp h' with zero | zero
      · -- The dividend is real.
        rw [zero, zero_mul, mul_zero, sub_zero, mul_eq_zero, sub_eq_zero] at h
        rcases h with zero' | same
        · exact Or.inr (Or.inl ⟨zero', zero⟩)
        · exact Or.inr (Or.inr ⟨same.symm, zero⟩)
      · exact Or.inl zero
  · rintro (zero | ⟨zero, zero'⟩ | ⟨same, zero⟩)
    · simp [zero]
    · simp [zero, zero']
    · simp [same, zero]

/-- **When a quotient gives the dividend back**, multiplied by the divisor: for divisors on the real axis, for
the dividend zero, and for a real dividend over a multiple of `1 + i`. All other quotients that exist are not
those of complex numbers. -/
theorem mul_quotient_iff {p d q : Quantity} (quotient : p.divide? d = some q) :
    (q * d).SameValue p ↔ d.im = 0 ∨ p.isZero = true ∨ (d.re = d.im ∧ p.im = 0) := by
  have scale : d.scale ≠ 0 := by
    intro zero
    rw [divide?_eq_none.mpr zero] at quotient
    cases quotient
  obtain ⟨q', defined, re, im⟩ := divide?_eq_some p scale
  obtain rfl := Option.some.inj (quotient.symm.trans defined)
  rw [sameValue_iff, re_mul, im_mul, re, im, isZero_iff]
  exact quotient_parts_iff scale

/-! ## The real axis -/

/-- The real axis is closed under negatives, sums and products; these three lemmas are what keeps a real grid
real through a reduction. -/
theorem isReal_neg {q : Quantity} (h : q.isReal = true) : (-q).isReal = true := by
  rw [isReal_iff] at h ⊢
  rw [im_neg, h, neg_zero]

theorem isReal_add {p q : Quantity} (hp : p.isReal = true) (hq : q.isReal = true) :
    (p + q).isReal = true := by
  rw [isReal_iff] at hp hq ⊢
  rw [im_add, hp, hq, add_zero]

theorem isReal_mul {p q : Quantity} (hp : p.isReal = true) (hq : q.isReal = true) :
    (p * q).isReal = true := by
  rw [isReal_iff] at hp hq ⊢
  rw [im_mul, hp, hq, mul_zero, zero_mul, add_zero]

/-- On the real axis a quantity is zero if its real part is, and elimination there can be followed on the real
parts alone. -/
theorem isZero_iff_of_isReal {q : Quantity} (h : q.isReal = true) : q.isZero = true ↔ q.re = 0 := by
  rw [isZero_iff, isReal_iff.mp h]
  exact and_iff_left rfl

/-- A pivot on the real axis, which is not zero, has a real part to divide by. -/
theorem re_ne_zero {q : Quantity} (h : q.isReal = true) (nonzero : q.isZero = false) : q.re ≠ 0 := by
  rw [Ne, ← isZero_iff_of_isReal h, nonzero]
  exact Bool.false_ne_true

/-- One factor on the real axis is enough for the real part of a product to be the product of the real parts;
the other factor may lie anywhere. -/
theorem re_mul_of_isReal {p q : Quantity} (hp : p.isReal = true) : (p * q).re = p.re * q.re := by
  rw [re_mul, isReal_iff.mp hp, zero_mul, sub_zero]

/-- On the real axis division is that of the field. -/
theorem divide?_of_isReal {p q : Quantity} (hp : p.isReal = true) (hq : q.isReal = true)
    (nonzero : q.re ≠ 0) :
    ∃ r, p.divide? q = some r ∧ r.isReal = true ∧ r.re = p.re / q.re := by
  rw [isReal_iff] at hp hq
  have scale : q.scale = q.re * q.re := by rw [scale, hq, mul_zero, add_zero]
  obtain ⟨r, defined, valueRe, valueIm⟩ :=
    divide?_eq_some p (q := q) (by rw [scale]; exact mul_ne_zero nonzero nonzero)
  refine ⟨r, defined, isReal_iff.mpr ?_, ?_⟩
  · rw [valueIm, hp, hq, zero_mul, mul_zero, sub_zero, zero_div]
  · rw [valueRe, hp, scale, zero_mul, sub_zero, mul_div_mul_right _ _ nonzero]

end Quantity

end ExactAlgebra
