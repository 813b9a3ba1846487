import ExactAlgebra.Operand.Operators
import ExactAlgebra.Proofs.Equality
import ExactAlgebra.Proofs.RationalField
import Mathlib.Algebra.Order.Floor.Semiring
import Mathlib.Data.Rat.Floor
import Mathlib.Data.Sign.Basic
import Mathlib.Tactic.Linarith

/-!
# Fractions in the order of the rational numbers

The map from fractions to the field `ℚ` keeps the order, distances from zero and integer parts, and the
mediant of two fractions lies between them. Together with the arithmetic of
`ExactAlgebra.Proofs.RationalField` this makes fractions an exact copy of the ordered field: whatever an
operation is asked for, its answer is the fraction in lowest terms of the true result.

## Main definitions

* `Rational.Denotes`: a fraction is the number `x` in lowest terms.
* `Comparison.relates`: an order relation between numbers of the field.

## Main statements

* `Rational.compareTo_eq_sign`: cross multiplication finds the sign of the difference.
* `Rational.truncate_eq`, `Rational.lt_mediant_lt`: integer parts and mediants.
* `Rational.compare_quantities`, `Rational.equals_quantities`: the operators between two fractions.
* `Rational.operations_are_exact`: all operations at once.
-/

namespace ExactAlgebra

/-- The relation holds between two rational numbers. -/
def Comparison.relates : Comparison → ℚ → ℚ → Prop
  | .less, x, y => x < y
  | .lessOrEqual, x, y => x ≤ y
  | .greater, x, y => y < x
  | .greaterOrEqual, x, y => y ≤ x

instance (r : Comparison) (x y : ℚ) : Decidable (r.relates x y) := by
  cases r <;> unfold Comparison.relates <;> infer_instance

namespace Rational

/-- The fraction is the number `x`, written in lowest terms over a positive denominator. -/
structure Denotes (a : Rational) (x : ℚ) : Prop where
  /-- The quotient of the terms is the number. -/
  value : (a.num : ℚ) / a.den = x
  /-- The denominator is positive. -/
  den_pos : 0 < a.den
  /-- The terms have no common factor. -/
  lowest : Int.gcd a.num a.den = 1

/-- A fraction is what it denotes in the field, and is in lowest terms by construction. -/
theorem denotes_of_toRat_eq {a : Rational} {x : ℚ} (value : a.toRat = x) : a.Denotes x :=
  ⟨a.toRat_eq_div.symm.trans value, a.den_pos, a.reduced⟩

/-! ## Order -/

/-- **Cross multiplication compares.** The denominators are positive, so the difference of the cross products
has the sign of the difference of the numbers. -/
theorem compareTo_eq_sign (a b : Rational) :
    a.compareTo b = (SignType.sign (a.toRat - b.toRat) : ℤ) := by
  have posA : (0 : ℚ) < a.den := Nat.cast_pos.mpr a.den_pos
  have posB : (0 : ℚ) < b.den := Nat.cast_pos.mpr b.den_pos
  have cross : ((a.num * b.den - b.num * a.den : ℤ) : ℚ)
      = (a.toRat - b.toRat) * (a.den * b.den) := by
    rw [toRat_eq_div, toRat_eq_div]
    push_cast
    field_simp
  have scaled : SignType.sign (a.toRat - b.toRat)
      = SignType.sign ((a.num * b.den - b.num * a.den : ℤ) : ℚ) := by
    rw [cross, sign_mul, sign_pos (mul_pos posA posB), mul_one]
  rw [compareTo, scaled, Int.sign_eq_sign]
  congr 1
  rcases lt_trichotomy (a.num * b.den - b.num * a.den : ℤ) 0 with neg | zero | pos
  · rw [sign_neg neg, sign_neg (Int.cast_lt_zero.mpr neg)]
  · rw [zero, Int.cast_zero, sign_zero, sign_zero]
  · rw [sign_pos pos, sign_pos (Int.cast_pos.mpr pos)]

/-- The order of fractions is the order of the rational numbers. What is known about the field may be used for
fractions from here on. -/
theorem lt_iff_toRat_lt {a b : Rational} : a < b ↔ a.toRat < b.toRat := by
  show a.compareTo b < 0 ↔ _
  rw [compareTo_eq_sign]
  rcases lt_trichotomy a.toRat b.toRat with lt | eq | gt
  · rw [sign_neg (sub_neg.mpr lt)]
    exact iff_of_true (by decide) lt
  · rw [eq, sub_self, sign_zero]
    exact iff_of_false (by decide) (lt_irrefl _)
  · rw [sign_pos (sub_pos.mpr gt)]
    exact iff_of_false (by decide) gt.asymm

/-- The weak order is the one of the field, too. It is defined by the comparison and not by the strict order,
and so it needs its own argument. -/
theorem le_iff_toRat_le {a b : Rational} : a ≤ b ↔ a.toRat ≤ b.toRat := by
  show a.compareTo b ≤ 0 ↔ _
  rw [compareTo_eq_sign]
  rcases lt_trichotomy a.toRat b.toRat with lt | eq | gt
  · rw [sign_neg (sub_neg.mpr lt)]
    exact iff_of_true (by decide) lt.le
  · rw [eq, sub_self, sign_zero]
    exact iff_of_true (by decide) le_rfl
  · rw [sign_pos (sub_pos.mpr gt)]
    exact iff_of_false (by decide) gt.not_ge

/-- Two fractions compare as equal if they are one. There are no two fractions that neither differ nor
coincide. -/
theorem ordering_eq_iff {a b : Rational} : a.ordering b = .eq ↔ a = b := by
  unfold ordering
  simp only [lt_iff_toRat_lt]
  rw [← toRat_inj]
  rcases lt_trichotomy a.toRat b.toRat with lt | eq | gt
  · simp [lt, lt.ne]
  · simp [eq]
  · simp [gt, gt.asymm, gt.ne']

/-- An order relation holds of fractions when it holds in the field. -/
theorem holds_ordering (r : Comparison) (a b : Rational) :
    r.holds (a.ordering b) = decide (r.relates a.toRat b.toRat) := by
  unfold ordering
  simp only [lt_iff_toRat_lt]
  rcases lt_trichotomy a.toRat b.toRat with lt | eq | gt
  · cases r <;> simp [Comparison.holds, Comparison.relates, lt, lt.le, lt.not_ge, lt.asymm]
  · cases r <;> simp [Comparison.holds, Comparison.relates, eq]
  · cases r <;> simp [Comparison.holds, Comparison.relates, gt, gt.le, gt.not_ge, gt.asymm]

/-! ## Operators -/

/-- Each of the order operators, applied to two rational quantities, tells whether its relation holds between
the numbers. It always has an answer. -/
theorem compare_quantities (r : Comparison) (a b : Rational) :
    Operand.compare r (.quantity (.rational a)) (.quantity (.rational b)) =
      .ok (.bool (decide (r.relates a.toRat b.toRat))) := by
  have plain : Operand.compare r (.quantity (.rational a)) (.quantity (.rational b)) =
      .ok (.bool (r.holds (a.ordering b))) := rfl
  rw [plain, holds_ordering]

theorem sameValue_iff {a b : Rational} : (Quantity.rational a).SameValue (.rational b) ↔ a = b := by
  show Gaussian.ofRational a = Gaussian.ofRational b ↔ _
  rw [Gaussian.ofRational, Gaussian.ofRational, Gaussian.mk.injEq, and_iff_left rfl]

/-- The operator for equality tells whether two rational quantities are one number. -/
theorem equals_quantities (a b : Rational) :
    Operand.equals true (.quantity (.rational a)) (.quantity (.rational b)) =
      .ok (.bool (decide (a.toRat = b.toRat))) := by
  rw [Quantity.equals_quantity, decide_eq_decide.mpr (sameValue_iff.trans toRat_inj.symm)]

/-! ## Distances, integer parts, mediants -/

theorem toRat_nonneg {a : Rational} : 0 ≤ a.toRat ↔ 0 ≤ a.num := Rat.num_nonneg.symm

/-- The distance from zero is taken by changing the sign of the numerator, if this is negative. It denotes the
distance of the number. -/
theorem toRat_abs (a : Rational) : a.abs.toRat = |a.toRat| := by
  unfold abs
  split
  case isTrue nonneg => rw [abs_of_nonneg (toRat_nonneg.mpr nonneg)]
  case isFalse negative =>
    rw [toRat_neg, abs_of_neg (not_le.mp (mt toRat_nonneg.mp negative))]

/-- The integer part is the greatest integer below a number that is not negative, and the least one
above a negative number. -/
theorem truncate_eq (a : Rational) : a.truncate = if 0 ≤ a.toRat then ⌊a.toRat⌋ else ⌈a.toRat⌉ := by
  rw [truncate]
  split
  case isTrue nonneg =>
    rw [toRat_eq_div, Int.tdiv_eq_ediv_of_nonneg (toRat_nonneg.mp nonneg), Rat.floor_intCast_div_natCast]
  case isFalse negative =>
    have num : 0 ≤ -a.num := by
      rw [toRat_nonneg] at negative
      omega
    have quotient : -a.toRat = ((-a.num : ℤ) : ℚ) / a.den := by
      rw [toRat_eq_div, Int.cast_neg, neg_div]
    rw [← neg_neg a.num, Int.neg_tdiv, Int.tdiv_eq_ediv_of_nonneg num, ← neg_neg a.toRat, Int.ceil_neg,
      quotient, Rat.floor_intCast_div_natCast]

/-- The mediant has the sum of the numerators over the sum of the denominators, which are then reduced. -/
theorem toRat_mediant (a b : Rational) :
    (mediant a b).toRat = (a.num + b.num : ℤ) / (a.den + b.den : ℕ) :=
  toRat_reduce ..

/-- The mediant of two different fractions lies strictly between them. -/
theorem lt_mediant_lt {a b : Rational} (lt : a.toRat < b.toRat) :
    a.toRat < (mediant a b).toRat ∧ (mediant a b).toRat < b.toRat := by
  have posA : (0 : ℚ) < a.den := Nat.cast_pos.mpr a.den_pos
  have posB : (0 : ℚ) < b.den := Nat.cast_pos.mpr b.den_pos
  have cross : (a.num : ℚ) * b.den < b.num * a.den := by
    rwa [toRat_eq_div, toRat_eq_div, div_lt_div_iff₀ posA posB] at lt
  rw [toRat_mediant, toRat_eq_div, toRat_eq_div]
  push_cast
  constructor
  · rw [div_lt_div_iff₀ posA (add_pos posA posB)]
    linarith
  · rw [div_lt_div_iff₀ (add_pos posA posB) posB]
    linarith

/-! ## All operations -/

/-- **Fractions are an exact copy of the rational numbers.** The map is one to one; sums, differences,
products, quotients, negatives, distances from zero and reciprocals are the true ones in lowest terms,
and only a division by zero has no result; the order is the true order; integer parts are cut off toward
zero; and a mediant lies between. -/
theorem operations_are_exact :
    Function.Injective (fun a : Rational => (a.num : ℚ) / a.den) ∧
      ∀ a b : Rational,
        (∃ r, (Quantity.rational a).combine .add (.quantity (.rational b)) = .ok (.rational r) ∧
          r.Denotes (a.toRat + b.toRat)) ∧
        (∃ r, (Quantity.rational a).combine .subtract (.quantity (.rational b)) = .ok (.rational r) ∧
          r.Denotes (a.toRat - b.toRat)) ∧
        (∃ r, (Quantity.rational a).combine .multiply (.quantity (.rational b)) = .ok (.rational r) ∧
          r.Denotes (a.toRat * b.toRat)) ∧
        (b.toRat ≠ 0 →
          ∃ r, (Quantity.rational a).combine .divide (.quantity (.rational b)) = .ok (.rational r) ∧
            r.Denotes (a.toRat / b.toRat)) ∧
        (b.toRat = 0 →
          (Quantity.rational a).combine .divide (.quantity (.rational b)) = .error .divisionByZero) ∧
        (∃ r, -Quantity.rational a = .rational r ∧ r.Denotes (-a.toRat)) ∧
        a.abs.Denotes |a.toRat| ∧
        (a.toRat ≠ 0 → ∃ r, a.reciprocal = .ok r ∧ r.Denotes a.toRat⁻¹) ∧
        (a.toRat = 0 → a.reciprocal = .error .divisionByZero) ∧
        (Quantity.rational a).compareWith (.quantity (.rational b)) =
          .ok (SignType.sign (a.toRat - b.toRat) : ℤ) ∧
        Operand.equals true (.quantity (.rational a)) (.quantity (.rational b)) =
          .ok (.bool (decide (a.toRat = b.toRat))) ∧
        (∀ r : Comparison, Operand.compare r (.quantity (.rational a)) (.quantity (.rational b)) =
          .ok (.bool (decide (r.relates a.toRat b.toRat)))) ∧
        a.truncate = (if 0 ≤ a.toRat then ⌊a.toRat⌋ else ⌈a.toRat⌉) ∧
        (mediant a b).Denotes ((a.num + b.num : ℤ) / (a.den + b.den : ℕ)) ∧
        (a.toRat < b.toRat →
          a.toRat < (mediant a b).toRat ∧ (mediant a b).toRat < b.toRat) := by
  refine ⟨?_, fun a b => ⟨⟨a + b, rfl, ?_⟩, ⟨a - b, rfl, ?_⟩, ⟨a * b, rfl, ?_⟩, ?_, ?_, ⟨-a, rfl, ?_⟩,
    ?_, ?_, ?_, ?_, equals_quantities a b, fun r => compare_quantities r a b, truncate_eq a, ?_,
    lt_mediant_lt⟩⟩
  · have map : (fun a : Rational => (a.num : ℚ) / a.den) = toRat :=
      funext fun a => a.toRat_eq_div.symm
    rw [map]
    exact toRat_injective
  · exact denotes_of_toRat_eq (toRat_add a b)
  · exact denotes_of_toRat_eq (toRat_sub a b)
  · exact denotes_of_toRat_eq (toRat_mul a b)
  · intro nonzero
    obtain ⟨q, defined, value⟩ := divide?_eq_some a (mt toRat_eq_zero.mpr nonzero)
    refine ⟨q, ?_, denotes_of_toRat_eq value⟩
    show orFail .divisionByZero ((a.divide? b).map Quantity.rational) = _
    rw [defined, Option.map_some, orFail_some]
  · intro zero
    show orFail .divisionByZero ((a.divide? b).map Quantity.rational) = _
    rw [toRat_eq_zero.mp zero, divide?_zero, Option.map_none, orFail_none]
  · exact denotes_of_toRat_eq (toRat_neg a)
  · exact denotes_of_toRat_eq (toRat_abs a)
  · intro nonzero
    obtain ⟨r, defined, value⟩ := reciprocal?_eq_some (mt toRat_eq_zero.mpr nonzero)
    exact ⟨r, by rw [reciprocal, defined, orFail_some], denotes_of_toRat_eq value⟩
  · intro zero
    rw [reciprocal, toRat_eq_zero.mp zero, reciprocal?_zero, orFail_none]
  · rw [← compareTo_eq_sign]
    rfl
  · exact denotes_of_toRat_eq (toRat_mediant a b)

/-- The numbers `-1/2` and `1/3`: their quotient, a reciprocal, their mediant, and a division by zero. -/
theorem operations_on_minus_half_and_third :
    let a := reduce (-1) 2 Nat.two_pos
    let b := reduce 1 3 (Nat.succ_pos 2)
    a.toRat < b.toRat ∧
      (∃ r, (Quantity.rational a).combine .divide (.quantity (.rational b)) = .ok (.rational r) ∧
        r.Denotes (-3 / 2)) ∧
      (∃ r, a.reciprocal = .ok r ∧ r.Denotes (-2)) ∧
      (a.toRat < (mediant a b).toRat ∧ (mediant a b).toRat < b.toRat) ∧
      (Quantity.rational a).combine .divide (.quantity (.rational 0)) = .error .divisionByZero ∧
      (0 : Rational).reciprocal = .error .divisionByZero := by
  intro a b
  have valueA : a.toRat = -1 / 2 := by
    rw [toRat_reduce]
    norm_num
  have valueB : b.toRat = 1 / 3 := by
    rw [toRat_reduce]
    norm_num
  have lt : a.toRat < b.toRat := by
    rw [valueA, valueB]
    norm_num
  obtain ⟨-, -, -, quotient, -, -, -, reciprocal, -, -, -, -, -, -, between⟩ := operations_are_exact.2 a b
  obtain ⟨q, division, denotes⟩ := quotient (by rw [valueB]; norm_num)
  obtain ⟨r, inverse, denotes'⟩ := reciprocal (by rw [valueA]; norm_num)
  rw [valueA, valueB, show (-1 / 2 : ℚ) / (1 / 3) = -3 / 2 by norm_num] at denotes
  rw [valueA, show (-1 / 2 : ℚ)⁻¹ = -2 by norm_num] at denotes'
  obtain ⟨-, -, -, -, noQuotient, -⟩ := operations_are_exact.2 a 0
  obtain ⟨-, -, -, -, -, -, -, -, noReciprocal, -⟩ := operations_are_exact.2 0 0
  exact ⟨lt, ⟨q, division, denotes⟩, ⟨r, inverse, denotes'⟩, between lt, noQuotient rfl, noReciprocal rfl⟩

end Rational

end ExactAlgebra
