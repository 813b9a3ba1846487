import ExactAlgebra.Operand.Conversion
import ExactAlgebra.Proofs.RationalOrder
import Mathlib.Data.Nat.Prime.Basic
import Mathlib.Data.Rat.Lemmas
import Mathlib.RingTheory.Coprime.Lemmas
import Mathlib.Tactic.LinearCombination

/-!
# The number that stands for a float

A float is replaced by the closest fraction whose denominator does not exceed a bound, and that fraction is
found on the continued fraction of the float: when the next convergent is out of bounds, the last one and the
last intermediate fraction are neighbours among the fractions within the bound, and the float lies between
them. Hence one of the two is closest, and every other fraction is farther away, unless the float is just
halfway between the two. It never is: the denominator of a float is a power of two, and that of a number
halfway between two neighbours is a multiple of both their denominators. Two neighbours whose denominators are
powers of two must be an integer and a fraction with the bound for its denominator; but a million is no power
of two.

## Main definitions

* `IsClosest`: every other number with a small denominator is strictly farther away.
* `Encloses`: a number lies between two neighbours among the fractions with small denominators.
* `Rational.Expansion`: what the loop over the continued fraction keeps.

## Main statements

* `IsClosest.unique`, `IsClosest.neg`, `IsClosest.mono`: closest numbers of related numbers.
* `Encloses.gap`, `Encloses.not_midpoint`: neighbours.
* `Rational.Expansion.step`, `Rational.Expansion.run`, `Rational.Expansion.encloses`: the loop.
* `Rational.isClosest_closest`: the closest number is found.
* `toRational_double`: the number that stands for a double.
-/

namespace ExactAlgebra

/-! ## Closest numbers -/

/-- Of all numbers with a denominator of at most `bound`, the number `r` is the closest to `x`, and every
other one is strictly farther away. -/
structure IsClosest (bound : ℕ) (x r : ℚ) : Prop where
  /-- The number is one of those to choose from. -/
  den_le : r.den ≤ bound
  /-- Every other one is farther away. -/
  closer : ∀ s : ℚ, s.den ≤ bound → s ≠ r → |x - r| < |x - s|

/-- Of two numbers the greater one is closer when the midpoint is below. -/
theorem abs_sub_lt_abs_sub_iff {x r s : ℚ} (lt : s < r) : |x - r| < |x - s| ↔ s + r < 2 * x := by
  rw [← sq_lt_sq]
  constructor <;> intro h <;> nlinarith

theorem one_div_den_le_abs {s : ℚ} (nonzero : s ≠ 0) : 1 / (s.den : ℚ) ≤ |s| := by
  have one : (1 : ℚ) ≤ |(s.num : ℚ)| := by
    exact_mod_cast Int.one_le_abs (Rat.num_ne_zero.mpr nonzero)
  have pos : (0 : ℚ) < s.den := Nat.cast_pos.mpr s.den_pos
  calc 1 / (s.den : ℚ) ≤ |(s.num : ℚ)| / s.den := by gcongr
    _ = |s| := by
      conv_rhs => rw [← Rat.num_div_den s, abs_div, Nat.abs_cast]

theorem den_div_le {bound : ℕ} {n d : ℤ} (pos : 0 < d) (le : d ≤ bound) : ((n : ℚ) / d).den ≤ bound := by
  have divides : (((n : ℚ) / d).den : ℤ) ∣ d := by
    rw [← Rat.divInt_eq_div]
    exact Rat.den_dvd n d
  exact_mod_cast (Int.le_of_dvd pos divides).trans le

namespace IsClosest

variable {bound : ℕ} {x y r s : ℚ}

theorem unique (hr : IsClosest bound x r) (hs : IsClosest bound x s) : r = s := by
  by_contra other
  exact (hr.closer s hs.den_le (Ne.symm other)).asymm (hs.closer r hr.den_le other)

/-- A number with a small denominator is the closest to itself. -/
theorem of_den_le (le : x.den ≤ bound) : IsClosest bound x x := by
  refine ⟨le, fun s _ other => ?_⟩
  rw [sub_self, abs_zero]
  exact abs_pos.mpr (sub_ne_zero.mpr other.symm)

theorem neg (h : IsClosest bound x r) : IsClosest bound (-x) (-r) := by
  refine ⟨h.den_le, fun s small other => ?_⟩
  have mirrored : |x - r| < |x - -s| := h.closer (-s) small fun same => other (by rw [← same, neg_neg])
  have left : -x - -r = -(x - r) := by ring
  have right : -x - s = -(x - -s) := by ring
  rwa [left, right, abs_neg, abs_neg]

/-- Closest numbers are in the order of the numbers that they are closest to. -/
theorem mono (hr : IsClosest bound x r) (hs : IsClosest bound y s) (le : x ≤ y) : r ≤ s := by
  by_contra! lt
  have above : s + r < 2 * x := (abs_sub_lt_abs_sub_iff lt).mp (hr.closer s hs.den_le lt.ne)
  have below : |y - s| < |y - r| := hs.closer r hr.den_le lt.ne'
  have above' : s + r < 2 * y := by linarith
  exact below.asymm ((abs_sub_lt_abs_sub_iff lt).mpr above')

/-- Below half of the least positive number zero is the closest. -/
theorem zero (pos : 0 < bound) (small : |x| < 1 / (2 * bound)) : IsClosest bound x 0 := by
  refine ⟨pos, fun s den other => ?_⟩
  have posDen : (0 : ℚ) < s.den := Nat.cast_pos.mpr s.den_pos
  have posBound : (0 : ℚ) < bound := Nat.cast_pos.mpr pos
  have size : 1 / (bound : ℚ) ≤ |s| :=
    (one_div_le_one_div_of_le posDen (Nat.cast_le.mpr den)).trans (one_div_den_le_abs other)
  have far : |s| - |x| ≤ |s - x| := abs_sub_abs_le_abs_sub s x
  have half : 1 / (2 * (bound : ℚ)) = 1 / bound / 2 := by ring
  rw [sub_zero, abs_sub_comm x s]
  linarith

end IsClosest

/-! ## Neighbours -/

theorem eq_one_of_dvd_two_pow {m n k : ℕ} (left : m ∣ 2 ^ k) (right : n ∣ 2 ^ k) (coprime : m.Coprime n) :
    m = 1 ∨ n = 1 := by
  obtain ⟨i, -, rfl⟩ := (Nat.dvd_prime_pow Nat.prime_two).mp left
  obtain ⟨j, -, rfl⟩ := (Nat.dvd_prime_pow Nat.prime_two).mp right
  by_contra! both
  have even {l : ℕ} (ne : 2 ^ l ≠ 1) : 2 ∣ 2 ^ l := dvd_pow_self 2 fun zero => ne (by rw [zero, pow_zero])
  exact Nat.not_coprime_of_dvd_of_dvd one_lt_two (even both.1) (even both.2) coprime

/-- The number `x` lies between `p / q` and `r / s`, and these are neighbours among the fractions with a
denominator of at most `bound`: their cross difference is one, and the sum of their denominators is out of
bounds. -/
structure Encloses (bound : ℕ) (x : ℚ) (p q r s : ℤ) : Prop where
  left_pos : 0 < q
  right_pos : 0 < s
  left_le : q ≤ bound
  right_le : s ≤ bound
  det : r * q - p * s = 1
  beyond : bound < q + s
  left_lt : (p : ℚ) / q < x
  lt_right : x < r / s

namespace Encloses

variable {bound : ℕ} {x : ℚ} {p q r s : ℤ}

theorem neg (h : Encloses bound x p q r s) : Encloses bound (-x) (-r) s (-p) q where
  left_pos := h.right_pos
  right_pos := h.left_pos
  left_le := h.right_le
  right_le := h.left_le
  det := by linarith [h.det]
  beyond := by linarith [h.beyond]
  left_lt := by
    rw [Int.cast_neg, neg_div]
    exact neg_lt_neg h.lt_right
  lt_right := by
    rw [Int.cast_neg, neg_div]
    exact neg_lt_neg h.left_lt

/-- A number strictly between two neighbours has at least the sum of their denominators for its
denominator. -/
theorem gap (h : Encloses bound x p q r s) {t : ℚ} (small : t.den ≤ bound) :
    t ≤ p / q ∨ (r : ℚ) / s ≤ t := by
  by_contra! between
  obtain ⟨left, right⟩ := between
  have posQ : (0 : ℚ) < q := Int.cast_pos.mpr h.left_pos
  have posS : (0 : ℚ) < s := Int.cast_pos.mpr h.right_pos
  have posT : (0 : ℚ) < t.den := Nat.cast_pos.mpr t.den_pos
  rw [← Rat.num_div_den t] at left right
  have leftCross : p * t.den < t.num * q := by
    exact_mod_cast (div_lt_div_iff₀ posQ posT).mp left
  have rightCross : t.num * s < r * t.den := by
    exact_mod_cast (div_lt_div_iff₀ posT posS).mp right
  have sum : q + s ≤ t.den := by
    calc q + s ≤ q * (r * t.den - t.num * s) + s * (t.num * q - p * t.den) :=
          add_le_add (le_mul_of_one_le_right h.left_pos.le (by linarith))
            (le_mul_of_one_le_right h.right_pos.le (by linarith))
      _ = (r * q - p * s) * t.den := by ring
      _ = t.den := by rw [h.det, one_mul]
  have beyond := h.beyond
  omega

/-- The left neighbour is the closest number, if it is closer than the right one. -/
theorem isClosest_left (h : Encloses bound x p q r s) (nearer : 2 * x < p / q + r / s) :
    IsClosest bound x (p / q) := by
  refine ⟨den_div_le h.left_pos h.left_le, fun t small other => ?_⟩
  have left := h.left_lt
  rw [abs_of_pos (sub_pos.mpr left)]
  rcases h.gap small with below | above
  · have lt : t < p / q := lt_of_le_of_ne below other
    rw [abs_of_pos (by linarith)]
    linarith
  · rw [abs_sub_comm, abs_of_pos (by linarith [h.lt_right])]
    linarith

/-- The right neighbour is the closest number, if it is closer than the left one. -/
theorem isClosest_right (h : Encloses bound x p q r s) (nearer : p / q + r / s < 2 * x) :
    IsClosest bound x (r / s) := by
  have mirrored := h.neg.isClosest_left (by
    rw [Int.cast_neg, Int.cast_neg, neg_div, neg_div]
    linarith)
  have back := mirrored.neg
  rwa [neg_neg, Int.cast_neg, neg_div, neg_neg] at back

/-- A number halfway between two neighbours has a denominator that both their denominators divide. If that is
a power of two, then so are those; and since they have no common factor, one of them is one, and the other
one is the bound. -/
theorem not_midpoint (h : Encloses bound x p q r s) {k : ℕ} (power : x.den ∣ 2 ^ k)
    (bound_not : ¬ bound ∣ 2 ^ k) : p / q + r / s ≠ 2 * x := by
  intro midpoint
  have det := h.det
  have beyond := h.beyond
  have posQ := h.left_pos
  have posS := h.right_pos
  have leQ := h.left_le
  have leS := h.right_le
  have sum : (p * s + r * q) * x.den = 2 * x.num * (q * s) := by
    have nonzeroQ : (q : ℚ) ≠ 0 := Int.cast_ne_zero.mpr posQ.ne'
    have nonzeroS : (s : ℚ) ≠ 0 := Int.cast_ne_zero.mpr posS.ne'
    have nonzero : (x.den : ℚ) ≠ 0 := Nat.cast_ne_zero.mpr x.den_ne_zero
    rw [← Rat.num_div_den x, div_add_div _ _ nonzeroQ nonzeroS, mul_div_assoc',
      div_eq_div_iff (mul_ne_zero nonzeroQ nonzeroS) nonzero] at midpoint
    rw [← Int.cast_inj (α := ℚ)]
    push_cast
    linarith
  -- The sum of the cross products has no factor in common with the denominators.
  have coprimeQ : IsCoprime q (p * s + r * q) := ⟨2 * r, -1, by linarith⟩
  have coprimeS : IsCoprime s (p * s + r * q) := ⟨-2 * p, 1, by linarith⟩
  have coprime : IsCoprime q s := ⟨r, -p, by linarith⟩
  have divQ : q ∣ x.den := coprimeQ.dvd_of_dvd_mul_left ⟨2 * x.num * s, by rw [sum]; ring⟩
  have divS : s ∣ x.den := coprimeS.dvd_of_dvd_mul_left ⟨2 * x.num * q, by rw [sum]; ring⟩
  lift q to ℕ using posQ.le
  lift s to ℕ using posS.le
  have powerQ : q ∣ 2 ^ k := (Int.natCast_dvd_natCast.mp divQ).trans power
  have powerS : s ∣ 2 ^ k := (Int.natCast_dvd_natCast.mp divS).trans power
  rcases eq_one_of_dvd_two_pow powerQ powerS (Nat.isCoprime_iff_coprime.mp coprime) with one | one
  · have same : s = bound := by omega
    exact bound_not (same ▸ powerS)
  · have same : q = bound := by omega
    exact bound_not (same ▸ powerQ)

/-- The left neighbour is the closest number if it is not farther away than the right one. -/
theorem isClosest_of_le (h : Encloses bound x p q r s) {k : ℕ} (power : x.den ∣ 2 ^ k)
    (bound_not : ¬ bound ∣ 2 ^ k) (le : |p / q - x| ≤ |r / s - x|) : IsClosest bound x (p / q) := by
  rw [abs_of_neg (sub_neg.mpr h.left_lt), abs_of_pos (sub_pos.mpr h.lt_right)] at le
  exact h.isClosest_left (lt_of_le_of_ne (by linarith) (h.not_midpoint power bound_not).symm)

/-- The right neighbour is the closest number if it is not farther away than the left one. -/
theorem isClosest_of_ge (h : Encloses bound x p q r s) {k : ℕ} (power : x.den ∣ 2 ^ k)
    (bound_not : ¬ bound ∣ 2 ^ k) (le : |r / s - x| ≤ |p / q - x|) : IsClosest bound x (r / s) := by
  rw [abs_of_neg (sub_neg.mpr h.left_lt), abs_of_pos (sub_pos.mpr h.lt_right)] at le
  exact h.isClosest_right (lt_of_le_of_ne (by linarith) (h.not_midpoint power bound_not))

end Encloses

namespace Rational

/-! ## The loop -/

/-- A fraction is below a number when its numerator crosswise is. -/
theorem div_lt_toRat {a : Rational} {p q : ℤ} (pos : 0 < q) (cross : p * a.den < a.num * q) :
    (p : ℚ) / q < a.toRat := by
  rw [toRat_eq_div, div_lt_div_iff₀ (Int.cast_pos.mpr pos) (Nat.cast_pos.mpr a.den_pos)]
  exact_mod_cast cross

theorem toRat_lt_div {a : Rational} {p q : ℤ} (pos : 0 < q) (cross : a.num * q < p * a.den) :
    a.toRat < (p : ℚ) / q := by
  rw [toRat_eq_div, div_lt_div_iff₀ (Nat.cast_pos.mpr a.den_pos) (Int.cast_pos.mpr pos)]
  exact_mod_cast cross

/-- What the loop over the continued fraction of `a` keeps: the rest `n / d` of the fraction and the two
convergents before it give `a` back, the convergents are as close to each other as fractions can be, and
their denominators are within the bound. -/
structure Expansion (bound : ℕ) (a : Rational) (n : ℤ) (d : ℕ) (before last : ℤ × ℤ) : Prop where
  num : n * last.1 + d * before.1 = a.num
  den : n * last.2 + d * before.2 = a.den
  det : last.1 * before.2 - before.1 * last.2 = 1 ∨ last.1 * before.2 - before.1 * last.2 = -1
  before_nonneg : 0 ≤ before.2
  last_nonneg : 0 ≤ last.2
  before_le : before.2 ≤ bound
  last_le : last.2 ≤ bound
  /-- Only the first quotient may be negative. -/
  forward : 0 ≤ n ∨ last.2 = 0

namespace Expansion

variable {bound : ℕ} {a : Rational} {n : ℤ} {d : ℕ} {before last : ℤ × ℤ}

theorem start (a : Rational) (pos : 0 < bound) : Expansion bound a a.num a.den (0, 1) (1, 0) where
  num := by simp
  den := by simp
  det := Or.inl rfl
  before_nonneg := Int.one_nonneg
  last_nonneg := le_rfl
  before_le := Nat.one_le_cast.mpr pos
  last_le := Int.natCast_nonneg bound
  forward := Or.inr rfl

/-- **One step** takes one quotient off the rest, which is Euclid's algorithm on the terms of the fraction. The
convergent it leads to is within the bound by assumption, and its determinant with the last one changes the
sign. -/
theorem step (h : Expansion bound a n d before last) (pos : 0 < d)
    (within : before.2 + n / d * last.2 ≤ bound) :
    Expansion bound a d (n % d).toNat last (before.1 + n / d * last.1, before.2 + n / d * last.2) := by
  have posD : (0 : ℤ) < d := by exact_mod_cast pos
  have rest : ((n % d).toNat : ℤ) = n % d := Int.toNat_of_nonneg (Int.emod_nonneg n posD.ne')
  have split : d * (n / d) + n % d = n := Int.mul_ediv_add_emod n d
  have quotient : 0 ≤ n / d * last.2 := by
    rcases h.forward with nonneg | zero
    · exact mul_nonneg (Int.ediv_nonneg nonneg posD.le) h.last_nonneg
    · rw [zero, mul_zero]
  refine ⟨?_, ?_, ?_, h.last_nonneg, ?_, h.last_le, within, Or.inl posD.le⟩
  · rw [rest, ← h.num]
    linear_combination last.1 * split
  · rw [rest, ← h.den]
    linear_combination last.2 * split
  · have crossed : (before.1 + n / d * last.1) * last.2 - last.1 * (before.2 + n / d * last.2) =
        -(last.1 * before.2 - before.1 * last.2) := by ring
    rw [crossed]
    rcases h.det with one | minus
    · exact Or.inr (by rw [one])
    · exact Or.inl (by rw [minus, neg_neg])
  · exact add_nonneg h.before_nonneg quotient

/-- **A whole run** ends with nothing left, or because the next convergent is out of bounds. -/
theorem run (h : Expansion bound a n d before last) : ∃ n' d',
    Expansion bound a n' d' (convergents bound n d before last).1 (convergents bound n d before last).2 ∧
      (d' = 0 ∨ bound < (convergents bound n d before last).1.2 +
        n' / d' * (convergents bound n d before last).2.2) := by
  induction n, d, before, last using convergents.induct bound with
  | case1 n before last =>
    rw [convergents, if_pos rfl]
    exact ⟨n, 0, h, Or.inl rfl⟩
  | case2 n d before last rest quotient next beyond =>
    rw [convergents, if_neg rest]
    dsimp only
    rw [if_pos beyond]
    exact ⟨n, d, h, Or.inr beyond⟩
  | case3 n d before last rest quotient next within ih =>
    rw [convergents, if_neg rest]
    dsimp only
    rw [if_neg within]
    exact ih (h.step (Nat.pos_of_ne_zero rest) (not_lt.mp within))

/-- When nothing is left the number itself is within the bound. -/
theorem den_le (h : Expansion bound a n 0 before last) : a.den ≤ bound := by
  have num : n * last.1 = a.num := by simpa using h.num
  have den : n * last.2 = a.den := by simpa using h.den
  -- What is left divides both terms of the number, so it is one or minus one.
  have unit : n.natAbs = 1 := by
    refine Nat.dvd_one.mp (a.reduced ▸ Nat.dvd_gcd ?_ ?_)
    · exact Int.natAbs_dvd_natAbs.mpr ⟨last.1, num.symm⟩
    · exact Int.natAbs_dvd_natAbs.mpr ⟨last.2, den.symm⟩
  have size : a.den = last.2.natAbs := by
    rw [← one_mul last.2.natAbs, ← unit, ← Int.natAbs_mul, den, Int.natAbs_natCast]
  have nonneg := h.last_nonneg
  have le := h.last_le
  omega

/-- When the next convergent is out of bounds, the last one and the last intermediate fraction are
neighbours, and the number lies between them. -/
theorem encloses (h : Expansion bound a n d before last) (pos : 0 < d)
    (beyond : bound < before.2 + n / d * last.2) {k : ℤ} (count : k = (bound - before.2) / last.2) :
    Encloses bound a.toRat last.1 last.2 (before.1 + k * last.1) (before.2 + k * last.2) ∨
      Encloses bound a.toRat (before.1 + k * last.1) (before.2 + k * last.2) last.1 last.2 := by
  have num := h.num
  have den := h.den
  have within := h.before_le
  have posD : (0 : ℤ) < d := by exact_mod_cast pos
  have posLast : 0 < last.2 := by
    refine lt_of_le_of_ne h.last_nonneg fun zero => ?_
    rw [← zero, mul_zero, add_zero] at beyond
    exact beyond.not_ge within
  have fits : k * last.2 ≤ bound - before.2 := count ▸ Int.ediv_mul_le _ posLast.ne'
  have tooMany : bound - before.2 < (k + 1) * last.2 := count ▸ Int.lt_ediv_add_one_mul_self _ posLast
  rw [add_one_mul] at tooMany
  have posBetween : 0 < before.2 + k * last.2 := by linarith [h.last_le]
  -- Fewer copies of the last convergent fit than the next quotient has.
  have fewer : k < n / d := by
    refine lt_of_mul_lt_mul_right ?_ h.last_nonneg
    linarith
  have left : k * d < n := by
    calc k * d < (n / d) * d := mul_lt_mul_of_pos_right fewer posD
      _ ≤ n := Int.ediv_mul_le n posD.ne'
  have crossLast : a.num * last.2 - last.1 * a.den = -d * (last.1 * before.2 - before.1 * last.2) := by
    rw [← num, ← den]
    ring
  have crossBetween : a.num * (before.2 + k * last.2) - (before.1 + k * last.1) * a.den =
      (n - k * d) * (last.1 * before.2 - before.1 * last.2) := by
    rw [← num, ← den]
    ring
  rcases h.det with one | minus
  · rw [one] at crossLast crossBetween
    exact Or.inr ⟨posBetween, posLast, by linarith, h.last_le, by linear_combination one, by linarith,
      div_lt_toRat posBetween (by linarith), toRat_lt_div posLast (by linarith)⟩
  · rw [minus] at crossLast crossBetween
    exact Or.inl ⟨posLast, posBetween, h.last_le, by linarith, by linear_combination -minus, by linarith,
      div_lt_toRat posLast (by linarith), toRat_lt_div posBetween (by linarith)⟩

end Expansion

/-! ## The closest number -/

/-- **The closest number is found**, for numbers whose denominators are powers of two and bounds that are
not. -/
theorem isClosest_closest {bound : ℕ} (pos : 0 < bound) {a : Rational} {k : ℕ} (power : a.den ∣ 2 ^ k)
    (bound_not : ¬ bound ∣ 2 ^ k) : IsClosest bound a.toRat (closest bound a).toRat := by
  rw [closest]
  split
  case isTrue small => exact IsClosest.of_den_le small
  case isFalse large =>
    obtain ⟨n, d, kept, ended⟩ := (Expansion.start a pos).run
    generalize convergents bound a.num a.den (0, 1) (1, 0) = run at kept ended
    obtain ⟨before, last⟩ := run
    dsimp only at kept ended ⊢
    have left : d ≠ 0 := by
      rintro rfl
      exact large kept.den_le
    have enclosed := kept.encloses (Nat.pos_of_ne_zero left) (ended.resolve_left left) rfl
    generalize before.1 + (bound - before.2) / last.2 * last.1 = p at enclosed ⊢
    generalize before.2 + (bound - before.2) / last.2 * last.2 = q at enclosed ⊢
    have nonzero : last.2 ≠ 0 ∧ q ≠ 0 := by
      rcases enclosed with h | h
      · exact ⟨h.left_pos.ne', h.right_pos.ne'⟩
      · exact ⟨h.right_pos.ne', h.left_pos.ne'⟩
    obtain ⟨c, defined, value⟩ := ofInts?_eq_some last.1 nonzero.1
    obtain ⟨b, defined', value'⟩ := ofInts?_eq_some p nonzero.2
    rw [defined, defined']
    dsimp only
    simp only [le_iff_toRat_le, toRat_abs, toRat_sub, value, value']
    split
    case isTrue le =>
      rw [value]
      rcases enclosed with h | h
      · exact h.isClosest_of_le power bound_not le
      · exact h.isClosest_of_ge power bound_not le
    case isFalse gt =>
      rw [value']
      rcases enclosed with h | h
      · exact h.isClosest_of_ge power bound_not (not_le.mp gt).le
      · exact h.isClosest_of_le power bound_not (not_le.mp gt).le

end Rational

/-! ## Floats -/

namespace FloatValue

/-- The float with the other sign. -/
def opposite : FloatValue → FloatValue
  | .finite negative significand power => .finite (!negative) significand power
  | .infinite negative => .infinite (!negative)
  | .undefined => .undefined

@[simp] theorem opposite_opposite (x : FloatValue) : x.opposite.opposite = x := by
  cases x <;> simp [opposite]

/-- The denominator of a finite float is a power of two. -/
theorem exists_den_dvd {x : FloatValue} {a : Rational} (finite : x.toRational? = some a) :
    ∃ k, a.den ∣ 2 ^ k := by
  cases x with
  | infinite | undefined => cases finite
  | finite negative significand power =>
    obtain rfl := Option.some.inj finite
    split
    · exact ⟨0, dvd_rfl⟩
    · exact ⟨power.natAbs, Nat.div_dvd_of_dvd (Nat.gcd_dvd_right ..)⟩

theorem toRational?_opposite {x : FloatValue} {a : Rational} (finite : x.toRational? = some a) :
    x.opposite.toRational? = some (-a) := by
  cases x with
  | infinite | undefined => cases finite
  | finite negative significand power =>
    obtain rfl := Option.some.inj finite
    have sign : (if (!negative) = true then -(significand : ℤ) else significand) =
        -(if negative = true then -(significand : ℤ) else significand) := by
      cases negative <;> simp
    refine congrArg some (Rational.toRat_injective ?_)
    rw [sign, Rational.toRat_neg]
    split
    · rw [Rational.toRat_ofInt, Rational.toRat_ofInt, neg_mul, Int.cast_neg]
    · rw [Rational.toRat_reduce, Rational.toRat_reduce, Int.cast_neg, neg_div]

end FloatValue

namespace BinaryFormat

variable (f : BinaryFormat) (bits : ℕ)

/-- Of the three fields of a float only the sign changes when the weight of the sign bit is added. -/
theorem decode_add_signWeight : f.decode (bits + f.signWeight) = (f.decode bits).opposite := by
  have weight : f.signWeight = Nat.pow 2 f.fractionWidth * Nat.pow 2 f.exponentWidth := pow_add ..
  have pos : 0 < Nat.pow 2 f.fractionWidth := Nat.two_pow_pos _
  have fraction : (bits + f.signWeight) % Nat.pow 2 f.fractionWidth = bits % Nat.pow 2 f.fractionWidth := by
    rw [weight, Nat.add_mul_mod_self_left]
  have exponent : (bits + f.signWeight) / Nat.pow 2 f.fractionWidth % Nat.pow 2 f.exponentWidth =
      bits / Nat.pow 2 f.fractionWidth % Nat.pow 2 f.exponentWidth := by
    rw [weight, Nat.add_mul_div_left _ _ pos, Nat.add_mod_right]
  have sign : ((bits + f.signWeight) / f.signWeight % 2 == 1) = !(bits / f.signWeight % 2 == 1) := by
    have posWeight : 0 < f.signWeight := Nat.two_pow_pos _
    rw [Nat.add_div_right _ posWeight]
    rcases Nat.mod_two_eq_zero_or_one (bits / f.signWeight) with even | odd
    · simp [Nat.add_mod, even]
    · simp [Nat.add_mod, odd]
  simp only [decode, fraction, exponent, sign]
  split_ifs <;> rfl

theorem decode_negate : f.decode (f.negate bits) = (f.decode bits).opposite := by
  rw [negate]
  split
  case isTrue set =>
    have large : f.signWeight ≤ bits := by
      by_contra! small
      rw [Nat.div_eq_of_lt small] at set
      cases set
    obtain ⟨rest, rfl⟩ := Nat.exists_eq_add_of_le' large
    rw [Nat.add_sub_cancel, decode_add_signWeight, FloatValue.opposite_opposite]
  case isFalse => exact f.decode_add_signWeight bits

end BinaryFormat

open BinaryFormat

/-- A million has a factor other than two. -/
theorem not_floatBound_dvd (k : ℕ) : ¬ Rational.floatBound ∣ 2 ^ k := by
  intro power
  have five : 5 ∣ 2 ^ k := Dvd.dvd.trans (by decide) power
  have two : 5 ∣ 2 := Nat.Prime.dvd_of_dvd_pow (by decide) five
  exact absurd two (by decide)

/-- A finite double stands for the closest number. -/
theorem exists_toRational_double {bits : ℕ} {x : Rational} (mark : Mark)
    (finite : (double.decode bits).toRational? = some x) :
    ∃ r : Rational, (Operand.double bits mark).toRational = .ok r ∧
      IsClosest Rational.floatBound x.toRat r.toRat := by
  obtain ⟨k, power⟩ := FloatValue.exists_den_dvd finite
  refine ⟨x.closest Rational.floatBound, ?_,
    Rational.isClosest_closest (by decide) power (not_floatBound_dvd k)⟩
  rw [Operand.toRational, Rational.ofFloat, Rational.ofFloat?, finite]
  rfl

/-- **The number that stands for a finite double** is the one rational number with a denominator of at most a
million that is closest to the double; every other one is strictly farther away. So the double with the other
sign stands for the negative, the order of doubles is kept, a double that is a fraction with such a
denominator stands for it, and a double below half a millionth stands for zero. -/
theorem toRational_double (bits : ℕ) (mark : Mark) (x : Rational)
    (finite : (double.decode bits).toRational? = some x) :
    ∃ r : Rational, (Operand.double bits mark).toRational = .ok r ∧ IsClosest 1000000 x.toRat r.toRat ∧
      ((double.decode (double.negate bits)).toRational? = some (-x) ∧
        (Operand.double (double.negate bits) mark).toRational = .ok (-r)) ∧
      (∀ (bits' : ℕ) (mark' : Mark) (y s : Rational), (double.decode bits').toRational? = some y →
        (Operand.double bits' mark').toRational = .ok s → x.toRat ≤ y.toRat → r.toRat ≤ s.toRat) ∧
      (∀ (p : ℤ) (q : ℕ), 0 < q → q ≤ 1000000 → x.toRat = p / q → r.toRat = p / q) ∧
      (|x.toRat| < 1 / 2000000 → r = 0) := by
  obtain ⟨r, taken, closest⟩ := exists_toRational_double mark finite
  have negative : (double.decode (double.negate bits)).toRational? = some (-x) := by
    rw [decode_negate]
    exact FloatValue.toRational?_opposite finite
  refine ⟨r, taken, closest, ⟨negative, ?_⟩, ?_, ?_, ?_⟩
  · obtain ⟨s, taken', closest'⟩ := exists_toRational_double mark negative
    rw [Rational.toRat_neg] at closest'
    have same : s = -r := by
      refine Rational.toRat_injective ?_
      rw [Rational.toRat_neg]
      exact closest'.unique closest.neg
    rw [taken', same]
  · intro bits' mark' y s finite' taken' le
    obtain ⟨s', taken'', closest'⟩ := exists_toRational_double mark' finite'
    obtain rfl := Except.ok.inj (taken'.symm.trans taken'')
    exact closest.mono closest' le
  · intro p q pos small value
    have den : x.toRat.den ≤ 1000000 := by
      rw [value, ← Int.cast_natCast]
      exact den_div_le (Int.natCast_pos.mpr pos) (by exact_mod_cast small)
    rw [← value]
    exact closest.unique (IsClosest.of_den_le den)
  · intro small
    have zero : IsClosest 1000000 x.toRat 0 := IsClosest.zero (by decide) (by norm_num; linarith)
    exact Rational.toRat_eq_zero.mp (closest.unique zero)

/-- The double written `0.1` stands for a number closest to it, which it is not itself, and the double `2 ^ -21`
stands for zero. -/
theorem toRational_doubleTenth :
    let x := Rational.reduce 3602879701896397 36028797018963968 (by decide)
    let y := Rational.reduce 1 2097152 (by decide)
    (double.decode 0x3fb999999999999a).toRational? = some x ∧ 1000000 < x.den ∧
      (∃ r : Rational, (Operand.double 0x3fb999999999999a none).toRational = .ok r ∧
        IsClosest 1000000 x.toRat r.toRat) ∧
      (double.decode 0x3ea0000000000000).toRational? = some y ∧ |y.toRat| < 1 / 2000000 ∧
      (Operand.double 0x3ea0000000000000 none).toRational = .ok 0 := by
  intro x y
  have finite : (double.decode 0x3fb999999999999a).toRational? = some x := by decide +kernel
  have finite' : (double.decode 0x3ea0000000000000).toRational? = some y := by decide +kernel
  have small : |y.toRat| < 1 / 2000000 := by
    rw [Rational.toRat_reduce]
    norm_num
  obtain ⟨r, taken, closest, -⟩ := toRational_double _ none x finite
  obtain ⟨s, taken', -, -, -, -, zero⟩ := toRational_double _ none y finite'
  exact ⟨finite, by decide +kernel, ⟨r, taken, closest⟩, finite', small, zero small ▸ taken'⟩

end ExactAlgebra
