import ExactAlgebra.Operand.Conversion
import ExactAlgebra.Proofs.BestApproximation
import Mathlib.Data.Int.Log

/-!
# Floats in a wider format

A float is rounded to the nearest one of another format by exact integer arithmetic: the binary logarithm of
the number tells the power of two that the last bit counts, and the quotient by it is rounded to an integer.
If the quotient is an integer that fits the significand, nothing is rounded.

The significand of a float of single precision has 24 bits and its exponent 8 bits. Shifted to the 53 bits of
a double it fits, with room for the exponent on both sides, subnormal floats included. So the double that such
a float is widened to stands for the same number, or is the same infinity, or is undefined as well.

## Main statements

* `BinaryFormat.floorLog2_eq_log`: the binary logarithm.
* `BinaryFormat.decode_of_fields`: what the fields of a float stand for.
* `BinaryFormat.decode_of_nearest?`: a number that fits the format is not rounded.
* `BinaryFormat.toExtended_widened`: widening is exact.
-/

namespace ExactAlgebra

/-! ## Powers of two -/

theorem two_zpow_pos (g : ℤ) : (0 : ℚ) < 2 ^ g := zpow_pos two_pos g

theorem two_zpow_of_nonneg {g : ℤ} (nonneg : 0 ≤ g) : (2 : ℚ) ^ g = (Nat.pow 2 g.toNat : ℕ) := by
  obtain ⟨k, rfl⟩ := Int.eq_ofNat_of_zero_le nonneg
  simp

theorem two_zpow_of_neg {g : ℤ} (neg : ¬ 0 ≤ g) : (2 : ℚ) ^ g = ((Nat.pow 2 g.natAbs : ℕ) : ℚ)⁻¹ := by
  obtain ⟨k, rfl⟩ := Int.exists_eq_neg_ofNat (not_le.mp neg).le
  simp

/-- A finite float denotes its significand times a power of two. -/
theorem FloatValue.exists_toRational? (negative : Bool) (significand : ℕ) (power : ℤ) :
    ∃ a : Rational, (FloatValue.finite negative significand power).toRational? = some a ∧
      a.toRat = (if negative then -(significand : ℚ) else significand) * 2 ^ power := by
  refine ⟨_, rfl, ?_⟩
  have sign : (if negative then -(significand : ℚ) else significand) =
      ((if negative then -(significand : ℤ) else significand : ℤ) : ℚ) := by
    cases negative <;> simp
  rw [sign]
  by_cases nonneg : 0 ≤ power
  · rw [if_pos nonneg, Rational.toRat_ofInt, two_zpow_of_nonneg nonneg, Int.cast_mul, Int.cast_natCast]
  · rw [if_neg nonneg, Rational.toRat_reduce, two_zpow_of_neg nonneg, div_eq_mul_inv]

theorem FloatValue.toRational?_zero (negative : Bool) (power : ℤ) :
    (FloatValue.finite negative 0 power).toRational? = some 0 := by
  obtain ⟨a, finite, value⟩ := exists_toRational? negative 0 power
  rw [finite, Option.some_inj, ← Rational.toRat_eq_zero, value]
  simp

theorem FloatValue.toExtended_of_toRational? {x : FloatValue} {a : Rational}
    (finite : x.toRational? = some a) : x.toExtended = .finite a := by
  cases x with
  | infinite | undefined => cases finite
  | finite => exact congrArg Extended.finite (Option.some.inj finite)

namespace BinaryFormat

/-- The comparison by which a power of two is found not to exceed a fraction. -/
theorem zpow_le_div_iff {n d : ℕ} (pos : 0 < d) (g : ℤ) :
    (if 0 ≤ g then d * Nat.pow 2 g.toNat ≤ n else d ≤ n * Nat.pow 2 g.natAbs) ↔ (2 : ℚ) ^ g ≤ n / d := by
  have posQ : (0 : ℚ) < d := Nat.cast_pos.mpr pos
  rw [le_div_iff₀ posQ]
  split_ifs with nonneg
  · rw [two_zpow_of_nonneg nonneg, ← Nat.cast_mul, Nat.cast_le, mul_comm]
  · have power : (0 : ℚ) < (Nat.pow 2 g.natAbs : ℕ) := Nat.cast_pos.mpr (Nat.two_pow_pos _)
    rw [two_zpow_of_neg nonneg, inv_mul_le_iff₀ power, ← Nat.cast_mul, Nat.cast_le, mul_comm]

/-- The bit lengths of the terms leave two candidates for the logarithm of a fraction. -/
theorem log2_sub_log2 {n d : ℕ} (n_pos : 0 < n) (d_pos : 0 < d) :
    (2 : ℚ) ^ ((n.log2 : ℤ) - d.log2 - 1) ≤ n / d ∧ (n : ℚ) / d < 2 ^ ((n.log2 : ℤ) - d.log2 + 1) := by
  have posQ : (0 : ℚ) < d := Nat.cast_pos.mpr d_pos
  have lower (k : ℕ) (pos : 0 < k) : (2 : ℚ) ^ (k.log2 : ℤ) ≤ k := by
    rw [zpow_natCast]
    exact_mod_cast Nat.log2_self_le pos.ne'
  have upper (k : ℕ) : (k : ℚ) < 2 ^ ((k.log2 : ℤ) + 1) := by
    rw [← Nat.cast_one, ← Nat.cast_add, zpow_natCast]
    exact_mod_cast Nat.lt_log2_self
  constructor
  · rw [le_div_iff₀ posQ]
    calc (2 : ℚ) ^ ((n.log2 : ℤ) - d.log2 - 1) * d
        ≤ 2 ^ ((n.log2 : ℤ) - d.log2 - 1) * 2 ^ ((d.log2 : ℤ) + 1) :=
          mul_le_mul_of_nonneg_left (upper d).le (two_zpow_pos _).le
      _ = 2 ^ (n.log2 : ℤ) := by rw [← zpow_add₀ two_ne_zero]; ring_nf
      _ ≤ n := lower n n_pos
  · rw [div_lt_iff₀ posQ]
    calc (n : ℚ) < 2 ^ ((n.log2 : ℤ) + 1) := upper n
      _ = 2 ^ ((n.log2 : ℤ) - d.log2 + 1) * 2 ^ (d.log2 : ℤ) := by rw [← zpow_add₀ two_ne_zero]; ring_nf
      _ ≤ 2 ^ ((n.log2 : ℤ) - d.log2 + 1) * d :=
          mul_le_mul_of_nonneg_left (lower d d_pos) (two_zpow_pos _).le

/-- **The logarithm of a positive fraction** to the base two, rounded down. -/
theorem floorLog2_eq_log {n d : ℕ} (n_pos : 0 < n) (d_pos : 0 < d) :
    floorLog2 n d = Int.log 2 ((n : ℚ) / d) := by
  have pos : (0 : ℚ) < n / d := div_pos (Nat.cast_pos.mpr n_pos) (Nat.cast_pos.mpr d_pos)
  have le_log (g : ℤ) : (2 : ℚ) ^ g ≤ n / d ↔ g ≤ Int.log 2 ((n : ℚ) / d) :=
    Int.zpow_le_iff_le_log one_lt_two pos
  have log_lt (g : ℤ) : (n : ℚ) / d < 2 ^ g ↔ Int.log 2 ((n : ℚ) / d) < g :=
    Int.lt_zpow_iff_log_lt one_lt_two pos
  obtain ⟨lower, upper⟩ := log2_sub_log2 n_pos d_pos
  rw [le_log] at lower
  rw [log_lt] at upper
  unfold floorLog2
  dsimp only
  by_cases fits : (2 : ℚ) ^ ((n.log2 : ℤ) - d.log2) ≤ n / d
  · rw [if_pos ((zpow_le_div_iff d_pos _).mpr fits)]
    rw [le_log] at fits
    omega
  · rw [if_neg (mt (zpow_le_div_iff d_pos _).mp fits)]
    rw [le_log] at fits
    omega

/-! ## Numbers that fit a format -/

theorem roundQuotient_mul (q : ℕ) {d : ℕ} (pos : 0 < d) : roundQuotient (q * d) d = q := by
  have less : 2 * (q * d % d) < d := by
    rw [Nat.mul_mod_left]
    exact pos
  rw [roundQuotient, if_pos less, Nat.mul_div_cancel _ pos]

variable (f : BinaryFormat)

/-- If a fraction is a full significand times a power of two, then the significand is what it is rounded to. -/
theorem magnitude_of_fits {n d s : ℕ} {p : ℤ} (d_pos : 0 < d) (value : (n : ℚ) / d = s * 2 ^ p)
    (full : Nat.pow 2 f.fractionWidth ≤ s) (fits : s < Nat.pow 2 (f.fractionWidth + 1))
    (least : f.leastPower ≤ p) :
    f.magnitude n d = (p - f.leastPower).toNat * Nat.pow 2 f.fractionWidth + s := by
  have posQ : (0 : ℚ) < d := Nat.cast_pos.mpr d_pos
  have pos : (0 : ℚ) < n / d := by
    rw [value]
    exact mul_pos (Nat.cast_pos.mpr ((Nat.two_pow_pos _).trans_le full)) (two_zpow_pos p)
  have n_pos : 0 < n := Nat.cast_pos.mp ((div_pos_iff_of_pos_right posQ).mp pos)
  have log : floorLog2 n d = p + f.fractionWidth := by
    have lower : (2 : ℚ) ^ (p + f.fractionWidth) ≤ n / d := by
      rw [value, zpow_add₀ two_ne_zero, mul_comm, zpow_natCast]
      exact mul_le_mul_of_nonneg_right (by exact_mod_cast full) (two_zpow_pos p).le
    have upper : (n : ℚ) / d < 2 ^ (p + f.fractionWidth + 1) := by
      rw [value, add_assoc, zpow_add₀ two_ne_zero, mul_comm, ← Nat.cast_one, ← Nat.cast_add, zpow_natCast]
      exact mul_lt_mul_of_pos_left (by exact_mod_cast fits) (two_zpow_pos p)
    have le_log := (Int.zpow_le_iff_le_log one_lt_two pos).mp lower
    have log_lt := (Int.lt_zpow_iff_log_lt one_lt_two pos).mp upper
    rw [floorLog2_eq_log n_pos d_pos]
    omega
  have power : max (floorLog2 n d - f.fractionWidth) f.leastPower = p := by omega
  unfold magnitude
  simp only [power]
  congr 1
  rw [div_eq_iff posQ.ne'] at value
  split_ifs with nonneg
  · have exact : n = s * (d * Nat.pow 2 p.toNat) := by
      have scaled : (n : ℚ) = s * (d * (Nat.pow 2 p.toNat : ℕ)) := by
        rw [value, two_zpow_of_nonneg nonneg]
        ring
      exact_mod_cast scaled
    rw [exact]
    exact roundQuotient_mul s (Nat.mul_pos d_pos (Nat.two_pow_pos _))
  · have exact : n * Nat.pow 2 p.natAbs = s * d := by
      have ne : ((Nat.pow 2 p.natAbs : ℕ) : ℚ) ≠ 0 := Nat.cast_ne_zero.mpr (Nat.two_pow_pos _).ne'
      have scaled : (n : ℚ) * (Nat.pow 2 p.natAbs : ℕ) = s * d := by
        rw [value, two_zpow_of_neg nonneg]
        field_simp
      exact_mod_cast scaled
    rw [exact, roundQuotient_mul s d_pos]

/-- **What the fields of a float stand for**, without its sign. -/
theorem decode_of_fields {exponent fraction : ℕ} (exponent_lt : exponent < Nat.pow 2 f.exponentWidth)
    (fraction_lt : fraction < Nat.pow 2 f.fractionWidth) :
    f.decode (exponent * Nat.pow 2 f.fractionWidth + fraction) =
      if exponent = f.topExponent then if fraction = 0 then .infinite false else .undefined
      else if exponent = 0 then .finite false fraction f.leastPower
      else .finite false (Nat.pow 2 f.fractionWidth + fraction) (f.leastPower + (exponent - 1 : ℕ)) := by
  have pos : 0 < Nat.pow 2 f.fractionWidth := Nat.two_pow_pos _
  have first : (exponent * Nat.pow 2 f.fractionWidth + fraction) % Nat.pow 2 f.fractionWidth = fraction := by
    rw [Nat.mul_add_mod_self_right, Nat.mod_eq_of_lt fraction_lt]
  have second : (exponent * Nat.pow 2 f.fractionWidth + fraction) / Nat.pow 2 f.fractionWidth = exponent := by
    rw [mul_comm, Nat.mul_add_div pos, Nat.div_eq_of_lt fraction_lt, add_zero]
  have sign : (exponent * Nat.pow 2 f.fractionWidth + fraction) / f.signWeight = 0 := by
    apply Nat.div_eq_of_lt
    calc exponent * Nat.pow 2 f.fractionWidth + fraction
        < (exponent + 1) * Nat.pow 2 f.fractionWidth := by rw [Nat.succ_mul]; omega
      _ ≤ Nat.pow 2 f.exponentWidth * Nat.pow 2 f.fractionWidth := Nat.mul_le_mul_right _ exponent_lt
      _ = f.signWeight := by rw [signWeight, mul_comm]; exact (pow_add ..).symm
  simp only [decode, first, second, sign, Nat.mod_eq_of_lt exponent_lt]
  rfl

theorem decode_of_sign (negative : Bool) (bits : ℕ) :
    f.decode (if negative then f.signWeight + bits else bits) =
      if negative then (f.decode bits).opposite else f.decode bits := by
  cases negative with
  | false => rfl
  | true => exact (congrArg f.decode (Nat.add_comm ..)).trans (f.decode_add_signWeight bits)

/-- The values without a finite exponent: an infinity if the fraction is zero, and no number otherwise. -/
theorem decode_infinity_add (negative : Bool) {fraction : ℕ} (fraction_lt : fraction < Nat.pow 2 f.fractionWidth) :
    f.decode (f.infinity negative + fraction) = if fraction = 0 then .infinite negative else .undefined := by
  have top : f.topExponent < Nat.pow 2 f.exponentWidth := Nat.sub_one_lt (Nat.two_pow_pos _).ne'
  have bits : f.infinity negative + fraction =
      if negative then f.signWeight + (f.topExponent * Nat.pow 2 f.fractionWidth + fraction)
      else f.topExponent * Nat.pow 2 f.fractionWidth + fraction := by
    cases negative with
    | false => rfl
    | true => rw [infinity, if_pos rfl, if_pos rfl, Nat.add_right_comm, Nat.add_comm]
  rw [bits, decode_of_sign, f.decode_of_fields top fraction_lt, if_pos rfl]
  cases negative with
  | false => rfl
  | true =>
    rw [if_pos rfl]
    split_ifs <;> rfl

/-- **A number that fits a format** is not rounded. -/
theorem decode_of_nearest? {n : ℤ} {d s : ℕ} {p : ℤ} (d_pos : 0 < d)
    (value : (n.natAbs : ℚ) / d = s * 2 ^ p) (full : Nat.pow 2 f.fractionWidth ≤ s)
    (fits : s < Nat.pow 2 (f.fractionWidth + 1)) (least : f.leastPower ≤ p)
    (room : (p - f.leastPower).toNat + 1 < f.topExponent) :
    ∃ bits, f.nearest? n d = some bits ∧ f.decode bits = .finite (decide (n < 0)) s p := by
  have nonzero : n ≠ 0 := by
    rintro rfl
    have pos : (0 : ℚ) < s * 2 ^ p :=
      mul_pos (Nat.cast_pos.mpr ((Nat.two_pow_pos _).trans_le full)) (two_zpow_pos p)
    rw [← value] at pos
    simp at pos
  obtain ⟨fraction, rfl⟩ := Nat.exists_eq_add_of_le full
  have fraction_lt : fraction < Nat.pow 2 f.fractionWidth := by
    have twice : Nat.pow 2 (f.fractionWidth + 1) = Nat.pow 2 f.fractionWidth * 2 := rfl
    omega
  obtain ⟨bits, fields⟩ : ∃ bits, bits =
      ((p - f.leastPower).toNat + 1) * Nat.pow 2 f.fractionWidth + fraction := ⟨_, rfl⟩
  have rounded : f.magnitude n.natAbs d = bits := by
    rw [f.magnitude_of_fits d_pos value full fits least, fields]
    ring
  have small : ¬ f.topExponent * Nat.pow 2 f.fractionWidth ≤ bits := by
    have step := Nat.mul_le_mul_right (Nat.pow 2 f.fractionWidth) (Nat.succ_le_of_lt room)
    rw [Nat.succ_mul] at step
    omega
  have decoded : f.decode bits = .finite false (Nat.pow 2 f.fractionWidth + fraction) p := by
    rw [fields, f.decode_of_fields (room.trans_le (Nat.sub_le _ _)) fraction_lt, if_neg room.ne,
      if_neg (Nat.succ_ne_zero _), Nat.add_sub_cancel, Int.toNat_of_nonneg (sub_nonneg.mpr least),
      add_sub_cancel]
  refine ⟨if decide (n < 0) then f.signWeight + bits else bits, ?_, ?_⟩
  · rw [nearest?, if_neg nonzero]
    simp only [rounded, if_neg small, decide_eq_true_eq]
  · rw [decode_of_sign, decoded]
    cases decide (n < 0) <;> rfl

/-- The significand and the power of a finite float. -/
theorem bounds_of_decode {bits s : ℕ} {negative : Bool} {p : ℤ}
    (finite : f.decode bits = .finite negative s p) :
    s < Nat.pow 2 (f.fractionWidth + 1) ∧ f.leastPower ≤ p ∧ p ≤ f.leastPower + f.topExponent := by
  have twice : Nat.pow 2 (f.fractionWidth + 1) = Nat.pow 2 f.fractionWidth * 2 := rfl
  have fraction : bits % Nat.pow 2 f.fractionWidth < Nat.pow 2 f.fractionWidth :=
    Nat.mod_lt _ (Nat.two_pow_pos _)
  have exponent : bits / Nat.pow 2 f.fractionWidth % Nat.pow 2 f.exponentWidth ≤ f.topExponent :=
    Nat.le_sub_one_of_lt (Nat.mod_lt _ (Nat.two_pow_pos _))
  unfold decode at finite
  dsimp only at finite
  split_ifs at finite
  · cases finite
    omega
  · cases finite
    omega

end BinaryFormat

/-! ## From single to double precision -/

open BinaryFormat

theorem Rational.natAbs_div_den (a : Rational) : (a.num.natAbs : ℚ) / a.den = |a.toRat| := by
  rw [toRat_eq_div, abs_div, Nat.abs_cast, Nat.cast_natAbs, Int.cast_abs]

theorem Rational.num_neg_iff (a : Rational) : a.num < 0 ↔ a.toRat < 0 := by
  show a.toRat.num < 0 ↔ a.toRat < 0
  exact Rat.num_neg

/-- A number other than zero with a significand and a power of single precision is a double. -/
theorem decode_double_of_single {negative : Bool} {s : ℕ} {p : ℤ} {a : Rational} (pos : 0 < s)
    (fits : s < Nat.pow 2 24) (least : -149 ≤ p) (most : p ≤ 106)
    (value : a.toRat = (if negative then -(s : ℚ) else s) * 2 ^ p) :
    ∃ bits, double.nearest? a.num a.den = some bits ∧ (double.decode bits).toRational? = some a := by
  -- The significand is shifted to the full width of a double.
  obtain ⟨k, shift⟩ : ∃ k, s.log2 + k = 52 := by
    have log : s.log2 < 24 := (Nat.log2_lt pos.ne').mpr fits
    exact ⟨52 - s.log2, by omega⟩
  have full : Nat.pow 2 52 ≤ s * 2 ^ k :=
    calc 2 ^ 52 = 2 ^ s.log2 * 2 ^ k := by rw [← pow_add, shift]
      _ ≤ s * 2 ^ k := Nat.mul_le_mul_right _ (Nat.log2_self_le pos.ne')
  have narrow : s * 2 ^ k < Nat.pow 2 53 :=
    calc s * 2 ^ k < 2 ^ (s.log2 + 1) * 2 ^ k := Nat.mul_lt_mul_of_pos_right Nat.lt_log2_self (Nat.two_pow_pos k)
      _ = 2 ^ 53 := by rw [← pow_add, Nat.add_right_comm, shift]
  have moved : ((s * 2 ^ k : ℕ) : ℚ) * 2 ^ (p - k) = s * 2 ^ p := by
    rw [zpow_sub₀ two_ne_zero, zpow_natCast]
    push_cast
    field_simp
  have size : (a.num.natAbs : ℚ) / a.den = (s * 2 ^ k : ℕ) * 2 ^ (p - k) := by
    rw [moved, Rational.natAbs_div_den, value, abs_mul, abs_of_pos (two_zpow_pos p)]
    cases negative <;> simp
  have double_least : double.leastPower = -1074 := rfl
  have double_top : double.topExponent = 2047 := rfl
  obtain ⟨bits, nearest, decoded⟩ := double.decode_of_nearest? a.den_pos size full narrow (by omega) (by omega)
  refine ⟨bits, nearest, ?_⟩
  obtain ⟨b, finite, value'⟩ := FloatValue.exists_toRational? (decide (a.num < 0)) (s * 2 ^ k) (p - k)
  have sign : decide (a.num < 0) = negative := by
    have size : (0 : ℚ) < s * 2 ^ p := mul_pos (Nat.cast_pos.mpr pos) (two_zpow_pos p)
    rw [Bool.eq_iff_iff, decide_eq_true_eq, Rational.num_neg_iff, value]
    cases negative with
    | false => simpa using size.le
    | true => simpa using size
  have same : b = a := by
    refine Rational.toRat_injective ?_
    rw [value', value, sign]
    cases negative with
    | false => exact moved
    | true => simpa using moved
  rw [decoded, finite, same]

namespace BinaryFormat

/-- **Widening is exact.** The double that a float of single precision is widened to denotes the same number,
or it is the same infinity, or undefined as well. -/
theorem toExtended_widened (bits : ℕ) :
    (double.decode (Operand.widened bits)).toExtended = (single.decode bits).toExtended := by
  rw [Operand.widened, convert]
  cases decoded : single.decode bits with
  | undefined =>
    -- The leading bit of the fraction is always set, so it is not that of an infinity.
    have shifted : bits % Nat.pow 2 23 * Nat.pow 2 52 / Nat.pow 2 23 < 2 ^ 52 :=
      Nat.div_lt_of_lt_mul (Nat.mul_lt_mul_of_pos_right (Nat.mod_lt _ (Nat.two_pow_pos _)) (Nat.two_pow_pos _))
    have small := Nat.or_lt_two_pow shifted (show Nat.pow 2 51 < 2 ^ 52 by decide)
    refine congrArg FloatValue.toExtended ((double.decode_infinity_add _ small).trans (if_neg ?_))
    exact fun zero => absurd (Nat.or_eq_zero_iff.mp zero).2 (Nat.two_pow_pos 51).ne'
  | infinite negative =>
    exact congrArg FloatValue.toExtended (double.decode_infinity_add negative (Nat.two_pow_pos _))
  | finite negative s p =>
    obtain ⟨a, finite, value⟩ := FloatValue.exists_toRational? negative s p
    rw [FloatValue.toExtended_of_toRational? finite]
    apply FloatValue.toExtended_of_toRational?
    show (double.decode (double.ofValue (.finite negative s p))).toRational? = some a
    rw [ofValue]
    by_cases zero : s = 0
    · have decoded' : double.decode (if negative then double.signWeight else 0) =
          .finite negative 0 double.leastPower := by
        cases negative <;> rfl
      rw [if_pos zero, decoded', FloatValue.toRational?_zero, ← finite, zero, FloatValue.toRational?_zero]
    · obtain ⟨fits, least, most⟩ := single.bounds_of_decode decoded
      have single_least : single.leastPower = -149 := rfl
      have single_top : single.topExponent = 255 := rfl
      obtain ⟨bits', nearest, finite'⟩ :=
        decode_double_of_single (Nat.pos_of_ne_zero zero) fits (by omega) (by omega) value
      rw [if_neg zero, finite]
      show (double.decode ((double.nearest? a.num a.den).getD _)).toRational? = some a
      rw [nearest]
      exact finite'

end BinaryFormat

end ExactAlgebra
