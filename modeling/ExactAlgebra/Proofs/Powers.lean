import ExactAlgebra.Number.Checked
import ExactAlgebra.Proofs.ComplexValues

/-!
# Powers

A power takes the digits of its exponent to the base two from the lowest on. What stays the same from digit
to digit is the product so far, times the latest squaring to the power of the digits that are left. So with a
natural exponent it is the product of so many copies of its base, for numbers of both kinds.

A negative exponent asks for a quotient. On the real axis that is the quotient of the field, and the laws of
powers hold for all exponents. Off the real axis the quotient need not exist, and need not be the inverse.

## Main definitions

* `Quantity.repeated`: the product of so many copies of a quantity.

## Main statements

* `Quantity.value_digit`, `Quantity.value_powDigits`: one digit, and all digits.
* `Quantity.powNat_eq_repeated`: natural exponents.
* `Quantity.pow_of_isReal`: all exponents, on the real axis.
* `Quantity.pow_laws`: sums and products of exponents.
-/

namespace ExactAlgebra

namespace Quantity

/-- The product of `n` copies of a quantity; without a copy, the one of its kind. -/
def repeated (q : Quantity) : ℕ → Quantity
  | 0 => oneOf q.kind
  | n + 1 => q.repeated n * q

/-- A quantity is known by its kind and its value. -/
theorem eq_of_kind_of_value {p q : Quantity} (kind : p.kind = q.kind) (value : p.value = q.value) :
    p = q := by
  have same : p.toGaussian = q.toGaussian := value_inj.mp value
  cases p with
  | rational a =>
    cases q with
    | rational b => exact congrArg rational (congrArg Gaussian.re same)
    | complex w => cases kind
  | complex z =>
    cases q with
    | rational b => cases kind
    | complex w => exact congrArg complex same

/-! ## Natural exponents -/

/-- **One digit.** The product so far, times the squaring to the power of the digits that are left, does not
change when the lowest digit is taken. -/
theorem value_digit (product squaring : Quantity) (digits : ℕ) :
    (if digits % 2 = 0 then product else product * squaring).value *
        (squaring * squaring).value ^ (digits / 2) = product.value * squaring.value ^ digits := by
  have halves : squaring.value ^ digits =
      (squaring * squaring).value ^ (digits / 2) * squaring.value ^ (digits % 2) := by
    rw [value_mul, ← pow_two, ← pow_mul, ← pow_add, Nat.div_add_mod]
  rcases Nat.mod_two_eq_zero_or_one digits with even | odd
  · rw [halves, if_pos even, even, pow_zero, mul_one]
  · rw [halves, if_neg (by rw [odd]; exact one_ne_zero), odd, pow_one, value_mul, mul_assoc,
      mul_comm squaring.value]

/-- **All digits**: the squaring to the power of the exponent is multiplied to the product. -/
theorem value_powDigits (product squaring : Quantity) (digits : ℕ) :
    (powDigits product squaring digits).value = product.value * squaring.value ^ digits := by
  induction digits using Nat.strongRecOn generalizing product squaring with
  | ind digits ih =>
    have digit := value_digit product squaring digits
    rw [powDigits]
    by_cases last : digits / 2 = 0
    · rw [if_pos last]
      rwa [last, pow_zero, mul_one] at digit
    · rw [if_neg last, ih (digits / 2) (by omega), digit]

/-- Products of quantities of one kind stay in that kind. -/
theorem kind_powDigits {k : NumberKind} {product squaring : Quantity} (hp : product.kind = k)
    (hs : squaring.kind = k) (digits : ℕ) : (powDigits product squaring digits).kind = k := by
  induction digits using Nat.strongRecOn generalizing product squaring with
  | ind digits ih =>
    have kept : (if digits % 2 = 0 then product else product * squaring).kind = k := by
      split_ifs
      · exact hp
      · rw [kind_mul, hp, hs, NumberKind.widest_self]
    rw [powDigits]
    by_cases last : digits / 2 = 0
    · rwa [if_pos last]
    · rw [if_neg last]
      exact ih (digits / 2) (by omega) kept (by rw [kind_mul, hs, NumberKind.widest_self])

theorem value_powNat (q : Quantity) (n : ℕ) : (q.powNat n).value = q.value ^ n := by
  rw [powNat]
  split_ifs with zero
  · rw [zero, pow_zero, value_oneOf]
  · rw [value_powDigits, value_oneOf, one_mul]

theorem kind_powNat (q : Quantity) (n : ℕ) : (q.powNat n).kind = q.kind := by
  rw [powNat]
  split_ifs
  · exact kind_oneOf q.kind
  · exact kind_powDigits (kind_oneOf q.kind) rfl n

theorem kind_repeated (q : Quantity) (n : ℕ) : (q.repeated n).kind = q.kind := by
  induction n with
  | zero => exact kind_oneOf q.kind
  | succ n ih => rw [repeated, kind_mul, ih, NumberKind.widest_self]

theorem value_repeated (q : Quantity) (n : ℕ) : (q.repeated n).value = q.value ^ n := by
  induction n with
  | zero => rw [repeated, value_oneOf, pow_zero]
  | succ n ih => rw [repeated, value_mul, ih, pow_succ]

/-- A power with a natural exponent is the product of so many copies. -/
theorem powNat_eq_repeated (q : Quantity) (n : ℕ) : q.powNat n = q.repeated n := by
  apply eq_of_kind_of_value
  · rw [kind_powNat, kind_repeated]
  · rw [value_powNat, value_repeated]

theorem pow_natCast (q : Quantity) (n : ℕ) : q.pow n = .ok (q.powNat n) := by
  have natural : ¬ (n : ℤ) < 0 := not_lt.mpr (Int.natCast_nonneg n)
  rw [pow, pow?, if_neg natural, Int.natAbs_natCast]
  rfl

theorem powNat_add (q : Quantity) (m n : ℕ) : q.powNat (m + n) = q.powNat m * q.powNat n := by
  apply eq_of_kind_of_value
  · rw [kind_mul, kind_powNat, kind_powNat, kind_powNat, NumberKind.widest_self]
  · rw [value_mul, value_powNat, value_powNat, value_powNat, pow_add]

theorem powNat_mul (q : Quantity) (m n : ℕ) : q.powNat (m * n) = (q.powNat m).powNat n := by
  apply eq_of_kind_of_value
  · rw [kind_powNat, kind_powNat, kind_powNat]
  · rw [value_powNat, value_powNat, value_powNat, pow_mul]

/-! ## Negative exponents -/

/-- A power with a negative exponent is one divided by the positive power. -/
theorem pow_of_neg (q : Quantity) {n : ℤ} (negative : n < 0) :
    q.pow n = q.pow (-n) >>= (oneOf q.kind).divide := by
  have positive : (n.natAbs : ℤ) = -n := Int.ofNat_natAbs_of_nonpos negative.le
  rw [← positive, pow_natCast, pow, pow?, if_pos negative]
  rfl

theorem kind_of_divide? {p q r : Quantity} (quotient : p.divide? q = some r) :
    r.kind = p.kind.widest q.kind := by
  cases p <;> cases q <;> obtain ⟨_, _, rfl⟩ := Option.map_eq_some_iff.mp quotient <;> rfl

/-- On the real axis all powers of a number other than zero exist. -/
theorem pow_of_isReal {q : Quantity} (real : q.isReal = true) (nonzero : q.isZero = false) (n : ℤ) :
    ∃ r, q.pow n = .ok r ∧ r.kind = q.kind ∧ r.isReal = true ∧ r.re = q.re ^ n := by
  have natural (k : ℕ) : (q.powNat k).isReal = true ∧ (q.powNat k).re = q.re ^ k := by
    apply isReal_of_value_eq
    rw [value_powNat, value_of_isReal real, Rat.cast_pow]
  rcases lt_or_ge n 0 with negative | nonnegative
  · obtain ⟨k, rfl⟩ := Int.exists_eq_neg_ofNat negative.le
    obtain ⟨realP, value⟩ := natural k
    have one : (oneOf q.kind).isReal = true ∧ (oneOf q.kind).re = 1 := by
      apply isReal_of_value_eq
      rw [value_oneOf, Rat.cast_one]
    have nonzeroP : (q.powNat k).re ≠ 0 := value ▸ pow_ne_zero k (re_ne_zero real nonzero)
    obtain ⟨r, quotient, realR, valueR⟩ := divide?_of_isReal one.1 realP nonzeroP
    refine ⟨r, ?_, ?_, realR, ?_⟩
    · rw [pow_of_neg q negative, neg_neg, pow_natCast]
      exact orFail_eq_ok.mpr quotient
    · rw [kind_of_divide? quotient, kind_oneOf, kind_powNat, NumberKind.widest_self]
    · rw [valueR, one.2, value, zpow_neg, zpow_natCast, one_div]
  · obtain ⟨k, rfl⟩ := Int.eq_ofNat_of_zero_le nonnegative
    exact ⟨q.powNat k, pow_natCast q k, kind_powNat q k, (natural k).1,
      (natural k).2.trans (zpow_natCast q.re k).symm⟩

/-- Real quantities of one kind are equal when their real parts are. -/
theorem eq_of_re_eq {p q : Quantity} (hp : p.isReal = true) (hq : q.isReal = true)
    (kind : p.kind = q.kind) (re : p.re = q.re) : p = q := by
  apply eq_of_kind_of_value kind
  rw [value_of_isReal hp, value_of_isReal hq, re]

theorem isZero_eq_false_iff_of_isReal {q : Quantity} (real : q.isReal = true) :
    q.isZero = false ↔ q.re ≠ 0 := by
  rw [← Bool.not_eq_true, isZero_iff_of_isReal real]

/-- The laws of powers for all exponents, on the real axis. -/
theorem pow_laws_of_isReal {q : Quantity} (real : q.isReal = true) (nonzero : q.isZero = false) (m n : ℤ) :
    q.pow (m + n) = (do return (← q.pow m) * (← q.pow n)) ∧
      q.pow (m * n) = q.pow m >>= fun r => r.pow n := by
  obtain ⟨a, powM, kindA, realA, valueA⟩ := pow_of_isReal real nonzero m
  obtain ⟨b, powN, kindB, realB, valueB⟩ := pow_of_isReal real nonzero n
  obtain ⟨c, sum, kindC, realC, valueC⟩ := pow_of_isReal real nonzero (m + n)
  obtain ⟨d, product, kindD, realD, valueD⟩ := pow_of_isReal real nonzero (m * n)
  have nonzeroQ : q.re ≠ 0 := re_ne_zero real nonzero
  have nonzeroA : a.isZero = false := by
    rw [isZero_eq_false_iff_of_isReal realA, valueA]
    exact zpow_ne_zero m nonzeroQ
  obtain ⟨e, powA, kindE, realE, valueE⟩ := pow_of_isReal realA nonzeroA n
  constructor
  · have same : c = a * b := by
      apply eq_of_re_eq realC (isReal_mul realA realB)
      · rw [kind_mul, kindA, kindB, kindC, NumberKind.widest_self]
      · rw [re_mul_of_isReal realA, valueA, valueB, valueC, zpow_add₀ nonzeroQ]
    rw [sum, powM, powN, same]
    rfl
  · have same : d = e := by
      apply eq_of_re_eq realD realE
      · rw [kindD, kindE, kindA]
      · rw [valueD, valueE, valueA, zpow_mul]
    rw [product, powM, same]
    exact powA.symm

/-- On the real axis the powers that do not exist are the negative ones of zero. -/
theorem pow_eq_error_iff {q : Quantity} (real : q.isReal = true) (n : ℤ) :
    q.pow n = .error .divisionByZero ↔ q.isZero = true ∧ n < 0 := by
  constructor
  · intro failed
    constructor
    · by_contra nonzero
      obtain ⟨r, defined, -⟩ := pow_of_isReal real (Bool.not_eq_true _ ▸ nonzero) n
      rw [defined] at failed
      cases failed
    · by_contra nonnegative
      obtain ⟨k, rfl⟩ := Int.eq_ofNat_of_zero_le (not_lt.mp nonnegative)
      rw [pow_natCast] at failed
      cases failed
  · rintro ⟨zero, negative⟩
    obtain ⟨k, rfl⟩ := Int.exists_eq_neg_ofNat negative.le
    have positive : k ≠ 0 := by
      rintro rfl
      exact lt_irrefl _ negative
    have vanishes : (q.powNat k).isZero = true := by
      rw [← value_eq_zero, value_powNat, value_eq_zero.mpr zero, zero_pow positive]
    have scale : (q.powNat k).scale = 0 := by
      rw [Quantity.scale, (isZero_iff.mp vanishes).1, zero_mul, zero_mul, add_zero]
    rw [pow_of_neg q negative, neg_neg, pow_natCast]
    exact congrArg (orFail .divisionByZero) (divide?_eq_none.mpr scale)

/-- **The laws of powers.** With a natural exponent a power is the product of so many copies of the base, in
the kind of the base; so exponents add up in products, and multiply in powers of powers. A negative exponent
divides one by the positive power. On the real axis the laws hold for all exponents of a base other than
zero, and only a negative power of zero does not exist. -/
theorem pow_laws (q : Quantity) :
    (∀ n : ℕ, q.pow n = .ok (q.repeated n) ∧ (q.repeated n).kind = q.kind) ∧
      (∀ m n : ℕ, q.pow ((m + n : ℕ) : ℤ) = (do return (← q.pow m) * (← q.pow n)) ∧
        q.pow ((m * n : ℕ) : ℤ) = q.pow m >>= fun r => r.pow n) ∧
      (∀ n : ℤ, n < 0 → q.pow n = q.pow (-n) >>= (oneOf q.kind).divide) ∧
      (q.isReal = true →
        (q.isZero = false → ∀ m n : ℤ, (∃ r, q.pow n = .ok r) ∧
          q.pow (m + n) = (do return (← q.pow m) * (← q.pow n)) ∧
          q.pow (m * n) = q.pow m >>= fun r => r.pow n) ∧
        ∀ n : ℤ, q.pow n = .error .divisionByZero ↔ q.isZero = true ∧ n < 0) := by
  refine ⟨fun n => ⟨?_, kind_repeated q n⟩, fun m n => ⟨?_, ?_⟩, fun n => pow_of_neg q, fun real => ⟨?_, ?_⟩⟩
  · rw [pow_natCast, powNat_eq_repeated]
  · rw [pow_natCast, pow_natCast, pow_natCast, powNat_add]
    rfl
  · rw [pow_natCast, pow_natCast, powNat_mul]
    exact (pow_natCast (q.powNat m) n).symm
  · intro nonzero m n
    obtain ⟨r, defined, -⟩ := pow_of_isReal real nonzero n
    exact ⟨⟨r, defined⟩, pow_laws_of_isReal real nonzero m n⟩
  · exact pow_eq_error_iff real

/-- The powers of minus one half, as a complex number, and a negative power of zero. -/
theorem pow_laws_of_minus_half :
    let q : Quantity := .complex ⟨.reduce (-1) 2 Nat.two_pos, 0⟩
    q.pow (-3 + 2) = (do return (← q.pow (-3)) * (← q.pow 2)) ∧
      q.pow (-3 * -2) = (q.pow (-3) >>= fun r => r.pow (-2)) ∧
      (0 : Quantity).pow (-1) = .error .divisionByZero := by
  intro q
  obtain ⟨-, -, -, laws⟩ := pow_laws q
  obtain ⟨all, -⟩ := laws rfl
  obtain ⟨-, -, -, laws'⟩ := pow_laws 0
  exact ⟨(all rfl (-3) 2).2.1, (all rfl (-3) (-2)).2.2, ((laws' rfl).2 (-1)).mpr ⟨rfl, by decide⟩⟩

end Quantity

end ExactAlgebra
