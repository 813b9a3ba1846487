/-!
# Rational numbers

A rational number is a fraction of integers in lowest terms whose denominator is positive. Every
number has exactly one such fraction, so equality of fractions is equality of numbers.

All operations here are total except division, which has no result for the divisor zero and says so
with `none`.

## Main definitions

* `Rational`: a fraction in lowest terms.
* `Rational.reduce`, `Rational.ofInts?`: the number that an arbitrary fraction denotes.
* `Rational.add`, `Rational.mul`, `Rational.neg`, `Rational.sub`, `Rational.divide?`: arithmetic.
* `Rational.compareTo`: the order, as the sign of the difference.
* `Rational.truncate`: the integer part, toward zero.
* `Rational.mediant`: the fraction of the summed terms.
-/

namespace ExactAlgebra

/-- A fraction in lowest terms with a positive denominator. -/
structure Rational where
  /-- The numerator, which carries the sign. -/
  num : Int
  /-- The denominator. -/
  den : Nat
  /-- The denominator is positive. -/
  den_pos : 0 < den
  /-- The two terms have no common factor. -/
  reduced : num.natAbs.Coprime den
  deriving DecidableEq

namespace Rational

/-- The fraction `n / d` in lowest terms: both terms are divided by their greatest common factor. -/
def reduce (n : Int) (d : Nat) (pos : 0 < d) : Rational where
  num := n / (n.natAbs.gcd d : Nat)
  den := d / n.natAbs.gcd d
  den_pos := Nat.div_pos (Nat.le_of_dvd pos (Nat.gcd_dvd_right ..)) (Nat.gcd_pos_of_pos_right _ pos)
  reduced := by
    rw [Int.natAbs_ediv_of_dvd (Int.ofNat_dvd_left.2 (Nat.gcd_dvd_left ..)), Int.natAbs_natCast]
    exact Nat.coprime_div_gcd_div_gcd (Nat.gcd_pos_of_pos_right _ pos)

/-- The number `n / d`; there is none when `d` is zero. -/
def ofInts? (n d : Int) : Option Rational :=
  if h : d = 0 then none else some (reduce (d.sign * n) d.natAbs (Int.natAbs_pos.2 h))

/-- An integer. -/
def ofInt (n : Int) : Rational where
  num := n
  den := 1
  den_pos := Nat.one_pos
  reduced := Nat.coprime_one_right _

instance : Coe Int Rational := ⟨ofInt⟩

instance : Zero Rational := ⟨ofInt 0⟩

instance : One Rational := ⟨ofInt 1⟩

instance : Inhabited Rational := ⟨0⟩

/-- The number is zero. -/
def isZero (a : Rational) : Bool := a.num == 0

/-- The number is an integer. -/
def isInteger (a : Rational) : Bool := a.den == 1

/-- The integer that the number is, if it is one. -/
def toInt? (a : Rational) : Option Int := if a.den = 1 then some a.num else none

/-! ## Arithmetic -/

/-- The negative. -/
def neg (a : Rational) : Rational where
  num := -a.num
  den := a.den
  den_pos := a.den_pos
  reduced := by simpa using a.reduced

instance : Neg Rational := ⟨neg⟩

/-- The sum. Equal denominators and a zero operand need no common denominator; otherwise the common
factors of the numerators and of the denominators are set aside first, which keeps the cross products
small, and the sum is taken over the least common multiple of the denominators. -/
def add (a b : Rational) : Rational :=
  if a.den = b.den then reduce (a.num + b.num) a.den a.den_pos
  else if a.num = 0 then b
  else if b.num = 0 then a
  else
    let f : Int := (a.num.natAbs.gcd b.num.natAbs : Nat)
    let g := a.den.gcd b.den
    let cross := a.num / f * (b.den / g : Nat) + b.num / f * (a.den / g : Nat)
    reduce (cross * f) (a.den.lcm b.den) (Nat.lcm_pos a.den_pos b.den_pos)

instance : Add Rational := ⟨add⟩

/-- The difference. -/
def sub (a b : Rational) : Rational := a + -b

instance : Sub Rational := ⟨sub⟩

/-- The product. -/
def mul (a b : Rational) : Rational :=
  reduce (a.num * b.num) (a.den * b.den) (Nat.mul_pos a.den_pos b.den_pos)

instance : Mul Rational := ⟨mul⟩

/-- One divided by the number; there is no result for zero. -/
def reciprocal? (a : Rational) : Option Rational :=
  ofInts? a.den a.num

/-- The quotient; there is none when the divisor is zero. -/
def divide? (a b : Rational) : Option Rational :=
  b.reciprocal?.map (a * ·)

/-- The distance from zero. -/
def abs (a : Rational) : Rational := if 0 ≤ a.num then a else -a

/-- The sign, as minus one, zero or one. -/
def signum (a : Rational) : Int := a.num.sign

/-- The integer part: the fraction is cut off toward zero. -/
def truncate (a : Rational) : Int := a.num.tdiv a.den

/-- The fraction of the summed numerators and the summed denominators. -/
def mediant (a b : Rational) : Rational :=
  reduce (a.num + b.num) (a.den + b.den) (Nat.add_pos_left a.den_pos _)

/-! ## Order -/

/-- Minus one, zero or one as the first number is less than, equal to or greater than the second;
found by cross multiplication. -/
def compareTo (a b : Rational) : Int := (a.num * b.den - b.num * a.den).sign

instance : LT Rational := ⟨fun a b => a.compareTo b < 0⟩

instance : LE Rational := ⟨fun a b => a.compareTo b ≤ 0⟩

instance (a b : Rational) : Decidable (a < b) := inferInstanceAs (Decidable (a.compareTo b < 0))

instance (a b : Rational) : Decidable (a ≤ b) := inferInstanceAs (Decidable (a.compareTo b ≤ 0))

/-! ## First facts -/

@[simp] theorem num_ofInt (n : Int) : (ofInt n).num = n := rfl

@[simp] theorem den_ofInt (n : Int) : (ofInt n).den = 1 := rfl

@[simp] theorem num_zero : (0 : Rational).num = 0 := rfl

@[simp] theorem den_zero : (0 : Rational).den = 1 := rfl

@[simp] theorem num_one : (1 : Rational).num = 1 := rfl

@[simp] theorem den_one : (1 : Rational).den = 1 := rfl

@[simp] theorem num_neg (a : Rational) : (-a).num = -a.num := rfl

@[simp] theorem den_neg (a : Rational) : (-a).den = a.den := rfl

@[ext] theorem ext {a b : Rational} (num : a.num = b.num) (den : a.den = b.den) : a = b := by
  cases a; cases b; simp_all

/-- Zero is the one number whose numerator is zero. -/
theorem isZero_iff {a : Rational} : a.isZero = true ↔ a = 0 := by
  refine ⟨fun h => ?_, fun h => by subst h; rfl⟩
  have num : a.num = 0 := by simpa [isZero] using h
  have den : a.den = 1 := by simpa [num, Nat.coprime_zero_left] using a.reduced
  exact ext num den

end Rational

end ExactAlgebra
