import ExactAlgebra.Number.Extended

/-!
# Arithmetic of floats

Sums, products and quotients of floats of one format, by their bits. The exact result is computed and
then rounded, so every operation is as accurate as the format allows. An operation on an undefined value
passes the value on, and one that has no result leaves an undefined value with the sign set. The sign of
a zero is that of the exact result if it has one.

Pairs of floats are added and multiplied like complex numbers, one rounding after the other. A pair is
divided by dividing through by the greater part of the divisor first.

## Main definitions

* `BinaryFormat.add`, `BinaryFormat.subtract`, `BinaryFormat.multiply`, `BinaryFormat.divide`: floats.
* `BinaryFormat.power?`: powers with whole exponents.
* `FloatPair`: pairs of floats.
-/

namespace ExactAlgebra

namespace BinaryFormat

variable (f : BinaryFormat)

/-- The sign bit is set. -/
def isNegative (bits : Nat) : Bool := bits / f.signWeight % 2 == 1

/-- The float is a number. -/
def isFinite (bits : Nat) : Bool := (f.decode bits).toRational?.isSome

/-- The float is a zero of either sign. -/
def isZero (bits : Nat) : Bool := (f.decode bits).isZero

/-- The bits of an undefined value that is passed on. -/
def passedOn (bits : Nat) : Nat := bits ||| Nat.pow 2 (f.fractionWidth - 1)

/-- The bits that an operation without a result leaves. -/
def invalidBits : Nat := f.undefinedBits + f.signWeight

/-- A zero of the given sign. -/
def zeroBits (negative : Bool) : Nat := if negative then f.signWeight else 0

/-- The bits of one. -/
def oneBits : Nat := f.ofValue (.finite false 1 0)

/-- The float nearest to an exact result; a result of zero has the given sign. -/
def rounded (negativeZero : Bool) (a : Rational) : Nat :=
  if a.isZero then f.zeroBits negativeZero
  else (f.nearest? a.num a.den).getD (f.infinity (a.num < 0))

/-- The sum of two floats. -/
def add (x y : Nat) : Nat :=
  match (f.decode x).toExtended, (f.decode y).toExtended with
  | .undefined, _ => f.passedOn x
  | _, .undefined => f.passedOn y
  | .infinite m, .infinite n => if m = n then x else f.invalidBits
  | .infinite _, .finite _ => x
  | .finite _, .infinite _ => y
  | .finite a, .finite b => f.rounded (f.isNegative x && f.isNegative y) (a + b)

/-- The difference of two floats. -/
def subtract (x y : Nat) : Nat :=
  match f.decode y with
  | .undefined => f.add x y
  | _ => f.add x (f.negate y)

/-- The product of two floats. -/
def multiply (x y : Nat) : Nat :=
  let negative := f.isNegative x != f.isNegative y
  match (f.decode x).toExtended, (f.decode y).toExtended with
  | .undefined, _ => f.passedOn x
  | _, .undefined => f.passedOn y
  | .finite a, .finite b => f.rounded negative (a * b)
  | _, _ => if f.isZero x || f.isZero y then f.invalidBits else f.infinity negative

/-- The quotient of two floats. What is divided by a zero becomes an infinity. -/
def divide (x y : Nat) : Nat :=
  let negative := f.isNegative x != f.isNegative y
  match (f.decode x).toExtended, (f.decode y).toExtended with
  | .undefined, _ => f.passedOn x
  | _, .undefined => f.passedOn y
  | .infinite _, .infinite _ => f.invalidBits
  | .infinite _, .finite _ => f.infinity negative
  | .finite _, .infinite _ => f.zeroBits negative
  | .finite a, .finite b =>
    match a.divide? b with
    | some q => f.rounded negative q
    | none => if a.isZero then f.invalidBits else f.infinity negative

/-- The greatest exponent of a power that is computed. -/
def greatestExponent : Nat := 65536

/-- The power of a rational number with a natural exponent. -/
def exactPower (a : Rational) (n : Nat) : Rational :=
  (Rational.ofInts? (Int.pow a.num n) (Nat.pow a.den n)).getD 0

/-- The power of a number with a whole exponent, rounded. The power of zero with a negative exponent is
an infinity. -/
def wholePower (negativeBase : Bool) (a : Rational) (n : Int) : Nat :=
  let negative := negativeBase && n % 2 == 1
  let power := exactPower a n.natAbs
  if 0 ≤ n then f.rounded negative power
  else
    match power.reciprocal? with
    | some q => f.rounded negative q
    | none => f.infinity negative

/-- The power of an infinity. It has the sign of the base if the exponent is odd. -/
def infinitePower (negativeBase : Bool) (a : Rational) : Nat :=
  let odd := match a.toInt? with
    | some n => n % 2 == 1
    | none => false
  let negative := negativeBase && odd
  if a < 0 then f.zeroBits negative else f.infinity negative

/-- The power of a float, as far as the exponent is a whole number of moderate size or the base makes it
unimportant. Everything to the power of zero is one, and so is every power of one. -/
def power? (x y : Nat) : Option Nat :=
  match (f.decode x).toExtended, (f.decode y).toExtended with
  | .undefined, e => some (if e.isZero then f.oneBits else f.passedOn x)
  | .finite a, .undefined => some (if a = 1 then f.oneBits else f.passedOn y)
  | .infinite _, .undefined => some (f.passedOn y)
  | .infinite negative, .finite b =>
    some (if b.isZero then f.oneBits else f.infinitePower negative b)
  | .infinite _, .infinite falling => some (if falling then 0 else f.infinity false)
  | .finite a, .infinite falling =>
    some (if a.abs = 1 then f.oneBits else if (a.abs < 1) == falling then f.infinity false else 0)
  | .finite a, .finite b =>
    match b.toInt? with
    | some n =>
      if greatestExponent < n.natAbs then none else some (f.wholePower (f.isNegative x) a n)
    | none =>
      if a = 1 then some f.oneBits
      else if a.isZero then some (if b < 0 then f.infinity false else 0)
      else none

end BinaryFormat

/-- A complex number whose parts are floats, by their bits. -/
structure FloatPair where
  /-- The real part. -/
  re : Nat
  /-- The imaginary part. -/
  im : Nat
  deriving DecidableEq

namespace FloatPair

variable (f : BinaryFormat)

/-- The sum of two pairs. -/
def add (z w : FloatPair) : FloatPair := ⟨f.add z.re w.re, f.add z.im w.im⟩

/-- The difference of two pairs. -/
def subtract (z w : FloatPair) : FloatPair := ⟨f.subtract z.re w.re, f.subtract z.im w.im⟩

/-- The product of two pairs. -/
def multiply (z w : FloatPair) : FloatPair :=
  ⟨f.subtract (f.multiply z.re w.re) (f.multiply z.im w.im),
    f.add (f.multiply z.re w.im) (f.multiply z.im w.re)⟩

/-- The first float is at least as far from zero as the second. -/
def reaches (x y : Nat) : Bool :=
  match (f.decode (f.unsigned x)).toExtended.ordering? (f.decode (f.unsigned y)).toExtended with
  | some o => o.isGE
  | none => false

/-- The quotient of two pairs; there is none when the divisor is zero. -/
def divide? (z w : FloatPair) : Option FloatPair :=
  if f.isZero w.re && f.isZero w.im then none
  else if reaches f w.re w.im then
    let ratio := f.divide w.im w.re
    let scale := f.add w.re (f.multiply w.im ratio)
    some ⟨f.divide (f.add z.re (f.multiply z.im ratio)) scale,
      f.divide (f.subtract z.im (f.multiply z.re ratio)) scale⟩
  else if reaches f w.im w.re then
    let ratio := f.divide w.re w.im
    let scale := f.add (f.multiply w.re ratio) w.im
    some ⟨f.divide (f.add (f.multiply z.re ratio) z.im) scale,
      f.divide (f.subtract (f.multiply z.im ratio) z.re) scale⟩
  else some ⟨f.undefinedBits, f.undefinedBits⟩

end FloatPair

end ExactAlgebra
