import ExactAlgebra.Number.Rational

/-!
# Binary floating point formats

The interchange formats of binary floating point, as far as exact numbers meet them: what number the
bits of a float denote, and which float is nearest to a fraction. Both directions are exact integer
arithmetic; no operation on machine floats is involved.

## Main definitions

* `BinaryFormat`: the widths of the fields of a format; `BinaryFormat.double`, `BinaryFormat.single`.
* `BinaryFormat.decode`: what the bits of a float stand for.
* `BinaryFormat.nearest?`: the float nearest to a fraction, a tie going to the even neighbour.
* `BinaryFormat.ofValue`, `BinaryFormat.convert`: the float nearest to a float of another format.
* `BinaryFormat.negate`, `BinaryFormat.unsigned`: signs.
* `FloatValue.toRational?`: the number that a finite float denotes.
-/

namespace ExactAlgebra

/-- What a float stands for. -/
inductive FloatValue where
  /-- The number `significand * 2 ^ power`, or its negative. -/
  | finite (negative : Bool) (significand : Nat) (power : Int)
  /-- An infinity. -/
  | infinite (negative : Bool)
  /-- No number. -/
  | undefined
  deriving DecidableEq

namespace FloatValue

/-- The rational number that a finite float denotes. -/
def toRational? : FloatValue → Option Rational
  | .finite negative significand power =>
    let n : Int := if negative then -significand else significand
    some <|
      if 0 ≤ power then .ofInt (n * Nat.pow 2 power.toNat)
      else .reduce n (Nat.pow 2 power.natAbs) (Nat.two_pow_pos _)
  | _ => none

/-- The float is a zero of either sign. -/
def isZero : FloatValue → Bool
  | .finite _ significand _ => significand == 0
  | _ => false

end FloatValue

/-- The layout of a float: a sign bit, a biased exponent, and the fraction of a significand whose
leading bit is implied. -/
structure BinaryFormat where
  /-- The number of bits of the fraction. -/
  fractionWidth : Nat
  /-- The number of bits of the exponent. -/
  exponentWidth : Nat
  deriving DecidableEq

namespace BinaryFormat

/-- Double precision: 64 bits. -/
def double : BinaryFormat := ⟨52, 11⟩

/-- Single precision: 32 bits. -/
def single : BinaryFormat := ⟨23, 8⟩

/-- Half precision: 16 bits. -/
def half : BinaryFormat := ⟨10, 5⟩

variable (f : BinaryFormat)

/-- The exponent field of infinities and undefined values. -/
def topExponent : Nat := Nat.pow 2 f.exponentWidth - 1

/-- The power of two that the last bit of the smallest floats counts. -/
def leastPower : Int := 2 - Nat.pow 2 (f.exponentWidth - 1) - f.fractionWidth

/-- The weight of the sign bit. -/
def signWeight : Nat := Nat.pow 2 (f.fractionWidth + f.exponentWidth)

/-- What the bits of a float stand for. -/
def decode (bits : Nat) : FloatValue :=
  let fraction := bits % Nat.pow 2 f.fractionWidth
  let exponent := bits / Nat.pow 2 f.fractionWidth % Nat.pow 2 f.exponentWidth
  let negative := bits / f.signWeight % 2 == 1
  if exponent = f.topExponent then
    if fraction = 0 then .infinite negative else .undefined
  else if exponent = 0 then .finite negative fraction f.leastPower
  else .finite negative (Nat.pow 2 f.fractionWidth + fraction) (f.leastPower + (exponent - 1 : Nat))

/-- The quotient of two naturals rounded to the nearest natural, a tie to the even one. -/
def roundQuotient (n d : Nat) : Nat :=
  let q := n / d
  let r := n % d
  if 2 * r < d then q else if d < 2 * r then q + 1 else if q % 2 = 0 then q else q + 1

/-- The greatest power of two that does not exceed a positive fraction, by its exponent. The bit
lengths of the terms leave two candidates. -/
def floorLog2 (n d : Nat) : Int :=
  let guess : Int := n.log2 - d.log2
  let fits := if 0 ≤ guess then d * Nat.pow 2 guess.toNat ≤ n else d ≤ n * Nat.pow 2 guess.natAbs
  if fits then guess else guess - 1

/-- The bits of the nonnegative float nearest to a positive fraction, without a bound on the exponent
field. A significand that rounds up to the next power of two carries into the exponent field by
itself. -/
def magnitude (n d : Nat) : Nat :=
  let power := max (floorLog2 n d - f.fractionWidth) f.leastPower
  let significand :=
    if 0 ≤ power then roundQuotient n (d * Nat.pow 2 power.toNat)
    else roundQuotient (n * Nat.pow 2 power.natAbs) d
  (power - f.leastPower).toNat * Nat.pow 2 f.fractionWidth + significand

/-- The bits of the float nearest to the fraction `n / d`, a tie going to the even neighbour and small
numbers losing bits gradually; there is none when the fraction is beyond all finite floats. -/
def nearest? (n : Int) (d : Nat) : Option Nat :=
  if n = 0 then some 0
  else
    let bits := f.magnitude n.natAbs d
    if f.topExponent * Nat.pow 2 f.fractionWidth ≤ bits then none
    else some (if n < 0 then f.signWeight + bits else bits)

/-- The bits of an infinity. -/
def infinity (negative : Bool) : Nat :=
  f.topExponent * Nat.pow 2 f.fractionWidth + if negative then f.signWeight else 0

/-- The bits of an undefined value. -/
def undefinedBits : Nat :=
  f.topExponent * Nat.pow 2 f.fractionWidth + Nat.pow 2 (f.fractionWidth - 1)

/-- The bits of the float nearest to what another float stands for; beyond all finite floats that is an
infinity, and a zero keeps its sign. -/
def ofValue : FloatValue → Nat
  | .finite negative significand power =>
    if significand = 0 then if negative then f.signWeight else 0
    else
      match (FloatValue.finite negative significand power).toRational? with
      | some a => (f.nearest? a.num a.den).getD (f.infinity negative)
      | none => f.undefinedBits
  | .infinite negative => f.infinity negative
  | .undefined => f.undefinedBits

/-- The bits, in the format `g`, of the float nearest to one of the format `f`. An undefined value keeps
its sign and the leading bits of its fraction, the first of which is always set. -/
def convert (g : BinaryFormat) (bits : Nat) : Nat :=
  match f.decode bits with
  | .undefined =>
    let leading := bits % Nat.pow 2 f.fractionWidth * Nat.pow 2 g.fractionWidth / Nat.pow 2 f.fractionWidth
    let negative := bits / f.signWeight % 2 == 1
    g.infinity negative + (leading ||| Nat.pow 2 (g.fractionWidth - 1))
  | x => g.ofValue x

/-- The bits of the float with the other sign. -/
def negate (bits : Nat) : Nat :=
  if bits / f.signWeight % 2 = 1 then bits - f.signWeight else bits + f.signWeight

/-- The bits of the float without its sign. -/
def unsigned (bits : Nat) : Nat := bits % f.signWeight

end BinaryFormat

/-- The bits of the double nearest to a rational number, if it is not beyond all finite doubles. -/
def Rational.toDouble? (a : Rational) : Option Nat :=
  BinaryFormat.double.nearest? a.num a.den

end ExactAlgebra
