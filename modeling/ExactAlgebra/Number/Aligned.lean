import ExactAlgebra.Number.Extended
import ExactAlgebra.Number.Shortest

/-!
# Aligned decimal texts of floats

Floats that stand in columns are written with as many decimals as their shortest texts need, but not
with more than eight, and are filled up with spaces so that their points stand below each other. When
one of them is large or small, or they differ a lot in size, all are written with an exponent, and then
with the same number of decimals.

## Main definitions

* `Aligned.Digits`: a number in decimal, cut off at some place.
* `Aligned.needsExponent`: the numbers are written with an exponent.
* `Aligned.texts`: the texts of some floats of one format.
-/

namespace ExactAlgebra.Aligned

/-- How many decimals are written at most. -/
def decimals : Nat := 8

/-- A decimal number: its digits and how many of them stand before the point. -/
structure Digits where
  /-- The number is negative. -/
  negative : Bool
  /-- The digits, without zeros at either end. -/
  digits : List Char
  /-- The number of digits before the point; zeros stand between the point and the digits when it is
  negative. -/
  point : Int

namespace Digits

/-- The number that a natural number of units of the given decimal place makes. -/
def ofUnits (negative : Bool) (units place : Nat) : Digits :=
  let all := Nat.toDigits 10 units
  let kept := (all.reverse.dropWhile (· == '0')).reverse
  ⟨negative, kept, if units = 0 then 1 else (all.length : Int) - place⟩

/-- The shortest digits of a finite float. -/
def shortest (f : BinaryFormat) (negative : Bool) (significand : Nat) (power : Int) : Digits :=
  if significand = 0 then ⟨negative, [], 1⟩
  else
    let (ds, point) := Shortest.digits (.ofFloat f significand power)
    ⟨negative, ds, point⟩

/-- The number with at most so many decimals; it is rounded when the shortest digits are more. -/
def positional (a : Rational) (d : Digits) : Digits :=
  if (d.digits.length : Int) - d.point ≤ decimals then d
  else
    ofUnits d.negative (BinaryFormat.roundQuotient (a.num.natAbs * Nat.pow 10 decimals) a.den) decimals

/-- The number with at most so many decimals after its first digit. -/
def scientific (a : Rational) (d : Digits) : Digits :=
  if d.digits.length ≤ decimals + 1 then d
  else
    let place : Int := decimals + 1 - d.point
    let units :=
      if 0 ≤ place then BinaryFormat.roundQuotient (a.num.natAbs * Nat.pow 10 place.toNat) a.den
      else BinaryFormat.roundQuotient a.num.natAbs (a.den * Nat.pow 10 place.natAbs)
    let cut := ofUnits d.negative units 0
    { cut with point := cut.point - place }

/-- The sign: a minus, or a plus where one is asked for. -/
def sign (plus : Bool) (d : Digits) : List Char :=
  if d.negative then ['-'] else if plus then ['+'] else []

/-- What stands before the point. -/
def whole (d : Digits) : List Char :=
  if d.point ≤ 0 || d.digits.isEmpty then ['0']
  else d.digits.take d.point.toNat ++ List.replicate (d.point.toNat - d.digits.length) '0'

/-- What stands after the point. -/
def fraction (d : Digits) : List Char :=
  if d.digits.isEmpty then []
  else if d.point ≤ 0 then List.replicate d.point.natAbs '0' ++ d.digits
  else d.digits.drop d.point.toNat

/-- The exponent when one digit stands before the point. -/
def exponent (d : Digits) : Int := if d.digits.isEmpty then 0 else d.point - 1

/-- The text of the exponent. -/
def exponentText (d : Digits) : List Char :=
  let size := Nat.toDigits 10 d.exponent.natAbs
  (if d.exponent < 0 then '-' else '+') :: (List.replicate (2 - size.length) '0' ++ size)

/-- The first digit. -/
def leading (d : Digits) : List Char := [d.digits.headD '0']

end Digits

/-- The numbers are written with an exponent: one of them is large or tiny, or the largest is more than
a thousand times the smallest. -/
def needsExponent (f : BinaryFormat) (numbers : List Rational) : Bool :=
  let sizes := (numbers.filter fun a => !a.isZero).map Rational.abs
  let large := Rational.ofInt (Nat.pow 10 (min 8 (Shortest.wholeDigits f).toNat))
  match sizes with
  | [] => false
  | a :: rest =>
    let greatest := rest.foldl (fun m b => if m < b then b else m) a
    let least := rest.foldl (fun m b => if b < m then b else m) a
    large ≤ greatest || least * .ofInt 10000 < 1 || least * .ofInt 1000 < greatest

/-- The longest of some texts, by its length. -/
def longest (texts : List (List Char)) : Nat := (texts.map List.length).foldl max 0

/-- Spaces before a text that is too short. -/
def padStart (width : Nat) (text : List Char) : List Char :=
  List.replicate (width - text.length) ' ' ++ text

/-- A character after a text that is too short. -/
def padEnd (filler : Char) (width : Nat) (text : List Char) : List Char :=
  text ++ List.replicate (width - text.length) filler

/-- The digits of a finite float, with the number that it denotes. -/
def digits? (f : BinaryFormat) (x : FloatValue) : Option (Rational × Digits) :=
  match x, x.toRational? with
  | .finite negative significand power, some a =>
    some (a, Digits.shortest f negative significand power)
  | _, _ => none

/-- The text of a float that is not finite. -/
def boundlessText (plus : Bool) : FloatValue → List Char
  | .infinite true => "-inf".toList
  | .infinite false => (if plus then ['+'] else []) ++ "inf".toList
  | _ => (if plus then ['+'] else []) ++ "nan".toList

/-- The texts of floats, their points below each other. A plus is written if it is asked for. -/
def texts (f : BinaryFormat) (plus : Bool) (xs : List FloatValue) : List (List Char) :=
  let finite := xs.filterMap (digits? f)
  let exponential := needsExponent f (finite.map Prod.fst)
  let cut (pair : Rational × Digits) : Digits :=
    if exponential then pair.2.scientific pair.1 else pair.2.positional pair.1
  let all := finite.map cut
  let head (d : Digits) : List Char := d.sign plus ++ if exponential then d.leading else d.whole
  let tail (d : Digits) : List Char := if exponential then d.digits.drop 1 else d.fraction
  let right := longest (all.map tail)
  let size := longest (all.map Digits.exponentText)
  let after := if exponential then size + 1 + right else right
  let boundless := (xs.filter fun x => (digits? f x).isNone).map (boundlessText plus)
  let left := max (longest (all.map head)) (longest boundless - (after + 1))
  xs.map fun x =>
    match digits? f x with
    | none => padStart (left + after + 1) (boundlessText plus x)
    | some pair =>
      let d := cut pair
      padStart left (head d) ++ '.' ::
        if exponential then
          let exponent := d.exponentText
          padEnd '0' right (tail d) ++ 'e' :: (exponent.take 1 ++
            List.replicate (size - exponent.length) '0' ++ exponent.drop 1)
        else padEnd ' ' right (tail d)

end ExactAlgebra.Aligned
