import ExactAlgebra.Number.Text

/-!
# Texts of symbolic numbers

How an algebra system shows its exact numbers: the imaginary unit is `I`, a coefficient stands before it
with an asterisk, and the denominator of the coefficient after it: `1/2 - 3*I/4`.

## Main definitions

* `Operand.symbolicText`: the text of a number.
-/

namespace ExactAlgebra.Operand

/-- The text of a multiple of the imaginary unit, without its sign. -/
def symbolicUnitText (a : Rational) : List Char :=
  let n := a.num.natAbs
  let times := if n = 1 then ['I'] else Nat.toDigits 10 n ++ "*I".toList
  if a.den = 1 then times else times ++ '/' :: Nat.toDigits 10 a.den

/-- The text of an exact number of an algebra system. -/
def symbolicText (re im : Rational) : List Char :=
  if im.num = 0 then re.text
  else if re.num = 0 then (if im.num < 0 then ['-'] else []) ++ symbolicUnitText im
  else re.text ++ (if im.num < 0 then " - " else " + ").toList ++ symbolicUnitText im

end ExactAlgebra.Operand
