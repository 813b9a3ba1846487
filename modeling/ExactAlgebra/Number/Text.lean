import ExactAlgebra.Number.Quantity

/-!
# Text forms of numbers

An integer is written in decimal, a fraction as `n/d`, a complex number as `a+bi`. A part that is zero
is left out together with its sign, and a negative coefficient keeps its sign after the plus:
`1/2+-3i`.

Each number also has a constructor form, which tells the kinds and the terms apart: `Rational(1, 2)`,
`Complex(Rational(0, 1), Rational(1, 1))`.

## Main definitions

* `Rational.text`, `Gaussian.text`, `Quantity.text`: the text forms.
* `Rational.constructorText`, `Gaussian.constructorText`, `Quantity.constructorText`: the constructor
  forms.
-/

namespace ExactAlgebra

/-- An integer in decimal. -/
def integerText (n : Int) : List Char :=
  if n < 0 then '-' :: Nat.toDigits 10 n.natAbs else Nat.toDigits 10 n.natAbs

/-- The bar between the terms of a fraction. -/
def fractionBar : Char := '/'

/-- The sign between the parts of a complex number. -/
def complexPlus : Char := '+'

/-- The letter of the imaginary unit. -/
def imaginaryUnit : Char := 'i'

/-- The text form of a rational number. -/
def Rational.text (a : Rational) : List Char :=
  if a.den = 1 then integerText a.num
  else integerText a.num ++ fractionBar :: Nat.toDigits 10 a.den

/-- The text form of a complex number. -/
def Gaussian.text (a : Gaussian) : List Char :=
  if a.im.isZero then a.re.text
  else if a.re.isZero then a.im.text ++ [imaginaryUnit]
  else a.re.text ++ complexPlus :: (a.im.text ++ [imaginaryUnit])

/-- The text form of a quantity. -/
def Quantity.text : Quantity → List Char
  | .rational a => a.text
  | .complex z => z.text

/-- The constructor form of a rational number. -/
def Rational.constructorText (a : Rational) : List Char :=
  "Rational(".toList ++ integerText a.num ++ ", ".toList ++ Nat.toDigits 10 a.den ++ [')']

/-- The constructor form of a complex number. -/
def Gaussian.constructorText (a : Gaussian) : List Char :=
  "Complex(".toList ++ a.re.constructorText ++ ", ".toList ++ a.im.constructorText ++ [')']

/-- The constructor form of a quantity. -/
def Quantity.constructorText : Quantity → List Char
  | .rational a => a.constructorText
  | .complex z => z.constructorText

instance : ToString Rational := ⟨fun a => String.ofList a.text⟩

instance : ToString Gaussian := ⟨fun a => String.ofList a.text⟩

instance : ToString Quantity := ⟨fun q => String.ofList q.text⟩

end ExactAlgebra
