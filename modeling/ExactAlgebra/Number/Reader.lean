import ExactAlgebra.Number.Checked
import ExactAlgebra.Number.Text
import ExactAlgebra.Text.Blank

/-!
# Reading numbers

The readers of the text forms. They take more than the writers produce: blanks around every part, a
plus before a term, and coefficients of the imaginary unit that are left out or are a bare minus. Terms
are decimal integers of the ten ASCII digits.

## Main definitions

* `readInteger?`: an integer with an optional sign.
* `Rational.read`: `n` or `n/d`.
* `Gaussian.read`: `a`, `bi` or `a+bi`, with an optional plus in front.
* `Quantity.read`: the same, rational if the imaginary part is zero.
-/

namespace ExactAlgebra

open Text

/-- The natural number that a nonempty row of ASCII digits denotes. -/
def readNatural? (cs : List Char) : Option Nat :=
  if cs.isEmpty || !cs.all Char.isDigit then none else some (Nat.ofDigitChars 10 cs 0)

/-- The integer that digits after an optional sign denote. -/
def readInteger? : List Char → Option Int
  | '+' :: cs => (readNatural? cs).map fun n => n
  | '-' :: cs => (readNatural? cs).map fun n => -n
  | cs => (readNatural? cs).map fun n => n

/-- A term of a fraction; an error shows the text of the whole fraction. -/
def readTerm (whole term : List Char) : Except Error Int :=
  orFail (.numeral (.fraction (String.ofList whole))) (readInteger? (strip term))

/-- Reads a rational number. -/
def Rational.read (cs : List Char) : Except Error Rational :=
  match (strip cs).splitOn fractionBar with
  | [n] => do return .ofInt (← readTerm cs n)
  | [n, d] => do
    let n ← readTerm cs n
    let d ← readTerm cs d
    Rational.ofInts n d
  | _ => .error (.numeral (.fraction (String.ofList cs)))

/-- The text ends with the imaginary unit. -/
def endsWithUnit (cs : List Char) : Bool :=
  cs.getLast? == some imaginaryUnit

/-- Reads the coefficient of the imaginary unit at the end of a text. A coefficient that is left out or is
a bare plus is one, and a bare minus is minus one. Where texts are split at every plus no plus is left for a
coefficient. -/
def readCoefficient (cs : List Char) : Except Error Rational :=
  match strip (strip cs).dropLast with
  | [] | ['+'] => .ok 1
  | ['-'] => .ok (-1)
  | coefficient => Rational.read coefficient

/-- The text without the plus that it may start with. -/
def dropPlus : List Char → List Char
  | '+' :: cs => cs
  | cs => cs

/-- Reads a complex number. -/
def Gaussian.read (cs : List Char) : Except Error Gaussian :=
  let s := dropPlus (strip cs)
  match s.splitOn complexPlus with
  | [part] =>
    if endsWithUnit part then do return ⟨0, ← readCoefficient part⟩
    else do return ⟨← Rational.read part, 0⟩
  | [re, im] =>
    if endsWithUnit (strip im) then do
      let re ← Rational.read re
      let im ← readCoefficient im
      return ⟨re, im⟩
    else .error (.numeral (.complex (String.ofList cs)))
  | _ => .error (.numeral (.complex (String.ofList cs)))

/-- Reads a quantity: a number without an imaginary part is rational. -/
def Quantity.read (cs : List Char) : Except Error Quantity := do
  return demote (.complex (← Gaussian.read cs))

end ExactAlgebra
