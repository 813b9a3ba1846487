import ExactAlgebra.Expression.Build
import ExactAlgebra.Matrix.Reader
import ExactAlgebra.Operand.Equality

/-!
# Reading operands

The readers of numbers, operations, expressions and matrices, for an operand that need not be a text.
Nothing is an error of each reader in its own way; any other value fails at the first thing that is
asked of a text.

## Main definitions

* `Operand.readRational`, `Operand.readComplex`, `Operand.readQuantity`: numbers.
* `Operand.readOperation`, `Operand.isOperator`: operations.
* `Operand.buildExpression`, `Operand.readMatrix`: expressions and matrices.
-/

namespace ExactAlgebra

/-- Reads the symbol of an operation, with blanks around it or not. -/
def Operation.read (text : String) : Except Error Operation :=
  match Text.strip text.toList with
  | [c] => orFail (.numeral (.operator text)) (ofSymbol? c)
  | _ => .error (.numeral (.operator text))

namespace Operand

/-- The text that a value is. `needed` names what is first asked of it. -/
def toText (needed : String) : Operand → Except Error String
  | .text s => .ok s
  | v => .error (.operand (.noAttribute v.subject needed))

/-- Reads a rational number. -/
def readRational : Operand → Except Error Rational
  | .nothing => .error (.numeral (.absent "Rational"))
  | v => do Rational.read (← v.toText "strip").toList

/-- Reads a complex number. -/
def readComplex : Operand → Except Error Gaussian
  | .nothing => .error (.numeral (.absent "Complex"))
  | v => do Gaussian.read (← v.toText "strip").toList

/-- Reads a quantity. -/
def readQuantity (v : Operand) : Except Error Quantity := do
  return Quantity.demote (.complex (← v.readComplex))

/-- Reads the symbol of an operation. -/
def readOperation (v : Operand) : Except Error Operation := do
  Operation.read (← v.toText "strip")

/-- The value is the symbol of an operation. A value that cannot be a key cannot be looked up. -/
def isOperator (v : Operand) : Except Error Bool :=
  match v, v.notKey? with
  | _, some type => .error (.operand (.unhashable type))
  | .text s, none => .ok (s.toList.length == 1 && s.toList.all Operation.isSymbol)
  | _, none => .ok false

/-- Checks the text of an expression. The values of an algebra system have something else to replace than
characters. -/
def buildExpression : Operand → Except Error Expression
  | .nothing => .error (.expression none .absent)
  | .symbolic .. | .symbolicMatrix .. => .error (.operand .notReplaceable)
  | v => do Expression.build (← v.toText "replace")

/-- Reads a matrix. -/
def readMatrix : Operand → Logged Matrix
  | .nothing => .fail (.reading .noText)
  | v => do Matrix.parse (← v.toText "split")

end Operand

end ExactAlgebra
