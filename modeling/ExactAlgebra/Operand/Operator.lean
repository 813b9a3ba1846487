import ExactAlgebra.Exchange.Scalar
import ExactAlgebra.Expression.Operation

/-!
# Operators

The arithmetic operators, and how one refuses two values that it does not take. A refusal names the types
of both values as the operator sees them last: what a fraction has no power with, it meets as a double.

## Main definitions

* `Operator`: the arithmetic operators.
* `Operand.refuse`, `Operand.refuseSequence`, `Operand.refusePower`: refusals.
-/

namespace ExactAlgebra

/-- An arithmetic operator. -/
inductive Operator where
  | add
  | subtract
  | multiply
  | divide
  | pow
  | product
  deriving DecidableEq, Repr

namespace Operator

/-- The sign of an operator in messages. -/
def symbol : Operator → String
  | .add => "+"
  | .subtract => "-"
  | .multiply => "*"
  | .divide => "/"
  | .pow => "** or pow()"
  | .product => "@"

/-- The operation of an operator between quantities, other than the power. -/
def operation? : Operator → Option Operation
  | .add => some .add
  | .subtract => some .subtract
  | .multiply => some .multiply
  | .divide => some .divide
  | .pow | .product => none

end Operator

namespace Operand

/-! ## Refusals -/

/-- An operator that does not take two values. The product names the numbers of arrays as such, all
other operators as the plain numbers that they hold. -/
def refuse (o : Operator) (a b : Operand) : Except Error Operand :=
  .error (.operand (if o = .product then .unsupported o.symbol a.fullTypeName b.fullTypeName
    else .unsupported o.symbol a.plainTypeName b.plainTypeName))

/-- The value is a text, a list or a fixed sequence. -/
def isSequence : Operand → Bool
  | .text _ | .list .. | .tuple _ => true
  | _ => false

/-- An operator that does not take two values of which one is a sequence: a sequence can be continued by
another one and repeated by an integer. -/
def refuseSequence (o : Operator) (a b : Operand) : Except Error Operand :=
  match o with
  | .add =>
    if a.isSequence then .error (.operand (.unappendable a.typeName b.fullTypeName)) else refuse o a b
  | .multiply =>
    if a.isSequence then .error (.operand (.notRepetition b.fullTypeName))
    else if b.isSequence then .error (.operand (.notRepetition a.fullTypeName))
    else refuse o a b
  | o => refuse o a b

/-- What a fraction is where it meets a value that it has no power with: as a base a double, as an
exponent an integer if it is one. Other values stay as they are. -/
def inPower (asBase : Bool) : Operand → Except Error Operand
  | .fraction a =>
    if !asBase && a.isInteger then .ok (.int a.num) else do return .ofDouble (← a.toDouble)
  | v => .ok v

/-- A power of two values that there is none of. -/
def refusePower (a b : Operand) : Except Error Operand := do
  let base ← a.inPower true
  let exponent ← b.inPower false
  refuse .pow base exponent

/-- An operator that does not take two values. -/
def refusal (o : Operator) (a b : Operand) : Except Error Operand :=
  if o = .pow then refusePower a b else refuseSequence o a b

end Operand

end ExactAlgebra
