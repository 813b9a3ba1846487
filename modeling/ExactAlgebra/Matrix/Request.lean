import ExactAlgebra.Matrix.Operations

/-!
# Requests to a matrix

Everything that can be asked of a matrix that is kept somewhere: the operations that change it, and the
questions about it. A request is answered, and it leaves a matrix behind. Only a change leaves another
one; a question is answered by means of copies and new matrices.

## Main definitions

* `Request`: changes and questions.
* `Matrix.answer`: the answer to a request.
* `Matrix.after`: the matrix that a request leaves behind.
* `Matrix.respond`: both together.
-/

namespace ExactAlgebra

/-- What can be asked of a matrix. -/
inductive Request where
  | change (c : Mutation)
  | cell (row column : Operand)
  | row (index : Operand)
  | column (index : Operand)
  | entries
  | copy
  | isZero
  | scale (scalar : Operand)
  | add (addend : Operand)
  | multiply (multiplier : Operand)
  | transpose
  | rank
  /-- The determinant, with its sign corrected if the operand counts as true. -/
  | det (correctSign : Operand)
  | isTriangular

namespace Matrix

/-- A list of quantities that is an object of its own. -/
def listOf (qs : List Quantity) : Operand := .ofList (qs.map .quantity)

/-- What a matrix answers to a request. -/
def answer (m : Matrix) : Request → Logged Operand
  | .change c => do
    (m.mutate c).2
    return .nothing
  | .cell r c => do return .quantity (← m.getValue r c)
  | .row r => do return listOf (← m.getRow r)
  | .column c => do return listOf (← m.getColumn c)
  | .entries => return .ofList (m.rows.map listOf)
  | .copy => return .ofMatrix m.copy
  | .isZero => do
    m.requireArithmetic "is_zero"
    return .bool m.isZero
  | .scale s => do
    m.requireArithmetic "scale"
    return .ofMatrix (m.scale (← s.toQuantity))
  | .add v => do
    m.requireArithmetic "add_entries"
    return .ofMatrix (← m.add (← v.addend [m.rowCount, m.columnCount]))
  | .multiply v => do
    m.requireArithmetic "multiply"
    return .ofMatrix (← m.multiply (← v.multiplier))
  | .transpose => do
    m.requireArithmetic "transpose"
    return .ofMatrix m.transpose
  | .rank => do
    m.requireArithmetic "rank"
    return .int (← m.rank)
  | .det correctSign => do return .quantity (← m.det correctSign)
  | .isTriangular => do return .bool (← m.isTriangular)

/-- The matrix that a request leaves behind. -/
def after (m : Matrix) : Request → Matrix
  | .change c => (m.mutate c).1
  | _ => m

/-- The matrix that a request leaves behind, and the answer. -/
def respond (m : Matrix) (request : Request) : Matrix × Logged Operand :=
  (m.after request, m.answer request)

end Matrix

end ExactAlgebra
