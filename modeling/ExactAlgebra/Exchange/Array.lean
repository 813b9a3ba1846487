import ExactAlgebra.Exchange.Element
import ExactAlgebra.Exchange.TypeName
import ExactAlgebra.Matrix.Construction
import ExactAlgebra.Matrix.Operations

/-!
# Matrices and arrays

An array has any number of dimensions and holds its elements in the order of their indices, the last
index running first. A matrix becomes an array of two dimensions, and an array of two dimensions that
is not empty becomes a matrix.

Whatever has a shape and members becomes an array as a matrix does. An array has its parts for members,
which are fewer than its elements: as objects they leave the rest of the new array without values.

## Main definitions

* `Matrix.ofElements`, `Matrix.ofArray`: the matrix of an array.
* `Operand.toArray`: the array of a matrix, or of whatever else has a shape.
* `ElementType.fill`: an array of given values.
-/

namespace ExactAlgebra

/-! ## Arrays to matrices -/

namespace Matrix

/-- The matrix of the elements of an array. -/
def ofElements (shape : List Nat) (elements : List Operand) : Logged Matrix :=
  match shape with
  | [rows, columns] =>
    if rows * columns = 0 then .fail (.shape (.emptyShape shape))
    else do
      let cells ← Logged.ofExcept (elements.mapM Operand.toCell)
      fromRows (splitRows columns rows cells)
  | _ => .fail (.shape (.dimensionCount shape.length))

/-- The matrix of a value that is an array or stands for one. -/
def ofArray (v : Operand) : Logged Matrix :=
  let (shape, elements) := v.asArray
  ofElements shape elements

end Matrix

/-! ## Matrices to arrays -/

namespace ElementType

/-- A member of a matrix as an element of an array. Only complex numbers and objects may have an
imaginary part; all other elements are made of the nearest double. -/
def ofMember (t : ElementType) (v : Operand) : Except Error Operand :=
  match t with
  | .object => .ok v
  | .singlePair | .doublePair => v.toDoublePair >>= t.store
  | t => do
    let bits ← (← v.toReal).toDouble
    (t.store (.ofDouble bits)).mapError fun _ => .array .unfitElement

/-- The number of elements of an array. -/
def sizeOfShape (shape : List Nat) : Nat := shape.foldl (· * ·) 1

/-- An array of a shape whose first elements are made of the given members. -/
def ofMembers (t : ElementType) (shape : List Nat) (members : List Operand) : Except Error Operand := do
  let elements ← members.mapM t.ofMember
  let rest := List.replicate (sizeOfShape shape - elements.length) Operand.nothing
  return .array t shape (elements ++ rest) none

/-- An array of the given values. -/
def fill (t : ElementType) (shape : List Nat) (values : List Operand) : Except Error Operand := do
  let elements ← values.mapM t.store
  if sizeOfShape shape = elements.length then return .array t shape elements none
  else throw (.array (.unfilled elements.length shape))

end ElementType

namespace Operand

/-- The shape of a value that is to become an array. -/
def arrayShape (v : Operand) : Except Error (List Nat) :=
  match v, v.foreignShape? with
  | .matrix m _, _ => .ok [m.rowCount, m.columnCount]
  | .elementType _, some _ =>
    .error (.operand (.notShape "<attribute 'shape' of 'numpy.generic' objects>"))
  | _, some shape => .ok shape
  | v, none => .error (.operand (.noAttribute v.subject "shape"))

/-- The members of a value as an array of a type that another value stands for. -/
def toArray (v type : Operand) : Except Error Operand := do
  let shape ← v.arrayShape
  let t ← type.toElementType
  t.ofMembers shape (← v.listed)

end Operand

end ExactAlgebra
