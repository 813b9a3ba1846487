import ExactAlgebra.Operand.Conversion
import ExactAlgebra.Text.Layout

/-!
# Operands as sequences and as truth values

The parts of an operand where a sequence is expected: the values of a list, the characters of a text,
the parts of an array along its first dimension, the cells of a symbolic matrix. The cells of a matrix
of this library can be gone through, but a matrix has no length and no parts to pick.

A value counts as false if it is nothing, zero or empty. An array of several elements counts neither as
true nor as false.

## Main definitions

* `Operand.items?`, `Operand.values`: the parts of a sequence.
* `Operand.members?`: what can be gone through.
* `Operand.first`: the first part of a sequence.
* `Operand.truthy`: whether a value counts as true.
* `Operand.nestedShape`, `Operand.leaves`: nested sequences as an array.
-/

namespace ExactAlgebra

/-- The elements of an array as plain values. -/
def ElementType.listed : ElementType → List Operand → List Operand
  | .object, elements => elements
  | _, elements => elements.map Operand.unboxed

namespace Operand

/-! ## Parts -/

/-- An element of an array where it is taken out by itself: a pair counts by its real part. -/
def scalarElement : Operand → Operand
  | .doublePair re _ _ => .ofDouble re
  | v => v

/-- The parts of an array along its first dimension. -/
def arrayParts (t : ElementType) (shape : List Nat) (elements : List Operand) : List Operand :=
  match shape with
  | [] => []
  | [_] => elements.map scalarElement
  | n :: inner =>
    (Text.Layout.runs (inner.foldl (· * ·) 1) n elements).map fun part => .array t inner part none

/-- The parts of a sequence. -/
def items? : Operand → Option (List Operand)
  | .list xs _ => some xs
  | .tuple xs => some xs
  | .text s => some (s.toList.map fun c => .text (String.singleton c))
  | .array t shape elements _ => some (arrayParts t shape elements)
  | .symbolicMatrix _ _ cells => some (cells.map fun z => .symbolic z.1 z.2)
  | _ => none

/-- The parts of a sequence where its length is asked for. -/
def values (v : Operand) : Except Error (List Operand) :=
  orFail (.operand (.noLength v.fullTypeName)) v.items?

/-- What can be gone through: the parts of a sequence, or the cells of a matrix. -/
def members? : Operand → Option (List Operand)
  | .matrix m _ => some (m.cells.map .quantity)
  | v => v.items?

/-- The members of a value as a list. -/
def listed (v : Operand) : Except Error (List Operand) :=
  orFail (.operand (.notIterable v.fullTypeName)) v.members?

/-- The first part of a sequence that has one. -/
def first (v : Operand) : Except Error Operand :=
  match v, v.items? with
  | _, some (x :: _) => .ok x
  | .elementType t, _ =>
    if t.isBuiltIn then .error (.operand (.typeNotSubscriptable t.className))
    else .error (.operand (.noTypeVariables t.className))
  | v, _ =>
    if v.isBoxed then .error (.operand .numberNotSubscriptable)
    else .error (.operand (.notSubscriptable v.fullTypeName))

/-! ## Truth -/

/-- A single value counts as true. -/
def counts : Operand → Bool
  | .nothing => false
  | .text s => !s.isEmpty
  | .list xs _ => !xs.isEmpty
  | .tuple xs => !xs.isEmpty
  | .quantity q => !q.isZero
  | .doublePair re im _ =>
    !((BinaryFormat.double.decode re).isZero && (BinaryFormat.double.decode im).isZero)
  | .symbolic re im => !(re.isZero && im.isZero)
  | v =>
    match v.extended? with
    | some x => !x.isZero
    | none => true

/-- A value counts as true. -/
def truthy : Operand → Except Error Bool
  | .array _ _ [x] _ => .ok x.counts
  | .array .. => .error (.array .ambiguousTruth)
  | v => .ok v.counts

/-! ## Nested sequences as arrays -/

/-- What two shapes have in common from the first dimension on. -/
def commonShape : List Nat → List Nat → List Nat
  | m :: ms, n :: ns => if m = n then m :: commonShape ms ns else []
  | _, _ => []

mutual

/-- The dimensions that nested sequences make. A text is no sequence here. -/
def nestedShape : Operand → List Nat
  | .list xs _ => xs.length :: nestedShapes xs
  | .tuple xs => xs.length :: nestedShapes xs
  | .array _ shape _ _ => shape
  | .symbolicMatrix rows columns _ => [rows, columns]
  | _ => []

/-- The dimensions that all of some values have in common. -/
def nestedShapes : List Operand → List Nat
  | [] => []
  | [x] => nestedShape x
  | x :: xs => commonShape (nestedShape x) (nestedShapes xs)

end

/-- The elements of an array that so many dimensions are taken from. -/
def arrayLeaves (depth : Nat) (t : ElementType) (shape : List Nat) (elements : List Operand) :
    List Operand :=
  let inner := shape.drop depth
  if inner.isEmpty then t.listed elements
  else
    (Text.Layout.runs (inner.foldl (· * ·) 1) ((shape.take depth).foldl (· * ·) 1) elements).map
      fun part => .array t inner part none

/-- The values so many levels deep in nested sequences. -/
def leaves : (depth : Nat) → Operand → List Operand
  | 0, v => [v]
  | depth + 1, v =>
    match v with
    | .list xs _ => xs.flatMap (leaves depth)
    | .tuple xs => xs.flatMap (leaves depth)
    | .array t shape elements _ => arrayLeaves (depth + 1) t shape elements
    | .symbolicMatrix _ _ cells => cells.map fun z => .symbolic z.1 z.2
    | v => [v]

/-- How many dimensions an array has at most. -/
def greatestDepth : Nat := 64

/-- The shape and the elements of the array that a value is or stands for. A value that is no sequence
is an array without dimensions. -/
def asArray : Operand → List Nat × List Operand
  | .array t shape elements _ => (shape, t.listed elements)
  | v =>
    let shape := v.nestedShape.take greatestDepth
    (shape, v.leaves shape.length)

end Operand

end ExactAlgebra
