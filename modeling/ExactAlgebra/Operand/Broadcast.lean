import ExactAlgebra.Operand.Sequence

/-!
# Arrays element by element

An operation on two arrays is carried out element by element. Their shapes are matched from the last
dimension on; where one of them is one long, or has no such dimension, it is repeated. A value that is
no sequence is repeated for every element of the other array.

## Main definitions

* `Operand.broadcastShape?`: the shape that two shapes make together.
* `Operand.spread`: the elements of an array, repeated to fill a shape.
* `Operand.elementwise`: an operation carried out element by element.
-/

namespace ExactAlgebra.Operand

/-- The shape that two shapes make together; both start with their last dimension. -/
def broadcastReversed? : List Nat → List Nat → Option (List Nat)
  | [], ns => some ns
  | ms, [] => some ms
  | m :: ms, n :: ns =>
    if m = n ∨ n = 1 then (broadcastReversed? ms ns).map (m :: ·)
    else if m = 1 then (broadcastReversed? ms ns).map (n :: ·)
    else none

/-- The shape that two shapes make together, if they fit. -/
def broadcastShape? (ms ns : List Nat) : Option (List Nat) :=
  (broadcastReversed? ms.reverse ns.reverse).map List.reverse

/-- The elements of an array, repeated to fill a shape with as many dimensions. -/
def spreadAligned {α : Type} : (shape target : List Nat) → List α → List α
  | m :: shape, n :: target, elements =>
    let parts := (Text.Layout.runs (shape.foldl (· * ·) 1) m elements).map
      (spreadAligned shape target)
    if m = n then parts.flatten else (List.replicate n parts.flatten).flatten
  | _, _, elements => elements

/-- The elements of an array, repeated to fill a shape. -/
def spread {α : Type} (shape target : List Nat) (elements : List α) : List α :=
  spreadAligned (List.replicate (target.length - shape.length) 1 ++ shape) target elements

/-- An operation on two arrays, carried out element by element: the shape and the results. -/
def elementwise {α : Type} (f : Operand → Operand → Except Error α) (a b : Operand) :
    Except Error (List Nat × List α) := do
  let (m, xs) := a.asArray
  let (n, ys) := b.asArray
  let shape ← orFail (.array (.unequalShapes m n)) (broadcastShape? m n)
  let results ← ((spread m shape xs).zip (spread n shape ys)).mapM fun (x, y) => f x y
  return (shape, results)

/-- An array of truth values counts as a whole only if it holds a single one. -/
def collapse : List Bool → Except Error Bool
  | [b] => .ok b
  | _ => .error (.array .ambiguousTruth)

/-- The value is an array. -/
def isArray : Operand → Bool
  | .array .. => true
  | _ => false

end ExactAlgebra.Operand
