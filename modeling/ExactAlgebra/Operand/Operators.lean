import ExactAlgebra.Expression.Evaluation
import ExactAlgebra.Matrix.Operations
import ExactAlgebra.Operand.Arithmetic
import ExactAlgebra.Operand.Broadcast

/-!
# Operators on operands

Which operands an operator combines. A quantity on the left takes any right operand that stands for a
quantity, and one on the right any left operand; a matrix stands for no quantity. A matrix adds and
multiplies with matrices, and is scaled by a quantity, or by what stands for one, from either side.
There are no powers of matrices, and no powers with a quantity as exponent.

A number of an array that meets a quantity or a matrix does so as the plain number that it holds, and an
array meets them element by element. Only the row by column product is one of whole arrays: both its
operands have to have dimensions.

## Main definitions

* `Quantity.combine`: an operation between a quantity and an operand.
* `Operand.arrayProduct`: the row by column product of arrays.
* `Operand.operate`: an operator between two operands.
* `Operand.apply`: an operation on two operands.
-/

namespace ExactAlgebra

namespace Quantity

/-- An operation between a quantity and a value that stands for one. For a power the value has to be an
integer by type, not only by value. -/
def combine (o : Operation) (q : Quantity) (v : Operand) : Except Error Quantity :=
  match o with
  | .pow => v.toExponent >>= q.pow
  | o => v.toQuantity >>= o.apply q

/-- How a quantity compares with a value that stands for one. -/
def compareWith (q : Quantity) (v : Operand) : Except Error Int :=
  v.toQuantity.map q.compareTo

end Quantity

namespace Operand

/-! ## Quantities and matrices -/

/-- A matrix on the left of an operator. -/
def operateMatrix (o : Operator) (m : Matrix) (b : Operand) : Except Error Operand :=
  match o, b with
  | .add, .matrix p _ => (m.add p).map .ofMatrix
  | .product, .matrix p _ => (m.multiply p).map .ofMatrix
  | .multiply, .matrix .. => refuse o (.ofMatrix m) b
  | .multiply, v => do return .ofMatrix (m.scale (← v.toQuantity))
  | .pow, _ => refusePower (.ofMatrix m) b
  | .product, _ => refuse o (.ofMatrix m) b
  | _, .quantity _ => .error (.operand (.notRational m.form.name))
  | _, _ => refuse o (.ofMatrix m) b

/-- An operator between two values that are no arrays. -/
def operatePlain (o : Operator) (a b : Operand) : Except Error Operand :=
  match a, b, o.operation? with
  | .quantity q, v, some action => (q.combine action v).map .quantity
  | .quantity q, v, none =>
    if o = .pow then (q.combine .pow v).map .quantity else refuse o a b
  | .matrix m _, v, _ =>
    if m.form.hasArithmetic then operateMatrix o m v
    else if v.isQuantity && o.operation?.isSome then .error (.operand (.notRational m.form.name))
    else refusal o a b
  | v, .quantity q, some action => do
    let p ← v.unboxed.toQuantity
    return .quantity (← action.apply p q)
  | v, .matrix m _, _ =>
    if m.form.hasArithmetic && o == .multiply then
      do return .ofMatrix (m.scale (← v.unboxed.toQuantity))
    else
      refusal o a b
  | _, _, _ => combineForeign o a b

/-! ## Arrays -/

/-- The value is a number of a type that arrays hold, or an array of such numbers. -/
def isNumeric : Operand → Bool
  | .bool _ | .int _ | .double .. | .doublePair .. => true
  | .array t .. => t != .object
  | v => v.isBoxed

/-- The type of an array of results, as far as it follows from the first one. -/
def typeOfResults : List Operand → ElementType
  | .int _ :: _ => .integer 64 true
  | .bool _ :: _ => .flag
  | .double .. :: _ => .double
  | .doublePair .. :: _ => .doublePair
  | _ => .object

/-- A plain number as arrays hold it. -/
def boxed : Operand → Operand
  | .int n => .wordInt (n.bmod (Nat.pow 2 64))
  | .bool b => .flag b
  | v => v

/-- The array of the results of an operator on two values. -/
def ofResults (a b : Operand) (shape : List Nat) (results : List Operand) : Operand :=
  if a.isNumeric && b.isNumeric then .array (typeOfResults results) shape (results.map boxed) none
  else .array .object shape results none

/-- The sum of the products of two vectors. -/
def dotOperands : List Operand → List Operand → Except Error Operand
  | x :: xs, y :: ys => do
    let first ← operatePlain .multiply x y
    (xs.zip ys).foldlM (fun sum (x, y) => do operatePlain .add sum (← operatePlain .multiply x y)) first
  | _, _ => .ok (.bool false)

/-- The row by column product of two arrays with one or two dimensions. A vector on the left is a row, one
on the right a column, and its dimension is no dimension of the result. -/
def arrayProduct (a b : Operand) : Except Error Operand := do
  let (m, xs) := a.asArray
  let (n, ys) := b.asArray
  match m.reverse, n with
  | [], _ => throw (.array (.noDimensions 0))
  | _, [] => throw (.array (.noDimensions 1))
  | width :: outer, height :: inner =>
    if width ≠ height then throw (.array (.productLength width height))
    let count := outer.foldl (· * ·) 1
    let columns := inner.foldl (· * ·) 1
    let results ← (Text.Layout.runs width count xs).mapM fun row =>
      (List.range columns).mapM fun j =>
        dotOperands row ((Text.Layout.runs columns height ys).filterMap (·[j]?))
    match outer ++ inner, results.flatten with
    | [], [v] => return v
    | shape, vs => return ofResults a b shape vs

/-- An operator between two values of which one is an array. A quantity on the left asks for a number,
and so does a matrix that is to be scaled; an array is none. -/
def operateArray (o : Operator) (a b : Operand) : Except Error Operand :=
  match o, a, b with
  | .product, a, b => arrayProduct a b
  | o, .quantity q, b => operatePlain o (.quantity q) b
  | .multiply, .matrix m mark, b =>
    if m.form.hasArithmetic then operateMatrix .multiply m b
    else do
      let (shape, results) ← elementwise (operatePlain .multiply) (.matrix m mark) b
      return .array .object shape results none
  | o, a, b => do
    let (shape, results) ← elementwise (operatePlain o) a b
    return ofResults a b shape results

/-- An operator between two values. -/
def operate (o : Operator) (a b : Operand) : Except Error Operand :=
  if a.isArray || b.isArray then operateArray o a b else operatePlain o a b

/-! ## Operations -/

/-- What an operation asks of its left operand. -/
def neededFor : Operation → String
  | .add => "add"
  | .subtract => "subtract"
  | .multiply => "multiply"
  | .divide => "divide"
  | .pow => "pow"

/-- An operation carried out on two values. The left one has to be a quantity, or a matrix for a
product; an exponent has to be a quantity that is an integer. -/
def apply (o : Operation) (a b : Operand) : Except Error Operand :=
  match o, a with
  | .multiply, .matrix m _ =>
    if m.form.hasArithmetic then do return .ofMatrix (← m.multiply (← b.multiplier))
    else .error (.operand (.noAttribute a.subject (neededFor o)))
  | .pow, .quantity p =>
    match b with
    | .quantity q => ((Operation.pow).apply p q).map .quantity
    | v => .error (.operand (.noAttribute v.subject "int_value"))
  | o, .quantity p => (p.combine o b).map .quantity
  | o, v => .error (.operand (.noAttribute v.subject (neededFor o)))

end Operand

end ExactAlgebra
