import ExactAlgebra.Operand.Sequence

/-!
# Signs of operands

The negative of a value, the value itself, and its distance from zero, for all values that have a sign.
Truth values count as integers here, except that those of arrays have no sign at all. Of an array every
element is taken by itself. Complex numbers of this library have no distance from zero of their own, but
pairs of doubles do, and numbers of an algebra system as far as the distance is rational.

## Main definitions

* `Operand.negative`, `Operand.positive`: the two signs.
* `BinaryFormat.nearestRoot`: the float nearest to a square root.
* `Operand.magnitude`: the distance from zero.
-/

namespace ExactAlgebra

/-- The bits of the float nearest to the square root of a number that is not negative; an infinity if it
is beyond all finite floats. The root is computed to more places than the format has, and one place more
says whether something is left after them. -/
def BinaryFormat.nearestRoot (f : BinaryFormat) (a : Rational) : Nat :=
  let shift := a.den.log2 + 2 * f.fractionWidth
  let scaled := a.num.natAbs * Nat.pow 4 shift
  let root := Nat.sqrt (scaled / a.den)
  let exact := root * root * a.den == scaled
  let doubled := 2 * root + if exact then 0 else 1
  (f.nearest? doubled (Nat.pow 2 (shift + 1))).getD (f.infinity false)

namespace Operand

/-- An integer of 64 bits that is left of an integer. -/
def wrapped (n : Int) : Operand := .wordInt (n.bmod (Nat.pow 2 64))

/-- The negative of a single value. -/
def negativePlain : Operand → Except Error Operand
  | .quantity q => .ok (.quantity (-q))
  | .bool b => .ok (.int (if b then -1 else 0))
  | .int n => .ok (.int (-n))
  | .wordInt n => .ok (wrapped (-n))
  | .fraction a => .ok (.fraction (-a))
  | .symbolic re im => .ok (.symbolic (-re) (-im))
  | .double bits _ => .ok (.ofDouble (BinaryFormat.double.negate bits))
  | .single bits _ => .ok (.single (BinaryFormat.single.negate bits) none)
  | .doublePair re im _ =>
    .ok (.doublePair (BinaryFormat.double.negate re) (BinaryFormat.double.negate im) none)
  | .flag _ => .error (.operand .noFlagNegative)
  | .symbolicMatrix m n cells => .ok (.symbolicMatrix m n (cells.map fun z => (-z.1, -z.2)))
  | v => .error (.operand (.unsigned "-" v.fullTypeName))

/-- A single value itself, if it has a sign. -/
def positivePlain : Operand → Except Error Operand
  | .bool b => .ok (.int (if b then 1 else 0))
  | .flag _ => .error (.operand .noFlagPositive)
  | .quantity q => .ok (.quantity q)
  | v =>
    if v.extended?.isSome then .ok v
    else
      match v with
      | .symbolic .. | .doublePair .. => .ok v
      | v => .error (.operand (.unsigned "+" v.fullTypeName))

/-- The double nearest to the distance of two doubles taken as a point of the plane. -/
def planeDistance (re im : Nat) : Nat :=
  let x := (BinaryFormat.double.decode re).toExtended
  let y := (BinaryFormat.double.decode im).toExtended
  match x, y with
  | .infinite _, _ | _, .infinite _ => BinaryFormat.double.infinity false
  | .finite a, .finite b => BinaryFormat.double.nearestRoot (a * a + b * b)
  | _, _ => BinaryFormat.double.undefinedBits

/-- The distance of an exact complex number from zero, if it is rational. -/
def exactDistance? (re im : Rational) : Option Rational :=
  let square := re * re + im * im
  let root := Rational.reduce (Nat.sqrt square.num.natAbs) (max 1 (Nat.sqrt square.den))
    (Nat.le_max_left ..)
  if root * root = square then some root else none

/-- The distance of a single value from zero. -/
def magnitudePlain (v : Operand) : Except Error Operand :=
  let refused : Error := .operand (.noMagnitude v.fullTypeName)
  match v with
  | .quantity (.rational a) => .ok (.quantity (.rational a.abs))
  | .bool b => .ok (.int (if b then 1 else 0))
  | .int n => .ok (.int n.natAbs)
  | .wordInt n => .ok (wrapped n.natAbs)
  | .fraction a => .ok (.fraction a.abs)
  | .flag b => .ok (.flag b)
  | .double bits _ => .ok (.ofDouble (BinaryFormat.double.unsigned bits))
  | .single bits _ => .ok (.single (BinaryFormat.single.unsigned bits) none)
  | .doublePair re im _ => .ok (.ofDouble (planeDistance re im))
  | .symbolic re im => do return .symbolic (← orFail refused (exactDistance? re im)) 0
  | .symbolicMatrix m n cells => do
    let distances ← cells.mapM fun z => orFail refused (exactDistance? z.1 z.2)
    return .symbolicMatrix m n (distances.map (·, 0))
  | _ => .error refused

/-- An operation on the elements of an array, or on a single value. -/
def eachElement (f : Operand → Except Error Operand) : Operand → Except Error Operand
  | .array t shape elements _ => do return .array t shape (← elements.mapM f) none
  | v => f v

/-- The negative of a value. -/
def negative : Operand → Except Error Operand := eachElement negativePlain

/-- The value itself, if it has a sign. -/
def positive : Operand → Except Error Operand := eachElement positivePlain

/-- The distance of a value from zero. -/
def magnitude : Operand → Except Error Operand
  | .array .doublePair shape elements _ => do
    return .array .double shape (← elements.mapM magnitudePlain) none
  | v => eachElement magnitudePlain v

end Operand

end ExactAlgebra
