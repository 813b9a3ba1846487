import ExactAlgebra.Operand.Equality
import ExactAlgebra.Operand.SymbolicText

/-!
# Order of operands

Rational numbers are ordered among themselves and with integers and fractions. Complex numbers are not
ordered, nor are quantities of any kind and floats or truth values. Foreign real numbers are ordered by
value, texts by code points, and sequences by their first parts that are not the same. Numbers of an
algebra system are ordered as long as they are real, and see a rational number as the nearest double.

A pair of values that is not ordered is reported by the types of its values, and where a number of an
array had to answer for the second one, the other way round.

Sorting compares a later value with an earlier one, so a list whose values are not all comparable fails
with the first such pair that comes up: the values are first compared in order for as long as they run
up or down, and each further value is then placed by halving the part that is sorted already.

## Main definitions

* `Comparison`: the four order relations.
* `Operand.compare`: comparing two values, element by element between arrays.
* `Operand.sorted`: the values in increasing order, equal ones in the order they came in.
-/

namespace ExactAlgebra

/-- An order relation. -/
inductive Comparison where
  | less
  | lessOrEqual
  | greater
  | greaterOrEqual
  deriving DecidableEq, Repr

namespace Comparison

/-- The sign of the relation. -/
def symbol : Comparison → String
  | .less => "<"
  | .lessOrEqual => "<="
  | .greater => ">"
  | .greaterOrEqual => ">="

/-- The same relation seen from the other side. -/
def reversed : Comparison → Comparison
  | .less => .greater
  | .lessOrEqual => .greaterOrEqual
  | .greater => .less
  | .greaterOrEqual => .lessOrEqual

/-- The relation holds of two values that compare in the given way. -/
def holds : Comparison → Ordering → Bool
  | .less, o => o.isLT
  | .lessOrEqual, o => o.isLE
  | .greater, o => o.isGT
  | .greaterOrEqual, o => o.isGE

/-- The relation holds of two values, which may be in no order. -/
def holds? (r : Comparison) (o : Option Ordering) : Bool := o.any r.holds

end Comparison

namespace Operand

/-- Two values that are in no order. -/
def refuseOrder (r : Comparison) (a b : Operand) : Except Error Bool :=
  if b.isBoxed && !a.isBoxed then
    .error (.operand (.unordered r.reversed.symbol b.plainTypeName a.fullTypeName))
  else .error (.operand (.unordered r.symbol a.plainTypeName b.plainTypeName))

/-- The value of a number where an algebra system compares it with one of its own. -/
def besideSymbol? : Operand → Except Error (Option Extended)
  | .quantity (.rational a) => do
    return some (BinaryFormat.double.decode (← a.toDouble)).toExtended
  | .symbolic re im =>
    if im.isZero then .ok (some (.finite re))
    else .error (.operand (.nonRealOrder (String.ofList (symbolicText re im))))
  | .bool _ | .flag _ => .error (.operand .truthOrder)
  | v =>
    match v.extended? with
    | some .undefined => .error (.operand .undefinedOrder)
    | x => .ok x

/-- How numbers compare of which one belongs to an algebra system. -/
def compareSymbolic (r : Comparison) (a b : Operand) : Except Error Bool := do
  match ← a.besideSymbol?, ← b.besideSymbol? with
  | some x, some y => return r.holds? (x.ordering? y)
  | _, _ => refuseOrder r a b

/-- How two values compare of which one is a quantity. -/
def compareQuantity (r : Comparison) (a b : Operand) : Except Error Bool :=
  match a, b with
  | .symbolic .., .quantity (.rational _) => compareSymbolic r a b
  | .quantity (.rational p), .symbolic .. =>
    match b.comparable? with
    | some (.rational q) => .ok (r.holds (p.ordering q))
    | _ => compareSymbolic r a b
  | a, b =>
    match a.comparable?, b.comparable? with
    | some (.rational p), some (.rational q) => .ok (r.holds (p.ordering q))
    | _, _ => refuseOrder r a b

/-- Whether an order relation holds between two values that are neither sequences nor arrays. -/
def comparePlain (r : Comparison) (a b : Operand) : Except Error Bool :=
  match a, b with
  | .text s, .text t => .ok (r.holds (compareOfLessAndEq s t))
  | a, b =>
    if a.isQuantity || b.isQuantity then compareQuantity r a b
    else if a.isSymbolic && b.parts?.isSome || b.isSymbolic && a.parts?.isSome ||
        a.isSymbolic && b.isSymbolic then compareSymbolic r a b
    else
      match (meeting b a).extended?, (meeting a b).extended? with
      | some x, some y => .ok (r.holds? (x.ordering? y))
      | _, _ => refuseOrder r a b

/-- Whether an order relation holds between two values of which one is an array, element by element.
An array on the right answers for the relation seen from its side. -/
def compareElements (r : Comparison) (a b : Operand) : Except Error (List Nat × List Bool) :=
  if a.isArray then elementwise (comparePlain r) a b
  else elementwise (comparePlain r.reversed) b a

/-- The first parts of two sequences that are not the same, if there are any. -/
def firstDifference : List Operand → List Operand → Except Error (Option (Operand × Operand))
  | x :: xs, y :: ys => do
    if ← samePart x y then firstDifference xs ys
    else return some (x, y)
  | _, _ => .ok none

/-- Whether an order relation holds between two values. Between arrays this means that it holds between
their single elements. The number bounds how deep sequences are looked into. -/
def holdsWithin (r : Comparison) : (depth : Nat) → Operand → Operand → Except Error Bool
  | 0, a, b => comparePlain r a b
  | depth + 1, a, b =>
    let sequences (xs ys : List Operand) : Except Error Bool := do
      match ← firstDifference xs ys with
      | some (x, y) => holdsWithin r depth x y
      | none => return r.holds (compareOfLessAndEq xs.length ys.length)
    match a, b with
    | .list xs _, .list ys _ => sequences xs ys
    | .tuple xs, .tuple ys => sequences xs ys
    | a, b =>
      if a.isArray || b.isArray then do collapse (← compareElements r a b).2
      else comparePlain r a b

mutual

/-- How deep sequences are nested in a value. -/
def depth : Operand → Nat
  | .list xs _ => depths xs + 1
  | .tuple xs => depths xs + 1
  | _ => 0

/-- The greatest depth of some values. -/
def depths : List Operand → Nat
  | [] => 0
  | x :: xs => max (depth x) (depths xs)

end

/-- Whether an order relation holds between two values, taken as one truth value. -/
def isInOrder (r : Comparison) (a b : Operand) : Except Error Bool :=
  holdsWithin r (a.depth + 1) a b

/-- Whether an order relation holds between two values; between arrays an array of truth values. -/
def compare (r : Comparison) (a b : Operand) : Except Error Operand :=
  if a.isArray || b.isArray then do
    let (shape, results) ← compareElements r a b
    return .array .flag shape (results.map .flag) none
  else (isInOrder r a b).map .bool

/-! ## Sorting -/

/-- The first value is less than the second. -/
def less (a b : Operand) : Except Error Bool := isInOrder .less a b

/-- Takes values as long as they run up, or down if `down` is set; what was taken is returned in
increasing order, with the values after it. `taken` holds the values so far, the last one first. -/
def takeRun (down : Bool) (last : Operand) (taken : List Operand) :
    List Operand → Except Error (List Operand × List Operand)
  | [] => .ok (if down then taken else taken.reverse, [])
  | v :: vs => do
    if (← less v last) = down then takeRun down v (v :: taken) vs
    else .ok (if down then taken else taken.reverse, v :: vs)

/-- Places a value in a sorted list, after all values that are not greater. The place is found by
halving the list; `fuel` bounds the halvings. -/
def place (v : Operand) : (fuel : Nat) → List Operand → Except Error (List Operand)
  | 0, sorted => .ok (sorted ++ [v])
  | fuel + 1, sorted =>
    let half := sorted.length / 2
    match sorted.drop half with
    | [] => .ok [v]
    | pivot :: after => do
      if ← less v pivot then return (← place v fuel (sorted.take half)) ++ pivot :: after
      else return sorted.take half ++ pivot :: (← place v fuel after)

/-- Places values one after the other. -/
def placeAll (sorted : List Operand) : List Operand → Except Error (List Operand)
  | [] => .ok sorted
  | v :: vs => do placeAll (← place v sorted.length sorted) vs

/-- The values in increasing order. -/
def sorted : List Operand → Except Error (List Operand)
  | [] => .ok []
  | [v] => .ok [v]
  | v :: w :: vs => do
    let down ← less w v
    let (run, rest) ← takeRun down w [w, v] vs
    placeAll run rest

end Operand

end ExactAlgebra
