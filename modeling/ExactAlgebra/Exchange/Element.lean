import ExactAlgebra.Exchange.Scalar
import ExactAlgebra.Operand.Equality

/-!
# Elements of arrays and numbers of other libraries

What becomes of a value that goes into an array, and of an element that comes out of one. An array of
objects leaves values alone. All other arrays hold numbers of one type, and a value becomes one on its
way in. Plain values are converted as values are anywhere; the numbers of other arrays are taken over bit
by bit, so that one of them may end up as an integer that has nothing to do with it.

An element that comes into this library is a quantity by itself, or becomes one: two doubles a complex
number, which is narrowed if it is real, and everything else a rational one.

## Main definitions

* `ElementType.store`: a value on its way into an array.
* `Operand.toCell`: an element as a quantity.
* `Operand.toFraction`, `Operand.toSymbolicRational`, `Operand.toSymbolicNumber`: numbers of other
  libraries.
-/

namespace ExactAlgebra

/-- The integer of so many bits that is left of an integer. -/
def wrapTo (width : Nat) (signed : Bool) (n : Int) : Int :=
  if signed then n.bmod (Nat.pow 2 width) else n % Nat.pow 2 width

/-- The integer that machine words hold on the way to an element of so many bits. -/
def wordOfInt (width : Nat) (signed : Bool) (n : Int) : Except Error Int :=
  let top : Int := if !signed && 32 ≤ width then Nat.pow 2 64 else Nat.pow 2 63
  if -Nat.pow 2 63 ≤ n ∧ n < top then .ok (wrapTo width signed n) else .error (.arithmetic .beyondWords)

/-- The double that is a float of lower precision near to a double. -/
def narrowed (f : BinaryFormat) (bits : Nat) : Nat :=
  f.convert .double (BinaryFormat.double.convert f bits)

namespace Operand

/-- The value is a sequence to an array. -/
def isNested : Operand → Bool
  | .list .. | .tuple _ | .array .. | .symbolicMatrix .. => true
  | _ => false

/-- A sequence that does not become an element is reported as one. -/
def element {α : Type} (v : Operand) (converted : Except Error α) : Except Error α :=
  if v.isNested then converted.mapError fun _ => .array .sequenceElement else converted

/-- The integer that a value becomes as an element. A float of an array that has no integer part within
64 bits becomes the least integer. -/
def elementInteger : Operand → Except Error Int
  | .single bits _ =>
    match (BinaryFormat.single.decode bits).toRational? with
    | some a => .ok
      (if -Nat.pow 2 63 ≤ a.truncate ∧ a.truncate < Nat.pow 2 63 then a.truncate else -Nat.pow 2 63)
    | none => .ok (-Nat.pow 2 63)
  | v => v.truncated

/-- The bits of the double that a value becomes as an element. Nothing is the undefined float. -/
def elementDouble : Operand → Except Error Nat
  | .nothing => .ok BinaryFormat.double.undefinedBits
  | v => v.doubleBits

/-- The bits of the float of single precision that a value becomes as an element. -/
def elementSingle : Operand → Except Error Nat
  | .single bits _ => .ok bits
  | .wordInt n => .ok (singleOfInt n)
  | v => v.elementDouble.map (BinaryFormat.double.convert .single)

/-- The bits of the pair that a value becomes as an element. Nothing is twice the undefined float. -/
def elementPair : Operand → Except Error (Nat × Nat)
  | .nothing => .ok (BinaryFormat.double.undefinedBits, BinaryFormat.double.undefinedBits)
  | v => v.pairBits .notReal

end Operand

/-- A value as an element of an array. -/
def ElementType.store (t : ElementType) (v : Operand) : Except Error Operand :=
  match t with
  | .object => .ok v
  | .flag => do return .flag (← v.element v.truthy)
  | .integer width signed => do
    return .wordInt (← wordOfInt width signed (← v.element v.elementInteger))
  | .half => do return .ofDouble (narrowed .half (← v.element v.elementDouble))
  | .single => do return .single (← v.element v.elementSingle) none
  | .double => do return .ofDouble (← v.element v.elementDouble)
  | .singlePair => do
    let (re, im) ← v.elementPair
    return .doublePair (narrowed .single re) (narrowed .single im) none
  | .doublePair => do
    let (re, im) ← v.elementPair
    return .doublePair re im none

namespace Operand

/-- The quantity that an element is. -/
def toCell : Operand → Except Error Quantity
  | .quantity q => .ok q
  | .doublePair re im _ => do
    let re ← Rational.ofFloat (BinaryFormat.double.decode re)
    let im ← Rational.ofFloat (BinaryFormat.double.decode im)
    return Quantity.demote (.complex ⟨re, im⟩)
  | v => v.toRational.map .rational

/-- A real value as a fraction of another library. -/
def toFraction (v : Operand) : Except Error Operand :=
  v.toReal.map .fraction

/-- A real value as a number of an algebra system. -/
def toSymbolicRational (v : Operand) : Except Error Operand :=
  v.toReal.map fun a => .symbolic a 0

/-- A value as a number of an algebra system. -/
def toSymbolicNumber : Operand → Except Error Operand
  | .quantity (.complex z) => .ok (.symbolic z.re z.im)
  | v => v.toSymbolicRational

end Operand

end ExactAlgebra
