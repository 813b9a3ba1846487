import ExactAlgebra.Number.FloatArithmetic
import ExactAlgebra.Number.Literal
import ExactAlgebra.Operand.Conversion

/-!
# Values as foreign numbers

What a value becomes as an integer, as a double, or as a pair of doubles. A text is read as a literal, a
quantity becomes the nearest foreign number, and a foreign number is converted to the other kind. What
cannot be told apart from an infinity after rounding is one only for numbers of an algebra system; for
all others it is an error.

## Main definitions

* `Operand.truncated`: the integer part of a value.
* `Operand.doubleBits`, `Operand.toDouble`: the double that a value becomes.
* `Operand.pairBits`, `Operand.toDoublePair`: the pair of doubles that a value becomes.
* `Operand.toDoublePairWith`: the pair of doubles with given parts.
-/

namespace ExactAlgebra

/-- A format with the significands of doubles and far more exponents. -/
def BinaryFormat.wide : BinaryFormat := ⟨52, 40⟩

/-- The bits of the double that an exact number of an algebra system becomes. The number is rounded to
the significand of a double first and to the range of doubles second. -/
def Rational.symbolicDouble (a : Rational) : Nat :=
  match BinaryFormat.wide.nearest? a.num a.den with
  | some bits => BinaryFormat.double.ofValue (BinaryFormat.wide.decode bits)
  | none => BinaryFormat.double.infinity (a.num < 0)

namespace Operand

/-- The integer part of a value. -/
def truncated (v : Operand) : Except Error Int :=
  match v, v.extended? with
  | .text s, _ => Literal.integer s
  | .quantity (.rational a), _ => .ok a.truncate
  | .symbolic .., none => .error (.operand (.nonRealNumber .integer))
  | .array .., _ => .error (.operand .notScalar)
  | _, some (.finite a) => .ok a.truncate
  | _, some x => .error (.numeral (.noIntegerPart x))
  | v, none => .error (.operand (.notNumber .integer v.fullTypeName))

/-- The bits of the double that a value becomes. -/
def doubleBits (v : Operand) : Except Error Nat :=
  match v, v.extended? with
  | .text s, _ => Literal.float s
  | .quantity (.rational a), _ => a.toDouble
  | .int n, _ => orFail (.arithmetic .integerBeyondDoubles) (BinaryFormat.double.nearest? n 1)
  | .fraction a, _ => a.toDouble
  | .double bits _, _ => .ok bits
  | .single bits _, _ => .ok (widened bits)
  | .symbolic .., none => .error (.operand (.nonRealNumber .double))
  | .array .., _ => .error (.operand .notScalar)
  | _, some (.finite a) => .ok a.symbolicDouble
  | v, _ => .error (.operand (.notNumber .double v.fullTypeName))

/-- The double that a value becomes. A double stays the object that it is. -/
def toDouble : Operand → Except Error Operand
  | .double bits mark => .ok (.double bits mark)
  | v => v.doubleBits.map ofDouble

/-- The bits of the pair of doubles that a value becomes. `refusal` is the fault of a value that becomes
none. -/
def pairBits (refusal : String → OperandFault) (v : Operand) : Except Error (Nat × Nat) :=
  match v with
  | .text s => Literal.floatPair s
  | .doublePair re im _ => .ok (re, im)
  | .quantity (.rational a) => do return (← a.toDouble, 0)
  | .quantity (.complex z) => do return (← z.re.toDouble, ← z.im.toDouble)
  | .symbolic re im => .ok (re.symbolicDouble, im.symbolicDouble)
  | .array .. => .error (.operand .notScalar)
  | v =>
    if v.extended?.isSome then do return (← v.doubleBits, 0)
    else .error (.operand (refusal v.fullTypeName))

/-- The pair of doubles that a value becomes. A pair stays the object that it is. -/
def toDoublePair : Operand → Except Error Operand
  | .doublePair re im mark => .ok (.doublePair re im mark)
  | v => do
    let (re, im) ← v.pairBits (.notNumber .doublePair)
    return .doublePair re im none

/-- The value has a double, or is a pair of doubles. -/
def hasDouble : Operand → Bool
  | .array .. | .quantity (.rational _) | .doublePair .. | .symbolic .. => true
  | v => v.extended?.isSome

/-- The bits of a part of a pair; a part that is a pair has an imaginary part as well. -/
def partBits : Operand → Except Error (Nat × Option Nat)
  | .doublePair re im _ => .ok (re, some im)
  | .quantity (.complex z) => do return (← z.re.toDouble, some (← z.im.toDouble))
  | .fraction a => do return (← a.toDouble, some 0)
  | v => do return (← v.doubleBits, none)

/-- The pair of doubles with the given parts. The imaginary part of a part that is a pair is added where it
belongs. -/
def toDoublePairWith (re im : Operand) : Except Error Operand := do
  match re, im with
  | .text _, _ => throw (.operand .textBeforePart)
  | _, .text _ => throw (.operand .textAsPart)
  | _, _ =>
    let isPair := match re with
      | .quantity (.complex _) => true
      | _ => false
    unless isPair || re.hasDouble do
      throw (.operand (.notNumber .doublePair re.fullTypeName))
    unless im.hasDouble do throw (.operand (.notImaginary im.fullTypeName))
    let (a, b?) ← match re with
      | .symbolic p q => pure (p.symbolicDouble, some q.symbolicDouble)
      | re => re.partBits
    let (c, d?) ← im.partBits
    let f := BinaryFormat.double
    return .doublePair ((d?.map (f.subtract a)).getD a) ((b?.map (f.add c)).getD c) none

end Operand

end ExactAlgebra
