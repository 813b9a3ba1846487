import ExactAlgebra.Number.Reader
import ExactAlgebra.Operand

/-!
# Operands as numbers

What an operand amounts to where a number is expected. A text stands for the number that it is the text
of. Integers, fractions and exact symbolic numbers stand for themselves; a float for the close rational
number with a small denominator; a truth value for no number at all, except that the truth values of
arrays count as one and zero.

Foreign real numbers also have an exact value, which is what they are compared by.

## Main definitions

* `Operand.toRational`, `Operand.toQuantity`: numbers.
* `Operand.toInteger?`, `Operand.toComponent`, `Operand.toExponent`: integers.
* `Operand.extended?`: the exact value of a foreign number.
* `Operand.unboxed`: the plain value in a number of an array.
* `Rational.ofOperands`, `Gaussian.ofOperands`: numbers from their parts.
-/

namespace ExactAlgebra

/-- Values of the type can be turned into floats. -/
def ElementType.makesFloats : ElementType → Bool
  | .object | .singlePair | .doublePair => false
  | _ => true

namespace Operand

/-! ## Integers -/

/-- The integer that a value is, for values that count as integers. Truth values do not. -/
def toInteger? : Operand → Option Int
  | .int n => some n
  | .wordInt n => some n
  | .symbolic re im => if im = 0 then re.toInt? else none
  | _ => none

/-- The integer that a value is, as a term of a fraction. -/
def toComponent (v : Operand) : Except Error Int :=
  orFail (.operand (.notComponent v.typeName)) v.toInteger?

/-- The integer that a value is, as an exponent. -/
def toExponent (v : Operand) : Except Error Int :=
  orFail (.operand (.notExponent v.typeName)) v.toInteger?

/-! ## Quantities -/

/-- The rational number that a value stands for. -/
def toRational : Operand → Except Error Rational
  | .quantity (.rational a) => .ok a
  | .text s => Rational.read s.toList
  | .int n => .ok (.ofInt n)
  | .wordInt n => .ok (.ofInt n)
  | .fraction a => .ok a
  | .symbolic re im =>
    if im.isZero then .ok re else .error (.operand (.nonRealNumber .double))
  | .double bits _ => Rational.ofFloat (BinaryFormat.double.decode bits)
  | .single bits _ => Rational.ofFloat (BinaryFormat.single.decode bits)
  | .flag b => .ok (.ofInt (if b then 1 else 0))
  | .array .. => .error (.operand .notScalar)
  | .elementType t =>
    if t.makesFloats then .error (.operand (.notNumber .double "type"))
    else .error (.operand (.notRational "type"))
  | v => .error (.operand (.notRational v.typeName))

/-- The quantity that a value stands for. A text may have an imaginary part. -/
def toQuantity : Operand → Except Error Quantity
  | .quantity q => .ok q
  | .text s => Quantity.read s.toList
  | v => v.toRational.map .rational

/-- The real number that a value stands for; a complex number must have no imaginary part. -/
def toReal : Operand → Except Error Rational
  | .quantity (.complex z) => z.toRational
  | v => v.toRational

/-! ## Exact values -/

/-- The exact value of a foreign real number. -/
def extended? : Operand → Option Extended
  | .bool b => some (.finite (.ofInt (if b then 1 else 0)))
  | .flag b => some (.finite (.ofInt (if b then 1 else 0)))
  | .int n => some (.finite (.ofInt n))
  | .wordInt n => some (.finite (.ofInt n))
  | .fraction a => some (.finite a)
  | .symbolic re im => if im.isZero then some (.finite re) else none
  | .double bits _ => some (BinaryFormat.double.decode bits).toExtended
  | .single bits _ => some (BinaryFormat.single.decode bits).toExtended
  | _ => none

/-- The double that is what a float of single precision is. -/
def widened (bits : Nat) : Nat := BinaryFormat.single.convert .double bits

/-- The plain value in a number of an array; any other value as it is. -/
def unboxed : Operand → Operand
  | .wordInt n => .int n
  | .single bits mark => .double (widened bits) mark
  | .flag b => .bool b
  | v => v

/-- The name of the type of a value where numbers of arrays count as plain values. -/
def plainTypeName (v : Operand) : String := v.unboxed.fullTypeName

@[simp] theorem toQuantity_quantity (q : Quantity) : (quantity q).toQuantity = .ok q := rfl

@[simp] theorem toQuantity_int (n : Int) : (int n).toQuantity = .ok (.rational (.ofInt n)) := rfl

@[simp] theorem toQuantity_fraction (a : Rational) :
    (fraction a).toQuantity = .ok (.rational a) := rfl

end Operand

/-- The fraction of two integers. -/
def Rational.ofOperands (n d : Operand) : Except Error Rational := do
  let n ← n.toComponent
  let d ← d.toComponent
  Rational.ofInts n d

/-- The complex number with the given parts. -/
def Gaussian.ofOperands (re im : Operand) : Except Error Gaussian := do
  let re ← re.toRational
  let im ← im.toRational
  return ⟨re, im⟩

end ExactAlgebra
