import ExactAlgebra.Expression.Basic
import ExactAlgebra.Expression.Operation
import ExactAlgebra.Matrix.Basic

/-!
# Operands

The arguments of an operation as they come from a caller: quantities and matrices of this library, and
foreign values, of which some stand for a quantity and others do not. Operations that take operands
find out what they were given; a foreign value is known by the name of its type, which messages use.

Two values that hold the same may still be two objects. Where that makes a difference a value carries a
mark: values with the same mark are one object, and a value without a mark is an object of its own.

## Main definitions

* `ElementType`: what the elements of an array are.
* `Mark`: which object a value is.
* `Operand`: the values that may be passed.
* `Operand.typeName`, `Operand.fullTypeName`: the name of the type of a value.
* `Operand.subject`: what a value is called where something is asked of it.
* `Operand.identical`: two values are one object.
-/

namespace ExactAlgebra

/-- What the elements of an array are. -/
inductive ElementType where
  /-- Any values. -/
  | object
  /-- Truth values. -/
  | flag
  /-- Integers of so many bits, with a sign or without. -/
  | integer (width : Nat) (signed : Bool)
  /-- Floats of half precision. -/
  | half
  /-- Floats of single precision. -/
  | single
  /-- Floats of double precision. -/
  | double
  /-- Pairs of floats of single precision. -/
  | singlePair
  /-- Pairs of floats of double precision. -/
  | doublePair
  deriving DecidableEq, Repr

/-- The type is one of all values, not one of arrays alone. -/
def ElementType.isBuiltIn : ElementType → Bool
  | .object | .flag | .double | .doublePair => true
  | .integer .. | .half | .single | .singlePair => false

/-- The name of the class that a type of elements is. -/
def ElementType.className : ElementType → String
  | .object => "object"
  | .flag => "bool"
  | .integer width signed =>
    "numpy." ++ (if signed then "int" else "uint") ++ String.ofList (Nat.toDigits 10 width)
  | .half => "numpy.float16"
  | .single => "numpy.float32"
  | .double => "float"
  | .singlePair => "numpy.complex64"
  | .doublePair => "complex"

/-- Which object a value is, if that is known. -/
abbrev Mark := Option Nat

/-- A value that a caller may pass. -/
inductive Operand where
  /-- No value. -/
  | nothing
  /-- A truth value. -/
  | bool (b : Bool)
  /-- An integer. -/
  | int (n : Int)
  /-- An integer of 64 bits, as arrays hold it. -/
  | wordInt (n : Int)
  /-- A text. -/
  | text (s : String)
  /-- A list of values. -/
  | list (xs : List Operand) (mark : Mark)
  /-- A fixed sequence of values. -/
  | tuple (xs : List Operand)
  /-- A number of this library. -/
  | quantity (q : Quantity)
  /-- A fraction of another library. -/
  | fraction (a : Rational)
  /-- An exact number of an algebra system, by its real and imaginary parts. -/
  | symbolic (re im : Rational)
  /-- A float of double precision, by its bits. -/
  | double (bits : Nat) (mark : Mark)
  /-- A float of single precision, by its bits, as arrays hold it. -/
  | single (bits : Nat) (mark : Mark)
  /-- A truth value, as arrays hold it. -/
  | flag (b : Bool)
  /-- A complex number whose parts are doubles, by their bits. -/
  | doublePair (re im : Nat) (mark : Mark)
  /-- A kind of number. -/
  | kind (k : NumberKind)
  /-- An operation. -/
  | operation (o : Operation)
  /-- A type of array elements. -/
  | elementType (t : ElementType)
  /-- A matrix of this library. -/
  | matrix (m : Matrix) (mark : Mark)
  /-- An expression of this library. -/
  | expression (e : Expression) (mark : Mark)
  /-- An array: its shape, and its elements in the order of their indices, the last index running
  first. -/
  | array (t : ElementType) (shape : List Nat) (elements : List Operand) (mark : Mark)
  /-- A matrix of an algebra system: its shape, and its cells row by row. -/
  | symbolicMatrix (rows columns : Nat) (cells : List (Rational × Rational))

namespace Operand

instance : Inhabited Operand := ⟨.nothing⟩

instance : Coe Int Operand := ⟨.int⟩

instance : Coe Quantity Operand := ⟨.quantity⟩

/-- A matrix that is an object of its own. -/
abbrev ofMatrix (m : Matrix) : Operand := .matrix m none

/-- A list that is an object of its own. -/
abbrev ofList (xs : List Operand) : Operand := .list xs none

/-- A double that is an object of its own. -/
abbrev ofDouble (bits : Nat) : Operand := .double bits none

/-! ## Types -/

/-- The name of the type of an exact number of an algebra system: some numbers have a type of their
own. -/
def symbolicTypeName (re im : Rational) : String :=
  if im ≠ 0 then (if re = 0 ∧ im ≠ 1 then "Mul" else if re = 0 then "ImaginaryUnit" else "Add")
  else if re.den = 2 ∧ re.num = 1 then "Half"
  else if re.den ≠ 1 then "Rational"
  else if re.num = 0 then "Zero"
  else if re.num = 1 then "One"
  else if re.num = -1 then "NegativeOne"
  else "Integer"

/-- The name of the type of a value, without the library that the type is from. -/
def typeName : Operand → String
  | .nothing => "NoneType"
  | .bool _ => "bool"
  | .int _ => "int"
  | .wordInt _ => "int64"
  | .text _ => "str"
  | .list .. => "list"
  | .tuple _ => "tuple"
  | .quantity (.rational _) => "Rational"
  | .quantity (.complex _) => "Complex"
  | .fraction _ => "Fraction"
  | .symbolic re im => symbolicTypeName re im
  | .double .. => "float"
  | .single .. => "float32"
  | .flag _ => "bool"
  | .doublePair .. => "complex"
  | .kind _ => "NumberKind"
  | .operation _ => "Operation"
  | .elementType _ => "type"
  | .matrix m _ => m.form.name
  | .expression .. => "Expression"
  | .array .. => "ndarray"
  | .symbolicMatrix .. => "MutableDenseMatrix"

/-- The value is an array, or a number as arrays hold it. -/
def isFromArrays : Operand → Bool
  | .wordInt _ | .single .. | .flag _ | .array .. => true
  | _ => false

/-- The name of the type of a value; arrays and their numbers are named with their library. -/
def fullTypeName (v : Operand) : String :=
  if v.isFromArrays then "numpy." ++ v.typeName else v.typeName

/-- What a value is called where something is asked of it that it does not have. -/
def subject : Operand → String
  | .elementType t => "type object '" ++ t.className ++ "'"
  | v => "'" ++ v.fullTypeName ++ "' object"

/-- The value is a single number as arrays hold it. -/
def isBoxed : Operand → Bool
  | .wordInt _ | .single .. | .flag _ => true
  | _ => false

/-- The value is a quantity. -/
def isQuantity : Operand → Bool
  | .quantity _ => true
  | _ => false

/-! ## Objects -/

/-- Which object a value is. -/
def mark : Operand → Mark
  | .list _ mark | .double _ mark | .single _ mark | .doublePair _ _ mark | .matrix _ mark
  | .expression _ mark | .array _ _ _ mark => mark
  | _ => none

/-- The two values are known to be one object. -/
def identical (a b : Operand) : Bool :=
  match a.mark, b.mark with
  | some i, some j => i == j
  | _, _ => false

end Operand

end ExactAlgebra
