import ExactAlgebra.Logged
import ExactAlgebra.Operand.Text

/-!
# Wording

What the causes of an error and the events of a report say. Each wording is a function of the cause.

## Main definitions

* `Error.message`: the wording of an error.
* `Event.message`: the wording of an event.
-/

namespace ExactAlgebra

namespace Wording

/-- A natural number in decimal. -/
def decimal (n : Nat) : String := String.ofList (Nat.toDigits 10 n)

/-- A value as it is shown in messages. -/
def shown (v : Operand) : String := String.ofList v.inMessage

/-- A shape, as in `2x3`. -/
def shape (rows columns : Nat) : String := decimal rows ++ "x" ++ decimal columns

/-- The lengths of an array along its dimensions. -/
def dimensions (ns : List Nat) : String :=
  shown (.tuple (ns.map fun (n : Nat) => .int n))

/-- The lengths of an array along its dimensions, without spaces. -/
def closeDimensions (ns : List Nat) : String :=
  String.ofList ((dimensions ns).toList.filter (· != ' '))

/-- A float as it is shown in messages. -/
def floatText (x : FloatValue) : String :=
  String.ofList (Shortest.text .double x)

/-- A byte in hexadecimal. -/
def byteText (byte : Nat) : String :=
  "0x" ++ String.ofList (Text.hex 2 byte)

end Wording

open Wording

/-- What is said of a zero in foreign arithmetic. -/
def ForeignDivision.message : ForeignDivision → String
  | .integers => "division by zero"
  | .doubles => "float division by zero"
  | .pairs => "complex division by zero"
  | .powers => "0.0 cannot be raised to a negative power"
  | .fractions n => "Fraction(" ++ shown (.int n) ++ ", 0)"

namespace ArithmeticFault

/-- The wording of an arithmetic fault. -/
def message : ArithmeticFault → String
  | .divisionByZero => "Cannot divide by zero"
  | .zeroDenominator => "Denominator is zero"
  | .nonReal value => toString value ++ " is non-real"
  | .notWhole value => toString value ++ " is not an integer"
  | .beyondDoubles => "integer division result too large for a float"
  | .integerBeyondDoubles => "int too large to convert to float"
  | .beyondWords => "Python int too large to convert to C long"
  | .powerBeyondDoubles => "(34, 'Numerical result out of range')"
  | .foreignZero division => division.message
  | .narrowing target => "Cannot promote a complex value to " ++ target

end ArithmeticFault

namespace NumeralFault

/-- The wording of a fault in the text of a number. -/
def message : NumeralFault → String
  | .fraction text => "Invalid fraction format: " ++ Text.quote text
  | .complex text => "Invalid complex format: " ++ Text.quote text
  | .absent target => "Cannot parse None as " ++ target
  | .notFinite value => "Cannot convert " ++ floatText value ++ " to Rational"
  | .operator text => "Input must be a single operator, got " ++ Text.quote text
  | .integerLiteral text =>
    "invalid literal for int() with base 10: " ++ String.ofList ((Text.quoted text.toList).take 200)
  | .floatLiteral text => "could not convert string to float: " ++ Text.quote text
  | .groupedLiteral text => "could not convert string to complex: " ++ Text.quote text
  | .complexLiteral => "complex() arg is a malformed string"
  | .noIntegerPart (.infinite _) => "cannot convert float infinity to integer"
  | .noIntegerPart _ => "cannot convert float NaN to integer"

end NumeralFault

/-- What a value has to be to become a foreign number. -/
def ForeignNumber.requirement : ForeignNumber → String
  | .integer => "int() argument must be a string, a bytes-like object or a real number"
  | .double => "float() argument must be a string or a real number"
  | .doublePair => "complex() first argument must be a string or a number"

/-- The name of a kind of foreign number. -/
def ForeignNumber.name : ForeignNumber → String
  | .integer => "int"
  | .double => "float"
  | .doublePair => "complex"

namespace OperandFault

/-- The wording of a fault in the type of an operand. -/
def message : OperandFault → String
  | .notRational type => "Cannot convert " ++ type ++ " to Rational"
  | .notComponent type => "Rational components must be integers, got " ++ type
  | .notExponent type => "Exponent must be an integer, got " ++ type
  | .unsupported symbol left right =>
    "unsupported operand type(s) for " ++ symbol ++ ": '" ++ left ++ "' and '" ++ right ++ "'"
  | .unappendable left right =>
    "can only concatenate " ++ left ++ " (not \"" ++ right ++ "\") to " ++ left
  | .notRepetition type => "can't multiply sequence by non-int of type '" ++ type ++ "'"
  | .nonRealOrder shown => "Invalid comparison of non-real " ++ shown
  | .undefinedOrder => "Invalid NaN comparison"
  | .truthOrder =>
    "A Boolean argument can only be used in Eq and Ne; all other relationals expect real expressions."
  | .unordered symbol left right =>
    "'" ++ symbol ++ "' not supported between instances of '" ++ left ++ "' and '" ++ right ++ "'"
  | .unsigned symbol type => "bad operand type for unary " ++ symbol ++ ": '" ++ type ++ "'"
  | .noFlagNegative =>
    "The numpy boolean negative, the `-` operator, is not supported, use the `~` operator or the " ++
      "logical_not function instead."
  | .noFlagPositive =>
    "ufunc 'positive' did not contain a loop with signature matching types " ++
      "<class 'numpy.dtypes.BoolDType'> -> None"
  | .noMagnitude type => "bad operand type for abs(): '" ++ type ++ "'"
  | .unhashable type => "unhashable type: '" ++ type ++ "'"
  | .notSparse type => "Expected a scipy sparse matrix, got " ++ type
  | .notExact shown => "Cannot convert " ++ shown ++ " to an exact rational"
  | .noLength type => "object of type '" ++ type ++ "' has no len()"
  | .notSubscriptable type => "'" ++ type ++ "' object is not subscriptable"
  | .typeNotSubscriptable type => "type '" ++ type ++ "' is not subscriptable"
  | .noTypeVariables type => "There are no type variables left in " ++ type
  | .numberNotSubscriptable => "invalid index to scalar variable."
  | .notIterable type => "'" ++ type ++ "' object is not iterable"
  | .noMembers type => "argument of type '" ++ type ++ "' is not iterable"
  | .notPartOfText type => "'in <string>' requires string as left operand, not " ++ type
  | .notIndex type => "list indices must be integers or slices, not " ++ type
  | .arrayNotIndex => "only integer scalar arrays can be converted to a scalar index"
  | .notScalar => "only 0-dimensional arrays can be converted to Python scalars"
  | .notNumber target type => target.requirement ++ ", not '" ++ type ++ "'"
  | .notImaginary type => "complex() second argument must be a number, not '" ++ type ++ "'"
  | .textBeforePart => "complex() can't take second arg if first is a string"
  | .textAsPart => "complex() second arg can't be a string"
  | .notReal type => "must be real number, not " ++ type
  | .nonRealNumber target => "Cannot convert complex to " ++ target.name
  | .notElementType shown => "Cannot interpret '" ++ shown ++ "' as a data type"
  | .unknownElementType name => "data type " ++ Text.quote name ++ " not understood"
  | .notShape shown =>
    "expected a sequence of integers or a single integer, got '" ++ shown ++ "'"
  | .notReplaceable => "first argument to replace() must be a type, an expression or a callable"
  | .noMultiplier => "multiplier must not be None"
  | .noAttribute subject name => subject ++ " has no attribute '" ++ name ++ "'"

end OperandFault

namespace ShapeFault

/-- The wording of a fault in a shape, an index or the right to change a matrix. -/
def message : ShapeFault → String
  | .illegalDimension given => "Illegal dimension: " ++ shown given
  | .notSquare rows columns => shape rows columns ++ " matrix is not square"
  | .dimensionCount found =>
    "Expected a 2-dimensional array but got " ++ decimal found ++ " dimensions"
  | .emptyShape ns => "Cannot build a matrix of shape " ++ dimensions ns
  | .rowCount expected found =>
    "Expected " ++ decimal expected ++ " rows but found " ++ decimal found
  | .rowLength => "Row length does not equal amount of columns"
  | .columnLength => "Column length does not equal amount of rows"
  | .vectorLength => "Vector dimensions are not equal"
  | .unequal left right => shape left.1 left.2 ++ " not equal to " ++ shape right.1 right.2
  | .multiplierRows needed found =>
    "Multiplier must have " ++ decimal needed ++ " rows but has " ++ decimal found
  | .rowIndex index count =>
    "Row index " ++ shown index ++ " out of range for " ++ decimal count ++ " rows"
  | .columnIndex index count =>
    "Column index " ++ shown index ++ " out of range for " ++ decimal count ++ " columns"
  | .readOnly form attempt => form.name ++ " is read-only, cannot " ++ attempt

end ShapeFault

/-- The types of elements that sparse matrices hold. -/
def sparseElements : List String :=
  ["bool", "int8", "uint8", "int16", "uint16", "int32", "uint32", "int64", "uint64", "longlong",
    "ulonglong", "float32", "float64", "longdouble", "complex64", "complex128", "clongdouble"]

namespace ArrayFault

/-- The wording of a fault in the use of an array. -/
def message : ArrayFault → String
  | .ambiguousTruth =>
    "The truth value of an array with more than one element is ambiguous. Use a.any() or a.all()"
  | .unequalShapes left right =>
    "operands could not be broadcast together with shapes " ++ closeDimensions left ++ " " ++
      closeDimensions right ++ " "
  | .noDimensions operand =>
    "matmul: Input operand " ++ decimal operand ++ " does not have enough dimensions (has 0, gufunc " ++
      "core with signature (n?,k),(k,m?)->(n?,m?) requires 1)"
  | .productLength row column =>
    "matmul: Input operand 1 has a mismatch in its core dimension 0, with gufunc signature " ++
      "(n?,k),(k,m?)->(n?,m?) (size " ++ decimal column ++ " is different from " ++ decimal row ++ ")"
  | .negativePower => "Integers to negative integer powers are not allowed."
  | .sequenceElement => "setting an array element with a sequence."
  | .unfitElement => "Error setting single item of array."
  | .unfilled size ns =>
    "cannot reshape array of size " ++ decimal size ++ " into shape " ++ closeDimensions ns
  | .cellCount => "List length should be equal to rows*columns"
  | .axisIndex axis index count =>
    "axis " ++ decimal axis ++ " index " ++ shown (.int index) ++ " exceeds matrix dimension " ++
      decimal count
  | .negativeAxisIndex axis index => "negative axis " ++ decimal axis ++ " index: " ++ shown (.int index)
  | .notSparseElement type =>
    "scipy.sparse does not support dtype " ++ type ++ ". The only supported types are: " ++
      ", ".intercalate sparseElements ++ "."

end ArrayFault

namespace ReadingFault

/-- The wording of a fault in the text of a matrix. -/
def message : ReadingFault → String
  | .noText => "Cannot read a matrix from None"
  | .expected delimiter none =>
    "Expected " ++ Text.quote (String.singleton delimiter) ++ " but received nothing"
  | .expected delimiter (some c) =>
    "Expected " ++ Text.quote (String.singleton delimiter) ++ " but received " ++
      Text.quote (String.singleton c)
  | .emptyMatrix => "Empty matrix"
  | .emptyRow => "Empty row"
  | .value text => "Invalid value " ++ Text.quote text
  | .ragged index found length =>
    "Row " ++ decimal index ++ " has " ++ decimal found ++ " values, expected " ++ decimal length
  | .record number path => "Invalid value in line " ++ decimal number ++ " of " ++ path
  | .noMatrix path => path ++ " holds no matrix"
  | .corrupted path => path ++ " is not a valid matrix file or is corrupted"

end ReadingFault

namespace SyntaxFault

/-- The wording of a fault in an expression. -/
def message : SyntaxFault → String
  | .absent => "Expression cannot be None"
  | .empty => "Empty expression"
  | .unbalanced => "Unbalanced parentheses"
  | .misplacedOperator => "Invalid syntax"
  | .unexpectedCharacter c => "Unexpected character " ++ Text.quote (String.singleton c)
  | .trailing => "Unexpected trailing input"
  | .unclosed => "Missing closing parenthesis"
  | .noOperand => "Expected a number or '('"

end SyntaxFault

namespace FileFault

/-- The wording of a fault in a file. -/
def message : FileFault → String
  | .missing path => "[Errno 2] No such file or directory: " ++ Text.quote path
  | .unknownEncoding name => "unknown encoding: " ++ name
  | .undecodable fault =>
    let place :=
      if fault.stop = fault.start + 1 then
        "byte " ++ byteText fault.byte ++ " in position " ++ decimal fault.start
      else
        "bytes in position " ++ decimal fault.start ++ "-" ++ decimal (fault.stop - 1)
    "'" ++ fault.encoding ++ "' codec can't decode " ++ place ++ ": " ++ fault.reason
  | .unencodable fault =>
    let place :=
      if fault.stop = fault.start + 1 then
        "character '" ++ String.ofList (Text.codePoint fault.character) ++ "' in position " ++
          decimal fault.start
      else
        "characters in position " ++ decimal fault.start ++ "-" ++ decimal (fault.stop - 1)
    "'" ++ fault.encoding ++ "' codec can't encode " ++ place ++ ": ordinal not in range(" ++
      decimal fault.size ++ ")"
  | .noByteOrder => "UTF-16 stream does not start with BOM"

end FileFault

namespace Error

/-- The wording of an error. -/
def message : Error → String
  | .arithmetic fault => fault.message
  | .numeral fault => fault.message
  | .operand fault => fault.message
  | .shape fault => fault.message
  | .array fault => fault.message
  | .reading fault => fault.message
  | .expression (some text) fault => fault.message ++ ": " ++ Text.quote text
  | .expression none fault => fault.message ++ ": None"
  | .file fault => fault.message

end Error

namespace Event

/-- The wording of an event. -/
def message : Event → String
  | .evaluated text value => "Evaluated " ++ String.ofList text ++ " = " ++ toString value
  | .pivot found =>
    "Pivot for step " ++ decimal found.step ++ " at (" ++ decimal found.row ++ ", " ++
      decimal found.column ++ ")"
  | .uncorrectedSign swaps =>
    "Determinant computed after " ++ decimal swaps ++ " row swap(s) without sign correction"
  | .read rows columns => "Read " ++ shape rows columns ++ " matrix"
  | .saved rows columns path => "Saved " ++ shape rows columns ++ " matrix to " ++ path
  | .loaded path => "Loaded matrix from " ++ path
  | .wrote rows columns path => "Wrote " ++ shape rows columns ++ " matrix to " ++ path

end Event

end ExactAlgebra
