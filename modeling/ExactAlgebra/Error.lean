import ExactAlgebra.Number.Extended
import ExactAlgebra.Operand

/-!
# Errors

Why an operation refuses its operands. The causes are grouped by what is at fault: the arithmetic, the
text of a number, the type of an operand, a shape or an index, an array, the text of a matrix, an
expression, or a file. The wording of each cause is a function of the cause alone and lives in
`ExactAlgebra.Error.Message`.

## Main definitions

* `Error`: the groups together.
* `ForeignNumber`: kinds of foreign number.
* `ArithmeticFault`, `NumeralFault`, `OperandFault`, `ShapeFault`, `ArrayFault`, `ReadingFault`,
  `SyntaxFault`, `FileFault`: the causes of each group.
-/

namespace ExactAlgebra

/-- The foreign arithmetics, by what they divide. -/
inductive ForeignDivision where
  | integers
  | doubles
  | pairs
  /-- A double is raised to a negative power. -/
  | powers
  /-- The numerator over the zero that would be the result. -/
  | fractions (numerator : Int)

/-- Why arithmetic has no result. -/
inductive ArithmeticFault where
  /-- The divisor is zero, or has no quotients. -/
  | divisionByZero
  /-- The denominator of a fraction is zero. -/
  | zeroDenominator
  /-- A real number was needed. -/
  | nonReal (value : Gaussian)
  /-- An integer was needed. -/
  | notWhole (value : Rational)
  /-- The quotient of two integers is beyond all finite doubles. -/
  | beyondDoubles
  /-- The integer is beyond all finite doubles. -/
  | integerBeyondDoubles
  /-- The integer is beyond those of 64 bits. -/
  | beyondWords
  /-- The power of a double is beyond all finite doubles. -/
  | powerBeyondDoubles
  /-- Zero divides nothing in foreign arithmetic either. -/
  | foreignZero (division : ForeignDivision)
  /-- A complex number cannot become what is named by promotion. -/
  | narrowing (target : String)

/-- Why a text or a float is no number. -/
inductive NumeralFault where
  /-- The text is no fraction. -/
  | fraction (text : String)
  /-- The text is no complex number. -/
  | complex (text : String)
  /-- There is no text to read the named number from. -/
  | absent (target : String)
  /-- The float is no finite number. -/
  | notFinite (value : FloatValue)
  /-- The text is no operator symbol. -/
  | operator (text : String)
  /-- The text is no integer literal. -/
  | integerLiteral (text : String)
  /-- The text is no float literal. -/
  | floatLiteral (text : String)
  /-- The underscores in the literal of a complex number do not group its digits. -/
  | groupedLiteral (text : String)
  /-- The text is no literal of a complex number. -/
  | complexLiteral
  /-- The float has no integer part. -/
  | noIntegerPart (value : Extended)

/-- The kinds of foreign number that a value may be turned into. -/
inductive ForeignNumber where
  | integer
  | double
  | doublePair
  deriving DecidableEq

/-- Why an operand does not fit, by the names of the types involved. -/
inductive OperandFault where
  /-- No rational number corresponds to a value of the type. -/
  | notRational (type : String)
  /-- The terms of a fraction have to be integers. -/
  | notComponent (type : String)
  /-- An exponent has to be an integer. -/
  | notExponent (type : String)
  /-- The operator does not take operands of the two types. -/
  | unsupported (symbol left right : String)
  /-- The second type cannot be appended to the first. -/
  | unappendable (left right : String)
  /-- A sequence is repeated by an integer only. -/
  | notRepetition (type : String)
  /-- Values of the two types are not ordered. -/
  | unordered (symbol left right : String)
  /-- A number of an algebra system is not real, so it is in no order. -/
  | nonRealOrder (shown : String)
  /-- The undefined float is in no order with numbers of an algebra system. -/
  | undefinedOrder
  /-- Truth values are in no order with numbers of an algebra system. -/
  | truthOrder
  /-- The sign cannot stand before a value of the type. -/
  | unsigned (symbol type : String)
  /-- Truth values of arrays have no negative. -/
  | noFlagNegative
  /-- A plus cannot stand before truth values of arrays. -/
  | noFlagPositive
  /-- There is no distance from zero for the type. -/
  | noMagnitude (type : String)
  /-- The value cannot be a key. -/
  | unhashable (type : String)
  /-- A sparse matrix was needed. -/
  | notSparse (type : String)
  /-- The symbolic number, shown as a text, is not rational. -/
  | notExact (shown : String)
  /-- The value has no length. -/
  | noLength (type : String)
  /-- The value has no parts to pick. -/
  | notSubscriptable (type : String)
  /-- The type has no parts to pick. -/
  | typeNotSubscriptable (type : String)
  /-- The type of numbers of arrays has no parameters left to fill in. -/
  | noTypeVariables (type : String)
  /-- A single number of an array has no parts to pick. -/
  | numberNotSubscriptable
  /-- The value has no parts to go through. -/
  | notIterable (type : String)
  /-- The value has no members. -/
  | noMembers (type : String)
  /-- A text has texts as its members only. -/
  | notPartOfText (type : String)
  /-- The value is no index. -/
  | notIndex (type : String)
  /-- The array is no index. -/
  | arrayNotIndex
  /-- The array has dimensions, so it is no single number. -/
  | notScalar
  /-- The value is no number of the kind that was asked for. -/
  | notNumber (target : ForeignNumber) (type : String)
  /-- The value is no imaginary part. -/
  | notImaginary (type : String)
  /-- A text is a whole pair by itself, so nothing can follow it. -/
  | textBeforePart
  /-- A text is no imaginary part. -/
  | textAsPart
  /-- The value is no real number. -/
  | notReal (type : String)
  /-- The symbolic number is not real, so it is no number of the kind that was asked for. -/
  | nonRealNumber (target : ForeignNumber)
  /-- The value is no type of array elements. -/
  | notElementType (shown : String)
  /-- The text names no type of array elements. -/
  | unknownElementType (name : String)
  /-- The value is no shape. -/
  | notShape (shown : String)
  /-- Characters are nothing that can be replaced in a value of an algebra system. -/
  | notReplaceable
  /-- There is no matrix to multiply by. -/
  | noMultiplier
  /-- The subject has nothing of that name. -/
  | noAttribute (subject name : String)

/-- Why a shape, an index or a read-only matrix stands in the way. -/
inductive ShapeFault where
  /-- The value is no dimension. -/
  | illegalDimension (given : Operand)
  /-- The shape is not square. -/
  | notSquare (rows columns : Nat)
  /-- An array has to have two dimensions. -/
  | dimensionCount (found : Nat)
  /-- An array of the shape has no elements. -/
  | emptyShape (shape : List Nat)
  /-- There are more or fewer rows than announced. -/
  | rowCount (expected found : Nat)
  /-- A row has not one value per column. -/
  | rowLength
  /-- A column has not one value per row. -/
  | columnLength
  /-- Two vectors differ in length. -/
  | vectorLength
  /-- Two matrices differ in shape. -/
  | unequal (left right : Nat × Nat)
  /-- The multiplier has the wrong number of rows. -/
  | multiplierRows (needed found : Nat)
  /-- There is no such row. -/
  | rowIndex (index : Operand) (count : Nat)
  /-- There is no such column. -/
  | columnIndex (index : Operand) (count : Nat)
  /-- The matrix is read-only. -/
  | readOnly (form : Form) (attempt : String)

/-- Why something cannot be done with an array. -/
inductive ArrayFault where
  /-- An array of several elements counts neither as true nor as false. -/
  | ambiguousTruth
  /-- The shapes do not go together. -/
  | unequalShapes (left right : List Nat)
  /-- The operand of a product, counted from zero, has no dimensions. -/
  | noDimensions (operand : Nat)
  /-- The row of one operand of a product has another length than the column of the other one. -/
  | productLength (row column : Nat)
  /-- Integers of 64 bits have no negative powers. -/
  | negativePower
  /-- A sequence is no element. -/
  | sequenceElement
  /-- The value does not fit into an element. -/
  | unfitElement
  /-- So many elements do not fill the shape. -/
  | unfilled (size : Nat) (shape : List Nat)
  /-- There are more or fewer cells than the shape of a symbolic matrix has. -/
  | cellCount
  /-- An index of a sparse matrix is beyond the shape. -/
  | axisIndex (axis : Nat) (index : Int) (count : Nat)
  /-- An index of a sparse matrix is negative. -/
  | negativeAxisIndex (axis : Nat) (index : Int)
  /-- A sparse matrix holds no values of the type. -/
  | notSparseElement (type : String)

/-- Why a text or a file holds no matrix. -/
inductive ReadingFault where
  /-- There is no text. -/
  | noText
  /-- A delimiter is missing; what stands in its place, if anything. -/
  | expected (delimiter : Char) (received : Option Char)
  /-- There are no rows. -/
  | emptyMatrix
  /-- A row has no values. -/
  | emptyRow
  /-- The text of a value is no number. -/
  | value (text : String)
  /-- A row differs in length from the first one. -/
  | ragged (index found expected : Nat)
  /-- A record of a file holds something that is no number. -/
  | record (number : Nat) (path : String)
  /-- A file holds no values. -/
  | noMatrix (path : String)
  /-- A compressed file cannot be unpacked. -/
  | corrupted (path : String)

/-- What is wrong with an expression. -/
inductive SyntaxFault where
  /-- There is no text. -/
  | absent
  /-- The text is blank. -/
  | empty
  /-- There are more closing than opening parentheses. -/
  | unbalanced
  /-- An operator stands where none may stand. -/
  | misplacedOperator
  /-- No token starts with the character. -/
  | unexpectedCharacter (c : Char)
  /-- Something follows after the end. -/
  | trailing
  /-- A parenthesis is not closed where it should be. -/
  | unclosed
  /-- There is no operand where one is needed. -/
  | noOperand
  deriving DecidableEq

/-- Bytes that are not part of any text in an encoding. -/
structure Undecodable where
  /-- The name of the encoding. -/
  encoding : String
  /-- The first byte at fault. -/
  byte : Nat
  /-- Its position. -/
  start : Nat
  /-- The position after the last byte at fault. -/
  stop : Nat
  /-- What is wrong with them. -/
  reason : String
  deriving DecidableEq

/-- Characters of a text that an encoding does not have. -/
structure Unencodable where
  /-- The name of the encoding. -/
  encoding : String
  /-- The number of characters that the encoding has. -/
  size : Nat
  /-- The first character at fault. -/
  character : Char
  /-- Its position. -/
  start : Nat
  /-- The position after the last character at fault. -/
  stop : Nat
  deriving DecidableEq

/-- Why a file cannot be read or written as a text. -/
inductive FileFault where
  /-- There is no such file. -/
  | missing (path : String)
  /-- There is no such encoding. -/
  | unknownEncoding (name : String)
  /-- The bytes are no text in the encoding. -/
  | undecodable (fault : Undecodable)
  /-- The text has characters that the encoding does not have. -/
  | unencodable (fault : Unencodable)
  /-- The byte order is not announced. -/
  | noByteOrder

/-- Why an operation refuses its operands. -/
inductive Error where
  | arithmetic (fault : ArithmeticFault)
  | numeral (fault : NumeralFault)
  | operand (fault : OperandFault)
  | shape (fault : ShapeFault)
  | array (fault : ArrayFault)
  | reading (fault : ReadingFault)
  /-- An expression is at fault; the text as it was when the fault was found, if there is one. -/
  | expression (text : Option String) (fault : SyntaxFault)
  | file (fault : FileFault)

end ExactAlgebra
