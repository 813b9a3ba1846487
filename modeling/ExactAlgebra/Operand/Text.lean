import ExactAlgebra.Matrix.Text
import ExactAlgebra.Number.Aligned
import ExactAlgebra.Operand.Sequence
import ExactAlgebra.Operand.SymbolicText

/-!
# Texts of operands

How a value is shown: plainly, as it would be printed, or in the form that tells its type, as it is
shown inside a list. A text is plain by itself and quoted inside a list; most other values look the
same either way. In a message a float of single precision is shown as the double that it is.

## Main definitions

* `Operand.plain`: the plain form.
* `Operand.display`: the form that tells the type.
* `Operand.inMessage`: the form in messages.
-/

namespace ExactAlgebra

/-- The name of a type of elements. -/
def ElementType.name : ElementType → String
  | .object => "object"
  | .flag => "bool"
  | .integer width signed =>
    (if signed then "int" else "uint") ++ String.ofList (Nat.toDigits 10 width)
  | .half => "float16"
  | .single => "float32"
  | .double => "float64"
  | .singlePair => "complex64"
  | .doublePair => "complex128"

/-- The type is one that need not be told: it is plain from the elements. -/
def ElementType.isPlain : ElementType → Bool
  | .flag | .double | .doublePair => true
  | .integer width signed => width == 64 && signed
  | _ => false

namespace Operand

/-! ## Numbers -/

/-- The text of a double. -/
def doubleText (bits : Nat) : List Char :=
  Shortest.text .double (BinaryFormat.double.decode bits)

/-- The text of a float of single precision. -/
def singleText (bits : Nat) : List Char :=
  Shortest.text .single (BinaryFormat.single.decode bits)

/-- The text of a double as a part of a complex number: whole numbers have no point. -/
def partText (bits : Nat) : List Char :=
  let t := doubleText bits
  if t.reverse.take 2 == ['0', '.'] then t.dropLast.dropLast else t

/-- The text of a complex number whose parts are doubles. -/
def doublePairText (re im : Nat) : List Char :=
  let imText := partText im ++ ['j']
  if re = 0 then imText
  else
    let signed := if imText.head? == some '-' then imText else '+' :: imText
    '(' :: partText re ++ signed ++ [')']

/-- The text of a fraction of another library. -/
def fractionText (a : Rational) : List Char :=
  "Fraction(".toList ++ integerText a.num ++ ", ".toList ++ Nat.toDigits 10 a.den ++ [')']

/-- Texts with a comma and a space between each two. -/
def commas (xs : List (List Char)) : List Char :=
  [',', ' '].intercalate xs

/-! ## Elements of arrays -/

/-- The float that an element holds. -/
def elementFloat : Operand → FloatValue
  | .double bits _ => BinaryFormat.double.decode bits
  | .single bits _ => BinaryFormat.single.decode bits
  | _ => .undefined

/-- The letter of the imaginary unit after a text, before the spaces at its end. -/
def withUnit (text : List Char) : List Char :=
  let spaces := text.reverse.takeWhile (· == ' ')
  text.take (text.length - spaces.length) ++ 'j' :: spaces

/-- The texts of pairs of floats, aligned part by part. -/
def pairWords (f : BinaryFormat) (elements : List Operand) : List (List Char) :=
  let part (first : Bool) : Operand → FloatValue
    | .doublePair re im _ => BinaryFormat.double.decode (if first then re else im)
    | _ => .undefined
  let res := Aligned.texts f false (elements.map (part true))
  let ims := Aligned.texts f true (elements.map (part false))
  (res.zip ims).map fun (re, im) => re ++ withUnit im

/-- The texts of the elements of an array of numbers. -/
def numberWords (t : ElementType) (elements : List Operand) : List (List Char) :=
  match t with
  | .half => Aligned.texts .half false (elements.map elementFloat)
  | .single => Aligned.texts .single false (elements.map elementFloat)
  | .double => Aligned.texts .double false (elements.map elementFloat)
  | .singlePair => pairWords .single elements
  | .doublePair => pairWords .double elements
  | _ =>
    let words := elements.map fun v =>
      match v with
      | .flag b => (if b then "True" else "False").toList
      | v => integerText (v.toInteger?.getD 0)
    let width := if t = .flag then 5 else Aligned.longest words
    words.map (Aligned.padStart width)

/-- The plain form of an array whose elements are given as words. -/
def plainArray (shape : List Nat) (words : List (List Char)) : List Char :=
  (⟨[], 1, 75⟩ : Text.Layout).arrange shape words

/-- The lengths of an array along its dimensions. -/
def shapeText (shape : List Nat) : List Char :=
  match shape with
  | [n] => '(' :: Nat.toDigits 10 n ++ ",)".toList
  | shape => '(' :: commas (shape.map (Nat.toDigits 10)) ++ [')']

/-- The form of an array that tells its type, and its shape if not all elements are shown. Both stand in a
line of their own if the last line would become too long. -/
def displayArray (t : ElementType) (shape : List Nat) (words : List (List Char)) : List Char :=
  let start := "array(".toList ++ (⟨[','], 7, 74⟩ : Text.Layout).arrange shape words
  let extras :=
    (if Text.Layout.isLong shape then ["shape=".toList ++ shapeText shape] else []) ++
      (if t.isPlain then [] else ["dtype=".toList ++ t.name.toList])
  if extras.isEmpty then start ++ [')']
  else
    let start := start ++ [',']
    let extras := commas extras ++ [')']
    let lastLine := start.reverse.takeWhile (· != '\n')
    if 75 < lastLine.length + extras.length + 1 then start ++ '\n' :: Text.Layout.spaces 6 ++ extras
    else start ++ ' ' :: extras

/-! ## Matrices of an algebra system -/

/-- The rows of a symbolic matrix, as texts of the cells. -/
def symbolicRows (rows columns : Nat) (cells : List (Rational × Rational)) :
    List (List (List Char)) :=
  Text.Layout.runs columns rows (cells.map fun z => symbolicText z.1 z.2)

/-- The plain form of a symbolic matrix. -/
def plainSymbolicMatrix (rows columns : Nat) (cells : List (Rational × Rational)) : List Char :=
  let texts := (symbolicRows rows columns cells).map fun row => '[' :: commas row ++ [']']
  "Matrix([".toList ++ commas texts ++ "])".toList

/-- The form of a symbolic matrix with one row in a line and its columns aligned. -/
def displaySymbolicMatrix (rows columns : Nat) (cells : List (Rational × Rational)) : List Char :=
  let texts := symbolicRows rows columns cells
  let widths := (List.range columns).map fun j =>
    Aligned.longest (texts.map fun row => row.getD j [])
  let lines := texts.map fun row =>
    '[' :: commas ((row.zip widths).map fun (word, width) => Aligned.padStart width word) ++ [']']
  let start := if rows = 1 then "Matrix([".toList else "Matrix([\n".toList
  start ++ [',', '\n'].intercalate lines ++ "])".toList

/-! ## All values -/

mutual

/-- The form of a value that tells its type. -/
def display : Operand → List Char
  | .nothing => "None".toList
  | .bool b => (if b then "True" else "False").toList
  | .int n => integerText n
  | .wordInt n => "np.int64(".toList ++ integerText n ++ [')']
  | .text s => Text.quoted s.toList
  | .list xs _ => '[' :: commas (displayAll xs) ++ [']']
  | .tuple [x] => '(' :: display x ++ ",)".toList
  | .tuple xs => '(' :: commas (displayAll xs) ++ [')']
  | .quantity q => q.constructorText
  | .fraction a => fractionText a
  | .symbolic re im => symbolicText re im
  | .double bits _ => doubleText bits
  | .single bits _ => "np.float32(".toList ++ singleText bits ++ [')']
  | .flag b => (if b then "np.True_" else "np.False_").toList
  | .doublePair re im _ => doublePairText re im
  | .kind k => "<NumberKind.".toList ++ k.name.toList ++
      (if k = .rational then ": 0>" else ": 1>").toList
  | .operation o => "<Operation.".toList ++ o.name.toList ++ ": ".toList ++
      Text.quoted [o.symbol] ++ ['>']
  | .elementType t => "<class '".toList ++ t.className.toList ++ "'>".toList
  | .matrix m _ => m.constructorText
  | .expression e _ => "Expression(".toList ++ Text.quoted e.text ++ [')']
  | .array .object shape elements _ =>
    displayArray .object shape (Text.Layout.abridged shape (displayAll elements))
  | .array t shape elements _ =>
    displayArray t shape (numberWords t (Text.Layout.abridged shape elements))
  | .symbolicMatrix rows columns cells => displaySymbolicMatrix rows columns cells

/-- The forms of several values. -/
def displayAll : List Operand → List (List Char)
  | [] => []
  | x :: xs => display x :: displayAll xs

end

/-- The plain form of a value. -/
def plain : Operand → List Char
  | .wordInt n => integerText n
  | .text s => s.toList
  | .quantity q => q.text
  | .fraction a => a.text
  | .single bits _ => singleText bits
  | .flag b => (if b then "True" else "False").toList
  | .kind k => "NumberKind.".toList ++ k.name.toList
  | .operation o => "Operation.".toList ++ o.name.toList
  | .matrix m _ => m.text
  | .expression e _ => e.text
  | .array .object shape elements _ =>
    plainArray shape (Text.Layout.abridged shape (displayAll elements))
  | .array t shape elements _ => plainArray shape (numberWords t (Text.Layout.abridged shape elements))
  | .symbolicMatrix rows columns cells => plainSymbolicMatrix rows columns cells
  | v => v.display

/-- The form of a value in messages. -/
def inMessage (v : Operand) : List Char := v.unboxed.plain

end Operand

end ExactAlgebra
