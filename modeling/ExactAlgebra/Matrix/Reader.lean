import ExactAlgebra.Matrix.Construction
import ExactAlgebra.Matrix.Text
import ExactAlgebra.Number.Reader

/-!
# Reading matrices

The reader of the text form. Blanks are dropped before anything else, so they may stand anywhere, also
between the digits of a number. Whatever is wrong with the text is an error of reading.

## Main definitions

* `between`: what stands between two delimiters.
* `Matrix.readRow`, `Matrix.readRows`: the values that a text holds.
* `Matrix.parse`: the matrix that a text holds.
-/

namespace ExactAlgebra

open TextForm

/-- What stands between the delimiters that a text starts and ends with. -/
def between (start stop : Char) (s : List Char) : Except Error (List Char) :=
  match s with
  | [] => .error (.reading (.expected start none))
  | c :: rest =>
    if c ≠ start then .error (.reading (.expected start (some c)))
    else if rest.getLast? = some stop then .ok rest.dropLast
    else .error (.reading (.expected stop ((c :: rest).getLast?)))

namespace Matrix

/-- A value of a row; whatever is wrong with it, it is an invalid value. -/
def readValue (cs : List Char) : Except Error Quantity :=
  (Quantity.read cs).mapError fun _ => .reading (.value (String.ofList cs))

/-- The values of a row. -/
def readRow (cs : List Char) : Except Error (List Quantity) := do
  let body ← between rowStart rowEnd cs
  if body.isEmpty then .error (.reading .emptyRow)
  else (body.splitOn separator).mapM readValue

/-- The rows of a text without blanks. -/
def readRows (cs : List Char) : Except Error (List (List Quantity)) := do
  let body ← between matrixStart matrixEnd cs
  if body.isEmpty then .error (.reading .emptyMatrix)
  else (body.splitOn rowSeparator).mapM readRow

/-- The matrix that a text holds. -/
def parse (text : String) : Logged Matrix := do
  let rows ← readRows (Text.removeBlanks text.toList)
  fromRows rows

end Matrix

end ExactAlgebra
