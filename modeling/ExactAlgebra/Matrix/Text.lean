import ExactAlgebra.Matrix.Basic
import ExactAlgebra.Number.Text
import ExactAlgebra.Text.Quoted

/-!
# Text form of matrices

A matrix is written with its rows in braces, separated by semicolons, between square brackets; the
values of a row are separated by commas: `[{1,2};{3/4,1+2i}]`.

## Main definitions

* `TextForm`: the delimiters.
* `Matrix.text`: the text form.
* `Matrix.constructorText`: form, shape and text together.
-/

namespace ExactAlgebra

namespace TextForm

/-- Opens a matrix. -/
def matrixStart : Char := '['

/-- Closes a matrix. -/
def matrixEnd : Char := ']'

/-- Opens a row. -/
def rowStart : Char := '{'

/-- Closes a row. -/
def rowEnd : Char := '}'

/-- Stands between two rows. -/
def rowSeparator : Char := ';'

/-- Stands between two values. -/
def separator : Char := ','

end TextForm

open TextForm

/-- The text form of a row. -/
def rowText (row : List Quantity) : List Char :=
  rowStart :: ([separator].intercalate (row.map Quantity.text) ++ [rowEnd])

namespace Matrix

/-- The text form of a matrix. -/
def text (m : Matrix) : List Char :=
  matrixStart :: ([rowSeparator].intercalate (m.rows.map rowText) ++ [matrixEnd])

/-- A shape, as in `2x3`. -/
def shapeText (rows columns : Nat) : List Char :=
  Nat.toDigits 10 rows ++ 'x' :: Nat.toDigits 10 columns

/-- The form and the shape of a matrix, and its text between quotes. -/
def constructorText (m : Matrix) : List Char :=
  m.form.name.toList ++ '(' :: shapeText m.rowCount m.columnCount ++ ", '".toList ++ m.text ++
    "')".toList

instance : ToString Matrix := ⟨fun m => String.ofList m.text⟩

end Matrix

end ExactAlgebra
