import ExactAlgebra.Matrix.Text
import ExactAlgebra.Operand

/-!
# Constants

The characters of the text forms and the greatest distance, by name.

## Main definitions

* `version`: the version of the text forms.
* `constants`: the table, in the order of the names.
-/

namespace ExactAlgebra

/-- The version of the text forms. -/
def version : String := "1.0"

/-- The constants by name. -/
def constants : List (String × Operand) :=
  let character (c : Char) : Operand := .text (String.singleton c)
  [("COMPLEX_PLUS", character complexPlus), ("FRACTION_BAR", character fractionBar),
    ("IMAGINARY_UNIT", character imaginaryUnit), ("INT_MAX", .int Gaussian.farthest),
    ("MATRIX_END", character TextForm.matrixEnd), ("MATRIX_START", character TextForm.matrixStart),
    ("ROW_END", character TextForm.rowEnd), ("ROW_SEPARATOR", character TextForm.rowSeparator),
    ("ROW_START", character TextForm.rowStart), ("SEPARATOR", character TextForm.separator)]

end ExactAlgebra
