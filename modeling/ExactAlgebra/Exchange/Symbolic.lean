import ExactAlgebra.Exchange.Element
import ExactAlgebra.Matrix.Construction

/-!
# Matrices of an algebra system

An algebra system has exact numbers, floats, and symbols and roots that are neither. Exact numbers go
over as they are, floats as the close number that stands for them, and nothing else goes over.

## Main definitions

* `SymbolicPart`, `SymbolicNumber`: numbers of an algebra system.
* `Matrix.ofSymbolic`: the matrix of such numbers.
* `Matrix.toSymbolic`: the exact numbers of a matrix.
-/

namespace ExactAlgebra

/-- The real or imaginary part of a number of an algebra system. -/
inductive SymbolicPart where
  /-- A rational number. -/
  | exact (a : Rational)
  /-- A float of double precision, by its bits. -/
  | double (bits : Nat)
  /-- Neither of these, by its text. -/
  | other (shown : String)
  deriving DecidableEq

namespace SymbolicPart

/-- The text of a float that is not finite. -/
def boundless : FloatValue → String
  | .infinite false => "oo"
  | .infinite true => "-oo"
  | _ => "nan"

/-- The rational number that a part stands for. -/
def toRational : SymbolicPart → Except Error Rational
  | .exact a => .ok a
  | .double bits =>
    let x := BinaryFormat.double.decode bits
    orFail (.operand (.notExact (boundless x))) (Rational.ofFloat? x)
  | .other shown => .error (.operand (.notExact shown))

end SymbolicPart

/-- A number of an algebra system. -/
structure SymbolicNumber where
  /-- The real part. -/
  re : SymbolicPart
  /-- The imaginary part. -/
  im : SymbolicPart
  deriving DecidableEq

namespace SymbolicNumber

/-- The exact number with the given parts. -/
def exact (re im : Rational) : SymbolicNumber := ⟨.exact re, .exact im⟩

/-- The quantity that a number stands for; without an imaginary part it is rational. -/
def toQuantity (z : SymbolicNumber) : Except Error Quantity := do
  let re ← z.re.toRational
  if z.im = .exact 0 then return .rational re
  else return .complex ⟨re, ← z.im.toRational⟩

end SymbolicNumber

namespace Matrix

/-- The matrix of the numbers of an algebra system, given row by row. -/
def ofSymbolic (rows columns : Nat) (cells : List SymbolicNumber) : Logged Matrix :=
  if rows * columns ≠ cells.length then .fail (.array .cellCount)
  else if rows = 0 ∨ columns = 0 then .fail (.shape (.emptyShape [rows, columns]))
  else do
    let quantities ← Logged.ofExcept (cells.mapM SymbolicNumber.toQuantity)
    fromRows (splitRows columns rows quantities)

/-- The cells of a matrix as exact numbers of an algebra system. -/
def toSymbolic (m : Matrix) : Operand :=
  .symbolicMatrix m.rowCount m.columnCount (m.cells.map fun q => (q.toGaussian.re, q.toGaussian.im))

end Matrix

end ExactAlgebra
