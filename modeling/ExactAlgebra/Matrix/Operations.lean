import ExactAlgebra.Matrix.Mutation
import ExactAlgebra.Matrix.Product

/-!
# Operations on whole matrices

What can be found out about a matrix, and the matrices that can be made of it, all of which are new and
writable. Arithmetic and reduction are for every form but the operable one, the determinant for the
square forms.

The determinant is the product of the diagonal of a row echelon form. Every exchange of two rows on the
way there changes the sign of the true determinant. The product is corrected for that only on request;
otherwise the exchanges are reported, unless the product is zero and has no sign.

## Main definitions

* `Matrix.getValue`, `Matrix.getRow`, `Matrix.getColumn`: cells.
* `Matrix.scale`, `Matrix.add`, `Matrix.multiply`, `Matrix.transpose`: arithmetic.
* `Matrix.rank`, `Matrix.det`, `Matrix.isTriangular`: properties.
* `Operand.toMatrix`, `Operand.addend`, `Operand.multiplier`: matrices among operands.
* `Operand.dot`: the scalar product of two sequences.
-/

namespace ExactAlgebra

namespace Matrix

/-- The operation is only offered by forms with arithmetic. -/
def requireArithmetic (m : Matrix) (name : String) : Except Error Unit :=
  if m.form.hasArithmetic then .ok ()
  else .error (.operand (.noAttribute (Operand.ofMatrix m).subject name))

/-! ## Cells -/

/-- The quantity in a cell. -/
def getValue (m : Matrix) (r c : Operand) : Except Error Quantity := do
  let r ← m.row r
  let c ← m.column c
  let i ← r
  let j ← c
  return m.grid.cell i j

/-- The quantities of a row. -/
def getRow (m : Matrix) (r : Operand) : Except Error (List Quantity) := do
  let i ← (← m.row r)
  return (m.grid.get i).toList

/-- The quantities of a column. -/
def getColumn (m : Matrix) (c : Operand) : Except Error (List Quantity) := do
  let j ← (← m.column c)
  return (m.grid.column j).toList

/-! ## Arithmetic -/

/-- A copy with every cell multiplied by a scalar. -/
def scale (m : Matrix) (scalar : Quantity) : Matrix :=
  m.copy.withGrid (m.grid.scale scalar)

/-- The cellwise sum of two matrices of one shape, in the form of a copy of the first. -/
def add (m o : Matrix) : Except Error Matrix :=
  if h : o.rowCount = m.rowCount ∧ o.columnCount = m.columnCount then
    .ok (m.copy.withGrid (m.grid.add (o.grid.cast h.1 h.2)))
  else
    .error (.shape (.unequal (m.rowCount, m.columnCount) (o.rowCount, o.columnCount)))

/-- The row by column product, in general form. -/
def multiply (m o : Matrix) : Except Error Matrix :=
  if h : o.rowCount = m.columnCount then
    .ok (ofGrid (m.grid.multiply (o.grid.cast h rfl)) m.rowCount_pos o.columnCount_pos)
  else .error (.shape (.multiplierRows m.columnCount o.rowCount))

/-- The matrix with rows and columns exchanged, in general form. -/
def transpose (m : Matrix) : Matrix :=
  ofGrid m.grid.transpose m.columnCount_pos m.rowCount_pos

/-- Every cell is zero. -/
def isZero (m : Matrix) : Bool := m.grid.isZero

/-! ## Reduction -/

/-- The number of rows of a row echelon form that are not zero. -/
def rank (m : Matrix) : Logged Nat :=
  let e := m.grid.echelon
  ⟨e.pivots.map .pivot, orFail .divisionByZero (e.result?.map Grid.nonzeroRows)⟩

/-- The matrix is of a square form. -/
def requireSquare (m : Matrix) (name : String) :
    Except Error (PLift (m.rowCount = m.columnCount)) :=
  if h : m.form.isSquare = true then .ok ⟨m.square h⟩
  else .error (.operand (.noAttribute (Operand.ofMatrix m).subject name))

/-- The product of the diagonal of a row echelon form. Whether its sign is to be corrected for the
exchanges of rows is asked only if there are any and the product has a sign. -/
def determinant {n : Nat} (g : Grid n n) (correctSign : Except Error Bool) : Logged Quantity := do
  let e := g.echelon
  let reduced ← (⟨e.pivots.map .pivot, orFail .divisionByZero e.result?⟩ : Logged (Grid n n))
  let product := reduced.diagonalProduct
  if e.swaps = 0 ∨ product.isZero then return product
  else if ← correctSign then return if e.swaps % 2 = 0 then product else -product
  else do
    Logged.report (.uncorrectedSign e.swaps)
    return product

/-- The determinant of a matrix of square form. The sign is corrected if the operand counts as true. -/
def det (m : Matrix) (correctSign : Operand) : Logged Quantity := do
  let ⟨h⟩ ← (m.requireSquare "det" : Logged _)
  determinant (m.grid.cast h rfl) correctSign.truthy

/-- Every cell below the diagonal of a matrix of square form is zero. -/
def isTriangular (m : Matrix) : Except Error Bool := do
  let ⟨h⟩ ← m.requireSquare "is_triangular"
  return (m.grid.cast h rfl).isUpperTriangular

end Matrix

namespace Operand

/-- The matrix that a value is. `needed` names what is first asked of it. -/
def toMatrix (needed : String) : Operand → Except Error Matrix
  | .matrix m _ => .ok m
  | v => .error (.operand (.noAttribute v.subject needed))

/-- The shape of a value that is no matrix of this library but has a shape. A type of numbers of arrays
has one, too, though it is not made of lengths. -/
def foreignShape? : Operand → Option (List Nat)
  | .array _ shape _ _ => some shape
  | .symbolicMatrix rows columns _ => some [rows, columns]
  | .wordInt _ | .single .. | .flag _ | .elementType (.integer ..) | .elementType .single => some []
  | _ => none

/-- The matrix that a value is, where a matrix is to be added to one of the given shape. -/
def addend (shape : List Nat) (v : Operand) : Except Error Matrix :=
  match v.foreignShape? with
  | some found => v.toMatrix (if found = shape then "_grid" else "row_count")
  | none => v.toMatrix "shape"

/-- The matrix that a value is, where a matrix is to be multiplied by. -/
def multiplier : Operand → Except Error Matrix
  | .nothing => .error (.operand .noMultiplier)
  | v => v.toMatrix "row_count"

/-- Two factors in a scalar product. The left one has to be a quantity, the right one has to stand for
one. A matrix can be multiplied too, but its products cannot be summed up to a quantity. -/
def factors (a b : Operand) : Except Error (Quantity × Quantity) :=
  match a with
  | .quantity q => do return (q, ← b.toQuantity)
  | .matrix m _ => do
    m.requireArithmetic "multiply"
    let product ← m.multiply (← b.multiplier)
    throw (.operand (.notRational product.form.name))
  | v => .error (.operand (.noAttribute v.subject "multiply"))

/-- The scalar product of two sequences of one length. -/
def dot (v u : Operand) : Except Error Quantity := do
  let vs ← v.values
  let us ← u.values
  if vs.length = us.length then
    let pairs ← (vs.zip us).mapM fun (a, b) => factors a b
    return dotProduct (pairs.map Prod.fst) (pairs.map Prod.snd)
  else .error (.shape .vectorLength)

end Operand

end ExactAlgebra
