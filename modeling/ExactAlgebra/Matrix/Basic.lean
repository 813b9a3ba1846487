import ExactAlgebra.Matrix.Grid

/-!
# Matrices

A matrix is a grid with at least one row and one column, together with its form: which operations it
offers, and whether it may be changed. Forms build on each other. An operable matrix has row and column
operations; a general matrix has arithmetic and row reduction as well; a square matrix, which has as
many rows as columns, has a determinant too; an identity matrix is a square matrix that is read-only.

## Main definitions

* `Form`: the four forms.
* `Matrix`: a grid of some shape in some form.
* `Matrix.identity`, `Matrix.ofGrid`: matrices of given cells.
* `Matrix.copyForm`, `Matrix.copy`: the writable copy.
* `Matrix.SameValues`: equality of values.
-/

namespace ExactAlgebra

/-- What a matrix offers. -/
inductive Form where
  /-- Row and column operations alone. -/
  | operable
  /-- Arithmetic and row reduction as well. -/
  | general
  /-- A determinant as well; there are as many rows as columns. -/
  | square
  /-- A square matrix that is read-only. -/
  | identity
  deriving DecidableEq, Repr

namespace Form

/-- The name of the form. -/
def name : Form → String
  | .operable => "OperableMatrix"
  | .general => "Matrix"
  | .square => "SquareMatrix"
  | .identity => "IdentityMatrix"

/-- The form promises as many rows as columns. -/
def isSquare : Form → Bool
  | .square | .identity => true
  | .operable | .general => false

/-- The form offers arithmetic and row reduction. -/
def hasArithmetic : Form → Bool
  | .operable => false
  | .general | .square | .identity => true

/-- The form of a copy: a copy can always be changed. -/
def copied : Form → Form
  | .identity => .square
  | form => form

@[simp] theorem isSquare_copied (form : Form) : form.copied.isSquare = form.isSquare := by
  cases form <;> rfl

@[simp] theorem copied_ne_identity (form : Form) : form.copied ≠ .identity := by
  cases form <;> decide

end Form

/-- A matrix of exact quantities. -/
structure Matrix where
  /-- What the matrix offers. -/
  form : Form
  /-- The number of rows. -/
  rowCount : Nat
  /-- The number of columns. -/
  columnCount : Nat
  /-- The cells. -/
  grid : Grid rowCount columnCount
  /-- There is a row. -/
  rowCount_pos : 0 < rowCount
  /-- There is a column. -/
  columnCount_pos : 0 < columnCount
  /-- A square form has as many rows as columns. -/
  square : form.isSquare = true → rowCount = columnCount

namespace Matrix

/-- The matrix cannot be changed. -/
def readOnly (m : Matrix) : Bool := m.form == .identity

/-- The matrix with other cells of the same shape. -/
def withGrid (m : Matrix) (g : Grid m.rowCount m.columnCount) : Matrix := { m with grid := g }

/-- A writable copy. -/
def copy (m : Matrix) : Matrix :=
  { m with form := m.form.copied, square := by simpa using m.square }

/-- A general matrix with the given cells. -/
def ofGrid {r c : Nat} (g : Grid r c) (rows : 0 < r) (columns : 0 < c) : Matrix :=
  ⟨.general, r, c, g, rows, columns, by simp [Form.isSquare]⟩

/-- A matrix with the given cells, square if its shape is. -/
def ofShape {r c : Nat} (g : Grid r c) (rows : 0 < r) (columns : 0 < c) : Matrix :=
  if h : r = c then ⟨.square, r, c, g, rows, columns, fun _ => h⟩ else ofGrid g rows columns

/-- The identity matrix, in numbers of the given kind. -/
def identity (n : Nat) (pos : 0 < n) (k : NumberKind) : Matrix :=
  ⟨.identity, n, n, Grid.identity n k, pos, pos, fun _ => rfl⟩

/-- The rows as lists. -/
def rows (m : Matrix) : List (List Quantity) := m.grid.rows

/-- The cells from left to right, then from top to bottom. -/
def cells (m : Matrix) : List Quantity := m.grid.cells

/-- The widest kind among the cells. -/
def kind (m : Matrix) : NumberKind := m.grid.kind

/-- Two matrices have the same shape and the same values, whatever their forms and the kinds of their
cells. -/
def SameValues (m o : Matrix) : Prop :=
  m.rowCount = o.rowCount ∧ m.columnCount = o.columnCount ∧
    ∀ pair ∈ m.cells.zip o.cells, pair.1.SameValue pair.2

instance (m o : Matrix) : Decidable (m.SameValues o) :=
  inferInstanceAs (Decidable (_ ∧ _ ∧ _))

@[simp] theorem form_withGrid (m : Matrix) (g : Grid m.rowCount m.columnCount) :
    (m.withGrid g).form = m.form := rfl

@[simp] theorem readOnly_copy (m : Matrix) : m.copy.readOnly = false := by
  simp [readOnly, copy]

end Matrix

end ExactAlgebra
