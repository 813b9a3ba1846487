import ExactAlgebra.Exchange.Element
import ExactAlgebra.Matrix.Construction
import ExactAlgebra.Operand.Text

/-!
# Sparse matrices

A sparse matrix is a shape with a list of entries. A cell is the sum of the entries at its place, and
zero where there is none. Entries are converted one by one and then summed, so the sum is exact, and of
the kind of the widest entry at the place.

## Main definitions

* `SparseMatrix`, `SparseMatrix.Order`: sparse matrices.
* `SparseMatrix.cellSum`: the sum of the entries at a place.
* `Matrix.ofSparse`: the matrix of a sparse matrix.
-/

namespace ExactAlgebra

/-- An entry of a sparse matrix. -/
structure SparseEntry (α : Type) where
  /-- The index of the row. -/
  row : Int
  /-- The index of the column. -/
  column : Int
  /-- The value. -/
  value : α

/-- A sparse matrix. -/
structure SparseMatrix where
  /-- The number of rows. -/
  rowCount : Nat
  /-- The number of columns. -/
  columnCount : Nat
  /-- The entries in the order in which they are held. -/
  entries : List (SparseEntry Operand)

namespace SparseMatrix

/-- The order in which entries are held. -/
inductive Order where
  /-- As they were given. -/
  | given
  /-- Row by row, and by columns within a row. -/
  | byRow
  /-- Column by column, and by rows within a column. -/
  | byColumn
  deriving DecidableEq

/-- Two pairs of indices are in order. -/
def inOrder (a b : Int × Int) : Bool :=
  a.1 < b.1 || (a.1 == b.1 && a.2 ≤ b.2)

/-- Entries in the order in which they are held. -/
def Order.arrange {α : Type} (o : Order) (entries : List (SparseEntry α)) : List (SparseEntry α) :=
  match o with
  | .given => entries
  | .byRow => entries.mergeSort fun a b => inOrder (a.row, a.column) (b.row, b.column)
  | .byColumn => entries.mergeSort fun a b => inOrder (a.column, a.row) (b.column, b.row)

/-- The indices of one axis lie between the bounds. The greatest index is looked at first. -/
def checkAxis (axis count : Nat) (indices : List Int) : Except Error Unit := do
  let some greatest := indices.max? | return
  if (count : Int) ≤ greatest then throw (.array (.axisIndex axis greatest count))
  let some least := indices.min? | return
  if least < 0 then throw (.array (.negativeAxisIndex axis least))

/-- A sparse matrix of elements of the given type. -/
def ofEntries (t : ElementType) (o : Order) (rows columns : Nat)
    (entries : List (SparseEntry Operand)) : Except Error SparseMatrix := do
  let stored ← entries.mapM fun e => do return { e with value := ← t.store e.value }
  if t = .object then throw (.array (.notSparseElement t.name))
  checkAxis 0 rows (entries.map (·.row))
  checkAxis 1 columns (entries.map (·.column))
  return ⟨rows, columns, o.arrange stored⟩

/-- Entries with the quantities that their values are. -/
def convert (entries : List (SparseEntry Operand)) : Except Error (List (SparseEntry Quantity)) :=
  entries.mapM fun e => do return { e with value := ← e.value.toCell }

/-- The sum of the entries at a place. -/
def cellSum (entries : List (SparseEntry Quantity)) (row column : Int) : Quantity :=
  (entries.filter fun e => e.row == row && e.column == column).foldl
    (fun sum e => sum + e.value) (.rational 0)

/-- The rows that entries add up to. -/
def sums (rows columns : Nat) (entries : List (SparseEntry Quantity)) : List (List Quantity) :=
  (List.range rows).map fun (i : Nat) => (List.range columns).map fun (j : Nat) => cellSum entries i j

end SparseMatrix

namespace Matrix

/-- The matrix of a sparse matrix. -/
def ofSparse (s : SparseMatrix) : Logged Matrix :=
  if s.rowCount = 0 ∨ s.columnCount = 0 then
    .fail (.shape (.emptyShape [s.rowCount, s.columnCount]))
  else do
    let entries ← Logged.ofExcept (SparseMatrix.convert s.entries)
    fromRows (SparseMatrix.sums s.rowCount s.columnCount entries)

end Matrix

/-- A value where a sparse matrix is needed; none of the values that may be passed is one. -/
def Operand.toSparse (v : Operand) : Except Error SparseMatrix :=
  .error (.operand (.notSparse v.typeName))

end ExactAlgebra
