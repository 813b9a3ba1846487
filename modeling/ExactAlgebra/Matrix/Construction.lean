import ExactAlgebra.Logged
import ExactAlgebra.Operand.Sequence

/-!
# Building matrices

A matrix is built from announced dimensions and, if there are any, entries that have to fit them; or
from rows alone, which have to fit each other. Every value that stands for a quantity may be an entry.

## Main definitions

* `Operand.toDimension`: the number of rows or columns that a value announces.
* `Grid.ofOperand`: entries that have to fit a shape.
* `Matrix.construct`, `Matrix.constructIdentity`: matrices of announced dimensions.
* `Matrix.assemble`, `Matrix.fromRows`, `Matrix.fromOperand`: matrices of rows alone.
* `Matrix.splitRows`: the rows of a list of cells.
-/

namespace ExactAlgebra

/-- The dimension that a value announces: a positive integer. -/
def Operand.toDimension (v : Operand) : Except Error { n : Nat // 0 < n } :=
  match v with
  | .int n =>
    if h : 0 < n then .ok ⟨n.toNat, by omega⟩ else .error (.shape (.illegalDimension v))
  | _ => .error (.shape (.illegalDimension v))

/-- The kind of number that a value tells the zero of. The numbers of a symbolic matrix count as
rational here. -/
def Operand.toKind : Operand → Except Error NumberKind
  | .kind k => .ok k
  | .symbolicMatrix .. => .ok .rational
  | v => .error (.operand (.noAttribute v.subject "zero"))

namespace Grid

/-- A row of converted values; the values have to be as many as the columns. -/
def rowOfOperand (columns : Nat) (values : Operand) : Except Error (Row columns) := do
  let qs ← values.values
  if h : qs.length = columns then
    Vector.ofFnM fun j => (qs.get (j.cast h.symm)).toQuantity
  else .error (.shape .rowLength)

/-- A grid of converted values. The rows are checked and converted one after the other. -/
def ofOperand (rows columns : Nat) (entries : Operand) : Except Error (Grid rows columns) := do
  let vs ← entries.values
  if h : vs.length = rows then
    Vector.ofFnM fun i => rowOfOperand columns (vs.get (i.cast h.symm))
  else .error (.shape (.rowCount rows vs.length))

/-- The cells of a new matrix: the entries, or zeros of the given kind if there are none. -/
def initial (rows columns : Nat) (entries kind : Operand) : Except Error (Grid rows columns) :=
  match entries with
  | .nothing => do return filled rows columns (.zeroOf (← kind.toKind))
  | _ => ofOperand rows columns entries

end Grid

namespace Matrix

/-- A matrix of announced dimensions, operable or general. -/
def construct (form : Form) (plain : form.isSquare = false) (rows columns entries kind : Operand) :
    Except Error Matrix := do
  let r ← rows.toDimension
  let c ← columns.toDimension
  let grid ← Grid.initial r c entries kind
  return ⟨form, r, c, grid, r.2, c.2, by simp [plain]⟩

/-- A square matrix of an announced dimension. -/
def constructSquare (dimension entries kind : Operand) : Except Error Matrix := do
  let n ← dimension.toDimension
  let grid ← Grid.initial n n entries kind
  return ⟨.square, n, n, grid, n.2, n.2, fun _ => rfl⟩

/-- The identity matrix of an announced dimension. -/
def constructIdentity (dimension kind : Operand) : Except Error Matrix := do
  let n ← dimension.toDimension
  return identity n n.2 (← kind.toKind)

/-- The writable square matrix with the cells of a matrix that happens to be square. -/
def toSquare (m : Matrix) : Except Error Matrix :=
  if h : m.rowCount = m.columnCount then
    .ok ⟨.square, m.rowCount, m.columnCount, m.grid, m.rowCount_pos, m.columnCount_pos, fun _ => h⟩
  else .error (.shape (.notSquare m.rowCount m.columnCount))

/-- A matrix of equally long rows whose values are converted in order; square if its shape is. -/
def assemble {α : Type} (convert : α → Except Error Quantity) (rows : List (List α)) :
    Logged Matrix :=
  match rows with
  | [] => .fail (.reading .emptyMatrix)
  | first :: others =>
    if columns : first.length = 0 then .fail (.reading .emptyMatrix)
    else if rect : ∀ row ∈ first :: others, row.length = first.length then do
      Logged.report (.read (others.length + 1) first.length)
      let grid ← Grid.ofListsM convert (first :: others) first.length rect
      return ofShape grid (Nat.succ_pos _) (Nat.pos_of_ne_zero columns)
    else
      let ragged := ((first :: others).zipIdx.find? fun row => row.1.length != first.length)
      match ragged with
      | some (row, index) => .fail (.reading (.ragged index row.length first.length))
      | none => .fail (.reading .emptyMatrix)

/-- The first `rows` rows of a list of cells. -/
def splitRows {α : Type} (columns : Nat) : (rows : Nat) → List α → List (List α)
  | 0, _ => []
  | rows + 1, cells => cells.take columns :: splitRows columns rows (cells.drop columns)

/-- A matrix of equally long rows of quantities. -/
def fromRows (rows : List (List Quantity)) : Logged Matrix :=
  assemble .ok rows

/-- The rows of a value where a matrix is built from rows alone. A value that counts as false holds no
rows, and one whose first row counts as false holds no columns. -/
def rowsOfOperand (rows : Operand) : Except Error (List (List Operand)) := do
  unless ← rows.truthy do throw (.reading .emptyMatrix)
  let first ← rows.first
  unless ← first.truthy do throw (.reading .emptyMatrix)
  let columns := (← first.values).length
  (← rows.values).zipIdx.mapM fun (row, index) => do
    let values ← row.values
    if values.length = columns then return values
    else throw (.reading (.ragged index values.length columns))

/-- A matrix of the rows of a value. -/
def fromOperand (rows : Operand) : Logged Matrix := do
  let rows ← rowsOfOperand rows
  assemble Operand.toQuantity rows

end Matrix

end ExactAlgebra
