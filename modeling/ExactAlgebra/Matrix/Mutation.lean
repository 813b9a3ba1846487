import ExactAlgebra.Logged
import ExactAlgebra.Matrix.Elementary
import ExactAlgebra.Operand.Order

/-!
# Changing a matrix

The twelve operations that change a matrix, with their arguments as they come from a caller. What an
operation leaves behind is part of its result also when it fails: an `Edit` is the matrix afterwards,
whether the operation succeeded, and what it reported.

Every operation first asks whether the matrix may be changed, then compares the indices in order with
the bounds, then looks at the remaining arguments, and only then picks the cells. A value may pass for an
index where it is compared and still not be one: a float between the bounds, for instance. That is
noticed when the cells are picked.

The operations on rows, and the reductions, compute the new cells and then put them in place at once. The
operations on columns go through the rows from the top and change one row after the other; they would
stop at a row that cannot be changed, and leave the rows above it changed.

## Main definitions

* `Mutation`: the operations.
* `Edit`: what an operation leaves behind.
* `Candidate`: a value between the bounds of an index.
* `Matrix.row`, `Matrix.column`: the rows and columns that values are indices of.
* `Matrix.mutate`: carrying out an operation.
-/

namespace ExactAlgebra

/-- An operation that changes a matrix. -/
inductive Mutation where
  | setValue (row column value : Operand)
  | setRow (row values : Operand)
  | setColumn (column values : Operand)
  | swapRows (a b : Operand)
  | swapColumns (a b : Operand)
  | multiplyRow (row scalar : Operand)
  | divideRow (row divisor : Operand)
  | multiplyColumn (column scalar : Operand)
  | divideColumn (column divisor : Operand)
  /-- A multiple of one row is added to another. -/
  | addRow (row addend scalar : Operand)
  /-- The matrix is brought to row echelon form. -/
  | reduce
  /-- The matrix is brought to reduced row echelon form. -/
  | reduceFully

namespace Mutation

/-- What an operation tries to do, in words. -/
def attempt : Mutation → String
  | .setValue .. => "set a value"
  | .setRow .. => "set a row"
  | .setColumn .. => "set a column"
  | .swapRows .. => "swap rows"
  | .swapColumns .. => "swap columns"
  | .multiplyRow .. => "multiply a row"
  | .divideRow .. => "divide a row"
  | .multiplyColumn .. => "multiply a column"
  | .divideColumn .. => "divide a column"
  | .addRow .. => "add rows"
  | .reduce => "reduce to row echelon form"
  | .reduceFully => "reduce to reduced row echelon form"

/-- The name of the operation, for those that not every form of matrix offers. -/
def reductionName? : Mutation → Option String
  | .reduce => some "ref"
  | .reduceFully => some "rref"
  | _ => none

end Mutation

/-- What an operation leaves behind. -/
structure Edit (m n : Nat) where
  /-- The cells afterwards. -/
  grid : Grid m n
  /-- Whether the operation succeeded. -/
  outcome : Except Error Unit
  /-- What it reported. -/
  events : List Event

namespace Edit

variable {m n : Nat}

/-- The new cells are put in place at once, or none of them. -/
def replace (old : Grid m n) (new : Except Error (Grid m n)) : Edit m n :=
  match new with
  | .ok g => ⟨g, .ok (), []⟩
  | .error e => ⟨old, .error e, []⟩

/-- The cells that a reduction led to are put in place at once, or none of them. -/
def ofElimination (old : Grid m n) (e : Elimination m n) : Edit m n :=
  { replace old (orFail .divisionByZero e.result?) with events := e.pivots.map .pivot }

/-- What has to be found out before the first cell is written, and the writing. -/
def checked {α : Type} (old : Grid m n) (checks : Except Error α) (write : α → Edit m n) :
    Edit m n :=
  match checks with
  | .ok a => write a
  | .error e => ⟨old, .error e, []⟩

/-- The listed rows are changed in place, one after the other, until one cannot be changed. -/
def sweep (f : Fin m → Row n → Except Error (Row n)) : List (Fin m) → Grid m n → Edit m n
  | [], g => ⟨g, .ok (), []⟩
  | i :: below, g =>
    match f i (g.get i) with
    | .ok row => sweep f below (g.setRow i row)
    | .error e => ⟨g, .error e, []⟩

/-- All rows are changed in place, from the top. -/
def sweepAll (g : Grid m n) (f : Fin m → Row n → Except Error (Row n)) : Edit m n :=
  sweep f (List.finRange m) g

@[simp] theorem replace_ok (old g : Grid m n) : replace old (.ok g) = ⟨g, .ok (), []⟩ := rfl

@[simp] theorem replace_error (old : Grid m n) (e : Error) :
    replace old (.error e) = ⟨old, .error e, []⟩ := rfl

end Edit

/-- What became of a value that lies between the bounds of an index: the index that it is, or why it
cannot be used as one. -/
abbrev Candidate (count : Nat) := Except Error (Fin count)

namespace Operand

/-- The integer that a value is where a part of a sequence is picked. -/
def toIndex (v : Operand) : Except Error Int :=
  match v, v.toInteger? with
  | _, some n => .ok n
  | .bool b, none => .ok (if b then 1 else 0)
  | .array .., none => .error (.operand .arrayNotIndex)
  | v, none => .error (.operand (.notIndex v.fullTypeName))

/-- A value that is not negative and below `count`; `outside` is the error for any other value. -/
def toCandidate (count : Nat) (outside : ShapeFault) (v : Operand) : Except Error (Candidate count) := do
  unless ← isInOrder .lessOrEqual (.int 0) v do throw (.shape outside)
  unless ← isInOrder .less v (.int count) do throw (.shape outside)
  return do
    let n ← v.toIndex
    if h : 0 ≤ n ∧ n < count then return ⟨n.toNat, by omega⟩ else throw (.shape outside)

end Operand

namespace Matrix

/-- The row that a value is the index of. -/
def row (m : Matrix) (v : Operand) : Except Error (Candidate m.rowCount) :=
  v.toCandidate m.rowCount (.rowIndex v m.rowCount)

/-- The column that a value is the index of. -/
def column (m : Matrix) (v : Operand) : Except Error (Candidate m.columnCount) :=
  v.toCandidate m.columnCount (.columnIndex v m.columnCount)

/-- The values of a vector that has to have a certain length. -/
def vector (size : Nat) (fault : ShapeFault) (values : Operand) :
    Except Error (Vector Quantity size) := do
  let qs ← values.values
  if h : size = qs.length then Vector.ofFnM fun i => (qs.get (i.cast h)).toQuantity
  else .error (.shape fault)

/-- The quantity that a value stands for, where one is divided by it. -/
def divisor (v : Operand) : Except Error Quantity := do
  let d ← v.toQuantity
  if d.isZero then throw .divisionByZero
  return d

/-- What an operation leaves of the cells of a matrix that may be changed. -/
def edit (m : Matrix) : Mutation → Edit m.rowCount m.columnCount
  | .setValue r c v => .replace m.grid do
    let r ← m.row r
    let c ← m.column c
    let q ← v.toQuantity
    return m.grid.setCell (← r) (← c) q
  | .setRow r vs => .replace m.grid do
    let r ← m.row r
    let qs ← vector m.columnCount .rowLength vs
    return m.grid.setRow (← r) qs
  | .setColumn c vs =>
    .checked m.grid (do return (← m.column c, ← vector m.rowCount .columnLength vs)) fun (c, qs) =>
      .sweepAll m.grid fun i row => do return row.setCell (← c) (qs.get i)
  | .swapRows a b => .replace m.grid do
    let a ← m.row a
    let b ← m.row b
    let b ← b
    return m.grid.swapRows (← a) b
  | .swapColumns a b =>
    .checked m.grid (do return (← m.column a, ← m.column b)) fun (a, b) =>
      .sweepAll m.grid fun _ row => do
        let b ← b
        return row.swapCells (← a) b
  | .multiplyRow r s => .replace m.grid do
    let r ← m.row r
    let s ← s.toQuantity
    return m.grid.multiplyRow (← r) s
  | .divideRow r d => .replace m.grid do
    let r ← m.row r
    let d ← divisor d
    orFail .divisionByZero (m.grid.divideRow? (← r) d)
  | .multiplyColumn c s =>
    .checked m.grid (do return (← m.column c, ← s.toQuantity)) fun (c, s) =>
      .sweepAll m.grid fun _ row => do
        let j ← c
        return row.setCell j (row.get j * s)
  | .divideColumn c d =>
    .checked m.grid (do return (← m.column c, ← divisor d)) fun (c, d) =>
      .sweepAll m.grid fun _ row => do
        let j ← c
        return row.setCell j (← (row.get j).divide d)
  | .addRow r a s => .replace m.grid do
    let r ← m.row r
    let a ← m.row a
    let s ← s.toQuantity
    let a ← a
    return m.grid.addRow (← r) a s
  | .reduce => .ofElimination m.grid m.grid.echelon
  | .reduceFully => .ofElimination m.grid m.grid.reducedEchelon

/-- What stands in the way of an operation before its arguments are looked at. -/
def objection? (m : Matrix) (change : Mutation) : Option Error :=
  match change.reductionName?, m.form.hasArithmetic with
  | some name, false => some (.operand (.noAttribute (Operand.ofMatrix m).subject name))
  | _, _ => if m.readOnly then some (.shape (.readOnly m.form change.attempt)) else none

/-- An operation carried out: the matrix afterwards, and how the operation ended. -/
def mutate (m : Matrix) (change : Mutation) : Matrix × Logged Unit :=
  match m.objection? change with
  | some e => (m, .fail e)
  | none =>
    let done := m.edit change
    (m.withGrid done.grid, ⟨done.events, done.outcome⟩)

end Matrix

end ExactAlgebra
