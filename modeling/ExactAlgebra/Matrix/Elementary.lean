import ExactAlgebra.Matrix.Grid

/-!
# Elementary row and column operations

The operations that elimination is made of: exchanging two rows, multiplying or dividing a row, and
adding a multiple of one row to another; and the same for columns. Each is a whole grid in, a whole
grid out. Division has no result when the divisor has no quotients.

Each operation is followed by what it does to the cells.

## Main definitions

* `Row.setCell`, `Row.swapCells`, `Row.addMultiple`, `Row.divide?`: operations on rows taken by
  themselves.
* `Grid.swapRows`, `Grid.multiplyRow`, `Grid.divideRow?`, `Grid.addRow`: row operations.
* `Grid.swapColumns`, `Grid.multiplyColumn`, `Grid.setColumn`: column operations.
-/

namespace ExactAlgebra

namespace Row

variable {n : Nat}

/-- One cell replaced. -/
def setCell (r : Row n) (j : Fin n) (q : Quantity) : Row n :=
  Vector.set r j q j.isLt

/-- Two cells exchanged. -/
def swapCells (r : Row n) (a b : Fin n) : Row n :=
  Vector.swap r a b a.isLt b.isLt

/-- The row plus a multiple of another row. -/
def addMultiple (r addend : Row n) (scalar : Quantity) : Row n :=
  Vector.zipWith (fun v w => v + w * scalar) r addend

/-- Every cell divided by one divisor. -/
def divide? (r : Row n) (divisor : Quantity) : Option (Row n) :=
  Vector.ofFnM fun j => (r.get j).divide? divisor

/-- The column of the first cell that is not zero. -/
def leadingColumn? (r : Row n) : Option (Fin n) :=
  (List.finRange n).find? fun j => !(r.get j).isZero

@[simp] theorem get_addMultiple (r addend : Row n) (scalar : Quantity) (j : Fin n) :
    (r.addMultiple addend scalar).get j = r.get j + addend.get j * scalar := by
  simp [addMultiple, get_eq_getElem]

end Row

namespace Grid

variable {m n : Nat}

/-! ## Rows -/

/-- One row replaced. -/
def setRow (g : Grid m n) (i : Fin m) (row : Row n) : Grid m n :=
  Vector.set g i row i.isLt

/-- Two rows exchanged. -/
def swapRows (g : Grid m n) (a b : Fin m) : Grid m n :=
  Vector.swap g a b a.isLt b.isLt

/-- A row multiplied by a scalar. -/
def multiplyRow (g : Grid m n) (i : Fin m) (scalar : Quantity) : Grid m n :=
  g.setRow i ((g.get i).map (· * scalar))

/-- A row divided by a divisor. -/
def divideRow? (g : Grid m n) (i : Fin m) (divisor : Quantity) : Option (Grid m n) :=
  ((g.get i).divide? divisor).map (g.setRow i)

/-- A multiple of one row added to another. -/
def addRow (g : Grid m n) (i addend : Fin m) (scalar : Quantity) : Grid m n :=
  g.setRow i ((g.get i).addMultiple (g.get addend) scalar)

/-! ## Columns -/

/-- One cell replaced. -/
def setCell (g : Grid m n) (i : Fin m) (j : Fin n) (q : Quantity) : Grid m n :=
  g.setRow i ((g.get i).setCell j q)

/-- A column replaced. -/
def setColumn (g : Grid m n) (j : Fin n) (column : Vector Quantity m) : Grid m n :=
  Vector.zipWith (fun (row : Row n) q => row.setCell j q) g column

/-- Two columns exchanged. -/
def swapColumns (g : Grid m n) (a b : Fin n) : Grid m n :=
  g.map fun row => row.swapCells a b

/-- A column multiplied by a scalar. -/
def multiplyColumn (g : Grid m n) (j : Fin n) (scalar : Quantity) : Grid m n :=
  g.map fun row => row.setCell j (row.get j * scalar)

/-! ## Cells -/

theorem get_swapRows (g : Grid m n) (a b r : Fin m) :
    (g.swapRows a b).get r = if r = a then g.get b else if r = b then g.get a else g.get r := by
  simp [swapRows, get_eq_getElem, Vector.getElem_swap, Fin.ext_iff]

theorem get_addRow (g : Grid m n) (i addend r : Fin m) (scalar : Quantity) :
    (g.addRow i addend scalar).get r =
      if r = i then (g.get i).addMultiple (g.get addend) scalar else g.get r := by
  by_cases h : i.val = r.val <;> simp_all [addRow, setRow, get_eq_getElem, Fin.ext_iff, eq_comm]

theorem cell_setCell (g : Grid m n) (i : Fin m) (j : Fin n) (q : Quantity) (r : Fin m)
    (c : Fin n) : (g.setCell i j q).cell r c = if r = i ∧ c = j then q else g.cell r c := by
  by_cases hr : i.val = r.val <;> by_cases hc : j.val = c.val <;>
    simp_all [setCell, setRow, Row.setCell, cell, get_eq_getElem, Fin.ext_iff, eq_comm]

theorem cell_swapColumns (g : Grid m n) (a b c : Fin n) (r : Fin m) :
    (g.swapColumns a b).cell r c =
      if c = a then g.cell r b else if c = b then g.cell r a else g.cell r c := by
  simp [swapColumns, Row.swapCells, cell, get_eq_getElem, Vector.getElem_swap, Fin.ext_iff]

end Grid

end ExactAlgebra
