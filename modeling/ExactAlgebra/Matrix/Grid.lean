import ExactAlgebra.Number.Quantity

/-!
# Grids of quantities

The cells of a matrix as a vector of rows, with the shape in the type. The functions here are the ways
to build a grid and to look at one; nothing in them depends on the values of the cells.

## Main definitions

* `Row`, `Grid`: a row of `n` cells, and `m` such rows.
* `Grid.cell`: the cell in a row and a column.
* `Grid.ofFn`, `Grid.filled`, `Grid.identity`, `Grid.ofListsM`: grids from a rule, a value or lists.
* `Grid.column`, `Grid.transpose`, `Grid.rows`, `Grid.cells`: views of a grid.
-/

namespace ExactAlgebra

/-- A row of `n` cells. -/
abbrev Row (n : Nat) := Vector Quantity n

/-- A grid of `m` rows of `n` cells. -/
abbrev Grid (m n : Nat) := Vector (Row n) m

theorem get_eq_getElem {α : Type} {n : Nat} (v : Vector α n) (i : Fin n) :
    v.get i = getElem v i.val i.isLt := rfl

@[simp] theorem get_ofFn {α : Type} {n : Nat} (f : Fin n → α) (i : Fin n) :
    (Vector.ofFn f).get i = f i := by
  rw [get_eq_getElem, Vector.getElem_ofFn]

namespace Grid

variable {m n : Nat}

/-- The cell in a row and a column. -/
abbrev cell (g : Grid m n) (i : Fin m) (j : Fin n) : Quantity := (g.get i).get j

/-- The grid whose cells a rule gives. -/
def ofFn (f : Fin m → Fin n → Quantity) : Grid m n :=
  Vector.ofFn fun i => Vector.ofFn (f i)

/-- The grid with one value everywhere. -/
def filled (m n : Nat) (q : Quantity) : Grid m n :=
  Vector.replicate m (Vector.replicate n q)

/-- The grid with one on the diagonal and zero elsewhere, in numbers of the given kind. -/
def identity (n : Nat) (k : NumberKind) : Grid n n :=
  ofFn fun i j => if i = j then Quantity.oneOf k else Quantity.zeroOf k

/-- The grid of the rows of a rectangular list, each cell converted on its own, in order. -/
def ofListsM {α : Type} {f : Type → Type} [Monad f] (convert : α → f Quantity)
    (rows : List (List α)) (columns : Nat) (rect : ∀ row ∈ rows, row.length = columns) :
    f (Grid rows.length columns) :=
  Vector.ofFnM fun i =>
    let row := rows.get i
    have fits : row.length = columns := rect row (List.get_mem ..)
    Vector.ofFnM fun (j : Fin columns) => convert (row.get (j.cast fits.symm))

/-- The same grid under another name of its shape. -/
def cast {m n k l : Nat} (rows : m = k) (columns : n = l) (g : Grid m n) : Grid k l :=
  ofFn fun i j => g.cell (i.cast rows.symm) (j.cast columns.symm)

/-- A column, from top to bottom. -/
def column (g : Grid m n) (j : Fin n) : Vector Quantity m :=
  g.map fun row => row.get j

/-- The grid with rows and columns exchanged. -/
def transpose (g : Grid m n) : Grid n m :=
  ofFn fun i j => g.cell j i

/-- The rows as lists. -/
def rows (g : Grid m n) : List (List Quantity) :=
  g.toList.map Vector.toList

/-- The cells from left to right, then from top to bottom. -/
def cells (g : Grid m n) : List Quantity :=
  g.rows.flatten

/-- The widest kind among the cells. -/
def kind (g : Grid m n) : NumberKind :=
  g.cells.foldl (fun k q => k.widest q.kind) .rational

/-- Every cell is zero. -/
def isZero (g : Grid m n) : Bool :=
  g.cells.all Quantity.isZero

/-- Two grids of one shape have the same values cell by cell. -/
def SameValues (g h : Grid m n) : Prop :=
  ∀ (i : Fin m) (j : Fin n), (g.cell i j).SameValue (h.cell i j)

instance (g h : Grid m n) : Decidable (g.SameValues h) :=
  inferInstanceAs (Decidable (∀ (i : Fin m) (j : Fin n), (g.cell i j).SameValue (h.cell i j)))

@[simp] theorem cell_ofFn (f : Fin m → Fin n → Quantity) (i : Fin m) (j : Fin n) :
    (ofFn f).cell i j = f i j := by
  simp [cell, ofFn]

@[simp] theorem cell_transpose (g : Grid m n) (i : Fin n) (j : Fin m) :
    g.transpose.cell i j = g.cell j i :=
  cell_ofFn _ i j

@[ext] theorem ext {g h : Grid m n} (same : ∀ (i : Fin m) (j : Fin n), g.cell i j = h.cell i j) :
    g = h :=
  Vector.ext fun i hi => Vector.ext fun j hj => same ⟨i, hi⟩ ⟨j, hj⟩

theorem cell_cast {k l : Nat} (rows : m = k) (columns : n = l) (g : Grid m n) (i : Fin k) (j : Fin l) :
    (g.cast rows columns).cell i j = g.cell (i.cast rows.symm) (j.cast columns.symm) :=
  cell_ofFn _ i j

@[simp] theorem cast_rfl (g : Grid m n) : g.cast rfl rfl = g :=
  Grid.ext fun i j => cell_ofFn _ i j

@[simp] theorem length_rows (g : Grid m n) : g.rows.length = m := by
  simp [rows]

theorem length_of_mem_rows {g : Grid m n} {row : List Quantity} (h : row ∈ g.rows) :
    row.length = n := by
  obtain ⟨v, _, rfl⟩ := List.mem_map.1 h
  simp

end Grid

end ExactAlgebra
