import ExactAlgebra.Matrix.Grid

/-!
# Sums and products of grids

Entrywise sums and multiples, and the row by column product. The scalar product of two vectors starts
from the rational zero, so a cell of a product is of the widest kind among the cells it is made of.

## Main definitions

* `dotProduct`: the sum of the products of paired quantities.
* `Grid.scale`, `Grid.add`, `Grid.multiply`: the operations on grids.
-/

namespace ExactAlgebra

/-- The sum of the products of paired quantities; what has no partner does not count. -/
def dotProduct (v u : List Quantity) : Quantity :=
  (v.zip u).foldl (fun total pair => total + pair.1 * pair.2) 0

namespace Grid

variable {m n p : Nat}

/-- Every cell multiplied by a scalar. -/
def scale (g : Grid m n) (scalar : Quantity) : Grid m n :=
  ofFn fun i j => g.cell i j * scalar

/-- The cellwise sum. -/
def add (g h : Grid m n) : Grid m n :=
  ofFn fun i j => g.cell i j + h.cell i j

/-- The row by column product. -/
def multiply (g : Grid m n) (h : Grid n p) : Grid m p :=
  let columns := h.transpose
  ofFn fun i j => dotProduct (g.get i).toList (columns.get j).toList

@[simp] theorem cell_scale (g : Grid m n) (scalar : Quantity) (i : Fin m) (j : Fin n) :
    (g.scale scalar).cell i j = g.cell i j * scalar :=
  cell_ofFn _ i j

@[simp] theorem cell_add (g h : Grid m n) (i : Fin m) (j : Fin n) :
    (g.add h).cell i j = g.cell i j + h.cell i j :=
  cell_ofFn _ i j

end Grid

end ExactAlgebra
