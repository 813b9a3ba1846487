import ExactAlgebra.Matrix.Elementary

/-!
# Row reduction

Gaussian elimination, step by step. Step `k` looks at the rows and columns from `k` on: it takes the
first column that is not zero there, and in it the topmost cell that is not zero, as the pivot; brings
the pivot's row to row `k`; and clears the column below it. The reduction ends when no pivot is left
or every column had its step. A grid of one row is taken as it is.

Elimination divides by pivots, and a pivot off the real axis need not have quotients. So a reduction
tells both which pivots it reached and what it led to, if anything.

## Main definitions

* `Grid.findPivot?`: the pivot of a step.
* `Grid.clearBelow?`: the elimination of one column.
* `Elimination`, `Grid.echelon`: the reduction to row echelon form.
* `Grid.reducedEchelon`: the reduction to reduced row echelon form.
* `Elimination.swaps`, `Grid.rank?`, `Grid.diagonalProduct`: what is read off a reduction.
-/

namespace ExactAlgebra

/-- The pivot of one step of a reduction. -/
structure Pivot where
  /-- The step, which is also the row that the pivot is brought to. -/
  step : Nat
  /-- The row that the pivot was found in. -/
  row : Nat
  /-- The column of the pivot. -/
  column : Nat
  deriving DecidableEq, Repr

/-- A reduction: the pivots in the order of their steps, and the grid that it led to, if no step was
left without a quotient. -/
structure Elimination (m n : Nat) where
  /-- The pivots that were reached. -/
  pivots : List Pivot
  /-- The reduced grid. -/
  result? : Option (Grid m n)

namespace Elimination

variable {m n : Nat}

/-- How many steps exchanged two rows. -/
def swaps (e : Elimination m n) : Nat :=
  (e.pivots.filter fun p => p.row != p.step).length

end Elimination

namespace Grid

variable {m n : Nat}

/-- The topmost row from `k` on whose cell in column `c` is not zero. -/
def pivotRow? (g : Grid m n) (k : Nat) (c : Fin n) : Option (Fin m) :=
  (List.finRange m).find? fun r => decide (k ≤ r.val) && !(g.cell r c).isZero

/-- The pivot of step `k`: the columns from `k` on are searched from left to right. -/
def findPivot? (g : Grid m n) (k : Nat) : Option (Fin m × Fin n) :=
  (List.finRange n).findSome? fun c =>
    if k ≤ c.val then (g.pivotRow? k c).map fun r => (r, c) else none

/-- Every cell of column `c` below row `k` made zero, by adding a multiple of row `k` to each row
whose cell is not zero yet. -/
def clearBelow? (g : Grid m n) (k : Fin m) (c : Fin n) : Option (Grid m n) :=
  Vector.ofFnM fun i =>
    if i ≤ k ∨ (g.cell i c).isZero then some (g.get i)
    else ((g.cell i c).divide? (g.cell k c)).map fun factor => (g.get i).addMultiple (g.get k) (-factor)

/-- The steps of a reduction to row echelon form, one after the other. -/
def eliminate : List Nat → Grid m n → Elimination m n
  | [], g => ⟨[], some g⟩
  | k :: steps, g =>
    if below : k < m then
      match g.findPivot? k with
      | none => ⟨[], some g⟩
      | some (r, c) =>
        match (g.swapRows ⟨k, below⟩ r).clearBelow? ⟨k, below⟩ c with
        | none => ⟨[⟨k, r, c⟩], none⟩
        | some cleared =>
          let rest := eliminate steps cleared
          ⟨⟨k, r, c⟩ :: rest.pivots, rest.result?⟩
    else ⟨[], some g⟩

/-- The reduction to row echelon form. -/
def echelon (g : Grid m n) : Elimination m n :=
  if m = 1 then ⟨[], some g⟩ else eliminate (List.range n) g

/-- The leading column of every row. -/
def leadingColumns (g : Grid m n) : Vector (Option (Fin n)) m :=
  g.map Row.leadingColumn?

@[simp] theorem get_leadingColumns (g : Grid m n) (i : Fin m) :
    g.leadingColumns.get i = (g.get i).leadingColumn? := by
  simp [leadingColumns, get_eq_getElem]

/-- Every row divided by its leading cell. -/
def normalize? (g : Grid m n) : Option (Grid m n) :=
  Vector.ofFnM fun i =>
    match (g.get i).leadingColumn? with
    | none => some (g.get i)
    | some c => (g.get i).divide? (g.cell i c)

/-- The cells of column `c` above row `i` made zero, by adding a multiple of row `i` to each row whose
cell is not zero yet. -/
def clearAbove (g : Grid m n) (i : Fin m) (c : Fin n) : Grid m n :=
  Vector.ofFn fun r =>
    if i ≤ r ∨ (g.cell r c).isZero then g.get r else (g.get r).addMultiple (g.get i) (-g.cell r c)

/-- The column of the leading cell of row `i` cleared above the row, if the row has one. -/
def clearLead (leading : Vector (Option (Fin n)) m) (i : Fin m) (g : Grid m n) : Grid m n :=
  match leading.get i with
  | none => g
  | some c => g.clearAbove i c

/-- The leading columns cleared above their rows, the bottom row first. -/
def clearLeading (leading : Vector (Option (Fin n)) m) (g : Grid m n) : Grid m n :=
  (List.finRange m).foldr (clearLead leading) g

/-- The reduction to reduced row echelon form: the row echelon form, every leading cell made one, and
the columns of the leading cells cleared above them. -/
def reducedEchelon (g : Grid m n) : Elimination m n :=
  let e := g.echelon
  ⟨e.pivots, e.result?.bind fun r => r.normalize?.map (clearLeading r.leadingColumns)⟩

/-- The number of rows that are not zero. -/
def nonzeroRows (g : Grid m n) : Nat :=
  (g.toList.filter fun row => row.leadingColumn?.isSome).length

/-- The number of rows that are not zero in the row echelon form. -/
def rank? (g : Grid m n) : Option Nat :=
  g.echelon.result?.map nonzeroRows

/-- The product of the cells on the diagonal. -/
def diagonalProduct (g : Grid n n) : Quantity :=
  (List.finRange n).foldl (fun product i => product * g.cell i i) 1

/-- Every cell below the diagonal is zero. -/
def isUpperTriangular (g : Grid n n) : Bool :=
  (List.finRange n).all fun i => (List.finRange n).all fun j => decide (i ≤ j) || (g.cell i j).isZero

end Grid

end ExactAlgebra
