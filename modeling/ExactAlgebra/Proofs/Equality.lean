import ExactAlgebra.Operand.Equality
import Mathlib.Data.List.Zip
import Mathlib.Data.Vector.Basic

/-!
# Equality of matrices

Matrices are equal when they have one shape and the cells at each place have one value; neither the forms
of the matrices nor the kinds of the cells play a part. With one shape given, equality is a matter of the
grids alone.

A cell can be replaced by the complex number of the same value. Two grids have the same values exactly
when they are the same grid after that, so an equality of values becomes an equation.

## Main definitions

* `Grid.mapCells`: one function applied to every cell.
* `Quantity.widen`, `Grid.widen`: the same values as complex numbers.

## Main statements

* `Matrix.sameValues_iff`, `Matrix.SameValues.exists_grid`: equality of matrices, cell by cell.
* `Grid.sameValues_iff_widen`: equality of values as an equation.
* `Operand.equals_of_equal`, `Matrix.equals_ofMatrix`: the operator.
-/

namespace ExactAlgebra

/-! ## Cells -/

/-- What holds of all pairs of cells in two lists of rows. -/
theorem forall_mem_zip_flatten {α β : Type} {P : α × β → Prop} {n : ℕ} {xs : List (Vector α n)}
    {ys : List (Vector β n)} :
    (∀ pair ∈ (xs.map Vector.toList).flatten.zip (ys.map Vector.toList).flatten, P pair) ↔
      ∀ rows ∈ xs.zip ys, ∀ pair ∈ rows.1.toList.zip rows.2.toList, P pair := by
  induction xs generalizing ys with
  | nil => simp
  | cons x xs ih =>
    cases ys with
    | nil => simp
    | cons y ys =>
      have lengths : x.toList.length = y.toList.length := by simp
      simp only [List.map_cons, List.flatten_cons, List.zip_append lengths, List.forall_mem_append, ih,
        List.zip_cons_cons, List.forall_mem_cons]

/-- What holds of all pairs of elements at one place. -/
theorem forall_mem_zip_toList {α β : Type} {P : α × β → Prop} {n : ℕ} {v : Vector α n}
    {w : Vector β n} :
    (∀ pair ∈ v.toList.zip w.toList, P pair) ↔ ∀ i : Fin n, P (v.get i, w.get i) := by
  simp only [List.forall_mem_iff_getElem, List.getElem_zip, List.length_zip, Vector.length_toList,
    min_self, Vector.getElem_toList]
  exact ⟨fun all i => all i i.isLt, fun all i lt => all ⟨i, lt⟩⟩

namespace Quantity

/-- The same value as a complex number. -/
def widen (q : Quantity) : Quantity := complex q.toGaussian

theorem sameValue_iff_widen {p q : Quantity} : p.SameValue q ↔ p.widen = q.widen :=
  Quantity.complex.injEq _ _ ▸ Iff.rfl

theorem widen_sameValue (q : Quantity) : q.widen.SameValue q := rfl

end Quantity

namespace Grid

variable {m n : ℕ}

/-- One function applied to every cell. -/
def mapCells (f : Quantity → Quantity) (g : Grid m n) : Grid m n :=
  Vector.map (Vector.map f) g

@[simp] theorem get_mapCells (f : Quantity → Quantity) (g : Grid m n) (i : Fin m) :
    (g.mapCells f).get i = Vector.map f (g.get i) := by
  simp [mapCells, get_eq_getElem]

@[simp] theorem cell_mapCells (f : Quantity → Quantity) (g : Grid m n) (i : Fin m) (j : Fin n) :
    (g.mapCells f).cell i j = f (g.cell i j) := by
  rw [cell, get_mapCells, get_eq_getElem, Vector.getElem_map]
  rfl

/-- The rows of a grid as lists, after a function was applied to every cell. Text and files are made of these
lists. -/
theorem rows_mapCells (f : Quantity → Quantity) (g : Grid m n) :
    (g.mapCells f).rows = g.rows.map (List.map f) := by
  simp [rows, mapCells, Vector.toList_map]

/-- The same values as complex numbers. -/
def widen (g : Grid m n) : Grid m n := g.mapCells Quantity.widen

/-- **Equality of values is an equation** between grids of complex numbers. By it, whatever depends on the
widened grid alone does not depend on kinds. -/
theorem sameValues_iff_widen {g h : Grid m n} : g.SameValues h ↔ g.widen = h.widen := by
  constructor
  · intro same
    refine Grid.ext fun i j => ?_
    rw [widen, widen, cell_mapCells, cell_mapCells]
    exact Quantity.sameValue_iff_widen.mp (same i j)
  · intro same i j
    have cells := congrArg (fun k : Grid m n => k.cell i j) same
    rw [widen, widen, cell_mapCells, cell_mapCells] at cells
    exact Quantity.sameValue_iff_widen.mpr cells

/-- A grid is determined by its rows as lists: its shape is in its type, so that no two of them could be cut in
different ways. -/
theorem rows_injective {g h : Grid m n} (same : g.rows = h.rows) : g = h := by
  have inner : Function.Injective (Vector.toList (α := Quantity) (n := n)) :=
    fun _ _ => Vector.toList_inj.mp
  exact Vector.toList_inj.mp (List.map_injective_iff.mpr inner same)

end Grid

namespace Matrix

/-- Matrices of one shape are equal when their cells are. -/
theorem sameValues_iff (m o : Matrix) (rows : o.rowCount = m.rowCount)
    (columns : o.columnCount = m.columnCount) :
    m.SameValues o ↔ m.grid.SameValues (o.grid.cast rows columns) := by
  simp only [Grid.SameValues, Grid.cell_cast]
  -- With one shape for both the casts do nothing.
  obtain ⟨form, r, c, g, rowsPos, columnsPos, square⟩ := o
  obtain rfl : r = m.rowCount := rows
  obtain rfl : c = m.columnCount := columns
  show (_ ∧ _ ∧ _) ↔ _
  rw [and_iff_right rfl, and_iff_right rfl]
  refine forall_mem_zip_flatten.trans (forall_mem_zip_toList.trans (forall_congr' fun i => ?_))
  exact forall_mem_zip_toList

/-- A matrix that is equal to another one is a grid of the same shape with the same values. -/
theorem SameValues.exists_grid {m o : Matrix} (same : m.SameValues o) :
    ∃ (form : Form) (g : Grid m.rowCount m.columnCount)
      (square : form.isSquare = true → m.rowCount = m.columnCount),
      o = ⟨form, m.rowCount, m.columnCount, g, m.rowCount_pos, m.columnCount_pos, square⟩ ∧
        m.grid.SameValues g := by
  have cells := (sameValues_iff m o same.1.symm same.2.1.symm).mp same
  obtain ⟨form, r, c, g, rowsPos, columnsPos, square⟩ := o
  obtain rfl : m.rowCount = r := same.1
  obtain rfl : m.columnCount = c := same.2.1
  refine ⟨form, g, square, rfl, fun i j => ?_⟩
  have cell := cells i j
  rwa [Grid.cell_cast] at cell

/-- A matrix that is equal to another one of the same form is that matrix with other cells. -/
theorem SameValues.exists_withGrid {m o : Matrix} (same : m.SameValues o) (form : m.form = o.form) :
    ∃ g, o = m.withGrid g ∧ m.grid.SameValues g := by
  obtain ⟨form', g, square, rfl, values⟩ := same.exists_grid
  obtain rfl : m.form = form' := form
  exact ⟨g, rfl, values⟩

/-- Between matrices of one shape the grids decide. -/
theorem sameValues_mk {r c : ℕ} {g h : Grid r c} {form form' : Form} {rowsPos : 0 < r}
    {columnsPos : 0 < c} {square : form.isSquare = true → r = c}
    {square' : form'.isSquare = true → r = c} :
    SameValues ⟨form, r, c, g, rowsPos, columnsPos, square⟩
        ⟨form', r, c, h, rowsPos, columnsPos, square'⟩ ↔ g.SameValues h := by
  refine (sameValues_iff ⟨form, r, c, g, rowsPos, columnsPos, square⟩
    ⟨form', r, c, h, rowsPos, columnsPos, square'⟩ rfl rfl).trans ?_
  show g.SameValues (h.cast rfl rfl) ↔ _
  rw [Grid.cast_rfl]

/-- Every matrix is equal to itself. Together with the next two statements this makes equality an equivalence,
over all shapes and forms. -/
theorem SameValues.refl (m : Matrix) : m.SameValues m :=
  sameValues_mk.mpr fun _ _ => Quantity.SameValue.refl _

theorem SameValues.symm {m o : Matrix} (same : m.SameValues o) : o.SameValues m := by
  obtain ⟨form, g, square, rfl, values⟩ := same.exists_grid
  exact sameValues_mk.mpr fun i j => (values i j).symm

/-- Equality may be passed on. The shapes agree in turn, so the cells can be compared place by place through the
matrix in the middle. -/
theorem SameValues.trans {m o p : Matrix} (same : m.SameValues o) (same' : o.SameValues p) :
    m.SameValues p := by
  obtain ⟨form, g, square, rfl, values⟩ := same.exists_grid
  obtain ⟨form', h, square', rfl, values'⟩ := same'.exists_grid
  exact sameValues_mk.mpr fun i j => (values i j).trans (values' i j)

end Matrix

/-! ## The operator -/

namespace Operand

/-- Between values that are no arrays the operator tells what equality is. -/
theorem equals_of_equal {a b : Operand} {same : Bool} (left : a.isArray = false)
    (right : b.isArray = false) (equal : equal a b = .ok same) : equals true a b = .ok (.bool same) := by
  unfold equals
  rw [left, right, equal]
  show Except.ok (Operand.bool (same == true)) = _
  rw [beq_true]

end Operand

/-- **The operator decides equality.** Of two matrices it never fails and never gives up; it asks whether shapes
and values are the same. -/
theorem Matrix.equals_ofMatrix (m o : Matrix) :
    Operand.equals true (.ofMatrix m) (.ofMatrix o) = .ok (.bool (decide (m.SameValues o))) := by
  refine Operand.equals_of_equal rfl rfl ?_
  rw [Operand.equal]
  · rfl
  all_goals
    intros
    contradiction

/-- The operator finds two matrices equal when they are. -/
theorem Matrix.equals_eq_true_iff {m o : Matrix} :
    Operand.equals true (.ofMatrix m) (.ofMatrix o) = .ok (.bool true) ↔ m.SameValues o := by
  rw [equals_ofMatrix, Except.ok.injEq, Operand.bool.injEq, decide_eq_true_iff]

/-- Between two quantities the operator decides whether they have one value. A rational and a complex quantity
may well be equal by it. -/
theorem Quantity.equals_quantity (p q : Quantity) :
    Operand.equals true (.quantity p) (.quantity q) = .ok (.bool (decide (p.SameValue q))) := by
  refine Operand.equals_of_equal rfl rfl ?_
  rw [Operand.equal]
  · rfl
  all_goals
    intros
    contradiction

end ExactAlgebra
