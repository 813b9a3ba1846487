import ExactAlgebra.Exchange.Symbolic
import ExactAlgebra.Proofs.SparseSums

/-!
# Matrices of other libraries and back

A matrix becomes an array of objects, or a matrix of an algebra system, by listing its cells row by row. Both
are cut into rows of the old length again when a matrix is made of them. An array of objects leaves its elements
alone, so the cells come back as they were. An algebra system knows one sort of number only, by its real and
imaginary parts; so the values come back, in the narrowest kinds.

## Main statements

* `Grid.getElem?_cells`: where a cell is in the list of all cells.
* `Matrix.splitRows_cells`: the list of all cells is cut into the rows.
* `Operand.toSymbolicNumber_quantity`: the number of an algebra system for a quantity.
* `Operand.toFraction_eq_ok_iff`, `Operand.toFraction_eq_error_iff`: the fraction for a quantity.
* `Matrix.back_from_other_libraries`: the round trips.
-/

namespace ExactAlgebra

/-! ## The cells row by row -/

namespace Grid

variable {m n : ℕ} (g : Grid m n)

theorem cells_eq_toList : g.cells = g.flatten.toList := by
  obtain ⟨xs, rfl⟩ := g
  have rows : (Array.toList ∘ Vector.toArray : Row n → List Quantity) = Vector.toList := rfl
  simp [cells, Grid.rows, Vector.flatten, rows]

theorem length_cells : g.cells.length = m * n := by
  rw [cells_eq_toList, Vector.length_toList]

/-- **The place of a cell** in the list of all cells: before it there are the rows above, and the cells of its
own row on the left. -/
theorem getElem?_cells (i : Fin m) (j : Fin n) : g.cells[i.val * n + j.val]? = some (g.cell i j) := by
  have lt := Matrix.index_lt i.isLt j.isLt
  have row : (i.val * n + j.val) / n = i.val := by
    rw [Nat.mul_comm, Nat.mul_add_div (Nat.zero_lt_of_lt j.isLt), Nat.div_eq_of_lt j.isLt, Nat.add_zero]
  have column : (i.val * n + j.val) % n = j.val := by
    rw [Nat.mul_add_mod_self_right, Nat.mod_eq_of_lt j.isLt]
  rw [cells_eq_toList, Vector.getElem?_toList, Vector.getElem?_eq_getElem lt, Vector.getElem_flatten]
  simp only [row, column, cell, get_eq_getElem]

end Grid

namespace Matrix

/-- The list of all cells is cut into the rows. -/
theorem splitRows_cells {m n : ℕ} (g : Grid m n) : splitRows n m g.cells = g.rows := by
  have listed (i : Fin m) (j : Fin n) : g.cell i j = (g.cells[i.val * n + j.val]?).getD 0 := by
    rw [g.getElem?_cells i j]
    rfl
  rw [Grid.rows_eq_map (f := fun i j => (g.cells[i * n + j]?).getD 0) listed]
  refine splitRows_eq_map fun i row j column => ?_
  rw [g.getElem?_cells ⟨i, row⟩ ⟨j, column⟩]
  rfl

/-- The cells of a grid, cut into rows, make the matrix of the grid. -/
theorem outcome_fromRows_cells {m n : ℕ} (g : Grid m n) (rows_pos : 0 < m) (columns_pos : 0 < n) :
    (fromRows (splitRows n m g.cells)).outcome = .ok (ofShape g rows_pos columns_pos) := by
  rw [splitRows_cells]
  exact outcome_fromRows g rows_pos columns_pos

/-! ## Arrays of objects -/

variable (m : Matrix) (mark : Mark)

/-- The array of a matrix holds its cells row by row. -/
theorem toArray_matrix : Operand.toArray (.matrix m mark) (.elementType .object) =
    .ok (.array .object [m.rowCount, m.columnCount] (m.cells.map .quantity) none) := by
  have elements : (m.cells.map Operand.quantity).mapM (ElementType.ofMember .object) =
      .ok (m.cells.map Operand.quantity) :=
    (mapM_eq_ok (g := id) fun v _ => rfl).trans (congrArg Except.ok (List.map_id _))
  have size : ElementType.sizeOfShape [m.rowCount, m.columnCount] = (m.cells.map Operand.quantity).length := by
    rw [List.length_map, Matrix.cells, Grid.length_cells, ElementType.sizeOfShape, List.foldl_cons,
      List.foldl_cons, List.foldl_nil, Nat.one_mul]
  show ElementType.ofMembers .object [m.rowCount, m.columnCount] (m.cells.map .quantity) = _
  rw [ElementType.ofMembers, elements]
  show Except.ok _ = _
  rw [size, Nat.sub_self, List.replicate_zero, List.append_nil]

theorem outcome_ofArray_cells : (ofArray
      (.array .object [m.rowCount, m.columnCount] (m.cells.map .quantity) mark)).outcome =
    .ok (ofShape m.grid m.rowCount_pos m.columnCount_pos) := by
  have size : m.rowCount * m.columnCount ≠ 0 := (Nat.mul_pos m.rowCount_pos m.columnCount_pos).ne'
  have cells : (m.cells.map Operand.quantity).mapM Operand.toCell = .ok m.cells := by
    rw [List.mapM_map]
    exact (mapM_eq_ok (g := id) fun q _ => rfl).trans (congrArg Except.ok (List.map_id _))
  show (ofElements [m.rowCount, m.columnCount] (m.cells.map .quantity)).outcome = _
  rw [ofElements, if_neg size, Logged.outcome_bind, Logged.outcome_ofExcept, cells]
  exact outcome_fromRows_cells m.grid m.rowCount_pos m.columnCount_pos

end Matrix

/-! ## Matrices of an algebra system -/

namespace SymbolicNumber

/-- The number with exact parts. -/
def ofParts (z : Rational × Rational) : SymbolicNumber := .exact z.1 z.2

/-- A number with exact parts is complex if its imaginary part is not zero. -/
theorem toQuantity_ofParts (z : Gaussian) : (ofParts (z.re, z.im)).toQuantity = .ok (Quantity.complex z).demote := by
  have zero_iff : SymbolicPart.exact z.im = .exact 0 ↔ z.isReal = true := by
    rw [SymbolicPart.exact.injEq, Gaussian.isReal, Rational.isZero_iff]
  show (if SymbolicPart.exact z.im = .exact 0 then Except.ok (Quantity.rational z.re) else .ok (.complex z)) =
    Except.ok (if z.isReal = true then .rational z.re else .complex z)
  by_cases real : z.isReal = true
  · rw [if_pos real, if_pos (zero_iff.mpr real)]
  · rw [if_neg real, if_neg (mt zero_iff.mp real)]

end SymbolicNumber

/-- Every quantity goes over as one number, and a rational one has the imaginary part zero there. So the conversion
of a single value and the conversion of a whole matrix are in step. -/
theorem Operand.toSymbolicNumber_quantity (q : Quantity) :
    toSymbolicNumber (.quantity q) = .ok (.symbolic q.toGaussian.re q.toGaussian.im) := by
  cases q with
  | rational a => rfl
  | complex z => rfl

namespace Matrix

/-- One by one, the cells of a matrix become the numbers that the matrix as a whole becomes. -/
theorem mapM_toSymbolicNumber (m : Matrix) :
    m.cells.mapM (fun q => Operand.toSymbolicNumber (.quantity q)) =
      .ok ((m.cells.map fun q => (q.toGaussian.re, q.toGaussian.im)).map fun z => .symbolic z.1 z.2) := by
  rw [List.map_map]
  exact mapM_eq_ok fun q _ => Operand.toSymbolicNumber_quantity q

/-- The matrix of the numbers for the cells of a matrix. -/
theorem outcome_ofSymbolic_cells (m : Matrix) : (ofSymbolic m.rowCount m.columnCount
      ((m.cells.map fun q => (q.toGaussian.re, q.toGaussian.im)).map SymbolicNumber.ofParts)).outcome =
    .ok m.demote := by
  have count : ¬ m.rowCount * m.columnCount ≠ ((m.cells.map fun q =>
      (q.toGaussian.re, q.toGaussian.im)).map SymbolicNumber.ofParts).length := by
    rw [List.length_map, List.length_map, cells, Grid.length_cells]
    exact not_not.mpr rfl
  have some : ¬ (m.rowCount = 0 ∨ m.columnCount = 0) := not_or.mpr ⟨m.rowCount_pos.ne', m.columnCount_pos.ne'⟩
  have quantities : ((m.cells.map fun q => (q.toGaussian.re, q.toGaussian.im)).map
      SymbolicNumber.ofParts).mapM SymbolicNumber.toQuantity = .ok m.grid.demote.cells := by
    rw [List.mapM_map, List.mapM_map, Grid.demote, Grid.cells, Grid.rows_mapCells, ← List.map_flatten]
    refine mapM_eq_ok fun q _ => ?_
    exact (SymbolicNumber.toQuantity_ofParts q.toGaussian).trans (congrArg Except.ok q.demote_toGaussian)
  rw [ofSymbolic, if_neg count, if_neg some, Logged.outcome_bind, Logged.outcome_ofExcept, quantities]
  exact outcome_fromRows_cells m.grid.demote m.rowCount_pos m.columnCount_pos

end Matrix

/-! ## Fractions -/

namespace Operand

theorem toReal_quantity (q : Quantity) : (quantity q).toReal =
    if q.isReal = true then .ok q.toGaussian.re else .error (.arithmetic (.nonReal q.toGaussian)) := by
  cases q with
  | rational a => rfl
  | complex z =>
    show orFail _ (if z.isReal = true then some z.re else none) = if z.isReal = true then _ else _
    split <;> rfl

/-- **The fraction for a quantity** is the number that it denotes, if that is a rational one. -/
theorem toFraction_eq_ok_iff {q : Quantity} {a : Rational} :
    toFraction (.quantity q) = .ok (.fraction a) ↔ q.value = (a.toRat : ℂ) := by
  rw [toFraction, toReal_quantity]
  split
  case isTrue real =>
    rw [Quantity.value_of_isReal real, Rat.cast_inj]
    show Except.ok (fraction q.toGaussian.re) = Except.ok (fraction a) ↔ q.toGaussian.re.toRat = a.toRat
    rw [Except.ok.injEq, fraction.injEq, Rational.toRat_inj]
  case isFalse complex =>
    exact iff_of_false nofun fun value => complex (Quantity.isReal_of_value_eq value).1

/-- A quantity has no fraction exactly if it is not real. -/
theorem toFraction_eq_error_iff {q : Quantity} :
    toFraction (.quantity q) = .error (.arithmetic (.nonReal q.toGaussian)) ↔ q.isReal = false := by
  rw [toFraction, toReal_quantity]
  split
  case isTrue real => exact iff_of_false nofun fun complex => Bool.eq_false_iff.mp complex real
  case isFalse complex => exact iff_of_true rfl (Bool.eq_false_iff.mpr complex)

end Operand

namespace Matrix

/-- **Matrices come back from other libraries.** The array of objects for a matrix holds its cells row by row,
and the matrix of the array has the same rows, with the very same cells. In an algebra system the matrix holds the
numbers that its cells become one by one, none of which fails; the matrix of these numbers is equal to the
matrix, with rational numbers for all real cells. Both are square in form exactly if the shape is. The fraction
for a cell is the number of the cell, and there is one exactly if the cell is real. -/
theorem back_from_other_libraries (m : Matrix) (mark : Mark) :
    (∃ elements, Operand.toArray (.matrix m mark) (.elementType .object) =
        .ok (.array .object [m.rowCount, m.columnCount] elements none) ∧
      (∀ i j, elements[i.val * m.columnCount + j.val]? = some (.quantity (m.grid.cell i j))) ∧
      ∃ r, (ofArray (.array .object [m.rowCount, m.columnCount] elements none)).outcome = .ok r ∧
        r.rows = m.rows ∧ r.form = if m.rowCount = m.columnCount then .square else .general) ∧
    (∃ parts, m.toSymbolic = .symbolicMatrix m.rowCount m.columnCount parts ∧
      (∀ i j, let z := (m.grid.cell i j).toGaussian
        parts[i.val * m.columnCount + j.val]? = some (z.re, z.im)) ∧
      m.cells.mapM (fun q => Operand.toSymbolicNumber (.quantity q)) =
        .ok (parts.map fun z => .symbolic z.1 z.2) ∧
      ∃ r, (ofSymbolic m.rowCount m.columnCount (parts.map SymbolicNumber.ofParts)).outcome = .ok r ∧
        Operand.equals true (.ofMatrix r) (.ofMatrix m) = .ok (.bool true) ∧
        (∃ (rows : r.rowCount = m.rowCount) (columns : r.columnCount = m.columnCount),
          ∀ i j, ((r.grid.cast rows columns).cell i j).kind = .complex ↔ (m.grid.cell i j).isReal = false) ∧
        r.form = if m.rowCount = m.columnCount then .square else .general) ∧
    ∀ i j, let q := m.grid.cell i j
      (∀ a : Rational, Operand.toFraction (.quantity q) = .ok (.fraction a) ↔ q.value = (a.toRat : ℂ)) ∧
        (Operand.toFraction (.quantity q) = .error (.arithmetic (.nonReal q.toGaussian)) ↔ q.isReal = false) := by
  refine ⟨⟨_, m.toArray_matrix mark, fun i j => ?_, _, m.outcome_ofArray_cells none, rows_ofShape ..,
    form_ofShape ..⟩,
    ⟨_, rfl, fun i j => ?_, m.mapM_toSymbolicNumber, _, m.outcome_ofSymbolic_cells, ?_, ?_, form_ofShape ..⟩,
    fun i j => ⟨fun a => Operand.toFraction_eq_ok_iff, Operand.toFraction_eq_error_iff⟩⟩
  · rw [List.getElem?_map, cells, Grid.getElem?_cells]
    rfl
  · rw [List.getElem?_map, cells, Grid.getElem?_cells]
    rfl
  · rw [equals_ofMatrix, decide_eq_true m.demote_sameValues]
  · refine ⟨rowCount_ofShape .., columnCount_ofShape .., fun i j => ?_⟩
    have cell : (m.demote.grid.cast (rowCount_ofShape ..) (columnCount_ofShape ..)).cell i j =
        (m.grid.cell i j).demote :=
      (congrArg (fun g => g.cell i j) (cast_grid_ofShape _ _ _ _ _)).trans (Grid.cell_mapCells ..)
    exact (congrArg (Quantity.kind · = .complex) cell).to_iff.trans Quantity.kind_demote

end Matrix

end ExactAlgebra
