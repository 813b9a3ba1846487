import ExactAlgebra.Proofs.Changes
import ExactAlgebra.Proofs.ComplexElimination
import ExactAlgebra.Proofs.MatrixArithmetic
import ExactAlgebra.Proofs.Rank
import ExactAlgebra.Proofs.RationalOrder
import Mathlib.LinearAlgebra.Matrix.Swap
import Mathlib.LinearAlgebra.Matrix.Transvection

/-!
# Elementary matrices

An operation on the rows of a grid multiplies the matrix that the grid denotes from the left, by an exchange,
a diagonal matrix or a transvection, which depends on the operation and on the number of rows alone. Carried
out on a grid that denotes the identity matrix, the operation therefore leaves that factor itself. The
operations on columns do the same from the right: they are operations on the rows of the transposed grid.

A division multiplies by the inverse of its divisor. This needs a divisor on the real axis; what is divided
may lie anywhere.

## Main definitions

* `Matrix.IsRowOperation`, `Matrix.IsColumnOperation`: operations with operands that fit.

## Main statements

* `Grid.swapRows_eq_mul`, `Grid.multiplyRow_eq_mul`, `Grid.exists_divideRow?_eq_mul`, `Grid.addRow_eq_mul`:
  operations on rows as products.
* `Grid.swapColumns_eq_mul`, `Grid.multiplyColumn_eq_mul`, `Grid.exists_divideColumn_eq_mul`: operations on
  columns as products.
* `Matrix.IsRowOperation.exists_makes`, `Matrix.IsColumnOperation.exists_makes`: what is made of a matrix, and
  of the identity matrix.
* `Matrix.mutate_eq_elementary_product`: all operations.
-/

namespace ExactAlgebra

/-! ## Indices -/

namespace Operand

/-- The order of integers is that of their values. -/
theorem isInOrder_int (r : Comparison) (a b : ℤ) :
    isInOrder r (.int a) (.int b) = .ok (decide (r.relates (a : ℚ) b)) := by
  have ordered : isInOrder r (.int a) (.int b) =
    .ok (r.holds ((Rational.ofInt a).ordering (.ofInt b))) := rfl
  rw [ordered, Rational.holds_ordering, Rational.toRat_ofInt, Rational.toRat_ofInt]

/-- An integer between the bounds is the index that it says. -/
theorem toCandidate_int {count : ℕ} (i : Fin count) (outside : ShapeFault) :
    (int i).toCandidate count outside = .ok (.ok i) := by
  have low : (0 : ℤ) ≤ i := Int.natCast_nonneg i
  have high : (i : ℤ) < count := Int.ofNat_lt.mpr i.isLt
  have low' : Comparison.lessOrEqual.relates ((0 : ℤ) : ℚ) ((i : ℤ) : ℚ) := Int.cast_le.mpr low
  have high' : Comparison.less.relates ((i : ℤ) : ℚ) ((count : ℤ) : ℚ) := Int.cast_lt.mpr high
  rw [toCandidate, isInOrder_int, isInOrder_int, decide_eq_true low', decide_eq_true high']
  exact congrArg Except.ok (dif_pos ⟨low, high⟩)

end Operand

/-! ## The factors -/

namespace Quantity

/-- A real divisor other than zero divides every number exactly, also off the real axis. -/
theorem exists_divide?_of_isReal (p : Quantity) {d : Quantity} (real : d.isReal = true)
    (nonzero : d.isZero = false) : ∃ q, p.divide? d = some q ∧ q.value = d.value⁻¹ * p.value := by
  have im : d.im = 0 := isReal_iff.mp real
  have re : d.re ≠ 0 := re_ne_zero real nonzero
  have scale : d.scale ≠ 0 := by
    rw [Quantity.scale, im, mul_zero, add_zero]
    exact mul_ne_zero re re
  obtain ⟨q, quotient, -⟩ := divide?_eq_some p scale
  have product : q.value * d.value = p.value := by
    rw [← value_mul, value_inj]
    exact (mul_quotient_iff quotient).mpr (.inl im)
  have divisor : d.value ≠ 0 := by
    rw [Ne, value_eq_zero, nonzero]
    exact Bool.false_ne_true
  refine ⟨q, quotient, ?_⟩
  rw [← product, mul_comm q.value, inv_mul_cancel_left₀ divisor]

end Quantity

namespace Grid

variable {m n : ℕ} {u : Grid m m}

theorem value_setRow_of_multiple {g : Grid m n} {i : Fin m} {row : Row n} {factor : ℂ}
    (cells : ∀ j, (row.get j).value = factor * g.value i j) :
    (g.setRow i row).value = Matrix.diagonal (Function.update 1 i factor) * g.value := by
  funext r j
  rw [Matrix.diagonal_mul, value_apply, cell, get_setRow]
  split_ifs with here
  · rw [here, Function.update_self, cells]
  · rw [Function.update_of_ne here, Pi.one_apply, one_mul, value_apply]

/-- Multiplying a row multiplies the grid, from the left, by the diagonal matrix with the scalar in the place of
the row and ones elsewhere. -/
theorem value_multiplyRow (g : Grid m n) (i : Fin m) (q : Quantity) :
    (g.multiplyRow i q).value = Matrix.diagonal (Function.update 1 i q.value) * g.value := by
  refine value_setRow_of_multiple fun j => ?_
  have cell : ((g.get i).map (· * q)).get j = g.cell i j * q := by
    simp [get_eq_getElem]
  rw [cell, Quantity.value_mul, mul_comm, value_apply]

/-- **Dividing a row** by a real number other than zero succeeds, whatever is in the row, and it multiplies by
the diagonal matrix with the reciprocal of the divisor. A divisor off the axis would give other quotients. -/
theorem exists_divideRow? (g : Grid m n) (i : Fin m) {d : Quantity} (real : d.isReal = true)
    (nonzero : d.isZero = false) :
    ∃ h, g.divideRow? i d = some h ∧
      h.value = Matrix.diagonal (Function.update 1 i d.value⁻¹) * g.value := by
  choose q quotient value using fun j => (g.cell i j).exists_divide?_of_isReal real nonzero
  have row : Row.divide? (g.get i) d = some (Vector.ofFn q) := ofFnM_eq_some quotient
  refine ⟨g.setRow i (Vector.ofFn q), ?_, value_setRow_of_multiple fun j => ?_⟩
  · rw [divideRow?, row, Option.map_some]
  · rw [get_ofFn, value, value_apply]

/-- Adding a multiple of a row to a row multiplies by a transvection. The two rows may be one: then the matrix
has one more than the scalar on the diagonal there. -/
theorem value_addRow (g : Grid m n) (i k : Fin m) (q : Quantity) :
    (g.addRow i k q).value = Matrix.transvection i k q.value * g.value := by
  funext r j
  rw [value_apply, cell, get_addRow]
  split_ifs with here
  · rw [here, Matrix.transvection_mul_apply_same, Row.get_addMultiple, Quantity.value_add,
      Quantity.value_mul, mul_comm, value_apply, value_apply]
  · rw [Matrix.transvection_mul_apply_of_ne i k r j here, value_apply]

/-! ## Operations on rows as products

The matrices above depend on the operation alone. So where the operation is carried out on a grid that
denotes the identity matrix, it leaves the matrix by which every other grid is multiplied. -/

/-- An exchange of rows, carried out on a grid and on one that denotes the unit matrix: the second of these is
the factor that makes the first. -/
theorem swapRows_eq_mul (one : u.value = 1) (g : Grid m n) (i k : Fin m) :
    (g.swapRows i k).value = (u.swapRows i k).value * g.value := by
  have exchange {c : ℕ} (h : Grid m c) : (h.swapRows i k).value = Matrix.swap ℂ i k * h.value := by
    rw [value_swapRows, Matrix.swap, PEquiv.toMatrix_toPEquiv_mul]
  rw [exchange, exchange, one, Matrix.mul_one]

/-- A row multiplied by a quantity, in the grid and in one that denotes the unit matrix; only the second result
is needed to know the factor. -/
theorem multiplyRow_eq_mul (one : u.value = 1) (g : Grid m n) (i : Fin m) (q : Quantity) :
    (g.multiplyRow i q).value = (u.multiplyRow i q).value * g.value := by
  rw [value_multiplyRow, value_multiplyRow, one, Matrix.mul_one]

/-- A row can be divided in both grids, since it depends on the divisor alone whether there are quotients, and
the divided unit matrix is the factor. -/
theorem exists_divideRow?_eq_mul (one : u.value = 1) (g : Grid m n) (i : Fin m) {d : Quantity}
    (real : d.isReal = true) (nonzero : d.isZero = false) :
    ∃ h e, g.divideRow? i d = some h ∧ u.divideRow? i d = some e ∧ h.value = e.value * g.value := by
  obtain ⟨h, quotient, value⟩ := g.exists_divideRow? i real nonzero
  obtain ⟨e, quotient', value'⟩ := u.exists_divideRow? i real nonzero
  exact ⟨h, e, quotient, quotient', by rw [value, value', one, Matrix.mul_one]⟩

/-- A multiple of one row added to another one: what has become of the unit matrix is the factor for every grid
with as many rows. -/
theorem addRow_eq_mul (one : u.value = 1) (g : Grid m n) (i k : Fin m) (q : Quantity) :
    (g.addRow i k q).value = (u.addRow i k q).value * g.value := by
  rw [value_addRow, value_addRow, one, Matrix.mul_one]

/-! ## Operations on columns as products

Columns are looked at in the transposed grids. -/

/-- A grid is what it was after two transpositions, with the very same cells and not only with equal ones. -/
theorem transpose_transpose (g : Grid m n) : g.transpose.transpose = g := by
  refine Grid.ext fun i j => ?_
  rw [cell_transpose, cell_transpose]

/-- The transposed grid of one that denotes the unit matrix denotes it, too, so operations on columns can start
from the same grid. -/
theorem value_transpose_eq_one (one : u.value = 1) : u.transpose.value = 1 := by
  rw [value_transpose, one, Matrix.transpose_one]

/-- A factor from the left of the transposed grid is a factor from the right of the grid. All statements about
columns are taken from those about rows by this. -/
theorem eq_mul_of_transpose {g h : Grid m n} {e : Grid n n}
    (rows : h.transpose.value = e.transpose.value * g.transpose.value) : h.value = g.value * e.value := by
  rw [value_transpose, value_transpose, value_transpose, ← Matrix.transpose_mul] at rows
  exact Matrix.transpose_injective rows

/-- An exchange of columns is a product with the exchanged unit matrix from the right. -/
theorem swapColumns_eq_mul (one : u.value = 1) (g : Grid n m) (j l : Fin m) :
    (g.swapColumns j l).value = g.value * (u.swapColumns j l).value := by
  apply eq_mul_of_transpose
  rw [transpose_swapColumns, transpose_swapColumns]
  exact swapRows_eq_mul (value_transpose_eq_one one) g.transpose j l

/-- A column multiplied by a quantity, as a product from the right with what the operation makes of the unit
matrix. -/
theorem multiplyColumn_eq_mul (one : u.value = 1) (g : Grid n m) (j : Fin m) (q : Quantity) :
    (g.multiplyColumn j q).value = g.value * (u.multiplyColumn j q).value := by
  apply eq_mul_of_transpose
  rw [transpose_multiplyColumn, transpose_multiplyColumn]
  exact multiplyRow_eq_mul (value_transpose_eq_one one) g.transpose j q

/-- A column divided by a real number other than zero. The division is one of a row in the transposed grid, so
the two quotients are given as transposed grids here. -/
theorem exists_divideColumn_eq_mul (one : u.value = 1) (g : Grid n m) (j : Fin m) {d : Quantity}
    (real : d.isReal = true) (nonzero : d.isZero = false) :
    ∃ (h : Grid n m) (e : Grid m m), g.transpose.divideRow? j d = some h.transpose ∧
      u.transpose.divideRow? j d = some e.transpose ∧ h.value = g.value * e.value := by
  obtain ⟨h, e, quotient, quotient', product⟩ :=
    exists_divideRow?_eq_mul (value_transpose_eq_one one) g.transpose j real nonzero
  rw [← h.transpose_transpose] at quotient product
  rw [← e.transpose_transpose] at quotient' product
  exact ⟨h.transpose, e.transpose, quotient, quotient', eq_mul_of_transpose product⟩

end Grid

namespace Matrix

variable {m : Matrix} {change : Mutation}

/-- The operations on rows, with operands that are indices of rows and stand for quantities; a divisor is
real and not zero. -/
inductive IsRowOperation (m : Matrix) : Mutation → Prop
  | swapRows {a b : Operand} {i k : Fin m.rowCount} : m.row a = .ok (.ok i) → m.row b = .ok (.ok k) →
      IsRowOperation m (.swapRows a b)
  | multiplyRow {r s : Operand} {i : Fin m.rowCount} {q : Quantity} : m.row r = .ok (.ok i) →
      s.toQuantity = .ok q → IsRowOperation m (.multiplyRow r s)
  | divideRow {r d : Operand} {i : Fin m.rowCount} {q : Quantity} : m.row r = .ok (.ok i) →
      d.toQuantity = .ok q → q.isReal = true → q.isZero = false → IsRowOperation m (.divideRow r d)
  | addRow {r a s : Operand} {i k : Fin m.rowCount} {q : Quantity} : m.row r = .ok (.ok i) →
      m.row a = .ok (.ok k) → s.toQuantity = .ok q → IsRowOperation m (.addRow r a s)

/-- The operations on columns, with operands that are indices of columns and stand for quantities; a divisor
is real and not zero. -/
inductive IsColumnOperation (m : Matrix) : Mutation → Prop
  | swapColumns {a b : Operand} {j l : Fin m.columnCount} : m.column a = .ok (.ok j) →
      m.column b = .ok (.ok l) → IsColumnOperation m (.swapColumns a b)
  | multiplyColumn {c s : Operand} {j : Fin m.columnCount} {q : Quantity} : m.column c = .ok (.ok j) →
      s.toQuantity = .ok q → IsColumnOperation m (.multiplyColumn c s)
  | divideColumn {c d : Operand} {j : Fin m.columnCount} {q : Quantity} : m.column c = .ok (.ok j) →
      d.toQuantity = .ok q → q.isReal = true → q.isZero = false → IsColumnOperation m (.divideColumn c d)

/-- An operand that stands for a quantity other than zero is accepted as a divisor, as this very quantity. -/
theorem divisor_eq_ok {d : Operand} {q : Quantity} (value : d.toQuantity = .ok q)
    (nonzero : q.isZero = false) : divisor d = .ok q := by
  rw [divisor, value]
  show (do
    if q.isZero then throw .divisionByZero
    return q : Except Error Quantity) = _
  rw [nonzero]
  rfl

/-- **An operation on rows has one factor**: with the same operands it succeeds on the matrix and on an identity
matrix with as many rows, and the first result is the second one times the matrix. There is a case for each
operation. -/
theorem IsRowOperation.exists_makes (operation : m.IsRowOperation change) (kind : NumberKind) :
    ∃ (g : Grid m.rowCount m.columnCount) (e : Grid m.rowCount m.rowCount), m.Makes change g ∧
      (identity m.rowCount m.rowCount_pos kind).copy.Makes change e ∧ g.value = e.value * m.grid.value := by
  have one := Grid.value_identity m.rowCount kind
  cases operation with
  | swapRows row row' =>
    exact ⟨_, _, .swapRows row row', .swapRows row row', Grid.swapRows_eq_mul one m.grid _ _⟩
  | multiplyRow row scalar =>
    exact ⟨_, _, .multiplyRow row scalar, .multiplyRow row scalar,
      Grid.multiplyRow_eq_mul one m.grid _ _⟩
  | divideRow row value real nonzero =>
    obtain ⟨g, e, divided, divided', product⟩ :=
      Grid.exists_divideRow?_eq_mul one m.grid _ real nonzero
    have divisor := divisor_eq_ok value nonzero
    exact ⟨g, e, .divideRow row divisor divided, .divideRow row divisor divided', product⟩
  | addRow row row' scalar =>
    exact ⟨_, _, .addRow row row' scalar, .addRow row row' scalar, Grid.addRow_eq_mul one m.grid _ _ _⟩

/-- An operation on columns, in the same way, has what it makes of an identity matrix with as many columns as
its factor from the right. -/
theorem IsColumnOperation.exists_makes (operation : m.IsColumnOperation change) (kind : NumberKind) :
    ∃ (g : Grid m.rowCount m.columnCount) (e : Grid m.columnCount m.columnCount), m.Makes change g ∧
      (identity m.columnCount m.columnCount_pos kind).copy.Makes change e ∧
      g.value = m.grid.value * e.value := by
  have one := Grid.value_identity m.columnCount kind
  cases operation with
  | swapColumns column column' =>
    exact ⟨_, _, .swapColumns column column', .swapColumns column column',
      Grid.swapColumns_eq_mul one m.grid _ _⟩
  | multiplyColumn column scalar =>
    exact ⟨_, _, .multiplyColumn column scalar, .multiplyColumn column scalar,
      Grid.multiplyColumn_eq_mul one m.grid _ _⟩
  | divideColumn column value real nonzero =>
    obtain ⟨g, e, divided, divided', product⟩ :=
      Grid.exists_divideColumn_eq_mul one m.grid _ real nonzero
    have divisor := divisor_eq_ok value nonzero
    exact ⟨g, e, .divideColumn column divisor divided, .divideColumn column divisor divided', product⟩

/-- Only reductions are asked for by name. So nothing but a write protection can stand in the way of an
operation on rows. -/
theorem IsRowOperation.reductionName?_eq_none (operation : m.IsRowOperation change) :
    change.reductionName? = none := by
  cases operation <;> rfl

theorem IsColumnOperation.reductionName?_eq_none (operation : m.IsColumnOperation change) :
    change.reductionName? = none := by
  cases operation <;> rfl

/-- **Operations on rows and columns are products with elementary matrices.** What an operation on rows
makes of a matrix is the product with what it makes of a copy of the identity matrix, from the left; and an
operation on columns is such a product from the right. Integers between the bounds are indices, and the
operator for products computes these products. -/
theorem mutate_eq_elementary_product (m : Matrix) (writable : m.readOnly = false) (kind : NumberKind) :
    (∀ change, m.IsRowOperation change →
      let e := (identity m.rowCount m.rowCount_pos kind).copy
      (m.mutate change).2.outcome = .ok () ∧ (e.mutate change).2.outcome = .ok () ∧
        SameResult (.ok (m.mutate change).1) ((e.mutate change).1.multiply m)) ∧
    (∀ change, m.IsColumnOperation change →
      let f := (identity m.columnCount m.columnCount_pos kind).copy
      (m.mutate change).2.outcome = .ok () ∧ (f.mutate change).2.outcome = .ok () ∧
        SameResult (.ok (m.mutate change).1) (m.multiply (f.mutate change).1)) ∧
    (∀ i : Fin m.rowCount, m.row (.int i) = .ok (.ok i)) ∧
    (∀ j : Fin m.columnCount, m.column (.int j) = .ok (.ok j)) ∧
    ∀ x y : Matrix, x.form.hasArithmetic = true →
      Operand.operate .product (.ofMatrix x) (.ofMatrix y) = (x.multiply y).map .ofMatrix := by
  refine ⟨?_, ?_, ?_, ?_, ?_⟩
  · intro change operation e
    obtain ⟨g, h, makes, makes', product⟩ := operation.exists_makes kind
    have unnamed := operation.reductionName?_eq_none
    obtain ⟨left, ok⟩ := makes.mutate writable (.inl unnamed)
    obtain ⟨left', ok'⟩ := makes'.mutate (readOnly_copy _) (.inl unnamed)
    refine ⟨ok, ok', ?_⟩
    rw [left, left']
    exact sameResult_of_value rfl (multiply_mk ..) (product.trans (Grid.value_multiply h m.grid).symm)
  · intro change operation f
    obtain ⟨g, h, makes, makes', product⟩ := operation.exists_makes kind
    have unnamed := operation.reductionName?_eq_none
    obtain ⟨left, ok⟩ := makes.mutate writable (.inl unnamed)
    obtain ⟨left', ok'⟩ := makes'.mutate (readOnly_copy _) (.inl unnamed)
    refine ⟨ok, ok', ?_⟩
    rw [left, left']
    exact sameResult_of_value rfl (multiply_mk ..) (product.trans (Grid.value_multiply m.grid h).symm)
  · exact fun i => Operand.toCandidate_int i _
  · exact fun j => Operand.toCandidate_int j _
  · exact fun x y offered => (arithmeticRequests offered y).product_operator none none

/-- A row that is added to itself, and a column that is divided, with cells of both kinds off the real
axis. -/
theorem mutate_eq_elementary_product_of_two_kinds :
    let i : Quantity := .complex ⟨0, .ofInt 1⟩
    let m : Matrix := ofGrid #v[#v[1 + i, 1], #v[0, i], #v[i, i]] (Nat.succ_pos 2) Nat.two_pos
    let e := (identity 3 (Nat.succ_pos 2) .rational).copy
    let f := (identity 2 Nat.two_pos .rational).copy
    SameResult (.ok (m.mutate (.addRow (.int 2) (.int 2) i)).1)
        ((e.mutate (.addRow (.int 2) (.int 2) i)).1.multiply m) ∧
      SameResult (.ok (m.mutate (.divideColumn (.int 0) (.int 3))).1)
        (m.multiply (f.mutate (.divideColumn (.int 0) (.int 3))).1) := by
  intro i m e f
  obtain ⟨rows, columns, row, column, -⟩ := mutate_eq_elementary_product m rfl .rational
  have last : m.row (.int 2) = .ok (.ok (2 : Fin 3)) := row (2 : Fin 3)
  have first : m.column (.int 0) = .ok (.ok (0 : Fin 2)) := column (0 : Fin 2)
  have added : m.IsRowOperation (.addRow (.int 2) (.int 2) i) := .addRow last last rfl
  have divided : m.IsColumnOperation (.divideColumn (.int 0) (.int 3)) :=
    .divideColumn first (Operand.toQuantity_int 3) rfl rfl
  exact ⟨(rows _ added).2.2, (columns _ divided).2.2⟩

end Matrix

end ExactAlgebra
