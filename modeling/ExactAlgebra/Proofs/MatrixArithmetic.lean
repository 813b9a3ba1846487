import ExactAlgebra.Matrix.Request
import ExactAlgebra.Operand.Operators
import ExactAlgebra.Proofs.ComplexValues
import ExactAlgebra.Proofs.Equality

/-!
# Laws of matrix arithmetic

Matrices of fitting shapes obey the laws of a ring, whatever the kinds of their cells and whether these lie
on the real axis or not: grids denote complex matrices, and their sums and products denote sums and products.
What the laws leave out is whether a computation gets that far. A product exists exactly when the first
matrix has as many columns as the second has rows, a sum exactly when the shapes are the same.

## Main definitions

* `Matrix.SameResult`: two computations both give a matrix, and the matrices are equal.
* `Matrix.RingLaws`: associativity, distributivity, and what scalars, transposed matrices and identity
  matrices do in products.
* `Matrix.ArithmeticRequests`: what is answered to requests for arithmetic, and when they fail.

## Main statements

* `Matrix.sameResult_of_value`: matrices that denote the same are equal.
* `Matrix.multiply_eq_error_iff`, `Matrix.add_eq_error_iff`: when there is no product and no sum.
* `Matrix.arithmeticRequests`: requests to forms with arithmetic.
* `Matrix.ringLaws`: matrices of fitting shapes.
* `Matrix.arithmetic_laws`: both together.
-/

namespace ExactAlgebra

theorem Logged.ofExcept_bind_pure {α β : Type} (x : Except Error α) (f : α → β) :
    (ofExcept x >>= fun a => pure (f a)) = ⟨[], x.map f⟩ := by
  cases x <;> rfl

namespace Matrix

open Grid (value_add value_identity value_multiply value_scale value_transpose)

variable {m o : Matrix}

/-- Two computations both give a matrix, and the operator finds the two matrices equal. -/
def SameResult (x y : Except Error Matrix) : Prop :=
  ∃ p q, x = .ok p ∧ y = .ok q ∧ Operand.equals true (.ofMatrix p) (.ofMatrix q) = .ok (.bool true)

/-- The laws of arithmetic, for matrices of fitting shapes and a scalar. -/
structure RingLaws (a a' b b' c : Matrix) (q : Quantity) : Prop where
  multiply_assoc : SameResult (do (← a.multiply b).multiply c) (do a.multiply (← b.multiply c))
  multiply_add :
    SameResult (do a.multiply (← b.add b')) (do (← a.multiply b).add (← a.multiply b'))
  add_multiply :
    SameResult (do (← a.add a').multiply b) (do (← a.multiply b).add (← a'.multiply b))
  scale_multiply : SameResult ((a.scale q).multiply b) (do return (← a.multiply b).scale q)
  multiply_scale : SameResult (do return (← a.multiply b).scale q) (a.multiply (b.scale q))
  transpose_multiply :
    SameResult (do return (← a.multiply b).transpose) (b.transpose.multiply a.transpose)
  transpose_transpose : SameResult (.ok a.transpose.transpose) (.ok a)
  identity_multiply (k : NumberKind) :
    SameResult ((identity a.rowCount a.rowCount_pos k).multiply a) (.ok a)
  multiply_identity (k : NumberKind) :
    SameResult (.ok a) (a.multiply (identity a.columnCount a.columnCount_pos k))

/-- What requests for arithmetic are answered with: the results of the operations on matrices, which offer
arithmetic themselves. The operators do the same. The matrix that is asked stays as it was. -/
structure ArithmeticRequests (m o : Matrix) : Prop where
  multiply (mark : Mark) :
    m.respond (.multiply (.matrix o mark)) = (m, ⟨[], (m.multiply o).map .ofMatrix⟩)
  add (mark : Mark) : m.respond (.add (.matrix o mark)) = (m, ⟨[], (m.add o).map .ofMatrix⟩)
  scale (s : Operand) (q : Quantity) (scalar : s.toQuantity = .ok q) :
    m.respond (.scale s) = (m, ⟨[], .ok (.ofMatrix (m.scale q))⟩)
  transpose : m.respond .transpose = (m, ⟨[], .ok (.ofMatrix m.transpose)⟩)
  product_operator (mark mark' : Mark) :
    Operand.operate .product (.matrix m mark) (.matrix o mark') = (m.multiply o).map .ofMatrix
  sum_operator (mark mark' : Mark) :
    Operand.operate .add (.matrix m mark) (.matrix o mark') = (m.add o).map .ofMatrix
  multiply_fails (e : Error) :
    m.multiply o = .error e ↔
      m.columnCount ≠ o.rowCount ∧ e = .shape (.multiplierRows m.columnCount o.rowCount)
  add_fails (e : Error) :
    m.add o = .error e ↔
      (m.rowCount, m.columnCount) ≠ (o.rowCount, o.columnCount) ∧
        e = .shape (.unequal (m.rowCount, m.columnCount) (o.rowCount, o.columnCount))
  offered (p : Matrix)
    (result : m.multiply o = .ok p ∨ m.add o = .ok p ∨ (∃ q, m.scale q = p) ∨ m.transpose = p) :
    p.form.hasArithmetic = true

/-! ## Sums and products of fitting shapes -/

section Shapes

variable {r n c : ℕ} {form form' : Form} {rows : 0 < r} {inner inner' : 0 < n} {columns columns' : 0 < c}

theorem multiply_mk (g : Grid r n) (h : Grid n c) {square : form.isSquare = true → r = n}
    {square' : form'.isSquare = true → n = c} :
    multiply ⟨form, r, n, g, rows, inner, square⟩ ⟨form', n, c, h, inner', columns, square'⟩ =
      .ok (ofGrid (g.multiply h) rows columns) := by
  rw [multiply, dif_pos rfl, Grid.cast_rfl]

theorem add_mk (g h : Grid r c) {rows' : 0 < r} {square : form.isSquare = true → r = c}
    {square' : form'.isSquare = true → r = c} :
    add ⟨form, r, c, g, rows, columns, square⟩ ⟨form', r, c, h, rows', columns', square'⟩ =
      .ok (withGrid (copy ⟨form, r, c, g, rows, columns, square⟩) (g.add h)) := by
  rw [add, dif_pos ⟨rfl, rfl⟩, Grid.cast_rfl]

/-- Computations whose matrices denote the same complex matrix have equal results. -/
theorem sameResult_of_value {g h : Grid r c} {rows' : 0 < r} {square : form.isSquare = true → r = c}
    {square' : form'.isSquare = true → r = c} {x y : Except Error Matrix}
    (first : x = .ok ⟨form, r, c, g, rows, columns, square⟩)
    (second : y = .ok ⟨form', r, c, h, rows', columns', square'⟩) (value : g.value = h.value) :
    SameResult x y :=
  ⟨_, _, first, second, equals_eq_true_iff.mpr (sameValues_mk.mpr (Grid.value_inj.mp value))⟩

end Shapes

/-! ## Requests -/

/-- There is no product exactly when the first matrix has not as many columns as the second has rows. -/
theorem multiply_eq_error_iff {e : Error} :
    m.multiply o = .error e ↔
      m.columnCount ≠ o.rowCount ∧ e = .shape (.multiplierRows m.columnCount o.rowCount) := by
  rw [multiply]
  split_ifs with fits
  · refine iff_of_false ?_ (fun failed => failed.1 fits.symm)
    intro failed
    cases failed
  · rw [Except.error.injEq, and_iff_right (Ne.symm fits), eq_comm]

/-- There is no sum exactly when the shapes differ. -/
theorem add_eq_error_iff {e : Error} :
    m.add o = .error e ↔
      (m.rowCount, m.columnCount) ≠ (o.rowCount, o.columnCount) ∧
        e = .shape (.unequal (m.rowCount, m.columnCount) (o.rowCount, o.columnCount)) := by
  have shapes : (m.rowCount, m.columnCount) = (o.rowCount, o.columnCount) ↔
      o.rowCount = m.rowCount ∧ o.columnCount = m.columnCount := by
    rw [Prod.mk.injEq, eq_comm, eq_comm (a := m.columnCount)]
  rw [add, Ne, shapes]
  split_ifs with fits
  · refine iff_of_false ?_ (fun failed => failed.1 fits)
    intro failed
    cases failed
  · rw [Except.error.injEq, and_iff_right fits, eq_comm]

/-- Copies offer what the matrix offers. The copy of an identity matrix is square in form, and square matrices
have all operations, too. -/
theorem hasArithmetic_copy : m.copy.form.hasArithmetic = m.form.hasArithmetic := by
  show m.form.copied.hasArithmetic = m.form.hasArithmetic
  cases m.form <;> rfl

theorem arithmeticRequests (offered : m.form.hasArithmetic = true) (o : Matrix) :
    m.ArithmeticRequests o := by
  have arithmetic (name : String) : m.requireArithmetic name = .ok () := if_pos offered
  constructor
  case multiply =>
    intro mark
    rw [respond, answer, arithmetic, ← Logged.ofExcept_bind_pure]
    rfl
  case add =>
    intro mark
    rw [respond, answer, arithmetic, ← Logged.ofExcept_bind_pure]
    rfl
  case scale =>
    intro s q scalar
    rw [respond, answer, arithmetic, scalar]
    rfl
  case transpose =>
    rw [respond, answer, arithmetic]
    rfl
  case product_operator => exact fun mark mark' => if_pos offered
  case sum_operator => exact fun mark mark' => if_pos offered
  case multiply_fails => exact fun e => multiply_eq_error_iff
  case add_fails => exact fun e => add_eq_error_iff
  case offered =>
    rintro p (product | sum | ⟨q, rfl⟩ | rfl)
    · rw [Matrix.multiply] at product
      split_ifs at product
      cases product
      rfl
    · rw [Matrix.add] at sum
      split_ifs at sum
      cases sum
      exact hasArithmetic_copy.trans offered
    · exact hasArithmetic_copy.trans offered
    · rfl

/-! ## The laws -/

/-- **Matrices of fitting shapes obey the laws of a ring.** -/
theorem ringLaws (a a' b b' c : Matrix) (q : Quantity)
    (shape : a'.rowCount = a.rowCount ∧ a'.columnCount = a.columnCount)
    (fits : b.rowCount = a.columnCount)
    (shape' : b'.rowCount = b.rowCount ∧ b'.columnCount = b.columnCount)
    (fits' : c.rowCount = b.columnCount) : RingLaws a a' b b' c q := by
  obtain ⟨formA, r, n, g, rows, inner, squareA⟩ := a
  obtain ⟨formA', r', n', g', rows', inner', squareA'⟩ := a'
  obtain ⟨formB, s, k, h, innerB, columns, squareB⟩ := b
  obtain ⟨formB', s', k', h', innerB', columns', squareB'⟩ := b'
  obtain ⟨formC, t, l, u, columnsC, outer, squareC⟩ := c
  -- With the shapes as they fit, the grids have them in their types.
  obtain rfl : r = r' := shape.1.symm
  obtain rfl : n = n' := shape.2.symm
  obtain rfl : n = s := fits.symm
  obtain rfl : n = s' := shape'.1.symm
  obtain rfl : k = k' := shape'.2.symm
  obtain rfl : k = t := fits'.symm
  constructor
  case multiply_assoc =>
    have value : ((g.multiply h).multiply u).value = (g.multiply (h.multiply u)).value := by
      rw [value_multiply, value_multiply, value_multiply, value_multiply, Matrix.mul_assoc]
    rw [multiply_mk, multiply_mk]
    exact sameResult_of_value (multiply_mk ..) (multiply_mk ..) value
  case multiply_add =>
    have value : (g.multiply (h.add h')).value = ((g.multiply h).add (g.multiply h')).value := by
      rw [value_multiply, value_add, value_add, value_multiply, value_multiply, Matrix.mul_add]
    rw [add_mk, multiply_mk, multiply_mk]
    exact sameResult_of_value (multiply_mk ..) (add_mk ..) value
  case add_multiply =>
    have value : ((g.add g').multiply h).value = ((g.multiply h).add (g'.multiply h)).value := by
      rw [value_multiply, value_add, value_add, value_multiply, value_multiply, Matrix.add_mul]
    rw [add_mk, multiply_mk, multiply_mk]
    exact sameResult_of_value (multiply_mk ..) (add_mk ..) value
  case scale_multiply =>
    have value : ((g.scale q).multiply h).value = ((g.multiply h).scale q).value := by
      rw [value_multiply, value_scale, value_scale, value_multiply, Matrix.smul_mul]
    rw [multiply_mk]
    exact sameResult_of_value (multiply_mk ..) rfl value
  case multiply_scale =>
    have value : ((g.multiply h).scale q).value = (g.multiply (h.scale q)).value := by
      rw [value_multiply, value_scale, value_scale, value_multiply, Matrix.mul_smul]
    rw [multiply_mk]
    exact sameResult_of_value rfl (multiply_mk ..) value
  case transpose_multiply =>
    have value : (g.multiply h).transpose.value = (h.transpose.multiply g.transpose).value := by
      rw [value_multiply, value_transpose, value_transpose, value_transpose, value_multiply,
        Matrix.transpose_mul]
    rw [multiply_mk]
    exact sameResult_of_value rfl (multiply_mk ..) value
  case transpose_transpose =>
    have value : g.transpose.transpose.value = g.value := by
      rw [value_transpose, value_transpose, Matrix.transpose_transpose]
    exact sameResult_of_value rfl rfl value
  case identity_multiply =>
    intro kind
    have value : ((Grid.identity r kind).multiply g).value = g.value := by
      rw [value_multiply, value_identity, Matrix.one_mul]
    exact sameResult_of_value (multiply_mk ..) rfl value
  case multiply_identity =>
    intro kind
    have value : g.value = (g.multiply (Grid.identity n kind)).value := by
      rw [value_multiply, value_identity, Matrix.mul_one]
    exact sameResult_of_value rfl (multiply_mk ..) value

/-- **The laws of matrix arithmetic.** Matrices of fitting shapes obey the laws of a ring, with cells of
either kind on and off the real axis. Forms with arithmetic answer with these sums and products, and stay
as they were; there is no product exactly when the columns of the first matrix are not as many as the rows
of the second, and no sum exactly when the shapes differ. -/
theorem arithmetic_laws :
    (∀ (a a' b b' c : Matrix) (q : Quantity),
      a'.rowCount = a.rowCount ∧ a'.columnCount = a.columnCount → b.rowCount = a.columnCount →
      b'.rowCount = b.rowCount ∧ b'.columnCount = b.columnCount → c.rowCount = b.columnCount →
      RingLaws a a' b b' c q) ∧
    ∀ m o : Matrix, m.form.hasArithmetic = true → m.ArithmeticRequests o :=
  ⟨ringLaws, fun _ o offered => arithmeticRequests offered o⟩

/-- The laws for matrices with cells of both kinds off the real axis, and a product that does not exist. -/
theorem arithmetic_laws_of_two_kinds :
    let i : Quantity := .complex ⟨0, .ofInt 1⟩
    let half : Quantity := .rational (.reduce 1 2 Nat.two_pos)
    let a : Matrix := ofGrid #v[#v[i, half]] Nat.one_pos Nat.two_pos
    let a' : Matrix := ofGrid #v[#v[1, i]] Nat.one_pos Nat.two_pos
    let b : Matrix := ofGrid #v[#v[i + half], #v[0]] Nat.two_pos Nat.one_pos
    let b' : Matrix := ofGrid #v[#v[half], #v[i]] Nat.two_pos Nat.one_pos
    RingLaws a a' b b' a (1 + i) ∧ a.ArithmeticRequests a ∧
      a.multiply a = .error (.shape (.multiplierRows 2 1)) := by
  intro i half a a' b b'
  obtain ⟨laws, requests⟩ := arithmetic_laws
  have answers : a.ArithmeticRequests a := requests a a rfl
  have fails : a.multiply a = .error (.shape (.multiplierRows 2 1)) :=
    (answers.multiply_fails _).mpr ⟨by decide, rfl⟩
  exact ⟨laws a a' b b' a (1 + i) ⟨rfl, rfl⟩ rfl ⟨rfl, rfl⟩ rfl, answers, fails⟩

end Matrix

end ExactAlgebra
