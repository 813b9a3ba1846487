import ExactAlgebra.Matrix.Request
import ExactAlgebra.Proofs.Keys
import ExactAlgebra.Proofs.Powers

/-!
# Products of a matrix and a number

A matrix on the left of the operator takes any number on the right, and the product is the matrix scaled by
that number. On the other side of the operator it depends on the type of the number. An integer or a fraction
does not know matrices and leaves the product to the matrix, which gives the same. A quantity takes part in
the operation first, asks the matrix for the number that it stands for, and fails, because there is none; the
matrix is never asked.

The operands do not matter for the cells: the product of a cell and a number has one value and one kind in
either order.

## Main statements

* `Quantity.mul_comm`: products of quantities of any kinds.
* `Operand.multiply_matrix_left`, `Operand.multiply_foreign_right`, `Operand.multiply_quantity_right`: the
  operator with a matrix on either side.
* `Matrix.scale_on_either_side`: all of it.
-/

namespace ExactAlgebra

/-- A product does not depend on the order, whatever the kinds are. -/
protected theorem Quantity.mul_comm (p q : Quantity) : p * q = q * p := by
  refine eq_of_kind_of_value ?_ ?_
  · rw [kind_mul, kind_mul, NumberKind.widest_comm]
  · rw [value_mul, value_mul, mul_comm]

namespace Operand

variable {m : Matrix} {mark : Mark} {k : Operand} {q : Quantity}

/-- Between a matrix and a number the operator is not one of arrays. -/
theorem Denotes.operate_matrix_left (number : k.Denotes q) (o : Operator) :
    operate o (.matrix m mark) k = operatePlain o (.matrix m mark) k := by
  rw [operate, number.isArray_eq]
  rfl

theorem Denotes.operate_matrix_right (number : k.Denotes q) (o : Operator) :
    operate o k (.matrix m mark) = operatePlain o k (.matrix m mark) := by
  rw [operate, number.isArray_eq]
  rfl

/-- A matrix on the left is scaled by any number. -/
theorem multiply_matrix_left (offered : m.form.hasArithmetic = true) (number : k.Denotes q) :
    operate .multiply (.matrix m mark) k = .ok (.ofMatrix (m.scale q)) := by
  have asked : operatePlain .multiply (.matrix m mark) k = operateMatrix .multiply m k := by
    cases number <;> exact if_pos offered
  rw [number.operate_matrix_left, asked]
  cases number <;> rfl

/-- An integer or a fraction on the left leaves the product to the matrix. -/
theorem multiply_foreign_right (offered : m.form.hasArithmetic = true) (number : k.Denotes q)
    (foreign : k.isQuantity = false) :
    operate .multiply k (.matrix m mark) = .ok (.ofMatrix (m.scale q)) := by
  rw [number.operate_matrix_right]
  cases number with
  | quantity => cases foreign
  | int | fraction =>
    refine (if_pos ?_).trans rfl
    rw [offered]
    rfl

/-- A quantity on the left asks for the number that the matrix stands for. -/
theorem multiply_quantity_right (m : Matrix) (mark : Mark) (p : Quantity) :
    operate .multiply (.quantity p) (.matrix m mark) = .error (.operand (.notRational m.form.name)) := rfl

end Operand

namespace Matrix

open Operand

theorem outcome_answer_scale {m : Matrix} (offered : m.form.hasArithmetic = true) {k : Operand}
    {q : Quantity} (number : k.toQuantity = .ok q) :
    (m.answer (.scale k)).outcome = .ok (.ofMatrix (m.scale q)) := by
  have allowed : m.requireArithmetic "scale" = .ok () := if_pos offered
  refine (Logged.outcome_bind_of_ok (x := (m.requireArithmetic "scale" : Logged Unit)) allowed _).trans ?_
  exact Logged.outcome_bind_of_ok (x := (k.toQuantity : Logged Quantity)) number _

/-- **Products of a matrix and a number.** A matrix is scaled by any number, cell by cell, where the order
makes no difference, and stays what it was. The product is the scaled matrix if the matrix stands on the left
of the operator. If it stands on the right the product is the scaled matrix for an integer or a fraction, and
fails for every quantity. -/
theorem scale_on_either_side (m : Matrix) (offered : m.form.hasArithmetic = true) (mark : Mark)
    {k : Operand} {q : Quantity} (number : k.Denotes q) :
    ((m.answer (.scale k)).outcome = .ok (.ofMatrix (m.scale q)) ∧ m.after (.scale k) = m ∧
        ∀ (i : Fin m.rowCount) (j : Fin m.columnCount),
          (m.scale q).grid.cell i j = m.grid.cell i j * q ∧
          (m.scale q).grid.cell i j = q * m.grid.cell i j) ∧
      (∃ v, operate .multiply (.matrix m mark) k = .ok v ∧
        equals true v (.ofMatrix (m.scale q)) = .ok (.bool true)) ∧
      (k.isQuantity = false → ∃ v, operate .multiply k (.matrix m mark) = .ok v ∧
        equals true v (.ofMatrix (m.scale q)) = .ok (.bool true)) ∧
      (k.isQuantity = true →
        operate .multiply k (.matrix m mark) = .error (.operand (.notRational m.form.name))) := by
  have same : equals true (.ofMatrix (m.scale q)) (.ofMatrix (m.scale q)) = .ok (.bool true) :=
    equals_eq_true_iff.mpr (.refl _)
  refine ⟨⟨outcome_answer_scale offered number.toQuantity_eq, rfl, fun i j => ?_⟩,
    ⟨_, multiply_matrix_left offered number, same⟩,
    fun foreign => ⟨_, multiply_foreign_right offered number foreign, same⟩, fun own => ?_⟩
  · have cell : (m.scale q).grid.cell i j = m.grid.cell i j * q := m.grid.cell_scale q i j
    exact ⟨cell, cell.trans (Quantity.mul_comm _ _)⟩
  · cases number with
    | quantity => exact multiply_quantity_right m mark q
    | int | fraction => cases own

/-- A row with a cell of either kind, and the fraction `1/2` on both sides of it. -/
theorem half_on_either_side :
    let m : Matrix := ⟨.general, 1, 2, #v[#v[1, .complex ⟨0, 1⟩]], Nat.one_pos, Nat.two_pos, nofun⟩
    let half := Rational.reduce 1 2 Nat.two_pos
    m.form.hasArithmetic = true ∧ (Operand.fraction half).Denotes (.rational half) ∧
      ∃ v w, operate .multiply (.ofMatrix m) (.fraction half) = .ok v ∧
        operate .multiply (.fraction half) (.ofMatrix m) = .ok w ∧
        equals true v (.ofMatrix (m.scale (.rational half))) = .ok (.bool true) ∧
        equals true w (.ofMatrix (m.scale (.rational half))) = .ok (.bool true) := by
  intro m half
  obtain ⟨-, ⟨v, left, sameLeft⟩, right, -⟩ := scale_on_either_side m rfl none (.fraction half)
  obtain ⟨w, right, sameRight⟩ := right rfl
  exact ⟨rfl, .fraction half, v, w, left, right, sameLeft, sameRight⟩

/-- The rational number two scales a row of numbers from the right, and on the left of it the operator
fails. -/
theorem two_on_the_left :
    let m : Matrix := ⟨.general, 1, 2, #v[#v[1, .rational (.ofInt 2)]], Nat.one_pos, Nat.two_pos, nofun⟩
    let two : Operand := .quantity (.rational (.ofInt 2))
    ¬ ((∃ v, operate .multiply two (.ofMatrix m) = .ok v) ∧
        ∃ v, operate .multiply (.ofMatrix m) two = .ok v) ∧
      (∃ v, operate .multiply (.ofMatrix m) two = .ok v) ∧
      operate .multiply two (.ofMatrix m) = .error (.operand (.notRational "Matrix")) := by
  intro m two
  have refused : operate .multiply two (.ofMatrix m) = .error (.operand (.notRational "Matrix")) :=
    multiply_quantity_right m none _
  refine ⟨?_, ⟨_, multiply_matrix_left rfl (.quantity _)⟩, refused⟩
  rintro ⟨⟨v, product⟩, -⟩
  rw [refused] at product
  cases product

end Matrix

end ExactAlgebra
