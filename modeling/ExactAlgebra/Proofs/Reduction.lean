import ExactAlgebra.Matrix.Operations
import ExactAlgebra.Proofs.Changes
import ExactAlgebra.Proofs.ComplexValues
import ExactAlgebra.Proofs.Equality
import ExactAlgebra.Proofs.RealElimination

/-!
# Reduction of real matrices

Reduction turns every writable matrix on the real axis into a row echelon form that has the same solutions:
what a product with the matrix makes zero, also off the real axis, is what a product with the form makes
zero. Full reduction leads to the one reduced row echelon form of the row space. So two matrices of one
shape are reduced to equal matrices exactly when their rows span the same vectors.

## Main statements

* `Matrix.reduce_of_isReal`: the row echelon form is reached, and it has the solutions of the matrix.
* `Matrix.reduceFully_of_isReal`: the reduced form is reached, and it is a complete invariant.
-/

open Matrix (rowSpace RowEquivalent)

namespace ExactAlgebra

namespace Grid

variable {m n p : ℕ} {g h : Grid m n}

/-- A product that vanishes on the real row space of a grid vanishes on every part of the row space, also
when the factor lies off the real axis. -/
theorem IsReal.isZero_multiply (realG : g.IsReal) (realH : h.IsReal)
    (le : rowSpace h.re ≤ rowSpace g.re) {x : Grid n p} (zero : (g.multiply x).isZero = true) :
    (h.multiply x).isZero = true := by
  obtain ⟨P, multiple⟩ := Matrix.exists_mul_of_rowSpace_le le
  have values : h.value = P.map (Rat.castHom ℂ) * g.value := by
    rw [realH.value_eq, realG.value_eq, ← multiple]
    exact Matrix.map_mul (f := Rat.castHom ℂ)
  rw [Grid.isZero_iff, value_multiply] at zero ⊢
  rw [values, Matrix.mul_assoc, zero, Matrix.mul_zero]

/-- In row echelon form every cell below the diagonal is zero. -/
theorem IsReal.isUpperTriangular_cast (real : g.IsReal) (echelon : g.re.IsRowEchelon) (square : m = n) :
    (g.cast square rfl).isUpperTriangular = true := by
  subst square
  rw [cast_rfl]
  simp only [isUpperTriangular, List.all_eq_true, Bool.or_eq_true, decide_eq_true_eq]
  intro i _ j _
  rcases le_or_gt i j with above | below
  · exact Or.inl above
  · exact Or.inr (real.isZero_iff.mpr (echelon.eq_zero_of_lt below))

end Grid

namespace Matrix

/-! ## Reduction -/

/-- A square form is triangular when its cells are. -/
theorem isTriangular_eq {m : Matrix} (square : m.form.isSquare = true) :
    m.isTriangular = .ok (m.grid.cast (m.square square) rfl).isUpperTriangular := by
  unfold isTriangular requireSquare
  rw [dif_pos square]
  rfl

/-- **Reduction on the real axis**: it succeeds, and leaves a row echelon form. A product with it is zero
exactly when the product with the matrix was. In a square form it is triangular. -/
theorem reduce_of_isReal (m : Matrix) (offered : m.form.hasArithmetic = true)
    (writable : m.readOnly = false) (real : m.grid.IsReal) :
    (m.mutate .reduce).2.outcome = .ok () ∧
      ∃ g, (m.mutate .reduce).1 = m.withGrid g ∧ g.IsEchelon ∧
        (∀ x : Matrix, x.rowCount = m.columnCount →
          ∃ p q, m.multiply x = .ok p ∧ (m.withGrid g).multiply x = .ok q ∧
            (p.isZero = true ↔ q.isZero = true)) ∧
        (m.form.isSquare = true → (m.withGrid g).isTriangular = .ok true) := by
  obtain ⟨g, result, realG, echelon, equivalent⟩ := real.echelon_reduces
  have leaves : m.mutate .reduce = (m.withGrid g, _) := mutate_of_reduction offered writable rfl result
  rw [leaves]
  refine ⟨rfl, g, rfl, realG.hasZerosOf.isRowEchelon_iff.mp echelon, ?_, ?_⟩
  · intro x fits
    refine ⟨_, _, dif_pos fits, dif_pos fits, ?_, ?_⟩
    · exact real.isZero_multiply realG equivalent.rowSpace_eq.le
    · exact realG.isZero_multiply real equivalent.rowSpace_eq.ge
  · intro square
    rw [isTriangular_eq (m := m.withGrid g) square]
    exact congrArg Except.ok (realG.isUpperTriangular_cast echelon (m.square square))

/-- The rows `0 0 2`, `0 1/2 3` and `0 1 6`, in numbers of both kinds. The column `i 0 0` is a solution of
them, and of what they are reduced to. -/
theorem reduce_of_dependent_rows :
    let half : Quantity := .rational (.reduce 1 2 Nat.two_pos)
    let m : Matrix := ⟨.square, 3, 3,
      #v[#v[0, 0, .complex ⟨.ofInt 2, 0⟩], #v[0, half, .rational (.ofInt 3)],
        #v[0, 1, .rational (.ofInt 6)]], Nat.succ_pos 2, Nat.succ_pos 2, fun _ => rfl⟩
    let x : Matrix := ofGrid (#v[#v[.complex ⟨0, 1⟩], #v[0], #v[0]] : Grid 3 1) (Nat.succ_pos 2) Nat.one_pos
    (m.mutate .reduce).2.outcome = .ok () ∧
      ∃ g, (m.mutate .reduce).1 = m.withGrid g ∧ g.IsEchelon ∧
        (∃ q, (m.withGrid g).multiply x = .ok q ∧ q.isZero = true) ∧
        (m.withGrid g).isTriangular = .ok true := by
  intro half m x
  have real : m.grid.IsReal := by decide
  obtain ⟨ok, g, leaves, echelon, solutions, triangular⟩ := reduce_of_isReal m rfl rfl real
  obtain ⟨p, q, product, product', same⟩ := solutions x rfl
  have vanishes : p.isZero = true := by
    rw [← Except.ok.inj product]
    decide +kernel
  exact ⟨ok, g, leaves, echelon, ⟨q, product', same.mp vanishes⟩, triangular rfl⟩

/-! ## Full reduction -/

/-- Full reduction puts its result in place of the cells, and nothing else is touched. -/
theorem mutate_reduceFully {m : Matrix} (offered : m.form.hasArithmetic = true)
    (writable : m.readOnly = false) {h : Grid m.rowCount m.columnCount}
    (result : m.grid.reducedEchelon.result? = some h) :
    m.mutate .reduceFully = (m.withGrid h, ⟨m.grid.reducedEchelon.pivots.map .pivot, .ok ()⟩) :=
  mutate_of_reduction offered writable rfl result

/-- **Full reduction on the real axis**: it succeeds, and leaves a reduced row echelon form with the row
space of the matrix; and the forms of two matrices of one shape are equal exactly when the row spaces of
the matrices are. -/
theorem reduceFully_of_isReal (m : Matrix) (offered : m.form.hasArithmetic = true)
    (writable : m.readOnly = false) (real : m.grid.IsReal) :
    (m.mutate .reduceFully).2.outcome = .ok () ∧
      (∃ g, (m.mutate .reduceFully).1 = m.withGrid g ∧ g.IsReal ∧ g.re.IsReducedRowEchelon ∧
        rowSpace g.re = rowSpace m.grid.re) ∧
      ∀ o : Matrix, o.form.hasArithmetic = true → o.readOnly = false → o.grid.IsReal →
        ∀ (rows : o.rowCount = m.rowCount) (columns : o.columnCount = m.columnCount),
          Operand.equals true (.ofMatrix (m.mutate .reduceFully).1)
              (.ofMatrix (o.mutate .reduceFully).1) = .ok (.bool true) ↔
            rowSpace m.grid.re = rowSpace (o.grid.cast rows columns).re := by
  obtain ⟨g, result, formG⟩ := real.reducedEchelon
  have leaves := mutate_reduceFully offered writable result
  refine ⟨by rw [leaves], ⟨g, by rw [leaves], formG.real, formG.isReduced, formG.rowSpace_eq⟩, ?_⟩
  intro o offeredO writableO realO rows columns
  obtain ⟨h, resultH, formH⟩ := realO.reducedEchelon
  rw [leaves, mutate_reduceFully offeredO writableO resultH, equals_ofMatrix, Except.ok.injEq,
    Operand.bool.injEq, decide_eq_true_iff]
  calc (m.withGrid g).SameValues (o.withGrid h)
    _ ↔ g.SameValues (h.cast rows columns) :=
        sameValues_iff (m.withGrid g) (o.withGrid h) rows columns
    _ ↔ rowSpace m.grid.re = rowSpace (o.grid.cast rows columns).re :=
        formG.sameValues_iff (formH.cast rows columns)

/-- The matrix of the rows `0 2` and `1/2 3`, in numbers of both kinds, and the same rows exchanged. -/
theorem reduceFully_of_two_kinds :
    let m : Matrix := ⟨.square, 2, 2,
      #v[#v[0, .complex ⟨.ofInt 2, 0⟩], #v[.rational (.reduce 1 2 Nat.two_pos), .rational (.ofInt 3)]],
      Nat.two_pos, Nat.two_pos, fun _ => rfl⟩
    let o := m.withGrid (m.grid.swapRows 0 1)
    (m.mutate .reduceFully).2.outcome = .ok () ∧
      (∃ g, (m.mutate .reduceFully).1 = m.withGrid g ∧ g.re.IsReducedRowEchelon) ∧
      Operand.equals true (.ofMatrix (m.mutate .reduceFully).1) (.ofMatrix (o.mutate .reduceFully).1) =
        .ok (.bool true) := by
  intro m o
  have real : m.grid.IsReal := by decide
  obtain ⟨ok, ⟨g, leaves, -, reduced, -⟩, unique⟩ := reduceFully_of_isReal m rfl rfl real
  refine ⟨ok, ⟨g, leaves, reduced⟩, (unique o rfl rfl (real.swapRows 0 1) rfl rfl).mpr ?_⟩
  show rowSpace m.grid.re = rowSpace ((m.grid.swapRows 0 1).cast rfl rfl).re
  rw [Grid.cast_rfl, Grid.re_swapRows]
  exact (RowEquivalent.swapRows m.grid.re 0 1).rowSpace_eq.symm

end Matrix

end ExactAlgebra
