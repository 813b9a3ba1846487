import ExactAlgebra.Matrix.Request
import ExactAlgebra.Proofs.QuantityParts

/-!
# Changes that fail

A change of a matrix that fails leaves the matrix as it was. Where the new cells are computed first and
then put in place at once there is nothing to show. The changes of a column, though, write row after
row; they leave no half changed matrix behind because a row that cannot be changed is never met below
one that was: whether a row can be changed depends neither on the row nor on its place. For the division
of a column this is the fact that a divisor has quotients for all dividends or for none.

## Main definitions

* `Edit.AllOrNothing`: an edit that failed left the cells as they were.
* `Edit.Uniform`: all rows can be changed, or none.

## Main statements

* `Edit.allOrNothing_sweepAll`: a uniform sweep over the rows is all or nothing.
* `Quantity.isOk_divide_congr`: the divisor alone decides whether there is a quotient.
* `Matrix.mutate_eq_self_of_error`: a change that fails leaves the matrix as it was.
-/

namespace ExactAlgebra

namespace Edit

variable {m n : ℕ}

/-- An edit that failed left the cells as they were. -/
def AllOrNothing (old : Grid m n) (done : Edit m n) : Prop :=
  ∀ e, done.outcome = .error e → done.grid = old

theorem allOrNothing_replace (old : Grid m n) (new : Except Error (Grid m n)) :
    AllOrNothing old (replace old new) := by
  intro e failed
  cases new with
  | ok g => cases failed
  | error e' => rfl

theorem allOrNothing_ofElimination (old : Grid m n) (reduction : Elimination m n) :
    AllOrNothing old (ofElimination old reduction) :=
  allOrNothing_replace old _

/-- Checks that fail come before the first write, so they leave all cells as they were. What the writing does
has to be shown separately. -/
theorem allOrNothing_checked {α : Type} (old : Grid m n) (checks : Except Error α)
    {write : α → Edit m n} (written : ∀ a, AllOrNothing old (write a)) :
    AllOrNothing old (checked old checks write) := by
  cases checks with
  | ok a => exact written a
  | error e => exact fun _ _ => rfl

/-! ## Sweeps -/

/-- Whether a row can be changed depends neither on the row nor on its place. -/
def Uniform (f : Fin m → Row n → Except Error (Row n)) : Prop :=
  ∀ i row i' row', (f i row).isOk = (f i' row').isOk

theorem outcome_sweep (f : Fin m → Row n → Except Error (Row n))
    (all : ∀ i row, (f i row).isOk = true) (rows : List (Fin m)) (g : Grid m n) :
    (sweep f rows g).outcome = .ok () := by
  induction rows generalizing g with
  | nil => rfl
  | cons i below ih =>
    rw [sweep]
    cases changed : f i (g.get i) with
    | ok row => exact ih _
    | error e =>
      have ok := all i (g.get i)
      rw [changed] at ok
      cases ok

/-- A uniform sweep fails at the first row or not at all, so no row has been written when it fails. Uniform
means that it does not depend on the row whether it can be changed. -/
theorem allOrNothing_sweep {f : Fin m → Row n → Except Error (Row n)} (uniform : Uniform f)
    (rows : List (Fin m)) (g : Grid m n) : AllOrNothing g (sweep f rows g) := by
  intro e failed
  cases rows with
  | nil => rfl
  | cons i below =>
    rw [sweep] at failed ⊢
    cases changed : f i (g.get i) with
    | error e' => rfl
    | ok row =>
      -- The first row could be changed, so the others can, and nothing failed.
      have all : ∀ i' row', (f i' row').isOk = true := by
        intro i' row'
        rw [uniform i' row' i (g.get i), changed]
        rfl
      rw [changed] at failed
      simp only [outcome_sweep f all] at failed
      cases failed

theorem allOrNothing_sweepAll {f : Fin m → Row n → Except Error (Row n)} (uniform : Uniform f)
    (g : Grid m n) : AllOrNothing g (sweepAll g f) :=
  allOrNothing_sweep uniform _ g

end Edit

/-- A divisor has quotients for all dividends or for none. -/
theorem Quantity.isOk_divide_congr (p q d : Quantity) : (p.divide d).isOk = (q.divide d).isOk := by
  by_cases zero : d.scale = 0
  · rw [divide, divide, divide?_eq_none.mpr zero, divide?_eq_none.mpr zero]
  · obtain ⟨r, quotient, -⟩ := divide?_eq_some p zero
    obtain ⟨s, quotient', -⟩ := divide?_eq_some q zero
    rw [divide, divide, quotient, quotient']
    rfl

namespace Matrix

variable (m : Matrix)

open Edit

/-- The cells are all changed or all left, whatever the operation and its operands. -/
theorem allOrNothing_edit (change : Mutation) : AllOrNothing m.grid (m.edit change) := by
  cases change with
  | setValue r c v => exact allOrNothing_replace _ _
  | setRow r vs => exact allOrNothing_replace _ _
  | setColumn c vs =>
    refine allOrNothing_checked _ _ fun (c, qs) => allOrNothing_sweepAll ?_ _
    intro i row i' row'
    cases c <;> rfl
  | swapRows a b => exact allOrNothing_replace _ _
  | swapColumns a b =>
    refine allOrNothing_checked _ _ fun (a, b) => allOrNothing_sweepAll ?_ _
    intro i row i' row'
    cases a <;> cases b <;> rfl
  | multiplyRow r s => exact allOrNothing_replace _ _
  | divideRow r d => exact allOrNothing_replace _ _
  | multiplyColumn c s =>
    refine allOrNothing_checked _ _ fun (c, s) => allOrNothing_sweepAll ?_ _
    intro i row i' row'
    cases c <;> rfl
  | divideColumn c d =>
    refine allOrNothing_checked _ _ fun (c, d) => allOrNothing_sweepAll ?_ _
    intro i row i' row'
    cases c with
    | error e => rfl
    | ok j =>
      -- The cells may differ in value and in kind, but the divisor is the same.
      have divisor := Quantity.isOk_divide_congr (row.get j) (row'.get j) d
      show ((row.get j).divide d >>= fun q => _).isOk = ((row'.get j).divide d >>= fun q => _).isOk
      revert divisor
      cases (row.get j).divide d <;> cases (row'.get j).divide d <;> exact id
  | addRow r a s => exact allOrNothing_replace _ _
  | reduce => exact allOrNothing_ofElimination _ _
  | reduceFully => exact allOrNothing_ofElimination _ _

@[simp] theorem withGrid_grid : m.withGrid m.grid = m := rfl

/-- **A change that fails leaves the matrix as it was**: its cells with their kinds, its shape, and
whether it may be changed. -/
theorem mutate_eq_self_of_error (change : Mutation) (e : Error)
    (failed : (m.mutate change).2.outcome = .error e) : (m.mutate change).1 = m := by
  unfold mutate at failed ⊢
  cases objection : m.objection? change with
  | some e' => rfl
  | none =>
    rw [objection] at failed
    show m.withGrid (m.edit change).grid = m
    rw [allOrNothing_edit m change e failed, withGrid_grid]

/-- The column of `1` and `i` divided by `1 - i`, a divisor of scale zero. -/
theorem divideColumn_by_one_minus_i :
    let m := ofGrid (#v[#v[1], #v[.complex ⟨0, 1⟩]] : Grid 2 1) Nat.two_pos Nat.one_pos
    let change := Mutation.divideColumn (.int 0) (.quantity (.complex ⟨1, -1⟩))
    (m.mutate change).2.outcome = .error .divisionByZero ∧ (m.mutate change).1 = m :=
  ⟨rfl, mutate_eq_self_of_error _ _ _ rfl⟩

end Matrix

end ExactAlgebra
