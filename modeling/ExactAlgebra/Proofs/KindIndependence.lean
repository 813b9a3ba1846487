import ExactAlgebra.Matrix.Request
import ExactAlgebra.Operand.Text
import ExactAlgebra.Proofs.AlikeArguments
import ExactAlgebra.Proofs.MatrixText
import ExactAlgebra.Proofs.RationalOrder
import ExactAlgebra.Proofs.ReductionAgreement

/-!
# Kinds do not influence values

What becomes of a matrix, and what it answers, depends on the values of its cells and not on their kinds.
Two equal matrices of one form, asked the same with arguments that are alike, fail with the same error or
give equal answers with one text, and are equal afterwards.

## Main definitions

* `Mutation.Alike`, `Request.Alike`: the same operation on the same places with alike arguments.
* `Edit.SameValues`: two edits that leave equal cells and end alike.
* `Operand.SameAnswer`: equal answers with one text.

## Main statements

* `Matrix.edit_sameValues`, `Matrix.mutate_sameValues`: changes.
* `Matrix.agree_answer`: answers.
* `Matrix.respond_of_sameValues`: both together.

Equal arguments that are not alike are found at the end.
-/

namespace ExactAlgebra

/-- Two changes are alike: the same operation on the same rows and columns, with alike arguments. -/
inductive Mutation.Alike : Mutation → Mutation → Prop
  | setValue (r c : Operand) {v w : Operand} (value : v.Alike w) : Alike (.setValue r c v) (.setValue r c w)
  | setRow (r : Operand) {vs ws : Operand} (values : vs.AlikeVectors ws) :
    Alike (.setRow r vs) (.setRow r ws)
  | setColumn (c : Operand) {vs ws : Operand} (values : vs.AlikeVectors ws) :
    Alike (.setColumn c vs) (.setColumn c ws)
  | swapRows (a b : Operand) : Alike (.swapRows a b) (.swapRows a b)
  | swapColumns (a b : Operand) : Alike (.swapColumns a b) (.swapColumns a b)
  | multiplyRow (r : Operand) {s t : Operand} (scalar : s.Alike t) :
    Alike (.multiplyRow r s) (.multiplyRow r t)
  | divideRow (r : Operand) {s t : Operand} (divisor : s.Alike t) :
    Alike (.divideRow r s) (.divideRow r t)
  | multiplyColumn (c : Operand) {s t : Operand} (scalar : s.Alike t) :
    Alike (.multiplyColumn c s) (.multiplyColumn c t)
  | divideColumn (c : Operand) {s t : Operand} (divisor : s.Alike t) :
    Alike (.divideColumn c s) (.divideColumn c t)
  | addRow (r a : Operand) {s t : Operand} (scalar : s.Alike t) : Alike (.addRow r a s) (.addRow r a t)
  | reduce : Alike .reduce .reduce
  | reduceFully : Alike .reduceFully .reduceFully

/-- Two requests are alike: the same question or change, with alike arguments. -/
inductive Request.Alike : Request → Request → Prop
  | change {c d : Mutation} (change : c.Alike d) : Alike (.change c) (.change d)
  | cell (r c : Operand) : Alike (.cell r c) (.cell r c)
  | copy : Alike .copy .copy
  | isZero : Alike .isZero .isZero
  | scale {s t : Operand} (scalar : s.Alike t) : Alike (.scale s) (.scale t)
  | add {v w : Operand} (addend : v.AlikeMatrices w) : Alike (.add v) (.add w)
  | multiply {v w : Operand} (multiplier : v.AlikeMatrices w) : Alike (.multiply v) (.multiply w)
  | transpose : Alike .transpose .transpose
  | rank : Alike .rank .rank
  | det (correctSign : Operand) : Alike (.det correctSign) (.det correctSign)
  | isTriangular : Alike .isTriangular .isTriangular

/-! ## Edits -/

/-- Two edits leave equal cells behind, and both succeed or fail with one error. -/
structure Edit.SameValues {m n : ℕ} (e f : Edit m n) : Prop where
  /-- The cells are equal. -/
  grid : e.grid.SameValues f.grid
  /-- The edits end alike. -/
  outcome : e.outcome = f.outcome

namespace Edit.SameValues

variable {m n : ℕ} {g h : Grid m n}

/-- An edit that replaces all cells at once, or none of them when the new ones could not be computed. In the
second case the old cells stay, which are equal by assumption. -/
theorem replace (same : g.SameValues h) {x y : Except Error (Grid m n)}
    (new : Agree Grid.SameValues x y) : (Edit.replace g x).SameValues (Edit.replace h y) := by
  cases new with
  | ok new => exact ⟨new, rfl⟩
  | error e => exact ⟨same, rfl⟩

/-- A reduction is such an edit, too: if it stops for want of a quotient, it leaves the cells that it began
with, and fails. -/
theorem ofElimination (same : g.SameValues h) {e f : Elimination m n} (reduced : e.SameValues f) :
    (Edit.ofElimination g e).SameValues (Edit.ofElimination h f) := by
  have replaced := replace same (.orFail .divisionByZero reduced.result?)
  exact ⟨replaced.grid, replaced.outcome⟩

/-- An edit that first checks its arguments, and then writes. Where the checks agree on one error nothing has
been written; otherwise the rest only has to be shown for arguments that are related. -/
theorem checked (same : g.SameValues h) {α β : Type} {R : α → β → Prop} {x : Except Error α}
    {y : Except Error β} (checks : Agree R x y) {write : α → Edit m n} {write' : β → Edit m n}
    (written : ∀ a b, R a b → (write a).SameValues (write' b)) :
    (Edit.checked g x write).SameValues (Edit.checked h y write') := by
  cases checks with
  | ok related => exact written _ _ related
  | error e => exact ⟨same, rfl⟩

/-- Rows that are changed one after the other are equal as long as they can be changed. -/
theorem sweep {f f' : Fin m → Row n → Except Error (Row n)}
    (rows : ∀ i r s, Row.SameValues r s → Agree Row.SameValues (f i r) (f' i s)) (below : List (Fin m))
    (same : g.SameValues h) : (Edit.sweep f below g).SameValues (Edit.sweep f' below h) := by
  induction below generalizing g h with
  | nil => exact ⟨same, rfl⟩
  | cons i below ih =>
    rw [Edit.sweep, Edit.sweep]
    obtain ⟨e, left, right⟩ | ⟨row, row', left, right, changed⟩ :=
      (rows i _ _ (same.get i)).eq_error_or_ok
    · rw [left, right]
      exact ⟨same, rfl⟩
    · rw [left, right]
      exact ih (same.setRow i changed)

/-- A change of all rows, from the first to the last. If it stops at some row, it does so at the same one on
both sides, and the rows before are changed already. -/
theorem sweepAll (same : g.SameValues h) {f f' : Fin m → Row n → Except Error (Row n)}
    (rows : ∀ i r s, Row.SameValues r s → Agree Row.SameValues (f i r) (f' i s)) :
    (Edit.sweepAll g f).SameValues (Edit.sweepAll h f') :=
  sweep rows _ same

end Edit.SameValues

namespace Matrix

variable {m : Matrix} {h : Grid m.rowCount m.columnCount}

/-- **Alike changes of equal cells leave equal cells, and end alike.** -/
theorem edit_sameValues (same : m.grid.SameValues h) {c d : Mutation} (alike : c.Alike d) :
    (m.edit c).SameValues ((m.withGrid h).edit d) := by
  cases alike with
  | setValue r c value =>
    refine .replace same (.bind_same _ fun r => .bind_same _ fun c => ?_)
    exact value.toQuantity.bind fun _ _ q => .bind_same r fun i => .bind_same c fun j =>
      .ok (same.setCell i j q)
  | setRow r values =>
    refine .replace same (.bind_same _ fun r => ?_)
    exact (values.vector _ _).bind fun _ _ qs => .bind_same r fun i => .ok (same.setRow i qs)
  | setColumn c values =>
    refine .checked (R := fun x y => x.1 = y.1 ∧ Row.SameValues x.2 y.2) same
      (.bind_same _ fun c => (values.vector _ _).bind fun _ _ qs => .ok ⟨rfl, qs⟩) ?_
    rintro ⟨c, qs⟩ ⟨_, qs'⟩ ⟨rfl, column⟩
    exact .sweepAll same fun i _ _ row => .bind_same c fun j => .ok (row.setCell j (column i))
  | swapRows a b =>
    refine .replace same (.bind_same _ fun a => .bind_same _ fun b => ?_)
    exact .bind_same b fun b => .bind_same a fun a => .ok (same.swapRows a b)
  | swapColumns a b =>
    refine .checked (R := Eq) same (.refl (fun _ => rfl) _) ?_
    rintro ⟨a, b⟩ _ rfl
    exact .sweepAll same fun _ _ _ row => .bind_same b fun b => .bind_same a fun a =>
      .ok (row.swapCells a b)
  | multiplyRow r scalar =>
    refine .replace same (.bind_same _ fun r => ?_)
    exact scalar.toQuantity.bind fun _ _ s => .bind_same r fun i => .ok (same.multiplyRow i s)
  | divideRow r divisor =>
    refine .replace same (.bind_same _ fun r => ?_)
    exact divisor.divisor.bind fun _ _ d => .bind_same r fun i => .orFail _ (same.divideRow? i d)
  | multiplyColumn c scalar =>
    refine .checked (R := fun x y => x.1 = y.1 ∧ Quantity.SameValue x.2 y.2) same
      (.bind_same _ fun c => scalar.toQuantity.bind fun _ _ s => .ok ⟨rfl, s⟩) ?_
    rintro ⟨c, s⟩ ⟨_, s'⟩ ⟨rfl, factor⟩
    exact .sweepAll same fun _ _ _ row => .bind_same c fun j =>
      .ok (row.setCell j ((row j).mul factor))
  | divideColumn c divisor =>
    refine .checked (R := fun x y => x.1 = y.1 ∧ Quantity.SameValue x.2 y.2) same
      (.bind_same _ fun c => divisor.divisor.bind fun _ _ d => .ok ⟨rfl, d⟩) ?_
    rintro ⟨c, d⟩ ⟨_, d'⟩ ⟨rfl, by'⟩
    exact .sweepAll same fun _ _ _ row => .bind_same c fun j =>
      (Agree.orFail _ ((row j).divide? by')).bind fun _ _ q => .ok (row.setCell j q)
  | addRow r a scalar =>
    refine .replace same (.bind_same _ fun r => .bind_same _ fun a => ?_)
    exact scalar.toQuantity.bind fun _ _ s => .bind_same a fun a => .bind_same r fun r =>
      .ok (same.addRow r a s)
  | reduce => exact .ofElimination same same.echelon
  | reduceFully => exact .ofElimination same same.reducedEchelon

/-- What stands in the way of a change before its arguments are looked at depends on the form of the matrix and
on the name of the change. Both are the same for equal matrices of one form. -/
theorem objection?_eq {c d : Mutation} (alike : c.Alike d) :
    m.objection? c = (m.withGrid h).objection? d := by
  cases alike <;> rfl

/-- **Alike changes of equal matrices leave equal matrices of one form, and end alike.** -/
theorem mutate_sameValues (same : m.grid.SameValues h) {c d : Mutation} (alike : c.Alike d) :
    (m.mutate c).1.form = ((m.withGrid h).mutate d).1.form ∧
      (m.mutate c).1.SameValues ((m.withGrid h).mutate d).1 ∧
      (m.mutate c).2.outcome = ((m.withGrid h).mutate d).2.outcome := by
  have edited := edit_sameValues same alike
  unfold mutate
  rw [objection?_eq alike]
  cases (m.withGrid h).objection? d with
  | some e => exact ⟨rfl, sameValues_mk.mpr same, rfl⟩
  | none => exact ⟨rfl, sameValues_mk.mpr edited.grid, edited.outcome⟩

end Matrix

/-! ## Answers -/

namespace Operand

/-- Two answers are equal and have one text. -/
def SameAnswer (v w : Operand) : Prop := equals true v w = .ok (.bool true) ∧ v.plain = w.plain

/-- Equal matrices are equal answers, and they have one text, since a text shows values and no kinds. -/
theorem sameAnswer_matrix {m o : Matrix} (same : m.SameValues o) : SameAnswer (.ofMatrix m) (.ofMatrix o) :=
  ⟨Matrix.equals_eq_true_iff.mpr same, same.text_eq⟩

/-- The same is true of quantities: a complex quantity with the imaginary part zero is shown as the rational one
is. -/
theorem sameAnswer_quantity {p q : Quantity} (same : p.SameValue q) :
    SameAnswer (.quantity p) (.quantity q) :=
  ⟨by rw [Quantity.equals_quantity, decide_eq_true same], Quantity.text_eq_iff.mpr same⟩

theorem sameAnswer_int (n : ℤ) : SameAnswer (.int n) (.int n) := by
  have ordered : (Rational.ofInt n).ordering (.ofInt n) = .eq := Rational.ordering_eq_iff.mpr rfl
  have same : sameNumber (.int n) (.int n) =
      (some ((Rational.ofInt n).ordering (.ofInt n)) == some .eq && sameReal (.int 0) (.int 0)) := rfl
  refine ⟨equals_of_equal rfl rfl ?_, rfl⟩
  rw [equal_of_isExact rfl rfl, same, ordered]
  rfl

theorem sameAnswer_bool (b : Bool) : SameAnswer (.bool b) (.bool b) := by
  refine ⟨equals_of_samePlain (fun _ _ => nofun) (fun _ => nofun) rfl rfl ?_, rfl⟩
  cases b <;> rfl

theorem sameAnswer_nothing : SameAnswer .nothing .nothing :=
  ⟨equals_of_samePlain (fun _ _ => nofun) (fun _ => nofun) rfl rfl rfl, rfl⟩

end Operand

namespace Matrix

variable {m : Matrix} {h : Grid m.rowCount m.columnCount}

open Operand

/-- Sums with equal addends are equal, or fail alike. It depends on the shapes whether there is a sum, and equal
matrices have one shape; the addends may be of different forms. -/
theorem agree_add (same : m.grid.SameValues h) {p q : Matrix} (addend : p.SameValues q) :
    Agree SameValues (m.add p) ((m.withGrid h).add q) := by
  obtain ⟨form, g, square, rfl, values⟩ := addend.exists_grid
  by_cases fits : p.rowCount = m.rowCount ∧ p.columnCount = m.columnCount
  · have left : m.add p = _ := dif_pos fits
    have right : (m.withGrid h).add ⟨form, _, _, g, p.rowCount_pos, p.columnCount_pos, square⟩ = _ :=
      dif_pos fits
    rw [left, right]
    exact .ok (sameValues_mk.mpr (same.add (values.cast fits.1 fits.2)))
  · have left : m.add p = _ := dif_neg fits
    have right : (m.withGrid h).add ⟨form, _, _, g, p.rowCount_pos, p.columnCount_pos, square⟩ = _ :=
      dif_neg fits
    rw [left, right]
    exact .error _

/-- Products with equal multipliers are equal, or fail alike for want of a fitting shape. -/
theorem agree_multiply (same : m.grid.SameValues h) {p q : Matrix} (multiplier : p.SameValues q) :
    Agree SameValues (m.multiply p) ((m.withGrid h).multiply q) := by
  obtain ⟨form, g, square, rfl, values⟩ := multiplier.exists_grid
  by_cases fits : p.rowCount = m.columnCount
  · have left : m.multiply p = _ := dif_pos fits
    have right : (m.withGrid h).multiply ⟨form, _, _, g, p.rowCount_pos, p.columnCount_pos, square⟩ =
      _ := dif_pos fits
    rw [left, right]
    exact .ok (sameValues_mk.mpr (same.multiply (values.cast fits rfl)))
  · have left : m.multiply p = _ := dif_neg fits
    have right : (m.withGrid h).multiply ⟨form, _, _, g, p.rowCount_pos, p.columnCount_pos, square⟩ =
      _ := dif_neg fits
    rw [left, right]
    exact .error _

/-- Determinants of equal grids are equal, for either flag. The reductions exchange rows at the same steps, so
that the sign is asked for, corrected or warned of in both of them or in neither. -/
theorem agree_determinant {n : ℕ} {g h : Grid n n} (same : g.SameValues h)
    (correctSign : Except Error Bool) :
    Agree Quantity.SameValue (determinant g correctSign).outcome (determinant h correctSign).outcome := by
  unfold determinant
  refine .outcome_bind (.orFail .divisionByZero same.echelon.result?) fun r s reduced => ?_
  have product := reduced.diagonalProduct
  simp only [same.echelon.swaps_eq, product.isZero_eq]
  split
  · exact .ok product
  · refine .outcome_bind_same _ fun correct => ?_
    split
    · refine .ok ?_
      split
      · exact product
      · exact product.neg
    · exact .outcome_bind_same _ fun _ => .ok product

/-- **Alike requests to equal matrices have agreeing answers.** There is a case for each sort of request; a
change answers with nothing, if it succeeds. -/
theorem agree_answer (same : m.grid.SameValues h) {r s : Request} (alike : r.Alike s) :
    Agree SameAnswer (m.answer r).outcome ((m.withGrid h).answer s).outcome := by
  cases alike with
  | change change =>
    obtain ⟨-, -, outcome⟩ := mutate_sameValues same change
    refine .outcome_bind (R := Eq) (outcome ▸ .refl (fun _ => rfl) _) fun _ _ _ => ?_
    exact .ok sameAnswer_nothing
  | cell r c =>
    refine .outcome_bind (R := Quantity.SameValue) ?_ fun _ _ value => .ok (sameAnswer_quantity value)
    exact .bind_same _ fun r => .bind_same _ fun c => .bind_same r fun i => .bind_same c fun j =>
      .ok (same i j)
  | copy => exact .ok (sameAnswer_matrix (sameValues_mk.mpr same))
  | isZero =>
    refine .outcome_bind_same _ fun _ => ?_
    show Agree SameAnswer (.ok (.bool m.grid.isZero)) (.ok (.bool h.isZero))
    rw [same.isZero_eq]
    exact .ok (sameAnswer_bool _)
  | scale scalar =>
    refine .outcome_bind_same _ fun _ => .outcome_bind scalar.toQuantity fun _ _ s => ?_
    exact .ok (sameAnswer_matrix (sameValues_mk.mpr (same.scale s)))
  | add addend =>
    refine .outcome_bind_same _ fun _ => .outcome_bind (addend.addend _) fun _ _ p => ?_
    exact .outcome_bind (agree_add same p) fun _ _ sum => .ok (sameAnswer_matrix sum)
  | multiply multiplier =>
    refine .outcome_bind_same _ fun _ => .outcome_bind multiplier.multiplier fun _ _ p => ?_
    exact .outcome_bind (agree_multiply same p) fun _ _ product => .ok (sameAnswer_matrix product)
  | transpose =>
    refine .outcome_bind_same _ fun _ => .ok (sameAnswer_matrix (sameValues_mk.mpr same.transpose))
  | rank =>
    refine .outcome_bind_same _ fun _ => .outcome_bind (R := Eq) ?_ ?_
    · exact .orFail _ (Rel.map same.echelon.result? fun _ _ reduced => reduced.nonzeroRows_eq)
    · rintro n _ rfl
      exact .ok (sameAnswer_int n)
  | det correctSign =>
    refine .outcome_bind (R := Quantity.SameValue) ?_ fun _ _ value => .ok (sameAnswer_quantity value)
    exact .outcome_bind_same _ fun ⟨square⟩ => agree_determinant (same.cast square rfl) _
  | isTriangular =>
    refine .outcome_bind (R := Eq) ?_ ?_
    · exact .bind_same _ fun ⟨square⟩ => .ok (same.cast square rfl).isUpperTriangular_eq
    · rintro b _ rfl
      exact .ok (sameAnswer_bool b)

/-- What a request leaves behind. Only a change leaves anything else than the matrix that was asked; so all
other requests need no argument here. -/
theorem after_sameValues (same : m.grid.SameValues h) {r s : Request} (alike : r.Alike s) :
    (m.after r).form = ((m.withGrid h).after s).form ∧
      (m.after r).SameValues ((m.withGrid h).after s) := by
  cases alike with
  | change change =>
    obtain ⟨form, matrices, -⟩ := mutate_sameValues same change
    exact ⟨form, matrices⟩
  | _ => exact ⟨rfl, sameValues_mk.mpr same⟩

/-- **The kinds of the cells do not influence values.** Two equal matrices of one form that get alike
requests both fail, with one error, or both give an answer, and the answers are equal and have one text;
and the matrices that are left are equal, of one form, and have one text. -/
theorem respond_of_sameValues {m o : Matrix} (form : m.form = o.form)
    (same : equals true (.ofMatrix m) (.ofMatrix o) = .ok (.bool true)) {r s : Request}
    (alike : r.Alike s) :
    ((∃ e, (m.answer r).outcome = .error e ∧ (o.answer s).outcome = .error e) ∨
      ∃ v w, (m.answer r).outcome = .ok v ∧ (o.answer s).outcome = .ok w ∧
        equals true v w = .ok (.bool true) ∧ v.plain = w.plain) ∧
    (m.after r).form = (o.after s).form ∧
    equals true (.ofMatrix (m.after r)) (.ofMatrix (o.after s)) = .ok (.bool true) ∧
    toString (m.after r) = toString (o.after s) := by
  rw [equals_ofMatrix, Except.ok.injEq, bool.injEq, decide_eq_true_iff] at same
  obtain ⟨h, rfl, values⟩ := same.exists_withGrid form
  obtain ⟨form', left⟩ := after_sameValues values alike
  refine ⟨(agree_answer values alike).eq_error_or_ok, form', ?_, congrArg String.ofList left.text_eq⟩
  rw [equals_ofMatrix, decide_eq_true left]

/-- A matrix with cells that are rational numbers, and one where some of them are complex, scaled by the
fraction `1/2` and by the float `0.5`. -/
theorem respond_of_promoted_cell :
    let m : Matrix := ⟨.square, 2, 2, #v[#v[1, .rational (.ofInt 2)], #v[.complex ⟨0, 1⟩, 0]],
      Nat.two_pos, Nat.two_pos, fun _ => rfl⟩
    let o := m.withGrid #v[#v[1, .complex ⟨.ofInt 2, 0⟩], #v[.complex ⟨0, 1⟩, .complex ⟨0, 0⟩]]
    let half : Operand := .fraction (.reduce 1 2 Nat.two_pos)
    let float : Operand := .ofDouble 0x3fe0000000000000
    m.form = o.form ∧ equals true (.ofMatrix m) (.ofMatrix o) = .ok (.bool true) ∧
      Request.Alike (.scale half) (.scale float) ∧
      ∃ v w, (m.answer (.scale half)).outcome = .ok v ∧ (o.answer (.scale float)).outcome = .ok w ∧
        equals true v w = .ok (.bool true) := by
  intro m o half float
  have same : equals true (.ofMatrix m) (.ofMatrix o) = .ok (.bool true) := by
    rw [equals_ofMatrix, decide_eq_true (by decide)]
  have alike : Request.Alike (.scale half) (.scale float) := by
    refine .scale (.numbers ?_ ?_ (by decide))
    · have plain : equal half float = samePlain half float :=
        equal_eq_samePlain (fun _ _ => nofun) (fun _ => nofun) rfl rfl
      exact plain.trans rfl
    · rintro _ _ ⟨⟩ ⟨⟩
      decide
  have form : m.form = o.form := rfl
  refine ⟨form, same, alike, ?_⟩
  obtain ⟨e, fails, -⟩ | ⟨v, w, left, right, equal, -⟩ := (respond_of_sameValues form same alike).1
  · cases fails
  · exact ⟨v, w, left, right, equal⟩

end Matrix

/-! ## Floats that stand for other numbers -/

namespace Rational

/-- The fraction that the double closest to `1/10` is. -/
def doubleTenth : Rational := .reduce 3602879701896397 36028797018963968 (by decide)

/-- The double closest to a tenth stands for a tenth. Its exact value has a power of two as denominator, which
is far beyond the bound, and the continued fraction of it passes through a tenth. -/
theorem closest_doubleTenth : doubleTenth.closest floatBound = .reduce 1 10 (by decide) := by
  have convergents : convergents floatBound 3602879701896397 36028797018963968 (0, 1) (1, 0) =
      ((1, 9), (1, 10)) := by
    simp [Rational.convergents, floatBound]
  have terms : doubleTenth.num = 3602879701896397 ∧ doubleTenth.den = 36028797018963968 := by decide
  rw [closest, terms.1, terms.2, if_neg (by decide), convergents]
  decide

end Rational

namespace Matrix

open Operand

/-- Numbers that are equal and are not alike. A float is compared by its exact value, and stands for a
close number with a small denominator: the double closest to `1/10` and the fraction that it is scale by
different numbers. So do an integer of arrays and the float that it is rounded to where they are compared.
And a truth value and a pair of floats are refused, where the integer that they are equal to is not. -/
theorem scale_by_equal_numbers :
    let m : Matrix := ⟨.square, 1, 1, #v[#v[1]], Nat.one_pos, Nat.one_pos, fun _ => rfl⟩
    let scaled (s : Operand) := (m.answer (.scale s)).outcome
    let tenth : Operand := .ofDouble 0x3fb999999999999a
    let fraction : Operand := .fraction Rational.doubleTenth
    let power : Operand := .ofDouble 0x4340000000000000
    let next : Operand := .wordInt (2 ^ 53 + 1)
    let one : Operand := .doublePair 0x3ff0000000000000 0 none
    (m.readOnly = false ∧ equals true (.ofMatrix m) (.ofMatrix m) = .ok (.bool true)) ∧
      (equals true tenth fraction = .ok (.bool true) ∧ ∃ v w, scaled tenth = .ok v ∧
        scaled fraction = .ok w ∧ equals true v w = .ok (.bool false)) ∧
      (equals true power next = .ok (.bool true) ∧ ∃ v w, scaled power = .ok v ∧
        scaled next = .ok w ∧ equals true v w = .ok (.bool false)) ∧
      (equals true (.bool true) (.int 1) = .ok (.bool true) ∧
        equals true one (.int 1) = .ok (.bool true) ∧ (∃ e, scaled (.bool true) = .error e) ∧
        (∃ e, scaled one = .error e) ∧ ∃ v, scaled (.int 1) = .ok v) := by
  intro m scaled tenth fraction power next one
  have scaledBy {s : Operand} {q : Quantity} (taken : s.toQuantity = .ok q) :
      scaled s = .ok (.ofMatrix (m.scale q)) :=
    Logged.outcome_bind_of_ok (x := (s.toQuantity : Logged Quantity)) taken _
  have approximated : tenth.toQuantity = .ok (.rational (.reduce 1 10 (by decide))) := by
    have closest : tenth.toQuantity =
      .ok (.rational (Rational.doubleTenth.closest Rational.floatBound)) := rfl
    rw [closest, Rational.closest_doubleTenth]
  have whole : power.toQuantity = .ok (.rational (.ofInt (2 ^ 53))) := by rfl
  refine ⟨⟨rfl, ?_⟩, ⟨?_, _, _, scaledBy approximated, scaledBy rfl, ?_⟩,
    ⟨?_, _, _, scaledBy whole, scaledBy rfl, ?_⟩, ?_, ?_, ⟨_, rfl⟩, ⟨_, rfl⟩, _, scaledBy rfl⟩
  · rw [equals_ofMatrix, decide_eq_true (by decide)]
  · exact equals_of_samePlain (fun _ _ => nofun) (fun _ => nofun) rfl rfl rfl
  · rw [equals_ofMatrix, decide_eq_false (by decide)]
  · exact equals_of_samePlain (fun _ _ => nofun) (fun _ => nofun) rfl rfl rfl
  · rw [equals_ofMatrix, decide_eq_false (by decide)]
  · exact equals_of_samePlain (fun _ _ => nofun) (fun _ => nofun) rfl rfl rfl
  · have equal : sameNumber one (.int 1) = true := by decide +kernel
    have plain : samePlain one (.int 1) = .ok (sameNumber one (.int 1)) := rfl
    exact equals_of_samePlain (fun _ _ => nofun) (fun _ => nofun) rfl rfl (plain.trans (congrArg _ equal))

end Matrix

end ExactAlgebra
