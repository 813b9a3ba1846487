import ExactAlgebra.Operand.Operators
import ExactAlgebra.Proofs.Equality
import ExactAlgebra.Proofs.QuantityParts

/-!
# Quotients and their divisors

A quotient by `c + di` is taken over the scale `c(c + d)`. So the divisors without quotients are the ones
with `c = 0` or `c + d = 0`, whatever is divided, and also where the divisor is not zero. A quotient that
exists need not give the dividend back when it is multiplied by the divisor again. It does for every divisor
on the real axis, for the dividend zero, and for a real dividend if the two parts of the divisor agree; in no
other case.

The operands need not be quantities. What is combined is the quantity that an operand stands for.

## Main statements

* `Quantity.combine_of_toQuantity`, `Operand.operate_quantity_right`: operands on either side.
* `Quantity.divide_eq_error_iff`, `Quantity.exists_divide`: the divisors that have quotients.
* `Quantity.divide_then_multiply`: the quotients that give the dividend back.
-/

namespace ExactAlgebra

/-! ## Operands on either side -/

/-- An operation other than the power is carried out with the quantity that the operand stands for. -/
theorem Quantity.combine_of_toQuantity (o : Operation) (base : o ≠ .pow) (q : Quantity) {v : Operand}
    {p : Quantity} (number : v.toQuantity = .ok p) : q.combine o v = o.apply q p := by
  have carried : v.toQuantity >>= o.apply q = o.apply q p := by
    rw [number]
    rfl
  cases o with
  | add | subtract | multiply | divide => exact carried
  | pow => exact absurd rfl base

namespace Operand

/-- A value that stands for a quantity is neither an array nor a matrix. -/
theorem isArray_of_toQuantity {v : Operand} {p : Quantity} (number : v.unboxed.toQuantity = .ok p) :
    v.isArray = false := by
  cases v with
  | array => cases number
  | _ => rfl

/-- A value on the left of an operator is divided as the quantity that it stands for. -/
theorem operate_quantity_right {v : Operand} {p : Quantity} (number : v.unboxed.toQuantity = .ok p)
    (q : Quantity) : operate .divide v (.quantity q) = (p.divide q).map .quantity := by
  have plain : operate .divide v (.quantity q) = operatePlain .divide v (.quantity q) := by
    rw [operate, isArray_of_toQuantity number]
    rfl
  have carried : (do
      let p ← v.unboxed.toQuantity
      return Operand.quantity (← Operation.divide.apply p q)) = (p.divide q).map .quantity := by
    rw [number]
    show Except.bind (p.divide q) _ = _
    cases p.divide q <;> rfl
  rw [plain]
  cases v with
  | quantity p' =>
    cases number
    rfl
  | matrix => cases number
  | _ => exact carried

end Operand

/-- A plain number is compared as the quantity that it is, also by the operator. -/
theorem Quantity.equals_of_comparable? {v : Operand} {p : Quantity} (number : v.comparable? = some p)
    (s : Quantity) : Operand.equals true (.quantity s) v = .ok (.bool (decide (s.SameValue p))) := by
  have compared : Operand.samePlain (.quantity s) v = .ok (decide (s.SameValue p)) := by
    cases v with
    | quantity | int | wordInt | fraction =>
      cases number
      rfl
    | symbolic re im =>
      show Operand.sameQuantity (.quantity s) (.symbolic re im) = _
      rw [Operand.sameQuantity, number]
    | _ => cases number
  have plain : v.isArray = false := by
    cases v with
    | array => cases number
    | _ => rfl
  refine Operand.equals_of_equal rfl plain ?_
  rw [Operand.equal, plain]
  · exact compared
  all_goals
    intros
    contradiction

namespace Quantity

/-! ## Divisors -/

theorem scale_eq_zero_iff {q : Quantity} : q.scale = 0 ↔ q.re = 0 ∨ q.re + q.im = 0 := by
  rw [scale, ← mul_add, mul_eq_zero]

/-- There is no quotient exactly when the real part of the divisor is zero or the negative of the imaginary
part. -/
theorem divide_eq_error_iff {p q : Quantity} :
    p.divide q = .error .divisionByZero ↔ q.re = 0 ∨ q.re + q.im = 0 := by
  rw [← scale_eq_zero_iff, ← divide?_eq_none (p := p), divide]
  cases p.divide? q <;> simp

/-- By any other divisor there is one, which multiplied by the divisor gives the dividend back in the cases
of `mul_quotient_iff`. -/
theorem exists_divide (p : Quantity) {q : Quantity} (some : ¬ (q.re = 0 ∨ q.re + q.im = 0)) :
    ∃ r, p.divide q = .ok r ∧
      ((r * q).SameValue p ↔ q.im = 0 ∨ p.isZero = true ∨ (q.re = q.im ∧ p.im = 0)) := by
  obtain ⟨r, quotient, -⟩ := divide?_eq_some p (mt scale_eq_zero_iff.mp some)
  exact ⟨r, orFail_eq_ok.mpr quotient, mul_quotient_iff quotient⟩

/-! ## Division and multiplication -/

/-- **Division by `c + di`**, which an operand stands for, fails exactly when `c = 0` or `c + d = 0`.
Otherwise the quotient times the divisor is the dividend exactly when `d = 0`, or the dividend is zero, or
`c = d` and the dividend is real. A plain number on the left of the operator is divided in the same way, and
an exact one is compared in the same way. -/
theorem divide_then_multiply (p : Quantity) {v : Operand} {q : Quantity} (number : v.toQuantity = .ok q) :
    (p.combine .divide v = .error .divisionByZero ↔ q.re = 0 ∨ q.re + q.im = 0) ∧
      (¬ (q.re = 0 ∨ q.re + q.im = 0) →
        ∃ r s, p.combine .divide v = .ok r ∧ r.combine .multiply v = .ok s ∧
          (Operand.equals true (.quantity s) (.quantity p) = .ok (.bool true) ↔
            q.im = 0 ∨ p.isZero = true ∨ (q.re = q.im ∧ p.im = 0))) ∧
      ∀ u : Operand,
        (u.unboxed.toQuantity = .ok p →
          Operand.operate .divide u (.quantity q) = (p.combine .divide v).map .quantity) ∧
        (u.comparable? = some p → ∀ s,
          Operand.equals true (.quantity s) u = Operand.equals true (.quantity s) (.quantity p)) := by
  have divided : p.combine .divide v = p.divide q := combine_of_toQuantity .divide nofun p number
  rw [divided]
  refine ⟨divide_eq_error_iff, fun some => ?_, fun u => ⟨fun plain => ?_, fun plain s => ?_⟩⟩
  · obtain ⟨r, quotient, back⟩ := exists_divide p some
    have multiplied : r.combine .multiply v = .ok (r * q) := combine_of_toQuantity .multiply nofun r number
    refine ⟨r, r * q, quotient, multiplied, ?_⟩
    rw [equals_quantity, Except.ok.injEq, Operand.bool.injEq, decide_eq_true_iff]
    exact back
  · exact Operand.operate_quantity_right plain q
  · rw [equals_of_comparable? plain, equals_quantity]

/-- Two divided by `1 + i`: the parts of the divisor agree and the dividend is real, so the quotient times
the divisor is two again, also if two is a plain integer. Two has no quotient by `1 - i`. -/
theorem divide_two_by_one_plus_i :
    let two : Quantity := .rational (.ofInt 2)
    let divisor (d : Rational) : Operand := .quantity (.complex ⟨1, d⟩)
    (∃ r s, two.combine .divide (divisor 1) = .ok r ∧ r.combine .multiply (divisor 1) = .ok s ∧
        Operand.equals true (.quantity s) (.int 2) = .ok (.bool true) ∧
        Operand.operate .divide (.int 2) (divisor 1) = .ok (.quantity r)) ∧
      two.combine .divide (divisor (-1)) = .error .divisionByZero := by
  intro two divisor
  obtain ⟨-, quotients, left⟩ := divide_then_multiply two (v := divisor 1) rfl
  obtain ⟨none, -, -⟩ := divide_then_multiply two (v := divisor (-1)) rfl
  obtain ⟨r, s, quotient, product, back⟩ := quotients (by norm_num)
  obtain ⟨divided, compared⟩ := left (.int 2)
  refine ⟨⟨r, s, quotient, product, ?_, ?_⟩, none.mpr (Or.inr ?_)⟩
  · rw [compared rfl]
    exact back.mpr (Or.inr (Or.inr ⟨rfl, rfl⟩))
  · rw [divided rfl, quotient]
    rfl
  · simp

end Quantity

end ExactAlgebra
