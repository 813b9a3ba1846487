import ExactAlgebra.Proofs.Evaluation
import Mathlib.Data.List.Infix

/-!
# Parentheses of expressions

A text is balanced if it has as many opening parentheses as closing ones, and nowhere before its end has it
closed more than it has opened. The check of an expression compares the two numbers alone. So the two numbers
of a checked text agree, and each is the number of pairs, but a parenthesis may be closed before it is opened:
`)(` passes. Closing parentheses at the end do not mend that, and they do no harm; a checked text is balanced
exactly if nothing in the text it was made from is closed too early.

A text that is not balanced has no value. The grammar opens every parenthesis before it closes it.

## Main definitions

* `Expression.Nested`: no parenthesis is closed before it is opened.
* `Expression.Balanced`: the parentheses of a text come in pairs.

## Main statements

* `Derives.balanced`: the texts of the grammar are balanced.
* `Expression.build_parentheses`: the parentheses of a checked text.
-/

namespace ExactAlgebra

namespace Expression

/-- Wherever the text is cut, not more parentheses were closed than opened. -/
def Nested (s : List Char) : Prop := ∀ p, p <+: s → p.count ')' ≤ p.count '('

/-- No parenthesis is closed too early, and none is left open. -/
structure Balanced (s : List Char) : Prop where
  nested : Nested s
  pairs : s.count '(' = s.count ')'

instance (s : List Char) : Decidable (Nested s) :=
  decidable_of_iff (∀ p ∈ s.inits, p.count ')' ≤ p.count '(') (by simp only [Nested, List.mem_inits])

instance (s : List Char) : Decidable (Balanced s) :=
  decidable_of_iff (Nested s ∧ s.count '(' = s.count ')')
    ⟨fun both => ⟨both.1, both.2⟩, fun balanced => ⟨balanced.nested, balanced.pairs⟩⟩

variable {s s' : List Char}

/-! ## Texts put together -/

/-- The front of two texts in a row is the front of the first, or the first and a front of the second. -/
theorem eq_append_of_prefix_append {p : List Char} (front : p <+: s ++ s') :
    p <+: s ∨ ∃ p', p = s ++ p' ∧ p' <+: s' := by
  rcases List.prefix_or_prefix_of_prefix front (List.prefix_append s s') with inner | ⟨p', rfl⟩
  · exact Or.inl inner
  · exact Or.inr ⟨p', rfl, (List.prefix_append_right_inj s).mp front⟩

/-- A text stays nested if it goes on with a text that closes no more than was left open. -/
theorem Nested.append (nested : Nested s)
    (later : ∀ p, p <+: s' → s.count ')' + p.count ')' ≤ s.count '(' + p.count '(') :
    Nested (s ++ s') := by
  intro p front
  rcases eq_append_of_prefix_append front with inner | ⟨p', rfl, front'⟩
  · exact nested p inner
  · rw [List.count_append, List.count_append]
    exact later p' front'

theorem Nested.of_append (nested : Nested (s ++ s')) : Nested s :=
  fun p front => nested p (front.trans (List.prefix_append s s'))

/-- The parentheses that are left open may be closed at the end. -/
theorem nested_append_closing_iff :
    Nested (s ++ List.replicate (s.count '(' - s.count ')') ')') ↔ Nested s := by
  refine ⟨Nested.of_append, fun nested => nested.append fun p front => ?_⟩
  have whole := nested s List.prefix_rfl
  have closing : p.count ')' ≤ s.count '(' - s.count ')' := by
    have fewer := front.count_le ')'
    rwa [List.count_replicate_self] at fewer
  omega

theorem Balanced.of_not_mem (opening : '(' ∉ s) (closing : ')' ∉ s) : Balanced s where
  nested p front := by
    rw [List.count_eq_zero.mpr fun mem => closing (front.subset mem)]
    exact Nat.zero_le _
  pairs := by rw [List.count_eq_zero.mpr opening, List.count_eq_zero.mpr closing]

theorem Balanced.append (left : Balanced s) (right : Balanced s') : Balanced (s ++ s') where
  nested := left.nested.append fun p front => by
    rw [left.pairs]
    exact Nat.add_le_add_left (right.nested p front) _
  pairs := by rw [List.count_append, List.count_append, left.pairs, right.pairs]

/-- A character that is no parenthesis may stand in front. -/
theorem Balanced.cons {c : Char} (opening : c ≠ '(') (closing : c ≠ ')') (rest : Balanced s) :
    Balanced (c :: s) := by
  refine append (s := [c]) (.of_not_mem ?_ ?_) rest
  · rw [List.mem_singleton]
    exact opening.symm
  · rw [List.mem_singleton]
    exact closing.symm

theorem Balanced.parenthesized (inner : Balanced s) : Balanced ('(' :: (s ++ [')'])) where
  nested := by
    refine Nested.append (s := ['(']) (fun p front => ?_) fun p front => ?_
    · exact (front.count_le ')').trans (Nat.zero_le _)
    · have opening : ['('].count '(' = 1 ∧ ['('].count ')' = 0 := ⟨rfl, rfl⟩
      -- Behind the opening parenthesis one more may be closed than within.
      rcases eq_append_of_prefix_append front with within | ⟨p', rfl, last⟩
      · have closed := inner.nested p within
        omega
      · have closed : p'.count ')' ≤ 1 := last.count_le ')'
        rw [List.count_append, List.count_append, inner.pairs]
        omega
  pairs := by
    rw [List.count_cons_self, List.count_cons_of_ne (by decide), List.count_append, List.count_append,
      inner.pairs]
    rfl

end Expression

open Expression

/-! ## The grammar -/

theorem Expression.Balanced.of_digits {ds : List Char} (digits : ∀ d ∈ ds, Text.isDigit d = true) :
    Balanced ds :=
  .of_not_mem (fun mem => absurd (digits _ mem) (by decide)) fun mem => absurd (digits _ mem) (by decide)

/-- **The texts of the grammar are balanced**, by induction on the derivation. So a text with a closing
parenthesis too early has no value, even if there are as many of both sorts. -/
theorem Derives.balanced {k : Category} {p n : Option Char} {s : List Char} {t : SyntaxTree}
    (derived : Derives k p s n t) : Balanced s := by
  induction derived with
  | term _ ih | factor _ ih | atom _ ih => exact ih
  | sum o _ _ _ left right | product o _ _ _ left right =>
    exact left.append (right.cons o.symbol_ne_parenthesis.1 o.symbol_ne_parenthesis.2)
  | adjoined _ _ _ left right => exact left.append right
  | power _ _ left right => exact left.append (right.cons (by decide) (by decide))
  | negative _ ih => exact ih.cons (by decide) (by decide)
  | digits _ digits => exact .of_digits digits
  | unit digits => exact (Balanced.of_digits digits).append (.of_not_mem (by decide) (by decide))
  | parentheses _ ih => exact ih.parenthesized

namespace Expression

/-! ## Checked texts -/

/-- A checked text does not have fewer opening parentheses than closing ones, and each opening one counts as
a pair. -/
theorem count_of_build_ok {text : String} {e : Expression} (built : build text = .ok e) :
    (normalized text.toList).count ')' ≤ (normalized text.toList).count '(' ∧
      e.parentheses = (normalized text.toList).count '(' := by
  dsimp only [build] at built
  split at built
  · cases built
  split at built
  · cases built
  next enough =>
  split at built
  · cases built
  · cases built
    exact ⟨Nat.le_of_not_lt enough, rfl⟩

theorem count_normalForm {text : String}
    (enough : (normalized text.toList).count ')' ≤ (normalized text.toList).count '(') :
    (normalForm text).count '(' = (normalized text.toList).count '(' ∧
      (normalForm text).count ')' = (normalized text.toList).count '(' := by
  rw [normalForm, List.count_append, List.count_append, List.count_replicate_self, List.count_replicate,
    if_neg (by decide), Nat.add_zero, Nat.add_sub_cancel' enough]
  exact ⟨rfl, rfl⟩

/-- **The parentheses of a checked text.** There are as many opening as closing ones, which is the number of
pairs. The text is balanced exactly if none of the parentheses it was made from is closed too early, and it
has a value only if it is balanced. -/
theorem build_parentheses {text : String} {e : Expression} (built : build text = .ok e) :
    (e.text.count '(' = e.parentheses ∧ e.text.count ')' = e.parentheses) ∧
      (Balanced e.text ↔ Nested (normalized text.toList)) ∧
      ∀ v, e.evaluate.outcome = .ok v → Balanced e.text := by
  obtain ⟨enough, pairs⟩ := count_of_build_ok built
  obtain ⟨same, -⟩ := of_build_ok built
  obtain ⟨opening, closing⟩ := count_normalForm enough
  rw [same, pairs]
  refine ⟨⟨opening, closing⟩, ⟨fun balanced => balanced.nested.of_append, fun nested => ?_⟩, ?_⟩
  · exact ⟨nested_append_closing_iff.mpr nested, opening.trans closing.symm⟩
  · intro v ok
    rw [outcome_evaluate] at ok
    obtain ⟨t, derived⟩ := exists_derives_of_value ok
    rw [same] at derived
    exact derived.balanced

/-- A parenthesis that is left open is closed at the end. -/
theorem build_two_times_one_plus_i :
    ∃ e, build "2 [1+i" = .ok e ∧ e.text = "2(1+i)".toList ∧ e.parentheses = 1 ∧ Balanced e.text := by
  have built : build "2 [1+i" = .ok ⟨"2(1+i)".toList, 1⟩ := rfl
  have nested : Nested (normalized "2 [1+i".toList) := by decide
  exact ⟨_, built, rfl, rfl, (build_parentheses built).2.1.mpr nested⟩

/-- The check lets a text pass whose one pair is closed before it is opened. -/
theorem build_closed_before_opened :
    ∃ e, build ")(" = .ok e ∧ e.text = ")(".toList ∧ e.parentheses = 1 ∧ ¬ Balanced e.text :=
  ⟨_, rfl, rfl, rfl, by decide⟩

end Expression

end ExactAlgebra
