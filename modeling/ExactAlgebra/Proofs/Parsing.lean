import ExactAlgebra.Proofs.ParserSteps

/-!
# Parsing follows the grammar

The parser climbs through the binding strengths of operators, while the grammar has one category for each
of them. What relates the two is what may come after a phrase. The parser extends an operand as far as it
can; so it makes a phrase of a category out of the front of the tokens exactly when the tokens after the
phrase do not go on with an operation that the category would take in.

## Main definitions

* `Category.level`, `Category.bound`: the strengths that the parser looks for in a category, and the
  least one that would extend a phrase of it.
* `Operation.category`, `Operation.operand`: the categories of an operation and of its right operand.
* `Parser.Took`: a phrase was taken off the tokens.

## Main statements

* `Parser.complete`: a phrase is parsed and has the value of its tree.
* `Parser.sound`: what the parser takes is a phrase.
* `evaluateTokens_eq_value`, `exists_phrase_of_evaluateTokens`: the same for all tokens of an expression.
-/

namespace ExactAlgebra

/-! ## Categories and operations -/

namespace Category

/-- The strength of the operations of a category: the parser looks for these and stronger ones. -/
def level : Category → ℕ
  | .sum => 1
  | .term => 2
  | .factor | .atom => 3

/-- A phrase of the category would be extended by an operation of this strength. -/
def bound : Category → ℕ
  | .sum => 2
  | .term | .factor => 3
  | .atom => 4

end Category

namespace Operation

/-- The category that an operation makes. -/
def category : Operation → Category
  | .add | .subtract => .sum
  | .multiply | .divide => .term
  | .pow => .factor

/-- The category of the right operand of an operation. -/
def operand : Operation → Category
  | .add | .subtract => .term
  | .multiply | .divide | .pow => .factor

theorem level_category (o : Operation) : o.category.level = o.precedence := by
  cases o <;> rfl

theorem bound_category (o : Operation) : o.category.bound = Parser.rightLevel o := by
  cases o <;> rfl

theorem level_operand (o : Operation) : o.operand.level = Parser.rightLevel o := by
  cases o <;> rfl

theorem operand_ne_atom (o : Operation) : o.operand ≠ .atom := by
  cases o <;> rintro ⟨⟩

end Operation

namespace Phrase

variable {j k : Category} {ts ts' : List Token} {t l r : SyntaxTree}

/-- A phrase of a stronger category is one of a weaker category too. -/
theorem weaken (phrase : Phrase j ts t) (le : k.level ≤ j.level) (ne : k ≠ .atom) : Phrase k ts t := by
  cases k with
  | sum =>
    cases j with
    | sum => exact phrase
    | term => exact .term phrase
    | factor => exact .term (.factor phrase)
    | atom => exact .term (.factor (.atom phrase))
  | term =>
    cases j with
    | sum => exact absurd le (by decide)
    | term => exact phrase
    | factor => exact .factor phrase
    | atom => exact .factor (.atom phrase)
  | factor =>
    cases j with
    | sum | term => exact absurd le (by decide)
    | factor => exact phrase
    | atom => exact .atom phrase
  | atom => exact absurd rfl ne

/-- A phrase that a multiplication would extend is a term. -/
theorem term_of_lt (phrase : Phrase j ts t) (less : 2 < j.bound) : Phrase .term ts t := by
  cases j with
  | sum => exact absurd less (by decide)
  | term => exact phrase
  | factor => exact .factor phrase
  | atom => exact .factor (.atom phrase)

/-- The left operand of an operation is any phrase that the operation would extend. -/
theorem operation {o : Operation} (left : Phrase j ts l) (less : o.precedence < j.bound)
    (right : Phrase o.operand ts' r) : Phrase o.category (ts ++ .operator o :: ts') (.binary o l r) := by
  have strength : 1 ≤ j.level := by
    cases j <;> decide
  cases o with
  | add => exact .sum .add (Or.inl rfl) (left.weaken strength (by rintro ⟨⟩)) right
  | subtract => exact .sum .subtract (Or.inr rfl) (left.weaken strength (by rintro ⟨⟩)) right
  | multiply => exact .product .multiply (Or.inl rfl) (left.term_of_lt less) right
  | divide => exact .product .divide (Or.inr rfl) (left.term_of_lt less) right
  | pow =>
    cases j with
    | atom => exact .power left right
    | sum | term | factor => exact absurd less (by decide)

end Phrase

namespace Parser

variable (whole : List Char)

/-! ## Phrases are parsed -/

/-- An operation whose right operand is parsed up to where it stops. -/
theorem made_continuation_binary {level : ℕ} {o : Operation} {closed closed' : Bool}
    {ts operand rest : List Token} {r : SyntaxTree} (found : next closed ts = some (o, operand))
    (le : level ≤ o.precedence)
    (right : made (expression whole (rightLevel o) operand) =
      r.value >>= fun b => made (continuation whole (rightLevel o) b closed' rest))
    (stops : Stops (rightLevel o) closed' rest) (a : Quantity) :
    made (continuation whole level a closed ts) =
      r.value >>= fun b => o.apply a b >>= fun v => made (continuation whole level v closed' rest) := by
  rw [made_continuation_of_some whole found, if_neg (not_lt.mpr le), right]
  cases r.value with
  | error e => rfl
  | ok b =>
    show made (continuation whole (rightLevel o) b closed' rest) >>= _ = _
    rw [made_continuation_of_stops whole stops]
    rfl

/-- An operation on two operands that are parsed. -/
theorem made_expression_binary {level : ℕ} {o : Operation} {closed : Bool}
    {ts us operand rest : List Token} {l r : SyntaxTree}
    (left : made (expression whole level (ts ++ us)) =
      l.value >>= fun a => made (continuation whole level a (endsClosed ts) us))
    (found : next (endsClosed ts) us = some (o, operand)) (le : level ≤ o.precedence)
    (right : made (expression whole (rightLevel o) operand) =
      r.value >>= fun b => made (continuation whole (rightLevel o) b closed rest))
    (stops : Stops (rightLevel o) closed rest) :
    made (expression whole level (ts ++ us)) =
      (SyntaxTree.binary o l r).value >>= fun v => made (continuation whole level v closed rest) := by
  have step : (fun a => made (continuation whole level a (endsClosed ts) us)) = fun a =>
      r.value >>= fun b => o.apply a b >>= fun v => made (continuation whole level v closed rest) :=
    funext (made_continuation_binary whole found le right stops)
  rw [left, step]
  simp only [SyntaxTree.value, bind_assoc]

/-- An operation with an operator between its operands. -/
theorem made_expression_operator {level : ℕ} {o : Operation} {ts ts' rest : List Token}
    {l r : SyntaxTree} (ne : ts' ≠ []) (le : level ≤ o.precedence)
    (left : made (expression whole level (ts ++ .operator o :: (ts' ++ rest))) =
      l.value >>= fun a =>
        made (continuation whole level a (endsClosed ts) (.operator o :: (ts' ++ rest))))
    (right : made (expression whole (rightLevel o) (ts' ++ rest)) =
      r.value >>= fun b => made (continuation whole (rightLevel o) b (endsClosed ts') rest))
    (stops : Stops (rightLevel o) (endsClosed (ts ++ .operator o :: ts')) rest) :
    made (expression whole level (ts ++ .operator o :: ts' ++ rest)) =
      (SyntaxTree.binary o l r).value >>= fun v =>
        made (continuation whole level v (endsClosed (ts ++ .operator o :: ts')) rest) := by
  rw [endsClosed_operator ne] at stops ⊢
  rw [List.append_assoc, List.cons_append]
  exact made_expression_binary whole left (next_eq_some_iff.mpr (Or.inl rfl)) le right stops

/-- **A phrase is parsed**, with the value of its tree, whatever comes after it that does not extend it. -/
theorem complete {k : Category} {ts : List Token} {t : SyntaxTree} (phrase : Phrase k ts t)
    {level : ℕ} (le : level ≤ k.level) {rest : List Token} (stops : Stops k.bound (endsClosed ts) rest) :
    made (expression whole level (ts ++ rest)) =
      t.value >>= fun v => made (continuation whole level v (endsClosed ts) rest) := by
  induction phrase generalizing level rest with
  | term _ ih => exact ih (le.trans (by decide)) (stops.mono (by decide))
  | factor _ ih => exact ih (le.trans (by decide)) stops
  | atom _ ih => exact ih le (stops.mono (by decide))
  | @sum ts ts' l r o low first second ih ih' =>
    -- The left operand leaves the operator to the loop, and the right one ends where the sum does.
    have ends := endsClosed_operator second.ne_nil ts o
    rcases low with rfl | rfl
    all_goals
      refine made_expression_operator whole second.ne_nil le (ih le (.operator (by decide) _ _)) ?_ stops
      rw [ends] at stops
      exact ih' (le_refl 2) (stops.mono (by decide))
  | @product ts ts' l r o low first second ih ih' =>
    have ends := endsClosed_operator second.ne_nil ts o
    rcases low with rfl | rfl
    all_goals
      refine made_expression_operator whole second.ne_nil le (ih le (.operator (by decide) _ _)) ?_ stops
      rw [ends] at stops
      exact ih' (le_refl 3) stops
  | @power ts ts' l r first second ih ih' =>
    refine made_expression_operator whole second.ne_nil le (ih le (.four _ _)) ?_ stops
    rw [endsClosed_operator second.ne_nil] at stops
    exact ih' (le_refl 3) stops
  | @adjoined ts ts' l r adjoin first second ih ih' =>
    have found : next (endsClosed ts) (ts' ++ rest) = some (.multiply, ts' ++ rest) := by
      refine next_eq_some_iff.mpr (Or.inr ⟨rfl, rfl, ?_⟩)
      obtain ⟨t, us, rfl⟩ := List.exists_cons_of_ne_nil second.ne_nil
      exact adjoin
    rw [endsClosed_append second.ne_nil] at stops ⊢
    rw [List.append_assoc]
    refine made_expression_binary whole (ih le (.of_some found ?_)) found le (ih' le_rfl stops) stops
    decide
  | @negative ts t phrase ih =>
    rw [endsClosed_cons phrase.ne_nil] at stops ⊢
    -- The operand is parsed on its own, up to where no power comes.
    have stops' : Stops 3 (endsClosed ts) rest := stops
    have operand : made (expression whole 3 (ts ++ rest)) = _ := ih (le_refl 3) stops
    simp only [made_continuation_of_stops whole stops'] at operand
    rw [List.cons_append, made_expression, made_signed_minus, operand, SyntaxTree.value]
    cases t.value with
    | error e => rfl
    | ok v => rfl
  | @numeral ds unit =>
    rw [List.singleton_append, made_expression, made_signed_of_ne whole (by rintro ⟨⟩), made_atom_numeral]
    rfl
  | @parentheses ts t phrase ih =>
    -- At a closing parenthesis the loop ends at every level.
    have last {level : ℕ} : Stops level (endsClosed ts) (.closing :: rest) := .of_none rfl
    have inside : made (expression whole 1 (ts ++ .closing :: rest)) = _ := ih (le_refl 1) last
    simp only [made_continuation_of_stops whole last] at inside
    have closed : endsClosed (.opening :: (ts ++ [.closing])) = true :=
      endsClosed_append (List.cons_ne_nil _ _) (.opening :: ts)
    rw [closed, List.cons_append, List.append_assoc, List.singleton_append, made_expression,
      made_signed_of_ne whole (by rintro ⟨⟩), made_atom_opening, inside]
    cases t.value with
    | error e => rfl
    | ok v => rfl

/-! ## What is parsed is a phrase -/

/-- A phrase was taken off the tokens, and no operation of some strength comes after it. -/
def Took (k : Category) (strength : ℕ) (ts : List Token) (closed : Bool) (rest : List Token) : Prop :=
  ∃ us t, us ++ rest = ts ∧ Phrase k us t ∧ endsClosed us = closed ∧ Stops strength closed rest

/-- Of fewer than `n` tokens the parser takes phrases only. -/
def SoundBelow (n : ℕ) : Prop :=
  ∀ (k : Category) (ts : List Token), k ≠ .atom → ts.length < n → ∀ v closed rest,
    made (expression whole k.level ts) = .ok (v, closed, rest) → Took k k.level ts closed rest

theorem closeWith_eq_ok {p q : Quantity × Bool × List Token} (ok : closeWith whole p = .ok q) :
    p.2.2 = .closing :: q.2.2 ∧ q.2.1 = true := by
  obtain ⟨v, closed, rest⟩ := p
  cases rest with
  | nil => cases ok
  | cons t rest =>
    cases t with
    | closing =>
      cases ok
      exact ⟨rfl, rfl⟩
    | opening | operator | numeral => cases ok

theorem took_of_atom {ts : List Token} (sound : SoundBelow whole ts.length) {v : Quantity}
    {closed : Bool} {rest : List Token} (ok : made (atom whole ts) = .ok (v, closed, rest)) :
    Took .atom 4 ts closed rest := by
  rcases ts with _ | ⟨t, ts⟩
  · rw [atom] at ok
    · cases ok
    all_goals simp
  cases t with
  | numeral ds unit =>
    rw [made_atom_numeral] at ok
    cases ok
    exact ⟨[.numeral ds unit], _, rfl, .numeral, rfl, .four _ _⟩
  | opening =>
    rw [made_atom_opening] at ok
    obtain ⟨⟨v', closed', rest'⟩, inner, close⟩ := of_bind_ok ok
    obtain ⟨us, t, rfl, phrase, -, -⟩ :=
      sound .sum ts (by rintro ⟨⟩) (Nat.lt_succ_self _) _ _ _ inner
    obtain ⟨rfl, rfl⟩ := closeWith_eq_ok whole close
    have ends : endsClosed (.opening :: (us ++ [.closing])) = true :=
      endsClosed_append (List.cons_ne_nil _ _) (.opening :: us)
    exact ⟨_, t, by simp, .parentheses phrase, ends, .four _ _⟩
  | operator | closing =>
    rw [atom] at ok
    · cases ok
    all_goals simp

/-- An operand is an atom, or a negative with the powers after it. -/
theorem took_of_signed {ts : List Token} (sound : SoundBelow whole ts.length) {v : Quantity}
    {closed : Bool} {rest : List Token} (ok : made (signed whole ts) = .ok (v, closed, rest)) :
    ∃ j : Category, 3 ≤ j.level ∧ Took j j.bound ts closed rest := by
  by_cases minus : ts.head? = some (.operator .subtract)
  · obtain ⟨operand, rfl⟩ := List.head?_eq_some_iff.mp minus
    rw [made_signed_minus] at ok
    obtain ⟨⟨a, closed', rest'⟩, inner, same⟩ := of_bind_ok ok
    cases same
    obtain ⟨us, t, rfl, phrase, rfl, stops⟩ :=
      sound .factor operand (by rintro ⟨⟩) (Nat.lt_succ_self _) _ _ _ inner
    exact ⟨.factor, le_refl 3, _, _, rfl, .negative phrase, endsClosed_cons phrase.ne_nil _, stops⟩
  · rw [made_signed_of_ne whole minus] at ok
    exact ⟨.atom, le_refl 3, took_of_atom whole sound ok⟩

/-- An operation with its operands is a phrase, with an operator between them or not. -/
theorem exists_phrase_of_next {j : Category} {us us' ts rest : List Token} {l r : SyntaxTree}
    {o : Operation} (found : next (endsClosed us) ts = some (o, us' ++ rest)) (left : Phrase j us l)
    (less : o.precedence < j.bound) (right : Phrase o.operand us' r) :
    ∃ ws, ws ++ rest = us ++ ts ∧ Phrase o.category ws (.binary o l r) ∧
      endsClosed ws = endsClosed us' := by
  rcases next_eq_some_iff.mp found with rfl | ⟨rfl, rfl, adjoin⟩
  · exact ⟨us ++ .operator o :: us', by simp, left.operation less right,
      endsClosed_operator right.ne_nil us o⟩
  · have adjoin' : Token.Adjoin us us' := by
      obtain ⟨t, us', rfl⟩ := List.exists_cons_of_ne_nil right.ne_nil
      exact adjoin
    exact ⟨us ++ us', List.append_assoc _ _ _, .adjoined adjoin' (left.term_of_lt less) right,
      endsClosed_append right.ne_nil us⟩

/-- The loop over the operations after a phrase. It keeps a phrase on its left that the operation which
comes next would extend. -/
theorem took_of_continuation {n : ℕ} (sound : SoundBelow whole n) {k : Category} (ne : k ≠ .atom)
    {j : Category} {us ts : List Token} {t : SyntaxTree} (fewer : ts.length < n)
    (phrase : Phrase j us t) (le : k.level ≤ j.level) (stops : Stops j.bound (endsClosed us) ts)
    {left v : Quantity} {closed : Bool} {rest : List Token}
    (ok : made (continuation whole k.level left (endsClosed us) ts) = .ok (v, closed, rest)) :
    Took k k.level (us ++ ts) closed rest := by
  induction size : ts.length using Nat.strong_induction_on generalizing j us ts t left with
  | _ size ih =>
    subst size
    cases found : next (endsClosed us) ts with
    | none =>
      rw [made_continuation_of_none whole found] at ok
      cases ok
      exact ⟨us, t, rfl, phrase.weaken le ne, rfl, .of_none found⟩
    | some pair =>
      obtain ⟨o, operand⟩ := pair
      rw [made_continuation_of_some whole found] at ok
      by_cases low : o.precedence < k.level
      · -- The operation is left to an operand further left.
        rw [if_pos low] at ok
        cases ok
        exact ⟨us, t, rfl, phrase.weaken le ne, rfl, .of_some found low⟩
      · -- The operation makes a longer phrase, before fewer tokens.
        rw [if_neg low, ← o.level_operand] at ok
        obtain ⟨⟨b, closed', rest'⟩, right, after⟩ := of_bind_ok ok
        obtain ⟨w, -, ok'⟩ := of_bind_ok after
        have short : operand.length ≤ ts.length := by
          rcases next_eq_some_iff.mp found with rfl | ⟨-, rfl, -⟩
          · exact Nat.le_succ _
          · exact le_refl _
        obtain ⟨us', r, rfl, phrase', rfl, stops'⟩ :=
          sound o.operand operand o.operand_ne_atom (short.trans_lt fewer) _ _ _ right
        obtain ⟨ws, spelled, joined, ends⟩ :=
          exists_phrase_of_next found phrase (stops o _ found) phrase'
        have less : rest'.length < ts.length := by
          have := List.length_pos_iff.mpr phrase'.ne_nil
          rw [List.length_append] at short
          omega
        rw [← ends] at ok' stops'
        rw [o.level_operand, ← o.bound_category] at stops'
        rw [← spelled]
        refine ih _ less (less.trans fewer) joined ?_ stops' ok' rfl
        rw [o.level_category]
        exact not_lt.mp low

theorem took_of_expression {k : Category} (ne : k ≠ .atom) {ts : List Token}
    (sound : SoundBelow whole ts.length) {v : Quantity} {closed : Bool} {rest : List Token}
    (ok : made (expression whole k.level ts) = .ok (v, closed, rest)) : Took k k.level ts closed rest := by
  rw [made_expression] at ok
  obtain ⟨⟨a, closed', ts'⟩, operand, after⟩ := of_bind_ok ok
  obtain ⟨j, strong, us, t, rfl, phrase, rfl, stops⟩ := took_of_signed whole sound operand
  have weak : k.level ≤ 3 := by
    cases k <;> decide
  have fewer : ts'.length < (us ++ ts').length := by
    have := List.length_pos_iff.mpr phrase.ne_nil
    rw [List.length_append]
    omega
  exact took_of_continuation whole sound ne fewer phrase (weak.trans strong) stops after

/-- **What the parser takes is a phrase**, and no operation that it looked for comes after it. -/
theorem sound (n : ℕ) : SoundBelow whole n := by
  induction n with
  | zero =>
    intro k ts ne fewer
    exact absurd fewer (Nat.not_lt_zero _)
  | succ n ih =>
    intro k ts ne fewer v closed rest ok
    refine took_of_expression whole ne (fun k' ts' ne' fewer' => ?_) ok
    exact ih k' ts' ne' (fewer'.trans_le (Nat.le_of_lt_succ fewer))

end Parser

/-! ## All tokens of an expression -/

namespace Expression

variable (whole : List Char) {ts : List Token}

theorem evaluateTokens_eq_made (ts : List Token) :
    evaluateTokens whole ts = Parser.made (Parser.expression whole 1 ts) >>= fun (v, _, rest) =>
      if rest.isEmpty then .ok v else .error (Parser.fault whole .trailing) := by
  unfold evaluateTokens
  cases Parser.expression whole 1 ts with
  | error e => rfl
  | ok p => rfl

/-- Tokens that are a phrase have the value of its tree. -/
theorem evaluateTokens_eq_value {t : SyntaxTree} (phrase : Phrase .sum ts t) :
    evaluateTokens whole ts = t.value := by
  have last {level : ℕ} : Parser.Stops level (Parser.endsClosed ts) [] := .of_none rfl
  have parsed := Parser.complete whole phrase (le_refl 1) last
  simp only [Parser.made_continuation_of_stops whole last] at parsed
  rw [← List.append_nil ts, evaluateTokens_eq_made, parsed]
  cases t.value with
  | error e => rfl
  | ok v => rfl

/-- Tokens that have a value are a phrase. -/
theorem exists_phrase_of_evaluateTokens {v : Quantity} (ok : evaluateTokens whole ts = .ok v) :
    ∃ t, Phrase .sum ts t := by
  rw [evaluateTokens_eq_made] at ok
  obtain ⟨⟨a, closed, rest⟩, parsed, empty⟩ := of_bind_ok ok
  obtain ⟨us, t, rfl, phrase, -, -⟩ :=
    Parser.sound whole _ .sum ts (by rintro ⟨⟩) (Nat.lt_succ_self _) a closed rest parsed
  cases rest with
  | nil => exact ⟨t, by rwa [List.append_nil]⟩
  | cons _ _ => cases empty

end Expression

end ExactAlgebra
