import ExactAlgebra.Proofs.Agreement
import ExactAlgebra.Proofs.Spelling

/-!
# Syntax errors and the numbers of an expression

The check of a text and the parser look at the sorts of tokens and not at their digits. So two texts whose
tokens differ in nothing but digits are checked with the same result, and then parsed in the same way, token
by token. But an expression is evaluated while it is parsed. If an operation has no result, parsing ends
there, and a fault in what follows is not found; whether an operation has a result depends on the numbers.

Two runs of the parser on such tokens therefore end alike: with the same tokens left over, with the same
fault, or with an operation without a result in one of them.

## Main definitions

* `Token.Resembles`: tokens that are equal except for their digits.
* `EndAlike`: two computations end alike unless an operation fails in one of them.
* `Expression.IsSyntaxError`, `Expression.FailsByOperation`: how an evaluation may end.

## Main statements

* `Expression.flaw?_spell_congr`: the check does not look at digits.
* `Parser.alikeBelow`, `Expression.alike_evaluateTokens`: neither does the parser.
* `Expression.syntax_errors_of_resembling`: syntax errors of texts that differ in their digits.
-/

namespace ExactAlgebra

open Text (isDigit)
open Token (spell)

/-! ## Tokens with other digits -/

/-- The tokens are equal except for the digits of a numeral. -/
inductive Token.Resembles : Token → Token → Prop
  | numeral (ds ds' : List Char) (unit : Bool) : Resembles (.numeral ds unit) (.numeral ds' unit)
  | operator (o : Operation) : Resembles (.operator o) (.operator o)
  | opening : Resembles .opening .opening
  | closing : Resembles .closing .closing

/-- Two rows of tokens are equal except for the digits of their numerals. -/
abbrev Token.SameButDigits : List Token → List Token → Prop := List.Forall₂ Token.Resembles

open Token (Resembles SameButDigits)

/-- Which operator a token is can be said of it without its digits, so that resembling tokens are the same
operator or none. -/
theorem Token.Resembles.eq_operator_iff {t t' : Token} (same : Resembles t t') (o : Operation) :
    t = .operator o ↔ t' = .operator o := by
  cases same <;> simp

/-- In particular a minus stands at the front of both rows of tokens or of neither, which is what decides about
signs. -/
theorem Token.SameButDigits.head?_eq_operator_iff {ts ts' : List Token} (same : SameButDigits ts ts')
    (o : Operation) : ts.head? = some (.operator o) ↔ ts'.head? = some (.operator o) := by
  cases same with
  | nil => rfl
  | cons first _ => simpa using first.eq_operator_iff o

/-! ## The check of a text -/

theorem Token.of_mem_numeral {ds : List Char} {unit : Bool} (digits : ∀ d ∈ ds, isDigit d = true)
    {c : Char} (mem : c ∈ (Token.numeral ds unit).text) : isDigit c = true ∨ c = 'i' := by
  rcases List.mem_append.mp mem with digit | last
  · exact Or.inl (digits c digit)
  · cases unit with
    | false => cases last
    | true => exact Or.inr (List.mem_singleton.mp last)

namespace Expression

variable {ts ts' : List Token} {p p' n n' : Option Char}

/-- For the character after it, every character of a numeral is as good as the unit. -/
theorem neighboursFit_after {c : Char} (number : isDigit c = true ∨ c = 'i') (rest : List Char) :
    neighboursFit c rest = neighboursFit 'i' rest := by
  have ends : endsOperand c = true := by
    rcases number with digit | rfl
    · simp [endsOperand, digit]
    · rfl
  obtain ⟨plain, ne⟩ := of_endsOperand ends
  have minus : c ≠ '-' := by
    rintro rfl
    cases plain
  cases rest with
  | nil => rfl
  | cons d rest =>
    have step : mayFollow c d = mayFollow 'i' d := by
      simp [mayFollow, plain, ne, minus, show Operation.isSymbol 'i' = false from rfl]
    rw [neighboursFit, neighboursFit, step]

/-- A numeral fits anywhere, and hides what stands before it. -/
theorem neighboursFit_numeral {s : List Char} (ne : s ≠ []) (numbers : ∀ c ∈ s, isDigit c = true ∨ c = 'i')
    (q : Char) (rest : List Char) : neighboursFit q (s ++ rest) = neighboursFit 'i' rest := by
  induction s generalizing q with
  | nil => exact absurd rfl ne
  | cons c s ih =>
    have number := numbers c List.mem_cons_self
    have fits : mayFollow q c = true := by
      refine mayFollow_of_starts ?_ q
      rcases number with digit | rfl
      · simp [startsOperand, digit]
      · rfl
    rw [List.cons_append, neighboursFit, fits, Bool.true_and]
    by_cases last : s = []
    · rw [last, List.nil_append, neighboursFit_after number]
    · exact ih last (fun c mem => numbers c (List.mem_cons_of_mem _ mem)) c

/-- Whether neighbours fit does not depend on the digits. -/
theorem neighboursFit_spell_congr (same : SameButDigits ts ts') (lexed : Lexed p ts n)
    (lexed' : Lexed p' ts' n') (q : Char) (after : List Char) :
    neighboursFit q (spell ts ++ after) = neighboursFit q (spell ts' ++ after) := by
  induction same generalizing p p' q with
  | nil => rfl
  | @cons t t' ts ts' first _ ih =>
    obtain ⟨fits, lexed⟩ := lexed
    obtain ⟨fits', lexed'⟩ := lexed'
    rw [Token.spell_cons, Token.spell_cons, List.append_assoc, List.append_assoc]
    cases first with
    | numeral ds ds' unit =>
      rw [neighboursFit_numeral fits.text_ne_nil (fun c => Token.of_mem_numeral fits.digits),
        neighboursFit_numeral fits'.text_ne_nil (fun c => Token.of_mem_numeral fits'.digits)]
      exact ih lexed lexed' 'i'
    | operator o => exact congrArg (mayFollow q o.symbol && ·) (ih lexed lexed' o.symbol)
    | opening => exact congrArg (mayFollow q '(' && ·) (ih lexed lexed' '(')
    | closing => exact congrArg (mayFollow q ')' && ·) (ih lexed lexed' ')')

/-- Nor does the number of times that a character other than a digit occurs. -/
theorem count_spell_congr (same : SameButDigits ts ts') (lexed : Lexed p ts n) (lexed' : Lexed p' ts' n')
    {c : Char} (other : isDigit c = false) : (spell ts).count c = (spell ts').count c := by
  induction same generalizing p p' with
  | nil => rfl
  | @cons t t' ts ts' first _ ih =>
    obtain ⟨fits, lexed⟩ := lexed
    obtain ⟨fits', lexed'⟩ := lexed'
    rw [Token.spell_cons, Token.spell_cons, List.count_append, List.count_append, ih lexed lexed']
    cases first with
    | numeral ds ds' unit =>
      rw [Token.text, Token.text, List.count_append, List.count_append,
        count_eq_zero_of_digits fits.digits other, count_eq_zero_of_digits fits'.digits other]
    | operator | opening | closing => rfl

/-- **The check of a text does not look at digits.** It counts parentheses and compares neighbours, and between
tokens of the same sorts it finds the same, whichever digits the numerals consist of. -/
theorem flaw?_spell_congr (same : SameButDigits ts ts') (lexed : Lexed p ts n) (lexed' : Lexed p' ts' n') :
    flaw? (spell ts) = flaw? (spell ts') := by
  have empty : (spell ts).isEmpty = (spell ts').isEmpty := by
    cases same with
    | nil => rfl
    | cons first rest =>
      rw [Token.spell_cons, Token.spell_cons,
        List.isEmpty_eq_false_iff.mpr (List.append_ne_nil_of_left_ne_nil lexed.1.text_ne_nil _),
        List.isEmpty_eq_false_iff.mpr (List.append_ne_nil_of_left_ne_nil lexed'.1.text_ne_nil _)]
  have opening := count_spell_congr same lexed lexed' (c := '(') rfl
  have closing := count_spell_congr same lexed lexed' (c := ')') rfl
  have fit : operatorsFit (spell ts) = operatorsFit (spell ts') := by
    rw [operatorsFit_eq, operatorsFit_eq, neighboursFit_spell_congr same lexed lexed']
  rw [flaw?, flaw?, empty, opening, closing, fit]

end Expression

/-! ## Two runs -/

/-- Two computations end alike: with related results, or with the same fault in two expressions. If an
operation fails in one of them, nothing is said about the other one. -/
inductive EndAlike {α β : Type} (R : α → β → Prop) : Except Error α → Except Error β → Prop
  | result {a : α} {b : β} (related : R a b) : EndAlike R (.ok a) (.ok b)
  | fault (shown shown' : Option String) (f : SyntaxFault) :
      EndAlike R (.error (.expression shown f)) (.error (.expression shown' f))
  | left {e : Error} (failed : e.OfOperation) (y : Except Error β) : EndAlike R (.error e) y
  | right {e : Error} (failed : e.OfOperation) (x : Except Error α) : EndAlike R x (.error e)

namespace EndAlike

variable {α β γ δ : Type} {R : α → β → Prop} {S : γ → δ → Prop}

/-- Ending alike goes through composition. If the first steps have related results, the second steps decide; if
an operation fails in one of the first steps, nothing has to be shown about the rest. -/
theorem bind {x : Except Error α} {y : Except Error β} {f : α → Except Error γ}
    {g : β → Except Error δ} (first : EndAlike R x y)
    (next : ∀ a b, x = .ok a → y = .ok b → R a b → EndAlike S (f a) (g b)) :
    EndAlike S (x >>= f) (y >>= g) := by
  cases first with
  | result related => exact next _ _ rfl rfl related
  | fault shown shown' f => exact .fault shown shown' f
  | left failed => exact .left failed _
  | right failed => exact .right failed _

/-- Any two runs of an operation end alike, for it either has a result or fails by what counts as a failure of
an operation. This is where the values of the two runs may make a difference. -/
theorem apply (o : Operation) (a b a' b' : Quantity) :
    EndAlike (fun _ _ => True) (o.apply a b) (o.apply a' b') := by
  cases first : o.apply a b with
  | error e => exact .left (Operation.ofOperation_of_apply first) _
  | ok v =>
    cases second : o.apply a' b' with
    | error e => exact .right (Operation.ofOperation_of_apply second) _
    | ok v' => exact .result trivial

end EndAlike

namespace Parser

/-- A parser takes a token at least. The bound is carried by what it makes, so that it can be read off here and
used for the induction. -/
theorem length_lt_of_made {bound : ℕ} {x : Except Error (Parsed bound)} {v : Quantity} {closed : Bool}
    {rest : List Token} (ok : made x = .ok (v, closed, rest)) : rest.length < bound := by
  cases x with
  | error e => cases ok
  | ok p =>
    cases ok
    exact p.fewer

/-- The right operand of what comes next begins where the loop stands or after it. -/
theorem length_le_of_next {closed : Bool} {ts operand : List Token} {o : Operation}
    (found : next closed ts = some (o, operand)) : operand.length ≤ ts.length := by
  obtain ⟨⟨o', operand', shorter⟩, -, same⟩ := Option.map_eq_some_iff.mp found
  cases same
  exact shorter

/-- What comes next is the same operation, with resembling operands. -/
theorem next_resembles {ts ts' : List Token} (same : SameButDigits ts ts') (closed : Bool) :
    Option.Rel (fun p q => p.1 = q.1 ∧ SameButDigits p.2 q.2) (next closed ts) (next closed ts') := by
  cases same with
  | nil => exact .none
  | cons first rest =>
    cases first with
    | numeral ds ds' unit =>
      cases closed with
      | true => exact .some ⟨rfl, .cons (.numeral ds ds' unit) rest⟩
      | false => exact .none
    | operator o => exact .some ⟨rfl, rest⟩
    | opening => exact .some ⟨rfl, .cons .opening rest⟩
    | closing => exact .none

/-- The parts that were parsed end in the same way, and resembling tokens are left over. -/
def SameRest (p q : Quantity × Bool × List Token) : Prop :=
  p.2.1 = q.2.1 ∧ SameButDigits p.2.2 q.2.2

section Runs

variable (whole whole' : List Char) {ts ts' : List Token}

/-- Two runs over fewer than `n` resembling tokens end alike. -/
def AlikeBelow (n : ℕ) : Prop :=
  ∀ (level : ℕ) (ts ts' : List Token), SameButDigits ts ts' → ts.length < n →
    EndAlike SameRest (made (expression whole level ts)) (made (expression whole' level ts'))

/-- Both runs find the closing parenthesis, or they both find none and end with the same fault. -/
theorem alike_closeWith {p q : Quantity × Bool × List Token} (same : SameRest p q) :
    EndAlike SameRest (closeWith whole p) (closeWith whole' q) := by
  obtain ⟨v, closed, rest⟩ := p
  obtain ⟨v', closed', rest'⟩ := q
  obtain ⟨-, same⟩ := same
  cases same with
  | nil => exact .fault _ _ .unclosed
  | cons first rest =>
    cases first with
    | closing => exact .result ⟨rfl, rest⟩
    | numeral | operator | opening => exact .fault _ _ .unclosed

/-- An operand is a numeral in both runs, with a value of its own in each, or an expression in parentheses,
which is shorter; otherwise there is a fault in both. -/
theorem alike_atom (below : AlikeBelow whole whole' ts.length) (same : SameButDigits ts ts') :
    EndAlike SameRest (made (atom whole ts)) (made (atom whole' ts')) := by
  cases same with
  | nil =>
    rw [atom, atom]
    · exact .fault _ _ .noOperand
    all_goals simp
  | cons first rest =>
    cases first with
    | numeral ds ds' unit =>
      rw [made_atom_numeral, made_atom_numeral]
      exact .result ⟨rfl, rest⟩
    | opening =>
      rw [made_atom_opening, made_atom_opening]
      exact (below 1 _ _ rest (Nat.lt_succ_self _)).bind fun p q _ _ same => alike_closeWith _ _ same
    | operator | closing =>
      rw [atom, atom]
      · exact .fault _ _ .noOperand
      all_goals simp

/-- A minus stands in front of both operands or of neither. The operand after it is shorter, and negating its
value cannot fail. -/
theorem alike_signed (below : AlikeBelow whole whole' ts.length) (same : SameButDigits ts ts') :
    EndAlike SameRest (made (signed whole ts)) (made (signed whole' ts')) := by
  by_cases minus : ts.head? = some (.operator .subtract)
  · obtain ⟨operand, rfl⟩ := List.head?_eq_some_iff.mp minus
    obtain ⟨operand', rfl⟩ := List.head?_eq_some_iff.mp ((same.head?_eq_operator_iff _).mp minus)
    rw [made_signed_minus, made_signed_minus]
    have rest : SameButDigits operand operand' := (List.forall₂_cons.mp same).2
    exact (below 3 _ _ rest (Nat.lt_succ_self _)).bind fun p q _ _ same => .result same
  · rw [made_signed_of_ne whole minus,
      made_signed_of_ne whole' (mt (same.head?_eq_operator_iff _).mpr minus)]
    exact alike_atom whole whole' below same

/-- The loop over operations. Both runs carry out the same operation next, or stop. -/
theorem alike_continuation {n : ℕ} (below : AlikeBelow whole whole' n) (level : ℕ) (v v' : Quantity)
    (closed : Bool) (same : SameButDigits ts ts') (fewer : ts.length < n) :
    EndAlike SameRest (made (continuation whole level v closed ts))
      (made (continuation whole' level v' closed ts')) := by
  obtain ⟨m, size⟩ : ∃ m, ts.length = m := ⟨_, rfl⟩
  induction m using Nat.strong_induction_on generalizing ts ts' v v' closed with
  | _ m ih =>
    subst size
    rcases Rel.eq_none_or_some (next_resembles same closed) with
      ⟨last, last'⟩ | ⟨⟨o, operand⟩, ⟨o', operand'⟩, found, found', rfl, operands⟩
    · rw [made_continuation_of_none whole last, made_continuation_of_none whole' last']
      exact .result ⟨rfl, same⟩
    · rw [made_continuation_of_some whole found, made_continuation_of_some whole' found']
      by_cases low : o.precedence < level
      · rw [if_pos low, if_pos low]
        exact .result ⟨rfl, same⟩
      · rw [if_neg low, if_neg low]
        have shorter : operand.length ≤ ts.length := length_le_of_next found
        refine (below _ _ _ operands (shorter.trans_lt fewer)).bind ?_
        rintro ⟨right, closed, rest⟩ ⟨right', closed', rest'⟩ parsed - ⟨rfl, rests⟩
        have less : rest.length < ts.length := (length_lt_of_made parsed).trans_le shorter
        exact (EndAlike.apply o v right v' right').bind fun w w' _ _ _ =>
          ih _ less w w' closed rests (less.trans fewer) rfl

/-- An expression is an operand and then the loop. The loop is gone through in step with the tokens that are
left over in both runs, by what was shown for operands and for shorter rows of tokens. -/
theorem alike_expression (below : AlikeBelow whole whole' ts.length) (same : SameButDigits ts ts')
    (level : ℕ) :
    EndAlike SameRest (made (expression whole level ts)) (made (expression whole' level ts')) := by
  rw [made_expression, made_expression]
  refine (alike_signed whole whole' below same).bind ?_
  rintro ⟨v, closed, rest⟩ ⟨v', closed', rest'⟩ parsed - ⟨rfl, rests⟩
  exact alike_continuation whole whole' below level v v' closed rests (length_lt_of_made parsed)

/-- **Two runs of the parser** over resembling tokens end alike. The induction is on a bound for the number of
tokens, since an expression in parentheses is parsed inside of its operand. -/
theorem alikeBelow (n : ℕ) : AlikeBelow whole whole' n := by
  induction n with
  | zero =>
    intro level ts ts' same fewer
    exact absurd fewer (Nat.not_lt_zero _)
  | succ n ih =>
    intro level ts ts' same fewer
    refine alike_expression whole whole' (fun level' us us' same' fewer' => ?_) same level
    exact ih level' us us' same' (fewer'.trans_le (Nat.le_of_lt_succ fewer))

end Runs

end Parser

namespace Expression

/-- **Two runs over the whole text end alike**: with values, with one fault, or with an operation without a
result in one of the two. Tokens that are left over at the end are a fault in both. -/
theorem alike_evaluateTokens (whole whole' : List Char) {ts ts' : List Token}
    (same : SameButDigits ts ts') :
    EndAlike (fun _ _ => True) (evaluateTokens whole ts) (evaluateTokens whole' ts') := by
  rw [evaluateTokens_eq_made, evaluateTokens_eq_made]
  refine (Parser.alikeBelow whole whole' _ 1 _ _ same (Nat.lt_succ_self _)).bind ?_
  rintro ⟨v, closed, rest⟩ ⟨v', closed', rest'⟩ - - ⟨-, rests⟩
  cases rests with
  | nil => exact .result trivial
  | cons => exact .fault _ _ .trailing

/-! ## Texts -/

/-- The computation ended with a syntax error for the given reason. -/
def IsSyntaxError {α : Type} (f : SyntaxFault) (x : Except Error α) : Prop :=
  ∃ shown, x = .error (.expression shown f)

/-- The computation ended with an operation that has no result. -/
def FailsByOperation {α : Type} (x : Except Error α) : Prop :=
  ∃ e, x = .error e ∧ e.OfOperation

end Expression

namespace EndAlike

open Expression (IsSyntaxError FailsByOperation)

variable {α β : Type} {R : α → β → Prop} {x : Except Error α} {y : Except Error β} {f : SyntaxFault}

/-- The other one of two computations that end alike: only an operation can hide a syntax error. -/
theorem isSyntaxError_or (alike : EndAlike R x y) (syntaxError : IsSyntaxError f x) :
    IsSyntaxError f y ∨ FailsByOperation y := by
  obtain ⟨shown, same⟩ := syntaxError
  cases alike with
  | result related => cases same
  | fault shown shown' f =>
    cases same
    exact .inl ⟨shown', rfl⟩
  | left failed y =>
    cases same
    rcases failed with no | ⟨a, no⟩ | ⟨z, no⟩ <;> cases no
  | right failed x => exact .inr ⟨_, rfl, failed⟩

theorem symm (alike : EndAlike R x y) : EndAlike (fun b a => R a b) y x := by
  cases alike with
  | result related => exact .result related
  | fault shown shown' f => exact .fault shown' shown f
  | left failed y => exact .right failed y
  | right failed x => exact .left failed x

/-- If no operation fails in either of them, two computations that end alike have the same syntax errors. -/
theorem isSyntaxError_iff (alike : EndAlike R x y) (works : ¬ FailsByOperation x)
    (works' : ¬ FailsByOperation y) : IsSyntaxError f x ↔ IsSyntaxError f y :=
  ⟨fun left => (alike.isSyntaxError_or left).resolve_right works',
    fun right => (alike.symm.isSyntaxError_or right).resolve_right works⟩

end EndAlike

namespace Expression

variable {text text' : String} {ts ts' : List Token}

/-- The check of a text can be made on the tokens that it is cut into, since their spelling is the completed
text, and completing changes nothing for the check. -/
theorem flaw?_normalForm (tokens : Token.scan (normalForm text) = .ok ts) :
    flaw? (normalized text.toList) = flaw? (spell ts) := by
  obtain ⟨spelled, -⟩ := scan_eq_ok_iff.mp tokens
  rw [spelled, ← flaw?_completed]
  rfl

/-- The outcome of a text by its tokens: the fault that the check finds in their spelling, or what the parser
makes of them. This is the form in which two texts are compared. -/
theorem outcome_evaluate_of_tokens (tokens : Token.scan (normalForm text) = .ok ts) :
    (ExactAlgebra.evaluate text).outcome =
      (flaw? (spell ts)).elim (evaluateTokens (normalForm text) ts)
        fun f => .error (.expression (some text) f) := by
  rw [ExactAlgebra.outcome_evaluate, build_eq, flaw?_normalForm tokens]
  cases flaw? (spell ts) with
  | some f => rfl
  | none =>
    show value ⟨normalForm text, _⟩ = evaluateTokens (normalForm text) ts
    rw [value, tokens]

/-- Two texts whose tokens differ in digits only are evaluated alike. -/
theorem alike_evaluate (tokens : Token.scan (normalForm text) = .ok ts)
    (tokens' : Token.scan (normalForm text') = .ok ts') (same : SameButDigits ts ts') :
    EndAlike (fun _ _ => True) (ExactAlgebra.evaluate text).outcome
      (ExactAlgebra.evaluate text').outcome := by
  obtain ⟨-, lexed⟩ := scan_eq_ok_iff.mp tokens
  obtain ⟨-, lexed'⟩ := scan_eq_ok_iff.mp tokens'
  rw [outcome_evaluate_of_tokens tokens, outcome_evaluate_of_tokens tokens',
    flaw?_spell_congr same lexed lexed']
  cases flaw? (spell ts') with
  | some f => exact .fault _ _ f
  | none => exact alike_evaluateTokens _ _ same

/-- **Only an operation without a result hides a syntax error.** Of two texts whose tokens differ in nothing
but digits, the check refuses both for the same reason or none. If evaluating one of them is a syntax error,
then so is evaluating the other one, for the same reason, or one of its operations has no result. -/
theorem syntax_errors_of_resembling (tokens : Token.scan (normalForm text) = .ok ts)
    (tokens' : Token.scan (normalForm text') = .ok ts') (same : SameButDigits ts ts') (f : SyntaxFault) :
    (IsSyntaxError f (build text) ↔ IsSyntaxError f (build text')) ∧
      (IsSyntaxError f (ExactAlgebra.evaluate text).outcome →
        IsSyntaxError f (ExactAlgebra.evaluate text').outcome ∨
          FailsByOperation (ExactAlgebra.evaluate text').outcome) ∧
      (¬ FailsByOperation (ExactAlgebra.evaluate text).outcome →
        ¬ FailsByOperation (ExactAlgebra.evaluate text').outcome →
        (IsSyntaxError f (ExactAlgebra.evaluate text).outcome ↔
          IsSyntaxError f (ExactAlgebra.evaluate text').outcome)) := by
  have alike := alike_evaluate tokens tokens' same
  refine ⟨?_, alike.isSyntaxError_or, alike.isSyntaxError_iff⟩
  obtain ⟨-, lexed⟩ := scan_eq_ok_iff.mp tokens
  obtain ⟨-, lexed'⟩ := scan_eq_ok_iff.mp tokens'
  rw [build_eq, build_eq, flaw?_normalForm tokens, flaw?_normalForm tokens',
    flaw?_spell_congr same lexed lexed']
  cases flaw? (spell ts') with
  | none => exact iff_of_false nofun nofun
  | some f' => simp [IsSyntaxError]

/-! ## An operation before a syntax error -/

/-- An operation with an imaginary number, and a numeral after it. -/
def imaginaryThenNumeral (a : Char) (o : Operation) (b c : Char) : List Token :=
  [.numeral [a] false, .operator o, .numeral [b] true, .numeral [c] false]

theorem imaginaryThenNumeral_sameButDigits (a b c a' b' c' : Char) (o : Operation) :
    SameButDigits (imaginaryThenNumeral a o b c) (imaginaryThenNumeral a' o b' c') :=
  .cons (.numeral _ _ _) (.cons (.operator o) (.cons (.numeral _ _ _) (.cons (.numeral _ _ _) .nil)))

/-- The operation is carried out before it turns out that the numeral has no place there. -/
theorem evaluateTokens_imaginaryThenNumeral (whole : List Char) (a : Char) (o : Operation) (b c : Char) :
    evaluateTokens whole (imaginaryThenNumeral a o b c) =
      o.apply (Token.numeralValue [a] false) (Token.numeralValue [b] true) >>= fun _ =>
        .error (Parser.fault whole .trailing) := by
  have operand : Parser.made (Parser.expression whole (Parser.rightLevel o)
      [.numeral [b] true, .numeral [c] false]) =
      .ok (Token.numeralValue [b] true, false, [.numeral [c] false]) := by
    rw [Parser.made_expression, Parser.made_signed_of_ne whole (by simp), Parser.made_atom_numeral]
    exact Parser.made_continuation_of_none whole rfl
  have loop (v : Quantity) : Parser.made (Parser.continuation whole 1 v false
      [.operator o, .numeral [b] true, .numeral [c] false]) =
      o.apply v (Token.numeralValue [b] true) >>= fun w => .ok (w, false, [.numeral [c] false]) := by
    rw [Parser.made_continuation_of_some whole (o := o) rfl, if_neg (by cases o <;> decide), operand]
    show o.apply v _ >>= _ = _
    refine congrArg _ (funext fun w => ?_)
    exact Parser.made_continuation_of_none whole rfl
  rw [evaluateTokens_eq_made, imaginaryThenNumeral, Parser.made_expression,
    Parser.made_signed_of_ne whole (by simp), Parser.made_atom_numeral]
  show Parser.made (Parser.continuation whole 1 _ false [.operator o, _, _]) >>= _ = _
  rw [loop]
  cases o.apply (Token.numeralValue [a] false) (Token.numeralValue [b] true) with
  | error e => rfl
  | ok v => rfl

theorem scan_power_zero : Token.scan (normalForm "2^0i3") = .ok (imaginaryThenNumeral '2' .pow '0' '3') := by
  show Token.scan ['2', '^', '0', 'i', '3'] = _
  cbv

theorem scan_power_one : Token.scan (normalForm "2^1i3") = .ok (imaginaryThenNumeral '2' .pow '1' '3') := by
  show Token.scan ['2', '^', '1', 'i', '3'] = _
  cbv

/-- The exponent is zero, and the power is one. -/
theorem evaluate_power_zero : IsSyntaxError .trailing (ExactAlgebra.evaluate "2^0i3").outcome := by
  rw [outcome_evaluate_of_tokens scan_power_zero]
  show IsSyntaxError .trailing (evaluateTokens (normalForm "2^0i3") _)
  rw [evaluateTokens_imaginaryThenNumeral]
  obtain ⟨v, power⟩ : ∃ v, Operation.pow.apply (Token.numeralValue ['2'] false)
      (Token.numeralValue ['0'] true) = .ok v := ⟨_, by cbv⟩
  rw [power]
  exact ⟨_, rfl⟩

/-- The digits decide which error is found first: with an exponent that is not real it is the power. -/
theorem power_hides_syntax_error :
    SameButDigits (imaginaryThenNumeral '2' .pow '0' '3') (imaginaryThenNumeral '2' .pow '1' '3') ∧
      Token.scan (normalForm "2^0i3") = .ok (imaginaryThenNumeral '2' .pow '0' '3') ∧
      Token.scan (normalForm "2^1i3") = .ok (imaginaryThenNumeral '2' .pow '1' '3') ∧
      IsSyntaxError .trailing (ExactAlgebra.evaluate "2^0i3").outcome ∧
      FailsByOperation (ExactAlgebra.evaluate "2^1i3").outcome ∧
      ¬ ∃ f, IsSyntaxError f (ExactAlgebra.evaluate "2^1i3").outcome := by
  have failed : (ExactAlgebra.evaluate "2^1i3").outcome = .error (.arithmetic (.nonReal ⟨0, 1⟩)) := by
    rw [outcome_evaluate_of_tokens scan_power_one]
    show evaluateTokens (normalForm "2^1i3") _ = _
    rw [evaluateTokens_imaginaryThenNumeral]
    cbv
  refine ⟨imaginaryThenNumeral_sameButDigits _ _ _ _ _ _ _, scan_power_zero, scan_power_one,
    evaluate_power_zero, ⟨_, failed, .inr (.inr ⟨_, rfl⟩)⟩, ?_⟩
  rintro ⟨f, shown, syntaxError⟩
  rw [failed] at syntaxError
  cases syntaxError

/-- A syntax error after a power stays one with another exponent, unless there is no such power. -/
theorem syntax_error_after_power :
    IsSyntaxError .trailing (ExactAlgebra.evaluate "2^0i3").outcome ∧
      (IsSyntaxError .trailing (ExactAlgebra.evaluate "2^1i3").outcome ∨
        FailsByOperation (ExactAlgebra.evaluate "2^1i3").outcome) :=
  ⟨evaluate_power_zero, (syntax_errors_of_resembling scan_power_zero scan_power_one
    (imaginaryThenNumeral_sameButDigits _ _ _ _ _ _ _) .trailing).2.1 evaluate_power_zero⟩

end Expression

end ExactAlgebra
