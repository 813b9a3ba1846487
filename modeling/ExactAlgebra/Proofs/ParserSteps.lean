import ExactAlgebra.Proofs.Phrase

/-!
# The steps of the parser

The parsers of expressions carry a bound on the tokens that they leave. What they make of the tokens does
not depend on it, and each of them is described here by what it made, without the bound. What a loop over
operations does next depends on the tokens to come, and on whether those before end with a closing
parenthesis.

## Main definitions

* `Parser.made`: what a parser made of the tokens.
* `Parser.next`: the operation that comes next.
* `Parser.Stops`: no operation of some strength comes next.
* `Parser.endsClosed`: the tokens end with a closing parenthesis.

## Main statements

* `Parser.made_expression`, `Parser.made_continuation_of_some` and their like: the steps.
* `Parser.next_eq_some_iff`: what comes next is an operator, or a factor without one.
-/

namespace ExactAlgebra

namespace Parser

/-! ## The parsers without bounds -/

/-- What a parser made of the front of a token list: the value, whether the part is closed, and the rest. -/
def made {bound : ℕ} (result : Except Error (Parsed bound)) :
    Except Error (Quantity × Bool × List Token) :=
  result.map fun p => (p.value, p.closed, p.rest)

/-- The operation that goes on after an operand, and the tokens of its right operand. -/
def next (closed : Bool) (ts : List Token) : Option (Operation × List Token) :=
  (nextOperation closed ts).map fun (o, operand) => (o, operand.1)

variable (whole : List Char)

/-- A numeral is an operand by itself. What has been made of it is its value, and the operand does not end with
a closing parenthesis. -/
theorem made_atom_numeral (ds : List Char) (unit : Bool) (rest : List Token) :
    made (atom whole (.numeral ds unit :: rest)) = .ok (Token.numeralValue ds unit, false, rest) := by
  rw [atom]
  rfl

/-- The end of a parenthesis. -/
def closeWith : Quantity × Bool × List Token → Except Error (Quantity × Bool × List Token)
  | (v, _, .closing :: rest) => .ok (v, true, rest)
  | _ => .error (fault whole .unclosed)

/-- After an opening parenthesis the expression inside is read at the lowest strength, and what it leaves has
to begin with a closing parenthesis. -/
theorem made_atom_opening (inside : List Token) :
    made (atom whole (.opening :: inside)) = made (expression whole 1 inside) >>= closeWith whole := by
  rw [atom]
  cases expression whole 1 inside with
  | error e => rfl
  | ok p =>
    obtain ⟨v, closed, rest, fewer⟩ := p
    cases rest with
    | nil => rfl
    | cons t rest => cases t <;> rfl

/-- A leading minus takes an operand at the strength of powers: the powers after it belong to it, and
products and sums do not. The result is negated when all of this has been computed. -/
theorem made_signed_minus (operand : List Token) :
    made (signed whole (.operator .subtract :: operand)) =
      made (expression whole 3 operand) >>= fun (v, closed, rest) => .ok (-v, closed, rest) := by
  rw [signed]
  show made (expression whole 3 operand >>= _) = _
  cases expression whole 3 operand with
  | error e => rfl
  | ok p => rfl

/-- Without a minus at the front nothing is done about signs, and the operand is read as it stands. -/
theorem made_signed_of_ne {ts : List Token} (ne : ts.head? ≠ some (.operator .subtract)) :
    made (signed whole ts) = made (atom whole ts) := by
  rw [signed]
  rintro operand rfl
  exact ne rfl

/-- An expression is an operand, perhaps with a sign, followed by as many operations as are strong enough.
Whether the operand ended with a parenthesis is handed on, for it decides about factors without an operator. -/
theorem made_expression (level : ℕ) (ts : List Token) :
    made (expression whole level ts) =
      made (signed whole ts) >>= fun (v, closed, rest) =>
        made (continuation whole level v closed rest) := by
  rw [expression]
  cases signed whole ts with
  | error e => rfl
  | ok p =>
    show made (continuation whole level p.value p.closed p.rest >>= _) =
      made (continuation whole level p.value p.closed p.rest)
    cases continuation whole level p.value p.closed p.rest with
    | error e => rfl
    | ok q => rfl

/-- If no operation comes next, the loop ends with what it has, and all the tokens are left for whoever called
it. -/
theorem made_continuation_of_none {level : ℕ} {left : Quantity} {closed : Bool} {ts : List Token}
    (last : next closed ts = none) :
    made (continuation whole level left closed ts) = .ok (left, closed, ts) := by
  rw [next, Option.map_eq_none_iff] at last
  rw [continuation]
  split
  case h_1 => rfl
  case h_2 found =>
    rw [last] at found
    cases found

/-- **One round of the loop.** An operation that is too weak for the level ends it, with its operator still
among the tokens. Otherwise the right operand is read at the level of the operation, the operation is applied at
once, and the loop goes on from the result. -/
theorem made_continuation_of_some {level : ℕ} {left : Quantity} {closed : Bool} {ts operand : List Token}
    {o : Operation} (found : next closed ts = some (o, operand)) :
    made (continuation whole level left closed ts) =
      if o.precedence < level then .ok (left, closed, ts)
      else made (expression whole (rightLevel o) operand) >>= fun (right, closed', rest) =>
        o.apply left right >>= fun v => made (continuation whole level v closed' rest) := by
  obtain ⟨⟨o', operand', shorter⟩, found', same⟩ := Option.map_eq_some_iff.mp found
  cases same
  rw [continuation]
  split
  case h_1 none =>
    rw [found'] at none
    cases none
  case h_2 o' operand' shorter' found =>
    rw [found'] at found
    cases found
    split
    · rfl
    · show made (expression whole (rightLevel o) operand' >>= _) = _
      cases expression whole (rightLevel o) operand' with
      | error e => rfl
      | ok right =>
        show made (o.apply left right.value >>= _) = o.apply left right.value >>= _
        cases o.apply left right.value with
        | error e => rfl
        | ok v =>
          show made (continuation whole level v right.closed right.rest >>= _) =
            made (continuation whole level v right.closed right.rest)
          cases continuation whole level v right.closed right.rest with
          | error e => rfl
          | ok q => rfl

/-! ## What comes next -/

/-- No operation that binds at least as strongly as `level` comes next. -/
def Stops (level : ℕ) (closed : Bool) (ts : List Token) : Prop :=
  ∀ o operand, next closed ts = some (o, operand) → o.precedence < level

/-- A loop that stops at some strength stops at every greater one, as it asks for more. -/
theorem Stops.mono {level level' : ℕ} {closed : Bool} {ts : List Token} (stops : Stops level closed ts)
    (le : level ≤ level') : Stops level' closed ts :=
  fun o operand found => (stops o operand found).trans_le le

theorem Stops.of_none {level : ℕ} {closed : Bool} {ts : List Token} (none : next closed ts = none) :
    Stops level closed ts := by
  intro o operand found
  rw [none] at found
  cases found

/-- An operation that comes next, but is weaker than the level, stops the loop, which then leaves it to a loop
further out. -/
theorem Stops.of_some {level : ℕ} {closed : Bool} {ts operand : List Token} {o : Operation}
    (found : next closed ts = some (o, operand)) (less : o.precedence < level) :
    Stops level closed ts := by
  intro o' operand' found'
  rw [found] at found'
  cases found'
  exact less

theorem Stops.operator {level : ℕ} {o : Operation} (less : o.precedence < level) (closed : Bool)
    (ts : List Token) : Stops level closed (.operator o :: ts) :=
  .of_some rfl less

theorem Stops.four (closed : Bool) (ts : List Token) : Stops 4 closed ts := by
  intro o operand found
  cases o <;> decide

/-- An operand stays as it is when nothing strong enough comes next. -/
theorem made_continuation_of_stops {level : ℕ} {closed : Bool} {ts : List Token}
    (stops : Stops level closed ts) (left : Quantity) :
    made (continuation whole level left closed ts) = .ok (left, closed, ts) := by
  cases found : next closed ts with
  | none => exact made_continuation_of_none whole found
  | some pair =>
    obtain ⟨o, operand⟩ := pair
    rw [made_continuation_of_some whole found, if_pos (stops o operand found)]

/-- Whether a row of tokens ends with a closing parenthesis. -/
def endsClosed (ts : List Token) : Bool := ts.getLast? == some .closing

/-- Only the last token says whether tokens end with a closing parenthesis, so those in front of it can be left
out. -/
theorem endsClosed_append {ts : List Token} (ne : ts ≠ []) (us : List Token) :
    endsClosed (us ++ ts) = endsClosed ts := by
  rw [endsClosed, List.getLast?_append_of_ne_nil us ne, endsClosed]

theorem endsClosed_cons {ts : List Token} (ne : ts ≠ []) (t : Token) :
    endsClosed (t :: ts) = endsClosed ts :=
  endsClosed_append ne [t]

theorem endsClosed_operator {ts' : List Token} (ne : ts' ≠ []) (ts : List Token) (o : Operation) :
    endsClosed (ts ++ .operator o :: ts') = endsClosed ts' := by
  rw [endsClosed_append (List.cons_ne_nil _ _), endsClosed_cons ne]

/-- What comes next is an operator, or a factor that may stand there without one. -/
theorem next_eq_some_iff {us ts operand : List Token} {o : Operation} :
    next (endsClosed us) ts = some (o, operand) ↔
      ts = .operator o :: operand ∨ o = .multiply ∧ operand = ts ∧ Token.Adjoin us ts := by
  have closed : endsClosed us = true ↔ us.getLast? = some .closing := beq_iff_eq
  rcases ts with _ | ⟨t, ts⟩
  · simp [next, nextOperation, Token.Adjoin]
  · cases t with
    | operator o' => simp [next, nextOperation, Token.Adjoin]
    | opening => simp [next, nextOperation, Token.Adjoin, eq_comm]
    | closing => simp [next, nextOperation, Token.Adjoin]
    | numeral ds unit =>
      by_cases ends : endsClosed us = true
      · simp [next, nextOperation, Token.Adjoin, ends, closed.mp ends, eq_comm]
      · simp [next, nextOperation, Token.Adjoin, ends, mt closed.mpr ends]

end Parser

end ExactAlgebra
