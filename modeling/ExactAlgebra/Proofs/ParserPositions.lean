import ExactAlgebra.Proofs.Lexemes
import ExactAlgebra.Proofs.ParserSteps

/-!
# The parser by positions

The parsers are handed the tokens that are left and hand back those that they leave, with a proof that these
are fewer. Here they work on one token list with a position in it that they move, and find out by the token
before the position whether an operand is closed. Nothing in these definitions keeps the position moving, or
inside of the list: a call is only allowed so many calls one inside the other, and has no outcome where that is
not enough.

Both forms end with the same value at the same place, or with the same error, as soon as enough calls are
allowed. How many that are follows the order in which the parsers call each other: an operand or a loop calls
what stands below it at the same position, and what stands above it only after a token was taken. So four calls
for each token that is left are enough, and a few for the end.

## Main definitions

* `Parser.parseAt`, `Parser.operationsAt`: the parsers on a position.
* `Parser.Call.depth`: how many calls one inside the other are enough.
* `Parser.EndsFrom`: a parser on a position ends as the one on the tokens there, and not before some position.

## Main statements

* `Parser.agrees`: the parsers on a position end as the ones on tokens.
* `Parser.progress`: they end, and have moved forward inside of the list.
-/

namespace ExactAlgebra

open Text (isBlank)

namespace Parser

/-! ## Positions -/

/-- The token before a position is a closing parenthesis. -/
def closedAt (ts : List Token) (pos : ℕ) : Bool :=
  decide (0 < pos) && ts[pos - 1]? == some .closing

/-- The operation that goes on after an operand, and the position of its right operand. -/
def operationAt (ts : List Token) (pos : ℕ) : Option (Operation × ℕ) :=
  match ts[pos]? with
  | some (.operator o) => some (o, pos + 1)
  | some .opening => some (.multiply, pos)
  | some (.numeral _ _) => if closedAt ts pos then some (.multiply, pos) else none
  | _ => none

/-- The parsers that are called at a position. -/
inductive Call where
  /-- A numeral, or an expression in parentheses. -/
  | atom
  /-- An atom, or a minus and the powers after it. -/
  | signed
  /-- An operand and all operations after it that bind at least as strongly as `level`. -/
  | expression (level : ℕ)
  deriving DecidableEq

section Machine

variable (whole : List Char) (ts : List Token)

mutual

/-- What a call at a position makes: a value, and the position after what it was made of. No more than `n`
calls stand one inside the other. -/
def parseAt (n : ℕ) (call : Call) (pos : ℕ) : ExceptT Error Option (Quantity × ℕ) :=
  match n, call with
  | 0, _ => none
  | n + 1, .atom =>
    match ts[pos]? with
    | some (.numeral ds unit) => return (Token.numeralValue ds unit, pos + 1)
    | some .opening => do
      let (inner, pos) ← parseAt n (.expression 1) (pos + 1)
      if ts[pos]? = some .closing then return (inner, pos + 1)
      else throw (fault whole .unclosed)
    | _ => throw (fault whole .noOperand)
  | n + 1, .signed =>
    if ts[pos]? = some (.operator .subtract) then do
      let (operand, pos) ← parseAt n (.expression Operation.pow.precedence) (pos + 1)
      return (-operand, pos)
    else parseAt n .atom pos
  | n + 1, .expression level => do
    let (left, pos) ← parseAt n .signed pos
    operationsAt n level left pos

/-- The operations after a left operand that ends before a position, carried out from left to right. -/
def operationsAt (n : ℕ) (level : ℕ) (left : Quantity) (pos : ℕ) : ExceptT Error Option (Quantity × ℕ) :=
  match n with
  | 0 => none
  | n + 1 =>
    match operationAt ts pos with
    | none => return (left, pos)
    | some (o, operand) =>
      if o.precedence < level then return (left, pos)
      else do
        let (right, pos) ← parseAt n (.expression (rightLevel o)) operand
        let value ← MonadExcept.ofExcept (o.apply left right)
        operationsAt n level value pos

end

end Machine

/-- What the parser of a call makes of the tokens that are left. -/
def Call.made (whole : List Char) (ts : List Token) : Call → Except Error (Quantity × Bool × List Token)
  | .atom => Parser.made (Parser.atom whole ts)
  | .signed => Parser.made (Parser.signed whole ts)
  | .expression level => Parser.made (Parser.expression whole level ts)

/-- How many calls one inside the other are enough where so many tokens are left. -/
def Call.depth (left : ℕ) : Call → ℕ
  | .atom => 4 * left + 1
  | .signed => 4 * left + 2
  | .expression _ => 4 * left + 3

variable {whole : List Char} {ts : List Token}

/-- A token at a position is the first one of those that are left there, and the position is inside of the list.
By this, parsers that look at a position and parsers that take a list apart see the same token. -/
theorem drop_of_getElem? {pos : ℕ} {t : Token} (here : ts[pos]? = some t) :
    pos < ts.length ∧ ts.drop pos = t :: ts.drop (pos + 1) := by
  obtain ⟨inside, rfl⟩ := List.getElem?_eq_some_iff.mp here
  exact ⟨inside, List.drop_eq_getElem_cons inside⟩

/-- After a token an operand is closed exactly if this token is a closing parenthesis. The flag that the parsers
on lists carry along can so be read off from the tokens, at any position. -/
theorem closedAt_succ {pos : ℕ} {t : Token} (here : ts[pos]? = some t) :
    closedAt ts (pos + 1) = (t == .closing) := by
  rw [closedAt, Nat.add_sub_cancel, here]
  rfl

/-- What comes next at a position is what comes next in the tokens that are left there. -/
theorem next_drop (pos : ℕ) :
    next (closedAt ts pos) (ts.drop pos) = (operationAt ts pos).map fun (o, operand) => (o, ts.drop operand) := by
  rw [operationAt]
  cases here : ts[pos]? with
  | none =>
    rw [List.drop_eq_nil_of_le (List.getElem?_eq_none_iff.mp here)]
    rfl
  | some t =>
    obtain ⟨-, left⟩ := drop_of_getElem? here
    rw [left]
    cases t with
    | operator | opening | closing => simp [next, nextOperation, left]
    | numeral ds unit => cases closedAt ts pos <;> simp [next, nextOperation, left]

/-- An operator is passed over, and a factor without an operator is not, so that the right operand begins at the
position of the loop or after it. Progress has to come from the operand, therefore. -/
theorem le_of_operationAt {pos operand : ℕ} {o : Operation} (found : operationAt ts pos = some (o, operand)) :
    pos ≤ operand := by
  rw [operationAt] at found
  split at found
  · cases found
    exact Nat.le_succ pos
  · cases found
    exact le_rfl
  · split_ifs at found
    cases found
    exact le_rfl
  · cases found

/-! ## Ending at the same place -/

variable (ts) in
/-- A parser on a position ends as one on the tokens that are left: with the same value and the tokens from its
last position on, which lies inside of the list and not before `lo`; or with the same error. -/
inductive EndsFrom (lo : ℕ) :
    ExceptT Error Option (Quantity × ℕ) → Except Error (Quantity × Bool × List Token) → Prop
  | result (v : Quantity) {pos : ℕ} (moved : lo ≤ pos) (inside : pos ≤ ts.length) :
      EndsFrom lo (pure (v, pos)) (.ok (v, closedAt ts pos, ts.drop pos))
  | error (e : Error) : EndsFrom lo (throw e) (.error e)

variable (ts) in
/-- An outcome with the position of the tokens that are left in place of these. -/
def located (y : Except Error (Quantity × Bool × List Token)) : Except Error (Quantity × ℕ) :=
  y.map fun (v, _, rest) => (v, ts.length - rest.length)

/-- The position is found again from the number of tokens that are left, as long as it is inside of the list. -/
theorem located_ok {v : Quantity} {closed : Bool} {pos : ℕ} (inside : pos ≤ ts.length) :
    located ts (.ok (v, closed, ts.drop pos)) = .ok (v, pos) := by
  show Except.ok (v, ts.length - (ts.drop pos).length) = _
  rw [List.length_drop, Nat.sub_sub_self inside]

namespace EndsFrom

variable {lo lo' : ℕ} {x : ExceptT Error Option (Quantity × ℕ)}
  {y : Except Error (Quantity × Bool × List Token)}

/-- **Ending alike goes through composition.** The second parser starts where the first one has ended, which is
at a position inside of the list and not before `lo`. An error of the first ends both. -/
theorem bind {f : Quantity × ℕ → ExceptT Error Option (Quantity × ℕ)}
    {g : Quantity × Bool × List Token → Except Error (Quantity × Bool × List Token)}
    (first : EndsFrom ts lo x y)
    (next : ∀ v pos, lo ≤ pos → pos ≤ ts.length →
      EndsFrom ts lo' (f (v, pos)) (g (v, closedAt ts pos, ts.drop pos))) :
    EndsFrom ts lo' (x >>= f) (y >>= g) := by
  cases first with
  | result v moved inside => exact next v _ moved inside
  | error e => exact .error e

/-- A lower bound on the last position may be lowered. A loop promises less than the operand before it has
achieved. -/
theorem mono (ends : EndsFrom ts lo x y) (le : lo' ≤ lo) : EndsFrom ts lo' x y := by
  cases ends with
  | result v moved inside => exact .result v (le.trans moved) inside
  | error e => exact .error e

/-- The parser on positions has the outcome of the one on tokens, with a position in place of the tokens that are
left. -/
theorem run_eq (ends : EndsFrom ts lo x y) : x.run = some (located ts y) := by
  cases ends with
  | result v _ inside =>
    rw [located_ok inside]
    rfl
  | error e => rfl

/-- The outcome of the parser on tokens is determined by the position, too: the flag and the tokens that are
left can be computed from it. -/
theorem eq_map (ends : EndsFrom ts lo x y) :
    y = (located ts y).map fun (v, last) => (v, closedAt ts last, ts.drop last) := by
  cases ends with
  | result v _ inside =>
    rw [located_ok inside]
    rfl
  | error e => rfl

/-- If there is a value, the position after it lies between the bounds that the relation carries. -/
theorem bounds (ends : EndsFrom ts lo x y) {v : Quantity} {last : ℕ} (ok : located ts y = .ok (v, last)) :
    lo ≤ last ∧ last ≤ ts.length := by
  cases ends with
  | result v' moved inside =>
    rw [located_ok inside] at ok
    cases ok
    exact ⟨moved, inside⟩
  | error e => cases ok

end EndsFrom

variable (whole ts) in
/-- With `n` calls one inside the other, the parsers on positions end as those on tokens wherever that is
enough. -/
structure Agrees (n : ℕ) : Prop where
  call (call : Call) (pos : ℕ) : call.depth (ts.length - pos) ≤ n →
    EndsFrom ts (pos + 1) (parseAt whole ts n call pos) (call.made whole (ts.drop pos))
  operations (level : ℕ) (left : Quantity) (pos : ℕ) : pos ≤ ts.length → 4 * (ts.length - pos) + 4 ≤ n →
    EndsFrom ts pos (operationsAt whole ts n level left pos)
      (made (continuation whole level left (closedAt ts pos) (ts.drop pos)))

/-! ## One call more -/

/-- The end of a parenthesis is looked for at the position after the expression inside, where a closing one is
passed over, and anything else, or nothing, is a fault. -/
theorem endsFrom_closeWith {lo pos : ℕ} (v : Quantity) (closed : Bool) (moved : lo ≤ pos + 1) :
    EndsFrom ts lo
      (if ts[pos]? = some .closing then pure (v, pos + 1) else throw (fault whole .unclosed))
      (closeWith whole (v, closed, ts.drop pos)) := by
  cases here : ts[pos]? with
  | none =>
    rw [List.drop_eq_nil_of_le (List.getElem?_eq_none_iff.mp here), if_neg nofun]
    exact .error _
  | some t =>
    obtain ⟨inside, left⟩ := drop_of_getElem? here
    rw [left]
    cases t with
    | closing =>
      have ends := EndsFrom.result v moved (Nat.succ_le_of_lt inside)
      rw [closedAt_succ here] at ends
      exact ends
    | numeral | operator | opening => exact .error _

section Steps

variable {n : ℕ} (agrees : Agrees whole ts n)
include agrees

/-- A numeral is taken as it is. Inside of parentheses an expression is read from the position behind the
opening one, where fewer tokens are left, so that the calls that are allowed are enough. -/
theorem endsFrom_atom {pos : ℕ} (enough : 4 * (ts.length - pos) ≤ n) :
    EndsFrom ts (pos + 1) (parseAt whole ts (n + 1) .atom pos) (made (atom whole (ts.drop pos))) := by
  rw [parseAt]
  cases here : ts[pos]? with
  | none =>
    rw [List.drop_eq_nil_of_le (List.getElem?_eq_none_iff.mp here), atom]
    · exact .error _
    all_goals simp
  | some t =>
    obtain ⟨inside, left⟩ := drop_of_getElem? here
    cases t with
    | numeral ds unit =>
      have ends := EndsFrom.result (Token.numeralValue ds unit) le_rfl (Nat.succ_le_of_lt inside)
      rw [closedAt_succ here] at ends
      rw [left, made_atom_numeral]
      exact ends
    | opening =>
      rw [left, made_atom_opening]
      have nested := agrees.call (.expression 1) (pos + 1) (by rw [Call.depth]; omega)
      exact nested.bind fun v last moved _ => endsFrom_closeWith v _ (by omega)
    | operator | closing =>
      rw [left, atom]
      · exact .error _
      all_goals simp

/-- After a minus there are fewer tokens left for the operand. Without one the atom is called at the same
position, which is the reason why it needs one call less. -/
theorem endsFrom_signed {pos : ℕ} (enough : 4 * (ts.length - pos) + 1 ≤ n) :
    EndsFrom ts (pos + 1) (parseAt whole ts (n + 1) .signed pos) (made (signed whole (ts.drop pos))) := by
  rw [parseAt]
  by_cases minus : ts[pos]? = some (.operator .subtract)
  · obtain ⟨inside, left⟩ := drop_of_getElem? minus
    rw [if_pos minus, left, made_signed_minus]
    have operand := agrees.call (.expression 3) (pos + 1) (by rw [Call.depth]; omega)
    exact operand.bind fun v last moved last_le => .result (-v) (by omega) last_le
  · rw [if_neg minus, made_signed_of_ne whole (by rwa [List.head?_drop])]
    exact agrees.call .atom pos enough

/-- An expression calls for its operand at the same position, and then for the loop, behind the operand. -/
theorem endsFrom_expression (level : ℕ) {pos : ℕ} (enough : 4 * (ts.length - pos) + 2 ≤ n) :
    EndsFrom ts (pos + 1) (parseAt whole ts (n + 1) (.expression level) pos)
      (made (expression whole level (ts.drop pos))) := by
  rw [parseAt, made_expression]
  refine (agrees.call .signed pos enough).bind fun v last moved last_le => ?_
  -- The operand took a token, so the loop may call as many as before.
  exact (agrees.operations level v last last_le (by omega)).mono moved

/-- The loop may call an expression at its own position, if a factor stands there without an operator. It comes
back to itself only after this has taken a token. -/
theorem endsFrom_operations (level : ℕ) (left : Quantity) {pos : ℕ} (inside : pos ≤ ts.length)
    (enough : 4 * (ts.length - pos) + 3 ≤ n) :
    EndsFrom ts pos (operationsAt whole ts (n + 1) level left pos)
      (made (continuation whole level left (closedAt ts pos) (ts.drop pos))) := by
  rw [operationsAt]
  have same := @next_drop ts pos
  cases found : operationAt ts pos with
  | none =>
    rw [found] at same
    rw [made_continuation_of_none whole same]
    exact .result left le_rfl inside
  | some step =>
    obtain ⟨o, operand⟩ := step
    rw [found] at same
    rw [made_continuation_of_some whole same]
    by_cases low : o.precedence < level
    · rw [if_pos low]
      simp only [low]
      exact .result left le_rfl inside
    · rw [if_neg low]
      simp only [low]
      have start := le_of_operationAt found
      have right := agrees.call (.expression (rightLevel o)) operand (by rw [Call.depth]; omega)
      refine right.bind fun v last moved last_le => ?_
      show EndsFrom ts pos (MonadExcept.ofExcept (o.apply left v) >>= _) (o.apply left v >>= _)
      cases o.apply left v with
      | error e => exact .error e
      | ok value => exact (agrees.operations level value last last_le (by omega)).mono (by omega)

/-- With one call more, the parsers end as those on tokens if they did so before: each of the four passes on to
calls for which one less is enough. -/
theorem agrees_succ : Agrees whole ts (n + 1) where
  call call pos enough := by
    cases call with
    | atom => exact endsFrom_atom agrees (Nat.le_of_succ_le_succ enough)
    | signed => exact endsFrom_signed agrees (Nat.le_of_succ_le_succ enough)
    | expression level => exact endsFrom_expression agrees level (Nat.le_of_succ_le_succ enough)
  operations level left pos inside enough :=
    endsFrom_operations agrees level left inside (Nat.le_of_succ_le_succ enough)

end Steps

/-! ## All calls -/

/-- **The parsers on positions** end as those on tokens. -/
theorem agrees (n : ℕ) : Agrees whole ts n := by
  induction n with
  | zero =>
    refine ⟨fun call pos enough => ?_, fun level left pos _ enough => absurd enough (by omega)⟩
    cases call <;> cases enough
  | succ n ih => exact agrees_succ ih

/-- **Progress.** With enough calls allowed a parser at any position has an outcome, which is the one of the
parser on tokens; if it has a value, it has moved forward by a token or more, and not beyond the last one. The
lexemes of a text are its only cut: what they take is never nothing and makes up the whole text, and rows of
digits are taken whole, together with the unit directly after them. Where there are no blanks they hold the tokens
that the scanner finds. -/
theorem progress :
    (∀ (whole : List Char) (ts : List Token) (call : Call) (pos : ℕ),
      ∃ outcome : Except Error (Quantity × ℕ),
        (∀ n, call.depth (ts.length - pos) ≤ n → (parseAt whole ts n call pos).run = some outcome) ∧
        call.made whole (ts.drop pos) =
          outcome.map (fun (v, last) => (v, closedAt ts last, ts.drop last)) ∧
        ∀ v last, outcome = .ok (v, last) → pos < last ∧ last ≤ ts.length) ∧
    ∀ cs : List Char, (∀ ls, Token.lexemes cs = .ok ls ↔ Lexeme.Cut cs ls) ∧
      ((∀ c ∈ cs, isBlank c = false) → Token.scan cs = (Token.lexemes cs).map (List.map Lexeme.token)) := by
  refine ⟨fun whole ts call pos => ?_, fun cs => ⟨fun ls => Token.lexemes_eq_ok_iff, Token.scan_eq_lexemes⟩⟩
  have ends := fun n enough => (@agrees whole ts n).call call pos enough
  have last := ends _ le_rfl
  exact ⟨_, fun n enough => (ends n enough).run_eq, last.eq_map, fun v pos' ok => last.bounds ok⟩

/-- The lexemes of a multiple of the imaginary unit with a number in parentheses next to it. -/
def adjoined : List Lexeme :=
  [⟨[], .numeral ['1', '2'] true⟩, ⟨[], .opening⟩, ⟨[], .numeral ['3'] false⟩, ⟨[], .closing⟩]

/-- They are multiplied, and all tokens are taken. -/
theorem progress_adjoined :
    Lexeme.Cut ['1', '2', 'i', '(', '3', ')'] adjoined ∧
      Token.scan ['1', '2', 'i', '(', '3', ')'] = .ok (adjoined.map Lexeme.token) ∧
      made (expression [] 1 (adjoined.map Lexeme.token)) = .ok (.complex ⟨0, .ofInt 36⟩, true, []) := by
  have lexemes : Token.lexemes ['1', '2', 'i', '(', '3', ')'] = .ok adjoined := by decide +kernel
  obtain ⟨parses, cuts⟩ := progress
  obtain ⟨cut, tokens⟩ := cuts ['1', '2', 'i', '(', '3', ')']
  refine ⟨(cut _).mp lexemes, (tokens (by simp [isBlank])).trans (congrArg _ lexemes), ?_⟩
  obtain ⟨outcome, ends, same, -⟩ := parses [] (adjoined.map Lexeme.token) (.expression 1) 0
  have value : (parseAt [] (adjoined.map Lexeme.token) 19 (.expression 1) 0).run =
      some (.ok (.complex ⟨0, .ofInt 36⟩, 4)) := rfl
  rw [ends 19 (by decide)] at value
  cases value
  exact same

end Parser

end ExactAlgebra
