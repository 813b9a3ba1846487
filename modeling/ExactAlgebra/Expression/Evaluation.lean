import ExactAlgebra.Expression.Build
import ExactAlgebra.Expression.Token
import ExactAlgebra.Logged
import ExactAlgebra.Number.Checked

/-!
# Evaluating expressions

An expression is evaluated while it is parsed, from left to right: an operation is carried out as soon
as its operands are known, so an operation without a result is found before an error in what follows
it.

Addition and subtraction bind least, then multiplication and division, then powers; all group to the
left except powers, which group to the right. A minus before an operand takes the powers after it
along. Two operands with nothing between them are multiplied where parentheses tell them apart: before
an opening parenthesis, and before a numeral after a closing one.

Each parser returns the tokens it left over together with the fact that they are fewer than it was
given, which is what the recursion ends by.

## Main definitions

* `Operation.apply`: an operation on two quantities.
* `Parsed`: what a parser made of the front of a token list.
* `Parser.expression`, `Parser.continuation`, `Parser.signed`, `Parser.atom`: the parsers.
* `Expression.evaluate`, `evaluate`: the value of an expression and of a text.
-/

namespace ExactAlgebra

/-- The result of an operation. An exponent has to be an integer. -/
def Operation.apply : Operation → Quantity → Quantity → Except Error Quantity
  | .add, a, b => .ok (a + b)
  | .subtract, a, b => .ok (a - b)
  | .multiply, a, b => .ok (a * b)
  | .divide, a, b => a.divide b
  | .pow, a, b => b.wholeValue >>= a.pow

/-- What a parser made of the front of a token list: fewer than `bound` tokens are left. -/
structure Parsed (bound : Nat) where
  /-- The value of the part that was parsed. -/
  value : Quantity
  /-- The part ends with a closing parenthesis. -/
  closed : Bool
  /-- The tokens after it. -/
  rest : List Token
  /-- They are fewer than the bound. -/
  fewer : rest.length < bound

/-- The same part, seen from a greater bound. -/
def Parsed.widen {a b : Nat} (p : Parsed a) (h : a ≤ b) : Parsed b :=
  ⟨p.value, p.closed, p.rest, Nat.lt_of_lt_of_le p.fewer h⟩

namespace Parser

/-- The operation that goes on after an operand, and the tokens of its right operand: an operator, or a
multiplication that parentheses make plain. -/
def nextOperation (closed : Bool) :
    (ts : List Token) → Option (Operation × { rest : List Token // rest.length ≤ ts.length })
  | .operator o :: ts => some (o, ⟨ts, Nat.le_succ _⟩)
  | .opening :: ts => some (.multiply, ⟨.opening :: ts, Nat.le_refl _⟩)
  | .numeral ds unit :: ts =>
    if closed then some (.multiply, ⟨.numeral ds unit :: ts, Nat.le_refl _⟩) else none
  | _ => none

/-- The least precedence of operations that belong to the right operand. -/
def rightLevel : Operation → Nat
  | .pow => Operation.pow.precedence
  | o => o.precedence + 1

/-- A fault in the expression of the given text. -/
def fault (whole : List Char) (f : SyntaxFault) : Error :=
  .expression (some (String.ofList whole)) f

mutual

/-- A numeral, or an expression in parentheses. -/
def atom (whole : List Char) (ts : List Token) : Except Error (Parsed ts.length) :=
  match ts with
  | .numeral ds unit :: rest => .ok ⟨Token.numeralValue ds unit, false, rest, Nat.lt_succ_self _⟩
  | .opening :: inside => do
    let p ← expression whole 1 inside
    match after : p.rest with
    | .closing :: rest => .ok ⟨p.value, true, rest, by
        have := p.fewer
        simp [after] at this ⊢
        omega⟩
    | _ => .error (fault whole .unclosed)
  | _ => .error (fault whole .noOperand)
termination_by (ts.length, 0)

/-- An atom, or a minus and the powers after it. -/
def signed (whole : List Char) (ts : List Token) : Except Error (Parsed ts.length) :=
  match ts with
  | .operator .subtract :: operand => do
    let p ← expression whole Operation.pow.precedence operand
    .ok ⟨-p.value, p.closed, p.rest, Nat.lt_succ_of_lt p.fewer⟩
  | ts => atom whole ts
termination_by (ts.length, 1)

/-- An operand and all operations after it that bind at least as strongly as `level`. -/
def expression (whole : List Char) (level : Nat) (ts : List Token) :
    Except Error (Parsed ts.length) := do
  let p ← signed whole ts
  have fewer := p.fewer
  let q ← continuation whole level p.value p.closed p.rest
  .ok (q.widen fewer)
termination_by (ts.length, 2)

/-- The operations after a left operand that bind at least as strongly as `level`, carried out from
left to right. -/
def continuation (whole : List Char) (level : Nat) (left : Quantity) (closed : Bool)
    (ts : List Token) : Except Error (Parsed (ts.length + 1)) :=
  match nextOperation closed ts with
  | none => .ok ⟨left, closed, ts, Nat.lt_succ_self _⟩
  | some (o, ⟨operand, shorter⟩) =>
    if o.precedence < level then .ok ⟨left, closed, ts, Nat.lt_succ_self _⟩
    else do
      let right ← expression whole (rightLevel o) operand
      let value ← o.apply left right.value
      have fewer : right.rest.length < ts.length := Nat.lt_of_lt_of_le right.fewer shorter
      let q ← continuation whole level value right.closed right.rest
      .ok (q.widen (Nat.le_succ_of_le fewer))
termination_by (ts.length, 3)
decreasing_by
  · exact Prod.Lex.right' _ shorter (by decide)
  · exact Prod.Lex.left _ _ fewer

end

end Parser

namespace Expression

/-- The value of the tokens of an expression, all of them. -/
def evaluateTokens (whole : List Char) (ts : List Token) : Except Error Quantity := do
  let p ← Parser.expression whole 1 ts
  if p.rest.isEmpty then .ok p.value else .error (Parser.fault whole .trailing)

/-- The value of an expression, without a report. -/
def value (e : Expression) : Except Error Quantity :=
  match Token.scan e.text with
  | .ok ts => evaluateTokens e.text ts
  | .error c => .error (Parser.fault e.text (.unexpectedCharacter c))

/-- The value of an expression. -/
def evaluate (e : Expression) : Logged Quantity := do
  let v ← e.value
  Logged.report (.evaluated e.text v)
  return v

end Expression

/-- The value of the expression that a text is checked and completed to. -/
def evaluate (text : String) : Logged Quantity := do
  (← Expression.build text).evaluate

end ExactAlgebra
