import ExactAlgebra.Expression.Operation
import ExactAlgebra.Number.Quantity
import ExactAlgebra.Text.Digit

/-!
# Tokens of expressions

A token is a numeral, an operator or a parenthesis. A numeral is a row of decimal digits of any script,
taken as long as it goes, with the imaginary unit directly after it or not; the unit alone is a numeral
too. A token keeps the text it was read from.

## Main definitions

* `Token`, `Token.text`: tokens and their texts.
* `Token.numeralValue`: the quantity that a numeral denotes.
* `Token.scan`: the tokens of a text, or the first character that starts none.
-/

namespace ExactAlgebra

/-- A token of an expression. -/
inductive Token where
  /-- Digits, with the imaginary unit after them or not. -/
  | numeral (digits : List Char) (unit : Bool)
  /-- An operator. -/
  | operator (o : Operation)
  /-- An opening parenthesis. -/
  | opening
  /-- A closing parenthesis. -/
  | closing
  deriving DecidableEq

namespace Token

/-- The letter of the imaginary unit. -/
def unitLetter : Char := 'i'

/-- The text of a token. -/
def text : Token → List Char
  | .numeral digits unit => digits ++ if unit then [unitLetter] else []
  | .operator o => [o.symbol]
  | .opening => ['(']
  | .closing => [')']

/-- The quantity that a numeral denotes. The imaginary unit without digits counts once, and a multiple
of it is complex also when it is zero. -/
def numeralValue (digits : List Char) (unit : Bool) : Quantity :=
  let n : Rational := .ofInt (Text.number digits)
  if unit then .complex ⟨0, if digits.isEmpty then 1 else n⟩ else .rational n

/-- The token of a single character other than a digit. -/
def ofChar? (c : Char) : Option Token :=
  if c = unitLetter then some (.numeral [] true)
  else if c = '(' then some .opening
  else if c = ')' then some .closing
  else (Operation.ofSymbol? c).map .operator

/-- The tokens of a text. Where no token starts, the character there. -/
def scan (cs : List Char) : Except Char (List Token) :=
  match cs with
  | [] => .ok []
  | c :: rest =>
    if Text.isDigit c then
      let digits := c :: rest.takeWhile Text.isDigit
      match _after : rest.dropWhile Text.isDigit with
      | 'i' :: after => return .numeral digits true :: (← scan after)
      | after => return .numeral digits false :: (← scan after)
    else
      match ofChar? c with
      | some t => return t :: (← scan rest)
      | none => .error c
termination_by cs.length
decreasing_by
  all_goals
    have fewer := (List.dropWhile_sublist Text.isDigit (l := rest)).length_le
    simp_all <;> omega

end Token

end ExactAlgebra
