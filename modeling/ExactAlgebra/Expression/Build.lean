import ExactAlgebra.Error
import ExactAlgebra.Text.Blank

/-!
# Checking the text of an expression

A text becomes an expression in three steps: square brackets are read as parentheses and blanks are
dropped; the result is checked; closing parentheses that are missing are added at the end.

The check looks at neighbours only. An operator other than the minus may neither start an expression or
a parenthesis nor follow another operator; two minuses may not follow each other; nothing may end with
an operator. Of parentheses only the two numbers are compared.

## Main definitions

* `Expression.normalized`: the text without brackets and blanks.
* `Expression.operatorsFit`: the check of neighbours.
* `Expression.build`: all steps together.
* `Expression.operatorCount`: the number of operator symbols.
-/

namespace ExactAlgebra.Expression

/-- A square bracket as a parenthesis, any other character as it is. -/
def parenthesis : Char → Char
  | '[' => '('
  | ']' => ')'
  | c => c

/-- The text without square brackets and blanks. -/
def normalized (text : List Char) : List Char :=
  Text.removeBlanks (text.map parenthesis)

/-- A character may follow another one. -/
def mayFollow (previous c : Char) : Bool :=
  if Operation.isSymbol c then
    !((previous == '(' || Operation.isSymbol previous) && c != '-') && !(previous == '-' && c == '-')
  else !(c == ')' && Operation.isSymbol previous)

/-- Every character may follow the one before it; the first argument stands before the text. -/
def neighboursFit : Char → List Char → Bool
  | _, [] => true
  | previous, c :: cs => mayFollow previous c && neighboursFit c cs

/-- The operators of a text stand where operators may stand. The start counts as the inside of a
parenthesis. -/
def operatorsFit (s : List Char) : Bool :=
  !(s.getLast?.any Operation.isSymbol) && neighboursFit '(' s

/-- Checks a text and completes it. -/
def build (text : String) : Except Error Expression :=
  let s := normalized text.toList
  let opening := s.count '('
  let closing := s.count ')'
  let fail (fault : SyntaxFault) : Except Error Expression := .error (.expression (some text) fault)
  if s.isEmpty then fail .empty
  else if opening < closing then fail .unbalanced
  else if !operatorsFit s then fail .misplacedOperator
  else .ok ⟨s ++ List.replicate (opening - closing) ')', opening⟩

/-- The number of operator symbols. -/
def operatorCount (e : Expression) : Nat :=
  e.text.countP Operation.isSymbol

@[simp] theorem normalized_append (as bs : List Char) :
    normalized (as ++ bs) = normalized as ++ normalized bs := by
  simp [normalized]

end ExactAlgebra.Expression
