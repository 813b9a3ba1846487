/-!
# Expressions

An expression is a text that passed the checks of `Expression.build`: it holds no blanks and no
brackets, its operators stand where operators may stand, and every opening parenthesis has a closing
one.

## Main definitions

* `Expression`: the checked text.
-/

namespace ExactAlgebra

/-- The checked text of an algebraic expression. -/
structure Expression where
  /-- The text. -/
  text : List Char
  /-- The number of pairs of parentheses in the text. -/
  parentheses : Nat
  deriving DecidableEq

end ExactAlgebra
