/-!
# Arithmetic operations

The binary operations of expressions with their symbols and binding strengths.

## Main definitions

* `Operation`: the five operations.
* `Operation.symbol`, `Operation.ofSymbol?`: the symbol of an operation and back.
* `Operation.precedence`: the binding strength.
-/

namespace ExactAlgebra

/-- A binary arithmetic operation. -/
inductive Operation where
  | add
  | subtract
  | multiply
  | divide
  | pow
  deriving DecidableEq, Repr

namespace Operation

/-- The symbol of an operation. -/
def symbol : Operation → Char
  | .add => '+'
  | .subtract => '-'
  | .multiply => '*'
  | .divide => '/'
  | .pow => '^'

/-- The name of an operation. -/
def name : Operation → String
  | .add => "ADD"
  | .subtract => "SUBTRACT"
  | .multiply => "MULTIPLY"
  | .divide => "DIVIDE"
  | .pow => "POW"

/-- The operation with a given symbol. -/
def ofSymbol? : Char → Option Operation
  | '+' => some .add
  | '-' => some .subtract
  | '*' => some .multiply
  | '/' => some .divide
  | '^' => some .pow
  | _ => none

/-- The character is the symbol of an operation. -/
def isSymbol (c : Char) : Bool := (ofSymbol? c).isSome

/-- How strongly an operation binds its operands; higher binds tighter. -/
def precedence : Operation → Nat
  | .add | .subtract => 1
  | .multiply | .divide => 2
  | .pow => 3

@[simp] theorem ofSymbol?_symbol (o : Operation) : ofSymbol? o.symbol = some o := by
  cases o <;> rfl

/-- A symbol stands for one operation only. -/
theorem symbol_of_ofSymbol? {c : Char} {o : Operation} (h : ofSymbol? c = some o) :
    o.symbol = c := by
  unfold ofSymbol? at h
  split at h <;> first | cases h; rfl | cases h

end Operation

end ExactAlgebra
