import ExactAlgebra.Error
import ExactAlgebra.Number.Approximation

/-!
# Partial operations with reasons

The operations on numbers that need not have a result, with the reason why there is none.

## Main definitions

* `Rational.ofInts`, `Rational.reciprocal`, `Quantity.divide`, `Quantity.pow`: arithmetic.
* `Gaussian.toRational`, `Rational.wholeValue`, `Quantity.wholeValue`: narrower values.
* `Quantity.promote`: the same number in a wider kind.
* `Rational.toDouble`, `Rational.ofFloat`: floats.
-/

namespace ExactAlgebra

/-- A result that fails to exist only for one reason. -/
def orFail {α : Type} (reason : Error) : Option α → Except Error α
  | some a => .ok a
  | none => .error reason

@[simp] theorem orFail_some {α : Type} (reason : Error) (a : α) :
    orFail reason (some a) = .ok a := rfl

@[simp] theorem orFail_none {α : Type} (reason : Error) :
    orFail reason (none : Option α) = .error reason := rfl

theorem orFail_eq_ok {α : Type} {reason : Error} {x : Option α} {a : α} :
    orFail reason x = .ok a ↔ x = some a := by
  cases x <;> simp [orFail]

/-- Of two computations in a row that succeed, the first one does. -/
theorem of_bind_ok {ε α β : Type} {x : Except ε α} {f : α → Except ε β} {b : β}
    (ok : x >>= f = .ok b) : ∃ a, x = .ok a ∧ f a = .ok b := by
  cases x with
  | error e => cases ok
  | ok a => exact ⟨a, rfl, ok⟩

namespace Error

/-- A division that has no quotient. -/
abbrev divisionByZero : Error := .arithmetic .divisionByZero

end Error

namespace Rational

/-- The number `n / d`. -/
def ofInts (n d : Int) : Except Error Rational :=
  orFail (.arithmetic .zeroDenominator) (ofInts? n d)

/-- One divided by the number. -/
def reciprocal (a : Rational) : Except Error Rational :=
  orFail .divisionByZero a.reciprocal?

/-- The integer that the number is. -/
def wholeValue (a : Rational) : Except Error Int :=
  orFail (.arithmetic (.notWhole a)) a.toInt?

/-- The bits of the nearest double. -/
def toDouble (a : Rational) : Except Error Nat :=
  orFail (.arithmetic .beyondDoubles) a.toDouble?

/-- The number that stands for a float. -/
def ofFloat (x : FloatValue) : Except Error Rational :=
  orFail (.numeral (.notFinite x)) (ofFloat? x)

end Rational

namespace Gaussian

/-- The number as a rational. -/
def toRational (a : Gaussian) : Except Error Rational :=
  orFail (.arithmetic (.nonReal a)) a.toRational?

end Gaussian

namespace Quantity

/-- The quotient. -/
def divide (p q : Quantity) : Except Error Quantity :=
  orFail .divisionByZero (p.divide? q)

/-- A power with an integer exponent. -/
def pow (q : Quantity) (n : Int) : Except Error Quantity :=
  orFail .divisionByZero (q.pow? n)

/-- The same number in the given kind. -/
def promote (k : NumberKind) (q : Quantity) : Except Error Quantity :=
  orFail (.arithmetic (.narrowing k.name)) (q.promote? k)

/-- The integer that the quantity is. -/
def wholeValue : Quantity → Except Error Int
  | .rational a => a.wholeValue
  | .complex z => z.toRational >>= Rational.wholeValue

end Quantity

end ExactAlgebra
