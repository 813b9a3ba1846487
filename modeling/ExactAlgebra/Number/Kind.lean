/-!
# Kinds of number

Every exact number of this library is of one of two kinds. A result is of the wider kind of its
operands, whatever its value: nothing becomes narrower unless that is asked for.

## Main definitions

* `NumberKind`: the two kinds.
* `NumberKind.widest`: the kind that holds the numbers of two kinds.
-/

namespace ExactAlgebra

/-- The kinds of number, from the narrower to the wider. -/
inductive NumberKind where
  /-- A point of the real axis. -/
  | rational
  /-- A point of the plane. -/
  | complex
  deriving DecidableEq, Repr

namespace NumberKind

/-- The narrowest kind that holds the numbers of both kinds. -/
def widest : NumberKind → NumberKind → NumberKind
  | .rational, k => k
  | .complex, _ => .complex

/-- The name of the kind. -/
def name : NumberKind → String
  | .rational => "RATIONAL"
  | .complex => "COMPLEX"

@[simp] theorem rational_widest (k : NumberKind) : widest .rational k = k := rfl

@[simp] theorem complex_widest (k : NumberKind) : widest .complex k = .complex := rfl

@[simp] theorem widest_rational (k : NumberKind) : widest k .rational = k := by cases k <;> rfl

@[simp] theorem widest_complex (k : NumberKind) : widest k .complex = .complex := by cases k <;> rfl

@[simp] theorem widest_self (k : NumberKind) : widest k k = k := by cases k <;> rfl

theorem widest_comm (j k : NumberKind) : widest j k = widest k j := by cases j <;> cases k <;> rfl

theorem widest_assoc (i j k : NumberKind) : widest (widest i j) k = widest i (widest j k) := by
  cases i <;> rfl

end NumberKind

end ExactAlgebra
