import ExactAlgebra.Number.BinaryFormat

/-!
# Extended rational numbers

What a float may stand for besides a number: an infinity, or nothing definite. Every float of every
format is one of these exactly, so floats are compared with each other and with exact numbers here,
without rounding. The undefined value is in no order with anything, itself included.

## Main definitions

* `Extended`: a rational number, an infinity, or the undefined value.
* `Extended.ordering?`: how two of them compare, if they do.
* `FloatValue.toExtended`: what a float stands for.
-/

namespace ExactAlgebra

/-- Two rational numbers in order. -/
def Rational.ordering (a b : Rational) : Ordering :=
  if a < b then .lt else if b < a then .gt else .eq

/-- A rational number, an infinity, or the undefined value. -/
inductive Extended where
  /-- A number. -/
  | finite (a : Rational)
  /-- An infinity. -/
  | infinite (negative : Bool)
  /-- No number. -/
  | undefined
  deriving DecidableEq

namespace Extended

/-- How two values compare; the undefined value compares with nothing. -/
def ordering? : Extended → Extended → Option Ordering
  | .undefined, _ => none
  | _, .undefined => none
  | .finite a, .finite b => some (a.ordering b)
  | .infinite negative, .finite _ => some (if negative then .lt else .gt)
  | .finite _, .infinite negative => some (if negative then .gt else .lt)
  | .infinite m, .infinite n => some (if m = n then .eq else if m then .lt else .gt)

/-- Two values are the same number or the same infinity. -/
def same (x y : Extended) : Bool := ordering? x y == some .eq

/-- The value is zero. -/
def isZero : Extended → Bool
  | .finite a => a.isZero
  | _ => false

end Extended

/-- What a float stands for. -/
def FloatValue.toExtended (x : FloatValue) : Extended :=
  match x, x.toRational? with
  | _, some a => .finite a
  | .infinite negative, none => .infinite negative
  | _, none => .undefined

end ExactAlgebra
