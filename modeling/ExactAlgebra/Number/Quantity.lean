import ExactAlgebra.Number.Gaussian
import ExactAlgebra.Number.Kind

/-!
# Quantities

A quantity is a number of either kind. Before two quantities are combined both are brought to the
wider of their kinds, so a rational operand joins a complex one in the plane and the result stays
there, also when it comes to lie on the real axis again.

The kind is part of a quantity but not of its value: `Quantity.SameValue` compares the points of the
plane alone.

## Main definitions

* `Quantity`, `Quantity.kind`, `Quantity.toGaussian`: numbers of either kind.
* `Quantity.add`, `Quantity.mul`, `Quantity.neg`, `Quantity.divide?`, `Quantity.pow?`: arithmetic.
* `Quantity.SameValue`: equality of values.
* `Quantity.compareTo`: order of rationals, distance as soon as one operand is complex.
-/

namespace ExactAlgebra

/-- An exact number of either kind. -/
inductive Quantity where
  /-- A rational number. -/
  | rational (a : Rational)
  /-- A complex number; its imaginary part may be zero. -/
  | complex (z : Gaussian)
  deriving DecidableEq

namespace Quantity

/-- The kind of a quantity. -/
def kind : Quantity → NumberKind
  | .rational _ => .rational
  | .complex _ => .complex

/-- The point of the plane that a quantity denotes. -/
def toGaussian : Quantity → Gaussian
  | .rational a => .ofRational a
  | .complex z => z

/-- Zero, as a number of the given kind. -/
def zeroOf : NumberKind → Quantity
  | .rational => .rational 0
  | .complex => .complex 0

/-- One, as a number of the given kind. -/
def oneOf : NumberKind → Quantity
  | .rational => .rational 1
  | .complex => .complex 1

instance : Zero Quantity := ⟨.rational 0⟩

instance : One Quantity := ⟨.rational 1⟩

instance : Inhabited Quantity := ⟨0⟩

/-- The quantity is zero. -/
def isZero : Quantity → Bool
  | .rational a => a.isZero
  | .complex z => z.isZero

/-- The quantity has no imaginary part. -/
def isReal : Quantity → Bool
  | .rational _ => true
  | .complex z => z.isReal

/-- The quantity as a number of the given kind; a complex number does not become narrower. -/
def promote? : NumberKind → Quantity → Option Quantity
  | .rational, .rational a => some (.rational a)
  | .complex, q => some (.complex q.toGaussian)
  | .rational, .complex _ => none

/-- A complex number without an imaginary part as a rational number, any other quantity as it is. -/
def demote : Quantity → Quantity
  | .rational a => .rational a
  | .complex z => if z.isReal then .rational z.re else .complex z

/-! ## Arithmetic -/

/-- Both operands rational: the rational operation. Otherwise: the complex one. -/
def lift₂ (onRational : Rational → Rational → Rational) (onComplex : Gaussian → Gaussian → Gaussian) :
    Quantity → Quantity → Quantity
  | .rational a, .rational b => .rational (onRational a b)
  | p, q => .complex (onComplex p.toGaussian q.toGaussian)

/-- The negative. -/
def neg : Quantity → Quantity
  | .rational a => .rational (-a)
  | .complex z => .complex (-z)

instance : Neg Quantity := ⟨neg⟩

/-- The sum. -/
def add (p q : Quantity) : Quantity := lift₂ (· + ·) (· + ·) p q

instance : Add Quantity := ⟨add⟩

/-- The difference. -/
def sub (p q : Quantity) : Quantity := p + -q

instance : Sub Quantity := ⟨sub⟩

/-- The product. -/
def mul (p q : Quantity) : Quantity := lift₂ (· * ·) (· * ·) p q

instance : Mul Quantity := ⟨mul⟩

/-- The quotient; there is none when the divisor is zero, or is complex with scale zero. -/
def divide? : Quantity → Quantity → Option Quantity
  | .rational a, .rational b => (a.divide? b).map .rational
  | p, q => (p.toGaussian.divide? q.toGaussian).map .complex

/-- The digits of an exponent to the base two, from the lowest on. The squaring that belongs to a digit is
multiplied to the product so far if the digit is one, and squared again for the next digit, if there is
one. -/
def powDigits (product squaring : Quantity) (digits : Nat) : Quantity :=
  let product := if digits % 2 = 0 then product else product * squaring
  if digits / 2 = 0 then product else powDigits product (squaring * squaring) (digits / 2)
termination_by digits
decreasing_by omega

/-- A power with a natural exponent, by squaring. -/
def powNat (q : Quantity) (n : Nat) : Quantity :=
  if n = 0 then oneOf q.kind else powDigits (oneOf q.kind) q n

/-- A power with an integer exponent. A negative exponent asks for the quotient of one and the
positive power, which need not exist. -/
def pow? (q : Quantity) (n : Int) : Option Quantity :=
  if n < 0 then (oneOf q.kind).divide? (q.powNat n.natAbs) else some (q.powNat n.natAbs)

/-! ## Comparison -/

/-- Two quantities denote the same point of the plane. -/
def SameValue (p q : Quantity) : Prop := p.toGaussian = q.toGaussian

instance (p q : Quantity) : Decidable (p.SameValue q) :=
  inferInstanceAs (Decidable (p.toGaussian = q.toGaussian))

/-- Between rationals, minus one, zero or one as the first is less than, equal to or greater than the
second. As soon as one operand is complex, the distance of the two points, which is no order. -/
def compareTo : Quantity → Quantity → Int
  | .rational a, .rational b => a.compareTo b
  | p, q => p.toGaussian.distance q.toGaussian

/-! ## First facts -/

@[simp] theorem kind_zeroOf (k : NumberKind) : (zeroOf k).kind = k := by cases k <;> rfl

@[simp] theorem kind_oneOf (k : NumberKind) : (oneOf k).kind = k := by cases k <;> rfl

@[simp] theorem kind_neg (q : Quantity) : (-q).kind = q.kind := by cases q <;> rfl

/-- A sum is of the wider kind of its operands. -/
@[simp] theorem kind_add (p q : Quantity) : (p + q).kind = p.kind.widest q.kind := by
  cases p <;> cases q <;> rfl

/-- A product is of the wider kind of its operands. -/
@[simp] theorem kind_mul (p q : Quantity) : (p * q).kind = p.kind.widest q.kind := by
  cases p <;> cases q <;> rfl

theorem SameValue.refl (p : Quantity) : p.SameValue p := rfl

theorem SameValue.symm {p q : Quantity} (h : p.SameValue q) : q.SameValue p := Eq.symm h

theorem SameValue.trans {p q r : Quantity} (h : p.SameValue q) (k : q.SameValue r) :
    p.SameValue r := Eq.trans h k

end Quantity

end ExactAlgebra
