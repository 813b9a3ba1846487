import ExactAlgebra.Number.Rational

/-!
# Complex numbers with rational parts

A point `a + bi` of the complex plane whose two parts are rational.

Sum and product are the usual ones. Division is not: the quotient by `c + di` is taken over the scale
`c² + cd`, where the field of complex numbers has `c² + d²`. For a divisor on the real axis the two
agree and the quotient is exact; any other divisor gives the quotient of this scale, and a divisor
with `c = 0` or `c = -d` has none.

## Main definitions

* `Gaussian`: a point of the plane.
* `Gaussian.divisorScale`, `Gaussian.divide?`: division.
* `Gaussian.distance`: how far two points are apart, in whole units.
-/

namespace ExactAlgebra

/-- A complex number whose real and imaginary parts are rational. -/
structure Gaussian where
  /-- The part along the real axis. -/
  re : Rational
  /-- The coefficient of `i`. -/
  im : Rational
  deriving DecidableEq

namespace Gaussian

/-- A point of the real axis. -/
def ofRational (a : Rational) : Gaussian := ⟨a, 0⟩

instance : Zero Gaussian := ⟨⟨0, 0⟩⟩

instance : One Gaussian := ⟨⟨1, 0⟩⟩

instance : Inhabited Gaussian := ⟨0⟩

/-- The number has no imaginary part. -/
def isReal (a : Gaussian) : Bool := a.im.isZero

/-- The number is zero. -/
def isZero (a : Gaussian) : Bool := a.re.isZero && a.im.isZero

/-- The number as a rational, if it has no imaginary part. -/
def toRational? (a : Gaussian) : Option Rational := if a.isReal then some a.re else none

/-- The reflection in the real axis. -/
def conjugate (a : Gaussian) : Gaussian := ⟨a.re, -a.im⟩

/-- The negative. -/
def neg (a : Gaussian) : Gaussian := ⟨-a.re, -a.im⟩

instance : Neg Gaussian := ⟨neg⟩

/-- The sum, part by part. -/
def add (a b : Gaussian) : Gaussian := ⟨a.re + b.re, a.im + b.im⟩

instance : Add Gaussian := ⟨add⟩

/-- The product: `(a + bi)(c + di) = (ac - bd) + (ad + bc)i`. -/
def mul (a b : Gaussian) : Gaussian :=
  ⟨a.re * b.re - a.im * b.im, a.re * b.im + a.im * b.re⟩

instance : Mul Gaussian := ⟨mul⟩

/-- The scale that a quotient by `c + di` is taken over: `c² + cd`. -/
def divisorScale (b : Gaussian) : Rational := b.re * b.re + b.re * b.im

/-- The quotient over the scale of the divisor; there is none when the scale is zero. -/
def divide? (a b : Gaussian) : Option Gaussian := do
  let re ← (a.re * b.re - a.im * b.im).divide? b.divisorScale
  let im ← (a.im * b.re - a.re * b.im).divide? b.divisorScale
  some ⟨re, im⟩

/-- The greatest distance that is told apart from still greater ones. -/
def farthest : Nat := Nat.pow 2 31 - 1

/-- The distance of two points in whole units: the square of the distance is cut down to an integer,
then its root is. Equal points, and points less than one apart, have distance zero; beyond `farthest`
all distances count the same. -/
def distance (a b : Gaussian) : Nat :=
  let dre := a.re - b.re
  let dim := a.im - b.im
  min (Nat.sqrt (dre * dre + dim * dim).truncate.toNat) farthest

@[ext] theorem ext {a b : Gaussian} (re : a.re = b.re) (im : a.im = b.im) : a = b := by
  cases a; cases b; simp_all

@[simp] theorem re_add (a b : Gaussian) : (a + b).re = a.re + b.re := rfl

@[simp] theorem im_add (a b : Gaussian) : (a + b).im = a.im + b.im := rfl

@[simp] theorem re_neg (a : Gaussian) : (-a).re = -a.re := rfl

@[simp] theorem im_neg (a : Gaussian) : (-a).im = -a.im := rfl

@[simp] theorem re_mul (a b : Gaussian) : (a * b).re = a.re * b.re - a.im * b.im := rfl

@[simp] theorem im_mul (a b : Gaussian) : (a * b).im = a.re * b.im + a.im * b.re := rfl

end Gaussian

end ExactAlgebra
