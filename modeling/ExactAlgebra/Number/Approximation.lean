import ExactAlgebra.Number.BinaryFormat

/-!
# Best approximation with a bounded denominator

The closest rational number whose denominator does not exceed a bound. It is found on the continued
fraction of the number: the last convergent within the bound, or the last intermediate fraction before
the first convergent beyond it, whichever is closer.

Floats enter exact arithmetic this way, so that the double written `0.1` becomes one tenth.

## Main definitions

* `Rational.convergents`: the last convergent within the bound and the one before it.
* `Rational.closest`: the best approximation.
* `Rational.ofFloat?`: the approximation that stands for a float.
-/

namespace ExactAlgebra.Rational

/-- The last two convergents within the bound, the latest second. The arguments are the rest `n / d`
of the continued fraction and the two convergents before it. -/
def convergents (bound : Nat) (n : Int) (d : Nat) (before last : Int × Int) :
    (Int × Int) × (Int × Int) :=
  if d = 0 then (before, last)
  else
    let quotient := n / d
    let next := (before.1 + quotient * last.1, before.2 + quotient * last.2)
    if bound < next.2 then (before, last)
    else convergents bound d (n % d).toNat last next
termination_by d
decreasing_by
  have pos : (0 : Int) < d := by omega
  have small := Int.emod_lt_of_pos n pos
  have nonneg := Int.emod_nonneg n (by omega : (d : Int) ≠ 0)
  omega

/-- The closest number with a denominator of at most `bound`. Of two equally close candidates the
convergent is taken. -/
def closest (bound : Nat) (a : Rational) : Rational :=
  if a.den ≤ bound then a
  else
    let (before, last) := convergents bound a.num a.den (0, 1) (1, 0)
    let k := (bound - before.2) / last.2
    let between := ofInts? (before.1 + k * last.1) (before.2 + k * last.2)
    let convergent := ofInts? last.1 last.2
    match convergent, between with
    | some c, some b => if (c - a).abs ≤ (b - a).abs then c else b
    | some c, none => c
    | none, some b => b
    | none, none => a

/-- The greatest denominator of the number that stands for a float. -/
def floatBound : Nat := 1000000

/-- The number that stands for a finite float: the closest one with a small denominator. -/
def ofFloat? (x : FloatValue) : Option Rational :=
  x.toRational?.map (closest floatBound)

end ExactAlgebra.Rational
