import ExactAlgebra.Number.BinaryFormat

/-!
# Shortest decimal text of a float

The decimal text with the fewest digits among those that are nearer to a given float than to any other
float of its format. Of several texts with that many digits the one nearest to the float is taken.

Doubles from `10⁻⁴` up to `10¹⁶` are written positionally and always with a decimal point; all others
with one digit before the point and a decimal exponent of at least two digits. For the narrower formats
the positional range ends earlier, with the digits that the format is sure to keep.

## Main definitions

* `Shortest.Span`: a float with the numbers that round to it.
* `Shortest.digits`: its shortest digits and the place of its point.
* `Shortest.text`: the text.
-/

namespace ExactAlgebra.Shortest

/-- A positive float `value / den` with the numbers that are nearer to it than to other floats:
they reach `below / den` under it and `above / den` over it, ends included or not. -/
structure Span where
  /-- The numerator of the float. -/
  value : Nat
  /-- How far the numbers reach below the float. -/
  below : Nat
  /-- How far they reach above it. -/
  above : Nat
  /-- The common denominator. -/
  den : Nat
  /-- The two ends belong to the numbers. -/
  closed : Bool

/-- The span of the float `significand * 2 ^ power`. Below a power of two the floats are twice as dense
as above it. -/
def Span.ofFloat (f : BinaryFormat) (significand : Nat) (power : Int) : Span :=
  let unit := if 2 ≤ power then Nat.pow 2 (power - 2).toNat else 1
  let atPower := significand == Nat.pow 2 f.fractionWidth && f.leastPower < power
  { value := 4 * significand * unit
    below := if atPower then unit else 2 * unit
    above := 2 * unit
    den := if 2 ≤ power then 1 else Nat.pow 2 (2 - power).toNat
    closed := significand % 2 == 0 }

/-- The number `c * 10 ^ t`, over the denominator of the span and over `10 ^ t` when `t` is negative,
lies in the span. -/
def Span.contains (s : Span) (c : Nat) (t : Int) : Bool :=
  let up := Nat.pow 10 t.toNat
  let down := Nat.pow 10 (-t).toNat
  let x := c * up * s.den
  let low := (s.value - s.below) * down
  let high := (s.value + s.above) * down
  if s.closed then low ≤ x && x ≤ high else low < x && x < high

/-- The place of the leading decimal digit: the number lies from `10 ^ p` up to `10 ^ (p + 1)`. -/
def Span.leadingPlace (s : Span) : Int :=
  if s.den ≤ s.value then ((Nat.toDigits 10 (s.value / s.den)).length : Int) - 1
  else
    let places := ((List.range 400).find? fun j => s.den ≤ s.value * Nat.pow 10 j).getD 0
    0 - (places : Int)

/-- The best text with `count` digits, as an integer and the place of its last digit, if there is one
in the span. -/
def Span.withDigits? (s : Span) (count : Nat) : Option (Nat × Int) :=
  let t := s.leadingPlace - (count : Int) + 1
  let up := Nat.pow 10 t.toNat
  let down := Nat.pow 10 (-t).toNat
  let low := s.value * down / (s.den * up)
  let toLow := s.value * down - low * up * s.den
  let toHigh := (low + 1) * up * s.den - s.value * down
  match s.contains low t, s.contains (low + 1) t with
  | true, true =>
    if toLow < toHigh || toLow == toHigh && low % 2 == 0 then some (low, t) else some (low + 1, t)
  | true, false => some (low, t)
  | false, true => some (low + 1, t)
  | false, false => none

/-- The shortest digits, without zeros at the end, and the number of digits before the point. -/
def digits (s : Span) : List Char × Int :=
  let (c, t) := ((List.range 17).findSome? fun k => s.withDigits? (k + 1)).getD (0, 0)
  let all := Nat.toDigits 10 c
  let kept := (all.reverse.dropWhile (· == '0')).reverse
  (kept, (all.length : Int) + t)

/-- Digits with a point after the first `point` of them. -/
def positional (ds : List Char) (point : Int) : List Char :=
  if point ≤ 0 then '0' :: '.' :: (List.replicate point.natAbs '0' ++ ds)
  else
    let n := point.toNat
    let whole := ds.take n ++ List.replicate (n - ds.length) '0'
    let rest := ds.drop n
    whole ++ '.' :: (if rest.isEmpty then ['0'] else rest)

/-- Digits with one of them before the point and a decimal exponent. -/
def scientific (ds : List Char) (point : Int) : List Char :=
  let exponent := point - 1
  let size := Nat.toDigits 10 exponent.natAbs
  let rest := ds.drop 1
  ds.take 1 ++ (if rest.isEmpty then [] else '.' :: rest) ++
    'e' :: (if exponent < 0 then '-' else '+') :: (List.replicate (2 - size.length) '0' ++ size)

/-- How many digits before the point are still written positionally. -/
def wholeDigits (f : BinaryFormat) : Int :=
  if f = .double then 16 else if f = .single then 6 else 3

/-- The shortest text of a float of the given format. -/
def text (f : BinaryFormat) : FloatValue → List Char
  | .undefined => ['n', 'a', 'n']
  | .infinite negative => (if negative then ['-'] else []) ++ ['i', 'n', 'f']
  | .finite negative significand power =>
    let sign := if negative then ['-'] else []
    if significand = 0 then sign ++ ['0', '.', '0']
    else
      let (ds, point) := digits (.ofFloat f significand power)
      sign ++ if -4 < point && point ≤ wholeDigits f then positional ds point else scientific ds point

end ExactAlgebra.Shortest
