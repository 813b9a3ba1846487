import ExactAlgebra.Number.Reader
import ExactAlgebra.Text.Digit

/-!
# Literals of foreign numbers

The texts that stand for foreign numbers: integers, floats, and pairs of floats. They differ from the
text forms of this library. Digits of all scripts count, and a single underscore may stand between two
digits. A float has a point or an exponent if it likes, and is rounded to the nearest double; there are
words for the floats that are no numbers. A pair is written as a sum whose second term is followed by
the imaginary unit, with or without parentheses around it.

## Main definitions

* `Literal.integer`: an integer.
* `Literal.float`: a double, by its bits.
* `Literal.floatPair`: a pair of doubles.
-/

namespace ExactAlgebra.Literal

open Text

/-! ## Characters -/

/-- A blank that may stand around a literal. -/
def isSpace (c : Char) : Bool := c == ' ' || (0x09 ≤ c.toNat && c.toNat ≤ 0x0D)

/-- A text in ASCII characters: digits of all scripts become ASCII digits and blanks spaces. At a
character that is neither the text is broken off with one that no literal holds. -/
def transliterated : List Char → List Char
  | [] => []
  | c :: cs =>
    if c.toNat < 127 then c :: transliterated cs
    else if isBlank c then ' ' :: transliterated cs
    else
      match digitValue? c with
      | some n => Nat.digitChar n :: transliterated cs
      | none => ['?']

/-- The text without the underscores between its digits; none if an underscore stands elsewhere. -/
def withoutUnderscores? (previous : Char) : List Char → Option (List Char)
  | [] => if previous == '_' then none else some []
  | c :: cs =>
    if c == '\x00' then none
    else if c == '_' then
      if previous.isDigit then withoutUnderscores? c cs else none
    else if previous == '_' && !c.isDigit then none
    else (withoutUnderscores? c cs).map (c :: ·)

/-- The text without the blanks around it. -/
def trimmed (cs : List Char) : List Char :=
  ((cs.dropWhile isSpace).reverse.dropWhile isSpace).reverse

/-! ## Integers -/

/-- The integer that a text is the literal of. -/
def integer? (cs : List Char) : Option Int :=
  (withoutUnderscores? ' ' (trimmed (transliterated cs))).bind readInteger?

/-- Reads the literal of an integer. -/
def integer (s : String) : Except Error Int :=
  orFail (.numeral (.integerLiteral s)) (integer? s.toList)

/-! ## Floats -/

/-- A sign and the text after it; a text without a sign is positive. -/
def signed : List Char → Bool × List Char
  | '+' :: cs => (false, cs)
  | '-' :: cs => (true, cs)
  | cs => (false, cs)

/-- The exponent at the start of a text, if there is one, and the text after it. -/
def scanExponent (cs : List Char) : Int × List Char :=
  match cs with
  | c :: rest =>
    let (negative, body) := signed rest
    let digits := body.takeWhile Char.isDigit
    if (c == 'e' || c == 'E') && !digits.isEmpty then
      let n : Int := Nat.ofDigitChars 10 digits 0
      (if negative then -n else n, body.drop digits.length)
    else (0, cs)
  | [] => (0, [])

/-- The double nearest to `digits * 10 ^ exponent`, without a sign. An exponent that takes all digits
beyond the finite doubles, or below all of them, is not carried out. -/
def nearestDouble (digits : List Char) (exponent : Int) : Nat :=
  let significant := digits.dropWhile (· == '0')
  let n := Nat.ofDigitChars 10 significant 0
  let places := significant.length + exponent
  if n = 0 ∨ places < -330 then 0
  else if 330 < places then BinaryFormat.double.infinity false
  else
    let nearest? :=
      if 0 ≤ exponent then BinaryFormat.double.nearest? (n * Nat.pow 10 exponent.toNat) 1
      else BinaryFormat.double.nearest? n (Nat.pow 10 exponent.natAbs)
    nearest?.getD (BinaryFormat.double.infinity false)

/-- The bits of the decimal number at the start of a text, and the text after it. -/
def scanDecimal? (cs : List Char) : Option (Nat × List Char) :=
  let whole := cs.takeWhile Char.isDigit
  let rest := cs.drop whole.length
  let (fraction, rest) :=
    match rest with
    | '.' :: after => let digits := after.takeWhile Char.isDigit; (digits, after.drop digits.length)
    | _ => ([], rest)
  if whole.isEmpty && fraction.isEmpty then none
  else
    let (exponent, rest) := scanExponent rest
    some (nearestDouble (whole ++ fraction) (exponent - fraction.length), rest)

/-- The text after a word at its start, in capitals or not. -/
def afterWord? (word cs : List Char) : Option (List Char) :=
  if (cs.take word.length).map Char.toLower == word then some (cs.drop word.length) else none

/-- The bits of the float word at the start of a text, and the text after it. -/
def scanWord? (cs : List Char) : Option (Nat × List Char) :=
  match afterWord? "inf".toList cs, afterWord? "nan".toList cs with
  | some rest, _ =>
    some (BinaryFormat.double.infinity false, (afterWord? "inity".toList rest).getD rest)
  | none, some rest => some (BinaryFormat.double.undefinedBits, rest)
  | none, none => none

/-- The bits of the float at the start of a text, and the text after it. -/
def scanFloat? (cs : List Char) : Option (Nat × List Char) :=
  let (negative, body) := signed cs
  ((scanDecimal? body).orElse fun _ => scanWord? body).map fun (bits, rest) =>
    (if negative then BinaryFormat.double.negate bits else bits, rest)

/-- The bits of the double that a text is the literal of. -/
def float? (cs : List Char) : Option Nat :=
  match (withoutUnderscores? ' ' (trimmed (transliterated cs))).bind scanFloat? with
  | some (bits, []) => some bits
  | _ => none

/-- Reads the literal of a double. -/
def float (s : String) : Except Error Nat :=
  orFail (.numeral (.floatLiteral s)) (float? s.toList)

/-! ## Pairs of floats -/

/-- The double one with the sign of the imaginary unit. -/
def unitBits (negative : Bool) : Nat :=
  let one := BinaryFormat.double.ofValue (.finite false 1 0)
  if negative then BinaryFormat.double.negate one else one

/-- The text after the imaginary unit. -/
def afterUnit? : List Char → Option (List Char)
  | 'j' :: cs => some cs
  | 'J' :: cs => some cs
  | _ => none

/-- The bits of a coefficient of the imaginary unit, which has to be at least a sign if one is
`required`, and the text after the unit. -/
def scanImaginary? (required : Bool) (cs : List Char) : Option (Nat × List Char) :=
  let (bits, rest) :=
    match scanFloat? cs, cs with
    | some (bits, rest), _ => (bits, rest)
    | none, '+' :: rest => (unitBits false, rest)
    | none, '-' :: rest => (unitBits true, rest)
    | none, _ => (unitBits false, cs)
  if required && !(cs.head? == some '+' || cs.head? == some '-') then none
  else (afterUnit? rest).map fun rest => (bits, rest)

/-- The bits of the pair at the start of a text, and the text after it. -/
def scanPair? (cs : List Char) : Option ((Nat × Nat) × List Char) :=
  match scanFloat? cs with
  | some (re, '+' :: rest) => (scanImaginary? true ('+' :: rest)).map fun (im, rest) => ((re, im), rest)
  | some (re, '-' :: rest) => (scanImaginary? true ('-' :: rest)).map fun (im, rest) => ((re, im), rest)
  | some (x, rest) =>
    match afterUnit? rest with
    | some rest => some ((0, x), rest)
    | none => some ((x, 0), rest)
  | none => (scanImaginary? false cs).map fun (im, rest) => ((0, im), rest)

/-- The bits of the pair of doubles that a text is the literal of. -/
def floatPair? (cs : List Char) : Option (Nat × Nat) :=
  let closed? (opened : Bool) (rest : List Char) : Bool :=
    match opened, rest.dropWhile isSpace with
    | false, rest => rest.isEmpty
    | true, ')' :: rest => (rest.dropWhile isSpace).isEmpty
    | true, _ => false
  let (opened, body) :=
    match cs.dropWhile isSpace with
    | '(' :: rest => (true, rest.dropWhile isSpace)
    | rest => (false, rest)
  match scanPair? body with
  | some (pair, rest) => if closed? opened rest then some pair else none
  | none => none

/-- Reads the literal of a pair of doubles. -/
def floatPair (s : String) : Except Error (Nat × Nat) := do
  let cs := transliterated s.toList
  let cs ←
    if (cs.takeWhile (· != '\x00')).contains '_' then
      orFail (.numeral (.groupedLiteral s)) (withoutUnderscores? ' ' cs)
    else pure cs
  orFail (.numeral .complexLiteral) (floatPair? cs)

end ExactAlgebra.Literal
