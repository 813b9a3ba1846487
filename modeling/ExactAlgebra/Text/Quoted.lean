import ExactAlgebra.Text.Unprintable

/-!
# Quoted texts

How a text is shown inside a message: between quotes, with an escape for everything that would not be
visible or would end the quotation.

The quote is `'`, or `"` for a text that holds `'` and no `"`. The chosen quote and the backslash are
written after a backslash; the three usual line controls have letters; any other character without a
visible form is written by its code point in hexadecimal, in two, four or eight places as it needs.

## Main definitions

* `controlLetters`: the characters that are written with a letter of their own.
* `escaped`: how one character is written.
* `quoted`: how a whole text is written.
-/

namespace ExactAlgebra.Text

/-- The hexadecimal digits of a number, filled with zeros up to a width. -/
def hex (width n : Nat) : List Char :=
  let digits := Nat.toDigits 16 n
  List.replicate (width - digits.length) '0' ++ digits

/-- A character without a visible form, written by its code point. -/
def codePoint (c : Char) : List Char :=
  let n := c.toNat
  if n < 0x100 then '\\' :: 'x' :: hex 2 n
  else if n < 0x10000 then '\\' :: 'u' :: hex 4 n
  else '\\' :: 'U' :: hex 8 n

/-- The line controls that are written with a letter. -/
def controlLetters : List (Char × Char) := [('\n', 'n'), ('\r', 'r'), ('\t', 't')]

/-- How a character is written between quotes of the given kind. -/
def escaped (quote c : Char) : List Char :=
  match controlLetters.lookup c with
  | some letter => ['\\', letter]
  | none =>
    if c = quote ∨ c = '\\' then ['\\', c] else if isUnprintable c then codePoint c else [c]

/-- The quote that a text is written between. -/
def quoteFor (cs : List Char) : Char :=
  if cs.contains '\'' && !cs.contains '"' then '"' else '\''

/-- A text between quotes. -/
def quoted (cs : List Char) : List Char :=
  let quote := quoteFor cs
  quote :: (cs.flatMap (escaped quote) ++ [quote])

/-- A string between quotes. -/
def quote (s : String) : String :=
  String.ofList (quoted s.toList)

end ExactAlgebra.Text
