/-!
# Blanks

The characters that separate or surround pieces of text without being part of them, and the two ways
the readers of this library discard them: at both ends of a piece (`strip`), or everywhere
(`removeBlanks`).

## Main definitions

* `isBlank`: the blank characters.
* `strip`: a text without the blanks at its two ends.
* `removeBlanks`: a text without any blank.
-/

namespace ExactAlgebra.Text

/-- A blank character: a line or page control, one of the four information separators, or a space of
any width. The zero width space and the byte order mark are not blank. -/
def isBlank (c : Char) : Bool :=
  let n := c.toNat
  (0x09 ≤ n && n ≤ 0x0D) || (0x1C ≤ n && n ≤ 0x20) || n == 0x85 || n == 0xA0 || n == 0x1680 ||
    (0x2000 ≤ n && n ≤ 0x200A) || n == 0x2028 || n == 0x2029 || n == 0x202F || n == 0x205F ||
    n == 0x3000

/-- The text without the blanks at its end. -/
def stripEnd (cs : List Char) : List Char :=
  (cs.reverse.dropWhile isBlank).reverse

/-- The text without the blanks at its start and at its end. -/
def strip (cs : List Char) : List Char :=
  stripEnd (cs.dropWhile isBlank)

/-- The text without any blank. -/
def removeBlanks (cs : List Char) : List Char :=
  cs.filter fun c => !isBlank c

@[simp] theorem stripEnd_nil : stripEnd [] = [] := rfl

@[simp] theorem removeBlanks_append (as bs : List Char) :
    removeBlanks (as ++ bs) = removeBlanks as ++ removeBlanks bs := by
  simp [removeBlanks]

/-- A text that neither starts nor ends with a blank is left alone. -/
theorem strip_eq_self {cs : List Char} (first : ∀ c ∈ cs.head?, isBlank c = false)
    (last : ∀ c ∈ cs.getLast?, isBlank c = false) : strip cs = cs := by
  have keep : ∀ {ds : List Char}, (∀ c ∈ ds.head?, isBlank c = false) →
      ds.dropWhile isBlank = ds := by
    intro ds h
    cases ds with
    | nil => rfl
    | cons d ds => simp [List.dropWhile, h d (by simp)]
  have tail : cs.reverse.dropWhile isBlank = cs.reverse :=
    keep fun c h => last c (by simpa using h)
  rw [strip, stripEnd, keep first, tail, List.reverse_reverse]

end ExactAlgebra.Text
