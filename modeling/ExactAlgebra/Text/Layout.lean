/-!
# Layout of arrays

How the elements of an array are put on lines. The elements of the last dimension stand in a row between
square brackets; the rows stand one below the other between brackets of their own, with an empty line
more for every further dimension. A row that would be too long goes on in the next line. Of an array with
many elements only those at the edges are shown, and dots stand for the others.

## Main definitions

* `Layout`: the separator of elements and the length of lines.
* `Layout.row`: one row.
* `Layout.abridged`: the elements of an array that are shown.
* `Layout.arrange`: an array.
-/

namespace ExactAlgebra.Text

/-- How elements are put on lines. -/
structure Layout where
  /-- What stands between two elements, apart from the space after it. -/
  mark : List Char
  /-- How far lines after the first one are indented. -/
  indent : Nat
  /-- The length of a line. -/
  width : Nat

namespace Layout

/-- So many spaces. -/
def spaces (n : Nat) : List Char := List.replicate n ' '

/-- A line without the spaces at its end. -/
def trimmed (line : List Char) : List Char := (line.reverse.dropWhile (· == ' ')).reverse

/-- One word more on the line, or on a line of its own if the line would become too long. The lines that
are complete come first. -/
def extend (l : Layout) (done line word : List Char) : List Char × List Char :=
  if l.width < line.length + word.length + 1 && l.indent < line.length then
    (done ++ trimmed line ++ ['\n'], spaces l.indent ++ word)
  else (done, line ++ word)

/-- The words of a row after the complete lines and the current line. -/
def rowFrom (l : Layout) (done line : List Char) : List (List Char) → List Char
  | [] => done ++ line
  | [word] => let (done, line) := l.extend done line word; done ++ line
  | word :: words =>
    let (done, line) := l.extend done line word
    rowFrom l done (line ++ l.mark ++ [' ']) words

/-- A text between brackets, without its indentation. -/
def bracketed (l : Layout) (text : List Char) : List Char :=
  '[' :: text.drop l.indent ++ [']']

/-- One row. -/
def row (l : Layout) (words : List (List Char)) : List Char :=
  l.bracketed (l.rowFrom [] (spaces l.indent) words)

/-- The layout of what stands one level deeper. -/
def inner (l : Layout) : Layout := ⟨l.mark, l.indent + 1, l.width - 1⟩

/-- The first `count` runs of `size` words each. -/
def runs {α : Type} (size : Nat) : (count : Nat) → List α → List (List α)
  | 0, _ => []
  | count + 1, words => words.take size :: runs size count (words.drop size)

/-! ## Long arrays -/

/-- How many elements all are shown of. -/
def greatestSize : Nat := 1000

/-- How many parts are shown at either edge of a dimension. -/
def edge : Nat := 3

/-- The array has so many elements that some are not shown. -/
def isLong (shape : List Nat) : Bool := greatestSize < shape.foldl (· * ·) 1

/-- The parts at the two edges of a dimension that has parts in between. -/
def edges {α : Type} (parts : List α) : List α :=
  if 2 * edge < parts.length then parts.take edge ++ parts.drop (parts.length - edge) else parts

/-- The elements at the edges of every dimension. -/
def cut {α : Type} : (shape : List Nat) → List α → List α
  | [], elements => elements
  | [_], elements => edges elements
  | n :: shape, elements =>
    (edges (runs (shape.foldl (· * ·) 1) n elements)).flatMap (cut shape)

/-- The elements of an array that are shown. -/
def abridged {α : Type} (shape : List Nat) (elements : List α) : List α :=
  if isLong shape then cut shape elements else elements

/-- How many parts of each dimension are shown, and whether dots stand for others. -/
def shown (shape : List Nat) : List (Nat × Bool) :=
  shape.map fun n => if isLong shape && 2 * edge < n then (2 * edge, true) else (n, false)

/-- The parts of a dimension, with dots between the edges if there are others. -/
def withDots (dots : Bool) (parts : List (List Char)) : List (List Char) :=
  if dots then parts.take edge ++ "...".toList :: parts.drop edge else parts

/-! ## Arrays -/

/-- The parts of an array one below the other. -/
def arrangeShown (l : Layout) : (shape : List (Nat × Bool)) → List (List Char) → List Char
  | [], words => words.headD []
  | [(_, dots)], words => l.row (withDots dots words)
  | (n, dots) :: shape, words =>
    let size := (shape.map Prod.fst).foldl (· * ·) 1
    let parts := withDots dots ((runs size n words).map (arrangeShown l.inner shape))
    let lineEnd := l.mark ++ List.replicate shape.length '\n'
    l.bracketed (lineEnd.intercalate (parts.map (spaces l.indent ++ ·)))

/-- An array of the given shape, the elements that are shown given as words. -/
def arrange (l : Layout) (shape : List Nat) (words : List (List Char)) : List Char :=
  l.arrangeShown (shown shape) words

end Layout

end ExactAlgebra.Text
