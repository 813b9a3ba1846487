import ExactAlgebra.Text.Blank
import Mathlib.Data.List.DropRight

/-!
# Blanks around a text

A text is what is left of it without the blanks at its ends, with these blanks around it. What is left
neither starts nor ends with a blank, and it is the only such text: if blanks stand around a text without
blanks at its ends, then exactly that text is left.

Around a character that is no blank the two ends are apart: what is left is what is left of the part before
it, the character, and what is left of the part after it.

## Main definitions

* `Text.Blank`: a text of blanks alone.
* `Text.Padded`: a text with blanks around it.
* `Text.Tight`: a text with no blank at its ends.

## Main statements

* `Text.strip_eq_iff`: what `strip` leaves.
* `Text.Padded.strip_eq`: blanks at the ends make no difference.
* `Text.strip_append_cons`: around a character that is no blank.
-/

namespace ExactAlgebra.Text

/-- The text holds nothing but blanks. -/
def Blank (w : List Char) : Prop := ∀ c ∈ w, isBlank c = true

/-- The second text is the first one with blanks around it. -/
def Padded (s cs : List Char) : Prop := ∃ w w', Blank w ∧ Blank w' ∧ cs = w ++ (s ++ w')

/-- The text neither starts nor ends with a blank. -/
structure Tight (s : List Char) : Prop where
  starts : ∀ c ∈ s.head?, isBlank c = false
  ends : ∀ c ∈ s.getLast?, isBlank c = false

/-! ## Blanks -/

theorem Blank.nil : Blank [] := List.forall_mem_nil _

theorem Blank.append {w w' : List Char} (h : Blank w) (h' : Blank w') : Blank (w ++ w') :=
  List.forall_mem_append.mpr ⟨h, h'⟩

/-- A single character that is no blank is a text without blanks at its ends. Numbers of one digit and the
imaginary unit are written with such texts. -/
theorem Tight.singleton {c : Char} (solid : isBlank c = false) : Tight [c] := by
  constructor
  all_goals
    intro d mem
    cases mem
    exact solid

namespace Padded

variable {r s cs w : List Char}

theorem refl (s : List Char) : Padded s s := ⟨[], [], Blank.nil, Blank.nil, (List.append_nil s).symm⟩

/-- Blanks may be put around a text in several rounds: the inner and the outer ones at each end make one text of
blanks together. -/
theorem trans (inner : Padded r s) (outer : Padded s cs) : Padded r cs := by
  obtain ⟨v, v', blankV, blankV', rfl⟩ := inner
  obtain ⟨w, w', blankW, blankW', rfl⟩ := outer
  exact ⟨w ++ v, v' ++ w', blankW.append blankV, blankV'.append blankW', by simp⟩

/-- More blanks in front of a padded text change nothing about what stands inside. Separators that are followed
by blanks are read by this. -/
theorem append_left (padded : Padded s cs) (blank : Blank w) : Padded s (w ++ cs) :=
  padded.trans ⟨w, [], blank, Blank.nil, by simp⟩

theorem append_right (padded : Padded s cs) (blank : Blank w) : Padded s (cs ++ w) :=
  padded.trans ⟨[], w, Blank.nil, blank, rfl⟩

theorem of_mem {c : Char} (padded : Padded s cs) (mem : c ∈ cs) : c ∈ s ∨ isBlank c = true := by
  obtain ⟨w, w', blank, blank', rfl⟩ := padded
  rcases List.mem_append.mp mem with first | rest
  · exact Or.inr (blank c first)
  · exact (List.mem_append.mp rest).imp_right (blank' c)

/-- No character of the inner text is lost on the way out, so what cannot occur in a padded text cannot occur
inside, either. -/
theorem mem {c : Char} (padded : Padded s cs) (mem : c ∈ s) : c ∈ cs := by
  obtain ⟨w, w', -, -, rfl⟩ := padded
  simp [mem]

end Padded

/-! ## What is left -/

/-- One half of stripping: without the leading blanks a text is inside of what it was, with blanks in front
only. -/
theorem padded_dropWhile (cs : List Char) : Padded (cs.dropWhile isBlank) cs := by
  refine ⟨cs.takeWhile isBlank, [], fun c => List.mem_takeWhile_imp, Blank.nil, ?_⟩
  rw [List.append_nil, List.takeWhile_append_dropWhile]

/-- The other half: without the blanks at the end a text is inside of what it was. The blanks that were dropped
are the longest end of blanks. -/
theorem padded_stripEnd (cs : List Char) : Padded (stripEnd cs) cs := by
  refine ⟨[], cs.rtakeWhile isBlank, Blank.nil, fun c => List.mem_rtakeWhile_imp, ?_⟩
  exact List.rdropWhile_append_rtakeWhile.symm

/-- Whatever is stripped stands inside of the text it was taken from, with the two halves done one after the
other. -/
theorem padded_strip (cs : List Char) : Padded (strip cs) cs :=
  (padded_stripEnd _).trans (padded_dropWhile cs)

/-- Nothing is left to strip: what `strip` leaves begins and ends with a character that is no blank, if it has
characters at all. Dropping the blanks at the end does not bring a blank to the front, since a beginning of the
text is kept. -/
theorem tight_strip (cs : List Char) : Tight (strip cs) := by
  constructor
  · -- What is left starts like the text without its leading blanks.
    intro c first
    obtain ⟨rest, split⟩ := List.rdropWhile_prefix (p := isBlank) (cs.dropWhile isBlank)
    have head : (cs.dropWhile isBlank).head? = some c := by
      rw [← split, List.head?_append, show (List.rdropWhile isBlank _).head? = some c from first]
      rfl
    have stop := List.head?_dropWhile_not isBlank cs
    rwa [head] at stop
  · intro c last
    have stop := List.head?_dropWhile_not isBlank (cs.dropWhile isBlank).reverse
    rw [strip, stripEnd, List.getLast?_reverse] at last
    rwa [last] at stop

/-- **What `strip` leaves** of a text is the one text without blanks at its ends that has blanks around it
there. -/
theorem strip_eq_iff {s cs : List Char} : strip cs = s ↔ Padded s cs ∧ Tight s := by
  constructor
  · rintro rfl
    exact ⟨padded_strip cs, tight_strip cs⟩
  · rintro ⟨⟨w, w', blank, blank', rfl⟩, tight⟩
    cases s with
    | nil =>
      rw [List.nil_append, strip, List.dropWhile_eq_nil_iff.mpr (blank.append blank')]
      rfl
    | cons c s =>
      have start : ¬ isBlank c = true := by
        rw [tight.starts c rfl]
        exact Bool.false_ne_true
      have kept : stripEnd (c :: s) = c :: s := List.rdropWhile_eq_self_iff.mpr fun ne => by
        rw [tight.ends _ (List.getLast?_eq_some_getLast ne)]
        exact Bool.false_ne_true
      rw [strip, List.dropWhile_append_of_pos blank, List.cons_append, List.dropWhile_cons_of_neg start,
        ← List.cons_append, stripEnd, List.reverse_append, List.dropWhile_append_of_pos]
      · exact kept
      · exact fun d mem => blank' d (List.mem_reverse.mp mem)

/-- Blanks around a text make no difference to what is left of it. -/
theorem Padded.strip_eq {s cs : List Char} (padded : Padded s cs) : strip cs = strip s :=
  strip_eq_iff.mpr ⟨(padded_strip s).trans padded, tight_strip s⟩

/-- Stripping twice is stripping once. The readers strip whole texts and then parts of them, so texts often come
in stripped already. -/
@[simp] theorem strip_strip (cs : List Char) : strip (strip cs) = strip cs :=
  (padded_strip cs).strip_eq.symm

theorem strip_dropWhile (cs : List Char) : strip (cs.dropWhile isBlank) = strip cs :=
  (padded_dropWhile cs).strip_eq.symm

theorem strip_stripEnd (cs : List Char) : strip (stripEnd cs) = strip cs :=
  (padded_stripEnd cs).strip_eq.symm

/-- Nothing is left of a text exactly if it consists of blanks. Such a text has no tight text inside but the
empty one. -/
theorem strip_eq_nil_iff {cs : List Char} : strip cs = [] ↔ Padded [] cs :=
  strip_eq_iff.trans (and_iff_left ⟨nofun, nofun⟩)

/-! ## Around a character that is no blank -/

section Around

variable {c : Char} (solid : isBlank c = false) (t t' : List Char)
include solid

/-- Leading blanks end before a character that is no blank, so only the part in front of it is affected. -/
theorem dropWhile_append_cons :
    (t ++ c :: t').dropWhile isBlank = t.dropWhile isBlank ++ c :: t' := by
  induction t with
  | nil => simp [solid]
  | cons d t ih =>
    cases blank : isBlank d with
    | true => simp [blank, ih]
    | false => simp [blank]

/-- Blanks at the end begin after a character that is no blank, so only the part behind it is affected. This is
the statement before it, read backwards. -/
theorem stripEnd_append_cons : stripEnd (t ++ c :: t') = t ++ c :: stripEnd t' := by
  have reversed : (t ++ c :: t').reverse = t'.reverse ++ c :: t.reverse := by simp
  rw [stripEnd, reversed, dropWhile_append_cons solid, stripEnd]
  simp

/-- What is left before the character and what is left after it. -/
theorem strip_append_cons :
    strip (t ++ c :: t') = t.dropWhile isBlank ++ c :: stripEnd t' := by
  rw [strip, dropWhile_append_cons solid, stripEnd_append_cons solid]

end Around

/-- A text that ends with a character that is no blank has no blanks at its end to lose. -/
theorem stripEnd_concat {c : Char} (solid : isBlank c = false) (t : List Char) :
    stripEnd (t ++ [c]) = t ++ [c] :=
  stripEnd_append_cons solid t []

end ExactAlgebra.Text
