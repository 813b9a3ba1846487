import ExactAlgebra.Proofs.NumberText
import ExactAlgebra.Proofs.Stripping

/-!
# The written forms of numbers

What may be written for a number. With `W` for any row of blanks the forms are

    I := ['-'] digits                           an integer
    R := W I W | W I W '/' W I W                a fraction
    K := R | W | W '-' W                        a coefficient of the imaginary unit
    S := R | K 'i' | R '+' K 'i'                a number
    W ['+'] S W                                 a number with a plus in front, or not

where `digits` is a row of at least one of the ten ASCII digits. A coefficient that is left out is one, and
a bare minus is minus one. The terms of a fraction are taken as they are written, so a denominator may be
negative, or zero.

Blanks at the ends of a fraction or of a coefficient belong to it. So one of them may be replaced by any
other text of which the same is left without these blanks.

## Main definitions

* `WrittenFraction`: the terms of a fraction as they are written.
* `WritesInteger`, `WritesFraction`, `WritesCoefficient`, `WritesParts`: the forms `I`, `R`, `K` and `S`.
* `WritesNumber`: the written forms of numbers.
* `WritesZeroDenominator`: some denominator that is written is zero.

## Main statements

* `WritesFraction.congr`, `WritesCoefficient.dropWhile`: blanks at the ends.
* `WritesNumber.isNumeral_or_isBlank`: the characters of numbers.
* `WritesNumber.writesZeroDenominator`: the denominators of a number are written in it.
-/

namespace ExactAlgebra

open Text

/-- A fraction as it is written: the terms may have common factors, and either of them may be zero or
negative. -/
structure WrittenFraction where
  /-- The numerator. -/
  num : ℤ
  /-- The denominator. -/
  den : ℤ
  deriving DecidableEq

namespace WrittenFraction

/-- The value of the fraction, if its denominator is not zero. -/
def value (f : WrittenFraction) : ℚ := f.num / f.den

/-- The fraction as a number; there is none if its denominator is zero. -/
def number (f : WrittenFraction) : Except Error Rational := Rational.ofInts f.num f.den

/-- A written fraction with a proper denominator has the value zero only if a zero is written above the bar. -/
theorem value_eq_zero_iff {f : WrittenFraction} (nonzero : f.den ≠ 0) : f.value = 0 ↔ f.num = 0 := by
  rw [value, div_eq_zero_iff, or_iff_left (Int.cast_ne_zero.mpr nonzero), Int.cast_eq_zero]

/-- A zero below the bar is no error of the syntax: the text is written as it should be, and the number for it
is refused when it is made. -/
theorem number_of_den_eq_zero {f : WrittenFraction} (zero : f.den = 0) :
    f.number = .error (.arithmetic .zeroDenominator) := by
  rw [number, Rational.ofInts, Rational.ofInts?, dif_pos zero, orFail_none]

/-- Every other written fraction is made a number, with the value that it has as a quotient, whatever its common
factors and its signs are. -/
theorem exists_number {f : WrittenFraction} (nonzero : f.den ≠ 0) :
    ∃ a, f.number = .ok a ∧ a.toRat = f.value := by
  obtain ⟨a, defined, value⟩ := Rational.ofInts?_eq_some f.num nonzero
  exact ⟨a, orFail_eq_ok.mpr defined, value⟩

/-- An integer is written as a fraction over one, and there is nothing to reduce in it. -/
theorem number_ofInt (n : ℤ) : number ⟨n, 1⟩ = .ok (Rational.ofInt n) := by
  obtain ⟨a, defined, value⟩ := exists_number (f := ⟨n, 1⟩) one_ne_zero
  have same : a = Rational.ofInt n := Rational.toRat_injective (by simp [value, WrittenFraction.value])
  rw [defined, same]

end WrittenFraction

/-! ## The forms -/

/-- The text is an integer: digits after an optional minus. -/
inductive WritesInteger : List Char → ℤ → Prop
  | natural {ds : List Char} : ds ≠ [] → (∀ d ∈ ds, d.isDigit = true) →
      WritesInteger ds (Nat.ofDigitChars 10 ds 0)
  | minus {ds : List Char} : ds ≠ [] → (∀ d ∈ ds, d.isDigit = true) →
      WritesInteger ('-' :: ds) (-Nat.ofDigitChars 10 ds 0)

/-- The text is a fraction: an integer or two with a bar between them, all with blanks around them. -/
inductive WritesFraction : List Char → WrittenFraction → Prop
  | integer {s t : List Char} {n : ℤ} : WritesInteger s n → Padded s t → WritesFraction t ⟨n, 1⟩
  | quotient {s t s' t' : List Char} {n d : ℤ} : WritesInteger s n → Padded s t →
      WritesInteger s' d → Padded s' t' → WritesFraction (t ++ fractionBar :: t') ⟨n, d⟩

/-- The text is a coefficient of the imaginary unit, which may be left out or be a bare minus. -/
inductive WritesCoefficient : List Char → WrittenFraction → Prop
  | fraction {cs : List Char} {f : WrittenFraction} : WritesFraction cs f → WritesCoefficient cs f
  | absent {cs : List Char} : Padded [] cs → WritesCoefficient cs ⟨1, 1⟩
  | minus {cs : List Char} : Padded ['-'] cs → WritesCoefficient cs ⟨-1, 1⟩

/-- The text is a real part, an imaginary part, or both. -/
inductive WritesParts : List Char → WrittenFraction → WrittenFraction → Prop
  | real {cs : List Char} {f : WrittenFraction} : WritesFraction cs f → WritesParts cs f ⟨0, 1⟩
  | imaginary {cs : List Char} {f : WrittenFraction} : WritesCoefficient cs f →
      WritesParts (cs ++ [imaginaryUnit]) ⟨0, 1⟩ f
  | both {cs cs' : List Char} {f f' : WrittenFraction} : WritesFraction cs f → WritesCoefficient cs' f' →
      WritesParts (cs ++ complexPlus :: (cs' ++ [imaginaryUnit])) f f'

/-- The text is a number with blanks around it, and with a plus in front or not. -/
def WritesNumber (cs : List Char) (re im : WrittenFraction) : Prop :=
  ∃ s, WritesParts s re im ∧ (Padded s cs ∨ Padded (complexPlus :: s) cs)

/-- Somewhere in the text a denominator is written that is zero: after a bar and blanks an integer, taken as
long as it goes. -/
def WritesZeroDenominator (cs : List Char) : Prop :=
  ∃ before w ds after, cs = before ++ fractionBar :: (w ++ (ds ++ after)) ∧ Blank w ∧ WritesInteger ds 0 ∧
    ∀ c ∈ after.head?, c.isDigit = false

/-! ## Integers -/

/-- No blank is a digit. Blanks are characters of many kinds, and digits are ten characters of a small range in
which no blank lies. -/
theorem not_isDigit_of_isBlank {c : Char} (blank : isBlank c = true) : c.isDigit = false := by
  by_contra digit
  rw [Bool.not_eq_false] at digit
  have numeral : isNumeral c = true := by simp [isNumeral, digit]
  rw [isBlank_of_printable (toNat_of_isNumeral numeral)] at blank
  cases blank

namespace WritesInteger

variable {s t : List Char} {n : ℤ}

/-- An integer is written with digits and the minus alone. This is what the splitting at bars, pluses and
separators rests on: none of these is ever found inside. -/
theorem of_mem (written : WritesInteger s n) {c : Char} (mem : c ∈ s) : c.isDigit = true ∨ c = '-' := by
  cases written with
  | natural _ digits => exact Or.inl (digits c mem)
  | minus _ digits => exact (List.mem_cons.mp mem).symm.imp_left (digits c)

theorem isNumeral_of_mem (written : WritesInteger s n) {c : Char} (mem : c ∈ s) : isNumeral c = true := by
  rcases written.of_mem mem with digit | rfl
  · simp [isNumeral, digit]
  · rfl

/-- At least one digit is written in an integer, so that a bare minus is none, and neither is the empty text. -/
theorem exists_digit (written : WritesInteger s n) : ∃ d ∈ s, d.isDigit = true := by
  cases written with
  | natural ne digits => exact ⟨s.head ne, List.head_mem ne, digits _ (List.head_mem ne)⟩
  | minus ne digits =>
    exact ⟨_, List.mem_cons_of_mem _ (List.head_mem ne), digits _ (List.head_mem ne)⟩

/-- An integer has no blanks at its ends, since it begins with a digit or the minus and ends with a digit. So it
can be found again between blanks. -/
theorem tight (written : WritesInteger s n) : Tight s := by
  have solid : ∀ c ∈ s, isBlank c = false := fun c mem =>
    isBlank_of_printable (toNat_of_isNumeral (written.isNumeral_of_mem mem))
  exact ⟨fun c first => solid c (List.mem_of_mem_head? first),
    fun c last => solid c (List.mem_of_mem_getLast? last)⟩

/-- Blanks around an integer are just what `strip` takes away. -/
theorem padded_iff (written : WritesInteger s n) : Padded s t ↔ strip t = s :=
  (strip_eq_iff.trans (and_iff_left written.tight)).symm

end WritesInteger

/-! ## Fractions -/

namespace WritesFraction

variable {cs cs' : List Char} {f : WrittenFraction}

/-- A fraction is written with digits, minuses, bars and blanks. The other marks that occur in numbers, the plus
and the imaginary unit, are not among these. -/
theorem of_mem (written : WritesFraction cs f) {c : Char} (mem : c ∈ cs) :
    c.isDigit = true ∨ c = '-' ∨ c = fractionBar ∨ isBlank c = true := by
  have term {s t : List Char} {n : ℤ} (written : WritesInteger s n) (padded : Padded s t) (mem : c ∈ t) :
      c.isDigit = true ∨ c = '-' ∨ c = fractionBar ∨ isBlank c = true := by
    rcases padded.of_mem mem with inner | blank
    · exact (written.of_mem inner).imp_right Or.inl
    · exact Or.inr (Or.inr (Or.inr blank))
  cases written with
  | integer written padded => exact term written padded mem
  | quotient written padded written' padded' =>
    rcases List.mem_append.mp mem with num | rest
    · exact term written padded num
    · rcases List.mem_cons.mp rest with bar | den
      · exact Or.inr (Or.inr (Or.inl bar))
      · exact term written' padded' den

/-- There is a digit in each fraction. A coefficient without one is not a fraction, therefore, but left out or a
bare minus. -/
theorem exists_digit (written : WritesFraction cs f) : ∃ d ∈ cs, d.isDigit = true := by
  cases written with
  | integer written padded =>
    obtain ⟨d, mem, digit⟩ := written.exists_digit
    exact ⟨d, padded.mem mem, digit⟩
  | quotient written padded =>
    obtain ⟨d, mem, digit⟩ := written.exists_digit
    exact ⟨d, List.mem_append_left _ (padded.mem mem), digit⟩

/-- The plus and the imaginary unit are not in a fraction. -/
theorem not_mem (written : WritesFraction cs f) : complexPlus ∉ cs ∧ imaginaryUnit ∉ cs := by
  constructor
  · intro mem
    have other := written.of_mem mem
    revert other
    decide
  · intro mem
    have other := written.of_mem mem
    revert other
    decide

theorem padded (written : WritesFraction cs f) (padded : Padded cs cs') : WritesFraction cs' f := by
  cases written with
  | integer written inner => exact .integer written (inner.trans padded)
  | quotient written inner written' inner' =>
    obtain ⟨w, w', blank, blank', rfl⟩ := padded
    have apart := WritesFraction.quotient written (inner.append_left blank) written'
      (inner'.append_right blank')
    simpa using apart

/-- Without the blanks at its ends a fraction is the same fraction. -/
theorem strip (written : WritesFraction cs f) : WritesFraction (strip cs) f := by
  cases written with
  | integer written padded =>
    rw [written.padded_iff.mp padded]
    exact .integer written (Padded.refl _)
  | @quotient s t s' t' n d written padded written' padded' =>
    rw [strip_append_cons rfl]
    refine .quotient written (written.padded_iff.mpr ?_) written' (written'.padded_iff.mpr ?_)
    · rw [strip_dropWhile, written.padded_iff.mp padded]
    · rw [strip_stripEnd, written'.padded_iff.mp padded']

/-- Blanks at the ends make no difference to a fraction. -/
theorem congr (written : WritesFraction cs f) (same : Text.strip cs' = Text.strip cs) :
    WritesFraction cs' f :=
  (same ▸ written.strip).padded (padded_strip cs')

end WritesFraction

/-! ## Coefficients -/

namespace WritesCoefficient

variable {cs : List Char} {f : WrittenFraction}

theorem of_mem (written : WritesCoefficient cs f) {c : Char} (mem : c ∈ cs) :
    c.isDigit = true ∨ c = '-' ∨ c = fractionBar ∨ isBlank c = true := by
  cases written with
  | fraction written => exact written.of_mem mem
  | absent padded =>
    rcases padded.of_mem mem with none | blank
    · cases none
    · exact Or.inr (Or.inr (Or.inr blank))
  | minus padded =>
    rcases padded.of_mem mem with minus | blank
    · exact Or.inr (Or.inl (List.mem_singleton.mp minus))
    · exact Or.inr (Or.inr (Or.inr blank))

/-- No plus stands in a coefficient. So the plus of a number with two parts is the only one after its start, and
the text can be split there. -/
theorem plus_not_mem (written : WritesCoefficient cs f) : complexPlus ∉ cs := by
  intro mem
  have other := written.of_mem mem
  revert other
  decide

/-- Neither does one stand in an imaginary part, which is a coefficient with the unit after it. -/
theorem plus_not_mem_concat (written : WritesCoefficient cs f) : complexPlus ∉ cs ++ [imaginaryUnit] := by
  intro mem
  rcases List.mem_append.mp mem with part | unit
  · exact written.plus_not_mem part
  · cases List.mem_singleton.mp unit

/-- Without the blanks in front of it a coefficient is the same coefficient. -/
theorem dropWhile (written : WritesCoefficient cs f) : WritesCoefficient (cs.dropWhile isBlank) f := by
  cases written with
  | fraction written => exact .fraction (written.congr (strip_dropWhile cs))
  | absent padded =>
    rw [← strip_eq_nil_iff, ← strip_dropWhile, strip_eq_nil_iff] at padded
    exact .absent padded
  | minus padded =>
    have minus : strip cs = ['-'] := strip_eq_iff.mpr ⟨padded, .singleton rfl⟩
    rw [← strip_dropWhile, strip_eq_iff] at minus
    exact .minus minus.1

end WritesCoefficient

/-! ## Numbers -/

/-- Blanks in front belong to the first part of a number. -/
theorem WritesParts.dropWhile {cs : List Char} {re im : WrittenFraction} (written : WritesParts cs re im) :
    WritesParts (cs.dropWhile isBlank) re im := by
  cases written with
  | real written => exact .real (written.congr (strip_dropWhile cs))
  | imaginary written =>
    rw [dropWhile_append_cons rfl]
    exact .imaginary written.dropWhile
  | @both r _ _ _ written written' =>
    rw [dropWhile_append_cons rfl]
    exact .both (written.congr (strip_dropWhile r)) written'

/-- The characters of fractions are among those that a number may consist of when matrix text is looked
through. -/
theorem isNumeral_or_isBlank {c : Char}
    (h : c.isDigit = true ∨ c = '-' ∨ c = fractionBar ∨ isBlank c = true) :
    isNumeral c = true ∨ isBlank c = true := by
  rcases h with digit | rfl | rfl | blank
  · simp [isNumeral, digit]
  · exact Or.inl rfl
  · exact Or.inl rfl
  · exact Or.inr blank

/-- All characters of the parts of a number are characters of numbers, or blanks. There is a case for each way
to write the parts. -/
theorem WritesParts.of_mem {cs : List Char} {re im : WrittenFraction} (written : WritesParts cs re im)
    {c : Char} (mem : c ∈ cs) : isNumeral c = true ∨ isBlank c = true := by
  have coefficient {cs : List Char} {f : WrittenFraction} (written : WritesCoefficient cs f)
      (mem : c ∈ cs ++ [imaginaryUnit]) : isNumeral c = true ∨ isBlank c = true := by
    rcases List.mem_append.mp mem with part | unit
    · exact isNumeral_or_isBlank (written.of_mem part)
    · rw [List.mem_singleton.mp unit]
      exact Or.inl rfl
  cases written with
  | real written => exact isNumeral_or_isBlank (written.of_mem mem)
  | imaginary written => exact coefficient written mem
  | both written written' =>
    rcases List.mem_append.mp mem with part | rest
    · exact isNumeral_or_isBlank (written.of_mem part)
    · rcases List.mem_cons.mp rest with plus | part
      · rw [plus]
        exact Or.inl rfl
      · exact coefficient written' part

/-- **The characters of numbers** are those of their texts, and blanks. -/
theorem WritesNumber.isNumeral_or_isBlank {cs : List Char} {re im : WrittenFraction}
    (written : WritesNumber cs re im) {c : Char} (mem : c ∈ cs) :
    isNumeral c = true ∨ isBlank c = true := by
  obtain ⟨s, parts, padded | padded⟩ := written
  · rcases padded.of_mem mem with inner | blank
    · exact parts.of_mem inner
    · exact Or.inr blank
  · rcases padded.of_mem mem with inner | blank
    · rcases List.mem_cons.mp inner with plus | inner
      · rw [plus]
        exact Or.inl rfl
      · exact parts.of_mem inner
    · exact Or.inr blank

/-! ## Denominators -/

/-- A denominator that is zero is written in its fraction, whatever stands before the fraction, and unless a
digit follows. -/
theorem WritesFraction.writesZeroDenominator {cs : List Char} {f : WrittenFraction}
    (written : WritesFraction cs f) (zero : f.den = 0) (before : List Char) {after : List Char}
    (stop : ∀ c ∈ after.head?, c.isDigit = false) : WritesZeroDenominator (before ++ (cs ++ after)) := by
  cases written with
  | integer => cases zero
  | @quotient s t s' t' n d _ _ written' padded' =>
    obtain ⟨w, w', blank, blank', rfl⟩ := padded'
    obtain rfl : d = 0 := zero
    refine ⟨before ++ t, w, s', w' ++ after, by simp, blank, written', ?_⟩
    intro c first
    cases w' with
    | nil => exact stop c first
    | cons b w' =>
      obtain rfl : b = c := Option.some.inj first
      exact not_isDigit_of_isBlank (blank' b List.mem_cons_self)

/-- Of the coefficients only the fractions have a denominator that could be zero; the others count as one over
one, up to the sign. -/
theorem WritesCoefficient.writesZeroDenominator {cs : List Char} {f : WrittenFraction}
    (written : WritesCoefficient cs f) (zero : f.den = 0) (before : List Char) {after : List Char}
    (stop : ∀ c ∈ after.head?, c.isDigit = false) : WritesZeroDenominator (before ++ (cs ++ after)) := by
  cases written with
  | fraction written => exact written.writesZeroDenominator zero before stop
  | absent => cases zero
  | minus => cases zero

theorem not_isDigit_of_mem_head? {w : List Char} (blank : Blank w) :
    ∀ c ∈ w.head?, c.isDigit = false :=
  fun c first => not_isDigit_of_isBlank (blank c (List.mem_of_mem_head? first))

/-- In a number with two parts either of the denominators may be the one that is zero. What follows it is the
plus, the unit or a blank, and none of these would make the integer longer. -/
theorem WritesParts.writesZeroDenominator {cs : List Char} {re im : WrittenFraction}
    (written : WritesParts cs re im) (zero : re.den = 0 ∨ im.den = 0) (before : List Char) {w : List Char}
    (blank : Blank w) : WritesZeroDenominator (before ++ (cs ++ w)) := by
  have next (d : Char) (rest : List Char) (other : d.isDigit = false) :
      ∀ c ∈ (d :: rest).head?, c.isDigit = false := by
    intro c first
    cases first
    exact other
  cases written with
  | real written =>
    have zero := zero.resolve_right one_ne_zero
    exact written.writesZeroDenominator zero before (not_isDigit_of_mem_head? blank)
  | @imaginary cs f written =>
    have zero := zero.resolve_left one_ne_zero
    have found := written.writesZeroDenominator zero before (next imaginaryUnit w rfl)
    simpa using found
  | @both cs cs' f f' written written' =>
    rcases zero with zero | zero
    · have found := written.writesZeroDenominator zero before
        (next complexPlus (cs' ++ imaginaryUnit :: w) rfl)
      simpa using found
    · have found := written'.writesZeroDenominator zero (before ++ (cs ++ [complexPlus]))
        (next imaginaryUnit w rfl)
      simpa using found

/-- **The denominators of a number** are written in it. -/
theorem WritesNumber.writesZeroDenominator {cs : List Char} {re im : WrittenFraction}
    (written : WritesNumber cs re im) (zero : re.den = 0 ∨ im.den = 0) : WritesZeroDenominator cs := by
  obtain ⟨s, parts, ⟨w, w', -, blank, rfl⟩ | ⟨w, w', -, blank, rfl⟩⟩ := written
  · exact parts.writesZeroDenominator zero w blank
  · have found := parts.writesZeroDenominator zero (w ++ [complexPlus]) blank
    simpa using found

end ExactAlgebra
