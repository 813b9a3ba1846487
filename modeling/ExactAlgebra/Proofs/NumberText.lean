import ExactAlgebra.Number.Reader
import ExactAlgebra.Proofs.QuantityParts

/-!
# Numbers read back from their texts

What is written for a number is read back as that number, whatever the size and the signs of its terms.
The text of a complex number is the text of its value: one without an imaginary part is written, and so
read, as a rational number. Two quantities therefore have one text exactly when they have one value.

Only a few characters occur in the text of a number. That none of them is a blank or a delimiter is what
texts of several numbers rest on.

## Main definitions

* `isNumeral`: the characters of the texts of numbers.

## Main statements

* `Rational.read_text`, `Gaussian.read_text`, `Quantity.read_text`: numbers read back.
* `Quantity.isNumeral_of_mem_text`: the characters of a text.
* `Quantity.text_eq_iff`: the text tells the value, and nothing but the value.
-/

namespace ExactAlgebra

open Text

/-- A character of the text of a number. -/
def isNumeral (c : Char) : Bool :=
  c.isDigit || c == '-' || c == fractionBar || c == complexPlus || c == imaginaryUnit

/-- The characters of numbers are printable ASCII characters after the space. -/
theorem toNat_of_isNumeral {c : Char} (h : isNumeral c = true) : 0x20 < c.toNat ∧ c.toNat < 0x7F := by
  simp only [isNumeral, Bool.or_eq_true, beq_iff_eq, or_assoc] at h
  rcases h with digit | rfl | rfl | rfl | rfl
  · obtain ⟨least, greatest⟩ := Char.isDigit_iff_toNat.mp digit
    exact ⟨lt_of_lt_of_le (by decide) least, lt_of_le_of_lt greatest (by decide)⟩
  all_goals decide

/-- Between the space and the delete character nothing is blank. -/
theorem isBlank_of_printable {c : Char} (h : 0x20 < c.toNat ∧ c.toNat < 0x7F) : isBlank c = false := by
  simp only [isBlank, Bool.or_eq_false_iff, Bool.and_eq_false_iff, decide_eq_false_iff_not,
    beq_eq_false_iff_ne]
  omega

theorem strip_of_forall {cs : List Char} (h : ∀ c ∈ cs, isBlank c = false) : strip cs = cs :=
  strip_eq_self (fun c first => h c (List.mem_of_mem_head? first))
    fun c last => h c (List.mem_of_mem_getLast? last)

/-- Texts of numbers begin and end with characters that are no blanks, so a reader that strips them first leaves
them alone. -/
theorem strip_of_numerals {cs : List Char} (h : ∀ c ∈ cs, isNumeral c = true) : strip cs = cs :=
  strip_of_forall fun c mem => isBlank_of_printable (toNat_of_isNumeral (h c mem))

/-! ## Integers -/

theorem isDigit_of_mem_decimal {n : ℕ} {c : Char} (h : c ∈ Nat.toDigits 10 n) : c.isDigit = true :=
  Nat.isDigit_of_mem_toDigits (by decide) (by decide) h

theorem ne_of_isDigit {c d : Char} (h : c.isDigit = true) (other : d.isDigit = false) : c ≠ d := by
  rintro rfl
  rw [h] at other
  cases other

/-- The text of an integer has digits in it, and a minus if the integer is negative. No plus is ever written. -/
theorem of_mem_integerText {n : ℤ} {c : Char} (h : c ∈ integerText n) :
    c.isDigit = true ∨ c = '-' := by
  unfold integerText at h
  split at h
  · exact (List.mem_cons.mp h).symm.imp_left isDigit_of_mem_decimal
  · exact Or.inl (isDigit_of_mem_decimal h)

theorem isNumeral_of_mem_integerText {n : ℤ} {c : Char} (h : c ∈ integerText n) :
    isNumeral c = true := by
  rcases of_mem_integerText h with digit | rfl
  · simp [isNumeral, digit]
  · rfl

/-- A character that is neither a digit nor the minus is not in the text of an integer. -/
theorem not_mem_integerText {n : ℤ} {c : Char} (digit : c.isDigit = false) (minus : c ≠ '-') :
    c ∉ integerText n := by
  intro mem
  rcases of_mem_integerText mem with h | h
  · exact ne_of_isDigit h digit rfl
  · exact minus h

/-- **Decimal numerals are read back**: the digits of a natural number have the number as their value, whatever
its size. -/
theorem readNatural?_decimal (n : ℕ) : readNatural? (Nat.toDigits 10 n) = some n := by
  have nonempty : (Nat.toDigits 10 n).isEmpty = false :=
    List.isEmpty_eq_false_iff.mpr Nat.toDigits_ne_nil
  have digits : (Nat.toDigits 10 n).all Char.isDigit = true :=
    List.all_eq_true.mpr fun c mem => isDigit_of_mem_decimal mem
  rw [readNatural?, nonempty, digits, Nat.ofDigitChars_ten_toDigits]
  rfl

theorem readInteger?_decimal (n : ℕ) : readInteger? (Nat.toDigits 10 n) = some (n : ℤ) := by
  unfold readInteger?
  split
  case h_1 digits =>
    exact absurd rfl (ne_of_isDigit (isDigit_of_mem_decimal (digits ▸ List.mem_cons_self)) (by decide))
  case h_2 digits =>
    exact absurd rfl (ne_of_isDigit (isDigit_of_mem_decimal (digits ▸ List.mem_cons_self)) (by decide))
  case h_3 =>
    rw [readNatural?_decimal]
    rfl

/-- An integer is read back with its sign. If it is negative, its size follows the minus; otherwise there is no
sign to look for. -/
theorem readInteger?_integerText (n : ℤ) : readInteger? (integerText n) = some n := by
  unfold integerText
  split
  case isTrue negative =>
    have value : -(n.natAbs : ℤ) = n := by omega
    rw [readInteger?, readNatural?_decimal]
    exact congrArg some value
  case isFalse nonneg =>
    have value : (n.natAbs : ℤ) = n := by omega
    rw [readInteger?_decimal, value]

/-- A term of a fraction is read back from the text of the integer. The whole text is only needed for the error
that does not occur. -/
theorem readTerm_integerText (whole : List Char) (n : ℤ) :
    readTerm whole (integerText n) = .ok n := by
  rw [readTerm, strip_of_numerals fun c mem => isNumeral_of_mem_integerText mem,
    readInteger?_integerText, orFail_some]

theorem readTerm_decimal (whole : List Char) (n : ℕ) :
    readTerm whole (Nat.toDigits 10 n) = .ok (n : ℤ) := by
  have numerals : ∀ c ∈ Nat.toDigits 10 n, isNumeral c = true := fun c mem => by
    simp [isNumeral, isDigit_of_mem_decimal mem]
  rw [readTerm, strip_of_numerals numerals, readInteger?_decimal, orFail_some]

/-! ## Rational numbers -/

namespace Rational

/-- The text of a rational number has digits, a minus at most and a bar at most; an integer is written without
the bar. -/
theorem of_mem_text {a : Rational} {c : Char} (h : c ∈ a.text) :
    c.isDigit = true ∨ c = '-' ∨ c = fractionBar := by
  unfold text at h
  split at h
  · exact (of_mem_integerText h).imp_right Or.inl
  · rcases List.mem_append.mp h with num | rest
    · exact (of_mem_integerText num).imp_right Or.inl
    · rcases List.mem_cons.mp rest with bar | den
      · exact Or.inr (Or.inr bar)
      · exact Or.inl (isDigit_of_mem_decimal den)

theorem isNumeral_of_mem_text {a : Rational} {c : Char} (h : c ∈ a.text) : isNumeral c = true := by
  rcases of_mem_text h with digit | rfl | rfl
  · simp [isNumeral, digit]
  all_goals rfl

/-- Neither sign nor letter of complex numbers occurs in the text of a rational number. -/
theorem not_mem_text (a : Rational) : complexPlus ∉ a.text ∧ imaginaryUnit ∉ a.text := by
  constructor
  all_goals
    intro mem
    rcases of_mem_text mem with digit | minus | bar
    · cases digit
    · cases minus
    · cases bar

/-- No number is written as the empty text, which would be lost between two delimiters. -/
theorem text_ne_nil (a : Rational) : a.text ≠ [] := by
  have integer : integerText a.num ≠ [] := by
    unfold integerText
    split
    · exact List.cons_ne_nil _ _
    · exact Nat.toDigits_ne_nil
  unfold text
  split
  · exact integer
  · exact List.append_ne_nil_of_left_ne_nil integer _

/-- The terms of a fraction in lowest terms are those of the number. -/
theorem ofInts_terms (a : Rational) : ofInts a.num a.den = .ok a := by
  have nonzero : (a.den : ℤ) ≠ 0 := Int.natCast_ne_zero.mpr a.den_pos.ne'
  obtain ⟨b, defined, value⟩ := ofInts?_eq_some a.num nonzero
  have same : b = a := toRat_injective (by rw [value, toRat_eq_div, Int.cast_natCast])
  rw [ofInts, defined, same, orFail_some]

/-- **A rational number is read back from its text.** An integer is written without a bar, and a fraction in
lowest terms, to which there is nothing to reduce when it is read. -/
theorem read_text (a : Rational) : read a.text = .ok a := by
  have bar : fractionBar ∉ integerText a.num := not_mem_integerText rfl (by decide)
  unfold read
  rw [strip_of_numerals fun c mem => isNumeral_of_mem_text mem]
  by_cases integer : a.den = 1
  · have text : a.text = integerText a.num := if_pos integer
    have value : ofInt a.num = a := ext rfl integer.symm
    rw [text, List.splitOn_eq_singleton bar]
    show (do return ofInt (← readTerm (integerText a.num) (integerText a.num))) = Except.ok a
    rw [readTerm_integerText]
    exact congrArg Except.ok value
  · have text : a.text = integerText a.num ++ fractionBar :: Nat.toDigits 10 a.den := if_neg integer
    have bar' : fractionBar ∉ Nat.toDigits 10 a.den := fun mem =>
      ne_of_isDigit (isDigit_of_mem_decimal mem) rfl rfl
    have parts : a.text.splitOn fractionBar = [integerText a.num, Nat.toDigits 10 a.den] := by
      rw [text, List.splitOn_append_cons_self_of_not_mem bar, List.splitOn_eq_singleton bar']
    rw [parts]
    show (do
      let n ← readTerm a.text (integerText a.num)
      let d ← readTerm a.text (Nat.toDigits 10 a.den)
      ofInts n d) = Except.ok a
    rw [readTerm_integerText, readTerm_decimal]
    exact ofInts_terms a

/-- A bare minus is no number, so it is not the text of one. -/
theorem text_ne_minus (a : Rational) : a.text ≠ ['-'] := by
  intro minus
  have read := read_text a
  rw [minus] at read
  cases read

end Rational

/-! ## Complex numbers -/

namespace Gaussian

/-- The three forms: a real number, a multiple of the unit, and a sum of both. -/
theorem text_of_real {z : Gaussian} (real : z.im = 0) : z.text = z.re.text :=
  if_pos (Rational.isZero_iff.mpr real)

/-- A number on the imaginary axis is written by its imaginary part alone. The part is written in full, even if
it is one or minus one. -/
theorem text_of_imaginary {z : Gaussian} (im : z.im ≠ 0) (re : z.re = 0) :
    z.text = z.im.text ++ [imaginaryUnit] := by
  rw [text, if_neg (mt Rational.isZero_iff.mp im), if_pos (Rational.isZero_iff.mpr re)]

/-- If both parts differ from zero, they are written with a plus between them, and so an imaginary part that is
negative has its minus after the plus. -/
theorem text_of_both {z : Gaussian} (im : z.im ≠ 0) (re : z.re ≠ 0) :
    z.text = z.re.text ++ complexPlus :: (z.im.text ++ [imaginaryUnit]) := by
  rw [text, if_neg (mt Rational.isZero_iff.mp im), if_neg (mt Rational.isZero_iff.mp re)]

/-- The characters of complex numbers are those of rational ones, the plus and the imaginary unit; all of these
are characters of numbers. -/
theorem isNumeral_of_mem_text {z : Gaussian} {c : Char} (h : c ∈ z.text) : isNumeral c = true := by
  have coefficient : c ∈ z.im.text ++ [imaginaryUnit] → isNumeral c = true := by
    intro mem
    rcases List.mem_append.mp mem with im | unit
    · exact Rational.isNumeral_of_mem_text im
    · rw [List.mem_singleton.mp unit]
      rfl
  by_cases im : z.im = 0
  · rw [text_of_real im] at h
    exact Rational.isNumeral_of_mem_text h
  · by_cases re : z.re = 0
    · rw [text_of_imaginary im re] at h
      exact coefficient h
    · rw [text_of_both im re] at h
      rcases List.mem_append.mp h with real | rest
      · exact Rational.isNumeral_of_mem_text real
      · rcases List.mem_cons.mp rest with plus | rest
        · rw [plus]
          rfl
        · exact coefficient rest

/-- The text of a complex number is not empty in any of the three cases. -/
theorem text_ne_nil (z : Gaussian) : z.text ≠ [] := by
  unfold text
  split
  · exact z.re.text_ne_nil
  · split
    · exact List.append_ne_nil_of_left_ne_nil z.im.text_ne_nil _
    · exact List.append_ne_nil_of_left_ne_nil z.re.text_ne_nil _

theorem dropPlus_text_append (a : Rational) (rest : List Char) :
    dropPlus (a.text ++ rest) = a.text ++ rest := by
  unfold dropPlus
  split
  case h_1 cs plus =>
    obtain ⟨c, cs', text⟩ := List.exists_cons_of_ne_nil a.text_ne_nil
    rw [text, List.cons_append, List.cons.injEq] at plus
    have first : '+' ∈ a.text := by
      rw [text, plus.1]
      exact List.mem_cons_self
    exact absurd first a.not_mem_text.1
  case h_2 => rfl

/-- A coefficient that is written in full is read back as the rational number that it is. It is never left out
in a text that was written here. -/
theorem readCoefficient_text (a : Rational) :
    readCoefficient (a.text ++ [imaginaryUnit]) = .ok a := by
  have numerals : ∀ c ∈ a.text ++ [imaginaryUnit], isNumeral c = true := by
    intro c mem
    rcases List.mem_append.mp mem with digits | unit
    · exact Rational.isNumeral_of_mem_text digits
    · rw [List.mem_singleton.mp unit]
      rfl
  have coefficient : strip (strip (a.text ++ [imaginaryUnit])).dropLast = a.text := by
    rw [strip_of_numerals numerals, List.dropLast_concat,
      strip_of_numerals fun c mem => Rational.isNumeral_of_mem_text mem]
  unfold readCoefficient
  rw [coefficient]
  split
  case h_1 nil => exact absurd nil a.text_ne_nil
  case h_2 plus => exact absurd (plus ▸ List.mem_singleton_self _) a.not_mem_text.1
  case h_3 minus => exact absurd minus a.text_ne_minus
  case h_4 => exact a.read_text

theorem endsWithUnit_concat (cs : List Char) : endsWithUnit (cs ++ [imaginaryUnit]) = true := by
  rw [endsWithUnit, List.getLast?_concat]
  rfl

/-- **A complex number is read back from its text.** Which of its parts are zero decides about the three ways in
which it is written, and the reader tells these apart by the unit at the end and the plus. -/
theorem read_text (z : Gaussian) : read z.text = .ok z := by
  unfold read
  rw [strip_of_numerals fun c mem => isNumeral_of_mem_text mem]
  by_cases im : z.im = 0
  · have dropped : dropPlus z.text = z.re.text := by
      rw [text_of_real im]
      simpa using dropPlus_text_append z.re []
    have noUnit : endsWithUnit z.re.text = false := by
      refine beq_eq_false_iff_ne.mpr fun last => z.re.not_mem_text.2 ?_
      exact List.mem_of_getLast? last
    simp only [dropped, List.splitOn_eq_singleton z.re.not_mem_text.1, noUnit]
    show (do return Gaussian.mk (← Rational.read z.re.text) 0) = Except.ok z
    rw [Rational.read_text]
    exact congrArg Except.ok (ext rfl im.symm)
  · have unitText : complexPlus ∉ z.im.text ++ [imaginaryUnit] := by
      intro mem
      rcases List.mem_append.mp mem with digits | unit
      · exact z.im.not_mem_text.1 digits
      · cases List.mem_singleton.mp unit
    by_cases re : z.re = 0
    · have dropped : dropPlus z.text = z.im.text ++ [imaginaryUnit] := by
        rw [text_of_imaginary im re, dropPlus_text_append]
      simp only [dropped, List.splitOn_eq_singleton unitText, endsWithUnit_concat]
      show (do return Gaussian.mk 0 (← readCoefficient (z.im.text ++ [imaginaryUnit]))) = Except.ok z
      rw [readCoefficient_text]
      exact congrArg Except.ok (ext re.symm rfl)
    · have dropped : dropPlus z.text = z.re.text ++ complexPlus :: (z.im.text ++ [imaginaryUnit]) := by
        rw [text_of_both im re, dropPlus_text_append]
      have numerals : ∀ c ∈ z.im.text ++ [imaginaryUnit], isNumeral c = true := fun c mem =>
        isNumeral_of_mem_text (by
          rw [text_of_both im re]
          exact List.mem_append_right _ (List.mem_cons_of_mem _ mem))
      simp only [dropped, List.splitOn_append_cons_self_of_not_mem z.re.not_mem_text.1,
        List.splitOn_eq_singleton unitText, strip_of_numerals numerals, endsWithUnit_concat]
      show (do
        let re ← Rational.read z.re.text
        let im ← readCoefficient (z.im.text ++ [imaginaryUnit])
        return Gaussian.mk re im) = Except.ok z
      rw [Rational.read_text, readCoefficient_text]
      rfl

end Gaussian

/-! ## Quantities -/

namespace Quantity

/-- The text shows the value alone. -/
theorem text_eq_toGaussian (q : Quantity) : q.text = q.toGaussian.text := by
  cases q with
  | rational a => exact (Gaussian.text_of_real (z := .ofRational a) rfl).symm
  | complex z => rfl

/-- A quantity that was made complex is brought back to what it would have been brought to before, so the way
over complex numbers loses nothing but the kind. -/
theorem demote_toGaussian (q : Quantity) : demote (complex q.toGaussian) = q.demote := by
  cases q with
  | rational a => rfl
  | complex z => rfl

/-- **A quantity is read back from its text**, as a rational number if it is real. -/
theorem read_text (q : Quantity) : read q.text = .ok q.demote := by
  rw [read, text_eq_toGaussian, Gaussian.read_text]
  exact congrArg Except.ok q.demote_toGaussian

/-- The characters of the text of any quantity are characters of numbers. In particular there is no delimiter of
matrices or records in it. -/
theorem isNumeral_of_mem_text {q : Quantity} {c : Char} (h : c ∈ q.text) : isNumeral c = true := by
  rw [text_eq_toGaussian] at h
  exact Gaussian.isNumeral_of_mem_text h

theorem text_ne_nil (q : Quantity) : q.text ≠ [] := by
  rw [text_eq_toGaussian]
  exact q.toGaussian.text_ne_nil

/-- A real quantity is brought to the rational kind, any other is left alone. -/
theorem demote_cases (q : Quantity) :
    (q.isReal = true → ∃ a, q.demote = rational a) ∧ (q.isReal = false → q.demote = q) := by
  cases q with
  | rational a => exact ⟨fun _ => ⟨a, rfl⟩, nofun⟩
  | complex z =>
    refine ⟨fun real => ⟨z.re, if_pos real⟩, fun nonreal => ?_⟩
    exact if_neg (Bool.eq_false_iff.mp nonreal)

/-- A quantity in the narrowest kind is equal to what it was: just the imaginary part is left out, and only if
it is zero. -/
theorem demote_sameValue (q : Quantity) : q.demote.SameValue q := by
  cases q with
  | rational a => rfl
  | complex z =>
    by_cases real : z.isReal = true
    · have demoted : (complex z).demote = rational z.re := if_pos real
      rw [demoted]
      exact Gaussian.ext rfl (Rational.isZero_iff.mp real).symm
    · have kept : (complex z).demote = complex z := if_neg real
      rw [kept]
      exact SameValue.refl _

/-- **Two quantities have one text exactly when they have one value.** -/
theorem text_eq_iff {p q : Quantity} : p.text = q.text ↔ p.SameValue q := by
  rw [text_eq_toGaussian, text_eq_toGaussian]
  constructor
  · intro same
    have read := Gaussian.read_text p.toGaussian
    rw [same, Gaussian.read_text] at read
    exact (Except.ok.inj read).symm
  · exact fun same => congrArg Gaussian.text same

end Quantity

end ExactAlgebra
