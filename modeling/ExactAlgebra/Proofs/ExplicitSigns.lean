import ExactAlgebra.Proofs.NumberReading

/-!
# Plus signs in front of terms

The reader of fractions takes a plus in front of either term. It says nothing there: without it the text is a
written fraction that stands for the number that was read.

The reader of complex numbers drops a plus at the start of the text and splits what is left at every other
one, before it reads the parts as fractions. So it reads a fraction as the same number, alone or as a part of
a sum, unless the fraction has a plus at another place. It is a plus in front of the denominator then, or in
front of the second part, and the text is refused.

## Main definitions

* `withoutPlus`: a text without its plus signs.

## Main statements

* `exists_writesFraction_of_read`: what is read as a fraction is written without its plus signs.
* `Gaussian.read_of_two_le_count`, `Gaussian.read_of_not_mem_unit`: plus signs that are refused.
* `Rational.read_as_component`: a fraction alone and two fractions as the parts of a sum.
-/

namespace ExactAlgebra

open Text

/-! ## Texts without plus signs -/

/-- The text without any plus. -/
def withoutPlus (cs : List Char) : List Char := cs.filter (· != complexPlus)

variable {cs s t u v : List Char}

theorem mem_withoutPlus {c : Char} : c ∈ withoutPlus cs ↔ c ∈ cs ∧ c ≠ complexPlus := by
  simp [withoutPlus]

theorem withoutPlus_eq_self (absent : complexPlus ∉ cs) : withoutPlus cs = cs :=
  List.filter_eq_self.mpr fun _ mem => bne_iff_ne.mpr (ne_of_mem_of_not_mem mem absent)

/-- The signs are taken out of both parts of a text separately, so that splitting at a bar or a plus commutes
with it. -/
theorem withoutPlus_append (cs cs' : List Char) : withoutPlus (cs ++ cs') = withoutPlus cs ++ withoutPlus cs' :=
  List.filter_append ..

/-- Dropping the sign at the front is part of dropping all of them. The reader does the one, and what is shown
about written fractions needs the other. -/
theorem withoutPlus_dropPlus (cs : List Char) : withoutPlus (dropPlus cs) = withoutPlus cs := by
  unfold dropPlus
  split <;> rfl

/-- Whether there is a sign at the front is seen from the first part of a text, as long as this part is not
empty. -/
theorem dropPlus_append (solid : s ≠ []) (cs : List Char) : dropPlus (s ++ cs) = dropPlus s ++ cs := by
  obtain ⟨c, rest, rfl⟩ := List.exists_cons_of_ne_nil solid
  by_cases plus : c = complexPlus
  · rw [plus]
    rfl
  · have first (l : List Char) : (c :: l).head? ≠ some complexPlus := fun same => plus (Option.some.inj same)
    rw [dropPlus_eq_self (first rest), List.cons_append, dropPlus_eq_self (first _)]

/-- A plus is no blank, so none is hidden among the blanks around a text. -/
theorem Text.Blank.plus_not_mem {w : List Char} (blank : Blank w) : complexPlus ∉ w := by
  intro mem
  cases blank _ mem

theorem Text.Padded.withoutPlus (padded : Padded s cs) : Padded (withoutPlus s) (withoutPlus cs) := by
  obtain ⟨w, w', blank, blank', rfl⟩ := padded
  refine ⟨w, w', blank, blank', ?_⟩
  rw [withoutPlus_append, withoutPlus_append, withoutPlus_eq_self blank.plus_not_mem,
    withoutPlus_eq_self blank'.plus_not_mem]

/-! ## Fractions -/

/-- Only the first character of an integer can be a plus, and it is not needed. -/
theorem WritesInteger.of_readInteger? {n : ℤ} (ok : readInteger? cs = some n) :
    WritesInteger (withoutPlus cs) n := by
  have plain {ds : List Char} (digits : ∀ d ∈ ds, d.isDigit = true) : withoutPlus ds = ds :=
    withoutPlus_eq_self fun mem => nomatch digits _ mem
  unfold readInteger? at ok
  split at ok
  all_goals
    rw [map_readNatural?_eq_some_iff] at ok
    obtain ⟨ne, digits, rfl⟩ := ok
  case h_1 ds =>
    show WritesInteger (withoutPlus ds) _
    rw [plain digits]
    exact .natural ne digits
  case h_2 ds =>
    show WritesInteger ('-' :: withoutPlus ds) _
    rw [plain digits]
    exact .minus ne digits
  case h_3 =>
    rw [plain digits]
    exact .natural ne digits

/-- What is read as a term of a fraction is an integer with blanks around it, once a plus at its front is left
out. -/
theorem exists_writesInteger_of_readTerm {n : ℤ} {whole : List Char} (ok : readTerm whole t = .ok n) :
    ∃ s, WritesInteger s n ∧ Padded s (withoutPlus t) :=
  ⟨_, .of_readInteger? (orFail_eq_ok.mp ok), (padded_strip t).withoutPlus⟩

/-- **What is read as a fraction** is written in the text when its plus signs are left out. -/
theorem exists_writesFraction_of_read {r : Rational} (ok : Rational.read t = .ok r) :
    ∃ f, WritesFraction (withoutPlus t) f ∧ f.number = .ok r := by
  by_cases bar : fractionBar ∈ t
  case neg =>
    rw [Rational.read_of_not_mem bar] at ok
    obtain ⟨n, term, same⟩ := of_bind_ok ok
    cases same
    obtain ⟨s, written, padded⟩ := exists_writesInteger_of_readTerm term
    exact ⟨⟨n, 1⟩, .integer written padded, WrittenFraction.number_ofInt n⟩
  case pos =>
    obtain ⟨t, t', rfl, before⟩ := List.eq_append_cons_of_mem bar
    by_cases bar' : fractionBar ∈ t'
    · obtain ⟨t', u, rfl, between⟩ := List.eq_append_cons_of_mem bar'
      rw [Rational.read_of_bars before between] at ok
      cases ok
    · rw [Rational.read_of_bar before bar'] at ok
      obtain ⟨n, num, rest⟩ := of_bind_ok ok
      obtain ⟨d, den, quotient⟩ := of_bind_ok rest
      obtain ⟨s, written, padded⟩ := exists_writesInteger_of_readTerm num
      obtain ⟨s', written', padded'⟩ := exists_writesInteger_of_readTerm den
      refine ⟨⟨n, d⟩, ?_, quotient⟩
      rw [withoutPlus_append]
      exact .quotient written padded written' padded'

section Read

variable {r : Rational}

/-- If only the first character may be a plus, what is left after it is a written fraction. -/
theorem exists_writesFraction_dropPlus (ok : Rational.read t = .ok r)
    (none : complexPlus ∉ dropPlus (strip t)) :
    ∃ f, WritesFraction (dropPlus (strip t)) f ∧ f.number = .ok r := by
  obtain ⟨f, written, number⟩ := exists_writesFraction_of_read ok
  refine ⟨f, ?_, number⟩
  rw [← withoutPlus_eq_self none, withoutPlus_dropPlus]
  exact written.congr (padded_strip t).withoutPlus.strip_eq.symm

/-- No fraction has the imaginary unit in it, with or without signs, so the reader of complex numbers takes it
for a real part. -/
theorem unit_not_mem_of_read (ok : Rational.read t = .ok r) : imaginaryUnit ∉ t := by
  obtain ⟨f, written, -⟩ := exists_writesFraction_of_read ok
  exact fun mem => written.not_mem.2 (mem_withoutPlus.mpr ⟨mem, by decide⟩)

theorem strip_ne_nil_of_read (ok : Rational.read t = .ok r) : strip t ≠ [] := by
  intro nil
  obtain ⟨f, written, -⟩ := exists_writesFraction_of_read ok
  obtain ⟨d, mem, digit⟩ := written.exists_digit
  rcases (strip_eq_nil_iff.mp nil).of_mem (mem_withoutPlus.mp mem).1 with absurd | blank
  · cases absurd
  · rw [not_isDigit_of_isBlank blank] at digit
    cases digit

end Read

/-! ## Plus signs that are refused -/

namespace Gaussian

/-- Of two plus signs, not counting one at the start, one is too many. -/
theorem read_of_two_le_count (two : 2 ≤ (dropPlus (strip cs)).count complexPlus) :
    read cs = .error (.numeral (.complex (String.ofList cs))) := by
  obtain ⟨s, body⟩ : ∃ s, dropPlus (strip cs) = s := ⟨_, rfl⟩
  rw [body] at two
  have plus : complexPlus ∈ s := List.count_pos_iff.mp (by omega)
  obtain ⟨r, k, rfl, before⟩ := List.eq_append_cons_of_mem plus
  rw [List.count_append, List.count_eq_zero_of_not_mem before, List.count_cons_self] at two
  have plus' : complexPlus ∈ k := List.count_pos_iff.mp (by omega)
  obtain ⟨k, l, rfl, between⟩ := List.eq_append_cons_of_mem plus'
  exact read_of_pluses body before between

/-- Without the imaginary unit there is nothing to separate from the real part. -/
theorem read_of_not_mem_unit (plus : complexPlus ∈ dropPlus (strip cs)) (real : imaginaryUnit ∉ cs) :
    read cs = .error (.numeral (.complex (String.ofList cs))) := by
  obtain ⟨r, k, body, before⟩ := List.eq_append_cons_of_mem plus
  by_cases plus' : complexPlus ∈ k
  · obtain ⟨k, l, rfl, between⟩ := List.eq_append_cons_of_mem plus'
    exact read_of_pluses body before between
  · rw [read_of_plus body before plus', if_neg]
    intro unit
    obtain ⟨k, rfl⟩ := exists_eq_concat_of_endsWithUnit body unit
    obtain ⟨before, after, split⟩ := exists_eq_append_dropPlus_strip cs
    rw [split, body] at real
    exact real (by simp)

end Gaussian

/-! ## Components of complex numbers -/

theorem dropPlus_strip_sum (solid : strip t ≠ []) (v : List Char) :
    ∃ w, Blank w ∧ dropPlus (strip (t ++ complexPlus :: (v ++ [imaginaryUnit]))) =
      (dropPlus (strip t) ++ w) ++ complexPlus :: (v ++ [imaginaryUnit]) := by
  obtain ⟨w, w', blank, blank', split⟩ := padded_strip t
  refine ⟨w', blank', ?_⟩
  have whole : strip (t ++ complexPlus :: (v ++ [imaginaryUnit])) =
      strip t ++ (w' ++ complexPlus :: (v ++ [imaginaryUnit])) := by
    refine strip_eq_iff.mpr ⟨⟨w, [], blank, Blank.nil, ?_⟩, ?_, ?_⟩
    · nth_rewrite 1 [split]
      simp
    · intro c first
      rw [List.head?_append_of_ne_nil _ solid] at first
      exact (tight_strip t).starts c first
    · intro c last
      rw [← List.cons_append, ← List.append_assoc, ← List.append_assoc, List.getLast?_concat] at last
      cases last
      rfl
  rw [whole, dropPlus_append solid, List.append_assoc]

section Components

variable {r r' : Rational}

theorem Quantity.read_of_read (ok : Rational.read t = .ok r) :
    Quantity.read t =
      if complexPlus ∈ dropPlus (strip t) then .error (.numeral (.complex (String.ofList t)))
      else .ok (.rational r) := by
  rw [Quantity.read]
  split_ifs with plus
  · rw [Gaussian.read_of_not_mem_unit plus (unit_not_mem_of_read ok)]
    rfl
  · obtain ⟨f, written, number⟩ := exists_writesFraction_dropPlus ok plus
    rw [(WritesParts.real written).read rfl, number, WrittenFraction.number_ofInt]
    rfl

theorem Gaussian.read_of_reads (ok : Rational.read t = .ok r) (ok' : Rational.read u = .ok r') :
    Gaussian.read (t ++ complexPlus :: (u ++ [imaginaryUnit])) =
      if complexPlus ∈ dropPlus (strip t) ∨ complexPlus ∈ u then
        .error (.numeral (.complex (String.ofList (t ++ complexPlus :: (u ++ [imaginaryUnit])))))
      else .ok ⟨r, r'⟩ := by
  obtain ⟨w, blank, body⟩ := dropPlus_strip_sum (strip_ne_nil_of_read ok) u
  split_ifs with plus
  · apply Gaussian.read_of_two_le_count
    rw [body, List.count_append, List.count_append, List.count_cons_self, List.count_append]
    have more : 0 < (dropPlus (strip t)).count complexPlus ∨ 0 < u.count complexPlus :=
      plus.imp List.count_pos_iff.mpr List.count_pos_iff.mpr
    omega
  · obtain ⟨none, none'⟩ := not_or.mp plus
    obtain ⟨f, written, number⟩ := exists_writesFraction_dropPlus ok none
    obtain ⟨f', written', number'⟩ := exists_writesFraction_of_read ok'
    rw [withoutPlus_eq_self none'] at written'
    have blanks : Padded (dropPlus (strip t)) (dropPlus (strip t) ++ w) := (Padded.refl _).append_right blank
    rw [(WritesParts.both (written.padded blanks) (.fraction written')).read body, number, number']
    rfl

end Components

/-- **A fraction is read as a component of a complex number**, alone and in a sum, as the number that the
reader of fractions takes it for. The only texts that are refused are those with a plus that is neither at
the start of the whole text nor between its parts. -/
theorem Rational.read_as_component {r r' : Rational} (ok : Rational.read t = .ok r)
    (ok' : Rational.read u = .ok r') :
    (Quantity.read t =
        if complexPlus ∈ dropPlus (strip t) then .error (.numeral (.complex (String.ofList t)))
        else .ok (.rational r)) ∧
      Gaussian.read (t ++ complexPlus :: (u ++ [imaginaryUnit])) =
        if complexPlus ∈ dropPlus (strip t) ∨ complexPlus ∈ u then
          .error (.numeral (.complex (String.ofList (t ++ complexPlus :: (u ++ [imaginaryUnit])))))
        else .ok ⟨r, r'⟩ :=
  ⟨Quantity.read_of_read ok, Gaussian.read_of_reads ok ok'⟩

/-- A plus at the start is dropped, and the blanks belong to the parts. -/
theorem Rational.read_as_component_half :
    Quantity.read " +1/ 2".toList = .ok (.rational ⟨1, 2, by decide, by decide⟩) ∧
      Gaussian.read " +1/ 2+-3i".toList = .ok ⟨⟨1, 2, by decide, by decide⟩, .ofInt (-3)⟩ := by
  have half : Rational.read " +1/ 2".toList = .ok ⟨1, 2, by decide, by decide⟩ := rfl
  have minusThree : Rational.read "-3".toList = .ok (.ofInt (-3)) := rfl
  obtain ⟨alone, sum⟩ := Rational.read_as_component half minusThree
  exact ⟨alone, sum⟩

/-- With a plus in front of the denominator, or of the second part, the text of a fraction is refused. -/
theorem Rational.plus_before_term :
    Rational.read "1/+2".toList = .ok ⟨1, 2, by decide, by decide⟩ ∧
      Quantity.read "1/+2".toList = .error (.numeral (.complex "1/+2")) ∧
      Rational.read "+2".toList = .ok (.ofInt 2) ∧
      Gaussian.read ("1".toList ++ complexPlus :: ("+2".toList ++ [imaginaryUnit])) =
        .error (.numeral (.complex "1++2i")) :=
  ⟨rfl, rfl, rfl, rfl⟩

end ExactAlgebra
