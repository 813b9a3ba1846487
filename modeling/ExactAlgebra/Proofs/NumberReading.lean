import ExactAlgebra.Proofs.NumberGrammar
import ExactAlgebra.Proofs.Powers

/-!
# What the readers of numbers take

The readers take the written forms of numbers and nothing else. They go by characters: a text is split at
every plus, a part at every bar, and whether a part is the imaginary one is decided by its last character.
At each level there are two facts. The form is read as what it stands for, and a text without a plus in it
has the form or is refused, so a part that the splitting has cut wrongly is refused as well.

A text that is refused is at fault as a numeral, with one exception: if the first of two parts is a fraction
whose denominator is zero, this is reported, whatever the second part is. The denominator is written in the
text then.

## Main definitions

* `Error.OfNumeral`: the text is no fraction, or no complex number.
* `Quantity.IsWritten`: the quantity that two fractions stand for as its parts.

## Main statements

* `WritesFraction.read`, `Rational.read_cases`: fractions.
* `WritesCoefficient.read`, `readCoefficient_cases`: coefficients of the imaginary unit.
* `WritesParts.read`, `Gaussian.read_cases`: numbers of both parts.
* `Quantity.read_follows_forms`: which texts are read, as what, and how the others fail.
-/

namespace ExactAlgebra

open Text

/-- The error says that a text is no number. -/
inductive Error.OfNumeral : Error → Prop
  | fraction (text : String) : OfNumeral (.numeral (.fraction text))
  | complex (text : String) : OfNumeral (.numeral (.complex text))

/-! ## Integers -/

theorem readNatural?_eq_some_iff {cs : List Char} {n : ℕ} :
    readNatural? cs = some n ↔
      cs ≠ [] ∧ (∀ d ∈ cs, d.isDigit = true) ∧ Nat.ofDigitChars 10 cs 0 = n := by
  simp [readNatural?, and_assoc]

theorem map_readNatural?_eq_some_iff {cs : List Char} {sign : ℤ → ℤ} {n : ℤ} :
    (do let m ← readNatural? cs; pure (m : ℤ) : Option ℤ).map sign = some n ↔
      cs ≠ [] ∧ (∀ d ∈ cs, d.isDigit = true) ∧ sign (Nat.ofDigitChars 10 cs 0) = n := by
  cases read : readNatural? cs with
  | none =>
    refine ⟨nofun, fun ⟨ne, digits, _⟩ => ?_⟩
    rw [readNatural?_eq_some_iff.mpr ⟨ne, digits, rfl⟩] at read
    cases read
  | some m =>
    obtain ⟨ne, digits, rfl⟩ := readNatural?_eq_some_iff.mp read
    rw [and_iff_right ne, and_iff_right digits]
    exact Option.some_inj

/-- Without a plus, only the written forms are integers. -/
theorem readInteger?_eq_some_iff {cs : List Char} {n : ℤ} (plus : complexPlus ∉ cs) :
    readInteger? cs = some n ↔ WritesInteger cs n := by
  unfold readInteger?
  split
  case h_1 => exact absurd List.mem_cons_self plus
  case h_2 ds _ =>
    rw [map_readNatural?_eq_some_iff]
    constructor
    · rintro ⟨ne, digits, rfl⟩
      exact .minus ne digits
    · intro written
      cases written with
      | natural _ digits => cases digits '-' List.mem_cons_self
      | minus ne digits => exact ⟨ne, digits, rfl⟩
  case h_3 _ minus =>
    rw [map_readNatural?_eq_some_iff]
    constructor
    · rintro ⟨ne, digits, rfl⟩
      exact .natural ne digits
    · intro written
      cases written with
      | natural ne digits => exact ⟨ne, digits, rfl⟩
      | minus => exact absurd rfl (minus _)

theorem not_mem_strip {c : Char} {cs : List Char} (absent : c ∉ cs) : c ∉ strip cs :=
  fun mem => absent ((padded_strip cs).mem mem)

namespace WritesInteger

variable {s t : List Char} {n : ℤ}

theorem not_mem (written : WritesInteger s n) (padded : Padded s t) :
    complexPlus ∉ t ∧ fractionBar ∉ t := by
  have fraction := (WritesFraction.integer written padded)
  refine ⟨fraction.not_mem.1, fun mem => ?_⟩
  rcases padded.of_mem mem with inner | blank
  · have other := written.of_mem inner
    revert other
    decide
  · cases blank

/-- An integer with blanks around it is read as a term, whatever fraction it is part of. -/
theorem read (written : WritesInteger s n) (padded : Padded s t) (whole : List Char) :
    readTerm whole t = .ok n := by
  have plus : complexPlus ∉ s := fun mem => (written.not_mem padded).1 (padded.mem mem)
  rw [readTerm, written.padded_iff.mp padded, (readInteger?_eq_some_iff plus).mpr written, orFail_some]

end WritesInteger

theorem readTerm_cases {t : List Char} (plus : complexPlus ∉ t) (whole : List Char) :
    (∃ s n, WritesInteger s n ∧ Padded s t) ∨
      readTerm whole t = .error (.numeral (.fraction (String.ofList whole))) := by
  cases read : readInteger? (strip t) with
  | some n =>
    have written := (readInteger?_eq_some_iff (not_mem_strip plus)).mp read
    exact Or.inl ⟨strip t, n, written, padded_strip t⟩
  | none =>
    right
    rw [readTerm, read, orFail_none]

/-! ## Fractions -/

namespace Rational

/-! A text has no bar, or one, or more. -/

theorem read_of_not_mem {cs : List Char} (bar : fractionBar ∉ cs) :
    read cs = do return ofInt (← readTerm cs cs) := by
  rw [read, List.splitOn_eq_singleton (not_mem_strip bar)]
  show (do return ofInt (← readTerm cs (strip cs))) = (do return ofInt (← readTerm cs cs))
  rw [readTerm, readTerm, strip_strip]

theorem read_of_bar {t t' : List Char} (bar : fractionBar ∉ t) (bar' : fractionBar ∉ t') :
    read (t ++ fractionBar :: t') = (do
      let n ← readTerm (t ++ fractionBar :: t') t
      let d ← readTerm (t ++ fractionBar :: t') t'
      ofInts n d) := by
  have first : fractionBar ∉ t.dropWhile isBlank := fun mem => bar ((padded_dropWhile t).mem mem)
  have second : fractionBar ∉ stripEnd t' := fun mem => bar' ((padded_stripEnd t').mem mem)
  rw [read, strip_append_cons rfl, List.splitOn_append_cons_self_of_not_mem first,
    List.splitOn_eq_singleton second]
  show (do
    let n ← readTerm (t ++ fractionBar :: t') (t.dropWhile isBlank)
    let d ← readTerm (t ++ fractionBar :: t') (stripEnd t')
    ofInts n d) = _
  simp only [readTerm, strip_dropWhile, strip_stripEnd]

theorem read_of_bars {t t' : List Char} (bar : fractionBar ∉ t) (bar' : fractionBar ∉ t') (u : List Char) :
    read (t ++ fractionBar :: (t' ++ fractionBar :: u)) =
      .error (.numeral (.fraction (String.ofList (t ++ fractionBar :: (t' ++ fractionBar :: u))))) := by
  have first : fractionBar ∉ t.dropWhile isBlank := fun mem => bar ((padded_dropWhile t).mem mem)
  have some : (stripEnd u).splitOn fractionBar ≠ [] := List.splitOn_ne_nil _ _
  obtain ⟨part, parts, more⟩ := List.exists_cons_of_ne_nil some
  rw [read, strip_append_cons rfl, stripEnd_append_cons rfl,
    List.splitOn_append_cons_self_of_not_mem first, List.splitOn_append_cons_self_of_not_mem bar', more]

end Rational

/-- **A fraction is read** as the number it stands for. -/
theorem WritesFraction.read {cs : List Char} {f : WrittenFraction} (written : WritesFraction cs f) :
    Rational.read cs = f.number := by
  cases written with
  | @integer s t n written padded =>
    rw [Rational.read_of_not_mem (written.not_mem padded).2, written.read padded,
      WrittenFraction.number_ofInt]
    rfl
  | quotient written padded written' padded' =>
    rw [Rational.read_of_bar (written.not_mem padded).2 (written'.not_mem padded').2,
      written.read padded, written'.read padded']
    rfl

/-- **No other text without a plus** is read as a fraction. -/
theorem Rational.read_cases {cs : List Char} (plus : complexPlus ∉ cs) :
    (∃ f, WritesFraction cs f) ∨
      Rational.read cs = .error (.numeral (.fraction (String.ofList cs))) := by
  by_cases bar : fractionBar ∈ cs
  case neg =>
    rcases readTerm_cases plus cs with ⟨s, n, written, padded⟩ | refused
    · exact Or.inl ⟨_, .integer written padded⟩
    · right
      rw [read_of_not_mem bar, refused]
      rfl
  case pos =>
    obtain ⟨t, t', rfl, before⟩ := List.eq_append_cons_of_mem bar
    by_cases bar' : fractionBar ∈ t'
    · obtain ⟨t', u, rfl, between⟩ := List.eq_append_cons_of_mem bar'
      exact Or.inr (read_of_bars before between u)
    · have plus : complexPlus ∉ t ∧ complexPlus ∉ t' :=
        ⟨fun mem => plus (List.mem_append_left _ mem),
          fun mem => plus (List.mem_append_right _ (List.mem_cons_of_mem _ mem))⟩
      rw [read_of_bar before bar']
      rcases readTerm_cases plus.1 (t ++ fractionBar :: t') with ⟨s, n, written, padded⟩ | refused
      · rcases readTerm_cases plus.2 (t ++ fractionBar :: t') with ⟨s', d, written', padded'⟩ | refused
        · exact Or.inl ⟨_, .quotient written padded written' padded'⟩
        · right
          rw [written.read padded, refused]
          rfl
      · right
        rw [refused]
        rfl

/-! ## Coefficients -/

/-- The coefficient is what is left of the text before the unit. -/
theorem readCoefficient_concat (cs : List Char) :
    readCoefficient (cs ++ [imaginaryUnit]) =
      match strip cs with
      | [] | ['+'] => .ok 1
      | ['-'] => .ok (-1)
      | coefficient => Rational.read coefficient := by
  have coefficient : strip (strip (cs ++ [imaginaryUnit])).dropLast = strip cs := by
    rw [strip_append_cons rfl, stripEnd_nil, List.dropLast_concat, strip_dropWhile]
  unfold readCoefficient
  exact coefficient ▸ rfl

/-- **A coefficient is read** as the number it stands for. -/
theorem WritesCoefficient.read {cs : List Char} {f : WrittenFraction} (written : WritesCoefficient cs f) :
    readCoefficient (cs ++ [imaginaryUnit]) = f.number := by
  rw [readCoefficient_concat]
  cases written with
  | fraction written =>
    -- A fraction has a digit, so it is neither left out nor a bare sign.
    obtain ⟨d, mem, digit⟩ := written.strip.exists_digit
    split
    case h_1 absent => simp [absent] at mem
    case h_2 plus =>
      rw [plus, List.mem_singleton] at mem
      exact absurd mem (ne_of_isDigit digit rfl)
    case h_3 minus =>
      rw [minus, List.mem_singleton] at mem
      exact absurd mem (ne_of_isDigit digit rfl)
    case h_4 => exact written.strip.read
  | absent padded =>
    rw [strip_eq_nil_iff.mpr padded, WrittenFraction.number_ofInt]
    rfl
  | minus padded =>
    rw [strip_eq_iff.mpr ⟨padded, .singleton rfl⟩, WrittenFraction.number_ofInt]
    rfl

/-- **No other text without a plus** is read as a coefficient. -/
theorem readCoefficient_cases {cs : List Char} (plus : complexPlus ∉ cs) :
    (∃ f, WritesCoefficient cs f) ∨
      readCoefficient (cs ++ [imaginaryUnit]) =
        .error (.numeral (.fraction (String.ofList (strip cs)))) := by
  rw [readCoefficient_concat]
  split
  case h_1 absent => exact Or.inl ⟨_, .absent (strip_eq_nil_iff.mp absent)⟩
  case h_2 bare => exact absurd (bare ▸ List.mem_singleton_self _) (not_mem_strip plus)
  case h_3 minus => exact Or.inl ⟨_, .minus (strip_eq_iff.mp minus).1⟩
  case h_4 =>
    rcases Rational.read_cases (not_mem_strip plus) with ⟨f, written⟩ | refused
    · exact Or.inl ⟨f, .fraction (written.padded (padded_strip cs))⟩
    · exact Or.inr refused

/-! ## The text between the blanks and after the plus -/

theorem eq_or_eq_cons_dropPlus (s : List Char) : s = dropPlus s ∨ s = complexPlus :: dropPlus s := by
  unfold dropPlus
  split
  · exact Or.inr rfl
  · exact Or.inl rfl

theorem dropPlus_eq_self {s : List Char} (first : s.head? ≠ some complexPlus) : dropPlus s = s := by
  unfold dropPlus
  split
  · exact absurd rfl first
  · rfl

/-- What is left when the blanks and the plus are dropped does not end with a blank. -/
theorem stripEnd_dropPlus_strip (cs : List Char) :
    stripEnd (dropPlus (strip cs)) = dropPlus (strip cs) := by
  have whole : stripEnd (strip cs) = strip cs := List.rdropWhile_idempotent isBlank _
  rcases eq_or_eq_cons_dropPlus (strip cs) with same | plus
  · rw [← same, whole]
  · rw [plus] at whole
    have rest := stripEnd_append_cons (c := complexPlus) rfl [] (dropPlus (strip cs))
    rw [List.nil_append, whole] at rest
    exact (List.cons.inj rest).2.symm

/-- The text goes on before and after what is left. -/
theorem exists_eq_append_dropPlus_strip (cs : List Char) :
    ∃ before after, cs = before ++ (dropPlus (strip cs) ++ after) := by
  obtain ⟨w, w', -, -, split⟩ := padded_strip cs
  rcases eq_or_eq_cons_dropPlus (strip cs) with same | plus
  · exact ⟨w, w', same ▸ split⟩
  · rw [plus] at split
    exact ⟨w ++ [complexPlus], w', by simpa using split⟩

namespace WritesParts

variable {s : List Char} {re im : WrittenFraction}

/-- Blanks at the end belong to the last part, unless it ends with the unit. -/
theorem stripEnd (written : WritesParts s re im) : WritesParts (stripEnd s) re im := by
  cases written with
  | real written => exact .real (written.congr (strip_stripEnd s))
  | imaginary written =>
    rw [stripEnd_concat rfl]
    exact .imaginary written
  | @both r k f f' written written' =>
    rw [← List.cons_append, ← List.append_assoc, stripEnd_concat rfl, List.append_assoc]
    exact .both written written'

theorem strip (written : WritesParts s re im) : WritesParts (strip s) re im :=
  written.dropWhile.stripEnd

theorem head?_ne (written : WritesParts s re im) : s.head? ≠ some complexPlus := by
  intro first
  cases written with
  | real written => exact written.not_mem.1 (List.mem_of_mem_head? first)
  | imaginary written =>
    rcases List.mem_append.mp (List.mem_of_mem_head? first) with part | unit
    · exact written.plus_not_mem part
    · cases List.mem_singleton.mp unit
  | @both r k f f' written written' =>
    obtain ⟨d, mem, -⟩ := written.exists_digit
    have ne : r ≠ [] := List.ne_nil_of_mem mem
    rw [List.head?_append_of_ne_nil _ ne] at first
    exact written.not_mem.1 (List.mem_of_mem_head? first)

end WritesParts

theorem writesNumber_iff {cs : List Char} {re im : WrittenFraction} :
    WritesNumber cs re im ↔ WritesParts (dropPlus (strip cs)) re im := by
  constructor
  · rintro ⟨s, parts, padded | padded⟩
    · rw [padded.strip_eq, dropPlus_eq_self parts.strip.head?_ne]
      exact parts.strip
    · have plus : strip cs = complexPlus :: stripEnd s :=
        padded.strip_eq.trans (strip_append_cons rfl [] s)
      rw [plus]
      exact parts.stripEnd
  · intro parts
    refine ⟨_, parts, ?_⟩
    rcases eq_or_eq_cons_dropPlus (strip cs) with same | plus
    · exact Or.inl (same ▸ padded_strip cs)
    · exact Or.inr (plus ▸ padded_strip cs)

/-! ## Numbers -/

namespace Gaussian

variable {cs s r k : List Char}

/-! The text has no plus there, or one, or more. -/

theorem read_of_not_mem (body : dropPlus (strip cs) = s) (plus : complexPlus ∉ s) :
    read cs = if endsWithUnit s then (do return ⟨0, ← readCoefficient s⟩)
      else (do return ⟨← Rational.read s, 0⟩) := by
  simp only [read, body, List.splitOn_eq_singleton plus]

theorem read_of_plus (body : dropPlus (strip cs) = r ++ complexPlus :: k) (plus : complexPlus ∉ r)
    (plus' : complexPlus ∉ k) :
    read cs = if endsWithUnit (strip k) then (do
        let re ← Rational.read r
        let im ← readCoefficient k
        return ⟨re, im⟩)
      else .error (.numeral (.complex (String.ofList cs))) := by
  simp only [read, body, List.splitOn_append_cons_self_of_not_mem plus, List.splitOn_eq_singleton plus']

theorem read_of_pluses {l : List Char}
    (body : dropPlus (strip cs) = r ++ complexPlus :: (k ++ complexPlus :: l)) (plus : complexPlus ∉ r)
    (plus' : complexPlus ∉ k) : read cs = .error (.numeral (.complex (String.ofList cs))) := by
  have some : l.splitOn complexPlus ≠ [] := List.splitOn_ne_nil _ _
  obtain ⟨part, parts, more⟩ := List.exists_cons_of_ne_nil some
  simp only [read, body, List.splitOn_append_cons_self_of_not_mem plus,
    List.splitOn_append_cons_self_of_not_mem plus', more]

theorem endsWithUnit_iff : endsWithUnit s = true ↔ ∃ t, s = t ++ [imaginaryUnit] := by
  rw [endsWithUnit, beq_iff_eq]
  exact List.getLast?_eq_some_iff

end Gaussian

/-- **A number is read** as its parts, the real one first. -/
theorem WritesParts.read {cs s : List Char} {re im : WrittenFraction} (body : dropPlus (Text.strip cs) = s)
    (written : WritesParts s re im) :
    Gaussian.read cs = do
      let a ← re.number
      let b ← im.number
      return ⟨a, b⟩ := by
  have zero : WrittenFraction.number ⟨0, 1⟩ = .ok 0 := WrittenFraction.number_ofInt 0
  cases written with
  | real written =>
    have noUnit : ¬ endsWithUnit s = true := fun ends => by
      obtain ⟨t, rfl⟩ := Gaussian.endsWithUnit_iff.mp ends
      exact written.not_mem.2 List.mem_concat_self
    rw [Gaussian.read_of_not_mem body written.not_mem.1, if_neg noUnit, written.read, zero]
    rfl
  | @imaginary k f written =>
    rw [Gaussian.read_of_not_mem body written.plus_not_mem_concat,
      if_pos (Gaussian.endsWithUnit_concat k), written.read, zero]
    rfl
  | @both r k f f' written written' =>
    have ends : endsWithUnit (Text.strip (k ++ [imaginaryUnit])) = true := by
      rw [strip_append_cons rfl]
      exact Gaussian.endsWithUnit_concat _
    rw [Gaussian.read_of_plus body written.not_mem.1 written'.plus_not_mem_concat, if_pos ends,
      written.read, written'.read]

namespace Gaussian

variable {cs s r k : List Char}

/-- Without a plus there is one part, and it is a real or an imaginary one by its end. -/
theorem read_cases_of_not_mem (body : dropPlus (strip cs) = s) (plus : complexPlus ∉ s) :
    (∃ re im, WritesParts s re im) ∨ ∃ e, read cs = .error e ∧ e.OfNumeral := by
  by_cases unit : endsWithUnit s = true
  · obtain ⟨k, rfl⟩ := endsWithUnit_iff.mp unit
    have plus' : complexPlus ∉ k := fun mem => plus (List.mem_append_left _ mem)
    rcases readCoefficient_cases plus' with ⟨f, written⟩ | refused
    · exact Or.inl ⟨_, f, .imaginary written⟩
    · have failed : read cs = .error (.numeral (.fraction (String.ofList (strip k)))) := by
        rw [read_of_not_mem body plus, if_pos unit, refused]
        rfl
      exact Or.inr ⟨_, failed, .fraction _⟩
  · rcases Rational.read_cases plus with ⟨f, written⟩ | refused
    · exact Or.inl ⟨f, _, .real written⟩
    · have failed : read cs = .error (.numeral (.fraction (String.ofList s))) := by
        rw [read_of_not_mem body plus, if_neg unit, refused]
        rfl
      exact Or.inr ⟨_, failed, .fraction _⟩

/-- What follows the plus has the unit at its end if it has it there apart from blanks. -/
theorem exists_eq_concat_of_endsWithUnit (body : dropPlus (strip cs) = r ++ complexPlus :: k)
    (unit : endsWithUnit (strip k) = true) : ∃ t, k = t ++ [imaginaryUnit] := by
  obtain ⟨t, inner⟩ := endsWithUnit_iff.mp unit
  obtain ⟨w, w', -, blank, split⟩ := padded_strip k
  have nothing : stripEnd w' = [] := List.rdropWhile_eq_nil_iff.mpr blank
  have ends : stripEnd k = k := by
    have whole := stripEnd_dropPlus_strip cs
    rw [body, stripEnd_append_cons rfl] at whole
    exact (List.cons.inj (List.append_cancel_left whole)).2
  rw [inner, List.append_assoc, List.singleton_append, ← List.append_assoc] at split
  rw [split, stripEnd_append_cons rfl, nothing, ← split] at ends
  exact ⟨w ++ t, ends.symm⟩

/-- If the denominator of the first part is zero, it is written in the text. -/
theorem writesZeroDenominator_of_first (body : dropPlus (strip cs) = r ++ complexPlus :: k)
    {f : WrittenFraction} (written : WritesFraction r f) (zero : f.den = 0) :
    WritesZeroDenominator cs := by
  obtain ⟨before, after, split⟩ := exists_eq_append_dropPlus_strip cs
  have stop : ∀ c ∈ (complexPlus :: (k ++ after)).head?, c.isDigit = false := by
    rintro c ⟨⟩
    rfl
  have found := written.writesZeroDenominator zero before stop
  rw [split, body]
  simpa using found

/-- With one plus the first part is read first. If its denominator is zero, the other part is not looked
at. -/
theorem read_cases_of_plus (body : dropPlus (strip cs) = r ++ complexPlus :: k) (plus : complexPlus ∉ r)
    (plus' : complexPlus ∉ k) :
    (∃ re im, WritesParts (r ++ complexPlus :: k) re im) ∨
      ∃ e, read cs = .error e ∧
        (e.OfNumeral ∨ e = .arithmetic .zeroDenominator ∧ WritesZeroDenominator cs) := by
  by_cases unit : endsWithUnit (strip k) = true
  case neg =>
    have failed : read cs = .error (.numeral (.complex (String.ofList cs))) := by
      rw [read_of_plus body plus plus', if_neg unit]
    exact Or.inr ⟨_, failed, Or.inl (.complex _)⟩
  case pos =>
    have step := read_of_plus body plus plus'
    rw [if_pos unit] at step
    rcases Rational.read_cases plus with ⟨f, written⟩ | refused
    case inr =>
      rw [refused] at step
      exact Or.inr ⟨_, step, Or.inl (.fraction _)⟩
    case inl =>
      by_cases zero : f.den = 0
      · rw [written.read, WrittenFraction.number_of_den_eq_zero zero] at step
        exact Or.inr ⟨_, step, Or.inr ⟨rfl, writesZeroDenominator_of_first body written zero⟩⟩
      · obtain ⟨a, defined, -⟩ := WrittenFraction.exists_number zero
        obtain ⟨t, rfl⟩ := exists_eq_concat_of_endsWithUnit body unit
        have plus' : complexPlus ∉ t := fun mem => plus' (List.mem_append_left _ mem)
        rcases readCoefficient_cases plus' with ⟨f', written'⟩ | refused
        · exact Or.inl ⟨f, f', .both written written'⟩
        · rw [written.read, defined, refused] at step
          exact Or.inr ⟨_, step, Or.inl (.fraction _)⟩

/-- **No other text** is read as a number. It is refused as a numeral, or because a denominator in it is
zero. -/
theorem read_cases (cs : List Char) :
    (∃ re im, WritesNumber cs re im) ∨
      ∃ e, read cs = .error e ∧
        (e.OfNumeral ∨ e = .arithmetic .zeroDenominator ∧ WritesZeroDenominator cs) := by
  simp only [writesNumber_iff]
  obtain ⟨s, body⟩ : ∃ s, dropPlus (strip cs) = s := ⟨_, rfl⟩
  rw [body]
  by_cases plus : complexPlus ∈ s
  case neg =>
    rcases read_cases_of_not_mem body plus with written | ⟨e, failed, fault⟩
    · exact Or.inl written
    · exact Or.inr ⟨e, failed, Or.inl fault⟩
  case pos =>
    obtain ⟨r, k, rfl, before⟩ := List.eq_append_cons_of_mem plus
    by_cases plus' : complexPlus ∈ k
    · obtain ⟨k, l, rfl, between⟩ := List.eq_append_cons_of_mem plus'
      exact Or.inr ⟨_, read_of_pluses body before between, Or.inl (.complex _)⟩
    · exact read_cases_of_plus body before plus'

end Gaussian

/-! ## Quantities -/

/-- The quantity has the two fractions as its parts. It is rational exactly if the second one is
zero. -/
structure Quantity.IsWritten (q : Quantity) (re im : WrittenFraction) : Prop where
  re_den : re.den ≠ 0
  im_den : im.den ≠ 0
  re_eq : q.re = re.value
  im_eq : q.im = im.value
  kind_iff : q.kind = .rational ↔ im.num = 0

namespace Quantity

variable {q : Quantity} {cs : List Char} {re im : WrittenFraction}

theorem kind_demote_complex {z : Gaussian} :
    (demote (complex z)).kind = .rational ↔ z.im.toRat = 0 := by
  obtain ⟨onAxis, offAxis⟩ := demote_cases (complex z)
  constructor
  · intro rational
    by_contra nonzero
    rw [offAxis (Bool.eq_false_iff.mpr (mt isReal_iff.mp nonzero))] at rational
    cases rational
  · intro zero
    obtain ⟨a, demoted⟩ := onAxis (isReal_iff.mpr zero)
    rw [demoted]
    rfl

/-- A quantity is known by its parts and by whether it is rational. -/
theorem demote_complex_eq_iff {z : Gaussian} :
    demote (complex z) = q ↔
      q.re = z.re.toRat ∧ q.im = z.im.toRat ∧ (q.kind = .rational ↔ z.im.toRat = 0) := by
  have parts := sameValue_iff.mp (demote_sameValue (complex z))
  constructor
  · rintro rfl
    exact ⟨parts.1, parts.2, kind_demote_complex⟩
  · rintro ⟨re, im, kind⟩
    have same : (demote (complex z)).SameValue q :=
      sameValue_iff.mpr ⟨parts.1.trans re.symm, parts.2.trans im.symm⟩
    have rational := kind_demote_complex.trans kind.symm
    refine eq_of_kind_of_value ?_ (value_inj.mpr same)
    cases left : (demote (complex z)).kind with
    | rational => exact (rational.mp left).symm
    | complex =>
      cases right : q.kind with
      | rational => rw [rational.mpr right] at left; cases left
      | complex => rfl

end Quantity

namespace WritesNumber

variable {q : Quantity} {cs : List Char} {re im : WrittenFraction}

theorem read (written : WritesNumber cs re im) :
    Quantity.read cs = do
      let a ← re.number
      let b ← im.number
      return Quantity.demote (.complex ⟨a, b⟩) := by
  rw [Quantity.read, (writesNumber_iff.mp written).read rfl, bind_assoc]
  simp only [bind_assoc, pure_bind]

/-- A denominator that is zero is reported. -/
theorem read_of_den_eq_zero (written : WritesNumber cs re im) (zero : re.den = 0 ∨ im.den = 0) :
    Quantity.read cs = .error (.arithmetic .zeroDenominator) := by
  rw [written.read]
  by_cases first : re.den = 0
  · rw [WrittenFraction.number_of_den_eq_zero first]
    rfl
  · obtain ⟨a, defined, -⟩ := WrittenFraction.exists_number first
    rw [defined, WrittenFraction.number_of_den_eq_zero (zero.resolve_left first)]
    rfl

/-- Without a denominator that is zero there is a value. -/
theorem exists_read (written : WritesNumber cs re im) (re_den : re.den ≠ 0) (im_den : im.den ≠ 0) :
    ∃ z : Gaussian, Quantity.read cs = .ok (.demote (.complex z)) ∧ z.re.toRat = re.value ∧
      z.im.toRat = im.value := by
  obtain ⟨a, definedA, valueA⟩ := WrittenFraction.exists_number re_den
  obtain ⟨b, definedB, valueB⟩ := WrittenFraction.exists_number im_den
  refine ⟨⟨a, b⟩, ?_, valueA, valueB⟩
  rw [written.read, definedA, definedB]
  rfl

/-- A written number has a value unless a denominator is zero. -/
theorem read_eq_ok_iff (written : WritesNumber cs re im) :
    Quantity.read cs = .ok q ↔ q.IsWritten re im := by
  by_cases zero : re.den = 0 ∨ im.den = 0
  case pos =>
    rw [written.read_of_den_eq_zero zero]
    exact ⟨nofun, fun isWritten => absurd zero (not_or.mpr ⟨isWritten.re_den, isWritten.im_den⟩)⟩
  case neg =>
    obtain ⟨re_den, im_den⟩ := not_or.mp zero
    obtain ⟨z, read, valueRe, valueIm⟩ := written.exists_read re_den im_den
    rw [read, Except.ok.injEq, Quantity.demote_complex_eq_iff, valueRe, valueIm,
      WrittenFraction.value_eq_zero_iff im_den]
    constructor
    · rintro ⟨re_eq, im_eq, kind_iff⟩
      exact ⟨re_den, im_den, re_eq, im_eq, kind_iff⟩
    · intro isWritten
      exact ⟨isWritten.re_eq, isWritten.im_eq, isWritten.kind_iff⟩

end WritesNumber

namespace Quantity

/-- What is read was written as a number. -/
theorem exists_writesNumber {cs : List Char} {q : Quantity} (ok : read cs = .ok q) :
    ∃ re im, WritesNumber cs re im := by
  rcases Gaussian.read_cases cs with written | ⟨e, refused, -⟩
  · exact written
  · rw [read, refused] at ok
    cases ok

/-- **Which texts are numbers.** A text is read exactly if it is a written form without a denominator that is
zero; the real part and the coefficient of the unit are what is written, and the number is rational exactly if
the coefficient is zero or absent. Any other text is refused as a numeral, or, only if a denominator that is
zero is written in it, because of that denominator. -/
theorem read_follows_forms (cs : List Char) :
    (∀ q, read cs = .ok q ↔ ∃ re im, WritesNumber cs re im ∧ q.IsWritten re im) ∧
      ∀ e, read cs = .error e →
        e.OfNumeral ∨ e = .arithmetic .zeroDenominator ∧ WritesZeroDenominator cs := by
  rcases Gaussian.read_cases cs with ⟨re, im, written⟩ | ⟨fault, refused, cause⟩
  case inl =>
    constructor
    · intro q
      refine ⟨fun ok => ⟨re, im, written, written.read_eq_ok_iff.mp ok⟩, ?_⟩
      rintro ⟨re', im', written', isWritten⟩
      exact written'.read_eq_ok_iff.mpr isWritten
    · intro e failed
      by_cases zero : re.den = 0 ∨ im.den = 0
      · rw [written.read_of_den_eq_zero zero] at failed
        cases failed
        exact Or.inr ⟨rfl, written.writesZeroDenominator zero⟩
      · obtain ⟨re_den, im_den⟩ := not_or.mp zero
        obtain ⟨z, ok, -, -⟩ := written.exists_read re_den im_den
        rw [ok] at failed
        cases failed
  case inr =>
    have refused : read cs = .error fault := by
      rw [read, refused]
      rfl
    rw [refused]
    constructor
    · intro q
      constructor
      · intro ok
        cases ok
      · rintro ⟨re, im, written, isWritten⟩
        rw [← refused]
        exact written.read_eq_ok_iff.mpr isWritten
    · rintro e ⟨⟩
      exact cause

/-- Blanks, a plus in front and a bare minus as the coefficient are all allowed at once. A second part that
is no coefficient goes unnoticed if the first denominator is zero. -/
theorem read_spaced_number :
    (∃ q, read " +-3/4 +- i ".toList = .ok q ∧ q.re = -3 / 4 ∧ q.im = -1 ∧ q.kind = .complex) ∧
      read "1/0+1/i".toList = .error (.arithmetic .zeroDenominator) ∧
      WritesZeroDenominator "1/0+1/i".toList := by
  have minusThree : WritesInteger ['-', '3'] (-3) :=
    .minus (List.cons_ne_nil _ _) (List.forall_mem_singleton.mpr rfl)
  have four : WritesInteger ['4'] 4 :=
    .natural (List.cons_ne_nil _ _) (List.forall_mem_singleton.mpr rfl)
  have space : Blank [' '] := List.forall_mem_singleton.mpr rfl
  have quarters : WritesFraction "-3/4 ".toList ⟨-3, 4⟩ :=
    .quotient minusThree (Padded.refl _) four ((Padded.refl _).append_right space)
  have bare : WritesCoefficient "- ".toList ⟨-1, 1⟩ := .minus ((Padded.refl _).append_right space)
  have written : WritesNumber " +-3/4 +- i ".toList ⟨-3, 4⟩ ⟨-1, 1⟩ :=
    ⟨_, .both quarters bare, Or.inr (((Padded.refl _).append_right space).append_left space)⟩
  let q : Quantity := .complex ⟨⟨-3, 4, by decide, by decide⟩, -1⟩
  have parts : q.IsWritten ⟨-3, 4⟩ ⟨-1, 1⟩ :=
    ⟨by decide, by decide, Rational.toRat_eq_div _, Rational.toRat_eq_div _, by decide⟩
  have ok := ((read_follows_forms " +-3/4 +- i ".toList).1 q).mpr ⟨_, _, written, parts⟩
  have failed : read "1/0+1/i".toList = .error (.arithmetic .zeroDenominator) := rfl
  have cause := ((read_follows_forms "1/0+1/i".toList).2 _ failed).resolve_left nofun
  refine ⟨⟨q, ok, ?_, ?_, rfl⟩, failed, cause.2⟩
  · rw [parts.re_eq, WrittenFraction.value]
    norm_num
  · rw [parts.im_eq, WrittenFraction.value]
    norm_num

end Quantity

end ExactAlgebra
