import ExactAlgebra.Proofs.Grammar
import Mathlib.Data.List.TakeWhile

/-!
# The grammar over tokens

A text of the grammar is cut into tokens in one way, and the cut does not depend on the grammar: a number
is taken as long as it goes. So the derivations of a text are the derivations over its tokens, which are
what a parser looks for.

## Main definitions

* `Phrase`: the grammar over tokens.
* `Token.Fits`, `Lexed`: numbers that are taken as long as they go.

## Main statements

* `scan_eq_ok_iff`: the tokens of a text.
* `Derives.exists_phrase`, `Phrase.derives`: the same trees over characters and over tokens.
* `derives_iff_phrase`: the derivations of a whole text.
-/

namespace ExactAlgebra

open Text (isDigit)

namespace Token

/-- The text of a row of tokens. -/
def spell (ts : List Token) : List Char := ts.flatMap text

@[simp] theorem spell_nil : spell [] = [] := rfl

@[simp] theorem spell_cons (t : Token) (ts : List Token) : spell (t :: ts) = t.text ++ spell ts := rfl

@[simp] theorem spell_append (ts us : List Token) : spell (ts ++ us) = spell ts ++ spell us :=
  List.flatMap_append

/-- A token between two characters has digits where digits belong, and none of them is left outside. -/
def Fits (p n : Option Char) : Token → Prop
  | .numeral ds false => ds ≠ [] ∧ (∀ d ∈ ds, isDigit d = true) ∧ (∀ c ∈ p, isDigit c = false) ∧
      ∀ c ∈ n, isDigit c = false ∧ c ≠ 'i'
  | .numeral ds true => (∀ d ∈ ds, isDigit d = true) ∧ (ds ≠ [] → ∀ c ∈ p, isDigit c = false)
  | _ => True

/-- The second row of tokens may stand next to the first as a factor. -/
def Adjoin (ts ts' : List Token) : Prop :=
  ts'.head? = some .opening ∨
    ts.getLast? = some .closing ∧ ∃ ds unit, ts'.head? = some (.numeral ds unit)

end Token

open Token (spell Fits Adjoin)

/-- A row of tokens between two characters, all of which fit. -/
def Lexed : Option Char → List Token → Option Char → Prop
  | _, [], _ => True
  | p, t :: ts, n => t.Fits p ((spell ts).head?.or n) ∧ Lexed (t.text.getLast?.or p) ts n

/-- The tokens are derived from a category, with their tree. -/
inductive Phrase : Category → List Token → SyntaxTree → Prop
  | term {ts t} : Phrase .term ts t → Phrase .sum ts t
  | sum {ts ts' l r} (o : Operation) : o = .add ∨ o = .subtract → Phrase .sum ts l →
      Phrase .term ts' r → Phrase .sum (ts ++ .operator o :: ts') (.binary o l r)
  | factor {ts t} : Phrase .factor ts t → Phrase .term ts t
  | product {ts ts' l r} (o : Operation) : o = .multiply ∨ o = .divide → Phrase .term ts l →
      Phrase .factor ts' r → Phrase .term (ts ++ .operator o :: ts') (.binary o l r)
  | adjoined {ts ts' l r} : Adjoin ts ts' → Phrase .term ts l → Phrase .factor ts' r →
      Phrase .term (ts ++ ts') (.binary .multiply l r)
  | negative {ts t} : Phrase .factor ts t → Phrase .factor (.operator .subtract :: ts) (.negative t)
  | atom {ts t} : Phrase .atom ts t → Phrase .factor ts t
  | power {ts ts' l r} : Phrase .atom ts l → Phrase .factor ts' r →
      Phrase .factor (ts ++ .operator .pow :: ts') (.binary .pow l r)
  | numeral {ds unit} : Phrase .atom [.numeral ds unit] (.numeral ds unit)
  | parentheses {ts t} : Phrase .sum ts t → Phrase .atom (.opening :: (ts ++ [.closing])) t

/-- Tokens that are taken as long as they go, in two pieces. Each piece has to look at the first character of
the other one, or at what comes after it, if the other piece is empty. -/
theorem Lexed.append_iff {p n : Option Char} {ts us : List Token} :
    Lexed p (ts ++ us) n ↔
      Lexed p ts ((spell us).head?.or n) ∧ Lexed ((spell ts).getLast?.or p) us n := by
  induction ts generalizing p with
  | nil => exact (and_iff_right trivial).symm
  | cons t ts ih =>
    rw [List.cons_append, Lexed, ih, Lexed, Token.spell_append, List.head?_append, Option.or_assoc,
      Token.spell_cons, List.getLast?_append, Option.or_assoc, and_assoc]

/-! ## The tokens of a text -/

theorem takeWhile_append_of_stop {p : Char → Bool} {ds : List Char} (rest : List Char)
    (all : ∀ d ∈ ds, p d = true) (stop : ∀ c ∈ rest.head?, p c = false) :
    (ds ++ rest).takeWhile p = ds ∧ (ds ++ rest).dropWhile p = rest := by
  have none : rest.takeWhile p = [] ∧ rest.dropWhile p = rest := by
    cases rest with
    | nil => exact ⟨rfl, rfl⟩
    | cons c rest =>
      have other : ¬ p c = true := by
        rw [stop c rfl]
        exact Bool.false_ne_true
      exact ⟨List.takeWhile_cons_of_neg other, List.dropWhile_cons_of_neg other⟩
  rw [List.takeWhile_append_of_pos all, List.dropWhile_append_of_pos all, none.1, none.2,
    List.append_nil]
  exact ⟨rfl, rfl⟩

theorem scan_digits {d : Char} {ds rest : List Char} (digits : ∀ c ∈ d :: ds, isDigit c = true)
    (stop : ∀ c ∈ rest.head?, isDigit c = false ∧ c ≠ 'i') :
    Token.scan (d :: (ds ++ rest)) = (do return .numeral (d :: ds) false :: (← Token.scan rest)) := by
  obtain ⟨taken, dropped⟩ := takeWhile_append_of_stop rest
    (fun c mem => digits c (List.mem_cons_of_mem d mem)) fun c head => (stop c head).1
  rw [Token.scan, if_pos (digits d List.mem_cons_self)]
  split
  case h_1 after found =>
    rw [dropped] at found
    exact absurd rfl (stop 'i' (by rw [found]; rfl)).2
  case h_2 =>
    simp only [taken, dropped]

theorem scan_digits_unit {d : Char} {ds rest : List Char} (digits : ∀ c ∈ d :: ds, isDigit c = true) :
    Token.scan (d :: (ds ++ 'i' :: rest)) =
      (do return .numeral (d :: ds) true :: (← Token.scan rest)) := by
  obtain ⟨taken, dropped⟩ := takeWhile_append_of_stop ('i' :: rest)
    (fun c mem => digits c (List.mem_cons_of_mem d mem)) fun c head => by cases head; rfl
  rw [Token.scan, if_pos (digits d List.mem_cons_self)]
  split
  case h_1 after found =>
    rw [dropped] at found
    cases found
    simp only [taken]
  case h_2 other =>
    exact absurd dropped (other rest)

/-- A token that fits is the first one of its text. -/
theorem scan_text_append {t : Token} {p : Option Char} {rest : List Char}
    (fits : t.Fits p rest.head?) :
    Token.scan (t.text ++ rest) = (do return t :: (← Token.scan rest)) := by
  cases t with
  | numeral ds unit =>
    cases unit with
    | false =>
      obtain ⟨ne, digits, -, stop⟩ := fits
      obtain ⟨d, ds, rfl⟩ := List.exists_cons_of_ne_nil ne
      rw [Token.text, if_neg Bool.false_ne_true, List.append_nil]
      exact scan_digits digits stop
    | true =>
      obtain ⟨digits, -⟩ := fits
      rw [Token.text, if_pos rfl, List.append_assoc]
      cases ds with
      | nil =>
        show Token.scan ('i' :: rest) = _
        rw [Token.scan]
        rfl
      | cons d ds => exact scan_digits_unit digits
  | operator o =>
    have other : isDigit o.symbol = false := by cases o <;> rfl
    have token : Token.ofChar? o.symbol = some (.operator o) := by cases o <;> rfl
    show Token.scan (o.symbol :: rest) = _
    rw [Token.scan, other, token]
    rfl
  | opening =>
    show Token.scan ('(' :: rest) = _
    rw [Token.scan]
    rfl
  | closing =>
    show Token.scan (')' :: rest) = _
    rw [Token.scan]
    rfl

/-- Tokens that fit are the tokens of their text. -/
theorem scan_spell {p : Option Char} {ts : List Token} (lexed : Lexed p ts none) :
    Token.scan (spell ts) = .ok ts := by
  induction ts generalizing p with
  | nil => rw [Token.spell_nil, Token.scan]
  | cons t ts ih =>
    obtain ⟨fits, rest⟩ := lexed
    rw [Option.or_none] at fits
    rw [Token.spell_cons, scan_text_append fits, ih rest]
    rfl

/-- After as many digits as there are at the front of a text no digit follows. -/
theorem head?_dropWhile_digits (s : List Char) : ∀ c ∈ (s.dropWhile isDigit).head?, isDigit c = false := by
  intro c head
  have stop := List.head?_dropWhile_not isDigit s
  rw [head] at stop
  exact stop

theorem of_ofChar? {c : Char} {t : Token} (found : Token.ofChar? c = some t) :
    t.text = [c] ∧ ∀ p n, t.Fits p n := by
  unfold Token.ofChar? at found
  split_ifs at found with unit opening closing
  · cases found
    exact ⟨by rw [unit]; rfl, fun p n => ⟨nofun, fun ne => absurd rfl ne⟩⟩
  · cases found
    exact ⟨by rw [opening]; rfl, fun p n => trivial⟩
  · cases found
    exact ⟨by rw [closing]; rfl, fun p n => trivial⟩
  · obtain ⟨o, symbol, rfl⟩ := Option.map_eq_some_iff.mp found
    exact ⟨by rw [← Operation.symbol_of_ofSymbol? symbol]; rfl, fun p n => trivial⟩

/-- A text does not go on with a digit unless the character before it is none. -/
theorem not_isDigit_before {p : Option Char} {d : Char} {s : List Char} (digit : isDigit d = true)
    (start : ∀ c ∈ p, isDigit c = true → ∀ a ∈ (d :: s).head?, isDigit a = false) :
    ∀ c ∈ p, isDigit c = false := by
  intro c mem
  by_contra other
  rw [Bool.not_eq_false] at other
  rw [start c mem other d rfl] at digit
  cases digit

theorem digits_cons_takeWhile {d : Char} (digit : isDigit d = true) (s : List Char) :
    ∀ c ∈ d :: s.takeWhile isDigit, isDigit c = true :=
  List.forall_mem_cons.mpr ⟨digit, fun _ mem => List.mem_takeWhile_imp mem⟩

/-- The tokens of a text spell it and fit, unless the text goes on with digits that stand before it. -/
theorem lexed_of_scan {s : List Char} {ts : List Token} (scanned : Token.scan s = .ok ts)
    {p : Option Char} (start : ∀ c ∈ p, isDigit c = true → ∀ a ∈ s.head?, isDigit a = false) :
    spell ts = s ∧ Lexed p ts none := by
  -- The cases are those of `scan`; the rest of the text comes after the last character of the token.
  fun_induction Token.scan s generalizing ts p with
  | case1 =>
    cases scanned
    exact ⟨rfl, trivial⟩
  | case2 d rest digit digits after found =>
    rename_i ih
    obtain ⟨us, scannedRest, same⟩ := of_bind_ok scanned
    cases same
    obtain ⟨spelled, lexed⟩ := ih scannedRest (p := some 'i') fun c mem digit => by
      cases mem
      cases digit
    refine ⟨?_, ⟨digits_cons_takeWhile digit rest, fun _ => not_isDigit_before digit start⟩, ?_⟩
    · rw [Token.spell_cons, spelled, Token.text, if_pos rfl, List.append_assoc]
      show d :: (rest.takeWhile isDigit ++ 'i' :: after) = d :: rest
      rw [← found, List.takeWhile_append_dropWhile]
    · rw [Token.text, if_pos rfl, List.getLast?_append]
      exact lexed
  | case3 d rest digit digits other =>
    rename_i ih
    obtain ⟨us, scannedRest, same⟩ := of_bind_ok scanned
    cases same
    have stop := head?_dropWhile_digits rest
    obtain ⟨spelled, lexed⟩ := ih scannedRest fun c mem digit a head => stop a head
    refine ⟨?_, ⟨List.cons_ne_nil _ _, digits_cons_takeWhile digit rest,
      not_isDigit_before digit start, ?_⟩, lexed⟩
    · rw [Token.spell_cons, spelled, Token.text, if_neg Bool.false_ne_true, List.append_nil]
      show d :: (rest.takeWhile isDigit ++ rest.dropWhile isDigit) = d :: rest
      rw [List.takeWhile_append_dropWhile]
    · rw [spelled, Option.or_none]
      -- The unit in this place would have been taken along.
      refine fun c head => ⟨stop c head, ?_⟩
      rintro rfl
      obtain ⟨after, unit⟩ := List.head?_eq_some_iff.mp head
      exact other after unit
  | case4 c rest other t found ih =>
    obtain ⟨us, scannedRest, same⟩ := of_bind_ok scanned
    cases same
    obtain ⟨text, fits⟩ := of_ofChar? found
    obtain ⟨spelled, lexed⟩ := ih scannedRest (p := some c) fun c' mem digit => by
      cases mem
      exact absurd digit other
    refine ⟨?_, fits _ _, ?_⟩
    · rw [Token.spell_cons, spelled, text]
      rfl
    · rw [text]
      exact lexed
  | case5 => cases scanned

/-- **The tokens of a text** are the ones that spell it and fit. -/
theorem scan_eq_ok_iff {s : List Char} {ts : List Token} :
    Token.scan s = .ok ts ↔ spell ts = s ∧ Lexed none ts none := by
  constructor
  · exact fun scanned => lexed_of_scan scanned nofun
  · rintro ⟨rfl, lexed⟩
    exact scan_spell lexed

/-! ## The ends of a row of tokens -/

/-- The first character of a token tells its class. -/
theorem Token.Fits.head {t : Token} {p n : Option Char} (fits : t.Fits p n) :
    ∃ c, t.text.head? = some c ∧ (c = '(' ↔ t = .opening) ∧
      ((isDigit c = true ∨ c = 'i') ↔ ∃ ds unit, t = .numeral ds unit) := by
  have number {c : Char} (start : isDigit c = true ∨ c = 'i') (ds : List Char) (unit : Bool) :
      (c = '(' ↔ Token.numeral ds unit = .opening) ∧
        ((isDigit c = true ∨ c = 'i') ↔ ∃ ds' unit', Token.numeral ds unit = .numeral ds' unit') := by
    refine ⟨iff_of_false ?_ nofun, iff_of_true start ⟨ds, unit, rfl⟩⟩
    rintro rfl
    revert start
    decide
  cases t with
  | numeral ds unit =>
    cases unit with
    | false =>
      obtain ⟨ne, digits, -⟩ := fits
      obtain ⟨d, ds, rfl⟩ := List.exists_cons_of_ne_nil ne
      exact ⟨d, rfl, number (Or.inl (digits d List.mem_cons_self)) _ _⟩
    | true =>
      cases ds with
      | nil => exact ⟨'i', rfl, number (Or.inr rfl) _ _⟩
      | cons d ds => exact ⟨d, rfl, number (Or.inl (fits.1 d List.mem_cons_self)) _ _⟩
  | operator o =>
    refine ⟨o.symbol, rfl, iff_of_false o.symbol_ne_parenthesis.1 nofun, iff_of_false ?_ nofun⟩
    cases o <;> decide
  | opening => exact ⟨'(', rfl, iff_of_true rfl rfl, iff_of_false (by decide) nofun⟩
  | closing => exact ⟨')', rfl, iff_of_false (by decide) nofun, iff_of_false (by decide) nofun⟩

/-- The last character of a token tells whether it is a closing parenthesis. -/
theorem Token.Fits.last {t : Token} {p n : Option Char} (fits : t.Fits p n) :
    ∃ z, t.text.getLast? = some z ∧ (z = ')' ↔ t = .closing) := by
  cases t with
  | numeral ds unit =>
    cases unit with
    | false =>
      obtain ⟨ne, digits, -⟩ := fits
      refine ⟨ds.getLast ne, ?_, iff_of_false (fun closing => ?_) nofun⟩
      · rw [Token.text, if_neg Bool.false_ne_true, List.append_nil, List.getLast?_eq_some_getLast ne]
      · have digit := digits _ (List.getLast_mem ne)
        rw [closing] at digit
        cases digit
    | true =>
      refine ⟨'i', ?_, iff_of_false (by decide) nofun⟩
      rw [Token.text, if_pos rfl, List.getLast?_append]
      rfl
  | operator o => exact ⟨o.symbol, rfl, iff_of_false o.symbol_ne_parenthesis.2 nofun⟩
  | opening => exact ⟨'(', rfl, iff_of_false (by decide) nofun⟩
  | closing => exact ⟨')', rfl, iff_of_true rfl rfl⟩

/-- A numeral that fits between its neighbours consists of digits, with the unit or without it. -/
theorem Token.Fits.digits {ds : List Char} {unit : Bool} {p n : Option Char}
    (fits : (Token.numeral ds unit).Fits p n) : ∀ d ∈ ds, isDigit d = true := by
  cases unit with
  | false => exact fits.2.1
  | true => exact fits.1

/-- No token is spelled by the empty text, so texts get shorter with each token that is cut off. -/
theorem Token.Fits.text_ne_nil {t : Token} {p n : Option Char} (fits : t.Fits p n) : t.text ≠ [] := by
  obtain ⟨c, head, -⟩ := fits.head
  intro empty
  rw [empty] at head
  cases head

/-- A row of tokens that fit may stand next to another one when their texts may. -/
theorem Lexed.adjoins_iff {p q n n' : Option Char} {ts ts' : List Token} (lexed : Lexed p ts n)
    (lexed' : Lexed q ts' n') (ne : ts ≠ []) (ne' : ts' ≠ []) :
    Adjoins (spell ts) (spell ts') ↔ Adjoin ts ts' := by
  -- Both sides are about the last token of the one row and the first token of the other.
  obtain ⟨us, t, rfl⟩ := List.eq_nil_or_concat' ts |>.resolve_left ne
  obtain ⟨t', us', rfl⟩ := List.exists_cons_of_ne_nil ne'
  obtain ⟨z, last, closing⟩ := (Lexed.append_iff.mp lexed).2.1.last
  obtain ⟨c, head, opening, number⟩ := lexed'.1.head
  have lastChar : (spell (us ++ [t])).getLast? = some z := by
    rw [Token.spell_append, Token.spell_cons, Token.spell_nil, List.append_nil, List.getLast?_append,
      last]
    rfl
  have firstChar : (spell (t' :: us')).head? = some c := by
    rw [Token.spell_cons, List.head?_append, head]
    rfl
  simp only [Adjoins, Adjoin, lastChar, firstChar, List.getLast?_append, List.head?_cons,
    List.getLast?_singleton, Option.some_or, Option.some_inj, closing, opening]
  refine or_congr_right (and_congr_right fun _ => ?_)
  rw [← number]
  constructor
  · rintro ⟨c', rfl, start⟩
    exact start
  · exact fun start => ⟨c, rfl, start⟩

/-! ## The same trees -/

theorem Phrase.ne_nil {k : Category} {ts : List Token} {t : SyntaxTree} (phrase : Phrase k ts t) :
    ts ≠ [] := by
  induction phrase with
  | term _ ih | factor _ ih | atom _ ih => exact ih
  | sum | product | power => exact List.append_ne_nil_of_right_ne_nil _ (List.cons_ne_nil _ _)
  | adjoined _ _ _ ih _ => exact List.append_ne_nil_of_left_ne_nil ih _
  | negative | numeral | parentheses => exact List.cons_ne_nil _ _

/-- The text of tokens that fit does not end where they do not. -/
theorem Lexed.exists_ends {p n : Option Char} {ts : List Token} (lexed : Lexed p ts n) (ne : ts ≠ []) :
    (∃ c, (spell ts).head? = some c) ∧ ∃ z, (spell ts).getLast? = some z := by
  have nonempty : spell ts ≠ [] := by
    obtain ⟨t, us, rfl⟩ := List.exists_cons_of_ne_nil ne
    obtain ⟨c, head, -⟩ := lexed.1.head
    obtain ⟨tail, text⟩ := List.head?_eq_some_iff.mp head
    rw [Token.spell_cons, text]
    exact List.cons_ne_nil _ _
  exact ⟨⟨_, List.head?_eq_some_head nonempty⟩, ⟨_, List.getLast?_eq_some_getLast nonempty⟩⟩

theorem spell_operator (ts ts' : List Token) (o : Operation) :
    spell (ts ++ .operator o :: ts') = spell ts ++ o.symbol :: spell ts' :=
  Token.spell_append _ _

theorem spell_parentheses (ts : List Token) :
    spell (.opening :: (ts ++ [.closing])) = '(' :: (spell ts ++ [')']) := by
  rw [Token.spell_cons, Token.spell_append]
  rfl

theorem spell_number (ds : List Char) : spell [.numeral ds false] = ds := by
  rw [Token.spell_cons, Token.spell_nil, Token.text, if_neg Bool.false_ne_true, List.append_nil,
    List.append_nil]

theorem spell_imaginary (ds : List Char) : spell [.numeral ds true] = ds ++ ['i'] := by
  rw [Token.spell_cons, Token.spell_nil, Token.text, if_pos rfl, List.append_nil]
  rfl

/-- An operator tells the tokens before and after it apart. -/
theorem Lexed.operator_iff {p n : Option Char} {ts ts' : List Token} {o : Operation} :
    Lexed p (ts ++ .operator o :: ts') n ↔
      Lexed p ts (some o.symbol) ∧ Lexed (some o.symbol) ts' n := by
  rw [Lexed.append_iff]
  exact and_congr_right fun _ => and_iff_right trivial

/-- Inside of parentheses the neighbours are the parentheses themselves, and so what stands outside cannot
lengthen a number inside. -/
theorem Lexed.parentheses_iff {p n : Option Char} {ts : List Token} :
    Lexed p (.opening :: (ts ++ [.closing])) n ↔ Lexed (some '(') ts (some ')') := by
  refine (and_iff_right trivial).trans (Lexed.append_iff.trans ?_)
  exact and_iff_left ⟨trivial, trivial⟩

/-- What is derived over tokens is derived over their text. -/
theorem Phrase.derives {k : Category} {ts : List Token} {t : SyntaxTree} (phrase : Phrase k ts t)
    {p n : Option Char} (lexed : Lexed p ts n) : Derives k p (spell ts) n t := by
  induction phrase generalizing p n with
  | term _ ih => exact .term (ih lexed)
  | factor _ ih => exact .factor (ih lexed)
  | atom _ ih => exact .atom (ih lexed)
  | sum o low _ _ left right =>
    obtain ⟨before, after⟩ := Lexed.operator_iff.mp lexed
    rw [spell_operator]
    exact .sum o low (left before) (right after)
  | product o low _ _ left right =>
    obtain ⟨before, after⟩ := Lexed.operator_iff.mp lexed
    rw [spell_operator]
    exact .product o low (left before) (right after)
  | power _ _ left right =>
    obtain ⟨before, after⟩ := Lexed.operator_iff.mp lexed
    rw [spell_operator]
    exact .power (left before) (right after)
  | adjoined adjoin first second left right =>
    obtain ⟨before, after⟩ := Lexed.append_iff.mp lexed
    obtain ⟨c, head⟩ := (after.exists_ends second.ne_nil).1
    obtain ⟨z, last⟩ := (before.exists_ends first.ne_nil).2
    have adjoins := (before.adjoins_iff after first.ne_nil second.ne_nil).mpr adjoin
    -- Neither text is empty, so each one is the neighbour of the other.
    rw [Token.spell_append]
    refine .adjoined adjoins (left ?_) (right ?_)
    · rwa [head] at before ⊢
    · rwa [last] at after ⊢
  | negative _ ih => exact .negative (ih lexed.2)
  | @numeral ds unit =>
    obtain ⟨fits, -⟩ := lexed
    cases unit with
    | false =>
      obtain ⟨ne, digits, before, after⟩ := fits
      rw [spell_number]
      exact .digits ne digits before fun c next => (after c next).1
    | true =>
      obtain ⟨digits, before⟩ := fits
      rw [spell_imaginary]
      exact .unit digits before
  | parentheses _ ih =>
    rw [spell_parentheses]
    exact .parentheses (ih (Lexed.parentheses_iff.mp lexed))

/-- No number at the end of a text goes on with the next character. -/
def EndsBefore (s : List Char) (n : Option Char) : Prop :=
  ∀ c ∈ n, isDigit c = true ∨ c = 'i' → s.getLast? = some ')'

namespace EndsBefore

variable {s s' : List Char} {n : Option Char}

/-- Before a character that no number goes on with, every text may end. -/
theorem of_other {c : Char} (other : ¬ (isDigit c = true ∨ c = 'i')) : EndsBefore s (some c) := by
  rintro _ ⟨⟩ goesOn
  exact absurd goesOn other

theorem of_operator (o : Operation) : EndsBefore s (some o.symbol) := by
  refine of_other ?_
  cases o <;> decide

theorem of_adjoins (adjoins : Adjoins s s') : EndsBefore s s'.head? := by
  rcases adjoins with opening | ⟨closing, -⟩
  · rw [opening]
    exact of_other (by decide)
  · exact fun _ _ _ => closing

theorem right (ends : EndsBefore (s ++ s') n) (edges : Edges s') : EndsBefore s' n := by
  obtain ⟨z, last, -⟩ := edges.ends
  intro c mem goesOn
  have whole := ends c mem goesOn
  rwa [List.getLast?_append, last, Option.some_or, ← last] at whole

/-- A text that ends with another one ends before the same character as this does. -/
theorem right_of_cons {c : Char} (ends : EndsBefore (s ++ c :: s') n) (edges : Edges s') :
    EndsBefore s' n := by
  rw [List.append_cons] at ends
  exact ends.right edges

end EndsBefore

/-- What is derived over characters is derived over their tokens. -/
theorem Derives.exists_phrase {k : Category} {p n : Option Char} {s : List Char} {t : SyntaxTree}
    (derived : Derives k p s n t) (ends : EndsBefore s n) :
    ∃ ts, Phrase k ts t ∧ spell ts = s ∧ Lexed p ts n := by
  induction derived with
  | term _ ih =>
    obtain ⟨ts, phrase, spelled, lexed⟩ := ih ends
    exact ⟨ts, .term phrase, spelled, lexed⟩
  | factor _ ih =>
    obtain ⟨ts, phrase, spelled, lexed⟩ := ih ends
    exact ⟨ts, .factor phrase, spelled, lexed⟩
  | atom _ ih =>
    obtain ⟨ts, phrase, spelled, lexed⟩ := ih ends
    exact ⟨ts, .atom phrase, spelled, lexed⟩
  | sum o low _ second ih ih' =>
    obtain ⟨ts, phrase, rfl, lexed⟩ := ih (.of_operator o)
    obtain ⟨ts', phrase', rfl, lexed'⟩ := ih' (ends.right_of_cons second.edges)
    exact ⟨_, .sum o low phrase phrase', spell_operator ts ts' o,
      Lexed.operator_iff.mpr ⟨lexed, lexed'⟩⟩
  | product o low _ second ih ih' =>
    obtain ⟨ts, phrase, rfl, lexed⟩ := ih (.of_operator o)
    obtain ⟨ts', phrase', rfl, lexed'⟩ := ih' (ends.right_of_cons second.edges)
    exact ⟨_, .product o low phrase phrase', spell_operator ts ts' o,
      Lexed.operator_iff.mpr ⟨lexed, lexed'⟩⟩
  | power _ second ih ih' =>
    obtain ⟨ts, phrase, rfl, lexed⟩ := ih (.of_operator .pow)
    obtain ⟨ts', phrase', rfl, lexed'⟩ := ih' (ends.right_of_cons second.edges)
    exact ⟨_, .power phrase phrase', spell_operator ts ts' .pow,
      Lexed.operator_iff.mpr ⟨lexed, lexed'⟩⟩
  | adjoined adjoins first second ih ih' =>
    obtain ⟨ts, phrase, rfl, lexed⟩ := ih (.of_adjoins adjoins)
    obtain ⟨ts', phrase', rfl, lexed'⟩ := ih' (ends.right second.edges)
    have adjoin := (lexed.adjoins_iff lexed' phrase.ne_nil phrase'.ne_nil).mp adjoins
    obtain ⟨c, head⟩ := (lexed'.exists_ends phrase'.ne_nil).1
    obtain ⟨z, last⟩ := (lexed.exists_ends phrase.ne_nil).2
    refine ⟨_, .adjoined adjoin phrase phrase', Token.spell_append ts ts', Lexed.append_iff.mpr ⟨?_, ?_⟩⟩
    · rwa [head] at lexed ⊢
    · rwa [last] at lexed' ⊢
  | negative derived ih =>
    obtain ⟨ts, phrase, rfl, lexed⟩ := ih (ends.right_of_cons (s := []) derived.edges)
    exact ⟨_, .negative phrase, rfl, trivial, lexed⟩
  | @digits p ds n ne digits before after =>
    refine ⟨_, .numeral, spell_number ds, ⟨ne, digits, before, fun c next => ⟨after c next, ?_⟩⟩, trivial⟩
    -- The unit after digits would be part of the number, as `ends` says.
    rintro rfl
    have closing := digits _ (List.mem_of_getLast? (ends 'i' next (Or.inr rfl)))
    cases closing
  | @unit p ds n digits before =>
    exact ⟨_, .numeral, spell_imaginary ds, ⟨digits, before⟩, trivial⟩
  | parentheses _ ih =>
    obtain ⟨ts, phrase, rfl, lexed⟩ := ih (.of_other (by decide))
    exact ⟨_, .parentheses phrase, spell_parentheses ts, Lexed.parentheses_iff.mpr lexed⟩

/-- **The derivations of a text are those of its tokens.** -/
theorem derives_iff_phrase {s : List Char} {t : SyntaxTree} :
    Derives .sum none s none t ↔ ∃ ts, Token.scan s = .ok ts ∧ Phrase .sum ts t := by
  constructor
  · intro derived
    obtain ⟨ts, phrase, spelled, lexed⟩ := derived.exists_phrase nofun
    exact ⟨ts, scan_eq_ok_iff.mpr ⟨spelled, lexed⟩, phrase⟩
  · rintro ⟨ts, scanned, phrase⟩
    obtain ⟨rfl, lexed⟩ := scan_eq_ok_iff.mp scanned
    exact phrase.derives lexed

end ExactAlgebra
