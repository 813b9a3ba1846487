import ExactAlgebra.Proofs.Phrase
import ExactAlgebra.Proofs.Stripping

/-!
# Texts cut into tokens and the blanks before them

A token may have blanks before it. What is taken from a text for one token is then a piece of the text, a
*lexeme*: the blanks and the token. An expression is kept without blanks, so `Token.scan` looks for none; here
every text is cut, and where there are no blanks the tokens are those that `Token.scan` finds.

A cut takes something each time and leaves nothing out. A row of digits with no digit before or after it is one
numeral of the cut, and the imaginary unit belongs to it exactly when it stands directly after the digits. There
is no other way to cut a text like that, so this says all about the lexemes.

## Main definitions

* `Lexeme`: a token and the blanks before it.
* `Token.first?`: the token that a text starts with.
* `Token.lexemes`: the lexemes of a text, or the first character where none starts.
* `Lexeme.Cut`: what a cut of a text has to be like.

## Main statements

* `Token.first?_eq_some_iff`: what the first token of a text can be.
* `Token.lexemes_eq_ok_iff`: the lexemes of a text are its only cut.
* `Token.scan_eq_lexemes`: they hold the tokens of a text without blanks.
-/

namespace ExactAlgebra

open Text (isBlank isDigit Blank)

/-- A digit of any script is not blank. -/
theorem Text.isBlank_of_isDigit {c : Char} (digit : isDigit c = true) : isBlank c = false := by
  have table : ∀ z ∈ zeros, ∀ k < 10, isBlank (Char.ofNat (z + k)) = false := by decide +kernel
  obtain ⟨n, value⟩ := Option.isSome_iff_exists.mp digit
  obtain ⟨z, found, rfl⟩ := Option.map_eq_some_iff.mp value
  have range := List.find?_some found
  simp only [Bool.and_eq_true, decide_eq_true_eq] at range
  have solid := table z (List.mem_of_find?_eq_some found) (c.toNat - z) (by omega)
  rwa [Nat.add_sub_cancel' range.1, Char.ofNat_toNat] at solid

/-! ## Lexemes -/

/-- A token and the blanks before it. -/
structure Lexeme where
  /-- The blanks. -/
  blanks : List Char
  /-- The token after them. -/
  token : Token
  deriving DecidableEq

/-- The piece of a text that is taken for a token. -/
def Lexeme.text (l : Lexeme) : List Char := l.blanks ++ l.token.text

namespace Token

/-- The token that a text starts with, and the text after it. A numeral goes on as long as there are digits,
and takes the imaginary unit along. -/
def first? : List Char → Option (Token × List Char)
  | [] => none
  | c :: rest =>
    if isDigit c then
      match rest.dropWhile isDigit with
      | 'i' :: after => some (.numeral (c :: rest.takeWhile isDigit) true, after)
      | after => some (.numeral (c :: rest.takeWhile isDigit) false, after)
    else (ofChar? c).map fun t => (t, rest)

/-- What the first token of a text can be: a single character other than a digit, or all digits up to
something else, with the unit if that is what comes next. -/
inductive IsFirst : Token → List Char → List Char → Prop
  | single {t : Token} {c : Char} (rest : List Char) (text : t.text = [c]) (fits : t.Fits none none)
      (other : isDigit c = false) : IsFirst t rest (c :: rest)
  | number {ds after rest : List Char} (unit : Bool) (ne : ds ≠ []) (digits : ∀ d ∈ ds, isDigit d = true)
      (stop : ∀ c ∈ after.head?, isDigit c = false) (taken : unit = decide (after.head? = some 'i'))
      (left : after = (if unit then [unitLetter] else []) ++ rest) :
      IsFirst (.numeral ds unit) rest (ds ++ after)

theorem isFirst_of_first? {cs rest : List Char} {t : Token} (found : first? cs = some (t, rest)) :
    IsFirst t rest cs := by
  cases cs with
  | nil => cases found
  | cons c cs =>
    rw [first?] at found
    split_ifs at found with digit
    · have whole : c :: cs = (c :: cs.takeWhile isDigit) ++ cs.dropWhile isDigit := by
        rw [List.cons_append, List.takeWhile_append_dropWhile]
      have digits := digits_cons_takeWhile digit cs
      have stop := head?_dropWhile_digits cs
      rw [whole]
      split at found
      case h_1 after next =>
        cases found
        rw [next] at stop ⊢
        exact .number true (List.cons_ne_nil _ _) digits stop rfl rfl
      case h_2 other =>
        cases found
        refine .number false (List.cons_ne_nil _ _) digits stop (decide_eq_false ?_).symm rfl
        intro unit
        obtain ⟨after, next⟩ := List.head?_eq_some_iff.mp unit
        exact other after next
    · obtain ⟨t', token, same⟩ := Option.map_eq_some_iff.mp found
      cases same
      obtain ⟨text, fits⟩ := of_ofChar? token
      exact .single _ text (fits _ _) (Bool.not_eq_true _ ▸ digit)

theorem ofChar?_of_text {t : Token} {c : Char} (text : t.text = [c]) (fits : t.Fits none none)
    (other : isDigit c = false) : ofChar? c = some t := by
  cases t with
  | numeral ds unit =>
    cases unit with
    | false =>
      rw [Token.text, if_neg Bool.false_ne_true, List.append_nil] at text
      have digit := fits.digits c (text ▸ List.mem_singleton_self c)
      rw [other] at digit
      cases digit
    | true =>
      obtain ⟨rfl, unit⟩ := List.append_eq_singleton_iff.mp text |>.resolve_right (by simp)
      cases unit
      rfl
  | operator o =>
    cases text
    cases o <;> rfl
  | opening | closing =>
    cases text
    rfl

/-- The first token of a text is the only one that can be. -/
theorem first?_eq_some_iff {cs rest : List Char} {t : Token} :
    first? cs = some (t, rest) ↔ IsFirst t rest cs := by
  refine ⟨isFirst_of_first?, fun first => ?_⟩
  cases first with
  | single rest text fits other =>
    rw [first?, if_neg (Bool.not_eq_true _ ▸ other), ofChar?_of_text text fits other]
    rfl
  | @number ds after rest unit ne digits stop taken left =>
    obtain ⟨d, ds, rfl⟩ := List.exists_cons_of_ne_nil ne
    obtain ⟨run, stopped⟩ := takeWhile_append_of_stop after
      (fun c mem => digits c (List.mem_cons_of_mem d mem)) stop
    rw [List.cons_append, first?, if_pos (digits d List.mem_cons_self), run, stopped]
    cases unit with
    | true => rw [left]; rfl
    | false =>
      split
      case h_1 => cases taken
      case h_2 => rw [left]; rfl

namespace IsFirst

variable {t : Token} {cs rest : List Char}

theorem text_append (first : IsFirst t rest cs) : t.text ++ rest = cs := by
  cases first with
  | single rest text => rw [text, List.singleton_append]
  | number unit _ _ _ _ left => rw [left, text, List.append_assoc]

theorem text_ne_nil (first : IsFirst t rest cs) : t.text ≠ [] := by
  cases first with
  | single rest text => exact text ▸ List.cons_ne_nil _ _
  | number unit ne => exact List.append_ne_nil_of_left_ne_nil ne _

theorem fits (first : IsFirst t rest cs) : t.Fits none none := by
  cases first with
  | single rest text fits => exact fits
  | number unit ne digits =>
    cases unit with
    | false => exact ⟨ne, digits, nofun, nofun⟩
    | true => exact ⟨digits, fun _ => nofun⟩

theorem not_isDigit_last (first : IsFirst t rest cs) (next : ∃ d ∈ rest.head?, isDigit d = true) :
    ∀ c ∈ t.text.getLast?, isDigit c = false := by
  obtain ⟨d, head, digit⟩ := next
  intro c last
  cases first with
  | single rest text fits other =>
    rw [text] at last
    cases last
    exact other
  | number unit ne digits stop taken left =>
    cases unit with
    | true =>
      rw [Token.text, if_pos rfl, List.getLast?_concat] at last
      cases last
      rfl
    | false =>
      rw [left, if_neg Bool.false_ne_true, List.nil_append] at stop
      rw [stop d head] at digit
      cases digit

theorem length_lt (first : IsFirst t rest cs) : rest.length < cs.length := by
  rw [← first.text_append, List.length_append]
  exact Nat.lt_add_of_pos_left (List.length_pos_iff.mpr first.text_ne_nil)

end IsFirst

/-- The lexemes of a text. Where no token starts, the character there, unless it is the end. -/
def lexemes (cs : List Char) : Except Char (List Lexeme) :=
  match _found : first? (cs.dropWhile isBlank) with
  | some (t, rest) => return ⟨cs.takeWhile isBlank, t⟩ :: (← lexemes rest)
  | none => cs.head?.elim (.ok []) .error
termination_by cs.length
decreasing_by
  exact (isFirst_of_first? _found).length_lt.trans_le (List.dropWhile_sublist isBlank).length_le

end Token

/-! ## Rows of digits -/

/-- Digits between two texts, with no digit directly before or after them. -/
structure DigitsWithin (before ds after : List Char) : Prop where
  ne_nil : ds ≠ []
  digits : ∀ d ∈ ds, isDigit d = true
  starts : ∀ c ∈ before.getLast?, isDigit c = false
  stops : ∀ c ∈ after.head?, isDigit c = false

namespace DigitsWithin

variable {before ds after : List Char}

theorem tail {s : List Char} (row : DigitsWithin (s ++ before) ds after) : DigitsWithin before ds after where
  __ := row
  starts c last := row.starts c (by rw [List.getLast?_append, Option.mem_def.mp last]; rfl)

/-- A piece without digits at the start of the text lies before the row. -/
theorem of_append_eq (row : DigitsWithin before ds after) {w s : List Char}
    (other : ∀ c ∈ w, isDigit c = false) (same : w ++ s = before ++ (ds ++ after)) :
    ∃ before', before = w ++ before' ∧ s = before' ++ (ds ++ after) := by
  rcases List.append_eq_append_iff.mp same with ⟨e, split, rest⟩ | ⟨e, split, rest⟩
  · exact ⟨e, split, rest⟩
  · cases e with
    | nil => exact ⟨[], by rw [split, List.append_nil, List.append_nil], rest.symm⟩
    | cons c e =>
      -- The row would start inside of the piece.
      obtain ⟨d, ds', rfl⟩ := List.exists_cons_of_ne_nil row.ne_nil
      obtain ⟨rfl, -⟩ := List.cons.inj rest
      have digit := row.digits d List.mem_cons_self
      rw [other d (split ▸ List.mem_append_right _ List.mem_cons_self)] at digit
      cases digit

/-- Nothing but the row is taken for a numeral at the start of a text. -/
theorem unique (row : DigitsWithin [] ds after) {ds' after' : List Char}
    (digits : ∀ d ∈ ds', isDigit d = true) (stop : ∀ c ∈ after'.head?, isDigit c = false)
    (same : ds' ++ after' = ds ++ after) : ds' = ds ∧ after' = after := by
  obtain ⟨taken, dropped⟩ := takeWhile_append_of_stop after row.digits row.stops
  obtain ⟨taken', dropped'⟩ := takeWhile_append_of_stop after' digits stop
  rw [same] at taken' dropped'
  exact ⟨taken'.symm.trans taken, dropped'.symm.trans dropped⟩

/-- A row of digits is the first token of its text, or comes after it. -/
theorem of_isFirst (row : DigitsWithin before ds after) {t : Token} {rest : List Char}
    (first : Token.IsFirst t rest (before ++ (ds ++ after))) :
    (before = [] ∧ t = .numeral ds (decide (after.head? = some 'i'))) ∨
      ∃ before', before = t.text ++ before' ∧ rest = before' ++ (ds ++ after) := by
  generalize same : before ++ (ds ++ after) = cs at first
  cases first with
  | @single t c rest text _ other =>
    refine Or.inr ?_
    rw [text]
    exact row.of_append_eq (fun c' mem => List.mem_singleton.mp mem ▸ other) same.symm
  | @number ds' after' rest unit ne digits stop taken left =>
    by_cases start : before = []
    · subst start
      obtain ⟨rfl, rfl⟩ := row.unique digits stop same.symm
      exact Or.inl ⟨rfl, by rw [taken]⟩
    · refine Or.inr ?_
      rcases List.append_eq_append_iff.mp same.symm with ⟨e, split, next⟩ | ⟨e, split, -⟩
      · subst split
        have other : ∀ c ∈ (if unit then [Token.unitLetter] else []), isDigit c = false := by
          cases unit with
          | false => exact fun c mem => nomatch mem
          | true => exact fun c mem => List.mem_singleton.mp mem ▸ rfl
        obtain ⟨before', rfl, rest⟩ := row.tail.of_append_eq other (left.symm.trans next)
        exact ⟨before', by rw [Token.text, List.append_assoc], rest⟩
      · -- A digit would stand directly before the row.
        have digit := digits _ (split ▸ List.mem_append_left e (List.getLast_mem start))
        rw [row.starts _ (List.getLast?_eq_some_getLast start)] at digit
        cases digit

end DigitsWithin

/-! ## Cuts -/

namespace Lexeme

/-- What the cut of a text into lexemes has to be like. -/
structure Cut (cs : List Char) (ls : List Lexeme) : Prop where
  /-- Every lexeme takes something. -/
  ne_nil : ∀ l ∈ ls, l.text ≠ []
  /-- Nothing is left out. -/
  whole : ls.flatMap Lexeme.text = cs
  /-- Only blanks are skipped. -/
  blank : ∀ l ∈ ls, Blank l.blanks
  /-- What is not skipped is a token. -/
  fits : ∀ l ∈ ls, l.token.Fits none none
  /-- A row of digits is one numeral, together with the unit directly after it. -/
  digits : ∀ {before ds after : List Char}, DigitsWithin before ds after → cs = before ++ (ds ++ after) →
    ∃ xs l ys, ls = xs ++ l :: ys ∧ before = xs.flatMap Lexeme.text ++ l.blanks ∧
      l.token = .numeral ds (decide (after.head? = some 'i'))

variable {cs rest : List Char} {l : Lexeme} {ls : List Lexeme} {t : Token}

theorem Cut.nil : Cut [] [] where
  ne_nil := nofun
  whole := rfl
  blank := nofun
  fits := nofun
  digits row same := by
    obtain ⟨-, empty⟩ := List.append_eq_nil_iff.mp same.symm
    exact absurd (List.append_eq_nil_iff.mp empty).1 row.ne_nil

theorem not_isDigit_of_blank {w : List Char} (blank : Blank w) : ∀ c ∈ w, isDigit c = false := by
  intro c mem
  by_contra digit
  rw [Bool.not_eq_false] at digit
  have solid := Text.isBlank_of_isDigit digit
  rw [blank c mem] at solid
  cases solid

/-- **One more lexeme in front**: the blanks that the text begins with and its first token, before a cut of what
comes after the token. This is the step of the induction over a text. -/
theorem Cut.cons (first : Token.IsFirst t rest (cs.dropWhile isBlank)) (cut : Cut rest ls) :
    Cut cs (⟨cs.takeWhile isBlank, t⟩ :: ls) where
  ne_nil := List.forall_mem_cons.mpr
    ⟨List.append_ne_nil_of_right_ne_nil _ first.text_ne_nil, cut.ne_nil⟩
  whole := by
    rw [List.flatMap_cons, cut.whole, Lexeme.text, List.append_assoc, first.text_append,
      List.takeWhile_append_dropWhile]
  blank := List.forall_mem_cons.mpr ⟨fun c => List.mem_takeWhile_imp, cut.blank⟩
  fits := List.forall_mem_cons.mpr ⟨first.fits, cut.fits⟩
  digits {before ds after} row same := by
    -- The row comes after the blanks, and is the first token or comes after that too.
    obtain ⟨before', start, afterBlanks⟩ := row.of_append_eq
      (not_isDigit_of_blank fun c => List.mem_takeWhile_imp) (List.takeWhile_append_dropWhile.trans same)
    rw [start] at row
    rw [afterBlanks] at first
    rcases row.tail.of_isFirst first with ⟨rfl, token⟩ | ⟨before'', rfl, afterToken⟩
    · exact ⟨[], _, ls, rfl, by rw [start, List.append_nil]; rfl, token⟩
    · obtain ⟨xs, l, ys, rfl, split, token⟩ := cut.digits row.tail.tail afterToken
      refine ⟨_ :: xs, l, ys, rfl, ?_, token⟩
      rw [start, split, List.flatMap_cons, Lexeme.text, List.append_assoc, List.append_assoc]

/-! ## The only cut -/

theorem not_isBlank_of_fits (fits : t.Fits none none) : ∀ c ∈ t.text.head?, isBlank c = false := by
  intro c first
  cases t with
  | numeral ds unit =>
    rcases ds with _ | ⟨d, ds⟩
    · cases unit with
      | false => exact absurd rfl fits.1
      | true =>
        cases first
        rfl
    · cases first
      exact Text.isBlank_of_isDigit (fits.digits _ List.mem_cons_self)
  | operator o =>
    cases first
    cases o <;> rfl
  | opening | closing =>
    cases first
    rfl

/-- Nothing ends within the blanks of the first lexeme but these. -/
theorem eq_first_of_blanks {xs ys : List Lexeme} {l' : Lexeme} (split : l :: ls = xs ++ l' :: ys)
    (blanks : l.blanks = xs.flatMap Lexeme.text ++ l'.blanks) (some : l.token.text ≠ []) : l' = l := by
  cases xs with
  | nil => exact (List.cons.inj split).1.symm
  | cons x xs =>
    obtain ⟨rfl, -⟩ := List.cons.inj split
    have lengths := congrArg List.length blanks
    have pos := List.length_pos_iff.mpr some
    simp only [List.flatMap_cons, Lexeme.text, List.length_append] at lengths
    omega

namespace Cut

variable (cut : Cut cs (l :: ls))
include cut

theorem eq_append : cs = l.blanks ++ (l.token.text ++ ls.flatMap Lexeme.text) := by
  rw [← cut.whole, List.flatMap_cons, Lexeme.text, List.append_assoc]

/-- The token of the first lexeme is the first token after the blanks. -/
theorem isFirst : Token.IsFirst l.token (ls.flatMap Lexeme.text) (l.token.text ++ ls.flatMap Lexeme.text) := by
  have fits := cut.fits l List.mem_cons_self
  have blank := cut.blank l List.mem_cons_self
  have same := cut.eq_append
  obtain ⟨w, t⟩ := l
  cases t with
  | operator o => exact .single _ rfl fits (by cases o <;> rfl)
  | opening | closing => exact .single _ rfl fits rfl
  | numeral ds unit =>
    rcases eq_or_ne ds [] with rfl | ne
    · cases unit with
      | false => exact absurd rfl fits.1
      | true => exact .single _ rfl fits rfl
    · -- All digits up to something else are one numeral of the cut, and it can only be this one.
      rw [Token.text, List.append_assoc] at same ⊢
      generalize next : (if unit then [Token.unitLetter] else []) ++ ls.flatMap Lexeme.text = s at same ⊢
      have row : DigitsWithin w (ds ++ s.takeWhile isDigit) (s.dropWhile isDigit) :=
        { ne_nil := List.append_ne_nil_of_left_ne_nil ne _
          digits := List.forall_mem_append.mpr ⟨fits.digits, fun c => List.mem_takeWhile_imp⟩
          starts := fun c last => not_isDigit_of_blank blank c (List.mem_of_getLast? last)
          stops := head?_dropWhile_digits s }
      obtain ⟨xs, l', ys, split, blanks, token⟩ := cut.digits row (by
        rw [same, List.append_assoc ds, List.takeWhile_append_dropWhile])
      rw [eq_first_of_blanks split blanks fits.text_ne_nil] at token
      obtain ⟨digits, taken⟩ := Token.numeral.inj token
      have none : s.takeWhile isDigit = [] := List.self_eq_append_right.mp digits
      have left : s.dropWhile isDigit = s := by
        have parts := List.takeWhile_append_dropWhile (p := isDigit) (l := s)
        rwa [none, List.nil_append] at parts
      rw [left] at taken
      exact .number unit ne fits.digits (left ▸ head?_dropWhile_digits s) taken next.symm

theorem tail : Cut (ls.flatMap Lexeme.text) ls where
  ne_nil l' mem := cut.ne_nil l' (List.mem_cons_of_mem l mem)
  whole := rfl
  blank l' mem := cut.blank l' (List.mem_cons_of_mem l mem)
  fits l' mem := cut.fits l' (List.mem_cons_of_mem l mem)
  digits {before ds after} row same := by
    have some := (cut.fits l List.mem_cons_self).text_ne_nil
    have starts : ∀ c ∈ (l.text ++ before).getLast?, isDigit c = false := by
      intro c last
      rcases List.eq_nil_or_concat' before with rfl | ⟨b, d, rfl⟩
      · obtain ⟨d, ds, rfl⟩ := List.exists_cons_of_ne_nil row.ne_nil
        refine cut.isFirst.not_isDigit_last ⟨d, by rw [same]; rfl, row.digits d List.mem_cons_self⟩ c ?_
        rwa [List.append_nil, Lexeme.text, List.getLast?_append_of_ne_nil _ some] at last
      · rw [← List.append_assoc, List.getLast?_concat] at last
        exact row.starts c (by rwa [List.getLast?_concat])
    obtain ⟨xs, l', ys, split, place, token⟩ := cut.digits { row with starts := starts } (by
      rw [cut.eq_append, same, Lexeme.text, List.append_assoc, List.append_assoc])
    cases xs with
    | nil =>
      -- The row would be the first token, and it comes after that.
      obtain ⟨rfl, -⟩ := List.cons.inj split
      have lengths := congrArg List.length place
      have pos := List.length_pos_iff.mpr some
      simp only [List.flatMap_nil, List.nil_append, Lexeme.text, List.length_append] at lengths
      omega
    | cons x xs =>
      obtain ⟨rfl, rest⟩ := List.cons.inj split
      rw [List.flatMap_cons, List.append_assoc] at place
      exact ⟨xs, l', ys, rest, List.append_cancel_left place, token⟩

end Cut

end Lexeme

namespace Token

theorem lexemes_of_first? {cs rest : List Char} {t : Token}
    (found : first? (cs.dropWhile isBlank) = some (t, rest)) :
    lexemes cs = (do return ⟨cs.takeWhile isBlank, t⟩ :: (← lexemes rest)) := by
  rw [lexemes]
  split
  case h_1 found' =>
    rw [found] at found'
    cases found'
    rfl
  case h_2 none =>
    rw [found] at none
    cases none

theorem lexemes_of_none {cs : List Char} (none : first? (cs.dropWhile isBlank) = none) :
    lexemes cs = cs.head?.elim (.ok []) .error := by
  rw [lexemes]
  split
  case h_1 found =>
    rw [none] at found
    cases found
  case h_2 => rfl

/-- **The lexemes of a text** are its only cut. -/
theorem lexemes_eq_ok_iff {cs : List Char} {ls : List Lexeme} : lexemes cs = .ok ls ↔ Lexeme.Cut cs ls := by
  constructor
  · intro ok
    fun_induction lexemes cs generalizing ls with
    | case1 cs t rest found ih =>
      obtain ⟨us, cut, same⟩ := of_bind_ok ok
      cases same
      exact .cons (isFirst_of_first? found) (ih cut)
    | case2 cs none =>
      cases cs with
      | nil =>
        cases ok
        exact .nil
      | cons c cs => cases ok
  · intro cut
    induction ls generalizing cs with
    | nil =>
      rw [← cut.whole]
      exact lexemes_of_none rfl
    | cons l ls ih =>
      have fits := cut.fits l List.mem_cons_self
      obtain ⟨blanks, solid⟩ := takeWhile_append_of_stop (l.token.text ++ ls.flatMap Lexeme.text)
        (cut.blank l List.mem_cons_self) fun c first => Lexeme.not_isBlank_of_fits fits c (by
          rwa [List.head?_append_of_ne_nil _ fits.text_ne_nil] at first)
      rw [← cut.eq_append] at blanks solid
      rw [lexemes_of_first? (solid ▸ first?_eq_some_iff.mpr cut.isFirst), blanks, ih cut.tail]
      rfl

/-- The unit is no part of a numeral when there is a blank before it. -/
example : lexemes [' ', '1', '2', ' ', 'i'] =
    .ok [⟨[' '], .numeral ['1', '2'] false⟩, ⟨[' '], .numeral [] true⟩] := by decide +kernel

/-- The scanner takes one token after the other. -/
theorem scan_eq_first? (cs : List Char) :
    scan cs =
      match first? cs with
      | some (t, rest) => return t :: (← scan rest)
      | none => cs.head?.elim (.ok []) .error := by
  cases cs with
  | nil =>
    rw [scan]
    rfl
  | cons c cs =>
    rw [scan, first?]
    split_ifs with digit
    · split
      case h_1 after next => simp only [next]
      case h_2 other =>
        split
        case h_1 found =>
          split at found
          case h_1 after next => exact absurd next (other after)
          case h_2 =>
            cases found
            rfl
        case h_2 none =>
          split at none <;> cases none
    · cases ofChar? c <;> rfl

/-- Where there are no blanks the lexemes hold the tokens that the scanner finds. -/
theorem scan_eq_lexemes {cs : List Char} (solid : ∀ c ∈ cs, isBlank c = false) :
    scan cs = (lexemes cs).map (List.map Lexeme.token) := by
  have start {s : List Char} (solid : ∀ c ∈ s, isBlank c = false) : s.dropWhile isBlank = s :=
    (takeWhile_append_of_stop s (List.forall_mem_nil _) fun c head => solid c (List.mem_of_mem_head? head)).2
  fun_induction lexemes cs with
  | case1 cs t rest found ih =>
    rw [start solid] at found
    have whole := (isFirst_of_first? found).text_append
    rw [scan_eq_first?, found]
    show (scan rest >>= _) = _
    rw [ih fun c mem => solid c (whole ▸ List.mem_append_right _ mem)]
    cases lexemes rest <;> rfl
  | case2 cs none =>
    rw [start solid] at none
    rw [scan_eq_first?, none]
    cases cs <;> rfl

end Token

end ExactAlgebra
