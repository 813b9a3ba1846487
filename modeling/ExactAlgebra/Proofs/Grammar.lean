import ExactAlgebra.Expression.Evaluation
import Mathlib.Data.List.Chain

/-!
# The grammar of expressions

The texts that have a value, and the syntax trees that say which one. The grammar is

    E := T (('+' | '-') T)*
    T := F (('*' | '/') F | J)*
    F := '-' F | A ['^' F]
    A := digits | [digits] 'i' | '(' E ')'

where a row of digits is taken as long as it goes, and where `J` is an `F` that starts with a parenthesis,
or with a number directly after a closing parenthesis. Repetitions group to the left. In addition no two minuses
stand side by side.

Since neighbouring characters matter in two places, a derivation is about a piece of text between the
character before it and the character after it.

## Main definitions

* `SyntaxTree`, `SyntaxTree.value`: the trees, and their values from left to right.
* `Category`, `Derives`: the grammar.
* `Grammatical`: the texts of the grammar, without neighbouring minuses.

## Main statements

* `Derives.edges`: the first and the last character of a derived text.
* `Derives.count_parentheses`: parentheses come in pairs.
* `Grammatical.operatorsFit`: the check of neighbours lets every text of the grammar pass.
-/

namespace ExactAlgebra

/-- What an expression says. -/
inductive SyntaxTree where
  /-- A number, with the imaginary unit or not. -/
  | numeral (digits : List Char) (unit : Bool)
  /-- The negative of an operand. -/
  | negative (operand : SyntaxTree)
  /-- An operation on two operands. -/
  | binary (o : Operation) (left right : SyntaxTree)

/-- The value of a tree: first the left operand, then the right one, then the operation. -/
def SyntaxTree.value : SyntaxTree → Except Error Quantity
  | .numeral digits unit => .ok (Token.numeralValue digits unit)
  | .negative operand => do return -(← operand.value)
  | .binary o left right => do
    let a ← left.value
    let b ← right.value
    o.apply a b

/-- The symbols of the grammar that stand for pieces of text. -/
inductive Category where
  /-- `E`: summands. -/
  | sum
  /-- `T`: factors. -/
  | term
  /-- `F`: an operand with the powers after it. -/
  | factor
  /-- `A`: a number, or an expression in parentheses. -/
  | atom

/-- The second text may stand next to the first as a factor: it starts with a parenthesis, or with a
number after a closing parenthesis. -/
def Adjoins (s s' : List Char) : Prop :=
  s'.head? = some '(' ∨
    s.getLast? = some ')' ∧ ∃ c, s'.head? = some c ∧ (Text.isDigit c = true ∨ c = 'i')

/-- The text between two characters is derived from a category, with its tree. -/
inductive Derives : Category → Option Char → List Char → Option Char → SyntaxTree → Prop
  | term {p s n t} : Derives .term p s n t → Derives .sum p s n t
  | sum {p s s' n l r} (o : Operation) : o = .add ∨ o = .subtract →
      Derives .sum p s (some o.symbol) l → Derives .term (some o.symbol) s' n r →
      Derives .sum p (s ++ o.symbol :: s') n (.binary o l r)
  | factor {p s n t} : Derives .factor p s n t → Derives .term p s n t
  | product {p s s' n l r} (o : Operation) : o = .multiply ∨ o = .divide →
      Derives .term p s (some o.symbol) l → Derives .factor (some o.symbol) s' n r →
      Derives .term p (s ++ o.symbol :: s') n (.binary o l r)
  | adjoined {p s s' n l r} : Adjoins s s' →
      Derives .term p s s'.head? l → Derives .factor s.getLast? s' n r →
      Derives .term p (s ++ s') n (.binary .multiply l r)
  | negative {p s n t} : Derives .factor (some '-') s n t → Derives .factor p ('-' :: s) n (.negative t)
  | atom {p s n t} : Derives .atom p s n t → Derives .factor p s n t
  | power {p s s' n l r} : Derives .atom p s (some '^') l → Derives .factor (some '^') s' n r →
      Derives .factor p (s ++ '^' :: s') n (.binary .pow l r)
  | digits {p ds n} : ds ≠ [] → (∀ d ∈ ds, Text.isDigit d = true) →
      (∀ c ∈ p, Text.isDigit c = false) → (∀ c ∈ n, Text.isDigit c = false) →
      Derives .atom p ds n (.numeral ds false)
  | unit {p ds n} : (∀ d ∈ ds, Text.isDigit d = true) →
      (ds ≠ [] → ∀ c ∈ p, Text.isDigit c = false) →
      Derives .atom p (ds ++ ['i']) n (.numeral ds true)
  | parentheses {p s n t} : Derives .sum (some '(') s (some ')') t →
      Derives .atom p ('(' :: (s ++ [')'])) n t

/-- The texts of the grammar: they are derived as a whole, and no two minuses stand side by side. -/
def Grammatical (s : List Char) (t : SyntaxTree) : Prop :=
  Derives .sum none s none t ∧ ¬ ['-', '-'] <:+: s

/-! ## The ends of a text -/

/-- The character may start an operand without a minus. -/
def startsOperand (c : Char) : Bool := Text.isDigit c || c == 'i' || c == '('

/-- The character may end an operand. -/
def endsOperand (c : Char) : Bool := Text.isDigit c || c == 'i' || c == ')'

/-- A text that starts and ends like an operand. -/
structure Edges (s : List Char) : Prop where
  starts : ∃ a, s.head? = some a ∧ (startsOperand a = true ∨ a = '-')
  ends : ∃ z, s.getLast? = some z ∧ endsOperand z = true

namespace Edges

variable {s s' : List Char}

theorem ne_nil (h : Edges s) : s ≠ [] := by
  rintro rfl
  obtain ⟨a, first, -⟩ := h.starts
  cases first

/-- The edges of a text that is put together are the first edge of its first part and the last edge of its last
part, whatever stands between the two. -/
theorem append (first : Edges s) (last : Edges s') (mid : List Char) : Edges (s ++ (mid ++ s')) := by
  obtain ⟨a, head, start⟩ := first.starts
  obtain ⟨z, tail, finish⟩ := last.ends
  refine ⟨⟨a, ?_, start⟩, ⟨z, ?_, finish⟩⟩
  · rw [List.head?_append, head]
    rfl
  · rw [List.getLast?_append, List.getLast?_append, tail]
    rfl

theorem of_digits {ds : List Char} (ne : ds ≠ []) (digits : ∀ d ∈ ds, Text.isDigit d = true) :
    Edges ds := by
  refine ⟨⟨ds.head ne, List.head?_eq_some_head ne, Or.inl ?_⟩,
    ⟨ds.getLast ne, List.getLast?_eq_some_getLast ne, ?_⟩⟩
  · rw [startsOperand, digits _ (List.head_mem ne)]
    rfl
  · rw [endsOperand, digits _ (List.getLast_mem ne)]
    rfl

end Edges

/-- **What is derived begins and ends like an operand**, in each category. So it can be told from the characters
at a joint alone whether the two sides may meet there. -/
theorem Derives.edges {k : Category} {p n : Option Char} {s : List Char} {t : SyntaxTree}
    (derived : Derives k p s n t) : Edges s := by
  induction derived with
  | term _ ih | factor _ ih | atom _ ih => exact ih
  | sum o _ _ _ first last | product o _ _ _ first last => exact first.append last [o.symbol]
  | adjoined _ _ _ first last => exact first.append last []
  | power _ _ first last => exact first.append last ['^']
  | negative _ ih =>
    obtain ⟨z, tail, finish⟩ := ih.ends
    refine ⟨⟨'-', rfl, Or.inr rfl⟩, ⟨z, ?_, finish⟩⟩
    rw [List.getLast?_cons, tail]
    rfl
  | digits ne digits => exact Edges.of_digits ne digits
  | @unit p ds n digits =>
    have last : Edges ['i'] := ⟨⟨'i', rfl, Or.inl rfl⟩, ⟨'i', rfl, rfl⟩⟩
    rcases eq_or_ne ds [] with rfl | ne
    · exact last
    · exact (Edges.of_digits ne digits).append last []
  | parentheses _ ih =>
    refine ⟨⟨'(', rfl, Or.inl rfl⟩, ⟨')', ?_, rfl⟩⟩
    rw [← List.cons_append, List.getLast?_append]
    rfl

/-! ## Parentheses -/

theorem count_eq_zero_of_digits {ds : List Char} (digits : ∀ d ∈ ds, Text.isDigit d = true) {c : Char}
    (other : Text.isDigit c = false) : ds.count c = 0 := by
  refine List.count_eq_zero.mpr fun mem => ?_
  rw [digits c mem] at other
  cases other

/-- No operator is a parenthesis, so that an operator between two texts does not disturb the balance of
these. -/
theorem Operation.symbol_ne_parenthesis (o : Operation) : o.symbol ≠ '(' ∧ o.symbol ≠ ')' := by
  cases o <;> decide

/-- In a text of the grammar there are as many opening parentheses as closing ones. -/
theorem Derives.count_parentheses {k : Category} {p n : Option Char} {s : List Char} {t : SyntaxTree}
    (derived : Derives k p s n t) : s.count '(' = s.count ')' := by
  induction derived with
  | term _ ih | factor _ ih | atom _ ih => exact ih
  | sum o _ _ _ first last | product o _ _ _ first last =>
    obtain ⟨opening, closing⟩ := o.symbol_ne_parenthesis
    rw [List.count_append, List.count_append, List.count_cons_of_ne opening,
      List.count_cons_of_ne closing, first, last]
  | adjoined _ _ _ first last => rw [List.count_append, List.count_append, first, last]
  | power _ _ first last =>
    rw [List.count_append, List.count_append, List.count_cons_of_ne (by decide),
      List.count_cons_of_ne (by decide), first, last]
  | negative _ ih =>
    rw [List.count_cons_of_ne (by decide), List.count_cons_of_ne (by decide), ih]
  | digits _ digits =>
    rw [count_eq_zero_of_digits digits rfl, count_eq_zero_of_digits digits rfl]
  | unit digits =>
    rw [List.count_append, List.count_append, count_eq_zero_of_digits digits rfl,
      count_eq_zero_of_digits digits rfl]
    rfl
  | parentheses _ ih =>
    rw [List.count_cons_self, List.count_cons_of_ne (by decide), List.count_append, List.count_append,
      ih]
    rfl

/-! ## Neighbours -/

theorem isSymbol_of_isDigit {c : Char} (digit : Text.isDigit c = true) :
    Operation.isSymbol c = false := by
  by_contra symbol
  rw [Bool.not_eq_false, Operation.isSymbol, Option.isSome_iff_exists] at symbol
  obtain ⟨o, found⟩ := symbol
  rw [← Operation.symbol_of_ofSymbol? found] at digit
  cases o <;> cases digit

theorem isSymbol_symbol (o : Operation) : Operation.isSymbol o.symbol = true := by
  rw [Operation.isSymbol, Operation.ofSymbol?_symbol]
  rfl

/-- What starts an operand is neither an operator nor a closing parenthesis, that is, none of the characters
that look at what stands before them. -/
theorem of_startsOperand {a : Char} (start : startsOperand a = true) :
    Operation.isSymbol a = false ∧ a ≠ ')' := by
  rw [startsOperand, Bool.or_eq_true, Bool.or_eq_true, beq_iff_eq, beq_iff_eq] at start
  rcases start with (digit | rfl) | rfl
  · exact ⟨isSymbol_of_isDigit digit, by rintro rfl; cases digit⟩
  · decide
  · decide

/-- What ends an operand is neither an operator nor an opening parenthesis, after which no operator but the
minus could stand. -/
theorem of_endsOperand {z : Char} (finish : endsOperand z = true) :
    Operation.isSymbol z = false ∧ z ≠ '(' := by
  rw [endsOperand, Bool.or_eq_true, Bool.or_eq_true, beq_iff_eq, beq_iff_eq] at finish
  rcases finish with (digit | rfl) | rfl
  · exact ⟨isSymbol_of_isDigit digit, by rintro rfl; cases digit⟩
  · decide
  · decide

namespace Expression

/-- Every character of a text may follow the one before it. -/
abbrev Fits (s : List Char) : Prop := s.IsChain fun q c => mayFollow q c = true

/-- The check of neighbours goes along the text with the character before it. It asks for what a chain of
characters asks for, each with the next one. -/
theorem neighboursFit_iff {q : Char} {s : List Char} : neighboursFit q s = true ↔ Fits (q :: s) := by
  induction s generalizing q with
  | nil => exact iff_of_true rfl (List.isChain_singleton q)
  | cons c s ih => rw [neighboursFit, Bool.and_eq_true, ih, Fits, Fits, List.isChain_cons_cons]

/-- An operand may follow any character, as long as it does not begin with a minus. -/
theorem mayFollow_of_starts {a : Char} (start : startsOperand a = true) (q : Char) :
    mayFollow q a = true := by
  obtain ⟨plain, ne⟩ := of_startsOperand start
  simp [mayFollow, plain, ne]

/-- A minus may stand after everything but another minus: it can be read as a sign or as a subtraction. -/
theorem mayFollow_minus {q : Char} (ne : q ≠ '-') : mayFollow q '-' = true := by
  simp [mayFollow, ne]

/-- After the end of an operand every operator may follow, the minus included. -/
theorem mayFollow_symbol {z : Char} (finish : endsOperand z = true) (o : Operation) :
    mayFollow z o.symbol = true := by
  obtain ⟨plain, ne⟩ := of_endsOperand finish
  have minus : z ≠ '-' := by
    rintro rfl
    cases plain
  simp [mayFollow, isSymbol_symbol, plain, ne, minus]

theorem mayFollow_closing {z : Char} : mayFollow z ')' = !Operation.isSymbol z := by
  simp [mayFollow, show Operation.isSymbol ')' = false from rfl]

/-- After a character other than the minus there may be any text that starts like an operand. -/
theorem Fits.cons {q : Char} {s : List Char} (fits : Fits s) (edges : Edges s) (ne : q ≠ '-') :
    Fits (q :: s) := by
  refine List.isChain_cons.mpr ⟨fun y mem => ?_, fits⟩
  obtain ⟨a, head, start⟩ := edges.starts
  rw [head] at mem
  cases mem
  rcases start with start | rfl
  · exact mayFollow_of_starts start q
  · exact mayFollow_minus ne

/-- The minus is no exception unless another one follows. -/
theorem Fits.operator {o : Operation} {s : List Char} (fits : Fits s) (edges : Edges s)
    (single : ¬ ['-', '-'] <:+: o.symbol :: s) : Fits (o.symbol :: s) := by
  by_cases minus : o.symbol = '-'
  · obtain ⟨a, head, start⟩ := edges.starts
    obtain ⟨tail, rfl⟩ := List.head?_eq_some_iff.mp head
    refine List.isChain_cons_cons.mpr ⟨?_, fits⟩
    rcases start with start | rfl
    · exact mayFollow_of_starts start _
    · exact absurd ⟨[], tail, by rw [minus]; rfl⟩ single
  · exact fits.cons edges minus

/-- Two texts whose neighbours fit may be joined if the last character of the one and the first of the other
fit. -/
theorem Fits.append {s s' : List Char} (fits : Fits s) (fits' : Fits s')
    (between : ∀ z ∈ s.getLast?, ∀ a ∈ s'.head?, mayFollow z a = true) : Fits (s ++ s') :=
  List.isChain_append.mpr ⟨fits, fits', between⟩

theorem Fits.binary {o : Operation} {s s' : List Char} (fits : Fits s) (fits' : Fits s')
    (edges : Edges s) (edges' : Edges s') (single : ¬ ['-', '-'] <:+: s ++ o.symbol :: s') :
    Fits (s ++ o.symbol :: s') := by
  have right : ¬ ['-', '-'] <:+: o.symbol :: s' := fun double =>
    single (double.trans (List.suffix_append _ _).isInfix)
  refine fits.append (fits'.operator edges' right) fun z last a head => ?_
  obtain ⟨z', tail, finish⟩ := edges.ends
  rw [tail] at last
  cases last
  cases head
  exact mayFollow_symbol finish o

end Expression

open Expression

theorem fits_of_digits {ds : List Char} (digits : ∀ d ∈ ds, Text.isDigit d = true) : Fits ds := by
  induction ds with
  | nil => exact List.isChain_nil
  | cons d ds ih =>
    have rest : ∀ d ∈ ds, Text.isDigit d = true := fun d mem => digits d (List.mem_cons_of_mem _ mem)
    refine List.isChain_cons.mpr ⟨fun y mem => mayFollow_of_starts ?_ d, ih rest⟩
    rw [startsOperand, rest y (List.mem_of_mem_head? mem)]
    rfl

/-- In a text of the grammar without neighbouring minuses all neighbours fit. -/
theorem Derives.fits {k : Category} {p n : Option Char} {s : List Char} {t : SyntaxTree}
    (derived : Derives k p s n t) (single : ¬ ['-', '-'] <:+: s) : Fits s := by
  -- A part of the text has no neighbouring minuses either.
  have part {u : List Char} {s : List Char} (single : ¬ ['-', '-'] <:+: s) (piece : u <:+: s) :
      ¬ ['-', '-'] <:+: u := fun double => single (double.trans piece)
  induction derived with
  | term _ ih | factor _ ih | atom _ ih => exact ih single
  | sum o _ left right first last | product o _ left right first last =>
    refine Fits.binary (first (part single (List.prefix_append _ _).isInfix))
      (last (part single ?_)) left.edges right.edges single
    exact ((List.suffix_cons _ _).trans (List.suffix_append _ _)).isInfix
  | power left right first last =>
    refine Fits.binary (o := .pow) (first (part single (List.prefix_append _ _).isInfix))
      (last (part single ?_)) left.edges right.edges single
    exact ((List.suffix_cons _ _).trans (List.suffix_append _ _)).isInfix
  | adjoined adjoins left right first last =>
    refine Fits.append (first (part single (List.prefix_append _ _).isInfix))
      (last (part single (List.suffix_append _ _).isInfix)) fun z _ a head => ?_
    -- Nothing is asked of the character before an operand that starts without a minus.
    refine mayFollow_of_starts ?_ z
    rcases adjoins with opening | ⟨-, c, number, digit | rfl⟩
    · rw [opening] at head
      cases head
      rfl
    · rw [number] at head
      cases head
      rw [startsOperand, digit]
      rfl
    · rw [number] at head
      cases head
      rfl
  | negative derived ih =>
    exact Fits.operator (o := .subtract) (ih (part single (List.suffix_cons _ _).isInfix))
      derived.edges single
  | digits _ digits => exact fits_of_digits digits
  | unit digits =>
    refine Fits.append (fits_of_digits digits) (List.isChain_singleton _) fun z _ a head => ?_
    cases head
    exact mayFollow_of_starts rfl z
  | parentheses derived ih =>
    have inside := ih (part single
      ((List.prefix_append _ _).isInfix.trans (List.suffix_cons _ _).isInfix))
    obtain ⟨z, tail, finish⟩ := derived.edges.ends
    refine Fits.append (inside.cons derived.edges (by decide)) (List.isChain_singleton _) ?_
    intro y last a head
    rw [List.getLast?_cons, tail, Option.getD_some] at last
    cases last
    cases head
    rw [mayFollow_closing, (of_endsOperand finish).1]
    rfl

/-- **The check of neighbours lets the grammar pass**, also before missing parentheses are added. -/
theorem Grammatical.operatorsFit {s : List Char} {added : ℕ} {t : SyntaxTree}
    (grammatical : Grammatical (s ++ List.replicate added ')') t) : operatorsFit s = true := by
  obtain ⟨derived, single⟩ := grammatical
  have fits := (derived.fits single).cons derived.edges (q := '(') (by decide)
  have plain : s.getLast?.any Operation.isSymbol = false := by
    cases last : s.getLast? with
    | none => rfl
    | some z =>
      -- What comes last is the end of the derived text, or stands before an added parenthesis.
      cases added with
      | zero =>
        obtain ⟨z', last', finish⟩ := derived.edges.ends
        rw [List.replicate_zero, List.append_nil, last] at last'
        cases last'
        exact (of_endsOperand finish).1
      | succ added =>
        have next := (List.isChain_append.mp (derived.fits single)).2.2 z last ')' rfl
        rwa [mayFollow_closing, Bool.not_eq_true'] at next
  have start : Fits ('(' :: s) := List.IsChain.prefix fits (List.prefix_append _ _)
  rw [Expression.operatorsFit, plain, neighboursFit_iff.mpr start]
  rfl

/-- A text that passes the check has no two minuses side by side, also after parentheses are added. -/
theorem single_of_operatorsFit {s : List Char} (fit : operatorsFit s = true) (added : ℕ) :
    ¬ ['-', '-'] <:+: s ++ List.replicate added ')' := by
  rw [Expression.operatorsFit, Bool.and_eq_true, Bool.not_eq_true', neighboursFit_iff] at fit
  obtain ⟨plain, fits⟩ := fit
  -- The check lets the completed text pass too, since no operator comes before what is added.
  have closing : Fits (List.replicate added ')') := List.isChain_replicate_of_rel added rfl
  have all : Fits (s ++ List.replicate added ')') := by
    refine (List.isChain_cons.mp fits).2.append closing fun z last a head => ?_
    rw [last] at plain
    rw [List.eq_of_mem_replicate (List.mem_of_mem_head? head), mayFollow_closing, Bool.not_eq_true']
    exact plain
  intro double
  have minuses : Fits ['-', '-'] := List.IsChain.infix all double
  have pair := List.isChain_pair.mp minuses
  cases pair

end ExactAlgebra
