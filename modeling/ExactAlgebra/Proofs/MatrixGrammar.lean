import ExactAlgebra.Proofs.MatrixText
import ExactAlgebra.Proofs.NumberReading

/-!
# What the reader of matrices takes

The reader of matrices looks at the first and the last character of a text and splits what stands between
them, first the rows and then the values of a row, without looking for delimiters that stand elsewhere. Such
a delimiter is part of a value then, and no value with a delimiter in it is a number. So the texts that are
read are the matrices and no others: a piece that is read has no separator in it, and the pieces are just
those that were joined.

Every fault on the way is one of reading. In particular the faults of numbers do not leave the reader.

## Main definitions

* `enclosed`, `readEnclosed`: pieces between delimiters, and a reader of them.
* `WritesMatrix`: the written form of matrices.
* `FailsOnly`, `FaultsOfReading`: a computation that fails with certain faults only, and with faults of
  reading only.

## Main statements

* `readEnclosed_eq_ok_iff`: pieces are read exactly if they are enclosed.
* `Matrix.outcome_fromRows_eq_ok_iff`: the matrix of rows.
* `Matrix.parse_follows_grammar`: which texts are read, as what, and how the others fail.
-/

namespace ExactAlgebra

open TextForm

/-! ## Faults of reading -/

/-- The computation has a result or fails with one of the given errors. -/
def FailsOnly {α : Type} (faults : Error → Prop) (x : Except Error α) : Prop :=
  ∀ e, x = .error e → faults e

namespace FailsOnly

variable {α β : Type} {faults : Error → Prop}

theorem ok (a : α) : FailsOnly faults (.ok a) := nofun

/-- A computation of two steps has the faults of its steps. The second one is asked about for every result of
the first, reached or not. -/
theorem bind {x : Except Error α} {f : α → Except Error β} (first : FailsOnly faults x)
    (next : ∀ a, FailsOnly faults (f a)) : FailsOnly faults (x >>= f) := by
  cases x with
  | error e =>
    rintro e' ⟨⟩
    exact first e rfl
  | ok a => exact next a

/-- A computation for each element of a list fails as one of the elements does, so it has no other faults than
these. -/
theorem mapM {f : α → Except Error β} {as : List α} (each : ∀ a ∈ as, FailsOnly faults (f a)) :
    FailsOnly faults (as.mapM f) := by
  induction as with
  | nil => exact ok []
  | cons a as ih =>
    obtain ⟨first, others⟩ := List.forall_mem_cons.mp each
    rw [List.mapM_cons]
    exact first.bind fun b => (ih others).bind fun bs => ok (b :: bs)

end FailsOnly

/-- The computation fails with faults of reading only. -/
def FaultsOfReading {α : Type} (x : Except Error α) : Prop :=
  ∀ e, x = .error e → ∃ fault, e = .reading fault

namespace FaultsOfReading

variable {α β : Type}

theorem ok (a : α) : FaultsOfReading (.ok a) := nofun

theorem error (fault : ReadingFault) : FaultsOfReading (.error (.reading fault) : Except Error α) := by
  rintro e ⟨⟩
  exact ⟨fault, rfl⟩

theorem bind {x : Except Error α} {f : α → Except Error β} (first : FaultsOfReading x)
    (next : ∀ a, FaultsOfReading (f a)) : FaultsOfReading (x >>= f) :=
  FailsOnly.bind first next

/-- If pieces can be read one by one with faults of reading only, so can a list of them. -/
theorem mapM {f : α → Except Error β} (each : ∀ a, FaultsOfReading (f a)) (as : List α) :
    FaultsOfReading (as.mapM f) :=
  FailsOnly.mapM fun a _ => each a

end FaultsOfReading

/-! ## Pieces between delimiters -/

/-- A reader of lists takes a list exactly if each of its pieces is taken. -/
theorem mapM_eq_ok_iff {α β : Type} {f : α → Except Error β} {as : List α} {bs : List β} :
    as.mapM f = .ok bs ↔ List.Forall₂ (fun a b => f a = .ok b) as bs := by
  induction as generalizing bs with
  | nil =>
    rw [List.forall₂_nil_left_iff]
    exact ⟨fun none => (Except.ok.inj none).symm, fun none => congrArg Except.ok none.symm⟩
  | cons a as ih =>
    rw [List.mapM_cons]
    constructor
    · intro read
      obtain ⟨b, first, rest⟩ := of_bind_ok read
      obtain ⟨bs', others, rest⟩ := of_bind_ok rest
      cases rest
      exact .cons first (ih.mp others)
    · rintro ⟨⟩
      case cons b bs' first others =>
        rw [first, ih.mpr others]
        rfl

/-- Functions that agree on the elements of a list give the same for the list, results and errors included. -/
theorem mapM_congr {α β : Type} {f g : α → Except Error β} {as : List α} (same : ∀ a ∈ as, f a = g a) :
    as.mapM f = as.mapM g := by
  induction as with
  | nil => rfl
  | cons a as ih =>
    obtain ⟨first, others⟩ := List.forall_mem_cons.mp same
    rw [List.mapM_cons, List.mapM_cons, first, ih others]

theorem forall₂_exists_iff {α β γ : Type} {P : γ → Prop} {f : γ → α} {R : γ → β → Prop} {as : List α}
    {bs : List β} :
    List.Forall₂ (fun a b => ∃ c, P c ∧ a = f c ∧ R c b) as bs ↔
      ∃ cs, as = cs.map f ∧ (∀ c ∈ cs, P c) ∧ List.Forall₂ R cs bs := by
  constructor
  · intro related
    induction related with
    | nil => exact ⟨[], rfl, List.forall_mem_nil _, .nil⟩
    | cons first _ ih =>
      obtain ⟨c, holds, rfl, relates⟩ := first
      obtain ⟨cs, rfl, all, others⟩ := ih
      exact ⟨c :: cs, rfl, List.forall_mem_cons.mpr ⟨holds, all⟩, .cons relates others⟩
  · rintro ⟨cs, rfl, all, related⟩
    rw [List.forall₂_map_left_iff]
    exact ((List.forall₂_and_left _ _).mpr ⟨all, related⟩).imp fun c b both => ⟨c, both.1, rfl, both.2⟩

/-- Whatever related elements have in common with their partners holds of all elements of a list with a related
one. -/
theorem forall_mem_of_forall₂ {α β : Type} {R : α → β → Prop} {P : α → Prop} {as : List α} {bs : List β}
    (related : List.Forall₂ R as bs) (holds : ∀ a b, R a b → P a) : ∀ a ∈ as, P a :=
  ((List.forall₂_and_left _ _).mp (related.imp fun a b r => And.intro (holds a b r) r)).1

theorem length_of_forall₂ {α β : Type} {R : α → β → Prop} {as : List (List α)} {bs : List (List β)}
    {n : ℕ} (lengths : ∀ b ∈ bs, b.length = n) (related : List.Forall₂ (List.Forall₂ R) as bs) :
    ∀ a ∈ as, a.length = n := by
  have both := ((List.forall₂_and_left _ _).mpr ⟨lengths, related.flip⟩).flip
  exact forall_mem_of_forall₂ both fun a b ⟨length, pair⟩ => pair.length_eq.trans length

/-- Pieces with a separator between each two and delimiters around them. -/
def enclosed (start stop d : Char) (pieces : List (List Char)) : List Char :=
  start :: ([d].intercalate pieces ++ [stop])

/-- Reads the pieces that stand between delimiters; there has to be some text. -/
def readEnclosed {β : Type} (start stop d : Char) (empty : ReadingFault)
    (read : List Char → Except Error β) (cs : List Char) : Except Error (List β) := do
  let body ← between start stop cs
  if body.isEmpty then .error (.reading empty)
  else (body.splitOn d).mapM read

/-- **What stands between two delimiters** is found exactly if the text begins with the one and ends with the
other, at two different places. -/
theorem between_eq_ok_iff {start stop : Char} {cs body : List Char} :
    between start stop cs = .ok body ↔ cs = start :: (body ++ [stop]) := by
  constructor
  · intro ok
    unfold between at ok
    split at ok
    case h_1 => cases ok
    case h_2 c rest =>
      by_cases first : c = start
      · by_cases last : rest.getLast? = some stop
        · rw [if_neg (not_not.mpr first), if_pos last] at ok
          rw [first, ← Except.ok.inj ok, List.dropLast_append_getLast? stop last]
        · rw [if_neg (not_not.mpr first), if_neg last] at ok
          cases ok
      · rw [if_pos first] at ok
        cases ok
  · rintro rfl
    exact between_delimited start stop body

/-- A delimiter that is missing at either end is reported as a fault of reading. -/
theorem faultsOfReading_between (start stop : Char) (cs : List Char) :
    FaultsOfReading (between start stop cs) := by
  unfold between
  split
  · exact .error _
  · split_ifs
    · exact .error _
    · exact .ok _
    · exact .error _

section Enclosed

variable {β : Type} {start stop d : Char} {empty : ReadingFault} {read : List Char → Except Error β}

/-- Of enclosed pieces without the separator each is read. -/
theorem readEnclosed_enclosed {pieces : List (List Char)} (some : pieces ≠ [])
    (free : ∀ p ∈ pieces, p ≠ [] ∧ d ∉ p) :
    readEnclosed start stop d empty read (enclosed start stop d pieces) = pieces.mapM read := by
  have nonempty : [d].intercalate pieces ≠ [] := intercalate_ne_nil some fun p mem => (free p mem).1
  have inner : between start stop (enclosed start stop d pieces) = .ok ([d].intercalate pieces) :=
    between_eq_ok_iff.mpr rfl
  rw [readEnclosed, inner]
  show (if ([d].intercalate pieces).isEmpty then _ else _) = _
  rw [List.isEmpty_eq_false_iff.mpr nonempty,
    List.splitOn_intercalate d (fun p mem => (free p mem).2) some]
  rfl

/-- **Pieces are read exactly if they are enclosed**, by a reader that takes no piece that is empty or has the
separator in it. -/
theorem readEnclosed_eq_ok_iff (free : ∀ p b, read p = .ok b → p ≠ [] ∧ d ∉ p) {cs : List Char}
    {bs : List β} :
    readEnclosed start stop d empty read cs = .ok bs ↔
      ∃ pieces, pieces ≠ [] ∧ cs = enclosed start stop d pieces ∧
        List.Forall₂ (fun p b => read p = .ok b) pieces bs := by
  constructor
  · intro ok
    obtain ⟨body, inner, rest⟩ := of_bind_ok ok
    split at rest
    case isTrue => cases rest
    case isFalse =>
      refine ⟨body.splitOn d, List.splitOn_ne_nil _ _, ?_, mapM_eq_ok_iff.mp rest⟩
      rw [enclosed, List.intercalate_splitOn]
      exact between_eq_ok_iff.mp inner
  · rintro ⟨pieces, some, rfl, values⟩
    rw [readEnclosed_enclosed some (forall_mem_of_forall₂ values free)]
    exact mapM_eq_ok_iff.mpr values

/-- Pieces between delimiters fail to be read for a missing delimiter, for there being no text between the two,
or for a piece of them. -/
theorem faultsOfReading_readEnclosed (each : ∀ p, FaultsOfReading (read p)) (cs : List Char) :
    FaultsOfReading (readEnclosed start stop d empty read cs) := by
  refine (faultsOfReading_between start stop cs).bind fun body => ?_
  split
  · exact .error empty
  · exact .mapM each _

end Enclosed

/-! ## Values and rows -/

namespace Matrix

/-- A value is taken just if it is a number. The faults of numbers are replaced on the way, but results are
not. -/
theorem readValue_eq_ok_iff {cs : List Char} {q : Quantity} :
    readValue cs = .ok q ↔ Quantity.read cs = .ok q := by
  rw [readValue]
  cases Quantity.read cs with
  | error e =>
    constructor
    all_goals
      intro ok
      cases ok
  | ok p => exact Iff.rfl

/-- The faults of numbers do not leave the reader of values: what cannot be read as a number, also because of a
zero denominator, is an invalid value. -/
theorem faultsOfReading_readValue (cs : List Char) : FaultsOfReading (readValue cs) := by
  rw [readValue]
  cases Quantity.read cs with
  | error e => exact .error _
  | ok p => exact .ok p

/-- A value that is read is not empty, and none of the characters that structure a text is in it. -/
theorem of_readValue {cs : List Char} {q : Quantity} (ok : readValue cs = .ok q) :
    cs ≠ [] ∧ ∀ c, isNumeral c = false → Text.isBlank c = false → c ∉ cs := by
  have read := readValue_eq_ok_iff.mp ok
  constructor
  · rintro rfl
    cases read
  · intro c delimiter solid mem
    obtain ⟨re, im, written⟩ := Quantity.exists_writesNumber read
    rcases written.isNumeral_or_isBlank mem with numeral | blank
    · rw [delimiter] at numeral
      cases numeral
    · rw [solid] at blank
      cases blank

/-- A row is taken just if it is a list of values between the delimiters of rows. The separator cannot be part
of a value, since no number has it inside. -/
theorem readRow_eq_ok_iff {cs : List Char} {row : List Quantity} :
    readRow cs = .ok row ↔
      ∃ values, values ≠ [] ∧ cs = enclosed rowStart rowEnd separator values ∧
        List.Forall₂ (fun v q => readValue v = .ok q) values row :=
  readEnclosed_eq_ok_iff fun _ _ ok =>
    ⟨(of_readValue ok).1, (of_readValue ok).2 separator rfl rfl⟩

/-- A row fails to be read with faults of reading only, whichever of its values is at fault. -/
theorem faultsOfReading_readRow (cs : List Char) : FaultsOfReading (readRow cs) :=
  faultsOfReading_readEnclosed faultsOfReading_readValue cs

/-- No rows are separated within a row that is read. -/
theorem of_readRow {cs : List Char} {row : List Quantity} (ok : readRow cs = .ok row) :
    cs ≠ [] ∧ rowSeparator ∉ cs := by
  obtain ⟨values, -, rfl, read⟩ := readRow_eq_ok_iff.mp ok
  have free := forall_mem_of_forall₂ read fun v q ok => (of_readValue ok).2 rowSeparator rfl rfl
  refine ⟨List.cons_ne_nil _ _, fun mem => ?_⟩
  rcases List.mem_cons.mp mem with opening | rest
  · cases opening
  · rcases List.mem_append.mp rest with body | closing
    · rcases of_mem_intercalate body with comma | ⟨v, listed, found⟩
      · cases comma
      · exact free v listed found
    · cases List.mem_singleton.mp closing

/-- **The rows of a text** are enclosed rows of values. -/
theorem readRows_eq_ok_iff {cs : List Char} {rows : List (List Quantity)} :
    readRows cs = .ok rows ↔
      ∃ values, values ≠ [] ∧ (∀ row ∈ values, row ≠ []) ∧
        cs = enclosed matrixStart matrixEnd rowSeparator
          (values.map (enclosed rowStart rowEnd separator)) ∧
        List.Forall₂ (List.Forall₂ fun v q => Quantity.read v = .ok q) values rows := by
  have enclosedRows : readRows cs = .ok rows ↔ _ :=
    readEnclosed_eq_ok_iff fun _ _ => of_readRow
  rw [enclosedRows]
  simp only [readRow_eq_ok_iff, readValue_eq_ok_iff]
  constructor
  · rintro ⟨pieces, some, rfl, read⟩
    obtain ⟨values, rfl, nonempty, read⟩ := forall₂_exists_iff.mp read
    exact ⟨values, mt List.map_eq_nil_iff.mpr some, nonempty, rfl, read⟩
  · rintro ⟨values, some, nonempty, rfl, read⟩
    exact ⟨_, mt List.map_eq_nil_iff.mp some, rfl, forall₂_exists_iff.mpr ⟨values, rfl, nonempty, read⟩⟩

theorem faultsOfReading_readRows (cs : List Char) : FaultsOfReading (readRows cs) :=
  faultsOfReading_readEnclosed faultsOfReading_readRow cs

/-! ## Matrices of rows -/

/-- Rows that are not those of a matrix are a fault of reading. -/
theorem outcome_fromRows_cases (rows : List (List Quantity)) :
    (∃ (r c : ℕ) (g : Grid r c), 0 < r ∧ 0 < c ∧ g.rows = rows) ∨
      ∃ fault, (fromRows rows).outcome = .error (.reading fault) := by
  unfold fromRows assemble
  split
  case h_1 => exact Or.inr ⟨.emptyMatrix, rfl⟩
  case h_2 first others =>
    by_cases columns : first.length = 0
    · rw [dif_pos columns]
      exact Or.inr ⟨.emptyMatrix, rfl⟩
    · rw [dif_neg columns]
      by_cases rect : ∀ row ∈ first :: others, row.length = first.length
      · obtain ⟨g, -, rows⟩ := Grid.ofListsM_ok (first :: others) first.length rect
        exact Or.inl ⟨_, _, g, Nat.succ_pos _, Nat.pos_of_ne_zero columns, rows⟩
      · rw [dif_neg rect]
        right
        dsimp only
        split
        · exact ⟨_, rfl⟩
        · exact ⟨_, rfl⟩

/-- **The matrix of rows** has these rows, and it is square if there are as many of them as columns. -/
theorem outcome_fromRows_eq_ok_iff {rows : List (List Quantity)} {m : Matrix} :
    (fromRows rows).outcome = .ok m ↔
      m.rows = rows ∧ m.form = if m.rowCount = m.columnCount then .square else .general := by
  constructor
  · intro ok
    rcases outcome_fromRows_cases rows with ⟨r, c, g, rowsPos, columnsPos, rfl⟩ | ⟨fault, failed⟩
    · rw [outcome_fromRows g rowsPos columnsPos] at ok
      obtain rfl := Except.ok.inj ok
      rw [rows_ofShape, form_ofShape, rowCount_ofShape, columnCount_ofShape]
      exact ⟨rfl, rfl⟩
    · rw [failed] at ok
      cases ok
  · rintro ⟨rfl, form⟩
    have made : (fromRows m.rows).outcome = .ok (ofShape m.grid m.rowCount_pos m.columnCount_pos) :=
      outcome_fromRows m.grid m.rowCount_pos m.columnCount_pos
    rw [made]
    refine congrArg Except.ok (eq_of_rows ?_ ?_ ?_)
    · rw [form_ofShape, form]
    · rw [columnCount_ofShape]
    · rw [rows_ofShape]
      rfl

end Matrix

/-! ## The text of a matrix -/

/-- The text is a matrix of the values, which are given as texts: there are rows and columns, and all rows
are equally long. -/
structure WritesMatrix (cs : List Char) (values : List (List (List Char))) : Prop where
  text : cs = enclosed matrixStart matrixEnd rowSeparator
    (values.map (enclosed rowStart rowEnd separator))
  rows : values ≠ []
  columns : ∀ row ∈ values, row ≠ []
  rect : ∀ row ∈ values, ∀ row' ∈ values, row.length = row'.length

namespace Matrix

/-- The rows are read first, then they are put together. -/
theorem outcome_parse (text : String) :
    (parse text).outcome =
      (readRows (Text.removeBlanks text.toList) >>= fun rows => (fromRows rows).outcome) := by
  unfold parse
  cases readRows (Text.removeBlanks text.toList) with
  | error e => rfl
  | ok rows => rfl

/-- **Which texts are matrices.** A text is read exactly if it is the written form of a matrix apart from
blanks, and each of its values is a number. What is read has just these numbers in this order, and it is
square in form exactly if its shape is. Any other text is a fault of reading. -/
theorem parse_follows_grammar (text : String) :
    (∀ m, (parse text).outcome = .ok m ↔
      ∃ values, WritesMatrix (Text.removeBlanks text.toList) values ∧
        List.Forall₂ (List.Forall₂ fun v q => Quantity.read v = .ok q) values m.rows ∧
        m.form = if m.rowCount = m.columnCount then .square else .general) ∧
      ∀ e, (parse text).outcome = .error e → ∃ fault, e = .reading fault := by
  rw [outcome_parse]
  constructor
  · intro m
    constructor
    · intro ok
      obtain ⟨rows, read, made⟩ := of_bind_ok ok
      obtain ⟨rfl, form⟩ := outcome_fromRows_eq_ok_iff.mp made
      obtain ⟨values, some, nonempty, text, read⟩ := readRows_eq_ok_iff.mp read
      have lengths := length_of_forall₂ (fun row mem => Grid.length_of_mem_rows mem) read
      refine ⟨values, ⟨text, some, nonempty, fun row mem row' mem' => ?_⟩, read, form⟩
      rw [lengths row mem, lengths row' mem']
    · rintro ⟨values, written, read, form⟩
      have rows : readRows (Text.removeBlanks text.toList) = .ok m.rows :=
        readRows_eq_ok_iff.mpr ⟨values, written.rows, written.columns, written.text, read⟩
      rw [rows]
      exact outcome_fromRows_eq_ok_iff.mpr ⟨rfl, form⟩
  · refine (faultsOfReading_readRows _).bind fun rows e failed => ?_
    rcases outcome_fromRows_cases rows with ⟨r, c, g, rowsPos, columnsPos, rfl⟩ | ⟨fault, failed'⟩
    · rw [outcome_fromRows g rowsPos columnsPos] at failed
      cases failed
    · rw [failed'] at failed
      exact ⟨fault, (Except.error.inj failed).symm⟩

/-- Blanks may stand anywhere, and as many rows as columns make a square matrix. A zero denominator is a
fault of reading here. -/
theorem parse_spaced_rows :
    (∃ m, (parse " [{1 2, i} ;{-1,0}]").outcome = .ok m ∧ m.form = .square ∧
      m.rows = [[.rational (.ofInt 12), .complex ⟨0, 1⟩], [.rational (-1), .rational 0]]) ∧
      ∃ fault, (parse "[{1/0}]").outcome = .error (.reading fault) := by
  constructor
  · let g : Grid 2 2 :=
      #v[#v[.rational (.ofInt 12), .complex ⟨0, 1⟩], #v[.rational (-1), .rational 0]]
    let m : Matrix := ⟨.square, 2, 2, g, by decide, by decide, fun _ => rfl⟩
    have written : WritesMatrix (Text.removeBlanks " [{1 2, i} ;{-1,0}]".toList)
        [[['1', '2'], ['i']], [['-', '1'], ['0']]] :=
      ⟨rfl, by simp, by simp, by simp⟩
    have read : List.Forall₂ (List.Forall₂ fun v q => Quantity.read v = .ok q)
        [[['1', '2'], ['i']], [['-', '1'], ['0']]] m.rows :=
      .cons (.cons rfl (.cons rfl .nil)) (.cons (.cons rfl (.cons rfl .nil)) .nil)
    exact ⟨m, ((parse_follows_grammar _).1 m).mpr ⟨_, written, read, rfl⟩, rfl, rfl⟩
  · obtain ⟨e, failed⟩ : ∃ e, (parse "[{1/0}]").outcome = .error e := ⟨_, rfl⟩
    obtain ⟨fault, rfl⟩ := (parse_follows_grammar "[{1/0}]").2 e failed
    exact ⟨fault, failed⟩

end Matrix

end ExactAlgebra
