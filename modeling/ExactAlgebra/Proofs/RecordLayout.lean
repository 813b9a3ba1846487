import ExactAlgebra.Proofs.MatrixFile
import ExactAlgebra.Proofs.MatrixGrammar

/-!
# Layouts of records

The same records can be written in many ways. A line may end with a line feed, with a carriage return or with
both, and the last one need not end at all; blanks may stand around a field; and lines of nothing but commas
and blanks may come in between. A layout is one way of writing. Of every layout the reader of files makes the
same matrix as the reader of texts makes of the records between brackets, or both find fault with them.

A carriage return that is followed by a blank line is where the lines of a layout are not the records that are
read, because the line feed that ends the blank line is taken for the second half of the line end before it. A
blank record less makes no difference to what is read, so the records are compared without the blank ones.

## Main definitions

* `Record.Layout`: the ways to write records.
* `File.visible`: the records that are not blank.
* `bracketed`: records as the text of a matrix.

## Main statements

* `Record.visible_readFrom_line`: one line of a layout, and the lines after it.
* `Record.Layout.map_strip_visible`: the records of a layout are read.
* `File.readRecords_of_layout`: the two readers agree.
-/

namespace ExactAlgebra

open TextForm

/-! ## Layouts -/

namespace Record

/-- Blanks that end no line. -/
def LineBlank (w : List Char) : Prop := ∀ c ∈ w, Text.isBlank c = true ∧ c ≠ '\n' ∧ c ≠ '\r'

/-- The second text is the first one with blanks around it that end no line. -/
def Spaced (s cs : List Char) : Prop := ∃ w w', LineBlank w ∧ LineBlank w' ∧ cs = w ++ (s ++ w')

/-- The first text ends a line that the second text comes after. Nothing has to end the last line. -/
inductive EndsLine : List Char → List Char → Prop
  | feed (rest : List Char) : EndsLine ['\n'] rest
  | returnFeed (rest : List Char) : EndsLine ['\r', '\n'] rest
  | carriageReturn (rest : List Char) : EndsLine ['\r'] rest
  | endOfText : EndsLine [] []

/-- The fields of a line with a comma between each two. -/
def line (fields : Record) : List Char := [','].intercalate fields

/-- The text is a way to write the records, which are given by their fields without blanks. -/
inductive Layout : List Record → List Char → Prop
  | nil : Layout [] []
  | record {r spaced : Record} {rs : List Record} {stop rest : List Char} :
    List.Forall₂ Spaced r spaced → EndsLine stop rest → Layout rs rest →
      Layout (r :: rs) (line spaced ++ (stop ++ rest))
  | blank {blanks : Record} {rs : List Record} {stop rest : List Char} :
    (∀ w ∈ blanks, LineBlank w) → EndsLine stop rest → Layout rs rest →
      Layout rs (line blanks ++ (stop ++ rest))

/-- The character is no blank and structures neither records nor the text of a matrix. -/
def isCellChar (c : Char) : Bool :=
  !(Text.isBlank c || [',', '"', '[', ']', '{', '}', ';'].contains c)

/-- A text that may stand in a field and between the delimiters of a matrix. -/
structure IsCell (s : List Char) : Prop where
  ne_nil : s ≠ []
  isCellChar : ∀ c ∈ s, isCellChar c = true

instance (w : List Char) : Decidable (LineBlank w) :=
  List.decidableBAll (fun c => Text.isBlank c = true ∧ c ≠ '\n' ∧ c ≠ '\r') w

instance (s : List Char) : Decidable (IsCell s) :=
  decidable_of_iff (s ≠ [] ∧ s.all isCellChar = true)
    ⟨fun both => ⟨both.1, List.all_eq_true.mp both.2⟩,
      fun cell => ⟨cell.ne_nil, List.all_eq_true.mpr cell.isCellChar⟩⟩

variable {s cs w : List Char}

theorem LineBlank.blank (h : LineBlank w) : Text.Blank w := fun c mem => (h c mem).1

/-- Blanks that end no line go into a field like other plain characters; they are neither commas nor quotes. -/
theorem LineBlank.isPlain (h : LineBlank w) : ∀ c ∈ w, isPlain c = true := by
  intro c mem
  obtain ⟨blank, feed, carriage⟩ := h c mem
  have comma : c ≠ ',' := by
    rintro rfl
    cases blank
  have quote : c ≠ '"' := by
    rintro rfl
    cases blank
  simp [Record.isPlain, feed, carriage, comma, quote]

/-- Blanks that end no line are blanks, so that stripping takes them away. -/
theorem Spaced.padded (spaced : Spaced s cs) : Text.Padded s cs := by
  obtain ⟨w, w', blank, blank', rfl⟩ := spaced
  exact ⟨w, w', blank.blank, blank'.blank, rfl⟩

/-- A field with blanks around it is read as a plain field, from its first character to its last. -/
theorem Spaced.isPlain (spaced : Spaced s cs) (plain : ∀ c ∈ s, isPlain c = true) :
    ∀ c ∈ cs, Record.isPlain c = true := by
  obtain ⟨w, w', blank, blank', rfl⟩ := spaced
  simp only [List.forall_mem_append]
  exact ⟨blank.isPlain, plain, blank'.isPlain⟩

namespace IsCell

variable (cell : IsCell s)
include cell

theorem not_isBlank : ∀ c ∈ s, Text.isBlank c = false := by
  intro c mem
  have free := cell.isCellChar c mem
  simp only [Record.isCellChar, Bool.not_or, Bool.and_eq_true, Bool.not_eq_true'] at free
  exact free.1

/-- No delimiter is found inside of a cell. What the delimiters are is said once, in the definition of the
characters of cells. -/
theorem ne_of_mem {c d : Char} (mem : c ∈ s) (delimiter : Record.isCellChar d = false) : c ≠ d := by
  rintro rfl
  rw [cell.isCellChar c mem] at delimiter
  cases delimiter

/-- A cell is plain for the reader of records: it starts no new field, no new line and no quoted part. -/
theorem isPlain : ∀ c ∈ s, Record.isPlain c = true := by
  intro c mem
  simp only [Record.isPlain, Bool.and_eq_true, bne_iff_ne]
  exact ⟨⟨⟨cell.ne_of_mem mem rfl, cell.ne_of_mem mem rfl⟩, cell.ne_of_mem mem rfl⟩,
    cell.ne_of_mem mem rfl⟩

theorem tight : Text.Tight s where
  starts c first := cell.not_isBlank c (List.mem_of_mem_head? first)
  ends c last := cell.not_isBlank c (List.mem_of_mem_getLast? last)

/-- Blanks around a cell are dropped, and nothing else. -/
theorem strip_of_spaced (spaced : Spaced s cs) : Text.strip cs = s :=
  Text.strip_eq_iff.mpr ⟨spaced.padded, cell.tight⟩

end IsCell

end Record

/-! ## Records that are not blank -/

namespace File

/-- The records that hold more than blanks. -/
def visible (rs : List Record) : List Record := rs.filter fun r => !isBlankRecord r

/-- Which records are visible is seen from each by itself. So it may be found out for a record and for the rest
of them separately. -/
theorem visible_append (rs rs' : List Record) : visible (rs ++ rs') = visible rs ++ visible rs' :=
  List.filter_append ..

theorem visible_cons (r : Record) (rs : List Record) : visible (r :: rs) = visible [r] ++ visible rs :=
  visible_append [r] rs

/-- A record of blanks is left out, and the next one must not be: these two statements say what a line adds to
the records that are read. -/
theorem visible_of_isBlankRecord {r : Record} (blank : isBlankRecord r = true) : visible [r] = [] := by
  simp [visible, blank]

theorem visible_of_not_isBlankRecord {r : Record} (solid : isBlankRecord r = false) :
    visible [r] = [r] := by
  simp [visible, solid]

end File

open File (visible)

/-! ## Reading lines -/

namespace Record

/-- The records of the rest of a text, where a part of the first one was read. -/
def readFrom (p : Partial) (cs : List Char) : List Record := (scan p cs).1 ++ (scan p cs).2.toList

/-- Reading all records is reading on from the state before the first character; the induction over a layout
needs such states in the middle of a text. -/
theorem readAll_eq_readFrom (cs : List Char) : readAll cs = readFrom .empty cs := rfl

section LineEnds

variable {p : Partial} (isOpen : p.isOpen = true) (rest : List Char)
include isOpen

/-- A line feed ends the record that has been read so far, and a new one is begun. -/
theorem readFrom_feed : readFrom p ('\n' :: rest) = p.finish :: readFrom .empty rest := by
  rw [readFrom, scan.eq_3 _ _ _ (by rintro _ ⟨⟩), if_pos (by simp [isOpen])]
  rfl

/-- A carriage return and the line feed directly after it end the record together. They are taken at once, so
that there is no empty record between them. -/
theorem readFrom_returnFeed : readFrom p ('\r' :: '\n' :: rest) = p.finish :: readFrom .empty rest := by
  rw [readFrom, scan, if_pos isOpen]
  rfl

/-- A carriage return by itself ends the record as well. What follows it must not begin with a line feed, or
this would be taken, too. -/
theorem readFrom_carriageReturn (other : ∀ cs, rest ≠ '\n' :: cs) :
    readFrom p ('\r' :: rest) = p.finish :: readFrom .empty rest := by
  rw [readFrom, scan.eq_3 _ _ _ (fun cs _ => other cs), if_pos (by simp [isOpen])]
  rfl

end LineEnds

/-- **A line end ends the record**, whatever comes after it. -/
theorem visible_readFrom_endsLine {p : Partial} (isOpen : p.isOpen = true) {stop rest : List Char}
    (ends : EndsLine stop rest) :
    visible (readFrom p (stop ++ rest)) = visible [p.finish] ++ visible (readFrom .empty rest) := by
  cases ends with
  | feed => rw [List.cons_append, List.nil_append, readFrom_feed isOpen, File.visible_cons]
  | returnFeed =>
    rw [List.cons_append, List.cons_append, List.nil_append, readFrom_returnFeed isOpen, File.visible_cons]
  | carriageReturn =>
    by_cases joins : ∃ cs, rest = '\n' :: cs
    · -- The blank record that the line feed would end by itself is missing.
      obtain ⟨cs, rfl⟩ := joins
      have blank : visible (readFrom .empty ('\n' :: cs)) = visible (readFrom .empty cs) := by
        rw [readFrom_feed rfl, File.visible_cons, File.visible_of_isBlankRecord rfl, List.nil_append]
      rw [blank, List.cons_append, List.nil_append, readFrom_returnFeed isOpen, File.visible_cons]
    · rw [List.cons_append, List.nil_append,
        readFrom_carriageReturn isOpen rest fun cs same => joins ⟨cs, same⟩, File.visible_cons]
  | endOfText =>
    have nothing : readFrom .empty [] = [] := rfl
    rw [nothing, List.append_nil, readFrom, scan]
    by_cases start : p.place = .start
    · rw [if_pos start, Partial.finish, start]
      rfl
    · rw [if_neg start]
      exact (List.append_nil _).symm

variable {place : Place} {fields r : Record} {field : List Char}

/-- What was read when a field was read from its start on. -/
def afterField (place : Place) (fields : Record) (field : List Char) : Partial :=
  if field = [] then ⟨place, fields, []⟩ else ⟨.plain, fields, field.reverse⟩

/-- The characters of a plain field are collected at the start of a line or of a field. An empty field leaves
the state as it is, which is why it needs a name of its own. -/
theorem scan_afterField (fresh : place = .start ∨ place = .field) (plain : ∀ c ∈ field, isPlain c = true)
    (rest : List Char) :
    scan ⟨place, fields, []⟩ (field ++ rest) = scan (afterField place fields field) rest := by
  by_cases empty : field = []
  · rw [afterField, if_pos empty, empty]
    rfl
  · rw [afterField, if_neg empty, scan_field fresh empty plain]

/-- A comma after a field starts the next field. -/
theorem scan_comma (fresh : place = .start ∨ place = .field) (rest : List Char) :
    scan (afterField place fields field) (',' :: rest) = scan ⟨.field, field :: fields, []⟩ rest := by
  have push : (afterField place fields field).push ',' = ⟨.field, field :: fields, []⟩ := by
    by_cases empty : field = []
    · rcases fresh with rfl | rfl <;>
        simp [afterField, empty, Partial.push, Partial.push.plainPush]
    · simp [afterField, empty, Partial.push, Partial.push.plainPush]
  rw [scan.eq_3 _ _ _ (by rintro _ ⟨⟩), if_neg (by simp), push]

/-- After a field the line is not inside of quotes, so a line end is the end of the record there. -/
theorem isOpen_afterField (fresh : place = .start ∨ place = .field) :
    (afterField place fields field).isOpen = true := by
  by_cases empty : field = []
  · rcases fresh with rfl | rfl <;> simp [afterField, empty, Partial.isOpen]
  · simp [afterField, empty, Partial.isOpen]

/-- A line that consists of nothing is a record without fields, and not one with an empty field. -/
theorem visible_finish_afterField (fresh : place = .start ∧ fields = [] ∨ place = .field) :
    visible [(afterField place fields field).finish] = visible [fields.reverse ++ [field]] := by
  by_cases empty : field = []
  · rcases fresh with ⟨rfl, rfl⟩ | rfl
    · rw [empty]
      rfl
    · simp [afterField, empty, Partial.finish]
  · simp [afterField, empty, Partial.finish]

/-- The fields of a line are read one after the other, after some other ones. -/
theorem exists_scan_line (fresh : place = .start ∧ fields = [] ∨ place = .field) (some : r ≠ [])
    (plain : ∀ field ∈ r, ∀ c ∈ field, isPlain c = true) :
    ∃ p : Partial, p.isOpen = true ∧ visible [p.finish] = visible [fields.reverse ++ r] ∧
      ∀ rest, scan ⟨place, fields, []⟩ (line r ++ rest) = scan p rest := by
  induction r generalizing place fields with
  | nil => exact absurd rfl some
  | cons field r ih =>
    have atStart : place = .start ∨ place = .field := fresh.imp_left And.left
    obtain ⟨plainField, plainRest⟩ := List.forall_mem_cons.mp plain
    by_cases last : r = []
    · subst last
      refine ⟨afterField place fields field, isOpen_afterField atStart,
        visible_finish_afterField fresh, fun rest => ?_⟩
      rw [line, List.intercalate_singleton, scan_afterField atStart plainField]
    · obtain ⟨p, isOpen, finish, scanned⟩ := @ih .field (field :: fields) (Or.inr rfl) last plainRest
      refine ⟨p, isOpen, ?_, fun rest => ?_⟩
      · rw [finish, List.reverse_cons, List.append_assoc]
        rfl
      · have text : line (field :: r) ++ rest = field ++ ',' :: (line r ++ rest) := by
          rw [line, List.intercalate_cons_of_ne_nil last]
          simp [line]
        rw [text, scan_afterField atStart plainField, scan_comma atStart, scanned]

/-- **One line, and the lines after it.** The fields of the line are a record of their own, whatever ends the
line, and reading goes on as at the start of a text. -/
theorem visible_readFrom_line (plain : ∀ field ∈ r, ∀ c ∈ field, isPlain c = true)
    {stop rest : List Char} (ends : EndsLine stop rest) :
    visible (readFrom .empty (line r ++ (stop ++ rest))) =
      visible [r] ++ visible (readFrom .empty rest) := by
  by_cases some : r = []
  · subst some
    exact visible_readFrom_endsLine (p := .empty) rfl ends
  · obtain ⟨p, isOpen, finish, scanned⟩ :=
      @exists_scan_line .start [] r (Or.inl ⟨rfl, rfl⟩) some plain
    have read : readFrom .empty (line r ++ (stop ++ rest)) = readFrom p (stop ++ rest) := by
      rw [readFrom, Partial.empty, scanned]
      rfl
    rw [read, visible_readFrom_endsLine isOpen ends, finish]
    rfl

/-! ## Reading layouts -/

/-- Fields with blanks around them are the fields again without these blanks, and if there are any then the
record is not blank. -/
theorem map_strip_of_spaced {r spaced : Record} (cells : ∀ field ∈ r, IsCell field)
    (related : List.Forall₂ Spaced r spaced) :
    spaced.map Text.strip = r ∧ (r ≠ [] → File.isBlankRecord spaced = false) := by
  induction related with
  | nil => exact ⟨rfl, absurd rfl⟩
  | @cons field cs r spaced first _ ih =>
    obtain ⟨cell, others⟩ := List.forall_mem_cons.mp cells
    have strip := cell.strip_of_spaced first
    refine ⟨by rw [List.map_cons, strip, (ih others).1], fun _ => ?_⟩
    rw [File.isBlankRecord, List.all_cons, strip, List.isEmpty_eq_false_iff.mpr cell.ne_nil, Bool.false_and]

/-- A line of blank fields is a blank record: nothing is left of any field without the blanks. -/
theorem isBlankRecord_of_lineBlank {blanks : Record} (blank : ∀ w ∈ blanks, LineBlank w) :
    File.isBlankRecord blanks = true := by
  refine List.all_eq_true.mpr fun w mem => ?_
  have nothing : Text.strip w = [] :=
    Text.strip_eq_nil_iff.mpr ⟨w, [], (blank w mem).blank, Text.Blank.nil, by simp⟩
  rw [nothing]
  rfl

/-- **The records of a layout are read**: without the blank ones, and without the blanks around their fields,
they are the records that were written. -/
theorem Layout.map_strip_visible {rs : List Record} {text : List Char} (layout : Layout rs text)
    (cells : ∀ r ∈ rs, r ≠ [] ∧ ∀ field ∈ r, IsCell field) :
    (visible (readAll text)).map (List.map Text.strip) = rs := by
  rw [readAll_eq_readFrom]
  induction layout with
  | nil => rfl
  | @record r spaced rs stop rest related ends _ ih =>
    obtain ⟨⟨some, first⟩, others⟩ := List.forall_mem_cons.mp cells
    obtain ⟨strip, solid⟩ := map_strip_of_spaced first related
    have plain : ∀ cs ∈ spaced, ∀ c ∈ cs, isPlain c = true :=
      forall_mem_of_forall₂ (((List.forall₂_and_left _ _).mpr ⟨first, related⟩).flip)
        fun cs field both => both.2.isPlain both.1.isPlain
    rw [visible_readFrom_line plain ends, File.visible_of_not_isBlankRecord (solid some), List.map_append,
      ih others, List.map_singleton, strip]
    rfl
  | blank blank ends _ ih =>
    rw [visible_readFrom_line (fun w mem => (blank w mem).isPlain) ends,
      File.visible_of_isBlankRecord (isBlankRecord_of_lineBlank blank), List.nil_append, ih cells]

end Record

/-! ## The text of a matrix -/

/-- The text of a matrix whose values are the fields of records. -/
def bracketed (rs : List Record) : List Char :=
  enclosed matrixStart matrixEnd rowSeparator (rs.map (enclosed rowStart rowEnd separator))

section Bracketed

variable {rs : List Record} (some : rs ≠ [])
  (cells : ∀ r ∈ rs, r ≠ [] ∧ ∀ field ∈ r, Record.IsCell field)

/-- What is found in an enclosed text stands in one of the pieces or is one of the delimiters. -/
theorem of_mem_enclosed {start stop d c : Char} {pieces : List (List Char)}
    (mem : c ∈ enclosed start stop d pieces) : c ∈ [start, d, stop] ∨ ∃ p ∈ pieces, c ∈ p := by
  rcases List.mem_cons.mp mem with rfl | rest
  · exact Or.inl List.mem_cons_self
  · rcases List.mem_append.mp rest with body | closing
    · rcases of_mem_intercalate body with rfl | piece
      · exact Or.inl (List.mem_cons_of_mem _ List.mem_cons_self)
      · exact Or.inr piece
    · rw [List.mem_singleton.mp closing]
      exact Or.inl (by simp)

include cells

theorem removeBlanks_bracketed : Text.removeBlanks (bracketed rs) = bracketed rs := by
  have outer : ∀ c ∈ [matrixStart, rowSeparator, matrixEnd], Text.isBlank c = false := by
    simp only [List.forall_mem_cons]
    exact ⟨rfl, rfl, rfl, nofun⟩
  have inner : ∀ c ∈ [rowStart, separator, rowEnd], Text.isBlank c = false := by
    simp only [List.forall_mem_cons]
    exact ⟨rfl, rfl, rfl, nofun⟩
  refine List.filter_eq_self.mpr fun c mem => ?_
  have solid : Text.isBlank c = false := by
    rcases of_mem_enclosed mem with delimiter | ⟨row, listed, found⟩
    · exact outer c delimiter
    · obtain ⟨r, record, rfl⟩ := List.mem_map.mp listed
      rcases of_mem_enclosed found with delimiter | ⟨field, ofRecord, found⟩
      · exact inner c delimiter
      · exact ((cells r record).2 field ofRecord).not_isBlank c found
  rw [solid]
  rfl

include some

/-- The rows of the text are the records, value by value. -/
theorem Matrix.readRows_bracketed :
    Matrix.readRows (bracketed rs) = rs.mapM fun r => r.mapM Matrix.readValue := by
  have rowFree : ∀ row ∈ rs.map (enclosed rowStart rowEnd separator), row ≠ [] ∧ rowSeparator ∉ row := by
    intro row listed
    obtain ⟨r, record, rfl⟩ := List.mem_map.mp listed
    refine ⟨List.cons_ne_nil _ _, fun mem => ?_⟩
    rcases of_mem_enclosed mem with delimiter | ⟨field, ofRecord, found⟩
    · exact absurd delimiter (by decide)
    · exact ((cells r record).2 field ofRecord).ne_of_mem found rfl rfl
  have rows : Matrix.readRows (bracketed rs) =
      (rs.map (enclosed rowStart rowEnd separator)).mapM Matrix.readRow :=
    readEnclosed_enclosed (mt List.map_eq_nil_iff.mp some) rowFree
  rw [rows, List.mapM_map]
  refine mapM_congr fun r record => ?_
  obtain ⟨nonempty, fields⟩ := cells r record
  exact readEnclosed_enclosed nonempty fun field ofRecord =>
    ⟨(fields field ofRecord).ne_nil, fun mem => (fields field ofRecord).ne_of_mem mem rfl rfl⟩

/-- The reader of texts, given the records in brackets, reads each field as a number, and gives back the rows of
these. It has a result only if all the fields are numbers. -/
theorem Matrix.readRows_bracketed_eq_ok_iff {rows : List (List Quantity)} :
    Matrix.readRows (bracketed rs) = .ok rows ↔
      List.Forall₂ (List.Forall₂ fun field q => Quantity.read field = .ok q) rs rows := by
  rw [Matrix.readRows_bracketed some cells]
  simp only [mapM_eq_ok_iff, Matrix.readValue_eq_ok_iff]

end Bracketed

/-! ## Values of records -/

namespace File

variable {path : String} {number : ℕ} {rs : List Record}

/-- The reader of files reads the fields of one record in the same way, without the blanks around them. Which
fault it reports for them does not matter to what it accepts. -/
theorem readFields_eq_ok_iff {r : Record} {row : List Quantity} {e : Error} :
    (r.mapM fun field => Quantity.read (Text.strip field)).mapError (fun _ => e) = .ok row ↔
      List.Forall₂ (fun field q => Quantity.read (Text.strip field) = .ok q) r row := by
  rw [← mapM_eq_ok_iff]
  cases r.mapM fun field => Quantity.read (Text.strip field) with
  | error _ =>
    constructor
    all_goals
      intro ok
      cases ok
  | ok _ => exact Iff.rfl

/-- The rows are the values of the records that are not blank. -/
theorem recordRows_eq_ok_iff {rows : List (List Quantity)} :
    recordRows path number rs = .ok rows ↔
      List.Forall₂ (List.Forall₂ fun field q => Quantity.read (Text.strip field) = .ok q)
        (visible rs) rows := by
  induction rs generalizing number rows with
  | nil =>
    rw [visible, List.filter_nil, List.forall₂_nil_left_iff, recordRows, Except.ok.injEq]
    exact eq_comm
  | cons r rs ih =>
    rw [recordRows]
    cases solid : isBlankRecord r with
    | true =>
      rw [if_pos rfl, ih, visible_cons, visible_of_isBlankRecord solid, List.nil_append]
    | false =>
      rw [if_neg Bool.false_ne_true, visible_cons, visible_of_not_isBlankRecord solid,
        List.singleton_append]
      constructor
      · intro read
        obtain ⟨row, first, rest⟩ := of_bind_ok read
        obtain ⟨rows, others, rest⟩ := of_bind_ok rest
        cases rest
        exact .cons (readFields_eq_ok_iff.mp first) (ih.mp others)
      · rintro ⟨⟩
        case cons row rows first others =>
          rw [readFields_eq_ok_iff.mpr first, ih.mpr others]
          rfl

/-- Whatever goes wrong in a record, the reader of files reports it as a fault of reading, with the path and the
line. -/
theorem faultsOfReading_recordRows : FaultsOfReading (recordRows path number rs) := by
  induction rs generalizing number with
  | nil => exact .ok []
  | cons r rs ih =>
    rw [recordRows]
    split
    · exact ih
    · refine FaultsOfReading.bind ?_ fun row => ih.bind fun rows => .ok _
      cases r.mapM fun field => Quantity.read (Text.strip field) with
      | error _ => exact .error _
      | ok row => exact .ok row

/-! ## The two readers -/

/-- A file that is decoded has the matrix of its rows, if it has rows. -/
theorem outcome_readRecords_of_read {name : String} {e : Encoding} (known : Encoding.ofName name = .ok e)
    {bytes : List UInt8} {text : List Char} (decoded : e.read bytes = ⟨text, none⟩) :
    (readRecords ⟨path, some bytes⟩ name).outcome =
      recordRows path 1 (Record.readAll text) >>= fun rows =>
        if rows.isEmpty then .error (.reading (.noMatrix path)) else (Matrix.fromRows rows).outcome := by
  rw [readRecords, Logged.outcome_bind_of_ok (a := bytes) rfl, Logged.outcome_bind_of_ok known]
  simp only [decoded, incomingRecords]
  rw [Logged.outcome_bind]
  refine congrArg _ (funext fun rows => ?_)
  split
  · rfl
  · rfl

/-- **Every layout of records is read as the text of a matrix is.** If the fields of the records are texts
that could stand in both, then the reader of files and the reader of texts make the same matrix, or each of
them reports a fault of reading. -/
theorem readRecords_of_layout {text : List Char} (nonempty : rs ≠ [])
    (cells : ∀ r ∈ rs, r ≠ [] ∧ ∀ field ∈ r, Record.IsCell field) (layout : Record.Layout rs text)
    {name : String} {e : Encoding} (known : Encoding.ofName name = .ok e) {bytes : List UInt8}
    (decoded : e.read bytes = ⟨text, none⟩) :
    (∃ m, (readRecords ⟨path, some bytes⟩ name).outcome = .ok m ∧
        (Matrix.parse (String.ofList (bracketed rs))).outcome = .ok m) ∨
      ∃ fault fault', (readRecords ⟨path, some bytes⟩ name).outcome = .error (.reading fault) ∧
        (Matrix.parse (String.ofList (bracketed rs))).outcome = .error (.reading fault') := by
  have fromFile (rows : List (List Quantity)) : recordRows path 1 (Record.readAll text) = .ok rows ↔
      List.Forall₂ (List.Forall₂ fun field q => Quantity.read field = .ok q) rs rows := by
    rw [recordRows_eq_ok_iff, ← layout.map_strip_visible cells]
    simp only [List.forall₂_map_left_iff]
  rw [outcome_readRecords_of_read known decoded, Matrix.outcome_parse, String.toList_ofList,
    removeBlanks_bracketed cells]
  cases read : Matrix.readRows (bracketed rs) with
  | ok rows =>
    have related := (Matrix.readRows_bracketed_eq_ok_iff nonempty cells).mp read
    have rowsNonempty : rows.isEmpty = false := by
      refine List.isEmpty_eq_false_iff.mpr ?_
      rintro rfl
      exact nonempty (List.forall₂_nil_right_iff.mp related)
    rw [(fromFile rows).mpr related]
    show (∃ m, (if rows.isEmpty then _ else _) = _ ∧ (Matrix.fromRows rows).outcome = _) ∨
      ∃ fault fault', (if rows.isEmpty then _ else _) = _ ∧ (Matrix.fromRows rows).outcome = _
    rw [rowsNonempty, if_neg Bool.false_ne_true]
    rcases Matrix.outcome_fromRows_cases rows with ⟨r, c, g, rowsPos, columnsPos, rfl⟩ | ⟨fault, failed⟩
    · exact Or.inl ⟨_, Matrix.outcome_fromRows g rowsPos columnsPos,
        Matrix.outcome_fromRows g rowsPos columnsPos⟩
    · exact Or.inr ⟨fault, fault, failed, failed⟩
  | error e' =>
    obtain ⟨fault', rfl⟩ := Matrix.faultsOfReading_readRows _ e' read
    cases failed : recordRows path 1 (Record.readAll text) with
    | ok rows =>
      rw [(Matrix.readRows_bracketed_eq_ok_iff nonempty cells).mpr ((fromFile rows).mp failed)] at read
      cases read
    | error e =>
      obtain ⟨fault, rfl⟩ := faultsOfReading_recordRows e failed
      exact Or.inr ⟨fault, fault', rfl, rfl⟩

/-- Four values, with blanks around some of them. The first line ends with a carriage return, and after it
come a line that is empty and one that holds no more than a comma and a blank; the last line just ends. -/
theorem readRecords_of_spaced_lines :
    ∃ m, (readRecords ⟨"m.csv", some (Encoding.utf8.encode " 1/2,\ti\r\n ,\r\n-3 ,4".toList)⟩
        "utf-8").outcome = .ok m ∧
      (Matrix.parse "[{1/2,i};{-3,4}]").outcome = .ok m := by
  let records : List Record := [["1/2".toList, "i".toList], ["-3".toList, "4".toList]]
  let text := " 1/2,\ti\r\n ,\r\n-3 ,4".toList
  have space : Record.LineBlank [' '] := by decide
  have tab : Record.LineBlank ['\t'] := by decide
  have nothing : Record.LineBlank [] := by decide
  have cells : ∀ r ∈ records, r ≠ [] ∧ ∀ field ∈ r, Record.IsCell field := by decide
  have first : List.Forall₂ Record.Spaced ["1/2".toList, "i".toList] [" 1/2".toList, "\ti".toList] :=
    .cons ⟨_, _, space, nothing, rfl⟩ (.cons ⟨_, _, tab, nothing, rfl⟩ .nil)
  have last : List.Forall₂ Record.Spaced ["-3".toList, "4".toList] ["-3 ".toList, "4".toList] :=
    .cons ⟨_, _, nothing, space, rfl⟩ (.cons ⟨_, _, nothing, nothing, rfl⟩ .nil)
  have empty : ∀ w ∈ ([] : Record), Record.LineBlank w := by decide
  have blank : ∀ w ∈ ([[' '], []] : Record), Record.LineBlank w := by decide
  have layout : Record.Layout records text :=
    .record first (.carriageReturn _)
      (.blank empty (.feed _) (.blank blank (.returnFeed _) (.record last .endOfText .nil)))
  have decoded : Encoding.utf8.read (Encoding.utf8.encode text) = ⟨text, none⟩ :=
    Encoding.read_encode rfl
  have named : Encoding.ofName? "utf-8" = some .utf8 := by decide +kernel
  have known : Encoding.ofName "utf-8" = .ok .utf8 := by rw [Encoding.ofName, named]
  have same : String.ofList (bracketed records) = "[{1/2,i};{-3,4}]" := rfl
  obtain ⟨m, read, parsed⟩ | ⟨fault, fault', -, failed⟩ :=
    @readRecords_of_layout "m.csv" _ _ (List.cons_ne_nil _ _) cells layout _ _ known _ decoded
  · exact ⟨m, read, parsed⟩
  · have parsed : (Matrix.parse "[{1/2,i};{-3,4}]").outcome.toBool = true := by decide +kernel
    rw [← same, failed] at parsed
    cases parsed

end File

end ExactAlgebra
