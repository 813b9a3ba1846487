import ExactAlgebra.Proofs.Decoding
import ExactAlgebra.Proofs.MatrixText
import ExactAlgebra.Proofs.PackedData
import ExactAlgebra.Storage.MatrixFile

/-!
# Matrices read back from files

A matrix that was written to a file is read back as it is read back from its text, whether it was
written as records or as compressed text, and in every encoding. Nothing in the text of a number has to
be quoted in a record, no field is empty, and no record is blank; and all characters are ASCII, so no
encoding lacks one of them.

## Main statements

* `Record.readAll_flatMap_write`: the records of a text that was written record by record.
* `File.outcome_readRecords`, `File.outcome_load`: what is read from files that hold a matrix.
* `Operand.read_back_from_files`: the round trips.
-/

namespace ExactAlgebra

/-! ## Records -/

namespace Record

/-- A character that needs no quotes. -/
def isPlain (c : Char) : Bool := c != ',' && c != '"' && c != '\n' && c != '\r'

variable {c : Char} {field : List Char} {fields : Record} {current : List Char} {place : Place}

theorem scan_cons_of_isPlain (outside : place = .start ∨ place = .field ∨ place = .plain)
    (plain : isPlain c = true) (rest : List Char) :
    scan ⟨place, fields, current⟩ (c :: rest) = scan ⟨.plain, fields, c :: current⟩ rest := by
  simp only [isPlain, Bool.and_eq_true, bne_iff_ne] at plain
  obtain ⟨⟨⟨comma, quote⟩, feed⟩, return'⟩ := plain
  have push : Partial.push ⟨place, fields, current⟩ c = ⟨.plain, fields, c :: current⟩ := by
    rcases outside with rfl | rfl | rfl <;>
      simp [Partial.push, Partial.push.plainPush, comma, quote]
  rw [scan.eq_3 _ _ _ (by rintro _ rfl; exact absurd rfl return'), if_neg (by simp [feed, return']), push]

theorem scan_append_of_isPlain (plain : ∀ c ∈ field, isPlain c = true) (rest : List Char) :
    scan ⟨.plain, fields, current⟩ (field ++ rest) =
      scan ⟨.plain, fields, field.reverse ++ current⟩ rest := by
  induction field generalizing current with
  | nil => rfl
  | cons c field ih =>
    rw [List.cons_append, scan_cons_of_isPlain (Or.inr (Or.inr rfl)) (plain c List.mem_cons_self),
      ih fun d mem => plain d (List.mem_cons_of_mem _ mem), List.reverse_cons, List.append_assoc]
    rfl

/-- A field is read from where it starts. -/
theorem scan_field (fresh : place = .start ∨ place = .field) (some : field ≠ [])
    (plain : ∀ c ∈ field, isPlain c = true) (rest : List Char) :
    scan ⟨place, fields, []⟩ (field ++ rest) = scan ⟨.plain, fields, field.reverse⟩ rest := by
  obtain ⟨c, field, rfl⟩ := List.exists_cons_of_ne_nil some
  rw [List.cons_append, scan_cons_of_isPlain (by tauto) (plain c List.mem_cons_self),
    scan_append_of_isPlain fun d mem => plain d (List.mem_cons_of_mem _ mem), List.reverse_cons]

/-- A record that was written is read, after some of its fields. -/
theorem scan_write {r : Record} (fresh : place = .start ∨ place = .field) (some : r ≠ [])
    (writable : ∀ field ∈ r, field ≠ [] ∧ ∀ c ∈ field, isPlain c = true) (rest : List Char) :
    scan ⟨place, fields, []⟩ (write r ++ rest) =
      ((fields.reverse ++ r) :: (scan .empty rest).1, (scan .empty rest).2) := by
  induction r generalizing place fields with
  | nil => exact absurd rfl some
  | cons field r ih =>
    obtain ⟨nonempty, plain⟩ := writable field List.mem_cons_self
    by_cases last : r = []
    · subst last
      have text : write [field] ++ rest = field ++ '\n' :: rest := by
        rw [write, List.intercalate_singleton, List.append_assoc]
        rfl
      rw [text, scan_field fresh nonempty plain]
      simp [scan, Partial.isOpen, Partial.finish]
    · have text : write (field :: r) ++ rest = field ++ ',' :: (write r ++ rest) := by
        rw [write, List.intercalate_cons_of_ne_nil last]
        simp [write]
      have comma : scan ⟨.plain, fields, field.reverse⟩ (',' :: (write r ++ rest)) =
          scan ⟨.field, field :: fields, []⟩ (write r ++ rest) := by
        rw [scan.eq_3 _ _ _ (by rintro _ ⟨⟩), if_neg (by simp)]
        simp [Partial.push, Partial.push.plainPush]
      rw [text, scan_field fresh nonempty plain, comma,
        ih (Or.inr rfl) last fun f mem => writable f (List.mem_cons_of_mem _ mem), List.reverse_cons,
        List.append_assoc]
      rfl

/-- **Records that were written are read**, if no field has to be quoted. -/
theorem readAll_flatMap_write {rs : List Record} (some : ∀ r ∈ rs, r ≠ [])
    (writable : ∀ r ∈ rs, ∀ field ∈ r, field ≠ [] ∧ ∀ c ∈ field, isPlain c = true) :
    readAll (rs.flatMap write) = rs := by
  have scanned : scan .empty (rs.flatMap write) = (rs, none) := by
    induction rs with
    | nil => rfl
    | cons r rs ih =>
      rw [List.flatMap_cons, Partial.empty, scan_write (Or.inl rfl) (some r List.mem_cons_self)
        (writable r List.mem_cons_self), ih (fun r mem => some r (List.mem_cons_of_mem _ mem))
        fun r mem => writable r (List.mem_cons_of_mem _ mem)]
      rfl
  rw [readAll, scanned]
  exact List.append_nil rs

end Record

/-! ## The texts of matrices -/

namespace Encoding

theorem unencodable?_eq_none (e : Encoding) {cs : List Char} (ascii : ∀ c ∈ cs, c.toNat < 0x80) :
    e.unencodable? cs = none := by
  have none (name : String) (size : ℕ) (fits : 0x80 ≤ size) : firstBeyond? name size cs = none := by
    have all : (cs.takeWhile fun c => c.toNat < size) = cs :=
      List.takeWhile_eq_self_iff.mpr fun c mem => by simpa using (ascii c mem).trans_le fits
    simp only [firstBeyond?, all, List.drop_length]
    rfl
  cases e
  case ascii | latin1 => exact none _ _ (by decide)
  all_goals rfl

end Encoding

namespace Matrix

/-- The texts of the rows. -/
def fieldTexts (m : Matrix) : List Record := m.rows.map fun row => row.map Quantity.text

theorem recordText_eq (m : Matrix) : m.recordText = m.fieldTexts.flatMap Record.write :=
  (List.flatMap_map ..).symm

theorem isPlain_of_isNumeral {c : Char} (numeral : isNumeral c = true) : Record.isPlain c = true := by
  simp only [Record.isPlain, Bool.and_eq_true, bne_iff_ne]
  refine ⟨⟨⟨?_, ?_⟩, ?_⟩, ?_⟩
  all_goals
    rintro rfl
    exact absurd numeral (by decide)

theorem readAll_recordText (m : Matrix) : Record.readAll m.recordText = m.fieldTexts := by
  rw [recordText_eq]
  refine Record.readAll_flatMap_write ?_ ?_
  · intro r mem
    obtain ⟨row, listed, rfl⟩ := List.mem_map.mp mem
    exact mt List.map_eq_nil_iff.mp (ne_nil_of_mem_rows listed)
  · intro r mem field found
    obtain ⟨row, listed, rfl⟩ := List.mem_map.mp mem
    obtain ⟨q, -, rfl⟩ := List.mem_map.mp found
    exact ⟨q.text_ne_nil, fun c has => isPlain_of_isNumeral (Quantity.isNumeral_of_mem_text has)⟩

theorem ascii_of_mem_recordText {m : Matrix} {c : Char} (h : c ∈ m.recordText) : c.toNat < 0x80 := by
  rw [recordText_eq, List.mem_flatMap] at h
  obtain ⟨r, mem, found⟩ := h
  obtain ⟨row, -, rfl⟩ := List.mem_map.mp mem
  rcases List.mem_append.mp found with fields | feed
  · rcases of_mem_intercalate fields with rfl | ⟨field, mem, found⟩
    · decide
    · obtain ⟨q, -, rfl⟩ := List.mem_map.mp mem
      exact (toNat_of_isNumeral (Quantity.isNumeral_of_mem_text found)).2.trans (by decide)
  · rw [List.mem_singleton.mp feed]
    decide

end Matrix

/-! ## Files -/

namespace File

/-- The records of rows are read as the rows. None of them is blank. -/
theorem recordRows_texts (path : String) (number : ℕ) {rows : List (List Quantity)}
    (some : ∀ row ∈ rows, row ≠ []) :
    recordRows path number (rows.map fun row => row.map Quantity.text) =
      .ok (rows.map fun row => row.map Quantity.demote) := by
  have strip (q : Quantity) : Text.strip q.text = q.text :=
    strip_of_numerals fun _ => Quantity.isNumeral_of_mem_text
  induction rows generalizing number with
  | nil => rfl
  | cons row rows ih =>
    obtain ⟨q, others, nonempty⟩ := List.exists_cons_of_ne_nil (some row List.mem_cons_self)
    have visible : isBlankRecord (row.map Quantity.text) = false := by
      rw [nonempty, List.map_cons, isBlankRecord, List.all_cons, strip,
        List.isEmpty_eq_false_iff.mpr q.text_ne_nil, Bool.false_and]
    have values : ((row.map Quantity.text).mapM fun field => Quantity.read (Text.strip field)) =
        .ok (row.map Quantity.demote) := by
      rw [List.mapM_map]
      exact mapM_eq_ok fun q _ => (congrArg Quantity.read (strip q)).trans q.read_text
    rw [List.map_cons, recordRows, visible, if_neg Bool.false_ne_true, values,
      ih (number + 1) fun row mem => some row (List.mem_cons_of_mem _ mem)]
    rfl

variable {name : String} {e : Encoding} (known : Encoding.ofName name = .ok e)

include known

/-- **What is read from a file of the records of a matrix.** -/
theorem outcome_readRecords (m : Matrix) (path : String) :
    (readRecords ⟨path, some (e.encode m.recordText)⟩ name).outcome = .ok m.demote := by
  have text : e.read (e.encode m.recordText) = ⟨m.recordText, none⟩ :=
    Encoding.read_encode (e.unencodable?_eq_none fun _ => Matrix.ascii_of_mem_recordText)
  have rows : recordRows path 1 m.fieldTexts = .ok m.grid.demote.rows := by
    rw [Grid.demote, Grid.rows_mapCells]
    exact recordRows_texts path 1 fun _ => Matrix.ne_nil_of_mem_rows
  have nonempty : m.grid.demote.rows.isEmpty = false := by
    rw [Grid.demote, Grid.rows_mapCells, List.isEmpty_eq_false_iff]
    exact mt List.map_eq_nil_iff.mp m.rows_ne_nil
  rw [readRecords, Logged.outcome_bind_of_ok (a := e.encode m.recordText) rfl,
    Logged.outcome_bind_of_ok known]
  simp only [text, incomingRecords, Matrix.readAll_recordText]
  rw [Logged.outcome_bind_of_ok rows, nonempty, if_neg Bool.false_ne_true]
  exact Matrix.outcome_fromRows m.grid.demote m.rowCount_pos m.columnCount_pos

/-- Unpacked bytes are decoded, and there is nothing to decode in none. -/
theorem unpackedText_encode {cs : List Char} (has : e.unencodable? cs = none) (path : String) :
    unpackedText path name (e.encode cs) = .ok cs := by
  have decoded : e.decode (e.encode cs) = .ok cs := Encoding.decode_encode has
  unfold unpackedText
  rw [known]
  split_ifs with empty
  · rw [List.isEmpty_iff.mp empty, Encoding.decode_nil] at decoded
    exact congrArg Except.ok (Except.ok.inj decoded)
  · show (e.decode (e.encode cs)).mapError _ = _
    rw [decoded]
    rfl

/-- **What is read from a file of the packed text of a matrix**, whichever way it is packed. -/
theorem outcome_load (m : Matrix) (path : String) {packed : List UInt8}
    (unpacked : Gzip.unpack? packed = some (e.encode m.text)) :
    (load ⟨path, some packed⟩ name).outcome = .ok m.demote := by
  have text : unpackedText path name (e.encode m.text) = .ok m.text :=
    unpackedText_encode known (e.unencodable?_eq_none fun _ mem =>
      (Matrix.printable_of_mem_text mem).2.trans (by decide)) path
  have opened : orFail (.reading (.corrupted path)) (Gzip.unpack? packed) = .ok (e.encode m.text) := by
    rw [unpacked]
    rfl
  rw [load, Logged.outcome_bind_of_ok (a := packed) rfl, Logged.outcome_bind_of_ok opened,
    Logged.outcome_bind_of_ok text, Logged.outcome_bind_of_ok (Logged.outcome_report _)]
  exact Matrix.outcome_parse_text m

end File

/-- Six of the encodings are known by these names, as they stand here; the names that are written in other ways
are not needed. -/
theorem Encoding.exists_ofName {name : String}
    (listed : name ∈ ["utf-8", "latin-1", "ascii", "utf-16", "utf-16-le", "utf-8-sig"]) :
    ∃ e, ofName name = .ok e := by
  have known : ∀ name ∈ ["utf-8", "latin-1", "ascii", "utf-16", "utf-16-le", "utf-8-sig"],
      (ofName? name).isSome := by decide +kernel
  obtain ⟨e, found⟩ := Option.isSome_iff_exists.mp (known name listed)
  exact ⟨e, by rw [ofName, found]⟩

namespace Operand

/-- **A matrix is read back from files.** What is read from its records and from its compressed text is
what is read from its text, and equal to it, in every encoding and whichever way the text is
packed. -/
theorem read_back_from_files (m : Matrix) (mark : Mark) (path : String) {encoding : String}
    (listed : encoding ∈ ["utf-8", "latin-1", "ascii", "utf-16", "utf-16-le", "utf-8-sig"]) :
    ∃ r, (Matrix.parse (toString m)).outcome = .ok r ∧
      equals true (.ofMatrix r) (.ofMatrix m) = .ok (.bool true) ∧
      (∃ bytes, (writeRecords (.matrix m mark) path encoding).outcome = .ok (m.rowCount, bytes) ∧
        (File.readRecords ⟨path, some bytes⟩ encoding).outcome = .ok r) ∧
      ∃ packed, (save (.matrix m mark) path encoding).outcome = .ok packed ∧
        ∀ repacked, Gzip.unpack? repacked = Gzip.unpack? packed →
          (File.load ⟨path, some repacked⟩ encoding).outcome = .ok r := by
  obtain ⟨e, known⟩ := Encoding.exists_ofName listed
  refine ⟨m.demote, m.outcome_parse_text, ?_, ⟨e.encode m.recordText, ?_, ?_⟩,
    Gzip.pack (e.encode m.text), ?_, fun repacked same => ?_⟩
  · rw [Matrix.equals_ofMatrix, decide_eq_true m.demote_sameValues]
  · rw [writeRecords, Logged.outcome_bind_of_ok known]
    rfl
  · exact File.outcome_readRecords known m path
  · have has : e.unencodable? (plain (.matrix m mark)) = none :=
      e.unencodable?_eq_none fun _ mem => (Matrix.printable_of_mem_text mem).2.trans (by decide)
    rw [save, Logged.outcome_bind_of_ok known]
    simp only [has]
    rfl
  · exact File.outcome_load known m path (same.trans (Gzip.unpack?_pack _))

/-- A column of `-1/2` and `i`, in an encoding that marks the byte order. -/
theorem read_back_from_utf16_records :
    let m := Matrix.ofGrid (#v[#v[.rational (.reduce (-1) 2 Nat.two_pos)], #v[.complex ⟨0, 1⟩]] :
      Grid 2 1) Nat.two_pos Nat.one_pos
    "utf-16" ∈ ["utf-8", "latin-1", "ascii", "utf-16", "utf-16-le", "utf-8-sig"] ∧
      ∃ bytes r, (writeRecords (.ofMatrix m) "column.csv" "utf-16").outcome = .ok (2, bytes) ∧
        (File.readRecords ⟨"column.csv", some bytes⟩ "utf-16").outcome = .ok r ∧
        equals true (.ofMatrix r) (.ofMatrix m) = .ok (.bool true) := by
  intro m
  have listed : "utf-16" ∈ ["utf-8", "latin-1", "ascii", "utf-16", "utf-16-le", "utf-8-sig"] := by
    decide
  obtain ⟨r, -, equal, ⟨bytes, written, read⟩, -⟩ := read_back_from_files m none "column.csv" listed
  refine ⟨listed, bytes, r, ?_, read, equal⟩
  have count : m.rowCount = 2 := rfl
  rwa [count] at written

end Operand

end ExactAlgebra
