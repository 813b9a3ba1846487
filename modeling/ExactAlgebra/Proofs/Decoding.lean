import Mathlib.Data.List.TakeWhile
import Mathlib.Tactic.Common
import ExactAlgebra.Storage.Encoding

/-!
# Texts read back from their bytes

What an encoding makes of a text is decoded as that text, at once or while it is read piece by piece,
wherever the pieces end.

One thing has to be known of a codec: the bytes of a character are decoded as the character whatever
follows them, and if some of them are missing at the end, the codec waits for more. Then the bytes that
are put off at the end of a piece are the first bytes of the next character, which is the invariant of
reading by pieces.

## Main definitions

* `Codec.IsCode`: the bytes of a character.
* `Encoding.codec`, `Encoding.mark`, `Encoding.charBytes`: the parts of an encoding.

## Main statements

* `Codec.decodeAfter_flatMap`, `Codec.decodePieces_flatMap`: decoding what was encoded.
* `Encoding.decode_encode`, `Encoding.read_encode`: the same for encodings, for all texts that they
  have the characters of.
-/

namespace ExactAlgebra

namespace Codec

variable {codec : Codec}

/-- The bytes are those of the character: they are decoded as the character whatever follows, and their
first ones alone are the beginning of some character. -/
def IsCode (codec : Codec) (c : Char) : List UInt8 → Prop
  | [] => False
  | b :: bs => (∀ rest, codec.lead b (bs ++ rest) = .char c bs.length) ∧
      ∀ part rest, bs = part ++ rest → rest ≠ [] → ∃ reason, codec.lead b part = .unfinished reason

/-- A single byte is a code if it is decoded without a look at what follows. -/
theorem isCode_singleton {c : Char} {b : UInt8} (decoded : ∀ rest, codec.lead b rest = .char c 0) :
    codec.IsCode c [b] :=
  ⟨decoded, fun _ _ split some => absurd (List.append_eq_nil_iff.mp split.symm).2 some⟩

/-- The fault, if there is one, is that of bytes that are put off; otherwise no bytes are. -/
def IsPutOff (part : List UInt8) : Option Undecodable → Prop
  | none => part = []
  | some fault => part ≠ [] ∧ fault.stop - fault.start = part.length

/-- The first bytes of a character, if some are missing, are put off. -/
theorem IsCode.decodeFrom_part {c : Char} {code : List UInt8} (isCode : codec.IsCode c code)
    (position : ℕ) {part missing : List UInt8} (split : code = part ++ missing) (more : missing ≠ []) :
    ∃ fault?, codec.decodeFrom position part = .ok ⟨[], fault?⟩ ∧ IsPutOff part fault? := by
  cases part with
  | nil => exact ⟨none, by rw [decodeFrom], rfl⟩
  | cons b part =>
    rw [split] at isCode
    obtain ⟨reason, unfinished⟩ := isCode.2 part missing rfl more
    refine ⟨some ⟨codec.name, b.toNat, position, position + (b :: part).length, reason⟩, ?_,
      List.cons_ne_nil b part, Nat.add_sub_cancel_left position _⟩
    rw [decodeFrom, unfinished]

/-- The bytes of a character are decoded, and then what follows them. -/
theorem IsCode.decodeFrom_append {c : Char} {code : List UInt8} (isCode : codec.IsCode c code)
    (position : ℕ) (bytes : List UInt8) :
    codec.decodeFrom position (code ++ bytes) = (codec.decodeFrom (position + code.length) bytes).map
      fun rest => { rest with text := c :: rest.text } := by
  cases code with
  | nil => exact isCode.elim
  | cons b bs =>
    have after : position + (b :: bs).length = position + 1 + bs.length := by
      rw [List.length_cons, Nat.add_right_comm, Nat.add_assoc]
    rw [List.cons_append, decodeFrom, isCode.1, after]
    simp only [List.drop_left]
    cases codec.decodeFrom (position + 1 + bs.length) bytes <;> rfl

/-- The first bytes of two rows of bytes end in the first row or go on in the second. -/
theorem append_eq_append_cases {bytes rest first second : List UInt8}
    (whole : bytes ++ rest = first ++ second) :
    (∃ missing, missing ≠ [] ∧ first = bytes ++ missing) ∨
      ∃ more, bytes = first ++ more ∧ more ++ rest = second := by
  rcases List.append_eq_append_iff.mp whole with ⟨missing, split, after⟩ | ⟨more, split, after⟩
  · by_cases none : missing = []
    · subst none
      rw [List.append_nil] at split
      exact Or.inr ⟨[], by rw [split, List.append_nil], after⟩
    · exact Or.inl ⟨missing, none, split⟩
  · exact Or.inr ⟨more, split, after.symm⟩

section Decoding

variable {write : Char → List UInt8} {cs : List Char}

/-- How far the first bytes of a text are decoded: some characters are complete, and what is put off is
a part of the next one. -/
theorem decodeFrom_of_append (codes : ∀ c ∈ cs, codec.IsCode c (write c)) (position : ℕ)
    {bytes rest : List UInt8} (whole : bytes ++ rest = cs.flatMap write) :
    ∃ done todo part fault?, cs = done ++ todo ∧ bytes = done.flatMap write ++ part ∧
      part ++ rest = todo.flatMap write ∧ (∀ c ∈ todo.head?, part.length < (write c).length) ∧
      codec.decodeFrom position bytes = .ok ⟨done, fault?⟩ ∧ IsPutOff part fault? := by
  induction cs generalizing bytes position with
  | nil =>
    obtain ⟨rfl, rfl⟩ := List.append_eq_nil_iff.mp whole
    exact ⟨[], [], [], none, rfl, rfl, rfl, nofun, by rw [decodeFrom], rfl⟩
  | cons c cs ih =>
    have isCode : codec.IsCode c (write c) := codes c List.mem_cons_self
    rw [List.flatMap_cons] at whole
    rcases append_eq_append_cases whole with ⟨missing, some, split⟩ | ⟨bytes, rfl, others⟩
    · obtain ⟨fault?, decoded, putOff⟩ := isCode.decodeFrom_part position split some
      refine ⟨[], c :: cs, bytes, fault?, rfl, rfl, by rw [List.flatMap_cons, whole], ?_, decoded,
        putOff⟩
      intro d first
      rw [← Option.some.inj first, split, List.length_append]
      exact Nat.lt_add_of_pos_right (List.length_pos_iff.mpr some)
    · obtain ⟨done, todo, part, fault?, rfl, rfl, next, shorter, decoded, putOff⟩ :=
        ih (fun d mem => codes d (List.mem_cons_of_mem _ mem)) (position + (write c).length) others
      refine ⟨c :: done, todo, part, fault?, rfl, ?_, next, shorter, ?_, putOff⟩
      · rw [List.flatMap_cons, List.append_assoc]
      · rw [isCode.decodeFrom_append, decoded]
        rfl

/-- **What was encoded is decoded, all bytes at once.** Nothing is put off, since the last character is
complete, and so nothing is missing at the end. -/
theorem decodeAfter_flatMap (codes : ∀ c ∈ cs, codec.IsCode c (write c)) (position : ℕ) :
    codec.decodeAfter position (cs.flatMap write) = .ok cs := by
  obtain ⟨done, todo, part, fault?, rfl, -, next, shorter, decoded, putOff⟩ :=
    decodeFrom_of_append codes position (List.append_nil _)
  rw [List.append_nil] at next
  obtain rfl : todo = [] := by
    cases todo with
    | nil => rfl
    | cons c todo =>
      have := shorter c rfl
      rw [next, List.flatMap_cons, List.length_append] at this
      omega
  obtain rfl : fault? = none := by
    cases fault? with
    | none => rfl
    | some fault => exact absurd next putOff.1
  rw [decodeAfter, decoded, List.append_nil]
  rfl

/-- **What was encoded is decoded piece by piece.** The bytes that are pending are the first ones of the
next character. -/
theorem decodePieces_flatMap (codes : ∀ c ∈ cs, codec.IsCode c (write c)) (position : ℕ)
    {pending : List UInt8} {pieces : List (List UInt8)}
    (whole : pending ++ pieces.flatten = cs.flatMap write)
    (shorter : ∀ c ∈ cs.head?, pending.length < (write c).length) :
    codec.decodePieces position pending pieces = ⟨cs, none⟩ := by
  induction pieces generalizing cs position pending with
  | nil =>
    rw [List.flatten_nil, List.append_nil] at whole
    obtain rfl : cs = [] := by
      cases cs with
      | nil => rfl
      | cons c cs =>
        have := shorter c rfl
        rw [whole, List.flatMap_cons, List.length_append] at this
        omega
    have decoded := decodeAfter_flatMap codes 0
    rw [decodePieces, decode, whole, decoded]
  | cons piece later ih =>
    rw [List.flatten_cons, ← List.append_assoc] at whole
    obtain ⟨done, todo, part, fault?, rfl, taken, next, shorter', decoded, putOff⟩ :=
      decodeFrom_of_append codes position whole
    have size : (fault?.map fun fault => fault.stop - fault.start).getD 0 = part.length := by
      cases fault? with
      | none => exact (congrArg List.length putOff).symm
      | some fault => exact putOff.2
    have left : (pending ++ piece).drop ((pending ++ piece).length - part.length) = part := by
      rw [taken, List.length_append, Nat.add_sub_cancel, List.drop_left]
    rw [decodePieces]
    simp only [decoded, size, left]
    rw [ih (fun c mem => codes c (List.mem_append_right _ mem)) 0 next shorter']

end Decoding

/-! ## UTF-8 -/

/-- Bytes out of the given ranges. -/
abbrev Fit (ranges : List (ℕ × ℕ)) (bytes : List UInt8) : Prop :=
  List.Forall₂ (fun range b => range.1 ≤ b.toNat ∧ b.toNat ≤ range.2) ranges bytes

/-- The number that bytes stand for after those that stand for `value`. -/
def continuedValue (value : ℕ) (bytes : List UInt8) : ℕ :=
  bytes.foldl (fun value b => value * 64 + (b.toNat - 0x80)) value

theorem continued_append {ranges : List (ℕ × ℕ)} {bytes : List UInt8} (fit : Fit ranges bytes)
    (value taken : ℕ) (rest : List UInt8) : continued value taken ranges (bytes ++ rest) =
      .char (Char.ofNat (continuedValue value bytes)) (taken + bytes.length) := by
  induction fit generalizing value taken with
  | nil => rfl
  | @cons range b ranges bytes inside _ ih =>
    have inside : (range.1 ≤ b.toNat && b.toNat ≤ range.2) = true := by simp [inside]
    have count : taken + (b :: bytes).length = taken + 1 + bytes.length := by
      rw [List.length_cons]
      omega
    rw [List.cons_append, continued, inside, if_pos rfl, ih, count, continuedValue, continuedValue,
      List.foldl_cons]

theorem continued_part {ranges : List (ℕ × ℕ)} {bytes : List UInt8} (fit : Fit ranges bytes)
    (value taken : ℕ) {part missing : List UInt8} (split : bytes = part ++ missing)
    (some : missing ≠ []) : ∃ reason, continued value taken ranges part = .unfinished reason := by
  induction fit generalizing value taken part with
  | nil => exact absurd (List.append_eq_nil_iff.mp split.symm).2 some
  | @cons range b ranges bytes inside _ ih =>
    cases part with
    | nil => exact ⟨_, rfl⟩
    | cons b' part =>
      obtain ⟨rfl, split'⟩ := List.cons.inj split
      have inside : (range.1 ≤ b.toNat && b.toNat ≤ range.2) = true := by simp [inside]
      rw [continued, inside, if_pos rfl]
      exact ih _ _ split'

/-- A byte and those that go on with it make a character, if that is the one they stand for. -/
theorem isCode_of_fit {c : Char} {b : UInt8} {bs : List UInt8} {value : ℕ} {ranges : List (ℕ × ℕ)}
    (lead : codec.lead b = continued value 0 ranges) (fit : Fit ranges bs)
    (number : continuedValue value bs = c.toNat) : codec.IsCode c (b :: bs) := by
  refine ⟨fun rest => ?_, fun part missing split some => ?_⟩
  · rw [lead, continued_append fit, number, Char.ofNat_toNat, Nat.zero_add]
  · rw [lead]
    exact continued_part fit value 0 split some

theorem toNat_tail (n : ℕ) : (UInt8.ofNat (n % 64 + 128)).toNat = n % 64 + 128 :=
  UInt8.toNat_ofNat_of_lt (by change n % 64 + 128 < 256; omega)

theorem tail_fits (n : ℕ) : continuation.1 ≤ (UInt8.ofNat (n % 64 + 128)).toNat ∧
    (UInt8.ofNat (n % 64 + 128)).toNat ≤ continuation.2 := by
  rw [toNat_tail, continuation]
  omega

section Leads

variable {b : UInt8}

theorem lead_alone (high : b.toNat < 0x80) : utf8.lead b = continued b.toNat 0 [] := by
  simp only [utf8, utf8Lead]
  rw [if_pos high]

theorem lead_of_two (low : 0xC2 ≤ b.toNat) (high : b.toNat < 0xE0) :
    utf8.lead b = continued (b.toNat - 0xC0) 0 [continuation] := by
  simp only [utf8, utf8Lead]
  rw [if_neg (by omega), if_neg (by omega), if_pos high]

theorem lead_of_three (low : 0xE0 ≤ b.toNat) (high : b.toNat < 0xF0) :
    utf8.lead b = continued (b.toNat - 0xE0) 0 [if b.toNat = 0xE0 then (0xA0, 0xBF)
      else if b.toNat = 0xED then (0x80, 0x9F) else continuation, continuation] := by
  simp only [utf8, utf8Lead]
  rw [if_neg (by omega), if_neg (by omega), if_neg (by omega), if_pos high]

theorem lead_of_four (low : 0xF0 ≤ b.toNat) (high : b.toNat < 0xF5) :
    utf8.lead b = continued (b.toNat - 0xF0) 0 [if b.toNat = 0xF0 then (0x90, 0xBF)
      else if b.toNat = 0xF4 then (0x80, 0x8F) else continuation, continuation, continuation] := by
  simp only [utf8, utf8Lead]
  rw [if_neg (by omega), if_neg (by omega), if_neg (by omega), if_neg (by omega), if_pos high]

end Leads

/-- The bytes of a character in UTF-8. The cases are those of their number. Where the second byte is in a
narrower range, that is because the number is neither a smaller one's nor a surrogate. -/
theorem isCode_utf8 (c : Char) : utf8.IsCode c (String.utf8EncodeChar c) := by
  have valid : c.toNat < 0xD800 ∨ 0xDFFF < c.toNat ∧ c.toNat < 0x110000 := c.valid
  have byte (n : ℕ) (lt : n < 256) : (UInt8.ofNat n).toNat = n := UInt8.toNat_ofNat_of_lt lt
  unfold String.utf8EncodeChar
  simp only [show c.val.toNat = c.toNat from rfl]
  generalize number : c.toNat = v at valid
  split_ifs with one two three
  · have first := byte v (by omega)
    refine isCode_of_fit (lead_alone (by omega)) .nil ?_
    exact first.trans number.symm
  · have first := byte (v / 64 % 32 + 192) (by omega)
    refine isCode_of_fit (lead_of_two (by omega) (by omega)) (.cons (tail_fits v) .nil) ?_
    rw [number, continuedValue, List.foldl_cons, List.foldl_nil, toNat_tail]
    omega
  · have first := byte (v / 4096 % 16 + 224) (by omega)
    refine isCode_of_fit (lead_of_three (by omega) (by omega)) (.cons ?_ (.cons (tail_fits v) .nil)) ?_
    · rw [toNat_tail]
      split_ifs <;> simp only [continuation] <;> omega
    · rw [number, continuedValue, List.foldl_cons, List.foldl_cons, List.foldl_nil, toNat_tail,
        toNat_tail]
      omega
  · have first := byte (v / 262144 % 8 + 240) (by omega)
    refine isCode_of_fit (lead_of_four (by omega) (by omega))
      (.cons ?_ (.cons (tail_fits (v / 64)) (.cons (tail_fits v) .nil))) ?_
    · rw [toNat_tail]
      split_ifs <;> simp only [continuation] <;> omega
    · rw [number, continuedValue, List.foldl_cons, List.foldl_cons, List.foldl_cons, List.foldl_nil,
        toNat_tail, toNat_tail, toNat_tail]
      omega

/-! ## UTF-16 -/

theorem unit_unitBytes {n : ℕ} (lt : n < 0x10000) :
    unit .little (UInt8.ofNat (n % 256)) (UInt8.ofNat (n / 256)) = n := by
  have low : (UInt8.ofNat (n % 256)).toNat = n % 256 :=
    UInt8.toNat_ofNat_of_lt (Nat.mod_lt n (by decide))
  have high : (UInt8.ofNat (n / 256)).toNat = n / 256 :=
    UInt8.toNat_ofNat_of_lt (Nat.div_lt_of_lt_mul lt)
  rw [unit, low, high]
  omega

section Units

variable {high low : ℕ} (isHigh : 0xD800 ≤ high ∧ high < 0xDC00)

include isHigh

/-- The first of two units waits for the second. -/
theorem utf16Lead_half {rest : List UInt8} (short : rest.length < 2) :
    ∃ reason, utf16Lead .little (UInt8.ofNat (high % 256)) (UInt8.ofNat (high / 256) :: rest) =
      .unfinished reason := by
  refine ⟨"unexpected end of data", ?_⟩
  simp only [utf16Lead]
  rw [unit_unitBytes (by omega), if_neg (by simp; omega), if_neg (by omega)]
  rcases rest with _ | ⟨_, _ | _⟩
  · rfl
  · rfl
  · exact absurd short (by simp)

/-- Two units make a character. -/
theorem utf16Lead_pair (isLow : 0xDC00 ≤ low ∧ low ≤ 0xDFFF) (rest : List UInt8) :
    utf16Lead .little (UInt8.ofNat (high % 256)) (UInt8.ofNat (high / 256) ::
      UInt8.ofNat (low % 256) :: UInt8.ofNat (low / 256) :: rest) =
        .char (Char.ofNat (0x10000 + (high - 0xD800) * 0x400 + (low - 0xDC00))) 3 := by
  simp only [utf16Lead]
  rw [unit_unitBytes (by omega), unit_unitBytes (by omega), if_neg (by simp; omega),
    if_neg (by omega), if_pos (by simp [isLow])]

end Units

/-- The bytes of a character in UTF-16, of which there are two or four. -/
theorem isCode_utf16 (c : Char) : (utf16 .little).IsCode c (Encoding.charUnits c) := by
  have valid : c.toNat < 0xD800 ∨ 0xDFFF < c.toNat ∧ c.toNat < 0x110000 := c.valid
  simp only [Encoding.charUnits]
  split_ifs with basic
  · refine ⟨fun rest => ?_, fun part missing split some => ?_⟩
    · simp only [utf16, List.cons_append, List.nil_append, utf16Lead]
      rw [unit_unitBytes basic, if_pos (by simp; omega), Char.ofNat_toNat]
      rfl
    · cases part with
      | nil => exact ⟨_, rfl⟩
      | cons _ part =>
        obtain ⟨-, split⟩ := List.cons.inj split
        exact absurd (List.append_eq_nil_iff.mp split.symm).2 some
  · have number : 0x10000 + (0xD800 + (c.toNat - 0x10000) / 0x400 - 0xD800) * 0x400 +
        (0xDC00 + (c.toNat - 0x10000) % 0x400 - 0xDC00) = c.toNat := by omega
    have isHigh : 0xD800 ≤ 0xD800 + (c.toNat - 0x10000) / 0x400 ∧
        0xD800 + (c.toNat - 0x10000) / 0x400 < 0xDC00 := by omega
    refine ⟨fun rest => ?_, fun part missing split some => ?_⟩
    · refine (utf16Lead_pair isHigh ?_ rest).trans ?_
      · omega
      · rw [number, Char.ofNat_toNat]
        rfl
    · cases part with
      | nil => exact ⟨_, rfl⟩
      | cons _ part =>
        obtain ⟨rfl, rest⟩ := List.cons.inj split
        have total : 2 = part.length + missing.length :=
          (congrArg List.length rest).trans List.length_append
        have := List.length_pos_iff.mpr some
        exact utf16Lead_half isHigh (by omega)

/-! ## One byte per character -/

theorem isCode_ascii {c : Char} (lt : c.toNat < 0x80) :
    ascii.IsCode c [Encoding.charByte 0x80 c] := by
  have byte : (Encoding.charByte 0x80 c).toNat = c.toNat := by
    rw [Encoding.charByte, if_pos lt]
    exact UInt8.toNat_ofNat_of_lt (by change c.toNat < 256; omega)
  refine isCode_singleton fun _ => ?_
  simp only [ascii]
  rw [byte, if_pos lt, Char.ofNat_toNat]

theorem isCode_latin1 {c : Char} (lt : c.toNat < 0x100) :
    latin1.IsCode c [Encoding.charByte 0x100 c] := by
  have byte : (Encoding.charByte 0x100 c).toNat = c.toNat := by
    rw [Encoding.charByte, if_pos lt]
    exact UInt8.toNat_ofNat_of_lt lt
  refine isCode_singleton fun _ => ?_
  simp only [latin1]
  rw [byte, Char.ofNat_toNat]

end Codec

namespace Encoding

/-! ## Pieces of files -/

theorem flatten_pieces (bytes : List UInt8) : (pieces bytes).flatten = bytes := by
  induction bytes using pieces.induct with
  | case1 bytes empty =>
    rw [pieces, if_pos empty, List.isEmpty_iff.mp empty]
    rfl
  | case2 bytes some ih => rw [pieces, if_neg some, List.flatten_cons, ih, List.take_append_drop]

/-- A file that starts with a mark has a first piece that does. -/
theorem pieces_append (mark : List UInt8) (some : mark ≠ []) (short : mark.length ≤ pieceSize)
    (bytes : List UInt8) :
    ∃ first later, pieces (mark ++ bytes) = (mark ++ first) :: later ∧
      (first :: later).flatten = bytes := by
  have nonempty : ¬(mark ++ bytes).isEmpty := by simp [some]
  refine ⟨bytes.take (pieceSize - mark.length), pieces (bytes.drop (pieceSize - mark.length)), ?_, ?_⟩
  · rw [pieces, if_neg nonempty, List.take_append, List.take_of_length_le short, List.drop_append,
      List.drop_of_length_le short, List.nil_append]
  · rw [List.flatten_cons, flatten_pieces, List.take_append_drop]

/-! ## The parts of encodings -/

/-- The bytes that a file starts with before the first character. -/
def mark : Encoding → List UInt8
  | .markedUtf8 => utf8Mark
  | .utf16 => littleMark
  | _ => []

/-- The bytes of a character. -/
def charBytes : Encoding → Char → List UInt8
  | .utf8 | .markedUtf8 => String.utf8EncodeChar
  | .ascii => fun c => [charByte 0x80 c]
  | .latin1 => fun c => [charByte 0x100 c]
  | .utf16 | .littleUtf16 => charUnits

/-- The codec that reads what is written. -/
def codec : Encoding → Codec
  | .utf8 | .markedUtf8 => Codec.utf8
  | .ascii => Codec.ascii
  | .latin1 => Codec.latin1
  | .utf16 | .littleUtf16 => Codec.utf16 .little

theorem encode_eq (e : Encoding) (cs : List Char) :
    e.encode cs = e.mark ++ cs.flatMap e.charBytes := by
  cases e
  case ascii | latin1 => exact List.map_eq_flatMap
  all_goals rfl

/-- An encoding without a limit has every character, the others have those below the limit. -/
theorem isCode_charBytes {e : Encoding} {c : Char} (has : ∀ size ∈ e.characterCount?, c.toNat < size) :
    e.codec.IsCode c (e.charBytes c) := by
  cases e with
  | utf8 | markedUtf8 => exact Codec.isCode_utf8 c
  | ascii => exact Codec.isCode_ascii (has _ rfl)
  | latin1 => exact Codec.isCode_latin1 (has _ rfl)
  | utf16 | littleUtf16 => exact Codec.isCode_utf16 c

theorem lt_of_firstBeyond?_eq_none {name : String} {size : ℕ} {cs : List Char}
    (none : firstBeyond? name size cs = none) : ∀ c ∈ cs, c.toNat < size := by
  have rest : cs.drop (cs.takeWhile fun c => c.toNat < size).length =
      cs.dropWhile fun c => c.toNat < size :=
    (congrArg (List.drop _) List.takeWhile_append_dropWhile.symm).trans List.drop_append_length
  have first := List.head?_dropWhile_not (fun c : Char => c.toNat < size) cs
  simp only [firstBeyond?, rest, Option.map_eq_none_iff, List.head?_eq_none_iff] at none
  cases beyond : cs.dropWhile fun c => c.toNat < size with
  | nil =>
    intro c mem
    simpa using List.dropWhile_eq_nil_iff.mp beyond c mem
  | cons d ds =>
    -- The characters that are left start with one beyond the limit, which starts a run.
    rw [beyond] at first none
    simp_all

/-- The characters of a text that an encoding does not find fault with. -/
theorem isCode_of_unencodable?_eq_none {e : Encoding} {cs : List Char}
    (has : e.unencodable? cs = none) : ∀ c ∈ cs, e.codec.IsCode c (e.charBytes c) := by
  refine fun c mem => isCode_charBytes fun size limit => ?_
  rw [unencodable?, Option.mem_def.mp limit] at has
  exact lt_of_firstBeyond?_eq_none has c mem

/-! ## Reading what was written -/

variable {e : Encoding} {cs : List Char}

/-- **Every encoding decodes what it encoded**, if it has the characters of the text. -/
theorem decode_encode (has : e.unencodable? cs = none) : e.decode (e.encode cs) = .ok cs := by
  have decoded (position : ℕ) : e.codec.decodeAfter position (cs.flatMap e.charBytes) = .ok cs :=
    Codec.decodeAfter_flatMap (isCode_of_unencodable?_eq_none has) position
  rw [encode_eq]
  cases e with
  | markedUtf8 =>
    have marked : (mark .markedUtf8 ++ cs.flatMap (charBytes .markedUtf8)).take 3 = utf8Mark := rfl
    rw [decode, if_pos marked]
    exact decoded 0
  | utf16 =>
    have marked : (mark .utf16 ++ cs.flatMap (charBytes .utf16)).take 2 = littleMark := rfl
    rw [decode, if_pos marked]
    exact decoded 2
  | utf8 | ascii | latin1 | littleUtf16 => exact decoded 0

/-- In no encoding is there anything to decode in no bytes. -/
theorem decode_nil (e : Encoding) : e.decode [] = .ok [] := by
  cases e <;> simp [decode, Codec.decode, Codec.decodeAfter, Codec.decodeFrom, utf8Mark, littleMark,
    bigMark] <;> rfl

/-- **A file is read as the text that was encoded**, wherever its pieces end. -/
theorem read_encode (has : e.unencodable? cs = none) : e.read (e.encode cs) = ⟨cs, none⟩ := by
  have codes := isCode_of_unencodable?_eq_none has
  have decoded (position : ℕ) {pieces : List (List UInt8)}
      (whole : pieces.flatten = cs.flatMap e.charBytes) :
      e.codec.decodePieces position [] pieces = ⟨cs, none⟩ := by
    refine Codec.decodePieces_flatMap codes position whole fun c first => ?_
    have code := codes c (List.mem_of_mem_head? first)
    cases written : e.charBytes c with
    | nil => rw [written] at code; exact code.elim
    | cons b bs => exact Nat.succ_pos _
  rw [encode_eq]
  cases e with
  | markedUtf8 =>
    obtain ⟨first, later, split, whole⟩ :=
      pieces_append utf8Mark (by decide) (by decide) (cs.flatMap (charBytes .markedUtf8))
    simp only [Encoding.read, mark, split, readMarkedUtf8]
    have long : ¬(utf8Mark ++ first).length < 3 := by
      rw [List.length_append]
      exact Nat.not_lt.mpr (Nat.le_add_right 3 first.length)
    rw [decide_eq_false long, Bool.false_and, if_neg Bool.false_ne_true]
    exact (if_pos rfl).trans (decoded 0 whole)
  | utf16 =>
    obtain ⟨first, later, split, whole⟩ :=
      pieces_append littleMark (by decide) (by decide) (cs.flatMap (charBytes .utf16))
    simp only [Encoding.read, mark, split, readUtf16]
    exact (if_pos rfl).trans (decoded 2 whole)
  | utf8 | ascii | latin1 | littleUtf16 => exact decoded 0 (flatten_pieces _)

end Encoding

end ExactAlgebra
