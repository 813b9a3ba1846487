import ExactAlgebra.Error

/-!
# Decoding bytes

A codec tells which character a row of bytes starts with. From that alone bytes are decoded, either all
at once or piece by piece: a character whose bytes end too early is a fault at the end of all bytes,
but at the end of a piece it is only put off until the next piece.

## Main definitions

* `Lead`: what a row of bytes starts with.
* `Codec`, `Codec.decode`: decoding all bytes.
* `Incoming`, `Codec.decodePieces`: decoding piece by piece, with the text that comes before a fault.
* `Codec.utf8`, `Codec.utf16`, `Codec.ascii`, `Codec.latin1`: four codecs.
-/

namespace ExactAlgebra

/-- What a row of bytes starts with. -/
inductive Lead where
  /-- A character; so many bytes after the first belong to it. -/
  | char (c : Char) (extra : Nat)
  /-- The first bytes of a character, of which the last ones are missing. -/
  | unfinished (reason : String)
  /-- No character; so many bytes after the first are at fault together with it. -/
  | invalid (extra : Nat) (reason : String)

/-- A way to turn bytes into characters. -/
structure Codec where
  /-- The name in messages. -/
  name : String
  /-- What a byte and the bytes after it start with. -/
  lead : UInt8 → List UInt8 → Lead

/-- The characters of some bytes, up to the first that lacks bytes, and the fault it is if no more
bytes come. -/
structure Decoded where
  /-- The characters. -/
  text : List Char
  /-- The character that lacks bytes, if there is one. -/
  unfinished? : Option Undecodable

/-- A text on its way in, and the fault that ends it, if one does. -/
structure Incoming where
  /-- The text that comes before the fault. -/
  text : List Char
  /-- The fault. -/
  fault? : Option FileFault

namespace Codec

variable (codec : Codec)

/-- The characters of bytes of which the first one has the given position. -/
def decodeFrom (position : Nat) (bytes : List UInt8) : Except Undecodable Decoded :=
  match bytes with
  | [] => .ok ⟨[], none⟩
  | b :: bs =>
    let fault (stop : Nat) (reason : String) : Undecodable :=
      ⟨codec.name, b.toNat, position, stop, reason⟩
    match codec.lead b bs with
    | .char c extra => do
      let rest ← decodeFrom (position + 1 + extra) (bs.drop extra)
      return { rest with text := c :: rest.text }
    | .unfinished reason => .ok ⟨[], some (fault (position + bytes.length) reason)⟩
    | .invalid extra reason => .error (fault (position + 1 + extra) reason)
termination_by bytes.length
decreasing_by simp only [List.length_drop, List.length_cons]; omega

/-- The characters of bytes after which no more come, and of which the first one has the given
position. -/
def decodeAfter (position : Nat) (bytes : List UInt8) : Except Undecodable (List Char) := do
  let decoded ← codec.decodeFrom position bytes
  match decoded.unfinished? with
  | none => return decoded.text
  | some fault => .error fault

/-- The characters of bytes after which no more come. -/
def decode (bytes : List UInt8) : Except Undecodable (List Char) := codec.decodeAfter 0 bytes

/-- The characters of bytes that come in pieces. `position` is that of the first byte of the first
piece; in later pieces positions count from the start of the piece, or from the start of the character
that was put off until then, whose bytes are `pending`. -/
def decodePieces (position : Nat) (pending : List UInt8) : List (List UInt8) → Incoming
  | [] =>
    match codec.decode pending with
    | .ok _ => ⟨[], none⟩
    | .error fault => ⟨[], some (.undecodable fault)⟩
  | piece :: later =>
    let bytes := pending ++ piece
    match codec.decodeFrom position bytes with
    | .error fault => ⟨[], some (.undecodable fault)⟩
    | .ok decoded =>
      let size := (decoded.unfinished?.map fun fault => fault.stop - fault.start).getD 0
      let rest := decodePieces 0 (bytes.drop (bytes.length - size)) later
      ⟨decoded.text ++ rest.text, rest.fault?⟩

/-! ## UTF-8 -/

/-- The character whose bytes go on with one byte out of each of the given ranges. `value` is the
number that the bytes so far stand for, and `taken` counts those after the first. -/
def continued (value taken : Nat) : List (Nat × Nat) → List UInt8 → Lead
  | [], _ => .char (Char.ofNat value) taken
  | _ :: _, [] => .unfinished "unexpected end of data"
  | (low, high) :: ranges, b :: bs =>
    if low ≤ b.toNat && b.toNat ≤ high then
      continued (value * 64 + (b.toNat - 0x80)) (taken + 1) ranges bs
    else .invalid taken "invalid continuation byte"

/-- The range of a byte that goes on with a character. -/
def continuation : Nat × Nat := (0x80, 0xBF)

/-- What a byte and the bytes after it start with in UTF-8. The second byte is kept from encoding a
character in more bytes than it needs, a surrogate, or a number beyond all characters. -/
def utf8Lead (b : UInt8) : List UInt8 → Lead :=
  let n := b.toNat
  if n < 0x80 then continued n 0 []
  else if n < 0xC2 then fun _ => .invalid 0 "invalid start byte"
  else if n < 0xE0 then continued (n - 0xC0) 0 [continuation]
  else if n < 0xF0 then
    let second := if n = 0xE0 then (0xA0, 0xBF) else if n = 0xED then (0x80, 0x9F) else continuation
    continued (n - 0xE0) 0 [second, continuation]
  else if n < 0xF5 then
    let second := if n = 0xF0 then (0x90, 0xBF) else if n = 0xF4 then (0x80, 0x8F) else continuation
    continued (n - 0xF0) 0 [second, continuation, continuation]
  else fun _ => .invalid 0 "invalid start byte"

/-- UTF-8. -/
def utf8 : Codec := ⟨"utf-8", utf8Lead⟩

/-! ## UTF-16 -/

/-- The order of the two bytes of a unit. -/
inductive ByteOrder where
  /-- The low byte comes first. -/
  | little
  /-- The high byte comes first. -/
  | big
  deriving DecidableEq

/-- The unit of two bytes. -/
def unit (order : ByteOrder) (a b : UInt8) : Nat :=
  match order with
  | .little => a.toNat + 256 * b.toNat
  | .big => 256 * a.toNat + b.toNat

/-- What a byte and the bytes after it start with in UTF-16. -/
def utf16Lead (order : ByteOrder) (a : UInt8) : List UInt8 → Lead
  | [] => .unfinished "truncated data"
  | b :: rest =>
    let first := unit order a b
    if first < 0xD800 || 0xDFFF < first then .char (Char.ofNat first) 1
    else if 0xDC00 ≤ first then .invalid 1 "illegal encoding"
    else
      match rest with
      | c :: d :: _ =>
        let second := unit order c d
        if 0xDC00 ≤ second && second ≤ 0xDFFF then
          .char (Char.ofNat (0x10000 + (first - 0xD800) * 0x400 + (second - 0xDC00))) 3
        else .invalid 1 "illegal UTF-16 surrogate"
      | _ => .unfinished "unexpected end of data"

/-- UTF-16 with the bytes of each unit in a known order. -/
def utf16 (order : ByteOrder) : Codec :=
  ⟨match order with
    | .little => "utf-16-le"
    | .big => "utf-16-be", utf16Lead order⟩

/-! ## One byte per character -/

/-- ASCII: the lower half of all bytes. -/
def ascii : Codec :=
  ⟨"ascii", fun b _ =>
    if b.toNat < 0x80 then .char (Char.ofNat b.toNat) 0
    else .invalid 0 "ordinal not in range(128)"⟩

/-- Latin-1: every byte is a character. -/
def latin1 : Codec := ⟨"latin-1", fun b _ => .char (Char.ofNat b.toNat) 0⟩

end Codec

end ExactAlgebra
