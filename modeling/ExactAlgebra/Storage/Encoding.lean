import ExactAlgebra.Storage.Codec

/-!
# Encodings of files

An encoding is a codec together with what may stand before the first character: UTF-8 may be marked as
such, and UTF-16 announces its byte order, unless the order is part of the encoding.

A file is decoded while it is read, in pieces of `pieceSize` bytes, so the text before a fault is
known; bytes that are all at hand are decoded as a whole.

## Main definitions

* `Encoding`, `Encoding.ofName?`: the encodings and their names.
* `Encoding.encode`: the bytes of a text.
* `Encoding.unencodable?`: the characters of a text that an encoding does not have.
* `Encoding.decode`: the text of bytes that are all at hand.
* `Encoding.read`: the text of a file, as far as it goes.
-/

namespace ExactAlgebra

/-- An encoding of texts. -/
inductive Encoding where
  | utf8
  /-- UTF-8 after a mark that is not part of the text. -/
  | markedUtf8
  | ascii
  | latin1
  /-- UTF-16 after a mark that tells the byte order. -/
  | utf16
  /-- UTF-16 with the low byte first, without a mark. -/
  | littleUtf16
  deriving DecidableEq, Repr

namespace Encoding

/-- The encodings by name. Names are spelt with small letters and hyphens here. -/
def names : List (String × Encoding) :=
  [("utf-8", .utf8), ("utf8", .utf8), ("utf-8-sig", .markedUtf8), ("ascii", .ascii),
    ("us-ascii", .ascii), ("latin-1", .latin1), ("latin1", .latin1), ("iso-8859-1", .latin1),
    ("utf-16", .utf16), ("utf16", .utf16), ("utf-16-le", .littleUtf16), ("utf-16le", .littleUtf16)]

/-- The encoding of a name. Case does not matter, and an underscore is as good as a hyphen. -/
def ofName? (name : String) : Option Encoding :=
  names.lookup (name.map fun c => if c = '_' then '-' else c.toLower)

/-- The encoding of a name that has to be one. -/
def ofName (name : String) : Except Error Encoding :=
  match ofName? name with
  | some e => .ok e
  | none => .error (.file (.unknownEncoding name))

/-- The mark that UTF-8 may start with. -/
def utf8Mark : List UInt8 := [0xEF, 0xBB, 0xBF]

/-- The mark of UTF-16 with the low byte first. -/
def littleMark : List UInt8 := [0xFF, 0xFE]

/-- The mark of UTF-16 with the high byte first. -/
def bigMark : List UInt8 := [0xFE, 0xFF]

/-! ## Encoding -/

/-- The bytes of a unit, the low byte first. -/
def unitBytes (n : Nat) : List UInt8 := [UInt8.ofNat (n % 256), UInt8.ofNat (n / 256)]

/-- The bytes of a character in UTF-16, the low byte of each unit first. -/
def charUnits (c : Char) : List UInt8 :=
  let n := c.toNat
  if n < 0x10000 then unitBytes n
  else
    unitBytes (0xD800 + (n - 0x10000) / 0x400) ++ unitBytes (0xDC00 + (n - 0x10000) % 0x400)

/-- The byte of a character in an encoding that has only the first `size` characters; a question mark
stands for all others. -/
def charByte (size : Nat) (c : Char) : UInt8 :=
  if c.toNat < size then UInt8.ofNat c.toNat else UInt8.ofNat '?'.toNat

/-- The bytes of a text. -/
def encode (e : Encoding) (cs : List Char) : List UInt8 :=
  match e with
  | .utf8 => cs.flatMap String.utf8EncodeChar
  | .markedUtf8 => utf8Mark ++ cs.flatMap String.utf8EncodeChar
  | .ascii => cs.map (charByte 0x80)
  | .latin1 => cs.map (charByte 0x100)
  | .utf16 => littleMark ++ cs.flatMap charUnits
  | .littleUtf16 => cs.flatMap charUnits

/-- The number of characters that an encoding has, for those that do not have them all. -/
def characterCount? : Encoding → Option Nat
  | .ascii => some 0x80
  | .latin1 => some 0x100
  | _ => none

/-- The first run of characters in a text that are not among the first `size` characters. -/
def firstBeyond? (name : String) (size : Nat) (cs : List Char) : Option Unencodable :=
  let before := cs.takeWhile fun c => c.toNat < size
  let run := (cs.drop before.length).takeWhile fun c => size ≤ c.toNat
  run.head?.map fun c => ⟨name, size, c, before.length, before.length + run.length⟩

/-- The first characters of a text that the encoding does not have, if there are any. -/
def unencodable? (e : Encoding) (cs : List Char) : Option Unencodable :=
  let name := if e = .latin1 then "latin-1" else "ascii"
  e.characterCount?.bind fun size => firstBeyond? name size cs

/-! ## Decoding -/

/-- The text of bytes that are all at hand. Without a mark UTF-16 has the low byte first, and UTF-8 may
do without its mark. -/
def decode (e : Encoding) (bytes : List UInt8) : Except Undecodable (List Char) :=
  match e with
  | .utf8 => Codec.utf8.decode bytes
  | .markedUtf8 =>
    if bytes.take 3 = utf8Mark then Codec.utf8.decode (bytes.drop 3) else Codec.utf8.decode bytes
  | .ascii => Codec.ascii.decode bytes
  | .latin1 => Codec.latin1.decode bytes
  | .utf16 =>
    if bytes.take 2 = littleMark then (Codec.utf16 .little).decodeAfter 2 (bytes.drop 2)
    else if bytes.take 2 = bigMark then (Codec.utf16 .big).decodeAfter 2 (bytes.drop 2)
    else (Codec.utf16 .little).decode bytes
  | .littleUtf16 => (Codec.utf16 .little).decode bytes

/-- The number of bytes in a piece. -/
def pieceSize : Nat := 8192

/-- The pieces that bytes come in. -/
def pieces (bytes : List UInt8) : List (List UInt8) :=
  if bytes.isEmpty then [] else bytes.take pieceSize :: pieces (bytes.drop pieceSize)
termination_by bytes.length
decreasing_by
  rename_i h
  have : bytes.length ≠ 0 := by simpa using h
  simp only [List.length_drop, pieceSize]
  omega

/-- The text of a file in UTF-16. The byte order has to be announced, and a file that is too short for
that has no text. -/
def readUtf16 : List (List UInt8) → Incoming
  | [] => ⟨[], none⟩
  | first :: later =>
    if first.take 2 = littleMark then (Codec.utf16 .little).decodePieces 2 [] (first.drop 2 :: later)
    else if first.take 2 = bigMark then (Codec.utf16 .big).decodePieces 2 [] (first.drop 2 :: later)
    else
      match (Codec.utf16 .little).decodeFrom 0 first with
      | .error fault => ⟨[], some (.undecodable fault)⟩
      | .ok ⟨[], some fault⟩ => ⟨[], some (.undecodable fault)⟩
      | .ok _ => ⟨[], some .noByteOrder⟩

/-- The text of a file in UTF-8 that may be marked. Of a mark that is cut short nothing is left. -/
def readMarkedUtf8 : List (List UInt8) → Incoming
  | [] => ⟨[], none⟩
  | first :: later =>
    if first.length < 3 && first.isPrefixOf utf8Mark then ⟨[], none⟩
    else if first.take 3 = utf8Mark then Codec.utf8.decodePieces 0 [] (first.drop 3 :: later)
    else Codec.utf8.decodePieces 0 [] (first :: later)

/-- The text of a file, as far as it goes. -/
def read (e : Encoding) (bytes : List UInt8) : Incoming :=
  match e with
  | .utf8 => Codec.utf8.decodePieces 0 [] (pieces bytes)
  | .markedUtf8 => readMarkedUtf8 (pieces bytes)
  | .ascii => Codec.ascii.decodePieces 0 [] (pieces bytes)
  | .latin1 => Codec.latin1.decodePieces 0 [] (pieces bytes)
  | .utf16 => readUtf16 (pieces bytes)
  | .littleUtf16 => (Codec.utf16 .little).decodePieces 0 [] (pieces bytes)

end Encoding

end ExactAlgebra
