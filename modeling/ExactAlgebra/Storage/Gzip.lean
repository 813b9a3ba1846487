import ExactAlgebra.Storage.Deflate

/-!
# Compressed files

A compressed file is a row of members. A member has a header, deflated data, and a trailer with the
checksum and the size of the data. Of the header only the parts that tell where it ends are looked at.
The data of the file is that of its members one after the other; zero bytes after a member are skipped.

## Main definitions

* `Gzip.unpack?`: the data of a file.
* `Gzip.pack`: a file of one member.
-/

namespace ExactAlgebra.Gzip

/-- A part of a header is written, as a bit of the flags tells. -/
def isSet (flags : UInt8) (bit : Nat) : Bool := flags.toNat / Nat.pow 2 bit % 2 == 1

/-- The bytes after the first `count`, if there are so many. -/
def skip? (count : Nat) (bytes : List UInt8) : Option (List UInt8) :=
  if count ≤ bytes.length then some (bytes.drop count) else none

/-- The bytes after an extra field, which starts with its size. -/
def skipExtra? (bytes : List UInt8) : Option (List UInt8) := do
  let rest ← skip? 2 bytes
  skip? (ofLittleEndian (bytes.take 2)) rest

/-- The bytes after a text, which a zero ends. -/
def skipText (bytes : List UInt8) : List UInt8 :=
  (bytes.dropWhile (· != 0)).drop 1

/-- The bytes after the header of a member. -/
def skipHeader? : List UInt8 → Option (List UInt8)
  | 0x1F :: 0x8B :: 8 :: flags :: rest => do
    let rest ← skip? 6 rest
    let rest ← if isSet flags 2 then skipExtra? rest else some rest
    let rest := if isSet flags 3 then skipText rest else rest
    let rest := if isSet flags 4 then skipText rest else rest
    if isSet flags 1 then skip? 2 rest else some rest
  | _ => none

/-- The checksum and the size of data, as they stand in a trailer. -/
def trailer (data : List UInt8) : List UInt8 :=
  littleEndian 4 (Checksum.crc32 data).toNat ++ littleEndian 4 data.length

/-- The data of the first member, and the bytes after it. -/
def member? (bytes : List UInt8) : Option (List UInt8 × List UInt8) := do
  let body ← skipHeader? bytes
  let (data, rest) ← Deflate.inflate? body
  if rest.take 8 = trailer data then some (data, (rest.drop 8).dropWhile (· == 0)) else none

/-- The data of a file. -/
def unpack? (bytes : List UInt8) : Option (List UInt8) :=
  if bytes.isEmpty then some []
  else do
    let (data, rest) ← member? bytes
    if rest.length < bytes.length then return data ++ (← unpack? rest) else none
termination_by bytes.length

/-- The header of a member that has no optional parts. -/
def plainHeader : List UInt8 := [0x1F, 0x8B, 8, 0, 0, 0, 0, 0, 0, 0xFF]

/-- A file of one member that holds the data. -/
def pack (data : List UInt8) : List UInt8 :=
  plainHeader ++ Deflate.stored data ++ trailer data

end ExactAlgebra.Gzip
