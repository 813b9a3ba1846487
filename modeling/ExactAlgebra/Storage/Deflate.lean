import ExactAlgebra.Storage.Checksum
import ExactAlgebra.Storage.PrefixCode

/-!
# The deflate format

Deflated data is a row of blocks. A block holds its bytes as they are, or as symbols of prefix codes:
bytes, and copies of what came before, by length and distance. The codes are fixed by the format, or
stand at the start of the block by the lengths of their rows, which are themselves in a prefix code.

What came before is kept with the latest byte first.

## Main definitions

* `Deflate.inflate?`: the data that a row of blocks holds, and the bytes after the last block.
* `Deflate.stored`: blocks that hold data as it is.
-/

namespace ExactAlgebra.Deflate

/-! ## Unpacking -/

/-- The lengths of copies by symbol: the least length, and the width of the number to add. -/
def copyLengths : List (Nat × Nat) :=
  [(3, 0), (4, 0), (5, 0), (6, 0), (7, 0), (8, 0), (9, 0), (10, 0), (11, 1), (13, 1), (15, 1), (17, 1),
    (19, 2), (23, 2), (27, 2), (31, 2), (35, 3), (43, 3), (51, 3), (59, 3), (67, 4), (83, 4), (99, 4),
    (115, 4), (131, 5), (163, 5), (195, 5), (227, 5), (258, 0)]

/-- The distances of copies by symbol: the least distance, and the width of the number to add. -/
def copyDistances : List (Nat × Nat) :=
  [(1, 0), (2, 0), (3, 0), (4, 0), (5, 1), (7, 1), (9, 2), (13, 2), (17, 3), (25, 3), (33, 4), (49, 4),
    (65, 5), (97, 5), (129, 6), (193, 6), (257, 7), (385, 7), (513, 8), (769, 8), (1025, 9), (1537, 9),
    (2049, 10), (3073, 10), (4097, 11), (6145, 11), (8193, 12), (12289, 12), (16385, 13), (24577, 13)]

/-- The number that a symbol stands for together with the bits after it. -/
def extended? (table : List (Nat × Nat)) (symbol : Nat) (s : BitSource) : Option (Nat × BitSource) := do
  let (least, width) ← table[symbol]?
  let (more, s) ← s.field? width
  return (least + more, s)

/-- Copies `length` bytes from `distance` bytes back. A copy may run into itself. -/
def copy? (distance : Nat) (past : List UInt8) : (length : Nat) → Option (List UInt8)
  | 0 => some past
  | length + 1 => do
    let b ← past[distance - 1]?
    copy? distance (b :: past) length

/-- Reads symbols up to the end of a block. -/
def symbols? (literals distances : PrefixCode) (past : List UInt8) (s : BitSource) :
    Option (List UInt8 × BitSource) := do
  let (symbol, after) ← literals.read? s
  if symbol = 256 then return (past, after)
  else if symbol < 256 then
    if after.size < s.size then symbols? literals distances (UInt8.ofNat symbol :: past) after
    else none
  else
    let (length, after) ← extended? copyLengths (symbol - 257) after
    let (code, after) ← distances.read? after
    let (distance, after) ← extended? copyDistances code after
    let past ← copy? distance past length
    if after.size < s.size then symbols? literals distances past after else none
termination_by s.size

/-- The lengths of the literal symbols in the fixed code. -/
def fixedLiterals : List Nat :=
  List.replicate 144 8 ++ List.replicate 112 9 ++ List.replicate 24 7 ++ List.replicate 8 8

/-- The lengths of the distance symbols in the fixed code. -/
def fixedDistances : List Nat := List.replicate 32 5

/-- The order in which the lengths of the code for lengths are written. -/
def lengthOrder : List Nat := [16, 17, 18, 0, 8, 7, 9, 6, 10, 5, 11, 4, 12, 3, 13, 2, 14, 1, 15]

/-- Reads the lengths of the code for lengths, of which `count` are written. -/
def lengthCode? (count : Nat) (s : BitSource) : Option (PrefixCode × BitSource) := do
  let (written, s) ← fields? count s
  let pairs := lengthOrder.zip written
  let lengths := (List.range 19).map fun symbol => (pairs.lookup symbol).getD 0
  let code ← PrefixCode.ofLengths? lengths
  if code.isComplete then return (code, s) else none
where
  /-- Reads numbers of three bits. -/
  fields? : Nat → BitSource → Option (List Nat × BitSource)
    | 0, s => some ([], s)
    | count + 1, s => do
      let (n, s) ← s.field? 3
      let (ns, s) ← fields? count s
      return (n :: ns, s)

/-- A length with the number of its repetitions. -/
def repeated? (symbol : Nat) (previous? : Option Nat) (s : BitSource) :
    Option ((Nat × Nat) × BitSource) := do
  if symbol < 16 then return ((symbol, 1), s)
  else if symbol = 16 then
    let previous ← previous?
    let (more, s) ← s.field? 2
    return ((previous, 3 + more), s)
  else if symbol = 17 then
    let (more, s) ← s.field? 3
    return ((0, 3 + more), s)
  else
    let (more, s) ← s.field? 7
    return ((0, 11 + more), s)

/-- Reads as many lengths as are missing. -/
def lengths? (code : PrefixCode) (missing : Nat) (previous? : Option Nat) (s : BitSource) :
    Option (List Nat × BitSource) :=
  if missing = 0 then some ([], s)
  else do
    let (symbol, s) ← code.read? s
    let ((length, count), s) ← repeated? symbol previous? s
    if 0 < count ∧ count ≤ missing then
      let (rest, s) ← lengths? code (missing - count) (some length) s
      return (List.replicate count length ++ rest, s)
    else none
termination_by missing

/-- The code of lengths that may be used in a block: complete, or with rows of a single bit only. -/
def usableCode? (lengths : List Nat) : Option PrefixCode := do
  let code ← PrefixCode.ofLengths? lengths
  if code.isComplete || lengths.all (· ≤ 1) then some code else none

/-- Reads a block with codes of its own. -/
def ownBlock? (past : List UInt8) (s : BitSource) : Option (List UInt8 × BitSource) := do
  let (literals, s) ← s.field? 5
  let (distances, s) ← s.field? 5
  let (written, s) ← s.field? 4
  if 286 < literals + 257 ∨ 30 < distances + 1 then none
  else
    let (code, s) ← lengthCode? (written + 4) s
    let (lengths, s) ← lengths? code (literals + 257 + (distances + 1)) none s
    if lengths[256]? = some 0 then none
    else
      let literalCode ← usableCode? (lengths.take (literals + 257))
      let distanceCode ← usableCode? (lengths.drop (literals + 257))
      symbols? literalCode distanceCode past s

/-- Reads a block with the fixed codes. -/
def fixedBlock? (past : List UInt8) (s : BitSource) : Option (List UInt8 × BitSource) := do
  let literalCode ← PrefixCode.ofLengths? fixedLiterals
  let distanceCode ← PrefixCode.ofLengths? fixedDistances
  symbols? literalCode distanceCode past s

/-- Reads a block that holds its bytes as they are. Their number is written twice, the second time as
its complement. -/
def storedBlock? (past : List UInt8) (s : BitSource) : Option (List UInt8 × BitSource) := do
  let (size, s) ← s.bytes? 2
  let (complement, s) ← s.bytes? 2
  if ofLittleEndian size + ofLittleEndian complement = 0xFFFF then
    let (bytes, s) ← s.bytes? (ofLittleEndian size)
    return (bytes.reverse ++ past, s)
  else none

/-- Reads the block of a kind. -/
def block? (kind : Nat) : List UInt8 → BitSource → Option (List UInt8 × BitSource) :=
  match kind with
  | 0 => storedBlock?
  | 1 => fixedBlock?
  | 2 => ownBlock?
  | _ => fun _ _ => none

/-- Reads blocks up to the last one. -/
def blocks? (past : List UInt8) (s : BitSource) : Option (List UInt8 × BitSource) := do
  let (last, after) ← s.field? 1
  let (kind, after) ← after.field? 2
  let (past, after) ← block? kind past after
  if last = 1 then return (past, after)
  else if after.size < s.size then blocks? past after
  else none
termination_by s.size

/-- The data that a row of blocks holds, and the bytes after the last block. -/
def inflate? (bytes : List UInt8) : Option (List UInt8 × List UInt8) := do
  let (past, after) ← blocks? [] ⟨[], bytes⟩
  return (past.reverse, after.bytes)

/-! ## Packing -/

/-- The greatest number of bytes that a block holds as they are. -/
def mostStored : Nat := 0xFFFF

/-- A block that holds its bytes as they are. -/
def storedBlock (last : Bool) (bytes : List UInt8) : List UInt8 :=
  (if last then 1 else 0) :: littleEndian 2 bytes.length ++
    littleEndian 2 (mostStored - bytes.length) ++ bytes

/-- The blocks that hold data as it is. -/
def stored (bytes : List UInt8) : List UInt8 :=
  if bytes.length ≤ mostStored then storedBlock true bytes
  else storedBlock false (bytes.take mostStored) ++ stored (bytes.drop mostStored)
termination_by bytes.length
decreasing_by
  rename_i h
  simp only [List.length_drop, mostStored] at h ⊢
  omega

end ExactAlgebra.Deflate
