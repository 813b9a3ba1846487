import Mathlib.Data.Nat.Notation
import Mathlib.Tactic.Common
import ExactAlgebra.Storage.Gzip

/-!
# Packed data unpacked

Data that is packed is unpacked as it was. Packing writes blocks that hold the data as it is; the
induction is on these blocks, and what came before a block is the part of the data that was read.

## Main statements

* `Deflate.blocks?_stored`, `Deflate.inflate?_stored`: blocks that hold data.
* `Gzip.unpack?_pack`: the round trip of a file.
-/

namespace ExactAlgebra

/-! ## Reading bytes -/

/-- As many bytes are read as there are in a piece of the source, whatever bits of the byte before were left
over: bytes begin at a new byte, and those bits are dropped. -/
theorem BitSource.bytes?_append (begun : List Bool) (bytes rest : List UInt8) :
    BitSource.bytes? ⟨begun, bytes ++ rest⟩ bytes.length = some (bytes, ⟨[], rest⟩) := by
  rw [BitSource.bytes?, if_pos (by simp), List.take_left, List.drop_left]

theorem BitSource.bytes?_littleEndian (begun : List Bool) (size n : ℕ) (rest : List UInt8) :
    BitSource.bytes? ⟨begun, littleEndian size n ++ rest⟩ size =
      some (littleEndian size n, ⟨[], rest⟩) := by
  have read := BitSource.bytes?_append begun (littleEndian size n) rest
  rwa [length_littleEndian] at read

namespace Deflate

/-! ## Blocks -/

/-- What follows the bits that a block starts with. -/
def blockBody (bytes : List UInt8) : List UInt8 :=
  littleEndian 2 bytes.length ++ littleEndian 2 (mostStored - bytes.length) ++ bytes

/-- The bits that a block starts with: whether it is the last one, and that it holds its bytes. -/
theorem field?_storedBlock (last : Bool) (bytes rest : List UInt8) :
    ∃ begun begun', BitSource.field? ⟨[], storedBlock last bytes ++ rest⟩ 1 =
        some (last.toNat, ⟨begun, blockBody bytes ++ rest⟩) ∧
      BitSource.field? ⟨begun, blockBody bytes ++ rest⟩ 2 =
        some (0, ⟨begun', blockBody bytes ++ rest⟩) := by
  cases last <;> exact ⟨_, _, rfl, rfl⟩

/-- A block is read from its size on. The size is written twice, the second time as its complement, and the
reader compares the two; they fit, for no block is longer than can be written. -/
theorem storedBlock?_blockBody {bytes : List UInt8} (fits : bytes.length ≤ mostStored)
    (begun : List Bool) (past rest : List UInt8) :
    storedBlock? past ⟨begun, blockBody bytes ++ rest⟩ = some (bytes.reverse ++ past, ⟨[], rest⟩) := by
  have size : ofLittleEndian (littleEndian 2 bytes.length) = bytes.length := by
    rw [ofLittleEndian_littleEndian]
    exact Nat.mod_eq_of_lt (by change _ < 65536; unfold mostStored at fits; omega)
  have complement : ofLittleEndian (littleEndian 2 (mostStored - bytes.length)) =
      mostStored - bytes.length := by
    rw [ofLittleEndian_littleEndian]
    exact Nat.mod_eq_of_lt (by change _ < 65536; unfold mostStored; omega)
  have sum : bytes.length + (mostStored - bytes.length) = 0xFFFF := by
    unfold mostStored at *
    omega
  simp only [storedBlock?, blockBody, List.append_assoc, BitSource.bytes?_littleEndian,
    Option.bind_eq_bind, Option.bind_some, size, complement, sum, if_true, BitSource.bytes?_append]
  rfl

/-- A block is read: the bytes are known, and the row of blocks goes on if it was not the last one. -/
theorem blocks?_storedBlock (last : Bool) {bytes : List UInt8} (fits : bytes.length ≤ mostStored)
    (past rest : List UInt8) :
    blocks? past ⟨[], storedBlock last bytes ++ rest⟩ =
      if last then some (bytes.reverse ++ past, ⟨[], rest⟩)
      else blocks? (bytes.reverse ++ past) ⟨[], rest⟩ := by
  obtain ⟨begun, begun', isLast, kind⟩ := field?_storedBlock last bytes rest
  have shorter : BitSource.size ⟨[], rest⟩ < BitSource.size ⟨[], storedBlock last bytes ++ rest⟩ := by
    simp only [BitSource.size, storedBlock, List.length_append, List.length_cons]
    omega
  rw [blocks?, isLast]
  simp only [Option.bind_eq_bind, Option.bind_some, kind, block?, storedBlock?_blockBody fits]
  cases last
  · rw [if_neg (by decide), if_pos shorter, if_neg (by decide)]
  · rfl

/-- **Blocks that hold data are read as the data**, after what came before. -/
theorem blocks?_stored (data past rest : List UInt8) :
    blocks? past ⟨[], stored data ++ rest⟩ = some (data.reverse ++ past, ⟨[], rest⟩) := by
  induction data using stored.induct generalizing past with
  | case1 data fits => rw [stored, if_pos fits, blocks?_storedBlock true fits, if_pos rfl]
  | case2 data long ih =>
    have fits : (data.take mostStored).length ≤ mostStored := List.length_take_le ..
    rw [stored, if_neg long, List.append_assoc, blocks?_storedBlock false fits,
      if_neg Bool.false_ne_true, ih, ← List.append_assoc, ← List.reverse_append,
      List.take_append_drop]

/-- **Data that is packed in blocks is unpacked as it was**, and what comes after the blocks is left for whoever
reads on. -/
theorem inflate?_stored (data rest : List UInt8) :
    inflate? (stored data ++ rest) = some (data, rest) := by
  simp only [inflate?, blocks?_stored, Option.bind_eq_bind, Option.bind_some, List.append_nil,
    List.reverse_reverse]
  rfl

end Deflate

namespace Gzip

/-- A header without any of the optional fields has nothing in it to be skipped but itself. -/
theorem skipHeader?_plainHeader (body : List UInt8) : skipHeader? (plainHeader ++ body) = some body := by
  simp [skipHeader?, plainHeader, skip?, isSet]

/-- A file of one member is unpacked to its data, with nothing left over: the eight bytes after the blocks are
all that remain then. -/
theorem member?_pack (data : List UInt8) : member? (pack data) = some (data, []) := by
  have size : (trailer data).length = 8 := by
    rw [trailer, List.length_append, length_littleEndian, length_littleEndian]
  rw [member?, pack, List.append_assoc, skipHeader?_plainHeader]
  simp only [Option.bind_eq_bind, Option.bind_some, Deflate.inflate?_stored]
  rw [List.take_of_length_le (Nat.le_of_eq size), if_pos rfl, List.drop_of_length_le (Nat.le_of_eq size)]
  rfl

/-- **Packing loses nothing**: the file of the packed data is unpacked to the data. It holds one member, after
which no byte is left, so unpacking ends there. -/
theorem unpack?_pack (data : List UInt8) : unpack? (pack data) = some data := by
  have nonempty : ¬(pack data).isEmpty := Bool.false_ne_true
  have shorter : ([] : List UInt8).length < (pack data).length := Nat.succ_pos _
  have none : unpack? [] = some [] := by
    rw [unpack?]
    rfl
  rw [unpack?, if_neg nonempty, member?_pack]
  simp only [Option.bind_eq_bind, Option.bind_some]
  rw [if_pos shorter, none]
  exact congrArg some (List.append_nil data)

end Gzip

end ExactAlgebra
