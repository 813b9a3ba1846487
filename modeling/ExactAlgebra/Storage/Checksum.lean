/-!
# Cyclic redundancy check

The check of 32 bits that guards compressed data: the remainder of the data, taken as a polynomial over
the field of two elements, on division by a fixed polynomial. Bits are taken from the least significant
one, and the remainder is complemented before and after.

## Main definitions

* `Checksum.crc32`: the check of a row of bytes.
* `littleEndian`, `ofLittleEndian`: numbers as bytes, the low byte first.
-/

namespace ExactAlgebra

namespace Checksum

/-- The divisor, with its coefficients in reverse. -/
def polynomial : UInt32 := 0xEDB88320

/-- The remainder after one more bit. -/
def stepBit (r : UInt32) : UInt32 :=
  if r &&& 1 = 1 then (r >>> 1) ^^^ polynomial else r >>> 1

/-- The remainder after one more byte. -/
def stepByte (r : UInt32) (b : UInt8) : UInt32 :=
  Nat.repeat stepBit 8 (r ^^^ b.toUInt32)

/-- The check of a row of bytes. -/
def crc32 (bytes : List UInt8) : UInt32 :=
  bytes.foldl stepByte 0xFFFFFFFF ^^^ 0xFFFFFFFF

end Checksum

/-- A number as `size` bytes, the low byte first; what does not fit is left out. -/
def littleEndian : (size : Nat) → Nat → List UInt8
  | 0, _ => []
  | size + 1, n => UInt8.ofNat (n % 256) :: littleEndian size (n / 256)

/-- The number of bytes of which the low one is first. -/
def ofLittleEndian : List UInt8 → Nat
  | [] => 0
  | b :: bs => b.toNat + 256 * ofLittleEndian bs

@[simp] theorem length_littleEndian (size n : Nat) : (littleEndian size n).length = size := by
  induction size generalizing n <;> simp [littleEndian, *]

/-- What is read back is the number, without the part that did not fit. -/
theorem ofLittleEndian_littleEndian (size n : Nat) :
    ofLittleEndian (littleEndian size n) = n % Nat.pow 256 size := by
  induction size generalizing n with
  | zero => simp [littleEndian, ofLittleEndian, Nat.mod_one]
  | succ size ih =>
    rw [littleEndian, ofLittleEndian, ih, Nat.pow_eq, Nat.pow_eq, Nat.pow_succ', Nat.mod_mul]
    simp

end ExactAlgebra
