/-!
# Reading bits and prefix codes

Compressed data is a row of bits, eight to a byte from the least significant one. A `BitSource` is what
is left of it: bits of a byte that was begun, and whole bytes. Numbers stand in the bits with their
lowest bit first.

A prefix code gives each symbol a row of bits such that no row begins another. It is a binary tree with
the symbols as leaves, and is laid down by the lengths of the rows alone: shorter rows come first, and
rows of one length follow the order of the symbols.

## Main definitions

* `BitSource`, `BitSource.field?`: reading numbers.
* `PrefixCode`, `PrefixCode.ofLengths?`: the code with given lengths.
* `PrefixCode.read?`: reading a symbol.
-/

namespace ExactAlgebra

/-- What is left of a row of bits. -/
structure BitSource where
  /-- The bits that are left of the byte that was begun. -/
  begun : List Bool
  /-- The bytes after it. -/
  bytes : List UInt8

namespace BitSource

/-- The number of bits that are left. -/
def size (s : BitSource) : Nat := s.begun.length + 8 * s.bytes.length

/-- Some of the bits of a number, from the given place up. -/
def bitsOf (n : Nat) : (count : Nat) → List Bool
  | 0 => []
  | count + 1 => (n % 2 == 1) :: bitsOf (n / 2) count

/-- The next bit. -/
def next? : BitSource → Option (Bool × BitSource)
  | ⟨b :: begun, bytes⟩ => some (b, ⟨begun, bytes⟩)
  | ⟨[], b :: bytes⟩ => some (b.toNat % 2 == 1, ⟨bitsOf (b.toNat / 2) 7, bytes⟩)
  | ⟨[], []⟩ => none

/-- The number in the next `width` bits. -/
def field? (s : BitSource) : (width : Nat) → Option (Nat × BitSource)
  | 0 => some (0, s)
  | width + 1 => do
    let (b, s) ← s.next?
    let (high, s) ← s.field? width
    return (b.toNat + 2 * high, s)

/-- The next `count` bytes. What is left of the byte that was begun is skipped. -/
def bytes? (s : BitSource) (count : Nat) : Option (List UInt8 × BitSource) :=
  if count ≤ s.bytes.length then some (s.bytes.take count, ⟨[], s.bytes.drop count⟩) else none

end BitSource

/-- A prefix code. -/
inductive PrefixCode where
  /-- No symbol begins this way. -/
  | absent
  /-- The row of a symbol is complete. -/
  | symbol (n : Nat)
  /-- The row goes on with a bit. -/
  | branch (zero one : PrefixCode)

namespace PrefixCode

/-- Nodes side by side, joined two by two. -/
def joined : List PrefixCode → List PrefixCode
  | [] => []
  | [a] => [branch a absent]
  | a :: b :: rest => branch a b :: joined rest

/-- The symbols with rows of the given length, in order. -/
def symbolsOfLength (lengths : List Nat) (length : Nat) : List PrefixCode :=
  (lengths.zipIdx.filter fun p => p.1 == length).map fun p => symbol p.2

/-- The greatest length of a row. -/
def longest : Nat := 15

/-- The code in which symbol `n` has a row of length `lengths[n]`; symbols of length zero have none.
There is no such code if too many rows are too short. -/
def ofLengths? (lengths : List Nat) : Option PrefixCode :=
  let level (length : Nat) (below : List PrefixCode) :=
    joined (symbolsOfLength lengths (length + 1) ++ below)
  match (List.range longest).foldr level [] with
  | [] => some absent
  | [code] => some code
  | _ => none

/-- Every row of bits is the row of a symbol or begins one, or is longer than one. -/
def isComplete : PrefixCode → Bool
  | absent => false
  | symbol _ => true
  | branch zero one => zero.isComplete && one.isComplete

/-- Reads a symbol. -/
def read? : PrefixCode → BitSource → Option (Nat × BitSource)
  | absent, _ => none
  | symbol n, s => some (n, s)
  | branch zero one, s => do
    let (b, s) ← s.next?
    if b then one.read? s else zero.read? s

end PrefixCode

end ExactAlgebra
