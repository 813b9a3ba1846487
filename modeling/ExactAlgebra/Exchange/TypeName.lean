import ExactAlgebra.Operand.Text

/-!
# Names of element types

The ways to say of which type the elements of an array are to be: by the type itself, by nothing, which
stands for doubles, by a value that has elements of some type or is one, and by a name. A name is a word,
or a letter for the kind of number with its size in bytes; the sign of the byte order may come before a
letter.

## Main definitions

* `ElementType.named?`: the type of a name.
* `Operand.toElementType`: the type that a value stands for.
-/

namespace ExactAlgebra

namespace ElementType

/-- Signed integers of so many bits. -/
abbrev signed (width : Nat) : ElementType := .integer width true

/-- Unsigned integers of so many bits. -/
abbrev unsigned (width : Nat) : ElementType := .integer width false

/-- The types by their words. -/
def words : List (String × ElementType) :=
  [("object", .object), ("object_", .object), ("bool", .flag), ("bool_", .flag),
    ("int", signed 64), ("int_", signed 64), ("intp", signed 64), ("long", signed 64),
    ("longlong", signed 64), ("int8", signed 8), ("byte", signed 8), ("int16", signed 16),
    ("short", signed 16), ("int32", signed 32), ("intc", signed 32), ("int64", signed 64),
    ("uint", unsigned 64), ("uintp", unsigned 64), ("ulong", unsigned 64), ("ulonglong", unsigned 64),
    ("uint8", unsigned 8), ("ubyte", unsigned 8), ("uint16", unsigned 16), ("ushort", unsigned 16),
    ("uint32", unsigned 32), ("uintc", unsigned 32), ("uint64", unsigned 64), ("float16", .half),
    ("half", .half), ("float32", .single), ("single", .single), ("float", .double),
    ("float64", .double), ("double", .double), ("complex64", .singlePair), ("csingle", .singlePair),
    ("complex", .doublePair), ("complex128", .doublePair), ("cdouble", .doublePair)]

/-- The types by their letters, with or without a size. -/
def letters : List (String × ElementType) :=
  [("O", .object), ("O8", .object), ("?", .flag), ("b1", .flag), ("b", signed 8), ("i1", signed 8),
    ("h", signed 16), ("i2", signed 16), ("i", signed 32), ("i4", signed 32), ("l", signed 64),
    ("q", signed 64), ("p", signed 64), ("n", signed 64), ("i8", signed 64), ("B", unsigned 8),
    ("u1", unsigned 8), ("H", unsigned 16), ("u2", unsigned 16), ("I", unsigned 32),
    ("u4", unsigned 32), ("L", unsigned 64), ("Q", unsigned 64), ("P", unsigned 64),
    ("N", unsigned 64), ("u8", unsigned 64), ("e", .half), ("f2", .half), ("f", .single),
    ("f4", .single), ("d", .double), ("f8", .double), ("F", .singlePair), ("c8", .singlePair),
    ("D", .doublePair), ("c16", .doublePair)]

/-- A letter without the sign of the byte order before it. -/
def withoutByteOrder (name : String) : String :=
  match name.toList with
  | c :: cs => if ['<', '=', '|'].contains c then String.ofList cs else name
  | [] => name

/-- The type that a name stands for. -/
def named? (name : String) : Option ElementType :=
  (letters.lookup (withoutByteOrder name)).orElse fun _ => words.lookup name

end ElementType

/-- The element type that a value stands for. -/
def Operand.toElementType : Operand → Except Error ElementType
  | .nothing => .ok .double
  | .elementType t => .ok t
  | .text name =>
    match ElementType.named? name with
    | some t => .ok t
    | none => .error (.operand (.unknownElementType name))
  | .wordInt _ => .ok (.signed 64)
  | .single .. => .ok .single
  | .flag _ => .ok .flag
  | .array t .. => .ok t
  | v => .error (.operand (.notElementType (String.ofList v.display)))

end ExactAlgebra
