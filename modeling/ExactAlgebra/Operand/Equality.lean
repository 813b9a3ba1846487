import ExactAlgebra.Operand.Broadcast

/-!
# Equality and keys

When two operands count as equal. Quantities are equal to quantities, integers and fractions of the
same value, and to nothing else: not to truth values, floats or texts. Foreign numbers are equal to each
other when their values are, truth values counting as one and zero; but a number of an algebra system is
never equal to a float, and rational numbers look like floats to it. Matrices are equal when shape and
values are, lists when their parts are, and arrays are compared element by element.

The undefined float is not equal to itself. Where the parts of a sequence are compared, though, the same
object is the same part, whatever it holds.

Equality between foreign numbers and quantities is not transitive in one place: the truth value true is
equal to the integer one, and so is the rational one, but the two are not equal to each other.

A key is found again if it is the same object, or if it is equal and also has the same hash. The hash of
a number is a function of its value, except that fractions of an algebra system have hashes of their
own.

## Main definitions

* `Operand.equal`, `Operand.samePart`: equality.
* `Operand.equals`: equality, element by element between arrays.
* `Operand.hashValue?`: the value that a hash is a function of.
* `Operand.sameKey`, `distinct`: keys, and the keys among some values.
-/

namespace ExactAlgebra

namespace Operand

/-! ## Numbers -/

/-- The quantity that quantities compare themselves to: a quantity, an integer or a fraction. -/
def comparable? (v : Operand) : Option Quantity :=
  match v, v.toInteger? with
  | .quantity q, _ => some q
  | .fraction a, _ => some (.rational a)
  | _, some n => some (.rational (.ofInt n))
  | _, none => none

/-- The float of single precision nearest to an integer. -/
def singleOfInt (n : Int) : Nat :=
  (BinaryFormat.single.nearest? n 1).getD (BinaryFormat.single.infinity (n < 0))

/-- The double nearest to an integer. -/
def doubleOfInt (n : Int) : Nat :=
  (BinaryFormat.double.nearest? n 1).getD (BinaryFormat.double.infinity (n < 0))

/-- A foreign number as it meets another one: plain numbers are rounded to the precision of a number of
an array, and an integer of an array to that of a float. -/
def meeting (other v : Operand) : Operand :=
  match other, v with
  | .single .., .double bits mark => .single (BinaryFormat.double.convert .single bits) mark
  | .single .., .int n => .single (singleOfInt n) none
  | .single .., .wordInt n | .double .., .wordInt n => .ofDouble (doubleOfInt n)
  | _, v => v

/-- Two foreign real numbers are equal in value. -/
def sameReal (a b : Operand) : Bool :=
  match (meeting b a).extended?, (meeting a b).extended? with
  | some x, some y => x.same y
  | _, _ => false

/-- The real and imaginary parts of a foreign number. -/
def parts? : Operand → Option (Operand × Operand)
  | .doublePair re im _ => some (.ofDouble re, .ofDouble im)
  | v => v.extended?.map fun _ => (v, .int 0)

/-- The value is a float, or a pair of them. -/
def isFloating : Operand → Bool
  | .double .. | .single .. | .doublePair .. => true
  | _ => false

/-- The value is a number of an algebra system. -/
def isSymbolic : Operand → Bool
  | .symbolic .. => true
  | _ => false

/-- The value is a truth value of an array. -/
def isFlag : Operand → Bool
  | .flag _ => true
  | _ => false

/-- Two foreign numbers are equal. -/
def sameNumber (a b : Operand) : Bool :=
  match a, b with
  | .symbolic re im, .symbolic re' im' => re == re' && im == im'
  | a, b =>
    if a.isSymbolic && (b.isFloating || b.isFlag) || b.isSymbolic && a.isFloating then false
    else
      match a.parts?, b.parts? with
      | some (re, im), some (re', im') => sameReal re re' && sameReal im im'
      | _, _ => false

/-- A rational number is a double to an algebra system; one beyond all doubles is none. -/
def seenBySymbols : Quantity → Except Error Unit
  | .rational a => do
    let _ ← a.toDouble
  | .complex _ => .ok ()

/-- Two values of which one is a quantity are equal. -/
def sameQuantity (a b : Operand) : Except Error Bool :=
  match a, b with
  | .symbolic .., .quantity (.rational p) => do
    seenBySymbols (.rational p)
    return false
  | .quantity p, .symbolic .. =>
    match b.comparable? with
    | some q => .ok (decide (p.SameValue q))
    | none => do
      seenBySymbols p
      return false
  | a, b =>
    match a.comparable?, b.comparable? with
    | some p, some q => .ok (decide (p.SameValue q))
    | _, _ => .ok false

/-! ## Equality -/

/-- Two values that are neither sequences nor arrays are equal. -/
def samePlain (a b : Operand) : Except Error Bool :=
  match a, b with
  | .nothing, .nothing => .ok true
  | .text s, .text t => .ok (s == t)
  | .matrix m _, .matrix o _ => .ok (decide (m.SameValues o))
  | .kind j, .kind k => .ok (j == k)
  | .operation o, .operation p => .ok (o == p)
  | .elementType t, .elementType u => .ok (t == u)
  | .expression .., .expression .. => .ok (a.identical b)
  | .symbolicMatrix m n xs, .symbolicMatrix p q ys => .ok (m == p && n == q && xs == ys)
  | a, b => if a.isQuantity || b.isQuantity then sameQuantity a b else .ok (sameNumber a b)

/-- Two values of which one is an array are equal, element by element. -/
def sameElements (a b : Operand) : Except Error (List Nat × List Bool) :=
  elementwise samePlain a b

mutual

/-- Two values are equal. Between arrays this means that their single elements are. -/
def equal (a b : Operand) : Except Error Bool :=
  match a, b with
  | .list xs _, .list ys _ => if xs.length = ys.length then equalParts xs ys else .ok false
  | .tuple xs, .tuple ys => equalParts xs ys
  | a, b =>
    if a.isArray || b.isArray then do collapse (← sameElements a b).2 else samePlain a b
termination_by sizeOf a

/-- Two sequences are equal part by part. -/
def equalParts (xs ys : List Operand) : Except Error Bool :=
  match xs, ys with
  | [], [] => .ok true
  | x :: xs, y :: ys => do
    if ← if x.identical y then .ok true else equal x y then equalParts xs ys
    else return false
  | _, _ => .ok false
termination_by sizeOf xs

end

/-- Two parts of sequences are the same: one object, or equal. -/
def samePart (a b : Operand) : Except Error Bool :=
  if a.identical b then .ok true else equal a b

/-- Whether two values are equal; between arrays an array of truth values. -/
def equals (expected : Bool) (a b : Operand) : Except Error Operand :=
  if a.isArray || b.isArray then do
    let (shape, results) ← sameElements a b
    return .array .flag shape (results.map fun r => .flag (r == expected)) none
  else do return .bool ((← equal a b) == expected)

/-! ## Membership -/

/-- Some part of a list is the same as the value. -/
def anySame (v : Operand) : List Operand → Except Error Bool
  | [] => .ok false
  | x :: xs => do
    if ← samePart x v then return true
    else anySame v xs

/-- The first text is part of the second. -/
def isInfix (s : List Char) : List Char → Bool
  | [] => s.isEmpty
  | c :: cs => s.isPrefixOf (c :: cs) || isInfix s cs

/-- Some member of the second value is the same as the first. The members of a text are its parts. -/
def isMember (a b : Operand) : Except Error Bool :=
  match a, b with
  | .text s, .text t => .ok (isInfix s.toList t.toList)
  | a, .text _ => .error (.operand (.notPartOfText a.fullTypeName))
  | a, .array t shape elements mark => do
    return (← sameElements (.array t shape elements mark) a).2.any id
  | a, b => do
    anySame a (← orFail (.operand (.noMembers b.fullTypeName)) b.members?)

/-! ## Keys -/

/-- The value that the hash of a number is a function of, for numbers that have the same hash as all
numbers of the same value. -/
def hashValue? : Operand → Option Extended
  | .quantity q => if q.isReal then some (.finite q.toGaussian.re) else none
  | .symbolic re im => if im.isZero && re.isInteger then some (.finite re) else none
  | .doublePair re im _ =>
    if (BinaryFormat.double.decode im).isZero then some (BinaryFormat.double.decode re).toExtended
    else none
  | v => v.extended?

mutual

/-- Two keys have the same hash, as far as that depends on the values of numbers. -/
def sameHash (a b : Operand) : Bool :=
  match a, b with
  | .tuple xs, .tuple ys => sameHashes xs ys
  | a, b =>
    match a.hashValue?, b.hashValue? with
    | some x, some y => x == y
    | none, none => true
    | _, _ => false
termination_by sizeOf a

/-- The parts of two keys have the same hashes. -/
def sameHashes (xs ys : List Operand) : Bool :=
  match xs, ys with
  | [], [] => true
  | x :: xs, y :: ys => sameHash x y && sameHashes xs ys
  | _, _ => false
termination_by sizeOf xs

end

/-- The type that keeps a value from being a key, if one does: values that can be changed are no
keys. -/
def notKey? : Operand → Option String
  | .list .. => some "list"
  | .matrix m _ => some m.form.name
  | .array .. => some "numpy.ndarray"
  | .symbolicMatrix .. => some "MutableDenseMatrix"
  | .tuple xs => notKeys? xs
  | _ => none
where
  /-- The type of the first value that is no key. -/
  notKeys? : List Operand → Option String
    | [] => none
    | x :: xs => (notKey? x).orElse fun _ => notKeys? xs

/-- A key that is kept is found again by a value. -/
def sameKey (kept v : Operand) : Except Error Bool :=
  if kept.identical v then .ok true
  else if sameHash kept v then equal kept v
  else .ok false

/-- A value is found among the keys that are kept. -/
def isKept (v : Operand) : (kept : List Operand) → Except Error Bool
  | [] => .ok false
  | k :: kept => do
    if ← sameKey k v then return true
    else isKept v kept

end Operand

/-- The values that are not found among earlier ones, in order. -/
def distinct (kept : List Operand) : List Operand → Except Error (List Operand)
  | [] => .ok kept
  | v :: vs =>
    match v.notKey? with
    | some type => .error (.operand (.unhashable type))
    | none => do
      if ← v.isKept kept then distinct kept vs
      else distinct (kept ++ [v]) vs

end ExactAlgebra
