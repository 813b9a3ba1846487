import ExactAlgebra.Number.FloatArithmetic
import ExactAlgebra.Operand.Operator

/-!
# Arithmetic of foreign values

Operators between two values of which none is of this library. Integers, integers of 64 bits, fractions
and real numbers of an algebra system are combined exactly, and the result is of the wider of the two
types; what does not fit into 64 bits loses its upper bits there. A double makes doubles of exact numbers,
and a pair of doubles makes pairs. Only a power leaves the exact numbers by itself, and so does the
quotient of two integers. Sequences of one type are joined by a plus and repeated by an integer.

Powers of doubles with fractional exponents are not among these, nor are powers of pairs.

## Main definitions

* `ExactForm`: the types of exact foreign number.
* `Operand.combineForeign`: an operator between two foreign values.
-/

namespace ExactAlgebra

/-- The types of exact foreign number, from the narrowest to the widest. -/
inductive ExactForm where
  | integer
  | word
  | fraction
  | symbolic
  deriving DecidableEq

/-- The wider one of two types. -/
def ExactForm.join : ExactForm → ExactForm → ExactForm
  | .integer, b => b
  | a, .integer => a
  | .word, b => b
  | a, .word => a
  | .fraction, b => b
  | .symbolic, _ => .symbolic

/-- The type is one of integers only. -/
def ExactForm.isWhole : ExactForm → Bool
  | .integer | .word => true
  | .fraction | .symbolic => false

/-- An exact number in a foreign type. An integer has no fractional part. -/
def ExactForm.hold (form : ExactForm) (a : Rational) : Operand :=
  match form with
  | .integer => .int a.truncate
  | .word => .wordInt (a.truncate.bmod (Nat.pow 2 64))
  | .fraction => .fraction a
  | .symbolic => .symbolic a 0

namespace Operand

/-! ## Sequences -/

/-- How often a value says that something is repeated. -/
def repetition? : Operand → Option Nat
  | .bool b => some b.toNat
  | v => v.toInteger?.map Int.toNat

/-- So many copies of a sequence, one after the other. -/
def repeated? (v : Operand) (n : Nat) : Option Operand :=
  match v with
  | .text s => some (.text (String.join (List.replicate n s)))
  | .list xs _ => some (.ofList (List.replicate n xs).flatten)
  | .tuple xs => some (.tuple (List.replicate n xs).flatten)
  | _ => none

/-- Sequences that are joined or repeated. -/
def combineSequences? (o : Operator) (a b : Operand) : Option Operand :=
  match o, a, b with
  | .add, .text s, .text t => some (.text (s ++ t))
  | .add, .list xs _, .list ys _ => some (.ofList (xs ++ ys))
  | .add, .tuple xs, .tuple ys => some (.tuple (xs ++ ys))
  | .multiply, a, b => (b.repetition?.bind a.repeated?).orElse fun _ => a.repetition?.bind b.repeated?
  | _, _, _ => none

/-! ## Doubles -/

/-- An operator between two doubles, as far as it has a result. A power of finite doubles is finite. -/
def combineDoubles? (o : Operator) (x y : Nat) : Except Error (Option Operand) :=
  let f := BinaryFormat.double
  match o with
  | .add => .ok (some (.ofDouble (f.add x y)))
  | .subtract => .ok (some (.ofDouble (f.subtract x y)))
  | .multiply => .ok (some (.ofDouble (f.multiply x y)))
  | .divide =>
    if f.isZero y then .error (.arithmetic (.foreignZero .doubles))
    else .ok (some (.ofDouble (f.divide x y)))
  | .pow =>
    if f.isZero x && !f.isZero y && f.isNegative y && f.decode y != .undefined then
      .error (.arithmetic (.foreignZero .powers))
    else
      match f.power? x y with
      | some z =>
        if f.isFinite x && f.isFinite y && !f.isFinite z then .error (.arithmetic .powerBeyondDoubles)
        else .ok (some (.ofDouble z))
      | none => .ok none
  | .product => .ok none

/-- An operator between two pairs of doubles, as far as it has a result. -/
def combinePairs? (o : Operator) (z w : FloatPair) : Except Error (Option Operand) :=
  let result (z : FloatPair) : Option Operand := some (.doublePair z.re z.im none)
  match o with
  | .add => .ok (result (.add .double z w))
  | .subtract => .ok (result (.subtract .double z w))
  | .multiply => .ok (result (.multiply .double z w))
  | .divide => do
    let q ← orFail (.arithmetic (.foreignZero .pairs)) (FloatPair.divide? .double z w)
    return result q
  | .pow | .product => .ok none

/-! ## Exact numbers -/

/-- The type and the value of an exact foreign number. -/
def exactTerm? : Operand → Option (ExactForm × Rational)
  | .bool b => some (.integer, .ofInt b.toNat)
  | .int n => some (.integer, .ofInt n)
  | .wordInt n => some (.word, .ofInt n)
  | .fraction a => some (.fraction, a)
  | .symbolic re im => if im.isZero then some (.symbolic, re) else none
  | _ => none

/-- The quotient of two integers. A zero has the sign of the divisor. -/
def divideIntegers (a b : Rational) : Except Error Operand :=
  match a.divide? b with
  | none => .error (.arithmetic (.foreignZero .integers))
  | some q =>
    if a.isZero then .ok (.ofDouble (BinaryFormat.double.zeroBits (b < 0)))
    else return .ofDouble (← q.toDouble)

/-- The quotient of two exact numbers, as far as their type has it. -/
def divideExact? (form : ExactForm) (a b : Rational) : Except Error (Option Operand) :=
  match form with
  | .integer => (divideIntegers a b).map some
  | .word =>
    .ok (some (.ofDouble (BinaryFormat.double.divide a.symbolicDouble b.symbolicDouble)))
  | .fraction => do
    let q ← orFail (.arithmetic (.foreignZero (.fractions a.signum))) (a.divide? b)
    return some (.fraction q)
  | .symbolic => .ok ((a.divide? b).map form.hold)

/-- The type of a whole power of an exact number. -/
def powerForm (base exponent : ExactForm) (n : Int) : ExactForm :=
  match base, exponent with
  | .fraction, _ => .fraction
  | .integer, .fraction => if 0 ≤ n then .integer else .fraction
  | base, exponent => base.join exponent

/-- The whole power of an exact number in a type, as far as the type has it. A negative power of an
integer is a double; integers of 64 bits have none. -/
def wholePower? (form : ExactForm) (a : Rational) (n : Int) : Except Error (Option Operand) :=
  let power := BinaryFormat.exactPower a n.natAbs
  if 0 ≤ n then .ok (some (form.hold power))
  else
    match form, power.reciprocal? with
    | .integer, _ => do
      combineDoubles? .pow (← (int a.truncate).doubleBits) (← (int n).doubleBits)
    | .word, _ => .error (.array .negativePower)
    | .fraction, none => .error (.arithmetic (.foreignZero (.fractions 1)))
    | form, power => .ok (power.map form.hold)

/-- The power of two exact numbers, as far as their types have it. A power with a fractional exponent is
a double, except in an algebra system. -/
def powerExact? (base exponent : ExactForm) (a b : Rational) : Except Error (Option Operand) :=
  match b.toInt? with
  | some n => wholePower? (powerForm base exponent n) a n
  | none =>
    if base = .symbolic ∨ (base.isWhole ∧ exponent = .symbolic) then .ok none
    else do combineDoubles? .pow (← a.toDouble) (← b.toDouble)

/-- An operator between two exact numbers, as far as it has a result. -/
def combineExact? (o : Operator) (x y : ExactForm × Rational) : Except Error (Option Operand) :=
  let form := x.1.join y.1
  match o with
  | .add => .ok (some (form.hold (x.2 + y.2)))
  | .subtract => .ok (some (form.hold (x.2 - y.2)))
  | .multiply => .ok (some (form.hold (x.2 * y.2)))
  | .divide => divideExact? form x.2 y.2
  | .pow => powerExact? x.1 y.1 x.2 y.2
  | .product => .ok none

/-! ## All together -/

/-- The value is a foreign real number that becomes a double where it meets one. -/
def meetsDoubles : Operand → Bool
  | .bool _ | .int _ | .wordInt _ | .fraction _ | .double .. => true
  | _ => false

/-- The pair of doubles that a foreign number is where it meets one. -/
def toPair? (v : Operand) : Option (Except Error FloatPair) :=
  match v with
  | .doublePair re im _ => some (.ok ⟨re, im⟩)
  | v => if v.meetsDoubles then some (v.doubleBits.map fun x => ⟨x, 0⟩) else none

/-- A truth value and a number of an algebra system do not go together. -/
def areApart : Operand → Operand → Bool
  | .bool _, .symbolic .. => true
  | .symbolic .., .bool _ => true
  | _, _ => false

/-- An operator between two foreign numbers, as far as it has a result. -/
def combineNumbers? (o : Operator) (a b : Operand) : Except Error (Option Operand) :=
  match a.exactTerm?, b.exactTerm? with
  | some x, some y => if areApart a b then .ok none else combineExact? o x y
  | _, _ =>
    if a.meetsDoubles && b.meetsDoubles then do
      combineDoubles? o (← a.doubleBits) (← b.doubleBits)
    else
      match a.toPair?, b.toPair? with
      | some z, some w => do combinePairs? o (← z) (← w)
      | _, _ => .ok none

/-- A number of an array where it meets an exact number that arrays do not hold: the plain number. -/
def unboxedBy (v : Operand) : Operand → Operand
  | .fraction _ | .symbolic .. => v.unboxed
  | _ => v

/-- An operator between two foreign values. -/
def combineForeign (o : Operator) (a b : Operand) : Except Error Operand := do
  match ← combineNumbers? o (a.unboxedBy b) (b.unboxedBy a), combineSequences? o a b with
  | some v, _ => return v
  | none, some v => return v
  | none, none => refusal o a b

end Operand

end ExactAlgebra
