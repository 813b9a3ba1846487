import ExactAlgebra.Proofs.AlikeArguments
import ExactAlgebra.Proofs.RationalOrder

/-!
# Numbers as keys

Quantities, integers and fractions of other libraries are equal to each other exactly when they are the same
point of the plane, whatever their types. So among them equality is an equivalence relation, and it is one
that hashes follow: a number without an imaginary part has the hash of its fraction, and any other one has a
hash that is made of those of its parts.

How integers, fractions and pairs are hashed is not settled here. All that is needed is that an integer has
the hash of the fraction that is equal to it, and that the hash of a pair is made of the hashes of its parts.

Used as keys, the numbers of a list leave the first one of every class, in the order of the list.

## Main definitions

* `Operand.Denotes`: a quantity, an integer or a fraction, and the quantity that it is.
* `Hashing`, `Hashing.ofOperand?`: the hashes of numbers.
* `Operand.isEqual`, `Operand.firsts`: the members of a list that are equal to no earlier one.

## Main statements

* `Operand.Denotes.equal`: equality is equality of the points.
* `Hashing.ofQuantity_eq`: equal quantities have one hash.
* `distinct_numbers`: the keys among the numbers of a list.
-/

namespace ExactAlgebra

/-! ## Numbers and their equality -/

/-- Finite values are the same if they are one fraction. Floats are compared by this order as well, but only
finite ones are needed here. -/
theorem Extended.same_finite (a b : Rational) :
    (Extended.finite a).same (.finite b) = decide (a = b) := by
  have compared : (Extended.finite a).same (.finite b) = (some (a.ordering b) == some .eq) := rfl
  rw [Bool.eq_iff_iff, compared, beq_iff_eq, Option.some_inj, Rational.ordering_eq_iff, decide_eq_true_iff]

/-- Whether a quantity is real can be asked of the point in the plane that it is, of either kind. -/
theorem Quantity.isReal_toGaussian (q : Quantity) : q.toGaussian.isReal = q.isReal := by
  cases q <;> rfl

namespace Operand

/-- The value is a quantity of this library, an integer, or a fraction of another library, and is the number
`q`. A truth value is none of these. -/
inductive Denotes : Operand → Quantity → Prop
  | quantity (q : Quantity) : Denotes (.quantity q) q
  | int (n : Int) : Denotes (.int n) (.rational (.ofInt n))
  | fraction (a : Rational) : Denotes (.fraction a) (.rational a)

namespace Denotes

variable {a b : Operand} {p q : Quantity}

/-- A number is taken for the quantity that it denotes wherever a quantity is asked for. -/
theorem toQuantity_eq (number : a.Denotes p) : a.toQuantity = .ok p := by
  cases number <;> rfl

theorem isExact_eq (number : a.Denotes p) : a.isExact = true := by
  cases number <;> rfl

theorem isArray_eq (number : a.Denotes p) : a.isArray = false := by
  cases number <;> rfl

/-- A number is never known to be one and the same object as another value, so a comparison has to look at the
values. -/
theorem identical_eq (number : a.Denotes p) (b : Operand) : a.identical b = false := by
  cases number <;> rfl

/-- Every number may be used as a key; values that can be changed may not. -/
theorem notKey?_eq (number : a.Denotes p) : a.notKey? = none := by
  cases number <;> rfl

/-- Compared as quantities, two numbers are equal if their quantities have one value, whatever types the numbers
are of. -/
theorem sameQuantity_eq (left : a.Denotes p) (right : b.Denotes q) :
    sameQuantity a b = .ok (decide (p.SameValue q)) := by
  cases left <;> cases right <;> rfl

/-- Integers and fractions of other libraries are compared by their values. -/
theorem sameNumber_eq (left : a.Denotes p) (right : b.Denotes q) (foreignLeft : a.isQuantity = false)
    (foreignRight : b.isQuantity = false) : sameNumber a b = decide (p.SameValue q) := by
  -- both are real, and the imaginary parts that are compared are zero
  have reals (r s : Rational) : ((Extended.finite r).same (.finite s) && sameReal (.int 0) (.int 0)) =
      decide ((Quantity.rational r).SameValue (.rational s)) := by
    rw [Extended.same_finite, decide_eq_decide.mpr Rational.sameValue_iff]
    exact Bool.and_true _
  cases left with
  | quantity => cases foreignLeft
  | int | fraction =>
    cases right with
    | quantity => cases foreignRight
    | int | fraction => exact reals _ _

/-- **Numbers are equal when they are one point of the plane**, whatever their types. -/
theorem equal (left : a.Denotes p) (right : b.Denotes q) :
    equal a b = .ok (decide (p.SameValue q)) := by
  rw [equal_of_isExact left.isExact_eq right.isExact_eq]
  split
  · exact left.sameQuantity_eq right
  · rename_i foreign
    rw [Bool.or_eq_true, not_or, Bool.not_eq_true, Bool.not_eq_true] at foreign
    rw [left.sameNumber_eq right foreign.1 foreign.2]

end Denotes

end Operand

/-! ## Hashes -/

/-- The hashes of integers, of fractions, and of pairs by the hashes of their parts. An integer has the hash
of the fraction that is equal to it. -/
structure Hashing where
  /-- The hash of an integer. -/
  ofInt : ℤ → ℤ
  /-- The hash of a fraction. -/
  ofFraction : Rational → ℤ
  /-- The hash of a pair of values with the given hashes. -/
  ofPair : ℤ → ℤ → ℤ
  /-- Integers and fractions that are equal have one hash. -/
  ofFraction_ofInt (n : ℤ) : ofFraction (.ofInt n) = ofInt n

namespace Hashing

variable (h : Hashing)

/-- The hash of a quantity. A rational number has that of its fraction, a complex number without an imaginary
part that of its real part, and any other complex number that of the pair of its parts. -/
def ofQuantity : Quantity → ℤ
  | .rational a => h.ofFraction a
  | .complex z =>
    if z.isReal then h.ofFraction z.re else h.ofPair (h.ofFraction z.re) (h.ofFraction z.im)

/-- The hash of a number. -/
def ofOperand? : Operand → Option ℤ
  | .quantity q => some (h.ofQuantity q)
  | .int n => some (h.ofInt n)
  | .fraction a => some (h.ofFraction a)
  | _ => none

/-- The hash of a quantity depends on its point of the plane alone. -/
theorem ofQuantity_eq_complex (q : Quantity) : h.ofQuantity q = h.ofQuantity (.complex q.toGaussian) := by
  cases q with
  | rational a =>
    have real : (Gaussian.ofRational a).isReal = true := Quantity.isReal_toGaussian (.rational a)
    rw [Quantity.toGaussian, ofQuantity, ofQuantity, if_pos real, Gaussian.ofRational]
  | complex z => rfl

/-- **Equal quantities have one hash**, which tables of keys rely on. The hash is computed from the point of the
plane, and equal quantities are one point. -/
theorem ofQuantity_eq {p q : Quantity} (same : p.SameValue q) : h.ofQuantity p = h.ofQuantity q := by
  rw [ofQuantity_eq_complex, ofQuantity_eq_complex h q, show p.toGaussian = q.toGaussian from same]

/-- The hash of a number is that of the quantity that it denotes. For integers this is the assumption about
hashes: a fraction hashes like the integer that it is. -/
theorem ofOperand?_eq {v : Operand} {q : Quantity} (number : v.Denotes q) :
    h.ofOperand? v = some (h.ofQuantity q) := by
  cases number with
  | quantity | fraction => rfl
  | int n => exact congrArg some (h.ofFraction_ofInt n).symm

end Hashing

namespace Operand

namespace Denotes

variable {a b : Operand} {p q : Quantity}

/-- Among keys a number on the real axis is looked up by its fraction. All other numbers are taken to have one
hash, so that it is left to the comparison to tell them apart. -/
theorem hashValue?_eq (number : a.Denotes p) :
    a.hashValue? = if p.toGaussian.isReal then some (.finite p.toGaussian.re) else none := by
  rw [Quantity.isReal_toGaussian]
  cases number <;> rfl

/-- Equal numbers are not told apart by their hashes. -/
theorem sameHash_eq_true (left : a.Denotes p) (right : b.Denotes q) (same : p.SameValue q) :
    sameHash a b = true := by
  have hashes : a.hashValue? = b.hashValue? := by
    rw [left.hashValue?_eq, right.hashValue?_eq, show p.toGaussian = q.toGaussian from same]
  rw [sameHash, hashes]
  · cases b.hashValue? with
    | none => rfl
    | some x => exact beq_self_eq_true x
  · rintro xs ys rfl
    cases left

/-- A number that is kept is found again by the numbers that are equal to it. -/
theorem sameKey_eq (left : a.Denotes p) (right : b.Denotes q) :
    sameKey a b = .ok (decide (p.SameValue q)) := by
  rw [sameKey, left.identical_eq, left.equal right]
  by_cases same : p.SameValue q
  · rw [left.sameHash_eq_true right same]
    rfl
  · rw [decide_eq_false same]
    cases sameHash a b <;> rfl

end Denotes

/-! ## The first of every class -/

/-- The two values are equal, and comparing them does not fail. -/
def isEqual (a b : Operand) : Bool :=
  match equal a b with
  | .ok same => same
  | .error _ => false

/-- The members of a list that are equal to no earlier one, in the order of the list. -/
def firsts (xs : List Operand) : List Operand :=
  (xs.zipIdx.filter fun member => (xs.take member.2).all fun u => !u.isEqual member.1).map Prod.fst

/-- A further value is one of the firsts if nothing before it is equal to it. -/
theorem firsts_concat (xs : List Operand) (v : Operand) :
    firsts (xs ++ [v]) = if xs.any (·.isEqual v) then firsts xs else firsts xs ++ [v] := by
  -- what stands before the earlier values is not changed
  have earlier : (xs.zipIdx.filter fun member =>
        ((xs ++ [v]).take member.2).all fun u => !u.isEqual member.1) =
      xs.zipIdx.filter fun member => (xs.take member.2).all fun u => !u.isEqual member.1 := by
    refine List.filter_congr fun ⟨u, i⟩ mem => ?_
    have bound : i < xs.length := (List.mem_zipIdx' mem).1
    rw [List.take_append_of_le_length bound.le]
  have last : ((xs ++ [v]).take xs.length).all (fun u => !u.isEqual v) = !xs.any (·.isEqual v) := by
    rw [List.take_left, List.not_any_eq_all_not]
  rw [firsts, List.zipIdx_append, List.filter_append, earlier, List.map_append, ← firsts,
    List.zipIdx_singleton, List.filter_singleton, Nat.zero_add, last]
  cases xs.any (·.isEqual v)
  · rfl
  · exact List.append_nil _

theorem mem_of_mem_firsts {xs : List Operand} {v : Operand} (mem : v ∈ firsts xs) : v ∈ xs := by
  obtain ⟨⟨u, i⟩, kept, rfl⟩ := List.mem_map.mp mem
  exact List.fst_mem_of_mem_zipIdx (List.mem_of_mem_filter kept)

theorem pairwise_firsts (xs : List Operand) :
    (firsts xs).Pairwise fun a b => a.isEqual b = false := by
  induction xs using List.reverseRecOn with
  | nil => exact .nil
  | append_singleton xs v ih =>
    rw [firsts_concat]
    split
    · exact ih
    · rename_i noneEqual
      rw [List.any_eq_true] at noneEqual
      refine List.pairwise_append.mpr ⟨ih, List.pairwise_singleton _ _, fun k kept u mem => ?_⟩
      rw [List.mem_singleton.mp mem]
      exact Bool.eq_false_iff.mpr fun same => noneEqual ⟨k, mem_of_mem_firsts kept, same⟩

/-! ## Lists of numbers -/

/-- The value is a quantity, an integer or a fraction. -/
def IsNumber (v : Operand) : Prop := ∃ q, v.Denotes q

section

variable {a b c : Operand} {xs : List Operand} {v : Operand}

/-- The operator for equality, as it is used between keys, asks whether the two numbers have one value, in all
nine combinations of types. -/
theorem Denotes.isEqual_eq {p q : Quantity} (left : a.Denotes p) (right : b.Denotes q) :
    a.isEqual b = decide (p.SameValue q) := by
  rw [isEqual, left.equal right]

theorem isEqual_refl (number : a.IsNumber) : a.isEqual a = true := by
  obtain ⟨p, number⟩ := number
  exact (number.isEqual_eq number).trans (decide_eq_true (.refl p))

theorem isEqual_symm (left : a.IsNumber) (right : b.IsNumber) (same : a.isEqual b = true) :
    b.isEqual a = true := by
  obtain ⟨p, left⟩ := left
  obtain ⟨q, right⟩ := right
  rw [left.isEqual_eq right, decide_eq_true_iff] at same
  exact (right.isEqual_eq left).trans (decide_eq_true same.symm)

/-- Equality may be passed on through a number of a third type, since all three are compared by the quantities
that they denote. -/
theorem isEqual_trans (left : a.IsNumber) (middle : b.IsNumber) (right : c.IsNumber)
    (same : a.isEqual b = true) (same' : b.isEqual c = true) : a.isEqual c = true := by
  obtain ⟨p, left⟩ := left
  obtain ⟨q, middle⟩ := middle
  obtain ⟨r, right⟩ := right
  rw [left.isEqual_eq middle, decide_eq_true_iff] at same
  rw [middle.isEqual_eq right, decide_eq_true_iff] at same'
  exact (left.isEqual_eq right).trans (decide_eq_true (same.trans same'))

/-- Every number of a list is equal to a first one. -/
theorem exists_mem_firsts (numbers : ∀ u ∈ xs, u.IsNumber) (mem : v ∈ xs) :
    ∃ k ∈ firsts xs, k.isEqual v = true := by
  induction xs using List.reverseRecOn generalizing v with
  | nil => cases mem
  | append_singleton xs w ih =>
    have before : ∀ u ∈ xs, u.IsNumber := fun u mem => numbers u (List.mem_append_left _ mem)
    have kept {k : Operand} (mem : k ∈ firsts xs) : k ∈ firsts (xs ++ [w]) := by
      rw [firsts_concat]
      split
      · exact mem
      · exact List.mem_append_left _ mem
    obtain earlier | rfl := (List.mem_append.mp mem).imp_right List.mem_singleton.mp
    · obtain ⟨k, first, same⟩ := ih before earlier
      exact ⟨k, kept first, same⟩
    · by_cases found : xs.any (·.isEqual v) = true
      · -- what is equal to the new value is equal to a first one
        obtain ⟨u, earlier, same⟩ := List.any_eq_true.mp found
        obtain ⟨k, first, same'⟩ := ih before earlier
        exact ⟨k, kept first, isEqual_trans (before k (mem_of_mem_firsts first)) (before u earlier)
          (numbers v mem) same' same⟩
      · refine ⟨v, ?_, isEqual_refl (numbers v mem)⟩
        rw [firsts_concat, if_neg found]
        exact List.mem_append_right _ (List.mem_singleton_self v)

theorem eq_of_mem_firsts (numbers : ∀ u ∈ xs, u.IsNumber) (left : a ∈ firsts xs)
    (right : b ∈ firsts xs) (same : a.isEqual b = true) : a = b := by
  have isNumber {u : Operand} (first : u ∈ firsts xs) : u.IsNumber := numbers u (mem_of_mem_firsts first)
  refine List.Pairwise.forall_of_forall_of_flip (R := fun a b => a.isEqual b = true → a = b)
    (fun _ _ _ => rfl) ?_ ?_ left right same
  · exact (pairwise_firsts xs).imp fun different same => absurd same (Bool.eq_false_iff.mp different)
  · refine (pairwise_firsts xs).imp_of_mem fun memA memB different same => ?_
    exact absurd (isEqual_symm (isNumber memB) (isNumber memA) same) (Bool.eq_false_iff.mp different)

/-- Every number of a list is equal to exactly one of the firsts. -/
theorem existsUnique_mem_firsts (numbers : ∀ u ∈ xs, u.IsNumber) (mem : v ∈ xs) :
    ∃! k, k ∈ firsts xs ∧ k.isEqual v = true := by
  have isNumber {u : Operand} (first : u ∈ firsts xs) : u.IsNumber := numbers u (mem_of_mem_firsts first)
  obtain ⟨k, first, same⟩ := exists_mem_firsts numbers mem
  refine ⟨k, ⟨first, same⟩, ?_⟩
  rintro l ⟨first', same'⟩
  refine eq_of_mem_firsts numbers first' first ?_
  exact isEqual_trans (isNumber first') (numbers v mem) (isNumber first) same'
    (isEqual_symm (isNumber first) (numbers v mem) same)

/-- A number is equal to one in a list exactly when it is equal to one of the firsts. -/
theorem any_firsts (numbers : ∀ u ∈ xs, u.IsNumber) (number : v.IsNumber) :
    (firsts xs).any (·.isEqual v) = xs.any (·.isEqual v) := by
  rw [Bool.eq_iff_iff, List.any_eq_true, List.any_eq_true]
  constructor
  · rintro ⟨k, first, same⟩
    exact ⟨k, mem_of_mem_firsts first, same⟩
  · rintro ⟨u, mem, same⟩
    obtain ⟨k, first, same'⟩ := exists_mem_firsts numbers mem
    exact ⟨k, first, isEqual_trans (numbers k (mem_of_mem_firsts first)) (numbers u mem) number
      same' same⟩

/-! ## Keys -/

/-- Looking a number up by equality is looking it up by hash and equality. -/
theorem Denotes.sameKey_eq_hash (h : Hashing) {p q : Quantity} (left : a.Denotes p)
    (right : b.Denotes q) :
    sameKey a b = .ok (h.ofQuantity p == h.ofQuantity q && a.isEqual b) := by
  rw [left.sameKey_eq right, left.isEqual_eq right]
  by_cases same : p.SameValue q
  · rw [h.ofQuantity_eq same, beq_self_eq_true, Bool.true_and]
  · rw [decide_eq_false same, Bool.and_false]

/-- Among numbers a value is found if one that is kept is equal to it. -/
theorem isKept_eq (numbers : ∀ u ∈ xs, u.IsNumber) (number : v.IsNumber) :
    v.isKept xs = .ok (xs.any (·.isEqual v)) := by
  induction xs with
  | nil => rfl
  | cons k kept ih =>
    obtain ⟨p, left⟩ := numbers k List.mem_cons_self
    obtain ⟨q, right⟩ := number
    rw [isKept, left.sameKey_eq right, List.any_cons, left.isEqual_eq right]
    cases decide (p.SameValue q) with
    | true => rfl
    | false => exact ih fun u mem => numbers u (List.mem_cons_of_mem k mem)

/-- One step: a number is kept unless one that is equal to it has been kept. -/
theorem distinct_cons (numbers : ∀ u ∈ xs, u.IsNumber) (number : v.IsNumber) (vs : List Operand) :
    distinct xs (v :: vs) = distinct (if xs.any (·.isEqual v) then xs else xs ++ [v]) vs := by
  have hashable : v.notKey? = none := by
    obtain ⟨q, number⟩ := number
    exact number.notKey?_eq
  rw [distinct, hashable, isKept_eq numbers number]
  cases xs.any (·.isEqual v) <;> rfl

/-- What is kept are the firsts of what was seen. -/
theorem distinct_firsts (seen vs : List Operand) (numbers : ∀ u ∈ seen ++ vs, u.IsNumber) :
    distinct (firsts seen) vs = .ok (firsts (seen ++ vs)) := by
  induction vs generalizing seen with
  | nil => rw [List.append_nil, distinct]
  | cons v vs ih =>
    have before : ∀ u ∈ seen, u.IsNumber := fun u mem => numbers u (List.mem_append_left _ mem)
    have number : v.IsNumber := numbers v (List.mem_append_right _ List.mem_cons_self)
    have regrouped : seen ++ v :: vs = (seen ++ [v]) ++ vs := by simp
    rw [distinct_cons (fun u mem => before u (mem_of_mem_firsts mem)) number, any_firsts before number,
      ← firsts_concat, ih (seen ++ [v]) (regrouped ▸ numbers), regrouped]

end

end Operand

open Operand

/-- **Numbers as keys.** For every list of quantities, integers and fractions the operator `==` compares
without failing and is an equivalence relation on the members; members that are equal have one hash, however
integers, fractions and pairs are hashed, so looking a member up by hash and equality is looking it up by
equality; and the keys that are kept are the members that are equal to no earlier one, in their order. No two
of them are equal, and every member is equal to exactly one of them. -/
theorem distinct_numbers (xs : List Operand) (numbers : ∀ v ∈ xs, v.IsNumber) :
    (∀ a ∈ xs, ∀ b ∈ xs, equals true a b = .ok (.bool (a.isEqual b))) ∧
      Equivalence (fun a b : {v // v ∈ xs} => a.1.isEqual b.1 = true) ∧
      (∀ h : Hashing, ∀ a ∈ xs, ∀ b ∈ xs, ∃ m n, h.ofOperand? a = some m ∧ h.ofOperand? b = some n ∧
        (a.isEqual b = true → m = n) ∧ sameKey a b = .ok (m == n && a.isEqual b)) ∧
      distinct [] xs = .ok (firsts xs) ∧
      (firsts xs).Pairwise (fun a b => a.isEqual b = false) ∧
      ∀ v ∈ xs, ∃! k, k ∈ firsts xs ∧ k.isEqual v = true := by
  refine ⟨fun a memA b memB => ?_, ⟨?_, ?_, ?_⟩, fun h a memA b memB => ?_,
    distinct_firsts [] xs numbers, pairwise_firsts xs, fun v => existsUnique_mem_firsts numbers⟩
  · obtain ⟨p, left⟩ := numbers a memA
    obtain ⟨q, right⟩ := numbers b memB
    refine equals_of_equal left.isArray_eq right.isArray_eq ?_
    rw [left.equal right, left.isEqual_eq right]
  · exact fun a => isEqual_refl (numbers a.1 a.2)
  · exact fun {a b} => isEqual_symm (numbers a.1 a.2) (numbers b.1 b.2)
  · exact fun {a b c} => isEqual_trans (numbers a.1 a.2) (numbers b.1 b.2) (numbers c.1 c.2)
  · obtain ⟨p, left⟩ := numbers a memA
    obtain ⟨q, right⟩ := numbers b memB
    refine ⟨_, _, h.ofOperand?_eq left, h.ofOperand?_eq right, ?_, left.sameKey_eq_hash h right⟩
    rw [left.isEqual_eq right, decide_eq_true_iff]
    exact h.ofQuantity_eq

/-- Hashes of small integers, of one half, and of the pair of the parts of the imaginary unit. -/
def Hashing.ofSmall : Hashing where
  ofInt n := if n = -1 then -2 else n
  ofFraction a := if a.den = 1 then if a.num = -1 then -2 else a.num else 1152921504606846976
  ofPair _ _ := -1950498447580522560
  ofFraction_ofInt _ := if_pos rfl

/-- Two as a rational number, as an integer and as a complex number is one key, which is kept as the rational
number that came first. -/
theorem distinct_two_i_half :
    let two : Operand := .quantity (.rational (.ofInt 2))
    let i : Operand := .quantity (.complex ⟨0, 1⟩)
    let half : Operand := .fraction (.reduce 1 2 Nat.two_pos)
    let xs : List Operand := [two, .int 2, i, .quantity (.complex ⟨.ofInt 2, 0⟩), half]
    (∀ v ∈ xs, v.IsNumber) ∧ distinct [] xs = .ok [two, i, half] ∧
      sameKey two (.int 2) = .ok true ∧ Hashing.ofSmall.ofOperand? two = some 2 ∧
      Hashing.ofSmall.ofOperand? (.int 2) = some 2 ∧
      Hashing.ofSmall.ofOperand? half = some 1152921504606846976 ∧
      Hashing.ofSmall.ofOperand? i = some (-1950498447580522560) := by
  intro two i half xs
  have numbers : ∀ v ∈ xs, v.IsNumber := by
    simp only [xs, List.forall_mem_cons, List.not_mem_nil]
    exact ⟨⟨_, .quantity _⟩, ⟨_, .int 2⟩, ⟨_, .quantity _⟩, ⟨_, .quantity _⟩, ⟨_, .fraction _⟩, nofun⟩
  obtain ⟨-, -, keys, kept, -⟩ := distinct_numbers xs numbers
  have quantities (p q : Quantity) := (Denotes.quantity p).isEqual_eq (.quantity q)
  have onLeft (n : ℤ) (q : Quantity) := (Denotes.int n).isEqual_eq (.quantity q)
  have onRight (p : Quantity) (n : ℤ) := (Denotes.quantity p).isEqual_eq (.int n)
  have fractions (p : Quantity) (a : Rational) := (Denotes.quantity p).isEqual_eq (.fraction a)
  have foreign (n : ℤ) (a : Rational) := (Denotes.int n).isEqual_eq (.fraction a)
  have seen : firsts xs = [two, i, half] := by
    simp +decide [firsts, List.filter_cons, xs, two, i, half, quantities, onLeft, onRight, fractions,
      foreign]
  obtain ⟨m, n, ofTwo, ofInt, one, found⟩ := keys .ofSmall two (by simp [xs]) (.int 2) (by simp [xs])
  refine ⟨numbers, kept.trans (congrArg Except.ok seen), ?_, rfl, rfl, rfl, rfl⟩
  have same : two.isEqual (.int 2) = true := (onRight _ 2).trans (by decide)
  rw [found, one same, same, beq_self_eq_true, Bool.and_self]

end ExactAlgebra
