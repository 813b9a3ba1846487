import ExactAlgebra.Matrix.Operations
import ExactAlgebra.Proofs.Agreement

/-!
# Arguments that are alike

Arguments of one value are turned into quantities of one value, whatever types the numbers are of, with
a few exceptions. A float stands for a close number with a small denominator, but is compared by its exact
value. A truth value is equal to an integer and stands for no number, and neither does a pair of floats.
And where a float and an integer of arrays meet, or two floats of different types, they are rounded before
they are compared. Two arguments are alike if they are the same, or equal numbers without such an
exception.

## Main definitions

* `Operand.Alike`: scalars.
* `Operand.AlikeVectors`, `Operand.AlikeMatrices`: sequences of scalars, and matrices.

## Main statements

* `Operand.Alike.toQuantity`: alike scalars stand for quantities of one value, or fail with one error.
* `Operand.AlikeVectors.vector`: alike sequences are rows of the same values.
-/

namespace ExactAlgebra

/-- The float stands for its exact value, because that has a small denominator. -/
def FloatValue.isExact (x : FloatValue) : Bool :=
  x.toRational?.any fun a => a.den ≤ Rational.floatBound

namespace Operand

variable {a b : Operand}

/-- A number that stands for its exact value. -/
def isExact : Operand → Bool
  | .quantity _ | .int _ | .wordInt _ | .fraction _ | .symbolic .. | .flag _ => true
  | .double bits _ => (BinaryFormat.double.decode bits).isExact
  | .single bits _ => (BinaryFormat.single.decode bits).isExact
  | _ => false

/-- Two floats, or two pairs of floats. -/
def areFloats : Operand → Operand → Bool
  | .double .., .double .. | .double .., .single .. | .single .., .double .. | .single .., .single ..
  | .doublePair .., .doublePair .. => true
  | _, _ => false

/-- Two scalars are alike: they are one value, or equal numbers of the same exact value that both stand
for it or are both floats. -/
inductive Alike : Operand → Operand → Prop
  | same (a : Operand) : Alike a a
  | numbers {a b : Operand} (equal : equal a b = .ok true)
      (unrounded : ∀ x y, a.extended? = some x → b.extended? = some y → x = y)
      (types : (a.isExact && b.isExact || areFloats a b) = true) : Alike a b

/-! ## Equality of numbers -/

/-- Values that are neither sequences nor arrays are compared as single values. -/
theorem equal_eq_samePlain (noList : ∀ xs mark, a ≠ .list xs mark) (noTuple : ∀ xs, a ≠ .tuple xs)
    (left : a.isArray = false) (right : b.isArray = false) : equal a b = samePlain a b := by
  rw [equal, left, right]
  · rfl
  · exact fun xs mark _ _ same => absurd same (noList xs mark)
  · exact fun xs _ same => absurd same (noTuple xs)

theorem equals_of_samePlain {same : Bool} (noList : ∀ xs mark, a ≠ .list xs mark)
    (noTuple : ∀ xs, a ≠ .tuple xs) (left : a.isArray = false) (right : b.isArray = false)
    (plain : samePlain a b = .ok same) : equals true a b = .ok (.bool same) :=
  equals_of_equal left right ((equal_eq_samePlain noList noTuple left right).trans plain)

theorem equal_of_isExact (left : a.isExact = true) (right : b.isExact = true) :
    equal a b = if a.isQuantity || b.isQuantity then sameQuantity a b else .ok (sameNumber a b) := by
  have plain : equal a b = samePlain a b := by
    refine equal_eq_samePlain ?_ ?_ ?_ ?_
    · rintro xs mark rfl
      cases left
    · rintro xs rfl
      cases left
    · cases a <;> first | rfl | cases left
    · cases b <;> first | rfl | cases right
  rw [plain]
  cases a
  case quantity | int | wordInt | fraction | symbolic | flag | double | single => rfl
  all_goals cases left

/-! ## Quantities among the operands -/

theorem ofInt_of_toInt? {a : Rational} {n : ℤ} (whole : a.toInt? = some n) : .ofInt n = a := by
  unfold Rational.toInt? at whole
  split at whole
  · exact Rational.ext (Option.some.inj whole).symm (Eq.symm ‹_›)
  · cases whole

/-- What a number is compared to a quantity by is what it stands for. -/
theorem toQuantity_of_comparable? {p : Quantity} (comparable : a.comparable? = some p) :
    a.toQuantity = .ok p := by
  cases a
  case quantity q => exact congrArg Except.ok (Option.some.inj comparable)
  case int n => exact congrArg Except.ok (Option.some.inj comparable)
  case wordInt n => exact congrArg Except.ok (Option.some.inj comparable)
  case fraction r => exact congrArg Except.ok (Option.some.inj comparable)
  case symbolic re im =>
    simp only [comparable?, toInteger?] at comparable
    by_cases real : im = 0
    · subst real
      rw [if_pos rfl] at comparable
      cases whole : re.toInt? with
      | none => simp [whole] at comparable
      | some n =>
        simp only [whole, Option.some.injEq] at comparable
        rw [← comparable, ofInt_of_toInt? whole]
        rfl
    · simp [real] at comparable
  all_goals cases comparable

/-- Equality with a quantity is equality of the values that are compared. -/
theorem sameValue_of_sameQuantity (same : sameQuantity a b = .ok true) :
    ∃ p q, a.comparable? = some p ∧ b.comparable? = some q ∧ p.SameValue q := by
  have seen (q : Quantity) : (do seenBySymbols q; return false : Except Error Bool) ≠ .ok true := by
    cases seenBySymbols q <;> rintro ⟨⟩
  unfold sameQuantity at same
  split at same
  · exact absurd same (seen _)
  · rename_i p re im
    split at same
    · rename_i q comparable
      exact ⟨p, q, rfl, comparable, of_decide_eq_true (Except.ok.inj same)⟩
    · exact absurd same (seen p)
  · split at same
    · rename_i p q left right
      exact ⟨p, q, left, right, of_decide_eq_true (Except.ok.inj same)⟩
    · cases same

/-! ## Foreign numbers -/

/-- A float with a small denominator stands for its exact value. -/
theorem ofFloat_of_isExact {x : FloatValue} (exact : x.isExact = true) :
    ∃ r, x.toExtended = .finite r ∧ Rational.ofFloat x = .ok r := by
  unfold FloatValue.isExact at exact
  cases value : x.toRational? with
  | none => simp [value] at exact
  | some r =>
    have small : r.den ≤ Rational.floatBound := by simpa [value] using exact
    have closest : Rational.closest Rational.floatBound r = r := if_pos small
    refine ⟨r, ?_, ?_⟩
    · cases x <;> simp_all [FloatValue.toExtended]
    · rw [Rational.ofFloat, Rational.ofFloat?, value, Option.map_some, closest, orFail_some]

/-- The exact value of a foreign number is what it stands for. -/
theorem toQuantity_of_extended? {x : Extended} (exact : a.isExact = true)
    (value : a.extended? = some x) : ∃ r, x = .finite r ∧ a.toQuantity = .ok (.rational r) := by
  cases a
  case int n => exact ⟨_, (Option.some.inj value).symm, rfl⟩
  case wordInt n => exact ⟨_, (Option.some.inj value).symm, rfl⟩
  case fraction r => exact ⟨_, (Option.some.inj value).symm, rfl⟩
  case flag b => exact ⟨_, (Option.some.inj value).symm, rfl⟩
  case symbolic re im =>
    simp only [extended?] at value
    split at value
    · rename_i real
      refine ⟨re, (Option.some.inj value).symm, ?_⟩
      simp only [toQuantity, toRational, real]
      rfl
    · cases value
  case double | single =>
    obtain ⟨r, finite, taken⟩ := ofFloat_of_isExact exact
    exact ⟨r, (Option.some.inj value).symm.trans finite, congrArg (Except.map Quantity.rational) taken⟩
  case quantity q => cases value
  all_goals cases exact

theorem parts?_of_isExact (exact : a.isExact = true) : a.parts? = a.extended?.map fun _ => (a, .int 0) := by
  cases a
  case quantity | int | wordInt | fraction | symbolic | flag | double | single => rfl
  all_goals cases exact

/-- Foreign numbers that are equal stand for one number, or are no real numbers and the same. -/
theorem toQuantity_of_sameNumber (left : a.isExact = true) (right : b.isExact = true)
    (unrounded : ∀ x y, a.extended? = some x → b.extended? = some y → x = y)
    (same : sameNumber a b = true) : a.toQuantity = b.toQuantity := by
  unfold sameNumber at same
  split at same
  · simp only [Bool.and_eq_true, beq_iff_eq] at same
    rw [same.1, same.2]
  · split at same
    · cases same
    · rw [parts?_of_isExact left, parts?_of_isExact right] at same
      cases valueLeft : a.extended? with
      | none => simp [valueLeft] at same
      | some x =>
        cases valueRight : b.extended? with
        | none => simp [valueLeft, valueRight] at same
        | some y =>
          obtain ⟨r, rfl, ofLeft⟩ := toQuantity_of_extended? left valueLeft
          obtain ⟨s, rfl, ofRight⟩ := toQuantity_of_extended? right valueRight
          obtain rfl := Extended.finite.inj (unrounded _ _ valueLeft valueRight)
          rw [ofLeft, ofRight]

/-! ## Floats -/

/-- A finite float stands for the closest number with a small denominator. -/
theorem ofFloat_finite (negative : Bool) (significand : ℕ) (power : ℤ) :
    ∃ r, (FloatValue.finite negative significand power).toExtended = .finite r ∧
      Rational.ofFloat (.finite negative significand power) = .ok (r.closest Rational.floatBound) :=
  ⟨_, rfl, rfl⟩

/-- Floats of one value stand for one number, or are refused as one infinity or as undefined. -/
theorem ofFloat_of_toExtended_eq {x y : FloatValue} (same : x.toExtended = y.toExtended) :
    Rational.ofFloat x = Rational.ofFloat y := by
  cases x with
  | finite negative significand power =>
    obtain ⟨r, value, taken⟩ := ofFloat_finite negative significand power
    rw [value] at same
    cases y with
    | finite negative' significand' power' =>
      obtain ⟨s, value', taken'⟩ := ofFloat_finite negative' significand' power'
      rw [value'] at same
      rw [taken, taken', Extended.finite.inj same]
    | infinite | undefined => cases same
  | infinite negative =>
    cases y with
    | infinite negative' => rw [Extended.infinite.inj same]
    | finite | undefined => cases same
  | undefined =>
    cases y with
    | undefined => rfl
    | finite | infinite => cases same

theorem toQuantity_of_areFloats (floats : areFloats a b = true)
    (unrounded : ∀ x y, a.extended? = some x → b.extended? = some y → x = y) :
    a.toQuantity = b.toQuantity := by
  unfold areFloats at floats
  split at floats
  case h_5 => rfl
  case h_6 => cases floats
  all_goals
    exact congrArg (Except.map Quantity.rational) (ofFloat_of_toExtended_eq (unrounded _ _ rfl rfl))

/-! ## Scalars -/

/-- **Alike scalars stand for quantities of one value, or are refused with one error.** -/
theorem Alike.toQuantity (alike : a.Alike b) : Agree Quantity.SameValue a.toQuantity b.toQuantity := by
  cases alike with
  | same => exact .refl Quantity.SameValue.refl _
  | numbers equal unrounded types =>
    rcases Bool.or_eq_true_iff.mp types with exact | floats
    · obtain ⟨left, right⟩ := Bool.and_eq_true_iff.mp exact
      rw [equal_of_isExact left right] at equal
      split at equal
      · obtain ⟨p, q, ofLeft, ofRight, same⟩ := sameValue_of_sameQuantity equal
        rw [toQuantity_of_comparable? ofLeft, toQuantity_of_comparable? ofRight]
        exact .ok same
      · rw [toQuantity_of_sameNumber left right unrounded (Except.ok.inj equal)]
        exact .refl Quantity.SameValue.refl _
    · rw [toQuantity_of_areFloats floats unrounded]
      exact .refl Quantity.SameValue.refl _

/-- Whether a divisor is zero does not depend on which of the alike ones is taken. -/
theorem Alike.divisor (alike : a.Alike b) :
    Agree Quantity.SameValue (Matrix.divisor a) (Matrix.divisor b) := by
  refine alike.toQuantity.bind fun p q same => ?_
  rw [same.isZero_eq]
  split
  · exact .error _
  · exact .ok same

/-! ## Sequences and matrices -/

/-- Two vectors are alike: they are one value, or lists or tuples of alike scalars. -/
inductive AlikeVectors : Operand → Operand → Prop
  | same (v : Operand) : AlikeVectors v v
  | lists {xs ys : List Operand} (parts : List.Forall₂ Alike xs ys) (mark mark' : Mark) :
    AlikeVectors (.list xs mark) (.list ys mark')
  | tuples {xs ys : List Operand} (parts : List.Forall₂ Alike xs ys) :
    AlikeVectors (.tuple xs) (.tuple ys)

/-- Two arguments are alike where a matrix is expected: they are one value, or equal matrices. -/
inductive AlikeMatrices : Operand → Operand → Prop
  | same (v : Operand) : AlikeMatrices v v
  | matrices {m o : Matrix} (same : m.SameValues o) (mark mark' : Mark) :
    AlikeMatrices (.matrix m mark) (.matrix o mark')

variable {v w : Operand}

/-- **Alike vectors are rows of the same values**, or are refused with one error. -/
theorem AlikeVectors.vector (alike : v.AlikeVectors w) (size : ℕ) (fault : ShapeFault) :
    Agree Row.SameValues (Matrix.vector size fault v) (Matrix.vector size fault w) := by
  have converted {xs ys : List Operand} (parts : List.Forall₂ Alike xs ys) :
      Agree Row.SameValues
        (if h : size = xs.length then Vector.ofFnM fun i => (xs.get (i.cast h)).toQuantity
          else .error (.shape fault))
        (if h : size = ys.length then Vector.ofFnM fun i => (ys.get (i.cast h)).toQuantity
          else .error (.shape fault)) := by
    obtain ⟨lengths, alike⟩ := List.forall₂_iff_get.mp parts
    by_cases fits : size = xs.length
    · rw [dif_pos fits, dif_pos (fits.trans lengths)]
      exact Agree.ofFnM fun i => (alike i _ _).toQuantity
    · rw [dif_neg fits, dif_neg (lengths ▸ fits)]
      exact .error _
  cases alike with
  | same => exact .refl (fun r j => .refl (r.get j)) _
  | lists parts => exact converted parts
  | tuples parts => exact converted parts

theorem AlikeMatrices.addend (alike : v.AlikeMatrices w) (shape : List ℕ) :
    Agree Matrix.SameValues (v.addend shape) (w.addend shape) := by
  cases alike with
  | same => exact .refl Matrix.SameValues.refl _
  | matrices same => exact .ok same

theorem AlikeMatrices.multiplier (alike : v.AlikeMatrices w) :
    Agree Matrix.SameValues v.multiplier w.multiplier := by
  cases alike with
  | same => exact .refl Matrix.SameValues.refl _
  | matrices same => exact .ok same

end Operand

end ExactAlgebra
