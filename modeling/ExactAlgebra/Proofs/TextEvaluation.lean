import ExactAlgebra.Proofs.Evaluation
import ExactAlgebra.Proofs.NumberText
import ExactAlgebra.Proofs.Quotients

/-!
# Texts of numbers as expressions

The text of a number is an expression as well, but not always of that number. A minus is taken as a sign and
the plus as a sum, which makes no difference. The bar is a division, and the imaginary unit belongs to the
digits before it: where the reader of numbers takes `n/di` for the fraction `n/d` of the unit, the expression
is `n` divided by `di`. There is no quotient then, since the real part of the divisor is zero.

So evaluating gives the number back if no bar stands in the imaginary part, and otherwise it fails as a
division by zero.

## Main definitions

* `Rational.tree`, `Gaussian.tree`: the syntax trees of the texts of numbers.
* `Quantity.IsPart`: a quantity with nothing but a real part, or nothing but an imaginary part.

## Main statements

* `Gaussian.grammatical_text`: the text of a number is an expression with this tree.
* `Gaussian.value_tree`: the value of the tree.
* `Quantity.evaluate_text`: the outcome of the text.
-/

namespace ExactAlgebra

open Expression

/-! ## Digits -/

/-- The digits of ASCII have their usual values. There are more digits in the table, for the scripts of other
languages, but these come first in it. -/
theorem digitValue?_of_isDigit {c : Char} (digit : c.isDigit = true) :
    Text.digitValue? c = some (c.toNat - '0'.toNat) := by
  obtain ⟨least, greatest⟩ := Char.isDigit_iff_toNat.mp digit
  -- The ASCII digits come first in the table of scripts.
  have found : Text.zeros.find? (fun z => z ≤ c.toNat && c.toNat < z + 10) = some 0x30 := by
    refine List.find?_cons_of_pos ?_
    rw [Bool.and_eq_true, decide_eq_true_iff, decide_eq_true_iff]
    exact ⟨least, Nat.lt_succ_of_le greatest⟩
  rw [Text.digitValue?, found]
  rfl

theorem isDigit_of_mem_toDigits {n : ℕ} {c : Char} (mem : c ∈ Nat.toDigits 10 n) :
    Text.isDigit c = true := by
  rw [Text.isDigit, digitValue?_of_isDigit (isDigit_of_mem_decimal mem)]
  rfl

theorem number_toDigits (n : ℕ) : Text.number (Nat.toDigits 10 n) = n := by
  have ascii : Text.number (Nat.toDigits 10 n) = Nat.ofDigitChars 10 (Nat.toDigits 10 n) 0 := by
    refine List.foldl_ext _ _ 0 fun m c mem => ?_
    rw [digitValue?_of_isDigit (isDigit_of_mem_decimal mem)]
    rfl
  rw [ascii, Nat.ofDigitChars_ten_toDigits]

/-! ## Trees -/

/-- The tree of an integer, with the imaginary unit or not. -/
def integerTree (n : ℤ) (unit : Bool) : SyntaxTree :=
  if n < 0 then .negative (.numeral (Nat.toDigits 10 n.natAbs) unit)
  else .numeral (Nat.toDigits 10 n.natAbs) unit

/-- The tree of the text of a rational number, with the imaginary unit after it or not. The unit belongs to
the last integer. -/
def Rational.tree (a : Rational) (unit : Bool) : SyntaxTree :=
  if a.den = 1 then integerTree a.num unit
  else .binary .divide (integerTree a.num false) (.numeral (Nat.toDigits 10 a.den) unit)

/-- The tree of the text of a complex number. -/
def Gaussian.tree (z : Gaussian) : SyntaxTree :=
  if z.im.isZero then z.re.tree false
  else if z.re.isZero then z.im.tree true
  else .binary .add (z.re.tree false) (z.im.tree true)

/-- The imaginary unit, or nothing. -/
def unitText (unit : Bool) : List Char := if unit then [imaginaryUnit] else []

section Derivations

variable {p next : Option Char} {unit : Bool}

/-- Digits with the unit or not are a number, unless more digits stand next to them. -/
theorem derives_numeral (n : ℕ) (before : ∀ c ∈ p, Text.isDigit c = false)
    (after : unit = false → ∀ c ∈ next, Text.isDigit c = false) :
    Derives .atom p (Nat.toDigits 10 n ++ unitText unit) next (.numeral (Nat.toDigits 10 n) unit) := by
  have digits : ∀ c ∈ Nat.toDigits 10 n, Text.isDigit c = true := fun c => isDigit_of_mem_toDigits
  cases unit with
  | true => exact .unit digits fun _ => before
  | false =>
    rw [unitText, if_neg Bool.false_ne_true, List.append_nil]
    exact .digits Nat.toDigits_ne_nil digits before (after rfl)

/-- An integer is an operand with a sign in front or without one. Its digits end where no digit follows, and
with the imaginary unit they may be followed by anything. -/
theorem derives_integerTree (n : ℤ) (before : ∀ c ∈ p, Text.isDigit c = false)
    (after : unit = false → ∀ c ∈ next, Text.isDigit c = false) :
    Derives .factor p (integerText n ++ unitText unit) next (integerTree n unit) := by
  unfold integerText integerTree
  split
  · exact .negative (.atom (derives_numeral _ (by rintro _ ⟨⟩; rfl) after))
  · exact .atom (derives_numeral _ before after)

/-- The bar of a fraction is a division, of the numerator by the denominator or, in an imaginary part, by the
denominator together with the unit. -/
theorem Rational.derives_tree (a : Rational) (before : ∀ c ∈ p, Text.isDigit c = false)
    (after : unit = false → ∀ c ∈ next, Text.isDigit c = false) :
    Derives .term p (a.text ++ unitText unit) next (a.tree unit) := by
  unfold Rational.text Rational.tree
  split
  · exact .factor (derives_integerTree a.num before after)
  · have num : Derives .factor p (integerText a.num ++ unitText false) (some '/')
        (integerTree a.num false) :=
      derives_integerTree a.num before (by rintro _ _ ⟨⟩; rfl)
    have den := derives_numeral a.den (p := some '/') (by rintro _ ⟨⟩; rfl) after
    rw [unitText, if_neg Bool.false_ne_true, List.append_nil] at num
    rw [List.append_assoc]
    exact .product .divide (Or.inr rfl) (.factor num) (.atom den)

end Derivations

/-- The plus of a number with two parts is a sum. Each part is a term, also when it is negative, for a minus in
front belongs to the operand. -/
theorem Gaussian.derives_tree (z : Gaussian) : Derives .sum none z.text none z.tree := by
  have real (a : Rational) (next : Option Char) (after : ∀ c ∈ next, Text.isDigit c = false) :
      Derives .term none a.text next (a.tree false) := by
    have derived : Derives .term none (a.text ++ unitText false) next (a.tree false) :=
      a.derives_tree nofun fun _ => after
    rwa [unitText, if_neg Bool.false_ne_true, List.append_nil] at derived
  unfold Gaussian.text Gaussian.tree
  split
  · exact .term (real z.re none nofun)
  · split
    · have im : Derives .term none (z.im.text ++ unitText true) none (z.im.tree true) :=
        z.im.derives_tree nofun nofun
      exact .term im
    · have re : Derives .sum none z.re.text (some '+') (z.re.tree false) :=
        .term (real z.re _ (by rintro _ ⟨⟩; rfl))
      have im : Derives .term (some '+') (z.im.text ++ unitText true) none (z.im.tree true) :=
        z.im.derives_tree (by rintro _ ⟨⟩; rfl) nofun
      exact .sum .add (Or.inl rfl) re im

/-! ## Minuses -/

/-- No two minuses stand side by side. -/
abbrev LoneMinuses (s : List Char) : Prop := s.IsChain fun a b => a ≠ '-' ∨ b ≠ '-'

namespace LoneMinuses

variable {s s' : List Char} {c : Char}

/-- A chain of characters without two minuses in a row has them nowhere inside, which is the form in which the
grammar asks for it. -/
theorem not_infix (lone : LoneMinuses s) : ¬ ['-', '-'] <:+: s := by
  intro double
  have minuses : LoneMinuses ['-', '-'] := List.IsChain.infix lone double
  exact (List.isChain_pair.mp minuses).elim (absurd rfl) (absurd rfl)

theorem of_not_mem (none : '-' ∉ s) : LoneMinuses s := by
  induction s with
  | nil => exact List.isChain_nil
  | cons a s ih =>
    have first : a ≠ '-' := fun minus => none (minus ▸ List.mem_cons_self)
    exact List.isChain_cons.mpr
      ⟨fun _ _ => Or.inl first, ih fun mem => none (List.mem_cons_of_mem _ mem)⟩

theorem append (lone : LoneMinuses s) (lone' : LoneMinuses s') (other : c ≠ '-') :
    LoneMinuses (s ++ c :: s') := by
  refine List.isChain_append.mpr ⟨lone, List.isChain_cons.mpr ⟨fun _ _ => Or.inl other, lone'⟩, ?_⟩
  intro a _ b head
  cases head
  exact Or.inr other

end LoneMinuses

theorem minus_not_mem_toDigits (n : ℕ) : '-' ∉ Nat.toDigits 10 n := fun mem =>
  ne_of_isDigit (isDigit_of_mem_decimal mem) rfl rfl

theorem loneMinuses_integerText (n : ℤ) : LoneMinuses (integerText n) := by
  have digits := minus_not_mem_toDigits n.natAbs
  unfold integerText
  split
  · refine List.isChain_cons.mpr ⟨fun c head => Or.inr ?_, LoneMinuses.of_not_mem digits⟩
    rintro rfl
    exact digits (List.mem_of_mem_head? head)
  · exact LoneMinuses.of_not_mem digits

/-- In a fraction the minus belongs to the numerator, and the denominator is positive. So the two integers add
no pair of minuses. -/
theorem Rational.loneMinuses_text (a : Rational) : LoneMinuses a.text := by
  unfold Rational.text
  split
  · exact loneMinuses_integerText a.num
  · exact (loneMinuses_integerText a.num).append (LoneMinuses.of_not_mem (minus_not_mem_toDigits a.den))
      (by decide)

/-- In a complex number the plus stands between the two parts, and a minus of the second part comes after it. -/
theorem Gaussian.loneMinuses_text (z : Gaussian) : LoneMinuses z.text := by
  have unit (a : Rational) : LoneMinuses (a.text ++ [imaginaryUnit]) :=
    a.loneMinuses_text.append List.isChain_nil (by decide)
  unfold Gaussian.text
  split
  · exact z.re.loneMinuses_text
  · split
    · exact unit z.im
    · exact z.re.loneMinuses_text.append (unit z.im) (by decide)

/-! ## The text as an expression -/

/-- Nothing is replaced, dropped or added in the text of a number. -/
theorem normalForm_of_numerals {s : List Char} (numerals : ∀ c ∈ s, isNumeral c = true) :
    normalForm (String.ofList s) = s := by
  have same : ∀ c ∈ s, parenthesis c = c := fun c mem => by
    unfold parenthesis
    split
    · cases numerals _ mem
    · cases numerals _ mem
    · rfl
  have blanks : Text.removeBlanks s = s := List.filter_eq_self.mpr fun c mem => by
    rw [isBlank_of_printable (toNat_of_isNumeral (numerals c mem))]
    rfl
  have plain : normalized s = s := by
    rw [normalized, List.map_congr_left same, List.map_id', blanks]
  have opening : s.count '(' = 0 := List.count_eq_zero.mpr fun mem => by cases numerals _ mem
  rw [normalForm, String.toList_ofList, plain, opening, Nat.zero_sub, List.replicate_zero, List.append_nil]

/-- **The text of a number is an expression.** -/
theorem Gaussian.grammatical_text (z : Gaussian) :
    Grammatical (normalForm (String.ofList z.text)) z.tree := by
  rw [normalForm_of_numerals fun c => z.isNumeral_of_mem_text]
  exact ⟨z.derives_tree, z.loneMinuses_text.not_infix⟩

/-! ## Values -/

/-- The quantity has the number as its imaginary part, or as its real part, and no other part. -/
structure Quantity.IsPart (v : Quantity) (unit : Bool) (x : ℚ) : Prop where
  re : v.re = if unit then 0 else x
  im : v.im = if unit then x else 0

/-- The value of a numeral has nothing but a real part, or nothing but an imaginary part if it is written with
the unit. -/
theorem isPart_numeralValue (n : ℕ) (unit : Bool) :
    (Token.numeralValue (Nat.toDigits 10 n) unit).IsPart unit n := by
  have some : (Nat.toDigits 10 n).isEmpty = false := List.isEmpty_eq_false_iff.mpr Nat.toDigits_ne_nil
  rw [Token.numeralValue, number_toDigits, some]
  cases unit with
  | false => exact ⟨rfl, rfl⟩
  | true => exact ⟨rfl, rfl⟩

theorem Quantity.IsPart.neg {v : Quantity} {unit : Bool} {x : ℚ} (part : v.IsPart unit x) :
    (-v).IsPart unit (-x) := by
  constructor
  · rw [re_neg, part.re]
    cases unit <;> simp
  · rw [im_neg, part.im]
    cases unit <;> simp

/-- An integer is evaluated to itself, or to the multiple of the unit. The sign is applied after the digits have
become a number. -/
theorem value_integerTree (n : ℤ) (unit : Bool) :
    ∃ v, (integerTree n unit).value = .ok v ∧ v.IsPart unit n := by
  have part := isPart_numeralValue n.natAbs unit
  unfold integerTree
  split
  case isTrue negative =>
    have value : (n : ℚ) = -(n.natAbs : ℚ) := by
      rw [← Int.cast_natCast, Int.ofNat_natAbs_of_nonpos negative.le, Int.cast_neg, neg_neg]
    exact ⟨_, rfl, value ▸ part.neg⟩
  case isFalse nonneg =>
    have value : (n : ℚ) = (n.natAbs : ℚ) := by
      rw [← Int.cast_natCast, Int.natAbs_of_nonneg (not_lt.mp nonneg)]
    exact ⟨_, rfl, value ▸ part⟩

namespace Rational

/-- A fraction is divided by its denominator. -/
theorem value_tree_real (a : Rational) : ∃ v, (a.tree false).value = .ok v ∧ v.IsPart false a.toRat := by
  obtain ⟨num, valueNum, partNum⟩ := value_integerTree a.num false
  unfold tree
  split
  case isTrue whole =>
    have value : a.toRat = a.num := by
      rw [toRat_eq_div, whole, Nat.cast_one, div_one]
    exact ⟨num, valueNum, value ▸ partNum⟩
  case isFalse =>
    have partDen := isPart_numeralValue a.den false
    have nonzero : (Token.numeralValue (Nat.toDigits 10 a.den) false).re ≠ 0 := by
      rw [partDen.re]
      exact Nat.cast_ne_zero.mpr a.den_pos.ne'
    obtain ⟨q, quotient, real, value⟩ := Quantity.divide?_of_isReal
      (Quantity.isReal_iff.mpr partNum.im) (Quantity.isReal_iff.mpr partDen.im) nonzero
    refine ⟨q, ?_, ?_, Quantity.isReal_iff.mp real⟩
    · rw [SyntaxTree.value, valueNum]
      exact orFail_eq_ok.mpr quotient
    · rw [value, partNum.re, partDen.re, toRat_eq_div]
      rfl

/-- With the unit there is a value if there is no bar. -/
theorem value_tree_imaginary {a : Rational} (whole : a.den = 1) :
    ∃ v, (a.tree true).value = .ok v ∧ v.IsPart true a.toRat := by
  have value : a.toRat = a.num := by
    rw [toRat_eq_div, whole, Nat.cast_one, div_one]
  rw [tree, if_pos whole, value]
  exact value_integerTree a.num true

/-- **A multiple of the unit divides nothing**, so with a bar there is none. -/
theorem value_tree_fraction {a : Rational} (fraction : a.den ≠ 1) :
    (a.tree true).value = .error .divisionByZero := by
  obtain ⟨num, valueNum, -⟩ := value_integerTree a.num false
  rw [tree, if_neg fraction, SyntaxTree.value, valueNum]
  exact Quantity.divide_eq_error_iff.mpr (Or.inl (isPart_numeralValue a.den true).re)

end Rational

namespace Gaussian

/-- If no bar stands in the imaginary part, the tree has the value of the number. -/
theorem value_tree {z : Gaussian} (whole : z.im.den = 1) :
    ∃ v, z.tree.value = .ok v ∧ v.SameValue (.complex z) := by
  obtain ⟨a, valueRe, partRe⟩ := z.re.value_tree_real
  obtain ⟨b, valueIm, partIm⟩ := Rational.value_tree_imaginary whole
  unfold tree
  split
  case isTrue real =>
    refine ⟨a, valueRe, Quantity.sameValue_iff.mpr ⟨partRe.re, ?_⟩⟩
    rw [partRe.im, Quantity.im_complex, Rational.isZero_iff.mp real]
    rfl
  case isFalse =>
    split
    case isTrue imaginary =>
      refine ⟨b, valueIm, Quantity.sameValue_iff.mpr ⟨?_, partIm.im⟩⟩
      rw [partIm.re, Quantity.re_complex, Rational.isZero_iff.mp imaginary]
      rfl
    case isFalse =>
      refine ⟨a + b, ?_, Quantity.sameValue_iff.mpr ⟨?_, ?_⟩⟩
      · rw [SyntaxTree.value, valueRe, valueIm]
        rfl
      · rw [Quantity.re_add, partRe.re, partIm.re]
        exact add_zero _
      · rw [Quantity.im_add, partRe.im, partIm.im]
        exact zero_add _

/-- A fraction of the unit is no number for expressions: the unit belongs to the denominator there, and by a
purely imaginary number nothing can be divided. So evaluating fails, whatever the real part is. -/
theorem value_tree_fraction {z : Gaussian} (fraction : z.im.den ≠ 1) :
    z.tree.value = .error .divisionByZero := by
  have im : ¬ z.im.isZero = true := fun zero => fraction (by rw [Rational.isZero_iff.mp zero]; rfl)
  have failed := Rational.value_tree_fraction fraction
  obtain ⟨a, valueRe, -⟩ := z.re.value_tree_real
  rw [tree, if_neg im]
  split
  · exact failed
  · rw [SyntaxTree.value, valueRe, failed]
    rfl

end Gaussian

namespace Quantity

/-- The text is evaluated as its tree. -/
theorem outcome_evaluate_text (q : Quantity) :
    (evaluate (toString q)).outcome = q.toGaussian.tree.value := by
  have text : toString q = String.ofList q.toGaussian.text := congrArg String.ofList q.text_eq_toGaussian
  have grammatical := q.toGaussian.grammatical_text
  rw [← text] at grammatical
  obtain ⟨n, built⟩ := build_of_grammatical grammatical
  rw [outcome_evaluate, built]
  exact value_of_derives grammatical.1

/-- **The text of a number as an expression.** If the imaginary part has no denominator, as in every real
number, evaluating the text gives a value equal to the number. Otherwise it is a division by zero, though the
number is read back from the same text. -/
theorem evaluate_text (q : Quantity) :
    (q.toGaussian.im.den = 1 → ∃ v, (evaluate (toString q)).outcome = .ok v ∧
        Operand.equals true (.quantity v) (.quantity q) = .ok (.bool true)) ∧
      (q.isReal = true → q.toGaussian.im.den = 1) ∧
      (q.toGaussian.im.den ≠ 1 → (evaluate (toString q)).outcome = .error .divisionByZero ∧
        ∃ r, read (toString q).toList = .ok r ∧
          Operand.equals true (.quantity r) (.quantity q) = .ok (.bool true)) := by
  have equal {v : Quantity} (same : v.SameValue q) :
      Operand.equals true (.quantity v) (.quantity q) = .ok (.bool true) := by
    rw [equals_quantity, decide_eq_true same]
  rw [outcome_evaluate_text]
  refine ⟨fun whole => ?_, fun real => ?_, fun fraction => ?_⟩
  · obtain ⟨v, value, same⟩ := Gaussian.value_tree whole
    exact ⟨v, value, equal same⟩
  · have zero : q.toGaussian.im = 0 := Rational.toRat_eq_zero.mp (isReal_iff.mp real)
    rw [zero]
    rfl
  · refine ⟨Gaussian.value_tree_fraction fraction, q.demote, ?_, equal q.demote_sameValue⟩
    rw [← q.read_text]
    exact congrArg read String.toList_ofList

/-- A fraction as the real part and a negative coefficient do no harm, a fraction as the coefficient
does. -/
theorem evaluate_half_minus_three_i :
    (∃ v, (evaluate "1/2+-3i").outcome = .ok v ∧ v.re = 1 / 2 ∧ v.im = -3) ∧
      (evaluate "3/4i").outcome = .error .divisionByZero := by
  let q : Quantity := .complex ⟨⟨1, 2, by decide, by decide⟩, .ofInt (-3)⟩
  let r : Quantity := .complex ⟨0, ⟨3, 4, by decide, by decide⟩⟩
  constructor
  · obtain ⟨v, value, same⟩ := q.evaluate_text.1 rfl
    rw [equals_quantity, Except.ok.injEq, Operand.bool.injEq, decide_eq_true_iff, sameValue_iff] at same
    have half : ((1 : ℤ) / (2 : ℕ) : ℚ) = 1 / 2 := by norm_num
    exact ⟨v, value, same.1.trans ((Rational.toRat_eq_div _).trans half), same.2⟩
  · exact (r.evaluate_text.2.2 (by decide)).1

end Quantity

end ExactAlgebra
