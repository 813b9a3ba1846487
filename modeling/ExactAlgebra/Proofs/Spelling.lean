import ExactAlgebra.Proofs.Evaluation
import Mathlib.Logic.Relation

/-!
# Spellings of an expression

Many texts are checked and completed to one expression. Blanks make no difference anywhere, square brackets
are parentheses, and closing parentheses at the end may be left out, since they are added again. The text of
the expression is one of its spellings.

The check comes before the closing parentheses are added, and looks at neighbours and at the last character.
It sees the same in both texts. An operator at the end is refused as the last character of the one and as the
neighbour of a closing parenthesis in the other.

## Main definitions

* `Expression.flaw?`: what the check finds wrong with a text.
* `Expression.completed`, `Expression.ofChecked`: the text and the expression that a text is completed to.
* `Expression.Respell`: one change of the spelling.

## Main statements

* `Expression.build_eq`: checking and completing in terms of these.
* `Expression.flaw?_completed`: completing a text changes nothing for the check.
* `Expression.build_respelled`: all spellings are built to the same expression.
-/

namespace ExactAlgebra.Expression

/-! ## Checking and completing -/

/-- What the check finds wrong with a text that has no brackets and no blanks. -/
def flaw? (s : List Char) : Option SyntaxFault :=
  if s.isEmpty then some .empty
  else if s.count '(' < s.count ')' then some .unbalanced
  else if operatorsFit s then none
  else some .misplacedOperator

/-- The text with the missing closing parentheses at its end. -/
def completed (s : List Char) : List Char :=
  s ++ List.replicate (s.count '(' - s.count ')') ')'

/-- The expression that a text without a flaw is completed to. -/
def ofChecked (s : List Char) : Expression := ⟨completed s, s.count '('⟩

variable {s : List Char}

/-- Nothing is wrong with a text if it is not empty, has no more closing parentheses than opening ones, and has
its operators in places where they may stand. -/
theorem flaw?_eq_none_iff :
    flaw? s = none ↔ s ≠ [] ∧ s.count ')' ≤ s.count '(' ∧ operatorsFit s = true := by
  unfold flaw?
  split_ifs <;> simp_all

/-- Building an expression is checking the text without brackets and blanks, and completing it. A fault is
reported with the text as it was given. -/
theorem build_eq (text : String) : build text =
    (flaw? (normalized text.toList)).elim (.ok (ofChecked (normalized text.toList)))
      fun f => .error (.expression (some text) f) := by
  dsimp only [build, flaw?]
  cases operatorsFit (normalized text.toList) with
  | true => split_ifs <;> first | rfl | contradiction
  | false => split_ifs <;> first | rfl | contradiction

/-- An expression is built just if there is nothing wrong with the normalized text, and it is what this is
completed to. Nothing else of the text has an influence. -/
theorem build_eq_ok_iff {text : String} {e : Expression} :
    build text = .ok e ↔
      flaw? (normalized text.toList) = none ∧ ofChecked (normalized text.toList) = e := by
  rw [build_eq]
  cases flaw? (normalized text.toList) with
  | some f => exact iff_of_false nofun fun both => nomatch both.1
  | none => simp

/-! ## Closing parentheses at the end -/

/-- The end of a text counts as a closing parenthesis, as its start counts as an opening one. -/
theorem operatorsFit_eq (s : List Char) : operatorsFit s = neighboursFit '(' (s ++ [')']) := by
  have fits : Fits ('(' :: (s ++ [')'])) ↔
      Fits ('(' :: s) ∧ (s.getLast?.any Operation.isSymbol) = false := by
    rw [← List.cons_append, Fits, List.isChain_append, and_iff_right (List.isChain_singleton _)]
    refine and_congr_right fun _ => ?_
    rw [List.getLast?_cons]
    cases s.getLast? <;> simp [mayFollow_closing, show Operation.isSymbol '(' = false from rfl]
  rw [Bool.eq_iff_iff, operatorsFit, Bool.and_eq_true, neighboursFit_iff, neighboursFit_iff, fits,
    Bool.not_eq_true', and_comm]

/-- A closing parenthesis at the end makes no difference to the check of operators. If the text ends with an
operator this is refused either way, once as the last character and once as the neighbour of the parenthesis. -/
theorem operatorsFit_concat (s : List Char) : operatorsFit (s ++ [')']) = operatorsFit s := by
  have last : ((s ++ [')']).getLast?.any Operation.isSymbol) = false := by
    rw [List.getLast?_concat]
    rfl
  rw [operatorsFit, last, operatorsFit_eq]
  rfl

theorem operatorsFit_append_replicate (s : List Char) (n : ℕ) :
    operatorsFit (s ++ List.replicate n ')') = operatorsFit s := by
  induction n with
  | zero => rw [List.replicate_zero, List.append_nil]
  | succ n ih => rw [List.replicate_succ', ← List.append_assoc, operatorsFit_concat, ih]

/-- Completing adds as many closing parentheses as are missing, and nothing else that is counted. -/
theorem count_completed (s : List Char) :
    (completed s).count '(' = s.count '(' ∧
      (completed s).count ')' = s.count ')' + (s.count '(' - s.count ')') := by
  rw [completed, List.count_append, List.count_append, List.count_replicate_self, List.count_replicate,
    if_neg (by decide)]
  exact ⟨rfl, rfl⟩

theorem completed_completed (s : List Char) : completed (completed s) = completed s := by
  have complete : (completed s).count '(' - (completed s).count ')' = 0 := by
    rw [(count_completed s).1, (count_completed s).2]
    omega
  rw [completed, complete, List.replicate_zero, List.append_nil]

/-- A completed text is completed to itself, and the number of parentheses is counted again as it was. -/
theorem ofChecked_completed (s : List Char) : ofChecked (completed s) = ofChecked s := by
  rw [ofChecked, completed_completed, (count_completed s).1, ofChecked]

/-- **Completing a text changes nothing for the check.** -/
theorem flaw?_completed (s : List Char) : flaw? (completed s) = flaw? s := by
  have empty : (completed s).isEmpty = s.isEmpty := by
    cases s <;> rfl
  have unbalanced : (completed s).count '(' < (completed s).count ')' ↔ s.count '(' < s.count ')' := by
    rw [(count_completed s).1, (count_completed s).2]
    omega
  have fit : operatorsFit (completed s) = operatorsFit s := operatorsFit_append_replicate s _
  simp only [flaw?, empty, unbalanced, fit]

/-- A closing parenthesis that is left out at the end is added again. -/
theorem ofChecked_of_concat (sound : flaw? (s ++ [')']) = none) :
    flaw? s = none ∧ ofChecked s = ofChecked (s ++ [')']) := by
  obtain ⟨-, enough, fit⟩ := flaw?_eq_none_iff.mp sound
  have opening : (s ++ [')']).count '(' = s.count '(' := by simp
  have closing : (s ++ [')']).count ')' = s.count ')' + 1 := by simp
  rw [opening, closing] at enough
  have ne : s ≠ [] := by
    rintro rfl
    exact absurd enough (by decide)
  refine ⟨flaw?_eq_none_iff.mpr ⟨ne, by omega, operatorsFit_concat s ▸ fit⟩, ?_⟩
  have more : s.count '(' - s.count ')' = s.count '(' - (s.count ')' + 1) + 1 := by omega
  rw [ofChecked, ofChecked, completed, completed, opening, closing, more, List.replicate_succ,
    List.append_assoc, List.singleton_append]

/-! ## Blanks and brackets -/

theorem parenthesis_eq_self {c : Char} (opening : c ≠ '[') (closing : c ≠ ']') : parenthesis c = c := by
  unfold parenthesis
  split
  · exact absurd rfl opening
  · exact absurd rfl closing
  · rfl

/-- What a bracket is replaced by is a parenthesis, which stays as it is. So replacing brackets twice does
nothing more. -/
theorem parenthesis_parenthesis (c : Char) : parenthesis (parenthesis c) = parenthesis c := by
  by_cases opening : c = '['
  · rw [opening]
    rfl
  by_cases closing : c = ']'
  · rw [closing]
    rfl
  rw [parenthesis_eq_self opening closing, parenthesis_eq_self opening closing]

/-- What is left of a text has no brackets and no blanks. -/
theorem of_mem_normalized {cs : List Char} {c : Char} (mem : c ∈ normalized cs) :
    parenthesis c = c ∧ Text.isBlank c = false := by
  rw [normalized, Text.removeBlanks, List.mem_filter, List.mem_map, Bool.not_eq_true'] at mem
  obtain ⟨⟨c', -, rfl⟩, solid⟩ := mem
  exact ⟨parenthesis_parenthesis c', solid⟩

/-- A text without square brackets and without blanks is in normal form: it is read as it stands. -/
theorem normalized_eq_self {s : List Char}
    (plain : ∀ c ∈ s, parenthesis c = c ∧ Text.isBlank c = false) : normalized s = s := by
  have same : s.map parenthesis = s := List.map_congr_left (fun c mem => (plain c mem).1) |>.trans s.map_id
  rw [normalized, same]
  exact List.filter_eq_self.mpr fun c mem => by rw [(plain c mem).2]; rfl

/-- The text of an expression is in normal form, as the characters that were added to it are parentheses. So it
can be built again from its own text. -/
theorem normalized_completed (cs : List Char) :
    normalized (completed (normalized cs)) = completed (normalized cs) := by
  refine normalized_eq_self fun c mem => ?_
  rcases List.mem_append.mp mem with inner | added
  · exact of_mem_normalized inner
  · rw [List.eq_of_mem_replicate added]
    decide

/-! ## Changes of the spelling -/

/-- One change of the spelling: a blank anywhere, a bracket for a parenthesis or the reverse, or a closing
parenthesis at the end that is left out. -/
inductive Respell : List Char → List Char → Prop
  /-- A blank is put in. -/
  | insert (before after : List Char) {b : Char} :
      Text.isBlank b = true → Respell (before ++ after) (before ++ b :: after)
  /-- A blank is taken out. -/
  | remove (before after : List Char) {b : Char} :
      Text.isBlank b = true → Respell (before ++ b :: after) (before ++ after)
  /-- A parenthesis is written as another bracket that stands for the same. -/
  | bracket (before after : List Char) {c c' : Char} :
      parenthesis c = parenthesis c' → Respell (before ++ c :: after) (before ++ c' :: after)
  /-- The last character is a closing parenthesis and is left out. -/
  | leaveOut (before : List Char) {c : Char} :
      parenthesis c = ')' → Respell (before ++ [c]) before

/-- The normal form is made character by character; this is what shows that a change at one place has no effect
elsewhere. -/
theorem normalized_cons (c : Char) (cs : List Char) :
    normalized (c :: cs) = normalized [c] ++ normalized cs :=
  normalized_append [c] cs

/-- A blank leaves nothing in the normal form. It is no bracket, so it is not replaced by something else
first. -/
theorem normalized_blank {b : Char} (blank : Text.isBlank b = true) : normalized [b] = [] := by
  have other : parenthesis b = b := by
    apply parenthesis_eq_self
    all_goals
      rintro rfl
      cases blank
  rw [normalized, List.map_singleton, other, Text.removeBlanks, List.filter_singleton, blank]
  rfl

/-- Two characters that are read as one parenthesis leave the same in the normal form. -/
theorem normalized_singleton_congr {c c' : Char} (same : parenthesis c = parenthesis c') :
    normalized [c] = normalized [c'] := by
  rw [normalized, normalized, List.map_singleton, List.map_singleton, same]

/-- A change of the spelling leaves the text without brackets and blanks as it is, or takes a closing
parenthesis from its end. -/
theorem Respell.normalized_cases {cs cs' : List Char} (change : Respell cs cs') :
    normalized cs' = normalized cs ∨ normalized cs = normalized cs' ++ [')'] := by
  cases change with
  | insert before after blank =>
    left
    rw [normalized_append, normalized_append, normalized_cons, normalized_blank blank, List.nil_append]
  | remove before after blank =>
    left
    rw [normalized_append, normalized_append, normalized_cons, normalized_blank blank, List.nil_append]
  | bracket before after same =>
    left
    rw [normalized_append, normalized_append, normalized_cons, normalized_cons _ after,
      normalized_singleton_congr same]
  | @leaveOut before c closing =>
    right
    have last : parenthesis c = parenthesis ')' := closing
    rw [normalized_append, normalized_singleton_congr last]
    rfl

/-- One change of the spelling keeps the expression. -/
theorem Respell.keeps {cs cs' : List Char} (change : Respell cs cs')
    (sound : flaw? (normalized cs) = none) :
    flaw? (normalized cs') = none ∧ ofChecked (normalized cs') = ofChecked (normalized cs) := by
  rcases change.normalized_cases with same | shorter
  · rw [same]
    exact ⟨sound, rfl⟩
  · rw [shorter] at sound ⊢
    exact ofChecked_of_concat sound

/-- So do any number of changes, one after the other. -/
theorem keeps_of_respelled {cs cs' : List Char} (changes : Relation.ReflTransGen Respell cs cs')
    (sound : flaw? (normalized cs) = none) :
    flaw? (normalized cs') = none ∧ ofChecked (normalized cs') = ofChecked (normalized cs) := by
  induction changes with
  | refl => exact ⟨sound, rfl⟩
  | tail _ change ih =>
    obtain ⟨sound', same⟩ := ih
    obtain ⟨sound'', same'⟩ := change.keeps sound'
    exact ⟨sound'', same'.trans same⟩

/-! ## Spellings of one expression -/

/-- Texts that are built to one expression have one value, or one error: evaluation looks at a text only by
building it. -/
theorem evaluate_congr {text text' : String} (same : build text' = build text) :
    ExactAlgebra.evaluate text' = ExactAlgebra.evaluate text := by
  unfold ExactAlgebra.evaluate
  rw [same]

/-- The text of an expression is one of its spellings. -/
theorem build_text {text : String} {e : Expression} (built : build text = .ok e) :
    build (String.ofList e.text) = .ok e := by
  obtain ⟨sound, rfl⟩ := build_eq_ok_iff.mp built
  rw [build_eq_ok_iff, String.toList_ofList]
  show flaw? (normalized (completed _)) = none ∧ ofChecked (normalized (completed _)) = _
  rw [normalized_completed, flaw?_completed, ofChecked_completed]
  exact ⟨sound, rfl⟩

/-- **All spellings are built to the same expression**, which is what its text is built to as well. So the
text, the pairs of parentheses and the operators are the same for all of them, and so is what they are
evaluated to. -/
theorem build_respelled {text : String} {e : Expression} (built : build text = .ok e) :
    (build (String.ofList e.text) = .ok e ∧
        ExactAlgebra.evaluate (String.ofList e.text) = ExactAlgebra.evaluate text) ∧
      ∀ text' : String, Relation.ReflTransGen Respell text.toList text'.toList →
        build text' = .ok e ∧ ExactAlgebra.evaluate text' = ExactAlgebra.evaluate text := by
  constructor
  · have again := build_text built
    exact ⟨again, evaluate_congr (again.trans built.symm)⟩
  · intro text' changes
    obtain ⟨sound, rfl⟩ := build_eq_ok_iff.mp built
    have built' := build_eq_ok_iff.mpr (keeps_of_respelled changes sound)
    exact ⟨built', evaluate_congr (built'.trans built.symm)⟩

/-- Two closing brackets are left out, an opening one is a parenthesis, and there is a blank before it. -/
theorem build_without_closing_brackets :
    build "(2)[(1+i)]" = .ok ⟨"(2)((1+i))".toList, 3⟩ ∧ build "(2) ((1+i" = .ok ⟨"(2)((1+i))".toList, 3⟩ ∧
      ExactAlgebra.evaluate "(2) ((1+i" = ExactAlgebra.evaluate "(2)[(1+i)]" := by
  have built : build "(2)[(1+i)]" = .ok ⟨"(2)((1+i))".toList, 3⟩ := rfl
  have changes : Relation.ReflTransGen Respell "(2)[(1+i)]".toList "(2) ((1+i".toList := by
    have first : Respell "(2)[(1+i)]".toList "(2)[(1+i)".toList := .leaveOut "(2)[(1+i)".toList rfl
    have second : Respell "(2)[(1+i)".toList "(2)[(1+i".toList := .leaveOut "(2)[(1+i".toList rfl
    have third : Respell "(2)[(1+i".toList "(2)((1+i".toList := .bracket "(2)".toList "(1+i".toList rfl
    have fourth : Respell "(2)((1+i".toList "(2) ((1+i".toList := .insert "(2)".toList "((1+i".toList rfl
    exact .tail (.tail (.tail (.single first) second) third) fourth
  exact ⟨built, (build_respelled built).2 _ changes⟩

end ExactAlgebra.Expression
