import ExactAlgebra.Matrix.Operations
import ExactAlgebra.Operand.Operators
import ExactAlgebra.Proofs.ComplexValues
import ExactAlgebra.Proofs.Evaluation
import ExactAlgebra.Proofs.Powers

/-!
# Kinds are never given up

The kind of a result is decided by the kinds of what it is made of, and never by values: a sum that comes
to lie on the real axis stays complex, and a cell that elimination makes zero does too. So kinds can be
foretold. A combination of two quantities has the wider of their kinds, a cell of a product the widest kind
of its row and its column, and a reduced matrix the kind that it had before. The value of a text is complex
when an imaginary unit stands outside of all exponents; inside an exponent only the integer counts that the
exponent comes to.

## Main definitions

* `Quantity.widestKind`: the widest kind among some quantities.
* `SyntaxTree.exposures`: the imaginary units of a tree, and whether they stand outside of all exponents.

## Main statements

* `Quantity.kind_of_combine`, `Quantity.kind_of_combine_pow`: operations on quantities.
* `Grid.kind_cell_multiply`: products.
* `Grid.kind_of_echelon`, `Grid.kind_of_reducedEchelon`: reductions.
* `SyntaxTree.kind_of_value`: values of trees.
* `kinds_are_kept`: all of these.
-/

namespace ExactAlgebra

namespace NumberKind

/-- The wider of two kinds is that of the plane as soon as one of them is. Every statement about kinds is
brought to this form, since then it says only where a complex quantity can be found. -/
@[simp] theorem widest_eq_complex {j k : NumberKind} :
    j.widest k = .complex ↔ j = .complex ∨ k = .complex := by
  cases j <;> cases k <;> simp [widest]

/-- Two kinds are the same when both or none of them is that of the plane. -/
theorem eq_iff {j k : NumberKind} : j = k ↔ (j = .complex ↔ k = .complex) := by
  cases j <;> cases k <;> simp

end NumberKind

namespace Quantity

/-! ## Operations on quantities -/

/-- A quotient is of the wider kind of dividend and divisor, if there is one: dividing by a complex one makes a
rational number complex without changing its value. -/
theorem kind_of_divide {p q r : Quantity} (quotient : p.divide q = .ok r) :
    r.kind = p.kind.widest q.kind :=
  kind_of_divide? (orFail_eq_ok.mp quotient)

/-- A power is of the kind of its base, also when the exponent is negative. -/
theorem kind_of_pow {q r : Quantity} {n : ℤ} (power : q.pow n = .ok r) : r.kind = q.kind := by
  rw [pow, orFail_eq_ok, pow?] at power
  split at power
  · rw [kind_of_divide? power, kind_oneOf, kind_powNat, NumberKind.widest_self]
  · obtain rfl := Option.some.inj power
    exact kind_powNat q n.natAbs

/-- The kind of the result of an operation: that of the base for powers, and the wider one of the two operands
otherwise. Whether there is a result does not matter to it. -/
theorem kind_of_apply {o : Operation} {p q r : Quantity} (result : o.apply p q = .ok r) :
    r.kind = if o = .pow then p.kind else p.kind.widest q.kind := by
  cases o with
  | add =>
    obtain rfl := Except.ok.inj result
    exact kind_add p q
  | subtract =>
    obtain rfl := Except.ok.inj result
    exact (kind_add p (-q)).trans (congrArg _ (kind_neg q))
  | multiply =>
    obtain rfl := Except.ok.inj result
    exact kind_mul p q
  | divide => exact kind_of_divide result
  | pow =>
    obtain ⟨n, -, power⟩ := of_bind_ok result
    exact kind_of_pow power

/-- Sums, differences, products and quotients are of the wider kind. -/
theorem kind_of_combine {o : Operation} {p q r : Quantity} (field : o ≠ .pow)
    (result : p.combine o (.quantity q) = .ok r) : r.kind = p.kind.widest q.kind := by
  have applied : o.apply p q = .ok r := by
    cases o with
    | pow => exact absurd rfl field
    | add | subtract | multiply | divide => exact result
  rw [kind_of_apply applied, if_neg field]

/-- The right operand of a power has no influence on the kind of the result. It may be any value that stands for
an integer, of whatever sort, and only the integer counts. -/
theorem kind_of_combine_pow {p r : Quantity} {v : Operand} (result : p.combine .pow v = .ok r) :
    r.kind = p.kind := by
  obtain ⟨n, -, power⟩ := of_bind_ok result
  exact kind_of_pow power

/-! ## The widest kind -/

/-- The widest kind among some quantities. -/
def widestKind (qs : List Quantity) : NumberKind := qs.foldl (fun k q => k.widest q.kind) .rational

/-- The widest kind among some quantities is that of the plane if one of them is complex. The induction is on
the list, for any kind to begin with. -/
theorem widestKind_eq_complex {qs : List Quantity} :
    widestKind qs = .complex ↔ ∃ q ∈ qs, q.kind = .complex := by
  have from_ (k : NumberKind) :
      qs.foldl (fun k q => k.widest q.kind) k = .complex ↔ k = .complex ∨ ∃ q ∈ qs, q.kind = .complex := by
    induction qs generalizing k with
    | nil => simp
    | cons q qs ih => rw [List.foldl_cons, ih, NumberKind.widest_eq_complex, List.exists_mem_cons_iff,
      or_assoc]
  rw [widestKind, from_]
  simp

/-- The sum of some products is complex as soon as one factor of one of them is. -/
theorem kind_sum_of_products {pairs : List (Quantity × Quantity)} {q : Quantity} :
    (pairs.foldl (fun total pair => total + pair.1 * pair.2) q).kind = .complex ↔
      q.kind = .complex ∨ (∃ a ∈ pairs.map Prod.fst, a.kind = .complex) ∨
        ∃ b ∈ pairs.map Prod.snd, b.kind = .complex := by
  induction pairs generalizing q with
  | nil => simp
  | cons pair pairs ih =>
    rw [List.foldl_cons, ih, kind_add, kind_mul, NumberKind.widest_eq_complex,
      NumberKind.widest_eq_complex, List.map_cons, List.map_cons, List.exists_mem_cons_iff,
      List.exists_mem_cons_iff]
    simp only [or_assoc, or_left_comm]

/-- A scalar product is of the widest kind among both its vectors. -/
theorem kind_dotProduct {v u : List Quantity} (lengths : v.length = u.length) :
    (dotProduct v u).kind = widestKind (v ++ u) := by
  have rational : (0 : Quantity).kind ≠ .complex := by decide
  rw [NumberKind.eq_iff, dotProduct, kind_sum_of_products, List.map_fst_zip lengths.le,
    List.map_snd_zip lengths.ge, widestKind_eq_complex, or_iff_right rational]
  simp only [List.mem_append, or_and_right, exists_or]

end Quantity

namespace Grid

open Quantity

variable {m n p : ℕ} {g h : Grid m n}

/-! ## Kinds of grids -/

/-- A grid is complex as soon as one of its cells is. From here on kinds of grids are compared by asking for
such a cell. -/
theorem kind_eq_complex : g.kind = .complex ↔ ∃ (i : Fin m) (j : Fin n), (g.cell i j).kind = .complex := by
  have widest : g.kind = widestKind g.cells := rfl
  rw [widest, widestKind_eq_complex]
  constructor
  · rintro ⟨q, mem, complex⟩
    obtain ⟨i, j, rfl⟩ := mem_cells.mp mem
    exact ⟨i, j, complex⟩
  · rintro ⟨i, j, complex⟩
    exact ⟨g.cell i j, mem_cells.mpr ⟨i, j, rfl⟩, complex⟩

/-- A cell of a product is of the widest kind in its row and its column. -/
theorem kind_cell_multiply (g : Grid m n) (h : Grid n p) (i : Fin m) (j : Fin p) :
    ((g.multiply h).cell i j).kind = widestKind ((g.get i).toList ++ (h.column j).toList) := by
  have column : h.transpose.get j = h.column j := Vector.ext fun r lt => by
    simpa [cell, get_eq_getElem, column] using h.cell_transpose j ⟨r, lt⟩
  rw [multiply, cell_ofFn, column, kind_dotProduct (by simp)]

/-- Cells that become wider only by kinds that the grid has already leave its kind as it was. -/
theorem kind_eq_of_widened (cells : ∀ (i : Fin m) (j : Fin n), ∃ k : NumberKind,
    (h.cell i j).kind = (g.cell i j).kind.widest k ∧ (k = .complex → g.kind = .complex)) :
    h.kind = g.kind := by
  rw [NumberKind.eq_iff]
  constructor
  · intro complex
    obtain ⟨i, j, complex⟩ := kind_eq_complex.mp complex
    obtain ⟨k, widened, present⟩ := cells i j
    rw [widened, NumberKind.widest_eq_complex] at complex
    exact complex.elim (fun kept => kind_eq_complex.mpr ⟨i, j, kept⟩) present
  · intro complex
    obtain ⟨i, j, complex⟩ := kind_eq_complex.mp complex
    obtain ⟨k, widened, -⟩ := cells i j
    exact kind_eq_complex.mpr ⟨i, j, by rw [widened, complex, NumberKind.complex_widest]⟩

/-! ## Operations of an elimination -/

/-- An exchange of rows leaves the kind of a grid as it was: each cell stands somewhere in the other grid, in
the row that it was exchanged with. -/
theorem kind_swapRows (g : Grid m n) (a b : Fin m) : (g.swapRows a b).kind = g.kind := by
  have cells (i : Fin m) (j : Fin n) : (g.swapRows a b).cell i j = g.cell (Equiv.swap a b i) j := by
    rw [cell, get_swapRows, Equiv.swap_apply_def]
    split_ifs <;> rfl
  rw [NumberKind.eq_iff, kind_eq_complex, kind_eq_complex]
  simp only [cells]
  exact (Equiv.swap a b).surjective.exists (p := fun i => ∃ j, (g.cell i j).kind = .complex).symm

/-- A multiple of one row of a grid that is added to another makes no cell wider than the grid is. -/
theorem kind_addMultiple (g : Grid m n) (i k : Fin m) {scalar : Quantity}
    (present : scalar.kind = .complex → g.kind = .complex) (j : Fin n) : ∃ l : NumberKind,
      (((g.get i).addMultiple (g.get k) scalar).get j).kind = (g.cell i j).kind.widest l ∧
        (l = .complex → g.kind = .complex) := by
  refine ⟨(g.cell k j * scalar).kind, ?_, fun complex => ?_⟩
  · rw [Row.get_addMultiple, kind_add]
  · rw [kind_mul, NumberKind.widest_eq_complex] at complex
    exact complex.elim (fun kept => kind_eq_complex.mpr ⟨k, j, kept⟩) present

/-- A row that is kept as it was, in the form in which the rows of a changed grid are asked for: each cell is
widened by the narrowest kind, which is to say by nothing. -/
theorem kind_kept (g : Grid m n) (i : Fin m) (j : Fin n) : ∃ l : NumberKind,
    (g.cell i j).kind = (g.cell i j).kind.widest l ∧ (l = .complex → g.kind = .complex) :=
  ⟨.rational, (NumberKind.widest_rational _).symm, fun complex => by cases complex⟩

/-- **Clearing below a pivot keeps the kind of the grid.** A cell gets wider by the kinds of the pivot, of the
cell to be cleared, or of a cell in the row of the pivot, and all of these are in the grid already. That a cell
becomes zero does not make it narrower. -/
theorem kind_of_clearBelow? {k : Fin m} {c : Fin n} (cleared : g.clearBelow? k c = some h) :
    h.kind = g.kind := by
  refine kind_eq_of_widened fun i j => ?_
  have row := of_ofFnM_eq_some cleared i
  split at row
  · rw [cell, ← Option.some.inj row]
    exact g.kind_kept i j
  · obtain ⟨factor, quotient, made⟩ := Option.map_eq_some_iff.mp row
    rw [cell, ← made]
    refine g.kind_addMultiple i k (fun complex => ?_) j
    rw [kind_neg, kind_of_divide? quotient, NumberKind.widest_eq_complex] at complex
    exact complex.elim (fun upper => kind_eq_complex.mpr ⟨i, c, upper⟩)
      fun lower => kind_eq_complex.mpr ⟨k, c, lower⟩

/-- Dividing the rows by their leading cells keeps the kind of the grid. Cells may become wider than they were,
but only where a leading cell of the same row is complex. -/
theorem kind_of_normalize? (normal : g.normalize? = some h) : h.kind = g.kind := by
  refine kind_eq_of_widened fun i j => ?_
  have row := of_ofFnM_eq_some normal i
  split at row
  · rw [cell, ← Option.some.inj row]
    exact g.kind_kept i j
  · next c _ =>
    have quotient := of_ofFnM_eq_some row j
    exact ⟨(g.cell i c).kind, kind_of_divide? quotient, fun complex => kind_eq_complex.mpr ⟨i, c, complex⟩⟩

/-- Clearing above a leading cell keeps the kind, for the same reason as clearing below one, with the cell to be
cleared as the factor itself. -/
theorem kind_clearAbove (g : Grid m n) (i : Fin m) (c : Fin n) : (g.clearAbove i c).kind = g.kind := by
  refine kind_eq_of_widened fun r j => ?_
  rw [cell, clearAbove, get_ofFn]
  split
  · exact g.kind_kept r j
  · refine g.kind_addMultiple r i (fun complex => ?_) j
    rw [kind_neg] at complex
    exact kind_eq_complex.mpr ⟨r, c, complex⟩

/-- Nor does the kind change when this is done for all rows, from the last to the first. The induction is on the
rows that are left, whatever these do. -/
theorem kind_clearLeading (leading : Vector (Option (Fin n)) m) (g : Grid m n) :
    (clearLeading leading g).kind = g.kind := by
  unfold clearLeading
  induction List.finRange m with
  | nil => rfl
  | cons i rows ih =>
    rw [List.foldr_cons, ← ih, clearLead]
    split
    · rfl
    · exact kind_clearAbove _ i _

/-! ## Reductions -/

/-- One step after the other keeps the kind of the grid. -/
theorem kind_of_eliminate {steps : List ℕ} (result : (eliminate steps g).result? = some h) :
    h.kind = g.kind := by
  induction steps generalizing g with
  | nil =>
    obtain rfl := Option.some.inj result
    rfl
  | cons k steps ih =>
    rw [eliminate] at result
    split at result
    case isFalse =>
      obtain rfl := Option.some.inj result
      rfl
    case isTrue below =>
      split at result
      · obtain rfl := Option.some.inj result
        rfl
      · next r c _ =>
        split at result
        · cases result
        · next cleared clear => rw [ih result, kind_of_clearBelow? clear, kind_swapRows]

/-- The echelon form of a grid has the kind of the grid, also of a grid of one row, which is no more than
copied. -/
theorem kind_of_echelon (result : g.echelon.result? = some h) : h.kind = g.kind := by
  rw [echelon] at result
  split at result
  · obtain rfl := Option.some.inj result
    rfl
  · exact kind_of_eliminate result

/-- **Reduced forms have the kind of the grid that they were made of**: each of the three passes keeps it. -/
theorem kind_of_reducedEchelon (result : g.reducedEchelon.result? = some h) : h.kind = g.kind := by
  obtain ⟨r, reduced, rest⟩ := Option.bind_eq_some_iff.mp result
  obtain ⟨normal, divided, rfl⟩ := Option.map_eq_some_iff.mp rest
  rw [kind_clearLeading, kind_of_normalize? divided, kind_of_echelon reduced]

end Grid

namespace Matrix

/-- The cells of a product, through the operation on matrices. The shapes are said to be equal first, since only
then a cell of the product has a row and a column to be compared with. -/
theorem kind_multiply (m : Matrix) {o p : Matrix} (product : m.multiply o = .ok p) :
    ∃ (rows : m.rowCount = p.rowCount) (columns : o.columnCount = p.columnCount),
      ∀ i j, (p.grid.cell (Fin.cast rows i) (Fin.cast columns j)).kind =
        Quantity.widestKind ((m.grid.get i).toList ++ (o.grid.column j).toList) := by
  obtain ⟨form, r, c, g, rows, columns, square⟩ := o
  rw [multiply] at product
  split at product
  case isFalse => cases product
  case isTrue fits =>
    obtain rfl := Except.ok.inj product
    obtain rfl : r = m.columnCount := fits
    refine ⟨rfl, rfl, fun i j => ?_⟩
    rw [Grid.cast_rfl]
    exact Grid.kind_cell_multiply m.grid g i j

/-- A change that puts the result of an elimination in place, or nothing, keeps the kind of the matrix when
the elimination does. -/
theorem kind_mutate_of_elimination (m : Matrix) {change : Mutation}
    {e : Elimination m.rowCount m.columnCount} (reduces : m.edit change = .ofElimination m.grid e)
    (kept : ∀ h, e.result? = some h → h.kind = m.grid.kind) : (m.mutate change).1.kind = m.kind := by
  rw [mutate]
  split
  · rfl
  · show (m.edit change).grid.kind = m.grid.kind
    rw [reduces, Edit.ofElimination]
    cases result : e.result? with
    | none => rfl
    | some h => exact kept h result

/-- Reducing a matrix keeps its kind, whether the reduction gets to its end, is stopped halfway for want of a
quotient, or is refused. In the last two cases the matrix stays as it was. -/
theorem kind_reduce (m : Matrix) : (m.mutate .reduce).1.kind = m.kind :=
  m.kind_mutate_of_elimination rfl fun _ => Grid.kind_of_echelon

/-- The same is true of full reduction; it differs from the former only in what is done to the grid. -/
theorem kind_reduceFully (m : Matrix) : (m.mutate .reduceFully).1.kind = m.kind :=
  m.kind_mutate_of_elimination rfl fun _ => Grid.kind_of_reducedEchelon

end Matrix

/-! ## Imaginary units of a text -/

/-- The imaginary units of a tree from left to right; for each of them, whether it stands outside of the
right operands of all powers. -/
def SyntaxTree.exposures : SyntaxTree → List Bool
  | .numeral _ unit => if unit then [true] else []
  | .negative operand => operand.exposures
  | .binary .pow base exponent => base.exposures ++ exponent.exposures.map fun _ => false
  | .binary _ left right => left.exposures ++ right.exposures

/-- An operation has the imaginary units of both its operands, one after the other, and loses none. In an
exponent they are only marked as hidden. -/
theorem SyntaxTree.length_exposures_binary (o : Operation) (l r : SyntaxTree) :
    (binary o l r).exposures.length = l.exposures.length + r.exposures.length := by
  cases o <;> simp [exposures]

/-- A unit that is not hidden stays so under every operation, unless it stands in the exponent of a power. -/
theorem SyntaxTree.mem_exposures_binary (o : Operation) (l r : SyntaxTree) :
    true ∈ (binary o l r).exposures ↔ true ∈ l.exposures ∨ (o ≠ .pow ∧ true ∈ r.exposures) := by
  cases o <;> simp [exposures]

/-- No operator is written with the letter of the imaginary unit, so that all the letters in a text belong to
numerals. -/
theorem Operation.symbol_ne_unitLetter (o : Operation) : o.symbol ≠ 'i' := by
  cases o <;> decide

/-- The imaginary units of a tree are the letters `i` of its text. -/
theorem Derives.length_exposures {k : Category} {p n : Option Char} {s : List Char} {t : SyntaxTree}
    (derived : Derives k p s n t) : t.exposures.length = s.count 'i' := by
  induction derived with
  | term _ ih | factor _ ih | atom _ ih => exact ih
  | sum o _ _ _ first last | product o _ _ _ first last =>
    rw [SyntaxTree.length_exposures_binary, first, last, List.count_append,
      List.count_cons_of_ne o.symbol_ne_unitLetter]
  | adjoined _ _ _ first last =>
    rw [SyntaxTree.length_exposures_binary, first, last, List.count_append]
  | power _ _ first last =>
    rw [SyntaxTree.length_exposures_binary, first, last, List.count_append,
      List.count_cons_of_ne (by decide)]
  | negative _ ih => rw [List.count_cons_of_ne (by decide), ← ih, SyntaxTree.exposures]
  | digits _ digits =>
    rw [count_eq_zero_of_digits digits rfl]
    rfl
  | unit digits =>
    rw [List.count_append, count_eq_zero_of_digits digits rfl]
    rfl
  | parentheses _ ih =>
    rw [List.count_cons_of_ne (by decide), List.count_append, ← ih]
    rfl

/-- Neither blanks nor brackets are imaginary units, so a text has as many as its normal form. -/
theorem Expression.count_unit_normalForm (text : String) :
    (normalForm text).count 'i' = text.toList.count 'i' := by
  have unit (c : Char) : (parenthesis c == 'i') = (c == 'i') := by
    unfold parenthesis
    split <;> rfl
  have brackets : (text.toList.map parenthesis).count 'i' = text.toList.count 'i' := by
    rw [List.count_eq_countP, List.countP_map, List.count_eq_countP]
    exact List.countP_congr fun c _ => by rw [Function.comp_apply, unit]
  have added (k : ℕ) : (List.replicate k ')').count 'i' = 0 := by
    rw [List.count_replicate, if_neg (by decide)]
  rw [normalForm, List.count_append, added, add_zero, normalized, Text.removeBlanks,
    List.count_filter (by decide), brackets]

/-- **The kind of a value**: complex when an imaginary unit stands outside of all exponents. -/
theorem SyntaxTree.kind_of_value {t : SyntaxTree} {v : Quantity} (value : t.value = .ok v) :
    v.kind = .complex ↔ true ∈ t.exposures := by
  induction t generalizing v with
  | numeral ds unit =>
    obtain rfl := Except.ok.inj value
    cases unit <;> simp [exposures, Token.numeralValue, Quantity.kind]
  | negative operand ih =>
    obtain ⟨a, inner, outer⟩ := of_bind_ok value
    obtain rfl := Except.ok.inj outer
    rw [Quantity.kind_neg]
    exact ih inner
  | binary o left right ih ih' =>
    obtain ⟨a, first, rest⟩ := of_bind_ok value
    obtain ⟨b, second, result⟩ := of_bind_ok rest
    rw [Quantity.kind_of_apply result, mem_exposures_binary, ← ih first, ← ih' second]
    split
    case isTrue power => simp [power]
    case isFalse field => simp [field]

/-- A text with a value says something. -/
theorem exists_grammatical_of_outcome {text : String} {v : Quantity}
    (ok : (evaluate text).outcome = .ok v) : ∃ t, Grammatical (Expression.normalForm text) t := by
  rw [outcome_evaluate] at ok
  obtain ⟨e, built, value⟩ := of_bind_ok ok
  obtain ⟨same, fit⟩ := Expression.of_build_ok built
  obtain ⟨t, derived⟩ := Expression.exists_derives_of_value value
  rw [same] at derived
  exact ⟨t, derived, single_of_operatorsFit fit _⟩

/-- The value of a text is that of what it says. -/
theorem outcome_of_grammatical {text : String} {t : SyntaxTree}
    (grammatical : Grammatical (Expression.normalForm text) t) : (evaluate text).outcome = t.value := by
  obtain ⟨n, built⟩ := Expression.build_of_grammatical grammatical
  rw [outcome_evaluate, built]
  exact Expression.value_of_derives grammatical.1

/-- **Kinds are never given up.** A successful sum, difference, product or quotient has the wider kind of
its operands, a negative and a power have the kind of the operand. Each cell of a product of matrices has
the widest kind in its row of the first matrix and its column of the second. Row reductions leave the kind of
a matrix as it was. And the value of a text is complex exactly when one of the imaginary units of the text
stands outside of the exponents of all powers. -/
theorem kinds_are_kept :
    (∀ (o : Operation) (a b c : Quantity), o ≠ .pow → a.combine o (.quantity b) = .ok c →
      c.kind = a.kind.widest b.kind) ∧
    (∀ a : Quantity, (-a).kind = a.kind) ∧
    (∀ (a c : Quantity) (exponent : Operand), a.combine .pow exponent = .ok c → c.kind = a.kind) ∧
    (∀ m o p : Matrix, m.multiply o = .ok p →
      ∃ (rows : m.rowCount = p.rowCount) (columns : o.columnCount = p.columnCount),
        ∀ i j, (p.grid.cell (Fin.cast rows i) (Fin.cast columns j)).kind =
          Quantity.widestKind ((m.grid.get i).toList ++ (o.grid.column j).toList)) ∧
    (∀ m : Matrix, (m.mutate .reduce).1.kind = m.kind ∧ (m.mutate .reduceFully).1.kind = m.kind) ∧
    ∀ (text : String) (v : Quantity), (evaluate text).outcome = .ok v →
      (∃ t, Grammatical (Expression.normalForm text) t) ∧
        ∀ t, Grammatical (Expression.normalForm text) t →
          t.exposures.length = text.toList.count 'i' ∧ (v.kind = .complex ↔ true ∈ t.exposures) := by
  refine ⟨fun o a b c => Quantity.kind_of_combine, Quantity.kind_neg,
    fun a c exponent => Quantity.kind_of_combine_pow, ?_,
    fun m => ⟨m.kind_reduce, m.kind_reduceFully⟩, fun text v ok => ⟨?_, fun t grammatical => ⟨?_, ?_⟩⟩⟩
  · intro m o p product
    exact m.kind_multiply product
  · exact exists_grammatical_of_outcome ok
  · rw [grammatical.1.length_exposures, Expression.count_unit_normalForm]
  · rw [outcome_of_grammatical grammatical] at ok
    exact SyntaxTree.kind_of_value ok

/-- What `2^(i*i)` says. -/
theorem grammatical_two_to_the_square_of_i :
    Grammatical (Expression.normalForm "2^(i*i)")
      (.binary .pow (.numeral ['2'] false) (.binary .multiply (.numeral [] true) (.numeral [] true))) := by
  have two : Derives .atom none ['2'] (some '^') (.numeral ['2'] false) :=
    .digits (List.cons_ne_nil _ _) (List.forall_mem_singleton.mpr rfl) (by rintro _ ⟨⟩) (by rintro _ ⟨⟩; rfl)
  have unit (p n : Option Char) : Derives .factor p ([] ++ ['i']) n (.numeral [] true) :=
    .atom (.unit (List.forall_mem_nil _) (absurd rfl))
  have square : Derives .sum (some '(') ['i', '*', 'i'] (some ')')
      (.binary .multiply (.numeral [] true) (.numeral [] true)) :=
    .term (.product .multiply (Or.inl rfl) (.factor (unit _ _)) (unit _ _))
  have power : Derives .sum none (['2'] ++ '^' :: ['(', 'i', '*', 'i', ')']) none
      (.binary .pow (.numeral ['2'] false) (.binary .multiply (.numeral [] true) (.numeral [] true))) :=
    .term (.factor (.power two (.atom (.parentheses square))))
  exact ⟨power, by decide⟩

/-- The number `i` and its square, which stays complex; the product of the row of `0i` and `1` with the column
of two ones; and `2^(i*i)`, which is rational. -/
theorem kinds_are_kept_of_i :
    let i := Quantity.complex ⟨0, 1⟩
    let half := Quantity.rational (.reduce 1 2 Nat.two_pos)
    let m := Matrix.ofGrid (#v[#v[.complex 0, 1]] : Grid 1 2) Nat.one_pos Nat.two_pos
    let o := Matrix.ofGrid (#v[#v[1], #v[1]] : Grid 2 1) Nat.two_pos Nat.one_pos
    let p := Matrix.ofGrid (#v[#v[.complex 1]] : Grid 1 1) Nat.one_pos Nat.one_pos
    i.combine .add (.quantity 1) = .ok (.complex ⟨1, 1⟩) ∧
      (Quantity.complex ⟨1, 1⟩).kind = i.kind.widest (1 : Quantity).kind ∧
      i.combine .pow (.int 2) = .ok (.complex ⟨-1, 0⟩) ∧ (Quantity.complex ⟨-1, 0⟩).kind = i.kind ∧
      m.multiply o = .ok p ∧
      (∃ (rows : m.rowCount = p.rowCount) (columns : o.columnCount = p.columnCount),
        ∀ i j, (p.grid.cell (Fin.cast rows i) (Fin.cast columns j)).kind =
          Quantity.widestKind ((m.grid.get i).toList ++ (o.grid.column j).toList)) ∧
      (evaluate "2^(i*i)").outcome = .ok half ∧ (half.kind = .complex ↔ true ∈ [false, false]) := by
  intro i half m o p
  obtain ⟨field, -, power, product, -, texts⟩ := kinds_are_kept
  have sum : i.combine .add (.quantity 1) = .ok (.complex ⟨1, 1⟩) := by cbv
  have square : i.combine .pow (.int 2) = .ok (.complex ⟨-1, 0⟩) := by cbv
  have cells : Grid.multiply #v[#v[.complex 0, 1]] (Grid.cast rfl rfl #v[#v[1], #v[1]]) =
      (#v[#v[.complex 1]] : Grid 1 1) := by decide +kernel
  have row : m.multiply o = .ok p :=
    congrArg (fun g => Except.ok (Matrix.ofGrid g Nat.one_pos Nat.one_pos)) cells
  have value : (evaluate "2^(i*i)").outcome = .ok half := by
    rw [outcome_of_grammatical grammatical_two_to_the_square_of_i]
    cbv
  exact ⟨sum, field .add i 1 _ (by decide) sum, square, power i _ (.int 2) square, row,
    product m o p row, value, ((texts _ _ value).2 _ grammatical_two_to_the_square_of_i).2⟩

end ExactAlgebra
