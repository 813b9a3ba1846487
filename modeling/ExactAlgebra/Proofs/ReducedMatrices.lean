import ExactAlgebra.Proofs.Agreement
import ExactAlgebra.Proofs.ComplexElimination
import ExactAlgebra.Proofs.Determinant
import ExactAlgebra.Proofs.Lifetime
import ExactAlgebra.Proofs.Reduction
import ExactAlgebra.Proofs.RegularMatrices

/-!
# Matrices that are reduced already

A row echelon form is a fixed point of the reduction, whatever the kinds of its cells. The search for the pivot
of a step starts on the diagonal; in an echelon form the row of the step does not begin to the left of it, and
nothing stands below the cell where it begins. So the search ends in just this cell, no rows are exchanged,
and there is nothing to clear: no division is ever carried out, and it does not matter that pivots off the real
axis could not be divided by. On the way up to the reduced form the leading cells are divided by; when they are
one the quotients are the cells themselves, as values. Only their kinds may be wider.

A matrix that cannot be changed is left as it is too, but the attempt fails. Identity matrices are the only such
matrices, and all of them are reduced already: there is no exception besides them.

## Main statements

* `Grid.IsEchelon.le_leadingColumn`, `Grid.IsEchelon.findPivot?`: where the pivots are.
* `Grid.IsEchelon.eliminate`: echelon forms are fixed points.
* `Grid.exists_reducedEchelon`: so are reduced forms, up to kinds.
* `Grid.identity_isReducedRowEchelon`: identity grids are reduced.
* `Grid.isEchelon_of_diagonal`: triangular grids with a nonzero diagonal are in echelon form.
* `Matrix.reductions_of_reduced`: what a matrix says and does that is reduced already.
-/

namespace ExactAlgebra

/-- A quotient by one is the dividend, though its kind may be wider. -/
theorem Quantity.exists_divide?_one (p : Quantity) {q : Quantity} (one : q.value = 1) :
    ∃ r, p.divide? q = some r ∧ r.SameValue p := by
  obtain ⟨real, re⟩ := isReal_of_value_eq (a := 1) (one.trans Rat.cast_one.symm)
  have im : q.im = 0 := isReal_iff.mp real
  have scale : q.scale = 1 := by rw [Quantity.scale, re, im, mul_zero, add_zero, mul_one]
  obtain ⟨r, quotient, valueRe, valueIm⟩ := divide?_eq_some p (q := q) (by rw [scale]; exact one_ne_zero)
  refine ⟨r, quotient, sameValue_iff.mpr ⟨?_, ?_⟩⟩
  · rw [valueRe, scale, re, im, mul_one, mul_zero, sub_zero, div_one]
  · rw [valueIm, scale, re, im, mul_one, mul_zero, sub_zero, div_one]

namespace Grid

variable {m n : ℕ} {g : Grid m n}

/-! ## Where rows begin -/

namespace IsEchelon

/-- Below the cell where a row begins, and left of that, there is nothing but zeros. -/
theorem isZero_of_le (echelon : g.IsEchelon) {i r : Fin m} (below : i < r) {c j : Fin n}
    (lead : (g.get i).leadingColumn? = some c) (le : j ≤ c) : (g.cell r j).isZero = true := by
  by_contra nonzero
  obtain ⟨c₂, le', lead₂⟩ := Row.exists_leadingColumn? (Bool.not_eq_true _ ▸ nonzero)
  obtain ⟨c₁, lt, lead₁⟩ := echelon i r below c₂ lead₂
  obtain rfl := Option.some.inj (lead.symm.trans lead₁)
  exact absurd (lt.trans_le (le'.trans le)) (lt_irrefl c)

/-- Below a row of zeros there are only rows of zeros. -/
theorem isZero_of_none (echelon : g.IsEchelon) {i r : Fin m} (le : i ≤ r)
    (none : (g.get i).leadingColumn? = none) (j : Fin n) : (g.cell r j).isZero = true := by
  rcases le.eq_or_lt with rfl | below
  · exact Row.leadingColumn?_eq_none.mp none j
  · by_contra nonzero
    obtain ⟨c₂, -, lead₂⟩ := Row.exists_leadingColumn? (Bool.not_eq_true _ ▸ nonzero)
    obtain ⟨c₁, -, lead₁⟩ := echelon i r below c₂ lead₂
    rw [none] at lead₁
    cases lead₁

/-- No row begins left of the diagonal. -/
theorem le_leadingColumn (echelon : g.IsEchelon) {i : Fin m} {c : Fin n}
    (lead : (g.get i).leadingColumn? = some c) : (i : ℕ) ≤ c := by
  by_contra! left
  have zeros := g.value_hasZerosOf
  have entry : g.value i c = 0 := (zeros.isRowEchelon_iff.mpr echelon).eq_zero_of_lt left
  exact (zeros.leadingColumn?_iff.mp lead).2 entry

/-- **The pivot of a step** is the cell where the row of the step begins. -/
theorem findPivot? (echelon : g.IsEchelon) (k : Fin m) :
    g.findPivot? k = (g.get k).leadingColumn?.map fun c => (k, c) := by
  cases lead : (g.get k).leadingColumn? with
  | none => exact findPivot?_eq_none.mpr fun r le c _ => echelon.isZero_of_none le lead c
  | some c =>
    obtain ⟨nonzero, left⟩ := Row.leadingColumn?_eq_some.mp lead
    have reached := echelon.le_leadingColumn lead
    cases found : g.findPivot? k with
    | none =>
      rw [findPivot?_eq_none.mp found k le_rfl c reached] at nonzero
      cases nonzero
    | some pivot =>
      obtain ⟨r, c'⟩ := pivot
      obtain ⟨le, -, nonzero', passed⟩ := of_findPivot?_eq_some found
      have notRight : c' ≤ c := by
        by_contra! right
        rw [passed k le_rfl c right reached] at nonzero
        cases nonzero
      -- Below row `k` there are zeros up to column `c`, so the pivot stands in row `k`.
      have row : k = r := by
        by_contra other
        rw [echelon.isZero_of_le (lt_of_le_of_ne le other) lead notRight] at nonzero'
        cases nonzero'
      have column : c' = c := by
        subst row
        by_contra other
        rw [left c' (lt_of_le_of_ne notRight other)] at nonzero'
        cases nonzero'
      rw [← row, column]
      rfl

end IsEchelon

/-! ## Down -/

theorem swapRows_self (g : Grid m n) (i : Fin m) : g.swapRows i i = g := by
  refine ext_get fun r => ?_
  rw [get_swapRows]
  split_ifs with same
  · rw [same]
  · rfl

/-- Where nothing stands below the pivot nothing is divided. -/
theorem clearBelow?_eq_self {k : Fin m} {c : Fin n} (zeros : ∀ r > k, (g.cell r c).isZero = true) :
    g.clearBelow? k c = some g := by
  have rows (r : Fin m) : (if r ≤ k ∨ (g.cell r c).isZero = true then some (g.get r)
      else ((g.cell r c).divide? (g.cell k c)).map fun factor =>
        (g.get r).addMultiple (g.get k) (-factor)) = some (g.get r) :=
    if_pos ((le_or_gt r k).imp_right (zeros r))
  rw [clearBelow?, ofFnM_eq_some rows]
  exact congrArg some (ext_get fun r => get_ofFn g.get r)

/-- **An echelon form is a fixed point**: no step changes a cell or exchanges two rows. -/
theorem IsEchelon.eliminate (echelon : g.IsEchelon) (steps : List ℕ) :
    (eliminate steps g).result? = some g ∧ ∀ p ∈ (eliminate steps g).pivots, p.row = p.step := by
  induction steps with
  | nil => exact ⟨rfl, List.forall_mem_nil _⟩
  | cons k steps ih =>
    rw [Grid.eliminate]
    split
    case isFalse => exact ⟨rfl, List.forall_mem_nil _⟩
    case isTrue below =>
      have pivot := echelon.findPivot? ⟨k, below⟩
      cases lead : (g.get ⟨k, below⟩).leadingColumn? with
      | none =>
        rw [pivot, lead]
        exact ⟨rfl, List.forall_mem_nil _⟩
      | some c =>
        have cleared : g.clearBelow? ⟨k, below⟩ c = some g :=
          clearBelow?_eq_self fun r lt => echelon.isZero_of_le lt lead le_rfl
        rw [pivot, lead]
        simp only [Option.map_some, swapRows_self, cleared]
        exact ⟨ih.1, List.forall_mem_cons.mpr ⟨rfl, ih.2⟩⟩

theorem IsEchelon.echelon (echelon : g.IsEchelon) :
    g.echelon.result? = some g ∧ ∀ p ∈ g.echelon.pivots, p.row = p.step := by
  unfold Grid.echelon
  split
  · exact ⟨rfl, List.forall_mem_nil _⟩
  · exact echelon.eliminate _

theorem IsEchelon.swaps_eq_zero (echelon : g.IsEchelon) : g.echelon.swaps = 0 := by
  rw [Elimination.swaps, List.length_eq_zero_iff, List.filter_eq_nil_iff]
  intro p mem
  rw [bne_iff_ne, not_not]
  exact echelon.echelon.2 p mem

/-- The rows with a cell that is not zero are counted. -/
theorem nonzeroRows_eq (g : Grid m n) :
    g.nonzeroRows = (Finset.univ.filter fun i : Fin m => ∃ j : Fin n, (g.cell i j).isZero = false).card := by
  rw [nonzeroRows_eq_card]
  refine congrArg Finset.card (Finset.filter_congr fun i _ => ?_)
  rw [Ne, leads_eq_top, get_leadingColumns, Row.leadingColumn?_eq_none, not_forall]
  exact exists_congr fun j => Bool.not_eq_true _ ▸ Iff.rfl

/-! ## Up -/

/-- Rows that begin with one are divided by one. -/
theorem exists_normal_row (ones : ∀ i c, (g.get i).leadingColumn? = some c → (g.cell i c).value = 1)
    (i : Fin m) :
    ∃ row : Row n, (match (g.get i).leadingColumn? with
        | none => some (g.get i)
        | some c => (g.get i).divide? (g.cell i c)) = some row ∧
      ∀ j : Fin n, (row.get j).SameValue (g.cell i j) := by
  cases lead : (g.get i).leadingColumn? with
  | none => exact ⟨g.get i, rfl, fun j => .refl _⟩
  | some c =>
    choose quotient defined same using fun j => (g.cell i j).exists_divide?_one (ones i c lead)
    refine ⟨Vector.ofFn quotient, ofFnM_eq_some defined, fun j => ?_⟩
    rw [get_ofFn]
    exact same j

theorem exists_normalize? (ones : ∀ i c, (g.get i).leadingColumn? = some c → (g.cell i c).value = 1) :
    ∃ h, g.normalize? = some h ∧ h.SameValues g := by
  choose rows defined same using exists_normal_row ones
  refine ⟨Vector.ofFn rows, ofFnM_eq_some defined, fun i j => ?_⟩
  rw [cell, get_ofFn]
  exact same i j

/-- Where nothing stands above a leading cell nothing is changed. -/
theorem clearLeading_eq_self {leading : Vector (Option (Fin n)) m}
    (zeros : ∀ i c, leading.get i = some c → ∀ r < i, (g.cell r c).isZero = true) :
    clearLeading leading g = g := by
  unfold clearLeading
  induction List.finRange m with
  | nil => rfl
  | cons i rows ih =>
    rw [List.foldr_cons, ih, clearLead]
    cases lead : leading.get i with
    | none => rfl
    | some c =>
      show g.clearAbove i c = g
      refine ext_get fun r => ?_
      rw [clearAbove, get_ofFn]
      exact if_pos ((le_or_gt i r).imp_right (zeros i c lead r))

/-- **A reduced form is a fixed point** as far as values go. -/
theorem exists_reducedEchelon (reduced : g.value.IsReducedRowEchelon) :
    ∃ h, g.reducedEchelon.result? = some h ∧ h.SameValues g := by
  obtain ⟨echelon, leads⟩ := g.value_hasZerosOf.isReducedRowEchelon_iff.mp reduced
  obtain ⟨h, normal, same⟩ := exists_normalize? fun i c lead => (leads i c lead).1
  have cleared : clearLeading g.leadingColumns h = h := clearLeading_eq_self fun i c lead r above => by
    rw [get_leadingColumns] at lead
    rw [(same r c).isZero_eq]
    exact (leads i c lead).2 r above
  refine ⟨h, ?_, same⟩
  rw [reducedEchelon, echelon.echelon.1, Option.bind_some, normal, Option.map_some, cleared]

/-- On the real axis a form is reduced in the complex numbers if it is in the rational ones. -/
theorem IsReal.value_isReducedRowEchelon (real : g.IsReal) (reduced : g.re.IsReducedRowEchelon) :
    g.value.IsReducedRowEchelon := by
  obtain ⟨echelon, leads⟩ := real.hasZerosOf.isReducedRowEchelon_iff.mp reduced
  refine g.value_hasZerosOf.isReducedRowEchelon_iff.mpr ⟨echelon, fun i c lead => ⟨?_, (leads i c lead).2⟩⟩
  rw [real.value_eq, Matrix.map_apply, (leads i c lead).1, Rat.cast_one]

/-- An identity grid is reduced, whatever its size and the kind of its cells: it denotes the unit matrix. -/
theorem identity_isReducedRowEchelon (n : ℕ) (kind : NumberKind) :
    (identity n kind).value.IsReducedRowEchelon := by
  rw [value_identity]
  exact Matrix.isReducedRowEchelon_one

/-! ## Triangular grids -/

/-- A triangular grid without a zero on the diagonal is in row echelon form: each row begins on the
diagonal. -/
theorem isEchelon_of_diagonal {g : Grid n n} (upper : ∀ i j : Fin n, j < i → (g.cell i j).isZero = true)
    (diagonal : ∀ i : Fin n, (g.cell i i).isZero = false) : g.IsEchelon := by
  have lead (i : Fin n) : (g.get i).leadingColumn? = some i :=
    Row.leadingColumn?_eq_some.mpr ⟨diagonal i, upper i⟩
  intro i₁ i₂ lt c₂ lead₂
  obtain rfl := Option.some.inj ((lead i₂).symm.trans lead₂)
  exact ⟨i₁, lt, lead i₁⟩

theorem value_diagonalProduct (g : Grid n n) : g.diagonalProduct.value = ∏ i, (g.cell i i).value := by
  have products (places : List (Fin n)) (start : Quantity) :
      (places.foldl (fun product i => product * g.cell i i) start).value =
        start.value * (places.map fun i => (g.cell i i).value).prod := by
    induction places generalizing start with
    | nil => exact (mul_one _).symm
    | cons i places ih =>
      rw [List.foldl_cons, ih, Quantity.value_mul, List.map_cons, List.prod_cons, mul_assoc]
  have one : (1 : Quantity).value = 1 := Quantity.value_oneOf .rational
  rw [diagonalProduct, products, one, one_mul, Fin.prod_univ_def]

end Grid

namespace Matrix

variable {m : Matrix}

/-! ## Reductions -/

/-- A reduction with a result puts it in place of the cells, unless something stands in its way. -/
theorem mutate_of_reduction_cases (change : Mutation) {e : Elimination m.rowCount m.columnCount}
    (reduces : m.edit change = .ofElimination m.grid e) {h : Grid m.rowCount m.columnCount}
    (result : e.result? = some h) :
    (∃ reason, m.mutate change = (m, .fail reason)) ∨
      m.mutate change = (m.withGrid h, ⟨e.pivots.map .pivot, .ok ()⟩) := by
  have done : m.edit change = ⟨h, .ok (), e.pivots.map .pivot⟩ := by
    rw [reduces, Edit.ofElimination, result]
    rfl
  rw [mutate]
  cases m.objection? change with
  | some reason => exact Or.inl ⟨reason, rfl⟩
  | none =>
    rw [done]
    exact Or.inr rfl

/-- Nothing is changed in a row echelon form, and no rows are exchanged. -/
theorem reduce_of_isEchelon (m : Matrix) (echelon : m.grid.IsEchelon) :
    (m.mutate .reduce).1 = m ∧ ∀ p, .pivot p ∈ (m.mutate .reduce).2.events → p.row = p.step := by
  obtain ⟨result, inPlace⟩ := echelon.echelon
  rcases mutate_of_reduction_cases .reduce rfl result with ⟨reason, refused⟩ | reduced
  · rw [refused]
    exact ⟨rfl, nofun⟩
  · rw [reduced]
    refine ⟨rfl, fun p mem => ?_⟩
    obtain ⟨p', mem', same⟩ := List.mem_map.mp mem
    obtain rfl := Event.pivot.inj same
    exact inPlace p' mem'

/-- A reduced row echelon form keeps its values. -/
theorem reduceFully_of_isReducedRowEchelon (m : Matrix) (reduced : m.grid.value.IsReducedRowEchelon) :
    (m.mutate .reduceFully).1.SameValues m := by
  obtain ⟨h, result, same⟩ := Grid.exists_reducedEchelon reduced
  rcases mutate_of_reduction_cases .reduceFully rfl result with ⟨reason, refused⟩ | reduces
  · rw [refused]
    exact SameValues.refl m
  · rw [reduces]
    exact sameValues_mk.mpr same

/-- On the real axis a second reduction changes nothing. -/
theorem reduce_reduce_of_isReal (m : Matrix) (real : m.grid.IsReal) :
    ((m.mutate .reduce).1.mutate .reduce).1 = (m.mutate .reduce).1 := by
  obtain ⟨h, result, realH, echelon, -⟩ := real.echelon_reduces
  rcases mutate_of_reduction_cases .reduce rfl result with ⟨reason, refused⟩ | reduced
  · rw [refused, refused]
  · rw [reduced]
    exact (reduce_of_isEchelon (m.withGrid h) (realH.hasZerosOf.isRowEchelon_iff.mp echelon)).1

theorem reduceFully_reduceFully_of_isReal (m : Matrix) (real : m.grid.IsReal) :
    ((m.mutate .reduceFully).1.mutate .reduceFully).1.SameValues (m.mutate .reduceFully).1 := by
  obtain ⟨h, result, form⟩ := real.reducedEchelon
  rcases mutate_of_reduction_cases .reduceFully rfl result with ⟨reason, refused⟩ | reduced
  · rw [refused, refused]
    exact SameValues.refl m
  · rw [reduced]
    exact reduceFully_of_isReducedRowEchelon (m.withGrid h)
      (form.real.value_isReducedRowEchelon form.isReduced)

/-! ## Determinants -/

/-- Without an exchange of rows nothing is asked about the sign, and nothing is warned of. -/
theorem determinant_of_swaps_eq_zero {n : ℕ} {g h : Grid n n} (result : g.echelon.result? = some h)
    (none : g.echelon.swaps = 0) (correctSign : Except Error Bool) :
    determinant g correctSign = ⟨g.echelon.pivots.map .pivot, .ok h.diagonalProduct⟩ := by
  unfold determinant
  simp only [result]
  rw [show orFail .divisionByZero (some h) = .ok h from rfl, Logged.ok_bind]
  simp only [if_pos (Or.inl none : g.echelon.swaps = 0 ∨ h.diagonalProduct.isZero = true)]
  exact congrArg₂ Logged.mk (List.append_nil _) rfl

/-- The determinant of a triangular matrix without a zero on the diagonal. -/
theorem det_of_triangular (m : Matrix) (square : m.form.isSquare = true)
    (upper : (m.grid.cast (m.square square) rfl).isUpperTriangular = true)
    (diagonal : ∀ i, ((m.grid.cast (m.square square) rfl).cell i i).isZero = false) (correctSign : Operand) :
    ∃ q, (m.det correctSign).outcome = .ok q ∧
      q.value = ∏ i, ((m.grid.cast (m.square square) rfl).cell i i).value ∧
      ∀ event ∈ (m.det correctSign).events, event.level ≠ .warning := by
  rw [det_eq_determinant square]
  generalize m.grid.cast (m.square square) rfl = g at upper diagonal ⊢
  have zeros : ∀ i j : Fin m.columnCount, j < i → (g.cell i j).isZero = true := by
    simp only [Grid.isUpperTriangular, List.all_eq_true, Bool.or_eq_true, decide_eq_true_eq] at upper
    exact fun i j below =>
      (upper i (List.mem_finRange i) j (List.mem_finRange j)).resolve_left (not_le.mpr below)
  have echelon := Grid.isEchelon_of_diagonal zeros diagonal
  rw [determinant_of_swaps_eq_zero echelon.echelon.1 echelon.swaps_eq_zero]
  refine ⟨_, rfl, g.value_diagonalProduct, fun event mem => ?_⟩
  obtain ⟨p, -, rfl⟩ := List.mem_map.mp mem
  rintro ⟨⟩

/-! ## All together -/

/-- An identity matrix is reduced already, but it is read-only: both reductions are refused, and it stays as it
is. -/
theorem reductions_of_identity (n : ℕ) (pos : 0 < n) (kind : NumberKind) :
    let m := identity n pos kind
    m.form.hasArithmetic = true ∧ m.grid.IsEchelon ∧ m.grid.value.IsReducedRowEchelon ∧
      m.mutate .reduce = (m, .fail (.shape (.readOnly .identity "reduce to row echelon form"))) ∧
      m.mutate .reduceFully = (m, .fail (.shape (.readOnly .identity "reduce to reduced row echelon form"))) := by
  intro m
  have reduced : m.grid.value.IsReducedRowEchelon := Grid.identity_isReducedRowEchelon n kind
  have echelon : m.grid.IsEchelon := (m.grid.value_hasZerosOf.isReducedRowEchelon_iff.mp reduced).1
  exact ⟨rfl, echelon, reduced, mutate_of_readOnly rfl .reduce, mutate_of_readOnly rfl .reduceFully⟩

theorem outcome_reduceFully {m : Matrix} (offered : m.form.hasArithmetic = true)
    (writable : m.readOnly = false) (reduced : m.grid.value.IsReducedRowEchelon) :
    (m.mutate .reduceFully).2.outcome = .ok () := by
  obtain ⟨h, result, -⟩ := Grid.exists_reducedEchelon reduced
  rw [mutate_of_reduction offered writable rfl result]

theorem outcome_reduce_of_isEchelon {m : Matrix} (offered : m.form.hasArithmetic = true)
    (writable : m.readOnly = false) (echelon : m.grid.IsEchelon) : (m.mutate .reduce).2.outcome = .ok () :=
  outcome_reduce offered writable (by rw [echelon.echelon.1]; rfl)

/-- **Matrices that are reduced already.** Of a row echelon form, whatever its cells, reduction changes no cell
and exchanges no rows, and it does not fail unless the matrix is read-only; the rank is the number of rows with
a cell other than zero. A reduced row echelon form is equal to what full reduction leaves of it, which fails
only for a matrix that is read-only, too. So a matrix on the real axis is reduced by the first reduction, and a
second one changes nothing. And the determinant of a triangular matrix without a zero on the diagonal is the
product of the diagonal, of which nothing is warned, whether the sign is to be corrected or not.

The read-only matrices that are left out here are the identity matrices. These are in both forms, at every size
and in both kinds of numbers, and a reduction of either sort is refused and leaves the matrix alone. -/
theorem reductions_of_reduced :
    (∀ m : Matrix, m.form.hasArithmetic = true → m.grid.IsEchelon →
      (m.readOnly = false → (m.mutate .reduce).2.outcome = .ok ()) ∧
        (m.mutate .reduce).1 = m ∧ m.grid.echelon.swaps = 0 ∧
        (∀ p, .pivot p ∈ (m.mutate .reduce).2.events → p.row = p.step) ∧
        (m.answer .rank).outcome =
          .ok (.int (Finset.univ.filter fun i => ∃ j, (m.grid.cell i j).isZero = false).card)) ∧
    (∀ m : Matrix, m.form.hasArithmetic = true → m.grid.value.IsReducedRowEchelon →
      (m.readOnly = false → (m.mutate .reduceFully).2.outcome = .ok ()) ∧
        Operand.equals true (.ofMatrix (m.mutate .reduceFully).1) (.ofMatrix m) = .ok (.bool true)) ∧
    (∀ m : Matrix, m.form.hasArithmetic = true → m.grid.IsReal →
      (m.readOnly = false → ((m.mutate .reduce).1.mutate .reduce).2.outcome = .ok () ∧
        ((m.mutate .reduceFully).1.mutate .reduceFully).2.outcome = .ok ()) ∧
        ((m.mutate .reduce).1.mutate .reduce).1 = (m.mutate .reduce).1 ∧
        Operand.equals true (.ofMatrix ((m.mutate .reduceFully).1.mutate .reduceFully).1)
          (.ofMatrix (m.mutate .reduceFully).1) = .ok (.bool true)) ∧
    (∀ (m : Matrix) (square : m.form.isSquare = true),
      (m.grid.cast (m.square square) rfl).isUpperTriangular = true →
      (∀ i, ((m.grid.cast (m.square square) rfl).cell i i).isZero = false) →
      ∀ correctSign : Operand, ∃ q, (m.det correctSign).outcome = .ok q ∧
        q.value = ∏ i, ((m.grid.cast (m.square square) rfl).cell i i).value ∧
        ∀ event ∈ (m.det correctSign).events, event.level ≠ .warning) ∧
    ∀ (n : ℕ) (pos : 0 < n) (kind : NumberKind),
      let m := identity n pos kind
      m.form.hasArithmetic = true ∧ m.grid.IsEchelon ∧ m.grid.value.IsReducedRowEchelon ∧
        m.mutate .reduce = (m, .fail (.shape (.readOnly .identity "reduce to row echelon form"))) ∧
        m.mutate .reduceFully =
          (m, .fail (.shape (.readOnly .identity "reduce to reduced row echelon form"))) := by
  refine ⟨fun m offered echelon => ?_, fun m offered reduced => ?_, fun m offered real => ?_,
    det_of_triangular, reductions_of_identity⟩
  · obtain ⟨same, inPlace⟩ := reduce_of_isEchelon m echelon
    refine ⟨fun writable => outcome_reduce_of_isEchelon offered writable echelon, same,
      echelon.swaps_eq_zero, inPlace, outcome_answer_rank_iff.mpr ⟨offered, ?_⟩⟩
    rw [Grid.rank?, echelon.echelon.1, Option.map_some, Grid.nonzeroRows_eq]
  · refine ⟨fun writable => outcome_reduceFully offered writable reduced, ?_⟩
    rw [equals_ofMatrix, decide_eq_true (reduceFully_of_isReducedRowEchelon m reduced)]
  · refine ⟨fun writable => ⟨?_, ?_⟩, reduce_reduce_of_isReal m real, ?_⟩
    · obtain ⟨h, result, realH, echelon, -⟩ := real.echelon_reduces
      rw [mutate_of_reduction offered writable rfl result]
      exact outcome_reduce_of_isEchelon (m := m.withGrid h) offered writable
        (realH.hasZerosOf.isRowEchelon_iff.mp echelon)
    · obtain ⟨h, result, form⟩ := real.reducedEchelon
      rw [mutate_of_reduction offered writable rfl result]
      exact outcome_reduceFully (m := m.withGrid h) offered writable
        (form.real.value_isReducedRowEchelon form.isReduced)
    · rw [equals_ofMatrix, decide_eq_true (reduceFully_reduceFully_of_isReal m real)]

/-- An identity matrix is in row echelon form, but it is read-only, and so it refuses to be reduced. -/
theorem reduce_identity_two :
    let m := identity 2 Nat.two_pos .rational
    m.form.hasArithmetic = true ∧ m.grid.IsEchelon ∧ (m.mutate .reduce).2.outcome ≠ .ok () ∧
      (m.mutate .reduce).2.outcome = .error (.shape (.readOnly .identity "reduce to row echelon form")) :=
  ⟨rfl, by decide, nofun, rfl⟩

/-- The rows `0 i 1 2`, `0 0 0 1+i` and `0 0 0 0`: nothing can be divided by `i`, and nothing has to be. The rows
`1 i 0` and `0 0 1`, with one as a complex number: they stay what they are. The rows `0 2` and `1 1`, reduced
twice. And the triangle of the rows `i 1` and `0 2`. -/
theorem reductions_of_reduced_off_the_axis :
    let i : Quantity := .complex ⟨0, 1⟩
    let m := ofGrid (#v[#v[0, i, 1, 1 + 1], #v[0, 0, 0, .complex ⟨1, 1⟩], #v[0, 0, 0, 0]] : Grid 3 4)
      (Nat.succ_pos 2) (Nat.succ_pos 3)
    let o := ofGrid (#v[#v[.complex 1, i, 0], #v[0, 0, 1]] : Grid 2 3) Nat.two_pos (Nat.succ_pos 2)
    let r := ofGrid (#v[#v[0, 1 + 1], #v[1, 1]] : Grid 2 2) Nat.two_pos Nat.two_pos
    let t : Matrix := ⟨.square, 2, 2, #v[#v[i, 1], #v[0, 1 + 1]], Nat.two_pos, Nat.two_pos, fun _ => rfl⟩
    (m.grid.IsEchelon ∧ (m.mutate .reduce).2.outcome = .ok () ∧ (m.mutate .reduce).1 = m ∧
      (m.answer .rank).outcome = .ok (.int 2)) ∧
    (o.grid.value.IsReducedRowEchelon ∧ (o.mutate .reduceFully).2.outcome = .ok () ∧
      Operand.equals true (.ofMatrix (o.mutate .reduceFully).1) (.ofMatrix o) = .ok (.bool true)) ∧
    (r.grid.IsReal ∧ ((r.mutate .reduce).1.mutate .reduce).1 = (r.mutate .reduce).1) ∧
    ((t.grid.cast rfl rfl).isUpperTriangular = true ∧ (∀ i, ((t.grid.cast rfl rfl).cell i i).isZero = false) ∧
      ∃ q, (t.det (.bool false)).outcome = .ok q ∧ q.value = ∏ i, ((t.grid.cast rfl rfl).cell i i).value) := by
  intro i m o r t
  have echelon : m.grid.IsEchelon := by decide
  have reduced : o.grid.value.IsReducedRowEchelon := by
    rw [o.grid.value_hasZerosOf.isReducedRowEchelon_iff]
    have leads : ∀ i c, (o.grid.get i).leadingColumn? = some c → (o.grid.cell i c).SameValue 1 ∧
        ∀ r < i, (o.grid.cell r c).isZero = true := by decide
    have one : (1 : Quantity).value = 1 := Quantity.value_oneOf .rational
    refine ⟨by decide, fun i c lead => ⟨?_, (leads i c lead).2⟩⟩
    exact (Quantity.value_inj.mpr (leads i c lead).1).trans one
  have real : r.grid.IsReal := by decide
  have upper : (t.grid.cast rfl rfl).isUpperTriangular = true := by decide
  have diagonal : ∀ i, ((t.grid.cast rfl rfl).cell i i).isZero = false := by decide
  obtain ⟨down, full, twice, det, -⟩ := reductions_of_reduced
  obtain ⟨ok, same, -, -, rank⟩ := down m rfl echelon
  obtain ⟨ok', equal⟩ := full o rfl reduced
  obtain ⟨q, outcome, product, -⟩ := det t rfl upper diagonal (.bool false)
  obtain ⟨-, unchanged, -⟩ := twice r rfl real
  exact ⟨⟨echelon, ok rfl, same, rank⟩, ⟨reduced, ok' rfl, equal⟩, ⟨real, unchanged⟩, upper, diagonal, q,
    outcome, product⟩

end Matrix

end ExactAlgebra
