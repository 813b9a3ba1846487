import ExactAlgebra.Proofs.Rank

/-!
# Elimination off the real axis

Off the real axis a quotient need not give its dividend back, and a row to which a multiple of the pivot's
row was added need not have a zero in the column of the pivot. Nothing tells that this has happened. But it
is never made good later on: the row of the pivot and the row with the cell that was not cleared are in
each other's way for the rest of the elimination. So the grid that an elimination leaves is in echelon form
exactly when all the divisions on the way there were exact.

The invariant is `Matrix.EchelonAbove` for the complex values, as on the real axis, but here each step
tells when it holds afterwards, and not only that it does.

## Main definitions

* `Division`, `Division.IsExact`: a dividend and a divisor, and when the quotient gives the dividend back.
* `Grid.divisions`: the divisions on the way to row echelon form.

## Main statements

* `Grid.step_iff`: one step settles a row exactly when its divisions are exact.
* `Grid.isEchelon_iff`: so it is with all steps together.
* `Matrix.reduce_isEchelon_iff`: what reduction leaves, and a bound of the rank.
-/

open Matrix (EchelonAbove HasZerosOf)

namespace ExactAlgebra

/-- A division of quantities. -/
structure Division where
  /-- What is divided. -/
  dividend : Quantity
  /-- What is divided by. -/
  divisor : Quantity

namespace Division

/-- The divisor is real, or its parts agree and the dividend is real: then the quotient of a dividend that
is not zero gives the dividend back, and in no other case. -/
def IsExact (d : Division) : Prop :=
  d.divisor.im = 0 ∨ (d.divisor.re = d.divisor.im ∧ d.dividend.im = 0)

instance (d : Division) : Decidable d.IsExact :=
  inferInstanceAs (Decidable (_ ∨ _))

theorem isExact_iff {p d q : Quantity} (nonzero : p.isZero = false) (quotient : p.divide? d = some q) :
    IsExact ⟨p, d⟩ ↔ p.value + -q.value * d.value = 0 := by
  have exact := Quantity.mul_quotient_iff quotient
  rw [nonzero, ← Quantity.value_inj, Quantity.value_mul] at exact
  rw [neg_mul, ← sub_eq_add_neg, sub_eq_zero, eq_comm, exact, IsExact]
  simp only [Bool.false_eq_true, false_or]

end Division

namespace Grid

variable {m n : ℕ} {g h : Grid m n}

/-! ## The divisions of an elimination -/

/-- The divisions that clear column `c` below row `k`: every cell there that is not zero yet is divided by
the cell in row `k`. -/
def divisionsBelow (g : Grid m n) (k : Fin m) (c : Fin n) : List Division :=
  ((List.finRange m).filter fun i => decide (k < i) && !(g.cell i c).isZero).map fun i =>
    ⟨g.cell i c, g.cell k c⟩

/-- The divisions of the steps of a reduction, one after the other. -/
def divisionsOf : List ℕ → Grid m n → List Division
  | [], _ => []
  | k :: steps, g =>
    if below : k < m then
      match g.findPivot? k with
      | none => []
      | some (r, c) =>
        let swapped := g.swapRows ⟨k, below⟩ r
        swapped.divisionsBelow ⟨k, below⟩ c ++
          match swapped.clearBelow? ⟨k, below⟩ c with
          | none => []
          | some cleared => divisionsOf steps cleared
    else []

/-- The divisions on the way to row echelon form. -/
def divisions (g : Grid m n) : List Division :=
  if m = 1 then [] else divisionsOf (List.range n) g

theorem mem_divisionsBelow {k : Fin m} {c : Fin n} {d : Division} :
    d ∈ g.divisionsBelow k c ↔
      ∃ i > k, (g.cell i c).isZero = false ∧ ⟨g.cell i c, g.cell k c⟩ = d := by
  simp [divisionsBelow, and_assoc]

/-! ## One step -/

theorem value_hasZerosOf (g : Grid m n) : g.value.HasZerosOf g :=
  fun _ _ => Quantity.value_eq_zero

theorem value_swapRows (g : Grid m n) (a b : Fin m) :
    (g.swapRows a b).value = g.value.submatrix (Equiv.swap a b) id := by
  funext i j
  rw [value_apply, cell, get_swapRows, Matrix.submatrix_apply, Equiv.swap_apply_def, value_apply, id_eq]
  split_ifs <;> rfl

/-- What clearing has made of a row: a multiple of the pivot's row was added to it. This has cleared the cell
in the column of the pivot exactly when the cell was zero before, or could be divided exactly. -/
theorem exists_factor {k : Fin m} {c : Fin n} (cleared : g.clearBelow? k c = some h) (i : Fin m) :
    ∃ factor : ℂ, (i ≤ k → factor = 0) ∧
      (∀ j, h.value i j = g.value i j + factor * g.value k j) ∧
      (k < i → (g.value i c + factor * g.value k c = 0 ↔
        ((g.cell i c).isZero = false → Division.IsExact ⟨g.cell i c, g.cell k c⟩))) := by
  have row := of_ofFnM_eq_some cleared i
  by_cases kept : i ≤ k ∨ (g.cell i c).isZero = true
  · rw [if_pos kept] at row
    refine ⟨0, fun _ => rfl, fun j => ?_, fun below => ?_⟩
    · rw [zero_mul, add_zero, value_apply, cell, ← Option.some.inj row, ← value_apply]
    · have zero := kept.resolve_left (not_le.mpr below)
      rw [zero_mul, add_zero, value_apply, Quantity.value_eq_zero, zero]
      exact iff_of_true rfl fun nonzero => absurd nonzero.symm Bool.false_ne_true
  · rw [if_neg kept] at row
    obtain ⟨settled, nonzero⟩ := not_or.mp kept
    rw [Bool.not_eq_true] at nonzero
    obtain ⟨q, quotient, made⟩ := Option.map_eq_some_iff.mp row
    refine ⟨-q.value, fun le => absurd le settled, fun j => ?_, fun _ => ?_⟩
    · rw [value_apply, cell, ← made, Row.get_addMultiple, Quantity.value_add, Quantity.value_mul,
        Quantity.value_neg, mul_comm]
      rfl
    · rw [nonzero, value_apply, value_apply, ← Division.isExact_iff nonzero quotient]
      exact ⟨fun exact _ => exact, fun exact => exact rfl⟩

/-- Clearing adds multiples of the pivot's row to the rows below, and clears the column exactly when the
divisions are exact. -/
theorem exists_factors {k : Fin m} {c : Fin n} (cleared : g.clearBelow? k c = some h) :
    ∃ factor : Fin m → ℂ, (∀ i ≤ k, factor i = 0) ∧ h.value = g.value.addMultiples k factor ∧
      ((∀ i > k, g.value i c + factor i * g.value k c = 0) ↔
        ∀ d ∈ g.divisionsBelow k c, d.IsExact) := by
  choose factor settled rows cells using exists_factor cleared
  refine ⟨factor, settled, funext fun i => funext fun j => rows i j, ?_⟩
  constructor
  · intro zeros d mem
    obtain ⟨i, below, nonzero, rfl⟩ := mem_divisionsBelow.mp mem
    exact (cells i below).mp (zeros i below) nonzero
  · intro exact i below
    refine (cells i below).mpr fun nonzero => exact _ ?_
    exact mem_divisionsBelow.mpr ⟨i, below, nonzero, rfl⟩

/-- **One step** keeps what is settled and settles its row exactly when its divisions are exact. What was
not settled before is not settled afterwards. -/
theorem step_iff {k r : Fin m} {c : Fin n} (found : g.findPivot? k = some (r, c))
    (cleared : (g.swapRows k r).clearBelow? k c = some h) :
    EchelonAbove (k + 1) h.value ↔
      EchelonAbove k g.value ∧ ∀ d ∈ (g.swapRows k r).divisionsBelow k c, d.IsExact := by
  obtain ⟨le, -⟩ := of_findPivot?_eq_some found
  obtain ⟨nonzero, passed⟩ := swapRows_of_findPivot?_eq_some found
  obtain ⟨factor, settled, values, exact⟩ := exists_factors cleared
  have zeros := (g.swapRows k r).value_hasZerosOf
  have passed' : ∀ i, k ≤ i → ∀ j < c, (k : ℕ) ≤ j → (g.swapRows k r).value i j = 0 :=
    fun i le j left right => (zeros i j).mpr (passed i le j left right)
  rw [values, EchelonAbove.step_iff (zeros.ne_zero_iff.mpr nonzero) passed' settled, exact,
    value_swapRows, EchelonAbove.swapRows_iff le_rfl le]

/-! ## All steps -/

/-- The steps from step `k` on end in echelon form exactly when the rows above row `k` are settled and the
divisions to come are exact. -/
theorem eliminate_isRowEchelon_iff {k len : ℕ} (total : k + len = n)
    (result : (eliminate (List.range' k len) g).result? = some h) :
    h.value.IsRowEchelon ↔
      EchelonAbove k g.value ∧ ∀ d ∈ g.divisionsOf (List.range' k len), d.IsExact := by
  induction len generalizing k g with
  | zero =>
    -- All columns were searched.
    obtain rfl := Option.some.inj result
    have searched := EchelonAbove.isRowEchelon_iff (A := g.value) (k := k) fun _ _ c right =>
      absurd c.isLt (not_lt.mpr (total ▸ right))
    rw [searched]
    exact (and_iff_left (List.forall_mem_nil _)).symm
  | succ len ih =>
    rw [List.range'_succ] at result ⊢
    rw [eliminate] at result
    rw [divisionsOf]
    by_cases below : k < m
    · rw [dif_pos below] at result ⊢
      cases found : g.findPivot? k with
      | none =>
        rw [found] at result
        obtain rfl := Option.some.inj result
        have searched := EchelonAbove.isRowEchelon_iff (A := g.value) fun r le c right =>
          (g.value_hasZerosOf r c).mpr (findPivot?_eq_none.mp found r le c right)
        rw [searched]
        exact (and_iff_left (List.forall_mem_nil _)).symm
      | some pivot =>
        obtain ⟨r, c⟩ := pivot
        simp only [found] at result ⊢
        cases cleared : (g.swapRows ⟨k, below⟩ r).clearBelow? ⟨k, below⟩ c with
        | none =>
          rw [cleared] at result
          cases result
        | some g' =>
          rw [cleared] at result
          have total' : k + 1 + len = n := by omega
          have step := step_iff (k := ⟨k, below⟩) found cleared
          rw [ih total' result, step, and_assoc]
          simp only [List.mem_append, or_imp, forall_and]
    · rw [dif_neg below] at result ⊢
      obtain rfl := Option.some.inj result
      have searched := EchelonAbove.isRowEchelon_iff (A := g.value) (k := k) fun r le _ _ =>
        absurd (le.trans_lt r.isLt) below
      rw [searched]
      exact (and_iff_left (List.forall_mem_nil _)).symm

/-- **Elimination off the real axis** ends in echelon form exactly when all its divisions are exact. -/
theorem isEchelon_iff (result : g.echelon.result? = some h) :
    h.IsEchelon ↔ ∀ d ∈ g.divisions, d.IsExact := by
  rw [← h.value_hasZerosOf.isRowEchelon_iff]
  unfold echelon at result
  unfold divisions
  split_ifs at result ⊢ with one
  · subst one
    have single : h.value.IsRowEchelon := fun i₁ i₂ lt => absurd (Subsingleton.elim i₁ i₂) (ne_of_lt lt)
    exact iff_of_true single (List.forall_mem_nil _)
  · rw [List.range_eq_range'] at result ⊢
    rw [eliminate_isRowEchelon_iff (Nat.zero_add n) result]
    exact and_iff_right (EchelonAbove.zero g.value)

/-- The number of rows that are not zero in a form whose divisions were exact. -/
theorem rank?_le {r : ℕ} (rank : g.rank? = some r) :
    r ≤ m ∧ ((∀ d ∈ g.divisions, d.IsExact) → r ≤ min m n) := by
  obtain ⟨h, result, rfl⟩ := Option.map_eq_some_iff.mp rank
  refine ⟨h.nonzeroRows_le, fun exact => le_min h.nonzeroRows_le ?_⟩
  have zeros := h.value_hasZerosOf
  have echelon := zeros.isRowEchelon_iff.mpr ((isEchelon_iff result).mpr exact)
  rw [← zeros.rank_eq echelon]
  exact h.value.rank_le_width

end Grid

namespace Matrix

/-- **Reduction off the real axis.** When it succeeds it leaves a row echelon form exactly when all its
divisions were exact. The rank is at most the number of rows, and with exact divisions at most the number
of columns, too. -/
theorem reduce_isEchelon_iff (m : Matrix) :
    ((m.mutate .reduce).2.outcome = .ok () → ∃ g, (m.mutate .reduce).1 = m.withGrid g ∧
        (g.IsEchelon ↔ ∀ d ∈ m.grid.divisions, d.IsExact)) ∧
      ∀ r : ℕ, (m.answer .rank).outcome = .ok (.int r) → r ≤ m.rowCount ∧
        ((∀ d ∈ m.grid.divisions, d.IsExact) → r ≤ min m.rowCount m.columnCount) := by
  constructor
  · intro ok
    obtain ⟨-, ok', leaves⟩ := of_mutate_ok ok
    have makes := edit_makes ok'
    refine ⟨_, leaves, ?_⟩
    generalize (m.edit .reduce).grid = g at makes ⊢
    cases makes with
    | reduce result => exact Grid.isEchelon_iff result
  · intro r answer
    exact Grid.rank?_le (outcome_answer_rank_iff.mp answer).2

/-- A reduction whose divisions are all defined succeeds. -/
theorem outcome_reduce {m : Matrix} (offered : m.form.hasArithmetic = true) (writable : m.readOnly = false)
    (defined : m.grid.echelon.result?.isSome = true) : (m.mutate .reduce).2.outcome = .ok () := by
  obtain ⟨h, result⟩ := Option.isSome_iff_exists.mp defined
  rw [mutate_of_reduction offered writable rfl result]

/-- The column of `1 + 2i` and `1`: the quotient of `1` and `1 + 2i` is not exact, so the second row does
not become zero, and two rows are counted where there is one column. -/
theorem reduce_of_inexact_division :
    let m := ofGrid (#v[#v[.complex ⟨1, .ofInt 2⟩], #v[1]] : Grid 2 1) Nat.two_pos Nat.one_pos
    (m.mutate .reduce).2.outcome = .ok () ∧ ¬ (m.mutate .reduce).1.grid.IsEchelon ∧
      (m.answer .rank).outcome = .ok (.int 2) := by
  intro m
  have ok : (m.mutate .reduce).2.outcome = .ok () := outcome_reduce rfl rfl (by decide +kernel)
  exact ⟨ok, by decide +kernel, outcome_answer_rank_iff.mpr ⟨rfl, by decide +kernel⟩⟩

/-- The column of `1 + i` and `2`: the parts of the pivot agree and `2` is real, so the division is exact. -/
theorem reduce_of_exact_division :
    let m := ofGrid (#v[#v[.complex ⟨1, 1⟩], #v[.rational (.ofInt 2)]] : Grid 2 1) Nat.two_pos Nat.one_pos
    (m.mutate .reduce).2.outcome = .ok () ∧
      (∃ g, (m.mutate .reduce).1 = m.withGrid g ∧ g.IsEchelon) ∧
      (m.answer .rank).outcome = .ok (.int 1) ∧ 1 ≤ min m.rowCount m.columnCount := by
  intro m
  have exact : ∀ d ∈ m.grid.divisions, d.IsExact := by decide +kernel
  obtain ⟨reduces, bounded⟩ := reduce_isEchelon_iff m
  have ok : (m.mutate .reduce).2.outcome = .ok () := outcome_reduce rfl rfl (by decide +kernel)
  have rank : (m.answer .rank).outcome = .ok (.int 1) :=
    outcome_answer_rank_iff.mpr ⟨rfl, by decide +kernel⟩
  obtain ⟨g, leaves, echelon⟩ := reduces ok
  exact ⟨ok, ⟨g, leaves, echelon.mpr exact⟩, rank, (bounded 1 rank).2 exact⟩

end Matrix

end ExactAlgebra
