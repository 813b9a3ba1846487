import ExactAlgebra.Proofs.Agreement

/-!
# Reductions of equal grids

A reduction looks at its grid only to see which cells are zero, so it finds the same pivots in grids of
equal values, takes the same steps, and ends in equal grids, or is left without a quotient at the same
step.

## Main definitions

* `Elimination.SameValues`: the same pivots, and equal results or none.

## Main statements

* `Grid.SameValues.findPivot?_eq`, `Row.SameValues.leadingColumn?_eq`: the searches.
* `Grid.SameValues.clearBelow?`, `Grid.SameValues.clearAbove`, `Grid.SameValues.normalize?`: the steps.
* `Grid.SameValues.echelon`, `Grid.SameValues.reducedEchelon`: the reductions.
-/

namespace ExactAlgebra

variable {m n : ℕ}

/-- Two reductions went through the same pivots and led to equal grids, or both to none. -/
structure Elimination.SameValues (e f : Elimination m n) : Prop where
  /-- The pivots are the same. -/
  pivots : e.pivots = f.pivots
  /-- The results are equal, or there is none. -/
  result? : Option.Rel Grid.SameValues e.result? f.result?

theorem Elimination.SameValues.swaps_eq {e f : Elimination m n} (same : e.SameValues f) :
    e.swaps = f.swaps := by
  rw [swaps, swaps, same.pivots]

namespace Grid.SameValues

variable {g h : Grid m n}

/-! ## Searches -/

/-- The search for a pivot in one column only asks which cells are zero, so it ends in the same row of equal
grids. -/
theorem pivotRow?_eq (same : g.SameValues h) (k : ℕ) (c : Fin n) : g.pivotRow? k c = h.pivotRow? k c := by
  have zeros : (fun r : Fin m => decide (k ≤ r.val) && !(g.cell r c).isZero) =
      fun r => decide (k ≤ r.val) && !(h.cell r c).isZero :=
    funext fun r => by rw [(same r c).isZero_eq]
  rw [pivotRow?, pivotRow?, zeros]

/-- The pivot of a step is at the same place in equal grids: the columns are searched in the same order, and
each search ends alike. -/
theorem findPivot?_eq (same : g.SameValues h) (k : ℕ) : g.findPivot? k = h.findPivot? k := by
  simp only [findPivot?, same.pivotRow?_eq k]

theorem leadingColumns_eq (same : g.SameValues h) : g.leadingColumns = h.leadingColumns :=
  Vector.ext fun i lt => by
    have row := (same.get ⟨i, lt⟩).leadingColumn?_eq
    rwa [← get_leadingColumns, ← get_leadingColumns] at row

/-! ## Steps -/

/-- Below the pivot a row is cleared by a quotient of two cells. In equal grids the same rows need one; either
all of these exist in both grids, or one is missing in both. -/
theorem clearBelow? (same : g.SameValues h) (k : Fin m) (c : Fin n) :
    Option.Rel SameValues (g.clearBelow? k c) (h.clearBelow? k c) := by
  refine Rel.ofFnM (R := Row.SameValues) fun i => ?_
  rw [(same i c).isZero_eq]
  split
  · exact .some (same i)
  · refine Rel.map ((same i c).divide? (same k c)) fun _ _ factor => ?_
    exact (same.get i).addMultiple (same.get k) factor.neg

/-- Rows are divided by the cells where they begin, which are at the same places and have equal values. So the
quotients exist in both grids or in none of them. -/
theorem normalize? (same : g.SameValues h) : Option.Rel SameValues g.normalize? h.normalize? := by
  refine Rel.ofFnM (R := Row.SameValues) fun i => ?_
  rw [(same.get i).leadingColumn?_eq]
  split
  · exact .some (same i)
  · exact (same.get i).divide? (same i _)

/-- Above a leading cell multiples of its row are taken away, as often as the cell to be cleared says; no
quotient is needed for that. -/
theorem clearAbove (same : g.SameValues h) (i : Fin m) (c : Fin n) :
    (g.clearAbove i c).SameValues (h.clearAbove i c) := fun r => by
  show Row.SameValues ((g.clearAbove i c).get r) ((h.clearAbove i c).get r)
  rw [Grid.clearAbove, Grid.clearAbove, get_ofFn, get_ofFn, (same r c).isZero_eq]
  split
  · exact same r
  · exact (same.get r).addMultiple (same.get i) (same r c).neg

theorem clearLead (same : g.SameValues h) (leading : Vector (Option (Fin n)) m) (i : Fin m) :
    (Grid.clearLead leading i g).SameValues (Grid.clearLead leading i h) := by
  rw [Grid.clearLead, Grid.clearLead]
  split
  · exact same
  · exact same.clearAbove i _

/-- The leading columns are cleared row by row. -/
theorem clearLeading (same : g.SameValues h) (leading : Vector (Option (Fin n)) m) :
    (Grid.clearLeading leading g).SameValues (Grid.clearLeading leading h) := by
  rw [Grid.clearLeading, Grid.clearLeading]
  induction List.finRange m with
  | nil => exact same
  | cons i rows ih => exact ih.clearLead leading i

/-! ## Reductions -/

/-- One step after the other, the pivots and the steps are the same. -/
theorem eliminate (same : g.SameValues h) (steps : List ℕ) :
    (Grid.eliminate steps g).SameValues (Grid.eliminate steps h) := by
  induction steps generalizing g h with
  | nil => exact ⟨rfl, .some same⟩
  | cons k steps ih =>
    rw [Grid.eliminate, Grid.eliminate]
    split
    case isFalse => exact ⟨rfl, .some same⟩
    case isTrue below =>
      rw [same.findPivot?_eq k]
      split
      · exact ⟨rfl, .some same⟩
      · rename_i r c _
        have cleared := (same.swapRows ⟨k, below⟩ r).clearBelow? ⟨k, below⟩ c
        obtain ⟨left, right⟩ | ⟨g', h', left, right, next⟩ := Rel.eq_none_or_some cleared
        · rw [left, right]
          exact ⟨rfl, .none⟩
        · rw [left, right]
          have rest := ih next
          exact ⟨congrArg (List.cons ⟨k, r, c⟩) rest.pivots, rest.result?⟩

/-- **Equal grids have equal echelon forms.** The pivots are the same, and the reductions both get to their end
or are both stopped, at the same step, by a quotient that does not exist. -/
theorem echelon (same : g.SameValues h) : g.echelon.SameValues h.echelon := by
  rw [Grid.echelon, Grid.echelon]
  split
  · exact ⟨rfl, .some same⟩
  · exact same.eliminate _

/-- The reduced forms are equal as well: full reduction is elimination, division by the leading cells and
clearing above them, and each of these respects equality. -/
theorem reducedEchelon (same : g.SameValues h) : g.reducedEchelon.SameValues h.reducedEchelon := by
  refine ⟨same.echelon.pivots, Rel.bind same.echelon.result? fun r s reduced => ?_⟩
  refine Rel.map reduced.normalize? fun _ _ normal => ?_
  rw [reduced.leadingColumns_eq]
  exact normal.clearLeading _

/-! ## What is read off -/

/-- Equal grids have the same number of rows with a cell that is not zero, and so the same rank, if they have
one. -/
theorem nonzeroRows_eq (same : g.SameValues h) : g.nonzeroRows = h.nonzeroRows := by
  have leading : g.toList.map Row.leadingColumn? = h.toList.map Row.leadingColumn? := by
    rw [← Vector.toList_map, ← Vector.toList_map]
    exact congrArg Vector.toList same.leadingColumns_eq
  have count (g : Grid m n) :
      g.nonzeroRows = ((g.toList.map Row.leadingColumn?).filter Option.isSome).length := by
    rw [nonzeroRows, List.filter_map, List.length_map]
    rfl
  rw [count g, count h, leading]

/-- The product of the diagonal is a product of equal quantities, place by place. The induction is on the
places, for any two equal products so far. -/
theorem diagonalProduct {g h : Grid n n} (same : g.SameValues h) :
    g.diagonalProduct.SameValue h.diagonalProduct := by
  unfold Grid.diagonalProduct
  have products : ∀ product product' : Quantity, product.SameValue product' →
      ((List.finRange n).foldl (fun product i => product * g.cell i i) product).SameValue
        ((List.finRange n).foldl (fun product i => product * h.cell i i) product') := by
    induction List.finRange n with
    | nil => exact fun _ _ start => start
    | cons i rest ih => exact fun _ _ start => ih _ _ (start.mul (same i i))
  exact products 1 1 rfl

theorem isUpperTriangular_eq {g h : Grid n n} (same : g.SameValues h) :
    g.isUpperTriangular = h.isUpperTriangular := by
  have zeros : ∀ i j, (g.cell i j).isZero = (h.cell i j).isZero := fun i j => (same i j).isZero_eq
  simp only [isUpperTriangular, zeros]

end Grid.SameValues

end ExactAlgebra
