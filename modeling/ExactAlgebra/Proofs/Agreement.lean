import ExactAlgebra.Logged
import ExactAlgebra.Matrix.Product
import ExactAlgebra.Proofs.Equality
import ExactAlgebra.Proofs.QuantityParts

/-!
# Computations on equal values

Two computations that start from equal values and take the same steps end in equal values, or fail with
the same error. For the arithmetic of quantities this is so because each operation is described by the
parts of its operands, in which the kinds do not occur; from there it is carried through everything that
is built of it: what a function of cells makes of a row or a grid, it makes of an equal one as well.

## Main definitions

* `Agree`: two outcomes are related, or are one error.
* `Row.SameValues`: equality of values in rows.

## Main statements

* `Agree.bind`, `Agree.ofFnM`, `Rel.bind`, `Rel.ofFnM`: agreement goes through the ways to put
  computations together.
* `Quantity.SameValue.add` and its like: arithmetic respects equality.
* `Grid.SameValues.addRow` and its like: so do the operations on grids.
-/

namespace ExactAlgebra

/-! ## Outcomes -/

/-- Two computations end in related results, or both fail with one error. -/
inductive Agree {α β : Type} (R : α → β → Prop) : Except Error α → Except Error β → Prop
  | ok {a : α} {b : β} (related : R a b) : Agree R (.ok a) (.ok b)
  | error (e : Error) : Agree R (.error e) (.error e)

section Options

variable {α β γ δ : Type} {R : α → β → Prop} {S : γ → δ → Prop} {x : Option α} {y : Option β}

/-- A function applied under both options keeps them related, if it takes related values to related values;
nothing has to be known about the case without a value. -/
theorem Rel.map (first : Option.Rel R x y) {f : α → γ} {g : β → δ}
    (next : ∀ a b, R a b → S (f a) (g b)) : Option.Rel S (x.map f) (y.map g) := by
  cases first with
  | some related => exact .some (next _ _ related)
  | none => exact .none

/-- A second step that may fail keeps two options related, if it does so for related values: then both steps
give a value on the two sides, or one of them fails on both. -/
theorem Rel.bind (first : Option.Rel R x y) {f : α → Option γ} {g : β → Option δ}
    (next : ∀ a b, R a b → Option.Rel S (f a) (g b)) : Option.Rel S (x.bind f) (y.bind g) := by
  cases first with
  | some related => exact next _ _ related
  | none => exact .none

/-- Related options are both without a value, or have related values. -/
theorem Rel.eq_none_or_some (related : Option.Rel R x y) :
    (x = none ∧ y = none) ∨ ∃ a b, x = some a ∧ y = some b ∧ R a b := by
  cases related with
  | some related => exact Or.inr ⟨_, _, rfl, rfl, related⟩
  | none => exact Or.inl ⟨rfl, rfl⟩

end Options

section Vectors

variable {α β : Type} {R : α → β → Prop} {n : ℕ}

/-- Vectors are related place by place, also with one more element at the end. -/
theorem forall_get_push {v : Vector α n} {w : Vector β n} {a : α} {b : β}
    (before : ∀ i, R (v.get i) (w.get i)) (last : R a b) (i : Fin (n + 1)) :
    R ((v.push a).get i) ((w.push b).get i) := by
  rw [get_eq_getElem, get_eq_getElem, Vector.getElem_push, Vector.getElem_push]
  split
  · exact before ⟨i, ‹_›⟩
  · exact last

theorem Rel.ofFnM {f : Fin n → Option α} {g : Fin n → Option β} (each : ∀ i, Option.Rel R (f i) (g i)) :
    Option.Rel (fun (v : Vector α n) w => ∀ i, R (v.get i) (w.get i)) (Vector.ofFnM f)
      (Vector.ofFnM g) := by
  induction n with
  | zero =>
    rw [Vector.ofFnM_zero, Vector.ofFnM_zero]
    exact .some fun i => Fin.elim0 i
  | succ n ih =>
    rw [Vector.ofFnM_succ, Vector.ofFnM_succ]
    refine Rel.bind (ih fun i => each i.castSucc) fun v w before => ?_
    exact Rel.bind (each (Fin.last n)) fun a b last => .some (forall_get_push before last)

/-- Vectors that are related place by place are related as lists, too. This is how sums of products, which run
over lists, are reached from rows. -/
theorem forall₂_toList {v : Vector α n} {w : Vector β n} (each : ∀ i, R (v.get i) (w.get i)) :
    List.Forall₂ R v.toList w.toList := by
  refine List.forall₂_iff_get.mpr ⟨by simp, fun i left right => ?_⟩
  rw [Vector.length_toList] at left
  have related := each ⟨i, left⟩
  rw [get_eq_getElem, get_eq_getElem] at related
  simpa using related

end Vectors

namespace Agree

variable {α β γ δ : Type} {R : α → β → Prop} {S : γ → δ → Prop}

/-- **Agreement goes through composition**: if the first steps agree, and the second ones agree on related
results, so do the whole computations. An error of the first step ends both of them in the same way. -/
theorem bind {x : Except Error α} {y : Except Error β} {f : α → Except Error γ}
    {g : β → Except Error δ} (first : Agree R x y) (next : ∀ a b, R a b → Agree S (f a) (g b)) :
    Agree S (x >>= f) (y >>= g) := by
  cases first with
  | ok related => exact next _ _ related
  | error e => exact .error e

/-- Outcomes that agree are one error, or related results. -/
theorem eq_error_or_ok {x : Except Error α} {y : Except Error β} (agree : Agree R x y) :
    (∃ e, x = .error e ∧ y = .error e) ∨ ∃ a b, x = .ok a ∧ y = .ok b ∧ R a b := by
  cases agree with
  | ok related => exact Or.inr ⟨_, _, rfl, rfl, related⟩
  | error e => exact Or.inl ⟨e, rfl, rfl⟩

/-- Every computation agrees with itself when results are related to themselves. It is used for the arguments of
a request that do not differ at all. -/
theorem refl {R : α → α → Prop} (reflexive : ∀ a, R a a) (x : Except Error α) : Agree R x x := by
  cases x with
  | ok a => exact .ok (reflexive a)
  | error e => exact .error e

/-- What both computations start with may be the same. This is used for indices and flags, which are shared by
the two requests that are compared. -/
theorem bind_same (x : Except Error α) {f : α → Except Error γ} {g : α → Except Error δ}
    (next : ∀ a, Agree S (f a) (g a)) : Agree S (x >>= f) (x >>= g) := by
  cases x with
  | ok a => exact next a
  | error e => exact .error e

/-- Where related options are asked for a value, and the error is the same if there is none, the outcomes
agree. -/
theorem orFail (e : Error) {a : Option α} {b : Option β} (related : Option.Rel R a b) :
    Agree R (orFail e a) (orFail e b) := by
  cases related with
  | some related => exact .ok related
  | none => exact .error e

/-- Computations for the places of two vectors, each agreeing with the one at the same place, agree as a whole.
The first place that fails is the same in both, and so is its error. -/
theorem ofFnM {n : ℕ} {f : Fin n → Except Error α} {g : Fin n → Except Error β}
    (each : ∀ i, Agree R (f i) (g i)) :
    Agree (fun (v : Vector α n) w => ∀ i, R (v.get i) (w.get i)) (Vector.ofFnM f)
      (Vector.ofFnM g) := by
  induction n with
  | zero =>
    rw [Vector.ofFnM_zero, Vector.ofFnM_zero]
    exact .ok fun i => Fin.elim0 i
  | succ n ih =>
    rw [Vector.ofFnM_succ, Vector.ofFnM_succ]
    refine (ih fun i => each i.castSucc).bind fun v w before => ?_
    exact (each (Fin.last n)).bind fun a b last => .ok (forall_get_push before last)

/-- The outcomes of logged computations agree whatever they report. -/
theorem outcome_bind {x : Logged α} {y : Logged β} {f : α → Logged γ} {g : β → Logged δ}
    (first : Agree R x.outcome y.outcome) (next : ∀ a b, R a b → Agree S (f a).outcome (g b).outcome) :
    Agree S (x >>= f).outcome (y >>= g).outcome := by
  rw [Logged.outcome_bind, Logged.outcome_bind]
  exact first.bind next

/-- A logged computation that both sides have in common may come first. It reports the same on both sides, of
which nothing has to be said, since only outcomes are compared. -/
theorem outcome_bind_same (x : Logged α) {f : α → Logged γ} {g : α → Logged δ}
    (next : ∀ a, Agree S (f a).outcome (g a).outcome) :
    Agree S (x >>= f).outcome (x >>= g).outcome := by
  rw [Logged.outcome_bind, Logged.outcome_bind]
  exact bind_same _ next

end Agree

/-! ## Arithmetic -/

namespace Quantity.SameValue

variable {p p' q q' : Quantity}

/-- Sums of equal quantities are equal. The kinds may differ in every way: the parts of a sum are the sums of
the parts, in whichever kind they are computed. -/
theorem add (left : p.SameValue p') (right : q.SameValue q') : (p + q).SameValue (p' + q') := by
  rw [sameValue_iff] at *
  rw [re_add, re_add, im_add, im_add, left.1, left.2, right.1, right.2]
  exact ⟨rfl, rfl⟩

/-- Products of equal quantities are equal: the parts of a product are given by the parts of its factors alone,
and a zero imaginary part takes nothing away from that. -/
theorem mul (left : p.SameValue p') (right : q.SameValue q') : (p * q).SameValue (p' * q') := by
  rw [sameValue_iff] at *
  rw [re_mul, re_mul, im_mul, im_mul, left.1, left.2, right.1, right.2]
  exact ⟨rfl, rfl⟩

theorem neg (same : p.SameValue p') : (-p).SameValue (-p') := by
  rw [sameValue_iff] at *
  rw [re_neg, re_neg, im_neg, im_neg, same.1, same.2]
  exact ⟨rfl, rfl⟩

/-- Whether a quantity is zero is seen from its value. Together with the laws of arithmetic this is all that a
reduction asks of its cells. -/
theorem isZero_eq (same : p.SameValue p') : p.isZero = p'.isZero := by
  rw [sameValue_iff] at same
  rw [Bool.eq_iff_iff, isZero_iff, isZero_iff, same.1, same.2]

/-- Division by a divisor of the same value: there is a quotient in both cases, or in none. -/
theorem divide? (left : p.SameValue p') (right : q.SameValue q') :
    Option.Rel SameValue (p.divide? q) (p'.divide? q') := by
  rw [sameValue_iff] at left right
  have scale : q'.scale = q.scale := by rw [Quantity.scale, Quantity.scale, right.1, right.2]
  by_cases zero : q.scale = 0
  · rw [divide?_eq_none.mpr zero, divide?_eq_none.mpr (scale.trans zero)]
    exact .none
  · obtain ⟨r, defined, re, im⟩ := divide?_eq_some p zero
    obtain ⟨r', defined', re', im'⟩ := divide?_eq_some p' (scale ▸ zero)
    rw [defined, defined']
    refine .some (sameValue_iff.mpr ⟨?_, ?_⟩)
    · rw [re, re', scale, left.1, left.2, right.1, right.2]
    · rw [im, im', scale, left.1, left.2, right.1, right.2]

end Quantity.SameValue

/-- Sums of products of equal quantities are equal. This is the one place where more than two quantities come
together, and it stands for products of whole grids. -/
theorem dotProduct_sameValue {v v' u u' : List Quantity} (left : v.Forall₂ Quantity.SameValue v')
    (right : u.Forall₂ Quantity.SameValue u') :
    (dotProduct v u).SameValue (dotProduct v' u') := by
  unfold dotProduct
  -- The induction is on the sum so far.
  have sums : ∀ total total' : Quantity, total.SameValue total' →
      ((v.zip u).foldl (fun total pair => total + pair.1 * pair.2) total).SameValue
        ((v'.zip u').foldl (fun total pair => total + pair.1 * pair.2) total') := by
    induction left generalizing u u' with
    | nil => exact fun _ _ same => same
    | cons first _ ih =>
      cases right with
      | nil => exact fun _ _ same => same
      | cons second rest => exact fun _ _ same => ih rest _ _ (same.add (first.mul second))
  exact sums 0 0 rfl

/-! ## Rows -/

namespace Row

variable {n : ℕ} {r r' s s' : Row n} {p q : Quantity}

/-- Two rows have the same values cell by cell. -/
def SameValues (r s : Row n) : Prop := ∀ j : Fin n, (r.get j).SameValue (s.get j)

theorem get_setCell (r : Row n) (j c : Fin n) (q : Quantity) :
    (r.setCell j q).get c = if c = j then q else r.get c := by
  by_cases h : j.val = c.val <;> simp_all [setCell, get_eq_getElem, Fin.ext_iff, eq_comm]

theorem get_swapCells (r : Row n) (a b c : Fin n) :
    (r.swapCells a b).get c = if c = a then r.get b else if c = b then r.get a else r.get c := by
  simp [swapCells, get_eq_getElem, Vector.getElem_swap, Fin.ext_iff]

namespace SameValues

/-- Equal quantities written to the same place of equal rows leave equal rows; the other cells are not
touched. -/
theorem setCell (same : r.SameValues s) (j : Fin n) (value : p.SameValue q) :
    (r.setCell j p).SameValues (s.setCell j q) := fun c => by
  rw [get_setCell, get_setCell]
  split
  · exact value
  · exact same c

theorem swapCells (same : r.SameValues s) (a b : Fin n) :
    (r.swapCells a b).SameValues (s.swapCells a b) := fun c => by
  rw [get_swapCells, get_swapCells]
  split
  · exact same b
  · split
    · exact same a
    · exact same c

theorem map_mul (same : r.SameValues s) (scalar : p.SameValue q) :
    SameValues (r.map (· * p)) (s.map (· * q)) := fun j => by
  simp only [get_eq_getElem, Vector.getElem_map]
  exact (same j).mul scalar

/-- Equal multiples of equal rows, added to equal rows, leave equal rows. This is the step of every
elimination. -/
theorem addMultiple (same : r.SameValues s) (addend : r'.SameValues s') (scalar : p.SameValue q) :
    (r.addMultiple r' p).SameValues (s.addMultiple s' q) := fun j => by
  rw [get_addMultiple, get_addMultiple]
  exact (same j).add ((addend j).mul scalar)

/-- Equal rows can be divided by equal quantities or cannot, on both sides alike; where they can, the quotients
are equal rows. -/
theorem divide? (same : r.SameValues s) (divisor : p.SameValue q) :
    Option.Rel SameValues (r.divide? p) (s.divide? q) :=
  Rel.ofFnM fun j => (same j).divide? divisor

/-- The search for the cell where a row begins only asks which cells are zero, so it ends at the same place in
equal rows. -/
theorem leadingColumn?_eq (same : r.SameValues s) : r.leadingColumn? = s.leadingColumn? := by
  have zeros : (fun j => !(r.get j).isZero) = fun j => !(s.get j).isZero :=
    funext fun j => by rw [(same j).isZero_eq]
  rw [leadingColumn?, leadingColumn?, zeros]

end SameValues

end Row

/-! ## Grids -/

namespace Grid

variable {m n k : ℕ} {g g' h h' : Grid m n} {p q : Quantity}

theorem get_setRow (g : Grid m n) (i r : Fin m) (row : Row n) :
    (g.setRow i row).get r = if r = i then row else g.get r := by
  by_cases h : i.val = r.val <;> simp_all [setRow, get_eq_getElem, Fin.ext_iff, eq_comm]

namespace SameValues

theorem get (same : g.SameValues h) (i : Fin m) : Row.SameValues (g.get i) (h.get i) := same i

/-- A row put in place of another one leaves equal grids equal, if the rows put there are. All the row
operations that follow are instances of this one, with their own rows. -/
theorem setRow (same : g.SameValues h) (i : Fin m) {r s : Row n} (row : r.SameValues s) :
    (g.setRow i r).SameValues (h.setRow i s) := fun i' => by
  show Row.SameValues ((g.setRow i r).get i') ((h.setRow i s).get i')
  rw [get_setRow, get_setRow]
  split
  · exact row
  · exact same i'

theorem setCell (same : g.SameValues h) (i : Fin m) (j : Fin n) (value : p.SameValue q) :
    (g.setCell i j p).SameValues (h.setCell i j q) :=
  same.setRow i ((same.get i).setCell j value)

/-- An exchange of rows is seen row by row, so that equal grids stay equal; that the two indices may be one
needs no case of its own. -/
theorem swapRows (same : g.SameValues h) (a b : Fin m) :
    (g.swapRows a b).SameValues (h.swapRows a b) := fun i => by
  show Row.SameValues ((g.swapRows a b).get i) ((h.swapRows a b).get i)
  rw [get_swapRows, get_swapRows]
  split
  · exact same b
  · split
    · exact same a
    · exact same i

theorem multiplyRow (same : g.SameValues h) (i : Fin m) (scalar : p.SameValue q) :
    (g.multiplyRow i p).SameValues (h.multiplyRow i q) :=
  same.setRow i ((same.get i).map_mul scalar)

/-- A row that is divided by equal quantities: either no quotient exists in both grids, which are then left
alone, or equal rows are put in place. -/
theorem divideRow? (same : g.SameValues h) (i : Fin m) (divisor : p.SameValue q) :
    Option.Rel SameValues (g.divideRow? i p) (h.divideRow? i q) :=
  Rel.map ((same.get i).divide? divisor) fun _ _ row => same.setRow i row

/-- A multiple of one row is added to another, or to itself. In both grids the same two rows are meant, so the
results are equal. -/
theorem addRow (same : g.SameValues h) (i addend : Fin m) (scalar : p.SameValue q) :
    (g.addRow i addend p).SameValues (h.addRow i addend q) :=
  same.setRow i ((same.get i).addMultiple (same.get addend) scalar)

theorem scale (same : g.SameValues h) (scalar : p.SameValue q) :
    (g.scale p).SameValues (h.scale q) := fun i j => by
  rw [cell_scale, cell_scale]
  exact (same i j).mul scalar

theorem add (same : g.SameValues h) (same' : g'.SameValues h') :
    (g.add g').SameValues (h.add h') := fun i j => by
  rw [cell_add, cell_add]
  exact (same i j).add (same' i j)

theorem cast {k l : ℕ} (same : g.SameValues h) (rows : m = k) (columns : n = l) :
    (g.cast rows columns).SameValues (h.cast rows columns) := fun i j => by
  rw [cell_cast, cell_cast]
  exact same _ _

theorem transpose (same : g.SameValues h) : g.transpose.SameValues h.transpose := fun i j => by
  rw [cell_transpose, cell_transpose]
  exact same j i

/-- Products of equal grids are equal. A cell of the product is a sum of products of a row and a column, and the
columns are the rows of the transposed grid. -/
theorem multiply {f f' : Grid n k} (same : g.SameValues h) (same' : f.SameValues f') :
    (g.multiply f).SameValues (h.multiply f') := fun i j => by
  rw [Grid.multiply, Grid.multiply, cell_ofFn, cell_ofFn]
  exact dotProduct_sameValue (forall₂_toList (same i)) (forall₂_toList (same'.transpose j))

/-- Whether all cells of a grid are zero does not depend on their kinds, since it is the same for the grid in
which all cells are made complex. -/
theorem isZero_eq (same : g.SameValues h) : g.isZero = h.isZero := by
  have wide (g : Grid m n) : g.widen.isZero = g.isZero := by
    have zero : Quantity.isZero ∘ Quantity.widen = Quantity.isZero :=
      funext fun q => q.widen_sameValue.isZero_eq
    rw [Grid.isZero, Grid.isZero, cells, cells, widen, rows_mapCells, ← List.map_flatten, List.all_map,
      zero]
  rw [← wide g, ← wide h, sameValues_iff_widen.mp same]

end SameValues

end Grid

end ExactAlgebra
