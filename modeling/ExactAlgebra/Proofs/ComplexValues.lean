import ExactAlgebra.Matrix.Product
import ExactAlgebra.Proofs.RealGrid
import Mathlib.Data.Complex.Basic

/-!
# Quantities as complex numbers

A quantity denotes a complex number, and a grid of quantities a complex matrix; the kinds of the cells do
not show in them. Sums, products and negatives denote those of the field of complex numbers, so the row by
column product of grids denotes the product of matrices. Quotients do not, in general, and so there is no
lemma about them here.

## Main definitions

* `Quantity.value`, `Grid.value`: what a quantity and a grid denote.

## Main statements

* `Quantity.value_inj`: quantities that denote the same number.
* `Quantity.value_add`, `Quantity.value_mul`, `Quantity.value_neg`: arithmetic.
* `Grid.value_inj`: grids that denote the same matrix.
* `Grid.value_add`, `Grid.value_multiply` and their like: sums and products of grids.
* `Grid.IsReal.value_eq`: a grid on the real axis denotes its matrix of rational numbers.
-/

namespace ExactAlgebra

namespace Quantity

/-- The complex number that a quantity denotes. -/
noncomputable def value (q : Quantity) : ℂ := ⟨q.re, q.im⟩

/-- Quantities denote one number exactly if they count as equal. So every equation of complex numbers that is
found below says that two quantities compare as equal, whatever their kinds. -/
theorem value_inj {p q : Quantity} : p.value = q.value ↔ p.SameValue q := by
  rw [sameValue_iff, Complex.ext_iff]
  exact and_congr Rat.cast_inj Rat.cast_inj

/-- Zero is the only number whose quantities pass the test for zero. Both tests look at the two parts alone. -/
theorem value_eq_zero {q : Quantity} : q.value = 0 ↔ q.isZero = true := by
  rw [isZero_iff, Complex.ext_iff]
  exact and_congr Rat.cast_eq_zero Rat.cast_eq_zero

@[simp] theorem value_zero : (0 : Quantity).value = 0 := value_eq_zero.mpr rfl

/-- The negative denotes the negative. Rational numbers are put into the plane part by part, which is compatible
with the sign. -/
@[simp] theorem value_neg (q : Quantity) : (-q).value = -q.value := by
  refine Complex.ext ?_ ?_
  · exact (congrArg Rat.cast (re_neg q)).trans (Rat.cast_neg q.re)
  · exact (congrArg Rat.cast (im_neg q)).trans (Rat.cast_neg q.im)

@[simp] theorem value_add (p q : Quantity) : (p + q).value = p.value + q.value := by
  refine Complex.ext ?_ ?_
  · exact (congrArg Rat.cast (re_add p q)).trans (Rat.cast_add p.re q.re)
  · exact (congrArg Rat.cast (im_add p q)).trans (Rat.cast_add p.im q.im)

/-- **Products denote products.** The parts of a product of quantities are those that the multiplication of
complex numbers is defined by. -/
@[simp] theorem value_mul (p q : Quantity) : (p * q).value = p.value * q.value := by
  have parts : (p * q).value =
      ⟨(p.re * q.re - p.im * q.im : ℚ), (p.re * q.im + p.im * q.re : ℚ)⟩ := by
    rw [value, re_mul, im_mul]
  rw [parts]
  refine Complex.ext ?_ ?_
  · rw [Complex.mul_re, Rat.cast_sub, Rat.cast_mul, Rat.cast_mul]
    rfl
  · rw [Complex.mul_im, Rat.cast_add, Rat.cast_mul, Rat.cast_mul]
    rfl

@[simp] theorem value_zeroOf (k : NumberKind) : (zeroOf k).value = 0 := by
  cases k <;> exact value_eq_zero.mpr rfl

/-- There is a one of either kind, and both denote the number one: they can take each other's place in all that
follows. -/
@[simp] theorem value_oneOf (k : NumberKind) : (oneOf k).value = 1 := by
  have parts : (oneOf k).re = 1 ∧ (oneOf k).im = 0 := by cases k <;> exact ⟨rfl, rfl⟩
  rw [value, parts.1, parts.2, Rat.cast_one, Rat.cast_zero]
  rfl

/-- A quantity on the real axis denotes its real part. -/
theorem value_of_isReal {q : Quantity} (real : q.isReal = true) : q.value = (q.re : ℂ) := by
  refine Complex.ext (Complex.ratCast_re q.re).symm ?_
  rw [Complex.ratCast_im]
  exact Rat.cast_eq_zero.mpr (isReal_iff.mp real)

/-- A quantity that denotes a rational number lies on the real axis. -/
theorem isReal_of_value_eq {q : Quantity} {a : ℚ} (value : q.value = a) : q.isReal = true ∧ q.re = a := by
  rw [Quantity.value, Complex.ext_iff, Complex.ratCast_re, Complex.ratCast_im] at value
  exact ⟨isReal_iff.mpr (Rat.cast_eq_zero.mp value.2), Rat.cast_inj.mp value.1⟩

end Quantity

/-- The scalar product of two vectors denotes the sum of the products. -/
theorem value_dotProduct {n : ℕ} (v u : Vector Quantity n) :
    (dotProduct v.toList u.toList).value = ∑ k, (v.get k).value * (u.get k).value := by
  -- The sum is computed from the left, starting with any sum so far.
  have sums (pairs : List (Quantity × Quantity)) (total : Quantity) :
      (pairs.foldl (fun total pair => total + pair.1 * pair.2) total).value =
        total.value + (pairs.map fun pair => pair.1.value * pair.2.value).sum := by
    induction pairs generalizing total with
    | nil => exact (add_zero _).symm
    | cons pair pairs ih =>
      rw [List.foldl_cons, ih, Quantity.value_add, Quantity.value_mul, List.map_cons, List.sum_cons,
        add_assoc]
  have pairs : v.toList.zip u.toList = List.ofFn fun k => (v.get k, u.get k) := by
    refine List.ext_getElem (by simp) fun i _ _ => ?_
    simp [get_eq_getElem]
  rw [dotProduct, sums, Quantity.value_zero, zero_add, pairs, List.map_ofFn, List.sum_ofFn]
  rfl

namespace Grid

variable {m n p : ℕ} {g : Grid m n}

/-- The complex matrix that a grid denotes. -/
noncomputable def value (g : Grid m n) :=
  Matrix.of fun (i : Fin m) (j : Fin n) => (g.cell i j).value

theorem value_apply (g : Grid m n) (i : Fin m) (j : Fin n) : g.value i j = (g.cell i j).value := rfl

/-- The list of all cells holds just the cells of the grid. What is asked of all of them can so be asked place
by place. -/
theorem mem_cells {q : Quantity} : q ∈ g.cells ↔ ∃ (i : Fin m) (j : Fin n), g.cell i j = q := by
  simp only [cells, rows, List.mem_flatten, List.mem_map]
  constructor
  · rintro ⟨_, ⟨row, mem, rfl⟩, cell⟩
    obtain ⟨i, lt, rfl⟩ := Vector.mem_iff_getElem.mp (Vector.mem_toList_iff.mp mem)
    obtain ⟨j, lt', rfl⟩ := Vector.mem_iff_getElem.mp (Vector.mem_toList_iff.mp cell)
    exact ⟨⟨i, lt⟩, ⟨j, lt'⟩, rfl⟩
  · rintro ⟨i, j, rfl⟩
    exact ⟨(g.get i).toList, ⟨g.get i, by simp [get_eq_getElem], rfl⟩, by simp [cell, get_eq_getElem]⟩

theorem isZero_iff_forall : g.isZero = true ↔ ∀ (i : Fin m) (j : Fin n), (g.cell i j).isZero = true := by
  rw [isZero, List.all_eq_true]
  constructor
  · intro all i j
    exact all _ (mem_cells.mpr ⟨i, j, rfl⟩)
  · intro all q mem
    obtain ⟨i, j, rfl⟩ := mem_cells.mp mem
    exact all i j

/-- A grid is zero, as it is tested cell by cell, exactly if the matrix that it denotes is. -/
theorem isZero_iff : g.isZero = true ↔ g.value = 0 := by
  rw [isZero_iff_forall]
  constructor
  · intro zero
    funext i j
    exact Quantity.value_eq_zero.mpr (zero i j)
  · intro zero i j
    exact Quantity.value_eq_zero.mp (congrFun (congrFun zero i) j)

/-- Grids have the same values when they denote one matrix. -/
theorem value_inj {h : Grid m n} : g.value = h.value ↔ g.SameValues h := by
  rw [← Matrix.ext_iff]
  exact forall_congr' fun _ => forall_congr' fun _ => Quantity.value_inj

/-- The sum of two grids denotes the sum of matrices. As everything here that is computed cell by cell, it is
read off from the arithmetic of quantities. -/
theorem value_add (g h : Grid m n) : (g.add h).value = g.value + h.value := by
  funext i j
  rw [value_apply, cell_add, Quantity.value_add]
  rfl

/-- A multiple of a grid denotes the multiple of its matrix. The cells are multiplied from the right and the
scalar acts from the left; multiplication of complex numbers does not mind. -/
theorem value_scale (g : Grid m n) (q : Quantity) : (g.scale q).value = q.value • g.value := by
  funext i j
  rw [value_apply, cell_scale, Quantity.value_mul, mul_comm]
  rfl

/-- The transposed grid denotes the transposed matrix: only the places of the cells have changed. -/
theorem value_transpose (g : Grid m n) : g.transpose.value = g.value.transpose := by
  funext i j
  rw [value_apply, cell_transpose]
  rfl

/-- An identity grid denotes the unit matrix, with cells of either kind. -/
theorem value_identity (n : ℕ) (k : NumberKind) : (identity n k).value = 1 := by
  funext i j
  rw [value_apply, identity, cell_ofFn, Matrix.one_apply]
  split_ifs
  · exact Quantity.value_oneOf k
  · exact Quantity.value_zeroOf k

/-- The row by column product denotes the product of matrices. -/
theorem value_multiply (g : Grid m n) (h : Grid n p) : (g.multiply h).value = g.value * h.value := by
  funext i j
  rw [value_apply, multiply, cell_ofFn, value_dotProduct, Matrix.mul_apply]
  refine Finset.sum_congr rfl fun k _ => ?_
  rw [value_apply, value_apply, ← cell_transpose h j k]

/-- A grid on the real axis denotes its matrix of rational numbers. -/
theorem IsReal.value_eq (real : g.IsReal) : g.value = g.re.map fun a => (a : ℂ) := by
  funext i j
  exact Quantity.value_of_isReal (real i j)

end Grid

end ExactAlgebra
