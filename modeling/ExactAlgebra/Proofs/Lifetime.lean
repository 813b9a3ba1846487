import ExactAlgebra.Exchange.Array
import ExactAlgebra.Exchange.Sparse
import ExactAlgebra.Exchange.Symbolic
import ExactAlgebra.Matrix.Request
import ExactAlgebra.Operand.Operators
import ExactAlgebra.Operand.Reader
import ExactAlgebra.Proofs.Equality
import ExactAlgebra.Storage.MatrixFile

/-!
# Matrices over their lifetime

Whatever a matrix is made of and whatever is asked of it afterwards, its form and its shape stay what they
were, and its cells stay numbers in lowest terms. Much of this is in the types. What is not is the life of
an identity matrix: only one constructor makes matrices of identity form, no change gets past the look at
the write protection, which comes before everything else, and everything that is made of such a matrix can
be changed again.

## Main definitions

* `Yields`: whatever a computation results in has a property.
* `Matrix.afterAll`: the matrix that a sequence of requests leaves behind.
* `Matrix.Obtained`: the matrices that can be had at all.

## Main statements

* `Matrix.after_eq_withGrid`, `Matrix.after_of_readOnly`: one request.
* `Matrix.afterAll_eq_withGrid`, `Matrix.afterAll_of_readOnly`: a sequence of requests.
* `Matrix.yields_answer`: matrices that are answered with are writable.
* `Matrix.Obtained.eq_identity`: a read-only matrix is an identity matrix.
* `Matrix.Obtained.lifetime`: what holds of a matrix throughout its life.
-/

namespace ExactAlgebra

/-! ## Results with a property -/

/-- Whatever a computation results in has a property, if there is a result. -/
def Yields {α : Type} (P : α → Prop) (x : Except Error α) : Prop := ∀ a, x = .ok a → P a

namespace Yields

variable {α β : Type} {P : α → Prop} {Q : β → Prop}

theorem ok {a : α} (h : P a) : Yields P (.ok a) := by
  intro b same
  cases same
  exact h

/-- Where there is no result nothing is claimed. So all the ways in which something can fail are passed over in
what follows. -/
theorem error (e : Error) : Yields P (.error e) := nofun

/-- The property has to be shown for the last step of a computation only, but the results of the steps before
may be used for it. -/
theorem bind {x : Except Error β} {f : β → Except Error α} (next : ∀ b, x = .ok b → Yields P (f b)) :
    Yields P (x >>= f) := by
  intro a ok
  obtain ⟨b, first, rest⟩ := of_bind_ok ok
  exact next b first a rest

/-- The same for computations that report what they do. -/
theorem after {x : Logged β} {f : β → Logged α} (next : ∀ b, x.outcome = .ok b → Yields P (f b).outcome) :
    Yields P (x >>= f).outcome := by
  rw [Logged.outcome_bind]
  exact bind next

/-- A result that is turned into something else: here the property of the first result carries the one of the
second. -/
theorem map {x : Except Error β} (first : Yields Q x) {f : β → α} (next : ∀ b, Q b → P (f b)) :
    Yields P (x.map f) := by
  cases x with
  | error e => exact error e
  | ok b => exact ok (next b (first b rfl))

end Yields

/-- If the value is a matrix, the matrix can be changed. -/
def Operand.IsWritable (v : Operand) : Prop := ∀ m mark, v = .matrix m mark → m.readOnly = false

/-- A matrix that can be changed is a value of which this may be said. Values that are no matrices trivially are
such. -/
theorem Operand.isWritable_ofMatrix {m : Matrix} (writable : m.readOnly = false) :
    (ofMatrix m).IsWritable := by
  intro o mark same
  cases same
  exact writable

namespace Matrix

variable {m : Matrix}

/-- The matrix can be changed. -/
abbrev IsWritable (m : Matrix) : Prop := m.readOnly = false

/-! ## Requests -/

/-- The matrix that a sequence of requests leaves behind, whether they succeed or not. -/
def afterAll (m : Matrix) (requests : List Request) : Matrix := requests.foldl after m

/-- One request changes nothing but cells. -/
theorem after_eq_withGrid (m : Matrix) (request : Request) : ∃ g, m.after request = m.withGrid g := by
  cases request with
  | change c =>
    show ∃ g, (m.mutate c).1 = m.withGrid g
    unfold mutate
    cases m.objection? c with
    | some e => exact ⟨m.grid, rfl⟩
    | none => exact ⟨(m.edit c).grid, rfl⟩
  | _ => exact ⟨m.grid, rfl⟩

/-- A sequence of requests changes nothing but cells. -/
theorem afterAll_eq_withGrid (m : Matrix) (requests : List Request) :
    ∃ g, m.afterAll requests = m.withGrid g := by
  induction requests generalizing m with
  | nil => exact ⟨m.grid, rfl⟩
  | cons request requests ih =>
    obtain ⟨g, first⟩ := m.after_eq_withGrid request
    obtain ⟨h, rest⟩ := ih (m.withGrid g)
    refine ⟨h, ?_⟩
    rw [afterAll, List.foldl_cons, first]
    exact rest

/-- A change of a read-only matrix is refused before anything else is looked at. -/
theorem mutate_of_readOnly (readOnly : m.readOnly = true) (change : Mutation) :
    m.mutate change = (m, .fail (.shape (.readOnly .identity change.attempt))) := by
  have form : m.form = .identity := eq_of_beq readOnly
  have refused : m.objection? change = some (.shape (.readOnly .identity change.attempt)) := by
    unfold objection?
    rw [form, readOnly]
    cases change.reductionName? <;> rfl
  rw [mutate, refused]

/-- A request leaves a read-only matrix as it is. -/
theorem after_of_readOnly (readOnly : m.readOnly = true) (request : Request) : m.after request = m := by
  cases request with
  | change c => exact congrArg Prod.fst (mutate_of_readOnly readOnly c)
  | _ => rfl

/-- A sequence of requests leaves a read-only matrix as it is. -/
theorem afterAll_of_readOnly (readOnly : m.readOnly = true) (requests : List Request) :
    m.afterAll requests = m := by
  induction requests with
  | nil => rfl
  | cons request requests ih =>
    rw [afterAll, List.foldl_cons, after_of_readOnly readOnly]
    exact ih

/-! ## Matrices made of matrices -/

/-- A sum is made in a copy of the first matrix, and a copy of an identity matrix is a square matrix that can be
changed. -/
theorem yields_add (m o : Matrix) : Yields IsWritable (m.add o) := by
  unfold add
  split
  · exact .ok (readOnly_copy m)
  · exact .error _

theorem yields_multiply (m o : Matrix) : Yields IsWritable (m.multiply o) := by
  unfold multiply
  split
  · exact .ok rfl
  · exact .error _

/-- A matrix that is turned into a square one is a new matrix again, whatever it was before. -/
theorem yields_toSquare (m : Matrix) : Yields IsWritable m.toSquare := by
  unfold toSquare
  split
  · exact .ok rfl
  · exact .error _

/-- The matrices that are answered with are writable. -/
theorem yields_answer (m : Matrix) (request : Request) :
    Yields Operand.IsWritable (m.answer request).outcome := by
  cases request with
  | copy => exact .ok (Operand.isWritable_ofMatrix (readOnly_copy m))
  | scale s =>
    refine .after fun _ _ => .after fun q _ => .ok ?_
    exact Operand.isWritable_ofMatrix (readOnly_copy m)
  | add v =>
    refine .after fun _ _ => .after fun o _ => .after fun sum added => .ok ?_
    exact Operand.isWritable_ofMatrix (yields_add m o sum added)
  | multiply v =>
    refine .after fun _ _ => .after fun o _ => .after fun product multiplied => .ok ?_
    exact Operand.isWritable_ofMatrix (yields_multiply m o product multiplied)
  | transpose => exact .after fun _ _ => .ok (Operand.isWritable_ofMatrix rfl)
  -- All other requests are answered with something else than a matrix.
  | entries => exact .ok nofun
  | rank => exact .after fun _ _ => .after fun _ _ => .ok nofun
  | change | cell | row | column | isZero | det | isTriangular => exact .after fun _ _ => .ok nofun

/-- What an operator makes of a matrix is writable. -/
theorem yields_operateMatrix (operator : Operator) (m : Matrix) (v : Operand) :
    Yields Operand.IsWritable (Operand.operateMatrix operator m v) := by
  unfold Operand.operateMatrix
  split
  · exact (yields_add m _).map fun _ => Operand.isWritable_ofMatrix
  · exact (yields_multiply m _).map fun _ => Operand.isWritable_ofMatrix
  · exact .error _
  · exact .bind fun _ _ => .ok (Operand.isWritable_ofMatrix (readOnly_copy m))
  · exact .bind fun _ _ => .bind fun _ _ => .error _
  all_goals exact .error _

/-! ## Matrices made of other things -/

/-- The constructor of matrices of any shape makes none of identity form, as it is told a form that is not
square. -/
theorem yields_construct (form : Form) (plain : form.isSquare = false)
    (rows columns entries kind : Operand) :
    Yields IsWritable (construct form plain rows columns entries kind) := by
  refine .bind fun r _ => .bind fun c _ => .bind fun g _ => .ok ?_
  cases form with
  | operable | general => rfl
  | square | identity => cases plain

theorem yields_constructSquare (dimension entries kind : Operand) :
    Yields IsWritable (constructSquare dimension entries kind) :=
  .bind fun _ _ => .bind fun _ _ => .ok rfl

/-- The one constructor of matrices that cannot be changed. -/
theorem yields_constructIdentity (dimension kind : Operand) :
    Yields (fun m => ∃ k, m = identity m.rowCount m.rowCount_pos k) (constructIdentity dimension kind) :=
  .bind fun _ _ => .bind fun k _ => .ok ⟨k, rfl⟩

/-- Matrices that are made of a shape are square in form or general, depending on the shape. Nearly all of what
follows ends with this. -/
theorem readOnly_ofShape {r c : ℕ} (g : Grid r c) (rows : 0 < r) (columns : 0 < c) :
    (ofShape g rows columns).readOnly = false := by
  unfold ofShape
  split <;> rfl

/-- Rows of any elements, put together. The elements may fail to be quantities, or the rows to have one length;
what is made otherwise can be changed. -/
theorem yields_assemble {α : Type} (convert : α → Except Error Quantity) (rows : List (List α)) :
    Yields IsWritable (assemble convert rows).outcome := by
  cases rows with
  | nil => exact .error _
  | cons first others =>
    unfold assemble
    simp only
    split_ifs with empty rect
    · exact .error _
    · exact .after fun _ _ => .after fun g _ => .ok (readOnly_ofShape g _ _)
    · split <;> exact .error _

theorem yields_fromOperand (rows : Operand) : Yields IsWritable (fromOperand rows).outcome :=
  .after fun _ _ => yields_assemble _ _

/-- A text is read and its numbers are put together like other rows, so no text gives a matrix of identity form,
not even the text of an identity matrix. -/
theorem yields_parse (text : String) : Yields IsWritable (parse text).outcome :=
  .after fun _ _ => yields_assemble _ _

theorem yields_ofElements (shape : List ℕ) (elements : List Operand) :
    Yields IsWritable (ofElements shape elements).outcome := by
  unfold ofElements
  split
  · split
    · exact .error _
    · exact .after fun _ _ => yields_assemble _ _
  · exact .error _

/-- The entries of a sparse form are added up in a grid, and the rows of this grid are put together. -/
theorem yields_ofSparse (s : SparseMatrix) : Yields IsWritable (ofSparse s).outcome := by
  unfold ofSparse
  split
  · exact .error _
  · exact .after fun _ _ => yields_assemble _ _

theorem yields_ofSymbolic (rows columns : ℕ) (cells : List SymbolicNumber) :
    Yields IsWritable (ofSymbolic rows columns cells).outcome := by
  unfold ofSymbolic
  split_ifs
  · exact .error _
  · exact .error _
  · exact .after fun _ _ => yields_assemble _ _

/-- A request to read a matrix from a value fails unless the value is text. -/
theorem yields_readMatrix (v : Operand) : Yields IsWritable v.readMatrix.outcome := by
  unfold Operand.readMatrix
  split
  · exact .error _
  · exact .after fun _ _ => yields_parse _

/-- The records of a file are the rows, and these are put together like all other rows. A file without records,
or with bytes that are no text, gives no matrix. -/
theorem yields_readRecords (f : File) (encoding : String) :
    Yields IsWritable (f.readRecords encoding).outcome := by
  refine .after fun _ _ => .after fun e _ => .after fun rows _ => ?_
  split
  · exact .error _
  · split
    · exact .error _
    · exact yields_assemble _ _

/-- A matrix that is loaded is one that was read from text, after the text had been unpacked and decoded. -/
theorem yields_load (f : File) (encoding : String) : Yields IsWritable (f.load encoding).outcome :=
  .after fun _ _ => .after fun _ _ => .after fun _ _ => .after fun _ _ => yields_parse _

/-! ## Lives -/

/-- The matrices that can be had: from a constructor, a parser, a file or a conversion, or from a matrix that
was had before, as what it was turned into, answered with, or became. -/
inductive Obtained : Matrix → Prop
  | construct {form plain} {rows columns entries kind : Operand} {m} :
      Matrix.construct form plain rows columns entries kind = .ok m → Obtained m
  | constructSquare {dimension entries kind : Operand} {m} :
      Matrix.constructSquare dimension entries kind = .ok m → Obtained m
  | constructIdentity {dimension kind : Operand} {m} :
      Matrix.constructIdentity dimension kind = .ok m → Obtained m
  | fromOperand {rows : Operand} {m} : (Matrix.fromOperand rows).outcome = .ok m → Obtained m
  | readMatrix {v : Operand} {m} : v.readMatrix.outcome = .ok m → Obtained m
  | readRecords {f : File} {encoding m} : (f.readRecords encoding).outcome = .ok m → Obtained m
  | load {f : File} {encoding m} : (f.load encoding).outcome = .ok m → Obtained m
  | ofArray {v : Operand} {m} : (Matrix.ofArray v).outcome = .ok m → Obtained m
  | ofSparse {s : SparseMatrix} {m} : (Matrix.ofSparse s).outcome = .ok m → Obtained m
  | ofSymbolic {rows columns cells m} :
      (Matrix.ofSymbolic rows columns cells).outcome = .ok m → Obtained m
  | toSquare {o m} : Obtained o → o.toSquare = .ok m → Obtained m
  | answer {o m request mark} :
      Obtained o → (o.answer request).outcome = .ok (.matrix m mark) → Obtained m
  | operate {o m operator mark} {v : Operand} :
      Obtained o → Operand.operateMatrix operator o v = .ok (.matrix m mark) → Obtained m
  | after {m request} : Obtained m → Obtained (m.after request)

/-- A matrix that cannot be changed is an identity matrix. -/
theorem Obtained.eq_identity (obtained : m.Obtained) (readOnly : m.readOnly = true) :
    ∃ k, m = identity m.rowCount m.rowCount_pos k := by
  have absurd_of_writable {o : Matrix} (writable : o.IsWritable) (readOnly : o.readOnly = true) :
      ∃ k, o = identity o.rowCount o.rowCount_pos k := absurd (writable.symm.trans readOnly) nofun
  induction obtained with
  | constructIdentity made => exact yields_constructIdentity _ _ _ made
  | @after o request _ ih =>
    obtain ⟨g, leaves⟩ := o.after_eq_withGrid request
    have before : o.readOnly = true := by
      rw [leaves] at readOnly
      exact readOnly
    rw [after_of_readOnly before]
    exact ih before
  -- Everything else is writable.
  | construct made => exact absurd_of_writable (yields_construct _ _ _ _ _ _ _ made) readOnly
  | constructSquare made => exact absurd_of_writable (yields_constructSquare _ _ _ _ made) readOnly
  | fromOperand made => exact absurd_of_writable (yields_fromOperand _ _ made) readOnly
  | readMatrix read => exact absurd_of_writable (yields_readMatrix _ _ read) readOnly
  | readRecords read => exact absurd_of_writable (yields_readRecords _ _ _ read) readOnly
  | load read => exact absurd_of_writable (yields_load _ _ _ read) readOnly
  | ofArray made => exact absurd_of_writable (yields_ofElements _ _ _ made) readOnly
  | ofSparse made => exact absurd_of_writable (yields_ofSparse _ _ made) readOnly
  | ofSymbolic made => exact absurd_of_writable (yields_ofSymbolic _ _ _ _ made) readOnly
  | toSquare _ made => exact absurd_of_writable (yields_toSquare _ _ made) readOnly
  | answer _ answered => exact absurd_of_writable (yields_answer _ _ _ answered _ _ rfl) readOnly
  | operate _ made => exact absurd_of_writable (yields_operateMatrix _ _ _ _ made _ _ rfl) readOnly

/-- Identity matrices are equal, whatever the kinds of their numbers. -/
theorem equals_identity (n : ℕ) (pos : 0 < n) (k l : NumberKind) :
    Operand.equals true (.ofMatrix (identity n pos k)) (.ofMatrix (identity n pos l)) =
      .ok (.bool true) := by
  have same : (identity n pos k).SameValues (identity n pos l) := by
    refine sameValues_mk.mpr fun i j => ?_
    rw [Grid.identity, Grid.identity, Grid.cell_ofFn, Grid.cell_ofFn]
    split_ifs
    · cases k <;> cases l <;> rfl
    · cases k <;> cases l <;> rfl
  exact equals_eq_true_iff.mpr same

end Matrix

/-- The parts of the quantity are in lowest terms with positive denominators. -/
def Quantity.InLowestTerms : Quantity → Prop
  | .rational a => 0 < a.den ∧ a.num.natAbs.Coprime a.den
  | .complex z => (0 < z.re.den ∧ z.re.num.natAbs.Coprime z.re.den) ∧
      0 < z.im.den ∧ z.im.num.natAbs.Coprime z.im.den

/-- The terms of quantities are in lowest terms by construction, and so this holds of every cell without looking
at how it was computed. -/
theorem Quantity.inLowestTerms (q : Quantity) : q.InLowestTerms := by
  cases q with
  | rational a => exact ⟨a.den_pos, a.reduced⟩
  | complex z => exact ⟨⟨z.re.den_pos, z.re.reduced⟩, z.im.den_pos, z.im.reduced⟩

namespace Matrix

/-- **The life of a matrix.** However a matrix was had, no sequence of requests changes its form or its shape;
its rows are as many and as long as the shape says, and its cells are in lowest terms. A square form stays
square. An identity matrix stays as it is, is equal to the identity, and refuses every change whatever its
operands are. All matrices that are made of it, or of any other matrix, can be changed. -/
theorem Obtained.lifetime {m : Matrix} (obtained : m.Obtained) (requests : List Request) :
    let now := m.afterAll requests
    (now.form = m.form ∧ now.rowCount = m.rowCount ∧ now.columnCount = m.columnCount) ∧
      (1 ≤ now.rowCount ∧ 1 ≤ now.columnCount ∧ now.rows.length = now.rowCount ∧
        ∀ row ∈ now.rows, row.length = now.columnCount) ∧
      (∀ q ∈ now.cells, q.InLowestTerms) ∧
      (m.form.isSquare = true → now.rowCount = now.columnCount) ∧
      (m.form = .identity → now = m ∧ now.readOnly = true ∧
        (∀ k, Operand.equals true (.ofMatrix now)
          (.ofMatrix (identity m.rowCount m.rowCount_pos k)) = .ok (.bool true)) ∧
        ∀ change, now.mutate change = (now, .fail (.shape (.readOnly .identity change.attempt)))) ∧
      (∀ request, Yields Operand.IsWritable (now.answer request).outcome) ∧
      Yields IsWritable now.toSquare := by
  intro now
  obtain ⟨g, leaves⟩ : ∃ g, now = m.withGrid g := m.afterAll_eq_withGrid requests
  refine ⟨?_, ?_, fun q _ => q.inLowestTerms, ?_, ?_, yields_answer now, yields_toSquare now⟩
  · rw [leaves]
    exact ⟨rfl, rfl, rfl⟩
  · exact ⟨now.rowCount_pos, now.columnCount_pos, now.grid.length_rows,
      fun row mem => Grid.length_of_mem_rows mem⟩
  · intro square
    rw [leaves]
    exact m.square square
  · intro form
    have readOnly : m.readOnly = true := beq_iff_eq.mpr form
    have same : now = m := afterAll_of_readOnly readOnly requests
    obtain ⟨k, identical⟩ := obtained.eq_identity readOnly
    rw [same]
    refine ⟨rfl, readOnly, fun l => ?_, mutate_of_readOnly readOnly⟩
    have equal := equals_identity m.rowCount m.rowCount_pos k l
    rwa [← identical] at equal

/-- An identity matrix is asked to change with indices and values that are none, and for a multiple. -/
theorem lifetime_of_identity :
    let m := identity 2 Nat.two_pos .complex
    let requests := [.change (.setValue (.int 7) .nothing .nothing), .scale (.int 2), .change .reduce]
    constructIdentity (.int 2) (.kind .complex) = .ok m ∧ m.afterAll requests = m ∧
      (m.afterAll requests).mutate (.swapRows .nothing .nothing) =
        (m, .fail (.shape (.readOnly .identity "swap rows"))) := by
  intro m requests
  have constructed : constructIdentity (.int 2) (.kind .complex) = .ok m := rfl
  obtain ⟨-, -, -, -, stays, -, -⟩ := (Obtained.constructIdentity constructed).lifetime requests
  obtain ⟨same, -, -, refused⟩ := stays rfl
  exact ⟨constructed, same, same ▸ refused (.swapRows .nothing .nothing)⟩

end Matrix

end ExactAlgebra
