import ExactAlgebra.Matrix.Reader
import ExactAlgebra.Proofs.Equality
import ExactAlgebra.Proofs.NumberText

/-!
# Matrices read back from their texts

The text of a matrix is read back as a matrix of the same shape and the same values. What the text does
not show is lost: real cells come back as rational numbers, and the matrix comes back in square form if
its shape is square and in general form otherwise. The second text is the first, so nothing more is lost
in a second round.

The delimiters cut a text at the right places because none of them occurs in the text of a number, and a
matrix that is built from rows is known by its rows.

## Main definitions

* `Grid.demote`, `Matrix.demote`: the values in the narrowest kinds and forms.

## Main statements

* `Matrix.eq_of_rows`, `Matrix.outcome_fromRows`: matrices of rows.
* `Matrix.readRows_text`: the rows that a text holds.
* `Matrix.text_eq_iff_sameValues`: the text tells the values, and nothing but the values.
* `Matrix.parse_text`: the round trip.
-/

namespace ExactAlgebra

open TextForm

/-! ## Matrices of rows -/

namespace Grid

variable {m n : ℕ}

/-- The cells in the narrowest kinds for their values. -/
def demote (g : Grid m n) : Grid m n := g.mapCells Quantity.demote

theorem demote_sameValues (g : Grid m n) : g.demote.SameValues g := fun i j => by
  rw [demote, cell_mapCells]
  exact Quantity.demote_sameValue _

/-- The grid of the cells of a rectangular list has the rows of the list. -/
theorem ofListsM_ok (rows : List (List Quantity)) (columns : ℕ)
    (rect : ∀ row ∈ rows, row.length = columns) :
    ∃ g : Grid rows.length columns,
      ofListsM Except.ok rows columns rect = (Except.ok g : Except Error _) ∧ g.rows = rows := by
  let cells (i : Fin rows.length) : Row columns :=
    Vector.ofFn fun j => (rows.get i).get (j.cast (rect _ (List.get_mem ..)).symm)
  have row (i : Fin rows.length) : (Vector.ofFnM fun (j : Fin columns) =>
      (Except.ok ((rows.get i).get (j.cast (rect _ (List.get_mem ..)).symm)) : Except Error Quantity))
      = Except.ok (cells i) :=
    Vector.ofFnM_pure
  refine ⟨Vector.ofFn cells, ?_, ?_⟩
  · rw [ofListsM, funext row]
    exact Vector.ofFnM_pure
  · refine List.ext_getElem (length_rows _) fun i lt lt' => ?_
    have fits : (rows.get ⟨i, lt'⟩).length = columns := rect _ (List.get_mem ..)
    rw [show (Grid.rows (Vector.ofFn cells))[i] = (cells ⟨i, lt'⟩).toList by
      simp [Grid.rows]]
    refine List.ext_getElem (by rw [Vector.length_toList, ← fits, List.get_eq_getElem]) fun j _ _ => ?_
    simp [cells]

end Grid

namespace Matrix

/-- A matrix is known by its form, the length of its rows, and its rows. -/
theorem eq_of_rows {m o : Matrix} (form : m.form = o.form) (columns : m.columnCount = o.columnCount)
    (rows : m.rows = o.rows) : m = o := by
  have count : m.rowCount = o.rowCount := by
    rw [← m.grid.length_rows, ← o.grid.length_rows]
    exact congrArg List.length rows
  obtain ⟨f, r, c, g, rowsPos, columnsPos, square⟩ := o
  obtain ⟨f', r', c', g', rowsPos', columnsPos', square'⟩ := m
  obtain rfl : f' = f := form
  obtain rfl : c' = c := columns
  obtain rfl : r' = r := count
  obtain rfl : g' = g := Grid.rows_injective rows
  rfl

/-- The same values in the narrowest kinds, and in square form if the shape is square. -/
def demote (m : Matrix) : Matrix := ofShape m.grid.demote m.rowCount_pos m.columnCount_pos

section OfShape

variable {r c : ℕ} (g : Grid r c) (rowsPos : 0 < r) (columnsPos : 0 < c)

/-- The matrix of a grid has as many rows as the grid, in either form that the shape leads to; the next lemmas
say the same of the rest. -/
theorem rowCount_ofShape : (ofShape g rowsPos columnsPos).rowCount = r := by
  unfold ofShape
  split <;> rfl

theorem columnCount_ofShape : (ofShape g rowsPos columnsPos).columnCount = c := by
  unfold ofShape
  split <;> rfl

/-- The cells of the grid are in the matrix, kinds included, and in the same order. -/
theorem rows_ofShape : (ofShape g rowsPos columnsPos).rows = g.rows := by
  unfold ofShape
  split <;> rfl

/-- The grid is got back from the matrix, when it is seen as a grid of the shape that was given. Two proofs that
the shapes agree make no difference. -/
theorem cast_grid_ofShape : ∀ (rows : (ofShape g rowsPos columnsPos).rowCount = r)
    (columns : (ofShape g rowsPos columnsPos).columnCount = c),
    (ofShape g rowsPos columnsPos).grid.cast rows columns = g := by
  have same (o : Matrix) (count : o.rowCount = r) (columns : o.columnCount = c)
      (values : o.rows = g.rows) : o.grid.cast count columns = g := by
    obtain ⟨f, r', c', h, _, _, _⟩ := o
    obtain rfl : r' = r := count
    obtain rfl : c' = c := columns
    rw [Grid.cast_rfl]
    exact Grid.rows_injective values
  exact fun count columns => same _ count columns (rows_ofShape g rowsPos columnsPos)

/-- The form shows the shape: square if there are as many rows as columns, and general otherwise. In particular
no matrix that is made of rows is read-only. -/
theorem form_ofShape :
    (ofShape g rowsPos columnsPos).form = if r = c then .square else .general := by
  unfold ofShape
  split <;> rfl

end OfShape

/-- Equally long rows make the matrix of their shape. -/
theorem outcome_fromRows {r c : ℕ} (g : Grid r c) (rowsPos : 0 < r) (columnsPos : 0 < c) :
    (fromRows g.rows).outcome = .ok (ofShape g rowsPos columnsPos) := by
  have lengths : ∀ row ∈ g.rows, row.length = c := fun row mem => Grid.length_of_mem_rows mem
  have count : g.rows.length = r := g.length_rows
  obtain ⟨first, others, rows⟩ : ∃ first others, g.rows = first :: others :=
    List.exists_cons_of_length_pos (by omega)
  have columns : first.length = c := lengths first (by rw [rows]; exact List.mem_cons_self)
  have rect : ∀ row ∈ first :: others, row.length = first.length := fun row mem => by
    rw [columns, lengths row (by rw [rows]; exact mem)]
  obtain ⟨h, built, rowsH⟩ := Grid.ofListsM_ok (first :: others) first.length rect
  have nonempty : first.length ≠ 0 := by omega
  have outcome : (fromRows (first :: others)).outcome =
      .ok (ofShape h (Nat.succ_pos _) (Nat.pos_of_ne_zero nonempty)) := by
    rw [fromRows, assemble, dif_neg nonempty, dif_pos rect]
    show (do
      Logged.report (.read (others.length + 1) first.length)
      let grid ← (Grid.ofListsM Except.ok (first :: others) first.length rect : Except Error _)
      return ofShape grid (Nat.succ_pos _) (Nat.pos_of_ne_zero nonempty) : Logged Matrix).outcome = _
    rw [built]
    rfl
  rw [rows, outcome]
  refine congrArg Except.ok (eq_of_rows ?_ ?_ ?_)
  · rw [form_ofShape, form_ofShape, ← count, rows, columns]
  · rw [columnCount_ofShape, columnCount_ofShape, columns]
  · rw [rows_ofShape, rows_ofShape, rowsH, rows]

end Matrix

/-! ## Pieces of texts -/

/-- A reader that succeeds on every piece succeeds on their list. -/
theorem mapM_eq_ok {α β : Type} {f : α → Except Error β} {g : α → β} {as : List α}
    (read : ∀ a ∈ as, f a = .ok (g a)) : as.mapM f = .ok (as.map g) := by
  induction as with
  | nil => rfl
  | cons a as ih =>
    rw [List.mapM_cons, read a List.mem_cons_self, ih fun b mem => read b (List.mem_cons_of_mem _ mem)]
    rfl

/-- A character of a joined text is the separator, or stands in one of the pieces. -/
theorem of_mem_intercalate {c d : Char} {pieces : List (List Char)} (h : c ∈ [d].intercalate pieces) :
    c = d ∨ ∃ piece ∈ pieces, c ∈ piece := by
  induction pieces with
  | nil => cases h
  | cons piece pieces ih =>
    by_cases last : pieces = []
    · rw [last, List.intercalate_singleton] at h
      exact Or.inr ⟨piece, List.mem_cons_self, h⟩
    · rw [List.intercalate_cons_of_ne_nil last, List.append_assoc, List.mem_append, List.mem_append,
        List.mem_singleton] at h
      rcases h with first | between | rest
      · exact Or.inr ⟨piece, List.mem_cons_self, first⟩
      · exact Or.inl between
      · exact (ih rest).imp_right fun ⟨p, mem, found⟩ => ⟨p, List.mem_cons_of_mem _ mem, found⟩

/-- Something is left of pieces that are joined if there is a piece, and none of them is empty. -/
theorem intercalate_ne_nil {sep : List Char} {pieces : List (List Char)} (some : pieces ≠ [])
    (nonempty : ∀ piece ∈ pieces, piece ≠ []) : sep.intercalate pieces ≠ [] := by
  obtain ⟨piece, pieces, rfl⟩ := List.exists_cons_of_ne_nil some
  have first : piece ≠ [] := nonempty piece List.mem_cons_self
  by_cases last : pieces = []
  · rwa [last, List.intercalate_singleton]
  · rw [List.intercalate_cons_of_ne_nil last, List.append_assoc]
    exact List.append_ne_nil_of_left_ne_nil first _

/-- Pieces that are written with a separator between each two, none of which is empty or contains the
separator, are read back one by one. -/
theorem read_joined {α β : Type} (write : α → List Char) (read : List Char → Except Error β)
    (d : Char) {value : α → β} {as : List α} (some : as ≠ [])
    (pieces : ∀ a ∈ as, write a ≠ [] ∧ d ∉ write a ∧ read (write a) = .ok (value a)) :
    ([d].intercalate (as.map write)).isEmpty = false ∧
      (([d].intercalate (as.map write)).splitOn d).mapM read = .ok (as.map value) := by
  have written : as.map write ≠ [] := mt List.map_eq_nil_iff.mp some
  have nonempty : ∀ piece ∈ as.map write, piece ≠ [] := by
    intro piece mem
    obtain ⟨a, listed, rfl⟩ := List.mem_map.mp mem
    exact (pieces a listed).1
  have free : ∀ piece ∈ as.map write, d ∉ piece := by
    intro piece mem
    obtain ⟨a, listed, rfl⟩ := List.mem_map.mp mem
    exact (pieces a listed).2.1
  refine ⟨List.isEmpty_eq_false_iff.mpr (intercalate_ne_nil written nonempty), ?_⟩
  rw [List.splitOn_intercalate d free written, List.mapM_map]
  exact mapM_eq_ok fun a mem => (pieces a mem).2.2

theorem between_delimited (start stop : Char) (body : List Char) :
    between start stop (start :: (body ++ [stop])) = .ok body := by
  unfold between
  simp only [ne_eq, not_true_eq_false, if_false, List.getLast?_concat, if_true, List.dropLast_concat]

/-! ## Rows -/

/-- None of the characters that structure a text is a character of numbers. -/
theorem not_mem_text_of_delimiter {q : Quantity} {c : Char} (delimiter : isNumeral c = false) :
    c ∉ q.text := fun mem => by
  rw [Quantity.isNumeral_of_mem_text mem] at delimiter
  cases delimiter

/-- The text of a row has the characters of numbers in it, and those that delimit and separate the values. The
separator of rows is not among these. -/
theorem of_mem_rowText {row : List Quantity} {c : Char} (h : c ∈ rowText row) :
    isNumeral c = true ∨ c = rowStart ∨ c = rowEnd ∨ c = separator := by
  rcases List.mem_cons.mp h with opening | rest
  · exact Or.inr (Or.inl opening)
  · rcases List.mem_append.mp rest with body | closing
    · rcases of_mem_intercalate body with comma | ⟨piece, mem, found⟩
      · exact Or.inr (Or.inr (Or.inr comma))
      · obtain ⟨q, -, rfl⟩ := List.mem_map.mp mem
        exact Or.inl (Quantity.isNumeral_of_mem_text found)
    · exact Or.inr (Or.inr (Or.inl (List.mem_singleton.mp closing)))

theorem rowText_widen (row : List Quantity) : rowText (row.map Quantity.widen) = rowText row := by
  have texts : (row.map Quantity.widen).map Quantity.text = row.map Quantity.text := by
    rw [List.map_map]
    refine List.map_congr_left fun q _ => ?_
    exact Quantity.text_eq_iff.mpr q.widen_sameValue
  rw [rowText, rowText, texts]

namespace Matrix

/-- A value is read back in the narrowest kind, as the text shows the value alone. -/
theorem readValue_text (q : Quantity) : readValue q.text = .ok q.demote := by
  rw [readValue, Quantity.read_text]
  rfl

/-- **A row is read back**, value by value. None of the values contains the separator, so the text is cut where
it was joined. -/
theorem readRow_rowText {row : List Quantity} (nonempty : row ≠ []) :
    readRow (rowText row) = .ok (row.map Quantity.demote) := by
  obtain ⟨body, values⟩ := read_joined Quantity.text readValue separator nonempty fun q _ =>
    ⟨q.text_ne_nil, not_mem_text_of_delimiter rfl, readValue_text q⟩
  rw [readRow, rowText, between_delimited]
  show (if ([separator].intercalate (row.map Quantity.text)).isEmpty then _ else _) = _
  rw [body]
  exact values

/-- A matrix has a row, and each of its rows has a cell. Both are needed for reading texts back, as the reader
refuses an empty text between delimiters. -/
theorem rows_ne_nil (m : Matrix) : m.rows ≠ [] := fun none => by
  have length : m.rows.length = m.rowCount := m.grid.length_rows
  rw [none, List.length_nil] at length
  exact m.rowCount_pos.ne length

theorem ne_nil_of_mem_rows {m : Matrix} {row : List Quantity} (mem : row ∈ m.rows) : row ≠ [] :=
  fun none => by
    have length : row.length = m.columnCount := Grid.length_of_mem_rows mem
    rw [none, List.length_nil] at length
    exact m.columnCount_pos.ne length

/-- **The rows of a matrix are read back from its text**, each cell in its narrowest kind. No row has the
separator of rows in it, so the text is cut between the rows and nowhere else. -/
theorem readRows_text (m : Matrix) : readRows m.text = .ok m.grid.demote.rows := by
  have free (row : List Quantity) : rowSeparator ∉ rowText row := fun mem =>
    absurd (of_mem_rowText mem) (by decide)
  obtain ⟨body, values⟩ := read_joined rowText readRow rowSeparator m.rows_ne_nil fun row mem =>
    ⟨List.cons_ne_nil _ _, free row, readRow_rowText (ne_nil_of_mem_rows mem)⟩
  rw [readRows, text, between_delimited, Grid.demote, Grid.rows_mapCells]
  show (if ([rowSeparator].intercalate (m.rows.map rowText)).isEmpty then _ else _) = _
  rw [body]
  exact values

/-! ## The text of a matrix -/

/-- Every character in the text of a matrix is a printable one of ASCII and not the space. So no encoding can
have trouble with it, and no blanks are lost when blanks are dropped. -/
theorem printable_of_mem_text {m : Matrix} {c : Char} (h : c ∈ m.text) :
    0x20 < c.toNat ∧ c.toNat < 0x7F := by
  have row {row : List Quantity} (mem : c ∈ rowText row) : 0x20 < c.toNat ∧ c.toNat < 0x7F := by
    rcases of_mem_rowText mem with numeral | rfl | rfl | rfl
    · exact toNat_of_isNumeral numeral
    all_goals decide
  rcases List.mem_cons.mp h with rfl | rest
  · decide
  · rcases List.mem_append.mp rest with body | closing
    · rcases of_mem_intercalate body with rfl | ⟨piece, mem, found⟩
      · decide
      · obtain ⟨cells, -, rfl⟩ := List.mem_map.mp mem
        exact row found
    · rw [List.mem_singleton.mp closing]
      decide

/-- There are no blanks in the text of a matrix that the reader could remove. -/
theorem removeBlanks_text (m : Matrix) : Text.removeBlanks m.text = m.text :=
  List.filter_eq_self.mpr fun c mem => by
    rw [isBlank_of_printable (printable_of_mem_text mem)]
    rfl

/-- The text shows the values alone. -/
theorem text_withGrid_widen (m : Matrix) : (m.withGrid m.grid.widen).text = m.text := by
  have rows : (m.withGrid m.grid.widen).rows.map rowText = m.rows.map rowText := by
    show m.grid.widen.rows.map rowText = m.grid.rows.map rowText
    rw [Grid.widen, Grid.rows_mapCells, List.map_map]
    exact List.map_congr_left fun row _ => rowText_widen row
  rw [text, text, rows]

/-- Equal matrices have one text. -/
theorem SameValues.text_eq {m o : Matrix} (same : m.SameValues o) : m.text = o.text := by
  obtain ⟨form, g, square, rfl, values⟩ := same.exists_grid
  have other : Matrix.text ⟨form, m.rowCount, m.columnCount, g, m.rowCount_pos, m.columnCount_pos,
      square⟩ = (m.withGrid g).text := rfl
  rw [other, ← text_withGrid_widen m, ← text_withGrid_widen (m.withGrid g)]
  show (m.withGrid m.grid.widen).text = (m.withGrid g.widen).text
  rw [Grid.sameValues_iff_widen.mp values]

theorem outcome_parse_text (m : Matrix) : (parse (toString m)).outcome = .ok m.demote := by
  have rows : readRows (Text.removeBlanks (toString m).toList) = .ok m.grid.demote.rows := by
    show readRows (Text.removeBlanks (String.ofList m.text).toList) = _
    rw [String.toList_ofList, removeBlanks_text, readRows_text]
  have parsed : (parse (toString m)).outcome = (fromRows m.grid.demote.rows).outcome := by
    unfold parse
    rw [rows]
    rfl
  rw [parsed, outcome_fromRows _ m.rowCount_pos m.columnCount_pos]
  rfl

/-- A matrix with the narrowest kinds, in the form of its shape, is equal to the matrix that it was made of. -/
theorem demote_sameValues (m : Matrix) : m.demote.SameValues m := by
  unfold demote ofShape
  split
  all_goals exact sameValues_mk.mpr m.grid.demote_sameValues

/-- **The text tells the values, and nothing but the values**: matrices have one text exactly if they are equal.
Neither the kinds of their cells nor their forms can be seen in it. -/
theorem text_eq_iff_sameValues {m o : Matrix} : m.text = o.text ↔ m.SameValues o := by
  refine ⟨fun same => ?_, SameValues.text_eq⟩
  have parsed := outcome_parse_text m
  rw [show toString m = toString o from congrArg String.ofList same, outcome_parse_text] at parsed
  have narrow : o.demote = m.demote := Except.ok.inj parsed
  exact m.demote_sameValues.symm.trans (narrow ▸ o.demote_sameValues)

/-- **A matrix is read back from its text.** What is read is equal to the matrix, of the same shape, and
square in form exactly when the shape is; its real cells are rational, its other cells are the very cells
of the matrix, and its text is the same. So two matrices are equal exactly when their texts are. -/
theorem parse_text (m : Matrix) :
    (∃ r, (parse (toString m)).outcome = .ok r ∧
      Operand.equals true (.ofMatrix r) (.ofMatrix m) = .ok (.bool true) ∧
      (r.form = if m.rowCount = m.columnCount then .square else .general) ∧
      (∃ (rows : r.rowCount = m.rowCount) (columns : r.columnCount = m.columnCount),
        ∀ i j, let p := (r.grid.cast rows columns).cell i j
          ((m.grid.cell i j).isReal = true → p.kind = .rational) ∧
          ((m.grid.cell i j).isReal = false → p = m.grid.cell i j)) ∧
      toString r = toString m) ∧
    ∀ o : Matrix, Operand.equals true (.ofMatrix m) (.ofMatrix o) = .ok (.bool true) ↔
      toString m = toString o := by
  refine ⟨⟨m.demote, outcome_parse_text m, ?_, form_ofShape .., ?_, ?_⟩, fun o => ?_⟩
  · rw [equals_ofMatrix, decide_eq_true m.demote_sameValues]
  · refine ⟨rowCount_ofShape .., columnCount_ofShape .., fun i j => ?_⟩
    have cell : (m.demote.grid.cast (rowCount_ofShape ..) (columnCount_ofShape ..)).cell i j =
        (m.grid.cell i j).demote :=
      (congrArg (fun g => g.cell i j) (cast_grid_ofShape _ _ _ _ _)).trans (Grid.cell_mapCells ..)
    obtain ⟨real, nonreal⟩ := (m.grid.cell i j).demote_cases
    refine ⟨fun h => ?_, fun h => cell.trans (nonreal h)⟩
    obtain ⟨a, rational⟩ := real h
    exact congrArg Quantity.kind (cell.trans rational)
  · exact congrArg String.ofList m.demote_sameValues.text_eq
  · rw [equals_ofMatrix, Except.ok.injEq, Operand.bool.injEq, decide_eq_true_iff,
      ← text_eq_iff_sameValues]
    exact String.ofList_inj.symm

end Matrix

end ExactAlgebra
