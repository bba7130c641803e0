import Mathlib.Data.List.Basic
import SignalCatalog.Proofs.Binary64.Text
import SignalCatalog.Workbook.Sheet

/-!
# Sheets by their cells

Two sheets with the same cells may have rows of different lengths, and blank rows at their ends. What
is read from a sheet is said here in terms of its cells alone, and what is written to a sheet cell by
cell.
-/

namespace SignalCatalog

/-- A list by its positions. -/
theorem map_range_getD {α : Type} (default : α) (items : List α) :
    (List.range items.length).map (fun i => items[i]?.getD default) = items := by
  apply List.ext_getElem
  · simp
  · intro i hi _
    have hitem : i < items.length := by simpa using hi
    simp [hitem]

theorem filterMap_zipIdx {α β : Type} (read : α × Nat → Option β) (default : α) (items : List α) :
    items.zipIdx.filterMap read =
      (List.range items.length).filterMap fun i => read (items[i]?.getD default, i) := by
  have hpairs : items.zipIdx =
      (List.range items.length).map fun i => (items[i]?.getD default, i) := by
    apply List.ext_getElem
    · simp
    · intro i hi _
      have hitem : i < items.length := by simpa using hi
      simp [hitem]
  rw [hpairs, List.filterMap_map]
  rfl

theorem filterMap_range_of_none {β : Type} {read : Nat → Option β} {n m : Nat}
    (h : ∀ i, n ≤ i → read i = none) (hle : n ≤ m) :
    (List.range m).filterMap read = (List.range n).filterMap read := by
  obtain ⟨more, rfl⟩ := Nat.exists_eq_add_of_le hle
  have hmore : ((List.range more).map (n + ·)).filterMap read = [] := by
    rw [List.filterMap_eq_nil_iff]
    intro i hi
    obtain ⟨k, _, rfl⟩ := List.mem_map.mp hi
    exact h (n + k) (by omega)
  rw [List.range_add, List.filterMap_append, hmore, List.append_nil]

theorem filterMap_range_congr {β : Type} {read : Nat → Option β} {n m : Nat}
    (hn : ∀ i, n ≤ i → read i = none) (hm : ∀ i, m ≤ i → read i = none) :
    (List.range n).filterMap read = (List.range m).filterMap read := by
  rcases Nat.le_total n m with hle | hle
  · exact (filterMap_range_of_none hn hle).symm
  · exact filterMap_range_of_none hm hle

theorem foldl_range_of_skip {β : Type} {step : β → Nat → β} {n m : Nat}
    (h : ∀ i state, n ≤ i → step state i = state) (hle : n ≤ m) (state : β) :
    (List.range m).foldl step state = (List.range n).foldl step state := by
  obtain ⟨more, rfl⟩ := Nat.exists_eq_add_of_le hle
  have hmore : ∀ state, ((List.range more).map (n + ·)).foldl step state = state := by
    intro state
    induction more with
    | zero => rfl
    | succ more ih =>
      rw [List.range_succ, List.map_append, List.foldl_append, ih (Nat.le_add_right n more)]
      exact h (n + more) state (Nat.le_add_right n more)
  rw [List.range_add, List.foldl_append, hmore]

theorem foldl_range_congr {β : Type} {step : β → Nat → β} {n m : Nat}
    (hn : ∀ i state, n ≤ i → step state i = state) (hm : ∀ i state, m ≤ i → step state i = state)
    (state : β) : (List.range n).foldl step state = (List.range m).foldl step state := by
  rcases Nat.le_total n m with hle | hle
  · exact (foldl_range_of_skip hn hle state).symm
  · exact foldl_range_of_skip hm hle state

namespace Cell

/-- A text without blanks at its ends stands in a cell as it is; an empty one leaves no trace. -/
theorem text?_text {value : String} (h : Text.Trimmed value.toList) :
    (text value).text? = if value = "" then none else some value := by
  simp [text?, Text.trimmed_eq_self h]

theorem text?_filled {value : String} (h : Text.Filled value) :
    (text value).text? = some value := by
  rw [text?_text h.2, if_neg h.1]

/-- A number is shown without blanks. -/
theorem isBlank_of_mem_numberText {value : Binary64} :
    ∀ c ∈ (numberText value).toList, Text.isBlank c = false := by
  have hinteger : ∀ n : Int, ∀ c ∈ (Text.integer n).toList, Text.isBlank c = false := by
    intro n c hc
    unfold Text.integer at hc
    split at hc
    · simp only [String.toList_append, List.mem_append] at hc
      rcases hc with hsign | hdigit
      · rw [List.mem_singleton.mp hsign]
        decide
      · exact Text.isBlank_of_isDigit (Text.isDigit_of_mem_number c hdigit)
    · exact Text.isBlank_of_isDigit (Text.isDigit_of_mem_number c hc)
  have hplain : ∀ c ∈ (value.text Binary64.plainLayout).toList, Text.isBlank c = false :=
    fun c hc => Binary64.isBlank_of_mem_text c hc
  unfold numberText
  split
  · split
    · exact hinteger _
    · exact hplain
  · exact hplain

theorem numberText_ne_empty (value : Binary64) : numberText value ≠ "" := by
  unfold numberText
  split
  · split
    · exact Text.integer_ne_empty _
    · exact value.text_ne_empty
  · exact value.text_ne_empty

/-- What a cell shows is never empty and has no blanks at its ends. -/
theorem filled_of_text? {cell : Cell} {text : String} (h : cell.text? = some text) :
    Text.Filled text := by
  cases cell with
  | empty => simp [text?] at h
  | text value =>
    simp only [text?, Option.ite_none_left_eq_some, Option.some.injEq] at h
    obtain ⟨hne, rfl⟩ := h
    exact ⟨by simpa using hne, by simpa using Text.trimmed_trim value.toList⟩
  | number value =>
    rw [← Option.some.inj h]
    exact ⟨numberText_ne_empty value, Text.trimmed_of_forall isBlank_of_mem_numberText⟩
  | bool value => cases value <;> rw [← Option.some.inj h] <;> decide

theorem getD_text? {value : String} (h : Text.Trimmed value.toList) :
    (text value).text?.getD "" = value := by
  rw [text?_text h]
  split
  · rename_i hempty
    exact hempty.symm
  · rfl

end Cell

namespace Row

theorem cell_empty (column : Nat) : cell #[] column = .empty := by
  simp [cell]

theorem cell_grown (size : Nat) (row : Row) (column : Nat) :
    cell (grown .empty size row) column = cell row column := by
  unfold cell grown
  rw [Array.getElem?_append]
  split
  · rfl
  · rename_i hle
    rw [Array.getElem?_replicate, Array.getElem?_eq_none (Nat.le_of_not_lt hle)]
    split <;> rfl

theorem cell_set (row : Row) (column : Nat) (value : Cell) (c : Nat) :
    cell (row.set column value) c = if c = column then value else cell row c := by
  have hsize : column < (grown .empty (column + 1) row).size := by
    simp only [grown, Array.size_append, Array.size_replicate]
    omega
  by_cases hc : c = column
  · simp [cell, set, hc, hsize]
  · have hgrown := cell_grown (column + 1) row c
    simp only [hc, if_false, ← hgrown]
    simp [cell, set, Ne.symm hc]

end Row

namespace Sheet

/-- A row by its number; behind the last one there are empty ones. -/
def row (sheet : Sheet) (r : Nat) : Row := sheet.rows[r]?.getD #[]

theorem cell_row (sheet : Sheet) (r c : Nat) : Row.cell (sheet.row r) c = sheet.cell r c := by
  unfold row cell
  cases sheet.rows[r]? with
  | none => exact Row.cell_empty c
  | some cells => rfl

theorem row_of_le {sheet : Sheet} {r : Nat} (h : sheet.rows.size ≤ r) : sheet.row r = #[] := by
  simp [row, Array.getElem?_eq_none h]

theorem cell_new (name : String) (r c : Nat) : (new name).cell r c = .empty := by
  rw [← cell_row, row_of_le (Nat.zero_le r), Row.cell_empty]

theorem cell_set (sheet : Sheet) (row column : Nat) (value : Cell) (r c : Nat) :
    (sheet.set row column value).cell r c =
      if r = row ∧ c = column then value else sheet.cell r c := by
  have hrow : (sheet.set row column value).row r =
      if r = row then (sheet.row r).set column value else sheet.row r := by
    have hgrown : (grown #[] (row + 1) sheet.rows)[r]?.getD #[] = sheet.row r := by
      unfold grown Sheet.row
      rw [Array.getElem?_append]
      split
      · rfl
      · rename_i hle
        rw [Array.getElem?_replicate, Array.getElem?_eq_none (Nat.le_of_not_lt hle)]
        split <;> rfl
    have hsize : row < (grown #[] (row + 1) sheet.rows).size := by
      simp only [grown, Array.size_append, Array.size_replicate]
      omega
    simp only [Sheet.row, set, Array.getElem?_modify] at hgrown ⊢
    by_cases hr : r = row
    · subst hr
      have hsome := Array.getElem?_eq_getElem hsize
      rw [hsome, Option.getD_some] at hgrown
      simp [hsome, hgrown]
    · simp [hr, Ne.symm hr, hgrown]
  rw [← cell_row, hrow, ← cell_row sheet]
  by_cases hr : r = row
  · simp [hr, Row.cell_set]
  · simp [hr]

theorem name_setRow (sheet : Sheet) (row column : Nat) (cells : List Cell) :
    (sheet.setRow row column cells).name = sheet.name := by
  induction cells generalizing sheet column with
  | nil => rfl
  | cons value rest ih => exact ih (sheet.set row column value) (column + 1)

theorem cell_setRow (sheet : Sheet) (row column : Nat) (cells : List Cell) (r c : Nat) :
    (sheet.setRow row column cells).cell r c =
      (if r = row ∧ column ≤ c then cells[c - column]? else none).getD (sheet.cell r c) := by
  induction cells generalizing sheet column with
  | nil => simp [setRow]
  | cons value rest ih =>
    rw [setRow, ih, cell_set]
    by_cases hr : r = row
    · rcases Nat.lt_trichotomy c column with hc | hc | hc
      · have h₁ : ¬ column + 1 ≤ c := by omega
        have h₂ : ¬ column ≤ c := by omega
        simp [h₁, h₂, Nat.ne_of_lt hc]
      · have h₁ : ¬ column + 1 ≤ column := by omega
        simp [hr, hc, h₁]
      · have h₁ : column + 1 ≤ c := hc
        have h₂ : column ≤ c := by omega
        have h₃ : c - column = (c - (column + 1)) + 1 := by omega
        simp [hr, h₁, h₂, h₃, Nat.ne_of_gt hc]
    · simp [hr]

theorem body_eq (sheet : Sheet) :
    sheet.body = (List.range (sheet.rows.size - 1)).map fun i => (sheet.row (i + 1), i + 1) := by
  apply List.ext_getElem
  · simp [body]
  · intro i hi _
    have hrow : i + 1 < sheet.rows.size := by
      simp only [body, List.length_drop, List.length_zipIdx, Array.length_toList] at hi
      omega
    simp [body, row, Nat.add_comm 1 i, hrow]

/-- The titles are the texts of the first row, however long the row is stored. -/
theorem titles_eq (sheet : Sheet) {cells : List Cell}
    (h : ∀ c, sheet.cell 0 c = cells[c]?.getD .empty) :
    sheet.titles = cells.zipIdx.filterMap fun (cell, column) =>
      cell.text?.map fun title => (title, column) := by
  have hheader : ∀ c, sheet.header.toList[c]?.getD .empty = sheet.cell 0 c := by
    intro c
    rw [← cell_row]
    simp [header, row, Row.cell]
  rw [titles, filterMap_zipIdx _ .empty, filterMap_zipIdx _ .empty]
  simp only [hheader, ← h]
  apply filterMap_range_congr
  · intro c hc
    rw [← hheader, List.getElem?_eq_none hc]
    rfl
  · intro c hc
    rw [h, List.getElem?_eq_none hc]
    rfl

/-- Rows behind a number of rows that give nothing need not be looked at. -/
theorem filterMap_body (sheet : Sheet) {β : Type} {read : Row × Nat → Option β} {n : Nat}
    (hempty : ∀ i, read (#[], i) = none)
    (hrest : ∀ i, n ≤ i → read (sheet.row (i + 1), i + 1) = none) :
    sheet.body.filterMap read =
      (List.range n).filterMap fun i => read (sheet.row (i + 1), i + 1) := by
  rw [body_eq, List.filterMap_map]
  refine filterMap_range_congr (fun i hi => ?_) hrest
  rw [Function.comp_apply, row_of_le (by omega), hempty]

theorem foldl_body (sheet : Sheet) {β : Type} {step : β → Row → β} {n : Nat}
    (hempty : ∀ state, step state #[] = state)
    (hrest : ∀ i state, n ≤ i → step state (sheet.row (i + 1)) = state) (state : β) :
    sheet.body.foldl (fun state row => step state row.1) state =
      (List.range n).foldl (fun state i => step state (sheet.row (i + 1))) state := by
  rw [body_eq, List.foldl_map]
  refine foldl_range_congr (fun i state hi => ?_) hrest state
  rw [row_of_le (by omega), hempty]

/-! ## Filled cells -/

/-- The sheet with some cells put in, one after the other. -/
def place (sheet : Sheet) (entries : List (Nat × Nat × Cell)) : Sheet :=
  entries.foldl (fun sheet entry => sheet.set entry.1 entry.2.1 entry.2.2) sheet

theorem place_append (sheet : Sheet) (front back : List (Nat × Nat × Cell)) :
    sheet.place (front ++ back) = (sheet.place front).place back := by
  rw [place, List.foldl_append]
  rfl

/-- Cells that are put in where they belong, and the others as they were. -/
theorem cell_place {value : Nat → Nat → Cell} {entries : List (Nat × Nat × Cell)}
    (h : ∀ entry ∈ entries, entry.2.2 = value entry.1 entry.2.1) (sheet : Sheet) (r c : Nat) :
    (sheet.place entries).cell r c =
      if (r, c, value r c) ∈ entries then value r c else sheet.cell r c := by
  induction entries generalizing sheet with
  | nil => simp [place]
  | cons entry rest ih =>
    obtain ⟨row, column, cell⟩ := entry
    obtain ⟨hentry, hrest⟩ := List.forall_mem_cons.mp h
    have hstep : sheet.place ((row, column, cell) :: rest) =
        (sheet.set row column cell).place rest := rfl
    rw [hstep, ih hrest, cell_set]
    by_cases hmem : (r, c, value r c) ∈ rest
    · simp [hmem]
    · by_cases hpos : r = row ∧ c = column
      · obtain ⟨rfl, rfl⟩ := hpos
        simp [← hentry]
      · have hne : ¬(r, c, value r c) = (row, column, cell) := by
          intro he
          simp only [Prod.mk.injEq] at he
          exact hpos ⟨he.1, he.2.1⟩
        simp [hmem, hpos, hne]

/-- The filled cells of a row. -/
def filledRow (index : Nat) (row : Row) : List (Nat × Nat × Cell) :=
  row.toList.zipIdx.filterMap fun (cell, column) =>
    if cell.isEmpty then none else some (index, column, cell)

theorem mem_filledRow {index r c : Nat} {row : Row} {cell : Cell} :
    (r, c, cell) ∈ filledRow index row ↔
      r = index ∧ cell.isEmpty = false ∧ row[c]? = some cell := by
  simp only [filledRow, List.mem_filterMap, Prod.exists, List.mem_zipIdx_iff_getElem?,
    Array.getElem?_toList]
  constructor
  · rintro ⟨found, column, hget, hentry⟩
    simp only [Option.ite_none_left_eq_some, Option.some.injEq, Prod.mk.injEq] at hentry
    obtain ⟨hne, rfl, rfl, rfl⟩ := hentry
    exact ⟨rfl, by simpa using hne, hget⟩
  · rintro ⟨rfl, hne, hget⟩
    exact ⟨cell, c, hget, by simp [hne]⟩

theorem filled_eq (sheet : Sheet) :
    sheet.filled = sheet.rows.toList.zipIdx.flatMap fun item => filledRow item.2 item.1 := rfl

/-- The filled cells of a sheet are its cells that are not empty. -/
theorem mem_filled {sheet : Sheet} {r c : Nat} {cell : Cell} :
    (r, c, cell) ∈ sheet.filled ↔ cell.isEmpty = false ∧ sheet.cell r c = cell := by
  simp only [filled_eq, List.mem_flatMap, Prod.exists, List.mem_zipIdx_iff_getElem?,
    Array.getElem?_toList, mem_filledRow]
  constructor
  · rintro ⟨row, index, hrow, rfl, hne, hget⟩
    exact ⟨hne, by simp [Sheet.cell, hrow, Row.cell, hget]⟩
  · rintro ⟨hne, hcell⟩
    unfold Sheet.cell at hcell
    split at hcell
    · rename_i row hrow
      refine ⟨row, r, hrow, rfl, hne, ?_⟩
      rw [Row.cell] at hcell
      cases hget : row[c]? with
      | none => simp [hget, Cell.isEmpty, ← hcell] at hne
      | some found => simpa [hget] using hcell
    · simp [Cell.isEmpty, ← hcell] at hne

/-- The filled cells of a sheet make the sheet again. -/
theorem cell_place_filled (sheet : Sheet) (name : String) (r c : Nat) :
    ((new name).place sheet.filled).cell r c = sheet.cell r c := by
  rw [@cell_place sheet.cell _ fun entry hentry => (mem_filled.mp hentry).2.symm, cell_new]
  split
  · rfl
  · rename_i habsent
    rw [mem_filled, not_and_or, Bool.not_eq_false] at habsent
    rcases habsent with hempty | hne
    · cases hcell : sheet.cell r c <;> simp [hcell, Cell.isEmpty] at hempty ⊢
    · exact False.elim (hne rfl)

end Sheet

end SignalCatalog
