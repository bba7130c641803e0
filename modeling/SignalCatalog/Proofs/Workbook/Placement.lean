import SignalCatalog.Proofs.Workbook.Cells
import SignalCatalog.Workbook.Reader

/-!
# Where the cells of a read sheet come from

Rows and cells of a document name their own places or follow the element before them. `StandsAt` says
this for elements side by side, whatever their order, and `Addressed` for the cells of a sheet: the
row is that of the row element, the column that of the cell. The row number in the reference of a cell
does not count. The main statement is that a sheet that is read lies inside the grid, and that a cell
of it is filled by the last element addressed to it that has a value, and by nothing else.
-/

namespace SignalCatalog

open Markup

/-! ## The grid -/

namespace Sheet

/-- No row and no cell lies outside the grid. -/
structure InGrid (sheet : Sheet) : Prop where
  rows : sheet.rows.size ≤ Reference.maxRows
  columns : ∀ row ∈ sheet.rows, row.size ≤ Reference.maxColumns

variable {sheet : Sheet} {row column : Nat}

theorem size_grown {α : Type} (item : α) (size : Nat) (items : Array α) :
    (grown item size items).size = max size items.size := by
  simp only [grown, Array.size_append, Array.size_replicate]
  omega

theorem mem_grown {α : Type} {item x : α} {size : Nat} {items : Array α}
    (h : x ∈ grown item size items) : x ∈ items ∨ x = item := by
  rcases Array.mem_append.mp h with hold | hnew
  · exact .inl hold
  · exact .inr (Array.mem_replicate.mp hnew).2

theorem size_set (cells : Row) (column : Nat) (value : Cell) :
    (Row.set cells column value).size = max (column + 1) cells.size := by
  rw [Row.set, Array.size_setIfInBounds, size_grown]

theorem inGrid_new (name : String) : (new name).InGrid :=
  ⟨Nat.zero_le _, by simp [new]⟩

/-- Writing inside the grid grows a sheet inside the grid. -/
theorem InGrid.set (h : sheet.InGrid) (hrow : row < Reference.maxRows)
    (hcolumn : column < Reference.maxColumns) (value : Cell) :
    (sheet.set row column value).InGrid := by
  have hgrown : ∀ cells ∈ grown #[] (row + 1) sheet.rows, cells.size ≤ Reference.maxColumns := by
    intro cells hcells
    rcases mem_grown hcells with hold | rfl
    · exact h.columns cells hold
    · exact Nat.zero_le _
  constructor
  · have hrows := h.rows
    rw [Sheet.set, Array.size_modify, size_grown]
    omega
  · intro cells hcells
    obtain ⟨i, hi, rfl⟩ := Array.mem_iff_getElem.mp hcells
    simp only [Sheet.set, Array.getElem_modify]
    have hi' : i < (grown #[] (row + 1) sheet.rows).size := by simpa [Sheet.set] using hi
    have hold := hgrown _ (Array.getElem_mem hi')
    split
    · rw [size_set]
      omega
    · exact hold

end Sheet

namespace Archive

/-! ## Places -/

/-- The place of an element among others: the one that it names, or the one behind the element in
front of it. -/
inductive StandsAt (own : Element → Option Nat) (elements : List Element) : Nat → Nat → Prop
  | named {i n : Nat} {element : Element} (h : elements[i]? = some element)
    (hown : own element = some n) : StandsAt own elements i n
  | first {element : Element} (h : elements[0]? = some element) (hown : own element = none) :
    StandsAt own elements 0 0
  | next {i n : Nat} {element : Element} (hbefore : StandsAt own elements i n)
    (h : elements[i + 1]? = some element) (hown : own element = none) :
    StandsAt own elements (i + 1) (n + 1)

/-- The row that a row element names. -/
def ownRow (row : Element) : Option Nat :=
  (row.attribute? "r").bind fun number =>
    (Text.unsigned? Reference.maxRows (Text.trim number.toList)).bind fun n =>
      if n = 0 then none else some (n - 1)

/-- The column that a cell element names. -/
def ownColumn (cell : Element) : Option Nat :=
  (cell.attribute? "r").bind fun reference => (Reference.read? reference).map Prod.snd

/-- The row elements of a sheet. -/
def rowElements (root : Element) : List Element :=
  match root.named "sheetData" with
  | [] => []
  | data :: _ => data.named "row"

/-- A cell element, by the positions of its row and of itself in the row, belongs in a cell. -/
def Addressed (rows : List Element) (position : Nat × Nat) (row column : Nat) (cell : Element) :
    Prop :=
  ∃ element, rows[position.1]? = some element ∧ StandsAt ownRow rows position.1 row ∧
    (element.named "c")[position.2]? = some cell ∧
    StandsAt ownColumn (element.named "c") position.2 column

/-- The order of the document. -/
def Before (a b : Nat × Nat) : Prop := a.1 < b.1 ∨ a.1 = b.1 ∧ a.2 < b.2

/-- A cell element has a value that is not empty. -/
def Fills (shared : Array String) (cell : Element) (value : Cell) : Prop :=
  readCell shared cell = .ok value ∧ value ≠ .empty

/-- The value of the last element addressed to a cell that has one. -/
def LastFilling (shared : Array String) (rows : List Element) (row column : Nat) (value : Cell) :
    Prop :=
  ∃ position cell, Addressed rows position row column cell ∧ Fills shared cell value ∧
    ∀ later other, Before position later → Addressed rows later row column other →
      ¬ ∃ value, Fills shared other value

/-! ## Elements with their places -/

section Places

variable {own : Element → Option Nat} {elements : List Element}

/-- The elements with their places, the first one at `next` unless it names its place. -/
def placed (own : Element → Option Nat) (next : Nat) : List Element → List (Nat × Element)
  | [] => []
  | element :: rest =>
    let n := (own element).getD next
    (n, element) :: placed own (n + 1) rest

theorem length_placed (next : Nat) : (placed own next elements).length = elements.length := by
  induction elements generalizing next with
  | nil => rfl
  | cons element rest ih => rw [placed, List.length_cons, List.length_cons, ih]

theorem getElem?_placed_zero (next : Nat) {n : Nat} {element : Element} :
    (placed own next elements)[0]? = some (n, element) ↔
      elements[0]? = some element ∧ n = (own element).getD next := by
  cases elements with
  | nil => simp [placed]
  | cons first rest =>
    simp only [placed, List.getElem?_cons_zero, Option.some.injEq, Prod.mk.injEq]
    constructor
    · rintro ⟨rfl, rfl⟩
      exact ⟨rfl, rfl⟩
    · rintro ⟨rfl, rfl⟩
      exact ⟨rfl, rfl⟩

/-- An element behind another has the place behind it, unless it names its place. -/
theorem getElem?_placed_succ (next i : Nat) {n : Nat} {element : Element} :
    (placed own next elements)[i + 1]? = some (n, element) ↔
      elements[i + 1]? = some element ∧ ∃ m before, (placed own next elements)[i]? = some (m, before) ∧
        n = (own element).getD (m + 1) := by
  induction elements generalizing next i with
  | nil => simp [placed]
  | cons first rest ih =>
    cases i with
    | zero =>
      simp only [placed, List.getElem?_cons_succ, List.getElem?_cons_zero, Option.some.injEq,
        Prod.mk.injEq, getElem?_placed_zero]
      constructor
      · rintro ⟨hget, hplace⟩
        exact ⟨hget, _, first, ⟨rfl, rfl⟩, hplace⟩
      · rintro ⟨hget, _, _, ⟨rfl, rfl⟩, hplace⟩
        exact ⟨hget, hplace⟩
    | succ i =>
      simp only [placed, List.getElem?_cons_succ]
      exact ih _ i

theorem getElem?_placed_iff {i n : Nat} {element : Element} :
    (placed own 0 elements)[i]? = some (n, element) ↔
      elements[i]? = some element ∧ StandsAt own elements i n := by
  induction i generalizing n element with
  | zero =>
    rw [getElem?_placed_zero]
    refine and_congr_right fun hget => ?_
    constructor
    · rintro rfl
      cases hown : own element with
      | none => exact .first hget hown
      | some m => exact .named hget hown
    · intro hstands
      cases hstands with
      | named h hown => simp [Option.some.inj (hget.symm.trans h), hown]
      | first h hown => simp [Option.some.inj (hget.symm.trans h), hown]
  | succ i ih =>
    rw [getElem?_placed_succ]
    refine and_congr_right fun hget => ?_
    constructor
    · rintro ⟨m, before, hbefore, rfl⟩
      cases hown : own element with
      | none => exact .next (ih.mp hbefore).2 hget hown
      | some m => exact .named hget hown
    · have hlt : i < elements.length :=
        Nat.lt_of_succ_lt (List.getElem?_eq_some_iff.mp hget).1
      intro hstands
      cases hstands with
      | named h hown =>
        have hplaced : i < (placed own 0 elements).length := by rwa [length_placed]
        exact ⟨_, _, List.getElem?_eq_getElem hplaced,
          by simp [Option.some.inj (hget.symm.trans h), hown]⟩
      | next hbefore h hown =>
        exact ⟨_, _, ih.mpr ⟨List.getElem?_eq_getElem hlt, hbefore⟩,
          by simp [Option.some.inj (hget.symm.trans h), hown]⟩

/-- The value of the last item of a place that has one. -/
def lastAt {β : Type} (fill : Element → Option β) (n : Nat) (items : List (Nat × Element)) :
    Option β :=
  items.reverse.findSome? fun item => if item.1 = n then fill item.2 else none

theorem lastAt_cons {β : Type} (fill : Element → Option β) (n : Nat) (item : Nat × Element)
    (rest : List (Nat × Element)) : lastAt fill n (item :: rest) =
      (lastAt fill n rest).or (if item.1 = n then fill item.2 else none) := by
  rw [lastAt, List.reverse_cons, List.findSome?_append, List.findSome?_singleton]
  rfl

theorem lastAt_eq_none_iff {β : Type} {fill : Element → Option β} {n : Nat}
    {items : List (Nat × Element)} :
    lastAt fill n items = none ↔ ∀ element, (n, element) ∈ items → fill element = none := by
  simp only [lastAt, List.findSome?_eq_none_iff, List.mem_reverse, Prod.forall, ite_eq_right_iff]
  constructor
  · intro h element hmem
    exact h n element hmem rfl
  · rintro h _ element hmem rfl
    exact h element hmem

/-- Behind the last item with a value no item of its place has one. -/
theorem lastAt_eq_some_iff {β : Type} {fill : Element → Option β} {n : Nat} {value : β}
    {items : List (Nat × Element)} :
    lastAt fill n items = some value ↔ ∃ (i : Nat) (element : Element),
      items[i]? = some (n, element) ∧ fill element = some value ∧
      ∀ (j : Nat) (other : Element), i < j → items[j]? = some (n, other) → fill other = none := by
  induction items with
  | nil => simp [lastAt]
  | cons item rest ih =>
    rw [lastAt_cons, Option.or_eq_some_iff, ih, lastAt_eq_none_iff]
    constructor
    · rintro (⟨i, element, hget, hfill, hlater⟩ | ⟨hnone, hfirst⟩)
      · refine ⟨i + 1, element, by simpa using hget, hfill, ?_⟩
        intro j other hlt hother
        obtain ⟨k, rfl⟩ := Nat.exists_eq_succ_of_ne_zero (Nat.ne_zero_of_lt hlt)
        exact hlater k other (Nat.lt_of_succ_lt_succ hlt) (by simpa using hother)
      · rw [Option.ite_none_right_eq_some] at hfirst
        obtain ⟨rfl, hfill⟩ := hfirst
        refine ⟨0, item.2, rfl, hfill, ?_⟩
        intro j other hlt hother
        obtain ⟨k, rfl⟩ := Nat.exists_eq_succ_of_ne_zero (Nat.ne_zero_of_lt hlt)
        exact hnone other (List.mem_of_getElem? (by simpa using hother))
    · rintro ⟨i, element, hget, hfill, hlater⟩
      cases i with
      | zero =>
        obtain rfl := Option.some.inj hget
        refine .inr ⟨?_, by simpa using hfill⟩
        intro other hmem
        obtain ⟨j, hj⟩ := List.getElem?_of_mem hmem
        exact hlater (j + 1) other (Nat.succ_pos j) (by simpa using hj)
      | succ i =>
        refine .inl ⟨i, element, by simpa using hget, hfill, ?_⟩
        intro j other hlt hother
        exact hlater (j + 1) other (Nat.succ_lt_succ hlt) (by simpa using hother)

end Places

/-! ## Reading -/

section Reading

variable {shared : Array String} {next row column : Nat} {element : Element} {sheet read : Sheet}

theorem of_bounded {limit m n : Nat} {fault : PartFault}
    (h : (if limit ≤ m then .error fault else .ok m : Except PartFault Nat) = .ok n) :
    m = n ∧ n < limit := by
  split at h
  · cases h
  · rename_i hin
    obtain rfl := Except.ok.inj h
    exact ⟨rfl, Nat.lt_of_not_le hin⟩

theorem columnOf_eq_ok (h : columnOf next element = .ok column) :
    column = (ownColumn element).getD next ∧ column < Reference.maxColumns := by
  unfold columnOf at h
  unfold ownColumn
  cases hnamed : element.attribute? "r" with
  | none =>
    rw [hnamed] at h
    obtain ⟨rfl, hin⟩ := of_bounded h
    exact ⟨rfl, hin⟩
  | some reference =>
    simp only [hnamed] at h
    cases hread : Reference.read? reference with
    | none =>
      rw [hread] at h
      cases h
    | some cell =>
      rw [hread] at h
      obtain ⟨rfl, hin⟩ := of_bounded h
      exact ⟨by simp [hread], hin⟩

theorem rowOf_eq_ok (h : rowOf next element = .ok row) :
    row = (ownRow element).getD next ∧ row < Reference.maxRows := by
  unfold rowOf at h
  unfold ownRow
  cases hnamed : element.attribute? "r" with
  | none =>
    rw [hnamed] at h
    obtain ⟨rfl, hin⟩ := of_bounded h
    exact ⟨rfl, hin⟩
  | some number =>
    simp only [hnamed] at h
    split at h
    · rename_i n hread
      obtain ⟨rfl, hin⟩ := of_bounded h
      exact ⟨by simp [hread], hin⟩
    · cases h

/-- The value of a cell element, unless it is empty. -/
def filled? (shared : Array String) (cell : Element) : Option Cell :=
  match readCell shared cell with
  | .ok value => if value.isEmpty then none else some value
  | .error _ => none

theorem filled?_eq_some_iff {value : Cell} :
    filled? shared element = some value ↔ Fills shared element value := by
  unfold filled? Fills
  cases readCell shared element with
  | error fault => simp
  | ok found => cases found <;> cases value <;> simp [Cell.isEmpty]

/-- What the elements of a row put into a column. -/
def lastInRow (shared : Array String) (column : Nat) (row : Element) : Option Cell :=
  lastAt (filled? shared) column (placed ownColumn 0 (row.named "c"))

/-- An element changes the one cell that it belongs in, unless its value is empty. -/
theorem cell_put {value : Cell} (h : readCell shared element = .ok value) (r c : Nat) :
    (if value.isEmpty then sheet else sheet.set row column value).cell r c =
      (if r = row ∧ column = c then filled? shared element else none).getD (sheet.cell r c) := by
  have hvalue : filled? shared element = if value.isEmpty then none else some value := by
    rw [filled?, h]
  rw [hvalue]
  cases value.isEmpty with
  | true => simp
  | false =>
    simp only [Bool.false_eq_true, if_false, Sheet.cell_set, @eq_comm Nat c]
    split <;> rfl

theorem readCells_eq_ok {elements : List Element}
    (h : readCells shared row sheet next elements = .ok read) :
    (row < Reference.maxRows → sheet.InGrid → read.InGrid) ∧
    ∀ r c, read.cell r c =
      ((if r = row then lastAt (filled? shared) c (placed ownColumn next elements) else none).getD
        (sheet.cell r c)) := by
  induction elements generalizing sheet next with
  | nil =>
    obtain rfl := Except.ok.inj h
    simp [placed, lastAt]
  | cons element rest ih =>
    rw [readCells] at h
    cases hcolumn : columnOf next element with
    | error fault =>
      rw [hcolumn] at h
      cases h
    | ok column =>
      rw [hcolumn] at h
      cases hcell : readCell shared element with
      | error fault =>
        rw [hcell] at h
        cases h
      | ok value =>
        rw [hcell] at h
        obtain ⟨hplace, hin⟩ := columnOf_eq_ok hcolumn
        obtain ⟨hgrid, hcells⟩ := ih h
        refine ⟨fun hrow hsheet => hgrid hrow ?_, fun r c => ?_⟩
        · split
          · exact hsheet
          · exact hsheet.set hrow hin value
        · rw [hcells, placed, lastAt_cons, ← hplace, cell_put hcell]
          by_cases hr : r = row
          · simp only [hr, true_and]
            cases lastAt (filled? shared) c (placed ownColumn (column + 1) rest) with
            | some later => rfl
            | none => rfl
          · simp [hr]

theorem readRows_eq_ok {elements : List Element}
    (h : readRows shared sheet next elements = .ok read) :
    (sheet.InGrid → read.InGrid) ∧
    ∀ r c, read.cell r c =
      (lastAt (lastInRow shared c) r (placed ownRow next elements)).getD (sheet.cell r c) := by
  induction elements generalizing sheet next with
  | nil =>
    obtain rfl := Except.ok.inj h
    simp [placed, lastAt]
  | cons element rest ih =>
    rw [readRows] at h
    cases hrow : rowOf next element with
    | error fault =>
      rw [hrow] at h
      cases h
    | ok row =>
      rw [hrow] at h
      cases hcells : readCells shared row sheet 0 (element.named "c") with
      | error fault =>
        simp only [bind, Except.bind, hcells] at h
        cases h
      | ok filled =>
        simp only [bind, Except.bind, hcells] at h
        obtain ⟨hplace, hin⟩ := rowOf_eq_ok hrow
        obtain ⟨hgrid, hfilled⟩ := readCells_eq_ok hcells
        obtain ⟨hrest, hread⟩ := ih h
        refine ⟨fun hsheet => hrest (hgrid hin hsheet), fun r c => ?_⟩
        rw [hread, hfilled, placed, lastAt_cons, ← hplace]
        cases lastAt (lastInRow shared c) r (placed ownRow (row + 1) rest) with
        | some later => rfl
        | none => simp [lastInRow, eq_comm]

theorem filled?_eq_none_iff :
    filled? shared element = none ↔ ¬ ∃ value, Fills shared element value := by
  simp only [Option.eq_none_iff_forall_ne_some, ne_eq, filled?_eq_some_iff, not_exists]

theorem lastInRow_eq_none_iff : lastInRow shared column element = none ↔
    ∀ (k : Nat) (other : Element), (element.named "c")[k]? = some other →
      StandsAt ownColumn (element.named "c") k column → ¬ ∃ value, Fills shared other value := by
  rw [lastInRow, lastAt_eq_none_iff]
  constructor
  · intro h k other hget hstands
    exact filled?_eq_none_iff.mp
      (h other (List.mem_of_getElem? (getElem?_placed_iff.mpr ⟨hget, hstands⟩)))
  · intro h other hmem
    obtain ⟨k, hk⟩ := List.getElem?_of_mem hmem
    obtain ⟨hget, hstands⟩ := getElem?_placed_iff.mp hk
    exact filled?_eq_none_iff.mpr (h k other hget hstands)

theorem lastInRow_eq_some_iff {value : Cell} : lastInRow shared column element = some value ↔
    ∃ (j : Nat) (cell : Element), (element.named "c")[j]? = some cell ∧
      StandsAt ownColumn (element.named "c") j column ∧ Fills shared cell value ∧
      ∀ (k : Nat) (other : Element), j < k → (element.named "c")[k]? = some other →
        StandsAt ownColumn (element.named "c") k column → ¬ ∃ value, Fills shared other value := by
  simp only [lastInRow, lastAt_eq_some_iff, getElem?_placed_iff, filled?_eq_some_iff,
    filled?_eq_none_iff, and_imp, and_assoc]

/-- The last row with a value in a column, and in it the last cell with one. -/
theorem lastAt_rows_eq_some_iff {rows : List Element} {value : Cell} :
    lastAt (lastInRow shared column) row (placed ownRow 0 rows) = some value ↔
      LastFilling shared rows row column value := by
  simp only [lastAt_eq_some_iff, getElem?_placed_iff, lastInRow_eq_some_iff,
    lastInRow_eq_none_iff]
  constructor
  · rintro ⟨i, element, ⟨hrow, hstands⟩, ⟨j, cell, hcell, hcolumn, hfills, hbehind⟩, hbelow⟩
    refine ⟨(i, j), cell, ⟨element, hrow, hstands, hcell, hcolumn⟩, hfills, ?_⟩
    rintro ⟨i', j'⟩ other hbefore ⟨element', hrow', hstands', hcell', hcolumn'⟩
    rcases hbefore with hlt | ⟨rfl, hlt⟩
    · exact hbelow i' element' hlt ⟨hrow', hstands'⟩ j' other hcell' hcolumn'
    · obtain rfl := Option.some.inj (hrow.symm.trans hrow')
      exact hbehind j' other hlt hcell' hcolumn'
  · rintro ⟨⟨i, j⟩, cell, ⟨element, hrow, hstands, hcell, hcolumn⟩, hfills, hlater⟩
    refine ⟨i, element, ⟨hrow, hstands⟩, ⟨j, cell, hcell, hcolumn, hfills, ?_⟩, ?_⟩
    · intro k other hlt hget hplace
      exact hlater (i, k) other (.inr ⟨rfl, hlt⟩) ⟨element, hrow, hstands, hget, hplace⟩
    · rintro i' element' hlt ⟨hrow', hstands'⟩ k other hget hplace
      exact hlater (i', k) other (.inl hlt) ⟨element', hrow', hstands', hget, hplace⟩

end Reading

/-- A sheet that is read lies inside the grid, however its rows and cells are addressed. A cell of it
is filled exactly by the last element addressed to it that has a value: the row is that of the row
element, the column that of the cell element, each its own or the one behind the element before. -/
theorem readSheet_in_grid {shared : Array String} {name : String} {root : Element} {sheet : Sheet}
    (h : readSheet shared name root = .ok sheet) :
    sheet.rows.size ≤ Reference.maxRows ∧
    (∀ row ∈ sheet.rows, row.size ≤ Reference.maxColumns) ∧
    ∀ row column value, value ≠ .empty →
      (sheet.cell row column = value ↔
        LastFilling shared (rowElements root) row column value) := by
  have hread : readRows shared (.new name) 0 (rowElements root) = .ok sheet := by
    rw [← h]
    cases hdata : root.named "sheetData" with
    | nil => simp only [readSheet, rowElements, hdata, readRows]
    | cons data _ => simp only [readSheet, rowElements, hdata]
  obtain ⟨hgrid, hcells⟩ := readRows_eq_ok hread
  have hin := hgrid (Sheet.inGrid_new name)
  refine ⟨hin.rows, hin.columns, fun row column value hne => ?_⟩
  rw [hcells, Sheet.cell_new, ← lastAt_rows_eq_some_iff]
  cases lastAt (lastInRow shared column) row (placed ownRow 0 (rowElements root)) with
  | none => simpa using hne.symm
  | some found => simp

def textCell (attributes : List Markup.Attribute) (text : String) : Element :=
  .mk "c" (⟨none, "t", "str"⟩ :: attributes) [.element (.mk "v" [] [.text text])]

/-- A sheet with one row element. -/
def rowSheet (attributes : List Markup.Attribute) (cells : List Element) : Element :=
  .mk "worksheet" []
    [.element (.mk "sheetData" [] [.element (.mk "row" attributes (cells.map .element))])]

/-- The counter jumps to the reference `C3` and goes on behind it, back to `B3` and on to `C3` again,
and an element without a value leaves the cell as it is. -/
theorem readSheet_in_grid_jumping :
    let root := rowSheet [⟨none, "r", "3"⟩] [textCell [⟨none, "r", "C3"⟩] "a", textCell [] "b",
      textCell [⟨none, "r", "B3"⟩] "c", textCell [] "d", .mk "c" [⟨none, "r", "C3"⟩] []]
    ∃ sheet, readSheet #[] "S" root = .ok sheet ∧ sheet.cell 2 2 = .text "d" ∧
      LastFilling #[] (rowElements root) 2 2 (.text "d") := by
  intro root
  have hread : readSheet #[] "S" root =
      .ok ⟨"S", #[#[], #[], #[.empty, .text "c", .text "d", .text "b"]]⟩ := by
    decide +kernel
  exact ⟨_, hread, by decide, ((readSheet_in_grid hread).2.2 2 2 _ (by decide)).mp (by decide)⟩

/-- The row number in the reference of a cell does not count: an element of the first row with the
reference `A5` fills `A1`, although no element names `A1` or has no reference. -/
theorem filled_against_reference :
    let root := rowSheet [⟨none, "r", "1"⟩] [textCell [⟨none, "r", "A5"⟩] "x"]
    ∃ sheet, readSheet #[] "S" root = .ok sheet ∧ sheet.cell 0 0 = .text "x" ∧
      sheet.cell 4 0 = .empty ∧ ∀ row ∈ rowElements root, ∀ cell ∈ row.named "c",
        (cell.attribute? "r").bind Reference.read? = some (4, 0) := by
  intro root
  have hread : readSheet #[] "S" root = .ok ⟨"S", #[#[.text "x"]]⟩ := by
    decide +kernel
  exact ⟨_, hread, by decide, by decide, by decide +kernel⟩

end Archive

end SignalCatalog
