import SignalCatalog.Proofs.Binary64.Shortest
import SignalCatalog.Proofs.Workbook.Cells
import SignalCatalog.Proofs.Workbook.Reference
import SignalCatalog.Proofs.Workbook.Tags
import SignalCatalog.Workbook.Reader

/-!
# Written cells and rows are read back

Cells without a value and rows without a cell leave no element behind, so that the elements of a row
are fewer than its cells. Every element says where it belongs: what has been put into the sheet after
some elements is said by position, and one more element changes one position.
-/

namespace SignalCatalog

open Markup

/-- A cell whose value survives a workbook: the characters of a text are those of documents, and a
number is finite. -/
def Cell.Writable : Cell → Prop
  | empty => True
  | text value => IsText value
  | number value => value.isFinite = true
  | bool _ => True

instance (cell : Cell) : Decidable cell.Writable :=
  match cell with
  | .empty => inferInstanceAs (Decidable True)
  | .text value => inferInstanceAs (Decidable (IsText value))
  | .number value => inferInstanceAs (Decidable (value.isFinite = true))
  | .bool _ => inferInstanceAs (Decidable True)

namespace Workbook

theorem isValue_reference {row column : Nat} : IsValue (Reference.text row column) := by
  intro c hc
  rw [Reference.toList_text] at hc
  rcases List.mem_append.mp hc with hc | hc
  · have halpha := Reference.isAlpha_of_mem_columnLetters c hc
    exact inValue_of_isAlphanum (by simp [Char.isAlphanum, halpha])
  · exact inValue_of_isAlphanum (by simp [Char.isAlphanum, Text.isDigit_of_mem_digits c hc])

theorem isText_text {value : Binary64} : IsText (value.text Binary64.plainLayout) := by
  intro c hc
  rcases Binary64.mem_text c hc with hword | rfl | rfl
  · exact inText_of_isAlphanum hword
  · decide
  · decide

/-! ## Cells -/

/-- An element from which a filled cell is read, whatever stands before it. -/
structure ShowsCell (entry : Nat × Nat × Cell) (element : Element) : Prop where
  name : element.name = "c"
  column : ∀ next, Archive.columnOf next element = .ok entry.2.1
  value : ∀ shared, Archive.readCell shared element = .ok entry.2.2

section Cells

variable {scope : Scope} {style text : String} {row column : Nat} {cell : Cell}

theorem columnOf_mk (hrow : row < Reference.maxRows) (hcolumn : column < Reference.maxColumns)
    (more : List (String × String)) (content : List Child) (next : Nat) :
    Archive.columnOf next (.mk "c" ((("r", Reference.text row column) :: more).map plainAttribute)
      content) = .ok column := by
  have hreference : Entries.get? "r" (("r", Reference.text row column) :: more) =
      some (Reference.text row column) := by
    simp [Entries.get?]
  rw [Archive.columnOf, attribute?_plain, hreference]
  simp only [Reference.read?_text hrow hcolumn]
  exact if_neg (Nat.not_le.mpr hcolumn)

theorem readCell_inline {element item : Element} (htype : element.attribute? "t" = some "inlineStr")
    (hitem : element.named "is" = [item]) (shared : Array String) :
    Archive.readCell shared element = .ok (.text (Archive.richText item)) := by
  rw [Archive.readCell, htype, hitem]
  rfl

theorem readCell_bool {element item : Element} (htype : element.attribute? "t" = some "b")
    (hitem : element.named "v" = [item]) (htext : item.text? = some text) (shared : Array String) :
    Archive.readCell shared element = .ok (.bool (Text.trimmed text == "1")) := by
  rw [Archive.readCell, htype, hitem]
  simp [htext]

theorem readCell_number {element item : Element} {value : Binary64}
    (htype : element.attribute? "t" = none) (hitem : element.named "v" = [item])
    (htext : item.text? = some text) (hvalue : Binary64.ofText? (Text.trimmed text) = some value)
    (shared : Array String) :
    Archive.readCell shared element = .ok (.number value) := by
  rw [Archive.readCell, htype, hitem]
  simp [htext, hvalue]

theorem plainAttributes_cell (hstyle : IsValue style) :
    PlainAttributes [("r", Reference.text row column), ("s", style)] where
  keys := show PlainKeys ["r", "s"] by decide
  values := by simpa using ⟨isValue_reference, hstyle⟩

theorem plainAttributes_typed (hstyle : IsValue style) {type : String}
    (htype : IsValue type) :
    PlainAttributes [("r", Reference.text row column), ("s", style), ("t", type)] where
  keys := show PlainKeys ["r", "s", "t"] by decide
  values := by simpa using ⟨isValue_reference, hstyle, htype⟩

/-- A text is read back with its blanks, whether it is marked or not. -/
theorem exists_textElement (h : IsText text) :
    ∃ element, Reads scope (textContent text) element ∧ element.name = "t" ∧
      element.text?.getD "" = text := by
  have hmark : ∃ resolved, TagReads scope
      (if Text.trimmed text == text then [] else [(⟨"xml", "space"⟩, "preserve")]) scope
      resolved := by
    split
    · exact ⟨[], by simp, rfl, rfl⟩
    · exact ⟨[⟨some languageSpace, "space", "preserve"⟩],
        by simpa [Sayable] using by decide, rfl, rfl⟩
  obtain ⟨resolved, hresolved⟩ := hmark
  refine ⟨_, .leaf (by decide) hresolved h, rfl, ?_⟩
  by_cases hempty : text = "" <;> simp [Element.text?, Element.children, hempty]

/-- A value with a text that is not empty is read back as this text. -/
theorem reads_value (h : IsText text) (hne : text ≠ "") :
    Reads scope (tag "v" [] [.text text]) (.mk "v" [] [.text text]) := by
  have hitem := @reads_tag_text scope "v" [] (by decide) ⟨by decide, by simp⟩ _ h
  rwa [if_neg hne] at hitem

/-- A cell with a value is written as an element from which it is read back. -/
theorem exists_cellElement (hrow : row < Reference.maxRows) (hcolumn : column < Reference.maxColumns)
    (hstyle : IsValue style) (h : cell.Writable) (hne : cell ≠ .empty) :
    ∃ node element, cellNode? (Reference.text row column) style cell = some node ∧
      Reads scope node element ∧ ShowsCell (row, column, cell) element := by
  have hkey : ∀ more : List (String × String),
      Entries.get? "t" (("r", Reference.text row column) :: ("s", style) :: more) =
        Entries.get? "t" more := by
    intro more
    simp [Entries.get?]
  cases cell with
  | empty => exact False.elim (hne rfl)
  | text value =>
    obtain ⟨content, hcontent, hname, htext⟩ := @exists_textElement scope value h
    have hitem := @reads_tag scope "is" [] _ _ (by decide) ⟨by decide, by simp⟩
      (.cons hcontent .nil)
    refine ⟨_, _, rfl, reads_tag (by decide) (plainAttributes_typed hstyle (by decide))
      (.cons hitem .nil), rfl, columnOf_mk hrow hcolumn _ _, fun shared => ?_⟩
    rw [readCell_inline ((attribute?_plain "t").trans (hkey _)) (Element.named_mk _ _ _ _),
      Archive.richText, Element.childElements_mk]
    simp [hname, htext]
  | number value =>
    have htext : Text.trimmed (value.text Binary64.plainLayout) =
        value.text Binary64.plainLayout :=
      Text.trimmed_eq_self (Text.trimmed_of_forall Binary64.isBlank_of_mem_text)
    refine ⟨_, _, rfl, reads_tag (by decide) (plainAttributes_cell hstyle)
      (.cons (reads_value isText_text value.text_ne_empty) .nil), rfl,
      columnOf_mk hrow hcolumn _ _, readCell_number ((attribute?_plain "t").trans (hkey _))
        (Element.named_mk _ _ _ _) (Element.text?_mk _ _ _ _) ?_⟩
    rw [htext]
    exact Binary64.ofText?_text h
  | bool value =>
    have hdigit : IsText (if value then "1" else "0") := by
      cases value <;> decide
    refine ⟨_, _, rfl, reads_tag (by decide) (plainAttributes_typed hstyle (by decide))
      (.cons (reads_value hdigit (by cases value <;> decide)) .nil), rfl,
      columnOf_mk hrow hcolumn _ _, fun shared => ?_⟩
    rw [readCell_bool ((attribute?_plain "t").trans (hkey _)) (Element.named_mk _ _ _ _)
      (Element.text?_mk _ _ _ _)]
    cases value <;> rfl

end Cells

/-- Items that are written as elements are read back item by item; those of which nothing is written
are not met again. -/
theorem exists_elements {α β : Type} {scope : Scope} {node? : α → Option Node}
    {shown? : α → Option β} {Shows : β → Element → Prop} {items : List α}
    (h : ∀ item ∈ items, (node? item = none ∧ shown? item = none) ∨
      ∃ node entry element, node? item = some node ∧ shown? item = some entry ∧
        Reads scope node element ∧ Shows entry element) :
    ∃ elements, List.Forall₂ (Reads scope) (items.filterMap node?) elements ∧
      List.Forall₂ Shows (items.filterMap shown?) elements := by
  induction items with
  | nil => exact ⟨[], .nil, .nil⟩
  | cons item rest ih =>
    obtain ⟨hitem, hrest⟩ := List.forall_mem_cons.mp h
    obtain ⟨elements, hreads, hshows⟩ := ih hrest
    rcases hitem with ⟨hnode, hentry⟩ | ⟨node, entry, element, hnode, hentry, hread, hshow⟩
    · refine ⟨elements, ?_, ?_⟩
      · rwa [List.filterMap_cons_none hnode]
      · rwa [List.filterMap_cons_none hentry]
    · refine ⟨element :: elements, ?_, ?_⟩
      · rw [List.filterMap_cons_some hnode]
        exact .cons hread hreads
      · rw [List.filterMap_cons_some hentry]
        exact .cons hshow hshows

/-- Elements that all have the name of a list are found under it. -/
theorem named_of_forall₂ {β : Type} {Shows : β → Element → Prop} {entries : List β}
    {elements : List Element} {name : String} (h : List.Forall₂ Shows entries elements)
    (hname : ∀ entry element, Shows entry element → element.name = name) (base : String)
    (attributes : List Markup.Attribute) :
    (Element.mk base attributes (elements.map .element)).named name = elements := by
  rw [Element.named_mk, List.filter_eq_self]
  induction h with
  | nil => simp
  | cons hshow _ ih => exact List.forall_mem_cons.mpr ⟨by simp [hname _ _ hshow], ih⟩

/-! ## Rows -/

/-- An element from which the filled cells of a row are read, whatever stands before it. -/
structure ShowsRow (row : Nat × List (Nat × Nat × Cell)) (element : Element) : Prop where
  name : element.name = "row"
  index : ∀ next, Archive.rowOf next element = .ok row.1
  cells : ∀ shared sheet, Archive.readCells shared row.1 sheet 0 (element.named "c") =
    .ok (sheet.place row.2)

theorem readCells_of_shows {row : Nat} {entries : List (Nat × Nat × Cell)}
    {elements : List Element} (h : List.Forall₂ ShowsCell entries elements)
    (hfilled : ∀ entry ∈ entries, entry.1 = row ∧ entry.2.2.isEmpty = false)
    (shared : Array String) (sheet : Sheet) (next : Nat) :
    Archive.readCells shared row sheet next elements = .ok (sheet.place entries) := by
  induction h generalizing sheet next with
  | nil => rfl
  | @cons entry element entries elements hshow _ ih =>
    obtain ⟨⟨rfl, hne⟩, hrest⟩ := List.forall_mem_cons.mp hfilled
    rw [Archive.readCells, hshow.column next, hshow.value shared]
    simp only [bind, Except.bind, hne, Bool.false_eq_true, if_false]
    exact ih hrest _ _

theorem readRows_of_shows {rows : List (Nat × List (Nat × Nat × Cell))} {elements : List Element}
    (h : List.Forall₂ ShowsRow rows elements) (shared : Array String) (sheet : Sheet) (next : Nat) :
    Archive.readRows shared sheet next elements = .ok (sheet.place (rows.flatMap Prod.snd)) := by
  induction h generalizing sheet next with
  | nil => rfl
  | @cons row element rows elements hshow _ ih =>
    rw [Archive.readRows, hshow.index next]
    simp only [bind, Except.bind, hshow.cells]
    rw [ih, List.flatMap_cons, Sheet.place_append]

section Rows

variable {scope : Scope} {row : Row} {index : Nat}

theorem rowOf_mk (hindex : index < Reference.maxRows) (content : List Child) (next : Nat) :
    Archive.rowOf next (.mk "row" ([("r", Text.number (index + 1))].map plainAttribute) content) =
      .ok index := by
  have hnumber : Entries.get? "r" [("r", Text.number (index + 1))] =
      some (Text.number (index + 1)) := by
    simp [Entries.get?]
  rw [Archive.rowOf, attribute?_plain, hnumber]
  simp only [Text.toList_number, Text.trim_digits, Text.unsigned?_digits hindex]
  exact if_neg (Nat.not_le.mpr hindex)

/-- The filled cells of a row are written as elements from which they are read back. -/
theorem exists_cellElements {style : String} (hstyle : IsValue style)
    (h : ∀ c cell, row[c]? = some cell → cell.isEmpty = false →
      index < Reference.maxRows ∧ c < Reference.maxColumns ∧ cell.Writable) :
    ∃ elements, List.Forall₂ (Reads scope) (row.toList.zipIdx.filterMap fun (cell, column) =>
        cellNode? (Reference.text index column) style cell) elements ∧
      List.Forall₂ ShowsCell (Sheet.filledRow index row) elements := by
  apply exists_elements
  rintro ⟨cell, column⟩ hitem
  rw [List.mem_zipIdx_iff_getElem?, Array.getElem?_toList] at hitem
  cases hempty : cell.isEmpty with
  | true =>
    refine .inl ⟨?_, if_pos hempty⟩
    cases cell with
    | empty => rfl
    | _ => simp [Cell.isEmpty] at hempty
  | false =>
    obtain ⟨hrow, hcolumn, hwritable⟩ := h column cell hitem hempty
    have hne : cell ≠ .empty := by
      rintro rfl
      simp [Cell.isEmpty] at hempty
    obtain ⟨node, element, hnode, hread, hshow⟩ :=
      @exists_cellElement scope style index column cell hrow hcolumn hstyle hwritable hne
    exact .inr ⟨node, _, element, hnode, if_neg (by simp [hempty]), hread, hshow⟩

/-- A row with a filled cell is written as an element from which its filled cells are read back. -/
theorem exists_rowElement (hne : row.isEmpty = false)
    (h : ∀ c cell, row[c]? = some cell → cell.isEmpty = false →
      index < Reference.maxRows ∧ c < Reference.maxColumns ∧ cell.Writable) :
    ∃ node element, rowNode? row index = some node ∧ Reads scope node element ∧
      ShowsRow (index, Sheet.filledRow index row) element := by
  obtain ⟨column, hcolumn, hfilled⟩ : ∃ c, ∃ hc : c < row.size, row[c].isEmpty = false := by
    simpa [Row.isEmpty] using hne
  have hindex := (h column row[column] (Array.getElem?_eq_getElem hcolumn) hfilled).1
  generalize hstyle : (if index = 0 then headerStyle else dataStyle) = style
  have hchars : IsValue style := by
    rw [← hstyle]
    split <;> decide
  obtain ⟨elements, hreads, hshows⟩ := @exists_cellElements scope row index style hchars h
  have hattributes : PlainAttributes [("r", Text.number (index + 1))] :=
    ⟨show PlainKeys ["r"] by decide, by simpa using isValue_number⟩
  refine ⟨_, _, ?_, reads_tag (by decide) hattributes hreads, rfl, rowOf_mk hindex _, ?_⟩
  · rw [rowNode?, hne, hstyle]
    rfl
  · intro shared sheet
    rw [named_of_forall₂ hshows fun entry element hshow => hshow.name]
    refine readCells_of_shows hshows ?_ shared sheet 0
    rintro ⟨r, c, cell⟩ hentry
    obtain ⟨hr, hcell, _⟩ := Sheet.mem_filledRow.mp hentry
    exact ⟨hr, hcell⟩

end Rows

end Workbook

end SignalCatalog
