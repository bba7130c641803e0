import Mathlib.Data.List.Forall2
import SignalCatalog.Proofs.Workbook.Rows

/-!
# Written sheets are read back

A sheet is written as the widths of its columns and its rows. The widths are not read; from the rows
come the filled cells, and they make the sheet again.
-/

namespace SignalCatalog

open Markup

/-- A sheet that survives a workbook: its name can stand in an attribute, and its filled cells lie
inside the grid and have values that survive. -/
structure Sheet.Writable (sheet : Sheet) : Prop where
  name : IsValue sheet.name
  cell : ∀ r c, (sheet.cell r c).isEmpty = false →
    r < Reference.maxRows ∧ c < Reference.maxColumns ∧ (sheet.cell r c).Writable

/-- It is enough to look at the filled cells of a sheet. -/
theorem Sheet.writable_iff (sheet : Sheet) : sheet.Writable ↔
    IsValue sheet.name ∧ ∀ entry ∈ sheet.filled,
      entry.1 < Reference.maxRows ∧ entry.2.1 < Reference.maxColumns ∧ entry.2.2.Writable := by
  constructor
  · intro h
    refine ⟨h.name, ?_⟩
    rintro ⟨r, c, cell⟩ hentry
    obtain ⟨hne, rfl⟩ := mem_filled.mp hentry
    exact h.cell r c hne
  · rintro ⟨hname, hfilled⟩
    exact ⟨hname, fun r c hne => hfilled (r, c, sheet.cell r c) (mem_filled.mpr ⟨hne, rfl⟩)⟩

instance (sheet : Sheet) : Decidable sheet.Writable := decidable_of_iff' _ sheet.writable_iff

namespace Workbook

theorem filledRow_of_isEmpty {row : Row} (h : row.isEmpty = true) (index : Nat) :
    Sheet.filledRow index row = [] := by
  apply List.eq_nil_iff_forall_not_mem.mpr
  rintro ⟨r, c, cell⟩ hentry
  obtain ⟨_, hne, hget⟩ := Sheet.mem_filledRow.mp hentry
  rw [Row.isEmpty, Array.all_eq_true] at h
  obtain ⟨hc, rfl⟩ := Array.getElem?_eq_some_iff.mp hget
  simp [h c hc] at hne

section Elements

variable {scope : Scope}

/-- The rows of a sheet are written as elements that show the filled cells of the sheet. -/
theorem exists_rowElements {sheet : Sheet} (h : sheet.Writable) :
    ∃ elements rows, List.Forall₂ (Reads scope)
        (sheet.rows.toList.zipIdx.filterMap fun (row, index) => rowNode? row index) elements ∧
      List.Forall₂ ShowsRow rows elements ∧ rows.flatMap Prod.snd = sheet.filled := by
  let shown? (item : Row × Nat) : Option (Nat × List (Nat × Nat × Cell)) :=
    if item.1.isEmpty then none else some (item.2, Sheet.filledRow item.2 item.1)
  have hrows : ∀ item ∈ sheet.rows.toList.zipIdx,
      (rowNode? item.1 item.2 = none ∧ shown? item = none) ∨
      ∃ node entry element, rowNode? item.1 item.2 = some node ∧ shown? item = some entry ∧
        Reads scope node element ∧ ShowsRow entry element := by
    rintro ⟨row, index⟩ hitem
    rw [List.mem_zipIdx_iff_getElem?, Array.getElem?_toList] at hitem
    cases hempty : row.isEmpty with
    | true => exact .inl ⟨if_pos hempty, if_pos hempty⟩
    | false =>
      obtain ⟨node, element, hnode, hread, hshow⟩ :=
        @exists_rowElement scope row index hempty fun c cell hget hfilled => by
          have hcell : sheet.cell index c = cell := by
            simp [Sheet.cell, hitem, Row.cell, hget]
          have hin := h.cell index c (by rwa [hcell])
          rwa [hcell] at hin
      exact .inr ⟨node, _, element, hnode, if_neg (by simp [hempty]), hread, hshow⟩
  obtain ⟨elements, hreads, hshows⟩ := exists_elements hrows
  refine ⟨elements, _, hreads, hshows, ?_⟩
  rw [List.filterMap_eq_flatMap_toList, List.flatMap_assoc, Sheet.filled_eq]
  congr 1
  funext item
  cases hempty : item.1.isEmpty with
  | true => simp [shown?, hempty, filledRow_of_isEmpty hempty]
  | false => simp [shown?, hempty]

theorem exists_forall₂ {nodes : List Node} (h : ∀ node ∈ nodes, ∃ element, Reads scope node element) :
    ∃ elements, List.Forall₂ (Reads scope) nodes elements := by
  induction nodes with
  | nil => exact ⟨[], .nil⟩
  | cons node rest ih =>
    obtain ⟨⟨element, helement⟩, hrest⟩ := List.forall_mem_cons.mp h
    obtain ⟨elements, helements⟩ := ih hrest
    exact ⟨element :: elements, .cons helement helements⟩

theorem exists_columnElement (width n : Nat) :
    ∃ element, Reads scope (tag "col" [("min", Text.number n), ("max", Text.number n),
      ("width", Text.number (width + 2)), ("customWidth", "1")] []) element := by
  have hvalues : ∀ value ∈ [Text.number n, Text.number n, Text.number (width + 2), "1"], IsValue value := by
    simp only [List.forall_mem_cons]
    exact ⟨isValue_number, isValue_number, isValue_number, by decide,
      by simp⟩
  exact ⟨_, reads_tag (by decide)
    ⟨show PlainKeys ["min", "max", "width", "customWidth"] by decide,
      fun item hitem => hvalues item.2 (List.mem_map_of_mem hitem)⟩ .nil⟩

/-- The widths of the columns are written as elements that hold no rows. -/
theorem exists_columnElements (widths : List Nat) :
    ∃ elements, List.Forall₂ (Reads scope) (columns widths) elements ∧
      ∀ element ∈ elements, element.name ≠ "sheetData" := by
  unfold columns
  split
  · exact ⟨[], .nil, by simp⟩
  · have hcolumns : ∀ node ∈ (widths.zip (numbers widths.length)).filterMap fun item =>
        if item.1 = 0 then none
        else some (tag "col" [("min", Text.number item.2), ("max", Text.number item.2),
          ("width", Text.number (item.1 + 2)), ("customWidth", "1")] []),
        ∃ element, Reads scope node element := by
      intro node hnode
      obtain ⟨⟨width, n⟩, _, hitem⟩ := List.mem_filterMap.mp hnode
      rw [Option.ite_none_left_eq_some, Option.some.injEq] at hitem
      rw [← hitem.2]
      exact exists_columnElement width n
    obtain ⟨elements, hreads⟩ := exists_forall₂ hcolumns
    refine ⟨_, .cons (reads_tag (by decide) ⟨by decide, by simp⟩ hreads) .nil, ?_⟩
    rw [List.forall_mem_singleton, Element.name_mk]
    decide

end Elements

/-- A written sheet is read back with its filled cells. -/
theorem exists_sheetElement {sheet : Sheet} (h : sheet.Writable) :
    ∃ element, Reads [] (sheetNode sheet) element ∧ ∀ shared name,
      Archive.readSheet shared name element = .ok ((Sheet.new name).place sheet.filled) := by
  obtain ⟨columns, hcolumns, hwidths⟩ :=
    @exists_columnElements labelledScope (columnWidths sheet)
  obtain ⟨elements, rows, hrows, hshows, hfilled⟩ := @exists_rowElements labelledScope sheet h
  have hdata : Reads labelledScope _ (.mk "sheetData" [] (elements.map .element)) :=
    reads_openContent (by decide) (@tagReads_plain _ [] ⟨by decide, by simp⟩) hrows
  refine ⟨_, reads_openContent (by decide) tagReads_labelled
    (List.rel_append hcolumns (.cons hdata .nil)), fun shared name => ?_⟩
  have hfound : (columns ++ [Element.mk "sheetData" [] (elements.map .element)]).filter
      (fun child => child.name == "sheetData") =
        [.mk "sheetData" [] (elements.map .element)] := by
    rw [List.filter_append, List.filter_eq_nil_iff.mpr (by simpa using hwidths)]
    simp
  rw [Archive.readSheet, Element.named_mk, hfound]
  simp only [named_of_forall₂ hshows fun row element hshow => hshow.name]
  rw [readRows_of_shows hshows, hfilled]

end Workbook

end SignalCatalog
