import Mathlib.Data.List.Forall2
import SignalCatalog.Proofs.OrderedMap
import SignalCatalog.Proofs.Workbook.Sheets

/-!
# Workbooks survive their archives

The name of a sheet leads to a link, the link to a part, and the part to the cells of the sheet. The
parts of an archive have different names, and so have the links of a workbook; every sheet is
therefore found under its name, with the cells that it was written with.
-/

namespace SignalCatalog

open Markup

theorem Text.number_injective : Function.Injective Text.number := by
  intro n m h
  rw [← Text.valueOf_digits n, ← Text.valueOf_digits m, ← Text.toList_number, h, Text.toList_number]

namespace Archive

theorem toList_between (before word behind : String) :
    (before ++ word ++ behind).toList = before.toList ++ word.toList ++ behind.toList := by
  rw [String.toList_append, String.toList_append]

theorem toList_sheetPart (n : Nat) : (sheetPart n).toList =
    "xl/worksheets/sheet".toList ++ (Text.number n).toList ++ ".xml".toList :=
  toList_between _ _ _

theorem sheetPart_injective : Function.Injective sheetPart := by
  intro n m h
  apply Text.number_injective
  rw [← String.toList_inj, toList_sheetPart, toList_sheetPart] at h
  rw [← String.toList_inj]
  exact List.append_cancel_left (List.append_cancel_right h)

/-- The part of a sheet has none of the other names. -/
theorem sheetPart_ne {name : String} (h : name.toList.take 8 ≠ "xl/works".toList) (n : Nat) :
    sheetPart n ≠ name := by
  rintro rfl
  rw [toList_sheetPart, List.append_assoc, List.take_append_of_le_length (by decide)] at h
  exact h rfl

theorem get?_ofPairs {pairs : List (String × Part)} (h : (Entries.keys pairs).Nodup)
    (name : String) : (ofPairs pairs).get? name = Entries.get? name pairs := by
  rw [get?, OrderedMap.get?, ofPairs, OrderedMap.entries_ofPairs, Entries.ofPairs_of_nodup h]

end Archive

namespace Workbook

theorem linkId_injective : Function.Injective linkId := by
  intro n m h
  apply Text.number_injective
  rw [← String.toList_inj, linkId, linkId, String.toList_append, String.toList_append] at h
  rw [← String.toList_inj]
  exact List.append_cancel_left h

theorem nodup_numbers (count : Nat) : (numbers count).Nodup :=
  List.nodup_range.map fun _ _ h => Nat.succ.inj h

/-! ## Parts -/

/-- The parts of all workbooks. -/
def commonParts (workbook : Workbook) : List (String × Part) :=
  let count := workbook.sheets.length
  [(Archive.contentTypesPart, .text (document (contentTypes count))),
    (Archive.packageLinksPart, .text (document packageLinks)),
    (Archive.workbookPart, .text (document workbook.directory)),
    (Archive.workbookLinksPart, .text (document (workbookLinks count))),
    (Archive.stylesPart, .text (document styles))]

/-- The sheets with their numbers. -/
def numbered (workbook : Workbook) : List (Sheet × Nat) :=
  workbook.sheets.zip (numbers workbook.sheets.length)

def sheetEntries (workbook : Workbook) : List (String × Part) :=
  workbook.numbered.map fun item => (Archive.sheetPart item.2, .text (document (sheetNode item.1)))

variable (workbook : Workbook)

theorem toArchive_eq : workbook.toArchive = .ofPairs (workbook.commonParts ++ workbook.sheetEntries) :=
  rfl

theorem map_fst_numbered : workbook.numbered.map Prod.fst = workbook.sheets :=
  List.map_fst_zip (by simp [numbers])

theorem map_snd_numbered : workbook.numbered.map Prod.snd = numbers workbook.sheets.length :=
  List.map_snd_zip (by simp [numbers])

theorem keys_sheetEntries : Entries.keys workbook.sheetEntries =
    (numbers workbook.sheets.length).map Archive.sheetPart := by
  rw [← map_snd_numbered, sheetEntries, Entries.keys, List.map_map, List.map_map]
  rfl

theorem take_commonParts :
    ∀ name ∈ Entries.keys workbook.commonParts, name.toList.take 8 ≠ "xl/works".toList := by
  simp only [commonParts, Entries.keys, List.map_cons, List.map_nil]
  decide

theorem nodup_parts : (Entries.keys (workbook.commonParts ++ workbook.sheetEntries)).Nodup := by
  rw [Entries.keys_append, List.nodup_append]
  refine ⟨?_, ?_, ?_⟩
  · simp only [commonParts, Entries.keys, List.map_cons, List.map_nil]
    decide
  · rw [keys_sheetEntries]
    exact (nodup_numbers _).map Archive.sheetPart_injective
  · rintro common hcommon name hname rfl
    rw [keys_sheetEntries] at hname
    obtain ⟨n, _, hn⟩ := List.mem_map.mp hname
    exact Archive.sheetPart_ne (take_commonParts workbook _ hcommon) n hn

theorem document?_of_mem {name text : String}
    (h : (name, Part.text text) ∈ workbook.commonParts ++ workbook.sheetEntries) :
    workbook.toArchive.document? name = .ok (some text) := by
  rw [Archive.document?, toArchive_eq, Archive.get?_ofPairs workbook.nodup_parts,
    Entries.get?_of_mem workbook.nodup_parts h]

theorem sharedTexts_toArchive : workbook.toArchive.sharedTexts = .ok #[] := by
  have hget : workbook.toArchive.get? Archive.sharedTextsPart = none := by
    rw [toArchive_eq, Archive.get?_ofPairs workbook.nodup_parts, Entries.get?_eq_none_iff,
      Entries.keys_append, List.mem_append, keys_sheetEntries, List.mem_map]
    rintro (hcommon | ⟨n, _, hn⟩)
    · simp only [commonParts, Entries.keys, List.map_cons, List.map_nil] at hcommon
      revert hcommon
      decide
    · exact Archive.sheetPart_ne (by decide) n hn
  rw [Archive.sharedTexts, Archive.document?, hget]
  rfl

/-! ## The directory -/

/-- What is read of a link. -/
def linkElement (id kind target : String) : Element :=
  .mk "Relationship" ([("Id", id), ("Type", Archive.linkSpace ++ "/" ++ kind),
    ("Target", target)].map plainAttribute) []

/-- What is read of the entry of a sheet. -/
def entryElement (name : String) (n : Nat) : Element :=
  .mk "sheet" [⟨none, "name", name⟩, ⟨none, "sheetId", Text.number n⟩,
    ⟨some Archive.linkSpace, "id", linkId n⟩] []

theorem isValue_linkId {n : Nat} : IsValue (linkId n) :=
  .append (by decide) isValue_number

theorem reads_link {scope : Scope} {id kind target : String} (hid : IsValue id)
    (hkind : IsValue kind) (htarget : IsValue target) :
    Reads scope (link id kind target) (linkElement id kind target) := by
  have hspace : IsValue (Archive.linkSpace ++ "/") := by decide
  have hvalues : ∀ value ∈ [id, Archive.linkSpace ++ "/" ++ kind, target],
      IsValue value := by
    simp only [List.forall_mem_cons]
    exact ⟨hid, hspace.append hkind, htarget, by simp⟩
  have hattributes : PlainAttributes [("Id", id), ("Type", Archive.linkSpace ++ "/" ++ kind),
      ("Target", target)] :=
    ⟨show PlainKeys ["Id", "Type", "Target"] by decide,
      fun item hitem => hvalues item.2 (List.mem_map_of_mem hitem)⟩
  exact reads_tag (by decide) hattributes .nil

/-- The links that are read from an element by identifier. -/
theorem links_mk {α : Type} (id kind target : α → String) (attributes : List Markup.Attribute)
    (items : List α) :
    Archive.links (.mk "Relationships" attributes
      ((items.map fun item => linkElement (id item) (kind item) (target item)).map .element)) =
      items.map fun item => (id item, Archive.linkTarget (target item)) := by
  have hname : ∀ item, (linkElement (id item) (kind item) (target item)).name =
      "Relationship" := fun _ => rfl
  rw [Archive.links, Element.named_mk, List.filter_eq_self.mpr (by simp [hname]),
    List.filterMap_map, ← List.filterMap_eq_map]
  refine List.filterMap_congr fun item _ => ?_
  simp only [Function.comp_apply, linkElement, attribute?_plain]
  rfl

theorem reads_sheetEntry {name : String} (hname : IsValue name) (n : Nat) :
    Reads labelledScope (sheetEntry name n) (entryElement name n) := by
  have hkeys : ∀ key ∈ [Name.plain "name", .plain "sheetId", ⟨"r", "id"⟩], key.Readable := by
    decide
  have hvalues : ∀ value ∈ [name, Text.number n, linkId n], IsValue value := by
    simp only [List.forall_mem_cons]
    exact ⟨hname, isValue_number, isValue_linkId, by simp⟩
  refine .branch (by decide) ⟨fun item hitem => ?_, rfl, rfl⟩ .nil
  exact ⟨hkeys item.1 (List.mem_map_of_mem hitem), hvalues item.2 (List.mem_map_of_mem hitem)⟩

/-- The target of the link to a sheet; it starts from the folder of the workbook. -/
def sheetTarget (n : Nat) : String := "worksheets/sheet" ++ Text.number n ++ ".xml"

theorem linkTarget_sheetTarget (n : Nat) :
    Archive.linkTarget (sheetTarget n) = Archive.sheetPart n := by
  have htarget : (sheetTarget n).toList =
      'w' :: ("orksheets/sheet".toList ++ (Text.number n).toList ++ ".xml".toList) :=
    Archive.toList_between _ _ _
  have hhere : Archive.linkTarget (sheetTarget n) = "xl/" ++ String.ofList (sheetTarget n).toList := by
    rw [Archive.linkTarget, htarget]
    rfl
  have hlead : ∀ (lead : String) (text : List Char),
      (lead ++ String.ofList text).toList = lead.toList ++ text := by
    simp
  rw [hhere, ← String.toList_inj, hlead, htarget, Archive.toList_sheetPart]
  rfl

/-- The identifiers, kinds and targets of the links of a workbook. -/
def linkItems (count : Nat) : List (String × String × String) :=
  ((numbers count).map fun n => (linkId n, "worksheet", sheetTarget n)) ++
    [(linkId (count + 1), "styles", "styles.xml")]

theorem isValue_sheetTarget {n : Nat} : IsValue (sheetTarget n) :=
  .append (.append (by decide) isValue_number) (by decide)

theorem reads_workbookLinks (count : Nat) :
    Reads [] (workbookLinks count) (.mk "Relationships" []
      (((linkItems count).map fun item => linkElement item.1 item.2.1 item.2.2).map .element)) := by
  have hnodes : workbookLinks count = root "Relationships" Archive.packageLinkSpace []
      ((linkItems count).map fun item => link item.1 item.2.1 item.2.2) := by
    rw [linkItems, List.map_append, List.map_map]
    rfl
  rw [hnodes]
  refine reads_openContent (by decide)
    (tagReads_root (by decide) (by decide)) ?_
  rw [List.forall₂_map_left_iff, List.forall₂_map_right_iff, List.forall₂_same, linkItems,
    List.forall_mem_append, List.forall_mem_map, List.forall_mem_singleton]
  have hwords : ∀ word ∈ ["worksheet", "styles", "styles.xml"], IsValue word := by
    decide
  exact ⟨fun n _ => reads_link isValue_linkId (hwords _ (by simp)) isValue_sheetTarget,
    reads_link isValue_linkId (hwords _ (by simp)) (hwords _ (by simp))⟩

/-- The links of a written workbook lead to the parts of its sheets. -/
theorem exists_linksElement (count : Nat) :
    ∃ element, Element.read? (document (workbookLinks count)) = some element ∧
      ∀ n ∈ numbers count,
        Entries.get? (linkId n) (Archive.links element) = some (Archive.sheetPart n) := by
  refine ⟨_, (reads_workbookLinks count).read?_document, fun n hn => ?_⟩
  rw [links_mk]
  apply Entries.get?_of_mem
  · have hkeys : Entries.keys ((linkItems count).map fun item =>
        (item.1, Archive.linkTarget item.2.2)) = (numbers (count + 1)).map linkId := by
      rw [numbers, List.range_succ, linkItems]
      simp [Entries.keys, numbers, Function.comp_def]
    rw [hkeys]
    exact (nodup_numbers (count + 1)).map linkId_injective
  · refine List.mem_map.mpr ⟨(linkId n, "worksheet", sheetTarget n), ?_, ?_⟩
    · exact List.mem_append_left _ (List.mem_map.mpr ⟨n, hn, rfl⟩)
    · exact Prod.ext rfl (linkTarget_sheetTarget n)

variable {workbook} in
theorem reads_directory (h : ∀ sheet ∈ workbook.sheets, IsValue sheet.name) :
    Reads [] workbook.directory (.mk "workbook" []
      ([Element.mk "sheets" [] ((workbook.numbered.map fun item =>
        entryElement item.1.name item.2).map .element)].map .element)) := by
  have hentries : List.Forall₂ (Reads labelledScope)
      (workbook.numbered.map fun item => sheetEntry item.1.name item.2)
      (workbook.numbered.map fun item => entryElement item.1.name item.2) := by
    rw [List.forall₂_map_left_iff, List.forall₂_map_right_iff, List.forall₂_same]
    intro item hitem
    have hsheet : item.1 ∈ workbook.sheets := by
      rw [← map_fst_numbered]
      exact List.mem_map_of_mem hitem
    exact reads_sheetEntry (h item.1 hsheet) item.2
  have hname : (Name.plain "sheets").Readable := by decide
  have hsheets := reads_openContent hname
    (@tagReads_plain labelledScope [] ⟨by decide, by simp⟩) hentries
  exact reads_openContent (by decide) tagReads_labelled (.cons hsheets .nil)

/-- Items that are read alike at every position. -/
theorem filterMap_zipIdx_map {α β γ : Type} {f : α → β} {g : α → γ} {read : β × Nat → Option γ}
    {items : List α} (h : ∀ item ∈ items, ∀ index, read (f item, index) = some (g item)) :
    (items.map f).zipIdx.filterMap read = items.map g := by
  generalize 0 = start
  induction items generalizing start with
  | nil => rfl
  | cons item rest ih =>
    obtain ⟨hitem, hrest⟩ := List.forall_mem_cons.mp h
    rw [List.map_cons, List.zipIdx_cons, List.filterMap_cons_some (hitem start), ih hrest,
      List.map_cons]

variable {workbook} in
theorem sheetParts_directory {links : List (String × String)}
    (h : ∀ n ∈ numbers workbook.sheets.length,
      Entries.get? (linkId n) links = some (Archive.sheetPart n)) (attributes : List Markup.Attribute) :
    Archive.sheetParts links (.mk "workbook" attributes
      ([Element.mk "sheets" [] ((workbook.numbered.map fun item =>
        entryElement item.1.name item.2).map .element)].map .element)) =
      workbook.numbered.map fun item => (item.1.name, Archive.sheetPart item.2) := by
  have hnames : ∀ element ∈ workbook.numbered.map fun item => entryElement item.1.name item.2,
      (element.name == "sheet") = true := by
    rw [List.forall_mem_map]
    exact fun _ _ => rfl
  rw [Archive.sheetParts, Element.named_mk]
  simp only [List.filter_cons, Element.name_mk, List.filter_nil, beq_self_eq_true, if_true,
    Element.named_mk, List.filter_eq_self.mpr hnames]
  refine filterMap_zipIdx_map fun item hitem index => ?_
  have hnumber : item.2 ∈ numbers workbook.sheets.length := by
    rw [← map_snd_numbered]
    exact List.mem_map_of_mem hitem
  have hid : (entryElement item.1.name item.2).attributeIn? Archive.linkSpace "id" =
      some (linkId item.2) := rfl
  rw [hid, Option.bind_some, h _ hnumber]
  rfl

/-- A written workbook lists its sheets with their parts. -/
theorem directory_toArchive (h : ∀ sheet ∈ workbook.sheets, IsValue sheet.name) :
    workbook.toArchive.directory =
      .ok (workbook.numbered.map fun item => (item.1.name, Archive.sheetPart item.2)) := by
  obtain ⟨links, hlinks, htargets⟩ := exists_linksElement workbook.sheets.length
  have hroot := reads_directory h
  have hworkbook := @document?_of_mem workbook Archive.workbookPart (document workbook.directory)
    (List.mem_append_left _ (by simp [commonParts]))
  have hlinkText := @document?_of_mem workbook Archive.workbookLinksPart
    (document (workbookLinks workbook.sheets.length))
    (List.mem_append_left _ (by simp [commonParts]))
  rw [Archive.directory, hworkbook]
  simp only [bind, Except.bind, hlinkText, Archive.element, hroot.read?_document, hlinks]
  rw [sheetParts_directory htargets]

variable {workbook}

/-- The part of a sheet is read back with the filled cells of the sheet. -/
theorem sheet_toArchive (h : ∀ sheet ∈ workbook.sheets, sheet.Writable) (shared : Array String)
    {item : Sheet × Nat} (hitem : item ∈ workbook.numbered) (name : String) :
    workbook.toArchive.sheet shared name (Archive.sheetPart item.2) =
      .ok ((Sheet.new name).place item.1.filled) := by
  have hsheet : item.1 ∈ workbook.sheets := by
    rw [← map_fst_numbered]
    exact List.mem_map_of_mem hitem
  obtain ⟨element, hread, hcells⟩ := exists_sheetElement (h item.1 hsheet)
  have hpart := @document?_of_mem workbook (Archive.sheetPart item.2) (document (sheetNode item.1))
    (List.mem_append_right _ (List.mem_map.mpr ⟨item, hitem, rfl⟩))
  rw [Archive.sheet, hpart]
  simp only [bind, Except.bind, Archive.element, hread.read?_document, hcells]

/-- A workbook of writable sheets with different names is read back from its archive: the names come
back in order, and under each of them a sheet with the same cells. -/
theorem sheets_toArchive (workbook : Workbook)
    (hnames : (workbook.sheets.map Sheet.name).Nodup)
    (hsheets : ∀ sheet ∈ workbook.sheets, sheet.Writable) :
    ∃ results, workbook.toArchive.sheets = .ok results ∧
      results.map Prod.fst = workbook.sheets.map Sheet.name ∧
      ∀ sheet ∈ workbook.sheets, ∃ copy, Entries.get? sheet.name results = some (.ok copy) ∧
        ∀ row column, copy.cell row column = sheet.cell row column := by
  let result (item : Sheet × Nat) : String × Except PartError Sheet :=
    (item.1.name, .ok ((Sheet.new item.1.name).place item.1.filled))
  have hresults : workbook.toArchive.sheets = .ok (workbook.numbered.map result) := by
    rw [Archive.sheets, directory_toArchive workbook fun sheet hsheet => (hsheets sheet hsheet).name,
      sharedTexts_toArchive]
    simp only [bind, Except.bind, List.map_map, Except.ok.injEq]
    refine List.map_congr_left fun item hitem => ?_
    exact Prod.ext rfl (sheet_toArchive hsheets #[] hitem item.1.name)
  have hkeys : Entries.keys (workbook.numbered.map result) = workbook.sheets.map Sheet.name := by
    rw [Entries.keys, List.map_map, ← map_fst_numbered, List.map_map]
    rfl
  refine ⟨_, hresults, hkeys, fun sheet hsheet => ?_⟩
  rw [← map_fst_numbered] at hsheet
  obtain ⟨item, hitem, rfl⟩ := List.mem_map.mp hsheet
  refine ⟨(Sheet.new item.1.name).place item.1.filled, ?_, fun r c => item.1.cell_place_filled _ r c⟩
  exact Entries.get?_of_mem (hkeys ▸ hnames) (List.mem_map.mpr ⟨item, hitem, rfl⟩)

/-- A workbook with gaps, blanks, marks of tags and each kind of cell comes back. -/
theorem sheets_toArchive_mixed :
    let padded : Sheet := ⟨"R&D \"<1>\"", #[#[.text "  a\tb ", .empty, .number (.ofNat 7)], #[],
      #[.bool true, .text "", .number (.neg (.ofQuotient false 1 10))]]⟩
    let workbook : Workbook := ⟨[padded, .new "", ⟨"last", #[#[.bool false]]⟩]⟩
    ∃ results, workbook.toArchive.sheets = .ok results ∧
      results.map Prod.fst = ["R&D \"<1>\"", "", "last"] ∧
      ∃ copy, Entries.get? "R&D \"<1>\"" results = some (.ok copy) ∧
        copy.cell 0 0 = .text "  a\tb " ∧ copy.cell 2 0 = .bool true ∧ copy.cell 5 5 = .empty := by
  intro padded workbook
  obtain ⟨results, hread, hnames, hcells⟩ :=
    sheets_toArchive workbook (by decide) (by decide)
  obtain ⟨copy, hcopy, hsame⟩ := hcells padded (by simp [workbook])
  exact ⟨results, hread, hnames, copy, hcopy, hsame 0 0, hsame 2 0, hsame 5 5⟩

end Workbook

end SignalCatalog
