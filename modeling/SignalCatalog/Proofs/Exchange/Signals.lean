import SignalCatalog.Proofs.Attribute
import SignalCatalog.Proofs.Exchange.Platform
import SignalCatalog.Proofs.Project.Soundness
import SignalCatalog.Proofs.Signal.Range

/-!
# The signals are read back

The headers of the signal sheet are the fixed ones and the texts of the cores, which have a dot and so
are none of the fixed ones. Each row gives its signal, with the flags of the cores.
-/

namespace SignalCatalog

theorem CoreId.filled_text {id : CoreId} (hsoc : Text.Filled id.soc) (hcore : Text.Filled id.core) :
    Text.Filled id.text := Text.filled_append hsoc hcore "."

namespace Exchange

/-- Headers with their columns, if every one of them is a text that a cell keeps. -/
theorem titles_of_texts {texts : List String} (h : ∀ text ∈ texts, Text.Filled text) :
    ((texts.map Cell.text).zipIdx.filterMap fun (cell, column) =>
      cell.text?.map fun title => (title, column)) = texts.zipIdx := by
  rw [List.zipIdx_map, List.filterMap_map]
  have hself : ∀ entry ∈ texts.zipIdx, ((fun entry : Cell × Nat =>
      entry.1.text?.map fun title => (title, entry.2)) ∘ Prod.map Cell.text id) entry =
      some entry := by
    intro entry he
    have htext := h entry.1 (List.fst_mem_of_mem_zipIdx he)
    simp [Cell.text?_filled htext]
  exact (List.filterMap_congr hself).trans List.filterMap_some

theorem dot_mem_text (id : CoreId) : '.' ∈ id.text.toList := by
  simp [CoreId.text]

theorem notMem_fixed (id : CoreId) : id.text ∉ SignalColumn.fixed := by
  intro hmem
  have hdots : ∀ title ∈ SignalColumn.fixed, '.' ∉ title.toList := by decide
  exact hdots _ hmem (dot_mem_text id)

namespace SignalRow

variable {row : SignalRow} {columns : Columns}

theorem choice_spelling {α : Type} [Attribute α] [LawfulAttribute α] {value : α}
    (h : row.cell columns (Attribute.field α) = .text (Attribute.spelling value)) (default : α) :
    row.choice columns default = (value, []) := by
  have htext := Cell.text?_filled (LawfulAttribute.filled_spelling value)
  simp [choice, text?, h, htext, Attribute.read]

theorem ranged_word {range : FieldRange} {value : UInt32} (hv : range.OnStep value)
    (h : row.cell columns range.field = Project.word32 value) :
    row.ranged columns range = (value, []) := by
  have hsize := value.toNat_lt
  have hsame := Binary64.sameNumber_ofNat (show value.toNat < 2 ^ 53 by omega)
  simp [ranged, h, Project.word32, Cell.isBlank, Cell.number?, FieldRange.clamp_ofNat hv, hsame]

theorem readType_text {type : DataType} (ht : type.Written)
    (h : row.cell columns SignalColumn.dataType = .text type.text) :
    row.readType columns =
      (type, if type.isStruct then [.structWithoutMembers row.name] else []) := by
  simp [readType, text?, h, Cell.text?_filled ht.filled_text, DataType.read, ht.ofText?_text]

end SignalRow

/-- Of headers with one key only the first is taken, which makes no difference to the flags if these
depend on the keys alone. -/
theorem foldl_firstTitles {keyOf : String → String} {flagOf : String → Bool} {skip : String → Bool}
    (titles : Titles) {seen : List String} {entries : List (String × Bool)}
    (h : ∀ title ∈ seen, skip title = false →
      Entries.get? (keyOf title) entries = some (flagOf (keyOf title))) :
    ((firstTitles seen titles).filterMap fun (title, _) =>
        if skip title then none else some (keyOf title, flagOf (keyOf title))).foldl
        (fun entries pair => Entries.insert pair.1 pair.2 entries) entries =
      (titles.filterMap fun (title, _) =>
        if skip title then none else some (keyOf title, flagOf (keyOf title))).foldl
        (fun entries pair => Entries.insert pair.1 pair.2 entries) entries := by
  induction titles generalizing seen entries with
  | nil => rfl
  | cons entry rest ih =>
    obtain ⟨title, column⟩ := entry
    cases hskip : skip title with
    | true =>
      by_cases hs : title ∈ seen
      · simpa [firstTitles, hs, hskip] using ih h
      · have hseen : ∀ other ∈ title :: seen, skip other = false →
            Entries.get? (keyOf other) entries = some (flagOf (keyOf other)) := by
          intro other ho hother
          rcases List.mem_cons.mp ho with rfl | ho
          · simp [hskip] at hother
          · exact h other ho hother
        simpa [firstTitles, hs, hskip] using ih hseen
    | false =>
      by_cases hs : title ∈ seen
      · simpa [firstTitles, hs, hskip, Entries.insert_of_get? (h title hs hskip)] using ih h
      · have hseen : ∀ other ∈ title :: seen, skip other = false →
            Entries.get? (keyOf other) (Entries.insert (keyOf title) (flagOf (keyOf title)) entries) =
              some (flagOf (keyOf other)) := by
          intro other ho hother
          rw [Entries.get?_insert]
          split
          · rename_i hkey
            rw [hkey]
          · rename_i hkey
            rcases List.mem_cons.mp ho with rfl | ho
            · exact False.elim (hkey rfl)
            · exact h other ho hother
        simpa [firstTitles, hs, hskip] using ih hseen

/-- The headers of the signal sheet. -/
def signalHeaders (project : Project) : List String :=
  SignalColumn.fixed ++ project.availableCores.map CoreId.text

/-- The row of a signal; the first signal stands in the second row. -/
def signalRow (sheet : Sheet) (entry : String × Signal) (i : Nat) : SignalRow :=
  ⟨entry.1, i + 2, sheet.row (i + 1)⟩

variable {project : Project} {sheet : Sheet}

theorem filled_availableCore (hp : project.Legible) {id : CoreId}
    (hid : id ∈ project.availableCores) : Text.Filled id.text := by
  obtain ⟨soc, hsoc, hcore⟩ := List.mem_flatMap.mp hid
  obtain ⟨core, hc, rfl⟩ := List.mem_map.mp hcore
  exact CoreId.filled_text (hp.socs soc.1 (Entries.mem_keys_of_mem hsoc))
    (hp.coreNames soc hsoc core hc)

theorem signal_titles (h : sheet.Shows project.signalSheet) (hp : project.Legible) :
    sheet.titles = (signalHeaders project).zipIdx := by
  have hfilled : ∀ text ∈ signalHeaders project, Text.Filled text := by
    intro text ht
    rcases List.mem_append.mp ht with ht | ht
    · have hfixed : ∀ title ∈ SignalColumn.fixed, Text.Filled title := by decide
      exact hfixed text ht
    · obtain ⟨id, hid, rfl⟩ := List.mem_map.mp ht
      exact filled_availableCore hp hid
  have hcells : ∀ c, sheet.cell 0 c = ((signalHeaders project).map Cell.text)[c]?.getD .empty :=
    fun c => (h.cell 0 c).trans (project.cell_signalSheet 0 c)
  rw [sheet.titles_eq hcells, titles_of_texts hfilled]

variable {entry : String × Signal} {i : Nat}

theorem cell_signalRow (h : sheet.Shows project.signalSheet)
    (hi : project.signals.entries[i]? = some entry) (c : Nat) :
    Row.cell (signalRow sheet entry i).cells c =
    (Project.signalCells entry.1 entry.2 ++ project.availableCores.map fun core =>
      Cell.yesNo (entry.2.isDestination core.text))[c]?.getD .empty := by
  have hcell : Row.cell (signalRow sheet entry i).cells c = sheet.cell (i + 1) c :=
    sheet.cell_row (i + 1) c
  rw [hcell, h.cell, project.cell_signalSheet]
  simp [Project.signalRows, Project.tableCell?, hi]

/-- The cell of a row under one of the fixed headers. -/
theorem cell_fixed (h : sheet.Shows project.signalSheet) (hp : project.Legible)
    (hi : project.signals.entries[i]? = some entry) {title : String} {k : Nat} {cell : Cell}
    (ht : Entries.get? title SignalColumn.fixed.zipIdx = some k)
    (hc : (Project.signalCells entry.1 entry.2)[k]? = some cell) :
    (signalRow sheet entry i).cell (.of sheet.titles) title = cell := by
  have hk : k < (Project.signalCells entry.1 entry.2).length := List.getElem?_eq_some_iff.mp hc |>.1
  have hcolumn : Entries.get? title sheet.titles = some k := by
    rw [signal_titles h hp, signalHeaders, List.zipIdx_append, Entries.get?_append, ht,
      Option.some_or]
  rw [SignalRow.cell, Columns.of, cellUnder, hcolumn]
  dsimp only
  rw [cell_signalRow h hi, List.getElem?_append_left hk, hc, Option.getD_some]

/-- The flag of a row under the header of a core. -/
theorem flag_core (h : sheet.Shows project.signalSheet) (hp : project.Legible)
    (hi : project.signals.entries[i]? = some entry) {title : String} {column : Nat}
    (ht : (title, column) ∈ sheet.titles)
    (hfixed : title ∉ SignalColumn.fixed) :
    isWord "yes" (Row.cell (signalRow sheet entry i).cells column).text? =
      entry.2.isDestination title := by
  have htitle : (signalHeaders project)[column]? = some title := by
    rw [signal_titles h hp] at ht
    exact List.mem_zipIdx_iff_getElem?.mp ht
  have hbehind : SignalColumn.fixed.length ≤ column := by
    by_contra hlt
    rw [signalHeaders, List.getElem?_append_left (by omega)] at htitle
    exact hfixed (List.mem_of_getElem? htitle)
  rw [signalHeaders, List.getElem?_append_right hbehind, List.getElem?_map,
    Option.map_eq_some_iff] at htitle
  obtain ⟨id, hid, rfl⟩ := htitle
  have hcells : (Project.signalCells entry.1 entry.2).length ≤ column := hbehind
  have hflag : (Project.signalCells entry.1 entry.2 ++ project.availableCores.map fun core =>
      Cell.yesNo (entry.2.isDestination core.text))[column]? =
      some (Cell.yesNo (entry.2.isDestination id.text)) := by
    rw [List.getElem?_append_right hcells, List.getElem?_map]
    exact congrArg _ hid
  rw [cell_signalRow h hi, hflag, Option.getD_some, isWord_yesNo]

theorem firstTitles_sublist (titles : Titles) (seen : List String) :
    (firstTitles seen titles).Sublist titles := by
  induction titles generalizing seen with
  | nil => exact List.Sublist.slnil
  | cons entry rest ih =>
    obtain ⟨title, column⟩ := entry
    unfold firstTitles
    split
    · exact (ih seen).cons _
    · exact (ih (title :: seen)).cons_cons _

/-- The flag of a core in the pairs that the flags of a row are collected from. -/
def flagPair? (signal : Signal) (title : String) : Option (String × Bool) :=
  if SignalColumn.fixed.contains title then none
  else some (destinationKey title, signal.isDestination title)

theorem filterMap_headers (project : Project) (signal : Signal) :
    ((signalHeaders project).zipIdx.filterMap fun (title, _) => flagPair? signal title) =
      project.availableCores.map fun id => (id.destinationKey, signal.isDestination id.text) := by
  have hfirst : ((signalHeaders project).zipIdx.filterMap fun (title, _) => flagPair? signal title) =
      ((signalHeaders project).zipIdx.map Prod.fst).filterMap (flagPair? signal) := by
    rw [List.filterMap_map]
    rfl
  have hfixed : SignalColumn.fixed.filterMap (flagPair? signal) = [] := by
    rw [List.filterMap_eq_nil_iff]
    intro title ht
    simp [flagPair?, ht]
  have hcores : (project.availableCores.map CoreId.text).filterMap (flagPair? signal) =
      project.availableCores.map fun id => (id.destinationKey, signal.isDestination id.text) := by
    rw [List.filterMap_map, ← List.filterMap_eq_map]
    apply List.filterMap_congr
    intro id _
    simp [flagPair?, notMem_fixed id, CoreId.destinationKey]
  rw [hfirst, List.zipIdx_map_fst, signalHeaders, List.filterMap_append, hfixed, hcores,
    List.nil_append]

/-- The flags of a row are those of the available cores. -/
theorem destinations_signalRow (h : sheet.Shows project.signalSheet) (hp : project.Legible)
    (hi : project.signals.entries[i]? = some entry) :
    (signalRow sheet entry i).destinations (.of sheet.titles) =
      (entry.2.carried project.availableCores).destinations := by
  have hpairs : ((Columns.of sheet.titles).destinations.map fun (key, column) =>
      (key, isWord "yes" (Row.cell (signalRow sheet entry i).cells column).text?)) =
      (firstTitles [] sheet.titles).filterMap fun (title, _) => flagPair? entry.2 title := by
    rw [Columns.of, List.map_filterMap]
    apply List.filterMap_congr
    intro pair hpair
    have hmem := (firstTitles_sublist sheet.titles []).subset hpair
    by_cases hfixed : pair.1 ∈ SignalColumn.fixed
    · simp [flagPair?, hfixed]
    · simp [flagPair?, hfixed, flag_core h hp hi hmem hfixed]
  have hfirst := @foldl_firstTitles destinationKey
    (fun key => (entry.2.destinations.get? key).getD false) (SignalColumn.fixed.contains ·)
    sheet.titles [] [] (by simp)
  apply OrderedMap.ext
  rw [SignalRow.destinations, OrderedMap.entries_ofPairs, hpairs, Signal.carried,
    OrderedMap.entries_ofPairs, ← filterMap_headers, ← signal_titles h hp]
  exact hfirst

/-- A row is read as its signal. -/
theorem read_signalRow (h : sheet.Shows project.signalSheet) (hp : project.Legible)
    (hi : project.signals.entries[i]? = some entry) :
    (signalRow sheet entry i).read (.of sheet.titles) =
      (entry.2.carried project.availableCores, entry.2.notices entry.1) := by
  have hsignal := hp.signals entry (List.mem_of_getElem? hi)
  have hcell : ∀ {title k cell}, Entries.get? title SignalColumn.fixed.zipIdx = some k →
      (Project.signalCells entry.1 entry.2)[k]? = some cell →
      (signalRow sheet entry i).cell (.of sheet.titles) title = cell :=
    fun ht hc => cell_fixed h hp hi ht hc
  have htext : ∀ {title k cell}, Entries.get? title SignalColumn.fixed.zipIdx = some k →
      (Project.signalCells entry.1 entry.2)[k]? = some cell →
      (signalRow sheet entry i).text? (.of sheet.titles) title = cell.text? :=
    fun ht hc => congrArg Cell.text? (hcell ht hc)
  have hrange : ∀ field ∈ entry.2.rangedFields, field.1.OnStep field.2 := hsignal.numbers
  simp only [Signal.rangedFields, List.forall_mem_cons] at hrange
  obtain ⟨hbuffersRange, hsharedRange, htimeoutRange, hperiodRange, _⟩ := hrange
  have hbuffers := SignalRow.ranged_word hbuffersRange (hcell (show _ = some 3 from rfl) rfl)
  have hshared := SignalRow.ranged_word hsharedRange (hcell (show _ = some 10 from rfl) rfl)
  have htimeout := SignalRow.ranged_word htimeoutRange (hcell (show _ = some 11 from rfl) rfl)
  have hperiod := SignalRow.ranged_word hperiodRange (hcell (show _ = some 12 from rfl) rfl)
  have hmemory : ∀ default, (signalRow sheet entry i).choice (.of sheet.titles) default =
      (entry.2.memoryRegion, []) :=
    SignalRow.choice_spelling (hcell (show _ = some 2 from rfl) rfl)
  have horder : ∀ default, (signalRow sheet entry i).choice (.of sheet.titles) default =
      (entry.2.accessOrder, []) :=
    SignalRow.choice_spelling (hcell (show _ = some 4 from rfl) rfl)
  have hinitial : ∀ default, (signalRow sheet entry i).choice (.of sheet.titles) default =
      (entry.2.initial, []) :=
    SignalRow.choice_spelling (hcell (show _ = some 5 from rfl) rfl)
  have htransport : ∀ default, (signalRow sheet entry i).choice (.of sheet.titles) default =
      (entry.2.transport, []) :=
    SignalRow.choice_spelling (hcell (show _ = some 8 from rfl) rfl)
  have hsafety : ∀ default, (signalRow sheet entry i).choice (.of sheet.titles) default =
      (entry.2.safetyLevel, []) :=
    SignalRow.choice_spelling (hcell (show _ = some 13 from rfl) rfl)
  have hchecksum : ∀ default, (signalRow sheet entry i).choice (.of sheet.titles) default =
      (entry.2.checksum, []) :=
    SignalRow.choice_spelling (hcell (show _ = some 14 from rfl) rfl)
  have htype := SignalRow.readType_text hsignal.type
    (hcell (show _ = some 15 from rfl) rfl)
  have hport := (htext (show Entries.get? SignalColumn.portName _ = some 1 from rfl) rfl).trans
    (Cell.text?_filled hsignal.port)
  have hdescription := (htext (show Entries.get? SignalColumn.description _ = some 16 from rfl)
    rfl).trans (Cell.text?_filled hsignal.description)
  have hsource : ((signalRow sheet entry i).text? (.of sheet.titles) SignalColumn.source).getD "" =
      entry.2.source := by
    rw [htext (show _ = some 7 from rfl) rfl]
    exact Cell.getD_text? hsignal.source
  have hnotifiers : isWord "yes" ((signalRow sheet entry i).text? (.of sheet.titles)
      SignalColumn.notifiers) = entry.2.notifiers := by
    rw [htext (show _ = some 6 from rfl) rfl]
    exact isWord_yesNo entry.2.notifiers
  have hobject : isWord "yes" ((signalRow sheet entry i).text? (.of sheet.titles)
      SignalColumn.getObjRef) = entry.2.getObjRef := by
    rw [htext (show _ = some 9 from rfl) rfl]
    exact isWord_yesNo entry.2.getObjRef
  simp only [SignalRow.read, hmemory, horder, hinitial, htransport, hsafety, hchecksum, htype,
    hbuffers, hshared, htimeout, hperiod, hport, hdescription, hsource, hnotifiers, hobject,
    destinations_signalRow h hp hi, Option.getD_some, List.append_nil, List.nil_append, Signal.new]
  rw [← hsignal.members, ← hsignal.noCustom, ← hsignal.extra]
  rfl

/-- The named rows are those of the signals. -/
theorem namedRows_shown (h : sheet.Shows project.signalSheet) (hp : project.Legible) :
    namedRows sheet 0 =
      project.signals.entries.zipIdx.map fun (entry, i) => signalRow sheet entry i := by
  have hempty : ∀ i, (Row.cell #[] 0).text?.map
      (fun name => (⟨name, i + 1, #[]⟩ : SignalRow)) = none := by
    intro i
    rw [Row.cell_empty]
    rfl
  have hrest : ∀ i, project.signals.entries.length ≤ i → (Row.cell (sheet.row (i + 1)) 0).text?.map
      (fun name => (⟨name, i + 1 + 1, sheet.row (i + 1)⟩ : SignalRow)) = none := by
    intro i hi
    rw [sheet.cell_row, h.cell, project.cell_signalSheet]
    simp [Project.signalRows, Project.tableCell?, List.getElem?_eq_none hi, Cell.text?]
  have hname : ∀ i, i < project.signals.entries.length →
      (Row.cell (sheet.row (i + 1)) 0).text?.map
        (fun name => (⟨name, i + 1 + 1, sheet.row (i + 1)⟩ : SignalRow)) =
      some (signalRow sheet (project.signals.entries[i]?.getD default) i) := by
    intro i hi
    have hentry := List.getElem?_eq_getElem hi
    have hfilled := hp.signalNames _ (Entries.mem_keys_of_mem (List.getElem_mem hi))
    have hcell := cell_signalRow h hentry 0
    rw [signalRow] at hcell
    rw [hcell, hentry]
    simp [Project.signalCells, Cell.text?_filled hfilled, signalRow]
  have hrows : namedRows sheet 0 = _ := @Sheet.filterMap_body sheet _ (fun row =>
    (Row.cell row.1 0).text?.map fun name => (⟨name, row.2 + 1, row.1⟩ : SignalRow))
      project.signals.entries.length hempty hrest
  rw [hrows, ← List.filterMap_eq_map, filterMap_zipIdx _ default]
  exact List.filterMap_congr fun i hi => hname i (List.mem_range.mp hi)

/-- Rows of distinct signals are read one by one. -/
theorem readRows_signalRow {name : String} {columns : Columns} {carry : Signal → Signal}
    (entries : List (String × Signal)) (first : Nat) {seen : List String}
    (hread : ∀ entry i, (entry, i) ∈ entries.zipIdx first →
      (signalRow sheet entry i).read columns = (carry entry.2, entry.2.notices entry.1))
    (hseen : ∀ entry ∈ entries, entry.1 ∉ seen) (hn : (Entries.keys entries).Nodup) :
    readRows name columns seen
        ((entries.zipIdx first).map fun (entry, i) => signalRow sheet entry i) =
      (entries.map fun entry => (entry.1, carry entry.2),
        (entries.zipIdx first).flatMap fun (entry, i) =>
          (entry.2.notices entry.1).map fun cause => ⟨name, some (i + 2), cause⟩) := by
  induction entries generalizing first seen with
  | nil => rfl
  | cons entry rest ih =>
    obtain ⟨hfresh, hrest⟩ := List.nodup_cons.mp hn
    have hnew : (signalRow sheet entry first).name ∉ seen := hseen entry List.mem_cons_self
    have hfirst := hread entry first (by simp)
    have hothers := @ih (first + 1) ((signalRow sheet entry first).name :: seen)
      (fun other i ho => hread other i (by
        rw [List.zipIdx_cons]
        exact List.mem_cons_of_mem _ ho))
      (fun other ho => by
        rw [List.mem_cons, not_or]
        refine ⟨fun he => hfresh ?_, hseen other (List.mem_cons_of_mem _ ho)⟩
        rw [show entry.1 = other.1 from he.symm]
        exact Entries.mem_keys_of_mem ho) hrest
    rw [List.zipIdx_cons, List.map_cons, readRows, if_neg hnew, hfirst, hothers]
    rfl

/-- The signals of a project are read back with the flags of its cores. -/
theorem readSignals_shown (h : sheet.Shows project.signalSheet) (hp : project.Legible) :
    readSignals (some sheet) =
      (project.signals.mapValues fun _ signal => signal.carried project.availableCores,
        project.notices) := by
  have hsheet : sheet.name = Exchange.signalSheet := by
    rw [h.name, Project.signalSheet, Project.name_setRows]
    rfl
  have hname : Entries.get? SignalColumn.name sheet.titles = some 0 := by
    rw [signal_titles h hp, signalHeaders, List.zipIdx_append, Entries.get?_append]
    rfl
  have hrows := @readRows_signalRow sheet Exchange.signalSheet (.of sheet.titles)
    (fun signal => signal.carried project.availableCores) project.signals.entries 0 []
    (fun entry i he => read_signalRow h hp (List.mem_zipIdx_iff_getElem?.mp he)) (by simp)
    project.signals.nodup
  have hall := OrderedMap.ofPairs_map (fun _ signal => Signal.carried project.availableCores signal)
    project.signals
  simp only [readSignals, hname, hsheet, namedRows_shown h hp, hrows, hall]
  rfl

end Exchange

end SignalCatalog
