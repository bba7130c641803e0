import SignalCatalog.Proofs.Exchange.RoundTrip
import SignalCatalog.Proofs.Validation.Validity

/-!
# The entities that a workbook carries

Which signals and which cores arrive when the workbook of a project is imported, for any project whose
platform sheet is not named as one of the other two sheets. Nothing is assumed about names: a name
arrives trimmed, and what has a blank name does not arrive. So nothing is lost exactly if no name is
blank or has blanks at its ends, and if there is a selection or a signal, without which the import
gives no project at all.
-/

namespace SignalCatalog

open Exchange

/-- A condition that no empty row meets is met by a row of the body if it is met by one of the rows
below the first, however many of these are stored. -/
theorem Sheet.exists_body_iff (sheet : Sheet) {P : Row → Prop} (hempty : ¬ P #[]) :
    (∃ row ∈ sheet.body.map Prod.fst, P row) ↔ ∃ i, P (sheet.row (i + 1)) := by
  rw [Sheet.body_eq, List.map_map]
  constructor
  · rintro ⟨_, hrow, hP⟩
    obtain ⟨i, _, rfl⟩ := List.mem_map.mp hrow
    exact ⟨i, hP⟩
  · rintro ⟨i, hP⟩
    have hi : i < sheet.rows.size - 1 := by
      by_contra hle
      rw [Sheet.row_of_le (by omega)] at hP
      exact hempty hP
    exact ⟨_, List.mem_map_of_mem (List.mem_range.mpr hi), hP⟩

/-- An identifier as a workbook carries it. -/
def CoreId.trimmed (id : CoreId) : CoreId := ⟨Text.trimmed id.soc, Text.trimmed id.core⟩

theorem Cell.text?_eq_some_iff {value text : String} :
    (Cell.text value).text? = some text ↔ Text.trimmed value = text ∧ text ≠ "" := by
  simp only [Cell.text?, String.isEmpty_iff, Option.ite_none_left_eq_some, Option.some.injEq]
  constructor
  · rintro ⟨hne, rfl⟩
    exact ⟨rfl, hne⟩
  · rintro ⟨rfl, hne⟩
    exact ⟨hne, rfl⟩

theorem Cell.getD_text?_text (value : String) :
    (Cell.text value).text?.getD "" = Text.trimmed value := by
  simp only [Cell.text?, String.isEmpty_iff]
  split
  · rename_i hempty
    rw [hempty]
    rfl
  · rfl

namespace Exchange

variable {project : Project} {sheet : Sheet} {id : CoreId} {name : String}

/-! ## Cores -/

/-- Whether a platform has a core. -/
def Platform.hasCore (platform : Platform) (id : CoreId) : Bool :=
  ((platform.cores.get? id.soc).bind fun cores => cores.get? id.core).isSome

theorem Platform.hasCore_addCore (platform : Platform) (other : CoreId) (core : Core) :
    (platform.addCore other core).hasCore id = true ↔ platform.hasCore id = true ∨ other = id := by
  obtain ⟨soc, name⟩ := id
  obtain ⟨otherSoc, otherName⟩ := other
  simp only [hasCore, addCore, OrderedMap.get?_insert, CoreId.mk.injEq]
  by_cases hsoc : soc = otherSoc
  · subst hsoc
    have hempty : (OrderedMap.empty : OrderedMap Core).get? name = none := rfl
    by_cases hname : name = otherName
    · simp [OrderedMap.get?_insert, hname]
    · cases hcores : platform.cores.get? soc <;>
        simp [OrderedMap.get?_insert, hname, Ne.symm hname, hempty]
  · simp [hsoc, Ne.symm hsoc]

theorem Platform.hasCore_addRow (platform : Platform) (titles : Titles) (row : Row) :
    (platform.addRow titles row).hasCore id = true ↔
      platform.hasCore id = true ∨ coreIdOf? (textUnder? titles row) = some id := by
  unfold addRow
  dsimp only
  split
  · rename_i other hother
    rw [hasCore_addCore, hother, Option.some.injEq]
  · rename_i hnone
    simp [hnone]

/-- The cores of a platform are those that it had and those of the rows. -/
theorem Platform.hasCore_foldl_addRow (titles : Titles) (rows : List Row) (platform : Platform) :
    (rows.foldl (Platform.addRow titles) platform).hasCore id = true ↔
      platform.hasCore id = true ∨
      ∃ row ∈ rows, coreIdOf? (textUnder? titles row) = some id := by
  induction rows generalizing platform with
  | nil => simp
  | cons row rest ih =>
    rw [List.foldl_cons, ih, hasCore_addRow, or_assoc]
    simp

theorem coreIdOf?_eq_some_iff {text : String → Option String} : coreIdOf? text = some id ↔
    text PlatformColumn.soc = some id.soc ∧ text PlatformColumn.core = some id.core := by
  unfold coreIdOf?
  constructor
  · intro h
    split at h
    · rename_i soc core hsoc hcore
      rw [← Option.some.inj h]
      exact ⟨hsoc, hcore⟩
    · cases h
  · rintro ⟨hsoc, hcore⟩
    rw [hsoc, hcore]

/-- Each row of the platform sheet gives the core of one entry, if neither of its names is blank. -/
theorem coreIdOf?_row (h : sheet.Shows project.platformSheet) (i : Nat) :
    coreIdOf? (textUnder? sheet.titles (sheet.row (i + 1))) = some id ↔
      ∃ entry, project.coreEntries[i]? = some entry ∧ entry.1.trimmed = id ∧ id.soc ≠ "" ∧
        id.core ≠ "" := by
  rw [coreIdOf?_eq_some_iff,
    platform_text h (show Entries.get? PlatformColumn.soc platformTitles = some (4 + 0) from rfl),
    platform_text h (show Entries.get? PlatformColumn.core platformTitles = some (4 + 1) from rfl)]
  cases project.coreEntries[i]? with
  | none => simp [Cell.text?]
  | some entry =>
    obtain ⟨soc, core⟩ := id
    simp only [Option.map_some, Option.bind_some, Project.coreCells, List.getElem?_cons_zero,
      List.getElem?_cons_succ, Option.getD_some, Cell.text?_eq_some_iff, Option.some.injEq,
      exists_eq_left', CoreId.trimmed, CoreId.mk.injEq]
    exact and_and_and_comm

/-- The cores of the platform that is read are those of the project whose names are not blank. -/
theorem hasCore_readPlatform (h : sheet.Shows project.platformSheet) :
    (readPlatform (some sheet)).hasCore id = true ↔
      id.soc ≠ "" ∧ id.core ≠ "" ∧ ∃ written ∈ project.availableCores, written.trimmed = id := by
  have hnone : coreIdOf? (textUnder? sheet.titles #[]) ≠ some id := by
    intro hid
    have hempty : (Platform.empty.addRow sheet.titles #[]).hasCore id = true :=
      (Platform.hasCore_addRow .empty sheet.titles #[]).mpr (Or.inr hid)
    rw [addRow_empty] at hempty
    cases hempty
  have hids : project.availableCores = project.coreEntries.map Prod.fst := by
    simp [Project.availableCores, Project.coreEntries, List.map_flatMap, OrderedMap.keys,
      Entries.keys, Function.comp_def]
  have hfold : (readPlatform (some sheet)).hasCore id = true ↔
      ∃ row ∈ sheet.body.map Prod.fst, coreIdOf? (textUnder? sheet.titles row) = some id := by
    unfold readPlatform
    dsimp only
    rw [← List.foldl_map (f := Prod.fst), Platform.hasCore_foldl_addRow]
    refine or_iff_right ?_
    intro hempty
    cases hempty
  rw [hfold, sheet.exists_body_iff hnone, hids]
  simp only [coreIdOf?_row h]
  constructor
  · rintro ⟨i, entry, hentry, htrimmed, hsoc, hcore⟩
    exact ⟨hsoc, hcore, entry.1, List.mem_map_of_mem (List.mem_of_getElem? hentry), htrimmed⟩
  · rintro ⟨hsoc, hcore, written, hwritten, htrimmed⟩
    obtain ⟨entry, hentry, rfl⟩ := List.mem_map.mp hwritten
    obtain ⟨i, hi⟩ := List.getElem?_of_mem hentry
    exact ⟨i, entry, hi, htrimmed, hsoc, hcore⟩

/-- The selection that is read is the trimmed one, perhaps empty. -/
theorem socType_readPlatform (h : sheet.Shows project.platformSheet) :
    (readPlatform (some sheet)).socType = Text.trimmed project.socType := by
  have hcell := (cellUnder_row (show Entries.get? PlatformColumn.socType platformTitles = some 0
    from rfl) sheet 1).trans ((h.cell 1 0).trans project.cell_platformSheet_soc)
  have hkept : ∀ (rows : List (Row × Nat)) (platform : Platform),
      (rows.foldl (fun platform row => platform.addRow sheet.titles row.1) platform).socType =
        platform.socType := by
    intro rows platform
    induction rows generalizing platform with
    | nil => rfl
    | cons row rest ih =>
      rw [List.foldl_cons, ih]
      unfold Platform.addRow
      dsimp only
      split <;> rfl
  unfold readPlatform
  dsimp only
  rw [hkept, textUnder?, platform_titles h]
  exact (congrArg (fun cell : Cell => cell.text?.getD "") hcell).trans (Cell.getD_text?_text _)

/-! ## Signals -/

theorem mem_keys_readRows {sheetName : String} {columns : Columns} {seen : List String}
    {rows : List SignalRow} : name ∈ Entries.keys (readRows sheetName columns seen rows).1 ↔
      name ∉ seen ∧ ∃ row ∈ rows, row.name = name := by
  induction rows generalizing seen with
  | nil => simp [readRows]
  | cons row rest ih =>
    rw [readRows]
    split
    · rename_i hseen
      have hold : name ∉ seen → row.name ≠ name := fun hname he => hname (he ▸ hseen)
      rw [ih]
      constructor
      · rintro ⟨hname, other, hother, rfl⟩
        exact ⟨hname, other, List.mem_cons_of_mem row hother, rfl⟩
      · rintro ⟨hname, other, hother, rfl⟩
        rcases List.mem_cons.mp hother with rfl | hother
        · exact False.elim (hold hname rfl)
        · exact ⟨hname, other, hother, rfl⟩
    · rename_i hnew
      rw [Entries.keys_cons, List.mem_cons, ih, List.mem_cons, not_or]
      by_cases hname : name = row.name
      · simp [hname, hnew]
      · simp [hname, Ne.symm hname]

/-- The first column of the signal sheet is that of the names, whatever the cores are called. -/
theorem nameColumn_shown (h : sheet.Shows project.signalSheet) :
    Entries.get? SignalColumn.name sheet.titles = some 0 := by
  have hcells : ∀ c, sheet.cell 0 c = ((signalHeaders project).map Cell.text)[c]?.getD .empty :=
    fun c => (h.cell 0 c).trans (project.cell_signalSheet 0 c)
  rw [sheet.titles_eq hcells]
  rfl

/-- The signals that are read are those of the project whose names are not blank. -/
theorem mem_keys_readSignals (h : sheet.Shows project.signalSheet) :
    name ∈ (readSignals (some sheet)).1.keys ↔
      name ≠ "" ∧ ∃ written ∈ project.signals.keys, Text.trimmed written = name := by
  have hnone : ¬ (Row.cell #[] 0).text? = some name := by
    rw [Row.cell_empty]
    exact Option.some_ne_none name ∘ Eq.symm
  have hcell : ∀ i, Row.cell (sheet.row (i + 1)) 0 =
      ((project.signals.entries[i]?.map fun entry => Cell.text entry.1).getD .empty) := by
    intro i
    rw [sheet.cell_row, h.cell, project.cell_signalSheet]
    cases hentry : project.signals.entries[i]? <;>
      simp [Project.signalRows, Project.tableCell?, Project.signalCells, hentry]
  have hrows : name ∈ (readSignals (some sheet)).1.keys ↔
      ∃ row ∈ sheet.body.map Prod.fst, (Row.cell row 0).text? = some name := by
    unfold readSignals
    dsimp only
    rw [nameColumn_shown h]
    dsimp only
    rw [OrderedMap.keys, OrderedMap.entries_ofPairs, Entries.mem_keys_ofPairs, mem_keys_readRows]
    simp [namedRows]
  rw [hrows, sheet.exists_body_iff hnone]
  simp only [hcell]
  constructor
  · rintro ⟨i, hi⟩
    cases hentry : project.signals.entries[i]? with
    | none =>
      rw [hentry] at hi
      cases hi
    | some entry =>
      rw [hentry] at hi
      obtain ⟨htrimmed, hne⟩ := Cell.text?_eq_some_iff.mp hi
      exact ⟨hne, entry.1, Entries.mem_keys_of_mem (List.mem_of_getElem? hentry), htrimmed⟩
  · rintro ⟨hne, written, hwritten, htrimmed⟩
    obtain ⟨entry, hentry, rfl⟩ := List.mem_map.mp hwritten
    obtain ⟨i, hi⟩ := List.getElem?_of_mem hentry
    refine ⟨i, ?_⟩
    rw [hi]
    exact Cell.text?_eq_some_iff.mpr ⟨htrimmed, hne⟩

/-! ## Projects -/

/-- A workbook whose sheets are found is imported if it makes a selection or has a signal, and what is
put together in the end has the signals and the cores that were read. -/
theorem importSheets_named {results : SheetResults} (today : Date)
    (hsheet : project.exportSheet ≠ Exchange.versionSheet ∧
      project.exportSheet ≠ Exchange.signalSheet)
    (hr : project.workbook.ReadAs results) :
    ∃ platform signals : Sheet, platform.Shows project.platformSheet ∧
      signals.Shows project.signalSheet ∧
      ((∃ outcome, importSheets today results = .ok outcome) ↔
        (readPlatform (some platform)).socType ≠ "" ∨
          ∃ name, name ∈ (readSignals (some signals)).1.keys) ∧
      ∀ imported findings, importSheets today results = .ok (imported, findings) →
        imported.signals.keys = (readSignals (some signals)).1.keys ∧
        ∀ id, imported.hasCore id = (readPlatform (some platform)).hasCore id := by
  obtain ⟨version, platform, signals, hsheets, _, hplatform, hsignals⟩ :=
    Project.takeSheets_named hsheet hr
  refine ⟨platform, signals, hplatform, hsignals, ?_⟩
  have hempty : ((readPlatform (some platform)).socType.isEmpty &&
      (readSignals (some signals)).1.isEmpty) = true ↔
      ¬ ((readPlatform (some platform)).socType ≠ "" ∨
        ∃ name, name ∈ (readSignals (some signals)).1.keys) := by
    rw [Bool.and_eq_true, String.isEmpty_iff, OrderedMap.isEmpty, List.isEmpty_iff,
      ← List.map_eq_nil_iff (f := Prod.fst), List.eq_nil_iff_forall_not_mem, not_or, not_not,
      not_exists]
    rfl
  simp only [importSheets, hsheets]
  split
  · rename_i hnothing
    rw [hempty] at hnothing
    simp [hnothing]
  · rename_i hsomething
    rw [hempty, not_not] at hsomething
    refine ⟨iff_of_true ⟨_, rfl⟩ hsomething, ?_⟩
    intro imported findings himported
    obtain ⟨rfl, _⟩ := Prod.mk.inj (Except.ok.inj himported)
    exact ⟨OrderedMap.keys_mapValues _ _, fun _ => rfl⟩

end Exchange

namespace Project

variable {project : Project}

/-- What arrives when the workbook of a project is imported, on whichever day and however its cells are
stored. -/
theorem entities_imported (today : Date)
    (hsheet : project.exportSheet ≠ Exchange.versionSheet ∧
      project.exportSheet ≠ Exchange.signalSheet)
    {results : SheetResults} (hr : project.workbook.ReadAs results) :
    ((∃ outcome, importSheets today results = .ok outcome) ↔
      Text.trimmed project.socType ≠ "" ∨ ∃ name ∈ project.signals.keys, Text.trimmed name ≠ "") ∧
    ∀ imported findings, importSheets today results = .ok (imported, findings) →
      (∀ name, name ∈ imported.signals.keys ↔
        name ≠ "" ∧ ∃ written ∈ project.signals.keys, Text.trimmed written = name) ∧
      ∀ id, id ∈ imported.availableCores ↔ id.soc ≠ "" ∧ id.core ≠ "" ∧
        ∃ written ∈ project.availableCores, written.trimmed = id := by
  obtain ⟨platform, signals, hplatform, hsignals, hok, himported⟩ :=
    importSheets_named today hsheet hr
  constructor
  · rw [hok, socType_readPlatform hplatform]
    simp only [mem_keys_readSignals hsignals]
    refine or_congr_right ⟨?_, ?_⟩
    · rintro ⟨name, hne, written, hwritten, rfl⟩
      exact ⟨written, hwritten, hne⟩
    · rintro ⟨written, hwritten, hne⟩
      exact ⟨_, hne, written, hwritten, rfl⟩
  · intro imported findings h
    obtain ⟨hkeys, hcores⟩ := himported imported findings h
    refine ⟨fun name => ?_, fun id => ?_⟩
    · rw [hkeys, mem_keys_readSignals hsignals]
    · rw [mem_availableCores_iff, hcores, hasCore_readPlatform hplatform]

/-- Importing the workbook of a project gives one with the same signals and the same cores. -/
def KeepsEntities (project : Project) (today : Date) : Prop :=
  ∀ results, project.workbook.ReadAs results →
    ∃ imported findings, importSheets today results = .ok (imported, findings) ∧
      (∀ name, name ∈ imported.signals.keys ↔ name ∈ project.signals.keys) ∧
      ∀ id, id ∈ imported.availableCores ↔ id ∈ project.availableCores

/-- No name of a signal, and no name of a core or its system, is blank or has blanks at its ends. -/
structure FilledNames (project : Project) : Prop where
  signals : ∀ name ∈ project.signals.keys, Text.Filled name
  cores : ∀ id ∈ project.availableCores, Text.Filled id.soc ∧ Text.Filled id.core

theorem FilledNames.mem_signals_iff (h : project.FilledNames) {name : String} :
    (name ≠ "" ∧ ∃ written ∈ project.signals.keys, Text.trimmed written = name) ↔
      name ∈ project.signals.keys := by
  constructor
  · rintro ⟨_, written, hwritten, rfl⟩
    rw [(h.signals written hwritten).trimmed_eq]
    exact hwritten
  · intro hname
    exact ⟨(h.signals name hname).1, name, hname, (h.signals name hname).trimmed_eq⟩

theorem FilledNames.mem_cores_iff (h : project.FilledNames) {id : CoreId} :
    (id.soc ≠ "" ∧ id.core ≠ "" ∧ ∃ written ∈ project.availableCores, written.trimmed = id) ↔
      id ∈ project.availableCores := by
  have hsame : ∀ written ∈ project.availableCores, written.trimmed = written := by
    intro written hwritten
    obtain ⟨hsoc, hcore⟩ := h.cores written hwritten
    rw [CoreId.trimmed, hsoc.trimmed_eq, hcore.trimmed_eq]
  constructor
  · rintro ⟨_, _, written, hwritten, rfl⟩
    rw [hsame written hwritten]
    exact hwritten
  · intro hid
    obtain ⟨hsoc, hcore⟩ := h.cores id hid
    exact ⟨hsoc.1, hcore.1, id, hid, hsame id hid⟩

theorem keepsEntities_iff (today : Date)
    (hsheet : project.exportSheet ≠ Exchange.versionSheet ∧
      project.exportSheet ≠ Exchange.signalSheet) :
    project.KeepsEntities today ↔ project.FilledNames ∧
      (Text.trimmed project.socType ≠ "" ∨ ∃ name, name ∈ project.signals.keys) := by
  constructor
  · intro h
    have hr := readAs_written project.workbook
    obtain ⟨imported, findings, himport, hsignals, hcores⟩ := h _ hr
    obtain ⟨hok, hall⟩ := entities_imported today hsheet hr
    obtain ⟨hnames, hids⟩ := hall imported findings himport
    refine ⟨⟨?_, ?_⟩, (hok.mp ⟨_, himport⟩).imp id fun ⟨name, hname, _⟩ => ⟨name, hname⟩⟩
    · intro name hname
      obtain ⟨hne, written, _, rfl⟩ := (hnames name).mp ((hsignals name).mpr hname)
      exact Text.filled_trimmed hne
    · intro id hid
      obtain ⟨hsoc, hcore, written, _, rfl⟩ := (hids id).mp ((hcores id).mpr hid)
      exact ⟨Text.filled_trimmed hsoc, Text.filled_trimmed hcore⟩
  · rintro ⟨hfilled, hsomething⟩ results hr
    obtain ⟨hok, hall⟩ := entities_imported today hsheet hr
    have hnonblank : Text.trimmed project.socType ≠ "" ∨
        ∃ name ∈ project.signals.keys, Text.trimmed name ≠ "" := by
      refine hsomething.imp id ?_
      rintro ⟨name, hname⟩
      have hname' := hfilled.signals name hname
      exact ⟨name, hname, by rw [hname'.trimmed_eq]; exact hname'.1⟩
    obtain ⟨⟨imported, findings⟩, himport⟩ := hok.mpr hnonblank
    obtain ⟨hnames, hids⟩ := hall imported findings himport
    exact ⟨imported, findings, himport, fun name => (hnames name).trans hfilled.mem_signals_iff,
      fun id => (hids id).trans hfilled.mem_cores_iff⟩

/-- For every project, valid or not, whose platform sheet is not named as one of the other two sheets:
its workbook is imported exactly if it makes a selection or some signal has a name, the signals and the
cores that arrive are those whose names are not blank, under their trimmed names, and so nothing is
lost exactly if all these names are filled. -/
theorem entities_through_workbook (project : Project) (today : Date)
    (hsheet : project.exportSheet ≠ Exchange.versionSheet ∧
      project.exportSheet ≠ Exchange.signalSheet) :
    (∀ results, project.workbook.ReadAs results →
      ((∃ outcome, importSheets today results = .ok outcome) ↔
        Text.trimmed project.socType ≠ "" ∨
          ∃ name ∈ project.signals.keys, Text.trimmed name ≠ "") ∧
      ∀ imported findings, importSheets today results = .ok (imported, findings) →
        (∀ name, name ∈ imported.signals.keys ↔
          name ≠ "" ∧ ∃ written ∈ project.signals.keys, Text.trimmed written = name) ∧
        ∀ id, id ∈ imported.availableCores ↔ id.soc ≠ "" ∧ id.core ≠ "" ∧
          ∃ written ∈ project.availableCores, written.trimmed = id) ∧
    (project.KeepsEntities today ↔
      (∀ name ∈ project.signals.keys, Text.Filled name) ∧
      (∀ id ∈ project.availableCores, Text.Filled id.soc ∧ Text.Filled id.core) ∧
      (Text.trimmed project.socType ≠ "" ∨ ∃ name, name ∈ project.signals.keys)) := by
  refine ⟨fun results hr => entities_imported today hsheet hr, ?_⟩
  rw [keepsEntities_iff today hsheet, ← and_assoc]
  exact and_congr_left fun _ => ⟨fun h => ⟨h.signals, h.cores⟩, fun h => ⟨h.1, h.2⟩⟩

/-- Names that differ from others only by a blank at one end. -/
def spacedNames : Project :=
  { template .epoch with
    metadata := { Metadata.new .epoch with editor := "A" }
    cores := .ofPairs [("Windows", .ofPairs [("Main", default), ("Main ", default)])]
    signals := .ofPairs [("speed", .new "speed"), (" speed", .new "speed")] }

/-- Nothing is lost of two cores and a signal; of names with blanks the trimmed ones arrive. -/
theorem entities_of_spacedNames :
    let results : SheetResults := spacedNames.workbook.sheets.map fun sheet => (sheet.name, .ok sheet)
    twoCores.KeepsEntities .epoch ∧
    (spacedNames.exportSheet ≠ Exchange.versionSheet ∧
      spacedNames.exportSheet ≠ Exchange.signalSheet) ∧
    spacedNames.workbook.ReadAs results ∧
    ∃ imported findings, importSheets .epoch results = .ok (imported, findings) ∧
      (∀ name, name ∈ imported.signals.keys ↔ name = "speed") ∧
      ∀ id, id ∈ imported.availableCores ↔ id = ⟨"Windows", "Main"⟩ := by
  intro results
  have hsheet : spacedNames.exportSheet ≠ Exchange.versionSheet ∧
      spacedNames.exportSheet ≠ Exchange.signalSheet := by decide
  have hread : spacedNames.workbook.ReadAs results := readAs_written spacedNames.workbook
  have hkept : twoCores.KeepsEntities .epoch :=
    (entities_through_workbook twoCores .epoch (by decide)).2.mpr
      ⟨by decide +kernel, by decide +kernel, Or.inl (by decide +kernel)⟩
  refine ⟨hkept, hsheet, hread, ?_⟩
  obtain ⟨hok, hall⟩ := (entities_through_workbook spacedNames .epoch hsheet).1 results hread
  obtain ⟨⟨imported, findings⟩, himport⟩ := hok.mpr (Or.inl (by decide +kernel))
  obtain ⟨hnames, hids⟩ := hall imported findings himport
  have hkeys : spacedNames.signals.keys.map Text.trimmed = ["speed", "speed"] := by decide +kernel
  have hcores : spacedNames.availableCores.map CoreId.trimmed =
      [⟨"Windows", "Main"⟩, ⟨"Windows", "Main"⟩] := by decide +kernel
  refine ⟨imported, findings, himport, fun name => ?_, fun id => ?_⟩
  · rw [hnames, ← List.mem_map, hkeys]
    simp only [List.mem_cons, List.not_mem_nil, or_false, or_self]
    refine ⟨And.right, ?_⟩
    rintro rfl
    exact ⟨by decide, rfl⟩
  · rw [hids, ← List.mem_map, hcores]
    simp only [List.mem_cons, List.not_mem_nil, or_false, or_self]
    refine ⟨fun h => h.2.2, ?_⟩
    rintro rfl
    exact ⟨by decide, by decide, rfl⟩

/-- A valid project that selects a system with an empty name. -/
def emptySelection : Project :=
  { template .epoch with
    metadata := { Metadata.new .epoch with editor := "A" }
    socType := ""
    socList := [""] }

/-- A valid project whose platform sheet is named as the sheet of signals. -/
def misnamedSheet : Project :=
  { template .epoch with
    metadata := { Metadata.new .epoch with editor := "A" }
    signals := .ofPairs [("speed", .new "speed")]
    exportSheet := Exchange.signalSheet }

/-- Validation finds no error in these projects, but none of them arrives whole: of two names that
differ by a blank only one does, and without a name of a system or of a signal, or with two sheets of
one name, there is no import at all. -/
theorem entities_lost :
    Issue.errors (spacedNames.issues .epoch none) = [] ∧ ¬ spacedNames.KeepsEntities .epoch ∧
    Issue.errors (emptySelection.issues .epoch none) = [] ∧
    ¬ emptySelection.KeepsEntities .epoch ∧
    Issue.errors (misnamedSheet.issues .epoch none) = [] ∧ ¬ misnamedSheet.KeepsEntities .epoch := by
  refine ⟨by decide +kernel, ?_, by decide +kernel, ?_, by decide +kernel, ?_⟩
  · intro h
    have hfilled := ((keepsEntities_iff .epoch (by decide)).mp h).1.signals " speed" (by decide)
    exact absurd hfilled (by decide)
  · intro h
    rcases ((keepsEntities_iff .epoch (by decide)).mp h).2 with hsoc | ⟨name, hname⟩
    · exact hsoc (by decide)
    · cases hname
  · intro h
    obtain ⟨imported, findings, himport, _⟩ := h _ (readAs_written misnamedSheet.workbook)
    have hrefused : (importSheets .epoch (misnamedSheet.workbook.sheets.map fun sheet =>
        (sheet.name, .ok sheet))).toOption.isNone = true := by decide +kernel
    rw [himport] at hrefused
    cases hrefused

end Project

end SignalCatalog
