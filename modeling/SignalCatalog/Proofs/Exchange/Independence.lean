import Mathlib.Data.List.Forall2
import SignalCatalog.Proofs.Exchange.Platform
import SignalCatalog.Proofs.Exchange.Storable

/-!
# The sheets are imported independently

What is read from a sheet depends on the name and the cells of this sheet alone, and not on how its
rows are stored. Only the repair of the sources looks at two sheets, at the signals of one and the cores
of the other. It empties sources and turns flags of source cores off, and touches nothing else. So two
imports that agree on one sheet agree on what it says, whatever the other sheets hold and whatever is
wrong with them.
-/

namespace SignalCatalog

namespace Sheet

variable {first second : Sheet}

theorem Shows.row (h : first.Shows second) (r column : Nat) :
    Row.cell (first.row r) column = Row.cell (second.row r) column := by
  rw [cell_row, cell_row, h.cell]

theorem Shows.titles (h : first.Shows second) : first.titles = second.titles := by
  have hheader : ∀ column, first.cell 0 column = second.header.toList[column]?.getD .empty := by
    intro column
    rw [h.cell, ← cell_row]
    simp [Sheet.row, header, Row.cell]
  exact first.titles_eq hheader

/-- Rows behind the end of both sheets are empty. -/
theorem row_behind {i : Nat} (h : max first.rows.size second.rows.size ≤ i) :
    first.row (i + 1) = #[] ∧ second.row (i + 1) = #[] :=
  ⟨row_of_le (by omega), row_of_le (by omega)⟩

end Sheet

/-- Whether a finding is that a sheet was skipped. -/
def Finding.isSkipped (finding : Finding) : Bool := finding.kind == .skipped

namespace Exchange

variable {today : Date} {first second : Sheet}

/-! ## What is read depends on the cells -/

/-- Two rows with the same cells, however long they are stored. -/
def SameCells (row other : Row) : Prop := ∀ column, Row.cell row column = Row.cell other column

theorem cellUnder_congr {row other : Row} (h : SameCells row other) (titles : Titles) :
    cellUnder titles row = cellUnder titles other := by
  funext title
  unfold cellUnder
  split
  · exact h _
  · rfl

/-- Two sheets of one name that hold the same under every title, row by row. -/
structure SameUnder (first second : Sheet) : Prop where
  name : first.name = second.name
  cells : ∀ r, cellUnder first.titles (first.row r) = cellUnder second.titles (second.row r)

theorem SameUnder.texts (h : SameUnder first second) (r : Nat) :
    textUnder? first.titles (first.row r) = textUnder? second.titles (second.row r) := by
  funext title
  rw [textUnder?, textUnder?, h.cells]

theorem sameUnder_of_shows (h : first.Shows second) : SameUnder first second where
  name := h.name
  cells r := by rw [h.titles, cellUnder_congr (h.row r)]

theorem readVersion_congr (h : SameUnder first second) :
    readVersion today (some first) = readVersion today (some second) := by
  have hcells : cellUnder first.titles (firstRow first) = cellUnder second.titles (firstRow second) :=
    h.cells 1
  have htexts : textUnder? first.titles (firstRow first) =
      textUnder? second.titles (firstRow second) := h.texts 1
  simp only [readVersion, h.name, hcells, htexts]

theorem readPlatform_congr (h : SameUnder first second) :
    readPlatform (some first) = readPlatform (some second) := by
  have htexts : textUnder? first.titles (firstRow first) =
      textUnder? second.titles (firstRow second) := h.texts 1
  have hadd : ∀ platform i, Platform.addRow first.titles platform (first.row (i + 1)) =
      Platform.addRow second.titles platform (second.row (i + 1)) := by
    intro platform i
    simp only [Platform.addRow, h.texts (i + 1)]
  have hbody : ∀ platform : Platform,
      first.body.foldl (fun platform row => platform.addRow first.titles row.1) platform =
      second.body.foldl (fun platform row => platform.addRow second.titles row.1) platform := by
    intro platform
    have hbehind : ∀ i platform, max first.rows.size second.rows.size ≤ i →
        Platform.addRow first.titles platform (first.row (i + 1)) = platform ∧
        Platform.addRow second.titles platform (second.row (i + 1)) = platform := by
      intro i platform hi
      obtain ⟨hfirst, hsecond⟩ := Sheet.row_behind hi
      rw [hfirst, hsecond]
      exact ⟨addRow_empty _ _, addRow_empty _ _⟩
    rw [first.foldl_body (addRow_empty _) fun i platform hi => (hbehind i platform hi).1,
      second.foldl_body (addRow_empty _) fun i platform hi => (hbehind i platform hi).2]
    exact List.foldl_ext _ _ platform fun platform i _ => hadd platform i
  simp only [readPlatform, htexts, h.name, hbody]

/-! ### Signals -/

/-- Two rows of one name and one number with the same cells. -/
structure SignalRow.Alike (row other : SignalRow) : Prop where
  name : row.name = other.name
  number : row.number = other.number
  cells : SameCells row.cells other.cells

/-- All but the destinations is read from the cells under the titles. -/
theorem SignalRow.read_of_cells {row other : SignalRow} {columns others : Columns}
    (hname : row.name = other.name) (hcells : row.cell columns = other.cell others) :
    other.read others =
      ({ (row.read columns).1 with destinations := other.destinations others },
        (row.read columns).2) := by
  have htext : row.text? columns = other.text? others := by
    funext title
    rw [SignalRow.text?, SignalRow.text?, hcells]
  simp only [SignalRow.read, SignalRow.choice, SignalRow.readType, SignalRow.ranged, hcells, htext,
    hname]

theorem SignalRow.Alike.read {row other : SignalRow} (h : row.Alike other) (columns : Columns) :
    row.read columns = other.read columns := by
  have hcell : row.cell columns = other.cell columns := by
    funext title
    exact congrFun (cellUnder_congr h.cells columns.titles) title
  have hdestinations : row.destinations columns = other.destinations columns := by
    rw [SignalRow.destinations, SignalRow.destinations, show Row.cell row.cells = Row.cell other.cells
      from funext h.cells]
  rw [SignalRow.read_of_cells h.name hcell, ← hdestinations]
  rfl

theorem readRows_congr {rows others : List SignalRow} (h : List.Forall₂ SignalRow.Alike rows others)
    (sheetName : String) (columns : Columns) (seen : List String) :
    readRows sheetName columns seen rows = readRows sheetName columns seen others := by
  induction h generalizing seen with
  | nil => rfl
  | cons hrow _ ih => simp only [readRows, hrow.name, hrow.number, hrow.read, ih]

/-- Where two sheets have the same cells in two columns, the rows with names there correspond. -/
theorem forall₂_namedRows {column other : Nat}
    (hname : ∀ r, Row.cell (first.row r) column = Row.cell (second.row r) other)
    {Corresponds : SignalRow → SignalRow → Prop}
    (h : ∀ name i, Corresponds ⟨name, i + 1, first.row i⟩ ⟨name, i + 1, second.row i⟩) :
    List.Forall₂ Corresponds (namedRows first column) (namedRows second other) := by
  let named? (column : Nat) (row : Row × Nat) : Option SignalRow :=
    (Row.cell row.1 column).text?.map fun name => ⟨name, row.2 + 1, row.1⟩
  -- Both sheets are read up to the end of the longer one; behind it there are no names.
  have hempty : ∀ column i, named? column (#[], i) = none := by
    intro column i
    simp only [named?, Row.cell_empty]
    rfl
  have hbehind : ∀ i, max first.rows.size second.rows.size ≤ i →
      named? column (first.row (i + 1), i + 1) = none ∧
      named? other (second.row (i + 1), i + 1) = none := by
    intro i hi
    obtain ⟨hfirst, hsecond⟩ := Sheet.row_behind hi
    rw [hfirst, hsecond]
    exact ⟨hempty _ _, hempty _ _⟩
  have hfirst : namedRows first column = _ :=
    first.filterMap_body (hempty column) fun i hi => (hbehind i hi).1
  have hsecond : namedRows second other = _ :=
    second.filterMap_body (hempty other) fun i hi => (hbehind i hi).2
  rw [hfirst, hsecond]
  refine List.rel_filterMap (R := Eq) (P := Corresponds) ?_ (List.forall₂_refl _)
  rintro i _ rfl
  simp only [hname (i + 1)]
  cases (Row.cell (second.row (i + 1)) other).text? with
  | none => exact Option.Rel.none
  | some name => exact Option.Rel.some (h name (i + 1))

theorem readSignals_congr (h : first.Shows second) :
    readSignals (some first) = readSignals (some second) := by
  unfold readSignals
  dsimp only
  rw [h.titles, h.name]
  split
  · rfl
  · rename_i column _
    rw [readRows_congr (forall₂_namedRows (fun r => h.row r column) fun _ i => ⟨rfl, rfl, h.row i⟩)]

/-! ## The repair of a source -/

/-- What the repair of a source leaves of a signal: the source may be emptied, and the flag of the
source core may be another one. -/
structure RepairedFrom (read signal : Signal) : Prop where
  values : signal = { read with source := signal.source, destinations := signal.destinations }
  source : signal.source = "" ∨ signal.source = read.source
  keys : signal.destinations.keys = read.destinations.keys
  flags : ∀ key, signal.destinations.get? key ≠ read.destinations.get? key →
    ∃ id : CoreId, CoreId.ofText? signal.source = some id ∧ key = id.destinationKey

theorem repairedFrom_repairSource (cores : List CoreId) (name : String) (read : Signal) :
    RepairedFrom read (repairSource cores name read).1 := by
  unfold repairSource
  split
  · exact ⟨rfl, .inr rfl, rfl, fun key h => False.elim (h rfl)⟩
  · split
    · exact ⟨rfl, .inl rfl, rfl, fun key h => False.elim (h rfl)⟩
    · rename_i id hid
      split
      · rename_i hflag
        have hsource : CoreId.ofText? read.source = some id := by
          have hsourceId := (Option.filter_eq_some_iff.mp hid).1
          rw [Signal.sourceId?, Option.ite_none_left_eq_some] at hsourceId
          exact hsourceId.2
        have hkey : id.destinationKey ∈ read.destinations.keys := by
          cases hold : read.destinations.get? id.destinationKey with
          | none => simp [hold] at hflag
          | some on => exact Entries.mem_keys_of_mem (Entries.mem_of_get? hold)
        refine ⟨rfl, .inr rfl, Entries.keys_insert_of_mem hkey, ?_⟩
        intro key hchanged
        refine ⟨id, hsource, ?_⟩
        by_contra hother
        exact hchanged (by rw [OrderedMap.get?_insert, if_neg hother])
      · exact ⟨rfl, .inr rfl, rfl, fun key h => False.elim (h rfl)⟩

/-- Two signals that agree but for the source and the flag of a source core. One source may be empty,
otherwise the sources are the same. -/
structure SameButSource (first second : Signal) : Prop where
  values : second = { first with source := second.source, destinations := second.destinations }
  source : first.source = "" ∨ second.source = "" ∨ first.source = second.source
  keys : first.destinations.keys = second.destinations.keys
  flags : ∀ key, first.destinations.get? key ≠ second.destinations.get? key →
    ∃ id : CoreId, (CoreId.ofText? first.source = some id ∨ CoreId.ofText? second.source = some id) ∧
      key = id.destinationKey

theorem RepairedFrom.same {read first second : Signal} (hfirst : RepairedFrom read first)
    (hsecond : RepairedFrom read second) : SameButSource first second where
  values := by
    rw [hsecond.values, hfirst.values]
  source := by
    rcases hfirst.source with hempty | hkept
    · exact .inl hempty
    · rcases hsecond.source with hempty | hkept'
      · exact .inr (.inl hempty)
      · exact .inr (.inr (hkept.trans hkept'.symm))
  keys := hfirst.keys.trans hsecond.keys.symm
  flags := by
    intro key hdiffer
    by_cases hchanged : first.destinations.get? key = read.destinations.get? key
    · have hother : second.destinations.get? key ≠ read.destinations.get? key :=
        fun hsame => hdiffer (hchanged.trans hsame.symm)
      obtain ⟨id, hsource, hkey⟩ := hsecond.flags key hother
      exact ⟨id, .inr hsource, hkey⟩
    · obtain ⟨id, hsource, hkey⟩ := hfirst.flags key hchanged
      exact ⟨id, .inl hsource, hkey⟩

/-! ## Skipped sheets -/

/-- The finding for a signal sheet without names. -/
def unnamed : Outcome → List Finding
  | some (.ok sheet) =>
    if (Entries.get? SignalColumn.name sheet.titles).isNone then
      [⟨sheet.name, none, .missingColumn SignalColumn.name⟩]
    else []
  | _ => []

theorem filter_eq_nil_of_adjusted {findings : List Finding}
    (h : ∀ finding ∈ findings, finding.kind = .adjusted) :
    findings.filter Finding.isSkipped = [] := by
  rw [List.filter_eq_nil_iff]
  intro finding hfinding
  simp [Finding.isSkipped, h finding hfinding]

/-- All that can be wrong with a date is that it cannot be read. -/
theorem eq_of_mem_readDateCell {cell : Cell} {cause : FindingCause}
    (h : cause ∈ (readDateCell today cell).2) : ∃ raw, cause = .unreadableDate raw := by
  unfold readDateCell at h
  split at h
  · cases h
  · dsimp only at h
    split at h
    · cases h
    · exact ⟨_, List.mem_singleton.mp h⟩

theorem adjusted_readDateCell (cell : Cell) :
    ∀ cause ∈ (readDateCell today cell).2, cause.kind = .adjusted := by
  intro cause hcause
  obtain ⟨raw, rfl⟩ := eq_of_mem_readDateCell hcause
  rfl

theorem adjusted_readVersion (sheet : Option Sheet) :
    ∀ finding ∈ (readVersion today sheet).2, finding.kind = .adjusted := by
  cases sheet with
  | none => simp [readVersion]
  | some sheet =>
    intro finding hfinding
    obtain ⟨cause, hcause, rfl⟩ := List.mem_map.mp hfinding
    exact adjusted_readDateCell _ cause hcause

namespace SignalRow

variable (row : SignalRow) (columns : Columns)

theorem adjusted_choice {α : Type} [Attribute α] (default : α) :
    ∀ cause ∈ (row.choice columns default).2, cause.kind = .adjusted := by
  unfold choice
  split
  · simp
  · split <;> simp [FindingCause.kind]

theorem adjusted_readType : ∀ cause ∈ (row.readType columns).2, cause.kind = .adjusted := by
  unfold readType
  split
  · simp
  · split
    · split <;> simp [FindingCause.kind]
    · simp [FindingCause.kind]

theorem adjusted_ranged (range : FieldRange) :
    ∀ cause ∈ (row.ranged columns range).2, cause.kind = .adjusted := by
  unfold ranged
  dsimp only
  split
  · simp
  · split
    · simp [FindingCause.kind]
    · split <;> simp [FindingCause.kind]

theorem adjusted_read : ∀ cause ∈ (row.read columns).2, cause.kind = .adjusted := by
  simp only [read, List.forall_mem_append]
  exact ⟨⟨⟨⟨⟨⟨⟨⟨⟨⟨row.adjusted_choice columns _, row.adjusted_choice columns _⟩,
    row.adjusted_choice columns _⟩, row.adjusted_choice columns _⟩, row.adjusted_choice columns _⟩,
    row.adjusted_choice columns _⟩, row.adjusted_readType columns⟩, row.adjusted_ranged columns _⟩,
    row.adjusted_ranged columns _⟩, row.adjusted_ranged columns _⟩, row.adjusted_ranged columns _⟩

end SignalRow

theorem adjusted_readRows (sheetName : String) (columns : Columns) (rows : List SignalRow)
    (seen : List String) :
    ∀ finding ∈ (readRows sheetName columns seen rows).2, finding.kind = .adjusted := by
  induction rows generalizing seen with
  | nil => simp [readRows]
  | cons row rest ih =>
    rw [readRows]
    split
    · rw [List.forall_mem_cons]
      exact ⟨rfl, ih seen⟩
    · rw [List.forall_mem_append]
      refine ⟨?_, ih (row.name :: seen)⟩
      intro finding hfinding
      obtain ⟨cause, hcause, rfl⟩ := List.mem_map.mp hfinding
      exact row.adjusted_read columns cause hcause

/-- The repair finds a source that is no core or one that is a destination. -/
theorem eq_of_mem_repairSource {cores : List CoreId} {name : String} {signal : Signal}
    {cause : FindingCause} (h : cause ∈ (repairSource cores name signal).2) :
    cause = .unknownSource name signal.source ∨
      ∃ id : CoreId, cause = .sourceAmongDestinations name id.text := by
  unfold repairSource at h
  split at h
  · cases h
  · split at h
    · exact .inl (List.mem_singleton.mp h)
    · split at h
      · exact .inr ⟨_, List.mem_singleton.mp h⟩
      · cases h

theorem adjusted_repairSource (cores : List CoreId) (name : String) (signal : Signal) :
    ∀ cause ∈ (repairSource cores name signal).2, cause.kind = .adjusted := by
  intro cause hcause
  rcases eq_of_mem_repairSource hcause with rfl | ⟨id, rfl⟩ <;> rfl

theorem adjusted_repairSources (project : Project) :
    ∀ finding ∈ (repairSources project).2, finding.kind = .adjusted := by
  intro finding hfinding
  obtain ⟨entry, _, hentry⟩ := List.mem_flatMap.mp hfinding
  obtain ⟨cause, hcause, rfl⟩ := List.mem_map.mp hentry
  exact adjusted_repairSource _ _ _ cause hcause

theorem skipped_readSignals (outcome : Outcome) :
    (readSignals (outcome.bind Except.toOption)).2.filter Finding.isSkipped = unnamed outcome := by
  match outcome with
  | none => rfl
  | some (.error error) => rfl
  | some (.ok sheet) =>
    unfold unnamed
    simp only [Option.bind_some, Except.toOption, readSignals]
    cases hcolumn : Entries.get? SignalColumn.name sheet.titles with
    | none => rfl
    | some column => exact filter_eq_nil_of_adjusted (adjusted_readRows _ _ _ _)

variable {results others : SheetResults} {project other : Project} {findings found : List Finding}

theorem unreadable_isSkipped (name : String) (outcome : Outcome) :
    (unreadable name outcome).filter Finding.isSkipped = unreadable name outcome := by
  match outcome with
  | none => rfl
  | some (.ok sheet) => rfl
  | some (.error error) => rfl

/-- Of a sheet that cannot be read there is one finding, and of a signal sheet without names; nothing
else is skipped. -/
theorem skipped_importSheets (h : importSheets today results = .ok (project, findings)) :
    findings.filter Finding.isSkipped =
      unreadable versionSheet (Entries.get? versionSheet results) ++ unreadablePlatform results ++
      unreadable signalSheet (Entries.get? signalSheet results) ++
      unnamed (Entries.get? signalSheet results) := by
  have hplatform : (unreadablePlatform results).filter Finding.isSkipped =
      unreadablePlatform results := by
    unfold unreadablePlatform
    cases platformSheet? results <;> simp [unreadable_isSkipped]
  rw [(importSheets_parts h).2]
  simp only [List.filter_append, unreadable_isSkipped, hplatform, skipped_readSignals,
    filter_eq_nil_of_adjusted (adjusted_readVersion _),
    filter_eq_nil_of_adjusted (adjusted_repairSources _), List.append_nil]

/-! ## Two imports -/

/-- Two outcomes from which the same is taken: two sheets of one name with the same cells, or no sheet
either time, whether there is none or it cannot be read for whatever reason. -/
inductive Alike : Outcome → Outcome → Prop
  | read {first second : Sheet} (same : first.Shows second) :
    Alike (some (.ok first)) (some (.ok second))
  | unreadable (error other : PartError) : Alike (some (.error error)) (some (.error other))
  | absent : Alike none none
  | unreadableAbsent (error : PartError) : Alike (some (.error error)) none
  | absentUnreadable (error : PartError) : Alike none (some (.error error))

/-- A reader that depends on the cells alone takes the same from two outcomes that are alike. -/
theorem Alike.reads {α : Type} {read : Option Sheet → α} {outcome other : Outcome}
    (h : Alike outcome other)
    (hread : ∀ {first second : Sheet}, first.Shows second → read (some first) = read (some second)) :
    read (outcome.bind Except.toOption) = read (other.bind Except.toOption) := by
  cases h with
  | read same => exact hread same
  | unreadable error other => rfl
  | absent => rfl
  | unreadableAbsent error => rfl
  | absentUnreadable error => rfl

theorem metadata_importSheets (h : importSheets today results = .ok (project, findings))
    (h' : importSheets today others = .ok (other, found))
    (hversion : Alike (Entries.get? versionSheet results) (Entries.get? versionSheet others)) :
    project.metadata = other.metadata := by
  rw [(importSheets_parts h).1, (importSheets_parts h').1]
  exact congrArg Prod.fst (hversion.reads fun same =>
    @readVersion_congr today _ _ (sameUnder_of_shows same))

theorem platform_importSheets (h : importSheets today results = .ok (project, findings))
    (h' : importSheets today others = .ok (other, found))
    (hplatform : Alike (platformOutcome results) (platformOutcome others)) :
    project.socType = other.socType ∧ project.buildType = other.buildType ∧
    project.socList = other.socList ∧ project.buildList = other.buildList ∧
    project.cores = other.cores ∧ project.exportSheet = other.exportSheet := by
  have hread : readPlatform ((platformOutcome results).bind Except.toOption) =
      readPlatform ((platformOutcome others).bind Except.toOption) :=
    hplatform.reads fun same => readPlatform_congr (sameUnder_of_shows same)
  rw [(importSheets_parts h).1, (importSheets_parts h').1, hread]
  exact ⟨rfl, rfl, rfl, rfl, rfl, rfl⟩

theorem signals_importSheets (h : importSheets today results = .ok (project, findings))
    (h' : importSheets today others = .ok (other, found))
    (htable : Alike (Entries.get? signalSheet results) (Entries.get? signalSheet others)) :
    List.Forall₂ (fun first second => first.1 = second.1 ∧ SameButSource first.2 second.2)
      project.signals.entries other.signals.entries := by
  have hread : (readSignals ((Entries.get? signalSheet results).bind Except.toOption)).1 =
      (readSignals ((Entries.get? signalSheet others).bind Except.toOption)).1 :=
    congrArg Prod.fst (htable.reads fun same => readSignals_congr same)
  rw [(importSheets_parts h).1, (importSheets_parts h').1]
  simp only [repairSources, assemble, Project.normalize, OrderedMap.mapValues, hread,
    List.forall₂_map_left_iff, List.forall₂_map_right_iff, List.forall₂_same]
  intro entry _
  exact ⟨trivial, (repairedFrom_repairSource _ _ _).same (repairedFrom_repairSource _ _ _)⟩

theorem sheets_of_importArchive {archive : Archive}
    (h : importArchive today archive = .ok (project, findings)) :
    ∃ results, archive.sheets = .ok results := by
  unfold importArchive at h
  split at h
  · cases h
  · rename_i results hsheets
    exact ⟨results, hsheets⟩

theorem importSheets_of_importArchive {archive : Archive}
    (h : importArchive today archive = .ok (project, findings)) (hsheets : archive.sheets = .ok results) :
    importSheets today results = .ok (project, findings) := by
  rw [importArchive, hsheets] at h
  dsimp only at h
  split at h
  · cases h
  · rename_i outcome houtcome
    rw [houtcome, Except.ok.inj h]

theorem importSheets_of_toOption {outcome : Project × List Finding}
    (h : (importSheets today results).toOption = some outcome) :
    importSheets today results = .ok outcome := by
  cases himport : importSheets today results with
  | error findings => simp [himport, Except.toOption] at h
  | ok imported =>
    rw [himport] at h
    rw [Option.some.inj h]

theorem importArchive_of_sheets {archive : Archive} {outcome : Project × List Finding}
    (hsheets : archive.sheets = .ok results)
    (h : (importSheets today results).toOption = some outcome) :
    importArchive today archive = .ok outcome := by
  simp only [importArchive, hsheets, importSheets_of_toOption h]

/-- For any two archives that are imported on one day: if the version sheets are alike, so are the
metadata; if the platform sheets are, the selections, the lists and the cores; if the signal sheets are,
the signals, in order, but for sources and flags of source cores. Each of the three sheets that cannot be
read gives exactly one finding that it was skipped, and there is one of these more exactly if the signal
sheet has no names. -/
theorem import_independently {today : Date} {archive archive' : Archive}
    {results results' : SheetResults} {project project' : Project} {findings findings' : List Finding}
    (h : importArchive today archive = .ok (project, findings)) (hsheets : archive.sheets = .ok results)
    (h' : importArchive today archive' = .ok (project', findings'))
    (hsheets' : archive'.sheets = .ok results') :
    (Alike (Entries.get? versionSheet results) (Entries.get? versionSheet results') →
      project.metadata = project'.metadata) ∧
    (Alike (platformOutcome results) (platformOutcome results') →
      project.socType = project'.socType ∧ project.buildType = project'.buildType ∧
      project.socList = project'.socList ∧ project.buildList = project'.buildList ∧
      project.cores = project'.cores ∧ project.exportSheet = project'.exportSheet) ∧
    (Alike (Entries.get? signalSheet results) (Entries.get? signalSheet results') →
      List.Forall₂ (fun first second => first.1 = second.1 ∧ SameButSource first.2 second.2)
        project.signals.entries project'.signals.entries) ∧
    findings.filter Finding.isSkipped =
      unreadable versionSheet (Entries.get? versionSheet results) ++ unreadablePlatform results ++
      unreadable signalSheet (Entries.get? signalSheet results) ++
      unnamed (Entries.get? signalSheet results) := by
  have himport := importSheets_of_importArchive h hsheets
  have himport' := importSheets_of_importArchive h' hsheets'
  exact ⟨metadata_importSheets himport himport', platform_importSheets himport himport',
    signals_importSheets himport himport', skipped_importSheets himport⟩

/-- A signal sheet with one signal whose source is among its destinations, and a platform sheet. -/
def sourceAndPlatform (platform : String) : Archive :=
  .ofPairs
    [("xl/workbook.xml", .text
        "<w><sheets><sheet name='LookUpTable'/><sheet name='Config'/></sheets></w>"),
      ("xl/worksheets/sheet1.xml", .text ("<w><sheetData><row><c t='str'><v>Data_Type</v></c>" ++
        "<c t='str'><v>Source</v></c><c t='str'><v>A.B</v></c></row><row><c t='str'><v>speed</v></c>" ++
        "<c t='str'><v>A.B</v></c><c t='str'><v>Yes</v></c></row></sheetData></w>")),
      ("xl/worksheets/sheet2.xml", .text platform)]

/-- What an import says of the sources of the signals and of their flags for one core. -/
def sourcesAndFlags (outcome : Project × List Finding) : List (String × String × Bool) :=
  outcome.1.signals.entries.map fun entry => (entry.1, entry.2.source, entry.2.isDestination "A.B")

/-- With its core the source is kept and is no destination. Without the platform sheet the source is
emptied, the flag stays, nothing else changes, and one sheet was skipped. -/
theorem import_independently_withoutPlatform :
    let whole := sourceAndPlatform ("<w><sheetData><row><c t='str'><v>SOC</v></c>" ++
      "<c t='str'><v>CORE</v></c></row><row><c t='str'><v>A</v></c><c t='str'><v>B</v></c></row>" ++
      "</sheetData></w>")
    let damaged := sourceAndPlatform "damaged"
    ∃ outcome outcome', importArchive .epoch whole = .ok outcome ∧
      importArchive .epoch damaged = .ok outcome' ∧
      sourcesAndFlags outcome = [("speed", "A.B", false)] ∧
      sourcesAndFlags outcome' = [("speed", "", true)] ∧
      outcome.1.metadata = outcome'.1.metadata ∧
      List.Forall₂ (fun first second => first.1 = second.1 ∧ SameButSource first.2 second.2)
        outcome.1.signals.entries outcome'.1.signals.entries ∧
      outcome'.2.filter Finding.isSkipped =
        [⟨"Config", none, .unreadableSheet ⟨"xl/worksheets/sheet2.xml", .malformed⟩⟩] := by
  intro whole damaged
  let table : Sheet := ⟨"LookUpTable", #[#[.text "Data_Type", .text "Source", .text "A.B"],
    #[.text "speed", .text "A.B", .text "Yes"]]⟩
  let config : Sheet := ⟨"Config", #[#[.text "SOC", .text "CORE"], #[.text "A", .text "B"]]⟩
  have hwhole : whole.sheets = .ok [("LookUpTable", .ok table), ("Config", .ok config)] := by
    decide +kernel
  have hdamaged : damaged.sheets = .ok [("LookUpTable", .ok table),
      ("Config", .error ⟨"xl/worksheets/sheet2.xml", .malformed⟩)] := by decide +kernel
  have hread : (importSheets .epoch [("LookUpTable", .ok table), ("Config", .ok config)]).toOption.map
      sourcesAndFlags = some [("speed", "A.B", false)] := by decide +kernel
  have hread' : (importSheets .epoch [("LookUpTable", .ok table),
      ("Config", .error ⟨"xl/worksheets/sheet2.xml", .malformed⟩)]).toOption.map sourcesAndFlags =
      some [("speed", "", true)] := by decide +kernel
  obtain ⟨outcome, houtcome, hsources⟩ := Option.map_eq_some_iff.mp hread
  obtain ⟨outcome', houtcome', hsources'⟩ := Option.map_eq_some_iff.mp hread'
  have himport := importArchive_of_sheets hwhole houtcome
  have himport' := importArchive_of_sheets hdamaged houtcome'
  obtain ⟨hmetadata, _, hsignals, _⟩ := import_independently himport hwhole himport' hdamaged
  obtain ⟨_, _, _, hskipped⟩ := import_independently himport' hdamaged himport hwhole
  have htable : Alike (some (.ok table)) (some (.ok table)) := .read ⟨rfl, fun _ _ => rfl⟩
  exact ⟨outcome, outcome', himport, himport', hsources, hsources', hmetadata .absent,
    hsignals htable, hskipped⟩

end Exchange

end SignalCatalog
