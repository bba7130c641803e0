import SignalCatalog.Proofs.Exchange.Legible
import SignalCatalog.Proofs.Exchange.RoundTrip

/-!
# An import is exported without loss

An imported project is in the domain of the export, so importing its own workbook gives it back. Only the
flags change: the workbook has a column for each available core and for no other one. After that nothing
changes any more. Structs are found again each time, because the workbook has no place for members.
-/

namespace SignalCatalog

open Exchange

/-- The signal with a flag for every core that is available and for no other one. -/
def Signal.reflagged (cores : List CoreId) (signal : Signal) : Signal :=
  { signal with
    destinations := .ofPairs (cores.map fun id => (id.destinationKey, signal.isDestination id.text)) }

/-- The project with flags for its available cores and for no other ones. -/
def Project.reflagged (project : Project) : Project :=
  { project with
    signals := project.signals.mapValues fun _ signal => signal.reflagged project.availableCores }

namespace Signal

variable {cores : List CoreId} {id : CoreId}

/-- Without values that were left unread a signal is carried with all but its flags. -/
theorem carried_eq_reflagged {signal : Signal} (h : signal.unreadable = .empty) :
    signal.carried cores = signal.reflagged cores := by
  rw [carried, ← h]
  rfl

theorem isDestination_reflagged (signal : Signal) (h : id ∈ cores) :
    (signal.reflagged cores).isDestination id.text = signal.isDestination id.text :=
  signal.isDestination_carried h

theorem reflagged_reflagged (signal : Signal) :
    (signal.reflagged cores).reflagged cores = signal.reflagged cores := by
  have hflags : (cores.map fun id =>
      (id.destinationKey, (signal.reflagged cores).isDestination id.text)) =
      cores.map fun id => (id.destinationKey, signal.isDestination id.text) := by
    apply List.map_congr_left
    intro id hid
    rw [signal.isDestination_reflagged hid]
  rw [reflagged, hflags]
  rfl

end Signal

namespace Project

theorem reflagged_reflagged (project : Project) :
    project.reflagged.reflagged = project.reflagged := by
  have hsignals : (project.reflagged.signals.mapValues fun _ signal =>
      signal.reflagged project.availableCores) = project.reflagged.signals := by
    apply OrderedMap.ext
    refine (List.map_congr_left fun entry he => ?_).trans (List.map_id _)
    obtain ⟨old, _, rfl⟩ := List.mem_map.mp he
    exact Prod.ext rfl old.2.reflagged_reflagged
  have hcores : project.reflagged.availableCores = project.availableCores := rfl
  rw [reflagged, hcores, hsignals]

/-- The flags have no part in what is found. -/
theorem notices_reflagged (project : Project) : project.reflagged.notices = project.notices := by
  have hentries : project.reflagged.signals.entries = project.signals.entries.map fun entry =>
      (entry.1, entry.2.reflagged project.availableCores) := rfl
  rw [notices, hentries, List.zipIdx_map, List.flatMap_map]
  rfl

end Project

namespace Exchange

variable {today : Date} {results : SheetResults} {project : Project} {findings : List Finding}

theorem ImportedProject.populated_eq (h : ImportedProject project) :
    project.populated = project.cores := by
  apply OrderedMap.ext
  rw [Project.populated, OrderedMap.filter, List.filter_eq_self]
  intro soc hsoc
  simp [h.populated soc hsoc]

/-- The workbook of an imported project carries everything but flags of other cores. -/
theorem ImportedProject.carried_eq (h : ImportedProject project) :
    project.carried = project.reflagged := by
  have hsignals : (project.signals.mapValues fun _ signal =>
      signal.carried project.availableCores) = project.reflagged.signals := by
    apply OrderedMap.ext
    apply List.map_congr_left
    exact fun entry he => Prod.ext rfl (Signal.carried_eq_reflagged (h.imported entry he).unreadable)
  calc project.carried
      = { Project.template project.metadata.date with
          metadata := project.metadata
          socType := project.socType
          buildType := project.buildType
          socList := project.socList
          buildList := project.buildList
          cores := project.cores
          signals := project.reflagged.signals
          exportSheet := project.exportSheet } := by
        rw [Project.carried, h.populated_eq, hsignals, ← h.socList, ← h.buildList]
    _ = { project with signals := project.reflagged.signals } :=
        (congrArg (fun other : Project => { other with signals := project.reflagged.signals })
          h.rest).symm

/-- Importing the workbook of an imported project gives the project back, but for flags of other cores,
and finds the structs. -/
theorem ImportedProject.reimport (h : ImportedProject project) (later : Date)
    (hr : project.workbook.ReadAs results) :
    importSheets later results = .ok (project.reflagged, project.notices) := by
  rw [Project.import_legible h.toLegible later hr, h.carried_eq]

/-- For any archive that is imported: importing the workbook of the project, on whichever day and however
its cells are stored, finds nothing but the structs, which have no members, and gives the project back
with one flag for each available core, on exactly if it was on. Exporting and importing this once more
changes nothing at all. -/
theorem reimport_stable {today : Date} {archive : Archive} {project : Project} {findings : List Finding}
    (h : importArchive today archive = .ok (project, findings)) :
    (∀ later results, project.workbook.ReadAs results →
      importSheets later results = .ok (project.reflagged, project.notices)) ∧
    (∀ entry ∈ project.signals.entries, ∀ id ∈ project.availableCores,
      (entry.2.reflagged project.availableCores).isDestination id.text =
        entry.2.isDestination id.text) ∧
    ∀ later results, project.reflagged.workbook.ReadAs results →
      importSheets later results = .ok (project.reflagged, project.notices) := by
  obtain ⟨results, hsheets⟩ := sheets_of_importArchive h
  have hfirst := importedProject_importSheets (Archive.wellNamed_sheets hsheets)
    (importSheets_of_importArchive h hsheets)
  -- The first round gives another accepted import, so that all of this holds of its result as well.
  have hwritten := Project.readAs_written project.workbook
  have hsecond : ImportedProject project.reflagged :=
    importedProject_importSheets hwritten.wellNamed (hfirst.reimport today hwritten)
  refine ⟨fun later results hr => hfirst.reimport later hr,
    fun entry _ id hid => entry.2.isDestination_reflagged hid, ?_⟩
  intro later results hr
  rw [hsecond.reimport later hr, project.reflagged_reflagged, project.notices_reflagged]

/-- A signal sheet alone, with a struct and a flag for a core that is not available. -/
def structWithFlag : Archive :=
  .ofPairs
    [("xl/workbook.xml", .text "<w><sheets><sheet name='LookUpTable'/></sheets></w>"),
      ("xl/worksheets/sheet1.xml", .text ("<w><sheetData><row><c t='str'><v>Data_Type</v></c>" ++
        "<c t='str'><v>DataType</v></c><c t='str'><v>A.B</v></c></row><row><c t='str'><v>pose</v></c>" ++
        "<c t='str'><v>STRUCT</v></c><c t='str'><v>Yes</v></c></row></sheetData></w>"))]

/-- The flags of the signals of a project. -/
def flags (project : Project) : List (List (String × Bool)) :=
  project.signals.values.map fun signal => signal.destinations.entries

/-- The flag goes with the first export; the struct is found each time. -/
theorem reimport_stable_structWithFlag :
    ∃ project findings, importArchive .epoch structWithFlag = .ok (project, findings) ∧
      flags project = [[("core_A_B", true)]] ∧
      flags project.reflagged = [[]] ∧
      project.notices = [⟨"LookUpTable", some 2, .structWithoutMembers "pose"⟩] ∧
      importSheets .epoch (project.workbook.sheets.map fun sheet => (sheet.name, .ok sheet)) =
        .ok (project.reflagged, project.notices) ∧
      importSheets .epoch (project.reflagged.workbook.sheets.map fun sheet => (sheet.name, .ok sheet)) =
        .ok (project.reflagged, project.notices) := by
  let table : Sheet := ⟨"LookUpTable", #[#[.text "Data_Type", .text "DataType", .text "A.B"],
    #[.text "pose", .text "STRUCT", .text "Yes"]]⟩
  have hsheets : structWithFlag.sheets = .ok [("LookUpTable", .ok table)] := by decide +kernel
  have hread : (importSheets .epoch [("LookUpTable", .ok table)]).toOption.map (fun outcome =>
      (flags outcome.1, flags outcome.1.reflagged, outcome.1.notices)) =
      some ([[("core_A_B", true)]], [[]],
        [⟨"LookUpTable", some 2, .structWithoutMembers "pose"⟩]) := by decide +kernel
  obtain ⟨⟨project, findings⟩, houtcome, hfacts⟩ := Option.map_eq_some_iff.mp hread
  simp only [Prod.mk.injEq] at hfacts
  have himport := importArchive_of_sheets hsheets houtcome
  obtain ⟨hfirst, _, hsecond⟩ := reimport_stable himport
  exact ⟨project, findings, himport, hfacts.1, hfacts.2.1, hfacts.2.2,
    hfirst .epoch _ (Project.readAs_written _), hsecond .epoch _ (Project.readAs_written _)⟩

end Exchange

end SignalCatalog
