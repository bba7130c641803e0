import Mathlib.Data.List.Forall2
import SignalCatalog.Proofs.Exchange.Signals

/-!
# An exported project is imported again

The three sheets are found by their names and read back, the lists need no repair, and no source does
either, because the sources of a legible project are in order. So the import gives what the workbook
carries, and it finds nothing but structs without members.
-/

namespace SignalCatalog

open Exchange

namespace Project

variable {project : Project}

theorem availableCores_populated (project : Project) :
    (project.populated.entries.flatMap fun (soc, cores) =>
      cores.keys.map fun core => (⟨soc, core⟩ : CoreId)) = project.availableCores := by
  unfold populated OrderedMap.filter availableCores
  dsimp only
  induction project.cores.entries with
  | nil => rfl
  | cons entry rest ih =>
    cases hempty : entry.2.isEmpty with
    | true =>
      have hnone : entry.2.keys = [] := by
        rw [OrderedMap.isEmpty, List.isEmpty_iff] at hempty
        simp [OrderedMap.keys, hempty]
      simp [hempty, ih, hnone]
    | false => simp [hempty, ih]

theorem repaired_carried (project : Project) : project.carried.Repaired where
  socs := by
    refine List.nodup_cons.mpr ⟨by simp, ?_⟩
    exact List.Nodup.sublist List.filter_sublist project.populated.nodup
  builds := List.nodup_singleton project.buildType
  soc := Or.inr List.mem_cons_self
  build := Or.inr List.mem_cons_self
  cores := by
    intro soc hsoc
    by_cases he : soc = project.socType
    · rw [he]
      exact List.mem_cons_self
    · exact List.mem_cons_of_mem _ (List.mem_filter.mpr ⟨hsoc, by simpa using he⟩)

/-- The source of a carried signal is in order. -/
theorem repairSource_carried (hp : project.Legible) {entry : String × Signal}
    (he : entry ∈ project.signals.entries) :
    repairSource project.availableCores entry.1 (entry.2.carried project.availableCores) =
      (entry.2.carried project.availableCores, []) := by
  have hsource := hp.sources entry he
  have htrimmed := Text.trimmed_eq_self (hp.signals entry he).source
  rcases hsource with hblank | ⟨id, hid, hcore, hflag⟩
  · have hempty : (entry.2.carried project.availableCores).source = "" := htrimmed.symm.trans hblank
    simp [repairSource, hempty]
  · have hne : ¬ Text.trimmed entry.2.source = "" := by
      intro hempty
      rw [CoreId.text_of_ofText? hid] at hempty
      have hdot := dot_mem_text id
      simp [hempty] at hdot
    have hsourceId : (entry.2.carried project.availableCores).sourceId? = some id :=
      (sourceId?_of_not_blank hne).trans hid
    have havailable := mem_availableCores_iff.mpr hcore
    have hcleared := entry.2.isDestination_carried havailable
    rw [hflag, Signal.isDestination] at hcleared
    have hsome : (entry.2.carried project.availableCores).source.isEmpty = false := by
      rw [String.isEmpty_eq_false_iff]
      exact fun hempty => hne (htrimmed.trans hempty)
    have hkept : (some id).filter (fun id => project.availableCores.contains id) = some id := by
      simp [havailable]
    simp only [repairSource, hsome, hsourceId, hkept, CoreId.destinationKey, hcleared,
      Bool.false_eq_true, if_false]

/-- The parts that are read make up the carried project. -/
theorem assemble_carried (hp : project.Legible) :
    assemble project.metadata
      ⟨project.socType, project.buildType,
        project.socType :: project.populated.keys.filter fun soc => decide (soc ≠ project.socType),
        [project.buildType], project.populated, project.exportSheet⟩
      (project.signals.mapValues fun _ signal => signal.carried project.availableCores) =
      project.carried := by
  have hsoc : project.socType.isEmpty = false := String.isEmpty_eq_false_iff.mpr hp.socType.1
  have hbuild : project.buildType.isEmpty = false := String.isEmpty_eq_false_iff.mpr hp.buildType.1
  simp only [assemble, orElse, hsoc, hbuild, Bool.false_eq_true, if_false]
  exact project.repaired_carried.normalize_eq

theorem repairSources_carried (hp : project.Legible) :
    repairSources project.carried = (project.carried, []) := by
  have hcores : project.carried.availableCores = project.availableCores :=
    project.availableCores_populated
  have hentry : ∀ entry ∈ project.carried.signals.entries,
      repairSource project.availableCores entry.1 entry.2 = (entry.2, []) := by
    intro entry he
    obtain ⟨old, hold, rfl⟩ := List.mem_map.mp he
    exact repairSource_carried hp hold
  have hsignals : (project.carried.signals.mapValues fun name signal =>
      (repairSource project.availableCores name signal).1) = project.carried.signals := by
    apply OrderedMap.ext
    refine (List.map_congr_left fun entry he => ?_).trans (List.map_id _)
    simp [hentry entry he]
  have hfindings : (project.carried.signals.entries.flatMap fun entry =>
      (repairSource project.availableCores entry.1 entry.2).2.map fun cause =>
        (⟨Exchange.signalSheet, none, cause⟩ : Finding)) = [] := by
    rw [List.flatMap_eq_nil_iff]
    intro entry he
    simp [hentry entry he]
  simp only [repairSources, hcores, hsignals]
  exact Prod.ext rfl hfindings

/-- The platform sheet is found under any name that is not one of the other two. -/
theorem platformSheet?_eq {name : String} (hversion : name ≠ Exchange.versionSheet)
    (hsignal : name ≠ Exchange.signalSheet) (first second third : Except PartError Sheet) :
    platformSheet? [(Exchange.versionSheet, first), (name, second), (Exchange.signalSheet, third)] =
      some name := by
  by_cases hdefault : name = defaultExportSheet
  · simp [platformSheet?, hdefault]
  · have hversionDefault : Exchange.versionSheet ≠ defaultExportSheet := by decide
    have hsignalDefault : Exchange.signalSheet ≠ defaultExportSheet := by decide
    simp [platformSheet?, Ne.symm hdefault, hversionDefault.symm, hsignalDefault.symm, hversion,
      hsignal]

/-- The sheets of the workbook are found by their names. -/
theorem takeSheets_named
    (hsheet : project.exportSheet ≠ Exchange.versionSheet ∧
      project.exportSheet ≠ Exchange.signalSheet)
    {results : SheetResults} (hr : project.workbook.ReadAs results) :
    ∃ version platform signals : Sheet,
      takeSheets results = ((some version, []), (some platform, []), (some signals, [])) ∧
      version.Shows project.versionSheet ∧ platform.Shows project.platformSheet ∧
      signals.Shows project.signalSheet := by
  obtain ⟨hversion, hsignal⟩ := hsheet
  have hplatformName : project.platformSheet.name = project.exportSheet := by
    rw [platformSheet, name_setRows, name_setRows]
    rfl
  have hsignalName : project.signalSheet.name = Exchange.signalSheet := by
    rw [signalSheet, name_setRows]
    rfl
  obtain ⟨⟨name₁, _⟩, _, ⟨rfl, version, rfl, hversionShown⟩, hr₁, rfl⟩ :=
    List.forall₂_cons_left_iff.mp hr
  obtain ⟨⟨name₂, _⟩, _, ⟨rfl, platform, rfl, hplatformShown⟩, hr₂, rfl⟩ :=
    List.forall₂_cons_left_iff.mp hr₁
  obtain ⟨⟨name₃, _⟩, _, ⟨rfl, signals, rfl, hsignalShown⟩, hr₃, rfl⟩ :=
    List.forall₂_cons_left_iff.mp hr₂
  rw [List.forall₂_nil_left_iff] at hr₃
  refine ⟨version, platform, signals, ?_, hversionShown, hplatformShown, hsignalShown⟩
  have hversionName : project.versionSheet.name = Exchange.versionSheet := rfl
  have hfound := platformSheet?_eq hversion hsignal (.ok version) (.ok platform) (.ok signals)
  have hdistinct : Exchange.versionSheet ≠ Exchange.signalSheet := by decide
  rw [hr₃, hversionName, hplatformName, hsignalName, takeSheets, hfound]
  simp [take, Entries.get?, hversion.symm, hsignal, hdistinct]

/-- Importing the exported workbook gives what it carries, and finds structs without members. -/
theorem import_legible (hp : project.Legible) (today : Date) {results : SheetResults}
    (hr : project.workbook.ReadAs results) :
    importSheets today results = .ok (project.carried, project.notices) := by
  obtain ⟨version, platform, signals, hsheets, hversion, hplatform, hsignals⟩ :=
    takeSheets_named hp.sheet hr
  have hsoc : project.socType.isEmpty = false := String.isEmpty_eq_false_iff.mpr hp.socType.1
  simp only [importSheets, hsheets, readVersion_shown hversion hp, readPlatform_shown hplatform hp,
    readSignals_shown hsignals hp, hsoc, assemble_carried hp, repairSources_carried hp,
    List.append_nil, List.nil_append, Bool.false_and, Bool.false_eq_true, if_false]

/-- Importing the exported workbook gives what it carries, without findings, and every available
core is a destination of a signal exactly if it was one. -/
theorem import_export (project : Project) (hp : project.Portable) (today : Date)
    (results : SheetResults) (hr : project.workbook.ReadAs results) :
    importSheets today results = .ok (project.carried, []) ∧
      ∀ entry ∈ project.signals.entries, ∀ id ∈ project.availableCores,
        (entry.2.carried project.availableCores).isDestination id.text =
          entry.2.isDestination id.text := by
  refine ⟨?_, fun entry _ id hid => entry.2.isDestination_carried hid⟩
  rw [import_legible hp.legible today hr, hp.notices_eq_nil]

theorem readAs_written (workbook : Workbook) :
    workbook.ReadAs (workbook.sheets.map fun sheet => (sheet.name, .ok sheet)) := by
  unfold Workbook.ReadAs
  rw [List.forall₂_map_right_iff, List.forall₂_same]
  exact fun sheet _ => ⟨rfl, sheet, rfl, ⟨rfl, fun _ _ => rfl⟩⟩

/-- A project with a signal from one core to the other. -/
def twoCores : Project :=
  { template .epoch with
    metadata := { Metadata.new .epoch with description := "Two cores" }
    cores := .ofPairs [("Windows", .ofPairs [("Main", .described "First"), ("Aux", default)])]
    signals := .ofPairs [("speed", { Signal.new "speed" with
      source := "Windows.Main"
      destinations := .ofPairs [("core_Windows_Aux", true)] })] }

theorem portable_twoCores : twoCores.Portable where
  sound := by decide
  version := by decide
  editor := by decide
  description := by decide
  metadataExtra := rfl
  socType := by decide
  buildType := by decide
  socs := by decide
  coreNames := by
    intro soc hsoc
    rw [List.mem_singleton.mp hsoc]
    decide
  cores := by
    intro soc hsoc entry he
    rw [List.mem_singleton.mp hsoc] at he
    have hnames : entry = ("Main", .described "First") ∨ entry = ("Aux", default) := by
      simpa using Entries.mem_ofPairs he
    rcases hnames with rfl | rfl
    · exact ⟨by decide, by decide, by decide, rfl⟩
    · exact ⟨by decide, by decide, by decide, rfl⟩
  signalNames := by decide
  signals := by
    intro entry he
    rw [List.mem_singleton.mp he]
    exact ⟨by decide, by decide, by decide, DataType.written_default, by decide, rfl, rfl⟩
  sheet := by decide

theorem import_export_twoCores :
    let results : SheetResults := twoCores.workbook.sheets.map fun sheet => (sheet.name, .ok sheet)
    twoCores.Portable ∧ twoCores.workbook.ReadAs results ∧
      importSheets .epoch results = .ok (twoCores.carried, []) := by
  intro results
  have hread : twoCores.workbook.ReadAs results := readAs_written twoCores.workbook
  exact ⟨portable_twoCores, hread, (import_export twoCores portable_twoCores .epoch results hread).1⟩

end Project

end SignalCatalog
