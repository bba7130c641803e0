import SignalCatalog.Proofs.Editing.Violations
import SignalCatalog.Proofs.Exchange.Carried
import SignalCatalog.Proofs.Exchange.Storable
import SignalCatalog.Proofs.Session.Desk
import SignalCatalog.Proofs.Workbook.Cells
import SignalCatalog.Session.Exchanging

/-!
# Imported projects are sound

Whatever a workbook holds, an accepted import gives a project whose lists are in order, whose numbers
are in their ranges and whose sources are empty or name a core that is no destination. Only members
are missing: the workbook has no place for them, so that every struct breaks the one rule that asks
for them. As the lists are in order, an imported project is never refused as a replacement.
-/

namespace SignalCatalog

namespace Signal

theorem Tabular.structViolations {signal : Signal} (h : signal.Tabular) (name : String) :
    signal.structViolations name =
      if signal.dataType = .struct then [.structWithoutMembers name] else [] := by
  have hdepth : ¬ StructField.maxDepth < signal.depth := by
    rw [depth, h.members]
    decide
  simp only [Signal.structViolations, h.members, List.isEmpty_nil, hdepth, if_false,
    List.append_nil, ← isStruct_iff]
  cases signal.isStruct <;> rfl

end Signal

namespace Exchange

variable {today : Date} {archive : Archive} {results : SheetResults} {project : Project}
  {findings : List Finding}

/-! ## Signals -/

theorem SignalRow.onStep_ranged (row : SignalRow) (columns : Columns) {range : FieldRange}
    (h : range.OnStep range.max) : range.OnStep (row.ranged columns range).1 := by
  unfold ranged
  dsimp only
  split
  · exact h.min
  · split
    · exact h.min
    · rename_i number _
      split <;> exact range.onStep_clamp h number

theorem SignalRow.tabular_read (row : SignalRow) (columns : Columns) :
    (row.read columns).1.Tabular where
  numbers := by
    have hfields : (row.read columns).1.rangedFields =
        FieldRange.all.map fun range => (range, (row.ranged columns range).1) := rfl
    intro field hf
    rw [hfields] at hf
    obtain ⟨range, hrange, rfl⟩ := List.mem_map.mp hf
    exact row.onStep_ranged columns (FieldRange.regular_of_mem_all range hrange).onStep_max
  members := rfl
  source := by
    have hsource : (row.read columns).1.source =
        (row.text? columns SignalColumn.source).getD "" := rfl
    rw [hsource]
    cases htext : row.text? columns SignalColumn.source with
    | none => decide
    | some text => exact (Cell.filled_of_text? htext).2

theorem tabular_readSignals (sheet : Option Sheet) :
    ∀ entry ∈ (readSignals sheet).1.entries, entry.2.Tabular := by
  cases sheet with
  | none => simp [readSignals]
  | some sheet =>
    unfold readSignals
    dsimp only
    split
    · simp
    · intro entry he
      obtain ⟨row, _, rfl⟩ := mem_readRows (Entries.mem_ofPairs he)
      exact row.tabular_read _

/-- A source is emptied, or it names one of the cores and its flag is off. -/
theorem repairSource_cases (cores : List CoreId) (name : String) (signal : Signal) :
    (repairSource cores name signal).1 = { signal with source := "" } ∨
    ∃ id destinations, CoreId.ofText? signal.source = some id ∧ id ∈ cores ∧
      (destinations.get? id.destinationKey).getD false = false ∧
      (repairSource cores name signal).1 = { signal with destinations } := by
  unfold repairSource
  split
  · rename_i hempty
    rw [← String.isEmpty_iff.mp hempty]
    exact Or.inl rfl
  · split
    · exact Or.inl rfl
    · rename_i id hid
      obtain ⟨hsource, hcore⟩ := Option.filter_eq_some_iff.mp hid
      simp only [Signal.sourceId?, Option.ite_none_left_eq_some] at hsource
      refine Or.inr ⟨id, ?_⟩
      split
      · refine ⟨signal.destinations.insert id.destinationKey false, hsource.2, by simpa using hcore,
          ?_, rfl⟩
        simp [OrderedMap.get?, OrderedMap.insert, Entries.get?_insert]
      · rename_i hflag
        exact ⟨signal.destinations, hsource.2, by simpa using hcore, by simpa using hflag, rfl⟩

theorem tabular_repairSource (cores : List CoreId) (name : String) {signal : Signal}
    (h : signal.Tabular) : (repairSource cores name signal).1.Tabular := by
  rcases repairSource_cases cores name signal with he | ⟨_, _, _, _, _, he⟩ <;> rw [he]
  · exact ⟨h.numbers, h.members, show Text.Trimmed "".toList by decide⟩
  · exact ⟨h.numbers, h.members, h.source⟩

/-- The source is empty or the identifier of a core that is no destination. -/
def Settled (project : Project) (signal : Signal) : Prop :=
  signal.source = "" ∨ ∃ id : CoreId, signal.source = id.text ∧
    CoreId.ofText? signal.source = some id ∧ project.hasCore id = true ∧
    signal.isDestination id.text = false

theorem settled_repairSource (project : Project) (name : String) {signal : Signal}
    (h : signal.Tabular) :
    Settled project (repairSource project.availableCores name signal).1 := by
  rcases repairSource_cases project.availableCores name signal with
    he | ⟨id, destinations, hsource, hcore, hflag, he⟩ <;> rw [he]
  · exact Or.inl rfl
  · refine Or.inr ⟨id, ?_, hsource, Project.mem_availableCores_iff.mp hcore, hflag⟩
    rw [← CoreId.text_of_ofText? hsource]
    exact (Text.trimmed_eq_self h.source).symm

theorem soundSource_of_settled {signal : Signal} (h : Settled project signal) :
    project.SoundSource signal := by
  rcases h with hempty | ⟨id, _, hsource, hcore, hflag⟩
  · exact Or.inl (by rw [hempty]; decide)
  · exact Or.inr ⟨id, hsource, hcore, hflag⟩

theorem signalViolations_of_settled {signal : Signal} (h : signal.Tabular)
    (hsettled : Settled project signal) (name : String) :
    project.signalViolations name signal =
      if signal.dataType = .struct then [.structWithoutMembers name] else [] := by
  rw [Project.signalViolations,
    (project.sourceViolations_eq_nil_iff name signal).mpr (soundSource_of_settled hsettled),
    h.structViolations, (signal.rangeViolations_eq_nil_iff name).mpr h.numbers, List.nil_append,
    List.append_nil]

/-! ## Lists -/

/-- No listed system has an empty name. -/
def Platform.Named (platform : Platform) : Prop := ∀ soc ∈ platform.socList, soc ≠ ""

theorem Platform.Named.addRow {platform : Platform} (h : platform.Named) (titles : Titles)
    (row : Row) : (platform.addRow titles row).Named := by
  unfold Platform.addRow
  dsimp only
  split
  · rename_i id hid
    intro soc hsoc
    rcases Project.mem_listed.mp hsoc with hsoc | rfl
    · exact h soc hsoc
    · unfold coreIdOf? at hid
      split at hid
      · rename_i soc core hsoc _
        rw [← Option.some.inj hid]
        exact (Cell.filled_of_text? hsoc).1
      · simp at hid
  · exact h

theorem named_readPlatform (sheet : Option Sheet) : (readPlatform sheet).Named := by
  cases sheet with
  | none => simp [readPlatform, Platform.Named, Platform.empty]
  | some sheet =>
    refine List.foldlRecOn _ _ ?_ fun platform h row _ => h.addRow sheet.titles row.1
    intro soc hsoc
    exact (Cell.filled_of_text? (Option.mem_toList.mp hsoc)).1

theorem orElse_ne_empty {text other : String} (h : other ≠ "") : orElse text other ≠ "" := by
  unfold orElse
  split
  · exact h
  · rename_i hempty
    simpa using hempty

/-- With both selections made, the repaired lists break no rule. -/
theorem structuralViolations_assemble {metadata : Metadata} {platform : Platform}
    {signals : OrderedMap Signal} (h : platform.Named) :
    (assemble metadata platform signals).structuralViolations = [] := by
  have hfirst : platform.socList.head?.getD defaultSoc ≠ "" := by
    cases hlist : platform.socList with
    | nil => decide
    | cons soc rest => exact h soc (by rw [hlist]; exact List.mem_cons_self)
  have hrepaired : (assemble metadata platform signals).Repaired := Project.repaired_normalize _
  rw [Project.structuralViolations_eq_nil_iff]
  exact ⟨hrepaired.soc.resolve_left (orElse_ne_empty hfirst),
    hrepaired.build.resolve_left (orElse_ne_empty (by decide)), hrepaired.socs, hrepaired.builds,
    hrepaired.cores⟩

/-! ## Projects -/

/-- An accepted import gives a project without structural violations whose signals are settled. -/
theorem settled_importSheets (h : importSheets today results = .ok (project, findings)) :
    project.structuralViolations = [] ∧
      ∀ entry ∈ project.signals.entries, entry.2.Tabular ∧ Settled project entry.2 := by
  obtain ⟨version, config, table, rfl⟩ := importSheets_ok h
  refine ⟨structuralViolations_assemble (named_readPlatform config), ?_⟩
  intro entry he
  obtain ⟨old, hold, rfl⟩ := List.mem_map.mp he
  have htabular : old.2.Tabular := tabular_readSignals table old hold
  exact ⟨tabular_repairSource _ _ htabular, settled_repairSource _ old.1 htabular⟩

theorem importArchive_ok (h : importArchive today archive = .ok (project, findings)) :
    ∃ results, importSheets today results = .ok (project, findings) := by
  unfold importArchive at h
  split at h
  · simp at h
  · rename_i results _
    split at h
    · simp at h
    · rename_i outcome houtcome
      exact ⟨results, by rw [houtcome, Except.ok.inj h]⟩

/-- Whatever a workbook file holds, an import that succeeds has accepted an archive. -/
theorem importBook_ok {disk : Disk} {path : String}
    (h : (disk.importBook today path).1 = .ok (project, findings)) :
    ∃ archive, importArchive today archive = .ok (project, findings) := by
  unfold Disk.importBook at h
  split at h
  · simp at h
  · split at h
    · simp at h
    · rename_i archive _
      refine ⟨archive, ?_⟩
      unfold importReported at h
      split at h
      · simp at h
      · rename_i reported _ _ hreported
        split at hreported
        · rename_i outcome
          simp only [Prod.mk.injEq, Except.ok.injEq] at hreported h
          rw [outcome, hreported.1.1, hreported.1.2, h.1, h.2]
        · simp at hreported
        · simp at hreported

end Exchange

/-- A project without structural violations may replace any other. -/
theorem Edit.apply_replaceProject {replacement : Project}
    (h : replacement.structuralViolations = []) (project : Project) :
    (Edit.replaceProject replacement).apply project = .ok replacement := by
  simp [Edit.apply, Edit.run, Edit.violations, h, bind, Except.bind]

namespace Desk

variable {project : Project}

theorem apply_replaceProject (h : project.structuralViolations = []) (desk : Desk) :
    ∃ replaced, desk.apply (.edit (.replaceProject project)) = .ok replaced ∧
      replaced.project = project := by
  have hrun : desk.session.editor.apply (.edit (.replaceProject project)) =
      .ok (desk.session.editor.commit project) := by
    simp [Editor.apply, Editor.run, Edit.apply_replaceProject h, Except.map]
  exact ⟨_, by rw [Desk.apply, hrun, Except.map], by simp [Desk.project, Session.project,
    Editor.project, History.commit]⟩

/-- Installing a project without structural violations succeeds. -/
theorem installImport_ok (h : project.structuralViolations = []) (desk : Desk) :
    (desk.installImport project).1 = .ok () := by
  obtain ⟨replaced, happly, _⟩ := desk.apply_replaceProject h
  rw [installImport, happly]

/-- No rule of editing ever refuses what was imported. -/
theorem importBook_ne_edit (desk : Desk) (world : World) (path : String) (cause : EditError) :
    (desk.importBook world path).1 ≠ .error (.edit cause) := by
  unfold importBook
  split
  · simp
  · rename_i project findings events himport
    obtain ⟨archive, harchive⟩ := Exchange.importBook_ok (congrArg Prod.fst himport)
    obtain ⟨_, hsheets⟩ := Exchange.importArchive_ok harchive
    have hlists := (Exchange.settled_importSheets hsheets).1
    dsimp only
    rw [installImport_ok hlists]
    simp [Except.map]

end Desk

/-- What an accepted import gives breaks no rule but the one that structs have members, and any
session takes it over. -/
theorem Exchange.sound_importArchive {today : Date} {archive : Archive} {project : Project}
    {findings : List Finding} (h : importArchive today archive = .ok (project, findings)) :
    project.structuralViolations = [] ∧
    (∀ name signal, (name, signal) ∈ project.signals.entries →
      signal.InRange ∧
      (signal.source = "" ∨ ∃ id : CoreId, signal.source = id.text ∧
        CoreId.ofText? signal.source = some id ∧ project.hasCore id = true ∧
        signal.isDestination id.text = false) ∧
      project.signalViolations name signal =
        if signal.dataType = .struct then [.structWithoutMembers name] else []) ∧
    (∀ desk : Desk, ∃ replaced, desk.apply (.edit (.replaceProject project)) = .ok replaced ∧
      replaced.project = project) ∧
    ∀ (desk : Desk) (world : World) (path : String) (cause : EditError),
      (desk.importBook world path).1 ≠ .error (.edit cause) := by
  obtain ⟨_, hsheets⟩ := importArchive_ok h
  obtain ⟨hlists, hsignals⟩ := settled_importSheets hsheets
  refine ⟨hlists, ?_, fun desk => desk.apply_replaceProject hlists, Desk.importBook_ne_edit⟩
  intro name signal hsignal
  obtain ⟨htabular, hsettled⟩ := hsignals _ hsignal
  exact ⟨htabular.numbers, hsettled, signalViolations_of_settled htabular hsettled name⟩

set_option maxRecDepth 20000 in
/-- A struct from a core that is nowhere listed: the source is emptied, the missing members stay. -/
theorem Exchange.sound_importArchive_struct :
    let archive := Archive.ofPairs
      [("xl/workbook.xml", .text "<w><sheets><sheet name='LookUpTable'/></sheets></w>"),
        ("xl/worksheets/sheet1.xml", .text ("<w><sheetData><row><c t='str'><v>Data_Type</v></c>" ++
          "<c t='str'><v>Source</v></c><c t='str'><v>DataType</v></c></row>" ++
          "<row><c t='str'><v>speed</v></c><c t='str'><v>A.B</v></c>" ++
          "<c t='str'><v>STRUCT</v></c></row></sheetData></w>"))]
    ∃ project findings, importArchive .epoch archive = .ok (project, findings) ∧
      findings.map Finding.cause =
        [.structWithoutMembers "speed", .unknownSource "speed" "A.B"] ∧
      project.structuralViolations = [] ∧
      ∃ signal, (("speed", signal) ∈ project.signals.entries) ∧ signal.source = "" ∧
        project.signalViolations "speed" signal = [.structWithoutMembers "speed"] := by
  intro archive
  have hread : (importArchive .epoch archive).toOption.map (fun outcome =>
      (outcome.2.map Finding.cause, (outcome.1.signals.get? "speed").map fun signal =>
        (signal.source, decide (signal.dataType = .struct)))) =
      some ([.structWithoutMembers "speed", .unknownSource "speed" "A.B"],
        some ("", true)) := by decide +kernel
  cases himport : importArchive .epoch archive with
  | error error => simp [himport, Except.toOption] at hread
  | ok outcome =>
    obtain ⟨project, findings⟩ := outcome
    simp only [himport, Except.toOption, Option.map_some, Option.some.injEq, Prod.mk.injEq,
      Option.map_eq_some_iff, decide_eq_true_eq] at hread
    obtain ⟨hfindings, signal, hget, hsource, hstruct⟩ := hread
    have hmem := Entries.mem_of_get? hget
    obtain ⟨hlists, hsignals, _⟩ := sound_importArchive himport
    refine ⟨project, findings, rfl, hfindings, hlists, signal, hmem, hsource, ?_⟩
    rw [(hsignals _ _ hmem).2.2, if_pos hstruct]

end SignalCatalog
