import SignalCatalog.Proofs.Editing.Storable
import SignalCatalog.Proofs.Project.Faults
import SignalCatalog.Proofs.Validation.Validity

/-!
# Names given by edits

Every edit that gives something a new name trims it and refuses an empty one, and a system cannot have
a dot in its name. In a project all of whose names were given so, the text of a core's identifier is
read back as that identifier, although the name of a core may have dots. This holds of every project
that is reached from a new one by edits, unless one of them puts another project in its place.
-/

namespace SignalCatalog

namespace Project

/-- Names as edits give them. -/
structure WellNamed (project : Project) : Prop where
  socs : ∀ soc ∈ project.socList, Text.Filled soc ∧ '.' ∉ soc.toList
  builds : ∀ build ∈ project.buildList, Text.Filled build
  cores : ∀ soc ∈ project.cores.entries, ∀ core ∈ soc.2.keys, Text.Filled core
  signals : ∀ name ∈ project.signals.keys, Text.Filled name

theorem wellNamed_template (today : Date) : (template today).WellNamed where
  socs := by
    intro soc hsoc
    rw [List.mem_singleton.mp hsoc]
    decide
  builds := by
    intro build hbuild
    rw [List.mem_singleton.mp hbuild]
    decide
  cores := fun _ hsoc => False.elim (List.not_mem_nil hsoc)
  signals := fun _ hname => False.elim (List.not_mem_nil hname)

variable {project edited : Project}

namespace WellNamed

/-- Names are all that counts. -/
theorem of_eq (h : project.WellNamed) (hsocs : edited.socList = project.socList)
    (hbuilds : edited.buildList = project.buildList) (hcores : edited.cores = project.cores)
    (hsignals : edited.signals.keys = project.signals.keys) : edited.WellNamed where
  socs := by rw [hsocs]; exact h.socs
  builds := by rw [hbuilds]; exact h.builds
  cores := by rw [hcores]; exact h.cores
  signals := by rw [hsignals]; exact h.signals

theorem withSignals (h : project.WellNamed) {signals : OrderedMap Signal}
    (hsignals : ∀ name ∈ signals.keys, Text.Filled name) :
    { project with signals := signals }.WellNamed :=
  ⟨h.socs, h.builds, h.cores, hsignals⟩

theorem coresOf (h : project.WellNamed) (soc : String) :
    ∀ core ∈ (project.coresOf soc).keys, Text.Filled core := by
  unfold Project.coresOf
  cases hcores : project.cores.get? soc with
  | none => exact fun _ hcore => False.elim (List.not_mem_nil hcore)
  | some cores => exact h.cores (soc, cores) (Entries.mem_of_get? hcores)

theorem withCores (h : project.WellNamed) {cores : OrderedMap Core}
    (hcores : ∀ core ∈ cores.keys, Text.Filled core) (soc : String) :
    { project with cores := project.cores.insert soc cores }.WellNamed where
  socs := h.socs
  builds := h.builds
  cores := OrderedMap.forall_insert
    (P := fun cores : OrderedMap Core => ∀ core ∈ cores.keys, Text.Filled core) h.cores hcores
  signals := h.signals

theorem clearDestination (h : project.WellNamed) (id : CoreId) :
    (project.clearDestination id).WellNamed :=
  h.of_eq rfl rfl rfl (OrderedMap.keys_mapValues _ _)

theorem clearDestinations (cores : List CoreId) (h : project.WellNamed) :
    (cores.foldl Project.clearDestination project).WellNamed := by
  induction cores generalizing project with
  | nil => exact h
  | cons id rest ih => exact ih (h.clearDestination id)

end WellNamed

end Project

/-! ## Runs -/

/-- An edit that does not replace the project gives names as they should be. -/
theorem Edit.wellNamed_run {edit : Edit} {project edited : Project} (hr : edit.replaces = false)
    (hp : project.WellNamed) (h : edit.run project = .ok edited) : edited.WellNamed := by
  cases edit with
  | addSignal name signal =>
    obtain ⟨hname, _, rfl⟩ := Project.addSignal_ok h
    exact hp.withSignals (OrderedMap.forall_keys_insert hp.signals (Text.filled_trimmed hname))
  | deleteSignal name =>
    obtain ⟨_, rfl⟩ := Project.deleteSignal_ok h
    exact hp.withSignals (OrderedMap.forall_keys_erase hp.signals)
  | renameSignal name newName =>
    obtain ⟨hname, _, _, rfl⟩ := Project.renameSignal_ok h
    exact hp.withSignals (OrderedMap.forall_keys_rekey hp.signals (Text.filled_trimmed hname))
  | updateSignal name signal =>
    obtain ⟨hold, rfl⟩ := Project.updateSignal_ok h
    obtain ⟨old, hget⟩ := Option.isSome_iff_exists.mp hold
    have hname := hp.signals name (Entries.mem_keys_of_mem (Entries.mem_of_get? hget))
    exact hp.withSignals (OrderedMap.forall_keys_insert hp.signals hname)
  | setSocType soc =>
    obtain ⟨_, rfl⟩ := Project.setSocType_ok h
    exact hp.of_eq rfl rfl rfl rfl
  | setBuildType build =>
    obtain ⟨_, rfl⟩ := Project.setBuildType_ok h
    exact hp.of_eq rfl rfl rfl rfl
  | replaceProject replacement => cases hr
  | addSoc name =>
    obtain ⟨hname, hdot, _, rfl⟩ := Project.addSoc_ok h
    refine ⟨?_, hp.builds, hp.cores, hp.signals⟩
    intro soc hsoc
    rcases List.mem_append.mp hsoc with hsoc | hsoc
    · exact hp.socs soc hsoc
    · rw [List.mem_singleton.mp hsoc]
      exact ⟨Text.filled_trimmed hname, hdot⟩
  | removeSoc name =>
    obtain ⟨_, _, _, rfl⟩ := Project.removeSoc_ok h
    apply Project.WellNamed.clearDestinations
    exact ⟨fun soc hsoc => hp.socs soc (List.mem_of_mem_erase hsoc), hp.builds,
      fun soc hsoc => hp.cores soc (Entries.mem_erase hsoc), hp.signals⟩
  | addBuildType name =>
    obtain ⟨hname, _, rfl⟩ := Project.addBuildType_ok h
    refine ⟨hp.socs, ?_, hp.cores, hp.signals⟩
    intro build hbuild
    rcases List.mem_append.mp hbuild with hbuild | hbuild
    · exact hp.builds build hbuild
    · rw [List.mem_singleton.mp hbuild]
      exact Text.filled_trimmed hname
  | removeBuildType name =>
    obtain ⟨_, _, rfl⟩ := Project.removeBuildType_ok h
    exact ⟨hp.socs, fun build hbuild => hp.builds build (List.mem_of_mem_erase hbuild), hp.cores,
      hp.signals⟩
  | addCore soc name core =>
    obtain ⟨_, hname, _, rfl⟩ := Project.addCore_ok h
    exact hp.withCores
      (OrderedMap.forall_keys_insert (hp.coresOf soc) (Text.filled_trimmed hname)) soc
  | updateCore id core =>
    obtain ⟨hcore, rfl⟩ := Project.updateCore_ok h
    refine hp.withCores (OrderedMap.forall_keys_insert (hp.coresOf id.soc) ?_) id.soc
    obtain ⟨soc, hsoc, hid⟩ := List.mem_flatMap.mp (Project.mem_availableCores_iff.mpr hcore)
    obtain ⟨name, hname, rfl⟩ := List.mem_map.mp hid
    exact hp.cores soc hsoc name hname
  | removeCore id =>
    obtain ⟨_, _, rfl⟩ := Project.removeCore_ok h
    exact (hp.withCores (OrderedMap.forall_keys_erase (hp.coresOf id.soc)) id.soc).clearDestination id
  | _ =>
    -- The other edits give no names.
    rw [← Except.ok.inj h]
    exact hp.of_eq rfl rfl rfl rfl

namespace Editor

/-- All projects of the history have good names and repaired lists. -/
def WellNamed (editor : Editor) : Prop :=
  ∀ reached ∈ editor.history.toList, reached.WellNamed ∧ reached.Repaired

theorem WellNamed.handle {editor : Editor} {request : Request} (h : editor.WellNamed)
    (hr : request.replaces = false) : (editor.handle request).WellNamed := by
  intro reached hreached
  rcases mem_handle hreached with hold | ⟨command, edit, rfl, hedit, happly⟩ | rfl
  · exact h reached hold
  · obtain ⟨hnamed, hrepaired⟩ := h editor.project editor.project_mem
    exact ⟨Edit.wellNamed_run (editOf?_replaces hr hedit) hnamed (Edit.apply_ok happly).1,
      Edit.repaired_apply hrepaired happly⟩
  · cases hr

theorem wellNamed_handleAll (today : Date) {requests : List Request}
    (hr : ∀ request ∈ requests, request.replaces = false) :
    ((start (.template today)).handleAll requests).WellNamed := by
  have hstart : (start (.template today)).WellNamed := by
    intro reached hreached
    obtain rfl : reached = .template today := by
      simpa [start, History.start, History.toList] using hreached
    exact ⟨Project.wellNamed_template today, Project.repaired_template today⟩
  exact @handleAll_induct WellNamed _ _ hstart fun _ h request hm => h.handle (hr request hm)

end Editor

/-! ## Sources -/

/-- The place of the source tells which signal it is the source of. -/
theorem Issue.signalField_inj {name other field : String}
    (h : signalField name field = signalField other field) : name = other := by
  rw [← String.toList_inj]
  simpa [signalField, ← String.toList_inj] using h

namespace Project

variable {project : Project} {id other : CoreId}

/-- Identifiers are read back although the names of cores may have dots. -/
theorem WellNamed.ofText?_text (h : project.WellNamed) (hrepaired : project.Repaired)
    (hid : id ∈ project.availableCores) : CoreId.ofText? id.text = some id := by
  obtain ⟨⟨soc, cores⟩, hcores, hmem⟩ := List.mem_flatMap.mp hid
  obtain ⟨core, hcore, rfl⟩ := List.mem_map.mp hmem
  obtain ⟨hsoc, hdot⟩ := h.socs soc (hrepaired.cores soc (Entries.mem_keys_of_mem hcores))
  have hname : Text.Filled core := h.cores (soc, cores) hcores core hcore
  rw [CoreId.ofText?_eq_some_iff]
  exact ⟨(Text.filled_append hsoc hname ".").trimmed_eq, hdot, hsoc.1, hname.1⟩

/-- A signal with a known source breaks no rule about unknown ones. -/
theorem unknownSource_notMem {name : String} {signal : Signal}
    (hid : CoreId.ofText? signal.source = some id) (hcore : id ∈ project.availableCores)
    (reported source : String) :
    Violation.unknownSource reported source ∉ project.signalViolations name signal := by
  intro h
  rw [mem_signalViolations_iff] at h
  cases h with
  | source _ hnone =>
    have hfalse := hnone id hid
    rw [mem_availableCores_iff.mp hcore] at hfalse
    cases hfalse

/-- An issue of an unknown source is about a signal of the project that breaks the rule. -/
theorem exists_of_unknownSource {today : Date} {baseline : Option String} {issue : Issue}
    (h : issue ∈ project.issues today baseline) (hcode : issue.code = .unknownSource) :
    ∃ name signal, (name, signal) ∈ project.signals.entries ∧
      issue.field = Issue.signalField name "Source" ∧
      .unknownSource name signal.source ∈ project.signalViolations name signal := by
  rw [issues_eq, List.mem_append, List.mem_append] at h
  rcases h with (hmetadata | hviolation) | hadvice
  · have hfault := Metadata.mem_codes_iff.mp (List.mem_map_of_mem hmetadata)
    rw [hcode] at hfault
    cases hfault
  · obtain ⟨violation, hmem, rfl⟩ := List.mem_map.mp hviolation
    rcases List.mem_append.mp hmem with hlists | hsignals
    · rw [mem_structuralViolations_iff] at hlists
      cases hlists <;> cases hcode
    · obtain ⟨⟨name, signal⟩, hentry, hbroken⟩ := List.mem_flatMap.mp hsignals
      have hfault := mem_signalViolations_iff.mp hbroken
      cases hfault with
      | source => exact ⟨name, signal, hentry, rfl, hbroken⟩
      | _ => cases hcode
  · have hquiet := isError_of_mem_advice project issue hadvice
    rw [Issue.isError, Issue.severity, hcode] at hquiet
    cases hquiet

end Project

/-- Whatever is edited, copied, pasted, undone and redone in a new project, accepted or refused, unless
another project takes its place: in every project of the history all names are filled, those of systems
are distinct and have no dots, and those of build types are distinct. So the text of every core is read
back as that core, no two cores have the same text, and a signal that has the text of a core as its
source is not said to have an unknown source, neither by the rules nor in the validation. -/
theorem Editor.cores_as_sources (today : Date) (requests : List Request)
    (edits : ∀ request ∈ requests, request.replaces = false) :
    ∀ reached ∈ ((start (.template today)).handleAll requests).history.toList,
      (reached.socList.Nodup ∧ ∀ soc ∈ reached.socList, Text.Filled soc ∧ '.' ∉ soc.toList) ∧
      (reached.buildList.Nodup ∧ ∀ build ∈ reached.buildList, Text.Filled build) ∧
      (∀ soc ∈ reached.cores.entries, soc.1 ∈ reached.socList ∧
        ∀ core ∈ soc.2.keys, Text.Filled core) ∧
      (∀ name ∈ reached.signals.keys, Text.Filled name) ∧
      (∀ id ∈ reached.availableCores, CoreId.ofText? id.text = some id) ∧
      (∀ id ∈ reached.availableCores, ∀ other ∈ reached.availableCores,
        id.text = other.text → id = other) ∧
      ∀ id ∈ reached.availableCores, ∀ name signal, signal.source = id.text →
        (∀ reported source,
          .unknownSource reported source ∉ reached.signalViolations name signal) ∧
        ((name, signal) ∈ reached.signals.entries → ∀ day baseline,
          ∀ issue ∈ reached.issues day baseline, issue.code = .unknownSource →
            issue.field ≠ Issue.signalField name "Source") := by
  intro reached hreached
  obtain ⟨hnamed, hrepaired⟩ := wellNamed_handleAll today edits reached hreached
  have hread : ∀ id ∈ reached.availableCores, CoreId.ofText? id.text = some id :=
    fun id hid => hnamed.ofText?_text hrepaired hid
  refine ⟨⟨hrepaired.socs, hnamed.socs⟩, ⟨hrepaired.builds, hnamed.builds⟩,
    fun soc hsoc => ⟨hrepaired.cores soc.1 (Entries.mem_keys_of_mem hsoc), hnamed.cores soc hsoc⟩,
    hnamed.signals, hread, ?_, ?_⟩
  · intro id hid other hother htext
    have hsame := hread id hid
    rw [htext, hread other hother] at hsame
    exact (Option.some.inj hsame).symm
  · intro id hid name signal hsource
    have hknown : CoreId.ofText? signal.source = some id := by rw [hsource, hread id hid]
    refine ⟨Project.unknownSource_notMem hknown hid, ?_⟩
    intro hentry day baseline issue hissue hcode hfield
    obtain ⟨broken, other, hother, hplace, hviolation⟩ :=
      Project.exists_of_unknownSource hissue hcode
    have hname : broken = name := Issue.signalField_inj (hplace.symm.trans hfield)
    have hentries := Entries.eq_of_mem reached.signals.nodup hother hentry hname
    obtain ⟨rfl, rfl⟩ := Prod.mk.inj hentries
    exact Project.unknownSource_notMem hknown hid _ _ hviolation

/-- A core with dots in its name is the source of two signals. -/
theorem Editor.dottedCore_as_source :
    let requests : List Request :=
      [.command (.edit (.addSoc " SoC-A ")), .command (.edit (.addCore "SoC-A" "Main.1 " default)),
        .command (.edit (.addSignal "speed\n" { Signal.new "speed" with source := "SoC-A.Main.1" })),
        .command (.copySignal "speed"), .command .pasteSignal, .step .undo, .step .redo]
    let reached := ((start (.template .epoch)).handleAll requests).project
    (∀ request ∈ requests, request.replaces = false) ∧
    reached.signals.keys = ["speed", "speed_copy"] ∧
    reached.availableCores.map CoreId.text = ["SoC-A.Main.1"] ∧
    (∀ id ∈ reached.availableCores, CoreId.ofText? id.text = some id) ∧
    ∀ day baseline, ∀ issue ∈ reached.issues day baseline, issue.code = .unknownSource →
      issue.field ≠ Issue.signalField "speed" "Source" := by
  intro requests reached
  have edits : ∀ request ∈ requests, request.replaces = false := by decide
  obtain ⟨_, _, _, _, hread, _, hsources⟩ :=
    cores_as_sources .epoch requests edits reached (Editor.project_mem _)
  have hcore : (⟨"SoC-A", "Main.1"⟩ : CoreId) ∈ reached.availableCores := by decide +kernel
  refine ⟨edits, by decide +kernel, by decide +kernel, hread, ?_⟩
  exact (hsources _ hcore "speed" { Signal.new "speed" with source := "SoC-A.Main.1" } rfl).2
    (Entries.mem_of_get? (by rfl))

end SignalCatalog
