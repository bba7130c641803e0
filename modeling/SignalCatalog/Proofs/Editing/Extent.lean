import SignalCatalog.Proofs.Editing.Splicing

/-!
# How far an edit reaches

An accepted edit changes its own part of the project and nothing else: one entry of the catalog or of
the platform where it stands, or one of the parts that are replaced as a whole. Only the removal of
cores reaches into the signals, from which the flags of these cores go. What no edit speaks about,
such as unknown keys, is in every project of a history what it was in the first.
-/

namespace SignalCatalog

/-! ## One place of a list or a map -/

/-- An item has gone from a list, and all others stand in their order. -/
def Removed {α : Type} (item : α) (before after : List α) : Prop :=
  ∃ front back, before = front ++ item :: back ∧ after = front ++ back

/-- An item stands in the place of another, and all others stand where they were. -/
def Replaced {α : Type} (old new : α) (before after : List α) : Prop :=
  ∃ front back, before = front ++ old :: back ∧ after = front ++ new :: back

theorem removed_erase {item : String} {list : List String} (h : item ∈ list) :
    Removed item list (list.erase item) := by
  obtain ⟨front, back, _, hlist, herase⟩ := List.exists_erase_eq h
  exact ⟨front, back, hlist, herase⟩

namespace OrderedMap

variable {α : Type} {map : OrderedMap α} {key newKey : String} {value old new : α}
  {P : α → α → Prop}

/-- The entry of a key has gone from a map. -/
def Lost (key : String) (before after : OrderedMap α) : Prop :=
  ∃ value, Removed (key, value) before.entries after.entries

/-- The entry of a key has a new key and a new value where it stands. -/
def Changed (key newKey : String) (P : α → α → Prop) (before after : OrderedMap α) : Prop :=
  ∃ old new, Replaced (key, old) (newKey, new) before.entries after.entries ∧ P old new

theorem lost_erase (h : map.contains key = true) : map.Lost key (map.erase key) := by
  obtain ⟨value, hvalue⟩ := Option.isSome_iff_exists.mp h
  obtain ⟨front, back, hentries⟩ := exists_split hvalue
  exact ⟨value, front, back, hentries, entries_erase hentries⟩

theorem changed_insert (h : map.get? key = some old) (hP : P old new) :
    map.Changed key key P (map.insert key new) := by
  obtain ⟨front, back, hentries⟩ := exists_split h
  exact ⟨old, new, ⟨front, back, hentries, entries_insert hentries⟩, hP⟩

theorem changed_rekey (h : map.contains key = true) (hnew : newKey ∉ map.keys) (change : α → α) :
    map.Changed key newKey (fun old new => new = change old) (map.rekey key newKey change) := by
  obtain ⟨value, hvalue⟩ := Option.isSome_iff_exists.mp h
  obtain ⟨front, back, hentries⟩ := exists_split hvalue
  exact ⟨value, change value, ⟨front, back, hentries, entries_rekey hentries hnew change⟩, rfl⟩

/-- The map without the entries of some keys. -/
def without (map : OrderedMap α) (gone : List String) : OrderedMap α :=
  ⟨map.entries.filter fun entry => entry.1 ∉ gone,
    (List.filter_sublist.map Prod.fst).nodup map.nodup⟩

theorem without_nil (map : OrderedMap α) : map.without [] = map :=
  ext (by simp [without])

theorem without_erase (map : OrderedMap α) (key : String) (gone : List String) :
    (map.erase key).without gone = map.without (key :: gone) := by
  apply ext
  simp only [without, erase, Entries.erase_eq_filter map.nodup, List.filter_filter]
  congr 1
  funext entry
  rw [← Bool.decide_and]
  simp only [List.mem_cons, not_or, and_comm, ne_eq]

end OrderedMap

/-! ## Flags of removed cores -/

/-- The signal without the flags of some cores. -/
def Signal.withoutFlags (gone : List CoreId) (signal : Signal) : Signal :=
  { signal with destinations := signal.destinations.without (gone.map CoreId.destinationKey) }

namespace Project

variable {project edited : Project} {id : CoreId}

theorem foldl_clearDestination (gone : List CoreId) (project : Project) :
    gone.foldl clearDestination project =
      { project with
        signals := project.signals.mapValues fun _ signal => signal.withoutFlags gone } := by
  induction gone generalizing project with
  | nil =>
    have hsignals : (project.signals.mapValues fun _ signal => signal.withoutFlags []) =
        project.signals := by
      apply OrderedMap.ext
      simp [OrderedMap.mapValues, Signal.withoutFlags, OrderedMap.without_nil]
    rw [hsignals]
    rfl
  | cons id rest ih =>
    rw [List.foldl_cons, ih]
    have hsignals : ((project.clearDestination id).signals.mapValues
        fun _ signal => signal.withoutFlags rest) =
        project.signals.mapValues fun _ signal => signal.withoutFlags (id :: rest) := by
      apply OrderedMap.ext
      simp [OrderedMap.mapValues, clearDestination, Signal.withoutFlags, OrderedMap.without_erase]
    rw [hsignals]
    rfl

/-! ## Parts that are replaced as a whole -/

inductive Part
  | metadata
  | socType
  | buildType
  | board
  | boardOptions
  | paths
  | interfaces
  | scripts

def Part.Value : Part → Type
  | metadata => Metadata
  | socType => String
  | buildType => String
  | board => String
  | boardOptions => List String
  | paths => String × String
  | interfaces => Interfaces
  | scripts => OrderedMap String

/-- A part of the project; of the paths without their unknown keys. -/
def part (project : Project) : (part : Part) → part.Value
  | .metadata => project.metadata
  | .socType => project.socType
  | .buildType => project.buildType
  | .board => project.board
  | .boardOptions => project.boardOptions
  | .paths => (project.deployment.paths.output, project.deployment.paths.script)
  | .interfaces => project.deployment.interfaces
  | .scripts => project.scripts

def withPart (project : Project) : (part : Part) → part.Value → Project
  | .metadata, metadata => { project with metadata }
  | .socType, socType => { project with socType }
  | .buildType, buildType => { project with buildType }
  | .board, board => { project with board }
  | .boardOptions, boardOptions => { project with boardOptions }
  | .paths, (output, script) => project.setPaths output script
  | .interfaces, interfaces => project.setInterfaces interfaces
  | .scripts, scripts => { project with scripts }

theorem part_withPart_of_ne {own part : Part} (h : part ≠ own) (value : own.Value) :
    (project.withPart own value).part part = project.part part := by
  cases own <;> cases part <;> first | rfl | exact absurd rfl h

/-- What no edit speaks about is as it was. -/
structure SameElsewhere (edited project : Project) : Prop where
  exportSheet : edited.exportSheet = project.exportSheet
  shared : edited.deployment.shared = project.deployment.shared
  extra : edited.extra = project.extra
  deploymentExtra : edited.deployment.extra = project.deployment.extra
  pathsExtra : edited.deployment.paths.extra = project.deployment.paths.extra

theorem SameElsewhere.refl (project : Project) : project.SameElsewhere project :=
  ⟨rfl, rfl, rfl, rfl, rfl⟩

theorem SameElsewhere.trans {first second third : Project} (h : third.SameElsewhere second)
    (hbefore : second.SameElsewhere first) : third.SameElsewhere first :=
  ⟨h.exportSheet.trans hbefore.exportSheet, h.shared.trans hbefore.shared,
    h.extra.trans hbefore.extra, h.deploymentExtra.trans hbefore.deploymentExtra,
    h.pathsExtra.trans hbefore.pathsExtra⟩

theorem sameElsewhere_withPart (part : Part) (value : part.Value) :
    (project.withPart part value).SameElsewhere project := by
  cases part <;> exact ⟨rfl, rfl, rfl, rfl, rfl⟩

end Project

/-! ## What belongs to an edit -/

namespace Edit

open Project

/-- The part that an edit replaces. -/
def part? : Edit → Option Part
  | setSocType _ => some .socType
  | setBuildType _ => some .buildType
  | setBoard _ => some .board
  | updateMetadata _ => some .metadata
  | setBoardOptions _ => some .boardOptions
  | setPaths .. => some .paths
  | setInterfaces _ => some .interfaces
  | setScript .. => some .scripts
  | _ => none

/-- What becomes of the catalog: one entry is added, removed or changed in its place, the flags of
removed cores go, or nothing happens. -/
def Catalog (project edited : Project) : Edit → Prop
  | addSignal name signal =>
    edited.signals.entries = project.signals.entries ++ [(Text.trimmed name, signal)]
  | deleteSignal name => project.signals.Lost name edited.signals
  | renameSignal name newName =>
    project.signals.Changed name (Text.trimmed newName)
      (fun old new => new = renamed name (Text.trimmed newName) old) edited.signals
  | updateSignal name signal =>
    project.signals.Changed name name (fun _ new => new = signal) edited.signals
  | removeCore id =>
    edited.signals = project.signals.mapValues fun _ signal => signal.withoutFlags [id]
  | removeSoc soc =>
    edited.signals =
      project.signals.mapValues fun _ signal => signal.withoutFlags (project.coreIdsOf soc)
  | _ => edited.signals = project.signals

/-- What becomes of the cores: one core is added, changed or removed in its place, all cores of one
system go, or nothing happens. -/
def Cores (project edited : Project) : Edit → Prop
  | addCore soc name core =>
    project.cores.Changed soc soc
      (fun old new => new.entries = old.entries ++ [(Text.trimmed name, core)]) edited.cores ∨
    soc ∉ project.cores.keys ∧
      edited.cores.entries =
        project.cores.entries ++ [(soc, OrderedMap.empty.insert (Text.trimmed name) core)]
  | updateCore id core =>
    project.cores.Changed id.soc id.soc
      (fun old new => old.Changed id.core id.core (fun _ new => new = core) new) edited.cores
  | removeCore id =>
    project.cores.Changed id.soc id.soc (fun old new => old.Lost id.core new) edited.cores
  | removeSoc soc =>
    project.cores.Lost soc edited.cores ∨
    soc ∉ project.cores.keys ∧ edited.cores = project.cores
  | _ => edited.cores = project.cores

/-- What becomes of the list of systems. -/
def Socs (project edited : Project) : Edit → Prop
  | addSoc name => edited.socList = project.socList ++ [Text.trimmed name]
  | removeSoc name => Removed name project.socList edited.socList
  | _ => edited.socList = project.socList

/-- What becomes of the list of build types. -/
def Builds (project edited : Project) : Edit → Prop
  | addBuildType name => edited.buildList = project.buildList ++ [Text.trimmed name]
  | removeBuildType name => Removed name project.buildList edited.buildList
  | _ => edited.buildList = project.buildList

/-- An edit has changed its own part of a project and nothing else. -/
structure Confined (edit : Edit) (project edited : Project) : Prop where
  catalog : edit.Catalog project edited
  cores : edit.Cores project edited
  socs : edit.Socs project edited
  builds : edit.Builds project edited
  parts : ∀ part, edit.part? ≠ some part → edited.part part = project.part part
  elsewhere : edited.SameElsewhere project

variable {edit : Edit} {project edited : Project}

/-- What changes only the catalog and the platform leaves every part that is replaced as a whole. -/
theorem confined_of_platform (hcatalog : edit.Catalog project edited)
    (hcores : edit.Cores project edited) (hsocs : edit.Socs project edited)
    (hbuilds : edit.Builds project edited)
    (h : edited = { project with
      signals := edited.signals
      cores := edited.cores
      socList := edited.socList
      buildList := edited.buildList }) : edit.Confined project edited := by
  have hparts : ∀ part, edited.part part = project.part part := by
    intro part
    rw [h]
    cases part <;> rfl
  have helsewhere : edited.SameElsewhere project := by
    rw [h]
    exact ⟨rfl, rfl, rfl, rfl, rfl⟩
  exact ⟨hcatalog, hcores, hsocs, hbuilds, fun part _ => hparts part, helsewhere⟩

/-- An edit of a part that is replaced as a whole leaves the other parts, the catalog and the
platform. -/
theorem confined_withPart (part : Part) (hpart : edit.part? = some part) (value : part.Value) :
    edit.Confined project (project.withPart part value) := by
  have hsame : ∀ other, edit.part? ≠ some other →
      (project.withPart part value).part other = project.part other := by
    intro other hother
    have hne : other ≠ part := by
      rintro rfl
      exact hother hpart
    exact part_withPart_of_ne hne value
  have helsewhere := project.sameElsewhere_withPart part value
  cases edit <;> cases hpart <;> exact ⟨rfl, rfl, rfl, rfl, hsame, helsewhere⟩

theorem coresOf_eq {soc : String} {cores : OrderedMap Core} (h : project.cores.get? soc = some cores) :
    project.coresOf soc = cores := by
  rw [coresOf, h, Option.getD_some]

/-- A core stands among the cores of its system. -/
theorem exists_cores {id : CoreId} (h : project.hasCore id = true) :
    ∃ cores core, project.cores.get? id.soc = some cores ∧ cores.get? id.core = some core := by
  rw [hasCore, Option.isSome_iff_exists] at h
  obtain ⟨core, hcore⟩ := h
  obtain ⟨cores, hcores, hget⟩ := Option.bind_eq_some_iff.mp hcore
  exact ⟨cores, core, hcores, hget⟩

theorem cores_addCore {soc name : String} {core : Core}
    (h : project.addCore soc name core = .ok edited) :
    (addCore soc name core).Cores project edited := by
  obtain ⟨_, _, hnew, rfl⟩ := addCore_ok h
  cases hcores : project.cores.get? soc with
  | none =>
    have hempty : project.coresOf soc = .empty := by rw [coresOf, hcores, Option.getD_none]
    have hsoc : soc ∉ project.cores.keys := Entries.get?_eq_none_iff.mp hcores
    rw [hempty]
    exact Or.inr ⟨hsoc, Entries.insert_of_notMem hsoc⟩
  | some cores =>
    rw [coresOf_eq hcores] at hnew ⊢
    have hname : Text.trimmed name ∉ cores.keys := OrderedMap.contains_eq_false_iff.mp hnew
    exact Or.inl (OrderedMap.changed_insert hcores (Entries.insert_of_notMem hname))

theorem cores_updateCore {id : CoreId} {core : Core}
    (h : project.updateCore id core = .ok edited) : (updateCore id core).Cores project edited := by
  obtain ⟨hcore, rfl⟩ := updateCore_ok h
  obtain ⟨cores, old, hcores, hold⟩ := exists_cores hcore
  rw [coresOf_eq hcores]
  exact OrderedMap.changed_insert hcores (OrderedMap.changed_insert hold rfl)

theorem cores_removeCore {id : CoreId} (h : project.removeCore id = .ok edited) :
    (removeCore id).Cores project edited := by
  obtain ⟨hcore, _, rfl⟩ := removeCore_ok h
  obtain ⟨cores, old, hcores, hold⟩ := exists_cores hcore
  rw [coresOf_eq hcores]
  exact OrderedMap.changed_insert hcores
    (OrderedMap.lost_erase (Option.isSome_iff_exists.mpr ⟨old, hold⟩))

/-- Every edit by its own rules is confined to its part. -/
theorem confined_run (hkind : edit.replaces = false) (h : edit.run project = .ok edited) :
    edit.Confined project edited := by
  cases edit with
  | addSignal name signal =>
    obtain ⟨_, hnew, rfl⟩ := addSignal_ok h
    have hname := OrderedMap.contains_eq_false_iff.mp hnew
    exact confined_of_platform (Entries.insert_of_notMem hname) rfl rfl rfl rfl
  | deleteSignal name =>
    obtain ⟨hold, rfl⟩ := deleteSignal_ok h
    exact confined_of_platform (OrderedMap.lost_erase hold) rfl rfl rfl rfl
  | renameSignal name newName =>
    obtain ⟨_, hnew, hold, rfl⟩ := renameSignal_ok h
    have hfree := OrderedMap.contains_eq_false_iff.mp hnew
    exact confined_of_platform (OrderedMap.changed_rekey hold hfree _) rfl rfl rfl rfl
  | updateSignal name signal =>
    obtain ⟨hold, rfl⟩ := updateSignal_ok h
    obtain ⟨old, hget⟩ := Option.isSome_iff_exists.mp hold
    exact confined_of_platform (OrderedMap.changed_insert hget rfl) rfl rfl rfl rfl
  | addSoc name =>
    obtain ⟨_, _, _, rfl⟩ := addSoc_ok h
    exact confined_of_platform rfl rfl rfl rfl rfl
  | removeSoc name =>
    obtain ⟨hlisted, _, _, rfl⟩ := removeSoc_ok h
    rw [foldl_clearDestination]
    have hcores : project.cores.Lost name (project.cores.erase name) ∨
        name ∉ project.cores.keys ∧ project.cores.erase name = project.cores := by
      by_cases hmem : name ∈ project.cores.keys
      · exact Or.inl (OrderedMap.lost_erase (OrderedMap.contains_iff.mpr hmem))
      · exact Or.inr ⟨hmem, OrderedMap.erase_of_notMem hmem⟩
    exact confined_of_platform rfl hcores (removed_erase hlisted) rfl rfl
  | addBuildType name =>
    obtain ⟨_, _, rfl⟩ := addBuildType_ok h
    exact confined_of_platform rfl rfl rfl rfl rfl
  | removeBuildType name =>
    obtain ⟨hlisted, _, rfl⟩ := removeBuildType_ok h
    exact confined_of_platform rfl rfl rfl (removed_erase hlisted) rfl
  | addCore soc name core =>
    have hcores := cores_addCore h
    obtain ⟨_, _, _, rfl⟩ := addCore_ok h
    exact confined_of_platform rfl hcores rfl rfl rfl
  | updateCore id core =>
    have hcores := cores_updateCore h
    obtain ⟨_, rfl⟩ := updateCore_ok h
    exact confined_of_platform rfl hcores rfl rfl rfl
  | removeCore id =>
    have hcores := cores_removeCore h
    obtain ⟨_, _, rfl⟩ := removeCore_ok h
    have hflags := foldl_clearDestination [id]
      { project with
        cores := project.cores.insert id.soc ((project.coresOf id.soc).erase id.core) }
    exact confined_of_platform (congrArg Project.signals hflags) hcores rfl rfl rfl
  | setSocType soc =>
    obtain ⟨_, rfl⟩ := setSocType_ok h
    exact confined_withPart .socType rfl soc
  | setBuildType build =>
    obtain ⟨_, rfl⟩ := setBuildType_ok h
    exact confined_withPart .buildType rfl build
  | setBoard board =>
    obtain rfl := Except.ok.inj h
    exact confined_withPart .board rfl board
  | updateMetadata metadata =>
    obtain rfl := Except.ok.inj h
    exact confined_withPart .metadata rfl metadata
  | setBoardOptions options =>
    obtain rfl := Except.ok.inj h
    exact confined_withPart .boardOptions rfl options
  | setPaths output script =>
    obtain rfl := Except.ok.inj h
    exact confined_withPart .paths rfl (output, script)
  | setInterfaces interfaces =>
    obtain rfl := Except.ok.inj h
    exact confined_withPart .interfaces rfl interfaces
  | setScript kind path =>
    obtain rfl := Except.ok.inj h
    exact confined_withPart .scripts rfl (project.scripts.insert kind.key path)
  | replaceProject replacement => cases hkind

end Edit

namespace Editor

variable {editor edited : Editor}

/-- What no edit speaks about is, in every project of a history, what it was in the first. -/
theorem sameElsewhere_handleAll (project : Project) (requests : List Request)
    (hkind : ∀ request ∈ requests, request.replaces = false) :
    ∀ reached ∈ ((start project).handleAll requests).history.toList,
      reached.SameElsewhere project := by
  apply @handleAll_induct fun editor =>
    ∀ reached ∈ editor.history.toList, reached.SameElsewhere project
  · intro reached hreached
    obtain rfl : reached = project := by
      simpa [start, History.start, History.toList] using hreached
    exact .refl reached
  · intro editor hbefore request hrequest reached hreached
    rcases mem_handle hreached with hold | ⟨command, edit, rfl, hedit, happly⟩ | rfl
    · exact hbefore reached hold
    · have hconfined := Edit.confined_run (editOf?_replaces (hkind _ hrequest) hedit)
        (Edit.apply_ok happly).1
      exact hconfined.elsewhere.trans (hbefore editor.project editor.project_mem)
    · cases hkind _ hrequest

/-- For every editor and every command that it accepts, except the replacement of the project: copying
leaves the project, and every other command changes only the part of its edit. The names of the signals
stand in their order except for one that is added at the end, removed or replaced in its place; a signal
that is not named loses at most the flags of removed cores; one core is added, changed or removed, or
those of one system go, and all others stand in their order; the lists of systems and of build types
gain one name or lose one by their own edits; what is replaced as a whole changes by its own edit only,
and the export sheet, the shared settings and the unknown keys never do. -/
theorem command_confined {command : Command} {flipped : Bool}
    (hkind : (Request.command command).replaces = false)
    (h : editor.apply command = .ok (flipped, edited)) :
    (editor.editOf? command = none → edited.project = editor.project) ∧
      ∀ edit, editor.editOf? command = some edit →
        edit.Confined editor.project edited.project := by
  rcases apply_cases h with ⟨edit, project, _, hedit, happly, rfl⟩ | ⟨name, signal, rfl, _, rfl⟩
  · refine ⟨fun hnone => ?_, fun other hother => ?_⟩
    · rw [hedit] at hnone
      cases hnone
    · obtain rfl : edit = other := Option.some.inj (hedit.symm.trans hother)
      exact Edit.confined_run (editOf?_replaces hkind hedit) (Edit.apply_ok happly).1
  · refine ⟨fun _ => rfl, fun other hother => ?_⟩
    cases hother

/-- With a system go its cores and their flags; the signal keeps the flag of the other system. -/
theorem command_confined_removeSoc :
    let stays : CoreId := ⟨"Windows", "main"⟩
    let goes : CoreId := ⟨"Board", "main"⟩
    let signal := ((Signal.new "speed").setDestination goes.text true).setDestination stays.text true
    let editor := start { Project.template .epoch with
      socList := ["Windows", "Board"]
      cores := .ofPairs [("Board", .ofPairs [("main", default)]),
        ("Windows", .ofPairs [("main", default)])]
      signals := .ofPairs [("speed", signal)] }
    let command := Command.edit (.removeSoc "Board")
    (Request.command command).replaces = false ∧
    ∃ flipped edited, editor.apply command = .ok (flipped, edited) ∧
      edited.project.signals.keys = ["speed"] ∧
      (edited.project.signals.get? "speed").map (·.destinations.entries) =
        some [(stays.destinationKey, true)] := by
  intro stays goes signal editor command
  refine ⟨rfl, ?_⟩
  have haccepted : (editor.apply command).toOption.isSome = true := by decide
  cases happly : editor.apply command with
  | error cause => simp [happly, Except.toOption] at haccepted
  | ok outcome =>
    obtain ⟨flipped, edited⟩ := outcome
    have hconfined := (command_confined rfl happly).2 _ rfl
    have hsignals : edited.project.signals = editor.project.signals.mapValues
        fun _ signal => signal.withoutFlags (editor.project.coreIdsOf "Board") := hconfined.catalog
    refine ⟨flipped, edited, rfl, ?_, ?_⟩
    · rw [hsignals, OrderedMap.keys_mapValues]
      rfl
    · rw [hsignals]
      decide

end Editor

end SignalCatalog
