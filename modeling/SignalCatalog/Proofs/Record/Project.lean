import SignalCatalog.Proofs.Calendar.Written
import SignalCatalog.Proofs.Record.Signal
import SignalCatalog.Record.Project

/-!
# Projects are read as they were written

For each record of a project file: what may be stored in it, that it is read back from what is
written, that this has the shape of such records, and that whatever is read may be stored.
-/

namespace SignalCatalog

open Json

namespace Metadata

def Storable (metadata : Metadata) : Prop := RecordKind.metadata.Keeps metadata.extra

variable {metadata : Metadata}

theorem Storable.ofMembers_toJson (h : metadata.Storable) (today : Date) :
    ofMembers today metadata.toJson.members = metadata := by
  have hextra : RecordKind.metadata.extraOf metadata.toJson.members = metadata.extra :=
    h.extraOf_append (by simp [RecordKind.fieldKeys, RecordKind.fields])
  rw [ofMembers, hextra]
  simp [toJson, members, looseText, Entries.get?, date?, Calendar.readDate?_text]

theorem Storable.suits_toJson (h : metadata.Storable) :
    Suits (.record .metadata false) metadata.toJson := by
  apply h.suits
  · simp
  · simp [RecordKind.fieldKeys, RecordKind.fields]
  · simp only [List.forall_mem_cons]
    exact ⟨⟨trivial, trivial⟩, .anything trivial, ⟨trivial, trivial⟩, ⟨trivial, trivial⟩, by simp⟩

theorem storable_ofMembers {today : Date} {members : List (String × Json)}
    (h : MembersWellFormed members) : (ofMembers today members).Storable :=
  RecordKind.keeps_extraOf h

end Metadata

namespace Core

def Storable (core : Core) : Prop := RecordKind.core.Keeps core.extra

variable {core : Core}

theorem Storable.ofJson_toJson (h : core.Storable) : ofJson core.toJson = core := by
  have hextra : RecordKind.core.extraOf core.toJson.members = core.extra :=
    h.extraOf_append (by simp [RecordKind.fieldKeys, RecordKind.fields])
  have hobject : ofJson core.toJson = ofMembers core.toJson.members := rfl
  rw [hobject, ofMembers, hextra]
  simp [toJson, members, textField, boolField, Entries.get?, stringValue?, boolValue?]

theorem Storable.suits_toJson (h : core.Storable) :
    Suits (.recordOrString .core "CoreEntry") core.toJson := by
  have hrecord : Suits (.record .core false) core.toJson := by
    apply h.suits
    · simp
    · simp [RecordKind.fieldKeys, RecordKind.fields]
    · simp only [List.forall_mem_cons]
      exact ⟨.string _, .boolean _, .boolean _, .boolean _, .boolean _, .string _, .string _, by simp⟩
  exact hrecord

theorem storable_ofJson {value : Json} (h : value.WellFormed) : (ofJson value).Storable := by
  cases value with
  | string description => exact RecordKind.keeps_empty .core
  | _ => exact RecordKind.keeps_extraOf h.members

end Core

namespace Paths

def Storable (paths : Paths) : Prop := RecordKind.paths.Keeps paths.extra

variable {paths : Paths}

theorem Storable.ofMembers_toJson (h : paths.Storable) :
    ofMembers paths.toJson.members = paths := by
  have hextra : RecordKind.paths.extraOf paths.toJson.members = paths.extra :=
    h.extraOf_append (by simp [RecordKind.fieldKeys, RecordKind.fields])
  rw [ofMembers, hextra]
  simp [toJson, members, textField, Entries.get?, stringValue?]

theorem Storable.suits_toJson (h : paths.Storable) : Suits (.record .paths false) paths.toJson := by
  apply h.suits
  · simp
  · simp [RecordKind.fieldKeys, RecordKind.fields]
  · simp only [List.forall_mem_cons]
    exact ⟨.string _, .string _, by simp⟩

theorem storable_ofMembers {members : List (String × Json)} (h : MembersWellFormed members) :
    (ofMembers members).Storable :=
  RecordKind.keeps_extraOf h

end Paths

namespace SharedInterface

def Storable (shared : SharedInterface) : Prop := RecordKind.sharedInterface.Keeps shared.extra

variable {shared : SharedInterface}

theorem Storable.ofMembers_toJson (h : shared.Storable) :
    ofMembers shared.toJson.members = shared := by
  have hextra : RecordKind.sharedInterface.extraOf shared.toJson.members = shared.extra :=
    h.extraOf_append (by
      simp [RecordKind.fieldKeys, RecordKind.fields, RecordKind.lockFields, LockInterface.toMembers])
  rw [ofMembers, hextra]
  simp [toJson, members, LockInterface.ofMembers, LockInterface.toMembers, textField, Entries.get?,
    stringValue?]

theorem Storable.suits_toJson (h : shared.Storable) (orNull : Bool) :
    Suits (.record .sharedInterface orNull) shared.toJson := by
  apply h.suits
  · simp [LockInterface.toMembers]
  · simp [RecordKind.fieldKeys, RecordKind.fields, RecordKind.lockFields, LockInterface.toMembers]
  · simp only [LockInterface.toMembers, List.cons_append, List.nil_append, List.forall_mem_cons]
    exact ⟨.string _, .string _, .string _, .string _, .string _, .string _, .string _, .string _,
      by simp⟩

theorem storable_ofMembers {members : List (String × Json)} (h : MembersWellFormed members) :
    (ofMembers members).Storable :=
  RecordKind.keeps_extraOf h

end SharedInterface

namespace CoreInterface

def Storable (core : CoreInterface) : Prop := RecordKind.coreInterface.Keeps core.extra

variable {core : CoreInterface}

theorem Storable.ofMembers_toJson (h : core.Storable) :
    ofMembers core.toJson.members = core := by
  have hextra : RecordKind.coreInterface.extraOf core.toJson.members = core.extra :=
    h.extraOf_append (by
      simp [RecordKind.fieldKeys, RecordKind.fields, RecordKind.lockFields, LockInterface.toMembers])
  rw [ofMembers, hextra]
  simp [toJson, members, LockInterface.ofMembers, LockInterface.toMembers, textField, Entries.get?,
    stringValue?]

theorem Storable.suits_toJson (h : core.Storable) :
    Suits (.record .coreInterface false) core.toJson := by
  apply h.suits
  · simp [LockInterface.toMembers]
  · simp [RecordKind.fieldKeys, RecordKind.fields, RecordKind.lockFields, LockInterface.toMembers]
  · simp only [LockInterface.toMembers, List.forall_mem_cons]
    exact ⟨.string _, .string _, .string _, .string _, .string _, .string _, by simp⟩

theorem storable_ofMembers {members : List (String × Json)} (h : MembersWellFormed members) :
    (ofMembers members).Storable :=
  RecordKind.keeps_extraOf h

end CoreInterface

namespace Interfaces

structure Storable (interfaces : Interfaces) : Prop where
  shared : ∀ shared ∈ interfaces.shared, shared.Storable
  perCore : ∀ entry ∈ interfaces.perCore.entries, entry.2.Storable
  extra : RecordKind.interfaces.Keeps interfaces.extra

variable {interfaces : Interfaces}

/-- The member of the shared interface, if there is one. -/
def sharedMembers (interfaces : Interfaces) : List (String × Json) :=
  match interfaces.shared with
  | some shared => [("smp", shared.toJson)]
  | none => []

/-- The member of the interfaces of single cores, if there are any. -/
def coreMembers (interfaces : Interfaces) : List (String × Json) :=
  if interfaces.perCore.isEmpty then []
  else [("multicore", .object (interfaces.perCore.mapValues fun _ core => core.toJson).entries)]

theorem toJson_eq (interfaces : Interfaces) : interfaces.toJson =
    .object (interfaces.sharedMembers ++ interfaces.coreMembers ++ interfaces.extra.entries) := rfl

theorem keys_front_subset (interfaces : Interfaces) :
    ∀ key ∈ Entries.keys (interfaces.sharedMembers ++ interfaces.coreMembers),
      key ∈ RecordKind.interfaces.fieldKeys := by
  unfold sharedMembers coreMembers
  split <;> split <;> simp [RecordKind.fieldKeys, RecordKind.fields]

theorem Storable.get?_shared (h : interfaces.Storable) :
    Entries.get? "smp" interfaces.toJson.members =
      interfaces.shared.map SharedInterface.toJson := by
  have hcores : Entries.get? "smp" interfaces.coreMembers = none := by
    unfold coreMembers
    split <;> simp [Entries.get?]
  have hextra := h.extra.get?_eq_none (by decide : "smp" ∈ RecordKind.interfaces.fieldKeys)
  rw [toJson_eq, members, Entries.get?_append, Entries.get?_append, hcores, hextra, Option.or_none,
    Option.or_none]
  cases hshared : interfaces.shared <;> simp [sharedMembers, hshared, Entries.get?]

theorem Storable.objectField_perCore (h : interfaces.Storable) :
    objectField interfaces.toJson.members "multicore" =
      (interfaces.perCore.mapValues fun _ core => core.toJson).entries := by
  have hshared : Entries.get? "multicore" interfaces.sharedMembers = none := by
    unfold sharedMembers
    split <;> simp [Entries.get?]
  have hextra := h.extra.get?_eq_none (by decide : "multicore" ∈ RecordKind.interfaces.fieldKeys)
  rw [objectField, toJson_eq, members, Entries.get?_append, Entries.get?_append, hshared, hextra,
    Option.none_or, Option.or_none, coreMembers]
  split
  · rename_i hempty
    rw [OrderedMap.isEmpty, List.isEmpty_iff] at hempty
    simp [Entries.get?, OrderedMap.entries_mapValues, hempty]
  · simp [Entries.get?, members]

theorem Storable.ofMembers_toJson (h : interfaces.Storable) :
    ofMembers interfaces.toJson.members = interfaces := by
  have hextra : RecordKind.interfaces.extraOf interfaces.toJson.members = interfaces.extra :=
    h.extra.extraOf_append (keys_front_subset interfaces)
  have hcores : OrderedMap.ofPairs ((interfaces.perCore.mapValues fun _ core => core.toJson).entries.map
      fun entry => (entry.1, CoreInterface.ofMembers entry.2.members)) = interfaces.perCore := by
    have hread : ∀ entry ∈ interfaces.perCore.entries,
        CoreInterface.ofMembers entry.2.toJson.members = entry.2 :=
      fun entry he => (h.perCore entry he).ofMembers_toJson
    rw [@OrderedMap.ofPairs_mapValues _ _ _ interfaces.perCore (fun _ core => core.toJson)
      (fun value => CoreInterface.ofMembers value.members) (fun _ core => core) hread,
      OrderedMap.mapValues_self]
  rw [ofMembers, hextra, h.get?_shared, h.objectField_perCore, hcores]
  have hread := h.shared
  obtain ⟨shared, perCore, extra⟩ := interfaces
  cases shared with
  | none => rfl
  | some shared =>
    exact congrArg (fun shared => (⟨some shared, perCore, extra⟩ : Interfaces))
      (hread shared rfl).ofMembers_toJson

theorem Storable.suits_toJson (h : interfaces.Storable) :
    Suits (.record .interfaces false) interfaces.toJson := by
  rw [toJson_eq]
  apply h.extra.suits
  · unfold sharedMembers coreMembers
    split <;> split <;> simp
  · exact keys_front_subset interfaces
  · intro entry he
    rcases List.mem_append.mp he with he | he
    · unfold sharedMembers at he
      split at he
      · rename_i shared hshared
        rw [List.mem_singleton] at he
        rw [he]
        exact (h.shared shared hshared).suits_toJson true
      · simp at he
    · unfold coreMembers at he
      split at he
      · simp at he
      · rw [List.mem_singleton] at he
        rw [he]
        exact Suits.mapValues fun entry he => (h.perCore entry he).suits_toJson

theorem storable_ofMembers {members : List (String × Json)} (h : MembersWellFormed members) :
    (ofMembers members).Storable where
  shared := by
    intro shared hshared
    simp only [ofMembers, Option.mem_def] at hshared
    split at hshared
    · rename_i inner hinner
      rw [← Option.some.inj hshared]
      exact SharedInterface.storable_ofMembers (wellFormed_of_get? h hinner).members
    · simp at hshared
  perCore := by
    intro entry he
    obtain ⟨member, hm, rfl⟩ := List.mem_map.mp (Entries.mem_ofPairs he)
    have hmember := membersWellFormed_iff.mp (wellFormed_objectField h "multicore") member hm
    exact CoreInterface.storable_ofMembers hmember.members
  extra := RecordKind.keeps_extraOf h

end Interfaces

namespace Deployment

structure Storable (deployment : Deployment) : Prop where
  paths : deployment.paths.Storable
  interfaces : deployment.interfaces.Storable
  shared : ∀ entry ∈ deployment.shared.entries, entry.2.WellFormed
  extra : RecordKind.deployment.Keeps deployment.extra

variable {deployment : Deployment}

theorem Storable.ofMembers_toJson (h : deployment.Storable) :
    ofMembers deployment.toJson.members = deployment := by
  have hextra : RecordKind.deployment.extraOf deployment.toJson.members = deployment.extra :=
    h.extra.extraOf_append (by simp [RecordKind.fieldKeys, RecordKind.fields])
  have hpaths : objectField deployment.toJson.members "paths" = deployment.paths.toJson.members :=
    rfl
  have hinterfaces : objectField deployment.toJson.members "api_config" =
      deployment.interfaces.toJson.members := rfl
  have hshared : objectField deployment.toJson.members "smp_config" = deployment.shared.entries :=
    rfl
  rw [ofMembers, hextra, hpaths, hinterfaces, hshared, h.paths.ofMembers_toJson,
    h.interfaces.ofMembers_toJson, OrderedMap.ofPairs_entries]

theorem Storable.suits_toJson (h : deployment.Storable) :
    Suits (.record .deployment false) deployment.toJson := by
  have hshared : Suits (.dictionary .anything) (.object deployment.shared.entries) :=
    .dictionary deployment.shared.nodup fun entry he => .anything (h.shared entry he)
  apply h.extra.suits
  · simp
  · simp [RecordKind.fieldKeys, RecordKind.fields]
  · simp only [List.forall_mem_cons]
    exact ⟨h.paths.suits_toJson, h.interfaces.suits_toJson, hshared, by simp⟩

theorem storable_ofMembers {members : List (String × Json)} (h : MembersWellFormed members) :
    (ofMembers members).Storable where
  paths := Paths.storable_ofMembers (wellFormed_objectField h "paths")
  interfaces := Interfaces.storable_ofMembers (wellFormed_objectField h "api_config")
  shared := fun entry he =>
    membersWellFormed_iff.mp (wellFormed_objectField h "smp_config") entry (Entries.mem_ofPairs he)
  extra := RecordKind.keeps_extraOf h

end Deployment

namespace Project

/-- Every record of the project may be stored. -/
structure Storable (project : Project) : Prop where
  metadata : project.metadata.Storable
  cores : ∀ soc ∈ project.cores.entries, ∀ entry ∈ soc.2.entries, entry.2.Storable
  signals : ∀ entry ∈ project.signals.entries, entry.2.Storable
  deployment : project.deployment.Storable
  extra : RecordKind.project.Keeps project.extra

/-- The project without the texts of values that could not be read. -/
def forgetUnreadable (project : Project) : Project :=
  { project with signals := project.signals.mapValues fun _ signal => signal.forgetUnreadable }

variable {project : Project}

theorem textItems_strings (texts : List String) :
    textItems (some (.array (texts.map .string))) = texts := by
  rw [textItems, List.filterMap_map]
  have hself : ∀ text ∈ texts, (stringValue? ∘ Json.string) text = some text := fun _ _ => rfl
  rw [List.filterMap_congr hself, List.filterMap_some]

theorem filterMap_strings (map : OrderedMap String) :
    (map.mapValues fun _ path => Json.string path).entries.filterMap
      (fun (key, path) => path.stringValue?.map fun path => (key, path)) = map.entries := by
  rw [OrderedMap.entries_mapValues, List.filterMap_map]
  exact (List.filterMap_congr fun _ _ => rfl).trans List.filterMap_some

theorem Storable.ofPairs_cores (h : project.Storable) :
    OrderedMap.ofPairs ((objectField project.toJson.members "core_info").map fun (soc, cores) =>
      (soc, .ofPairs (cores.members.map fun (name, core) => (name, Core.ofJson core)))) =
      project.cores := by
  have hread : ∀ soc ∈ project.cores.entries,
      OrderedMap.ofPairs ((soc.2.mapValues fun _ core => core.toJson).entries.map
        fun entry => (entry.1, Core.ofJson entry.2)) = soc.2 := by
    intro soc hsoc
    rw [@OrderedMap.ofPairs_mapValues _ _ _ soc.2 (fun _ core => core.toJson) Core.ofJson
      (fun _ core => core) fun entry he => (h.cores soc hsoc entry he).ofJson_toJson,
      OrderedMap.mapValues_self]
  exact (@OrderedMap.ofPairs_mapValues _ _ _ project.cores
    (fun _ cores => Json.object (cores.mapValues fun _ core => core.toJson).entries)
    (fun cores => .ofPairs (cores.members.map fun entry => (entry.1, Core.ofJson entry.2)))
    (fun _ cores => cores) hread).trans (OrderedMap.mapValues_self project.cores)

theorem Storable.ofPairs_signals (h : project.Storable) :
    OrderedMap.ofPairs ((objectField project.toJson.members "signals").map fun (name, signal) =>
      (name, Signal.ofMembers signal.members)) = project.forgetUnreadable.signals :=
  @OrderedMap.ofPairs_mapValues _ _ _ project.signals (fun _ signal => signal.toJson)
    (fun signal => Signal.ofMembers signal.members) (fun _ signal => signal.forgetUnreadable)
    fun entry he => (h.signals entry he).ofMembers_toMembers

/-- A project is read back from its record. -/
theorem Storable.ofMembers_toJson (h : project.Storable) (today : Date) :
    ofMembers today project.toJson.members = project.forgetUnreadable := by
  have hextra : RecordKind.project.extraOf project.toJson.members = project.extra :=
    h.extra.extraOf_append (by simp [RecordKind.fieldKeys, RecordKind.fields])
  have hmetadata : Entries.get? "metadata" project.toJson.members =
      some project.metadata.toJson := rfl
  have hsocs : Entries.get? "soc_list" project.toJson.members =
      some (.array (project.socList.map .string)) := rfl
  have hbuilds : Entries.get? "build_list" project.toJson.members =
      some (.array (project.buildList.map .string)) := rfl
  have hboards : Entries.get? "board_options" project.toJson.members =
      some (.array (project.boardOptions.map .string)) := rfl
  have hdeployment : objectField project.toJson.members "project_specific" =
      project.deployment.toJson.members := rfl
  have hscripts : objectField project.toJson.members "script_paths" =
      (project.scripts.mapValues fun _ path => Json.string path).entries := rfl
  rw [ofMembers, hextra, hmetadata, hsocs, hbuilds, hboards, hdeployment, hscripts,
    textItems_strings, textItems_strings, textItems_strings, filterMap_strings, h.ofPairs_cores,
    h.ofPairs_signals, h.deployment.ofMembers_toJson, OrderedMap.ofPairs_entries]
  exact congrArg (fun metadata => { project.forgetUnreadable with metadata := metadata })
    (h.metadata.ofMembers_toJson today)

/-- The record of a project has the shape of project files. -/
theorem Storable.suits_toJson (h : project.Storable) :
    Suits (.record .project false) project.toJson := by
  have hcores : Suits (.dictionary (.dictionary (.recordOrString .core "CoreEntry")))
      (.object (project.cores.mapValues fun _ cores =>
        Json.object (cores.mapValues fun _ core => core.toJson).entries).entries) :=
    .mapValues fun soc hsoc => .mapValues fun entry he => (h.cores soc hsoc entry he).suits_toJson
  have hsignals : Suits (.dictionary (.record .signal false))
      (.object (project.signals.mapValues fun _ signal => signal.toJson).entries) :=
    .mapValues fun entry he => (h.signals entry he).suits_toJson
  have hscripts : Suits (.dictionary RecordKind.plain)
      (.object (project.scripts.mapValues fun _ path => Json.string path).entries) :=
    .mapValues fun entry _ => .string entry.2
  apply h.extra.suits
  · simp
  · simp [RecordKind.fieldKeys, RecordKind.fields]
  · simp only [List.forall_mem_cons]
    exact ⟨h.metadata.suits_toJson, .string _, .string _, .strings _, .strings _, hcores, hsignals,
      .string _, .strings _, h.deployment.suits_toJson, hscripts, .string _, by simp⟩

/-- What is read as a project may be stored. -/
theorem storable_ofMembers {today : Date} {members : List (String × Json)}
    (h : MembersWellFormed members) : (ofMembers today members).Storable where
  metadata := by
    rw [ofMembers]
    split
    · rename_i value hvalue
      exact Metadata.storable_ofMembers (wellFormed_of_get? h hvalue).members
    · exact RecordKind.keeps_empty .metadata
  cores := by
    intro soc hsoc entry he
    obtain ⟨member, hm, rfl⟩ := List.mem_map.mp (Entries.mem_ofPairs hsoc)
    obtain ⟨inner, hi, rfl⟩ := List.mem_map.mp (Entries.mem_ofPairs he)
    have hmember := membersWellFormed_iff.mp (wellFormed_objectField h "core_info") member hm
    exact Core.storable_ofJson (membersWellFormed_iff.mp hmember.members inner hi)
  signals := by
    intro entry he
    obtain ⟨member, hm, rfl⟩ := List.mem_map.mp (Entries.mem_ofPairs he)
    have hmember := membersWellFormed_iff.mp (wellFormed_objectField h "signals") member hm
    exact Signal.storable_ofMembers hmember.members
  deployment := Deployment.storable_ofMembers (wellFormed_objectField h "project_specific")
  extra := RecordKind.keeps_extraOf h

end Project

end SignalCatalog
