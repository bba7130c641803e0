import SignalCatalog.Exchange.Export
import SignalCatalog.Exchange.Import
import SignalCatalog.Proofs.DataType
import SignalCatalog.Proofs.OrderedMap
import SignalCatalog.Proofs.Project.Soundness

/-!
# What a workbook carries

A workbook carries the version, the selections, the systems that have cores and every value of a
signal but its members, its custom initial value and what the program does not know. `Portable` says
which projects can be carried without loss of a text, `carried` what arrives. Reading needs less than
that: a project is `Legible` also with structs, if these have no members.
-/

namespace SignalCatalog

/-- The sheet has the name of a written sheet and shows its cells. -/
structure Sheet.Shows (sheet written : Sheet) : Prop where
  name : sheet.name = written.name
  cell : ∀ row column, sheet.cell row column = written.cell row column

/-- Every sheet of the workbook was read, in order, with the cells that it was written with. -/
def Workbook.ReadAs (workbook : Workbook) (results : Exchange.SheetResults) : Prop :=
  List.Forall₂ (fun written result =>
    result.1 = written.name ∧ ∃ sheet : Sheet, result.2 = .ok sheet ∧ sheet.Shows written)
    workbook.sheets results

/-- The texts of a core survive a cell, and nothing else is attached to it. -/
structure Core.Portable (core : Core) : Prop where
  os : Text.Filled core.os
  socFamily : Text.Filled core.socFamily
  description : Text.Trimmed core.description.toList
  extra : core.extra = .empty

/-- The texts of a signal survive a cell, and nothing is attached to it that has no column. -/
structure Signal.Portable (signal : Signal) : Prop where
  port : Text.Filled signal.portName
  description : Text.Filled signal.description
  source : Text.Trimmed signal.source.toList
  type : signal.dataType.Written
  noStruct : signal.dataType ≠ .struct
  noCustom : signal.customInitial = none
  extra : signal.extra = .empty

/-- A project without violations whose texts survive the cells of its workbook. -/
structure Project.Portable (project : Project) : Prop where
  sound : project.violations = []
  version : Text.Filled project.metadata.version
  editor : Text.Trimmed project.metadata.editor.toList
  description : Text.Filled project.metadata.description
  metadataExtra : project.metadata.extra = .empty
  socType : Text.Filled project.socType
  buildType : Text.Filled project.buildType
  socs : ∀ soc ∈ project.cores.keys, Text.Filled soc
  coreNames : ∀ soc ∈ project.cores.entries, ∀ core ∈ soc.2.keys, Text.Filled core
  cores : ∀ soc ∈ project.cores.entries, ∀ entry ∈ soc.2.entries, entry.2.Portable
  signalNames : ∀ name ∈ project.signals.keys, Text.Filled name
  signals : ∀ entry ∈ project.signals.entries, entry.2.Portable
  sheet : project.exportSheet ≠ Exchange.versionSheet ∧ project.exportSheet ≠ Exchange.signalSheet

namespace Signal

/-- What a row of cells can say of a signal. -/
structure Tabular (signal : Signal) : Prop where
  numbers : signal.InRange
  members : signal.fields = []
  source : Text.Trimmed signal.source.toList

/-- A signal whose values are all read back from a row of cells. -/
structure Legible (signal : Signal) : Prop extends signal.Tabular where
  port : Text.Filled signal.portName
  description : Text.Filled signal.description
  type : signal.dataType.Written
  noCustom : signal.customInitial = none
  extra : signal.extra = .empty

/-- What is found in the row of a signal: a struct has no members there. -/
def notices (signal : Signal) (name : String) : List FindingCause :=
  if signal.isStruct then [.structWithoutMembers name] else []

end Signal

/-- A project whose workbook is read back: the texts survive their cells, and the sources are in order.
Nothing is said about the lists. -/
structure Project.Legible (project : Project) : Prop where
  version : Text.Filled project.metadata.version
  editor : Text.Trimmed project.metadata.editor.toList
  description : Text.Filled project.metadata.description
  metadataExtra : project.metadata.extra = .empty
  socType : Text.Filled project.socType
  buildType : Text.Filled project.buildType
  socs : ∀ soc ∈ project.cores.keys, Text.Filled soc
  coreNames : ∀ soc ∈ project.cores.entries, ∀ core ∈ soc.2.keys, Text.Filled core
  cores : ∀ soc ∈ project.cores.entries, ∀ entry ∈ soc.2.entries, entry.2.Portable
  signalNames : ∀ name ∈ project.signals.keys, Text.Filled name
  signals : ∀ entry ∈ project.signals.entries, entry.2.Legible
  sources : ∀ entry ∈ project.signals.entries, project.SoundSource entry.2
  sheet : project.exportSheet ≠ Exchange.versionSheet ∧ project.exportSheet ≠ Exchange.signalSheet

theorem Signal.Portable.legible {signal : Signal} (h : signal.Portable) (hshape : signal.WellShaped)
    (hnumbers : signal.InRange) : signal.Legible where
  numbers := hnumbers
  members := by
    by_contra hmembers
    exact h.noStruct (hshape.members.mpr hmembers)
  source := h.source
  port := h.port
  description := h.description
  type := h.type
  noCustom := h.noCustom
  extra := h.extra

theorem Project.Portable.legible {project : Project} (h : project.Portable) : project.Legible where
  version := h.version
  editor := h.editor
  description := h.description
  metadataExtra := h.metadataExtra
  socType := h.socType
  buildType := h.buildType
  socs := h.socs
  coreNames := h.coreNames
  cores := h.cores
  signalNames := h.signalNames
  signals := by
    intro entry he
    have hsound := (project.violations_eq_nil_iff.mp h.sound).signals entry he
    exact (h.signals entry he).legible hsound.shape hsound.numbers
  sources := fun entry he => ((project.violations_eq_nil_iff.mp h.sound).signals entry he).source
  sheet := h.sheet

namespace OrderedMap

variable {α : Type}

/-- The entries that satisfy a test. -/
def filter (map : OrderedMap α) (test : String × α → Bool) : OrderedMap α :=
  ⟨map.entries.filter test, (List.filter_sublist.map Prod.fst).nodup map.nodup⟩

end OrderedMap

/-- The signal with a flag for every core that is available and for no other one. -/
def Signal.carried (cores : List CoreId) (signal : Signal) : Signal :=
  { signal with
    destinations := .ofPairs (cores.map fun id => (id.destinationKey, signal.isDestination id.text))
    unreadable := .empty }

namespace Project

/-- The systems that have cores. -/
def populated (project : Project) : OrderedMap (OrderedMap Core) :=
  project.cores.filter fun soc => !soc.2.isEmpty

/-- The project that arrives: what the workbook does not carry is as in a new project. -/
def carried (project : Project) : Project :=
  { template project.metadata.date with
    metadata := project.metadata
    socType := project.socType
    buildType := project.buildType
    socList := project.socType ::
      project.populated.keys.filter fun soc => decide (soc ≠ project.socType)
    buildList := [project.buildType]
    cores := project.populated
    signals := project.signals.mapValues fun _ signal => signal.carried project.availableCores
    exportSheet := project.exportSheet }

/-- What is found in the workbook of a project: that the structs have no members. -/
def notices (project : Project) : List Finding :=
  project.signals.entries.zipIdx.flatMap fun (entry, i) =>
    (entry.2.notices entry.1).map fun cause => ⟨Exchange.signalSheet, some (i + 2), cause⟩

theorem Portable.notices_eq_nil {project : Project} (h : project.Portable) : project.notices = [] := by
  rw [notices, List.flatMap_eq_nil_iff]
  intro item hitem
  have hstruct : ¬ item.1.2.isStruct = true := by
    rw [Signal.isStruct_iff]
    exact (h.signals item.1 (List.fst_mem_of_mem_zipIdx hitem)).noStruct
  simp [Signal.notices, hstruct]

end Project

/-- Each available core is a destination of the carried signal if it was one of the signal. -/
theorem Signal.isDestination_carried (signal : Signal) {cores : List CoreId} {id : CoreId}
    (h : id ∈ cores) :
    (signal.carried cores).isDestination id.text = signal.isDestination id.text := by
  have hpairs : (cores.map fun id => (id.destinationKey, signal.isDestination id.text)) =
      (cores.map CoreId.text).map fun text =>
        (destinationKey text, (signal.destinations.get? (destinationKey text)).getD false) := by
    rw [List.map_map]
    rfl
  have hget : (signal.carried cores).destinations.get? (destinationKey id.text) =
      some (signal.isDestination id.text) := by
    rw [carried, hpairs]
    exact @Entries.get?_ofPairs_map Bool destinationKey
      (fun key => (signal.destinations.get? key).getD false) _ _ (List.mem_map_of_mem h)
  rw [isDestination, hget, Option.getD_some]

end SignalCatalog
