import SignalCatalog.Proofs.Editing.Edit
import SignalCatalog.Proofs.Editing.Violations
import SignalCatalog.Proofs.Project.Lists
import SignalCatalog.Proofs.Record.Project

/-!
# Edited projects may be stored

An edit whose payload may be stored gives such a project, and it leaves the lists repaired. So the
whole history of an editor may be stored, whatever was undone, redone, copied and pasted.
-/

namespace SignalCatalog

open Json

/-- What an edit puts into the project may be stored. -/
def Edit.Storable : Edit → Prop
  | addSignal _ signal => signal.Storable
  | updateSignal _ signal => signal.Storable
  | updateMetadata metadata => metadata.Storable
  | replaceProject project => project.Storable
  | addCore _ _ core => core.Storable
  | updateCore _ core => core.Storable
  | setInterfaces interfaces => interfaces.Storable
  | _ => True

namespace Signal

theorem Storable.clearDestination {signal : Signal} (h : signal.Storable) (key : String) :
    { signal with destinations := signal.destinations.erase key }.Storable where
  type := h.type
  names := h.names
  fields := h.fields
  extra := h.extra
  marked := fun other ho => h.marked other ((Entries.keys_erase_sublist key _).subset ho)
  unmarked := h.unmarked
  apart := fun other ho => h.apart other ((Entries.keys_erase_sublist key _).subset ho)

theorem Storable.renamed {signal : Signal} (h : signal.Storable) (name newName : String) :
    (Project.renamed name newName signal).Storable := by
  unfold Project.renamed
  split
  · exact ⟨h.type, h.names, h.fields, h.extra, h.marked, h.unmarked, h.apart⟩
  · exact h

end Signal

namespace Project

variable {project edited : Project}

theorem Storable.withSignals (h : project.Storable) {signals : OrderedMap Signal}
    (hs : ∀ entry ∈ signals.entries, entry.2.Storable) :
    { project with signals := signals }.Storable :=
  ⟨h.metadata, h.cores, hs, h.deployment, h.extra⟩

theorem Storable.withCores (h : project.Storable) {cores : OrderedMap (OrderedMap Core)}
    (hc : ∀ soc ∈ cores.entries, ∀ entry ∈ soc.2.entries, entry.2.Storable) :
    { project with cores := cores }.Storable :=
  ⟨h.metadata, hc, h.signals, h.deployment, h.extra⟩

theorem Storable.clearDestination (h : project.Storable) (id : CoreId) :
    (project.clearDestination id).Storable :=
  h.withSignals <| OrderedMap.forall_mapValues fun entry he =>
    (h.signals entry he).clearDestination id.destinationKey

theorem Storable.clearDestinations (cores : List CoreId) (h : project.Storable) :
    (cores.foldl Project.clearDestination project).Storable := by
  induction cores generalizing project with
  | nil => exact h
  | cons id rest ih => exact ih (h.clearDestination id)

theorem Storable.coresOf (h : project.Storable) (soc : String) :
    ∀ entry ∈ (project.coresOf soc).entries, entry.2.Storable := by
  unfold Project.coresOf
  cases hc : project.cores.get? soc with
  | none => simp
  | some cores => exact h.cores (soc, cores) (Entries.mem_of_get? hc)

theorem Storable.insertCores (h : project.Storable) {cores : OrderedMap Core}
    (hc : ∀ entry ∈ cores.entries, entry.2.Storable) (soc : String) :
    ∀ other ∈ (project.cores.insert soc cores).entries,
      ∀ entry ∈ other.2.entries, entry.2.Storable :=
  @OrderedMap.forall_insert _ _ _ _
    (fun cores : OrderedMap Core => ∀ entry ∈ cores.entries, entry.2.Storable) h.cores hc

end Project

namespace Edit

variable {project edited : Project} {edit : Edit}

/-- An edit gives a project that may be stored, if what it puts in may be. -/
theorem storable_run (he : edit.Storable) (hp : project.Storable)
    (h : edit.run project = .ok edited) : edited.Storable := by
  cases edit with
  | addSignal name signal =>
    obtain ⟨_, _, rfl⟩ := Project.addSignal_ok h
    exact hp.withSignals (OrderedMap.forall_insert hp.signals he)
  | deleteSignal name =>
    obtain ⟨_, rfl⟩ := Project.deleteSignal_ok h
    exact hp.withSignals (OrderedMap.forall_erase hp.signals)
  | renameSignal name newName =>
    obtain ⟨_, _, _, rfl⟩ := Project.renameSignal_ok h
    exact hp.withSignals (OrderedMap.forall_rekey hp.signals fun _ hs => hs.renamed _ _)
  | updateSignal name signal =>
    obtain ⟨_, rfl⟩ := Project.updateSignal_ok h
    exact hp.withSignals (OrderedMap.forall_insert hp.signals he)
  | setSocType soc =>
    obtain ⟨_, rfl⟩ := Project.setSocType_ok h
    exact ⟨hp.metadata, hp.cores, hp.signals, hp.deployment, hp.extra⟩
  | setBuildType build =>
    obtain ⟨_, rfl⟩ := Project.setBuildType_ok h
    exact ⟨hp.metadata, hp.cores, hp.signals, hp.deployment, hp.extra⟩
  | setBoard board =>
    rw [← Except.ok.inj h]
    exact ⟨hp.metadata, hp.cores, hp.signals, hp.deployment, hp.extra⟩
  | updateMetadata metadata =>
    rw [← Except.ok.inj h]
    exact ⟨he, hp.cores, hp.signals, hp.deployment, hp.extra⟩
  | replaceProject replacement =>
    rw [← Except.ok.inj h]
    exact he
  | addSoc name =>
    obtain ⟨_, _, _, rfl⟩ := Project.addSoc_ok h
    exact ⟨hp.metadata, hp.cores, hp.signals, hp.deployment, hp.extra⟩
  | removeSoc name =>
    obtain ⟨_, _, _, rfl⟩ := Project.removeSoc_ok h
    apply Project.Storable.clearDestinations
    exact ⟨hp.metadata, fun soc hsoc => hp.cores soc (Entries.mem_erase hsoc), hp.signals,
      hp.deployment, hp.extra⟩
  | addBuildType name =>
    obtain ⟨_, _, rfl⟩ := Project.addBuildType_ok h
    exact ⟨hp.metadata, hp.cores, hp.signals, hp.deployment, hp.extra⟩
  | removeBuildType name =>
    obtain ⟨_, _, rfl⟩ := Project.removeBuildType_ok h
    exact ⟨hp.metadata, hp.cores, hp.signals, hp.deployment, hp.extra⟩
  | addCore soc name core =>
    obtain ⟨_, _, _, rfl⟩ := Project.addCore_ok h
    exact hp.withCores (hp.insertCores (OrderedMap.forall_insert (hp.coresOf soc) he) soc)
  | updateCore id core =>
    obtain ⟨_, rfl⟩ := Project.updateCore_ok h
    exact hp.withCores (hp.insertCores (OrderedMap.forall_insert (hp.coresOf id.soc) he) id.soc)
  | removeCore id =>
    obtain ⟨_, _, rfl⟩ := Project.removeCore_ok h
    have hrest : ∀ entry ∈ ((project.coresOf id.soc).erase id.core).entries, entry.2.Storable :=
      OrderedMap.forall_erase (hp.coresOf id.soc)
    exact (hp.withCores (hp.insertCores hrest id.soc)).clearDestination id
  | setBoardOptions options =>
    rw [← Except.ok.inj h]
    exact ⟨hp.metadata, hp.cores, hp.signals, hp.deployment, hp.extra⟩
  | setPaths output script =>
    rw [← Except.ok.inj h]
    have hpaths : ({ project.deployment.paths with output, script } : Paths).Storable :=
      hp.deployment.paths
    exact ⟨hp.metadata, hp.cores, hp.signals,
      ⟨hpaths, hp.deployment.interfaces, hp.deployment.shared, hp.deployment.extra⟩, hp.extra⟩
  | setInterfaces interfaces =>
    rw [← Except.ok.inj h]
    exact ⟨hp.metadata, hp.cores, hp.signals,
      ⟨hp.deployment.paths, he, hp.deployment.shared, hp.deployment.extra⟩, hp.extra⟩
  | setScript kind path =>
    rw [← Except.ok.inj h]
    exact ⟨hp.metadata, hp.cores, hp.signals, hp.deployment, hp.extra⟩

theorem repaired_apply (hp : project.Repaired) (h : edit.apply project = .ok edited) :
    edited.Repaired := by
  rw [Project.repaired_iff_violations] at hp ⊢
  exact fun violation hv => hp violation (structural_subset_of_apply h hv)

end Edit

/-- What a request puts into the editor may be stored. -/
def Request.Storable : Request → Prop
  | .command (.edit edit) => edit.Storable
  | .command _ => True
  | .step _ => True
  | .reset project => project.Storable ∧ project.Repaired

namespace Editor

/-- Every project of the history and the signal in the clipboard may be stored. -/
structure Storable (editor : Editor) : Prop where
  projects : ∀ reached ∈ editor.history.toList, reached.Storable ∧ reached.Repaired
  clipboard : ∀ clipping ∈ editor.clipboard, clipping.signal.Storable

variable {editor : Editor}

theorem Storable.editOf? (h : editor.Storable) {command : Command}
    (hr : (Request.command command).Storable) {edit : Edit}
    (he : editor.editOf? command = some edit) : edit.Storable := by
  cases command with
  | edit change =>
    have hchange : change = edit := Option.some.inj he
    rw [← hchange]
    exact hr
  | copySignal name => simp [Editor.editOf?] at he
  | pasteSignal =>
    obtain ⟨clipping, hclip, rfl⟩ := Option.map_eq_some_iff.mp he
    exact h.clipboard clipping hclip

theorem Storable.handle (h : editor.Storable) {request : Request} (hr : request.Storable) :
    (editor.handle request).Storable where
  projects := by
    intro reached hm
    rcases mem_handle hm with hm | ⟨command, edit, rfl, he, ha⟩ | rfl
    · exact h.projects reached hm
    · obtain ⟨hstored, hrepaired⟩ := h.projects editor.project editor.project_mem
      exact ⟨Edit.storable_run (h.editOf? hr he) hstored (Edit.apply_ok ha).1,
        Edit.repaired_apply hrepaired ha⟩
    · exact hr
  clipboard := by
    intro clipping hm
    rcases mem_clipboard_handle hm with hm | ⟨name, hs⟩
    · exact h.clipboard clipping hm
    · have hstored := (h.projects editor.project editor.project_mem).1
      exact OrderedMap.forall_get? hstored.signals hs

end Editor

end SignalCatalog
