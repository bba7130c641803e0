import Mathlib.Data.List.Nodup
import SignalCatalog.Project
import SignalCatalog.Proofs.OrderedMap
import SignalCatalog.Proofs.Signal.Range
import SignalCatalog.Proofs.Text.Trimming

/-!
# Sound projects

What a project without violations is like, said without the checks: the selections are listed, the
lists have no repetitions, every system with cores is listed, and every signal is sound. The main
statement is that the list of violations is empty exactly for such projects.
-/

namespace SignalCatalog

/-- Whether a rule of the lists and selections is broken, not one of a signal. -/
def Violation.ofLists : Violation → Bool
  | socTypeNotListed _ => true
  | buildTypeNotListed _ => true
  | coreSocNotListed _ => true
  | duplicateSoc _ => true
  | duplicateBuildType _ => true
  | _ => false

namespace CoreId

/-- An identifier is read by cutting the trimmed text at its first dot. -/
theorem ofText?_eq_some_iff {text : String} {id : CoreId} :
    ofText? text = some id ↔
      Text.trimmed text = id.text ∧ '.' ∉ id.soc.toList ∧ id.soc ≠ "" ∧ id.core ≠ "" := by
  have htext : Text.trimmed text = id.text ↔
      Text.trim text.toList = id.soc.toList ++ '.' :: id.core.toList := by
    rw [← String.toList_inj, Text.toList_trimmed]
    simp [CoreId.text]
  rw [htext, ofText?]
  constructor
  · intro h
    cases hc : Text.cutAt? '.' (Text.trim text.toList) with
    | none => simp [hc] at h
    | some parts =>
      obtain ⟨soc, core⟩ := parts
      simp only [hc, Option.ite_none_left_eq_some, Option.some.injEq] at h
      obtain ⟨hne, rfl⟩ := h
      obtain ⟨hcut, hdot⟩ := Text.cutAt?_eq_some_iff.mp hc
      simp only [Bool.or_eq_true, List.isEmpty_iff, not_or] at hne
      exact ⟨by simpa using hcut, by simpa using hdot, by simpa using hne.1, by simpa using hne.2⟩
  · rintro ⟨hcut, hdot, hsoc, hcore⟩
    rw [Text.cutAt?_eq_some_iff.mpr ⟨hcut, hdot⟩]
    simp [hsoc, hcore]

theorem text_of_ofText? {text : String} {id : CoreId} (h : ofText? text = some id) :
    Text.trimmed text = id.text := (ofText?_eq_some_iff.mp h).1

end CoreId

namespace Signal

/-- A struct has members and nothing else has, and members nest no deeper than allowed. -/
structure WellShaped (signal : Signal) : Prop where
  members : signal.dataType = .struct ↔ signal.fields ≠ []
  depth : signal.depth ≤ StructField.maxDepth

def InRange (signal : Signal) : Prop :=
  ∀ field ∈ signal.rangedFields, field.1.OnStep field.2

theorem isStruct_iff (signal : Signal) : signal.isStruct = true ↔ signal.dataType = .struct := by
  unfold isStruct DataType.isStruct
  split <;> simp_all

theorem structViolations_eq_nil_iff (signal : Signal) (name : String) :
    signal.structViolations name = [] ↔ signal.WellShaped := by
  have hd : (if StructField.maxDepth < signal.depth then
      [Violation.structTooDeep name signal.depth StructField.maxDepth] else []) = [] ↔
      signal.depth ≤ StructField.maxDepth := by
    split <;> simp <;> omega
  have hshape : signal.WellShaped ↔
      (signal.isStruct = true ↔ signal.fields ≠ []) ∧ signal.depth ≤ StructField.maxDepth := by
    rw [isStruct_iff]
    exact ⟨fun h => ⟨h.1, h.2⟩, fun h => ⟨h.1, h.2⟩⟩
  rw [structViolations, List.append_eq_nil_iff, hd, hshape]
  cases signal.isStruct <;> cases signal.fields <;> simp

theorem rangeViolations_eq_nil_iff (signal : Signal) (name : String) :
    signal.rangeViolations name = [] ↔ signal.InRange := by
  simp only [rangeViolations, List.filterMap_eq_nil_iff, InRange, ← FieldRange.contains_iff]
  apply forall₂_congr
  intro field _
  simp

end Signal

namespace Project

/-- The available cores are exactly the identifiers under which a core is found. -/
theorem mem_availableCores_iff {project : Project} {id : CoreId} :
    id ∈ project.availableCores ↔ project.hasCore id = true := by
  unfold hasCore core? availableCores
  rw [Option.isSome_iff_exists]
  constructor
  · intro h
    obtain ⟨⟨soc, cores⟩, hcores, hid⟩ := List.mem_flatMap.mp h
    obtain ⟨name, hname, rfl⟩ := List.mem_map.mp hid
    obtain ⟨⟨_, core⟩, hcore, rfl⟩ := List.mem_map.mp hname
    have hsoc : project.cores.get? soc = some cores :=
      Entries.get?_of_mem project.cores.nodup hcores
    exact ⟨core, Option.bind_eq_some_iff.mpr ⟨cores, hsoc, Entries.get?_of_mem cores.nodup hcore⟩⟩
  · rintro ⟨core, hcore⟩
    obtain ⟨cores, hcores, hget⟩ := Option.bind_eq_some_iff.mp hcore
    refine List.mem_flatMap.mpr ⟨(id.soc, cores), Entries.mem_of_get? hcores, ?_⟩
    exact List.mem_map.mpr ⟨id.core, Entries.mem_keys_of_mem (Entries.mem_of_get? hget), rfl⟩

/-- The source is blank or names a core that is no destination of the signal. -/
def SoundSource (project : Project) (signal : Signal) : Prop :=
  Text.trimmed signal.source = "" ∨
    ∃ id, CoreId.ofText? signal.source = some id ∧ project.hasCore id = true ∧
      signal.isDestination id.text = false

structure SoundSignal (project : Project) (signal : Signal) : Prop where
  source : project.SoundSource signal
  shape : signal.WellShaped
  numbers : signal.InRange

structure Sound (project : Project) : Prop where
  soc : project.socType ∈ project.socList
  build : project.buildType ∈ project.buildList
  socs : project.socList.Nodup
  builds : project.buildList.Nodup
  cores : ∀ soc ∈ project.cores.keys, soc ∈ project.socList
  signals : ∀ entry ∈ project.signals.entries, project.SoundSignal entry.2

/-- One round of `repeated`: the texts that have occurred and those that have occurred again. -/
def noteRepeated : List String × List String → String → List String × List String
  | (seen, again), item =>
    if item ∈ seen then (seen, if item ∈ again then again else item :: again)
    else (item :: seen, again)

theorem repeated_eq (list : List String) :
    repeated list = (list.foldl noteRepeated ([], [])).2.reverse := rfl

theorem noteRepeated_old {seen again : List String} {item : String} (h : item ∈ seen) :
    noteRepeated (seen, again) item = (seen, if item ∈ again then again else item :: again) :=
  if_pos h

theorem noteRepeated_new {seen again : List String} {item : String} (h : item ∉ seen) :
    noteRepeated (seen, again) item = (item :: seen, again) :=
  if_neg h

theorem foldl_noteRepeated_eq_nil_iff (list seen again : List String) :
    (list.foldl noteRepeated (seen, again)).2 = [] ↔
      again = [] ∧ list.Nodup ∧ ∀ item ∈ list, item ∉ seen := by
  induction list generalizing seen again with
  | nil => simp
  | cons item rest ih =>
    by_cases hs : item ∈ seen
    · rw [List.foldl_cons, noteRepeated_old hs, ih]
      constructor
      · rintro ⟨h, _⟩
        split at h
        · rename_i hmem
          simp [h] at hmem
        · simp at h
      · rintro ⟨_, _, h⟩
        exact False.elim (h item List.mem_cons_self hs)
    · rw [List.foldl_cons, noteRepeated_new hs, ih]
      simp only [List.nodup_cons, List.mem_cons, forall_eq_or_imp, not_or]
      constructor
      · rintro ⟨ha, hn, h⟩
        exact ⟨ha, ⟨fun hmem => (h item hmem).1 rfl, hn⟩, hs, fun other ho => (h other ho).2⟩
      · rintro ⟨ha, ⟨hmem, hn⟩, _, h⟩
        exact ⟨ha, hn, fun other ho => ⟨fun he => hmem (he ▸ ho), h other ho⟩⟩

theorem repeated_eq_nil_iff (list : List String) : repeated list = [] ↔ list.Nodup := by
  rw [repeated_eq, List.reverse_eq_nil_iff, foldl_noteRepeated_eq_nil_iff]
  simp

theorem structuralViolations_eq_nil_iff (project : Project) :
    project.structuralViolations = [] ↔
      project.socType ∈ project.socList ∧ project.buildType ∈ project.buildList ∧
      project.socList.Nodup ∧ project.buildList.Nodup ∧
      ∀ soc ∈ project.cores.keys, soc ∈ project.socList := by
  simp only [structuralViolations, List.append_eq_nil_iff, List.map_eq_nil_iff,
    repeated_eq_nil_iff, List.filter_eq_nil_iff, decide_eq_true_eq, not_not, and_assoc]
  simp

theorem sourceId?_of_not_blank {signal : Signal} (h : ¬ Text.trimmed signal.source = "") :
    signal.sourceId? = CoreId.ofText? signal.source := by
  rw [Text.trimmed_eq_empty_iff] at h
  simp [Signal.sourceId?, h]

theorem sourceViolations_eq_nil_iff (project : Project) (name : String) (signal : Signal) :
    project.sourceViolations name signal = [] ↔ project.SoundSource signal := by
  by_cases hb : Text.trimmed signal.source = ""
  · simp [sourceViolations, SoundSource, hb, Text.trimmed_eq_empty_iff.mp hb]
  · have hblank : Text.blank signal.source = false := by
      simpa [Text.trimmed_eq_empty_iff] using hb
    simp only [sourceViolations, SoundSource, hblank, hb, sourceId?_of_not_blank hb,
      Bool.false_eq_true, if_false, false_or]
    cases hid : CoreId.ofText? signal.source with
    | none => simp
    | some id =>
      rw [CoreId.text_of_ofText? hid]
      cases hcore : project.hasCore id <;> cases hdest : signal.isDestination id.text <;>
        simp [hcore, hdest]

theorem signalViolations_eq_nil_iff (project : Project) (name : String) (signal : Signal) :
    project.signalViolations name signal = [] ↔ project.SoundSignal signal := by
  simp only [signalViolations, List.append_eq_nil_iff, sourceViolations_eq_nil_iff,
    signal.structViolations_eq_nil_iff, signal.rangeViolations_eq_nil_iff]
  exact ⟨fun h => ⟨h.1.1, h.1.2, h.2⟩, fun h => ⟨⟨h.1, h.2⟩, h.3⟩⟩

theorem ofLists_of_structural {project : Project} {violation : Violation}
    (h : violation ∈ project.structuralViolations) : violation.ofLists = true := by
  simp only [structuralViolations, List.mem_append, List.mem_map] at h
  rcases h with (((h | h) | ⟨_, _, rfl⟩) | ⟨_, _, rfl⟩) | ⟨_, _, rfl⟩
  · split at h
    · simp at h
    · rw [List.mem_singleton.mp h]
      rfl
  · split at h
    · simp at h
    · rw [List.mem_singleton.mp h]
      rfl
  all_goals rfl

theorem ofLists_of_signal {project : Project} {name : String} {signal : Signal}
    {violation : Violation} (h : violation ∈ project.signalViolations name signal) :
    violation.ofLists = false := by
  have hnone : ∀ list : List Violation, violation ∈ list →
      (∀ other ∈ list, other.ofLists = false) → violation.ofLists = false :=
    fun _ hv hall => hall violation hv
  simp only [signalViolations, List.mem_append] at h
  rcases h with (h | h) | h
  · apply hnone _ h
    unfold sourceViolations
    split
    · simp
    · split
      · split
        · simp [Violation.ofLists]
        · split <;> simp [Violation.ofLists]
      · simp [Violation.ofLists]
  · apply hnone _ h
    unfold Signal.structViolations
    split <;> split <;> simp [Violation.ofLists]
  · simp only [Signal.rangeViolations, List.mem_filterMap] at h
    obtain ⟨field, _, hfield⟩ := h
    split at hfield
    · simp at hfield
    · rw [← Option.some.inj hfield]
      rfl

/-- The checks find nothing exactly in sound projects. -/
theorem violations_eq_nil_iff (project : Project) : project.violations = [] ↔ project.Sound := by
  simp only [violations, List.append_eq_nil_iff, structuralViolations_eq_nil_iff,
    List.flatMap_eq_nil_iff, signalViolations_eq_nil_iff]
  constructor
  · rintro ⟨⟨hs, hb, hsocs, hbuilds, hc⟩, hsig⟩
    exact ⟨hs, hb, hsocs, hbuilds, hc, hsig⟩
  · intro h
    exact ⟨⟨h.soc, h.build, h.socs, h.builds, h.cores⟩, h.signals⟩

end Project

end SignalCatalog
