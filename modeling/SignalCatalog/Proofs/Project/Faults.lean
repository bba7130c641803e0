import SignalCatalog.Proofs.Project.Soundness

/-!
# Faults of a project

Which rules a project breaks, said for each rule without the check that finds it. The main statements
are that the violations of the lists and those of a signal are exactly these faults.
-/

namespace SignalCatalog.Project

variable {project : Project} {violation : Violation}

/-- A fault of the lists and selections, as the violation that reports it. -/
inductive ListFault (project : Project) : Violation → Prop
  | soc (h : project.socType ∉ project.socList) :
    ListFault project (.socTypeNotListed project.socType)
  | build (h : project.buildType ∉ project.buildList) :
    ListFault project (.buildTypeNotListed project.buildType)
  | repeatedSoc {soc : String} (h : 1 < project.socList.count soc) :
    ListFault project (.duplicateSoc soc)
  | repeatedBuild {build : String} (h : 1 < project.buildList.count build) :
    ListFault project (.duplicateBuildType build)
  | cores {soc : String} (hcores : soc ∈ project.cores.keys) (h : soc ∉ project.socList) :
    ListFault project (.coreSocNotListed soc)

/-- A fault of one signal, as the violation that reports it. -/
inductive SignalFault (project : Project) (name : String) (signal : Signal) : Violation → Prop
  | source (hfilled : Text.trimmed signal.source ≠ "")
      (h : ∀ id, CoreId.ofText? signal.source = some id → project.hasCore id = false) :
    SignalFault project name signal (.unknownSource name signal.source)
  | destination {id : CoreId} (hsource : CoreId.ofText? signal.source = some id)
      (hcore : project.hasCore id = true) (h : signal.isDestination id.text = true) :
    SignalFault project name signal (.sourceIsDestination name signal.source)
  | members (htype : signal.dataType ≠ .struct) (h : signal.fields ≠ []) :
    SignalFault project name signal (.membersWithoutStruct name)
  | noMembers (htype : signal.dataType = .struct) (h : signal.fields = []) :
    SignalFault project name signal (.structWithoutMembers name)
  | depth (h : StructField.maxDepth < signal.depth) :
    SignalFault project name signal (.structTooDeep name signal.depth StructField.maxDepth)
  | number {range : FieldRange} {value : UInt32} (hfield : (range, value) ∈ signal.rangedFields)
      (h : ¬ range.OnStep value) :
    SignalFault project name signal
      (.outOfRange name range.field value range.min range.max range.step)

/-! ## Lists and selections -/

theorem mem_foldl_noteRepeated {list seen again : List String} {item : String} :
    item ∈ (list.foldl noteRepeated (seen, again)).2 ↔
      item ∈ again ∨ (item ∈ seen ∧ item ∈ list) ∨ 1 < list.count item := by
  induction list generalizing seen again with
  | nil => simp
  | cons first rest ih =>
    rw [List.foldl_cons]
    by_cases hs : first ∈ seen
    · rw [noteRepeated_old hs, ih]
      by_cases hi : first = item
      · subst hi
        refine iff_of_true (Or.inl ?_) (Or.inr (Or.inl ⟨hs, List.mem_cons_self⟩))
        split <;> simp_all
      · have hagain : item ∈ (if first ∈ again then again else first :: again) ↔ item ∈ again := by
          split <;> simp [Ne.symm hi]
        rw [hagain, List.count_cons_of_ne hi, List.mem_cons]
        simp [Ne.symm hi]
    · rw [noteRepeated_new hs, ih]
      by_cases hi : first = item
      · subst hi
        have hcount : 0 < rest.count first ↔ first ∈ rest := List.count_pos_iff
        have hmore : 1 < rest.count first + 1 ↔ first ∈ rest := by
          rw [← hcount]
          omega
        have hsome : 1 < rest.count first → first ∈ rest := fun h => hcount.mp (by omega)
        rw [List.count_cons_self, hmore]
        simp only [List.mem_cons, true_or, true_and, hs, false_and, false_or,
          or_iff_left_of_imp hsome]
      · rw [List.count_cons_of_ne hi, List.mem_cons, List.mem_cons]
        simp [Ne.symm hi]

/-- What is repeated is what occurs more than once. -/
theorem mem_repeated_iff {list : List String} {item : String} :
    item ∈ repeated list ↔ 1 < list.count item := by
  rw [repeated_eq, List.mem_reverse, mem_foldl_noteRepeated]
  simp

theorem mem_structuralViolations_iff :
    violation ∈ project.structuralViolations ↔ project.ListFault violation := by
  simp only [structuralViolations, List.mem_append, List.mem_map, List.mem_filter,
    mem_repeated_iff, decide_eq_true_eq]
  constructor
  · rintro ((((h | h) | ⟨soc, h, rfl⟩) | ⟨build, h, rfl⟩) | ⟨soc, ⟨hcores, h⟩, rfl⟩)
    · split at h
      · simp at h
      · rename_i hsoc
        rw [List.mem_singleton.mp h]
        exact .soc hsoc
    · split at h
      · simp at h
      · rename_i hbuild
        rw [List.mem_singleton.mp h]
        exact .build hbuild
    · exact .repeatedSoc h
    · exact .repeatedBuild h
    · exact .cores hcores h
  · intro h
    cases h with
    | soc h => simp [h]
    | build h => simp [h]
    | repeatedSoc h => exact Or.inl (Or.inl (Or.inr ⟨_, h, rfl⟩))
    | repeatedBuild h => exact Or.inl (Or.inr ⟨_, h, rfl⟩)
    | cores hcores h => exact Or.inr ⟨_, ⟨hcores, h⟩, rfl⟩

/-! ## Signals -/

variable {name : String} {signal : Signal}

theorem mem_sourceViolations_iff : violation ∈ project.sourceViolations name signal ↔
    (violation = .unknownSource name signal.source ∧ Text.trimmed signal.source ≠ "" ∧
      ∀ id, CoreId.ofText? signal.source = some id → project.hasCore id = false) ∨
    (violation = .sourceIsDestination name signal.source ∧
      ∃ id, CoreId.ofText? signal.source = some id ∧ project.hasCore id = true ∧
        signal.isDestination id.text = true) := by
  by_cases hb : Text.trimmed signal.source = ""
  · have hnone : CoreId.ofText? signal.source = none := by
      rw [Option.eq_none_iff_forall_ne_some]
      intro id hid
      have htext := CoreId.text_of_ofText? hid
      rw [hb, ← String.toList_inj] at htext
      simp [CoreId.text] at htext
    simp [sourceViolations, hb, hnone, Text.trimmed_eq_empty_iff.mp hb]
  · have hblank : Text.blank signal.source = false := by
      simpa [Text.trimmed_eq_empty_iff] using hb
    simp only [sourceViolations, hblank, sourceId?_of_not_blank hb, Bool.false_eq_true, if_false]
    cases hid : CoreId.ofText? signal.source with
    | none => simp [hb]
    | some id =>
      rw [CoreId.text_of_ofText? hid] at hb ⊢
      cases hcore : project.hasCore id <;> cases hdest : signal.isDestination id.text <;>
        simp [hcore, hdest, hb]

theorem mem_structViolations_iff : violation ∈ signal.structViolations name ↔
    (violation = .membersWithoutStruct name ∧ signal.dataType ≠ .struct ∧ signal.fields ≠ []) ∨
    (violation = .structWithoutMembers name ∧ signal.dataType = .struct ∧ signal.fields = []) ∨
    (violation = .structTooDeep name signal.depth StructField.maxDepth ∧
      StructField.maxDepth < signal.depth) := by
  have hdeep : violation ∈ (if StructField.maxDepth < signal.depth then
      [Violation.structTooDeep name signal.depth StructField.maxDepth] else []) ↔
      violation = .structTooDeep name signal.depth StructField.maxDepth ∧
        StructField.maxDepth < signal.depth := by
    split <;> simp_all
  rw [Signal.structViolations, List.mem_append, hdeep, ← or_assoc]
  refine or_congr_left ?_
  simp only [ne_eq, ← signal.isStruct_iff]
  cases signal.isStruct <;> cases signal.fields <;> simp

theorem mem_rangeViolations_iff : violation ∈ signal.rangeViolations name ↔
    ∃ range value, (range, value) ∈ signal.rangedFields ∧ ¬ range.OnStep value ∧
      violation = .outOfRange name range.field value range.min range.max range.step := by
  simp only [Signal.rangeViolations, List.mem_filterMap, Prod.exists, ← FieldRange.contains_iff]
  refine exists₂_congr fun range value => and_congr_right fun _ => ?_
  by_cases hrange : range.contains value = true
  · simp [hrange]
  · simpa [hrange] using eq_comm

theorem mem_signalViolations_iff :
    violation ∈ project.signalViolations name signal ↔
      project.SignalFault name signal violation := by
  rw [signalViolations, List.mem_append, List.mem_append, mem_sourceViolations_iff,
    mem_structViolations_iff, mem_rangeViolations_iff]
  constructor
  · rintro (((⟨rfl, hfilled, h⟩ | ⟨rfl, id, hid, hcore, h⟩) | ⟨rfl, htype, h⟩ | ⟨rfl, htype, h⟩ |
      ⟨rfl, h⟩) | ⟨range, value, hfield, h, rfl⟩)
    · exact .source hfilled h
    · exact .destination hid hcore h
    · exact .members htype h
    · exact .noMembers htype h
    · exact .depth h
    · exact .number hfield h
  · intro h
    cases h with
    | source hfilled h => exact Or.inl (Or.inl (Or.inl ⟨rfl, hfilled, h⟩))
    | destination hid hcore h => exact Or.inl (Or.inl (Or.inr ⟨rfl, _, hid, hcore, h⟩))
    | members htype h => exact Or.inl (Or.inr (Or.inl ⟨rfl, htype, h⟩))
    | noMembers htype h => exact Or.inl (Or.inr (Or.inr (Or.inl ⟨rfl, htype, h⟩)))
    | depth h => exact Or.inl (Or.inr (Or.inr (Or.inr ⟨rfl, h⟩)))
    | number hfield h => exact Or.inr ⟨_, _, hfield, h, rfl⟩

end SignalCatalog.Project
