import SignalCatalog.Editing.Edit

/-!
# What an accepted edit does

For each edit with rules of its own: what holds of a project that it accepts, and what becomes of it.
-/

namespace SignalCatalog.Project

variable {project edited : Project} {name : String}

theorem bind_newName {entity : Entity} {next : String → Except EditError Project}
    (h : (newName entity name >>= next) = .ok edited) :
    Text.trimmed name ≠ "" ∧ next (Text.trimmed name) = .ok edited := by
  unfold newName at h
  by_cases hempty : Text.trimmed name = ""
  · simp [hempty, bind, Except.bind] at h
  · simp only [String.isEmpty_iff, hempty, if_false, bind, Except.bind] at h
    exact ⟨hempty, h⟩

theorem addSignal_ok {signal : Signal} (h : project.addSignal name signal = .ok edited) :
    Text.trimmed name ≠ "" ∧ project.signals.contains (Text.trimmed name) = false ∧
      edited = { project with signals := project.signals.insert (Text.trimmed name) signal } := by
  obtain ⟨hname, h⟩ := bind_newName h
  split at h
  · simp at h
  · rename_i hnew
    exact ⟨hname, by simpa using hnew, (Except.ok.inj h).symm⟩

theorem deleteSignal_ok (h : project.deleteSignal name = .ok edited) :
    project.signals.contains name = true ∧
      edited = { project with signals := project.signals.erase name } := by
  unfold deleteSignal at h
  split at h
  · rename_i hold
    exact ⟨hold, (Except.ok.inj h).symm⟩
  · simp at h

theorem renameSignal_ok {newName : String} (h : project.renameSignal name newName = .ok edited) :
    Text.trimmed newName ≠ "" ∧ project.signals.contains (Text.trimmed newName) = false ∧
      project.signals.contains name = true ∧
      edited = { project with
        signals := project.signals.rekey name (Text.trimmed newName)
          (renamed name (Text.trimmed newName)) } := by
  obtain ⟨hname, h⟩ := bind_newName h
  split at h
  · simp at h
  · split at h
    · rename_i hnew hold
      exact ⟨hname, by simpa using hnew, hold, (Except.ok.inj h).symm⟩
    · simp at h

theorem updateSignal_ok {signal : Signal} (h : project.updateSignal name signal = .ok edited) :
    project.signals.contains name = true ∧
      edited = { project with signals := project.signals.insert name signal } := by
  unfold updateSignal at h
  split at h
  · rename_i hold
    exact ⟨hold, (Except.ok.inj h).symm⟩
  · simp at h

theorem setSocType_ok {soc : String} (h : project.setSocType soc = .ok edited) :
    soc ∈ project.socList ∧ edited = { project with socType := soc } := by
  unfold setSocType at h
  split at h
  · rename_i hsoc
    exact ⟨hsoc, (Except.ok.inj h).symm⟩
  · simp at h

theorem setBuildType_ok {build : String} (h : project.setBuildType build = .ok edited) :
    build ∈ project.buildList ∧ edited = { project with buildType := build } := by
  unfold setBuildType at h
  split at h
  · rename_i hbuild
    exact ⟨hbuild, (Except.ok.inj h).symm⟩
  · simp at h

theorem addSoc_ok (h : project.addSoc name = .ok edited) :
    Text.trimmed name ≠ "" ∧ '.' ∉ (Text.trimmed name).toList ∧
      Text.trimmed name ∉ project.socList ∧
      edited = { project with socList := project.socList ++ [Text.trimmed name] } := by
  obtain ⟨hname, h⟩ := bind_newName h
  split at h
  · simp at h
  · split at h
    · simp at h
    · rename_i hdot hnew
      exact ⟨hname, hdot, hnew, (Except.ok.inj h).symm⟩

/-- The cores of a system. -/
def coresOf (project : Project) (soc : String) : OrderedMap Core :=
  (project.cores.get? soc).getD .empty

/-- The identifiers of the cores of a system. -/
def coreIdsOf (project : Project) (soc : String) : List CoreId :=
  (project.coresOf soc).keys.map fun core => ⟨soc, core⟩

theorem removeSoc_ok (h : project.removeSoc name = .ok edited) :
    name ∈ project.socList ∧ project.socType ≠ name ∧ project.sourcedFromSoc name = [] ∧
      edited = (project.coreIdsOf name).foldl clearDestination { project with
        socList := project.socList.erase name
        cores := project.cores.erase name } := by
  unfold removeSoc at h
  split at h
  · simp at h
  · split at h
    · simp at h
    · rename_i hlisted hselected
      cases hsourced : project.sourcedFromSoc name with
      | cons signal rest => simp [hsourced] at h
      | nil =>
        simp only [hsourced, Except.ok.injEq] at h
        refine ⟨Decidable.not_not.mp hlisted, hselected, rfl, ?_⟩
        rw [← h, coreIdsOf, coresOf, List.foldl_map]
        cases project.cores.get? name <;> rfl

theorem addBuildType_ok (h : project.addBuildType name = .ok edited) :
    Text.trimmed name ≠ "" ∧ Text.trimmed name ∉ project.buildList ∧
      edited = { project with buildList := project.buildList ++ [Text.trimmed name] } := by
  obtain ⟨hname, h⟩ := bind_newName h
  split at h
  · simp at h
  · rename_i hnew
    exact ⟨hname, hnew, (Except.ok.inj h).symm⟩

theorem removeBuildType_ok (h : project.removeBuildType name = .ok edited) :
    name ∈ project.buildList ∧ project.buildType ≠ name ∧
      edited = { project with buildList := project.buildList.erase name } := by
  unfold removeBuildType at h
  split at h
  · simp at h
  · split at h
    · simp at h
    · rename_i hlisted hselected
      exact ⟨Decidable.not_not.mp hlisted, hselected, (Except.ok.inj h).symm⟩

theorem addCore_ok {soc : String} {core : Core} (h : project.addCore soc name core = .ok edited) :
    soc ∈ project.socList ∧ Text.trimmed name ≠ "" ∧
      (project.coresOf soc).contains (Text.trimmed name) = false ∧
      edited = { project with
        cores := project.cores.insert soc ((project.coresOf soc).insert (Text.trimmed name) core) } := by
  unfold addCore at h
  split at h
  · simp at h
  · rename_i hsoc
    obtain ⟨hname, h⟩ := bind_newName h
    dsimp only at h
    split at h
    · simp at h
    · rename_i hnew
      exact ⟨Decidable.not_not.mp hsoc, hname, by simpa [coresOf] using hnew, (Except.ok.inj h).symm⟩

theorem updateCore_ok {id : CoreId} {core : Core} (h : project.updateCore id core = .ok edited) :
    project.hasCore id = true ∧
      edited = { project with
        cores := project.cores.insert id.soc ((project.coresOf id.soc).insert id.core core) } := by
  unfold updateCore at h
  cases hc : project.cores.get? id.soc with
  | none => simp [hc] at h
  | some cores =>
    simp only [hc] at h
    split at h
    · rename_i hcore
      refine ⟨by simpa [hasCore, core?, hc, OrderedMap.contains] using hcore, ?_⟩
      rw [← Except.ok.inj h, coresOf, hc, Option.getD_some]
    · simp at h

theorem removeCore_ok {id : CoreId} (h : project.removeCore id = .ok edited) :
    project.hasCore id = true ∧ project.sourcedFrom id = [] ∧
      edited = { project with
        cores := project.cores.insert id.soc ((project.coresOf id.soc).erase id.core) }.clearDestination id := by
  unfold removeCore at h
  split at h
  · simp at h
  · rename_i hcore
    cases hsourced : project.sourcedFrom id with
    | cons signal rest => simp [hsourced] at h
    | nil =>
      simp only [hsourced, Except.ok.injEq] at h
      exact ⟨by simpa using hcore, rfl, h.symm⟩

end SignalCatalog.Project
