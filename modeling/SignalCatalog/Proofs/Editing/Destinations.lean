import SignalCatalog.Proofs.Editing.Edit
import SignalCatalog.Proofs.Editing.Violations
import SignalCatalog.Proofs.Text.Joined

/-!
# What a destination flag stands for

A flag stands under a key that has underscores for dots, so that a core with a dot in its name shares
the key of one with an underscore in its place. Here is which cores share a key, and that nothing else
is ever confused: a removal or a flag that is set reaches exactly the cores of one key.
-/

namespace SignalCatalog

/-! ## Keys -/

/-- The text with underscores for dots. -/
def underscored (text : String) : String :=
  String.ofList (text.toList.map fun c => if c = '.' then '_' else c)

theorem destinationKey_eq (text : String) :
    destinationKey text = destinationMark ++ underscored text := rfl

theorem destinationKey_eq_iff {text other : String} :
    destinationKey text = destinationKey other ↔ underscored text = underscored other := by
  rw [destinationKey_eq, destinationKey_eq, ← String.toList_inj, String.toList_append,
    String.toList_append, List.append_cancel_left_eq, String.toList_inj]

theorem underscored_eq_self {text : String} (h : '.' ∉ text.toList) : underscored text = text := by
  have hmap : (text.toList.map fun c => if c = '.' then '_' else c) = text.toList := by
    conv_rhs => rw [← List.map_id text.toList]
    apply List.map_congr_left
    intro c hc
    have hne : c ≠ '.' := fun he => h (he ▸ hc)
    simp [hne]
  rw [underscored, hmap, String.ofList_toList]

namespace CoreId

theorem underscored_text (id : CoreId) :
    underscored id.text = underscored id.soc ++ "_" ++ underscored id.core := by
  rw [← String.toList_inj]
  simp [underscored, text]

/-- Two cores share a key if they differ at most in dots for underscores, or if the name of one system
goes on with what the name of the other's core starts with. -/
theorem destinationKey_eq_iff (id other : CoreId) :
    id.destinationKey = other.destinationKey ↔
      (underscored id.soc = underscored other.soc ∧ underscored id.core = underscored other.core) ∨
      (∃ middle, underscored other.soc = underscored id.soc ++ "_" ++ middle ∧
        underscored id.core = middle ++ "_" ++ underscored other.core) ∨
      ∃ middle, underscored id.soc = underscored other.soc ++ "_" ++ middle ∧
        underscored other.core = middle ++ "_" ++ underscored id.core := by
  rw [destinationKey, destinationKey, SignalCatalog.destinationKey_eq_iff, underscored_text,
    underscored_text, Text.joined_eq_iff]

/-- Without dots in names, and without underscores in those of systems, cores have distinct keys. -/
theorem destinationKey_inj {id other : CoreId}
    (hid : '.' ∉ id.soc.toList ∧ '_' ∉ id.soc.toList ∧ '.' ∉ id.core.toList)
    (hother : '.' ∉ other.soc.toList ∧ '_' ∉ other.soc.toList ∧ '.' ∉ other.core.toList)
    (h : id.destinationKey = other.destinationKey) : id = other := by
  rw [destinationKey_eq_iff, underscored_eq_self hid.1, underscored_eq_self hid.2.2,
    underscored_eq_self hother.1, underscored_eq_self hother.2.2] at h
  rcases h with ⟨hsoc, hcore⟩ | ⟨middle, hsoc, _⟩ | ⟨middle, hsoc, _⟩
  · cases id
    cases other
    exact congrArg₂ mk hsoc hcore
  · exact False.elim (hother.2.1 (by simp [hsoc]))
  · exact False.elim (hid.2.1 (by simp [hsoc]))

end CoreId

namespace Signal

theorem isDestination_eq (signal : Signal) (id : String) :
    signal.isDestination id = (signal.destinations.get? (destinationKey id)).getD false := rfl

/-- A flag that is set reaches every core of its key and no other. -/
theorem isDestination_setDestination (signal : Signal) (id other : String) (enabled : Bool) :
    (signal.setDestination id enabled).isDestination other =
      if destinationKey other = destinationKey id then enabled else signal.isDestination other := by
  simp only [isDestination_eq, setDestination, OrderedMap.get?_insert]
  split <;> rfl

end Signal

/-! ## Removals -/

namespace Project

variable {project edited : Project} {name : String} {id other : CoreId}

/-- The signals of a project without the flags of some cores. -/
def ClearedOf (edited project : Project) (gone : List CoreId) : Prop :=
  ∀ name signal, project.signals.get? name = some signal →
    ∃ kept, edited.signals.get? name = some kept ∧
      ∀ text, kept.isDestination text = true ↔
        signal.isDestination text = true ∧ ∀ id ∈ gone, destinationKey text ≠ id.destinationKey

theorem clearedOf_nil (h : edited.signals = project.signals) : edited.ClearedOf project [] := by
  intro name signal hs
  exact ⟨signal, by rw [h, hs], by simp⟩

theorem ClearedOf.clearDestination {gone : List CoreId} (h : edited.ClearedOf project gone)
    (id : CoreId) : (edited.clearDestination id).ClearedOf project (id :: gone) := by
  intro name signal hs
  obtain ⟨kept, hkept, hflags⟩ := h name signal hs
  refine ⟨{ kept with destinations := kept.destinations.erase id.destinationKey }, ?_, ?_⟩
  · simp [Project.clearDestination, OrderedMap.get?_mapValues, hkept]
  · intro text
    have htext := hflags text
    simp only [Signal.isDestination_eq, OrderedMap.get?_erase, List.forall_mem_cons] at htext ⊢
    by_cases hkey : destinationKey text = id.destinationKey
    · simp [hkey]
    · simp [hkey, htext]

theorem clearedOf_foldl (gone : List CoreId) {cleared : List CoreId}
    (h : edited.ClearedOf project cleared) :
    (gone.foldl Project.clearDestination edited).ClearedOf project (gone.reverse ++ cleared) := by
  induction gone generalizing edited cleared with
  | nil => exact h
  | cons id rest ih => simpa using ih (h.clearDestination id)

theorem cores_foldl_clearDestination (gone : List CoreId) :
    (gone.foldl Project.clearDestination project).cores = project.cores := by
  induction gone generalizing project with
  | nil => rfl
  | cons id rest ih => exact ih

theorem core?_eq (project : Project) (id : CoreId) :
    project.core? id = (project.coresOf id.soc).get? id.core := by
  rw [core?, coresOf]
  cases project.cores.get? id.soc <;> rfl

theorem hasCore_iff_mem_keys :
    project.hasCore id = true ↔ id.core ∈ (project.coresOf id.soc).keys := by
  rw [hasCore, core?_eq, Option.isSome_iff_ne_none, OrderedMap.get?, ne_eq,
    Entries.get?_eq_none_iff, not_not]
  rfl

theorem mem_coreIdsOf_iff :
    id ∈ project.coreIdsOf name ↔ id.soc = name ∧ project.hasCore id = true := by
  rw [hasCore_iff_mem_keys, coreIdsOf, List.mem_map]
  constructor
  · rintro ⟨core, hcore, rfl⟩
    exact ⟨rfl, hcore⟩
  · rintro ⟨rfl, hcore⟩
    exact ⟨id.core, hcore, rfl⟩

/-- A removed core is no longer found, and all others are. -/
theorem hasCore_removeCore (h : project.removeCore id = .ok edited) :
    edited.hasCore other = true ↔ project.hasCore other = true ∧ other ≠ id := by
  obtain ⟨_, _, rfl⟩ := removeCore_ok h
  have hcores : ∀ soc, coresOf ({ project with
      cores := project.cores.insert id.soc ((project.coresOf id.soc).erase id.core)
      }.clearDestination id) soc =
      if soc = id.soc then (project.coresOf id.soc).erase id.core else project.coresOf soc := by
    intro soc
    simp only [coresOf, Project.clearDestination, OrderedMap.get?_insert]
    split <;> rfl
  have hid : other = id ↔ other.soc = id.soc ∧ other.core = id.core :=
    Iff.of_eq (CoreId.mk.injEq _ _ _ _)
  simp only [hasCore, core?_eq, hcores, ne_eq, hid]
  by_cases hsoc : other.soc = id.soc
  · by_cases hcore : other.core = id.core <;> simp [hsoc, hcore, OrderedMap.get?_erase]
  · simp [hsoc]

/-- With a system go its cores and no others. -/
theorem hasCore_removeSoc (h : project.removeSoc name = .ok edited) :
    edited.hasCore other = true ↔ project.hasCore other = true ∧ other.soc ≠ name := by
  obtain ⟨_, _, _, rfl⟩ := removeSoc_ok h
  simp only [hasCore, core?, cores_foldl_clearDestination, OrderedMap.get?_erase]
  by_cases hsoc : other.soc = name <;> simp [hsoc]

end Project

namespace Edit

variable {edit : Edit} {project edited : Project}

/-- Whether an edit removes cores. -/
def removesCores : Edit → Bool
  | removeCore _ => true
  | removeSoc _ => true
  | _ => false

/-- A removal takes the flags of exactly those cores that go. -/
theorem clearedOf_apply (hr : edit.removesCores = true) (h : edit.apply project = .ok edited) :
    ∃ gone, edited.ClearedOf project gone ∧
      ∀ id, id ∈ gone ↔ project.hasCore id = true ∧ edited.hasCore id = false := by
  have hrun := (apply_ok h).1
  cases edit with
  | removeCore id =>
    refine ⟨[id], ?_, ?_⟩
    · obtain ⟨_, _, he⟩ := Project.removeCore_ok hrun
      rw [he]
      exact (Project.clearedOf_nil rfl).clearDestination id
    · intro other
      have hother := @Project.hasCore_removeCore _ _ id other hrun
      rw [← Bool.not_eq_true, hother, List.mem_singleton]
      have hid := (Project.removeCore_ok hrun).1
      constructor
      · rintro rfl
        exact ⟨hid, fun h => h.2 rfl⟩
      · rintro ⟨hcore, hgone⟩
        exact Decidable.not_not.mp fun hne => hgone ⟨hcore, hne⟩
  | removeSoc name =>
    refine ⟨(project.coreIdsOf name).reverse ++ [], ?_, ?_⟩
    · obtain ⟨_, _, _, he⟩ := Project.removeSoc_ok hrun
      rw [he]
      exact Project.clearedOf_foldl _ (Project.clearedOf_nil rfl)
    · intro other
      have hother := @Project.hasCore_removeSoc _ _ name other hrun
      rw [← Bool.not_eq_true, hother, List.append_nil, List.mem_reverse,
        Project.mem_coreIdsOf_iff]
      tauto
  | _ => simp [removesCores] at hr

end Edit

/-- In every project a flag stands for the cores of one key: which cores share a key can be read off
their names, an accepted removal takes the flags of the keys of the cores that go and no others, and
setting a flag sets it for the cores of one key. -/
theorem Project.destinations_by_key (project : Project) :
    (∀ id other : CoreId, id.destinationKey = other.destinationKey ↔
      (underscored id.soc = underscored other.soc ∧ underscored id.core = underscored other.core) ∨
      (∃ middle, underscored other.soc = underscored id.soc ++ "_" ++ middle ∧
        underscored id.core = middle ++ "_" ++ underscored other.core) ∨
      ∃ middle, underscored id.soc = underscored other.soc ++ "_" ++ middle ∧
        underscored other.core = middle ++ "_" ++ underscored id.core) ∧
    (∀ id other : CoreId, project.hasCore id = true → project.hasCore other = true →
      (∀ core, project.hasCore core = true →
        '.' ∉ core.soc.toList ∧ '_' ∉ core.soc.toList ∧ '.' ∉ core.core.toList) →
      id ≠ other → id.destinationKey ≠ other.destinationKey) ∧
    (∀ (edit : Edit) (edited : Project), edit.removesCores = true →
      edit.apply project = .ok edited →
      ∀ name signal, project.signals.get? name = some signal →
      ∃ kept, edited.signals.get? name = some kept ∧
        ∀ other : CoreId, kept.isDestination other.text = true ↔
          signal.isDestination other.text = true ∧
          ∀ gone : CoreId, project.hasCore gone = true → edited.hasCore gone = false →
            other.destinationKey ≠ gone.destinationKey) ∧
    ∀ (signal : Signal) (id other : CoreId) (enabled : Bool),
      (signal.setDestination id.text enabled).isDestination other.text =
        if other.destinationKey = id.destinationKey then enabled
        else signal.isDestination other.text := by
  refine ⟨CoreId.destinationKey_eq_iff, ?_, ?_,
    fun signal id other enabled => signal.isDestination_setDestination id.text other.text enabled⟩
  · intro id other hid hother hplain hne hkey
    exact hne (CoreId.destinationKey_inj (hplain id hid) (hplain other hother) hkey)
  · intro edit edited hr h name signal hs
    obtain ⟨gone, hcleared, hgone⟩ := Edit.clearedOf_apply hr h
    obtain ⟨kept, hkept, hflags⟩ := hcleared name signal hs
    refine ⟨kept, hkept, fun other => (hflags other.text).trans (and_congr_right fun _ => ?_)⟩
    exact ⟨fun hall core hcore hedited => hall core ((hgone core).mpr ⟨hcore, hedited⟩),
      fun hall core hcore => hall core ((hgone core).mp hcore).1 ((hgone core).mp hcore).2⟩

/-- A core with a dot in its name and one with an underscore share a key, so that removing the one
takes the flag of the other. -/
theorem Editor.flag_lost_by_other_core :
    let dotted : CoreId := ⟨"Windows", "x.y"⟩
    let plain : CoreId := ⟨"Windows", "x_y"⟩
    let requests : List Request :=
      [.command (.edit (.addCore "Windows" "x.y" default)),
        .command (.edit (.addCore "Windows" "x_y" default)),
        .command (.edit (.addSignal "speed"
          ((Signal.new "speed").setDestination dotted.text true)))]
    let project := ((Editor.start (.template .epoch)).handleAll requests).project
    project.hasCore dotted = true ∧ project.hasCore plain = true ∧ dotted ≠ plain ∧
    dotted.destinationKey = plain.destinationKey ∧
    (project.signals.get? "speed").map (·.isDestination dotted.text) = some true ∧
    ((Edit.removeCore plain).apply project).toOption.map (fun edited =>
      (edited.hasCore dotted, (edited.signals.get? "speed").map (·.isDestination dotted.text))) =
      some (true, some false) := by
  decide

/-- Removing a core leaves the flag of one whose name its own name starts with. -/
theorem Project.destinations_by_key_ofTwo :
    let stays : CoreId := ⟨"Windows", "x"⟩
    let goes : CoreId := ⟨"Windows", "x_y"⟩
    let project := { Project.template .epoch with
      cores := .ofPairs [("Windows", .ofPairs [("x", default), ("x_y", default)])]
      signals := .ofPairs [("speed", (Signal.new "speed").setDestination stays.text true)] }
    ∃ edited kept, (Edit.removeCore goes).apply project = .ok edited ∧
      edited.signals.get? "speed" = some kept ∧ kept.isDestination stays.text = true := by
  intro stays goes project
  have hcores : project.availableCores = [stays, goes] := by decide
  have hread : ((Edit.removeCore goes).apply project).toOption.map (fun edited =>
      edited.hasCore stays) = some true := by decide
  obtain ⟨signal, hsignal, hflag⟩ : ∃ signal, project.signals.get? "speed" = some signal ∧
      signal.isDestination stays.text = true :=
    ⟨(Signal.new "speed").setDestination stays.text true, rfl, by decide⟩
  cases hedit : (Edit.removeCore goes).apply project with
  | error cause => simp [hedit, Except.toOption] at hread
  | ok edited =>
    simp only [hedit, Except.toOption, Option.map_some, Option.some.injEq] at hread
    obtain ⟨kept, hkept, hflags⟩ :=
      (project.destinations_by_key).2.2.1 (.removeCore goes) edited rfl hedit "speed" signal hsignal
    refine ⟨edited, kept, rfl, hkept, (hflags stays).mpr ⟨hflag, ?_⟩⟩
    intro gone hgone hedited
    rw [← mem_availableCores_iff, hcores] at hgone
    rcases List.mem_cons.mp hgone with rfl | hgone
    · simp [hread] at hedited
    · rw [List.mem_singleton.mp hgone]
      decide

end SignalCatalog
