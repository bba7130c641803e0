import SignalCatalog.Proofs.Project.Soundness

/-!
# Repaired lists

`normalize` gives a project whose lists have no repetitions and hold the selections that are made and
all systems with cores, and it changes no project that has such lists already. In terms of broken
rules: a project without a selection may break the rules of the selections and no other structural
one.

The repaired system list is the former one with the first occurrence of each text, and behind it what
was missing: the selected system, if there is a selection, and then the systems with cores in their
order, each once. The list of build types is repaired in the same way and has its selection only. So
nothing that was listed is lost or moved.
-/

namespace SignalCatalog

/-! ## Distinct items -/

theorem eraseDups_concat {α : Type} [DecidableEq α] (items : List α) (item : α) :
    (items ++ [item]).eraseDups =
      if item ∈ items then items.eraseDups else items.eraseDups ++ [item] := by
  rw [List.eraseDups_append]
  split <;> rename_i h <;> simp [List.removeAll, h, List.eraseDups_cons]

theorem nodup_eraseDups {α : Type} [DecidableEq α] (items : List α) : items.eraseDups.Nodup := by
  induction items using List.reverseRecOn with
  | nil => exact List.nodup_nil
  | append_singleton items item ih =>
    rw [eraseDups_concat]
    split
    · exact ih
    · rename_i hnew
      rw [← List.mem_eraseDups] at hnew
      exact List.Nodup.append ih (List.nodup_singleton item) (by simpa using hnew)

theorem filter_eraseDups {α : Type} [DecidableEq α] (p : α → Bool) (items : List α) :
    items.eraseDups.filter p = (items.filter p).eraseDups := by
  induction items using List.reverseRecOn with
  | nil => rfl
  | append_singleton items item ih =>
    rw [eraseDups_concat, List.filter_append]
    by_cases hitem : item ∈ items <;> cases hp : p item <;>
      simp [hitem, hp, ih, eraseDups_concat]

namespace Project

/-! ## Repaired projects -/

/-- What `normalize` establishes. -/
structure Repaired (project : Project) : Prop where
  socs : project.socList.Nodup
  builds : project.buildList.Nodup
  soc : project.socType = "" ∨ project.socType ∈ project.socList
  build : project.buildType = "" ∨ project.buildType ∈ project.buildList
  cores : ∀ soc ∈ project.cores.keys, soc ∈ project.socList

/-- One round of `firsts`. -/
def noteFirst (seen : List String) (item : String) : List String :=
  if item ∈ seen then seen else item :: seen

theorem firsts_eq (list : List String) : firsts list = (list.foldl noteFirst []).reverse := rfl

theorem firsts_concat (list : List String) (item : String) :
    firsts (list ++ [item]) = if item ∈ firsts list then firsts list else firsts list ++ [item] := by
  simp only [firsts_eq, List.foldl_append, List.foldl_cons, List.foldl_nil, List.mem_reverse, noteFirst]
  split
  · rfl
  · rw [List.reverse_cons]

theorem firsts_eq_eraseDups (list : List String) : firsts list = list.eraseDups := by
  induction list using List.reverseRecOn with
  | nil => rfl
  | append_singleton list item ih => simp only [firsts_concat, eraseDups_concat, ih, List.mem_eraseDups]

theorem foldl_noteFirst_of_nodup {list seen : List String} (h : (list.reverse ++ seen).Nodup) :
    list.foldl noteFirst seen = list.reverse ++ seen := by
  induction list generalizing seen with
  | nil => rfl
  | cons item rest ih =>
    rw [List.reverse_cons, List.append_assoc, List.singleton_append] at h ⊢
    have hnew : item ∉ seen := (List.nodup_cons.mp (List.nodup_append.mp h).2.1).1
    rw [List.foldl_cons, noteFirst, if_neg hnew, ih h]

theorem nodup_firsts (list : List String) : (firsts list).Nodup := by
  rw [firsts_eq_eraseDups]
  exact nodup_eraseDups list

theorem firsts_of_nodup {list : List String} (h : list.Nodup) : firsts list = list := by
  rw [firsts_eq, foldl_noteFirst_of_nodup (by simpa using h)]
  simp

theorem mem_listed {list : List String} {item other : String} :
    other ∈ listed list item ↔ other ∈ list ∨ other = item := by
  unfold listed
  split
  · rename_i h
    exact ⟨Or.inl, fun ho => ho.elim id fun he => he ▸ h⟩
  · simp

theorem listed_of_mem {list : List String} {item : String} (h : item ∈ list) :
    listed list item = list := if_pos h

theorem nodup_listed {list : List String} (h : list.Nodup) (item : String) :
    (listed list item).Nodup := by
  unfold listed
  split
  · exact h
  · rename_i hnew
    exact List.Nodup.append h (List.nodup_singleton item) (by simpa using hnew)

theorem nodup_foldl_listed (items : List String) {list : List String} (h : list.Nodup) :
    (items.foldl listed list).Nodup := by
  induction items generalizing list with
  | nil => exact h
  | cons item rest ih => exact ih (nodup_listed h item)

theorem mem_foldl_listed {items list : List String} {item : String} :
    item ∈ items.foldl listed list ↔ item ∈ list ∨ item ∈ items := by
  induction items generalizing list with
  | nil => simp
  | cons first rest ih => simp [ih, mem_listed, or_assoc]

theorem foldl_listed_of_subset {items list : List String} (h : ∀ item ∈ items, item ∈ list) :
    items.foldl listed list = list := by
  induction items with
  | nil => rfl
  | cons item rest ih =>
    rw [List.foldl_cons, listed_of_mem (h item List.mem_cons_self)]
    exact ih fun other ho => h other (List.mem_cons_of_mem item ho)

/-- The list without repetitions, with a selection unless it is empty. -/
def selected (list : List String) (item : String) : List String :=
  if item.isEmpty then firsts list else listed (firsts list) item

theorem repairedSocs_eq (project : Project) : project.repairedSocs =
    project.cores.keys.foldl listed (selected project.socList project.socType) := rfl

theorem repairedBuilds_eq (project : Project) :
    project.repairedBuilds = selected project.buildList project.buildType := rfl

theorem nodup_selected (list : List String) (item : String) : (selected list item).Nodup := by
  unfold selected
  split
  · exact nodup_firsts list
  · exact nodup_listed (nodup_firsts list) item

theorem mem_selected_self (list : List String) (item : String) :
    item = "" ∨ item ∈ selected list item := by
  unfold selected
  split
  · rename_i hempty
    exact Or.inl (by simpa using hempty)
  · exact Or.inr (mem_listed.mpr (Or.inr rfl))

theorem selected_of_mem {list : List String} {item : String} (hn : list.Nodup)
    (h : item = "" ∨ item ∈ list) : selected list item = list := by
  rw [selected, firsts_of_nodup hn]
  split
  · rfl
  · rename_i hempty
    exact listed_of_mem (h.resolve_left (by simpa using hempty))

theorem repaired_normalize (project : Project) : project.normalize.Repaired where
  socs := nodup_foldl_listed _ (nodup_selected _ _)
  builds := nodup_selected _ _
  soc := (mem_selected_self project.socList project.socType).imp id fun h =>
    mem_foldl_listed.mpr (Or.inl h)
  build := mem_selected_self project.buildList project.buildType
  cores := fun _ hsoc => mem_foldl_listed.mpr (Or.inr hsoc)

theorem Repaired.normalize_eq {project : Project} (h : project.Repaired) :
    project.normalize = project := by
  have hsocs : project.repairedSocs = project.socList := by
    rw [repairedSocs_eq, selected_of_mem h.socs h.soc, foldl_listed_of_subset h.cores]
  have hbuilds : project.repairedBuilds = project.buildList := by
    rw [repairedBuilds_eq, selected_of_mem h.builds h.build]
  rw [normalize, hsocs, hbuilds]

theorem repaired_template (today : Date) : (template today).Repaired where
  socs := List.nodup_singleton defaultSoc
  builds := List.nodup_singleton defaultBuild
  soc := Or.inr List.mem_cons_self
  build := Or.inr List.mem_cons_self
  cores := fun _ hsoc => False.elim (List.not_mem_nil hsoc)

/-- A missing selection, the only structural fault that `normalize` leaves. -/
def Unselected (violation : Violation) : Prop :=
  violation = .socTypeNotListed "" ∨ violation = .buildTypeNotListed ""

theorem repaired_iff_violations (project : Project) :
    project.Repaired ↔ ∀ violation ∈ project.structuralViolations, Unselected violation := by
  have hsoc : (project.socType = "" ∨ project.socType ∈ project.socList) ↔
      ∀ violation ∈ (if project.socType ∈ project.socList then []
        else [Violation.socTypeNotListed project.socType]), Unselected violation := by
    split <;> simp_all [Unselected]
  have hbuild : (project.buildType = "" ∨ project.buildType ∈ project.buildList) ↔
      ∀ violation ∈ (if project.buildType ∈ project.buildList then []
        else [Violation.buildTypeNotListed project.buildType]), Unselected violation := by
    split <;> simp_all [Unselected]
  have hrest : ∀ {list : List String} {report : String → Violation},
      (∀ item, ¬ Unselected (report item)) →
      ((∀ violation ∈ list.map report, Unselected violation) ↔ list = []) := by
    intro list report hreport
    constructor
    · intro h
      rw [List.eq_nil_iff_forall_not_mem]
      exact fun item hi => hreport item (h _ (List.mem_map_of_mem hi))
    · rintro rfl
      simp
  simp only [structuralViolations, List.forall_mem_append, ← hsoc, ← hbuild]
  rw [hrest (by simp [Unselected]), hrest (by simp [Unselected]), hrest (by simp [Unselected]),
    repeated_eq_nil_iff, repeated_eq_nil_iff, List.filter_eq_nil_iff]
  constructor
  · intro h
    exact ⟨⟨⟨⟨h.soc, h.build⟩, h.socs⟩, h.builds⟩, by simpa using h.cores⟩
  · rintro ⟨⟨⟨⟨hs, hb⟩, hsocs⟩, hbuilds⟩, hc⟩
    exact ⟨hsocs, hbuilds, hs, hb, by simpa using hc⟩

/-! ## What a repair adds -/

/-- The selected text as a list; an empty text is no selection. -/
def selection (item : String) : List String := if item = "" then [] else [item]

/-- What of the items does not stand in the list, each once. -/
def missing (list items : List String) : List String :=
  (items.filter fun item => item ∉ list).eraseDups

theorem eraseDups_append_missing (list items : List String) :
    (list ++ items).eraseDups = list.eraseDups ++ missing list items := by
  rw [List.eraseDups_append, missing, List.removeAll]
  simp

theorem listed_eraseDups (list : List String) (item : String) :
    listed list.eraseDups item = (list ++ [item]).eraseDups := by
  simp only [listed, eraseDups_concat, List.mem_eraseDups]

theorem foldl_listed_eraseDups (items list : List String) :
    items.foldl listed list.eraseDups = (list ++ items).eraseDups := by
  induction items generalizing list with
  | nil => simp
  | cons item rest ih =>
    rw [List.foldl_cons, listed_eraseDups, ih, List.append_assoc, List.singleton_append]

theorem selected_eq (list : List String) (item : String) :
    selected list item = (list ++ selection item).eraseDups := by
  rw [selected, selection, firsts_eq_eraseDups, listed_eraseDups]
  by_cases h : item = "" <;> simp [h]

theorem repairedSocs_eq_append (project : Project) :
    project.repairedSocs = project.socList.eraseDups ++
      missing project.socList (selection project.socType ++ project.cores.keys) := by
  rw [repairedSocs_eq, selected_eq, foldl_listed_eraseDups, List.append_assoc,
    eraseDups_append_missing]

theorem repairedBuilds_eq_append (project : Project) :
    project.repairedBuilds = project.buildList.eraseDups ++
      missing project.buildList (selection project.buildType) := by
  rw [repairedBuilds_eq, selected_eq, eraseDups_append_missing]

theorem needsRepair_iff (project : Project) : project.needsRepair = true ↔
    project.normalize.socList ≠ project.socList ∨ project.normalize.buildList ≠ project.buildList := by
  simp [needsRepair, normalize]

theorem Repaired.needsRepair_eq {project : Project} (h : project.Repaired) :
    project.needsRepair = false := by
  rw [← Bool.not_eq_true, needsRepair_iff, h.normalize_eq]
  simp

theorem report_unlisted {list : List String} {item : String} (h : item = "" ∨ item ∈ list)
    (report : String → Violation) : (if item ∈ list then [] else [report item]) =
      if item = "" ∧ "" ∉ list then [report ""] else [] := by
  by_cases hlisted : item ∈ list
  · have hnot : ¬ (item = "" ∧ "" ∉ list) := fun hempty => hempty.2 (hempty.1 ▸ hlisted)
    rw [if_pos hlisted, if_neg hnot]
  · have hempty : item = "" := h.resolve_right hlisted
    subst hempty
    rw [if_neg hlisted, if_pos ⟨rfl, hlisted⟩]

/-- A repaired project breaks a rule of the lists only where a selection is empty and not listed. -/
theorem Repaired.structuralViolations_eq {project : Project} (h : project.Repaired) :
    project.structuralViolations =
      (if project.socType = "" ∧ "" ∉ project.socList then [.socTypeNotListed ""] else []) ++
      if project.buildType = "" ∧ "" ∉ project.buildList then [.buildTypeNotListed ""] else [] := by
  have hcores : project.cores.keys.filter (fun soc => soc ∉ project.socList) = [] := by
    simpa [List.filter_eq_nil_iff] using h.cores
  have hsocs : repeated project.socList = [] := (repeated_eq_nil_iff _).mpr h.socs
  have hbuilds : repeated project.buildList = [] := (repeated_eq_nil_iff _).mpr h.builds
  rw [structuralViolations, report_unlisted h.soc, report_unlisted h.build, hsocs, hbuilds, hcores]
  simp

/-- Repairing keeps the first occurrence of every text where it stands among the others and appends
what is missing: the selected system, if there is one, and then the systems with cores; or the selected
build type. Nothing else is changed. The repair is reported exactly if a list is changed, a second one
changes nothing and reports nothing, and all that can be wrong with the lists afterwards is a selection
that is empty while no empty text is listed. -/
theorem normalize_repairs_lists (project : Project) :
    project.normalize =
      { project with
        socList := project.socList.eraseDups ++
          missing project.socList (selection project.socType ++ project.cores.keys)
        buildList := project.buildList.eraseDups ++
          missing project.buildList (selection project.buildType) } ∧
    (project.needsRepair = true ↔ project.normalize.socList ≠ project.socList ∨
      project.normalize.buildList ≠ project.buildList) ∧
    project.normalize.needsRepair = false ∧ project.normalize.normalize = project.normalize ∧
    project.normalize.structuralViolations =
      (if project.socType = "" ∧ "" ∉ project.normalize.socList then [.socTypeNotListed ""] else []) ++
      if project.buildType = "" ∧ "" ∉ project.normalize.buildList then [.buildTypeNotListed ""]
      else [] := by
  have hrepaired : project.normalize.Repaired := project.repaired_normalize
  refine ⟨?_, project.needsRepair_iff, hrepaired.needsRepair_eq, hrepaired.normalize_eq,
    hrepaired.structuralViolations_eq⟩
  rw [normalize, repairedSocs_eq_append, repairedBuilds_eq_append]

end Project

end SignalCatalog
