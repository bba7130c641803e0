import SignalCatalog.Proofs.Editing.Run
import SignalCatalog.Proofs.Project.Soundness

/-!
# Edits add no violations

An accepted edit breaks no rule that was not broken before, except one that replaces the project. So
the violations of every project in the history of an editor are among those of the project that it
started with, and a sound project stays sound.
-/

namespace SignalCatalog

namespace Edit

def replaces : Edit → Bool
  | replaceProject _ => true
  | _ => false

theorem violations_of_not_replaces {edit : Edit} (h : edit.replaces = false) (project : Project) :
    edit.violations project = project.violations := by
  cases edit <;> first | rfl | simp [replaces] at h

/-- An accepted edit is the edited project, and each rule that it breaks was broken before. -/
theorem apply_ok {edit : Edit} {project edited : Project}
    (h : edit.apply project = .ok edited) :
    edit.run project = .ok edited ∧
      ∀ violation ∈ edit.violations edited, violation ∈ edit.violations project := by
  unfold apply at h
  cases hr : edit.run project with
  | error cause => simp [hr, bind, Except.bind] at h
  | ok result =>
    simp only [hr, bind, Except.bind] at h
    cases hf : (edit.violations result).find? fun violation =>
        !(edit.violations project).contains violation with
    | some violation =>
      rw [hf] at h
      cases h
    | none =>
      rw [hf] at h
      cases h
      refine ⟨rfl, ?_⟩
      intro violation hv
      have hc := List.find?_eq_none.mp hf violation hv
      simpa using hc

theorem violations_subset_of_apply {edit : Edit} {project edited : Project}
    (hr : edit.replaces = false) (h : edit.apply project = .ok edited) :
    edited.violations ⊆ project.violations := by
  intro violation hv
  have hk := (apply_ok h).2
  simp only [violations_of_not_replaces hr] at hk
  exact hk violation hv

/-- The rules of lists and selections are kept also when the project is replaced. -/
theorem structural_subset_of_apply {edit : Edit} {project edited : Project}
    (h : edit.apply project = .ok edited) :
    edited.structuralViolations ⊆ project.structuralViolations := by
  intro violation hv
  cases hr : edit.replaces with
  | true =>
    have hk := (apply_ok h).2
    cases edit with
    | replaceProject replacement => exact hk violation hv
    | _ => simp [replaces] at hr
  | false =>
    have hall : violation ∈ edited.violations := List.mem_append.mpr (Or.inl hv)
    rcases List.mem_append.mp (violations_subset_of_apply hr h hall) with hold | hold
    · exact hold
    · obtain ⟨entry, _, hsignal⟩ := List.mem_flatMap.mp hold
      have hlists := Project.ofLists_of_structural hv
      rw [Project.ofLists_of_signal hsignal] at hlists
      simp at hlists

end Edit

/-- Whether a request puts another project in the place of the edited one. -/
def Request.replaces : Request → Bool
  | .command (.edit edit) => edit.replaces
  | .command _ => false
  | .step _ => false
  | .reset _ => true

namespace Editor

theorem editOf?_replaces {editor : Editor} {command : Command} {edit : Edit}
    (hr : (Request.command command).replaces = false) (h : editor.editOf? command = some edit) :
    edit.replaces = false := by
  cases command with
  | edit change =>
    have he : change = edit := Option.some.inj h
    rw [← he]
    exact hr
  | copySignal name => simp [editOf?] at h
  | pasteSignal =>
    obtain ⟨clipping, _, rfl⟩ := Option.map_eq_some_iff.mp h
    rfl

/-- Every violation in the history is one of a given list. -/
def ViolatesOnly (editor : Editor) (known : List Violation) : Prop :=
  ∀ reached ∈ editor.history.toList, reached.violations ⊆ known

theorem violatesOnly_handle {editor : Editor} {known : List Violation} {request : Request}
    (h : editor.ViolatesOnly known) (hr : request.replaces = false) :
    (editor.handle request).ViolatesOnly known := by
  intro reached hm
  rcases mem_handle hm with hm | ⟨command, edit, rfl, he, ha⟩ | rfl
  · exact h reached hm
  · have hedit := editOf?_replaces hr he
    intro violation hv
    exact h editor.project editor.project_mem (Edit.violations_subset_of_apply hedit ha hv)
  · simp [Request.replaces] at hr

/-- Whatever is edited, copied, pasted, undone and redone, accepted or refused, no project of the
history has a violation that the first one had not; if that had none, all of them are sound. -/
theorem edits_add_no_violation (project : Project) (requests : List Request)
    (edits : ∀ request ∈ requests, request.replaces = false) :
    let editor := (Editor.start project).handleAll requests
    (∀ reached ∈ editor.history.toList, ∀ violation ∈ reached.violations,
      violation ∈ project.violations) ∧
    (project.violations = [] → ∀ reached ∈ editor.history.toList, reached.Sound) := by
  intro editor
  have hstart : (Editor.start project).ViolatesOnly project.violations := by
    intro reached hm
    have he : reached = project := by simpa [Editor.start, History.start, History.toList] using hm
    rw [he]
    exact List.Subset.refl _
  have hrun : editor.ViolatesOnly project.violations :=
    @handleAll_induct (fun editor => editor.ViolatesOnly project.violations) _ _ hstart
      fun _ h request hm => violatesOnly_handle h (edits request hm)
  refine ⟨hrun, ?_⟩
  intro hnone reached hm
  apply reached.violations_eq_nil_iff.mp
  have hsub := hrun reached hm
  rw [hnone] at hsub
  exact List.eq_nil_of_subset_nil hsub

/-- The selected build type is not listed and stays the only fault while a core becomes a source. -/
theorem edits_keep_unlisted_build :
    let project := { Project.template .epoch with buildType := "Release" }
    let requests : List Request :=
      [.command (.edit (.addCore "Windows" "Main" default)),
        .command (.edit (.addSignal "speed" { Signal.new "speed" with source := "Windows.Main" })),
        .command (.edit (.removeCore ⟨"Windows", "Main"⟩)), .step .undo, .step .redo,
        .command (.copySignal "speed"), .command .pasteSignal]
    (∀ request ∈ requests, request.replaces = false) ∧
    ∀ reached ∈ ((Editor.start project).handleAll requests).history.toList,
      ∀ violation ∈ reached.violations, violation = .buildTypeNotListed "Release" := by
  intro project requests
  have hr : ∀ request ∈ requests, request.replaces = false := by decide
  refine ⟨hr, ?_⟩
  intro reached hm violation hv
  have hknown : project.violations = [.buildTypeNotListed "Release"] := by decide
  have h := (edits_add_no_violation project requests hr).1 reached hm violation hv
  rw [hknown] at h
  exact List.mem_singleton.mp h

end Editor

end SignalCatalog
