import SignalCatalog.Editing.Editor

/-!
# Runs of an editor

A request is a command, a step in the history or the installation of another project. A refused
request leaves the editor as it is. What a command can do is said once, in `apply_cases`; what a run
keeps follows from what each request keeps.
-/

namespace SignalCatalog

inductive Request
  | command (command : Command)
  | step (direction : Direction)
  | reset (project : Project)

namespace Editor

/-- The editor behind a request. -/
def handle (editor : Editor) : Request → Editor
  | .command command =>
    match editor.apply command with
    | .ok (_, edited) => edited
    | .error _ => editor
  | .step direction =>
    match editor.step direction with
    | some (_, moved) => moved
    | none => editor
  | .reset project => (editor.reset project).2

def handleAll (editor : Editor) (requests : List Request) : Editor :=
  requests.foldl handle editor

/-- The edit that a command makes; copying makes none. -/
def editOf? (editor : Editor) : Command → Option Edit
  | .edit change => some change
  | .copySignal _ => none
  | .pasteSignal => editor.clipboard.map fun clipping =>
    .addSignal (editor.project.freeCopyName clipping.name) clipping.signal

theorem run_cases {editor edited : Editor} {edit : Edit} {flipped : Bool}
    (h : editor.run edit = .ok (flipped, edited)) :
    ∃ project, edit.apply editor.project = .ok project ∧ edited = (editor.commit project).2 := by
  unfold run at h
  cases hp : edit.apply editor.project with
  | error cause => simp [hp, Except.map] at h
  | ok project =>
    simp only [hp, Except.map, Except.ok.injEq] at h
    exact ⟨project, rfl, by rw [h]⟩

/-- An accepted command commits the project of its edit or copies a signal. -/
theorem apply_cases {editor edited : Editor} {command : Command} {flipped : Bool}
    (h : editor.apply command = .ok (flipped, edited)) :
    (∃ edit project, command.isMutating = true ∧ editor.editOf? command = some edit ∧
      edit.apply editor.project = .ok project ∧ edited = (editor.commit project).2) ∨
    (∃ name signal, command = .copySignal name ∧
      editor.project.signals.get? name = some signal ∧
      edited = { editor with clipboard := some ⟨name, signal⟩ }) := by
  cases command with
  | edit change =>
    obtain ⟨project, hp, he⟩ := run_cases h
    exact Or.inl ⟨change, project, rfl, rfl, hp, he⟩
  | copySignal name =>
    cases hs : editor.project.signals.get? name with
    | none => simp [apply, copy, hs, Except.map] at h
    | some signal =>
      simp only [apply, copy, hs, Except.map, Except.ok.injEq, Prod.mk.injEq] at h
      exact Or.inr ⟨name, signal, rfl, hs, h.2.symm⟩
  | pasteSignal =>
    cases hc : editor.clipboard with
    | none => simp [apply, hc] at h
    | some clipping =>
      simp only [apply, hc] at h
      obtain ⟨project, hp, he⟩ := run_cases h
      exact Or.inl ⟨_, project, rfl, by simp [editOf?, hc], hp, he⟩

@[simp] theorem commit_history (editor : Editor) (project : Project) :
    (editor.commit project).2.history = editor.history.commit project := rfl

@[simp] theorem commit_clipboard (editor : Editor) (project : Project) :
    (editor.commit project).2.clipboard = editor.clipboard := rfl

@[simp] theorem reset_history (editor : Editor) (project : Project) :
    (editor.reset project).2.history = .start project := rfl

@[simp] theorem reset_clipboard (editor : Editor) (project : Project) :
    (editor.reset project).2.clipboard = editor.clipboard := rfl

/-- The history behind a step, if there is one. -/
def stepped? (history : History Project) : Direction → Option (History Project)
  | .undo => history.undo?
  | .redo => history.redo?

/-- A step moves the history and changes nothing else than the mark of unsaved changes. -/
theorem step_cases {editor moved : Editor} {direction : Direction} {flipped : Bool}
    (h : editor.step direction = some (flipped, moved)) :
    stepped? editor.history direction = some moved.history ∧
      moved.clipboard = editor.clipboard := by
  have hs : (stepped? editor.history direction).map editor.changed = some (flipped, moved) := by
    cases direction <;> exact h
  obtain ⟨history, hh, hm⟩ := Option.map_eq_some_iff.mp hs
  have hmoved : moved = (editor.changed history).2 := by rw [hm]
  subst hmoved
  exact ⟨hh, rfl⟩

theorem step_eq_none_iff {editor : Editor} {direction : Direction} :
    editor.step direction = none ↔ stepped? editor.history direction = none := by
  cases direction <;> simp [step, stepped?]

theorem handle_command_ok {editor edited : Editor} {command : Command} {flipped : Bool}
    (h : editor.apply command = .ok (flipped, edited)) :
    editor.handle (.command command) = edited := by
  simp [handle, h]

theorem handle_command_error {editor : Editor} {command : Command} {cause : EditError}
    (h : editor.apply command = .error cause) :
    editor.handle (.command command) = editor := by
  simp [handle, h]

theorem project_mem (editor : Editor) : editor.project ∈ editor.history.toList := by
  simp [project, History.toList]

/-- The projects that a commit keeps, with the new one. -/
theorem mem_toList_commit {history : History Project} {project reached : Project}
    (h : reached ∈ (history.commit project).toList) :
    reached ∈ history.toList ∨ reached = project := by
  simp only [History.commit, History.toList, List.reverse_cons, List.mem_append, List.mem_reverse,
    List.mem_cons, List.not_mem_nil, or_false] at h ⊢
  rcases h with (h | h) | h
  · exact Or.inl (Or.inl h)
  · exact Or.inl (Or.inr (Or.inl h))
  · exact Or.inr h

theorem toList_stepped? {history moved : History Project} {direction : Direction}
    (h : stepped? history direction = some moved) : moved.toList = history.toList := by
  cases direction with
  | undo => exact History.toList_undo? h
  | redo => exact History.toList_redo? h

/-- A project of the history behind a request was there before, is the result of an accepted edit of
the current project, or was installed. -/
theorem mem_handle {editor : Editor} {request : Request} {reached : Project}
    (h : reached ∈ (editor.handle request).history.toList) :
    reached ∈ editor.history.toList ∨
    (∃ command edit, request = .command command ∧ editor.editOf? command = some edit ∧
      edit.apply editor.project = .ok reached) ∨
    request = .reset reached := by
  cases request with
  | command command =>
    cases ha : editor.apply command with
    | error cause =>
      rw [handle_command_error ha] at h
      exact Or.inl h
    | ok outcome =>
      obtain ⟨flipped, edited⟩ := outcome
      rw [handle_command_ok ha] at h
      rcases apply_cases ha with ⟨edit, project, _, he, hp, rfl⟩ | ⟨_, _, _, _, rfl⟩
      · rcases mem_toList_commit h with h | rfl
        · exact Or.inl h
        · exact Or.inr (Or.inl ⟨command, edit, rfl, he, hp⟩)
      · exact Or.inl h
  | step direction =>
    cases hs : editor.step direction with
    | none =>
      simp only [handle, hs] at h
      exact Or.inl h
    | some outcome =>
      simp only [handle, hs] at h
      rw [toList_stepped? (step_cases hs).1] at h
      exact Or.inl h
  | reset project =>
    simp only [handle, reset_history, History.start, History.toList, List.reverse_nil,
      List.nil_append, List.mem_singleton] at h
    exact Or.inr (Or.inr (by rw [h]))

theorem clipboard_handle {editor : Editor} {request : Request}
    (h : ∀ name, request ≠ .command (.copySignal name)) :
    (editor.handle request).clipboard = editor.clipboard := by
  cases request with
  | command command =>
    cases ha : editor.apply command with
    | error cause => rw [handle_command_error ha]
    | ok outcome =>
      obtain ⟨flipped, edited⟩ := outcome
      rw [handle_command_ok ha]
      rcases apply_cases ha with ⟨_, project, _, _, _, he⟩ | ⟨name, _, hc, _, _⟩
      · rw [he]
        exact commit_clipboard editor project
      · exact False.elim (h name (by rw [hc]))
  | step direction =>
    cases hs : editor.step direction with
    | none => simp [handle, hs]
    | some outcome => simpa [handle, hs] using (step_cases hs).2
  | reset project => rfl

/-- A signal in the clipboard was there before or is copied from the current project. -/
theorem mem_clipboard_handle {editor : Editor} {request : Request} {clipping : Clipping}
    (h : clipping ∈ (editor.handle request).clipboard) :
    clipping ∈ editor.clipboard ∨
      ∃ name, editor.project.signals.get? name = some clipping.signal := by
  by_cases hcopy : ∃ name, request = .command (.copySignal name)
  · obtain ⟨name, rfl⟩ := hcopy
    cases ha : editor.apply (.copySignal name) with
    | error cause =>
      rw [handle_command_error ha] at h
      exact Or.inl h
    | ok outcome =>
      obtain ⟨flipped, edited⟩ := outcome
      rw [handle_command_ok ha] at h
      rcases apply_cases ha with ⟨_, _, hm, _⟩ | ⟨copied, signal, _, hs, rfl⟩
      · simp [Command.isMutating] at hm
      · have hclip : (⟨copied, signal⟩ : Clipping) = clipping := Option.some.inj h
        exact Or.inr ⟨copied, by rw [← hclip]; exact hs⟩
  · rw [clipboard_handle fun name he => hcopy ⟨name, he⟩] at h
    exact Or.inl h

/-- What every request of a run keeps holds at its end. -/
theorem handleAll_induct {motive : Editor → Prop} {editor : Editor} {requests : List Request}
    (start : motive editor)
    (next : ∀ editor, motive editor → ∀ request ∈ requests, motive (editor.handle request)) :
    motive (editor.handleAll requests) := by
  induction requests generalizing editor with
  | nil => exact start
  | cons request rest ih =>
    apply ih
    · exact next editor start request List.mem_cons_self
    · intro editor h later hl
      exact next editor h later (List.mem_cons_of_mem request hl)

end Editor

end SignalCatalog
