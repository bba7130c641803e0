import SignalCatalog.Proofs.Editing.Run
import SignalCatalog.Session.Editing

/-!
# What changes on a desk

Reports and calls leave the session alone, a change of the editor leaves everything else of it alone.
An accepted edit is seen in the session as one commit.
-/

namespace SignalCatalog.Desk

variable (desk : Desk)

@[simp] theorem call_session (call : Call) : (desk.call call).session = desk.session := rfl

@[simp] theorem report_session (events : List Log.Event) :
    (desk.report events).session = desk.session := rfl

@[simp] theorem behind_session (disk : Disk) (events : List Log.Event) :
    (desk.behind disk events).session = desk.session := rfl

@[simp] theorem withEditor_session (editor : Editor) :
    (desk.withEditor editor).session = { desk.session with editor } := rfl

@[simp] theorem notify_session (flipped : Bool) : (desk.notify flipped).session = desk.session := by
  cases flipped <;> rfl

@[simp] theorem change_session (changed : Bool × Editor) :
    (desk.change changed).session = { desk.session with editor := changed.2 } := by
  simp [change]

@[simp] theorem install_session (project : Project) (file baseline : Option String) :
    (desk.install project file baseline).session =
      ⟨(desk.session.editor.reset project).2, file, baseline, desk.session.pinned⟩ := by
  simp [install]

@[simp] theorem call_calls (call : Call) : (desk.call call).calls = desk.calls ++ [call] := rfl

@[simp] theorem report_calls (events : List Log.Event) :
    (desk.report events).calls = desk.calls := rfl

@[simp] theorem behind_calls (disk : Disk) (events : List Log.Event) :
    (desk.behind disk events).calls = desk.calls := rfl

@[simp] theorem withEditor_calls (editor : Editor) :
    (desk.withEditor editor).calls = desk.calls := rfl

@[simp] theorem notify_calls (flipped : Bool) : (desk.notify flipped).calls =
    desk.calls ++ if flipped then [.modified desk.session.editor.isModified] else [] := by
  cases flipped <;> simp [notify]

@[simp] theorem change_calls (changed : Bool × Editor) : (desk.change changed).calls =
    desk.calls ++ if changed.1 then [.modified changed.2.isModified] else [] := by
  simp [change]

variable {desk}

/-- An accepted command is a change of the editor. -/
theorem apply_ok {after : Desk} {command : Command} (h : desk.apply command = .ok after) :
    ∃ flipped editor, desk.session.editor.apply command = .ok (flipped, editor) ∧
      after = (desk.report [editor.event command]).change (flipped, editor) := by
  unfold apply at h
  cases hc : desk.session.editor.apply command with
  | error cause => simp [hc, Except.map] at h
  | ok changed =>
    obtain ⟨flipped, editor⟩ := changed
    simp only [hc, Except.map, Except.ok.injEq] at h
    exact ⟨flipped, editor, rfl, h.symm⟩

/-- An accepted edit is one commit; the host hears of it if there were no unsaved changes. -/
theorem apply_edit_ok {after : Desk} {edit : Edit} (h : desk.apply (.edit edit) = .ok after) :
    ∃ project, edit.apply desk.project = .ok project ∧
      after.session = { desk.session with editor := (desk.session.editor.commit project).2 } ∧
      after.calls = desk.calls ++
        if desk.session.editor.isModified then [] else [.modified true] := by
  obtain ⟨flipped, editor, hrun, rfl⟩ := apply_ok h
  have hcommit : ∃ project, edit.apply desk.project = .ok project ∧
      (flipped, editor) = desk.session.editor.commit project := by
    cases hp : edit.apply desk.session.editor.project with
    | error cause => simp [Editor.apply, Editor.run, hp, Except.map] at hrun
    | ok project =>
      simp only [Editor.apply, Editor.run, hp, Except.map, Except.ok.injEq] at hrun
      exact ⟨project, hp, hrun.symm⟩
  obtain ⟨project, hp, hchanged⟩ := hcommit
  refine ⟨project, hp, ?_, ?_⟩
  · rw [hchanged, change_session, report_session]
  · rw [hchanged, change_calls, report_calls]
    cases hm : desk.session.editor.isModified <;>
      simp_all [Editor.commit, Editor.changed, Tracker.markDirty, Editor.isModified]

end SignalCatalog.Desk
