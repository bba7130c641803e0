import SignalCatalog.Proofs.Editing.Violations
import SignalCatalog.Proofs.Session.Desk
import SignalCatalog.Proofs.Session.Run

/-!
# Failed operations

An operation that fails leaves the project, its history, the clipboard, the mark of unsaved changes,
the file and the version to compare with as they were, and the host is told nothing. Only a generator
may have taken one step before it failed: the script that the host named for it stays in the project,
and undoing that step brings the former project back.
-/

namespace SignalCatalog.Desk

/-- What a failed operation leaves as it was. -/
structure Keeps (before after : Desk) : Prop where
  history : after.session.editor.history = before.session.editor.history
  clipboard : after.session.editor.clipboard = before.session.editor.clipboard
  modified : after.session.editor.isModified = before.session.editor.isModified
  file : after.session.file = before.session.file
  baseline : after.session.baseline = before.session.baseline
  /-- The host may have been asked, but was told nothing. -/
  calls : ∃ asked, after.calls = before.calls ++ asked ∧ ∀ flag, Call.modified flag ∉ asked

/-- The only change is one step that keeps the script which the host has named. -/
structure KeepsScript (before after : Desk) (kind : GeneratorKind) (path : String) : Prop where
  history : after.session.editor.history =
    before.session.editor.history.commit (before.project.setScript kind path)
  clipboard : after.session.editor.clipboard = before.session.editor.clipboard
  modified : after.session.editor.isModified = true
  file : after.session.file = before.session.file
  baseline : after.session.baseline = before.session.baseline
  calls : after.calls = before.calls ++ .askScript kind ::
    if before.session.editor.isModified then [] else [.modified true]

variable {desk before after last : Desk} {world : World} {error : SessionError}

namespace Keeps

theorem of_eq (hsession : after.session = before.session) (hcalls : after.calls = before.calls) :
    before.Keeps after :=
  ⟨by rw [hsession], by rw [hsession], by rw [hsession], by rw [hsession], by rw [hsession],
    [], by simp [hcalls], fun _ => List.not_mem_nil⟩

theorem refl (desk : Desk) : desk.Keeps desk := of_eq rfl rfl

theorem report (desk : Desk) (events : List Log.Event) : desk.Keeps (desk.report events) :=
  of_eq rfl rfl

theorem behind (desk : Desk) (disk : Disk) (events : List Log.Event) :
    desk.Keeps (desk.behind disk events) := of_eq rfl rfl

theorem call (desk : Desk) {call : Call} (h : ∀ flag, call ≠ .modified flag) :
    desk.Keeps (desk.call call) :=
  ⟨rfl, rfl, rfl, rfl, rfl, [call], rfl, fun flag hm => h flag (List.mem_singleton.mp hm).symm⟩

theorem trans (h : before.Keeps after) (hlast : after.Keeps last) : before.Keeps last := by
  obtain ⟨asked, hasked, hquiet⟩ := h.calls
  obtain ⟨more, hmore, hstill⟩ := hlast.calls
  exact ⟨hlast.history.trans h.history, hlast.clipboard.trans h.clipboard,
    hlast.modified.trans h.modified, hlast.file.trans h.file, hlast.baseline.trans h.baseline,
    asked ++ more, by rw [hmore, hasked, List.append_assoc], fun flag hm =>
      (List.mem_append.mp hm).elim (hquiet flag) (hstill flag)⟩

/-- Neither the beginning nor the failure of a save touches what a failed operation keeps. -/
theorem failedSave (desk : Desk) (disk : Disk) (events : List Log.Event) :
    let saving := desk.withEditor desk.session.editor.startSave
    desk.Keeps ((saving.behind disk events).withEditor saving.session.editor.saveFailed) :=
  ⟨rfl, rfl, rfl, rfl, rfl, [], by simp, fun _ => List.not_mem_nil⟩

end Keeps

/-! ## One operation after another -/

theorem keeps_ensureValid (desk : Desk) (world : World) :
    desk.Keeps (desk.ensureValid world).2 := Keeps.report desk _

theorem keeps_openProject {path : String} (h : (desk.openProject world path).1 = .error error) :
    desk.Keeps (desk.openProject world path).2 := by
  unfold openProject at h ⊢
  split at h
  · exact Keeps.report desk _
  · simp at h

theorem keeps_openChosen (h : (desk.openChosen world).1 = .error error) :
    desk.Keeps (desk.openChosen world).2 := by
  have hasked : desk.Keeps (desk.call .askOpen) := Keeps.call desk (by simp)
  unfold openChosen at h ⊢
  dsimp only at h ⊢
  split at h
  · simp at h
  · rename_i path _
    cases hopen : ((desk.call .askOpen).openProject world path).1 with
    | ok opened => simp [hopen, Except.map] at h
    | error cause => exact hasked.trans (keeps_openProject hopen)

theorem keeps_saveProject {path : String} (h : (desk.saveProject world path).1 = .error error) :
    desk.Keeps (desk.saveProject world path).2 := by
  have hvalid := keeps_ensureValid desk world
  unfold saveProject at h ⊢
  split at h
  · rename_i invalid hensure
    rw [hensure] at hvalid
    exact hvalid
  · rename_i valid hensure
    rw [hensure] at hvalid
    dsimp only at h ⊢
    split at h
    · exact hvalid.trans (Keeps.failedSave valid _ _)
    · simp at h

theorem keeps_saveChosen {target : Option String}
    (h : (desk.saveChosen world target).1 = .error error) :
    desk.Keeps (desk.saveChosen world target).2 := by
  cases target with
  | none => exact Keeps.refl desk
  | some path =>
    simp only [saveChosen] at h ⊢
    cases hsave : (desk.saveProject world path).1 with
    | ok saved => simp [hsave, Except.map] at h
    | error cause => exact keeps_saveProject hsave

theorem keeps_saveAs (h : (desk.saveAs world).1 = .error error) :
    desk.Keeps (desk.saveAs world).2 := by
  have hasked : desk.Keeps (desk.call (.askSave desk.session.file)) := Keeps.call desk (by simp)
  unfold saveAs at h ⊢
  exact hasked.trans (keeps_saveChosen h)

theorem keeps_save (h : (desk.save world).1 = .error error) : desk.Keeps (desk.save world).2 := by
  unfold save at h ⊢
  split at h
  · exact keeps_saveChosen h
  · exact keeps_saveAs h

theorem keeps_installImport {project : Project}
    (h : (desk.installImport project).1 = .error error) :
    desk.Keeps (desk.installImport project).2 := by
  unfold installImport at h ⊢
  split at h
  · exact Keeps.refl desk
  · simp at h

theorem keeps_importBook {path : String} (h : (desk.importBook world path).1 = .error error) :
    desk.Keeps (desk.importBook world path).2 := by
  unfold importBook at h ⊢
  split at h
  · exact Keeps.report desk _
  · rename_i project findings events _
    cases hinstall : ((desk.report (events ++ findings.map findingEvent)).installImport project).1 with
    | ok installed => simp [hinstall, Except.map] at h
    | error cause => exact (Keeps.report desk _).trans (keeps_installImport hinstall)

theorem keeps_exportBook (desk : Desk) (world : World) (path : String) :
    desk.Keeps (desk.exportBook world path).2 := by
  have hvalid := keeps_ensureValid desk world
  unfold exportBook
  split
  · rename_i invalid hensure
    rw [hensure] at hvalid
    exact hvalid
  · rename_i valid hensure
    rw [hensure] at hvalid
    exact hvalid.trans (Keeps.behind valid _ _)

/-! ## Generators -/

/-- A script is found, or the host names it, which is one step of the history, or there is none. -/
theorem resolveScript_cases (desk : Desk) (world : World) (kind : GeneratorKind)
    (asked : Option String) :
    desk.Keeps (desk.resolveScript world kind asked).2 ∨
    ∃ path, world.host.scriptPath = some path ∧
      desk.KeepsScript (desk.resolveScript world kind asked).2 kind path := by
  have hcall : desk.Keeps (desk.call (.askScript kind)) := Keeps.call desk (by simp)
  unfold resolveScript
  split
  · exact Or.inl (Keeps.refl desk)
  · dsimp only
    split
    · exact Or.inl hcall
    · rename_i path hpath
      split
      · exact Or.inl hcall
      · rename_i after happly
        refine Or.inr ⟨path, (Option.filter_eq_some_iff.mp hpath).1, ?_⟩
        obtain ⟨project, hproject, hsession, hcalls⟩ := apply_edit_ok happly
        have hscript : project = desk.project.setScript kind path :=
          (Except.ok.inj (Edit.apply_ok hproject).1).symm
        subst hscript
        exact ⟨by rw [hsession]; rfl, by rw [hsession]; rfl, by rw [hsession]; rfl,
          by rw [hsession]; rfl, by rw [hsession]; rfl,
          by rw [hcalls, call_calls, List.append_assoc, call_session, List.singleton_append]⟩

/-- Reports before and behind the step do not count. -/
theorem KeepsScript.between {first : Desk} {kind : GeneratorKind} {path : String}
    (h : before.KeepsScript after kind path) (hsession : before.session = first.session)
    (hcalls : before.calls = first.calls) (hlast : last.session = after.session)
    (hquiet : last.calls = after.calls) : first.KeepsScript last kind path := by
  have hproject : before.project = first.project := congrArg Session.project hsession
  obtain ⟨hhistory, hclipboard, hmodified, hfile, hbaseline, hasked⟩ := h
  rw [hsession, hproject, ← hlast] at hhistory
  rw [hsession, ← hlast] at hclipboard hfile hbaseline
  rw [← hlast] at hmodified
  rw [hsession, hcalls, ← hquiet] at hasked
  exact ⟨hhistory, hclipboard, hmodified, hfile, hbaseline, hasked⟩

theorem runGenerator_cases (desk : Desk) (world : World) (kind : GeneratorKind) (folder : String)
    (asked : Option String) :
    desk.Keeps (desk.runGenerator world kind folder asked).2 ∨
    ∃ path, world.host.scriptPath = some path ∧
      desk.KeepsScript (desk.runGenerator world kind folder asked).2 kind path := by
  have hscript := resolveScript_cases desk world kind asked
  unfold runGenerator
  dsimp only
  split
  · split
    · rename_i failed hresolve
      rw [hresolve] at hscript
      exact hscript
    · rename_i found resolved hresolve
      rw [hresolve] at hscript
      rcases hscript with hkeeps | ⟨path, hpath, hkeeps⟩
      · exact Or.inl (hkeeps.trans (Keeps.behind resolved _ _))
      · exact Or.inr ⟨path, hpath, hkeeps.between rfl rfl rfl rfl⟩
  · exact Or.inl (Keeps.behind desk _ _)

theorem generate_cases {kind : GeneratorKind} {folder : String} {asked : Option String}
    (h : (desk.generate world kind folder asked).1 = .error error) :
    desk.Keeps (desk.generate world kind folder asked).2 ∨
    ∃ path, world.host.scriptPath = some path ∧
      desk.KeepsScript (desk.generate world kind folder asked).2 kind path := by
  have hvalid := keeps_ensureValid desk world
  have hreported : (desk.ensureValid world).2.session = desk.session ∧
    (desk.ensureValid world).2.calls = desk.calls := ⟨rfl, rfl⟩
  unfold generate at h ⊢
  split at h
  · rename_i invalid hensure
    rw [hensure] at hvalid
    exact Or.inl hvalid
  · rename_i valid hensure
    rw [hensure] at hvalid hreported
    have hrun := runGenerator_cases valid world kind folder asked
    split at h
    · rename_i failed hfailed
      rw [hfailed] at hrun
      rcases hrun with hkeeps | ⟨path, hpath, hkeeps⟩
      · exact Or.inl (hvalid.trans hkeeps)
      · exact Or.inr ⟨path, hpath, hkeeps.between hreported.1 hreported.2 rfl rfl⟩
    · simp at h

/-! ## All operations -/

/-- Undoing the step that keeps a script brings the former project back. -/
theorem KeepsScript.undo {kind : GeneratorKind} {path : String}
    (h : before.KeepsScript after kind path) :
    ∃ flipped undone, after.session.editor.step .undo = some (flipped, undone) ∧
      undone.project = before.project ∧ undone.history.past = before.session.editor.history.past := by
  have hundo : after.session.editor.history.undo? = some ⟨before.session.editor.history.past,
      before.session.editor.history.current, [before.project.setScript kind path]⟩ := by
    rw [h.history]
    rfl
  have hstep : after.session.editor.step .undo = some (after.session.editor.changed
      ⟨before.session.editor.history.past, before.session.editor.history.current,
        [before.project.setScript kind path]⟩) := by
    rw [Editor.step, hundo]
    rfl
  exact ⟨_, _, hstep, rfl, rfl⟩

theorem perform_error_cases {operation : Operation} {failure : Failure}
    (h : (desk.perform world operation).1 = .error failure) :
    desk.Keeps (desk.perform world operation).2 ∨
    ∃ kind folder asked path, operation = .generate kind folder asked ∧
      world.host.scriptPath = some path ∧
      desk.KeepsScript (desk.perform world operation).2 kind path := by
  cases operation with
  | newProject => simp [perform] at h
  | closeProject => simp [perform] at h
  | openProject path =>
    rw [perform] at h ⊢
    exact Or.inl (of_as_error desk.Keeps h fun _ => keeps_openProject)
  | openChosen =>
    rw [perform] at h ⊢
    exact Or.inl (of_as_error desk.Keeps h fun _ => keeps_openChosen)
  | saveProject path =>
    rw [perform] at h ⊢
    exact Or.inl (of_as_error desk.Keeps h fun _ => keeps_saveProject)
  | save =>
    rw [perform] at h ⊢
    exact Or.inl (of_as_error desk.Keeps h fun _ => keeps_save)
  | saveAs =>
    rw [perform] at h ⊢
    exact Or.inl (of_as_error desk.Keeps h fun _ => keeps_saveAs)
  | importBook path =>
    rw [perform] at h ⊢
    exact Or.inl (of_as_error desk.Keeps h fun _ => keeps_importBook)
  | exportBook path =>
    rw [perform] at h ⊢
    exact Or.inl (of_as_error desk.Keeps h fun _ _ => keeps_exportBook desk world path)
  | command command =>
    simp only [perform] at h ⊢
    split at h
    · simp at h
    · exact Or.inl (Keeps.refl desk)
  | step direction =>
    simp only [perform] at h ⊢
    split at h
    · simp at h
    · exact Or.inl (Keeps.refl desk)
  | generate kind folder asked =>
    rw [perform] at h ⊢
    rcases of_as_error (fun last => desk.Keeps last ∨ ∃ path, world.host.scriptPath = some path ∧
      desk.KeepsScript last kind path) h fun _ => generate_cases with hkeeps | ⟨path, hpath, hkeeps⟩
    · exact Or.inl hkeeps
    · exact Or.inr ⟨kind, folder, asked, path, rfl, hpath, hkeeps⟩

/-- Whatever the session, the disk and the host are, an operation that fails keeps everything, and
only a generator may have kept a script that the host has named, in one step that can be undone. -/
theorem keeps_of_perform_error (desk : Desk) (world : World) (operation : Operation)
    (failure : Failure) (h : (desk.perform world operation).1 = .error failure) :
    let after := (desk.perform world operation).2
    desk.Keeps after ∨
    ∃ kind folder asked path, operation = .generate kind folder asked ∧
      world.host.scriptPath = some path ∧ desk.KeepsScript after kind path ∧
      ∃ flipped undone, after.session.editor.step .undo = some (flipped, undone) ∧
        undone.project = desk.project ∧
        undone.history.past = desk.session.editor.history.past := by
  rcases perform_error_cases h with hkeeps | ⟨kind, folder, asked, path, hgenerate, hpath, hkeeps⟩
  · exact Or.inl hkeeps
  · exact Or.inr ⟨kind, folder, asked, path, hgenerate, hpath, hkeeps, hkeeps.undo⟩

/-- A valid project without a board, beside a script. -/
def withoutBoard : Desk :=
  ⟨⟨.start { Project.template .epoch with
      metadata := { Metadata.new .epoch with editor := "A" } }, none, none, none⟩,
    ⟨[], [], [(["gen.py"], .file (.text ""))], [], none⟩, [], []⟩

/-- The generator fails for want of a board when the host has named its script already. The script
stays in the project, and undoing that one step brings the former project back. -/
theorem keepsScript_withoutBoard :
    let world : World :=
      ⟨.epoch, ⟨none, none, some "gen.py"⟩, fun _ _ disk => (.ended none "", disk)⟩
    let answer := withoutBoard.perform world (.generate .ipcManager "out" none)
    answer.1 = .error (.session (.generation .noBoard)) ∧
    withoutBoard.KeepsScript answer.2 .ipcManager "gen.py" ∧
    ∃ flipped undone, answer.2.session.editor.step .undo = some (flipped, undone) ∧
      undone.project = withoutBoard.project := by
  intro world answer
  have hfailed : answer.1 = .error (.session (.generation .noBoard)) := by rfl
  have hdepth : answer.2.session.editor.history.undoDepth = 1 := by decide
  refine ⟨hfailed, ?_⟩
  rcases keeps_of_perform_error withoutBoard world _ _ hfailed with
    hkeeps | ⟨kind, folder, asked, path, hgenerate, hpath, hkeeps, flipped, undone, hundo, hback, _⟩
  · rw [hkeeps.history] at hdepth
    cases hdepth
  · cases hgenerate
    cases hpath
    exact ⟨hkeeps, flipped, undone, hundo, hback⟩

end SignalCatalog.Desk
