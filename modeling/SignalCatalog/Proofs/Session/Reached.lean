import SignalCatalog.Proofs.Editing.Storable
import SignalCatalog.Proofs.Session.Deeds

/-!
# Projects reached in a session

A project comes into the history of a session in three ways only: a new one is started, one is loaded
from a file, or the current one is edited. An import and a script that the host has named are edits.
Everything else keeps the projects of the history, whether it succeeds or not.

From this it follows that in every project that a session reaches the two lists have no repetitions and
hold the selections that are made and all systems with cores.
-/

namespace SignalCatalog

/-- A loaded project is what stood in the file, with its lists repaired. -/
theorem Disk.loadProject_ok {disk : Disk} {today : Date} {path : String} {project : Project}
    (h : (disk.loadProject today path).1 = .ok project) : ∃ read : Project, project = read.normalize := by
  unfold loadProject at h
  split at h
  · cases h
  · split at h
    · cases h
    · rename_i _ loaded _ hread
      cases h
      unfold Project.ofDocument at hread
      split at hread
      · rename_i read _
        cases hread
        exact ⟨read, rfl⟩
      · cases hread

/-- No rule is about scripts, so that the choice of one is never refused. -/
theorem Edit.apply_setScript (project : Project) (kind : GeneratorKind) (path : String) :
    (Edit.setScript kind path).apply project = .ok (project.setScript kind path) := by
  have hnone : project.violations.find?
      (fun violation => !project.violations.contains violation) = none := by
    simp
  have hsame : (project.setScript kind path).violations = project.violations := rfl
  simp only [apply, run, violations, bind, Except.bind, hsame, hnone]

namespace Desk

/-- The ways by which an operation brings a project into the history. -/
inductive Admits (desk : Desk) (world : World) : Project → Prop
  | started : Admits desk world (.template (desk.session.today world))
  | loaded {path : String} {project : Project}
      (h : (desk.disk.loadProject world.clock path).1 = .ok project) : Admits desk world project
  | edited {edit : Edit} {project : Project} (h : edit.apply desk.project = .ok project) :
    Admits desk world project

/-- Every project of the later history was in the former one or has been brought in. -/
def Grows (before : Desk) (world : World) (after : Desk) : Prop :=
  ∀ reached ∈ after.session.editor.history.toList,
    reached ∈ before.session.editor.history.toList ∨ before.Admits world reached

variable {desk before after : Desk} {world : World}

namespace Grows

theorem of_history (h : after.session.editor.history = before.session.editor.history) :
    before.Grows world after := by
  intro reached hreached
  rw [h] at hreached
  exact Or.inl hreached

theorem of_install {project : Project} (h : before.Admits world project)
    (file baseline : Option String) : before.Grows world (desk.install project file baseline) := by
  intro reached hreached
  rw [install_session] at hreached
  obtain rfl : reached = project := by
    simpa [History.start, History.toList] using hreached
  exact Or.inr h

theorem of_commit {edit : Edit} {project : Project} (h : edit.apply before.project = .ok project)
    (hhistory : after.session.editor.history = before.session.editor.history.commit project) :
    before.Grows world after := by
  intro reached hreached
  rw [hhistory] at hreached
  rcases Editor.mem_toList_commit hreached with hold | rfl
  · exact Or.inl hold
  · exact Or.inr (.edited h)

end Grows

/-! ## One operation after another -/

theorem grows_openProject (desk : Desk) (world : World) (path : String) :
    desk.Grows world (desk.openProject world path).2 := by
  unfold openProject
  split
  · exact .of_history rfl
  · rename_i project events hload
    exact .of_install (.loaded (by rw [hload])) _ _

theorem grows_openChosen (desk : Desk) (world : World) :
    desk.Grows world (desk.openChosen world).2 := by
  unfold openChosen
  dsimp only
  split
  · exact .of_history rfl
  · rename_i path _
    intro reached hreached
    refine (grows_openProject (desk.call .askOpen) world path reached hreached).imp id fun h => ?_
    -- The call of the host changes nothing that a project comes from.
    cases h with
    | started => exact .started
    | loaded h => exact .loaded h
    | edited h => exact .edited h

theorem history_saveProject (desk : Desk) (world : World) (path : String) :
    (desk.saveProject world path).2.session.editor.history = desk.session.editor.history := by
  have hchecked : (desk.ensureValid world).2.session.editor.history =
      desk.session.editor.history := rfl
  unfold saveProject
  split
  · rename_i invalid hensure
    rw [hensure] at hchecked
    exact hchecked
  · rename_i valid hensure
    rw [hensure] at hchecked
    dsimp only
    split
    · exact hchecked
    · rw [savedTo_session]
      exact hchecked

theorem history_saveChosen (desk : Desk) (world : World) (target : Option String) :
    (desk.saveChosen world target).2.session.editor.history = desk.session.editor.history := by
  cases target with
  | none => rfl
  | some path =>
    simp only [saveChosen]
    exact history_saveProject desk world path

theorem history_saveAs (desk : Desk) (world : World) :
    (desk.saveAs world).2.session.editor.history = desk.session.editor.history := by
  rw [saveAs, history_saveChosen]
  rfl

theorem history_save (desk : Desk) (world : World) :
    (desk.save world).2.session.editor.history = desk.session.editor.history := by
  unfold save
  split
  · exact history_saveChosen desk world _
  · exact history_saveAs desk world

theorem grows_importBook (desk : Desk) (world : World) (path : String) :
    desk.Grows world (desk.importBook world path).2 := by
  unfold importBook
  split
  · exact .of_history rfl
  · dsimp only
    unfold installImport
    split
    · exact .of_history rfl
    · rename_i replaced happly
      obtain ⟨edited, hedit, hsession, _⟩ := apply_edit_ok happly
      exact .of_commit hedit (congrArg (fun session => session.editor.history) hsession)

theorem grows_command {command : Command} (h : desk.apply command = .ok after) :
    desk.Grows world after := by
  obtain ⟨flipped, editor, hrun, rfl⟩ := apply_ok h
  intro reached hreached
  rw [change_session, report_session, ← Editor.handle_command_ok hrun] at hreached
  rcases Editor.mem_handle hreached with hold | ⟨_, edit, _, _, hedit⟩ | hreset
  · exact Or.inl hold
  · exact Or.inr (.edited hedit)
  · cases hreset

theorem grows_step {direction : Direction} (h : desk.step direction = some after) :
    desk.Grows world after := by
  obtain ⟨⟨flipped, editor⟩, hstep, rfl⟩ := Option.map_eq_some_iff.mp h
  intro reached hreached
  rw [change_session, report_session, Editor.toList_stepped? (Editor.step_cases hstep).1] at hreached
  exact Or.inl hreached

theorem grows_generate (desk : Desk) (world : World) (kind : GeneratorKind) (folder : String)
    (asked : Option String) : desk.Grows world (desk.generate world kind folder asked).2 := by
  have hchecked := desk.ensureValid_session world
  unfold generate
  split
  · rename_i invalid hensure
    rw [hensure] at hchecked
    exact .of_history (by rw [hchecked])
  · rename_i valid hensure
    rw [hensure] at hchecked
    have hrun : desk.Grows world (valid.runGenerator world kind folder asked).2 := by
      rcases runGenerator_cases valid world kind folder asked with hkept | ⟨path, _, hkept⟩
      · exact .of_history (by rw [hkept.history, hchecked])
      · have hproject : valid.project = desk.project := congrArg Session.project hchecked
        refine .of_commit (Edit.apply_setScript desk.project kind path) ?_
        rw [hkept.history, hchecked, hproject]
    split
    · rename_i failed hfailed
      rw [hfailed] at hrun
      exact hrun
    · rename_i paths generated hgenerated
      rw [hgenerated] at hrun
      exact hrun

/-- Whatever an operation does and whether it succeeds, it brings a project into the history only in
one of the three ways. -/
theorem grows_perform (desk : Desk) (world : World) (operation : Operation) :
    desk.Grows world (desk.perform world operation).2 := by
  cases operation with
  | newProject => exact .of_install .started none none
  | closeProject => exact .of_install .started none none
  | openProject path =>
    rw [perform, snd_as]
    exact grows_openProject desk world path
  | openChosen =>
    rw [perform, snd_as]
    exact grows_openChosen desk world
  | saveProject path =>
    rw [perform, snd_as]
    exact .of_history (history_saveProject desk world path)
  | save =>
    rw [perform, snd_as]
    exact .of_history (history_save desk world)
  | saveAs =>
    rw [perform, snd_as]
    exact .of_history (history_saveAs desk world)
  | importBook path =>
    rw [perform, snd_as]
    exact grows_importBook desk world path
  | exportBook path =>
    rw [perform, snd_as]
    exact .of_history (keeps_exportBook desk world path).history
  | command command =>
    rw [perform]
    split
    · rename_i after happly
      exact grows_command happly
    · exact .of_history rfl
  | step direction =>
    rw [perform]
    split
    · rename_i after hstep
      exact grows_step hstep
    · exact .of_history rfl
  | generate kind folder asked =>
    rw [perform, snd_as]
    exact grows_generate desk world kind folder asked

/-! ## Lists of all projects -/

/-- Whichever way a project comes in, its lists are repaired. -/
theorem Admits.repaired {project : Project} (h : desk.Admits world project)
    (hcurrent : desk.project.Repaired) : project.Repaired := by
  cases h with
  | started => exact Project.repaired_template _
  | loaded hload =>
    obtain ⟨read, rfl⟩ := Disk.loadProject_ok hload
    exact read.repaired_normalize
  | edited hedit => exact Edit.repaired_apply hcurrent hedit

/-- Every project of the history has repaired lists. -/
def Repaired (desk : Desk) : Prop := ∀ reached ∈ desk.session.editor.history.toList, reached.Repaired

theorem repaired_start (world : World) (disk : Disk) : (start world disk).Repaired := by
  intro reached hreached
  obtain rfl : reached = .template world.clock := by
    simpa [start, Session.start, Editor.start, History.start, History.toList] using hreached
  exact Project.repaired_template _

theorem repaired_after (h : desk.Repaired) (happening : Happening) :
    (desk.after happening).Repaired := by
  cases happening with
  | operation world operation =>
    intro reached hreached
    rcases desk.grows_perform world operation reached hreached with hold | hadmits
    · exact h reached hold
    · exact hadmits.repaired (h _ desk.session.editor.project_mem)
  | validate world => exact h
  | pin date => exact h
  | disturb disk => exact h

theorem repaired_afterAll (h : desk.Repaired) (happenings : List Happening) :
    (desk.afterAll happenings).Repaired := by
  induction happenings generalizing desk with
  | nil => exact h
  | cons happening rest ih => exact ih (repaired_after h happening)

/-- Whatever happens in a session, whatever is on the disk and whichever project takes the place of
another one: the history holds the current project, and in each project of it, undone ones included,
the two lists have no repetitions, the systems with cores are listed, and so are the selections that are
made. -/
theorem listed_of_reached (world : World) (disk : Disk) (happenings : List Happening) :
    let session := ((start world disk).afterAll happenings).session
    session.project ∈ session.editor.history.toList ∧
    ∀ reached ∈ session.editor.history.toList,
      reached.socList.Nodup ∧ reached.buildList.Nodup ∧
      (∀ soc ∈ reached.cores.keys, soc ∈ reached.socList) ∧
      (reached.socType = "" ∨ reached.socType ∈ reached.socList) ∧
      (reached.buildType = "" ∨ reached.buildType ∈ reached.buildList) := by
  intro session
  refine ⟨session.editor.project_mem, ?_⟩
  intro reached hreached
  have hrepaired := repaired_afterAll (repaired_start world disk) happenings reached hreached
  exact ⟨hrepaired.socs, hrepaired.builds, hrepaired.cores, hrepaired.soc, hrepaired.build⟩

end Desk

end SignalCatalog
