import SignalCatalog.Proofs.Session.Failure

/-!
# Deeds of a session

What an operation of a session amounts to: whether it has put another project in place, has written the
current one down, or neither. `Session.Follows` says what a deed does to the project, the mark of
unsaved changes and the version to compare with. It is proved once for each operation, and everything
about whole runs follows from it.

In a run the operations happen in any order, each in a world of its own. In between the session may be
validated, another date may count as today, and others may change the disk.
-/

namespace SignalCatalog

inductive Deed
  /-- A new project was started, perhaps because the old one was closed. -/
  | started (project : Project)
  | opened (project : Project)
  | saved (project : Project)
  | imported (project : Project)
  | exported (project : Project)
  | generated (project : Project)
  /-- An edit, a step in the history, or nothing at all. -/
  | other

namespace Deed

/-- The project that was installed or saved. -/
def stored? : Deed → Option Project
  | started project | opened project | saved project => some project
  | _ => none

/-- The version to compare with from now on, which may be none, if the deed sets it. -/
def baseline? : Deed → Option (Option String)
  | started _ => some none
  | opened project | saved project | imported project => some (some project.metadata.version)
  | _ => none

/-- The project that was written down. -/
def written? : Deed → Option Project
  | saved project | exported project | generated project => some project
  | _ => none

/-- Whether another project has taken the place of the former one. -/
def replaces : Deed → Bool
  | started _ | opened _ | imported _ => true
  | _ => false

end Deed

/-- What an operation has done between two states of a session. -/
structure Session.Follows (before : Session) (world : World) (deed : Deed) (after : Session) :
    Prop where
  stored : ∀ project, deed.stored? = some project →
    after.project = project ∧ after.editor.isModified = false
  /-- A project that is neither installed nor saved is marked when it changes. -/
  unstored : deed.stored? = none → after.editor.isModified = true ∨
    after.editor.isModified = before.editor.isModified ∧ after.project = before.project
  baseline : after.baseline = deed.baseline?.getD before.baseline
  written : ∀ project, deed.written? = some project →
    Issue.errors (project.issues (before.today world) before.baseline) = []

namespace Session.Follows

variable {before after : Session} {world : World}

theorem of_installed {deed : Deed} {project : Project} (hstored : deed.stored? = some project)
    (hwritten : deed.written? = none) (hproject : after.project = project)
    (hclean : after.editor.isModified = false)
    (hbaseline : after.baseline = deed.baseline?.getD before.baseline) :
    before.Follows world deed after where
  stored _ h := ⟨by rw [hproject, Option.some.inj (hstored.symm.trans h)], hclean⟩
  unstored h := by rw [hstored] at h; cases h
  baseline := hbaseline
  written _ h := by rw [hwritten] at h; cases h

theorem of_kept {deed : Deed} (hstored : deed.stored? = none) (hbaseline : deed.baseline? = none)
    (hwritten : ∀ project, deed.written? = some project →
      Issue.errors (project.issues (before.today world) before.baseline) = [])
    (hkept : after.editor.isModified = true ∨
      after.editor.isModified = before.editor.isModified ∧ after.project = before.project)
    (hsame : after.baseline = before.baseline) : before.Follows world deed after where
  stored _ h := by rw [hstored] at h; cases h
  unstored _ := hkept
  baseline := by rw [hbaseline]; exact hsame
  written := hwritten

theorem other (hkept : after.editor.isModified = true ∨
      after.editor.isModified = before.editor.isModified ∧ after.project = before.project)
    (hsame : after.baseline = before.baseline) : before.Follows world .other after :=
  .of_kept rfl rfl (fun _ h => by cases h) hkept hsame

end Session.Follows

namespace Desk

/-- What has been done when the project of a file was to be opened. -/
def deedOfOpening (desk : Desk) (world : World) (path : Option String) : Deed :=
  match path.map fun path => (desk.disk.loadProject world.clock path).1 with
  | some (.ok project) => .opened project
  | _ => .other

/-- What has been done when the project was to be saved. -/
def deedOfSaving (desk : Desk) (chose : Bool) : Deed := if chose then .saved desk.project else .other

/-- What an operation does. -/
def deed (desk : Desk) (world : World) (operation : Operation) : Deed :=
  match operation, (desk.perform world operation).1 with
  | .newProject, .ok _ | .closeProject, .ok _ => .started (.template (desk.session.today world))
  | .openProject path, .ok _ => desk.deedOfOpening world (some path)
  | .openChosen, .ok _ => desk.deedOfOpening world world.host.openPath
  | .saveProject _, .ok _ => .saved desk.project
  | .save, .ok (.chosen chose) | .saveAs, .ok (.chosen chose) => desk.deedOfSaving chose
  | .importBook _, .ok (.imported project _) => .imported project
  | .exportBook _, .ok _ => .exported desk.project
  | .generate .., .ok _ => .generated (desk.perform world operation).2.project
  | _, _ => .other

variable {desk before after : Desk} {world : World}

theorem Keeps.unchanged (h : before.Keeps after) :
    after.session.editor.isModified = before.session.editor.isModified ∧
      after.session.project = before.session.project :=
  ⟨h.modified, congrArg History.current h.history⟩

/-! ## Opening -/

theorem follows_install {deed : Deed} {project : Project} {file baseline : Option String}
    (hstored : deed.stored? = some project)
    (hwritten : deed.written? = none) (hbaseline : deed.baseline? = some baseline) :
    before.session.Follows world deed (desk.install project file baseline).session := by
  refine .of_installed hstored hwritten ?_ ?_ ?_
  · rw [install_session]
    rfl
  · rw [install_session]
    rfl
  · rw [install_session, hbaseline]
    rfl

theorem follows_openProject {path : String} (h : (desk.openProject world path).1 = .ok ()) :
    desk.session.Follows world (desk.deedOfOpening world (some path))
      (desk.openProject world path).2.session := by
  unfold openProject at h ⊢
  unfold deedOfOpening
  split at h
  · simp at h
  · rename_i project events hload
    rw [Option.map_some, hload]
    exact follows_install rfl rfl rfl

theorem follows_openChosen {chose : Bool} (h : (desk.openChosen world).1 = .ok chose) :
    desk.session.Follows world (desk.deedOfOpening world world.host.openPath)
      (desk.openChosen world).2.session := by
  unfold openChosen at h ⊢
  dsimp only at h ⊢
  split at h
  · rename_i hpath
    rw [hpath]
    exact .other (Or.inr ⟨rfl, rfl⟩) rfl
  · rename_i path hpath
    rw [hpath]
    cases hopen : ((desk.call .askOpen).openProject world path).1 with
    | error cause => simp [hopen, Except.map] at h
    | ok opened => exact follows_openProject hopen

/-! ## Writing -/

theorem ensureValid_session (desk : Desk) (world : World) :
    (desk.ensureValid world).2.session = desk.session := rfl

theorem errors_of_ensureValid {valid : Unit} {checked : Desk}
    (h : desk.ensureValid world = (.ok valid, checked)) :
    Issue.errors (desk.session.issues world) = [] ∧ checked.session = desk.session := by
  obtain rfl : checked = (desk.ensureValid world).2 := by rw [h]
  refine ⟨?_, desk.ensureValid_session world⟩
  have hok : (desk.ensureValid world).1 = .ok valid := by rw [h]
  unfold ensureValid at hok
  dsimp only at hok
  split at hok
  · rename_i hempty
    exact List.isEmpty_iff.mp hempty
  · cases hok

@[simp] theorem savedTo_session (desk : Desk) (path : String) : (desk.savedTo path).session =
    ⟨{ desk.session.editor with tracker := .clean }, some path, some desk.project.metadata.version,
      desk.session.pinned⟩ := by
  simp [savedTo, Editor.saved, Tracker.saved, Tracker.reset, Tracker.clean]

theorem follows_saveProject {path : String} (h : (desk.saveProject world path).1 = .ok ()) :
    desk.session.Follows world (.saved desk.project) (desk.saveProject world path).2.session := by
  unfold saveProject at h ⊢
  split at h
  · simp at h
  · rename_i valid hensure
    obtain ⟨herrors, hsession⟩ := errors_of_ensureValid hensure
    have hproject : valid.project = desk.project := congrArg Session.project hsession
    dsimp only at h ⊢
    split at h
    · simp at h
    · rw [savedTo_session]
      exact {
        stored := fun project hp => ⟨hproject.trans (Option.some.inj hp), rfl⟩
        unstored := fun hnone => by cases hnone
        baseline := congrArg (fun project => some project.metadata.version) hproject
        written := fun project hp => by
          obtain rfl : desk.project = project := Option.some.inj hp
          exact herrors }

theorem follows_saveChosen {target : Option String} {chose : Bool}
    (h : (desk.saveChosen world target).1 = .ok chose) :
    desk.session.Follows world (desk.deedOfSaving chose)
      (desk.saveChosen world target).2.session := by
  cases target with
  | none =>
    cases h
    exact .other (Or.inr ⟨rfl, rfl⟩) rfl
  | some path =>
    simp only [saveChosen] at h ⊢
    cases hsave : (desk.saveProject world path).1 with
    | error cause => simp [hsave, Except.map] at h
    | ok saved =>
      simp only [hsave, Except.map, Except.ok.injEq] at h
      subst h
      exact follows_saveProject hsave

theorem follows_saveAs {chose : Bool} (h : (desk.saveAs world).1 = .ok chose) :
    desk.session.Follows world (desk.deedOfSaving chose) (desk.saveAs world).2.session := by
  -- Asking the host leaves the session as it is.
  have hasked : (desk.call (.askSave desk.session.file)).session.Follows world _ _ :=
    follows_saveChosen h
  exact hasked

theorem follows_save {chose : Bool} (h : (desk.save world).1 = .ok chose) :
    desk.session.Follows world (desk.deedOfSaving chose) (desk.save world).2.session := by
  unfold save at h ⊢
  split at h
  · exact follows_saveChosen h
  · exact follows_saveAs h

theorem follows_exportBook {path : String} (h : (desk.exportBook world path).1 = .ok ()) :
    desk.session.Follows world (.exported desk.project) (desk.exportBook world path).2.session := by
  have hkept := keeps_exportBook desk world path
  refine .of_kept rfl rfl ?_ (Or.inr hkept.unchanged) hkept.baseline
  intro project hproject
  obtain rfl : desk.project = project := Option.some.inj hproject
  unfold exportBook at h
  split at h
  · simp at h
  · rename_i valid hensure
    exact (errors_of_ensureValid hensure).1

/-! ## Editing -/

/-- An accepted command changes the project and marks it, or leaves both. -/
theorem follows_apply {command : Command} (h : desk.apply command = .ok after) :
    desk.session.Follows world .other after.session := by
  obtain ⟨flipped, editor, hrun, rfl⟩ := apply_ok h
  rw [change_session, report_session]
  refine .other ?_ rfl
  rcases Editor.apply_cases hrun with ⟨edit, project, _, _, _, rfl⟩ | ⟨name, signal, _, _, rfl⟩
  · exact Or.inl rfl
  · exact Or.inr ⟨rfl, rfl⟩

theorem follows_step {direction : Direction} (h : desk.step direction = some after) :
    desk.session.Follows world .other after.session := by
  obtain ⟨⟨flipped, editor⟩, hstep, rfl⟩ := Option.map_eq_some_iff.mp h
  rw [change_session, report_session]
  obtain ⟨history, _, hmoved⟩ := Option.map_eq_some_iff.mp hstep
  obtain rfl : (desk.session.editor.changed history).2 = editor := congrArg Prod.snd hmoved
  exact .other (Or.inl rfl) rfl

theorem follows_importBook {path : String} {project : Project} {findings : List Finding}
    (h : (desk.importBook world path).1 = .ok (project, findings)) :
    desk.session.Follows world (.imported project) (desk.importBook world path).2.session := by
  unfold importBook at h ⊢
  split at h
  · simp at h
  · rename_i imported found events _
    dsimp only at h ⊢
    unfold installImport at h ⊢
    split at h
    · simp [Except.map] at h
    · rename_i replaced happly
      obtain ⟨rfl, rfl⟩ : imported = project ∧ found = findings := by simpa [Except.map] using h
      obtain ⟨_, _, hsession, _⟩ := apply_edit_ok happly
      exact {
        stored := fun _ hp => by cases hp
        unstored := fun _ => Or.inl (by rw [hsession]; rfl)
        baseline := rfl
        written := fun _ hp => by cases hp }

/-! ## Generators -/

/-- A script that the host has named makes no issue. -/
theorem issues_setScript (project : Project) (kind : GeneratorKind) (path : String) (today : Date)
    (baseline : Option String) :
    (project.setScript kind path).issues today baseline = project.issues today baseline := rfl

theorem follows_generate {kind : GeneratorKind} {folder : String} {asked : Option String}
    {paths : List String} (h : (desk.generate world kind folder asked).1 = .ok paths) :
    desk.session.Follows world (.generated (desk.generate world kind folder asked).2.project)
      (desk.generate world kind folder asked).2.session := by
  unfold generate at h ⊢
  split at h
  · simp at h
  · rename_i valid hensure
    obtain ⟨herrors, hsession⟩ := errors_of_ensureValid hensure
    have hrun := runGenerator_cases valid world kind folder asked
    split at h
    · simp at h
    · rename_i made generated hmade
      rw [hmade] at hrun
      rw [← hsession] at herrors ⊢
      rcases hrun with hkept | ⟨path, _, hkept⟩
      · have hproject : generated.project = valid.project := hkept.unchanged.2
        refine .of_kept rfl rfl ?_ (Or.inr hkept.unchanged) hkept.baseline
        intro project hp
        obtain rfl : generated.project = project := Option.some.inj hp
        rw [hproject]
        exact herrors
      · have hproject : generated.project = valid.project.setScript kind path :=
          congrArg History.current hkept.history
        refine .of_kept rfl rfl ?_ (Or.inl hkept.modified) hkept.baseline
        intro project hp
        obtain rfl : generated.project = project := Option.some.inj hp
        rw [hproject, issues_setScript]
        exact herrors

/-! ## All operations -/

/-- An operation that fails has done nothing. -/
theorem deed_of_error {operation : Operation} {failure : Failure}
    (h : (desk.perform world operation).1 = .error failure) : desk.deed world operation = .other := by
  unfold deed
  rw [h]
  cases operation <;> rfl

/-- What an operation leaves follows from what was there by its deed. -/
theorem follows_perform (desk : Desk) (world : World) (operation : Operation) :
    desk.session.Follows world (desk.deed world operation)
      (desk.perform world operation).2.session := by
  cases h : (desk.perform world operation).1 with
  | error failure =>
    rw [deed_of_error h]
    rcases perform_error_cases h with hkept | ⟨kind, _, _, path, _, _, hkept⟩
    · exact .other (Or.inr hkept.unchanged) hkept.baseline
    · exact .other (Or.inl hkept.modified) hkept.baseline
  | ok outcome =>
    unfold deed
    rw [h]
    cases operation with
    | newProject => exact follows_install rfl rfl rfl
    | closeProject => exact follows_install rfl rfl rfl
    | openProject path =>
      simp only [perform, snd_as] at h ⊢
      obtain ⟨_, hopen, _⟩ := of_as_ok h
      exact follows_openProject hopen
    | openChosen =>
      simp only [perform, snd_as] at h ⊢
      obtain ⟨_, hopen, _⟩ := of_as_ok h
      exact follows_openChosen hopen
    | saveProject path =>
      simp only [perform, snd_as] at h ⊢
      obtain ⟨_, hsave, _⟩ := of_as_ok h
      exact follows_saveProject hsave
    | save =>
      simp only [perform, snd_as] at h ⊢
      obtain ⟨chose, hsave, rfl⟩ := of_as_ok h
      exact follows_save hsave
    | saveAs =>
      simp only [perform, snd_as] at h ⊢
      obtain ⟨chose, hsave, rfl⟩ := of_as_ok h
      exact follows_saveAs hsave
    | importBook path =>
      simp only [perform, snd_as] at h ⊢
      obtain ⟨_, himport, rfl⟩ := of_as_ok h
      exact follows_importBook himport
    | exportBook path =>
      simp only [perform, snd_as] at h ⊢
      obtain ⟨_, hexport, _⟩ := of_as_ok h
      exact follows_exportBook hexport
    | command command =>
      simp only [perform] at h ⊢
      split at h
      · rename_i after happly
        exact follows_apply happly
      · simp at h
    | step direction =>
      simp only [perform] at h ⊢
      split at h
      · rename_i after hstep
        exact follows_step hstep
      · simp at h
    | generate kind folder asked =>
      simp only [perform, snd_as] at h ⊢
      obtain ⟨_, hgenerate, _⟩ := of_as_ok h
      exact follows_generate hgenerate

end Desk

/-! ## Runs -/

inductive Happening
  | operation (world : World) (operation : Operation)
  | validate (world : World)
  | pin (date : Option Date)
  /-- Others change the disk. -/
  | disturb (disk : Disk)

/-- The last value that the items give, or the first one if they give none. -/
def latest {α β : Type} (value? : α → Option β) (first : β) (items : List α) : β :=
  items.foldl (fun value item => (value? item).getD value) first

namespace Desk

def after (desk : Desk) : Happening → Desk
  | .operation world operation => (desk.perform world operation).2
  | .validate world => (desk.validate world).2
  | .pin date => desk.pin date
  | .disturb disk => desk.onDisk disk

def afterAll (desk : Desk) (happenings : List Happening) : Desk := happenings.foldl after desk

/-- What a happening does. -/
def done (desk : Desk) : Happening → Deed
  | .operation world operation => desk.deed world operation
  | _ => .other

/-- What the happenings of a run do, in order. -/
def deeds (desk : Desk) : List Happening → List Deed
  | [] => []
  | happening :: rest => desk.done happening :: (desk.after happening).deeds rest

theorem follows_after (desk : Desk) (happening : Happening) :
    ∃ world, desk.session.Follows world (desk.done happening) (desk.after happening).session := by
  -- No world takes part in what is not an operation, so that any of them will do.
  let idle : World := ⟨.epoch, .silent, fun _ _ disk => (.ended none "", disk)⟩
  have hquiet : ∀ after : Session, after.editor = desk.session.editor →
      after.baseline = desk.session.baseline → desk.session.Follows idle .other after := by
    intro after heditor hbaseline
    refine .other (Or.inr ?_) hbaseline
    rw [Session.project, Session.project, heditor]
    exact ⟨rfl, rfl⟩
  cases happening with
  | operation world operation => exact ⟨world, desk.follows_perform world operation⟩
  | validate world => exact ⟨idle, hquiet _ rfl rfl⟩
  | pin date => exact ⟨idle, hquiet _ rfl rfl⟩
  | disturb disk => exact ⟨idle, hquiet _ rfl rfl⟩

/-- What each happening keeps of a desk and the latest value that its deeds give, holds behind every
run. -/
theorem afterAll_latest {β : Type} {value? : Deed → Option β} {P : Desk → β → Prop}
    (hstep : ∀ desk value happening, P desk value →
      P (desk.after happening) ((value? (desk.done happening)).getD value))
    {desk : Desk} {first : β} (h : P desk first) (happenings : List Happening) :
    P (desk.afterAll happenings) (latest value? first (desk.deeds happenings)) := by
  induction happenings generalizing desk first with
  | nil => exact h
  | cons happening rest ih => exact ih (hstep desk first happening h)

end Desk

end SignalCatalog
