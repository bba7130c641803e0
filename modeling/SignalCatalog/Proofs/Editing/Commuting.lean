import SignalCatalog.Proofs.Editing.Splicing

/-!
# Edits of different signals

An edit of a signal that is there splices the catalog at this signal, and whether it is refused
depends on the signal and the cores alone. So of two edits of different signals neither sees whether
the other has been made, and the catalog behind both does not depend on their order. Names that are
given by renaming must be free and distinct, for a renaming asks whether its name is in use.
-/

namespace SignalCatalog

namespace Edit

variable {edit : Edit} {project edited : Project} {cause : EditError}

/-- Why an edit is refused, if it is. -/
def refusal? (edit : Edit) (project : Project) : Option EditError :=
  match edit.apply project with
  | .error cause => some cause
  | .ok _ => none

/-- The project behind an edit; a refused one leaves it as it is. -/
def after (edit : Edit) (project : Project) : Project :=
  match edit.apply project with
  | .error _ => project
  | .ok edited => edited

theorem refused (h : edit.apply project = .error cause) :
    edit.refusal? project = some cause ∧ edit.after project = project := by
  rw [refusal?, after, h]
  exact ⟨rfl, rfl⟩

theorem accepted (h : edit.apply project = .ok edited) :
    edit.refusal? project = none ∧ edit.after project = edited := by
  rw [refusal?, after, h]
  exact ⟨rfl, rfl⟩

end Edit

/-- An edit of a signal that is there. -/
inductive SignalEdit
  | delete
  | rename (newName : String)
  | update (signal : Signal)

namespace SignalEdit

variable {edit first second : SignalEdit} {project edited : Project} {name a b : String}
  {old x y : Signal} {front middle new back : List (String × Signal)} {cause : EditError}

/-- The edit of the signal of a name. -/
def toEdit (name : String) : SignalEdit → Edit
  | delete => .deleteSignal name
  | rename newName => .renameSignal name newName
  | update signal => .updateSignal name signal

/-- The name that a renaming gives. -/
def target? : SignalEdit → Option String
  | rename newName => some (Text.trimmed newName)
  | _ => none

/-! ## One edit -/

/-- What an edit puts in the place of a signal, unless its own rules refuse it. -/
def replacement (name : String) (old : Signal) :
    SignalEdit → Except EditError (List (String × Signal))
  | delete => .ok []
  | rename newName =>
    if Text.trimmed newName = "" then .error (.emptyName .signal)
    else .ok [(Text.trimmed newName, Project.renamed name (Text.trimmed newName) old)]
  | update signal => .ok [(name, signal)]

theorem keys_replacement (h : edit.replacement name old = .ok new) :
    ∀ key ∈ Entries.keys new, key = name ∨ key ∈ edit.target? := by
  intro key hkey
  cases edit with
  | delete =>
    obtain rfl : [] = new := Except.ok.inj h
    simp at hkey
  | rename newName =>
    by_cases hname : Text.trimmed newName = ""
    · simp [replacement, hname] at h
    · simp only [replacement, hname, if_false, Except.ok.injEq] at h
      subst h
      exact Or.inr (congrArg some (List.mem_singleton.mp hkey).symm)
  | update signal =>
    obtain rfl : [(name, signal)] = new := Except.ok.inj h
    exact Or.inl (List.mem_singleton.mp hkey)

theorem run_of_error (h : edit.replacement name old = .error cause) :
    (edit.toEdit name).run project = .error cause := by
  cases edit with
  | delete => cases h
  | rename newName =>
    by_cases hname : Text.trimmed newName = ""
    · simp only [replacement, hname, if_true, Except.error.injEq] at h
      simp [toEdit, Edit.run, Project.renameSignal, Project.newName, hname, h, bind, Except.bind]
    · simp [replacement, hname] at h
  | update signal => cases h

/-- An edit by its own rules is a splice at the signal. -/
theorem run_of_ok (hentries : project.signals.entries = front ++ (name, old) :: back)
    (hfree : ∀ target ∈ edit.target?, target ∉ project.signals.keys)
    (h : edit.replacement name old = .ok new) :
    ∃ edited, (edit.toEdit name).run project = .ok edited ∧
      edited.Spliced project front [(name, old)] new back := by
  have hold : project.signals.contains name = true := by
    rw [OrderedMap.contains_iff, OrderedMap.keys, hentries, Entries.keys_append]
    exact List.mem_append_right _ List.mem_cons_self
  cases edit with
  | delete =>
    obtain rfl : [] = new := Except.ok.inj h
    refine ⟨{ project with signals := project.signals.erase name }, ?_, rfl, hentries,
      OrderedMap.entries_erase hentries⟩
    simp [toEdit, Edit.run, Project.deleteSignal, hold]
  | rename newName =>
    have hnew : Text.trimmed newName ∉ project.signals.keys := hfree _ rfl
    by_cases hname : Text.trimmed newName = ""
    · simp [replacement, hname] at h
    · simp only [replacement, hname, if_false, Except.ok.injEq] at h
      subst h
      refine ⟨{ project with
        signals := project.signals.rekey name (Text.trimmed newName)
          (Project.renamed name (Text.trimmed newName)) }, ?_, rfl, hentries,
        OrderedMap.entries_rekey hentries hnew _⟩
      simp [toEdit, Edit.run, Project.renameSignal, Project.newName, hname, hold,
        OrderedMap.contains_eq_false_iff.mpr hnew, bind, Except.bind]
  | update signal =>
    obtain rfl : [(name, signal)] = new := Except.ok.inj h
    refine ⟨{ project with signals := project.signals.insert name signal }, ?_, rfl, hentries,
      OrderedMap.entries_insert hentries⟩
    simp [toEdit, Edit.run, Project.updateSignal, hold]

theorem replaces_toEdit (edit : SignalEdit) (name : String) :
    (edit.toEdit name).replaces = false := by
  cases edit <;> rfl

/-- What an edit puts in the place of a signal, unless it is refused. -/
def splice (edit : SignalEdit) (project : Project) (name : String) (old : Signal) :
    Except EditError (List (String × Signal)) :=
  (edit.replacement name old).bind fun new =>
    match project.firstNew? [(name, old)] new with
    | some violation => .error (.breaks violation)
    | none => .ok new

/-- Of the project an edit asks only for the cores. -/
theorem splice_congr (h : edited.cores = project.cores) (edit : SignalEdit) (name : String)
    (old : Signal) : edit.splice edited name old = edit.splice project name old := by
  simp only [splice, Project.firstNew?_congr h]

/-- What stands in the place of a signal behind an edit of it. -/
def left (edit : SignalEdit) (project : Project) (name : String) (old : Signal) :
    List (String × Signal) :=
  match edit.splice project name old with
  | .error _ => [(name, old)]
  | .ok new => new

theorem left_congr (h : edited.cores = project.cores) (edit : SignalEdit) (name : String)
    (old : Signal) : edit.left edited name old = edit.left project name old := by
  rw [left, left, splice_congr h]

/-- An edit is answered by its splice, and behind it the splice is made. -/
theorem answered (hentries : project.signals.entries = front ++ (name, old) :: back)
    (hfree : ∀ target ∈ edit.target?, target ∉ project.signals.keys) :
    ((edit.toEdit name).refusal? project =
      match edit.splice project name old with
      | .error cause => some cause
      | .ok _ => none) ∧
    ((edit.toEdit name).after project).Spliced project front [(name, old)]
      (edit.left project name old) back := by
  have hkept : project.Spliced project front [(name, old)] [(name, old)] back :=
    ⟨rfl, hentries, hentries⟩
  rw [left, splice]
  cases hreplacement : edit.replacement name old with
  | error cause =>
    have happly : (edit.toEdit name).apply project = .error cause := by
      simp [Edit.apply, run_of_error hreplacement, bind, Except.bind]
    rw [(Edit.refused happly).1, (Edit.refused happly).2]
    exact ⟨rfl, hkept⟩
  | ok new =>
    obtain ⟨edited, hrun, hspliced⟩ := run_of_ok hentries hfree hreplacement
    have happly := Edit.apply_of_spliced (edit.replaces_toEdit name) hrun hspliced
    simp only [Except.bind]
    cases hnew : project.firstNew? [(name, old)] new with
    | some violation =>
      rw [hnew, Edit.verdict] at happly
      rw [(Edit.refused happly).1, (Edit.refused happly).2]
      exact ⟨rfl, hkept⟩
    | none =>
      rw [hnew, Edit.verdict] at happly
      rw [(Edit.accepted happly).1, (Edit.accepted happly).2]
      exact ⟨rfl, hspliced⟩

theorem keys_left (edit : SignalEdit) (project : Project) (name : String) (old : Signal) :
    ∀ key ∈ Entries.keys (edit.left project name old), key = name ∨ key ∈ edit.target? := by
  rw [left, splice]
  cases hreplacement : edit.replacement name old with
  | error cause => exact fun key hkey => Or.inl (List.mem_singleton.mp hkey)
  | ok new =>
    simp only [Except.bind]
    cases project.firstNew? [(name, old)] new with
    | some violation => exact fun key hkey => Or.inl (List.mem_singleton.mp hkey)
    | none => exact keys_replacement hreplacement

/-! ## Two edits -/

/-- Two edits of different signals that are there; the names that they give are free and distinct. -/
structure Apart (project : Project) (first : SignalEdit) (a : String) (second : SignalEdit)
    (b : String) : Prop where
  signals : a ≠ b
  first_mem : a ∈ project.signals.keys
  second_mem : b ∈ project.signals.keys
  first_free : ∀ target ∈ first.target?, target ∉ project.signals.keys
  second_free : ∀ target ∈ second.target?, target ∉ project.signals.keys
  targets : ∀ target ∈ first.target?, target ∉ second.target?

theorem Apart.symm (h : Apart project first a second b) : Apart project second b first a :=
  ⟨h.signals.symm, h.second_mem, h.first_mem, h.second_free, h.first_free,
    fun target hsecond hfirst => h.targets target hfirst hsecond⟩

/-- Behind an edit of a signal the names of another edit are still free. -/
theorem Apart.still_free (h : Apart project first a second b)
    (hentries : project.signals.entries = front ++ (a, x) :: back)
    (hedited : edited.Spliced project front [(a, x)] (first.left project a x) back) :
    ∀ target ∈ second.target?, target ∉ edited.signals.keys := by
  intro target htarget hmem
  have hold := h.second_free target htarget
  rw [OrderedMap.keys, hentries, Entries.keys_append, Entries.keys_cons, List.mem_append,
    List.mem_cons, not_or, not_or] at hold
  rw [OrderedMap.keys, hedited.behind, Entries.keys_append, Entries.keys_append, List.mem_append,
    List.mem_append] at hmem
  rcases hmem with hmem | hmem | hmem
  · exact hold.1 hmem
  · rcases keys_left first project a x target hmem with heq | hgiven
    · exact hold.2.1 heq
    · exact h.targets target hgiven htarget
  · exact hold.2.2 hmem

/-- What two edits make of each other: neither is answered otherwise behind the other one, and the
project behind both is the same in either order. -/
structure Commute (project : Project) (first second : Edit) : Prop where
  first_refusal : first.refusal? (second.after project) = first.refusal? project
  second_refusal : second.refusal? (first.after project) = second.refusal? project
  after : second.after (first.after project) = first.after (second.after project)

theorem Commute.symm {first second : Edit} (h : Commute project first second) :
    Commute project second first :=
  ⟨h.second_refusal, h.first_refusal, h.after.symm⟩

/-- Two edits of which the first is of the earlier signal. -/
theorem Apart.commute_of_before (h : Apart project first a second b)
    (hentries : project.signals.entries = front ++ (a, x) :: (middle ++ (b, y) :: back)) :
    Commute project (first.toEdit a) (second.toEdit b) := by
  have hgrouped : project.signals.entries = (front ++ (a, x) :: middle) ++ (b, y) :: back := by
    rw [hentries, List.append_assoc, List.cons_append]
  obtain ⟨hfirst, hfirstSpliced⟩ := answered hentries h.first_free
  obtain ⟨hsecond, hsecondSpliced⟩ := answered hgrouped h.second_free
  have hbehindFirst : ((first.toEdit a).after project).signals.entries =
      (front ++ (first.left project a x ++ middle)) ++ (b, y) :: back := by
    rw [hfirstSpliced.behind]
    simp only [List.append_assoc]
  have hbehindSecond : ((second.toEdit b).after project).signals.entries =
      front ++ (a, x) :: (middle ++ (second.left project b y ++ back)) := by
    rw [hsecondSpliced.behind]
    simp only [List.append_assoc, List.cons_append]
  obtain ⟨hsecondLater, hsecondLast⟩ :=
    answered hbehindFirst (h.still_free hentries hfirstSpliced)
  obtain ⟨hfirstLater, hfirstLast⟩ :=
    answered hbehindSecond (h.symm.still_free hgrouped hsecondSpliced)
  rw [splice_congr hfirstSpliced.cores] at hsecondLater
  rw [splice_congr hsecondSpliced.cores] at hfirstLater
  refine ⟨hfirstLater.trans hfirst.symm, hsecondLater.trans hsecond.symm, ?_⟩
  have hsignals : ((second.toEdit b).after ((first.toEdit a).after project)).signals =
      ((first.toEdit a).after ((second.toEdit b).after project)).signals := by
    apply OrderedMap.ext
    rw [hsecondLast.behind, hfirstLast.behind, left_congr hfirstSpliced.cores,
      left_congr hsecondSpliced.cores]
    simp only [List.append_assoc]
  rw [hsecondLast.rest, hfirstLast.rest, hsignals, hfirstSpliced.rest, hsecondSpliced.rest]

theorem Apart.commute (h : Apart project first a second b) :
    Commute project (first.toEdit a) (second.toEdit b) := by
  obtain ⟨⟨_, x⟩, hx, rfl⟩ := List.mem_map.mp h.first_mem
  obtain ⟨⟨_, y⟩, hy, rfl⟩ := List.mem_map.mp h.second_mem
  obtain ⟨front, back, hentries⟩ := List.append_of_mem hx
  rw [hentries, List.mem_append, List.mem_cons] at hy
  rcases hy with hy | hy | hy
  · -- the second signal stands before the first
    obtain ⟨start, middle, hfront⟩ := List.append_of_mem hy
    rw [hfront, List.append_assoc, List.cons_append] at hentries
    exact (h.symm.commute_of_before hentries).symm
  · exact False.elim (h.signals (congrArg Prod.fst hy).symm)
  · obtain ⟨middle, rest, hback⟩ := List.append_of_mem hy
    rw [hback] at hentries
    exact h.commute_of_before hentries

end SignalEdit

namespace Editor

/-- Why a command is refused, if it is. -/
def refusal? (editor : Editor) (command : Command) : Option EditError :=
  match editor.apply command with
  | .error cause => some cause
  | .ok _ => none

theorem refusal?_edit (editor : Editor) (edit : Edit) :
    editor.refusal? (.edit edit) = edit.refusal? editor.project := by
  rw [refusal?, Edit.refusal?, apply, run]
  cases edit.apply editor.project <;> rfl

/-- Behind an edit the current project is the edited one, and an accepted edit is one more step. -/
theorem handle_edit (editor : Editor) (edit : Edit) :
    (editor.handle (.command (.edit edit))).project = edit.after editor.project ∧
      (editor.handle (.command (.edit edit))).history.undoDepth =
        editor.history.undoDepth + if edit.refusal? editor.project = none then 1 else 0 := by
  cases happly : edit.apply editor.project with
  | error cause =>
    have hanswer : editor.apply (.edit edit) = .error cause := by
      rw [apply, run, happly]
      rfl
    rw [handle_command_error hanswer, (Edit.refused happly).1, (Edit.refused happly).2]
    exact ⟨rfl, rfl⟩
  | ok edited =>
    have hanswer : editor.apply (.edit edit) = .ok (editor.commit edited) := by
      rw [apply, run, happly]
      rfl
    rw [handle_command_ok hanswer, (Edit.accepted happly).1, (Edit.accepted happly).2]
    exact ⟨rfl, rfl⟩

/-- For every editor, whatever rules its project breaks, and any two edits that delete, rename or
update different signals and give free and distinct names: each is refused for the same cause, or
accepted, whether the other one has been tried before it or not, and both orders end in the same
project with as many steps to undo. -/
theorem edits_of_different_signals {editor : Editor} {first second : SignalEdit} {a b : String}
    (h : SignalEdit.Apart editor.project first a second b) :
    let one := Command.edit (first.toEdit a)
    let other := Command.edit (second.toEdit b)
    let behindOne := editor.handle (.command one)
    let behindOther := editor.handle (.command other)
    behindOther.refusal? one = editor.refusal? one ∧
    behindOne.refusal? other = editor.refusal? other ∧
    (behindOne.handle (.command other)).project = (behindOther.handle (.command one)).project ∧
    (behindOne.handle (.command other)).history.undoDepth =
      (behindOther.handle (.command one)).history.undoDepth := by
  intro one other behindOne behindOther
  obtain ⟨hone, hother, hafter⟩ := h.commute
  obtain ⟨hprojectOne, hdepthOne⟩ := editor.handle_edit (first.toEdit a)
  obtain ⟨hprojectOther, hdepthOther⟩ := editor.handle_edit (second.toEdit b)
  obtain ⟨hprojectBoth, hdepthBoth⟩ := behindOne.handle_edit (second.toEdit b)
  obtain ⟨hprojectBack, hdepthBack⟩ := behindOther.handle_edit (first.toEdit a)
  rw [hprojectOne, hother] at hdepthBoth
  rw [hprojectOther, hone] at hdepthBack
  refine ⟨?_, ?_, ?_, ?_⟩
  · rw [refusal?_edit, refusal?_edit, hprojectOther, hone]
  · rw [refusal?_edit, refusal?_edit, hprojectOne, hother]
  · rw [hprojectBoth, hprojectBack, hprojectOne, hprojectOther, hafter]
  · rw [hdepthBoth, hdepthBack, hdepthOne, hdepthOther]
    omega

/-- An update that breaks a new rule is refused also behind the renaming of another signal, and the
renaming is accepted although the signal of the update has been breaking a rule. -/
theorem edits_of_different_signals_oneRefused :
    let pose := { Signal.new "pose" with dataType := .struct }
    let project := { Project.template .epoch with
      signals := .ofPairs [("pose", pose), ("speed", Signal.new "speed")] }
    let editor := start project
    let update := SignalEdit.update { pose with timeout := 0 }
    let rename := SignalEdit.rename " velocity "
    project.violations = [.structWithoutMembers "pose"] ∧
    SignalEdit.Apart editor.project update "pose" rename "speed" ∧
    (editor.handle (.command (.edit (rename.toEdit "speed")))).refusal?
      (.edit (update.toEdit "pose")) =
        some (.breaks (.outOfRange "pose" "Timeout" 0 10 1000 10)) ∧
    (editor.handle (.command (.edit (update.toEdit "pose")))).refusal?
      (.edit (rename.toEdit "speed")) = none := by
  intro pose project editor update rename
  have hapart : SignalEdit.Apart editor.project update "pose" rename "speed" := by
    refine ⟨by decide, by decide, by decide, ?_, ?_, ?_⟩
    · exact fun target h => nomatch h
    · rintro target ⟨rfl⟩
      decide
    · exact fun target h => nomatch h
  obtain ⟨hupdate, hrename, _, _⟩ := edits_of_different_signals hapart
  exact ⟨by decide, hapart, hupdate.trans (by decide), hrename.trans (by decide)⟩

end Editor

end SignalCatalog
