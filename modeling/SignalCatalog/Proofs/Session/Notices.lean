import Mathlib.Data.List.Chain
import SignalCatalog.Proofs.Session.Deeds

/-!
# What the host hears

The host hears of the mark of unsaved changes whenever an operation has changed it, and of nothing
else: once for each change, with the new mark. So what it has heard in a session starts with a mark
that is set, alternates, and ends with the mark as it is. `Desk.Tells` says it of one operation, and of
a run it follows by induction.
-/

namespace SignalCatalog

/-- The marks that the host was told of, in order. -/
def told (calls : List Call) : List Bool :=
  calls.filterMap fun call =>
    match call with
    | .modified flag => some flag
    | _ => none

theorem told_append (front back : List Call) : told (front ++ back) = told front ++ told back :=
  List.filterMap_append

theorem told_eq_nil {calls : List Call} (h : ∀ flag, Call.modified flag ∉ calls) :
    told calls = [] := by
  rw [told, List.filterMap_eq_nil_iff]
  intro call hcall
  cases call with
  | modified flag => exact False.elim (h flag hcall)
  | askOpen => rfl
  | askSave current => rfl
  | askScript kind => rfl

namespace Desk

/-- Whether the project has unsaved changes. -/
def marked (desk : Desk) : Bool := desk.session.editor.isModified

/-- Between two desks the host is told the mark once if it has changed, and nothing else. -/
def Tells (before after : Desk) : Prop :=
  told after.calls =
    told before.calls ++ if after.marked = before.marked then [] else [after.marked]

/-- The mark is as it was, and the host has been told nothing of it. -/
structure Quiet (before after : Desk) : Prop where
  marked : after.marked = before.marked
  told : told after.calls = told before.calls

variable {desk before after last : Desk} {world : World}

theorem Keeps.quiet (h : before.Keeps after) : before.Quiet after := by
  obtain ⟨asked, hasked, hquiet⟩ := h.calls
  exact ⟨h.modified, by rw [hasked, told_append, told_eq_nil hquiet, List.append_nil]⟩

namespace Tells

/-- What is heard of a change: the new mark, if the change flips it. -/
theorem of_change {flipped : Bool} (hflipped : flipped = (after.marked != before.marked))
    (hcalls : after.calls = before.calls ++ if flipped then [.modified after.marked] else []) :
    before.Tells after := by
  rw [Tells, hcalls, told_append]
  cases hb : before.marked <;> cases ha : after.marked <;> simp_all [told]

theorem of_quiet (h : before.Quiet after) : before.Tells after := by
  rw [Tells, h.told, if_pos h.marked, List.append_nil]

theorem behind_quiet (h : before.Quiet after) (hlast : after.Tells last) : before.Tells last := by
  rwa [Tells, h.told, h.marked] at hlast

theorem before_quiet (h : before.Tells after) (hlast : after.Quiet last) : before.Tells last := by
  rw [Tells, hlast.told, hlast.marked]
  exact h

end Tells

/-! ## Changes of the editor -/

/-- Another editor takes over, with the answer whether the mark has flipped. -/
theorem tells_change {changed : Bool × Editor}
    (h : changed.1 = (changed.2.isModified != desk.marked)) : desk.Tells (desk.change changed) := by
  have hmarked : (desk.change changed).marked = changed.2.isModified := by
    rw [marked, change_session]
  refine .of_change (h.trans ?_) ?_
  · rw [hmarked]
  · rw [change_calls, hmarked]

theorem flipped_markDirty (tracker : Tracker) :
    tracker.markDirty.1 = (tracker.markDirty.2.dirty != tracker.dirty) := by
  cases h : tracker.dirty <;> simp [Tracker.markDirty, h]

theorem flipped_reset (tracker : Tracker) :
    tracker.reset.1 = (tracker.reset.2.dirty != tracker.dirty) := by
  cases h : tracker.dirty <;> simp [Tracker.reset, h]

theorem tells_install (desk : Desk) (project : Project) (file baseline : Option String) :
    desk.Tells (desk.install project file baseline) := by
  have hmarked : (desk.install project file baseline).marked =
      (desk.session.editor.reset project).2.isModified := by
    rw [marked, install_session]
  have hflipped : (desk.session.editor.reset project).1 =
      ((desk.install project file baseline).marked != desk.marked) := by
    rw [hmarked]
    exact flipped_reset desk.session.editor.tracker
  refine .of_change hflipped ?_
  rw [hmarked, install, notify_calls]

theorem tells_savedTo (desk : Desk) (path : String) : desk.Tells (desk.savedTo path) := by
  have hfiled : desk.Quiet { desk with session := { desk.session with
      file := some path, baseline := some desk.project.metadata.version } } := ⟨rfl, rfl⟩
  exact .behind_quiet hfiled (tells_change (flipped_reset _))

/-- Every accepted command but copying marks the project. -/
theorem tells_apply {command : Command} (h : desk.apply command = .ok after) : desk.Tells after := by
  obtain ⟨flipped, editor, hrun, rfl⟩ := apply_ok h
  refine .behind_quiet (Keeps.report desk [editor.event command]).quiet (tells_change ?_)
  have hcommit : ∀ edit, desk.session.editor.run edit = .ok (flipped, editor) →
      flipped = (editor.isModified != desk.session.editor.isModified) := by
    intro edit hedit
    cases hproject : edit.apply desk.session.editor.project with
    | error cause => simp [Editor.run, hproject, Except.map] at hedit
    | ok project =>
      simp only [Editor.run, hproject, Except.map, Except.ok.injEq] at hedit
      obtain ⟨rfl, rfl⟩ := Prod.mk.inj hedit.symm
      exact flipped_markDirty desk.session.editor.tracker
  cases command with
  | edit edit => exact hcommit edit hrun
  | copySignal name =>
    cases hsignal : desk.session.editor.project.signals.get? name with
    | none => simp [Editor.apply, Editor.copy, hsignal, Except.map] at hrun
    | some signal =>
      simp only [Editor.apply, Editor.copy, hsignal, Except.map, Except.ok.injEq] at hrun
      obtain ⟨rfl, rfl⟩ := Prod.mk.inj hrun.symm
      exact (bne_self_eq_false _).symm
  | pasteSignal =>
    cases hclipboard : desk.session.editor.clipboard with
    | none => simp [Editor.apply, hclipboard] at hrun
    | some clipping =>
      simp only [Editor.apply, hclipboard] at hrun
      exact hcommit _ hrun

theorem tells_step {direction : Direction} (h : desk.step direction = some after) :
    desk.Tells after := by
  obtain ⟨⟨flipped, editor⟩, hstep, rfl⟩ := Option.map_eq_some_iff.mp h
  refine .behind_quiet (Keeps.report desk [editor.stepEvent direction]).quiet (tells_change ?_)
  obtain ⟨history, _, hmoved⟩ := Option.map_eq_some_iff.mp hstep
  obtain ⟨rfl, rfl⟩ := Prod.mk.inj hmoved
  exact flipped_markDirty desk.session.editor.tracker

/-! ## One operation after another -/

theorem tells_newProject (desk : Desk) (world : World) : desk.Tells (desk.newProject world) :=
  .before_quiet (tells_install desk _ _ _) (Keeps.report _ _).quiet

theorem tells_closeProject (desk : Desk) (world : World) : desk.Tells (desk.closeProject world) :=
  .behind_quiet (Keeps.report desk _).quiet (tells_install _ _ _ _)

theorem tells_openProject (desk : Desk) (world : World) (path : String) :
    desk.Tells (desk.openProject world path).2 := by
  unfold openProject
  split
  · exact .of_quiet (Keeps.report desk _).quiet
  · exact .behind_quiet (Keeps.report desk _).quiet (tells_install _ _ _ _)

theorem tells_openChosen (desk : Desk) (world : World) : desk.Tells (desk.openChosen world).2 := by
  have hasked : desk.Keeps (desk.call .askOpen) := Keeps.call desk (by simp)
  unfold openChosen
  dsimp only
  split
  · exact .of_quiet hasked.quiet
  · exact .behind_quiet hasked.quiet (tells_openProject _ world _)

theorem tells_saveProject (desk : Desk) (world : World) (path : String) :
    desk.Tells (desk.saveProject world path).2 := by
  have hvalid := keeps_ensureValid desk world
  unfold saveProject
  split
  · rename_i invalid hensure
    rw [hensure] at hvalid
    exact .of_quiet hvalid.quiet
  · rename_i valid hensure
    rw [hensure] at hvalid
    dsimp only
    split
    · exact .of_quiet (hvalid.trans (Keeps.failedSave valid _ _)).quiet
    · rename_i events disk _
      have hwritten : valid.Quiet
          ((valid.withEditor valid.session.editor.startSave).behind disk events) := ⟨rfl, rfl⟩
      exact .behind_quiet hvalid.quiet (.behind_quiet hwritten (tells_savedTo _ path))

theorem tells_saveChosen (desk : Desk) (world : World) (target : Option String) :
    desk.Tells (desk.saveChosen world target).2 := by
  cases target with
  | none => exact .of_quiet (Keeps.refl desk).quiet
  | some path =>
    simp only [saveChosen]
    exact tells_saveProject desk world path

theorem tells_saveAs (desk : Desk) (world : World) : desk.Tells (desk.saveAs world).2 := by
  have hasked : desk.Keeps (desk.call (.askSave desk.session.file)) := Keeps.call desk (by simp)
  exact .behind_quiet hasked.quiet (tells_saveChosen _ world _)

theorem tells_save (desk : Desk) (world : World) : desk.Tells (desk.save world).2 := by
  unfold save
  split
  · exact tells_saveChosen desk world _
  · exact tells_saveAs desk world

theorem tells_installImport (desk : Desk) (project : Project) :
    desk.Tells (desk.installImport project).2 := by
  unfold installImport
  split
  · exact .of_quiet (Keeps.refl desk).quiet
  · rename_i replaced happly
    exact .before_quiet (tells_apply happly) ⟨rfl, rfl⟩

theorem tells_importBook (desk : Desk) (world : World) (path : String) :
    desk.Tells (desk.importBook world path).2 := by
  unfold importBook
  split
  · exact .of_quiet (Keeps.report desk _).quiet
  · exact .behind_quiet (Keeps.report desk _).quiet (tells_installImport _ _)

/-- The step that keeps a script is heard like any other edit. -/
theorem KeepsScript.tells {kind : GeneratorKind} {path : String}
    (h : before.KeepsScript after kind path) : before.Tells after := by
  have hmarked : after.marked = true := h.modified
  rw [Tells, h.calls, told_append, hmarked]
  cases hb : before.session.editor.isModified <;> simp [told, marked, hb]

theorem tells_generate (desk : Desk) (world : World) (kind : GeneratorKind) (folder : String)
    (asked : Option String) : desk.Tells (desk.generate world kind folder asked).2 := by
  have hvalid := keeps_ensureValid desk world
  unfold generate
  split
  · rename_i invalid hensure
    rw [hensure] at hvalid
    exact .of_quiet hvalid.quiet
  · rename_i valid hensure
    rw [hensure] at hvalid
    have hrun : desk.Tells (valid.runGenerator world kind folder asked).2 := by
      rcases runGenerator_cases valid world kind folder asked with hkept | ⟨path, _, hkept⟩
      · exact .of_quiet (hvalid.trans hkept).quiet
      · exact .behind_quiet hvalid.quiet hkept.tells
    split
    · rename_i failed hfailed
      rw [hfailed] at hrun
      exact hrun
    · rename_i paths generated hgenerated
      rw [hgenerated] at hrun
      exact .before_quiet hrun (Keeps.report generated _).quiet

/-- Whatever an operation does and whether it succeeds, the host is told the mark if it has changed. -/
theorem tells_perform (desk : Desk) (world : World) (operation : Operation) :
    desk.Tells (desk.perform world operation).2 := by
  cases operation with
  | newProject => exact tells_newProject desk world
  | closeProject => exact tells_closeProject desk world
  | openProject path =>
    rw [perform, snd_as]
    exact tells_openProject desk world path
  | openChosen =>
    rw [perform, snd_as]
    exact tells_openChosen desk world
  | saveProject path =>
    rw [perform, snd_as]
    exact tells_saveProject desk world path
  | save =>
    rw [perform, snd_as]
    exact tells_save desk world
  | saveAs =>
    rw [perform, snd_as]
    exact tells_saveAs desk world
  | importBook path =>
    rw [perform, snd_as]
    exact tells_importBook desk world path
  | exportBook path =>
    rw [perform, snd_as]
    exact .of_quiet (keeps_exportBook desk world path).quiet
  | command command =>
    rw [perform]
    split
    · rename_i after happly
      exact tells_apply happly
    · exact .of_quiet (Keeps.refl desk).quiet
  | step direction =>
    rw [perform]
    split
    · rename_i after hstep
      exact tells_step hstep
    · exact .of_quiet (Keeps.refl desk).quiet
  | generate kind folder asked =>
    rw [perform, snd_as]
    exact tells_generate desk world kind folder asked

theorem tells_after (desk : Desk) (happening : Happening) : desk.Tells (desk.after happening) := by
  cases happening with
  | operation world operation => exact tells_perform desk world operation
  | validate world => exact .of_quiet (Keeps.report desk _).quiet
  | pin date => exact .of_quiet ⟨rfl, rfl⟩
  | disturb disk => exact .of_quiet ⟨rfl, rfl⟩

/-! ## Runs -/

/-- What was heard alternates from a mark that is set, and ends with the mark as it is. -/
structure Informed (desk : Desk) : Prop where
  alternates : (false :: told desk.calls).IsChain (· ≠ ·)
  latest : (told desk.calls).getLastD false = desk.marked

theorem Informed.next (h : before.Informed) (htells : before.Tells after) : after.Informed := by
  rw [Tells] at htells
  by_cases hsame : after.marked = before.marked
  · rw [if_pos hsame, List.append_nil] at htells
    exact ⟨htells ▸ h.alternates, by rw [htells, hsame, h.latest]⟩
  · rw [if_neg hsame] at htells
    refine ⟨?_, by simp [htells, List.getLastD_eq_getLast?]⟩
    rw [htells, ← List.cons_append, List.isChain_append]
    refine ⟨h.alternates, List.isChain_singleton _, ?_⟩
    intro old hold new hnew
    -- The last mark heard, or the first mark of all, is the one before the change.
    have holdMarked : old = before.marked := by
      rw [← h.latest, List.getLastD_eq_getLast?]
      rw [List.getLast?_cons] at hold
      exact (Option.some.inj hold).symm
    rw [List.head?_cons, Option.mem_some_iff] at hnew
    rw [holdMarked, ← hnew]
    exact Ne.symm hsame

theorem informed_afterAll (h : desk.Informed) (happenings : List Happening) :
    (desk.afterAll happenings).Informed := by
  induction happenings generalizing desk with
  | nil => exact h
  | cons happening rest ih => exact ih (h.next (tells_after desk happening))

/-- Whatever happens in a session, with whatever outcome and host: what the host has heard of the mark
of unsaved changes starts with a mark that is set, alternates strictly and ends with the mark as it is,
the first mark of all being unset. And each further happening tells the host the new mark once if it
changes the mark, and else nothing. -/
theorem told_changes (world : World) (disk : Disk) (happenings : List Happening) :
    let desk := (start world disk).afterAll happenings
    let heard := told desk.calls
    (∀ first ∈ heard.head?, first = true) ∧ heard.IsChain (· ≠ ·) ∧
    heard.getLastD false = desk.session.editor.isModified ∧
    ∀ happening,
      let after := desk.after happening
      told after.calls = heard ++
        if after.session.editor.isModified = desk.session.editor.isModified then []
        else [after.session.editor.isModified] := by
  intro desk heard
  have hstart : (start world disk).Informed := ⟨List.isChain_singleton false, rfl⟩
  have hinformed : desk.Informed := informed_afterAll hstart happenings
  obtain ⟨hfirst, halternates⟩ := List.isChain_cons.mp hinformed.alternates
  refine ⟨?_, halternates, hinformed.latest, tells_after desk⟩
  intro first hmem
  exact (Bool.eq_not_of_ne (hfirst first hmem).symm)

end Desk

end SignalCatalog
