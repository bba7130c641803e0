import SignalCatalog.Proofs.Session.Deeds

/-!
# Unsaved changes

Whatever happens in a session, a project without unsaved changes is the one that was installed or saved
last, and nothing but installing a project and saving it takes the mark of unsaved changes away.
-/

namespace SignalCatalog.Desk

/-- A project that is not marked is the one that was stored last, before and behind a happening. -/
theorem stored_after {desk : Desk} {stored : Project} (happening : Happening)
    (h : desk.session.editor.isModified = false → desk.project = stored)
    (hclean : (desk.after happening).session.editor.isModified = false) :
    (desk.after happening).project = (desk.done happening).stored?.getD stored := by
  obtain ⟨world, hfollows⟩ := desk.follows_after happening
  cases hdone : (desk.done happening).stored? with
  | some project => exact (hfollows.stored project hdone).1
  | none =>
    rcases hfollows.unstored hdone with hmarked | ⟨hsame, hproject⟩
    · rw [hmarked] at hclean
      cases hclean
    · exact hproject.trans (h (hsame.symm.trans hclean))

/-- The mark goes away only when a project is installed or saved. -/
theorem stored_of_cleaned {desk : Desk} {happening : Happening}
    (hmarked : desk.session.editor.isModified = true)
    (hclean : (desk.after happening).session.editor.isModified = false) :
    ∃ project, (desk.done happening).stored? = some project := by
  obtain ⟨world, hfollows⟩ := desk.follows_after happening
  cases hdone : (desk.done happening).stored? with
  | some project => exact ⟨project, rfl⟩
  | none =>
    rcases hfollows.unstored hdone with hstill | ⟨hsame, _⟩
    · rw [hstill] at hclean
      cases hclean
    · rw [hsame, hmarked] at hclean
      cases hclean

/-- A session without unsaved changes has nothing to lose: its project is the one it started with, or
the one that was installed or saved last. The mark of unsaved changes goes away only by an operation
that installs a project or saves it. -/
theorem project_of_not_modified (world : World) (disk : Disk) (happenings : List Happening) :
    let last := (start world disk).afterAll happenings
    (last.session.editor.isModified = false →
      last.project = latest Deed.stored? (.template world.clock)
        ((start world disk).deeds happenings)) ∧
    ∀ happening, last.session.editor.isModified = true →
      (last.after happening).session.editor.isModified = false →
        ∃ project, (last.done happening).stored? = some project := by
  intro last
  refine ⟨?_, fun happening => stored_of_cleaned⟩
  exact afterAll_latest (P := fun desk stored =>
    desk.session.editor.isModified = false → desk.project = stored)
    (fun _ _ happening => stored_after happening) (fun _ => rfl) happenings

end SignalCatalog.Desk
