import SignalCatalog.Proofs.Session.Deeds
import SignalCatalog.Proofs.Validation.Validity

/-!
# Versions of a session

Only valid projects are saved, exported and turned into code, and their versions are not below the one
to compare with, which is that of the project opened, saved or imported last. So the versions that a
session saves never go back until it turns to another project.
-/

namespace SignalCatalog

open Version

variable {world : World} {deed : Deed} {before after : Session} {project : Project}

namespace Session.Follows

/-- What is written has a version that is a decimal and not below the one to compare with. -/
theorem version_of_written (h : before.Follows world deed after)
    (hwritten : deed.written? = some project) :
    ∃ number, number? project.metadata.version = some number ∧ 0 ≤ number ∧
      ∀ text stored, before.baseline = some text → number? text = some stored →
        stored ≤ number := by
  have hvalid := (project.errors_eq_nil_iff _ _).mp (h.written project hwritten)
  obtain ⟨number, hnumber, hleast⟩ := hvalid.version
  exact ⟨number, hnumber, number?_nonneg hnumber, hleast⟩

end Session.Follows

/-- The session compares versions with one that is a decimal and not below a given one. -/
def Session.ComparesWith (session : Session) (least : ℚ) : Prop :=
  ∃ text number, session.baseline = some text ∧ number? text = some number ∧ least ≤ number

theorem Session.Follows.comparesWith {least : ℚ} (h : before.Follows world deed after)
    (hreplaces : deed.replaces = false) (hleast : before.ComparesWith least) :
    after.ComparesWith least := by
  obtain ⟨text, number, htext, hnumber, hle⟩ := hleast
  cases deed with
  | started project => cases hreplaces
  | opened project => cases hreplaces
  | imported project => cases hreplaces
  | saved project =>
    obtain ⟨saved, hsaved, _, hstored⟩ := h.version_of_written rfl
    exact ⟨_, saved, h.baseline, hsaved, hle.trans (hstored text number htext hnumber)⟩
  | exported project => exact ⟨text, number, h.baseline.trans htext, hnumber, hle⟩
  | generated project => exact ⟨text, number, h.baseline.trans htext, hnumber, hle⟩
  | other => exact ⟨text, number, h.baseline.trans htext, hnumber, hle⟩

namespace Desk

theorem comparesWith_afterAll {desk : Desk} {least : ℚ} {happenings : List Happening}
    (h : desk.session.ComparesWith least)
    (hreplaces : ∀ deed ∈ desk.deeds happenings, deed.replaces = false) :
    (desk.afterAll happenings).session.ComparesWith least := by
  induction happenings generalizing desk with
  | nil => exact h
  | cons happening rest ih =>
    obtain ⟨hfirst, hrest⟩ := List.forall_mem_cons.mp hreplaces
    obtain ⟨world, hfollows⟩ := desk.follows_after happening
    exact ih (hfollows.comparesWith hfirst h) hrest

/-- Between two saves of one project its version does not go back. -/
theorem versions_of_saved {desk : Desk} {operation later : Operation} {next : World}
    {happenings : List Happening} {saved again : Project}
    (hsaved : desk.deed world operation = .saved saved)
    (hreplaces : ∀ deed ∈ (desk.perform world operation).2.deeds happenings, deed.replaces = false)
    (hagain : ((desk.perform world operation).2.afterAll happenings).deed next later =
      .saved again) :
    ∃ low high, number? saved.metadata.version = some low ∧
      number? again.metadata.version = some high ∧ low ≤ high := by
  have hfirst := desk.follows_perform world operation
  have hsecond := ((desk.perform world operation).2.afterAll happenings).follows_perform next later
  rw [hsaved] at hfirst
  rw [hagain] at hsecond
  obtain ⟨low, hlow, _⟩ := hfirst.version_of_written rfl
  obtain ⟨high, hhigh, _, hleast⟩ := hsecond.version_of_written rfl
  obtain ⟨text, number, htext, hnumber, hle⟩ :=
    comparesWith_afterAll ⟨_, low, hfirst.baseline, hlow, le_rfl⟩ hreplaces
  exact ⟨low, high, hlow, hhigh, hle.trans (hleast text number htext hnumber)⟩

/-- Whatever happens in a session, it saves, exports and turns into code only what it finds no error
in. The version of this is a decimal and not below the one of the project that was opened, saved or
imported last, if one was since the last new project and if that version is a decimal. So the versions
saved do not go back from one save to another, unless another project is started, opened or imported in
between. -/
theorem versions_of_written (world : World) (disk : Disk) (happenings : List Happening) :
    let last := (start world disk).afterAll happenings
    let baseline := latest Deed.baseline? none ((start world disk).deeds happenings)
    (∀ now operation project, (last.deed now operation).written? = some project →
      Issue.errors (project.issues (last.session.today now) last.session.baseline) = [] ∧
      ∃ number, number? project.metadata.version = some number ∧ 0 ≤ number ∧
        ∀ text stored, baseline = some text → number? text = some stored → stored ≤ number) ∧
    ∀ now operation saved between next later again,
      last.deed now operation = .saved saved →
      (∀ deed ∈ (last.perform now operation).2.deeds between, deed.replaces = false) →
      ((last.perform now operation).2.afterAll between).deed next later = .saved again →
      ∃ low high, number? saved.metadata.version = some low ∧
        number? again.metadata.version = some high ∧ low ≤ high := by
  intro last baseline
  have hbaseline : last.session.baseline = baseline := by
    refine afterAll_latest (P := fun desk baseline => desk.session.baseline = baseline) ?_ rfl
      happenings
    intro desk value happening hvalue
    obtain ⟨_, hfollows⟩ := desk.follows_after happening
    rw [← hvalue]
    exact hfollows.baseline
  constructor
  · intro now operation project hwritten
    have hfollows := last.follows_perform now operation
    refine ⟨hfollows.written project hwritten, ?_⟩
    rw [← hbaseline]
    exact hfollows.version_of_written hwritten
  · intro now operation saved between next later again hsaved hreplaces hagain
    exact versions_of_saved hsaved hreplaces hagain

/-- Behind version 1.5 a session does not save 1.10, but 1.50. -/
example :
    let world : World := ⟨.epoch, .silent, fun _ _ disk => (.ended none "", disk)⟩
    let edit (version : String) : Happening := .operation world <| .command <| .edit <|
      .updateMetadata { Metadata.new .epoch with editor := "A", version }
    let save : Happening := .operation world (.saveProject "catalog.json")
    ((start world ⟨[], [], [], [], none⟩).deeds
        [edit "1.5", save, edit "1.10", save, edit "1.50", save]).map
      (fun deed => deed.written?.map fun project => project.metadata.version) =
    [none, some "1.5", none, none, none, some "1.50"] := by
  decide +kernel

end Desk

end SignalCatalog
