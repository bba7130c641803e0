import Mathlib.Data.List.Find
import SignalCatalog.Proofs.Editing.Edit
import SignalCatalog.Proofs.Editing.Violations
import SignalCatalog.Proofs.OrderedMap
import SignalCatalog.Proofs.Project.Faults

/-!
# Splices of the catalog

Adding, deleting, updating and renaming a signal put some entries of the catalog in the place of
others and leave the rest of the project. A violation carries the name of its signal, so whether such
an edit breaks a new rule depends on the two groups of entries and on the cores alone, whatever other
rules the project breaks.
-/

namespace SignalCatalog

/-- The signal that a violation is about, if it is about one. -/
def Violation.signal? : Violation → Option String
  | unknownSource signal _ => some signal
  | sourceIsDestination signal _ => some signal
  | membersWithoutStruct signal => some signal
  | structWithoutMembers signal => some signal
  | structTooDeep signal .. => some signal
  | outOfRange signal .. => some signal
  | _ => none

namespace Project

variable {project edited : Project} {name : String} {signal : Signal} {violation : Violation}
  {front old new back : List (String × Signal)}

theorem signal?_of_structural (h : violation ∈ project.structuralViolations) :
    violation.signal? = none := by
  have hfault := mem_structuralViolations_iff.mp h
  cases hfault <;> rfl

theorem signal?_of_signal (h : violation ∈ project.signalViolations name signal) :
    violation.signal? = some name := by
  have hfault := mem_signalViolations_iff.mp h
  cases hfault <;> rfl

/-- The rules that some entries of the catalog break. -/
def broken (project : Project) (entries : List (String × Signal)) : List Violation :=
  entries.flatMap fun entry => project.signalViolations entry.1 entry.2

theorem broken_append (project : Project) (front back : List (String × Signal)) :
    project.broken (front ++ back) = project.broken front ++ project.broken back :=
  List.flatMap_append

@[simp] theorem broken_singleton (project : Project) (name : String) (signal : Signal) :
    project.broken [(name, signal)] = project.signalViolations name signal :=
  List.flatMap_singleton _ _

theorem violations_eq (project : Project) :
    project.violations = project.structuralViolations ++ project.broken project.signals.entries :=
  rfl

theorem signal?_of_broken {entries : List (String × Signal)}
    (h : violation ∈ project.broken entries) :
    ∃ name ∈ Entries.keys entries, violation.signal? = some name := by
  obtain ⟨entry, hentry, hbroken⟩ := List.mem_flatMap.mp h
  exact ⟨entry.1, Entries.mem_keys_of_mem hentry, signal?_of_signal hbroken⟩

/-- Of the project the rules of a signal ask only for the cores. -/
theorem signalViolations_congr (h : edited.cores = project.cores) (name : String)
    (signal : Signal) : edited.signalViolations name signal = project.signalViolations name signal := by
  have hcore : ∀ id, edited.hasCore id = project.hasCore id := by
    intro id
    rw [hasCore, hasCore, core?, core?, h]
  simp only [signalViolations, sourceViolations, hcore]

theorem broken_congr (h : edited.cores = project.cores) (entries : List (String × Signal)) :
    edited.broken entries = project.broken entries := by
  have hsignal : (fun entry : String × Signal => edited.signalViolations entry.1 entry.2) =
      fun entry => project.signalViolations entry.1 entry.2 := by
    funext entry
    exact signalViolations_congr h entry.1 entry.2
  rw [broken, broken, hsignal]

/-- The first rule that some entries break newly, if others were there before them. -/
def firstNew? (project : Project) (old new : List (String × Signal)) : Option Violation :=
  (project.broken new).find? fun violation => !(project.broken old).contains violation

theorem firstNew?_congr (h : edited.cores = project.cores) (old new : List (String × Signal)) :
    edited.firstNew? old new = project.firstNew? old new := by
  rw [firstNew?, firstNew?, broken_congr h, broken_congr h]

/-- Between two groups of entries that stay, new entries stand in the place of old ones; nothing else
of the project has changed. -/
structure Spliced (edited project : Project) (front old new back : List (String × Signal)) :
    Prop where
  rest : edited = { project with signals := edited.signals }
  before : project.signals.entries = front ++ (old ++ back)
  behind : edited.signals.entries = front ++ (new ++ back)

namespace Spliced

theorem cores (h : edited.Spliced project front old new back) : edited.cores = project.cores := by
  rw [h.rest]

theorem violations (h : edited.Spliced project front old new back) :
    edited.violations = project.structuralViolations ++
      (project.broken front ++ (project.broken new ++ project.broken back)) := by
  have hlists : edited.structuralViolations = project.structuralViolations := by rw [h.rest]; rfl
  rw [violations_eq, hlists, broken_congr h.cores, h.behind, broken_append, broken_append]

/-- A violation of the new entries was one of the project exactly if it was one of the old entries. -/
theorem mem_violations_iff (h : edited.Spliced project front old new back)
    (hnew : violation ∈ project.broken new) :
    violation ∈ project.violations ↔ violation ∈ project.broken old := by
  obtain ⟨name, hname, habout⟩ := signal?_of_broken hnew
  have hnodup : (Entries.keys edited.signals.entries).Nodup := edited.signals.nodup
  rw [h.behind, Entries.keys_append, Entries.keys_append] at hnodup
  have hfront : name ∉ Entries.keys front := fun hmem =>
    List.disjoint_of_nodup_append hnodup hmem (List.mem_append_left _ hname)
  have hback : name ∉ Entries.keys back :=
    List.disjoint_of_nodup_append hnodup.of_append_right hname
  have helsewhere : ∀ entries, name ∉ Entries.keys entries →
      violation ∉ project.broken entries := by
    intro entries hnot hmem
    obtain ⟨other, hother, hsame⟩ := signal?_of_broken hmem
    rw [habout, Option.some.injEq] at hsame
    exact hnot (hsame ▸ hother)
  have hlists : violation ∉ project.structuralViolations := by
    intro hmem
    rw [signal?_of_structural hmem] at habout
    cases habout
  rw [violations_eq, h.before, broken_append, broken_append, List.mem_append, List.mem_append,
    List.mem_append]
  simp only [hlists, helsewhere front hfront, helsewhere back hback, false_or, or_false]

/-- The first rule that a splice breaks newly is the first one among the new entries. -/
theorem find?_violations (h : edited.Spliced project front old new back) :
    (edited.violations.find? fun violation => !project.violations.contains violation) =
      project.firstNew? old new := by
  have hknown : ∀ list : List Violation, list ⊆ project.violations →
      (list.find? fun violation => !project.violations.contains violation) = none := by
    intro list hlist
    rw [List.find?_eq_none]
    intro violation hviolation
    simpa using hlist hviolation
  have hbefore : project.violations = project.structuralViolations ++
      (project.broken front ++ (project.broken old ++ project.broken back)) := by
    rw [violations_eq, h.before, broken_append, broken_append]
  have hlists := hknown project.structuralViolations (List.subset_append_left _ _)
  have hfront := hknown (project.broken front) (by simp [hbefore])
  have hback := hknown (project.broken back) (by intro violation h; simp [hbefore, h])
  have hnew : ((project.broken new).find? fun violation =>
      !project.violations.contains violation) = project.firstNew? old new := by
    apply List.find?_congr
    intro violation hviolation
    have hiff := h.mem_violations_iff hviolation
    simp [hiff]
  rw [h.violations, List.find?_append, List.find?_append, List.find?_append, hlists, hfront, hback,
    hnew, Option.none_or, Option.none_or, Option.or_none]

end Spliced

end Project

/-- An edited project, unless it breaks a new rule. -/
def Edit.verdict (edited : Project) : Option Violation → Except EditError Project
  | some violation => .error (.breaks violation)
  | none => .ok edited

/-- What becomes of an edit that splices the catalog. -/
theorem Edit.apply_of_spliced {edit : Edit} {project edited : Project}
    {front old new back : List (String × Signal)} (hkind : edit.replaces = false)
    (hrun : edit.run project = .ok edited) (h : edited.Spliced project front old new back) :
    edit.apply project = verdict edited (project.firstNew? old new) := by
  have hfirst := h.find?_violations
  cases hnew : project.firstNew? old new with
  | none =>
    rw [hnew] at hfirst
    simp only [apply, hrun, violations_of_not_replaces hkind, bind, Except.bind, hfirst, verdict]
  | some violation =>
    rw [hnew] at hfirst
    simp only [apply, hrun, violations_of_not_replaces hkind, bind, Except.bind, hfirst, verdict]

end SignalCatalog
