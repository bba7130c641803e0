import SignalCatalog.Proofs.Editing.Splicing

/-!
# Renaming a signal

A violation of a signal carries the name of the signal. So a rule that a signal broke under its old
name counts as newly broken under the new one, and a signal that breaks a rule cannot be renamed, also
if it broke the rule before. Faults of the lists and of other signals stay as they were and refuse
nothing. An accepted renaming leaves the signal where it stands.
-/

namespace SignalCatalog

namespace Project

variable {project : Project} {name newName : String} {signal : Signal}

/-- The rules ask neither for the name of a signal nor for its port. -/
theorem signalViolations_renamed_eq_nil_iff : project.signalViolations newName
      (renamed name newName signal) = [] ↔ project.signalViolations name signal = [] := by
  have hsame : project.SoundSignal (renamed name newName signal) ↔ project.SoundSignal signal := by
    unfold renamed
    split
    · exact ⟨fun h => ⟨h.source, ⟨h.shape.members, h.shape.depth⟩, h.numbers⟩,
        fun h => ⟨h.source, ⟨h.shape.members, h.shape.depth⟩, h.numbers⟩⟩
    · exact Iff.rfl
  rw [signalViolations_eq_nil_iff, signalViolations_eq_nil_iff, hsame]

/-- The project with a signal under a new name. -/
def withRenamed (project : Project) (name newName : String) : Project :=
  { project with signals := project.signals.rekey name newName (renamed name newName) }

/-- A renamed signal stands where it stood. -/
theorem entries_withRenamed (hnew : newName ∉ project.signals.keys)
    (hget : project.signals.get? name = some signal) :
    ∃ front back, project.signals.entries = front ++ (name, signal) :: back ∧
      (project.withRenamed name newName).signals.entries =
        front ++ (newName, renamed name newName signal) :: back := by
  obtain ⟨front, back, hentries⟩ := OrderedMap.exists_split hget
  exact ⟨front, back, hentries, OrderedMap.entries_rekey hentries hnew _⟩

/-- The first rule that is newly broken under another name is the first that the signal breaks at
all. -/
theorem firstNew?_renamed (hne : newName ≠ name) :
    project.firstNew? [(name, signal)] [(newName, renamed name newName signal)] =
      (project.signalViolations newName (renamed name newName signal)).head? := by
  rw [firstNew?, broken_singleton, broken_singleton]
  cases hall : project.signalViolations newName (renamed name newName signal) with
  | nil => rfl
  | cons first rest =>
    have habout : first.signal? = some newName := signal?_of_signal (hall ▸ List.mem_cons_self)
    have hfresh : first ∉ project.signalViolations name signal := by
      intro hold
      rw [signal?_of_signal hold, Option.some.injEq] at habout
      exact hne habout.symm
    rw [List.find?_cons_of_pos (by simpa using hfresh), List.head?_cons]

end Project

/-- What becomes of a renaming whose names are in order. -/
theorem Edit.apply_renameSignal {project : Project} {name newName : String} {signal : Signal}
    (hname : Text.trimmed newName ≠ "") (hnew : Text.trimmed newName ∉ project.signals.keys)
    (hget : project.signals.get? name = some signal) :
    (Edit.renameSignal name newName).apply project =
      match (project.signalViolations (Text.trimmed newName)
        (Project.renamed name (Text.trimmed newName) signal)).head? with
      | some violation => .error (.breaks violation)
      | none => .ok (project.withRenamed name (Text.trimmed newName)) := by
  have hold : project.signals.contains name = true := by simp [OrderedMap.contains, hget]
  have hfree := OrderedMap.contains_eq_false_iff.mpr hnew
  have hrun : (Edit.renameSignal name newName).run project =
      .ok (project.withRenamed name (Text.trimmed newName)) := by
    simp [run, Project.renameSignal, Project.newName, hname, hfree, hold, bind, Except.bind,
      Project.withRenamed]
  have hne : Text.trimmed newName ≠ name := by
    rintro rfl
    exact hnew (Entries.mem_keys_of_mem (Entries.mem_of_get? hget))
  obtain ⟨front, back, hentries, hrenamed⟩ := Project.entries_withRenamed hnew hget
  have hspliced : (project.withRenamed name (Text.trimmed newName)).Spliced project front
      [(name, signal)] [(Text.trimmed newName, Project.renamed name (Text.trimmed newName) signal)]
      back := ⟨rfl, hentries, hrenamed⟩
  rw [apply_of_spliced rfl hrun hspliced, Project.firstNew?_renamed hne]
  rfl

namespace Editor

theorem exists_apply_edit_iff {editor : Editor} {edit : Edit} :
    (∃ outcome, editor.apply (.edit edit) = .ok outcome) ↔
      ∃ project, edit.apply editor.project = .ok project := by
  cases h : edit.apply editor.project <;> simp [apply, run, h, Except.map]

/-- For every editor, whatever rules its project breaks: a renaming is accepted exactly if the new name
is trimmed to a text that is no name of a signal, the old one is the name of a signal, and this signal
breaks no rule. Then the signal has the new name in its place, its port has it if the port had the old
name, and all other signals and the rest of the project are as before. -/
theorem renameSignal_accepted (editor : Editor) (name newName : String) :
    let target := Text.trimmed newName
    let answer := editor.apply (.edit (.renameSignal name newName))
    ((∃ outcome, answer = .ok outcome) ↔
      target ≠ "" ∧ target ∉ editor.project.signals.keys ∧
        ∃ signal, editor.project.signals.get? name = some signal ∧
          editor.project.signalViolations name signal = []) ∧
    ∀ flipped edited, answer = .ok (flipped, edited) →
      ∃ front signal back, editor.project.signals.entries = front ++ (name, signal) :: back ∧
        edited.project.signals.entries = front ++ (target, { signal with
          portName := if signal.portName = name then target else signal.portName }) :: back ∧
        edited.project = { editor.project with signals := edited.project.signals } := by
  intro target answer
  have hnames : ∀ project, (Edit.renameSignal name newName).apply editor.project = .ok project →
      target ≠ "" ∧ target ∉ editor.project.signals.keys ∧
        ∃ signal, editor.project.signals.get? name = some signal := by
    intro project h
    obtain ⟨hname, hfree, hold, _⟩ := Project.renameSignal_ok (Edit.apply_ok h).1
    exact ⟨hname, OrderedMap.contains_eq_false_iff.mp hfree, Option.isSome_iff_exists.mp hold⟩
  constructor
  · rw [exists_apply_edit_iff]
    constructor
    · rintro ⟨project, h⟩
      obtain ⟨hname, hnew, signal, hget⟩ := hnames project h
      refine ⟨hname, hnew, signal, hget, ?_⟩
      rw [Edit.apply_renameSignal hname hnew hget] at h
      rw [← Project.signalViolations_renamed_eq_nil_iff, ← List.head?_eq_none_iff]
      split at h
      · cases h
      · assumption
    · rintro ⟨hname, hnew, signal, hget, hnone⟩
      rw [Edit.apply_renameSignal hname hnew hget,
        Project.signalViolations_renamed_eq_nil_iff.mpr hnone]
      exact ⟨_, rfl⟩
  · intro flipped edited h
    obtain ⟨project, happly, rfl⟩ := run_cases h
    obtain ⟨hname, hnew, signal, hget⟩ := hnames project happly
    obtain ⟨_, _, _, hedited⟩ := Project.renameSignal_ok (Edit.apply_ok happly).1
    obtain rfl : project = editor.project.withRenamed name target := hedited
    obtain ⟨front, back, hentries, hrenamed⟩ := Project.entries_withRenamed hnew hget
    refine ⟨front, signal, back, hentries, hrenamed.trans ?_, rfl⟩
    unfold Project.renamed
    split <;> rfl

/-- An imported struct has no members, and for this old fault it cannot be renamed, though both names
are in order. -/
theorem renameSignal_refused_struct :
    let project := { Project.template .epoch with
      signals := .ofPairs [("pose", { Signal.new "pose" with dataType := .struct })] }
    "pose" ∈ project.signals.keys ∧ Text.trimmed "frame" ≠ "" ∧
    Text.trimmed "frame" ∉ project.signals.keys ∧
    project.violations = [.structWithoutMembers "pose"] ∧
    (start project).apply (.edit (.renameSignal "pose" "frame")) =
      .error (.breaks (.structWithoutMembers "frame")) := by
  refine ⟨by decide, by decide, by decide, by decide, rfl⟩

end Editor

end SignalCatalog
