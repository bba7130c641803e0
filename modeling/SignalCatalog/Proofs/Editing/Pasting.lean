import Mathlib.Data.List.Perm.Subperm
import SignalCatalog.Proofs.Editing.Splicing
import SignalCatalog.Proofs.Text.Numerals

/-!
# Pasting a signal

A pasted signal gets the first of the names of its copies that no signal has, and among one more name
than there are signals one is free. Such a name is trimmed if the copied one was, so that a paste is
never refused for its name but only for a rule that the signal breaks by itself. An accepted paste
appends the signal and leaves the clipboard, so that every paste of a row appends another name.
-/

namespace SignalCatalog

namespace Project

variable {project : Project} {base name : String} {signal : Signal}

/-! ## Names of copies -/

/-- What the name of a copy has behind the name of the copied signal. -/
def copySuffix : Nat → String
  | 0 => ""
  | 1 => "_copy"
  | n + 2 => "_copy" ++ Text.number (n + 1)

theorem copyName_eq (base : String) (n : Nat) : copyName base n = base ++ copySuffix n := by
  match n with
  | 0 => rw [copyName, copySuffix, String.append_empty]
  | 1 => rfl
  | n + 2 => rw [copyName, copySuffix, String.append_assoc]

theorem copySuffix_injective : Function.Injective copySuffix := by
  have hempty : ∀ n, copySuffix (n + 1) ≠ "" := by
    intro n
    cases n <;> simp [copySuffix]
  have hplain : ∀ n, copySuffix (n + 2) ≠ copySuffix 1 := by
    intro n h
    have hnumber : Text.number (n + 1) = "" := by
      simpa [copySuffix] using h
    exact Text.number_ne_empty (n + 1) hnumber
  intro n m h
  match n, m with
  | 0, 0 => rfl
  | 0, m + 1 => exact False.elim (hempty m h.symm)
  | n + 1, 0 => exact False.elim (hempty n h)
  | 1, 1 => rfl
  | 1, m + 2 => exact False.elim (hplain m h.symm)
  | n + 2, 1 => exact False.elim (hplain n h)
  | n + 2, m + 2 =>
    have hdigits : Text.digits (n + 1) = Text.digits (m + 1) := by
      rw [← Text.toList_number, ← Text.toList_number]
      exact congrArg String.toList (String.append_right_inj "_copy" |>.mp h)
    have hvalue : n + 1 = m + 1 := by
      rw [← Text.valueOf_digits (n + 1), hdigits, Text.valueOf_digits]
    omega

theorem copyName_injective (base : String) : Function.Injective (copyName base) := by
  intro n m h
  apply copySuffix_injective
  rw [copyName_eq, copyName_eq] at h
  exact (String.append_right_inj base).mp h

/-- A copy of a trimmed name is trimmed. -/
theorem filled_copyName (h : Text.Filled base) (n : Nat) : Text.Filled (copyName base n) := by
  match n with
  | 0 => exact h
  | 1 =>
    have hcopy := Text.filled_append h (show Text.Filled "_copy" by decide) ""
    rwa [String.append_empty] at hcopy
  | n + 2 =>
    have hnumber : Text.Filled (Text.number (n + 1)) :=
      ⟨Text.number_ne_empty _, Text.trimmed_digits Text.isDigit_of_mem_number⟩
    exact Text.filled_append h hnumber "_copy"

/-- More names than there are signals are not all in use. -/
theorem exists_copyName_notMem (project : Project) (base : String) :
    ∃ n ≤ project.signals.size, copyName base n ∉ project.signals.keys := by
  by_contra hnone
  have hall : ∀ n ≤ project.signals.size, copyName base n ∈ project.signals.keys := by
    intro n hn
    by_contra hfree
    exact hnone ⟨n, hn, hfree⟩
  have hnodup : ((List.range (project.signals.size + 1)).map (copyName base)).Nodup :=
    List.nodup_range.map (copyName_injective base)
  have hused : (List.range (project.signals.size + 1)).map (copyName base) ⊆
      project.signals.keys := by
    intro name hname
    obtain ⟨n, hn, rfl⟩ := List.mem_map.mp hname
    exact hall n (Nat.le_of_lt_succ (List.mem_range.mp hn))
  have hlength := (List.subperm_of_subset hnodup hused).length_le
  have hsize : project.signals.keys.length = project.signals.size := List.length_map _
  rw [List.length_map, List.length_range, hsize] at hlength
  omega

/-- The name of a copy is the first one that is free, and the search finds it. -/
theorem freeCopyName_first (project : Project) (base : String) :
    ∃ n ≤ project.signals.size, project.freeCopyName base = copyName base n ∧
      copyName base n ∉ project.signals.keys ∧
      ∀ m < n, copyName base m ∈ project.signals.keys := by
  have hfree : ∀ n, (!project.signals.contains (copyName base n)) = true ↔
      copyName base n ∉ project.signals.keys := by
    intro n
    rw [Bool.not_eq_true', OrderedMap.contains_eq_false_iff]
  obtain ⟨k, hk, hfreeK⟩ := project.exists_copyName_notMem base
  cases hfind : (List.range (project.signals.size + 1)).find? fun n =>
      !project.signals.contains (copyName base n) with
  | none =>
    have hused := List.find?_eq_none.mp hfind k (List.mem_range.mpr (by omega))
    exact False.elim (hused ((hfree k).mpr hfreeK))
  | some n =>
    obtain ⟨hn, hbound, hbefore⟩ := List.find?_range_eq_some.mp hfind
    refine ⟨n, Nat.le_of_lt_succ (List.mem_range.mp hbound), ?_, (hfree n).mp hn, ?_⟩
    · rw [freeCopyName, List.find?_map]
      simp only [Function.comp_def, hfind, Option.map_some, Option.getD_some]
    · intro m hm
      by_contra hnot
      have hused := hbefore m hm
      rw [(hfree m).mpr hnot] at hused
      cases hused

/-! ## Adding under a free name -/

theorem firstNew?_nil (project : Project) (new : List (String × Signal)) :
    project.firstNew? [] new = (project.broken new).head? := by
  rw [firstNew?, broken, List.flatMap_nil]
  cases project.broken new <;> rfl

/-- The project with a signal at the end of the catalog. -/
def withAdded (project : Project) (name : String) (signal : Signal) : Project :=
  { project with signals := project.signals.insert name signal }

theorem entries_withAdded (hnew : name ∉ project.signals.keys) :
    (project.withAdded name signal).signals.entries =
      project.signals.entries ++ [(name, signal)] :=
  Entries.insert_of_notMem hnew

end Project

/-- What becomes of a signal that is added under a trimmed and free name. -/
theorem Edit.apply_addSignal {project : Project} {name : String} {signal : Signal}
    (hname : Text.Filled name) (hnew : name ∉ project.signals.keys) :
    (Edit.addSignal name signal).apply project =
      verdict (project.withAdded name signal) (project.signalViolations name signal).head? := by
  have hrun : (Edit.addSignal name signal).run project = .ok (project.withAdded name signal) := by
    simp [run, Project.addSignal, Project.newName, hname.trimmed_eq, hname.1,
      OrderedMap.contains_eq_false_iff.mpr hnew, bind, Except.bind, Project.withAdded]
  have hspliced : (project.withAdded name signal).Spliced project project.signals.entries []
      [(name, signal)] [] := by
    refine ⟨rfl, (List.append_nil _).symm, ?_⟩
    rw [Project.entries_withAdded hnew, List.append_nil]
  rw [apply_of_spliced rfl hrun hspliced, Project.firstNew?_nil, Project.broken_singleton]

namespace Editor

variable {editor edited : Editor} {clipping : Clipping}

/-- What becomes of a paste: its name is the first free one. -/
theorem apply_pasteSignal (hclip : editor.clipboard = some clipping)
    (hname : Text.Filled clipping.name) :
    ∃ n ≤ editor.project.signals.size,
      Project.copyName clipping.name n ∉ editor.project.signals.keys ∧
      (∀ m < n, Project.copyName clipping.name m ∈ editor.project.signals.keys) ∧
      editor.apply .pasteSignal =
        (Edit.verdict (editor.project.withAdded (Project.copyName clipping.name n) clipping.signal)
          (editor.project.signalViolations (Project.copyName clipping.name n)
            clipping.signal).head?).map editor.commit := by
  obtain ⟨n, hn, hfree, hnew, hused⟩ := editor.project.freeCopyName_first clipping.name
  refine ⟨n, hn, hnew, hused, ?_⟩
  simp only [apply, hclip, hfree, run]
  rw [Edit.apply_addSignal (Project.filled_copyName hname n) hnew]

/-- A number of pastes in a row, all of them accepted. -/
inductive Pasted : Editor → Nat → Editor → Prop
  | none (editor : Editor) : Pasted editor 0 editor
  | next {editor between edited : Editor} {times : Nat} {flipped : Bool}
      (h : editor.apply .pasteSignal = .ok (flipped, between))
      (rest : Pasted between times edited) : Pasted editor (times + 1) edited

/-- An accepted paste appends the signal under a free name. -/
theorem entries_paste (hclip : editor.clipboard = some clipping)
    (hname : Text.Filled clipping.name) {flipped : Bool}
    (h : editor.apply .pasteSignal = .ok (flipped, edited)) :
    ∃ name ∉ editor.project.signals.keys,
      edited.project = editor.project.withAdded name clipping.signal ∧
      edited.project.signals.entries =
        editor.project.signals.entries ++ [(name, clipping.signal)] ∧
      edited.clipboard = some clipping := by
  obtain ⟨n, _, hnew, _, happly⟩ := apply_pasteSignal hclip hname
  rw [happly] at h
  cases hfirst : (editor.project.signalViolations (Project.copyName clipping.name n)
      clipping.signal).head? with
  | some violation => simp [hfirst, Edit.verdict, Except.map] at h
  | none =>
    simp only [hfirst, Edit.verdict, Except.map, Except.ok.injEq] at h
    obtain rfl : (editor.commit _).2 = edited := congrArg Prod.snd h
    exact ⟨_, hnew, rfl, Project.entries_withAdded hnew, hclip⟩

/-- Pastes in a row append the signal under as many names, all of them new. -/
theorem entries_pasted {times : Nat} (hclip : editor.clipboard = some clipping)
    (hname : Text.Filled clipping.name) (h : editor.Pasted times edited) :
    ∃ names : List String, names.length = times ∧ names.Nodup ∧
      (∀ name ∈ names, name ∉ editor.project.signals.keys) ∧
      edited.project.signals.entries =
        editor.project.signals.entries ++ names.map fun name => (name, clipping.signal) := by
  induction h with
  | none => exact ⟨[], rfl, List.nodup_nil, by simp, by simp⟩
  | @next editor between edited times flipped h _ ih =>
    obtain ⟨name, hnew, _, hentries, hkept⟩ := entries_paste hclip hname h
    obtain ⟨names, hlength, hnodup, hfresh, hrest⟩ := ih hkept
    have hkeys : between.project.signals.keys = editor.project.signals.keys ++ [name] := by
      rw [OrderedMap.keys, hentries, Entries.keys_append]
      rfl
    rw [hkeys] at hfresh
    refine ⟨name :: names, by rw [List.length_cons, hlength], ?_, ?_, ?_⟩
    · refine List.nodup_cons.mpr ⟨fun hmem => ?_, hnodup⟩
      exact hfresh name hmem (List.mem_append_right _ List.mem_cons_self)
    · rw [List.forall_mem_cons]
      exact ⟨hnew, fun other hother hold => hfresh other hother (List.mem_append_left _ hold)⟩
    · rw [hrest, hentries, List.append_assoc]
      rfl

/-- For every editor that has copied a signal with a trimmed name, whatever signals there are: a paste
takes the first name of a copy that is free, which is found; it is refused only for a rule that the
signal breaks in the current project, and accepted if it breaks none. Then the signal stands behind
all others under that name, and the rest of the project and the clipboard are as before. So accepted
pastes in a row append the signal under as many names, distinct and new. -/
theorem paste_adds_fresh_copy (hclip : editor.clipboard = some clipping)
    (hname : Text.Filled clipping.name) :
    (∃ n ≤ editor.project.signals.size,
      let name := Project.copyName clipping.name n
      let broken := editor.project.signalViolations name clipping.signal
      name ∉ editor.project.signals.keys ∧
      (∀ m < n, Project.copyName clipping.name m ∈ editor.project.signals.keys) ∧
      ((∃ outcome, editor.apply .pasteSignal = .ok outcome) ↔ broken = []) ∧
      (∀ cause, editor.apply .pasteSignal = .error cause →
        ∃ violation ∈ broken, cause = .breaks violation) ∧
      ∀ flipped edited, editor.apply .pasteSignal = .ok (flipped, edited) →
        edited.project = { editor.project with signals := edited.project.signals } ∧
        edited.project.signals.entries =
          editor.project.signals.entries ++ [(name, clipping.signal)] ∧
        edited.clipboard = some clipping) ∧
    ∀ times edited, editor.Pasted times edited →
      ∃ names : List String, names.length = times ∧ names.Nodup ∧
        (∀ name ∈ names, name ∉ editor.project.signals.keys) ∧
        edited.project.signals.entries =
          editor.project.signals.entries ++ names.map fun name => (name, clipping.signal) := by
  refine ⟨?_, fun times edited h => entries_pasted hclip hname h⟩
  obtain ⟨n, hn, hnew, hused, happly⟩ := apply_pasteSignal hclip hname
  refine ⟨n, hn, hnew, hused, ?_⟩
  cases hbroken : editor.project.signalViolations (Project.copyName clipping.name n)
      clipping.signal with
  | nil =>
    simp only [hbroken, List.head?_nil, Edit.verdict, Except.map] at happly
    refine ⟨iff_of_true ⟨_, happly⟩ rfl, ?_, ?_⟩
    · intro cause h
      rw [happly] at h
      cases h
    · intro flipped edited h
      rw [happly, Except.ok.injEq] at h
      obtain rfl : (editor.commit _).2 = edited := congrArg Prod.snd h
      exact ⟨rfl, Project.entries_withAdded hnew, hclip⟩
  | cons violation rest =>
    simp only [hbroken, List.head?_cons, Edit.verdict, Except.map] at happly
    refine ⟨iff_of_false ?_ (List.cons_ne_nil _ _), ?_, ?_⟩
    · rintro ⟨outcome, h⟩
      rw [happly] at h
      cases h
    · intro cause h
      rw [happly, Except.error.injEq] at h
      exact ⟨violation, List.mem_cons_self, h.symm⟩
    · intro flipped edited h
      rw [happly] at h
      cases h

/-- Among the names of copies the first gap is taken. -/
theorem paste_adds_fresh_copy_inGap :
    let copied := Signal.new "speed"
    let project := { Project.template .epoch with
      signals := .ofPairs [("speed", copied), ("speed_copy", copied), ("speed_copy2", copied)] }
    let editor : Editor := { start project with clipboard := some ⟨"speed", copied⟩ }
    editor.clipboard = some ⟨"speed", copied⟩ ∧ Text.Filled "speed" ∧
    ∃ flipped edited, editor.apply .pasteSignal = .ok (flipped, edited) ∧
      edited.project.signals.keys = ["speed", "speed_copy", "speed_copy2", "speed_copy1"] := by
  intro copied project editor
  have hname : Text.Filled "speed" := by decide
  refine ⟨rfl, hname, ?_⟩
  have hclip : editor.clipboard = some ⟨"speed", copied⟩ := rfl
  obtain ⟨n, hn, hnew, hused, haccepted, _, hok⟩ := (paste_adds_fresh_copy hclip hname).1
  have hkeys : editor.project.signals.keys = ["speed", "speed_copy", "speed_copy2"] := rfl
  rw [hkeys] at hnew hused
  have hsecond : n = 2 := by
    match n with
    | 0 => exact False.elim (hnew (by decide))
    | 1 => exact False.elim (hnew (by decide))
    | 2 => rfl
    | n + 3 => exact absurd (hused 2 (by omega)) (by decide)
  subst hsecond
  obtain ⟨⟨flipped, edited⟩, happly⟩ := haccepted.mpr (by decide)
  refine ⟨flipped, edited, happly, ?_⟩
  rw [OrderedMap.keys, (hok flipped edited happly).2.1]
  rfl

end Editor

end SignalCatalog
