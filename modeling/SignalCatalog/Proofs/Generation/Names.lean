import Mathlib.Data.List.Nodup
import Mathlib.Data.List.Pairwise
import SignalCatalog.Generation.SignalManager
import SignalCatalog.Proofs.Text.Joined

/-!
# Names in generated code

Each signal names a variable, a function that returns it and one that sets it. The three names of one
signal are different, and so are the variables of two signals, their getters and their setters. But
nothing keeps two signals from being called such that the variable of one has the name of an accessor
of the other, and then the file defines one name twice. Here is exactly when that happens.
-/

namespace SignalCatalog

/-- What the name of an accessor begins with, before the underscore. -/
def accessors : List String := ["get", "set"]

/-- The variable of the first signal has the name of an accessor of the second. -/
inductive NamesMeet : String → String → Prop
  | whole {accessor : String} (h : accessor ∈ accessors) : NamesMeet accessor "value"
  | within {accessor : String} (h : accessor ∈ accessors) (middle : String) :
    NamesMeet (accessor ++ "_" ++ middle) (middle ++ "_value")

variable {accessor other name first second : String}

theorem not_mark_mem_accessor (h : accessor ∈ accessors) : '_' ∉ accessor.toList := by
  rcases List.mem_pair.mp h with rfl | rfl <;> decide

theorem accessor_joined_inj (haccessor : accessor ∈ accessors) (hother : other ∈ accessors) :
    accessor ++ "_" ++ first = other ++ "_" ++ second ↔ accessor = other ∧ first = second := by
  rw [Text.joined_eq_iff]
  refine or_iff_left ?_
  rintro (⟨middle, hword, _⟩ | ⟨middle, hword, _⟩)
  · exact not_mark_mem_accessor hother (by simp [hword])
  · exact not_mark_mem_accessor haccessor (by simp [hword])

theorem append_value (name : String) : name ++ "_value" = name ++ "_" ++ "value" := by
  rw [String.append_assoc]
  rfl

theorem namesMeet_iff : NamesMeet first second ↔
    ∃ accessor ∈ accessors, first ++ "_value" = accessor ++ "_" ++ second := by
  simp only [append_value, Text.joined_eq_iff]
  constructor
  · intro h
    cases h with
    | whole h => exact ⟨_, h, Or.inl ⟨rfl, rfl⟩⟩
    | within h middle => exact ⟨_, h, Or.inr (Or.inr ⟨middle, rfl, append_value middle⟩)⟩
  · rintro ⟨accessor, haccessor, ⟨rfl, rfl⟩ | ⟨middle, hword, _⟩ | ⟨middle, rfl, rfl⟩⟩
    · exact .whole haccessor
    · exact absurd (by simp [hword]) (not_mark_mem_accessor haccessor)
    · rw [← append_value]
      exact .within haccessor middle

instance (first second : String) : Decidable (NamesMeet first second) :=
  decidable_of_iff _ namesMeet_iff.symm

theorem NamesMeet.irrefl (name : String) : ¬ NamesMeet name name := by
  intro h
  obtain ⟨accessor, haccessor, heq⟩ := namesMeet_iff.mp h
  have hlength : ("_value" : String).length = accessor.length + 1 := by
    have hboth := congrArg String.length heq
    rw [String.length_append, String.length_append, String.length_append] at hboth
    have hmark : ("_" : String).length = 1 := by decide
    omega
  rcases List.mem_pair.mp haccessor with rfl | rfl <;> revert hlength <;> decide

namespace Slot

theorem mem_identifiers_iff {slot : Slot} : name ∈ slot.identifiers ↔
    name = slot.name ++ "_value" ∨ ∃ accessor ∈ accessors, name = accessor ++ "_" ++ slot.name := by
  simp [identifiers, accessors]

theorem nodup_identifiers (slot : Slot) : slot.identifiers.Nodup := by
  have hvariable : ∀ accessor ∈ accessors,
      slot.name ++ "_value" ≠ accessor ++ "_" ++ slot.name := fun accessor haccessor heq =>
    NamesMeet.irrefl slot.name (namesMeet_iff.mpr ⟨accessor, haccessor, heq⟩)
  refine List.nodup_cons.mpr ⟨?_, by simp⟩
  simpa [accessors] using hvariable

/-- Two signals share a name for the file exactly if they meet, in one order or the other. -/
theorem disjoint_identifiers_iff {slot other : Slot} (h : slot.name ≠ other.name) :
    List.Disjoint slot.identifiers other.identifiers ↔
      ¬ NamesMeet slot.name other.name ∧ ¬ NamesMeet other.name slot.name := by
  constructor
  · intro hdisjoint
    constructor
    · intro hmeet
      obtain ⟨accessor, haccessor, heq⟩ := namesMeet_iff.mp hmeet
      exact hdisjoint (mem_identifiers_iff.mpr (Or.inl rfl))
        (mem_identifiers_iff.mpr (Or.inr ⟨accessor, haccessor, heq⟩))
    · intro hmeet
      obtain ⟨accessor, haccessor, heq⟩ := namesMeet_iff.mp hmeet
      exact hdisjoint (mem_identifiers_iff.mpr (Or.inr ⟨accessor, haccessor, heq⟩))
        (mem_identifiers_iff.mpr (Or.inl rfl))
  · rintro ⟨hforth, hback⟩ name hname hother
    rcases mem_identifiers_iff.mp hname with rfl | ⟨accessor, haccessor, rfl⟩ <;>
      rcases mem_identifiers_iff.mp hother with heq | ⟨word, hword, heq⟩
    · exact h ((String.append_left_inj _).mp heq)
    · exact hforth (namesMeet_iff.mpr ⟨word, hword, heq⟩)
    · exact hback (namesMeet_iff.mpr ⟨accessor, haccessor, heq.symm⟩)
    · exact h ((accessor_joined_inj haccessor hword).mp heq).2

/-- The lines of a slot hold its three names where they are defined. -/
theorem exists_identifiers (slot : Slot) : ∃ stored getter setter,
    slot.identifiers = [stored, getter, setter] ∧
    slot.definition = ["", "static " ++ slot.type ++ " " ++ stored ++ " = " ++ slot.initial ++ ";",
      slot.type ++ " " ++ getter ++ "(void)", "\x7b", "    return " ++ stored ++ ";", "\x7d",
      "void " ++ setter ++ "(" ++ slot.type ++ " value)", "\x7b", "    " ++ stored ++ " = value;",
      "\x7d"] := by
  refine ⟨_, _, _, rfl, ?_⟩
  simp [definition, getter, setter, ← String.toList_inj]

theorem names_ofEntries {entries : List (String × Signal)} {slots : List Slot}
    (h : ofEntries entries = .ok slots) : slots.map Slot.name = Entries.keys entries := by
  induction entries generalizing slots with
  | nil =>
    cases h
    rfl
  | cons entry rest ih =>
    obtain ⟨name, signal⟩ := entry
    rw [ofEntries] at h
    split at h
    · simp at h
    · rename_i slot hslot
      split at h
      · simp at h
      · rename_i others hrest
        cases h
        have hname : slot.name = name := by
          unfold of at hslot
          split at hslot
          · simp at hslot
          · split at hslot
            · cases hslot
              rfl
            · simp at hslot
        rw [List.map_cons, hname, ih hrest]
        rfl

/-- The file defines no name twice exactly if no signal meets another. -/
theorem nodup_flatMap_identifiers_iff {slots : List Slot} (h : (slots.map Slot.name).Nodup) :
    (slots.flatMap Slot.identifiers).Nodup ↔
      ∀ first ∈ slots.map Slot.name, ∀ second ∈ slots.map Slot.name, ¬ NamesMeet first second := by
  have hpairs : slots.Pairwise (fun slot other => slot.name ≠ other.name) :=
    List.pairwise_map.mp h
  rw [List.nodup_flatMap, and_iff_right fun slot _ => slot.nodup_identifiers]
  constructor
  · intro hdisjoint
    have hapart : (slots.map Slot.name).Pairwise fun first second =>
        ¬ NamesMeet first second ∧ ¬ NamesMeet second first := by
      refine List.pairwise_map.mpr (hpairs.imp₂ ?_ hdisjoint)
      exact fun slot other hne => (disjoint_identifiers_iff hne).mp
    have : Std.Symm fun first second => ¬ NamesMeet first second ∧ ¬ NamesMeet second first :=
      ⟨fun _ _ => And.symm⟩
    intro first hfirst second hsecond
    exact (hapart.forall_of_forall
      (fun name _ => ⟨NamesMeet.irrefl name, NamesMeet.irrefl name⟩) hfirst hsecond).1
  · intro hapart
    refine hpairs.imp_of_mem ?_
    intro slot other hslot hother hne
    exact (disjoint_identifiers_iff hne).mpr
      ⟨hapart _ (List.mem_map_of_mem hslot) _ (List.mem_map_of_mem hother),
        hapart _ (List.mem_map_of_mem hother) _ (List.mem_map_of_mem hslot)⟩

end Slot

namespace SignalManager

/-- The source file is made of the definitions of the signals in their order. It defines no name twice
exactly if there are no two signals such that the variable of one has the name of an accessor of the
other. -/
theorem nodup_identifiers_iff (project : Project) (text : String) (h : source project = .ok text) :
    ∃ slots, SignalManager.slots project = .ok slots ∧
      slots.map Slot.name = project.signals.keys ∧
      text = lines (sourceBanner ++ slots.flatMap Slot.definition) ∧
      (∀ slot ∈ slots, ∃ stored getter setter, slot.identifiers = [stored, getter, setter] ∧
        slot.definition =
          ["", "static " ++ slot.type ++ " " ++ stored ++ " = " ++ slot.initial ++ ";",
            slot.type ++ " " ++ getter ++ "(void)", "\x7b", "    return " ++ stored ++ ";", "\x7d",
            "void " ++ setter ++ "(" ++ slot.type ++ " value)", "\x7b",
            "    " ++ stored ++ " = value;", "\x7d"]) ∧
      ((slots.flatMap Slot.identifiers).Nodup ↔ ∀ first ∈ project.signals.keys,
        ∀ second ∈ project.signals.keys, ¬ NamesMeet first second) := by
  unfold source sourceLines at h
  cases hslots : SignalManager.slots project with
  | error fault => simp [hslots, Except.map] at h
  | ok slots =>
    simp only [hslots, Except.map, Except.ok.injEq] at h
    have hnames : slots.map Slot.name = project.signals.keys := Slot.names_ofEntries hslots
    refine ⟨slots, rfl, hnames, h.symm, fun slot _ => slot.exists_identifiers, ?_⟩
    rw [Slot.nodup_flatMap_identifiers_iff (hnames ▸ project.signals.nodup), hnames]

/-- A new project with signals of these names. -/
def withSignals (names : List String) : Project :=
  { Project.template .epoch with signals := .ofPairs (names.map fun name => (name, .new name)) }

/-- Two signals that do not meet. -/
theorem nodup_identifiers_getSpeed : ∃ text slots,
    source (withSignals ["get", "speed"]) = .ok text ∧
    SignalManager.slots (withSignals ["get", "speed"]) = .ok slots ∧
    (slots.flatMap Slot.identifiers).Nodup := by
  obtain ⟨slots, hslots, _, _, _, hnodup⟩ :=
    nodup_identifiers_iff (withSignals ["get", "speed"]) _ rfl
  have hapart : ∀ first ∈ (withSignals ["get", "speed"]).signals.keys,
      ∀ second ∈ (withSignals ["get", "speed"]).signals.keys, ¬ NamesMeet first second := by decide
  exact ⟨_, slots, rfl, hslots, hnodup.mpr hapart⟩

/-- The variable of the signal `get` is the getter of the signal `value`. -/
theorem repeated_identifiers_getValue : ∃ text slots, source (withSignals ["get", "value"]) = .ok text ∧
    SignalManager.slots (withSignals ["get", "value"]) = .ok slots ∧
    slots.flatMap Slot.identifiers = ["get_value", "get_get", "set_get", "value_value", "get_value",
      "set_value"] ∧
    ¬ (slots.flatMap Slot.identifiers).Nodup :=
  ⟨_, _, rfl, rfl, rfl, by decide⟩

end SignalManager

end SignalCatalog
