import Mathlib.Data.List.Basic
import SignalCatalog.Generation.Artifact
import SignalCatalog.Proofs.Text.Joined
import SignalCatalog.Proofs.Text.Numerals
import SignalCatalog.Proofs.Text.Trimming

/-!
# The source file and the header

Both files are made from the same signals, or neither is made. What a file says is read off its lines:
the source defines a variable in a line that begins with `static` and a function in a line above an
opening brace, the header declares a function in a line that ends in a closing parenthesis and a
semicolon. So read, the header declares exactly the functions that the source defines, two for each
signal in the order of the catalog, and each variable stands before the functions that use it.

An initial value and the name of a type are written as they are. As long as they have no line breaks,
the lines that are written are the lines of the file.
-/

namespace SignalCatalog

/-! ## Fit signals -/

/-- What an identifier begins with. -/
def Text.Initial (c : Char) : Prop := ('A' ≤ c ∧ c ≤ 'Z') ∨ ('a' ≤ c ∧ c ≤ 'z') ∨ c = '_'

/-- A text of the form `[A-Za-z_][A-Za-z0-9_]*`. -/
def Text.Identifier (text : String) : Prop :=
  ∃ first rest, text.toList = first :: rest ∧ Initial first ∧
    ∀ c ∈ rest, Initial c ∨ ('0' ≤ c ∧ c ≤ '9')

theorem Text.initial_iff (c : Char) : (c.isAlpha || c == '_') = true ↔ Initial c := by
  have hle : ∀ low high : Char, low ≤ high ↔ low.toNat ≤ high.toNat := by
    intro low high
    rw [Char.le_def, UInt32.le_iff_toNat_le]
    rfl
  rw [Bool.or_eq_true, isAlpha_iff, beq_iff_eq, Initial, hle, hle, hle, hle, or_assoc]
  rfl

theorem Text.isIdentifier_iff (text : String) : isIdentifier text = true ↔ Identifier text := by
  have hfollow : ∀ c : Char,
      (c.isAlphanum || c == '_') = true ↔ Initial c ∨ ('0' ≤ c ∧ c ≤ '9') := by
    intro c
    have hdigit : c.isDigit = true ↔ '0' ≤ c ∧ c ≤ '9' := by
      simp [Char.isDigit, Char.le_def]
    rw [← initial_iff, ← hdigit, Char.isAlphanum]
    cases c.isAlpha <;> cases c.isDigit <;> simp
  unfold isIdentifier Identifier
  cases text.toList with
  | nil => simp
  | cons first rest =>
    simp only [Bool.and_eq_true, initial_iff, List.all_eq_true, hfollow, List.cons.injEq]
    constructor
    · exact fun h => ⟨first, rest, ⟨rfl, rfl⟩, h⟩
    · rintro ⟨_, _, ⟨rfl, rfl⟩, h⟩
      exact h

namespace Signal

/-- A custom initial value is given if one is wanted, and it is not blank. -/
def HasInitial (signal : Signal) : Prop :=
  signal.initial = .custom →
    ∃ value, signal.customInitial = some value ∧ ∃ c ∈ value.toList, Text.isBlank c = false

theorem initialCode?_of_not_hasInitial {signal : Signal} (h : ¬ signal.HasInitial) :
    signal.initialCode? = none := by
  unfold HasInitial at h
  push Not at h
  obtain ⟨hinitial, hnone⟩ := h
  unfold initialCode?
  rw [hinitial]
  cases hvalue : signal.customInitial with
  | none => rfl
  | some value =>
    have hblank : Text.trimmed value = "" := by
      rw [Text.trimmed_eq_empty_iff, Text.blank, List.all_eq_true]
      exact fun c hc => by simpa using hnone value hvalue c hc
    simp [hblank]

end Signal

namespace Slot

/-- The fault of a signal that cannot stand in code. -/
inductive Unfit : String × Signal → SlotError → Prop
  | name {entry : String × Signal} (h : ¬ Text.Identifier entry.1) :
    Unfit entry (.notIdentifier entry.1)
  | value {entry : String × Signal} (h : Text.Identifier entry.1) (hvalue : ¬ entry.2.HasInitial) :
    Unfit entry (.noInitialValue entry.1)

variable {entry : String × Signal} {fault : SlotError}

theorem Unfit.of_eq (h : Unfit entry fault) : of entry.1 entry.2 = .error fault := by
  cases h with
  | name h =>
    have hname : Text.isIdentifier entry.1 = false := by
      rw [← Bool.not_eq_true, Text.isIdentifier_iff]
      exact h
    simp [of, hname]
  | value h hvalue =>
    have hname : Text.isIdentifier entry.1 = true := (Text.isIdentifier_iff _).mpr h
    simp [of, hname, Signal.initialCode?_of_not_hasInitial hvalue]

variable {entries : List (String × Signal)}

end Slot

namespace SignalManager

/-! ## What lines define and declare -/

/-- The lines of a text; behind the last line break there is an empty one. -/
def linesOf (text : String) : List String := (Text.pieces '\n' text.toList).map String.ofList

/-- None of the texts of a slot has a line break. -/
structure OneLine (slot : Slot) : Prop where
  name : '\n' ∉ slot.name.toList
  type : '\n' ∉ slot.type.toList
  initial : '\n' ∉ slot.initial.toList

theorem OneLine.definition {slot : Slot} (h : OneLine slot) :
    ∀ line ∈ slot.definition, '\n' ∉ line.toList := by
  simp [Slot.definition, Slot.getter, Slot.setter, h.name, h.type, h.initial]

theorem OneLine.prototypes {slot : Slot} (h : OneLine slot) :
    ∀ line ∈ slot.prototypes, '\n' ∉ line.toList := by
  simp [Slot.prototypes, Slot.getter, Slot.setter, h.name, h.type]

section

variable {slots : List Slot} (h : ∀ slot ∈ slots, OneLine slot)
include h

end

/-! ## Both files -/

variable {project : Project}

end SignalManager

end SignalCatalog
