import SignalCatalog.Proofs.Json.Shapes
import SignalCatalog.Record.Kind

/-!
# The members of a record

A record is written as its fields followed by the members that it keeps. Those are no fields, so that
every field is found among the former and exactly the latter are collected again.
-/

namespace SignalCatalog

open Json

namespace OrderedMap

variable {α β γ : Type}

theorem entries_mapValues (f : String → α → β) (map : OrderedMap α) :
    (map.mapValues f).entries = map.entries.map fun entry => (entry.1, f entry.1 entry.2) := rfl

/-- Values that are written and read one by one make up the map that each of them gives. -/
theorem ofPairs_mapValues {map : OrderedMap α} {f : String → α → β} {g : β → γ}
    {h : String → α → γ} (heq : ∀ entry ∈ map.entries, g (f entry.1 entry.2) = h entry.1 entry.2) :
    ofPairs ((map.mapValues f).entries.map fun entry => (entry.1, g entry.2)) =
      map.mapValues h := by
  have hentries : (map.mapValues f).entries.map (fun entry => (entry.1, g entry.2)) =
      (map.mapValues h).entries := by
    rw [entries_mapValues, entries_mapValues, List.map_map]
    apply List.map_congr_left
    intro entry he
    simp [heq entry he]
  rw [hentries, ofPairs_entries]

/-- Values that are read under distinct keys are written under the same keys. -/
theorem entries_collected {entries : List (String × α)} (hn : (Entries.keys entries).Nodup)
    (take : α → β) (write : β → γ) :
    ((ofPairs (entries.map fun entry => (entry.1, take entry.2))).mapValues
      fun _ item => write item).entries =
      entries.map fun entry => (entry.1, write (take entry.2)) := by
  have hkeys : Entries.keys (entries.map fun entry => (entry.1, take entry.2)) =
      Entries.keys entries := Entries.keys_map (fun _ value => take value) entries
  rw [entries_mapValues, entries_ofPairs, Entries.ofPairs_of_nodup (by rwa [hkeys]), List.map_map]
  rfl

theorem mapValues_self (map : OrderedMap α) : map.mapValues (fun _ value => value) = map :=
  ext (by simp [entries_mapValues])

end OrderedMap

namespace Json

theorem WellFormed.members {value : Json} (h : value.WellFormed) :
    MembersWellFormed value.members := by
  cases value with
  | object members => exact h.2
  | _ => exact trivial

theorem WellFormed.nodup_members {value : Json} (h : value.WellFormed) :
    (Entries.keys value.members).Nodup := by
  cases value with
  | object members => exact h.1
  | _ => exact List.nodup_nil

theorem wellFormed_of_get? {members : List (String × Json)} (h : MembersWellFormed members)
    {key : String} {value : Json} (hv : Entries.get? key members = some value) :
    value.WellFormed :=
  membersWellFormed_iff.mp h (key, value) (Entries.mem_of_get? hv)

theorem wellFormed_objectField {members : List (String × Json)} (h : MembersWellFormed members)
    (key : String) : MembersWellFormed (objectField members key) := by
  cases hv : Entries.get? key members with
  | none => simp [objectField, hv, MembersWellFormed]
  | some value => simpa [objectField, hv] using (wellFormed_of_get? h hv).members

theorem objectField_of_member? {value inner : Json} {key : String}
    (h : value.member? key = some inner) : objectField value.members key = inner.members := by
  rw [objectField, ← member?, h]
  rfl

theorem members_getD_member? (value : Json) (key : String) :
    ((value.member? key).getD .null).members = objectField value.members key := by
  rw [objectField, ← member?]
  cases value.member? key <;> rfl

end Json

namespace RecordKind

variable {kind : RecordKind} {front : List (String × Json)} {extra : OrderedMap Json}

/-- The members are none of the record's fields, and their values are well formed. -/
def Keeps (kind : RecordKind) (extra : OrderedMap Json) : Prop :=
  ∀ entry ∈ extra.entries, entry.1 ∉ kind.fieldKeys ∧ entry.2.WellFormed

theorem keeps_empty (kind : RecordKind) : kind.Keeps .empty := by
  simp [Keeps]

theorem Keeps.get?_eq_none (h : kind.Keeps extra) {key : String} (hk : key ∈ kind.fieldKeys) :
    Entries.get? key extra.entries = none := by
  rw [Entries.get?_eq_none_iff]
  intro hmem
  obtain ⟨entry, he, rfl⟩ := List.mem_map.mp hmem
  exact (h entry he).1 hk

theorem Keeps.extraOf_append (h : kind.Keeps extra)
    (hfront : ∀ key ∈ Entries.keys front, key ∈ kind.fieldKeys) :
    kind.extraOf (front ++ extra.entries) = extra := by
  have hnone : front.filter (fun member => decide (member.1 ∉ kind.fieldKeys)) = [] := by
    rw [List.filter_eq_nil_iff]
    intro member hm
    simpa using hfront member.1 (Entries.mem_keys_of_mem hm)
  have hall : extra.entries.filter (fun member => decide (member.1 ∉ kind.fieldKeys)) =
      extra.entries := by
    rw [List.filter_eq_self]
    intro member hm
    simpa using (h member hm).1
  rw [extraOf, List.filter_append, hnone, hall, List.nil_append, OrderedMap.ofPairs_entries]

/-- What a record collects beside its fields it may keep. -/
theorem keeps_extraOf {members : List (String × Json)} (h : MembersWellFormed members) :
    kind.Keeps (kind.extraOf members) := by
  intro entry he
  have hmem := Entries.mem_ofPairs he
  rw [List.mem_filter] at hmem
  exact ⟨by simpa using hmem.2, membersWellFormed_iff.mp h entry hmem.1⟩

theorem get?_extraOf {members : List (String × Json)} (hn : (Entries.keys members).Nodup)
    {key : String} (hkey : key ∉ kind.fieldKeys) :
    Entries.get? key (kind.extraOf members).entries = Entries.get? key members := by
  have hkeys : (Entries.keys (members.filter fun member => member.1 ∉ kind.fieldKeys)).Nodup :=
    (List.filter_sublist.map Prod.fst).nodup hn
  rw [extraOf, OrderedMap.entries_ofPairs, Entries.ofPairs_of_nodup hkeys]
  exact Entries.get?_filter (p := fun key => decide (key ∉ kind.fieldKeys)) (by simpa) members

end RecordKind

/-- A well-formed value of a shape of project files. -/
def Suits (shape : Json.Shape RecordKind) (value : Json) : Prop :=
  value.WellFormed ∧ Fits RecordKind.rules shape value

namespace Suits

variable {shape : Json.Shape RecordKind}

theorem string (text : String) : Suits RecordKind.plain (.string text) := ⟨trivial, trivial⟩

theorem text (text : String) : Suits (.string true) (.string text) := ⟨trivial, trivial⟩

theorem boolean (b : Bool) : Suits .boolean (.bool b) := ⟨trivial, trivial⟩

theorem anything {value : Json} (h : value.WellFormed) : Suits .anything value :=
  ⟨h, fits_anything value⟩

theorem strings (texts : List String) : Suits (.list RecordKind.plain) (.array (texts.map .string)) := by
  refine ⟨allWellFormed_iff.mpr ?_, allFit_iff.mpr ?_⟩
  all_goals
    intro value hv
    obtain ⟨text, _, rfl⟩ := List.mem_map.mp hv
    trivial

theorem dictionary {entries : List (String × Json)} (hn : (Entries.keys entries).Nodup)
    (h : ∀ entry ∈ entries, Suits shape entry.2) : Suits (.dictionary shape) (.object entries) :=
  ⟨⟨hn, membersWellFormed_iff.mpr fun entry he => (h entry he).1⟩,
    membersFit_iff.mpr fun entry he => (h entry he).2⟩

theorem mapValues {α : Type} {map : OrderedMap α} {f : String → α → Json}
    (h : ∀ entry ∈ map.entries, Suits shape (f entry.1 entry.2)) :
    Suits (.dictionary shape) (.object (map.mapValues f).entries) := by
  apply dictionary (map.mapValues f).nodup
  intro entry he
  obtain ⟨old, hold, rfl⟩ := List.mem_map.mp he
  exact h old hold

end Suits

namespace RecordKind

variable {kind : RecordKind} {front : List (String × Json)} {extra : OrderedMap Json}

/-- Fields of the right shapes and members that are no fields make up a record. -/
theorem suits_record {members : List (String × Json)} (hn : (Entries.keys members).Nodup)
    (h : ∀ entry ∈ members, Suits (rules.shapeOf kind entry.1) entry.2) (orNull : Bool) :
    Suits (.record kind orNull) (.object members) :=
  ⟨⟨hn, membersWellFormed_iff.mpr fun entry he => (h entry he).1⟩,
    membersFit_iff.mpr fun entry he => (h entry he).2⟩

theorem shapeOf_eq_anything {key : String} (h : key ∉ kind.fieldKeys) :
    rules.shapeOf kind key = .anything := by
  have hnone : Entries.get? key (rules.fields kind) = none := Entries.get?_eq_none_iff.mpr h
  rw [Records.shapeOf, hnone, Option.getD_none]

theorem Keeps.suits (h : kind.Keeps extra) (hnodup : (Entries.keys front).Nodup)
    (hkeys : ∀ key ∈ Entries.keys front, key ∈ kind.fieldKeys)
    (hfront : ∀ entry ∈ front, Suits (rules.shapeOf kind entry.1) entry.2) (orNull : Bool) :
    Suits (.record kind orNull) (.object (front ++ extra.entries)) := by
  apply suits_record
  · rw [Entries.keys_append, List.nodup_append]
    refine ⟨hnodup, extra.nodup, ?_⟩
    intro key hk other ho he
    obtain ⟨member, hmember, rfl⟩ := List.mem_map.mp ho
    exact (h member hmember).1 (he ▸ hkeys key hk)
  · intro entry he
    rcases List.mem_append.mp he with he | he
    · exact hfront entry he
    · obtain ⟨hkey, hvalue⟩ := h entry he
      rw [shapeOf_eq_anything hkey]
      exact .anything hvalue

end RecordKind

end SignalCatalog
