import SignalCatalog.Proofs.Attribute
import SignalCatalog.Proofs.Binary64.Whole
import SignalCatalog.Proofs.DataType
import SignalCatalog.Proofs.Record.Members
import SignalCatalog.Record.Signal

/-!
# Signals are read as they were written

Reading the record of a signal gives the signal back, except for the texts of values that could not
be read, which are not written. `Storable` says what a signal must be for this: its types were read
from some text, its flags have the keys of flags, and its unknown members are neither fields nor
flags.
-/

namespace SignalCatalog

open Json

mutual

/-- The type was read from a text, no two members have one name, and what is kept is no field. -/
def StructField.Storable : StructField → Prop
  | ⟨type, _, fields, extra⟩ =>
    type.Written ∧ (Entries.keys fields).Nodup ∧ FieldsStorable fields ∧
      RecordKind.structField.Keeps extra

def StructField.FieldsStorable : List (String × StructField) → Prop
  | [] => True
  | (_, field) :: rest => field.Storable ∧ FieldsStorable rest

end

namespace StructField

theorem keys_membersOf (fields : List (String × StructField)) :
    Entries.keys (membersOf fields) = Entries.keys fields := by
  induction fields with
  | nil => rfl
  | cons entry rest ih => simp [membersOf, ih]

theorem memberLevels_append (front back : List (String × Json)) :
    memberLevels (front ++ back) = max (memberLevels front) (memberLevels back) := by
  induction front with
  | nil => simp [memberLevels]
  | cons entry rest ih => simp [memberLevels, ih, Nat.max_assoc]

mutual

/-- A member of a struct is read back, if the fuel covers its levels. -/
theorem ofMembers_toJson : ∀ (field : StructField) {fuel : Nat}, field.Storable →
    field.toJson.levels ≤ fuel → ofMembers fuel field.toJson.members = field
  | field, 0, _, hfuel => by
    cases field
    simp [toJson, levels] at hfuel
  | ⟨type, description, fields, extra⟩, fuel + 1, ⟨htype, hnames, hfields, hextra⟩, hfuel => by
    have hkept : RecordKind.structField.extraOf
        (toJson ⟨type, description, fields, extra⟩).members = extra := by
      simp only [toJson, members]
      apply hextra.extraOf_append
      cases fields <;> simp [RecordKind.fieldKeys, RecordKind.fields]
    have hnone := hextra.get?_eq_none (by decide : "fields" ∈ RecordKind.structField.fieldKeys)
    have hmembers : Entries.ofPairs ((objectField (toJson ⟨type, description, fields, extra⟩).members
        "fields").map fun (name, value) => (name, ofMembers fuel value.members)) = fields := by
      cases fields with
      | nil => simp [toJson, members, objectField, Entries.get?, hnone, Entries.ofPairs]
      | cons entry rest =>
        have hlevels : memberLevels (membersOf (entry :: rest)) ≤ fuel := by
          simp only [toJson, levels, memberLevels_append, memberLevels, List.isEmpty_cons,
            Bool.false_eq_true, if_false] at hfuel
          omega
        have hobject : objectField
            (toJson ⟨type, description, entry :: rest, extra⟩).members "fields" =
            membersOf (entry :: rest) := by
          simp [toJson, members, objectField, Entries.get?]
        rw [hobject, map_membersOf _ hfields hlevels, Entries.ofPairs_of_nodup hnames]
    rw [ofMembers, hkept, hmembers]
    simp [toJson, members, textField, Entries.get?, stringValue?, htype.ofDocument_text]

theorem map_membersOf : ∀ (fields : List (String × StructField)) {fuel : Nat},
    FieldsStorable fields → memberLevels (membersOf fields) ≤ fuel →
    (membersOf fields).map (fun (name, value) => (name, ofMembers fuel value.members)) = fields
  | [], _, _, _ => rfl
  | (name, field) :: rest, fuel, h, hfuel => by
    simp only [membersOf, memberLevels, Nat.max_le] at hfuel
    simp [membersOf, ofMembers_toJson field h.1 hfuel.1, map_membersOf rest h.2 hfuel.2]

end

mutual

theorem suits_toJson : ∀ (field : StructField), field.Storable →
    Suits (.record .structField false) field.toJson
  | ⟨type, description, fields, extra⟩, ⟨htype, hnames, hfields, hextra⟩ => by
    have hmembers := suits_membersOf fields hfields
    have hobject := Suits.dictionary (by rwa [keys_membersOf]) hmembers
    rw [toJson]
    apply hextra.suits
    · cases fields <;> simp
    · cases fields <;> simp [RecordKind.fieldKeys, RecordKind.fields]
    · intro entry he
      simp only [List.mem_append, List.mem_cons, List.not_mem_nil, or_false] at he
      rcases he with (rfl | rfl) | he
      · exact Suits.string _
      · exact Suits.string _
      · cases fields with
        | nil => simp at he
        | cons first rest =>
          simp only [List.isEmpty_cons, Bool.false_eq_true, if_false, List.mem_singleton] at he
          rw [he]
          exact hobject

theorem suits_membersOf : ∀ (fields : List (String × StructField)), FieldsStorable fields →
    ∀ entry ∈ membersOf fields, Suits (.record .structField false) entry.2
  | [], _ => by simp [membersOf]
  | (name, field) :: rest, h => by
    have hfield := suits_toJson field h.1
    have hrest := suits_membersOf rest h.2
    simp only [membersOf, List.mem_cons, forall_eq_or_imp]
    exact ⟨hfield, hrest⟩

end

/-- The members are read back with the fuel that each of them is read with. -/
theorem map_levels_membersOf {fields : List (String × StructField)} (h : FieldsStorable fields) :
    (membersOf fields).map (fun (name, value) => (name, ofMembers value.levels value.members)) =
      fields := by
  induction fields with
  | nil => rfl
  | cons entry rest ih =>
    obtain ⟨name, field⟩ := entry
    simp [membersOf, ofMembers_toJson field h.1 (Nat.le_refl _), ih h.2]

theorem fieldsStorable_iff {fields : List (String × StructField)} :
    FieldsStorable fields ↔ ∀ entry ∈ fields, entry.2.Storable := by
  induction fields with
  | nil => simp [FieldsStorable]
  | cons entry rest ih => simp [FieldsStorable, ih]

/-- What is read as a member of a struct may be stored. -/
theorem storable_ofMembers (fuel : Nat) {members : List (String × Json)}
    (h : MembersWellFormed members) : (ofMembers fuel members).Storable := by
  induction fuel generalizing members with
  | zero =>
    simp [ofMembers, Storable, FieldsStorable, DataType.written_default, RecordKind.keeps_empty]
  | succ fuel ih =>
    refine ⟨DataType.written_ofDocument _, Entries.nodup_keys_ofPairs _, ?_,
      RecordKind.keeps_extraOf h⟩
    rw [fieldsStorable_iff]
    intro entry he
    obtain ⟨member, hm, rfl⟩ := List.mem_map.mp (Entries.mem_ofPairs he)
    have hmember := membersWellFormed_iff.mp (wellFormed_objectField h "fields") member hm
    exact ih hmember.members

end StructField

namespace Json

theorem choice?_spelling {α : Type} [Attribute α] [LawfulAttribute α] (value : α) :
    choice? (Signal.word (Attribute.spelling value)) = some value := by
  simp [choice?, Signal.word, stringValue?]

theorem number?_count (n : UInt32) : number? (Signal.count n) = some n := by
  have hbound := n.toNat_lt
  have hwhole : (Number.integer n.toNat).toBinary64.whole? = some (n.toNat : Int) := by
    rw [Number.toBinary64, Binary64.ofInt_natCast, Binary64.whole?_ofNat (by omega)]
  have hword : (n.toNat : Int) ≤ Text.maxWord32 := by
    simp only [Text.maxWord32]
    omega
  simp [number?, Signal.count, word?, hwhole, hword]

theorem yes?_bool (b : Bool) : yes? (.bool b) = some b := rfl

end Json

namespace Signal

/-- What a signal must be to be read back from its record. -/
structure Storable (signal : Signal) : Prop where
  type : signal.dataType.Written
  names : (Entries.keys signal.fields).Nodup
  fields : StructField.FieldsStorable signal.fields
  extra : RecordKind.signal.Keeps signal.extra
  marked : ∀ key ∈ signal.destinations.keys, key.startsWith destinationMark = true
  unmarked : ∀ member ∈ signal.extra.entries, destinationMember? member = none
  apart : ∀ key ∈ signal.destinations.keys, key ∉ signal.extra.keys

/-- The signal without the texts of values that could not be read. -/
def forgetUnreadable (signal : Signal) : Signal := { signal with unreadable := .empty }

variable {signal : Signal}

/-- The flags as members. -/
def marks (signal : Signal) : List (String × Json) :=
  signal.destinations.entries.map fun entry => (entry.1, .bool entry.2)

theorem keys_marks (signal : Signal) : Entries.keys signal.marks = signal.destinations.keys :=
  Entries.keys_map (fun _ on => Json.bool on) signal.destinations.entries

theorem field_unmarked : ∀ key ∈ RecordKind.signal.fieldKeys,
    key.startsWith destinationMark = false := by
  simp only [String.startsWith_string_eq_false_iff]
  decide

theorem destinationMember?_bool {key : String} {on : Bool} :
    destinationMember? (key, .bool on) =
      if key.startsWith destinationMark then some (key, on) else none := rfl

theorem Storable.rest_eq (h : signal.Storable) :
    signal.rest = signal.marks ++ signal.extra.entries := by
  apply Entries.ofPairs_of_nodup
  rw [Entries.keys_append, List.nodup_append]
  refine ⟨by rw [← marks, keys_marks]; exact signal.destinations.nodup, signal.extra.nodup, ?_⟩
  intro key hk other ho he
  rw [← marks, keys_marks] at hk
  exact h.apart key hk (he ▸ ho)

/-- Flags and unknown members as one map. -/
def others (signal : Signal) : OrderedMap Json := .ofPairs (signal.marks ++ signal.extra.entries)

theorem Storable.keeps_others (h : signal.Storable) : RecordKind.signal.Keeps signal.others := by
  intro entry he
  have he' : entry ∈ signal.marks ++ signal.extra.entries := Entries.mem_ofPairs he
  rcases List.mem_append.mp he' with he' | he'
  · refine ⟨fun hfield => ?_, ?_⟩
    · have hmark := h.marked entry.1 (by rw [← keys_marks]; exact Entries.mem_keys_of_mem he')
      rw [field_unmarked entry.1 hfield] at hmark
      simp at hmark
    · obtain ⟨flag, _, rfl⟩ := List.mem_map.mp he'
      trivial
  · exact h.extra entry he'

/-- The flags are found again among the unknown members. -/
theorem Storable.filterMap_rest (h : signal.Storable) :
    signal.rest.filterMap destinationMember? = signal.destinations.entries := by
  have hmarks : signal.marks.filterMap destinationMember? = signal.destinations.entries := by
    rw [marks, List.filterMap_map]
    have hself : ∀ entry ∈ signal.destinations.entries,
        (destinationMember? ∘ fun entry : String × Bool => (entry.1, Json.bool entry.2)) entry =
          some entry := by
      intro entry he
      have hmark := h.marked entry.1 (Entries.mem_keys_of_mem he)
      simp [destinationMember?_bool, -String.startsWith_string_iff, hmark]
    rw [List.filterMap_congr hself, List.filterMap_some]
  have hextra : signal.extra.entries.filterMap destinationMember? = [] :=
    List.filterMap_eq_nil_iff.mpr h.unmarked
  rw [h.rest_eq, List.filterMap_append, hmarks, hextra, List.append_nil]

theorem Storable.filter_rest (h : signal.Storable) :
    signal.rest.filter (fun member => (destinationMember? member).isNone) =
      signal.extra.entries := by
  have hmarks : signal.marks.filter (fun member => (destinationMember? member).isNone) = [] := by
    rw [List.filter_eq_nil_iff]
    intro member hm
    obtain ⟨entry, he, rfl⟩ := List.mem_map.mp hm
    have hmark := h.marked entry.1 (Entries.mem_keys_of_mem he)
    simp [destinationMember?_bool, -String.startsWith_string_iff, hmark]
  have hextra : signal.extra.entries.filter (fun member => (destinationMember? member).isNone) =
      signal.extra.entries := by
    rw [List.filter_eq_self]
    intro member hm
    simp [h.unmarked member hm]
  rw [h.rest_eq, List.filter_append, hmarks, hextra, List.nil_append]

theorem get?_toMembers {key : String} {value : Json}
    (h : Entries.get? key signal.fieldMembers = some value) :
    Entries.get? key signal.toMembers = some value := by
  rw [toMembers, Entries.get?_append, h, Option.some_or]

theorem Storable.get?_customInitial (h : signal.Storable) :
    Entries.get? "CustomInitValue" signal.toMembers = signal.customInitial.map .string := by
  have hnone : Entries.get? "CustomInitValue" signal.rest = none :=
    h.keeps_others.get?_eq_none (by decide)
  rw [toMembers, Entries.get?_append, hnone, Option.or_none]
  cases hcustom : signal.customInitial <;> simp [fieldMembers, Entries.get?, hcustom]

theorem keys_fieldMembers_subset (signal : Signal) :
    ∀ key ∈ Entries.keys signal.fieldMembers, key ∈ RecordKind.signal.fieldKeys := by
  cases hcustom : signal.customInitial <;>
    simp [fieldMembers, hcustom, RecordKind.fieldKeys, RecordKind.fields]

theorem Storable.extraOf_toMembers (h : signal.Storable) :
    (RecordKind.signal.extraOf signal.toMembers).entries = signal.rest :=
  congrArg OrderedMap.entries (h.keeps_others.extraOf_append (keys_fieldMembers_subset signal))

theorem lookUp_read {α : Type} {accept : Json → Option α} {members : List (String × Json)}
    {key : String} {raw : Json} {value : α} (h : Entries.get? key members = some raw)
    (ha : accept raw = some value) : FileValue.lookUp accept members key = .read value := by
  simp [FileValue.lookUp, h, ha]

theorem Storable.structFields_toMembers (h : signal.Storable) :
    structFields signal.toMembers = signal.fields := by
  have hobject : objectField signal.toMembers "struct_fields" =
      StructField.membersOf signal.fields := by
    rw [objectField, get?_toMembers (show Entries.get? "struct_fields" signal.fieldMembers =
      some (.object (StructField.membersOf signal.fields)) from rfl)]
    rfl
  rw [structFields, hobject, StructField.map_levels_membersOf h.fields,
    Entries.ofPairs_of_nodup h.names]

theorem textField_toMembers {key text default : String}
    (h : Entries.get? key signal.fieldMembers = some (.string text)) :
    textField signal.toMembers key default = text := by
  simp [textField, get?_toMembers h, stringValue?]

/-- A signal is read back from its record. -/
theorem Storable.ofMembers_toMembers (h : signal.Storable) :
    ofMembers signal.toMembers = signal.forgetUnreadable := by
  have hread : ∀ {α : Type} {accept : Json → Option α} {key raw} {value : α},
      Entries.get? key signal.fieldMembers = some raw → accept raw = some value →
      FileValue.lookUp accept signal.toMembers key = .read value :=
    fun hkey haccept => lookUp_read (get?_toMembers hkey) haccept
  have hmemory := hread (show Entries.get? "Memory Region" signal.fieldMembers = _ from rfl)
    (choice?_spelling _)
  have hbuffers := hread (show Entries.get? FieldRange.bufferCount.field signal.fieldMembers = _
    from rfl) (number?_count _)
  have horder := hread (show Entries.get? "Type" signal.fieldMembers = _ from rfl)
    (choice?_spelling _)
  have hinitial := hread (show Entries.get? "InitValue" signal.fieldMembers = _ from rfl)
    (choice?_spelling _)
  have hnotifiers := hread (show Entries.get? "Notifiers" signal.fieldMembers = _ from rfl)
    (yes?_bool _)
  have htransport := hread (show Entries.get? "Impl_Approach" signal.fieldMembers = _ from rfl)
    (choice?_spelling _)
  have hobject := hread (show Entries.get? "GetObjRef" signal.fieldMembers = _ from rfl)
    (yes?_bool _)
  have hshared := hread (show Entries.get? FieldRange.sharedBuffers.field signal.fieldMembers = _
    from rfl) (number?_count _)
  have htimeout := hread (show Entries.get? FieldRange.timeout.field signal.fieldMembers = _
    from rfl) (number?_count _)
  have hperiod := hread (show Entries.get? FieldRange.periodicity.field signal.fieldMembers = _
    from rfl) (number?_count _)
  have hsafety := hread (show Entries.get? "ASIL" signal.fieldMembers = _ from rfl)
    (choice?_spelling _)
  have hchecksum := hread (show Entries.get? "Checksum" signal.fieldMembers = _ from rfl)
    (choice?_spelling _)
  simp only [ofMembers, hmemory, hbuffers, horder, hinitial, hnotifiers, htransport, hobject,
    hshared, htimeout, hperiod, hsafety, hchecksum, FileValue.getD, FileValue.note,
    h.structFields_toMembers, h.get?_customInitial, h.extraOf_toMembers, h.filterMap_rest,
    h.filter_rest, OrderedMap.ofPairs_entries]
  rw [textField_toMembers rfl, textField_toMembers rfl, textField_toMembers rfl,
    textField_toMembers rfl, h.type.ofDocument_text]
  have hcustom : (signal.customInitial.map Json.string).bind stringValue? =
      signal.customInitial := by
    cases signal.customInitial <;> rfl
  rw [hcustom]
  rfl

theorem storable_structFields {members : List (String × Json)} (h : MembersWellFormed members) :
    StructField.FieldsStorable (structFields members) := by
  rw [StructField.fieldsStorable_iff]
  intro entry he
  obtain ⟨member, hm, rfl⟩ := List.mem_map.mp (Entries.mem_ofPairs he)
  have hmember := membersWellFormed_iff.mp (wellFormed_objectField h "struct_fields") member hm
  exact StructField.storable_ofMembers _ hmember.members

theorem destinationMember?_eq_some {member : String × Json} {flag : String × Bool}
    (h : destinationMember? member = some flag) :
    member = (flag.1, .bool flag.2) ∧ flag.1.startsWith destinationMark = true := by
  obtain ⟨key, value⟩ := member
  cases value with
  | bool on =>
    rw [destinationMember?_bool, Option.ite_none_right_eq_some, Option.some.injEq] at h
    obtain ⟨hmark, rfl⟩ := h
    exact ⟨rfl, hmark⟩
  | _ => simp [destinationMember?] at h

/-- What is read as a signal may be stored. -/
theorem storable_ofMembers {members : List (String × Json)} (h : MembersWellFormed members) :
    (ofMembers members).Storable where
  type := DataType.written_ofDocument _
  names := Entries.nodup_keys_ofPairs _
  fields := storable_structFields h
  extra := by
    intro entry he
    have hmem := (List.mem_filter.mp (Entries.mem_ofPairs he)).1
    exact RecordKind.keeps_extraOf h entry hmem
  marked := by
    intro key hk
    obtain ⟨flag, hflag, rfl⟩ := List.mem_map.mp hk
    obtain ⟨member, _, hmember⟩ := List.mem_filterMap.mp (Entries.mem_ofPairs hflag)
    exact (destinationMember?_eq_some hmember).2
  unmarked := by
    intro member hm
    simpa using (List.mem_filter.mp (Entries.mem_ofPairs hm)).2
  apart := by
    intro key hk hextra
    obtain ⟨flag, hflag, rfl⟩ := List.mem_map.mp hk
    obtain ⟨member, hm, hmember⟩ := List.mem_filterMap.mp (Entries.mem_ofPairs hflag)
    obtain ⟨other, hother, hkey⟩ := List.mem_map.mp hextra
    obtain ⟨ho, hnone⟩ := List.mem_filter.mp (Entries.mem_ofPairs hother)
    obtain ⟨rfl, _⟩ := destinationMember?_eq_some hmember
    have hsame : other = (flag.1, .bool flag.2) :=
      Entries.eq_of_mem (RecordKind.extraOf .signal members).nodup ho hm hkey
    rw [hsame, hmember] at hnone
    simp at hnone

theorem storable_new (name : String) : (new name).Storable where
  type := DataType.written_default
  names := List.nodup_nil
  fields := trivial
  extra := RecordKind.keeps_empty .signal
  marked := by simp [new, OrderedMap.keys]
  unmarked := by simp [new]
  apart := by simp [new, OrderedMap.keys]

/-- The record of a signal has the shape of such records. -/
theorem Storable.suits_toJson (h : signal.Storable) :
    Suits (.record .signal false) signal.toJson := by
  have hfields := Suits.dictionary (by rw [StructField.keys_membersOf]; exact h.names)
    (StructField.suits_membersOf signal.fields h.fields)
  apply h.keeps_others.suits
  · cases hcustom : signal.customInitial <;> simp [fieldMembers, hcustom]
  · exact keys_fieldMembers_subset signal
  · intro entry he
    rcases List.mem_append.mp he with he | he
    · simp only [List.mem_cons, List.not_mem_nil, or_false] at he
      rcases he with rfl | rfl | rfl | rfl | rfl | rfl | rfl | rfl | rfl | rfl | rfl | rfl | rfl |
        rfl | rfl | rfl | rfl | rfl
      all_goals
        first
        | exact Suits.string _
        | exact Suits.anything trivial
        | exact Suits.boolean _
        | exact hfields
    · cases hcustom : signal.customInitial with
      | none => simp [hcustom] at he
      | some value =>
        simp only [hcustom, List.mem_singleton] at he
        rw [he]
        exact Suits.text value

end Signal

end SignalCatalog
