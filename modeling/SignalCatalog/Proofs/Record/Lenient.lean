import SignalCatalog.Proofs.Binary64.Rounding
import SignalCatalog.Proofs.Record.Signal

/-!
# Fields that take any value

Twelve fields of a signal's record take any value. If the other fields are absent or well typed, a
record is read whatever stands in these twelve: each holds what its reader accepts or the default of a
new signal, what is present and not accepted is listed as unreadable, and the rest of the signal does
not depend on them. A reader of numbers accepts exactly the whole numbers of 32 bits.
-/

namespace SignalCatalog

open Json

/-! ## Numbers of 32 bits -/

namespace Json

/-- A double is accepted as the number of 32 bits that it equals. -/
theorem word?_eq_some_iff {number : Binary64} {word : UInt32} :
    word? number = some word ↔ number.value? = some (word.toNat : ℚ) := by
  have hbound := word.toNat_lt
  constructor
  · intro h
    obtain ⟨n, hwhole, hword⟩ := Option.bind_eq_some_iff.mp h
    obtain ⟨value, hvalue, hden⟩ := Option.bind_eq_some_iff.mp hwhole
    rw [Option.ite_none_right_eq_some, Option.some.injEq] at hden hword
    obtain ⟨hone, rfl⟩ := hden
    obtain ⟨⟨hnonneg, hmax⟩, rfl⟩ := hword
    rw [hvalue, Option.some.injEq]
    have hnat : value.num.toNat < 2 ^ 32 := by
      simp only [Text.maxWord32] at hmax
      omega
    have hint : (value.num.toNat : Int) = value.num := Int.toNat_of_nonneg hnonneg
    rw [UInt32.toNat_ofNat_of_lt' hnat, ← Int.cast_natCast, hint]
    exact (Rat.coe_int_num_of_den_eq_one hone).symm
  · intro hvalue
    have hwhole : number.whole? = some (word.toNat : Int) := by
      simp [Binary64.whole?, hvalue]
    have hword : (word.toNat : Int) ≤ Text.maxWord32 := by
      simp only [Text.maxWord32]
      omega
    simp [word?, hwhole, hword]

theorem number?_integer_iff {n : Int} {word : UInt32} :
    number? (.number (.integer n)) = some word ↔ n = word.toNat := by
  have hbound := word.toNat_lt
  rw [number?, word?_eq_some_iff, Number.toBinary64, Binary64.value?_ofInt_eq_some_iff (by omega)]

/-- An integer of 32 bits is accepted as the number that it is, and no other integer is. -/
theorem number?_integer (n : Int) :
    if 0 ≤ n ∧ n ≤ 4294967295 then
      ∃ word, number? (.number (.integer n)) = some word ∧ (word.toNat : Int) = n
    else number? (.number (.integer n)) = none := by
  split
  · rename_i hrange
    have hbound : n.toNat < 2 ^ 32 := by omega
    have hword : n = (UInt32.ofNat n.toNat).toNat := by
      rw [UInt32.toNat_ofNat_of_lt' hbound]
      omega
    exact ⟨UInt32.ofNat n.toNat, number?_integer_iff.mpr hword, hword.symm⟩
  · rename_i hrange
    apply Option.eq_none_iff_forall_ne_some.mpr
    intro word hword
    have hbound := word.toNat_lt
    have hn := number?_integer_iff.mp hword
    omega

end Json

namespace FileValue

variable {α : Type} {accept : Json → Option α} {members : List (String × Json)} {key : String}

theorem getD_lookUp (default : α) :
    (lookUp accept members key).getD default =
      ((Entries.get? key members).bind accept).getD default := by
  rw [lookUp]
  cases Entries.get? key members with
  | none => rfl
  | some raw => cases haccept : accept raw <;> simp [haccept, getD]

/-- What is recorded of a field that is present and not accepted. -/
def unread? (accept : Json → Option α) (members : List (String × Json)) (key : String) :
    Option (String × String) :=
  (Entries.get? key members).bind fun raw =>
    if (accept raw).isSome then none else some (key, rawText raw)

theorem note_lookUp : (lookUp accept members key).note key = (unread? accept members key).toList := by
  rw [lookUp, unread?]
  cases Entries.get? key members with
  | none => rfl
  | some raw => cases haccept : accept raw <;> simp [haccept, note]

end FileValue

namespace Signal

/-! ## The twelve fields -/

/-- A field that takes any value: its key, the reader of its values, and the field itself. -/
structure LenientField where
  Value : Type
  key : String
  accept : Json → Option Value
  get : Signal → Value

def lenientFields : List LenientField :=
  [⟨_, "Memory Region", choice?, memoryRegion⟩, ⟨_, "Buffer count_IPC", number?, bufferCount⟩,
    ⟨_, "Type", choice?, accessOrder⟩, ⟨_, "InitValue", choice?, initial⟩,
    ⟨_, "Notifiers", yes?, notifiers⟩, ⟨_, "Impl_Approach", choice?, transport⟩,
    ⟨_, "GetObjRef", yes?, getObjRef⟩, ⟨_, "SM_Buff_Count", number?, sharedBuffers⟩,
    ⟨_, "Timeout", number?, timeout⟩, ⟨_, "Periodicity", number?, periodicity⟩,
    ⟨_, "ASIL", choice?, safetyLevel⟩, ⟨_, "Checksum", choice?, checksum⟩]

def lenientKeys : List String := lenientFields.map LenientField.key

variable {members others : List (String × Json)} {text : String}

/-- Each of the fields holds what its reader accepts, or the default. -/
theorem get_ofMembers (members : List (String × Json)) : ∀ field ∈ lenientFields,
    field.get (ofMembers members) =
      ((Entries.get? field.key members).bind field.accept).getD (field.get (new "")) := by
  simp only [lenientFields, List.forall_mem_cons]
  refine ⟨?_, ?_, ?_, ?_, ?_, ?_, ?_, ?_, ?_, ?_, ?_, ?_, by simp⟩ <;>
    exact FileValue.getD_lookUp _

theorem keys_filterMap_unread? (fields : List LenientField) (members : List (String × Json)) :
    (Entries.keys (fields.filterMap fun field =>
      FileValue.unread? field.accept members field.key)).Sublist (fields.map LenientField.key) := by
  induction fields with
  | nil => exact List.Sublist.refl []
  | cons field rest ih =>
    rw [List.filterMap_cons]
    cases hunread : FileValue.unread? field.accept members field.key with
    | none => exact ih.cons field.key
    | some entry =>
      obtain ⟨raw, _, hentry⟩ := Option.bind_eq_some_iff.mp hunread
      rw [Option.ite_none_left_eq_some, Option.some.injEq] at hentry
      rw [Entries.keys_cons, ← hentry.2]
      exact ih.cons_cons field.key

/-- The unreadable values are listed once each, in the order of the fields. -/
theorem unreadable_ofMembers (members : List (String × Json)) :
    (ofMembers members).unreadable.entries =
      lenientFields.filterMap fun field => FileValue.unread? field.accept members field.key := by
  have hnodup : lenientKeys.Nodup := by decide
  have hkeys := (keys_filterMap_unread? lenientFields members).nodup hnodup
  rw [← Entries.ofPairs_of_nodup hkeys]
  simp only [ofMembers, FileValue.note_lookUp, OrderedMap.entries_ofPairs]
  congr 1
  rw [List.filterMap_eq_flatMap_toList]
  simp only [lenientFields, List.flatMap_cons, List.flatMap_nil, List.append_nil, List.append_assoc]
  rfl

/-! ## The other fields -/

/-- The members outside the twelve fields. -/
def strictMembers (members : List (String × Json)) : List (String × Json) :=
  members.filter fun member => member.1 ∉ lenientKeys

theorem get?_strictMembers {key : String} (h : key ∉ lenientKeys) (members : List (String × Json)) :
    Entries.get? key (strictMembers members) = Entries.get? key members :=
  Entries.get?_filter (p := fun key => decide (key ∉ lenientKeys)) (by simpa using h) members

theorem get?_congr (h : strictMembers others = strictMembers members) {key : String}
    (hkey : key ∉ lenientKeys) : Entries.get? key others = Entries.get? key members := by
  rw [← get?_strictMembers hkey others, h, get?_strictMembers hkey]

/-- The twelve keys are fields, so that the unknown members are among the others. -/
theorem extraOf_strictMembers (members : List (String × Json)) :
    RecordKind.signal.extraOf (strictMembers members) = RecordKind.signal.extraOf members := by
  have hfields : ∀ key ∈ lenientKeys, key ∈ RecordKind.signal.fieldKeys := by decide
  rw [RecordKind.extraOf, RecordKind.extraOf, strictMembers, List.filter_filter]
  congr 1
  apply List.filter_congr
  intro member _
  rw [← Bool.decide_and]
  exact decide_eq_decide.mpr (and_iff_left_of_imp fun hnot hmem => hnot (hfields _ hmem))

/-- Two signals are the same outside the twelve fields and the list of unreadable values. -/
structure SameStrict (signal other : Signal) : Prop where
  portName : other.portName = signal.portName
  source : other.source = signal.source
  dataType : other.dataType = signal.dataType
  description : other.description = signal.description
  fields : other.fields = signal.fields
  customInitial : other.customInitial = signal.customInitial
  destinations : other.destinations = signal.destinations
  extra : other.extra = signal.extra

theorem sameStrict_ofMembers (h : strictMembers others = strictMembers members) :
    (ofMembers members).SameStrict (ofMembers others) := by
  have hget : ∀ {key}, key ∉ lenientKeys → Entries.get? key others = Entries.get? key members :=
    get?_congr h
  have htext : ∀ {key}, key ∉ lenientKeys → textField others key "" = textField members key "" := by
    intro key hkey
    rw [textField, textField, hget hkey]
  have hextra : RecordKind.signal.extraOf others = RecordKind.signal.extraOf members := by
    rw [← extraOf_strictMembers others, h, extraOf_strictMembers]
  have hobject : objectField others "struct_fields" = objectField members "struct_fields" := by
    rw [objectField, objectField, hget (by decide)]
  refine ⟨htext (by decide), htext (by decide), ?_, htext (by decide), ?_, ?_, ?_, ?_⟩
  · exact congrArg DataType.ofDocument (htext (by decide))
  · simp only [ofMembers, structFields, hobject]
  · simp only [ofMembers, hget (show "CustomInitValue" ∉ lenientKeys by decide)]
  · simp only [ofMembers, hextra]
  · simp only [ofMembers, hextra]

/-! ## Reading a record -/

/-- The seven other fields of a record hold values of their types, where they are present. -/
structure WellTyped (members : List (String × Json)) : Prop where
  texts : ∀ key ∈ ["Variable_Port_Name", "Source", "description", "DataType"],
    ∀ value, Entries.get? key members = some value → ∃ text, value = .string text
  customInitial : ∀ value, Entries.get? "CustomInitValue" members = some value →
    value = .null ∨ ∃ text, value = .string text
  isStruct : ∀ value, Entries.get? "is_struct" members = some value → ∃ b, value = .bool b
  fields : ∀ value, Entries.get? "struct_fields" members = some value →
    Fits RecordKind.rules (.dictionary (.record .structField false)) value

theorem WellTyped.congr (h : WellTyped members)
    (hsame : strictMembers others = strictMembers members) : WellTyped others where
  texts key hkey value hvalue := by
    have hstrict : ∀ key ∈ ["Variable_Port_Name", "Source", "description", "DataType"],
        key ∉ lenientKeys := by decide
    exact h.texts key hkey value (get?_congr hsame (hstrict key hkey) ▸ hvalue)
  customInitial value hvalue := by
    have hstrict : "CustomInitValue" ∉ lenientKeys := by decide
    exact h.customInitial value (get?_congr hsame hstrict ▸ hvalue)
  isStruct value hvalue := by
    have hstrict : "is_struct" ∉ lenientKeys := by decide
    exact h.isStruct value (get?_congr hsame hstrict ▸ hvalue)
  fields value hvalue := by
    have hstrict : "struct_fields" ∉ lenientKeys := by decide
    exact h.fields value (get?_congr hsame hstrict ▸ hvalue)

/-- A key of the record is one of the twelve, one of the seven, or unknown. -/
theorem shapeOf_cases (key : String) :
    RecordKind.rules.shapeOf .signal key = .anything ∨
    (key ∈ ["Variable_Port_Name", "Source", "description", "DataType"] ∧
      RecordKind.rules.shapeOf .signal key = RecordKind.plain) ∨
    key = "CustomInitValue" ∨ key = "is_struct" ∨ key = "struct_fields" := by
  by_cases hfield : key ∈ RecordKind.signal.fieldKeys
  · simp only [RecordKind.fieldKeys, RecordKind.fields, Entries.keys_cons, Entries.keys_nil,
      List.mem_cons, List.not_mem_nil, or_false] at hfield
    rcases hfield with rfl | rfl | rfl | rfl | rfl | rfl | rfl | rfl | rfl | rfl | rfl | rfl | rfl |
      rfl | rfl | rfl | rfl | rfl | rfl <;> first
      | exact Or.inl rfl
      | exact Or.inr (Or.inl ⟨by decide, rfl⟩)
      | simp
  · exact Or.inl (RecordKind.shapeOf_eq_anything hfield)

/-- Whatever stands in the twelve fields, the record has its shape. -/
theorem WellTyped.fits (h : WellTyped members) (hn : (Entries.keys members).Nodup) :
    Fits RecordKind.rules (.record .signal false) (.object members) := by
  refine membersFit_iff.mpr fun entry hentry => ?_
  obtain ⟨key, value⟩ := entry
  have hget : Entries.get? key members = some value := Entries.get?_of_mem hn hentry
  change Fits _ (RecordKind.rules.shapeOf .signal key) value
  rcases shapeOf_cases key with hany | ⟨hkey, htext⟩ | rfl | rfl | rfl
  · rw [hany]
    exact fits_anything value
  · obtain ⟨text, rfl⟩ := h.texts key hkey value hget
    rw [htext]
    trivial
  · rcases h.customInitial value hget with rfl | ⟨text, rfl⟩ <;> trivial
  · obtain ⟨b, rfl⟩ := h.isStruct value hget
    trivial
  · exact h.fields value hget

/-- A text spells an object with distinct keys. -/
structure Spelled (text : String) (members : List (String × Json)) : Prop where
  read : ∃ node, Node.read text = (node, none) ∧ node.Spells (.object members)
  wellFormed : (Json.object members).WellFormed

theorem ofText_of_spelled (htext : Spelled text members) (h : WellTyped members) :
    ofText text = .ok (ofMembers members) := by
  obtain ⟨node, hread, hspells⟩ := htext.read
  have hvalue := readAs_of_spells RecordKind.rules hread hspells htext.wellFormed
    (h.fits htext.wellFormed.1)
  rw [ofText, RecordKind.readText, hvalue]
  rfl

/-- Every text of an object whose seven other fields are absent or well typed is read as a signal,
whatever stands in the twelve fields. Each of these holds the value that its reader accepts, for a
number the integer itself if it has 32 bits, or else the default of a new signal; the unreadable values
are those that are present and not accepted, once each with their texts; and the rest of the signal is
the same for every other text that differs in these fields only. -/
theorem ofText_whatever_lenient (htext : Spelled text members) (h : WellTyped members) :
    (∃ signal, ofText text = .ok signal ∧
      (∀ field ∈ lenientFields, field.get signal =
        ((Entries.get? field.key members).bind field.accept).getD (field.get (new ""))) ∧
      signal.unreadable.entries = (lenientFields.filterMap fun field =>
        (Entries.get? field.key members).bind fun raw =>
          if (field.accept raw).isSome then none else some (field.key, FileValue.rawText raw)) ∧
      ∀ text' others, Spelled text' others → strictMembers others = strictMembers members →
        ∃ other, ofText text' = .ok other ∧ signal.SameStrict other) ∧
    ∀ n : Int, if 0 ≤ n ∧ n ≤ 4294967295 then
      ∃ word, number? (.number (.integer n)) = some word ∧ (word.toNat : Int) = n
    else number? (.number (.integer n)) = none := by
  refine ⟨⟨ofMembers members, ofText_of_spelled htext h, get_ofMembers members,
    unreadable_ofMembers members, ?_⟩, number?_integer⟩
  intro text' others htext' hsame
  exact ⟨ofMembers others, ofText_of_spelled htext' (h.congr hsame), sameStrict_ofMembers hsame⟩

/-- Of six values in these fields two are accepted; the port name and the flag stay as they are. -/
theorem ofText_whatever_lenient_mixed :
    let members : List (String × Json) :=
      [("Variable_Port_Name", .string "speed"), ("Memory Region", .null),
        ("Type", .string " Concurrent "), ("Notifiers", .array [.string "maybe"]),
        ("Timeout", .number (.integer 4294967296)), ("Periodicity", .number (.integer 20)),
        ("ASIL", .string ""), ("core_Windows_main", .bool true)]
    let text := (Json.object members).compact
    Spelled text members ∧ WellTyped members ∧
    ∃ signal, ofText text = .ok signal ∧ signal.timeout = 10 ∧ signal.periodicity = 20 ∧
      signal.unreadable.entries =
        [("Memory Region", "null"), ("Notifiers", "[\"maybe\"]"), ("Timeout", "4294967296"),
          ("ASIL", "")] := by
  intro members text
  have htext : Spelled text members :=
    ⟨read_write .compact (by decide), by decide, by simp [members, MembersWellFormed, WellFormed,
      AllWellFormed]⟩
  have htyped : WellTyped members := by
    refine ⟨?_, ?_, ?_, ?_⟩
    · intro key hkey value hvalue
      simp only [List.mem_cons, List.not_mem_nil, or_false] at hkey
      rcases hkey with rfl | rfl | rfl | rfl <;> simp [members, Entries.get?] at hvalue
      exact ⟨"speed", hvalue.symm⟩
    · intro value hvalue
      simp [members, Entries.get?] at hvalue
    · intro value hvalue
      simp [members, Entries.get?] at hvalue
    · intro value hvalue
      simp [members, Entries.get?] at hvalue
  refine ⟨htext, htyped, ?_⟩
  obtain ⟨signal, hread, hfields, hunreadable, _⟩ := (ofText_whatever_lenient htext htyped).1
  refine ⟨signal, hread, ?_, ?_, ?_⟩
  · have htimeout : signal.timeout = ((Entries.get? "Timeout" members).bind number?).getD 10 :=
      hfields lenientFields[8] (List.getElem_mem _)
    rw [htimeout]
    decide
  · have hperiod : signal.periodicity = ((Entries.get? "Periodicity" members).bind number?).getD 10 :=
      hfields lenientFields[9] (List.getElem_mem _)
    rw [hperiod]
    decide
  · rw [hunreadable]
    decide
end Signal

end SignalCatalog
