import SignalCatalog.Proofs.Json.Places
import SignalCatalog.Proofs.Record.Saving

/-!
# Unknown keys are never lost

Loading a project file and saving the project keeps every key that the record around it does not
declare, at its place and with its value; of a repeated key this is the last value. Each record of
the file preserves such keys of its own and of the records in its fields. In most records they are
collected as they stand. A signal takes the boolean ones with the mark of destinations apart, and
writes them before the others; a core that is a plain string has none.
-/

namespace SignalCatalog

open Json

namespace Json

theorem levels_le_memberLevels {members : List (String × Json)} {entry : String × Json}
    (h : entry ∈ members) : entry.2.levels ≤ memberLevels members := by
  induction members with
  | nil => simp at h
  | cons first rest ih =>
    rcases List.mem_cons.mp h with rfl | h
    · exact Nat.le_max_left _ _
    · exact Nat.le_trans (ih h) (Nat.le_max_right _ _)

theorem memberLevels_lt_levels (value : Json) : memberLevels value.members < value.levels := by
  cases value <;> simp [members, levels, memberLevels]

end Json

namespace RecordKind

variable {kind : RecordKind} {value : Json} {front back : List (String × Json)}

/-- The fields of a record with records in them. -/
def recordFields (kind : RecordKind) : List (String × Json.Shape RecordKind) :=
  kind.fields.filter fun field => field.2.holdsRecords

/-- A record preserves what is unknown if it keeps its own unknown members behind its fields, and
its fields with records in them preserve theirs. -/
theorem preserves_record {orNull : Bool}
    (hfront : ∀ key ∈ Entries.keys front, key ∈ kind.fieldKeys)
    (hback : ∀ key, key ∉ kind.fieldKeys → ∀ inner, value.member? key = some inner →
      Entries.get? key back = some inner)
    (hfields : ∀ field ∈ kind.recordFields, ∀ inner, value.member? field.1 = some inner →
      Preserves rules field.2 inner (((object (front ++ back)).member? field.1).getD .null)) :
    Preserves rules (.record kind orNull) value (.object (front ++ back)) := by
  apply preserves_of_members
  · intro own hown key hkey inner hinner
    rw [← Option.some.inj hown] at hkey
    have hnone : Entries.get? key front = none :=
      Entries.get?_eq_none_iff.mpr fun hmem => hkey (hfront key hmem)
    rw [member?, members, Entries.get?_append, hnone, Option.none_or]
    exact hback key hkey inner hinner
  · intro key shape hshape inner hinner
    cases hholds : shape.holdsRecords with
    | false => exact preserves_of_holdsNone hholds
    | true =>
      have hfield : (key, shape) ∈ kind.recordFields :=
        List.mem_filter.mpr ⟨Entries.mem_of_get? hshape, hholds⟩
      exact hfields (key, shape) hfield inner hinner

/-- The same for a record that collects its unknown members as they stand. -/
theorem preserves_extraOf {orNull : Bool} (hw : value.WellFormed)
    (hfront : ∀ key ∈ Entries.keys front, key ∈ kind.fieldKeys)
    (hfields : ∀ field ∈ kind.recordFields, ∀ inner, value.member? field.1 = some inner →
      Preserves rules field.2 inner
        (((object (front ++ (kind.extraOf value.members).entries)).member? field.1).getD .null)) :
    Preserves rules (.record kind orNull) value
      (.object (front ++ (kind.extraOf value.members).entries)) := by
  apply preserves_record hfront _ hfields
  intro key hkey inner hinner
  rw [get?_extraOf hw.nodup_members hkey]
  exact hinner

/-- A record without records in its fields. -/
theorem preserves_flat {orNull : Bool} (hw : value.WellFormed) (hflat : kind.recordFields = [])
    (hfront : ∀ key ∈ Entries.keys front, key ∈ kind.fieldKeys) :
    Preserves rules (.record kind orNull) value
      (.object (front ++ (kind.extraOf value.members).entries)) :=
  preserves_extraOf hw hfront (by simp [hflat])

theorem preserves_recordOrString {orNull : Bool} {name : String} {written : Json}
    (h : Preserves rules (.record kind orNull) value written) :
    Preserves rules (.recordOrString kind name) value written := by
  intro path own key inner hown
  cases path with
  | nil => exact h [] own key inner hown
  | cons first path => exact h (first :: path) own key inner hown

/-- A dictionary that is collected and written value by value preserves what each value does. -/
theorem preserves_collected {α : Type} {shape : Json.Shape RecordKind} {written : Json}
    (hw : value.WellFormed) (take : Json → α) (write : α → Json)
    (hmembers : written.members = ((OrderedMap.ofPairs (value.members.map fun entry =>
      (entry.1, take entry.2))).mapValues fun _ item => write item).entries)
    (h : ∀ entry ∈ value.members, entry.2.WellFormed →
      Preserves rules shape entry.2 (write (take entry.2))) :
    Preserves rules (.dictionary shape) value written := by
  apply preserves_dictionary (f := fun _ inner => write (take inner))
  · rw [hmembers, OrderedMap.entries_collected hw.nodup_members]
  · exact fun entry he => h entry he (membersWellFormed_iff.mp hw.members entry he)

/-- Where the records of a project file stand. -/
inductive Stands : RecordKind → List String → Prop
  | project : Stands .project []
  | metadata : Stands .metadata ["metadata"]
  | core (soc name : String) : Stands .core ["core_info", soc, name]
  | signal (name : String) : Stands .signal ["signals", name]
  | structField {path : List String} (h : Stands .signal path) (name : String) :
    Stands .structField (path ++ ["struct_fields", name])
  | nested {path : List String} (h : Stands .structField path) (name : String) :
    Stands .structField (path ++ ["fields", name])
  | deployment : Stands .deployment ["project_specific"]
  | paths : Stands .paths ["project_specific", "paths"]
  | interfaces : Stands .interfaces ["project_specific", "api_config"]
  | sharedInterface : Stands .sharedInterface ["project_specific", "api_config", "smp"]
  | coreInterface (name : String) :
    Stands .coreInterface ["project_specific", "api_config", "multicore", name]

theorem Stands.recordAt? {path : List String} (h : kind.Stands path) :
    (Json.Shape.record .project false).recordAt? rules path = some kind := by
  induction h with
  | structField _ name ih => exact Shape.recordAt?_append ih "struct_fields" [name]
  | nested _ name ih => exact Shape.recordAt?_append ih "fields" [name]
  | _ => rfl

end RecordKind

open RecordKind

section Records

variable {value : Json} {orNull : Bool}

theorem Metadata.preserves (today : Date) (hw : value.WellFormed) :
    Preserves rules (.record .metadata orNull) value
      (ofMembers today value.members).toJson :=
  preserves_flat hw rfl (by simp [fieldKeys, fields])

theorem Core.preserves {name : String} (hw : value.WellFormed) :
    Preserves rules (.recordOrString .core name) value (ofJson value).toJson := by
  have hrecord : Preserves rules (.record .core false) value (ofMembers value.members).toJson :=
    preserves_flat hw rfl (by simp [fieldKeys, fields])
  cases value with
  | string description => exact preserves_of_members_nil rfl
  | _ => exact preserves_recordOrString hrecord

theorem Paths.preserves (hw : value.WellFormed) :
    Preserves rules (.record .paths orNull) value (ofMembers value.members).toJson :=
  preserves_flat hw rfl (by simp [fieldKeys, fields])

theorem SharedInterface.preserves (hw : value.WellFormed) :
    Preserves rules (.record .sharedInterface orNull) value (ofMembers value.members).toJson :=
  preserves_flat hw rfl (by simp [fieldKeys, fields, lockFields, LockInterface.toMembers])

theorem CoreInterface.preserves (hw : value.WellFormed) :
    Preserves rules (.record .coreInterface orNull) value (ofMembers value.members).toJson :=
  preserves_flat hw rfl (by simp [fieldKeys, fields, lockFields, LockInterface.toMembers])

theorem Interfaces.preserves (hw : value.WellFormed) :
    Preserves rules (.record .interfaces orNull) value (ofMembers value.members).toJson := by
  have hstorable := storable_ofMembers hw.members
  have hshared : ∀ inner, value.member? "smp" = some inner →
      Preserves rules (.record .sharedInterface true) inner
        (((ofMembers value.members).toJson.member? "smp").getD .null) := by
    intro inner hinner
    cases inner with
    | object members =>
      have hread : (ofMembers value.members).shared = some (.ofMembers members) := by
        rw [ofMembers, ← member?, hinner]
      rw [member?, hstorable.get?_shared, hread]
      exact SharedInterface.preserves (wellFormed_of_get? hw.members hinner)
    | _ => exact preserves_of_members_nil rfl
  have hcores : ∀ inner, value.member? "multicore" = some inner →
      Preserves rules (.dictionary (.record .coreInterface false)) inner
        (((ofMembers value.members).toJson.member? "multicore").getD .null) := by
    intro inner hinner
    apply preserves_collected (wellFormed_of_get? hw.members hinner)
      (fun core => CoreInterface.ofMembers core.members) CoreInterface.toJson
    · rw [members_getD_member?, hstorable.objectField_perCore, ofMembers,
        objectField_of_member? hinner]
    · exact fun _ _ hcore => CoreInterface.preserves hcore
  apply preserves_extraOf hw (keys_front_subset _)
  intro field hfield
  rcases List.mem_pair.mp hfield with rfl | rfl
  · exact hshared
  · exact hcores

theorem Deployment.preserves (hw : value.WellFormed) :
    Preserves rules (.record .deployment orNull) value (ofMembers value.members).toJson := by
  have hpaths : ∀ inner, value.member? "paths" = some inner →
      Preserves rules (.record .paths false) inner (ofMembers value.members).paths.toJson := by
    intro inner hinner
    rw [ofMembers, objectField_of_member? hinner]
    exact Paths.preserves (wellFormed_of_get? hw.members hinner)
  have hinterfaces : ∀ inner, value.member? "api_config" = some inner →
      Preserves rules (.record .interfaces false) inner
        (ofMembers value.members).interfaces.toJson := by
    intro inner hinner
    rw [ofMembers, objectField_of_member? hinner]
    exact Interfaces.preserves (wellFormed_of_get? hw.members hinner)
  apply preserves_extraOf hw
  · simp [fieldKeys, fields]
  · intro field hfield
    rcases List.mem_pair.mp hfield with rfl | rfl
    · exact hpaths
    · exact hinterfaces

end Records

namespace StructField

theorem membersOf_eq_map (fields : List (String × StructField)) :
    membersOf fields = fields.map fun entry => (entry.1, entry.2.toJson) := by
  induction fields with
  | nil => rfl
  | cons entry rest ih => simp [membersOf, ih]

theorem objectField_toJson {field : StructField} (h : field.Storable) :
    objectField field.toJson.members "fields" = membersOf field.fields := by
  obtain ⟨type, description, fields, extra⟩ := field
  have hnone := h.2.2.2.get?_eq_none (by decide : "fields" ∈ RecordKind.structField.fieldKeys)
  cases fields <;> simp [toJson, members, objectField, Entries.get?, hnone, membersOf]

/-- By induction on the fuel, which has to cover the levels of the value: with less, the inner
members would be cut off. -/
theorem preserves (fuel : Nat) {value : Json} (hw : value.WellFormed) (hfuel : value.levels ≤ fuel) :
    Preserves rules (.record .structField false) value (ofMembers fuel value.members).toJson := by
  induction fuel generalizing value with
  | zero =>
    have hlevels := memberLevels_lt_levels value
    omega
  | succ fuel ih =>
    have hnested : ∀ inner, value.member? "fields" = some inner →
        Preserves rules (.dictionary (.record .structField false)) inner
          (((ofMembers (fuel + 1) value.members).toJson.member? "fields").getD .null) := by
      intro inner hinner
      have hlevels : inner.levels ≤ memberLevels value.members :=
        levels_le_memberLevels (Entries.mem_of_get? hinner)
      apply preserves_collected (wellFormed_of_get? hw.members hinner)
        (fun field => ofMembers fuel field.members) toJson
      · rw [members_getD_member?, objectField_toJson (storable_ofMembers _ hw.members),
          membersOf_eq_map, ofMembers, objectField_of_member? hinner]
        rfl
      · intro entry he hentry
        have hentryLevels := levels_le_memberLevels he
        have hinnerLevels := memberLevels_lt_levels inner
        have hvalueLevels := memberLevels_lt_levels value
        exact ih hentry (by omega)
    rw [ofMembers, toJson] at hnested ⊢
    apply preserves_extraOf hw
    · split <;> simp [fieldKeys, RecordKind.fields]
    · intro field hfield
      rw [List.mem_singleton.mp hfield]
      exact hnested

end StructField

namespace Signal

/-- An unknown member of a signal is written again, as a flag or as it stands. -/
theorem get?_rest_ofMembers {value : Json} (hw : value.WellFormed) {key : String}
    (hkey : key ∉ RecordKind.signal.fieldKeys) {inner : Json} (h : value.member? key = some inner) :
    Entries.get? key (ofMembers value.members).rest = some inner := by
  have hstorable := storable_ofMembers hw.members
  have hmem : (key, inner) ∈ (RecordKind.signal.extraOf value.members).entries := by
    apply Entries.mem_of_get?
    rw [get?_extraOf hw.nodup_members hkey]
    exact h
  have hunique : ∀ other ∈ (RecordKind.signal.extraOf value.members).entries, other.1 = key →
      other = (key, inner) :=
    fun other ho => Entries.eq_of_mem (RecordKind.signal.extraOf value.members).nodup ho hmem
  apply Entries.get?_of_mem (ofMembers value.members).others.nodup
  change (key, inner) ∈ (ofMembers value.members).rest
  rw [hstorable.rest_eq, List.mem_append]
  cases hflag : destinationMember? (key, inner) with
  | some flag =>
    obtain ⟨hmember, -⟩ := destinationMember?_eq_some hflag
    refine .inl (List.mem_map.mpr ⟨flag, ?_, hmember.symm⟩)
    apply Entries.mem_ofPairs_of_unique (List.mem_filterMap.mpr ⟨_, hmem, hflag⟩)
    intro other ho hsame
    obtain ⟨member, hm, hother⟩ := List.mem_filterMap.mp ho
    obtain ⟨rfl, -⟩ := destinationMember?_eq_some hother
    have heq := hunique _ hm (hsame.trans (congrArg Prod.fst hmember).symm)
    rw [heq, hflag] at hother
    exact (Option.some.inj hother).symm
  | none =>
    refine .inr (Entries.mem_ofPairs_of_unique (List.mem_filter.mpr ⟨hmem, by simp [hflag]⟩) ?_)
    exact fun other ho => hunique other (List.mem_filter.mp ho).1

theorem preserves {value : Json} (hw : value.WellFormed) :
    Preserves rules (.record .signal false) value (ofMembers value.members).toJson := by
  have hstruct : ∀ inner, value.member? "struct_fields" = some inner →
      Preserves rules (.dictionary (.record .structField false)) inner
        (.object (StructField.membersOf (structFields value.members))) := by
    intro inner hinner
    apply preserves_collected (wellFormed_of_get? hw.members hinner)
      (fun field => StructField.ofMembers field.levels field.members) StructField.toJson
    · rw [members, StructField.membersOf_eq_map, structFields, objectField_of_member? hinner]
      rfl
    · exact fun _ _ hfield => StructField.preserves _ hfield (Nat.le_refl _)
  apply preserves_record (keys_fieldMembers_subset _)
  · exact fun key hkey inner hinner => get?_rest_ofMembers hw hkey hinner
  · intro field hfield
    rw [List.mem_singleton.mp hfield]
    exact hstruct

end Signal

namespace Project

/-- The repair of the lists on loading touches no record. -/
theorem preserves (today : Date) {value : Json} (hw : value.WellFormed) :
    Preserves rules (.record .project false) value
      (ofMembers today value.members).normalize.toJson := by
  have hinnerWell : ∀ {key inner}, value.member? key = some inner → inner.WellFormed :=
    fun h => wellFormed_of_get? hw.members h
  have hmetadata : ∀ inner, value.member? "metadata" = some inner →
      Preserves rules (.record .metadata false) inner
        (ofMembers today value.members).metadata.toJson := by
    intro inner hinner
    have hread : (ofMembers today value.members).metadata = .ofMembers today inner.members := by
      rw [ofMembers, ← member?, hinner]
    rw [hread]
    exact Metadata.preserves today (hinnerWell hinner)
  have hcores : ∀ inner, value.member? "core_info" = some inner →
      Preserves rules (.dictionary (.dictionary (.recordOrString .core "CoreEntry"))) inner
        (.object ((ofMembers today value.members).cores.mapValues fun _ cores =>
          Json.object (cores.mapValues fun _ core => core.toJson).entries).entries) := by
    intro inner hinner
    apply preserves_collected (hinnerWell hinner)
      (fun cores => OrderedMap.ofPairs
        (cores.members.map fun entry => (entry.1, Core.ofJson entry.2)))
      fun cores => .object (cores.mapValues fun _ core => core.toJson).entries
    · rw [ofMembers, objectField_of_member? hinner]
      rfl
    · intro soc _ hsoc
      apply preserves_collected hsoc Core.ofJson Core.toJson rfl
      exact fun _ _ hcore => Core.preserves hcore
  have hsignals : ∀ inner, value.member? "signals" = some inner →
      Preserves rules (.dictionary (.record .signal false)) inner
        (.object ((ofMembers today value.members).signals.mapValues
          fun _ signal => signal.toJson).entries) := by
    intro inner hinner
    apply preserves_collected (hinnerWell hinner) (fun signal => Signal.ofMembers signal.members)
      Signal.toJson
    · rw [ofMembers, objectField_of_member? hinner]
      rfl
    · exact fun _ _ hsignal => Signal.preserves hsignal
  have hdeployment : ∀ inner, value.member? "project_specific" = some inner →
      Preserves rules (.record .deployment false) inner
        (ofMembers today value.members).deployment.toJson := by
    intro inner hinner
    rw [ofMembers, objectField_of_member? hinner]
    exact Deployment.preserves (hinnerWell hinner)
  apply preserves_extraOf hw
  · simp [fieldKeys, fields]
  · intro field hfield
    have hlisted : field ∈ [("metadata", .record .metadata false),
        ("core_info", .dictionary (.dictionary (.recordOrString .core "CoreEntry"))),
        ("signals", .dictionary (.record .signal false)),
        ("project_specific", .record .deployment false)] := hfield
    simp only [List.mem_cons, List.not_mem_nil, or_false] at hlisted
    rcases hlisted with rfl | rfl | rfl | rfl
    · exact hmetadata
    · exact hcores
    · exact hsignals
    · exact hdeployment

/-- What stands in a project file under a key that the record around it does not declare stands at
the same place in the record of the loaded project, and in the text to which this is saved if the
reader takes that back. -/
theorem unknown_kept {today : Date} {text : String} {project : Project}
    (h : load today text = .ok project) {kind : RecordKind} {path : List String}
    (hplace : kind.Stands path) {key : String} (hkey : key ∉ kind.fieldKeys) {node : Node}
    (hnode : (Node.read text).1.at? (path ++ [key]) = some node) :
    project.toJson.at? (path ++ [key]) = some node.value ∧
      (project.toJson.ReadsBack → ∃ document, parse project.save = .ok document ∧
        document.at? (path ++ [key]) = some node.value) := by
  have hkept : project.toJson.at? (path ++ [key]) = some node.value := by
    unfold load ofText readText at h
    cases hread : readAs rules (.record .project false) text with
    | error fault => simp [hread, Except.map] at h
    | ok value =>
      simp only [hread, Except.map, Except.ok.injEq] at h
      have hvalue : value.at? (path ++ [key]) = some node.value := by
        rw [← value_of_readAs hread, Node.at?_value, hnode, Option.map_some]
      rw [← h]
      exact preserves today (wellFormed_of_readAs hread) path kind key node.value hplace.recordAt?
        hkey hvalue
  refine ⟨hkept, fun hback => ⟨project.toJson, ?_, hkept⟩⟩
  exact parse_indented (storable_of_load h).1.suits_toJson.1 hback

/-- A signal with unknown keys, also in a member of its struct: a flag, a key with the mark of flags
that is none, one that is called like a part of the signal, and a repeated one. -/
def strangeSignal : List (String × Json) :=
  [("unit", .string "mph"), ("core_Windows_Main", .bool true), ("core_note", .string "old"),
    ("unreadable", .string "no"), ("unit", .string "km/h"),
    ("struct_fields", .object [("x", .object [("bits", .string "12")])])]

def strangeText : String :=
  (Json.object [("signals", .object [("speed", .object strangeSignal)])]).compact

/-- The unknown keys of that text, each behind the path of its record, with their values in compact
form. -/
def strangeMembers : List (RecordKind × List String × String × String) :=
  [(.signal, ["signals", "speed"], "unit", "\"km/h\""),
    (.signal, ["signals", "speed"], "core_Windows_Main", "true"),
    (.signal, ["signals", "speed"], "core_note", "\"old\""),
    (.signal, ["signals", "speed"], "unreadable", "\"no\""),
    (.structField, ["signals", "speed", "struct_fields", "x"], "bits", "\"12\"")]

theorem exists_of_toOption_any {ε α : Type} {result : Except ε α} {p : α → Bool}
    (h : result.toOption.any p = true) : ∃ value, result = .ok value ∧ p value = true := by
  cases result with
  | error _ => simp [Except.toOption] at h
  | ok value => exact ⟨value, rfl, by simpa [Except.toOption] using h⟩

theorem unknown_kept_strangeText : ∃ project, load .epoch strangeText = .ok project ∧
    project.toJson.ReadsBack ∧
    ∀ member ∈ strangeMembers, ∃ document value, parse project.save = .ok document ∧
      document.at? (member.2.1 ++ [member.2.2.1]) = some value ∧ value.compact = member.2.2.2 := by
  have hloads : (load .epoch strangeText).toOption.any
      (fun project => decide project.toJson.ReadsBack) = true := by
    rw [load, ofText, readText, readAs, Node.read, strangeText, compact, String.toList_ofList]
    decide +kernel
  have hread : ∀ member ∈ strangeMembers,
      ((Node.read strangeText).1.at? (member.2.1 ++ [member.2.2.1])).map
        (fun node => node.value.compact) = some member.2.2.2 := by
    rw [Node.read, strangeText, compact, String.toList_ofList]
    decide +kernel
  have hstands : ∀ member ∈ strangeMembers, member.1.Stands member.2.1 := by
    simp only [strangeMembers, List.forall_mem_cons]
    have hsignal : RecordKind.signal.Stands ["signals", "speed"] := .signal "speed"
    exact ⟨hsignal, hsignal, hsignal, hsignal, .structField hsignal "x", by simp⟩
  have hkeys : ∀ member ∈ strangeMembers, member.2.2.1 ∉ member.1.fieldKeys := by decide
  obtain ⟨project, hload, hback⟩ := exists_of_toOption_any hloads
  rw [decide_eq_true_iff] at hback
  refine ⟨project, hload, hback, ?_⟩
  intro member hmember
  obtain ⟨node, hnode, hvalue⟩ := Option.map_eq_some_iff.mp (hread member hmember)
  obtain ⟨document, hparse, hat⟩ :=
    (unknown_kept hload (hstands member hmember) (hkeys member hmember) hnode).2 hback
  exact ⟨document, node.value, hparse, hat, hvalue⟩

end Project

end SignalCatalog
