import SignalCatalog.Binary64.Reading
import SignalCatalog.Json.Printer
import SignalCatalog.Record.Kind
import SignalCatalog.Signal

/-!
# Signals in project files

A signal is a record of fields with fixed keys. Twelve of them take any value: one that cannot be
read is recorded as unreadable and the editor's default stands in its place. Destination marks are
boolean members whose key starts with `core_`; every other key is kept. `ofMembers` reads what
`toJson` writes.
-/

namespace SignalCatalog

/-- What a file says about a field. -/
inductive FileValue (α : Type)
  | missing
  | read (value : α)
  | unreadable (raw : Json)

namespace FileValue

variable {α : Type}

def getD (default : α) : FileValue α → α
  | read value => value
  | _ => default

/-- The text of a value that could not be read: a string itself, any other value in JSON. -/
def rawText : Json → String
  | .string text => text
  | other => other.compact

/-- The entry of an unreadable field in the list of such fields. -/
def note (key : String) : FileValue α → List (String × String)
  | unreadable raw => [(key, rawText raw)]
  | _ => []

/-- Looks up a field and reads it. -/
def lookUp (accept : Json → Option α) (members : List (String × Json)) (key : String) :
    FileValue α :=
  match Entries.get? key members with
  | none => missing
  | some raw =>
    match accept raw with
    | some value => read value
    | none => unreadable raw

end FileValue

namespace Json

/-- A member of a closed set, by its spelling in any case. -/
def choice? {α : Type} [Attribute α] (value : Json) : Option α :=
  value.stringValue?.bind fun text => Attribute.member? text

/-- The number of 32 bits that a double equals. -/
def word? (number : Binary64) : Option UInt32 :=
  number.whole?.bind fun n =>
    if 0 ≤ n ∧ n ≤ Text.maxWord32 then some (UInt32.ofNat n.toNat) else none

/-- A number of 32 bits, also with a point, or as text. -/
def number? : Json → Option UInt32
  | number n => word? n.toBinary64
  | string text => (Binary64.ofChars? (Text.trim text.toList)).bind word?
  | _ => none

/-- A boolean, a number that is not zero, or a word for yes or no. -/
def yes? : Json → Option Bool
  | bool b => some b
  | number n => some (!n.toBinary64.sameNumber (.zero false))
  | string text => flag? text
  | _ => none

end Json

namespace StructField

mutual

def toJson : StructField → Json
  | ⟨type, description, fields, extra⟩ =>
    .object ([("type", .string type.text), ("description", .string description)] ++
      (if fields.isEmpty then [] else [("fields", .object (membersOf fields))]) ++ extra.entries)

def membersOf : List (String × StructField) → List (String × Json)
  | [] => []
  | (name, field) :: rest => (name, field.toJson) :: membersOf rest

end

/-- Reads a member of a struct; `fuel` bounds the nesting. -/
def ofMembers : (fuel : Nat) → List (String × Json) → StructField
  | 0, _ => ⟨.default, "", [], .empty⟩
  | fuel + 1, members =>
    { type := DataType.ofDocument (Json.textField members "type" "")
      description := Json.textField members "description" ""
      fields := Entries.ofPairs ((Json.objectField members "fields").map fun (name, value) =>
        (name, ofMembers fuel value.members))
      extra := RecordKind.extraOf .structField members }

end StructField

namespace Json

mutual

/-- The number of levels of a value, at least one. -/
def levels : Json → Nat
  | array items => itemLevels items + 1
  | object members => memberLevels members + 1
  | _ => 1

def itemLevels : List Json → Nat
  | [] => 0
  | value :: rest => max value.levels (itemLevels rest)

def memberLevels : List (String × Json) → Nat
  | [] => 0
  | (_, value) :: rest => max value.levels (memberLevels rest)

end

end Json

namespace Signal

/-- Whether a member marks a destination. -/
def destinationMember? : String × Json → Option (String × Bool)
  | (key, .bool b) => if key.startsWith destinationMark then some (key, b) else none
  | _ => none

/-- The members of the file's struct fields. -/
def structFields (members : List (String × Json)) : List (String × StructField) :=
  Entries.ofPairs ((Json.objectField members "struct_fields").map fun (name, value) =>
    (name, StructField.ofMembers value.levels value.members))

/-- Reads the members of a signal's record. -/
def ofMembers (members : List (String × Json)) : Signal :=
  let defaults := new ""
  let rest := (RecordKind.extraOf .signal members).entries
  let memoryRegion := FileValue.lookUp Json.choice? members "Memory Region"
  let bufferCount := FileValue.lookUp Json.number? members FieldRange.bufferCount.field
  let accessOrder := FileValue.lookUp Json.choice? members "Type"
  let initial := FileValue.lookUp Json.choice? members "InitValue"
  let notifiers := FileValue.lookUp Json.yes? members "Notifiers"
  let transport := FileValue.lookUp Json.choice? members "Impl_Approach"
  let getObjRef := FileValue.lookUp Json.yes? members "GetObjRef"
  let sharedBuffers := FileValue.lookUp Json.number? members FieldRange.sharedBuffers.field
  let timeout := FileValue.lookUp Json.number? members FieldRange.timeout.field
  let periodicity := FileValue.lookUp Json.number? members FieldRange.periodicity.field
  let safetyLevel := FileValue.lookUp Json.choice? members "ASIL"
  let checksum := FileValue.lookUp Json.choice? members "Checksum"
  { portName := Json.textField members "Variable_Port_Name" ""
    memoryRegion := memoryRegion.getD defaults.memoryRegion
    bufferCount := bufferCount.getD defaults.bufferCount
    accessOrder := accessOrder.getD defaults.accessOrder
    initial := initial.getD defaults.initial
    notifiers := notifiers.getD defaults.notifiers
    source := Json.textField members "Source" ""
    transport := transport.getD defaults.transport
    getObjRef := getObjRef.getD defaults.getObjRef
    sharedBuffers := sharedBuffers.getD defaults.sharedBuffers
    timeout := timeout.getD defaults.timeout
    periodicity := periodicity.getD defaults.periodicity
    safetyLevel := safetyLevel.getD defaults.safetyLevel
    checksum := checksum.getD defaults.checksum
    dataType := DataType.ofDocument (Json.textField members "DataType" "")
    description := Json.textField members "description" ""
    fields := structFields members
    customInitial := (Entries.get? "CustomInitValue" members).bind Json.stringValue?
    destinations := .ofPairs (rest.filterMap destinationMember?)
    extra := .ofPairs (rest.filter fun member => (destinationMember? member).isNone)
    unreadable := .ofPairs
      (memoryRegion.note "Memory Region" ++ bufferCount.note FieldRange.bufferCount.field ++
        accessOrder.note "Type" ++ initial.note "InitValue" ++ notifiers.note "Notifiers" ++
        transport.note "Impl_Approach" ++ getObjRef.note "GetObjRef" ++
        sharedBuffers.note FieldRange.sharedBuffers.field ++
        timeout.note FieldRange.timeout.field ++ periodicity.note FieldRange.periodicity.field ++
        safetyLevel.note "ASIL" ++ checksum.note "Checksum") }

def word (spelling : String) : Json := .string spelling

def count (number : UInt32) : Json := .number (.integer number.toNat)

/-- The destination marks followed by the unknown keys; a key of both keeps its first place. -/
def rest (signal : Signal) : List (String × Json) :=
  Entries.ofPairs
    (signal.destinations.entries.map (fun (key, on) => (key, .bool on)) ++ signal.extra.entries)

/-- The fields of a signal's record. What was unreadable is not written. -/
def fieldMembers (signal : Signal) : List (String × Json) :=
  [("Variable_Port_Name", .string signal.portName),
    ("Memory Region", word (Attribute.spelling signal.memoryRegion)),
    ("Buffer count_IPC", count signal.bufferCount),
    ("Type", word (Attribute.spelling signal.accessOrder)),
    ("InitValue", word (Attribute.spelling signal.initial)),
    ("Notifiers", .bool signal.notifiers),
    ("Source", .string signal.source),
    ("Impl_Approach", word (Attribute.spelling signal.transport)),
    ("GetObjRef", .bool signal.getObjRef),
    ("SM_Buff_Count", count signal.sharedBuffers),
    ("Timeout", count signal.timeout),
    ("Periodicity", count signal.periodicity),
    ("ASIL", word (Attribute.spelling signal.safetyLevel)),
    ("Checksum", word (Attribute.spelling signal.checksum)),
    ("DataType", .string signal.dataType.text),
    ("description", .string signal.description),
    ("is_struct", .bool signal.isStruct),
    ("struct_fields", .object (StructField.membersOf signal.fields))] ++
  (match signal.customInitial with
    | some value => [("CustomInitValue", .string value)]
    | none => [])

/-- The members of a signal's record: its fields, then all others. -/
def toMembers (signal : Signal) : List (String × Json) := signal.fieldMembers ++ signal.rest

def toJson (signal : Signal) : Json := .object signal.toMembers

/-- Reads a signal's record from its text. -/
def ofText (text : String) : Except Json.Fault Signal :=
  (RecordKind.readText .signal text).map fun value => ofMembers value.members

end Signal

end SignalCatalog
