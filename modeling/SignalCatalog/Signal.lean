import SignalCatalog.Core
import SignalCatalog.DataType
import SignalCatalog.Signal.Range
import SignalCatalog.Violation

/-!
# Signals

One entry of the catalog: a value that one core writes and others read. `rangeViolations` and
`structViolations` report what is wrong with a signal alone; whether its source exists is a question
to the project.
-/

namespace SignalCatalog

structure Signal where
  portName : String
  memoryRegion : MemoryRegion
  bufferCount : UInt32
  accessOrder : AccessOrder
  initial : Initial
  notifiers : Bool
  /-- Empty, or the identifier of a core. -/
  source : String
  transport : Transport
  getObjRef : Bool
  sharedBuffers : UInt32
  timeout : UInt32
  periodicity : UInt32
  safetyLevel : SafetyLevel
  checksum : Checksum
  dataType : DataType
  description : String
  fields : List (String × StructField)
  /-- The initial value in code, used when `initial` is `custom`. -/
  customInitial : Option String
  /-- Whether a core is a destination, by destination key. -/
  destinations : OrderedMap Bool
  extra : OrderedMap Json
  /-- The texts of values in the file that could not be read, by file key. -/
  unreadable : OrderedMap String

namespace Signal

/-- A signal as the editor creates it. -/
def new (name : String) : Signal where
  portName := name
  memoryRegion := .ddr
  bufferCount := 1
  accessOrder := .concurrent
  initial := .zeroMemory
  notifiers := false
  source := ""
  transport := .sharedMemory
  getObjRef := false
  sharedBuffers := 1
  timeout := 10
  periodicity := 10
  safetyLevel := .qm
  checksum := .additive
  dataType := .default
  description := "New signal"
  fields := []
  customInitial := none
  destinations := .empty
  extra := .empty
  unreadable := .empty

instance : Inhabited Signal := ⟨new ""⟩

def isStruct (signal : Signal) : Bool := signal.dataType.isStruct

/-- The core that the source names, if it is not blank and has the form of an identifier. -/
def sourceId? (signal : Signal) : Option CoreId :=
  if Text.blank signal.source then none else CoreId.ofText? signal.source

def isDestination (signal : Signal) (id : String) : Bool :=
  (signal.destinations.get? (destinationKey id)).getD false

/-- Marks a core as a destination, or takes the mark away. -/
def setDestination (signal : Signal) (id : String) (enabled : Bool) : Signal :=
  { signal with destinations := signal.destinations.insert (destinationKey id) enabled }

/-- The initial value in generated code; nothing if a custom value is wanted and none is given. -/
def initialCode? (signal : Signal) : Option String :=
  match signal.initial with
  | .zeroMemory => some "0"
  | .custom =>
    signal.customInitial.bind fun value =>
      let value := Text.trimmed value
      if value.isEmpty then none else some value

def rangedFields (signal : Signal) : List (FieldRange × UInt32) :=
  [(.bufferCount, signal.bufferCount), (.sharedBuffers, signal.sharedBuffers),
    (.timeout, signal.timeout), (.periodicity, signal.periodicity)]

/-- The numbers outside their ranges. -/
def rangeViolations (signal : Signal) (name : String) : List Violation :=
  signal.rangedFields.filterMap fun (range, value) =>
    if range.contains value then none
    else some (.outOfRange name range.field value range.min range.max range.step)

def depth (signal : Signal) : Nat := StructField.depths signal.fields

/-- Members without a struct, a struct without members, and too many levels of members. -/
def structViolations (signal : Signal) (name : String) : List Violation :=
  (match signal.isStruct, signal.fields.isEmpty with
    | false, false => [.membersWithoutStruct name]
    | true, true => [.structWithoutMembers name]
    | _, _ => []) ++
  (if StructField.maxDepth < signal.depth then
    [.structTooDeep name signal.depth StructField.maxDepth] else [])

end Signal

end SignalCatalog
