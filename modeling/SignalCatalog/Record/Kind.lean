import SignalCatalog.Json.Shape

/-!
# The records of a project file

The kinds of records, their names in messages, and the fields of each with their shapes. Every other
key of a record is kept as it is.
-/

namespace SignalCatalog

inductive RecordKind
  | project
  | metadata
  | core
  | signal
  | structField
  | paths
  | sharedInterface
  | coreInterface
  | interfaces
  | deployment
deriving DecidableEq, Repr

namespace RecordKind

open Json.Shape

def title : RecordKind → String
  | project => "Project"
  | metadata => "Metadata"
  | core => "CoreRecord"
  | signal => "SignalRecord"
  | structField => "StructField"
  | paths => "Paths"
  | sharedInterface => "SmpApi"
  | coreInterface => "CoreApi"
  | interfaces => "ApiConfig"
  | deployment => "ProjectSpecific"

def plain : Json.Shape RecordKind := string false

/-- The fields of a lock interface. -/
def lockFields : List (String × Json.Shape RecordKind) :=
  [("spinlock_api", plain), ("spinunlock_api", plain), ("spinlock_header", plain),
    ("semaphore_lock_api", plain), ("semaphore_unlock_api", plain), ("semaphore_header", plain)]

def fields : RecordKind → List (String × Json.Shape RecordKind)
  | project =>
    [("metadata", record .metadata false), ("soc_type", plain), ("build_type", plain),
      ("soc_list", list plain), ("build_list", list plain),
      ("core_info", dictionary (dictionary (recordOrString .core "CoreEntry"))),
      ("signals", dictionary (record .signal false)), ("selected_board", plain),
      ("board_options", list plain), ("project_specific", record .deployment false),
      ("script_paths", dictionary plain), ("export_sheet_name", plain)]
  | metadata => [("version", text), ("date", anything), ("editor", text), ("description", text)]
  | core =>
    [("description", plain), ("is_master", boolean), ("is_qnx", boolean),
      ("is_autosar", boolean), ("is_sim", boolean), ("os", plain), ("soc_family", plain)]
  | signal =>
    [("Variable_Port_Name", plain), ("Memory Region", anything), ("Buffer count_IPC", anything),
      ("Type", anything), ("InitValue", anything), ("Notifiers", anything), ("Source", plain),
      ("Impl_Approach", anything), ("GetObjRef", anything), ("SM_Buff_Count", anything),
      ("Timeout", anything), ("Periodicity", anything), ("ASIL", anything),
      ("Checksum", anything), ("DataType", plain), ("description", plain),
      ("is_struct", boolean), ("struct_fields", dictionary (record .structField false)),
      ("CustomInitValue", string true)]
  | structField =>
    [("type", plain), ("description", plain),
      ("fields", dictionary (record .structField false))]
  | paths => [("output_path", plain), ("script_path", plain)]
  | sharedInterface => lockFields ++ [("get_core_id_api", plain), ("get_core_id_header", plain)]
  | coreInterface => lockFields
  | interfaces =>
    [("smp", record .sharedInterface true), ("multicore", dictionary (record .coreInterface false))]
  | deployment =>
    [("paths", record .paths false), ("api_config", record .interfaces false),
      ("smp_config", dictionary anything)]

/-- The keys of the fields of a record. -/
def fieldKeys (kind : RecordKind) : List String := Entries.keys kind.fields

/-- The members of a record that are no fields. -/
def extraOf (kind : RecordKind) (members : List (String × Json)) : OrderedMap Json :=
  .ofPairs (members.filter fun member => member.1 ∉ kind.fieldKeys)

/-- The rules of project files. -/
def rules : Json.Records RecordKind := ⟨title, fields⟩

/-- Reads a text as a record of a kind. -/
def readText (kind : RecordKind) (text : String) : Except Json.Fault Json :=
  Json.readAs rules (record kind false) text

end RecordKind

namespace Json

/-- The text of a field, or a default where the field is missing or holds another value. -/
def textField (members : List (String × Json)) (key default : String) : String :=
  ((Entries.get? key members).bind stringValue?).getD default

def boolField (members : List (String × Json)) (key : String) : Bool :=
  ((Entries.get? key members).bind boolValue?).getD false

/-- The texts of a list. -/
def textItems (value : Option Json) : List String :=
  match value with
  | some (array items) => items.filterMap stringValue?
  | _ => []

/-- The members of a field that holds an object. -/
def objectField (members : List (String × Json)) (key : String) : List (String × Json) :=
  ((Entries.get? key members).map Json.members).getD []

end Json

end SignalCatalog
