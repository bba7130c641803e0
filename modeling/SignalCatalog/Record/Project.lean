import SignalCatalog.Calendar.Reading
import SignalCatalog.Project
import SignalCatalog.Record.Signal

/-!
# Project files

The record of a whole project. A missing or unreadable date is today's. Cores of older files are
plain strings, the descriptions of slave cores. `Project.load` reads a file and repairs its lists;
`Project.save` writes it, indented by four blanks a level.
-/

namespace SignalCatalog

open Json

/-- A string, a number as text, or null for an empty text. -/
def Json.looseText (default : String) : Option Json → String
  | some (.string text) => text
  | some (.number n) => n.text
  | some _ => ""
  | none => default

/-- A date in any spelling or as a day number. -/
def Json.date? : Json → Option Date
  | .string text => Calendar.readDate? text
  | .number n => Date.ofSerial? n.toBinary64
  | _ => none

namespace Metadata

def ofMembers (today : Date) (members : List (String × Json)) : Metadata where
  version := looseText defaultVersion (Entries.get? "version" members)
  date := ((Entries.get? "date" members).bind Json.date?).getD today
  editor := looseText "" (Entries.get? "editor" members)
  description := looseText "" (Entries.get? "description" members)
  extra := RecordKind.extraOf .metadata members

def toJson (metadata : Metadata) : Json :=
  .object ([("version", .string metadata.version), ("date", .string metadata.date.text),
    ("editor", .string metadata.editor), ("description", .string metadata.description)] ++
    metadata.extra.entries)

def ofText (today : Date) (text : String) : Except Fault Metadata :=
  (RecordKind.readText .metadata text).map fun value => ofMembers today value.members

end Metadata

namespace Core

def ofMembers (members : List (String × Json)) : Core where
  description := textField members "description" ""
  isMaster := boolField members "is_master"
  isQnx := boolField members "is_qnx"
  isAutosar := boolField members "is_autosar"
  isSim := boolField members "is_sim"
  os := textField members "os" unknownWord
  socFamily := textField members "soc_family" unknownWord
  extra := RecordKind.extraOf .core members

def ofJson : Json → Core
  | .string description => described description
  | value => ofMembers value.members

def toJson (core : Core) : Json :=
  .object ([("description", .string core.description), ("is_master", .bool core.isMaster),
    ("is_qnx", .bool core.isQnx), ("is_autosar", .bool core.isAutosar),
    ("is_sim", .bool core.isSim), ("os", .string core.os),
    ("soc_family", .string core.socFamily)] ++ core.extra.entries)

def ofText (text : String) : Except Fault Core :=
  (readAs RecordKind.rules (.recordOrString .core "CoreEntry") text).map ofJson

end Core

namespace Paths

def ofMembers (members : List (String × Json)) : Paths where
  output := textField members "output_path" ""
  script := textField members "script_path" ""
  extra := RecordKind.extraOf .paths members

def toJson (paths : Paths) : Json :=
  .object ([("output_path", .string paths.output), ("script_path", .string paths.script)] ++
    paths.extra.entries)

end Paths

namespace LockInterface

def ofMembers (members : List (String × Json)) : LockInterface where
  spinLock := textField members "spinlock_api" ""
  spinUnlock := textField members "spinunlock_api" ""
  spinHeader := textField members "spinlock_header" ""
  semaphoreLock := textField members "semaphore_lock_api" ""
  semaphoreUnlock := textField members "semaphore_unlock_api" ""
  semaphoreHeader := textField members "semaphore_header" ""

def toMembers (locks : LockInterface) : List (String × Json) :=
  [("spinlock_api", .string locks.spinLock), ("spinunlock_api", .string locks.spinUnlock),
    ("spinlock_header", .string locks.spinHeader),
    ("semaphore_lock_api", .string locks.semaphoreLock),
    ("semaphore_unlock_api", .string locks.semaphoreUnlock),
    ("semaphore_header", .string locks.semaphoreHeader)]

end LockInterface

namespace SharedInterface

def ofMembers (members : List (String × Json)) : SharedInterface where
  locks := .ofMembers members
  coreIdFunction := textField members "get_core_id_api" ""
  coreIdHeader := textField members "get_core_id_header" ""
  extra := RecordKind.extraOf .sharedInterface members

def toJson (shared : SharedInterface) : Json :=
  .object (shared.locks.toMembers ++ [("get_core_id_api", .string shared.coreIdFunction),
    ("get_core_id_header", .string shared.coreIdHeader)] ++ shared.extra.entries)

end SharedInterface

namespace CoreInterface

def ofMembers (members : List (String × Json)) : CoreInterface where
  locks := .ofMembers members
  extra := RecordKind.extraOf .coreInterface members

def toJson (core : CoreInterface) : Json :=
  .object (core.locks.toMembers ++ core.extra.entries)

end CoreInterface

namespace Interfaces

def ofMembers (members : List (String × Json)) : Interfaces where
  shared := match Entries.get? "smp" members with
    | some (.object shared) => some (.ofMembers shared)
    | _ => none
  perCore := .ofPairs ((objectField members "multicore").map fun (key, value) =>
    (key, .ofMembers value.members))
  extra := RecordKind.extraOf .interfaces members

def toJson (interfaces : Interfaces) : Json :=
  .object ((match interfaces.shared with
      | some shared => [("smp", shared.toJson)]
      | none => []) ++
    (if interfaces.perCore.isEmpty then []
      else [("multicore", .object (interfaces.perCore.mapValues fun _ core => core.toJson).entries)])
    ++ interfaces.extra.entries)

def ofText (text : String) : Except Fault Interfaces :=
  (RecordKind.readText .interfaces text).map fun value => ofMembers value.members

end Interfaces

namespace Deployment

def ofMembers (members : List (String × Json)) : Deployment where
  paths := .ofMembers (objectField members "paths")
  interfaces := .ofMembers (objectField members "api_config")
  shared := .ofPairs (objectField members "smp_config")
  extra := RecordKind.extraOf .deployment members

def toJson (deployment : Deployment) : Json :=
  .object ([("paths", deployment.paths.toJson), ("api_config", deployment.interfaces.toJson),
    ("smp_config", .object deployment.shared.entries)] ++ deployment.extra.entries)

end Deployment

namespace Project

def ofMembers (today : Date) (members : List (String × Json)) : Project where
  metadata := match Entries.get? "metadata" members with
    | some value => .ofMembers today value.members
    | none => .new today
  socType := textField members "soc_type" ""
  buildType := textField members "build_type" ""
  socList := textItems (Entries.get? "soc_list" members)
  buildList := textItems (Entries.get? "build_list" members)
  cores := .ofPairs ((objectField members "core_info").map fun (soc, cores) =>
    (soc, .ofPairs (cores.members.map fun (name, core) => (name, Core.ofJson core))))
  signals := .ofPairs ((objectField members "signals").map fun (name, signal) =>
    (name, Signal.ofMembers signal.members))
  board := textField members "selected_board" ""
  boardOptions := textItems (Entries.get? "board_options" members)
  deployment := .ofMembers (objectField members "project_specific")
  scripts := .ofPairs ((objectField members "script_paths").filterMap fun (key, path) =>
    path.stringValue?.map fun path => (key, path))
  exportSheet := textField members "export_sheet_name" defaultExportSheet
  extra := RecordKind.extraOf .project members

def toJson (project : Project) : Json :=
  .object ([("metadata", project.metadata.toJson), ("soc_type", .string project.socType),
    ("build_type", .string project.buildType),
    ("soc_list", .array (project.socList.map .string)),
    ("build_list", .array (project.buildList.map .string)),
    ("core_info", .object (project.cores.mapValues fun _ cores =>
      Json.object (cores.mapValues fun _ core => core.toJson).entries).entries),
    ("signals", .object (project.signals.mapValues fun _ signal => signal.toJson).entries),
    ("selected_board", .string project.board),
    ("board_options", .array (project.boardOptions.map .string)),
    ("project_specific", project.deployment.toJson),
    ("script_paths", .object (project.scripts.mapValues fun _ path => Json.string path).entries),
    ("export_sheet_name", .string project.exportSheet)] ++ project.extra.entries)

/-- Reads a project as it stands. -/
def ofText (today : Date) (text : String) : Except Fault Project :=
  (RecordKind.readText .project text).map fun value => ofMembers today value.members

/-- Reads a project file: the project with its lists repaired. -/
def load (today : Date) (text : String) : Except Fault Project :=
  (ofText today text).map normalize

/-- The text of a project file. -/
def save (project : Project) : String := project.toJson.indented

end Project

end SignalCatalog
