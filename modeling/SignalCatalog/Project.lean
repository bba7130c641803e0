import SignalCatalog.Calendar.Date
import SignalCatalog.Signal

/-!
# Projects

A project holds the platform (systems on chip, their cores, build types) and the catalog of signals.
Every list and map keeps the order of the file. `normalize` repairs the two lists; the violations are
reported at project level first and then signal by signal.
-/

namespace SignalCatalog

structure Metadata where
  version : String
  date : Date
  editor : String
  description : String
  extra : OrderedMap Json

structure Paths where
  output : String
  script : String
  extra : OrderedMap Json

/-- The functions and headers of a lock interface. -/
structure LockInterface where
  spinLock : String
  spinUnlock : String
  spinHeader : String
  semaphoreLock : String
  semaphoreUnlock : String
  semaphoreHeader : String
deriving DecidableEq

/-- The interface of a build in which all cores run one image. -/
structure SharedInterface where
  locks : LockInterface
  coreIdFunction : String
  coreIdHeader : String
  extra : OrderedMap Json

/-- The interface of one core of a multi-image build. -/
structure CoreInterface where
  locks : LockInterface
  extra : OrderedMap Json

/-- The interfaces of a build; kept with the project and not interpreted. -/
structure Interfaces where
  shared : Option SharedInterface
  perCore : OrderedMap CoreInterface
  extra : OrderedMap Json

/-- Settings of one deployment of the project. -/
structure Deployment where
  paths : Paths
  interfaces : Interfaces
  shared : OrderedMap Json
  extra : OrderedMap Json

structure Project where
  metadata : Metadata
  socType : String
  buildType : String
  socList : List String
  buildList : List String
  cores : OrderedMap (OrderedMap Core)
  signals : OrderedMap Signal
  board : String
  boardOptions : List String
  deployment : Deployment
  scripts : OrderedMap String
  exportSheet : String
  extra : OrderedMap Json

def defaultExportSheet : String := "Config"

def defaultSoc : String := "Windows"

def defaultBuild : String := "SMP"

def defaultVersion : String := "1.0"

def Metadata.new (date : Date) : Metadata := ⟨defaultVersion, date, "", "", .empty⟩

def Paths.empty : Paths := ⟨"", "", .empty⟩

def LockInterface.empty : LockInterface := ⟨"", "", "", "", "", ""⟩

def Interfaces.empty : Interfaces := ⟨none, .empty, .empty⟩

def Deployment.empty : Deployment := ⟨.empty, .empty, .empty, .empty⟩

namespace Project

/-- A new project: one system on chip, one build type, nothing else. -/
def template (today : Date) : Project where
  metadata := .new today
  socType := defaultSoc
  buildType := defaultBuild
  socList := [defaultSoc]
  buildList := [defaultBuild]
  cores := .empty
  signals := .empty
  board := ""
  boardOptions := []
  deployment := .empty
  scripts := .empty
  exportSheet := defaultExportSheet
  extra := .empty

instance : Inhabited Project := ⟨template Date.epoch⟩

/-- The list without repetitions; of each text the first occurrence stays. -/
def firsts (list : List String) : List String :=
  (list.foldl (fun seen item => if item ∈ seen then seen else item :: seen) []).reverse

/-- Each text that occurs more than once, in the order of its second occurrence. -/
def repeated (list : List String) : List String :=
  (list.foldl (fun (seen, again) item =>
    if item ∈ seen then (seen, if item ∈ again then again else item :: again)
    else (item :: seen, again)) ([], [])).2.reverse

/-- The list with a text at its end unless it is there. -/
def listed (list : List String) (item : String) : List String :=
  if item ∈ list then list else list ++ [item]

/-- The system list without repetitions, with the selected system and those that have cores. -/
def repairedSocs (project : Project) : List String :=
  let list := firsts project.socList
  let list := if project.socType.isEmpty then list else listed list project.socType
  project.cores.keys.foldl listed list

def repairedBuilds (project : Project) : List String :=
  let list := firsts project.buildList
  if project.buildType.isEmpty then list else listed list project.buildType

/-- Repairs both lists. -/
def normalize (project : Project) : Project :=
  { project with socList := project.repairedSocs, buildList := project.repairedBuilds }

/-- Whether `normalize` would change a list. -/
def needsRepair (project : Project) : Bool :=
  project.repairedSocs != project.socList || project.repairedBuilds != project.buildList

/-- Every core, by system in file order. -/
def availableCores (project : Project) : List CoreId :=
  project.cores.entries.flatMap fun (soc, cores) => cores.keys.map fun core => ⟨soc, core⟩

def core? (project : Project) (id : CoreId) : Option Core :=
  (project.cores.get? id.soc).bind fun cores => cores.get? id.core

def hasCore (project : Project) (id : CoreId) : Bool := (project.core? id).isSome

/-- The names of the signals whose source is a core that satisfies a test. -/
def sourcedWhere (project : Project) (test : CoreId → Bool) : List String :=
  project.signals.entries.filterMap fun (name, signal) =>
    match signal.sourceId? with
    | some id => if test id then some name else none
    | none => none

def sourcedFromSoc (project : Project) (soc : String) : List String :=
  project.sourcedWhere fun id => id.soc = soc

def sourcedFrom (project : Project) (id : CoreId) : List String :=
  project.sourcedWhere fun source => source = id

/-- The signals that have a core, as it is written, among their destinations. -/
def receivedBy (project : Project) (core : String) : List String :=
  project.signals.entries.filterMap fun (name, signal) =>
    if signal.isDestination core then some name else none

/-- The values that could not be read, each with its signal and its field. -/
def unreadable (project : Project) : List (String × String × String) :=
  project.signals.entries.flatMap fun (name, signal) =>
    signal.unreadable.entries.map fun (field, raw) => (name, field, raw)

/-- The names of copies in the order in which they are tried. -/
def copyName (base : String) : Nat → String
  | 0 => base
  | 1 => base ++ "_copy"
  | n + 2 => base ++ "_copy" ++ Text.number (n + 1)

/-- The first name of a copy that is not in use. Among one more name than there are signals one is
free. -/
def freeCopyName (project : Project) (base : String) : String :=
  let tried := (List.range (project.signals.size + 1)).map (copyName base)
  (tried.find? fun name => !project.signals.contains name).getD (copyName base 1)

/-- The broken rules of the lists and selections. -/
def structuralViolations (project : Project) : List Violation :=
  (if project.socType ∈ project.socList then [] else [.socTypeNotListed project.socType]) ++
  (if project.buildType ∈ project.buildList then []
    else [.buildTypeNotListed project.buildType]) ++
  (repeated project.socList).map .duplicateSoc ++
  (repeated project.buildList).map .duplicateBuildType ++
  (project.cores.keys.filter fun soc => soc ∉ project.socList).map .coreSocNotListed

/-- The broken rules of a signal's source. -/
def sourceViolations (project : Project) (name : String) (signal : Signal) : List Violation :=
  if Text.blank signal.source then []
  else
    match signal.sourceId? with
    | some id =>
      if !project.hasCore id then [.unknownSource name signal.source]
      else if signal.isDestination (Text.trimmed signal.source) then
        [.sourceIsDestination name signal.source]
      else []
    | none => [.unknownSource name signal.source]

def signalViolations (project : Project) (name : String) (signal : Signal) : List Violation :=
  project.sourceViolations name signal ++ signal.structViolations name ++
    signal.rangeViolations name

/-- Every broken rule, first those of the project and then those of each signal. -/
def violations (project : Project) : List Violation :=
  project.structuralViolations ++
    project.signals.entries.flatMap fun (name, signal) => project.signalViolations name signal

end Project

end SignalCatalog
