import SignalCatalog.Generation.Kind
import SignalCatalog.Project

/-!
# Edits

The edits of a project, each with its own rules. A refused edit gives its cause. Names of new things
are trimmed and must not be empty, and what is selected or in use cannot be removed.
-/

namespace SignalCatalog

inductive Edit
  | addSignal (name : String) (signal : Signal)
  | deleteSignal (name : String)
  | renameSignal (name newName : String)
  | updateSignal (name : String) (signal : Signal)
  | setSocType (soc : String)
  | setBuildType (build : String)
  | setBoard (board : String)
  | updateMetadata (metadata : Metadata)
  | replaceProject (project : Project)
  | addSoc (name : String)
  | removeSoc (name : String)
  | addBuildType (name : String)
  | removeBuildType (name : String)
  | addCore (soc name : String) (core : Core)
  | updateCore (id : CoreId) (core : Core)
  | removeCore (id : CoreId)
  | setBoardOptions (options : List String)
  | setPaths (output script : String)
  | setInterfaces (interfaces : Interfaces)
  | setScript (kind : GeneratorKind) (path : String)

/-- What a name in a project stands for. -/
inductive Entity
  | signal
  | soc
  | buildType
  | core
deriving DecidableEq, Repr

def Entity.word : Entity → String
  | signal => "signal"
  | soc => "SoC"
  | buildType => "build type"
  | core => "core"

/-- Why an edit is refused. -/
inductive EditError
  | duplicate (entity : Entity) (name : String)
  | unknown (entity : Entity) (name : String)
  | emptyName (entity : Entity)
  | selected (entity : Entity) (name : String)
  | inUse (entity : Entity) (name signal : String)
  | dotInSoc (name : String)
  /-- The edit would break a rule that was not broken before. -/
  | breaks (violation : Violation)
  | nothingCopied
deriving DecidableEq, Repr

def EditError.message : EditError → String
  | duplicate entity name => entity.word ++ " '" ++ name ++ "' already exists"
  | unknown entity name => "unknown " ++ entity.word ++ " '" ++ name ++ "'"
  | emptyName entity => entity.word ++ " name is empty"
  | selected entity name =>
    entity.word ++ " '" ++ name ++ "' is selected and cannot be removed"
  | inUse entity name signal =>
    entity.word ++ " '" ++ name ++ "' is the source of signal '" ++ signal ++ "'"
  | dotInSoc name => "SoC name '" ++ name ++ "' must not contain '.'"
  | breaks violation => violation.message
  | nothingCopied => "nothing has been copied"

namespace Project

/-- The trimmed name of a new thing. -/
def newName (entity : Entity) (name : String) : Except EditError String :=
  let name := Text.trimmed name
  if name.isEmpty then .error (.emptyName entity) else .ok name

def addSignal (project : Project) (name : String) (signal : Signal) :
    Except EditError Project := do
  let name ← newName .signal name
  if project.signals.contains name then .error (.duplicate .signal name)
  else .ok { project with signals := project.signals.insert name signal }

def deleteSignal (project : Project) (name : String) : Except EditError Project :=
  if project.signals.contains name then
    .ok { project with signals := project.signals.erase name }
  else .error (.unknown .signal name)

/-- The signal under its new name; a port name that was the old name follows. -/
def renamed (name newName : String) (signal : Signal) : Signal :=
  if signal.portName = name then { signal with portName := newName } else signal

def renameSignal (project : Project) (name newName : String) : Except EditError Project := do
  let newName ← Project.newName .signal newName
  if project.signals.contains newName then .error (.duplicate .signal newName)
  else if project.signals.contains name then
    .ok { project with signals := project.signals.rekey name newName (renamed name newName) }
  else .error (.unknown .signal name)

def updateSignal (project : Project) (name : String) (signal : Signal) :
    Except EditError Project :=
  if project.signals.contains name then
    .ok { project with signals := project.signals.insert name signal }
  else .error (.unknown .signal name)

def setSocType (project : Project) (soc : String) : Except EditError Project :=
  if soc ∈ project.socList then .ok { project with socType := soc }
  else .error (.unknown .soc soc)

def setBuildType (project : Project) (build : String) : Except EditError Project :=
  if build ∈ project.buildList then .ok { project with buildType := build }
  else .error (.unknown .buildType build)

def addSoc (project : Project) (name : String) : Except EditError Project := do
  let name ← newName .soc name
  if '.' ∈ name.toList then .error (.dotInSoc name)
  else if name ∈ project.socList then .error (.duplicate .soc name)
  else .ok { project with socList := project.socList ++ [name] }

/-- Takes the flag of a core from every signal. -/
def clearDestination (project : Project) (id : CoreId) : Project :=
  { project with
    signals := project.signals.mapValues fun _ signal =>
      { signal with destinations := signal.destinations.erase id.destinationKey } }

def removeSoc (project : Project) (name : String) : Except EditError Project :=
  if name ∉ project.socList then .error (.unknown .soc name)
  else if project.socType = name then .error (.selected .soc name)
  else match project.sourcedFromSoc name with
    | signal :: _ => .error (.inUse .soc name signal)
    | [] =>
      let cores := ((project.cores.get? name).map OrderedMap.keys).getD []
      let project := { project with
        socList := project.socList.erase name
        cores := project.cores.erase name }
      .ok (cores.foldl (fun project core => project.clearDestination ⟨name, core⟩) project)

def addBuildType (project : Project) (name : String) : Except EditError Project := do
  let name ← newName .buildType name
  if name ∈ project.buildList then .error (.duplicate .buildType name)
  else .ok { project with buildList := project.buildList ++ [name] }

def removeBuildType (project : Project) (name : String) : Except EditError Project :=
  if name ∉ project.buildList then .error (.unknown .buildType name)
  else if project.buildType = name then .error (.selected .buildType name)
  else .ok { project with buildList := project.buildList.erase name }

def addCore (project : Project) (soc name : String) (core : Core) : Except EditError Project :=
  if soc ∉ project.socList then .error (.unknown .soc soc)
  else do
    let name ← newName .core name
    let cores := (project.cores.get? soc).getD .empty
    if cores.contains name then .error (.duplicate .core (CoreId.text ⟨soc, name⟩))
    else .ok { project with cores := project.cores.insert soc (cores.insert name core) }

def updateCore (project : Project) (id : CoreId) (core : Core) : Except EditError Project :=
  match project.cores.get? id.soc with
  | none => .error (.unknown .core id.text)
  | some cores =>
    if cores.contains id.core then
      .ok { project with cores := project.cores.insert id.soc (cores.insert id.core core) }
    else .error (.unknown .core id.text)

def removeCore (project : Project) (id : CoreId) : Except EditError Project :=
  if !project.hasCore id then .error (.unknown .core id.text)
  else match project.sourcedFrom id with
    | signal :: _ => .error (.inUse .core id.text signal)
    | [] =>
      let cores := (project.cores.get? id.soc).getD .empty
      .ok ({ project with
        cores := project.cores.insert id.soc (cores.erase id.core) }.clearDestination id)

def setPaths (project : Project) (output script : String) : Project :=
  let deployment := project.deployment
  { project with
    deployment := { deployment with paths := { deployment.paths with output, script } } }

def setInterfaces (project : Project) (interfaces : Interfaces) : Project :=
  { project with deployment := { project.deployment with interfaces } }

def setScript (project : Project) (kind : GeneratorKind) (path : String) : Project :=
  { project with scripts := project.scripts.insert kind.key path }

end Project

namespace Edit

/-- The name of an edit in logs. -/
def label : Edit → String
  | addSignal .. => "add_signal"
  | deleteSignal _ => "delete_signal"
  | renameSignal .. => "rename_signal"
  | updateSignal .. => "update_signal"
  | setSocType _ => "set_soc_type"
  | setBuildType _ => "set_build_type"
  | setBoard _ => "set_board"
  | updateMetadata _ => "update_metadata"
  | replaceProject _ => "replace_project"
  | addSoc _ => "add_soc"
  | removeSoc _ => "remove_soc"
  | addBuildType _ => "add_build_type"
  | removeBuildType _ => "remove_build_type"
  | addCore .. => "add_core"
  | updateCore .. => "update_core"
  | removeCore _ => "remove_core"
  | setBoardOptions _ => "set_board_options"
  | setPaths .. => "set_paths"
  | setInterfaces _ => "set_api_config"
  | setScript .. => "set_script_path"

/-- The edited project by the rules of the edit alone. -/
def run : Edit → Project → Except EditError Project
  | addSignal name signal, project => project.addSignal name signal
  | deleteSignal name, project => project.deleteSignal name
  | renameSignal name newName, project => project.renameSignal name newName
  | updateSignal name signal, project => project.updateSignal name signal
  | setSocType soc, project => project.setSocType soc
  | setBuildType build, project => project.setBuildType build
  | setBoard board, project => .ok { project with board }
  | updateMetadata metadata, project => .ok { project with metadata }
  | replaceProject replacement, _ => .ok replacement
  | addSoc name, project => project.addSoc name
  | removeSoc name, project => project.removeSoc name
  | addBuildType name, project => project.addBuildType name
  | removeBuildType name, project => project.removeBuildType name
  | addCore soc name core, project => project.addCore soc name core
  | updateCore id core, project => project.updateCore id core
  | removeCore id, project => project.removeCore id
  | setBoardOptions options, project => .ok { project with boardOptions := options }
  | setPaths output script, project => .ok (project.setPaths output script)
  | setInterfaces interfaces, project => .ok (project.setInterfaces interfaces)
  | setScript kind path, project => .ok (project.setScript kind path)

/-- The rules that an edit must not break: for a project that takes the place of another only those
of lists and selections, for every other edit all of them. -/
def violations : Edit → Project → List Violation
  | replaceProject _, project => project.structuralViolations
  | _, project => project.violations

/-- The edited project, unless a rule is broken that was not broken before. -/
def apply (edit : Edit) (project : Project) : Except EditError Project := do
  let edited ← edit.run project
  let known := edit.violations project
  match (edit.violations edited).find? fun violation => !known.contains violation with
  | some violation => .error (.breaks violation)
  | none => .ok edited

end Edit

end SignalCatalog
