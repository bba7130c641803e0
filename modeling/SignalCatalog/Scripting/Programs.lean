import SignalCatalog.Scripting.Indented.Program

/-!
# The programs that can be run

Programs are known by their names; a program of another name is not there. An interpreter reads its
script from the disk, and any other program takes the path of the script for a word like the others.
-/

namespace SignalCatalog

namespace Program

/-- The programs that shells can start, by their names. -/
def known : Shell.Programs := fun engine name =>
  if name = defaultInterpreter then some (Indented.interpreter engine)
  else Utilities.program? engine name

/-- The shells. -/
def shells : List String := ["sh", "dash", "bash"]

/-- The end of a run in a shell, with the disk behind it. -/
def endOf (disk : Disk) (status : Nat) (state : Shell.State) : RunEnd × Disk :=
  (.ended (if state.flow = .killed then none else some status) (Text.Octets.shown state.errors),
    { state.disk with here := disk.here })

/-- Runs a script of a shell. -/
def runShell (disk : Disk) : List String → RunEnd × Disk
  | [] => (.ended (some 0) "", disk)
  | script :: arguments =>
    match disk.read script with
    | .ok content =>
      let state := Shell.execute known disk (Text.Octets.ofText script)
        (arguments.map Text.Octets.ofText) (Text.Octets.ofBytes content.toBytes)
      endOf disk state.status state
    | .error .isDirectory => (.ended (some 0) "", disk)
    | .error _ => (.ended (some 2) ("sh: 0: cannot open " ++ script ++ ": No such file"), disk)

/-- Runs a program that is no shell. -/
def runOther (name : String) (arguments : List String) (disk : Disk) : RunEnd × Disk :=
  match Shell.executeProgram known disk name (arguments.map Text.Octets.ofText) with
  | some (status, state) => endOf disk status state
  | none => (.notStarted .notFound, disk)

/-- The name of a program of the system, without the folder in front. -/
def systemName? (name : String) : Option String :=
  if name.contains '/' then
    (["/usr/bin/", "/bin/"].findSome? fun folder => Text.after? folder.toList name.toList).map
      String.ofList
  else some name

/-- Why a file of the disk cannot be run. -/
def refusal (disk : Disk) (path : String) : OsError :=
  match disk.find path with
  | .ok _ => .other "Permission denied (os error 13)"
  | .error cause => cause

/-- Whether a word can be handed to a program. -/
def isWord (text : String) : Bool := text.toList.all fun c => c.toNat ≠ 0

/-- The runner of the known programs. -/
def runner : Runner := fun name arguments disk =>
  if !(name :: arguments).all isWord then (.notStarted .nulInWord, disk)
  else match systemName? name with
    | none => (.notStarted (refusal disk name), disk)
    | some base =>
      if shells.contains base then runShell disk arguments else runOther base arguments disk

end Program

end SignalCatalog
