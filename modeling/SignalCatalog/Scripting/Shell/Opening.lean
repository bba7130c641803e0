import SignalCatalog.Scripting.Shell.State

/-!
# Opening files for streams

Redirections are done from left to right. One that fails says why, and those before it are undone by
whoever asked for them.
-/

namespace SignalCatalog.Shell

/-- A redirection whose words have been worked out. -/
inductive Opening
  | file (stream : Nat) (mode : OpenMode) (path : String)
  /-- Another stream, or none. -/
  | copy (stream : Nat) (source : Option Nat)
  | document (stream : Nat) (text : String)

/-- The words of the system for a failure, without its number. -/
def osWords (cause : OsError) : String :=
  match Text.cutAt? '(' cause.message.toList with
  | some (words, _) => String.ofList (Text.trimEnd words)
  | none => cause.message

/-- The words of the shell for a file that cannot be opened. -/
def openingWords (mode : OpenMode) (path : String) (cause : OsError) : String :=
  let what := match mode with
    | .read => "open "
    | _ => "create "
  let why := match cause, mode with
    | .notFound, .read | .notDirectory, .read => "No such file"
    | .notFound, _ | .notDirectory, _ => "Directory nonexistent"
    | cause, _ => osWords cause
  "cannot " ++ what ++ path ++ ": " ++ why

/-- The stream that a path stands for. -/
def streamOfPath? (path : String) : Option Nat :=
  if path = "/dev/stdin" then some 0
  else if path = "/dev/stdout" then some 1
  else if path = "/dev/stderr" then some 2
  else match Text.after? "/dev/fd/".toList path.toList with
    | some digits => Text.natural? digits
    | none => none

namespace State

/-- Opens a file to read, or the empty text in the place of a folder. -/
def openToRead (state : State) (path : String) : Except OsError OpenFile :=
  (state.disk.find (pathOf path)).map fun (place, entry) =>
    ⟨if entry.isFolder then .nothing else .file place, 0, false, true, false⟩

/-- Opens a file to write, and makes it if it is not there. -/
def openToWrite (state : State) (mode : OpenMode) (path : String) :
    Except OsError (OpenFile × State) :=
  match state.disk.filePlace (pathOf path) with
  | .error cause => .error cause
  | .ok place =>
    let isThere := (state.disk.entry? place).isSome
    if isThere && mode = .write && state.has 'C' then .error .alreadyThere
    else
      let keeps := mode = .append || mode = .both
      let state := if isThere && keeps then state
        else { state with disk := state.disk.put place (.file (.text "")) }
      .ok (⟨.file place, 0, mode = .append, mode = .both, true⟩, state)

/-- Opens a file for a stream. -/
def openFile (state : State) (stream : Nat) (mode : OpenMode) (path : String) :
    Except String State :=
  match (streamOfPath? path).bind state.stream? with
  | some index => .ok (state.setStream stream (some index))
  | none =>
    if mode = .read then
      match state.openToRead path with
      | .ok file => .ok (state.openFor stream file)
      | .error cause => .error (openingWords mode path cause)
    else
      match state.openToWrite mode path with
      | .ok (file, state) => .ok (state.openFor stream file)
      | .error cause => .error (openingWords mode path cause)

def perform (state : State) : Opening → Except String State
  | .file stream mode path => state.openFile stream mode path
  | .copy stream none => .ok (state.setStream stream none)
  | .copy stream (some source) =>
    match state.stream? source with
    | some index => .ok (state.setStream stream (some index))
    | none => .error (Text.number source ++ ": Bad file descriptor")
  | .document stream text =>
    .ok (state.openFor stream ⟨.buffer text, 0, false, true, false⟩)

def performAll (state : State) : List Opening → Except String State × State
  | [] => (.ok state, state)
  | opening :: rest =>
    match state.perform opening with
    | .ok state => performAll state rest
    | .error words => (.error words, state)

end State

end SignalCatalog.Shell
