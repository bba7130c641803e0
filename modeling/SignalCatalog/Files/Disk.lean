import SignalCatalog.Files.Content
import SignalCatalog.Files.Path
import SignalCatalog.Log.Writer

/-!
# Disks

A disk is a tree of folders and files without links, as a list of places with what stands there, and
a working folder in it. A path is walked name by name, so that a missing folder, a file in the place of
a folder and a name that is too long are told apart. Every change may also fail by a fault of the
disk; the faults to come are part of the disk, and a replacement of a file happens in one step or not
at all. A log that is open belongs to the disk, too, since its file can be moved, replaced or emptied
like any other while lines are appended to it.
-/

namespace SignalCatalog

/-- The names that lead from the root to a place. -/
abbrev Place := List String

inductive Entry
  | folder
  | file (content : Content)
deriving DecidableEq

namespace Entry

def isFolder : Entry → Bool
  | folder => true
  | file _ => false

def content? : Entry → Option Content
  | folder => none
  | file content => some content

end Entry

/-- A failure to come. A write that fails leaves some other content. -/
structure Fault where
  cause : OsError
  leftover : Content
deriving DecidableEq

/-- A log that is open: where its file is, and how it is written. -/
structure Journal where
  place : Place
  writer : Log.Writer
deriving DecidableEq

structure Disk where
  /-- The working folder at the start. -/
  home : Place
  /-- The working folder. -/
  here : Place
  entries : List (Place × Entry)
  /-- For each of the next changes, the fault it meets if it meets one. -/
  faults : List (Option Fault)
  /-- The open log, as long as its file is there. -/
  journal : Option Journal
deriving DecidableEq

/-- The last name of a path. -/
inductive LastName
  | here
  | above
  | named (name : String)

/-- A path whose folders have been walked. -/
structure Target where
  folder : Place
  last : LastName
  /-- The path ends in a slash, so it can only be a folder. -/
  slashed : Bool

/-- The longest name, in bytes. -/
def maxNameBytes : Nat := 255

/-- The longest path, in bytes. -/
def maxPathBytes : Nat := 4095

namespace Disk

/-- A disk with nothing in its working folder. -/
def empty (home : Place) : Disk := ⟨home, home, [], [], none⟩

instance : Inhabited Disk := ⟨empty []⟩

/-- The folders that are on every disk, beside the working folder and those above it. -/
def standardFolders : List Place :=
  [["bin"], ["dev"], ["etc"], ["home"], ["opt"], ["root"], ["sbin"], ["tmp"], ["usr"], ["usr", "bin"],
    ["var"]]

/-- The file that is empty whatever is written to it, until another file is moved onto it. -/
def emptyFile : Place := ["dev", "null"]

/-- What has been stored at a place. -/
def stored? (disk : Disk) (place : Place) : Option Entry :=
  (disk.entries.find? fun item => item.1 = place).map Prod.snd

/-- Whether what is written at a place is lost. -/
def loses (disk : Disk) (place : Place) : Bool :=
  place = emptyFile && (disk.stored? place).isNone

/-- What stands at a place. -/
def entry? (disk : Disk) (place : Place) : Option Entry :=
  if place.isPrefixOf disk.home || standardFolders.contains place then some .folder
  else if disk.loses place then some (.file (.text ""))
  else disk.stored? place

def putEntry (place : Place) (entry : Entry) : List (Place × Entry) → List (Place × Entry)
  | [] => [(place, entry)]
  | item :: rest =>
    if item.1 = place then (place, entry) :: rest else item :: putEntry place entry rest

def store (disk : Disk) (place : Place) (entry : Entry) : Disk :=
  { disk with entries := putEntry place entry disk.entries }

/-- Writes something at a place. -/
def put (disk : Disk) (place : Place) (entry : Entry) : Disk :=
  if disk.loses place then disk else disk.store place entry

def take (disk : Disk) (place : Place) : Disk :=
  { disk with
    entries := disk.entries.filter fun item => item.1 ≠ place
    journal := disk.journal.filter fun journal => journal.place ≠ place }

/-- The disk after what stands at a place has been moved to another, where it replaces what was
there. -/
def move (disk : Disk) (place newPlace : Place) : Disk :=
  if place = newPlace then disk
  else match disk.entry? place with
    | none => disk
    | some entry =>
      let journal := disk.journal.bind fun journal =>
        if journal.place = place then some { journal with place := newPlace }
        else if journal.place = newPlace then none
        else some journal
      { (disk.take place).store newPlace entry with journal }

/-! ## Walking paths -/

/-- One step of a walk. The root is its own parent. -/
def enter (disk : Disk) (place : Place) (name : String) : Except OsError Place :=
  if name == "." then .ok place
  else if name == ".." then .ok place.dropLast
  else if maxNameBytes < name.utf8ByteSize then .error .nameTooLong
  else match disk.entry? (place ++ [name]) with
    | none => .error .notFound
    | some .folder => .ok (place ++ [name])
    | some (.file _) => .error .notDirectory

def walk (disk : Disk) (place : Place) : List String → Except OsError Place
  | [] => .ok place
  | name :: rest =>
    match disk.enter place name with
    | .ok place => disk.walk place rest
    | .error cause => .error cause

/-- Walks to the folder of a path. -/
def target (disk : Disk) (path : String) : Except OsError Target :=
  if path.toList.any fun c => c.toNat = 0 then .error .nulInName
  else if maxPathBytes < path.utf8ByteSize then .error .nameTooLong
  else
    let start := if Path.isAbsolute path then [] else disk.here
    match ((Path.segments path).filter fun name => name != "").reverse with
    | [] => if path.isEmpty then .error .notFound else .ok ⟨[], .here, true⟩
    | last :: folders =>
      (disk.walk start folders.reverse).map fun folder =>
        ⟨folder, if last == "." then .here else if last == ".." then .above else .named last,
          Path.endsInSlash path⟩

/-- What stands at a walked path, if anything does. -/
def look (disk : Disk) (target : Target) : Except OsError (Option (Place × Entry)) :=
  match target.last with
  | .here => .ok (some (target.folder, .folder))
  | .above => .ok (some (target.folder.dropLast, .folder))
  | .named name =>
    if maxNameBytes < name.utf8ByteSize then .error .nameTooLong
    else
      let place := target.folder ++ [name]
      match disk.entry? place with
      | none => .ok none
      | some (.file content) =>
        if target.slashed then .error .notDirectory else .ok (some (place, .file content))
      | some .folder => .ok (some (place, .folder))

/-- The place of a path and what stands there. -/
def find (disk : Disk) (path : String) : Except OsError (Place × Entry) := do
  match ← disk.look (← disk.target path) with
  | some found => .ok found
  | none => .error .notFound

def isFile (disk : Disk) (path : String) : Bool :=
  match disk.find path with
  | .ok (_, .file _) => true
  | _ => false

def isFolder (disk : Disk) (path : String) : Bool :=
  match disk.find path with
  | .ok (_, .folder) => true
  | _ => false

def read (disk : Disk) (path : String) : Except OsError Content :=
  match disk.find path with
  | .ok (_, .file content) => .ok content
  | .ok (_, .folder) => .error .isDirectory
  | .error cause => .error cause

def readText (disk : Disk) (path : String) : Except OsError String :=
  match disk.read path with
  | .ok content =>
    match content.text? with
    | some text => .ok text
    | none => .error .notText
  | .error cause => .error cause

/-! ## Changes -/

/-- The fault of the next change, and the disk without it. -/
def nextFault (disk : Disk) : Option Fault × Disk :=
  match disk.faults with
  | [] => (none, disk)
  | fault :: rest => (fault, { disk with faults := rest })

/-- The place at which a path can make a new folder. -/
def folderPlace (disk : Disk) (path : String) : Except OsError Place := do
  let target ← disk.target path
  match target.last with
  | .here | .above => .error .alreadyThere
  | .named name =>
    if maxNameBytes < name.utf8ByteSize then .error .nameTooLong
    else match disk.entry? (target.folder ++ [name]) with
      | some _ => .error .alreadyThere
      | none => .ok (target.folder ++ [name])

/-- The place at which a path can make or overwrite a file. A path that ends in a slash names none,
whatever stands there. -/
def filePlace (disk : Disk) (path : String) : Except OsError Place := do
  let target ← disk.target path
  match target.last with
  | .here | .above => .error .isDirectory
  | .named name =>
    if target.slashed then .error .isDirectory
    else match ← disk.look target with
      | some (_, .folder) => .error .isDirectory
      | some (place, .file _) => .ok place
      | none => .ok (target.folder ++ [name])

/-- The place that a file can be moved to by a path. -/
def movePlace (disk : Disk) (path : String) : Except OsError Place := do
  let target ← disk.target path
  match target.last with
  | .here | .above => .error .busy
  | .named name =>
    if maxNameBytes < name.utf8ByteSize then .error .nameTooLong
    else if target.slashed then .error .notDirectory
    else match disk.entry? (target.folder ++ [name]) with
      | some .folder => .error .isDirectory
      | _ => .ok (target.folder ++ [name])

def makeFolder (disk : Disk) (path : String) : Except OsError Unit × Disk :=
  match disk.nextFault with
  | (some fault, disk) => (.error fault.cause, disk)
  | (none, disk) =>
    match disk.folderPlace path with
    | .error cause => (.error cause, disk)
    | .ok place => (.ok (), disk.put place .folder)

/-- Makes a folder and those above it; `fuel` is a bound for their number. A folder that is there
already is no failure. -/
def makeFoldersUpTo : (fuel : Nat) → Disk → String → Except OsError Unit × Disk
  | 0, disk, _ => (.error .notFound, disk)
  | fuel + 1, disk, path =>
    match disk.makeFolder path with
    | (.ok (), disk) => (.ok (), disk)
    | (.error .alreadyThere, disk) =>
      (if disk.isFolder path then .ok () else .error .alreadyThere, disk)
    | (.error .notFound, disk) =>
      match Path.folder? path with
      | none => disk.makeFolder path
      | some folder =>
        match makeFoldersUpTo fuel disk folder with
        | (.error cause, disk) => (.error cause, disk)
        | (.ok (), disk) =>
          match disk.makeFolder path with
          | (.error .alreadyThere, disk) =>
            (if disk.isFolder path then .ok () else .error .alreadyThere, disk)
          | done => done
    | (.error cause, disk) => (.error cause, disk)

/-- Makes a folder and those above it. The empty path is the working folder. -/
def makeFolders (disk : Disk) (path : String) : Except OsError Unit × Disk :=
  if (Path.parent? path).isNone then (.ok (), disk)
  else disk.makeFoldersUpTo (Path.names path).length path

/-- Makes an empty file, or empties the file that is there. -/
def create (disk : Disk) (path : String) : Except OsError Place × Disk :=
  match disk.nextFault with
  | (some fault, disk) => (.error fault.cause, disk)
  | (none, disk) =>
    match disk.filePlace path with
    | .error cause => (.error cause, disk)
    | .ok place => (.ok place, disk.put place (.file (.text "")))

/-- Writes the content of a file that has been made. -/
def write (disk : Disk) (place : Place) (content : Content) : Except OsError Unit × Disk :=
  match disk.nextFault with
  | (some fault, disk) => (.error fault.cause, disk.put place (.file fault.leftover))
  | (none, disk) => (.ok (), disk.put place (.file content))

/-- Waits until a file is stored. -/
def sync (disk : Disk) : Except OsError Unit × Disk :=
  match disk.nextFault with
  | (some fault, disk) => (.error fault.cause, disk)
  | (none, disk) => (.ok (), disk)

/-- Moves a file onto a path in one step. -/
def rename (disk : Disk) (path newPath : String) : Except OsError Unit × Disk :=
  match disk.nextFault with
  | (some fault, disk) => (.error fault.cause, disk)
  | (none, disk) =>
    match disk.find path, disk.movePlace newPath with
    | .error cause, _ => (.error cause, disk)
    | .ok _, .error cause => (.error cause, disk)
    | .ok (_, .folder), .ok _ => (.error .notDirectory, disk)
    | .ok (place, .file _), .ok newPlace => (.ok (), disk.move place newPlace)

/-- Removes a file if it can be removed. -/
def remove (disk : Disk) (path : String) : Disk :=
  match disk.nextFault with
  | (some _, disk) => disk
  | (none, disk) =>
    match disk.find path with
    | .ok (place, .file _) => disk.take place
    | _ => disk

/-! ## Logs -/

/-- Opens a log. Its file is made if it is not there; what it holds is kept. -/
def openLog (disk : Disk) (path : String) (writer : Log.Writer) : Except OsError Disk :=
  (disk.filePlace path).map fun place =>
    let disk := if (disk.entry? place).isSome then disk else disk.put place (.file (.text ""))
    { disk with journal := some ⟨place, writer⟩ }

def closeLog (disk : Disk) : Disk := { disk with journal := none }

/-- Appends the lines of events to the open log. -/
def record (disk : Disk) (events : List Log.Event) : Disk :=
  match disk.journal with
  | none => disk
  | some journal =>
    match disk.entry? journal.place with
    | some (.file content) =>
      disk.put journal.place (.file (content.append (journal.writer.text events).toUTF8))
    | _ => disk

/-- The result of a change of the disk whose events are recorded. -/
def reporting {ε α : Type} (disk : Disk) (result : Except ε α) (events : List Log.Event) :
    Log.Reported ε α × Disk :=
  ((result, events), disk.record events)

theorem record_of_no_journal (disk : Disk) (events : List Log.Event) (h : disk.journal = none) :
    disk.record events = disk := by
  simp [record, h]

/-! ## What is on a disk -/

/-- Whether a place comes before another or is the same: folders before what is in them. -/
def placeUpTo : Place → Place → Bool
  | [], _ => true
  | _ :: _, [] => false
  | a :: rest, b :: more => if a = b then placeUpTo rest more else decide (a < b)

/-- The place of a path whose folders are taken for granted. -/
def resolve (home : Place) (path : String) : Place :=
  let step (place : Place) (name : String) : Place :=
    if name == "" || name == "." then place
    else if name == ".." then place.dropLast
    else place ++ [name]
  (Path.segments path).foldl step (if Path.isAbsolute path then [] else home)

/-- What has come to stand at a place or has changed there since a former disk. -/
def changes (former disk : Disk) : List (Place × Entry) :=
  disk.entries.filter fun (place, entry) => former.entry? place ≠ some entry

/-- The places where something stood on a former disk and stands nothing now. -/
def losses (former disk : Disk) : List Place :=
  (former.entries.map Prod.fst).filter fun place => (disk.entry? place).isNone

/-- The names behind another place, if it leads to this one. -/
def behind? : Place → Place → Option Place
  | [], place => some place
  | _ :: _, [] => none
  | a :: rest, b :: more => if a = b then behind? rest more else none

/-- The names of what stands in a folder. -/
def namesIn (disk : Disk) (place : Place) : List String :=
  disk.entries.filterMap fun (other, _) =>
    if other.dropLast = place then other.getLast? else none

/-- The paths of all files and folders in the working folder in order; those of folders end in a
slash. -/
def listing (disk : Disk) : List String :=
  let inside := disk.entries.filterMap fun (place, entry) =>
    (behind? disk.home place).map fun place => (place, entry)
  (inside.mergeSort fun a b => placeUpTo a.1 b.1).map fun (place, entry) =>
    "/".intercalate place ++ (if entry.isFolder then "/" else "")

end Disk

end SignalCatalog
