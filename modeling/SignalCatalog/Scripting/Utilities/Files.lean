import SignalCatalog.Scripting.Utilities.Options

/-!
# Programs for files and folders
-/

namespace SignalCatalog.Utilities

open Shell

namespace Files

/-! ## Trees -/

/-- The disk without a place and all below it. -/
def dropTree (disk : Disk) (place : Place) : Disk :=
  (disk.entries.filter fun item => place.isPrefixOf item.1).foldl
    (fun disk item => disk.take item.1) disk

/-- The places of a tree with what stands there, folders first; places are relative to its top. -/
def treeAt (disk : Disk) (place : Place) : List (Place × Entry) :=
  ((disk.entry? place).map fun entry => (([] : Place), entry)).toList ++
    ((disk.entries.filter fun item => place.isPrefixOf item.1 && item.1 ≠ place).map fun item =>
      (item.1.drop place.length, item.2)).mergeSort fun a b => Disk.placeUpTo a.1 b.1

/-- The disk with a tree at a place. -/
def putTree (disk : Disk) (place : Place) (tree : List (Place × Entry)) : Disk :=
  tree.foldl (fun disk (below, entry) => disk.put (place ++ below) entry) disk

/-- The disk after a file or a tree has been moved. -/
def moveTree (disk : Disk) (place newPlace : Place) : Disk :=
  match disk.entry? place with
  | some .folder =>
    if place = newPlace then disk
    else
      let tree := treeAt disk place
      let journal := disk.journal.map fun journal =>
        if place.isPrefixOf journal.place then
          { journal with place := newPlace ++ journal.place.drop place.length }
        else journal
      { putTree (dropTree disk place) newPlace tree with journal }
  | _ => disk.move place newPlace

def onDisk (disk : Disk) : Act PUnit := modify fun state => { state with disk }

/-- What stands at a path. -/
def find (path : String) : Act (Except OsError (Place × Entry)) := do
  return (← get).disk.find (State.pathOf path)

def isFolder (path : String) : Act Bool := do
  return match ← find path with
    | .ok (_, .folder) => true
    | _ => false

/-- The last name of a path. -/
def lastName (path : String) : String :=
  let names := (Path.segments path).filter fun name => name ≠ ""
  names.getLast?.getD path

/-! ## Folders -/

def mkdir (words : List String) : Act Nat :=
  withOptions "mkdir" 1 ⟨['p', 'v'], ['m'], [("parents", 'p'), ("verbose", 'v'), ("mode", 'm')]⟩ words
    fun options => do
      if options.operands.isEmpty then
        say "mkdir" "missing operand"
        Act.write 2 "Try 'mkdir --help' for more information.\n"
        return 1
      let mut good := true
      for path in options.operands do
        let disk := (← get).disk
        let text := State.pathOf path
        let (result, disk) := if options.has 'p' then disk.makeFolders text else disk.makeFolder text
        onDisk disk
        match result with
        | .ok () => if options.has 'v' then Act.write 1 ("mkdir: created directory '" ++ path ++ "'\n")
        | .error cause =>
          good := false
          say "mkdir" ("cannot create directory " ++ quoted path ++ ": " ++ osWords cause)
      return statusOf good

def rmdir (words : List String) : Act Nat :=
  withOptions "rmdir" 1 (.letters "pv" "") words fun options => do
    let mut good := true
    for path in options.operands do
      let disk := (← get).disk
      let problem : Option String := match disk.find (State.pathOf path) with
        | .error cause => some (osWords cause)
        | .ok (_, .file _) => some "Not a directory"
        | .ok (place, .folder) =>
          if (disk.namesIn place).isEmpty then none else some "Directory not empty"
      match problem, disk.find (State.pathOf path) with
      | none, .ok (place, _) => onDisk (disk.take place)
      | some why, _ =>
        good := false
        say "rmdir" ("failed to remove " ++ quoted path ++ ": " ++ why)
      | _, _ => pure ()
    return statusOf good

/-! ## Removing, copying and moving -/

def rm (words : List String) : Act Nat :=
  withOptions "rm" 1 ⟨"rRfivdI".toList, [], [("recursive", 'r'), ("force", 'f')]⟩ words
    fun options => do
      let deep := options.has 'r' || options.has 'R'
      let force := options.has 'f'
      if options.operands.isEmpty && !force then
        say "rm" "missing operand"
        Act.write 2 "Try 'rm --help' for more information.\n"
        return 1
      let mut good := true
      for path in options.operands do
        let disk := (← get).disk
        match disk.find (State.pathOf path) with
        | .error cause =>
          if !(force && (cause = .notFound || cause = .notDirectory)) then
            good := false
            say "rm" ("cannot remove " ++ quoted path ++ ": " ++ osWords cause)
        | .ok (place, .file _) => onDisk (disk.take place)
        | .ok (place, .folder) =>
          if deep then
            if ["." , ".."].contains (lastName path) then
              good := false
              say "rm" ("refusing to remove '.' or '..' directory: skipping " ++ quoted path)
            else onDisk (dropTree disk place)
          else if options.has 'd' && (disk.namesIn place).isEmpty then onDisk (disk.take place)
          else
            good := false
            say "rm" ("cannot remove " ++ quoted path ++
              (if options.has 'd' then ": Directory not empty" else ": Is a directory"))
      return statusOf good

/-- The sources and the goals of a program that copies or moves, or what is wrong with its words. -/
def pairs (name : String) (options : Options) : Act (Except String (List (String × String))) := do
  let inFolder (folder source : String) : String :=
    (if folder.endsWith "/" then folder else folder ++ "/") ++ lastName source
  match options.value? 't', options.operands with
  | some folder, sources => return .ok (sources.map fun source => (source, inFolder folder source))
  | none, [] => return .error "missing file operand"
  | none, [source] =>
    return .error ("missing destination file operand after " ++ quoted source)
  | none, [source, goal] =>
    if !options.has 'T' && (← isFolder goal) then return .ok [(source, inFolder goal source)]
    else return .ok [(source, goal)]
  | none, words =>
    let goal := words.getLast?.getD ""
    if ← isFolder goal then
      return .ok (words.dropLast.map fun source => (source, inFolder goal source))
    else match ← find goal with
      | .error cause => return .error ("target " ++ quoted goal ++ ": " ++ osWords cause)
      | .ok _ => return .error (if name = "" then "" else "target " ++ quoted goal ++ ": Not a directory")

/-- The place of a path, if something can be put there. -/
def goalPlace (disk : Disk) (path : String) : Except OsError Place := do
  let target ← disk.target (State.pathOf path)
  match target.last with
  | .here | .above => .error .alreadyThere
  | .named name => .ok (target.folder ++ [name])

/-- Goes on with pairs of paths, or complains. -/
def forPairs (name : String) (options : Options) (each : String → String → Act Bool) : Act Nat := do
  match ← pairs name options with
  | .error words =>
    say name words
    if (Text.after? "missing".toList words.toList).isSome then
      Act.write 2 ("Try '" ++ name ++ " --help' for more information.\n")
    return 1
  | .ok list =>
    let mut good := true
    for (source, goal) in list do
      if !(← each source goal) then good := false
    return statusOf good

/-- Complains, and tells that something went wrong. -/
def bad (name words : String) : Act Bool := do
  say name words
  return false

def copyOne (options : Options) (source goal : String) : Act Bool := do
  let deep := options.has 'r' || options.has 'R' || options.has 'a'
  let disk := (← get).disk
  match disk.find (State.pathOf source), disk.find (State.pathOf goal) with
  | .error cause, _ => bad "cp" ("cannot stat " ++ quoted source ++ ": " ++ osWords cause)
  | .ok (place, .folder), found =>
    if !deep then bad "cp" ("-r not specified; omitting directory " ++ quoted source)
    else match found with
      | .ok (_, .file _) =>
        bad "cp" ("cannot overwrite non-directory " ++ quoted goal ++ " with directory " ++
          quoted source)
      | _ =>
        match goalPlace disk goal with
        | .error cause =>
          bad "cp" ("cannot create directory " ++ quoted goal ++ ": " ++ osWords cause)
        | .ok newPlace =>
          if place.isPrefixOf newPlace then
            bad "cp" ("cannot copy a directory, " ++ quoted source ++ ", into itself, " ++ quoted goal)
          else
            onDisk (putTree disk newPlace (treeAt disk place))
            return true
  | .ok (place, .file content), found =>
    match found with
    | .ok (_, .folder) =>
      bad "cp" ("cannot overwrite directory " ++ quoted goal ++ " with non-directory")
    | .ok (other, .file _) =>
      if other = place then
        bad "cp" (quoted source ++ " and " ++ quoted goal ++ " are the same file")
      else
        if !options.has 'n' then onDisk (disk.put other (.file content))
        return true
    | .error _ =>
      match disk.filePlace (State.pathOf goal) with
      | .error cause =>
        bad "cp" ("cannot create regular file " ++ quoted goal ++ ": " ++
          osWords (if goal.endsWith "/" && cause = .isDirectory then .notDirectory else cause))
      | .ok newPlace =>
        onDisk (disk.put newPlace (.file content))
        if options.has 'v' then Act.write 1 (quoted source ++ " -> " ++ quoted goal ++ "\n")
        return true

def cp (words : List String) : Act Nat :=
  withOptions "cp" 1 ⟨"rRafpdnvTuiLP".toList, ['t'], [("recursive", 'r'), ("force", 'f')]⟩ words
    fun options => forPairs "cp" options (copyOne options)

def moveOne (options : Options) (source goal : String) : Act Bool := do
  let disk := (← get).disk
  match disk.find (State.pathOf source) with
  | .error cause => bad "mv" ("cannot stat " ++ quoted source ++ ": " ++ osWords cause)
  | .ok (place, entry) =>
    match goalPlace disk goal, disk.find (State.pathOf goal) with
    | .error cause, _ =>
      bad "mv" ("cannot move " ++ quoted source ++ " to " ++ quoted goal ++ ": " ++ osWords cause)
    | .ok newPlace, found =>
      if place = newPlace then
        bad "mv" (quoted source ++ " and " ++ quoted goal ++ " are the same file")
      else match entry, found with
        | .folder, .ok (_, .file _) =>
          bad "mv" ("cannot overwrite non-directory " ++ quoted goal ++ " with directory " ++
            quoted source)
        | .file _, .ok (_, .folder) =>
          bad "mv" ("cannot overwrite directory " ++ quoted goal ++ " with non-directory")
        | .folder, _ =>
          if place.isPrefixOf newPlace then
            bad "mv" ("cannot move " ++ quoted source ++ " to a subdirectory of itself, " ++ quoted goal)
          else
            onDisk (moveTree disk place newPlace)
            return true
        | .file _, _ =>
          if goal.endsWith "/" then
            bad "mv" ("cannot move " ++ quoted source ++ " to " ++ quoted goal ++ ": Not a directory")
          else
            if !(options.has 'n' && found.isOk) then onDisk (moveTree disk place newPlace)
            return true

def mv (words : List String) : Act Nat :=
  withOptions "mv" 1 ⟨"fnvTiu".toList, ['t'], [("force", 'f')]⟩ words fun options =>
    forPairs "mv" options (moveOne options)

/-! ## Making and marking files -/

def touch (words : List String) : Act Nat :=
  withOptions "touch" 1 (.letters "acm" "drt") words fun options => do
    if options.operands.isEmpty then
      say "touch" "missing file operand"
      Act.write 2 "Try 'touch --help' for more information.\n"
      return 1
    let mut good := true
    for path in options.operands do
      let disk := (← get).disk
      if !(disk.find (State.pathOf path)).isOk && !options.has 'c' then
        match disk.filePlace (State.pathOf path) with
        | .ok place => onDisk (disk.put place (.file (.text "")))
        | .error cause =>
          good := false
          let cause := if cause = .isDirectory then .notFound else cause
          say "touch" ("cannot touch " ++ quoted path ++ ": " ++ osWords cause)
    return statusOf good

/-- Whether a mode makes a file one that can be run, or one that cannot. -/
def runnableBy? (mode : String) : Option Bool :=
  match Text.natural? mode.toList with
  | some _ =>
    match mode.toList.reverse with
    | _ :: _ :: owner :: _ => some ((owner.toNat - 48) % 2 = 1)
    | _ => some false
  | none =>
    if !mode.contains 'x' then none
    else if mode.contains '+' || mode.contains '=' then some true
    else if mode.contains '-' then some false
    else none

def chmod (words : List String) : Act Nat := do
  match words.filter fun word => !(["-R", "-v", "-f", "-c", "--"].contains word) with
  | mode :: paths =>
    let mut good := true
    for path in paths do
      let state ← get
      match state.disk.find (State.pathOf path) with
      | .ok (place, _) =>
        match runnableBy? mode with
        | some on =>
          let others := state.runnable.filter (· ≠ place)
          set { state with runnable := if on then place :: others else others }
        | none => pure ()
      | .error cause =>
        good := false
        say "chmod" ("cannot access " ++ quoted path ++ ": " ++ osWords cause)
    return statusOf good
  | [] =>
    say "chmod" "missing operand"
    return 1

def mktemp (words : List String) : Act Nat :=
  withOptions "mktemp" 1 (.letters "dqut" "p") words fun options => do
    let state ← get
    let count := (state.disk.namesIn ["tmp"]).length
    let path := "/tmp/tmp.signal" ++ Text.number (1000 + count)
    let place : Place := ["tmp", "tmp.signal" ++ Text.number (1000 + count)]
    let entry : Entry := if options.has 'd' then .folder else .file (.text "")
    onDisk (state.disk.put place entry)
    Act.write 1 (path ++ "\n")
    return 0

/-! ## Lists -/

/-- The names that a folder is shown with. -/
def shownNames (options : Options) (disk : Disk) (place : Place) : List String :=
  let names := (disk.namesIn place).map Text.Octets.ofText
  let names := if options.has 'a' || options.has 'A' then names
    else names.filter fun name => !name.startsWith "."
  let names := if options.has 'a' then "." :: ".." :: names else names
  let names := names.mergeSort fun a b => decide (a ≤ b)
  let names := if options.has 'r' then names.reverse else names
  names.map fun name =>
    if options.has 'p' || options.has 'F' then
      match disk.entry? (place ++ [State.pathOf name]) with
      | some .folder => name ++ "/"
      | _ => name
    else name

/-- The folders of a tree in the order in which they are listed. -/
def foldersUpTo (disk : Disk) : (fuel : Nat) → String → Place → List (String × Place)
  | 0, _, _ => []
  | fuel + 1, path, place =>
    let names := ((disk.namesIn place).map Text.Octets.ofText).mergeSort fun a b => decide (a ≤ b)
    let below := names.filter fun name =>
      !name.startsWith "." && (match disk.entry? (place ++ [State.pathOf name]) with
        | some .folder => true
        | _ => false)
    (path, place) :: below.flatMap fun name =>
      foldersUpTo disk fuel (path ++ "/" ++ name) (place ++ [State.pathOf name])

def ls (words : List String) : Act Nat :=
  withOptions "ls" 2 ⟨"1aAdrtpFCRlhSUXi".toList, ['I'], [("all", 'a'), ("almost-all", 'A')]⟩ words
    fun options => do
      let disk := (← get).disk
      let paths := if options.operands.isEmpty then ["."] else options.operands
      let mut files := []
      let mut folders := []
      let mut status := 0
      for path in paths do
        match disk.find (State.pathOf path) with
        | .error cause =>
          status := 2
          say "ls" ("cannot access " ++ quoted path ++ ": " ++ osWords cause)
        | .ok (place, .folder) =>
          if options.has 'd' then files := path :: files
          else folders := (path, place) :: folders
        | .ok _ => files := path :: files
      let sortedFiles := files.mergeSort fun a b => decide (a ≤ b)
      let sortedFolders := folders.mergeSort fun a b => decide (a.1 ≤ b.1)
      Act.write 1 (unlines sortedFiles)
      let mut first := sortedFiles.isEmpty
      let listed := if options.has 'R' then
          sortedFolders.flatMap fun (path, place) => foldersUpTo disk 100 path place
        else sortedFolders
      for (path, place) in listed do
        if paths.length > 1 || options.has 'R' then
          Act.write 1 ((if first then "" else "\n") ++ path ++ ":\n")
        first := false
        Act.write 1 (unlines (shownNames options disk place))
      return status

/-- The conditions of a search, and what is done with what it finds. -/
structure Search where
  kind : Option Char
  names : List Pattern
  minDepth : Nat
  maxDepth : Option Nat
  deletes : Bool
  /-- Commands with a mark for the path; the flag says that they take all paths at once. -/
  commands : List (List String × Bool)
  /-- Whether paths are printed in spite of what else is done. -/
  prints : Bool
  /-- Whether only empty files and folders are wanted. -/
  empty : Bool
  /-- A word that is no condition. -/
  fault : Option String

/-- Reads the conditions of a search; `fuel` bounds their number. -/
def searchUpTo : (fuel : Nat) → Search → List String → Search
  | 0, search, _ | _, search, [] => search
  | fuel + 1, search, word :: rest =>
    match word, rest with
    | "-type", kind :: rest => searchUpTo fuel { search with kind := kind.toList.head? } rest
    | "-name", name :: rest =>
      searchUpTo fuel { search with names := Pattern.ofText name :: search.names } rest
    | "-maxdepth", n :: rest =>
      searchUpTo fuel { search with maxDepth := Text.natural? n.toList } rest
    | "-mindepth", n :: rest =>
      searchUpTo fuel { search with minDepth := (Text.natural? n.toList).getD 0 } rest
    | "-delete", rest => searchUpTo fuel { search with deletes := true } rest
    | "-print", rest => searchUpTo fuel { search with prints := true } rest
    | "-empty", rest => searchUpTo fuel { search with empty := true } rest
    | "-exec", rest =>
      let words := rest.takeWhile fun word => word ≠ ";" && word ≠ "+"
      let atOnce := (rest.drop words.length).head? == some "+"
      searchUpTo fuel { search with commands := search.commands ++ [(words, atOnce)] }
        (rest.drop (words.length + 1))
    | word, rest =>
      if ["-a", "-and", "-depth", "-follow", "-xdev"].contains word then searchUpTo fuel search rest
      else { search with fault := some ("unknown predicate \x60" ++ word ++ "'") }

/-- A word of a command with a path in the place of each mark. -/
def withPath (path word : String) : String :=
  path.intercalate ((Text.pieces '\x7b' word.toList).foldl (fun found piece =>
    match found, piece with
    | last :: before, '\x7d' :: rest => String.ofList rest :: last :: before
    | last :: before, piece => (last ++ "\x7b" ++ String.ofList piece) :: before
    | [], piece => [String.ofList piece]) []).reverse

def findFiles (engine : Engine) (words : List String) : Act Nat := do
  let paths := words.takeWhile fun word => !word.startsWith "-"
  let search := searchUpTo (words.length + 1) ⟨none, [], 0, none, false, [], false, false, none⟩
    (words.drop paths.length)
  match search.fault with
  | some fault => failed "find" 1 fault
  | none =>
    let mut good := true
    let mut found := []
    for path in if paths.isEmpty then ["."] else paths do
      let disk := (← get).disk
      match disk.find (State.pathOf path) with
      | .error cause =>
        good := false
        say "find" (quoted path ++ ": " ++ osWords cause)
      | .ok (place, _) =>
        for (below, entry) in treeAt disk place do
          let name := if below.isEmpty then lastName path
            else Text.Octets.ofText (below.getLast?.getD "")
          let isEmpty := match entry with
            | .folder => (disk.namesIn (place ++ below)).isEmpty
            | .file content => content.toBytes.isEmpty
          let fits := (match search.kind with
            | some 'f' => !entry.isFolder
            | some 'd' => entry.isFolder
            | _ => true) && search.names.all (fun pattern => pattern.isMatch name.toList) &&
            search.minDepth ≤ below.length && (search.maxDepth.all fun n => below.length ≤ n) &&
            (!search.empty || isEmpty)
          if fits then
            let shown := if below.isEmpty then path
              else (if path.endsWith "/" then path else path ++ "/") ++
                Text.Octets.ofText ("/".intercalate below)
            found := (shown, place ++ below) :: found
    let ordered := found.reverse
    for (path, place) in ordered do
      for (command, atOnce) in search.commands do
        if !atOnce then
          let _ ← call engine (command.map (withPath path))
      if search.deletes then onDisk (dropTree (← get).disk place)
      if search.prints || (!search.deletes && search.commands.isEmpty) then Act.write 1 (path ++ "\n")
    for (command, atOnce) in search.commands do
      if atOnce && !ordered.isEmpty then
        let words := command.flatMap fun word =>
          if word = "\x7b\x7d" then ordered.map Prod.fst else [word]
        let _ ← call engine words
    return statusOf good

/-! ## Names -/

/-- A path without the slashes at its end; one of slashes only is a slash. -/
def withoutSlashes (path : List Char) : List Char :=
  match path with
  | [] => []
  | c :: rest =>
    let kept := ((c :: rest).reverse.dropWhile (· = '/')).reverse
    if kept.isEmpty then ['/'] else kept

def baseName (path ending : String) : String :=
  let name := withoutSlashes path.toList
  let base := if name = ['/'] then name else (name.reverse.takeWhile (· ≠ '/')).reverse
  match Text.before? ending.toList base with
  | some short => String.ofList (if short.isEmpty then base else short)
  | none => String.ofList base

def basename (words : List String) : Act Nat :=
  withOptions "basename" 1 (.letters "az" "s") words fun options => do
    match options.value? 's', options.has 'a', options.operands with
    | some ending, _, paths => Act.write 1 (unlines (paths.map fun path => baseName path ending))
    | none, true, paths => Act.write 1 (unlines (paths.map fun path => baseName path ""))
    | none, false, [path] => Act.write 1 (baseName path "" ++ "\n")
    | none, false, [path, ending] => Act.write 1 (baseName path ending ++ "\n")
    | none, false, [] =>
      say "basename" "missing operand"
      Act.write 2 "Try 'basename --help' for more information.\n"
      return 1
    | none, false, _ :: _ :: extra :: _ =>
      say "basename" ("extra operand " ++ quoted extra)
      Act.write 2 "Try 'basename --help' for more information.\n"
      return 1
    return 0

def folderName (path : String) : String :=
  let name := withoutSlashes path.toList
  let lead := (name.reverse.dropWhile (· ≠ '/')).reverse
  if name = ['/'] then "/"
  else if lead.isEmpty then "."
  else String.ofList (withoutSlashes lead)

def dirname (words : List String) : Act Nat := do
  if words.isEmpty then
    say "dirname" "missing operand"
    Act.write 2 "Try 'dirname --help' for more information.\n"
    return 1
  Act.write 1 (unlines ((words.filter (· ≠ "--")).map folderName))
  return 0

/-- The path of a place, from the root. -/
def realpath (name : String) (words : List String) : Act Nat := do
  let mut good := true
  for path in words.filter fun word => !word.startsWith "-" do
    let disk := (← get).disk
    match goalPlace disk path, disk.find (State.pathOf path) with
    | _, .ok (place, _) | .ok place, _ =>
      Act.write 1 (Text.Octets.ofText ("/" ++ "/".intercalate place) ++ "\n")
    | .error cause, _ =>
      good := false
      say name (path ++ ": " ++ osWords cause)
  return statusOf good

end Files

/-- The programs for files and folders. -/
def fileProgram? : Programs := fun engine name =>
  match name with
  | "mkdir" => some Files.mkdir
  | "rmdir" => some Files.rmdir
  | "rm" => some Files.rm
  | "cp" => some Files.cp
  | "mv" => some Files.mv
  | "touch" => some Files.touch
  | "chmod" => some Files.chmod
  | "mktemp" => some Files.mktemp
  | "ls" => some Files.ls
  | "find" => some (Files.findFiles engine)
  | "basename" => some Files.basename
  | "dirname" => some Files.dirname
  | "realpath" => some (Files.realpath "realpath")
  | "readlink" => some (Files.realpath "readlink")
  | _ => none

end SignalCatalog.Utilities
