import SignalCatalog.Generation.Script
import SignalCatalog.Scripting.Indented.Library
import SignalCatalog.Scripting.Shell.Evaluation

/-!
# Functions of the library of indented scripts
-/

namespace SignalCatalog.Indented

namespace Run

variable (engine : Engine)

/-! ## Values -/

def withIndex (start : Int) : List Value → List Value
  | [] => []
  | value :: rest => .tuple [.whole start, value] :: withIndex (start + 1) rest

/-- The rows that lists make side by side, as long as the shortest; `fuel` bounds their number. -/
def rows : (fuel : Nat) → List (List Value) → List Value
  | 0, _ => []
  | fuel + 1, columns =>
    if columns.isEmpty || columns.any List.isEmpty then []
    else .tuple (columns.map fun column => column.headD .nothing) :: rows fuel (columns.map List.tail)

def digitsOf (lead : String) (base : Nat) (arguments : Arguments) : Run Value := do
  let n ← asInteger (← need "hex" arguments 0 "number")
  return .text ((if n < 0 then "-" else "") ++ lead ++
    Shell.Format.Directive.digitsIn base false n.natAbs)

/-- The names that a value has. -/
def namesOf (value : Value) : Run (List String) := do
  match ← thing? value with
  | some (.record _ fields) => return fields.map Prod.fst
  | _ => return []

/-- Whether a value has something under a name. -/
def hasMember (owner : Value) (name : String) : Run Bool := do
  tryCatch (do
    let _ ← engine.member owner name
    return true) fun stop => do
      match stop with
      | .raised exception trace =>
        if ← isOf exception (.native "AttributeError") then return false
        else throw (.raised exception trace)
      | stop => throw stop

/-- The first value of an iterator, which moves on behind it. -/
def next (arguments : Arguments) : Run Value := do
  let source ← need "next" arguments 0 "iterator"
  match source with
  | .object address =>
    match ← thingAt address with
    | .iterator (value :: rest) =>
      put address (.iterator rest)
      return value
    | .iterator [] =>
      match arguments.get? 1 "default" with
      | some value => return value
      | none => failWith "StopIteration" []
    | _ =>
      match ← special? source "__next__" with
      | some function => engine.call function ⟨[source], []⟩
      | none => fail "TypeError" ("'" ++ (← kindName source) ++ "' object is not an iterator")
  | _ => fail "TypeError" ("'" ++ (← kindName source) ++ "' object is not an iterator")

def builtin? (name : String) : Option Native :=
  let iterator (make_ : Arguments → Run (List Value)) : Option Native := some fun arguments => do
    make (.iterator (← make_ arguments))
  match name with
  | "print" => some (print engine)
  | "len" => some fun arguments => do return .whole (← sizeOf engine (← need name arguments 0 "obj"))
  | "range" => some rangeOf
  | "str" => some fun arguments => do
    match arguments.plain with
    | [] => return .text ""
    | .octets octets :: _ :: _ => return .text (← decoded octets)
    | value :: _ => return .text (← textOf engine value)
  | "repr" | "ascii" => some fun arguments => do
    return .text (← shown engine (← need name arguments 0 "obj"))
  | "int" => some (toInteger engine)
  | "float" => some toFraction
  | "bool" => some fun arguments => do
    match arguments.plain.head? with
    | some value => return .truth (← truth engine value)
    | none => return .truth false
  | "list" => some fun arguments => do
    match arguments.plain.head? with
    | some value => makeList (← items engine value)
    | none => makeList []
  | "tuple" => some fun arguments => do
    match arguments.plain.head? with
    | some value => return .tuple (← items engine value)
    | none => return .tuple []
  | "set" | "frozenset" => some fun arguments => do
    match arguments.plain.head? with
    | some value => make (.set (← distinct engine (← items engine value)))
    | none => make (.set [])
  | "dict" => some fun arguments => do
    let found ← make (.dict [])
    let _ ← engine.call (.method found "update") arguments
    return found
  | "bytes" | "bytearray" => some fun arguments => do
    match arguments.plain.head? with
    | none => return .octets ""
    | some (.text text) => return .octets (Text.Octets.ofText text)
    | some (.octets octets) => return .octets octets
    | some (.whole n) => return .octets (String.ofList (List.replicate n.toNat (Char.ofNat 0)))
    | some value =>
      let found ← items engine value
      return .octets (String.ofList (found.filterMap fun item =>
        (integer? item).map fun n => Char.ofNat (n.toNat % 256)))
  | "sorted" => some fun arguments => do
    makeList (← sorted engine (← items engine (← need name arguments 0 "iterable"))
      ⟨[], arguments.named⟩ 0)
  | "reversed" => iterator fun arguments => do
    return (← items engine (← need name arguments 0 "sequence")).reverse
  | "enumerate" => iterator fun arguments => do
    let start ← match arguments.get? 1 "start" with
      | some value => asInteger value
      | none => pure 0
    return withIndex start (← items engine (← need name arguments 0 "iterable"))
  | "zip" => iterator fun arguments => do
    let columns ← arguments.plain.mapM (items engine)
    return rows ((columns.map List.length).foldl max 0 + 1) columns
  | "map" => iterator fun arguments => do
    let function ← need name arguments 0 "func"
    let columns ← (arguments.plain.drop 1).mapM (items engine)
    (rows ((columns.map List.length).foldl max 0 + 1) columns).mapM fun row => do
      match row with
      | .tuple values => engine.call function ⟨values, []⟩
      | value => return value
  | "filter" => iterator fun arguments => do
    let function ← need name arguments 0 "function"
    (← items engine (← need name arguments 1 "iterable")).filterM fun value => do
      match function with
      | .nothing => truth engine value
      | function => truth engine (← engine.call function ⟨[value], []⟩)
  | "iter" => iterator fun arguments => do items engine (← need name arguments 0 "iterable")
  | "next" => some (next engine)
  | "sum" => some fun arguments => do
    let mut total := (arguments.get? 1 "start").getD (.whole 0)
    for value in ← items engine (← need name arguments 0 "iterable") do
      total ← binary engine .add total value
    return total
  | "min" => some (extreme engine name false)
  | "max" => some (extreme engine name true)
  | "any" => some fun arguments => do
    return .truth (← (← items engine (← need name arguments 0 "iterable")).anyM (truth engine))
  | "all" => some fun arguments => do
    return .truth (← (← items engine (← need name arguments 0 "iterable")).allM (truth engine))
  | "abs" => some fun arguments => do
    let value ← need name arguments 0 "x"
    match integer? value, value with
    | some n, _ => return .whole n.natAbs
    | none, .fraction x =>
      return .fraction (if (x.value?).any fun q => q < 0 then x.neg else x)
    | none, _ => fail "TypeError" ("bad operand type for abs(): '" ++ (← kindName value) ++ "'")
  | "round" => some round
  | "divmod" => some fun arguments => do
    let a ← need name arguments 0 "x"
    let b ← need name arguments 1 "y"
    return .tuple [← binary engine .floorDivide a b, ← binary engine .remainder a b]
  | "pow" => some fun arguments => do
    let value ← binary engine .power (← need name arguments 0 "base") (← need name arguments 1 "exp")
    match arguments.get? 2 "mod" with
    | some modulus => binary engine .remainder value modulus
    | none => return value
  | "hex" => some (digitsOf "0x" 16)
  | "oct" => some (digitsOf "0o" 8)
  | "bin" => some (digitsOf "0b" 2)
  | "chr" => some fun arguments => do
    return .text (Char.ofNat (← asInteger (← need name arguments 0 "i")).toNat).toString
  | "ord" => some fun arguments => do
    match ← need name arguments 0 "c" with
    | .text text | .octets text =>
      match text.toList with
      | [c] => return .whole c.toNat
      | found => fail "TypeError" ("ord() expected a character, but string of length " ++
          Text.number found.length ++ " found")
    | _ => fail "TypeError" "ord() expected string of length 1"
  | "format" => some fun arguments => do
    let format ← match arguments.get? 1 "format_spec" with
      | some value => asText value
      | none => pure ""
    return .text (← formatted engine (← need name arguments 0 "value") format)
  | "isinstance" => some fun arguments => do
    return .truth (← isInstanceOfAny (← need name arguments 0 "obj") (← need name arguments 1 "kind"))
  | "issubclass" => some fun arguments => do
    let kind ← need name arguments 1 "kind"
    return .truth ((← kinds (← need name arguments 0 "cls")).any (sameKind kind))
  | "type" => some fun arguments => do kindOf (← need name arguments 0 "object")
  | "id" => some fun arguments => do
    match ← need name arguments 0 "obj" with
    | .object address => return .whole (140000000000000 + 16 * address)
    | _ => return .whole 140000000000000
  | "callable" => some fun arguments => do
    match ← need name arguments 0 "obj" with
    | .native _ | .method _ _ => return .truth true
    | value =>
      match ← thing? value with
      | some (.function _) | some (.bound _ _) | some (.kind _ _ _) => return .truth true
      | _ => return .truth (← special? value "__call__").isSome
  | "hasattr" => some fun arguments => do
    return .truth (← hasMember engine (← need name arguments 0 "obj")
      (← asText (← need name arguments 1 "name")))
  | "getattr" => some fun arguments => do
    let owner ← need name arguments 0 "object"
    let word ← asText (← need name arguments 1 "name")
    match arguments.get? 2 "default" with
    | some value => if ← hasMember engine owner word then engine.member owner word else return value
    | none => engine.member owner word
  | "open" => some fun arguments => do
    let mode ← match arguments.get? 1 "mode" with
      | some value => asText value
      | none => pure "r"
    match ← need name arguments 0 "file" with
    | .whole n => make (.file ⟨n.toNat, Text.integer n, mode, false⟩)
    | value => openPath (← asPath value) mode
  | "input" => some fun _ => do
    match ← thing? ((← setting? "sys.stdin").getD .nothing) with
    | some (.file file) =>
      let octets ← inWorld do
        let state ← get
        let text := (linesWithBreaks (state.unread file.index)).headD ""
        set (state.advance file.index text.length)
        return text
      if octets = "" then fail "EOFError" "EOF when reading a line"
      let text ← decoded octets
      return .text (if text.endsWith "\n" then String.ofList text.toList.dropLast else text)
    | _ => fail "EOFError" "EOF when reading a line"
  | "exit" | "quit" => some fun arguments => failWith "SystemExit" arguments.plain
  | "vars" | "dir" => some fun arguments => do
    match arguments.plain.head? with
    | some value => makeList ((← namesOf value).map .text)
    | none => makeList []
  | "object" => some fun _ => make (.record (.native "object") [])
  | "property" | "staticmethod" | "classmethod" => some fun arguments => do
    make (.record (.native name) [("f", ← need name arguments 0 "f")])
  | _ => none

/-! ## The system -/

/-- Runs a command and gives what it writes, if that is asked for. -/
def runCommand (command : Shell.Act Nat) (takesOutput takesErrors : Bool) :
    Run (Nat × String × String) := do
  inWorld do
    let before ← get
    let first := before.files.length
    let buffer : Shell.OpenFile := ⟨.buffer "", 0, false, true, true⟩
    modify fun state =>
      let state := { state with files := state.files ++ [buffer, buffer] }
      let state := if takesOutput then state.setStream 1 (some first) else state
      if takesErrors then state.setStream 2 (some (first + 1)) else state
    let status ← command
    modify fun state => { state with streams := before.streams, flow := before.flow }
    let after ← get
    return (status, after.unread first, after.unread (first + 1))

/-- The command that some arguments ask for. -/
def commandOf (arguments : Arguments) : Run (Shell.Act Nat) := do
  let command ← need "run" arguments 0 "args"
  let inShell ← match (arguments.named.find? fun item => item.1 = "shell").map Prod.snd with
    | some value => truth engine value
    | none => pure false
  let start (words : List String) : Run (Shell.Act Nat) := do
    let name := words.headD ""
    if !name.contains '/' && !engine.isProgram (Text.Octets.ofText name) then failOs .notFound name
    return engine.system (words.map Text.Octets.ofText)
  match command, inShell with
  | .text text, true => return engine.shell (Text.Octets.ofText text)
  | .text text, false => start [text]
  | value, _ => start (← (← items engine value).mapM asPath)

def subprocess (arguments : Arguments) (takesOutput checks : Bool) : Run (Int × Value × Value) := do
  let command ← commandOf engine arguments
  let named (name : String) : Option Value :=
    (arguments.named.find? fun item => item.1 = name).map Prod.snd
  let asked (name : String) : Run Bool := match named name with
    | some value => truth engine value
    | none => return false
  let captures ← asked "capture_output"
  let takesOut := takesOutput || captures || (named "stdout").isSome
  let takesErr := captures || (named "stderr").isSome
  let (status, output, errors) ← runCommand command takesOut takesErr
  let isText := (← asked "text") || (← asked "universal_newlines")
  let wrap (octets : String) : Value :=
    if isText then .text (Text.Octets.shown octets) else .octets octets
  let code : Int := if status > 128 then 128 - (status : Int) else status
  if code ≠ 0 && (checks || (← asked "check")) then
    let words := "Command returned non-zero exit status " ++ Text.integer code ++ "."
    raise (← make (.record (.native "subprocess.CalledProcessError")
      [("args", .tuple [.text words]), ("returncode", .whole code)]))
  return (code, if takesOut then wrap output else .nothing, if takesErr then wrap errors else .nothing)

/-- The folders below a path, each with the names of the folders and files in it. -/
def walkUpTo : (fuel : Nat) → String → Run (List Value)
  | 0, _ => return []
  | fuel + 1, path => do
    let disk ← diskNow
    match disk.find path with
    | .ok (place, .folder) =>
      let names := disk.namesIn place
      let isFolder (name : String) : Bool := match disk.entry? (place ++ [name]) with
        | some .folder => true
        | _ => false
      let folders := names.filter isFolder
      let files := names.filter fun name => !isFolder name
      let mut found := [Value.tuple [.text path, ← makeList (folders.map .text),
        ← makeList (files.map .text)]]
      for name in folders do
        found := found ++ (← walkUpTo fuel (joinPaths path name))
      return found
    | _ => return []

def sizeOfFile (path : String) : Run Value := do
  match (← diskNow).find path with
  | .ok (_, .file content) => return .whole content.toBytes.size
  | .ok (_, .folder) => return .whole 4096
  | .error cause => failOs cause path

def system? (name : String) : Option Native :=
  let path (arguments : Arguments) (index : Nat) : Run String := do
    asPath (← need name arguments index "path")
  let test (holds : Entry → Bool) : Option Native := some fun arguments => do
    match (← diskNow).find (← path arguments 0) with
    | .ok (_, entry) => return .truth (holds entry)
    | .error _ => return .truth false
  let unit (action : Arguments → Run Unit) : Option Native := some fun arguments => do
    action arguments
    return .nothing
  match name with
  | "sys.exit" => some fun arguments => failWith "SystemExit" arguments.plain
  | "sys.getdefaultencoding" | "sys.getfilesystemencoding" => some fun _ => return .text "utf-8"
  | "sys.setrecursionlimit" | "sys.stdout.flush" => some fun _ => return .nothing
  | "sys.exc_info" => some fun _ => do
    match (← get).handling with
    | exception :: _ => return .tuple [← kindOf exception, exception, .nothing]
    | [] => return .tuple [.nothing, .nothing, .nothing]
  | "os.getcwd" => some fun _ => do return .text (← absolute ".")
  | "os.getpid" => some fun _ => do return .whole ((← get).world.process + 7)
  | "os.getppid" => some fun _ => do return .whole (← get).world.process
  | "os.kill" => some (kill engine)
  | "signal.raise_signal" => some fun arguments => do
    signal engine (← asInteger (← need name arguments 0 "signalnum"))
  | "signal.signal" => some setSignal
  | "signal.alarm" => some fun _ => return .whole 0
  | "os.abort" => some fun _ => throw (.killed 6)
  | "os._exit" => some fun arguments => do
    let n ← asInteger (← need name arguments 0 "status")
    throw (.ended (n % 256).toNat)
  | "os.getenv" => some fun arguments => do
    match ← thing? ((← setting? "os.environ").getD .nothing) with
    | some (.dict entries) =>
      return ((← entry? engine entries (← need name arguments 0 "key")).or
        (arguments.get? 1 "default")).getD .nothing
    | _ => return .nothing
  | "os.makedirs" => unit fun arguments => do
    makeFolders (← path arguments 0) (← flag engine arguments 2 "exist_ok" false)
  | "os.mkdir" => unit fun arguments => do makeFolder (← path arguments 0)
  | "os.listdir" => some fun arguments => do
    let found ← match arguments.plain.head? with
      | some value => asPath value
      | none => pure "."
    makeList ((← namesAt found).map .text)
  | "os.remove" | "os.unlink" => unit fun arguments => do removeFile (← path arguments 0)
  | "os.rmdir" => unit fun arguments => do removeFolder (← path arguments 0)
  | "os.rename" | "os.replace" | "shutil.move" => unit fun arguments => do
    movePath (← path arguments 0) (← path arguments 1)
  | "os.chdir" => unit fun arguments => do
    let goal ← path arguments 0
    match (← diskNow).find goal with
    | .ok (place, .folder) => setDisk { (← diskNow) with here := place }
    | .ok _ => failOs .notDirectory goal
    | .error cause => failOs cause goal
  | "os.chmod" | "os.umask" => some fun _ => return .whole 0
  | "os.access" => test fun _ => true
  | "os.system" => some fun arguments => do
    let text ← asText (← need name arguments 0 "command")
    let (status, _, _) ← runCommand (engine.shell (Text.Octets.ofText text)) false false
    return .whole (256 * status)
  | "os.write" => some fun arguments => do
    let stream ← asInteger (← need name arguments 0 "fd")
    match ← need name arguments 1 "data" with
    | .octets octets =>
      inWorld (Shell.Act.write stream.toNat octets)
      return .whole octets.length
    | value => fail "TypeError" ("a bytes-like object is required, not '" ++ (← kindName value) ++ "'")
  | "os.walk" => some fun arguments => do
    make (.iterator (← walkUpTo 100 (← path arguments 0)))
  | "os.stat" => some fun arguments => do
    let size ← sizeOfFile (← path arguments 0)
    make (.record (.native "os.stat_result") [("st_size", size)])
  | "os.path.exists" | "os.path.lexists" => test fun _ => true
  | "os.path.isfile" => test fun entry => !entry.isFolder
  | "os.path.isdir" => test fun entry => entry.isFolder
  | "os.path.getsize" => some fun arguments => do sizeOfFile (← path arguments 0)
  | "os.path.join" => some fun arguments => do
    match ← arguments.plain.mapM asPath with
    | first :: rest =>
      return .text (rest.foldl (fun found part =>
        if part = "" && !found.endsWith "/" then found ++ "/"
        else if found = "." then "./" ++ part else joinPaths found part) first)
    | [] => fail "TypeError" "join() missing 1 required positional argument: 'a'"
  | "os.path.basename" => some fun arguments => do return .text (lastOf (← path arguments 0))
  | "os.path.dirname" => some fun arguments => do return .text (parentOf (← path arguments 0))
  | "os.path.split" => some fun arguments => do
    let found ← path arguments 0
    return .tuple [.text (parentOf found), .text (lastOf found)]
  | "os.path.splitext" => some fun arguments => do
    let found ← path arguments 0
    let (_, ending) := stemAndEnding (lastOf found)
    return .tuple [.text (String.ofList (found.toList.take (found.length - ending.length))),
      .text ending]
  | "os.path.abspath" | "os.path.realpath" => some fun arguments => do
    return .text (← absolute (← path arguments 0))
  | "os.path.normpath" => some fun arguments => do
    let found ← path arguments 0
    let kept := ((Path.segments found).filter fun part => part ≠ "" && part ≠ ".").foldl
      (fun found part => if part = ".." && !found.isEmpty then found.drop 1 else part :: found) []
    let text := "/".intercalate kept.reverse
    return .text (if found.startsWith "/" then "/" ++ text else if text = "" then "." else text)
  | "os.path.isabs" => some fun arguments => do
    return .truth ((← path arguments 0).startsWith "/")
  | "shutil.copy" | "shutil.copyfile" | "shutil.copy2" => some fun arguments => do
    let source ← path arguments 0
    let goal ← path arguments 1
    let goal := if name ≠ "shutil.copyfile" && (← diskNow).isFolder goal then
      joinPaths goal (lastOf source) else goal
    let _ ← writeAll goal true (← readAll source true)
    return .text goal
  | "shutil.rmtree" => unit fun arguments => do
    let goal ← path arguments 0
    let mayMiss ← flag engine arguments 1 "ignore_errors" false
    match (← diskNow).find goal with
    | .ok (place, .folder) => setDisk (Utilities.Files.dropTree (← diskNow) place)
    | .ok _ => if !mayMiss then failOs .notDirectory goal
    | .error cause => if !mayMiss then failOs cause goal
  | "shutil.copytree" => some fun arguments => do
    let source ← path arguments 0
    let goal ← path arguments 1
    let disk ← diskNow
    match disk.find source, Utilities.Files.goalPlace disk (Text.Octets.ofText goal) with
    | .ok (place, .folder), .ok newPlace =>
      setDisk (Utilities.Files.putTree disk newPlace (Utilities.Files.treeAt disk place))
      return .text goal
    | .ok _, _ => failOs .notDirectory source
    | .error cause, _ => failOs cause source
  | "shutil.which" => some fun arguments => do
    let found ← path arguments 0
    return if ["sh", "dash", "bash", "cat", "ls", "cp", defaultInterpreter].contains found then
      .text ("/usr/bin/" ++ found) else .nothing
  | "time.sleep" => some fun _ => return .nothing
  | "time.time" | "time.monotonic" | "time.perf_counter" => some fun _ =>
    return .fraction (.ofNat 1750000000)
  | "atexit.register" => some fun arguments => do
    let function ← need name arguments 0 "func"
    modify fun machine =>
      { machine with hooks := (function, arguments.plain.drop 1) :: machine.hooks }
    return function
  | "json.dumps" => some fun arguments => do
    return .text (← dataOf (← layoutOf engine arguments) 50 "" (← need name arguments 0 "obj"))
  | "json.dump" => some fun arguments => do
    let text ← dataOf (← layoutOf engine arguments) 50 "" (← need name arguments 0 "obj")
    let _ ← engine.call (← engine.member (← need name arguments 1 "fp") "write") ⟨[.text text], []⟩
    return .nothing
  | "json.loads" => some fun arguments => do
    match ← need name arguments 0 "s" with
    | .octets octets => loadData (← decoded octets)
    | value => loadData (← asText value)
  | "json.load" => some fun arguments => do
    match ← engine.call (← engine.member (← need name arguments 0 "fp") "read") ⟨[], []⟩ with
    | .octets octets => loadData (← decoded octets)
    | value => loadData (← asText value)
  | "subprocess.run" => some fun arguments => do
    let (code, output, errors) ← subprocess engine arguments false false
    make (.record (.native "subprocess.CompletedProcess")
      [("returncode", .whole code), ("stdout", output), ("stderr", errors)])
  | "subprocess.call" => some fun arguments => do
    return .whole (← subprocess engine arguments false false).1
  | "subprocess.check_call" => some fun arguments => do
    return .whole (← subprocess engine arguments false true).1
  | "subprocess.check_output" => some fun arguments => do
    return (← subprocess engine arguments true true).2.1
  | "glob.glob" => some fun arguments => do
    let pattern ← path arguments 0
    let world := (← get).world
    let found := (Shell.State.glob world (Shell.Pattern.lettersOf (Text.Octets.ofText pattern).toList)).map
      Text.Octets.shown
    let there := found.filter fun name => (world.disk.find name).isOk
    makeList (there.map .text)
  | "pathlib.Path" | "pathlib.PurePath" | "pathlib.PosixPath" => some fun arguments => do
    let parts ← arguments.plain.mapM asPath
    let whole := parts.foldl joinPaths ""
    let names := (Path.segments whole).filter fun part => part ≠ "" && part ≠ "."
    let text := "/".intercalate names
    makePath (if whole.startsWith "/" then "/" ++ text else if text = "" then "." else text)
  | "pathlib.Path.cwd" => some fun _ => do makePath (← absolute ".")
  | "math.floor" | "math.ceil" => some fun arguments => do
    match number? (← need name arguments 0 "x") with
    | some q => return .whole (if name = "math.floor" then q.floor else q.ceil)
    | none => fail "TypeError" "must be real number"
  | "io.StringIO" | "io.BytesIO" => some fun arguments => do
    let (start, mode) := match arguments.plain.head? with
      | some (.text text) => (Text.Octets.ofText text, "r+")
      | some (.octets octets) => (octets, "rb+")
      | _ => ("", if name = "io.StringIO" then "r+" else "rb+")
    let machine ← get
    let file : Shell.OpenFile := ⟨.buffer start, 0, false, true, true⟩
    set { machine with world := { machine.world with files := machine.world.files ++ [file] } }
    make (.file ⟨machine.world.files.length, "<string>", mode, false⟩)
  | "traceback.print_exc" => some fun _ => do
    match (← get).handling with
    | exception :: _ =>
      let words ← textOf engine exception
      let text := "Traceback (most recent call last):\n" ++ (← kindName exception) ++ ": " ++ words
      inWorld (Shell.Act.write 2 (Text.Octets.ofText (text ++ "\n")))
    | [] => pure ()
    return .nothing
  | "collections.OrderedDict" => some fun arguments => engine.call (.native "dict") arguments
  | "platform.system" => some fun _ => return .text "Linux"
  | _ => none

/-- A function of the library. -/
def native? (name : String) : Option Native := (builtin? engine name).or (system? engine name)

/-! ## Parts of modules -/

/-- What a module has under a name, unless it is a function. -/
def part? (name : String) : Run (Option Value) := do
  match ← setting? name with
  | some value => return some value
  | none =>
    match Text.after? "signal.".toList name.toList with
    | some word =>
      match signalNumbers.find? fun item => item.1 = String.ofList word with
      | some (_, number) => return some (.whole number)
      | none => return if name = "signal.SIG_IGN" || name = "signal.SIG_DFL" then some (.native name)
          else none
    | none =>
      return match name with
        | "os.sep" => some (.text "/")
        | "os.linesep" => some (.text "\n")
        | "os.name" => some (.text "posix")
        | "os.curdir" => some (.text ".")
        | "os.pardir" => some (.text "..")
        | "os.devnull" => some (.text "/dev/null")
        | "os.pathsep" => some (.text ":")
        | "os.F_OK" => some (.whole 0)
        | "os.R_OK" => some (.whole 4)
        | "os.W_OK" => some (.whole 2)
        | "os.X_OK" => some (.whole 1)
        | "os.EX_OK" => some (.whole 0)
        | "os.EX_USAGE" => some (.whole 64)
        | "os.error" => some (.native "OSError")
        | "sys.platform" => some (.text "linux")
        | "sys.byteorder" => some (.text "little")
        | "sys.maxsize" => some (.whole 9223372036854775807)
        | "sys.executable" => some (.text ("/usr/bin/" ++ defaultInterpreter))
        | "sys.version_info" => some (.tuple [.whole 3, .whole 11, .whole 2, .text "final", .whole 0])
        | "sys.version" => some (.text "3.11.2 (main)")
        | "subprocess.PIPE" => some (.whole (-1))
        | "subprocess.STDOUT" => some (.whole (-2))
        | "subprocess.DEVNULL" => some (.whole (-3))
        | "errno.ENOENT" => some (.whole 2)
        | "errno.EEXIST" => some (.whole 17)
        | "string.ascii_lowercase" => some (.text "abcdefghijklmnopqrstuvwxyz")
        | "string.ascii_uppercase" => some (.text "ABCDEFGHIJKLMNOPQRSTUVWXYZ")
        | "string.ascii_letters" =>
          some (.text "abcdefghijklmnopqrstuvwxyzABCDEFGHIJKLMNOPQRSTUVWXYZ")
        | "string.digits" => some (.text "0123456789")
        | "math.pi" => Binary64.ofText? "3.141592653589793" |>.map .fraction
        | "math.inf" => some (.fraction (.infinite false))
        | "math.nan" => some (.fraction .nan)
        | name => if moduleNames.contains name || isExceptionKind name then some (.native name) else none

end Run

end SignalCatalog.Indented
