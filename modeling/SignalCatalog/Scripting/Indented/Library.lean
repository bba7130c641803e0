import SignalCatalog.Json.Node
import SignalCatalog.Scripting.Indented.Methods
import SignalCatalog.Scripting.Indented.Token

/-!
# The library of indented scripts

The functions and modules that are always there, by their names. A module part is named by the module,
a point and its own name.
-/

namespace SignalCatalog.Indented

/-- The modules that scripts can load. -/
def moduleNames : List String :=
  ["sys", "os", "os.path", "json", "time", "shutil", "pathlib", "signal", "subprocess", "atexit", "glob",
    "string", "math", "io", "tempfile", "traceback", "re", "datetime", "random", "platform", "errno",
    "stat", "textwrap", "itertools", "collections", "functools", "typing", "logging", "csv", "zipfile",
    "builtins", "warnings", "copy", "struct", "hashlib", "base64", "uuid", "threading", "argparse",
    "dataclasses", "enum", "contextlib", "operator", "types", "inspect", "locale", "getopt", "codecs",
    "abc", "socket", "__future__", "xml", "xml.etree", "xml.etree.ElementTree"]

/-- The signals with their numbers. -/
def signalNumbers : List (String × Int) :=
  [("SIGHUP", 1), ("SIGINT", 2), ("SIGQUIT", 3), ("SIGILL", 4), ("SIGTRAP", 5), ("SIGABRT", 6),
    ("SIGBUS", 7), ("SIGFPE", 8), ("SIGKILL", 9), ("SIGUSR1", 10), ("SIGSEGV", 11), ("SIGUSR2", 12),
    ("SIGPIPE", 13), ("SIGALRM", 14), ("SIGTERM", 15), ("SIGCHLD", 17), ("SIGCONT", 18),
    ("SIGSTOP", 19), ("SIGTSTP", 20)]

namespace Run

variable (engine : Engine)

abbrev Native := Arguments → Run Value

/-- What a part of a module has been set to. -/
def setting? (name : String) : Run (Option Value) := do
  return ((← get).settings.find? fun item => item.1 = name).map Prod.snd

def setSetting (name : String) (value : Value) : Run Unit :=
  modify fun machine =>
    { machine with
      settings := (name, value) :: machine.settings.filter fun item => item.1 ≠ name }

/-! ## Output -/

def print (arguments : Arguments) : Run Value := do
  let named (name byDefault : String) : Run String := do
    match (arguments.named.find? fun item => item.1 = name).map Prod.snd with
    | some (.text text) => return text
    | _ => return byDefault
  let parts ← arguments.plain.mapM (textOf engine)
  let text := (← named "sep" " ").intercalate parts ++ (← named "end" "\n")
  let goal ← match (arguments.named.find? fun item => item.1 = "file").map Prod.snd with
    | some .nothing | none => do pure ((← setting? "sys.stdout").getD .nothing)
    | some file => pure file
  match ← thing? goal with
  | some (.file file) =>
    let _ ← writeValue file (.text text)
  | some (.record _ _) =>
    let _ ← engine.call (← engine.member goal "write") ⟨[.text text], []⟩
  | _ => pure ()
  return .nothing

/-! ## Kinds of values -/

/-- The whole number that a text is in a base. -/
def parseInteger (base : Nat) (text : String) : Option Int :=
  let chars := ((text.toList.dropWhile isSpace).reverse.dropWhile isSpace).reverse
  let (negative, chars) := match chars with
    | '-' :: rest => (true, rest)
    | '+' :: rest => (false, rest)
    | rest => (false, rest)
  let lead (letters : List Char) (found : Nat) : Option (Nat × List Char) :=
    match chars with
    | '0' :: c :: rest => if letters.contains c && (base = found || base = 0) then some (found, rest) else none
    | _ => none
  let (base, digits) := ((lead ['x', 'X'] 16).or ((lead ['o', 'O'] 8).or (lead ['b', 'B'] 2))).getD
    (if base = 0 then 10 else base, chars)
  let digits := digits.filter (· ≠ '_')
  if digits.isEmpty || !digits.all fun c => (Reading.digit? base c).isSome then none
  else
    let n : Int := (Reading.takeDigits base digits.length digits).1
    some (if negative then -n else n)

def toInteger (arguments : Arguments) : Run Value := do
  let base ← match arguments.get? 1 "base" with
    | some value => asInteger value
    | none => pure 10
  let ofText (text : String) : Run Value := do
    match parseInteger base.toNat text with
    | some n => return .whole n
    | none => fail "ValueError" ("invalid literal for int() with base " ++ Text.integer base ++ ": " ++
        inQuotes text)
  match arguments.plain.head? with
  | none => return .whole 0
  | some (.text text) => ofText text
  | some (.octets octets) => ofText octets
  | some (.fraction x) =>
    match x.truncate? with
    | some n => return .whole n
    | none => fail "ValueError" "cannot convert float NaN to integer"
  | some value =>
    match integer? value with
    | some n => return .whole n
    | none =>
      match ← special? value "__int__" with
      | some function => engine.call function ⟨[value], []⟩
      | none => fail "TypeError" ("int() argument must be a string, a bytes-like object or a real " ++
          "number, not '" ++ (← kindName value) ++ "'")

def toFraction (arguments : Arguments) : Run Value := do
  match arguments.plain.head? with
  | none => return .fraction (.ofNat 0)
  | some (.fraction x) => return .fraction x
  | some (.text text) =>
    let trimmed := String.ofList ((text.toList.dropWhile isSpace).reverse.dropWhile isSpace).reverse
    match Binary64.ofText? trimmed with
    | some x => return .fraction x
    | none => fail "ValueError" ("could not convert string to float: " ++ inQuotes text)
  | some value =>
    match integer? value with
    | some n => return .fraction (.ofInt n)
    | none => fail "TypeError" ("float() argument must be a string or a real number, not '" ++
        (← kindName value) ++ "'")

/-- Whether a value is of a kind. -/
def isInstance (value kind : Value) : Run Bool := do
  match kind with
  | .native "object" => return true
  | .native name =>
    let found ← kindName value
    if found = name then return true
    if name = "int" && found = "bool" then return true
    if isExceptionKind (kindNamed name) then return ← isOf value (.native (kindNamed name))
    return false
  | kind => isOf value kind

def isInstanceOfAny (value kind : Value) : Run Bool := do
  match kind with
  | .tuple kinds => kinds.anyM (isInstance value)
  | kind => isInstance value kind

/-- The kind of a value, as a value. -/
def kindOf (value : Value) : Run Value := do
  match ← recordKind? value with
  | some kind => return kind
  | none => return .native (← kindName value)

/-! ## Numbers -/

def round (arguments : Arguments) : Run Value := do
  let value ← need "round" arguments 0 "number"
  match value, arguments.get? 1 "ndigits" with
  | .fraction x, some (.whole n) =>
    match x.value? with
    | none => return value
    | some q =>
      let scale : Rat := (10 : Rat) ^ n.natAbs
      let scaled := if n < 0 then q / scale else q * scale
      let size := Shell.Format.Directive.rounded scaled.num.natAbs scaled.den
      let found : Rat := if n < 0 then (size : Rat) * scale else (size : Rat) / scale
      return .fraction (fractionOf (if q < 0 then -found else found))
  | .fraction x, _ =>
    match x.value? with
    | none => fail "ValueError" "cannot convert float NaN to integer"
    | some q =>
      let size : Int := Shell.Format.Directive.rounded q.num.natAbs q.den
      return .whole (if q < 0 then -size else size)
  | value, _ => return .whole (← asInteger value)

/-- The value that comes first or last in the order. -/
def extreme (name : String) (last : Bool) (arguments : Arguments) : Run Value := do
  let values ← match arguments.plain with
    | [one] => items engine one
    | many => pure many
  let keyOf (value : Value) : Run Value := do
    match (arguments.named.find? fun item => item.1 = "key").map Prod.snd with
    | some .nothing | none => return value
    | some function => engine.call function ⟨[value], []⟩
  match values with
  | [] =>
    match (arguments.named.find? fun item => item.1 = "default").map Prod.snd with
    | some value => return value
    | none => fail "ValueError" (name ++ "() iterable argument is empty")
  | first :: rest =>
    let mut best := first
    let mut bestKey ← keyOf first
    for value in rest do
      let key ← keyOf value
      let found ← order engine "<" key bestKey
      if found = (if last then .gt else .lt) then
        best := value
        bestKey := key
    return best

def rangeOf (arguments : Arguments) : Run Value := do
  let (start, stop, step) ← match arguments.plain with
    | [stop] => do pure (0, ← asInteger stop, 1)
    | [start, stop] => do pure (← asInteger start, ← asInteger stop, 1)
    | [start, stop, step] => do pure (← asInteger start, ← asInteger stop, ← asInteger step)
    | _ => fail "TypeError" "range expected at least 1 argument, got 0"
  if step = 0 then fail "ValueError" "range() arg 3 must not be zero"
  let count := if step > 0 then (stop - start + step - 1) / step else (start - stop - step - 1) / (-step)
  if count > 10000000 then fail "MemoryError" ""
  return .tuple ((List.range count.toNat).map fun k => .whole (start + step * Int.ofNat k))

/-! ## Ends -/

/-- Ends the script by a signal, or calls what has been set for it. -/
def signal (number : Int) : Run Value := do
  match ← setting? ("signal." ++ Text.integer number) with
  | some (.native "signal.SIG_IGN") =>
    if number = 9 then throw (.killed 9)
    return .nothing
  | some (.native "signal.SIG_DFL") | none =>
    if number = 0 || [17, 18, 23, 28].contains number then return .nothing
    if number = 2 then failWith "KeyboardInterrupt" []
    throw (.killed number.toNat)
  | some function =>
    if number = 9 then throw (.killed 9)
    engine.call function ⟨[.whole number, .nothing], []⟩

def setSignal (arguments : Arguments) : Run Value := do
  let number ← asInteger (← need "signal" arguments 0 "signalnum")
  let former ← setting? ("signal." ++ Text.integer number)
  setSetting ("signal." ++ Text.integer number) (← need "signal" arguments 1 "handler")
  return former.getD (.native "signal.SIG_DFL")

def kill (arguments : Arguments) : Run Value := do
  let target ← asInteger (← need "kill" arguments 0 "pid")
  let number ← asInteger (← need "kill" arguments 1 "signal")
  if target = (← get).world.process + 7 || target = 0 then signal engine number
  else
    raise (← make (.record (.native "ProcessLookupError")
      [("args", .tuple [.whole 3, .text "No such process"]), ("errno", .whole 3),
        ("strerror", .text "No such process")]))

/-! ## Texts of data -/

/-- A text in double quotes, with escapes for all but ASCII if that is asked for. -/
def dataText (asciiOnly : Bool) (text : String) : String :=
  let shown (c : Char) : String :=
    if c = '"' then "\\\""
    else if c = '\\' then "\\\\"
    else if c = '\n' then "\\n"
    else if c = '\r' then "\\r"
    else if c = '\t' then "\\t"
    else if c.toNat = 8 then "\\b"
    else if c.toNat = 12 then "\\f"
    else if c.toNat < 32 then "\\u" ++ digitsWide 4 c.toNat
    else if c.toNat < 127 || !asciiOnly then c.toString
    else if c.toNat < 65536 then "\\u" ++ digitsWide 4 c.toNat
    else
      let n := c.toNat - 65536
      "\\u" ++ digitsWide 4 (0xD800 + n / 1024) ++ "\\u" ++ digitsWide 4 (0xDC00 + n % 1024)
  "\"" ++ String.join (text.toList.map shown) ++ "\""

/-- How data is written. -/
structure DataLayout where
  indent : Option String
  itemMark : String
  keyMark : String
  sorted : Bool
  asciiOnly : Bool

/-- The text of data; `fuel` bounds how deep it is nested. -/
def dataOf (layout : DataLayout) : (fuel : Nat) → (lead : String) → Value → Run String
  | 0, _, _ => fail "ValueError" "Circular reference detected"
  | fuel + 1, lead, value => do
    let inner := lead ++ layout.indent.getD ""
    let wrap (opening closing : String) (parts : List String) : String :=
      if parts.isEmpty then opening ++ closing
      else match layout.indent with
        | none => opening ++ layout.itemMark.intercalate parts ++ closing
        | some _ =>
          let mark := String.ofList (layout.itemMark.toList.reverse.dropWhile (· = ' ')).reverse
          opening ++ "\n" ++ inner ++ (mark ++ "\n" ++ inner).intercalate parts ++ "\n" ++ lead ++
            closing
    match value with
    | .nothing => return "null"
    | .truth holds => return if holds then "true" else "false"
    | .whole n => return Text.integer n
    | .fraction x => return match x with
      | .nan => "NaN"
      | .infinite negative => if negative then "-Infinity" else "Infinity"
      | x => fractionText x
    | .text text => return dataText layout.asciiOnly text
    | .tuple items => return wrap "[" "]" (← items.mapM (dataOf layout fuel inner))
    | value =>
      match ← thing? value with
      | some (.list items) => return wrap "[" "]" (← items.toList.mapM (dataOf layout fuel inner))
      | some (.dict entries) =>
        let keyed ← entries.mapM fun (key, value) => do
          let key ← match key with
            | .text text => pure text
            | .whole n => pure (Text.integer n)
            | .truth holds => pure (if holds then "true" else "false")
            | .nothing => pure "null"
            | .fraction x => pure (fractionText x)
            | key => fail "TypeError" ("keys must be str, int, float, bool or None, not " ++
                (← kindName key))
          return (key, value)
        let keyed := if layout.sorted then keyed.mergeSort fun a b => decide (a.1 ≤ b.1) else keyed
        let parts ← keyed.mapM fun (key, value) => do
          return dataText layout.asciiOnly key ++ layout.keyMark ++ (← dataOf layout fuel inner value)
        return wrap "\x7b" "\x7d" parts
      | _ => fail "TypeError" ("Object of type " ++ (← kindName value) ++ " is not JSON serializable")

def layoutOf (arguments : Arguments) : Run DataLayout := do
  let named (name : String) : Option Value :=
    (arguments.named.find? fun item => item.1 = name).map Prod.snd
  let indent := match named "indent" with
    | some (.whole n) => some (String.ofList (List.replicate n.toNat ' '))
    | some (.text text) => some text
    | _ => none
  let sorted ← match named "sort_keys" with
    | some value => truth engine value
    | none => pure false
  let asciiOnly ← match named "ensure_ascii" with
    | some value => truth engine value
    | none => pure true
  let (itemMark, keyMark) := match named "separators" with
    | some (.tuple [.text a, .text b]) => (a, b)
    | _ => (", ", ": ")
  return ⟨indent, itemMark, keyMark, sorted, asciiOnly⟩

mutual

/-- The value of data. -/
def ofData : Json → Run Value
  | .null => return .nothing
  | .bool holds => return .truth holds
  | .number n => return match n with
    | .integer n => .whole n
    | .float x => .fraction x
  | .string text => return .text text
  | .array items => do makeList (← ofDataItems items)
  | .object members => do make (.dict (← ofDataMembers members))

def ofDataItems : List Json → Run (List Value)
  | [] => return []
  | item :: rest => do return (← ofData item) :: (← ofDataItems rest)

def ofDataMembers : List (String × Json) → Run (List (Value × Value))
  | [] => return []
  | (key, value) :: rest => do return (.text key, ← ofData value) :: (← ofDataMembers rest)

end

def loadData (text : String) : Run Value := do
  match Json.parse text with
  | .ok data => ofData data
  | .error _ => fail "json.JSONDecodeError" "Expecting value: line 1 column 1 (char 0)"

end Run

end SignalCatalog.Indented
