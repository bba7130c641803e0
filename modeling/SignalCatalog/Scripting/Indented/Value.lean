import SignalCatalog.Scripting.Indented.Code
import SignalCatalog.Scripting.Shell.Opening

/-!
# Values of indented scripts

What can change stands at an address of the machine; all else is a value of its own. An exception is a
record of its kind. The files of the machine are those of a shell.
-/

namespace SignalCatalog.Indented

inductive Value
  | nothing
  | ellipsis
  | truth (holds : Bool)
  | whole (n : Int)
  | fraction (x : Binary64)
  | text (text : String)
  | octets (octets : String)
  | tuple (items : List Value)
  | object (address : Nat)
  /-- A function, a kind or a module that is always there. -/
  | native (name : String)
  /-- A function that belongs to a value. -/
  | method (owner : Value) (name : String)

instance : Inhabited Value := ⟨.nothing⟩

/-- The body of a function. -/
inductive Body
  | lines (lines : List Line)
  | value (value : Expr)

structure Function where
  name : String
  parameters : List (String × ParameterKind × Option Value)
  body : Body
  scope : Nat
  /-- Whether it yields values. -/
  yields : Bool

structure OpenText where
  /-- The open file of the shell. -/
  index : Nat
  path : String
  mode : String
  closed : Bool

namespace OpenText

def isBinary (file : OpenText) : Bool := file.mode.contains 'b'

end OpenText

inductive Thing
  | list (items : Array Value)
  | dict (entries : List (Value × Value))
  | set (items : List Value)
  | function (function : Function)
  | bound (function self : Value)
  | kind (name : String) (bases : List Value) (fields : List (String × Value))
  | record (kind : Value) (fields : List (String × Value))
  | file (file : OpenText)
  | iterator (rest : List Value)

instance : Inhabited Thing := ⟨.list #[]⟩

/-- The names of a function that is running, of a class body, or of the script. -/
structure Scope where
  names : List (String × Value)
  parent : Option Nat
  /-- Names that belong to the script. -/
  globals : List String
  /-- Names that belong to a function around. -/
  outer : List String
  /-- Whether these are the names of a kind. -/
  ofKind : Bool
deriving Inhabited

/-- Why a script does not go on. -/
inductive Stop
  /-- An exception, with the lines and functions it came through. -/
  | raised (exception : Value) (trace : List (Nat × String))
  | ended (status : Nat)
  /-- Ended from outside. -/
  | killed (signal : Nat)

structure Machine where
  world : Shell.State
  things : Array Thing
  scopes : Array Scope
  /-- What the parts of modules have been set to. -/
  settings : List (String × Value)
  /-- What is called at the end, the last one first. -/
  hooks : List (Value × List Value)
  /-- The exceptions that are being handled. -/
  handling : List Value
  /-- What the functions that are running have yielded, the last value first. -/
  yielded : List (List Value)
  /-- The lines at which the functions that are running are, the innermost first. -/
  frames : List Nat

abbrev Run := ExceptT Stop (StateM Machine)

/-- The arguments of a call. -/
structure Arguments where
  plain : List Value
  named : List (String × Value)

namespace Arguments

/-- The argument at a position, or of a name. -/
def get? (arguments : Arguments) (index : Nat) (name : String) : Option Value :=
  (arguments.plain[index]?).or ((arguments.named.find? fun item => item.1 = name).map Prod.snd)

end Arguments

/-- How functions and programs are called. -/
structure Engine where
  call : Value → Arguments → Run Value
  /-- What a value has under a name. -/
  member : Value → String → Run Value
  /-- Whether a name is that of a program. -/
  isProgram : String → Bool
  /-- Runs a command apart from the script. -/
  system : List String → Shell.Act Nat
  /-- Runs the script of a shell. -/
  shell : String → Shell.Act Nat

namespace Run

/-! ## Things -/

def make (thing : Thing) : Run Value := do
  let machine ← get
  set { machine with things := machine.things.push thing }
  return .object machine.things.size

def thingAt (address : Nat) : Run Thing := do
  return (← get).things.getD address default

/-- What stands at the address of a value. -/
def thing? (value : Value) : Run (Option Thing) := do
  match value with
  | .object address => return some (← thingAt address)
  | _ => return none

def put (address : Nat) (thing : Thing) : Run Unit :=
  modify fun machine => { machine with things := machine.things.setIfInBounds address thing }

def makeList (items : List Value) : Run Value := make (.list items.toArray)

/-! ## Exceptions -/

/-- The kinds of exceptions with the kind each belongs to. -/
def exceptionKinds : List (String × String) :=
  [("BaseException", "object"), ("Exception", "BaseException"), ("SystemExit", "BaseException"),
    ("KeyboardInterrupt", "BaseException"), ("GeneratorExit", "BaseException"),
    ("ArithmeticError", "Exception"), ("ZeroDivisionError", "ArithmeticError"),
    ("OverflowError", "ArithmeticError"), ("FloatingPointError", "ArithmeticError"),
    ("AssertionError", "Exception"), ("AttributeError", "Exception"), ("EOFError", "Exception"),
    ("ImportError", "Exception"), ("ModuleNotFoundError", "ImportError"), ("LookupError", "Exception"),
    ("IndexError", "LookupError"), ("KeyError", "LookupError"), ("MemoryError", "Exception"),
    ("NameError", "Exception"), ("UnboundLocalError", "NameError"), ("OSError", "Exception"),
    ("FileNotFoundError", "OSError"), ("FileExistsError", "OSError"),
    ("IsADirectoryError", "OSError"), ("NotADirectoryError", "OSError"),
    ("PermissionError", "OSError"), ("ProcessLookupError", "OSError"), ("TimeoutError", "OSError"),
    ("BrokenPipeError", "OSError"), ("ConnectionError", "OSError"), ("RuntimeError", "Exception"),
    ("NotImplementedError", "RuntimeError"), ("RecursionError", "RuntimeError"),
    ("StopIteration", "Exception"), ("SyntaxError", "Exception"), ("IndentationError", "SyntaxError"),
    ("TypeError", "Exception"), ("ValueError", "Exception"), ("UnicodeError", "ValueError"),
    ("UnicodeDecodeError", "UnicodeError"), ("UnicodeEncodeError", "UnicodeError"),
    ("json.JSONDecodeError", "ValueError"), ("subprocess.CalledProcessError", "Exception"),
    ("Warning", "Exception"), ("UserWarning", "Warning"), ("DeprecationWarning", "Warning")]

/-- Other names of kinds of exceptions. -/
def kindNamed (name : String) : String :=
  if name = "IOError" || name = "EnvironmentError" || name = "os.error" then "OSError" else name

def isExceptionKind (name : String) : Bool := exceptionKinds.any fun item => item.1 = name

def raise {α : Type} (exception : Value) : Run α := throw (.raised exception [])

/-- Raises an exception of a kind with arguments. -/
def failWith {α : Type} (kind : String) (arguments : List Value) : Run α := do
  raise (← make (.record (.native kind) [("args", .tuple arguments)]))

def fail {α : Type} (kind words : String) : Run α := failWith kind [.text words]

/-- The kind and the number of a failure of the system. -/
def osKind (cause : OsError) : String × Int :=
  match cause with
  | .notFound => ("FileNotFoundError", 2)
  | .alreadyThere => ("FileExistsError", 17)
  | .isDirectory => ("IsADirectoryError", 21)
  | .notDirectory => ("NotADirectoryError", 20)
  | _ => ("OSError", 5)

def failOs {α : Type} (cause : OsError) (path : String) : Run α := do
  let (kind, number) := osKind cause
  raise (← make (.record (.native kind)
    [("args", .tuple [.whole number, .text (Shell.osWords cause)]), ("errno", .whole number),
      ("strerror", .text (Shell.osWords cause)), ("filename", .text path)]))

/-! ## The world -/

/-- Does something in the world of the shell. -/
def inWorld {α : Type} (action : Shell.Act α) : Run α := do
  let machine ← get
  let (value, world) := action.run machine.world
  set { machine with world }
  return value

end Run

end SignalCatalog.Indented
