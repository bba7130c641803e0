import SignalCatalog.Scripting.Indented.Modules

/-!
# Names, members and arguments

Names are looked up in a scope and in those around it, then among what is always there. A function does
not see the names of the kind that it stands in. Members are looked up in a value, then in its kind.
-/

namespace SignalCatalog.Indented

namespace Run

variable (engine : Engine)

/-! ## Scopes -/

def scopeAt (index : Nat) : Run Scope := do return (← get).scopes.getD index default

def makeScope (scope : Scope) : Run Nat := do
  let machine ← get
  set { machine with scopes := machine.scopes.push scope }
  return machine.scopes.size

def putScope (index : Nat) (scope : Scope) : Run Unit :=
  modify fun machine => { machine with scopes := machine.scopes.setIfInBounds index scope }

/-- Entries with one of a name. -/
def withField (fields : List (String × Value)) (name : String) (value : Value) :
    List (String × Value) :=
  if fields.any fun item => item.1 = name then
    fields.map fun item => if item.1 = name then (name, value) else item
  else fields ++ [(name, value)]

/-- The scope that has a name, from a scope outwards; `fuel` bounds how many there are. -/
def holderUpTo (name : String) : (fuel : Nat) → (first : Bool) → Nat → Run (Option Nat)
  | 0, _, _ => return none
  | fuel + 1, first, index => do
    let scope ← scopeAt index
    if first && scope.globals.contains name then
      return if (← scopeAt 0).names.any fun item => item.1 = name then some 0 else none
    if (first || !scope.ofKind) && scope.names.any fun item => item.1 = name then return some index
    match scope.parent with
    | some parent => holderUpTo name fuel false parent
    | none => return none

def holder? (index : Nat) (name : String) : Run (Option Nat) := do
  holderUpTo name ((← get).scopes.size + 1) true index

/-- What is always there under a name. -/
def always? (name : String) : Option Value :=
  if name = "Ellipsis" then some .ellipsis
  else if isExceptionKind (kindNamed name) then some (.native (kindNamed name))
  else if (builtin? engine name).isSome ||
      ["super", "globals", "locals", "NotImplemented"].contains name then some (.native name)
  else none

def noName {α : Type} (name : String) : Run α :=
  fail "NameError" ("name " ++ inQuotes name ++ " is not defined")

/-- The value of a name in the scopes, if they have it. -/
def scoped? (index : Nat) (name : String) : Run (Option Value) := do
  match ← holder? index name with
  | some found => return ((← scopeAt found).names.find? fun item => item.1 = name).map Prod.snd
  | none => return none

def valueOfName (index : Nat) (name : String) : Run Value := do
  match (← scoped? index name).or (always? engine name) with
  | some value => return value
  | none => noName name

def setName (index : Nat) (name : String) (value : Value) : Run Unit := do
  let scope ← scopeAt index
  let goal ← do
    if scope.globals.contains name then pure 0
    else if scope.outer.contains name then
      match scope.parent with
      | some parent => pure ((← holder? parent name).getD index)
      | none => pure index
    else pure index
  let scope ← scopeAt goal
  putScope goal { scope with names := withField scope.names name value }

def dropName (index : Nat) (name : String) : Run Unit := do
  match ← holder? index name with
  | some found =>
    let scope ← scopeAt found
    putScope found { scope with names := scope.names.filter fun item => item.1 ≠ name }
  | none => noName name

/-- The name under which the scope of a function keeps its first argument. -/
def firstName : String := "."

/-- The name under which the scope around a kind keeps the kind. -/
def kindHolder : String := "__class__"

/-- What stands for a value as one of the kinds that its kind belongs to. -/
def superOf (index : Nat) : Run Value := do
  match ← scoped? index kindHolder, ← scoped? index firstName with
  | some kind, some self => make (.record (.native "super") [("kind", kind), ("self", self)])
  | _, _ => fail "RuntimeError" "super(): no arguments"

def dictOfScope (index : Nat) : Run Value := do
  let names := (← scopeAt index).names.filter fun item => item.1 ≠ firstName
  make (.dict (names.map fun (name, value) => (.text name, value)))

/-! ## Members -/

def noMember {α : Type} (owner : Value) (name : String) : Run α := do
  let lead ← match owner with
    | .native module =>
      pure (if moduleNames.contains module then "module '" ++ module ++ "'"
        else "type object '" ++ module ++ "'")
    | owner =>
      match ← thing? owner with
      | some (.kind kind _ _) => pure ("type object '" ++ kind ++ "'")
      | _ => pure ("'" ++ (← kindName owner) ++ "' object")
  fail "AttributeError" (lead ++ " has no attribute '" ++ name ++ "'")

/-- Modules of which nothing is needed but its names. -/
def isNominal (module : String) : Bool :=
  module = "typing" || module = "__future__" || module = "abc" || module = "types"

def moduleMember (module name : String) : Run Value := do
  let full := module ++ "." ++ name
  match ← part? full with
  | some value => return value
  | none =>
    if (native? engine full).isSome || isNominal module then return .native full
    match name with
    | "__name__" => return .text module
    | "__doc__" => return .nothing
    | _ => noMember (.native module) name

/-- What a kind has under a name, for one of its values or, without one, for itself. -/
def bindMember (kind : Value) (owner : Option Value) (found : Value) : Run Value := do
  match ← thing? found with
  | some (.function _) =>
    match owner with
    | some owner => make (.bound found owner)
    | none => return found
  | some (.record (.native wrapper) [("f", function)]) =>
    match wrapper, owner with
    | "property", some owner => engine.call function ⟨[owner], []⟩
    | "staticmethod", _ => return function
    | "classmethod", _ => make (.bound function kind)
    | _, _ => return found
  | _ => return found

/-- The functions that all exceptions have. -/
def exceptionMethods : List String := ["with_traceback", "__init__", "__str__", "__repr__", "add_note"]

/-- What the kinds behind another one have under a name. -/
def superMember (kind self : Value) (name : String) : Run Value := do
  let own := (← recordKind? self).getD self
  let behind := ((← kinds own).dropWhile fun found => !sameKind kind found).drop 1
  for found in behind do
    match ← thing? found with
    | some (.kind _ _ fields) =>
      match fields.find? fun item => item.1 = name with
      | some (_, value) => return ← bindMember engine own (some self) value
      | none => pure ()
    | _ => pure ()
  if exceptionMethods.contains name then return .method self name else noMember self name

/-- What every record has under a name, apart from what is its own. -/
def recordMember (owner kind : Value) (fields : List (String × Value)) (name : String) :
    Run (Option Value) := do
  match name with
  | "__class__" => return some kind
  | "__dict__" => return some (← make (.dict (fields.map fun (name, value) => (.text name, value))))
  | "__doc__" => return some .nothing
  | name =>
    if ← isException owner then
      if exceptionMethods.contains name then return some (.method owner name)
      match name with
      | "code" =>
        if !(← isOf owner (.native "SystemExit")) then return none
        match ← exceptionArguments owner with
        | [] => return some .nothing
        | [value] => return some value
        | values => return some (.tuple values)
      | "__traceback__" | "__cause__" | "__context__" | "errno" | "strerror" | "filename" =>
        return some .nothing
      | _ => return none
    match kind, fields.find? fun item => item.1 = "path" with
    | .native "pathlib.Path", some (_, .text path) =>
      match pathField? path name with
      | some value => return some (← value)
      | none => return none
    | _, _ => return none

def fileMember? (file : OpenText) (name : String) : Run (Option Value) := do
  match name with
  | "name" => return some (.text file.path)
  | "closed" => return some (.truth file.closed)
  | "mode" => return some (.text file.mode)
  | "encoding" => return some (.text "utf-8")
  | "buffer" => return some (← make (.file { file with mode := file.mode ++ "b" }))
  | _ => return none

/-- A function that belongs to a value of no kind of its own. -/
def methodMember (owner : Value) (name : String) : Run Value := do
  if (← method? engine owner name).isSome then return .method owner name
  match name with
  | "__class__" => kindOf owner
  | "__doc__" => return .nothing
  | _ => noMember owner name

/-- The last part of a name with points. -/
def lastPart (name : String) : String :=
  String.ofList (name.toList.reverse.takeWhile (· ≠ '.')).reverse

def nativeMember (owner name : String) : Run Value := do
  if moduleNames.contains owner then moduleMember engine owner name
  else if (native? engine (owner ++ "." ++ name)).isSome then return .native (owner ++ "." ++ name)
  else if name = "__name__" || name = "__qualname__" then return .text (lastPart owner)
  else if ["str", "bytes", "list", "dict", "set", "tuple", "object"].contains owner ||
      isExceptionKind owner then return .method (.native owner) name
  else noMember (.native owner) name

/-- What a value has under a name. -/
def memberOf (owner : Value) (name : String) : Run Value := do
  match owner with
  | .native found => nativeMember engine found name
  | .method _ found => if name = "__name__" then return .text found else noMember owner name
  | .object address =>
    match ← thingAt address with
    | .function function =>
      match name with
      | "__name__" | "__qualname__" => return .text function.name
      | "__doc__" => return .nothing
      | _ => noMember owner name
    | .bound function self =>
      match name with
      | "__self__" => return self
      | "__func__" => return function
      | name => engine.member function name
    | .kind word _ _ =>
      match ← inherited? owner name with
      | some found => bindMember engine owner none found
      | none =>
        match name with
        | "__name__" | "__qualname__" => return .text word
        | "__module__" => return .text "__main__"
        | "__doc__" => return .nothing
        | name => if exceptionMethods.contains name then return .method owner name else noMember owner name
    | .record (.native "super") [(_, kind), (_, self)] => superMember engine kind self name
    | .record kind fields =>
      match fields.find? fun item => item.1 = name with
      | some (_, value) => return value
      | none =>
        match ← inherited? kind name with
        | some found => bindMember engine kind (some owner) found
        | none =>
          match ← recordMember owner kind fields name with
          | some value => return value
          | none =>
            match ← special? owner "__getattr__" with
            | some function => engine.call function ⟨[owner, .text name], []⟩
            | none => methodMember engine owner name
    | .file file =>
      match ← fileMember? file name with
      | some value => return value
      | none => methodMember engine owner name
    | _ => methodMember engine owner name
  | owner => methodMember engine owner name

def setMember (owner : Value) (name : String) (value : Value) : Run Unit := do
  match owner with
  | .native module =>
    if moduleNames.contains module then setSetting (module ++ "." ++ name) value
    else fail "TypeError" ("cannot set '" ++ name ++ "' attribute of immutable type '" ++ module ++ "'")
  | .object address =>
    match ← thingAt address with
    | .record kind fields => put address (.record kind (withField fields name value))
    | .kind word bases fields => put address (.kind word bases (withField fields name value))
    | .function _ => return
    | _ => noMember owner name
  | owner => noMember owner name

def dropMember (owner : Value) (name : String) : Run Unit := do
  match owner with
  | .object address =>
    match ← thingAt address with
    | .record kind fields =>
      if fields.any fun item => item.1 = name then
        put address (.record kind (fields.filter fun item => item.1 ≠ name))
      else noMember owner name
    | _ => noMember owner name
  | owner => noMember owner name

/-! ## Exceptions -/

/-- The fields of an exception with some arguments. -/
def exceptionFields (values : List Value) (ofSystem : Bool) : List (String × Value) :=
  match ofSystem, values with
  | true, number :: words :: more =>
    [("args", .tuple [number, words]), ("errno", number), ("strerror", words)] ++
      (more.head?.map fun path => ("filename", path)).toList
  | _, values => [("args", .tuple values)]

/-- The kind of a failure of the system with a number. -/
def kindOfNumber (value : Value) : String :=
  match value with
  | .whole n =>
    (([(2, "FileNotFoundError"), (17, "FileExistsError"), (20, "NotADirectoryError"),
      (21, "IsADirectoryError"), (13, "PermissionError"), (3, "ProcessLookupError")].find?
        fun (item : Int × String) => item.1 = n).map Prod.snd).getD "OSError"
  | _ => "OSError"

def makeException (kind : String) (arguments : Arguments) : Run Value := do
  let ofSystem := (← kinds (.native kind)).any (sameKind (.native "OSError"))
  let kind := match kind, arguments.plain with
    | "OSError", number :: _ :: _ => kindOfNumber number
    | kind, _ => kind
  make (.record (.native kind) (exceptionFields arguments.plain ofSystem))

/-- Makes a value of a kind. -/
def instantiate (kind : Value) (name : String) (arguments : Arguments) : Run Value := do
  let above ← kinds kind
  let isError := above.any (sameKind (.native "BaseException"))
  let ofSystem := above.any (sameKind (.native "OSError"))
  let found ← make (.record kind (if isError then exceptionFields arguments.plain ofSystem else []))
  match ← inherited? kind "__init__" with
  | some function =>
    let _ ← engine.call function { arguments with plain := found :: arguments.plain }
  | none =>
    if !isError && !(arguments.plain.isEmpty && arguments.named.isEmpty) then
      fail "TypeError" (name ++ "() takes no arguments")
  return found

/-- Calls a function that belongs to a value, or one of a kind with its value as the first argument. -/
def callMethod (owner : Value) (name : String) (arguments : Arguments) : Run Value := do
  match ← method? engine owner name with
  | some function => function arguments
  | none =>
    match owner, name, arguments.plain with
    | .native "dict", "fromkeys", keys :: rest =>
      let value := rest.headD .nothing
      makeDict engine ((← items engine keys).map fun key => (key, value))
    | .native "bytes", "fromhex", [.text text] =>
      let digits := text.toList.filter fun c => !isSpace c
      let rec pairs : List Char → List Char
        | a :: b :: rest => Char.ofNat ((parseInteger 16 (String.ofList [a, b])).getD 0).toNat :: pairs rest
        | _ => []
      return .octets (String.ofList (pairs digits))
    | .native _, name, self :: rest =>
      engine.call (.method self name) { arguments with plain := rest }
    | owner, "with_traceback", _ => return owner
    | _, "add_note", _ => return .nothing
    | owner, "__str__", _ => return .text (← textOf engine owner)
    | owner, "__repr__", _ => return .text (← shown engine owner)
    | .object address, "__init__", values =>
      match ← thingAt address, values with
      | .kind _ _ _, self :: rest => engine.call (.method self name) { arguments with plain := rest }
      | .record kind fields, values =>
        if ← isException owner then
          put address (.record kind (withField fields "args" (.tuple values)))
        return .nothing
      | _, _ => return .nothing
    | owner, name, _ => noMember owner name

/-! ## Arguments -/

/-- Names in quotes with commas and the last word between them. -/
def listed (names : List String) : String :=
  match names.map inQuotes with
  | [] => ""
  | [one] => one
  | [one, other] => one ++ " and " ++ other
  | many => ", ".intercalate many.dropLast ++ ", and " ++ many.getLast?.getD ""

def several (n : Nat) (word : String) : String :=
  Text.number n ++ " " ++ word ++ if n = 1 then "" else "s"

/-- The names that a call of a function gives values to. -/
def bindArguments (function : Function) (arguments : Arguments) : Run (List (String × Value)) := do
  let refuse {α : Type} (words : String) : Run α := fail "TypeError" (function.name ++ "() " ++ words)
  let ofKind (kind : ParameterKind) : List (String × Option Value) :=
    (function.parameters.filter fun item => item.2.1 = kind).map fun item => (item.1, item.2.2)
  let plain := ofKind .plain
  let named := ofKind .named
  let given := arguments.plain.length
  let mut found := (plain.map Prod.fst).zip arguments.plain
  let behind := arguments.plain.drop plain.length
  match ofKind .rest with
  | (name, _) :: _ => found := found ++ [(name, .tuple behind)]
  | [] =>
    if !behind.isEmpty then
      let needed := (plain.filter fun item => item.2.isNone).length
      let range := if needed = plain.length then several needed "positional argument"
        else "from " ++ Text.number needed ++ " to " ++ several plain.length "positional argument"
      refuse ("takes " ++ range ++ " but " ++ Text.number given ++
        (if given = 1 then " was" else " were") ++ " given")
  let mut left := []
  for (name, value) in arguments.named do
    if (plain ++ named).any fun item => item.1 = name then
      if found.any fun item => item.1 = name then
        refuse ("got multiple values for argument '" ++ name ++ "'")
      found := found ++ [(name, value)]
    else if (ofKind .namedRest).isEmpty then
      refuse ("got an unexpected keyword argument '" ++ name ++ "'")
    else left := left ++ [(Value.text name, value)]
  match ofKind .namedRest with
  | (name, _) :: _ => found := found ++ [(name, ← make (.dict left))]
  | [] => pure ()
  for (group, word) in [(plain, "positional"), (named, "keyword-only")] do
    let unset := group.filter fun item => !found.any fun other => other.1 = item.1
    let missing := (unset.filter fun item => item.2.isNone).map Prod.fst
    if !missing.isEmpty then
      refuse ("missing " ++ several missing.length ("required " ++ word ++ " argument") ++ ": " ++
        listed missing)
    found := found ++ unset.filterMap fun (name, value) => value.map fun value => (name, value)
  return found

end Run

end SignalCatalog.Indented
