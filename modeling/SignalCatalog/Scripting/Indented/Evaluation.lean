import SignalCatalog.Scripting.Indented.Scopes
import SignalCatalog.Scripting.Indented.Script

/-!
# Running indented scripts

An expression is evaluated and a line is done within a scope. What is nested in them is handed on, with
less fuel, so that scripts end that go too deep. A function that yields runs to its end at once.
-/

namespace SignalCatalog.Indented

/-- How a block goes on behind a line. -/
inductive Flow
  | going
  /-- Leaves a loop. -/
  | leaving
  | nextRound
  /-- Leaves a function with a value. -/
  | giving (value : Value)

instance : Inhabited Flow := ⟨.going⟩

/-- How what is nested is run. -/
structure Inside where
  evaluate : (scope : Nat) → Expr → Run Value
  execute : (scope : Nat) → List Line → Run Flow
  engine : Engine

namespace Inside

open Run

/-- The most rounds of a loop. -/
def maxRounds : Nat := 10000000

/-- How deep calls can be nested. -/
def maxCalls : Nat := 990

variable (inside : Inside)

/-- An exception with its trace, or what there is without one. -/
def caught {α : Type} (action : Run α) : Run (Except (Value × List (Nat × String)) α) :=
  tryCatch (do return .ok (← action)) fun stop =>
    match stop with
    | .raised exception trace => return .error (exception, trace)
    | stop => throw stop

/-! ## Targets -/

/-- Sets a target to a value; `fuel` bounds how deep targets are nested. -/
def assignUpTo : (fuel : Nat) → (scope : Nat) → Expr → Value → Run Unit
  | 0, _, _, _ => return
  | fuel + 1, scope, target, value => do
    let unpack (targets : List Expr) : Run Unit := do
      let values ← items inside.engine value
      let before := targets.takeWhile fun target => match target with
        | .starred _ => false
        | _ => true
      let expected (least : String) : Run Unit :=
        fail "ValueError" ("not enough values to unpack (expected " ++ least ++ ", got " ++
          Text.number values.length ++ ")")
      let all (targets : List Expr) (values : List Value) : Run Unit := do
        for (target, value) in targets.zip values do
          assignUpTo fuel scope target value
      match targets.drop before.length with
      | .starred rest :: behind =>
        let needed := before.length + behind.length
        if values.length < needed then expected ("at least " ++ Text.number needed)
        let left := values.drop before.length
        all before values
        assignUpTo fuel scope rest (← makeList (left.take (left.length - behind.length)))
        all behind (left.drop (left.length - behind.length))
      | _ =>
        if values.length < targets.length then expected (Text.number targets.length)
        if values.length > targets.length then
          fail "ValueError" ("too many values to unpack (expected " ++ Text.number targets.length ++ ")")
        all targets values
    match target with
    | .name name => setName scope name value
    | .member owner name => setMember (← inside.evaluate scope owner) name value
    | .item owner index =>
      let owner ← inside.evaluate scope owner
      setItem inside.engine owner (← inside.evaluate scope index) value
    | .tuple targets | .list targets => unpack targets
    | .starred target => assignUpTo fuel scope target value
    | _ => fail "SyntaxError" "cannot assign to expression"

def assign (scope : Nat) (target : Expr) (value : Value) : Run Unit :=
  inside.assignUpTo 20 scope target value

/-- The value of an operator that changes its first operand, where it can. -/
def augmented (operator : BinaryOperator) (value more : Value) : Run Value := do
  match operator, value with
  | .add, .object address =>
    match ← thingAt address with
    | .list found =>
      put address (.list (found ++ (← items inside.engine more).toArray))
      return value
    | _ =>
      match ← special? value "__iadd__" with
      | some function => inside.engine.call function ⟨[value, more], []⟩
      | none => binary inside.engine operator value more
  | operator, value => binary inside.engine operator value more

def augment (scope : Nat) (target : Expr) (operator : BinaryOperator) (value : Expr) : Run Unit := do
  match target with
  | .name name =>
    let found ← valueOfName inside.engine scope name
    setName scope name (← inside.augmented operator found (← inside.evaluate scope value))
  | .member owner name =>
    let owner ← inside.evaluate scope owner
    let found ← inside.engine.member owner name
    setMember owner name (← inside.augmented operator found (← inside.evaluate scope value))
  | .item owner index =>
    let owner ← inside.evaluate scope owner
    let index ← inside.evaluate scope index
    let found ← itemOf inside.engine owner index
    setItem inside.engine owner index
      (← inside.augmented operator found (← inside.evaluate scope value))
  | _ => fail "SyntaxError" "illegal expression for augmented assignment"

def delete (scope : Nat) (target : Expr) : Run Unit := do
  match target with
  | .name name => dropName scope name
  | .member owner name => dropMember (← inside.evaluate scope owner) name
  | .item owner index =>
    let owner ← inside.evaluate scope owner
    dropItem inside.engine owner (← inside.evaluate scope index)
  | .tuple targets | .list targets =>
    for target in targets do
      match target with
      | .name name => dropName scope name
      | _ => pure ()
  | _ => fail "SyntaxError" "cannot delete expression"

/-! ## Expressions -/

def ofLiteral : Literal → Value
  | .nothing => .nothing
  | .ellipsis => .ellipsis
  | .truth holds => .truth holds
  | .whole n => .whole n
  | .fraction x => .fraction x
  | .text text => .text text
  | .octets octets => .octets octets

/-- The text of parts; `fuel` bounds how deep formats are nested. -/
def textOfParts : (fuel : Nat) → (scope : Nat) → List Part → Run String
  | 0, _, _ => return ""
  | fuel + 1, scope, parts => do
    let mut text := ""
    for part in parts do
      match part with
      | .text words => text := text ++ words
      | .value value conversion format =>
        let value ← inside.evaluate scope value
        let value ← match conversion with
          | some 'r' | some 'a' => do pure (Value.text (← shown inside.engine value))
          | some _ => do pure (Value.text (← textOf inside.engine value))
          | none => pure value
        text := text ++ (← formatted inside.engine value (← textOfParts fuel scope format))
    return text

/-- The values of expressions, with all items of those that are starred. -/
def valuesOf (scope : Nat) (expressions : List Expr) : Run (List Value) := do
  let mut found := #[]
  for expression in expressions do
    match expression with
    | .starred source =>
      found := found ++ (← items inside.engine (← inside.evaluate scope source)).toArray
    | expression => found := found.push (← inside.evaluate scope expression)
  return found.toList

def dictOf (scope : Nat) (entries : List (Option Expr × Expr)) : Run Value := do
  let mut found := []
  for (key, value) in entries do
    match key with
    | some key =>
      let key ← inside.evaluate scope key
      found := found ++ [(key, ← inside.evaluate scope value)]
    | none =>
      match ← thing? (← inside.evaluate scope value) with
      | some (.dict entries) => found := found ++ entries
      | _ => fail "TypeError" "object is not a mapping"
  makeDict inside.engine found

/-- The comparisons of a chain, which ends with the first that does not hold. -/
def chain (scope : Nat) : Value → List (CompareOperator × Expr) → Run Value
  | _, [] => return .truth true
  | value, (operator, next) :: rest => do
    let next ← inside.evaluate scope next
    let holds ← comparison inside.engine operator value next
    if holds then chain scope next rest else return .truth false

/-- Does something for all that some clauses lead to. -/
def forAll (scope : Nat) : List Clause → Run Unit → Run Unit
  | [], body => body
  | .each target source :: rest, body => do
    for value in ← items inside.engine (← inside.evaluate scope source) do
      inside.assign scope target value
      forAll scope rest body
  | .only condition :: rest, body => do
    if ← truth inside.engine (← inside.evaluate scope condition) then forAll scope rest body

def gather (outer : Nat) (gathering : Gathering) (key value : Expr) (clauses : List Clause) :
    Run Value := do
  let scope ← makeScope ⟨[], some outer, [], [], false⟩
  let found ← make (.list #[])
  inside.forAll scope clauses do
    let key ← match gathering with
      | .dict => inside.evaluate scope key
      | _ => pure .nothing
    let value ← inside.evaluate scope value
    match found with
    | .object address =>
      match ← thingAt address with
      | .list items => put address (.list (items.push (.tuple [key, value])))
      | _ => pure ()
    | _ => pure ()
  let pairs ← (← items inside.engine found).filterMapM fun pair => do
    match pair with
    | .tuple [key, value] => return some (key, value)
    | _ => return none
  match gathering with
  | .list => makeList (pairs.map Prod.snd)
  | .set => make (.set (← distinct inside.engine (pairs.map Prod.snd)))
  | .dict => makeDict inside.engine pairs

def parametersOf (scope : Nat) (parameters : List Parameter) :
    Run (List (String × ParameterKind × Option Value)) :=
  parameters.mapM fun parameter => do
    match parameter with
    | .mk name kind byDefault =>
      let value ← match byDefault with
        | some value => do pure (some (← inside.evaluate scope value))
        | none => pure none
      return (name, kind, value)

def argumentsOf (scope : Nat) (arguments : List Argument) : Run Arguments := do
  let mut plain := #[]
  let mut named := []
  for argument in arguments do
    match argument with
    | .plain value => plain := plain.push (← inside.evaluate scope value)
    | .named name value => named := named ++ [(name, ← inside.evaluate scope value)]
    | .all source =>
      plain := plain ++ (← items inside.engine (← inside.evaluate scope source)).toArray
    | .allNamed source =>
      match ← thing? (← inside.evaluate scope source) with
      | some (.dict entries) =>
        for (key, value) in entries do
          named := named ++ [(← asText key, value)]
      | _ => fail "TypeError" "argument after ** must be a mapping"
  return ⟨plain.toList, named⟩

def callOf (scope : Nat) (callee : Expr) (arguments : List Argument) : Run Value := do
  let function ← inside.evaluate scope callee
  let given ← inside.argumentsOf scope arguments
  match function, given.plain with
  | .native "super", [] => superOf scope
  | .native "locals", _ => dictOfScope scope
  | .native "globals", _ => dictOfScope 0
  | function, _ => inside.engine.call function given

/-- Adds values to those that the running function has yielded. -/
def yieldAll (values : List Value) : Run Value := do
  modify fun machine =>
    match machine.yielded with
    | found :: rest => { machine with yielded := (values.reverse ++ found) :: rest }
    | [] => machine
  return .nothing

/-- The value of an expression. -/
def valueOf (scope : Nat) (expression : Expr) : Run Value := do
  let evaluate := inside.evaluate scope
  let optional (expression : Option Expr) : Run Value := match expression with
    | some expression => evaluate expression
    | none => return .nothing
  match expression with
  | .literal literal => return ofLiteral literal
  | .name name => valueOfName inside.engine scope name
  | .formatted parts => return .text (← inside.textOfParts 5 scope parts)
  | .unary operator operand => unary operator (← evaluate operand)
  | .negated operand => return .truth !(← truth inside.engine (← evaluate operand))
  | .binary operator first second =>
    let first ← evaluate first
    binary inside.engine operator first (← evaluate second)
  | .both first second =>
    let value ← evaluate first
    if ← truth inside.engine value then evaluate second else return value
  | .either first second =>
    let value ← evaluate first
    if ← truth inside.engine value then return value else evaluate second
  | .comparison first rest => inside.chain scope (← evaluate first) rest
  | .choice condition yes no =>
    if ← truth inside.engine (← evaluate condition) then evaluate yes else evaluate no
  | .call callee arguments => inside.callOf scope callee arguments
  | .member owner name => inside.engine.member (← evaluate owner) name
  | .item owner (.slice start stop step) =>
    let owner ← evaluate owner
    let start ← optional start
    let stop ← optional stop
    sliceOf owner start stop (← optional step)
  | .item owner index =>
    let owner ← evaluate owner
    itemOf inside.engine owner (← evaluate index)
  | .slice _ _ _ => return .nothing
  | .list expressions => makeList (← inside.valuesOf scope expressions)
  | .tuple expressions => return .tuple (← inside.valuesOf scope expressions)
  | .set expressions =>
    make (.set (← distinct inside.engine (← inside.valuesOf scope expressions)))
  | .dict entries => inside.dictOf scope entries
  | .lambda parameters body =>
    make (.function ⟨"<lambda>", ← inside.parametersOf scope parameters, .value body, scope, false⟩)
  | .comprehension gathering key value clauses => inside.gather scope gathering key value clauses
  | .starred source => evaluate source
  | .naming name value =>
    let value ← evaluate value
    setName scope name value
    return value
  | .yielded (some (.starred source)) => yieldAll (← items inside.engine (← evaluate source))
  | .yielded value => yieldAll [← optional value]

/-! ## Lines -/

/-- Makes the functions and records that decorators want of a function, the last one first. -/
def decorate (scope : Nat) (decorators : List Expr) (value : Value) : Run Value := do
  let mut found := value
  for decorator in decorators.reverse do
    found ← inside.engine.call (← inside.evaluate scope decorator) ⟨[found], []⟩
  return found

def defineKind (outer : Nat) (name : String) (bases : List Expr) (body : List Line) : Run Unit := do
  let bases ← bases.mapM (inside.evaluate outer)
  let holder ← makeScope ⟨[], some outer, [], [], false⟩
  let scope ← makeScope ⟨[], some holder, [], [], true⟩
  let _ ← inside.execute scope body
  let kind ← make (.kind name bases (← scopeAt scope).names)
  setName holder kindHolder kind
  setName outer name kind

/-- Raises a value, or an exception of a kind. -/
def raiseValue (value : Value) : Run Flow := do
  let refuse : Run Flow := fail "TypeError" "exceptions must derive from BaseException"
  match value with
  | .native name =>
    if isExceptionKind name then raise (← inside.engine.call value ⟨[], []⟩) else refuse
  | value =>
    match ← thing? value with
    | some (.kind _ _ _) =>
      let made ← inside.engine.call value ⟨[], []⟩
      if ← isException made then raise made else refuse
    | _ => if ← isException value then raise value else refuse

/-- Does something while an exception is being handled. -/
def handling {α : Type} (exception : Value) (action : Run α) : Run α := do
  modify fun machine => { machine with handling := exception :: machine.handling }
  let outcome ← caught action
  modify fun machine => { machine with handling := machine.handling.drop 1 }
  match outcome with
  | .ok found => return found
  | .error (exception, trace) => throw (.raised exception trace)

/-- Looks for what is to be done about an exception. -/
def handle (scope : Nat) (exception : Value) (trace : List (Nat × String)) : List Handler → Run Flow
  | [] => throw (.raised exception trace)
  | .mk kind name body :: rest => do
    let matching ← match kind with
      | some kind => isInstanceOfAny exception (← inside.evaluate scope kind)
      | none => pure true
    if !matching then return ← handle scope exception trace rest
    match name with
    | some name => setName scope name exception
    | none => pure ()
    let flow ← handling exception (inside.execute scope body)
    match name with
    | some name => if (← scopeAt scope).names.any fun item => item.1 = name then dropName scope name
    | none => pure ()
    return flow

def attempt (scope : Nat) (body : List Line) (handlers : List Handler) (otherwise final : List Line) :
    Run Flow := do
  let outcome ← caught do
    match ← caught (inside.execute scope body) with
    | .ok .going => inside.execute scope otherwise
    | .ok flow => return flow
    | .error (exception, trace) => inside.handle scope exception trace handlers
  match ← inside.execute scope final, outcome with
  | .going, .ok flow => return flow
  | .going, .error (exception, trace) => throw (.raised exception trace)
  | flow, _ => return flow

/-- Calls one of the two functions of a value that a block can run within. -/
def atEdge (manager : Value) (name : String) (arguments : List Value) : Run Value := do
  match ← special? manager name with
  | some function => inside.engine.call function ⟨manager :: arguments, []⟩
  | none =>
    if (← method? inside.engine manager name).isSome then
      inside.engine.call (.method manager name) ⟨arguments, []⟩
    else fail "TypeError" ("'" ++ (← kindName manager) ++
        "' object does not support the context manager protocol")

def within (scope : Nat) (body : List Line) : List (Expr × Option Expr) → Run Flow
  | [] => inside.execute scope body
  | (value, target) :: rest => do
    let manager ← inside.evaluate scope value
    let entered ← inside.atEdge manager "__enter__" []
    let outcome ← caught do
      match target with
      | some target => inside.assign scope target entered
      | none => pure ()
      within scope body rest
    match outcome with
    | .ok flow =>
      let _ ← inside.atEdge manager "__exit__" [.nothing, .nothing, .nothing]
      return flow
    | .error (exception, trace) =>
      let answer ← inside.atEdge manager "__exit__" [← kindOf exception, exception, .nothing]
      if ← truth inside.engine answer then return .going else throw (.raised exception trace)

/-- Loads a module and gives it a name. -/
def load (scope : Nat) (module : String) (other : Option String) : Run Unit := do
  let known := module.toList.takeWhile (· ≠ '.') |> String.ofList
  if !moduleNames.contains module then
    let words := "No module named " ++ inQuotes (if moduleNames.contains known then module else known)
    fail "ModuleNotFoundError" (if moduleNames.contains known && known ≠ module then
      words ++ "; " ++ inQuotes known ++ " is not a package" else words)
  match other with
  | some name => setName scope name (.native module)
  | none => setName scope known (.native known)

def loadFrom (scope : Nat) (module name other : String) : Run Unit := do
  if !moduleNames.contains module then
    fail "ModuleNotFoundError" ("No module named " ++ inQuotes module)
  if name = "*" then return
  match ← caught (inside.engine.member (.native module) name) with
  | .ok value => setName scope other value
  | .error _ => fail "ImportError" ("cannot import name " ++ inQuotes name ++ " from " ++ inQuotes module)

/-- What a loop does behind a round: nothing, if it goes on, or how it ends. -/
def endOfRound : Flow → Option Flow
  | .going | .nextRound => none
  | flow => some flow

/-- The flow behind a loop that has been left, or that has come to its end. -/
def behindLoop (scope : Nat) (left : Option Flow) (otherwise : List Line) : Run Flow := do
  match left with
  | none => inside.execute scope otherwise
  | some .leaving => return .going
  | some flow => return flow

def loop (scope : Nat) (condition : Expr) (body otherwise : List Line) : Run Flow := do
  let mut left := none
  for _ in [0:maxRounds] do
    if !(← truth inside.engine (← inside.evaluate scope condition)) then break
    left := endOfRound (← inside.execute scope body)
    if left.isSome then break
  inside.behindLoop scope left otherwise

def each (scope : Nat) (target source : Expr) (body otherwise : List Line) : Run Flow := do
  let mut left := none
  for value in ← items inside.engine (← inside.evaluate scope source) do
    inside.assign scope target value
    left := endOfRound (← inside.execute scope body)
    if left.isSome then break
  inside.behindLoop scope left otherwise

/-- Does what a statement says. -/
def run (scope : Nat) (statement : Statement) : Run Flow := do
  let evaluate := inside.evaluate scope
  match statement with
  | .expression value =>
    let _ ← evaluate value
    return .going
  | .assign targets value =>
    let value ← evaluate value
    for target in targets do
      inside.assign scope target value
    return .going
  | .augment target operator value =>
    inside.augment scope target operator value
    return .going
  | .choice condition body otherwise =>
    if ← truth inside.engine (← evaluate condition) then inside.execute scope body
    else inside.execute scope otherwise
  | .loop condition body otherwise => inside.loop scope condition body otherwise
  | .each target source body otherwise => inside.each scope target source body otherwise
  | .function name parameters body yields decorators =>
    let parameters ← inside.parametersOf scope parameters
    let made ← make (.function ⟨name, parameters, .lines body, scope, yields⟩)
    setName scope name (← inside.decorate scope decorators made)
    return .going
  | .kind name bases body =>
    inside.defineKind scope name bases body
    return .going
  | .give none => return .giving .nothing
  | .give (some value) => return .giving (← evaluate value)
  | .raise none =>
    match (← get).handling with
    | exception :: _ => raise exception
    | [] => fail "RuntimeError" "No active exception to reraise"
  | .raise (some value) => inside.raiseValue (← evaluate value)
  | .attempt body handlers otherwise final => inside.attempt scope body handlers otherwise final
  | .within managers body => inside.within scope body managers
  | .load modules =>
    for (module, other) in modules do
      load scope module other
    return .going
  | .loadFrom module names =>
    for (name, other) in names do
      inside.loadFrom scope module name other
    return .going
  | .pass => return .going
  | .leave => return .leaving
  | .nextRound => return .nextRound
  | .delete targets =>
    for target in targets do
      inside.delete scope target
    return .going
  | .claim condition message =>
    if ← truth inside.engine (← evaluate condition) then return .going
    match message with
    | some message => failWith "AssertionError" [← evaluate message]
    | none => failWith "AssertionError" []
  | .global names =>
    let found ← scopeAt scope
    if scope ≠ 0 then putScope scope { found with globals := found.globals ++ names }
    return .going
  | .outer names =>
    let found ← scopeAt scope
    putScope scope { found with outer := found.outer ++ names }
    return .going

def runLines (scope : Nat) : List Line → Run Flow
  | [] => return .going
  | .mk number statement :: rest => do
    modify fun machine => { machine with frames := number :: machine.frames.drop 1 }
    match ← inside.run scope statement with
    | .going => runLines scope rest
    | flow => return flow

/-! ## Calls -/

/-- Does something as a function of a name, which an exception leaves a trace of. -/
def inFrame {α : Type} (name : String) (action : Run α) : Run α := do
  if (← get).frames.length > maxCalls then
    fail "RecursionError" "maximum recursion depth exceeded"
  modify fun machine => { machine with frames := 0 :: machine.frames }
  let outcome ← caught action
  let line := (← get).frames.headD 0
  modify fun machine => { machine with frames := machine.frames.drop 1 }
  match outcome with
  | .ok found => return found
  | .error (exception, trace) => throw (.raised exception ((line, name) :: trace))

def callFunction (function : Function) (arguments : Arguments) : Run Value := do
  let names ← bindArguments function arguments
  let first := names.head?.map fun item => (firstName, item.2)
  let scope ← makeScope ⟨first.toList ++ names, some function.scope, [], [], false⟩
  let body : Run Value := match function.body with
    | .value value => inside.evaluate scope value
    | .lines lines => do
      match ← inside.execute scope lines with
      | .giving value => return value
      | _ => return .nothing
  inFrame function.name do
    if !function.yields then body
    else
      modify fun machine => { machine with yielded := [] :: machine.yielded }
      let outcome ← caught body
      let found := (← get).yielded.headD []
      modify fun machine => { machine with yielded := machine.yielded.drop 1 }
      match outcome with
      | .ok _ => make (.iterator found.reverse)
      | .error (exception, trace) => throw (.raised exception trace)

/-- Calls a value. -/
def callValue (callee : Value) (arguments : Arguments) : Run Value := do
  let refuse : Run Value := do
    fail "TypeError" ("'" ++ (← kindName callee) ++ "' object is not callable")
  match callee with
  | .native name =>
    if isExceptionKind name then makeException name arguments
    else match native? inside.engine name with
      | some function => function arguments
      | none =>
        if moduleNames.contains name then fail "TypeError" "'module' object is not callable"
        else match arguments.plain with
          | value :: _ => return value
          | [] => return .nothing
  | .method owner name => callMethod inside.engine owner name arguments
  | .object address =>
    match ← thingAt address with
    | .function function => inside.callFunction function arguments
    | .bound function self =>
      inside.engine.call function { arguments with plain := self :: arguments.plain }
    | .kind name _ _ => instantiate inside.engine callee name arguments
    | .record _ _ =>
      match ← special? callee "__call__" with
      | some function => inside.engine.call function { arguments with plain := callee :: arguments.plain }
      | none => refuse
    | _ => refuse
  | _ => refuse

end Inside

/-! ## Depth -/

mutual

/-- Evaluates an expression; `fuel` bounds how deep evaluations are nested. -/
def evaluate (engine : Engine) : (fuel : Nat) → Nat → Expr → Run Value
  | 0, _, _ => Run.fail "RecursionError" "maximum recursion depth exceeded"
  | fuel + 1, scope, expression =>
    Inside.valueOf ⟨evaluate engine fuel, execute engine fuel,
      { engine with call := call engine fuel, member := member engine fuel }⟩ scope expression

def execute (engine : Engine) : (fuel : Nat) → Nat → List Line → Run Flow
  | 0, _, _ => Run.fail "RecursionError" "maximum recursion depth exceeded"
  | fuel + 1, scope, lines =>
    Inside.runLines ⟨evaluate engine fuel, execute engine fuel,
      { engine with call := call engine fuel, member := member engine fuel }⟩ scope lines

def call (engine : Engine) : (fuel : Nat) → Value → Arguments → Run Value
  | 0, _, _ => Run.fail "RecursionError" "maximum recursion depth exceeded"
  | fuel + 1, callee, arguments =>
    Inside.callValue ⟨evaluate engine fuel, execute engine fuel,
      { engine with call := call engine fuel, member := member engine fuel }⟩ callee arguments

def member (engine : Engine) : (fuel : Nat) → Value → String → Run Value
  | 0, _, _ => Run.fail "RecursionError" "maximum recursion depth exceeded"
  | fuel + 1, owner, name =>
    Run.memberOf { engine with call := call engine fuel, member := member engine fuel } owner name

end

/-- How deep evaluations can be nested. -/
def maxNesting : Nat := 100000

/-- The engine of a script that can run commands. -/
def Engine.withCalls (engine : Engine) : Engine :=
  { engine with call := Indented.call engine maxNesting, member := Indented.member engine maxNesting }

end SignalCatalog.Indented
