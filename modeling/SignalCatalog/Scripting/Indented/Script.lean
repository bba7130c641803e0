import SignalCatalog.Scripting.Indented.Grammar

/-!
# Reading the statements of indented scripts
-/

namespace SignalCatalog.Indented

namespace Read

def inner : Inner := innerAt maxDepth

/-- Values with commas between them, which make a tuple. -/
def values : Read Expr := do
  if ← acceptWord "yield" then yielded inner
  else tupleOf inner.whole

def augmentations : List (String × BinaryOperator) :=
  [("+=", .add), ("-=", .subtract), ("*=", .multiply), ("/=", .divide), ("//=", .floorDivide),
    ("%=", .remainder), ("**=", .power), ("&=", .and), ("|=", .or), ("^=", .exclusiveOr),
    ("<<=", .shiftLeft), (">>=", .shiftRight)]

/-- Whether a value can be set. -/
def isTarget : (fuel : Nat) → Expr → Bool
  | 0, _ => false
  | fuel + 1, target =>
    match target with
    | .name _ | .member _ _ | .item _ _ => true
    | .starred inner => isTarget fuel inner
    | .tuple items | .list items => items.all (isTarget fuel)
    | _ => false

def checkTarget (target : Expr) : Read Unit := do
  if !isTarget 20 target then failWith "cannot assign to expression"

/-- A value alone, or what is done with it. -/
def valueStatement : Read Statement := do
  let first ← values
  match ← peek with
  | .sign ":" =>
    match first with
    | .name _ | .member _ _ | .item _ _ =>
      skip
      let _ ← inner.whole
      if ← accept "=" then return .assign [first] (← values)
      else return .pass
    | _ => fail
  | .sign "=" =>
    let mut found := [first]
    for _ in ← bound do
      if !(← accept "=") then break
      found := (← values) :: found
    match found with
    | value :: targets =>
      for target in targets do
        checkTarget target
      return .assign targets.reverse value
    | [] => fail
  | .sign sign =>
    match augmentations.find? fun item => item.1 = sign with
    | some (_, operator) =>
      skip
      checkTarget first
      return .augment first operator (← values)
    | none => return .expression first
  | _ => return .expression first

/-- A name that something is loaded as. -/
def nameAs : Read (String × Option String) := do
  let found ← dottedName
  if ← acceptWord "as" then return (found, some (← name))
  else return (found, none)

def loadFrom : Read Statement := do
  let module ← dottedName
  expectWord "import"
  if ← accept "*" then return .loadFrom module [("*", "*")]
  let inBrackets ← accept "("
  let (found, _) ← items nameAs
  if inBrackets then expect ")"
  return .loadFrom module (found.map fun (name, other) => (name, other.getD name))

/-- A statement without a block. -/
def simple : Read Statement := do
  match ← peek with
  | .name word =>
    let optional : Read (Option Expr) := do
      if endsList (← peek) then return none else return some (← values)
    match word with
    | "pass" => do skip; return .pass
    | "break" => do skip; return .leave
    | "continue" => do skip; return .nextRound
    | "return" => do skip; return .give (← optional)
    | "raise" =>
      skip
      let value ← optional
      if ← acceptWord "from" then
        let _ ← inner.whole
      return .raise value
    | "del" =>
      skip
      let (found, _) ← items inner.target
      return .delete found
    | "assert" =>
      skip
      let condition ← inner.whole
      let message ← if ← accept "," then do pure (some (← inner.whole)) else pure none
      return .claim condition message
    | "global" | "nonlocal" =>
      skip
      let (found, _) ← items name
      return if word = "global" then .global found else .outer found
    | "import" =>
      skip
      let (found, _) ← items nameAs
      return .load found
    | "from" => do skip; loadFrom
    | _ => valueStatement
  | _ => valueStatement

/-- Statements on one line. -/
def simpleLine : Read (List Line) := do
  let mut found := []
  for _ in ← bound do
    let number ← line
    found := Line.mk number (← simple) :: found
    if !(← accept ";") then break
    if (← peek) = .lineEnd then break
  match ← peek with
  | .lineEnd => skip
  | .ended => pure ()
  | _ => fail
  return found.reverse

/-- The block behind a colon, given how statements are read. -/
def block (statement : Read (List Line)) : Read (List Line) := do
  if !(← accept ":") then failWith "expected ':'"
  if (← peek) ≠ .lineEnd then return ← simpleLine
  skip
  if (← peek) ≠ .indent then
    throw ⟨← line, "IndentationError: expected an indented block"⟩
  skip
  let mut found := []
  for _ in ← bound do
    match ← peek with
    | .dedent =>
      skip
      return found
    | .ended => return found
    | _ => found := found ++ (← statement)
  return found

/-- The branches of a choice behind its first word; `fuel` bounds their number. -/
def choice (statement : Read (List Line)) : (fuel : Nat) → Read Statement
  | 0 => fail
  | fuel + 1 => do
    let condition ← naming inner
    let body ← block statement
    let number ← line
    if ← acceptWord "elif" then
      let rest ← choice statement fuel
      return .choice condition body [.mk number rest]
    else if ← acceptWord "else" then return .choice condition body (← block statement)
    else return .choice condition body []

def orElse (statement : Read (List Line)) : Read (List Line) := do
  if ← acceptWord "else" then block statement else return []

def handlers (statement : Read (List Line)) : Read (List Handler) := do
  let mut found := []
  for _ in ← bound do
    if !(← acceptWord "except") then break
    let kind ← if (← peek) = .sign ":" then pure none else do pure (some (← inner.whole))
    let bound ← if ← acceptWord "as" then do pure (some (← name)) else pure none
    found := .mk kind bound (← block statement) :: found
  return found.reverse

def attempt (statement : Read (List Line)) : Read Statement := do
  let body ← block statement
  let found ← handlers statement
  let otherwise ← orElse statement
  let final ← if ← acceptWord "finally" then do pure (some (← block statement)) else pure none
  if found.isEmpty && final.isNone then failWith "expected 'except' or 'finally' block"
  return .attempt body found otherwise (final.getD [])

def within (statement : Read (List Line)) : Read Statement := do
  let item : Read (Expr × Option Expr) := do
    let value ← inner.whole
    if ← acceptWord "as" then return (value, some (← inner.target)) else return (value, none)
  let (found, _) ← items item
  return .within found (← block statement)

/-- A function behind its word. -/
def function (statement : Read (List Line)) (decorators : List Expr) : Read Statement := do
  let word ← name
  expect "("
  let found ← parameters inner.whole ")" true
  if ← accept "->" then
    let _ ← inner.whole
  let before ← get
  let body ← block statement
  let behind := (← get).length
  let yields := (before.take (before.length - behind)).any fun token => token.1 = .name "yield"
  return .function word found body yields decorators

def kind (statement : Read (List Line)) : Read Statement := do
  let word ← name
  let bases ← if ← accept "(" then do
      if ← accept ")" then pure []
      else
        let (found, _) ← items inner.whole
        expect ")"
        pure found
    else pure []
  return .kind word bases (← block statement)

/-- Statements, given how those within them are read. -/
def statementIn (statement : Read (List Line)) : Read (List Line) := do
  let number ← line
  let one (found : Statement) : List Line := [.mk number found]
  match ← peek with
  | .sign "@" =>
    let mut decorators := []
    for _ in ← bound do
      if !(← accept "@") then break
      decorators := (← inner.whole) :: decorators
      if (← peek) ≠ .lineEnd then fail
      skip
    let start ← line
    if ← acceptWord "def" then return [.mk start (← function statement decorators.reverse)]
    else
      expectWord "class"
      return [.mk start (← kind statement)]
  | .name "if" =>
    skip
    return one (← choice statement ((← get).length + 1))
  | .name "while" =>
    skip
    let condition ← naming inner
    let body ← block statement
    return one (.loop condition body (← orElse statement))
  | .name "for" =>
    skip
    let target ← tupleOf inner.target
    checkTarget target
    expectWord "in"
    let source ← values
    let body ← block statement
    return one (.each target source body (← orElse statement))
  | .name "try" => do skip; return one (← attempt statement)
  | .name "with" => do skip; return one (← within statement)
  | .name "def" => do skip; return one (← function statement [])
  | .name "class" => do skip; return one (← kind statement)
  | .indent => throw ⟨number, "IndentationError: unexpected indent"⟩
  | .lineEnd => do skip; return []
  | _ => simpleLine

/-- Reads statements; `fuel` bounds how deep blocks are nested. -/
def statement : (fuel : Nat) → Read (List Line)
  | 0 => fail
  | fuel + 1 => statementIn (statement fuel)

def statements : Read (List Line) := do
  let mut found := #[]
  for _ in ← bound do
    if (← peek) = .ended then return found.toList
    found := found ++ (← statement maxDepth).toArray
  return found.toList

end Read

/-- Reads a script. -/
def readScript (text : String) : Except Misreading (List Line) := do
  let text := match text.toList with
    | '\uFEFF' :: rest => rest
    | rest => rest
  let tokens ← Reading.ofScript text
  let (found, _) ← Read.statements.run tokens
  return found

end SignalCatalog.Indented
