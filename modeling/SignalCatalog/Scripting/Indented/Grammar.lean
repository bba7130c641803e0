import SignalCatalog.Scripting.Indented.Code
import SignalCatalog.Scripting.Indented.Token

/-!
# Reading indented scripts

Expressions are read level by level, from those that bind least. Whatever can be nested is read by way
of an argument, so that one bound on the depth serves all.
-/

namespace SignalCatalog.Indented

abbrev Read := StateT (List (Token × Nat)) (Except Misreading)

namespace Read

/-! ## Tokens -/

def peek : Read Token := return ((← get).head?.map Prod.fst).getD .ended

def line : Read Nat := return ((← get).head?.map Prod.snd).getD 1

def skip : Read Unit := modify List.tail

def failWith {α : Type} (words : String) : Read α := do throw ⟨← line, "SyntaxError: " ++ words⟩

def fail {α : Type} : Read α := failWith "invalid syntax"

/-- A bound on the tokens that can follow. -/
def bound : Read (List Nat) := return List.range ((← get).length + 1)

def accept (sign : String) : Read Bool := do
  if (← peek) = .sign sign then
    skip
    return true
  else return false

def expect (sign : String) : Read Unit := do if !(← accept sign) then fail

def acceptWord (word : String) : Read Bool := do
  if (← peek) = .name word then
    skip
    return true
  else return false

def expectWord (word : String) : Read Unit := do if !(← acceptWord word) then fail

def keywords : List String :=
  ["False", "None", "True", "and", "as", "assert", "async", "await", "break", "class", "continue",
    "def", "del", "elif", "else", "except", "finally", "for", "from", "global", "if", "import", "in",
    "is", "lambda", "nonlocal", "not", "or", "pass", "raise", "return", "try", "while", "with",
    "yield"]

def name : Read String := do
  match ← peek with
  | .name name =>
    if keywords.contains name then fail
    skip
    return name
  | _ => fail

/-- A name of several parts with points between them. -/
def dottedName : Read String := do
  let mut found ← name
  for _ in ← bound do
    if !(← accept ".") then break
    found := found ++ "." ++ (← name)
  return found

/-- Whether a token can start no expression, so that a list before it is over. -/
def endsList (token : Token) : Bool :=
  match token with
  | .sign sign => [")", "]", "\x7d", "=", ":", ";"].contains sign
  | .name name => ["for", "in", "if", "else", "as", "from"].contains name
  | .lineEnd | .ended | .dedent | .indent => true
  | _ => false

/-- Items with commas between them, up to a token that starts none, and whether there was a comma. -/
def items {α : Type} (item : Read α) : Read (List α × Bool) := do
  let mut found := [← item]
  let mut comma := false
  for _ in ← bound do
    if !(← accept ",") then break
    comma := true
    if endsList (← peek) then break
    found := (← item) :: found
  return (found.reverse, comma)

/-! ## Levels -/

/-- How nested expressions are read. -/
structure Inner where
  whole : Read Expr
  /-- What a loop sets. -/
  target : Read Expr
  /-- An expression that is no choice, unless it stands in parentheses. -/
  condition : Read Expr

section

variable (inner : Inner)

/-- The closing brace of an expression in a text: the characters before it; `depth` counts brackets. -/
def untilBrace : (depth : Nat) → List Char → Option (List Char × List Char)
  | _, [] => none
  | depth, c :: rest =>
    if depth = 0 && (c = '\x7d' || c = ':' || (c = '!' && rest.head? ≠ some '=')) then
      some ([], c :: rest)
    else
      let depth := if ['(', '[', '\x7b'].contains c then depth + 1
        else if [')', ']', '\x7d'].contains c then depth - 1 else depth
      (untilBrace depth rest).map fun (text, rest) => (c :: text, rest)

/-- The text up to the next brace; doubled braces stand for themselves. -/
def untilOpening (inFormat : Bool) : List Char → List Char × List Char
  | [] => ([], [])
  | '\x7b' :: '\x7b' :: rest =>
    if inFormat then ([], '\x7b' :: '\x7b' :: rest)
    else
      let (text, rest) := untilOpening inFormat rest
      ('\x7b' :: text, rest)
  | '\x7d' :: '\x7d' :: rest =>
    if inFormat then ([], '\x7d' :: '\x7d' :: rest)
    else
      let (text, rest) := untilOpening inFormat rest
      ('\x7d' :: text, rest)
  | c :: rest =>
    if c = '\x7b' || c = '\x7d' then ([], c :: rest)
    else
      let (text, rest) := untilOpening inFormat rest
      (c :: text, rest)

/-- The parts of a text with expressions, up to a closing brace in a format; `fuel` bounds their
number. -/
def parts (raw : Bool) : (fuel : Nat) → (inFormat : Bool) → List Char →
    Read (List Part × List Char)
  | 0, _, text => return ([], text)
  | fuel + 1, inFormat, text => do
    let (lead, rest) := untilOpening inFormat text
    let lead := if raw then lead else Reading.unescape false (lead.length + 1) lead
    let before : List Part := if lead.isEmpty then [] else [.text (String.ofList lead)]
    match rest with
    | '\x7b' :: rest =>
      match untilBrace 0 rest with
      | none => failWith "f-string: expecting '\x7d'"
      | some (source, rest) =>
        let shown := String.ofList source
        let (source, shows) := match source.reverse.dropWhile (· = ' ') with
          | '=' :: more =>
            if more.head?.any fun c => "=!<>".toList.contains c then (source, false)
            else (more.reverse, true)
          | _ => (source, false)
        if source.all fun c => c = ' ' then failWith "f-string: empty expression not allowed"
        let tokens ← (Reading.ofExpression (← line) source).mapError fun fault => fault
        let value ← match (do
            let (found, comma) ← items inner.whole
            expect ")"
            return match found with
              | [value] => if comma then Expr.tuple found else value
              | found => Expr.tuple found : Read Expr).run tokens with
          | .ok (value, _) => pure value
          | .error _ => failWith "f-string: invalid syntax"
        let (conversion, rest) := match rest with
          | '!' :: c :: more => (some c, more)
          | more => (if shows then some 'r' else none, more)
        let (format, rest) ← match rest with
          | ':' :: more => parts raw fuel true more
          | more => pure ([], more)
        let conversion := if shows && !format.isEmpty && conversion = some 'r' then none else conversion
        match rest with
        | '\x7d' :: rest =>
          let found : List Part := (if shows then [.text shown] else []) ++
            [.value value conversion format]
          let (others, rest) ← parts raw fuel inFormat rest
          return (before ++ found ++ others, rest)
        | _ => failWith "f-string: expecting '\x7d'"
    | '\x7d' :: rest =>
      if inFormat then return (before, '\x7d' :: rest)
      else failWith "f-string: single '\x7d' is not allowed"
    | rest => return (before, rest)

/-- Neighbouring texts, which are one. -/
def texts : Read Expr := do
  let mut found : List Part := []
  let mut bytes : Option String := none
  let mut formats := false
  for _ in ← bound do
    match ← peek with
    | .text text =>
      skip
      found := found ++ [.text text]
    | .octets octets =>
      skip
      bytes := some (bytes.getD "" ++ octets)
    | .formatted raw body =>
      skip
      formats := true
      let (more, _) ← parts inner raw (body.length + 2) false body
      found := found ++ more
    | _ => break
  match bytes with
  | some octets =>
    if found.isEmpty then return .literal (.octets octets)
    else failWith "cannot mix bytes and nonbytes literals"
  | none =>
    if formats then return .formatted found
    else
      return .literal (.text (String.join (found.map fun part => match part with
        | .text text => text
        | .value _ _ _ => "")))

/-- An expression that may set a name. -/
def naming : Read Expr := do
  let value ← inner.whole
  match value with
  | .name name => if ← accept ":=" then return .naming name (← inner.whole) else return value
  | value => return value

def starredOr (item : Read Expr) : Read Expr := do
  if ← accept "*" then return .starred (← item) else item

/-- Items that make a tuple if there is a comma. -/
def tupleOf (item : Read Expr) : Read Expr := do
  let (found, comma) ← items (starredOr item)
  match found with
  | [value] => return if comma then .tuple found else value
  | found => return .tuple found

/-- A yielded value, behind its word. -/
def yielded : Read Expr := do
  if ← acceptWord "from" then return .yielded (some (.starred (← inner.whole)))
  if endsList (← peek) then return .yielded none
  else return .yielded (some (← tupleOf inner.whole))

/-- The clauses of a comprehension. -/
def clauses : Read (List Clause) := do
  let mut found := []
  for _ in ← bound do
    if ← acceptWord "for" then
      let goal ← tupleOf inner.target
      expectWord "in"
      found := .each goal (← inner.condition) :: found
    else if ← acceptWord "if" then found := .only (← inner.condition) :: found
    else break
  return found.reverse

/-- What stands in parentheses. -/
def parenthesized : Read Expr := do
  if ← accept ")" then return .tuple []
  if ← acceptWord "yield" then
    let value ← yielded inner
    expect ")"
    return value
  let first ← starredOr (naming inner)
  if (← peek) = .name "for" then
    let found ← clauses inner
    expect ")"
    return .comprehension .list first first found
  if ← accept "," then
    if ← accept ")" then return .tuple [first]
    let (others, _) ← items (starredOr (naming inner))
    expect ")"
    return .tuple (first :: others)
  expect ")"
  return first

def bracketed : Read Expr := do
  if ← accept "]" then return .list []
  let first ← starredOr (naming inner)
  if (← peek) = .name "for" then
    let found ← clauses inner
    expect "]"
    return .comprehension .list first first found
  let mut found := [first]
  if ← accept "," then
    if (← peek) ≠ .sign "]" then
      let (others, _) ← items (starredOr (naming inner))
      found := first :: others
  expect "]"
  return .list found

/-- An item of a dictionary, or of a set. -/
def braceItem : Read (Option Expr × Expr × Bool) := do
  if ← accept "**" then return (none, ← inner.whole, true)
  let first ← starredOr (naming inner)
  if ← accept ":" then return (some first, ← inner.whole, true)
  return (none, first, false)

def braced : Read Expr := do
  if ← accept "\x7d" then return .dict []
  let (key, value, isPair) ← braceItem inner
  if (← peek) = .name "for" then
    let found ← clauses inner
    expect "\x7d"
    return .comprehension (if isPair then .dict else .set) (key.getD value) value found
  let mut found := [(key, value, isPair)]
  if ← accept "," then
    if (← peek) ≠ .sign "\x7d" then
      let (others, _) ← items (braceItem inner)
      found := found ++ others
  expect "\x7d"
  if found.all fun item => item.2.2 then return .dict (found.map fun item => (item.1, item.2.1))
  else if found.any fun item => item.2.2 then fail
  else return .set (found.map fun item => item.2.1)

def atom : Read Expr := do
  match ← peek with
  | .text _ | .octets _ | .formatted _ _ => texts inner
  | .whole n =>
    skip
    return .literal (.whole n)
  | .fraction x =>
    skip
    return .literal (.fraction x)
  | .sign "(" =>
    skip
    parenthesized inner
  | .sign "[" =>
    skip
    bracketed inner
  | .sign "\x7b" =>
    skip
    braced inner
  | .sign "..." =>
    skip
    return .literal .ellipsis
  | .name "None" =>
    skip
    return .literal .nothing
  | .name "True" =>
    skip
    return .literal (.truth true)
  | .name "False" =>
    skip
    return .literal (.truth false)
  | .name _ => return .name (← name)
  | _ => fail

/-- An argument of a call. -/
def argument : Read Argument := do
  if ← accept "*" then return .all (← inner.whole)
  if ← accept "**" then return .allNamed (← inner.whole)
  match ← get with
  | (.name word, _) :: (.sign "=", _) :: rest =>
    if keywords.contains word then fail
    set rest
    return .named word (← inner.whole)
  | _ =>
    let value ← naming inner
    if (← peek) = .name "for" then
      return .plain (.comprehension .list value value (← clauses inner))
    return .plain value

/-- An index, or a slice. -/
def sliceItem : Read Expr := do
  let part : Read (Option Expr) := do
    match ← peek with
    | .sign ":" | .sign "]" | .sign "," => return none
    | _ => return some (← naming inner)
  let start ← part
  if !(← accept ":") then
    match start with
    | some index => return index
    | none => fail
  let stop ← part
  let step ← if ← accept ":" then part else pure none
  return .slice start stop step

/-- An atom with what follows it: calls, items and attributes. -/
def primary : Read Expr := do
  let mut found ← atom inner
  for _ in ← bound do
    if ← accept "(" then
      if ← accept ")" then found := .call found []
      else
        let (arguments, _) ← items (argument inner)
        expect ")"
        found := .call found arguments
    else if ← accept "[" then
      let (indices, comma) ← items (sliceItem inner)
      expect "]"
      found := .item found (match indices with
        | [index] => if comma then .tuple indices else index
        | indices => .tuple indices)
    else if ← accept "." then found := .member found (← name)
    else break
  return found

/-- A primary with its signs and powers; `fuel` bounds the number of signs. -/
def factor : (fuel : Nat) → Read Expr
  | 0 => fail
  | fuel + 1 => do
    if ← accept "-" then return .unary .minus (← factor fuel)
    else if ← accept "+" then return .unary .plus (← factor fuel)
    else if ← accept "~" then return .unary .invert (← factor fuel)
    else
      let base ← primary inner
      if ← accept "**" then return .binary .power base (← factor fuel)
      else return base

end

/-- Operators of one level, from left to right. -/
def level (next : Read Expr) (operators : List (String × BinaryOperator)) : Read Expr := do
  let mut found ← next
  for _ in ← bound do
    match ← peek with
    | .sign sign =>
      match operators.find? fun item => item.1 = sign with
      | some (_, operator) =>
        skip
        found := .binary operator found (← next)
      | none => break
    | _ => break
  return found

/-- The levels of operators, those that bind most first. -/
def operatorLevels : List (List (String × BinaryOperator)) :=
  [[("*", .multiply), ("/", .divide), ("//", .floorDivide), ("%", .remainder)],
    [("+", .add), ("-", .subtract)], [("<<", .shiftLeft), (">>", .shiftRight)], [("&", .and)],
    [("^", .exclusiveOr)], [("|", .or)]]

def compareOperator? : Read (Option CompareOperator) := do
  match ← peek with
  | .sign sign =>
    match [("==", CompareOperator.equal), ("!=", .notEqual), ("<", .less), ("<=", .upTo),
      (">", .greater), (">=", .atLeast)].find? fun item => item.1 = sign with
    | some (_, operator) =>
      skip
      return some operator
    | none => return none
  | .name "in" =>
    skip
    return some .isIn
  | .name "not" =>
    skip
    expectWord "in"
    return some .notIn
  | .name "is" =>
    skip
    return some (if ← acceptWord "not" then .notSame else .same)
  | _ => return none

def comparison (operand : Read Expr) : Read Expr := do
  let first ← operand
  let mut rest := []
  for _ in ← bound do
    match ← compareOperator? with
    | some operator => rest := (operator, ← operand) :: rest
    | none => break
  return if rest.isEmpty then first else .comparison first rest.reverse

def inversion (operand : Read Expr) : Read Expr := do
  let mut count := 0
  for _ in ← bound do
    if !(← acceptWord "not") then break
    count := count + 1
  let found ← comparison operand
  return (List.range count).foldl (fun found _ => .negated found) found

/-- Operands with a word between them. -/
def joined (word : String) (join : Expr → Expr → Expr) (operand : Read Expr) : Read Expr := do
  let mut found := [← operand]
  for _ in ← bound do
    if !(← acceptWord word) then break
    found := (← operand) :: found
  match found with
  | last :: before => return before.foldl (fun rest value => join value rest) last
  | [] => fail

/-- The parameters of a function up to a closing sign. -/
def parameters (whole : Read Expr) (closing : String) (typed : Bool) : Read (List Parameter) := do
  let mut found := []
  let mut onlyNamed := false
  for _ in ← bound do
    if (← peek) = .sign closing then break
    let annotation : Read Unit := do
      if typed then
        if ← accept ":" then
          let _ ← whole
    if ← accept "**" then
      let word ← name
      annotation
      found := .mk word .namedRest none :: found
    else if ← accept "*" then
      onlyNamed := true
      if (← peek) ≠ .sign "," then
        let word ← name
        annotation
        found := .mk word .rest none :: found
    else if !(← accept "/") then
      let word ← name
      annotation
      let byDefault ← if ← accept "=" then do pure (some (← whole)) else pure none
      found := .mk word (if onlyNamed then .named else .plain) byDefault :: found
    if !(← accept ",") then break
  expect closing
  return found.reverse

/-- An expression of operators without words. -/
def operand (inner : Inner) : Read Expr := do
  operatorLevels.foldl level (factor inner ((← get).length + 1))

def disjunction (inner : Inner) : Read Expr :=
  joined "or" .either (joined "and" .both (inversion (operand inner)))

/-- An expression, given how those within it are read. -/
def expressionIn (inner : Inner) : Read Expr := do
  if ← acceptWord "lambda" then
    let found ← parameters inner.whole ":" false
    return .lambda found (← inner.whole)
  let value ← disjunction inner
  if ← acceptWord "if" then
    let condition ← disjunction inner
    expectWord "else"
    return .choice condition value (← inner.whole)
  else return value

/-- How expressions are read; `fuel` bounds how deep they are nested. -/
def innerAt : (fuel : Nat) → Inner
  | 0 => ⟨fail, fail, fail⟩
  | fuel + 1 =>
    let inner := innerAt fuel
    ⟨expressionIn inner, operand inner, disjunction inner⟩

/-- The most brackets within each other. -/
def maxDepth : Nat := 100

end Read

end SignalCatalog.Indented
