import SignalCatalog.Scripting.Indented.Display

/-!
# Operators of indented scripts

Truth, equality, order, sums, and the items of values.
-/

namespace SignalCatalog.Indented

/-- The double next to a fraction. -/
def fractionOf (x : Rat) : Binary64 := .ofQuotient (decide (x < 0)) x.num.natAbs x.den

namespace Run

variable (engine : Engine)

/-! ## Truth, equality and order -/

def truth (value : Value) : Run Bool := do
  match value with
  | .nothing => return false
  | .truth holds => return holds
  | .whole n => return n ≠ 0
  | .fraction x => return x.value? ≠ some 0
  | .text text => return text ≠ ""
  | .octets octets => return octets ≠ ""
  | .tuple items => return !items.isEmpty
  | .object address =>
    match ← thingAt address with
    | .list items => return !items.isEmpty
    | .dict entries => return !entries.isEmpty
    | .set items => return !items.isEmpty
    | .record _ _ =>
      match ← special? value "__bool__", ← special? value "__len__" with
      | some function, _ =>
        match ← engine.call function ⟨[value], []⟩ with
        | .truth holds => return holds
        | _ => return true
      | none, some function =>
        match ← engine.call function ⟨[value], []⟩ with
        | .whole n => return n ≠ 0
        | _ => return true
      | none, none => return true
    | _ => return true
  | _ => return true

/-- Whether two values are one. -/
def same (a b : Value) : Bool :=
  match a, b with
  | .nothing, .nothing | .ellipsis, .ellipsis => true
  | .truth x, .truth y => x = y
  | .whole x, .whole y => x = y
  | .text x, .text y => x = y
  | .native x, .native y => kindNamed x = kindNamed y
  | .object x, .object y => x = y
  | .tuple [], .tuple [] => true
  | _, _ => false

/-- Whether two values are equal; `fuel` bounds how deep they are nested. -/
def equalUpTo : (fuel : Nat) → Value → Value → Run Bool
  | 0, _, _ => return false
  | fuel + 1, a, b => do
    let pairwise (xs ys : List Value) : Run Bool := do
      if xs.length ≠ ys.length then return false
      for (x, y) in xs.zip ys do
        if !(← equalUpTo fuel x y) then return false
      return true
    match number? a, number? b with
    | some x, some y => return x = y
    | _, _ =>
      match a, b with
      | .octets x, .octets y => return x = y
      | .tuple xs, .tuple ys => pairwise xs ys
      | .object x, .object y =>
        if x = y then return true
        match ← thingAt x, ← thingAt y with
        | .list xs, .list ys => pairwise xs.toList ys.toList
        | .set xs, .set ys =>
          if xs.length ≠ ys.length then return false
          for x in xs do
            if !(← ys.anyM (equalUpTo fuel x)) then return false
          return true
        | .dict xs, .dict ys =>
          if xs.length ≠ ys.length then return false
          for (key, value) in xs do
            let found ← ys.anyM fun (other, there) => do
              return (← equalUpTo fuel key other) && (← equalUpTo fuel value there)
            if !found then return false
          return true
        | .record _ fields, .record _ others =>
          match ← special? a "__eq__" with
          | some function => truth engine (← engine.call function ⟨[a, b], []⟩)
          | none =>
            match fields.find? fun item => item.1 = "path", others.find? fun item => item.1 = "path" with
            | some (_, .text x), some (_, .text y) => return x = y
            | _, _ => return false
        | _, _ => return false
      | .object _, _ =>
        match ← special? a "__eq__" with
        | some function => truth engine (← engine.call function ⟨[a, b], []⟩)
        | none => return false
      | a, b => return same a b

def equal (a b : Value) : Run Bool := equalUpTo engine 30 a b

/-- Compares values; `fuel` bounds how deep they are nested. -/
def orderUpTo : (fuel : Nat) → Value → Value → Run (Option Ordering)
  | 0, _, _ => return none
  | fuel + 1, a, b => do
    let rec lists : List Value → List Value → Run (Option Ordering)
      | [], [] => return some .eq
      | [], _ => return some .lt
      | _, [] => return some .gt
      | x :: xs, y :: ys => do
        if ← equal engine x y then lists xs ys else orderUpTo fuel x y
    match number? a, number? b with
    | some x, some y => return some (if x < y then .lt else if x = y then .eq else .gt)
    | _, _ =>
      match a, b with
      | .text x, .text y => return some (compare x y)
      | .octets x, .octets y => return some (compare x y)
      | .tuple xs, .tuple ys => lists xs ys
      | a, b =>
        match ← thing? a, ← thing? b with
        | some (.list xs), some (.list ys) => lists xs.toList ys.toList
        | some (.record _ _), _ =>
          match ← special? a "__lt__" with
          | some function =>
            if ← truth engine (← engine.call function ⟨[a, b], []⟩) then return some .lt
            else return some .gt
          | none =>
            match ← field? a "path", ← field? b "path" with
            | some (.text x), some (.text y) => return some (compare x y)
            | _, _ => return none
        | _, _ => return none

def order (sign : String) (a b : Value) : Run Ordering := do
  match ← orderUpTo engine 30 a b with
  | some found => return found
  | none => fail "TypeError" ("'" ++ sign ++ "' not supported between instances of '" ++
      (← kindName a) ++ "' and '" ++ (← kindName b) ++ "'")

/-! ## Items -/

/-- The lines of a text, each with its line break. -/
def linesWithBreaks (text : String) : List String :=
  let rec go : List Char → List Char → List String
    | [], [] => []
    | current, [] => [String.ofList current.reverse]
    | current, '\n' :: rest => String.ofList ('\n' :: current).reverse :: go [] rest
    | current, c :: rest => go (c :: current) rest
  go [] text.toList

/-- The text of bytes. -/
def decoded (octets : String) : Run String := do
  match Text.Octets.toText? octets with
  | some text => return text
  | none => fail "UnicodeDecodeError" "'utf-8' codec can't decode byte: invalid start byte"

/-- What is left to read of a file. -/
def readRest (file : OpenText) : Run Value := do
  if file.closed then fail "ValueError" "I/O operation on closed file."
  if !(file.mode.contains 'r' || file.mode.contains '+') then
    fail "io.UnsupportedOperation" "not readable"
  let octets ← inWorld do
    let state ← get
    let text := state.unread file.index
    set (state.advance file.index text.length)
    return text
  if file.isBinary then return .octets octets
  else
    let rec plain : List Char → List Char
      | '\r' :: '\n' :: rest => '\n' :: plain rest
      | '\r' :: rest => '\n' :: plain rest
      | c :: rest => c :: plain rest
      | [] => []
    return .text (String.ofList (plain (← decoded octets).toList))

/-- The lines that are left to read of a file. -/
def readLines (file : OpenText) : Run (List Value) := do
  match ← readRest file with
  | .text text => return (linesWithBreaks text).map .text
  | .octets octets => return (linesWithBreaks octets).map .octets
  | _ => return []

/-- All items of a value, one after another; `fuel` bounds how many values lead to them. -/
def itemsUpTo : (fuel : Nat) → Value → Run (List Value)
  | 0, _ => return []
  | fuel + 1, value => do
    let refuse : Run (List Value) := do
      fail "TypeError" ("'" ++ (← kindName value) ++ "' object is not iterable")
    match value with
    | .tuple items => return items
    | .text text => return text.toList.map fun c => .text c.toString
    | .octets octets => return octets.toList.map fun c => .whole c.toNat
    | .object address =>
      match ← thingAt address with
      | .list items => return items.toList
      | .dict entries => return entries.map Prod.fst
      | .set items => return items
      | .iterator rest =>
        put address (.iterator [])
        return rest
      | .file file => readLines file
      | .record _ _ =>
        match ← special? value "__iter__", ← special? value "__next__" with
        | some function, none => itemsUpTo fuel (← engine.call function ⟨[value], []⟩)
        | _, some function =>
          let mut found := #[]
          for _ in [0:100000] do
            let next ← tryCatch (do pure (some (← engine.call function ⟨[value], []⟩))) fun stop => do
              match stop with
              | .raised exception trace =>
                if ← isOf exception (.native "StopIteration") then pure none
                else throw (.raised exception trace)
              | stop => throw stop
            match next with
            | some item => found := found.push item
            | none => break
          return found.toList
        | none, none => refuse
      | _ => refuse
    | _ => refuse

def items (value : Value) : Run (List Value) := itemsUpTo engine 20 value

/-- The entry of a key, among those of a dictionary. -/
def entry? (entries : List (Value × Value)) (key : Value) : Run (Option Value) := do
  for (other, value) in entries do
    if ← equal engine other key then return some value
  return none

def withEntry (entries : List (Value × Value)) (key value : Value) : Run (List (Value × Value)) := do
  if (← entry? engine entries key).isSome then
    entries.mapM fun (other, there) => do
      return if ← equal engine other key then (other, value) else (other, there)
  else return entries ++ [(key, value)]

def withoutEntry (entries : List (Value × Value)) (key : Value) : Run (List (Value × Value)) := do
  entries.filterM fun (other, _) => return !(← equal engine other key)

/-- Makes a dictionary of pairs. -/
def makeDict (pairs : List (Value × Value)) : Run Value := do
  let mut entries := []
  for (key, value) in pairs do
    entries ← withEntry engine entries key value
  make (.dict entries)

/-- The values without those that are there before. -/
def distinct (values : List Value) : Run (List Value) := do
  let mut found := []
  for value in values do
    if !(← found.anyM (equal engine value)) then found := found ++ [value]
  return found

def contains (holder item : Value) : Run Bool := do
  match holder, item with
  | .text text, .text part =>
    return part = "" || (List.range (text.length + 1)).any fun k =>
      (Text.after? part.toList (text.toList.drop k)).isSome
  | .octets text, .octets part =>
    return part = "" || (List.range (text.length + 1)).any fun k =>
      (Text.after? part.toList (text.toList.drop k)).isSome
  | .text _, _ => fail "TypeError" ("'in <string>' requires string as left operand, not " ++
      (← kindName item))
  | holder, item =>
    match ← special? holder "__contains__" with
    | some function => truth engine (← engine.call function ⟨[holder, item], []⟩)
    | none =>
      match holder with
      | .object _ | .tuple _ | .octets _ => (← items engine holder).anyM (equal engine item)
      | _ => fail "TypeError" ("argument of type '" ++ (← kindName holder) ++ "' is not iterable")

def sizeOf (value : Value) : Run Nat := do
  match value with
  | .text text => return text.length
  | .octets octets => return octets.length
  | .tuple items => return items.length
  | value =>
    match ← thing? value with
    | some (.list items) => return items.size
    | some (.dict entries) => return entries.length
    | some (.set items) => return items.length
    | _ =>
      match ← special? value "__len__" with
      | some function =>
        match ← engine.call function ⟨[value], []⟩ with
        | .whole n => return n.toNat
        | _ => return 0
      | none => fail "TypeError" ("object of type '" ++ (← kindName value) ++ "' has no len()")

/-- An index from the start, if it is within a length. -/
def place? (length : Nat) (index : Int) : Option Nat :=
  let found := if index < 0 then index + length else index
  if 0 ≤ found ∧ found < length then some found.toNat else none

/-- The indices of a slice. -/
def sliceIndices (length : Nat) (start stop : Option Int) (step : Int) : List Nat :=
  let size : Int := length
  let clamp (low high n : Int) : Int :=
    let n := if n < 0 then n + size else n
    max low (min high n)
  if step > 0 then
    let first := (start.map (clamp 0 size)).getD 0
    let last := (stop.map (clamp 0 size)).getD size
    let count := (last - first + step - 1) / step
    (List.range count.toNat).map fun k => (first + step * Int.ofNat k).toNat
  else
    let first := (start.map (clamp (-1) (size - 1))).getD (size - 1)
    let last := (stop.map (clamp (-1) (size - 1))).getD (-1)
    let count := (first - last + (-step) - 1) / (-step)
    (List.range count.toNat).map fun k => (first + step * Int.ofNat k).toNat

def bound? (value : Value) : Run (Option Int) := do
  match value with
  | .nothing => return none
  | .whole n => return some n
  | .truth holds => return some (if holds then 1 else 0)
  | _ =>
    fail "TypeError" "slice indices must be integers or None or have an __index__ method"

def sliceOf (owner start stop step : Value) : Run Value := do
  let (start, stop, step) := (← bound? start, ← bound? stop, (← bound? step).getD 1)
  if step = 0 then fail "ValueError" "slice step cannot be zero"
  let pick {α : Type} (items : List α) : List α :=
    let items := items.toArray
    (sliceIndices items.size start stop step).filterMap fun k => items[k]?
  match owner with
  | .text text => return .text (String.ofList (pick text.toList))
  | .octets octets => return .octets (String.ofList (pick octets.toList))
  | .tuple items => return .tuple (pick items)
  | owner =>
    match ← thing? owner with
    | some (.list items) => makeList (pick items.toList)
    | _ => fail "TypeError" ("'" ++ (← kindName owner) ++ "' object is not subscriptable")

def itemOf (owner index : Value) : Run Value := do
  let atIndex {α : Type} (words : String) (items : List α) : Run α := do
    match index with
    | .whole n =>
      match (place? items.length n).bind fun k => items[k]? with
      | some item => return item
      | none => fail "IndexError" (words ++ " index out of range")
    | .truth holds =>
      match items[if holds then 1 else 0]? with
      | some item => return item
      | none => fail "IndexError" (words ++ " index out of range")
    | _ => fail "TypeError" (words ++ " indices must be integers or slices, not " ++ (← kindName index))
  match owner with
  | .text text => return .text (← atIndex "string" text.toList).toString
  | .octets octets => return .whole (← atIndex "index" octets.toList).toNat
  | .tuple items => atIndex "tuple" items
  | .native _ => return owner
  | owner =>
    match ← thing? owner with
    | some (.list items) => atIndex "list" items.toList
    | some (.dict entries) =>
      match ← entry? engine entries index with
      | some value => return value
      | none => failWith "KeyError" [index]
    | _ =>
      match ← special? owner "__getitem__" with
      | some function => engine.call function ⟨[owner, index], []⟩
      | none => fail "TypeError" ("'" ++ (← kindName owner) ++ "' object is not subscriptable")

def setItem (owner index value : Value) : Run Unit := do
  match owner with
  | .object address =>
    match ← thingAt address, index with
    | .list items, .whole n =>
      match place? items.size n with
      | some k => put address (.list (items.setIfInBounds k value))
      | none => fail "IndexError" "list assignment index out of range"
    | .dict entries, key => put address (.dict (← withEntry engine entries key value))
    | _, _ =>
      match ← special? owner "__setitem__" with
      | some function =>
        let _ ← engine.call function ⟨[owner, index, value], []⟩
      | none => fail "TypeError" ("'" ++ (← kindName owner) ++
          "' object does not support item assignment")
  | _ => fail "TypeError" ("'" ++ (← kindName owner) ++ "' object does not support item assignment")

def dropItem (owner index : Value) : Run Unit := do
  match owner with
  | .object address =>
    match ← thingAt address, index with
    | .list items, .whole n =>
      match place? items.size n with
      | some k => put address (.list (items.toList.eraseIdx k).toArray)
      | none => fail "IndexError" "list assignment index out of range"
    | .dict entries, key =>
      if (← entry? engine entries key).isNone then failWith "KeyError" [key]
      put address (.dict (← withoutEntry engine entries key))
    | _, _ => fail "TypeError" "object doesn't support item deletion"
  | _ => fail "TypeError" "object doesn't support item deletion"

/-! ## Sums -/

def operatorSign : BinaryOperator → String
  | .add => "+"
  | .subtract => "-"
  | .multiply => "*"
  | .divide => "/"
  | .floorDivide => "//"
  | .remainder => "%"
  | .power => "** or pow()"
  | .and => "&"
  | .or => "|"
  | .exclusiveOr => "^"
  | .shiftLeft => "<<"
  | .shiftRight => ">>"

def integer? (value : Value) : Option Int :=
  match value with
  | .whole n => some n
  | .truth holds => some (if holds then 1 else 0)
  | _ => none

/-- The bits of two numbers combined, as if both went on forever to the left. -/
def bitwise (f : Bool → Bool → Bool) (a b : Int) : Int :=
  let width := max (Nat.log2 a.natAbs) (Nat.log2 b.natAbs) + 2
  let bound : Int := 2 ^ width
  let bits (n : Int) : Nat := (n % bound).toNat
  let found := Nat.bitwise f (bits a) (bits b)
  if f (decide (a < 0)) (decide (b < 0)) then (found : Int) - bound else found

def integers (operator : BinaryOperator) (a b : Int) : Run Value := do
  match operator with
  | .add => return .whole (a + b)
  | .subtract => return .whole (a - b)
  | .multiply => return .whole (a * b)
  | .divide =>
    if b = 0 then fail "ZeroDivisionError" "division by zero"
    return .fraction (fractionOf ((a : Rat) / b))
  | .floorDivide =>
    if b = 0 then fail "ZeroDivisionError" "integer division or modulo by zero"
    return .whole (Int.fdiv a b)
  | .remainder =>
    if b = 0 then fail "ZeroDivisionError" "integer modulo by zero"
    return .whole (Int.fmod a b)
  | .power =>
    if b < 0 then
      if a = 0 then fail "ZeroDivisionError" "0.0 cannot be raised to a negative power"
      return .fraction (fractionOf (1 / (a : Rat) ^ b.natAbs))
    if b > 100000 then fail "MemoryError" ""
    return .whole (a ^ b.toNat)
  | .and => return .whole (bitwise (· && ·) a b)
  | .or => return .whole (bitwise (· || ·) a b)
  | .exclusiveOr => return .whole (bitwise (· != ·) a b)
  | .shiftLeft =>
    if b < 0 then fail "ValueError" "negative shift count"
    if b > 100000 then fail "MemoryError" ""
    return .whole (a * 2 ^ b.toNat)
  | .shiftRight =>
    if b < 0 then fail "ValueError" "negative shift count"
    return .whole (Int.fdiv a (2 ^ (min b 100000).toNat))

/-- The result of an operator on numbers with fractions, if there is one. -/
def fractions (operator : BinaryOperator) (a b : Rat) : Run (Option Value) := do
  let give (x : Rat) : Run (Option Value) := return some (.fraction (fractionOf x))
  match operator with
  | .add => give (a + b)
  | .subtract => give (a - b)
  | .multiply => give (a * b)
  | .divide =>
    if b = 0 then fail "ZeroDivisionError" "float division by zero"
    give (a / b)
  | .floorDivide =>
    if b = 0 then fail "ZeroDivisionError" "float floor division by zero"
    give (a / b).floor
  | .remainder =>
    if b = 0 then fail "ZeroDivisionError" "float modulo"
    give (a - b * (a / b).floor)
  | .power =>
    if b.den = 1 then give (if b < 0 then 1 / a ^ b.num.natAbs else a ^ b.num.natAbs)
    else return some (.fraction .nan)
  | _ => return none

/-- Values a number of times. -/
def times {α : Type} (items : List α) (n : Int) : Run (List α) := do
  if items.length * n.toNat > 10000000 then fail "MemoryError" ""
  return (List.replicate n.toNat items).flatten

/-- What a method of a kind makes of an operator. -/
def methodOf : BinaryOperator → String
  | .add => "__add__"
  | .subtract => "__sub__"
  | .multiply => "__mul__"
  | .divide => "__truediv__"
  | .floorDivide => "__floordiv__"
  | .remainder => "__mod__"
  | .power => "__pow__"
  | .and => "__and__"
  | .or => "__or__"
  | .exclusiveOr => "__xor__"
  | .shiftLeft => "__lshift__"
  | .shiftRight => "__rshift__"

/-- A path below another one. -/
def joinPaths (folder name : String) : String :=
  if name.startsWith "/" || folder = "" || folder = "." then name
  else if folder.endsWith "/" then folder ++ name
  else folder ++ "/" ++ name

def makePath (path : String) : Run Value :=
  make (.record (.native "pathlib.Path") [("path", .text path)])

def binary (operator : BinaryOperator) (a b : Value) : Run Value := do
  let refuse : Run Value := do
    fail "TypeError" ("unsupported operand type(s) for " ++ operatorSign operator ++ ": '" ++
      (← kindName a) ++ "' and '" ++ (← kindName b) ++ "'")
  match integer? a, integer? b with
  | some x, some y =>
    match operator, a, b with
    | .and, .truth p, .truth q => return .truth (p && q)
    | .or, .truth p, .truth q => return .truth (p || q)
    | .exclusiveOr, .truth p, .truth q => return .truth (p != q)
    | operator, _, _ => integers operator x y
  | _, _ =>
    match number? a, number? b with
    | some x, some y =>
      match ← fractions operator x y with
      | some value => return value
      | none => refuse
    | _, _ =>
      match operator, a, b with
      | .add, .text x, .text y => return .text (x ++ y)
      | .add, .octets x, .octets y => return .octets (x ++ y)
      | .add, .tuple x, .tuple y => return .tuple (x ++ y)
      | .add, .text _, _ =>
        fail "TypeError" ("can only concatenate str (not \"" ++ (← kindName b) ++ "\") to str")
      | .multiply, .text x, .whole n | .multiply, .whole n, .text x =>
        return .text (String.ofList (← times x.toList n))
      | .multiply, .octets x, .whole n => return .octets (String.ofList (← times x.toList n))
      | .multiply, .tuple x, .whole n => return .tuple (← times x n)
      | .remainder, .text format, value =>
        let lookup? (key : String) : Run (Option Value) := do
          match ← thing? value with
          | some (.dict entries) => entry? engine entries (.text key)
          | _ => fail "TypeError" "format requires a mapping"
        let isMapping ← do
          match ← thing? value with
          | some (.dict _) => pure true
          | _ => pure false
        let values := match value with
          | .tuple items => items
          | value => [value]
        let (text, left) ← interpolateUpTo engine lookup? (format.length + 1) values format.toList
        if !left.isEmpty && !isMapping then
          fail "TypeError" "not all arguments converted during string formatting"
        return .text text
      | operator, a, b =>
        match ← thing? a, ← thing? b with
        | some (.record kind fields), _ =>
          match kind, operator, fields.find? fun item => item.1 = "path" with
          | .native "pathlib.Path", .divide, some (_, .text path) =>
            match b, ← field? b "path" with
            | .text name, _ | _, some (.text name) => makePath (joinPaths path name)
            | _, _ => refuse
          | _, operator, _ =>
            match ← special? a (methodOf operator) with
            | some function => engine.call function ⟨[a, b], []⟩
            | none => refuse
        | some (.list x), some (.list y) =>
          if operator = .add then make (.list (x ++ y)) else refuse
        | some (.list x), none =>
          match operator, b with
          | .multiply, .whole n => makeList (← times x.toList n)
          | _, _ => refuse
        | some (.dict x), some (.dict y) =>
          if operator = .or then makeDict engine (x ++ y) else refuse
        | some (.set x), some (.set y) =>
          match operator with
          | .or => make (.set (← distinct engine (x ++ y)))
          | .and => make (.set (← x.filterM fun item => y.anyM (equal engine item)))
          | .subtract =>
            make (.set (← x.filterM fun item => return !(← y.anyM (equal engine item))))
          | .exclusiveOr =>
            let left ← x.filterM fun item => return !(← y.anyM (equal engine item))
            let right ← y.filterM fun item => return !(← x.anyM (equal engine item))
            make (.set (left ++ right))
          | _ => refuse
        | _, _ => refuse

def unary (operator : UnaryOperator) (value : Value) : Run Value := do
  let refuse (sign : String) : Run Value := do
    fail "TypeError" ("bad operand type for unary " ++ sign ++ ": '" ++ (← kindName value) ++ "'")
  match operator, integer? value, value with
  | .minus, some n, _ => return .whole (-n)
  | .plus, some n, _ => return .whole n
  | .invert, some n, _ => return .whole (-n - 1)
  | .minus, none, .fraction x => return .fraction x.neg
  | .plus, none, .fraction x => return .fraction x
  | .minus, _, _ => refuse "-"
  | .plus, _, _ => refuse "+"
  | .invert, _, _ => refuse "~"

def comparison (operator : CompareOperator) (a b : Value) : Run Bool := do
  match operator with
  | .equal => equal engine a b
  | .notEqual => return !(← equal engine a b)
  | .less => return (← order engine "<" a b) = .lt
  | .upTo => return (← order engine "<=" a b) ≠ .gt
  | .greater => return (← order engine ">" a b) = .gt
  | .atLeast => return (← order engine ">=" a b) ≠ .lt
  | .same => return same a b
  | .notSame => return !same a b
  | .isIn => contains engine b a
  | .notIn => return !(← contains engine b a)

end Run

end SignalCatalog.Indented
