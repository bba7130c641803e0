import SignalCatalog.Scripting.Indented.Operators
import SignalCatalog.Scripting.Utilities.Files
import SignalCatalog.Text.Ascii

/-!
# Functions that belong to values

A function is found by the value it belongs to and its name.
-/

namespace SignalCatalog.Indented

namespace Run

variable (engine : Engine)

/-! ## Arguments -/

def asText (value : Value) : Run String := do
  match value with
  | .text text => return text
  | value => fail "TypeError" ("expected str, got " ++ (← kindName value))

def asInteger (value : Value) : Run Int := do
  match integer? value with
  | some n => return n
  | none => fail "TypeError" ("'" ++ (← kindName value) ++ "' object cannot be interpreted as an integer")

def missing {α : Type} (name : String) (index : Nat) : Run α :=
  fail "TypeError" (name ++ "() missing required argument (pos " ++ Text.number (index + 1) ++ ")")

/-- An argument that has to be there. -/
def need (name : String) (arguments : Arguments) (index : Nat) (word : String) : Run Value := do
  match arguments.get? index word with
  | some value => return value
  | none => missing name index

/-- Whether an argument holds. -/
def flag (arguments : Arguments) (index : Nat) (word : String) (byDefault : Bool) : Run Bool := do
  match arguments.get? index word with
  | some value => truth engine value
  | none => return byDefault

/-- The path that a value is. -/
def asPath (value : Value) : Run String := do
  match value with
  | .text text => return text
  | .octets octets => return Text.Octets.shown octets
  | value =>
    match ← field? value "path" with
    | some (.text path) => return path
    | _ => fail "TypeError" ("expected str, bytes or os.PathLike object, not " ++ (← kindName value))

/-! ## Texts -/

def isSpace (c : Char) : Bool := Text.isBlank c || (28 ≤ c.toNat && c.toNat ≤ 31)

/-- The places at which a part stands in a text. -/
def placesOf (part text : List Char) : List Nat :=
  (List.range (text.length + 1 - part.length)).filter fun k =>
    (Text.after? part (text.drop k)).isSome

/-- The pieces of a text between separators, up to a number of cuts; `fuel` bounds the length. -/
def splitAt (separator : List Char) :
    (fuel : Nat) → (cuts : Option Nat) → List Char → List Char → List (List Char)
  | 0, _, current, rest => [current.reverse ++ rest]
  | _ + 1, _, current, [] => [current.reverse]
  | fuel + 1, cuts, current, c :: rest =>
    if cuts = some 0 then [current.reverse ++ c :: rest]
    else match Text.after? separator (c :: rest) with
      | some behind => current.reverse :: splitAt separator fuel (cuts.map (· - 1)) [] behind
      | none => splitAt separator fuel cuts (c :: current) rest

/-- The words of a text, up to a number of cuts; `fuel` bounds the length. -/
def splitWords : (fuel : Nat) → (cuts : Option Nat) → List Char → List (List Char)
  | 0, _, _ => []
  | fuel + 1, cuts, text =>
    let text := text.dropWhile isSpace
    if text.isEmpty then []
    else if cuts = some 0 then [(text.reverse.dropWhile isSpace).reverse]
    else
      let word := text.takeWhile fun c => !isSpace c
      word :: splitWords fuel (cuts.map (· - 1)) (text.drop word.length)

def pieces (separator : Option String) (cuts : Option Nat) (text : String) : Run (List String) := do
  match separator with
  | some "" => fail "ValueError" "empty separator"
  | some separator =>
    return (splitAt separator.toList (text.length + 1) cuts [] text.toList).map String.ofList
  | none => return (splitWords (text.length + 1) cuts text.toList).map String.ofList

/-- As `pieces`, with the cuts counted from the end. -/
def piecesFromEnd (separator : Option String) (cuts : Option Nat) (text : String) :
    Run (List String) := do
  let turn (text : String) : String := String.ofList text.toList.reverse
  return ((← pieces (separator.map turn) cuts (turn text)).map turn).reverse

def cutsOf (arguments : Arguments) : Run (Option Nat) := do
  match arguments.get? 1 "maxsplit" with
  | some value =>
    let n ← asInteger value
    return if n < 0 then none else some n.toNat
  | none => return none

def separatorOf (arguments : Arguments) : Run (Option String) := do
  match arguments.get? 0 "sep" with
  | some .nothing | none => return none
  | some value => return some (← asText value)

def replaceAll (old new : List Char) : (fuel : Nat) → (count : Option Nat) → List Char → List Char
  | 0, _, text => text
  | _ + 1, _, [] => []
  | fuel + 1, count, c :: rest =>
    if count = some 0 then c :: rest
    else match Text.after? old (c :: rest) with
      | some behind => new ++ replaceAll old new fuel (count.map (· - 1)) behind
      | none => c :: replaceAll old new fuel count rest

def titleCase : (inWord : Bool) → List Char → List Char
  | _, [] => []
  | inWord, c :: rest =>
    (if inWord then c.toLower else c.toUpper) :: titleCase c.isAlpha rest

/-- The lines of a text without their breaks, or with them. -/
def splitLines (keeps : Bool) (text : String) : List String :=
  let rec go : List Char → List Char → List String
    | [], [] => []
    | current, [] => [String.ofList current.reverse]
    | current, '\r' :: '\n' :: rest =>
      String.ofList (current.reverse ++ if keeps then ['\r', '\n'] else []) :: go [] rest
    | current, c :: rest =>
      if c = '\n' || c = '\r' || c = '\x0c' then
        String.ofList (current.reverse ++ if keeps then [c] else []) :: go [] rest
      else go (c :: current) rest
  go [] text.toList

/-- Whether a text has some characters that pass a test, and no others. -/
def allOf (test : Char → Bool) (text : String) : Bool := text ≠ "" && text.toList.all test

/-- The characters up to a closing brace; `depth` counts the braces that are open. -/
def upToBrace : (depth : Nat) → List Char → List Char
  | _, [] => []
  | depth, c :: rest =>
    if c = '\x7d' && depth = 0 then []
    else
      c :: upToBrace (if c = '\x7b' then depth + 1 else if c = '\x7d' then depth - 1 else depth) rest

/-- Writes arguments into the braces of a text; `fuel` bounds its length. -/
def fillBraces (arguments : Arguments) : (fuel next : Nat) → List Char → Run (String × Nat)
  | 0, next, _ | _, next, [] => return ("", next)
  | fuel + 1, next, '\x7b' :: '\x7b' :: rest => do
    let (more, next) ← fillBraces arguments fuel next rest
    return ("\x7b" ++ more, next)
  | fuel + 1, next, '\x7d' :: '\x7d' :: rest => do
    let (more, next) ← fillBraces arguments fuel next rest
    return ("\x7d" ++ more, next)
  | fuel + 1, next, '\x7b' :: rest => do
    let inside := rest.takeWhile fun c => c ≠ '\x7d' && c ≠ ':' && c ≠ '!'
    let rest := rest.drop inside.length
    let (conversion, rest) := match rest with
      | '!' :: c :: more => (some c, more)
      | rest => (none, rest)
    let (format, rest) := match rest with
      | ':' :: more =>
        let found := upToBrace 0 more
        (found, more.drop found.length)
      | rest => ([], rest)
    match rest with
    | '\x7d' :: rest =>
      let word := inside.takeWhile fun c => c ≠ '[' && c ≠ '.'
      let index := Text.natural? word
      let (value, next) ← match word, index with
        | [], _ =>
          match arguments.plain[next]? with
          | some value => pure (value, next + 1)
          | none => fail "IndexError" ("Replacement index " ++ Text.number next ++
              " out of range for positional args tuple")
        | _, some n =>
          match arguments.plain[n]? with
          | some value => pure (value, next)
          | none => fail "IndexError" ("Replacement index " ++ Text.number n ++
              " out of range for positional args tuple")
        | word, none =>
          match arguments.named.find? fun item => item.1 = String.ofList word with
          | some (_, value) => pure (value, next)
          | none => failWith "KeyError" [.text (String.ofList word)]
      let value ← match inside.drop word.length with
        | '[' :: more =>
          let key := more.takeWhile (· ≠ ']')
          match Text.natural? key with
          | some n => itemOf engine value (.whole n)
          | none => itemOf engine value (.text (String.ofList key))
        | _ => pure value
      let value ← match conversion with
        | some 'r' => do pure (Value.text (← shown engine value))
        | some 's' => do pure (Value.text (← textOf engine value))
        | _ => pure value
      let (spec, next) ← fillBraces arguments fuel next format
      let text ← formatted engine value spec
      let (more, next) ← fillBraces arguments fuel next rest
      return (text ++ more, next)
    | _ => fail "ValueError" "expected '\x7d' before end of string"
  | fuel + 1, next, c :: rest => do
    if c = '\x7d' then fail "ValueError" "Single '\x7d' encountered in format string"
    let (more, next) ← fillBraces arguments fuel next rest
    return (c.toString ++ more, next)

/-- Texts that one argument may stand for: one, or several in a tuple. -/
def someTexts (value : Value) : Run (List String) := do
  match value with
  | .tuple items => items.mapM asText
  | value => return [← asText value]

/-- A text that is filled up to a width. -/
def filled (align : Char) (text : String) (arguments : Arguments) : Run Value := do
  let width ← asInteger (← need "ljust" arguments 0 "width")
  let fill ← match arguments.get? 1 "fillchar" with
    | some value => asText value
    | none => pure " "
  let format : Format :=
    ⟨fill.toList.headD ' ', some align, '-', false, width.toNat, none, none, none⟩
  -- A centered text leans to the left only if its width is even.
  let missing := width.toNat - text.length
  if align = '^' then
    let left := missing / 2 + (if missing % 2 = 1 && width.toNat % 2 = 1 then 1 else 0)
    let blank (n : Nat) : String := String.ofList (List.replicate n format.fill)
    return .text (blank left ++ text ++ blank (missing - left))
  return .text (format.padded align "" text)

/-- A function of a text. -/
def textMethod? (text : String) (name : String) : Option (Arguments → Run Value) :=
  let chars := text.toList
  let test (holds : Bool) : Option (Arguments → Run Value) := some fun _ => return .truth holds
  let changed (found : List Char) : Option (Arguments → Run Value) :=
    some fun _ => return .text (String.ofList found)
  let stripped (atStart atEnd : Bool) : Option (Arguments → Run Value) := some fun arguments => do
    let drops ← match arguments.get? 0 "chars" with
      | some .nothing | none => pure isSpace
      | some value => do
        let set := (← asText value).toList
        pure fun c => set.contains c
    let found := if atStart then chars.dropWhile drops else chars
    return .text (String.ofList (if atEnd then (found.reverse.dropWhile drops).reverse else found))
  let found (last strict : Bool) : Option (Arguments → Run Value) := some fun arguments => do
    let part ← asText (← need name arguments 0 "sub")
    let start ← match arguments.get? 1 "start" with
      | some value => asInteger value
      | none => pure 0
    let places := (placesOf part.toList chars).filter fun (k : Nat) => start ≤ (k : Int)
    match if last then places.getLast? else places.head? with
    | some k => return .whole k
    | none => if strict then fail "ValueError" "substring not found" else return .whole (-1)
  let ends (check : String → Bool) : Arguments → Run Value := fun arguments => do
    return .truth ((← someTexts (← need name arguments 0 "prefix")).any check)
  match name with
  | "join" => some fun arguments => do
    let found ← items engine (← need name arguments 0 "iterable")
    let mut parts := #[]
    for value in found do
      match value with
      | .text part => parts := parts.push part
      | value => fail "TypeError" ("sequence item " ++ Text.number parts.size ++
          ": expected str instance, " ++ (← kindName value) ++ " found")
    return .text (text.intercalate parts.toList)
  | "split" => some fun arguments => do
    makeList ((← pieces (← separatorOf arguments) (← cutsOf arguments) text).map .text)
  | "rsplit" => some fun arguments => do
    makeList ((← piecesFromEnd (← separatorOf arguments) (← cutsOf arguments) text).map .text)
  | "splitlines" => some fun arguments => do
    let keeps ← flag engine arguments 0 "keepends" false
    makeList ((splitLines keeps text).map .text)
  | "strip" => stripped true true
  | "lstrip" => stripped true false
  | "rstrip" => stripped false true
  | "upper" => changed (Text.upper chars)
  | "lower" | "casefold" => changed (Text.lower chars)
  | "title" => changed (titleCase false chars)
  | "capitalize" => changed (match chars with
    | c :: rest => c.toUpper :: Text.lower rest
    | [] => [])
  | "swapcase" => changed (chars.map fun c => if c.isUpper then c.toLower else c.toUpper)
  | "startswith" => some (ends fun part => text.startsWith part)
  | "endswith" => some (ends fun part => text.endsWith part)
  | "replace" => some fun arguments => do
    let old ← asText (← need name arguments 0 "old")
    let new ← asText (← need name arguments 1 "new")
    let count ← match arguments.get? 2 "count" with
      | some value => do
        let n ← asInteger value
        pure (if n < 0 then none else some n.toNat)
      | none => pure none
    if old = "" then
      return .text (String.ofList (new.toList ++ chars.flatMap fun c => c :: new.toList))
    return .text (String.ofList (replaceAll old.toList new.toList (text.length + 1) count chars))
  | "find" => found false false
  | "rfind" => found true false
  | "index" => found false true
  | "rindex" => found true true
  | "count" => some fun arguments => do
    let part ← asText (← need name arguments 0 "sub")
    if part = "" then return .whole (text.length + 1)
    return .whole ((splitAt part.toList (text.length + 1) none [] chars).length - 1)
  | "format" => some fun arguments => do
    return .text (← fillBraces engine arguments (text.length + 1) 0 chars).1
  | "encode" => some fun _ => return .octets (Text.Octets.ofText text)
  | "isdigit" | "isdecimal" | "isnumeric" => test (allOf Char.isDigit text)
  | "isalpha" => test (allOf (fun c => c.isAlpha || c.toNat ≥ 192) text)
  | "isalnum" => test (allOf (fun c => c.isAlphanum || c.toNat ≥ 192) text)
  | "isspace" => test (allOf isSpace text)
  | "isupper" => test (chars.any Char.isUpper && !chars.any Char.isLower)
  | "islower" => test (chars.any Char.isLower && !chars.any Char.isUpper)
  | "isidentifier" => test (Text.isIdentifier text)
  | "isascii" => test (chars.all fun c => c.toNat < 128)
  | "zfill" => some fun arguments => do
    let width := (← asInteger (← need name arguments 0 "width")).toNat
    let zeros := List.replicate (width - text.length) '0'
    return .text (String.ofList (match chars with
      | c :: rest => if c = '-' || c = '+' then c :: zeros ++ rest else zeros ++ chars
      | [] => zeros))
  | "ljust" => some (filled '<' text)
  | "rjust" => some (filled '>' text)
  | "center" => some (filled '^' text)
  | "partition" => some fun arguments => do
    let part ← asText (← need name arguments 0 "sep")
    match (placesOf part.toList chars).head? with
    | some k => return .tuple [.text (String.ofList (chars.take k)), .text part,
        .text (String.ofList (chars.drop (k + part.length)))]
    | none => return .tuple [.text text, .text "", .text ""]
  | "rpartition" => some fun arguments => do
    let part ← asText (← need name arguments 0 "sep")
    match (placesOf part.toList chars).getLast? with
    | some k => return .tuple [.text (String.ofList (chars.take k)), .text part,
        .text (String.ofList (chars.drop (k + part.length)))]
    | none => return .tuple [.text "", .text "", .text text]
  | "expandtabs" => some fun _ => return .text (String.ofList (replaceAll ['\t'] (List.replicate 8 ' ')
      (text.length + 1) none chars))
  | "removeprefix" => some fun arguments => do
    let part ← asText (← need name arguments 0 "prefix")
    return .text (String.ofList ((Text.after? part.toList chars).getD chars))
  | "removesuffix" => some fun arguments => do
    let part ← asText (← need name arguments 0 "suffix")
    return .text (String.ofList ((Text.before? part.toList chars).getD chars))
  | _ => none

/-- A function of bytes. -/
def octetsMethod? (octets : String) (name : String) : Option (Arguments → Run Value) :=
  match name with
  | "decode" => some fun arguments => do
    match arguments.get? 1 "errors" with
    | some (.text "replace") => return .text (Text.Octets.shown octets)
    | some (.text "ignore") =>
      return .text (String.ofList ((Text.Octets.shown octets).toList.filter fun c =>
        c ≠ Text.Octets.replacement))
    | _ =>
      match arguments.get? 0 "encoding" with
      | some (.text "latin-1") | some (.text "latin1") | some (.text "iso-8859-1") =>
        return .text octets
      | _ => return .text (← decoded octets)
  | "hex" => some fun _ => return .text (String.join (octets.toList.map fun c => digitsWide 2 c.toNat))
  | "join" => some fun arguments => do
    let found ← items engine (← need name arguments 0 "iterable")
    return .octets (octets.intercalate (found.filterMap fun value => match value with
      | .octets part => some part
      | _ => none))
  | "startswith" | "endswith" => some fun arguments => do
    match ← need name arguments 0 "prefix" with
    | .octets part =>
      return .truth (if name = "startswith" then octets.startsWith part else octets.endsWith part)
    | _ => return .truth false
  | "strip" | "rstrip" | "lstrip" => some fun _ => do
    let kept := if name = "rstrip" then octets.toList else octets.toList.dropWhile isSpace
    return .octets (String.ofList (if name = "lstrip" then kept
      else (kept.reverse.dropWhile isSpace).reverse))
  | "upper" => some fun _ => return .octets (String.ofList (Text.upper octets.toList))
  | "lower" => some fun _ => return .octets (String.ofList (Text.lower octets.toList))
  | "split" => some fun arguments => do
    let separator ← match arguments.get? 0 "sep" with
      | some (.octets part) => pure (some part)
      | _ => pure none
    makeList ((← pieces separator (← cutsOf arguments) octets).map .octets)
  | _ => none

/-! ## Lists, sets and dictionaries -/

/-- Puts a value where it belongs among values that are in order. -/
def insertSorted (reversed : Bool) (key value : Value) :
    List (Value × Value) → Run (List (Value × Value))
  | [] => return [(key, value)]
  | (other, there) :: rest => do
    let found ← if reversed then order engine "<" other key else order engine "<" key other
    if found = .lt then return (key, value) :: (other, there) :: rest
    else return (other, there) :: (← insertSorted reversed key value rest)

/-- Values in order, by what a function makes of them. -/
def sorted (values : List Value) (arguments : Arguments) (index : Nat) : Run (List Value) := do
  let reversed ← flag engine arguments (index + 1) "reverse" false
  let mut found := []
  for value in values do
    let key ← match arguments.get? index "key" with
      | some .nothing | none => pure value
      | some function => engine.call function ⟨[value], []⟩
    found ← insertSorted engine reversed key value found
  return found.map Prod.snd

/-- The index of the first value that is equal to another one. -/
def indexOf? (values : List Value) (wanted : Value) : Run (Option Nat) := do
  for (value, index) in values.zip (List.range values.length) do
    if ← equal engine value wanted then return some index
  return none

def nothing : Run Value := return .nothing

def listMethod? (address : Nat) (found : Array Value) (name : String) :
    Option (Arguments → Run Value) :=
  match name with
  | "append" => some fun arguments => do
    put address (.list (found.push (← need name arguments 0 "object")))
    nothing
  | "extend" => some fun arguments => do
    let more ← items engine (← need name arguments 0 "iterable")
    put address (.list (found ++ more.toArray))
    nothing
  | "insert" => some fun arguments => do
    let index ← asInteger (← need name arguments 0 "index")
    let size : Int := found.size
    let place := (max 0 (min size (if index < 0 then index + size else index))).toNat
    let value ← need name arguments 1 "object"
    put address (.list (found.toList.take place ++ value :: found.toList.drop place).toArray)
    nothing
  | "pop" => some fun arguments => do
    if found.isEmpty then fail "IndexError" "pop from empty list"
    let index ← match arguments.get? 0 "index" with
      | some value => asInteger value
      | none => pure (-1)
    match place? found.size index with
    | some k =>
      put address (.list (found.toList.eraseIdx k).toArray)
      return found.getD k .nothing
    | none => fail "IndexError" "pop index out of range"
  | "remove" => some fun arguments => do
    match ← indexOf? engine found.toList (← need name arguments 0 "value") with
    | some k =>
      put address (.list (found.toList.eraseIdx k).toArray)
      nothing
    | none => fail "ValueError" "list.remove(x): x not in list"
  | "index" => some fun arguments => do
    let value ← need name arguments 0 "value"
    match ← indexOf? engine found.toList value with
    | some k => return .whole k
    | none => fail "ValueError" ((← shown engine value) ++ " is not in list")
  | "count" => some fun arguments => do
    let value ← need name arguments 0 "value"
    return .whole (← found.toList.filterM (equal engine value)).length
  | "sort" => some fun arguments => do
    put address (.list (← sorted engine found.toList arguments 0).toArray)
    nothing
  | "reverse" => some fun _ => do
    put address (.list found.reverse)
    nothing
  | "copy" => some fun _ => make (.list found)
  | "clear" => some fun _ => do
    put address (.list #[])
    nothing
  | _ => none

def dictMethod? (address : Nat) (entries : List (Value × Value)) (name : String) :
    Option (Arguments → Run Value) :=
  match name with
  | "get" => some fun arguments => do
    return ((← entry? engine entries (← need name arguments 0 "key")).or
      (arguments.get? 1 "default")).getD .nothing
  | "keys" => some fun _ => makeList (entries.map Prod.fst)
  | "values" => some fun _ => makeList (entries.map Prod.snd)
  | "items" => some fun _ => makeList (entries.map fun (key, value) => .tuple [key, value])
  | "pop" => some fun arguments => do
    let key ← need name arguments 0 "key"
    match ← entry? engine entries key, arguments.get? 1 "default" with
    | some value, _ =>
      put address (.dict (← withoutEntry engine entries key))
      return value
    | none, some value => return value
    | none, none => failWith "KeyError" [key]
  | "popitem" => some fun _ => do
    match entries.getLast? with
    | some (key, value) =>
      put address (.dict entries.dropLast)
      return .tuple [key, value]
    | none => fail "KeyError" "popitem(): dictionary is empty"
  | "setdefault" => some fun arguments => do
    let key ← need name arguments 0 "key"
    match ← entry? engine entries key with
    | some value => return value
    | none =>
      let value := (arguments.get? 1 "default").getD .nothing
      put address (.dict (entries ++ [(key, value)]))
      return value
  | "update" => some fun arguments => do
    let mut found := entries
    match arguments.plain.head? with
    | none => pure ()
    | some other =>
      match ← thing? other with
      | some (.dict more) =>
        for (key, value) in more do
          found ← withEntry engine found key value
      | _ =>
        for pair in ← items engine other do
          match ← items engine pair with
          | [key, value] => found ← withEntry engine found key value
          | _ => fail "ValueError" "dictionary update sequence element has wrong length"
    for (key, value) in arguments.named do
      found ← withEntry engine found (.text key) value
    put address (.dict found)
    nothing
  | "copy" => some fun _ => make (.dict entries)
  | "clear" => some fun _ => do
    put address (.dict [])
    nothing
  | _ => none

def setMethod? (address : Nat) (found : List Value) (name : String) :
    Option (Arguments → Run Value) :=
  match name with
  | "add" => some fun arguments => do
    put address (.set (← distinct engine (found ++ [← need name arguments 0 "elem"])))
    nothing
  | "discard" | "remove" => some fun arguments => do
    let value ← need name arguments 0 "elem"
    let kept ← found.filterM fun item => return !(← equal engine item value)
    if name = "remove" && kept.length = found.length then failWith "KeyError" [value]
    put address (.set kept)
    nothing
  | "update" => some fun arguments => do
    let mut all := found
    for other in arguments.plain do
      all := all ++ (← items engine other)
    put address (.set (← distinct engine all))
    nothing
  | "union" => some fun arguments => do
    let mut all := found
    for other in arguments.plain do
      all := all ++ (← items engine other)
    make (.set (← distinct engine all))
  | "intersection" => some fun arguments => do
    let others ← items engine (← need name arguments 0 "other")
    make (.set (← found.filterM fun item => others.anyM (equal engine item)))
  | "difference" => some fun arguments => do
    let others ← items engine (← need name arguments 0 "other")
    make (.set (← found.filterM fun item => return !(← others.anyM (equal engine item))))
  | "issubset" => some fun arguments => do
    let others ← items engine (← need name arguments 0 "other")
    return .truth (← found.allM fun item => others.anyM (equal engine item))
  | "issuperset" => some fun arguments => do
    let others ← items engine (← need name arguments 0 "other")
    return .truth (← others.allM fun item => found.anyM (equal engine item))
  | "copy" => some fun _ => make (.set found)
  | "clear" => some fun _ => do
    put address (.set [])
    nothing
  | _ => none

/-! ## Files -/

/-- Opens a file. -/
def openPath (path mode : String) : Run Value := do
  let world := (← get).world
  let text := path
  let finish (file : Shell.OpenFile) (world : Shell.State) : Run Value := do
    modify fun machine => { machine with world := { world with files := world.files ++ [file] } }
    make (.file ⟨world.files.length, path, mode, false⟩)
  if mode.contains 'w' || mode.contains 'a' || mode.contains 'x' then
    if mode.contains 'x' && (world.disk.find text).isOk then failOs .alreadyThere path
    let kind := if mode.contains 'a' then Shell.OpenMode.append else .overwrite
    match world.openToWrite kind (Text.Octets.ofText text) with
    | .ok (file, world) => finish file world
    | .error cause => failOs cause path
  else
    match world.disk.find text with
    | .error cause => failOs cause path
    | .ok (_, .folder) => failOs .isDirectory path
    | .ok (place, .file _) => finish ⟨.file place, 0, false, true, mode.contains '+'⟩ world

/-- Writes a value to a file. -/
def writeValue (file : OpenText) (value : Value) : Run Value := do
  if file.closed then fail "ValueError" "I/O operation on closed file."
  let octets ← match value, file.isBinary with
    | .text text, false => pure (Text.Octets.ofText text)
    | .octets octets, true => pure octets
    | value, false => fail "TypeError" ("write() argument must be str, not " ++ (← kindName value))
    | value, true => fail "TypeError" ("a bytes-like object is required, not '" ++ (← kindName value) ++
        "'")
  if !(file.mode.contains 'w' || file.mode.contains 'a' || file.mode.contains 'x' ||
      file.mode.contains '+') then fail "io.UnsupportedOperation" "not writable"
  inWorld (modify fun state => state.writeTo file.index octets)
  match value with
  | .text text => return .whole text.length
  | _ => return .whole octets.length

def fileMethod? (address : Nat) (file : OpenText) (name : String) :
    Option (Arguments → Run Value) :=
  match name with
  | "write" => some fun arguments => do writeValue file (← need name arguments 0 "text")
  | "writelines" => some fun arguments => do
    for value in ← items engine (← need name arguments 0 "lines") do
      let _ ← writeValue file value
    nothing
  | "read" => some fun arguments => do
    match arguments.get? 0 "size" with
    | some (.whole n) =>
      if n < 0 then readRest file
      else
        let octets ← inWorld do
          let state ← get
          let text := String.ofList ((state.unread file.index).toList.take n.toNat)
          set (state.advance file.index text.length)
          return text
        if file.isBinary then return .octets octets else return .text (Text.Octets.shown octets)
    | _ => readRest file
  | "readlines" => some fun _ => do makeList (← readLines file)
  | "readline" => some fun _ => do
    let octets ← inWorld do
      let state ← get
      let text := (linesWithBreaks (state.unread file.index)).headD ""
      set (state.advance file.index text.length)
      return text
    if file.isBinary then return .octets octets else return .text (← decoded octets)
  | "close" => some fun _ => do
    put address (.file { file with closed := true })
    nothing
  | "flush" => some fun _ => nothing
  | "seek" => some fun arguments => do
    let n ← asInteger (← need name arguments 0 "offset")
    inWorld (modify fun state =>
      match state.files[file.index]? with
      | some open_ => state.setFile file.index { open_ with offset := n.toNat }
      | none => state)
    return .whole n
  | "fileno" => some fun _ => return .whole file.index
  | "isatty" => some fun _ => return .truth false
  | "readable" => some fun _ => return .truth (file.mode.contains 'r')
  | "writable" => some fun _ => return .truth (file.mode.contains 'w' || file.mode.contains 'a')
  | "reconfigure" => some fun _ => nothing
  | "__enter__" => some fun _ => return .object address
  | "__exit__" => some fun _ => do
    put address (.file { file with closed := true })
    nothing
  | _ => none

/-! ## Paths and folders -/

def diskNow : Run Disk := return (← get).world.disk

def setDisk (disk : Disk) : Run Unit :=
  modify fun machine => { machine with world := { machine.world with disk } }

def makeFolder (path : String) : Run Unit := do
  let (result, disk) := (← diskNow).makeFolder path
  setDisk disk
  match result with
  | .ok () => return
  | .error cause => failOs cause path

def makeFolders (path : String) (mayBeThere : Bool) : Run Unit := do
  let disk ← diskNow
  match disk.find path with
  | .ok (_, entry) => if !(mayBeThere && entry.isFolder) then failOs .alreadyThere path
  | .error _ =>
    let (result, disk) := disk.makeFolders path
    setDisk disk
    match result with
    | .ok () => return
    | .error cause => failOs cause path

def removeFile (path : String) : Run Unit := do
  let disk ← diskNow
  match disk.find path with
  | .ok (place, .file _) => setDisk (disk.take place)
  | .ok (_, .folder) => failOs .isDirectory path
  | .error cause => failOs cause path

def removeFolder (path : String) : Run Unit := do
  let disk ← diskNow
  match disk.find path with
  | .ok (place, .folder) =>
    if (disk.namesIn place).isEmpty then setDisk (disk.take place)
    else
      raise (← make (.record (.native "OSError")
        [("args", .tuple [.whole 39, .text "Directory not empty"]), ("errno", .whole 39),
          ("strerror", .text "Directory not empty"), ("filename", .text path)]))
  | .ok (_, .file _) => failOs .notDirectory path
  | .error cause => failOs cause path

def movePath (source goal : String) : Run Unit := do
  let disk ← diskNow
  match disk.find source, Utilities.Files.goalPlace disk (Text.Octets.ofText goal) with
  | .ok (place, _), .ok newPlace => setDisk (Utilities.Files.moveTree disk place newPlace)
  | .error cause, _ | _, .error cause => failOs cause source

def namesAt (path : String) : Run (List String) := do
  let disk ← diskNow
  match disk.find path with
  | .ok (place, .folder) => return disk.namesIn place
  | .ok (_, .file _) => failOs .notDirectory path
  | .error cause => failOs cause path

def readAll (path : String) (binary : Bool) : Run Value := do
  let file ← openPath path (if binary then "rb" else "r")
  match ← thing? file with
  | some (.file found) => readRest found
  | _ => nothing

def writeAll (path : String) (binary : Bool) (value : Value) : Run Value := do
  let file ← openPath path (if binary then "wb" else "w")
  match ← thing? file with
  | some (.file found) => writeValue found value
  | _ => nothing

/-- The last name of a path, its parent, and the last name taken apart at its last point. -/
def lastOf (path : String) : String :=
  String.ofList (path.toList.reverse.takeWhile (· ≠ '/')).reverse

def parentOf (path : String) : String :=
  let lead := (path.toList.reverse.dropWhile (· ≠ '/')).reverse
  let kept := (lead.reverse.dropWhile (· = '/')).reverse
  if lead.isEmpty then "" else if kept.isEmpty then "/" else String.ofList kept

def stemAndEnding (name : String) : String × String :=
  let points := name.toList.takeWhile (· = '.')
  let rest := name.toList.drop points.length
  if rest.contains '.' then
    let ending := '.' :: (rest.reverse.takeWhile (· ≠ '.')).reverse
    (String.ofList (name.toList.take (name.length - ending.length)), String.ofList ending)
  else (name, "")

/-- A path from the root. -/
def absolute (path : String) : Run String := do
  let disk ← diskNow
  let here := "/" ++ "/".intercalate disk.here
  let names := (Path.segments (joinPaths here path)).filter fun name => name ≠ "" && name ≠ "."
  let kept := names.foldl (fun found name => if name = ".." then found.drop 1 else name :: found) []
  return "/" ++ "/".intercalate kept.reverse

def pathMethod? (path : String) (name : String) : Option (Arguments → Run Value) :=
  let isThere (test : Entry → Bool) : Option (Arguments → Run Value) := some fun _ => do
    match (← diskNow).find path with
    | .ok (_, entry) => return .truth (test entry)
    | .error _ => return .truth false
  match name with
  | "exists" => isThere fun _ => true
  | "is_file" => isThere fun entry => !entry.isFolder
  | "is_dir" => isThere fun entry => entry.isFolder
  | "read_text" => some fun _ => readAll path false
  | "read_bytes" => some fun _ => readAll path true
  | "write_text" => some fun arguments => do writeAll path false (← need name arguments 0 "data")
  | "write_bytes" => some fun arguments => do writeAll path true (← need name arguments 0 "data")
  | "open" => some fun arguments => do
    let mode ← match arguments.get? 0 "mode" with
      | some value => asText value
      | none => pure "r"
    openPath path mode
  | "mkdir" => some fun arguments => do
    let mayBeThere ← flag engine arguments 2 "exist_ok" false
    if ← flag engine arguments 1 "parents" false then makeFolders path mayBeThere
    else if !(mayBeThere && (← diskNow).isFolder path) then makeFolder path
    nothing
  | "touch" => some fun _ => do
    if !((← diskNow).find path).isOk then
      let _ ← writeAll path false (.text "")
    nothing
  | "unlink" => some fun arguments => do
    let mayMiss ← flag engine arguments 0 "missing_ok" false
    if !(mayMiss && !((← diskNow).find path).isOk) then removeFile path
    nothing
  | "rmdir" => some fun _ => do
    removeFolder path
    nothing
  | "rename" | "replace" => some fun arguments => do
    let goal ← asPath (← need name arguments 0 "target")
    movePath path goal
    makePath goal
  | "iterdir" => some fun _ => do
    makeList (← (← namesAt path).mapM fun name => makePath (joinPaths path name))
  | "glob" | "rglob" => some fun arguments => do
    let pattern := Shell.Pattern.ofText (← asText (← need name arguments 0 "pattern"))
    let names := (← namesAt path).filter fun name => pattern.isMatch name.toList
    makeList (← names.mapM fun name => makePath (joinPaths path name))
  | "joinpath" => some fun arguments => do
    let parts ← arguments.plain.mapM asPath
    makePath (parts.foldl joinPaths path)
  | "resolve" | "absolute" => some fun _ => do makePath (← absolute path)
  | "as_posix" => some fun _ => return .text path
  | "with_suffix" => some fun arguments => do
    let ending ← asText (← need name arguments 0 "suffix")
    let (stem, _) := stemAndEnding (lastOf path)
    makePath (joinPaths (parentOf path) (stem ++ ending))
  | "with_name" => some fun arguments => do
    makePath (joinPaths (parentOf path) (← asText (← need name arguments 0 "name")))
  | _ => none

/-- What a path has under a name. -/
def pathField? (path : String) (name : String) : Option (Run Value) :=
  match name with
  | "name" => some (return .text (lastOf path))
  | "stem" => some (return .text (stemAndEnding (lastOf path)).1)
  | "suffix" => some (return .text (stemAndEnding (lastOf path)).2)
  | "parent" => some (makePath (let parent := parentOf path; if parent = "" then "." else parent))
  | "parts" => some (return .tuple (((Path.segments path).filter (· ≠ "")).map .text))
  | _ => none

/-! ## All values -/

/-- A function that belongs to a value. -/
def method? (owner : Value) (name : String) : Run (Option (Arguments → Run Value)) := do
  match owner with
  | .text text => return textMethod? engine text name
  | .octets octets => return octetsMethod? engine octets name
  | .tuple items =>
    match name with
    | "index" | "count" => return listMethod? engine 0 items.toArray name
    | _ => return none
  | .whole n =>
    return match name with
      | "bit_length" => some fun _ => return .whole (if n = 0 then 0 else Nat.log2 n.natAbs + 1)
      | _ => none
  | .fraction x =>
    return match name with
      | "is_integer" => some fun _ => return .truth x.whole?.isSome
      | _ => none
  | .object address =>
    match ← thingAt address with
    | .list items => return listMethod? engine address items name
    | .dict entries => return dictMethod? engine address entries name
    | .set items => return setMethod? engine address items name
    | .file file => return fileMethod? engine address file name
    | .record (.native "pathlib.Path") fields =>
      match fields.find? fun item => item.1 = "path" with
      | some (_, .text path) => return pathMethod? engine path name
      | _ => return none
    | _ => return none
  | _ => return none

end Run

end SignalCatalog.Indented
