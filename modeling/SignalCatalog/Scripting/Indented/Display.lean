import SignalCatalog.Binary64.Shortest
import SignalCatalog.Scripting.Indented.Value
import SignalCatalog.Scripting.Shell.Format
import SignalCatalog.Text.Quoted
import SignalCatalog.Text.Unprintable

/-!
# Values as texts

Every value has a text, and one that shows what it is; they differ for texts and for exceptions. Formats
set texts and numbers in columns.
-/

namespace SignalCatalog.Indented

/-! ## Texts without a machine -/

/-- A number in a base, with a number of digits. -/
def digitsWide (width n : Nat) : String :=
  let found := Shell.Format.Directive.digitsIn 16 false n
  String.ofList (List.replicate (width - found.length) '0') ++ found

/-- A character within quotes. -/
def shownChar (quote c : Char) : String :=
  if c = '\n' then "\\n"
  else if c = '\r' then "\\r"
  else if c = '\t' then "\\t"
  else if c = '\\' then "\\\\"
  else if c = quote then "\\" ++ c.toString
  else if c.toNat < 32 || c.toNat = 127 then "\\x" ++ digitsWide 2 c.toNat
  else if c.toNat ≥ 128 && Text.isUnprintable c then
    if c.toNat < 256 then "\\x" ++ digitsWide 2 c.toNat
    else if c.toNat < 65536 then "\\u" ++ digitsWide 4 c.toNat
    else "\\U" ++ digitsWide 8 c.toNat
  else c.toString

def quoteFor (text : String) : Char := if text.contains '\'' && !text.contains '"' then '"' else '\''

/-- A text in quotes. -/
def inQuotes (text : String) : String :=
  let quote := quoteFor text
  quote.toString ++ String.join (text.toList.map (shownChar quote)) ++ quote.toString

/-- Bytes in quotes. -/
def octetsInQuotes (octets : String) : String :=
  let quote := quoteFor octets
  let shown (c : Char) : String :=
    if c.toNat ≥ 128 then "\\x" ++ digitsWide 2 c.toNat else shownChar quote c
  "b" ++ quote.toString ++ String.join (octets.toList.map shown) ++ quote.toString

/-- A number with a point or an exponent. -/
def fractionText (x : Binary64) : String :=
  match x with
  | .nan => "nan"
  | .infinite negative => if negative then "-inf" else "inf"
  | x =>
    let text := x.text ⟨some (16, -4), true, .even⟩
    match Text.cutAt? 'e' text.toList with
    | some (mantissa, [sign, digit]) => String.ofList (mantissa ++ ['e', sign, '0', digit])
    | _ => text

/-! ## Kinds -/

namespace Run

/-- The name of the kind of a value. -/
def kindName (value : Value) : Run String := do
  match value with
  | .nothing => return "NoneType"
  | .ellipsis => return "ellipsis"
  | .truth _ => return "bool"
  | .whole _ => return "int"
  | .fraction _ => return "float"
  | .text _ => return "str"
  | .octets _ => return "bytes"
  | .tuple _ => return "tuple"
  | .native name => return if name.contains '.' || name.toList.all Char.isLower then
      "builtin_function_or_method" else "type"
  | .method _ _ => return "builtin_function_or_method"
  | .object address =>
    match ← thingAt address with
    | .list _ => return "list"
    | .dict _ => return "dict"
    | .set _ => return "set"
    | .function _ => return "function"
    | .bound _ _ => return "method"
    | .kind _ _ _ => return "type"
    | .file _ => return "_io.TextIOWrapper"
    | .iterator _ => return "generator"
    | .record kind _ =>
      match kind with
      | .native name => return name
      | kind =>
        match ← thing? kind with
        | some (.kind name _ _) => return name
        | _ => return "object"

/-- A kind with those it belongs to; `fuel` bounds how many there are above each other. -/
def kindsUpTo : (fuel : Nat) → Value → Run (List Value)
  | 0, kind => return [kind]
  | fuel + 1, kind => do
    match kind with
    | .native name =>
      match exceptionKinds.find? fun item => item.1 = name with
      | some (_, parent) => return kind :: (← kindsUpTo fuel (.native parent))
      | none => return [kind]
    | kind =>
      match ← thing? kind with
      | some (.kind _ bases _) =>
        let mut found := [kind]
        for base in bases do
          found := found ++ (← kindsUpTo fuel base)
        return found
      | _ => return [kind]

def kinds (kind : Value) : Run (List Value) := kindsUpTo 20 kind

/-- Whether two values are the same kind. -/
def sameKind : Value → Value → Bool
  | .native a, .native b => kindNamed a = kindNamed b
  | .object a, .object b => a = b
  | _, _ => false

/-- The kind of a record. -/
def recordKind? (value : Value) : Run (Option Value) := do
  match ← thing? value with
  | some (.record kind _) => return some kind
  | _ => return none

/-- Whether a value is a record of a kind, or of one that belongs to it. -/
def isOf (value kind : Value) : Run Bool := do
  match ← recordKind? value with
  | some found => return (← kinds found).any (sameKind kind)
  | none => return false

def isException (value : Value) : Run Bool := isOf value (.native "BaseException")

/-- The value of a field of a record. -/
def field? (value : Value) (name : String) : Run (Option Value) := do
  match ← thing? value with
  | some (.record _ fields) => return (fields.find? fun item => item.1 = name).map Prod.snd
  | _ => return none

/-- What the kind of a record has under a name. -/
def inherited? (kind : Value) (name : String) : Run (Option Value) := do
  for found in ← kinds kind do
    match ← thing? found with
    | some (.kind _ _ fields) =>
      match fields.find? fun item => item.1 = name with
      | some (_, value) => return some value
      | none => pure ()
    | _ => pure ()
  return none

/-- What the kind of a value says about one of the things that every value can do. -/
def special? (value : Value) (name : String) : Run (Option Value) := do
  match ← recordKind? value with
  | some kind => inherited? kind name
  | none => return none

/-! ## Display -/

/-- The arguments of an exception. -/
def exceptionArguments (value : Value) : Run (List Value) := do
  match ← field? value "args" with
  | some (.tuple items) => return items
  | _ => return []

variable (engine : Engine)

/-- The text of a value, or with `shows` the one that shows what it is; `fuel` bounds how deep values
are nested. -/
def displayUpTo : (fuel : Nat) → (shows : Bool) → Value → Run String
  | 0, _, _ => return "..."
  | fuel + 1, shows, value => do
    let list (items : List Value) : Run String := do
      return ", ".intercalate (← items.mapM (displayUpTo fuel true))
    match value with
    | .nothing => return "None"
    | .ellipsis => return "Ellipsis"
    | .truth holds => return if holds then "True" else "False"
    | .whole n => return Text.integer n
    | .fraction x => return fractionText x
    | .text text => return if shows then inQuotes text else text
    | .octets octets => return octetsInQuotes octets
    | .tuple [item] => return "(" ++ (← displayUpTo fuel true item) ++ ",)"
    | .tuple items => return "(" ++ (← list items) ++ ")"
    | .native name =>
      return if isExceptionKind name || ["str", "int", "float", "bool", "list", "dict", "tuple", "set",
          "bytes", "object", "type"].contains name then "<class '" ++ name ++ "'>"
        else "<built-in function " ++ name ++ ">"
    | .method _ name => return "<built-in method " ++ name ++ ">"
    | .object address =>
      match ← thingAt address with
      | .list items => return "[" ++ (← list items.toList) ++ "]"
      | .dict entries =>
        let shown ← entries.mapM fun (key, value) => do
          return (← displayUpTo fuel true key) ++ ": " ++ (← displayUpTo fuel true value)
        return "\x7b" ++ ", ".intercalate shown ++ "\x7d"
      | .set [] => return "set()"
      | .set items => return "\x7b" ++ (← list items) ++ "\x7d"
      | .function function => return "<function " ++ function.name ++ " at 0x7f0000000000>"
      | .bound _ _ => return "<bound method>"
      | .kind name _ _ => return "<class '__main__." ++ name ++ "'>"
      | .file file =>
        return "<_io.TextIOWrapper name=" ++ inQuotes file.path ++ " mode=" ++ inQuotes file.mode ++
          " encoding='UTF-8'>"
      | .iterator _ => return "<generator object at 0x7f0000000000>"
      | .record kind _ =>
        let own ← if shows then special? value "__repr__" else do
          match ← special? value "__str__" with
          | some found => pure (some found)
          | none => if ← isException value then pure none else special? value "__repr__"
        match own with
        | some function =>
          match ← engine.call function ⟨[value], []⟩ with
          | .text text => return text
          | _ => fail "TypeError" "__str__ returned non-string"
        | none =>
          match kind with
          | .native "pathlib.Path" =>
            match ← field? value "path" with
            | some (.text path) =>
              return if shows then "PosixPath(" ++ inQuotes path ++ ")" else path
            | _ => return ""
          | _ =>
            if !(← isException value) then
              return "<__main__." ++ (← kindName value) ++ " object at 0x7f0000000000>"
            let arguments ← exceptionArguments value
            if shows then return (← kindName value) ++ "(" ++ (← list arguments) ++ ")"
            match ← field? value "errno", ← field? value "strerror", arguments with
            | some (.whole number), some (.text words), _ =>
              let lead := "[Errno " ++ Text.integer number ++ "] " ++ words
              match ← field? value "filename" with
              | some (.text path) => return lead ++ ": " ++ inQuotes path
              | _ => return lead
            | _, _, [] => return ""
            | _, _, [item] => displayUpTo fuel (← isOf value (.native "KeyError")) item
            | _, _, items => return "(" ++ (← list items) ++ ")"

def textOf (value : Value) : Run String := displayUpTo engine 30 false value

def shown (value : Value) : Run String := displayUpTo engine 30 true value

end Run

/-! ## Formats -/

structure Format where
  fill : Char
  align : Option Char
  sign : Char
  alternate : Bool
  width : Nat
  group : Option Char
  precision : Option Nat
  letter : Option Char

namespace Format

def isAlign (c : Char) : Bool := "<>=^".toList.contains c

/-- Reads a format. -/
def ofText? (text : String) : Option Format :=
  let (fill, align, rest) : Option Char × Option Char × List Char := match text.toList with
    | c :: mark :: rest =>
      if isAlign mark then (some c, some mark, rest)
      else if isAlign c then (none, some c, mark :: rest)
      else (none, none, c :: mark :: rest)
    | [c] => if isAlign c then (none, some c, []) else (none, none, [c])
    | [] => (none, none, [])
  let (sign, rest) := match rest with
    | c :: more => if c = '+' || c = '-' || c = ' ' then (c, more) else ('-', rest)
    | [] => ('-', [])
  let (alternate, rest) := match rest with
    | '#' :: more => (true, more)
    | rest => (false, rest)
  let (zero, rest) := match rest with
    | '0' :: more => (true, more)
    | rest => (false, rest)
  let run := rest.takeWhile Char.isDigit
  let rest := rest.drop run.length
  let (group, rest) := match rest with
    | ',' :: more => (some ',', more)
    | '_' :: more => (some '_', more)
    | rest => (none, rest)
  let (precision, rest) := match rest with
    | '.' :: more =>
      let digits := more.takeWhile Char.isDigit
      (Text.natural? digits, more.drop digits.length)
    | rest => (none, rest)
  let format : Format :=
    ⟨fill.getD (if zero then '0' else ' '), align.or (if zero then some '=' else none), sign, alternate,
      Text.valueOf run, group, precision, rest.head?⟩
  if rest.length ≤ 1 then some format else none

/-- A text with blanks around it; a sign stands before them if that is asked for. -/
def padded (format : Format) (byDefault : Char) (sign text : String) : String :=
  let missing := format.width - (sign.length + text.length)
  let fill (count : Nat) : String := String.ofList (List.replicate count format.fill)
  match format.align.getD byDefault with
  | '<' => sign ++ text ++ fill missing
  | '^' => fill (missing / 2) ++ sign ++ text ++ fill (missing - missing / 2)
  | '=' => sign ++ fill missing ++ text
  | _ => fill missing ++ sign ++ text

/-- Digits in groups of three. -/
def grouped (format : Format) (digits : String) : String :=
  match format.group with
  | none => digits
  | some mark =>
    let whole := digits.toList.takeWhile Char.isDigit
    let rest := digits.toList.drop whole.length
    let rec go : List Char → Nat → List Char
      | [], _ => []
      | c :: more, count => (if count > 0 && count % 3 = 0 then [mark, c] else [c]) ++ go more (count + 1)
    String.ofList ((go whole.reverse 0).reverse ++ rest)

def signOf (format : Format) (negative : Bool) : String :=
  if negative then "-" else if format.sign = '-' then "" else format.sign.toString

/-- A text in a format. -/
def text (format : Format) (text : String) : String :=
  let kept := match format.precision with
    | some n => String.ofList (text.toList.take n)
    | none => text
  format.padded '<' "" kept

/-- A number with a fraction in a format. -/
def fraction (format : Format) (value : Rat) (byDefault : String) : String :=
  let places := format.precision.getD 6
  let directive : Shell.Format.Directive := ⟨if format.alternate then ['#'] else [], 0, some places⟩
  let size := if value < 0 then -value else value
  let found := match format.letter with
    | some 'f' | some 'F' => Shell.Format.Directive.withPlaces size places
    | some 'e' => Shell.Format.Directive.withExponent 'e' size places
    | some 'E' => Shell.Format.Directive.withExponent 'E' size places
    | some 'g' => directive.general 'e' size
    | some 'G' => directive.general 'E' size
    | some '%' => Shell.Format.Directive.withPlaces (size * 100) places ++ "%"
    | _ => if format.precision.isSome then directive.general 'e' size else byDefault
  format.padded '>' (format.signOf (value < 0)) (format.grouped found)

/-- A whole number in a format. -/
def whole? (format : Format) (n : Int) : Option String :=
  let sign := format.signOf (n < 0)
  let based (base : Nat) (upper : Bool) (lead : String) : String :=
    let digits := Shell.Format.Directive.digitsIn base upper n.natAbs
    format.padded '>' (sign ++ if format.alternate then lead else "") digits
  match format.letter with
  | none | some 'd' | some 'n' =>
    some (format.padded '>' sign (format.grouped (Text.number n.natAbs)))
  | some 'x' => some (based 16 false "0x")
  | some 'X' => some (based 16 true "0X")
  | some 'o' => some (based 8 false "0o")
  | some 'b' => some (based 2 false "0b")
  | some 'c' => some (format.padded '<' "" (Char.ofNat n.toNat).toString)
  | some letter =>
    if "eEfFgG%".toList.contains letter then some (format.fraction n "") else none

end Format

namespace Run

variable (engine : Engine)

/-- A value in a format. -/
def formatted (value : Value) (text : String) : Run String := do
  if text = "" then return ← textOf engine value
  match Format.ofText? text with
  | none => fail "ValueError" "Invalid format specifier"
  | some format =>
    let unknown : Run String := do
      fail "ValueError" ("Unknown format code '" ++ (format.letter.map Char.toString).getD "" ++
        "' for object of type '" ++ (← kindName value) ++ "'")
    let whole (n : Int) : Run String := match format.whole? n with
      | some found => return found
      | none => unknown
    match value with
    | .text text => if format.letter.all fun c => c = 's' then return format.text text else unknown
    | .whole n => whole n
    | .truth holds => whole (if holds then 1 else 0)
    | .fraction x =>
      match x.value? with
      | none => return format.padded '>' "" (fractionText x)
      | some found =>
        let size := fractionText x
        let byDefault := if size.startsWith "-" then (size.drop 1).toString else size
        return format.fraction found byDefault
    | _ => fail "TypeError" ("unsupported format string passed to " ++ (← kindName value) ++
        ".__format__")

/-- The number of a value, if it is one. -/
def number? (value : Value) : Option Rat :=
  match value with
  | .whole n => some n
  | .truth holds => some (if holds then 1 else 0)
  | .fraction x => x.value?
  | _ => none

/-- Writes values in the places that percent signs mark; `fuel` bounds the length of the text. -/
def interpolateUpTo (lookup? : String → Run (Option Value)) :
    (fuel : Nat) → List Value → List Char → Run (String × List Value)
  | 0, values, _ => return ("", values)
  | _, values, [] => return ("", values)
  | fuel + 1, values, '%' :: '%' :: rest => do
    let (more, values) ← interpolateUpTo lookup? fuel values rest
    return ("%" ++ more, values)
  | fuel + 1, values, '%' :: rest => do
    let (key, rest) := match rest with
      | '(' :: more =>
        let key := more.takeWhile (· ≠ ')')
        (some (String.ofList key), more.drop (key.length + 1))
      | rest => (none, rest)
    let flags := rest.takeWhile fun c => "#0- +".toList.contains c
    let rest := rest.drop flags.length
    let run := rest.takeWhile Char.isDigit
    let rest := rest.drop run.length
    let (precision, rest) := match rest with
      | '.' :: more =>
        let digits := more.takeWhile Char.isDigit
        (some (Text.valueOf digits), more.drop digits.length)
      | rest => (none, rest)
    match rest with
    | [] => fail "ValueError" "incomplete format"
    | letter :: rest =>
      let (value, left) ← match key, values with
        | some key, values =>
          match ← lookup? key with
          | some value => pure (value, values)
          | none => failWith "KeyError" [.text key]
        | none, value :: left => pure (value, left)
        | none, [] => fail "TypeError" "not enough arguments for format string"
      let directive : Shell.Format.Directive := ⟨flags, Text.valueOf run, precision⟩
      let cut (text : String) : String := match precision with
        | some n => String.ofList (text.toList.take n)
        | none => text
      let found ← match letter with
        | 's' => do pure (directive.padded (cut (← textOf engine value)))
        | 'r' | 'a' => do pure (directive.padded (cut (← shown engine value)))
        | 'c' =>
          match value with
          | .whole n => pure (directive.padded (Char.ofNat n.toNat).toString)
          | .text text => pure (directive.padded text)
          | _ => fail "TypeError" "%c requires int or char"
        | letter =>
          if "diuxXo".toList.contains letter then
            match (number? value).map fun x => if x < 0 then x.ceil else x.floor with
            | some n =>
              if "diu".toList.contains letter then pure (directive.signed n)
              else
                let base := if letter = 'o' then 8 else 16
                let digits := Shell.Format.Directive.digitsIn base (letter = 'X') n.natAbs
                let lead := if directive.has '#' then "0" ++ letter.toString else ""
                pure (directive.numeric ((if n < 0 then "-" else "") ++ lead)
                  (directive.precise digits) precision.isNone)
            | none => do
              fail "TypeError" ("%" ++ letter.toString ++ " format: a real number is required, not " ++
                (← kindName value))
          else if "eEfFgG".toList.contains letter then
            match number? value with
            | some x =>
              let size := if x < 0 then -x else x
              let places := precision.getD 6
              let text := match letter with
                | 'e' | 'E' => Shell.Format.Directive.withExponent letter size places
                | 'g' => directive.general 'e' size
                | 'G' => directive.general 'E' size
                | _ => Shell.Format.Directive.withPlaces size places
              pure (directive.numeric (directive.signOf (x < 0)) text true)
            | none => do fail "TypeError" ("must be real number, not " ++ (← kindName value))
          else fail "ValueError" ("unsupported format character '" ++ letter.toString ++ "'")
      let (more, left) ← interpolateUpTo lookup? fuel left rest
      return (found ++ more, left)
  | fuel + 1, values, c :: rest => do
    let (more, values) ← interpolateUpTo lookup? fuel values rest
    return (c.toString ++ more, values)

end Run

end SignalCatalog.Indented
