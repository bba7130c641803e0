import SignalCatalog.Json

/-!
# Writing JSON

One printer for two layouts: compact, without any blank, and indented by a fixed number of blanks a
level. In strings only the quote, the backslash and the control characters below U+0020 are escaped.
-/

namespace SignalCatalog.Json

def hexDigit (d : Nat) : Char := Char.ofNat (if d < 10 then 48 + d else 87 + d)

/-- One character of a string as it stands in the text. -/
def escaped (c : Char) : List Char :=
  if c = '"' then ['\\', '"']
  else if c = '\\' then ['\\', '\\']
  else if c = '\n' then ['\\', 'n']
  else if c = '\r' then ['\\', 'r']
  else if c = '\t' then ['\\', 't']
  else if c.toNat = 8 then ['\\', 'b']
  else if c.toNat = 12 then ['\\', 'f']
  else if c.toNat < 32 then
    ['\\', 'u', '0', '0', hexDigit (c.toNat / 16), hexDigit (c.toNat % 16)]
  else [c]

def quoted (text : String) : List Char :=
  '"' :: text.toList.flatMap escaped ++ ['"']

/-- Where line breaks and blanks stand. -/
inductive Layout
  | compact
  | indented (width : Nat)

/-- What separates the items of a list or object at a depth. -/
def Layout.break (depth : Nat) : Layout → List Char
  | compact => []
  | indented width => '\n' :: List.replicate (width * depth) ' '

def Layout.colon : Layout → List Char
  | compact => [':']
  | indented _ => [':', ' ']

mutual

def write (layout : Layout) (depth : Nat) : Json → List Char
  | null => "null".toList
  | bool b => if b then "true".toList else "false".toList
  | number n => n.text.toList
  | string s => quoted s
  | array [] => ['[', ']']
  | array (value :: rest) =>
    '[' :: layout.break (depth + 1) ++ write layout (depth + 1) value ++
      writeItems layout (depth + 1) rest ++ layout.break depth ++ [']']
  | object [] => ['\x7b', '\x7d']
  | object ((key, value) :: rest) =>
    '\x7b' :: layout.break (depth + 1) ++ quoted key ++ layout.colon ++
      write layout (depth + 1) value ++ writeMembers layout (depth + 1) rest ++
      layout.break depth ++ ['\x7d']

/-- The items after the first, each with its comma. -/
def writeItems (layout : Layout) (depth : Nat) : List Json → List Char
  | [] => []
  | value :: rest =>
    ',' :: layout.break depth ++ write layout depth value ++ writeItems layout depth rest

/-- The members after the first, each with its comma. -/
def writeMembers (layout : Layout) (depth : Nat) : List (String × Json) → List Char
  | [] => []
  | (key, value) :: rest =>
    ',' :: layout.break depth ++ quoted key ++ layout.colon ++ write layout depth value ++
      writeMembers layout depth rest

end

/-- The text without blanks. -/
def compact (value : Json) : String := String.ofList (write .compact 0 value)

/-- The text indented by four blanks a level, without a final line break. -/
def indented (value : Json) : String := String.ofList (write (.indented 4) 0 value)

end SignalCatalog.Json
