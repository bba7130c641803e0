import SignalCatalog.Calendar.Date
import SignalCatalog.Text.Ascii
import SignalCatalog.Text.Blank

/-!
# Date patterns

A pattern is a list of items that are matched one after the other. A number skips blanks in front,
has at least one digit and at most as many as its width; a year with a sign may have any number of
digits. A gap matches any run of blanks, also none. A mark matches itself only. What is matched is
collected in `Parts`, which make a date if all of them are in range.
-/

namespace SignalCatalog.Calendar

open SignalCatalog.Text

inductive Item
  | year
  | month
  | day
  | hour
  | minute
  | second
  /-- A point and at least one digit, or nothing. -/
  | fraction
  /-- The first three letters of a month, in any case. -/
  | shortMonth
  /-- The name of a month, or its first three letters, in any case. -/
  | longMonth
  | mark (c : Char)
  | gap
deriving DecidableEq

/-- The values matched so far. -/
structure Parts where
  year : Int
  month : Nat
  day : Nat

def Parts.none : Parts := ⟨0, 0, 0⟩

def monthNames : List String :=
  ["january", "february", "march", "april", "may", "june", "july", "august", "september",
    "october", "november", "december"]

/-- At least `low` and at most `high` digits in front of a text. -/
def takeNumber? (low high : Nat) (text : List Char) : Option (Nat × List Char) :=
  let run := (text.take high).takeWhile Char.isDigit
  if run.length < low then none else some (valueOf run, text.drop run.length)

/-- A year of up to four digits, or a sign and any number of digits. -/
def takeYear? (text : List Char) : Option (Int × List Char) :=
  match trimStart text with
  | '-' :: rest => (takeNumber? 1 rest.length rest).map fun (n, rest) => (-(n : Int), rest)
  | '+' :: rest => (takeNumber? 1 rest.length rest).map fun (n, rest) => ((n : Int), rest)
  | text => (takeNumber? 1 4 text).map fun (n, rest) => ((n : Int), rest)

/-- A number of one or two digits up to a limit, after blanks. -/
def takeField? (limit : Nat) (text : List Char) : Option (Nat × List Char) := do
  let (n, rest) ← takeNumber? 1 2 (trimStart text)
  if n ≤ limit then some (n, rest) else none

/-- What follows `lead` in a text, in any case of its letters. -/
def afterIgnoringCase? (lead text : List Char) : Option (List Char) :=
  if lower (text.take lead.length) = lower lead then some (text.drop lead.length) else none

/-- The number of the month whose first three letters stand in front. -/
def takeShortMonth? (text : List Char) : Option (Nat × List Char) := do
  let index ← monthNames.findIdx? fun name =>
    (afterIgnoringCase? (name.toList.take 3) text).isSome
  some (index + 1, text.drop 3)

/-- The same, with the rest of the name if it follows. -/
def takeLongMonth? (text : List Char) : Option (Nat × List Char) := do
  let (month, rest) ← takeShortMonth? text
  let ending := ((monthNames[month - 1]?).getD "").toList.drop 3
  some (month, (afterIgnoringCase? ending rest).getD rest)

/-- The text after a fraction of a second. -/
def dropFraction? : List Char → Option (List Char)
  | '.' :: rest =>
    match rest with
    | c :: _ => if c.isDigit then some (rest.dropWhile Char.isDigit) else none
    | [] => none
  | text => some text

/-- Matches one item at the front of a text. -/
def Item.take? (parts : Parts) (text : List Char) : Item → Option (Parts × List Char)
  | year => (takeYear? text).map fun (y, rest) => ({ parts with year := y }, rest)
  | month => (takeField? 12 text).map fun (m, rest) => ({ parts with month := m }, rest)
  | day => (takeField? 31 text).map fun (d, rest) => ({ parts with day := d }, rest)
  | hour => (takeField? 23 text).map fun (_, rest) => (parts, rest)
  | minute => (takeField? 59 text).map fun (_, rest) => (parts, rest)
  | second => (takeField? 60 text).map fun (_, rest) => (parts, rest)
  | fraction => (dropFraction? text).map fun rest => (parts, rest)
  | shortMonth => (takeShortMonth? text).map fun (m, rest) => ({ parts with month := m }, rest)
  | longMonth => (takeLongMonth? text).map fun (m, rest) => ({ parts with month := m }, rest)
  | mark c =>
    match text with
    | d :: rest => if c = d then some (parts, rest) else none
    | [] => none
  | gap => some (parts, trimStart text)

/-- Matches all items, with nothing left over. -/
def matchItems? : List Item → Parts → List Char → Option Parts
  | [], parts, [] => some parts
  | [], _, _ :: _ => none
  | item :: items, parts, text =>
    match item.take? parts text with
    | some (parts, rest) => matchItems? items parts rest
    | none => none

/-- The date of a text that matches a pattern. -/
def read? (items : List Item) (text : List Char) : Option Date := do
  let parts ← matchItems? items .none text
  Date.of? parts.year parts.month parts.day

end SignalCatalog.Calendar
