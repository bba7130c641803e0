import SignalCatalog.Binary64.Reading
import SignalCatalog.Calendar.Pattern

/-!
# Reading dates

Dates in files and workbooks come in many spellings. They are tried in a fixed order: dates alone,
with the month before the day where slashes leave it open, then dates with a time of day, then the
exchange format with an offset from universal time, and last a spreadsheet's day number. Only the
date is kept.
-/

namespace SignalCatalog.Calendar

open SignalCatalog.Text Item

/-- Year, month and day with dashes, the written form of a date. -/
def isoItems : List Item := [year, mark '-', month, mark '-', day]

/-- The written form of a date, with blanks before the dashes and at the end. -/
def spacedIsoItems : List Item := [year, gap, mark '-', month, gap, mark '-', day, gap]

def dateForms : List (List Item) :=
  [isoItems,
    [year, mark '/', month, mark '/', day],
    [month, mark '/', day, mark '/', year],
    [day, mark '.', month, mark '.', year],
    [day, mark '-', month, mark '-', year],
    [day, gap, shortMonth, gap, year],
    [day, mark '-', shortMonth, mark '-', year],
    [shortMonth, gap, day, mark ',', gap, year],
    [longMonth, gap, day, mark ',', gap, year],
    [day, gap, longMonth, gap, year]]

def minutes : List Item := [hour, mark ':', minute]

def seconds : List Item := minutes ++ [mark ':', second]

def dateTimeForms : List (List Item) :=
  [isoItems ++ [mark 'T'] ++ seconds ++ [fraction],
    isoItems ++ [gap] ++ seconds ++ [fraction],
    isoItems ++ [mark 'T'] ++ minutes,
    isoItems ++ [gap] ++ minutes,
    [month, mark '/', day, mark '/', year, gap] ++ seconds,
    [month, mark '/', day, mark '/', year, gap] ++ minutes]

/-- Exactly `width` digits of a number up to a limit. -/
def takeFixed? (width limit : Nat) (text : List Char) : Option (Nat × List Char) := do
  let (n, rest) ← takeNumber? width width text
  if n ≤ limit then some (n, rest) else none

def takeMark? (accepts : Char → Bool) : List Char → Option (List Char)
  | c :: rest => if accepts c then some rest else none
  | [] => none

/-- Whether a text is an offset from universal time: `Z`, or a sign, hours, a colon and minutes. -/
def isOffset : List Char → Bool
  | [c] => c = 'Z' || c = 'z'
  | sign :: rest =>
    (sign = '+' || sign = '-' || sign.toNat = 0x2212) &&
      (do
        let (_, rest) ← takeFixed? 2 23 rest
        let rest ← takeMark? (· = ':') rest
        let (_, rest) ← takeFixed? 2 59 rest
        if rest.isEmpty then some () else none).isSome
  | [] => false

/-- A date, a time of day and an offset, each field with all its digits. -/
def readExchange? (text : List Char) : Option Date := do
  let (y, rest) ← takeFixed? 4 9999 text
  let rest ← takeMark? (· = '-') rest
  let (m, rest) ← takeFixed? 2 12 rest
  let rest ← takeMark? (· = '-') rest
  let (d, rest) ← takeFixed? 2 31 rest
  let rest ← takeMark? (fun c => c = 'T' || c = 't' || c = ' ') rest
  let (_, rest) ← takeFixed? 2 23 rest
  let rest ← takeMark? (· = ':') rest
  let (_, rest) ← takeFixed? 2 59 rest
  let rest ← takeMark? (· = ':') rest
  let (_, rest) ← takeFixed? 2 60 rest
  let rest ← dropFraction? rest
  if isOffset rest then Date.of? y m d else none

/-- Reads a date in any of the accepted spellings. -/
def readDate? (text : String) : Option Date :=
  let chars := trim text.toList
  if chars.isEmpty then none
  else
    dateForms.findSome? (read? · chars) <|> dateTimeForms.findSome? (read? · chars) <|>
      readExchange? chars <|> (Binary64.ofChars? chars).bind Date.ofSerial?

end SignalCatalog.Calendar
