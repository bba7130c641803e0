import SignalCatalog.Json.Printer
import SignalCatalog.Log.Config

/-!
# Log lines

An event is written as one line: its level in a column of five, its message and its fields. With
colour the level, the field names and the equals signs are painted. The other form is one JSON object
for each event. A line break inside a value stays, so that one event can fill several lines.
-/

namespace SignalCatalog.Log

namespace Level

/-- The name in capitals, set to the right of five columns. -/
def column : Level → String
  | error => "ERROR"
  | warn => " WARN"
  | info => " INFO"
  | debug => "DEBUG"
  | trace => "TRACE"

/-- The number of the terminal colour of a level. -/
def colour : Level → Nat
  | error => 31
  | warn => 33
  | info => 32
  | debug => 34
  | trace => 35

/-- The name in capitals. -/
def word (level : Level) : String := String.ofList (Text.upper level.name.toList)

end Level

/-- A text between the marks that switch a terminal style on and off. -/
def painted (colored : Bool) (style : Nat) (text : String) : String :=
  if colored then "\x1b[" ++ Text.number style ++ "m" ++ text ++ "\x1b[0m" else text

def italic : Nat := 3

def dimmed : Nat := 2

/-- A character of a message. Those that could steer a terminal are written as their numbers. -/
def messageChar (c : Char) : List Char :=
  if [0x1B, 0x07, 0x08, 0x0C, 0x7F].contains c.toNat then
    ['\\', 'x', Json.hexDigit (c.toNat / 16), Json.hexDigit (c.toNat % 16)]
  else if 0x80 ≤ c.toNat ∧ c.toNat ≤ 0x9F then
    ['\\', 'u', '\x7b'] ++ Text.lowHexDigits 6 c.toNat ++ ['\x7d']
  else [c]

namespace Value

/-- The value on a line of text. -/
def text : Value → String
  | shown text => text
  | quoted text => Text.quoted text
  | count n => Text.number n

def json : Value → Json
  | shown text | quoted text => .string text
  | count n => .number (.integer n)

end Value

namespace Event

/-- The event on a line. -/
def line (colored : Bool) (event : Event) : String :=
  let fields := event.fields.map fun (name, value) =>
    " " ++ painted colored italic name ++ painted colored dimmed "=" ++ value.text
  painted colored event.level.colour event.level.column ++ " " ++
    String.ofList (event.message.toList.flatMap messageChar) ++ String.join fields

/-- The event as a JSON object; `time` is the time of the event as text. -/
def jsonLine (time : String) (event : Event) : String :=
  let fields := event.fields.map fun (name, value) => (name, value.json)
  (Json.object [("timestamp", .string time), ("level", .string event.level.word),
    ("fields", .object (("message", .string event.message) :: fields))]).compact

/-- The event in a format; only lines have colours. -/
def written (format : Format) (colored : Bool) (time : String) (event : Event) : String :=
  match format with
  | .pretty | .compact => event.line colored
  | .json => event.jsonLine time

end Event

/-- A line without the carriage return that belongs to the line break behind it. -/
def withoutReturn (line : List Char) : List Char :=
  if line.getLast? = some '\r' then line.dropLast else line

/-- The lines of a text. A line break at the end starts no line, and a carriage return before a line
break is part of it. -/
def textLines (text : String) : List String :=
  let lines := Text.pieces '\n' text.toList
  let last := lines.getLast?.filter fun line => !line.isEmpty
  (lines.dropLast.map withoutReturn ++ last.toList).map String.ofList

end SignalCatalog.Log
