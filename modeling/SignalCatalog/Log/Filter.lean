import SignalCatalog.Log.Config
import SignalCatalog.OrderedMap
import SignalCatalog.Text.Blank

/-!
# Filters

A filter is a list of directives, each a threshold for the origins whose names start with a text, or
for all, and perhaps only for the events that have some field. The directive with the longest text
decides, of equal ones that with more fields, and of these the last. What no directive is about is not
written.

A directive is a threshold, a scope, or a scope and a threshold with an equals sign between them. A
scope without a threshold lets everything through. Behind the scope may stand, in brackets, the name
of a span and a field in braces; spans are not used here, so that a directive about one or about the
value of a field never decides. Blanks are part of what they stand beside.
-/

namespace SignalCatalog.Log

structure Directive where
  /-- The start of the names of origins; the empty text is the start of all. -/
  scope : String
  /-- The fields that an event must have. -/
  fields : List String
  threshold : Threshold
deriving DecidableEq, Repr

abbrev Filter := List Directive

/-- The names of the fields of an event; the message is one of them. -/
def Event.fieldNames (event : Event) : List String := "message" :: event.fields.map Prod.fst

namespace Directive

def covers (directive : Directive) (event : Event) : Bool :=
  (Text.after? directive.scope.toList event.origin.name.toList).isSome &&
    directive.fields.all event.fieldNames.contains

/-- Whether a directive can start with a character: a letter, a digit or a sign of a name. -/
def startsWith (c : Char) : Bool :=
  c.isAlphanum || c == '_' || c == ':' || c == '-' || c == '[' || 0x7F < c.toNat

/-- The threshold behind an equals sign. -/
def level? (text : List Char) : Option Threshold :=
  if text.isEmpty then some (some .trace) else Threshold.ofText? (String.ofList text)

/-- The threshold at the end of a directive, with the equals sign in front if there is one. -/
def ending? (text : List Char) : Option Threshold :=
  match text with
  | '=' :: level => level? level
  | rest => if rest.all Text.isBlank then some (some .trace) else none

/-- Reads what stands in brackets behind a scope, and the threshold. The directive is nothing if it can
never decide. -/
def ofBrackets? (scope : String) (text : List Char) : Option (Option Directive) :=
  let span := text.takeWhile fun c => c ≠ ']' && c ≠ '\x7b'
  match text.drop span.length with
  | ']' :: rest => (ending? rest).map fun _ => none
  | _ :: rest =>
    let field := rest.takeWhile (· ≠ '\x7d')
    match rest.drop field.length with
    | _ :: ']' :: rest =>
      if field.isEmpty then none
      else (ending? rest).map fun threshold =>
        if span.isEmpty && !field.contains '=' then
          some ⟨scope, [String.ofList field], threshold⟩
        else none
    | _ => none
  | [] => none

/-- Reads a directive; it is nothing if it can never decide. -/
def ofText? (text : List Char) : Option (Option Directive) :=
  match text, Text.trim text with
  | first :: _, start :: _ =>
    if !startsWith start then none
    else if Text.isBlank first then if text.contains '=' then none else some none
    else
      let scope := text.takeWhile fun c => c ≠ '=' && c ≠ '['
      match text.drop scope.length with
      | '=' :: level =>
        (level? level).map fun threshold => some ⟨String.ofList scope, [], threshold⟩
      | _ :: inside => ofBrackets? (String.ofList scope) inside
      | [] =>
        match Threshold.ofText? (String.ofList scope) with
        | some threshold => some (some ⟨"", [], threshold⟩)
        | none => some (some ⟨String.ofList scope, [], some .trace⟩)
  | _, _ => none

/-- The greater, the sooner it decides. -/
def weight (directive : Directive) : Nat × Nat :=
  (directive.scope.utf8ByteSize, directive.fields.length)

end Directive

namespace Filter

/-- The one of two directives that decides. -/
def stronger (first second : Directive) : Directive :=
  let (scope, fields) := first.weight
  let (otherScope, otherFields) := second.weight
  if otherScope < scope || (otherScope == scope && otherFields < fields) then first else second

/-- The threshold for an event. -/
def threshold (filter : Filter) (event : Event) : Threshold :=
  match filter.filter fun directive => directive.covers event with
  | [] => none
  | first :: rest => (rest.foldl stronger first).threshold

def passes (filter : Filter) (event : Event) : Bool :=
  (filter.threshold event).passes event.level

/-- Reads directives between commas; without any, errors pass. -/
def ofText? (text : String) : Option Filter :=
  let words := (Text.pieces ',' text.toList).filter fun word => !word.isEmpty
  if words.isEmpty then some [⟨"", [], some .error⟩]
  else (words.mapM Directive.ofText?).map fun directives => directives.filterMap id

end Filter

namespace Config

/-- The filter of the threshold. -/
def ownFilter (config : Config) : Filter :=
  ⟨"", [], some .warn⟩ :: Origin.all.map fun origin => ⟨origin.name, [], config.threshold⟩

/-- The filter, given that of the environment as text. -/
def filter (config : Config) (environment : Option String) : Filter :=
  match if config.usesEnvironment then environment.bind Filter.ofText? else none with
  | some filter => filter
  | none => config.ownFilter

end Config

end SignalCatalog.Log
