import SignalCatalog.Json.Node
import SignalCatalog.Json.Printer
import SignalCatalog.Text.Quoted

/-!
# Shapes of documents

A shape says which values a place of a document accepts. `Node.fault?` finds the first fault of a
document against a shape, in the order of the text: a value of the wrong kind before a later
character that is not JSON, and the other way round. `Json.Fits` is the same rule for values without
places. A record names some fields and accepts any other key; a field it names must not be repeated.
-/

namespace SignalCatalog.Json

/-- What a place accepts; `K` names the kinds of records. -/
inductive Shape (K : Type)
  | anything
  | text
  | string (orNull : Bool)
  | boolean
  | list (item : Shape K)
  | dictionary (value : Shape K)
  | record (kind : K) (orNull : Bool)
  /-- A record or a plain string; `name` is the name of the choice. -/
  | recordOrString (kind : K) (name : String)

/-- The kinds of records: how each is named and which fields it has. -/
structure Records (K : Type) where
  title : K → String
  fields : K → List (String × Shape K)

variable {K : Type}

/-- The shape of a key of a record; a key without a field holds anything. -/
def Records.shapeOf (records : Records K) (kind : K) (key : String) : Shape K :=
  (Entries.get? key (records.fields kind)).getD .anything

/-- The shapes of the members of an object. -/
inductive MemberShape (K : Type)
  | all (shape : Shape K)
  | fields (kind : K)

def MemberShape.of (records : Records K) (key : String) : MemberShape K → Shape K
  | all shape => shape
  | fields kind => records.shapeOf kind key

/-- Whether a key is a field that was met before. -/
def MemberShape.repeats (records : Records K) (seen : List String) (key : String) :
    MemberShape K → Bool
  | all _ => false
  | fields kind => (Entries.keys (records.fields kind)).contains key && seen.contains key

/-- The words for what a shape accepts. -/
def Shape.wanted (records : Records K) : Shape K → String
  | anything => "any value"
  | text | string _ => "a string"
  | boolean => "a boolean"
  | list _ => "a sequence"
  | dictionary _ => "a map"
  | record kind _ | recordOrString kind _ => "struct " ++ records.title kind

/-- A value of the wrong kind. -/
def Shape.refuse (records : Records K) (shape : Shape K) (found : String) (offset : Nat) :
    Option Fault :=
  some ⟨.wrongKind found (shape.wanted records), some offset⟩

/-- What a text, number or null place says about another value. -/
def Shape.refuseText (value : Json) : Option Fault := some ⟨.notText value, none⟩

def Number.found : Number → String
  | integer n => "integer `" ++ Text.integer n ++ "`"
  | float x => "floating point `" ++ x.text Binary64.pointedLayout ++ "`"

mutual

/-- The first fault of a value against a shape. -/
def Node.fault? (records : Records K) (shape : Shape K) : Node → Option Fault
  | .fault f => some f
  | .null stop =>
    match shape with
    | .anything | .text | .string true | .record _ true => none
    | .recordOrString _ name => some ⟨.noVariant name, none⟩
    | _ => shape.refuse records "null" stop
  | .bool b stop =>
    match shape with
    | .anything | .boolean => none
    | .text => Shape.refuseText (.bool b)
    | .recordOrString _ name => some ⟨.noVariant name, none⟩
    | _ => shape.refuse records (if b then "boolean `true`" else "boolean `false`") stop
  | .number n stop =>
    match shape with
    | .anything | .text => none
    | .recordOrString _ name => some ⟨.noVariant name, none⟩
    | _ => shape.refuse records n.found stop
  | .string s stop =>
    match shape with
    | .anything | .text | .string _ | .recordOrString .. => none
    | _ => shape.refuse records ("string " ++ SignalCatalog.Text.quoted s) stop
  | .array start items =>
    match shape with
    | .anything => items.firstFault?
    | .text => items.firstFault? <|> Shape.refuseText (.array items.values)
    | .list item => items.fault? records item
    | .recordOrString _ name => items.firstFault? <|> some ⟨.noVariant name, none⟩
    | _ => shape.refuse records "sequence" start
  | .object start members =>
    match shape with
    | .anything => members.firstFault?
    | .text =>
      members.firstFault? <|> Shape.refuseText (.object (Entries.ofPairs members.pairs))
    | .dictionary value => members.fault? records (.all value) []
    | .record kind _ => members.fault? records (.fields kind) []
    | .recordOrString kind name =>
      members.firstFault? <|>
        (members.fault? records (.fields kind) []).map fun _ => ⟨.noVariant name, none⟩
    | _ => shape.refuse records "map" start

def NodeItems.fault? (records : Records K) (shape : Shape K) : NodeItems → Option Fault
  | .done => none
  | .fault f => some f
  | .item value rest => value.fault? records shape <|> rest.fault? records shape

/-- `seen` holds the keys met so far. -/
def NodeMembers.fault? (records : Records K) (shape : MemberShape K) (seen : List String) :
    NodeMembers → Option Fault
  | .done => none
  | .fault f => some f
  | .member key afterKey value afterValue rest =>
    if shape.repeats records seen key then some ⟨.duplicateField key, some afterKey⟩
    else
      match value.fault? records (shape.of records key) with
      | some fault => some (fault.settle afterValue)
      | none => rest.fault? records shape (key :: seen)

end

/-- The value of a text that has a shape, or the first fault of the text. -/
def readAs (records : Records K) (shape : Shape K) (text : String) : Except Fault Json :=
  let (node, trailing) := Node.read text
  match node.fault? records shape <|> trailing with
  | some fault => .error fault
  | none => .ok node.value

/-- The words for a cause. -/
def Cause.message : Cause → String
  | endInValue => "EOF while parsing a value"
  | endInList => "EOF while parsing a list"
  | endInObject => "EOF while parsing an object"
  | endInString => "EOF while parsing a string"
  | expectedValue => "expected value"
  | expectedWord => "expected ident"
  | expectedColon => "expected `:`"
  | expectedCommaOrBracket => "expected `,` or `]`"
  | expectedCommaOrBrace => "expected `,` or `\x7d`"
  | trailingComma => "trailing comma"
  | trailingCharacters => "trailing characters"
  | keyNotString => "key must be a string"
  | invalidNumber => "invalid number"
  | numberOutOfRange => "number out of range"
  | invalidEscape => "invalid escape"
  | controlCharacter => "control character (\\u0000-\\u001F) found while parsing a string"
  | loneSurrogate => "lone leading surrogate in hex escape"
  | unfinishedSurrogate => "unexpected end of hex escape"
  | tooDeep => "recursion limit exceeded"
  | wrongKind found expected => "invalid type: " ++ found ++ ", expected " ++ expected
  | duplicateField name => "duplicate field `" ++ name ++ "`"
  | notText found => "expected a string, got " ++ found.compact
  | noVariant name => "data did not match any variant of untagged enum " ++ name

/-- The place of a fault in its text. -/
def Fault.position (fault : Fault) (text : String) : Position :=
  Position.after text.toList (fault.offset.getD 0)

/-- The words for a fault, with its place. -/
def Fault.message (fault : Fault) (text : String) : String :=
  let place := fault.position text
  fault.cause.message ++ " at line " ++ Text.number place.line ++ " column " ++
    Text.number place.column

mutual

/-- The value has the shape. -/
def Fits (records : Records K) (shape : Shape K) : Json → Prop
  | null =>
    match shape with
    | .anything | .text | .string true | .record _ true => True
    | _ => False
  | bool _ =>
    match shape with
    | .anything | .boolean => True
    | _ => False
  | number _ =>
    match shape with
    | .anything | .text => True
    | _ => False
  | string _ =>
    match shape with
    | .anything | .text | .string _ | .recordOrString .. => True
    | _ => False
  | array items =>
    match shape with
    | .anything => True
    | .list item => AllFit records item items
    | _ => False
  | object members =>
    match shape with
    | .anything => True
    | .dictionary value => MembersFit records (.all value) members
    | .record kind _ | .recordOrString kind _ => MembersFit records (.fields kind) members
    | _ => False

def AllFit (records : Records K) (shape : Shape K) : List Json → Prop
  | [] => True
  | value :: rest => Fits records shape value ∧ AllFit records shape rest

def MembersFit (records : Records K) (shape : MemberShape K) : List (String × Json) → Prop
  | [] => True
  | (key, value) :: rest =>
    Fits records (shape.of records key) value ∧ MembersFit records shape rest

end

end SignalCatalog.Json
