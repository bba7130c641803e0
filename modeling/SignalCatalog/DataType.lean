import SignalCatalog.Attribute
import SignalCatalog.Json
import SignalCatalog.Text.Numeral

/-!
# Data types

The type of a signal or of a struct member is written as one text: a base type, `STRUCT`,
`ARRAY[n] OF T`, `ENUM<width>(name)`, or any other name, which is kept as written. Reading ignores
the case of the fixed words and blanks between the parts; every text that is not blank is a type.
-/

namespace SignalCatalog

open Text

inductive BaseType
  | int8
  | uint8
  | int16
  | uint16
  | int32
  | uint32
  | int64
  | uint64
  | float32
  | float64
  | boolean
  | char
  | string
deriving DecidableEq, Repr

namespace BaseType

def all : List BaseType :=
  [int8, uint8, int16, uint16, int32, uint32, int64, uint64, float32, float64, boolean, char,
    string]

def spelling : BaseType → String
  | int8 => "INT8"
  | uint8 => "UINT8"
  | int16 => "INT16"
  | uint16 => "UINT16"
  | int32 => "INT32"
  | uint32 => "UINT32"
  | int64 => "INT64"
  | uint64 => "UINT64"
  | float32 => "FLOAT32"
  | float64 => "FLOAT64"
  | boolean => "BOOLEAN"
  | char => "CHAR"
  | string => "STRING"

/-- The name of the type in generated code. -/
def token : BaseType → String
  | boolean => "bool_t"
  | other => other.spelling

def ofName? (name : String) : Option BaseType :=
  all.find? fun base => sameIgnoringCase base.spelling name

end BaseType

/-- The storage width of an enumeration. -/
inductive EnumWidth
  | oneByte
  | fourBytes
deriving DecidableEq, Repr

namespace EnumWidth

def spelling : EnumWidth → String
  | oneByte => "1Byte"
  | fourBytes => "4Byte"

def ofText? (text : List Char) : Option EnumWidth :=
  let word := String.ofList (lower (trim text))
  if word == "1byte" || word == "1bytes" then some oneByte
  else if word == "4byte" || word == "4bytes" then some fourBytes
  else none

end EnumWidth

inductive DataType
  | base (type : BaseType)
  | struct
  | array (size : Nat) (element : DataType)
  | enum (width : EnumWidth) (name : String)
  /-- Any other spelling, as written. -/
  | named (text : String)
deriving DecidableEq, Repr

namespace DataType

def default : DataType := base .int32

instance : Inhabited DataType := ⟨default⟩

def isStruct : DataType → Bool
  | struct => true
  | _ => false

/-- The written form of a type. -/
def text : DataType → String
  | base type => type.spelling
  | struct => "STRUCT"
  | array size element => "ARRAY[" ++ number size ++ "] OF " ++ element.text
  | enum width name => "ENUM<" ++ width.spelling ++ ">(" ++ name ++ ")"
  | named text => text

/-- The type in generated code: base types have a name there, all others stand as written. -/
def code : DataType → String
  | base type => type.token
  | other => other.text

def maxArraySize : Nat := 1000

/-- What follows a word in a text, in any case of its letters. -/
def afterWord? : (word text : List Char) → Option (List Char)
  | [], text => some text
  | _ :: _, [] => none
  | c :: word, d :: text =>
    if c.toLower = d.toLower then afterWord? word text else none

/-- The size and the trimmed element of an array type. -/
def arrayParts? (text : List Char) : Option (Nat × List Char) := do
  let rest ← afterWord? "ARRAY".toList text
  let rest ← after? ['['] (trimStart rest)
  let (inner, rest) ← cutAt? ']' rest
  let size ← unsigned? maxWord32 (trim inner)
  if size = 0 ∨ maxArraySize < size then none
  else
    let rest ← afterWord? "OF".toList (trimStart rest)
    match rest with
    | c :: _ => if isBlank c then some (size, trim rest) else none
    | [] => none

/-- The width and the name of an enumeration type. -/
def enumParts? (text : List Char) : Option (EnumWidth × List Char) := do
  let rest ← afterWord? "ENUM".toList text
  let rest ← after? ['<'] (trimStart rest)
  let (inner, rest) ← cutAt? '>' rest
  let width ← EnumWidth.ofText? inner
  let rest ← after? ['('] (trim rest)
  let inner ← before? [')'] rest
  let name := trim inner
  if name.isEmpty then none else some (width, name)

/-- The array type that a text spells, with a reader for its element. -/
def arrayType? (readElement : List Char → Option DataType) (text : List Char) :
    Option DataType := do
  let (size, element) ← arrayParts? text
  let element ← readElement element
  if element.isStruct then none else some (array size element)

/-- Reads a trimmed text; `fuel` bounds the nesting of arrays. -/
def ofTrimmed : (fuel : Nat) → List Char → Option DataType
  | 0, _ => none
  | fuel + 1, text =>
    let word := String.ofList text
    if text.isEmpty then none
    else if sameIgnoringCase word "STRUCT" then some struct
    else match BaseType.ofName? word with
      | some type => some (base type)
      | none =>
        match arrayType? (ofTrimmed fuel) text with
        | some type => some type
        | none =>
          match enumParts? text with
          | some (width, name) => some (enum width (String.ofList name))
          | none => some (named word)

/-- The type that a text spells; nothing if the text is blank. -/
def ofText? (text : String) : Option DataType :=
  let chars := trim text.toList
  ofTrimmed (chars.length + 1) chars

def read (text : String) : Except ValueError DataType :=
  match ofText? text with
  | some type => .ok type
  | none => .error ⟨"DataType", text⟩

/-- The type in a document, where a blank text stands for the default. -/
def ofDocument (text : String) : DataType := (ofText? text).getD default

end DataType

/-- A member of a struct. Only a member of type `STRUCT` should have members of its own. -/
structure StructField where
  type : DataType
  description : String
  fields : List (String × StructField)
  extra : OrderedMap Json

namespace StructField

mutual

/-- The number of levels of members below a member. -/
def depth : StructField → Nat
  | ⟨_, _, fields, _⟩ => depths fields

/-- The number of levels of a list of members. -/
def depths : List (String × StructField) → Nat
  | [] => 0
  | (_, field) :: rest => max (field.depth + 1) (depths rest)

end

/-- The most levels of members that a signal may have, its own counted. -/
def maxDepth : Nat := 3

end StructField

end SignalCatalog
