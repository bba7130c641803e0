import SignalCatalog.Binary64.Shortest
import SignalCatalog.OrderedMap
import SignalCatalog.Text.Numeral

/-!
# JSON values

The values of project files. Integers of 64 bits stay integers, all other numbers are finite
doubles. An object lists its members in the order of the text.
-/

namespace SignalCatalog

/-- A number of a document. -/
inductive Json.Number
  | integer (value : Int)
  | float (value : Binary64)
deriving DecidableEq

inductive Json
  | null
  | bool (value : Bool)
  | number (value : Json.Number)
  | string (value : String)
  | array (items : List Json)
  | object (members : List (String × Json))

namespace Json

instance : Inhabited Json := ⟨null⟩

/-- A floating-point number in JSON keeps its point. -/
def Number.text : Number → String
  | integer n => Text.integer n
  | float x => x.text Binary64.pointedLayout

/-- The number as a double. -/
def Number.toBinary64 : Number → Binary64
  | integer n => .ofInt n
  | float x => x

/-- The members of an object; every other value has none. -/
def members : Json → List (String × Json)
  | object members => members
  | _ => []

def member? (value : Json) (key : String) : Option Json := Entries.get? key value.members

def items : Json → List Json
  | array items => items
  | _ => []

def stringValue? : Json → Option String
  | string s => some s
  | _ => none

def boolValue? : Json → Option Bool
  | bool b => some b
  | _ => none

mutual

/-- The keys of every object in the value are pairwise distinct. -/
def WellFormed : Json → Prop
  | null => True
  | bool _ => True
  | number _ => True
  | string _ => True
  | array items => AllWellFormed items
  | object members => (Entries.keys members).Nodup ∧ MembersWellFormed members

def AllWellFormed : List Json → Prop
  | [] => True
  | value :: rest => value.WellFormed ∧ AllWellFormed rest

def MembersWellFormed : List (String × Json) → Prop
  | [] => True
  | (_, value) :: rest => value.WellFormed ∧ MembersWellFormed rest

end

end Json

end SignalCatalog
