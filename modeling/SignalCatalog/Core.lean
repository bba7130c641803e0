import SignalCatalog.Attribute
import SignalCatalog.Json

/-!
# Cores and their identifiers

A core belongs to a system on chip and is named `SoC.Core`; the identifier is split at its first
dot. A signal marks its destinations by keys made of the identifier with underscores for dots.
-/

namespace SignalCatalog

/-- The word for an operating system or a vendor family that has not been set. -/
def unknownWord : String := "Unknown"

structure Core where
  description : String
  isMaster : Bool
  isQnx : Bool
  isAutosar : Bool
  isSim : Bool
  os : String
  socFamily : String
  extra : OrderedMap Json

namespace Core

/-- A slave core with a description and every flag off. -/
def described (description : String) : Core :=
  ⟨description, false, false, false, false, unknownWord, unknownWord, .empty⟩

instance : Inhabited Core := ⟨described ""⟩

def role (core : Core) : String := if core.isMaster then "Master" else "Slave"

end Core

structure CoreId where
  soc : String
  core : String
deriving DecidableEq, Repr

/-- What destination keys start with. -/
def destinationMark : String := "core_"

/-- The key under which a signal marks a core as a destination. -/
def destinationKey (text : String) : String :=
  destinationMark ++ String.ofList (text.toList.map fun c => if c = '.' then '_' else c)

namespace CoreId

def text (id : CoreId) : String := id.soc ++ "." ++ id.core

def destinationKey (id : CoreId) : String := SignalCatalog.destinationKey id.text

/-- The key of a core in the lock interfaces of a multi-image build. -/
def interfaceKey (id : CoreId) : String := id.soc ++ "_" ++ id.core

/-- Splits at the first dot; both halves must be non-empty. -/
def ofText? (text : String) : Option CoreId :=
  match Text.cutAt? '.' (Text.trim text.toList) with
  | some (soc, core) =>
    if soc.isEmpty || core.isEmpty then none else some ⟨String.ofList soc, String.ofList core⟩
  | none => none

def read (text : String) : Except ValueError CoreId :=
  match ofText? text with
  | some id => .ok id
  | none => .error ⟨"Source", Text.trimmed text⟩

end CoreId

end SignalCatalog
