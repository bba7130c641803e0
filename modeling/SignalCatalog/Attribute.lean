import SignalCatalog.Text.Ascii
import SignalCatalog.Text.Blank

/-!
# Closed sets of attribute values

The transport attributes of a signal take values from closed sets. Each member has one spelling, used
in project files and workbooks; reading ignores blanks around a word and the case of its letters.
-/

namespace SignalCatalog

/-- A text that is no value of a field. -/
structure ValueError where
  field : String
  value : String
deriving DecidableEq, Repr

def ValueError.message (error : ValueError) : String :=
  "invalid " ++ error.field ++ " value: '" ++ error.value ++ "'"

/-- A closed set of values with one spelling each. -/
class Attribute (α : Type) where
  field : String
  members : List α
  spelling : α → String
  /-- What a blank text stands for, if it stands for a value. -/
  ofBlank : Option α := none

namespace Attribute

variable {α : Type} [Attribute α]

/-- The member with a spelling, in any case of its letters and with blanks around it. -/
def member? (text : String) : Option α :=
  let word := Text.trimmed text
  match (ofBlank : Option α) with
  | some value => if word.isEmpty then some value else find word
  | none => find word
where
  find (word : String) : Option α :=
    (members : List α).find? fun value => Text.sameIgnoringCase (spelling value) word

def read (text : String) : Except ValueError α :=
  match (member? text : Option α) with
  | some value => .ok value
  | none => .error ⟨field α, Text.trimmed text⟩

end Attribute

/-- The memory that holds a signal's buffer. -/
inductive MemoryRegion
  | ddr
  | cached
  | nonCached
deriving DecidableEq, Repr

instance : Attribute MemoryRegion where
  field := "Memory Region"
  members := [.ddr, .cached, .nonCached]
  spelling
    | .ddr => "DDR"
    | .cached => "Cached"
    | .nonCached => "NonCached"

/-- The access discipline of a signal's buffer. -/
inductive AccessOrder
  | concurrent
  | sequential
deriving DecidableEq, Repr

instance : Attribute AccessOrder where
  field := "Type"
  members := [.concurrent, .sequential]
  spelling
    | .concurrent => "Concurrent"
    | .sequential => "Sequential"

/-- How a signal moves between cores. -/
inductive Transport
  | sharedMemory
  | vring
  | ethernet
deriving DecidableEq, Repr

instance : Attribute Transport where
  field := "Impl_Approach"
  members := [.sharedMemory, .vring, .ethernet]
  spelling
    | .sharedMemory => "SharedMemory"
    | .vring => "VRING"
    | .ethernet => "IpcOvEth"

/-- The integrity check of a signal's payload. -/
inductive Checksum
  | absent
  | additive
  | custom
deriving DecidableEq, Repr

instance : Attribute Checksum where
  field := "Checksum"
  members := [.absent, .additive, .custom]
  spelling
    | .absent => "None"
    | .additive => "Additive"
    | .custom => "CustomChecksum"
  ofBlank := some .absent

/-- The safety integrity level of a signal. -/
inductive SafetyLevel
  | qm
  | a
  | b
  | c
  | d
deriving DecidableEq, Repr

instance : Attribute SafetyLevel where
  field := "ASIL"
  members := [.qm, .a, .b, .c, .d]
  spelling
    | .qm => "QM"
    | .a => "A"
    | .b => "B"
    | .c => "C"
    | .d => "D"

/-- How the storage of a signal is initialised. -/
inductive Initial
  | zeroMemory
  | custom
deriving DecidableEq, Repr

instance : Attribute Initial where
  field := "InitValue"
  members := [.zeroMemory, .custom]
  spelling
    | .zeroMemory => "ZeroMemory"
    | .custom => "Custom"

/-- The operating systems that an editor offers for a core; any other text is accepted too. -/
def knownSystems : List String :=
  ["Autosar", "QNX", "FreeRTOS", "SafeRTOS", "TI-RTOS", "Linux", "Windows", "Unknown"]

/-- The vendor families that an editor offers for a core; any other text is accepted too. -/
def knownFamilies : List String :=
  ["TI", "Tricore", "NXP", "Intel", "AMD", "Infineon", "Qualcomm", "NVIDIA", "Raspberry Pi",
    "Unknown"]

def knownBuilds : List String := ["SMP", "MultiImage", "Simulation"]

/-- Reads a yes or no; nothing if the text is neither. -/
def flag? (text : String) : Option Bool :=
  let word := Text.lowered (Text.trimmed text)
  if ["yes", "true", "y", "1"].contains word then some true
  else if ["no", "false", "n", "0", ""].contains word then some false
  else none

end SignalCatalog
