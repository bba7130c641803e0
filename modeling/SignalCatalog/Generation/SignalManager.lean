import SignalCatalog.Project

/-!
# Generated code

For each signal the source file holds one static variable, a function that returns it and one that
sets it, and the header declares the two functions. A project is refused at its first signal that has
no C identifier for a name or no initial value.
-/

namespace SignalCatalog

/-- What makes a project unfit for generation. -/
inductive SlotError
  | notIdentifier (name : String)
  | noInitialValue (name : String)
deriving DecidableEq, Repr

def SlotError.message : SlotError → String
  | notIdentifier name => "signal name '" ++ name ++ "' is not a valid C identifier"
  | noInitialValue name =>
    "signal '" ++ name ++ "' uses a custom initial value but none is set"

/-- A signal as it appears in code. -/
structure Slot where
  name : String
  type : String
  initial : String
deriving DecidableEq, Repr

namespace Slot

def of (name : String) (signal : Signal) : Except SlotError Slot :=
  if !Text.isIdentifier name then .error (.notIdentifier name)
  else match signal.initialCode? with
    | some initial => .ok ⟨name, signal.dataType.code, initial⟩
    | none => .error (.noInitialValue name)

/-- The slots of a catalog, or the fault of its first unfit signal. -/
def ofEntries : List (String × Signal) → Except SlotError (List Slot)
  | [] => .ok []
  | (name, signal) :: rest =>
    match of name signal with
    | .error fault => .error fault
    | .ok slot =>
      match ofEntries rest with
      | .error fault => .error fault
      | .ok slots => .ok (slot :: slots)

def getter (slot : Slot) : String := slot.type ++ " get_" ++ slot.name ++ "(void)"

def setter (slot : Slot) : String := "void set_" ++ slot.name ++ "(" ++ slot.type ++ " value)"

/-- The lines of the variable and the functions of a slot. -/
def definition (slot : Slot) : List String :=
  ["", "static " ++ slot.type ++ " " ++ slot.name ++ "_value = " ++ slot.initial ++ ";",
    slot.getter, "\x7b", "    return " ++ slot.name ++ "_value;", "\x7d",
    slot.setter, "\x7b", "    " ++ slot.name ++ "_value = value;", "\x7d"]

/-- The lines of the declarations of a slot. -/
def prototypes (slot : Slot) : List String := [slot.getter ++ ";", slot.setter ++ ";"]

/-- The names that a slot defines for the whole file. -/
def identifiers (slot : Slot) : List String :=
  [slot.name ++ "_value", "get_" ++ slot.name, "set_" ++ slot.name]

end Slot

/-- The type behind the name of a base type. -/
def BaseType.meaning : BaseType → String
  | int8 => "int8_t"
  | uint8 | boolean => "uint8_t"
  | int16 => "int16_t"
  | uint16 => "uint16_t"
  | int32 => "int32_t"
  | uint32 => "uint32_t"
  | int64 => "int64_t"
  | uint64 => "uint64_t"
  | float32 => "float"
  | float64 => "double"
  | char => "char"
  | string => "const char *"

namespace SignalManager

def sourceFile : String := "signal_mgr.c"

def headerFile : String := "signal_mgr.h"

def sourceBanner : List String :=
  ["/* Auto-generated Signal Manager Code */", "#include <stdio.h>", "#include <stdlib.h>",
    "#include \"signal_mgr.h\""]

def headerBanner : List String :=
  ["/* Auto-generated Signal Manager Header */", "#ifndef SIGNAL_MGR_H", "#define SIGNAL_MGR_H",
    "", "#include <stdint.h>", "", "/* Base type definitions */"]

/-- The definition of a base type; a pointer's star stands at the name. -/
def typeLine (base : BaseType) : String :=
  "typedef " ++ base.meaning ++ (if base = .string then "" else " ") ++ base.token ++ ";"

/-- A text of lines that each end in a line break. -/
def lines (list : List String) : String := String.join (list.map (· ++ "\n"))

def slots (project : Project) : Except SlotError (List Slot) :=
  Slot.ofEntries project.signals.entries

/-- The lines of the source file. -/
def sourceLines (project : Project) : Except SlotError (List String) :=
  (slots project).map fun slots => sourceBanner ++ slots.flatMap Slot.definition

/-- The lines of the header. -/
def headerLines (project : Project) : Except SlotError (List String) :=
  (slots project).map fun slots =>
    headerBanner ++ BaseType.all.map typeLine ++ ["", "/* Signal accessors */"] ++
      slots.flatMap Slot.prototypes ++ ["", "#endif /* SIGNAL_MGR_H */"]

def source (project : Project) : Except SlotError String := (sourceLines project).map lines

def header (project : Project) : Except SlotError String := (headerLines project).map lines

end SignalManager

end SignalCatalog
