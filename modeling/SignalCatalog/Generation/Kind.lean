import SignalCatalog.Text.Ascii
import SignalCatalog.Text.Blank

/-!
# Generator kinds

The signal manager is generated by the library itself, the two communication managers by scripts that
read the exchange workbook.
-/

namespace SignalCatalog

inductive GeneratorKind
  | signalManager
  | ipcManager
  | ethernetManager
deriving DecidableEq, Repr

namespace GeneratorKind

def all : List GeneratorKind := [signalManager, ipcManager, ethernetManager]

/-- The key of a kind in project files. -/
def key : GeneratorKind → String
  | signalManager => "signal_mgr"
  | ipcManager => "ipc_manager"
  | ethernetManager => "ipc_eth_mgr"

def title : GeneratorKind → String
  | signalManager => "Signal Manager"
  | ipcManager => "IPC Manager"
  | ethernetManager => "IPC over Ethernet Manager"

/-- Where a script is installed if a project names none. -/
def installedScript (kind : GeneratorKind) : String :=
  "/usr/local/bin/" ++ kind.key ++ "_generator.py"

/-- The interface that a script is asked for; nothing for the kind without a script. -/
def interface? : GeneratorKind → Option String
  | signalManager => none
  | ipcManager => some "IPC"
  | ethernetManager => some "IpcOvEth"

def needsScript (kind : GeneratorKind) : Bool := kind.interface?.isSome

/-- Reads a key in any case, with dashes or underscores. -/
def ofText? (text : String) : Option GeneratorKind :=
  let word := (Text.lower (Text.trim text.toList)).map fun c => if c = '-' then '_' else c
  all.find? fun kind => kind.key == String.ofList word

/-- The words for a text that is no kind. -/
def unknown (text : String) : String :=
  "unknown generator kind '" ++ text ++
    "' (expected signal_mgr, ipc_manager or ipc_eth_mgr)"

end GeneratorKind

end SignalCatalog
