import SignalCatalog.Exchange.Layout
import SignalCatalog.Project
import SignalCatalog.Workbook.Writer

/-!
# From a project to its exchange workbook

Headers in the first row, then one row for the version and the selections, one for each core and one
for each signal. The sheet of the platform has the name that the project gives it.
-/

namespace SignalCatalog.Project

open Exchange

def versionSheet (project : Project) : Sheet :=
  let data := project.metadata
  ((Sheet.new Exchange.versionSheet).setRow 0 0 (VersionColumn.all.map .text)).setRow 1 0
    [.text data.version, .text data.date.text, .text data.editor, .text data.description]

/-- The cells of a core. -/
def coreCells (id : CoreId) (core : Core) : List Cell :=
  [.text id.soc, .text id.core, .text core.role, .yesNo core.isQnx, .yesNo core.isAutosar,
    .yesNo core.isSim, .text core.os, .text core.socFamily, .text core.description]

/-- Every core with its identifier, in file order. -/
def coreEntries (project : Project) : List (CoreId × Core) :=
  project.cores.entries.flatMap fun (soc, cores) =>
    cores.entries.map fun (name, core) => (⟨soc, name⟩, core)

/-- Writes rows below one another from a row on. -/
def setRows (sheet : Sheet) (row column : Nat) : List (List Cell) → Sheet
  | [] => sheet
  | cells :: rest => setRows (sheet.setRow row column cells) (row + 1) column rest

def platformSheet (project : Project) : Sheet :=
  let sheet := setRows (.new project.exportSheet) 0 0
    [[.text PlatformColumn.socType, .text PlatformColumn.buildType],
      [.text project.socType, .text project.buildType]]
  setRows sheet 0 PlatformColumn.coreTable <|
    PlatformColumn.cores.map .text ::
      project.coreEntries.map fun (id, core) => coreCells id core

def word32 (n : UInt32) : Cell := .number (.ofNat n.toNat)

/-- The cells of the fixed columns. -/
def signalCells (name : String) (signal : Signal) : List Cell :=
  [.text name, .text signal.portName, .text (Attribute.spelling signal.memoryRegion),
    word32 signal.bufferCount, .text (Attribute.spelling signal.accessOrder),
    .text (Attribute.spelling signal.initial), .yesNo signal.notifiers, .text signal.source,
    .text (Attribute.spelling signal.transport), .yesNo signal.getObjRef,
    word32 signal.sharedBuffers, word32 signal.timeout, word32 signal.periodicity,
    .text (Attribute.spelling signal.safetyLevel), .text (Attribute.spelling signal.checksum),
    .text signal.dataType.text, .text signal.description]

def signalSheet (project : Project) : Sheet :=
  let cores := project.availableCores.map CoreId.text
  setRows (.new Exchange.signalSheet) 0 0 <|
    (SignalColumn.fixed ++ cores).map .text ::
      project.signals.entries.map fun (name, signal) =>
        signalCells name signal ++ cores.map fun core => .yesNo (signal.isDestination core)

/-- The exchange workbook of a project. -/
def workbook (project : Project) : Workbook :=
  ⟨[project.versionSheet, project.platformSheet, project.signalSheet]⟩

end SignalCatalog.Project
