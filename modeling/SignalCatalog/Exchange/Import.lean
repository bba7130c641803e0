import SignalCatalog.Calendar.Reading
import SignalCatalog.Exchange.Finding
import SignalCatalog.Exchange.Layout
import SignalCatalog.Project
import SignalCatalog.Workbook.Reader

/-!
# From an exchange workbook to a project

The three sheets are read independently, each by the headers of its columns, and each into a value of
its own with the findings on the way. A blank cell leaves the default, a value that makes no sense
leaves the default and is reported, a number out of range is moved to the nearest allowed one. In the
end the sources are repaired, so that every source names a core and no source is a destination.
-/

namespace SignalCatalog.Exchange

/-- The sheets of a workbook by name, or what is wrong with each. -/
abbrev SheetResults := List (String × Except PartError Sheet)

/-- The sheet of a name, if it is there and readable. -/
def take (results : SheetResults) (name : String) : Option Sheet × List Finding :=
  match Entries.get? name results with
  | none => (none, [])
  | some (.ok sheet) => (some sheet, [])
  | some (.error error) => (none, [⟨name, none, .unreadableSheet error⟩])

/-! ## The version sheet -/

/-- The headers of a sheet with their columns; of equal headers the first counts. -/
abbrev Titles := List (String × Nat)

/-- The cell of a row under a header. -/
def cellUnder (titles : Titles) (row : Row) (title : String) : Cell :=
  match Entries.get? title titles with
  | some column => Row.cell row column
  | none => .empty

def textUnder? (titles : Titles) (row : Row) (title : String) : Option String :=
  (cellUnder titles row title).text?

/-- The row behind the headers. -/
def firstRow (sheet : Sheet) : Row := sheet.rows[1]?.getD #[]

/-- The date of a cell; a number counts days. -/
def dateOf? : Cell → Option Date
  | .number serial => Date.ofSerial? serial
  | cell => cell.text?.bind Calendar.readDate?

/-- The description of an import that gives none. -/
def defaultDescription : String := "Imported from Excel"

def readDateCell (today : Date) (cell : Cell) : Date × List FindingCause :=
  match dateOf? cell with
  | some date => (date, [])
  | none => (today, if cell.isBlank then [] else [.unreadableDate (cell.text?.getD "")])

def readVersion (today : Date) : Option Sheet → Metadata × List Finding
  | none => ({ Metadata.new today with description := defaultDescription }, [])
  | some sheet =>
    let titles := sheet.titles
    let text := textUnder? titles (firstRow sheet)
    let (date, causes) := readDateCell today (cellUnder titles (firstRow sheet) VersionColumn.date)
    let editor := (text VersionColumn.editor).or (text VersionColumn.editorAlias)
    let description := VersionColumn.descriptionAliases.findSome? text
    (⟨(text VersionColumn.version).getD defaultVersion, date, editor.getD "",
      description.getD defaultDescription, .empty⟩,
      causes.map fun cause => ⟨sheet.name, some 2, cause⟩)

/-! ## The platform sheet -/

/-- What the platform sheet says; a selection that it does not make is empty. -/
structure Platform where
  socType : String
  buildType : String
  socList : List String
  buildList : List String
  cores : OrderedMap (OrderedMap Core)
  sheetName : String

def Platform.empty : Platform := ⟨"", "", [], [], .empty, defaultExportSheet⟩

/-- `Config` if there is such a sheet, else the first sheet that is none of the other two. -/
def platformSheet? (results : SheetResults) : Option String :=
  let names := Entries.keys results
  if names.contains defaultExportSheet then some defaultExportSheet
  else names.find? fun name => name != versionSheet && name != signalSheet

def isWord (word : String) (text : Option String) : Bool :=
  match text with
  | some text => Text.sameIgnoringCase text word
  | none => false

def readCore (text : String → Option String) : Core where
  description := (text PlatformColumn.description).getD ""
  isMaster := isWord "master" (text PlatformColumn.role)
  isQnx := isWord "yes" (text PlatformColumn.isQnx)
  isAutosar := isWord "yes" (text PlatformColumn.isAutosar)
  isSim := isWord "yes" (text PlatformColumn.isSim)
  os := (text PlatformColumn.os).getD unknownWord
  socFamily := (text PlatformColumn.socFamily).getD unknownWord
  extra := .empty

/-- Adds a core; one of the same name is replaced in its place. -/
def Platform.addCore (platform : Platform) (id : CoreId) (core : Core) : Platform :=
  let cores := (platform.cores.get? id.soc).getD .empty
  { platform with
    socList := Project.listed platform.socList id.soc
    cores := platform.cores.insert id.soc (cores.insert id.core core) }

/-- The identifier of the core in a row, if both halves are given. -/
def coreIdOf? (text : String → Option String) : Option CoreId :=
  match text PlatformColumn.soc, text PlatformColumn.core with
  | some soc, some core => some ⟨soc, core⟩
  | _, _ => none

def Platform.addRow (titles : Titles) (platform : Platform) (row : Row) : Platform :=
  let text := textUnder? titles row
  match coreIdOf? text with
  | some id => platform.addCore id (readCore text)
  | none => platform

def readPlatform : Option Sheet → Platform
  | none => .empty
  | some sheet =>
    let titles := sheet.titles
    let socType := textUnder? titles (firstRow sheet) PlatformColumn.socType
    let buildType := textUnder? titles (firstRow sheet) PlatformColumn.buildType
    sheet.body.foldl (fun platform row => platform.addRow titles row.1)
      ⟨socType.getD "", buildType.getD "", socType.toList, buildType.toList, .empty, sheet.name⟩

/-! ## The signal sheet -/

/-- The columns of the signal sheet. -/
structure Columns where
  titles : Titles
  /-- The destination keys with their columns. -/
  destinations : List (String × Nat)

/-- The headers that have not occurred before. -/
def firstTitles (seen : List String) : Titles → Titles
  | [] => []
  | (title, column) :: rest =>
    if title ∈ seen then firstTitles seen rest
    else (title, column) :: firstTitles (title :: seen) rest

/-- Every header that is no fixed one is a destination. -/
def Columns.of (titles : Titles) : Columns :=
  ⟨titles, (firstTitles [] titles).filterMap fun (title, column) =>
    if SignalColumn.fixed.contains title then none else some (destinationKey title, column)⟩

/-- A row of the signal sheet with its number, counted from one. -/
structure SignalRow where
  name : String
  number : Nat
  cells : Row

/-- The rows that have a name. -/
def namedRows (sheet : Sheet) (nameColumn : Nat) : List SignalRow :=
  sheet.body.filterMap fun (cells, index) =>
    (Row.cell cells nameColumn).text?.map fun name => ⟨name, index + 1, cells⟩

namespace SignalRow

def cell (row : SignalRow) (columns : Columns) (title : String) : Cell :=
  cellUnder columns.titles row.cells title

def text? (row : SignalRow) (columns : Columns) (title : String) : Option String :=
  (row.cell columns title).text?

/-- A value of a closed set and what is wrong with its cell. -/
def choice {α : Type} [Attribute α] (row : SignalRow) (columns : Columns) (default : α) :
    α × List FindingCause :=
  match row.text? columns (Attribute.field α) with
  | none => (default, [])
  | some raw =>
    match (Attribute.read raw : Except ValueError α) with
    | .ok value => (value, [])
    | .error error => (default, [.noMember error])

def readType (row : SignalRow) (columns : Columns) : DataType × List FindingCause :=
  match row.text? columns SignalColumn.dataType with
  | none => (.default, [])
  | some raw =>
    match DataType.read raw with
    | .ok type => (type, if type.isStruct then [.structWithoutMembers row.name] else [])
    | .error error => (.default, [.noMember error])

/-- A number in its range and what is wrong with its cell. -/
def ranged (row : SignalRow) (columns : Columns) (range : FieldRange) :
    UInt32 × List FindingCause :=
  let cell := row.cell columns range.field
  if cell.isBlank then (range.min, [])
  else match cell.number? with
    | none => (range.min, [.noNumber range.field (cell.text?.getD "") range.min])
    | some number =>
      let used := range.clamp number
      if number.sameNumber (.ofNat used.toNat) then (used, [])
      else (used, [.adjusted range.field (number.text Binary64.plainLayout) used])

/-- The destination flags of a row; of two headers with one key the last counts. -/
def destinations (row : SignalRow) (columns : Columns) : OrderedMap Bool :=
  .ofPairs <| columns.destinations.map fun (key, column) =>
    (key, isWord "yes" (Row.cell row.cells column).text?)

/-- The description of an imported signal that has none. -/
def defaultDescription : String := "Imported signal"

/-- The signal of a row and what is wrong with its cells. -/
def read (row : SignalRow) (columns : Columns) : Signal × List FindingCause :=
  let text := row.text? columns
  let (memoryRegion, f₁) := row.choice columns MemoryRegion.ddr
  let (accessOrder, f₂) := row.choice columns AccessOrder.concurrent
  let (initial, f₃) := row.choice columns Initial.zeroMemory
  let (transport, f₄) := row.choice columns Transport.sharedMemory
  let (safetyLevel, f₅) := row.choice columns SafetyLevel.qm
  let (checksum, f₆) := row.choice columns Checksum.absent
  let (dataType, f₇) := row.readType columns
  let (bufferCount, f₈) := row.ranged columns .bufferCount
  let (sharedBuffers, f₉) := row.ranged columns .sharedBuffers
  let (timeout, f₁₀) := row.ranged columns .timeout
  let (periodicity, f₁₁) := row.ranged columns .periodicity
  ({ Signal.new row.name with
      portName := (text SignalColumn.portName).getD row.name
      description := (text SignalColumn.description).getD defaultDescription
      source := (text SignalColumn.source).getD ""
      notifiers := isWord "yes" (text SignalColumn.notifiers)
      getObjRef := isWord "yes" (text SignalColumn.getObjRef)
      memoryRegion, accessOrder, initial, transport, safetyLevel, checksum, dataType,
      bufferCount, sharedBuffers, timeout, periodicity
      destinations := row.destinations columns },
    f₁ ++ f₂ ++ f₃ ++ f₄ ++ f₅ ++ f₆ ++ f₇ ++ f₈ ++ f₉ ++ f₁₀ ++ f₁₁)

end SignalRow

/-- The signals of rows; a row whose name has been seen is only reported. -/
def readRows (sheetName : String) (columns : Columns) (seen : List String) :
    List SignalRow → List (String × Signal) × List Finding
  | [] => ([], [])
  | row :: rest =>
    let report (cause : FindingCause) : Finding := ⟨sheetName, some row.number, cause⟩
    if row.name ∈ seen then
      let (signals, findings) := readRows sheetName columns seen rest
      (signals, report (.duplicateSignal row.name) :: findings)
    else
      let (signal, causes) := row.read columns
      let (signals, findings) := readRows sheetName columns (row.name :: seen) rest
      ((row.name, signal) :: signals, causes.map report ++ findings)

def readSignals : Option Sheet → OrderedMap Signal × List Finding
  | none => (.empty, [])
  | some sheet =>
    let titles := sheet.titles
    match Entries.get? SignalColumn.name titles with
    | none => (.empty, [⟨sheet.name, none, .missingColumn SignalColumn.name⟩])
    | some column =>
      let (signals, findings) :=
        readRows sheet.name (.of titles) [] (namedRows sheet column)
      (.ofPairs signals, findings)

/-! ## The project -/

/-- A signal with a source that is a core and no destination, and what was wrong with it. -/
def repairSource (cores : List CoreId) (name : String) (signal : Signal) :
    Signal × List FindingCause :=
  if signal.source.isEmpty then (signal, [])
  else match signal.sourceId?.filter fun id => cores.contains id with
    | none => ({ signal with source := "" }, [.unknownSource name signal.source])
    | some id =>
      if (signal.destinations.get? id.destinationKey).getD false then
        ({ signal with destinations := signal.destinations.insert id.destinationKey false },
          [.sourceAmongDestinations name id.text])
      else (signal, [])

/-- The text, or another one if it is empty. -/
def orElse (text other : String) : String := if text.isEmpty then other else text

/-- The project of what the three sheets say, with selections where they make none. -/
def assemble (metadata : Metadata) (platform : Platform) (signals : OrderedMap Signal) : Project :=
  Project.normalize
    { Project.template metadata.date with
      metadata, signals
      socType := orElse platform.socType (platform.socList.head?.getD defaultSoc)
      buildType := orElse platform.buildType defaultBuild
      socList := platform.socList
      buildList := platform.buildList
      cores := platform.cores
      exportSheet := platform.sheetName }

/-- Repairs the sources of all signals; these findings belong to no row. -/
def repairSources (project : Project) : Project × List Finding :=
  let cores := project.availableCores
  ({ project with
      signals := project.signals.mapValues fun name signal => (repairSource cores name signal).1 },
    project.signals.entries.flatMap fun (name, signal) =>
      (repairSource cores name signal).2.map fun cause => ⟨signalSheet, none, cause⟩)

/-- The sheets as three, and what was found in reading them. -/
def takeSheets (results : SheetResults) : (Option Sheet × List Finding) ×
    (Option Sheet × List Finding) × (Option Sheet × List Finding) :=
  (take results versionSheet,
    match platformSheet? results with
    | some name => take results name
    | none => (none, []),
    take results signalSheet)

/-- The project of a workbook and the findings, or only the findings if there is neither a selection
nor a signal. -/
def importSheets (today : Date) (results : SheetResults) :
    Except (List Finding) (Project × List Finding) :=
  let ((version, f₁), (config, f₂), (table, f₃)) := takeSheets results
  let (metadata, found₁) := readVersion today version
  let platform := readPlatform config
  let (signals, found₃) := readSignals table
  let findings := f₁ ++ found₁ ++ f₂ ++ f₃ ++ found₃
  if platform.socType.isEmpty && signals.isEmpty then .error findings
  else
    let (project, repairs) := repairSources (assemble metadata platform signals)
    .ok (project, findings ++ repairs)

/-- Imports the sheets of an archive. -/
def importArchive (today : Date) (archive : Archive) :
    Except WorkbookError (Project × List Finding) :=
  match archive.sheets with
  | .error error => .error (.part error)
  | .ok results =>
    match importSheets today results with
    | .error findings => .error (.noData findings)
    | .ok outcome => .ok outcome

/-- Imports an archive. The warnings of the findings are reported also if there is no data. -/
def importReported (today : Date) (archive : Archive) :
    Log.Reported WorkbookError (Project × List Finding) :=
  match importArchive today archive with
  | .ok (project, findings) => (.ok (project, findings), findings.filterMap Finding.event?)
  | .error (.noData findings) => (.error (.noData findings), findings.filterMap Finding.event?)
  | .error error => (.error error, [])

end SignalCatalog.Exchange
