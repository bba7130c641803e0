import SignalCatalog.Exchange.Export
import SignalCatalog.Proofs.Workbook.Cells

/-!
# The cells of the exchange workbook

Where each header and each value of a project stands in the three sheets.
-/

namespace SignalCatalog.Project

open Exchange

/-- The cell at a place of a list of rows. -/
def tableCell? (rows : List (List Cell)) (r c : Nat) : Option Cell :=
  rows[r]?.bind fun cells => cells[c]?

theorem cell_setRows (sheet : Sheet) (row column : Nat) (rows : List (List Cell)) (r c : Nat) :
    (setRows sheet row column rows).cell r c =
      (if row ≤ r ∧ column ≤ c then tableCell? rows (r - row) (c - column) else none).getD
        (sheet.cell r c) := by
  induction rows generalizing sheet row with
  | nil => simp [setRows, tableCell?]
  | cons cells rest ih =>
    rw [setRows, ih, Sheet.cell_setRow]
    rcases Nat.lt_trichotomy r row with hr | hr | hr
    · have h₁ : ¬ row + 1 ≤ r := by omega
      have h₂ : ¬ row ≤ r := by omega
      simp [h₁, h₂, Nat.ne_of_lt hr]
    · have h₁ : ¬ row + 1 ≤ row := by omega
      simp [hr, h₁, tableCell?]
    · have h₁ : row + 1 ≤ r := hr
      have h₂ : row ≤ r := by omega
      have h₃ : r - row = (r - (row + 1)) + 1 := by omega
      simp [h₁, h₂, h₃, Nat.ne_of_gt hr, tableCell?]

theorem name_setRows (sheet : Sheet) (row column : Nat) (rows : List (List Cell)) :
    (setRows sheet row column rows).name = sheet.name := by
  induction rows generalizing sheet row with
  | nil => rfl
  | cons cells rest ih => rw [setRows, ih, Sheet.name_setRow]

variable (project : Project)

theorem cell_versionSheet_header (c : Nat) :
    project.versionSheet.cell 0 c = (VersionColumn.all.map Cell.text)[c]?.getD .empty := by
  simp [versionSheet, Sheet.cell_setRow, Sheet.cell_new]

/-- The cells of the version. -/
def versionCells (metadata : Metadata) : List Cell :=
  [.text metadata.version, .text metadata.date.text, .text metadata.editor,
    .text metadata.description]

theorem cell_versionSheet_first (c : Nat) :
    project.versionSheet.cell 1 c = (versionCells project.metadata)[c]?.getD .empty := by
  simp [versionSheet, versionCells, Sheet.cell_setRow, Sheet.cell_new]

/-- The headers of the platform sheet: the selections, a gap and the table of cores. -/
def platformHeader : List Cell :=
  [.text PlatformColumn.socType, .text PlatformColumn.buildType, .empty, .empty] ++
    PlatformColumn.cores.map .text

theorem cell_platformSheet_header (c : Nat) :
    project.platformSheet.cell 0 c = platformHeader[c]?.getD .empty := by
  simp only [platformSheet, cell_setRows, Sheet.cell_new, PlatformColumn.coreTable]
  rcases c with _ | _ | _ | _ | c
  · rfl
  · rfl
  · rfl
  · rfl
  · simp [tableCell?, platformHeader]

theorem cell_platformSheet_soc : project.platformSheet.cell 1 0 = .text project.socType := by
  simp [platformSheet, cell_setRows, tableCell?, PlatformColumn.coreTable]

theorem cell_platformSheet_build : project.platformSheet.cell 1 1 = .text project.buildType := by
  simp [platformSheet, cell_setRows, tableCell?, PlatformColumn.coreTable]

/-- The table of cores stands below its headers, one core in a row. -/
theorem cell_platformSheet_core (i k : Nat) :
    project.platformSheet.cell (i + 1) (4 + k) =
      ((project.coreEntries[i]?.map fun entry => coreCells entry.1 entry.2).bind
        fun cells => cells[k]?).getD .empty := by
  have hselections : tableCell? [[.text PlatformColumn.socType, .text PlatformColumn.buildType],
      [.text project.socType, .text project.buildType]] (i + 1) (4 + k) = none := by
    rcases i with _ | i
    · simp only [tableCell?, List.getElem?_cons_succ, List.getElem?_cons_zero, Option.bind_some]
      apply List.getElem?_eq_none
      simp only [List.length_cons, List.length_nil]
      omega
    · simp [tableCell?]
  simp only [platformSheet, cell_setRows, Sheet.cell_new, PlatformColumn.coreTable, Nat.sub_zero,
    hselections]
  simp [tableCell?]

/-- The rows of the signal sheet. -/
def signalRows : List (List Cell) :=
  (SignalColumn.fixed ++ project.availableCores.map CoreId.text).map .text ::
    project.signals.entries.map fun (name, signal) =>
      signalCells name signal ++
        project.availableCores.map fun core => .yesNo (signal.isDestination core.text)

theorem cell_signalSheet (r c : Nat) :
    project.signalSheet.cell r c = (tableCell? project.signalRows r c).getD .empty := by
  have hrows : project.signalSheet = setRows (.new Exchange.signalSheet) 0 0 project.signalRows := by
    simp [signalSheet, signalRows, Function.comp_def]
  simp [hrows, cell_setRows, Sheet.cell_new]

end SignalCatalog.Project
