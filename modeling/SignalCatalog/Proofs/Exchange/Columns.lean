import Mathlib.Data.List.Perm.Basic
import Mathlib.Logic.Equiv.Basic
import SignalCatalog.Proofs.Exchange.Rows

/-!
# The order of columns

Everything is read by the titles of the columns. So when the columns of a sheet are put in another
order, header and cells together, the same stands under every title, and the same is imported, as long
as no title occurs twice. Only the destinations of a signal are listed in the order of their columns;
they are the same entries in another order, as long as no two of their titles have one key. What is
found wrong is found in the same rows and in the same order.
-/

namespace SignalCatalog

namespace OrderedMap

variable {α : Type} {map other : OrderedMap α}

theorem mem_entries_iff {key : String} {value : α} :
    (key, value) ∈ map.entries ↔ map.get? key = some value :=
  ⟨Entries.get?_of_mem map.nodup, Entries.mem_of_get?⟩

/-- Two maps have the same entries in some order if they have the same value under every key. -/
theorem perm_iff_get? : map.entries.Perm other.entries ↔ ∀ key, map.get? key = other.get? key := by
  have hnodup : ∀ map : OrderedMap α, map.entries.Nodup := fun map => List.Nodup.of_map _ map.nodup
  rw [List.perm_ext_iff_of_nodup (hnodup map) (hnodup other)]
  constructor
  · intro h key
    apply Option.ext
    intro value
    rw [← mem_entries_iff, ← mem_entries_iff, h]
  · rintro h ⟨key, value⟩
    rw [mem_entries_iff, mem_entries_iff, h]

theorem perm_insert (h : map.entries.Perm other.entries) (key : String) (value : α) :
    (map.insert key value).entries.Perm (other.insert key value).entries := by
  rw [perm_iff_get?] at h ⊢
  intro k
  rw [get?_insert, get?_insert, h]

end OrderedMap

namespace Sheet

/-! ## Titles -/

theorem mem_titles {sheet : Sheet} {title : String} {column : Nat} :
    (title, column) ∈ sheet.titles ↔ (sheet.cell 0 column).text? = some title := by
  have hcell : sheet.cell 0 column = sheet.header.toList[column]?.getD .empty := by
    rw [← cell_row]
    simp [header, row, Row.cell]
  simp only [titles, List.mem_filterMap, List.mem_zipIdx_iff_getElem?, Prod.exists,
    Option.map_eq_some_iff, Prod.mk.injEq, hcell]
  constructor
  · rintro ⟨cell, _, hheader, _, htext, rfl, rfl⟩
    rw [hheader]
    exact htext
  · intro htext
    cases hheader : sheet.header.toList[column]? with
    | none => simp [hheader, Cell.text?] at htext
    | some cell =>
      rw [hheader] at htext
      exact ⟨cell, column, hheader, title, htext, rfl, rfl⟩

theorem nodup_titles (sheet : Sheet) : sheet.titles.Nodup := by
  have hcolumns : sheet.header.toList.zipIdx.Pairwise fun entry other => entry.2 ≠ other.2 := by
    rw [← List.pairwise_map (R := fun column other : Nat => column ≠ other), List.zipIdx_map_snd]
    exact List.nodup_range'
  refine hcolumns.filterMap _ ?_
  rintro ⟨_, column⟩ ⟨_, other⟩ hne entry hentry entry' hentry' rfl
  obtain ⟨_, _, rfl⟩ := Option.map_eq_some_iff.mp hentry
  obtain ⟨_, _, hsame⟩ := Option.map_eq_some_iff.mp hentry'
  exact hne (congrArg Prod.snd hsame).symm

/-- The columns of the second sheet are those of the first one, put in other places. -/
structure RearrangedBy (place : Equiv.Perm Nat) (first second : Sheet) : Prop where
  name : first.name = second.name
  cell : ∀ row column, second.cell row (place column) = first.cell row column

/-- The second sheet is the first one with its columns in another order. -/
def Rearranged (first second : Sheet) : Prop := ∃ place, RearrangedBy place first second

variable {first second : Sheet} {place : Equiv.Perm Nat}

namespace RearrangedBy

theorem row (h : RearrangedBy place first second) (r column : Nat) :
    Row.cell (second.row r) (place column) = Row.cell (first.row r) column := by
  rw [cell_row, cell_row, h.cell]

theorem titles (h : RearrangedBy place first second) :
    second.titles.Perm (first.titles.map fun entry => (entry.1, place entry.2)) := by
  have hinjective : Function.Injective fun entry : String × Nat => (entry.1, place entry.2) := by
    rintro ⟨title, column⟩ ⟨title', column'⟩ hsame
    simpa using hsame
  rw [List.perm_ext_iff_of_nodup second.nodup_titles (first.nodup_titles.map hinjective)]
  rintro ⟨title, column⟩
  obtain ⟨column, rfl⟩ := place.surjective column
  rw [mem_titles, h.cell, ← mem_titles, List.mem_map]
  constructor
  · exact fun hmem => ⟨_, hmem, rfl⟩
  · rintro ⟨⟨_, other⟩, hmem, hsame⟩
    obtain ⟨rfl, hcolumn⟩ := Prod.mk.inj hsame
    exact place.injective hcolumn ▸ hmem

theorem keys (h : RearrangedBy place first second) :
    (Entries.keys second.titles).Perm (Entries.keys first.titles) := by
  have hkeys := h.titles.map Prod.fst
  rw [List.map_map] at hkeys
  exact hkeys

end RearrangedBy

end Sheet

namespace Exchange

variable {first second : Sheet} {place : Equiv.Perm Nat}

/-- A title that occurs once is found in its new place. -/
theorem get?_titles (h : Sheet.RearrangedBy place first second)
    (hdistinct : (Entries.keys first.titles).Nodup) (title : String) :
    Entries.get? title second.titles = (Entries.get? title first.titles).map place := by
  have hdistinct' : (Entries.keys second.titles).Nodup := h.keys.nodup_iff.mpr hdistinct
  cases hfirst : Entries.get? title first.titles with
  | none =>
    rw [Entries.get?_eq_none_iff] at hfirst
    exact Entries.get?_eq_none_iff.mpr fun hmem => hfirst (h.keys.mem_iff.mp hmem)
  | some column =>
    apply Entries.get?_of_mem hdistinct'
    rw [h.titles.mem_iff]
    exact List.mem_map_of_mem (f := fun entry : String × Nat => (entry.1, place entry.2))
      (Entries.mem_of_get? hfirst)

theorem sameUnder_of_rearranged (h : Sheet.RearrangedBy place first second)
    (hdistinct : (Entries.keys first.titles).Nodup) : SameUnder first second where
  name := h.name
  cells r := by
    funext title
    rw [cellUnder, cellUnder, get?_titles h hdistinct]
    cases Entries.get? title first.titles with
    | none => rfl
    | some column => exact (h.row r column).symm

/-! ## Destinations -/

theorem firstTitles_of_nodup {titles : Titles} {seen : List String}
    (hdistinct : (Entries.keys titles).Nodup) (hseen : ∀ title ∈ Entries.keys titles, title ∉ seen) :
    firstTitles seen titles = titles := by
  induction titles generalizing seen with
  | nil => rfl
  | cons entry rest ih =>
    obtain ⟨title, column⟩ := entry
    obtain ⟨hfresh, hrest⟩ := List.nodup_cons.mp hdistinct
    obtain ⟨hnew, hothers⟩ := List.forall_mem_cons.mp hseen
    rw [firstTitles, if_neg hnew, ih hrest]
    intro other hother
    rw [List.mem_cons, not_or]
    exact ⟨fun hsame => hfresh (hsame ▸ hother), hothers other hother⟩

def isDestination (entry : String × Nat) : Bool := !SignalColumn.fixed.contains entry.1

/-- The titles of a signal sheet that are those of destinations. -/
def destinationTitles (titles : Titles) : List String := Entries.keys (titles.filter isDestination)

theorem destinations_of {titles : Titles} (hdistinct : (Entries.keys titles).Nodup) :
    (Columns.of titles).destinations =
      (titles.filter isDestination).map fun entry => (destinationKey entry.1, entry.2) := by
  rw [Columns.of, firstTitles_of_nodup hdistinct (by simp), ← List.filterMap_eq_map,
    List.filterMap_filter]
  apply List.filterMap_congr
  rintro ⟨title, column⟩ _
  cases SignalColumn.fixed.contains title <;> simp [isDestination]

/-- Destinations with distinct keys are listed as their columns stand. -/
theorem entries_destinations {titles : Titles} (hdistinct : (Entries.keys titles).Nodup)
    (hkeys : ((destinationTitles titles).map destinationKey).Nodup) (row : SignalRow) :
    (row.destinations (.of titles)).entries = (titles.filter isDestination).map fun entry =>
      (destinationKey entry.1, isWord "yes" (Row.cell row.cells entry.2).text?) := by
  rw [SignalRow.destinations, OrderedMap.entries_ofPairs, destinations_of hdistinct, List.map_map]
  apply Entries.ofPairs_of_nodup
  rw [Entries.keys, List.map_map]
  rwa [destinationTitles, Entries.keys, List.map_map] at hkeys

theorem perm_destinationTitles (h : Sheet.RearrangedBy place first second) :
    (second.titles.filter isDestination).Perm
      ((first.titles.filter isDestination).map fun entry => (entry.1, place entry.2)) := by
  have hfilter := h.titles.filter isDestination
  rwa [List.filter_map] at hfilter

theorem perm_destinations (h : Sheet.RearrangedBy place first second)
    (hdistinct : (Entries.keys first.titles).Nodup)
    (hkeys : ((destinationTitles first.titles).map destinationKey).Nodup) {row other : SignalRow}
    (hcells : ∀ column, Row.cell other.cells (place column) = Row.cell row.cells column) :
    (row.destinations (.of first.titles)).entries.Perm
      (other.destinations (.of second.titles)).entries := by
  have hperm := perm_destinationTitles h
  have hdistinct' : (Entries.keys second.titles).Nodup := h.keys.nodup_iff.mpr hdistinct
  have hkeys' : ((destinationTitles second.titles).map destinationKey).Nodup := by
    have htitles : (destinationTitles second.titles).Perm (destinationTitles first.titles) := by
      have hmapped := hperm.map Prod.fst
      rwa [List.map_map] at hmapped
    exact (htitles.map destinationKey).nodup_iff.mpr hkeys
  rw [entries_destinations hdistinct hkeys, entries_destinations hdistinct' hkeys']
  refine List.Perm.symm ((hperm.map _).trans ?_)
  rw [List.map_map]
  refine List.Perm.of_eq (List.map_congr_left fun entry _ => ?_)
  simp only [Function.comp_apply, hcells]

/-! ## Signals -/

/-- Two signals that list the same destinations in different orders. -/
structure SameButOrder (first second : Signal) : Prop where
  values : second = { first with destinations := second.destinations }
  destinations : first.destinations.entries.Perm second.destinations.entries

/-- The same signals in the same order, but for the order of the destinations of each. -/
def SameSignals (entries others : List (String × Signal)) : Prop :=
  List.Forall₂ (fun entry other => entry.1 = other.1 ∧ SameButOrder entry.2 other.2) entries others

theorem SameSignals.isEmpty_eq {signals others : OrderedMap Signal}
    (h : SameSignals signals.entries others.entries) : signals.isEmpty = others.isEmpty := by
  rw [Bool.eq_iff_iff, OrderedMap.isEmpty, OrderedMap.isEmpty, List.isEmpty_iff_length_eq_zero,
    List.isEmpty_iff_length_eq_zero, List.Forall₂.length_eq h]

/-- Two rows from which the same is read, but for the order of the destinations. -/
structure ReadAlike (columns others : Columns) (row other : SignalRow) : Prop where
  name : row.name = other.name
  number : row.number = other.number
  signal : SameButOrder (row.read columns).1 (other.read others).1
  causes : (row.read columns).2 = (other.read others).2

theorem readRows_alike {columns others : Columns} {rows more : List SignalRow}
    (h : List.Forall₂ (ReadAlike columns others) rows more) (sheetName : String)
    (seen : List String) :
    SameSignals (readRows sheetName columns seen rows).1 (readRows sheetName others seen more).1 ∧
    (readRows sheetName columns seen rows).2 = (readRows sheetName others seen more).2 := by
  induction h generalizing seen with
  | nil => exact ⟨.nil, rfl⟩
  | @cons row other rows more hrow _ ih =>
    by_cases hseen : other.name ∈ seen
    · obtain ⟨hsignals, hfindings⟩ := ih seen
      simp only [readRows, hrow.name, hrow.number, if_pos hseen]
      exact ⟨hsignals, by rw [hfindings]⟩
    · obtain ⟨hsignals, hfindings⟩ := ih (other.name :: seen)
      simp only [readRows, hrow.name, hrow.number, if_neg hseen]
      exact ⟨.cons ⟨rfl, hrow.signal⟩ hsignals, by rw [hrow.causes, hfindings]⟩

section Table

variable (hdistinct : (Entries.keys first.titles).Nodup)
  (hkeys : ((destinationTitles first.titles).map destinationKey).Nodup)
include hdistinct hkeys

theorem readAlike_rearranged (h : Sheet.RearrangedBy place first second) (name : String) (i : Nat) :
    ReadAlike (.of first.titles) (.of second.titles) ⟨name, i + 1, first.row i⟩
      ⟨name, i + 1, second.row i⟩ := by
  let row : SignalRow := ⟨name, i + 1, first.row i⟩
  let other : SignalRow := ⟨name, i + 1, second.row i⟩
  have hread : other.read (.of second.titles) =
      ({ (row.read (.of first.titles)).1 with
          destinations := other.destinations (.of second.titles) },
        (row.read (.of first.titles)).2) :=
    SignalRow.read_of_cells rfl ((sameUnder_of_rearranged h hdistinct).cells i)
  refine ⟨rfl, rfl, ⟨?_, ?_⟩, (congrArg Prod.snd hread).symm⟩
  · rw [show (other.read (.of second.titles)).1 = _ from congrArg Prod.fst hread]
  · exact perm_destinations h hdistinct hkeys (h.row i)

theorem readSignals_rearranged (h : first.Rearranged second) :
    SameSignals (readSignals (some first)).1.entries (readSignals (some second)).1.entries ∧
    (readSignals (some first)).2 = (readSignals (some second)).2 := by
  obtain ⟨place, h⟩ := h
  have htitle := get?_titles h hdistinct SignalColumn.name
  cases hcolumn : Entries.get? SignalColumn.name first.titles with
  | none =>
    rw [hcolumn] at htitle
    simp only [readSignals, hcolumn, htitle, Option.map_none, h.name]
    exact ⟨.nil, trivial⟩
  | some column =>
    rw [hcolumn, Option.map_some] at htitle
    have hrows : List.Forall₂ (ReadAlike (.of first.titles) (.of second.titles))
        (namedRows first column) (namedRows second (place column)) :=
      forall₂_namedRows (fun r => (h.row r column).symm) (readAlike_rearranged hdistinct hkeys h)
    rw [entries_readSignals hcolumn, entries_readSignals htitle, readSignals_eq hcolumn,
      readSignals_eq htitle, ← namedRows_eq, ← namedRows_eq, h.name]
    exact readRows_alike hrows second.name []

end Table

/-! ## Repaired sources -/

theorem sameButOrder_repairSource {signal other : Signal} (h : SameButOrder signal other)
    (cores : List CoreId) (name : String) :
    SameButOrder (repairSource cores name signal).1 (repairSource cores name other).1 ∧
    (repairSource cores name signal).2 = (repairSource cores name other).2 := by
  obtain ⟨destinations, rfl⟩ : ∃ destinations, other = { signal with destinations } := ⟨_, h.values⟩
  have hperm : signal.destinations.entries.Perm destinations.entries := h.destinations
  have hflag : ∀ key, destinations.get? key = signal.destinations.get? key := fun key =>
    (OrderedMap.perm_iff_get?.mp hperm key).symm
  have hsource : ({ signal with destinations } : Signal).sourceId? = signal.sourceId? := rfl
  unfold repairSource
  dsimp only
  rw [hsource]
  split
  · exact ⟨⟨rfl, hperm⟩, rfl⟩
  · split
    · exact ⟨⟨rfl, hperm⟩, rfl⟩
    · rename_i id _
      rw [hflag]
      split
      · exact ⟨⟨rfl, OrderedMap.perm_insert hperm _ _⟩, rfl⟩
      · exact ⟨⟨rfl, hperm⟩, rfl⟩

theorem repairs_eq_of_sameSignals {entries others : List (String × Signal)}
    (h : SameSignals entries others) (cores : List CoreId) :
    (entries.flatMap fun (name, signal) => (repairSource cores name signal).2.map fun cause =>
      (⟨signalSheet, none, cause⟩ : Finding)) =
    others.flatMap fun (name, signal) => (repairSource cores name signal).2.map fun cause =>
      (⟨signalSheet, none, cause⟩ : Finding) := by
  induction h with
  | nil => rfl
  | @cons entry other rest more hentry _ ih =>
    rw [List.flatMap_cons, List.flatMap_cons, ih]
    dsimp only
    rw [hentry.1, (sameButOrder_repairSource hentry.2 _ _).2]

/-- Two projects that differ in the order of the destinations of their signals alone. -/
structure SameProject (first second : Project) : Prop where
  values : second = { first with signals := second.signals }
  signals : SameSignals first.signals.entries second.signals.entries

theorem sameProject_assemble {signals others : OrderedMap Signal}
    (h : SameSignals signals.entries others.entries) (metadata : Metadata) (platform : Platform) :
    SameProject (assemble metadata platform signals) (assemble metadata platform others) :=
  ⟨rfl, h⟩

theorem sameProject_repairSources {project other : Project} (h : SameProject project other) :
    SameProject (repairSources project).1 (repairSources other).1 ∧
    (repairSources project).2 = (repairSources other).2 := by
  obtain ⟨signals, rfl⟩ : ∃ signals, other = { project with signals } := ⟨_, h.values⟩
  have hsignals : SameSignals project.signals.entries signals.entries := h.signals
  refine ⟨⟨rfl, ?_⟩, ?_⟩
  · refine List.forall₂_map_left_iff.mpr (List.forall₂_map_right_iff.mpr (hsignals.imp ?_))
    rintro ⟨name, signal⟩ ⟨_, other⟩ ⟨rfl, hsame⟩
    exact ⟨rfl, (sameButOrder_repairSource hsame _ name).1⟩
  · have hcores : ({ project with signals } : Project).availableCores = project.availableCores := rfl
    simp only [repairSources, hcores]
    exact repairs_eq_of_sameSignals hsignals _

/-! ## Two imports -/

/-- What has been read of two sheets that differ in the order of their columns; a sheet that cannot be
read fails in both cases alike. -/
inductive Rearranged : Except PartError Sheet → Except PartError Sheet → Prop
  | read {first second : Sheet} (h : first.Rearranged second) : Rearranged (.ok first) (.ok second)
  | unreadable (error : PartError) : Rearranged (.error error) (.error error)

/-- Two workbooks with the same sheets in order, but for the order of the columns of each. -/
def RearrangedSheets (results others : SheetResults) : Prop :=
  List.Forall₂ (fun result other => result.1 = other.1 ∧ Rearranged result.2 other.2) results others

/-- The titles of each sheet that is read are distinct, and so are the keys of the destinations. -/
structure DistinctTitles (results : SheetResults) : Prop where
  version : ∀ sheet, Entries.get? versionSheet results = some (.ok sheet) →
    (Entries.keys sheet.titles).Nodup
  platform : ∀ sheet, platformOutcome results = some (.ok sheet) → (Entries.keys sheet.titles).Nodup
  table : ∀ sheet, Entries.get? signalSheet results = some (.ok sheet) →
    (Entries.keys sheet.titles).Nodup
  destinations : ∀ sheet, Entries.get? signalSheet results = some (.ok sheet) →
    ((destinationTitles sheet.titles).map destinationKey).Nodup

section Outcomes

variable {outcome other : Outcome} {results others : SheetResults}

theorem RearrangedSheets.keys_eq (h : RearrangedSheets results others) :
    Entries.keys results = Entries.keys others := by
  induction h with
  | nil => rfl
  | cons hresult _ ih => rw [Entries.keys_cons, Entries.keys_cons, hresult.1, ih]

theorem RearrangedSheets.get? (h : RearrangedSheets results others) (name : String) :
    Option.Rel Rearranged (Entries.get? name results) (Entries.get? name others) := by
  induction h with
  | nil => exact .none
  | @cons result other _ _ hresult _ ih =>
    rw [Entries.get?, Entries.get?, ← hresult.1]
    split
    · exact .some hresult.2
    · exact ih

theorem RearrangedSheets.platform (h : RearrangedSheets results others) :
    Option.Rel Rearranged (platformOutcome results) (platformOutcome others) := by
  have hname : platformSheet? results = platformSheet? others := by
    simp only [platformSheet?, h.keys_eq]
  rw [platformOutcome, platformOutcome, hname]
  cases platformSheet? others with
  | none => exact .none
  | some name => exact h.get? name

theorem unreadable_rearranged (h : Option.Rel Rearranged outcome other) (name : String) :
    unreadable name outcome = unreadable name other := by
  cases h with
  | none => rfl
  | some h => cases h <;> rfl

theorem unreadablePlatform_rearranged (h : RearrangedSheets results others) :
    unreadablePlatform results = unreadablePlatform others := by
  have hname : platformSheet? results = platformSheet? others := by
    simp only [platformSheet?, h.keys_eq]
  rw [unreadablePlatform, unreadablePlatform, hname]
  cases platformSheet? others with
  | none => rfl
  | some name =>
    simp only [Option.toList_some, List.flatMap_cons, List.flatMap_nil,
      unreadable_rearranged (h.get? name)]

/-- What is read by the titles is read from both. -/
theorem reads_rearranged {α : Type} {read : Option Sheet → α}
    (h : Option.Rel Rearranged outcome other)
    (hdistinct : ∀ sheet, outcome = some (.ok sheet) → (Entries.keys sheet.titles).Nodup)
    (hread : ∀ {first second : Sheet}, SameUnder first second → read (some first) = read (some second)) :
    read (outcome.bind Except.toOption) = read (other.bind Except.toOption) := by
  cases h with
  | none => rfl
  | some h =>
    cases h with
    | unreadable error => rfl
    | read h =>
      obtain ⟨place, h⟩ := h
      exact hread (sameUnder_of_rearranged h (hdistinct _ rfl))

theorem table_rearranged (h : Option.Rel Rearranged outcome other)
    (hdistinct : ∀ sheet, outcome = some (.ok sheet) → (Entries.keys sheet.titles).Nodup)
    (hkeys : ∀ sheet, outcome = some (.ok sheet) →
      ((destinationTitles sheet.titles).map destinationKey).Nodup) :
    let signals := readSignals (outcome.bind Except.toOption)
    let signals' := readSignals (other.bind Except.toOption)
    SameSignals signals.1.entries signals'.1.entries ∧ signals.2 = signals'.2 := by
  cases h with
  | none => exact ⟨.nil, rfl⟩
  | some h =>
    cases h with
    | unreadable error => exact ⟨.nil, rfl⟩
    | read h => exact readSignals_rearranged (hdistinct _ rfl) (hkeys _ rfl) h

end Outcomes

/-- Two imports that are refused for the same reason, or accepted with the same findings in the same
order and with the same project but for the order of destinations. -/
inductive SameImport {ε : Type} : Except ε (Project × List Finding) →
    Except ε (Project × List Finding) → Prop
  | refused (error : ε) : SameImport (.error error) (.error error)
  | accepted {project other : Project} (h : SameProject project other) (findings : List Finding) :
    SameImport (.ok (project, findings)) (.ok (other, findings))

theorem sameImport_importSheets (today : Date) {results others : SheetResults}
    (h : RearrangedSheets results others) (hdistinct : DistinctTitles results) :
    SameImport (importSheets today results) (importSheets today others) := by
  have hmetadata := reads_rearranged (h.get? versionSheet) hdistinct.version
    (@readVersion_congr today)
  have hplatform := reads_rearranged h.platform hdistinct.platform readPlatform_congr
  obtain ⟨hsignals, hfound⟩ :=
    table_rearranged (h.get? signalSheet) hdistinct.table hdistinct.destinations
  have hempty := hsignals.isEmpty_eq
  rw [importSheets, importSheets, takeSheets_eq, takeSheets_eq]
  dsimp only
  rw [hmetadata, hplatform, hfound, hempty, unreadablePlatform_rearranged h,
    unreadable_rearranged (h.get? versionSheet), unreadable_rearranged (h.get? signalSheet)]
  split
  · exact .refused _
  · obtain ⟨hproject, hrepairs⟩ := sameProject_repairSources (sameProject_assemble hsignals
      (readVersion today ((Entries.get? versionSheet others).bind Except.toOption)).1
      (readPlatform ((platformOutcome others).bind Except.toOption)))
    rw [hrepairs]
    exact .accepted hproject _

/-- Importing goes by titles. For any two archives that are imported on one day and hold the same sheets,
the columns of each in any order, where the titles of a sheet are distinct and so are the destination
keys: both imports are refused for the same reason, or both are accepted with the same findings in the
same order, and the projects are the same but for the order in which each signal lists its
destinations. -/
theorem import_by_titles {today : Date} {archive archive' : Archive} {results results' : SheetResults}
    (hsheets : archive.sheets = .ok results) (hsheets' : archive'.sheets = .ok results')
    (h : RearrangedSheets results results') (hdistinct : DistinctTitles results) :
    SameImport (importArchive today archive) (importArchive today archive') := by
  have hsame := sameImport_importSheets today h hdistinct
  simp only [importArchive, hsheets, hsheets']
  generalize importSheets today results = outcome, importSheets today results' = outcome' at hsame
  cases hsame with
  | refused findings => exact .refused _
  | accepted hproject findings => exact .accepted hproject findings

/-- A workbook of one signal sheet that holds two rows of three cells. -/
def tableOf (header cells : String × String × String) : Archive :=
  let cell (text : String) := "<c t='str'><v>" ++ text ++ "</v></c>"
  let row (texts : String × String × String) :=
    "<row>" ++ cell texts.1 ++ cell texts.2.1 ++ cell texts.2.2 ++ "</row>"
  .ofPairs
    [("xl/workbook.xml", .text "<w><sheets><sheet name='LookUpTable'/></sheets></w>"),
      ("xl/worksheets/sheet1.xml",
        .text ("<w><sheetData>" ++ row header ++ row cells ++ "</sheetData></w>"))]

/-- What an import lists as the destinations of the signals. -/
def destinationsOf (outcome : Project × List Finding) : List (String × List (String × Bool)) :=
  outcome.1.signals.entries.map fun entry => (entry.1, entry.2.destinations.entries)

/-- With the first and the last column in each other's place the two destinations are listed the other
way round, and that is all. -/
theorem import_by_titles_swapped :
    let archive := tableOf ("Data_Type", "A.B", "A.C") ("speed", "Yes", "No")
    let swapped := tableOf ("A.C", "A.B", "Data_Type") ("No", "Yes", "speed")
    ∃ project project' findings, importArchive .epoch archive = .ok (project, findings) ∧
      importArchive .epoch swapped = .ok (project', findings) ∧ SameProject project project' ∧
      destinationsOf (project, findings) = [("speed", [("core_A_B", true), ("core_A_C", false)])] ∧
      destinationsOf (project', findings) =
        [("speed", [("core_A_C", false), ("core_A_B", true)])] := by
  intro archive swapped
  let table : Sheet := ⟨"LookUpTable", #[#[.text "Data_Type", .text "A.B", .text "A.C"],
    #[.text "speed", .text "Yes", .text "No"]]⟩
  let other : Sheet := ⟨"LookUpTable", #[#[.text "A.C", .text "A.B", .text "Data_Type"],
    #[.text "No", .text "Yes", .text "speed"]]⟩
  have hsheets : archive.sheets = .ok [("LookUpTable", .ok table)] := by decide +kernel
  have hsheets' : swapped.sheets = .ok [("LookUpTable", .ok other)] := by decide +kernel
  have hread : (importSheets .epoch [("LookUpTable", .ok table)]).toOption.map destinationsOf =
      some [("speed", [("core_A_B", true), ("core_A_C", false)])] := by decide +kernel
  have hread' : (importSheets .epoch [("LookUpTable", .ok other)]).toOption.map destinationsOf =
      some [("speed", [("core_A_C", false), ("core_A_B", true)])] := by decide +kernel
  obtain ⟨⟨project, findings⟩, houtcome, hlisted⟩ := Option.map_eq_some_iff.mp hread
  obtain ⟨⟨project', findings'⟩, houtcome', hlisted'⟩ := Option.map_eq_some_iff.mp hread'
  have himport := importArchive_of_sheets hsheets houtcome
  have himport' := importArchive_of_sheets hsheets' houtcome'
  have hcells : ∀ row column, other.cell row (Equiv.swap 0 2 column) = table.cell row column := by
    rintro (_ | _ | row) (_ | _ | _ | column)
    all_goals simp [Equiv.swap_apply_def, Sheet.cell, Row.cell, other, table]
  have hdistinct : DistinctTitles [("LookUpTable", .ok table)] := by
    have htitles : table.titles = [("Data_Type", 0), ("A.B", 1), ("A.C", 2)] := by decide +kernel
    constructor
    · rintro sheet ⟨⟩
    · rintro sheet ⟨⟩
    · rintro sheet ⟨⟩
      rw [htitles]
      decide
    · rintro sheet ⟨⟩
      rw [htitles]
      decide +kernel
  have hsame : SameImport (importArchive .epoch archive) (importArchive .epoch swapped) :=
    import_by_titles hsheets hsheets' (.cons ⟨rfl, .read ⟨_, rfl, hcells⟩⟩ .nil) hdistinct
  rw [himport, himport'] at hsame
  obtain ⟨_⟩ | ⟨hproject, _⟩ := hsame
  exact ⟨project, project', findings, himport, himport', hproject, hlisted, hlisted'⟩

end Exchange

end SignalCatalog
