import SignalCatalog.Exchange.Import
import SignalCatalog.Proofs.Project.Lists
import SignalCatalog.Proofs.Record.Project

/-!
# Imported projects may be stored

An import is put together from what has become of each of its three sheets. Whatever these hold, what is
read from them has no unknown members, types that were read from texts and flags under destination keys;
the lists are repaired before the sources.
-/

namespace SignalCatalog

namespace Exchange

variable {today : Date} {results : SheetResults} {project : Project} {findings : List Finding}

/-! ## What has become of the sheets -/

/-- What has become of a sheet: there is none of the name, it cannot be read, or it was read. -/
abbrev Outcome := Option (Except PartError Sheet)

/-- The finding for a sheet that cannot be read. -/
def unreadable (name : String) : Outcome → List Finding
  | some (.error error) => [⟨name, none, .unreadableSheet error⟩]
  | _ => []

theorem take_eq (results : SheetResults) (name : String) :
    take results name = ((Entries.get? name results).bind Except.toOption,
      unreadable name (Entries.get? name results)) := by
  unfold take
  split <;> simp_all [unreadable, Except.toOption]

/-- What has become of the platform sheet, whatever its name is. -/
def platformOutcome (results : SheetResults) : Outcome :=
  (platformSheet? results).bind fun name => Entries.get? name results

/-- The finding for a platform sheet that cannot be read. -/
def unreadablePlatform (results : SheetResults) : List Finding :=
  (platformSheet? results).toList.flatMap fun name => unreadable name (Entries.get? name results)

theorem takeSheets_eq (results : SheetResults) : takeSheets results =
    (((Entries.get? versionSheet results).bind Except.toOption,
        unreadable versionSheet (Entries.get? versionSheet results)),
      ((platformOutcome results).bind Except.toOption, unreadablePlatform results),
      ((Entries.get? signalSheet results).bind Except.toOption,
        unreadable signalSheet (Entries.get? signalSheet results))) := by
  unfold takeSheets platformOutcome unreadablePlatform
  cases platformSheet? results <;> simp [take_eq]

/-- The project of an accepted import and its findings, by what has become of each sheet. -/
theorem importSheets_parts (h : importSheets today results = .ok (project, findings)) :
    let version := (Entries.get? versionSheet results).bind Except.toOption
    let config := (platformOutcome results).bind Except.toOption
    let table := (Entries.get? signalSheet results).bind Except.toOption
    let assembled := assemble (readVersion today version).1 (readPlatform config) (readSignals table).1
    project = (repairSources assembled).1 ∧
    findings = unreadable versionSheet (Entries.get? versionSheet results) ++
      (readVersion today version).2 ++ unreadablePlatform results ++
      unreadable signalSheet (Entries.get? signalSheet results) ++ (readSignals table).2 ++
      (repairSources assembled).2 := by
  unfold importSheets at h
  rw [takeSheets_eq] at h
  dsimp only at h
  split at h
  · cases h
  · obtain ⟨hproject, hfindings⟩ := Prod.mk.inj (Except.ok.inj h)
    exact ⟨hproject.symm, hfindings.symm⟩

theorem importSheets_ok (h : importSheets today results = .ok (project, findings)) :
    ∃ version config table,
      project = (repairSources (assemble (readVersion today version).1 (readPlatform config)
        (readSignals table).1)).1 :=
  ⟨_, _, _, (importSheets_parts h).1⟩

/-! ## What is read from them -/

/-- Every core read so far may be stored. -/
def Platform.Storable (platform : Platform) : Prop :=
  ∀ soc ∈ platform.cores.entries, ∀ entry ∈ soc.2.entries, entry.2.Storable

theorem Platform.Storable.addCore {platform : Platform} (h : platform.Storable) (id : CoreId)
    {core : Core} (hc : core.Storable) : (platform.addCore id core).Storable := by
  intro soc hsoc
  rcases Entries.mem_insert hsoc with rfl | hsoc
  · apply OrderedMap.forall_insert _ hc
    cases hold : platform.cores.get? id.soc with
    | none => simp
    | some cores => exact h (id.soc, cores) (Entries.mem_of_get? hold)
  · exact h soc hsoc

theorem Platform.Storable.addRow {platform : Platform} (h : platform.Storable) (titles : Titles)
    (row : Row) : (platform.addRow titles row).Storable := by
  unfold Platform.addRow
  dsimp only
  split
  · exact h.addCore _ (RecordKind.keeps_empty .core)
  · exact h

theorem SignalRow.written_readType (row : SignalRow) (columns : Columns) :
    (row.readType columns).1.Written := by
  unfold readType
  split
  · exact DataType.written_default
  · rename_i raw _
    split
    · rename_i type hread
      refine ⟨raw, ?_⟩
      unfold DataType.read at hread
      split at hread
      · rename_i other hother
        rw [hother, Except.ok.inj hread]
      · simp at hread
    · exact DataType.written_default

/-- The signals of rows are each read from one of the rows. -/
theorem mem_readRows {sheetName : String} {columns : Columns} {entry : String × Signal} :
    ∀ {seen : List String} {rows : List SignalRow},
      entry ∈ (readRows sheetName columns seen rows).1 →
      ∃ row ∈ rows, entry = (row.name, (row.read columns).1)
  | _, [], h => by simp [readRows] at h
  | seen, row :: rest, h => by
    rw [readRows] at h
    split at h
    · obtain ⟨other, ho, he⟩ := mem_readRows h
      exact ⟨other, List.mem_cons_of_mem row ho, he⟩
    · rcases List.mem_cons.mp h with he | h
      · exact ⟨row, List.mem_cons_self, he⟩
      · obtain ⟨other, ho, he⟩ := mem_readRows h
        exact ⟨other, List.mem_cons_of_mem row ho, he⟩

end Exchange

end SignalCatalog
