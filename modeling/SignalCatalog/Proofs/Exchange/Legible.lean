import SignalCatalog.Proofs.Exchange.Independence
import SignalCatalog.Proofs.Exchange.Sound

/-!
# Imported projects are legible

Whatever the cells of a workbook hold, what is read from them can be written into cells and read again:
texts are trimmed and not empty, or a default takes their place, numbers are in their ranges, and the
platform sheet is none of the other two. The lists of an imported project follow from its cores.
-/

namespace SignalCatalog

theorem Text.filled_getD {text : Option String} {default : String}
    (h : ∀ value, text = some value → Filled value) (hd : Filled default) :
    Filled (text.getD default) := by
  cases text with
  | none => exact hd
  | some value => exact h value rfl

theorem Text.trimmed_getD {text : Option String} (h : ∀ value, text = some value → Filled value) :
    Trimmed (text.getD "").toList := by
  cases text with
  | none => decide
  | some value => exact (h value rfl).2

/-! ## Names of sheets -/

/-- Every sheet that was read has the name under which it was found. -/
def Exchange.WellNamed (results : Exchange.SheetResults) : Prop :=
  ∀ entry ∈ results, ∀ sheet, entry.2 = .ok sheet → sheet.name = entry.1

namespace Archive

open Markup

variable {shared : Array String} {sheet read : Sheet}

theorem name_readCells {row next : Nat} {elements : List Element}
    (h : readCells shared row sheet next elements = .ok read) : read.name = sheet.name := by
  induction elements generalizing sheet next with
  | nil => rw [← Except.ok.inj h]
  | cons element rest ih =>
    simp only [readCells, bind, Except.bind] at h
    split at h
    · cases h
    · split at h
      · cases h
      · rw [ih h]
        split <;> rfl

theorem name_readRows {next : Nat} {elements : List Element}
    (h : readRows shared sheet next elements = .ok read) : read.name = sheet.name := by
  induction elements generalizing sheet next with
  | nil => rw [← Except.ok.inj h]
  | cons element rest ih =>
    simp only [readRows, bind, Except.bind] at h
    split at h
    · cases h
    · split at h
      · cases h
      · rename_i cells hcells
        exact (ih h).trans (name_readCells hcells)

theorem name_readSheet {name : String} {root : Element} (h : readSheet shared name root = .ok read) :
    read.name = name := by
  unfold readSheet at h
  split at h
  · rw [← Except.ok.inj h]
    rfl
  · exact name_readRows h

theorem name_sheet {archive : Archive} {name part : String}
    (h : archive.sheet shared name part = .ok read) : read.name = name := by
  simp only [Archive.sheet, bind, Except.bind] at h
  split at h
  · cases h
  · split at h
    · cases h
    · split at h
      · cases h
      · split at h
        · rename_i found hfound
          rw [← Except.ok.inj h]
          exact name_readSheet hfound
        · cases h

theorem wellNamed_sheets {archive : Archive} {results : Exchange.SheetResults}
    (h : archive.sheets = .ok results) : Exchange.WellNamed results := by
  simp only [sheets, bind, Except.bind] at h
  split at h
  · cases h
  · split at h
    · cases h
    · rw [← Except.ok.inj h]
      intro entry hentry sheet hsheet
      obtain ⟨⟨name, part⟩, _, rfl⟩ := List.mem_map.mp hentry
      exact name_sheet hsheet

end Archive

theorem Workbook.ReadAs.wellNamed {workbook : Workbook} {results : Exchange.SheetResults}
    (h : workbook.ReadAs results) : Exchange.WellNamed results := by
  unfold ReadAs at h
  generalize workbook.sheets = sheets at h
  induction h with
  | nil => simp [Exchange.WellNamed]
  | cons hread _ ih =>
    obtain ⟨hname, shown, hshown, hshows⟩ := hread
    refine List.forall_mem_cons.mpr ⟨?_, ih⟩
    intro sheet hsheet
    rw [hshown] at hsheet
    rw [← Except.ok.inj hsheet, hshows.name, hname]

namespace Exchange

variable {today : Date} {results : SheetResults} {project : Project} {findings : List Finding}

/-- The name of the platform sheet is none of the other two. -/
theorem platformSheet?_ne {name : String} (h : platformSheet? results = some name) :
    name ≠ versionSheet ∧ name ≠ signalSheet := by
  unfold platformSheet? at h
  dsimp only at h
  split at h
  · rw [← Option.some.inj h]
    decide
  · simpa using List.find?_some h

theorem name_platform (hnamed : WellNamed results) {sheet : Sheet}
    (h : (platformOutcome results).bind Except.toOption = some sheet) :
    sheet.name ≠ versionSheet ∧ sheet.name ≠ signalSheet := by
  obtain ⟨outcome, houtcome, hsheet⟩ := Option.bind_eq_some_iff.mp h
  obtain ⟨name, hname, hget⟩ := Option.bind_eq_some_iff.mp houtcome
  cases outcome with
  | error error => cases hsheet
  | ok read =>
    obtain rfl := Option.some.inj hsheet
    rw [hnamed _ (Entries.mem_of_get? hget) read rfl]
    exact platformSheet?_ne hname

/-! ## The version -/

theorem filled_textUnder? (titles : Titles) (row : Row) (title text : String)
    (h : textUnder? titles row title = some text) : Text.Filled text := Cell.filled_of_text? h

theorem legible_readVersion (today : Date) (sheet : Option Sheet) :
    let metadata := (readVersion today sheet).1
    Text.Filled metadata.version ∧ Text.Trimmed metadata.editor.toList ∧
      Text.Filled metadata.description ∧ metadata.extra = .empty := by
  cases sheet with
  | none => exact ⟨show Text.Filled defaultVersion by decide, show Text.Trimmed "".toList by decide,
      show Text.Filled defaultDescription by decide, rfl⟩
  | some sheet =>
    have hfilled := filled_textUnder? sheet.titles (firstRow sheet)
    refine ⟨Text.filled_getD (hfilled _) (by decide), Text.trimmed_getD ?_,
      Text.filled_getD ?_ (by decide), rfl⟩
    · intro editor heditor
      rcases Option.or_eq_some_iff.mp heditor with h | ⟨_, h⟩ <;> exact hfilled _ _ h
    · intro description hdescription
      obtain ⟨title, _, h⟩ := List.exists_of_findSome?_eq_some hdescription
      exact hfilled _ _ h

/-! ## The platform -/

/-- A system whose cores can be read again; it has at least one. -/
structure LegibleSoc (soc : String × OrderedMap Core) : Prop where
  name : Text.Filled soc.1
  coreNames : ∀ core ∈ soc.2.keys, Text.Filled core
  cores : ∀ entry ∈ soc.2.entries, entry.2.Portable
  populated : soc.2.isEmpty = false

/-- The list of a selection that may be missing. -/
def chosen (selection : String) : List String := if selection.isEmpty then [] else [selection]

/-- What a platform sheet can say: the selections, if any, and behind them the systems with cores. -/
structure Platform.Tabular (platform : Platform) : Prop where
  socType : platform.socType = "" ∨ Text.Filled platform.socType
  buildType : platform.buildType = "" ∨ Text.Filled platform.buildType
  socs : ∀ soc ∈ platform.cores.entries, LegibleSoc soc
  socList : platform.socList = chosen platform.socType ++
    platform.cores.keys.filter fun soc => decide (soc ∉ chosen platform.socType)
  buildList : platform.buildList = chosen platform.buildType
  sheetName : platform.sheetName ≠ versionSheet ∧ platform.sheetName ≠ signalSheet

theorem portable_readCore (titles : Titles) (row : Row) :
    (readCore (textUnder? titles row)).Portable where
  os := Text.filled_getD (filled_textUnder? titles row _) (by decide)
  socFamily := Text.filled_getD (filled_textUnder? titles row _) (by decide)
  description := Text.trimmed_getD (filled_textUnder? titles row _)
  extra := rfl

/-- Adding a core lists its system behind the others, unless it is the selected one or has cores. -/
theorem listed_chosen (selection soc : String) (cores : OrderedMap (OrderedMap Core))
    (value : OrderedMap Core) :
    Project.listed (chosen selection ++ cores.keys.filter fun soc => decide (soc ∉ chosen selection))
        soc =
      chosen selection ++
        (cores.insert soc value).keys.filter fun soc => decide (soc ∉ chosen selection) := by
  by_cases hold : soc ∈ cores.keys
  · have hkeys : (cores.insert soc value).keys = cores.keys := Entries.keys_insert_of_mem hold
    rw [hkeys]
    apply Project.listed_of_mem
    by_cases hchosen : soc ∈ chosen selection
    · exact List.mem_append_left _ hchosen
    · exact List.mem_append_right _ (List.mem_filter.mpr ⟨hold, by simpa using hchosen⟩)
  · have hentries : (cores.insert soc value).entries = cores.entries ++ [(soc, value)] :=
      Entries.insert_of_notMem hold
    have hkeys : (cores.insert soc value).keys = cores.keys ++ [soc] := by
      rw [OrderedMap.keys, hentries, Entries.keys_append]
      rfl
    rw [hkeys, List.filter_append]
    by_cases hchosen : soc ∈ chosen selection
    · rw [Project.listed_of_mem (List.mem_append_left _ hchosen)]
      simp [hchosen]
    · simp [Project.listed, hchosen, hold]

theorem Platform.Tabular.addCore {platform : Platform} (h : platform.Tabular) {id : CoreId}
    {core : Core} (hsoc : Text.Filled id.soc) (hname : Text.Filled id.core) (hcore : core.Portable) :
    (platform.addCore id core).Tabular where
  socType := h.socType
  buildType := h.buildType
  socs := by
    have hold : (∀ core ∈ ((platform.cores.get? id.soc).getD .empty).keys, Text.Filled core) ∧
        ∀ entry ∈ ((platform.cores.get? id.soc).getD .empty).entries, entry.2.Portable := by
      cases hget : platform.cores.get? id.soc with
      | none => exact ⟨by simp [OrderedMap.keys], by simp⟩
      | some cores =>
        have hcores := h.socs _ (Entries.mem_of_get? hget)
        exact ⟨hcores.coreNames, hcores.cores⟩
    intro soc he
    rcases Entries.mem_insert he with rfl | he
    · refine ⟨hsoc, OrderedMap.forall_keys_insert hold.1 hname, OrderedMap.forall_insert hold.2 hcore,
        ?_⟩
      rw [OrderedMap.isEmpty, List.isEmpty_eq_false_iff_exists_mem]
      have hmem : id.core ∈ Entries.keys
          (((platform.cores.get? id.soc).getD .empty).insert id.core core).entries :=
        Entries.mem_keys_insert.mpr (Or.inl rfl)
      obtain ⟨entry, hentry, _⟩ := List.mem_map.mp hmem
      exact ⟨entry, hentry⟩
    · exact h.socs soc he
  socList := by
    have hlisted := listed_chosen platform.socType id.soc platform.cores
      (((platform.cores.get? id.soc).getD .empty).insert id.core core)
    rw [← h.socList] at hlisted
    exact hlisted
  buildList := h.buildList
  sheetName := h.sheetName

theorem Platform.Tabular.addRow {platform : Platform} (h : platform.Tabular) (titles : Titles)
    (row : Row) : (platform.addRow titles row).Tabular := by
  unfold Platform.addRow
  dsimp only
  split
  · rename_i id hid
    obtain ⟨hsoc, hcore⟩ : Text.Filled id.soc ∧ Text.Filled id.core := by
      unfold coreIdOf? at hid
      split at hid
      · rename_i soc core hsoc hcore
        rw [← Option.some.inj hid]
        exact ⟨filled_textUnder? _ _ _ _ hsoc, filled_textUnder? _ _ _ _ hcore⟩
      · cases hid
    exact h.addCore hsoc hcore (portable_readCore titles row)
  · exact h

theorem chosen_getD {text : Option String} (h : ∀ value, text = some value → Text.Filled value) :
    text.toList = chosen (text.getD "") := by
  cases text with
  | none => rfl
  | some value => simp [chosen, (h value rfl).1]

theorem empty_or_filled_getD {text : Option String}
    (h : ∀ value, text = some value → Text.Filled value) :
    text.getD "" = "" ∨ Text.Filled (text.getD "") := by
  cases text with
  | none => exact Or.inl rfl
  | some value => exact Or.inr (h value rfl)

theorem tabular_readPlatform {sheet : Option Sheet}
    (h : ∀ read, sheet = some read → read.name ≠ versionSheet ∧ read.name ≠ signalSheet) :
    (readPlatform sheet).Tabular := by
  cases sheet with
  | none =>
    exact ⟨Or.inl rfl, Or.inl rfl, by simp [readPlatform, Platform.empty], rfl, rfl,
      show defaultExportSheet ≠ versionSheet ∧ defaultExportSheet ≠ signalSheet by decide⟩
  | some sheet =>
    have hfilled := filled_textUnder? sheet.titles (firstRow sheet)
    refine List.foldlRecOn _ _ ?_ fun platform h row _ => h.addRow sheet.titles row.1
    exact ⟨empty_or_filled_getD (hfilled _), empty_or_filled_getD (hfilled _), by simp,
      by simpa [OrderedMap.keys] using chosen_getD (hfilled _), chosen_getD (hfilled _),
      h sheet rfl⟩

/-! ## Signals -/

/-- A signal of an import; no value of it was left unread. -/
structure ImportedSignal (signal : Signal) : Prop extends signal.Legible where
  unreadable : signal.unreadable = .empty

theorem SignalRow.imported_read (row : SignalRow) (columns : Columns) (hname : Text.Filled row.name) :
    ImportedSignal (row.read columns).1 where
  toTabular := row.tabular_read columns
  port := Text.filled_getD (fun _ h => Cell.filled_of_text? h) hname
  description := Text.filled_getD (fun _ h => Cell.filled_of_text? h) (by decide)
  type := row.written_readType columns
  noCustom := rfl
  extra := rfl
  unreadable := rfl

theorem imported_readSignals (sheet : Option Sheet) :
    ∀ entry ∈ (readSignals sheet).1.entries, Text.Filled entry.1 ∧ ImportedSignal entry.2 := by
  cases sheet with
  | none => simp [readSignals]
  | some sheet =>
    unfold readSignals
    dsimp only
    split
    · simp
    · intro entry he
      obtain ⟨row, hrow, rfl⟩ := mem_readRows (Entries.mem_ofPairs he)
      have hname : Text.Filled row.name := by
        obtain ⟨item, _, hitem⟩ := List.mem_filterMap.mp hrow
        obtain ⟨name, htext, rfl⟩ := Option.map_eq_some_iff.mp hitem
        exact Cell.filled_of_text? htext
      exact ⟨hname, row.imported_read _ hname⟩

theorem imported_repairSource (cores : List CoreId) (name : String) {signal : Signal}
    (h : ImportedSignal signal) : ImportedSignal (repairSource cores name signal).1 := by
  have htabular := tabular_repairSource cores name h.toTabular
  rcases repairSource_cases cores name signal with he | ⟨_, _, _, _, _, he⟩ <;>
    rw [he] at htabular ⊢ <;>
    exact ⟨⟨htabular, h.port, h.description, h.type, h.noCustom, h.extra⟩, h.unreadable⟩

/-! ## Lists and projects -/

variable {platform : Platform}

theorem orElse_eq {text other : String} (h : text ≠ "") : orElse text other = text :=
  if_neg (by simpa using h)

/-- A list without repeated entries has its first entry in front of the other ones. -/
theorem filter_ne_head {first : String} {rest : List String} (h : (first :: rest).Nodup) :
    (first :: rest).filter (fun other => decide (other ≠ first)) = rest := by
  obtain ⟨hfirst, _⟩ := List.nodup_cons.mp h
  rw [List.filter_cons_of_neg (by simp), List.filter_eq_self]
  intro other hother
  simpa using fun he : other = first => hfirst (he ▸ hother)

/-- With the selection in front the list of systems is that of the workbook of the project. -/
theorem selected_socList (h : platform.Tabular) :
    let soc := orElse platform.socType (platform.socList.head?.getD defaultSoc)
    Project.selected platform.socList soc =
        soc :: platform.cores.keys.filter (fun other => decide (other ≠ soc)) ∧ Text.Filled soc := by
  intro soc
  have hnodup : platform.cores.keys.Nodup := platform.cores.nodup
  rcases h.socType with hnone | hfilled
  · -- Without a selection the first system with cores is taken, or a default if there is none.
    have hchosen : chosen platform.socType = [] := by rw [hnone]; rfl
    have hlist : platform.socList = platform.cores.keys := by
      rw [h.socList, hchosen]
      simp
    cases hkeys : platform.cores.keys with
    | nil =>
      have hsoc : soc = defaultSoc := by simp [soc, orElse, hnone, hlist, hkeys]
      rw [hsoc, hlist, hkeys]
      decide
    | cons first rest =>
      have hsoc : soc = first := by simp [soc, orElse, hnone, hlist, hkeys]
      have hname : first ∈ platform.cores.keys := by
        rw [hkeys]
        exact List.mem_cons_self
      obtain ⟨entry, hentry, rfl⟩ := List.mem_map.mp hname
      rw [hkeys] at hnodup
      rw [hsoc, hlist, hkeys, filter_ne_head hnodup]
      exact ⟨Project.selected_of_mem hnodup (Or.inr List.mem_cons_self), (h.socs entry hentry).name⟩
  · have hsoc : soc = platform.socType := orElse_eq hfilled.1
    have hlist : platform.socList = platform.socType ::
        platform.cores.keys.filter fun other => decide (other ≠ platform.socType) := by
      rw [h.socList]
      simp [chosen, hfilled.1]
    have hkept : (platform.socType ::
        platform.cores.keys.filter fun other => decide (other ≠ platform.socType)).Nodup :=
      List.nodup_cons.mpr ⟨by simp, hnodup.filter _⟩
    rw [hsoc, hlist]
    exact ⟨Project.selected_of_mem hkept (Or.inr List.mem_cons_self), hfilled⟩

theorem selected_buildList (h : platform.Tabular) :
    let build := orElse platform.buildType defaultBuild
    Project.selected platform.buildList build = [build] ∧ Text.Filled build := by
  intro build
  rw [h.buildList]
  rcases h.buildType with hnone | hfilled
  · have hbuild : build = defaultBuild := by simp [build, orElse, hnone]
    rw [hbuild, hnone]
    decide
  · have hbuild : build = platform.buildType := orElse_eq hfilled.1
    have hchosen : chosen platform.buildType = [platform.buildType] := by simp [chosen, hfilled.1]
    rw [hbuild, hchosen]
    exact ⟨Project.selected_of_mem (List.nodup_singleton _) (Or.inr List.mem_cons_self), hfilled⟩

/-- Both selections are made, and the lists are those of the project's own workbook. -/
theorem lists_assemble (h : platform.Tabular) (metadata : Metadata) (signals : OrderedMap Signal) :
    let project := assemble metadata platform signals
    Text.Filled project.socType ∧ Text.Filled project.buildType ∧
    project.socList = project.socType ::
      project.cores.keys.filter (fun soc => decide (soc ≠ project.socType)) ∧
    project.buildList = [project.buildType] := by
  intro project
  obtain ⟨hsocs, hsoc⟩ := selected_socList h
  obtain ⟨hbuilds, hbuild⟩ := selected_buildList h
  refine ⟨hsoc, hbuild, ?_, hbuilds⟩
  have hlist : project.socList = project.cores.keys.foldl Project.listed
      (Project.selected platform.socList project.socType) := rfl
  rw [hlist, show Project.selected platform.socList project.socType = _ from hsocs]
  apply Project.foldl_listed_of_subset
  intro soc hmem
  by_cases he : soc = project.socType
  · exact he ▸ List.mem_cons_self
  · exact List.mem_cons_of_mem _ (List.mem_filter.mpr ⟨hmem, decide_eq_true he⟩)

/-- What is known of the parts of an imported project. -/
structure ImportedProject (project : Project) : Prop extends project.Legible where
  imported : ∀ entry ∈ project.signals.entries, ImportedSignal entry.2
  populated : ∀ soc ∈ project.cores.entries, soc.2.isEmpty = false
  socList : project.socList = project.socType ::
    project.cores.keys.filter fun soc => decide (soc ≠ project.socType)
  buildList : project.buildList = [project.buildType]
  rest : project = { Project.template project.metadata.date with
    metadata := project.metadata
    socType := project.socType
    buildType := project.buildType
    socList := project.socList
    buildList := project.buildList
    cores := project.cores
    signals := project.signals
    exportSheet := project.exportSheet }

theorem importedProject_importSheets (hnamed : WellNamed results)
    (h : importSheets today results = .ok (project, findings)) : ImportedProject project := by
  have hsettled := (settled_importSheets h).2
  obtain ⟨hproject, _⟩ := importSheets_parts h
  obtain ⟨hversion, heditor, hdescription, hextra⟩ :=
    legible_readVersion today ((Entries.get? versionSheet results).bind Except.toOption)
  have hplatform := tabular_readPlatform fun sheet hsheet => name_platform hnamed hsheet
  have hread := imported_readSignals ((Entries.get? signalSheet results).bind Except.toOption)
  obtain ⟨hsoc, hbuild, hsocs, hbuilds⟩ := lists_assemble hplatform
    (readVersion today ((Entries.get? versionSheet results).bind Except.toOption)).1
    (readSignals ((Entries.get? signalSheet results).bind Except.toOption)).1
  have himported : ∀ entry ∈ project.signals.entries, Text.Filled entry.1 ∧ ImportedSignal entry.2 := by
    intro entry he
    rw [hproject] at he
    obtain ⟨old, hold, rfl⟩ := List.mem_map.mp he
    exact ⟨(hread old hold).1, imported_repairSource _ _ (hread old hold).2⟩
  have hnames : ∀ name ∈ project.signals.keys, Text.Filled name := by
    intro name hname
    obtain ⟨entry, he, rfl⟩ := List.mem_map.mp hname
    exact (himported entry he).1
  have hsources : ∀ entry ∈ project.signals.entries, project.SoundSource entry.2 :=
    fun entry he => soundSource_of_settled (hsettled entry he).2
  subst hproject
  exact {
    version := hversion
    editor := heditor
    description := hdescription
    metadataExtra := hextra
    socType := hsoc
    buildType := hbuild
    socs := by
      intro soc hmem
      obtain ⟨entry, he, rfl⟩ := List.mem_map.mp hmem
      exact (hplatform.socs entry he).name
    coreNames := fun soc he => (hplatform.socs soc he).coreNames
    cores := fun soc he => (hplatform.socs soc he).cores
    signalNames := hnames
    signals := fun entry he => (himported entry he).2.toLegible
    sources := hsources
    sheet := hplatform.sheetName
    imported := fun entry he => (himported entry he).2
    populated := fun soc he => (hplatform.socs soc he).populated
    socList := hsocs
    buildList := hbuilds
    rest := rfl }

end Exchange

end SignalCatalog
