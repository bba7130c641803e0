import SignalCatalog.Proofs.Exchange.Rows

/-!
# What becomes of the values in a row

Where a cell of a fixed column is not blank, its signal has the value of the cell, or it is reported
what was done about it: in the row with the column, or by the signal's name if the core of its source is
unknown. The flags are an exception. About them nothing is ever reported, and a cell that says neither
yes nor no leaves the flag off.
-/

namespace SignalCatalog

theorem Cell.exists_text? {cell : Cell} (h : cell.isBlank = false) :
    ∃ text, cell.text? = some text := by
  cases cell with
  | empty => cases h
  | text value =>
    have hfilled : Text.trimmed value ≠ "" := by
      rw [ne_eq, Text.trimmed_eq_empty_iff, Bool.not_eq_true]
      exact h
    exact ⟨Text.trimmed value, by simp [text?, hfilled]⟩
  | number value => exact ⟨_, rfl⟩
  | bool value => exact ⟨_, rfl⟩

theorem Cell.isBlank_of_text? {cell : Cell} (h : cell.text? = none) : cell.isBlank = true := by
  by_contra hfilled
  obtain ⟨text, htext⟩ := exists_text? (Bool.eq_false_iff.mpr hfilled)
  cases h.symm.trans htext

theorem Attribute.field_of_read {α : Type} [Attribute α] {text : String} {error : ValueError}
    (h : (Attribute.read text : Except ValueError α) = .error error) : error.field = field α := by
  unfold read at h
  split at h
  · cases h
  · rw [← Except.error.inj h]

theorem DataType.field_of_read {text : String} {error : ValueError}
    (h : DataType.read text = .error error) : error.field = Exchange.SignalColumn.dataType := by
  unfold read at h
  split at h
  · cases h
  · rw [← Except.error.inj h]
    rfl

/-- A number that equals a natural number below 2^53 has its value. -/
theorem Binary64.value?_of_sameNumber {number : Binary64} {n : Nat} (hn : n < 2 ^ 53)
    (h : number.sameNumber (.ofNat n) = true) : number.value? = some (n : Rat) := by
  have hvalue := value?_ofNat hn
  unfold sameNumber at h
  split at h
  · rename_i hinfinite
    rw [hinfinite] at hvalue
    cases hvalue
  · rw [hvalue] at h
    split at h
    · rename_i hfinite hwhole
      rw [hfinite, beq_iff_eq.mp h, hwhole]
    · cases h

/-- The header of the column that a finding is about, if it is about a value in a column. -/
def FindingCause.title? : FindingCause → Option String
  | noMember error => some error.field
  | noNumber field _ _ | adjusted field _ _ => some field
  | _ => none

namespace Exchange

/-! ## What a cell says -/

/-- Yes or no, if the cell says one of them in any case of the letters. -/
def yesNo? (cell : Cell) : Option Bool :=
  if isWord "yes" cell.text? then some true
  else if isWord "no" cell.text? then some false
  else none

theorem isWord_yes (cell : Cell) : isWord "yes" cell.text? = (yesNo? cell).getD false := by
  unfold yesNo?
  cases isWord "yes" cell.text? <;> cases isWord "no" cell.text? <;> rfl

/-- The value is the one that is read from the text of the cell. -/
def Parses {α : Type} (read : String → Except ValueError α) (value : α) (cell : Cell) : Prop :=
  ∃ text, cell.text? = some text ∧ read text = .ok value

/-- The number in the cell is this one. -/
def Counts (value : UInt32) (cell : Cell) : Prop :=
  ∃ number, cell.number? = some number ∧ number.value? = some (value.toNat : Rat)

/-- The fixed columns, each with what it means that a cell under its header has the signal's value. -/
def columnValues (name : String) (signal : Signal) : List (String × (Cell → Prop)) :=
  [(SignalColumn.name, fun cell => cell.text? = some name),
    (SignalColumn.portName, fun cell => cell.text? = some signal.portName),
    (Attribute.field MemoryRegion, Parses Attribute.read signal.memoryRegion),
    (FieldRange.bufferCount.field, Counts signal.bufferCount),
    (Attribute.field AccessOrder, Parses Attribute.read signal.accessOrder),
    (Attribute.field Initial, Parses Attribute.read signal.initial),
    (SignalColumn.notifiers, fun cell => yesNo? cell = some signal.notifiers),
    (SignalColumn.source, fun cell => cell.text? = some signal.source),
    (Attribute.field Transport, Parses Attribute.read signal.transport),
    (SignalColumn.getObjRef, fun cell => yesNo? cell = some signal.getObjRef),
    (FieldRange.sharedBuffers.field, Counts signal.sharedBuffers),
    (FieldRange.timeout.field, Counts signal.timeout),
    (FieldRange.periodicity.field, Counts signal.periodicity),
    (Attribute.field SafetyLevel, Parses Attribute.read signal.safetyLevel),
    (Attribute.field Checksum, Parses Attribute.read signal.checksum),
    (SignalColumn.dataType, Parses DataType.read signal.dataType),
    (SignalColumn.description, fun cell => cell.text? = some signal.description)]

example (name : String) (signal : Signal) :
    (columnValues name signal).map Prod.fst = SignalColumn.fixed := rfl

/-- The columns of yes and no. -/
def flagColumns : List String := [SignalColumn.notifiers, SignalColumn.getObjRef]

/-! ## Cells of a row -/

/-- From the cell of a column its value was taken, or there is a finding about the column; and there is
none about another column. -/
structure Coerced (title : String) (cell : Cell) (taken : Prop) (causes : List FindingCause) :
    Prop where
  takenOrFound : cell.isBlank = false → taken ∨ ∃ cause ∈ causes, cause.title? = some title
  about : ∀ cause ∈ causes, ∀ other, cause.title? = some other → other = title

section Coerced

variable {title : String} {cell : Cell} {taken : Prop} {causes : List FindingCause}

theorem Coerced.blank (h : cell.isBlank = true) : Coerced title cell taken [] where
  takenOrFound hfilled := absurd (h.symm.trans hfilled) (by decide)
  about := by simp

theorem Coerced.accepted (h : taken) (hcauses : ∀ cause ∈ causes, cause.title? = none) :
    Coerced title cell taken causes where
  takenOrFound _ := .inl h
  about cause hcause other hother := by cases (hcauses cause hcause).symm.trans hother

theorem Coerced.replaced {cause : FindingCause} (h : cause.title? = some title) :
    Coerced title cell taken [cause] where
  takenOrFound _ := .inr ⟨cause, List.mem_singleton_self cause, h⟩
  about := by simp [h]

/-- A finding is about no flag. -/
def Unflagged (cause : FindingCause) : Prop :=
  ∀ title, cause.title? = some title → title ∉ flagColumns

theorem Coerced.unflagged (h : Coerced title cell taken causes) (htitle : title ∉ flagColumns) :
    ∀ cause ∈ causes, Unflagged cause := by
  intro cause hcause other hother
  rw [h.about cause hcause other hother]
  exact htitle

/-- From a cell that is not blank the value is taken, if what is found is not reported. -/
theorem Coerced.taken_or {reported : String → Prop} (h : Coerced title cell taken causes)
    (hreported : ∀ cause ∈ causes, ∀ title, cause.title? = some title → reported title)
    (hfilled : cell.isBlank = false) : taken ∨ reported title := by
  rcases h.takenOrFound hfilled with htaken | ⟨cause, hcause, htitle⟩
  · exact .inl htaken
  · exact .inr (hreported cause hcause title htitle)

end Coerced

theorem getD_text?_of_filled {cell : Cell} (h : cell.isBlank = false) (default : String) :
    cell.text? = some (cell.text?.getD default) := by
  obtain ⟨text, htext⟩ := Cell.exists_text? h
  rw [htext]
  rfl

namespace SignalRow

variable (row : SignalRow) (columns : Columns)

theorem coerced_choice {α : Type} [Attribute α] (default : α) :
    Coerced (Attribute.field α) (row.cell columns (Attribute.field α))
      (Parses Attribute.read (row.choice columns default).1 (row.cell columns (Attribute.field α)))
      (row.choice columns default).2 := by
  unfold choice text?
  split
  · rename_i hblank
    exact .blank (Cell.isBlank_of_text? hblank)
  · rename_i raw htext
    split
    · rename_i value hread
      exact .accepted ⟨raw, htext, hread⟩ (by simp)
    · rename_i error hread
      exact .replaced (congrArg some (Attribute.field_of_read hread))

theorem coerced_readType :
    Coerced SignalColumn.dataType (row.cell columns SignalColumn.dataType)
      (Parses DataType.read (row.readType columns).1 (row.cell columns SignalColumn.dataType))
      (row.readType columns).2 := by
  unfold readType text?
  split
  · rename_i hblank
    exact .blank (Cell.isBlank_of_text? hblank)
  · rename_i raw htext
    split
    · rename_i type hread
      refine .accepted ⟨raw, htext, hread⟩ ?_
      -- That a struct has no members here is about no column.
      split <;> simp [FindingCause.title?]
    · rename_i error hread
      exact .replaced (congrArg some (DataType.field_of_read hread))

theorem coerced_ranged (range : FieldRange) :
    Coerced range.field (row.cell columns range.field)
      (Counts (row.ranged columns range).1 (row.cell columns range.field))
      (row.ranged columns range).2 := by
  unfold ranged
  dsimp only
  split
  · rename_i hblank
    exact .blank hblank
  · split
    · exact .replaced rfl
    · rename_i number hnumber
      split
      · rename_i hsame
        have hsize := (range.clamp number).toNat_lt
        have hvalue := Binary64.value?_of_sameNumber (by omega) hsame
        exact .accepted ⟨number, hnumber, hvalue⟩ (by simp)
      · exact .replaced rfl

theorem unflagged_read : ∀ cause ∈ (row.read columns).2, Unflagged cause := by
  simp only [read, List.forall_mem_append]
  exact ⟨⟨⟨⟨⟨⟨⟨⟨⟨⟨(row.coerced_choice columns _).unflagged (by decide),
    (row.coerced_choice columns _).unflagged (by decide)⟩,
    (row.coerced_choice columns _).unflagged (by decide)⟩,
    (row.coerced_choice columns _).unflagged (by decide)⟩,
    (row.coerced_choice columns _).unflagged (by decide)⟩,
    (row.coerced_choice columns _).unflagged (by decide)⟩,
    (row.coerced_readType columns).unflagged (by decide)⟩,
    (row.coerced_ranged columns _).unflagged (by decide)⟩,
    (row.coerced_ranged columns _).unflagged (by decide)⟩,
    (row.coerced_ranged columns _).unflagged (by decide)⟩,
    (row.coerced_ranged columns _).unflagged (by decide)⟩

/-- Where everything that is found in a row is reported, every value is that of its cell or reported. -/
theorem taken_or_reported {signal : Signal} {reported : String → Prop}
    (hname : row.text? columns SignalColumn.name = some row.name)
    (hsignal : RepairedFrom (row.read columns).1 signal)
    (hsource : signal.source = (row.read columns).1.source ∨ reported SignalColumn.source)
    (hfound : ∀ cause ∈ (row.read columns).2, ∀ title, cause.title? = some title → reported title) :
    ∀ column ∈ columnValues row.name signal, column.1 ∉ flagColumns →
      (row.cell columns column.1).isBlank = false →
      column.2 (row.cell columns column.1) ∨ reported column.1 := by
  simp only [read, List.forall_mem_append] at hfound
  obtain ⟨⟨⟨⟨⟨⟨⟨⟨⟨⟨h₁, h₂⟩, h₃⟩, h₄⟩, h₅⟩, h₆⟩, h₇⟩, h₈⟩, h₉⟩, h₁₀⟩, h₁₁⟩ := hfound
  rw [hsignal.values]
  simp only [columnValues, List.forall_mem_cons]
  refine ⟨?_, ?_, ?_, ?_, ?_, ?_, ?_, ?_, ?_, ?_, ?_, ?_, ?_, ?_, ?_, ?_, ?_, by simp⟩ <;>
    intro hflag hfilled
  · exact .inl hname
  · exact .inl (getD_text?_of_filled hfilled row.name)
  · exact (row.coerced_choice columns MemoryRegion.ddr).taken_or h₁ hfilled
  · exact (row.coerced_ranged columns .bufferCount).taken_or h₈ hfilled
  · exact (row.coerced_choice columns AccessOrder.concurrent).taken_or h₂ hfilled
  · exact (row.coerced_choice columns Initial.zeroMemory).taken_or h₃ hfilled
  · exact absurd (by decide) hflag
  · refine hsource.imp (fun hkept => ?_) id
    rw [hkept]
    exact getD_text?_of_filled hfilled ""
  · exact (row.coerced_choice columns Transport.sharedMemory).taken_or h₄ hfilled
  · exact absurd (by decide) hflag
  · exact (row.coerced_ranged columns .sharedBuffers).taken_or h₉ hfilled
  · exact (row.coerced_ranged columns .timeout).taken_or h₁₀ hfilled
  · exact (row.coerced_ranged columns .periodicity).taken_or h₁₁ hfilled
  · exact (row.coerced_choice columns SafetyLevel.qm).taken_or h₅ hfilled
  · exact (row.coerced_choice columns Checksum.absent).taken_or h₆ hfilled
  · exact (row.coerced_readType columns).taken_or h₇ hfilled
  · exact .inl (getD_text?_of_filled hfilled defaultDescription)

/-- A flag is what its cell says, and off if that is neither yes nor no. -/
theorem flags_read {signal : Signal} (hsignal : RepairedFrom (row.read columns).1 signal) :
    signal.notifiers = (yesNo? (row.cell columns SignalColumn.notifiers)).getD false ∧
    signal.getObjRef = (yesNo? (row.cell columns SignalColumn.getObjRef)).getD false :=
  ⟨(congrArg Signal.notifiers hsignal.values).trans (isWord_yes _),
    (congrArg Signal.getObjRef hsignal.values).trans (isWord_yes _)⟩

theorem flag_taken_iff {signal : Signal} (hsignal : RepairedFrom (row.read columns).1 signal) :
    ∀ column ∈ columnValues row.name signal, column.1 ∈ flagColumns →
      (column.2 (row.cell columns column.1) ↔ yesNo? (row.cell columns column.1) ≠ none) := by
  have hflags : (columnValues row.name signal).filter (fun column => column.1 ∈ flagColumns) =
      [(SignalColumn.notifiers, fun cell => yesNo? cell = some signal.notifiers),
        (SignalColumn.getObjRef, fun cell => yesNo? cell = some signal.getObjRef)] := rfl
  have hsaid : ∀ said : Option Bool, said = some (said.getD false) ↔ said ≠ none := by
    rintro (_ | said) <;> simp
  obtain ⟨hnotifiers, hgetObjRef⟩ := row.flags_read columns hsignal
  intro column hcolumn hflag
  have hmem : column ∈ (columnValues row.name signal).filter (fun column => column.1 ∈ flagColumns) :=
    List.mem_filter.mpr ⟨hcolumn, decide_eq_true hflag⟩
  rw [hflags, List.mem_pair] at hmem
  rcases hmem with rfl | rfl
  · dsimp only
    rw [hnotifiers, hsaid]
  · dsimp only
    rw [hgetObjRef, hsaid]

end SignalRow

/-! ## The repair -/

/-- A source is kept or reported with the signal's name, and so is the flag of the source core. -/
theorem reported_repairSource (cores : List CoreId) (name : String) (signal : Signal) :
    let repaired := (repairSource cores name signal).1
    let causes := (repairSource cores name signal).2
    (repaired.source = signal.source ∨ .unknownSource name signal.source ∈ causes) ∧
    (repaired.destinations = signal.destinations ∨
      ∃ id : CoreId, .sourceAmongDestinations name id.text ∈ causes ∧
        repaired.destinations = signal.destinations.insert id.destinationKey false) := by
  unfold repairSource
  dsimp only
  split
  · exact ⟨.inl rfl, .inl rfl⟩
  · split
    · exact ⟨.inr (List.mem_singleton_self _), .inl rfl⟩
    · rename_i id _
      split
      · exact ⟨.inl rfl, .inr ⟨id, List.mem_singleton_self _, rfl⟩⟩
      · exact ⟨.inl rfl, .inl rfl⟩

/-! ## Rows that become signals -/

/-- A row at an index below the header gives a signal: it has the name, and no row above it has. -/
structure BecomesSignal (sheet : Sheet) (column : Nat) (row : Row) (index : Nat) (name : String) :
    Prop where
  mem : (row, index) ∈ sheet.body
  named : nameIn? column row = some name
  new : name ∉ namesIn column (sheet.above index)

variable {today : Date} {results : SheetResults} {project : Project} {findings : List Finding}
  {sheet : Sheet} {column : Nat} {row : Row} {name : String}

theorem find?_below_iff :
    (sheet.below.find? fun row => nameIn? column row = some name) = some row ↔
      ∃ index, BecomesSignal sheet column row index name := by
  constructor
  · intro hfound
    obtain ⟨hnamed, front, back, hbelow, hfront⟩ := List.find?_eq_some_iff_append.mp hfound
    have habove : sheet.above (front.length + 1) = front := by
      rw [Sheet.above_eq, hbelow, Nat.add_sub_cancel, List.take_left]
    refine ⟨front.length + 1, ?_, by simpa using hnamed, ?_⟩
    · rw [Sheet.body_eq_zipIdx, List.mk_mem_zipIdx_iff_le_and_getElem?_sub, hbelow]
      simp
    · rw [habove, ← find?_eq_none_iff, List.find?_eq_none]
      intro other hother
      simpa using hfront other hother
  · rintro ⟨index, hmem, hnamed, hnew⟩
    rw [Sheet.body_eq_zipIdx, List.mk_mem_zipIdx_iff_le_and_getElem?_sub] at hmem
    obtain ⟨hlt, hrow⟩ := List.getElem?_eq_some_iff.mp hmem.2
    rw [Sheet.above_eq, ← find?_eq_none_iff] at hnew
    rw [← List.take_append_drop (index - 1) sheet.below, List.find?_append, hnew, Option.none_or,
      List.drop_eq_getElem_cons hlt, hrow]
    simp [hnamed]

theorem mem_keys_readSignals_iff (hcolumn : Entries.get? SignalColumn.name sheet.titles = some column) :
    name ∈ (readSignals (some sheet)).1.keys ↔
      ∃ row index, BecomesSignal sheet column row index name := by
  simp only [← find?_below_iff, keys_readSignals hcolumn, List.mem_eraseDups,
    ← Option.ne_none_iff_exists', ne_eq, find?_eq_none_iff, not_not]

theorem BecomesSignal.get? {index : Nat} (h : BecomesSignal sheet column row index name)
    (hcolumn : Entries.get? SignalColumn.name sheet.titles = some column) :
    (readSignals (some sheet)).1.get? name = some (readRow sheet.header name row).1 := by
  rw [get?_readSignals hcolumn, find?_below_iff.mpr ⟨index, h⟩]
  rfl

theorem BecomesSignal.found {index : Nat} (h : BecomesSignal sheet column row index name)
    (hcolumn : Entries.get? SignalColumn.name sheet.titles = some column) :
    ∀ cause ∈ (readRow sheet.header name row).2,
      ⟨sheet.name, some (index + 1), cause⟩ ∈ (readSignals (some sheet)).2 := by
  intro cause hcause
  rw [findings_readSignals hcolumn]
  refine List.mem_flatMap.mpr ⟨(row, index), h.mem, ?_⟩
  rw [findingsAt, findingsIn_new h.named h.new]
  exact List.mem_map_of_mem hcause

/-! ## Imports -/

/-- With a signal there is something to import. -/
theorem importSheets_of_signal (today : Date)
    (hsheet : Entries.get? signalSheet results = some (.ok sheet))
    (hname : name ∈ (readSignals (some sheet)).1.keys) :
    ∃ project findings, importSheets today results = .ok (project, findings) := by
  have hsignals : (readSignals (some sheet)).1.isEmpty = false := by
    rw [OrderedMap.isEmpty, List.isEmpty_eq_false_iff]
    intro hnone
    simp [OrderedMap.keys, hnone] at hname
  unfold importSheets
  rw [takeSheets_eq, hsheet]
  simp only [Option.bind_some, Except.toOption, hsignals, Bool.and_false]
  exact ⟨_, _, rfl⟩

/-- What the repair of a signal finds is found by the import. -/
theorem repairs_importSheets (h : importSheets today results = .ok (project, findings))
    (hsheet : Entries.get? signalSheet results = some (.ok sheet)) {signal : Signal}
    (hsignal : (readSignals (some sheet)).1.get? name = some signal) :
    ∀ cause ∈ (repairSource project.availableCores name signal).2,
      ⟨signalSheet, none, cause⟩ ∈ findings := by
  obtain ⟨hproject, hfindings⟩ := importSheets_parts h
  rw [hsheet] at hproject hfindings
  intro cause hcause
  rw [hfindings]
  refine List.mem_append_right _ (List.mem_flatMap.mpr ⟨(name, signal), ?_, ?_⟩)
  · exact Entries.mem_of_get? hsignal
  · rw [hproject] at hcause
    exact List.mem_map_of_mem hcause

/-! ### Findings about no column -/

theorem title?_unreadable (name : String) (outcome : Outcome) :
    ∀ finding ∈ unreadable name outcome, finding.cause.title? = none := by
  match outcome with
  | none => simp [unreadable]
  | some (.ok sheet) => simp [unreadable]
  | some (.error error) => simp [unreadable, FindingCause.title?]

theorem title?_readVersion (sheet : Option Sheet) :
    ∀ finding ∈ (readVersion today sheet).2, finding.cause.title? = none := by
  cases sheet with
  | none => simp [readVersion]
  | some sheet =>
    intro finding hfinding
    obtain ⟨cause, hcause, rfl⟩ := List.mem_map.mp hfinding
    obtain ⟨raw, rfl⟩ := eq_of_mem_readDateCell hcause
    rfl

theorem title?_unreadablePlatform (results : SheetResults) :
    ∀ finding ∈ unreadablePlatform results, finding.cause.title? = none := by
  intro finding hfinding
  obtain ⟨name, _, hname⟩ := List.mem_flatMap.mp hfinding
  exact title?_unreadable name _ finding hname

theorem title?_repairSources (project : Project) :
    ∀ finding ∈ (repairSources project).2, finding.cause.title? = none := by
  intro finding hfinding
  obtain ⟨entry, _, hentry⟩ := List.mem_flatMap.mp hfinding
  obtain ⟨cause, hcause, rfl⟩ := List.mem_map.mp hentry
  rcases eq_of_mem_repairSource hcause with rfl | ⟨id, rfl⟩ <;> rfl

/-- What is found in the rows of a sheet is about no flag. -/
theorem unflagged_findingsAt (sheet : Sheet) (column : Nat) (row : Row) (index : Nat) :
    ∀ finding ∈ findingsAt sheet column row index, Unflagged finding.cause := by
  unfold findingsAt findingsIn
  split
  · simp
  · split
    · simp [Unflagged, FindingCause.title?]
    · intro finding hfinding
      obtain ⟨cause, hcause, rfl⟩ := List.mem_map.mp hfinding
      exact SignalRow.unflagged_read _ _ cause hcause

theorem unflagged_importSheets (h : importSheets today results = .ok (project, findings))
    (hsheet : Entries.get? signalSheet results = some (.ok sheet))
    (hcolumn : Entries.get? SignalColumn.name sheet.titles = some column) :
    ∀ finding ∈ findings, Unflagged finding.cause := by
  have hplain : ∀ found : List Finding, (∀ finding ∈ found, finding.cause.title? = none) →
      ∀ finding ∈ found, Unflagged finding.cause := by
    intro found hfound finding hfinding title htitle
    cases (hfound finding hfinding).symm.trans htitle
  have hrows : ∀ finding ∈ (readSignals (some sheet)).2, Unflagged finding.cause := by
    intro finding hfinding
    rw [findings_readSignals hcolumn] at hfinding
    obtain ⟨item, _, hitem⟩ := List.mem_flatMap.mp hfinding
    exact unflagged_findingsAt sheet column item.1 item.2 finding hitem
  obtain ⟨_, hfindings⟩ := importSheets_parts h
  rw [hfindings, hsheet]
  simp only [List.forall_mem_append]
  exact ⟨⟨⟨⟨⟨hplain _ (title?_unreadable _ _), hplain _ (title?_readVersion _)⟩,
    hplain _ (title?_unreadablePlatform _)⟩, hplain _ (title?_unreadable _ _)⟩, hrows⟩,
    hplain _ (title?_repairSources _)⟩

/-! ### Values and reports -/

/-- What was done about a cell is reported in the row of the signal with the column, or, if its source is
no core, by the signal's name. -/
inductive Reported (findings : List Finding) (sheet : Sheet) (number : Nat) (name title : String) : Prop
  | inRow (cause : FindingCause) (about : cause.title? = some title)
    (found : ⟨sheet.name, some number, cause⟩ ∈ findings)
  | source (text : String) (about : title = SignalColumn.source)
    (found : ⟨signalSheet, none, .unknownSource name text⟩ ∈ findings)

theorem not_reported_flag {number : Nat} {title : String}
    (hfindings : ∀ finding ∈ findings, Unflagged finding.cause) (htitle : title ∈ flagColumns) :
    ¬ Reported findings sheet number name title := by
  rintro (⟨cause, habout, hfound⟩ | ⟨text, habout, _⟩)
  · exact hfindings _ hfound title habout htitle
  · rw [habout] at htitle
    exact absurd htitle (by decide)

/-- Every cell of a fixed column that is not blank has its value in the signal of the row or is reported.
Only a flag is never reported; it has the cell's value exactly if this is yes or no, and is off for
every other one. A flag of a destination that is turned off is reported with the signal's name. And every
signal of the import is the signal of a row. -/
theorem values_taken_or_reported {today : Date} {results : SheetResults} {sheet : Sheet} {column : Nat}
    (hsheet : Entries.get? signalSheet results = some (.ok sheet))
    (hcolumn : Entries.get? SignalColumn.name sheet.titles = some column) :
    (∀ {row index name}, BecomesSignal sheet column row index name →
      ∃ project findings signal, importSheets today results = .ok (project, findings) ∧
        project.signals.get? name = some signal ∧
        (∀ title holds, (title, holds) ∈ columnValues name signal →
          let cell := cellUnder sheet.titles row title
          cell.isBlank = false →
          (title ∉ flagColumns → holds cell ∨ Reported findings sheet (index + 1) name title) ∧
          (title ∈ flagColumns → ¬ Reported findings sheet (index + 1) name title ∧
            (holds cell ↔ yesNo? cell ≠ none))) ∧
        signal.notifiers = (yesNo? (cellUnder sheet.titles row SignalColumn.notifiers)).getD false ∧
        signal.getObjRef = (yesNo? (cellUnder sheet.titles row SignalColumn.getObjRef)).getD false ∧
        (signal.destinations = (readRow sheet.header name row).1.destinations ∨
          ∃ id : CoreId, (⟨signalSheet, none, .sourceAmongDestinations name id.text⟩ ∈ findings) ∧
            signal.destinations =
              (readRow sheet.header name row).1.destinations.insert id.destinationKey false)) ∧
    ∀ {project findings}, importSheets today results = .ok (project, findings) →
      ∀ name ∈ project.signals.keys, ∃ row index, BecomesSignal sheet column row index name := by
  constructor
  · intro row index name hrow
    obtain ⟨project, findings, himport⟩ := importSheets_of_signal today hsheet
      ((mem_keys_readSignals_iff hcolumn).mpr ⟨row, index, hrow⟩)
    obtain ⟨hsignals, hread⟩ := signals_of_importSheets himport hsheet
    let read : SignalRow := ⟨name, index + 1, row⟩
    let signal := (repairSource project.availableCores name (readRow sheet.header name row).1).1
    have hrepaired : RepairedFrom (read.read (.of sheet.titles)).1 signal :=
      repairedFrom_repairSource _ _ _
    have hrepairs := repairs_importSheets himport hsheet (hrow.get? hcolumn)
    obtain ⟨hsource, hdestinations⟩ := reported_repairSource project.availableCores name
      (readRow sheet.header name row).1
    obtain ⟨hnotifiers, hgetObjRef⟩ := read.flags_read _ hrepaired
    refine ⟨project, findings, signal, himport, ?_, ?_, hnotifiers, hgetObjRef, ?_⟩
    · rw [hsignals, OrderedMap.get?_mapValues, hrow.get? hcolumn]
      rfl
    · intro title holds hmem cell hfilled
      refine ⟨fun htitle => ?_, fun htitle => ⟨?_, ?_⟩⟩
      · have hname : read.text? (.of sheet.titles) SignalColumn.name = some name := by
          change (cellUnder sheet.titles row SignalColumn.name).text? = some name
          rw [cellUnder, hcolumn]
          exact hrow.named
        refine read.taken_or_reported _ hname hrepaired ?_ ?_ (title, holds) hmem htitle hfilled
        · exact hsource.imp id fun hfound => .source _ rfl (hrepairs _ hfound)
        · intro cause hcause title habout
          exact .inRow cause habout (hread.subset (hrow.found hcolumn cause hcause))
      · exact not_reported_flag (unflagged_importSheets himport hsheet hcolumn) htitle
      · exact read.flag_taken_iff _ hrepaired (title, holds) hmem htitle
    · rcases hdestinations with hkept | ⟨id, hfound, hchanged⟩
      · exact .inl hkept
      · exact .inr ⟨id, hrepairs _ hfound, hchanged⟩
  · intro project findings himport name hname
    rw [(signals_of_importSheets himport hsheet).1, OrderedMap.keys_mapValues] at hname
    exact (mem_keys_readSignals_iff hcolumn).mp hname

/-- A sheet with one signal, a truth value for the one flag, a word for the other one, and a number out
of its range. -/
def truthForFlag : Sheet := ⟨"LookUpTable",
  #[#[.text "Data_Type", .text "Notifiers", .text "GetObjRef", .text "Timeout"],
    #[.text "speed", .bool true, .text "YES", .text "5000"]]⟩

/-- The word is read and the number reported. The truth value gives an off flag and no report. -/
theorem values_taken_or_reported_truthForFlag :
    ∃ project findings signal,
      importSheets .epoch [("LookUpTable", .ok truthForFlag)] = .ok (project, findings) ∧
      project.signals.get? "speed" = some signal ∧
      signal.getObjRef = true ∧
      signal.timeout = 1000 ∧ Reported findings truthForFlag 2 "speed" "Timeout" ∧
      signal.notifiers = false ∧ ¬ Reported findings truthForFlag 2 "speed" "Notifiers" := by
  have hcolumn : Entries.get? SignalColumn.name truthForFlag.titles = some 0 := by decide
  have hrow : BecomesSignal truthForFlag 0 #[.text "speed", .bool true, .text "YES", .text "5000"] 1
      "speed" := ⟨by decide, by decide, by decide⟩
  obtain ⟨project, findings, signal, himport, hsignal, hvalues, hnotifiers, hgetObjRef, _⟩ :=
    (@values_taken_or_reported .epoch [("LookUpTable", .ok truthForFlag)] _ _ rfl hcolumn).1 hrow
  have htimeout := hvalues FieldRange.timeout.field (Counts signal.timeout) (by simp [columnValues])
    (by decide)
  have hflag := hvalues SignalColumn.notifiers (fun cell => yesNo? cell = some signal.notifiers)
    (by simp [columnValues]) (by decide)
  have hread : (importSheets .epoch [("LookUpTable", .ok truthForFlag)]).toOption.bind (fun outcome =>
      (outcome.1.signals.get? "speed").map Signal.timeout) = some 1000 := by decide +kernel
  have hlowered : signal.timeout = 1000 := by
    simpa [himport, Except.toOption, hsignal] using hread
  have hnot : ¬ Counts signal.timeout (.text "5000") := by
    rintro ⟨number, hnumber, hvalue⟩
    have hcell : (Cell.text "5000").number?.bind Binary64.value? = some 5000 := by decide +kernel
    rw [hnumber, Option.bind_some, hvalue, hlowered] at hcell
    exact absurd hcell (by decide)
  exact ⟨project, findings, signal, himport, hsignal, hgetObjRef.trans (by decide), hlowered,
    (htimeout.1 (by decide)).resolve_left hnot, hnotifiers.trans (by decide), (hflag.2 (by decide)).1⟩

/-- A truth value below the header of a flag is no value of the imported signal, and nothing at all is
found. -/
theorem flag_changed_silently :
    let archive := Archive.ofPairs
      [("xl/workbook.xml", .text "<w><sheets><sheet name='LookUpTable'/></sheets></w>"),
        ("xl/worksheets/sheet1.xml", .text ("<w><sheetData><row><c t='str'><v>Data_Type</v></c>" ++
          "<c t='str'><v>Notifiers</v></c></row><row><c t='str'><v>speed</v></c>" ++
          "<c t='b'><v>1</v></c></row></sheetData></w>"))]
    let row : Row := #[.text "speed", .bool true]
    let sheet : Sheet := ⟨"LookUpTable", #[#[.text "Data_Type", .text "Notifiers"], row]⟩
    archive.sheets = .ok [("LookUpTable", .ok sheet)] ∧
    ∃ project signal, importArchive .epoch archive = .ok (project, []) ∧
      project.signals.get? "speed" = some signal ∧
      (cellUnder sheet.titles row "Notifiers").isBlank = false ∧
      yesNo? (cellUnder sheet.titles row "Notifiers") ≠ some signal.notifiers := by
  intro archive row sheet
  have hsheets : archive.sheets = .ok [("LookUpTable", .ok sheet)] := by decide +kernel
  have hread : (importSheets .epoch [("LookUpTable", .ok sheet)]).toOption.map (fun outcome =>
      (outcome.2, (outcome.1.signals.get? "speed").map Signal.notifiers)) = some ([], some false) := by
    decide +kernel
  obtain ⟨⟨project, findings⟩, houtcome, hvalues⟩ := Option.map_eq_some_iff.mp hread
  obtain ⟨hfindings, hflag⟩ := Prod.mk.inj hvalues
  obtain ⟨signal, hsignal, hoff⟩ := Option.map_eq_some_iff.mp hflag
  have himport := importArchive_of_sheets hsheets houtcome
  have hnothing : findings = [] := hfindings
  rw [hnothing] at himport
  refine ⟨hsheets, project, signal, himport, hsignal, by decide, ?_⟩
  rw [hoff]
  decide

end Exchange

end SignalCatalog
