import SignalCatalog.Proofs.Exchange.Independence

/-!
# The rows of the signal sheet

Each row below the header of a signal sheet is read by itself. Of the rows with one name the first gives
the signal, from its cells and the headers alone, and every other one gives a single finding; a row
without a name gives nothing. So the signals are those of the distinct names in the order in which they
first occur, and when some rows are exchanged for others, every signal stays as it is whose first row is
above them or whose name is in none of them. The repair of the sources that follows looks at the cores
and at the signal itself.
-/

namespace SignalCatalog

/-! ## Entries with distinct keys -/

/-- Entries with distinct keys are determined by the keys in order and by what is found under each. -/
theorem Entries.eq_of_get? {α : Type} {entries others : List (String × α)}
    (hkeys : keys entries = keys others) (hnodup : (keys entries).Nodup)
    (hget : ∀ key, get? key entries = get? key others) : entries = others := by
  induction entries generalizing others with
  | nil => exact (List.map_eq_nil_iff.mp hkeys.symm).symm
  | cons entry rest ih =>
    cases others with
    | nil => simp at hkeys
    | cons other more =>
      obtain ⟨key, value⟩ := entry
      obtain ⟨key', value'⟩ := other
      obtain ⟨rfl, hmore⟩ : key = key' ∧ keys rest = keys more := by simpa using hkeys
      obtain ⟨hfresh, hrest⟩ := List.nodup_cons.mp hnodup
      have hvalue : value = value' := by simpa [get?] using hget key
      rw [hvalue, ih hmore hrest]
      intro k
      by_cases hk : key = k
      · subst hk
        rw [get?_eq_none_iff.mpr hfresh, get?_eq_none_iff.mpr (hmore ▸ hfresh)]
      · simpa [get?, hk] using hget k

namespace Sheet

/-- The rows below the header. -/
def below (sheet : Sheet) : List Row := sheet.rows.toList.drop 1

/-- The rows between the header and the row of an index. -/
def above (sheet : Sheet) (index : Nat) : List Row := (sheet.rows.toList.take index).drop 1

theorem body_eq_zipIdx (sheet : Sheet) : sheet.body = sheet.below.zipIdx 1 := by
  unfold body below
  cases sheet.rows.toList <;> simp

theorem above_eq (sheet : Sheet) (index : Nat) : sheet.above index = sheet.below.take (index - 1) :=
  List.drop_take ..

end Sheet

namespace Exchange

/-- The name in a row, if the row has one. -/
def nameIn? (column : Nat) (row : Row) : Option String := (Row.cell row column).text?

/-- The names in rows, in order and with repetitions. -/
def namesIn (column : Nat) (rows : List Row) : List String := rows.filterMap (nameIn? column)

/-- What is read from a row with a name under a header: the signal and what is wrong with the cells. -/
def readRow (header : Row) (name : String) (row : Row) : Signal × List FindingCause :=
  SignalRow.read ⟨name, 0, row⟩ (.of (Sheet.titles ⟨"", #[header]⟩))

theorem read_eq_readRow (sheet : Sheet) (row : SignalRow) :
    row.read (.of sheet.titles) = readRow sheet.header row.name row.cells := rfl

/-- The rows that have a name, the first row at an index. -/
def numbered (column start : Nat) (rows : List Row) : List SignalRow :=
  (rows.zipIdx start).filterMap fun (cells, index) =>
    (nameIn? column cells).map fun name => ⟨name, index + 1, cells⟩

theorem namedRows_eq (sheet : Sheet) (column : Nat) :
    namedRows sheet column = numbered column 1 sheet.below := by
  rw [namedRows, Sheet.body_eq_zipIdx]
  rfl

variable {column start : Nat} {row : Row} {rows rest front back : List Row} {name : String}

theorem numbered_blank (h : nameIn? column row = none) :
    numbered column start (row :: rest) = numbered column (start + 1) rest := by
  simp [numbered, h]

theorem numbered_named (h : nameIn? column row = some name) :
    numbered column start (row :: rest) =
      ⟨name, start + 1, row⟩ :: numbered column (start + 1) rest := by
  simp [numbered, h]

theorem map_name_numbered (column start : Nat) (rows : List Row) :
    (numbered column start rows).map SignalRow.name = namesIn column rows := by
  induction rows generalizing start with
  | nil => rfl
  | cons row rest ih =>
    cases hname : nameIn? column row with
    | none => simp [numbered_blank hname, namesIn, hname, ih]
    | some name => simp [numbered_named hname, namesIn, hname, ih]

/-- The first row with a name is the same whether rows are numbered or not. -/
theorem find?_numbered (column start : Nat) (rows : List Row) (name : String) :
    ((numbered column start rows).find? fun row => row.name = name).map SignalRow.cells =
      rows.find? fun row => nameIn? column row = some name := by
  induction rows generalizing start with
  | nil => rfl
  | cons row rest ih =>
    cases hname : nameIn? column row with
    | none => simp [numbered_blank hname, hname, ih]
    | some other =>
      by_cases hother : other = name
      · simp [numbered_named hname, hname, hother]
      · simp [numbered_named hname, hname, hother, ih]

/-! ## What is read from rows -/

section Read

variable {sheetName : String} {columns : Columns} {seen : List String}

/-- The names that are read are the distinct ones in the order of their first rows, without those that
have been seen before. -/
theorem keys_readRows (rows : List SignalRow) :
    Entries.keys (readRows sheetName columns seen rows).1 =
      ((rows.map SignalRow.name).filter fun name => decide (name ∉ seen)).eraseDups := by
  induction rows generalizing seen with
  | nil => rfl
  | cons row rest ih =>
    by_cases hseen : row.name ∈ seen
    · simp [readRows, hseen, ih]
    · have hrest : (rest.map SignalRow.name).filter (fun name => decide (name ∉ row.name :: seen)) =
          ((rest.map SignalRow.name).filter fun name => decide (name ∉ seen)).filter
            fun name => !name == row.name := by
        rw [List.filter_filter]
        apply List.filter_congr
        intro name _
        by_cases hname : name = row.name <;> simp [hname]
      rw [List.map_cons, List.filter_cons_of_pos (by simpa using hseen), List.eraseDups_cons, ← hrest,
        ← ih]
      simp [readRows, hseen]

/-- A signal is read from the first row with its name. -/
theorem get?_readRows (rows : List SignalRow) (name : String) :
    Entries.get? name (readRows sheetName columns seen rows).1 =
      if name ∈ seen then none
      else (rows.find? fun row => row.name = name).map fun row => (row.read columns).1 := by
  induction rows generalizing seen with
  | nil => simp [readRows, Entries.get?]
  | cons row rest ih =>
    by_cases hseen : row.name ∈ seen
    · by_cases hname : row.name = name
      · have hold : name ∈ seen := hname ▸ hseen
        simp [readRows, hseen, ih, hold]
      · simp [readRows, hseen, ih, hname]
    · by_cases hname : row.name = name
      · have hnew : name ∉ seen := hname ▸ hseen
        simp [readRows, Entries.get?, hname, hnew]
      · simp [readRows, hseen, Entries.get?, hname, Ne.symm hname, ih]

end Read

/-- What is found in a row: nothing without a name, one finding if the name is taken, or else what is
wrong with the cells. -/
def findingsIn (sheetName : String) (header : Row) (column : Nat) (taken : List String) (row : Row)
    (number : Nat) : List Finding :=
  match nameIn? column row with
  | none => []
  | some name =>
    if name ∈ taken then [⟨sheetName, some number, .duplicateSignal name⟩]
    else (readRow header name row).2.map fun cause => ⟨sheetName, some number, cause⟩

section Findings

variable {sheetName : String} {header : Row} {taken others : List String} {number : Nat}

theorem findingsIn_congr (h : ∀ name, name ∈ taken ↔ name ∈ others) :
    findingsIn sheetName header column taken row number =
      findingsIn sheetName header column others row number := by
  simp only [findingsIn, h]

theorem findingsIn_blank (h : nameIn? column row = none) :
    findingsIn sheetName header column taken row number = [] := by
  rw [findingsIn, h]

theorem findingsIn_taken (h : nameIn? column row = some name) (htaken : name ∈ taken) :
    findingsIn sheetName header column taken row number =
      [⟨sheetName, some number, .duplicateSignal name⟩] := by
  simp [findingsIn, h, htaken]

theorem findingsIn_new (h : nameIn? column row = some name) (hnew : name ∉ taken) :
    findingsIn sheetName header column taken row number =
      (readRow header name row).2.map fun cause => ⟨sheetName, some number, cause⟩ := by
  simp [findingsIn, h, hnew]

theorem mem_namesIn_cons {other : String} :
    other ∈ namesIn column (row :: rest) ↔
      nameIn? column row = some other ∨ other ∈ namesIn column rest := by
  simp [namesIn]

/-- The findings in rows are those of each row, with the names of the rows in front of it taken. -/
theorem findings_readRows (sheetName : String) (header : Row) (column start : Nat) (seen : List String)
    (rows : List Row) :
    (readRows sheetName (.of (Sheet.titles ⟨"", #[header]⟩)) seen (numbered column start rows)).2 =
      (rows.zipIdx start).flatMap fun item =>
        findingsIn sheetName header column (seen ++ namesIn column (rows.take (item.2 - start))) item.1
          (item.2 + 1) := by
  induction rows generalizing start seen with
  | nil => rfl
  | cons row rest ih =>
    -- Behind the first row its name is taken as well, if it has one.
    have hrest : ∀ seen', (∀ other, other ∈ seen' ↔ other ∈ seen ∨ nameIn? column row = some other) →
        (readRows sheetName (.of (Sheet.titles ⟨"", #[header]⟩)) seen'
          (numbered column (start + 1) rest)).2 =
        (rest.zipIdx (start + 1)).flatMap fun item =>
          findingsIn sheetName header column
            (seen ++ namesIn column ((row :: rest).take (item.2 - start))) item.1 (item.2 + 1) := by
      intro seen' hseen'
      rw [ih]
      apply List.flatMap_congr
      intro item hitem
      have hindex : start + 1 ≤ item.2 := List.le_snd_of_mem_zipIdx hitem
      have htake : item.2 - start = item.2 - (start + 1) + 1 := by omega
      apply findingsIn_congr
      intro other
      rw [htake, List.take_succ_cons, List.mem_append, List.mem_append, mem_namesIn_cons, hseen',
        or_assoc]
    have hfront : seen ++ namesIn column ((row :: rest).take (start - start)) = seen := by
      simp [namesIn]
    rw [List.zipIdx_cons, List.flatMap_cons, hfront]
    cases hname : nameIn? column row with
    | none =>
      rw [numbered_blank hname, findingsIn_blank hname, List.nil_append]
      exact hrest seen (by simp [hname])
    | some name =>
      rw [numbered_named hname, readRows]
      by_cases hold : name ∈ seen
      · have hsame : ∀ other, other ∈ seen ↔ other ∈ seen ∨ nameIn? column row = some other := by
          intro other
          rw [hname, Option.some.injEq]
          exact ⟨Or.inl, fun h => h.elim id fun he => he ▸ hold⟩
        rw [if_pos hold, findingsIn_taken hname hold, ← hrest seen hsame]
        rfl
      · have hmore : ∀ other, other ∈ name :: seen ↔
            other ∈ seen ∨ nameIn? column row = some other := by
          intro other
          rw [hname, Option.some.injEq, List.mem_cons, or_comm, eq_comm]
        rw [if_neg hold, findingsIn_new hname hold, ← hrest (name :: seen) hmore]
        rfl

end Findings

/-! ## Signal sheets -/

variable {sheet first second : Sheet} {old new : List Row}

theorem namesIn_append (column : Nat) (front back : List Row) :
    namesIn column (front ++ back) = namesIn column front ++ namesIn column back :=
  List.filterMap_append ..

theorem find?_eq_none_iff : (rows.find? fun row => nameIn? column row = some name) = none ↔
    name ∉ namesIn column rows := by
  simp [namesIn]

/-- What is found in a row of a sheet at an index; the names of the rows above it are taken. -/
def findingsAt (sheet : Sheet) (column : Nat) (row : Row) (index : Nat) : List Finding :=
  findingsIn sheet.name sheet.header column (namesIn column (sheet.above index)) row (index + 1)

theorem readSignals_eq (h : Entries.get? SignalColumn.name sheet.titles = some column) :
    readSignals (some sheet) =
      (.ofPairs (readRows sheet.name (.of sheet.titles) [] (numbered column 1 sheet.below)).1,
        (readRows sheet.name (.of sheet.titles) [] (numbered column 1 sheet.below)).2) := by
  simp only [readSignals, h, namedRows_eq]

theorem entries_readSignals (h : Entries.get? SignalColumn.name sheet.titles = some column) :
    (readSignals (some sheet)).1.entries =
      (readRows sheet.name (.of sheet.titles) [] (numbered column 1 sheet.below)).1 := by
  rw [readSignals_eq h]
  apply Entries.ofPairs_of_nodup
  rw [keys_readRows]
  exact nodup_eraseDups _

/-- The signals of a sheet have the distinct names of the rows, in the order of the first rows. -/
theorem keys_readSignals (h : Entries.get? SignalColumn.name sheet.titles = some column) :
    (readSignals (some sheet)).1.keys = (namesIn column sheet.below).eraseDups := by
  rw [OrderedMap.keys, entries_readSignals h, keys_readRows, map_name_numbered]
  simp

/-- Under each name stands what is read from the first row of the name. -/
theorem get?_readSignals (h : Entries.get? SignalColumn.name sheet.titles = some column)
    (name : String) :
    (readSignals (some sheet)).1.get? name =
      (sheet.below.find? fun row => nameIn? column row = some name).map fun row =>
        (readRow sheet.header name row).1 := by
  have hfound : ∀ row, (numbered column 1 sheet.below).find? (fun row => row.name = name) = some row →
      row.read (.of sheet.titles) = readRow sheet.header name row.cells := by
    intro row hrow
    have hname : row.name = name := by simpa using List.find?_some hrow
    rw [read_eq_readRow, hname]
  rw [OrderedMap.get?, entries_readSignals h, get?_readRows, if_neg List.not_mem_nil,
    ← find?_numbered column 1, Option.map_map]
  exact Option.map_congr fun row hrow => congrArg Prod.fst (hfound row hrow)

theorem findings_readSignals (h : Entries.get? SignalColumn.name sheet.titles = some column) :
    (readSignals (some sheet)).2 =
      sheet.body.flatMap fun item => findingsAt sheet column item.1 item.2 := by
  rw [readSignals_eq h, Sheet.body_eq_zipIdx]
  refine (findings_readRows sheet.name sheet.header column 1 [] sheet.below).trans ?_
  simp only [List.nil_append, findingsAt, Sheet.above_eq]

/-! ## Rows exchanged for others -/

/-- Two sheets with one header whose rows agree but for one block. -/
structure Exchanged (first second : Sheet) (front old new back : List Row) : Prop where
  header : first.header = second.header
  first : first.below = front ++ old ++ back
  second : second.below = front ++ new ++ back

theorem Exchanged.titles (h : Exchanged first second front old new back) :
    first.titles = second.titles := by
  rw [Sheet.titles, Sheet.titles, h.header]

/-- A signal stays as it is if its first row is above the block or its name is not in the block. -/
theorem Exchanged.get?_eq (h : Exchanged first second front old new back)
    (hcolumn : Entries.get? SignalColumn.name first.titles = some column)
    (hname : name ∈ namesIn column front ∨ name ∉ namesIn column (old ++ new)) :
    (readSignals (some first)).1.get? name = (readSignals (some second)).1.get? name := by
  have hother : Entries.get? SignalColumn.name second.titles = some column := h.titles ▸ hcolumn
  have hrow : (first.below.find? fun row => nameIn? column row = some name) =
      second.below.find? fun row => nameIn? column row = some name := by
    rw [h.first, h.second]
    simp only [List.find?_append, Option.or_assoc]
    rcases hname with habove | houtside
    · have hfound : (front.find? fun row => nameIn? column row = some name).isSome = true := by
        rw [Option.isSome_iff_ne_none, ne_eq, find?_eq_none_iff, not_not]
        exact habove
      rw [Option.or_of_isSome hfound, Option.or_of_isSome hfound]
    · rw [namesIn_append, List.mem_append, not_or] at houtside
      rw [find?_eq_none_iff.mpr houtside.1, find?_eq_none_iff.mpr houtside.2]
  rw [get?_readSignals hcolumn, get?_readSignals hother, hrow, h.header]

/-- The names outside of the block stay in their order. -/
theorem Exchanged.keys_eq (h : Exchanged first second front old new back)
    (hcolumn : Entries.get? SignalColumn.name first.titles = some column) :
    ((readSignals (some first)).1.keys.filter fun name => name ∉ namesIn column (old ++ new)) =
      (readSignals (some second)).1.keys.filter fun name => name ∉ namesIn column (old ++ new) := by
  have hother : Entries.get? SignalColumn.name second.titles = some column := h.titles ▸ hcolumn
  have hold : (namesIn column old).filter (fun name => name ∉ namesIn column (old ++ new)) = [] := by
    simp +contextual [namesIn_append]
  have hnew : (namesIn column new).filter (fun name => name ∉ namesIn column (old ++ new)) = [] := by
    simp +contextual [namesIn_append]
  rw [keys_readSignals hcolumn, keys_readSignals hother, filter_eraseDups, filter_eraseDups, h.first,
    h.second]
  simp only [namesIn_append column front, namesIn_append column (front ++ old),
    namesIn_append column (front ++ new), List.filter_append, hold, hnew]

/-- Rows without a name and rows whose names stand above them have no part in the signals. -/
theorem Exchanged.signals_eq (h : Exchanged first second front old new back)
    (hcolumn : Entries.get? SignalColumn.name first.titles = some column)
    (habove : ∀ name ∈ namesIn column (old ++ new), name ∈ namesIn column front) :
    (readSignals (some first)).1 = (readSignals (some second)).1 := by
  have hother : Entries.get? SignalColumn.name second.titles = some column := h.titles ▸ hcolumn
  have hblock : ∀ block : List Row, (∀ name ∈ namesIn column block, name ∈ namesIn column front) →
      (namesIn column (front ++ block ++ back)).eraseDups =
        (namesIn column (front ++ back)).eraseDups := by
    intro block hnames
    have hremoved : (namesIn column block).removeAll (namesIn column front) = [] := by
      simpa [List.removeAll] using hnames
    rw [namesIn_append, namesIn_append, namesIn_append, List.append_assoc, List.eraseDups_append,
      List.eraseDups_append, List.removeAll, List.filter_append, ← List.removeAll, hremoved]
    rfl
  have hnames : (∀ name ∈ namesIn column old, name ∈ namesIn column front) ∧
      ∀ name ∈ namesIn column new, name ∈ namesIn column front := by
    rw [namesIn_append, List.forall_mem_append] at habove
    exact habove
  apply OrderedMap.ext
  apply Entries.eq_of_get?
  · change (readSignals (some first)).1.keys = (readSignals (some second)).1.keys
    rw [keys_readSignals hcolumn, keys_readSignals hother, h.first, h.second, hblock old hnames.1,
      hblock new hnames.2]
  · exact (readSignals (some first)).1.nodup
  · intro name
    refine h.get?_eq hcolumn ?_
    by_cases hname : name ∈ namesIn column (old ++ new)
    · exact Or.inl (habove name hname)
    · exact Or.inr hname

/-! ## Imports -/

variable {today : Date} {results : SheetResults} {project : Project} {findings : List Finding}

/-- An imported project has the signals of the sheet with their sources repaired, and what was found in
the sheet is found by the import. -/
theorem signals_of_importSheets (h : importSheets today results = .ok (project, findings))
    (hsheet : Entries.get? signalSheet results = some (.ok sheet)) :
    (project.signals = (readSignals (some sheet)).1.mapValues fun name signal =>
      (repairSource project.availableCores name signal).1) ∧
    (readSignals (some sheet)).2 <:+: findings := by
  obtain ⟨hproject, hfindings⟩ := importSheets_parts h
  rw [hsheet] at hproject hfindings
  constructor
  · rw [hproject]
    rfl
  · rw [hfindings]
    exact ⟨_, _, rfl⟩

/-- The rows of a signal sheet are read independently. The signals have the distinct names of the rows in
the order of the first rows. Each is read from the header and the first row with its name. In a row with
a name that stands above it there is one finding, and in a row without a name there is none. When rows
are exchanged for others, all signals stay as they are whose first row is above these or whose name is in
none of them, the other names keep their order, and if the rows have no name or only names that stand
above them, nothing changes. The imported signals are these signals with their sources repaired, so the
same holds of two imports with the same cores. -/
theorem rows_independent {sheet : Sheet} {column : Nat}
    (hcolumn : Entries.get? SignalColumn.name sheet.titles = some column) :
    let signals := (readSignals (some sheet)).1
    signals.keys = (namesIn column sheet.below).eraseDups ∧
    (∀ name, signals.get? name =
      (sheet.below.find? fun row => nameIn? column row = some name).map fun row =>
        (readRow sheet.header name row).1) ∧
    (readSignals (some sheet)).2 =
      sheet.body.flatMap (fun item => findingsAt sheet column item.1 item.2) ∧
    (∀ {other front old new back}, Exchanged sheet other front old new back →
      let others := (readSignals (some other)).1
      (∀ name, name ∈ namesIn column front ∨ name ∉ namesIn column (old ++ new) →
        signals.get? name = others.get? name) ∧
      (signals.keys.filter fun name => name ∉ namesIn column (old ++ new)) =
        others.keys.filter (fun name => name ∉ namesIn column (old ++ new)) ∧
      ((∀ name ∈ namesIn column (old ++ new), name ∈ namesIn column front) → signals = others)) ∧
    ∀ {today results project findings}, importSheets today results = .ok (project, findings) →
      Entries.get? signalSheet results = some (.ok sheet) →
      (project.signals = signals.mapValues fun name signal =>
        (repairSource project.availableCores name signal).1) ∧
      (readSignals (some sheet)).2 <:+: findings ∧
      ∀ {other front old new back today' results' project' findings'},
        Exchanged sheet other front old new back →
        importSheets today' results' = .ok (project', findings') →
        Entries.get? signalSheet results' = some (.ok other) →
        project.availableCores = project'.availableCores →
        ∀ name, name ∈ namesIn column front ∨ name ∉ namesIn column (old ++ new) →
          project.signals.get? name = project'.signals.get? name := by
  refine ⟨keys_readSignals hcolumn, get?_readSignals hcolumn, findings_readSignals hcolumn, ?_, ?_⟩
  · intro other front old new back h
    exact ⟨fun name => h.get?_eq hcolumn, h.keys_eq hcolumn, h.signals_eq hcolumn⟩
  · intro today results project findings himport hsheet
    obtain ⟨hsignals, hfound⟩ := signals_of_importSheets himport hsheet
    refine ⟨hsignals, hfound, ?_⟩
    intro other front old new back today' results' project' findings' h himport' hsheet' hcores name hname
    obtain ⟨hsignals', _⟩ := signals_of_importSheets himport' hsheet'
    rw [hsignals, hsignals', OrderedMap.get?_mapValues, OrderedMap.get?_mapValues,
      h.get?_eq hcolumn hname, hcores]

/-- A sheet of two rows with one name, one without a name, and one with a number out of range. -/
def repeatedName : Sheet := ⟨"LookUpTable", #[#[.text "Data_Type", .text "Timeout"],
  #[.text "speed", .text "20"], #[.text " ", .text "30"], #[.text "speed ", .text "40"],
  #[.text "gear", .text "5000"]]⟩

/-- The same sheet with another row in the place of the last two. -/
def otherRows : Sheet := ⟨"LookUpTable", #[#[.text "Data_Type", .text "Timeout"],
  #[.text "speed", .text "20"], #[.text " ", .text "30"], #[.text "torque", .text "50"]]⟩

/-- The second row of the name is only reported. With other rows in the place of it and of the last one
the signal of the first row is the same, also when it is imported. -/
theorem rows_independent_repeatedName :
    Exchanged repeatedName otherRows
      [#[.text "speed", .text "20"], #[.text " ", .text "30"]]
      [#[.text "speed ", .text "40"], #[.text "gear", .text "5000"]]
      [#[.text "torque", .text "50"]] [] ∧
    (readSignals (some repeatedName)).1.keys = ["speed", "gear"] ∧
    ((readSignals (some repeatedName)).1.get? "speed").map Signal.timeout = some 20 ∧
    (readSignals (some repeatedName)).2 =
      [⟨"LookUpTable", some 4, .duplicateSignal "speed"⟩,
        ⟨"LookUpTable", some 5, .adjusted "Timeout" "5000" 1000⟩] ∧
    ∃ outcome outcome', importSheets .epoch [("LookUpTable", .ok repeatedName)] = .ok outcome ∧
      importSheets .epoch [("LookUpTable", .ok otherRows)] = .ok outcome' ∧
      outcome.1.signals.get? "speed" = outcome'.1.signals.get? "speed" := by
  have hcolumn : Entries.get? SignalColumn.name repeatedName.titles = some 0 := by decide
  obtain ⟨hnames, hsignals, hfindings, _, himported⟩ := rows_independent hcolumn
  have hblock : Exchanged repeatedName otherRows
      [#[.text "speed", .text "20"], #[.text " ", .text "30"]]
      [#[.text "speed ", .text "40"], #[.text "gear", .text "5000"]]
      [#[.text "torque", .text "50"]] [] := ⟨rfl, rfl, rfl⟩
  refine ⟨hblock, ?_, ?_, ?_, ?_⟩
  · rw [hnames]
    decide
  · rw [hsignals]
    decide +kernel
  · rw [hfindings]
    decide +kernel
  · have hread : ∀ sheet ∈ [repeatedName, otherRows],
        (importSheets .epoch [("LookUpTable", .ok sheet)]).toOption.map (fun outcome =>
          outcome.1.availableCores) = some [] := by decide +kernel
    obtain ⟨outcome, houtcome, hcores⟩ := Option.map_eq_some_iff.mp (hread repeatedName (by simp))
    obtain ⟨outcome', houtcome', hcores'⟩ := Option.map_eq_some_iff.mp (hread otherRows (by simp))
    have hok := importSheets_of_toOption houtcome
    have hok' := importSheets_of_toOption houtcome'
    refine ⟨outcome, outcome', hok, hok', ?_⟩
    exact (himported hok rfl).2.2 hblock hok' rfl (hcores.trans hcores'.symm) "speed"
      (Or.inl (by decide))

end Exchange

end SignalCatalog
