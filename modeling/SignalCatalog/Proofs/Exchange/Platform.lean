import SignalCatalog.Proofs.Calendar.Written
import SignalCatalog.Proofs.Exchange.Carried
import SignalCatalog.Proofs.Exchange.Written
import SignalCatalog.Proofs.Project.Lists

/-!
# The version and the platform are read back

Both sheets are read by their headers, wherever these stand. The cores are added one by one; after
each system the platform holds the systems so far, in order, but for those without cores.
-/

namespace SignalCatalog.Exchange

variable {project : Project} {sheet : Sheet}

/-- The cell under a header is the one in the header's column. -/
theorem cellUnder_row {titles : Titles} {title : String} {column : Nat}
    (h : Entries.get? title titles = some column) (sheet : Sheet) (r : Nat) :
    cellUnder titles (sheet.row r) title = sheet.cell r column := by
  rw [cellUnder, h, ← sheet.cell_row]

theorem textUnder?_row {titles : Titles} {title : String} {column : Nat}
    (h : Entries.get? title titles = some column) (sheet : Sheet) (r : Nat) :
    textUnder? titles (sheet.row r) title = (sheet.cell r column).text? := by
  rw [textUnder?, cellUnder_row h]

theorem textUnder?_of_none {titles : Titles} {title : String}
    (h : Entries.get? title titles = none) (row : Row) : textUnder? titles row title = none := by
  rw [textUnder?, cellUnder, h]
  rfl

/-- The version of a project is read back. -/
theorem readVersion_shown (h : sheet.Shows project.versionSheet) (hp : project.Legible)
    (today : Date) : readVersion today (some sheet) = (project.metadata, []) := by
  have htitles : sheet.titles = VersionColumn.all.zipIdx :=
    sheet.titles_eq fun c => (h.cell 0 c).trans (project.cell_versionSheet_header c)
  have hcell : ∀ {title column}, Entries.get? title VersionColumn.all.zipIdx = some column →
      cellUnder sheet.titles (firstRow sheet) title =
        (Project.versionCells project.metadata)[column]?.getD .empty := by
    intro title column ht
    rw [htitles]
    exact ((cellUnder_row ht sheet 1).trans (h.cell 1 column)).trans
      (project.cell_versionSheet_first column)
  have hversion : textUnder? sheet.titles (firstRow sheet) VersionColumn.version =
      some project.metadata.version :=
    (congrArg Cell.text? (hcell (show _ = some 0 from rfl))).trans (Cell.text?_filled hp.version)
  have hdate : readDateCell today (cellUnder sheet.titles (firstRow sheet) VersionColumn.date) =
      (project.metadata.date, []) := by
    have htext := Cell.text?_filled (Calendar.filled_text project.metadata.date)
    rw [hcell (show _ = some 1 from rfl)]
    simp [Project.versionCells, readDateCell, dateOf?, htext, Calendar.readDate?_text]
  have heditor : ((textUnder? sheet.titles (firstRow sheet) VersionColumn.editor).or
      (textUnder? sheet.titles (firstRow sheet) VersionColumn.editorAlias)).getD "" =
      project.metadata.editor := by
    have halias : textUnder? sheet.titles (firstRow sheet) VersionColumn.editorAlias = none := by
      rw [htitles]
      exact textUnder?_of_none rfl _
    rw [halias, Option.or_none, textUnder?, hcell (show _ = some 2 from rfl)]
    exact Cell.getD_text? hp.editor
  have hdescription : VersionColumn.descriptionAliases.findSome?
      (textUnder? sheet.titles (firstRow sheet)) = some project.metadata.description := by
    have hfirst : textUnder? sheet.titles (firstRow sheet) VersionColumn.description =
        some project.metadata.description :=
      (congrArg Cell.text? (hcell (show _ = some 3 from rfl))).trans
        (Cell.text?_filled hp.description)
    rw [VersionColumn.descriptionAliases, List.findSome?_cons, hfirst]
  simp only [readVersion, hversion, hdate, heditor, hdescription, Option.getD_some, List.map_nil]
  rw [← hp.metadataExtra]

namespace Platform

variable {platform : Platform} {soc : String}

/-- Adds cores one by one. -/
def addCores (platform : Platform) (entries : List (CoreId × Core)) : Platform :=
  entries.foldl (fun platform entry => platform.addCore entry.1 entry.2) platform

/-- The cores of a system with their identifiers. -/
def coresOf (soc : String × OrderedMap Core) : List (CoreId × Core) :=
  soc.2.entries.map fun entry => (⟨soc.1, entry.1⟩, entry.2)

theorem ext {first second : Platform} (hsoc : first.socType = second.socType)
    (hbuild : first.buildType = second.buildType) (hsocs : first.socList = second.socList)
    (hbuilds : first.buildList = second.buildList) (hcores : first.cores = second.cores)
    (hsheet : first.sheetName = second.sheetName) : first = second := by
  obtain ⟨_, _, _, _, _, _⟩ := first
  obtain ⟨_, _, _, _, _, _⟩ := second
  simp_all

theorem addCores_append (front back : List (CoreId × Core)) :
    platform.addCores (front ++ back) = (platform.addCores front).addCores back :=
  List.foldl_append

theorem addCores_selections (entries : List (CoreId × Core)) :
    (platform.addCores entries).socType = platform.socType ∧
      (platform.addCores entries).buildType = platform.buildType ∧
      (platform.addCores entries).buildList = platform.buildList ∧
      (platform.addCores entries).sheetName = platform.sheetName := by
  induction entries generalizing platform with
  | nil => exact ⟨rfl, rfl, rfl, rfl⟩
  | cons entry rest ih => exact ih

theorem addCores_socList (entries : List (CoreId × Core)) :
    (platform.addCores entries).socList =
      (entries.map fun entry => entry.1.soc).foldl Project.listed platform.socList := by
  induction entries generalizing platform with
  | nil => rfl
  | cons entry rest ih => exact ih

/-- A core of the last system goes to the end. -/
theorem addCore_last {front : List (String × OrderedMap Core)} {cores : OrderedMap Core}
    (hp : platform.cores.entries = front ++ [(soc, cores)]) (name : String) (core : Core) :
    (platform.addCore ⟨soc, name⟩ core).cores.entries =
      front ++ [(soc, cores.insert name core)] := by
  have hnodup := platform.cores.nodup
  rw [hp] at hnodup
  have hfront : soc ∉ Entries.keys front := by
    intro hmem
    rw [Entries.keys_append] at hnodup
    exact (List.disjoint_of_nodup_append hnodup) hmem (by simp)
  have hget : platform.cores.get? soc = some cores := by
    rw [OrderedMap.get?, hp]
    exact Entries.get?_of_mem hnodup (by simp)
  simp only [addCore, OrderedMap.insert, hget, Option.getD_some, hp]
  rw [Entries.insert_append_of_notMem hfront]
  simp [Entries.insert]

/-- The remaining cores of a system whose first ones have been added. -/
theorem addCores_last (names : List (String × Core)) {front : List (String × OrderedMap Core)}
    {cores : OrderedMap Core} (hp : platform.cores.entries = front ++ [(soc, cores)])
    (hn : (Entries.keys (cores.entries ++ names)).Nodup) :
    (platform.addCores (names.map fun entry => (⟨soc, entry.1⟩, entry.2))).cores.entries =
      front ++ [(soc, ⟨cores.entries ++ names, hn⟩)] := by
  induction names generalizing platform cores with
  | nil => simpa [addCores] using hp
  | cons entry rest ih =>
    have hfresh : entry.1 ∉ cores.keys := by
      rw [Entries.keys_append] at hn
      intro hmem
      exact (List.disjoint_of_nodup_append hn) hmem (by simp)
    have hinsert : (cores.insert entry.1 entry.2).entries = cores.entries ++ [entry] :=
      Entries.insert_of_notMem hfresh
    have hnext := @ih (platform.addCore ⟨soc, entry.1⟩ entry.2) (cores.insert entry.1 entry.2)
      (addCore_last hp entry.1 entry.2) (by rw [hinsert]; simpa using hn)
    rw [List.map_cons, addCores, List.foldl_cons]
    refine hnext.trans ?_
    simp [hinsert]

/-- A system that is new to the platform goes to its end with all its cores, if it has any. -/
theorem addCores_soc {cores : OrderedMap Core} (hnew : soc ∉ platform.cores.keys) :
    (platform.addCores (coresOf (soc, cores))).cores.entries =
      platform.cores.entries ++ if cores.isEmpty then [] else [(soc, cores)] := by
  obtain ⟨entries, hn⟩ := cores
  cases entries with
  | nil => simp [coresOf, addCores, OrderedMap.isEmpty]
  | cons first rest =>
    have hget : platform.cores.get? soc = none := Entries.get?_eq_none_iff.mpr hnew
    have hfirst : (platform.addCore ⟨soc, first.1⟩ first.2).cores.entries =
        platform.cores.entries ++ [(soc, OrderedMap.empty.insert first.1 first.2)] := by
      simp only [addCore, OrderedMap.insert, hget, Option.getD_none]
      exact Entries.insert_of_notMem hnew
    have hrest := addCores_last rest hfirst (by simpa [OrderedMap.insert, Entries.insert] using hn)
    simpa [coresOf, addCores, OrderedMap.isEmpty, OrderedMap.insert, Entries.insert] using hrest

/-- All systems are added in order, but for those without cores. -/
theorem addCores_all (entries : List (String × OrderedMap Core))
    (hn : (Entries.keys (platform.cores.entries ++ entries)).Nodup) :
    (platform.addCores (entries.flatMap coresOf)).cores.entries =
      platform.cores.entries ++ entries.filter fun soc => !soc.2.isEmpty := by
  induction entries generalizing platform with
  | nil => simp [addCores]
  | cons entry rest ih =>
    obtain ⟨soc, cores⟩ := entry
    have hnew : soc ∉ platform.cores.keys := by
      rw [Entries.keys_append] at hn
      intro hmem
      exact (List.disjoint_of_nodup_append hn) hmem (by simp)
    have hsoc := @addCores_soc platform soc cores hnew
    have hrest : (Entries.keys ((platform.addCores (coresOf (soc, cores))).cores.entries ++
        rest)).Nodup := by
      rw [hsoc]
      cases cores.isEmpty with
      | true =>
        refine List.Sublist.nodup ?_ hn
        simp
      | false => simpa using hn
    rw [List.flatMap_cons, addCores_append, ih hrest, hsoc]
    cases hempty : cores.isEmpty <;> simp [hempty]

end Platform

/-- The systems of the cores are listed behind the others, each once. -/
theorem foldl_listed_socs {entries : List (String × OrderedMap Core)}
    (hn : (Entries.keys entries).Nodup) (list : List String) :
    ((entries.flatMap Platform.coresOf).map fun entry => entry.1.soc).foldl Project.listed list =
      list ++ (Entries.keys (entries.filter fun soc => !soc.2.isEmpty)).filter
        fun soc => decide (soc ∉ list) := by
  induction entries generalizing list with
  | nil => simp
  | cons entry rest ih =>
    obtain ⟨soc, ⟨cores, hcores⟩⟩ := entry
    obtain ⟨hfresh, hrest⟩ := List.nodup_cons.mp hn
    cases cores with
    | nil => simpa [Platform.coresOf, OrderedMap.isEmpty] using ih hrest list
    | cons first more =>
      have hsame : ∀ item ∈ (Platform.coresOf (soc, ⟨first :: more, hcores⟩)).map
          fun entry => entry.1.soc, item ∈ Project.listed list soc := by
        intro item hi
        simp only [Platform.coresOf, List.map_map, List.mem_map, Function.comp_apply] at hi
        obtain ⟨_, _, rfl⟩ := hi
        exact Project.mem_listed.mpr (Or.inr rfl)
      have hsoc : ((Platform.coresOf (soc, ⟨first :: more, hcores⟩)).map
          fun entry => entry.1.soc).foldl Project.listed list = Project.listed list soc := by
        simp only [Platform.coresOf, List.map_cons, List.foldl_cons] at hsame ⊢
        exact Project.foldl_listed_of_subset fun item hi => hsame item (List.mem_cons_of_mem _ hi)
      have hothers : (Entries.keys (rest.filter fun soc => !soc.2.isEmpty)).filter
            (fun other => decide (other ∉ Project.listed list soc)) =
          (Entries.keys (rest.filter fun soc => !soc.2.isEmpty)).filter
            fun other => decide (other ∉ list) := by
        apply List.filter_congr
        intro other ho
        have hne : other ≠ soc := by
          rintro rfl
          exact hfresh ((List.filter_sublist.map Prod.fst).subset ho)
        simp [Project.mem_listed, hne]
      rw [List.flatMap_cons, List.map_append, List.foldl_append, hsoc, ih hrest, hothers]
      by_cases hsoc : soc ∈ list
      · simp [Project.listed, hsoc, OrderedMap.isEmpty]
      · simp [Project.listed, hsoc, OrderedMap.isEmpty]

theorem isWord_yesNo (on : Bool) : isWord "yes" (Cell.yesNo on).text? = on := by
  cases on <;> decide

/-- The headers of the platform sheet with their columns. -/
def platformTitles : Titles :=
  [PlatformColumn.socType, PlatformColumn.buildType].zipIdx ++ PlatformColumn.cores.zipIdx 4

section Shown

variable (h : sheet.Shows project.platformSheet)

include h

theorem platform_titles : sheet.titles = platformTitles :=
  sheet.titles_eq fun c => (h.cell 0 c).trans (project.cell_platformSheet_header c)

/-- The text of a core's row in one of its columns. -/
theorem platform_text {title : String} {k : Nat}
    (ht : Entries.get? title platformTitles = some (4 + k)) (i : Nat) :
    textUnder? sheet.titles (sheet.row (i + 1)) title =
      (((project.coreEntries[i]?.map fun entry => Project.coreCells entry.1 entry.2).bind
        fun cells => cells[k]?).getD .empty).text? := by
  rw [platform_titles h, textUnder?_row ht, h.cell, project.cell_platformSheet_core]

/-- A row of the table of cores adds its core. -/
theorem addRow_core (hp : project.Legible) (platform : Platform) {i : Nat}
    {entry : CoreId × Core} (hi : project.coreEntries[i]? = some entry) :
    platform.addRow sheet.titles (sheet.row (i + 1)) = platform.addCore entry.1 entry.2 := by
  obtain ⟨id, core⟩ := entry
  obtain ⟨soc, hsoc, hentry⟩ := List.mem_flatMap.mp (List.mem_of_getElem? hi)
  obtain ⟨named, hnamed, hpair⟩ := List.mem_map.mp hentry
  obtain ⟨rfl, rfl⟩ := Prod.mk.inj hpair
  have hcore := hp.cores soc hsoc named hnamed
  have htext : ∀ {title k}, Entries.get? title platformTitles = some (4 + k) →
      textUnder? sheet.titles (sheet.row (i + 1)) title =
        ((Project.coreCells ⟨soc.1, named.1⟩ named.2)[k]?.getD .empty).text? := by
    intro title k ht
    rw [platform_text h ht, hi]
    rfl
  have hsocText := (htext (show Entries.get? PlatformColumn.soc platformTitles = some (4 + 0)
    from rfl)).trans (Cell.text?_filled (hp.socs soc.1 (Entries.mem_keys_of_mem hsoc)))
  have hnameText := (htext (show Entries.get? PlatformColumn.core platformTitles = some (4 + 1)
    from rfl)).trans (Cell.text?_filled (hp.coreNames soc hsoc _ (Entries.mem_keys_of_mem hnamed)))
  have hid : coreIdOf? (textUnder? sheet.titles (sheet.row (i + 1))) =
      some ⟨soc.1, named.1⟩ := by
    rw [coreIdOf?, hsocText, hnameText]
  have hread : readCore (textUnder? sheet.titles (sheet.row (i + 1))) = named.2 := by
    have hrole : isWord "master" (Cell.text named.2.role).text? = named.2.isMaster := by
      unfold Core.role
      cases named.2.isMaster <;> decide
    rw [readCore, htext (show _ = some (4 + 8) from rfl), htext (show _ = some (4 + 2) from rfl),
      htext (show _ = some (4 + 3) from rfl), htext (show _ = some (4 + 4) from rfl),
      htext (show _ = some (4 + 5) from rfl), htext (show _ = some (4 + 6) from rfl),
      htext (show _ = some (4 + 7) from rfl)]
    simp only [Project.coreCells, List.getElem?_cons_succ, List.getElem?_cons_zero, Option.getD_some,
      Cell.getD_text? hcore.description, hrole, isWord_yesNo, Cell.text?_filled hcore.os,
      Cell.text?_filled hcore.socFamily]
    rw [← hcore.extra]
  simp only [Platform.addRow, hid, hread]

/-- Rows below the table of cores add none. -/
theorem addRow_below (platform : Platform) {i : Nat} (hi : project.coreEntries.length ≤ i) :
    platform.addRow sheet.titles (sheet.row (i + 1)) = platform := by
  have hsoc : textUnder? sheet.titles (sheet.row (i + 1)) PlatformColumn.soc = none := by
    rw [platform_text h (show _ = some (4 + 0) from rfl), List.getElem?_eq_none hi]
    rfl
  simp only [Platform.addRow, coreIdOf?, hsoc]

end Shown

theorem addRow_empty (titles : Titles) (platform : Platform) :
    platform.addRow titles #[] = platform := by
  have htext : textUnder? titles #[] PlatformColumn.soc = none := by
    unfold textUnder? cellUnder
    split
    · rw [Row.cell_empty]
      rfl
    · rfl
  simp only [Platform.addRow, coreIdOf?, htext]

/-- The platform of a project is read back. -/
theorem readPlatform_shown (h : sheet.Shows project.platformSheet) (hp : project.Legible) :
    readPlatform (some sheet) =
      ⟨project.socType, project.buildType,
        project.socType :: project.populated.keys.filter fun soc => decide (soc ≠ project.socType),
        [project.buildType], project.populated, project.exportSheet⟩ := by
  have hsoc : textUnder? sheet.titles (firstRow sheet) PlatformColumn.socType =
      some project.socType := by
    have hcell := (cellUnder_row (show Entries.get? PlatformColumn.socType platformTitles = some 0
      from rfl) sheet 1).trans ((h.cell 1 0).trans project.cell_platformSheet_soc)
    rw [platform_titles h]
    exact (congrArg Cell.text? hcell).trans (Cell.text?_filled hp.socType)
  have hbuild : textUnder? sheet.titles (firstRow sheet) PlatformColumn.buildType =
      some project.buildType := by
    have hcell := (cellUnder_row (show Entries.get? PlatformColumn.buildType platformTitles = some 1
      from rfl) sheet 1).trans ((h.cell 1 1).trans project.cell_platformSheet_build)
    rw [platform_titles h]
    exact (congrArg Cell.text? hcell).trans (Cell.text?_filled hp.buildType)
  have hrows : ∀ platform : Platform, sheet.body.foldl
      (fun platform row => platform.addRow sheet.titles row.1) platform =
      platform.addCores project.coreEntries := by
    intro platform
    have hentries := map_range_getD (⟨⟨"", ""⟩, default⟩ : CoreId × Core) project.coreEntries
    rw [@Sheet.foldl_body sheet _ (Platform.addRow sheet.titles) project.coreEntries.length
      (addRow_empty sheet.titles) (fun i platform hi => addRow_below h platform hi) platform,
      ← congrArg platform.addCores hentries, Platform.addCores, List.foldl_map]
    apply List.foldl_ext
    intro platform i hi
    exact addRow_core h hp platform (by simp [List.mem_range.mp hi])
  have hsheet : sheet.name = project.exportSheet := by
    rw [h.name, Project.platformSheet, Project.name_setRows, Project.name_setRows]
    rfl
  simp only [readPlatform, hsoc, hbuild, hrows, hsheet, Option.getD_some, Option.toList_some]
  apply Platform.ext
  · exact (Platform.addCores_selections _).1
  · exact (Platform.addCores_selections _).2.1
  · rw [Platform.addCores_socList]
    refine (foldl_listed_socs project.cores.nodup _).trans ?_
    simp [Project.populated, OrderedMap.filter, OrderedMap.keys]
  · exact (Platform.addCores_selections _).2.2.1
  · apply OrderedMap.ext
    exact Platform.addCores_all project.cores.entries (by simpa using project.cores.nodup)
  · exact (Platform.addCores_selections _).2.2.2

end SignalCatalog.Exchange
