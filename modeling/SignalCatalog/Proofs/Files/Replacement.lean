import Mathlib.Logic.Relation
import SignalCatalog.Exchange.BookFile
import SignalCatalog.Proofs.Files.Paths

/-!
# Replacing files is all or nothing

A replacement makes the folders above the file, prepares a draft beside it and moves the draft onto it.
Each step may fail. What a step does to the places of a disk is said once for each step; a replacement
that fails has then changed no file but the draft, and one that succeeds has put the whole content in
the place of the file and left no draft.
-/

namespace SignalCatalog

/-- A path and the folder it is in, if that is more than the working folder. -/
def Path.IsIn (path folder : String) : Prop := folder? path = some folder

/-- The folders above a path: the one it is in, the one that is in, and so on. -/
def Path.IsBelow (path folder : String) : Prop := Relation.TransGen IsIn path folder

namespace Disk

/-! ## What stands at a place after a change -/

variable {disk : Disk} {place other : Place} {entry : Entry}

theorem find?_putEntry (entries : List (Place × Entry)) :
    (putEntry place entry entries).find? (fun item => item.1 = other) =
      if place = other then some (place, entry)
      else entries.find? (fun item => item.1 = other) := by
  induction entries with
  | nil => by_cases hplace : place = other <;> simp [putEntry, hplace]
  | cons item rest ih =>
    rw [putEntry]
    split
    · rename_i hitem
      by_cases hplace : place = other <;> simp [hitem, hplace]
    · rename_i hitem
      by_cases hplace : place = other
      · subst hplace
        simp [hitem, ih]
      · simp only [List.find?_cons, ih, hplace, if_false]

theorem stored?_store : (disk.store place entry).stored? other =
    if place = other then some entry else disk.stored? other := by
  rw [stored?, store, find?_putEntry]
  split <;> rfl

theorem stored?_take : (disk.take place).stored? other =
    if place = other then none else disk.stored? other := by
  rw [stored?, take, List.find?_filter]
  split <;> rename_i hplace
  · subst hplace
    simp
  · rw [stored?]
    congr 2
    funext item
    by_cases hitem : item.1 = other <;> simp [hitem, Ne.symm hplace]

theorem entry?_congr {former : Disk} (hhome : disk.home = former.home)
    (h : disk.stored? place = former.stored? place) : disk.entry? place = former.entry? place := by
  rw [ entry?, entry?, loses, loses, hhome, h]

theorem loses_of_ne (h : place ≠ emptyFile) : disk.loses place = false := by
  simp [loses, h]

theorem loses_of_none (h : disk.entry? place = none) : disk.loses place = false := by
  rw [ entry?] at h
  split at h
  · cases h
  · split at h
    · cases h
    · rename_i hloses
      exact Bool.not_eq_true _ ▸ hloses

theorem entry?_store_of_ne (h : place ≠ other) :
    entry? (disk.store place entry) other = disk.entry? other :=
  entry?_congr rfl (by rw [stored?_store, if_neg h])

theorem entry?_store (h : disk.entry? place ≠ some .folder) :
    entry? (disk.store place entry) place = some entry := by
  rw [ entry?] at h ⊢
  split <;> rename_i hfixed
  · exact absurd (if_pos hfixed) h
  · rw [loses, stored?_store, if_pos rfl]
    simp

theorem entry?_take_of_ne (h : place ≠ other) :
    entry? (disk.take place) other = disk.entry? other :=
  entry?_congr rfl (by rw [stored?_take, if_neg h])

theorem entry?_take (h : disk.entry? place ≠ some .folder) (hempty : place ≠ emptyFile) :
    entry? (disk.take place) place = none := by
  rw [ entry?] at h ⊢
  split <;> rename_i hfixed
  · exact absurd (if_pos hfixed) h
  · rw [loses_of_ne hempty, stored?_take, if_pos rfl]
    rfl

theorem put_eq_store (h : disk.loses place = false) : disk.put place entry = disk.store place entry := by
  rw [put, h, if_neg Bool.false_ne_true]

/-! ## What a step changes -/

/-- Folders have been made where nothing stood, by some of the paths, and nothing else has changed. -/
structure FoldersMade (paths : String → Prop) (former disk : Disk) : Prop where
  here : disk.here = former.here
  journal : former.journal = none → disk.journal = none
  entry : ∀ place, disk.entry? place = former.entry? place ∨
    former.entry? place = none ∧ disk.entry? place = some .folder ∧
      ∃ path, paths path ∧ place = resolve former.here path

/-- Files may have changed at some of the places, and nothing else has changed. -/
structure FilesChanged (places : Place → Prop) (former disk : Disk) : Prop where
  here : disk.here = former.here
  journal : former.journal = none → disk.journal = none
  entry : ∀ place, disk.entry? place = former.entry? place ∨
    places place ∧ former.entry? place ≠ some .folder ∧ disk.entry? place ≠ some .folder

variable {former between disk : Disk}

namespace FoldersMade

variable {paths : String → Prop}

theorem refl (disk : Disk) : FoldersMade paths disk disk := ⟨rfl, id, fun _ => .inl rfl⟩

theorem mono {more : String → Prop} (h : FoldersMade paths former disk)
    (hmore : ∀ path, paths path → more path) : FoldersMade more former disk where
  here := h.here
  journal := h.journal
  entry place := (h.entry place).imp_right fun ⟨hnone, hfolder, path, hpath, hplace⟩ =>
    ⟨hnone, hfolder, path, hmore path hpath, hplace⟩

theorem trans (h : FoldersMade paths former between) (hnext : FoldersMade paths between disk) :
    FoldersMade paths former disk where
  here := hnext.here.trans h.here
  journal hjournal := hnext.journal (h.journal hjournal)
  entry place := by
    rcases hnext.entry place with hsame | ⟨hnone, hfolder, hpath⟩
    · rw [hsame]
      exact h.entry place
    · rcases h.entry place with hsame | ⟨_, hmade, _⟩
      · rw [h.here] at hpath
        exact .inr ⟨hsame ▸ hnone, hfolder, hpath⟩
      · rw [hmade] at hnone
        cases hnone

end FoldersMade

namespace FilesChanged

variable {places : Place → Prop}

theorem refl (disk : Disk) : FilesChanged places disk disk := ⟨rfl, id, fun _ => .inl rfl⟩

theorem mono {more : Place → Prop} (h : FilesChanged places former disk)
    (hmore : ∀ place, places place → more place) : FilesChanged more former disk where
  here := h.here
  journal := h.journal
  entry place := (h.entry place).imp_right fun ⟨hplace, hfolders⟩ => ⟨hmore place hplace, hfolders⟩

theorem trans (h : FilesChanged places former between) (hnext : FilesChanged places between disk) :
    FilesChanged places former disk where
  here := hnext.here.trans h.here
  journal hjournal := hnext.journal (h.journal hjournal)
  entry place := by
    rcases hnext.entry place with hsame | ⟨hplace, hbefore, hafter⟩
    · rw [hsame]
      exact h.entry place
    · rcases h.entry place with hsame | ⟨_, hformer, _⟩
      · exact .inr ⟨hplace, hsame ▸ hbefore, hafter⟩
      · exact .inr ⟨hplace, hformer, hafter⟩

theorem folder_iff (h : FilesChanged places former disk) (place : Place) :
    disk.entry? place = some .folder ↔ former.entry? place = some .folder := by
  rcases h.entry place with hsame | ⟨_, hformer, hafter⟩
  · rw [hsame]
  · exact iff_of_false hafter hformer

end FilesChanged

/-! ## Steps -/

/-- The disk without the fault of its next change. -/
def past (disk : Disk) : Disk := { disk with faults := disk.faults.tail }

theorem nextFault_eq (disk : Disk) : disk.nextFault = (disk.faults.head?.join, disk.past) := by
  obtain ⟨home, here, entries, faults, journal⟩ := disk
  cases faults <;> rfl

theorem foldersMade_past (paths : String → Prop) (disk : Disk) : FoldersMade paths disk disk.past :=
  ⟨rfl, id, fun _ => .inl rfl⟩

theorem filesChanged_past (places : Place → Prop) (disk : Disk) :
    FilesChanged places disk disk.past :=
  ⟨rfl, id, fun _ => .inl rfl⟩

theorem foldersMade_put {path : String} (hplace : place = resolve disk.here path)
    (hnone : disk.entry? place = none) : FoldersMade (· = path) disk (disk.put place .folder) := by
  rw [put_eq_store (loses_of_none hnone)]
  refine ⟨rfl, id, fun other => ?_⟩
  by_cases hother : place = other
  · subst hother
    exact .inr ⟨hnone, entry?_store (by simp [hnone]), path, rfl, hplace⟩
  · exact .inl (entry?_store_of_ne hother)

theorem filesChanged_store (hfolder : disk.entry? place ≠ some .folder) (content : Content) :
    FilesChanged (· = place) disk (disk.store place (.file content)) := by
  refine ⟨rfl, id, fun other => ?_⟩
  by_cases hother : place = other
  · subst hother
    exact .inr ⟨rfl, hfolder, by simp [entry?_store hfolder]⟩
  · exact .inl (entry?_store_of_ne hother)

theorem filesChanged_put (hfolder : disk.entry? place ≠ some .folder) (hempty : place ≠ emptyFile)
    (content : Content) : FilesChanged (· = place) disk (disk.put place (.file content)) :=
  put_eq_store (loses_of_ne hempty) ▸ filesChanged_store hfolder content

theorem filesChanged_take (hfolder : disk.entry? place ≠ some .folder) (hempty : place ≠ emptyFile) :
    FilesChanged (· = place) disk (disk.take place) := by
  refine ⟨rfl, fun hjournal => by simp [take, hjournal], fun other => ?_⟩
  by_cases hother : place = other
  · subst hother
    exact .inr ⟨rfl, hfolder, by simp [entry?_take hfolder hempty]⟩
  · exact .inl (entry?_take_of_ne hother)

theorem foldersMade_makeFolder (disk : Disk) (path : String) :
    FoldersMade (· = path) disk (disk.makeFolder path).2 := by
  rw [makeFolder, nextFault_eq]
  cases disk.faults.head?.join with
  | some fault => exact foldersMade_past _ disk
  | none =>
    dsimp only
    cases hplace : disk.past.folderPlace path with
    | error cause => exact foldersMade_past _ disk
    | ok place =>
      obtain ⟨hresolve, hnone⟩ := place_of_folderPlace hplace
      exact (foldersMade_past _ disk).trans (foldersMade_put hresolve hnone)

theorem foldersMade_of_makeFolder {path : String} {result : Except OsError Unit}
    (h : disk.makeFolder path = (result, between)) :
    FoldersMade (Relation.ReflTransGen Path.IsIn path) disk between := by
  have hmade := foldersMade_makeFolder disk path
  rw [h] at hmade
  exact hmade.mono fun _ heq => heq ▸ .refl

/-- Only the folder of the path and those above it are made, also on the way to a failure. -/
theorem foldersMade_makeFoldersUpTo (fuel : Nat) (disk : Disk) (path : String) :
    FoldersMade (Relation.ReflTransGen Path.IsIn path) disk (makeFoldersUpTo fuel disk path).2 := by
  fun_induction makeFoldersUpTo fuel disk path with
  | case1 disk path => exact .refl disk
  | case2 _ _ _ _ hmake => exact foldersMade_of_makeFolder hmake
  | case3 _ _ _ _ hmake => exact foldersMade_of_makeFolder hmake
  | case4 _ _ _ _ hmake => exact (foldersMade_of_makeFolder hmake).trans (foldersMade_of_makeFolder rfl)
  | case5 _ _ _ _ hmake _ hfolder _ _ habove ih =>
    rw [habove] at ih
    exact (foldersMade_of_makeFolder hmake).trans (ih.mono fun _ => .head hfolder)
  | case6 _ _ _ _ hmake _ hfolder _ habove _ hagain ih =>
    rw [habove] at ih
    exact ((foldersMade_of_makeFolder hmake).trans (ih.mono fun _ => .head hfolder)).trans
      (foldersMade_of_makeFolder hagain)
  | case7 _ _ _ _ hmake _ hfolder _ habove _ ih =>
    rw [habove] at ih
    exact ((foldersMade_of_makeFolder hmake).trans (ih.mono fun _ => .head hfolder)).trans
      (foldersMade_of_makeFolder rfl)
  | case8 _ _ _ _ _ _ _ hmake => exact foldersMade_of_makeFolder hmake

theorem foldersMade_prepare (disk : Disk) (path : String) :
    FoldersMade (Path.IsBelow path) disk (disk.prepare path).2 := by
  rw [prepare]
  split
  · exact .refl disk
  · rename_i folder hfolder
    have hmade : FoldersMade (Path.IsBelow path) disk (disk.makeFolders folder).2 := by
      rw [makeFolders]
      split
      · exact .refl disk
      · exact (foldersMade_makeFoldersUpTo _ disk folder).mono fun _ => .head' hfolder
    split <;> rename_i hmake <;> rwa [hmake] at hmade

section Draft

variable {path : String} (hplace : resolve disk.here path = place) (hempty : place ≠ emptyFile)
include hplace hempty

theorem filesChanged_create :
    FilesChanged (· = place) disk (disk.create path).2 ∧
    ∀ made, (disk.create path).1 = .ok made → made = place ∧ disk.entry? place ≠ some .folder := by
  rw [create, nextFault_eq]
  cases disk.faults.head?.join with
  | some fault => exact ⟨filesChanged_past _ disk, by simp⟩
  | none =>
    dsimp only
    cases hmade : disk.past.filePlace path with
    | error cause => exact ⟨filesChanged_past _ disk, by simp⟩
    | ok made =>
      obtain ⟨rfl, hfolder⟩ := place_of_filePlace hmade
      obtain rfl : resolve disk.past.here path = place := hplace
      refine ⟨(filesChanged_past _ disk).trans (filesChanged_put hfolder hempty _), ?_⟩
      rintro _ ⟨⟩
      exact ⟨rfl, hfolder⟩

theorem filesChanged_remove : FilesChanged (· = place) disk (disk.remove path) := by
  rw [remove, nextFault_eq]
  cases disk.faults.head?.join with
  | some fault => exact filesChanged_past _ disk
  | none =>
    dsimp only
    split
    · rename_i found content hfind
      obtain ⟨rfl, hentry⟩ := place_of_find hfind
      obtain rfl : resolve disk.past.here path = place := hplace
      exact (filesChanged_past _ disk).trans (filesChanged_take (by simp [hentry]) hempty)
    · exact filesChanged_past _ disk

end Draft

theorem filesChanged_write (hfolder : disk.entry? place ≠ some .folder) (hempty : place ≠ emptyFile)
    (content : Content) :
    FilesChanged (· = place) disk (disk.write place content).2 ∧
    ((disk.write place content).1 = .ok () →
      entry? (disk.write place content).2 place = some (.file content)) := by
  have hpast : disk.past.entry? place ≠ some .folder := hfolder
  rw [write, nextFault_eq]
  cases disk.faults.head?.join with
  | some fault =>
    exact ⟨(filesChanged_past _ disk).trans (filesChanged_put hpast hempty _), by simp⟩
  | none =>
    refine ⟨(filesChanged_past _ disk).trans (filesChanged_put hpast hempty _), fun _ => ?_⟩
    dsimp only
    rw [put_eq_store (loses_of_ne hempty), entry?_store hpast]

theorem sync_snd (disk : Disk) : disk.sync.2 = disk.past := by
  rw [sync, nextFault_eq]
  cases disk.faults.head?.join <;> rfl

theorem filesChanged_writeStored {path : String} (hplace : resolve disk.here path = place)
    (hempty : place ≠ emptyFile) (content : Content) :
    FilesChanged (· = place) disk (disk.writeStored path content).2 ∧
    ((disk.writeStored path content).1 = .ok () →
      entry? (disk.writeStored path content).2 place = some (.file content)) := by
  obtain ⟨hcreated, hmade⟩ := filesChanged_create hplace hempty
  rw [writeStored]
  cases hcreate : disk.create path with | mk result created =>
  rw [hcreate] at hcreated hmade
  cases result with
  | error cause => exact ⟨hcreated, by simp⟩
  | ok made =>
    obtain ⟨rfl, hfolder⟩ := hmade made rfl
    obtain ⟨hwritten, hcontent⟩ := filesChanged_write
      (fun h => hfolder ((hcreated.folder_iff _).mp h)) hempty content
    dsimp only
    cases hwrite : created.write made content with | mk result written =>
    rw [hwrite] at hwritten hcontent
    cases result with
    | error cause => exact ⟨hcreated.trans hwritten, by simp⟩
    | ok _ =>
      dsimp only
      have hpast := sync_snd written
      cases hsync : written.sync with | mk result stored =>
      rw [hsync] at hpast
      obtain rfl : stored = written.past := hpast
      have hall := (hcreated.trans hwritten).trans (filesChanged_past _ written)
      cases result with
      | error cause => exact ⟨hall, by simp⟩
      | ok _ => exact ⟨hall, fun _ => hcontent rfl⟩

/-- The two places of a move. -/
def Either (first second place : Place) : Prop := place = first ∨ place = second

/-- A file that is moved stands in its new place and no longer in the old one. -/
theorem filesChanged_move {content : Content} (hentry : disk.entry? place = some (.file content))
    (hempty : place ≠ emptyFile) (hfolder : disk.entry? other ≠ some .folder) (hne : place ≠ other) :
    FilesChanged (Either place other) disk (disk.move place other) ∧
    entry? (disk.move place other) place = none ∧
    entry? (disk.move place other) other = some (.file content) := by
  have hplace : disk.entry? place ≠ some .folder := by simp [hentry]
  have hother : entry? (disk.take place) other ≠ some .folder := by rwa [entry?_take_of_ne hne]
  have hchanged : FilesChanged (Either place other) disk
      ((disk.take place).store other (.file content)) :=
    ((filesChanged_take hplace hempty).mono fun _ => .inl).trans
      ((filesChanged_store hother content).mono fun _ => .inr)
  have hgone : entry? ((disk.take place).store other (.file content)) place = none := by
    rw [entry?_store_of_ne hne.symm, entry?_take hplace hempty]
  rw [move, if_neg hne, hentry]
  exact ⟨⟨hchanged.here, fun hjournal => by simp [hjournal], hchanged.entry⟩, hgone,
    entry?_store hother⟩

section Rename

variable {draft path : String}

theorem past_of_rename_error {cause : OsError} {after : Disk}
    (h : disk.rename draft path = (.error cause, after)) : after = disk.past := by
  rw [rename, nextFault_eq] at h
  cases hfault : disk.faults.head?.join with
  | some fault =>
    rw [hfault] at h
    exact (Prod.mk.inj h).2.symm
  | none =>
    rw [hfault] at h
    dsimp only at h
    split at h
    · exact (Prod.mk.inj h).2.symm
    · exact (Prod.mk.inj h).2.symm
    · exact (Prod.mk.inj h).2.symm
    · cases h

/-- A renaming that succeeds has moved the file that the first path leads to. -/
theorem move_of_rename {after : Disk} (h : disk.rename draft path = (.ok (), after)) :
    ∃ content, disk.past.entry? (resolve disk.here draft) = some (.file content) ∧
      disk.past.movePlace path = .ok (resolve disk.here path) ∧
      after = disk.past.move (resolve disk.here draft) (resolve disk.here path) := by
  rw [rename, nextFault_eq] at h
  cases hfault : disk.faults.head?.join with
  | some fault =>
    rw [hfault] at h
    cases h
  | none =>
    rw [hfault] at h
    dsimp only at h
    split at h
    · cases h
    · cases h
    · cases h
    · rename_i place content newPlace hfind hmove
      obtain ⟨rfl, hentry⟩ := place_of_find hfind
      obtain ⟨rfl, _⟩ := place_of_movePlace hmove
      exact ⟨content, hentry, hmove, (Prod.mk.inj h).2.symm⟩

end Rename

/-! ## Replacements -/

/-- The content of the file at a place, if a file stands there. -/
def file? (disk : Disk) (place : Place) : Option Content := (disk.entry? place).bind Entry.content?

/-- A disk on which every file is as before but those at some places, every folder is still there, and
the only new folders are above the path, where nothing stood before. -/
structure Spared (path : String) (places : Place → Prop) (former disk : Disk) : Prop where
  files : ∀ place, ¬ places place → disk.file? place = former.file? place
  folders : ∀ place, former.entry? place = some .folder → disk.entry? place = some .folder
  made : ∀ place, disk.entry? place = some .folder → former.entry? place = some .folder ∨
    former.entry? place = none ∧
      ∃ folder, Path.IsBelow path folder ∧ place = resolve former.here folder

/-- A disk on which the file of a path holds the new content, its draft is gone, and nothing else has
changed. No log has been opened. -/
structure Replaced (path : String) (draft : Place) (content : Content) (former disk : Disk) :
    Prop where
  complete : disk.entry? (resolve former.here path) = some (.file content)
  found : disk.read path = .ok content
  gone : disk.entry? draft = none
  spared : Spared path (Either draft (resolve former.here path)) former disk
  journal : former.journal = none → disk.journal = none

/-- A replacement that fails and spares every file but the draft, or that is complete. -/
inductive AllOrNothing {ε : Type} (path : String) (draft : Place) (content : Content)
    (former : Disk) : Except ε Unit × Disk → Prop
  | failed (error : ε) {disk : Disk} (h : Spared path (· = draft) former disk) :
    AllOrNothing path draft content former (.error error, disk)
  | complete {disk : Disk} (h : Replaced path draft content former disk) :
    AllOrNothing path draft content former (.ok (), disk)

theorem spared_of_changes {path : String} {places : Place → Prop}
    (hmade : FoldersMade (Path.IsBelow path) former between)
    (hchanged : FilesChanged places between disk) : Spared path places former disk where
  files place hplace := by
    have hsame := (hchanged.entry place).resolve_right fun h => hplace h.1
    rcases hmade.entry place with hbefore | ⟨hnone, hfolder, _⟩
    · rw [file?, file?, hsame, hbefore]
    · rw [file?, file?, hsame, hnone, hfolder]
      rfl
  folders place hfolder := by
    rw [hchanged.folder_iff]
    rcases hmade.entry place with hbefore | ⟨hnone, _, _⟩
    · rwa [hbefore]
    · rw [hnone] at hfolder
      cases hfolder
  made place hfolder := by
    rw [hchanged.folder_iff] at hfolder
    rcases hmade.entry place with hbefore | ⟨hnone, _, hpath⟩
    · exact .inl (hbefore ▸ hfolder)
    · exact .inr ⟨hnone, hpath⟩

/-- A replacement by way of a draft at another place changes no file but the draft if it fails, and
puts the content in the place of the file if it succeeds. -/
theorem replace_all_or_nothing {path draft : String} (hempty : resolve disk.here draft ≠ emptyFile)
    (hne : resolve disk.here draft ≠ resolve disk.here path) (content : Content) :
    AllOrNothing path (resolve disk.here draft) content disk (disk.replace path draft content) := by
  -- Whichever step fails, first folders have been made and then only the draft has changed. The working
  -- folder stays, so that both paths lead to the same places all along.
  have hmade := foldersMade_prepare disk path
  rw [replace]
  cases hprepare : disk.prepare path with | mk result ready =>
  rw [hprepare] at hmade
  cases result with
  | error failure => exact .failed failure (spared_of_changes hmade (.refl _))
  | ok _ =>
    have hready : ready.here = disk.here := hmade.here
    obtain ⟨hwritten, hcontent⟩ := filesChanged_writeStored (by rw [hready]) hempty content
    dsimp only
    cases hwrite : ready.writeStored draft content with | mk result written =>
    rw [hwrite] at hwritten hcontent
    have hhere : written.here = disk.here := hwritten.here.trans hready
    cases result with
    | error failure =>
      have hremoved := filesChanged_remove (by rw [hhere]) hempty
      exact .failed failure (spared_of_changes hmade (hwritten.trans hremoved))
    | ok _ =>
      have hpast := hwritten.trans (filesChanged_past _ written)
      dsimp only
      cases hrename : written.rename draft path with | mk result renamed =>
      cases result with
      | error cause =>
        obtain rfl := past_of_rename_error hrename
        have hplace : resolve written.past.here draft = _ := congrArg (resolve · draft) hhere
        have hremoved := filesChanged_remove hplace hempty
        exact .failed _ (spared_of_changes hmade (hpast.trans hremoved))
      | ok _ =>
        obtain ⟨moved, hentry, hmove, rfl⟩ := move_of_rename hrename
        rw [hhere] at hentry hmove ⊢
        obtain rfl : content = moved := by
          simpa using (hcontent rfl).symm.trans hentry
        obtain ⟨hmoved, hgone, hcomplete⟩ :=
          filesChanged_move hentry hempty (place_of_movePlace hmove).2 hne
        have hall := (hpast.mono fun _ => .inl).trans hmoved
        refine .complete ⟨hcomplete, ?_, hgone, spared_of_changes hmade hall,
          fun hjournal => hall.journal (hmade.journal hjournal)⟩
        rw [read, find_of_movePlace hmove (fun place => (hmoved.folder_iff place).mpr) hmoved.here
          hcomplete]

/-! ## Saving and exporting -/

/-- The same for a replacement that is reported. When it is complete the lines of its events are appended
to the log, if one is open. -/
def ReportedAllOrNothing {ε : Type} (path : String) (draft : Place) (content : Content)
    (former : Disk) : Log.Reported ε Unit × Disk → Prop
  | ((.error _, _), disk) => Spared path (· = draft) former disk
  | ((.ok (), events), disk) => ∃ stored, Replaced path draft content former stored ∧
      disk = stored.record events ∧ (former.journal = none → disk = stored)

/-- The draft of a file is at another place than the file, so it can be replaced by way of it. -/
theorem replace_by_draft {fallback : String} (hslash : '/' ∉ fallback.toList) (disk : Disk)
    (path : String) (content : Content) :
    AllOrNothing path (draftPlace disk.here fallback path) content disk
      (disk.replace path (Path.draft fallback path) content) := by
  have hplace := resolve_draft hslash disk.here path
  rw [← hplace]
  refine replace_all_or_nothing ?_ ?_ content
  · rw [hplace]
    exact draftPlace_ne_emptyFile _ _ _
  · rw [hplace]
    exact draftPlace_ne _ _ _

/-- Saving and exporting are all or nothing. For every disk, with any faults to come, every path and
every project: when a project cannot be saved or exported, every file but the draft beside it is as
before and at most the missing folders above the path have been made. When it is, the path leads to
exactly the complete new content, the draft is gone, and no other file has changed. -/
theorem save_and_export_atomic (disk : Disk) (project : Project) (path : String) :
    ReportedAllOrNothing path (draftPlace disk.here projectDraftName path) (.text project.save) disk
      (disk.saveProject project path) ∧
    ReportedAllOrNothing path (draftPlace disk.here bookName path)
      (.archive project.workbook.toArchive) disk (disk.exportBook project path) := by
  constructor
  · have hsaved : AllOrNothing path (draftPlace disk.here projectDraftName path)
        (.text project.save) disk (disk.replace path (projectDraft path) (.text project.save)) :=
      replace_by_draft (by decide) disk path _
    rw [saveProject]
    generalize disk.replace path (projectDraft path) (.text project.save) = outcome at hsaved
    cases hsaved with
    | failed failure h => exact h
    | complete h => exact ⟨_, h, rfl, fun hjournal => record_of_no_journal _ _ (h.journal hjournal)⟩
  · have hexported : AllOrNothing path (draftPlace disk.here bookName path)
        (.archive project.workbook.toArchive) disk
        (disk.replace path (bookDraft path) (.archive project.workbook.toArchive)) :=
      replace_by_draft (by decide) disk path _
    rw [exportBook]
    generalize disk.replace path (bookDraft path) (.archive project.workbook.toArchive) = outcome
      at hexported
    cases hexported with
    | failed failure h => exact h
    | complete h => exact ⟨_, h, rfl, fun hjournal => record_of_no_journal _ _ (h.journal hjournal)⟩

example (project : Project) :
    let outcome := (empty ["w"]).saveProject project "a/b.json"
    outcome.1.1 = .ok () ∧ outcome.2.entries =
      [(["w", "a"], .folder), (["w", "a", "b.json"], .file (.text project.save))] :=
  ⟨rfl, rfl⟩

/-- The folder has been made and the draft written when the last step fails. -/
example (project : Project) :
    let disk := { empty ["w"] with faults := [none, none, none, none, some ⟨.busy, .text ""⟩] }
    let outcome := disk.saveProject project "a/b.json"
    outcome.1.1 = .error (.notReplaced "a/.b.json.tmp" "a/b.json" .busy) ∧
      outcome.2.entries = [(["w", "a"], .folder)] :=
  ⟨rfl, rfl⟩

end Disk

end SignalCatalog
