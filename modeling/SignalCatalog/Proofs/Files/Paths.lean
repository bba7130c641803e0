import Mathlib.Data.List.Induction
import SignalCatalog.Files.Disk
import SignalCatalog.Proofs.Text.Joined

/-!
# Where paths lead

On a disk without links the place that a path leads to can be read off its names. What is on the disk
decides only whether the path leads there or nowhere, so a walk that succeeds ends where the names say.
The draft of a file has another name in the same folder.
-/

namespace SignalCatalog

namespace Path

/-! ## Segments -/

theorem segments_slash (front back : String) :
    segments (front ++ "/" ++ back) = segments front ++ segments back := by
  have hpath : (front ++ "/" ++ back).toList = front.toList ++ '/' :: back.toList := by simp
  rw [segments, hpath, Text.pieces_append, List.map_append, segments, segments]

theorem segments_slashed (front : String) : segments (front ++ "/") = segments front ++ [""] := by
  have hempty := segments_slash front ""
  rwa [String.append_empty] at hempty

theorem segments_of_not_mem {name : String} (h : '/' ∉ name.toList) : segments name = [name] := by
  rw [segments, Text.pieces_of_not_mem h, List.map_singleton, String.ofList_toList]

theorem not_mem_of_mem_segments {path name : String} (h : name ∈ segments path) :
    '/' ∉ name.toList := by
  obtain ⟨piece, hpiece, rfl⟩ := List.mem_map.mp h
  rw [String.toList_ofList]
  exact Text.not_mem_of_mem_pieces hpiece

theorem segments_intercalate {names : List String} (h : ∀ name ∈ names, '/' ∉ name.toList)
    (hne : names ≠ []) : segments ("/".intercalate names) = names := by
  have hpieces : Text.pieces '/' ("/".intercalate names).toList = names.map String.toList := by
    rw [String.toList_intercalate]
    refine Text.pieces_intercalate ?_ (by simpa using hne)
    rintro _ hmem
    obtain ⟨name, hname, rfl⟩ := List.mem_map.mp hmem
    exact h name hname
  rw [segments, hpieces, List.map_map]
  exact List.map_id'' (fun name => String.ofList_toList) names

theorem intercalate_segments (path : String) : "/".intercalate (segments path) = path := by
  have hpieces : (segments path).map String.toList = path.toList.splitOn '/' := by
    rw [segments, List.map_map, Text.pieces_eq_splitOn]
    exact List.map_id'' (fun text => String.toList_ofList) _
  rw [← String.toList_inj, String.toList_intercalate, hpieces]
  exact List.intercalate_splitOn '/'

theorem intercalate_append {front back : List String} (hfront : front ≠ []) (hback : back ≠ []) :
    "/".intercalate (front ++ back) = "/".intercalate front ++ "/" ++ "/".intercalate back := by
  induction front with
  | nil => exact absurd rfl hfront
  | cons name rest ih =>
    cases rest with
    | nil =>
      obtain ⟨other, more, rfl⟩ := List.exists_cons_of_ne_nil hback
      rw [List.singleton_append, String.intercalate_cons_cons, String.intercalate_singleton]
    | cons other more =>
      rw [List.cons_append, List.cons_append, String.intercalate_cons_cons, ← List.cons_append,
        ih (by simp), String.intercalate_cons_cons]
      simp only [String.append_assoc]

theorem isAbsolute_append {front : String} (h : front ≠ "") (back : String) :
    isAbsolute (front ++ back) = isAbsolute front := by
  obtain ⟨c, rest, hfront⟩ : ∃ c rest, front.toList = c :: rest :=
    List.exists_cons_of_ne_nil fun hnil => h (String.toList_inj.mp hnil)
  simp [isAbsolute, hfront]

theorem isAbsolute_of_not_mem {name : String} (h : '/' ∉ name.toList) : isAbsolute name = false := by
  rw [isAbsolute, decide_eq_false_iff_not]
  exact fun hhead => h (List.mem_of_head? hhead)

/-! ## Names -/

/-- The segments that are names, with their indices; those of a path are its `names`. -/
def plain (segments : List String) : List (String × Nat) :=
  segments.zipIdx.filter fun (name, index) => name != "" && (name != "." || index == 0)

/-- A segment that stays in the folder. -/
def Stays (name : String) : Prop := name = "" ∨ name = "."

theorem plain_concat (front : List String) (name : String) :
    plain (front ++ [name]) =
      plain front ++ if name != "" && (name != "." || front.length == 0) then [(name, front.length)]
        else [] := by
  rw [plain, List.zipIdx_append, List.filter_append, plain]
  simp [List.filter_cons]

theorem stays_of_plain_eq_nil {segments : List String} (h : plain segments = []) :
    ∀ name ∈ segments, Stays name := by
  induction segments using List.reverseRecOn with
  | nil => simp
  | append_singleton front name ih =>
    rw [plain_concat, List.append_eq_nil_iff] at h
    intro other hother
    rcases List.mem_append.mp hother with hfront | hlast
    · exact ih h.1 other hfront
    · rw [List.mem_singleton.mp hlast]
      by_contra hgoes
      rw [Stays, not_or] at hgoes
      simp [hgoes.1, hgoes.2] at h

/-- The last name, with what stands before it and the segments behind it that stay. -/
theorem split_of_plain {segments : List String} {name : String} {index : Nat}
    {rest : List (String × Nat)} (h : (plain segments).reverse = (name, index) :: rest) :
    ∃ front back, segments = front ++ name :: back ∧ front.length = index ∧ name ≠ "" ∧
      (∀ other ∈ back, Stays other) ∧ (plain front).reverse = rest := by
  induction segments using List.reverseRecOn with
  | nil => cases h
  | append_singleton front last ih =>
    rw [plain_concat] at h
    split at h
    · rename_i hname
      rw [List.reverse_append, List.reverse_singleton, List.singleton_append] at h
      obtain ⟨hlast, rfl⟩ := List.cons.inj h
      obtain ⟨rfl, rfl⟩ := Prod.mk.inj hlast
      rw [Bool.and_eq_true, bne_iff_ne] at hname
      exact ⟨front, [], rfl, rfl, hname.1, by simp, rfl⟩
    · rename_i hstays
      rw [List.append_nil] at h
      obtain ⟨front', back, rfl, hlength, hname, hback, hrest⟩ := ih h
      refine ⟨front', back ++ [last], by simp, hlength, hname, ?_, hrest⟩
      intro other hother
      rcases List.mem_append.mp hother with hmem | hmem
      · exact hback other hmem
      · rw [List.mem_singleton.mp hmem]
        by_contra hgoes
        rw [Stays, not_or] at hgoes
        simp [hgoes.1, hgoes.2] at hstays

theorem reverse_names_of_fileName {path name : String} (h : fileName? path = some name) :
    ∃ index rest, (names path).reverse = (name, index) :: rest ∧ name ≠ "." ∧ name ≠ ".." := by
  rw [fileName?] at h
  split at h
  · rename_i last index hlast
    split at h
    · cases h
    · rename_i hplain
      obtain ⟨front, hnames⟩ := List.getLast?_eq_some_iff.mp hlast
      obtain rfl := Option.some.inj h
      rw [Bool.or_eq_true, beq_iff_eq, beq_iff_eq, not_or] at hplain
      exact ⟨index, front.reverse, by simp [hnames], hplain⟩
  · cases h

theorem mem_segments_of_fileName {path name : String} (h : fileName? path = some name) :
    name ∈ segments path := by
  obtain ⟨index, rest, hnames, _⟩ := reverse_names_of_fileName h
  obtain ⟨front, back, hsegments, _⟩ := split_of_plain hnames
  simp [hsegments]

end Path

namespace Disk

/-! ## Places -/

/-- Where a name leads from a place. -/
def advance (place : Place) (name : String) : Place :=
  if name == "" || name == "." then place
  else if name == ".." then place.dropLast
  else place ++ [name]

/-- Where a path starts. -/
def start (here : Place) (path : String) : Place := if Path.isAbsolute path then [] else here

theorem resolve_eq (here : Place) (path : String) :
    resolve here path = (Path.segments path).foldl advance (start here path) := rfl

theorem advance_stays {name : String} (h : Path.Stays name) (place : Place) :
    advance place name = place := by
  rcases h with rfl | rfl <;> simp [advance]

theorem foldl_stays {names : List String} (h : ∀ name ∈ names, Path.Stays name) (place : Place) :
    names.foldl advance place = place := by
  induction names with
  | nil => rfl
  | cons name rest ih =>
    obtain ⟨hname, hrest⟩ := List.forall_mem_cons.mp h
    rw [List.foldl_cons, advance_stays hname, ih hrest]

theorem advance_name {name : String} (hempty : name ≠ "") (hdot : name ≠ ".") (hdots : name ≠ "..")
    (place : Place) : advance place name = place ++ [name] := by
  simp [advance, hempty, hdot, hdots]

theorem resolve_empty (here : Place) : resolve here "" = here := by
  rw [resolve_eq, Path.segments_of_not_mem (by simp), start,
    Path.isAbsolute_of_not_mem (by simp)]
  rfl

theorem resolve_root (here : Place) : resolve here "/" = [] := rfl

theorem start_append {front : String} (h : front ≠ "") (here : Place) (back : String) :
    start here (front ++ back) = start here front := by
  rw [start, start, Path.isAbsolute_append h]

theorem resolve_slashed {front : String} (h : front ≠ "") (here : Place) :
    resolve here (front ++ "/") = resolve here front := by
  rw [resolve_eq, Path.segments_slashed, List.foldl_append, start_append h]
  rfl

theorem resolve_slash (here : Place) (front : String) {name : String} (h : '/' ∉ name.toList) :
    resolve here (front ++ "/" ++ name) = advance (resolve here (front ++ "/")) name := by
  rw [resolve_eq, resolve_eq, start_append (by simp), Path.segments_slash, Path.segments_slashed,
    Path.segments_of_not_mem h, List.foldl_append, List.foldl_append]
  rfl

theorem exists_of_endsInSlash {path : String} (h : Path.endsInSlash path = true) :
    ∃ front, path = front ++ "/" := by
  rw [Path.endsInSlash, decide_eq_true_eq, List.getLast?_eq_some_iff] at h
  obtain ⟨front, hpath⟩ := h
  exact ⟨String.ofList front, by rw [← String.toList_inj, hpath]; simp⟩

/-- A name joined to a path leads on from where the path leads. -/
theorem resolve_join (here : Place) (folder : String) {name : String} (h : '/' ∉ name.toList) :
    resolve here (Path.join folder name) = advance (resolve here folder) name := by
  rw [Path.join, Path.isAbsolute_of_not_mem h, if_neg Bool.false_ne_true]
  by_cases hempty : folder = ""
  · subst hempty
    rw [if_pos (by simp), String.empty_append, resolve_empty, resolve_eq, start,
      Path.isAbsolute_of_not_mem h, Path.segments_of_not_mem h]
    rfl
  · by_cases hslash : Path.endsInSlash folder = true
    · obtain ⟨front, rfl⟩ := exists_of_endsInSlash hslash
      rw [if_pos (by simp [hslash]), resolve_slash here front h]
    · rw [if_neg (by simpa [hempty] using hslash), resolve_slash here folder h,
        resolve_slashed hempty]

/-- A path cut behind a segment that is not empty leads on from where its front leads. -/
theorem resolve_of_segments {path : String} {front back : List String}
    (h : Path.segments path = front ++ back) (hname : ∃ name ∈ front, name ≠ "") (here : Place) :
    resolve here path = back.foldl advance (resolve here ("/".intercalate front)) := by
  obtain ⟨name, hmem, hname⟩ := hname
  have hfront : front ≠ [] := List.ne_nil_of_mem hmem
  have hslash : ∀ name ∈ front, '/' ∉ name.toList := by
    intro name hname
    have hmem : name ∈ Path.segments path := h ▸ List.mem_append_left back hname
    exact Path.not_mem_of_mem_segments hmem
  have hsegments := Path.segments_intercalate hslash hfront
  have hstart : start here path = start here ("/".intercalate front) := by
    by_cases hback : back = []
    · rw [← Path.intercalate_segments path, h, hback, List.append_nil]
    · have hne : "/".intercalate front ≠ "" := by
        intro hempty
        rw [hempty] at hsegments
        rw [← hsegments] at hmem
        exact hname (List.mem_singleton.mp hmem)
      rw [← Path.intercalate_segments path, h, Path.intercalate_append hfront hback,
        String.append_assoc, start_append hne]
  rw [resolve_eq, resolve_eq, hsegments, hstart, h, List.foldl_append]

/-- A path with a last name leads to that name in the folder that its parent leads to. -/
theorem resolve_of_fileName {path name : String} (h : Path.fileName? path = some name)
    (here : Place) : ∃ parent, Path.parent? path = some parent ∧
      resolve here path = resolve here parent ++ [name] := by
  obtain ⟨index, rest, hnames, hdot, hdots⟩ := Path.reverse_names_of_fileName h
  obtain ⟨front, back, hsegments, rfl, hname, hback, hrest⟩ := Path.split_of_plain hnames
  have hlast : ∀ place, (name :: back).foldl advance place = place ++ [name] := fun place => by
    rw [List.foldl_cons, advance_name hname hdot hdots, foldl_stays hback]
  cases rest with
  | nil =>
    -- No name stands before it, so the parent is where the path starts.
    rw [List.reverse_eq_nil_iff] at hrest
    refine ⟨if Path.isAbsolute path then "/" else "", by rw [Path.parent?, hnames], ?_⟩
    rw [resolve_eq, hsegments, List.foldl_append, foldl_stays (Path.stays_of_plain_eq_nil hrest),
      hlast, start]
    split
    · rw [resolve_root]
    · rw [resolve_empty]
  | cons last rest =>
    -- The parent ends with the name before it; the segments between the two stay where they are.
    obtain ⟨other, index⟩ := last
    obtain ⟨before, between, rfl, rfl, hother, hbetween, _⟩ := Path.split_of_plain hrest
    have hfront : Path.segments path = (before ++ [other]) ++ (between ++ name :: back) := by
      simp [hsegments]
    have htake : (Path.segments path).take (before.length + 1) = before ++ [other] := by
      rw [hfront, List.take_left' (by simp)]
    refine ⟨"/".intercalate (before ++ [other]), by rw [Path.parent?, hnames, ← htake], ?_⟩
    rw [resolve_of_segments hfront ⟨other, by simp, hother⟩, List.foldl_append,
      foldl_stays hbetween, hlast]

/-! ## Drafts -/

/-- The name of the draft of a file. -/
def draftName (name : String) : String := "." ++ name ++ ".tmp"

/-- The place of a draft: beside the file, or in the folder if the path names no file. -/
def draftPlace (here : Place) (fallback path : String) : Place :=
  match Path.fileName? path with
  | some name => (resolve here path).dropLast ++ [draftName name]
  | none => resolve here path ++ [draftName fallback]

theorem slash_not_mem_draftName {name : String} (h : '/' ∉ name.toList) :
    '/' ∉ (draftName name).toList := by
  simpa [draftName] using h

theorem length_draftName (name : String) : (draftName name).length = name.length + 5 := by
  have hdot : ".".length = 1 := rfl
  have hend : ".tmp".length = 4 := rfl
  rw [draftName, String.length_append, String.length_append, hdot, hend]
  omega

theorem advance_draftName (name : String) (place : Place) :
    advance place (draftName name) = place ++ [draftName name] := by
  have hne : ∀ other : String, other.length < 5 → draftName name ≠ other := by
    intro other hlength heq
    rw [← heq, length_draftName] at hlength
    omega
  exact advance_name (hne _ (by decide)) (hne _ (by decide)) (hne _ (by decide)) place

theorem resolve_draft {fallback : String} (h : '/' ∉ fallback.toList) (here : Place)
    (path : String) : resolve here (Path.draft fallback path) = draftPlace here fallback path := by
  rw [Path.draft, Path.withFileName, draftPlace]
  cases hname : Path.fileName? path with
  | none =>
    exact (resolve_join here path (slash_not_mem_draftName h)).trans (advance_draftName fallback _)
  | some name =>
    obtain ⟨parent, hparent, hplace⟩ := resolve_of_fileName hname here
    have hslash := Path.not_mem_of_mem_segments (Path.mem_segments_of_fileName hname)
    rw [hplace, List.dropLast_concat, hparent]
    exact (resolve_join here parent (slash_not_mem_draftName hslash)).trans (advance_draftName name _)

example : draftPlace ["w"] "project.json" "a//./b.json/." = ["w", "a", ".b.json.tmp"] := by decide

theorem draftPlace_ne (here : Place) (fallback path : String) :
    draftPlace here fallback path ≠ resolve here path := by
  rw [draftPlace]
  cases hname : Path.fileName? path with
  | none => simp
  | some name =>
    obtain ⟨parent, _, hplace⟩ := resolve_of_fileName hname here
    have hne : draftName name ≠ name := fun heq => by
      have hlength := length_draftName name
      rw [heq] at hlength
      omega
    simpa [hplace] using hne

theorem draftPlace_ne_emptyFile (here : Place) (fallback path : String) :
    draftPlace here fallback path ≠ emptyFile := by
  have hne : ∀ (place : Place) (name : String), place ++ [draftName name] ≠ emptyFile := by
    intro place name heq
    have hlast : draftName name = "null" := by
      simpa [emptyFile] using congrArg List.getLast? heq
    have hnull : "null".length = 4 := rfl
    have hlength := length_draftName name
    rw [hlast, hnull] at hlength
    omega
  rw [draftPlace]
  split
  · exact hne _ _
  · exact hne _ _

end Disk

/-! ## Walks -/

/-- The place that a walked path names. -/
def Target.place (target : Target) : Place :=
  match target.last with
  | .here => target.folder
  | .above => target.folder.dropLast
  | .named name => target.folder ++ [name]

namespace Disk

variable {disk : Disk}

/-- The names that a walk can enter, and where they lead. -/
theorem enter_eq_ok_iff {place found : Place} {name : String} :
    disk.enter place name = .ok found ↔
      name = "." ∧ found = place ∨ name = ".." ∧ found = place.dropLast ∨
      name ≠ "." ∧ name ≠ ".." ∧ name.utf8ByteSize ≤ maxNameBytes ∧
        disk.entry? (place ++ [name]) = some .folder ∧ found = place ++ [name] := by
  rw [enter]
  by_cases hdot : name = "."
  · simp [hdot, eq_comm]
  · by_cases hdots : name = ".."
    · simp [hdots, eq_comm]
    · by_cases hlong : maxNameBytes < name.utf8ByteSize
      · simp [hdot, hdots, hlong, Nat.not_le_of_lt hlong]
      · simp only [hdot, hdots, hlong, Nat.le_of_not_lt hlong, beq_iff_eq, if_false]
        cases disk.entry? (place ++ [name]) with
        | none => simp
        | some entry =>
          cases entry with
          | folder => simp [hdot, hdots, eq_comm]
          | file content => simp

theorem enter_eq {place found : Place} {name : String} (h : disk.enter place name = .ok found)
    (hname : name ≠ "") : found = advance place name := by
  rcases enter_eq_ok_iff.mp h with ⟨rfl, rfl⟩ | ⟨rfl, rfl⟩ | ⟨hdot, hdots, _, _, rfl⟩
  · rfl
  · rfl
  · exact (advance_name hname hdot hdots place).symm

theorem walk_eq {place found : Place} {names : List String} (h : disk.walk place names = .ok found)
    (hnames : ∀ name ∈ names, name ≠ "") : found = names.foldl advance place := by
  induction names generalizing place with
  | nil => exact (Except.ok.inj h).symm
  | cons name rest ih =>
    obtain ⟨hname, hrest⟩ := List.forall_mem_cons.mp hnames
    rw [walk] at h
    split at h
    · rename_i next hnext
      rw [List.foldl_cons, ← enter_eq hnext hname]
      exact ih h hrest
    · cases h

/-- The segments that are not empty. -/
def filledSegments (path : String) : List String :=
  (Path.segments path).filter fun name => name != ""

theorem filled_of_mem {path name : String} (h : name ∈ filledSegments path) : name ≠ "" :=
  bne_iff_ne.mp (List.mem_filter.mp h).2

theorem resolve_eq_foldl (here : Place) (path : String) :
    resolve here path = (filledSegments path).foldl advance (start here path) := by
  rw [resolve_eq, filledSegments, List.foldl_filter]
  congr
  funext place name
  split
  · rfl
  · rename_i hempty
    exact advance_stays (.inl (by simpa using hempty)) place

theorem resolve_of_slashes {path : String} (hpath : path ≠ "") (h : filledSegments path = [])
    (here : Place) : resolve here path = [] := by
  have hempty : ∀ name ∈ Path.segments path, name = "" := by
    simpa [filledSegments, List.filter_eq_nil_iff] using h
  have habsolute : Path.isAbsolute path = true := by
    have hjoined := Path.intercalate_segments path
    generalize Path.segments path = names at hempty hjoined
    cases names with
    | nil => exact absurd hjoined.symm hpath
    | cons name rest =>
      obtain ⟨rfl, _⟩ := List.forall_mem_cons.mp hempty
      cases rest with
      | nil => exact absurd hjoined.symm hpath
      | cons other more =>
        rw [← hjoined, String.intercalate_cons_cons, String.empty_append,
          Path.isAbsolute_append (by decide)]
        rfl
  rw [resolve_eq_foldl, h, start, habsolute]
  rfl

/-- The target of a path with its last segment, when its folders lead to a place. -/
def targetIn (path last : String) (folder : Place) : Target :=
  ⟨folder, if last == "." then .here else if last == ".." then .above else .named last,
    Path.endsInSlash path⟩

theorem place_targetIn {path last : String} (h : last ≠ "") (folder : Place) :
    (targetIn path last folder).place = advance folder last := by
  by_cases hdot : last = "."
  · simp [targetIn, Target.place, advance, hdot]
  · by_cases hdots : last = ".."
    · simp [targetIn, Target.place, advance, hdots]
    · simp [targetIn, Target.place, advance, hdot, hdots, h]

/-- The target of a path by its segments that are not empty, the last one first. -/
def targetFrom (disk : Disk) (path : String) : List String → Except OsError Target
  | [] => if path.isEmpty then .error .notFound else .ok ⟨[], .here, true⟩
  | last :: folders =>
    (disk.walk (start disk.here path) folders.reverse).map (targetIn path last)

/-- A path that can be walked is one of slashes alone, or its folders lead somewhere. -/
theorem target_eq_ok_iff {path : String} {target : Target} :
    disk.target path = .ok target ↔
      ((path.toList.any fun c => c.toNat = 0) = false ∧ path.utf8ByteSize ≤ maxPathBytes) ∧
      (filledSegments path = [] ∧ path ≠ "" ∧ target = ⟨[], .here, true⟩ ∨
        ∃ folders last folder, filledSegments path = folders ++ [last] ∧
          disk.walk (start disk.here path) folders = .ok folder ∧
          target = targetIn path last folder) := by
  by_cases hnul : (path.toList.any fun c => c.toNat = 0) = true
  · simp [Disk.target, hnul]
  by_cases hlong : maxPathBytes < path.utf8ByteSize
  · simp [Disk.target, hnul, hlong, Nat.not_le_of_lt hlong]
  have htarget : disk.target path = disk.targetFrom path (filledSegments path).reverse := by
    rw [Disk.target, if_neg hnul, if_neg hlong]
    rfl
  rw [Bool.not_eq_true] at hnul
  rw [htarget, and_iff_right (⟨hnul, Nat.le_of_not_lt hlong⟩ : _ ∧ _)]
  rcases List.eq_nil_or_concat (filledSegments path) with hnames | ⟨folders, last, hnames⟩
  · have hnone : ∀ (folders : List String) (last : String), [] ≠ folders ++ [last] := by simp
    rw [hnames, List.reverse_nil, targetFrom]
    split <;> rename_i hpath
    · refine iff_of_false (by simp) ?_
      rintro (⟨_, hne, _⟩ | ⟨folders, last, _, hsame, _⟩)
      · exact hne (String.isEmpty_iff.mp hpath)
      · exact hnone folders last hsame
    · constructor
      · exact fun h => .inl ⟨rfl, fun hempty => hpath (String.isEmpty_iff.mpr hempty),
          (Except.ok.inj h).symm⟩
      · rintro (⟨_, _, rfl⟩ | ⟨folders, last, _, hsame, _⟩)
        · rfl
        · exact absurd hsame (hnone folders last)
  · rw [hnames, List.concat_eq_append, List.reverse_append, List.reverse_singleton,
      List.singleton_append, targetFrom, List.reverse_reverse]
    constructor
    · intro h
      cases hwalk : disk.walk (start disk.here path) folders with
      | error cause =>
        rw [hwalk] at h
        cases h
      | ok folder =>
        rw [hwalk] at h
        exact .inr ⟨folders, last, folder, rfl, hwalk, (Except.ok.inj h).symm⟩
    · rintro (⟨hnil, _⟩ | ⟨others, other, folder, hsame, hwalk, rfl⟩)
      · simp at hnil
      · obtain ⟨rfl, hlast⟩ := List.append_inj' hsame rfl
        obtain rfl := List.singleton_inj.mp hlast
        rw [hwalk]
        rfl

/-- A walked path names the place that can be read off it. -/
theorem place_of_target {path : String} {target : Target} (h : disk.target path = .ok target) :
    target.place = resolve disk.here path := by
  obtain ⟨_, ⟨hnames, hpath, rfl⟩ | ⟨folders, last, folder, hnames, hwalk, rfl⟩⟩ :=
    target_eq_ok_iff.mp h
  · rw [resolve_of_slashes hpath hnames]
    rfl
  · have hfilled : ∀ name ∈ folders ++ [last], name ≠ "" := by
      rw [← hnames]
      exact fun name => filled_of_mem
    have hfolder := walk_eq hwalk fun name hmem => hfilled name (List.mem_append_left _ hmem)
    rw [place_targetIn (hfilled last (by simp)), resolve_eq_foldl, hnames, List.foldl_append,
      ← hfolder]
    rfl

section Folders

variable {former : Disk}
  (hfolders : ∀ place, former.entry? place = some .folder → disk.entry? place = some .folder)
include hfolders

theorem walk_of_folders {place found : Place} {names : List String}
    (h : former.walk place names = .ok found) : disk.walk place names = .ok found := by
  induction names generalizing place with
  | nil => exact h
  | cons name rest ih =>
    rw [walk] at h
    split at h
    · rename_i next hnext
      have hstep : disk.enter place name = .ok next := by
        rw [enter_eq_ok_iff] at hnext ⊢
        exact hnext.imp_right (Or.imp_right fun ⟨hdot, hdots, hshort, hentry, hnext⟩ =>
          ⟨hdot, hdots, hshort, hfolders _ hentry, hnext⟩)
      rw [walk, hstep]
      exact ih h
    · cases h

/-- A path that leads somewhere still leads there when no folder is lost. -/
theorem target_of_folders (hhere : disk.here = former.here) {path : String} {target : Target}
    (h : former.target path = .ok target) : disk.target path = .ok target := by
  rw [target_eq_ok_iff] at h ⊢
  refine h.imp_right (Or.imp_right ?_)
  rintro ⟨folders, last, folder, hnames, hwalk, htarget⟩
  exact ⟨folders, last, folder, hnames, hhere ▸ walk_of_folders hfolders hwalk, htarget⟩

end Folders

/-! ## What is found -/

theorem exists_of_bind_ok {ε α β : Type} {first : Except ε α} {next : α → Except ε β} {value : β}
    (h : (first >>= next) = .ok value) : ∃ middle, first = .ok middle ∧ next middle = .ok value := by
  cases first with
  | error error => cases h
  | ok middle => exact ⟨middle, rfl, h⟩

variable {path : String} {place : Place}

theorem place_of_folderPlace (h : disk.folderPlace path = .ok place) :
    place = resolve disk.here path ∧ disk.entry? place = none := by
  obtain ⟨⟨folder, last, slashed⟩, htarget, h⟩ := exists_of_bind_ok h
  rw [← place_of_target htarget]
  cases last with
  | here => cases h
  | above => cases h
  | named name =>
    dsimp only at h
    split at h
    · cases h
    · split at h
      · cases h
      · rename_i hnone
        obtain rfl := Except.ok.inj h
        exact ⟨rfl, hnone⟩

theorem place_of_movePlace (h : disk.movePlace path = .ok place) :
    place = resolve disk.here path ∧ disk.entry? place ≠ some .folder := by
  obtain ⟨⟨folder, last, slashed⟩, htarget, h⟩ := exists_of_bind_ok h
  rw [← place_of_target htarget]
  cases last with
  | here => cases h
  | above => cases h
  | named name =>
    dsimp only at h
    split at h
    · cases h
    · split at h
      · cases h
      · split at h
        · cases h
        · rename_i hfolder
          obtain rfl := Except.ok.inj h
          exact ⟨rfl, hfolder⟩

/-- What is said of a walked path that names a file or nothing. -/
theorem place_of_look {target : Target} {found : Option (Place × Entry)}
    (h : disk.look target = .ok found) (hfound : ∀ place, found ≠ some (place, .folder)) :
    disk.entry? target.place = found.map Prod.snd ∧ ∀ entry ∈ found, entry.1 = target.place := by
  obtain ⟨folder, last, slashed⟩ := target
  cases last with
  | here => exact absurd (Except.ok.inj h).symm (hfound _)
  | above => exact absurd (Except.ok.inj h).symm (hfound _)
  | named name =>
    rw [look] at h
    dsimp only at h
    split at h
    · cases h
    · split at h
      · rename_i hnone
        rw [← Except.ok.inj h]
        exact ⟨hnone, by simp⟩
      · rename_i content hfile
        split at h
        · cases h
        · rw [← Except.ok.inj h]
          exact ⟨hfile, by simp [Target.place]⟩
      · exact absurd (Except.ok.inj h).symm (hfound _)

theorem place_of_filePlace (h : disk.filePlace path = .ok place) :
    place = resolve disk.here path ∧ disk.entry? place ≠ some .folder := by
  obtain ⟨⟨folder, last, slashed⟩, htarget, h⟩ := exists_of_bind_ok h
  rw [← place_of_target htarget]
  cases last with
  | here => cases h
  | above => cases h
  | named name =>
    dsimp only at h
    split at h
    · cases h
    · obtain ⟨found, hlook, h⟩ := exists_of_bind_ok h
      split at h
      · cases h
      · obtain ⟨hentry, hplace⟩ := place_of_look hlook (by simp)
        obtain rfl := Except.ok.inj h
        simp only [Option.mem_def, Option.some.injEq, forall_eq'] at hplace
        rw [hplace, hentry]
        simp
      · obtain ⟨hentry, _⟩ := place_of_look hlook (by simp)
        obtain rfl := Except.ok.inj h
        exact ⟨rfl, by simpa [Target.place] using ne_of_eq_of_ne hentry (by simp)⟩

theorem place_of_find {content : Content} (h : disk.find path = .ok (place, .file content)) :
    place = resolve disk.here path ∧ disk.entry? place = some (.file content) := by
  obtain ⟨target, htarget, h⟩ := exists_of_bind_ok h
  obtain ⟨found, hlook, h⟩ := exists_of_bind_ok h
  rw [← place_of_target htarget]
  split at h
  · obtain rfl := Except.ok.inj h
    obtain ⟨hentry, hplace⟩ := place_of_look hlook (by simp)
    simp only [Option.mem_def, Option.some.injEq, forall_eq'] at hplace
    rw [hplace, hentry]
    exact ⟨rfl, rfl⟩
  · cases h

/-- A file that has been moved by a path is found under that path. -/
theorem find_of_movePlace {former : Disk} (h : former.movePlace path = .ok place)
    (hfolders : ∀ place, former.entry? place = some .folder → disk.entry? place = some .folder)
    (hhere : disk.here = former.here) {content : Content}
    (hentry : disk.entry? place = some (.file content)) :
    disk.find path = .ok (place, .file content) := by
  obtain ⟨⟨folder, last, slashed⟩, htarget, h⟩ := exists_of_bind_ok h
  have hagain := target_of_folders hfolders hhere htarget
  cases last with
  | here => cases h
  | above => cases h
  | named name =>
    dsimp only at h
    split at h
    · cases h
    · rename_i hlong
      split at h
      · cases h
      · rename_i hslashed
        split at h
        · cases h
        · obtain rfl := Except.ok.inj h
          have hlook : disk.look ⟨folder, .named name, slashed⟩ =
              .ok (some (folder ++ [name], .file content)) := by
            simp [look, hlong, hentry, hslashed]
          rw [find, hagain]
          simp only [bind, Except.bind, hlook]

end Disk

end SignalCatalog
