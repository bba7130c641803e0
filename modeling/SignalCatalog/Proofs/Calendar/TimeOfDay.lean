import SignalCatalog.Proofs.Calendar.Written

/-!
# Written dates with a time of day

A written date may stand between blanks, and a time of day may follow it behind the letter `T` or one
blank. Sixteen spellings are tried in order on such a text. The main statement is that it is read as
the date, and that no spelling takes it for another one: a spelling that starts with year, month and
day between dashes takes exactly the date, and every other one stops in the year or at the dash behind
it.
-/

namespace SignalCatalog

namespace Calendar

open Text Item

/-- A number of two digits, with a zero in front of a single one. -/
def twoDigits (n : Nat) : List Char := (padded 2 n).toList

/-- A time of day with minutes, with seconds, or with a fraction of a second. The second may be a leap
second. -/
inductive TimeOfDay : List Char → Prop
  | minutes {h m : Nat} (hh : h ≤ 23) (hm : m ≤ 59) : TimeOfDay (twoDigits h ++ ':' :: twoDigits m)
  | seconds {h m s : Nat} (hh : h ≤ 23) (hm : m ≤ 59) (hs : s ≤ 60) :
    TimeOfDay (twoDigits h ++ ':' :: (twoDigits m ++ ':' :: twoDigits s))
  | fraction {h m s : Nat} {run : List Char} (hh : h ≤ 23) (hm : m ≤ 59) (hs : s ≤ 60)
    (hne : run ≠ []) (hrun : ∀ c ∈ run, c.isDigit = true) :
    TimeOfDay (twoDigits h ++ ':' :: (twoDigits m ++ ':' :: (twoDigits s ++ '.' :: run)))

/-- What may follow a written date: nothing, or a time of day behind a `T` or a blank. -/
inductive Behind : List Char → Prop
  | nothing : Behind []
  | time {separator : Char} {time : List Char} (hseparator : separator = 'T' ∨ isBlank separator = true)
    (htime : TimeOfDay time) : Behind (separator :: time)

theorem isDigit_of_mem_twoDigits {n : Nat} : ∀ c ∈ twoDigits n, c.isDigit = true :=
  isDigit_of_mem_padded

theorem twoDigits_ne_nil (n : Nat) : twoDigits n ≠ [] := padded_ne_nil 2 n

theorem Behind.noDigit {rest : List Char} (h : Behind rest) : NoDigit rest := by
  cases h with
  | nothing => exact noDigit_nil
  | time hseparator _ =>
    rcases hseparator with rfl | hblank
    · exact noDigit_cons (by decide) _
    · exact noDigit_cons (isDigit_of_isBlank hblank) _

/-- A time of day starts and ends with a run of digits. -/
theorem TimeOfDay.trimmed {time : List Char} (h : TimeOfDay time) : Trimmed time ∧ time ≠ [] := by
  have hstart : ∀ {n : Nat} {middle last : List Char}, (∀ c ∈ last, c.isDigit = true) → last ≠ [] →
      Trimmed (twoDigits n ++ ':' :: (middle ++ last)) ∧
        twoDigits n ++ ':' :: (middle ++ last) ≠ [] := by
    intro n middle last hlast hne
    obtain ⟨c, more, hc⟩ := List.exists_cons_of_ne_nil (twoDigits_ne_nil n)
    have hblank := isBlank_of_isDigit (isDigit_of_mem_twoDigits c (by rw [hc]; exact List.mem_cons_self))
    have htrimmed := trimmed_cons hblank (trimmed_digits hlast) (more ++ ':' :: middle) hne
    simp only [hc, List.cons_append, List.append_assoc] at htrimmed ⊢
    exact ⟨htrimmed, List.cons_ne_nil _ _⟩
  cases h with
  | @minutes h m =>
    have hlast := @hstart h [] _ (@isDigit_of_mem_twoDigits m) (twoDigits_ne_nil m)
    simpa using hlast
  | @seconds h m s =>
    have hlast := @hstart h (twoDigits m ++ [':']) _ (@isDigit_of_mem_twoDigits s)
      (twoDigits_ne_nil s)
    simpa using hlast
  | @fraction h m s run _ _ _ hne hrun =>
    have hlast := @hstart h (twoDigits m ++ ':' :: (twoDigits s ++ ['.'])) run hrun hne
    simpa using hlast

theorem trimmed_behind (date : Date) {rest : List Char} (h : Behind rest) :
    Trimmed (date.text.toList ++ rest) ∧ date.text.toList ++ rest ≠ [] := by
  obtain ⟨c, more, hhead, hblank⟩ := yearText_head date.year
  cases h with
  | nothing =>
    have hne : date.text.toList ≠ [] := by simp [toList_text]
    simpa [hne] using (filled_text date).2
  | @time separator time _ htime =>
    obtain ⟨htrimmed, hne⟩ := htime.trimmed
    have htext := trimmed_cons hblank htrimmed (more ++ '-' :: ((padded 2 date.month).toList ++
      '-' :: ((padded 2 date.day).toList ++ [separator]))) hne
    simp only [toList_text, hhead, List.cons_append, List.append_assoc, List.nil_append] at htext ⊢
    exact ⟨htext, List.cons_ne_nil _ _⟩

/-! ## Spellings that start as a date is written -/

/-- An item that is no part of a date. -/
def ofTime : Item → Bool
  | hour | minute | second | fraction | mark _ | gap => true
  | _ => false

theorem parts_of_take? {item : Item} (h : ofTime item = true) {parts found : Parts}
    {text rest : List Char} (htake : item.take? parts text = some (found, rest)) :
    found = parts := by
  cases item with
  | mark c =>
    cases text with
    | nil => cases htake
    | cons d text =>
      simp only [Item.take?, Option.ite_none_right_eq_some, Option.some.injEq,
        Prod.mk.injEq] at htake
      exact htake.2.1.symm
  | gap =>
    simp only [Item.take?, Option.some.injEq, Prod.mk.injEq] at htake
    exact htake.1.symm
  | hour | minute | second | fraction =>
    simp only [Item.take?, Option.map_eq_some_iff, Prod.mk.injEq] at htake
    obtain ⟨_, _, hparts, _⟩ := htake
    exact hparts.symm
  | year | month | day | shortMonth | longMonth => cases h

theorem parts_of_matchItems? {items : List Item} (h : ∀ item ∈ items, ofTime item = true)
    {parts found : Parts} {text : List Char} (hmatch : matchItems? items parts text = some found) :
    found = parts := by
  induction items generalizing parts text with
  | nil =>
    cases text with
    | nil => exact (Option.some.inj hmatch).symm
    | cons c rest => cases hmatch
  | cons item items ih =>
    rw [matchItems?] at hmatch
    split at hmatch
    · rename_i middle rest htake
      obtain rfl := parts_of_take? (h item List.mem_cons_self) htake
      exact ih (fun other hother => h other (List.mem_cons_of_mem _ hother)) hmatch
    · cases hmatch

theorem matchItems?_minutes {h m : Nat} (hh : h ≤ 23) (hm : m ≤ 59) {rest : List Char}
    (hrest : NoDigit rest) (items : List Item) (parts : Parts) :
    matchItems? (minutes ++ items) parts (twoDigits h ++ ':' :: (twoDigits m ++ rest)) =
      matchItems? items parts rest := by
  have hhour := takeField?_padded hh (by omega)
    (noDigit_cons (c := ':') (by decide) ((padded 2 m).toList ++ rest))
  have hminute := takeField?_padded hm (by omega) hrest
  simp [twoDigits, minutes, matchItems?, Item.take?, hhour, hminute]

theorem matchItems?_seconds {h m s : Nat} (hh : h ≤ 23) (hm : m ≤ 59) (hs : s ≤ 60)
    {rest : List Char} (hrest : NoDigit rest) (items : List Item) (parts : Parts) :
    matchItems? (seconds ++ items) parts
      (twoDigits h ++ ':' :: (twoDigits m ++ ':' :: (twoDigits s ++ rest))) =
      matchItems? items parts rest := by
  have hsecond := takeField?_padded hs (by omega) hrest
  rw [seconds, List.append_assoc,
    matchItems?_minutes hh hm (noDigit_cons (by decide) _) ([mark ':', second] ++ items)]
  simp [twoDigits, matchItems?, Item.take?, hsecond]

/-- A time of day is matched with seconds and a fraction, or with minutes only. -/
theorem TimeOfDay.matchItems? {time : List Char} (h : TimeOfDay time) (parts : Parts) :
    Calendar.matchItems? (Calendar.seconds ++ [Item.fraction]) parts time = some parts ∨
      Calendar.matchItems? Calendar.minutes parts time = some parts := by
  cases h with
  | minutes hh hm =>
    have hmatch := matchItems?_minutes hh hm noDigit_nil [] parts
    rw [List.append_nil, List.append_nil] at hmatch
    exact Or.inr hmatch
  | seconds hh hm hs =>
    have hmatch := matchItems?_seconds hh hm hs noDigit_nil [Item.fraction] parts
    rw [List.append_nil] at hmatch
    exact Or.inl hmatch
  | @fraction h m s run hh hm hs hne hrun =>
    obtain ⟨c, more, rfl⟩ := List.exists_cons_of_ne_nil hne
    have hc : c.isDigit = true := hrun c List.mem_cons_self
    have hend : dropFraction? ('.' :: c :: more) = some [] := by
      rw [dropFraction?, if_pos hc, List.dropWhile_eq_nil_iff.mpr hrun]
    refine Or.inl ?_
    rw [matchItems?_seconds hh hm hs (noDigit_cons (by decide) _)]
    simp [Calendar.matchItems?, Item.take?, hend]

/-- A written date is matched by a spelling of the list, also with a time of day behind it. -/
theorem exists_read?_behind (date : Date) {rest : List Char} (h : Behind rest) :
    ∃ form ∈ dateForms ++ dateTimeForms, read? form (date.text.toList ++ rest) = some date := by
  have hread : ∀ items, matchItems? items (.of date) rest = some (.of date) →
      read? (isoItems ++ items) (date.text.toList ++ rest) = some date := by
    intro items hmatch
    rw [read?, matchItems?_isoItems date h.noDigit, hmatch]
    exact of?_of date
  cases h with
  | nothing => exact ⟨isoItems, by simp [dateForms], by simpa using hread [] rfl⟩
  | @time separator time hseparator htime =>
    have hgap : isBlank separator = true → trimStart (separator :: time) = time := by
      intro hblank
      rw [trimStart, List.dropWhile_cons_of_pos hblank]
      exact trimStart_eq_self htime.trimmed.1.1
    rcases hseparator with rfl | hblank
    · rcases htime.matchItems? (.of date) with hseconds | hminutes
      · exact ⟨isoItems ++ ([mark 'T'] ++ (seconds ++ [fraction])), by simp [dateTimeForms],
          hread _ (by simpa [matchItems?, Item.take?] using hseconds)⟩
      · exact ⟨isoItems ++ ([mark 'T'] ++ minutes), by simp [dateTimeForms],
          hread _ (by simpa [matchItems?, Item.take?] using hminutes)⟩
    · rcases htime.matchItems? (.of date) with hseconds | hminutes
      · exact ⟨isoItems ++ ([gap] ++ (seconds ++ [fraction])), by simp [dateTimeForms],
          hread _ (by simpa [matchItems?, Item.take?, hgap hblank] using hseconds)⟩
      · exact ⟨isoItems ++ ([gap] ++ minutes), by simp [dateTimeForms],
          hread _ (by simpa [matchItems?, Item.take?, hgap hblank] using hminutes)⟩

/-! ## The other spellings -/

theorem monthNames_start : ∀ name ∈ monthNames,
    (lower (name.toList.take 3)).head?.any Char.isAlpha = true := by
  decide +kernel

theorem takeShortMonth?_eq_none {c : Char} (h : c.isAlpha = false) (rest : List Char) :
    takeShortMonth? (c :: rest) = none := by
  have hnone : monthNames.findIdx? (fun name =>
      (afterIgnoringCase? (name.toList.take 3) (c :: rest)).isSome) = none := by
    rw [List.findIdx?_eq_none_iff]
    intro name hname
    by_contra hsome
    have hsame : lower ((c :: rest).take (name.toList.take 3).length) =
        lower (name.toList.take 3) := by
      simpa [afterIgnoringCase?] using hsome
    have hstart := monthNames_start name hname
    rw [← hsame, lower, List.head?_map, List.head?_take] at hstart
    split at hstart
    · cases hstart
    · have halpha : c.isAlpha = true := isAlpha_of_isAlpha_toLower (by simpa using hstart)
      rw [h] at halpha
      cases halpha
  simp [takeShortMonth?, hnone]

/-- Whether a spelling goes on with something that no digit matches. -/
def stopsAtDigit : List Item → Bool
  | gap :: items => stopsAtDigit items
  | mark c :: _ => !c.isDigit
  | shortMonth :: _ | longMonth :: _ => true
  | _ => false

theorem matchItems?_of_stopsAtDigit {items : List Item} (h : stopsAtDigit items = true) {d : Char}
    (hd : d.isDigit = true) (parts : Parts) (rest : List Char) :
    matchItems? items parts (d :: rest) = none := by
  have halpha := isAlpha_of_isDigit hd
  induction items using stopsAtDigit.induct with
  | case1 items ih =>
    simp only [matchItems?, Item.take?, trimStart_cons (isBlank_of_isDigit hd)]
    exact ih h
  | case2 c items =>
    have hne : c ≠ d := by
      rintro rfl
      simp [stopsAtDigit, hd] at h
    simp [matchItems?, Item.take?, hne]
  | case3 items => simp [matchItems?, Item.take?, takeShortMonth?_eq_none halpha]
  | case4 items => simp [matchItems?, Item.take?, takeLongMonth?, takeShortMonth?_eq_none halpha]
  | case5 items h1 h2 h3 h4 => simp [stopsAtDigit] at h

/-- A written year starts with a sign or with three digits. -/
theorem yearText_start (year : Int) :
    (∃ sign run, (Date.yearText year).toList = sign :: run ∧ (sign = '-' ∨ sign = '+')) ∨
      ∃ a b c run, (Date.yearText year).toList = a :: b :: c :: run ∧
        a.isDigit = true ∧ b.isDigit = true ∧ c.isDigit = true := by
  have hlength : 4 ≤ (padded 4 year.natAbs).toList.length := by
    rw [toList_padded, List.length_append, List.length_replicate]
    omega
  have hdigits := @isDigit_of_mem_padded 4 year.natAbs
  unfold Date.yearText
  split_ifs
  · exact Or.inl ⟨'-', (padded 4 year.natAbs).toList, by simp, Or.inl rfl⟩
  · exact Or.inl ⟨'+', (padded 4 year.natAbs).toList, by simp, Or.inr rfl⟩
  · right
    match htext : (padded 4 year.natAbs).toList with
    | a :: b :: c :: run =>
      rw [htext] at hdigits
      exact ⟨a, b, c, run, rfl, by simp [hdigits]⟩
    | [] | [_] | [_, _] => simp [htext] at hlength

theorem yearText_noLetter (year : Int) :
    ∃ c run, (Date.yearText year).toList = c :: run ∧ c.isAlpha = false := by
  rcases yearText_start year with ⟨sign, run, htext, hsign⟩ | ⟨a, b, c, run, htext, ha, -, -⟩
  · exact ⟨sign, run, htext, by rcases hsign with rfl | rfl <;> decide⟩
  · exact ⟨a, b :: c :: run, htext, isAlpha_of_isDigit ha⟩

/-- A number of at most two digits does not take the whole year. -/
theorem takeField?_yearText {limit n : Nat} {year : Int} {rest tail : List Char}
    (h : takeField? limit ((Date.yearText year).toList ++ rest) = some (n, tail)) :
    ∃ d more, tail = d :: more ∧ d.isDigit = true := by
  rcases yearText_start year with ⟨sign, run, htext, hsign⟩ | ⟨a, b, c, run, htext, ha, hb, hc⟩
  · have hblank : isBlank sign = false := by rcases hsign with rfl | rfl <;> decide
    have hdigit : sign.isDigit = false := by rcases hsign with rfl | rfl <;> decide
    simp [takeField?, htext, trimStart_cons hblank, takeNumber?, hdigit] at h
  · have hnumber : takeNumber? 1 2 (a :: b :: c :: (run ++ rest)) =
        some (valueOf [a, b], c :: (run ++ rest)) := by simp [takeNumber?, ha, hb]
    simp only [takeField?, htext, List.cons_append, trimStart_cons (isBlank_of_isDigit ha),
      hnumber, Option.bind_eq_bind, Option.bind_some, Option.ite_none_right_eq_some,
      Option.some.injEq, Prod.mk.injEq] at h
    exact ⟨c, run ++ rest, h.2.2.symm, hc⟩

theorem matchItems?_behind_field {items : List Item} (h : stopsAtDigit items = true)
    {limit n : Nat} {year : Int} {rest tail : List Char}
    (htake : takeField? limit ((Date.yearText year).toList ++ rest) = some (n, tail))
    (parts : Parts) : matchItems? items parts tail = none := by
  obtain ⟨d, more, rfl, hd⟩ := takeField?_yearText htake
  exact matchItems?_of_stopsAtDigit h hd parts more

/-- Whether a spelling stops in the year of a written date or at the dash behind it. -/
def stopsInYear : List Item → Bool
  | year :: mark c :: _ => c ≠ '-'
  | month :: items | day :: items => stopsAtDigit items
  | shortMonth :: _ | longMonth :: _ => true
  | _ => false

theorem matchItems?_of_stopsInYear {items : List Item} (h : stopsInYear items = true) (date : Date)
    (rest : List Char) : matchItems? items .none (date.text.toList ++ rest) = none := by
  obtain ⟨more, htext⟩ : ∃ more, date.text.toList ++ rest =
      (Date.yearText date.year).toList ++ '-' :: more := by
    refine ⟨(padded 2 date.month).toList ++ '-' :: ((padded 2 date.day).toList ++ rest), ?_⟩
    simp [toList_text]
  rw [htext]
  cases items using stopsInYear.fun_cases with
  | case1 c items =>
    have hne : c ≠ '-' := by simpa [stopsInYear] using h
    have hyear := takeYear?_yearText date.year (noDigit_cons (c := '-') (by decide) more)
    simp [matchItems?, Item.take?, hyear, hne]
  | case2 items =>
    cases hmonth : takeField? 12 ((Date.yearText date.year).toList ++ '-' :: more) with
    | none => simp [matchItems?, Item.take?, hmonth]
    | some found =>
      simp only [matchItems?, Item.take?, hmonth, Option.map_some]
      exact matchItems?_behind_field h hmonth _
  | case3 items =>
    cases hday : takeField? 31 ((Date.yearText date.year).toList ++ '-' :: more) with
    | none => simp [matchItems?, Item.take?, hday]
    | some found =>
      simp only [matchItems?, Item.take?, hday, Option.map_some]
      exact matchItems?_behind_field h hday _
  | case4 items =>
    obtain ⟨c, run, hc, halpha⟩ := yearText_noLetter date.year
    simp [hc, matchItems?, Item.take?, takeShortMonth?_eq_none halpha]
  | case5 items =>
    obtain ⟨c, run, hc, halpha⟩ := yearText_noLetter date.year
    simp [hc, matchItems?, Item.take?, takeLongMonth?, takeShortMonth?_eq_none halpha]
  | case6 items => simp [stopsInYear] at h

/-- A spelling that starts as a date is written, and is followed by nothing of a date. -/
def startsIso (items : List Item) : Bool :=
  decide (items.take 5 = isoItems) && (items.drop 5).all ofTime

theorem forms_cases : ∀ form ∈ dateForms ++ dateTimeForms,
    startsIso form = true ∨ stopsInYear form = true := by
  decide

/-- No spelling of the list takes a written date for another one. -/
theorem eq_of_read?_behind {date other : Date} {rest : List Char} (h : NoDigit rest)
    {form : List Item} (hform : form ∈ dateForms ++ dateTimeForms)
    (hread : read? form (date.text.toList ++ rest) = some other) : other = date := by
  obtain ⟨parts, hmatch, hparts⟩ := Option.bind_eq_some_iff.mp hread
  rcases forms_cases form hform with hiso | hstops
  · obtain ⟨hstart, hend⟩ := Bool.and_eq_true_iff.mp hiso
    rw [← List.take_append_drop 5 form, of_decide_eq_true hstart, matchItems?_isoItems date h]
      at hmatch
    rw [parts_of_matchItems? (List.all_eq_true.mp hend) hmatch, of?_of] at hparts
    exact (Option.some.inj hparts).symm
  · rw [matchItems?_of_stopsInYear hstops] at hmatch
    cases hmatch

/-- A search finds a result that some element gives and no element contradicts. -/
theorem findSome?_eq_some_of_forall {α β : Type} {f : α → Option β} {b : β} {list : List α}
    (hother : ∀ a ∈ list, ∀ other, f a = some other → other = b) {a : α} (ha : a ∈ list)
    (hb : f a = some b) : list.findSome? f = some b := by
  cases hfound : list.findSome? f with
  | none =>
    rw [List.findSome?_eq_none_iff.mp hfound a ha] at hb
    cases hb
  | some other =>
    obtain ⟨c, hc, hresult⟩ := List.exists_of_findSome?_eq_some hfound
    rw [hother c hc other hresult]

/-- A written date is read as the date it stands for, with blanks around it and with or without a time
of day behind it, and no spelling that is tried takes it for another date. -/
theorem readDate?_written (date : Date) {lead rest tail : List Char}
    (hlead : ∀ c ∈ lead, isBlank c = true) (hrest : Behind rest)
    (htail : ∀ c ∈ tail, isBlank c = true) :
    readDate? (String.ofList (lead ++ (date.text.toList ++ rest) ++ tail)) = some date ∧
      ∀ form ∈ dateForms ++ dateTimeForms, ∀ other,
        read? form (trim (lead ++ (date.text.toList ++ rest) ++ tail)) = some other →
          other = date := by
  obtain ⟨htrimmed, hne⟩ := trimmed_behind date hrest
  have htrim := trim_surrounded hlead htail htrimmed hne
  rw [htrim]
  have hother : ∀ form ∈ dateForms ++ dateTimeForms, ∀ other,
      read? form (date.text.toList ++ rest) = some other → other = date :=
    fun form hform other hread => eq_of_read?_behind hrest.noDigit hform hread
  obtain ⟨form, hform, hread⟩ := exists_read?_behind date hrest
  have hfound := findSome?_eq_some_of_forall hother hform hread
  have hempty : (date.text.toList ++ rest).isEmpty = false := by simpa using hne
  refine ⟨?_, hother⟩
  simp only [readDate?, String.toList_ofList, htrim, hempty, Bool.false_eq_true, if_false]
  rw [List.findSome?_append] at hfound
  cases hfirst : dateForms.findSome? (read? · (date.text.toList ++ rest)) with
  | none =>
    rw [hfirst, Option.none_or] at hfound
    simp [hfound]
  | some found =>
    rw [hfirst] at hfound
    exact hfound

theorem readDate?_written_leapSecond :
    let date : Date := ⟨-12000, 2, 29, by decide +kernel⟩
    (∀ c ∈ ['\t'], isBlank c = true) ∧ Behind "T23:59:60.125".toList ∧
      (∀ c ∈ [' ', '\n'], isBlank c = true) ∧
      readDate? "\t-12000-02-29T23:59:60.125 \n" = some date ∧
      ∀ form ∈ dateForms ++ dateTimeForms, ∀ other,
        read? form (trim "\t-12000-02-29T23:59:60.125 \n".toList) = some other → other = date := by
  intro date
  have hlead : ∀ c ∈ ['\t'], isBlank c = true := by simp [isBlank, blankRanges]
  have htime : "T23:59:60.125".toList = 'T' :: (twoDigits 23 ++ ':' :: (twoDigits 59 ++ ':' ::
      (twoDigits 60 ++ '.' :: ['1', '2', '5']))) := by decide +kernel
  have hrest : Behind "T23:59:60.125".toList := by
    rw [htime]
    exact .time (Or.inl rfl)
      (.fraction (by omega) (by omega) (by omega) (List.cons_ne_nil _ _) (by simp))
  have htail : ∀ c ∈ [' ', '\n'], isBlank c = true := by simp [isBlank, blankRanges]
  have htext : ['\t'] ++ (date.text.toList ++ "T23:59:60.125".toList) ++ [' ', '\n'] =
      "\t-12000-02-29T23:59:60.125 \n".toList := by decide +kernel
  have hread := readDate?_written date hlead hrest htail
  rw [htext, String.ofList_toList] at hread
  exact ⟨hlead, hrest, htail, hread⟩

end Calendar

end SignalCatalog
