import SignalCatalog.Calendar.Reading
import SignalCatalog.Proofs.Text.Numerals

/-!
# Written dates

The written form of a date is the first of the spellings that are tried, and it is read as the date
it stands for, also with a year of more than four digits or before zero.
-/

namespace SignalCatalog

open Text

namespace Calendar

/-- No digit stands in front. -/
def NoDigit (text : List Char) : Prop := ∀ c ∈ text.head?, c.isDigit = false

theorem noDigit_nil : NoDigit [] := by simp [NoDigit]

theorem noDigit_cons {c : Char} (h : c.isDigit = false) (rest : List Char) : NoDigit (c :: rest) := by
  intro d hd
  obtain rfl := Option.some.inj hd
  exact h

theorem takeNumber?_append {low high : Nat} {run rest : List Char}
    (hrun : ∀ c ∈ run, c.isDigit = true) (hlow : low ≤ run.length) (hhigh : run.length ≤ high)
    (hrest : NoDigit rest) : takeNumber? low high (run ++ rest) = some (valueOf run, rest) := by
  have hend : (rest.take (high - run.length)).takeWhile Char.isDigit = [] := by
    cases rest with
    | nil => simp
    | cons c rest =>
      cases high - run.length with
      | zero => simp
      | succ k => simp [hrest c rfl]
  have htake : ((run ++ rest).take high).takeWhile Char.isDigit = run := by
    rw [List.take_append, List.take_of_length_le hhigh, List.takeWhile_append_of_pos hrun, hend,
      List.append_nil]
  simp [takeNumber?, htake, Nat.not_lt.mpr hlow]

theorem trimStart_digits {run rest : List Char} (hrun : ∀ c ∈ run, c.isDigit = true)
    (hne : run ≠ []) : trimStart (run ++ rest) = run ++ rest := by
  cases run with
  | nil => exact absurd rfl hne
  | cons c run => exact trimStart_cons (isBlank_of_isDigit (hrun c List.mem_cons_self)) _

theorem isDigit_of_head {run rest tail : List Char} {c : Char}
    (hrun : ∀ c ∈ run, c.isDigit = true) (hne : run ≠ []) (h : run ++ rest = c :: tail) :
    c.isDigit = true := by
  cases run with
  | nil => exact absurd rfl hne
  | cons d run =>
    obtain ⟨rfl, _⟩ := List.cons.inj h
    exact hrun d List.mem_cons_self

theorem takeField?_padded {limit n : Nat} (hn : n ≤ limit) (hlimit : limit < 100)
    {rest : List Char} (hrest : NoDigit rest) :
    takeField? limit ((padded 2 n).toList ++ rest) = some (n, rest) := by
  have hlength : (padded 2 n).toList.length = 2 :=
    length_padded (length_digits_le (by omega) (by omega))
  have hnumber : takeNumber? 1 2 ((padded 2 n).toList ++ rest) = some (n, rest) := by
    rw [takeNumber?_append isDigit_of_mem_padded (by omega) (by omega) hrest, valueOf_padded]
  simp [takeField?, trimStart_digits isDigit_of_mem_padded (padded_ne_nil 2 n), hnumber, hn]

/-- A signed year has any number of digits. -/
theorem takeNumber?_padded (n : Nat) {rest : List Char} (hrest : NoDigit rest) :
    takeNumber? 1 ((padded 4 n).toList ++ rest).length ((padded 4 n).toList ++ rest) =
      some (n, rest) := by
  have hpos : 1 ≤ (padded 4 n).toList.length :=
    List.length_pos_of_ne_nil (padded_ne_nil 4 n)
  rw [takeNumber?_append isDigit_of_mem_padded hpos (by simp) hrest, valueOf_padded]

theorem takeYear?_yearText (year : Int) {rest : List Char} (hrest : NoDigit rest) :
    takeYear? ((Date.yearText year).toList ++ rest) = some (year, rest) := by
  have hminus : isBlank '-' = false := by decide
  have hplus : isBlank '+' = false := by decide
  by_cases hneg : year < 0
  · have htext : (Date.yearText year).toList ++ rest =
        '-' :: ((padded 4 year.natAbs).toList ++ rest) := by simp [Date.yearText, hneg]
    have hyear : -(year.natAbs : Int) = year := by omega
    simp only [takeYear?, htext, trimStart_cons hminus, takeNumber?_padded _ hrest,
      Option.map_some, hyear]
  by_cases hlong : 9999 < year
  · have htext : (Date.yearText year).toList ++ rest =
        '+' :: ((padded 4 year.natAbs).toList ++ rest) := by simp [Date.yearText, hneg, hlong]
    have hyear : (year.natAbs : Int) = year := by omega
    simp only [takeYear?, htext, trimStart_cons hplus, takeNumber?_padded _ hrest,
      Option.map_some, hyear]
  · have htext : Date.yearText year = padded 4 year.natAbs := by
      simp [Date.yearText, hneg, hlong]
    have hlength : (padded 4 year.natAbs).toList.length = 4 :=
      length_padded (length_digits_le (by omega) (by omega))
    have hyear : (year.natAbs : Int) = year := by omega
    have hnumber : takeNumber? 1 4 ((padded 4 year.natAbs).toList ++ rest) =
        some (year.natAbs, rest) := by
      rw [takeNumber?_append isDigit_of_mem_padded (by omega) (by omega) hrest, valueOf_padded]
    rw [takeYear?, htext, trimStart_digits isDigit_of_mem_padded (padded_ne_nil 4 _)]
    split
    · rename_i tail htail
      have hdigit := isDigit_of_head isDigit_of_mem_padded (padded_ne_nil 4 _) htail
      simp at hdigit
    · rename_i tail htail
      have hdigit := isDigit_of_head isDigit_of_mem_padded (padded_ne_nil 4 _) htail
      simp at hdigit
    · simp only [hnumber, Option.map_some, hyear]

theorem yearText_head (year : Int) :
    ∃ c rest, (Date.yearText year).toList = c :: rest ∧ isBlank c = false := by
  have hpadded : ∃ c rest, (padded 4 year.natAbs).toList = c :: rest ∧ isBlank c = false := by
    obtain ⟨c, rest, h⟩ := List.exists_cons_of_ne_nil (padded_ne_nil 4 year.natAbs)
    have hdigit : c.isDigit = true := isDigit_of_mem_padded c (by rw [h]; exact List.mem_cons_self)
    exact ⟨c, rest, h, isBlank_of_isDigit hdigit⟩
  unfold Date.yearText
  split_ifs
  · exact ⟨'-', (padded 4 year.natAbs).toList, by simp, by decide⟩
  · exact ⟨'+', (padded 4 year.natAbs).toList, by simp, by decide⟩
  · exact hpadded

theorem toList_text (date : Date) : date.text.toList = (Date.yearText date.year).toList ++ ('-' ::
    ((padded 2 date.month).toList ++ ('-' :: (padded 2 date.day).toList))) := by
  simp [Date.text]

theorem filled_text (date : Date) : Filled date.text := by
  obtain ⟨c, rest, hhead, hblank⟩ := yearText_head date.year
  have htrimmed := trimmed_cons hblank (trimmed_digits isDigit_of_mem_padded)
    (rest ++ '-' :: ((padded 2 date.month).toList ++ ['-'])) (padded_ne_nil 2 date.day)
  refine ⟨?_, by simpa [toList_text, hhead] using htrimmed⟩
  rw [Ne, ← String.toList_inj, toList_text, hhead]
  simp

theorem day_le (date : Date) : date.day ≤ 31 := by
  obtain ⟨-, -, -, -, -, hdays⟩ := date.valid
  have hlong : Date.daysInMonth date.year date.month ≤ 31 := by
    unfold Date.daysInMonth
    split
    · split <;> omega
    all_goals omega
  omega

def Parts.of (date : Date) : Parts := ⟨date.year, date.month, date.day⟩

/-- Year, month and day of a written date are taken off a text. -/
theorem matchItems?_isoItems (date : Date) {rest : List Char} (hrest : NoDigit rest)
    (items : List Item) : matchItems? (isoItems ++ items) .none (date.text.toList ++ rest) =
      matchItems? items (.of date) rest := by
  have hdash : ∀ rest, NoDigit ('-' :: rest) := noDigit_cons (by decide)
  have hyear := takeYear?_yearText date.year (hdash ((padded 2 date.month).toList ++
    ('-' :: ((padded 2 date.day).toList ++ rest))))
  have hmonth := takeField?_padded date.valid.2.2.2.1 (by omega)
    (hdash ((padded 2 date.day).toList ++ rest))
  have hday := takeField?_padded (day_le date) (by omega) hrest
  have htext : date.text.toList ++ rest = (Date.yearText date.year).toList ++ ('-' ::
      ((padded 2 date.month).toList ++ ('-' :: ((padded 2 date.day).toList ++ rest)))) := by
    simp [toList_text]
  simp [htext, isoItems, matchItems?, Item.take?, hyear, hmonth, hday, Parts.of]

theorem of?_of (date : Date) : Date.of? (Parts.of date).year (Parts.of date).month
    (Parts.of date).day = some date := by
  simp [Date.of?, Parts.of, date.valid]

/-- The written form of a date is read as the date. -/
theorem readDate?_text (date : Date) : readDate? date.text = some date := by
  have hmatch := matchItems?_isoItems date noDigit_nil []
  rw [List.append_nil, List.append_nil] at hmatch
  have hread : read? isoItems date.text.toList = some date := by
    rw [read?, hmatch]
    exact of?_of date
  have hne : date.text.toList ≠ [] := by
    simp [toList_text]
  simp [readDate?, trim_eq_self (filled_text date).2, hne, dateForms, hread]

end Calendar

end SignalCatalog
