import Mathlib.Data.Nat.Digits.Defs
import SignalCatalog.Proofs.Workbook.Reference

/-!
# References as numerals

The letters of a reference are a numeral in bijective base 26, a system without zero: the digits are
the places of the letters in the alphabet, one to twenty-six. Its digits are a decimal numeral. The
values of both are said here by the powers of the base, apart from the loops that write and read
them. The main statement is that each column has exactly one word of capitals, and that a text is
read as a cell exactly if it spells the cell and the cell lies in the grid.

The loops are also given on words of 64 bits, whose arithmetic wraps around. They do what the
unbounded loops do on every input, so nothing wraps.
-/

namespace SignalCatalog.Reference

open SignalCatalog.Text

def alphabet : List Char :=
  ['A', 'B', 'C', 'D', 'E', 'F', 'G', 'H', 'I', 'J', 'K', 'L', 'M', 'N', 'O', 'P', 'Q', 'R', 'S',
    'T', 'U', 'V', 'W', 'X', 'Y', 'Z']

def decimalDigits : List Char := ['0', '1', '2', '3', '4', '5', '6', '7', '8', '9']

/-- The place of a letter in the alphabet, from one on, in either case. -/
def place (c : Char) : Nat := alphabet.idxOf c.toUpper + 1

/-- The value of a word in bijective base 26. -/
def wordValue (word : List Char) : Nat := Nat.ofDigits 26 (word.reverse.map place)

/-- The value of a run of digits in base 10. -/
def runValue (run : List Char) : Nat := Nat.ofDigits 10 (run.reverse.map decimalDigits.idxOf)

/-- Letters and digits that spell a cell of the grid, its row and column counted from zero. -/
structure Spells (word run : List Char) (row column : Nat) : Prop where
  word_ne_nil : word ≠ []
  letters : ∀ c ∈ word, c.isAlpha = true
  column_eq : wordValue word = column + 1
  column_lt : column < maxColumns
  run_ne_nil : run ≠ []
  digits : ∀ c ∈ run, c.isDigit = true
  row_eq : runValue run = row + 1
  row_lt : row < maxRows

/-! ## Letters and digits -/

/-- What holds of all numbers below a bound holds of the characters they stand for. -/
theorem of_toNat_lt {P : Char → Prop} {bound : Nat} (h : ∀ n < bound, P (Char.ofNat n)) (c : Char)
    (hc : c.toNat < bound) : P c := by
  have hnumber := h c.toNat hc
  rwa [Char.ofNat_toNat] at hnumber

theorem place_of_isAlpha {c : Char} (h : c.isAlpha = true) :
    place c = letterValue c ∧ place c ≤ 26 := by
  have hall : ∀ n < 123, (Char.ofNat n).isAlpha = true →
      place (Char.ofNat n) = letterValue (Char.ofNat n) ∧ place (Char.ofNat n) ≤ 26 := by
    decide +kernel
  have hrange := (isAlpha_iff c).mp h
  exact of_toNat_lt (P := fun c => c.isAlpha = true → place c = letterValue c ∧ place c ≤ 26)
    hall c (by omega) h

theorem capital_cases : ∀ c ∈ alphabet, c.isAlpha = true ∧ letter (place c - 1) = c := by
  have hall : (alphabet.all fun c => c.isAlpha && letter (place c - 1) == c) = true := by
    decide +kernel
  simpa using hall

theorem letter_mem_alphabet : ∀ n < 26, letter n ∈ alphabet := by decide

theorem idxOf_of_isDigit {c : Char} (h : c.isDigit = true) :
    decimalDigits.idxOf c = digitValue c := by
  have hall : ∀ n < 58, (Char.ofNat n).isDigit = true →
      decimalDigits.idxOf (Char.ofNat n) = digitValue (Char.ofNat n) := by decide
  have hrange := (isDigit_iff c).mp h
  exact of_toNat_lt (P := fun c => c.isDigit = true → decimalDigits.idxOf c = digitValue c)
    hall c (by omega) h

/-! ## Values by powers of the base -/

theorem wordValue_append (word : List Char) (c : Char) :
    wordValue (word ++ [c]) = 26 * wordValue word + place c := by
  simp [wordValue, Nat.ofDigits_cons, Nat.add_comm]

theorem runValue_append (run : List Char) (c : Char) :
    runValue (run ++ [c]) = 10 * runValue run + decimalDigits.idxOf c := by
  simp [runValue, Nat.ofDigits_cons, Nat.add_comm]

theorem columnNumber_eq {word : List Char} (h : ∀ c ∈ word, c.isAlpha = true) :
    columnNumber word = wordValue word := by
  induction word using List.reverseRecOn with
  | nil => rfl
  | append_singleton word c ih =>
    have hword := ih fun d hd => h d (List.mem_append_left _ hd)
    have hplace := (place_of_isAlpha (h c (by simp))).1
    rw [columnNumber_append, wordValue_append, hword, hplace]

theorem valueOf_eq_runValue {run : List Char} (h : ∀ c ∈ run, c.isDigit = true) :
    valueOf run = runValue run := by
  induction run using List.reverseRecOn with
  | nil => rfl
  | append_singleton run c ih =>
    have hrun := ih fun d hd => h d (List.mem_append_left _ hd)
    rw [valueOf_append_singleton, runValue_append, hrun, idxOf_of_isDigit (h c (by simp))]

theorem wordValue_pos {word : List Char} (h : word ≠ []) : 0 < wordValue word := by
  induction word using List.reverseRecOn with
  | nil => exact False.elim (h rfl)
  | append_singleton word c =>
    rw [wordValue_append, place]
    omega

/-! ## The one word of a column -/

theorem mem_alphabet_of_mem_columnLetters {column : Nat} :
    ∀ c ∈ columnLetters column, c ∈ alphabet := by
  induction column using Nat.strongRecOn with
  | ind column ih =>
    rw [columnLetters_eq]
    split
    · rename_i hlow
      simpa using letter_mem_alphabet column hlow
    · intro c hc
      rcases List.mem_append.mp hc with hc | hc
      · exact ih _ (by omega) c hc
      · rw [List.mem_singleton.mp hc]
        exact letter_mem_alphabet _ (by omega)

/-- A word of capitals is the word of the column that it denotes. The letter at its end is the
remainder and the letters before it denote the quotient, as in `columnLetters_eq`. -/
theorem columnLetters_of_wordValue {word : List Char} (hword : ∀ c ∈ word, c ∈ alphabet)
    {column : Nat} (hvalue : wordValue word = column + 1) : columnLetters column = word := by
  induction word using List.reverseRecOn generalizing column with
  | nil => simp [wordValue] at hvalue
  | append_singleton front c ih =>
    obtain ⟨halpha, hletter⟩ := capital_cases c (hword c (by simp))
    have hplace := (place_of_isAlpha halpha).2
    have hpos : 1 ≤ place c := by simp [place]
    rw [wordValue_append] at hvalue
    by_cases hfront : front = []
    · subst hfront
      have hcolumn : column = place c - 1 := by
        simp [wordValue] at hvalue
        omega
      rw [columnLetters_eq, if_pos (by omega), hcolumn, hletter, List.nil_append]
    · obtain ⟨quotient, hquotient⟩ := Nat.exists_eq_succ_of_ne_zero (wordValue_pos hfront).ne'
      have hrest := ih (fun d hd => hword d (List.mem_append_left _ hd)) hquotient
      rw [hquotient] at hvalue
      have hdiv : column / 26 - 1 = quotient := by omega
      have hmod : column % 26 = place c - 1 := by omega
      rw [columnLetters_eq, if_neg (by omega), hdiv, hrest, hmod, hletter]

theorem columnLetters_eq_iff {column : Nat} {word : List Char} :
    columnLetters column = word ↔ (∀ c ∈ word, c ∈ alphabet) ∧ wordValue word = column + 1 := by
  constructor
  · rintro rfl
    refine ⟨mem_alphabet_of_mem_columnLetters, ?_⟩
    rw [← columnNumber_eq isAlpha_of_mem_columnLetters, columnNumber_columnLetters]
  · rintro ⟨hword, hvalue⟩
    exact columnLetters_of_wordValue hword hvalue

/-! ## What is read -/

theorem natural?_eq_some_iff {run : List Char} {n : Nat} :
    natural? run = some n ↔ run ≠ [] ∧ (∀ c ∈ run, c.isDigit = true) ∧ runValue run = n := by
  constructor
  · intro h
    unfold natural? at h
    split at h
    · cases h
    · rename_i hrun
      simp only [Bool.or_eq_true, List.isEmpty_iff, Bool.not_eq_true', not_or,
        Bool.not_eq_false, List.all_eq_true] at hrun
      rw [← valueOf_eq_runValue hrun.2]
      exact ⟨hrun.1, hrun.2, Option.some.inj h⟩
  · rintro ⟨hne, hdigits, rfl⟩
    have hall : run.all Char.isDigit = true := List.all_eq_true.mpr hdigits
    simp [natural?, hne, hall, valueOf_eq_runValue hdigits]

/-- Letters and digits behind them are told apart by the first digit. -/
theorem split_at_digit {word run : List Char} (hword : ∀ c ∈ word, c.isAlpha = true)
    (hrun : ∀ c ∈ run, c.isDigit = true) :
    (word ++ run).takeWhile (fun c => !c.isDigit) = word ∧
      (word ++ run).dropWhile (fun c => !c.isDigit) = run := by
  have hletters : ∀ c ∈ word, (!c.isDigit) = true := by
    intro c hc
    simp [isDigit_of_isAlpha (hword c hc)]
  have hdigits : ∀ c ∈ run.head?, (!c.isDigit) = false := by
    intro c hc
    simp [hrun c (List.mem_of_mem_head? hc)]
  exact ⟨takeWhile_run hletters hdigits, dropWhile_run hletters hdigits⟩

theorem read?_eq_some_iff {reference : String} {row column : Nat} :
    read? reference = some (row, column) ↔
      ∃ word run, reference.toList = word ++ run ∧ Spells word run row column := by
  constructor
  · intro h
    obtain ⟨number, hnumber, hrest⟩ := Option.bind_eq_some_iff.mp h
    obtain ⟨hne, hdigits, hvalue⟩ := natural?_eq_some_iff.mp hnumber
    dsimp only at hrest
    split at hrest
    · cases hrest
    · rename_i hword
      simp only [Bool.or_eq_true, List.isEmpty_iff, Bool.not_eq_true', not_or, Bool.not_eq_false,
        List.all_eq_true, decide_eq_true_eq] at hword
      obtain ⟨⟨hword, hletters⟩, hin⟩ := hword
      split at hrest
      · cases hrest
      · rename_i hrow
        simp only [Bool.or_eq_true, decide_eq_true_eq, not_or] at hrow
        have hpos := wordValue_pos hword
        rw [columnNumber_eq hletters] at hrest hin
        obtain ⟨hrowEq, hcolumnEq⟩ := Prod.mk.inj (Option.some.inj hrest)
        refine ⟨_, _, List.takeWhile_append_dropWhile.symm, hword, hletters, ?_, ?_, hne, hdigits,
          ?_, ?_⟩
        all_goals omega
  · rintro ⟨word, run, htext, h⟩
    obtain ⟨htake, hdrop⟩ := split_at_digit h.letters h.digits
    have hnumber := natural?_eq_some_iff.mpr ⟨h.run_ne_nil, h.digits, h.row_eq⟩
    have hall : word.all Char.isAlpha = true := List.all_eq_true.mpr h.letters
    have hcolumn := h.column_lt
    have hrow := h.row_lt
    have hin : ¬ maxColumns < column + 1 := by omega
    have hbelow : ¬ maxRows < row + 1 := by omega
    simp [read?, htext, htake, hdrop, hnumber, h.word_ne_nil, hall, columnNumber_eq h.letters,
      h.column_eq, hin, hbelow]

/-- What is written for a cell is read as the cell inside the grid, and refused outside. -/
theorem read?_text_eq (row column : Nat) : read? (text row column) =
    if row < maxRows ∧ column < maxColumns then some (row, column) else none := by
  split
  · rename_i hin
    exact read?_text hin.1 hin.2
  · rename_i hout
    rw [Option.eq_none_iff_forall_ne_some]
    rintro ⟨row', column'⟩ hread
    obtain ⟨word, run, htext, h⟩ := read?_eq_some_iff.mp hread
    rw [toList_text] at htext
    have hwritten := split_at_digit (@isAlpha_of_mem_columnLetters column)
      (@isDigit_of_mem_digits (row + 1))
    have hspelled := split_at_digit h.letters h.digits
    rw [htext] at hwritten
    obtain ⟨_, hcolumn⟩ := columnLetters_eq_iff.mp (hwritten.1.symm.trans hspelled.1)
    have hrow : valueOf (digits (row + 1)) = runValue run := by
      rw [← hwritten.2, hspelled.2, valueOf_eq_runValue h.digits]
    rw [valueOf_digits, h.row_eq] at hrow
    rw [h.column_eq] at hcolumn
    exact hout ⟨by have := h.row_lt; omega, by have := h.column_lt; omega⟩

/-! ## The loops on words of 64 bits -/

/-- A column behind the first 26 has a quotient to subtract one from. -/
theorem toNat_quotient {column : UInt64} (h : ¬ column < 26) :
    (column / 26 - 1).toNat = column.toNat / 26 - 1 ∧ 26 ≤ column.toNat := by
  have hlow : 26 ≤ column.toNat := by simpa [UInt64.lt_iff_toNat_lt] using h
  have hone : (1 : UInt64) ≤ column / 26 := by
    rw [UInt64.le_iff_toNat_le, UInt64.toNat_div]
    exact (Nat.one_le_div_iff (by decide)).mpr hlow
  rw [UInt64.toNat_sub_of_le _ _ hone, UInt64.toNat_div]
  exact ⟨rfl, hlow⟩

/-- The letters of a column, put in front of `done`. -/
def wordLetters (column : UInt64) (done : List Char) : List Char :=
  let done := Char.ofUInt8 (65 + (column % 26).toUInt8) :: done
  if column < 26 then done else wordLetters (column / 26 - 1) done
termination_by column.toNat
decreasing_by
  rename_i hhigh
  have hquotient := toNat_quotient hhigh
  omega

/-- The number of a word behind letters of the number `n`, given up at the first character that is
no letter or leads out of the columns. -/
def wordNumber? (n : UInt64) : List Char → Option UInt64
  | [] => some n
  | c :: rest =>
    if c.isAlpha then
      let n := n * 26 + (c.toUpper.val.toUInt64 - 65 + 1)
      if 16384 < n then none else wordNumber? n rest
    else none

/-- The column of a word of letters. -/
def wordColumn? (word : List Char) : Option UInt64 :=
  if word.isEmpty then none else (wordNumber? 0 word).map (· - 1)

/-- The row of a run of digits; a number that a word has no room for is refused. -/
def wordRow? (run : List Char) : Option UInt64 := do
  let row ← unsigned? maxWord64 run
  let row := UInt64.ofNat row
  if row = 0 ∨ 1048576 < row then none else some (row - 1)

/-- The cell of a reference. -/
def wordRead? (reference : String) : Option (UInt64 × UInt64) := do
  let word := reference.toList.takeWhile fun c => !c.isDigit
  let run := reference.toList.dropWhile fun c => !c.isDigit
  let column ← wordColumn? word
  let row ← wordRow? run
  some (row, column)

theorem toNat_pred {n : UInt64} (h : 1 ≤ n.toNat) : (n - 1).toNat = n.toNat - 1 := by
  have hone : (1 : UInt64) ≤ n := by simpa [UInt64.le_iff_toNat_le] using h
  rw [UInt64.toNat_sub_of_le _ _ hone]
  rfl

theorem letter_of_word (column : UInt64) :
    Char.ofUInt8 (65 + (column % 26).toUInt8) = letter (column.toNat % 26) := by
  have hall : ∀ n < 26, Char.ofUInt8 (65 + (UInt64.ofNat n).toUInt8) = letter n := by decide
  have hmod : (column % 26).toNat = column.toNat % 26 := UInt64.toNat_mod ..
  rw [← hall _ (Nat.mod_lt _ (by decide)), ← hmod, UInt64.ofNat_toNat]

theorem wordLetters_eq (column : UInt64) (done : List Char) :
    wordLetters column done = columnLetters column.toNat ++ done := by
  fun_induction wordLetters column done with
  | case1 column done done' hlow =>
    have hlow : column.toNat < 26 := by simpa [UInt64.lt_iff_toNat_lt] using hlow
    rw [columnLetters_eq, if_pos hlow]
    simp only [done', letter_of_word, Nat.mod_eq_of_lt hlow, List.singleton_append]
  | case2 column done done' hhigh ih =>
    obtain ⟨hquotient, hlow⟩ := toNat_quotient hhigh
    rw [ih, hquotient, columnLetters_eq column.toNat, if_neg (by omega)]
    simp only [done', letter_of_word, List.append_assoc, List.singleton_append]

theorem toNat_letterValue {c : Char} (h : c.isAlpha = true) :
    (c.toUpper.val.toUInt64 - 65 + 1).toNat = place c := by
  have hall : ∀ n < 123, (Char.ofNat n).isAlpha = true →
      ((Char.ofNat n).toUpper.val.toUInt64 - 65 + 1).toNat = place (Char.ofNat n) := by decide
  have hrange := (isAlpha_iff c).mp h
  exact of_toNat_lt (P := fun c => c.isAlpha = true →
    (c.toUpper.val.toUInt64 - 65 + 1).toNat = place c) hall c (by omega) h

/-- A number within the columns and one more letter leave the number far below the end of a word. -/
theorem toNat_step {n : UInt64} (hn : n.toNat ≤ maxColumns) {c : Char} (h : c.isAlpha = true) :
    (n * 26 + (c.toUpper.val.toUInt64 - 65 + 1)).toNat = 26 * n.toNat + place c := by
  have hplace := (place_of_isAlpha h).2
  simp only [maxColumns] at hn
  rw [UInt64.toNat_add, UInt64.toNat_mul, toNat_letterValue h]
  simp
  omega

theorem le_foldl_letters (word : List Char) (n : Nat) :
    n ≤ word.foldl (fun n c => 26 * n + letterValue c) n := by
  induction word generalizing n with
  | nil => exact le_refl n
  | cons c rest ih =>
    have hrest := ih (26 * n + letterValue c)
    rw [List.foldl_cons]
    omega

/-- Giving up at the first number outside is giving up if the whole number is outside. -/
theorem wordNumber?_eq (word : List Char) {n : UInt64} (hn : n.toNat ≤ maxColumns) :
    let number := word.foldl (fun n c => 26 * n + letterValue c) n.toNat
    (wordNumber? n word).map UInt64.toNat =
      if word.all Char.isAlpha ∧ number ≤ maxColumns then some number else none := by
  induction word generalizing n with
  | nil => simp [wordNumber?, hn]
  | cons c rest ih =>
    by_cases hc : c.isAlpha = true
    · have hstep := toNat_step hn hc
      rw [(place_of_isAlpha hc).1] at hstep
      simp only [wordNumber?, hc, if_true, List.all_cons, Bool.true_and, List.foldl_cons]
      split
      · rename_i hout
        have hout : maxColumns < 26 * n.toNat + letterValue c := by
          rw [UInt64.lt_iff_toNat_lt, hstep] at hout
          exact hout
        have hnumber := le_foldl_letters rest (26 * n.toNat + letterValue c)
        rw [if_neg (by omega), Option.map_none]
      · rename_i hin
        have hin : 26 * n.toNat + letterValue c ≤ maxColumns := by
          rw [UInt64.lt_iff_toNat_lt, hstep] at hin
          exact Nat.le_of_not_lt hin
        have hrest := ih (hstep ▸ hin)
        rwa [hstep] at hrest
    · simp [wordNumber?, hc]

theorem unsigned?_of_head {run : List Char} (h : ∀ c ∈ run.head?, c.isDigit = true) (limit : Nat) :
    unsigned? limit run = (natural? run).bind fun n => if n ≤ limit then some n else none := by
  unfold unsigned?
  split
  · have hplus := h '+' rfl
    simp at hplus
  · rfl

theorem isDigit_head_dropWhile (text : List Char) :
    ∀ c ∈ (text.dropWhile fun c => !c.isDigit).head?, c.isDigit = true := by
  intro c hc
  have hhead := List.head?_dropWhile_not (fun c : Char => !c.isDigit) text
  rw [hc] at hhead
  simpa using hhead

theorem wordRow?_eq {run : List Char} (h : ∀ c ∈ run.head?, c.isDigit = true) :
    (wordRow? run).map UInt64.toNat = (natural? run).bind fun row =>
      if row = 0 ∨ maxRows < row then none else some (row - 1) := by
  rw [wordRow?, unsigned?_of_head h]
  cases natural? run with
  | none => rfl
  | some row =>
    simp only [Option.bind_eq_bind, Option.bind_some]
    by_cases hroom : row ≤ maxWord64
    · have hvalue : (UInt64.ofNat row).toNat = row := by
        simp only [maxWord64] at hroom
        exact UInt64.toNat_ofNat_of_lt' (by simp only [UInt64.size]; omega)
      have hout : (UInt64.ofNat row = 0 ∨ 1048576 < UInt64.ofNat row) ↔
          row = 0 ∨ maxRows < row := by
        rw [← UInt64.toNat_inj, UInt64.lt_iff_toNat_lt, hvalue]
        rfl
      rw [if_pos hroom, Option.bind_some]
      simp only [hout]
      split
      · rfl
      · rename_i hin
        rw [Option.map_some, toNat_pred (by omega), hvalue]
    · have hbelow : maxRows < row := by
        simp only [maxWord64, maxRows] at hroom ⊢
        omega
      rw [if_neg hroom, if_pos (Or.inr hbelow)]
      rfl

theorem wordColumn?_eq (word : List Char) :
    (wordColumn? word).map UInt64.toNat =
      if word.isEmpty || !word.all Char.isAlpha || maxColumns < columnNumber word then none
      else some (columnNumber word - 1) := by
  have hnumber := wordNumber?_eq word (n := 0) (Nat.zero_le _)
  change _ = if word.all Char.isAlpha = true ∧ columnNumber word ≤ maxColumns then
    some (columnNumber word) else none at hnumber
  by_cases hnil : word = []
  · simp [wordColumn?, hnil]
  by_cases hin : word.all Char.isAlpha = true ∧ columnNumber word ≤ maxColumns
  · rw [if_pos hin] at hnumber
    obtain ⟨column, hcolumn, hvalue⟩ := Option.map_eq_some_iff.mp hnumber
    have hpos : 0 < columnNumber word := by
      rw [columnNumber_eq (List.all_eq_true.mp hin.1)]
      exact wordValue_pos hnil
    have hpred : (column - 1).toNat = columnNumber word - 1 := by
      rw [toNat_pred (by omega), hvalue]
    simp [wordColumn?, hnil, hcolumn, hpred, hin.1, Nat.not_lt.mpr hin.2]
  · rw [if_neg hin, Option.map_eq_none_iff] at hnumber
    have hout : word.all Char.isAlpha = true → maxColumns < columnNumber word :=
      fun hall => Nat.lt_of_not_le fun hle => hin ⟨hall, hle⟩
    cases hall : word.all Char.isAlpha with
    | false => simp [wordColumn?, hnumber]
    | true => simp [wordColumn?, hnumber, hout hall]

theorem wordRead?_eq (reference : String) :
    (wordRead? reference).map (fun cell => (cell.1.toNat, cell.2.toNat)) = read? reference := by
  have hrow := wordRow?_eq (isDigit_head_dropWhile reference.toList)
  have hcolumn := wordColumn?_eq (reference.toList.takeWhile fun c => !c.isDigit)
  unfold wordRead? read?
  generalize reference.toList.takeWhile (fun c => !c.isDigit) = word at hcolumn ⊢
  generalize reference.toList.dropWhile (fun c => !c.isDigit) = run at hrow ⊢
  have hboth : ((wordColumn? word).bind fun column => (wordRow? run).bind fun row =>
        some (row, column)).map (fun cell => (cell.1.toNat, cell.2.toNat)) =
      ((wordColumn? word).map UInt64.toNat).bind fun column =>
        ((wordRow? run).map UInt64.toNat).bind fun row => some (row, column) := by
    cases wordColumn? word <;> cases wordRow? run <;> rfl
  simp only [Option.bind_eq_bind]
  rw [hboth, hcolumn, hrow]
  cases natural? run with
  | none => simp
  | some row =>
    simp only [Option.bind_some, ← Bool.decide_or, decide_eq_true_eq]
    split
    · rfl
    · split <;> rfl

/-! ## References are exact -/

/-- The letters of a column are the only word of capitals that denotes it. A text is read as a cell
exactly if it spells that cell and the cell lies in the grid, and every other text is refused; so
what is written for a cell is read as the cell inside the grid and refused outside. On words of 64
bits the loops give the same. -/
theorem references_exact :
    (∀ column word, columnLetters column = word ↔
      (∀ c ∈ word, c ∈ alphabet) ∧ wordValue word = column + 1) ∧
    (∀ reference row column, read? reference = some (row, column) ↔
      ∃ word run, reference.toList = word ++ run ∧ Spells word run row column) ∧
    (∀ reference, read? reference = none ↔
      ¬ ∃ row column word run, reference.toList = word ++ run ∧ Spells word run row column) ∧
    (∀ row column, read? (text row column) =
      if row < maxRows ∧ column < maxColumns then some (row, column) else none) ∧
    (∀ column : UInt64, wordLetters column [] = columnLetters column.toNat) ∧
    ∀ reference, (wordRead? reference).map (fun cell => (cell.1.toNat, cell.2.toNat)) =
      read? reference := by
  refine ⟨fun _ _ => columnLetters_eq_iff, fun _ _ _ => read?_eq_some_iff, ?_, read?_text_eq, ?_,
    wordRead?_eq⟩
  · intro reference
    rw [Option.eq_none_iff_forall_ne_some]
    constructor
    · rintro h ⟨row, column, hspelled⟩
      exact h (row, column) (read?_eq_some_iff.mpr hspelled)
    · rintro h ⟨row, column⟩ hread
      exact h ⟨row, column, read?_eq_some_iff.mp hread⟩
  · intro column
    rw [wordLetters_eq, List.append_nil]

/-- The last column, and the column behind the grid. -/
example : columnLetters 16383 = ['X', 'F', 'D'] ∧ read? "xfd1048576" = some (1048575, 16383) ∧
    read? "XFE1" = none := by
  decide +kernel

end SignalCatalog.Reference
