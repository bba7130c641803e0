import SignalCatalog.Proofs.Text.Numerals
import SignalCatalog.Workbook.Reference

/-!
# Cell references are read back

The letters of a column denote the number of the column, so that a reference inside the grid is read
back as the row and the column that it was written for.
-/

namespace SignalCatalog.Reference

open SignalCatalog.Text

theorem letterValue_letter : ∀ n < 26, letterValue (letter n) = n + 1 := by decide

theorem isAlpha_letter : ∀ n < 26, (letter n).isAlpha = true := by decide

theorem lettersFrom_append (fuel column : Nat) (done : List Char) :
    lettersFrom fuel column done = lettersFrom fuel column [] ++ done := by
  induction fuel generalizing column done with
  | zero => rfl
  | succ fuel ih =>
    simp only [lettersFrom]
    split
    · rfl
    · rw [ih _ (letter (column % 26) :: done), ih _ [letter (column % 26)]]
      simp

/-- Enough letters are all letters. -/
theorem lettersFrom_enough {fuel more column : Nat} (h : column < fuel) (hm : column < more)
    (done : List Char) : lettersFrom fuel column done = lettersFrom more column done := by
  induction fuel generalizing column more done with
  | zero => omega
  | succ fuel ih =>
    cases more with
    | zero => omega
    | succ more =>
      simp only [lettersFrom]
      split
      · rfl
      · exact ih (by omega) (by omega) _

/-- The last letter is the remainder, and the letters before it are those of the quotient. -/
theorem columnLetters_eq (column : Nat) :
    columnLetters column = if column < 26 then [letter column]
      else columnLetters (column / 26 - 1) ++ [letter (column % 26)] := by
  rw [columnLetters, lettersFrom]
  split
  · rename_i hlow
    rw [Nat.mod_eq_of_lt hlow]
  · rw [columnLetters, lettersFrom_append, @lettersFrom_enough column (column / 26 - 1 + 1)
      (column / 26 - 1) (by omega) (by omega)]

theorem columnNumber_append (word : List Char) (c : Char) :
    columnNumber (word ++ [c]) = 26 * columnNumber word + letterValue c := by
  simp [columnNumber]

/-- The letters of a column denote the column, counted from one. -/
theorem columnNumber_columnLetters (column : Nat) :
    columnNumber (columnLetters column) = column + 1 := by
  induction column using Nat.strongRecOn with
  | ind column ih =>
    rw [columnLetters_eq]
    split
    · rename_i hlow
      have hvalue := letterValue_letter column hlow
      simpa [columnNumber] using hvalue
    · rw [columnNumber_append, ih _ (by omega), letterValue_letter _ (by omega)]
      omega

theorem isAlpha_of_mem_columnLetters {column : Nat} :
    ∀ c ∈ columnLetters column, c.isAlpha = true := by
  induction column using Nat.strongRecOn with
  | ind column ih =>
    rw [columnLetters_eq]
    split
    · rename_i hlow
      simpa using isAlpha_letter column hlow
    · intro c hc
      rcases List.mem_append.mp hc with hc | hc
      · exact ih _ (by omega) c hc
      · rw [List.mem_singleton.mp hc]
        exact isAlpha_letter _ (by omega)

theorem columnLetters_ne_nil (column : Nat) : columnLetters column ≠ [] := by
  rw [columnLetters_eq]
  split <;> simp

theorem toList_text (row column : Nat) :
    (text row column).toList = columnLetters column ++ digits (row + 1) := by
  simp [text]

/-- A reference inside the grid is read back. -/
theorem read?_text {row column : Nat} (hrow : row < maxRows) (hcolumn : column < maxColumns) :
    read? (text row column) = some (row, column) := by
  have hletters : ∀ c ∈ columnLetters column, (!c.isDigit) = true := by
    intro c hc
    simp [isDigit_of_isAlpha (isAlpha_of_mem_columnLetters c hc)]
  have hdigits : ∀ c ∈ (digits (row + 1)).head?, (!c.isDigit) = false := by
    intro c hc
    simp [isDigit_of_mem_digits c (List.mem_of_mem_head? hc)]
  have hword : (columnLetters column).isEmpty = false := by simp [columnLetters_ne_nil]
  have halpha : (columnLetters column).all Char.isAlpha = true := by
    rw [List.all_eq_true]
    exact fun c hc => isAlpha_of_mem_columnLetters c hc
  simp only [read?, toList_text, takeWhile_run hletters hdigits, dropWhile_run hletters hdigits,
    natural?_digits, columnNumber_columnLetters, hword, halpha, Option.bind_eq_bind,
    Option.bind_some]
  have hin : ¬ maxColumns < column + 1 := by omega
  have hbelow : ¬ maxRows < row + 1 := by omega
  simp [hin, hbelow]

end SignalCatalog.Reference
