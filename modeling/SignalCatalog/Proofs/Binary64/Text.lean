import SignalCatalog.Binary64.Shortest
import SignalCatalog.Proofs.Text.Numerals

/-!
# The characters of a double

In positional notation a double is written with digits, at most a sign and a point; infinities and
NaN are words of letters.
-/

namespace SignalCatalog.Binary64

open SignalCatalog.Text

theorem isDigit_of_mem_zeros {n : Nat} : ∀ c ∈ zeros n, c.isDigit = true := by
  intro c hc
  rw [List.eq_of_mem_replicate hc]
  rfl

theorem setPositional_ne_nil {run : List Char} (h : run ≠ []) (keepsPoint : Bool) (point : Int) :
    setPositional keepsPoint run point ≠ [] := by
  unfold setPositional
  split
  · simp [h]
  · split <;> simp

theorem mem_setPositional {run : List Char} (h : ∀ c ∈ run, c.isDigit = true) {keepsPoint : Bool}
    {point : Int} : ∀ c ∈ setPositional keepsPoint run point, c.isDigit = true ∨ c = '.' := by
  intro c hc
  unfold setPositional at hc
  split at hc
  · rcases List.mem_append.mp hc with hc | hc
    · rcases List.mem_append.mp hc with hc | hc
      · exact Or.inl (h c hc)
      · exact Or.inl (isDigit_of_mem_zeros c hc)
    · cases keepsPoint with
      | false => simp at hc
      | true =>
        rcases List.mem_cons.mp hc with rfl | hc
        · exact Or.inr rfl
        · rw [List.mem_singleton.mp hc]
          exact Or.inl rfl
  · split at hc
    · rcases List.mem_append.mp hc with hc | hc
      · rcases List.mem_append.mp hc with hc | hc
        · exact Or.inl (h c (List.mem_of_mem_take hc))
        · exact Or.inr (List.mem_singleton.mp hc)
      · exact Or.inl (h c (List.mem_of_mem_drop hc))
    · rcases List.mem_append.mp hc with hc | hc
      · rcases List.mem_append.mp hc with hc | hc
        · rcases List.mem_cons.mp hc with rfl | hc
          · exact Or.inl rfl
          · exact Or.inr (List.mem_singleton.mp hc)
        · exact Or.inl (isDigit_of_mem_zeros c hc)
      · exact Or.inl (h c hc)

theorem text_ne_empty (value : Binary64) : value.text plainLayout ≠ "" := by
  cases value with
  | nan => decide
  | infinite negative => cases negative <;> decide
  | finite negative m e h =>
    have hset := setPositional_ne_nil (digits_ne_nil (shortest .upper m e h).digits) false
      (((digits (shortest .upper m e h).digits).length : Int) + (shortest .upper m e h).exponent)
    simp [text, plainLayout, Layout.set, hset]

/-- The characters of a double are letters, digits, a point and a minus sign. -/
theorem mem_text {value : Binary64} :
    ∀ c ∈ (value.text plainLayout).toList, c.isAlphanum = true ∨ c = '.' ∨ c = '-' := by
  have hword : ∀ word : List Char, (word.all fun c => c.isAlphanum || c == '-') = true →
      ∀ c ∈ word, c.isAlphanum = true ∨ c = '.' ∨ c = '-' := by
    intro word hall c hc
    have hletter := List.all_eq_true.mp hall c hc
    simp only [Bool.or_eq_true, beq_iff_eq] at hletter
    exact hletter.imp_right .inr
  cases value with
  | nan => exact hword "NaN".toList (by decide)
  | infinite negative =>
    cases negative with
    | false => exact hword "inf".toList (by decide)
    | true => exact hword "-inf".toList (by decide)
  | finite negative m e h =>
    intro c hc
    rw [text, String.toList_ofList] at hc
    rcases List.mem_append.mp hc with hc | hc
    · cases negative with
      | false => simp at hc
      | true => exact Or.inr (Or.inr (List.mem_singleton.mp hc))
    · rcases mem_setPositional isDigit_of_mem_digits c hc with hdigit | hpoint
      · exact Or.inl (by simp [Char.isAlphanum, hdigit])
      · exact Or.inr (Or.inl hpoint)

theorem isBlank_of_mem_text {value : Binary64} :
    ∀ c ∈ (value.text plainLayout).toList, isBlank c = false := by
  intro c hc
  rcases mem_text c hc with hword | rfl | rfl
  · exact isBlank_of_isAlphanum hword
  · decide
  · decide

end SignalCatalog.Binary64
