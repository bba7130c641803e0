import Mathlib.Data.List.TakeWhile
import SignalCatalog.Json.Node
import SignalCatalog.Json.Printer

/-!
# Tokens of printed JSON

The reader takes back each token that the printer writes, whatever stands behind it: words, strings
with their escapes, and numbers whose text alone is read as the number. A number needs something
behind it that does not continue it.
-/

namespace SignalCatalog.Json

/-- No character that could continue a number stands in front. -/
def Ends (rest : List Char) : Prop :=
  ∀ c ∈ rest.head?, c.isDigit = false ∧ c ≠ '.' ∧ c ≠ 'e' ∧ c ≠ 'E'

def Spaces (text : List Char) : Prop := ∀ c ∈ text, Cursor.isSpace c = true

namespace Cursor

theorem skipSpaces_append {spaces : List Char} (h : Spaces spaces) (rest : List Char)
    (offset : Nat) :
    skipSpaces ⟨spaces ++ rest, offset⟩ = skipSpaces ⟨rest, offset + spaces.length⟩ := by
  simp [skipSpaces, List.dropWhile_append_of_pos h, List.takeWhile_append_of_pos h, Nat.add_assoc]

theorem skipSpaces_cons {c : Char} (h : isSpace c = false) (rest : List Char) (offset : Nat) :
    skipSpaces ⟨c :: rest, offset⟩ = ⟨c :: rest, offset⟩ := by
  simp [skipSpaces, h]

theorem skipSpaces_cases (cursor : Cursor) :
    cursor.skipSpaces.rest = [] ∨
      ∃ c tail, cursor.skipSpaces.rest = c :: tail ∧ isSpace c = false := by
  cases h : cursor.skipSpaces.rest with
  | nil => exact Or.inl rfl
  | cons c tail =>
    have hhead := List.head?_dropWhile_not isSpace cursor.rest
    rw [show cursor.rest.dropWhile isSpace = c :: tail from h] at hhead
    exact Or.inr ⟨c, tail, rfl, by simpa using hhead⟩

theorem skipSpaces_skipSpaces (cursor : Cursor) :
    cursor.skipSpaces.skipSpaces = cursor.skipSpaces := by
  generalize hs : cursor.skipSpaces = skipped
  obtain ⟨rest, offset⟩ := skipped
  rcases skipSpaces_cases cursor with h | ⟨c, tail, h, hc⟩
  · rw [hs] at h
    simp only at h
    subst h
    simp [skipSpaces]
  · rw [hs] at h
    simp only at h
    subst h
    exact skipSpaces_cons hc tail offset

end Cursor

theorem readWord_append (word rest : List Char) (offset : Nat) :
    ∃ stop, readWord word ⟨word ++ rest, offset⟩ = .ok ⟨rest, stop⟩ := by
  induction word generalizing offset with
  | nil => exact ⟨offset, rfl⟩
  | cons c word ih => simpa [readWord, Cursor.next] using ih (offset + c.utf8Size)

theorem hexValue?_hexDigit {d : Nat} (h : d < 16) : hexValue? (hexDigit d) = some d := by
  have hall : ∀ d < 16, hexValue? (hexDigit d) = some d := by decide
  exact hall d h

/-- The escape of a control character is read as its code. -/
theorem readHex_control {n : Nat} (h : n < 32) (rest : List Char) (offset : Nat) :
    readHex ⟨'0' :: '0' :: hexDigit (n / 16) :: hexDigit (n % 16) :: rest, offset⟩ =
      .ok (n, ⟨rest, offset + 4⟩) := by
  have hzero : hexValue? '0' = some 0 := by decide
  have hhigh : hexValue? (hexDigit (n / 16)) = some (n / 16) := hexValue?_hexDigit (by omega)
  have hlow : hexValue? (hexDigit (n % 16)) = some (n % 16) := hexValue?_hexDigit (by omega)
  have hsum : ((0 * 16 + 0) * 16 + n / 16) * 16 + n % 16 = n := by omega
  simp only [readHex, hzero, hhigh, hlow, hsum]

theorem readEscape_control {c : Char} (h : c.toNat < 32) (rest : List Char) (offset : Nat) :
    readEscape ⟨'u' :: '0' :: '0' :: hexDigit (c.toNat / 16) :: hexDigit (c.toNat % 16) :: rest,
      offset⟩ = .ok (c, ⟨rest, offset + 'u'.utf8Size + 4⟩) := by
  have hlow : ¬ (0xDC00 ≤ c.toNat ∧ c.toNat ≤ 0xDFFF) := by omega
  have hhigh : ¬ (0xD800 ≤ c.toNat ∧ c.toNat ≤ 0xDBFF) := by omega
  simp only [readEscape, Cursor.next, readHex_control h, bind, Except.bind, if_neg hlow,
    if_neg hhigh, Char.ofNat_toNat]
  rfl

/-- A character of a string is read back from the way it is written. -/
theorem readString_escaped (c : Char) (fuel : Nat) (done rest : List Char) (offset : Nat) :
    ∃ stop, readString (fuel + 1) done ⟨escaped c ++ rest, offset⟩ =
      readString fuel (c :: done) ⟨rest, stop⟩ := by
  unfold escaped
  split_ifs with h₁ h₂ h₃ h₄ h₅ h₆ h₇ h₈
  · subst h₁
    exact ⟨_, by simp [readString, readEscape, Cursor.next]; rfl⟩
  · subst h₂
    exact ⟨_, by simp [readString, readEscape, Cursor.next]; rfl⟩
  · subst h₃
    exact ⟨_, by simp [readString, readEscape, Cursor.next]; rfl⟩
  · subst h₄
    exact ⟨_, by simp [readString, readEscape, Cursor.next]; rfl⟩
  · subst h₅
    exact ⟨_, by simp [readString, readEscape, Cursor.next]; rfl⟩
  · have hc : c = Char.ofNat 8 := by rw [← h₆, Char.ofNat_toNat]
    subst hc
    exact ⟨_, by simp [readString, readEscape, Cursor.next]; rfl⟩
  · have hc : c = Char.ofNat 12 := by rw [← h₇, Char.ofNat_toNat]
    subst hc
    exact ⟨_, by simp [readString, readEscape, Cursor.next]; rfl⟩
  · exact ⟨_, by simp [readString, Cursor.next, readEscape_control h₈]; rfl⟩
  · exact ⟨_, by simp [readString, Cursor.next, h₁, h₂, h₈]; rfl⟩

theorem readString_text (text : List Char) {fuel : Nat} (h : text.length < fuel)
    (done rest : List Char) (offset : Nat) :
    ∃ stop, readString fuel done ⟨text.flatMap escaped ++ '"' :: rest, offset⟩ =
      .ok (String.ofList (done.reverse ++ text), ⟨rest, stop⟩) := by
  induction text generalizing fuel done offset with
  | nil =>
    cases fuel with
    | zero => simp at h
    | succ fuel => exact ⟨offset + '"'.utf8Size, by simp [readString, Cursor.next]⟩
  | cons c text ih =>
    cases fuel with
    | zero => simp at h
    | succ fuel =>
      obtain ⟨middle, hc⟩ := readString_escaped c fuel done
        (text.flatMap escaped ++ '"' :: rest) offset
      obtain ⟨stop, ht⟩ := ih (by simpa using h) (c :: done) middle
      refine ⟨stop, ?_⟩
      rw [List.flatMap_cons, List.append_assoc, hc, ht]
      simp

theorem length_le_escaped (text : List Char) : text.length ≤ (text.flatMap escaped).length := by
  induction text with
  | nil => simp
  | cons c text ih =>
    have hc : 1 ≤ (escaped c).length := by
      unfold escaped
      split_ifs <;> simp
    simp only [List.flatMap_cons, List.length_cons, List.length_append]
    omega

/-- A string is read back from behind its opening quote. -/
theorem takeString_quoted (text : String) (rest : List Char) (offset : Nat) :
    ∃ stop, takeString ⟨text.toList.flatMap escaped ++ '"' :: rest, offset⟩ =
      .ok (text, ⟨rest, stop⟩) := by
  have hlength := length_le_escaped text.toList
  have hfuel : text.toList.length < (text.toList.flatMap escaped ++ '"' :: rest).length + 1 := by
    simp only [List.length_append]
    omega
  obtain ⟨stop, h⟩ := readString_text text.toList hfuel [] rest offset
  exact ⟨stop, by simpa [takeString] using h⟩

theorem takeWhile_digits_append {rest : List Char} (h : Ends rest) (text : List Char) :
    (text ++ rest).takeWhile Char.isDigit = text.takeWhile Char.isDigit := by
  induction text with
  | nil =>
    cases rest with
    | nil => rfl
    | cons c rest => simp [(h c rfl).1]
  | cons c text ih => simp [List.takeWhile_cons, ih]

theorem dropWhile_digits_append {rest : List Char} (h : Ends rest) (text : List Char) :
    (text ++ rest).dropWhile Char.isDigit = text.dropWhile Char.isDigit ++ rest := by
  induction text with
  | nil =>
    cases rest with
    | nil => rfl
    | cons c rest => simp [(h c rfl).1]
  | cons c text ih =>
    by_cases hc : c.isDigit = true
    · simpa [hc] using ih
    · simp [hc]

theorem digits_append {rest : List Char} (h : Ends rest) (text : List Char) (offset : Nat) :
    Cursor.digits ⟨text ++ rest, offset⟩ =
      (text.takeWhile Char.isDigit, ⟨text.dropWhile Char.isDigit ++ rest,
        offset + (text.takeWhile Char.isDigit).length⟩) := by
  simp only [Cursor.digits, takeWhile_digits_append h, dropWhile_digits_append h]

theorem finishFloat_ok {negative : Bool} {significand : Nat} {exponent : Int}
    {cursor after : Cursor} {n : Number}
    (h : finishFloat negative significand exponent cursor = .ok (n, after)) (other : Cursor) :
    after = cursor ∧ finishFloat negative significand exponent other = .ok (n, other) := by
  unfold finishFloat at h ⊢
  split at h
  · rename_i x hx
    simp only [Except.ok.injEq, Prod.mk.injEq] at h
    simp [h.1, h.2]
  · simp at h

theorem readExponentDigits_append {text rest : List Char} {negative minus : Bool}
    {significand : Nat} {start : Int} {offset : Nat} {n : Number} {after : Cursor}
    (hrest : Ends rest)
    (h : readExponentDigits negative significand start minus ⟨text, offset⟩ = .ok (n, after))
    (place : Nat) :
    ∃ stop, readExponentDigits negative significand start minus ⟨text ++ rest, place⟩ =
      .ok (n, ⟨after.rest ++ rest, stop⟩) := by
  cases text with
  | nil => simp [readExponentDigits] at h
  | cons c text =>
    by_cases hc : c.isDigit = true
    · have hdigits := digits_append hrest (c :: text) place
      rw [List.cons_append] at hdigits ⊢
      rcases htaken : takeExponent 0 0 ((c :: text).takeWhile Char.isDigit) with
        ⟨power, count, overflow⟩
      simp only [readExponentDigits, hc, Cursor.digits, htaken, Bool.not_true,
        Bool.false_eq_true, if_false] at h
      simp only [readExponentDigits, hc, hdigits, htaken, Bool.not_true, Bool.false_eq_true,
        if_false]
      cases overflow with
      | false =>
        obtain ⟨rfl, hfinish⟩ := finishFloat_ok h _
        exact ⟨_, hfinish⟩
      | true =>
        simp only [if_true] at h ⊢
        split at h
        · simp at h
        · rename_i hzero
          simp only [Except.ok.injEq, Prod.mk.injEq] at h
          exact ⟨_, by rw [if_neg hzero, ← h.1, ← h.2]⟩
    · simp [readExponentDigits, hc] at h

/-- An exponent is read the same with something behind it that does not continue it. -/
theorem readExponent_append {mark : Char} {text rest : List Char} {negative : Bool}
    {significand : Nat} {start : Int} {offset : Nat} {n : Number} {after : Cursor}
    (hrest : Ends rest)
    (h : readExponent negative significand start ⟨mark :: text, offset⟩ = .ok (n, after))
    (place : Nat) :
    ∃ stop, readExponent negative significand start ⟨mark :: (text ++ rest), place⟩ =
      .ok (n, ⟨after.rest ++ rest, stop⟩) := by
  cases text with
  | nil => simp [readExponent, takeExponentSign, Cursor.next, readExponentDigits] at h
  | cons c text =>
    by_cases hplus : c = '+'
    · subst hplus
      exact readExponentDigits_append hrest h _
    by_cases hminus : c = '-'
    · subst hminus
      exact readExponentDigits_append hrest h _
    · have hsign : ∀ tail place, takeExponentSign ⟨c :: tail, place⟩ = (false, ⟨c :: tail, place⟩) := by
        intro tail place
        simp only [takeExponentSign]
        split <;> simp_all
      simp only [readExponent, Cursor.next, List.cons_append, hsign] at h ⊢
      exact readExponentDigits_append hrest h _

/-- A fraction is read the same with something behind it that does not continue it. -/
theorem readFraction_append {text rest : List Char} {negative : Bool} {significand : Nat}
    {start : Int} {offset : Nat} {n : Number} {after : Cursor} (hrest : Ends rest)
    (h : readFraction negative significand start ⟨'.' :: text, offset⟩ = .ok (n, after))
    (place : Nat) :
    ∃ stop, readFraction negative significand start ⟨'.' :: (text ++ rest), place⟩ =
      .ok (n, ⟨after.rest ++ rest, stop⟩) := by
  rcases htaken : takeSignificand significand (text.takeWhile Char.isDigit) with ⟨m, left⟩
  have hdigits := digits_append hrest text (place + '.'.utf8Size)
  by_cases hrun : text.takeWhile Char.isDigit = []
  · simp [readFraction, Cursor.next, Cursor.digits, hrun] at h
  simp only [readFraction, Cursor.next, Cursor.digits, htaken, List.isEmpty_iff, hrun,
    if_false] at h
  simp only [readFraction, Cursor.next, hdigits, htaken, List.isEmpty_iff, hrun, if_false]
  cases htail : text.dropWhile Char.isDigit with
  | nil =>
    simp only [htail] at h
    obtain ⟨rfl, hfinish⟩ := finishFloat_ok h
      ⟨rest, place + '.'.utf8Size + (text.takeWhile Char.isDigit).length⟩
    refine ⟨place + '.'.utf8Size + (text.takeWhile Char.isDigit).length, ?_⟩
    cases rest with
    | nil => exact hfinish
    | cons c rest =>
      have hc := hrest c rfl
      simpa [hc.2.2.1, hc.2.2.2] using hfinish
  | cons c tail =>
    simp only [htail, List.cons_append] at h ⊢
    split_ifs at h ⊢ with hmark
    · exact readExponent_append hrest h _
    · obtain ⟨rfl, hfinish⟩ := finishFloat_ok h _
      exact ⟨_, hfinish⟩

theorem finishInteger_ok {negative : Bool} {m : Nat} {left : List Char} {cursor after : Cursor}
    {n : Number} (h : finishInteger negative m left cursor = .ok (n, after)) (other : Cursor) :
    after = cursor ∧ finishInteger negative m left other = .ok (n, other) := by
  unfold finishInteger at h ⊢
  split_ifs at h ⊢
  · exact finishFloat_ok h other
  all_goals
    simp only [Except.ok.injEq, Prod.mk.injEq] at h
    simp [h.1, h.2]

theorem readNumberTail_append {tail rest : List Char} {negative : Bool} {m : Nat}
    {left : List Char} {offset : Nat} {n : Number} {after : Cursor} (hrest : Ends rest)
    (h : readNumberTail negative m left ⟨tail, offset⟩ = .ok (n, after)) (place : Nat) :
    ∃ stop, readNumberTail negative m left ⟨tail ++ rest, place⟩ =
      .ok (n, ⟨after.rest ++ rest, stop⟩) := by
  have hplain : ∀ text place, (∀ c ∈ text.head?, c ≠ '.' ∧ c ≠ 'e' ∧ c ≠ 'E') →
      readNumberTail negative m left ⟨text, place⟩ =
        finishInteger negative m left ⟨text, place⟩ := by
    intro text place hc
    simp only [readNumberTail]
    split <;> simp_all
  by_cases hc : ∀ c ∈ (tail ++ rest).head?, c ≠ '.' ∧ c ≠ 'e' ∧ c ≠ 'E'
  · have htail : ∀ c ∈ tail.head?, c ≠ '.' ∧ c ≠ 'e' ∧ c ≠ 'E' := by
      cases tail with
      | nil => simp
      | cons c tail => exact hc
    rw [hplain tail offset htail] at h
    obtain ⟨rfl, hfinish⟩ := finishInteger_ok h ⟨tail ++ rest, place⟩
    exact ⟨place, by rw [hplain _ _ hc, hfinish]⟩
  · cases tail with
    | nil => exact False.elim (hc fun c hm => (hrest c hm).2)
    | cons c tail =>
      by_cases hpoint : c = '.'
      · subst hpoint
        exact readFraction_append hrest h place
      by_cases hlower : c = 'e'
      · subst hlower
        exact readExponent_append hrest h place
      by_cases hupper : c = 'E'
      · subst hupper
        exact readExponent_append hrest h place
      · exact False.elim (hc (by simp [hpoint, hlower, hupper]))

/-- A number is read the same with something behind it that does not continue it. -/
theorem readNumber_append {text rest : List Char} {negative : Bool} {offset : Nat} {n : Number}
    {after : Cursor} (hrest : Ends rest)
    (h : readNumber negative ⟨text, offset⟩ = .ok (n, after)) (place : Nat) :
    ∃ stop, readNumber negative ⟨text ++ rest, place⟩ = .ok (n, ⟨after.rest ++ rest, stop⟩) := by
  have hown : Cursor.digits ⟨text, offset⟩ = (text.takeWhile Char.isDigit,
    ⟨text.dropWhile Char.isDigit, offset + (text.takeWhile Char.isDigit).length⟩) := rfl
  have hdigits := digits_append hrest text place
  simp only [readNumber, hown] at h
  simp only [readNumber, hdigits]
  generalize text.takeWhile Char.isDigit = run at h ⊢
  rcases run with _ | ⟨first, more⟩
  · cases text <;> simp at h
  · split at h
    · simp_all
    · simp at h
    · exact readNumberTail_append hrest h _

end SignalCatalog.Json
