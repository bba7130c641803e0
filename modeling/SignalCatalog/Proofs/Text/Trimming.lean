import Mathlib.Data.List.DropRight
import SignalCatalog.Text.Blank

/-!
# Trimming

A text is trimmed if neither its first nor its last character is a blank. Trimming gives such a text
and leaves one as it is.
-/

namespace SignalCatalog.Text

/-- No blank at either end. -/
def Trimmed (text : List Char) : Prop :=
  (∀ c ∈ text.head?, isBlank c = false) ∧ ∀ c ∈ text.getLast?, isBlank c = false

instance (text : List Char) : Decidable (Trimmed text) :=
  decidable_of_iff ((text.head?.all fun c => !isBlank c) && text.getLast?.all fun c => !isBlank c)
    (by simp [Trimmed, Option.all_eq_true])

theorem trimStart_eq_self {text : List Char} (h : ∀ c ∈ text.head?, isBlank c = false) :
    trimStart text = text := by
  cases text with
  | nil => rfl
  | cons c rest => exact List.dropWhile_cons_of_neg (by simp [h c rfl])

theorem trimEnd_eq_self {text : List Char} (h : ∀ c ∈ text.getLast?, isBlank c = false) :
    trimEnd text = text := by
  have hr := @trimStart_eq_self text.reverse (by simpa using h)
  rw [trimEnd, ← trimStart, hr, List.reverse_reverse]

theorem head?_trimStart (text : List Char) : ∀ c ∈ (trimStart text).head?, isBlank c = false := by
  intro c hc
  have h := List.head?_dropWhile_not isBlank text
  rw [show List.dropWhile isBlank text = trimStart text from rfl, Option.mem_def.mp hc] at h
  simpa using h

theorem getLast?_trimEnd (text : List Char) : ∀ c ∈ (trimEnd text).getLast?, isBlank c = false := by
  intro c hc
  apply head?_trimStart text.reverse c
  simpa [trimEnd, trimStart] using hc

theorem isPrefix_trimEnd (text : List Char) : trimEnd text <+: text :=
  List.rdropWhile_prefix isBlank text

theorem trimmed_trim (text : List Char) : Trimmed (trim text) := by
  refine ⟨?_, getLast?_trimEnd (trimStart text)⟩
  intro c hc
  apply head?_trimStart text c
  obtain ⟨tail, ht⟩ := isPrefix_trimEnd (trimStart text)
  rw [← ht]
  cases hs : trimEnd (trimStart text) with
  | nil => simp [trim, hs] at hc
  | cons d rest => simpa [trim, hs] using hc

theorem trimmed_of_forall {text : List Char} (h : ∀ c ∈ text, isBlank c = false) : Trimmed text :=
  ⟨fun c hc => h c (List.mem_of_mem_head? hc), fun c hc => h c (List.mem_of_mem_getLast? hc)⟩

theorem trim_eq_self {text : List Char} (h : Trimmed text) : trim text = text := by
  rw [trim, trimStart_eq_self h.1, trimEnd_eq_self h.2]

theorem trim_eq_nil_iff {text : List Char} : trim text = [] ↔ ∀ c ∈ text, isBlank c = true := by
  constructor
  · intro h
    have hs : trimStart text = [] := by
      have hall := List.dropWhile_eq_nil_iff.mp (List.reverse_eq_nil_iff.mp h)
      cases hd : trimStart text with
      | nil => rfl
      | cons c rest =>
        have hb := head?_trimStart text c (by simp [hd])
        have hc := hall c (by simp [hd])
        simp [hb] at hc
    exact List.dropWhile_eq_nil_iff.mp hs
  · intro h
    have hs : trimStart text = [] := List.dropWhile_eq_nil_iff.mpr h
    simp [trim, hs, trimEnd]

@[simp] theorem toList_trimmed (text : String) : (trimmed text).toList = trim text.toList := by
  simp [trimmed]

theorem trimmed_eq_self {text : String} (h : Trimmed text.toList) : trimmed text = text := by
  rw [trimmed, trim_eq_self h, String.ofList_toList]

theorem trimmed_eq_empty_iff {text : String} : trimmed text = "" ↔ blank text = true := by
  rw [← String.toList_inj, toList_trimmed, String.toList_empty, trim_eq_nil_iff, blank,
    List.all_eq_true]

/-- A cut is at the first place where the mark stands. -/
theorem cutAt?_eq_some_iff {mark : Char} {text before after : List Char} :
    cutAt? mark text = some (before, after) ↔
      text = before ++ mark :: after ∧ mark ∉ before := by
  induction text generalizing before with
  | nil => simp [cutAt?]
  | cons c rest ih =>
    by_cases hc : c = mark
    · subst hc
      simp only [cutAt?, List.dropWhile_cons, List.takeWhile_cons]
      simp only [ne_eq, not_true_eq_false, decide_false, Bool.false_eq_true, if_false,
        Option.some.injEq, Prod.mk.injEq]
      constructor
      · rintro ⟨rfl, rfl⟩
        simp
      · rintro ⟨h, hm⟩
        cases before with
        | nil => simpa using h
        | cons d before =>
          simp only [List.cons_append, List.cons.injEq] at h
          exact False.elim (hm (by simp [h.1]))
    · have hstep : cutAt? mark (c :: rest) =
          (cutAt? mark rest).map fun parts => (c :: parts.1, parts.2) := by
        simp only [cutAt?, List.dropWhile_cons, List.takeWhile_cons, ne_eq, hc,
          not_false_eq_true, decide_true, if_true]
        cases List.dropWhile (fun x => decide (¬x = mark)) rest <;> rfl
      rw [hstep, Option.map_eq_some_iff]
      constructor
      · rintro ⟨⟨left, right⟩, h, he⟩
        simp only [Prod.mk.injEq] at he
        obtain ⟨rfl, rfl⟩ := he
        obtain ⟨rfl, hm⟩ := ih.mp h
        exact ⟨rfl, by simp [hm, Ne.symm hc]⟩
      · rintro ⟨h, hm⟩
        cases before with
        | nil => exact False.elim (hc (by simpa using (List.cons.inj h).1))
        | cons d before =>
          simp only [List.cons_append, List.cons.injEq] at h
          obtain ⟨rfl, rfl⟩ := h
          exact ⟨(before, after), ih.mpr ⟨rfl, fun hmem => hm (List.mem_cons_of_mem c hmem)⟩,
            rfl⟩

theorem length_trimStart_le (text : List Char) : (trimStart text).length ≤ text.length :=
  (List.dropWhile_sublist isBlank).length_le

theorem length_trim_le (text : List Char) : (trim text).length ≤ text.length := by
  have hend : (trimEnd (trimStart text)).length ≤ (trimStart text).length :=
    (isPrefix_trimEnd (trimStart text)).length_le
  exact Nat.le_trans hend (length_trimStart_le text)

section Runs

variable {keep : Char → Bool} {run rest : List Char}

theorem takeWhile_run (hrun : ∀ c ∈ run, keep c = true) (hrest : ∀ c ∈ rest.head?, keep c = false) :
    (run ++ rest).takeWhile keep = run := by
  rw [List.takeWhile_append_of_pos hrun]
  cases rest with
  | nil => simp
  | cons c rest => simp [hrest c rfl]

theorem dropWhile_run (hrun : ∀ c ∈ run, keep c = true) (hrest : ∀ c ∈ rest.head?, keep c = false) :
    (run ++ rest).dropWhile keep = rest := by
  rw [List.dropWhile_append_of_pos hrun]
  cases rest with
  | nil => simp
  | cons c rest => simp [hrest c rfl]

end Runs

/-- Trimming takes away the blanks around a trimmed text. -/
theorem trim_surrounded {lead text tail : List Char} (hlead : ∀ c ∈ lead, isBlank c = true)
    (htail : ∀ c ∈ tail, isBlank c = true) (h : Trimmed text) (hne : text ≠ []) :
    trim (lead ++ text ++ tail) = text := by
  have hhead : ∀ c ∈ (text ++ tail).head?, isBlank c = false := by
    intro c hc
    rw [List.head?_append_of_ne_nil _ hne] at hc
    exact h.1 c hc
  have hlast : ∀ c ∈ text.reverse.head?, isBlank c = false := by
    intro c hc
    exact h.2 c (by simpa using hc)
  have hend : trimEnd (text ++ tail) = text := by
    rw [trimEnd, List.reverse_append, dropWhile_run (by simpa using htail) hlast,
      List.reverse_reverse]
  rw [trim, trimStart, List.append_assoc, dropWhile_run hlead hhead, hend]

theorem append_of_after? {lead text rest : List Char} (h : after? lead text = some rest) :
    text = lead ++ rest := by
  induction lead generalizing text with
  | nil => simpa [after?] using h
  | cons c lead ih =>
    cases text with
    | nil => simp [after?] at h
    | cons d text =>
      simp only [after?, Option.ite_none_right_eq_some] at h
      rw [h.1, ih h.2, List.cons_append]

theorem length_of_after? {lead text rest : List Char} (h : after? lead text = some rest) :
    text.length = lead.length + rest.length := by
  rw [append_of_after? h, List.length_append]

theorem trimStart_cons {c : Char} (h : isBlank c = false) (text : List Char) :
    trimStart (c :: text) = c :: text :=
  trimStart_eq_self (by simpa using h)

theorem trimmed_cons {c : Char} {text : List Char} (hc : isBlank c = false) (h : Trimmed text)
    (before : List Char) (hne : text ≠ []) : Trimmed (c :: (before ++ text)) := by
  refine ⟨by simpa using hc, ?_⟩
  rw [← List.cons_append, List.getLast?_append_of_ne_nil _ hne]
  exact h.2

/-- A text with something in it and no blank at either end. -/
def Filled (text : String) : Prop := text ≠ "" ∧ Trimmed text.toList

instance (text : String) : Decidable (Filled text) :=
  inferInstanceAs (Decidable (text ≠ "" ∧ Trimmed text.toList))

/-- What is left of a text after trimming, if anything is. -/
theorem filled_trimmed {text : String} (h : trimmed text ≠ "") : Filled (trimmed text) :=
  ⟨h, by rw [toList_trimmed]; exact trimmed_trim text.toList⟩

theorem Filled.trimmed_eq {text : String} (h : Filled text) : trimmed text = text :=
  trimmed_eq_self h.2

theorem filled_append {first last : String} (hf : Filled first) (hl : Filled last)
    (middle : String) : Filled (first ++ middle ++ last) := by
  obtain ⟨c, rest, hfirst⟩ := List.exists_cons_of_ne_nil (show first.toList ≠ [] by simpa using hf.1)
  have hc : isBlank c = false := hf.2.1 c (by rw [hfirst]; rfl)
  have hlast : last.toList ≠ [] := by simpa using hl.1
  have htext : (first ++ middle ++ last).toList =
      c :: ((rest ++ middle.toList) ++ last.toList) := by simp [hfirst]
  refine ⟨?_, by rw [htext]; exact trimmed_cons hc hl.2 _ hlast⟩
  intro hempty
  rw [hempty] at htext
  simp at htext

end SignalCatalog.Text
