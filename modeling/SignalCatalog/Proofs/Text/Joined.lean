import Mathlib.Data.List.Basic
import SignalCatalog.Text.Blank

/-!
# Texts joined with a mark

When two texts of two parts each, joined with the same mark, are one text: if they are cut at the same
place, or if one part of a text holds the mark of the other. The pieces of a text are those of the
library's `List.splitOn`: cutting undoes joining.
-/

namespace SignalCatalog.Text

/-- Two texts with one mark in each are equal if they are cut at the same place, or the one that is
cut later has the other's mark before its own. -/
theorem append_mark_eq_iff {α : Type} {mark : α} {front back first last : List α} :
    front ++ mark :: back = first ++ mark :: last ↔
      (front = first ∧ back = last) ∨
      (∃ middle, first = front ++ mark :: middle ∧ back = middle ++ mark :: last) ∨
      ∃ middle, front = first ++ mark :: middle ∧ last = middle ++ mark :: back := by
  rw [List.append_eq_append_iff]
  constructor
  · rintro (⟨between, hfirst, hback⟩ | ⟨between, hfront, hlast⟩)
    · cases between with
      | nil => exact Or.inl ⟨by simpa using hfirst.symm, by simpa using hback⟩
      | cons c middle =>
        obtain ⟨rfl, hmiddle⟩ := List.cons.inj hback
        exact Or.inr (Or.inl ⟨middle, hfirst, hmiddle⟩)
    · cases between with
      | nil => exact Or.inl ⟨by simpa using hfront, by simpa using hlast.symm⟩
      | cons c middle =>
        obtain ⟨rfl, hmiddle⟩ := List.cons.inj hlast
        exact Or.inr (Or.inr ⟨middle, hfront, hmiddle⟩)
  · rintro (⟨rfl, rfl⟩ | ⟨middle, rfl, rfl⟩ | ⟨middle, rfl, rfl⟩)
    · exact Or.inl ⟨[], by simp, rfl⟩
    · exact Or.inl ⟨mark :: middle, rfl, rfl⟩
    · exact Or.inr ⟨mark :: middle, rfl, rfl⟩

theorem eq_joined_iff {whole front back : String} :
    whole = front ++ "_" ++ back ↔ whole.toList = front.toList ++ '_' :: back.toList := by
  rw [← String.toList_inj]
  simp

/-- The same for texts joined with an underscore. -/
theorem joined_eq_iff {front back first last : String} :
    front ++ "_" ++ back = first ++ "_" ++ last ↔
      (front = first ∧ back = last) ∨
      (∃ middle, first = front ++ "_" ++ middle ∧ back = middle ++ "_" ++ last) ∨
      ∃ middle, front = first ++ "_" ++ middle ∧ last = middle ++ "_" ++ back := by
  have hwhole : front ++ "_" ++ back = first ++ "_" ++ last ↔
      front.toList ++ '_' :: back.toList = first.toList ++ '_' :: last.toList := by
    rw [eq_joined_iff]
    simp
  simp only [hwhole, append_mark_eq_iff, String.toList_inj, eq_joined_iff]
  refine or_congr Iff.rfl (or_congr ?_ ?_)
  · exact ⟨fun ⟨middle, h⟩ => ⟨String.ofList middle, by simpa using h⟩,
      fun ⟨middle, h⟩ => ⟨middle.toList, h⟩⟩
  · exact ⟨fun ⟨middle, h⟩ => ⟨String.ofList middle, by simpa using h⟩,
      fun ⟨middle, h⟩ => ⟨middle.toList, h⟩⟩

/-! ## Pieces -/

section Pieces

variable {mark : Char}

theorem pieces_eq_splitOn (text : List Char) : pieces mark text = text.splitOn mark := by
  induction text with
  | nil => rfl
  | cons c rest ih =>
    have hsplit : (c :: rest).splitOn mark =
        if c = mark then [] :: rest.splitOn mark else (rest.splitOn mark).modifyHead (c :: ·) := by
      simp [List.splitOn, List.splitOnP_cons_eq_if_modifyHead]
    obtain ⟨head, tail, hrest⟩ := List.exists_cons_of_ne_nil (List.splitOn_ne_nil mark rest)
    rw [pieces, ih, hsplit, hrest, List.modifyHead_cons]

theorem pieces_append (front back : List Char) :
    pieces mark (front ++ mark :: back) = pieces mark front ++ pieces mark back := by
  simp only [pieces_eq_splitOn]
  exact List.splitOnP_append_cons front back (by simp)

theorem pieces_intercalate {texts : List (List Char)} (h : ∀ text ∈ texts, mark ∉ text)
    (hne : texts ≠ []) : pieces mark ([mark].intercalate texts) = texts := by
  rw [pieces_eq_splitOn, List.splitOn_intercalate mark h hne]

theorem pieces_of_not_mem {text : List Char} (h : mark ∉ text) : pieces mark text = [text] := by
  have hjoined : [mark].intercalate [text] = text := by simp [List.intercalate]
  rw [← hjoined, pieces_intercalate (by simpa using h) (by simp), hjoined]

theorem not_mem_of_mem_pieces {text piece : List Char} (h : piece ∈ pieces mark text) :
    mark ∉ piece := by
  induction text generalizing piece with
  | nil =>
    rw [pieces, List.mem_singleton] at h
    simp [h]
  | cons c rest ih =>
    rw [pieces] at h
    split at h
    · rcases List.mem_cons.mp h with rfl | hrest
      · simp
      · exact ih hrest
    · rename_i hmark
      split at h
      · rw [List.mem_singleton] at h
        simpa [h] using Ne.symm hmark
      · rename_i head tail hpieces
        rcases List.mem_cons.mp h with rfl | htail
        · rw [List.mem_cons, not_or]
          exact ⟨Ne.symm hmark, ih (hpieces ▸ List.mem_cons_self)⟩
        · exact ih (hpieces ▸ List.mem_cons_of_mem _ htail)

end Pieces

end SignalCatalog.Text
