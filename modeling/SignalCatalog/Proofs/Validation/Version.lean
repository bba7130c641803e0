import Mathlib.Data.List.DropRight
import Mathlib.Data.Rat.Cast.Order
import Mathlib.Tactic.Linarith
import Mathlib.Tactic.Positivity
import Mathlib.Tactic.Ring
import SignalCatalog.Proofs.Text.Numerals
import SignalCatalog.Validation.Version

/-!
# Versions as numbers

A version text denotes a non-negative decimal fraction. Versions are compared by their digits; the main
statement is that this is the order of the numbers, whatever the number of digits. Zeros in front of
the whole part and at the end of the fraction are dropped when a version is read, and they do not count
in its number either.
-/

namespace SignalCatalog.Version

open Text (digitValue valueOf)

/-- The number of a run of digits with a point in front of it. -/
def fractionOf : List Char → ℚ
  | [] => 0
  | c :: rest => (digitValue c + fractionOf rest) / 10

/-- The number of a decimal by the digits before and behind its point. -/
def decimal (whole fraction : List Char) : ℚ := valueOf whole + fractionOf fraction

/-- The number that a version text denotes, if it is a decimal. -/
def number? (text : String) : Option ℚ :=
  (parts? (Text.trim text.toList)).map fun (whole, fraction) => decimal whole fraction

def value (version : Version) : ℚ := decimal version.whole version.fraction

/-! ## Runs of digits -/

section Runs

variable {run a b : List Char}

@[simp] theorem fractionOf_nil : fractionOf [] = 0 := rfl

theorem digitValue_le (h : ∀ c ∈ run, c.isDigit = true) {c : Char} (hc : c ∈ run) :
    digitValue c ≤ 9 := by
  have hdigit := (Text.isDigit_iff c).mp (h c hc)
  rw [digitValue]
  omega

theorem digitValue_pos {c : Char} (hdigit : c.isDigit = true) (hzero : c ≠ '0') :
    1 ≤ digitValue c := by
  have hrange := (Text.isDigit_iff c).mp hdigit
  have hne : c.toNat ≠ 48 := fun he => hzero (Char.toNat_inj.mp he)
  rw [digitValue]
  omega

theorem fractionOf_nonneg (run : List Char) : 0 ≤ fractionOf run := by
  induction run with
  | nil => exact le_refl 0
  | cons c rest ih =>
    rw [fractionOf]
    positivity

theorem fractionOf_lt_one (h : ∀ c ∈ run, c.isDigit = true) : fractionOf run < 1 := by
  induction run with
  | nil => exact zero_lt_one
  | cons c rest ih =>
    have hdigit : (digitValue c : ℚ) ≤ 9 := by
      exact_mod_cast digitValue_le h List.mem_cons_self
    have hrest := ih fun d hd => h d (List.mem_cons_of_mem c hd)
    rw [fractionOf]
    linarith

/-- A run that starts with no zero is at least a tenth. -/
theorem tenth_le_fractionOf {c : Char} (hdigit : c.isDigit = true) (hzero : c ≠ '0')
    (rest : List Char) : 1 / 10 ≤ fractionOf (c :: rest) := by
  have hone : (1 : ℚ) ≤ digitValue c := by exact_mod_cast digitValue_pos hdigit hzero
  have hrest := fractionOf_nonneg rest
  rw [fractionOf]
  linarith

/-- A run that ends with no zero is no zero. -/
theorem fractionOf_pos (h : ∀ c ∈ run, c.isDigit = true) (hne : run ≠ [])
    (hfinal : ∀ c ∈ run.getLast?, c ≠ '0') : 0 < fractionOf run := by
  induction run with
  | nil => exact False.elim (hne rfl)
  | cons c rest ih =>
    cases rest with
    | nil =>
      have hleast := tenth_le_fractionOf (h c List.mem_cons_self) (hfinal c rfl) []
      linarith
    | cons d rest =>
      have hrest := ih (fun e he => h e (List.mem_cons_of_mem c he)) (List.cons_ne_nil d rest)
        (by simpa using hfinal)
      rw [fractionOf]
      positivity

/-- Of two numbers with a digit in front, the digit decides unless it is the same. -/
theorem leading_lt_iff {c d : ℕ} {x y : ℚ} (hx : 0 ≤ x ∧ x < 1) (hy : 0 ≤ y ∧ y < 1) :
    (c : ℚ) + x < d + y ↔ c < d ∨ c = d ∧ x < y := by
  rcases lt_trichotomy c d with hlt | rfl | hgt
  · have hone : (c : ℚ) + 1 ≤ d := by exact_mod_cast hlt
    exact ⟨fun _ => Or.inl hlt, fun _ => by linarith [hx.2, hy.1]⟩
  · simp
  · have hone : (d : ℚ) + 1 ≤ c := by exact_mod_cast hgt
    refine ⟨fun h => ?_, fun h => by omega⟩
    linarith [hx.1, hy.2]

theorem bounds_of_digits (h : ∀ c ∈ run, c.isDigit = true) :
    0 ≤ fractionOf run ∧ fractionOf run < 1 :=
  ⟨fractionOf_nonneg run, fractionOf_lt_one h⟩

/-- Behind a point the order of words is that of numbers, if the longer word ends with no zero or the
words are of one length. -/
theorem wordBefore_iff (ha : ∀ c ∈ a, c.isDigit = true) (hb : ∀ c ∈ b, c.isDigit = true)
    (h : a.length = b.length ∨ ∀ c ∈ b.getLast?, c ≠ '0') :
    wordBefore a b = true ↔ fractionOf a < fractionOf b := by
  induction a generalizing b with
  | nil =>
    cases b with
    | nil => simp [wordBefore]
    | cons d b =>
      rcases h with hlength | hfinal
      · simp at hlength
      · simpa [wordBefore] using fractionOf_pos hb (List.cons_ne_nil d b) hfinal
  | cons c a ih =>
    cases b with
    | nil => simpa [wordBefore] using fractionOf_nonneg (c :: a)
    | cons d b =>
      rw [List.forall_mem_cons] at ha hb
      have hrest := ih ha.2 hb.2 (h.imp (by simp) fun hfinal e he => hfinal e (by
        cases b with
        | nil => simp at he
        | cons f b => simpa using he))
      have hc := (Text.isDigit_iff c).mp ha.1
      have hd := (Text.isDigit_iff d).mp hb.1
      have hless : c.toNat < d.toNat ↔ digitValue c < digitValue d := by
        simp only [digitValue]
        omega
      have hsame : c.toNat = d.toNat ↔ digitValue c = digitValue d := by
        simp only [digitValue]
        omega
      rw [fractionOf, fractionOf, div_lt_div_iff_of_pos_right (by norm_num),
        leading_lt_iff (bounds_of_digits ha.2) (bounds_of_digits hb.2)]
      simp [wordBefore, hrest, hless, hsame]

/-- Digits behind a number move its point, and the number of the digits is added. -/
theorem foldl_digits_eq (run : List Char) (n : ℕ) :
    ((run.foldl (fun n c => 10 * n + digitValue c) n : ℕ) : ℚ) =
      (n + fractionOf run) * 10 ^ run.length := by
  induction run generalizing n with
  | nil => simp
  | cons c rest ih =>
    rw [List.foldl_cons, ih, fractionOf, List.length_cons, pow_succ]
    push_cast
    ring

/-- The number of a whole run is that of its digits behind a point, times its power of ten. -/
theorem valueOf_eq (run : List Char) : (valueOf run : ℚ) = fractionOf run * 10 ^ run.length := by
  rw [valueOf, foldl_digits_eq, Nat.cast_zero, zero_add]

/-- A longer whole run that starts with no zero is the larger number. -/
theorem valueOf_lt_of_length_lt (ha : ∀ c ∈ a, c.isDigit = true) (hb : ∀ c ∈ b, c.isDigit = true)
    (hleading : ∀ c ∈ b.head?, c ≠ '0') (h : a.length < b.length) : valueOf a < valueOf b := by
  cases b with
  | nil => simp at h
  | cons d b =>
    have hleast := tenth_le_fractionOf (hb d List.mem_cons_self) (hleading d rfl) b
    have hpower : (0 : ℚ) < 10 ^ a.length := by positivity
    have hlonger : (10 : ℚ) ^ (a.length + 1) ≤ 10 ^ (d :: b).length :=
      pow_le_pow_right₀ (by norm_num) h
    have hvalues : (valueOf a : ℚ) < valueOf (d :: b) := by
      rw [valueOf_eq, valueOf_eq]
      calc fractionOf a * 10 ^ a.length < 1 * 10 ^ a.length :=
            mul_lt_mul_of_pos_right (fractionOf_lt_one ha) hpower
        _ = 1 / 10 * 10 ^ (a.length + 1) := by ring
        _ ≤ 1 / 10 * 10 ^ (d :: b).length := by linarith
        _ ≤ fractionOf (d :: b) * 10 ^ (d :: b).length :=
            mul_le_mul_of_nonneg_right hleast (by positivity)
    exact_mod_cast hvalues

/-- Among whole runs of one length the order of words is that of numbers. -/
theorem wordBefore_iff_valueOf_lt (ha : ∀ c ∈ a, c.isDigit = true)
    (hb : ∀ c ∈ b, c.isDigit = true) (h : a.length = b.length) :
    wordBefore a b = true ↔ valueOf a < valueOf b := by
  have hpower : (0 : ℚ) < 10 ^ b.length := by positivity
  rw [wordBefore_iff ha hb (Or.inl h), ← @Nat.cast_lt ℚ, valueOf_eq, valueOf_eq, h,
    mul_lt_mul_iff_left₀ hpower]

/-- Of two different words one is before the other. -/
theorem eq_of_not_wordBefore (hab : wordBefore a b = false) (hba : wordBefore b a = false) :
    a = b := by
  induction a generalizing b with
  | nil =>
    cases b with
    | nil => rfl
    | cons d b => simp [wordBefore] at hab
  | cons c a ih =>
    cases b with
    | nil => simp [wordBefore] at hba
    | cons d b =>
      simp only [wordBefore, Bool.or_eq_false_iff, decide_eq_false_iff_not] at hab hba
      have hcode : c.toNat = d.toNat := by omega
      simp only [hcode, beq_self_eq_true, Bool.true_and] at hab hba
      rw [Char.toNat_inj.mp hcode, ih hab.2 hba.2]

/-- Words of one length and one number are equal. -/
theorem eq_of_valueOf_eq (ha : ∀ c ∈ a, c.isDigit = true) (hb : ∀ c ∈ b, c.isDigit = true)
    (hlength : a.length = b.length) (h : valueOf a = valueOf b) : a = b := by
  apply eq_of_not_wordBefore
  · rw [Bool.eq_false_iff, ne_eq, wordBefore_iff_valueOf_lt ha hb hlength, h]
    exact lt_irrefl _
  · rw [Bool.eq_false_iff, ne_eq, wordBefore_iff_valueOf_lt hb ha hlength.symm, h]
    exact lt_irrefl _

end Runs

/-! ## The order of versions -/

/-- Digits only, and no zeros that do not count. -/
structure Canonical (version : Version) : Prop where
  whole : ∀ c ∈ version.whole, c.isDigit = true
  fraction : ∀ c ∈ version.fraction, c.isDigit = true
  leading : ∀ c ∈ version.whole.head?, c ≠ '0'
  final : ∀ c ∈ version.fraction.getLast?, c ≠ '0'

variable {a b : Version}

/-- Among versions the order by digits is the order of numbers. -/
theorem below_iff (ha : a.Canonical) (hb : b.Canonical) : a.below b = true ↔ a.value < b.value := by
  rw [value, value, decimal, decimal,
    leading_lt_iff (bounds_of_digits ha.fraction) (bounds_of_digits hb.fraction),
    ← wordBefore_iff ha.fraction hb.fraction (Or.inr hb.final)]
  simp only [below, Bool.or_eq_true, Bool.and_eq_true, decide_eq_true_eq, beq_iff_eq]
  rcases lt_trichotomy a.whole.length b.whole.length with hlt | heq | hgt
  · exact iff_of_true (Or.inl hlt)
      (Or.inl (valueOf_lt_of_length_lt ha.whole hb.whole hb.leading hlt))
  · have hsame : a.whole = b.whole ↔ valueOf a.whole = valueOf b.whole :=
      ⟨fun h => by rw [h], eq_of_valueOf_eq ha.whole hb.whole heq⟩
    rw [wordBefore_iff_valueOf_lt ha.whole hb.whole heq, hsame]
    simp [heq]
  · have hless := valueOf_lt_of_length_lt hb.whole ha.whole ha.leading hgt
    refine iff_of_false ?_ ?_ <;> omega

/-! ## Reading -/

theorem valueOf_dropZeros (run : List Char) : valueOf (dropZeros run) = valueOf run := by
  induction run with
  | nil => rfl
  | cons c rest ih =>
    by_cases hc : c = '0'
    · subst hc
      simpa [dropZeros, valueOf, digitValue] using ih
    · simp [dropZeros, hc]

theorem fractionOf_append_zero (run : List Char) : fractionOf (run ++ ['0']) = fractionOf run := by
  induction run with
  | nil =>
    have hzero : digitValue '0' = 0 := rfl
    simp [fractionOf, hzero]
  | cons c rest ih => rw [List.cons_append, fractionOf, fractionOf, ih]

theorem dropFinalZeros_eq (run : List Char) : dropFinalZeros run = run.rdropWhile (· = '0') := rfl

theorem fractionOf_dropFinalZeros (run : List Char) :
    fractionOf (dropFinalZeros run) = fractionOf run := by
  induction run using List.reverseRecOn with
  | nil => rfl
  | append_singleton run c ih =>
    rw [dropFinalZeros_eq] at ih ⊢
    by_cases hc : c = '0'
    · rw [List.rdropWhile_concat_pos _ _ _ (by simpa using hc), ih, hc, fractionOf_append_zero]
    · rw [List.rdropWhile_concat_neg _ _ _ (by simpa using hc)]

theorem canonical_of_digits {whole fraction : List Char} (hw : ∀ c ∈ whole, c.isDigit = true)
    (hf : ∀ c ∈ fraction, c.isDigit = true) :
    (Version.mk (dropZeros whole) (dropFinalZeros fraction)).Canonical where
  whole := fun c hc => hw c ((List.dropWhile_sublist _).mem hc)
  fraction := fun c hc => hf c ((List.rdropWhile_prefix _ fraction).mem hc)
  leading := by
    intro c hc
    have h := List.head?_dropWhile_not (fun c : Char => decide (c = '0')) whole
    rw [Option.mem_def, dropZeros] at hc
    simpa [hc] using h
  final := by
    intro c hc
    have h := List.head?_dropWhile_not (fun c : Char => decide (c = '0')) fraction.reverse
    rw [Option.mem_def, dropFinalZeros, List.getLast?_reverse, dropZeros] at hc
    simpa [hc] using h

theorem isDigit_of_parts? {text whole fraction : List Char} (h : parts? text = some (whole, fraction)) :
    (∀ c ∈ whole, c.isDigit = true) ∧ ∀ c ∈ fraction, c.isDigit = true := by
  unfold parts? at h
  split at h
  · split at h
    · simp at h
    · simp_all
  · split at h
    · simp at h
    · simp_all

/-- A version that is read is canonical and stands for the number that its text denotes. -/
theorem of_ofText? {text : String} {version : Version} (h : ofText? text = some version) :
    version.Canonical ∧ number? text = some version.value := by
  obtain ⟨⟨whole, fraction⟩, hparts, rfl⟩ := Option.map_eq_some_iff.mp h
  obtain ⟨hw, hf⟩ := isDigit_of_parts? hparts
  refine ⟨canonical_of_digits hw hf, ?_⟩
  rw [number?, hparts, Option.map_some]
  simp only [value, decimal, valueOf_dropZeros, fractionOf_dropFinalZeros]

theorem ofText?_eq_none_iff {text : String} : ofText? text = none ↔ number? text = none := by
  rw [ofText?, number?, Option.map_eq_none_iff, Option.map_eq_none_iff]

theorem number?_nonneg {text : String} {number : ℚ} (h : number? text = some number) :
    0 ≤ number := by
  obtain ⟨⟨whole, fraction⟩, _, rfl⟩ := Option.map_eq_some_iff.mp h
  have hf := fractionOf_nonneg fraction
  simp only [decimal]
  positivity

end SignalCatalog.Version
