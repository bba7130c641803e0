import SignalCatalog.Proofs.Text.Trimming
import SignalCatalog.Text.Numeral

/-!
# Decimal numerals

The written digits of a number denote it, and none of them but that of zero itself is a leading zero.
`digits_eq` states the recursion of the digits without the bound on their number.
-/

namespace SignalCatalog.Text

theorem toNat_digitChar {d : Nat} (h : d < 10) : (digitChar d).toNat = 48 + d := by
  have hall : ∀ d < 10, (digitChar d).toNat = 48 + d := by decide
  exact hall d h

theorem isDigit_iff (c : Char) : c.isDigit = true ↔ 48 ≤ c.toNat ∧ c.toNat ≤ 57 := by
  simp only [Char.isDigit, Bool.and_eq_true, decide_eq_true_eq, ge_iff_le, UInt32.le_iff_toNat_le]
  rfl

theorem isDigit_digitChar {d : Nat} (h : d < 10) : (digitChar d).isDigit = true := by
  rw [isDigit_iff, toNat_digitChar h]
  omega

theorem digitValue_digitChar {d : Nat} (h : d < 10) : digitValue (digitChar d) = d := by
  rw [digitValue, toNat_digitChar h]
  omega

/-- Enough digits are all digits. -/
theorem lowDigits_enough {fuel more n : Nat} (h : n < fuel) (hm : n < more) :
    lowDigits fuel n = lowDigits more n := by
  induction fuel generalizing n more with
  | zero => omega
  | succ fuel ih =>
    cases more with
    | zero => omega
    | succ more =>
      by_cases hn : n < 10
      · simp only [lowDigits, if_pos hn]
      · simp only [lowDigits, if_neg hn]
        rw [@ih more (n / 10) (by omega) (by omega)]

theorem digits_eq (n : Nat) :
    digits n = if n < 10 then [digitChar n] else digits (n / 10) ++ [digitChar (n % 10)] := by
  rw [digits, lowDigits]
  by_cases hn : n < 10
  · rw [if_pos hn, if_pos hn]
  · rw [if_neg hn, if_neg hn, digits,
      @lowDigits_enough n (n / 10 + 1) (n / 10) (by omega) (by omega)]

theorem digits_of_lt {n : Nat} (h : n < 10) : digits n = [digitChar n] := by
  rw [digits_eq, if_pos h]

theorem digits_of_ge {n : Nat} (h : ¬ n < 10) :
    digits n = digits (n / 10) ++ [digitChar (n % 10)] := by
  rw [digits_eq, if_neg h]

theorem digits_ne_nil (n : Nat) : digits n ≠ [] := by
  rw [digits_eq]
  split <;> simp

theorem isDigit_of_mem_digits {n : Nat} : ∀ c ∈ digits n, c.isDigit = true := by
  induction n using Nat.strongRecOn with
  | ind n ih =>
    intro c hc
    by_cases hn : n < 10
    · rw [digits_of_lt hn, List.mem_singleton] at hc
      rw [hc]
      exact isDigit_digitChar hn
    · rw [digits_of_ge hn, List.mem_append, List.mem_singleton] at hc
      rcases hc with hc | hc
      · exact ih (n / 10) (by omega) c hc
      · rw [hc]
        exact isDigit_digitChar (by omega)

theorem valueOf_append_singleton (run : List Char) (c : Char) :
    valueOf (run ++ [c]) = 10 * valueOf run + digitValue c := by
  simp [valueOf]

/-- The digits of a number denote it. -/
@[simp] theorem valueOf_digits (n : Nat) : valueOf (digits n) = n := by
  induction n using Nat.strongRecOn with
  | ind n ih =>
    by_cases hn : n < 10
    · rw [digits_of_lt hn]
      simp [valueOf, digitValue_digitChar hn]
    · rw [digits_of_ge hn, valueOf_append_singleton, ih (n / 10) (by omega),
        digitValue_digitChar (by omega)]
      omega

theorem natural?_digits (n : Nat) : natural? (digits n) = some n := by
  have hall : (digits n).all Char.isDigit = true := List.all_eq_true.mpr isDigit_of_mem_digits
  simp [natural?, hall, digits_ne_nil]

@[simp] theorem toList_number (n : Nat) : (number n).toList = digits n := by
  simp [number]

theorem number_ne_empty (n : Nat) : number n ≠ "" := by
  rw [← String.toList_inj.ne, toList_number]
  exact digits_ne_nil n

theorem integer_ne_empty (n : Int) : integer n ≠ "" := by
  unfold integer
  split <;> simp [number_ne_empty]

theorem isDigit_of_mem_number {n : Nat} : ∀ c ∈ (number n).toList, c.isDigit = true := by
  rw [toList_number]
  exact isDigit_of_mem_digits

theorem isBlank_of_isDigit {c : Char} (h : c.isDigit = true) : isBlank c = false := by
  rw [isDigit_iff] at h
  simp only [isBlank, blankRanges, List.any_cons, List.any_nil, Bool.or_false,
    Bool.or_eq_false_iff, Bool.and_eq_false_iff, decide_eq_false_iff_not]
  omega

theorem isDigit_of_isBlank {c : Char} (h : isBlank c = true) : c.isDigit = false := by
  by_contra hdigit
  rw [isBlank_of_isDigit (by simpa using hdigit)] at h
  cases h

theorem isAlpha_iff (c : Char) : c.isAlpha = true ↔
    (65 ≤ c.toNat ∧ c.toNat ≤ 90) ∨ 97 ≤ c.toNat ∧ c.toNat ≤ 122 := by
  have hranges : c.isAlpha = (decide (65 ≤ c.val ∧ c.val ≤ 90) ||
      (decide (97 ≤ c.val) && decide (c.val ≤ 122))) := rfl
  simp only [hranges, Bool.or_eq_true, Bool.and_eq_true, decide_eq_true_eq,
    UInt32.le_iff_toNat_le]
  rfl

theorem isAlphanum_iff (c : Char) : c.isAlphanum = true ↔
    ((65 ≤ c.toNat ∧ c.toNat ≤ 90) ∨ 97 ≤ c.toNat ∧ c.toNat ≤ 122) ∨
      48 ≤ c.toNat ∧ c.toNat ≤ 57 := by
  rw [Char.isAlphanum, Bool.or_eq_true, isAlpha_iff, isDigit_iff]

theorem isDigit_of_isAlpha {c : Char} (h : c.isAlpha = true) : c.isDigit = false := by
  rw [Bool.eq_false_iff, ne_eq, isDigit_iff]
  rw [isAlpha_iff] at h
  omega

theorem isAlpha_of_isDigit {c : Char} (h : c.isDigit = true) : c.isAlpha = false := by
  by_contra hletter
  rw [isDigit_of_isAlpha (by simpa using hletter)] at h
  cases h

theorem isAlpha_of_isAlpha_toLower {c : Char} (h : c.toLower.isAlpha = true) : c.isAlpha = true := by
  unfold Char.toLower at h
  split at h
  · rename_i hcapital
    have hrange : 65 ≤ c.toNat ∧ c.toNat ≤ 90 := by
      simp only [ge_iff_le, UInt32.le_iff_toNat_le] at hcapital
      exact hcapital
    exact (isAlpha_iff c).mpr (Or.inl hrange)
  · exact h

theorem isBlank_of_isAlphanum {c : Char} (h : c.isAlphanum = true) : isBlank c = false := by
  rw [isAlphanum_iff] at h
  simp only [isBlank, blankRanges, List.any_cons, List.any_nil, Bool.or_false,
    Bool.or_eq_false_iff, Bool.and_eq_false_iff, decide_eq_false_iff_not]
  omega

theorem trimmed_digits {run : List Char} (h : ∀ c ∈ run, c.isDigit = true) : Trimmed run :=
  trimmed_of_forall fun c hc => isBlank_of_isDigit (h c hc)

theorem trim_digits (n : Nat) : trim (digits n) = digits n :=
  trim_eq_self (trimmed_digits isDigit_of_mem_digits)

theorem unsigned?_digits {limit n : Nat} (h : n ≤ limit) : unsigned? limit (digits n) = some n := by
  unfold unsigned?
  split
  · rename_i rest hplus
    have hdigit := isDigit_of_mem_digits '+' (by rw [hplus]; exact List.mem_cons_self)
    simp at hdigit
  · simp [natural?_digits, h]

theorem length_digits_le {n k : Nat} (hk : 0 < k) (h : n < 10 ^ k) : (digits n).length ≤ k := by
  induction k generalizing n with
  | zero => omega
  | succ k ih =>
    by_cases hn : n < 10
    · rw [digits_of_lt hn, List.length_singleton]
      omega
    · have hpow : 10 ^ (k + 1) = 10 * 10 ^ k := by rw [Nat.pow_succ, Nat.mul_comm]
      have hkpos : 0 < k := by
        rcases Nat.eq_zero_or_pos k with rfl | hkpos
        · omega
        · exact hkpos
      have hrest := @ih (n / 10) hkpos (by omega)
      rw [digits_of_ge hn, List.length_append, List.length_singleton]
      omega

theorem toList_padded (width n : Nat) :
    (padded width n).toList = List.replicate (width - (digits n).length) '0' ++ digits n := by
  simp [padded]

theorem isDigit_of_mem_padded {width n : Nat} : ∀ c ∈ (padded width n).toList, c.isDigit = true := by
  intro c hc
  rw [toList_padded, List.mem_append] at hc
  rcases hc with hc | hc
  · rw [List.eq_of_mem_replicate hc]
    decide
  · exact isDigit_of_mem_digits c hc

theorem valueOf_padded (width n : Nat) : valueOf (padded width n).toList = n := by
  have hzeros : ∀ k, valueOf (List.replicate k '0' ++ digits n) = n := by
    intro k
    induction k with
    | zero => simp
    | succ k ih => simpa [valueOf, List.replicate_succ, digitValue] using ih
  rw [toList_padded, hzeros]

theorem length_padded {width n : Nat} (h : (digits n).length ≤ width) :
    (padded width n).toList.length = width := by
  rw [toList_padded, List.length_append, List.length_replicate]
  omega

theorem padded_ne_nil (width n : Nat) : (padded width n).toList ≠ [] := by
  simp [toList_padded, digits_ne_nil]

end SignalCatalog.Text
