import SignalCatalog.Binary64.Reading
import SignalCatalog.Proofs.Binary64.Decimals
import SignalCatalog.Proofs.Binary64.Text

/-!
# Written doubles are read back

The digits of a double are found by trial, so that they read back to it; where no trial succeeds, the
exact expansion does. Cutting off zeros and setting a point leave the number as it is, and what is
read depends on the number alone. Every finite double therefore comes back from its text.
-/

namespace SignalCatalog.Binary64

open SignalCatalog.Text

theorem log2_mono {n m : Nat} (hn : n ≠ 0) (h : n ≤ m) : n.log2 ≤ m.log2 := by
  rw [Nat.le_log2 (by omega)]
  exact Nat.le_trans (Nat.log2_self_le hn) h

/-! ## The digits -/

/-- A decimal of a double: it has not too many digits and is read as the double. -/
structure Decimal.Denotes (d : Decimal) (m : Nat) (e : Int) (h : Canonical m e) : Prop where
  nonzero : d.digits ≠ 0
  few : d.digits.log2 < 5000
  reads : ofDecimal false d.digits d.exponent = .finite false m e h

namespace Decimal

variable {d : Decimal} {m : Nat} {e : Int} {h : Canonical m e}

theorem Denotes.moderate (hd : d.Denotes m e h) : d.Moderate :=
  ⟨hd.nonzero, Nat.lt_trans hd.few (by decide)⟩

/-- A decimal that is read as a finite number has no large exponent. -/
theorem exponent_le_of_reads (hd : d.digits ≠ 0)
    (hreads : ofDecimal false d.digits d.exponent = .finite false m e h) :
    (d.digits.log2 : Int) * 30103 / 100000 + d.exponent ≤ 320 := by
  by_contra hlarge
  rw [ofDecimal, if_neg hd] at hreads
  dsimp only at hreads
  rw [if_pos (by omega)] at hreads
  simp at hreads

theorem strip_spec (fuel : Nat) (hd : d.Moderate) :
    (strip fuel d).Moderate ∧ (strip fuel d).digits ≤ d.digits ∧ (strip fuel d).value = d.value := by
  induction fuel generalizing d with
  | zero => exact ⟨hd, Nat.le_refl _, rfl⟩
  | succ fuel ih =>
    rw [strip]
    split
    · rename_i hzero
      have hten : d.digits = d.digits / 10 * 10 := by omega
      have hne : d.digits / 10 ≠ 0 := by omega
      have hlog := log2_mono hne (Nat.div_le_self d.digits 10)
      obtain ⟨hmoderate, hle, hvalue⟩ := @ih ⟨d.digits / 10, d.exponent + 1⟩
        ⟨hne, Nat.lt_of_le_of_lt hlog hd.2⟩
      refine ⟨hmoderate, Nat.le_trans hle (Nat.div_le_self _ _), hvalue.trans ?_⟩
      rw [value, value, zpow_add_one₀ (by norm_num)]
      have hcast : (d.digits : ℚ) = (d.digits / 10 : Nat) * 10 := by exact_mod_cast hten
      rw [hcast]
      ring
    · exact ⟨hd, Nat.le_refl _, rfl⟩

theorem Denotes.strip (hd : d.Denotes m e h) (fuel : Nat) : (strip fuel d).Denotes m e h := by
  obtain ⟨hmoderate, hle, hvalue⟩ := strip_spec fuel hd.moderate
  refine ⟨hmoderate.1, ?_, (ofDecimal_congr hmoderate hd.moderate hvalue false).trans hd.reads⟩
  exact Nat.lt_of_le_of_lt (log2_mono hmoderate.1 hle) hd.few

end Decimal

theorem pick_eq_some {tie : TieRule} {readsBack : Decimal → Bool}
    {candidates : Decimal × Decimal × Ordering} {d : Decimal}
    (h : pick tie readsBack candidates = some d) :
    readsBack d = true ∧ (d = candidates.1 ∨ d = candidates.2.1) := by
  obtain ⟨low, high, half⟩ := candidates
  unfold pick at h
  cases hlow : readsBack low <;> cases hhigh : readsBack high <;> simp only [hlow, hhigh] at h
  · cases h
  · exact ⟨Option.some.inj h ▸ hhigh, .inr (Option.some.inj h).symm⟩
  · exact ⟨Option.some.inj h ▸ hlow, .inl (Option.some.inj h).symm⟩
  · have hsome : d = low ∨ d = high := by
      split at h
      · exact .inl (Option.some.inj h).symm
      · exact .inr (Option.some.inj h).symm
      · exact .inr (Option.some.inj h).symm
      · split at h
        · exact .inl (Option.some.inj h).symm
        · exact .inr (Option.some.inj h).symm
    refine ⟨?_, hsome⟩
    rcases hsome with rfl | rfl
    · exact hlow
    · exact hhigh

/-- The estimate of the number of digits is not far too small. -/
theorem le_digitsBeforePoint (num den : Nat) :
    ((num.log2 : Int) - den.log2) * 30103 / 100000 - 1 ≤ digitsBeforePoint num den := by
  unfold digitsBeforePoint
  dsimp only
  split_ifs <;> omega

section Found

variable {m : Nat} {e : Int} {h : Canonical m e}

theorem value_exactDecimal (m : Nat) (e : Int) : (exactDecimal m e).value = m * 2 ^ e := by
  have hten : (10 : ℚ) ^ (-e).toNat = 5 ^ (-e).toNat * 2 ^ (-e).toNat := by
    rw [← mul_pow]
    norm_num
  rw [exactDecimal, Decimal.value, zpow_neg, zpow_natCast, hten, ← pow_toNat_div 2 e]
  push_cast
  field_simp

theorem denotes_exactDecimal (hm : m ≠ 0) : (exactDecimal m e).Denotes m e h := by
  have hne : (exactDecimal m e).digits ≠ 0 := by
    simp [exactDecimal, hm]
  have hfew : (exactDecimal m e).digits.log2 < 5000 := by
    obtain ⟨hsmall, hlow, hhigh, _⟩ := h
    have hfive : 5 ^ (-e).toNat ≤ 2 ^ (3 * (-e).toNat) := by
      rw [Nat.pow_mul]
      exact Nat.pow_le_pow_left (by decide) _
    rw [Nat.log2_lt hne]
    calc m * 2 ^ e.toNat * 5 ^ (-e).toNat
        ≤ m * 2 ^ e.toNat * 2 ^ (3 * (-e).toNat) := Nat.mul_le_mul_left _ hfive
      _ < 2 ^ 53 * 2 ^ e.toNat * 2 ^ (3 * (-e).toNat) := by gcongr
      _ = 2 ^ (53 + e.toNat + 3 * (-e).toNat) := by rw [Nat.pow_add, Nat.pow_add]
      _ ≤ 2 ^ 5000 := Nat.pow_le_pow_right (by decide) (by omega)
  exact ⟨hne, hfew, ofDecimal_exact ⟨hne, by omega⟩ h (value_exactDecimal m e) false⟩

theorem denotes_of_reads {d : Decimal} (hm : m ≠ 0)
    (hreads : ofDecimal false d.digits d.exponent = .finite false m e h)
    (hexponent : -400 ≤ d.exponent) : d.Denotes m e h := by
  have hne : d.digits ≠ 0 := by
    intro hzero
    rw [ofDecimal, if_pos hzero, zero] at hreads
    simp only [finite.injEq] at hreads
    exact hm hreads.2.1.symm
  have hle := Decimal.exponent_le_of_reads hne hreads
  exact ⟨hne, by omega, hreads⟩

/-- The digits of a double read back to it. -/
theorem denotes_shortest (hm : m ≠ 0) (tie : TieRule) : (shortest tie m e h).Denotes m e h := by
  rw [shortest, if_neg hm]
  dsimp only
  apply Decimal.Denotes.strip
  generalize hfound : List.findSome? _ _ = found
  cases found with
  | none => exact denotes_exactDecimal hm
  | some d =>
    obtain ⟨n, hn, hpick⟩ := List.exists_of_findSome?_eq_some hfound
    obtain ⟨hreads, hcandidate⟩ := pick_eq_some hpick
    have hexponent : d.exponent =
        digitsBeforePoint (scaled m e).1 (scaled m e).2 - ((n + 1 : Nat) : Int) := by
      rcases hcandidate with rfl | rfl <;> rfl
    refine denotes_of_reads hm (of_decide_eq_true hreads) (show -400 ≤ d.exponent from ?_)
    have hscale := le_digitsBeforePoint (scaled m e).1 (scaled m e).2
    have hden : (scaled m e).2.log2 = (-e).toNat := Nat.log2_two_pow
    have hleast := h.2.1
    rw [List.mem_range] at hn
    omega

end Found

/-! ## The characters -/

section Numerals

variable {run before after : List Char} {negative : Bool}

theorem valueOf_zeros_append (n : Nat) (run : List Char) : valueOf (zeros n ++ run) = valueOf run := by
  induction n with
  | zero => rfl
  | succ n ih => simpa [zeros, List.replicate_succ, valueOf, digitValue] using ih

theorem valueOf_append_zeros (run : List Char) (n : Nat) :
    valueOf (run ++ zeros n) = valueOf run * 10 ^ n := by
  induction n with
  | zero => simp [zeros]
  | succ n ih =>
    rw [zeros, List.replicate_succ', ← List.append_assoc, valueOf_append_singleton]
    rw [zeros] at ih
    rw [ih, Nat.pow_succ]
    simp only [digitValue]
    ring_nf
    rfl

/-- A run of digits is read as a whole number. -/
theorem magnitude?_run (hrun : ∀ c ∈ run, c.isDigit = true) (hne : run ≠ []) :
    magnitude? negative run = some (ofDecimal negative (valueOf run) 0) := by
  have htake := @takeWhile_run Char.isDigit run [] hrun (by simp)
  have hdrop := @dropWhile_run Char.isDigit run [] hrun (by simp)
  rw [List.append_nil] at htake hdrop
  simp [magnitude?, htake, hdrop, hne, exponentPart?]

/-- Digits on both sides of a point. -/
theorem magnitude?_point (hbefore : ∀ c ∈ before, c.isDigit = true)
    (hafter : ∀ c ∈ after, c.isDigit = true) (hne : before ≠ []) :
    magnitude? negative (before ++ '.' :: after) =
      some (ofDecimal negative (valueOf (before ++ after)) (-(after.length : Int))) := by
  have htake := @takeWhile_run Char.isDigit before ('.' :: after) hbefore (by simp)
  have hdrop := @dropWhile_run Char.isDigit before ('.' :: after) hbefore (by simp)
  have htake' := @takeWhile_run Char.isDigit after [] hafter (by simp)
  have hdrop' := @dropWhile_run Char.isDigit after [] hafter (by simp)
  rw [List.append_nil] at htake' hdrop'
  simp [magnitude?, htake, hdrop, htake', hdrop', hne, exponentPart?]

end Numerals

theorem moderate_shifted {n k : Nat} (h : n ≠ 0) (hfew : n.log2 < 5000) (hk : k ≤ 320) :
    Decimal.Moderate ⟨n * 10 ^ k, 0⟩ := by
  have hne : n * 10 ^ k ≠ 0 := Nat.mul_ne_zero h (by positivity)
  have hten : 10 ^ k ≤ 2 ^ (4 * k) := by
    rw [Nat.pow_mul]
    exact Nat.pow_le_pow_left (by decide) k
  refine ⟨hne, (Nat.log2_lt hne).mpr ?_⟩
  calc n * 10 ^ k ≤ n * 2 ^ (4 * k) := Nat.mul_le_mul_left _ hten
    _ < 2 ^ (n.log2 + 1) * 2 ^ (4 * k) :=
      Nat.mul_lt_mul_of_pos_right Nat.lt_log2_self (Nat.two_pow_pos _)
    _ = 2 ^ (n.log2 + 1 + 4 * k) := (Nat.pow_add ..).symm
    _ ≤ 2 ^ 100000 := Nat.pow_le_pow_right (by decide) (by omega)

/-- Setting a point leaves the number as it is. -/
theorem magnitude?_set {d : Decimal} (h : d.digits ≠ 0) (hfew : d.digits.log2 < 5000)
    (hexponent : d.exponent ≤ 320) (negative : Bool) :
    magnitude? negative (plainLayout.set d) = some (ofDecimal negative d.digits d.exponent) := by
  have hrun : ∀ c ∈ digits d.digits, c.isDigit = true := isDigit_of_mem_digits
  have hne := digits_ne_nil d.digits
  have hlength : 0 < (digits d.digits).length := List.length_pos_iff.mpr hne
  have hset : plainLayout.set d = setPositional false (digits d.digits)
    ((digits d.digits).length + d.exponent) := rfl
  rw [hset, setPositional]
  split
  · -- no digit stands behind the point
    rename_i hwhole
    obtain ⟨k, hk⟩ := Int.eq_ofNat_of_zero_le (show 0 ≤ d.exponent by omega)
    have hzeros : (((digits d.digits).length : Int) + d.exponent).toNat -
        (digits d.digits).length = k := by omega
    rw [hzeros, if_neg (by simp), List.append_nil, magnitude?_run, valueOf_append_zeros,
      valueOf_digits]
    · rw [ofDecimal_congr (moderate_shifted h hfew (by omega)) ⟨h, by omega⟩ ?_ negative]
      rw [Decimal.value, Decimal.value, hk, zpow_zero, mul_one, zpow_natCast]
      push_cast
      rfl
    · intro c hc
      exact (List.mem_append.mp hc).elim (hrun c) (isDigit_of_mem_zeros c)
    · simp [hne]
  · split
    · -- the point stands among the digits
      rename_i hinside
      obtain ⟨k, hk⟩ := Int.eq_ofNat_of_zero_le (Int.le_of_lt hinside)
      rw [hk, Int.toNat_natCast, List.append_assoc, List.singleton_append, magnitude?_point,
        List.take_append_drop, valueOf_digits, List.length_drop]
      · congr 2
        omega
      · exact fun c hc => hrun c (List.mem_of_mem_take hc)
      · exact fun c hc => hrun c (List.mem_of_mem_drop hc)
      · rw [Ne, List.take_eq_nil_iff, not_or]
        exact ⟨by omega, hne⟩
    · -- zeros stand behind the point
      rename_i hfront
      have hsplit : ∀ n, ['0', '.'] ++ zeros n ++ digits d.digits =
          ['0'] ++ '.' :: (zeros n ++ digits d.digits) := fun n => by simp
      have hafter : ∀ n, ∀ c ∈ zeros n ++ digits d.digits, c.isDigit = true := fun n c hc =>
        (List.mem_append.mp hc).elim (isDigit_of_mem_zeros c) (hrun c)
      have hvalue : ∀ n, valueOf (['0'] ++ (zeros n ++ digits d.digits)) = d.digits := by
        intro n
        rw [← List.append_assoc]
        exact (valueOf_zeros_append (n + 1) _).trans (valueOf_digits _)
      rw [hsplit, magnitude?_point (by simp) (hafter _) (by simp), hvalue, List.length_append,
        zeros, List.length_replicate]
      congr 2
      omega

/-- The first character of a numeral is a digit. -/
theorem exists_digit_setPositional {run : List Char} (hrun : ∀ c ∈ run, c.isDigit = true)
    (hne : run ≠ []) (keepsPoint : Bool) (point : Int) :
    ∃ c rest, setPositional keepsPoint run point = c :: rest ∧ c.isDigit = true := by
  obtain ⟨c, tail, rfl⟩ := List.exists_cons_of_ne_nil hne
  have hc := hrun c List.mem_cons_self
  unfold setPositional
  split
  · exact ⟨c, _, rfl, hc⟩
  · split
    · rename_i hinside
      obtain ⟨k, hk⟩ := Int.eq_succ_of_zero_lt hinside
      rw [hk]
      exact ⟨c, _, rfl, hc⟩
    · exact ⟨'0', _, rfl, rfl⟩

theorem toLower_of_isDigit {c : Char} (h : c.isDigit = true) : c.toLower = c := by
  rw [isDigit_iff] at h
  refine dif_neg fun hupper => ?_
  have hcapital : 65 ≤ c.toNat := UInt32.le_iff_toNat_le.mp hupper.1
  omega

/-- What starts with a digit is no word. -/
theorem ofChars?_digit {c : Char} (h : c.isDigit = true) (rest : List Char) (negative : Bool) :
    ofChars? ((if negative then ['-'] else []) ++ c :: rest) = magnitude? negative (c :: rest) := by
  have hsign : takeSign ((if negative then ['-'] else []) ++ c :: rest) =
      (negative, c :: rest) := by
    cases negative with
    | true => rfl
    | false =>
      have hplus : c ≠ '+' := by
        rintro rfl
        simp at h
      have hminus : c ≠ '-' := by
        rintro rfl
        simp at h
      unfold takeSign
      split <;> simp_all
  have hword : ∀ word : String, (word.toList.head?.any Char.isDigit) = false →
      (String.ofList (lower (c :: rest)) == word) = false := by
    intro word hletter
    rw [beq_eq_false_iff_ne]
    rintro rfl
    rw [String.toList_ofList] at hletter
    simp [lower, toLower_of_isDigit h, h] at hletter
  rw [ofChars?, hsign]
  dsimp only
  rw [hword "inf" (by decide), hword "infinity" (by decide), hword "nan" (by decide)]
  rfl

/-- The sign of a numeral is the sign of the double that is read. -/
theorem ofDecimal_negative {d : Decimal} (hd : d.Moderate) {m : Nat} {e : Int} {h : Canonical m e}
    (hreads : ofDecimal false d.digits d.exponent = .finite false m e h) (negative : Bool) :
    ofDecimal negative d.digits d.exponent = .finite negative m e h := by
  have hnum : d.digits * 10 ^ d.exponent.toNat ≠ 0 := Nat.mul_ne_zero hd.1 (by positivity)
  rw [ofDecimal_eq hd, ofQuotient_eq_assembled hnum rfl rfl] at hreads ⊢
  exact assembled_of_false hreads negative

/-- A finite double is read back from its text. -/
theorem ofText?_text {value : Binary64} (h : value.isFinite = true) :
    ofText? (value.text plainLayout) = some value := by
  cases value with
  | nan => cases h
  | infinite negative => cases h
  | finite negative m e hc =>
    by_cases hm : m = 0
    · subst hm
      obtain rfl : e = -1074 := hc.2.2.2.resolve_left (by decide)
      cases negative with
      | false => exact show ofText? ((zero false).text plainLayout) = some (zero false) by decide
      | true => exact show ofText? ((zero true).text plainLayout) = some (zero true) by decide
    · have hd := @denotes_shortest m e hc hm plainLayout.tie
      have hexponent := Decimal.exponent_le_of_reads hd.nonzero hd.reads
      obtain ⟨c, rest, hset, hdigit⟩ := exists_digit_setPositional
        (@isDigit_of_mem_digits (shortest plainLayout.tie m e hc).digits) (digits_ne_nil _) false
        ((digits (shortest plainLayout.tie m e hc).digits).length +
          (shortest plainLayout.tie m e hc).exponent)
      have hlayout : plainLayout.set (shortest plainLayout.tie m e hc) = c :: rest := hset
      rw [ofText?, text, String.toList_ofList, hlayout, ofChars?_digit hdigit, ← hlayout,
        magnitude?_set hd.nonzero hd.few (by omega), ofDecimal_negative hd.moderate hd.reads]

end SignalCatalog.Binary64
