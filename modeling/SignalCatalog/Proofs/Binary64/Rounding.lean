import Mathlib.Data.Int.Log
import Mathlib.Data.Rat.Floor
import Mathlib.Tactic.Positivity
import Mathlib.Tactic.FieldSimp
import SignalCatalog.Proofs.Binary64.Whole

/-!
# Rounding a quotient

What a quotient rounds to depends on its value alone: the exponent is read off its binary logarithm,
and the significand is the nearest integer to the quotient at that exponent. A double is rounded to
itself; quotients beyond the range of the doubles become infinite or zero.
-/

namespace SignalCatalog.Binary64

/-- A power as a quotient of two natural powers. -/
theorem pow_toNat_div (base : ℚ) (e : Int) :
    base ^ e.toNat / base ^ (-e).toNat = base ^ e := by
  rcases Int.le_total 0 e with he | he
  · obtain ⟨n, rfl⟩ := Int.eq_ofNat_of_zero_le he
    simp
  · obtain ⟨n, hn⟩ := Int.eq_ofNat_of_zero_le (show 0 ≤ -e by omega)
    obtain rfl : e = -(n : Int) := by omega
    simp

section Quotients

variable {num den : Nat}

theorem quotient_pos (hnum : num ≠ 0) (hden : den ≠ 0) : (0 : ℚ) < num / den := by
  have := Nat.pos_of_ne_zero hnum
  have := Nat.pos_of_ne_zero hden
  positivity

/-- A comparison of products as one of the quotient with a power of two. -/
theorem scaled_lt_iff (hden : den ≠ 0) (e : Int) (bound : Nat) :
    num * 2 ^ (-e).toNat < den * 2 ^ e.toNat * bound ↔ (num / den : ℚ) < bound * 2 ^ e := by
  have hpos : (0 : ℚ) < den := by exact_mod_cast Nat.pos_of_ne_zero hden
  have hscale : (0 : ℚ) < 2 ^ (-e).toNat := by positivity
  rw [← pow_toNat_div 2 e, ← mul_div_assoc, div_lt_div_iff₀ hpos hscale,
    ← Nat.cast_lt (α := ℚ)]
  push_cast
  rw [show (den : ℚ) * 2 ^ e.toNat * bound = bound * 2 ^ e.toNat * den by ring]

/-- The binary logarithm of a quotient is the difference of those of its parts, or one less. -/
theorem log_quotient (hnum : num ≠ 0) (hden : den ≠ 0) :
    (num.log2 : Int) - den.log2 - 1 ≤ Int.log 2 (num / den : ℚ) ∧
      Int.log 2 (num / den : ℚ) ≤ (num.log2 : Int) - den.log2 := by
  have hpos := quotient_pos hnum hden
  have hden' : (0 : ℚ) < den := by exact_mod_cast Nat.pos_of_ne_zero hden
  have hnumLow : (2 : ℚ) ^ num.log2 ≤ num := by exact_mod_cast Nat.log2_self_le hnum
  have hnumHigh : (num : ℚ) < 2 ^ (num.log2 + 1) := by exact_mod_cast Nat.lt_log2_self
  have hdenLow : (2 : ℚ) ^ den.log2 ≤ den := by exact_mod_cast Nat.log2_self_le hden
  have hdenHigh : (den : ℚ) < 2 ^ (den.log2 + 1) := by exact_mod_cast Nat.lt_log2_self
  constructor
  · rw [← Int.zpow_le_iff_le_log (by norm_num) hpos]
    calc ((2 : ℕ) : ℚ) ^ ((num.log2 : Int) - den.log2 - 1)
        = 2 ^ num.log2 / 2 ^ (den.log2 + 1) := by
          rw [Nat.cast_ofNat, Int.sub_sub, zpow_sub₀ two_ne_zero, zpow_natCast,
            ← Nat.cast_add_one, zpow_natCast]
      _ ≤ num / den := div_le_div₀ (by positivity) hnumLow hden' hdenHigh.le
  · rw [← Int.lt_add_one_iff, ← Int.lt_zpow_iff_log_lt (by norm_num) hpos]
    calc (num / den : ℚ) < 2 ^ (num.log2 + 1) / 2 ^ den.log2 :=
          div_lt_div₀ hnumHigh hdenLow (by positivity) (by positivity)
      _ = ((2 : ℕ) : ℚ) ^ ((num.log2 : Int) - den.log2 + 1) := by
          rw [Nat.cast_ofNat, sub_add_eq_add_sub, zpow_sub₀ two_ne_zero, ← Nat.cast_add_one,
            zpow_natCast, zpow_natCast]

/-- The exponent of a quotient by its binary logarithm. -/
theorem exponentOf_eq (hnum : num ≠ 0) (hden : den ≠ 0) :
    exponentOf num den = max (Int.log 2 (num / den : ℚ) - 52) (-1074) := by
  obtain ⟨hlow, hhigh⟩ := log_quotient hnum hden
  have htest := @scaled_lt_iff num den hden ((num.log2 : Int) - den.log2 - 52) (2 ^ 52)
  have hpow : ((2 ^ 52 : Nat) : ℚ) * 2 ^ ((num.log2 : Int) - den.log2 - 52) =
      (2 : ℕ) ^ ((num.log2 : Int) - den.log2) := by
    rw [zpow_sub₀ two_ne_zero _ 52, Nat.cast_pow, Nat.cast_ofNat]
    norm_num
    ring
  rw [hpow, Int.lt_zpow_iff_log_lt (by norm_num) (quotient_pos hnum hden)] at htest
  unfold exponentOf
  simp only [htest]
  split <;> omega

end Quotients

theorem roundDiv_mul {scale : Nat} (h : scale ≠ 0) (num den : Nat) :
    roundDiv (scale * num) (scale * den) = roundDiv num den := by
  have hpos := Nat.pos_of_ne_zero h
  have hlow : 2 * (scale * (num % den)) < scale * den ↔ 2 * (num % den) < den := by
    rw [Nat.mul_left_comm, Nat.mul_lt_mul_left hpos]
  have hhigh : scale * den < 2 * (scale * (num % den)) ↔ den < 2 * (num % den) := by
    rw [Nat.mul_left_comm, Nat.mul_lt_mul_left hpos]
  simp only [roundDiv, Nat.mul_div_mul_left _ _ hpos, Nat.mul_mod_mul_left, hlow, hhigh]

/-- Equal quotients are rounded alike. -/
theorem roundDiv_congr {num den num' den' : Nat} (hden : den ≠ 0) (hden' : den' ≠ 0)
    (h : num * den' = num' * den) : roundDiv num den = roundDiv num' den' := by
  rw [← roundDiv_mul hden' num den, ← roundDiv_mul hden num' den', Nat.mul_comm den' num, h,
    Nat.mul_comm num' den, Nat.mul_comm den' den]

theorem roundDiv_exact {den : Nat} (h : den ≠ 0) (n : Nat) : roundDiv (n * den) den = n := by
  have hone := roundDiv_mul h n 1
  rwa [Nat.mul_one, Nat.mul_comm den n, roundDiv_one] at hone

theorem roundDiv_of_lt {num den : Nat} (h : 2 * num < den) : roundDiv num den = 0 := by
  have hlt : num < den := by omega
  simp [roundDiv, Nat.div_eq_of_lt hlt, Nat.mod_eq_of_lt hlt, h]

section Rounding

variable {num den num' den' : Nat}

/-- The double of a rounded significand, which may have become too long, and an exponent. -/
def assembled (negative : Bool) (m : Nat) (e : Int) : Binary64 :=
  let (m, e) := if m = 2 ^ 53 then (2 ^ 52, e + 1) else (m, e)
  if h : Canonical m e then .finite negative m e h else .infinite negative

theorem ofQuotient_eq_assembled {m : Nat} {e : Int} (hnum : num ≠ 0)
    (he : exponentOf num den = e) (hm : roundDiv (num * 2 ^ (-e).toNat) (den * 2 ^ e.toNat) = m)
    (negative : Bool) : ofQuotient negative num den = assembled negative m e := by
  rw [ofQuotient, if_neg hnum, he, assembled]
  dsimp only
  rw [hm]

/-- Equal quotients give the same double. -/
theorem ofQuotient_congr (hnum : num ≠ 0) (hden : den ≠ 0) (hnum' : num' ≠ 0) (hden' : den' ≠ 0)
    (h : (num / den : ℚ) = num' / den') (negative : Bool) :
    ofQuotient negative num den = ofQuotient negative num' den' := by
  have hcross : num * den' = num' * den := by
    rw [div_eq_div_iff (by exact_mod_cast hden) (by exact_mod_cast hden')] at h
    exact_mod_cast h
  have hexponent : exponentOf num den = exponentOf num' den' := by
    rw [exponentOf_eq hnum hden, exponentOf_eq hnum' hden', h]
  rw [ofQuotient_eq_assembled hnum hexponent rfl, ofQuotient_eq_assembled hnum' rfl rfl]
  congr 1
  have hpow : ∀ n : Nat, 2 ^ n ≠ 0 := fun n => Nat.ne_of_gt (Nat.two_pow_pos n)
  refine roundDiv_congr (Nat.mul_ne_zero hden (hpow _)) (Nat.mul_ne_zero hden' (hpow _)) ?_
  rw [Nat.mul_mul_mul_comm, hcross, Nat.mul_mul_mul_comm]

/-- A double is rounded to itself. -/
theorem ofQuotient_exact (hnum : num ≠ 0) (hden : den ≠ 0) {m : Nat} {e : Int}
    (h : Canonical m e) (hvalue : (num / den : ℚ) = m * 2 ^ e) (negative : Bool) :
    ofQuotient negative num den = .finite negative m e h := by
  have hpos := quotient_pos hnum hden
  have hpow : (0 : ℚ) < 2 ^ e := zpow_pos two_pos e
  apply ofQuotient_eq hnum
  · obtain ⟨hsmall, hlow, _, hnormal⟩ := h
    have hhigh : Int.log 2 (num / den : ℚ) < 53 + e := by
      rw [← Int.lt_zpow_iff_log_lt (by norm_num) hpos, hvalue, Nat.cast_ofNat,
        zpow_add₀ two_ne_zero]
      exact mul_lt_mul_of_pos_right (by exact_mod_cast hsmall) hpow
    have hlog : 2 ^ 52 ≤ m → 52 + e ≤ Int.log 2 (num / den : ℚ) := by
      intro hlong
      rw [← Int.zpow_le_iff_le_log (by norm_num) hpos, hvalue, Nat.cast_ofNat,
        zpow_add₀ two_ne_zero]
      exact mul_le_mul_of_nonneg_right (by exact_mod_cast hlong) hpow.le
    rw [exponentOf_eq hnum hden]
    rcases hnormal with hlong | hleast
    · have := hlog hlong
      omega
    · omega
  · have hscaled : num * 2 ^ (-e).toNat = m * (den * 2 ^ e.toNat) := by
      have hden' : (den : ℚ) ≠ 0 := by exact_mod_cast hden
      rw [← pow_toNat_div 2 e, ← mul_div_assoc, div_eq_div_iff hden' (by positivity)] at hvalue
      rw [Nat.mul_comm den, ← Nat.mul_assoc]
      exact_mod_cast hvalue
    rw [hscaled]
    exact roundDiv_exact (by positivity) m

/-- The sign plays no part in rounding. -/
theorem assembled_of_false {m m' : Nat} {e e' : Int} {h : Canonical m' e'}
    (hfinite : assembled false m e = .finite false m' e' h) (negative : Bool) :
    assembled negative m e = .finite negative m' e' h := by
  have hcases : ∀ n k, (if hc : Canonical n k then finite false n k hc else .infinite false) =
      .finite false m' e' h → (if hc : Canonical n k then finite negative n k hc
        else .infinite negative) = .finite negative m' e' h := by
    intro n k hfound
    split at hfound
    · rename_i hc
      simp only [finite.injEq, true_and] at hfound
      obtain ⟨rfl, rfl⟩ := hfound
      rw [dif_pos hc]
    · cases hfound
  rw [assembled] at hfinite ⊢
  exact hcases _ _ hfinite

theorem assembled_of_lt {m : Nat} {e : Int} (h : 971 < e) (negative : Bool) :
    assembled negative m e = .infinite negative := by
  rw [assembled]
  by_cases hlong : m = 2 ^ 53
  · rw [if_pos hlong]
    exact dif_neg fun hc => by have := hc.2.2.1; omega
  · rw [if_neg hlong]
    exact dif_neg fun hc => by have := hc.2.2.1; omega

/-- What is too large becomes infinite. -/
theorem ofQuotient_of_le (hnum : num ≠ 0) (hden : den ≠ 0) (h : (2 : ℚ) ^ (1024 : Int) ≤ num / den)
    (negative : Bool) : ofQuotient negative num den = .infinite negative := by
  rw [ofQuotient_eq_assembled hnum (exponentOf_eq hnum hden) rfl]
  apply assembled_of_lt
  have hlog : 1024 ≤ Int.log 2 (num / den : ℚ) := by
    rw [← Int.zpow_le_iff_le_log (by norm_num) (quotient_pos hnum hden), Nat.cast_ofNat]
    exact h
  omega

/-- What is too small becomes zero. -/
theorem ofQuotient_of_lt (hnum : num ≠ 0) (hden : den ≠ 0)
    (h : (num / den : ℚ) < 2 ^ (-1075 : Int)) (negative : Bool) :
    ofQuotient negative num den = zero negative := by
  have hlog : Int.log 2 (num / den : ℚ) < -1075 := by
    rw [← Int.lt_zpow_iff_log_lt (by norm_num) (quotient_pos hnum hden), Nat.cast_ofNat]
    exact h
  have he : exponentOf num den = -1074 := by
    rw [exponentOf_eq hnum hden]
    omega
  have hm : roundDiv (num * 2 ^ (-(-1074 : Int)).toNat) (den * 2 ^ (-1074 : Int).toNat) = 0 := by
    have hscaled := (@scaled_lt_iff num den hden (-1075) 1).mpr (by simpa using h)
    have hpow : ∀ n : Nat, num * 2 ^ (n + 1) = 2 * (num * 2 ^ n) := fun n => by ring
    have hshift : (-(-1075 : Int)).toNat = (-(-1074 : Int)).toNat + 1 := rfl
    rw [hshift, hpow, Nat.mul_one] at hscaled
    exact roundDiv_of_lt hscaled
  rw [ofQuotient_eq_assembled hnum he hm]
  rfl

end Rounding

section Whole

theorem value?_finite (negative : Bool) {m : Nat} {e : Int} (h : Canonical m e) :
    (finite negative m e h).value? = some (if negative then -(m * 2 ^ e : ℚ) else m * 2 ^ e) := by
  have hpow : (2 : ℚ) ^ e = 2 ^ e.toNat / 2 ^ (-e).toNat := (pow_toNat_div 2 e).symm
  cases negative <;> simp [value?, scaled, Rat.mkRat_eq_div, hpow] <;> ring

/-- What is assembled is infinite, or finite at an exponent that is not below the given one. -/
theorem assembled_cases (negative : Bool) (m : Nat) (e : Int) :
    assembled negative m e = .infinite negative ∨
      ∃ m' e' h, assembled negative m e = .finite negative m' e' h ∧ e ≤ e' := by
  rw [assembled]
  by_cases hlong : m = 2 ^ 53
  · rw [if_pos hlong]
    by_cases h : Canonical (2 ^ 52) (e + 1)
    · exact Or.inr ⟨_, _, h, dif_pos h, by omega⟩
    · exact Or.inl (dif_neg h)
  · rw [if_neg hlong]
    by_cases h : Canonical m e
    · exact Or.inr ⟨_, _, h, dif_pos h, Int.le_refl e⟩
    · exact Or.inl (dif_neg h)

/-- A whole number is rounded to infinity or to a significand of 53 bits, at an exponent that its
binary logarithm tells. -/
theorem ofQuotient_one_cases {n : Nat} (hn : n ≠ 0) (negative : Bool) :
    ofQuotient negative n 1 = .infinite negative ∨
      ∃ m e h, ofQuotient negative n 1 = .finite negative m e h ∧ 2 ^ 52 ≤ m ∧
        (n.log2 : Int) - 53 ≤ e := by
  obtain ⟨hlow, _⟩ := log_quotient hn one_ne_zero
  have hexponent := exponentOf_eq hn one_ne_zero
  have hlog : Nat.log2 1 = 0 := by decide
  rw [ofQuotient_eq_assembled hn rfl rfl]
  rcases assembled_cases negative (roundDiv (n * 2 ^ (-exponentOf n 1).toNat)
    (1 * 2 ^ (exponentOf n 1).toNat)) (exponentOf n 1) with hinfinite | ⟨m, e, h, hfinite, he⟩
  · exact Or.inl hinfinite
  · refine Or.inr ⟨m, e, h, hfinite, ?_, by omega⟩
    rcases h.2.2.2 with hm | hleast
    · exact hm
    · omega

/-- From 2^53 on, a whole number is rounded to a number that is not below 2^52. -/
theorem le_value_of_le {n : Nat} (hn : 2 ^ 53 ≤ n) {value : ℚ}
    (hvalue : (ofNat n).value? = some value) : (2 ^ 52 : ℚ) ≤ value := by
  have hpos : n ≠ 0 := Nat.ne_of_gt (Nat.lt_of_lt_of_le (Nat.two_pow_pos 53) hn)
  have hlog : 53 ≤ n.log2 := (Nat.le_log2 hpos).mpr hn
  rw [ofNat] at hvalue
  rcases ofQuotient_one_cases hpos false with hinfinite | ⟨m, e, h, hfinite, hbits, he⟩
  · rw [hinfinite] at hvalue
    cases hvalue
  · rw [hfinite, value?_finite, Option.some.injEq, if_neg Bool.false_ne_true] at hvalue
    have hone : (1 : ℚ) ≤ 2 ^ e := one_le_zpow₀ one_le_two (by omega)
    calc (2 ^ 52 : ℚ) ≤ m := by exact_mod_cast hbits
      _ ≤ m * 2 ^ e := le_mul_of_one_le_right (Nat.cast_nonneg m) hone
      _ = value := hvalue

/-- A negative whole number is not rounded to zero. -/
theorem value_neg_of_neg {n : Nat} (hn : n ≠ 0) {value : ℚ}
    (hvalue : (ofQuotient true n 1).value? = some value) : value < 0 := by
  rcases ofQuotient_one_cases hn true with hinfinite | ⟨m, e, h, hfinite, hbits, _⟩
  · rw [hinfinite] at hvalue
    cases hvalue
  · rw [hfinite, value?_finite, Option.some.injEq, if_pos rfl] at hvalue
    have hm : (0 : ℚ) < m := by
      exact_mod_cast Nat.lt_of_lt_of_le (Nat.two_pow_pos 52) hbits
    have hpositive : (0 : ℚ) < m * 2 ^ e := mul_pos hm (zpow_pos two_pos e)
    rw [← hvalue]
    exact neg_lt_zero.mpr hpositive

/-- The double of a whole number equals a small natural number only if the whole number does. -/
theorem value?_ofInt_eq_some_iff {n : Int} {m : Nat} (hm : m < 2 ^ 52) :
    (ofInt n).value? = some (m : ℚ) ↔ n = m := by
  constructor
  · intro hvalue
    cases n with
    | ofNat k =>
      rw [Int.ofNat_eq_natCast, ofInt_natCast] at hvalue
      by_cases hk : k < 2 ^ 53
      · rw [value?_ofNat hk, Option.some.injEq] at hvalue
        exact congrArg Nat.cast (Nat.cast_injective hvalue)
      · have hlarge := le_value_of_le (Nat.not_lt.mp hk) hvalue
        have hsmall : (m : ℚ) < 2 ^ 52 := by exact_mod_cast hm
        exact absurd hlarge hsmall.not_ge
    | negSucc k =>
      have hsign : decide (Int.negSucc k < 0) = true := decide_eq_true (Int.negSucc_lt_zero k)
      rw [ofInt, hsign, Int.natAbs_negSucc] at hvalue
      have hnegative := value_neg_of_neg (Nat.succ_ne_zero k) hvalue
      exact absurd (Nat.cast_nonneg m) hnegative.not_ge
  · rintro rfl
    rw [ofInt_natCast, value?_ofNat (Nat.lt_trans hm (by decide))]

end Whole

end SignalCatalog.Binary64
