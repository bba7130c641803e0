import SignalCatalog.Binary64.Shortest
import SignalCatalog.Proofs.Binary64.Rounding

/-!
# Decimals as doubles

A decimal whose magnitude is out of question is settled without rounding. The estimate of the
magnitude from the binary logarithm is off by less than the margins, so that every decimal is rounded
as the number that it stands for: decimals of one number give one double, however many zeros they
have at the end.
-/

namespace SignalCatalog.Binary64

/-- The number that a decimal stands for. -/
def Decimal.value (d : Decimal) : ℚ := d.digits * 10 ^ d.exponent

/-- One comparison of two powers gives those of the same proportion. -/
theorem pow_le_pow_of_ratio {p q a b n k : Nat} (h : p ^ a ≤ q ^ b) (ha : a ≠ 0) (hq : 0 < q)
    (hratio : n * b ≤ k * a) : p ^ n ≤ q ^ k := by
  rw [← Nat.pow_le_pow_iff_left ha]
  calc (p ^ n) ^ a = (p ^ a) ^ n := by rw [← Nat.pow_mul, ← Nat.pow_mul, Nat.mul_comm]
    _ ≤ (q ^ b) ^ n := Nat.pow_le_pow_left h n
    _ = q ^ (n * b) := by rw [← Nat.pow_mul, Nat.mul_comm]
    _ ≤ q ^ (k * a) := Nat.pow_le_pow_right hq hratio
    _ = (q ^ k) ^ a := Nat.pow_mul q k a

theorem two_pow_le_ten_pow {n k : Nat} (h : n * 30103 ≤ k * 100000) : 2 ^ n ≤ 10 ^ k :=
  have hten : 2 ^ 100000 ≤ 10 ^ 30103 := by decide +kernel
  pow_le_pow_of_ratio hten (by decide) (by decide) h

theorem two_zpow_le_ten_zpow {n k : Nat} (h : n * 30103 ≤ k * 100000) :
    (2 : ℚ) ^ (n : Int) ≤ 10 ^ (k : Int) := by
  rw [zpow_natCast, zpow_natCast]
  exact_mod_cast two_pow_le_ten_pow h

theorem ten_pow_le_two_pow {n k : Nat} (h : k * 100000 ≤ n * 30103) (hn : n ≤ 100000) :
    10 ^ k ≤ 2 ^ (n + 1) := by
  have hk : k ≤ 30103 := by omega
  have hratio : k * 100001 ≤ (n + 1) * 30103 := by
    rw [Nat.mul_succ, Nat.succ_mul]
    exact Nat.add_le_add h hk
  have hten : 10 ^ 30103 ≤ 2 ^ 100001 := by decide +kernel
  exact pow_le_pow_of_ratio hten (by decide) (by decide) hratio

theorem quotient_decimal (digits : Nat) (exponent : Int) :
    ((digits * 10 ^ exponent.toNat : Nat) / (10 ^ (-exponent).toNat : Nat) : ℚ) =
      (Decimal.mk digits exponent).value := by
  rw [Decimal.value, ← pow_toNat_div 10 exponent, ← mul_div_assoc]
  push_cast
  rfl

/-- A decimal of so few digits that its magnitude is estimated well. -/
def Decimal.Moderate (d : Decimal) : Prop := d.digits ≠ 0 ∧ d.digits.log2 < 100000

/-- A decimal is rounded as the number that it stands for. -/
theorem ofDecimal_eq {d : Decimal} (h : d.Moderate) (negative : Bool) :
    ofDecimal negative d.digits d.exponent =
      ofQuotient negative (d.digits * 10 ^ d.exponent.toNat) (10 ^ (-d.exponent).toNat) := by
  obtain ⟨hne, hfew⟩ := h
  have hnum : d.digits * 10 ^ d.exponent.toNat ≠ 0 := by positivity
  have hden : 10 ^ (-d.exponent).toNat ≠ 0 := by positivity
  obtain ⟨k, hk⟩ : ∃ k : Nat, d.digits.log2 * 30103 / 100000 = k := ⟨_, rfl⟩
  have hestimate : (d.digits.log2 : Int) * 30103 / 100000 = k := by omega
  have hlow : (10 : ℚ) ^ k ≤ 2 * d.digits := by
    have hten := @ten_pow_le_two_pow d.digits.log2 k (by omega) (by omega)
    have htwo := Nat.log2_self_le hne
    have : 10 ^ k ≤ 2 * d.digits := by
      rw [Nat.pow_succ] at hten
      omega
    exact_mod_cast this
  have hhigh : (d.digits : ℚ) < 10 ^ (k + 2) := by
    have hten := @two_pow_le_ten_pow (d.digits.log2 + 1) (k + 2) (by omega)
    exact_mod_cast Nat.lt_of_lt_of_le Nat.lt_log2_self hten
  rw [ofDecimal, if_neg hne, hestimate]
  dsimp only
  split
  · rename_i hlarge
    refine (ofQuotient_of_le hnum hden ?_ negative).symm
    rw [quotient_decimal, Decimal.value]
    have hrange : (2 : ℚ) ^ (1024 : Int) ≤ 10 ^ (309 : Int) :=
      @two_zpow_le_ten_zpow 1024 309 (by decide)
    have hpower : (0 : ℚ) < 10 ^ d.exponent := zpow_pos (by norm_num) _
    have htwice : 2 * (2 : ℚ) ^ (1024 : Int) ≤ 2 * (d.digits * 10 ^ d.exponent) :=
      calc 2 * (2 : ℚ) ^ (1024 : Int) ≤ 10 * 10 ^ (309 : Int) :=
          mul_le_mul (by norm_num) hrange (zpow_pos two_pos _).le (by norm_num)
        _ = 10 ^ (310 : Int) := (zpow_one_add₀ (by norm_num) 309).symm
        _ ≤ 10 ^ (k + d.exponent) := zpow_le_zpow_right₀ (by norm_num) (by omega)
        _ = 10 ^ k * 10 ^ d.exponent := by rw [zpow_add₀ (by norm_num), zpow_natCast]
        _ ≤ 2 * d.digits * 10 ^ d.exponent := mul_le_mul_of_nonneg_right hlow hpower.le
        _ = 2 * (d.digits * 10 ^ d.exponent) := mul_assoc _ _ _
    exact le_of_mul_le_mul_left htwice two_pos
  · split
    · rename_i hsmall
      refine (ofQuotient_of_lt hnum hden ?_ negative).symm
      rw [quotient_decimal, Decimal.value]
      have hrange : (2 : ℚ) ^ (1075 : Int) ≤ 10 ^ (339 : Int) :=
        @two_zpow_le_ten_zpow 1075 339 (by decide)
      calc d.digits * (10 : ℚ) ^ d.exponent < 10 ^ (k + 2) * 10 ^ d.exponent :=
            mul_lt_mul_of_pos_right hhigh (zpow_pos (by norm_num) _)
        _ = 10 ^ ((k + 2 : Nat) + d.exponent) := by rw [zpow_add₀ (by norm_num), zpow_natCast]
        _ ≤ 10 ^ (-339 : Int) := zpow_le_zpow_right₀ (by norm_num) (by omega)
        _ ≤ 2 ^ (-1075 : Int) := by
          rw [zpow_neg, zpow_neg]
          exact inv_anti₀ (zpow_pos two_pos _) hrange
    · rfl

/-- Decimals of one number give one double. -/
theorem ofDecimal_congr {d d' : Decimal} (h : d.Moderate) (h' : d'.Moderate)
    (hvalue : d.value = d'.value) (negative : Bool) :
    ofDecimal negative d.digits d.exponent = ofDecimal negative d'.digits d'.exponent := by
  rw [ofDecimal_eq h, ofDecimal_eq h']
  refine ofQuotient_congr ?_ ?_ ?_ ?_ ?_ negative
  · exact Nat.mul_ne_zero h.1 (by positivity)
  · positivity
  · exact Nat.mul_ne_zero h'.1 (by positivity)
  · positivity
  · rw [quotient_decimal, quotient_decimal, hvalue]

/-- A decimal of a double is read as the double. -/
theorem ofDecimal_exact {d : Decimal} (h : d.Moderate) {m : Nat} {e : Int} (hc : Canonical m e)
    (hvalue : d.value = m * 2 ^ e) (negative : Bool) :
    ofDecimal negative d.digits d.exponent = .finite negative m e hc := by
  rw [ofDecimal_eq h]
  refine ofQuotient_exact (Nat.mul_ne_zero h.1 (by positivity)) (by positivity) hc ?_ negative
  rw [quotient_decimal, hvalue]

end SignalCatalog.Binary64
