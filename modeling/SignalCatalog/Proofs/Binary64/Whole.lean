import SignalCatalog.Binary64

/-!
# Whole numbers as doubles

Every natural number below 2^53 is a double, so that it is kept exactly and read back from it.
-/

namespace SignalCatalog.Binary64

theorem roundDiv_one (n : Nat) : roundDiv n 1 = n := by
  simp [roundDiv, Nat.mod_one]

/-- The significand of a natural number up to 53 bits, shifted to 53 bits. -/
theorem significand_bounds {n : Nat} (hpos : n ≠ 0) (h : n < 2 ^ 53) :
    2 ^ 52 ≤ n * 2 ^ (52 - n.log2) ∧ n * 2 ^ (52 - n.log2) < 2 ^ 53 := by
  have hlog : n.log2 ≤ 52 := by
    have := (Nat.log2_lt hpos).mpr h
    omega
  have hlow : 2 ^ n.log2 * 2 ^ (52 - n.log2) = 2 ^ 52 := by
    rw [← Nat.pow_add]
    congr 1
    omega
  have hhigh : 2 ^ (n.log2 + 1) * 2 ^ (52 - n.log2) = 2 ^ 53 := by
    rw [← Nat.pow_add]
    congr 1
    omega
  constructor
  · rw [← hlow]
    exact Nat.mul_le_mul_right _ (Nat.log2_self_le hpos)
  · rw [← hhigh]
    exact Nat.mul_lt_mul_of_pos_right ((Nat.log2_lt hpos).mp (by omega)) (Nat.two_pow_pos _)

theorem exponentOf_one {n : Nat} (hpos : n ≠ 0) (h : n < 2 ^ 53) :
    exponentOf n 1 = -((52 - n.log2 : Nat) : Int) := by
  have hlog : n.log2 ≤ 52 := by
    have := (Nat.log2_lt hpos).mpr h
    omega
  have hk : (n.log2 : Int) - (Nat.log2 1 : Nat) - 52 = -((52 - n.log2 : Nat) : Int) := by
    have h1 : Nat.log2 1 = 0 := by decide
    omega
  have hbounds := (significand_bounds hpos h).1
  simp only [exponentOf, hk, Int.neg_neg, Int.toNat_natCast, Int.toNat_neg_natCast,
    Nat.pow_zero, Nat.mul_one, Nat.one_mul, if_neg (Nat.not_lt.mpr hbounds)]
  omega

theorem value?_finite_zero (negative : Bool) (e : Int) (h : Canonical 0 e) :
    (finite negative 0 e h).value? = some 0 := by
  cases negative <;> simp [value?, scaled]

theorem value?_zero (negative : Bool) : (zero negative).value? = some 0 :=
  value?_finite_zero negative (-1074) (by decide)

theorem canonical_ofNat {n : Nat} (hpos : n ≠ 0) (h : n < 2 ^ 53) :
    Canonical (n * 2 ^ (52 - n.log2)) (-((52 - n.log2 : Nat) : Int)) := by
  obtain ⟨hlow, hhigh⟩ := significand_bounds hpos h
  exact ⟨hhigh, by omega, by omega, Or.inl hlow⟩

/-- What a quotient rounds to, if no rounding is needed. -/
theorem ofQuotient_eq {num den m : Nat} {e : Int} (hnum : num ≠ 0)
    (he : exponentOf num den = e)
    (hm : roundDiv (num * 2 ^ (-e).toNat) (den * 2 ^ e.toNat) = m)
    (hcanonical : Canonical m e) (negative : Bool) :
    ofQuotient negative num den = .finite negative m e hcanonical := by
  rw [ofQuotient, if_neg hnum, he]
  dsimp only
  rw [hm, if_neg (Nat.ne_of_lt hcanonical.1)]
  dsimp only
  rw [dif_pos hcanonical]

theorem ofNat_eq {n : Nat} (hpos : n ≠ 0) (h : n < 2 ^ 53) :
    ofNat n = .finite false _ _ (canonical_ofNat hpos h) := by
  apply ofQuotient_eq hpos (exponentOf_one hpos h)
  rw [Int.neg_neg, Int.toNat_natCast, Int.toNat_neg_natCast, Nat.pow_zero, Nat.mul_one,
    roundDiv_one]

/-- A natural number below 2^53 as a double has the value of the number. -/
theorem value?_ofNat {n : Nat} (h : n < 2 ^ 53) : (ofNat n).value? = some (n : Rat) := by
  by_cases hpos : n = 0
  · have hzero : ofNat n = zero false := by simp [ofNat, ofQuotient, hpos]
    rw [hzero, value?_zero, hpos]
    rfl
  · have hscale := @Rat.mkRat_mul_right n 1 (2 ^ (52 - n.log2)) (Nat.ne_of_gt (Nat.two_pow_pos _))
    rw [Nat.one_mul, ← Int.natCast_mul] at hscale
    simp only [ofNat_eq hpos h, value?, scaled, Int.neg_neg, Int.toNat_natCast,
      Int.toNat_neg_natCast, Nat.pow_zero, Nat.mul_one, Bool.false_eq_true, if_false,
      Option.some.injEq]
    rw [hscale, Rat.mkRat_one]
    rfl

theorem ofInt_natCast (n : Nat) : ofInt (n : Int) = ofNat n := by
  have hneg : decide ((n : Int) < 0) = false := by simp
  rw [ofInt, ofNat, hneg, Int.natAbs_natCast]

theorem whole?_ofNat {n : Nat} (h : n < 2 ^ 53) : (ofNat n).whole? = some (n : Int) := by
  simp [whole?, value?_ofNat h]

theorem sameNumber_ofNat {n : Nat} (h : n < 2 ^ 53) : (ofNat n).sameNumber (ofNat n) = true := by
  unfold sameNumber
  split
  · rename_i he _
    have := value?_ofNat h
    simp [he, value?] at this
  · simp [value?_ofNat h]

end SignalCatalog.Binary64
