import SignalCatalog.Proofs.Binary64.Whole
import SignalCatalog.Signal.Range

/-!
# Numbers of a range

The numbers that a range contains are those that it leaves as they are, and it brings every other one,
also what is no finite number, to one of them.
-/

namespace SignalCatalog.FieldRange

/-- The number is a whole number of steps above the least one, and not above the greatest. -/
def OnStep (range : FieldRange) (value : UInt32) : Prop :=
  value.toNat ≤ range.max.toNat ∧ ∃ k, value.toNat = range.min.toNat + k * range.step.toNat

/-- Whole steps, at least one unit each, lead from the least number to the greatest. -/
structure Regular (range : FieldRange) : Prop where
  one_le_step : 1 ≤ range.step
  min_le_max : range.min ≤ range.max
  step_dvd : range.step.toNat ∣ range.max.toNat - range.min.toNat

theorem contains_iff (range : FieldRange) (value : UInt32) :
    range.contains value = true ↔ range.OnStep value := by
  simp only [contains, OnStep, Bool.and_eq_true, decide_eq_true_eq, beq_iff_eq]
  constructor
  · rintro ⟨⟨hmin, hmax⟩, hstep⟩
    have hmod : (value.toNat - range.min.toNat) % range.step.toNat = 0 := by
      rw [← UInt32.toNat_sub_of_le _ _ hmin, ← UInt32.toNat_mod, hstep, UInt32.toNat_zero]
    obtain ⟨k, hk⟩ := Nat.dvd_of_mod_eq_zero hmod
    have hle := UInt32.le_iff_toNat_le.mp hmin
    exact ⟨UInt32.le_iff_toNat_le.mp hmax, k, by rw [Nat.mul_comm]; omega⟩
  · rintro ⟨hmax, k, hk⟩
    have hmin : range.min ≤ value := UInt32.le_iff_toNat_le.mpr (by omega)
    refine ⟨⟨hmin, UInt32.le_iff_toNat_le.mpr hmax⟩, UInt32.toNat_inj.mp ?_⟩
    rw [UInt32.toNat_mod, UInt32.toNat_sub_of_le _ _ hmin, hk, Nat.add_sub_cancel_left,
      Nat.mul_mod_left, UInt32.toNat_zero]

variable {range : FieldRange}

/-- A range is regular exactly if its steps are at least one and its greatest number is in it. -/
theorem regular_iff : range.Regular ↔ 1 ≤ range.step ∧ range.contains range.max = true := by
  rw [contains_iff]
  constructor
  · rintro ⟨hstep, hle, k, hk⟩
    rw [UInt32.le_iff_toNat_le] at hle
    exact ⟨hstep, Nat.le_refl _, k, by rw [Nat.mul_comm]; omega⟩
  · rintro ⟨hstep, _, k, hk⟩
    refine ⟨hstep, UInt32.le_iff_toNat_le.mpr (by omega), k, ?_⟩
    rw [Nat.mul_comm]
    omega

theorem regular_of_mem_all : ∀ range ∈ all, range.Regular := by
  simp only [regular_iff]
  decide

theorem Regular.onStep_max (h : range.Regular) : range.OnStep range.max :=
  (contains_iff range _).mp (regular_iff.mp h).2

theorem Regular.step_pos (h : range.Regular) : 0 < range.step.toNat :=
  UInt32.le_iff_toNat_le.mp h.one_le_step

/-- A number that stands on a step is that many steps from the least one. -/
theorem steps_eq {n k : Nat} (hstep : range.step.toNat ≠ 0)
    (hn : n = range.min.toNat + k * range.step.toNat) : range.steps n = k := by
  have hne : (range.step.toNat : Rat) ≠ 0 := by
    rwa [Ne, Rat.natCast_eq_zero_iff]
  have hhalf : (mkRat 1 2).floor = 0 := by decide
  have hquotient : ((n : Rat) - range.min.toNat) / range.step.toNat = ((k : Int) : Rat) := by
    rw [hn, Rat.natCast_add, Rat.natCast_mul, Rat.add_comm, Rat.add_sub_cancel,
      Rat.mul_div_cancel hne]
    rfl
  rw [steps, hquotient, Rat.add_comm, Rat.floor_add_intCast, hhalf, Int.zero_add]

/-- A number of the range is left as it is. -/
theorem clamp_ofNat {value : UInt32} (h : range.OnStep value) :
    range.clamp (.ofNat value.toNat) = value := by
  obtain ⟨hmax, k, hk⟩ := h
  have hsize := value.toNat_lt
  have hvalue := Binary64.value?_ofNat (show value.toNat < 2 ^ 53 by omega)
  unfold clamp
  rw [hvalue]
  dsimp only
  split
  · rename_i hle
    rw [Rat.natCast_le_natCast] at hle
    apply UInt32.toNat_inj.mp
    omega
  · split
    · rename_i hle
      rw [Rat.natCast_le_natCast] at hle
      apply UInt32.toNat_inj.mp
      omega
    · rename_i hmin _
      rw [Rat.natCast_le_natCast] at hmin
      have hstep : range.step.toNat ≠ 0 := by
        intro hzero
        rw [hzero, Nat.mul_zero] at hk
        omega
      have hsnapped : range.min + UInt32.ofNat (range.steps value.toNat).toNat * range.step =
          value := by
        apply UInt32.toNat_inj.mp
        rw [steps_eq hstep hk, Int.toNat_natCast, UInt32.toNat_add, UInt32.toNat_mul,
          UInt32.toNat_ofNat']
        rw [Nat.mod_mul_mod, Nat.add_mod_mod, ← hk, Nat.mod_eq_of_lt hsize]
      rw [hsnapped, if_pos (UInt32.le_iff_toNat_le.mpr hmax)]

/-- A number below a step is nearest to that step or to one before. -/
theorem steps_le {value : Rat} {k : Nat} (hstep : 0 < range.step.toNat)
    (h : value < range.min.toNat + k * range.step.toNat) : range.steps value ≤ k := by
  have hpos : (0 : Rat) < range.step.toNat := Rat.natCast_pos.mpr hstep
  have hquotient : (value - range.min.toNat) / range.step.toNat < k := by
    rw [Rat.div_lt_iff hpos]
    grind
  have hhalf : mkRat 1 2 < 1 := by decide
  rw [steps, ← Int.lt_add_one_iff, Rat.floor_lt_iff]
  simp only [Rat.intCast_add, Rat.intCast_natCast, Rat.intCast_one]
  grind

/-- The least number of a range is in it. -/
theorem OnStep.min (h : range.OnStep range.max) : range.OnStep range.min := by
  obtain ⟨_, k, hk⟩ := h
  exact ⟨by omega, 0, by omega⟩

section Finite

variable {value : Rat}

/-- Below the greatest number the steps to the nearest one do not lead beyond it. -/
theorem snapped_le_max (h : range.OnStep range.max) (hmin : range.min.toNat < value)
    (hmax : value < range.max.toNat) :
    range.min.toNat + (range.steps value).toNat * range.step.toNat ≤ range.max.toNat := by
  obtain ⟨_, k, hk⟩ := h
  have hhigh : value < range.min.toNat + k * range.step.toNat := by
    rwa [← Rat.natCast_mul, ← Rat.natCast_add, ← hk]
  have hless : range.min.toNat < range.max.toNat := by
    rw [← Rat.natCast_lt_natCast]
    grind
  have hstep : 0 < range.step.toNat := by
    rcases Nat.eq_zero_or_pos range.step.toNat with hzero | hpos
    · rw [hzero, Nat.mul_zero] at hk
      omega
    · exact hpos
  have hcount : (range.steps value).toNat ≤ k := by
    have := steps_le hstep hhigh
    omega
  rw [hk]
  exact Nat.add_le_add_left (Nat.mul_le_mul_right _ hcount) _

/-- A finite number goes to the end that it has reached, and between the ends so many steps up from the
least number. -/
theorem clamp_cases (h : range.OnStep range.max) {number : Binary64}
    (hvalue : number.value? = some value) :
    value ≤ range.min.toNat ∧ range.clamp number = range.min ∨
      range.min.toNat < value ∧ range.max.toNat ≤ value ∧ range.clamp number = range.max ∨
      range.min.toNat < value ∧ value < range.max.toNat ∧ (range.clamp number).toNat =
        range.min.toNat + (range.steps value).toNat * range.step.toNat := by
  unfold clamp
  rw [hvalue]
  dsimp only
  split
  · rename_i hmin
    exact Or.inl ⟨hmin, rfl⟩
  · rename_i hmin
    rw [Rat.not_le] at hmin
    split
    · rename_i hmax
      exact Or.inr (Or.inl ⟨hmin, hmax, rfl⟩)
    · rename_i hmax
      rw [Rat.not_le] at hmax
      have hbound := snapped_le_max h hmin hmax
      have hsize := range.max.toNat_lt
      have hsnapped : (range.min + UInt32.ofNat (range.steps value).toNat * range.step).toNat =
          range.min.toNat + (range.steps value).toNat * range.step.toNat := by
        rw [UInt32.toNat_add, UInt32.toNat_mul, UInt32.toNat_ofNat', Nat.mod_mul_mod,
          Nat.add_mod_mod, Nat.mod_eq_of_lt (by omega)]
      rw [if_pos (UInt32.le_iff_toNat_le.mpr (by omega)), hsnapped]
      exact Or.inr (Or.inr ⟨hmin, hmax, rfl⟩)

end Finite

/-- What is no finite number goes to the least one. -/
theorem clamp_of_value?_none {number : Binary64} (h : number.value? = none) :
    range.clamp number = range.min := by
  unfold clamp
  rw [h]

/-- Every number is brought to one of the range. -/
theorem onStep_clamp (h : range.OnStep range.max) (number : Binary64) :
    range.OnStep (range.clamp number) := by
  cases hvalue : number.value? with
  | none =>
    rw [clamp_of_value?_none hvalue]
    exact h.min
  | some value =>
    rcases clamp_cases h hvalue with
      ⟨_, hclamp⟩ | ⟨_, _, hclamp⟩ | ⟨hmin, hmax, hclamp⟩
    · rw [hclamp]
      exact h.min
    · rw [hclamp]
      exact h
    · have hbound := snapped_le_max h hmin hmax
      exact ⟨by omega, _, hclamp⟩

end SignalCatalog.FieldRange
