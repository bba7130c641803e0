import Mathlib.Algebra.Order.Ring.Abs
import Mathlib.Data.Rat.Floor
import Mathlib.Tactic.Linarith
import SignalCatalog.Proofs.Signal.Range

/-!
# The nearest number of a range

Which number of a range is the nearest to a value is said here by distances alone. Of two numbers the
one on the value's side of their midpoint is the nearer, and this is all that the proofs use: the number
that a range brings a value to has every other number of the range beyond such a midpoint, and what is
nearest grows with the value. On the way to it nothing leaves 32 bits.
-/

namespace SignalCatalog.FieldRange

/-- A number of the range than which none is nearer to the value, and none that is as near larger. -/
structure Nearest (range : FieldRange) (value : ℚ) (n : UInt32) : Prop where
  contained : range.contains n = true
  least : ∀ m, range.contains m = true → |(n.toNat : ℚ) - value| ≤ |(m.toNat : ℚ) - value|
  largest : ∀ m, range.contains m = true →
    |(m.toNat : ℚ) - value| = |(n.toNat : ℚ) - value| → m ≤ n

variable {range : FieldRange} {value : ℚ}

/-! ## Nearness -/

/-- The smaller of two numbers is the nearer one exactly below their midpoint. -/
theorem nearer_iff {x y : ℚ} (h : x < y) : |x - value| < |y - value| ↔ 2 * value < x + y := by
  have hproduct : (y - value) ^ 2 - (x - value) ^ 2 = (y - x) * (x + y - 2 * value) := by ring
  have hpos : 0 < y - x := sub_pos.mpr h
  rw [← sq_lt_sq, ← sub_pos, hproduct, mul_pos_iff_of_pos_left hpos, sub_pos]

theorem Nearest.of_midpoints {n : UInt32} (hn : range.contains n = true)
    (hbelow : ∀ m, range.contains m = true → m.toNat < n.toNat →
      (m.toNat : ℚ) + n.toNat ≤ 2 * value)
    (habove : ∀ m, range.contains m = true → n.toNat < m.toNat →
      2 * value < (n.toNat : ℚ) + m.toNat) : range.Nearest value n := by
  have hnearer : ∀ m, range.contains m = true → n.toNat < m.toNat →
      |(n.toNat : ℚ) - value| < |(m.toNat : ℚ) - value| := fun m hm hlt =>
    (nearer_iff (Nat.cast_lt.mpr hlt)).mpr (habove m hm hlt)
  refine ⟨hn, fun m hm => ?_, fun m hm htie => ?_⟩
  · rcases Nat.lt_trichotomy m.toNat n.toNat with hlt | heq | hlt
    · have hmidpoint := hbelow m hm hlt
      rw [← not_lt, nearer_iff (Nat.cast_lt.mpr hlt), not_lt]
      exact hmidpoint
    · rw [heq]
    · exact (hnearer m hm hlt).le
  · rw [UInt32.le_iff_toNat_le, ← not_lt]
    intro hlt
    exact absurd htie (hnearer m hm hlt).ne'

/-- The nearest number of a larger value is no smaller. -/
theorem Nearest.mono {p q : ℚ} {n m : UInt32} (hn : range.Nearest p n) (hm : range.Nearest q m)
    (h : p ≤ q) : n ≤ m := by
  rw [UInt32.le_iff_toNat_le, ← not_lt]
  intro hlt
  have hp : ¬ 2 * p < (m.toNat : ℚ) + n.toNat := by
    rw [← nearer_iff (Nat.cast_lt.mpr hlt), not_lt]
    exact hn.least m hm.contained
  have hq : 2 * q < (m.toNat : ℚ) + n.toNat := by
    rw [← nearer_iff (Nat.cast_lt.mpr hlt)]
    refine lt_of_le_of_ne (hm.least n hn.contained) fun htie => ?_
    have hle := UInt32.le_iff_toNat_le.mp (hm.largest n hn.contained htie.symm)
    omega
  linarith

/-! ## Numbers of a range -/

theorem min_le_of_contains {m : UInt32} (h : range.contains m = true) :
    range.min.toNat ≤ m.toNat := by
  obtain ⟨_, k, hk⟩ := (contains_iff range m).mp h
  omega

theorem le_max_of_contains {m : UInt32} (h : range.contains m = true) :
    m.toNat ≤ range.max.toNat :=
  ((contains_iff range m).mp h).1

/-- Two numbers of a range are a step apart. -/
theorem step_apart {n m : UInt32} (hn : range.contains n = true) (hm : range.contains m = true)
    (h : n.toNat < m.toNat) : n.toNat + range.step.toNat ≤ m.toNat := by
  obtain ⟨_, i, hi⟩ := (contains_iff range n).mp hn
  obtain ⟨_, j, hj⟩ := (contains_iff range m).mp hm
  have hless : i < j := by
    by_contra hge
    have := Nat.mul_le_mul_right range.step.toNat (Nat.le_of_not_lt hge)
    omega
  have hnext := Nat.mul_le_mul_right range.step.toNat hless
  rw [Nat.succ_mul] at hnext
  omega

/-- The value is within half a step of the number so many steps up; a whole half only below it. -/
theorem within_half_step (hstep : 0 < range.step.toNat) (value : ℚ) :
    2 * (range.min.toNat + range.steps value * range.step.toNat : ℚ) ≤
        2 * value + range.step.toNat ∧
      2 * value < 2 * (range.min.toNat + range.steps value * range.step.toNat : ℚ) +
        range.step.toNat := by
  have hpos : (0 : ℚ) < range.step.toNat := Nat.cast_pos.mpr hstep
  have hvalue : value =
      range.min.toNat + (value - range.min.toNat) / range.step.toNat * range.step.toNat := by
    rw [div_mul_cancel₀ _ hpos.ne']
    ring
  have hhalf : mkRat 1 2 = (1 / 2 : ℚ) := by
    rw [Rat.mkRat_eq_div]
    norm_num
  have hlow := Rat.floor_le ((value - range.min.toNat) / range.step.toNat + mkRat 1 2)
  have hhigh := Rat.lt_floor_add_one ((value - range.min.toNat) / range.step.toNat + mkRat 1 2)
  rw [← steps, hhalf] at hlow hhigh
  push_cast at hhigh
  generalize (value - range.min.toNat) / range.step.toNat = quotient at hvalue hlow hhigh
  have hlowStep := mul_le_mul_of_nonneg_right hlow hpos.le
  have hhighStep := mul_lt_mul_of_pos_right hhigh hpos
  constructor <;> linarith

theorem steps_nonneg (hstep : 0 < range.step.toNat) (hmin : range.min.toNat < value) :
    0 ≤ range.steps value := by
  have hpos : (0 : ℚ) < range.step.toNat := Nat.cast_pos.mpr hstep
  have hhalf := (within_half_step hstep value).2
  by_contra hneg
  have hless : (range.steps value : ℚ) ≤ -1 := by
    exact_mod_cast Int.le_sub_one_of_lt (not_le.mp hneg)
  have hbelow := mul_le_mul_of_nonneg_right hless hpos.le
  linarith

/-! ## What a range brings a number to -/

theorem contains_clamp (h : range.Regular) (number : Binary64) :
    range.contains (range.clamp number) = true :=
  (contains_iff range _).mpr (onStep_clamp h.onStep_max number)

/-- A finite number is brought to the nearest number of the range. -/
theorem nearest_clamp (h : range.Regular) {number : Binary64}
    (hvalue : number.value? = some value) : range.Nearest value (range.clamp number) := by
  have hclamped := contains_clamp h number
  rcases clamp_cases h.onStep_max hvalue with
    ⟨hmin, hclamp⟩ | ⟨_, hmax, hclamp⟩ | ⟨hmin, _, hclamp⟩
  · rw [hclamp] at hclamped ⊢
    refine .of_midpoints hclamped (fun m hm hlt => ?_) fun m _ hlt => ?_
    · have := min_le_of_contains hm
      omega
    · have hless : (range.min.toNat : ℚ) < m.toNat := Nat.cast_lt.mpr hlt
      linarith
  · rw [hclamp] at hclamped ⊢
    refine .of_midpoints hclamped (fun m _ hlt => ?_) fun m hm hlt => ?_
    · have hless : (m.toNat : ℚ) < range.max.toNat := Nat.cast_lt.mpr hlt
      linarith
    · have := le_max_of_contains hm
      omega
  · -- between the ends: the next number of the range on either side is a whole step off
    obtain ⟨hlow, hhigh⟩ := within_half_step h.step_pos value
    have hcount : (((range.steps value).toNat : ℕ) : ℚ) = range.steps value := by
      exact_mod_cast Int.toNat_of_nonneg (steps_nonneg h.step_pos hmin)
    have hsnapped : ((range.clamp number).toNat : ℚ) =
        range.min.toNat + range.steps value * range.step.toNat := by
      rw [hclamp, ← hcount]
      push_cast
      rfl
    rw [← hsnapped] at hlow hhigh
    refine .of_midpoints hclamped (fun m hm hlt => ?_) fun m hm hlt => ?_
    · have happart : (m.toNat : ℚ) + range.step.toNat ≤ (range.clamp number).toNat := by
        exact_mod_cast step_apart hm hclamped hlt
      linarith
    · have happart : ((range.clamp number).toNat : ℚ) + range.step.toNat ≤ m.toNat := by
        exact_mod_cast step_apart hclamped hm hlt
      linarith

/-! ## Words on the way -/

/-- A natural number as a word, if it fits one. -/
def word? (n : Nat) : Option UInt32 := if n < UInt32.size then some (.ofNat n) else none

/-- The number so many steps up, if it, their count and their length all fit words. -/
def snapped? (range : FieldRange) (count : Int) : Option UInt32 := do
  guard (0 ≤ count)
  let count ← word? count.toNat
  let length ← word? (count.toNat * range.step.toNat)
  word? (range.min.toNat + length.toNat)

/-- Clamping that gives nothing where a number on the way does not fit a word. -/
def checkedClamp (range : FieldRange) (number : Binary64) : Option UInt32 :=
  match number.value? with
  | none => some range.min
  | some value =>
    if value ≤ range.min.toNat then some range.min
    else if (range.max.toNat : Rat) ≤ value then some range.max
    else (range.snapped? (range.steps value)).map fun snapped =>
      if snapped ≤ range.max then snapped else range.max

theorem word?_eq {n : Nat} {word : UInt32} (h : n = word.toNat) : word? n = some word := by
  rw [h, word?, if_pos word.toNat_lt, UInt32.ofNat_toNat]

theorem exists_word {n : Nat} (h : n < UInt32.size) :
    ∃ word : UInt32, word? n = some word ∧ word.toNat = n :=
  ⟨.ofNat n, if_pos h, UInt32.toNat_ofNat_of_lt' h⟩

/-- Where the number so many steps up is a word, so is everything on the way to it. -/
theorem snapped?_eq (hstep : 0 < range.step.toNat) {count : Nat} {n : UInt32}
    (hn : n.toNat = range.min.toNat + count * range.step.toNat) :
    range.snapped? count = some n := by
  have hsize : n.toNat < UInt32.size := n.toNat_lt
  have hcount : count ≤ count * range.step.toNat := Nat.le_mul_of_pos_right _ hstep
  obtain ⟨steps, hsteps, rfl⟩ := exists_word (show count < UInt32.size by omega)
  obtain ⟨length, hlength, heq⟩ :=
    exists_word (show steps.toNat * range.step.toNat < UInt32.size by omega)
  have hsum : word? (range.min.toNat + length.toNat) = some n := word?_eq (by rw [heq, hn])
  simp [snapped?, hsteps, hlength, hsum]

theorem checkedClamp_eq (h : range.Regular) (number : Binary64) :
    range.checkedClamp number = some (range.clamp number) := by
  unfold checkedClamp
  split
  · rename_i hvalue
    rw [clamp_of_value?_none hvalue]
  · rename_i value hvalue
    rcases clamp_cases h.onStep_max hvalue with
      ⟨hmin, hclamp⟩ | ⟨hmin, hmax, hclamp⟩ | ⟨hmin, hmax, hclamp⟩
    · rw [if_pos hmin, hclamp]
    · rw [if_neg (not_le.mpr hmin), if_pos hmax, hclamp]
    · obtain ⟨count, hcount⟩ := Int.eq_ofNat_of_zero_le (steps_nonneg h.step_pos hmin)
      have hle := le_max_of_contains (contains_clamp h number)
      rw [hcount, Int.toNat_natCast] at hclamp
      rw [if_neg (not_le.mpr hmin), if_neg (not_le.mpr hmax), hcount,
        snapped?_eq h.step_pos hclamp, Option.map_some, if_pos (UInt32.le_iff_toNat_le.mpr hle)]

-- Where the steps do not meet the greatest number, the last one can lead past all words.
example : (FieldRange.mk "Offset" 0 4294967295 2147483649).checkedClamp (.ofNat 4294967294) =
    none := by decide +kernel

/-- Every number is brought to one of the range without leaving 32 bits, a finite one to the nearest,
of two equally near ones to the larger, so that larger numbers go no lower, and what is no finite number
to the least. Exactly the numbers of the range are left as they are. -/
theorem clamp_nearest {range : FieldRange} (h : range.Regular) :
    (∀ number, range.contains (range.clamp number) = true ∧
      range.checkedClamp number = some (range.clamp number)) ∧
    (∀ number value, number.value? = some value → range.Nearest value (range.clamp number)) ∧
    (∀ first second p q, first.value? = some p → second.value? = some q → p ≤ q →
      range.clamp first ≤ range.clamp second) ∧
    range.clamp .nan = range.min ∧
    (∀ negative, range.clamp (.infinite negative) = range.min) ∧
    ∀ n : UInt32, range.clamp (.ofNat n.toNat) = n ↔ range.contains n = true := by
  refine ⟨fun number => ⟨contains_clamp h number, checkedClamp_eq h number⟩,
    fun _ _ => nearest_clamp h, fun _ _ _ _ hp hq => ?_, clamp_of_value?_none rfl,
    fun _ => clamp_of_value?_none rfl, fun n => ⟨fun hn => ?_, fun hn => ?_⟩⟩
  · exact (nearest_clamp h hp).mono (nearest_clamp h hq)
  · rw [← hn]
    exact contains_clamp h _
  · exact clamp_ofNat ((contains_iff range n).mp hn)

theorem clamp_nearest_half :
    timeout.Regular ∧ (Binary64.ofNat 24).value? = some 24 ∧
      (Binary64.ofNat 25).value? = some 25 ∧
      (timeout.clamp (.ofNat 25) = 30 ∧ timeout.checkedClamp (.ofNat 25) = some 30) ∧
      timeout.Nearest 25 30 ∧ timeout.clamp (.ofNat 24) ≤ timeout.clamp (.ofNat 25) ∧
      timeout.clamp (.ofNat 25) ≠ 25 ∧ timeout.clamp .nan = 10 := by
  have hregular : timeout.Regular := regular_of_mem_all timeout (by decide)
  have hlower : (Binary64.ofNat 24).value? = some 24 := by decide +kernel
  have hupper : (Binary64.ofNat 25).value? = some 25 := by decide +kernel
  have hclamp : timeout.clamp (.ofNat 25) = 30 := by decide +kernel
  obtain ⟨hall, hnearest, hmono, hnan, -, hfixed⟩ := clamp_nearest hregular
  refine ⟨hregular, hlower, hupper, ⟨hclamp, ?_⟩, ?_, ?_, ?_, hnan⟩
  · rw [(hall _).2, hclamp]
  · rw [← hclamp]
    exact hnearest _ _ hupper
  · exact hmono _ _ _ _ hlower hupper (by norm_num)
  · exact fun h => absurd ((hfixed 25).mp h) (by decide)

end SignalCatalog.FieldRange
