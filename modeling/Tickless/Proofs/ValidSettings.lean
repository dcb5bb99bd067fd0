import Mathlib.Tactic.SplitIfs
import Tickless.Conversion
import Tickless.Proofs.Words

/-!
# Settings that were accepted

What `Settings.validate` checks, as facts about natural numbers, and the quantities that follow from
valid settings: each checked result is a number that fits its word. After this module a derived
quantity is `perTick`, `period`, `lightLimit` or `deepLimit`, and no proof has to ask whether it
exists.
-/

namespace Tickless

/-! ## Bounds of the hardware -/

/-- The reload register has 24 bits. -/
theorem toNat_maxReload : maxReload.toNat = 2 ^ 24 - 1 := rfl

theorem toNat_minAlarmLead : minAlarmLead.toNat = 2 := rfl

theorem toNat_maxAlarmLead : maxAlarmLead.toNat = 2 ^ 31 - 1 := rfl

namespace Settings

/-! ## What is checked -/

/-- The timer counts of one tick. -/
def perTick (s : Settings) : Nat :=
  s.timerClockHz.toNat / s.tickRateHz.toNat

/-- The microseconds of one tick. -/
def period (s : Settings) : Nat :=
  1000000 / s.tickRateHz.toNat

/-- Settings that agree with themselves. -/
structure Valid (s : Settings) : Prop where
  /-- There is a tick. -/
  rate_pos : 0 < s.tickRateHz.toNat
  /-- A tick is a whole number of microseconds. -/
  rate_dvd : 1000000 % s.tickRateHz.toNat = 0
  /-- A tick has timer counts. -/
  rate_le_clock : s.tickRateHz.toNat ≤ s.timerClockHz.toNat
  /-- The counts of a tick fit the reload register. -/
  perTick_le : s.perTick ≤ maxReload.toNat + 1
  /-- Empty idle periods are not slept deeply. -/
  threshold_pos : 0 < s.minDeepSleepMs.toNat
  /-- Some deep sleep reaches the threshold. -/
  threshold_le : s.minDeepSleepMs.toNat ≤ s.maxSleepMs.toNat

/-- The check accepts exactly the settings that agree with themselves, and returns them. -/
theorem validate_eq_ok {s t : Settings} : s.validate = .ok t ↔ s.Valid ∧ t = s := by
  have hrem : usPerSecond % s.tickRateHz = 0 ↔ 1000000 % s.tickRateHz.toNat = 0 := by
    rw [← UInt32.toNat_inj, UInt32.toNat_mod]
    rfl
  have hquot : s.timerClockHz / s.tickRateHz > maxReload + 1 ↔ maxReload.toNat + 1 < s.perTick := by
    rw [gt_iff_lt, UInt32.lt_iff_toNat_lt, UInt32.toNat_div]
    rfl
  have hzero : ∀ w : UInt32, w = 0 ↔ w.toNat = 0 := fun w => by
    rw [← UInt32.toNat_inj]
    rfl
  unfold validate
  simp only [ne_eq, hrem, hquot, hzero, UInt32.lt_iff_toNat_lt]
  constructor
  · intro h
    split_ifs at h with h1 h2 h3 h4 h5 h6
    cases h
    exact ⟨⟨by omega, by omega, by omega, by omega, by omega, by omega⟩, rfl⟩
  · rintro ⟨⟨h1, h2, h3, h4, h5, h6⟩, rfl⟩
    rw [if_neg (by omega), if_neg (by omega), if_neg (by omega), if_neg (by omega),
      if_neg (by omega), if_neg (by omega)]

/-! ## The derived quantities -/

/-- The most ticks of one light sleep. -/
def lightLimit (s : Settings) : Nat :=
  maxReload.toNat / s.perTick

/-- The most ticks of one deep sleep. -/
def deepLimit (s : Settings) : Nat :=
  min (s.maxSleepMs.toNat * 1000 / s.period) (2 ^ 32 - 1)

theorem period_le (s : Settings) : s.period ≤ 1000000 :=
  Nat.div_le_self _ _

theorem lightLimit_le (s : Settings) : s.lightLimit ≤ maxReload.toNat :=
  Nat.div_le_self _ _

theorem deepLimit_le (s : Settings) : s.deepLimit ≤ 2 ^ 32 - 1 :=
  Nat.min_le_right _ _

theorem toNat_period (s : Settings) : (UInt32.ofNat s.period).toNat = s.period :=
  toNat_word (by have := s.period_le; omega)

theorem toNat_lightLimit (s : Settings) : (UInt32.ofNat s.lightLimit).toNat = s.lightLimit :=
  toNat_word (Nat.lt_of_le_of_lt s.lightLimit_le (word_lt maxReload))

theorem toNat_deepLimit (s : Settings) : (UInt32.ofNat s.deepLimit).toNat = s.deepLimit :=
  toNat_word (by have := s.deepLimit_le; omega)

namespace Valid

variable {s : Settings} (hs : s.Valid)

include hs

theorem perTick_pos : 0 < s.perTick :=
  Nat.div_pos hs.rate_le_clock hs.rate_pos

theorem perTick_lt : s.perTick < 2 ^ 32 :=
  Nat.lt_of_le_of_lt hs.perTick_le (by decide)

/-- A tick is made up of whole microseconds, so the rate and the period have no remainder. -/
theorem period_mul_rate : s.period * s.tickRateHz.toNat = 1000000 :=
  Nat.div_mul_cancel (Nat.dvd_of_mod_eq_zero hs.rate_dvd)

theorem period_pos : 0 < s.period := by
  have := hs.period_mul_rate
  rcases Nat.eq_zero_or_pos s.period with h | h
  · rw [h] at this
    omega
  · exact h

/-- The bound that keeps a tick from being empty does not come into play. -/
theorem max_period_one : max (UInt32.ofNat s.period).toNat 1 = s.period := by
  have := hs.period_pos
  rw [s.toNat_period]
  omega

theorem countsPerTick_eq : s.countsPerTick = .ok (UInt32.ofNat s.perTick) :=
  Checked.div_eq_ok (Nat.ne_of_gt hs.rate_pos)

theorem toNat_pred_perTick : (UInt32.ofNat (s.perTick - 1)).toNat = s.perTick - 1 :=
  toNat_word (Nat.lt_of_le_of_lt (Nat.sub_le _ _) hs.perTick_lt)

theorem pred_perTick_eq :
    Checked.sub (UInt32.ofNat s.perTick) 1 = .ok (UInt32.ofNat (s.perTick - 1)) :=
  sub_words hs.perTick_lt hs.perTick_pos

theorem tickPeriodUs_eq : s.tickPeriodUs = .ok (UInt32.ofNat s.period) :=
  Checked.div_eq_ok (Nat.ne_of_gt hs.rate_pos)

theorem maxSuppressedTicks_eq : s.maxSuppressedTicks = .ok (UInt32.ofNat s.lightLimit) := by
  unfold maxSuppressedTicks
  rw [hs.countsPerTick_eq, arith_ok_bind]
  exact div_words (word_lt maxReload) hs.perTick_lt (Nat.ne_of_gt hs.perTick_pos)

theorem maxDeepSleepTicks_eq : s.maxDeepSleepTicks = .ok (UInt32.ofNat s.deepLimit) := by
  have hms := word_lt s.maxSleepMs
  have hus : (UInt64.ofNat (s.maxSleepMs.toNat * 1000)).toNat = s.maxSleepMs.toNat * 1000 :=
    toNat_long (by omega)
  have hq : s.maxSleepMs.toNat * 1000 / s.period ≤ s.maxSleepMs.toNat * 1000 := Nat.div_le_self _ _
  have hne : Word.toNat (UInt32.ofNat s.period).toUInt64 ≠ 0 := by
    rw [toNat_word64, toNat_widened, s.toNat_period]
    exact Nat.ne_of_gt hs.period_pos
  unfold maxDeepSleepTicks
  rw [hs.tickPeriodUs_eq, show (1000 : UInt64) = (1000 : UInt32).toUInt64 from rfl, mul_widened]
  show (do
    let ticks ← Checked.div (UInt64.ofNat (s.maxSleepMs.toNat * 1000)) (UInt32.ofNat s.period).toUInt64
    return Saturating.clip ticks.toNat : Except ArithError UInt32) = _
  rw [Checked.div_eq_ok hne, toNat_word64, toNat_word64, hus, toNat_widened, s.toNat_period]
  show Except.ok (Saturating.clip (UInt64.ofNat (s.maxSleepMs.toNat * 1000 / s.period)).toNat) = _
  rw [toNat_long (by omega)]
  rfl

theorem ticksToMs_eq (ticks : UInt32) :
    s.ticksToMs ticks = .ok (UInt64.ofNat (ticks.toNat * s.period / 1000)) := by
  have hlt : ticks.toNat * s.period < 2 ^ 64 := by
    have := Nat.mul_le_mul (Nat.le_of_lt (word_lt ticks)) s.period_le
    omega
  unfold ticksToMs
  rw [hs.tickPeriodUs_eq]
  show (do
    let us ← Checked.mul ticks.toUInt64 (UInt32.ofNat s.period).toUInt64
    Checked.div us 1000) = _
  rw [mul_widened, s.toNat_period]
  show Checked.div (UInt64.ofNat (ticks.toNat * s.period)) 1000 = _
  rw [Checked.div_eq_ok (by decide), toNat_word64, toNat_long hlt]
  rfl

end Valid

end Settings

end Tickless
