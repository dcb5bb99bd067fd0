import Tickless.Message
import Tickless.Proofs.ValidSettings

/-!
# Conversions in natural numbers

What each conversion between clocks computes, and when it has a result. With valid settings only
the way from microseconds to oscillator cycles can fail to have one, by its product.
-/

namespace Tickless

open Checked

/-! ## The oscillator -/

/-- An oscillator that stands still measures no time, as does a division by zero. -/
theorem cyclesToUs_eq (cycles hz : UInt32) :
    cyclesToUs cycles hz = .ok (UInt64.ofNat (cycles.toNat * 1000000 / hz.toNat)) := by
  have hc := word_lt cycles
  unfold cyclesToUs
  by_cases h : hz = 0
  · rw [if_pos h, h]
    show Except.ok 0 = Except.ok (UInt64.ofNat (cycles.toNat * 1000000 / 0))
    rw [Nat.div_zero]
    rfl
  · have hne : Word.toNat hz.toUInt64 ≠ 0 := by
      rw [toNat_word64, toNat_widened]
      exact fun h0 => h (UInt32.toNat_inj.1 h0)
    rw [if_neg h, mul_widened]
    show div (UInt64.ofNat (cycles.toNat * 1000000)) hz.toUInt64 = _
    rw [div_eq_ok hne, toNat_word64, toNat_word64, toNat_long (by omega), toNat_widened]
    rfl

/-- The way from microseconds to cycles has a result as long as the product fits. -/
theorem usToCycles_eq_ok {us cycles : UInt64} {hz : UInt32} :
    usToCycles us hz = .ok cycles ↔
      us.toNat * hz.toNat < 2 ^ 64 ∧
        cycles = UInt64.ofNat (us.toNat * hz.toNat / 1000000) := by
  have hprod : ∀ n, mul us hz.toUInt64 = .ok n ↔
      us.toNat * hz.toNat < 2 ^ 64 ∧ n = UInt64.ofNat (us.toNat * hz.toNat) := fun n => by
    rw [mul_eq_ok_iff, toNat_word64, toNat_word64, toNat_widened]
    exact Iff.rfl
  have hquot : us.toNat * hz.toNat < 2 ^ 64 →
      div (UInt64.ofNat (us.toNat * hz.toNat)) usPerSecond.toUInt64 =
        .ok (UInt64.ofNat (us.toNat * hz.toNat / 1000000)) := by
    intro hlt
    rw [div_eq_ok (by decide), toNat_word64, toNat_word64, toNat_long hlt]
    rfl
  unfold usToCycles
  rw [arith_bind_eq_ok]
  constructor
  · rintro ⟨n, hn, h⟩
    obtain ⟨hlt, rfl⟩ := (hprod n).1 hn
    rw [hquot hlt, Except.ok.injEq] at h
    exact ⟨hlt, h.symm⟩
  · rintro ⟨hlt, rfl⟩
    exact ⟨_, (hprod _).2 ⟨hlt, rfl⟩, hquot hlt⟩

theorem usToCycles_of_overflow {us : UInt64} {hz : UInt32}
    (h : 2 ^ 64 ≤ us.toNat * hz.toNat) : usToCycles us hz = .error .mulOverflow := by
  have hprod : mul us hz.toUInt64 = .error .mulOverflow := by
    refine if_neg ?_
    rw [toNat_word64, toNat_word64, toNat_widened]
    exact Nat.not_lt.2 h
  unfold usToCycles
  rw [hprod]
  rfl

/-! ## The tick timer -/

/-- The way between timer counts and microseconds, in either direction. -/
theorem scale_eq (n : UInt32) {a b : Nat} (ha : a < 2 ^ 32) (hb : b < 2 ^ 32) (hpos : 0 < b) :
    (if UInt32.ofNat b = 0 then return 0
      else do
        let product ← mul n.toUInt64 (UInt32.ofNat a).toUInt64
        return (← div product (UInt32.ofNat b).toUInt64).toUInt32 : Except ArithError UInt32) =
      .ok (UInt32.ofNat (n.toNat * a / b)) := by
  have hn := word_lt n
  have hne : UInt32.ofNat b ≠ 0 := fun h => by
    have h0 := congrArg UInt32.toNat h
    rw [toNat_word hb] at h0
    exact Nat.ne_of_gt hpos h0
  have hdivisor : Word.toNat (UInt32.ofNat b).toUInt64 ≠ 0 := by
    rw [toNat_word64, toNat_widened, toNat_word hb]
    exact Nat.ne_of_gt hpos
  have hle : n.toNat * a ≤ (2 ^ 32 - 1) * (2 ^ 32 - 1) := Nat.mul_le_mul (by omega) (by omega)
  have hlt : n.toNat * a < 2 ^ 64 := by omega
  rw [if_neg hne, mul_widened, toNat_word ha, arith_ok_bind, div_eq_ok hdivisor, toNat_word64,
    toNat_word64, toNat_long hlt, toNat_widened, toNat_word hb, arith_ok_bind]
  show Except.ok (UInt64.ofNat (n.toNat * a / b)).toUInt32 = _
  rw [UInt64.toUInt32_ofNat']

section

variable {s : Settings} (hs : s.Valid)

include hs

theorem Settings.Valid.countsToUs_eq (counts : UInt32) :
    s.countsToUs counts = .ok (UInt32.ofNat (counts.toNat * s.period / s.perTick)) := by
  have hper := hs.perTick_lt
  have hperiod := s.period_le
  unfold Settings.countsToUs
  rw [hs.countsPerTick_eq, hs.tickPeriodUs_eq]
  exact scale_eq counts (by omega) (by omega) hs.perTick_pos

theorem Settings.Valid.usToCounts_eq (us : UInt32) :
    s.usToCounts us = .ok (UInt32.ofNat (us.toNat * s.perTick / s.period)) := by
  have hper := hs.perTick_lt
  have hperiod := s.period_le
  unfold Settings.usToCounts
  rw [hs.countsPerTick_eq, hs.tickPeriodUs_eq]
  exact scale_eq us (by omega) (by omega) hs.period_pos

end

theorem mul_div_lt {n a b : Nat} (h : n < b) (ha : 0 < a) : n * a / b < a :=
  Nat.div_lt_of_lt_mul (Nat.mul_lt_mul_of_pos_right h ha)

theorem counts_mul_div_lt {s : Settings} (hs : s.Valid) {n : Nat} (h : n < s.perTick) :
    n * s.period / s.perTick < s.period :=
  mul_div_lt h hs.period_pos

/-! ## Budgets and measured times -/

/-- What is left of a request after everything that passes outside the sleep, down to nothing. -/
theorem toNat_alarmBudgetUs (requestedUs : UInt64) (carriedUs wakeLatencyUs consumedUs : UInt32) :
    (alarmBudgetUs requestedUs carriedUs wakeLatencyUs consumedUs).toNat =
      requestedUs.toNat - carriedUs.toNat - wakeLatencyUs.toNat - consumedUs.toNat := by
  have hsub : ∀ a b : UInt64, (Saturating.sub a b).toNat = a.toNat - b.toNat := Saturating.toNat_sub
  unfold alarmBudgetUs
  rw [hsub, hsub, hsub, toNat_widened, toNat_widened, toNat_widened]

namespace Elapsed

theorem toNat_stepLimit (requested : UInt32) :
    (stepLimit requested).toNat = min (requested.toNat + 1) (2 ^ 32 - 1) :=
  toNat_saturating_add requested 1

theorem toNat_measuredTicks (totalUs : UInt64) (periodUs : UInt32) :
    (measuredTicks totalUs periodUs).toNat = totalUs.toNat / max periodUs.toNat 1 := by
  unfold measuredTicks
  rw [UInt64.toNat_div, toNat_widened, toNat_max]
  rfl

/-- A measured time is above the step limit if one tick more than the limit is over. -/
theorem overslept_iff {totalUs : UInt64} {periodUs requested : UInt32} :
    Overslept totalUs periodUs requested ↔
      min (requested.toNat + 1) (2 ^ 32 - 1) < totalUs.toNat / max periodUs.toNat 1 := by
  unfold Overslept
  rw [gt_iff_lt, UInt64.lt_iff_toNat_lt, toNat_widened, toNat_stepLimit, toNat_measuredTicks]

/-- Up to the step limit, the ticks and the phase of a split make up the whole measured time. -/
theorem split_of_le {totalUs : UInt64} {periodUs requested : UInt32} {source : WakeSource}
    (h : totalUs.toNat / max periodUs.toNat 1 ≤ min (requested.toNat + 1) (2 ^ 32 - 1)) :
    (split totalUs periodUs requested source).wholeTicks.toNat =
        totalUs.toNat / max periodUs.toNat 1 ∧
      (split totalUs periodUs requested source).phaseUs.toNat =
        totalUs.toNat % max periodUs.toNat 1 := by
  have hp := word_lt periodUs
  have hmod : totalUs.toNat % max periodUs.toNat 1 < max periodUs.toNat 1 :=
    Nat.mod_lt _ (by omega)
  have hticks := toNat_measuredTicks totalUs periodUs
  have hphase : (totalUs % (max periodUs 1).toUInt64).toNat = totalUs.toNat % max periodUs.toNat 1 := by
    rw [UInt64.toNat_mod, toNat_widened, toNat_max]
    rfl
  unfold split
  rw [if_neg (by rw [overslept_iff]; omega)]
  exact ⟨(toNat_narrowed (by omega)).trans hticks, (toNat_narrowed (by omega)).trans hphase⟩

/-- Above the step limit, a split hands out the limit and no phase. -/
theorem split_of_overslept {totalUs : UInt64} {periodUs requested : UInt32} {source : WakeSource}
    (h : min (requested.toNat + 1) (2 ^ 32 - 1) < totalUs.toNat / max periodUs.toNat 1) :
    split totalUs periodUs requested source = ⟨stepLimit requested, 0, source⟩ :=
  if_pos (overslept_iff.2 h)

theorem split_source (totalUs : UInt64) (periodUs requested : UInt32) (source : WakeSource) :
    (split totalUs periodUs requested source).source = source := by
  unfold split
  split <;> rfl

/-- A split has the whole ticks of the time that was split, up to the step limit. -/
theorem toNat_wholeTicks_split (totalUs : UInt64) (periodUs requested : UInt32) (source : WakeSource) :
    (split totalUs periodUs requested source).wholeTicks.toNat =
      min (totalUs.toNat / max periodUs.toNat 1) (min (requested.toNat + 1) (2 ^ 32 - 1)) := by
  rcases Nat.lt_or_ge (min (requested.toNat + 1) (2 ^ 32 - 1))
    (totalUs.toNat / max periodUs.toNat 1) with hlt | hle
  · rw [split_of_overslept hlt, toNat_stepLimit, Nat.min_eq_right (Nat.le_of_lt hlt)]
  · rw [(split_of_le hle).1, Nat.min_eq_left hle]

theorem wholeTicks_split_le (totalUs : UInt64) (periodUs requested : UInt32) (source : WakeSource) :
    (split totalUs periodUs requested source).wholeTicks.toNat ≤ requested.toNat + 1 := by
  rw [toNat_wholeTicks_split]
  exact Nat.le_trans (Nat.min_le_right _ _) (Nat.min_le_left _ _)

theorem wholeTicks_split_mul_le {s : Settings} (hs : s.Valid) (total : UInt64) (requested : UInt32)
    (source : WakeSource) :
    (split total (UInt32.ofNat s.period) requested source).wholeTicks.toNat * s.period ≤ total.toNat := by
  rw [toNat_wholeTicks_split, hs.max_period_one]
  exact Nat.le_trans (Nat.mul_le_mul_right _ (Nat.min_le_left _ _)) (Nat.div_mul_le_self _ _)

/-- The total of an elapsed time always fits. -/
theorem totalUs_eq (e : Elapsed) (periodUs : UInt32) :
    e.totalUs periodUs =
      .ok (UInt64.ofNat (e.wholeTicks.toNat * periodUs.toNat + e.phaseUs.toNat)) := by
  have hw := word_lt e.wholeTicks
  have hp := word_lt periodUs
  have hph := word_lt e.phaseUs
  have hlt : e.wholeTicks.toNat * periodUs.toNat ≤ (2 ^ 32 - 1) * (2 ^ 32 - 1) :=
    Nat.mul_le_mul (by omega) (by omega)
  have hsum : e.wholeTicks.toNat * periodUs.toNat + e.phaseUs.toNat < 2 ^ 64 := by
    omega
  unfold totalUs
  rw [mul_widened]
  exact add_widened hsum

/-- Until the tick after the step limit is over, the total of a split is the time that was split. -/
theorem totalUs_split_of_lt {total : UInt64} {periodUs requested : UInt32} {source : WakeSource}
    (h : total.toNat < (min (requested.toNat + 1) (2 ^ 32 - 1) + 1) * max periodUs.toNat 1) :
    (split total periodUs requested source).totalUs (max periodUs 1) = .ok total := by
  have hpos : 0 < max periodUs.toNat 1 := by omega
  have hperiod : (max periodUs 1).toNat = max periodUs.toNat 1 := toNat_max periodUs 1
  have hle := Nat.le_of_lt_succ ((Nat.div_lt_iff_lt_mul hpos).2 h)
  rw [totalUs_eq, (split_of_le hle).1, (split_of_le hle).2, hperiod, Nat.div_add_mod',
    UInt64.ofNat_toNat]

theorem totalUs_split {total : UInt64} {s : Settings} (hs : s.Valid) {requested : UInt32}
    {source : WakeSource}
    (h : total.toNat < (min (requested.toNat + 1) (2 ^ 32 - 1) + 1) * s.period) :
    (split total (UInt32.ofNat s.period) requested source).totalUs (UInt32.ofNat s.period) =
      .ok total := by
  have hperiod : max (UInt32.ofNat s.period) 1 = UInt32.ofNat s.period := by
    rw [← UInt32.toNat_inj, toNat_max, s.toNat_period]
    exact Nat.max_eq_left hs.period_pos
  have htotal : (split total (UInt32.ofNat s.period) requested source).totalUs
      (max (UInt32.ofNat s.period) 1) = .ok total :=
    totalUs_split_of_lt (by rwa [hs.max_period_one])
  rwa [hperiod] at htotal

end Elapsed

end Tickless
