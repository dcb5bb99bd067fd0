import Mathlib.Tactic.FieldSimp
import Mathlib.Tactic.Linarith
import Tickless.Proofs.DeepCycle

/-!
# A deep sleep against its request

The alarm of a deep sleep is set from the time that is left of the request after the carried phase,
the wake path and the way down. That time is rounded down to cycles, and the cycles that are counted
are rounded down to microseconds, so as long as the wake path keeps to the time that was set aside for
it, the sleep ends within its request. When the alarm ends it, nothing is lost but the part of the
wake path that was not used, less than one cycle to the first rounding, and less than one microsecond
to the second.
-/

namespace Tickless

open PowerManager

namespace SleepCycle

/-- The microseconds that were left for the alarm of a cycle. -/
def alarmBudget (s : Settings) (c : SleepCycle) : UInt64 :=
  alarmBudgetUs (UInt64.ofNat (c.requestedTicks.toNat * s.period)) c.carriedUs s.wakeLatencyUs
    c.latencyUs

/-- The cycles to the alarm of a cycle, before they are brought within their bounds. -/
def unclampedLead (s : Settings) (c : SleepCycle) : Nat :=
  (c.alarmBudget s).toNat * c.oscillatorHz.toNat / 1000000

theorem alarmBudget_of_planned {s : Settings} (hs : s.Valid) {c : SleepCycle} {ticks timerCount : UInt32}
    (hrequested : c.requestedTicks = UInt32.ofNat (s.deepTicks ticks))
    (hcarried : c.carriedUs = UInt32.ofNat (s.phaseAt timerCount)) :
    (c.alarmBudget s).toNat = s.budgetUs ticks timerCount c.latencyUs := by
  unfold alarmBudget Settings.budgetUs
  rw [toNat_alarmBudgetUs, hrequested, hcarried, s.toNat_deepTicks, hs.toNat_phaseAt,
    s.toNat_deepTicks_mul]

theorem pos_of_lead {s : Settings} {c : SleepCycle} (h : minAlarmLead.toNat ≤ c.unclampedLead s) :
    0 < (c.alarmBudget s).toNat ∧ 0 < c.oscillatorHz.toNat := by
  have hprod : (c.alarmBudget s).toNat * c.oscillatorHz.toNat ≠ 0 := by
    intro h0
    unfold unclampedLead at h
    rw [h0] at h
    exact absurd h (by decide)
  rw [Nat.mul_ne_zero_iff] at hprod
  exact ⟨Nat.pos_of_ne_zero hprod.1, Nat.pos_of_ne_zero hprod.2⟩

end SleepCycle

/-! ## The two roundings -/

/-- Cycles of a budget and cycles of a wake path that keeps to its time do not last longer than both. -/
theorem counted_le_budget_add {asleep waking budget wakeUs hz : Nat}
    (hasleep : asleep ≤ budget * hz / 1000000) (hwaking : waking * 1000000 ≤ wakeUs * hz) :
    (asleep + waking) % 2 ^ 32 * 1000000 / hz ≤ budget + wakeUs := by
  have hcycles : asleep * 1000000 ≤ budget * hz :=
    Nat.le_trans (Nat.mul_le_mul_right _ hasleep) (Nat.div_mul_le_self _ _)
  apply Nat.div_le_of_le_mul
  calc (asleep + waking) % 2 ^ 32 * 1000000
      ≤ (asleep + waking) * 1000000 := Nat.mul_le_mul_right _ (Nat.mod_le _ _)
    _ = asleep * 1000000 + waking * 1000000 := Nat.add_mul _ _ _
    _ ≤ budget * hz + wakeUs * hz := Nat.add_le_add hcycles hwaking
    _ = hz * (budget + wakeUs) := by rw [← Nat.add_mul, Nat.mul_comm]

/-- Cycles of a whole budget last as long as the budget, up to a cycle and a microsecond. -/
theorem budget_add_lt_counted {waking budget hz : Nat} (hhz : 1 ≤ hz)
    (hfits : budget * hz / 1000000 + waking < 2 ^ 32) :
    budget * hz + waking * 1000000 <
      ((budget * hz / 1000000 + waking) % 2 ^ 32 * 1000000 / hz + 1) * hz + 1000000 := by
  have hbudget : budget * hz < 1000000 * (budget * hz / 1000000 + 1) :=
    Nat.lt_mul_div_succ _ (by decide)
  have hcounted := Nat.lt_mul_div_succ ((budget * hz / 1000000 + waking) * 1000000) hhz
  rw [Nat.mod_eq_of_lt hfits, Nat.mul_comm (_ / hz + 1) hz]
  omega

/-- What is lost, in microseconds, when it is bounded in cycles. -/
theorem sub_lt_of_mul_lt {waking budget counted hz : Nat} (hhz : 1 ≤ hz)
    (h : budget * hz + waking * 1000000 < (counted + 1) * hz + 1000000) :
    (budget : ℚ) - counted < 1000000 / (hz : ℚ) + 1 - (waking : ℚ) * 1000000 / (hz : ℚ) := by
  have hpos : (0 : ℚ) < hz := by exact_mod_cast hhz
  have hcast : (budget : ℚ) * hz + waking * 1000000 < (counted + 1) * hz + 1000000 := by
    exact_mod_cast h
  have hleft : (budget : ℚ) + waking * 1000000 / hz = (budget * hz + waking * 1000000) / hz := by
    field_simp
  have hright : (counted : ℚ) + 1 + 1000000 / hz = ((counted + 1) * hz + 1000000) / hz := by
    field_simp
  have hdivided := div_lt_div_of_pos_right hcast hpos
  rw [← hleft, ← hright] at hdivided
  linarith

/-! ## The cycles of a sleep -/

namespace Settings

variable {s : Settings} {ticks : UInt32} {c : Chip}

theorem cyclesAsleep_le : s.cyclesAsleep ticks c ≤ s.deepLead ticks c := by
  unfold cyclesAsleep
  split
  · exact Nat.le_refl _
  · exact Nat.min_le_right _ _

theorem cyclesAsleep_of_endsByAlarm (h : s.endsByAlarm ticks c = true) :
    s.cyclesAsleep ticks c = s.deepLead ticks c := by
  unfold endsByAlarm at h
  unfold cyclesAsleep
  split at h
  · rfl
  · exact Nat.min_eq_right (of_decide_eq_true h)

end Settings

section

variable {m m' m'' : PowerManager Bench} {ticks : UInt32} {cycle : SleepCycle} {r : Option Elapsed}

theorem DeepBegun.alarmBudget_eq (h : DeepBegun ticks m m' cycle) (hs : m.settings.Valid) :
    (cycle.alarmBudget m.settings).toNat =
      m.settings.budgetUs ticks m.platform.chip.timer.current m.platform.chip.power.readingUs := by
  rw [SleepCycle.alarmBudget_of_planned hs h.requested h.carried, h.latency]

/-- The time of a sleep that keeps within its request is split without loss. -/
theorem Elapsed.split_within {s : Settings} (hs : s.Valid) (total : UInt64) (requested : UInt32)
    (source : WakeSource) (h : total.toNat ≤ requested.toNat * s.period) :
    (split total (UInt32.ofNat s.period) requested source).totalUs (UInt32.ofNat s.period) = .ok total ∧
      (split total (UInt32.ofNat s.period) requested source).wholeTicks ≤ requested ∧
      ((split total (UInt32.ofNat s.period) requested source).wholeTicks = requested →
        (split total (UInt32.ofNat s.period) requested source).phaseUs = 0) := by
  have hpos := hs.period_pos
  have hlt := word_lt requested
  have hperiod := hs.max_period_one
  have hticks : total.toNat / s.period ≤ requested.toNat :=
    Nat.div_le_of_le_mul (by rwa [Nat.mul_comm])
  have hfits : total.toNat / max (UInt32.ofNat s.period).toNat 1 ≤ min (requested.toNat + 1) (2 ^ 32 - 1) := by
    rw [hperiod]
    omega
  have hwhole : (split total (UInt32.ofNat s.period) requested source).wholeTicks.toNat =
      total.toNat / s.period := by
    rw [(split_of_le hfits).1, hperiod]
  have hphase : (split total (UInt32.ofNat s.period) requested source).phaseUs.toNat =
      total.toNat % s.period := by
    rw [(split_of_le hfits).2, hperiod]
  refine ⟨totalUs_split hs ?_, ?_, ?_⟩
  · have hmono : requested.toNat * s.period <
        (min (requested.toNat + 1) (2 ^ 32 - 1) + 1) * s.period :=
      Nat.mul_lt_mul_of_pos_right (by omega) hpos
    omega
  · rw [UInt32.le_iff_toNat_le, hwhole]
    exact hticks
  · intro heq
    rw [heq] at hwhole
    -- all of the request has passed, and no more than that
    have hsum := Nat.div_add_mod' total.toNat s.period
    rw [← hwhole] at hsum
    rw [← UInt32.toNat_inj, hphase]
    show _ = 0
    omega

/-! ## The request -/

/-- Where the alarm has a lead, the request is made up of the budget and of all that was taken off. -/
theorem DeepBegun.request_eq (h : DeepBegun ticks m m' cycle) (hs : m.settings.Valid)
    (hlead : minAlarmLead.toNat ≤ cycle.unclampedLead m.settings) :
    cycle.requestedTicks.toNat * m.settings.period =
      (cycle.alarmBudget m.settings).toNat + m.settings.phaseAt m.platform.chip.timer.current +
        m.settings.wakeLatencyUs.toNat + m.platform.chip.power.readingUs.toNat := by
  have hbudget := h.alarmBudget_eq hs
  have hpos := (SleepCycle.pos_of_lead hlead).1
  rw [h.requested, m.settings.toNat_deepTicks]
  unfold Settings.budgetUs at hbudget
  omega

theorem DeepBegun.deepLead_eq (h : DeepBegun ticks m m' cycle) (hs : m.settings.Valid) :
    m.settings.deepLead ticks m.platform.chip =
      max minAlarmLead.toNat (min (cycle.unclampedLead m.settings) maxAlarmLead.toNat) := by
  unfold Settings.deepLead SleepCycle.unclampedLead
  rw [h.alarmBudget_eq hs, h.oscillatorHz]

/-- A deep sleep whose wake path keeps to its time is within its request. -/
theorem DeepBegun.deepTotalUs_le (h : DeepBegun ticks m m' cycle) (hs : m.settings.Valid)
    (hlead : minAlarmLead.toNat ≤ cycle.unclampedLead m.settings)
    (hwake : m.platform.chip.rtc.wakeCycles.toNat * 1000000 ≤
      m.settings.wakeLatencyUs.toNat * m.platform.chip.rtc.oscillatorHz.toNat) :
    m.settings.deepTotalUs ticks m.platform.chip ≤ cycle.requestedTicks.toNat * m.settings.period := by
  have hasleep : m.settings.cyclesAsleep ticks m.platform.chip ≤
      (cycle.alarmBudget m.settings).toNat * m.platform.chip.rtc.oscillatorHz.toNat / 1000000 := by
    rw [← h.oscillatorHz]
    refine Nat.le_trans Settings.cyclesAsleep_le ?_
    rw [h.deepLead_eq hs]
    show _ ≤ cycle.unclampedLead m.settings
    omega
  have hcounted : m.settings.countedUs ticks m.platform.chip ≤
      (cycle.alarmBudget m.settings).toNat + m.settings.wakeLatencyUs.toNat :=
    counted_le_budget_add hasleep hwake
  -- the carried phase and the latency are on both sides
  rw [h.request_eq hs hlead]
  unfold Settings.deepTotalUs
  omega

/-- A deep sleep that the alarm has ended is short of its request by the part of the wake path that was
not used, up to a cycle and a microsecond. -/
theorem DeepBegun.request_sub_lt (h : DeepBegun ticks m m' cycle) (hs : m.settings.Valid)
    (hlead : minAlarmLead.toNat ≤ cycle.unclampedLead m.settings)
    (halarm : m.settings.endsByAlarm ticks m.platform.chip = true)
    (hclamp : cycle.unclampedLead m.settings ≤ maxAlarmLead.toNat)
    (hwraps : cycle.unclampedLead m.settings + m.platform.chip.rtc.wakeCycles.toNat < 2 ^ 32) :
    ((cycle.requestedTicks.toNat * m.settings.period : Nat) : ℚ) -
        (m.settings.deepTotalUs ticks m.platform.chip : Nat) <
      ((m.settings.wakeLatencyUs.toNat : ℚ) - (m.platform.chip.rtc.wakeCycles.toNat : ℚ) * 1000000 /
        (m.platform.chip.rtc.oscillatorHz.toNat : ℚ)) +
        1000000 / (m.platform.chip.rtc.oscillatorHz.toNat : ℚ) + 1 := by
  have hhz : 1 ≤ m.platform.chip.rtc.oscillatorHz.toNat := by
    rw [← h.oscillatorHz]
    exact (SleepCycle.pos_of_lead hlead).2
  have hasleep : m.settings.cyclesAsleep ticks m.platform.chip = cycle.unclampedLead m.settings := by
    rw [Settings.cyclesAsleep_of_endsByAlarm halarm, h.deepLead_eq hs]
    omega
  have hcounted : m.settings.countedUs ticks m.platform.chip =
      (cycle.unclampedLead m.settings + m.platform.chip.rtc.wakeCycles.toNat) % 2 ^ 32 * 1000000 /
        m.platform.chip.rtc.oscillatorHz.toNat := by
    unfold Settings.countedUs
    rw [hasleep]
  have hrequest := h.request_eq hs hlead
  -- neither clamp comes into play, so the two roundings are all that is lost
  unfold SleepCycle.unclampedLead at hcounted hwraps
  rw [h.oscillatorHz] at hcounted hwraps
  have hlost := budget_add_lt_counted hhz hwraps
  rw [← hcounted] at hlost
  unfold Settings.deepTotalUs
  rw [hrequest]
  have hbound := sub_lt_of_mul_lt hhz hlost
  push_cast
  linarith

/-- A deep sleep whose wake path keeps to its time ends within its request, whatever ends it. One that
the alarm ends is short of the request by the part of the wake path that was not used, up to a cycle
and a microsecond. -/
theorem deep_sleep_within_request (hs : m.settings.validate = .ok m.settings)
    (hidle : idle ticks m = .ok .retained m') (hpending : m'.pending = some cycle)
    (hresume : resume m' = .ok r m'') (hlead : minAlarmLead.toNat ≤ cycle.unclampedLead m.settings)
    (hwake : m.platform.chip.rtc.wakeCycles.toNat * 1000000 ≤
      m.settings.wakeLatencyUs.toNat * m.platform.chip.rtc.oscillatorHz.toNat) :
    cycle.requestedTicks.toNat = min ticks.toNat m.settings.deepLimit ∧
      ∃ e total, r = some e ∧ e.totalUs (UInt32.ofNat m.settings.period) = .ok total ∧
        total.toNat ≤ cycle.requestedTicks.toNat * m.settings.period ∧
        e.wholeTicks ≤ cycle.requestedTicks ∧
        (e.wholeTicks = cycle.requestedTicks → e.phaseUs = 0) ∧
        (e.source = .alarm → cycle.unclampedLead m.settings ≤ maxAlarmLead.toNat →
          cycle.unclampedLead m.settings + m.platform.chip.rtc.wakeCycles.toNat < 2 ^ 32 →
          ((cycle.requestedTicks.toNat * m.settings.period : Nat) : ℚ) - (total.toNat : ℚ) <
            ((m.settings.wakeLatencyUs.toNat : ℚ) -
              (m.platform.chip.rtc.wakeCycles.toNat : ℚ) * 1000000 /
                (m.platform.chip.rtc.oscillatorHz.toNat : ℚ)) +
              1000000 / (m.platform.chip.rtc.oscillatorHz.toNat : ℚ) + 1) := by
  obtain ⟨hv, -⟩ := Settings.validate_eq_ok.1 hs
  obtain ⟨cycle', hbegun⟩ := deepBegun_of_idle hv hidle
  rw [hbegun.pending, Option.some.injEq] at hpending
  subst hpending
  obtain ⟨e, rfl, hended⟩ := hbegun.ended_of_resume hv hresume
  have htotal := hv.toNat_deepTotalUs ticks m.platform.chip
  have hle := hbegun.deepTotalUs_le hv hlead hwake
  -- the elapsed time is the total, split with no part of it cut off
  have helapsed : e = Elapsed.split (UInt64.ofNat (m.settings.deepTotalUs ticks m.platform.chip))
      (UInt32.ofNat m.settings.period) cycle'.requestedTicks
      (if m.settings.endsByAlarm ticks m.platform.chip then .alarm else .otherInterrupt) := by
    rw [hended.elapsed, hbegun.requested]
    rfl
  obtain ⟨htotalUs, hticks, hphase⟩ := Elapsed.split_within hv
    (UInt64.ofNat (m.settings.deepTotalUs ticks m.platform.chip)) cycle'.requestedTicks
    (if m.settings.endsByAlarm ticks m.platform.chip then .alarm else .otherInterrupt)
    (by rw [htotal]; exact hle)
  rw [← helapsed] at htotalUs hticks hphase
  refine ⟨?_, e, _, rfl, htotalUs, by rw [htotal]; exact hle, hticks, hphase, ?_⟩
  · rw [hbegun.requested, m.settings.toNat_deepTicks]
    rfl
  · intro hsource hclamp hwraps
    have halarm : m.settings.endsByAlarm ticks m.platform.chip = true := by
      rw [helapsed, Elapsed.split_source] at hsource
      by_contra hother
      rw [if_neg hother] at hsource
      cases hsource
    rw [htotal]
    exact hbegun.request_sub_lt hv hlead halarm hclamp hwraps

/-- Half a second of deep sleep that the alarm ends, with a wake path of 58 cycles. -/
theorem half_second_within_request :
    ∃ m' m'' cycle e total,
      idle 500 (standardManagerWith { wakeCycles := 58 }) = .ok .retained m' ∧ m'.pending = some cycle ∧
      resume m' = .ok (some e) m'' ∧ e.totalUs 1000 = .ok total ∧ e.source = .alarm ∧
      total.toNat ≤ 500 * 1000 ∧
      ((500 * 1000 : Nat) : ℚ) - (total.toNat : ℚ) <
        ((1800 : Nat) - (58 : Nat) * 1000000 / (32768 : Nat)) + 1000000 / (32768 : Nat) + 1 := by
  have hruns : Act.passes (idle 500)
      (fun r m' => match m'.pending with
        | some cycle => decide (r = .retained ∧ cycle.requestedTicks = 500 ∧
            minAlarmLead.toNat ≤ cycle.unclampedLead {} ∧ cycle.unclampedLead {} ≤ maxAlarmLead.toNat ∧
            cycle.unclampedLead {} + 58 < 2 ^ 32) &&
          Act.passes resume (fun r _ => r.any fun e => decide (e.source = .alarm)) m'
        | none => false) (standardManagerWith { wakeCycles := 58 }) = true := by
    decide +kernel
  obtain ⟨_, m', hidle, h⟩ := Act.passes_iff.1 hruns
  cases hpending : m'.pending with
  | none => simp [hpending] at h
  | some cycle =>
    simp only [hpending, Bool.and_eq_true, decide_eq_true_eq] at h
    obtain ⟨⟨rfl, hrequested, hlead, hclamp, hwraps⟩, hresumes⟩ := h
    obtain ⟨r, m'', hresume, hsource⟩ := Act.passes_iff.1 hresumes
    obtain ⟨-, e, total, rfl, htotal, hle, -, -, hlost⟩ :=
      deep_sleep_within_request (by decide) hidle hpending hresume hlead (by decide)
    have hsource : e.source = .alarm := of_decide_eq_true hsource
    rw [hrequested] at hle hlost
    exact ⟨m', m'', cycle, e, total, hidle, hpending, hresume, htotal, hsource, hle,
      hlost hsource hclamp hwraps⟩

end

end Tickless
