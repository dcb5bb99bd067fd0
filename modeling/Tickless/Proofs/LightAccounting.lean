import Mathlib.Tactic.Linarith
import Tickless.Proofs.Countdown
import Tickless.Proofs.LightSleep

/-!
# What a light sleep accounts for

The halt of a light sleep starts with a cleared count, so the instant of the wake decides among three
ways to come out. Past the reload value the timer has expired. Within it, the count tells how many
clocks have run. With no clock at all the count is still the zero of the clear, which reads like the
end of the period.
-/

namespace Tickless

/-- The timer clocks that a light sleep halts for. -/
def Chip.clocksAsleep (s : Settings) (idleTicks : UInt32) (c : Chip) : UInt32 :=
  (c.setForSleep s idleTicks).haltClocks

section

variable {s : Settings} (hs : s.Valid) {idleTicks : UInt32} {c : Chip}

theorem Chip.haltClocks_of_none (h : c.core.wakeAfter = none) :
    c.haltClocks = Saturating.add c.timer.clocksToExpiry c.core.haltLatency := by
  unfold haltClocks
  rw [h]

theorem Chip.haltClocks_of_some {n : UInt32} (h : c.core.wakeAfter = some n) :
    c.haltClocks = min n (Saturating.add c.timer.clocksToExpiry c.core.haltLatency) := by
  unfold haltClocks
  rw [h]

/-- Only an interrupt that is pending already keeps the timer from running at all. -/
theorem Chip.clocksAsleep_eq_zero :
    c.clocksAsleep s idleTicks = 0 ↔ c.core.wakeAfter = some 0 := by
  have hpos : 1 ≤ (Saturating.add (c.setForSleep s idleTicks).timer.clocksToExpiry
      c.core.haltLatency).toNat := by
    have hexp : 1 ≤ (c.setForSleep s idleTicks).timer.clocksToExpiry.toNat := by
      show 1 ≤ (Saturating.add _ (1 : UInt32)).toNat
      rw [toNat_saturating_add]
      show 1 ≤ min (_ + 1) (2 ^ 32 - 1)
      omega
    rw [toNat_saturating_add]
    omega
  cases hwake : c.core.wakeAfter with
  | none =>
    have hclocks : c.clocksAsleep s idleTicks = Saturating.add _ _ := Chip.haltClocks_of_none hwake
    rw [hclocks]
    simp only [reduceCtorEq, iff_false]
    intro h
    have h0 := congrArg UInt32.toNat h
    exact absurd h0 (Nat.ne_of_gt hpos)
  | some n =>
    have hclocks : c.clocksAsleep s idleTicks = min n (Saturating.add _ _) :=
      Chip.haltClocks_of_some hwake
    rw [hclocks, Option.some.injEq, ← UInt32.toNat_inj, ← UInt32.toNat_inj, toNat_min]
    constructor
    · intro h
      rcases Nat.min_eq_zero_iff.1 h with h0 | h0
      · exact h0
      · exact absurd h0 (Nat.ne_of_gt hpos)
    · intro h
      rw [h]
      exact Nat.zero_min _

/-- Before the halt, the timer holds nothing of what it held before. -/
theorem Chip.setForSleep_timer_cut (s : Settings) (idleTicks : UInt32) (c : Chip) :
    (c.setForSleep s idleTicks).timer =
      { reload := s.plannedReload idleTicks c.timer.current &&& maxReload, current := 0,
        enabled := true, expired := false } := rfl

theorem Chip.lightOutcome_eq (s : Settings) (idleTicks : UInt32) (c : Chip) :
    s.lightOutcome idleTicks c =
      s.haltOutcome (s.lightTicks idleTicks) (s.plannedReload idleTicks c.timer.current)
        ((c.setForSleep s idleTicks).timer.elapse (c.clocksAsleep s idleTicks)) := rfl

/-- The interrupt mask has no part in how a light sleep comes out. -/
theorem Chip.lightOutcome_maskInterrupts (s : Settings) (idleTicks : UInt32) (c : Chip) :
    s.lightOutcome idleTicks c.maskInterrupts = s.lightOutcome idleTicks c := by
  have hclocks : c.maskInterrupts.clocksAsleep s idleTicks = c.clocksAsleep s idleTicks := rfl
  rw [Chip.lightOutcome_eq, Chip.lightOutcome_eq, Chip.setForSleep_timer_cut,
    Chip.setForSleep_timer_cut, hclocks]
  rfl

include hs

theorem Chip.setForSleep_timer (hc : c.timer.current.toNat < s.perTick) :
    (c.setForSleep s idleTicks).timer =
      { reload := s.plannedReload idleTicks c.timer.current, current := 0, enabled := true,
        expired := false } :=
  Chip.timer_restarted (hs.plannedReload_le idleTicks hc) _

/-! ## The three ways to come out -/

/-- No clock has run. -/
theorem Chip.lightOutcome_of_zero (hc : c.timer.current.toNat < s.perTick)
    (h : c.clocksAsleep s idleTicks = 0) :
    s.lightOutcome idleTicks c = s.interruptedOutcome (s.lightTicks idleTicks) 0 := by
  rw [Chip.lightOutcome_eq, h, Countdown.elapse_zero, Chip.setForSleep_timer hs hc]
  rfl

/-- The timer ran and did not expire. -/
theorem Chip.lightOutcome_of_le (hc : c.timer.current.toNat < s.perTick)
    (h1 : 1 ≤ (c.clocksAsleep s idleTicks).toNat)
    (h : (c.clocksAsleep s idleTicks).toNat ≤ (s.plannedReload idleTicks c.timer.current).toNat) :
    s.lightOutcome idleTicks c = s.interruptedOutcome (s.lightTicks idleTicks)
      (s.plannedReload idleTicks c.timer.current - (c.clocksAsleep s idleTicks - 1)) := by
  rw [Chip.lightOutcome_eq, Chip.setForSleep_timer hs hc, Countdown.elapse_cleared_of_le h1 h]
  rfl

/-- The timer expired. -/
theorem Chip.lightOutcome_of_lt (hc : c.timer.current.toNat < s.perTick)
    (h : (s.plannedReload idleTicks c.timer.current).toNat < (c.clocksAsleep s idleTicks).toNat) :
    s.lightOutcome idleTicks c = s.expiredOutcome (s.lightTicks idleTicks)
      (s.plannedReload idleTicks c.timer.current)
      (Countdown.countAfterZero (s.plannedReload idleTicks c.timer.current)
        ((c.clocksAsleep s idleTicks).toNat - 1 -
          (s.plannedReload idleTicks c.timer.current).toNat)) := by
  rw [Chip.lightOutcome_eq, Chip.setForSleep_timer hs hc, Countdown.elapse_cleared_of_lt h]
  rfl

/-! ## Whole ticks -/

omit hs in
/-- An expired sleep steps all ticks but the one whose interrupt is pending. -/
theorem Settings.toNat_expired_ticks (s : Settings) (idleTicks reload count : UInt32) :
    (s.expiredOutcome (s.lightTicks idleTicks) reload count).ticks.toNat =
      s.lightTicks idleTicks - 1 :=
  toNat_word (by have := s.lightTicks_lt idleTicks; omega)

/-- The ticks of an interrupted sleep are those in the counts it has completed. -/
theorem Settings.Valid.toNat_interrupted_ticks (current : UInt32) :
    (s.interruptedOutcome (s.lightTicks idleTicks) current).ticks.toNat =
      (s.lightTicks idleTicks * s.perTick - current.toNat) / s.perTick := by
  have hfit := hs.lightTicks_mul_le idleTicks
  have hmax := toNat_maxReload
  have hdiv := Nat.div_le_self (s.lightTicks idleTicks * s.perTick - current.toNat) s.perTick
  exact toNat_word (by omega)

/-- The counts that an interrupted sleep has completed are those of the tick before it, those that
ran, and those that the timer was set short by. -/
theorem Settings.Valid.completed_eq (hc : c.timer.current.toNat < s.perTick)
    (h1 : 1 ≤ (c.clocksAsleep s idleTicks).toNat)
    (h : (c.clocksAsleep s idleTicks).toNat ≤ (s.plannedReload idleTicks c.timer.current).toNat) :
    s.lightTicks idleTicks * s.perTick -
        (s.plannedReload idleTicks c.timer.current - (c.clocksAsleep s idleTicks - 1)).toNat =
      (s.perTick - 1 - c.timer.current.toNat) + (c.clocksAsleep s idleTicks).toNat +
        if s.stoppedCounts.toNat < c.timer.current.toNat + s.perTick * (s.lightTicks idleTicks - 1) then
          s.stoppedCounts.toNat else 0 := by
  have hpred : (c.clocksAsleep s idleTicks - 1).toNat = (c.clocksAsleep s idleTicks).toNat - 1 :=
    toNat_sub_one h1
  rw [toNat_sub_word (by omega), hpred, s.lightTicks_mul_eq]
  rw [hs.toNat_plannedReload idleTicks hc] at h ⊢
  split at h
  · rw [if_pos (by assumption)]
    omega
  · rw [if_neg (by assumption)]
    omega

/-- Once a clock has run, the ticks of a light sleep are within the clocks that passed. -/
theorem Settings.Valid.ticks_within_clocks (hc : c.timer.current.toNat < s.perTick)
    (h : c.core.wakeAfter ≠ some 0) :
    (s.lightElapsed idleTicks c).wholeTicks.toNat * s.perTick ≤
      (s.perTick - 1 - c.timer.current.toNat) + (c.clocksAsleep s idleTicks).toNat +
        s.stoppedCounts.toNat := by
  have hpos : 1 ≤ (c.clocksAsleep s idleTicks).toNat := by
    rcases Nat.eq_zero_or_pos (c.clocksAsleep s idleTicks).toNat with h0 | h0
    · exact absurd (Chip.clocksAsleep_eq_zero.1 (UInt32.toNat_inj.1 h0)) h
    · exact h0
  show (s.lightOutcome idleTicks c).ticks.toNat * s.perTick ≤ _
  rcases Nat.lt_or_ge (s.plannedReload idleTicks c.timer.current).toNat
    (c.clocksAsleep s idleTicks).toNat with hlt | hle
  · have hticks : (s.lightOutcome idleTicks c).ticks.toNat = s.lightTicks idleTicks - 1 := by
      rw [Chip.lightOutcome_of_lt hs hc hlt]
      exact s.toNat_expired_ticks idleTicks _ _
    have hreload := hs.toNat_plannedReload idleTicks hc
    rw [hticks, Nat.mul_comm]
    split at hreload <;> omega
  · rw [Chip.lightOutcome_of_le hs hc hpos hle, hs.toNat_interrupted_ticks]
    refine Nat.le_trans (Nat.div_mul_le_self _ _) ?_
    rw [hs.completed_eq hc hpos hle]
    split <;> omega

omit hs in
/-- The tick runs ahead of the clocks exactly if an interrupt was pending before the halt and the
ticks of the request are more than what was over of the tick. -/
theorem Bench.stepped_within_clocks_iff (hs : s.validate = .ok s) {b b' : Bench} {e : Elapsed}
    (hc : b.chip.timer.current.toNat < s.perTick) (h : sleepLightly s idleTicks b = .ok e b') :
    b.kernel.step e.wholeTicks = .ok b'.kernel ∧
      (e.wholeTicks.toNat * s.perTick ≤
          (s.perTick - 1 - b.chip.timer.current.toNat) + (b.chip.clocksAsleep s idleTicks).toNat +
            s.stoppedCounts.toNat ↔
        (b.chip.core.wakeAfter = some 0 →
          s.lightTicks idleTicks * s.perTick ≤
            (s.perTick - 1 - b.chip.timer.current.toNat) + s.stoppedCounts.toNat)) := by
  obtain ⟨hv, -⟩ := Settings.validate_eq_ok.1 hs
  obtain ⟨k, hk, rfl, rfl⟩ := (Bench.sleepLightly_eq_ok hv).1 h
  refine ⟨hk, ?_⟩
  by_cases h0 : b.chip.core.wakeAfter = some 0
  · have hclocks : b.chip.clocksAsleep s idleTicks = 0 := Chip.clocksAsleep_eq_zero.2 h0
    have hticks : (s.lightElapsed idleTicks b.chip).wholeTicks.toNat = s.lightTicks idleTicks := by
      show (s.lightOutcome idleTicks b.chip).ticks.toNat = _
      rw [Chip.lightOutcome_of_zero hv hc hclocks, hv.toNat_interrupted_ticks]
      exact Nat.mul_div_cancel _ hv.perTick_pos
    rw [hticks, hclocks]
    exact ⟨fun hle _ => hle, fun hle => hle h0⟩
  · exact ⟨fun _ h1 => absurd h1 h0, fun _ => hv.ticks_within_clocks hc h0⟩

end

/-- A bench at the start of a tick of the standard settings, with the interrupt that ends its next
halt. -/
def Bench.atTickStart (wakeAfter : Option UInt32) : Bench :=
  { chip := { timer := .running 23999, core := { wakeAfter } } }

/-- A sleep that an interrupt ends after one tick and a count steps that tick. -/
theorem tick_and_count_stepped_within_clocks :
    Settings.validate {} = .ok {} ∧
      ∃ e b', sleepLightly {} 3 (Bench.atTickStart (some 24001)) = .ok e b' ∧ e.wholeTicks = 1 ∧
        e.wholeTicks.toNat * Settings.perTick {} ≤
          (Settings.perTick {} - 1 - 23999) +
            ((Bench.atTickStart (some 24001)).chip.clocksAsleep {} 3).toNat + 94 :=
  ⟨by decide, _, _, rfl, rfl,
    (Bench.stepped_within_clocks_iff (s := {}) (b := Bench.atTickStart (some 24001)) (by decide)
      (by decide) rfl).2.2 (fun h => by cases h)⟩

/-- An interrupt that is pending before the halt has all ticks of the request stepped although no
clock has run. -/
theorem pending_interrupt_steps_ahead :
    Settings.validate {} = .ok {} ∧
      (Bench.atTickStart (some 0)).chip.timer.current.toNat < Settings.perTick {} ∧
      ∃ e b', sleepLightly {} 3 (Bench.atTickStart (some 0)) = .ok e b' ∧ e.wholeTicks = 3 ∧
        ¬ e.wholeTicks.toNat * Settings.perTick {} ≤
          (Settings.perTick {} - 1 - (Bench.atTickStart (some 0)).chip.timer.current.toNat) +
            ((Bench.atTickStart (some 0)).chip.clocksAsleep {} 3).toNat +
            (Settings.stoppedCounts {}).toNat :=
  ⟨by decide, by decide, _, _, rfl, rfl, by decide⟩

end Tickless
