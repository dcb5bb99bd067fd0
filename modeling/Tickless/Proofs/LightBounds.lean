import Tickless.Proofs.BetweenCalls
import Tickless.Proofs.EarlyWake

/-!
# A light sleep on any chip

The bounds of a light sleep do not rest on what the timer held before it. The reload register cuts a
value that does not fit to its width, the count is cleared before the halt, and what is read off the
timer after the halt is brought within a tick. So the bounds are those of the outcome for every count
that may be read, and one tick counter is all that can overflow.
-/

namespace Tickless

section

variable {s : Settings} (hs : s.Valid) {idleTicks : UInt32} {c : Chip}

/-! ## What may be read off the timer -/

/-- The ways in which a light sleep of a number of ticks comes out on a chip. A count is left if the
timer ran and did not expire. -/
inductive Settings.LightCourse (s : Settings) (ticks : Nat) (c : Chip) : LightOutcome → Prop where
  | pending (hwake : c.core.wakeAfter = some 0) : LightCourse s ticks c (s.interruptedOutcome ticks 0)
  | interrupted (hwake : c.core.wakeAfter ≠ some 0) (count : UInt32) (hcount : 1 ≤ count.toNat) :
      LightCourse s ticks c (s.interruptedOutcome ticks count)
  | expired (hwake : c.core.wakeAfter ≠ some 0) (reload count : UInt32) :
      LightCourse s ticks c (s.expiredOutcome ticks reload count)

theorem Chip.lightCourse (s : Settings) (idleTicks : UInt32) (c : Chip) :
    s.LightCourse (s.lightTicks idleTicks) c (s.lightOutcome idleTicks c) := by
  have houtcome := Chip.lightOutcome_eq s idleTicks c
  have hzero : c.clocksAsleep s idleTicks = 0 ↔ c.core.wakeAfter = some 0 :=
    Chip.clocksAsleep_eq_zero
  rw [Chip.setForSleep_timer_cut] at houtcome
  -- from here on it does not matter how the reload value and the clocks came about
  generalize s.plannedReload idleTicks c.timer.current &&& maxReload = reload at houtcome
  generalize c.clocksAsleep s idleTicks = clocks at houtcome hzero
  by_cases h0 : clocks = 0
  · rw [houtcome, h0, Countdown.elapse_zero]
    exact .pending (hzero.1 h0)
  · have hpos : 0 < clocks.toNat := toNat_pos h0
    have hwake : c.core.wakeAfter ≠ some 0 := fun h => h0 (hzero.2 h)
    by_cases hle : clocks.toNat ≤ reload.toNat
    · have hpred : (clocks - 1).toNat = clocks.toNat - 1 := toNat_sub_one hpos
      have hleft : 1 ≤ (reload - (clocks - 1)).toNat := by
        rw [toNat_sub_word (by omega), hpred]
        omega
      rw [houtcome, Countdown.elapse_cleared_of_le hpos hle]
      exact .interrupted hwake _ hleft
    · rw [houtcome, Countdown.elapse_cleared_of_lt (Nat.lt_of_not_le hle)]
      exact .expired hwake _ _

/-! ## Bounds of an outcome -/

/-- An outcome within a number of ticks that leaves no more than a tick to go. -/
structure LightOutcome.Within (s : Settings) (ticks : Nat) (o : LightOutcome) : Prop where
  ticks_le : o.ticks.toNat ≤ ticks
  reload_le : o.nextReload.toNat ≤ s.perTick
  phase_lt : o.phaseCounts.toNat < s.perTick

include hs

theorem Settings.Valid.interruptedOutcome_within (idleTicks count : UInt32) :
    (s.interruptedOutcome (s.lightTicks idleTicks) count).Within s (s.lightTicks idleTicks) := by
  have hper := hs.perTick_lt
  have hmod := Nat.mod_lt (s.lightTicks idleTicks * s.perTick - count.toNat) hs.perTick_pos
  refine ⟨?_, ?_, ?_⟩
  · rw [hs.toNat_interrupted_ticks]
    calc (s.lightTicks idleTicks * s.perTick - count.toNat) / s.perTick
        ≤ s.lightTicks idleTicks * s.perTick / s.perTick := Nat.div_le_div_right (Nat.sub_le _ _)
      _ = s.lightTicks idleTicks := Nat.mul_div_cancel _ hs.perTick_pos
  · show (UInt32.ofNat (s.perTick - _)).toNat ≤ _
    rw [toNat_word (by omega)]
    exact Nat.sub_le _ _
  · show (UInt32.ofNat _).toNat < _
    rwa [toNat_word (by omega)]

theorem Settings.Valid.expiredOutcome_within (idleTicks reload count : UInt32) :
    (s.expiredOutcome (s.lightTicks idleTicks) reload count).Within s (s.lightTicks idleTicks) := by
  have hper := hs.perTick_lt
  have hpos := hs.perTick_pos
  refine ⟨?_, ?_, ?_⟩
  · rw [s.toNat_expired_ticks]
    exact Nat.sub_le _ _
  · show (if _ then _ else _ : UInt32).toNat ≤ _
    split
    · rw [hs.toNat_pred_perTick]
      exact Nat.sub_le _ _
    · next h =>
      -- a remainder of more than a tick was replaced by a whole tick
      have hle : ¬ UInt32.ofNat (s.perTick - 1) - (reload - count) > UInt32.ofNat s.perTick := by
        simp only [Bool.or_eq_true, decide_eq_true_eq, not_or] at h
        exact h.2
      rw [gt_iff_lt, UInt32.lt_iff_toNat_lt, toNat_word (show s.perTick < 2 ^ 32 by omega)] at hle
      exact Nat.le_of_not_lt hle
  · show (UInt32.ofNat (s.perTick - 1 - _)).toNat < _
    rw [toNat_word (by omega)]
    omega

theorem Settings.LightCourse.within {idleTicks : UInt32} {o : LightOutcome}
    (h : s.LightCourse (s.lightTicks idleTicks) c o) : o.Within s (s.lightTicks idleTicks) := by
  cases h with
  | pending hwake => exact hs.interruptedOutcome_within idleTicks 0
  | interrupted hwake count hcount => exact hs.interruptedOutcome_within idleTicks count
  | expired hwake reload count => exact hs.expiredOutcome_within idleTicks reload count

/-- The ticks of an interrupted sleep fall short of those it was set for as soon as a count is left. -/
theorem Settings.Valid.interrupted_ticks_lt (idleTicks : UInt32) {count : UInt32}
    (hcount : 1 ≤ count.toNat) :
    (s.interruptedOutcome (s.lightTicks idleTicks) count).ticks.toNat < s.lightTicks idleTicks := by
  have hone := s.one_le_lightTicks idleTicks
  have hmul := Nat.mul_pos hone hs.perTick_pos
  rw [hs.toNat_interrupted_ticks, Nat.div_lt_iff_lt_mul hs.perTick_pos]
  omega

/-- All ticks that a light sleep is set for are stepped exactly if an interrupt was pending before the
halt. -/
theorem Settings.LightCourse.ticks_eq_iff {idleTicks : UInt32} {o : LightOutcome}
    (h : s.LightCourse (s.lightTicks idleTicks) c o) :
    o.ticks.toNat = s.lightTicks idleTicks ↔ c.core.wakeAfter = some 0 := by
  have hone := s.one_le_lightTicks idleTicks
  cases h with
  | pending hwake =>
    rw [hs.toNat_interrupted_ticks]
    exact ⟨fun _ => hwake, fun _ => Nat.mul_div_cancel _ hs.perTick_pos⟩
  | interrupted hwake count hcount =>
    have hlt := hs.interrupted_ticks_lt idleTicks hcount
    exact ⟨fun heq => absurd heq (Nat.ne_of_lt hlt), fun h1 => absurd h1 hwake⟩
  | expired hwake reload count =>
    rw [Settings.toNat_expired_ticks]
    exact ⟨fun heq => by omega, fun h1 => absurd h1 hwake⟩

/-! ## Bounds of a light sleep -/

/-- The timer as a light sleep leaves it: at the start of its restart, with the rest of a tick loaded
and whole ticks to follow. -/
theorem Chip.lightSlept_timer (idleTicks : UInt32) (c : Chip) :
    (c.lightSlept s idleTicks).timer.enabled = true ∧
      (c.lightSlept s idleTicks).timer.reload = UInt32.ofNat (s.perTick - 1) ∧
      (c.lightSlept s idleTicks).timer.current = 0 := by
  obtain ⟨henabled, hreload, -⟩ := Chip.resynced_timer hs (s.lightOutcome idleTicks c).nextReload
    (c.setForSleep s idleTicks).halted
  exact ⟨henabled, hreload, rfl⟩

omit hs in
/-- With valid settings a light sleep on any chip comes to its end as long as the tick counter has room
for its ticks. It steps no more than the ticks that fit the timer, and at least one is always allowed.
Its phase is less than a tick, the timer is restarted with no more than a tick to go, and it is left
running with whole ticks to follow. -/
theorem light_sleep_within_bounds (hs : s.validate = .ok s) {b : Bench}
    (hroom : b.kernel.tickCount.toNat + (s.lightElapsed idleTicks b.chip).wholeTicks.toNat <
      2 ^ 64) :
    ∃ e b', sleepLightly s idleTicks b = .ok e b' ∧
      e.wholeTicks.toNat ≤ max 1 (min idleTicks.toNat s.lightLimit) ∧
      e.phaseUs.toNat < s.period ∧
      (s.lightOutcome idleTicks b.chip).nextReload.toNat ≤ s.perTick ∧
      b'.chip.events = (s.lightEvents (s.plannedReload idleTicks b.chip.timer.current)
        (s.lightOutcome idleTicks b.chip).nextReload).foldl (fun t e => t.push e) b.chip.events ∧
      b'.chip.timer.enabled = true ∧ b'.chip.timer.reload = UInt32.ofNat (s.perTick - 1) ∧
      b'.chip.timer.current = 0 := by
  obtain ⟨hv, -⟩ := Settings.validate_eq_ok.1 hs
  have hwithin := (Chip.lightCourse s idleTicks b.chip).within hv
  have hphase : (s.lightElapsed idleTicks b.chip).phaseUs.toNat < s.period := by
    have hlt := counts_mul_div_lt hv hwithin.phase_lt
    have hperiod := s.period_le
    show (UInt32.ofNat _).toNat < _
    rwa [toNat_word (by omega)]
  obtain ⟨henabled, hreload, hcurrent⟩ := Chip.lightSlept_timer hv idleTicks b.chip
  refine ⟨_, _, (Bench.sleepLightly_eq_ok hv).2 ⟨_, Kernel.step_eq_ok.2 ⟨hroom, rfl⟩, rfl, rfl⟩,
    hwithin.ticks_le, hphase, hwithin.reload_le, ?_, henabled, hreload, hcurrent⟩
  exact Chip.events_resynced_halted s idleTicks _ b.chip

end

/-- A light sleep from registers that no run leaves behind: a count and a reload value past the width of
the timer, an expiry that nobody read, and a halt that the timer cannot end in time. -/
theorem light_sleep_from_stray_registers :
    ∃ b : Bench, b.chip.timer = ⟨0xFFFFFFFF, 0xFFFFFFFF, false, true⟩ ∧
      Settings.validate {} = .ok {} ∧
      ∃ e b', sleepLightly {} 0 b = .ok e b' ∧ e.wholeTicks.toNat ≤ 1 ∧
        e.phaseUs.toNat < Settings.period {} ∧ b'.chip.timer.current = 0 := by
  let b : Bench := { chip := {
    timer := ⟨0xFFFFFFFF, 0xFFFFFFFF, false, true⟩
    core := { wakeAfter := some 0xFFFFFFFF, haltLatency := 0xFFFFFFFF } } }
  obtain ⟨e, b', h, hticks, hphase, -, -, -, -, hcurrent⟩ :=
    @light_sleep_within_bounds {} 0 (by decide) b (by decide)
  exact ⟨b, rfl, by decide, e, b', h, hticks, hphase, hcurrent⟩

end Tickless
