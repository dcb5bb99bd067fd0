import Tickless.Proofs.IdleDecision

/-!
# Abandoned idle calls

An idle call may be given up before anything sleeps: a task became ready, or the application cancels a
deep sleep in the middle of the entry. By then the scheduler is suspended, interrupts are masked and two
clocks were read. What the entry did is undone, so all that such a call leaves behind is the pair of
events in the log, the reading of the microsecond counter, which takes its time, and the counters of
the call.
-/

namespace Tickless

/-! ## What is undone -/

/-- A suspension that is undone leaves nothing but the record of the depth. -/
theorem Kernel.resume_of_suspend {k k' : Kernel} (h : k.suspend = .ok k') :
    k'.resume = { k with maxSuspendDepth := k'.maxSuspendDepth } := by
  obtain ⟨hlt, rfl⟩ := Kernel.suspend_eq_ok.1 h
  have hdepth : Saturating.sub (UInt32.ofNat (k.suspendDepth.toNat + 1)) 1 = k.suspendDepth := by
    show UInt32.ofNat ((UInt32.ofNat (k.suspendDepth.toNat + 1)).toNat - 1) = _
    rw [toNat_word hlt, Nat.add_sub_cancel]
    exact UInt32.ofNat_toNat
  unfold Kernel.resume
  rw [hdepth]

namespace Chip

variable {c c' : Chip}

/-- A chip with the two events of an abandoned call in its log. -/
def touched (c : Chip) : Chip :=
  { c with events := [.maskInterrupts, .unmaskInterrupts].foldl (fun t e => t.push e) c.events }

theorem unmaskInterrupts_maskInterrupts (h : c.core.masked = false) :
    c.maskInterrupts.unmaskInterrupts = c.touched := by
  show { c with
    core := { c.core with masked := false }
    events := (c.events.push .maskInterrupts).push .unmaskInterrupts } = c.touched
  rw [← h]
  rfl

/-- Masked interrupts do not keep time from passing. -/
theorem elapse_maskInterrupts {us : UInt32} :
    c.maskInterrupts.elapse us = .ok c' ↔ ∃ d, c.elapse us = .ok d ∧ c' = d.maskInterrupts := by
  simp only [elapse_eq_ok]
  constructor
  · rintro ⟨hfit, rfl⟩
    exact ⟨_, ⟨hfit, rfl⟩, rfl⟩
  · rintro ⟨_, ⟨hfit, rfl⟩, rfl⟩
    exact ⟨hfit, rfl⟩

/-- Time changes neither the interrupt mask nor the log. -/
theorem elapse_keeps {us : UInt32} (h : c.elapse us = .ok c') :
    c'.core = c.core ∧ c'.events = c.events := by
  obtain ⟨-, rfl⟩ := elapse_eq_ok.1 h
  exact ⟨rfl, rfl⟩

end Chip

/-! ## What an abandoned call leaves -/

namespace PowerManager

variable {m m' : PowerManager Bench} {ticks : UInt32} {r : IdleOutcome}

/-- What a call leaves alone that sleeps nothing: all of the manager but its platform and its counters,
and all of the scheduler but the record of how deep it was suspended. -/
structure Unmoved (m m' : PowerManager Bench) : Prop where
  manager : m' = { m with platform := m'.platform, stats := m'.stats }
  kernel : m'.platform.kernel =
    { m.platform.kernel with maxSuspendDepth := m'.platform.kernel.maxSuspendDepth }

theorem IdleStep.of_aborted (hstate : m.state = .active) (hunmasked : m.platform.chip.core.masked = false)
    (h : IdleStep ticks m .aborted m') :
    m.Unmoved m' ∧ m'.platform.chip = m.platform.chip.touched ∧
      m'.stats = { m.stats with lastRequestedTicks := ticks, aborts := m.stats.aborts + 1 } := by
  cases h with
  | refused hbusy => exact absurd hstate hbusy
  | aborted _ habort => exact ⟨⟨rfl, rfl⟩, Chip.unmaskInterrupts_maskInterrupts hunmasked, rfl⟩

theorem IdleStep.of_vetoed (hunmasked : m.platform.chip.core.masked = false)
    (h : IdleStep ticks m .vetoed m') :
    m.Unmoved m' ∧
      (∃ c, m.platform.chip.elapse m.platform.chip.power.readingUs = .ok c ∧
        m'.platform.chip = c.touched) ∧
      m'.stats = { m.stats with lastRequestedTicks := ticks, vetoes := m.stats.vetoes + 1 } := by
  cases h with
  | @vetoed hstate habort hdepth p hentry =>
    obtain ⟨k, c, hk, hc, rfl⟩ := Bench.vetoed_of_enterDeep hentry
    have hk : m.platform.kernel.suspend = .ok k := hk
    have hc : m.platform.chip.maskInterrupts.elapse m.platform.chip.power.readingUs = .ok c := hc
    obtain ⟨d, hd, rfl⟩ := Chip.elapse_maskInterrupts.1 hc
    have hmask : d.core.masked = false := by rw [(Chip.elapse_keeps hd).1, hunmasked]
    exact ⟨⟨rfl, Kernel.resume_of_suspend hk⟩,
      ⟨d, hd, Chip.unmaskInterrupts_maskInterrupts hmask⟩, rfl⟩

/-- An idle call that is given up leaves the system as it was. Of the manager only the platform and the
counters change, and of the scheduler only the record of how deep it was suspended. The chip is the one
before the call, or after a veto the one after a reading of the microsecond counter, but for the log.
The log has grown by the two events of the interrupt mask, as far as it has room for them. Of the
counters, only the last request and the one of the outcome change. -/
theorem abandoned_call_leaves_system (hs : m.settings.validate = .ok m.settings)
    (hstate : m.state = .active) (hunmasked : m.platform.chip.core.masked = false)
    (h : idle ticks m = .ok r m') (hr : r = .aborted ∨ r = .vetoed) :
    m' = { m with platform := m'.platform, stats := m'.stats } ∧
      m'.platform.kernel =
        { m.platform.kernel with maxSuspendDepth := m'.platform.kernel.maxSuspendDepth } ∧
      (∃ c, (r = .aborted → c = m.platform.chip) ∧
        (r = .vetoed → m.platform.chip.elapse m.platform.chip.power.readingUs = .ok c) ∧
        m'.platform.chip = { c with events := m'.platform.chip.events }) ∧
      m'.platform.chip.events.entries =
        (m.platform.chip.events.entries ++
          [Event.maskInterrupts, Event.unmaskInterrupts]).take logDepth ∧
      (r = .aborted → m'.stats =
        { m.stats with lastRequestedTicks := ticks, aborts := m.stats.aborts + 1 }) ∧
      (r = .vetoed → m'.stats =
        { m.stats with lastRequestedTicks := ticks, vetoes := m.stats.vetoes + 1 }) := by
  obtain ⟨hv, -⟩ := Settings.validate_eq_ok.1 hs
  have hstep := idleStep_of_idle hv h
  rcases hr with rfl | rfl
  · obtain ⟨⟨hmanager, hkernel⟩, hchip, hstats⟩ := hstep.of_aborted hstate hunmasked
    refine ⟨hmanager, hkernel, ⟨m.platform.chip, fun _ => rfl, nofun, ?_⟩, ?_, fun _ => hstats, nofun⟩
    · rw [hchip]
      rfl
    · rw [hchip]
      exact Trail.entries_foldl_push _ _
  · obtain ⟨⟨hmanager, hkernel⟩, ⟨c, hc, hchip⟩, hstats⟩ := hstep.of_vetoed hunmasked
    refine ⟨hmanager, hkernel, ⟨c, nofun, fun _ => hc, ?_⟩, ?_, nofun, fun _ => hstats⟩
    · rw [hchip]
      rfl
    · rw [hchip, ← (Chip.elapse_keeps hc).2]
      exact Trail.entries_foldl_push _ _

/-- A veto after a reading of the microsecond counter that takes 300 microseconds: the timer has run on
for 7200 clocks. -/
theorem veto_takes_one_reading :
    ∃ m m' : PowerManager Bench, m.platform.chip.power.readingUs = 300 ∧
      m.platform.chip.timer.current = 23999 ∧ idle 500 m = .ok .vetoed m' ∧
      m'.history = m.history ∧ m'.platform.kernel.suspendDepth = 0 ∧
      m'.platform.chip.timer.current = 16799 ∧
      m'.platform.chip.events.entries = [.maskInterrupts, .unmaskInterrupts] := by
  let m : PowerManager Bench :=
    { platform := {
        chip := { timer := .running 23999, power := { readingUs := 300 } }, application := .vetoing }
      settings := {}, entry := ⟨0x08004000⟩ }
  have hruns : Act.passes (idle 500) (fun r _ => r = .vetoed) m = true := by decide +kernel
  obtain ⟨r, m', hidle, hr⟩ := Act.passes_iff.1 hruns
  obtain rfl : r = .vetoed := of_decide_eq_true hr
  obtain ⟨hmanager, hkernel, ⟨c, -, hc, hchip⟩, hlog, -, -⟩ :=
    abandoned_call_leaves_system (m := m) (by decide) rfl rfl hidle (.inr rfl)
  obtain ⟨-, rfl⟩ := Chip.elapse_eq_ok.1 (hc rfl)
  refine ⟨m, m', rfl, rfl, hidle, ?_, ?_, ?_, ?_⟩
  · rw [hmanager]
  · rw [hkernel]
  · rw [hchip]
    show ((Countdown.running 23999).elapse (Saturating.mul 300 24)).current = 16799
    decide
  · rw [hlog]
    rfl

/-- A log that is full gains nothing from an aborted call. -/
theorem full_log_gains_nothing :
    ∃ m m' : PowerManager Bench, m.settings.validate = .ok m.settings ∧ m.state = .active ∧
      m.platform.chip.core.masked = false ∧ idle 1 m = .ok .aborted m' ∧
      m'.platform.chip.events.entries ≠
        m.platform.chip.events.entries ++ [Event.maskInterrupts, Event.unmaskInterrupts] := by
  let log : Trail Event logDepth :=
    ⟨List.replicate logDepth Event.unmaskInterrupts, by rw [List.length_replicate]⟩
  let m : PowerManager Bench :=
    { platform := { chip := { timer := .running 23999, events := log }, kernel := { abort := true } }
      settings := {}, entry := ⟨0x08004000⟩ }
  refine ⟨m, _, by decide, rfl, rfl, (idle_of_active 1 rfl).trans rfl, fun h => ?_⟩
  -- no log is longer than this one, which would have to grow
  have hgrown := congrArg List.length h
  have hfull : m.platform.chip.events.entries.length = logDepth := List.length_replicate
  have hbound := Trail.length_le (unmasked (m.entered 1).platform).chip.events
  rw [List.length_append, hfull] at hgrown
  exact absurd (hgrown ▸ hbound) (by decide)

end PowerManager

end Tickless
