import Tickless.Proofs.Sessions

/-!
# What holds between calls

Between two calls a manager is running, with nothing of a sleep left over, or asleep, with
everything in place for the boot path. The two are structures, so that each course of a call is shown
to lead from one to the other field by field; a session is then an induction over its calls.
-/

namespace Tickless

open PowerManager

/-- The core registers of a chip out of reset. -/
def resetContext : WakeContext :=
  { vectorTable := 0x08004000, handlerPriorities := 0xF0F00000 }

/-- A manager between calls while the core runs. -/
structure Running (s : Settings) (m : PowerManager Bench) : Prop where
  settings : m.settings = s
  state : m.state = .active
  pending : m.pending = none
  unmasked : m.platform.chip.core.masked = false
  suspendDepth : m.platform.kernel.suspendDepth = 0
  flashAwake : m.platform.chip.flashAsleep = false
  status : m.platform.chip.power.status = .normal
  alarmDisabled : m.platform.chip.rtc.alarmEnabled = false
  alarmCleared : m.platform.chip.rtc.alarmPending = false
  timerEnabled : m.platform.chip.timer.enabled = true
  reload : m.platform.chip.timer.reload = UInt32.ofNat (s.perTick - 1)
  current_le : m.platform.chip.timer.current ≤ m.platform.chip.timer.reload
  context : m.platform.chip.core.context = resetContext

/-- A manager between calls during a deep sleep. -/
structure Asleep (s : Settings) (cycle : SleepCycle) (m : PowerManager Bench) : Prop where
  settings : m.settings = s
  state : m.state = .deepSleep
  pending : m.pending = some cycle
  masked : m.platform.chip.core.masked = true
  suspendDepth : m.platform.kernel.suspendDepth = 1
  flashAsleep : m.platform.chip.flashAsleep = true
  status : m.platform.chip.power.status = .deepSleep
  alarmEnabled : m.platform.chip.rtc.alarmEnabled = true
  alarm : m.platform.chip.rtc.alarm = some cycle.alarm
  resumeEntry : m.platform.chip.power.resumeEntry = some m.entry
  timer : m.platform.chip.timer = {}
  lost : m.platform.chip.core.context = {}
  saved : cycle.context = resetContext

/-- A manager between calls. -/
def BetweenCalls (s : Settings) (m : PowerManager Bench) : Prop :=
  Running s m ∨ ∃ cycle, Asleep s cycle m

variable {s : Settings} {m m' : PowerManager Bench} {cycle : SleepCycle}

/-! ## Surroundings -/

theorem Running.within (h : Running s m) (around : Surroundings) : Running s (m.within around) :=
  { h with }

theorem Asleep.within (h : Asleep s cycle m) (around : Surroundings) :
    Asleep s cycle (m.within around) :=
  { h with }

theorem BetweenCalls.within (h : BetweenCalls s m) (around : Surroundings) :
    BetweenCalls s (m.within around) := by
  rcases h with h | ⟨cycle, h⟩
  · exact .inl (h.within around)
  · exact .inr ⟨cycle, h.within around⟩

/-! ## Time -/

/-- A timer that runs within its reload value goes on so. -/
theorem Countdown.elapse_keeps {t : Countdown} (henabled : t.enabled = true)
    (hcurrent : t.current ≤ t.reload) (n : UInt32) :
    (t.elapse n).enabled = true ∧ (t.elapse n).reload = t.reload ∧
      (t.elapse n).current ≤ (t.elapse n).reload := by
  refine ⟨?_, Countdown.elapse_reload t n, ?_⟩
  · rw [Countdown.elapse_enabled, henabled]
  · rw [Countdown.elapse_reload]
    exact Countdown.elapse_current_le hcurrent n

theorem Running.elapse (h : Running s m) {us : UInt32} {c : Chip}
    (hc : m.platform.chip.elapse us = .ok c) :
    Running s { m with platform := { m.platform with chip := c } } := by
  obtain ⟨-, rfl⟩ := Chip.elapse_eq_ok.1 hc
  obtain ⟨henabled, hreload, hcurrent⟩ := Countdown.elapse_keeps h.timerEnabled h.current_le
    (Saturating.mul us m.platform.chip.core.clocksPerUs)
  exact { h with timerEnabled := henabled, reload := hreload.trans h.reload, current_le := hcurrent }

theorem Asleep.elapse (h : Asleep s cycle m) {us : UInt32} {c : Chip}
    (hc : m.platform.chip.elapse us = .ok c) :
    Asleep s cycle { m with platform := { m.platform with chip := c } } := by
  obtain ⟨-, rfl⟩ := Chip.elapse_eq_ok.1 hc
  have htimer : m.platform.chip.timer.elapse (Saturating.mul us m.platform.chip.core.clocksPerUs) =
      m.platform.chip.timer := Countdown.elapse_of_disabled (by rw [h.timer]) _
  exact { h with timer := htimer.trans h.timer }

/-! ## The idle hook -/

/-- A timer that was set to finish a tick and to go on with whole ticks. -/
theorem Chip.resynced_timer (hs : s.Valid) (first : UInt32) (c : Chip) :
    (c.resynced first (UInt32.ofNat (s.perTick - 1))).timer.enabled = true ∧
      (c.resynced first (UInt32.ofNat (s.perTick - 1))).timer.reload = UInt32.ofNat (s.perTick - 1) ∧
      (c.resynced first (UInt32.ofNat (s.perTick - 1))).timer.current ≤
        (c.resynced first (UInt32.ofNat (s.perTick - 1))).timer.reload := by
  have hper := hs.perTick_le
  refine ⟨rfl, ?_, ?_⟩
  · exact and_maxReload (by rw [hs.toNat_pred_perTick]; omega)
  · rw [UInt32.le_iff_toNat_le]
    exact Nat.zero_le _

theorem Running.idle (hs : s.Valid) (h : Running s m) {ticks : UInt32} {r : IdleOutcome}
    (hstep : IdleStep ticks m r m') : BetweenCalls s m' := by
  obtain rfl : m.settings = s := h.settings
  cases hstep with
  | refused hstate => exact absurd h.state hstate
  | aborted hstate habort => exact .inl { h with unmasked := rfl }
  | @light hstate habort hdepth e p hsleep =>
    obtain ⟨k, hk, -, rfl⟩ := (Bench.sleepLightly_eq_ok hs).1 hsleep
    obtain ⟨-, rfl⟩ := Kernel.step_eq_ok.1 hk
    obtain ⟨henabled, hreload, hcurrent⟩ := Chip.resynced_timer hs
      (m.settings.lightOutcome ticks (m.chosen ticks).platform.chip).nextReload
      ((m.chosen ticks).platform.chip.setForSleep m.settings ticks).halted
    exact .inl { h with
      state := rfl
      unmasked := rfl
      timerEnabled := henabled
      reload := hreload
      current_le := hcurrent }
  | @vetoed hstate habort hdepth p hentry =>
    obtain ⟨k, c, hk, hc, rfl⟩ := Bench.vetoed_of_enterDeep hentry
    obtain ⟨-, rfl⟩ := Kernel.suspend_eq_ok.1 hk
    obtain ⟨-, rfl⟩ := Chip.elapse_eq_ok.1 hc
    obtain ⟨henabled, hreload, hcurrent⟩ := Countdown.elapse_keeps h.timerEnabled h.current_le
      (Saturating.mul m.platform.chip.power.readingUs m.platform.chip.core.clocksPerUs)
    have hdepth : Saturating.sub (UInt32.ofNat (m.platform.kernel.suspendDepth.toNat + 1)) 1 = 0 := by
      rw [h.suspendDepth]
      rfl
    exact .inl { h with
      unmasked := rfl
      suspendDepth := hdepth
      timerEnabled := henabled
      reload := hreload.trans h.reload
      current_le := hcurrent }
  | @retained hstate habort hdepth snap p q cycle hentry hdown =>
    obtain ⟨k, c, hk, hc, -, rfl⟩ := Bench.entered_of_enterDeep hentry
    obtain ⟨c', hc', -, -, -, hcycle, rfl⟩ := (Bench.powerDown_eq_ok hs).1 hdown
    obtain ⟨-, rfl⟩ := Kernel.suspend_eq_ok.1 hk
    obtain ⟨-, rfl⟩ := Chip.elapse_eq_ok.1 hc
    obtain ⟨-, rfl⟩ := Chip.elapse_eq_ok.1 hc'
    refine .inr ⟨cycle, rfl, rfl, rfl, rfl, ?_, rfl, rfl, rfl, rfl, rfl, rfl, rfl, ?_⟩
    · show UInt32.ofNat (m.platform.kernel.suspendDepth.toNat + 1) = 1
      rw [h.suspendDepth]
      rfl
    · rw [hcycle]
      exact h.context

/-- The idle hook is refused during a deep sleep. -/
theorem Asleep.idle (h : Asleep s cycle m) {ticks : UInt32} {r : IdleOutcome}
    (hstep : IdleStep ticks m r m') : Asleep s cycle m' := by
  have hbusy : m.state ≠ .active := by
    rw [h.state]
    decide
  cases hstep with
  | refused hstate => exact { h with }
  | aborted hstate habort => exact absurd hstate hbusy
  | light hstate habort hdepth hsleep => exact absurd hstate hbusy
  | vetoed hstate habort hdepth hentry => exact absurd hstate hbusy
  | retained hstate habort hdepth hentry hdown => exact absurd hstate hbusy

/-! ## The boot path -/

/-- Without a deep sleep, the boot path has nothing to do. -/
theorem Running.resume (h : Running s m) {r : Option Elapsed} (hstep : ResumeStep m r m') :
    Running s m' := by
  cases hstep with
  | nothing hpending => exact { h with }
  | slept hpending hmeasure hstart =>
    rw [h.pending] at hpending
    cases hpending

theorem Asleep.resume (hs : s.Valid) (h : Asleep s cycle m) {r : Option Elapsed}
    (hstep : ResumeStep m r m') : Running s m' := by
  obtain rfl : m.settings = s := h.settings
  cases hstep with
  | nothing hpending =>
    rw [h.pending] at hpending
    cases hpending
  | @slept cycle' hpending e p q hmeasure hstart =>
    rw [h.pending] at hpending
    cases hpending
    obtain ⟨-, -, -, rfl⟩ := (Bench.reconcile_eq_ok hs).1 hmeasure
    obtain ⟨k, hk, rfl⟩ := (Bench.reactivate_eq_ok hs).1 hstart
    obtain ⟨-, rfl⟩ := Kernel.step_eq_ok.1 hk
    obtain ⟨henabled, hreload, hcurrent⟩ := Chip.resynced_timer hs (m.settings.resumeReload e.phaseUs)
      (awake cycle m.platform).chip.disarmed.sampled
    have hdepth : Saturating.sub m.platform.kernel.suspendDepth 1 = 0 := by
      rw [h.suspendDepth]
      rfl
    exact {
      settings := rfl
      state := rfl
      pending := rfl
      unmasked := rfl
      suspendDepth := hdepth
      flashAwake := rfl
      status := rfl
      alarmDisabled := rfl
      alarmCleared := rfl
      timerEnabled := henabled
      reload := hreload
      current_le := hcurrent
      context := h.saved }

/-! ## Sessions -/

theorem BetweenCalls.step (hs : s.Valid) (h : BetweenCalls s m) {call : Call} {reply : Reply}
    (hstep : CallStep m call reply m') : BetweenCalls s m' := by
  cases hstep with
  | idle hidle =>
    rcases h with h | ⟨cycle, h⟩
    · exact h.idle hs hidle
    · exact .inr ⟨cycle, h.idle hidle⟩
  | resume hresume =>
    rcases h with h | ⟨cycle, h⟩
    · exact .inl (h.resume hresume)
    · exact .inl (h.resume hs hresume)
  | elapse hc =>
    rcases h with h | ⟨cycle, h⟩
    · exact .inl (h.elapse hc)
    · exact .inr ⟨cycle, h.elapse hc⟩

theorem BetweenCalls.settings_eq (h : BetweenCalls s m) : m.settings = s := by
  rcases h with h | ⟨cycle, h⟩
  · exact h.settings
  · exact h.settings

theorem BetweenCalls.session (hs : s.Valid) (h : BetweenCalls s m)
    {calls : List (Surroundings × Call)} {replies : List Reply}
    (hrun : session calls m = .ok replies m') : BetweenCalls s m' := by
  induction calls generalizing m replies with
  | nil =>
    cases hrun
    exact h
  | cons first rest ih =>
    obtain ⟨around, call⟩ := first
    obtain ⟨reply, m1, later, hcall, hrest, -⟩ := session_cons_eq_ok.1 hrun
    have haround := h.within around
    have hv : (m.within around).settings.Valid := by rw [haround.settings_eq]; exact hs
    exact ih (haround.step hs (callStep_of_answer hv hcall)) hrest

/-- A manager that was created on a chip out of reset is running. -/
theorem running_of_create {entry : ResumeEntry} {a : Application} {c : Chip}
    (hchip : Chip.fresh s = .ok c)
    (hcreate : PowerManager.create s entry { chip := c, application := a : Bench } = .ok m) :
    s.Valid ∧ Running s m := by
  cases hvalidate : s.validate with
  | error e =>
    unfold PowerManager.create at hcreate
    rw [hvalidate] at hcreate
    cases hcreate
  | ok s' =>
    obtain ⟨hs, rfl⟩ := Settings.validate_eq_ok.1 hvalidate
    unfold PowerManager.create at hcreate
    rw [hvalidate] at hcreate
    cases hchip.symm.trans (Chip.fresh_eq hs)
    cases hcreate
    refine ⟨hs, rfl, rfl, rfl, rfl, rfl, rfl, rfl, rfl, rfl, rfl, rfl, ?_, rfl⟩
    rw [UInt32.le_iff_toNat_le]
    exact Nat.le_refl _

/-- After every session of a manager that was created on a chip out of reset, it is running or in a
deep sleep, and asleep exactly if there is a deep sleep to resume from. -/
theorem between_calls_of_session {entry : ResumeEntry} {a : Application} {c : Chip}
    {calls : List (Surroundings × Call)} {replies : List Reply} (hchip : Chip.fresh s = .ok c)
    (hcreate : PowerManager.create s entry { chip := c, application := a : Bench } = .ok m)
    (hrun : session calls m = .ok replies m') :
    (m'.state = .active ∨ m'.state = .deepSleep) ∧
      (m'.state = .deepSleep ↔ m'.pending.isSome) ∧
      (m'.state = .active → Running s m') ∧
      (m'.state = .deepSleep → ∃ cycle, m'.pending = some cycle ∧ Asleep s cycle m') := by
  obtain ⟨hs, hstart⟩ := running_of_create hchip hcreate
  rcases BetweenCalls.session hs (.inl hstart) hrun with h | ⟨cycle, h⟩
  · have hstate := h.state
    refine ⟨.inl hstate, ?_, fun _ => h, ?_⟩
    · rw [hstate, h.pending]
      decide
    · intro hasleep
      rw [hstate] at hasleep
      cases hasleep
  · have hstate := h.state
    refine ⟨.inr hstate, ?_, ?_, fun _ => ⟨cycle, h.pending, h⟩⟩
    · rw [hstate, h.pending]
      exact ⟨fun _ => rfl, fun _ => rfl⟩
    · intro hactive
      rw [hstate] at hactive
      cases hactive

/-- A light sleep, some time, a deep sleep that is cut short, a call during it, and the boot path. -/
def sampleCalls : List (Surroundings × Call) :=
  [({}, .idle 3), ({}, .elapse 250), ({ sleepWakeAfter := some 4000 }, .idle 500), ({}, .idle 7),
    ({}, .resume)]

/-- The sample session runs to its end and leaves the manager running. -/
theorem sample_session_running :
    ∃ c m replies m', Chip.fresh {} = .ok c ∧
      PowerManager.create {} ⟨0x08004000⟩ { chip := c : Bench } = .ok m ∧
      session sampleCalls m = .ok replies m' ∧ m'.state = .active ∧ Running {} m' := by
  have hpasses : ∃ c m, Chip.fresh {} = .ok c ∧
      PowerManager.create {} ⟨0x08004000⟩ { chip := c : Bench } = .ok m ∧
      Act.passes (session sampleCalls) (fun _ m' => m'.state = .active) m = true :=
    ⟨_, _, rfl, rfl, by decide +kernel⟩
  obtain ⟨c, m, hchip, hcreate, hruns⟩ := hpasses
  obtain ⟨replies, m', hrun, hactive⟩ := Act.passes_iff.1 hruns
  have hactive : m'.state = .active := of_decide_eq_true hactive
  exact ⟨c, m, replies, m', hchip, hcreate, hrun, hactive,
    (between_calls_of_session hchip hcreate hrun).2.2.1 hactive⟩

end Tickless
