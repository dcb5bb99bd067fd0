import Tickless.Proofs.Bookkeeping
import Tickless.Proofs.DeepCycle
import Tickless.Proofs.HaltedCalls
import Tickless.Proofs.IdleDecision
import Tickless.Proofs.LightAccounting

/-!
# What can halt a deep sleep

Two things are left that can halt a deep sleep with valid settings and a scheduler whose counters have
room. One is a sample of the real-time counter that is never ready, which the polling policy turns into
a fault or into a wait without end. The other is the way from the budget of the alarm to oscillator
cycles: the budget may be so long, and the oscillator so fast, that their product does not fit a long
word. It is then that the alarm would have been cut to its bounds, but the product comes first.

A sleep has no other arithmetic that fails. What is read off the timer is brought within a tick, the
latency is a difference that wraps, and a measured time always fits.
-/

namespace Tickless

open PowerManager

/-! ## A sample that is never ready -/

namespace Bench

/-- A sample that is not read is waited for without end or given up. -/
theorem sampleCounter_halts {policy : PollPolicy} {stage : SampleStage} {b b' : Bench} {h : Halt}
    (hsample : sampleCounter policy stage b = .error h b') :
    h = .endless ∨ h = .fault (.sampleStuck stage) := by
  have hread : b.chip.rtc.stuck = false → ¬ policy.Outlasts b.chip.rtc.busyPolls := by
    intro hstuck hpolls
    rw [sampleCounter_eq_ok.2 ⟨hstuck, hpolls, rfl, rfl⟩] at hsample
    cases hsample
  cases policy with
  | unbounded =>
    cases hstuck : b.chip.rtc.stuck with
    | true =>
      rw [sampleCounter_endless hstuck] at hsample
      cases hsample
      exact .inl rfl
    | false => exact absurd trivial (hread hstuck)
  | bounded budget =>
    cases hstuck : b.chip.rtc.stuck with
    | true =>
      rw [sampleCounter_fault_of_stuck hstuck] at hsample
      cases hsample
      exact .inr rfl
    | false =>
      rw [sampleCounter_fault_of_le hstuck (Nat.le_of_not_lt (hread hstuck))] at hsample
      cases hsample
      exact .inr rfl

end Bench

/-! ## The acts of a deep sleep -/

/-- The budget of the alarm, times the oscillator frequency, does not fit a long word. -/
def Settings.BudgetOverflows (s : Settings) (idleTicks timerCount latencyUs hz : UInt32) : Prop :=
  2 ^ 64 ≤ s.budgetUs idleTicks timerCount latencyUs * hz.toNat

section

variable {s : Settings} (hs : s.Valid) {idleTicks : UInt32}

include hs

theorem Settings.Valid.wantedCycles_of_overflow {timerCount latencyUs hz : UInt32}
    (h : s.BudgetOverflows idleTicks timerCount latencyUs hz) :
    wantedCycles s (UInt32.ofNat (s.deepTicks idleTicks)) (UInt32.ofNat (s.phaseAt timerCount))
      latencyUs hz = .error .mulOverflow := by
  unfold wantedCycles
  rw [hs.tickPeriodUs_eq, arith_ok_bind, mul_widened, arith_ok_bind]
  refine usToCycles_of_overflow ?_
  rw [toNat_alarmBudgetUs, s.toNat_deepTicks, s.toNat_period, s.toNat_deepTicks_mul,
    hs.toNat_phaseAt]
  exact h

namespace Bench

variable {entry : EntrySnapshot} {cycle : SleepCycle} {b b' : Bench} {c : Chip} {h : Halt}

/-- On the way down, the product of the budget comes before the sample, and nothing after the sample
halts. -/
theorem powerDown_halts (hc : (b.chip.timed s).elapse b.chip.power.readingUs = .ok c)
    (hdown : powerDown s idleTicks entry b = .error h b') :
    s.BudgetOverflows idleTicks entry.timerCount (b.chip.power.freeCounterUs - entry.freeCounterUs)
        b.chip.rtc.oscillatorHz ∧ h = .arithmetic .mulOverflow ∨
      ¬ s.BudgetOverflows idleTicks entry.timerCount
          (b.chip.power.freeCounterUs - entry.freeCounterUs) b.chip.rtc.oscillatorHz ∧
        (h = .endless ∨ h = .fault (.sampleStuck .arming)) := by
  rcases powerDown_eq_error.1 hdown with hplan | ⟨plan, b₁, hplan, hsample⟩
  · rcases planDeep_error hs hplan with ⟨e, he, -⟩ | ⟨c', e, -, he, rfl⟩
    · cases hc.symm.trans he
    · by_cases hover : s.BudgetOverflows idleTicks entry.timerCount
        (b.chip.power.freeCounterUs - entry.freeCounterUs) b.chip.rtc.oscillatorHz
      · cases he.symm.trans (hs.wantedCycles_of_overflow hover)
        exact .inl ⟨hover, rfl⟩
      · cases he.symm.trans (hs.wantedCycles_eq_ok.2 ⟨Nat.lt_of_not_le hover, rfl⟩)
  · obtain ⟨-, -, hfit, -, -⟩ := (planDeep_eq_ok hs).1 hplan
    exact .inr ⟨Nat.not_le.2 hfit, sampleCounter_halts hsample⟩

theorem powerDown_of_overflow (hc : (b.chip.timed s).elapse b.chip.power.readingUs = .ok c)
    (hover : s.BudgetOverflows idleTicks entry.timerCount
      (b.chip.power.freeCounterUs - entry.freeCounterUs) b.chip.rtc.oscillatorHz) :
    ∃ b', powerDown s idleTicks entry b = .error (.arithmetic .mulOverflow) b' := by
  cases hdown : powerDown s idleTicks entry b with
  | ok cycle b' =>
    obtain ⟨-, -, hfit, -⟩ := (powerDown_eq_ok hs).1 hdown
    exact absurd hfit (Nat.not_lt.2 hover)
  | error h b' =>
    rcases powerDown_halts hs hc hdown with ⟨-, rfl⟩ | ⟨hfit, -⟩
    · exact ⟨b', rfl⟩
    · exact absurd hover hfit

/-- A measurement has no arithmetic that fails: it halts in its sample. -/
theorem reconcile_eq_error :
    reconcile s cycle b = .error h b' ↔
      sampleCounter s.polling .reconciling { b with chip := b.chip.disarmed } = .error h b' := by
  unfold reconcile
  simp only [hs.tickPeriodUs_eq, Platform.perform, Bench.perform, ask, Bench.probe, bind_assoc,
    pure_bind, Act.get_bind, Bench.onChip_bind]
  rw [Act.bind_eq_error]
  constructor
  · rintro (hsample | ⟨n, b₁, -, hafter⟩)
    · exact hsample
    · rw [cycle.measuredUs_eq, Act.lift_ok_bind, Act.lift_ok_bind] at hafter
      unfold Elapsed.measure at hafter
      rw [Bench.logIf_bind] at hafter
      cases hafter
  · exact .inl

theorem reconcile_halts (hmeasure : reconcile s cycle b = .error h b') :
    h = .endless ∨ h = .fault (.sampleStuck .reconciling) :=
  sampleCounter_halts ((reconcile_eq_error hs).1 hmeasure)

/-- The restart of the tick comes to its end if the tick counter has room. -/
theorem reactivate_answers {e : Elapsed}
    (hroom : b.kernel.tickCount.toNat + e.wholeTicks.toNat < 2 ^ 64) :
    ∃ b', reactivate s e b = .ok () b' :=
  ⟨_, (reactivate_eq_ok hs).2 ⟨_, Kernel.step_eq_ok.2 ⟨hroom, rfl⟩, rfl⟩⟩

end Bench

end

/-! ## All acts in turn -/

/-- The budget of the alarm overflows for a deep sleep that is entered on a chip. The latency of the
way down is the time of the one reading of the microsecond counter in between. -/
def Chip.BudgetOverflows (s : Settings) (idleTicks : UInt32) (c : Chip) : Prop :=
  s.BudgetOverflows idleTicks c.timer.current c.power.readingUs c.rtc.oscillatorHz

namespace Bench

/-- A deep sleep up to its measurement; there is none if the application cancels the sleep. -/
def measuredSleep (s : Settings) (idleTicks : UInt32) (entry : ResumeEntry) :
    Act Bench (Option Elapsed) := do
  match ← enterDeep with
  | none => return none
  | some snapshot =>
    let cycle ← powerDown s idleTicks snapshot
    Platform.perform (.cutRail entry)
    wakeUp cycle
    return some (← reconcile s cycle)

/-- A deep sleep with all its acts, one after the other. -/
def wholeSleep (s : Settings) (idleTicks : UInt32) (entry : ResumeEntry) :
    Act Bench (Option Elapsed) := do
  match ← measuredSleep s idleTicks entry with
  | none => return none
  | some elapsed =>
    reactivate s elapsed
    return some elapsed

variable {b b' p : Bench} {snap : Option EntrySnapshot} {snapshot : EntrySnapshot}

theorem enterDeep_answers (hreduced : b.chip.rtc.Reduced)
    (hroom : b.kernel.suspendDepth.toNat + 1 < 2 ^ 32) : ∃ snap p, enterDeep b = .ok snap p := by
  obtain ⟨c, hc⟩ := Chip.elapse_of_reduced hreduced b.chip.power.readingUs
  cases hentry : enterDeep b with
  | ok snap p => exact ⟨snap, p, rfl⟩
  | error h p =>
    -- whatever the application says, the entry has an end
    have hk := Kernel.suspend_eq_ok.2 ⟨hroom, rfl⟩
    by_cases hallows : b.application.allowsEntry = true
    · have hok := enterDeep_eq_ok.2 ⟨_, c, hk, hc, (if_pos hallows).mpr ⟨rfl, rfl⟩⟩
      cases hentry.symm.trans hok
    · have hok := enterDeep_eq_ok.2 ⟨_, c, hk, hc, (if_neg hallows).mpr ⟨rfl, rfl⟩⟩
      cases hentry.symm.trans hok

/-- After an entry, the way down reads the microsecond counter in time, and finds the count of the
entry, the latency of a reading and the same oscillator. -/
theorem way_down_of_enterDeep (hentry : enterDeep b = .ok (some snapshot) p) (s : Settings) :
    snapshot.timerCount = b.chip.timer.current ∧
      p.chip.power.freeCounterUs - snapshot.freeCounterUs = b.chip.power.readingUs ∧
      p.chip.rtc.oscillatorHz = b.chip.rtc.oscillatorHz ∧
      ∃ c, (p.chip.timed s).elapse p.chip.power.readingUs = .ok c := by
  obtain ⟨k, c, hk, hc, rfl, rfl⟩ := entered_of_enterDeep hentry
  obtain ⟨-, hchip⟩ := Chip.elapse_eq_ok.1 hc
  have hreduced : c.rtc.Reduced := by
    rw [hchip]
    exact RealTimeCounter.reduced_elapsed _ _
  obtain ⟨c', hc'⟩ := Chip.elapse_of_reduced (c := c.timed s) hreduced c.power.readingUs
  have hhz : c.rtc.oscillatorHz = b.chip.rtc.oscillatorHz := by
    rw [hchip]
    rfl
  exact ⟨rfl, latency_of_enterDeep hentry, hhz, c', hc'⟩

section

variable {s : Settings} (hs : s.Valid) {idleTicks : UInt32} {entry : ResumeEntry} {h : Halt}

include hs

theorem way_down_halts (hentry : enterDeep b = .ok (some snapshot) p)
    (hdown : powerDown s idleTicks snapshot p = .error h b') :
    b.chip.BudgetOverflows s idleTicks ∧ h = .arithmetic .mulOverflow ∨
      ¬ b.chip.BudgetOverflows s idleTicks ∧ (h = .endless ∨ h = .fault (.sampleStuck .arming)) := by
  obtain ⟨hcount, hlatency, hhz, c, hc⟩ := way_down_of_enterDeep hentry s
  have hhalts := powerDown_halts hs hc hdown
  rwa [hcount, hlatency, hhz] at hhalts

theorem way_down_of_overflow (hentry : enterDeep b = .ok (some snapshot) p)
    (hover : b.chip.BudgetOverflows s idleTicks) :
    ∃ b', powerDown s idleTicks snapshot p = .error (.arithmetic .mulOverflow) b' := by
  obtain ⟨hcount, hlatency, hhz, c, hc⟩ := way_down_of_enterDeep hentry s
  refine powerDown_of_overflow hs hc ?_
  rw [hcount, hlatency, hhz]
  exact hover

omit hs in
/-- After the way down, a deep sleep is a measurement on a chip that lost its rail and woke. -/
theorem measuredSleep_of_down {cycle : SleepCycle} {q : Bench}
    (hentry : enterDeep b = .ok (some snapshot) p)
    (hdown : powerDown s idleTicks snapshot p = .ok cycle q) :
    measuredSleep s idleTicks entry b = (reconcile s cycle >>= fun e => pure (some e))
      { q with chip := (q.chip.cutRail entry).woken cycle.context } := by
  unfold measuredSleep
  rw [Act.bind_of_ok hentry]
  exact Act.bind_of_ok hdown

theorem measuredSleep_halts (hreduced : b.chip.rtc.Reduced)
    (hroom : b.kernel.suspendDepth.toNat + 1 < 2 ^ 32)
    (hsleep : measuredSleep s idleTicks entry b = .error h b') :
    b.application.allowsEntry = true ∧ b.chip.BudgetOverflows s idleTicks ∧
        h = .arithmetic .mulOverflow ∨
      h = .endless ∨ ∃ stage, h = .fault (.sampleStuck stage) := by
  obtain ⟨snap, p, hentry⟩ := enterDeep_answers hreduced hroom
  have hafter := (Act.bind_of_ok hentry).symm.trans hsleep
  cases snap with
  | none => cases hafter
  | some snapshot =>
    have hallows := (keeps_of_enterDeep hentry).1.symm
    rcases Act.bind_eq_error.1 hafter with hdown | ⟨cycle, q, hdown, -⟩
    · rcases way_down_halts hs hentry hdown with ⟨hover, rfl⟩ | ⟨-, rfl | rfl⟩
      · exact .inl ⟨hallows, hover, rfl⟩
      · exact .inr (.inl rfl)
      · exact .inr (.inr ⟨.arming, rfl⟩)
    · rw [measuredSleep_of_down hentry hdown] at hsleep
      rcases Act.bind_eq_error.1 hsleep with hmeasure | ⟨e, r, -, hend⟩
      · rcases reconcile_halts hs hmeasure with rfl | rfl
        · exact .inr (.inl rfl)
        · exact .inr (.inr ⟨.reconciling, rfl⟩)
      · cases hend

/-- Up to its measurement, a deep sleep leaves the tick counter alone. -/
theorem tickCount_of_measuredSleep {e : Elapsed}
    (hsleep : measuredSleep s idleTicks entry b = .ok (some e) b') :
    b'.kernel.tickCount = b.kernel.tickCount := by
  obtain ⟨snap, p, hentry, hafter⟩ := Act.bind_eq_ok.1 hsleep
  cases snap with
  | none => cases hafter
  | some snapshot =>
    obtain ⟨cycle, q, hdown, -⟩ := Act.bind_eq_ok.1 hafter
    have htick := (tickCount_of_powerDown hs hdown).trans (tickCount_of_enterDeep hentry)
    rw [measuredSleep_of_down hentry hdown] at hsleep
    obtain ⟨e, r, hmeasure, hend⟩ := Act.bind_eq_ok.1 hsleep
    obtain ⟨-, rfl⟩ := Act.pure_eq_ok.1 hend
    obtain ⟨-, -, -, rfl⟩ := (reconcile_eq_ok hs).1 hmeasure
    exact htick

/-- With room in the tick counter for what was measured, the restart of the tick adds no other way to
halt. -/
theorem wholeSleep_halts (hreduced : b.chip.rtc.Reduced)
    (hroom : b.kernel.suspendDepth.toNat + 1 < 2 ^ 32)
    (hticks : ∀ e q, measuredSleep s idleTicks entry b = .ok (some e) q →
      q.kernel.tickCount.toNat + e.wholeTicks.toNat < 2 ^ 64)
    (hsleep : wholeSleep s idleTicks entry b = .error h b') :
    b.application.allowsEntry = true ∧ b.chip.BudgetOverflows s idleTicks ∧
        h = .arithmetic .mulOverflow ∨
      h = .endless ∨ ∃ stage, h = .fault (.sampleStuck stage) := by
  unfold wholeSleep at hsleep
  rcases Act.bind_eq_error.1 hsleep with hmeasured | ⟨measured, q, hmeasured, hrestart⟩
  · exact measuredSleep_halts hs hreduced hroom hmeasured
  · cases measured with
    | none => cases hrestart
    | some e =>
      obtain ⟨r, hok⟩ := reactivate_answers hs (hticks e q hmeasured)
      have hend := (Act.bind_of_ok hok).symm.trans hrestart
      cases hend

theorem wholeSleep_of_overflow (hreduced : b.chip.rtc.Reduced)
    (hroom : b.kernel.suspendDepth.toNat + 1 < 2 ^ 32) (hallows : b.application.allowsEntry = true)
    (hover : b.chip.BudgetOverflows s idleTicks) :
    ∃ b', wholeSleep s idleTicks entry b = .error (.arithmetic .mulOverflow) b' := by
  obtain ⟨snap, p, hentry⟩ := enterDeep_answers hreduced hroom
  have hsome := (keeps_of_enterDeep hentry).1
  cases snap with
  | none =>
    rw [hallows] at hsome
    cases hsome
  | some snapshot =>
    obtain ⟨b', hdown⟩ := way_down_of_overflow hs hentry hover
    have hmeasured : measuredSleep s idleTicks entry b = .error (.arithmetic .mulOverflow) b' := by
      unfold measuredSleep
      rw [Act.bind_of_ok hentry]
      exact Act.bind_of_error hdown
    exact ⟨b', Act.bind_of_error hmeasured⟩

end

end Bench

/-! ## The calls of a manager -/

namespace PowerManager

variable {m m' : PowerManager Bench} {ticks : UInt32} {h : Halt}

/-- The counters of the scheduler do not overflow. There is room for one more suspension, and for the
ticks that a light sleep steps, that are measured over the pending deep sleep, and that are measured over
a deep sleep that begins now. -/
structure HasRoom (ticks : UInt32) (m : PowerManager Bench) : Prop where
  suspension : m.platform.kernel.suspendDepth.toNat + 1 < 2 ^ 32
  light : m.platform.kernel.tickCount.toNat +
    (m.settings.lightElapsed ticks m.platform.chip).wholeTicks.toNat < 2 ^ 64
  pending : ∀ cycle, m.pending = some cycle →
    m.platform.kernel.tickCount.toNat +
      (Bench.measured m.settings cycle (awake cycle m.platform).chip).wholeTicks.toNat <
        2 ^ 64
  deep : ∀ e b, Bench.measuredSleep m.settings ticks m.entry m.platform = .ok (some e) b →
    b.kernel.tickCount.toNat + e.wholeTicks.toNat < 2 ^ 64

theorem hasRoom_of_lt (hs : m.settings.Valid)
    (hdepth : m.platform.kernel.suspendDepth.toNat + 1 < 2 ^ 32)
    (hticks : m.platform.kernel.tickCount.toNat + (2 ^ 32 - 1) < 2 ^ 64)
    (ticks : UInt32) : m.HasRoom ticks := by
  have hroom : ∀ n : UInt32,
      m.platform.kernel.tickCount.toNat + n.toNat < 2 ^ 64 := fun n => by
    have := word_lt n
    omega
  refine ⟨hdepth, hroom _, fun _ _ => hroom _, fun e b hsleep => ?_⟩
  rw [Bench.tickCount_of_measuredSleep hs hsleep]
  exact hroom _

/-- The deep sleep of an idle call is let in and is so long that the budget of its alarm overflows. -/
def IdleOverflows (ticks : UInt32) (m : PowerManager Bench) : Prop :=
  m.state = .active ∧ m.platform.kernel.abort = false ∧
    m.settings.depth ticks m.gate.isHeld m.platform.application = .deep ∧
    m.platform.application.allowsEntry = true ∧ m.platform.chip.BudgetOverflows m.settings ticks

/-- An idle call halts by the budget of the alarm, or by the sample before it is armed. -/
theorem IdleHalt.halts (hs : m.settings.Valid) (hreduced : m.platform.chip.rtc.Reduced)
    (hroom : m.HasRoom ticks) (hhalt : IdleHalt ticks m h m') :
    m.IdleOverflows ticks ∧ h = .arithmetic .mulOverflow ∨
      h = .endless ∨ ∃ handler, h = .fatal handler (.sampleStuck .arming) := by
  cases hhalt with
  | light hstate habort hdepth hsleep =>
    have houtcome : m.settings.lightOutcome ticks (m.chosen ticks).platform.chip =
        m.settings.lightOutcome ticks m.platform.chip := Chip.lightOutcome_maskInterrupts _ _ _
    have hfit : m.platform.kernel.tickCount.toNat +
        (m.settings.lightOutcome ticks m.platform.chip).ticks.toNat < 2 ^ 64 :=
      hroom.light
    rw [← houtcome] at hfit
    have hstep := (Kernel.step_eq_ok (k := (m.chosen ticks).platform.kernel)).2 ⟨hfit, rfl⟩
    have hok := (Bench.sleepLightly_eq_ok hs).2 ⟨_, hstep, rfl, rfl⟩
    cases hsleep.symm.trans hok
  | entry hstate habort hdepth hentry =>
    obtain ⟨snap, p, hok⟩ := Bench.enterDeep_answers (b := (m.chosen ticks).platform) hreduced
      hroom.suspension
    cases hentry.symm.trans hok
  | down hstate habort hdepth hentry hdown =>
    have hallows := (Bench.keeps_of_enterDeep hentry).1.symm
    rw [allowsEntry_chosen] at hallows
    rcases Bench.way_down_halts hs hentry hdown with ⟨hover, rfl⟩ | ⟨-, rfl | rfl⟩
    · exact .inl ⟨⟨hstate, habort, hdepth, hallows, hover⟩, rfl⟩
    · exact .inr (.inl rfl)
    · exact .inr (.inr ⟨_, rfl⟩)

theorem idle_of_overflow (hs : m.settings.Valid) (hreduced : m.platform.chip.rtc.Reduced)
    (hroom : m.HasRoom ticks) (hover : m.IdleOverflows ticks) :
    ∃ m', idle ticks m = .error (.arithmetic .mulOverflow) m' := by
  obtain ⟨hstate, habort, hdepth, hallows, hbudget⟩ := hover
  obtain ⟨snap, p, hentry⟩ := Bench.enterDeep_answers (b := (m.chosen ticks).platform) hreduced
    hroom.suspension
  have hsome := (Bench.keeps_of_enterDeep hentry).1
  rw [allowsEntry_chosen, hallows] at hsome
  cases snap with
  | none => cases hsome
  | some snapshot =>
    obtain ⟨q, hdown⟩ := Bench.way_down_of_overflow hs hentry hbudget
    exact ⟨_, (idle_eq_error hs).2 (.down hstate habort hdepth hentry hdown)⟩

/-- A resume call halts by the sample after the wake alone. -/
theorem ResumeHalt.halts (hs : m.settings.Valid) (hroom : m.HasRoom ticks) (hhalt : ResumeHalt m h m') :
    h = .endless ∨ ∃ handler, h = .fatal handler (.sampleStuck .reconciling) := by
  cases hhalt with
  | measure hpending hmeasure =>
    rcases Bench.reconcile_halts hs hmeasure with rfl | rfl
    · exact .inl rfl
    · exact .inr ⟨_, rfl⟩
  | @start cycle hpending e p q h hmeasure hstart =>
    obtain ⟨-, -, rfl, hp⟩ := (Bench.reconcile_eq_ok hs).1 hmeasure
    have hticks := hroom.pending cycle hpending
    obtain ⟨r, hok⟩ := Bench.reactivate_answers (b := p) hs (by rw [hp]; exact hticks)
    cases hstart.symm.trans hok

/-- With valid settings and room in the counters of the scheduler, a deep sleep halts on arithmetic
exactly if the application lets it in and the budget of its alarm, times the oscillator frequency, does
not fit a long word. So does an idle call, if it comes to that deep sleep. All that can halt either of
them besides, and all that can halt a resume call, is a sample of the real-time counter that is never
ready. -/
theorem arithmetic_halts_iff_budget_overflows (hs : m.settings.validate = .ok m.settings)
    (hreduced : m.platform.chip.rtc.Reduced) (hroom : m.HasRoom ticks) :
    ((∃ e b, Bench.wholeSleep m.settings ticks m.entry m.platform = .error (.arithmetic e) b) ↔
      m.platform.application.allowsEntry = true ∧ m.platform.chip.BudgetOverflows m.settings ticks) ∧
    ((∃ e m', idle ticks m = .error (.arithmetic e) m') ↔ m.IdleOverflows ticks) ∧
    (∀ h b, Bench.wholeSleep m.settings ticks m.entry m.platform = .error h b →
      (∃ e, h = .arithmetic e) ∨ h = .endless ∨ ∃ stage, h = .fault (.sampleStuck stage)) ∧
    (∀ h m', idle ticks m = .error h m' →
      (∃ e, h = .arithmetic e) ∨ h = .endless ∨ ∃ handler, h = .fatal handler (.sampleStuck .arming)) ∧
    (∀ h m', resume m = .error h m' →
      h = .endless ∨ ∃ handler, h = .fatal handler (.sampleStuck .reconciling)) := by
  obtain ⟨hv, -⟩ := Settings.validate_eq_ok.1 hs
  have hsleep : ∀ h b, Bench.wholeSleep m.settings ticks m.entry m.platform = .error h b → _ :=
    fun h b => Bench.wholeSleep_halts hv hreduced hroom.suspension hroom.deep
  have hidle : ∀ h m', idle ticks m = .error h m' → _ :=
    fun h m' hhalt => ((idle_eq_error hv).1 hhalt).halts hv hreduced hroom
  refine ⟨⟨?_, ?_⟩, ⟨?_, ?_⟩, ?_, ?_, ?_⟩
  · rintro ⟨e, b, hhalt⟩
    rcases hsleep _ _ hhalt with ⟨hallows, hover, -⟩ | hsample | ⟨stage, hsample⟩
    · exact ⟨hallows, hover⟩
    · cases hsample
    · cases hsample
  · rintro ⟨hallows, hover⟩
    exact ⟨_, Bench.wholeSleep_of_overflow hv hreduced hroom.suspension hallows hover⟩
  · rintro ⟨e, m', hhalt⟩
    rcases hidle _ _ hhalt with ⟨hover, -⟩ | hsample | ⟨handler, hsample⟩
    · exact hover
    · cases hsample
    · cases hsample
  · intro hover
    exact ⟨_, idle_of_overflow hv hreduced hroom hover⟩
  · intro h b hhalt
    rcases hsleep _ _ hhalt with ⟨-, -, harith⟩ | hsample
    · exact .inl ⟨_, harith⟩
    · exact .inr hsample
  · intro h m' hhalt
    rcases hidle _ _ hhalt with ⟨-, harith⟩ | hsample
    · exact .inl ⟨_, harith⟩
    · exact .inr hsample
  · intro h m' hhalt
    exact (resume_eq_error.1 hhalt).halts hv hroom

/-- Half a second at the standard frequency does not overflow. -/
theorem half_second_budget_fits :
    standardManager.platform.chip.rtc.Reduced ∧ standardManager.HasRoom 500 ∧
      ¬ ∃ e m', idle 500 standardManager = .error (.arithmetic e) m' := by
  have hs : standardManager.settings.validate = .ok standardManager.settings := by decide
  have hroom := hasRoom_of_lt (Settings.validate_eq_ok.1 hs).1 (by decide) (by decide) 500
  have hreduced : standardManager.platform.chip.rtc.Reduced := show 0 < 1000000 by decide
  obtain ⟨-, hidle, -⟩ := arithmetic_halts_iff_budget_overflows hs hreduced hroom
  refine ⟨hreduced, hroom, fun hhalt => ?_⟩
  obtain ⟨-, -, -, -, hover⟩ := hidle.1 hhalt
  have hfits : ¬ 2 ^ 64 ≤ Settings.budgetUs {} 500 23999 0 * 32768 := by decide
  exact hfits hover

/-- The longest request on the fastest oscillator overflows. -/
theorem longest_budget_overflows :
    ∃ m m' : PowerManager Bench, m.settings.validate = .ok m.settings ∧
      m.platform.chip.rtc.residue = 0 ∧ m.HasRoom 4294967295 ∧
      idle 4294967295 m = .error (.arithmetic .mulOverflow) m' := by
  let m := standardManagerWith { oscillatorHz := 4294967295 }
  have hs : m.settings.validate = .ok m.settings := by decide
  have hv := (Settings.validate_eq_ok.1 hs).1
  have hroom : m.HasRoom 4294967295 := hasRoom_of_lt hv (by decide) (by decide) _
  have hbudget : 2 ^ 64 ≤ Settings.budgetUs {} 4294967295 23999 0 * 4294967295 := by
    decide
  obtain ⟨m', hhalt⟩ : ∃ m', idle 4294967295 m = .error (.arithmetic .mulOverflow) m' :=
    idle_of_overflow hv (show 0 < 1000000 by decide) hroom ⟨rfl, rfl, by decide, rfl, hbudget⟩
  exact ⟨m, m', hs, rfl, hroom, hhalt⟩

end PowerManager

end Tickless
