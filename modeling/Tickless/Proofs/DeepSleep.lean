import Mathlib.Tactic.Linarith
import Tickless.Proofs.LightSleep
import Tickless.Proofs.Sampling

/-!
# A deep sleep on the bench

Each act of a deep sleep, as what it needs to come to its end and what it leaves. Four things can
keep a deep sleep from its end: a nesting depth or tick count that overflows, a reading of the
microsecond counter whose oscillator product overflows, a budget whose product with the oscillator
frequency overflows, and a sample that is never ready.
-/

namespace Tickless

open Checked

/-! ## Numbers of a deep sleep -/

namespace Settings

/-- The ticks that a deep sleep is planned for. -/
def deepTicks (s : Settings) (idleTicks : UInt32) : Nat :=
  min idleTicks.toNat s.deepLimit

/-- The microseconds of the interrupted tick that were over at a given count. -/
def phaseAt (s : Settings) (timerCount : UInt32) : Nat :=
  (s.perTick - 1 - timerCount.toNat) * s.period / s.perTick

/-- The microseconds left for the alarm. -/
def budgetUs (s : Settings) (idleTicks timerCount latencyUs : UInt32) : Nat :=
  s.deepTicks idleTicks * s.period - s.phaseAt timerCount - s.wakeLatencyUs.toNat - latencyUs.toNat

/-- The cycles to the alarm before it is brought within its bounds. -/
def wantedLead (s : Settings) (idleTicks timerCount latencyUs hz : UInt32) : UInt64 :=
  UInt64.ofNat (s.budgetUs idleTicks timerCount latencyUs * hz.toNat / 1000000)

/-- The reload value with which the timer finishes a tick. -/
def resumeReload (s : Settings) (phaseUs : UInt32) : UInt32 :=
  UInt32.ofNat (max (s.perTick - 1 -
    min (UInt32.ofNat (phaseUs.toNat * s.perTick / s.period)).toNat (s.perTick - 1)) 1)

theorem deepTicks_le (s : Settings) (idleTicks : UInt32) : s.deepTicks idleTicks ≤ 2 ^ 32 - 1 :=
  Nat.le_trans (Nat.min_le_right _ _) s.deepLimit_le

theorem toNat_deepTicks (s : Settings) (idleTicks : UInt32) :
    (UInt32.ofNat (s.deepTicks idleTicks)).toNat = s.deepTicks idleTicks :=
  toNat_word (by have := s.deepTicks_le idleTicks; omega)

theorem toNat_deepTicks_mul (s : Settings) (idleTicks : UInt32) :
    (UInt64.ofNat (s.deepTicks idleTicks * s.period)).toNat = s.deepTicks idleTicks * s.period := by
  have := Nat.mul_le_mul (s.deepTicks_le idleTicks) s.period_le
  exact toNat_long (by omega)

theorem deepClamped_ticks (s : Settings) (idleTicks current : UInt32) :
    ((SleepRequest.mk idleTicks current).clamped (UInt32.ofNat s.deepLimit)).idleTicks =
      UInt32.ofNat (s.deepTicks idleTicks) := by
  have hlt := word_lt idleTicks
  rw [← UInt32.toNat_inj, s.toNat_deepTicks]
  unfold SleepRequest.clamped deepTicks
  simp only [gt_iff_lt, UInt32.lt_iff_toNat_lt, s.toNat_deepLimit]
  split
  · show (UInt32.ofNat s.deepLimit).toNat = _
    rw [s.toNat_deepLimit]
    omega
  · show idleTicks.toNat = _
    omega

variable {s : Settings} (hs : s.Valid)

include hs

theorem Valid.phaseAt_lt (timerCount : UInt32) : s.phaseAt timerCount < s.period :=
  counts_mul_div_lt hs (by have := hs.perTick_pos; omega)

theorem Valid.toNat_phaseAt (timerCount : UInt32) :
    (UInt32.ofNat (s.phaseAt timerCount)).toNat = s.phaseAt timerCount :=
  toNat_word (by have := hs.phaseAt_lt timerCount; have := s.period_le; omega)

theorem Valid.carriedPhase_eq (timerCount : UInt32) :
    carriedPhase s timerCount = .ok (UInt32.ofNat (s.phaseAt timerCount)) := by
  have hsub : (Saturating.sub (UInt32.ofNat (s.perTick - 1)) timerCount).toNat =
      s.perTick - 1 - timerCount.toNat := by
    show (UInt32.ofNat ((UInt32.ofNat (s.perTick - 1)).toNat - timerCount.toNat)).toNat = _
    rw [hs.toNat_pred_perTick, toNat_word (by have := hs.perTick_lt; omega)]
  unfold carriedPhase
  simp only [hs.countsPerTick_eq, hs.pred_perTick_eq, arith_ok_bind, hs.countsToUs_eq, hsub]
  rfl

/-- The wanted cycles have a number as long as the budget and the frequency have a product. -/
theorem Valid.wantedCycles_eq_ok {idleTicks timerCount latencyUs hz : UInt32} {wanted : UInt64} :
    wantedCycles s (UInt32.ofNat (s.deepTicks idleTicks)) (UInt32.ofNat (s.phaseAt timerCount))
        latencyUs hz = .ok wanted ↔
      s.budgetUs idleTicks timerCount latencyUs * hz.toNat < 2 ^ 64 ∧
        wanted = s.wantedLead idleTicks timerCount latencyUs hz := by
  unfold wantedCycles
  simp only [hs.tickPeriodUs_eq, mul_widened, s.toNat_deepTicks, s.toNat_period, arith_ok_bind,
    usToCycles_eq_ok, toNat_alarmBudgetUs, s.toNat_deepTicks_mul, hs.toNat_phaseAt]
  exact Iff.rfl

theorem Valid.phaseReload_eq (phaseUs : UInt32) :
    phaseReload s phaseUs = .ok (s.resumeReload phaseUs) := by
  have hper := hs.perTick_lt
  unfold phaseReload resumeReload
  simp only [hs.countsPerTick_eq, hs.usToCounts_eq, hs.pred_perTick_eq, arith_ok_bind]
  generalize UInt32.ofNat (phaseUs.toNat * s.perTick / s.period) = phase
  have hlt := word_lt phase
  have hmin : min phase (UInt32.ofNat (s.perTick - 1)) =
      UInt32.ofNat (min phase.toNat (s.perTick - 1)) := by
    rw [← UInt32.toNat_inj, toNat_min, hs.toNat_pred_perTick, toNat_word (by omega)]
  rw [hmin, sub_words (by omega) (Nat.min_le_right _ _), arith_ok_bind]
  show Except.ok _ = Except.ok _
  rw [Except.ok.injEq, ← UInt32.toNat_inj, toNat_max, toNat_word (by omega), toNat_word (by omega)]
  rfl

end Settings

theorem Settings.toNat_wantedLead {s : Settings} {idleTicks timerCount latencyUs hz : UInt32}
    (hfits : s.budgetUs idleTicks timerCount latencyUs * hz.toNat < 2 ^ 64) :
    (s.wantedLead idleTicks timerCount latencyUs hz).toNat =
      s.budgetUs idleTicks timerCount latencyUs * hz.toNat / 1000000 :=
  toNat_long (Nat.lt_of_le_of_lt (Nat.div_le_self _ _) hfits)

theorem toNat_alarmLead (wanted : UInt64) :
    (alarmLead wanted).toNat = max minAlarmLead.toNat (min wanted.toNat maxAlarmLead.toNat) :=
  toNat_word (Nat.max_lt.2 ⟨word_lt _, Nat.lt_of_le_of_lt (Nat.min_le_right _ _) (word_lt _)⟩)

theorem le_alarmLead (wanted : UInt64) : minAlarmLead ≤ alarmLead wanted := by
  rw [UInt32.le_iff_toNat_le, toNat_alarmLead]
  exact Nat.le_max_left _ _

theorem alarmLead_le (wanted : UInt64) : alarmLead wanted ≤ maxAlarmLead := by
  rw [UInt32.le_iff_toNat_le, toNat_alarmLead]
  exact Nat.max_le.2 ⟨by decide, Nat.min_le_right _ _⟩

namespace SleepCycle

/-- The microseconds that the real-time counter measured between the two samples. -/
def asleepUs (c : SleepCycle) (rtcAfter : UInt32) : Nat :=
  (rtcAfter - c.rtcBefore).toNat * 1000000 / c.oscillatorHz.toNat

/-- The microseconds from the start of the interrupted tick to a sample. -/
def totalUs (c : SleepCycle) (rtcAfter : UInt32) : UInt64 :=
  UInt64.ofNat (c.asleepUs rtcAfter + c.carriedUs.toNat + c.latencyUs.toNat)

theorem asleepUs_le (c : SleepCycle) (rtcAfter : UInt32) :
    c.asleepUs rtcAfter ≤ (2 ^ 32 - 1) * 1000000 := by
  have hcycles := word_lt (rtcAfter - c.rtcBefore)
  refine Nat.le_trans (Nat.div_le_self _ _) ?_
  exact Nat.mul_le_mul_right 1000000 (Nat.le_sub_one_of_lt hcycles)

theorem toNat_totalUs (c : SleepCycle) (rtcAfter : UInt32) :
    (c.totalUs rtcAfter).toNat = c.asleepUs rtcAfter + c.carriedUs.toNat + c.latencyUs.toNat := by
  have hasleep := c.asleepUs_le rtcAfter
  have hcarried := word_lt c.carriedUs
  have hlatency := word_lt c.latencyUs
  exact toNat_long (by omega)

theorem measuredUs_eq (c : SleepCycle) (rtcAfter : UInt32) :
    c.measuredUs rtcAfter = .ok (c.totalUs rtcAfter) := by
  have hasleep := c.asleepUs_le rtcAfter
  have hcarried := word_lt c.carriedUs
  have hlatency := word_lt c.latencyUs
  unfold asleepUs at hasleep
  unfold measuredUs totalUs asleepUs
  rw [cyclesToUs_eq, arith_ok_bind, add_widened (by omega), arith_ok_bind, add_widened (by omega)]

end SleepCycle

/-! ## Entry -/

theorem Application.allowsEntry_called (call : HookCall) (a : Application) :
    (a.called call).allowsEntry = a.allowsEntry := by
  cases a <;> rfl

theorem Application.allowsDeep_called (call : HookCall) (a : Application) :
    (a.called call).allowsDeep = a.allowsDeep := by
  cases a <;> rfl

namespace Bench

variable {b b' : Bench}

/-- The clocks as an entry reads them. -/
def snapshot (b : Bench) : EntrySnapshot :=
  { timerCount := b.chip.timer.current, freeCounterUs := b.chip.power.freeCounterUs }

/-- An entry comes to its end, one way or the other, if there is room for one more suspension and
the reading of the microsecond counter fits. -/
theorem enterDeep_eq_ok {snap : Option EntrySnapshot} :
    enterDeep b = .ok snap b' ↔
      ∃ k c, b.kernel.suspend = .ok k ∧ b.chip.elapse b.chip.power.readingUs = .ok c ∧
        if b.application.allowsEntry then
          snap = some b.snapshot ∧
            b' = { b with
              chip := c
              kernel := k
              application := (b.application.called .preSleepVeto).called .preSleepNotify }
        else
          snap = none ∧
            b' = { b with
              chip := c.unmaskInterrupts
              kernel := k.resume
              application := b.application.called .preSleepVeto
              transcript := .deepVetoed :: b.transcript } := by
  unfold enterDeep
  simp only [Platform.perform, Bench.perform, sense, ask, Bench.gauge, Bench.probe, Bench.onKernel,
    Bench.called, bind_assoc, pure_bind, Act.get_bind, Act.set_bind, Act.modify_bind,
    Act.lift_bind_eq_ok, Chip.exists_readFreeCounter, Application.allowsEntry_called]
  by_cases hb : b.application.allowsEntry = true
  · simp only [if_pos hb]
    constructor
    · rintro ⟨k, hk, c, hc, h⟩
      exact ⟨k, c, hk, hc, Act.pure_eq_ok.1 h⟩
    · rintro ⟨k, c, hk, hc, h⟩
      exact ⟨k, hk, c, hc, Act.pure_eq_ok.2 h⟩
  · simp only [if_neg hb]
    constructor
    · rintro ⟨k, hk, c, hc, h⟩
      exact ⟨k, c, hk, hc, Act.pure_eq_ok.1 h⟩
    · rintro ⟨k, c, hk, hc, h⟩
      exact ⟨k, hk, c, hc, Act.pure_eq_ok.2 h⟩

theorem entered_of_enterDeep {snap : EntrySnapshot} (h : enterDeep b = .ok (some snap) b') :
    ∃ k c, b.kernel.suspend = .ok k ∧ b.chip.elapse b.chip.power.readingUs = .ok c ∧
      snap = b.snapshot ∧
      b' = { b with
        chip := c
        kernel := k
        application := (b.application.called .preSleepVeto).called .preSleepNotify } := by
  obtain ⟨k, c, hk, hc, h⟩ := enterDeep_eq_ok.1 h
  split at h
  · exact ⟨k, c, hk, hc, Option.some.inj h.1, h.2⟩
  · cases h.1

theorem vetoed_of_enterDeep (h : enterDeep b = .ok none b') :
    ∃ k c, b.kernel.suspend = .ok k ∧ b.chip.elapse b.chip.power.readingUs = .ok c ∧
      b' = { b with
        chip := c.unmaskInterrupts
        kernel := k.resume
        application := b.application.called .preSleepVeto
        transcript := .deepVetoed :: b.transcript } := by
  obtain ⟨k, c, hk, hc, h⟩ := enterDeep_eq_ok.1 h
  split at h
  · cases h.1
  · exact ⟨k, c, hk, hc, h.2⟩

/-- Between the snapshot of an entry and what follows lies one reading of the microsecond counter. -/
theorem latency_of_enterDeep {snap : EntrySnapshot} (h : enterDeep b = .ok (some snap) b') :
    b'.chip.power.freeCounterUs - snap.freeCounterUs = b.chip.power.readingUs := by
  obtain ⟨k, c, -, hc, rfl, rfl⟩ := entered_of_enterDeep h
  obtain ⟨-, hchip⟩ := Chip.elapse_eq_ok.1 hc
  show c.power.freeCounterUs - b.chip.power.freeCounterUs = _
  rw [hchip, UInt32.add_comm, UInt32.add_sub_cancel]

end Bench

/-! ## The way down -/

/-- What a power-down works out on a chip. -/
def Settings.deepPlan (s : Settings) (idleTicks : UInt32) (entry : EntrySnapshot) (c : Chip) :
    DeepPlan :=
  let latencyUs := c.power.freeCounterUs - entry.freeCounterUs
  { ticks := UInt32.ofNat (s.deepTicks idleTicks)
    lead := alarmLead (s.wantedLead idleTicks entry.timerCount latencyUs c.rtc.oscillatorHz)
    oscillatorHz := c.rtc.oscillatorHz
    carriedUs := UInt32.ofNat (s.phaseAt entry.timerCount)
    latencyUs }

/-- The cycle that a power-down plans on a chip, given the sample it takes. -/
def Settings.plannedCycle (s : Settings) (idleTicks : UInt32) (entry : EntrySnapshot)
    (c : Chip) (rtcBefore : UInt32) : SleepCycle :=
  (s.deepPlan idleTicks entry c).cycle rtcBefore c.core.context

/-- A chip with its timer stopped and the time of the rail switch written. -/
def Chip.timed (s : Settings) (c : Chip) : Chip :=
  c.stopTimer.setWakeTiming s.wakeTimingUs

/-- The messages of a power-down up to its sample. -/
def Settings.planTranscript (s : Settings) (idleTicks : UInt32) (wanted : UInt64) (t : Transcript) :
    Transcript :=
  Bench.noting (wanted > maxAlarmLead.toUInt64) (.alarmClamped wanted maxAlarmLead)
    (Bench.noting (idleTicks > UInt32.ofNat s.deepLimit)
      (.deepClamped idleTicks (UInt32.ofNat s.deepLimit)) t)

/-- The messages of a power-down. -/
def Settings.powerDownTranscript (s : Settings) (idleTicks : UInt32) (cycle : SleepCycle)
    (wanted : UInt64) (t : Transcript) : Transcript :=
  .alarmArmed cycle.requestedTicks (alarmLead wanted) cycle.oscillatorHz cycle.carriedUs ::
    s.planTranscript idleTicks wanted t

namespace Bench

variable {s : Settings} (hs : s.Valid) {idleTicks : UInt32} {entry : EntrySnapshot}
  {cycle : SleepCycle} {b b' : Bench}

/-- Arming, retention and the message have no way to halt. -/
theorem retainPlanned_eq (plan : DeepPlan) (rtcBefore : UInt32) (b : Bench) :
    retainPlanned plan rtcBefore b = .ok (plan.cycle rtcBefore b.chip.core.context)
      { b with
        chip := (b.chip.armed (rtcBefore + plan.lead)).retained
        transcript := .alarmArmed plan.ticks plan.lead plan.oscillatorHz plan.carriedUs ::
          b.transcript } := rfl

/-- Once its sample is read, a power-down has no way to halt. -/
theorem powerDown_eq_error {h : Halt} :
    powerDown s idleTicks entry b = .error h b' ↔
      planDeep s idleTicks entry b = .error h b' ∨
        ∃ plan p, planDeep s idleTicks entry b = .ok plan p ∧
          sampleCounter s.polling .arming p = .error h b' := by
  unfold powerDown
  rw [Act.bind_eq_error]
  constructor
  · rintro (hplan | ⟨plan, p, hplan, hafter⟩)
    · exact .inl hplan
    · rcases Act.bind_eq_error.1 hafter with hsample | ⟨n, q, -, hend⟩
      · exact .inr ⟨plan, p, hplan, hsample⟩
      · cases hend
  · rintro (hplan | ⟨plan, p, hplan, hsample⟩)
    · exact .inl hplan
    · exact .inr ⟨plan, p, hplan, Act.bind_of_error hsample⟩

include hs

/-- A power-down comes as far as its sample if the reading of the microsecond counter fits, and the
budget times the oscillator frequency does. -/
theorem planDeep_eq_ok {plan : DeepPlan} :
    planDeep s idleTicks entry b = .ok plan b' ↔
      ∃ c, (b.chip.timed s).elapse b.chip.power.readingUs = .ok c ∧
        s.budgetUs idleTicks entry.timerCount (b.chip.power.freeCounterUs - entry.freeCounterUs) *
          b.chip.rtc.oscillatorHz.toNat < 2 ^ 64 ∧
        plan = s.deepPlan idleTicks entry b.chip ∧
        b' = { b with
          chip := c
          transcript := s.planTranscript idleTicks
            (s.wantedLead idleTicks entry.timerCount
              (b.chip.power.freeCounterUs - entry.freeCounterUs) b.chip.rtc.oscillatorHz)
            b.transcript } := by
  unfold planDeep
  simp only [hs.maxDeepSleepTicks_eq, hs.carriedPhase_eq, Act.lift_ok_bind, Bench.logIf_bind,
    Platform.perform, Bench.perform, sense, Bench.gauge, bind_assoc, pure_bind, Act.get_bind,
    Act.set_bind, Bench.onChip_bind, s.deepClamped_ticks, Act.lift_bind_eq_ok,
    Chip.exists_readFreeCounter, hs.wantedCycles_eq_ok]
  constructor
  · rintro ⟨c, hc, wanted, ⟨hfit, rfl⟩, h⟩
    obtain ⟨rfl, rfl⟩ := Act.pure_eq_ok.1 h
    exact ⟨c, hc, hfit, rfl, rfl⟩
  · rintro ⟨c, hc, hfit, rfl, rfl⟩
    exact ⟨c, hc, _, ⟨hfit, rfl⟩, rfl⟩

/-- Before its sample, a power-down halts in the reading or in the product of the budget. -/
theorem planDeep_error {h : Halt} (hplan : planDeep s idleTicks entry b = .error h b') :
    (∃ e, (b.chip.timed s).elapse b.chip.power.readingUs = .error e ∧ h = .arithmetic e) ∨
      ∃ c e, (b.chip.timed s).elapse b.chip.power.readingUs = .ok c ∧
        wantedCycles s (UInt32.ofNat (s.deepTicks idleTicks))
          (UInt32.ofNat (s.phaseAt entry.timerCount))
          (b.chip.power.freeCounterUs - entry.freeCounterUs) b.chip.rtc.oscillatorHz = .error e ∧
        h = .arithmetic e := by
  unfold planDeep at hplan
  simp only [hs.maxDeepSleepTicks_eq, hs.carriedPhase_eq, Act.lift_ok_bind, Bench.logIf_bind,
    Platform.perform, Bench.perform, sense, Bench.gauge, bind_assoc, pure_bind, Act.get_bind,
    Bench.onChip_bind, s.deepClamped_ticks] at hplan
  rcases Act.lift_bind_eq_error.1 hplan with ⟨e, he, rfl, -⟩ | ⟨r, hr, hplan⟩
  · exact .inl ⟨e, Chip.readFreeCounter_eq_error.1 he, rfl⟩
  · obtain ⟨hc, hnow⟩ := Chip.readFreeCounter_eq_ok.1 hr
    rw [Act.set_bind] at hplan
    rcases Act.lift_bind_eq_error.1 hplan with ⟨e, he, rfl, -⟩ | ⟨wanted, -, hafter⟩
    · rw [hnow] at he
      exact .inr ⟨_, e, hc, he, rfl⟩
    · rw [Bench.logIf_bind] at hafter
      cases hafter

theorem powerDown_eq_ok :
    powerDown s idleTicks entry b = .ok cycle b' ↔
      ∃ c, (b.chip.timed s).elapse b.chip.power.readingUs = .ok c ∧
        s.budgetUs idleTicks entry.timerCount (b.chip.power.freeCounterUs - entry.freeCounterUs) *
          b.chip.rtc.oscillatorHz.toNat < 2 ^ 64 ∧
        b.chip.rtc.stuck = false ∧ s.polling.Outlasts b.chip.rtc.busyPolls ∧
        cycle = s.plannedCycle idleTicks entry b.chip c.rtc.counter ∧
        b' = { b with
          chip := (c.sampled.armed cycle.alarm).retained
          transcript := s.powerDownTranscript idleTicks cycle
            (s.wantedLead idleTicks entry.timerCount
              (b.chip.power.freeCounterUs - entry.freeCounterUs) b.chip.rtc.oscillatorHz)
            b.transcript } := by
  unfold powerDown
  rw [Act.bind_eq_ok]
  constructor
  · rintro ⟨plan, b1, hplan, h⟩
    obtain ⟨c, hc, hfit, rfl, rfl⟩ := (planDeep_eq_ok hs).1 hplan
    obtain ⟨n, b2, hsample, h⟩ := Act.bind_eq_ok.1 h
    obtain ⟨hstuck, hpolls, rfl, rfl⟩ := sampleCounter_eq_ok.1 hsample
    cases (retainPlanned_eq _ _ _).symm.trans h
    obtain ⟨-, rfl⟩ := Chip.elapse_eq_ok.1 hc
    exact ⟨_, hc, hfit, hstuck, hpolls, rfl, rfl⟩
  · rintro ⟨c, hc, hfit, hstuck, hpolls, rfl, rfl⟩
    refine ⟨_, _, (planDeep_eq_ok hs).2 ⟨c, hc, hfit, rfl, rfl⟩, ?_⟩
    obtain ⟨-, rfl⟩ := Chip.elapse_eq_ok.1 hc
    exact Act.bind_eq_ok.2 ⟨_, _, sampleCounter_eq_ok.2 ⟨hstuck, hpolls, rfl, rfl⟩, rfl⟩

/-! ## The way back -/

/-- The elapsed time that a measurement on a chip gives. -/
def measured (s : Settings) (cycle : SleepCycle) (c : Chip) : Elapsed :=
  Elapsed.split (cycle.totalUs c.rtc.counter) (UInt32.ofNat s.period) cycle.requestedTicks
    (if c.rtc.alarmPending then .alarm else .otherInterrupt)

/-- The message of a measurement. -/
def measuredTranscript (s : Settings) (cycle : SleepCycle) (c : Chip) (t : Transcript) : Transcript :=
  noting (Elapsed.Overslept (cycle.totalUs c.rtc.counter) (UInt32.ofNat s.period) cycle.requestedTicks)
    (.overslept (Elapsed.measuredTicks (cycle.totalUs c.rtc.counter) (UInt32.ofNat s.period))
      (Elapsed.stepLimit cycle.requestedTicks)) t

/-- A measurement comes to its end exactly if the sample is ready in time. -/
theorem reconcile_eq_ok {e : Elapsed} :
    reconcile s cycle b = .ok e b' ↔
      b.chip.rtc.stuck = false ∧ s.polling.Outlasts b.chip.rtc.busyPolls ∧
        e = measured s cycle b.chip ∧
        b' = { b with
          chip := b.chip.disarmed.sampled
          transcript := measuredTranscript s cycle b.chip b.transcript } := by
  have hmeasure : (do
      let totalUs ← liftM (cycle.measuredUs b.chip.rtc.counter)
      let periodUs ← liftM (Except.ok (UInt32.ofNat s.period) : Except ArithError UInt32)
      Elapsed.measure totalUs periodUs cycle.requestedTicks
        (if b.chip.rtc.alarmPending then .alarm else .otherInterrupt) : Act Bench Elapsed)
        { b with chip := b.chip.disarmed.sampled } =
      .ok (measured s cycle b.chip) { b with
        chip := b.chip.disarmed.sampled
        transcript := measuredTranscript s cycle b.chip b.transcript } := by
    rw [cycle.measuredUs_eq, Act.lift_ok_bind, Act.lift_ok_bind]
    unfold Elapsed.measure
    rw [Bench.logIf_bind]
    rfl
  unfold reconcile
  simp only [hs.tickPeriodUs_eq, Platform.perform, Bench.perform, ask, Bench.probe, bind_assoc,
    pure_bind, Act.get_bind, Bench.onChip_bind]
  constructor
  · intro h
    obtain ⟨n, b1, hsample, h⟩ := Act.bind_eq_ok.1 h
    obtain ⟨hstuck, hpolls, rfl, rfl⟩ := sampleCounter_eq_ok.1 hsample
    have h := hmeasure.symm.trans h
    cases h
    exact ⟨hstuck, hpolls, rfl, rfl⟩
  · rintro ⟨hstuck, hpolls, rfl, rfl⟩
    refine Act.bind_eq_ok.2 ⟨_, _, sampleCounter_eq_ok.2 ⟨?_, ?_, rfl, rfl⟩, hmeasure⟩
    · exact hstuck
    · exact hpolls

/-- The tick is restarted in any case. Only the tick counter can keep it from going on. -/
theorem reactivate_eq (e : Elapsed) (b : Bench) :
    reactivate s e b =
      match b.kernel.step e.wholeTicks with
      | .ok k =>
        .ok () { b with
          chip := (b.chip.resynced (s.resumeReload e.phaseUs)
            (UInt32.ofNat (s.perTick - 1))).unmaskInterrupts
          kernel := k.resume
          application := (b.application.called .postWakeImmediate).called .postWakeDeferred }
      | .error x =>
        .error (.arithmetic x) { b with chip := b.chip.restarted (s.resumeReload e.phaseUs) } := by
  unfold reactivate
  simp only [hs.phaseReload_eq, hs.countsPerTick_eq, Act.lift_ok_bind]
  rw [Act.bind_of_ok (restartTimer_eq _ _)]
  simp only [Platform.perform, Bench.perform, Bench.onKernel, Bench.called, bind_assoc, Act.get_bind]
  cases b.kernel.step e.wholeTicks with
  | ok k =>
    simp only [Act.lift_ok_bind, Act.set_bind, Act.modify_bind, Bench.onChip_bind, hs.pred_perTick_eq]
    rfl
  | error x => exact Act.lift_bind_eq_error.2 (.inl ⟨x, rfl, rfl, rfl⟩)

/-- The tick goes on exactly if the tick counter has room for the elapsed ticks. -/
theorem reactivate_eq_ok {e : Elapsed} {u : Unit} :
    reactivate s e b = .ok u b' ↔
      ∃ k, b.kernel.step e.wholeTicks = .ok k ∧
        b' = { b with
          chip := (b.chip.resynced (s.resumeReload e.phaseUs)
            (UInt32.ofNat (s.perTick - 1))).unmaskInterrupts
          kernel := k.resume
          application := (b.application.called .postWakeImmediate).called .postWakeDeferred } := by
  rw [reactivate_eq hs]
  cases b.kernel.step e.wholeTicks with
  | ok k =>
    simp only [EStateM.Result.ok.injEq, Except.ok.injEq]
    constructor
    · rintro ⟨-, rfl⟩
      exact ⟨k, rfl, rfl⟩
    · rintro ⟨_, rfl, rfl⟩
      exact ⟨trivial, rfl⟩
  | error x => simp

end Bench

end Tickless
