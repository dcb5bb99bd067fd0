import Tickless.Proofs.ManagerCalls

/-!
# A deep cycle from end to end

A deep sleep that was begun by the idle hook and accounted for by the boot path. The real-time counter
moves by the sleep and by the wake path, the alarm is armed from the two readings at entry, and
nothing that was left over of an earlier alarm takes part.
-/

namespace Tickless

open PowerManager

namespace Settings

variable (s : Settings) (ticks : UInt32) (c : Chip)

/-- The cycles by which the alarm of a deep sleep is armed ahead, for a chip as the idle hook finds
it. -/
def deepLead : Nat :=
  max minAlarmLead.toNat (min
    (s.budgetUs ticks c.timer.current c.power.readingUs * c.rtc.oscillatorHz.toNat / 1000000)
    maxAlarmLead.toNat)

/-- The cycles until the alarm or another interrupt. -/
def cyclesAsleep : Nat :=
  match c.rtc.wakeAfter with
  | none => s.deepLead ticks c
  | some n => min n.toNat (s.deepLead ticks c)

/-- The microseconds that the real-time counter measures, over the sleep and the wake path. -/
def countedUs : Nat :=
  (s.cyclesAsleep ticks c + c.rtc.wakeCycles.toNat) % 2 ^ 32 * 1000000 / c.rtc.oscillatorHz.toNat

/-- Whether the alarm ends the sleep: no other interrupt comes before it. -/
def endsByAlarm : Bool :=
  match c.rtc.wakeAfter with
  | none => true
  | some n => s.deepLead ticks c ≤ n.toNat

/-- The elapsed time of a deep sleep: what the counter measures, the part of the interrupted tick that
was over, and the time of a reading. -/
def deepElapsed : Elapsed :=
  Elapsed.split (UInt64.ofNat (s.countedUs ticks c + s.phaseAt c.timer.current + c.power.readingUs.toNat))
    (UInt32.ofNat s.period) (UInt32.ofNat (s.deepTicks ticks)) (if s.endsByAlarm ticks c then .alarm else .otherInterrupt)

theorem deepLead_lt : s.deepLead ticks c < 2 ^ 32 :=
  Nat.max_lt.2 ⟨word_lt _, Nat.lt_of_le_of_lt (Nat.min_le_right _ _) (word_lt _)⟩

/-- The microseconds from the start of the interrupted tick to the end of a deep sleep. -/
def deepTotalUs : Nat :=
  s.countedUs ticks c + s.phaseAt c.timer.current + c.power.readingUs.toNat

theorem countedUs_le : s.countedUs ticks c ≤ (2 ^ 32 - 1) * 1000000 := by
  have hcycles := Nat.mod_lt (s.cyclesAsleep ticks c + c.rtc.wakeCycles.toNat)
    (show 0 < 2 ^ 32 by decide)
  refine Nat.le_trans (Nat.div_le_self _ _) ?_
  exact Nat.mul_le_mul_right 1000000 (Nat.le_of_lt_succ hcycles)

theorem Valid.toNat_deepTotalUs {s : Settings} (hs : s.Valid) (ticks : UInt32) (c : Chip) :
    (UInt64.ofNat (s.deepTotalUs ticks c)).toNat = s.deepTotalUs ticks c := by
  have hcounted := s.countedUs_le ticks c
  have hphase := hs.phaseAt_lt c.timer.current
  have hperiod := s.period_le
  have hreading := word_lt c.power.readingUs
  unfold deepTotalUs
  exact toNat_long (by omega)

end Settings

/-! ## The counter over the sleep -/

/-- With the alarm armed ahead, a sleep lasts until the alarm or the earlier interrupt. -/
theorem RealTimeCounter.sleepLength_of_armed {r : RealTimeCounter} {lead : UInt32}
    (henabled : r.alarmEnabled = true) (halarm : r.alarm = some (r.counter + lead)) :
    r.sleepLength = match r.wakeAfter with
      | some n => if n < lead then (n, false) else (lead, true)
      | none => (lead, true) := by
  have hcycles : r.cyclesToAlarm = some lead := by
    unfold cyclesToAlarm
    rw [if_pos henabled, halarm]
    show some (r.counter + lead - r.counter) = some lead
    rw [UInt32.add_comm, UInt32.add_sub_cancel]
  unfold sleepLength
  rw [hcycles]
  cases r.wakeAfter with
  | none => rfl
  | some n => rfl

/-- The length and the end of a sleep with the alarm armed by the lead of a deep sleep. -/
theorem RealTimeCounter.sleepLength_of_lead {s : Settings} {ticks : UInt32} {c : Chip}
    {r : RealTimeCounter} {lead : UInt32} (hlead : lead.toNat = s.deepLead ticks c)
    (hwake : r.wakeAfter = c.rtc.wakeAfter) (henabled : r.alarmEnabled = true)
    (halarm : r.alarm = some (r.counter + lead)) :
    r.sleepLength = (UInt32.ofNat (s.cyclesAsleep ticks c), s.endsByAlarm ticks c) := by
  have hof : UInt32.ofNat (s.deepLead ticks c) = lead := by rw [← hlead, UInt32.ofNat_toNat]
  rw [sleepLength_of_armed henabled halarm, hwake]
  unfold Settings.cyclesAsleep Settings.endsByAlarm
  cases c.rtc.wakeAfter with
  | none => simp only [hof]
  | some n =>
    simp only [UInt32.lt_iff_toNat_lt, hlead]
    by_cases hn : n.toNat < s.deepLead ticks c
    · rw [if_pos hn, decide_eq_false (by omega), Nat.min_eq_left (Nat.le_of_lt hn), UInt32.ofNat_toNat]
    · rw [if_neg hn, decide_eq_true (by omega), Nat.min_eq_right (by omega), hof]

/-! ## From the idle hook to the rail cut -/

/-- What the idle hook leaves of a deep sleep that it has begun. -/
structure DeepBegun (ticks : UInt32) (m m' : PowerManager Bench) (cycle : SleepCycle) : Prop where
  settings : m'.settings = m.settings
  pending : m'.pending = some cycle
  requested : cycle.requestedTicks = UInt32.ofNat (m.settings.deepTicks ticks)
  oscillatorHz : cycle.oscillatorHz = m.platform.chip.rtc.oscillatorHz
  carried : cycle.carriedUs = UInt32.ofNat (m.settings.phaseAt m.platform.chip.timer.current)
  latency : cycle.latencyUs = m.platform.chip.power.readingUs
  counter : m'.platform.chip.rtc.counter =
    cycle.rtcBefore + UInt32.ofNat (m.settings.cyclesAsleep ticks m.platform.chip)
  fired : m'.platform.chip.rtc.alarmPending = m.settings.endsByAlarm ticks m.platform.chip
  wakeCycles : m'.platform.chip.rtc.wakeCycles = m.platform.chip.rtc.wakeCycles
  readingUs : m'.platform.chip.power.readingUs = m.platform.chip.power.readingUs
  kernel : m.platform.kernel.suspend = .ok m'.platform.kernel

variable {m m' m'' : PowerManager Bench} {ticks : UInt32} {r : Option Elapsed}

theorem deepBegun_of_idle (hs : m.settings.Valid) (h : idle ticks m = .ok .retained m') :
    ∃ cycle, DeepBegun ticks m m' cycle := by
  cases idleStep_of_idle hs h with
  | @retained hstate habort hdepth snap p q cycle hentry hdown =>
    obtain ⟨k, c, hk, hc, rfl, rfl⟩ := Bench.entered_of_enterDeep hentry
    obtain ⟨-, hceq⟩ := Chip.elapse_eq_ok.1 hc
    obtain ⟨c', hc', hfit, -, -, hcycle, rfl⟩ := (Bench.powerDown_eq_ok hs).1 hdown
    obtain ⟨-, hceq'⟩ := Chip.elapse_eq_ok.1 hc'
    have hlatency : c.power.freeCounterUs - m.platform.chip.power.freeCounterUs =
        m.platform.chip.power.readingUs := Bench.latency_of_enterDeep hentry
    have hhz : c.rtc.oscillatorHz = m.platform.chip.rtc.oscillatorHz := by
      rw [hceq]
      rfl
    have hwake : c'.rtc.wakeAfter = m.platform.chip.rtc.wakeAfter := by
      rw [hceq', hceq]
      rfl
    have hwakeCycles : c'.rtc.wakeCycles = m.platform.chip.rtc.wakeCycles := by
      rw [hceq', hceq]
      rfl
    have hlead : (alarmLead (m.settings.wantedLead ticks m.platform.chip.timer.current
        m.platform.chip.power.readingUs m.platform.chip.rtc.oscillatorHz)).toNat =
        m.settings.deepLead ticks m.platform.chip := by
      have hfit : m.settings.budgetUs ticks m.platform.chip.timer.current
          (c.power.freeCounterUs - m.platform.chip.power.freeCounterUs) *
            c.rtc.oscillatorHz.toNat < 2 ^ 64 := hfit
      rw [hlatency, hhz] at hfit
      rw [toNat_alarmLead, Settings.toNat_wantedLead hfit]
      rfl
    have halarm : cycle.alarm = c'.rtc.counter + alarmLead (m.settings.wantedLead ticks
        m.platform.chip.timer.current m.platform.chip.power.readingUs
        m.platform.chip.rtc.oscillatorHz) := by
      rw [hcycle, ← hlatency, ← hhz]
      rfl
    have hsleep := RealTimeCounter.sleepLength_of_lead (r := (c'.sampled.armed cycle.alarm).retained.rtc)
      hlead hwake rfl (congrArg some halarm)
    have hreadingUs : c'.power.readingUs = m.platform.chip.power.readingUs := by
      rw [hceq', hceq]
      rfl
    refine ⟨cycle, rfl, rfl, ?_, ?_, ?_, ?_, ?_, ?_, hwakeCycles, hreadingUs, hk⟩
    · rw [hcycle]
      rfl
    · rw [hcycle]
      exact hhz
    · rw [hcycle]
      rfl
    · rw [hcycle]
      exact hlatency
    · have hbefore : cycle.rtcBefore = c'.rtc.counter := by
        rw [hcycle]
        rfl
      show c'.rtc.counter + (c'.sampled.armed cycle.alarm).retained.rtc.sleepLength.1 = _
      rw [hsleep, hbefore]
    · show (c'.sampled.armed cycle.alarm).retained.rtc.sleepLength.2 = _
      rw [hsleep]

/-! ## From the wake to the scheduler -/

/-- The counter measures the sleep and the wake path. -/
theorem DeepBegun.asleepUs_eq {cycle : SleepCycle} (h : DeepBegun ticks m m' cycle) :
    cycle.asleepUs (awake cycle m'.platform).chip.rtc.counter =
      m.settings.countedUs ticks m.platform.chip := by
  have hlead := m.settings.deepLead_lt ticks m.platform.chip
  have hasleep : m.settings.cyclesAsleep ticks m.platform.chip < 2 ^ 32 := by
    unfold Settings.cyclesAsleep
    split
    · exact hlead
    · omega
  have hcounter : ((awake cycle m'.platform).chip.rtc.counter - cycle.rtcBefore).toNat =
      (m.settings.cyclesAsleep ticks m.platform.chip + m.platform.chip.rtc.wakeCycles.toNat) %
        2 ^ 32 := by
    show (m'.platform.chip.rtc.counter + m'.platform.chip.rtc.wakeCycles - cycle.rtcBefore).toNat = _
    rw [h.counter, h.wakeCycles, UInt32.add_assoc, UInt32.add_comm, UInt32.add_sub_cancel,
      UInt32.toNat_add, toNat_word hasleep]
  unfold SleepCycle.asleepUs Settings.countedUs
  rw [hcounter, h.oscillatorHz]

/-- The time that is measured after a deep sleep that was begun is its elapsed time. -/
theorem DeepBegun.measured_eq {cycle : SleepCycle} (h : DeepBegun ticks m m' cycle) (hs : m.settings.Valid) :
    Bench.measured m'.settings cycle (awake cycle m'.platform).chip =
      m.settings.deepElapsed ticks m.platform.chip := by
  have hfired : (awake cycle m'.platform).chip.rtc.alarmPending =
      m.settings.endsByAlarm ticks m.platform.chip := h.fired
  unfold Bench.measured Settings.deepElapsed SleepCycle.totalUs
  rw [h.asleepUs_eq, hfired, h.settings, h.requested, h.carried, h.latency, hs.toNat_phaseAt]

/-- What the boot path leaves of a deep sleep that it has accounted for. -/
structure DeepEnded (ticks : UInt32) (m m'' : PowerManager Bench) (cycle : SleepCycle) (e : Elapsed) :
    Prop where
  settings : m''.settings = m.settings
  elapsed : e = m.settings.deepElapsed ticks m.platform.chip
  measured : cycle.asleepUs m''.platform.chip.rtc.counter = m.settings.countedUs ticks m.platform.chip
  /-- The timer has been cleared and no clock of it has run. -/
  current : m''.platform.chip.timer.current = 0
  readingUs : m''.platform.chip.power.readingUs = m.platform.chip.power.readingUs
  tickCount : m''.platform.kernel.tickCount.toNat =
    m.platform.kernel.tickCount.toNat + e.wholeTicks.toNat

theorem DeepBegun.ended_of_resume {cycle : SleepCycle} (h : DeepBegun ticks m m' cycle)
    (hs : m.settings.Valid) (hresume : resume m' = .ok r m'') :
    ∃ e, r = some e ∧ DeepEnded ticks m m'' cycle e := by
  have hs' : m'.settings.Valid := by
    rw [h.settings]
    exact hs
  cases resumeStep_of_resume hresume with
  | nothing hpending =>
    rw [h.pending] at hpending
    cases hpending
  | @slept cycle' hpending e p q hmeasure hstart =>
    rw [h.pending] at hpending
    cases hpending
    obtain ⟨-, -, he, rfl⟩ := (Bench.reconcile_eq_ok hs').1 hmeasure
    obtain ⟨k, hk, rfl⟩ := (Bench.reactivate_eq_ok hs').1 hstart
    obtain ⟨hlt, hstep⟩ := Kernel.step_eq_ok.1 hk
    obtain ⟨-, hkernel⟩ := Kernel.suspend_eq_ok.1 h.kernel
    have hcount : m'.platform.kernel.tickCount = m.platform.kernel.tickCount := by rw [hkernel]
    refine ⟨e, rfl, h.settings, he.trans (h.measured_eq hs), h.asleepUs_eq, rfl, h.readingUs, ?_⟩
    show k.tickCount.toNat = _
    rw [hstep, ← hcount]
    exact toNat_long hlt

/-- A resume right after the idle hook has begun a deep sleep returns what the sleep measures, and
steps it into the scheduler once. -/
theorem resume_of_retained (hs : m.settings.validate = .ok m.settings)
    (hidle : idle ticks m = .ok .retained m') (hresume : resume m' = .ok r m'') :
    r = some (m.settings.deepElapsed ticks m.platform.chip) ∧
      m''.platform.kernel.tickCount.toNat = m.platform.kernel.tickCount.toNat +
        (m.settings.deepElapsed ticks m.platform.chip).wholeTicks.toNat ∧
      m''.platform.kernel.steps = m.platform.kernel.steps.push
        (m.settings.deepElapsed ticks m.platform.chip).wholeTicks := by
  obtain ⟨hv, -⟩ := Settings.validate_eq_ok.1 hs
  obtain ⟨cycle, hbegun⟩ := deepBegun_of_idle hv hidle
  have hv' : m'.settings.Valid := by rw [hbegun.settings]; exact hv
  cases resumeStep_of_resume hresume with
  | nothing hpending =>
    rw [hbegun.pending] at hpending
    cases hpending
  | @slept cycle' hpending e p q hmeasure hstart =>
    rw [hbegun.pending] at hpending
    cases hpending
    obtain ⟨-, -, rfl, rfl⟩ := (Bench.reconcile_eq_ok hv').1 hmeasure
    obtain ⟨k, hk, rfl⟩ := (Bench.reactivate_eq_ok hv').1 hstart
    obtain ⟨hlt, rfl⟩ := Kernel.step_eq_ok.1 hk
    obtain ⟨-, hkernel⟩ := Kernel.suspend_eq_ok.1 hbegun.kernel
    rw [hbegun.measured_eq hv] at hlt ⊢
    refine ⟨rfl, ?_, ?_⟩
    · refine (toNat_long hlt).trans ?_
      show m'.platform.kernel.tickCount.toNat + _ = _
      rw [hkernel]
    · show m'.platform.kernel.steps.push _ = _
      rw [hkernel]

/-- A manager with the standard settings, at the start of a tick. -/
def standardManager : PowerManager Bench :=
  { platform := { chip := { timer := .running 23999 } }, settings := {}, entry := ⟨0x08004000⟩ }

/-- The same manager with a real-time counter of its own. -/
def standardManagerWith (rtc : RealTimeCounter) : PowerManager Bench :=
  { standardManager with platform := { chip := { timer := .running 23999, rtc } } }

/-- A deep sleep of half a second lasts as long as that. -/
theorem half_second_resumed :
    ∃ m' m'' r, idle 500 standardManager = .ok .retained m' ∧ resume m' = .ok r m'' ∧
      r = some ⟨500, 0, .alarm⟩ := by
  have hruns : Act.passes (idle 500)
      (fun r m' => r = .retained && Act.passes resume (fun _ _ => true) m') standardManager = true := by
    decide +kernel
  obtain ⟨r, m', hidle, h⟩ := Act.passes_iff.1 hruns
  simp only [Bool.and_eq_true, decide_eq_true_eq] at h
  obtain ⟨rfl, hresumes⟩ := h
  obtain ⟨r, m'', hresume, -⟩ := Act.passes_iff.1 hresumes
  refine ⟨m', m'', r, hidle, hresume, ?_⟩
  exact (resume_of_retained (by decide) hidle hresume).1.trans (by decide +kernel)

end Tickless
