import Tickless.Proofs.ManagerCalls

/-!
# When an idle call sleeps deeply

An idle call sleeps deeply exactly if nothing speaks against it: the manager is active, no task is
ready, the period reaches the threshold, nobody holds the gate, and the application consents twice. On
every other course nothing is done that only a deep sleep does, and the application is asked no more
than what its earlier answers call for.
-/

namespace Tickless

open PowerManager

/-! ## What a deep sleep acts on -/

/-- The part of a chip that only a deep sleep acts on. -/
structure DeepPart where
  /-- The events that belong to deep sleep alone. -/
  events : List Event
  alarm : Option UInt32
  alarmEnabled : Bool
  alarmPending : Bool
  flashAsleep : Bool
  status : SleepStatus
  wakeTimingUs : UInt32
  resumeEntry : Option ResumeEntry
  context : WakeContext

namespace Chip

variable {c c' : Chip}

/-- The part of a chip that only a deep sleep acts on. -/
def deepPart (c : Chip) : DeepPart where
  events := c.events.entries.filter Event.isDeepSleepOnly
  alarm := c.rtc.alarm
  alarmEnabled := c.rtc.alarmEnabled
  alarmPending := c.rtc.alarmPending
  flashAsleep := c.flashAsleep
  status := c.power.status
  wakeTimingUs := c.power.wakeTimingUs
  resumeEntry := c.power.resumeEntry
  context := c.core.context

theorem deepPart_logged {e : Event} (he : e.isDeepSleepOnly = false) (c : Chip) :
    (c.logged e).deepPart = c.deepPart := by
  unfold deepPart
  show DeepPart.mk ((c.events.push e).entries.filter Event.isDeepSleepOnly) _ _ _ _ _ _ _ _ = _
  rw [Trail.filter_push he]
  rfl

theorem deepPart_elapse {us : UInt32} (h : c.elapse us = .ok c') : c'.deepPart = c.deepPart := by
  obtain ⟨-, rfl⟩ := elapse_eq_ok.1 h
  rfl

@[simp] theorem deepPart_maskInterrupts (c : Chip) : c.maskInterrupts.deepPart = c.deepPart :=
  deepPart_logged rfl _

@[simp] theorem deepPart_unmaskInterrupts (c : Chip) : c.unmaskInterrupts.deepPart = c.deepPart :=
  deepPart_logged rfl _

@[simp] theorem deepPart_stopTimer (c : Chip) : c.stopTimer.deepPart = c.deepPart :=
  deepPart_logged rfl _

@[simp] theorem deepPart_setReload (value : UInt32) (c : Chip) :
    (c.setReload value).deepPart = c.deepPart := deepPart_logged rfl _

@[simp] theorem deepPart_restarted (reload : UInt32) (c : Chip) :
    (c.restarted reload).deepPart = c.deepPart := by
  have hstarted : (c.restarted reload).deepPart = ((c.setReload reload).clearCount).deepPart :=
    deepPart_logged rfl _
  have hcleared : ((c.setReload reload).clearCount).deepPart = (c.setReload reload).deepPart :=
    deepPart_logged rfl _
  rw [hstarted, hcleared, deepPart_setReload]

@[simp] theorem deepPart_halt (c : Chip) : c.halt.deepPart = c.deepPart :=
  deepPart_logged rfl _

@[simp] theorem deepPart_takeExpired (c : Chip) : c.takeExpired.2.deepPart = c.deepPart := rfl

theorem deepPart_lightSlept (s : Settings) (idleTicks : UInt32) (c : Chip) :
    (c.lightSlept s idleTicks).deepPart = c.deepPart := by
  simp [lightSlept, resynced, halted, setForSleep]

end Chip

/-! ## The conditions -/

namespace Settings

/-- The length of a period is compared in whole milliseconds, which makes no difference to a threshold
in milliseconds. -/
theorem eligible_iff (s : Settings) (ticks : UInt32) (g : Gate) :
    s.eligible ticks g.isHeld = true ↔
      s.minDeepSleepMs.toNat * 1000 ≤ ticks.toNat * s.period ∧ g.count = 0 := by
  have hlong : ticks.toNat * s.period / 1000 < 2 ^ 64 := by
    have hus := Nat.mul_le_mul (Nat.le_of_lt (word_lt ticks)) s.period_le
    have hms := Nat.div_le_self (ticks.toNat * s.period) 1000
    omega
  have hperiod : s.minDeepSleepMs.toUInt64 ≤ UInt64.ofNat (ticks.toNat * s.period / 1000) ↔
      s.minDeepSleepMs.toNat * 1000 ≤ ticks.toNat * s.period := by
    rw [UInt64.le_iff_toNat_le, toNat_widened, toNat_long hlong]
    exact Nat.le_div_iff_mul_le (by decide)
  have hgate : g.isHeld = false ↔ g.count = 0 := by
    unfold Gate.isHeld
    rw [decide_eq_false_iff_not, gt_iff_lt, UInt32.lt_iff_toNat_lt, ← UInt32.toNat_inj]
    show ¬ 0 < g.count.toNat ↔ g.count.toNat = 0
    omega
  unfold eligible
  rw [Bool.and_eq_true, Bool.not_eq_true', hgate, decide_eq_true_eq]
  exact and_congr hperiod Iff.rfl

theorem depth_eq_deep_iff {s : Settings} {ticks : UInt32} {held : Bool} {a : Application} :
    s.depth ticks held a = .deep ↔ s.eligible ticks held = true ∧ a.allowsDeep = true := by
  unfold depth
  cases s.eligible ticks held <;> cases a.allowsDeep <;> decide

end Settings

/-- An entry asks the application, and tells it if it consents. Neither is an act of deep sleep. -/
theorem Bench.keeps_of_enterDeep {b b' : Bench} {snap : Option EntrySnapshot}
    (h : enterDeep b = .ok snap b') :
    snap.isSome = b.application.allowsEntry ∧ b'.chip.deepPart = b.chip.deepPart ∧
      b'.application = (if b.application.allowsEntry then [.preSleepVeto, .preSleepNotify]
        else [.preSleepVeto]).foldl (fun a call => a.called call) b.application := by
  obtain ⟨k, c, -, hc, hentered⟩ := Bench.enterDeep_eq_ok.1 h
  have hpart := Chip.deepPart_elapse hc
  split at hentered
  · next hallowed =>
    obtain ⟨rfl, rfl⟩ := hentered
    exact ⟨hallowed.symm, hpart, by rw [if_pos hallowed]; rfl⟩
  · next hallowed =>
    obtain ⟨rfl, rfl⟩ := hentered
    refine ⟨by simpa using hallowed, ?_, by rw [if_neg hallowed]; rfl⟩
    exact (Chip.deepPart_unmaskInterrupts c).trans hpart

namespace PowerManager

/-- The conditions of a deep sleep that are checked before the application is asked. -/
def Eligible (ticks : UInt32) (m : PowerManager Bench) : Prop :=
  m.state = .active ∧ m.platform.kernel.abort = false ∧
    m.settings.minDeepSleepMs.toNat * 1000 ≤ ticks.toNat * m.settings.period ∧ m.gate.count = 0

instance (ticks : UInt32) (m : PowerManager Bench) : Decidable (m.Eligible ticks) :=
  inferInstanceAs (Decidable (_ ∧ _ ∧ _ ∧ _))

/-- The calls of the application in an idle call. Each answer has to consent for the next call to be
made. -/
def consulted (ticks : UInt32) (m : PowerManager Bench) : List HookCall :=
  if m.Eligible ticks then
    .deepSleepAllowed ::
      if m.platform.application.allowsDeep then
        .preSleepVeto :: if m.platform.application.allowsEntry then [.preSleepNotify] else []
      else []
  else []

variable {m m' : PowerManager Bench} {ticks : UInt32} {r : IdleOutcome}

theorem eligible_iff (hstate : m.state = .active) (habort : m.platform.kernel.abort = false) :
    m.Eligible ticks ↔ m.settings.eligible ticks m.gate.isHeld = true := by
  rw [m.settings.eligible_iff]
  exact ⟨fun h => h.2.2, fun h => ⟨hstate, habort, h⟩⟩

theorem eligible_of_deep (hstate : m.state = .active) (habort : m.platform.kernel.abort = false)
    (hdepth : m.settings.depth ticks m.gate.isHeld m.platform.application = .deep) :
    m.Eligible ticks ∧ m.platform.application.allowsDeep = true := by
  rw [eligible_iff hstate habort]
  exact Settings.depth_eq_deep_iff.1 hdepth

theorem not_eligible_of_light (hstate : m.state = .active) (habort : m.platform.kernel.abort = false)
    (hdepth : m.settings.depth ticks m.gate.isHeld m.platform.application = .light) :
    ¬ (m.Eligible ticks ∧ m.platform.application.allowsDeep = true) := by
  rw [eligible_iff hstate habort, ← Settings.depth_eq_deep_iff, hdepth]
  decide

theorem allowsEntry_chosen (ticks : UInt32) (m : PowerManager Bench) :
    (m.chosen ticks).platform.application.allowsEntry = m.platform.application.allowsEntry := by
  show (if m.settings.eligible ticks m.gate.isHeld then m.platform.application.called .deepSleepAllowed
    else m.platform.application).allowsEntry = _
  split
  · exact Application.allowsEntry_called _ _
  · rfl

theorem deepPart_chosen (ticks : UInt32) (m : PowerManager Bench) :
    (m.chosen ticks).platform.chip.deepPart = m.platform.chip.deepPart :=
  Chip.deepPart_maskInterrupts _

/-! ## The courses of an idle call -/

theorem IdleStep.retained_iff (h : IdleStep ticks m r m') :
    r = .retained ↔ m.Eligible ticks ∧ m.platform.application.allowsDeep = true ∧
      m.platform.application.allowsEntry = true := by
  cases h with
  | refused hstate =>
    constructor
    · intro h
      cases h
    · intro h
      exact absurd h.1.1 hstate
  | aborted hstate habort =>
    constructor
    · intro h
      cases h
    · intro h
      rw [h.1.2.1] at habort
      cases habort
  | light hstate habort hdepth hsleep =>
    constructor
    · intro h
      cases h
    · intro h
      exact absurd ⟨h.1, h.2.1⟩ (not_eligible_of_light hstate habort hdepth)
  | vetoed hstate habort hdepth hentry =>
    have hallowed := (Bench.keeps_of_enterDeep hentry).1
    rw [allowsEntry_chosen] at hallowed
    constructor
    · intro h
      cases h
    · intro h
      rw [h.2.2] at hallowed
      cases hallowed
  | retained hstate habort hdepth hentry hdown =>
    have hallowed := (Bench.keeps_of_enterDeep hentry).1
    rw [allowsEntry_chosen] at hallowed
    obtain ⟨heligible, hconsent⟩ := eligible_of_deep hstate habort hdepth
    constructor
    · intro h
      exact ⟨heligible, hconsent, hallowed.symm⟩
    · intro h
      rfl

theorem IdleStep.keeps (hs : m.settings.Valid) (h : IdleStep ticks m r m') (hr : r ≠ .retained) :
    m'.pending = m.pending ∧ m'.platform.chip.deepPart = m.platform.chip.deepPart := by
  cases h with
  | refused hstate => exact ⟨rfl, rfl⟩
  | aborted hstate habort =>
    refine ⟨rfl, ?_⟩
    show m.platform.chip.maskInterrupts.unmaskInterrupts.deepPart = _
    simp
  | light hstate habort hdepth hsleep =>
    obtain ⟨k, -, -, rfl⟩ := (Bench.sleepLightly_eq_ok hs).1 hsleep
    refine ⟨rfl, ?_⟩
    show ((m.chosen ticks).platform.chip.lightSlept m.settings ticks).unmaskInterrupts.deepPart = _
    rw [Chip.deepPart_unmaskInterrupts, Chip.deepPart_lightSlept, deepPart_chosen]
  | vetoed hstate habort hdepth hentry =>
    obtain ⟨-, hpart, -⟩ := Bench.keeps_of_enterDeep hentry
    exact ⟨rfl, hpart.trans (deepPart_chosen ticks m)⟩
  | retained hstate habort hdepth hentry hdown => exact absurd rfl hr

theorem consulted_of_not_eligible (h : ¬ m.Eligible ticks) : m.consulted ticks = [] :=
  if_neg h

theorem consulted_of_eligible (h : m.Eligible ticks) :
    m.consulted ticks = .deepSleepAllowed ::
      if m.platform.application.allowsDeep then
        if m.platform.application.allowsEntry then [.preSleepVeto, .preSleepNotify] else [.preSleepVeto]
      else [] := by
  unfold consulted
  rw [if_pos h]
  cases m.platform.application.allowsEntry <;> rfl

theorem application_chosen (hstate : m.state = .active) (habort : m.platform.kernel.abort = false) :
    (m.chosen ticks).platform.application =
      if m.Eligible ticks then m.platform.application.called .deepSleepAllowed
      else m.platform.application := by
  simp only [eligible_iff hstate habort]
  rfl

theorem application_deep (hstate : m.state = .active) (habort : m.platform.kernel.abort = false)
    (hdepth : m.settings.depth ticks m.gate.isHeld m.platform.application = .deep)
    {snap : Option EntrySnapshot} {p : Bench}
    (hentry : enterDeep (m.chosen ticks).platform = .ok snap p) :
    p.application = (m.consulted ticks).foldl (fun a call => a.called call) m.platform.application := by
  obtain ⟨heligible, hconsent⟩ := eligible_of_deep hstate habort hdepth
  obtain ⟨-, -, happlication⟩ := Bench.keeps_of_enterDeep hentry
  rw [happlication, allowsEntry_chosen, application_chosen hstate habort, if_pos heligible,
    consulted_of_eligible heligible, if_pos hconsent]
  rfl

theorem IdleStep.application_eq (hs : m.settings.Valid) (h : IdleStep ticks m r m') :
    m'.platform.application =
      (m.consulted ticks).foldl (fun a call => a.called call) m.platform.application := by
  cases h with
  | refused hstate =>
    rw [consulted_of_not_eligible fun h => hstate h.1]
    rfl
  | aborted hstate habort =>
    rw [consulted_of_not_eligible fun h => by rw [h.2.1] at habort; cases habort]
    rfl
  | light hstate habort hdepth hsleep =>
    obtain ⟨k, -, -, rfl⟩ := (Bench.sleepLightly_eq_ok hs).1 hsleep
    have hlight := not_eligible_of_light hstate habort hdepth
    show (m.chosen ticks).platform.application = _
    rw [application_chosen hstate habort]
    by_cases heligible : m.Eligible ticks
    · have hconsent : ¬ m.platform.application.allowsDeep = true := fun h => hlight ⟨heligible, h⟩
      rw [if_pos heligible, consulted_of_eligible heligible, if_neg hconsent]
      rfl
    · rw [if_neg heligible, consulted_of_not_eligible heligible]
      rfl
  | vetoed hstate habort hdepth hentry => exact application_deep hstate habort hdepth hentry
  | @retained hstate habort hdepth snap p q cycle hentry hdown =>
    obtain ⟨c, -, -, -, -, -, rfl⟩ := (Bench.powerDown_eq_ok hs).1 hdown
    show p.application = _
    exact application_deep hstate habort hdepth hentry

/-- Every call needs the consent that the one before it has asked for. -/
theorem consulted_in_turn (ticks : UInt32) (m : PowerManager Bench) :
    (m.consulted ticks).count .deepSleepAllowed ≤ 1 ∧
      (.deepSleepAllowed ∈ m.consulted ticks → m.Eligible ticks) ∧
      (.preSleepVeto ∈ m.consulted ticks →
        .deepSleepAllowed ∈ m.consulted ticks ∧ m.platform.application.allowsDeep = true) ∧
      (.preSleepNotify ∈ m.consulted ticks →
        .preSleepVeto ∈ m.consulted ticks ∧ m.platform.application.allowsEntry = true) := by
  by_cases heligible : m.Eligible ticks
  · rw [consulted_of_eligible heligible]
    cases m.platform.application.allowsDeep with
    | false => simp [heligible]
    | true => cases m.platform.application.allowsEntry <;> simp [heligible]
  · rw [consulted_of_not_eligible heligible]
    simp

/-- An idle call sleeps deeply exactly if the manager is active, no task is ready, the period reaches the
threshold, nobody holds the gate and the application consents twice. On every other course the pending
cycle and all that only a deep sleep acts on stay as they were. The application is called in turn, as
far as its answers consent. -/
theorem deep_iff_all_consent (hs : m.settings.validate = .ok m.settings)
    (h : idle ticks m = .ok r m') :
    (r = .retained ↔
      m.state = .active ∧ m.platform.kernel.abort = false ∧
        m.settings.minDeepSleepMs.toNat * 1000 ≤ ticks.toNat * m.settings.period ∧ m.gate.count = 0 ∧
        m.platform.application.allowsDeep = true ∧ m.platform.application.allowsEntry = true) ∧
      (r ≠ .retained →
        m'.pending = m.pending ∧ m'.platform.chip.deepPart = m.platform.chip.deepPart) ∧
      m'.platform.application =
        (m.consulted ticks).foldl (fun a call => a.called call) m.platform.application ∧
      (m.consulted ticks).count .deepSleepAllowed ≤ 1 ∧
      (.deepSleepAllowed ∈ m.consulted ticks → m.Eligible ticks) ∧
      (.preSleepVeto ∈ m.consulted ticks →
        .deepSleepAllowed ∈ m.consulted ticks ∧ m.platform.application.allowsDeep = true) ∧
      (.preSleepNotify ∈ m.consulted ticks →
        .preSleepVeto ∈ m.consulted ticks ∧ m.platform.application.allowsEntry = true) := by
  obtain ⟨hv, -⟩ := Settings.validate_eq_ok.1 hs
  have hstep := idleStep_of_idle hv h
  refine ⟨?_, hstep.keeps hv, hstep.application_eq hv, consulted_in_turn ticks m⟩
  rw [hstep.retained_iff]
  constructor
  · rintro ⟨⟨hstate, habort, hlong, hfree⟩, hdeep, hentry⟩
    exact ⟨hstate, habort, hlong, hfree, hdeep, hentry⟩
  · rintro ⟨hstate, habort, hlong, hfree, hdeep, hentry⟩
    exact ⟨⟨hstate, habort, hlong, hfree⟩, hdeep, hentry⟩

/-- A manager with the standard settings, at the start of a tick, whose application cancels every deep
sleep. -/
def vetoedManager : PowerManager Bench :=
  { platform := { chip := { timer := .running 23999 }, application := .vetoing }, settings := {},
    entry := ⟨0x08004000⟩ }

/-- A deep sleep of half a second that the application cancels leaves nothing of a deep sleep. -/
theorem vetoed_leaves_nothing :
    ∃ r m', idle 500 vetoedManager = .ok r m' ∧ r ≠ .retained ∧ m'.pending = none ∧
      m'.platform.chip.deepPart = vetoedManager.platform.chip.deepPart ∧
      m'.platform.application.calls.entries = [.deepSleepAllowed, .preSleepVeto] := by
  have hruns : Act.passes (idle 500) (fun _ _ => true) vetoedManager = true := by decide +kernel
  obtain ⟨r, m', hidle, -⟩ := Act.passes_iff.1 hruns
  obtain ⟨hretained, hkeeps, happlication, -⟩ :=
    deep_iff_all_consent (m := vetoedManager) (by decide) hidle
  have hr : r ≠ .retained := fun h => absurd (hretained.1 h).2.2.2.2.2 (by decide)
  refine ⟨r, m', hidle, hr, (hkeeps hr).1, (hkeeps hr).2, ?_⟩
  rw [happlication]
  decide

end PowerManager

end Tickless
