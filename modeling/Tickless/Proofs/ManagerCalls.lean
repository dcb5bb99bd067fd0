import Tickless.PowerManager
import Tickless.Proofs.DeepSleep

/-!
# Calls of the manager on the bench

The two calls of a manager, each as the courses it can take. `IdleStep` and `ResumeStep` have one
case for each course that comes to its end, with the runs on the platform that it went through and
the manager that it leaves, so a property of the calls is a case analysis on them.
-/

namespace Tickless

open Checked

/-! ## The choice of depth -/

namespace Settings

/-- Whether an idle period is put to the application for a deep sleep. -/
def eligible (s : Settings) (ticks : UInt32) (held : Bool) : Bool :=
  UInt64.ofNat (ticks.toNat * s.period / 1000) ≥ s.minDeepSleepMs.toUInt64 && !held

/-- The depth that is chosen with an application. -/
def depth (s : Settings) (ticks : UInt32) (held : Bool) (a : Application) : SleepMode :=
  if s.eligible ticks held && a.allowsDeep then .deep else .light

end Settings

/-- The bench after the choice of a depth. -/
def Bench.afterChoice (s : Settings) (ticks : UInt32) (held : Bool) (b : Bench) : Bench :=
  { b with
    application :=
      if s.eligible ticks held then b.application.called .deepSleepAllowed else b.application
    transcript := .depthChosen ticks (UInt64.ofNat (ticks.toNat * s.period / 1000)) held
      (s.depth ticks held b.application) :: b.transcript }

theorem Bench.chooseDepth_eq {s : Settings} (hs : s.Valid) (ticks : UInt32) (held : Bool)
    (b : Bench) :
    chooseDepth s ticks held b = .ok (s.depth ticks held b.application) (b.afterChoice s ticks held) := by
  have hconsents : consents (s.eligible ticks held) b =
      .ok (s.eligible ticks held && b.application.allowsDeep)
        { b with
          application := if s.eligible ticks held then b.application.called .deepSleepAllowed
            else b.application } := by
    cases s.eligible ticks held with
    | true =>
      show EStateM.Result.ok (b.application.called .deepSleepAllowed).allowsDeep _ = _
      rw [Application.allowsDeep_called]
      rfl
    | false => rfl
  unfold chooseDepth
  rw [hs.ticksToMs_eq, Act.lift_ok_bind]
  exact (Act.bind_of_ok hconsents).trans rfl

/-- What becomes of a halt that is given to the application. -/
def Halt.given (b : Bench) : Halt → Halt
  | .fault f => .fatal b.application.handler f
  | h => h

namespace PowerManager

variable {m m' : PowerManager Bench}

/-! ## Parts of the state -/

theorem onPlatform_eq {α : Type} (act : Act Bench α) (m : PowerManager Bench) :
    onPlatform act m =
      match act m.platform with
      | .ok a b => .ok a { m with platform := b }
      | .error h b => .error h { m with platform := b } := by
  unfold onPlatform Act.within
  cases act m.platform <;> rfl

theorem orFatal_eq {α : Type} (act : Act Bench α) (m : PowerManager Bench) :
    orFatal act m =
      match act m.platform with
      | .ok a b => .ok a { m with platform := b }
      | .error h b => .error (h.given b) { m with platform := b } := by
  show EStateM.tryCatch (onPlatform act) _ m = _
  unfold EStateM.tryCatch
  rw [onPlatform_eq]
  cases act m.platform with
  | ok a b => rfl
  | error h b => cases h <;> rfl

theorem onPlatform_eq_ok {α : Type} {act : Act Bench α} {a : α} :
    onPlatform act m = .ok a m' ↔ ∃ p, act m.platform = .ok a p ∧ m' = { m with platform := p } :=
  Act.within_eq_ok

theorem onPlatform_eq_error {α : Type} {act : Act Bench α} {h : Halt} :
    onPlatform act m = .error h m' ↔
      ∃ p, act m.platform = .error h p ∧ m' = { m with platform := p } := by
  rw [onPlatform_eq]
  cases act m.platform with
  | ok a p => simp
  | error h' p =>
    simp only [EStateM.Result.error.injEq]
    constructor
    · rintro ⟨rfl, rfl⟩
      exact ⟨p, ⟨rfl, rfl⟩, rfl⟩
    · rintro ⟨_, ⟨rfl, rfl⟩, rfl⟩
      exact ⟨rfl, rfl⟩

/-- The application does not return from a fatal fault, so an act that may give up comes to its end
by itself. -/
theorem orFatal_eq_ok {α : Type} {act : Act Bench α} {a : α} :
    orFatal act m = .ok a m' ↔ ∃ p, act m.platform = .ok a p ∧ m' = { m with platform := p } := by
  rw [orFatal_eq]
  cases act m.platform with
  | ok b p =>
    simp only [EStateM.Result.ok.injEq]
    constructor
    · rintro ⟨rfl, rfl⟩
      exact ⟨p, ⟨rfl, rfl⟩, rfl⟩
    · rintro ⟨_, ⟨rfl, rfl⟩, rfl⟩
      exact ⟨rfl, rfl⟩
  | error h p => simp

theorem orFatal_eq_error {α : Type} {act : Act Bench α} {h : Halt} :
    orFatal act m = .error h m' ↔
      ∃ h₀ p, act m.platform = .error h₀ p ∧ h = h₀.given p ∧ m' = { m with platform := p } := by
  rw [orFatal_eq]
  cases act m.platform with
  | ok a p => simp
  | error h₀ p =>
    simp only [EStateM.Result.error.injEq]
    constructor
    · rintro ⟨rfl, rfl⟩
      exact ⟨h₀, p, ⟨rfl, rfl⟩, rfl, rfl⟩
    · rintro ⟨_, _, ⟨rfl, rfl⟩, rfl, rfl⟩
      exact ⟨rfl, rfl⟩

/-! ## The idle hook -/

/-- The manager once an idle call was let in. -/
def entered (ticks : UInt32) (m : PowerManager Bench) : PowerManager Bench :=
  { m with
    platform := { m.platform with chip := m.platform.chip.maskInterrupts }
    stats := { m.stats with lastRequestedTicks := ticks } }

/-- The manager once a depth was chosen for an idle call. -/
def chosen (ticks : UInt32) (m : PowerManager Bench) : PowerManager Bench :=
  { m.entered ticks with
    platform := (m.entered ticks).platform.afterChoice m.settings ticks m.gate.isHeld }

/-- A bench with interrupts unmasked. -/
def unmasked (b : Bench) : Bench :=
  { b with chip := b.chip.unmaskInterrupts }

/-- The courses of an idle call that comes to its end. -/
inductive IdleStep (ticks : UInt32) (m : PowerManager Bench) :
    IdleOutcome → PowerManager Bench → Prop where
  /-- A sleep is in progress. -/
  | refused (hstate : m.state ≠ .active) :
    IdleStep ticks m .aborted
      { m with platform := Logger.record (.idleRefused m.state) m.platform }
  /-- A task became ready. -/
  | aborted (hstate : m.state = .active) (habort : m.platform.kernel.abort = true) :
    IdleStep ticks m .aborted
      { m.entered ticks with
        platform := unmasked (m.entered ticks).platform
        stats := { (m.entered ticks).stats with aborts := m.stats.aborts + 1 } }
  /-- A light sleep. -/
  | light (hstate : m.state = .active) (habort : m.platform.kernel.abort = false)
    (hdepth : m.settings.depth ticks m.gate.isHeld m.platform.application = .light)
    {e : Elapsed} {p : Bench} (hsleep : sleepLightly m.settings ticks (m.chosen ticks).platform = .ok e p) :
    IdleStep ticks m (.lightSlept e)
      { m.chosen ticks with
        platform := unmasked p
        state := .active
        stats := (m.chosen ticks).stats.record .light e
        history := m.history.push
          { mode := .light, requestedTicks := min ticks (UInt32.ofNat m.settings.lightLimit),
            elapsed := e } }
  /-- A deep sleep that the application cancelled. -/
  | vetoed (hstate : m.state = .active) (habort : m.platform.kernel.abort = false)
    (hdepth : m.settings.depth ticks m.gate.isHeld m.platform.application = .deep)
    {p : Bench} (hentry : enterDeep (m.chosen ticks).platform = .ok none p) :
    IdleStep ticks m .vetoed
      { m.chosen ticks with
        platform := p
        stats := { (m.chosen ticks).stats with vetoes := m.stats.vetoes + 1 } }
  /-- A deep sleep that has begun. -/
  | retained (hstate : m.state = .active) (habort : m.platform.kernel.abort = false)
    (hdepth : m.settings.depth ticks m.gate.isHeld m.platform.application = .deep)
    {snap : EntrySnapshot} {p q : Bench} {cycle : SleepCycle}
    (hentry : enterDeep (m.chosen ticks).platform = .ok (some snap) p)
    (hdown : powerDown m.settings ticks snap p = .ok cycle q) :
    IdleStep ticks m .retained
      { m.chosen ticks with
        platform := { q with chip := q.chip.cutRail m.entry }
        state := .deepSleep
        pending := some cycle }

theorem idle_of_busy (ticks : UInt32) (h : m.state ≠ .active) :
    idle ticks m =
      .ok .aborted { m with platform := Logger.record (.idleRefused m.state) m.platform } := by
  unfold idle
  rw [Act.get_bind]
  show (if m.state ≠ .active then _ else _ : Act (PowerManager Bench) IdleOutcome) m = _
  rw [if_pos h]
  rfl

theorem idle_of_active (ticks : UInt32) (h : m.state = .active) :
    idle ticks m =
      if m.platform.kernel.abort then abort (m.entered ticks) else sleep ticks (m.entered ticks) := by
  unfold idle
  rw [Act.get_bind]
  show (if m.state ≠ .active then _ else _ : Act (PowerManager Bench) IdleOutcome) m = _
  rw [if_neg (not_not.2 h)]
  show (if m.platform.kernel.abort = true then abort else sleep ticks) (m.entered ticks) = _
  split
  · rfl
  · rfl

theorem sleep_eq (hs : m.settings.Valid) (ticks : UInt32) :
    sleep ticks (m.entered ticks) =
      match m.settings.depth ticks m.gate.isHeld m.platform.application with
      | .light => sleepLight ticks (m.chosen ticks)
      | .deep => sleepDeep ticks (m.chosen ticks) := by
  have hdepth : onPlatform (chooseDepth m.settings ticks m.gate.isHeld) (m.entered ticks) =
      .ok (m.settings.depth ticks m.gate.isHeld m.platform.application) (m.chosen ticks) :=
    onPlatform_eq_ok.2 ⟨_, Bench.chooseDepth_eq hs _ _ _, rfl⟩
  unfold sleep
  rw [Act.get_bind]
  refine (Act.bind_of_ok hdepth).trans ?_
  cases m.settings.depth ticks m.gate.isHeld m.platform.application with
  | light => rfl
  | deep => rfl

theorem sleepLight_eq_ok (hs : m.settings.Valid) {ticks : UInt32} {r : IdleOutcome} :
    sleepLight ticks m = .ok r m' ↔
      ∃ e p, sleepLightly m.settings ticks m.platform = .ok e p ∧ r = .lightSlept e ∧
        m' = { m with
          platform := unmasked p
          state := .active
          stats := m.stats.record .light e
          history := m.history.push
            { mode := .light, requestedTicks := min ticks (UInt32.ofNat m.settings.lightLimit),
              elapsed := e } } := by
  have hafter : ∀ e p, (do
      onPlatform (perform .unmaskInterrupts)
      enter .active
      let requestedTicks := min ticks (← m.settings.maxSuppressedTicks)
      finish { mode := .light, requestedTicks, elapsed := e }
      return .lightSlept e : Act (PowerManager Bench) IdleOutcome)
        { m with state := .lightSleep, platform := p } =
      .ok (.lightSlept e) { m with
        platform := unmasked p
        state := .active
        stats := m.stats.record .light e
        history := m.history.push
          { mode := .light, requestedTicks := min ticks (UInt32.ofNat m.settings.lightLimit),
            elapsed := e } } := fun e p => by
    rw [hs.maxSuppressedTicks_eq]
    rfl
  unfold sleepLight enter
  simp only [Act.get_bind, Act.modify_bind]
  rw [Act.bind_eq_ok]
  constructor
  · rintro ⟨e, u, hsleep, h⟩
    obtain ⟨p, hp, rfl⟩ := onPlatform_eq_ok.1 hsleep
    have h := (hafter e p).symm.trans h
    cases h
    exact ⟨e, p, hp, rfl, rfl⟩
  · rintro ⟨e, p, hp, rfl, rfl⟩
    exact ⟨e, _, onPlatform_eq_ok.2 ⟨p, hp, rfl⟩, hafter e p⟩

theorem retainFrom_eq_ok {ticks : UInt32} {snap : EntrySnapshot} {r : IdleOutcome} :
    retainFrom ticks snap m = .ok r m' ↔
      ∃ cycle q, powerDown m.settings ticks snap m.platform = .ok cycle q ∧ r = .retained ∧
        m' = { m with
          platform := { q with chip := q.chip.cutRail m.entry }
          state := .deepSleep
          pending := some cycle } := by
  unfold retainFrom
  rw [Act.get_bind, Act.bind_eq_ok]
  constructor
  · rintro ⟨cycle, u, hdown, h⟩
    obtain ⟨q, hq, rfl⟩ := orFatal_eq_ok.1 hdown
    obtain ⟨rfl, rfl⟩ := Act.pure_eq_ok.1 h
    exact ⟨cycle, q, hq, rfl, rfl⟩
  · rintro ⟨cycle, q, hq, rfl, rfl⟩
    exact ⟨cycle, _, orFatal_eq_ok.2 ⟨q, hq, rfl⟩, rfl⟩

theorem sleepDeep_eq_ok {ticks : UInt32} {r : IdleOutcome} :
    sleepDeep ticks m = .ok r m' ↔
      (∃ p, enterDeep m.platform = .ok none p ∧ r = .vetoed ∧
        m' = { m with
          platform := p
          stats := { m.stats with vetoes := m.stats.vetoes + 1 } }) ∨
      ∃ snap p, enterDeep m.platform = .ok (some snap) p ∧
        retainFrom ticks snap { m with platform := p } = .ok r m' := by
  unfold sleepDeep
  rw [Act.bind_eq_ok]
  constructor
  · rintro ⟨snap, u, hentry, h⟩
    obtain ⟨p, hp, rfl⟩ := onPlatform_eq_ok.1 hentry
    cases snap with
    | none =>
      obtain ⟨rfl, rfl⟩ := Act.pure_eq_ok.1 h
      exact .inl ⟨p, hp, rfl, rfl⟩
    | some snap => exact .inr ⟨snap, p, hp, h⟩
  · rintro (⟨p, hp, rfl, rfl⟩ | ⟨snap, p, hp, h⟩)
    · exact ⟨none, _, onPlatform_eq_ok.2 ⟨p, hp, rfl⟩, rfl⟩
    · exact ⟨some snap, _, onPlatform_eq_ok.2 ⟨p, hp, rfl⟩, h⟩

/-- An idle call that comes to its end takes one of the courses. -/
theorem idleStep_of_idle (hs : m.settings.Valid) {ticks : UInt32} {r : IdleOutcome}
    (h : idle ticks m = .ok r m') : IdleStep ticks m r m' := by
  by_cases hstate : m.state = .active
  · rw [idle_of_active ticks hstate] at h
    by_cases habort : m.platform.kernel.abort = true
    · rw [if_pos habort] at h
      obtain ⟨rfl, rfl⟩ := Act.pure_eq_ok.1 h
      exact .aborted hstate habort
    · have habort : m.platform.kernel.abort = false := by simpa using habort
      rw [if_neg (by simp [habort]), sleep_eq hs] at h
      cases hdepth : m.settings.depth ticks m.gate.isHeld m.platform.application with
      | light =>
        rw [hdepth] at h
        obtain ⟨e, p, hsleep, rfl, rfl⟩ := (sleepLight_eq_ok (m := m.chosen ticks) hs).1 h
        exact .light hstate habort hdepth hsleep
      | deep =>
        rw [hdepth] at h
        rcases sleepDeep_eq_ok.1 h with ⟨p, hentry, rfl, rfl⟩ | ⟨snap, p, hentry, h⟩
        · exact .vetoed hstate habort hdepth hentry
        · obtain ⟨cycle, q, hdown, rfl, rfl⟩ := retainFrom_eq_ok.1 h
          exact .retained hstate habort hdepth hentry hdown
  · rw [idle_of_busy ticks hstate] at h
    cases h
    exact .refused hstate

/-! ## The boot path -/

/-- The bench once the domains are back. -/
def awake (cycle : SleepCycle) (b : Bench) : Bench :=
  { b with chip := b.chip.woken cycle.context }

/-- The courses of a resume call that comes to its end. -/
inductive ResumeStep (m : PowerManager Bench) : Option Elapsed → PowerManager Bench → Prop where
  /-- There is no deep sleep to resume from. -/
  | nothing (hpending : m.pending = none) :
    ResumeStep m none { m with platform := Logger.record .nothingToResume m.platform }
  /-- A deep sleep is accounted for. -/
  | slept {cycle : SleepCycle} (hpending : m.pending = some cycle) {e : Elapsed} {p q : Bench}
    (hmeasure : reconcile m.settings cycle (awake cycle m.platform) = .ok e p)
    (hstart : reactivate m.settings e p = .ok () q) :
    ResumeStep m (some e)
      { m with
        platform := Logger.record (.resumed e) q
        state := .active
        pending := none
        stats := m.stats.record .deep e
        history := m.history.push
          { mode := .deep, requestedTicks := cycle.requestedTicks, elapsed := e } }

theorem resumeFrom_eq_ok {cycle : SleepCycle} {e : Elapsed} :
    resumeFrom cycle m = .ok e m' ↔
      ∃ p q, reconcile m.settings cycle (awake cycle m.platform) = .ok e p ∧
        reactivate m.settings e p = .ok () q ∧
        m' = { m with
          platform := Logger.record (.resumed e) q
          state := .active
          stats := m.stats.record .deep e
          history := m.history.push
            { mode := .deep, requestedTicks := cycle.requestedTicks, elapsed := e } } := by
  have hwake : onPlatform (wakeUp cycle) m = .ok () { m with platform := awake cycle m.platform } :=
    onPlatform_eq_ok.2 ⟨_, Bench.wakeUp_eq _ _, rfl⟩
  unfold resumeFrom
  rw [Act.get_bind, Act.bind_of_ok hwake, Act.bind_eq_ok]
  constructor
  · rintro ⟨e', u, hmeasure, h⟩
    obtain ⟨p, hp, rfl⟩ := orFatal_eq_ok.1 hmeasure
    obtain ⟨_, u, hstart, h⟩ := Act.bind_eq_ok.1 h
    obtain ⟨q, hq, rfl⟩ := onPlatform_eq_ok.1 hstart
    obtain ⟨rfl, rfl⟩ := Act.pure_eq_ok.1 h
    exact ⟨p, q, hp, hq, rfl⟩
  · rintro ⟨p, q, hp, hq, rfl⟩
    refine ⟨e, _, orFatal_eq_ok.2 ⟨p, hp, rfl⟩, ?_⟩
    exact Act.bind_eq_ok.2 ⟨(), _, onPlatform_eq_ok.2 ⟨q, hq, rfl⟩, rfl⟩

/-- A resume call that comes to its end takes one of the courses. -/
theorem resumeStep_of_resume {r : Option Elapsed} (h : resume m = .ok r m') : ResumeStep m r m' := by
  unfold resume at h
  rw [Act.get_bind] at h
  cases hpending : m.pending with
  | none =>
    rw [hpending] at h
    obtain ⟨rfl, rfl⟩ := Act.pure_eq_ok.1 h
    exact .nothing hpending
  | some cycle =>
    rw [hpending] at h
    obtain ⟨e, u, hfrom, h⟩ := Act.bind_eq_ok (x := resumeFrom cycle) |>.1 h
    obtain ⟨p, q, hmeasure, hstart, rfl⟩ := resumeFrom_eq_ok.1 hfrom
    obtain ⟨rfl, rfl⟩ := Act.pure_eq_ok.1 h
    exact .slept hpending hmeasure hstart

end PowerManager

end Tickless
