import Tickless.Proofs.Sessions

/-!
# Calls that halt

The courses of the two calls of a manager that do not come to their end. A call halts where one of its
acts on the platform does, and what it did up to there stays done. A fault of the hardware is given to
the application, which does not return from it; every other halt is passed on as it is.

`IdleHalt` and `ResumeHalt` are to the calls that halt what `IdleStep` and `ResumeStep` are to the calls
that come to their end.
-/

namespace Tickless

namespace PowerManager

variable {m m' : PowerManager Bench} {h : Halt}

/-! ## The idle hook -/

/-- The courses of an idle call that halts. -/
inductive IdleHalt (ticks : UInt32) (m : PowerManager Bench) : Halt → PowerManager Bench → Prop where
  /-- In a light sleep. -/
  | light (hstate : m.state = .active) (habort : m.platform.kernel.abort = false)
    (hdepth : m.settings.depth ticks m.gate.isHeld m.platform.application = .light)
    {h : Halt} {p : Bench}
    (hsleep : sleepLightly m.settings ticks (m.chosen ticks).platform = .error h p) :
    IdleHalt ticks m h { m.chosen ticks with platform := p, state := .lightSleep }
  /-- On the way into a deep sleep, before the application was asked. -/
  | entry (hstate : m.state = .active) (habort : m.platform.kernel.abort = false)
    (hdepth : m.settings.depth ticks m.gate.isHeld m.platform.application = .deep)
    {h : Halt} {p : Bench} (hentry : enterDeep (m.chosen ticks).platform = .error h p) :
    IdleHalt ticks m h { m.chosen ticks with platform := p }
  /-- On the way down, before the rail was cut. -/
  | down (hstate : m.state = .active) (habort : m.platform.kernel.abort = false)
    (hdepth : m.settings.depth ticks m.gate.isHeld m.platform.application = .deep)
    {snap : EntrySnapshot} {p q : Bench} {h : Halt}
    (hentry : enterDeep (m.chosen ticks).platform = .ok (some snap) p)
    (hdown : powerDown m.settings ticks snap p = .error h q) :
    IdleHalt ticks m (h.given q) { m.chosen ticks with platform := q }

/-- What follows a light sleep has no way to halt. -/
theorem sleepLight_eq_error (hs : m.settings.Valid) {ticks : UInt32} :
    sleepLight ticks m = .error h m' ↔
      ∃ p, sleepLightly m.settings ticks m.platform = .error h p ∧
        m' = { m with platform := p, state := .lightSleep } := by
  unfold sleepLight enter
  simp only [Act.get_bind, Act.modify_bind]
  rw [Act.bind_eq_error, onPlatform_eq_error]
  constructor
  · rintro (hsleep | ⟨e, u, hsleep, hafter⟩)
    · exact hsleep
    · rw [hs.maxSuppressedTicks_eq] at hafter
      cases hafter
  · exact .inl

theorem retainFrom_eq_error {ticks : UInt32} {snap : EntrySnapshot} :
    retainFrom ticks snap m = .error h m' ↔
      ∃ h₀ q, powerDown m.settings ticks snap m.platform = .error h₀ q ∧ h = h₀.given q ∧
        m' = { m with platform := q } := by
  unfold retainFrom
  rw [Act.get_bind, Act.bind_eq_error, orFatal_eq_error]
  constructor
  · rintro (hdown | ⟨cycle, u, hdown, hafter⟩)
    · exact hdown
    · cases hafter
  · exact .inl

theorem sleepDeep_eq_error {ticks : UInt32} :
    sleepDeep ticks m = .error h m' ↔
      (∃ p, enterDeep m.platform = .error h p ∧ m' = { m with platform := p }) ∨
      ∃ snap p, enterDeep m.platform = .ok (some snap) p ∧
        retainFrom ticks snap { m with platform := p } = .error h m' := by
  unfold sleepDeep
  rw [Act.bind_eq_error, onPlatform_eq_error]
  constructor
  · rintro (hentry | ⟨snap, u, hentry, hafter⟩)
    · exact .inl hentry
    · obtain ⟨p, hp, rfl⟩ := onPlatform_eq_ok.1 hentry
      cases snap with
      | none => cases hafter
      | some snap => exact .inr ⟨snap, p, hp, hafter⟩
  · rintro (hentry | ⟨snap, p, hp, hafter⟩)
    · exact .inl hentry
    · exact .inr ⟨some snap, _, onPlatform_eq_ok.2 ⟨p, hp, rfl⟩, hafter⟩

/-- An idle call halts by one of the courses. -/
theorem idle_eq_error (hs : m.settings.Valid) {ticks : UInt32} :
    idle ticks m = .error h m' ↔ IdleHalt ticks m h m' := by
  constructor
  · intro hidle
    by_cases hstate : m.state = .active
    · rw [idle_of_active ticks hstate] at hidle
      by_cases habort : m.platform.kernel.abort = true
      · rw [if_pos habort] at hidle
        cases hidle
      · have habort : m.platform.kernel.abort = false := by simpa using habort
        rw [if_neg (by simp [habort]), sleep_eq hs] at hidle
        cases hdepth : m.settings.depth ticks m.gate.isHeld m.platform.application with
        | light =>
          rw [hdepth] at hidle
          obtain ⟨p, hsleep, rfl⟩ := (sleepLight_eq_error (m := m.chosen ticks) hs).1 hidle
          exact .light hstate habort hdepth hsleep
        | deep =>
          rw [hdepth] at hidle
          rcases sleepDeep_eq_error.1 hidle with ⟨p, hentry, rfl⟩ | ⟨snap, p, hentry, hretain⟩
          · exact .entry hstate habort hdepth hentry
          · obtain ⟨h₀, q, hdown, rfl, rfl⟩ := retainFrom_eq_error.1 hretain
            exact .down hstate habort hdepth hentry hdown
    · rw [idle_of_busy ticks hstate] at hidle
      cases hidle
  · intro hhalt
    have hsleep : m.state = .active → m.platform.kernel.abort = false →
        idle ticks m = sleep ticks (m.entered ticks) := fun hstate habort => by
      rw [idle_of_active ticks hstate, if_neg (by simp [habort])]
    cases hhalt with
    | light hstate habort hdepth hlight =>
      rw [hsleep hstate habort, sleep_eq hs, hdepth]
      exact (sleepLight_eq_error (m := m.chosen ticks) hs).2 ⟨_, hlight, rfl⟩
    | entry hstate habort hdepth hentry =>
      rw [hsleep hstate habort, sleep_eq hs, hdepth]
      exact sleepDeep_eq_error.2 (.inl ⟨_, hentry, rfl⟩)
    | down hstate habort hdepth hentry hdown =>
      rw [hsleep hstate habort, sleep_eq hs, hdepth]
      exact sleepDeep_eq_error.2
        (.inr ⟨_, _, hentry, retainFrom_eq_error.2 ⟨_, _, hdown, rfl, rfl⟩⟩)

/-! ## The boot path -/

/-- The courses of a resume call that halts. The deep sleep is used up by then. -/
inductive ResumeHalt (m : PowerManager Bench) : Halt → PowerManager Bench → Prop where
  /-- In the measurement of the sleep. -/
  | measure {cycle : SleepCycle} (hpending : m.pending = some cycle) {h : Halt} {p : Bench}
    (hmeasure : reconcile m.settings cycle (awake cycle m.platform) = .error h p) :
    ResumeHalt m (h.given p) { m with platform := p, pending := none }
  /-- In the restart of the tick. -/
  | start {cycle : SleepCycle} (hpending : m.pending = some cycle) {e : Elapsed} {p q : Bench} {h : Halt}
    (hmeasure : reconcile m.settings cycle (awake cycle m.platform) = .ok e p)
    (hstart : reactivate m.settings e p = .error h q) :
    ResumeHalt m h { m with platform := q, pending := none }

theorem resumeFrom_eq_error {cycle : SleepCycle} :
    resumeFrom cycle m = .error h m' ↔
      (∃ h₀ p, reconcile m.settings cycle (awake cycle m.platform) = .error h₀ p ∧ h = h₀.given p ∧
        m' = { m with platform := p }) ∨
      ∃ e p q, reconcile m.settings cycle (awake cycle m.platform) = .ok e p ∧
        reactivate m.settings e p = .error h q ∧ m' = { m with platform := q } := by
  have hwake : onPlatform (wakeUp cycle) m = .ok () { m with platform := awake cycle m.platform } :=
    onPlatform_eq_ok.2 ⟨_, Bench.wakeUp_eq _ _, rfl⟩
  unfold resumeFrom
  rw [Act.get_bind, Act.bind_of_ok hwake, Act.bind_eq_error, orFatal_eq_error]
  constructor
  · rintro (hmeasure | ⟨e, u, hmeasure, hafter⟩)
    · exact .inl hmeasure
    · obtain ⟨p, hp, rfl⟩ := orFatal_eq_ok.1 hmeasure
      rcases Act.bind_eq_error.1 hafter with hstart | ⟨_, u, hstart, hend⟩
      · obtain ⟨q, hq, rfl⟩ := onPlatform_eq_error.1 hstart
        exact .inr ⟨e, p, q, hp, hq, rfl⟩
      · cases hend
  · rintro (hmeasure | ⟨e, p, q, hp, hq, rfl⟩)
    · exact .inl hmeasure
    · refine .inr ⟨e, _, orFatal_eq_ok.2 ⟨p, hp, rfl⟩, Act.bind_eq_error.2 (.inl ?_)⟩
      exact onPlatform_eq_error.2 ⟨q, hq, rfl⟩

/-- A resume call halts by one of the courses. -/
theorem resume_eq_error : resume m = .error h m' ↔ ResumeHalt m h m' := by
  unfold resume
  rw [Act.get_bind]
  cases hpending : m.pending with
  | none =>
    constructor
    · intro hresume
      cases hresume
    · intro hhalt
      cases hhalt with
      | measure hsome hmeasure =>
        rw [hpending] at hsome
        cases hsome
      | start hsome hmeasure hstart =>
        rw [hpending] at hsome
        cases hsome
  | some cycle =>
    show (resumeFrom cycle >>= fun e => pure (some e)) { m with pending := none } = _ ↔ _
    rw [Act.bind_eq_error, resumeFrom_eq_error]
    constructor
    · rintro ((⟨h₀, p, hmeasure, rfl, rfl⟩ | ⟨e, p, q, hmeasure, hstart, rfl⟩) | ⟨e, u, -, hend⟩)
      · exact .measure hpending hmeasure
      · exact .start hpending hmeasure hstart
      · cases hend
    · intro hhalt
      cases hhalt with
      | measure hsome hmeasure =>
        rw [hpending] at hsome
        cases hsome
        exact .inl (.inl ⟨_, _, hmeasure, rfl, rfl⟩)
      | start hsome hmeasure hstart =>
        rw [hpending] at hsome
        cases hsome
        exact .inl (.inr ⟨_, _, _, hmeasure, hstart, rfl⟩)

/-! ## Any call -/

/-- The courses of a call that halts. -/
inductive CallHalt (m : PowerManager Bench) : Call → Halt → PowerManager Bench → Prop where
  | idle {ticks : UInt32} {h : Halt} {m' : PowerManager Bench} (hidle : IdleHalt ticks m h m') :
    CallHalt m (.idle ticks) h m'
  | resume {h : Halt} {m' : PowerManager Bench} (hresume : ResumeHalt m h m') :
    CallHalt m .resume h m'
  | elapse {us : UInt32} {h : Halt} {p : Bench} (helapse : Bench.elapse us m.platform = .error h p) :
    CallHalt m (.elapse us) h { m with platform := p }

theorem callHalt_of_answer (hs : m.settings.Valid) {call : Call} (hcall : answer call m = .error h m') :
    CallHalt m call h m' := by
  cases call with
  | idle ticks =>
    rcases (Act.bind_eq_error (x := PowerManager.idle ticks)).1 hcall with hidle | ⟨r, u, -, hend⟩
    · exact .idle ((idle_eq_error hs).1 hidle)
    · cases hend
  | resume =>
    rcases (Act.bind_eq_error (x := PowerManager.resume)).1 hcall with hresume | ⟨r, u, -, hend⟩
    · exact .resume (resume_eq_error.1 hresume)
    · cases hend
  | elapse us =>
    rcases (Act.bind_eq_error (x := onPlatform (Bench.elapse us))).1 hcall with helapse | ⟨_, u, -, hend⟩
    · obtain ⟨p, hp, rfl⟩ := onPlatform_eq_error.1 helapse
      exact .elapse hp
    · cases hend

/-- A call that halts has recorded no sleep. -/
theorem CallHalt.history_eq {call : Call} (hcall : CallHalt m call h m') : m'.history = m.history := by
  cases hcall with
  | idle hidle => cases hidle <;> rfl
  | resume hresume => cases hresume <;> rfl
  | elapse helapse => rfl

end PowerManager

end Tickless
