import Tickless.Proofs.AccessOrder
import Tickless.Proofs.DeepHalts

/-!
# Samples that are given up

Under a bounded policy, a sample of the real-time counter that is not ready in time is given up with a fault.
It happens at two places of a deep sleep, and at each of them little has been done yet: before the alarm is
armed the timer is stopped and the time of the rail switch written, and after the wake the alarm is switched
off. What came before the sample is in the log, as far as the log has room for it, and all that would come
after it is left alone. The manager gives the fault to the application, which does not return from it, so no
tick is stepped, no interrupt unmasked and no task resumed.
-/

namespace Tickless

open PowerManager

/-- A sample is not ready within a budget of polls. -/
def RealTimeCounter.Unready (budget : UInt32) (r : RealTimeCounter) : Prop :=
  r.stuck = true ∨ max budget.toNat 1 ≤ r.busyPolls.toNat

/-- From one chip to a later one, the log has gained events, as far as it has room for them. -/
def Chip.Gains (events : List Event) (c c' : Chip) : Prop :=
  c'.events.entries = (c.events.entries ++ events).take logDepth

theorem Chip.gains_of_foldl {events : List Event} {c c' : Chip}
    (h : c'.events = events.foldl (fun t e => t.push e) c.events) : c.Gains events c' := by
  unfold Gains
  rw [h]
  exact Trail.entries_foldl_push events c.events

/-- What had no room stays without it. -/
theorem Chip.Gains.trans {first second : List Event} {c c' c'' : Chip} (h : c.Gains first c')
    (h' : c'.Gains second c'') : c.Gains (first ++ second) c'' := by
  unfold Gains at *
  rw [h', h, Trail.take_take_append, List.append_assoc]

theorem Chip.gains_woken (context : WakeContext) (c : Chip) :
    c.Gains [.minClocks, .flashExitLowPower, .restoreContext, .trimPostWake, .status .normal]
      (c.woken context) := by
  refine gains_of_foldl ?_
  simp only [events_woken, List.foldl_cons, List.foldl_nil]

/-- What a power-down that gave its sample up has done: the timer is stopped and the time of the rail switch
written. -/
structure ArmingGivenUp (s : Settings) (b b' : Bench) : Prop where
  gains : b.chip.Gains [.timerDisable, .wakeTiming s.wakeTimingUs] b'.chip
  alarm : b'.chip.rtc.alarm = b.chip.rtc.alarm
  alarmEnabled : b'.chip.rtc.alarmEnabled = b.chip.rtc.alarmEnabled
  alarmPending : b'.chip.rtc.alarmPending = b.chip.rtc.alarmPending
  flashAsleep : b'.chip.flashAsleep = b.chip.flashAsleep
  status : b'.chip.power.status = b.chip.power.status
  core : b'.chip.core = b.chip.core
  kernel : b'.kernel = b.kernel

/-- What a measurement that gave its sample up has done: the alarm is switched off. -/
structure MeasuringGivenUp (b b' : Bench) : Prop where
  gains : b.chip.Gains [.alarmDisable, .alarmClear] b'.chip
  timer : b'.chip.timer = b.chip.timer
  counter : b'.chip.rtc.counter = b.chip.rtc.counter
  status : b'.chip.power.status = b.chip.power.status
  flashAsleep : b'.chip.flashAsleep = b.chip.flashAsleep
  core : b'.chip.core = b.chip.core
  kernel : b'.kernel = b.kernel

namespace Bench

variable {s : Settings} {idleTicks budget : UInt32} {entry : EntrySnapshot} {cycle : SleepCycle}
  {stage : SampleStage} {b b' : Bench} {h : Halt}

/-! ## One sample -/

theorem not_unready_of_outlasts {r : RealTimeCounter} (hstuck : r.stuck = false)
    (hpolls : (PollPolicy.bounded budget).Outlasts r.busyPolls) : ¬ r.Unready budget := by
  rintro (hnever | hslow)
  · rw [hstuck] at hnever
    cases hnever
  · exact absurd hpolls (Nat.not_lt.2 hslow)

/-- A sample that is given up is not ready, and leaves a number of busy polls and a message. -/
theorem sampleCounter_given_up (hsample : sampleCounter (.bounded budget) stage b = .error h b') :
    h = .fault (.sampleStuck stage) ∧ b.chip.rtc.Unready budget ∧
      ∃ left, b' = Logger.record (.pollsExhausted budget) (b.withBusyLeft left) := by
  cases hstuck : b.chip.rtc.stuck with
  | true =>
    rw [sampleCounter_fault_of_stuck hstuck] at hsample
    cases hsample
    exact ⟨rfl, .inl hstuck, _, rfl⟩
  | false =>
    by_cases hslow : max budget.toNat 1 ≤ b.chip.rtc.busyPolls.toNat
    · rw [sampleCounter_fault_of_le hstuck hslow] at hsample
      cases hsample
      exact ⟨rfl, .inr hslow, _, rfl⟩
    · have hpolls : (PollPolicy.bounded budget).Outlasts b.chip.rtc.busyPolls := Nat.lt_of_not_le hslow
      rw [sampleCounter_eq_ok.2 ⟨hstuck, hpolls, rfl, rfl⟩] at hsample
      cases hsample

/-! ## Acts that take no sample -/

section

variable (hs : s.Valid)

include hs

theorem arithmetic_of_planDeep (hplan : planDeep s idleTicks entry b = .error h b') :
    ∃ e, h = .arithmetic e := by
  rcases planDeep_error hs hplan with ⟨e, -, harith⟩ | ⟨-, e, -, -, harith⟩
  · exact ⟨e, harith⟩
  · exact ⟨e, harith⟩

theorem arithmetic_of_sleepLightly (hsleep : sleepLightly s idleTicks b = .error h b') :
    ∃ e, h = .arithmetic e := by
  rw [sleepLightly_eq hs] at hsleep
  split at hsleep
  · cases hsleep
  · next e hstep =>
    cases hsleep
    exact ⟨e, rfl⟩

theorem arithmetic_of_reactivate {e : Elapsed} (hstart : reactivate s e b = .error h b') :
    ∃ e, h = .arithmetic e := by
  rw [reactivate_eq hs] at hstart
  split at hstart
  · cases hstart
  · next e hstep =>
    cases hstart
    exact ⟨e, rfl⟩

end

theorem arithmetic_of_enterDeep (hentry : enterDeep b = .error h b') : ∃ e, h = .arithmetic e := by
  unfold enterDeep at hentry
  simp only [Platform.perform, Bench.perform, sense, ask, Bench.gauge, Bench.probe, Bench.onKernel,
    Bench.called, bind_assoc, pure_bind, Act.get_bind] at hentry
  rcases Act.lift_bind_eq_error.1 hentry with ⟨e, -, rfl, -⟩ | ⟨k, -, hentry⟩
  · exact ⟨e, rfl⟩
  · rw [Act.set_bind] at hentry
    rcases Act.lift_bind_eq_error.1 hentry with ⟨e, -, rfl, -⟩ | ⟨r, -, hentry⟩
    · exact ⟨e, rfl⟩
    · simp only [Act.set_bind, Act.modify_bind, Act.get_bind] at hentry
      split at hentry <;> cases hentry

/-! ## The two acts that take a sample -/

section

variable (hs : s.Valid) (hpolling : s.polling = .bounded budget)

include hs hpolling

/-- A power-down halts by its arithmetic, or gives its sample up. -/
theorem powerDown_given_up (hdown : powerDown s idleTicks entry b = .error h b') :
    (∃ e, h = .arithmetic e) ∨
      h = .fault (.sampleStuck .arming) ∧ b.chip.rtc.Unready budget ∧ ArmingGivenUp s b b' := by
  rcases powerDown_eq_error.1 hdown with hplan | ⟨plan, b₁, hplan, hsample⟩
  · exact .inl (arithmetic_of_planDeep hs hplan)
  · obtain ⟨c, hc, -, -, rfl⟩ := (planDeep_eq_ok hs).1 hplan
    have hevents : c.events = (b.chip.events.push .timerDisable).push (.wakeTiming s.wakeTimingUs) :=
      (Chip.events_elapse hc).trans (Chip.events_timed s b.chip)
    obtain ⟨-, rfl⟩ := Chip.elapse_eq_ok.1 hc
    rw [hpolling] at hsample
    obtain ⟨rfl, hunready, left, rfl⟩ := sampleCounter_given_up hsample
    exact .inr ⟨rfl, hunready, Chip.gains_of_foldl hevents, rfl, rfl, rfl, rfl, rfl, rfl, rfl⟩

theorem powerDown_of_unready (hunready : b.chip.rtc.Unready budget) :
    ∃ h b', powerDown s idleTicks entry b = .error h b' := by
  cases hdown : powerDown s idleTicks entry b with
  | error h b' => exact ⟨h, b', rfl⟩
  | ok cycle b' =>
    obtain ⟨-, -, -, hstuck, hpolls, -⟩ := (powerDown_eq_ok hs).1 hdown
    rw [hpolling] at hpolls
    exact absurd hunready (not_unready_of_outlasts hstuck hpolls)

/-- A measurement halts by giving its sample up. -/
theorem reconcile_given_up (hmeasure : reconcile s cycle b = .error h b') :
    h = .fault (.sampleStuck .reconciling) ∧ b.chip.rtc.Unready budget ∧ MeasuringGivenUp b b' := by
  have hsample := (reconcile_eq_error hs).1 hmeasure
  rw [hpolling] at hsample
  obtain ⟨rfl, hunready, left, rfl⟩ := sampleCounter_given_up hsample
  have hevents := Chip.events_disarmed b.chip
  exact ⟨rfl, hunready, Chip.gains_of_foldl hevents, rfl, rfl, rfl, rfl, rfl, rfl⟩

theorem reconcile_of_unready (hunready : b.chip.rtc.Unready budget) :
    ∃ h b', reconcile s cycle b = .error h b' := by
  cases hmeasure : reconcile s cycle b with
  | error h b' => exact ⟨h, b', rfl⟩
  | ok e b' =>
    obtain ⟨hstuck, hpolls, -⟩ := (reconcile_eq_ok hs).1 hmeasure
    rw [hpolling] at hpolls
    exact absurd hunready (not_unready_of_outlasts hstuck hpolls)

end

end Bench

/-! ## The calls of a manager -/

namespace PowerManager

/-- What an idle call that gave its sample up has done: interrupts are masked and the scheduler is
suspended, as on every way into a deep sleep, and there is nothing to resume from. -/
structure IdleGivenUp (m m' : PowerManager Bench) : Prop where
  gains : m.platform.chip.Gains
    [.maskInterrupts, .timerDisable, .wakeTiming m.settings.wakeTimingUs] m'.platform.chip
  kernel : m.platform.kernel.suspend = .ok m'.platform.kernel
  masked : m'.platform.chip.core.masked = true
  state : m'.state = m.state
  pending : m'.pending = m.pending

/-- What a resume call that gave its sample up has done: the domains are back and the alarm is switched
off. -/
structure ResumeGivenUp (m m' : PowerManager Bench) : Prop where
  gains : m.platform.chip.Gains [.minClocks, .flashExitLowPower, .restoreContext, .trimPostWake,
    .status .normal, .alarmDisable, .alarmClear] m'.platform.chip
  kernel : m'.platform.kernel = m.platform.kernel
  masked : m'.platform.chip.core.masked = m.platform.chip.core.masked
  state : m'.state = m.state
  pending : m'.pending = none

variable {m m' : PowerManager Bench} {ticks budget : UInt32} {h : Halt}

section

variable (hs : m.settings.Valid) (hpolling : m.settings.polling = .bounded budget)

include hs hpolling

/-- An idle call halts by its arithmetic, or gives the sample of a deep sleep up. -/
theorem IdleHalt.given_up (hhalt : IdleHalt ticks m h m') :
    (∃ e, h = .arithmetic e) ∨
      h = .fatal m'.platform.application.handler (.sampleStuck .arming) ∧ m.Eligible ticks ∧
        m.platform.application.allowsDeep = true ∧ m.platform.application.allowsEntry = true ∧
        m.platform.chip.rtc.Unready budget ∧ m.IdleGivenUp m' := by
  cases hhalt with
  | light hstate habort hdepth hsleep => exact .inl (Bench.arithmetic_of_sleepLightly hs hsleep)
  | entry hstate habort hdepth hentry => exact .inl (Bench.arithmetic_of_enterDeep hentry)
  | @down hstate habort hdepth snap p q h hentry hdown =>
    rcases Bench.powerDown_given_up hs hpolling hdown with ⟨e, rfl⟩ | ⟨rfl, hunready, hgiven⟩
    · exact .inl ⟨e, rfl⟩
    · obtain ⟨heligible, hdeep⟩ := eligible_of_deep hstate habort hdepth
      have hallows := (Bench.keeps_of_enterDeep hentry).1.symm
      rw [allowsEntry_chosen] at hallows
      obtain ⟨k, c, hk, hc, -, rfl⟩ := Bench.entered_of_enterDeep hentry
      have hmasked : m.platform.chip.Gains [.maskInterrupts] c :=
        Chip.gains_of_foldl (Chip.events_elapse hc)
      have hgains := hmasked.trans hgiven.gains
      obtain ⟨-, rfl⟩ := Chip.elapse_eq_ok.1 hc
      have hsuspended : m.platform.kernel.suspend = .ok q.kernel := hk.trans (congrArg _ hgiven.kernel.symm)
      have hcore : q.chip.core.masked = true := congrArg Core.masked hgiven.core
      exact .inr ⟨rfl, heligible, hdeep, hallows, hunready, hgains, hsuspended, hcore, rfl, rfl⟩

theorem idle_of_unready (hunready : m.platform.chip.rtc.Unready budget) (heligible : m.Eligible ticks)
    (hdeep : m.platform.application.allowsDeep = true)
    (hentry : m.platform.application.allowsEntry = true) : ∃ h m', idle ticks m = .error h m' := by
  cases hidle : idle ticks m with
  | error h m' => exact ⟨h, m', rfl⟩
  | ok r m' =>
    have hstep := idleStep_of_idle hs hidle
    obtain rfl := hstep.retained_iff.2 ⟨heligible, hdeep, hentry⟩
    cases hstep with
    | @retained hstate habort hdepth snap p q cycle hentered hdown =>
      obtain ⟨k, c, -, hc, -, rfl⟩ := Bench.entered_of_enterDeep hentered
      obtain ⟨-, rfl⟩ := Chip.elapse_eq_ok.1 hc
      obtain ⟨-, -, -, hstuck, hpolls, -⟩ := (Bench.powerDown_eq_ok hs).1 hdown
      rw [hpolling] at hpolls
      exact absurd hunready (Bench.not_unready_of_outlasts hstuck hpolls)

/-- A resume call halts in the step of the tick counter, or gives its sample up. -/
theorem ResumeHalt.given_up (hhalt : ResumeHalt m h m') :
    (∃ e, h = .arithmetic e) ∨
      h = .fatal m'.platform.application.handler (.sampleStuck .reconciling) ∧
        m.pending.isSome = true ∧ m.platform.chip.rtc.Unready budget ∧ m.ResumeGivenUp m' := by
  cases hhalt with
  | @measure cycle hpending h p hmeasure =>
    obtain ⟨rfl, hunready, hgiven⟩ := Bench.reconcile_given_up hs hpolling hmeasure
    have hgains := (Chip.gains_woken cycle.context m.platform.chip).trans hgiven.gains
    have hmasked : p.chip.core.masked = m.platform.chip.core.masked := by
      rw [hgiven.core]
      rfl
    have hsome : m.pending.isSome = true := by rw [hpending]; rfl
    -- the wake path leaves the polls as they are
    have hunready : m.platform.chip.rtc.Unready budget := hunready
    exact .inr ⟨rfl, hsome, hunready, hgains, hgiven.kernel, hmasked, rfl, rfl⟩
  | start hpending hmeasure hstart => exact .inl (Bench.arithmetic_of_reactivate hs hstart)

theorem resume_of_unready (hunready : m.platform.chip.rtc.Unready budget)
    (hpending : m.pending.isSome = true) : ∃ h m', resume m = .error h m' := by
  obtain ⟨cycle, hcycle⟩ := Option.isSome_iff_exists.1 hpending
  have hawake : (awake cycle m.platform).chip.rtc.Unready budget := hunready
  obtain ⟨h, p, hmeasure⟩ := Bench.reconcile_of_unready hs hpolling hawake
  exact ⟨_, _, resume_eq_error.2 (.measure hcycle hmeasure)⟩

end

/-- Under a bounded policy, a power-down and a measurement end in a fault exactly if their sample is stuck or
not ready within the budget of polls, and so do the calls of a manager that take them, with the fault given
to the application. Before the fault a power-down has stopped the timer and written the time of the rail
switch, and a measurement has switched the alarm off; the log shows that as far as it has room. Nothing else
is done: no alarm is armed, no domain put into retention, no tick stepped, no interrupt unmasked and no task
resumed. -/
theorem given_up_iff_unready {s : Settings} (hs : s.validate = .ok s)
    (hpolling : s.polling = .bounded budget) :
    (∀ idleTicks entry (b : Bench), (∀ e b', powerDown s idleTicks entry b ≠ .error (.arithmetic e) b') →
      ((∃ h b', powerDown s idleTicks entry b = .error h b') ↔ b.chip.rtc.Unready budget) ∧
        ∀ h b', powerDown s idleTicks entry b = .error h b' →
          h = .fault (.sampleStuck .arming) ∧ ArmingGivenUp s b b') ∧
    (∀ cycle (b : Bench), ((∃ h b', reconcile s cycle b = .error h b') ↔ b.chip.rtc.Unready budget) ∧
      ∀ h b', reconcile s cycle b = .error h b' →
        h = .fault (.sampleStuck .reconciling) ∧ MeasuringGivenUp b b') ∧
    (∀ ticks (m : PowerManager Bench), m.settings = s → (∀ e m', idle ticks m ≠ .error (.arithmetic e) m') →
      ((∃ h m', idle ticks m = .error h m') ↔ m.Eligible ticks ∧ m.platform.application.allowsDeep = true ∧
          m.platform.application.allowsEntry = true ∧ m.platform.chip.rtc.Unready budget) ∧
        ∀ h m', idle ticks m = .error h m' →
          h = .fatal m'.platform.application.handler (.sampleStuck .arming) ∧ m.IdleGivenUp m') ∧
    (∀ m : PowerManager Bench, m.settings = s → (∀ e m', resume m ≠ .error (.arithmetic e) m') →
      ((∃ h m', resume m = .error h m') ↔
          m.pending.isSome = true ∧ m.platform.chip.rtc.Unready budget) ∧
        ∀ h m', resume m = .error h m' →
          h = .fatal m'.platform.application.handler (.sampleStuck .reconciling) ∧ m.ResumeGivenUp m') := by
  obtain ⟨hv, -⟩ := Settings.validate_eq_ok.1 hs
  refine ⟨?_, ?_, ?_, ?_⟩
  · intro idleTicks entry b harith
    have hgiven : ∀ h b', powerDown s idleTicks entry b = .error h b' → _ := fun h b' hdown =>
      (Bench.powerDown_given_up hv hpolling hdown).resolve_left fun ⟨e, he⟩ => harith e b' (he ▸ hdown)
    refine ⟨⟨fun ⟨h, b', hdown⟩ => (hgiven h b' hdown).2.1, Bench.powerDown_of_unready hv hpolling⟩, ?_⟩
    intro h b' hdown
    obtain ⟨hfault, -, hleft⟩ := hgiven h b' hdown
    exact ⟨hfault, hleft⟩
  · intro cycle b
    have hgiven : ∀ h b', reconcile s cycle b = .error h b' → _ := fun h b' =>
      Bench.reconcile_given_up hv hpolling
    refine ⟨⟨fun ⟨h, b', hmeasure⟩ => (hgiven h b' hmeasure).2.1,
      Bench.reconcile_of_unready hv hpolling⟩, ?_⟩
    intro h b' hmeasure
    obtain ⟨hfault, -, hleft⟩ := hgiven h b' hmeasure
    exact ⟨hfault, hleft⟩
  · rintro ticks m rfl harith
    have hgiven : ∀ h m', idle ticks m = .error h m' → _ := fun h m' hidle =>
      (((idle_eq_error hv).1 hidle).given_up hv hpolling).resolve_left
        fun ⟨e, he⟩ => harith e m' (he ▸ hidle)
    refine ⟨⟨?_, ?_⟩, ?_⟩
    · rintro ⟨h, m', hidle⟩
      obtain ⟨-, heligible, hdeep, hentry, hunready, -⟩ := hgiven h m' hidle
      exact ⟨heligible, hdeep, hentry, hunready⟩
    · rintro ⟨heligible, hdeep, hentry, hunready⟩
      exact idle_of_unready hv hpolling hunready heligible hdeep hentry
    · intro h m' hidle
      obtain ⟨hfatal, -, -, -, -, hleft⟩ := hgiven h m' hidle
      exact ⟨hfatal, hleft⟩
  · rintro m rfl harith
    have hgiven : ∀ h m', resume m = .error h m' → _ := fun h m' hresume =>
      ((resume_eq_error.1 hresume).given_up hv hpolling).resolve_left
        fun ⟨e, he⟩ => harith e m' (he ▸ hresume)
    refine ⟨⟨?_, ?_⟩, ?_⟩
    · rintro ⟨h, m', hresume⟩
      obtain ⟨-, hpending, hunready, -⟩ := hgiven h m' hresume
      exact ⟨hpending, hunready⟩
    · rintro ⟨hpending, hunready⟩
      exact resume_of_unready hv hpolling hunready hpending
    · intro h m' hresume
      obtain ⟨hfatal, -, -, hleft⟩ := hgiven h m' hresume
      exact ⟨hfatal, hleft⟩

/-- A manager with a budget of three polls, at the start of a tick, on a real-time counter that is never
ready. -/
def stuckManager : PowerManager Bench :=
  { standardManagerWith { stuck := true } with settings := { polling := .bounded 3 } }

/-- The same manager, on its way back from a deep sleep. -/
def stuckWaking : PowerManager Bench := { stuckManager with state := .deepSleep, pending := some {} }

/-- Half a second of deep sleep is given up before its alarm is armed, and a deep sleep that is over before
it is measured. -/
theorem half_second_given_up :
    (∃ b', powerDown stuckManager.settings 500 {} stuckManager.platform =
        .error (.fault (.sampleStuck .arming)) b' ∧
      ArmingGivenUp stuckManager.settings stuckManager.platform b') ∧
    (∃ m', idle 500 stuckManager = .error (.fatal .scripted (.sampleStuck .arming)) m' ∧
      stuckManager.IdleGivenUp m') ∧
    ∃ m', resume stuckWaking = .error (.fatal .scripted (.sampleStuck .reconciling)) m' ∧
      stuckWaking.ResumeGivenUp m' := by
  have hdowns : (powerDown stuckManager.settings 500 {}).halts
      (fun h => h = .fault (.sampleStuck .arming)) stuckManager.platform = true := by decide +kernel
  have hidles : (idle 500).halts
      (fun h => h = .fatal .scripted (.sampleStuck .arming)) stuckManager = true := by decide +kernel
  have hresumes : Act.halts resume
      (fun h => h = .fatal .scripted (.sampleStuck .reconciling)) stuckWaking = true := by decide +kernel
  obtain ⟨hdown, -, hidle, hresume⟩ :=
    given_up_iff_unready (s := stuckManager.settings) (by decide) rfl
  refine ⟨?_, ?_, ?_⟩
  · obtain ⟨h, b', hrun, hfault⟩ := Act.halts_iff.1 hdowns
    obtain rfl := of_decide_eq_true hfault
    obtain ⟨-, hleft⟩ := hdown 500 {} stuckManager.platform fun e b' harith => by
      cases hrun.symm.trans harith
    exact ⟨b', hrun, (hleft _ b' hrun).2⟩
  · obtain ⟨h, m', hrun, hfatal⟩ := Act.halts_iff.1 hidles
    obtain rfl := of_decide_eq_true hfatal
    obtain ⟨-, hleft⟩ := hidle 500 stuckManager rfl fun e m' harith => by
      cases hrun.symm.trans harith
    exact ⟨m', hrun, (hleft _ m' hrun).2⟩
  · obtain ⟨h, m', hrun, hfatal⟩ := Act.halts_iff.1 hresumes
    obtain rfl := of_decide_eq_true hfatal
    obtain ⟨-, hleft⟩ := hresume stuckWaking rfl fun e m' harith => by
      cases hrun.symm.trans harith
    exact ⟨m', hrun, (hleft _ m' hrun).2⟩

/-- A full log does not show what was done before a sample was given up. -/
theorem full_log_shows_no_way_down :
    ∃ b b' : Bench, Settings.validate { polling := .bounded 3 } = .ok { polling := .bounded 3 } ∧
      powerDown { polling := .bounded 3 } 500 {} b = .error (.fault (.sampleStuck .arming)) b' ∧
      b'.chip.events.entries ≠
        b.chip.events.entries ++ [Event.timerDisable, Event.wakeTiming 1700] := by
  let log : Trail Event logDepth :=
    ⟨List.replicate logDepth Event.timerDisable, by rw [List.length_replicate]⟩
  let b : Bench := { chip := { timer := .running 23999, rtc := { stuck := true }, events := log } }
  have hdowns : (powerDown { polling := .bounded 3 } 500 {}).halts
      (fun h => h = .fault (.sampleStuck .arming)) b = true := by decide +kernel
  obtain ⟨h, b', hrun, hfault⟩ := Act.halts_iff.1 hdowns
  obtain rfl := of_decide_eq_true hfault
  refine ⟨b, b', by decide, hrun, fun h => ?_⟩
  -- no log is longer than this one, which would have to grow
  have hgrown := congrArg List.length h
  have hfull : b.chip.events.entries.length = logDepth := List.length_replicate
  rw [List.length_append, hfull] at hgrown
  exact absurd (hgrown ▸ b'.chip.events.length_le) (by decide)

end PowerManager

end Tickless
