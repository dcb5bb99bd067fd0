import Tickless.Proofs.StuckSamples

/-!
# Calls that take a sample

A call samples the real-time counter once at most: an idle call after the plan of its deep sleep, and a
resume call after the domains are back. Where a call stands then does not depend on the polling. What
comes of the polling does: the fault, if there is one, comes from there and leaves the manager as it was.

Seen from outside, the calls that take a sample are the idle calls that begin a deep sleep and the resume
calls that find one. They are also the calls with a sample in what they have logged.
-/

namespace Tickless

open PowerManager

/-! ## Samples as they are seen from outside -/

/-- The call begins a deep sleep, or finds one to resume from. -/
def Turn.Samples (t : Turn) : Prop :=
  match t.call with
  | .idle _ => t.reply? = some (.idled .retained)
  | .resume => t.found.pending.isSome = true
  | .elapse _ => False

instance (t : Turn) : Decidable t.Samples :=
  match t with
  | ⟨.idle _, _, _⟩ => inferInstanceAs (Decidable (_ = _))
  | ⟨.resume, _, _⟩ => inferInstanceAs (Decidable (_ = _))
  | ⟨.elapse _, _, _⟩ => inferInstanceAs (Decidable False)

/-- The same call takes a sample on both of two managers. -/
theorem Turn.Same.samples_iff {t t' : Turn} (h : t.Same t')
    (hpending : t'.found.pending.isSome = t.found.pending.isSome) : t'.Samples ↔ t.Samples := by
  unfold Turn.Samples
  rw [h.call, h.reply, hpending]

/-- A call logs a sample exactly if it goes from running to asleep, or back. -/
theorem Logs.sampled_iff {s : Settings} {asleep after : Bool} {events : List Event}
    (h : Logs s asleep events after) :
    (∃ counter, Event.rtcSample counter ∈ events) ↔ asleep ≠ after := by
  cases h with
  | nothing => simp
  | brief => simp
  | light planned next => simp [Settings.lightEvents]
  | down counter lead hmin hmax => simp [Settings.downEvents]
  | wake counter reload => simp [Settings.wakeEvents]

/-! ## Where a call takes its sample -/

theorem Halt.fault_of_given {b : Bench} {h : Halt} {handler : FaultHandler} {f f' : Fault}
    (hgiven : h.given b = .fatal handler f) (hsample : h = .endless ∨ h = .fault f') :
    h = .fault f ∧ handler = b.application.handler := by
  rcases hsample with rfl | rfl
  · cases hgiven
  · cases hgiven
    exact ⟨rfl, rfl⟩

theorem Bench.arithmetic_of_elapse {us : UInt32} {b b' : Bench} {h : Halt}
    (helapse : Bench.elapse us b = .error h b') : ∃ e, h = .arithmetic e := by
  unfold Bench.elapse at helapse
  rw [Act.get_bind] at helapse
  rcases Act.lift_bind_eq_error.1 helapse with ⟨e, -, rfl, -⟩ | ⟨c, -, hafter⟩
  · exact ⟨e, rfl⟩
  · cases hafter

namespace PowerManager

/-- The manager as a call is about to latch the counter. -/
inductive AtSample (m : PowerManager Bench) : Call → SampleStage → PowerManager Bench → Prop where
  /-- On the way down, with the sleep planned. -/
  | arming (hstate : m.state = .active) (habort : m.platform.kernel.abort = false) {ticks : UInt32}
    (hdepth : m.settings.depth ticks m.gate.isHeld m.platform.application = .deep)
    {snap : EntrySnapshot} {plan : DeepPlan} {p q : Bench}
    (hentry : enterDeep (m.chosen ticks).platform = .ok (some snap) p)
    (hplan : planDeep m.settings ticks snap p = .ok plan q) :
    AtSample m (.idle ticks) .arming { m.chosen ticks with platform := q }
  /-- On the way back, with the alarm off. -/
  | reconciling {cycle : SleepCycle} (hpending : m.pending = some cycle) :
    AtSample m .resume .reconciling
      { m with
        platform := { m.platform with chip := (awake cycle m.platform).chip.disarmed }
        pending := none }

variable {m m' m₁ : PowerManager Bench} {call : Call} {stage : SampleStage} {reply : Reply}

section

variable (hs : m.settings.Valid)

include hs

/-- Up to its sample, a call does nothing to what decides how long the sample takes. -/
theorem AtSample.polls_eq (hat : m.AtSample call stage m₁) :
    m₁.platform.chip.rtc.stuck = m.platform.chip.rtc.stuck ∧
      m₁.platform.chip.rtc.busyPolls = m.platform.chip.rtc.busyPolls := by
  cases hat with
  | arming hstate habort hdepth hentry hplan =>
    obtain ⟨k, c, -, hc, -, rfl⟩ := Bench.entered_of_enterDeep hentry
    obtain ⟨-, rfl⟩ := Chip.elapse_eq_ok.1 hc
    obtain ⟨c', hc', -, -, rfl⟩ := (Bench.planDeep_eq_ok hs).1 hplan
    obtain ⟨-, rfl⟩ := Chip.elapse_eq_ok.1 hc'
    exact ⟨rfl, rfl⟩
  | reconciling hpending => exact ⟨rfl, rfl⟩

/-- A call halts where its sample does. -/
theorem AtSample.answer_eq_error (hat : m.AtSample call stage m₁) {h : Halt} {b : Bench}
    (hsample : sampleCounter m.settings.polling stage m₁.platform = .error h b) :
    answer call m = .error (h.given b) { m₁ with platform := b } := by
  cases hat with
  | arming hstate habort hdepth hentry hplan =>
    have hdown := Bench.powerDown_eq_error.2 (.inr ⟨_, _, hplan, hsample⟩)
    exact Act.bind_of_error ((idle_eq_error hs).2 (.down hstate habort hdepth hentry hdown))
  | @reconciling cycle hpending =>
    have hmeasure : reconcile m.settings cycle (awake cycle m.platform) = .error h b :=
      (Bench.reconcile_eq_error hs).2 hsample
    exact Act.bind_of_error (resume_eq_error.2 (.measure hpending hmeasure))

/-- A fault that the application is given comes from the sample of the call. -/
theorem atSample_of_fatal {handler : FaultHandler} {f : Fault}
    (hcall : answer call m = .error (.fatal handler f) m') :
    ∃ stage m₁ b, m.AtSample call stage m₁ ∧
      sampleCounter m.settings.polling stage m₁.platform = .error (.fault f) b ∧
      handler = b.application.handler ∧ m' = { m₁ with platform := b } := by
  generalize hfatal : Halt.fatal handler f = h at hcall
  cases callHalt_of_answer hs hcall with
  | idle hidle =>
    cases hidle with
    | light hstate habort hdepth hsleep =>
      obtain ⟨e, rfl⟩ := Bench.arithmetic_of_sleepLightly hs hsleep
      cases hfatal
    | entry hstate habort hdepth hentry =>
      obtain ⟨e, rfl⟩ := Bench.arithmetic_of_enterDeep hentry
      cases hfatal
    | down hstate habort hdepth hentry hdown =>
      rcases Bench.powerDown_eq_error.1 hdown with hplan | ⟨plan, q, hplan, hsample⟩
      · obtain ⟨e, rfl⟩ := Bench.arithmetic_of_planDeep hs hplan
        cases hfatal
      · obtain ⟨rfl, rfl⟩ :=
          Halt.fault_of_given hfatal.symm (Bench.sampleCounter_halts hsample)
        exact ⟨_, _, _, .arming hstate habort hdepth hentry hplan, hsample, rfl, rfl⟩
  | resume hresume =>
    cases hresume with
    | measure hpending hmeasure =>
      have hsample := (Bench.reconcile_eq_error hs).1 hmeasure
      obtain ⟨rfl, rfl⟩ := Halt.fault_of_given hfatal.symm (Bench.sampleCounter_halts hsample)
      exact ⟨_, _, _, .reconciling hpending, hsample, rfl, rfl⟩
    | start hpending hmeasure hstart =>
      obtain ⟨e, rfl⟩ := Bench.arithmetic_of_reactivate hs hstart
      cases hfatal
  | elapse helapse =>
    obtain ⟨e, rfl⟩ := Bench.arithmetic_of_elapse helapse
    cases hfatal

/-! ## The calls that take one -/

theorem atSample_of_samples (hsamples : (turn call m).Samples) :
    ∃ stage m₁, m.AtSample call stage m₁ := by
  cases call with
  | idle ticks =>
    obtain ⟨m', hcall⟩ := answer_of_reply? hsamples
    cases callStep_of_answer hs hcall with
    | idle hidle =>
      cases hidle with
      | retained hstate habort hdepth hentry hdown =>
        obtain ⟨plan, q, hplan, -⟩ := Act.bind_eq_ok.1 hdown
        exact ⟨_, _, .arming hstate habort hdepth hentry hplan⟩
  | resume =>
    obtain ⟨cycle, hcycle⟩ := Option.isSome_iff_exists.1 hsamples
    exact ⟨_, _, .reconciling hcycle⟩
  | elapse us => exact hsamples.elim

/-- A call that takes a sample and does not halt in it has met one that is ready in time. -/
theorem outlasts_of_samples (hsamples : (turn call m).Samples)
    (hhalts : ∀ h m', answer call m = .error h m' → ∃ e, h = .arithmetic e) :
    m.platform.chip.rtc.stuck = false ∧ m.settings.polling.Outlasts m.platform.chip.rtc.busyPolls := by
  obtain ⟨stage, m₁, hat⟩ := atSample_of_samples hs hsamples
  cases hsample : sampleCounter m.settings.polling stage m₁.platform with
  | ok n b =>
    obtain ⟨hstuck, hpolls, -⟩ := Bench.sampleCounter_eq_ok.1 hsample
    have hkept := hat.polls_eq hs
    rw [hkept.1] at hstuck
    rw [hkept.2] at hpolls
    exact ⟨hstuck, hpolls⟩
  | error h b =>
    obtain ⟨e, harith⟩ := hhalts _ _ (hat.answer_eq_error hs hsample)
    rcases Bench.sampleCounter_halts hsample with rfl | rfl
    · cases harith
    · cases harith

/-- A call whose sample is ready in time takes one exactly if it comes to the place of one. -/
theorem samples_iff_atSample (hstuck : m.platform.chip.rtc.stuck = false)
    (hpolls : m.settings.polling.Outlasts m.platform.chip.rtc.busyPolls) :
    (turn call m).Samples ↔ ∃ stage m₁, m.AtSample call stage m₁ := by
  constructor
  · intro hsamples
    exact atSample_of_samples hs hsamples
  · rintro ⟨stage, m₁, hat⟩
    have hkept := hat.polls_eq hs
    rw [← hkept.1] at hstuck
    rw [← hkept.2] at hpolls
    cases hat with
    | @arming hstate habort ticks hdepth snap plan p q hentry hplan =>
      obtain ⟨b, hsample⟩ : ∃ b, sampleCounter m.settings.polling .arming q =
          .ok q.chip.rtc.counter b := ⟨_, Bench.sampleCounter_eq_ok.2 ⟨hstuck, hpolls, rfl, rfl⟩⟩
      obtain ⟨cycle, r, hdown⟩ : ∃ cycle r, powerDown m.settings ticks snap p = .ok cycle r :=
        ⟨_, _, Act.bind_eq_ok.2 ⟨plan, q, hplan, Act.bind_of_ok hsample⟩⟩
      obtain ⟨m', hidle⟩ : ∃ m', idle ticks m = .ok .retained m' := by
        rw [idle_of_active ticks hstate, if_neg (by simp [habort]), sleep_eq hs, hdepth]
        exact ⟨_, sleepDeep_eq_ok.2 (.inr ⟨_, _, hentry, retainFrom_eq_ok.2 ⟨_, _, hdown, rfl, rfl⟩⟩)⟩
      exact reply?_turn (Act.bind_of_ok hidle)
    | reconciling hpending =>
      show m.pending.isSome = true
      rw [hpending]
      rfl

/-! ## The log of a call that takes one -/

theorem samples_iff_pending_ne (hm : m.Settled) (hcall : answer call m = .ok reply m') :
    (turn call m).Samples ↔ m.pending.isSome ≠ m'.pending.isSome := by
  have hreply := reply?_turn hcall
  cases callStep_of_answer hs hcall with
  | @idle ticks r n hidle =>
    have hiff : (turn (.idle ticks) m).Samples ↔ r = .retained := by
      show (turn (.idle ticks) m).reply? = some (.idled .retained) ↔ _
      rw [hreply, Option.some_inj, Reply.idled.injEq]
    rw [hiff]
    cases hidle with
    | refused hstate => exact iff_of_false nofun fun h => h rfl
    | aborted hstate habort => exact iff_of_false nofun fun h => h rfl
    | light hstate habort hdepth hsleep => exact iff_of_false nofun fun h => h rfl
    | vetoed hstate habort hdepth hentry => exact iff_of_false nofun fun h => h rfl
    | retained hstate habort hdepth hentry hdown =>
      rw [hm.1 hstate]
      exact iff_of_true rfl nofun
  | resume hresume =>
    show m.pending.isSome = true ↔ _
    cases hresume with
    | nothing hpending =>
      rw [hpending]
      exact iff_of_false nofun fun h => h rfl
    | slept hpending hmeasure hstart =>
      rw [hpending]
      exact iff_of_true rfl nofun
  | elapse hc => exact iff_of_false id fun h => h rfl

/-- A call that came to its end has taken a sample exactly if it has logged one, as long as the log has
room. -/
theorem samples_iff_logged (hm : m.Settled) (hcall : answer call m = .ok reply m')
    (hroom : m'.platform.chip.events.length < logDepth) :
    (turn call m).Samples ↔ ∃ counter, Event.rtcSample counter ∈
      m'.platform.chip.events.since m.platform.chip.events.length := by
  obtain ⟨events, hlogs, hlog⟩ := (callStep_of_answer hs hcall).logs hs hm
  rw [hlog] at hroom ⊢
  rw [Trail.since_foldl_push hroom, hlogs.sampled_iff]
  exact samples_iff_pending_ne hs hm hcall

end

end PowerManager

end Tickless
