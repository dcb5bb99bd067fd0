import Tickless.Proofs.CallSamples
import Tickless.Proofs.TwinManagers
import Tickless.Proofs.TwinSamples

/-!
# Poll policies

A bounded policy for polling a sample differs from the unbounded one in its fault, and in nothing else.
Two runs of the same calls under the two policies agree call by call up to the first sample that stays
busy for as many polls as the budget allows. There the bounded run ends, in the state in which the other
takes the sample.

The calls that take a sample are known by what they come to under the unbounded policy, and how long their
samples stay busy by the chip that they find. Neither looks at how a sample is polled.
-/

namespace Tickless

open PowerManager

/-! ## Twins whose counters stand alike -/

theorem Event.moved_zero (e : Event) : e.moved 0 = e := by
  cases e <;> simp [Event.moved]

theorem SleepCycle.moved_zero (c : SleepCycle) : c.moved 0 = c := by
  simp [SleepCycle.moved]

/-- The manager with another policy for polling and other messages so far. -/
def PowerManager.polled (polling : PollPolicy) (transcript : Transcript) (m : PowerManager Bench) :
    PowerManager Bench :=
  { m with settings := { m.settings with polling }, platform := { m.platform with transcript } }

theorem PowerManager.polled_self {p : PollPolicy} {transcript : Transcript} {m : PowerManager Bench}
    (hpolling : m.settings.polling = p) (htranscript : m.platform.transcript = transcript) :
    m.polled p transcript = m := by
  subst hpolling htranscript
  rfl

namespace Difference

variable {d : Difference} {p p' : PollPolicy} {armed : Bool} {c c' : Chip} {m m' : PowerManager Bench}

/-- The counters of the twins stand alike. -/
structure Still (d : Difference) : Prop where
  counter : d.counter = 0 := by rfl
  freeCounter : d.freeCounter = 0 := by rfl

theorem Still.chip_eq (hd : d.Still) (h : d.Chips armed c c') : c' = c := by
  obtain ⟨⟨alarm, events, rfl⟩, halarms, ⟨old, new, -, hlog, hlog'⟩, -⟩ := h
  have halarm : alarm = c.rtc.alarm := by
    rcases halarms with halarm | ⟨-, hold, hold'⟩
    · have hmap : c.rtc.alarm.map (· + d.counter) = c.rtc.alarm := by simp [hd.counter]
      exact halarm.trans hmap
    · exact hold'.trans hold.symm
  have hevents : events = c.events := by
    have hmap : new.map (Event.moved d.counter) = new := by
      rw [hd.counter]
      exact (List.map_congr_left fun e _ => e.moved_zero).trans (List.map_id _)
    have hentries : events.entries = c.events.entries := by
      rw [hlog, ← hmap]
      exact hlog'
    cases events
    cases hc : c.events
    rw [hc] at hentries
    cases hentries
    rfl
  subst halarm hevents
  unfold twin
  rw [hd.counter, hd.freeCounter, UInt32.add_zero, UInt32.add_zero]

theorem Still.chips (hd : d.Still) (hknown : d.known c.rtc.stuck c.rtc.busyPolls) :
    d.Chips armed c c where
  twin := ⟨c.rtc.alarm, c.events, by
    unfold Difference.twin
    rw [hd.counter, hd.freeCounter, UInt32.add_zero, UInt32.add_zero]⟩
  alarms := .inl (by simp [hd.counter])
  logs := ⟨[], c.events.entries, .inr rfl, rfl, by
    rw [hd.counter]
    exact ((List.map_congr_left fun e _ => e.moved_zero).trans (List.map_id _)).symm⟩
  known := hknown

/-- Twin managers whose counters stand alike differ in the policy and in the messages before the first
call. -/
theorem Still.managers_iff (hd : d.Still) :
    d.Managers p p' armed m m' ↔
      m.settings.polling = p ∧ d.known m.platform.chip.rtc.stuck m.platform.chip.rtc.busyPolls ∧
        ∃ new, m.platform.transcript = new ++ d.oldMessages.1 ∧
          m' = m.polled p' (new ++ d.oldMessages.2) := by
  have hpending : m.pending.map (SleepCycle.moved d.counter) = m.pending := by
    rw [hd.counter]
    cases m.pending with
    | none => rfl
    | some cycle => exact congrArg some cycle.moved_zero
  constructor
  · intro hm
    obtain ⟨new, hnew, hnew'⟩ := hm.platform.transcript
    refine ⟨hm.polling, hm.platform.chip.known, new, hnew, ?_⟩
    have hchip := hd.chip_eq hm.platform.chip
    obtain ⟨⟨hsettings, -, hentry, hgate, hstate, hcycle, hstats, hhistory⟩, -, hkernel,
      happlication, -⟩ := hm
    obtain ⟨⟨chip, kernel, application, transcript⟩, settings, entry, gate, state, pending, stats,
      history⟩ := m'
    rw [hpending] at hcycle
    subst hsettings hentry hgate hstate hcycle hstats hhistory hkernel happlication hchip hnew'
    rfl
  · rintro ⟨rfl, hknown, new, hnew, rfl⟩
    exact ⟨⟨rfl, rfl, rfl, rfl, rfl, hpending.symm, rfl, rfl⟩,
      ⟨hd.chips hknown, rfl, rfl, new, hnew, rfl⟩⟩

/-! ## Samples of twin managers -/

theorem Benches.afterChoice {b b' : Bench} (hb : d.Benches armed b b') (s : Settings)
    (polling : PollPolicy) (ticks : UInt32) (held : Bool) :
    d.Benches armed (b.afterChoice s ticks held) (b'.afterChoice { s with polling } ticks held) := by
  obtain ⟨new, hnew, hnew'⟩ := hb.transcript
  unfold Bench.afterChoice
  rw [hb.application]
  exact ⟨hb.chip, hb.kernel, rfl, _ :: new, congrArg (_ :: ·) hnew, congrArg (_ :: ·) hnew'⟩

theorem Managers.chosen (hm : d.Managers p p' armed m m') (ticks : UInt32) :
    d.Managers p p' armed (m.chosen ticks) (m'.chosen ticks) := by
  have hmasked : d.Benches armed (m.entered ticks).platform (m'.entered ticks).platform :=
    { hm.platform with chip := hm.platform.chip.write (f := Chip.maskInterrupts) (e := .maskInterrupts) {} }
  have hchosen : d.Benches armed (m.chosen ticks).platform (m'.chosen ticks).platform := by
    unfold PowerManager.chosen
    rw [hm.settings, hm.gate]
    exact hmasked.afterChoice m.settings p' ticks m.gate.isHeld
  have hstats := congrArg (fun s : SleepStats => { s with lastRequestedTicks := ticks }) hm.stats
  exact { hm with stats := hstats, platform := hchosen }

/-- Twin managers come to the same sample, and are twins there. -/
theorem Managers.atSample {call : Call} {stage : SampleStage} {m₁ : PowerManager Bench}
    (hm : d.Managers p p' false m m') (hat : m.AtSample call stage m₁) :
    ∃ m₁', m'.AtSample call stage m₁' ∧ d.Managers p p' false m₁ m₁' := by
  cases hat with
  | @arming hstate habort ticks hdepth snap plan b q hentry hplan =>
    have hchosen := hm.chosen ticks
    obtain ⟨_, b', hentry', rfl, hb⟩ := enterDeep_together.of_ok hchosen.platform hentry
    obtain ⟨_, q', hplan', rfl, hq⟩ := (planDeep_together m.settings p' ticks snap).of_ok hb hplan
    rw [← hm.settings] at hplan'
    refine ⟨_, .arming (hm.state.trans hstate) ?_ ?_ hentry' hplan', { hchosen with platform := hq }⟩
    · rw [hm.platform.kernel]
      exact habort
    · rw [hm.settings, hm.gate, hm.platform.application]
      exact hdepth
  | @reconciling cycle hpending =>
    obtain ⟨_, b', hwake, -, hb⟩ :=
      (wakeUp_together cycle).of_ok hm.platform (Bench.wakeUp_eq cycle m.platform)
    cases (Bench.wakeUp_eq _ _).symm.trans hwake
    have hdisarmed := (hb.chip.write (f := Chip.disableAlarm) (e := .alarmDisable) {}).write
      (f := Chip.clearAlarm) (e := .alarmClear) {}
    have hpending' : m'.pending = some (cycle.moved d.counter) := by
      rw [hm.pending, hpending]
      rfl
    exact ⟨_, .reconciling hpending', { hm with pending := rfl }, { hm.platform with chip := hdisarmed }⟩

end Difference

/-! ## Managers under a budget -/

/-- The same manager under a bounded policy instead of the unbounded one, after other messages. -/
structure UnderBudget (budget : UInt32) (said : Transcript × Transcript) (m m' : PowerManager Bench) :
    Prop where
  polling : m.settings.polling = .unbounded
  stuck : m.platform.chip.rtc.stuck = false
  same : ∃ new, m.platform.transcript = new ++ said.1 ∧ m' = m.polled (.bounded budget) (new ++ said.2)

/-- The manager with a number of busy polls left. -/
def PowerManager.withBusyLeft (left : UInt32) (m : PowerManager Bench) : PowerManager Bench :=
  { m with platform := m.platform.withBusyLeft left }

namespace Turn

/-- The call takes a sample that stays busy for as many polls as a budget allows. -/
def Slow (budget : UInt32) (t : Turn) : Prop :=
  t.Samples ∧ max budget.toNat 1 ≤ t.found.platform.chip.rtc.busyPolls.toNat

instance (budget : UInt32) (t : Turn) : Decidable (t.Slow budget) :=
  inferInstanceAs (Decidable (_ ∧ _))

/-- The call ended in a fatal fault. -/
def Faulted (t : Turn) : Prop :=
  ∃ handler f, t.halt? = some (.fatal handler f)

end Turn

/-- Two calls that returned the same, or overflowed alike. -/
structure SameTurn (budget : UInt32) (said : Transcript × Transcript) (t t' : Turn) : Prop
    extends t.Same t' where
  found : UnderBudget budget said t.found t'.found
  left : UnderBudget budget said t.left t'.left
  unfaulted : ¬ t'.Faulted

/-- A call that gave up on a sample, in the state in which the unbounded policy takes it. -/
structure GaveUp (budget : UInt32) (said : Transcript × Transcript) (t t' : Turn) : Prop where
  call : t'.call = t.call
  found : UnderBudget budget said t.found t'.found
  fault : ∃ stage m m', t.found.AtSample t.call stage m ∧ UnderBudget budget said m m' ∧
    t'.halt? = some (.fatal m.platform.application.handler (.sampleStuck stage)) ∧
      t'.left = Logger.record (.pollsExhausted budget) (m'.withBusyLeft
        (UInt32.ofNat (t.found.platform.chip.rtc.busyPolls.toNat - (max budget 1).toNat)))

/-- The second run agrees with the first one up to the first slow sample, and ends there. -/
inductive AgreeUntilSlow (budget : UInt32) (said : Transcript × Transcript) :
    List Turn → List Turn → Prop where
  | done : AgreeUntilSlow budget said [] []
  | same {t t' : Turn} {rest rest' : List Turn} (hquick : ¬ t.Slow budget)
      (hsame : SameTurn budget said t t') (hrest : AgreeUntilSlow budget said rest rest') :
      AgreeUntilSlow budget said (t :: rest) (t' :: rest')
  | slow {t t' : Turn} {rest : List Turn} (hslow : t.Slow budget) (hgave : GaveUp budget said t t') :
      AgreeUntilSlow budget said (t :: rest) [t']

/-! ## A call under either policy -/

section

variable {budget : UInt32} {said : Transcript × Transcript} {call : Call} {m m' n : PowerManager Bench}

theorem not_faulted_turn {reply : Reply} (h : answer call m = .ok reply n) :
    ¬ (turn call m).Faulted := by
  rintro ⟨handler, f, hhalt⟩
  rw [halt?_turn_of_ok h] at hhalt
  cases hhalt

theorem not_faulted_turn_of_arithmetic {e : ArithError} (h : answer call m = .error (.arithmetic e) n) :
    ¬ (turn call m).Faulted := by
  rintro ⟨handler, f, hhalt⟩
  rw [halt?_turn h] at hhalt
  cases hhalt

namespace UnderBudget

theorem changed (h : UnderBudget budget said m m') {change : Change}
    (hstuck : ∀ c : Chip, c.rtc.stuck = false → (change.chip c).rtc.stuck = false) :
    UnderBudget budget said (m.changed change) (m'.changed change) := by
  obtain ⟨new, hnew, rfl⟩ := h.same
  exact ⟨h.polling, hstuck _ h.stuck, new, hnew, rfl⟩

theorem valid (h : UnderBudget budget said m m') (hs : m.settings.Valid) : m'.settings.Valid := by
  obtain ⟨new, -, rfl⟩ := h.same
  exact { hs with }

theorem polling_eq (h : UnderBudget budget said m m') : m'.settings.polling = .bounded budget := by
  obtain ⟨new, -, rfl⟩ := h.same
  rfl

theorem chip_eq (h : UnderBudget budget said m m') : m'.platform.chip = m.platform.chip := by
  obtain ⟨new, -, rfl⟩ := h.same
  rfl

theorem application_eq (h : UnderBudget budget said m m') :
    m'.platform.application = m.platform.application := by
  obtain ⟨new, -, rfl⟩ := h.same
  rfl

theorem pending_eq (h : UnderBudget budget said m m') : m'.pending = m.pending := by
  obtain ⟨new, -, rfl⟩ := h.same
  rfl

/-- What the two have in common if the bounded policy goes first. -/
def boundedFirst (busyPolls : UInt32) (said : Transcript × Transcript) : Difference where
  oldMessages := said.swap
  known stuck polls := stuck = false ∧ polls = busyPolls

theorem iff_boundedFirst {armed : Bool} {busyPolls : UInt32} :
    (boundedFirst busyPolls said).Managers (.bounded budget) .unbounded armed m' m ↔
      UnderBudget budget said m m' ∧ m.platform.chip.rtc.busyPolls = busyPolls := by
  rw [Difference.Still.managers_iff {}]
  constructor
  · rintro ⟨hpolling, ⟨hstuck, hpolls⟩, new, hnew, rfl⟩
    exact ⟨⟨rfl, hstuck, new, rfl, (polled_self hpolling hnew).symm⟩, hpolls⟩
  · rintro ⟨⟨hpolling, hstuck, new, hnew, rfl⟩, hpolls⟩
    exact ⟨rfl, ⟨hstuck, hpolls⟩, new, rfl, (polled_self hpolling hnew).symm⟩

/-- Both come to the same sample. -/
theorem atSample (h : UnderBudget budget said m m') {stage : SampleStage} {m₁' : PowerManager Bench}
    (hat' : m'.AtSample call stage m₁') :
    ∃ m₁, m.AtSample call stage m₁ ∧ UnderBudget budget said m₁ m₁' ∧
      m₁.platform.chip.rtc.busyPolls = m.platform.chip.rtc.busyPolls := by
  have hmanagers : (boundedFirst m.platform.chip.rtc.busyPolls said).Managers (.bounded budget)
      .unbounded false m' m := iff_boundedFirst.2 ⟨h, rfl⟩
  obtain ⟨m₁, hat, hleft⟩ := hmanagers.atSample hat'
  exact ⟨m₁, hat, iff_boundedFirst.1 hleft⟩

/-- The call under the bounded policy, next to the same one under the unbounded policy. -/
theorem answer_boundedFirst (h : UnderBudget budget said m m') (call : Call) :
    let d := boundedFirst m.platform.chip.rtc.busyPolls said
    let slow := max budget.toNat 1 ≤ m.platform.chip.rtc.busyPolls.toNat
    Ends (d.AtManagers (.bounded budget) .unbounded (d.givesUp slow)) Eq
      (d.Managers (.bounded budget) .unbounded false) (answer call m') (answer call m) :=
  Difference.answer_together (fun _ _ _ hover => .inl hover)
    (fun _ => Difference.sample_together_bounded fun _ _ hknown => hknown) call m' m
    (iff_boundedFirst.2 ⟨h, rfl⟩)

/-- A call that does not fault under the bounded policy takes no slow sample. -/
theorem not_slow (h : UnderBudget budget said m m') (hs : m.settings.Valid)
    (hsame : (turn call m).Same (turn call m'))
    (hhalts : ∀ halt n', answer call m' = .error halt n' → ∃ e, halt = .arithmetic e) :
    ¬ (turn call m).Slow budget := by
  rintro ⟨hsamples, hle⟩
  have hsamples' : (turn call m').Samples :=
    (hsame.samples_iff (congrArg Option.isSome h.pending_eq)).2 hsamples
  obtain ⟨-, hpolls⟩ := outlasts_of_samples (h.valid hs) hsamples' hhalts
  rw [h.polling_eq, h.chip_eq] at hpolls
  exact absurd hle (Nat.not_le_of_lt hpolls)

/-- A fault under the bounded policy is that of a slow sample, and comes where the unbounded policy takes
it. -/
theorem gaveUp_of_fatal (h : UnderBudget budget said m m') (hs : m.settings.Valid)
    (hle : max budget.toNat 1 ≤ m.platform.chip.rtc.busyPolls.toNat) {handler : FaultHandler} {f : Fault}
    (hcall : answer call m' = .error (.fatal handler f) n) :
    (turn call m).Slow budget ∧ GaveUp budget said (turn call m) (turn call m') := by
  obtain ⟨stage, m₁', b, hat', hsample, rfl, rfl⟩ := atSample_of_fatal (h.valid hs) hcall
  obtain ⟨m₁, hat, hunder, hpolls⟩ := h.atSample hat'
  have hsamples : (turn call m).Samples := by
    refine (samples_iff_atSample hs h.stuck ?_).2 ⟨stage, m₁, hat⟩
    rw [h.polling]
    trivial
  have hstuck : m₁'.platform.chip.rtc.stuck = false := by
    rw [hunder.chip_eq]
    exact hunder.stuck
  rw [← hunder.chip_eq] at hpolls
  rw [h.polling_eq, Bench.sampleCounter_fault_of_le hstuck (by rwa [hpolls]), hpolls] at hsample
  cases hsample
  refine ⟨⟨hsamples, hle⟩, rfl, h, stage, m₁, m₁', hat, hunder, ?_, left_turn_of_error hcall⟩
  rw [halt?_turn hcall, ← hunder.application_eq]
  rfl

/-- A call returns the same under either policy, or overflows under both, and takes no slow sample. Or it
takes one, and the bounded policy gives up. -/
theorem answer_either (h : UnderBudget budget said m m') (hs : m.settings.Valid) (call : Call) :
    (¬ (turn call m).Slow budget ∧ ∃ reply m₁ m₁', answer call m = .ok reply m₁ ∧
        answer call m' = .ok reply m₁' ∧ UnderBudget budget said m₁ m₁') ∨
      (¬ (turn call m).Slow budget ∧ ∃ e m₁ m₁', answer call m = .error (.arithmetic e) m₁ ∧
        answer call m' = .error (.arithmetic e) m₁' ∧ UnderBudget budget said m₁ m₁') ∨
      (turn call m).Slow budget ∧ (∃ halt m₁', answer call m' = .error halt m₁') ∧
        GaveUp budget said (turn call m) (turn call m') := by
  have hends := h.answer_boundedFirst call
  generalize hr : answer call m = r at hends
  generalize hr' : answer call m' = r' at hends
  cases hends with
  | answered hreply hleft =>
    subst hreply
    have hquick := h.not_slow hs (same_turn_of_ok hr hr') fun halt n' hhalt => by
      cases hr'.symm.trans hhalt
    exact .inl ⟨hquick, _, _, _, rfl, rfl, (iff_boundedFirst.1 hleft).1⟩
  | halted hhalt =>
    obtain ⟨h₀, rfl, h₀', rfl, hhalt, hrest⟩ := hhalt
    rcases hhalt with ⟨e, b', rfl, hsame, htwins⟩ | ⟨-, hnone, -⟩
    · cases hsame
      have hquick := h.not_slow hs (same_turn_of_error hr hr') fun halt n' hhalt => by
        cases hr'.symm.trans hhalt
        exact ⟨e, rfl⟩
      exact .inr (.inl ⟨hquick, e, _, _, rfl, rfl,
        (iff_boundedFirst.1 { hrest with platform := htwins }).1⟩)
    · cases hnone
  | excused hhalt =>
    obtain ⟨h₀, rfl, hhalt⟩ := hhalt
    rcases hhalt with ⟨e, b', -, hnone, -⟩ | ⟨hle, -, stage, rfl⟩
    · cases hnone
    · obtain ⟨hslow, hgave⟩ := h.gaveUp_of_fatal hs hle hr'
      exact .inr (.inr ⟨hslow, ⟨_, _, rfl⟩, hgave⟩)

end UnderBudget

/-! ## Runs under either policy -/

/-- Runs under the two policies agree up to the first slow sample. -/
theorem agreeUntilSlow_of_run {calls : List (Change × Call)} (h : UnderBudget budget said m m')
    (hs : m.settings.Valid)
    (hcalls : ∀ c ∈ calls, ∀ chip : Chip,
      chip.rtc.stuck = false → (c.1.chip chip).rtc.stuck = false) :
    AgreeUntilSlow budget said (run calls m) (run calls m') := by
  induction calls generalizing m m' with
  | nil => exact .done
  | cons c rest ih =>
    obtain ⟨change, call⟩ := c
    have hfound := h.changed (hcalls _ List.mem_cons_self)
    have hrest := fun c hc => hcalls c (List.mem_cons_of_mem _ hc)
    rcases hfound.answer_either hs call with ⟨hquick, reply, m₁, m₁', hcall, hcall', hleft⟩ |
      ⟨hquick, e, m₁, m₁', hcall, hcall', hleft⟩ | ⟨hslow, ⟨halt, m₁', hcall'⟩, hgave⟩
    · have hset : m₁.settings = m.settings :=
        (callStep_of_answer (m := m.changed change) hs hcall).settings_eq
      rw [run_cons_of_ok hcall, run_cons_of_ok hcall']
      refine .same hquick ⟨same_turn_of_ok hcall hcall', hfound, ?_, not_faulted_turn hcall'⟩
        (ih hleft (by rwa [hset]) hrest)
      rw [left_turn hcall, left_turn hcall']
      exact hleft
    · rw [run_cons_of_error hcall, run_cons_of_error hcall']
      refine .same hquick ⟨same_turn_of_error hcall hcall', hfound, ?_,
        not_faulted_turn_of_arithmetic hcall'⟩ .done
      rw [left_turn_of_error hcall, left_turn_of_error hcall']
      exact hleft
    · rw [run_cons_of_error hcall']
      exact .slow hslow hgave

/-- In runs that agree so, the second comes to a fault exactly if the first takes a slow sample. -/
theorem AgreeUntilSlow.faulted_iff {turns turns' : List Turn}
    (h : AgreeUntilSlow budget said turns turns') :
    (∃ t' ∈ turns', t'.Faulted) ↔ ∃ t ∈ turns, t.Slow budget := by
  induction h with
  | done => simp
  | same hquick hsame hrest ih =>
    simp only [List.exists_mem_cons_iff]
    exact or_congr (iff_of_false hsame.unfaulted hquick) ih
  | slow hslow hgave =>
    obtain ⟨stage, m, m', -, -, hhalt, -⟩ := hgave.fault
    exact ⟨fun _ => ⟨_, List.mem_cons_self, hslow⟩,
      fun _ => ⟨_, List.mem_cons_self, _, _, hhalt⟩⟩

/-- The calls of a run that take a sample have logged one, and no others have. -/
theorem samples_iff_logged_in_run {calls : List (Change × Call)} {t : Turn} (hs : m.settings.Valid)
    (hm : m.Settled) (ht : t ∈ run calls m) (hreply : t.reply?.isSome)
    (hroom : t.left.platform.chip.events.length < logDepth) :
    t.Samples ↔ ∃ counter, Event.rtcSample counter ∈
      t.left.platform.chip.events.since t.found.platform.chip.events.length := by
  obtain ⟨call, n, rfl, hset, hfound⟩ := found_of_mem_run hs hm ht
  obtain ⟨reply, hreply⟩ := Option.isSome_iff_exists.1 hreply
  obtain ⟨n', hcall⟩ := answer_of_reply? hreply
  rw [← hset] at hs
  rw [left_turn hcall] at hroom ⊢
  exact samples_iff_logged hs hfound hcall hroom

end

/-- A bounded policy for polling changes nothing but the fault: the run agrees with the one under the
unbounded policy up to the first sample that stays busy for as many polls as the budget allows, and it
comes to a fatal fault exactly if there is such a sample. The calls that take one are the idle calls that
begin a deep sleep and the resume calls that find one; as long as the log has room, they are the calls that
have logged one. -/
theorem budget_changes_only_the_fault {s : Settings} {entry : ResumeEntry} {b : Bench}
    {m : PowerManager Bench} {calls : List (Change × Call)} (budget : UInt32)
    (hpolling : s.polling = .unbounded) (hcreate : PowerManager.create s entry b = .ok m)
    (hstuck : b.chip.rtc.stuck = false)
    (hcalls : ∀ c ∈ calls, ∀ chip : Chip,
      chip.rtc.stuck = false → (c.1.chip chip).rtc.stuck = false) :
    ∃ m', PowerManager.create { s with polling := .bounded budget } entry b = .ok m' ∧
      AgreeUntilSlow budget (m.platform.transcript, m'.platform.transcript) (run calls m)
        (run calls m') ∧
      ((∃ t' ∈ run calls m', t'.Faulted) ↔ ∃ t ∈ run calls m, t.Slow budget) ∧
      ∀ t ∈ run calls m, t.reply?.isSome → t.left.platform.chip.events.length < logDepth →
        (t.Samples ↔ ∃ counter, Event.rtcSample counter ∈
          t.left.platform.chip.events.since t.found.platform.chip.events.length) := by
  obtain ⟨hs, rfl⟩ := create_eq_ok.1 hcreate
  have hs' : Settings.Valid { s with polling := .bounded budget } := { hs with }
  refine ⟨_, create_eq_ok.2 ⟨hs', rfl⟩, ?_⟩
  have hstart : UnderBudget budget
      (.ready s :: b.transcript, .ready { s with polling := .bounded budget } :: b.transcript)
      { platform := Logger.record (.ready s) b, settings := s, entry }
      { platform := Logger.record (.ready { s with polling := .bounded budget }) b
        settings := { s with polling := .bounded budget }, entry } :=
    ⟨hpolling, hstuck, [], rfl, rfl⟩
  have hagree := agreeUntilSlow_of_run hstart hs hcalls
  refine ⟨hagree, hagree.faulted_iff, fun t ht hreply hroom => ?_⟩
  exact samples_iff_logged_in_run hs ⟨fun _ => rfl, fun _ => rfl⟩ ht hreply hroom

/-- A deep sleep and its end, another one with samples that take as long as the budget, and time that
passes after it. -/
def slowCalls : List (Change × Call) :=
  [({}, .idle 500), ({}, .resume), ({}, .idle 800),
    ({ chip := fun c => { c with rtc := { c.rtc with busyPolls := 4 } } }, .resume),
    ({}, .elapse 700)]

/-- A budget of four polls ends the fourth call, which the unbounded policy gets past. -/
theorem slow_calls_fault : ∃ c m m', Chip.fresh {} = .ok c ∧
    PowerManager.create {} ⟨0x08004000⟩ { chip := c : Bench } = .ok m ∧
    PowerManager.create { polling := .bounded 4 } ⟨0x08004000⟩ { chip := c : Bench } = .ok m' ∧
    Returned (run slowCalls m) ∧ (run slowCalls m).length = 5 ∧ (run slowCalls m').length = 4 ∧
    AgreeUntilSlow 4 (m.platform.transcript, m'.platform.transcript) (run slowCalls m)
      (run slowCalls m') ∧
    (∃ t ∈ run slowCalls m', t.Faulted) ∧
    ∀ t ∈ run slowCalls m, t.Samples ↔ ∃ counter, Event.rtcSample counter ∈
      t.left.platform.chip.events.since t.found.platform.chip.events.length := by
  have hruns : ∃ c m m', Chip.fresh {} = .ok c ∧
      PowerManager.create {} ⟨0x08004000⟩ { chip := c : Bench } = .ok m ∧
      PowerManager.create { polling := .bounded 4 } ⟨0x08004000⟩ { chip := c : Bench } = .ok m' ∧
      c.rtc.stuck = false ∧
      (Returned (run slowCalls m) ∧ (run slowCalls m).length = 5 ∧ (run slowCalls m').length = 4 ∧
        (∃ t ∈ run slowCalls m, t.Slow 4) ∧
        ∀ t ∈ run slowCalls m, t.left.platform.chip.events.length < logDepth) :=
    ⟨_, _, _, rfl, rfl, rfl, rfl, by decide +kernel⟩
  obtain ⟨c, m, m', hchip, hcreate, hcreate', hstuck, hret, hlength, hlength', hslow, hroom⟩ := hruns
  have hcalls : ∀ call ∈ slowCalls, ∀ chip : Chip,
      chip.rtc.stuck = false → (call.1.chip chip).rtc.stuck = false := by
    simp [slowCalls]
  obtain ⟨m₁, hcreate₁, hagree, hfaulted, hlogged⟩ :=
    budget_changes_only_the_fault 4 rfl hcreate hstuck hcalls
  rw [hcreate'] at hcreate₁
  cases hcreate₁
  exact ⟨c, m, m', hchip, hcreate, hcreate', hret, hlength, hlength', hagree, hfaulted.2 hslow,
    fun t ht => hlogged t ht (hret t ht) (hroom t ht)⟩

end Tickless
