import Mathlib.Data.List.Basic
import Tickless.Proofs.EarlyWake
import Tickless.Proofs.Runs

/-!
# The order of hardware accesses

The way into a deep sleep and the way out of it are two calls, with refused calls in between, and
each must touch the hardware in one order. What every call logs is one of a few sequences; which of
them may follow on which is decided by whether the manager is asleep. From this the order of the
accesses of a whole run is read off: they are all made with interrupts masked, the rail is cut only
after the whole way down, and after that nothing is touched before the whole way back.
-/

namespace Tickless

open PowerManager

/-- Entries that there is room for are all kept. -/
theorem Trail.entries_foldl_push_of_le {α : Type} {capacity : Nat} (l : List α)
    {t : Trail α capacity} (h : t.entries.length + l.length ≤ capacity) :
    (l.foldl (fun t a => t.push a) t).entries = t.entries ++ l := by
  rw [Trail.entries_foldl_push, List.take_of_length_le (by rw [List.length_append]; exact h)]

/-! ## What a call logs -/

/-- The events between the mask and the rail cut, from a sample of the real-time counter. -/
def Settings.downEvents (s : Settings) (counter target : UInt32) : List Event :=
  [.timerDisable, .wakeTiming s.wakeTimingUs, .rtcSample counter, .alarmClear, .alarmSet target,
    .alarmEnable, .trimPreSleep, .flashEnterLowPower, .status .deepSleep, .saveContext]

/-- The events of the way back up to the unmasking of interrupts. -/
def Settings.wakeEvents (s : Settings) (counter reload : UInt32) : List Event :=
  [.minClocks, .flashExitLowPower, .restoreContext, .trimPostWake, .status .normal, .alarmDisable,
    .alarmClear, .rtcSample counter, .timerReload reload, .timerReset, .timerEnable,
    .timerReload (UInt32.ofNat (s.perTick - 1)), .unmaskInterrupts]

namespace Chip

theorem events_timed (s : Settings) (c : Chip) :
    (c.timed s).events = (c.events.push .timerDisable).push (.wakeTiming s.wakeTimingUs) := rfl

theorem events_sampled (c : Chip) : c.sampled.events = c.events.push (.rtcSample c.rtc.counter) := rfl

theorem events_armed (target : UInt32) (c : Chip) :
    (c.armed target).events = ((c.events.push .alarmClear).push (.alarmSet target)).push .alarmEnable :=
  rfl

theorem events_disarmed (c : Chip) :
    c.disarmed.events = (c.events.push .alarmDisable).push .alarmClear := rfl

theorem events_retained (c : Chip) :
    c.retained.events = (((c.events.push .trimPreSleep).push .flashEnterLowPower).push
      (.status .deepSleep)).push .saveContext := by
  simp only [retained, setStatus, sleepFlash, logged]

theorem events_cutRail (entry : ResumeEntry) (c : Chip) :
    (c.cutRail entry).events = c.events.push .enterRetention := rfl

theorem events_woken (context : WakeContext) (c : Chip) :
    (c.woken context).events = ((((c.events.push .minClocks).push .flashExitLowPower).push
      .restoreContext).push .trimPostWake).push (.status .normal) := by
  simp only [woken, setStatus, restoreContext, wakeFlash, logged]

theorem events_resynced (first next : UInt32) (c : Chip) :
    (c.resynced first next).events = (((c.events.push (.timerReload first)).push .timerReset).push
      .timerEnable).push (.timerReload next) := by
  simp only [resynced, restarted, setReload, clearCount, startTimer, logged]

theorem events_unmaskInterrupts (c : Chip) :
    c.unmaskInterrupts.events = c.events.push .unmaskInterrupts := rfl

theorem events_elapse {us : UInt32} {c c' : Chip} (h : c.elapse us = .ok c') :
    c'.events = c.events := by
  obtain ⟨-, rfl⟩ := elapse_eq_ok.1 h
  rfl

end Chip

/-- What one call logs, with whether the manager is asleep before it and after it. -/
inductive Logs (s : Settings) : Bool → List Event → Bool → Prop where
  | nothing (asleep : Bool) : Logs s asleep [] asleep
  | brief : Logs s false [.maskInterrupts, .unmaskInterrupts] false
  | light (planned next : UInt32) :
    Logs s false (.maskInterrupts :: s.lightEvents planned next ++ [.unmaskInterrupts]) false
  | down (counter lead : UInt32) (hmin : minAlarmLead ≤ lead) (hmax : lead ≤ maxAlarmLead) :
    Logs s false (.maskInterrupts :: s.downEvents counter (counter + lead) ++ [.enterRetention]) true
  | wake (counter reload : UInt32) : Logs s true (s.wakeEvents counter reload) false

namespace PowerManager

variable {m m' : PowerManager Bench} {call : Call} {reply : Reply}

/-- An idle call logs one of the sequences. -/
theorem IdleStep.logs (hs : m.settings.Valid) (hm : m.Settled) {ticks : UInt32} {r : IdleOutcome}
    (h : IdleStep ticks m r m') :
    ∃ events, Logs m.settings m.pending.isSome events m'.pending.isSome ∧
      m'.platform.chip.events = events.foldl (fun t e => t.push e) m.platform.chip.events := by
  have hawake : m.state = .active → m.pending = none := hm.1
  cases h with
  | refused hstate => exact ⟨[], .nothing _, rfl⟩
  | aborted hstate habort =>
    refine ⟨[.maskInterrupts, .unmaskInterrupts], ?_, rfl⟩
    show Logs _ m.pending.isSome _ m.pending.isSome
    rw [hawake hstate]
    exact .brief
  | @light hstate habort hdepth e p hsleep =>
    obtain ⟨k, -, -, rfl⟩ := (Bench.sleepLightly_eq_ok hs).1 hsleep
    have hlog : ((m.chosen ticks).platform.chip.lightSlept m.settings ticks).events = _ :=
      Chip.events_resynced_halted _ _ _ _
    have hmask : (m.chosen ticks).platform.chip.events = m.platform.chip.events.push .maskInterrupts :=
      rfl
    refine ⟨.maskInterrupts :: m.settings.lightEvents
      (m.settings.plannedReload ticks (m.chosen ticks).platform.chip.timer.current)
      (m.settings.lightOutcome ticks (m.chosen ticks).platform.chip).nextReload ++
        [.unmaskInterrupts], ?_, ?_⟩
    · show Logs _ m.pending.isSome _ m.pending.isSome
      rw [hawake hstate]
      exact .light _ _
    · show ((m.chosen ticks).platform.chip.lightSlept m.settings ticks).unmaskInterrupts.events = _
      rw [Chip.events_unmaskInterrupts, hlog, hmask, List.cons_append, List.foldl_cons,
        List.foldl_append, List.foldl_cons, List.foldl_nil]
  | vetoed hstate habort hdepth hentry =>
    obtain ⟨k, c, -, hc, rfl⟩ := Bench.vetoed_of_enterDeep hentry
    refine ⟨[.maskInterrupts, .unmaskInterrupts], ?_, ?_⟩
    · show Logs _ m.pending.isSome _ m.pending.isSome
      rw [hawake hstate]
      exact .brief
    · exact congrArg (Trail.push .unmaskInterrupts) (Chip.events_elapse hc)
  | @retained hstate habort hdepth snap p q cycle hentry hdown =>
    obtain ⟨k, c, -, hc, -, rfl⟩ := Bench.entered_of_enterDeep hentry
    obtain ⟨c', hc', -, -, -, hcycle, rfl⟩ := (Bench.powerDown_eq_ok hs).1 hdown
    have hcounter : cycle.rtcBefore = c'.rtc.counter := by rw [hcycle]; rfl
    have hbefore : c.events = m.platform.chip.events.push .maskInterrupts := Chip.events_elapse hc
    refine ⟨.maskInterrupts :: m.settings.downEvents cycle.rtcBefore cycle.alarm ++
      [.enterRetention], ?_, ?_⟩
    · show Logs _ m.pending.isSome _ true
      rw [hawake hstate, hcycle]
      exact .down _ _ (le_alarmLead _) (alarmLead_le _)
    · simp only [Settings.downEvents, List.cons_append, List.nil_append, List.foldl_cons,
        List.foldl_nil, hcounter, Chip.events_cutRail, Chip.events_retained, Chip.events_armed,
        Chip.events_sampled, Chip.events_elapse hc', Chip.events_timed, hbefore]

/-- A call logs one of the sequences. -/
theorem CallStep.logs (hs : m.settings.Valid) (hm : m.Settled) (h : CallStep m call reply m') :
    ∃ events, Logs m.settings m.pending.isSome events m'.pending.isSome ∧
      m'.platform.chip.events = events.foldl (fun t e => t.push e) m.platform.chip.events := by
  cases h with
  | idle hidle => exact hidle.logs hs hm
  | resume hresume =>
    cases hresume with
    | nothing hpending => exact ⟨[], .nothing _, rfl⟩
    | @slept cycle hpending e p q hmeasure hstart =>
      obtain ⟨-, -, -, rfl⟩ := (Bench.reconcile_eq_ok hs).1 hmeasure
      obtain ⟨k, -, rfl⟩ := (Bench.reactivate_eq_ok hs).1 hstart
      refine ⟨m.settings.wakeEvents (awake cycle m.platform).chip.disarmed.rtc.counter
        (m.settings.resumeReload e.phaseUs), ?_, ?_⟩
      · rw [hpending]
        exact .wake _ _
      · show ((_ : Chip).unmaskInterrupts).events = _
        simp only [Settings.wakeEvents, List.foldl_cons, List.foldl_nil, Chip.events_unmaskInterrupts,
          Chip.events_resynced, Chip.events_sampled, Chip.events_disarmed]
        rw [show (awake cycle m.platform).chip = m.platform.chip.woken cycle.context from rfl,
          Chip.events_woken]
  | elapse hc => exact ⟨[], .nothing _, Chip.events_elapse hc⟩

end PowerManager

/-! ## The order over a run -/

/-- Whether interrupts are masked after an event, if it may stand where it does: a mask where they are
not masked, any other event where they are. -/
def Event.guard (masked : Bool) : Event → Option Bool
  | .maskInterrupts => if masked then none else some true
  | .unmaskInterrupts => if masked then some false else none
  | _ => if masked then some true else none

/-- The events end with the whole way down, from the mask on, to an alarm ahead of the counter. -/
def Settings.GoesDown (s : Settings) (events : List Event) : Prop :=
  ∃ earlier counter lead, minAlarmLead ≤ lead ∧ lead ≤ maxAlarmLead ∧
    events = earlier ++ .maskInterrupts :: s.downEvents counter (counter + lead)

/-- The events begin with the whole way back. -/
def Settings.ComesBack (s : Settings) (events : List Event) : Prop :=
  ∃ counter reload later, events = s.wakeEvents counter reload ++ later

/-- Events in the order that a deep sleep needs, with whether the manager is asleep before them and
after them. -/
structure InOrder (s : Settings) (asleep : Bool) (events : List Event) (after : Bool) : Prop where
  guarded : events.foldlM Event.guard asleep = some after
  wakes : asleep = true → (events = [] ∧ after = true) ∨ s.ComesBack events
  cuts : ∀ pre post, events = pre ++ .enterRetention :: post →
    s.GoesDown pre ∧ ((post = [] ∧ after = true) ∨ s.ComesBack post)

variable {s : Settings} {asleep between after : Bool} {first events : List Event}

theorem Logs.guarded (h : Logs s asleep first between) :
    first.foldlM Event.guard asleep = some between := by
  cases h with
  | nothing => rfl
  | brief => rfl
  | light => rfl
  | down => rfl
  | wake => rfl

/-- A call logs far less than the log holds. -/
theorem Logs.length_le (h : Logs s asleep first between) : 0 + first.length ≤ logDepth := by
  cases h <;> simp [Settings.lightEvents, Settings.downEvents, Settings.wakeEvents, logDepth]

/-- A call cuts the rail at its end or not at all, and then it has gone the whole way down. -/
theorem Logs.cut (h : Logs s asleep first between) {pre post : List Event}
    (hfirst : first = pre ++ .enterRetention :: post) :
    s.GoesDown pre ∧ post = [] ∧ between = true := by
  have hmem : Event.enterRetention ∈ first := by
    rw [hfirst]
    exact List.mem_append_right _ List.mem_cons_self
  cases h with
  | nothing => simp at hmem
  | brief => simp at hmem
  | light => simp [Settings.lightEvents] at hmem
  | wake => simp [Settings.wakeEvents] at hmem
  | down counter lead hmin hmax =>
    have hdown : Event.enterRetention ∉ .maskInterrupts :: s.downEvents counter (counter + lead) := by
      simp [Settings.downEvents]
    obtain ⟨rfl, -, rfl⟩ := (List.append_cons_inj_of_notMem hdown (by simp)).1 hfirst
    exact ⟨⟨[], counter, lead, hmin, hmax, rfl⟩, rfl, rfl⟩

theorem Settings.GoesDown.append (h : s.GoesDown events) (first : List Event) :
    s.GoesDown (first ++ events) := by
  obtain ⟨earlier, counter, lead, hmin, hmax, rfl⟩ := h
  exact ⟨first ++ earlier, counter, lead, hmin, hmax, (List.append_assoc _ _ _).symm⟩

theorem InOrder.nil (s : Settings) (asleep : Bool) : InOrder s asleep [] asleep where
  guarded := rfl
  wakes h := .inl ⟨rfl, h⟩
  cuts pre post h := by simp at h

/-- What a call logs may stand before events that are in order from there. -/
theorem Logs.append (h : Logs s asleep first between) (hrest : InOrder s between events after) :
    InOrder s asleep (first ++ events) after where
  guarded := by
    rw [List.foldlM_append, h.guarded]
    exact hrest.guarded
  wakes hasleep := by
    cases h with
    | nothing => exact hrest.wakes hasleep
    | brief => cases hasleep
    | light => cases hasleep
    | down => cases hasleep
    | wake counter reload => exact .inr ⟨counter, reload, events, rfl⟩
  cuts pre post hsplit := by
    rcases List.append_eq_append_iff.1 hsplit with ⟨pre', rfl, hevents⟩ | ⟨mid, hfirst, hpost⟩
    · obtain ⟨hdown, hback⟩ := hrest.cuts pre' post hevents
      exact ⟨hdown.append first, hback⟩
    · rcases List.cons_eq_append_iff.1 hpost with ⟨rfl, hevents⟩ | ⟨mid', rfl, hlater⟩
      · obtain ⟨hdown, hback⟩ := hrest.cuts [] post hevents
        rw [← List.append_nil pre, ← hfirst, ← List.append_nil first]
        exact ⟨hdown.append first, hback⟩
      · -- the cut ends this call, so what comes next is the way back
        obtain ⟨hdown, rfl, hbetween⟩ := h.cut hfirst
        refine ⟨hdown, ?_⟩
        rw [hlater]
        exact hrest.wakes hbetween

namespace PowerManager

/-- The events of a run whose log is cleared before each call. -/
def eventsOf (turns : List Turn) : List Event :=
  turns.flatMap (·.left.platform.chip.events.entries)

variable {m : PowerManager Bench}

theorem inOrder_of_run {calls : List (Change × Call)} (hs : m.settings.Valid) (hm : m.Settled)
    (hclear : ∀ c ∈ calls, ∀ chip, (c.1.chip chip).events.entries = [])
    (hret : Returned (run calls m)) :
    InOrder m.settings m.pending.isSome (eventsOf (run calls m))
      (leftBy (run calls m) m).pending.isSome := by
  induction calls generalizing m with
  | nil => exact .nil _ _
  | cons c rest ih =>
    obtain ⟨change, call⟩ := c
    obtain ⟨reply, m', hcall, hrest, hrun⟩ := returned_run_cons hret
    have hstep := callStep_of_answer (m := m.changed change) hs hcall
    have hset : m'.settings = m.settings := hstep.settings_eq
    obtain ⟨events, hlogs, hlog⟩ := CallStep.logs (m := m.changed change) hs hm hstep
    have hempty : (m.changed change).platform.chip.events.entries = [] :=
      hclear _ List.mem_cons_self _
    have hentries : m'.platform.chip.events.entries = events := by
      rw [hlog, Trail.entries_foldl_push_of_le _ (by rw [hempty]; exact hlogs.length_le), hempty,
        List.nil_append]
    have hrec := ih (by rw [hset]; exact hs) (hstep.settled hm)
      (fun c hc => hclear c (List.mem_cons_of_mem _ hc)) hrest
    have hevents : eventsOf (run ((change, call) :: rest) m) = events ++ eventsOf (run rest m') := by
      rw [hrun]
      show (turn call (m.changed change)).left.platform.chip.events.entries ++ _ = _
      rw [left_turn hcall, hentries]
      rfl
    rw [hset] at hrec
    rw [hevents, leftBy_run_cons hcall]
    exact hlogs.append hrec

end PowerManager

/-- In every run of a new manager whose calls all come to their end, the hardware is accessed with
interrupts masked only, the rail is cut only after the whole way down, and a rail cut is followed by
the whole way back. -/
theorem accesses_in_order {s : Settings} {entry : ResumeEntry} {b : Bench} {m : PowerManager Bench}
    {calls : List (Change × Call)} (hcreate : PowerManager.create s entry b = .ok m)
    (hclear : ∀ c ∈ calls, ∀ chip, (c.1.chip chip).events.entries = [])
    (hret : Returned (run calls m)) :
    let events := eventsOf (run calls m)
    let asleep := (leftBy (run calls m) m).pending.isSome
    events.foldlM Event.guard false = some asleep ∧
      ∀ pre post, events = pre ++ .enterRetention :: post →
        s.GoesDown pre ∧ ((post = [] ∧ asleep = true) ∨ s.ComesBack post) := by
  intro events asleep
  obtain ⟨hs, rfl⟩ := create_eq_ok.1 hcreate
  have horder : InOrder s false events asleep :=
    inOrder_of_run hs ⟨fun _ => rfl, fun _ => rfl⟩ hclear hret
  exact ⟨horder.guarded, horder.cuts⟩

/-- A light sleep, a deep sleep with a call during it, its end, and another deep sleep, with the log
cleared before each call. -/
def clearedCalls : List (Change × Call) :=
  [.idle 3, .idle 500, .idle 7, .resume, .resume, .idle 900].map fun call =>
    ({ chip := Chip.clearEvents }, call)

theorem cleared_calls_in_order : ∃ c m, Chip.fresh {} = .ok c ∧
    PowerManager.create {} ⟨0x08004000⟩ { chip := c : Bench } = .ok m ∧
    Returned (run clearedCalls m) ∧ (eventsOf (run clearedCalls m)).count .enterRetention = 2 ∧
    (eventsOf (run clearedCalls m)).foldlM Event.guard false = some true ∧
    ∀ pre post, eventsOf (run clearedCalls m) = pre ++ .enterRetention :: post →
      Settings.GoesDown {} pre := by
  have hruns : ∃ c m, Chip.fresh {} = .ok c ∧
      PowerManager.create {} ⟨0x08004000⟩ { chip := c : Bench } = .ok m ∧
      (Returned (run clearedCalls m) ∧
        (eventsOf (run clearedCalls m)).count .enterRetention = 2 ∧
        (leftBy (run clearedCalls m) m).pending.isSome = true) :=
    ⟨_, _, rfl, rfl, by decide +kernel⟩
  obtain ⟨c, m, hchip, hcreate, hret, hcount, hasleep⟩ := hruns
  have hclear : ∀ c ∈ clearedCalls, ∀ chip, (c.1.chip chip).events.entries = [] := by
    simp [clearedCalls, Chip.clearEvents]
  obtain ⟨hguarded, hcuts⟩ := accesses_in_order hcreate hclear hret
  rw [hasleep] at hguarded
  exact ⟨c, m, hchip, hcreate, hret, hcount, hguarded, fun pre post h => (hcuts pre post h).1⟩

end Tickless
