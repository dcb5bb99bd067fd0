import Tickless.Proofs.TwinManagers
import Tickless.Proofs.TwinSamples

/-!
# Where the free-running counters stand

A manager never looks at where a free-running counter stands, only at how far it has moved. So two runs
of the same calls on benches whose counters stand apart go alike: every call returns the same, and what
was sampled or written as an alarm target stays as far apart as the counters were at the start. This
holds wherever in a run either of the counters wraps around.
-/

namespace Tickless

open PowerManager

/-- The bench with its free-running counters further on. -/
def Bench.ahead (counter freeCounter : UInt32) (b : Bench) : Bench :=
  { b with chip := { b.chip with
      rtc := { b.chip.rtc with counter := b.chip.rtc.counter + counter }
      power := { b.chip.power with freeCounterUs := b.chip.power.freeCounterUs + freeCounter } } }

namespace Difference

/-- What tells a bench from the same one with its counters further on. -/
def ahead (counter freeCounter : UInt32) (b : Bench) : Difference where
  counter
  freeCounter
  oldAlarm := b.chip.rtc.alarm
  oldEvents := b.chip.events.entries
  oldMessages := (b.transcript, b.transcript)

theorem benches_ahead (counter freeCounter : UInt32) (b : Bench) :
    (ahead counter freeCounter b).Benches false b (b.ahead counter freeCounter) where
  chip := {
    twin := ⟨b.chip.rtc.alarm, b.chip.events, rfl⟩
    alarms := .inr ⟨rfl, rfl, rfl⟩
    logs := ⟨_, [], .inl rfl, (List.append_nil _).symm, (List.append_nil _).symm⟩
    known := trivial }
  kernel := rfl
  application := rfl
  transcript := ⟨[], rfl, rfl⟩

/-! ## Changes that do the same to twins -/

/-- A change around a manager leaves twins what they are to each other. -/
def Unseen (d : Difference) (change : Change) : Prop :=
  ∀ c c', d.Chips false c c' → d.Chips false (change.chip c) (change.chip c')

variable {d : Difference} {change : Change} {p p' : PollPolicy} {m m' : PowerManager Bench}

theorem Chips.clearEvents {armed : Bool} {c c' : Chip} (h : d.Chips armed c c') :
    d.Chips armed c.clearEvents c'.clearEvents := by
  obtain ⟨alarm, events, rfl⟩ := h.twin
  exact ⟨⟨alarm, {}, rfl⟩, h.alarms, ⟨[], [], .inr rfl, rfl, rfl⟩, h.known⟩

/-- A change that neither reads nor writes what tells twins apart does the same to them. -/
theorem Unseen.of_silent (h : d.Silent change.chip) : d.Unseen change :=
  fun _ _ hc => hc.of_silent h

/-- It may forget the log besides. -/
theorem Unseen.of_cleared {f : Chip → Chip} (h : d.Silent f)
    (hchange : change.chip = fun c => (f c).clearEvents) : d.Unseen change := by
  intro c c' hc
  rw [hchange]
  exact (hc.of_silent h).clearEvents

theorem Managers.changed (hm : d.Managers p p' false m m') (h : d.Unseen change) :
    d.Managers p p' false (m.changed change) (m'.changed change) where
  toRest := { hm with gate := congrArg change.gate hm.gate }
  platform :=
    { chip := h _ _ hm.platform.chip
      kernel := congrArg change.kernel hm.platform.kernel
      application := congrArg change.application hm.platform.application
      transcript := hm.platform.transcript }

/-! ## Runs of twin managers -/

/-- Two calls that went alike. -/
structure Alike (d : Difference) (p : PollPolicy) (t t' : Turn) : Prop extends t.Same t' where
  found : d.Managers p p false t.found t'.found
  left : d.Managers p p false t.left t'.left

/-- A call returns the same from twin managers, or comes to the same halt. -/
theorem answer_alike (hm : d.Managers p p false m m') (call : Call) :
    (∃ reply m₁ m₁', answer call m = .ok reply m₁ ∧ answer call m' = .ok reply m₁' ∧
        d.Managers p p false m₁ m₁') ∨
      ∃ h m₁ m₁', answer call m = .error h m₁ ∧ answer call m' = .error h m₁' ∧
        d.Managers p p false m₁ m₁' := by
  have hends := answer_together sameHalts_of_overflows (fun _ => sample_together_same p) call
    m m' hm
  revert hends
  generalize answer call m = r
  generalize answer call m' = r'
  intro hends
  cases hends with
  | answered hreply hleft =>
    subst hreply
    exact .inl ⟨_, _, _, rfl, rfl, hleft⟩
  | halted hhalt =>
    obtain ⟨h, rfl, h', rfl, ⟨b', hsame, hb⟩, hrest⟩ := hhalt
    cases hsame
    refine .inr ⟨_, _, _, rfl, ?_, { hrest with platform := hb }⟩
    -- the same application is given the same halt
    unfold Halt.given
    rw [hb.application]
  | excused hhalt =>
    obtain ⟨h, -, b', hsame, -⟩ := hhalt
    cases hsame

theorem runs_alike {calls : List (Change × Call)}
    (hcalls : ∀ c ∈ calls, d.Unseen c.1) (hm : d.Managers p p false m m') :
    List.Forall₂ (d.Alike p) (run calls m) (run calls m') := by
  induction calls generalizing m m' with
  | nil => exact .nil
  | cons c rest ih =>
    obtain ⟨change, call⟩ := c
    have hfound := hm.changed (hcalls _ List.mem_cons_self)
    have hrest : ∀ c ∈ rest, d.Unseen c.1 := fun c hc => hcalls c (List.mem_cons_of_mem _ hc)
    rcases answer_alike hfound call with ⟨reply, m₁, m₁', hcall, hcall', hleft⟩ |
      ⟨h, m₁, m₁', hcall, hcall', hleft⟩
    · rw [run_cons_of_ok hcall, run_cons_of_ok hcall']
      refine .cons ⟨same_turn_of_ok hcall hcall', hfound, ?_⟩ (ih hrest hleft)
      rw [left_turn hcall, left_turn hcall']
      exact hleft
    · rw [run_cons_of_error hcall, run_cons_of_error hcall']
      refine .cons ⟨same_turn_of_error hcall hcall', hfound, ?_⟩ .nil
      rw [left_turn_of_error hcall, left_turn_of_error hcall']
      exact hleft

/-- A target that stands in the register is a moved one, unless it stood there at the start. -/
theorem Chips.alarm_eq {armed : Bool} {c c' : Chip} (h : d.Chips armed c c') (hold : d.oldAlarm = none) :
    c'.rtc.alarm = c.rtc.alarm.map (· + d.counter) := by
  rcases h.alarms with halarm | ⟨-, halarm, halarm'⟩
  · exact halarm
  · rw [halarm, halarm', hold]
    rfl

/-- The events of the log are moved ones, unless they were there at the start. -/
theorem Chips.events_eq {armed : Bool} {c c' : Chip} (h : d.Chips armed c c') (hold : d.oldEvents = []) :
    c'.events.entries = c.events.entries.map (Event.moved d.counter) := by
  obtain ⟨old, new, hstart, hlog, hlog'⟩ := h.logs
  have hempty : old = [] := by
    rcases hstart with hstart | hstart
    · exact hstart.trans hold
    · exact hstart
  rw [hlog, hlog', hempty, List.nil_append, List.nil_append]

end Difference

/-- Runs of the same calls go alike, wherever the free-running counters stand when they begin. -/
theorem runs_alike_from_any_counters {s : Settings} {entry : ResumeEntry} {b : Bench}
    {m : PowerManager Bench} {calls : List (Change × Call)} {counter freeCounter : UInt32}
    (hcreate : PowerManager.create s entry b = .ok m)
    (hcalls : ∀ c ∈ calls, (Difference.ahead counter freeCounter b).Unseen c.1) :
    ∃ m', PowerManager.create s entry (b.ahead counter freeCounter) = .ok m' ∧
      List.Forall₂ ((Difference.ahead counter freeCounter b).Alike s.polling) (run calls m)
        (run calls m') := by
  obtain ⟨hs, rfl⟩ := create_eq_ok.1 hcreate
  refine ⟨_, create_eq_ok.2 ⟨hs, rfl⟩, Difference.runs_alike hcalls ?_⟩
  have hstart := (Difference.benches_ahead counter freeCounter b).record (.ready s)
  exact ⟨⟨rfl, rfl, rfl, rfl, rfl, rfl, rfl, rfl⟩, hstart⟩

/-- Time to wait, a deep sleep and its end with slow samples, and another deep sleep, with the log
cleared on the way. -/
def wrappingCalls : List (Change × Call) :=
  [({}, .elapse 700),
    ({ chip := Chip.clearEvents }, .idle 500),
    ({ chip := fun c => { c with rtc := { c.rtc with busyPolls := 9 } } }, .resume),
    ({ chip := Chip.clearEvents }, .idle 900)]

/-- The counters of the second bench wrap around, and those of the first do not. -/
theorem wrapping_calls_alike : ∃ c m m', Chip.fresh {} = .ok c ∧
    PowerManager.create {} ⟨0x08004000⟩ { chip := c : Bench } = .ok m ∧
    PowerManager.create {} ⟨0x08004000⟩ (Bench.ahead 4294960000 4294967200 { chip := c }) = .ok m' ∧
    Returned (run wrappingCalls m) ∧
    1000 < (leftBy (run wrappingCalls m) m).platform.chip.rtc.counter ∧
    (leftBy (run wrappingCalls m') m').platform.chip.rtc.counter < 4294960000 ∧
    List.Forall₂ (fun t t' => t'.reply? = t.reply? ∧ t'.left.stats = t.left.stats ∧
        t'.left.platform.chip.rtc.alarm = t.left.platform.chip.rtc.alarm.map (· + 4294960000) ∧
        t'.left.platform.chip.events.entries =
          t.left.platform.chip.events.entries.map (Event.moved 4294960000))
      (run wrappingCalls m) (run wrappingCalls m') := by
  have hruns : ∃ c m m', Chip.fresh {} = .ok c ∧
      PowerManager.create {} ⟨0x08004000⟩ { chip := c : Bench } = .ok m ∧
      PowerManager.create {} ⟨0x08004000⟩ (Bench.ahead 4294960000 4294967200 { chip := c }) = .ok m' ∧
      c.rtc.alarm = none ∧ c.events.entries = [] ∧
      (Returned (run wrappingCalls m) ∧
        1000 < (leftBy (run wrappingCalls m) m).platform.chip.rtc.counter ∧
        (leftBy (run wrappingCalls m') m').platform.chip.rtc.counter < 4294960000) :=
    ⟨_, _, _, rfl, rfl, rfl, rfl, rfl, by decide +kernel⟩
  obtain ⟨c, m, m', hchip, hcreate, hcreate', halarm, hempty, hret, hfirst, hsecond⟩ := hruns
  have hcalls : ∀ call ∈ wrappingCalls,
      (Difference.ahead 4294960000 4294967200 { chip := c }).Unseen call.1 := by
    simp only [wrappingCalls, List.forall_mem_cons]
    exact ⟨.of_silent {}, .of_cleared (f := id) {} rfl, .of_silent {}, .of_cleared (f := id) {} rfl,
      List.forall_mem_nil _⟩
  obtain ⟨m₁, hcreate₁, halike⟩ := runs_alike_from_any_counters hcreate hcalls
  rw [hcreate'] at hcreate₁
  cases hcreate₁
  refine ⟨c, m, m', hchip, hcreate, hcreate', hret, hfirst, hsecond, halike.imp fun t t' h => ?_⟩
  exact ⟨h.reply, h.left.stats, h.left.platform.chip.alarm_eq halarm,
    h.left.platform.chip.events_eq hempty⟩

end Tickless
