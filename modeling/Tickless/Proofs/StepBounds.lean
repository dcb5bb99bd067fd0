import Tickless.Proofs.HaltedCalls
import Tickless.Proofs.LightBounds
import Tickless.Proofs.Runs

/-!
# How far a sleep steps the tick

A record of a sleep holds the ticks that were asked for, brought within what the depth can do, and the
ticks that were stepped. After a deep sleep these are at most one more than asked for, as the measured
time is cut off there. After a light sleep they are at most those asked for, except in one case: the
timer is always set for a tick at least, and a sleep that an interrupt ends before its first clock steps
all that the timer was set for. If nothing was asked for, that is a tick too many.
-/

namespace Tickless

open PowerManager

/-- The ticks of a light sleep against those that were asked for. -/
theorem Settings.Valid.lightElapsed_le_iff {s : Settings} (hs : s.Valid) (ticks : UInt32) (c : Chip) :
    (s.lightElapsed ticks c).wholeTicks.toNat ≤ max 1 (min ticks (UInt32.ofNat s.lightLimit)).toNat ∧
      ((s.lightElapsed ticks c).wholeTicks ≤ min ticks (UInt32.ofNat s.lightLimit) ↔
        ¬ (min ticks (UInt32.ofNat s.lightLimit) = 0 ∧ c.core.wakeAfter = some 0)) := by
  have hcourse := Chip.lightCourse s ticks c
  have hle : (s.lightElapsed ticks c).wholeTicks.toNat ≤ s.lightTicks ticks :=
    (hcourse.within hs).ticks_le
  have hpending : (s.lightElapsed ticks c).wholeTicks.toNat = s.lightTicks ticks ↔
      c.core.wakeAfter = some 0 := hcourse.ticks_eq_iff hs
  have hasked : (min ticks (UInt32.ofNat s.lightLimit)).toNat = min ticks.toNat s.lightLimit := by
    rw [toNat_min, s.toNat_lightLimit]
  have hset : s.lightTicks ticks = max 1 (min ticks (UInt32.ofNat s.lightLimit)).toNat := by
    rw [hasked]
    rfl
  generalize min ticks (UInt32.ofNat s.lightLimit) = asked at *
  rw [hset] at hle hpending
  refine ⟨hle, ?_⟩
  rw [UInt32.le_iff_toNat_le, ← UInt32.toNat_inj, ← hpending]
  show _ ≤ _ ↔ ¬ (asked.toNat = 0 ∧ _)
  omega

/-! ## What one call records -/

/-- A call of a run as the one that made a record, and how far the record went. -/
structure Turn.Accounts (t : Turn) (r : SleepRecord) : Prop where
  deep : r.mode = .deep → r.elapsed.wholeTicks.toNat ≤ r.requestedTicks.toNat + 1
  light : r.mode = .light → t.reply? = some (.idled (.lightSlept r.elapsed)) ∧
    r.elapsed.wholeTicks.toNat ≤ max 1 r.requestedTicks.toNat ∧
    (r.elapsed.wholeTicks ≤ r.requestedTicks ↔
      ¬ (r.requestedTicks = 0 ∧ t.found.platform.chip.core.wakeAfter = some 0))

namespace PowerManager

variable {m m' : PowerManager Bench} {call : Call} {r : SleepRecord}

/-- A call that comes to its end records at most one sleep. -/
theorem CallStep.accounts (hs : m.settings.Valid) {reply : Reply} (hcall : answer call m = .ok reply m')
    (hstep : CallStep m call reply m') (hr : r ∈ m'.history.entries) :
    r ∈ m.history.entries ∨ (turn call m).Accounts r := by
  have hreply := reply?_turn hcall
  cases hstep with
  | elapse helapse => exact .inl hr
  | idle hidle =>
    cases hidle with
    | refused hstate => exact .inl hr
    | aborted hstate habort => exact .inl hr
    | vetoed hstate habort hdepth hentry => exact .inl hr
    | retained hstate habort hdepth hentry hdown => exact .inl hr
    | light hstate habort hdepth hsleep =>
      obtain ⟨k, hk, rfl, rfl⟩ := (Bench.sleepLightly_eq_ok hs).1 hsleep
      rcases Recent.mem_of_mem_push hr with hold | rfl
      · exact .inl hold
      · exact .inr ⟨nofun, fun _ => ⟨hreply, hs.lightElapsed_le_iff _ _⟩⟩
  | resume hresume =>
    cases hresume with
    | nothing hpending => exact .inl hr
    | slept hpending hmeasure hstart =>
      obtain ⟨-, -, rfl, -⟩ := (Bench.reconcile_eq_ok hs).1 hmeasure
      rcases Recent.mem_of_mem_push hr with hold | rfl
      · exact .inl hold
      · exact .inr ⟨fun _ => Elapsed.wholeTicks_split_le _ _ _ _, nofun⟩

/-- Whether it comes to its end or not, a call accounts for what it records. -/
theorem accounts_of_turn (hs : m.settings.Valid) (hr : r ∈ (turn call m).left.history.entries) :
    r ∈ m.history.entries ∨ (turn call m).Accounts r := by
  cases hcall : answer call m with
  | ok reply m' =>
    rw [left_turn hcall] at hr
    exact (callStep_of_answer hs hcall).accounts hs hcall hr
  | error h m' =>
    rw [left_turn_of_error hcall, (callHalt_of_answer hs hcall).history_eq] at hr
    exact .inl hr

/-! ## What a run records -/

/-- Every record that a run adds to the history is accounted for by a call of it. -/
theorem accounts_of_run {calls : List (Change × Call)} (hs : m.settings.Valid)
    (hr : r ∈ (leftBy (run calls m) m).history.entries) :
    r ∈ m.history.entries ∨ ∃ t ∈ run calls m, t.Accounts r := by
  induction calls generalizing m with
  | nil => exact .inl hr
  | cons first rest ih =>
    obtain ⟨change, call⟩ := first
    have hturn : r ∈ (turn call (m.changed change)).left.history.entries →
        r ∈ m.history.entries ∨ (turn call (m.changed change)).Accounts r :=
      accounts_of_turn (m := m.changed change) hs
    cases hcall : answer call (m.changed change) with
    | ok reply m' =>
      have hset : m'.settings = m.settings :=
        (callStep_of_answer (m := m.changed change) hs hcall).settings_eq
      rw [leftBy_run_cons hcall] at hr
      rw [run_cons_of_ok hcall]
      rw [left_turn hcall] at hturn
      rcases ih (by rw [hset]; exact hs) hr with hbefore | ⟨t, ht, haccounts⟩
      · rcases hturn hbefore with hold | hnew
        · exact .inl hold
        · exact .inr ⟨_, List.mem_cons_self, hnew⟩
      · exact .inr ⟨t, List.mem_cons_of_mem _ ht, haccounts⟩
    | error h m' =>
      rw [run_cons_of_error hcall] at hr ⊢
      rcases hturn hr with hold | hnew
      · exact .inl hold
      · exact .inr ⟨_, List.mem_cons_self, hnew⟩

end PowerManager

/-- After every run of a new manager, each record of its history keeps to what was asked for, but for a
light sleep that was asked for no tick and found an interrupt pending before its halt: it steps one. A
record of a deep sleep is over by one tick at most. -/
theorem records_within_request {s : Settings} {entry : ResumeEntry} {b : Bench}
    {m : PowerManager Bench} {calls : List (Change × Call)}
    (hcreate : PowerManager.create s entry b = .ok m) :
    ∀ r ∈ (leftBy (run calls m) m).history.entries,
      (r.mode = .deep → r.elapsed.wholeTicks.toNat ≤ r.requestedTicks.toNat + 1) ∧
      (r.mode = .light → ∃ t ∈ run calls m, t.reply? = some (.idled (.lightSlept r.elapsed)) ∧
        r.elapsed.wholeTicks.toNat ≤ max 1 r.requestedTicks.toNat ∧
        (r.elapsed.wholeTicks ≤ r.requestedTicks ↔
          ¬ (r.requestedTicks = 0 ∧ t.found.platform.chip.core.wakeAfter = some 0))) := by
  intro r hr
  obtain ⟨hs, rfl⟩ := create_eq_ok.1 hcreate
  rcases accounts_of_run (m := { platform := Logger.record (.ready s) b, settings := s, entry }) hs hr
    with hold | ⟨t, ht, haccounts⟩
  · cases hold
  · exact ⟨haccounts.deep, fun hmode => ⟨t, ht, haccounts.light hmode⟩⟩

/-- A light sleep of three ticks, and a deep sleep of half a second with its resume. -/
def twoSleeps : List (Change × Call) :=
  [({}, .idle 3), ({}, .idle 500), ({}, .resume)]

theorem two_sleeps_within_request :
    ∃ m, PowerManager.create {} ⟨0x08004000⟩ (Bench.atTickStart none) = .ok m ∧
      (leftBy (run twoSleeps m) m).history.entries.map (·.mode) = [.light, .deep] ∧
      ∀ r ∈ (leftBy (run twoSleeps m) m).history.entries,
        r.elapsed.wholeTicks.toNat ≤ r.requestedTicks.toNat + 1 := by
  have hruns : ∃ m, PowerManager.create {} ⟨0x08004000⟩ (Bench.atTickStart none) = .ok m ∧
      (leftBy (run twoSleeps m) m).history.entries.map (·.mode) = [.light, .deep] :=
    ⟨_, rfl, by decide +kernel⟩
  obtain ⟨m, hcreate, hmodes⟩ := hruns
  refine ⟨m, hcreate, hmodes, fun r hr => ?_⟩
  obtain ⟨hdeep, hlight⟩ := records_within_request hcreate r hr
  cases hmode : r.mode with
  | light =>
    obtain ⟨t, -, -, hmax, -⟩ := hlight hmode
    omega
  | deep => exact hdeep hmode

/-- An idle call for no tick with an interrupt pending is recorded as a sleep of one tick. -/
theorem pending_interrupt_steps_unasked :
    ∃ m r, PowerManager.create {} ⟨0x08004000⟩ (Bench.atTickStart (some 0)) = .ok m ∧
      r ∈ (leftBy (run [({}, .idle 0)] m) m).history.entries ∧ r.mode = .light ∧
      ¬ r.elapsed.wholeTicks ≤ r.requestedTicks := by
  refine ⟨_, ⟨.light, 0, ⟨1, 0, .otherInterrupt⟩⟩, rfl, ?_, rfl, by decide⟩
  exact of_decide_eq_true (by decide +kernel)

end Tickless
