import Mathlib.Data.UInt
import Tickless.Proofs.HookTime

/-!
# The latency before the alarm is armed

A deep sleep is charged for the time between its entry and the sample that its alarm is armed from. Both
ends are read off clocks: the entry off the microsecond counter, the sample off the real-time counter. What
is charged is a second reading of the microsecond counter, taken before the sample. A reading takes time of
its own, after the value was read, so that the time of the second one belongs to neither clock: the sample
is latched later than the latency says, by one reading.
-/

namespace Tickless.Bench

variable {s : Settings} {idleTicks : UInt32} {entry : EntrySnapshot} {cycle : SleepCycle}
  {before : List UInt32} {hookCycles : Nat} {b b' b₁ b₂ b₃ : Bench}

/-- The sample follows on the reading of the latency, and on the time that the reading takes. -/
theorem latched_of_planDeep (hs : s.Valid) {plan : DeepPlan}
    (hplan : planDeep s idleTicks entry b = .ok plan b') :
    plan.latencyUs = b.chip.power.freeCounterUs - entry.freeCounterUs ∧
      b'.chip.power.freeCounterUs = b.chip.power.freeCounterUs + b.chip.power.readingUs := by
  obtain ⟨c, hc, -, rfl, rfl⟩ := (planDeep_eq_ok hs).1 hplan
  obtain ⟨-, rfl⟩ := Chip.elapse_eq_ok.1 hc
  exact ⟨rfl, rfl⟩

/-- A power-down that comes to its end went through its sample, and no time passes from there on. -/
theorem latched_of_powerDown (hdown : powerDown s idleTicks entry b = .ok cycle b') :
    ∃ plan latched, planDeep s idleTicks entry b = .ok plan latched ∧
      (∃ b'', sampleCounter s.polling .arming latched = .ok cycle.rtcBefore b'') ∧
      cycle.latencyUs = plan.latencyUs ∧
      b'.chip.power.freeCounterUs = latched.chip.power.freeCounterUs := by
  unfold powerDown at hdown
  obtain ⟨plan, latched, hplan, hrest⟩ := Act.bind_eq_ok.1 hdown
  obtain ⟨rtcBefore, b'', hsample, hretain⟩ := Act.bind_eq_ok.1 hrest
  cases (retainPlanned_eq _ _ _).symm.trans hretain
  obtain ⟨-, -, -, rfl⟩ := sampleCounter_eq_ok.1 hsample
  exact ⟨plan, latched, hplan, ⟨_, hsample⟩, rfl, rfl⟩

theorem readingUs_of_entry (hentry : enterDeep b = .ok (some entry) b₁)
    (hhooks : elapses before b₁ = .ok hookCycles b₂) :
    b₂.chip.power.readingUs = b.chip.power.readingUs := by
  obtain ⟨k, c, -, hc, -, rfl⟩ := entered_of_enterDeep hentry
  obtain ⟨-, rfl⟩ := Chip.elapse_eq_ok.1 hc
  have hreduced := RealTimeCounter.reduced_elapsed b.chip.power.readingUs b.chip.rtc
  exact (passed_of_elapses hhooks hreduced).readingUs

/-- Between the entry of a deep sleep and the sample that its alarm is armed from, whatever time passes in
between and whatever the readings take, the microsecond counter moves on by the latency that is charged and
by the time of one reading. So no time is left out exactly if a reading takes none. -/
theorem charged_up_to_sample_iff (hs : s.validate = .ok s) (hentry : enterDeep b = .ok (some entry) b₁)
    (hhooks : elapses before b₁ = .ok hookCycles b₂)
    (hdown : powerDown s idleTicks entry b₂ = .ok cycle b₃) :
    ∃ plan latched, planDeep s idleTicks entry b₂ = .ok plan latched ∧
      (∃ b', sampleCounter s.polling .arming latched = .ok cycle.rtcBefore b') ∧
      cycle.rtcBefore = latched.chip.rtc.counter ∧
      latched.chip.power.freeCounterUs - entry.freeCounterUs =
        cycle.latencyUs + b.chip.power.readingUs ∧
      (cycle.latencyUs = latched.chip.power.freeCounterUs - entry.freeCounterUs ↔
        b.chip.power.readingUs = 0) := by
  obtain ⟨hv, -⟩ := Settings.validate_eq_ok.1 hs
  obtain ⟨plan, latched, hplan, ⟨b', hsample⟩, hlatency, -⟩ := latched_of_powerDown hdown
  obtain ⟨-, -, hcounter, -⟩ := sampleCounter_eq_ok.1 hsample
  obtain ⟨hread, hlatched⟩ := latched_of_planDeep hv hplan
  have hcharged : latched.chip.power.freeCounterUs - entry.freeCounterUs =
      cycle.latencyUs + b.chip.power.readingUs := by
    rw [hlatched, hlatency, hread, readingUs_of_entry hentry hhooks, add_sub_right_comm]
  refine ⟨plan, latched, hplan, ⟨b', hsample⟩, hcounter, hcharged, ?_⟩
  rw [hcharged]
  exact left_eq_add

/-- A standard bench whose microsecond counter takes a time to read. -/
def withReading (readingUs : UInt32) : Bench :=
  { chip := { timer := .running 23999, power := { readingUs } } }

/-- Entry and power-down, with time passing in between, unless the application cancels. -/
def hookedDown (s : Settings) (idleTicks : UInt32) (before : List UInt32) :
    Act Bench (EntrySnapshot × SleepCycle) := do
  match ← enterDeep with
  | none => throw .endless
  | some entry =>
    let _ ← elapses before
    return (entry, ← powerDown s idleTicks entry)

theorem hookedDown_eq_ok {r : EntrySnapshot × SleepCycle} :
    hookedDown s idleTicks before b = .ok r b₃ ↔ ∃ b₁ hookCycles b₂, enterDeep b = .ok (some r.1) b₁ ∧
      elapses before b₁ = .ok hookCycles b₂ ∧ powerDown s idleTicks r.1 b₂ = .ok r.2 b₃ := by
  unfold hookedDown
  rw [Act.bind_eq_ok]
  constructor
  · rintro ⟨snap, b₁, hentry, h⟩
    cases snap with
    | none => cases h
    | some entry =>
      obtain ⟨hookCycles, b₂, hhooks, h⟩ := Act.bind_eq_ok.1 h
      obtain ⟨cycle, b₃, hdown, h⟩ := Act.bind_eq_ok.1 h
      obtain ⟨rfl, rfl⟩ := Act.pure_eq_ok.1 h
      exact ⟨b₁, hookCycles, b₂, hentry, hhooks, hdown⟩
  · rintro ⟨b₁, hookCycles, b₂, hentry, hhooks, hdown⟩
    exact ⟨_, b₁, hentry, Act.bind_eq_ok.2
      ⟨hookCycles, b₂, hhooks, Act.bind_eq_ok.2 ⟨_, b₃, hdown, rfl⟩⟩⟩

/-- With readings in no time, all of the hook time before half a second of deep sleep is charged. -/
theorem hook_time_charged_up_to_sample :
    ∃ entry b₁ hookCycles b₂ cycle b₃ plan latched,
      enterDeep (withReading 0) = .ok (some entry) b₁ ∧ elapses [300, 40] b₁ = .ok hookCycles b₂ ∧
      powerDown {} 500 entry b₂ = .ok cycle b₃ ∧ planDeep {} 500 entry b₂ = .ok plan latched ∧
      cycle.latencyUs = latched.chip.power.freeCounterUs - entry.freeCounterUs := by
  have hruns : (hookedDown {} 500 [300, 40]).passes (fun _ _ => true) (withReading 0) = true := by
    decide +kernel
  obtain ⟨⟨entry, cycle⟩, b₃, hrun, -⟩ := Act.passes_iff.1 hruns
  obtain ⟨b₁, hookCycles, b₂, hentry, hhooks, hdown⟩ := hookedDown_eq_ok.1 hrun
  obtain ⟨plan, latched, hplan, -, -, -, hcharged⟩ :=
    charged_up_to_sample_iff (s := {}) (by decide) hentry hhooks hdown
  exact ⟨entry, b₁, hookCycles, b₂, cycle, b₃, plan, latched, hentry, hhooks, hdown, hplan,
    hcharged.2 rfl⟩

/-- With readings of 200 microseconds, 400 pass up to the sample and 200 are charged. -/
theorem reading_left_out :
    ∃ entry b₁ hookCycles b₂ cycle b₃ plan latched,
      enterDeep (withReading 200) = .ok (some entry) b₁ ∧ elapses [] b₁ = .ok hookCycles b₂ ∧
      powerDown {} 500 entry b₂ = .ok cycle b₃ ∧ planDeep {} 500 entry b₂ = .ok plan latched ∧
      latched.chip.power.freeCounterUs - entry.freeCounterUs = 400 ∧ cycle.latencyUs = 200 := by
  have hruns : (hookedDown {} 500 []).passes
      (fun r b => r.2.latencyUs == 200 && b.chip.power.freeCounterUs - r.1.freeCounterUs == 400)
      (withReading 200) = true := by
    decide +kernel
  obtain ⟨⟨entry, cycle⟩, b₃, hrun, hcheck⟩ := Act.passes_iff.1 hruns
  obtain ⟨b₁, hookCycles, b₂, hentry, hhooks, hdown⟩ := hookedDown_eq_ok.1 hrun
  simp only [Bool.and_eq_true, beq_iff_eq] at hcheck
  obtain ⟨hlatency, hpassed⟩ := hcheck
  obtain ⟨plan, latched, hplan, -, -, hlatched⟩ := latched_of_powerDown hdown
  rw [hlatched] at hpassed
  exact ⟨entry, b₁, hookCycles, b₂, cycle, b₃, plan, latched, hentry, hhooks, hdown, hplan, hpassed,
    hlatency⟩

end Tickless.Bench
