import Tickless.Proofs.Countdown
import Tickless.Proofs.ManagerCalls

/-!
# Sessions

A session is a sequence of calls on a manager over the bench. What surrounds the manager may change
before each call: the interrupts to come, the oscillator, the readings, the application, the gate,
and whether a task became ready.

Between two calls a manager is either running or asleep. Running, nothing of a sleep is left over;
asleep, everything is in place for the boot path. Each call keeps this up, so every session does.
-/

namespace Tickless

open PowerManager

/-! ## Calls and their surroundings -/

/-- A call on a manager. -/
inductive Call where
  /-- The idle hook. -/
  | idle (ticks : UInt32)
  /-- The boot path. -/
  | resume
  /-- Time that passes with the core running. -/
  | elapse (us : UInt32)
deriving DecidableEq

/-- What a call returns. -/
inductive Reply where
  /-- What the idle hook did. -/
  | idled (outcome : IdleOutcome)
  /-- What the boot path accounted for. -/
  | resumed (elapsed : Option Elapsed)
  /-- Time has passed. -/
  | passed
deriving DecidableEq

/-- What surrounds a call. -/
structure Surroundings where
  /-- The interrupt that ends the next halt. -/
  haltWakeAfter : Option UInt32 := none
  /-- The time that the core takes to return from a halt. -/
  haltLatency : UInt32 := simulatedHaltLatency
  /-- The interrupt that ends the next deep sleep. -/
  sleepWakeAfter : Option UInt32 := none
  /-- The cycles of the wake path. -/
  wakeCycles : UInt32 := simulatedWakeCycles
  /-- The frequency of the oscillator. -/
  oscillatorHz : UInt32 := simulatedOscillatorHz
  /-- The polls for which a sample stays busy. -/
  busyPolls : UInt32 := 2
  /-- The time that a reading of the microsecond counter takes. -/
  readingUs : UInt32 := 0
  /-- The application and its answers. -/
  application : Application := default
  /-- Whether a task became ready. -/
  abort : Bool := false
  /-- The gate. -/
  gate : Gate := {}

namespace PowerManager

/-- A manager with its surroundings changed. -/
def within (around : Surroundings) (m : PowerManager Bench) : PowerManager Bench :=
  { m with
    gate := around.gate
    platform := { m.platform with
      application := around.application
      kernel := { m.platform.kernel with abort := around.abort }
      chip := { m.platform.chip with
        core := { m.platform.chip.core with
          wakeAfter := around.haltWakeAfter
          haltLatency := around.haltLatency }
        power := { m.platform.chip.power with readingUs := around.readingUs }
        rtc := { m.platform.chip.rtc with
          wakeAfter := around.sleepWakeAfter
          wakeCycles := around.wakeCycles
          oscillatorHz := around.oscillatorHz
          busyPolls := around.busyPolls } } } }

/-- Carry out a call. -/
def answer : Call → Act (PowerManager Bench) Reply
  | .idle ticks => do return .idled (← idle ticks)
  | .resume => do return .resumed (← resume)
  | .elapse us => do
    onPlatform (Bench.elapse us)
    return .passed

/-- Carry out calls, each in its surroundings. -/
def session : List (Surroundings × Call) → Act (PowerManager Bench) (List Reply)
  | [] => return []
  | (around, call) :: rest => do
    modify (within around)
    let reply ← answer call
    return reply :: (← session rest)

/-- The courses of a call that comes to its end. -/
inductive CallStep (m : PowerManager Bench) : Call → Reply → PowerManager Bench → Prop where
  | idle {ticks : UInt32} {r : IdleOutcome} {m' : PowerManager Bench} (h : IdleStep ticks m r m') :
    CallStep m (.idle ticks) (.idled r) m'
  | resume {r : Option Elapsed} {m' : PowerManager Bench} (h : ResumeStep m r m') :
    CallStep m .resume (.resumed r) m'
  | elapse {us : UInt32} {c : Chip} (h : m.platform.chip.elapse us = .ok c) :
    CallStep m (.elapse us) .passed { m with platform := { m.platform with chip := c } }

variable {m m' : PowerManager Bench}

theorem callStep_of_answer (hs : m.settings.Valid) {call : Call} {reply : Reply}
    (h : answer call m = .ok reply m') : CallStep m call reply m' := by
  cases call with
  | idle ticks =>
    obtain ⟨r, m1, hidle, h⟩ := Act.bind_eq_ok (x := PowerManager.idle ticks) |>.1 h
    obtain ⟨rfl, rfl⟩ := Act.pure_eq_ok.1 h
    exact .idle (idleStep_of_idle hs hidle)
  | resume =>
    obtain ⟨r, m1, hresume, h⟩ := Act.bind_eq_ok (x := PowerManager.resume) |>.1 h
    obtain ⟨rfl, rfl⟩ := Act.pure_eq_ok.1 h
    exact .resume (resumeStep_of_resume hresume)
  | elapse us =>
    obtain ⟨_, m1, helapse, h⟩ := Act.bind_eq_ok (x := onPlatform (Bench.elapse us)) |>.1 h
    obtain ⟨rfl, rfl⟩ := Act.pure_eq_ok.1 h
    obtain ⟨p, hp, rfl⟩ := onPlatform_eq_ok.1 helapse
    obtain ⟨c, hc, rfl⟩ := Bench.elapse_eq_ok.1 hp
    exact .elapse hc

theorem session_cons_eq_ok {around : Surroundings} {call : Call} {rest : List (Surroundings × Call)}
    {replies : List Reply} :
    session ((around, call) :: rest) m = .ok replies m' ↔
      ∃ reply m1 later, answer call (m.within around) = .ok reply m1 ∧
        session rest m1 = .ok later m' ∧ replies = reply :: later := by
  rw [session, Act.modify_bind, Act.bind_eq_ok]
  constructor
  · rintro ⟨reply, m1, hcall, h⟩
    obtain ⟨later, m2, hrest, h⟩ := Act.bind_eq_ok.1 h
    obtain ⟨rfl, rfl⟩ := Act.pure_eq_ok.1 h
    exact ⟨reply, m1, later, hcall, hrest, rfl⟩
  · rintro ⟨reply, m1, later, hcall, hrest, rfl⟩
    exact ⟨reply, m1, hcall, Act.bind_eq_ok.2 ⟨later, _, hrest, rfl⟩⟩

end PowerManager

end Tickless
