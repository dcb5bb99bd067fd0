import Tickless.Settings

/-!
# The simulated real-time counter

The only clock that runs through a deep sleep. It is driven by the low-power oscillator, cannot be
read without being sampled first, and carries the alarm that ends a deep sleep. Time that passes is
kept to a millionth of a cycle, so that many short stretches move the counter as far as a long one.
-/

namespace Tickless

open Checked

/-- The frequency of the low-power oscillator unless set otherwise. -/
def simulatedOscillatorHz : UInt32 := 32768

/-- The cycles of the wake path unless set otherwise. -/
def simulatedWakeCycles : UInt32 := 59

/-- A real-time counter with its alarm. -/
structure RealTimeCounter where
  /-- The counter. -/
  counter : UInt32 := 1000
  /-- The frequency of the oscillator. -/
  oscillatorHz : UInt32 := simulatedOscillatorHz
  /-- The part of a cycle that is over, in millionths. -/
  residue : UInt64 := 0
  /-- The alarm target, if one was ever written. -/
  alarm : Option UInt32 := none
  /-- Whether the alarm may wake the core. -/
  alarmEnabled : Bool := false
  /-- Whether the alarm went off. -/
  alarmPending : Bool := false
  /-- The polls for which a sample stays busy. -/
  busyPolls : UInt32 := 2
  /-- The polls for which the present sample is still busy. -/
  busyLeft : UInt32 := 0
  /-- Whether samples stay busy for ever. -/
  stuck : Bool := false
  /-- The cycles that the wake path takes. -/
  wakeCycles : UInt32 := simulatedWakeCycles
  /-- The cycles after which another interrupt ends the next deep sleep. -/
  wakeAfter : Option UInt32 := none
deriving DecidableEq

namespace RealTimeCounter

/-- Let microseconds pass. More cycles than a word holds count as the largest word. -/
def elapse (us : UInt32) (r : RealTimeCounter) : Except ArithError RealTimeCounter := do
  let residue ← add r.residue (← mul us.toUInt64 r.oscillatorHz.toUInt64)
  let cycles : UInt32 := Saturating.clip (residue.toNat / usPerSecond.toNat)
  return { r with counter := r.counter + cycles, residue := residue % usPerSecond.toUInt64 }

/-- Begin a sample. -/
def latch (r : RealTimeCounter) : RealTimeCounter :=
  { r with busyLeft := r.busyPolls }

/-- Poll a sample: whether it is still busy. -/
def poll (r : RealTimeCounter) : Bool × RealTimeCounter :=
  if r.stuck then (true, r)
  else if r.busyLeft = 0 then (false, r)
  else (true, { r with busyLeft := r.busyLeft - 1 })

/-- The cycles until an enabled alarm goes off. -/
def cyclesToAlarm (r : RealTimeCounter) : Option UInt32 :=
  if r.alarmEnabled then r.alarm.map (· - r.counter) else none

/-- How long a deep sleep lasts, in cycles, and whether the alarm ends it. Another interrupt ends it
if it comes before the alarm; with neither in sight no time passes. -/
def sleepLength (r : RealTimeCounter) : UInt32 × Bool :=
  match r.wakeAfter, r.cyclesToAlarm with
  | some early, some full => if early < full then (early, false) else (full, true)
  | some early, none => (early, false)
  | none, some full => (full, true)
  | none, none => (0, false)

/-- Sleep until the alarm or another interrupt. -/
def sleep (r : RealTimeCounter) : RealTimeCounter :=
  { r with
    counter := r.counter + r.sleepLength.1
    alarmPending := r.alarmPending || r.sleepLength.2
    wakeAfter := none }

end RealTimeCounter

end Tickless
