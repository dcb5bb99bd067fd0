import Tickless.Simulation.Countdown
import Tickless.Simulation.Event
import Tickless.Simulation.RealTimeCounter
import Tickless.Trail

/-!
# The simulated chip

Enough of a chip to give the arithmetic of sleeping a meaning: the tick timer, the real-time counter
that runs through a power-down, a microsecond counter, and the state that a rail cut destroys. All
its clocks move together when time passes with the core running. Every write leaves an event in a
log of bounded length.
-/

namespace Tickless

/-- The number of events that the log keeps. -/
def logDepth : Nat := 256

/-- Timer clocks from the expiry of the timer to the core's return from a halt, unless set
otherwise. -/
def simulatedHaltLatency : UInt32 := 12

/-- The power unit of the simulated chip. -/
structure PowerUnit where
  /-- The status for the boot path. -/
  status : SleepStatus := .normal
  /-- The time to switch the rail. -/
  wakeTimingUs : UInt32 := 0
  /-- Where the core restarts, once a rail cut has recorded it. -/
  resumeEntry : Option ResumeEntry := none
  /-- The free-running microsecond counter. -/
  freeCounterUs : UInt32 := 0
  /-- The time that passes after each reading of that counter. -/
  readingUs : UInt32 := 0
deriving DecidableEq

/-- The core of the simulated chip. -/
structure Core where
  /-- Whether interrupts are masked. -/
  masked : Bool := false
  /-- The registers that a rail cut destroys. -/
  context : WakeContext := { vectorTable := 0x08004000, handlerPriorities := 0xF0F00000 }
  /-- Timer clocks after which an interrupt ends the next halt; none waits for the timer. -/
  wakeAfter : Option UInt32 := none
  /-- Timer clocks from the expiry of the timer to the core's return from a halt. -/
  haltLatency : UInt32 := simulatedHaltLatency
  /-- Timer clocks in a microsecond. -/
  clocksPerUs : UInt32 := 24
deriving DecidableEq

/-- The simulated chip. -/
structure Chip where
  /-- The tick timer. -/
  timer : Countdown := {}
  /-- The real-time counter. -/
  rtc : RealTimeCounter := {}
  /-- The power unit. -/
  power : PowerUnit := {}
  /-- The core. -/
  core : Core := {}
  /-- Whether the flash is powered down. -/
  flashAsleep : Bool := false
  /-- The events so far. -/
  events : Trail Event logDepth := {}

namespace Chip

/-- A chip out of reset, with its timer at the start of a tick. -/
def fresh (s : Settings) : Except ArithError Chip := do
  let reload ← Checked.sub (← s.countsPerTick) 1
  return { timer := .running reload, core := { clocksPerUs := s.timerClockHz / usPerSecond } }

/-- Add an event to the log. -/
def logged (e : Event) (c : Chip) : Chip :=
  { c with events := c.events.push e }

/-- Forget all events. -/
def clearEvents (c : Chip) : Chip :=
  { c with events := {} }

/-- The number of logged events that belong to deep sleep alone. -/
def deepSleepOnlyCount (c : Chip) : Nat :=
  c.events.count Event.isDeepSleepOnly

/-! ## Time -/

/-- Let microseconds pass with the core running: the microsecond counter wraps, the timer is given
at most as many clocks as a word holds, and the real-time counter keeps its residue. -/
def elapse (us : UInt32) (c : Chip) : Except ArithError Chip := do
  let rtc ← c.rtc.elapse us
  return { c with
    timer := c.timer.elapse (Saturating.mul us c.core.clocksPerUs)
    rtc
    power := { c.power with freeCounterUs := c.power.freeCounterUs + us } }

/-- Read the microsecond counter, and let the time of a reading pass after it. -/
def readFreeCounter (c : Chip) : Except ArithError (UInt32 × Chip) := do
  return (c.power.freeCounterUs, ← c.elapse c.power.readingUs)

/-- The timer clocks that the next halt lasts: until the core returns from the timer's interrupt, or
until another interrupt if that is sooner. -/
def haltClocks (c : Chip) : UInt32 :=
  let toTimer := Saturating.add c.timer.clocksToExpiry c.core.haltLatency
  match c.core.wakeAfter with
  | some n => min n toTimer
  | none => toTimer

/-- Halt until an interrupt. -/
def halt (c : Chip) : Chip :=
  { c with
    timer := c.timer.elapse c.haltClocks
    core := { c.core with wakeAfter := none } }.logged .waitForInterrupt

/-! ## Timer -/

/-- Write the reload register. The register has 24 bits; the log shows what was written. -/
def setReload (value : UInt32) (c : Chip) : Chip :=
  { c with timer := { c.timer with reload := value &&& maxReload } }.logged (.timerReload value)

/-- Clear the count and the expiry flag. -/
def clearCount (c : Chip) : Chip :=
  { c with timer := { c.timer with current := 0, expired := false } }.logged .timerReset

/-- Start the timer. -/
def startTimer (c : Chip) : Chip :=
  { c with timer := { c.timer with enabled := true } }.logged .timerEnable

/-- Stop the timer. -/
def stopTimer (c : Chip) : Chip :=
  { c with timer := { c.timer with enabled := false } }.logged .timerDisable

/-- Read the expiry flag, which clears it. -/
def takeExpired (c : Chip) : Bool × Chip :=
  (c.timer.expired, { c with timer := { c.timer with expired := false } })

/-! ## Real-time counter -/

/-- Begin a sample. -/
def latchCounter (c : Chip) : Chip :=
  { c with rtc := c.rtc.latch }

/-- Poll a sample: whether it is still busy. -/
def pollSample (c : Chip) : Bool × Chip :=
  (c.rtc.poll.1, { c with rtc := c.rtc.poll.2 })

/-- Read the counter. -/
def readSample (c : Chip) : UInt32 × Chip :=
  (c.rtc.counter, c.logged (.rtcSample c.rtc.counter))

/-- Write the alarm target. -/
def setAlarm (target : UInt32) (c : Chip) : Chip :=
  { c with rtc := { c.rtc with alarm := some target } }.logged (.alarmSet target)

/-- Enable the alarm. -/
def enableAlarm (c : Chip) : Chip :=
  { c with rtc := { c.rtc with alarmEnabled := true } }.logged .alarmEnable

/-- Disable the alarm. -/
def disableAlarm (c : Chip) : Chip :=
  { c with rtc := { c.rtc with alarmEnabled := false } }.logged .alarmDisable

/-- Forget that the alarm went off. -/
def clearAlarm (c : Chip) : Chip :=
  { c with rtc := { c.rtc with alarmPending := false } }.logged .alarmClear

/-! ## Flash and power unit -/

/-- Power the flash down. -/
def sleepFlash (c : Chip) : Chip :=
  { c with flashAsleep := true }.logged .flashEnterLowPower

/-- Bring the flash back, which takes the cycles of the wake path. -/
def wakeFlash (c : Chip) : Chip :=
  { c with
    flashAsleep := false
    rtc := { c.rtc with counter := c.rtc.counter + c.rtc.wakeCycles } }.logged .flashExitLowPower

/-- Write the time to switch the rail. -/
def setWakeTiming (us : UInt32) (c : Chip) : Chip :=
  { c with power := { c.power with wakeTimingUs := us } }.logged (.wakeTiming us)

/-- Write the status for the boot path. -/
def setStatus (status : SleepStatus) (c : Chip) : Chip :=
  { c with power := { c.power with status } }.logged (.status status)

/-- Cut the core rail until the alarm or another interrupt: the timer and the core registers lose
their contents and the real-time counter runs on. -/
def cutRail (entry : ResumeEntry) (c : Chip) : Chip :=
  { c with
    timer := {}
    rtc := c.rtc.sleep
    power := { c.power with resumeEntry := some entry }
    core := { c.core with context := {} } }.logged .enterRetention

/-! ## Core -/

/-- Mask interrupts. -/
def maskInterrupts (c : Chip) : Chip :=
  { c with core := { c.core with masked := true } }.logged .maskInterrupts

/-- Unmask interrupts. -/
def unmaskInterrupts (c : Chip) : Chip :=
  { c with core := { c.core with masked := false } }.logged .unmaskInterrupts

/-- Read the registers that a rail cut destroys. -/
def saveContext (c : Chip) : WakeContext × Chip :=
  (c.core.context, c.logged .saveContext)

/-- Write those registers back. -/
def restoreContext (context : WakeContext) (c : Chip) : Chip :=
  { c with core := { c.core with context } }.logged .restoreContext

end Chip

end Tickless
