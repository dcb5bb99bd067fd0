import Tickless.Conversion
import Tickless.Sleep.Handshake

/-!
# Deep sleep

A deep sleep is planned at entry and accounted for after the wake. In between the core is off, so
all that has to survive is in a `SleepCycle`. Its acts run in this order, with interrupts masked
throughout and the rail cut after the second:

* `enterDeep` suspends the scheduler, reads the clocks and asks the application;
* `powerDown` stops the tick, arms the alarm and puts every domain into retention;
* `wakeUp` brings the domains back;
* `reconcile` measures the sleep on the real-time counter;
* `reactivate` restarts the tick in phase, steps the scheduler and lets everything run.
-/

namespace Tickless

open Checked

/-! ## Data -/

/-- The clocks as they were read, back to back, at entry. The tick up to here is carried into the
sleep; time after here is latency. -/
structure EntrySnapshot where
  /-- The count of the tick timer. -/
  timerCount : UInt32 := 0
  /-- The microsecond counter. -/
  freeCounterUs : UInt32 := 0
deriving DecidableEq

/-- What the wake has to know about a deep sleep. -/
structure SleepCycle where
  /-- The ticks that the sleep was planned for. -/
  requestedTicks : UInt32 := 0
  /-- The real-time counter when the alarm was armed. -/
  rtcBefore : UInt32 := 0
  /-- The alarm target. -/
  alarm : UInt32 := 0
  /-- The frequency of the oscillator, for the way there and the way back. -/
  oscillatorHz : UInt32 := 0
  /-- The part of the interrupted tick that was over at entry. -/
  carriedUs : UInt32 := 0
  /-- The time from entry to the arming of the alarm. -/
  latencyUs : UInt32 := 0
  /-- The core registers to write back. -/
  context : WakeContext := {}
deriving DecidableEq

/-- What a power-down has worked out when it samples the real-time counter. -/
structure DeepPlan where
  /-- The ticks to sleep. -/
  ticks : UInt32
  /-- The cycles by which the alarm is armed ahead. -/
  lead : UInt32
  /-- The frequency of the oscillator. -/
  oscillatorHz : UInt32
  /-- The part of the interrupted tick that was over at entry. -/
  carriedUs : UInt32
  /-- The time since entry. -/
  latencyUs : UInt32

/-- The cycle of a plan, from the sample that the alarm is armed from and the saved registers. -/
def DeepPlan.cycle (p : DeepPlan) (rtcBefore : UInt32) (context : WakeContext) : SleepCycle where
  requestedTicks := p.ticks
  rtcBefore
  alarm := rtcBefore + p.lead
  oscillatorHz := p.oscillatorHz
  carriedUs := p.carriedUs
  latencyUs := p.latencyUs
  context

/-- A cycle as the operator reads it. -/
def SleepCycle.text (c : SleepCycle) : String :=
  s!"SleepCycle({c.requestedTicks} ticks, rtc {c.rtcBefore}->{c.alarm} @ {c.oscillatorHz}Hz)"

variable {σ : Type} [Platform σ]

/-! ## Entry -/

/-- Undo the entry after the application has cancelled the sleep. -/
def unwindEntry : Act σ Unit := do
  log .deepVetoed
  perform .resumeTasks
  perform .unmaskInterrupts

/-- Suspend the scheduler, read the clocks and ask the application. There is no snapshot when the
application cancels the sleep, and then nothing is left of the entry. -/
def enterDeep : Act σ (Option EntrySnapshot) := do
  perform .suspendTasks
  let timerCount ← sense .timerCount
  let freeCounterUs ← sense .freeCounterUs
  if ← ask .entryAllowed then
    perform (.notify .preSleep)
    return some { timerCount, freeCounterUs }
  else
    unwindEntry
    return none

/-! ## The way down -/

/-- The part of the interrupted tick that was over at entry. -/
def carriedPhase (s : Settings) (timerCount : UInt32) : Except ArithError UInt32 := do
  s.countsToUs (Saturating.sub (← sub (← s.countsPerTick) 1) timerCount)

/-- The cycles to the alarm, before it is brought within its bounds. -/
def wantedCycles (s : Settings) (ticks carriedUs latencyUs hz : UInt32) :
    Except ArithError UInt64 := do
  let requestedUs ← mul ticks.toUInt64 (← s.tickPeriodUs).toUInt64
  usToCycles (alarmBudgetUs requestedUs carriedUs s.wakeLatencyUs latencyUs) hz

/-- The cycles by which the alarm is armed ahead of the counter. -/
def alarmLead (wanted : UInt64) : UInt32 :=
  UInt32.ofNat (max minAlarmLead.toNat (min wanted.toNat maxAlarmLead.toNat))

/-- Stop the tick and work out how long to sleep. -/
def planDeep (s : Settings) (idleTicks : UInt32) (entry : EntrySnapshot) : Act σ DeepPlan := do
  perform .stopTimer
  let limit ← s.maxDeepSleepTicks
  let request : SleepRequest := { idleTicks, timerCount := entry.timerCount }
  let ticks := (request.clamped limit).idleTicks
  logIf (idleTicks > limit) (.deepClamped idleTicks limit)
  let carriedUs ← carriedPhase s entry.timerCount
  perform (.setWakeTiming s.wakeTimingUs)
  let oscillatorHz ← sense .oscillatorHz
  let latencyUs := (← sense .freeCounterUs) - entry.freeCounterUs
  let wanted ← wantedCycles s ticks carriedUs latencyUs oscillatorHz
  logIf (wanted > maxAlarmLead.toUInt64) (.alarmClamped wanted maxAlarmLead)
  return { ticks, lead := alarmLead wanted, oscillatorHz, carriedUs, latencyUs }

/-- Arm the alarm, with no earlier event of it left over. -/
def armAlarm (target : UInt32) : Act σ Unit := do
  perform .clearAlarm
  perform (.setAlarm target)
  perform .enableAlarm

/-- Put rails, flash and power unit into retention and save the core registers. -/
def retain : Act σ WakeContext := do
  perform .trimForSleep
  perform .sleepFlash
  perform (.setStatus .deepSleep)
  perform .saveContext

/-- Arm the alarm as planned and put every domain into retention. -/
def retainPlanned (plan : DeepPlan) (rtcBefore : UInt32) : Act σ SleepCycle := do
  armAlarm (rtcBefore + plan.lead)
  let context ← retain
  log (.alarmArmed plan.ticks plan.lead plan.oscillatorHz plan.carriedUs)
  return plan.cycle rtcBefore context

/-- Everything short of the rail cut. The sample of the real-time counter may give up with a fault,
and then neither the alarm nor any domain has been touched. -/
def powerDown (s : Settings) (idleTicks : UInt32) (entry : EntrySnapshot) : Act σ SleepCycle := do
  let plan ← planDeep s idleTicks entry
  let rtcBefore ← sampleCounter s.polling .arming
  retainPlanned plan rtcBefore

/-! ## The way back -/

/-- Bring the domains back in the one order that works: clocks, so that registers respond, then
flash, so that code can be fetched, then the core registers, then the rails. -/
def wakeUp (cycle : SleepCycle) : Act σ Unit := do
  perform .enableClocks
  perform .wakeFlash
  perform (.restoreContext cycle.context)
  perform .trimForRun
  perform (.setStatus .normal)

/-- The time from the start of the interrupted tick to a sample of the real-time counter. -/
def SleepCycle.measuredUs (c : SleepCycle) (rtcAfter : UInt32) : Except ArithError UInt64 := do
  let asleep ← cyclesToUs (rtcAfter - c.rtcBefore) c.oscillatorHz
  add (← add asleep c.carriedUs.toUInt64) c.latencyUs.toUInt64

/-- Measure the sleep on the real-time counter, the only clock that ran. The sample may give up with
a fault, and then only the alarm has been touched. -/
def reconcile (s : Settings) (cycle : SleepCycle) : Act σ Elapsed := do
  let fired ← ask .alarmFired
  perform .disableAlarm
  perform .clearAlarm
  let rtcAfter ← sampleCounter s.polling .reconciling
  let totalUs ← cycle.measuredUs rtcAfter
  let source : WakeSource := if fired then .alarm else .otherInterrupt
  Elapsed.measure totalUs (← s.tickPeriodUs) cycle.requestedTicks source

/-- The reload value with which the timer finishes a tick whose first `phaseUs` are over. -/
def phaseReload (s : Settings) (phaseUs : UInt32) : Except ArithError UInt32 := do
  let counts ← s.countsPerTick
  let phaseCounts ← s.usToCounts phaseUs
  let whole ← sub counts 1
  return max (← sub whole (min phaseCounts whole)) 1

/-- Restart the tick in phase, step the scheduler, and let interrupts and tasks run again. -/
def reactivate (s : Settings) (elapsed : Elapsed) : Act σ Unit := do
  let reload ← phaseReload s elapsed.phaseUs
  restartTimer reload
  perform (.stepTicks elapsed.wholeTicks)
  perform (.setReload (← sub (← s.countsPerTick) 1))
  perform (.notify .wakeImmediate)
  perform .unmaskInterrupts
  perform .resumeTasks
  perform (.notify .wakeDeferred)

end Tickless
