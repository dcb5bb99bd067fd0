import Tickless.Conversion
import Tickless.Platform.Command

/-!
# Light sleep

The tick timer is set to expire at the end of the idle period instead of at the next tick, and the
core halts. Afterwards the ticks that passed are stepped into the scheduler, and the timer is set so
that the next tick comes when it is due.

The timer loses counts while it is stopped and set again. They are taken off its reload value, as
long as that leaves one.
-/

namespace Tickless

open Checked

/-- How a light sleep came out, in timer counts. -/
structure LightOutcome where
  /-- The ticks to step. -/
  ticks : UInt32
  /-- The reload value with which the timer finishes the tick that is in progress. -/
  nextReload : UInt32
  /-- The counts of that tick that are over. -/
  phaseCounts : UInt32
  /-- What ended the sleep. -/
  source : WakeSource

namespace LightOutcome

/-- The timer expired and its interrupt is pending, which is one of the ticks. It has run on since,
from its reload value down to `current`, and what is left of the new tick is short of a whole one
by as much. When that is no sound reload value, a whole tick is left. -/
def expired (counts ticks stoppedCounts reload current : UInt32) : Except ArithError LightOutcome := do
  let whole ← sub counts 1
  let left := whole - (reload - current)
  let nextReload := if left ≤ stoppedCounts || left > counts then whole else left
  return {
    ticks := ← sub ticks 1
    nextReload
    phaseCounts := ← sub whole (min nextReload whole)
    source := .tickTimer }

/-- Another interrupt came first: the counts of the period less those still to go are over. -/
def interrupted (counts ticks current : UInt32) : Except ArithError LightOutcome := do
  let completed := Saturating.sub (← mul ticks counts) current
  let whole ← div completed counts
  let phaseCounts ← sub completed (← mul whole counts)
  return {
    ticks := whole
    nextReload := ← sub counts phaseCounts
    phaseCounts
    source := .otherInterrupt }

end LightOutcome

/-- The reload value that ends a light sleep of `ticks` ticks, entered at a given count. -/
def lightReload (s : Settings) (counts ticks current : UInt32) : Except ArithError UInt32 := do
  let reload := current + (← mul counts (← sub ticks 1))
  return if reload > s.stoppedCounts then reload - s.stoppedCounts else reload

variable {σ : Type} [Platform σ]

/-- Halt the core, and work out what passed. The timer is stopped by a plain write: a reading of its
control register would lose the expiry flag. -/
def haltFor (counts ticks stoppedCounts reload : UInt32) : Act σ LightOutcome := do
  perform .waitForInterrupt
  perform .stopTimer
  if ← ask .timerExpired then
    LightOutcome.expired counts ticks stoppedCounts reload (← sense .timerCount)
  else
    LightOutcome.interrupted counts ticks (← sense .timerCount)

/-- Sleep lightly for up to `idleTicks` ticks. Interrupts are masked, and stay so. -/
def sleepLightly (s : Settings) (idleTicks : UInt32) : Act σ Elapsed := do
  let counts ← s.countsPerTick
  let limit ← s.maxSuppressedTicks
  logIf (idleTicks > limit) (.lightClamped idleTicks limit)
  perform .stopTimer
  let current ← sense .timerCount
  let request : SleepRequest := { idleTicks, timerCount := current }
  let ticks := max (request.clamped limit).idleTicks 1
  let reload ← lightReload s counts ticks current
  restartTimer reload
  let outcome ← haltFor counts ticks s.stoppedCounts reload
  restartTimer outcome.nextReload
  perform (.stepTicks outcome.ticks)
  perform (.setReload (← sub counts 1))
  let phaseUs ← s.countsToUs outcome.phaseCounts
  return { wholeTicks := outcome.ticks, phaseUs, source := outcome.source }

end Tickless
