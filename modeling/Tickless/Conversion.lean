import Tickless.Settings

/-!
# Conversions between clocks

Three clocks count the same time: the low-power oscillator that drives the real-time counter, the
timer clock that drives the tick, and microseconds, in which the two are compared. Every conversion
rounds down. The products are taken in 64 bits: minutes of sleep at 32 kHz, in microseconds, do not
fit 32.
-/

namespace Tickless

open Checked

/-- Microseconds of a number of oscillator cycles; none when the oscillator stands still. -/
def cyclesToUs (cycles hz : UInt32) : Except ArithError UInt64 :=
  if hz = 0 then return 0
  else do div (← mul cycles.toUInt64 usPerSecond.toUInt64) hz.toUInt64

/-- Oscillator cycles of a number of microseconds. -/
def usToCycles (us : UInt64) (hz : UInt32) : Except ArithError UInt64 := do
  div (← mul us hz.toUInt64) usPerSecond.toUInt64

namespace Settings

/-- Microseconds of a number of timer counts; none when a tick has no counts. Only the low word is
kept. -/
def countsToUs (s : Settings) (counts : UInt32) : Except ArithError UInt32 := do
  let perTick ← s.countsPerTick
  if perTick = 0 then return 0
  else do
    let product ← mul counts.toUInt64 (← s.tickPeriodUs).toUInt64
    return (← div product perTick.toUInt64).toUInt32

/-- Timer counts of a number of microseconds; none when a tick has no length. Only the low word is
kept. -/
def usToCounts (s : Settings) (us : UInt32) : Except ArithError UInt32 := do
  let period ← s.tickPeriodUs
  if period = 0 then return 0
  else do
    let product ← mul us.toUInt64 (← s.countsPerTick).toUInt64
    return (← div product period.toUInt64).toUInt32

end Settings

/-- The microseconds to sleep until the alarm: the requested time less the part of the tick that was
over at entry, the time of the wake path and the time spent on the way down. Nothing is left when
these take longer than the request. -/
def alarmBudgetUs (requestedUs : UInt64) (carriedUs wakeLatencyUs consumedUs : UInt32) : UInt64 :=
  let fromTick := Saturating.sub requestedUs carriedUs.toUInt64
  let withWake := Saturating.sub fromTick wakeLatencyUs.toUInt64
  Saturating.sub withWake consumedUs.toUInt64

end Tickless
