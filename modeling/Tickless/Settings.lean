import Tickless.Word

/-!
# Settings

The clock rates, thresholds and latencies that a power manager is built from, and the quantities
that follow from them: the timer counts of one tick, the length of a tick, and the longest sleep of
each depth.

Settings are plain data. `Settings.validate` is the check that makes the derived quantities
meaningful; before it they can fail, which is why each of them is a checked result.
-/

namespace Tickless

open Checked

/-! ## Limits of the hardware -/

/-- The tick rate of the operating system unless set otherwise. -/
def defaultTickRateHz : UInt32 := 1000

/-- The input clock of the tick timer unless set otherwise. -/
def defaultTimerClockHz : UInt32 := 24000000

/-- Idle periods below this many milliseconds are slept lightly unless set otherwise. -/
def defaultMinDeepSleepMs : UInt32 := 5

/-- Time that the power unit takes to switch the core rail. -/
def defaultWakeTimingUs : UInt32 := 1700

/-- Time beyond the rail switch for clocks and flash to come up. -/
def wakeMarginUs : UInt32 := 100

/-- Time of the whole wake path. -/
def defaultWakeLatencyUs : UInt32 := defaultWakeTimingUs + wakeMarginUs

/-- The longest deep sleep, in milliseconds, unless set otherwise. -/
def defaultMaxSleepMs : UInt32 := 0x01FFFFFF

/-- The largest reload value of the 24-bit tick timer. -/
def maxReload : UInt32 := 0x00FFFFFF

/-- Timer counts lost while the timer is stopped and set again. -/
def defaultStoppedCounts : UInt32 := 94

/-- The alarm is armed at least this many cycles ahead of the counter. -/
def minAlarmLead : UInt32 := 2

/-- The alarm is armed at most this many cycles ahead, half the range of the counter, so that a
target behind the counter cannot be taken for one ahead of it. -/
def maxAlarmLead : UInt32 := 0x7FFFFFFF

/-- The number of sleeps that the history keeps. -/
def historyDepth : Nat := 8

/-- Microseconds in a second. -/
def usPerSecond : UInt32 := 1000000

/-! ## The settings -/

/-- How long a register handshake may be polled. -/
inductive PollPolicy where
  /-- Until the hardware answers. -/
  | unbounded
  /-- Until this many polls, and at least one, have found the hardware busy. -/
  | bounded (maxPolls : UInt32)
deriving DecidableEq

/-- The policy as the operator reads it. -/
def PollPolicy.text : PollPolicy → String
  | .unbounded => "unbounded"
  | .bounded n => s!"bounded({n})"

/-- What a power manager is built from. -/
structure Settings where
  /-- The input clock of the tick timer. -/
  timerClockHz : UInt32 := defaultTimerClockHz
  /-- The tick rate of the operating system. -/
  tickRateHz : UInt32 := defaultTickRateHz
  /-- Idle periods below this many milliseconds are slept lightly. -/
  minDeepSleepMs : UInt32 := defaultMinDeepSleepMs
  /-- The time given to the power unit to switch the core rail. -/
  wakeTimingUs : UInt32 := defaultWakeTimingUs
  /-- The time of the wake path, taken off every alarm. -/
  wakeLatencyUs : UInt32 := defaultWakeLatencyUs
  /-- Timer counts taken off the reload value of a light sleep. -/
  stoppedCounts : UInt32 := defaultStoppedCounts
  /-- The longest deep sleep. -/
  maxSleepMs : UInt32 := defaultMaxSleepMs
  /-- How the sample handshake is polled. -/
  polling : PollPolicy := .unbounded
deriving DecidableEq

/-- The settings as the operator reads them. -/
def Settings.text (s : Settings) : String :=
  s!"SleepConfig(tick={s.tickRateHz}Hz, timer={s.timerClockHz}Hz, deep>={s.minDeepSleepMs}ms)"

/-- The reasons for which settings are refused. -/
inductive SettingsError where
  /-- There is no tick. -/
  | zeroTickRate
  /-- A tick is not a whole number of microseconds. -/
  | unevenTickPeriod
  /-- The timer is clocked below the tick rate. -/
  | timerClockTooSlow
  /-- One tick does not fit the reload register. -/
  | tickPeriodTooLong
  /-- Every idle period would be slept deeply, empty ones included. -/
  | zeroDeepSleepThreshold
  /-- No deep sleep reaches the threshold. -/
  | maxSleepBelowThreshold
deriving DecidableEq

namespace SettingsError

/-- The name of a refusal. -/
def name : SettingsError → String
  | zeroTickRate => "ZeroTickRate"
  | unevenTickPeriod => "UnevenTickPeriod"
  | timerClockTooSlow => "TimerClockTooSlow"
  | tickPeriodTooLong => "TickPeriodTooLong"
  | zeroDeepSleepThreshold => "ZeroDeepSleepThreshold"
  | maxSleepBelowThreshold => "MaxSleepBelowThreshold"

/-- A refusal as the operator reads it. -/
def text : SettingsError → String
  | zeroTickRate => "tick rate is zero"
  | unevenTickPeriod => "tick period not whole us"
  | timerClockTooSlow => "timer clock below tick rate"
  | tickPeriodTooLong => "tick exceeds 24-bit reload"
  | zeroDeepSleepThreshold => "deep sleep threshold is zero"
  | maxSleepBelowThreshold => "max sleep below threshold"

end SettingsError

namespace Settings

/-- Settings that agree with themselves, or the first reason why they do not. The quotients are
taken only where their divisor is known to be positive. -/
def validate (s : Settings) : Except SettingsError Settings :=
  if s.tickRateHz = 0 then .error .zeroTickRate
  else if usPerSecond % s.tickRateHz ≠ 0 then .error .unevenTickPeriod
  else if s.timerClockHz < s.tickRateHz then .error .timerClockTooSlow
  else if s.timerClockHz / s.tickRateHz > maxReload + 1 then .error .tickPeriodTooLong
  else if s.minDeepSleepMs = 0 then .error .zeroDeepSleepThreshold
  else if s.maxSleepMs < s.minDeepSleepMs then .error .maxSleepBelowThreshold
  else .ok s

/-! ## Derived quantities -/

/-- The timer counts of one tick. -/
def countsPerTick (s : Settings) : Except ArithError UInt32 :=
  div s.timerClockHz s.tickRateHz

/-- The length of a tick. -/
def tickPeriodUs (s : Settings) : Except ArithError UInt32 :=
  div usPerSecond s.tickRateHz

/-- The most ticks that one light sleep can suppress. -/
def maxSuppressedTicks (s : Settings) : Except ArithError UInt32 := do
  div maxReload (← s.countsPerTick)

/-- The most ticks that one deep sleep covers, at most the largest word. -/
def maxDeepSleepTicks (s : Settings) : Except ArithError UInt32 := do
  let us ← mul s.maxSleepMs.toUInt64 1000
  let ticks ← div us (← s.tickPeriodUs).toUInt64
  return Saturating.clip ticks.toNat

/-- The whole milliseconds of a number of ticks. -/
def ticksToMs (s : Settings) (ticks : UInt32) : Except ArithError UInt64 := do
  let us ← mul ticks.toUInt64 (← s.tickPeriodUs).toUInt64
  div us 1000

end Settings

end Tickless
