import Tickless.Elapsed
import Tickless.Mode
import Tickless.Settings
import Tickless.Trail

/-!
# Diagnostics

What a power manager remembers of its sleeps: running counters, which wrap, and the last few sleeps.
-/

namespace Tickless

/-- One sleep that is over. -/
structure SleepRecord where
  /-- Its depth. -/
  mode : SleepMode
  /-- The ticks it was asked for, after clamping. -/
  requestedTicks : UInt32
  /-- The time that passed. -/
  elapsed : Elapsed
deriving DecidableEq

/-- A record as the operator reads it. -/
def SleepRecord.text (r : SleepRecord) : String :=
  s!"{r.mode.text} sleep: {r.elapsed.wholeTicks}/{r.requestedTicks} ticks ({r.elapsed.source.text})"

/-- The last sleeps. -/
abbrev History := Recent SleepRecord historyDepth

/-- Running counters of the idle hook. -/
structure SleepStats where
  /-- Light sleeps that are over. -/
  lightSleeps : UInt32 := 0
  /-- Deep sleeps that are over. -/
  deepSleeps : UInt32 := 0
  /-- Calls given up because a task became ready. -/
  aborts : UInt32 := 0
  /-- Deep sleeps that the application cancelled. -/
  vetoes : UInt32 := 0
  /-- Ticks stepped into the scheduler. -/
  ticksStepped : UInt64 := 0
  /-- The ticks asked for by the latest call, before clamping. -/
  lastRequestedTicks : UInt32 := 0
deriving DecidableEq

namespace SleepStats

/-- Count a sleep of the given depth that is over. -/
def record (mode : SleepMode) (elapsed : Elapsed) (s : SleepStats) : SleepStats :=
  let ticksStepped := s.ticksStepped + elapsed.wholeTicks.toUInt64
  match mode with
  | .light => { s with lightSleeps := s.lightSleeps + 1, ticksStepped }
  | .deep => { s with deepSleeps := s.deepSleeps + 1, ticksStepped }

/-- The counters as the operator reads them. -/
def text (s : SleepStats) : String :=
  s!"Sleep(light={s.lightSleeps}, deep={s.deepSleeps}, abort={s.aborts}, veto={s.vetoes})"

end SleepStats

end Tickless
