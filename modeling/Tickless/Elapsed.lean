import Tickless.Word

/-!
# Requests and elapsed time

The scheduler asks for a number of idle ticks and is told how much time passed: whole ticks, by
which its tick counter moves, and the part of the next tick that is over already. `Elapsed.split`
divides a measured time in this way. It never hands out more than one tick above the request: a
longer reading means that the measuring clock is off, and its excess is dropped.
-/

namespace Tickless

/-! ## Wake sources -/

/-- What ended a sleep. -/
inductive WakeSource where
  /-- The tick timer, at the end of the requested period. -/
  | tickTimer
  /-- The alarm that was armed for a deep sleep. -/
  | alarm
  /-- Any other interrupt. -/
  | otherInterrupt
deriving DecidableEq

namespace WakeSource

/-- The name of a wake source. -/
def name : WakeSource → String
  | tickTimer => "TickTimer"
  | alarm => "RtcAlarm"
  | otherInterrupt => "OtherInterrupt"

/-- A wake source as the operator reads it. -/
def text : WakeSource → String
  | tickTimer => "TICK"
  | alarm => "RTC"
  | otherInterrupt => "IRQ"

/-- Whether the sleep ended before the planned time. -/
def isEarly (source : WakeSource) : Bool :=
  source = otherInterrupt

end WakeSource

/-! ## Requests -/

/-- One call of the idle hook. -/
structure SleepRequest where
  /-- The ticks that the scheduler expects to stay idle. -/
  idleTicks : UInt32
  /-- The timer's count when the hook was entered. -/
  timerCount : UInt32
deriving DecidableEq

namespace SleepRequest

/-- The same request for at most `limit` ticks. -/
def clamped (r : SleepRequest) (limit : UInt32) : SleepRequest :=
  if r.idleTicks > limit then { r with idleTicks := limit } else r

/-- The fields of a request, by name. -/
def describe (r : SleepRequest) : String :=
  s!"SleepRequest \x7b requested_idle_ticks: {r.idleTicks}, timer_count_at_entry: {r.timerCount} \x7d"

/-- A request as the operator reads it. -/
def text (r : SleepRequest) : String :=
  s!"SleepRequest({r.idleTicks} ticks, count={r.timerCount})"

end SleepRequest

/-! ## Elapsed time -/

/-- The time that passed during one sleep. -/
structure Elapsed where
  /-- The ticks by which the tick counter moves. -/
  wholeTicks : UInt32 := 0
  /-- The part of the next tick that is over. -/
  phaseUs : UInt32 := 0
  /-- What ended the sleep. -/
  source : WakeSource := .tickTimer
deriving DecidableEq

namespace Elapsed

/-- The elapsed microseconds, for a given length of a tick. -/
def totalUs (e : Elapsed) (periodUs : UInt32) : Except ArithError UInt64 := do
  let whole ← Checked.mul e.wholeTicks.toUInt64 periodUs.toUInt64
  Checked.add whole e.phaseUs.toUInt64

/-- An elapsed time with its parts named. -/
def describe (e : Elapsed) : String :=
  s!"ElapsedTime({e.wholeTicks} ticks + {e.phaseUs} us, {e.source.name})"

/-- An elapsed time as the operator reads it. -/
def text (e : Elapsed) : String :=
  s!"{e.wholeTicks} ticks + {e.phaseUs}us ({e.source.text})"

/-- The most ticks that a sleep of `requested` ticks may step: one more than requested. -/
def stepLimit (requested : UInt32) : UInt32 :=
  Saturating.add requested 1

/-- The whole ticks in a measured time. A tick shorter than a microsecond counts as one. -/
def measuredTicks (totalUs : UInt64) (periodUs : UInt32) : UInt64 :=
  totalUs / (max periodUs 1).toUInt64

/-- Whether a measured time holds more ticks than may be stepped. -/
def Overslept (totalUs : UInt64) (periodUs requested : UInt32) : Prop :=
  measuredTicks totalUs periodUs > (stepLimit requested).toUInt64

instance (totalUs : UInt64) (periodUs requested : UInt32) :
    Decidable (Overslept totalUs periodUs requested) :=
  inferInstanceAs (Decidable (_ > _))

/-- A measured time as whole ticks and the phase into the next one, cut off at the step limit. Both
narrowings keep their value: the ticks are at most the step limit and the phase is below the
period. -/
def split (totalUs : UInt64) (periodUs requested : UInt32) (source : WakeSource) : Elapsed :=
  if Overslept totalUs periodUs requested then ⟨stepLimit requested, 0, source⟩
  else
    { wholeTicks := (measuredTicks totalUs periodUs).toUInt32
      phaseUs := (totalUs % (max periodUs 1).toUInt64).toUInt32
      source }

end Elapsed

end Tickless
