import Tickless.Act
import Tickless.Elapsed
import Tickless.Mode
import Tickless.Settings

/-!
# Messages to the operator

Each place that has something to report emits one `Message`. Its level and its wording are functions
of the message, so the acts carry data and no text. `Logger` is the class of states that take
messages; a bare list of messages is one of them.
-/

namespace Tickless

/-- How urgent a message is. -/
inductive Level where
  /-- Every decision of the idle hook. -/
  | trace
  /-- The course of a sleep. -/
  | debug
  /-- The start of the manager. -/
  | info
  /-- A call or a reading that should not occur. -/
  | warn
  /-- A failure of the hardware. -/
  | error
deriving DecidableEq

/-- The word for a level. -/
def Level.name : Level → String
  | .trace => "TRACE"
  | .debug => "DEBUG"
  | .info => "INFO"
  | .warn => "WARN"
  | .error => "ERROR"

/-- What is reported to the operator. -/
inductive Message where
  /-- A manager was built. -/
  | ready (settings : Settings)
  /-- The idle hook was called while a sleep is in progress. -/
  | idleRefused (state : PowerState)
  /-- A depth was chosen for an idle period. -/
  | depthChosen (ticks : UInt32) (ms : UInt64) (held : Bool) (mode : SleepMode)
  /-- A light sleep was shortened. -/
  | lightClamped (ticks limit : UInt32)
  /-- The application cancelled a deep sleep. -/
  | deepVetoed
  /-- A deep sleep was shortened. -/
  | deepClamped (ticks limit : UInt32)
  /-- The alarm was brought forward. -/
  | alarmClamped (cycles : UInt64) (limit : UInt32)
  /-- The alarm is armed and the rail is about to be cut. -/
  | alarmArmed (ticks cycles hz carriedUs : UInt32)
  /-- More ticks were measured than may be stepped. -/
  | overslept (ticks : UInt64) (limit : UInt32)
  /-- The hardware was busy at every poll. -/
  | pollsExhausted (budget : UInt32)
  /-- There is no deep sleep to resume from. -/
  | nothingToResume
  /-- A deep sleep was accounted for. -/
  | resumed (elapsed : Elapsed)
  /-- A gate was released that nobody holds. -/
  | idleGateReleased
deriving DecidableEq

namespace Message

/-- The level of a message. -/
def level : Message → Level
  | depthChosen .. => .trace
  | lightClamped .. | deepVetoed | deepClamped .. | alarmClamped .. | alarmArmed .. | resumed .. =>
    .debug
  | ready .. => .info
  | idleRefused .. | overslept .. | nothingToResume | idleGateReleased => .warn
  | pollsExhausted .. => .error

/-- The wording of a message. -/
def text : Message → String
  | ready settings => s!"low-power idle ready: {settings.text}"
  | idleRefused state => s!"idle hook entered in state {state.text}"
  | depthChosen ticks ms held mode => s!"idle {ticks} ticks ({ms} ms), held={held} -> {mode.text}"
  | lightClamped ticks limit => s!"light sleep clamped {ticks} -> {limit} ticks"
  | deepVetoed => "deep sleep vetoed"
  | deepClamped ticks limit => s!"deep sleep clamped {ticks} -> {limit} ticks"
  | alarmClamped cycles limit => s!"alarm clamped {cycles} -> {limit} cycles"
  | alarmArmed ticks cycles hz carriedUs =>
    s!"deep sleep {ticks} ticks: {cycles} cycles @ {hz}Hz, carried {carriedUs}us"
  | overslept ticks limit => s!"slept {ticks} ticks, capping to {limit}"
  | pollsExhausted budget => s!"handshake budget of {budget} polls exhausted"
  | nothingToResume => "resume without a pending deep sleep"
  | resumed elapsed => s!"deep sleep over: {elapsed.text}"
  | idleGateReleased => "prevent-sleep released while not held"

/-- A message as one line: its level, then its wording. -/
def line (m : Message) : String :=
  s!"{m.level.name} {m.text}"

end Message

/-! ## Where messages go -/

/-- The messages so far, newest first. -/
abbrev Transcript := List Message

/-- A state that takes messages. -/
class Logger (σ : Type) where
  /-- The state after a message. -/
  record : Message → σ → σ

instance : Logger Transcript where
  record := List.cons

/-- Emit a message. -/
def log {σ : Type} [Logger σ] (m : Message) : Act σ Unit :=
  modify (Logger.record m)

/-- Emit a message if there is a reason to. -/
def logIf {σ : Type} [Logger σ] (reason : Prop) [Decidable reason] (m : Message) : Act σ Unit :=
  if reason then log m else return

/-- Split a measured time, and report it when it holds more ticks than may be stepped. -/
def Elapsed.measure {σ : Type} [Logger σ] (totalUs : UInt64) (periodUs requested : UInt32)
    (source : WakeSource) : Act σ Elapsed := do
  logIf (Overslept totalUs periodUs requested)
    (.overslept (measuredTicks totalUs periodUs) (stepLimit requested))
  return split totalUs periodUs requested source

end Tickless
