/-!
# Power states and sleep depths

A power manager is in one of three power states. A sleep has one of two depths: in a light sleep the
core halts with its clocks and rails on, in a deep sleep its rail is cut and only the domain of the
real-time counter runs.
-/

namespace Tickless

/-- The power state of the core. -/
inductive PowerState where
  /-- The core runs. -/
  | active
  /-- The core is halted with clocks and rails on. -/
  | lightSleep
  /-- The core rail is cut. -/
  | deepSleep
deriving DecidableEq

namespace PowerState

/-- A core starts out running. -/
instance : Inhabited PowerState := ⟨active⟩

/-- The name of a power state. -/
def name : PowerState → String
  | active => "Active"
  | lightSleep => "LightSleep"
  | deepSleep => "DeepSleep"

/-- A power state as the operator reads it. -/
def text : PowerState → String
  | active => "ACTIVE"
  | lightSleep => "LIGHT"
  | deepSleep => "DEEP"

end PowerState

/-- The depth of a sleep. -/
inductive SleepMode where
  /-- The core halts, with the tick timer stretched over the period. -/
  | light
  /-- The core is powered down, with an alarm to wake it. -/
  | deep
deriving DecidableEq

namespace SleepMode

/-- The name of a sleep depth. -/
def name : SleepMode → String
  | light => "Light"
  | deep => "Deep"

/-- A sleep depth as the operator reads it. -/
def text : SleepMode → String
  | light => "light"
  | deep => "deep"

end SleepMode

end Tickless
