import Tickless.Diagnostics
import Tickless.Gate
import Tickless.Sleep.Deep
import Tickless.Sleep.Depth
import Tickless.Sleep.Light

/-!
# The power manager

When the scheduler has nothing to run, it calls `PowerManager.idle` with the number of ticks that it
expects to stay idle. The manager chooses a depth. A light sleep is over when the call returns. A
deep sleep ends with the rail cut; the boot path calls `PowerManager.resume`, which accounts for it.

The manager holds its platform and all that has to survive from one call to the other. Both calls
are acts on the manager, so a call that halts shows how far it came: the power state, the counters
and the platform are left as they were at the halt.
-/

namespace Tickless

/-- What the idle hook did. -/
inductive IdleOutcome where
  /-- A task became ready, or a sleep was in progress. -/
  | aborted
  /-- A light sleep is over. -/
  | lightSlept (elapsed : Elapsed)
  /-- The application cancelled a deep sleep. -/
  | vetoed
  /-- The rail was cut, and the sleep goes on until `PowerManager.resume`. -/
  | retained
deriving DecidableEq

namespace IdleOutcome

/-- The name of an outcome. -/
def name : IdleOutcome → String
  | aborted => "Aborted"
  | lightSlept _ => "LightSlept"
  | vetoed => "Vetoed"
  | retained => "Retained"

/-- The elapsed time, if the sleep is over. -/
def elapsed? : IdleOutcome → Option Elapsed
  | lightSlept elapsed => some elapsed
  | _ => none

/-- Whether a sleep is over or in progress. -/
def slept : IdleOutcome → Bool
  | lightSlept _ | retained => true
  | aborted | vetoed => false

end IdleOutcome

/-- A power manager on its platform. -/
structure PowerManager (σ : Type) where
  /-- The platform. -/
  platform : σ
  /-- The settings, which are valid. -/
  settings : Settings
  /-- Where the core restarts after a deep sleep. -/
  entry : ResumeEntry
  /-- The gate against deep sleep. -/
  gate : Gate := {}
  /-- The power state. -/
  state : PowerState := .active
  /-- The deep sleep to resume from. -/
  pending : Option SleepCycle := none
  /-- The running counters. -/
  stats : SleepStats := {}
  /-- The last sleeps. -/
  history : History := {}

namespace PowerManager

variable {σ α : Type} [Platform σ]

instance : Logger (PowerManager σ) where
  record msg m := { m with platform := Logger.record msg m.platform }

/-- A manager in the active state, with a gate that nobody holds, if its settings are valid. -/
def create (s : Settings) (entry : ResumeEntry) (platform : σ) :
    Except SettingsError (PowerManager σ) := do
  let settings ← s.validate
  return { platform := Logger.record (.ready settings) platform, settings, entry }

/-! ## Parts of the state -/

/-- An act on the platform. -/
def onPlatform (act : Act σ α) : Act (PowerManager σ) α :=
  act.within platform fun p m => { m with platform := p }

/-- Enter a power state. -/
def enter (state : PowerState) : Act (PowerManager σ) Unit :=
  modify fun m => { m with state }

/-- Change the counters. -/
def count (f : SleepStats → SleepStats) : Act (PowerManager σ) Unit :=
  modify fun m => { m with stats := f m.stats }

/-- Count and record a sleep that is over. -/
def finish (r : SleepRecord) : Act (PowerManager σ) Unit :=
  modify fun m => { m with stats := m.stats.record r.mode r.elapsed, history := m.history.push r }

/-- An act on the platform that may give up with a fault, which goes to the application. The
application does not return from it. -/
def orFatal (act : Act σ α) : Act (PowerManager σ) α :=
  tryCatch (onPlatform act) fun
    | .fault f => do
      let never ← onPlatform (perform (.fatal f))
      nomatch (never : Empty)
    | h => throw h

/-! ## The gate -/

/-- Use the gate, when `guards` guards on it are alive: the number of guards afterwards. -/
def useGate (guards : Nat) (u : GateUse) : Act (PowerManager σ) Nat := do
  let g ← { gate := (← get).gate, guards : GuardedGate }.use u
  modify fun m => { m with gate := g.gate }
  return g.guards

/-! ## The idle hook -/

/-- Give the idle call up because a task became ready. -/
def abort : Act (PowerManager σ) IdleOutcome := do
  onPlatform (perform .unmaskInterrupts)
  count fun s => { s with aborts := s.aborts + 1 }
  return .aborted

/-- Sleep lightly. -/
def sleepLight (ticks : UInt32) : Act (PowerManager σ) IdleOutcome := do
  let s := (← get).settings
  enter .lightSleep
  let elapsed ← onPlatform (sleepLightly s ticks)
  onPlatform (perform .unmaskInterrupts)
  enter .active
  let requestedTicks := min ticks (← s.maxSuppressedTicks)
  finish { mode := .light, requestedTicks, elapsed }
  return .lightSlept elapsed

/-- Power down and cut the rail, with the cycle stored before the cut. -/
def retainFrom (ticks : UInt32) (snapshot : EntrySnapshot) : Act (PowerManager σ) IdleOutcome := do
  let m ← get
  let cycle ← orFatal (powerDown m.settings ticks snapshot)
  modify fun m => { m with pending := some cycle }
  enter .deepSleep
  onPlatform (perform (.cutRail m.entry))
  return .retained

/-- Sleep deeply, unless the application cancels it. -/
def sleepDeep (ticks : UInt32) : Act (PowerManager σ) IdleOutcome := do
  match ← onPlatform enterDeep with
  | some snapshot => retainFrom ticks snapshot
  | none =>
    count fun s => { s with vetoes := s.vetoes + 1 }
    return .vetoed

/-- Sleep at the depth that is chosen. -/
def sleep (ticks : UInt32) : Act (PowerManager σ) IdleOutcome := do
  let m ← get
  match ← onPlatform (chooseDepth m.settings ticks m.gate.isHeld) with
  | .light => sleepLight ticks
  | .deep => sleepDeep ticks

/-- The idle hook: sleep for up to `ticks` ticks. A call during a sleep is refused and changes
nothing. -/
def idle (ticks : UInt32) : Act (PowerManager σ) IdleOutcome := do
  let state := (← get).state
  if state ≠ .active then
    log (.idleRefused state)
    return .aborted
  else
    count fun s => { s with lastRequestedTicks := ticks }
    onPlatform (perform .maskInterrupts)
    if ← onPlatform (ask .abortRequested) then abort else sleep ticks

/-! ## The boot path -/

/-- Account for a deep sleep and let everything run again. -/
def resumeFrom (cycle : SleepCycle) : Act (PowerManager σ) Elapsed := do
  let s := (← get).settings
  onPlatform (wakeUp cycle)
  let elapsed ← orFatal (reconcile s cycle)
  onPlatform (reactivate s elapsed)
  enter .active
  log (.resumed elapsed)
  finish { mode := .deep, requestedTicks := cycle.requestedTicks, elapsed }
  return elapsed

/-- The boot path's half of a deep sleep: the time that passed, if there is a sleep to resume from.
The cycle is used up first. -/
def resume : Act (PowerManager σ) (Option Elapsed) := do
  match (← get).pending with
  | none =>
    log .nothingToResume
    return none
  | some cycle =>
    modify fun m => { m with pending := none }
    return some (← resumeFrom cycle)

end PowerManager

end Tickless
