import Tickless.Trail
import Tickless.Word

/-!
# The simulated scheduler

As much of an operating system as the idle path sees: a tick counter, the nesting depth of
suspensions of task switching, and the answer to whether a task became ready.
-/

namespace Tickless

open Checked

/-- The number of tick steps that are kept. -/
def stepDepth : Nat := 64

/-- A scheduler that counts. -/
structure Kernel where
  /-- The tick counter. -/
  tickCount : UInt64 := 0
  /-- The suspensions of task switching that are in force. -/
  suspendDepth : UInt32 := 0
  /-- The most suspensions that were in force. -/
  maxSuspendDepth : UInt32 := 0
  /-- Whether a task became ready. -/
  abort : Bool := false
  /-- The tick steps so far. -/
  steps : Trail UInt32 stepDepth := {}

namespace Kernel

/-- Suspend task switching. -/
def suspend (k : Kernel) : Except ArithError Kernel := do
  let depth ← add k.suspendDepth 1
  return { k with suspendDepth := depth, maxSuspendDepth := max k.maxSuspendDepth depth }

/-- Undo a suspension; without one, nothing changes. -/
def resume (k : Kernel) : Kernel :=
  { k with suspendDepth := Saturating.sub k.suspendDepth 1 }

/-- Move the tick counter forward. -/
def step (ticks : UInt32) (k : Kernel) : Except ArithError Kernel := do
  let count ← add k.tickCount ticks.toUInt64
  return { k with tickCount := count, steps := k.steps.push ticks }

end Kernel

end Tickless
