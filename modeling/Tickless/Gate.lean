import Tickless.Message

/-!
# The gate against deep sleep

Whoever starts an operation that would not survive a power-down holds the gate until it is over.
The gate counts its holds, and while there is one, sleeps stay light. A release of a gate that
nobody holds changes nothing and is reported.
-/

namespace Tickless

/-- The holds on deep sleep that are in force. -/
structure Gate where
  /-- Their number. -/
  count : UInt32 := 0
deriving DecidableEq

namespace Gate

/-- Whether deep sleep is held off. -/
def isHeld (g : Gate) : Bool :=
  g.count > 0

/-- One more hold, up to the largest word. -/
def acquired (g : Gate) : Gate :=
  ⟨Saturating.add g.count 1⟩

/-- One hold less, if there is one. -/
def released (g : Gate) : Gate :=
  ⟨Saturating.sub g.count 1⟩

/-- Holds add up until the word is full. -/
theorem toNat_acquired (g : Gate) :
    g.acquired.count.toNat = min (g.count.toNat + 1) (Word.size UInt32 - 1) :=
  Saturating.toNat_add g.count 1

/-- A release takes one hold away, down to none. -/
theorem toNat_released (g : Gate) : g.released.count.toNat = g.count.toNat - 1 :=
  Saturating.toNat_sub g.count 1

/-- Take a hold away, and report it when there is none. -/
def release {σ : Type} [Logger σ] (g : Gate) : Act σ Gate := do
  logIf (g.isHeld = false) .idleGateReleased
  return g.released

end Gate

/-! ## Guards -/

/-- What a client does to a gate. -/
inductive GateUse where
  /-- Hold deep sleep off. -/
  | acquire
  /-- Take a hold away. -/
  | release
  /-- Hold deep sleep off by a guard. -/
  | hold
  /-- Drop a guard, and with it its hold. -/
  | drop
deriving DecidableEq

/-- A gate and the guards on it that are alive. -/
structure GuardedGate where
  /-- The gate. -/
  gate : Gate := {}
  /-- The number of guards. -/
  guards : Nat := 0
deriving DecidableEq

namespace GuardedGate

variable {σ : Type} [Logger σ]

/-- Use a gate. A guard is let go of once, so a drop needs a guard. -/
def use (g : GuardedGate) : GateUse → Act σ GuardedGate
  | .acquire => return { g with gate := g.gate.acquired }
  | .release => return { g with gate := ← g.gate.release }
  | .hold => return { gate := g.gate.acquired, guards := g.guards + 1 }
  | .drop =>
    match g.guards with
    | 0 => return g
    | guards + 1 => return { gate := ← g.gate.release, guards }

/-- Use a gate several times. -/
def uses (g : GuardedGate) : List GateUse → Act σ GuardedGate
  | [] => return g
  | u :: us => do (← g.use u).uses us

end GuardedGate

end Tickless
