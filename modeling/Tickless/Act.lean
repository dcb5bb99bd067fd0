import Tickless.Word

/-!
# Acts

An act changes a state step by step and may come to a halt on the way. What it did up to the halt
stays done: a register written before a fault is written. So an act returns its state in either
case, together with an answer or with the reason of the halt.

Word arithmetic is part of an act through a lift: an arithmetic error halts it where it stands.
-/

namespace Tickless

/-! ## Faults -/

/-- Where in a deep sleep the real-time counter is sampled. -/
inductive SampleStage where
  /-- Before the alarm is armed. -/
  | arming
  /-- After the core is back. -/
  | reconciling
deriving DecidableEq

/-- The name of a sample stage. -/
def SampleStage.name : SampleStage → String
  | .arming => "Arming"
  | .reconciling => "Reconciling"

/-- A failure of the hardware from which there is no recovery. -/
inductive Fault where
  /-- A sample of the real-time counter was never ready. -/
  | sampleStuck (stage : SampleStage)
deriving DecidableEq

/-- The name of a fault. -/
def Fault.name : Fault → String
  | .sampleStuck stage => s!"RtcSampleStuck({stage.name})"

/-- A fault as the operator reads it. -/
def Fault.text : Fault → String
  | .sampleStuck .arming => "RTC sample stuck (arming)"
  | .sampleStuck .reconciling => "RTC sample stuck (reconciling)"

/-! ## Halts -/

/-- Whose handler a fatal fault was given to. -/
inductive FaultHandler where
  /-- The handler of an application that brings none of its own. -/
  | standard
  /-- The handler of a scripted application. -/
  | scripted
deriving DecidableEq

/-- The report that a handler makes. -/
def FaultHandler.message (handler : FaultHandler) (fault : Fault) : String :=
  match handler with
  | .standard => s!"low-power fault: {fault.name}"
  | .scripted => s!"fatal low-power fault: {fault.name}"

/-- Why an act did not come to its end. -/
inductive Halt where
  /-- A word operation had no result. -/
  | arithmetic (e : ArithError)
  /-- The hardware failed, and the caller is to decide what follows. -/
  | fault (f : Fault)
  /-- The hardware failed, and a handler ended the run. -/
  | fatal (handler : FaultHandler) (f : Fault)
  /-- The hardware is waited for without end. -/
  | endless
deriving DecidableEq

/-- The report of a halt. -/
def Halt.message : Halt → String
  | .arithmetic e => e.message
  | .fault f => f.name
  | .fatal handler f => handler.message f
  | .endless => "wait without end"

/-! ## Acts -/

/-- An act on a state: an answer or a halt, and in either case the state it leaves. -/
abbrev Act (σ : Type) := EStateM Halt σ

instance {σ : Type} : MonadLift (Except ArithError) (Act σ) where
  monadLift
    | .ok a => pure a
    | .error e => throw (.arithmetic e)

/-- An act on a part of the state, as an act on the whole. -/
def Act.within {σ τ α : Type} (part : σ → τ) (put : τ → σ → σ) (act : Act τ α) : Act σ α := fun s =>
  match act (part s) with
  | .ok a t => .ok a (put t s)
  | .error h t => .error h (put t s)

end Tickless
