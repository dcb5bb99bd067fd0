import Tickless.Platform.Command
import Tickless.Trail

/-!
# The simulated application

An application is asked whether it tolerates a deep sleep, is told about the course of one, and is
given the faults that cannot be recovered from. The scripted application answers as its script says
and keeps its calls. The standard application consents to everything and keeps nothing.
-/

namespace Tickless

/-- A call of the application that a script keeps. -/
inductive HookCall where
  /-- It was asked whether it tolerates deep sleep at all. -/
  | deepSleepAllowed
  /-- It was asked whether a deep sleep may begin. -/
  | preSleepVeto
  /-- It was told that a deep sleep is about to begin. -/
  | preSleepNotify
  /-- It was told that the core is back. -/
  | postWakeImmediate
  /-- It was told that the scheduler runs again. -/
  | postWakeDeferred
deriving DecidableEq

/-- The name of a call. -/
def HookCall.name : HookCall → String
  | .deepSleepAllowed => "DeepSleepAllowed"
  | .preSleepVeto => "PreSleepVeto"
  | .preSleepNotify => "PreSleepNotify"
  | .postWakeImmediate => "PostWakeImmediate"
  | .postWakeDeferred => "PostWakeDeferred"

/-- The call by which the application is told. -/
def Notice.call : Notice → HookCall
  | .preSleep => .preSleepNotify
  | .wakeImmediate => .postWakeImmediate
  | .wakeDeferred => .postWakeDeferred

/-- The call by which the application is asked, if the question goes to the application. -/
def Probe.call? : Probe → Option HookCall
  | .deepSleepAllowed => some .deepSleepAllowed
  | .entryAllowed => some .preSleepVeto
  | _ => none

/-- The number of calls that a script keeps. -/
def callDepth : Nat := 32

/-- What a scripted application answers and what it was called for. -/
structure Script where
  /-- Whether it tolerates deep sleep at all. -/
  allowDeep : Bool := true
  /-- Whether it lets deep sleeps begin. -/
  allowEntry : Bool := true
  /-- The calls so far. -/
  calls : Trail HookCall callDepth := {}

/-- An application. -/
inductive Application where
  /-- It consents to everything. -/
  | standard
  /-- It follows a script. -/
  | scripted (script : Script)

namespace Application

instance : Inhabited Application := ⟨scripted {}⟩

/-- An application that cancels every deep sleep. -/
def vetoing : Application :=
  scripted { allowEntry := false }

/-- The calls that were kept. -/
def calls : Application → Trail HookCall callDepth
  | standard => {}
  | scripted script => script.calls

/-- Change the script, if there is one. -/
def mapScript (f : Script → Script) : Application → Application
  | standard => standard
  | scripted script => scripted (f script)

/-- Keep a call. -/
def called (call : HookCall) : Application → Application :=
  mapScript fun script => { script with calls := script.calls.push call }

/-- Whether the application tolerates deep sleep at all. -/
def allowsDeep : Application → Bool
  | standard => true
  | scripted script => script.allowDeep

/-- Whether the application lets a deep sleep begin. -/
def allowsEntry : Application → Bool
  | standard => true
  | scripted script => script.allowEntry

/-- The handler of fatal faults. -/
def handler : Application → FaultHandler
  | standard => .standard
  | scripted _ => .scripted

end Application

end Tickless
