import Tickless.Platform.Command

/-!
# Sampling the real-time counter

The real-time counter sits behind a slow bus. A sample is requested, polled until it is no longer
busy, and read. Under the unbounded policy the poll goes on until the hardware answers; under a
bounded one it gives up with a fault.

Polling is recursion on a number of polls. For the unbounded policy that number is the patience of
the platform: a sample that is still busy after it stays busy for ever, so running out of it is the
wait without end.
-/

namespace Tickless

/-! ## Polling -/

/-- Poll at most `polls` times: whether a poll found the hardware ready. -/
def becomesReady {m : Type → Type} [Monad m] (busy : m Bool) : (polls : Nat) → m Bool
  | 0 => return false
  | polls + 1 => do if ← busy then becomesReady busy polls else return true

variable {σ : Type}

/-- Wait until the hardware is ready. A bounded budget of polls, of which there is at least one, is
followed by the fault. -/
def waitReady [Logger σ] (policy : PollPolicy) (fault : Fault) (patience : Nat) (busy : Act σ Bool) :
    Act σ Unit :=
  match policy with
  | .unbounded => do
    unless ← becomesReady busy patience do throw .endless
  | .bounded budget => do
    unless ← becomesReady busy (max budget 1).toNat do
      log (.pollsExhausted budget)
      throw (.fault fault)

/-- Sample the real-time counter and read the sample. -/
def sampleCounter [Platform σ] (policy : PollPolicy) (stage : SampleStage) : Act σ UInt32 := do
  perform .latchCounter
  waitReady policy (.sampleStuck stage) (Platform.patience (← get)) (ask .sampleBusy)
  sense .sampledCounter

/-! ## Scripted waits -/

/-- A busy signal that follows a script, for waits apart from any hardware. -/
structure BusyScript where
  /-- The answers to come. -/
  answers : List Bool := []
  /-- The answer to every poll after them. -/
  afterwards : Bool := false
  /-- The polls so far. -/
  polls : Nat := 0
  /-- The messages so far. -/
  transcript : Transcript := []

namespace BusyScript

instance : Logger BusyScript where
  record m s := { s with transcript := m :: s.transcript }

/-- Answer a poll. -/
def poll : Act BusyScript Bool :=
  modifyGet fun s =>
    match s.answers with
    | [] => (s.afterwards, { s with polls := s.polls + 1 })
    | busy :: rest => (busy, { s with answers := rest, polls := s.polls + 1 })

/-- Wait on the script. When its answers are used up, one more poll tells all. -/
def wait (policy : PollPolicy) (fault : Fault) : Act BusyScript Unit := do
  waitReady policy fault ((← get).answers.length + 1) poll

end BusyScript

end Tickless
