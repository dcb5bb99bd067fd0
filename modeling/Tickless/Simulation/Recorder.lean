import Tickless.Simulation.Bench
import Tickless.Simulation.Journal

/-!
# A bench that keeps a journal

The recorder is a bench whose commands and readings are written down in the order in which they were
made. It can also disturb the bench in two ways. A `Feed` holds values that stand in for readings:
the bench is still read, with all that a reading does, and then the next value in the feed is handed
on instead of its answer. And every call of the application can take a while.
-/

namespace Tickless

/-! ## Substituted readings -/

/-- The first value queued under a key, and the queue without it. -/
def takeFirst {κ α : Type} [DecidableEq κ] (key : κ) : List (κ × α) → Option α × List (κ × α)
  | [] => (none, [])
  | (k, a) :: rest =>
    if k = key then (some a, rest)
    else ((takeFirst key rest).1, (k, a) :: (takeFirst key rest).2)

/-- The queue with all values under a key replaced. -/
def requeue {κ α : Type} [DecidableEq κ] (key : κ) (values : List α) (queue : List (κ × α)) :
    List (κ × α) :=
  queue.filter (·.1 ≠ key) ++ values.map (key, ·)

/-- Values that stand in for readings, each used once and in order. -/
structure Feed where
  /-- The numbers to come. -/
  numbers : List (Gauge × UInt32) := []
  /-- The answers to come. -/
  answers : List (Probe × Bool) := []

/-! ## The recorder -/

/-- A bench that keeps a journal. -/
structure Recorder where
  /-- The bench. -/
  bench : Bench := {}
  /-- The journal, newest first. -/
  journal : List Exchange := []
  /-- The values that stand in for readings. -/
  feed : Feed := {}
  /-- The microseconds that a call of the application takes. -/
  delay : HookCall → UInt32 := fun _ => 0

namespace Recorder

instance : Logger Recorder where
  record m r := { r with bench := Logger.record m r.bench }

/-- An act on the bench. -/
def onBench {α : Type} (act : Act Bench α) : Act Recorder α :=
  act.within bench fun b r => { r with bench := b }

/-- Write an entry. -/
def write (e : Exchange) : Act Recorder Unit :=
  modify fun r => { r with journal := e :: r.journal }

/-- The entries written after the first `n`, oldest first. -/
def entriesSince (n : Nat) (r : Recorder) : List Exchange :=
  (r.journal.take (r.journal.length - n)).reverse

/-- Let the time of a call pass. -/
def await (call : HookCall) : Act Recorder Unit := do
  onBench (Bench.elapse ((← get).delay call))

/-- The next number from the feed, or the one that was read. -/
def substituteNumber (g : Gauge) (own : UInt32) : Act Recorder UInt32 :=
  modifyGet fun r =>
    let (value?, rest) := takeFirst g r.feed.numbers
    (value?.getD own, { r with feed := { r.feed with numbers := rest } })

/-- The next answer from the feed, or the one that was given. -/
def substituteAnswer (p : Probe) (own : Bool) : Act Recorder Bool :=
  modifyGet fun r =>
    let (answer?, rest) := takeFirst p r.feed.answers
    (answer?.getD own, { r with feed := { r.feed with answers := rest } })

/-- Carry out a command. A command is written down once it has been carried out, so one that halts
leaves no entry; a reading is written down with the value handed on. A fault given to the
application does not return, and is the one command written down first. -/
def perform : (c : Command) → Act Recorder c.Answer
  | .gauge g => do
    let value ← substituteNumber g (← onBench (Bench.gauge g))
    write (.gauged g value)
    return value
  | .probe p => do
    let own ← onBench (Bench.probe p)
    if let some call := p.call? then await call
    let answer ← substituteAnswer p own
    write (.probed p answer)
    return answer
  | .notify notice => do
    onBench (Bench.perform (.notify notice))
    await notice.call
    write (.issued (.notify notice))
  | .fatal f => do
    write (.issued (.fatal f))
    onBench (Bench.perform (.fatal f))
  | c => do
    let answer ← onBench (Bench.perform c)
    write (.issued c)
    return answer

/-- A sample is busy while the feed says so and for as many polls as are left. -/
instance : Platform Recorder where
  perform := perform
  patience r := r.feed.answers.length + Platform.patience r.bench

end Recorder

end Tickless
