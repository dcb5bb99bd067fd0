import Tickless.Simulation.Application
import Tickless.Simulation.Chip
import Tickless.Simulation.Kernel

/-!
# The test bench

A simulated chip, scheduler and application, together with the messages emitted so far. The bench is
a platform: each command goes to the part that it concerns.
-/

namespace Tickless

/-- A simulated chip, scheduler and application. -/
structure Bench where
  /-- The chip. -/
  chip : Chip := {}
  /-- The scheduler. -/
  kernel : Kernel := {}
  /-- The application. -/
  application : Application := default
  /-- The messages so far. -/
  transcript : Transcript := []

namespace Bench

instance : Logger Bench where
  record m b := { b with transcript := m :: b.transcript }

/-- Change the chip. -/
def onChip (f : Chip → Chip) : Act Bench Unit :=
  modify fun b => { b with chip := f b.chip }

/-- Read a value off the chip while the chip moves on. -/
def fromChip {α : Type} (f : Chip → α × Chip) : Act Bench α :=
  modifyGet fun b => ((f b.chip).1, { b with chip := (f b.chip).2 })

/-- Change the scheduler. -/
def onKernel (f : Kernel → Except ArithError Kernel) : Act Bench Unit := do
  let b ← get
  let kernel ← f b.kernel
  set { b with kernel }

/-- Keep a call of the application. -/
def called (call : HookCall) : Act Bench Unit :=
  modify fun b => { b with application := b.application.called call }

/-- Let microseconds pass with the core running. -/
def elapse (us : UInt32) : Act Bench Unit := do
  let b ← get
  let chip ← b.chip.elapse us
  set { b with chip }

/-- Read a number. -/
def gauge : Gauge → Act Bench UInt32
  | .timerCount => return (← get).chip.timer.current
  | .sampledCounter => fromChip Chip.readSample
  | .oscillatorHz => return (← get).chip.rtc.oscillatorHz
  | .freeCounterUs => do
    let b ← get
    let (now, chip) ← b.chip.readFreeCounter
    set { b with chip }
    return now

/-- Answer a question. -/
def probe : Probe → Act Bench Bool
  | .timerExpired => fromChip Chip.takeExpired
  | .sampleBusy => fromChip Chip.pollSample
  | .alarmFired => return (← get).chip.rtc.alarmPending
  | .abortRequested => return (← get).kernel.abort
  | .deepSleepAllowed => do
    called .deepSleepAllowed
    return (← get).application.allowsDeep
  | .entryAllowed => do
    called .preSleepVeto
    return (← get).application.allowsEntry

/-- Carry out a command. -/
def perform : (c : Command) → Act Bench c.Answer
  | .gauge g => gauge g
  | .probe p => probe p
  | .setReload value => onChip (Chip.setReload value)
  | .clearCount => onChip Chip.clearCount
  | .startTimer => onChip Chip.startTimer
  | .stopTimer => onChip Chip.stopTimer
  | .latchCounter => onChip Chip.latchCounter
  | .setAlarm target => onChip (Chip.setAlarm target)
  | .enableAlarm => onChip Chip.enableAlarm
  | .disableAlarm => onChip Chip.disableAlarm
  | .clearAlarm => onChip Chip.clearAlarm
  | .enableClocks => onChip (Chip.logged .minClocks)
  | .sleepFlash => onChip Chip.sleepFlash
  | .wakeFlash => onChip Chip.wakeFlash
  | .trimForSleep => onChip (Chip.logged .trimPreSleep)
  | .trimForRun => onChip (Chip.logged .trimPostWake)
  | .setWakeTiming us => onChip (Chip.setWakeTiming us)
  | .setStatus status => onChip (Chip.setStatus status)
  | .cutRail entry => onChip (Chip.cutRail entry)
  | .maskInterrupts => onChip Chip.maskInterrupts
  | .unmaskInterrupts => onChip Chip.unmaskInterrupts
  | .waitForInterrupt => onChip Chip.halt
  | .saveContext => fromChip Chip.saveContext
  | .restoreContext context => onChip (Chip.restoreContext context)
  | .suspendTasks => onKernel Kernel.suspend
  | .resumeTasks => onKernel fun k => return k.resume
  | .stepTicks ticks => onKernel (Kernel.step ticks)
  | .notify notice => called notice.call
  | .fatal f => do throw (.fatal (← get).application.handler f)

/-- A sample is busy for as many polls as are left, and the next poll finds it ready unless samples
are stuck. -/
instance : Platform Bench where
  perform := perform
  patience b := b.chip.rtc.busyLeft.toNat + 1

end Bench

end Tickless
