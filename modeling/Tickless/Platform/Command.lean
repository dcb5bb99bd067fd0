import Tickless.Message

/-!
# What the idle path asks of its surroundings

The idle path talks to the chip, to the scheduler of the operating system and to the application. It
does so through `Command`s, each with a type of answers. `Platform` is the class of states that
carry commands out. The acts of the idle path are written over every platform, so the sequence of
commands they issue is the same on a simulated chip, on one that keeps a journal and on registers.

Readings are commands of two kinds, apart from the rest because their answers are values that a
journal shows and a test can replace: a `Gauge` reads a number and a `Probe` asks a yes-no question.
-/

namespace Tickless

/-! ## The data of commands -/

/-- What the power unit tells the boot path. -/
inductive SleepStatus where
  /-- A cold boot or a running core. -/
  | normal
  /-- The rail is, or was, cut for a deep sleep. -/
  | deepSleep
deriving DecidableEq

/-- The name of a sleep status. -/
def SleepStatus.name : SleepStatus → String
  | .normal => "Normal"
  | .deepSleep => "DeepSleep"

/-- A sleep status as the operator reads it. -/
def SleepStatus.text : SleepStatus → String
  | .normal => "NORMAL"
  | .deepSleep => "DEEP_SLEEP"

/-- The core registers that a rail cut destroys. -/
structure WakeContext where
  /-- The offset of the vector table. -/
  vectorTable : UInt32 := 0
  /-- The priorities of the system handlers. -/
  handlerPriorities : UInt32 := 0
deriving DecidableEq

/-- A number in lower-case hexadecimal, without leading zeros. -/
def hexText (n : UInt32) : String :=
  "0x" ++ String.ofList (Nat.toDigits 16 n.toNat)

/-- A wake context as the operator reads it. -/
def WakeContext.text (c : WakeContext) : String :=
  s!"WakeCtx(vtor={hexText c.vectorTable}, shpr3={hexText c.handlerPriorities})"

/-- The address at which the core restarts when its rail comes back. -/
structure ResumeEntry where
  /-- The address of the first instruction. -/
  address : UInt32
deriving DecidableEq

/-! ## Readings -/

/-- The numbers that can be read. -/
inductive Gauge where
  /-- The count of the tick timer. -/
  | timerCount
  /-- The last sample of the real-time counter. -/
  | sampledCounter
  /-- The calibrated frequency of the low-power oscillator. -/
  | oscillatorHz
  /-- The free-running microsecond counter. -/
  | freeCounterUs
deriving DecidableEq

/-- The questions that can be asked. -/
inductive Probe where
  /-- Whether the tick timer reached zero since it was last asked. -/
  | timerExpired
  /-- Whether the real-time counter is still being sampled. -/
  | sampleBusy
  /-- Whether the alarm went off. -/
  | alarmFired
  /-- Whether a task became ready since the idle task decided to sleep. -/
  | abortRequested
  /-- Whether the application tolerates deep sleep at all. -/
  | deepSleepAllowed
  /-- Whether the application lets this deep sleep begin. -/
  | entryAllowed
deriving DecidableEq

/-- What the application is told about a deep sleep. -/
inductive Notice where
  /-- It is about to begin. -/
  | preSleep
  /-- The core is back; interrupts are masked and the scheduler is suspended. -/
  | wakeImmediate
  /-- The scheduler runs again. -/
  | wakeDeferred
deriving DecidableEq

/-! ## Commands -/

/-- The requests of the idle path. -/
inductive Command where
  /-- Read a number. -/
  | gauge (g : Gauge)
  /-- Ask a question. -/
  | probe (p : Probe)
  /-- Write the reload register of the tick timer. -/
  | setReload (value : UInt32)
  /-- Set the count of the tick timer, and its expiry flag, to zero. -/
  | clearCount
  /-- Start the tick timer. -/
  | startTimer
  /-- Stop the tick timer by a plain write, which leaves the expiry flag alone. -/
  | stopTimer
  /-- Begin a sample of the real-time counter. -/
  | latchCounter
  /-- Write the alarm target. -/
  | setAlarm (target : UInt32)
  /-- Let the alarm wake the core. -/
  | enableAlarm
  /-- Keep the alarm from waking the core. -/
  | disableAlarm
  /-- Forget that the alarm went off. -/
  | clearAlarm
  /-- Open the clock gates that register access needs. -/
  | enableClocks
  /-- Power the flash down. -/
  | sleepFlash
  /-- Bring the flash and its controller back. -/
  | wakeFlash
  /-- Trim the rails for retention. -/
  | trimForSleep
  /-- Trim the rails for running. -/
  | trimForRun
  /-- Write the time that the power unit takes to switch the core rail. -/
  | setWakeTiming (us : UInt32)
  /-- Write the status that the boot path reads. -/
  | setStatus (status : SleepStatus)
  /-- Record where to restart and cut the core rail. -/
  | cutRail (entry : ResumeEntry)
  /-- Mask interrupts. -/
  | maskInterrupts
  /-- Unmask interrupts. -/
  | unmaskInterrupts
  /-- Halt the core until an interrupt is pending. -/
  | waitForInterrupt
  /-- Read the core registers that a rail cut destroys. -/
  | saveContext
  /-- Write those registers back. -/
  | restoreContext (context : WakeContext)
  /-- Suspend task switching. -/
  | suspendTasks
  /-- Undo one suspension of task switching. -/
  | resumeTasks
  /-- Move the tick counter of the operating system forward. -/
  | stepTicks (ticks : UInt32)
  /-- Tell the application. -/
  | notify (notice : Notice)
  /-- Give a fault to the application, which does not return. -/
  | fatal (f : Fault)
deriving DecidableEq

/-- The answers to a command. -/
abbrev Command.Answer : Command → Type
  | gauge _ => UInt32
  | probe _ => Bool
  | saveContext => WakeContext
  | fatal _ => Empty
  | _ => Unit

/-! ## Platforms -/

/-- A state that carries commands out. -/
class Platform (σ : Type) extends Logger σ where
  /-- Carry out a command. -/
  perform : (c : Command) → Act σ c.Answer
  /-- A number of polls after which a sample that is still busy stays busy for ever. -/
  patience : σ → Nat

export Platform (perform)

section

variable {σ : Type} [Platform σ]

/-- Read a number. -/
def sense (g : Gauge) : Act σ UInt32 :=
  perform (.gauge g)

/-- Ask a question. -/
def ask (p : Probe) : Act σ Bool :=
  perform (.probe p)

/-- Restart the timer from the given reload value. -/
def restartTimer (reload : UInt32) : Act σ Unit := do
  perform (.setReload reload)
  perform .clearCount
  perform .startTimer

end

end Tickless
