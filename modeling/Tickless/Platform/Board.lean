import Tickless.Platform.Command

/-!
# A board with core registers

On a board the tick timer and the core are memory-mapped registers, and drivers of the chip's maker
stand for the rest. `Board` adds the registers to any platform: it carries out the commands of the
timer and of the saved context on them, and passes all others on.

A register holds what was last written to it. The instructions that mask, unmask and await
interrupts act on no register.
-/

namespace Tickless

/-- The registers of tick timer and core. -/
structure CoreRegisters where
  /-- Control and status of the tick timer. -/
  control : UInt32 := 0
  /-- The reload value of the tick timer. -/
  reload : UInt32 := 0
  /-- The count of the tick timer. -/
  count : UInt32 := 0
  /-- The core registers that a rail cut destroys. -/
  context : WakeContext := {}
deriving DecidableEq

namespace CoreRegisters

/-- The control bit that starts the timer. -/
def enableBit : UInt32 := 0x1

/-- The control bit for the timer's interrupt. -/
def interruptBit : UInt32 := 0x2

/-- The control bit that clocks the timer with the core. -/
def coreClockBit : UInt32 := 0x4

/-- The status bit that tells whether the count became zero. -/
def expiredBit : UInt32 := 0x10000

/-- Whether the status bit for an expiry is set. -/
def expired (r : CoreRegisters) : Bool :=
  r.control &&& expiredBit != 0

/-- Start the timer, by a plain write of the control register. -/
def start (r : CoreRegisters) : CoreRegisters :=
  { r with control := coreClockBit ||| interruptBit ||| enableBit }

/-- Stop the timer, by a plain write of the control register. -/
def stop (r : CoreRegisters) : CoreRegisters :=
  { r with control := coreClockBit ||| interruptBit }

end CoreRegisters

/-- A platform with core registers. -/
structure Board (σ : Type) where
  /-- The registers of tick timer and core. -/
  registers : CoreRegisters := {}
  /-- The platform that stands for the rest. -/
  rest : σ

namespace Board

variable {σ : Type} [Platform σ]

instance : Logger (Board σ) where
  record m b := { b with rest := Logger.record m b.rest }

/-- Write registers. -/
def write (f : CoreRegisters → CoreRegisters) : Act (Board σ) Unit :=
  modify fun b => { b with registers := f b.registers }

/-- A value in the registers. -/
def see {α : Type} (f : CoreRegisters → α) : Act (Board σ) α := do
  return f (← get).registers

/-- An act on the rest of the platform. -/
def onRest {α : Type} (act : Act σ α) : Act (Board σ) α :=
  act.within rest fun p b => { b with rest := p }

/-- Carry out a command. -/
def perform : (c : Command) → Act (Board σ) c.Answer
  | .gauge .timerCount => see CoreRegisters.count
  | .probe .timerExpired => see CoreRegisters.expired
  | .setReload value => write fun r => { r with reload := value }
  | .clearCount => write fun r => { r with count := 0 }
  | .startTimer => write CoreRegisters.start
  | .stopTimer => write CoreRegisters.stop
  | .saveContext => see CoreRegisters.context
  | .restoreContext context => write fun r => { r with context }
  | .maskInterrupts => return ()
  | .unmaskInterrupts => return ()
  | .waitForInterrupt => return ()
  | c => onRest (Platform.perform c)

instance : Platform (Board σ) where
  perform := perform
  patience b := Platform.patience b.rest

end Board

end Tickless
