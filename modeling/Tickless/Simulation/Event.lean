import Tickless.Platform.Command

/-!
# Events of the simulated chip

Every write to a register of the simulated chip, and every action of its core, leaves an event in
the chip's log. Plain readings leave none, but a sample of the real-time counter does.
-/

namespace Tickless

/-- What the simulated chip logs. -/
inductive Event where
  /-- Interrupts were masked. -/
  | maskInterrupts
  /-- Interrupts were unmasked. -/
  | unmaskInterrupts
  /-- The core halted. -/
  | waitForInterrupt
  /-- The reload register of the tick timer was written. -/
  | timerReload (value : UInt32)
  /-- The count of the tick timer was cleared. -/
  | timerReset
  /-- The tick timer was started. -/
  | timerEnable
  /-- The tick timer was stopped. -/
  | timerDisable
  /-- A sample of the real-time counter was read. -/
  | rtcSample (counter : UInt32)
  /-- The alarm target was written. -/
  | alarmSet (target : UInt32)
  /-- The alarm was enabled. -/
  | alarmEnable
  /-- The alarm was disabled. -/
  | alarmDisable
  /-- The alarm's event was cleared. -/
  | alarmClear
  /-- The clock gates for register access were opened. -/
  | minClocks
  /-- The flash was powered down. -/
  | flashEnterLowPower
  /-- The flash was brought back. -/
  | flashExitLowPower
  /-- The rails were trimmed for retention. -/
  | trimPreSleep
  /-- The rails were trimmed for running. -/
  | trimPostWake
  /-- The switching time of the power unit was written. -/
  | wakeTiming (us : UInt32)
  /-- The status of the power unit was written. -/
  | status (status : SleepStatus)
  /-- Core registers were saved. -/
  | saveContext
  /-- Core registers were written back. -/
  | restoreContext
  /-- The core rail was cut. -/
  | enterRetention
deriving DecidableEq

namespace Event

/-- Whether an event belongs to deep sleep alone: a use of the real-time counter, the flash, the
rails, the power unit or the saved core registers. -/
def isDeepSleepOnly : Event → Bool
  | maskInterrupts | unmaskInterrupts | waitForInterrupt => false
  | timerReload _ | timerReset | timerEnable | timerDisable => false
  | _ => true

/-- The name of an event, with its value where it has one. -/
def describe : Event → String
  | maskInterrupts => "MaskInterrupts"
  | unmaskInterrupts => "UnmaskInterrupts"
  | waitForInterrupt => "WaitForInterrupt"
  | timerReload value => s!"TimerReload({value})"
  | timerReset => "TimerReset"
  | timerEnable => "TimerEnable"
  | timerDisable => "TimerDisable"
  | rtcSample counter => s!"RtcSample({counter})"
  | alarmSet target => s!"AlarmSet({target})"
  | alarmEnable => "AlarmEnable"
  | alarmDisable => "AlarmDisable"
  | alarmClear => "AlarmClear"
  | minClocks => "MinClocks"
  | flashEnterLowPower => "FlashEnterLowPower"
  | flashExitLowPower => "FlashExitLowPower"
  | trimPreSleep => "TrimPreSleep"
  | trimPostWake => "TrimPostWake"
  | wakeTiming us => s!"WakeTiming({us})"
  | status s => s!"Status({s.name})"
  | saveContext => "SaveContext"
  | restoreContext => "RestoreContext"
  | enterRetention => "EnterRetention"

end Event

end Tickless
