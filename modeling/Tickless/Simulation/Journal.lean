import Tickless.Simulation.Application

/-!
# The journal of a recorder

One line for each command and each reading, in the order in which they were made. A command is
written with its argument and a reading with its value.
-/

namespace Tickless

/-- The word for a number that is read. -/
def Gauge.name : Gauge → String
  | .timerCount => "read_current"
  | .sampledCounter => "sampled_counter"
  | .oscillatorHz => "calibrated_lp_frequency_hz"
  | .freeCounterUs => "free_counter_us"

/-- The word for a question. -/
def Probe.name : Probe → String
  | .timerExpired => "count_flag"
  | .sampleBusy => "sample_in_progress"
  | .alarmFired => "alarm_fired"
  | .abortRequested => "abort_sleep_requested"
  | .deepSleepAllowed => "deep_sleep_allowed"
  | .entryAllowed => "pre_sleep_veto"

/-- The word for a notice. -/
def Notice.name : Notice → String
  | .preSleep => "pre_sleep_notify"
  | .wakeImmediate => "post_wake_notify_immediate"
  | .wakeDeferred => "post_wake_notify_deferred"

/-- A command as a line of the journal. -/
def Command.line : Command → String
  | gauge g => g.name
  | probe p => p.name
  | setReload value => s!"set_reload({value})"
  | clearCount => "reset_current"
  | startTimer => "timer_enable"
  | stopTimer => "timer_disable"
  | latchCounter => "start_sample"
  | setAlarm target => s!"set_alarm({target})"
  | enableAlarm => "enable_alarm"
  | disableAlarm => "disable_alarm"
  | clearAlarm => "clear_alarm"
  | enableClocks => "enable_min_clocks"
  | sleepFlash => "flash_enter_low_power"
  | wakeFlash => "flash_exit_low_power_and_reinit"
  | trimForSleep => "pre_sleep_stage"
  | trimForRun => "post_wake_stage"
  | setWakeTiming us => s!"set_wake_timing_us({us})"
  | setStatus status => s!"set_sleep_status({status.name})"
  | cutRail _ => "enter_retention"
  | maskInterrupts => "mask_interrupts"
  | unmaskInterrupts => "unmask_interrupts"
  | waitForInterrupt => "wait_for_interrupt"
  | saveContext => "save_wake_context"
  | restoreContext _ => "restore_wake_context"
  | suspendTasks => "suspend_all"
  | resumeTasks => "resume_all"
  | stepTicks ticks => s!"advance_ticks({ticks})"
  | notify notice => notice.name
  | fatal f => s!"fatal({f.name})"

/-- One entry of the journal. -/
inductive Exchange where
  /-- A command was carried out. -/
  | issued (c : Command)
  /-- A number was read. -/
  | gauged (g : Gauge) (value : UInt32)
  /-- A question was answered. -/
  | probed (p : Probe) (answer : Bool)
deriving DecidableEq

/-- An entry as a line of the journal. -/
def Exchange.line : Exchange → String
  | issued c => c.line
  | gauged g value => s!"{g.name}={value}"
  | probed p answer => s!"{p.name}={answer}"

end Tickless
