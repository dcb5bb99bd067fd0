import Mathlib.Data.UInt
import Tickless.Proofs.BenchCommands
import Tickless.Proofs.SideBySide
import Tickless.PowerManager

/-!
# Twin benches

Two benches that differ in nothing but where their free-running counters stand. Whatever the idle path
does to one of them and to the other leaves them twins: counters are only ever moved forward and
subtracted from each other, so what is computed from them is the same on both, and what is written from
them differs by as much as they do.

An alarm target and a log that were there before the first call are the same on both. A target that a
call has written differs by as much as the counters, so the twins are told apart as armed, when such a
target stands in the register, or not.
-/

namespace Tickless

/-! ## Twins -/

/-- An event with its place on the real-time counter moved. -/
def Event.moved (d : UInt32) : Event → Event
  | .rtcSample counter => .rtcSample (counter + d)
  | .alarmSet target => .alarmSet (target + d)
  | e => e

/-- A cycle with its places on the real-time counter moved. -/
def SleepCycle.moved (d : UInt32) (c : SleepCycle) : SleepCycle :=
  { c with rtcBefore := c.rtcBefore + d, alarm := c.alarm + d }

/-- What tells twins apart, and what they had in common before the first call. -/
structure Difference where
  /-- How far the second real-time counter is ahead. -/
  counter : UInt32 := 0
  /-- How far the second microsecond counter is ahead. -/
  freeCounter : UInt32 := 0
  /-- The alarm target that no call has written. -/
  oldAlarm : Option UInt32 := none
  /-- The events that no call has logged. -/
  oldEvents : List Event := []
  /-- The messages of the first and of the second that no call has emitted. -/
  oldMessages : Transcript × Transcript := ([], [])
  /-- What is known of samples, by whether they are stuck and how many polls find them busy. No call
  changes either. -/
  known : Bool → UInt32 → Prop := fun _ _ => True

namespace Difference

variable (d : Difference)

/-- The second of two chips, from the first. -/
def twin (alarm : Option UInt32) (events : Trail Event logDepth) (c : Chip) : Chip :=
  { c with
    rtc := { c.rtc with
      counter := c.rtc.counter + d.counter
      alarm }
    power := { c.power with freeCounterUs := c.power.freeCounterUs + d.freeCounter }
    events }

def Alarms (armed : Bool) (a a' : Option UInt32) : Prop :=
  a' = a.map (· + d.counter) ∨ armed = false ∧ a = d.oldAlarm ∧ a' = d.oldAlarm

def Logs (l l' : List Event) : Prop :=
  ∃ old new, (old = d.oldEvents ∨ old = []) ∧ l = old ++ new ∧ l' = old ++ new.map (Event.moved d.counter)

/-- Twin chips, with a target in the alarm register that a call has written if they are armed. -/
structure Chips (armed : Bool) (c c' : Chip) : Prop where
  twin : ∃ alarm events, c' = d.twin alarm events c
  alarms : d.Alarms armed c.rtc.alarm c'.rtc.alarm
  logs : d.Logs c.events.entries c'.events.entries
  known : d.known c.rtc.stuck c.rtc.busyPolls

/-- Twin benches. -/
structure Benches (armed : Bool) (b b' : Bench) : Prop where
  chip : d.Chips armed b.chip b'.chip
  kernel : b'.kernel = b.kernel
  application : b'.application = b.application
  transcript : ∃ new, b.transcript = new ++ d.oldMessages.1 ∧ b'.transcript = new ++ d.oldMessages.2

variable {d} {armed : Bool} {c c' : Chip} {b b' : Bench}

theorem Logs.push {t t' : Trail Event logDepth} (h : d.Logs t.entries t'.entries) (e : Event) :
    d.Logs (t.push e).entries (t'.push (e.moved d.counter)).entries := by
  obtain ⟨old, new, hold, hnew, hnew'⟩ := h
  have hlen : t'.entries.length = t.entries.length := by
    rw [hnew, hnew', List.length_append, List.length_append, List.length_map]
  by_cases hroom : t.entries.length < logDepth
  · refine ⟨old, new ++ [e], hold, ?_, ?_⟩
    · rw [Trail.entries_push_of_lt hroom, hnew, List.append_assoc]
    · rw [Trail.entries_push_of_lt (by omega), hnew', List.append_assoc, List.map_append]
      rfl
  · rw [Trail.push_of_full hroom, Trail.push_of_full (by omega)]
    exact ⟨old, new, hold, hnew, hnew'⟩

theorem Alarms.weaken {a a' : Option UInt32} (h : d.Alarms armed a a') : d.Alarms false a a' := by
  rcases h with h | ⟨-, h⟩
  · exact .inl h
  · exact .inr ⟨rfl, h⟩

theorem Chips.weaken (h : d.Chips armed c c') : d.Chips false c c' :=
  { h with alarms := h.alarms.weaken }

theorem Benches.weaken (h : d.Benches armed b b') : d.Benches false b b' :=
  { h with chip := h.chip.weaken }

theorem Benches.record (h : d.Benches armed b b') (m : Message) :
    d.Benches armed (Logger.record m b) (Logger.record m b') := by
  obtain ⟨new, hnew, hnew'⟩ := h.transcript
  exact { h with transcript := ⟨m :: new, congrArg (m :: ·) hnew, congrArg (m :: ·) hnew'⟩ }

/-- A change of the chip that neither reads nor writes what tells twins apart. -/
structure Silent (d : Difference) (f : Chip → Chip) : Prop where
  twin : ∀ c alarm events, f (d.twin alarm events c) = d.twin alarm events (f c) := by intros; rfl
  events : ∀ c, (f c).events = c.events := by intros; rfl
  alarm : ∀ c, (f c).rtc.alarm = c.rtc.alarm := by intros; rfl
  known : ∀ c, d.known c.rtc.stuck c.rtc.busyPolls → d.known (f c).rtc.stuck (f c).rtc.busyPolls := by
    intro c h; exact h

/-- A change of the chip that does the same apart from an event, which it logs. -/
structure Writes (d : Difference) (f : Chip → Chip) (e : Event) : Prop where
  twin : ∀ c alarm events, f (d.twin alarm events c) = d.twin alarm (events.push e) (f c) := by
    intros; rfl
  events : ∀ c, (f c).events = c.events.push e := by intros; rfl
  alarm : ∀ c, (f c).rtc.alarm = c.rtc.alarm := by intros; rfl
  known : ∀ c, d.known c.rtc.stuck c.rtc.busyPolls → d.known (f c).rtc.stuck (f c).rtc.busyPolls := by
    intro c h; exact h
  unmoved : e.moved d.counter = e := by rfl

theorem Chips.write {f : Chip → Chip} {e : Event} (hf : d.Writes f e) (h : d.Chips armed c c') :
    d.Chips armed (f c) (f c') := by
  obtain ⟨alarm, events, rfl⟩ := h.twin
  refine ⟨⟨alarm, events.push e, hf.twin c alarm events⟩, ?_, ?_, hf.known c h.known⟩
  · rw [hf.alarm, hf.alarm]
    exact h.alarms
  · have hlogs := h.logs.push e
    rw [hf.unmoved] at hlogs
    rwa [hf.events, hf.events]

theorem Chips.of_silent {f : Chip → Chip} (hf : d.Silent f) (h : d.Chips armed c c') :
    d.Chips armed (f c) (f c') := by
  obtain ⟨alarm, events, rfl⟩ := h.twin
  refine ⟨⟨alarm, events, hf.twin c alarm events⟩, ?_, ?_, hf.known c h.known⟩
  · rw [hf.alarm, hf.alarm]
    exact h.alarms
  · rw [hf.events, hf.events]
    exact h.logs

/-- The flash comes back after as many cycles on both. -/
theorem Chips.wakeFlash (h : d.Chips armed c c') : d.Chips armed c.wakeFlash c'.wakeFlash := by
  refine Chips.write (e := .flashExitLowPower) { twin := fun c alarm events => ?_ } h
  simp only [Chip.wakeFlash, Chip.logged, Difference.twin]
  rw [add_right_comm c.rtc.counter d.counter]

/-- Targets that differ by as much as the counters arm both. -/
theorem Chips.setAlarm (h : d.Chips armed c c') (target : UInt32) :
    d.Chips true (c.setAlarm target) (c'.setAlarm (target + d.counter)) := by
  obtain ⟨alarm, events, rfl⟩ := h.twin
  exact ⟨⟨_, _, rfl⟩, .inl rfl, h.logs.push (.alarmSet target), h.known⟩

/-- An alarm that is as far ahead on both wakes both after the same time. -/
theorem Chips.cutRail (h : d.Chips true c c') (entry : ResumeEntry) :
    d.Chips true (c.cutRail entry) (c'.cutRail entry) := by
  obtain ⟨alarm, events, rfl⟩ := h.twin
  have halarm : alarm = c.rtc.alarm.map (· + d.counter) := by
    rcases h.alarms with halarm | ⟨hfalse, -⟩
    · exact halarm
    · cases hfalse
  have hcycles : (d.twin alarm events c).rtc.cyclesToAlarm = c.rtc.cyclesToAlarm := by
    show (if c.rtc.alarmEnabled then alarm.map (· - (c.rtc.counter + d.counter)) else none) = _
    rw [halarm, Option.map_map]
    have hleft : ((· - (c.rtc.counter + d.counter)) ∘ (· + d.counter) : UInt32 → UInt32) =
        (· - c.rtc.counter) := funext fun target => add_sub_add_right_eq_sub _ _ _
    rw [hleft]
    rfl
  have hlength : (d.twin alarm events c).rtc.sleepLength = c.rtc.sleepLength := by
    unfold RealTimeCounter.sleepLength
    rw [hcycles]
    rfl
  refine ⟨⟨alarm, events.push .enterRetention, ?_⟩, h.alarms, h.logs.push .enterRetention, h.known⟩
  simp only [Chip.cutRail, RealTimeCounter.sleep, hlength]
  simp only [Chip.logged, Difference.twin]
  rw [add_right_comm c.rtc.counter d.counter]

theorem elapse_twin (d : Difference) (alarm : Option UInt32) (events : Trail Event logDepth)
    (c : Chip) (us : UInt32) :
    (d.twin alarm events c).elapse us = (c.elapse us).map (d.twin alarm events) := by
  have hrtc : (d.twin alarm events c).rtc.elapse us = (c.rtc.elapse us).map fun r =>
      { r with counter := r.counter + d.counter, alarm } := by
    unfold RealTimeCounter.elapse
    show (Checked.mul us.toUInt64 c.rtc.oscillatorHz.toUInt64 >>= _) = _
    cases Checked.mul us.toUInt64 c.rtc.oscillatorHz.toUInt64 with
    | error e => rfl
    | ok n =>
      show (Checked.add c.rtc.residue n >>= _) = (Checked.add c.rtc.residue n >>= _).map _
      cases Checked.add c.rtc.residue n with
      | error e => rfl
      | ok residue =>
        simp only [arith_ok_bind, Difference.twin]
        rw [add_right_comm c.rtc.counter d.counter]
        rfl
  unfold Chip.elapse
  rw [hrtc]
  cases c.rtc.elapse us with
  | error e => rfl
  | ok r =>
    simp only [Except.map, arith_ok_bind, Difference.twin]
    rw [add_right_comm c.power.freeCounterUs d.freeCounter]
    rfl

/-- Time passes alike on both, or its oscillator product overflows on both. -/
theorem Chips.elapse (h : d.Chips armed c c') (us : UInt32) :
    (∃ e, c.elapse us = .error e ∧ c'.elapse us = .error e) ∨
      ∃ c₁ c₁', c.elapse us = .ok c₁ ∧ c'.elapse us = .ok c₁' ∧ d.Chips armed c₁ c₁' := by
  obtain ⟨alarm, events, rfl⟩ := h.twin
  rw [elapse_twin]
  cases hc : c.elapse us with
  | error e => exact .inl ⟨e, rfl, rfl⟩
  | ok c₁ =>
    obtain ⟨-, rfl⟩ := Chip.elapse_eq_ok.1 hc
    exact .inr ⟨_, _, rfl, rfl, ⟨⟨alarm, events, rfl⟩, h.alarms, h.logs, h.known⟩⟩

/-! ## Commands -/

/-- The halts that twins have in common outside of a sample. -/
abbrev overflows (d : Difference) : Halts Bench Bench :=
  Tickless.overflows (d.Benches false)

theorem onChip_together {halts : Halts Bench Bench} {armed' : Bool} {f g : Chip → Chip}
    (h : ∀ c c', d.Chips armed c c' → d.Chips armed' (f c) (g c')) :
    Together halts (d.Benches armed) (Bench.onChip f) (Bench.onChip g) Eq (d.Benches armed') :=
  Together.modify fun _ _ hb => { hb with chip := h _ _ hb.chip }

theorem fromChip_together {halts : Halts Bench Bench} {α : Type} {f : Chip → α × Chip}
    (h : ∀ c c', d.Chips armed c c' → (f c).1 = (f c').1 ∧ d.Chips armed (f c).2 (f c').2) :
    Together halts (d.Benches armed) (Bench.fromChip f) (Bench.fromChip f) Eq (d.Benches armed) :=
  fun _ _ hb => .answered (h _ _ hb.chip).1 { hb with chip := (h _ _ hb.chip).2 }

theorem elapse_together (us : UInt32) :
    Together d.overflows (d.Benches armed) (Bench.elapse us) (Bench.elapse us) Eq (d.Benches armed) := by
  intro b b' hb
  unfold Bench.elapse
  rw [Act.get_bind, Act.get_bind]
  rcases hb.chip.elapse us with ⟨e, hc, hc'⟩ | ⟨c, c', hc, hc', hchip⟩
  · rw [hc, hc']
    exact .halted ⟨e, b', rfl, rfl, hb.weaken⟩
  · rw [hc, hc']
    exact .answered rfl { hb with chip := hchip }

/-- A reading of the microsecond counter, with the time that it takes. -/
theorem sense_freeCounterUs (b : Bench) :
    (sense .freeCounterUs : Act Bench UInt32) b =
      match b.chip.elapse b.chip.power.readingUs with
      | .ok c => .ok b.chip.power.freeCounterUs { b with chip := c }
      | .error e => .error (.arithmetic e) b := by
  simp only [sense, Platform.perform, Bench.perform, Bench.gauge, Act.get_bind, Chip.readFreeCounter]
  cases b.chip.elapse b.chip.power.readingUs with
  | ok c => rfl
  | error e => rfl

/-- The microsecond counters read as far apart as they are. -/
theorem freeCounter_together :
    Together d.overflows (d.Benches armed) (sense .freeCounterUs) (sense .freeCounterUs)
      (fun n n' => n' = n + d.freeCounter) (d.Benches armed) := by
  intro b b' hb
  obtain ⟨alarm, events, hb'⟩ := hb.chip.twin
  have hfree : b'.chip.power.freeCounterUs = b.chip.power.freeCounterUs + d.freeCounter := by
    rw [hb']
    rfl
  have hreading : b'.chip.power.readingUs = b.chip.power.readingUs := by
    rw [hb']
    rfl
  rw [sense_freeCounterUs, sense_freeCounterUs, hreading, hfree]
  rcases hb.chip.elapse b.chip.power.readingUs with ⟨e, hc, hc'⟩ | ⟨c, c', hc, hc', hchip⟩
  · rw [hc, hc']
    exact .halted ⟨e, b', rfl, rfl, hb.weaken⟩
  · rw [hc, hc']
    exact .answered rfl { hb with chip := hchip }

theorem onKernel_together (f : Kernel → Except ArithError Kernel) :
    Together d.overflows (d.Benches armed) (Bench.onKernel f) (Bench.onKernel f) Eq
      (d.Benches armed) := by
  intro b b' hb
  unfold Bench.onKernel
  rw [Act.get_bind, Act.get_bind, hb.kernel]
  cases f b.kernel with
  | error e => exact .halted ⟨e, b', rfl, rfl, hb.weaken⟩
  | ok k => exact .answered rfl { hb with kernel := rfl }

theorem called_together {halts : Halts Bench Bench} (call : HookCall) :
    Together halts (d.Benches armed) (Bench.called call) (Bench.called call) Eq (d.Benches armed) :=
  Together.modify fun _ _ hb => { hb with application := by rw [hb.application] }

/-- A reading of something that twins have in common. -/
theorem reading_together {halts : Halts Bench Bench} {α : Type} {f : Bench → α}
    (h : ∀ b b', d.Benches armed b b' → f b = f b') :
    Together halts (d.Benches armed) (do return f (← get) : Act Bench α) (do return f (← get)) Eq
      (d.Benches armed) :=
  fun b b' hb => .answered (h b b' hb) hb

theorem write_together {halts : Halts Bench Bench} {f : Chip → Chip} {e : Event} (hf : d.Writes f e) :
    Together halts (d.Benches armed) (Bench.onChip f) (Bench.onChip f) Eq (d.Benches armed) :=
  onChip_together fun _ _ h => h.write hf

/-- Commands that concern nothing that tells twins apart. The others read or move a counter, poll a
sample, or use an alarm target. -/
def Plain : Command → Prop
  | .gauge .freeCounterUs | .gauge .sampledCounter | .probe .sampleBusy => False
  | .latchCounter | .setAlarm _ | .cutRail _ | .fatal _ => False
  | _ => True

theorem gauge_together (g : Gauge) (hg : Plain (.gauge g)) :
    Together d.overflows (d.Benches armed) (sense g) (sense g) Eq (d.Benches armed) := by
  have hchip : ∀ b b', d.Benches armed b b' → ∃ alarm events, b'.chip = d.twin alarm events b.chip :=
    fun _ _ hb => hb.chip.twin
  cases g with
  | timerCount =>
    refine reading_together fun b b' hb => ?_
    obtain ⟨alarm, events, hb'⟩ := hchip b b' hb
    rw [hb']
    rfl
  | oscillatorHz =>
    refine reading_together fun b b' hb => ?_
    obtain ⟨alarm, events, hb'⟩ := hchip b b' hb
    rw [hb']
    rfl
  | sampledCounter => exact hg.elim
  | freeCounterUs => exact hg.elim

theorem probe_together (p : Probe) (hp : Plain (.probe p)) :
    Together d.overflows (d.Benches armed) (ask p) (ask p) Eq (d.Benches armed) := by
  cases p with
  | timerExpired =>
    refine fromChip_together fun c c' h => ⟨?_, ?_⟩
    · obtain ⟨alarm, events, rfl⟩ := h.twin
      rfl
    · exact Chips.of_silent (f := fun c => c.takeExpired.2) {} h
  | sampleBusy => exact hp.elim
  | alarmFired =>
    refine reading_together fun b b' hb => ?_
    obtain ⟨alarm, events, hb'⟩ := hb.chip.twin
    rw [hb']
    rfl
  | abortRequested => exact reading_together fun b b' hb => by rw [hb.kernel]
  | deepSleepAllowed =>
    exact (called_together .deepSleepAllowed).next fun _ =>
      reading_together (f := fun b => b.application.allowsDeep) fun b b' hb => by rw [hb.application]
  | entryAllowed =>
    exact (called_together .preSleepVeto).next fun _ =>
      reading_together (f := fun b => b.application.allowsEntry) fun b b' hb => by rw [hb.application]

theorem perform_together (c : Command) (hc : Plain c) :
    Together d.overflows (d.Benches armed) (perform c) (perform c) Eq (d.Benches armed) := by
  cases c with
  | gauge g => exact gauge_together g hc
  | probe p => exact probe_together p hc
  | setReload value => exact write_together (e := .timerReload value) {}
  | clearCount => exact write_together (e := .timerReset) {}
  | startTimer => exact write_together (e := .timerEnable) {}
  | stopTimer => exact write_together (e := .timerDisable) {}
  | enableAlarm => exact write_together (e := .alarmEnable) {}
  | disableAlarm => exact write_together (e := .alarmDisable) {}
  | clearAlarm => exact write_together (e := .alarmClear) {}
  | enableClocks => exact write_together (e := .minClocks) {}
  | sleepFlash => exact write_together (e := .flashEnterLowPower) {}
  | wakeFlash => exact onChip_together fun _ _ h => h.wakeFlash
  | trimForSleep => exact write_together (e := .trimPreSleep) {}
  | trimForRun => exact write_together (e := .trimPostWake) {}
  | setWakeTiming us => exact write_together (e := .wakeTiming us) {}
  | setStatus status => exact write_together (e := .status status) {}
  | maskInterrupts => exact write_together (e := .maskInterrupts) {}
  | unmaskInterrupts => exact write_together (e := .unmaskInterrupts) {}
  | waitForInterrupt => exact write_together (e := .waitForInterrupt) {}
  | saveContext =>
    refine fromChip_together fun c c' h => ⟨?_, ?_⟩
    · obtain ⟨alarm, events, rfl⟩ := h.twin
      rfl
    · exact Chips.write (f := Chip.logged .saveContext) {} h
  | restoreContext context => exact write_together (e := .restoreContext) {}
  | suspendTasks => exact onKernel_together Kernel.suspend
  | resumeTasks => exact onKernel_together fun k => return k.resume
  | stepTicks ticks => exact onKernel_together (Kernel.step ticks)
  | notify notice => exact called_together notice.call
  | latchCounter => exact hc.elim
  | setAlarm target => exact hc.elim
  | cutRail entry => exact hc.elim
  | fatal f => exact hc.elim

end Difference

end Tickless
