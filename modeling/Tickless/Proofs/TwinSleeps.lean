import Tickless.Proofs.TwinBenches

/-!
# Sleeps on twin benches

The acts of the idle path, one step after the other, on both of two twin benches. The settings may
differ in how samples are polled, and no act but the sample looks at that. So a sample is the one step
that is taken as given here: whatever it does to twins, the acts around it keep up.
-/

namespace Tickless.Difference

variable {d : Difference} {armed : Bool}

/-! ## Steps that are always alike -/

theorem log_together {halts : Halts Bench Bench} (m : Message) :
    Together halts (d.Benches armed) (log m) (log m) Eq (d.Benches armed) :=
  Together.modify fun _ _ hb => hb.record m

theorem logIf_together {halts : Halts Bench Bench} (reason : Prop) [Decidable reason] (m : Message) :
    Together halts (d.Benches armed) (logIf reason m) (logIf reason m) Eq (d.Benches armed) := by
  unfold logIf
  split
  · exact log_together m
  · exact Together.pure rfl

theorem lift_together {α : Type} (v : Except ArithError α) :
    Together d.overflows (d.Benches armed) (liftM v : Act Bench α) (liftM v : Act Bench α) Eq
      (d.Benches armed) :=
  Together.lift (fun _ _ hb => hb.weaken) v

theorem setAlarm_together (target : UInt32) :
    Together d.overflows (d.Benches armed) (perform (.setAlarm target))
      (perform (.setAlarm (target + d.counter))) Eq (d.Benches true) :=
  onChip_together fun _ _ h => h.setAlarm target

theorem cutRail_together (entry : ResumeEntry) :
    Together d.overflows (d.Benches true) (perform (.cutRail entry)) (perform (.cutRail entry)) Eq
      (d.Benches true) :=
  onChip_together fun _ _ h => h.cutRail entry

theorem restartTimer_together (reload : UInt32) :
    Together d.overflows (d.Benches armed) (restartTimer reload) (restartTimer reload) Eq
      (d.Benches armed) :=
  (perform_together (.setReload reload) trivial).next fun _ =>
    (perform_together .clearCount trivial).next fun _ => perform_together .startTimer trivial

/-! ## Light sleep and the choice of depth -/

theorem haltFor_together (counts ticks stoppedCounts reload : UInt32) :
    Together d.overflows (d.Benches armed) (haltFor counts ticks stoppedCounts reload)
      (haltFor counts ticks stoppedCounts reload) Eq (d.Benches armed) := by
  unfold haltFor
  refine (perform_together .waitForInterrupt trivial).next fun _ => ?_
  refine (perform_together .stopTimer trivial).next fun _ => ?_
  refine (probe_together .timerExpired trivial).next fun expired => ?_
  split
  · exact (gauge_together .timerCount trivial).next fun current => lift_together _
  · exact (gauge_together .timerCount trivial).next fun current => lift_together _

variable (s : Settings) (polling : PollPolicy)

theorem chooseDepth_together (ticks : UInt32) (held : Bool) :
    Together d.overflows (d.Benches armed) (chooseDepth s ticks held)
      (chooseDepth { s with polling } ticks held) Eq (d.Benches armed) := by
  have hconsents : ∀ eligible, Together d.overflows (d.Benches armed) (consents eligible)
      (consents eligible) Eq (d.Benches armed) := by
    intro eligible
    unfold consents
    split
    · exact probe_together .deepSleepAllowed trivial
    · exact Together.pure rfl
  unfold chooseDepth
  refine (lift_together (s.ticksToMs ticks)).next fun ms => ?_
  refine (hconsents _).next fun deep => ?_
  exact (log_together _).next fun _ => Together.pure rfl

theorem sleepLightly_together (ticks : UInt32) :
    Together d.overflows (d.Benches armed) (sleepLightly s ticks)
      (sleepLightly { s with polling } ticks) Eq (d.Benches armed) := by
  unfold sleepLightly
  refine (lift_together s.countsPerTick).next fun counts => ?_
  refine (lift_together s.maxSuppressedTicks).next fun limit => ?_
  refine (logIf_together _ _).next fun _ => ?_
  refine (perform_together .stopTimer trivial).next fun _ => ?_
  refine (gauge_together .timerCount trivial).next fun current => ?_
  refine (lift_together _).next fun reload => ?_
  refine (restartTimer_together reload).next fun _ => ?_
  refine (haltFor_together _ _ _ _).next fun outcome => ?_
  refine (restartTimer_together _).next fun _ => ?_
  refine (perform_together (.stepTicks _) trivial).next fun _ => ?_
  refine (lift_together _).next fun whole => ?_
  refine (perform_together (.setReload whole) trivial).next fun _ => ?_
  exact (lift_together _).next fun phaseUs => Together.pure rfl

/-! ## Deep sleep -/

/-- A snapshot as it is taken on the second of two twins. -/
def movedSnapshot (d : Difference) (snap : EntrySnapshot) : EntrySnapshot :=
  { snap with freeCounterUs := snap.freeCounterUs + d.freeCounter }

theorem enterDeep_together :
    Together d.overflows (d.Benches armed) enterDeep enterDeep
      (fun snap snap' => snap' = snap.map d.movedSnapshot) (d.Benches armed) := by
  unfold enterDeep
  refine (perform_together .suspendTasks trivial).next fun _ => ?_
  refine (gauge_together .timerCount trivial).next fun count => ?_
  refine freeCounter_together.bind fun now now' hnow => ?_
  refine (probe_together .entryAllowed trivial).next fun allowed => ?_
  split
  · refine (perform_together (.notify .preSleep) trivial).next fun _ => Together.pure ?_
    rw [hnow]
    rfl
  · have hunwind : Together d.overflows (d.Benches armed) unwindEntry unwindEntry Eq (d.Benches armed) :=
      (log_together _).next fun _ =>
        (perform_together .resumeTasks trivial).next fun _ => perform_together .unmaskInterrupts trivial
    exact hunwind.next fun _ => Together.pure rfl

/-- The plans of twins are the same: what comes off a clock is a difference of two readings. -/
theorem planDeep_together (ticks : UInt32) (snap : EntrySnapshot) :
    Together d.overflows (d.Benches armed) (planDeep s ticks snap)
      (planDeep { s with polling } ticks (d.movedSnapshot snap)) Eq (d.Benches armed) := by
  unfold planDeep
  refine (perform_together .stopTimer trivial).next fun _ => ?_
  refine (lift_together s.maxDeepSleepTicks).next fun limit => ?_
  refine (logIf_together _ _).next fun _ => ?_
  refine (lift_together (carriedPhase s snap.timerCount)).next fun carriedUs => ?_
  refine (perform_together (.setWakeTiming _) trivial).next fun _ => ?_
  refine (gauge_together .oscillatorHz trivial).next fun hz => ?_
  refine freeCounter_together.bind fun now now' hnow => ?_
  have hlatency : now' - (d.movedSnapshot snap).freeCounterUs = now - snap.freeCounterUs := by
    rw [hnow]
    exact add_sub_add_right_eq_sub _ _ _
  rw [hlatency]
  refine (lift_together (wantedCycles s _ _ _ hz)).next fun wanted => ?_
  exact (logIf_together _ _).next fun _ => Together.pure rfl

theorem armAlarm_together (target : UInt32) :
    Together d.overflows (d.Benches armed) (armAlarm target) (armAlarm (target + d.counter)) Eq
      (d.Benches true) :=
  (perform_together .clearAlarm trivial).next fun _ =>
    (setAlarm_together target).next fun _ => perform_together .enableAlarm trivial

theorem retain_together :
    Together d.overflows (d.Benches armed) retain retain Eq (d.Benches armed) :=
  (perform_together .trimForSleep trivial).next fun _ =>
    (perform_together .sleepFlash trivial).next fun _ =>
      (perform_together (.setStatus .deepSleep) trivial).next fun _ => perform_together .saveContext trivial

theorem retainPlanned_together (plan : DeepPlan) (n : UInt32) :
    Together d.overflows (d.Benches armed) (retainPlanned plan n)
      (retainPlanned plan (n + d.counter)) (fun cycle cycle' => cycle' = cycle.moved d.counter)
      (d.Benches true) := by
  have htarget : n + d.counter + plan.lead = n + plan.lead + d.counter := add_right_comm _ _ _
  unfold retainPlanned
  rw [htarget]
  refine (armAlarm_together _).next fun _ => ?_
  refine retain_together.next fun context => ?_
  refine (log_together _).next fun _ => Together.pure ?_
  unfold SleepCycle.moved DeepPlan.cycle
  rw [htarget]

theorem wakeUp_together (cycle : SleepCycle) :
    Together d.overflows (d.Benches armed) (wakeUp cycle) (wakeUp (cycle.moved d.counter)) Eq
      (d.Benches armed) :=
  (perform_together .enableClocks trivial).next fun _ =>
    (perform_together .wakeFlash trivial).next fun _ =>
      (perform_together (.restoreContext _) trivial).next fun _ =>
        (perform_together .trimForRun trivial).next fun _ => perform_together (.setStatus .normal) trivial

theorem reactivate_together (e : Elapsed) :
    Together d.overflows (d.Benches armed) (reactivate s e) (reactivate { s with polling } e) Eq
      (d.Benches armed) := by
  unfold reactivate
  refine (lift_together (phaseReload s e.phaseUs)).next fun reload => ?_
  refine (restartTimer_together reload).next fun _ => ?_
  refine (perform_together (.stepTicks _) trivial).next fun _ => ?_
  refine (lift_together s.countsPerTick).next fun counts => ?_
  refine (lift_together _).next fun whole => ?_
  refine (perform_together (.setReload whole) trivial).next fun _ => ?_
  refine (perform_together (.notify .wakeImmediate) trivial).next fun _ => ?_
  refine (perform_together .unmaskInterrupts trivial).next fun _ => ?_
  exact (perform_together .resumeTasks trivial).next fun _ => perform_together (.notify .wakeDeferred) trivial

/-! ## The two acts that take a sample -/

section

variable {halts : Halts Bench Bench} (hover : ∀ h b o, d.overflows h b o → halts h b o)
  (hsample : ∀ stage, Together halts (d.Benches false) (sampleCounter s.polling stage)
    (sampleCounter polling stage) (fun n n' => n' = n + d.counter) (d.Benches false))

include hover hsample

theorem powerDown_together (ticks : UInt32) (snap : EntrySnapshot) :
    Together halts (d.Benches false) (powerDown s ticks snap)
      (powerDown { s with polling } ticks (d.movedSnapshot snap))
      (fun cycle cycle' => cycle' = cycle.moved d.counter) (d.Benches true) := by
  unfold powerDown
  refine ((planDeep_together s polling ticks snap).allow hover).next fun plan => ?_
  refine (hsample .arming).bind fun n n' hn => ?_
  rw [hn]
  exact (retainPlanned_together plan n).allow hover

theorem reconcile_together (cycle : SleepCycle) :
    Together halts (d.Benches false) (reconcile s cycle)
      (reconcile { s with polling } (cycle.moved d.counter)) Eq (d.Benches false) := by
  unfold reconcile
  refine ((probe_together .alarmFired trivial).allow hover).next fun fired => ?_
  refine ((perform_together .disableAlarm trivial).allow hover).next fun _ => ?_
  refine ((perform_together .clearAlarm trivial).allow hover).next fun _ => ?_
  refine (hsample .reconciling).bind fun n n' hn => ?_
  -- the sleep is a difference of two samples
  have hmeasured : (cycle.moved d.counter).measuredUs n' = cycle.measuredUs n := by
    have hasleep : n' - (cycle.rtcBefore + d.counter) = n - cycle.rtcBefore := by
      rw [hn]
      exact add_sub_add_right_eq_sub _ _ _
    unfold SleepCycle.measuredUs SleepCycle.moved
    rw [hasleep]
  rw [hmeasured]
  refine ((lift_together _).allow hover).next fun totalUs => ?_
  refine ((lift_together s.tickPeriodUs).allow hover).next fun periodUs => ?_
  exact (logIf_together _ _).next fun _ => Together.pure rfl

end

end Tickless.Difference
