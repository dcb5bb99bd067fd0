import Tickless.Proofs.Runs
import Tickless.Proofs.TwinSleeps

/-!
# Managers on twin benches

Two managers that differ in nothing but the policy for polling a sample, on twin benches. Each call of
one and of the other is taken apart into the same acts, so the calls return the same and leave the
managers as they were to each other, or they halt alike.
-/

namespace Tickless

open PowerManager

/-! ## Twin managers -/

namespace Difference

/-- Two managers apart from their platforms: they differ in the policy for polling a sample. -/
structure Rest (d : Difference) (p p' : PollPolicy) (m m' : PowerManager Bench) : Prop where
  settings : m'.settings = { m.settings with polling := p' }
  polling : m.settings.polling = p
  entry : m'.entry = m.entry
  gate : m'.gate = m.gate
  state : m'.state = m.state
  pending : m'.pending = m.pending.map (SleepCycle.moved d.counter)
  stats : m'.stats = m.stats
  history : m'.history = m.history

/-- Twin managers. -/
structure Managers (d : Difference) (p p' : PollPolicy) (armed : Bool) (m m' : PowerManager Bench) :
    Prop extends d.Rest p p' m m' where
  platform : d.Benches armed m.platform m'.platform

/-- Halts of twin managers, from those of their platforms. -/
def AtManagers (d : Difference) (p p' : PollPolicy) (halts : Halts Bench Bench) :
    Halts (PowerManager Bench) (PowerManager Bench) := fun h m other =>
  ∃ h₀, h = h₀.given m.platform ∧
    match other with
    | none => halts h₀ m.platform none
    | some (h', m') => ∃ h₀', h' = h₀'.given m'.platform ∧
        halts h₀ m.platform (some (h₀', m'.platform)) ∧ d.Rest p p' m m'

variable {d : Difference} {p p' : PollPolicy} {armed armed' : Bool} {halts : Halts Bench Bench}

theorem Managers.weaken {m m' : PowerManager Bench} (h : d.Managers p p' armed m m') :
    d.Managers p p' false m m' :=
  { h with platform := h.platform.weaken }

section

variable (hover : ∀ h b o, d.overflows h b o → halts h b o)

theorem orFatal_together {α β : Type} {x : Act Bench α} {y : Act Bench β} {same : α → β → Prop}
    (h : Together halts (d.Benches armed) x y same (d.Benches armed')) :
    Together (d.AtManagers p p' halts) (d.Managers p p' armed) (orFatal x) (orFatal y) same
      (d.Managers p p' armed') := by
  intro m m' hm
  rw [orFatal_eq, orFatal_eq]
  have hends := h _ _ hm.platform
  revert hends
  generalize x m.platform = r
  generalize y m'.platform = r'
  intro hends
  cases hends with
  | answered hanswer hstate => exact .answered hanswer { hm with platform := hstate }
  | halted hhalt => exact .halted ⟨_, rfl, _, rfl, hhalt, { hm with }⟩
  | excused hhalt => exact .excused ⟨_, rfl, hhalt⟩

include hover

/-- An act that overflows or comes to its end gives the application nothing to do. -/
theorem onPlatform_together {α β : Type} {x : Act Bench α} {y : Act Bench β} {same : α → β → Prop}
    (h : Together d.overflows (d.Benches armed) x y same (d.Benches armed')) :
    Together (d.AtManagers p p' halts) (d.Managers p p' armed) (onPlatform x) (onPlatform y) same
      (d.Managers p p' armed') := by
  intro m m' hm
  rw [onPlatform_eq, onPlatform_eq]
  have hends := h _ _ hm.platform
  revert hends
  generalize x m.platform = r
  generalize y m'.platform = r'
  intro hends
  cases hends with
  | answered hanswer hstate => exact .answered hanswer { hm with platform := hstate }
  | halted hhalt =>
    obtain ⟨e, t, rfl, heq, hnear⟩ := hhalt
    cases heq
    exact .halted ⟨.arithmetic e, rfl, .arithmetic e, rfl, hover _ _ _ ⟨e, _, rfl, rfl, hnear⟩, { hm with }⟩
  | excused hhalt =>
    obtain ⟨e, t, -, heq, -⟩ := hhalt
    cases heq

theorem liftManager_together {α : Type} (v : Except ArithError α) :
    Together (d.AtManagers p p' halts) (d.Managers p p' armed)
      (liftM v : Act (PowerManager Bench) α) (liftM v : Act (PowerManager Bench) α) Eq
      (d.Managers p p' armed) := by
  intro m m' hm
  cases v with
  | ok a => exact .answered rfl hm
  | error e =>
    exact .halted ⟨.arithmetic e, rfl, .arithmetic e, rfl,
      hover _ _ _ ⟨e, _, rfl, rfl, hm.platform.weaken⟩, { hm with }⟩

end

theorem logManager_together {halts : Halts (PowerManager Bench) (PowerManager Bench)} (m : Message) :
    Together halts (d.Managers p p' armed) (log m) (log m) Eq (d.Managers p p' armed) :=
  Together.modify fun _ _ hm => { hm with platform := hm.platform.record m }

theorem enter_together {halts : Halts (PowerManager Bench) (PowerManager Bench)} (state : PowerState) :
    Together halts (d.Managers p p' armed) (enter state) (enter state) Eq (d.Managers p p' armed) :=
  Together.modify fun _ _ hm => { hm with state := rfl }

theorem count_together {halts : Halts (PowerManager Bench) (PowerManager Bench)}
    (f : SleepStats → SleepStats) :
    Together halts (d.Managers p p' armed) (count f) (count f) Eq (d.Managers p p' armed) :=
  Together.modify fun _ _ hm => { hm with stats := congrArg f hm.stats }

theorem finish_together {halts : Halts (PowerManager Bench) (PowerManager Bench)} (r : SleepRecord) :
    Together halts (d.Managers p p' armed) (finish r) (finish r) Eq (d.Managers p p' armed) :=
  Together.modify fun _ _ hm => { hm with
    stats := congrArg (SleepStats.record r.mode r.elapsed) hm.stats
    history := congrArg (Recent.push r) hm.history }

theorem store_together {halts : Halts (PowerManager Bench) (PowerManager Bench)}
    {pending pending' : Option SleepCycle}
    (h : pending' = pending.map (SleepCycle.moved d.counter)) :
    Together halts (d.Managers p p' armed)
      (modify fun m => { m with pending } : Act (PowerManager Bench) PUnit)
      (modify fun m => { m with pending := pending' }) Eq (d.Managers p p' armed) :=
  Together.modify fun _ _ hm => { hm with pending := h }

/-! ## Calls of twin managers -/

section

variable (hover : ∀ h b o, d.overflows h b o → halts h b o)
  (hsample : ∀ stage, Together halts (d.Benches false) (sampleCounter p stage)
    (sampleCounter p' stage) (fun n n' => n' = n + d.counter) (d.Benches false))

include hover

theorem abort_together :
    Together (d.AtManagers p p' halts) (d.Managers p p' false) abort abort Eq
      (d.Managers p p' false) := by
  unfold abort
  refine (onPlatform_together hover (perform_together .unmaskInterrupts trivial)).next fun _ => ?_
  exact (count_together _).next fun _ => Together.pure rfl

theorem sleepLight_together (ticks : UInt32) :
    Together (d.AtManagers p p' halts) (d.Managers p p' false) (sleepLight ticks) (sleepLight ticks) Eq
      (d.Managers p p' false) := by
  unfold sleepLight
  refine Together.read fun m m' hm => ?_
  rw [hm.settings]
  refine (enter_together _).next fun _ => ?_
  refine (onPlatform_together hover (sleepLightly_together m.settings p' ticks)).next fun e => ?_
  refine (onPlatform_together hover (perform_together .unmaskInterrupts trivial)).next fun _ => ?_
  refine (enter_together _).next fun _ => ?_
  refine (liftManager_together hover m.settings.maxSuppressedTicks).next fun limit => ?_
  exact (finish_together _).next fun _ => Together.pure rfl

include hsample

theorem retainFrom_together (ticks : UInt32) (snap : EntrySnapshot) :
    Together (d.AtManagers p p' halts) (d.Managers p p' false) (retainFrom ticks snap)
      (retainFrom ticks (d.movedSnapshot snap)) Eq (d.Managers p p' false) := by
  unfold retainFrom
  refine Together.read fun m m' hm => ?_
  obtain rfl := hm.polling
  rw [hm.settings, hm.entry]
  refine (orFatal_together (powerDown_together m.settings p' hover hsample ticks snap)).bind
    fun cycle cycle' hcycle => ?_
  refine (store_together (congrArg some hcycle)).next fun _ => ?_
  refine (enter_together _).next fun _ => ?_
  refine (onPlatform_together hover (cutRail_together m.entry)).next fun _ => ?_
  exact (Together.pure rfl).weaken (fun _ _ h => h) fun _ _ hm => hm.weaken

theorem sleepDeep_together (ticks : UInt32) :
    Together (d.AtManagers p p' halts) (d.Managers p p' false) (sleepDeep ticks) (sleepDeep ticks) Eq
      (d.Managers p p' false) := by
  unfold sleepDeep
  refine (onPlatform_together hover enterDeep_together).bind fun snap snap' hsnap => ?_
  subst hsnap
  cases snap with
  | some snap => exact retainFrom_together hover hsample ticks snap
  | none => exact (count_together _).next fun _ => Together.pure rfl

theorem sleep_together (ticks : UInt32) :
    Together (d.AtManagers p p' halts) (d.Managers p p' false) (sleep ticks) (sleep ticks) Eq
      (d.Managers p p' false) := by
  unfold sleep
  refine Together.read fun m m' hm => ?_
  rw [hm.settings, hm.gate]
  refine (onPlatform_together hover (chooseDepth_together m.settings p' ticks _)).next fun mode => ?_
  cases mode with
  | light => exact sleepLight_together hover ticks
  | deep => exact sleepDeep_together hover hsample ticks

theorem idle_together (ticks : UInt32) :
    Together (d.AtManagers p p' halts) (d.Managers p p' false) (idle ticks) (idle ticks) Eq
      (d.Managers p p' false) := by
  unfold idle
  refine Together.read fun m m' hm => ?_
  simp only [hm.state]
  split
  · exact (logManager_together _).next fun _ => Together.pure rfl
  · refine (count_together _).next fun _ => ?_
    refine (onPlatform_together hover (perform_together .maskInterrupts trivial)).next fun _ => ?_
    refine (onPlatform_together hover (probe_together .abortRequested trivial)).next fun aborted => ?_
    split
    · exact abort_together hover
    · exact sleep_together hover hsample ticks

theorem resumeFrom_together (cycle : SleepCycle) :
    Together (d.AtManagers p p' halts) (d.Managers p p' false) (resumeFrom cycle)
      (resumeFrom (cycle.moved d.counter)) Eq (d.Managers p p' false) := by
  unfold resumeFrom
  refine Together.read fun m m' hm => ?_
  obtain rfl := hm.polling
  rw [hm.settings]
  refine (onPlatform_together hover (wakeUp_together cycle)).next fun _ => ?_
  refine (orFatal_together (reconcile_together m.settings p' hover hsample cycle)).next fun e => ?_
  refine (onPlatform_together hover (reactivate_together m.settings p' e)).next fun _ => ?_
  refine (enter_together _).next fun _ => ?_
  refine (logManager_together _).next fun _ => ?_
  exact (finish_together _).next fun _ => Together.pure rfl

theorem resume_together :
    Together (d.AtManagers p p' halts) (d.Managers p p' false) resume resume Eq
      (d.Managers p p' false) := by
  unfold resume
  refine Together.read fun m m' hm => ?_
  rw [hm.pending]
  cases m.pending with
  | none => exact (logManager_together _).next fun _ => Together.pure rfl
  | some cycle =>
    refine (store_together rfl).next fun _ => ?_
    exact (resumeFrom_together hover hsample cycle).next fun e => Together.pure rfl

/-- Each call of twin managers returns the same and leaves them twins, or halts on both. -/
theorem answer_together (call : Call) :
    Together (d.AtManagers p p' halts) (d.Managers p p' false) (answer call) (answer call) Eq
      (d.Managers p p' false) := by
  cases call with
  | idle ticks => exact (idle_together hover hsample ticks).next fun r => Together.pure rfl
  | resume => exact (resume_together hover hsample).next fun r => Together.pure rfl
  | elapse us =>
    exact (onPlatform_together hover (elapse_together us)).next fun _ => Together.pure rfl

end

end Difference

end Tickless
