import Tickless.Proofs.Runs

/-!
# The books of a run

A manager keeps three records: running counters, the last few sleeps, and the tick counter of the
scheduler, which it steps. A deep sleep is entered into them by another call than the one that began
it, with refused calls and calls of the boot path in between. The records agree with the run all the
same: each counter with the number of calls that had the outcome, the ticks with the sleeps that are
over, and the history with the last of those.

What a call adds to the books is worked out once, for each course of a call; a run adds up its calls.
-/

namespace Tickless

open PowerManager

/-! ## What the calls of a run come to -/

namespace Turn

/-- The ticks of an idle call that found the manager active. -/
def entered? (t : Turn) : Option UInt32 :=
  match t.call with
  | .idle ticks => if t.found.state = .active then some ticks else none
  | _ => none

/-- The outcome of an idle call that found the manager active. -/
def outcome? (t : Turn) : Option IdleOutcome :=
  match t.entered?, t.reply? with
  | some _, some (.idled outcome) => some outcome
  | _, _ => none

/-- The deep sleep that a call accounted for. -/
def accounted? (t : Turn) : Option Elapsed :=
  match t.reply? with
  | some (.resumed elapsed) => elapsed
  | _ => none

def sleptLight (t : Turn) : Bool := (t.outcome?.bind IdleOutcome.elapsed?).isSome

def sleptDeep (t : Turn) : Bool := t.accounted?.isSome

def gaveUp (t : Turn) : Bool := t.outcome? = some .aborted

def wasVetoed (t : Turn) : Bool := t.outcome? = some .vetoed

def beganDeep (t : Turn) : Bool := t.outcome? = some .retained

/-- The ticks asked of the latest deep sleep, given those asked of the one before. -/
def asked (before : UInt32) (t : Turn) : UInt32 :=
  if t.beganDeep then t.entered?.getD before else before

/-- The sleep that a call brought to its end, given the ticks asked of the latest deep sleep. -/
def over? (s : Settings) (asked : UInt32) (t : Turn) : Option SleepRecord :=
  match t.outcome?, t.accounted? with
  | some (.lightSlept elapsed), _ =>
    some {
      mode := .light
      requestedTicks := min (t.entered?.getD 0) (UInt32.ofNat s.lightLimit)
      elapsed }
  | _, some elapsed =>
    some { mode := .deep, requestedTicks := min asked (UInt32.ofNat s.deepLimit), elapsed }
  | _, none => none

end Turn

/-- The sleeps that a run brings to their end, oldest first. -/
def sleepsOver (s : Settings) : UInt32 → List Turn → List SleepRecord
  | _, [] => []
  | asked, t :: rest => (t.over? s asked).toList ++ sleepsOver s (t.asked asked) rest

/-- The ticks of several sleeps. -/
def ticksOf (sleeps : List SleepRecord) : Nat :=
  (sleeps.map (·.elapsed.wholeTicks.toNat)).sum

theorem ticksOf_append (l l' : List SleepRecord) : ticksOf (l ++ l') = ticksOf l + ticksOf l' := by
  unfold ticksOf
  rw [List.map_append, List.sum_append]

/-- Entries pushed one by one: the last of them are kept, as many as there is room for. -/
theorem Recent.entries_foldl_push {α : Type} {capacity : Nat} (l : List α) (r : Recent α capacity) :
    (l.foldl (fun r a => r.push a) r).entries =
      (r.entries ++ l).drop (r.entries.length + l.length - capacity) := by
  induction l generalizing r with
  | nil =>
    have := r.length_le
    rw [List.foldl_nil, List.append_nil, List.length_nil, Nat.add_zero, Nat.sub_eq_zero_of_le this,
      List.drop_zero]
  | cons a l ih =>
    have hle := r.length_le
    have hlen : (r.entries ++ [a]).length = r.entries.length + 1 := by simp
    -- what the first push drops stands before everything that the others drop
    rw [List.foldl_cons, ih, entries_recent_push, List.length_drop, hlen,
      ← List.drop_append_of_le_length (by omega), List.drop_drop, List.append_assoc,
      List.singleton_append, List.length_cons]
    exact congrArg (List.drop · (r.entries ++ a :: l)) (by omega)

/-! ## The tick counter -/

namespace Bench

variable {s : Settings} {b b' : Bench}

theorem tickCount_of_enterDeep {snap : Option EntrySnapshot} (h : enterDeep b = .ok snap b') :
    b'.kernel.tickCount = b.kernel.tickCount := by
  obtain ⟨k, c, hk, -, h⟩ := enterDeep_eq_ok.1 h
  obtain ⟨-, rfl⟩ := Kernel.suspend_eq_ok.1 hk
  split at h
  · rw [h.2]
  · rw [h.2]
    rfl

theorem tickCount_of_powerDown (hs : s.Valid) {ticks : UInt32} {snap : EntrySnapshot}
    {cycle : SleepCycle} (h : powerDown s ticks snap b = .ok cycle b') :
    b'.kernel.tickCount = b.kernel.tickCount := by
  obtain ⟨c, -, -, -, -, -, rfl⟩ := (powerDown_eq_ok hs).1 h
  rfl

end Bench

theorem Kernel.tickCount_of_step {k k' : Kernel} {ticks : UInt32} (h : k.step ticks = .ok k') :
    k'.tickCount.toNat = k.tickCount.toNat + ticks.toNat := by
  obtain ⟨hlt, rfl⟩ := Kernel.step_eq_ok.1 h
  exact toNat_long hlt

/-! ## What a call adds to the books -/

namespace PowerManager

variable {s : Settings} {asked : UInt32} {m m' : PowerManager Bench} {call : Call} {reply : Reply}

/-- The deep sleep in progress, if there is one, was asked for with a number of ticks. -/
def Asked (s : Settings) (asked : UInt32) (m : PowerManager Bench) : Prop :=
  ∀ cycle, m.pending = some cycle → cycle.requestedTicks = min asked (UInt32.ofNat s.deepLimit)

/-- What a call adds to the books of a manager. -/
structure Booked (s : Settings) (asked : UInt32) (m : PowerManager Bench) (t : Turn)
    (m' : PowerManager Bench) : Prop where
  stats : m'.stats = {
    lightSleeps := m.stats.lightSleeps + UInt32.ofNat t.sleptLight.toNat
    deepSleeps := m.stats.deepSleeps + UInt32.ofNat t.sleptDeep.toNat
    aborts := m.stats.aborts + UInt32.ofNat t.gaveUp.toNat
    vetoes := m.stats.vetoes + UInt32.ofNat t.wasVetoed.toNat
    ticksStepped := m.stats.ticksStepped + UInt64.ofNat (ticksOf (t.over? s asked).toList)
    lastRequestedTicks := t.entered?.getD m.stats.lastRequestedTicks }
  tickCount : m'.platform.kernel.tickCount.toNat =
    m.platform.kernel.tickCount.toNat + ticksOf (t.over? s asked).toList
  history : m'.history = (t.over? s asked).toList.foldl (fun r a => r.push a) m.history
  outcome : t.entered?.isSome.toNat =
    t.sleptLight.toNat + t.gaveUp.toNat + t.wasVetoed.toNat + t.beganDeep.toNat
  pending : m'.pending.isSome.toNat + t.sleptDeep.toNat =
    m.pending.isSome.toNat + t.beganDeep.toNat
  asked : Asked s (t.asked asked) m'

/-- A call that was not let in, and any other call, has no outcome. -/
theorem outcome?_turn_of_not_entered (h : (turn call m).entered? = none) :
    (turn call m).outcome? = none := by
  unfold Turn.outcome?
  rw [h]

/-- A call that is no entered idle call and accounts for no sleep leaves the books as they are. -/
theorem booked_of_nothing {t : Turn} (hasked : Asked s asked m) (hentered : t.entered? = none)
    (houtcome : t.outcome? = none) (haccounted : t.accounted? = none) (hstats : m'.stats = m.stats)
    (htick : m'.platform.kernel.tickCount = m.platform.kernel.tickCount)
    (hhistory : m'.history = m.history) (hpending : m'.pending = m.pending) :
    Booked s asked m t m' := by
  have hnext : t.asked asked = asked := by simp [Turn.asked, Turn.beganDeep, houtcome]
  refine ⟨?_, ?_, ?_, ?_, ?_, ?_⟩
  · simp [Turn.sleptLight, Turn.sleptDeep, Turn.gaveUp, Turn.wasVetoed, Turn.over?, ticksOf, *]
  · simp [Turn.over?, ticksOf, *]
  · simp [Turn.over?, *]
  · simp [Turn.sleptLight, Turn.gaveUp, Turn.wasVetoed, Turn.beganDeep, *]
  · simp [Turn.sleptDeep, Turn.beganDeep, *]
  · intro cycle hcycle
    rw [hnext]
    exact hasked cycle (hpending ▸ hcycle)

theorem deepTicks_word (s : Settings) (ticks : UInt32) :
    UInt32.ofNat (s.deepTicks ticks) = min ticks (UInt32.ofNat s.deepLimit) := by
  rw [← UInt32.toNat_inj, s.toNat_deepTicks, toNat_min, s.toNat_deepLimit]
  rfl

/-- The entries of an idle call that was let in. -/
theorem entries_of_idle {ticks : UInt32} {r : IdleOutcome}
    (h : answer (.idle ticks) m = .ok (.idled r) m') (hstate : m.state = .active) :
    (turn (.idle ticks) m).entered? = some ticks ∧ (turn (.idle ticks) m).outcome? = some r ∧
      (turn (.idle ticks) m).accounted? = none := by
  have hentered : (turn (.idle ticks) m).entered? = some ticks := if_pos hstate
  unfold Turn.outcome? Turn.accounted?
  rw [hentered, reply?_turn h]
  exact ⟨rfl, rfl, rfl⟩

end PowerManager

/-- The counters after an idle call with an outcome. -/
def SleepStats.after (stats : SleepStats) (ticks : UInt32) : IdleOutcome → SleepStats
  | .aborted => { stats with aborts := stats.aborts + 1, lastRequestedTicks := ticks }
  | .lightSlept elapsed => { stats with lastRequestedTicks := ticks }.record .light elapsed
  | .vetoed => { stats with vetoes := stats.vetoes + 1, lastRequestedTicks := ticks }
  | .retained => { stats with lastRequestedTicks := ticks }

namespace PowerManager

/-- An idle call that was let in is entered into the books with its outcome. -/
theorem booked_of_outcome {t : Turn} {ticks : UInt32} {r : IdleOutcome}
    (hentered : t.entered? = some ticks) (houtcome : t.outcome? = some r)
    (haccounted : t.accounted? = none) (hbefore : m.pending = none)
    (hstats : m'.stats = m.stats.after ticks r)
    (htick : m'.platform.kernel.tickCount.toNat =
      m.platform.kernel.tickCount.toNat + (r.elapsed?.getD {}).wholeTicks.toNat)
    (hhistory : m'.history = r.elapsed?.elim m.history fun elapsed => m.history.push {
      mode := .light, requestedTicks := min ticks (UInt32.ofNat s.lightLimit), elapsed })
    (hpending : m'.pending.isSome = decide (r = .retained))
    (hasked : Asked s (if r = .retained then ticks else asked) m') : Booked s asked m t m' := by
  have hlight : t.sleptLight = r.elapsed?.isSome := by simp [Turn.sleptLight, houtcome]
  have hdeep : t.sleptDeep = false := by simp [Turn.sleptDeep, haccounted]
  have hgaveUp : t.gaveUp = decide (r = .aborted) := by simp [Turn.gaveUp, houtcome]
  have hvetoed : t.wasVetoed = decide (r = .vetoed) := by simp [Turn.wasVetoed, houtcome]
  have hbegan : t.beganDeep = decide (r = .retained) := by simp [Turn.beganDeep, houtcome]
  have hover : t.over? s asked = r.elapsed?.map fun elapsed => {
      mode := .light, requestedTicks := min ticks (UInt32.ofNat s.lightLimit), elapsed } := by
    cases r <;> simp [Turn.over?, houtcome, haccounted, hentered, IdleOutcome.elapsed?]
  have hnext : t.asked asked = if r = .retained then ticks else asked := by
    simp [Turn.asked, hbegan, hentered]
  constructor
  · rw [hstats, hlight, hdeep, hgaveUp, hvetoed, hover, hentered]
    cases r <;> simp [SleepStats.after, SleepStats.record, IdleOutcome.elapsed?, ticksOf]
  · rw [htick, hover]
    cases r <;> simp [IdleOutcome.elapsed?, ticksOf]
  · rw [hhistory, hover]
    cases r <;> rfl
  · rw [hentered, hlight, hgaveUp, hvetoed, hbegan]
    cases r <;> rfl
  · rw [hpending, hbefore, hdeep, hbegan]
    exact Nat.add_comm _ _
  · rw [hnext]
    exact hasked

/-- A deep sleep is entered into the books when it is accounted for. -/
theorem booked_of_accounted {t : Turn} {e : Elapsed} {cycle : SleepCycle} (hentered : t.entered? = none)
    (houtcome : t.outcome? = none) (haccounted : t.accounted? = some e)
    (hbefore : m.pending = some cycle) (hasked : Asked s asked m)
    (hstats : m'.stats = m.stats.record .deep e)
    (htick : m'.platform.kernel.tickCount.toNat =
      m.platform.kernel.tickCount.toNat + e.wholeTicks.toNat)
    (hhistory : m'.history = m.history.push {
      mode := .deep, requestedTicks := cycle.requestedTicks, elapsed := e })
    (hpending : m'.pending = none) : Booked s asked m t m' := by
  have hlight : t.sleptLight = false := by simp [Turn.sleptLight, houtcome]
  have hdeep : t.sleptDeep = true := by simp [Turn.sleptDeep, haccounted]
  have hgaveUp : t.gaveUp = false := by simp [Turn.gaveUp, houtcome]
  have hvetoed : t.wasVetoed = false := by simp [Turn.wasVetoed, houtcome]
  have hbegan : t.beganDeep = false := by simp [Turn.beganDeep, houtcome]
  have hover : t.over? s asked = some {
      mode := .deep, requestedTicks := cycle.requestedTicks, elapsed := e } := by
    rw [hasked cycle hbefore]
    simp [Turn.over?, houtcome, haccounted]
  constructor
  · rw [hstats, hlight, hdeep, hgaveUp, hvetoed, hover, hentered]
    simp [SleepStats.record, ticksOf]
  · rw [htick, hover]
    simp [ticksOf]
  · rw [hhistory, hover]
    rfl
  · rw [hentered, hlight, hgaveUp, hvetoed, hbegan]
    rfl
  · rw [hpending, hbefore, hdeep, hbegan]
    rfl
  · intro cycle' hcycle
    rw [hpending] at hcycle
    cases hcycle

theorem booked_of_idle {ticks : UInt32} {r : IdleOutcome} (hs : m.settings.Valid) (hm : m.Settled)
    (hasked : Asked m.settings asked m) (h : answer (.idle ticks) m = .ok (.idled r) m')
    (hstep : IdleStep ticks m r m') : Booked m.settings asked m (turn (.idle ticks) m) m' := by
  by_cases hstate : m.state = .active
  · have hbefore : m.pending = none := hm.1 hstate
    have hstill : ∀ asked', Asked m.settings asked' m := fun asked' cycle hcycle => by
      rw [hbefore] at hcycle
      cases hcycle
    obtain ⟨hentered, houtcome, haccounted⟩ := entries_of_idle h hstate
    cases hstep with
    | refused hbusy => exact absurd hstate hbusy
    | aborted _ habort =>
      exact booked_of_outcome hentered houtcome haccounted hbefore rfl rfl rfl
        (congrArg Option.isSome hbefore) (hstill _)
    | light _ habort hdepth hsleep =>
      obtain ⟨k, hk, rfl, rfl⟩ := (Bench.sleepLightly_eq_ok hs).1 hsleep
      exact booked_of_outcome hentered houtcome haccounted hbefore rfl (Kernel.tickCount_of_step hk)
        rfl (congrArg Option.isSome hbefore) (hstill _)
    | vetoed _ habort hdepth hentry =>
      have htick := congrArg UInt64.toNat (Bench.tickCount_of_enterDeep hentry)
      exact booked_of_outcome hentered houtcome haccounted hbefore rfl htick rfl
        (congrArg Option.isSome hbefore) (hstill _)
    | retained _ habort hdepth hentry hdown =>
      have htick := (Bench.tickCount_of_powerDown hs hdown).trans (Bench.tickCount_of_enterDeep hentry)
      refine booked_of_outcome hentered houtcome haccounted hbefore rfl (congrArg UInt64.toNat htick)
        rfl rfl ?_
      intro cycle hcycle
      cases hcycle
      obtain ⟨c, -, -, -, -, hcycle, -⟩ := (Bench.powerDown_eq_ok hs).1 hdown
      rw [hcycle]
      exact deepTicks_word _ _
  · have hentered : (turn (.idle ticks) m).entered? = none := if_neg hstate
    have haccounted : (turn (.idle ticks) m).accounted? = none := by
      unfold Turn.accounted?
      rw [reply?_turn h]
    cases hstep with
    | refused _ =>
      exact booked_of_nothing hasked hentered (outcome?_turn_of_not_entered hentered) haccounted
        rfl rfl rfl rfl
    | aborted hactive habort => exact absurd hactive hstate
    | light hactive habort hdepth hsleep => exact absurd hactive hstate
    | vetoed hactive habort hdepth hentry => exact absurd hactive hstate
    | retained hactive habort hdepth hentry hdown => exact absurd hactive hstate

theorem booked_of_resume {r : Option Elapsed} (hs : m.settings.Valid)
    (hasked : Asked m.settings asked m) (h : answer .resume m = .ok (.resumed r) m')
    (hstep : ResumeStep m r m') : Booked m.settings asked m (turn .resume m) m' := by
  have hentered : (turn .resume m).entered? = none := rfl
  have houtcome := outcome?_turn_of_not_entered hentered
  have haccounted : (turn .resume m).accounted? = r := by
    unfold Turn.accounted?
    rw [reply?_turn h]
  cases hstep with
  | nothing hpending => exact booked_of_nothing hasked hentered houtcome haccounted rfl rfl rfl rfl
  | slept hpending hmeasure hstart =>
    obtain ⟨-, -, -, rfl⟩ := (Bench.reconcile_eq_ok hs).1 hmeasure
    obtain ⟨k, hk, rfl⟩ := (Bench.reactivate_eq_ok hs).1 hstart
    have htick := Kernel.tickCount_of_step hk
    exact booked_of_accounted hentered houtcome haccounted hpending hasked rfl htick rfl rfl

theorem booked_of_answer (hs : m.settings.Valid) (hm : m.Settled) (hasked : Asked m.settings asked m)
    (h : answer call m = .ok reply m') : Booked m.settings asked m (turn call m) m' := by
  cases callStep_of_answer hs h with
  | idle hidle => exact booked_of_idle hs hm hasked h hidle
  | resume hresume => exact booked_of_resume hs hasked h hresume
  | @elapse us c hc =>
    have hentered : (turn (.elapse us) m).entered? = none := rfl
    refine booked_of_nothing hasked hentered (outcome?_turn_of_not_entered hentered) ?_ rfl rfl rfl rfl
    unfold Turn.accounted?
    rw [reply?_turn h]

/-! ## The books of a run -/

/-- What the calls of a run add to the books of a manager, all together. -/
structure Books (s : Settings) (asked : UInt32) (m : PowerManager Bench) (turns : List Turn)
    (m' : PowerManager Bench) : Prop where
  lightSleeps : m'.stats.lightSleeps =
    m.stats.lightSleeps + UInt32.ofNat (turns.countP Turn.sleptLight)
  deepSleeps : m'.stats.deepSleeps = m.stats.deepSleeps + UInt32.ofNat (turns.countP Turn.sleptDeep)
  aborts : m'.stats.aborts = m.stats.aborts + UInt32.ofNat (turns.countP Turn.gaveUp)
  vetoes : m'.stats.vetoes = m.stats.vetoes + UInt32.ofNat (turns.countP Turn.wasVetoed)
  ticksStepped : m'.stats.ticksStepped =
    m.stats.ticksStepped + UInt64.ofNat (ticksOf (sleepsOver s asked turns))
  lastRequestedTicks : m'.stats.lastRequestedTicks =
    (turns.filterMap Turn.entered?).getLast?.getD m.stats.lastRequestedTicks
  tickCount : m'.platform.kernel.tickCount.toNat =
    m.platform.kernel.tickCount.toNat + ticksOf (sleepsOver s asked turns)
  history : m'.history = (sleepsOver s asked turns).foldl (fun r a => r.push a) m.history
  outcomes : turns.countP (·.entered?.isSome) =
    turns.countP Turn.sleptLight + turns.countP Turn.gaveUp + turns.countP Turn.wasVetoed +
      turns.countP Turn.beganDeep
  pending : m'.pending.isSome.toNat + turns.countP Turn.sleptDeep =
    m.pending.isSome.toNat + turns.countP Turn.beganDeep

theorem books_nil (s : Settings) (asked : UInt32) (m : PowerManager Bench) : Books s asked m [] m := by
  constructor <;> simp [sleepsOver, ticksOf]

theorem countP_cons_eq (p : Turn → Bool) (t : Turn) (rest : List Turn) :
    (t :: rest).countP p = (p t).toNat + rest.countP p := by
  rw [List.countP_cons, Nat.add_comm]
  cases p t <;> rfl

theorem books_cons {t : Turn} {rest : List Turn} {m'' : PowerManager Bench}
    (h : Booked s asked m t m') (hrest : Books s (t.asked asked) m' rest m'') :
    Books s asked m (t :: rest) m'' := by
  have hover : ticksOf (sleepsOver s asked (t :: rest)) =
      ticksOf (t.over? s asked).toList + ticksOf (sleepsOver s (t.asked asked) rest) :=
    ticksOf_append _ _
  constructor
  · rw [hrest.lightSleeps, h.stats, countP_cons_eq, UInt32.ofNat_add, UInt32.add_assoc]
  · rw [hrest.deepSleeps, h.stats, countP_cons_eq, UInt32.ofNat_add, UInt32.add_assoc]
  · rw [hrest.aborts, h.stats, countP_cons_eq, UInt32.ofNat_add, UInt32.add_assoc]
  · rw [hrest.vetoes, h.stats, countP_cons_eq, UInt32.ofNat_add, UInt32.add_assoc]
  · rw [hrest.ticksStepped, h.stats, hover, UInt64.ofNat_add, UInt64.add_assoc]
  · rw [hrest.lastRequestedTicks, h.stats, List.filterMap_cons]
    cases t.entered? with
    | none => rfl
    | some ticks => simp [List.getLast?_cons]
  · rw [hrest.tickCount, h.tickCount, hover, Nat.add_assoc]
  · rw [hrest.history, h.history, sleepsOver, List.foldl_append]
  · have houtcomes := hrest.outcomes
    have houtcome := h.outcome
    simp only [countP_cons_eq]
    omega
  · have hpending := hrest.pending
    have hfirst := h.pending
    simp only [countP_cons_eq]
    omega

/-- The books do not see a change around the manager that leaves the tick counter alone. -/
theorem Books.of_changed {change : Change} {turns : List Turn}
    (hkernel : ∀ k, (change.kernel k).tickCount = k.tickCount)
    (h : Books s asked (m.changed change) turns m') : Books s asked m turns m' :=
  { h with tickCount := h.tickCount.trans (by rw [changed, hkernel]) }

theorem books_of_run {calls : List (Change × Call)} (hs : m.settings.Valid) (hm : m.Settled)
    (hasked : Asked m.settings asked m)
    (hkernel : ∀ c ∈ calls, ∀ k, (c.1.kernel k).tickCount = k.tickCount)
    (hret : Returned (run calls m)) :
    Books m.settings asked m (run calls m) (leftBy (run calls m) m) := by
  induction calls generalizing m asked with
  | nil => exact books_nil _ _ _
  | cons first rest ih =>
    obtain ⟨change, call⟩ := first
    obtain ⟨reply, m', hcall, hrest, hrun⟩ := returned_run_cons hret
    have hstep := callStep_of_answer (m := m.changed change) hs hcall
    have hbooked := booked_of_answer (m := m.changed change) hs hm hasked hcall
    have hset : m'.settings = m.settings := hstep.settings_eq
    rw [leftBy_run_cons hcall, hrun]
    refine Books.of_changed (hkernel _ List.mem_cons_self) (books_cons hbooked ?_)
    have hasked' : Asked m'.settings ((turn call (m.changed change)).asked asked) m' := by
      rw [hset]
      exact hbooked.asked
    have hbooks := ih (by rw [hset]; exact hs) (hstep.settled hm) hasked'
      (fun c hc => hkernel c (List.mem_cons_of_mem _ hc)) hrest
    rwa [hset] at hbooks

end PowerManager

/-- After every run of a new manager whose calls all come to their end, its counters, its history
and the tick counter of the scheduler agree with the run. -/
theorem records_agree_with_run {s : Settings} {entry : ResumeEntry} {b : Bench}
    {m : PowerManager Bench} {calls : List (Change × Call)}
    (hcreate : PowerManager.create s entry b = .ok m)
    (hkernel : ∀ c ∈ calls, ∀ k, (c.1.kernel k).tickCount = k.tickCount)
    (hret : Returned (run calls m)) :
    let turns := run calls m
    let m' := leftBy turns m
    let finished := sleepsOver s 0 turns
    m'.stats.lightSleeps + m'.stats.deepSleeps + m'.stats.aborts + m'.stats.vetoes +
        (if m'.pending.isSome then 1 else 0) = UInt32.ofNat (turns.countP (·.entered?.isSome)) ∧
      m'.stats.lightSleeps = UInt32.ofNat (turns.countP Turn.sleptLight) ∧
      m'.stats.deepSleeps = UInt32.ofNat (turns.countP Turn.sleptDeep) ∧
      m'.stats.aborts = UInt32.ofNat (turns.countP Turn.gaveUp) ∧
      m'.stats.vetoes = UInt32.ofNat (turns.countP Turn.wasVetoed) ∧
      m'.stats.ticksStepped = UInt64.ofNat (ticksOf finished) ∧
      m'.platform.kernel.tickCount.toNat = b.kernel.tickCount.toNat + ticksOf finished ∧
      m'.stats.lastRequestedTicks = (turns.filterMap Turn.entered?).getLast?.getD 0 ∧
      m'.history.entries = finished.drop (finished.length - historyDepth) := by
  intro turns m' finished
  obtain ⟨hs, rfl⟩ := create_eq_ok.1 hcreate
  have hasked : Asked s 0 { platform := Logger.record (.ready s) b, settings := s, entry } := by
    intro cycle hcycle
    cases hcycle
  have hbooks : Books s 0 _ turns m' := books_of_run hs ⟨fun _ => rfl, fun _ => rfl⟩ hasked hkernel hret
  have hlight : m'.stats.lightSleeps = _ := hbooks.lightSleeps.trans (UInt32.zero_add _)
  have hdeep : m'.stats.deepSleeps = _ := hbooks.deepSleeps.trans (UInt32.zero_add _)
  have haborts : m'.stats.aborts = _ := hbooks.aborts.trans (UInt32.zero_add _)
  have hvetoes : m'.stats.vetoes = _ := hbooks.vetoes.trans (UInt32.zero_add _)
  refine ⟨?_, hlight, hdeep, haborts, hvetoes, hbooks.ticksStepped.trans (UInt64.zero_add _),
    hbooks.tickCount, hbooks.lastRequestedTicks, ?_⟩
  · -- every entered call has an outcome, and a deep sleep that began is over or pending
    have houtcomes := hbooks.outcomes
    have hpending : _ = 0 + turns.countP Turn.beganDeep := hbooks.pending
    have hopen : (if m'.pending.isSome then 1 else 0) = UInt32.ofNat m'.pending.isSome.toNat := by
      cases m'.pending <;> rfl
    rw [hlight, hdeep, haborts, hvetoes, hopen, ← UInt32.ofNat_add, ← UInt32.ofNat_add,
      ← UInt32.ofNat_add, ← UInt32.ofNat_add]
    exact congrArg UInt32.ofNat (by omega)
  · rw [hbooks.history, Recent.entries_foldl_push]
    show ([] ++ finished).drop (0 + finished.length - historyDepth) = _
    rw [List.nil_append, Nat.zero_add]

/-- A light sleep, a call that is given up, a deep sleep with a call during it, and a deep sleep that
the application cancels. -/
def mixedCalls : List (Change × Call) :=
  [({}, .idle 3),
    ({ kernel := fun k => { k with abort := true } }, .idle 4),
    ({ kernel := fun k => { k with abort := false } }, .idle 500),
    ({}, .idle 7),
    ({}, .resume),
    ({ application := fun _ => .vetoing }, .idle 600)]

theorem mixed_calls_agree : ∃ c m, Chip.fresh {} = .ok c ∧
    PowerManager.create {} ⟨0x08004000⟩ { chip := c : Bench } = .ok m ∧ Returned (run mixedCalls m) ∧
      (run mixedCalls m).countP (·.entered?.isSome) = 4 ∧
      (leftBy (run mixedCalls m) m).stats.deepSleeps =
        UInt32.ofNat ((run mixedCalls m).countP Turn.sleptDeep) ∧
      (leftBy (run mixedCalls m) m).history.entries =
        (sleepsOver {} 0 (run mixedCalls m)).drop
          ((sleepsOver {} 0 (run mixedCalls m)).length - historyDepth) := by
  have hruns : ∃ c m, Chip.fresh {} = .ok c ∧
      PowerManager.create {} ⟨0x08004000⟩ { chip := c : Bench } = .ok m ∧
      (Returned (run mixedCalls m) ∧ (run mixedCalls m).countP (·.entered?.isSome) = 4) :=
    ⟨_, _, rfl, rfl, by decide +kernel⟩
  obtain ⟨c, m, hchip, hcreate, hret, hcount⟩ := hruns
  have hkernel : ∀ c ∈ mixedCalls, ∀ k, (c.1.kernel k).tickCount = k.tickCount := by
    simp [mixedCalls]
  obtain ⟨-, -, hdeep, -, -, -, -, -, hhistory⟩ := records_agree_with_run hcreate hkernel hret
  exact ⟨c, m, hchip, hcreate, hret, hcount, hdeep, hhistory⟩

end Tickless
