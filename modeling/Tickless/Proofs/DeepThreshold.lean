import Mathlib.Algebra.Order.Floor.Div
import Tickless.Proofs.AlarmLead
import Tickless.Proofs.IdleDecision

/-!
# The threshold of deep sleep

A request is sent to deep sleep if it reaches a threshold in milliseconds, and settings are refused if the
longest deep sleep does not reach it. But what is planned is a whole number of ticks, and the longest deep
sleep is rounded down to one. Whether every planned request reaches the threshold, and whether it leaves
time for the alarm, is decided by the least number of ticks that is sent.
-/

namespace Tickless

namespace Settings

/-- The choice of depth can send a request to deep sleep, with the gate and the application on its side. -/
def SentDeep (s : Settings) (ticks : UInt32) : Prop :=
  ∃ (g : Gate) (b b' : Bench), chooseDepth s ticks g.isHeld b = .ok .deep b'

/-- The least number of ticks that reaches the threshold. -/
def leastDeepTicks (s : Settings) : Nat :=
  (s.minDeepSleepMs.toNat * 1000) ⌈/⌉ s.period

/-- The request that is planned is a tick at least and reaches the threshold. -/
def PlansThreshold (s : Settings) (ticks : UInt32) : Prop :=
  1 ≤ s.deepTicks ticks ∧ s.minDeepSleepMs.toNat * 1000 ≤ s.deepTicks ticks * s.period

instance (s : Settings) (ticks : UInt32) : Decidable (s.PlansThreshold ticks) :=
  inferInstanceAs (Decidable (_ ∧ _))

theorem deepTicks_of_le {s : Settings} {ticks : UInt32} (h : ticks.toNat ≤ s.deepLimit) :
    s.deepTicks ticks = ticks.toNat :=
  Nat.min_eq_left h

namespace Valid

variable {s : Settings} (hs : s.Valid) {ticks : UInt32} {n : Nat}

include hs

theorem leastDeepTicks_le_iff :
    s.leastDeepTicks ≤ n ↔ s.minDeepSleepMs.toNat * 1000 ≤ n * s.period := by
  unfold leastDeepTicks
  rw [ceilDiv_le_iff_le_mul hs.period_pos, Nat.mul_comm s.period]

theorem leastDeepTicks_pos : 0 < s.leastDeepTicks := by
  have hthreshold := hs.threshold_pos
  rw [Nat.pos_iff_ne_zero]
  intro hnone
  have hle := hs.leastDeepTicks_le_iff.1 (Nat.le_of_eq hnone)
  omega

/-- With gate and application aside, the number of ticks decides. -/
theorem sentDeep_iff : s.SentDeep ticks ↔ s.leastDeepTicks ≤ ticks.toNat := by
  rw [hs.leastDeepTicks_le_iff]
  constructor
  · rintro ⟨g, b, b', h⟩
    rw [Bench.chooseDepth_eq hs, EStateM.Result.ok.injEq, depth_eq_deep_iff] at h
    obtain ⟨⟨heligible, -⟩, -⟩ := h
    exact ((s.eligible_iff ticks g).1 heligible).1
  · intro h
    -- nobody holds a new gate, and this application consents to everything
    let b : Bench := { application := .standard }
    have hdepth : s.depth ticks (Gate.isHeld {}) b.application = .deep :=
      depth_eq_deep_iff.2 ⟨(s.eligible_iff ticks {}).2 ⟨h, rfl⟩, rfl⟩
    refine ⟨{}, b, b.afterChoice s ticks (Gate.isHeld {}), ?_⟩
    rw [Bench.chooseDepth_eq hs, hdepth]

/-- The least number of ticks is sent to deep sleep, if it is a number of ticks at all. -/
theorem exists_sentDeep_least (h : s.leastDeepTicks ≤ 2 ^ 32 - 1) :
    ∃ ticks, s.SentDeep ticks ∧ ticks.toNat = s.leastDeepTicks := by
  have hleast : (UInt32.ofNat s.leastDeepTicks).toNat = s.leastDeepTicks := toNat_word (by omega)
  exact ⟨_, hs.sentDeep_iff.2 (Nat.le_of_eq hleast.symm), hleast⟩

theorem leastDeepTicks_le_deepLimit_iff :
    s.leastDeepTicks ≤ s.deepLimit ↔
      s.leastDeepTicks * s.period ≤ s.maxSleepMs.toNat * 1000 ∧ s.leastDeepTicks ≤ 2 ^ 32 - 1 := by
  unfold deepLimit
  rw [Nat.le_min, Nat.le_div_iff_mul_le hs.period_pos]

theorem plansThreshold_iff : s.PlansThreshold ticks ↔ s.leastDeepTicks ≤ s.deepTicks ticks := by
  have hpos := hs.leastDeepTicks_pos
  unfold PlansThreshold
  rw [← hs.leastDeepTicks_le_iff]
  exact ⟨fun h => h.2, fun h => ⟨Nat.le_trans hpos h, h⟩⟩

theorem plansThreshold_of_sentDeep (h : s.SentDeep ticks) :
    s.PlansThreshold ticks ↔ (s.deepLimit < ticks.toNat → s.leastDeepTicks ≤ s.deepLimit) := by
  have hsent := hs.sentDeep_iff.1 h
  rw [hs.plansThreshold_iff]
  -- what is planned is the request or the limit, and the request is long enough
  unfold deepTicks
  omega

theorem forall_plansThreshold_iff :
    (∀ ticks, s.SentDeep ticks → s.PlansThreshold ticks) ↔
      (s.leastDeepTicks ≤ 2 ^ 32 - 1 → s.leastDeepTicks * s.period ≤ s.maxSleepMs.toNat * 1000) := by
  constructor
  · intro hall hword
    -- any request that is sent shows that the limit reaches the threshold
    obtain ⟨ticks, hsent, -⟩ := hs.exists_sentDeep_least hword
    have hlimit : s.leastDeepTicks ≤ s.deepLimit :=
      Nat.le_trans (hs.plansThreshold_iff.1 (hall ticks hsent)) (Nat.min_le_right _ _)
    exact (hs.leastDeepTicks_le_deepLimit_iff.1 hlimit).1
  · intro hbound ticks hsent
    have hlt := word_lt ticks
    have hword : s.leastDeepTicks ≤ 2 ^ 32 - 1 := by
      have hle := hs.sentDeep_iff.1 hsent
      omega
    rw [hs.plansThreshold_of_sentDeep hsent]
    intro _
    exact hs.leastDeepTicks_le_deepLimit_iff.2 ⟨hbound hword, hword⟩

end Valid

end Settings

/-! ## What is planned of a request -/

/-- A request that is sent to deep sleep is planned below the threshold exactly if it is cut to a limit
below the threshold. There are such requests exactly if the least number of ticks that reaches the
threshold lasts longer than the longest deep sleep. -/
theorem planned_reaches_threshold_iff {s : Settings} (hs : s.validate = .ok s) :
    (∀ ticks, s.SentDeep ticks →
      (∃ limit, s.maxDeepSleepTicks = .ok limit ∧ ∀ count,
        ((SleepRequest.mk ticks count).clamped limit).idleTicks = UInt32.ofNat (s.deepTicks ticks)) ∧
      (∀ (entry : EntrySnapshot) (b : Bench) (cycle : SleepCycle) (b' : Bench),
        powerDown s ticks entry b = .ok cycle b' → cycle.requestedTicks.toNat = s.deepTicks ticks) ∧
      (s.PlansThreshold ticks ↔ (s.deepLimit < ticks.toNat → s.leastDeepTicks ≤ s.deepLimit))) ∧
      ((∀ ticks, s.SentDeep ticks → s.PlansThreshold ticks) ↔
        (s.leastDeepTicks ≤ 2 ^ 32 - 1 →
          s.leastDeepTicks * s.period ≤ s.maxSleepMs.toNat * 1000)) := by
  obtain ⟨hv, -⟩ := Settings.validate_eq_ok.1 hs
  refine ⟨?_, hv.forall_plansThreshold_iff⟩
  intro ticks hsent
  refine ⟨⟨_, hv.maxDeepSleepTicks_eq, fun count => s.deepClamped_ticks ticks count⟩, ?_,
    hv.plansThreshold_of_sentDeep hsent⟩
  intro entry b cycle b' hdown
  obtain ⟨c, -, -, -, -, rfl, -⟩ := (Bench.powerDown_eq_ok hv).1 hdown
  exact s.toNat_deepTicks ticks

/-- A minute that is cut to a second still reaches the threshold. -/
theorem minute_cut_to_second :
    Settings.SentDeep { maxSleepMs := 1000 } 60000 ∧
      Settings.deepTicks { maxSleepMs := 1000 } 60000 = 1000 ∧
      Settings.PlansThreshold { maxSleepMs := 1000 } 60000 := by
  have hs : Settings.validate { maxSleepMs := 1000 } = .ok { maxSleepMs := 1000 } := by decide
  obtain ⟨hv, -⟩ := Settings.validate_eq_ok.1 hs
  have hsent : Settings.SentDeep { maxSleepMs := 1000 } 60000 := hv.sentDeep_iff.2 (by decide)
  obtain ⟨hplanned, -⟩ := planned_reaches_threshold_iff hs
  obtain ⟨-, -, hreaches⟩ := hplanned 60000 hsent
  refine ⟨hsent, by decide, hreaches.2 ?_⟩
  intro _
  decide

/-- With a tick of ten milliseconds and a longest sleep of five, one tick is sent to deep sleep and none is
planned. -/
theorem empty_deep_sleep :
    ∃ s : Settings, s.validate = .ok s ∧ s.SentDeep 1 ∧ ¬ s.PlansThreshold 1 ∧
      ∃ cycle b', powerDown s 1 { timerCount := 239999, freeCounterUs := 0 } ({} : Bench) = .ok cycle b' ∧
        cycle.requestedTicks = 0 := by
  let s : Settings := { tickRateHz := 100, maxSleepMs := 5 }
  have hs : s.validate = .ok s := by decide
  obtain ⟨hv, -⟩ := Settings.validate_eq_ok.1 hs
  have hsent : s.SentDeep 1 := hv.sentDeep_iff.2 (by decide)
  have hruns : Act.passes (powerDown s 1 { timerCount := 239999, freeCounterUs := 0 })
      (fun cycle _ => cycle.requestedTicks = 0) ({} : Bench) = true := by
    decide
  obtain ⟨cycle, b', hdown, h⟩ := Act.passes_iff.1 hruns
  exact ⟨s, hs, hsent, by decide, cycle, b', hdown, of_decide_eq_true h⟩

/-! ## What a request leaves for the alarm -/

namespace Settings

/-- The budget of a request that is planned as it is, from the start of a tick and with no time lost on the
way down. -/
def wholeBudgetUs (s : Settings) (ticks : UInt32) : UInt64 :=
  alarmBudgetUs (UInt64.ofNat (ticks.toNat * s.period)) 0 s.wakeLatencyUs 0

theorem toNat_wholeBudgetUs (s : Settings) (ticks : UInt32) :
    (s.wholeBudgetUs ticks).toNat = ticks.toNat * s.period - s.wakeLatencyUs.toNat := by
  have hfits := Nat.mul_le_mul (Nat.le_of_lt (word_lt ticks)) s.period_le
  unfold wholeBudgetUs
  rw [toNat_alarmBudgetUs, toNat_long (by omega)]
  rfl

theorem wholeBudgetUs_pos_iff (s : Settings) (ticks : UInt32) :
    0 < (s.wholeBudgetUs ticks).toNat ↔ s.wakeLatencyUs.toNat < ticks.toNat * s.period := by
  rw [s.toNat_wholeBudgetUs]
  exact Nat.sub_pos_iff_lt

theorem phaseAt_start {s : Settings} {timerCount : UInt32} (h : timerCount.toNat = s.perTick - 1) :
    s.phaseAt timerCount = 0 := by
  unfold phaseAt
  rw [h, Nat.sub_self, Nat.zero_mul, Nat.zero_div]

theorem plannedCycle_wholeBudget {s : Settings} {ticks rtcBefore : UInt32} {entry : EntrySnapshot}
    {c : Chip} (hticks : ticks.toNat ≤ s.deepLimit) (hcount : entry.timerCount.toNat = s.perTick - 1)
    (hfree : c.power.freeCounterUs = entry.freeCounterUs) :
    (s.plannedCycle ticks entry c rtcBefore).alarmBudget s = s.wholeBudgetUs ticks := by
  unfold SleepCycle.alarmBudget plannedCycle DeepPlan.cycle deepPlan wholeBudgetUs
  rw [s.toNat_deepTicks, deepTicks_of_le hticks, phaseAt_start hcount, hfree, UInt32.sub_self]
  rfl

/-- Every request that is sent and not cut leaves time for the alarm exactly if the least one does. -/
theorem Valid.forall_wholeBudgetUs_pos_iff {s : Settings} (hs : s.Valid) :
    (∀ ticks, s.SentDeep ticks → ticks.toNat ≤ s.deepLimit → 0 < (s.wholeBudgetUs ticks).toNat) ↔
      (s.leastDeepTicks ≤ s.deepLimit → s.wakeLatencyUs.toNat < s.leastDeepTicks * s.period) := by
  constructor
  · intro hall hlimit
    obtain ⟨ticks, hsent, hleast⟩ := hs.exists_sentDeep_least (Nat.le_trans hlimit s.deepLimit_le)
    rw [← hleast] at hlimit ⊢
    exact (s.wholeBudgetUs_pos_iff ticks).1 (hall ticks hsent hlimit)
  · intro hbound ticks hsent hlimit
    have hle := hs.sentDeep_iff.1 hsent
    rw [s.wholeBudgetUs_pos_iff]
    calc s.wakeLatencyUs.toNat
        < s.leastDeepTicks * s.period := hbound (Nat.le_trans hle hlimit)
      _ ≤ ticks.toNat * s.period := Nat.mul_le_mul_right _ hle

end Settings

/-- Without a budget the alarm is armed at the least lead. -/
theorem lead_of_no_budget {s : Settings} (hs : s.Valid) {ticks : UInt32} {entry : EntrySnapshot}
    {cycle : SleepCycle} {b b' : Bench} (hdown : powerDown s ticks entry b = .ok cycle b')
    (hbudget : (cycle.alarmBudget s).toNat = 0) : cycle.lead = minAlarmLead := by
  obtain ⟨c, -, hfits, -, -, rfl, -⟩ := (Bench.powerDown_eq_ok hs).1 hdown
  rw [← UInt32.toNat_inj, hs.toNat_plannedCycle_lead hfits]
  unfold SleepCycle.unclampedLead
  rw [hbudget, Nat.zero_mul]
  rfl

/-- A request that is sent to deep sleep and not cut leaves time for the alarm exactly if it outlasts the
wake path. If it does not, there is no budget and the alarm is armed at the least lead. All such requests
leave time exactly if the least number of ticks does, or if the longest deep sleep is below the threshold. -/
theorem time_for_alarm_iff {s : Settings} (hs : s.validate = .ok s) :
    (∀ ticks, s.SentDeep ticks → ticks.toNat ≤ s.deepLimit →
      (0 < (s.wholeBudgetUs ticks).toNat ↔ s.wakeLatencyUs.toNat < ticks.toNat * s.period) ∧
      ∀ (entry : EntrySnapshot) (b : Bench) (cycle : SleepCycle) (b' : Bench),
        entry.timerCount.toNat = s.perTick - 1 → b.chip.power.freeCounterUs = entry.freeCounterUs →
          powerDown s ticks entry b = .ok cycle b' →
            cycle.alarmBudget s = s.wholeBudgetUs ticks ∧
            (ticks.toNat * s.period ≤ s.wakeLatencyUs.toNat →
              cycle.alarmBudget s = 0 ∧ cycle.alarm = cycle.rtcBefore + minAlarmLead)) ∧
      ((∀ ticks, s.SentDeep ticks → ticks.toNat ≤ s.deepLimit → 0 < (s.wholeBudgetUs ticks).toNat) ↔
        (s.leastDeepTicks ≤ s.deepLimit → s.wakeLatencyUs.toNat < s.leastDeepTicks * s.period)) := by
  obtain ⟨hv, -⟩ := Settings.validate_eq_ok.1 hs
  refine ⟨?_, hv.forall_wholeBudgetUs_pos_iff⟩
  intro ticks hsent hlimit
  refine ⟨s.wholeBudgetUs_pos_iff ticks, ?_⟩
  intro entry b cycle b' hcount hfree hdown
  have hbudget : cycle.alarmBudget s = s.wholeBudgetUs ticks := by
    obtain ⟨c, -, -, -, -, rfl, -⟩ := (Bench.powerDown_eq_ok hv).1 hdown
    exact Settings.plannedCycle_wholeBudget hlimit hcount hfree
  refine ⟨hbudget, ?_⟩
  intro hlate
  have hnone : (cycle.alarmBudget s).toNat = 0 := by
    rw [hbudget, s.toNat_wholeBudgetUs]
    exact Nat.sub_eq_zero_of_le hlate
  refine ⟨UInt64.toNat_inj.1 hnone, ?_⟩
  rw [← cycle.rtcBefore_add_lead, lead_of_no_budget hv hdown hnone]

/-- A wake path that is a microsecond shorter than the threshold leaves time for every alarm. -/
theorem wake_path_just_below_threshold :
    Settings.SentDeep { wakeLatencyUs := 4999 } 5 ∧
      0 < (Settings.wholeBudgetUs { wakeLatencyUs := 4999 } 5).toNat := by
  have hs : Settings.validate { wakeLatencyUs := 4999 } = .ok { wakeLatencyUs := 4999 } := by decide
  obtain ⟨hv, -⟩ := Settings.validate_eq_ok.1 hs
  have hsent : Settings.SentDeep { wakeLatencyUs := 4999 } 5 := hv.sentDeep_iff.2 (by decide)
  obtain ⟨-, hall⟩ := time_for_alarm_iff hs
  refine ⟨hsent, hall.2 ?_ 5 hsent (by decide)⟩
  intro _
  decide

/-- With a wake path of fifty milliseconds a request of five is sent to deep sleep, but nothing is left for
the alarm. -/
theorem wake_path_above_request :
    ∃ s : Settings, s.validate = .ok s ∧ s.SentDeep 5 ∧ (5 : UInt32).toNat ≤ s.deepLimit ∧
      ¬ 0 < (s.wholeBudgetUs 5).toNat := by
  let s : Settings := { wakeLatencyUs := 50000 }
  have hs : s.validate = .ok s := by decide
  obtain ⟨hv, -⟩ := Settings.validate_eq_ok.1 hs
  exact ⟨s, hs, hv.sentDeep_iff.2 (by decide), by decide, by decide⟩

end Tickless
