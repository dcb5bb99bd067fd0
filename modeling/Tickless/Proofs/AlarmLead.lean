import Tickless.Proofs.RequestBound

/-!
# How far ahead an alarm is armed

The alarm of a deep sleep goes off in the last cycle that is over before the budget is, unless that cycle is
too near for the counter to be ahead of it, or so far that the counter would have passed half of its range.
The bounds take over only there. The product of budget and frequency is narrowed to a word on the way, and
the counter wraps, but neither shows in the lead.
-/

namespace Tickless

namespace SleepCycle

/-- The cycles by which the alarm of a sleep is ahead of the sample that was taken for it. -/
def lead (c : SleepCycle) : UInt32 :=
  c.alarm - c.rtcBefore

theorem rtcBefore_add_lead (c : SleepCycle) : c.rtcBefore + c.lead = c.alarm := by
  unfold lead
  rw [UInt32.add_comm, UInt32.sub_add_cancel]

/-- The budget is what the phase, the wake path and the way down leave of the request, or nothing. -/
theorem toNat_alarmBudget (s : Settings) (c : SleepCycle) :
    (c.alarmBudget s).toNat = c.requestedTicks.toNat * s.period -
      (c.carriedUs.toNat + s.wakeLatencyUs.toNat + c.latencyUs.toNat) := by
  have hrequested := word_lt c.requestedTicks
  have hfits := Nat.mul_le_mul (Nat.le_of_lt hrequested) s.period_le
  unfold alarmBudget
  rw [toNat_alarmBudgetUs, toNat_long (by omega), Nat.sub_sub, Nat.sub_sub, Nat.add_assoc]

end SleepCycle

/-! ## The planned lead -/

section

variable {s : Settings} (hs : s.Valid) {ticks rtcBefore : UInt32} {entry : EntrySnapshot} {c : Chip}

/-- A planned lead is the lead for the budget at the frequency of the oscillator. -/
theorem Settings.plannedCycle_lead :
    (s.plannedCycle ticks entry c rtcBefore).lead = alarmLead (s.wantedLead ticks entry.timerCount
      (c.power.freeCounterUs - entry.freeCounterUs) c.rtc.oscillatorHz) := by
  show rtcBefore + (s.deepPlan ticks entry c).lead - rtcBefore = _
  rw [UInt32.add_comm, UInt32.add_sub_cancel]
  rfl

include hs

theorem Settings.Valid.plannedCycle_alarmBudget :
    ((s.plannedCycle ticks entry c rtcBefore).alarmBudget s).toNat =
      s.budgetUs ticks entry.timerCount (c.power.freeCounterUs - entry.freeCounterUs) :=
  SleepCycle.alarmBudget_of_planned hs rfl rfl

/-- As long as the budget and the frequency have a product, the lead is the whole cycles of the budget,
brought within the bounds. -/
theorem Settings.Valid.toNat_plannedCycle_lead
    (hfits : s.budgetUs ticks entry.timerCount (c.power.freeCounterUs - entry.freeCounterUs) *
      c.rtc.oscillatorHz.toNat < 2 ^ 64) :
    (s.plannedCycle ticks entry c rtcBefore).lead.toNat =
      max minAlarmLead.toNat
        (min ((s.plannedCycle ticks entry c rtcBefore).unclampedLead s) maxAlarmLead.toNat) := by
  unfold SleepCycle.unclampedLead
  rw [plannedCycle_lead, toNat_alarmLead, toNat_wantedLead hfits, hs.plannedCycle_alarmBudget]
  rfl

end

/-! ## The armed alarm -/

section

variable {s : Settings} {ticks : UInt32} {entry : EntrySnapshot} {cycle : SleepCycle} {b b' : Bench}

/-- A power-down arms the alarm ahead of the counter, and in the last cycle that the budget allows unless
that is out of bounds. An alarm that was armed before is replaced and its event forgotten. -/
theorem alarm_at_latest_cycle (hs : s.validate = .ok s)
    (hdown : powerDown s ticks entry b = .ok cycle b') :
    (cycle.alarmBudget s).toNat = cycle.requestedTicks.toNat * s.period -
        (cycle.carriedUs.toNat + s.wakeLatencyUs.toNat + cycle.latencyUs.toNat) ∧
      cycle.oscillatorHz = b.chip.rtc.oscillatorHz ∧
      minAlarmLead ≤ cycle.lead ∧ cycle.lead ≤ maxAlarmLead ∧
      (minAlarmLead < cycle.lead → cycle.lead < maxAlarmLead →
        cycle.lead.toNat * 1000000 ≤ (cycle.alarmBudget s).toNat * cycle.oscillatorHz.toNat ∧
          (cycle.alarmBudget s).toNat * cycle.oscillatorHz.toNat < (cycle.lead.toNat + 1) * 1000000) ∧
      (cycle.lead = minAlarmLead ↔ (cycle.alarmBudget s).toNat * cycle.oscillatorHz.toNat <
        (minAlarmLead.toNat + 1) * 1000000) ∧
      (cycle.lead = maxAlarmLead ↔
        maxAlarmLead.toNat * 1000000 ≤ (cycle.alarmBudget s).toNat * cycle.oscillatorHz.toNat) ∧
      b'.chip.rtc.counter = cycle.rtcBefore ∧
      b'.chip.rtc.alarm = some (cycle.rtcBefore + cycle.lead) ∧
      b'.chip.rtc.alarmEnabled = true ∧ b'.chip.rtc.alarmPending = false := by
  obtain ⟨hv, -⟩ := Settings.validate_eq_ok.1 hs
  obtain ⟨c, hc, hfits, -, -, hcycle, rfl⟩ := (Bench.powerDown_eq_ok hv).1 hdown
  have hhz : cycle.oscillatorHz = b.chip.rtc.oscillatorHz := by
    rw [hcycle]
    rfl
  have hcounter : c.rtc.counter = cycle.rtcBefore := by
    rw [hcycle]
    rfl
  have hlead : cycle.lead.toNat =
      max minAlarmLead.toNat (min (cycle.unclampedLead s) maxAlarmLead.toNat) := by
    rw [hcycle]
    exact hv.toNat_plannedCycle_lead hfits
  have hmin := toNat_minAlarmLead
  have hmax := toNat_maxAlarmLead
  -- from here on it is arithmetic: a division by a million between two bounds
  unfold SleepCycle.unclampedLead at hlead
  refine ⟨cycle.toNat_alarmBudget s, hhz, ?_, ?_, ?_, ?_, ?_, hcounter, ?_, rfl, rfl⟩
  · rw [UInt32.le_iff_toNat_le]
    omega
  · rw [UInt32.le_iff_toNat_le]
    omega
  · intro hmore hless
    rw [UInt32.lt_iff_toNat_lt] at hmore hless
    omega
  · rw [← UInt32.toNat_inj]
    omega
  · rw [← UInt32.toNat_inj]
    omega
  · rw [cycle.rtcBefore_add_lead]
    rfl

end

/-- A bench whose counter is at its last value and whose alarm went off before. -/
def Bench.wrapping : Bench :=
  { chip := { rtc := {
      counter := 4294967295
      alarm := some 4294967290
      alarmEnabled := true
      alarmPending := true } } }

/-- Of half a second the wake path leaves 16325 cycles, and the alarm is set past the end of the counter. -/
theorem half_second_alarm_past_end :
    ∃ cycle b',
      powerDown {} 500 { timerCount := 23999, freeCounterUs := 0 } Bench.wrapping = .ok cycle b' ∧
      cycle.rtcBefore = 4294967295 ∧ cycle.lead = 16325 ∧ (cycle.alarmBudget {}).toNat = 498200 ∧
      16325 * 1000000 ≤ 498200 * cycle.oscillatorHz.toNat ∧
      498200 * cycle.oscillatorHz.toNat < 16326 * 1000000 ∧
      b'.chip.rtc.alarm = some (4294967295 + 16325) ∧ b'.chip.rtc.alarmPending = false := by
  have hs : Settings.validate {} = .ok {} := by decide
  have hruns : Act.passes (powerDown {} 500 { timerCount := 23999, freeCounterUs := 0 })
      (fun cycle _ => cycle.rtcBefore = 4294967295 ∧ cycle.lead = 16325 ∧
        (cycle.alarmBudget {}).toNat = 498200) Bench.wrapping = true := by
    decide
  obtain ⟨cycle, b', hdown, h⟩ := Act.passes_iff.1 hruns
  obtain ⟨hbefore, hlead, hbudget⟩ := of_decide_eq_true h
  obtain ⟨-, -, -, -, hlatest, -, -, -, halarm, -, hpending⟩ := alarm_at_latest_cycle hs hdown
  rw [hlead, hbudget] at hlatest
  rw [hbefore, hlead] at halarm
  obtain ⟨hle, hlt⟩ := hlatest (by decide) (by decide)
  exact ⟨cycle, b', hdown, hbefore, hlead, hbudget, hle, hlt, halarm, hpending⟩

end Tickless
