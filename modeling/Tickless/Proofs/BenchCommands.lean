import Tickless.Proofs.Acts
import Tickless.Proofs.ValidSettings
import Tickless.Simulation.Bench
import Tickless.Sleep.Deep
import Tickless.Sleep.Light

/-!
# Commands on the bench

What the commands of the idle path do to the simulated chip. A command that always succeeds is an
equation. Three things can halt on the bench: a nesting depth or tick count that overflows, a
stretch of time whose oscillator product overflows, and a sample that is never ready.

Sequences of commands that always succeed are named as one change of the chip.
-/

namespace Tickless

/-! ## The real-time counter over time -/

namespace RealTimeCounter

/-- The millionths of a cycle that have gathered after a stretch of time. -/
def gathered (us : UInt32) (r : RealTimeCounter) : Nat :=
  r.residue.toNat + us.toNat * r.oscillatorHz.toNat

/-- The counter after a stretch of time. -/
def elapsed (us : UInt32) (r : RealTimeCounter) : RealTimeCounter :=
  { r with
    counter := r.counter + UInt32.ofNat (min (r.gathered us / 1000000) (2 ^ 32 - 1))
    residue := UInt64.ofNat (r.gathered us % 1000000) }

/-- Time passes as long as the residue and the product fit a long word together. -/
theorem elapse_eq_ok {us : UInt32} {r r' : RealTimeCounter} :
    r.elapse us = .ok r' ↔ r.gathered us < 2 ^ 64 ∧ r' = r.elapsed us := by
  have hus := word_lt us
  have hhz := word_lt r.oscillatorHz
  have hprod : us.toNat * r.oscillatorHz.toNat ≤ (2 ^ 32 - 1) * (2 ^ 32 - 1) :=
    Nat.mul_le_mul (by omega) (by omega)
  have hnum : (UInt64.ofNat (us.toNat * r.oscillatorHz.toNat)).toNat =
      us.toNat * r.oscillatorHz.toNat := toNat_long (by omega)
  have hsum : ∀ n, Checked.add r.residue (UInt64.ofNat (us.toNat * r.oscillatorHz.toNat)) = .ok n ↔
      r.gathered us < 2 ^ 64 ∧ n = UInt64.ofNat (r.gathered us) := fun n => by
    rw [add_eq_ok_iff, toNat_word64, toNat_word64, hnum]
    exact Iff.rfl
  have hmoved : r.gathered us < 2 ^ 64 →
      { r with
        counter := r.counter +
          Saturating.clip ((UInt64.ofNat (r.gathered us)).toNat / usPerSecond.toNat)
        residue := UInt64.ofNat (r.gathered us) % usPerSecond.toUInt64 } = r.elapsed us := by
    intro hlt
    have hmod : UInt64.ofNat (r.gathered us) % usPerSecond.toUInt64 =
        UInt64.ofNat (r.gathered us % 1000000) := by
      rw [← UInt64.toNat_inj, UInt64.toNat_mod, toNat_long hlt, toNat_long (by omega)]
      rfl
    rw [hmod, toNat_long hlt]
    rfl
  unfold elapse
  rw [mul_widened, arith_ok_bind, arith_bind_eq_ok]
  constructor
  · rintro ⟨residue, hresidue, h⟩
    obtain ⟨hlt, rfl⟩ := (hsum residue).1 hresidue
    cases h
    exact ⟨hlt, hmoved hlt⟩
  · rintro ⟨hlt, rfl⟩
    refine ⟨_, (hsum _).2 ⟨hlt, rfl⟩, ?_⟩
    rw [← hmoved hlt]
    rfl

/-- Less than a cycle is left over, as after every stretch of time. -/
def Reduced (r : RealTimeCounter) : Prop :=
  r.residue.toNat < 1000000

theorem Reduced.gathered_lt {r : RealTimeCounter} (h : r.Reduced) (us : UInt32) :
    r.gathered us < 2 ^ 64 := by
  have hus := word_lt us
  have hhz := word_lt r.oscillatorHz
  have hprod : us.toNat * r.oscillatorHz.toNat ≤ (2 ^ 32 - 1) * (2 ^ 32 - 1) :=
    Nat.mul_le_mul (by omega) (by omega)
  unfold Reduced at h
  unfold gathered
  omega

theorem toNat_residue_elapsed (us : UInt32) (r : RealTimeCounter) :
    (r.elapsed us).residue.toNat = r.gathered us % 1000000 := by
  have hmod := Nat.mod_lt (r.gathered us) (show 0 < 1000000 by decide)
  exact toNat_long (by omega)

theorem reduced_elapsed (us : UInt32) (r : RealTimeCounter) : (r.elapsed us).Reduced := by
  unfold Reduced
  rw [toNat_residue_elapsed]
  exact Nat.mod_lt _ (by decide)

end RealTimeCounter

/-! ## The scheduler -/

namespace Kernel

variable {k k' : Kernel}

theorem suspend_eq_ok :
    k.suspend = .ok k' ↔ k.suspendDepth.toNat + 1 < 2 ^ 32 ∧
      k' = { k with
        suspendDepth := UInt32.ofNat (k.suspendDepth.toNat + 1)
        maxSuspendDepth := max k.maxSuspendDepth (UInt32.ofNat (k.suspendDepth.toNat + 1)) } := by
  unfold suspend
  rw [arith_bind_eq_ok]
  constructor
  · rintro ⟨depth, hdepth, h⟩
    obtain ⟨hlt, rfl⟩ := add_eq_ok_iff.1 hdepth
    cases h
    exact ⟨hlt, rfl⟩
  · rintro ⟨hlt, rfl⟩
    exact ⟨_, add_eq_ok_iff.2 ⟨hlt, rfl⟩, rfl⟩

theorem step_eq_ok {ticks : UInt32} :
    k.step ticks = .ok k' ↔ k.tickCount.toNat + ticks.toNat < 2 ^ 64 ∧
      k' = { k with
        tickCount := UInt64.ofNat (k.tickCount.toNat + ticks.toNat)
        steps := k.steps.push ticks } := by
  unfold step
  rw [arith_bind_eq_ok, ← toNat_widened ticks]
  constructor
  · rintro ⟨count, hcount, h⟩
    obtain ⟨hlt, rfl⟩ := add_eq_ok_iff.1 hcount
    cases h
    exact ⟨hlt, rfl⟩
  · rintro ⟨hlt, rfl⟩
    exact ⟨_, add_eq_ok_iff.2 ⟨hlt, rfl⟩, rfl⟩

end Kernel

/-- A value within the reload register is stored as it is. -/
theorem and_maxReload {v : UInt32} (h : v.toNat ≤ maxReload.toNat) : v &&& maxReload = v := by
  rw [← UInt32.toNat_inj, UInt32.toNat_and]
  show v.toNat &&& (2 ^ 24 - 1) = v.toNat
  rw [Nat.and_two_pow_sub_one_eq_mod]
  exact Nat.mod_eq_of_lt (Nat.lt_of_le_of_lt h (by decide))

/-! ## Sequences of commands -/

namespace Chip

theorem fresh_eq {s : Settings} (hs : s.Valid) :
    fresh s = .ok
      { timer := .running (UInt32.ofNat (s.perTick - 1))
        core := { clocksPerUs := s.timerClockHz / usPerSecond } } := by
  unfold fresh
  rw [hs.countsPerTick_eq, arith_ok_bind, hs.pred_perTick_eq]
  rfl

/-- A stretch of time that the oscillator product allows. -/
theorem elapse_eq_ok {us : UInt32} {c c' : Chip} :
    c.elapse us = .ok c' ↔ c.rtc.gathered us < 2 ^ 64 ∧
      c' = { c with
        timer := c.timer.elapse (Saturating.mul us c.core.clocksPerUs)
        rtc := c.rtc.elapsed us
        power := { c.power with freeCounterUs := c.power.freeCounterUs + us } } := by
  unfold elapse
  rw [arith_bind_eq_ok]
  constructor
  · rintro ⟨r, hr, hc⟩
    obtain ⟨hlt, rfl⟩ := RealTimeCounter.elapse_eq_ok.1 hr
    cases hc
    exact ⟨hlt, rfl⟩
  · rintro ⟨hlt, rfl⟩
    exact ⟨_, RealTimeCounter.elapse_eq_ok.2 ⟨hlt, rfl⟩, rfl⟩

/-- Any stretch of time may pass on a chip whose counter is reduced. -/
theorem elapse_of_reduced {c : Chip} (h : c.rtc.Reduced) (us : UInt32) :
    ∃ c', c.elapse us = .ok c' :=
  ⟨_, elapse_eq_ok.2 ⟨h.gathered_lt us, rfl⟩⟩

/-- A reading of the microsecond counter is its value before the time that the reading takes. -/
theorem readFreeCounter_eq_ok {c : Chip} {r : UInt32 × Chip} :
    c.readFreeCounter = .ok r ↔ c.elapse c.power.readingUs = .ok r.2 ∧
      r.1 = c.power.freeCounterUs := by
  unfold readFreeCounter
  rw [arith_bind_eq_ok]
  constructor
  · rintro ⟨c', hc, hr⟩
    cases hr
    exact ⟨hc, rfl⟩
  · rintro ⟨hc, hr⟩
    obtain ⟨now, c'⟩ := r
    cases hr
    exact ⟨c', hc, rfl⟩

theorem readFreeCounter_eq_error {c : Chip} {e : ArithError} :
    c.readFreeCounter = .error e ↔ c.elapse c.power.readingUs = .error e := by
  unfold readFreeCounter
  cases c.elapse c.power.readingUs with
  | ok c' =>
    constructor <;> intro h <;> cases h
  | error e' => exact Iff.intro (fun h => by cases h; rfl) (fun h => by cases h; rfl)

/-- A run goes on from a reading as it goes on from the time that the reading takes. -/
theorem exists_readFreeCounter {c : Chip} {p : UInt32 × Chip → Prop} :
    (∃ r, c.readFreeCounter = .ok r ∧ p r) ↔
      ∃ c', c.elapse c.power.readingUs = .ok c' ∧ p (c.power.freeCounterUs, c') := by
  constructor
  · rintro ⟨⟨now, c'⟩, hr, hp⟩
    obtain ⟨hc, rfl⟩ := readFreeCounter_eq_ok.1 hr
    exact ⟨c', hc, hp⟩
  · rintro ⟨c', hc, hp⟩
    exact ⟨_, readFreeCounter_eq_ok.2 ⟨hc, rfl⟩, hp⟩

/-- The timer is set to a reload value and restarted. -/
def restarted (reload : UInt32) (c : Chip) : Chip :=
  ((c.setReload reload).clearCount).startTimer

/-- A restarted timer holds nothing of what it held before. -/
theorem timer_restarted {reload : UInt32} (h : reload.toNat ≤ maxReload.toNat) (c : Chip) :
    (c.restarted reload).timer = { reload, current := 0, enabled := true, expired := false } := by
  show Countdown.mk (reload &&& maxReload) 0 true false = _
  rw [and_maxReload h]

/-- The timer finishes a tick with one reload value and goes on with another. -/
def resynced (first next : UInt32) (c : Chip) : Chip :=
  (c.restarted first).setReload next

/-- A sample of the real-time counter was taken. -/
def sampled (c : Chip) : Chip :=
  { c with rtc := { c.rtc with busyLeft := 0 } }.logged (.rtcSample c.rtc.counter)

/-- The alarm is armed, with no earlier event of it left over. -/
def armed (target : UInt32) (c : Chip) : Chip :=
  ((c.clearAlarm).setAlarm target).enableAlarm

/-- The alarm is switched off and its event forgotten. -/
def disarmed (c : Chip) : Chip :=
  (c.disableAlarm).clearAlarm

/-- Rails, flash and power unit are in retention and the core registers were read. -/
def retained (c : Chip) : Chip :=
  (((c.logged .trimPreSleep).sleepFlash).setStatus .deepSleep).logged .saveContext

/-- The domains are back, with core registers written back. -/
def woken (context : WakeContext) (c : Chip) : Chip :=
  ((((c.logged .minClocks).wakeFlash).restoreContext context).logged .trimPostWake).setStatus .normal

end Chip

namespace Bench

variable {β : Type}

theorem onChip_bind (g : Chip → Chip) (f : Unit → Act Bench β) (b : Bench) :
    (onChip g >>= f) b = f () { b with chip := g b.chip } := rfl

theorem restartTimer_eq (reload : UInt32) (b : Bench) :
    restartTimer reload b = .ok () { b with chip := b.chip.restarted reload } := rfl

theorem wakeUp_eq (cycle : SleepCycle) (b : Bench) :
    wakeUp cycle b = .ok () { b with chip := b.chip.woken cycle.context } := rfl

/-- A transcript with a message added, if there is a reason to. -/
def noting (reason : Prop) [Decidable reason] (m : Message) (t : Transcript) : Transcript :=
  if reason then m :: t else t

/-- A message changes the transcript alone. -/
theorem logIf_bind (reason : Prop) [Decidable reason] (m : Message) (f : Unit → Act Bench β)
    (b : Bench) :
    (logIf reason m >>= f) b = f () { b with transcript := noting reason m b.transcript } := by
  unfold logIf noting
  split <;> rfl

theorem elapse_eq_ok {us : UInt32} {u : Unit} {b b' : Bench} :
    elapse us b = .ok u b' ↔ ∃ c, b.chip.elapse us = .ok c ∧ b' = { b with chip := c } := by
  unfold elapse
  rw [Act.get_bind, Act.lift_bind_eq_ok]
  constructor
  · rintro ⟨c, hc, h⟩
    exact ⟨c, hc, Act.set_eq_ok.1 h⟩
  · rintro ⟨c, hc, h⟩
    exact ⟨c, hc, Act.set_eq_ok.2 h⟩

end Bench

end Tickless
