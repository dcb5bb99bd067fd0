import Tickless.Proofs.BenchCommands
import Tickless.Proofs.Conversions

/-!
# A light sleep on the bench

With valid settings a light sleep has no arithmetic that can fail but the step of the tick counter:
the ticks it is set to fit the reload register, and both ways of working out what passed stay within
a tick. So a light sleep is one change of the chip, an outcome that is read off the halted timer, and
one step of the scheduler.
-/

namespace Tickless

open Checked

namespace Settings

/-! ## What the timer is set to -/

/-- The ticks that the timer is set to for a request: no more than fit it, and at least one. -/
def lightTicks (s : Settings) (idleTicks : UInt32) : Nat :=
  max 1 (min idleTicks.toNat s.lightLimit)

/-- The reload value that the timer is set to at a given count. -/
def plannedReload (s : Settings) (idleTicks current : UInt32) : UInt32 :=
  let full := current + UInt32.ofNat (s.perTick * (s.lightTicks idleTicks - 1))
  if full > s.stoppedCounts then full - s.stoppedCounts else full

theorem one_le_lightTicks (s : Settings) (idleTicks : UInt32) : 1 ≤ s.lightTicks idleTicks :=
  Nat.le_max_left _ _

theorem lightTicks_lt (s : Settings) (idleTicks : UInt32) : s.lightTicks idleTicks < 2 ^ 32 := by
  have := word_lt idleTicks
  unfold lightTicks
  omega

theorem toNat_lightTicks (s : Settings) (idleTicks : UInt32) :
    (UInt32.ofNat (s.lightTicks idleTicks)).toNat = s.lightTicks idleTicks :=
  toNat_word (s.lightTicks_lt idleTicks)

/-- The counts of the ticks that the timer is set to, with one tick apart. -/
theorem lightTicks_mul_eq (s : Settings) (idleTicks : UInt32) :
    s.lightTicks idleTicks * s.perTick = s.perTick * (s.lightTicks idleTicks - 1) + s.perTick := by
  have hone := s.one_le_lightTicks idleTicks
  rw [Nat.mul_sub_one, Nat.sub_add_cancel (Nat.le_mul_of_pos_right _ hone), Nat.mul_comm]

theorem clamped_ticks (s : Settings) (idleTicks current : UInt32) :
    max ((SleepRequest.mk idleTicks current).clamped (UInt32.ofNat s.lightLimit)).idleTicks 1 =
      UInt32.ofNat (s.lightTicks idleTicks) := by
  have hclamped : ((SleepRequest.mk idleTicks current).clamped (UInt32.ofNat s.lightLimit)).idleTicks.toNat =
      min idleTicks.toNat s.lightLimit := by
    unfold SleepRequest.clamped
    simp only [gt_iff_lt, UInt32.lt_iff_toNat_lt, s.toNat_lightLimit]
    split
    · next h =>
      show (UInt32.ofNat s.lightLimit).toNat = _
      rw [s.toNat_lightLimit]
      omega
    · next h =>
      show idleTicks.toNat = _
      omega
  rw [← UInt32.toNat_inj, toNat_max, hclamped, s.toNat_lightTicks]
  exact Nat.max_comm _ _

variable {s : Settings} (hs : s.Valid)

include hs

/-- The counts of the ticks that the timer is set to fit it. -/
theorem Valid.lightTicks_mul_le (idleTicks : UInt32) :
    s.lightTicks idleTicks * s.perTick ≤ maxReload.toNat + 1 := by
  have hper : s.perTick ≤ maxReload.toNat + 1 := hs.perTick_le
  have hlimit : s.lightLimit * s.perTick ≤ maxReload.toNat := Nat.div_mul_le_self _ _
  have hmin : min idleTicks.toNat s.lightLimit * s.perTick ≤ s.lightLimit * s.perTick :=
    Nat.mul_le_mul_right _ (Nat.min_le_right _ _)
  unfold lightTicks
  rcases Nat.le_total (min idleTicks.toNat s.lightLimit) 1 with h | h
  · rw [Nat.max_eq_left h]
    omega
  · rw [Nat.max_eq_right h]
    omega

/-- All ticks but the first are within the timer by at least a count. -/
theorem Valid.mul_pred_lightTicks_le (idleTicks : UInt32) :
    s.perTick * (s.lightTicks idleTicks - 1) + s.perTick ≤ maxReload.toNat + 1 := by
  rw [← s.lightTicks_mul_eq idleTicks]
  exact hs.lightTicks_mul_le idleTicks

theorem Valid.lightReload_eq (idleTicks current : UInt32) :
    lightReload s (UInt32.ofNat s.perTick) (UInt32.ofNat (s.lightTicks idleTicks)) current =
      .ok (s.plannedReload idleTicks current) := by
  have hone := s.one_le_lightTicks idleTicks
  have hlt := s.lightTicks_lt idleTicks
  have hper := hs.perTick_lt
  have hmul := hs.mul_pred_lightTicks_le idleTicks
  have hmax := toNat_maxReload
  have hpred : Checked.sub (UInt32.ofNat (s.lightTicks idleTicks)) 1 =
      .ok (UInt32.ofNat (s.lightTicks idleTicks - 1)) := sub_words (by omega) hone
  have hprod : mul (UInt32.ofNat s.perTick) (UInt32.ofNat (s.lightTicks idleTicks - 1)) =
      .ok (UInt32.ofNat (s.perTick * (s.lightTicks idleTicks - 1))) :=
    mul_words (by omega) (by omega) (by omega)
  unfold lightReload
  simp only [hpred, hprod, arith_ok_bind]
  rfl

/-- At a count within the tick, the reload value is the counts to the end of the last tick, less
the counts lost while the timer is set if that leaves one. -/
theorem Valid.toNat_plannedReload (idleTicks : UInt32) {current : UInt32}
    (hc : current.toNat < s.perTick) :
    (s.plannedReload idleTicks current).toNat =
      current.toNat + s.perTick * (s.lightTicks idleTicks - 1) -
        if s.stoppedCounts.toNat < current.toNat + s.perTick * (s.lightTicks idleTicks - 1) then
          s.stoppedCounts.toNat else 0 := by
  have hmul := hs.mul_pred_lightTicks_le idleTicks
  have hmax := toNat_maxReload
  have hfull : (current + UInt32.ofNat (s.perTick * (s.lightTicks idleTicks - 1))).toNat =
      current.toNat + s.perTick * (s.lightTicks idleTicks - 1) := by
    have hpart := toNat_word (n := s.perTick * (s.lightTicks idleTicks - 1)) (by omega)
    rw [toNat_add_of_lt (by omega), hpart]
  unfold plannedReload
  simp only [gt_iff_lt, UInt32.lt_iff_toNat_lt, hfull]
  split
  · next h =>
    rw [toNat_sub_word (by omega), hfull]
  · rw [hfull]
    rfl

theorem Valid.plannedReload_le (idleTicks : UInt32) {current : UInt32}
    (hc : current.toNat < s.perTick) :
    (s.plannedReload idleTicks current).toNat ≤ maxReload.toNat := by
  have hmul := hs.mul_pred_lightTicks_le idleTicks
  rw [hs.toNat_plannedReload idleTicks hc]
  omega

/-! ## How it comes out -/

omit hs in
/-- The outcome when the timer has expired. -/
def expiredOutcome (s : Settings) (ticks : Nat) (reload current : UInt32) : LightOutcome :=
  let whole := UInt32.ofNat (s.perTick - 1)
  let left := whole - (reload - current)
  let nextReload :=
    if left ≤ s.stoppedCounts || left > UInt32.ofNat s.perTick then whole else left
  { ticks := UInt32.ofNat (ticks - 1)
    nextReload
    phaseCounts := UInt32.ofNat (s.perTick - 1 - min nextReload.toNat (s.perTick - 1))
    source := .tickTimer }

/-- The outcome when another interrupt came first. -/
def interruptedOutcome (s : Settings) (ticks : Nat) (current : UInt32) : LightOutcome :=
  let completed := ticks * s.perTick - current.toNat
  { ticks := UInt32.ofNat (completed / s.perTick)
    nextReload := UInt32.ofNat (s.perTick - completed % s.perTick)
    phaseCounts := UInt32.ofNat (completed % s.perTick)
    source := .otherInterrupt }

/-- The outcome that is read off the timer after the halt. -/
def haltOutcome (s : Settings) (ticks : Nat) (reload : UInt32) (timer : Countdown) : LightOutcome :=
  if timer.expired then s.expiredOutcome ticks reload timer.current
  else s.interruptedOutcome ticks timer.current

theorem Valid.expired_eq {ticks : Nat} (h1 : 1 ≤ ticks) (hlt : ticks < 2 ^ 32)
    (reload current : UInt32) :
    LightOutcome.expired (UInt32.ofNat s.perTick) (UInt32.ofNat ticks) s.stoppedCounts reload current =
      .ok (s.expiredOutcome ticks reload current) := by
  have hticks : Checked.sub (UInt32.ofNat ticks) 1 = .ok (UInt32.ofNat (ticks - 1)) :=
    sub_words hlt h1
  have hphase : ∀ next : UInt32,
      Checked.sub (UInt32.ofNat (s.perTick - 1)) (min next (UInt32.ofNat (s.perTick - 1))) =
        .ok (UInt32.ofNat (s.perTick - 1 - min next.toNat (s.perTick - 1))) := fun next => by
    have hmin : min next (UInt32.ofNat (s.perTick - 1)) =
        UInt32.ofNat (min next.toNat (s.perTick - 1)) := by
      have hlt := word_lt next
      rw [← UInt32.toNat_inj, toNat_min, hs.toNat_pred_perTick, toNat_word (by omega)]
    rw [hmin]
    exact sub_words (Nat.lt_of_le_of_lt (Nat.sub_le _ _) hs.perTick_lt) (Nat.min_le_right _ _)
  unfold LightOutcome.expired
  simp only [hs.pred_perTick_eq, hticks, hphase, arith_ok_bind]
  rfl

theorem Valid.interrupted_eq {ticks : Nat} (hle : ticks * s.perTick ≤ maxReload.toNat + 1) (current : UInt32) :
    LightOutcome.interrupted (UInt32.ofNat s.perTick) (UInt32.ofNat ticks) current =
      .ok (s.interruptedOutcome ticks current) := by
  have hpos := hs.perTick_pos
  have hper := hs.perTick_lt
  have hmax := toNat_maxReload
  have hticks := Nat.le_mul_of_pos_right ticks hpos
  have hmul : mul (UInt32.ofNat ticks) (UInt32.ofNat s.perTick) =
      .ok (UInt32.ofNat (ticks * s.perTick)) := mul_words (by omega) (by omega) (by omega)
  have hcompleted : Saturating.sub (UInt32.ofNat (ticks * s.perTick)) current =
      UInt32.ofNat (ticks * s.perTick - current.toNat) := by
    show UInt32.ofNat ((UInt32.ofNat (ticks * s.perTick)).toNat - current.toNat) = _
    rw [toNat_word (by omega)]
  unfold LightOutcome.interrupted interruptedOutcome
  simp only [hmul, hcompleted, arith_ok_bind]
  -- from here on only the completed counts matter
  generalize hm : ticks * s.perTick - current.toNat = completed
  have hcompl : completed ≤ maxReload.toNat + 1 := by omega
  have hwhole := Nat.div_le_self completed s.perTick
  have hback := Nat.div_mul_le_self completed s.perTick
  have hrem : completed - completed / s.perTick * s.perTick = completed % s.perTick := by
    have := Nat.div_add_mod' completed s.perTick
    omega
  have hlt := Nat.mod_lt completed hpos
  have hphase : Checked.sub (UInt32.ofNat completed) (UInt32.ofNat (completed / s.perTick * s.perTick)) =
      .ok (UInt32.ofNat (completed % s.perTick)) := by
    rw [sub_words (by omega) hback, hrem]
  simp only [div_words (show completed < 2 ^ 32 by omega)
      (show s.perTick < 2 ^ 32 by omega) (Nat.ne_of_gt hpos),
    mul_words (show completed / s.perTick < 2 ^ 32 by omega)
      (show s.perTick < 2 ^ 32 by omega)
      (show completed / s.perTick * s.perTick < 2 ^ 32 by omega),
    hphase, sub_words (show s.perTick < 2 ^ 32 by omega) (Nat.le_of_lt hlt), arith_ok_bind]
  rfl

end Settings

/-! ## The whole sleep -/

namespace Chip

/-- The timer is stopped and set, and the core is about to halt. -/
def setForSleep (s : Settings) (idleTicks : UInt32) (c : Chip) : Chip :=
  c.stopTimer.restarted (s.plannedReload idleTicks c.timer.current)

/-- The halt is over, the timer is stopped and its expiry flag was read. -/
def halted (c : Chip) : Chip :=
  c.halt.stopTimer.takeExpired.2

end Chip

namespace Settings

/-- How a light sleep comes out on a chip. -/
def lightOutcome (s : Settings) (idleTicks : UInt32) (c : Chip) : LightOutcome :=
  s.haltOutcome (s.lightTicks idleTicks) (s.plannedReload idleTicks c.timer.current)
    (c.setForSleep s idleTicks).halt.timer

/-- What a light sleep reports on a chip. -/
def lightElapsed (s : Settings) (idleTicks : UInt32) (c : Chip) : Elapsed :=
  let outcome := s.lightOutcome idleTicks c
  { wholeTicks := outcome.ticks
    phaseUs := UInt32.ofNat (outcome.phaseCounts.toNat * s.period / s.perTick)
    source := outcome.source }

end Settings

/-- The chip after a light sleep. -/
def Chip.lightSlept (s : Settings) (idleTicks : UInt32) (c : Chip) : Chip :=
  (c.setForSleep s idleTicks).halted.resynced (s.lightOutcome idleTicks c).nextReload
    (UInt32.ofNat (s.perTick - 1))

namespace Bench

variable {s : Settings} (hs : s.Valid) {idleTicks : UInt32} {b b' : Bench} {e : Elapsed}

include hs

theorem haltFor_eq (idleTicks reload : UInt32) (b : Bench) :
    haltFor (UInt32.ofNat s.perTick) (UInt32.ofNat (s.lightTicks idleTicks)) s.stoppedCounts reload b =
      .ok (s.haltOutcome (s.lightTicks idleTicks) reload b.chip.halt.timer)
        { b with chip := b.chip.halted } := by
  have hone := s.one_le_lightTicks idleTicks
  have hle := s.lightTicks_lt idleTicks
  have hfit := hs.lightTicks_mul_le idleTicks
  unfold haltFor Settings.haltOutcome
  simp only [Platform.perform, Bench.perform, ask, sense, Bench.probe, Bench.gauge, Bench.fromChip,
    Bench.onChip_bind, Act.modifyGet_bind]
  by_cases hexp : b.chip.halt.timer.expired = true
  · rw [if_pos hexp]
    have hflag : b.chip.halt.stopTimer.takeExpired.1 = true := hexp
    rw [if_pos hflag]
    simp only [bind_assoc, pure_bind, Act.get_bind, hs.expired_eq hone (by omega)]
    rfl
  · rw [if_neg hexp]
    have hflag : ¬ b.chip.halt.stopTimer.takeExpired.1 = true := hexp
    rw [if_neg hflag]
    simp only [bind_assoc, pure_bind, Act.get_bind, hs.interrupted_eq hfit]
    rfl

/-- Only the step of the tick counter can halt a light sleep, and by then the timer is restarted. -/
theorem sleepLightly_eq (idleTicks : UInt32) (b : Bench) :
    sleepLightly s idleTicks b =
      match b.kernel.step (s.lightOutcome idleTicks b.chip).ticks with
      | .ok k =>
        .ok (s.lightElapsed idleTicks b.chip) { b with
          chip := b.chip.lightSlept s idleTicks
          kernel := k
          transcript := noting (idleTicks > UInt32.ofNat s.lightLimit)
            (.lightClamped idleTicks (UInt32.ofNat s.lightLimit)) b.transcript }
      | .error e =>
        .error (.arithmetic e) { b with
          chip := (b.chip.setForSleep s idleTicks).halted.restarted
            (s.lightOutcome idleTicks b.chip).nextReload
          transcript := noting (idleTicks > UInt32.ofNat s.lightLimit)
            (.lightClamped idleTicks (UInt32.ofNat s.lightLimit)) b.transcript } := by
  unfold sleepLightly
  simp only [hs.countsPerTick_eq, hs.maxSuppressedTicks_eq, Act.lift_ok_bind, Bench.logIf_bind,
    Platform.perform, Bench.perform, sense, Bench.gauge, bind_assoc, pure_bind, Act.get_bind,
    Bench.onChip_bind, s.clamped_ticks, hs.lightReload_eq]
  rw [Act.bind_of_ok (restartTimer_eq _ _), Act.bind_of_ok (haltFor_eq hs _ _ _),
    Act.bind_of_ok (restartTimer_eq _ _)]
  simp only [Bench.onKernel, bind_assoc, Act.get_bind, hs.pred_perTick_eq, hs.countsToUs_eq]
  cases hstep : b.kernel.step (s.lightOutcome idleTicks b.chip).ticks with
  | ok k => exact Act.lift_bind_eq_ok.2 ⟨k, hstep, rfl⟩
  | error e => exact Act.lift_bind_eq_error.2 (.inl ⟨e, hstep, rfl, rfl⟩)

/-- A light sleep comes to its end exactly if the tick counter has room for its ticks. -/
theorem sleepLightly_eq_ok :
    sleepLightly s idleTicks b = .ok e b' ↔
      ∃ k, b.kernel.step (s.lightOutcome idleTicks b.chip).ticks = .ok k ∧
        e = s.lightElapsed idleTicks b.chip ∧
        b' = { b with
          chip := b.chip.lightSlept s idleTicks
          kernel := k
          transcript := noting (idleTicks > UInt32.ofNat s.lightLimit)
            (.lightClamped idleTicks (UInt32.ofNat s.lightLimit)) b.transcript } := by
  rw [sleepLightly_eq hs]
  cases b.kernel.step (s.lightOutcome idleTicks b.chip).ticks with
  | ok k =>
    simp only [EStateM.Result.ok.injEq, Except.ok.injEq]
    constructor
    · rintro ⟨rfl, rfl⟩
      exact ⟨k, rfl, rfl, rfl⟩
    · rintro ⟨_, rfl, rfl, rfl⟩
      exact ⟨rfl, rfl⟩
  | error e => simp

end Bench

end Tickless
