import Tickless.Proofs.BenchCommands
import Tickless.Proofs.SingleClocks

/-!
# Time in two stretches

Time is let pass on the bench in stretches. Whether a stretch is cut in two makes no difference to the
microsecond counter, which wraps, nor to the residue of the real-time counter, which is carried over. The
timer and the real-time counter are given whole clocks and cycles, and of these no more than a word holds:
where a stretch has more, they fall behind, and its two parts may have room for more than the whole. What
the parts come to beyond the whole is the `surplus`. It shows on the timer unless it is made of whole
periods, and always on the real-time counter.
-/

namespace Tickless

/-! ## Clipped stretches -/

/-- What two numbers, each clipped to a word, come to beyond their sum, clipped to a word. -/
def surplus (x y : Nat) : Nat :=
  min x (2 ^ 32 - 1) + min y (2 ^ 32 - 1) - min (x + y) (2 ^ 32 - 1)

theorem clipped_add_clipped (x y : Nat) :
    min x (2 ^ 32 - 1) + min y (2 ^ 32 - 1) = min (x + y) (2 ^ 32 - 1) + surplus x y := by
  unfold surplus
  omega

theorem surplus_le (x y : Nat) : surplus x y ≤ 2 ^ 32 - 1 := by
  unfold surplus
  omega

/-- There is a surplus if the whole does not fit and is cut in two proper parts. -/
theorem surplus_eq_zero_iff {x y : Nat} : surplus x y = 0 ↔ x + y ≤ 2 ^ 32 - 1 ∨ x = 0 ∨ y = 0 := by
  unfold surplus
  omega

theorem clipped_of_surplus {x y : Nat} (h : surplus x y ≠ 0) : min (x + y) (2 ^ 32 - 1) = 2 ^ 32 - 1 := by
  unfold surplus at h
  omega

/-! ## The timer -/

namespace Countdown

variable {t : Countdown} {p q whole : UInt32} {x y : Nat}

/-- A stretch that was clipped outlasts the first expiry. -/
theorem clocksToExpiry_le_of_surplus (t : Countdown) (h : surplus x y ≠ 0) :
    t.clocksToExpiry.toNat ≤ min (x + y) (2 ^ 32 - 1) := by
  have hword := word_lt t.clocksToExpiry
  rw [clipped_of_surplus h]
  omega

section

variable (henabled : t.enabled = true) (hp : p.toNat = min x (2 ^ 32 - 1)) (hq : q.toNat = min y (2 ^ 32 - 1))
  (hwhole : whole.toNat = min (x + y) (2 ^ 32 - 1))

include henabled hp hq hwhole

/-- A timer given its clocks in two stretches has taken the surplus as well. -/
theorem elapse_elapse_clipped : (t.elapse p).elapse q = tick^[whole.toNat + surplus x y] t := by
  rw [elapse_elapse_eq_iterate henabled, hp, hq, hwhole, clipped_add_clipped]

variable (hreload : t.reload.toNat < 2 ^ 32 - 1)

include hreload

theorem elapse_elapse_current_iff :
    ((t.elapse p).elapse q).current = (t.elapse whole).current ↔ t.reload.toNat + 1 ∣ surplus x y := by
  rw [elapse_elapse_clipped henabled hp hq hwhole, elapse_eq_iterate henabled]
  by_cases hnone : surplus x y = 0
  · rw [hnone, Nat.add_zero]
    exact iff_of_true rfl (Nat.dvd_zero _)
  · rw [hwhole]
    exact iterate_tick_add_iff hreload (t.clocksToExpiry_le_of_surplus hnone)

/-- The surplus comes after the first expiry, so it does not show on the flag. -/
theorem elapse_elapse_expired : ((t.elapse p).elapse q).expired = (t.elapse whole).expired := by
  rw [elapse_elapse_clipped henabled hp hq hwhole, elapse_eq_iterate henabled]
  by_cases hnone : surplus x y = 0
  · rw [hnone, Nat.add_zero]
  · have hlong := t.clocksToExpiry_le_of_surplus hnone
    rw [hwhole, iterate_tick_after hreload hlong,
      iterate_tick_after hreload (Nat.le_add_right_of_le hlong)]

end

end Countdown

/-! ## The real-time counter -/

namespace RealTimeCounter

variable {r : RealTimeCounter} {a b : UInt32}

/-- The cycles that are full after a stretch of time. -/
def cyclesIn (us : UInt32) (r : RealTimeCounter) : Nat :=
  r.gathered us / 1000000

/-- What gathers in the second stretch is what is left of the first, and its own. -/
theorem gathered_elapsed (hab : a.toNat + b.toNat < 2 ^ 32) :
    r.gathered (a + b) = 1000000 * r.cyclesIn a + (r.elapsed a).gathered b := by
  have hparts : r.gathered (a + b) = r.gathered a + b.toNat * r.oscillatorHz.toNat := by
    unfold gathered
    rw [toNat_add_of_lt hab, Nat.add_mul, Nat.add_assoc]
  have hrest : (r.elapsed a).gathered b = r.gathered a % 1000000 + b.toNat * r.oscillatorHz.toNat := by
    unfold gathered
    rw [toNat_residue_elapsed]
    rfl
  have hfull := Nat.div_add_mod (r.gathered a) 1000000
  unfold cyclesIn
  omega

theorem cyclesIn_add (hab : a.toNat + b.toNat < 2 ^ 32) :
    r.cyclesIn (a + b) = r.cyclesIn a + (r.elapsed a).cyclesIn b := by
  unfold cyclesIn
  rw [gathered_elapsed hab, Nat.mul_add_div (by decide)]
  rfl

theorem residue_elapsed_elapsed (hab : a.toNat + b.toNat < 2 ^ 32) :
    ((r.elapsed a).elapsed b).residue = (r.elapsed (a + b)).residue := by
  rw [← UInt64.toNat_inj, toNat_residue_elapsed, toNat_residue_elapsed, gathered_elapsed hab,
    Nat.mul_add_mod]

/-- Of the real-time counter, a cut shows on the counter alone. -/
theorem elapsed_elapsed_aside (hab : a.toNat + b.toNat < 2 ^ 32) :
    { (r.elapsed a).elapsed b with counter := 0 } = { r.elapsed (a + b) with counter := 0 } := by
  simp only [residue_elapsed_elapsed hab]
  rfl

/-- The counter wraps at a word, so no surplus of cycles is lost on it. -/
theorem counter_elapsed_elapsed_iff (hab : a.toNat + b.toNat < 2 ^ 32) :
    ((r.elapsed a).elapsed b).counter = (r.elapsed (a + b)).counter ↔
      surplus (r.cyclesIn a) ((r.elapsed a).cyclesIn b) = 0 := by
  have hsurplus := surplus_le (r.cyclesIn a) ((r.elapsed a).cyclesIn b)
  have hparts : ((r.elapsed a).elapsed b).counter = r.counter +
      UInt32.ofNat (min (r.cyclesIn a) (2 ^ 32 - 1) + min ((r.elapsed a).cyclesIn b) (2 ^ 32 - 1)) := by
    rw [UInt32.ofNat_add, ← add_assoc]
    rfl
  have hwhole : (r.elapsed (a + b)).counter = r.counter +
      UInt32.ofNat (min (r.cyclesIn a + (r.elapsed a).cyclesIn b) (2 ^ 32 - 1)) := by
    rw [← cyclesIn_add hab]
    rfl
  rw [hparts, hwhole, clipped_add_clipped, add_right_inj, UInt32.ofNat_add, add_eq_left,
    ← UInt32.toNat_inj, toNat_word (by omega)]
  rfl

end RealTimeCounter

/-! ## Reached chips -/

namespace Chip

variable {s : Settings} {c : Chip}

/-- A chip that was out of reset with the given settings, then carried out commands and let time pass.
Its fields may be written from outside in between: any oscillator, any registers, except that the residue
and the clock rate are its own and that the reload register holds no more than it can. -/
inductive Reached (s : Settings) : Chip → Prop where
  /-- A chip out of reset. -/
  | fresh {c : Chip} (hfresh : Chip.fresh s = .ok c) : Reached s c
  /-- A command was carried out. -/
  | perform {command : Command} {answer : command.Answer} {b b' : Bench} (h : Reached s b.chip)
      (hperform : Bench.perform command b = .ok answer b') : Reached s b'.chip
  /-- Time passed. -/
  | elapse {us : UInt32} {c c' : Chip} (h : Reached s c) (helapse : c.elapse us = .ok c') : Reached s c'
  /-- Fields were written from outside. -/
  | written {c c' : Chip} (h : Reached s c) (hresidue : c'.rtc.residue = c.rtc.residue)
      (hrate : c'.core.clocksPerUs = c.core.clocksPerUs) (hreload : c'.timer.reload ≤ maxReload) :
      Reached s c'

/-- A chip whose residue is less than a cycle and whose reload register holds no more than it can. -/
structure InRange (c : Chip) : Prop where
  residue : c.rtc.Reduced
  reload : c.timer.reload ≤ maxReload

theorem inRange_of_fresh (hs : s.Valid) (hfresh : Chip.fresh s = .ok c) : c.InRange := by
  have hper := hs.perTick_le
  cases hfresh.symm.trans (fresh_eq hs)
  refine ⟨show 0 < 1000000 by decide, ?_⟩
  rw [UInt32.le_iff_toNat_le]
  show (UInt32.ofNat (s.perTick - 1)).toNat ≤ maxReload.toNat
  rw [hs.toNat_pred_perTick]
  omega

theorem InRange.elapse (h : c.InRange) {us : UInt32} {c' : Chip} (helapse : c.elapse us = .ok c') :
    c'.InRange := by
  obtain ⟨-, rfl⟩ := elapse_eq_ok.1 helapse
  refine ⟨RealTimeCounter.reduced_elapsed us c.rtc, ?_⟩
  show (c.timer.elapse _).reload ≤ _
  rw [Countdown.elapse_reload]
  exact h.reload

theorem InRange.poll (h : c.InRange) : c.pollSample.2.InRange := by
  refine ⟨?_, h.reload⟩
  show (c.rtc.poll.2).residue.toNat < _
  unfold RealTimeCounter.poll
  split_ifs <;> exact h.residue

theorem InRange.halt (h : c.InRange) : c.halt.InRange := by
  refine ⟨h.residue, ?_⟩
  show (c.timer.elapse _).reload ≤ _
  rw [Countdown.elapse_reload]
  exact h.reload

theorem InRange.setReload (h : c.InRange) (value : UInt32) : (c.setReload value).InRange :=
  ⟨h.residue, UInt32.le_iff_toNat_le.2 Nat.and_le_right⟩

theorem InRange.cutRail (h : c.InRange) (entry : ResumeEntry) : (c.cutRail entry).InRange :=
  ⟨h.residue, UInt32.le_iff_toNat_le.2 (Nat.zero_le _)⟩

theorem InRange.readFreeCounter (h : c.InRange) {r : UInt32 × Chip} (hr : c.readFreeCounter = .ok r) :
    r.2.InRange :=
  h.elapse (readFreeCounter_eq_ok.1 hr).1

theorem InRange.perform {command : Command} {answer : command.Answer} {b b' : Bench}
    (h : b.chip.InRange) (hperform : Bench.perform command b = .ok answer b') : b'.chip.InRange := by
  cases command with
  | gauge g =>
    cases g with
    | freeCounterUs =>
      obtain ⟨r, hr, hafter⟩ := Act.lift_bind_eq_ok.1 hperform
      cases hafter
      exact h.readFreeCounter hr
    | _ => cases hperform; exact ⟨h.residue, h.reload⟩
  | probe p =>
    cases p with
    | sampleBusy => cases hperform; exact h.poll
    | _ => cases hperform; exact ⟨h.residue, h.reload⟩
  | setReload value => cases hperform; exact h.setReload value
  | waitForInterrupt => cases hperform; exact h.halt
  | cutRail entry => cases hperform; exact h.cutRail entry
  | suspendTasks =>
    obtain ⟨k, -, hafter⟩ := Act.lift_bind_eq_ok.1 hperform
    cases hafter
    exact h
  | stepTicks ticks =>
    obtain ⟨k, -, hafter⟩ := Act.lift_bind_eq_ok.1 hperform
    cases hafter
    exact h
  | fatal f => cases hperform
  | _ => cases hperform; exact ⟨h.residue, h.reload⟩

theorem Reached.inRange (hs : s.Valid) (h : Reached s c) : c.InRange := by
  induction h with
  | fresh hfresh => exact inRange_of_fresh hs hfresh
  | perform _ hperform ih => exact ih.perform hperform
  | elapse _ helapse ih => exact ih.elapse helapse
  | written _ hresidue _ hreload ih =>
    refine ⟨?_, hreload⟩
    unfold RealTimeCounter.Reduced
    rw [hresidue]
    exact ih.residue

/-! ## A stretch and its parts -/

/-- The timer clocks in a stretch of time. -/
def clocksIn (us : UInt32) (c : Chip) : Nat :=
  us.toNat * c.core.clocksPerUs.toNat

/-- No clocks of the timer come to a difference between a whole stretch and its two parts. -/
def TimerAlike (a b : UInt32) (c : Chip) : Prop :=
  c.timer.enabled = false ∨ c.timer.reload.toNat + 1 ∣ surplus (c.clocksIn a) (c.clocksIn b)

/-- No cycles of the real-time counter come to a difference between a whole stretch and its two
parts. -/
def CounterAlike (a b : UInt32) (c : Chip) : Prop :=
  surplus (c.rtc.cyclesIn a) ((c.rtc.elapsed a).cyclesIn b) = 0

/-- A chip with the count of its timer and its real-time counter put aside. -/
def countsAside (c : Chip) : Chip :=
  { c with timer := { c.timer with current := 0 }, rtc := { c.rtc with counter := 0 } }

theorem eq_iff_of_countsAside {c c' : Chip} (h : c.countsAside = c'.countsAside) :
    c = c' ↔ c.timer.current = c'.timer.current ∧ c.rtc.counter = c'.rtc.counter := by
  constructor
  · rintro rfl
    exact ⟨rfl, rfl⟩
  · rintro ⟨hcount, hcounter⟩
    have hback : ∀ d : Chip, d = { d.countsAside with
        timer := { d.countsAside.timer with current := d.timer.current }
        rtc := { d.countsAside.rtc with counter := d.rtc.counter } } := fun _ => rfl
    rw [hback c, hback c', h, hcount, hcounter]

theorem clipped_clocks (us : UInt32) (c : Chip) :
    (Saturating.mul us c.core.clocksPerUs).toNat = min (c.clocksIn us) (2 ^ 32 - 1) :=
  toNat_saturating_mul us c.core.clocksPerUs

section

variable {a b : UInt32} (hab : a.toNat + b.toNat < 2 ^ 32)

include hab

theorem clipped_clocks_add (c : Chip) :
    (Saturating.mul (a + b) c.core.clocksPerUs).toNat = min (c.clocksIn a + c.clocksIn b) (2 ^ 32 - 1) := by
  rw [clipped_clocks]
  unfold clocksIn
  rw [toNat_add_of_lt hab, Nat.add_mul]

theorem alike_of_fits (hclocks : c.clocksIn (a + b) < 2 ^ 32)
    (hcycles : c.rtc.cyclesIn (a + b) < 2 ^ 32) : c.TimerAlike a b ∧ c.CounterAlike a b := by
  unfold clocksIn at hclocks
  rw [toNat_add_of_lt hab, Nat.add_mul] at hclocks
  rw [RealTimeCounter.cyclesIn_add hab] at hcycles
  have hnone : surplus (c.clocksIn a) (c.clocksIn b) = 0 :=
    surplus_eq_zero_iff.2 (.inl (Nat.le_of_lt_succ hclocks))
  refine ⟨.inr ?_, surplus_eq_zero_iff.2 (.inl (Nat.le_of_lt_succ hcycles))⟩
  rw [hnone]
  exact Nat.dvd_zero _

/-- A cut shows on the count of the timer, if on anything of it. -/
theorem timer_elapsed (h : c.InRange) {parts whole : Countdown}
    (hparts : parts = (c.timer.elapse (Saturating.mul a c.core.clocksPerUs)).elapse
      (Saturating.mul b c.core.clocksPerUs))
    (hwhole : whole = c.timer.elapse (Saturating.mul (a + b) c.core.clocksPerUs)) :
    { parts with current := 0 } = { whole with current := 0 } ∧
      (parts.current = whole.current ↔ c.TimerAlike a b) := by
  have hreload : c.timer.reload.toNat < 2 ^ 32 - 1 :=
    Nat.lt_of_le_of_lt (UInt32.le_iff_toNat_le.1 h.reload) (by decide)
  subst hparts hwhole
  unfold TimerAlike
  cases henabled : c.timer.enabled with
  | false =>
    rw [Countdown.elapse_of_disabled henabled, Countdown.elapse_of_disabled henabled,
      Countdown.elapse_of_disabled henabled]
    exact ⟨rfl, iff_of_true rfl (.inl rfl)⟩
  | true =>
    have ha := clipped_clocks a c
    have hb := clipped_clocks b c
    have hsum := clipped_clocks_add hab c
    have hflag := Countdown.elapse_elapse_expired henabled ha hb hsum hreload
    rw [Countdown.elapse_elapse_current_iff henabled ha hb hsum hreload]
    refine ⟨?_, .inr, fun halike => halike.resolve_left Bool.noConfusion⟩
    simp only [Countdown.elapse_reload, Countdown.elapse_enabled, hflag]

/-- Any stretch of time may pass on a chip with valid settings, and may be cut in two. The whole stretch
and its two parts leave the same chip, but for the count of the timer and the real-time counter. The count
is the same exactly if the timer stands still or the clocks that the two parts come to beyond the clipped
whole are made of its periods, and the real-time counter exactly if the parts come to no cycles beyond the
clipped whole. -/
theorem cut_unseen_iff (hs : s.validate = .ok s) (hc : Reached s c) :
    ∃ part parts whole, c.elapse a = .ok part ∧ part.elapse b = .ok parts ∧
      c.elapse (a + b) = .ok whole ∧ parts.countsAside = whole.countsAside ∧
      (parts.timer.current = whole.timer.current ↔ c.TimerAlike a b) ∧
      (parts.rtc.counter = whole.rtc.counter ↔ c.CounterAlike a b) ∧
      (parts = whole ↔ c.TimerAlike a b ∧ c.CounterAlike a b) := by
  have h := hc.inRange (Settings.validate_eq_ok.1 hs).1
  obtain ⟨part, hpart⟩ := elapse_of_reduced h.residue a
  obtain ⟨parts, hparts⟩ := elapse_of_reduced (h.elapse hpart).residue b
  obtain ⟨whole, hwhole⟩ := elapse_of_reduced h.residue (a + b)
  have hcounter : parts.rtc.counter = whole.rtc.counter ↔ c.CounterAlike a b := by
    obtain ⟨-, rfl⟩ := elapse_eq_ok.1 hpart
    obtain ⟨-, rfl⟩ := elapse_eq_ok.1 hparts
    obtain ⟨-, rfl⟩ := elapse_eq_ok.1 hwhole
    exact RealTimeCounter.counter_elapsed_elapsed_iff hab
  obtain ⟨haside, hcount⟩ : parts.countsAside = whole.countsAside ∧
      (parts.timer.current = whole.timer.current ↔ c.TimerAlike a b) := by
    obtain ⟨-, rfl⟩ := elapse_eq_ok.1 hpart
    obtain ⟨-, rfl⟩ := elapse_eq_ok.1 hparts
    obtain ⟨-, rfl⟩ := elapse_eq_ok.1 hwhole
    obtain ⟨htimer, hcount⟩ := timer_elapsed hab h rfl rfl
    have hrtc := RealTimeCounter.elapsed_elapsed_aside (r := c.rtc) hab
    have hpower : { c.power with freeCounterUs := c.power.freeCounterUs + a + b } =
        { c.power with freeCounterUs := c.power.freeCounterUs + (a + b) } := by
      rw [UInt32.add_assoc]
    refine ⟨?_, hcount⟩
    unfold countsAside
    rw [Chip.mk.injEq]
    exact ⟨htimer, hrtc, hpower, rfl, rfl, rfl⟩
  refine ⟨part, parts, whole, hpart, hparts, hwhole, haside, hcount, hcounter, ?_⟩
  rw [eq_iff_of_countsAside haside, hcount, hcounter]

end

/-- Four milliseconds of standard settings fit, wherever they are cut. -/
theorem four_milliseconds_cut : ∃ c part whole : Chip, Chip.fresh {} = .ok c ∧
    c.elapse 1500 = .ok part ∧ part.elapse 2500 = .ok whole ∧ c.elapse 4000 = .ok whole := by
  have hfresh : Chip.fresh {} = .ok { timer := .running 23999, core := { clocksPerUs := 24 } } := rfl
  obtain ⟨part, parts, whole, hpart, hparts, hwhole, -, -, -, halike⟩ :=
    cut_unseen_iff (a := 1500) (b := 2500) (by decide) (by decide) (.fresh hfresh)
  obtain rfl := halike.2 (alike_of_fits (by decide) (by decide) (by decide))
  exact ⟨_, part, parts, hfresh, hpart, hparts, hwhole⟩

/-- Three minutes have more clocks than fit a word, and their two halves have not. -/
theorem halves_ahead_of_whole : ∃ c part parts whole : Chip, Chip.fresh {} = .ok c ∧
    c.elapse 89478486 = .ok part ∧ part.elapse 89478486 = .ok parts ∧
    c.elapse (89478486 + 89478486) = .ok whole ∧
    parts.timer.current = 671 ∧ whole.timer.current = 704 := by
  have hfresh : Chip.fresh {} = .ok { timer := .running 23999, core := { clocksPerUs := 24 } } := rfl
  exact ⟨_, _, _, _, hfresh, elapse_eq_ok.2 ⟨by decide, rfl⟩, elapse_eq_ok.2 ⟨by decide, rfl⟩,
    elapse_eq_ok.2 ⟨by decide, rfl⟩, by decide +kernel, by decide +kernel⟩

end Chip

end Tickless
