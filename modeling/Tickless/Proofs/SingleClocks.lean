import Mathlib.Data.Nat.ModEq
import Mathlib.Data.UInt
import Mathlib.Logic.Function.Iterate
import Tickless.Proofs.Countdown
import Tickless.Settings

/-!
# Clock by clock

The timer is advanced by any number of clocks at once. What a number of clocks means is one clock taken as
often: `Countdown.tick`, iterated. The two agree for every timer that runs, whatever its registers hold. So
a stretch of clocks may be cut anywhere, and from its first expiry on the timer is known by the clocks since
then, modulo its period.
-/

namespace Tickless.Countdown

variable {t : Countdown}

/-! ## One clock -/

theorem tick_of_zero (h : t.current = 0) :
    t.tick = { t with current := t.reload, expired := t.expired || t.reload = 0 } := by
  unfold tick
  rw [if_pos h]

theorem tick_of_ne_zero (h : t.current ≠ 0) :
    t.tick = { t with current := t.current - 1, expired := t.expired || t.current - 1 = 0 } := by
  unfold tick
  rw [if_neg h]

/-- From a zero on, the count goes the way of a clock: the reload value after a zero, else one less. -/
theorem countAfterZero_succ (reload : UInt32) (n : Nat) :
    countAfterZero reload (n + 1) =
      if countAfterZero reload n = 0 then reload else countAfterZero reload n - 1 := by
  have hword := word_lt reload
  have hgone : n % (reload.toNat + 1) < reload.toNat + 1 := Nat.mod_lt _ (Nat.succ_pos _)
  unfold countAfterZero
  rw [← Nat.mod_add_mod n (reload.toNat + 1) 1]
  generalize n % (reload.toNat + 1) = gone at *
  by_cases hzero : gone = 0
  · rw [hzero, if_pos rfl, if_pos rfl]
    by_cases hnone : reload.toNat = 0
    · rw [hnone, if_pos rfl]
      exact (UInt32.toNat_inj.1 hnone).symm
    · rw [Nat.mod_eq_of_lt (by omega), if_neg (by omega), Nat.add_sub_cancel, UInt32.ofNat_toNat]
  · have hleft : (UInt32.ofNat (reload.toNat + 1 - gone)).toNat = reload.toNat + 1 - gone :=
      toNat_word (by omega)
    have hpos : UInt32.ofNat (reload.toNat + 1 - gone) ≠ 0 := word_ne_zero (by omega)
    have hpred : (UInt32.ofNat (reload.toNat + 1 - gone) - 1).toNat = reload.toNat - gone := by
      rw [toNat_sub_one (toNat_pos hpos), hleft]
      omega
    rw [if_neg hzero, if_neg hpos, ← UInt32.toNat_inj, hpred]
    by_cases hlast : gone = reload.toNat
    · -- the period is over with this clock
      rw [hlast, Nat.mod_self, if_pos rfl, Nat.sub_self]
      rfl
    · rw [Nat.mod_eq_of_lt (by omega), if_neg (by omega), toNat_word (by omega)]
      omega

/-! ## One more clock -/

theorem runDown_of_lt {n : UInt32} (h : n.toNat < t.current.toNat) :
    t.runDown n = { t with current := t.current - n } := by
  unfold runDown
  rw [if_pos (UInt32.lt_iff_toNat_lt.2 h)]

theorem runDown_of_le {n : UInt32} (h : t.current.toNat ≤ n.toNat) :
    t.runDown n =
      { t with current := countAfterZero t.reload (n.toNat - t.current.toNat), expired := true } := by
  unfold runDown
  rw [if_neg (by rw [UInt32.lt_iff_toNat_lt]; omega), toNat_sub_word h]

theorem tick_runDown {n : UInt32} (h : n.toNat + 1 < 2 ^ 32) :
    (t.runDown n).tick = t.runDown (n + 1) := by
  have hnext : (n + 1).toNat = n.toNat + 1 := toNat_add_one h
  rcases Nat.lt_trichotomy (n.toNat + 1) t.current.toNat with hlt | heq | hgt
  · -- the zero is still ahead
    have hpos : t.current - n ≠ 0 := sub_ne_zero_of_ne (ne_of_toNat_lt (by omega)).symm
    have hrest : t.current - (n + 1) ≠ 0 := sub_ne_zero_of_ne (ne_of_toNat_lt (by omega)).symm
    rw [runDown_of_lt (by omega), runDown_of_lt (by omega), tick_of_ne_zero hpos]
    simp [sub_sub, hrest]
  · -- this clock is the one to zero
    have hlast : n + 1 = t.current := UInt32.toNat_inj.1 (by omega)
    have hpos : t.current - n ≠ 0 := sub_ne_zero_of_ne (ne_of_toNat_lt (by omega)).symm
    rw [runDown_of_lt (by omega), runDown_of_le (by omega), tick_of_ne_zero hpos]
    simp [sub_sub, hlast, countAfterZero]
  · have hsince : n.toNat + 1 - t.current.toNat = n.toNat - t.current.toNat + 1 := by omega
    rw [runDown_of_le (by omega), runDown_of_le (by omega), hnext, hsince, countAfterZero_succ]
    rfl

theorem runDown_zero (h : t.current ≠ 0) : t.runDown 0 = t := by
  have hpos : (0 : UInt32).toNat < t.current.toNat := toNat_pos h
  rw [runDown_of_lt hpos, UInt32.sub_zero]

/-- The clock after a zero loads the reload value, which may be an expiry at once. -/
theorem runDown_reloaded (h : t.current = 0) : { t with current := t.reload }.runDown 0 = t.tick := by
  rw [tick_of_zero h]
  by_cases hnone : t.reload = 0
  · rw [runDown_of_le (by simp [hnone])]
    simp [hnone, countAfterZero]
  · have hpos : (0 : UInt32).toNat < t.reload.toNat := toNat_pos hnone
    rw [runDown_of_lt hpos]
    simp [hnone]

theorem elapse_of_zero (henabled : t.enabled = true) (h : t.current = 0) {n : UInt32} (hn : n ≠ 0) :
    t.elapse n = { t with current := t.reload }.runDown (n - 1) := by
  unfold elapse
  rw [if_neg (by simp [henabled, hn]), if_pos h]

theorem elapse_of_ne_zero (henabled : t.enabled = true) (h : t.current ≠ 0) (n : UInt32) :
    t.elapse n = t.runDown n := by
  by_cases hn : n = 0
  · rw [hn, elapse_zero, runDown_zero h]
  · unfold elapse
    rw [if_neg (by simp [henabled, hn]), if_neg h]

theorem tick_elapse (henabled : t.enabled = true) {n : UInt32} (hn : n.toNat + 1 < 2 ^ 32) :
    (t.elapse n).tick = t.elapse (n + 1) := by
  have hnext : n + 1 ≠ 0 := word_ne_zero (by rw [toNat_add_one hn]; omega)
  by_cases hzero : t.current = 0
  · rw [elapse_of_zero henabled hzero hnext, UInt32.add_sub_cancel]
    by_cases hnone : n = 0
    · rw [hnone, elapse_zero, runDown_reloaded hzero]
    · have hpred : (n - 1).toNat = n.toNat - 1 := toNat_sub_one (toNat_pos hnone)
      rw [elapse_of_zero henabled hzero hnone, tick_runDown (by omega), UInt32.sub_add_cancel]
  · rw [elapse_of_ne_zero henabled hzero, elapse_of_ne_zero henabled hzero, tick_runDown hn]

/-! ## Any number of clocks -/

/-- The timer advanced at once is the timer advanced clock by clock. -/
theorem elapse_word (henabled : t.enabled = true) {n : Nat} (hn : n < 2 ^ 32) :
    t.elapse (UInt32.ofNat n) = tick^[n] t := by
  induction n with
  | zero => exact elapse_zero t
  | succ n ih =>
    have hword : (UInt32.ofNat n).toNat = n := toNat_word (by omega)
    rw [Function.iterate_succ_apply', ← ih (by omega), tick_elapse henabled (by omega),
      UInt32.ofNat_add]
    rfl

theorem elapse_eq_iterate (henabled : t.enabled = true) (n : UInt32) :
    t.elapse n = tick^[n.toNat] t := by
  rw [← elapse_word henabled (word_lt n), UInt32.ofNat_toNat]

theorem elapse_elapse_eq_iterate (henabled : t.enabled = true) (a b : UInt32) :
    (t.elapse a).elapse b = tick^[a.toNat + b.toNat] t := by
  have hafter : (t.elapse a).enabled = true := by rw [elapse_enabled, henabled]
  rw [elapse_eq_iterate hafter, elapse_eq_iterate henabled, ← Function.iterate_add_apply, Nat.add_comm]

/-! ## The first expiry -/

theorem toNat_clocksToExpiry_of_zero (hreload : t.reload.toNat < 2 ^ 32 - 1) (h : t.current = 0) :
    t.clocksToExpiry.toNat = t.reload.toNat + 1 := by
  have hsum : (Saturating.add t.reload 1).toNat = min (t.reload.toNat + 1) (2 ^ 32 - 1) :=
    toNat_saturating_add t.reload 1
  unfold clocksToExpiry
  rw [if_pos h, hsum]
  omega

theorem toNat_clocksToExpiry_of_ne_zero (h : t.current ≠ 0) :
    t.clocksToExpiry.toNat = t.current.toNat := by
  unfold clocksToExpiry
  rw [if_neg h]

theorem clocksToExpiry_pos (t : Countdown) : 0 < t.clocksToExpiry.toNat := by
  by_cases h : t.current = 0
  · unfold clocksToExpiry
    rw [if_pos h, toNat_saturating_add]
    exact Nat.lt_min.2 ⟨Nat.lt_add_left _ (by decide), by decide⟩
  · rw [toNat_clocksToExpiry_of_ne_zero h]
    exact toNat_pos h

/-- A clock is the one of the expiry, or it brings the expiry one clock nearer and leaves the flag. -/
theorem tick_nearer (hreload : t.reload.toNat < 2 ^ 32 - 1) :
    t.clocksToExpiry.toNat = 1 ∧ t.tick = { t with current := 0, expired := true } ∨
      t.clocksToExpiry.toNat = t.tick.clocksToExpiry.toNat + 1 ∧ t.tick.expired = t.expired := by
  by_cases hzero : t.current = 0
  · rw [toNat_clocksToExpiry_of_zero hreload hzero, tick_of_zero hzero]
    by_cases hnone : t.reload = 0
    · exact .inl ⟨by rw [hnone]; rfl, by simp [hnone]⟩
    · refine .inr ⟨?_, by simp [hnone]⟩
      rw [toNat_clocksToExpiry_of_ne_zero hnone]
  · have hpos : 0 < t.current.toNat := toNat_pos hzero
    have hpred : (t.current - 1).toNat = t.current.toNat - 1 := toNat_sub_one hpos
    rw [toNat_clocksToExpiry_of_ne_zero hzero, tick_of_ne_zero hzero]
    by_cases hlast : t.current - 1 = 0
    · have hnone : (t.current - 1).toNat = 0 := congrArg UInt32.toNat hlast
      exact .inl ⟨by omega, by simp [hlast]⟩
    · refine .inr ⟨?_, by simp [hlast]⟩
      rw [toNat_clocksToExpiry_of_ne_zero hlast]
      show t.current.toNat = (t.current - 1).toNat + 1
      omega

theorem iterate_tick_before (hreload : t.reload.toNat < 2 ^ 32 - 1) {n : Nat}
    (h : n < t.clocksToExpiry.toNat) : (tick^[n] t).expired = t.expired := by
  induction n generalizing t with
  | zero => rfl
  | succ n ih =>
    rcases tick_nearer hreload with ⟨hone, -⟩ | ⟨hnearer, hflag⟩
    · omega
    · rw [Function.iterate_succ_apply, ih (t := t.tick) hreload (by omega), hflag]

/-- On the clock of the expiry the count is zero and the flag goes up. -/
theorem iterate_tick_at (hreload : t.reload.toNat < 2 ^ 32 - 1) {n : Nat}
    (h : n = t.clocksToExpiry.toNat) : tick^[n] t = { t with current := 0, expired := true } := by
  induction n generalizing t with
  | zero => exact absurd h (Nat.ne_of_lt t.clocksToExpiry_pos)
  | succ n ih =>
    rw [Function.iterate_succ_apply]
    rcases tick_nearer hreload with ⟨hone, hexpiry⟩ | ⟨hnearer, -⟩
    · have hnone : n = 0 := by omega
      rw [hnone, hexpiry]
      rfl
    · exact ih (t := t.tick) hreload (by omega)

theorem iterate_tick_from_zero (n : Nat) :
    tick^[n] { t with current := 0, expired := true } =
      { t with current := countAfterZero t.reload n, expired := true } := by
  induction n with
  | zero => simp [countAfterZero]
  | succ n ih =>
    rw [Function.iterate_succ_apply', ih, countAfterZero_succ]
    rfl

/-- From the expiry on, the timer is known by the clocks since then. -/
theorem iterate_tick_after (hreload : t.reload.toNat < 2 ^ 32 - 1) {n : Nat}
    (h : t.clocksToExpiry.toNat ≤ n) :
    tick^[n] t =
      { t with current := countAfterZero t.reload (n - t.clocksToExpiry.toNat), expired := true } := by
  obtain ⟨late, rfl⟩ := Nat.exists_eq_add_of_le h
  rw [Nat.add_comm, Function.iterate_add_apply, iterate_tick_at hreload rfl, iterate_tick_from_zero,
    Nat.add_sub_cancel]

/-- The count after a zero tells the clocks since then, modulo the period. -/
theorem countAfterZero_eq_iff (reload : UInt32) {m n : Nat} :
    countAfterZero reload m = countAfterZero reload n ↔ m ≡ n [MOD reload.toNat + 1] := by
  constructor
  · intro h
    have hshown : clocksShown reload m = clocksShown reload n := by
      rw [← toNat_reload_sub_countAfterZero, ← toNat_reload_sub_countAfterZero, h]
    exact Nat.ModEq.add_right_cancel' _ hshown
  · intro h
    unfold countAfterZero
    rw [h]

/-- After the expiry, more clocks show nothing exactly if they are whole periods. -/
theorem iterate_tick_add_iff (hreload : t.reload.toNat < 2 ^ 32 - 1) {n more : Nat}
    (h : t.clocksToExpiry.toNat ≤ n) :
    (tick^[n + more] t).current = (tick^[n] t).current ↔ t.reload.toNat + 1 ∣ more := by
  have hlate : n - t.clocksToExpiry.toNat ≤ n + more - t.clocksToExpiry.toNat := by omega
  have hmore : n + more - t.clocksToExpiry.toNat - (n - t.clocksToExpiry.toNat) = more := by omega
  rw [iterate_tick_after hreload h, iterate_tick_after hreload (Nat.le_add_right_of_le h)]
  show countAfterZero _ _ = countAfterZero _ _ ↔ _
  rw [eq_comm, countAfterZero_eq_iff, Nat.modEq_iff_dvd' hlate, hmore]

/-- The expiry raises the flag of a timer, and nothing before it does. -/
theorem expired_iterate_tick_iff (hreload : t.reload.toNat < 2 ^ 32 - 1) (hflag : t.expired = false)
    {n : Nat} : (tick^[n] t).expired = true ↔ t.clocksToExpiry.toNat ≤ n := by
  by_cases h : t.clocksToExpiry.toNat ≤ n
  · rw [iterate_tick_after hreload h]
    exact ⟨fun _ => h, fun _ => rfl⟩
  · rw [iterate_tick_before hreload (Nat.lt_of_not_le h), hflag]
    exact ⟨fun hraised => (Bool.false_ne_true hraised).elim, fun hle => (h hle).elim⟩

/-- A running timer advanced at once is the timer advanced clock by clock, whatever its registers hold.
So a stretch of clocks may be cut anywhere, and for a reload value that the register can hold, a timer
that was not expired is expired exactly from the end of `clocksToExpiry` clocks on. -/
theorem advanced_clock_by_clock (h : t.enabled = true) :
    (∀ n : UInt32, t.elapse n = tick^[n.toNat] t) ∧
    (∀ a b : UInt32, a.toNat + b.toNat < 2 ^ 32 → (t.elapse a).elapse b = t.elapse (a + b)) ∧
    (t.reload ≤ maxReload → t.expired = false →
      ∀ n : UInt32, (t.elapse n).expired = true ↔ t.clocksToExpiry ≤ n) := by
  refine ⟨elapse_eq_iterate h, fun a b hab => ?_, fun hreload hflag n => ?_⟩
  · rw [elapse_elapse_eq_iterate h, elapse_eq_iterate h, toNat_add_of_lt hab]
  · have hfits : t.reload.toNat ≤ maxReload.toNat := UInt32.le_iff_toNat_le.1 hreload
    rw [elapse_eq_iterate h, expired_iterate_tick_iff (Nat.lt_of_le_of_lt hfits (by decide)) hflag, UInt32.le_iff_toNat_le]

/-- A count above the reload value is counted down once; from then on the period is that of the reload
value. -/
theorem stray_count_clock_by_clock :
    let t : Countdown := { reload := 5, current := 9, enabled := true }
    t.elapse 23 = tick^[23] t ∧ (t.elapse 8).elapse 15 = t.elapse 23 ∧
      (t.elapse 9).expired = true ∧ (t.elapse 8).expired = false := by
  obtain ⟨hclocks, hcut, hexpiry⟩ :=
    advanced_clock_by_clock (t := { reload := 5, current := 9, enabled := true }) rfl
  have hraised := hexpiry (by decide) rfl
  refine ⟨hclocks 23, hcut 8 15 (by decide), (hraised 9).2 (by decide), ?_⟩
  exact Bool.eq_false_iff.2 fun h => absurd ((hraised 8).1 h) (by decide)

end Tickless.Countdown
