import Tickless.Proofs.Words
import Tickless.Simulation.Countdown

/-!
# The tick timer over time

What a stretch of time does to the timer: it keeps the reload value, stays within it, and after a
clear of the count it shows how many clocks have passed until it expires. The clear leaves a count
of zero, and the first clock loads the reload value; so a count of zero that is not an expiry means
that no clock has passed at all. After an expiry it shows the clocks since the reload in the same way,
and a count of zero looks like the end of another period.
-/

namespace Tickless.Countdown

variable {t : Countdown}

/-! ## Frame -/

theorem runDown_reload (t : Countdown) (n : UInt32) : (t.runDown n).reload = t.reload := by
  unfold runDown
  split <;> rfl

theorem runDown_enabled (t : Countdown) (n : UInt32) : (t.runDown n).enabled = t.enabled := by
  unfold runDown
  split <;> rfl

theorem elapse_of_disabled (h : t.enabled = false) (n : UInt32) : t.elapse n = t := by
  unfold elapse
  rw [if_pos (by rw [h]; rfl)]

theorem elapse_reload (t : Countdown) (n : UInt32) : (t.elapse n).reload = t.reload := by
  unfold elapse
  split
  · rfl
  · split <;> exact runDown_reload _ _

theorem elapse_enabled (t : Countdown) (n : UInt32) : (t.elapse n).enabled = t.enabled := by
  unfold elapse
  split
  · rfl
  · split <;> exact runDown_enabled _ _

/-! ## The count stays within the reload value -/

theorem countAfterZero_le (reload : UInt32) (n : Nat) : countAfterZero reload n ≤ reload := by
  have hr := reload.toNat_lt
  rw [UInt32.le_iff_toNat_le]
  unfold countAfterZero
  show (if n % (reload.toNat + 1) = 0 then (0 : UInt32)
    else UInt32.ofNat (reload.toNat + 1 - n % (reload.toNat + 1))).toNat ≤ _
  split
  · exact Nat.zero_le _
  · rw [UInt32.toNat_ofNat_of_lt' (by show _ < 2 ^ 32; omega)]
    omega

theorem runDown_current_le (h : t.current ≤ t.reload) (n : UInt32) :
    (t.runDown n).current ≤ t.reload := by
  unfold runDown
  split
  · next hn =>
    rw [UInt32.le_iff_toNat_le] at h ⊢
    rw [UInt32.lt_iff_toNat_lt] at hn
    show (t.current - n).toNat ≤ _
    rw [toNat_sub_word (by omega)]
    omega
  · exact countAfterZero_le _ _

/-- A timer whose count is within its reload value keeps it there. -/
theorem elapse_current_le (h : t.current ≤ t.reload) (n : UInt32) :
    (t.elapse n).current ≤ t.reload := by
  unfold elapse
  split
  · exact h
  · split
    · exact runDown_current_le (t := { t with current := t.reload }) (by simp) _
    · exact runDown_current_le h _

/-! ## After a clear -/

/-- Up to the reload value, the clocks since a clear are read off the count. -/
theorem elapse_cleared_of_le {reload n : UInt32} (h1 : 1 ≤ n.toNat) (hn : n.toNat ≤ reload.toNat) :
    elapse n { reload, current := 0, enabled := true, expired := false } =
      { reload, current := reload - (n - 1), enabled := true, expired := false } := by
  have hsub : (n - 1).toNat = n.toNat - 1 := toNat_sub_one h1
  have hne : n ≠ 0 := word_ne_zero h1
  unfold elapse
  rw [if_neg (by simp [hne]), if_pos rfl]
  unfold runDown
  rw [if_pos (by rw [UInt32.lt_iff_toNat_lt, hsub]; show _ < reload.toNat; omega)]

/-- Past the reload value, the timer has expired and runs on from zero. -/
theorem elapse_cleared_of_lt {reload n : UInt32} (hn : reload.toNat < n.toNat) :
    elapse n { reload, current := 0, enabled := true, expired := false } =
      { reload, current := countAfterZero reload (n.toNat - 1 - reload.toNat), enabled := true,
        expired := true } := by
  have hpos : 0 < n.toNat := Nat.lt_of_le_of_lt (Nat.zero_le _) hn
  have hsub : (n - 1).toNat = n.toNat - 1 := toNat_sub_one hpos
  have hne : n ≠ 0 := word_ne_zero hpos
  have hge : (n - 1 - reload).toNat = n.toNat - 1 - reload.toNat := by
    rw [toNat_sub_word (by omega), hsub]
  unfold elapse
  rw [if_neg (by simp [hne]), if_pos rfl]
  unfold runDown
  rw [if_neg (by rw [UInt32.lt_iff_toNat_lt, hsub]; show ¬ _ < reload.toNat; omega)]
  show ({ reload, current := countAfterZero reload (n - 1 - reload).toNat, enabled := true,
          expired := true } : Countdown) = _
  rw [hge]

theorem elapse_zero (t : Countdown) : t.elapse 0 = t := by
  unfold elapse
  rw [if_pos (by simp)]

/-! ## After an expiry -/

/-- The clocks since the timer reloaded itself, as its count tells them some clocks after an expiry. -/
def clocksShown (reload : UInt32) (late : Nat) : Nat :=
  (late + reload.toNat) % (reload.toNat + 1)

theorem clocksShown_le (reload : UInt32) (late : Nat) : clocksShown reload late ≤ reload.toNat :=
  Nat.le_of_lt_succ (Nat.mod_lt _ (Nat.succ_pos _))

/-- On the clock of the expiry the count is zero, and it looks as if the whole period were over again. -/
theorem clocksShown_zero (reload : UInt32) : clocksShown reload 0 = reload.toNat := by
  unfold clocksShown
  rw [Nat.zero_add]
  exact Nat.mod_eq_of_lt (Nat.lt_succ_self _)

/-- One clock goes into the reload. -/
theorem clocksShown_of_pos (reload : UInt32) {late : Nat} (h : 1 ≤ late) :
    clocksShown reload late = (late - 1) % (reload.toNat + 1) := by
  have hperiod : late + reload.toNat = late - 1 + (reload.toNat + 1) := by omega
  unfold clocksShown
  rw [hperiod, Nat.add_mod_right]

theorem toNat_reload_sub_countAfterZero (reload : UInt32) (late : Nat) :
    (reload - countAfterZero reload late).toNat = clocksShown reload late := by
  have hword := word_lt reload
  have hmod : late % (reload.toNat + 1) < reload.toNat + 1 := Nat.mod_lt _ (Nat.succ_pos _)
  rw [UInt32.toNat_sub_of_le _ _ (countAfterZero_le reload late)]
  unfold clocksShown countAfterZero
  rw [Nat.add_mod, Nat.mod_eq_of_lt (Nat.lt_succ_self reload.toNat)]
  generalize late % (reload.toNat + 1) = gone at *
  by_cases hgone : gone = 0
  · -- the count is zero, so all of the reload value is missing from it
    simp only [hgone, if_true, Nat.zero_add]
    exact (Nat.mod_eq_of_lt (Nat.lt_succ_self _)).symm
  · have hperiod : gone + reload.toNat = gone - 1 + (reload.toNat + 1) := by omega
    simp only [hgone, if_false]
    rw [toNat_word (by omega), hperiod, Nat.add_mod_right, Nat.mod_eq_of_lt (by omega)]
    omega

end Tickless.Countdown
