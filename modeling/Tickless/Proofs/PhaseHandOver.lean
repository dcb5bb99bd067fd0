import Mathlib.Tactic.FieldSimp
import Mathlib.Tactic.Linarith
import Tickless.Proofs.AccessOrder

/-!
# The phase between two sleeps

A deep sleep ends within a tick. The timer is restarted with what is left of that tick, and the next entry
reads the part that is over back off the count. On the way there microseconds are rounded down to counts,
on the way back counts to microseconds, and the clock on which the timer loads its reload value is not seen.
So an entry never takes more of the tick for over than is, and it misses less than two counts and a
microsecond. A third count is missed where nothing is left of the tick and the timer is given a clock all
the same.
-/

namespace Tickless

/-! ## The reload value of a restart -/

namespace Settings

/-- The whole counts of the phase that a sleep leaves over. -/
def phaseCounts (s : Settings) (phaseUs : UInt32) : Nat :=
  phaseUs.toNat * s.perTick / s.period

variable {s : Settings} (hs : s.Valid) {phaseUs : UInt32}

include hs

theorem Valid.phaseCounts_lt (h : phaseUs.toNat < s.period) : s.phaseCounts phaseUs < s.perTick :=
  mul_div_lt h hs.perTick_pos

/-- A phase within a tick leaves the rest of the tick, and at least one clock. -/
theorem Valid.toNat_resumeReload (h : phaseUs.toNat < s.period) :
    (s.resumeReload phaseUs).toNat = max (s.perTick - 1 - s.phaseCounts phaseUs) 1 := by
  have hper := hs.perTick_lt
  have hcounts := hs.phaseCounts_lt h
  unfold resumeReload
  show (UInt32.ofNat (max (s.perTick - 1 -
    min (UInt32.ofNat (s.phaseCounts phaseUs)).toNat (s.perTick - 1)) 1)).toNat = _
  rw [toNat_word (n := s.phaseCounts phaseUs) (by omega), Nat.min_eq_left (by omega),
    toNat_word (by omega)]

theorem Valid.one_le_resumeReload (h : phaseUs.toNat < s.period) :
    1 ≤ (s.resumeReload phaseUs).toNat := by
  rw [hs.toNat_resumeReload h]
  exact Nat.le_max_right _ _

theorem Valid.resumeReload_le (h : phaseUs.toNat < s.period) :
    (s.resumeReload phaseUs).toNat ≤ maxReload.toNat := by
  have hper := hs.perTick_le
  have hmax := toNat_maxReload
  rw [hs.toNat_resumeReload h]
  omega

end Settings

namespace Bench

variable {s : Settings} (hs : s.Valid)

include hs

/-- The restart of the tick begins with the timer, whether it comes to its end or not. -/
theorem events_of_reactivate {e : Elapsed} {b b' : Bench}
    (h : (∃ u, reactivate s e b = .ok u b') ∨ ∃ h, reactivate s e b = .error h b') :
    ∃ later, b'.chip.events =
      ([.timerReload (s.resumeReload e.phaseUs), .timerReset, .timerEnable] ++ later).foldl
        (fun t e => t.push e) b.chip.events := by
  rw [reactivate_eq hs] at h
  cases hstep : b.kernel.step e.wholeTicks with
  | ok k =>
    simp only [hstep, EStateM.Result.ok.injEq, reduceCtorEq, exists_false, or_false] at h
    obtain ⟨_, -, rfl⟩ := h
    refine ⟨[.timerReload (UInt32.ofNat (s.perTick - 1)), .unmaskInterrupts], ?_⟩
    simp only [Chip.events_unmaskInterrupts, Chip.events_resynced, List.cons_append, List.nil_append,
      List.foldl_cons, List.foldl_nil]
  | error x =>
    simp only [hstep, EStateM.Result.error.injEq, reduceCtorEq, exists_false, false_or] at h
    obtain ⟨_, -, rfl⟩ := h
    refine ⟨[], ?_⟩
    simp only [Chip.restarted, Chip.events_startTimer, Chip.events_clearCount, Chip.events_setReload,
      List.append_nil, List.foldl_cons, List.foldl_nil]

end Bench

/-! ## What the next entry reads -/

section

variable {s : Settings} (hs : s.Valid) {phaseUs n : UInt32}

include hs

/-- Some clocks after the restart, the count shows the counts of the phase and all clocks but the one of
the reload. If nothing was left of the tick, the clock that the timer was given is not seen either. -/
theorem Settings.Valid.counts_after_restart (h : phaseUs.toNat < s.period) (h1 : 1 ≤ n.toNat)
    (hn : n.toNat ≤ (s.resumeReload phaseUs).toNat) {timer : Countdown}
    (htimer : timer = Countdown.elapse n
      { reload := s.resumeReload phaseUs, current := 0, enabled := true, expired := false }) :
    s.perTick - 1 - timer.current.toNat + 1 ≤ s.phaseCounts phaseUs + n.toNat ∧
      s.phaseCounts phaseUs + n.toNat ≤ s.perTick - 1 - timer.current.toNat + 2 := by
  have hcounts := hs.phaseCounts_lt h
  have hreload := hs.toNat_resumeReload h
  have hpred : (n - 1).toNat = n.toNat - 1 := toNat_sub_one h1
  have hcurrent : timer.current.toNat = (s.resumeReload phaseUs).toNat - (n.toNat - 1) := by
    rw [htimer, Countdown.elapse_cleared_of_le h1 hn]
    show (s.resumeReload phaseUs - (n - 1)).toNat = _
    rw [toNat_sub_word (by omega), hpred]
  rw [hcurrent]
  -- the clock of the reload is missing, and one more where the reload value was brought up to one
  omega

end

/-! ## The two roundings -/

/-- A phase in microseconds that is rounded down to counts, and counts that are rounded down to
microseconds, with one or two counts missing in between. -/
theorem handed_over_bounds {period perTick phase counts n shown carried : Nat} (hperiod : 0 < period)
    (hper : 0 < perTick) (hcounts : counts = phase * perTick / period)
    (hcarried : carried = shown * period / perTick) (hle : shown + 1 ≤ counts + n)
    (hlt : counts + n ≤ shown + 2) :
    carried * perTick ≤ phase * perTick + n * period ∧
      phase * perTick + n * period < carried * perTick + (3 * period + perTick) := by
  have hdown : counts * period ≤ phase * perTick := hcounts ▸ Nat.div_mul_le_self _ _
  have hup : phase * perTick < (counts + 1) * period := by
    rw [hcounts, Nat.mul_comm _ period]
    exact Nat.lt_mul_div_succ _ hperiod
  have hback : carried * perTick ≤ shown * period := hcarried ▸ Nat.div_mul_le_self _ _
  have hforth : shown * period < (carried + 1) * perTick := by
    rw [hcarried, Nat.mul_comm _ perTick]
    exact Nat.lt_mul_div_succ _ hper
  constructor
  · calc carried * perTick ≤ shown * period := hback
      _ ≤ (counts + n) * period := Nat.mul_le_mul_right _ (by omega)
      _ = counts * period + n * period := Nat.add_mul _ _ _
      _ ≤ phase * perTick + n * period := Nat.add_le_add_right hdown _
  · calc phase * perTick + n * period
        < (counts + 1) * period + n * period := Nat.add_lt_add_right hup _
      _ = (counts + n + 1) * period := by rw [← Nat.add_mul, Nat.add_right_comm]
      _ ≤ (shown + 3) * period := Nat.mul_le_mul_right _ (by omega)
      _ = shown * period + 3 * period := Nat.add_mul _ _ _
      _ < carried * perTick + (3 * period + perTick) := by
        rw [Nat.add_mul, Nat.one_mul] at hforth
        omega

/-- The same bounds in microseconds. -/
theorem handed_over_bounds_us {period perTick phase n carried : Nat} (hper : 0 < perTick)
    (hle : carried * perTick ≤ phase * perTick + n * period)
    (hlt : phase * perTick + n * period < carried * perTick + (3 * period + perTick)) :
    0 ≤ ((phase : ℚ) + n * (period : ℚ) / perTick) - carried ∧
      ((phase : ℚ) + n * (period : ℚ) / perTick) - carried < 3 * (period : ℚ) / perTick + 1 := by
  have hpos : (0 : ℚ) < perTick := by exact_mod_cast hper
  have hle : (carried : ℚ) * perTick ≤ phase * perTick + n * period := by exact_mod_cast hle
  have hlt : (phase : ℚ) * perTick + n * period < carried * perTick + (3 * period + perTick) := by
    exact_mod_cast hlt
  have hpassed : (phase : ℚ) + n * period / perTick = (phase * perTick + n * period) / perTick := by
    field_simp
  have hbound : (carried : ℚ) + (3 * period / perTick + 1) =
      (carried * perTick + (3 * period + perTick)) / perTick := by
    field_simp
  constructor
  · rw [sub_nonneg, hpassed, le_div_iff₀ hpos]
    exact hle
  · rw [sub_lt_iff_lt_add', hpassed, hbound]
    exact div_lt_div_of_pos_right hlt hpos

/-! ## From one sleep to the next -/

/-- The reload value of the restart fits the register and leaves the timer at least a clock. Until the timer
expires, an entry never takes more of the tick for over than is, and it misses less than three counts and a
microsecond. -/
theorem phase_handed_over {s : Settings} {e : Elapsed} (hs : s.validate = .ok s)
    (hphase : e.phaseUs.toNat < s.period) :
    (∀ b b' : Bench, ((∃ u, reactivate s e b = .ok u b') ∨ ∃ h, reactivate s e b = .error h b') →
      ∃ later, b'.chip.events =
        ([.timerReload (s.resumeReload e.phaseUs), .timerReset, .timerEnable] ++ later).foldl
          (fun t e => t.push e) b.chip.events) ∧
      (∀ c : Chip, (c.restarted (s.resumeReload e.phaseUs)).timer =
        { reload := s.resumeReload e.phaseUs, current := 0, enabled := true, expired := false }) ∧
      1 ≤ (s.resumeReload e.phaseUs).toNat ∧
      (s.resumeReload e.phaseUs).toNat ≤ maxReload.toNat ∧
      ∀ (n : UInt32) (timer : Countdown), 1 ≤ n.toNat → n.toNat ≤ (s.resumeReload e.phaseUs).toNat →
        timer = Countdown.elapse n
          { reload := s.resumeReload e.phaseUs, current := 0, enabled := true, expired := false } →
        ∃ carried, carriedPhase s timer.current = .ok carried ∧
          (∀ (ticks : UInt32) (entry : EntrySnapshot) (b : Bench) (cycle : SleepCycle) (b' : Bench),
            entry.timerCount = timer.current → powerDown s ticks entry b = .ok cycle b' →
              cycle.carriedUs = carried) ∧
          0 ≤ ((e.phaseUs.toNat : ℚ) + n.toNat * (s.period : ℚ) / s.perTick) - carried.toNat ∧
          ((e.phaseUs.toNat : ℚ) + n.toNat * (s.period : ℚ) / s.perTick) - carried.toNat <
            3 * (s.period : ℚ) / s.perTick + 1 := by
  obtain ⟨hv, -⟩ := Settings.validate_eq_ok.1 hs
  have hfits := hv.resumeReload_le hphase
  refine ⟨fun b b' h => Bench.events_of_reactivate hv h, fun c => Chip.timer_restarted hfits c,
    hv.one_le_resumeReload hphase, hfits, ?_⟩
  intro n timer h1 hn htimer
  refine ⟨UInt32.ofNat (s.phaseAt timer.current), hv.carriedPhase_eq _, ?_, ?_⟩
  · intro ticks entry b cycle b' hentry hdown
    obtain ⟨c, -, -, -, -, rfl, -⟩ := (Bench.powerDown_eq_ok hv).1 hdown
    show UInt32.ofNat (s.phaseAt entry.timerCount) = _
    rw [hentry]
  · obtain ⟨hle, hlt⟩ := hv.counts_after_restart hphase h1 hn htimer
    obtain ⟨hnone, hmissed⟩ := handed_over_bounds hv.period_pos hv.perTick_pos rfl rfl hle hlt
    rw [hv.toNat_phaseAt]
    exact handed_over_bounds_us hv.perTick_pos hnone hmissed

/-- Where a count is a microsecond and one of them is left of the tick, the timer is given a clock that is
over already, and the next entry misses two counts. -/
theorem last_microsecond_handed_over :
    Settings.validate { timerClockHz := 1000000 } = .ok { timerClockHz := 1000000 } ∧
      carriedPhase { timerClockHz := 1000000 } 1 = .ok 998 ∧
      0 ≤ (((999 : ℕ) : ℚ) + (1 : ℕ) * ((1000 : ℕ) : ℚ) / (1000 : ℕ)) - (998 : ℕ) ∧
      (((999 : ℕ) : ℚ) + (1 : ℕ) * ((1000 : ℕ) : ℚ) / (1000 : ℕ)) - (998 : ℕ) <
        3 * ((1000 : ℕ) : ℚ) / (1000 : ℕ) + 1 := by
  have hs : Settings.validate { timerClockHz := 1000000 } = .ok { timerClockHz := 1000000 } := by decide
  have hcarried : carriedPhase { timerClockHz := 1000000 } 1 = .ok 998 := by decide
  obtain ⟨-, -, -, -, hnext⟩ := phase_handed_over
    (e := { wholeTicks := 3, phaseUs := 999, source := .alarm }) hs (by decide)
  obtain ⟨carried, hread, -, hnone, hmissed⟩ := hnext 1 _ (by decide) (by decide) rfl
  obtain rfl : carried = 998 := Except.ok.inj (hread.symm.trans hcarried)
  exact ⟨hs, hcarried, hnone, hmissed⟩

end Tickless
