import Tickless.Proofs.EarlyWake

/-!
# A light sleep that the timer ends

The timer is set so that it reaches zero when the ticks of the request are over. What follows from the
reload value that is written: whether the timer can run at all, how far its expiry is from the end of the
last tick, and what the count tells about the time since the expiry. The count is read as if the timer had
reloaded itself, which it does one clock after it has expired.
-/

namespace Tickless

section

variable {s : Settings} (hs : s.Valid) {idleTicks : UInt32} {c : Chip} {b : Bench}

/-! ## The reload value -/

include hs

/-- Nothing is left for the timer to run if the last clock of a tick is all there is to sleep. -/
theorem Settings.Valid.plannedReload_pos_iff (idleTicks : UInt32) {current : UInt32}
    (hc : current.toNat < s.perTick) :
    1 ≤ (s.plannedReload idleTicks current).toNat ↔ (current.toNat = 0 → 1 < s.lightTicks idleTicks) := by
  have hone := s.one_le_lightTicks idleTicks
  rw [hs.toNat_plannedReload idleTicks hc]
  by_cases hfirst : s.lightTicks idleTicks = 1
  · rw [hfirst, Nat.sub_self, Nat.mul_zero]
    split <;> omega
  · have hmore : 0 < s.perTick * (s.lightTicks idleTicks - 1) := Nat.mul_pos hs.perTick_pos (by omega)
    split <;> omega

/-- Up to the halt a light sleep logs the same events, whether it comes to its end or not. -/
theorem Bench.events_of_sleepLightly {b' : Bench}
    (h : (∃ e, sleepLightly s idleTicks b = .ok e b') ∨ ∃ h, sleepLightly s idleTicks b = .error h b') :
    ∃ later, b'.chip.events =
      ([.timerDisable, .timerReload (s.plannedReload idleTicks b.chip.timer.current), .timerReset,
        .timerEnable, .waitForInterrupt] ++ later).foldl (fun t e => t.push e) b.chip.events := by
  rw [sleepLightly_eq hs] at h
  cases hstep : b.kernel.step (s.lightOutcome idleTicks b.chip).ticks with
  | ok k =>
    simp only [hstep, EStateM.Result.ok.injEq, reduceCtorEq, exists_false, or_false] at h
    obtain ⟨e, -, rfl⟩ := h
    exact ⟨_, Chip.events_resynced_halted s idleTicks _ b.chip⟩
  | error e =>
    simp only [hstep, EStateM.Result.error.injEq, reduceCtorEq, exists_false, false_or] at h
    obtain ⟨e, -, rfl⟩ := h
    refine ⟨[.timerDisable, .timerReload (s.lightOutcome idleTicks b.chip).nextReload, .timerReset,
      .timerEnable], ?_⟩
    simp only [Chip.setForSleep, Chip.halted, Chip.restarted, Chip.events_setReload,
      Chip.events_clearCount, Chip.events_startTimer, Chip.events_stopTimer, Chip.events_halt,
      Chip.events_takeExpired, List.cons_append, List.nil_append, List.foldl_cons, List.foldl_nil]

omit hs in
/-- The reload value that is written before the halt is what the timer holds, as it fits the register.
There is no clock for the timer to run exactly if the sleep begins on the last clock of a tick and is set
for that tick alone. -/
theorem halt_reload_in_range_iff (hs : s.validate = .ok s)
    (hc : b.chip.timer.current.toNat ≤ s.perTick - 1) :
    (∀ b', ((∃ e, sleepLightly s idleTicks b = .ok e b') ∨
        ∃ h, sleepLightly s idleTicks b = .error h b') →
      ∃ later, b'.chip.events =
        ([.timerDisable, .timerReload (s.plannedReload idleTicks b.chip.timer.current), .timerReset,
          .timerEnable, .waitForInterrupt] ++ later).foldl (fun t e => t.push e) b.chip.events) ∧
      (b.chip.setForSleep s idleTicks).timer =
        { reload := s.plannedReload idleTicks b.chip.timer.current, current := 0, enabled := true,
          expired := false } ∧
      (s.plannedReload idleTicks b.chip.timer.current).toNat ≤ maxReload.toNat ∧
      (1 ≤ (s.plannedReload idleTicks b.chip.timer.current).toNat ↔
        (b.chip.timer.current.toNat = 0 → 1 < max 1 (min idleTicks.toNat s.lightLimit))) := by
  obtain ⟨hv, -⟩ := Settings.validate_eq_ok.1 hs
  have hpos := hv.perTick_pos
  have hlt : b.chip.timer.current.toNat < s.perTick := by omega
  refine ⟨?_, Chip.setForSleep_timer hv hlt, hv.plannedReload_le idleTicks hlt,
    hv.plannedReload_pos_iff idleTicks hlt⟩
  intro b' h
  exact Bench.events_of_sleepLightly hv h

end

/-- A bench of the standard settings whose timer shows a count, with what its interrupt takes to end a
halt. -/
def Bench.atCount (current haltLatency : UInt32) : Bench :=
  { chip := {
      timer := { reload := 23999, current, enabled := true }
      core := { haltLatency } } }

/-- A sleep of two ticks that begins on the last clock of a tick leaves the timer nearly a tick to run. -/
theorem two_ticks_from_last_clock :
    (Chip.setForSleep {} 2 (Bench.atCount 0 2).chip).timer.reload = 23906 ∧
      1 ≤ (Settings.plannedReload {} 2 (Bench.atCount 0 2).chip.timer.current).toNat := by
  obtain ⟨-, htimer, -, hpos⟩ :=
    @halt_reload_in_range_iff {} 2 (Bench.atCount 0 2) (by decide) (by decide)
  rw [htimer]
  refine ⟨by decide, hpos.2 ?_⟩
  intro _
  decide

/-- A sleep of a tick that begins on the last clock of a tick halts with a timer that is set to zero. -/
theorem one_tick_from_last_clock :
    Settings.validate {} = .ok {} ∧
      (Bench.atCount 0 2).chip.timer.current.toNat ≤ Settings.perTick {} - 1 ∧
      (∃ e b', sleepLightly {} 1 (Bench.atCount 0 2) = .ok e b' ∧
        b'.chip.events.entries = Settings.lightEvents {} 0 23999) ∧
      ¬ 1 ≤ (Settings.plannedReload {} 1 (Bench.atCount 0 2).chip.timer.current).toNat :=
  ⟨by decide, by decide, ⟨_, _, rfl, by decide⟩, by decide⟩

/-! ## What the count tells -/

section

variable {s : Settings} (hs : s.Valid) {idleTicks reload : UInt32} {late : Nat} {b : Bench}

/-- The counts of the new tick that are taken for over when the timer shows some clocks since its reload.
They are dropped if they leave no more than the counts that are lost while the timer is set. -/
def Settings.tailOver (s : Settings) (shown : Nat) : Nat :=
  if shown + 1 + s.stoppedCounts.toNat < s.perTick then shown else 0

/-- The part that is taken for over is never more than the clocks since the expiry, but for the clock of
the expiry itself, on which the count has all of the reload value over again. -/
theorem Settings.tailOver_le_iff (s : Settings) (reload : UInt32) (late : Nat) :
    s.tailOver (Countdown.clocksShown reload late) ≤ late ↔
      (late = 0 → reload.toNat = 0 ∨ s.perTick ≤ reload.toNat + 1 + s.stoppedCounts.toNat) := by
  unfold Settings.tailOver
  by_cases hlate : late = 0
  · subst hlate
    rw [Countdown.clocksShown_zero]
    split <;> omega
  · have hshown := Nat.mod_le (late - 1) (reload.toNat + 1)
    rw [Countdown.clocksShown_of_pos reload (by omega)]
    split <;> omega

/-- Within the period after the expiry, all clocks but the one of the reload are seen. -/
theorem Settings.tailOver_eq (h1 : 1 ≤ late) (h : late ≤ reload.toNat)
    (hfits : late < s.perTick - s.stoppedCounts.toNat) :
    s.tailOver (Countdown.clocksShown reload late) = late - 1 := by
  rw [Countdown.clocksShown_of_pos reload h1, Nat.mod_eq_of_lt (by omega)]
  unfold Settings.tailOver
  rw [if_pos (by omega)]

include hs

theorem Settings.Valid.tailOver_lt (shown : Nat) : s.tailOver shown < s.perTick := by
  have hpos := hs.perTick_pos
  unfold Settings.tailOver
  split <;> omega

/-- The check of the next reload value finds all differences that went below zero. -/
theorem Settings.Valid.toNat_expired_nextReload (ticks : Nat) (reload count : UInt32)
    (hshown : (reload - count).toNat ≤ maxReload.toNat) :
    (s.expiredOutcome ticks reload count).nextReload.toNat =
      s.perTick - 1 - s.tailOver (reload - count).toNat := by
  have hmax := toNat_maxReload
  have hper := hs.perTick_le
  have hpos := hs.perTick_pos
  have hwhole := hs.toNat_pred_perTick
  have hperWord : (UInt32.ofNat s.perTick).toNat = s.perTick := toNat_word (by omega)
  show (if _ then _ else _ : UInt32).toNat = _
  unfold Settings.tailOver
  generalize reload - count = shown at *
  simp only [Bool.or_eq_true, decide_eq_true_eq, gt_iff_lt, UInt32.le_iff_toNat_le,
    UInt32.lt_iff_toNat_lt, hperWord]
  by_cases hfits : shown.toNat ≤ s.perTick - 1
  · -- the difference is what is left of a tick, which may be no more than the counts that are lost
    have hleft : (UInt32.ofNat (s.perTick - 1) - shown).toNat = s.perTick - 1 - shown.toNat := by
      rw [toNat_sub_word (by rwa [hwhole]), hwhole]
    rw [hleft]
    split
    · rw [hwhole, if_neg (by omega)]
      rfl
    · rw [hleft, if_pos (by omega)]
  · -- it goes below zero, and no value of the register is far enough below to come out within a tick
    have hleft : (UInt32.ofNat (s.perTick - 1) - shown).toNat =
        2 ^ 32 + (s.perTick - 1) - shown.toNat := by
      rw [UInt32.toNat_sub, hwhole, Nat.mod_eq_of_lt (by omega)]
      omega
    rw [hleft, if_pos (.inr (by omega)), hwhole, if_neg (by omega)]
    rfl

/-- The outcome of a sleep whose timer expired some clocks before it was stopped. -/
theorem Settings.Valid.expiredOutcome_late (ticks : Nat) (hreload : reload.toNat ≤ maxReload.toNat) (late : Nat) :
    s.expiredOutcome ticks reload (Countdown.countAfterZero reload late) =
      { ticks := UInt32.ofNat (ticks - 1)
        nextReload :=
          UInt32.ofNat (s.perTick - 1 - s.tailOver (Countdown.clocksShown reload late))
        phaseCounts := UInt32.ofNat (s.tailOver (Countdown.clocksShown reload late))
        source := .tickTimer } := by
  have hper := hs.perTick_lt
  have hover := hs.tailOver_lt (Countdown.clocksShown reload late)
  have hshown := Countdown.clocksShown_le reload late
  have hread := Countdown.toNat_reload_sub_countAfterZero reload late
  have hnext := hs.toNat_expired_nextReload ticks reload (Countdown.countAfterZero reload late)
    (by omega)
  rw [hread] at hnext
  have hphase : s.perTick - 1 - min (s.perTick - 1 - s.tailOver (Countdown.clocksShown reload late))
      (s.perTick - 1) = s.tailOver (Countdown.clocksShown reload late) := by omega
  have hword : (s.expiredOutcome ticks reload (Countdown.countAfterZero reload late)).nextReload =
      UInt32.ofNat (s.perTick - 1 - s.tailOver (Countdown.clocksShown reload late)) := by
    rw [← UInt32.toNat_inj, hnext, toNat_word (by omega)]
  -- the phase is worked out from the next reload value
  have houtcome : s.expiredOutcome ticks reload (Countdown.countAfterZero reload late) =
      { ticks := UInt32.ofNat (ticks - 1)
        nextReload :=
          (s.expiredOutcome ticks reload (Countdown.countAfterZero reload late)).nextReload
        phaseCounts := UInt32.ofNat (s.perTick - 1 -
          min (s.expiredOutcome ticks reload (Countdown.countAfterZero reload late)).nextReload.toNat
            (s.perTick - 1))
        source := .tickTimer } := rfl
  rw [houtcome, hnext, hword, hphase]

theorem Chip.lightOutcome_of_late {c : Chip} (hc : c.timer.current.toNat < s.perTick)
    (hlate : (c.clocksAsleep s idleTicks).toNat =
      (s.plannedReload idleTicks c.timer.current).toNat + 1 + late) :
    s.lightOutcome idleTicks c =
      { ticks := UInt32.ofNat (s.lightTicks idleTicks - 1)
        nextReload := UInt32.ofNat (s.perTick - 1 -
          s.tailOver (Countdown.clocksShown (s.plannedReload idleTicks c.timer.current) late))
        phaseCounts := UInt32.ofNat
          (s.tailOver (Countdown.clocksShown (s.plannedReload idleTicks c.timer.current) late))
        source := .tickTimer } := by
  have hafter : (c.clocksAsleep s idleTicks).toNat - 1 -
      (s.plannedReload idleTicks c.timer.current).toNat = late := by omega
  rw [Chip.lightOutcome_of_lt hs hc (by omega), hafter]
  exact hs.expiredOutcome_late _ (hs.plannedReload_le idleTicks hc) late

/-! ## The whole sleep -/

/-- What a light sleep comes to on a bench whose outcome is known. -/
theorem Bench.sleepLightly_of_outcome {whole into : Nat} {next : UInt32} {source : WakeSource}
    (houtcome : s.lightOutcome idleTicks b.chip =
      { ticks := UInt32.ofNat whole, nextReload := next, phaseCounts := UInt32.ofNat into, source })
    (hwhole : whole < 2 ^ 32) (hinto : into < s.perTick) :
    ((∃ e b', sleepLightly s idleTicks b = .ok e b') ↔
        b.kernel.tickCount.toNat + whole < 2 ^ 64) ∧
      ∀ e b', sleepLightly s idleTicks b = .ok e b' →
        e.wholeTicks.toNat = whole ∧ e.phaseUs.toNat = into * s.period / s.perTick ∧
        e.source = source ∧
        b'.kernel = { b.kernel with
          tickCount := UInt64.ofNat (b.kernel.tickCount.toNat + whole)
          steps := b.kernel.steps.push e.wholeTicks } ∧
        b'.chip.events = (s.lightEvents (s.plannedReload idleTicks b.chip.timer.current) next).foldl
          (fun t e => t.push e) b.chip.events := by
  have hper := hs.perTick_lt
  have hticks : (UInt32.ofNat whole).toNat = whole := toNat_word hwhole
  have hcounts : (UInt32.ofNat into).toNat = into := toNat_word (by omega)
  have hphase : (UInt32.ofNat (into * s.period / s.perTick)).toNat = into * s.period / s.perTick := by
    have hlt := counts_mul_div_lt hs hinto
    have hperiod := s.period_le
    exact toNat_word (by omega)
  constructor
  · constructor
    · rintro ⟨e, b', h⟩
      obtain ⟨k, hk, -, -⟩ := (Bench.sleepLightly_eq_ok hs).1 h
      rw [houtcome] at hk
      have hroom := (Kernel.step_eq_ok.1 hk).1
      rwa [hticks] at hroom
    · intro hroom
      refine ⟨_, _, (Bench.sleepLightly_eq_ok hs).2 ⟨_, Kernel.step_eq_ok.2 ⟨?_, rfl⟩, rfl, rfl⟩⟩
      rw [houtcome, hticks]
      exact hroom
  · intro e b' h
    obtain ⟨k, hk, rfl, rfl⟩ := (Bench.sleepLightly_eq_ok hs).1 h
    obtain ⟨-, rfl⟩ := Kernel.step_eq_ok.1 hk
    unfold Settings.lightElapsed Chip.lightSlept
    rw [houtcome]
    refine ⟨hticks, ?_, rfl, ?_, Chip.events_resynced_halted _ _ _ _⟩
    · show (UInt32.ofNat ((UInt32.ofNat into).toNat * s.period / s.perTick)).toNat = _
      rw [hcounts]
      exact hphase
    · simp only [hticks]

omit hs in
/-- A light sleep that the timer ends steps all its ticks but the one whose interrupt is pending. The part
of the new tick that its restart leaves out is never more than the clocks since the expiry, unless the core
is up again on the very clock of the expiry, when the timer has yet to reload: then it is all of the reload
value, if that is less than a tick. Until the timer expires once more, it is all of these clocks but the one
of the reload. -/
theorem late_wake_accounted (hs : s.validate = .ok s) (hc : b.chip.timer.current.toNat < s.perTick)
    (hlate : (b.chip.clocksAsleep s idleTicks).toNat =
      (s.plannedReload idleTicks b.chip.timer.current).toNat + 1 + late) :
    ∃ into : Nat, into = s.perTick - 1 - (s.lightOutcome idleTicks b.chip).nextReload.toNat ∧
      (into ≤ late ↔ (late = 0 → (s.plannedReload idleTicks b.chip.timer.current).toNat = 0 ∨
        s.perTick ≤ (s.plannedReload idleTicks b.chip.timer.current).toNat + 1 +
          s.stoppedCounts.toNat)) ∧
      (1 ≤ late → late ≤ (s.plannedReload idleTicks b.chip.timer.current).toNat →
        late < s.perTick - s.stoppedCounts.toNat → into = late - 1) ∧
      ((∃ e b', sleepLightly s idleTicks b = .ok e b') ↔
        b.kernel.tickCount.toNat + (s.lightTicks idleTicks - 1) < 2 ^ 64) ∧
      ∀ e b', sleepLightly s idleTicks b = .ok e b' →
        e.wholeTicks.toNat = s.lightTicks idleTicks - 1 ∧
        e.phaseUs.toNat = into * s.period / s.perTick ∧ e.source = .tickTimer ∧
        b'.kernel = { b.kernel with
          tickCount := UInt64.ofNat (b.kernel.tickCount.toNat + (s.lightTicks idleTicks - 1))
          steps := b.kernel.steps.push e.wholeTicks } ∧
        b'.chip.events = (s.lightEvents (s.plannedReload idleTicks b.chip.timer.current)
          (s.lightOutcome idleTicks b.chip).nextReload).foldl (fun t e => t.push e) b.chip.events := by
  obtain ⟨hv, -⟩ := Settings.validate_eq_ok.1 hs
  have hper := hv.perTick_lt
  have hlight := s.lightTicks_lt idleTicks
  have houtcome := Chip.lightOutcome_of_late hv hc hlate
  obtain ⟨hends, hresult⟩ := Bench.sleepLightly_of_outcome hv houtcome (by omega) (hv.tailOver_lt _)
  have hinto : s.tailOver (Countdown.clocksShown (s.plannedReload idleTicks b.chip.timer.current) late) =
      s.perTick - 1 - (s.lightOutcome idleTicks b.chip).nextReload.toNat := by
    have hlt := hv.tailOver_lt
      (Countdown.clocksShown (s.plannedReload idleTicks b.chip.timer.current) late)
    rw [houtcome, toNat_word (by omega)]
    omega
  refine ⟨_, hinto, s.tailOver_le_iff _ late, ?_, hends, ?_⟩
  · intro h1 h hfits
    exact Settings.tailOver_eq h1 h hfits
  · intro e b' h
    obtain ⟨hwhole, hphase, hsource, hkernel, hevents⟩ := hresult e b' h
    rw [houtcome]
    exact ⟨hwhole, hphase, hsource, hkernel, hevents⟩

end

/-- An interrupt that ends the halt twelve clocks after the expiry: eleven are gone since the reload. -/
theorem twelve_clocks_late :
    ∃ e b', sleepLightly {} 3 (Bench.atCount 23999 12) = .ok e b' ∧ e.wholeTicks.toNat = 2 ∧
      e.source = .tickTimer ∧
      Settings.perTick {} - 1 -
        (Settings.lightOutcome {} 3 (Bench.atCount 23999 12).chip).nextReload.toNat = 11 ∧
      b'.chip.events.entries = Settings.lightEvents {} 71905 23988 := by
  have hlate : ((Bench.atCount 23999 12).chip.clocksAsleep {} 3).toNat =
      (Settings.plannedReload {} 3 (Bench.atCount 23999 12).chip.timer.current).toNat + 1 + 12 := by
    decide
  obtain ⟨into, hinto, -, hexact, hends, hresult⟩ :=
    late_wake_accounted (s := {}) (b := Bench.atCount 23999 12) (by decide) (by decide) hlate
  rw [hexact (by decide) (by decide) (by decide)] at hinto
  obtain ⟨e, b', h⟩ := hends.2 (by decide)
  obtain ⟨hwhole, -, hsource, -, hevents⟩ := hresult e b' h
  refine ⟨e, b', h, hwhole.trans (by decide), hsource, hinto.symm, ?_⟩
  rw [hevents]
  decide

/-- A core that is up again on the clock of the expiry finds the count at zero, and all of the reload value
is taken for over. -/
theorem woken_on_expiry_overstates :
    Settings.validate {} = .ok {} ∧
      (Bench.atCount 10000 0).chip.timer.current.toNat < Settings.perTick {} ∧
      ((Bench.atCount 10000 0).chip.clocksAsleep {} 1).toNat =
        (Settings.plannedReload {} 1 (Bench.atCount 10000 0).chip.timer.current).toNat + 1 + 0 ∧
      ∃ e b', sleepLightly {} 1 (Bench.atCount 10000 0) = .ok e b' ∧ e.source = .tickTimer ∧
        e.phaseUs = 412 ∧ b'.chip.events.entries = Settings.lightEvents {} 9906 14093 ∧
        ¬ Settings.perTick {} - 1 - 14093 ≤ 0 :=
  ⟨by decide, by decide, by decide, _, _, rfl, rfl, rfl, by decide, by decide⟩

section

variable {s : Settings} {idleTicks : UInt32} {b : Bench}

/-! ## What the ticks stand for -/

/-- The ticks of a request are the part of the first one that was over, the clocks that the timer is set
for, and the counts that it is set short by. -/
theorem Settings.Valid.lightTicks_mul_eq_planned (hs : s.Valid) (idleTicks : UInt32) {current : UInt32}
    (hc : current.toNat < s.perTick) :
    s.lightTicks idleTicks * s.perTick =
      (s.perTick - 1 - current.toNat) + (s.plannedReload idleTicks current).toNat + 1 +
        s.compensation idleTicks current := by
  rw [hs.toNat_plannedReload idleTicks hc, s.lightTicks_mul_eq]
  unfold Settings.compensation
  split <;> omega

/-- What a light sleep that the timer ends accounts for is what passed and the counts that the timer was
set short by. So it is within a tick of what passed exactly if those are less than a tick, or are not
taken off as they would leave nothing. -/
theorem expiry_accounted_within_tick_iff (hs : s.validate = .ok s)
    (hc : b.chip.timer.current.toNat < s.perTick)
    (hexpired : (s.plannedReload idleTicks b.chip.timer.current).toNat <
      (b.chip.clocksAsleep s idleTicks).toNat) :
    ∃ passed accounted : Nat,
      passed = (s.perTick - 1 - b.chip.timer.current.toNat) +
        (s.plannedReload idleTicks b.chip.timer.current).toNat + 1 ∧
      accounted = s.lightTicks idleTicks * s.perTick ∧
      ((∃ e b', sleepLightly s idleTicks b = .ok e b') ↔
        b.kernel.tickCount.toNat + (s.lightTicks idleTicks - 1) < 2 ^ 64) ∧
      (∀ e b', sleepLightly s idleTicks b = .ok e b' →
        e.source = .tickTimer ∧ (e.wholeTicks.toNat + 1) * s.perTick = accounted) ∧
      accounted = passed + s.compensation idleTicks b.chip.timer.current ∧
      (accounted < passed + s.perTick ∧ passed < accounted + s.perTick ↔
        s.stoppedCounts.toNat < s.perTick ∨
          b.chip.timer.current.toNat + s.perTick * (s.lightTicks idleTicks - 1) ≤
            s.stoppedCounts.toNat) := by
  obtain ⟨hv, -⟩ := Settings.validate_eq_ok.1 hs
  have hpos := hv.perTick_pos
  have hone := s.one_le_lightTicks idleTicks
  have hlight := s.lightTicks_lt idleTicks
  have haccount := hv.lightTicks_mul_eq_planned idleTicks hc
  have hlate : (b.chip.clocksAsleep s idleTicks).toNat =
      (s.plannedReload idleTicks b.chip.timer.current).toNat + 1 +
        ((b.chip.clocksAsleep s idleTicks).toNat -
          ((s.plannedReload idleTicks b.chip.timer.current).toNat + 1)) := by omega
  obtain ⟨hends, hresult⟩ := Bench.sleepLightly_of_outcome hv (Chip.lightOutcome_of_late hv hc hlate)
    (by omega) (hv.tailOver_lt _)
  refine ⟨_, _, rfl, rfl, hends, ?_, haccount, ?_⟩
  · intro e b' h
    obtain ⟨hwhole, -, hsource, -⟩ := hresult e b' h
    rw [hwhole, Nat.sub_add_cancel hone]
    exact ⟨hsource, rfl⟩
  · rw [haccount]
    unfold Settings.compensation
    split <;> omega

end

/-- With the standard settings three ticks stand for 94 counts more than passed, those that the timer is set
short by. -/
theorem three_ticks_accounted :
    ∃ e b', sleepLightly {} 3 (Bench.atTickStart none) = .ok e b' ∧
      (e.wholeTicks.toNat + 1) * Settings.perTick {} = (71905 + 1) + 94 := by
  have hexpired : (Settings.plannedReload {} 3 (Bench.atTickStart none).chip.timer.current).toNat <
      ((Bench.atTickStart none).chip.clocksAsleep {} 3).toNat := by decide
  obtain ⟨passed, accounted, -, haccounted, hends, hresult, -⟩ :=
    expiry_accounted_within_tick_iff (s := {}) (b := Bench.atTickStart none) (by decide) (by decide)
      hexpired
  obtain ⟨e, b', h⟩ := hends.2 (by decide)
  refine ⟨e, b', h, ?_⟩
  rw [(hresult e b' h).2, haccounted]
  decide

/-- A compensation of a whole tick is valid, and has a sleep of two ticks account for a tick that did not
pass. -/
theorem whole_tick_compensation_accounts_ahead :
    Settings.validate { stoppedCounts := 24000 } = .ok { stoppedCounts := 24000 } ∧
      (Bench.atTickStart none).chip.timer.current.toNat < Settings.perTick { stoppedCounts := 24000 } ∧
      ∃ e b', sleepLightly { stoppedCounts := 24000 } 2 (Bench.atTickStart none) = .ok e b' ∧
        e.source = .tickTimer ∧
        b'.chip.events.entries = Settings.lightEvents { stoppedCounts := 24000 } 23999 23999 ∧
        ¬ (e.wholeTicks.toNat + 1) * Settings.perTick { stoppedCounts := 24000 } <
          ((Settings.perTick { stoppedCounts := 24000 } - 1 - 23999) + 23999 + 1) +
            Settings.perTick { stoppedCounts := 24000 } :=
  ⟨by decide, by decide, _, _, rfl, rfl, by decide, by decide⟩

end Tickless
