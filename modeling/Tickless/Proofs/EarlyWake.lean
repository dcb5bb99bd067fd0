import Tickless.Proofs.LightAccounting

/-!
# A light sleep that is cut short

An interrupt that comes after the first clock of a light sleep and before the timer expires leaves the
timer with a count from which the clocks since the halt are read off. With the part of the first tick
that was over, and with the counts that the timer was set short by, they make up whole ticks, which are
stepped, and the part of the next tick that is over, which is taken off the reload value of the
restart. No count is lost to a rounding.
-/

namespace Tickless

/-! ## What is logged -/

namespace Chip

theorem events_setReload (value : UInt32) (c : Chip) :
    (c.setReload value).events = c.events.push (.timerReload value) := rfl

theorem events_clearCount (c : Chip) : c.clearCount.events = c.events.push .timerReset := rfl

theorem events_startTimer (c : Chip) : c.startTimer.events = c.events.push .timerEnable := rfl

theorem events_stopTimer (c : Chip) : c.stopTimer.events = c.events.push .timerDisable := rfl

theorem events_halt (c : Chip) : c.halt.events = c.events.push .waitForInterrupt := rfl

theorem events_takeExpired (c : Chip) : c.takeExpired.2.events = c.events := rfl

end Chip

/-- The events of a light sleep with its two reload values. -/
def Settings.lightEvents (s : Settings) (planned next : UInt32) : List Event :=
  [.timerDisable, .timerReload planned, .timerReset, .timerEnable, .waitForInterrupt, .timerDisable,
    .timerReload next, .timerReset, .timerEnable, .timerReload (UInt32.ofNat (s.perTick - 1))]

/-- The events of a chip whose timer is set, halted for and restarted. -/
theorem Chip.events_resynced_halted (s : Settings) (idleTicks next : UInt32) (c : Chip) :
    ((c.setForSleep s idleTicks).halted.resynced next (UInt32.ofNat (s.perTick - 1))).events =
      (s.lightEvents (s.plannedReload idleTicks c.timer.current) next).foldl (fun t e => t.push e)
        c.events := by
  simp only [setForSleep, halted, resynced, restarted, events_setReload, events_clearCount,
    events_startTimer, events_stopTimer, events_halt, events_takeExpired, Settings.lightEvents,
    List.foldl_cons, List.foldl_nil]

/-! ## What is over -/

section

variable {s : Settings} (hs : s.Valid) {idleTicks : UInt32} {c : Chip} {n : UInt32}

/-- The counts that the timer is set short by. -/
def Settings.compensation (s : Settings) (idleTicks current : UInt32) : Nat :=
  if s.stoppedCounts.toNat < current.toNat + s.perTick * (s.lightTicks idleTicks - 1) then
    s.stoppedCounts.toNat else 0

/-- The counts of all ticks that an interrupt after `n` clocks finds over. -/
def Settings.countsOver (s : Settings) (idleTicks current n : UInt32) : Nat :=
  (s.perTick - 1 - current.toNat) + n.toNat + s.compensation idleTicks current

include hs

/-- The halt ends with the interrupt, as the timer would take one clock more than its reload value. -/
theorem Chip.clocksAsleep_of_early (hc : c.timer.current.toNat < s.perTick)
    (hwake : c.core.wakeAfter = some n)
    (hn : n.toNat ≤ (s.plannedReload idleTicks c.timer.current).toNat) :
    c.clocksAsleep s idleTicks = n := by
  have hclocks : c.clocksAsleep s idleTicks = min n (Saturating.add
      (c.setForSleep s idleTicks).timer.clocksToExpiry (c.setForSleep s idleTicks).core.haltLatency) :=
    Chip.haltClocks_of_some hwake
  have hreload := hs.plannedReload_le idleTicks hc
  have hmax := toNat_maxReload
  have hexpiry : (c.setForSleep s idleTicks).timer.clocksToExpiry.toNat =
      (s.plannedReload idleTicks c.timer.current).toNat + 1 := by
    rw [Chip.setForSleep_timer hs hc]
    show (Saturating.add (s.plannedReload idleTicks c.timer.current) 1).toNat = _
    rw [toNat_saturating_add]
    show min (_ + 1) (2 ^ 32 - 1) = _
    omega
  rw [hclocks, ← UInt32.toNat_inj, toNat_min, toNat_saturating_add, hexpiry]
  omega

/-- The outcome is that of the counts that are over. -/
theorem Chip.lightOutcome_of_early (hc : c.timer.current.toNat < s.perTick)
    (hwake : c.core.wakeAfter = some n) (h1 : 1 ≤ n.toNat)
    (hn : n.toNat ≤ (s.plannedReload idleTicks c.timer.current).toNat) :
    s.lightOutcome idleTicks c =
      { ticks := UInt32.ofNat (s.countsOver idleTicks c.timer.current n / s.perTick)
        nextReload :=
          UInt32.ofNat (s.perTick - s.countsOver idleTicks c.timer.current n % s.perTick)
        phaseCounts := UInt32.ofNat (s.countsOver idleTicks c.timer.current n % s.perTick)
        source := .otherInterrupt } := by
  have hclocks := Chip.clocksAsleep_of_early hs hc hwake hn
  have hpos : 1 ≤ (c.clocksAsleep s idleTicks).toNat := by rwa [hclocks]
  have hle : (c.clocksAsleep s idleTicks).toNat ≤ (s.plannedReload idleTicks c.timer.current).toNat := by
    rwa [hclocks]
  have hcompleted := hs.completed_eq hc hpos hle
  rw [hclocks] at hcompleted
  rw [Chip.lightOutcome_of_le hs hc hpos hle, hclocks]
  unfold Settings.interruptedOutcome
  simp only [hcompleted]
  rfl

theorem Settings.Valid.countsOver_div_le (hc : c.timer.current.toNat < s.perTick)
    (hn : n.toNat ≤ (s.plannedReload idleTicks c.timer.current).toNat) :
    s.countsOver idleTicks c.timer.current n / s.perTick ≤ s.lightTicks idleTicks - 1 := by
  have hreload := hs.toNat_plannedReload idleTicks hc
  have hone := s.one_le_lightTicks idleTicks
  have hmul := s.lightTicks_mul_eq idleTicks
  -- the wake is within the reload value, so at least one count is missing to the last tick
  have hlt : s.countsOver idleTicks c.timer.current n < s.lightTicks idleTicks * s.perTick := by
    unfold Settings.countsOver Settings.compensation
    split at hreload
    · next h =>
      rw [if_pos h]
      omega
    · next h =>
      rw [if_neg h]
      omega
  have := (Nat.div_lt_iff_lt_mul hs.perTick_pos).2 hlt
  omega

omit hs in
/-- A light sleep that an interrupt ends before the timer expires accounts for every count: the part of
the first tick that was over, the clocks since the halt and the counts that the timer was set short by
are the ticks that are stepped, once, and the counts that are taken off the reload value of the restart.
It comes to its end exactly if the tick counter has room for its ticks. -/
theorem early_wake_accounted (hs : s.validate = .ok s) {b : Bench}
    (hc : b.chip.timer.current.toNat < s.perTick) (hwake : b.chip.core.wakeAfter = some n)
    (h1 : 1 ≤ n.toNat) (hn : n.toNat ≤ (s.plannedReload idleTicks b.chip.timer.current).toNat) :
    ∃ whole into : Nat,
      whole * s.perTick + into = (s.perTick - 1 - b.chip.timer.current.toNat) + n.toNat +
        s.compensation idleTicks b.chip.timer.current ∧
      into < s.perTick ∧ whole ≤ s.lightTicks idleTicks - 1 ∧
      ((∃ e b', sleepLightly s idleTicks b = .ok e b') ↔
        b.kernel.tickCount.toNat + whole < 2 ^ 64) ∧
      ∀ e b', sleepLightly s idleTicks b = .ok e b' →
        e.wholeTicks.toNat = whole ∧ e.phaseUs.toNat = into * s.period / s.perTick ∧
        e.source = .otherInterrupt ∧
        b'.kernel = { b.kernel with
          tickCount := UInt64.ofNat (b.kernel.tickCount.toNat + whole)
          steps := b.kernel.steps.push e.wholeTicks } ∧
        b'.chip.events = (s.lightEvents (s.plannedReload idleTicks b.chip.timer.current)
          (UInt32.ofNat (s.perTick - into))).foldl (fun t e => t.push e) b.chip.events := by
  obtain ⟨hv, -⟩ := Settings.validate_eq_ok.1 hs
  have houtcome := Chip.lightOutcome_of_early hv hc hwake h1 hn
  have hlimit := hv.countsOver_div_le hc hn
  have hlight := s.lightTicks_lt idleTicks
  have hper := hv.perTick_lt
  have hsum := Nat.div_add_mod' (s.countsOver idleTicks b.chip.timer.current n) s.perTick
  have hmod := Nat.mod_lt (s.countsOver idleTicks b.chip.timer.current n) hv.perTick_pos
  -- from here on only the ticks and the counts that are over matter
  generalize s.countsOver idleTicks b.chip.timer.current n / s.perTick = whole at *
  generalize s.countsOver idleTicks b.chip.timer.current n % s.perTick = into at *
  have hticks : (UInt32.ofNat whole).toNat = whole := toNat_word (by omega)
  have hphase : (UInt32.ofNat into).toNat * s.period / s.perTick = into * s.period / s.perTick := by
    rw [toNat_word (by omega)]
  have hphaseUs : into * s.period / s.perTick < 2 ^ 32 := by
    have := counts_mul_div_lt hv hmod
    have := s.period_le
    omega
  refine ⟨whole, into, hsum, hmod, hlimit, ?_, ?_⟩
  · constructor
    · rintro ⟨e, b', h⟩
      obtain ⟨k, hk, -, -⟩ := (Bench.sleepLightly_eq_ok hv).1 h
      rw [houtcome] at hk
      have hlt := (Kernel.step_eq_ok.1 hk).1
      rwa [hticks] at hlt
    · intro hlt
      refine ⟨_, _, (Bench.sleepLightly_eq_ok hv).2 ⟨_, Kernel.step_eq_ok.2 ⟨?_, rfl⟩, rfl, rfl⟩⟩
      rw [houtcome, hticks]
      exact hlt
  · intro e b' h
    obtain ⟨k, hk, rfl, rfl⟩ := (Bench.sleepLightly_eq_ok hv).1 h
    obtain ⟨-, rfl⟩ := Kernel.step_eq_ok.1 hk
    unfold Settings.lightElapsed Chip.lightSlept
    rw [houtcome]
    refine ⟨hticks, ?_, rfl, ?_, Chip.events_resynced_halted _ _ _ _⟩
    · show (UInt32.ofNat ((UInt32.ofNat into).toNat * s.period / s.perTick)).toNat = _
      rw [hphase]
      exact toNat_word hphaseUs
    · simp only [hticks]

end

/-- An interrupt in the second of three ticks: the timer is set 94 counts short, so that one tick and
6094 counts are over. -/
theorem second_tick_interrupted :
    ∃ e b', sleepLightly {} 3 (Bench.atTickStart (some 30000)) = .ok e b' ∧ e.wholeTicks.toNat = 1 ∧
      e.phaseUs.toNat = 253 ∧ e.source = .otherInterrupt ∧
      b'.chip.events.entries = Settings.lightEvents {} 71905 17906 := by
  have hn : (30000 : UInt32).toNat ≤
      (Settings.plannedReload {} 3 (Bench.atTickStart (some 30000)).chip.timer.current).toNat := by
    decide
  obtain ⟨whole, into, hsum, hinto, -, hends, hresult⟩ :=
    early_wake_accounted (s := {}) (b := Bench.atTickStart (some 30000)) (by decide) (by decide) rfl
      (by decide) hn
  have hper : Settings.perTick {} = 24000 := by decide
  have hover : (24000 - 1 - (Bench.atTickStart (some 30000)).chip.timer.current.toNat) +
      (30000 : UInt32).toNat +
      Settings.compensation {} 3 (Bench.atTickStart (some 30000)).chip.timer.current = 30094 := by
    decide
  rw [hper] at hsum hinto
  rw [hover] at hsum
  obtain rfl : whole = 1 := by omega
  obtain rfl : into = 6094 := by omega
  obtain ⟨e, b', h⟩ := hends.2 (by decide)
  obtain ⟨hwhole, hphase, hsource, -, hevents⟩ := hresult e b' h
  refine ⟨e, b', h, hwhole, hphase.trans (by decide), hsource, ?_⟩
  rw [hevents]
  decide

end Tickless
