import Tickless.Proofs.DeepCycle

/-!
# Deep sleeps back to back

One deep sleep after the other, with no time between the resume of one and the idle call of the next.
The ticks that are stepped and the microseconds that are left over make up all that was measured. But
the restart of the timer clears its count, and with no clock in between the next entry reads that zero
as a tick that is over. So what a sleep leaves over is lost to the next one, which takes nearly a whole
tick for it that never passed.
-/

namespace Tickless

open PowerManager

/-! ## Rounds -/

/-- A request for a deep sleep, and the wake that the bench has in store for it. -/
structure Round where
  ticks : UInt32
  wakeAfter : Option UInt32
  wakeCycles : UInt32

/-- What is seen of a deep sleep that is over. -/
structure RoundReport where
  cycle : SleepCycle
  rtcAfter : UInt32
  elapsed : Elapsed

namespace RoundReport

/-- The microseconds that the real-time counter measured. -/
def asleepUs (r : RoundReport) : Nat :=
  r.cycle.asleepUs r.rtcAfter

/-- The microseconds, those of the interrupted tick included, that were not stepped. -/
def leftUs (period : Nat) (r : RoundReport) : Nat :=
  r.cycle.carriedUs.toNat + r.asleepUs - r.elapsed.wholeTicks.toNat * period

end RoundReport

/-- The ticks that several sleeps have stepped. -/
def steppedOf (reports : List RoundReport) : Nat :=
  (reports.map fun r => r.elapsed.wholeTicks.toNat).sum

/-- The microseconds that the real-time counter measured over several sleeps. -/
def asleepOf (reports : List RoundReport) : Nat :=
  (reports.map RoundReport.asleepUs).sum

/-- The microseconds that several sleeps have not stepped. -/
def leftOf (period : Nat) (reports : List RoundReport) : Nat :=
  (reports.map (RoundReport.leftUs period)).sum

theorem steppedOf_cons (r : RoundReport) (rs : List RoundReport) :
    steppedOf (r :: rs) = r.elapsed.wholeTicks.toNat + steppedOf rs := List.sum_cons

theorem asleepOf_cons (r : RoundReport) (rs : List RoundReport) :
    asleepOf (r :: rs) = r.asleepUs + asleepOf rs := List.sum_cons

theorem leftOf_cons (period : Nat) (r : RoundReport) (rs : List RoundReport) :
    leftOf period (r :: rs) = r.leftUs period + leftOf period rs := List.sum_cons

namespace PowerManager

/-- The manager with a wake in store for its next deep sleep. -/
def facing (around : Round) (m : PowerManager Bench) : PowerManager Bench :=
  { m with
    platform := { m.platform with
      chip := { m.platform.chip with
        rtc := { m.platform.chip.rtc with
          wakeAfter := around.wakeAfter
          wakeCycles := around.wakeCycles } } } }

/-- A deep sleep and its resume. There is no report if the idle call does not sleep deeply. -/
def deepRound (around : Round) : Act (PowerManager Bench) (Option RoundReport) := do
  modify (facing around)
  if (← idle around.ticks) = .retained then
    let pending := (← get).pending
    let elapsed ← resume
    let rtcAfter := (← get).platform.chip.rtc.counter
    return pending.bind fun cycle => elapsed.map fun elapsed => { cycle, rtcAfter, elapsed }
  else return none

/-- Several deep sleeps back to back. There are no reports if one of them does not come about. -/
def deepRounds : List Round → Act (PowerManager Bench) (Option (List RoundReport))
  | [] => return some []
  | around :: rest => do
    match ← deepRound around with
    | none => return none
    | some report => return (← deepRounds rest).map (report :: ·)

variable {m m' : PowerManager Bench} {around : Round} {rest : List Round} {report : RoundReport}
  {reports : List RoundReport}

theorem deepRound_eq_some (h : deepRound around m = .ok (some report) m') :
    ∃ m₁, idle around.ticks (m.facing around) = .ok .retained m₁ ∧ m₁.pending = some report.cycle ∧
      resume m₁ = .ok (some report.elapsed) m' ∧ report.rtcAfter = m'.platform.chip.rtc.counter := by
  unfold deepRound at h
  rw [Act.modify_bind] at h
  obtain ⟨outcome, m₁, hidle, h⟩ := Act.bind_eq_ok.1 h
  split at h
  · next houtcome =>
    subst houtcome
    rw [Act.get_bind] at h
    obtain ⟨elapsed, m₂, hresume, h⟩ := Act.bind_eq_ok.1 h
    rw [Act.get_bind] at h
    obtain ⟨hreport, rfl⟩ := Act.pure_eq_ok.1 h
    obtain ⟨cycle, hpending, hreport⟩ := Option.bind_eq_some_iff.1 hreport.symm
    obtain ⟨elapsed, rfl, rfl⟩ := Option.map_eq_some_iff.1 hreport
    exact ⟨m₁, hidle, hpending, hresume, rfl⟩
  · cases (Act.pure_eq_ok.1 h).1

theorem deepRounds_cons_eq_some (h : deepRounds (around :: rest) m = .ok (some reports) m') :
    ∃ report later m₁, deepRound around m = .ok (some report) m₁ ∧
      deepRounds rest m₁ = .ok (some later) m' ∧ reports = report :: later := by
  rw [deepRounds] at h
  obtain ⟨first, m₁, hround, h⟩ := Act.bind_eq_ok.1 h
  cases first with
  | none => cases (Act.pure_eq_ok.1 h).1
  | some report =>
    obtain ⟨later, m₂, hrest, h⟩ := Act.bind_eq_ok.1 h
    obtain ⟨hreports, rfl⟩ := Act.pure_eq_ok.1 h
    cases later with
    | none => cases hreports
    | some later =>
      cases hreports
      exact ⟨report, later, m₁, hround, hrest, rfl⟩

/-! ## One round -/

/-- What a round changes and what it accounts for, for a manager with a free reading of the clocks. -/
structure RoundDone (m m' : PowerManager Bench) (report : RoundReport) : Prop where
  settings : m'.settings = m.settings
  current : m'.platform.chip.timer.current = 0
  readingUs : m'.platform.chip.power.readingUs = 0
  tickCount : m'.platform.kernel.tickCount.toNat =
    m.platform.kernel.tickCount.toNat + report.elapsed.wholeTicks.toNat
  stepped_add_left : report.elapsed.wholeTicks.toNat * m.settings.period +
      report.leftUs m.settings.period =
    m.settings.phaseAt m.platform.chip.timer.current + report.asleepUs

theorem roundDone_of_deepRound (hs : m.settings.Valid) (hreading : m.platform.chip.power.readingUs = 0)
    (h : deepRound around m = .ok (some report) m') : RoundDone m m' report := by
  obtain ⟨m₁, hidle, hpending, hresume, hafter⟩ := deepRound_eq_some h
  obtain ⟨cycle, hbegun⟩ := deepBegun_of_idle (m := m.facing around) hs hidle
  rw [hbegun.pending, Option.some.injEq] at hpending
  subst hpending
  obtain ⟨e, he, hended⟩ := hbegun.ended_of_resume hs hresume
  cases he
  have hcarried : report.cycle.carriedUs.toNat = m.settings.phaseAt m.platform.chip.timer.current := by
    rw [hbegun.carried]
    exact hs.toNat_phaseAt _
  have hasleep : report.asleepUs = m.settings.countedUs around.ticks (m.facing around).platform.chip := by
    unfold RoundReport.asleepUs
    rw [hafter]
    exact hended.measured
  have htotal : m.settings.deepTotalUs around.ticks (m.facing around).platform.chip =
      report.asleepUs + m.settings.phaseAt m.platform.chip.timer.current := by
    rw [hasleep]
    show _ + _ + m.platform.chip.power.readingUs.toNat = _
    rw [hreading]
    rfl
  -- a split never steps more than what was measured, and the rest of it is left over
  have hle : report.elapsed.wholeTicks.toNat * m.settings.period ≤
      m.settings.deepTotalUs around.ticks (m.facing around).platform.chip := by
    rw [← hs.toNat_deepTotalUs, hended.elapsed]
    exact Elapsed.wholeTicks_split_mul_le hs _ _ _
  refine ⟨hended.settings, hended.current, hended.readingUs.trans hreading, hended.tickCount, ?_⟩
  unfold RoundReport.leftUs
  rw [hcarried]
  omega

/-! ## Several rounds -/

/-- The microseconds of interrupted ticks that the entries of several sleeps take for over: the first
entry finds a given count, and each later one a cleared count. -/
def carriedOf (s : Settings) (current : UInt32) : List Round → Nat
  | [] => 0
  | _ :: rest => s.phaseAt current + carriedOf s 0 rest

theorem carriedOf_zero (s : Settings) (rounds : List Round) :
    carriedOf s 0 rounds = rounds.length * s.phaseAt 0 := by
  induction rounds with
  | nil => exact (Nat.zero_mul _).symm
  | cons around rest ih =>
    rw [carriedOf, ih, List.length_cons, Nat.add_mul, Nat.one_mul, Nat.add_comm]

/-- What back-to-back deep sleeps step and what they leave over is what was measured and what the
entries took for over. -/
theorem stepped_add_left_of_deepRounds {rounds : List Round} (hs : m.settings.Valid)
    (hreading : m.platform.chip.power.readingUs = 0)
    (h : deepRounds rounds m = .ok (some reports) m') :
    m'.platform.kernel.tickCount.toNat = m.platform.kernel.tickCount.toNat + steppedOf reports ∧
      steppedOf reports * m.settings.period + leftOf m.settings.period reports =
        carriedOf m.settings m.platform.chip.timer.current rounds + asleepOf reports := by
  induction rounds generalizing m reports with
  | nil =>
    obtain ⟨hreports, rfl⟩ := Act.pure_eq_ok.1 h
    cases hreports
    refine ⟨rfl, ?_⟩
    show 0 * _ + 0 = 0 + 0
    rw [Nat.zero_mul]
  | cons around rest ih =>
    obtain ⟨report, later, m₁, hround, hrest, rfl⟩ := deepRounds_cons_eq_some h
    have hdone := roundDone_of_deepRound hs hreading hround
    obtain ⟨hcount, hsum⟩ := ih (by rw [hdone.settings]; exact hs) hdone.readingUs hrest
    have hfirst := hdone.stepped_add_left
    -- the later rounds start from the cleared count, whatever this one has left over
    rw [hdone.settings, hdone.current] at hsum
    constructor
    · rw [hcount, hdone.tickCount, steppedOf_cons, Nat.add_assoc]
    · rw [steppedOf_cons, leftOf_cons, asleepOf_cons, carriedOf, Nat.add_mul]
      omega

/-- Over back-to-back deep sleeps the tick stays within a tick of the time that passed exactly if the
time left over makes up for a tick less a count for every sleep but the first. -/
theorem deep_rounds_within_tick_iff {rounds : List Round} (hs : m.settings.validate = .ok m.settings)
    (hreading : m.platform.chip.power.readingUs = 0)
    (h : deepRounds rounds m = .ok (some reports) m') :
    m'.platform.kernel.tickCount.toNat = m.platform.kernel.tickCount.toNat + steppedOf reports ∧
      (steppedOf reports * m.settings.period ≤
          m.settings.phaseAt m.platform.chip.timer.current + asleepOf reports + m.settings.period ↔
        (rounds.length - 1) * m.settings.phaseAt 0 ≤
          leftOf m.settings.period reports + m.settings.period) := by
  obtain ⟨hv, -⟩ := Settings.validate_eq_ok.1 hs
  obtain ⟨hcount, hsum⟩ := stepped_add_left_of_deepRounds hv hreading h
  refine ⟨hcount, ?_⟩
  cases rounds with
  | nil =>
    rw [carriedOf] at hsum
    rw [List.length_nil, Nat.zero_sub, Nat.zero_mul]
    omega
  | cons around rest =>
    rw [carriedOf, carriedOf_zero] at hsum
    rw [List.length_cons, Nat.add_sub_cancel]
    omega

/-- A manager with the standard settings, at the start of a tick, with an oscillator of a megahertz. -/
def megahertzManager : PowerManager Bench :=
  standardManagerWith { oscillatorHz := 1000000 }

/-- Two sleeps of ten ticks, of which an interrupt ends the second. -/
theorem two_rounds_within_tick :
    ∃ reports m', deepRounds [⟨10, none, 1800⟩, ⟨10, some 400, 600⟩] megahertzManager =
        .ok (some reports) m' ∧
      steppedOf reports * 1000 ≤ 0 + asleepOf reports + 1000 := by
  have hperiod : megahertzManager.settings.period = 1000 := by decide
  have hphase : megahertzManager.settings.phaseAt megahertzManager.platform.chip.timer.current = 0 := by
    decide
  have hcleared : megahertzManager.settings.phaseAt 0 = 999 := by decide
  have hruns : Act.passes (deepRounds [⟨10, none, 1800⟩, ⟨10, some 400, 600⟩])
      (fun reports _ => reports.any fun reports => decide (1 * 999 ≤ leftOf 1000 reports + 1000))
      megahertzManager = true := by
    decide +kernel
  obtain ⟨reports, m', hrun, hcheck⟩ := Act.passes_iff.1 hruns
  cases reports with
  | none => cases hcheck
  | some reports =>
    rw [Option.any_some, decide_eq_true_eq] at hcheck
    have hiff := (deep_rounds_within_tick_iff (by decide) rfl hrun).2
    rw [hperiod, hphase, hcleared] at hiff
    exact ⟨reports, m', hrun, hiff.2 hcheck⟩

/-- Three sleeps of a microsecond each step two ticks. -/
theorem short_rounds_step_ahead :
    Settings.validate {} = .ok {} ∧ megahertzManager.platform.chip.power.readingUs = 0 ∧
      ∃ reports m', deepRounds [⟨10, some 1, 0⟩, ⟨10, some 1, 0⟩, ⟨10, some 1, 0⟩] megahertzManager =
          .ok (some reports) m' ∧
        m'.platform.kernel.tickCount = 2 ∧ steppedOf reports = 2 ∧ asleepOf reports = 3 ∧
        ¬ steppedOf reports * 1000 ≤
          Settings.phaseAt {} megahertzManager.platform.chip.timer.current + asleepOf reports + 1000 := by
  have hruns : Act.passes (deepRounds [⟨10, some 1, 0⟩, ⟨10, some 1, 0⟩, ⟨10, some 1, 0⟩])
      (fun reports m' => reports.any fun reports =>
        decide (m'.platform.kernel.tickCount = 2 ∧ steppedOf reports = 2 ∧ asleepOf reports = 3))
      megahertzManager = true := by
    decide +kernel
  obtain ⟨reports, m', hrun, hcheck⟩ := Act.passes_iff.1 hruns
  cases reports with
  | none => cases hcheck
  | some reports =>
    obtain ⟨hcount, hstepped, hasleep⟩ := of_decide_eq_true hcheck
    refine ⟨by decide, rfl, reports, m', hrun, hcount, hstepped, hasleep, ?_⟩
    rw [hstepped, hasleep]
    decide

end PowerManager

end Tickless
