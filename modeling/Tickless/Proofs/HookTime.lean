import Mathlib.Tactic.Linarith
import Mathlib.Tactic.Ring
import Tickless.Proofs.Countdown
import Tickless.Proofs.DeepSleep

/-!
# Time that passes around a deep sleep

The application and the boot path take time while a deep sleep is under way. Up to the sample at the
arming of the alarm, that time is measured on the microsecond counter; after it, on the real-time
counter. The real-time counter keeps the part of a cycle that is over, so over any list of stretches
the cycles and the residue are those of one stretch of the summed length, and counting every stretch
once costs no more than the rounding of a cycle.
-/

namespace Tickless

/-! ## Stretches of time -/

namespace Bench

/-- Let several stretches of time pass: the cycles of the oscillator that they take. -/
def elapses : List UInt32 → Act Bench Nat
  | [] => return 0
  | us :: rest => do
    let cycles := (← get).chip.rtc.gathered us / 1000000
    elapse us
    return cycles + (← elapses rest)

theorem elapses_cons_eq_ok {us : UInt32} {rest : List UInt32} {n : Nat} {b b' : Bench} :
    elapses (us :: rest) b = .ok n b' ↔
      ∃ c k, b.chip.elapse us = .ok c ∧ elapses rest { b with chip := c } = .ok k b' ∧
        n = b.chip.rtc.gathered us / 1000000 + k := by
  rw [elapses, Act.get_bind, Act.bind_eq_ok]
  constructor
  · rintro ⟨_, _, hpass, h⟩
    obtain ⟨c, hc, rfl⟩ := elapse_eq_ok.1 hpass
    obtain ⟨k, b1, hrest, h⟩ := Act.bind_eq_ok.1 h
    obtain ⟨rfl, rfl⟩ := Act.pure_eq_ok.1 h
    exact ⟨c, k, hc, hrest, rfl⟩
  · rintro ⟨c, k, hc, hrest, rfl⟩
    exact ⟨(), _, elapse_eq_ok.2 ⟨c, hc, rfl⟩, Act.bind_eq_ok.2 ⟨k, _, hrest, rfl⟩⟩

end Bench

/-- The number of microseconds in a list of stretches. -/
def totalOf (stretches : List UInt32) : Nat :=
  (stretches.map UInt32.toNat).sum

/-- What stretches of time with a number of cycles change, from a chip to a later one. -/
structure Passed (us cycles : Nat) (c c' : Chip) : Prop where
  residue_lt : c'.rtc.residue.toNat < 1000000
  cycles_eq : cycles * 1000000 + c'.rtc.residue.toNat = c.rtc.residue.toNat + us * c.rtc.oscillatorHz.toNat
  counter : cycles < 2 ^ 32 → c'.rtc.counter = c.rtc.counter + UInt32.ofNat cycles
  freeCounter : c'.power.freeCounterUs = c.power.freeCounterUs + UInt32.ofNat us
  oscillatorHz : c'.rtc.oscillatorHz = c.rtc.oscillatorHz
  wakeCycles : c'.rtc.wakeCycles = c.rtc.wakeCycles
  readingUs : c'.power.readingUs = c.power.readingUs

theorem Passed.refl {c : Chip} (h : c.rtc.residue.toNat < 1000000) : Passed 0 0 c c where
  residue_lt := h
  cycles_eq := by omega
  counter _ := (UInt32.add_zero _).symm
  freeCounter := (UInt32.add_zero _).symm
  oscillatorHz := rfl
  wakeCycles := rfl
  readingUs := rfl

theorem Passed.of_elapse {us : UInt32} {c c' : Chip} (h : c.elapse us = .ok c') :
    Passed us.toNat (c.rtc.gathered us / 1000000) c c' := by
  obtain ⟨hlt, rfl⟩ := Chip.elapse_eq_ok.1 h
  have hresidue : (c.rtc.elapsed us).residue.toNat = c.rtc.gathered us % 1000000 :=
    c.rtc.toNat_residue_elapsed us
  have hgathered : c.rtc.gathered us = c.rtc.residue.toNat + us.toNat * c.rtc.oscillatorHz.toNat := rfl
  constructor
  · exact c.rtc.reduced_elapsed us
  · show _ + (c.rtc.elapsed us).residue.toNat = _
    rw [hresidue, ← hgathered]
    have := Nat.div_add_mod' (c.rtc.gathered us) 1000000
    omega
  · intro hcycles
    show c.rtc.counter + UInt32.ofNat (min (c.rtc.gathered us / 1000000) (2 ^ 32 - 1)) = _
    rw [Nat.min_eq_left (by omega)]
  · show c.power.freeCounterUs + us = _
    rw [UInt32.ofNat_toNat]
  · rfl
  · rfl
  · rfl

theorem Passed.trans {us cycles us' cycles' : Nat} {c c' c'' : Chip} (h : Passed us cycles c c')
    (h' : Passed us' cycles' c' c'') : Passed (us + us') (cycles + cycles') c c'' := by
  constructor
  · exact h'.residue_lt
  · have h1 := h.cycles_eq
    have h2 := h'.cycles_eq
    rw [h.oscillatorHz] at h2
    linarith
  · intro hcycles
    rw [h'.counter (by omega), h.counter (by omega), UInt32.ofNat_add, UInt32.add_assoc]
  · rw [h'.freeCounter, h.freeCounter, UInt32.ofNat_add, UInt32.add_assoc]
  · rw [h'.oscillatorHz, h.oscillatorHz]
  · rw [h'.wakeCycles, h.wakeCycles]
  · rw [h'.readingUs, h.readingUs]

theorem Bench.passed_of_elapses {stretches : List UInt32} {n : Nat} {b b' : Bench}
    (h : elapses stretches b = .ok n b') (hresidue : b.chip.rtc.residue.toNat < 1000000) :
    Passed (totalOf stretches) n b.chip b'.chip := by
  induction stretches generalizing b n with
  | nil =>
    cases h
    exact Passed.refl hresidue
  | cons us rest ih =>
    obtain ⟨c, k, hc, hrest, rfl⟩ := elapses_cons_eq_ok.1 h
    have hfirst := Passed.of_elapse hc
    have hlater := ih hrest hfirst.residue_lt
    exact hfirst.trans hlater

/-- A chip whose residue is within a cycle is not changed by no time. -/
theorem Chip.elapse_zero {c c' : Chip} (h : c.elapse 0 = .ok c')
    (hresidue : c.rtc.residue.toNat < 1000000) : c' = c := by
  obtain ⟨hlt, rfl⟩ := Chip.elapse_eq_ok.1 h
  have hgathered : c.rtc.gathered 0 = c.rtc.residue.toNat := by
    show c.rtc.residue.toNat + 0 * c.rtc.oscillatorHz.toNat = _
    omega
  have hcounter : c.rtc.counter + UInt32.ofNat (min (c.rtc.gathered 0 / 1000000) (2 ^ 32 - 1)) =
      c.rtc.counter := by
    rw [hgathered, Nat.div_eq_of_lt hresidue]
    exact UInt32.add_zero _
  have hkept : UInt64.ofNat (c.rtc.gathered 0 % 1000000) = c.rtc.residue := by
    rw [hgathered, Nat.mod_eq_of_lt hresidue, UInt64.ofNat_toNat]
  have hrtc : c.rtc.elapsed 0 = c.rtc := by
    unfold RealTimeCounter.elapsed
    rw [hcounter, hkept]
  have hclocks : Saturating.mul 0 c.core.clocksPerUs = 0 := by
    show UInt32.ofNat (min (0 * c.core.clocksPerUs.toNat) (2 ^ 32 - 1)) = 0
    rw [Nat.zero_mul]
    rfl
  have hfree : c.power.freeCounterUs + 0 = c.power.freeCounterUs := UInt32.add_zero _
  rw [hrtc, hclocks, Countdown.elapse_zero, hfree]

/-! ## A deep sleep with time passing around it -/

/-- What is seen of a deep sleep with time passing around it. -/
structure HookedSleep where
  /-- What was planned at entry. -/
  cycle : SleepCycle
  /-- What was measured. -/
  elapsed : Elapsed
  /-- The cycles of the oscillator from the entry to the sample that measures them. -/
  cycles : Nat

/-- A deep sleep during which time passes before the power-down, before the wake path and after
it. -/
def Bench.hookedSleep (s : Settings) (idleTicks : UInt32) (entry : ResumeEntry)
    (before early late : List UInt32) : Act Bench (Option HookedSleep) := do
  match ← enterDeep with
  | none => return none
  | some snapshot =>
    let hookCycles ← elapses before
    let cycle ← powerDown s idleTicks snapshot
    let sleptCycles := (← get).chip.rtc.sleepLength.1.toNat
    perform (.cutRail entry)
    let earlyCycles ← elapses early
    wakeUp cycle
    let wakeCycles := (← get).chip.rtc.wakeCycles.toNat
    let lateCycles ← elapses late
    let elapsed ← reconcile s cycle
    return some {
      cycle
      elapsed
      cycles := hookCycles + sleptCycles + earlyCycles + wakeCycles + lateCycles }

variable {s : Settings} {idleTicks : UInt32} {entry : ResumeEntry} {before early late : List UInt32}
  {b b' : Bench} {run : HookedSleep}

/-- How a deep sleep with time around it divides the cycles: those up to the arming of the alarm, and
the later ones, which are those that are measured. -/
structure HookedSleep.Divided (s : Settings) (before : List UInt32) (b b' : Bench) (run : HookedSleep)
    (hookCycles residue later : Nat) : Prop where
  residue_lt : residue < 1000000
  hookCycles_eq : hookCycles * 1000000 + residue =
    b.chip.rtc.residue.toNat + totalOf before * b.chip.rtc.oscillatorHz.toNat
  cycles_eq : run.cycles = hookCycles + later
  oscillatorHz : run.cycle.oscillatorHz = b.chip.rtc.oscillatorHz
  latency : run.cycle.latencyUs = UInt32.ofNat (totalOf before)
  armed : hookCycles < 2 ^ 32 →
    run.cycle.rtcBefore = b.chip.rtc.counter + UInt32.ofNat hookCycles
  measured : later < 2 ^ 32 →
    b'.chip.rtc.counter = run.cycle.rtcBefore + UInt32.ofNat later
  elapsed : ∃ source, run.elapsed = Elapsed.split (run.cycle.totalUs b'.chip.rtc.counter)
    (UInt32.ofNat s.period) run.cycle.requestedTicks source

theorem Bench.divided_of_hookedSleep (hs : s.Valid) (hreading : b.chip.power.readingUs = 0)
    (hresidue : b.chip.rtc.residue.toNat < 1000000)
    (h : hookedSleep s idleTicks entry before early late b = .ok (some run) b') :
    ∃ hookCycles residue later, run.Divided s before b b' hookCycles residue later := by
  unfold hookedSleep at h
  obtain ⟨snapshot, b1, hentry, h⟩ := Act.bind_eq_ok.1 h
  cases snapshot with
  | none => cases (Act.pure_eq_ok.1 h).1
  | some snapshot =>
    obtain ⟨hookCycles, b2, hbefore, h⟩ := Act.bind_eq_ok.1 h
    obtain ⟨cycle, b3, hdown, h⟩ := Act.bind_eq_ok.1 h
    rw [Act.get_bind] at h
    obtain ⟨_, b4, hcut, h⟩ := Act.bind_eq_ok.1 h
    obtain ⟨earlyCycles, b5, hearly, h⟩ := Act.bind_eq_ok.1 h
    obtain ⟨_, b6, hwake, h⟩ := Act.bind_eq_ok.1 h
    rw [Act.get_bind] at h
    obtain ⟨lateCycles, b7, hlate, h⟩ := Act.bind_eq_ok.1 h
    obtain ⟨e, b8, hmeasure, h⟩ := Act.bind_eq_ok.1 h
    obtain ⟨hrun, rfl⟩ := Act.pure_eq_ok.1 h
    cases hrun
    -- entry and power-down read the microsecond counter in no time
    obtain ⟨k, c, -, hc, rfl, rfl⟩ := entered_of_enterDeep hentry
    rw [hreading] at hc
    cases Chip.elapse_zero hc hresidue
    have hhook := passed_of_elapses hbefore hresidue
    have hhook : Passed (totalOf before) hookCycles b.chip b2.chip := hhook
    obtain ⟨c', hc', -, -, -, hcycle, rfl⟩ := (powerDown_eq_ok hs).1 hdown
    rw [hhook.readingUs, hreading] at hc'
    cases Chip.elapse_zero hc' hhook.residue_lt
    cases hcut
    have hearly := passed_of_elapses hearly hhook.residue_lt
    cases (wakeUp_eq cycle b5).symm.trans hwake
    have hlate := passed_of_elapses hlate hearly.residue_lt
    obtain ⟨-, -, rfl, rfl⟩ := (reconcile_eq_ok hs).1 hmeasure
    have hbefore : cycle.rtcBefore = b2.chip.rtc.counter := by
      rw [hcycle]
      rfl
    refine ⟨hookCycles, b2.chip.rtc.residue.toNat,
      (Chip.armed cycle.alarm (b2.chip.timed s).sampled).retained.rtc.sleepLength.1.toNat + earlyCycles +
        b5.chip.rtc.wakeCycles.toNat + lateCycles,
      hhook.residue_lt, hhook.cycles_eq, ?_, ?_, ?_, ?_, ?_, ?_⟩
    · have hsum : ∀ slept early waking late, hookCycles + slept + early + waking + late =
          hookCycles + (slept + early + waking + late) := by omega
      exact hsum _ _ _ _
    · show cycle.oscillatorHz = _
      rw [hcycle]
      exact hhook.oscillatorHz
    · show cycle.latencyUs = _
      rw [hcycle]
      show b2.chip.power.freeCounterUs - b.chip.power.freeCounterUs = _
      rw [hhook.freeCounter, UInt32.add_comm, UInt32.add_sub_cancel]
    · intro hlt
      exact hbefore.trans (hhook.counter hlt)
    · intro hlt
      show b7.chip.rtc.counter = cycle.rtcBefore + _
      have hwoken : b5.chip.rtc.counter = b2.chip.rtc.counter + _ + _ := hearly.counter (by omega)
      have hsampled : b7.chip.rtc.counter = b5.chip.rtc.counter + b5.chip.rtc.wakeCycles + _ :=
        hlate.counter (by omega)
      rw [hsampled, hwoken, hbefore, UInt32.ofNat_add, UInt32.ofNat_add, UInt32.ofNat_add,
        UInt32.ofNat_toNat, UInt32.ofNat_toNat]
      simp only [UInt32.add_assoc]
    · exact ⟨_, rfl⟩

/-- Two ways to round the microseconds of a stretch that the counter has cut into cycles differ by
less than two cycles. -/
theorem rounding_le {unit hz us cycles residue residue' : Nat} (later carried : Nat) (hhz : 1 ≤ hz)
    (hresidue : residue < unit) (hresidue' : residue' < unit)
    (h : cycles * unit + residue' = residue + us * hz) :
    (((later * unit / hz + carried + us : Nat) : Int) -
      (carried + (cycles + later) * unit / hz : Nat)).natAbs ≤ unit / hz + 1 := by
  have hbelow : ∀ n, n / hz * hz ≤ n := fun n => Nat.div_mul_le_self n hz
  have habove : ∀ n, n < (n / hz + 1) * hz := fun n => by
    rw [Nat.mul_comm]
    exact Nat.lt_mul_div_succ n hhz
  have hlater := hbelow (later * unit)
  have hlater' := habove (later * unit)
  have hall := hbelow ((cycles + later) * unit)
  have hall' := habove ((cycles + later) * unit)
  have hcycle := habove unit
  generalize later * unit / hz = q at *
  generalize (cycles + later) * unit / hz = q' at *
  generalize unit / hz = d at *
  have hle : q + us ≤ q' + (d + 1) := by
    by_contra hcontra
    have hmul : (q' + 1 + (d + 1)) * hz ≤ (q + us) * hz := Nat.mul_le_mul_right hz (by omega)
    linarith
  have hge : q' ≤ q + us + (d + 1) := by
    by_contra hcontra
    have hmul : (q + 1 + us + (d + 1)) * hz ≤ q' * hz := Nat.mul_le_mul_right hz (by omega)
    linarith
  omega

/-- Time that passes around a deep sleep is counted once: the elapsed time is the interrupted tick and
the cycles of the counter from the entry to the sample, up to the rounding of a cycle. The measured
time may be as long as the step limit allows. -/
theorem hook_time_counted_once (hs : s.validate = .ok s) (hreading : b.chip.power.readingUs = 0)
    (hhz : 1 ≤ b.chip.rtc.oscillatorHz.toNat) (hresidue : b.chip.rtc.residue.toNat < 1000000)
    (hbefore : totalOf before ≤ 2 ^ 32 - 1)
    (h : Bench.hookedSleep s idleTicks entry before early late b = .ok (some run) b')
    (hcycles : run.cycles < 2 ^ 32)
    (hlimit : (run.cycle.totalUs b'.chip.rtc.counter).toNat <
      (min (run.cycle.requestedTicks.toNat + 1) (2 ^ 32 - 1) + 1) * s.period) :
    ∃ total, run.elapsed.totalUs (UInt32.ofNat s.period) = .ok total ∧
      ((total.toNat : Int) - (run.cycle.carriedUs.toNat +
          (b'.chip.rtc.counter - b.chip.rtc.counter).toNat * 1000000 / b.chip.rtc.oscillatorHz.toNat :
            Nat)).natAbs ≤
        1000000 / b.chip.rtc.oscillatorHz.toNat + 1 := by
  obtain ⟨hv, -⟩ := Settings.validate_eq_ok.1 hs
  obtain ⟨hookCycles, residue, later, hdivided⟩ := Bench.divided_of_hookedSleep hv hreading hresidue h
  obtain ⟨source, helapsed⟩ := hdivided.elapsed
  refine ⟨_, by rw [helapsed, Elapsed.totalUs_split hv hlimit], ?_⟩
  have hsum := hdivided.cycles_eq
  have harmed := hdivided.armed (by omega)
  have hmeasured := hdivided.measured (by omega)
  have hcounted : (b'.chip.rtc.counter - b.chip.rtc.counter).toNat = hookCycles + later := by
    rw [hmeasured, harmed, UInt32.add_assoc, UInt32.add_comm, UInt32.add_sub_cancel,
      ← UInt32.ofNat_add, toNat_word (by omega)]
  have hasleep : run.cycle.asleepUs b'.chip.rtc.counter =
      later * 1000000 / b.chip.rtc.oscillatorHz.toNat := by
    unfold SleepCycle.asleepUs
    rw [hmeasured, UInt32.add_comm, UInt32.add_sub_cancel, toNat_word (by omega),
      hdivided.oscillatorHz]
  have hlatency : run.cycle.latencyUs.toNat = totalOf before := by
    rw [hdivided.latency, toNat_word (by omega)]
  rw [SleepCycle.toNat_totalUs, hasleep, hlatency, hcounted]
  exact rounding_le later run.cycle.carriedUs.toNat hhz hresidue hdivided.residue_lt
    hdivided.hookCycles_eq

/-- A standard chip at the start of a tick, with an oscillator and a wake path of its own. -/
def Bench.withOscillator (oscillatorHz wakeCycles : UInt32) : Bench :=
  { chip := { timer := .running 23999, rtc := { oscillatorHz, wakeCycles } } }

/-- Half a second of deep sleep with hooks on both sides of it. -/
theorem half_second_hook_time_counted_once :
    ∃ run b', Bench.hookedSleep {} 500 ⟨0x08004000⟩ [300, 40] [20] [150]
        (Bench.withOscillator 32768 59) = .ok (some run) b' ∧
      ∃ total, run.elapsed.totalUs (UInt32.ofNat (Settings.period {})) = .ok total ∧
        ((total.toNat : Int) - (run.cycle.carriedUs.toNat +
            (b'.chip.rtc.counter - (Bench.withOscillator 32768 59).chip.rtc.counter).toNat * 1000000 /
              (Bench.withOscillator 32768 59).chip.rtc.oscillatorHz.toNat : Nat)).natAbs ≤
          1000000 / (Bench.withOscillator 32768 59).chip.rtc.oscillatorHz.toNat + 1 := by
  have hpasses : Act.passes
      (Bench.hookedSleep {} 500 ⟨0x08004000⟩ [300, 40] [20] [150])
      (fun r b' => match r with
        | some run => decide (run.cycles < 2 ^ 32 ∧ (run.cycle.totalUs b'.chip.rtc.counter).toNat <
            (min (run.cycle.requestedTicks.toNat + 1) (2 ^ 32 - 1) + 1) * Settings.period {})
        | none => false)
      (Bench.withOscillator 32768 59) = true := by
    decide +kernel
  obtain ⟨r, b', hrun, hcheck⟩ := Act.passes_iff.1 hpasses
  cases r with
  | none => cases hcheck
  | some run =>
    obtain ⟨hcycles, hlimit⟩ := of_decide_eq_true hcheck
    exact ⟨run, b', hrun, hook_time_counted_once (s := {}) (b := Bench.withOscillator 32768 59)
      (by decide) (by decide) (by decide) (by decide) (by decide) hrun hcycles hlimit⟩

/-- A request of as many ticks as a word holds has no tick to spare at the step limit: there a measured
time within two ticks of the request loses more than the rounding of a cycle. -/
theorem full_request_loses_time :
    Settings.validate { maxSleepMs := 4294967295 } = .ok { maxSleepMs := 4294967295 } ∧
      ∃ run b', Bench.hookedSleep { maxSleepMs := 4294967295 } 4294967295 ⟨0x08004000⟩ [] [] []
          (Bench.withOscillator 999 2143188682) = .ok (some run) b' ∧
        run.cycles < 2 ^ 32 ∧
        (run.cycle.totalUs b'.chip.rtc.counter).toNat < (run.cycle.requestedTicks.toNat + 2) * 1000 ∧
        ∃ total, run.elapsed.totalUs 1000 = .ok total ∧
          ¬ ((total.toNat : Int) - (run.cycle.carriedUs.toNat +
              (b'.chip.rtc.counter - 1000).toNat * 1000000 / 999 : Nat)).natAbs ≤ 1000000 / 999 + 1 := by
  have hpasses : Act.passes
      (Bench.hookedSleep { maxSleepMs := 4294967295 } 4294967295 ⟨0x08004000⟩ [] [] [])
      (fun r b' => match r with
        | some run => match run.elapsed.totalUs 1000 with
          | .ok total => decide (run.cycles < 2 ^ 32 ∧
              (run.cycle.totalUs b'.chip.rtc.counter).toNat <
                (run.cycle.requestedTicks.toNat + 2) * 1000 ∧
              ¬ ((total.toNat : Int) - (run.cycle.carriedUs.toNat +
                (b'.chip.rtc.counter - 1000).toNat * 1000000 / 999 : Nat)).natAbs ≤ 1000000 / 999 + 1)
          | .error _ => false
        | none => false)
      (Bench.withOscillator 999 2143188682) = true := by
    decide +kernel
  obtain ⟨r, b', hrun, hcheck⟩ := Act.passes_iff.1 hpasses
  cases r with
  | none => cases hcheck
  | some run =>
    cases htotal : run.elapsed.totalUs 1000 with
    | error e =>
      simp only [htotal] at hcheck
      cases hcheck
    | ok total =>
      simp only [htotal] at hcheck
      obtain ⟨hcycles, hlimit, hbound⟩ := of_decide_eq_true hcheck
      exact ⟨by decide, run, b', hrun, hcycles, hlimit, total, htotal, hbound⟩

end Tickless
