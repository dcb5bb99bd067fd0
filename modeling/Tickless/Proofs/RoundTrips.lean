import Mathlib.Tactic.Linarith
import Tickless.Proofs.Conversions

/-!
# There and back between two clocks

A time that is taken from one clock to another and back has been rounded down twice, so nothing is gained on
the way. What is lost is less than a unit of the first clock, for the way back, and less than a unit of the
second, for the way there. All four conversions scale by a ratio of two positive numbers, so one estimate
covers them.
-/

namespace Tickless

/-! ## Scaling by a ratio -/

/-- A number of units that comes back after having been expressed in a second unit. The second unit is so
many of the first, and what is lost is less than one of each. -/
structure RoundTrip (n back : ℕ) (unit : ℚ) : Prop where
  /-- Nothing is gained. -/
  le : back ≤ n
  /-- Less than one unit of each is lost. -/
  short : (n : ℚ) - back < unit + 1

theorem scaled_mono {m n : ℕ} (h : m ≤ n) (a b : ℕ) : m * a / b ≤ n * a / b :=
  Nat.div_le_div_right (Nat.mul_le_mul_right a h)

theorem roundTrip_le (n a b : ℕ) : n * a / b * b / a ≤ n :=
  Nat.div_le_of_le_mul (by rw [Nat.mul_comm a n]; exact Nat.div_mul_le_self _ _)

theorem lt_roundTrip (n : ℕ) {a b : ℕ} (ha : 0 < a) (hb : 0 < b) :
    n * a < (n * a / b * b / a) * a + a + b := by
  have hthere : n * a < n * a / b * b + b := Nat.lt_div_mul_add hb
  have hback : n * a / b * b < n * a / b * b / a * a + a := Nat.lt_div_mul_add ha
  omega

theorem roundTrip_scaled (n : ℕ) {a b : ℕ} (ha : 0 < a) (hb : 0 < b) :
    RoundTrip n (n * a / b * b / a) ((b : ℚ) / a) := by
  refine ⟨roundTrip_le n a b, ?_⟩
  have hpos : (0 : ℚ) < a := by exact_mod_cast ha
  have hlt : (n : ℚ) * a < (n * a / b * b / a : ℕ) * a + a + b := by exact_mod_cast lt_roundTrip n ha hb
  have hunit : (b : ℚ) / a * a = b := div_mul_cancel₀ _ hpos.ne'
  refine lt_of_mul_lt_mul_right ?_ hpos.le
  rw [sub_mul, add_mul, hunit]
  linarith

/-! ## Microseconds and cycles -/

/-- How the conversions between microseconds and the cycles of an oscillator go together. -/
structure CyclesInverse (hz : UInt32) : Prop where
  /-- A time comes back if its product and its cycles fit their words. -/
  us_back : ∀ us : UInt64, us.toNat * hz.toNat < 2 ^ 64 →
    ∃ cycles, usToCycles us hz = .ok cycles ∧
      (cycles.toNat < 2 ^ 32 →
        ∃ back, cyclesToUs cycles.toUInt32 hz = .ok back ∧
          RoundTrip us.toNat back.toNat (1000000 / hz.toNat))
  /-- Any number of cycles comes back. -/
  cycles_back : ∀ cycles : UInt32,
    ∃ us back, cyclesToUs cycles hz = .ok us ∧ usToCycles us hz = .ok back ∧
      RoundTrip cycles.toNat back.toNat (hz.toNat / 1000000)
  /-- A longer time has no fewer cycles. -/
  usToCycles_mono : ∀ us us' : UInt64, us.toNat ≤ us'.toNat →
    us'.toNat * hz.toNat < 2 ^ 64 →
      ∃ cycles cycles', usToCycles us hz = .ok cycles ∧ usToCycles us' hz = .ok cycles' ∧
        cycles.toNat ≤ cycles'.toNat
  /-- More cycles are no shorter a time. -/
  cyclesToUs_mono : ∀ cycles cycles' : UInt32, cycles.toNat ≤ cycles'.toNat →
    ∃ us us', cyclesToUs cycles hz = .ok us ∧ cyclesToUs cycles' hz = .ok us' ∧ us.toNat ≤ us'.toNat

/-- The cycles of a time are not more than its product. -/
theorem toNat_usToCycles {us : UInt64} {hz : UInt32} (h : us.toNat * hz.toNat < 2 ^ 64) :
    (UInt64.ofNat (us.toNat * hz.toNat / 1000000)).toNat = us.toNat * hz.toNat / 1000000 :=
  toNat_long (Nat.lt_of_le_of_lt (Nat.div_le_self _ _) h)

/-- The microseconds of a number of cycles fit a long word, whatever the oscillator. -/
theorem toNat_cyclesToUs (cycles hz : UInt32) :
    (UInt64.ofNat (cycles.toNat * 1000000 / hz.toNat)).toNat = cycles.toNat * 1000000 / hz.toNat := by
  have hcycles := word_lt cycles
  have hle := Nat.div_le_self (cycles.toNat * 1000000) hz.toNat
  exact toNat_long (by omega)

theorem cyclesToUs_mul_lt (cycles hz : UInt32) :
    cycles.toNat * 1000000 / hz.toNat * hz.toNat < 2 ^ 64 := by
  have hcycles := word_lt cycles
  have hle := Nat.div_mul_le_self (cycles.toNat * 1000000) hz.toNat
  omega

theorem cyclesInverse_of_pos {hz : UInt32} (hpos : 0 < hz.toNat) : CyclesInverse hz where
  us_back us hfits := by
    refine ⟨_, usToCycles_eq_ok.2 ⟨hfits, rfl⟩, fun hsmall => ⟨_, cyclesToUs_eq _ _, ?_⟩⟩
    rw [toNat_cyclesToUs, toNat_narrowed hsmall, toNat_usToCycles hfits]
    exact_mod_cast roundTrip_scaled us.toNat hpos (by decide : 0 < 1000000)
  cycles_back cycles := by
    have hfits := cyclesToUs_mul_lt cycles hz
    rw [← toNat_cyclesToUs] at hfits
    refine ⟨_, _, cyclesToUs_eq _ _, usToCycles_eq_ok.2 ⟨hfits, rfl⟩, ?_⟩
    rw [toNat_usToCycles hfits, toNat_cyclesToUs]
    exact_mod_cast roundTrip_scaled cycles.toNat (by decide : 0 < 1000000) hpos
  usToCycles_mono us us' hle hfits' := by
    have hfits : us.toNat * hz.toNat < 2 ^ 64 :=
      Nat.lt_of_le_of_lt (Nat.mul_le_mul_right _ hle) hfits'
    refine ⟨_, _, usToCycles_eq_ok.2 ⟨hfits, rfl⟩, usToCycles_eq_ok.2 ⟨hfits', rfl⟩, ?_⟩
    rw [toNat_usToCycles hfits, toNat_usToCycles hfits']
    exact scaled_mono hle _ _
  cyclesToUs_mono cycles cycles' hle := by
    refine ⟨_, _, cyclesToUs_eq _ _, cyclesToUs_eq _ _, ?_⟩
    rw [toNat_cyclesToUs, toNat_cyclesToUs]
    exact scaled_mono hle _ _

/-! ## Microseconds and timer counts -/

/-- A conversion of words that multiplies by `a / b` and rounds down. -/
def Scales (f : UInt32 → Except ArithError UInt32) (a b : ℕ) : Prop :=
  ∀ n, f n = .ok (UInt32.ofNat (n.toNat * a / b))

namespace Scales

variable {f g : UInt32 → Except ArithError UInt32} {a b : ℕ}

/-- Less than the whole of one unit comes back. -/
theorem back (hf : Scales f a b) (hg : Scales g b a) (ha : 0 < a) (hfits : a < 2 ^ 32) (n : UInt32)
    (h : n.toNat < b) :
    ∃ m back, f n = .ok m ∧ m.toNat < a ∧ g m = .ok back ∧ RoundTrip n.toNat back.toNat (b / a) := by
  have hn := word_lt n
  have hlt := mul_div_lt h ha
  have hthere : (UInt32.ofNat (n.toNat * a / b)).toNat = n.toNat * a / b := toNat_word (by omega)
  have hle := roundTrip_le n.toNat a b
  refine ⟨_, _, hf n, by rwa [hthere], hg _, ?_⟩
  rw [hthere, toNat_word (by omega)]
  exact roundTrip_scaled n.toNat ha (Nat.zero_lt_of_lt h)

/-- Up to the whole, more of one unit is never less of the other. -/
theorem mono (hf : Scales f a b) (hfits : a < 2 ^ 32) (n n' : UInt32) (hle : n.toNat ≤ n'.toNat)
    (h : n'.toNat ≤ b) :
    ∃ m m', f n = .ok m ∧ f n' = .ok m' ∧ m.toNat ≤ m'.toNat := by
  have hscaled := scaled_mono hle a b
  have hwhole : n'.toNat * a / b ≤ a := Nat.div_le_of_le_mul (Nat.mul_le_mul_right a h)
  refine ⟨_, _, hf n, hf n', ?_⟩
  rw [toNat_word (by omega), toNat_word (by omega)]
  exact hscaled

theorem wholes (hf : Scales f a b) (hb : 0 < b) (k : ℕ) (hfits : k * b < 2 ^ 32) :
    f (UInt32.ofNat (k * b)) = .ok (UInt32.ofNat (k * a)) := by
  rw [hf, toNat_word hfits, Nat.mul_right_comm, Nat.mul_div_cancel _ hb]

end Scales

/-- How the conversions between microseconds and timer counts go together within a tick. -/
structure CountsInverse (s : Settings) : Prop where
  /-- Less than a tick of counts is less than a tick of microseconds, and comes back. -/
  counts_back : ∀ counts : UInt32, counts.toNat < s.perTick →
    ∃ us back, s.countsToUs counts = .ok us ∧ us.toNat < s.period ∧ s.usToCounts us = .ok back ∧
      RoundTrip counts.toNat back.toNat (s.perTick / s.period)
  /-- Less than a tick of microseconds is less than a tick of counts, and comes back. -/
  us_back : ∀ us : UInt32, us.toNat < s.period →
    ∃ counts back, s.usToCounts us = .ok counts ∧ counts.toNat < s.perTick ∧
      s.countsToUs counts = .ok back ∧ RoundTrip us.toNat back.toNat (s.period / s.perTick)
  /-- A tick is converted exactly, either way. -/
  one_tick : s.countsToUs (UInt32.ofNat s.perTick) = .ok (UInt32.ofNat s.period) ∧
    s.usToCounts (UInt32.ofNat s.period) = .ok (UInt32.ofNat s.perTick)
  /-- So is every number of ticks that fits a word in either unit. -/
  whole_ticks : ∀ ticks : ℕ, ticks * s.perTick < 2 ^ 32 → ticks * s.period < 2 ^ 32 →
    s.countsToUs (UInt32.ofNat (ticks * s.perTick)) = .ok (UInt32.ofNat (ticks * s.period)) ∧
      s.usToCounts (UInt32.ofNat (ticks * s.period)) = .ok (UInt32.ofNat (ticks * s.perTick))
  /-- More counts are no shorter a time. -/
  countsToUs_mono : ∀ counts counts' : UInt32, counts.toNat ≤ counts'.toNat →
    counts'.toNat ≤ s.perTick →
      ∃ us us', s.countsToUs counts = .ok us ∧ s.countsToUs counts' = .ok us' ∧ us.toNat ≤ us'.toNat
  /-- A longer time has no fewer counts. -/
  usToCounts_mono : ∀ us us' : UInt32, us.toNat ≤ us'.toNat → us'.toNat ≤ s.period →
    ∃ counts counts', s.usToCounts us = .ok counts ∧ s.usToCounts us' = .ok counts' ∧
      counts.toNat ≤ counts'.toNat

theorem Settings.Valid.countsInverse {s : Settings} (hs : s.Valid) : CountsInverse s := by
  have hper := hs.perTick_lt
  have hperiod : s.period < 2 ^ 32 := by have := s.period_le; omega
  have htoUs : Scales s.countsToUs s.period s.perTick := hs.countsToUs_eq
  have htoCounts : Scales s.usToCounts s.perTick s.period := hs.usToCounts_eq
  have hwhole : ∀ ticks : ℕ, ticks * s.perTick < 2 ^ 32 → ticks * s.period < 2 ^ 32 →
      s.countsToUs (UInt32.ofNat (ticks * s.perTick)) = .ok (UInt32.ofNat (ticks * s.period)) ∧
        s.usToCounts (UInt32.ofNat (ticks * s.period)) = .ok (UInt32.ofNat (ticks * s.perTick)) :=
    fun ticks hcounts hus =>
      ⟨htoUs.wholes hs.perTick_pos ticks hcounts, htoCounts.wholes hs.period_pos ticks hus⟩
  have hone := hwhole 1
  rw [Nat.one_mul, Nat.one_mul] at hone
  exact {
    counts_back := htoUs.back htoCounts hs.period_pos hperiod
    us_back := htoCounts.back htoUs hs.perTick_pos hper
    one_tick := hone hper hperiod
    whole_ticks := hwhole
    countsToUs_mono := htoUs.mono hperiod
    usToCounts_mono := htoCounts.mono hper }

/-! ## All four conversions -/

/-- Whatever the oscillator and the settings, the conversions are inverse to each other up to rounding down,
and none of them turns more into less. -/
theorem conversions_inverse {hz : UInt32} {s : Settings} (hhz : 1 ≤ hz.toNat) (hs : s.validate = .ok s) :
    CyclesInverse hz ∧ CountsInverse s :=
  ⟨cyclesInverse_of_pos hhz, (Settings.validate_eq_ok.1 hs).1.countsInverse⟩

/-- With a clock of 32768 Hz on both sides, 61 microseconds come back as 30, which is more than a cycle less,
and the last count of a tick comes back as the one before it. -/
theorem watch_crystal_inverse :
    1 ≤ (32768 : UInt32).toNat ∧
      Settings.validate { timerClockHz := 32768 } = .ok { timerClockHz := 32768 } ∧
      usToCycles 61 32768 = .ok 1 ∧ cyclesToUs 1 32768 = .ok 30 ∧
      RoundTrip 61 30 (1000000 / (32768 : ℕ)) ∧
      Settings.countsToUs { timerClockHz := 32768 } 31 = .ok 968 ∧
      Settings.usToCounts { timerClockHz := 32768 } 968 = .ok 30 ∧
      RoundTrip 31 30 ((32 : ℕ) / (1000 : ℕ)) := by
  have hs : Settings.validate { timerClockHz := 32768 } = .ok { timerClockHz := 32768 } := by decide
  have hcycles : usToCycles 61 32768 = .ok 1 := by decide
  have hus : cyclesToUs 1 32768 = .ok 30 := by decide
  have htoUs : Settings.countsToUs { timerClockHz := 32768 } 31 = .ok 968 := by decide
  have htoCounts : Settings.usToCounts { timerClockHz := 32768 } 968 = .ok 30 := by decide
  have hhz : 1 ≤ (32768 : UInt32).toNat := by decide
  obtain ⟨hoscillator, htimer⟩ := conversions_inverse hhz hs
  obtain ⟨cycles, hthere, hback⟩ := hoscillator.us_back 61 (by decide)
  obtain rfl : cycles = 1 := Except.ok.inj (hthere.symm.trans hcycles)
  obtain ⟨us, hback, htrip⟩ := hback (by decide)
  obtain rfl : us = 30 := Except.ok.inj (hback.symm.trans hus)
  obtain ⟨phase, counts, hthere', -, hback', htrip'⟩ := htimer.counts_back 31 (by decide)
  obtain rfl : phase = 968 := Except.ok.inj (hthere'.symm.trans htoUs)
  obtain rfl : counts = 30 := Except.ok.inj (hback'.symm.trans htoCounts)
  exact ⟨hhz, hs, hcycles, hus, htrip, htoUs, htoCounts, htrip'⟩

end Tickless
