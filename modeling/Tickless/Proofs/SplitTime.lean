import Tickless.Proofs.Acts
import Tickless.Proofs.Conversions

/-!
# The split of a measured time

A split hands a measured time out as whole ticks and a phase. Up to the step limit nothing of it is lost:
the ticks and the phase make up the time again. Beyond, the limit is all there is. So the whole ticks are
those of the time, cut off at the limit, and from this follows how a split changes with the time and with
the request.
-/

namespace Tickless

namespace Elapsed

variable {total : UInt64} {periodUs requested : UInt32} {source : WakeSource}

/-! ## The parts of a split -/

/-- A measurement always comes to its end, with the split of the time. -/
theorem measure_eq {σ : Type} [Logger σ] (total : UInt64) (periodUs requested : UInt32)
    (source : WakeSource) (t : σ) :
    measure total periodUs requested source t = .ok (split total periodUs requested source)
      (if Overslept total periodUs requested then
        Logger.record (.overslept (measuredTicks total periodUs) (stepLimit requested)) t
      else t) :=
  Act.logIf_bind _ _ _ t

theorem wholeTicks_split_le_stepLimit (total : UInt64) (periodUs requested : UInt32) (source : WakeSource) :
    (split total periodUs requested source).wholeTicks.toNat ≤ min (requested.toNat + 1) (2 ^ 32 - 1) := by
  rw [toNat_wholeTicks_split]
  exact Nat.min_le_right _ _

theorem phaseUs_split_lt (total : UInt64) (periodUs requested : UInt32) (source : WakeSource) :
    (split total periodUs requested source).phaseUs.toNat < max periodUs.toNat 1 := by
  rcases Nat.lt_or_ge (min (requested.toNat + 1) (2 ^ 32 - 1))
    (total.toNat / max periodUs.toNat 1) with hlt | hle
  · rw [split_of_overslept hlt]
    show 0 < _
    omega
  · rw [(split_of_le hle).2]
    exact Nat.mod_lt _ (by omega)

/-- A longer time and a larger request never have fewer ticks. -/
theorem wholeTicks_split_mono {total' : UInt64} {requested' : UInt32} (htotal : total.toNat ≤ total'.toNat)
    (hrequested : requested.toNat ≤ requested'.toNat) :
    (split total periodUs requested source).wholeTicks.toNat ≤
      (split total' periodUs requested' source).wholeTicks.toNat := by
  have hdiv : total.toNat / max periodUs.toNat 1 ≤ total'.toNat / max periodUs.toNat 1 :=
    Nat.div_le_div_right htotal
  rw [toNat_wholeTicks_split, toNat_wholeTicks_split]
  omega

/-! ## What the parts make up -/

theorem stepLimit_mul_lt (periodUs requested : UInt32) :
    min (requested.toNat + 1) (2 ^ 32 - 1) * max periodUs.toNat 1 < 2 ^ 64 := by
  have hperiod := word_lt periodUs
  have hle : min (requested.toNat + 1) (2 ^ 32 - 1) * max periodUs.toNat 1 ≤ (2 ^ 32 - 1) * (2 ^ 32 - 1) :=
    Nat.mul_le_mul (Nat.min_le_right _ _) (by omega)
  omega

/-- Once the tick after the step limit is over, the total of a split is the limit, and the rest of the time
is lost. -/
theorem totalUs_split_of_ge
    (h : (min (requested.toNat + 1) (2 ^ 32 - 1) + 1) * max periodUs.toNat 1 ≤ total.toNat) :
    ∃ whole, (split total periodUs requested source).totalUs (max periodUs 1) = .ok whole ∧
      whole.toNat = min (requested.toNat + 1) (2 ^ 32 - 1) * max periodUs.toNat 1 ∧
      whole.toNat < total.toNat := by
  have hpos : 0 < max periodUs.toNat 1 := by omega
  have hperiod : (max periodUs 1).toNat = max periodUs.toNat 1 := toNat_max periodUs 1
  have hover : min (requested.toNat + 1) (2 ^ 32 - 1) < total.toNat / max periodUs.toNat 1 :=
    (Nat.le_div_iff_mul_le hpos).2 h
  have hlimit : min (requested.toNat + 1) (2 ^ 32 - 1) * max periodUs.toNat 1 < total.toNat :=
    Nat.lt_of_lt_of_le (Nat.mul_lt_mul_of_pos_right (Nat.lt_succ_self _) hpos) h
  refine ⟨_, totalUs_eq _ _, ?_⟩
  rw [split_of_overslept hover, hperiod, toNat_stepLimit]
  show (UInt64.ofNat (min (requested.toNat + 1) (2 ^ 32 - 1) * max periodUs.toNat 1)).toNat = _ ∧
    (UInt64.ofNat (min (requested.toNat + 1) (2 ^ 32 - 1) * max periodUs.toNat 1)).toNat < _
  rw [toNat_long (stepLimit_mul_lt periodUs requested)]
  exact ⟨rfl, hlimit⟩

/-! ## The narrowings -/

theorem narrowed_measuredTicks (h : ¬ Overslept total periodUs requested) :
    (measuredTicks total periodUs).toUInt32.toUInt64 = measuredTicks total periodUs := by
  rw [overslept_iff] at h
  refine widened_narrowed ?_
  rw [toNat_measuredTicks]
  omega

theorem narrowed_phase (total : UInt64) (periodUs : UInt32) :
    (total % (max periodUs 1).toUInt64).toUInt32.toUInt64 = total % (max periodUs 1).toUInt64 := by
  have hperiod := word_lt (max periodUs 1)
  have hpos : 0 < (max periodUs 1).toNat := by
    rw [toNat_max]
    exact Nat.lt_of_lt_of_le Nat.one_pos (Nat.le_max_right _ _)
  refine widened_narrowed ?_
  rw [UInt64.toNat_mod, toNat_widened]
  exact Nat.lt_trans (Nat.mod_lt _ hpos) hperiod

/-! ## Time is kept up to the limit -/

/-- A split always has a result. Its ticks are within the step limit and its phase is within a tick, and
neither is cut off by being narrowed. The ticks never go down with a longer time or a larger request. What
the parts make up fits a word and is never more than the time that was split: it is all of it exactly before
the tick after the limit is over, and otherwise it is the limit. -/
theorem split_conserves_time {total : UInt64} {periodUs requested : UInt32} {source : WakeSource}
    {period cap : Nat} {e : Elapsed} (hperiod : period = max periodUs.toNat 1)
    (hcap : cap = min (requested.toNat + 1) (2 ^ 32 - 1))
    (he : e = split total periodUs requested source) :
    (∀ {σ : Type} [Logger σ] (t : σ), ∃ t', measure total periodUs requested source t = .ok e t') ∧
      e.source = source ∧
      e.wholeTicks.toNat ≤ cap ∧
      e.phaseUs.toNat < period ∧
      (∀ total' requested', total.toNat ≤ total'.toNat → requested.toNat ≤ requested'.toNat →
        e.wholeTicks.toNat ≤ (split total' periodUs requested' source).wholeTicks.toNat) ∧
      (∃ whole, e.totalUs (max periodUs 1) = .ok whole ∧
        whole.toNat ≤ total.toNat ∧
        (whole = total ↔ total.toNat < (cap + 1) * period) ∧
        (whole ≠ total → whole.toNat = cap * period)) ∧
      (¬ Overslept total periodUs requested →
        (measuredTicks total periodUs).toUInt32.toUInt64 = measuredTicks total periodUs) ∧
      (total % (max periodUs 1).toUInt64).toUInt32.toUInt64 = total % (max periodUs 1).toUInt64 := by
  subst hperiod hcap he
  refine ⟨fun t => ⟨_, measure_eq total periodUs requested source t⟩, split_source _ _ _ _,
    wholeTicks_split_le_stepLimit _ _ _ _, phaseUs_split_lt _ _ _ _,
    fun total' requested' => wholeTicks_split_mono, ?_, narrowed_measuredTicks, narrowed_phase _ _⟩
  rcases Nat.lt_or_ge total.toNat
    ((min (requested.toNat + 1) (2 ^ 32 - 1) + 1) * max periodUs.toNat 1) with hfits | hover
  · exact ⟨total, totalUs_split_of_lt hfits, Nat.le_refl _, iff_of_true rfl hfits,
      fun h => absurd rfl h⟩
  · obtain ⟨whole, htotal, hlimit, hlt⟩ := totalUs_split_of_ge hover
    have hne : whole ≠ total := by
      rintro rfl
      exact Nat.lt_irrefl _ hlt
    exact ⟨whole, htotal, Nat.le_of_lt hlt, iff_of_false hne (Nat.not_lt.2 hover), fun _ => hlimit⟩

/-- Nine hundred ticks for a request of five hundred are cut off after one tick more than requested. -/
theorem runaway_sleep_cut :
    1000 = max (1000 : UInt32).toNat 1 ∧
      501 = min ((500 : UInt32).toNat + 1) (2 ^ 32 - 1) ∧
      (⟨501, 0, .alarm⟩ : Elapsed) = split 900500 1000 500 .alarm ∧
      ∃ whole, (⟨501, 0, .alarm⟩ : Elapsed).totalUs 1000 = .ok whole ∧ whole.toNat = 501 * 1000 := by
  have hperiod : 1000 = max (1000 : UInt32).toNat 1 := by decide
  have hcap : 501 = min ((500 : UInt32).toNat + 1) (2 ^ 32 - 1) := by decide
  have he : (⟨501, 0, .alarm⟩ : Elapsed) = split 900500 1000 500 .alarm := by decide
  obtain ⟨-, -, -, -, -, ⟨whole, htotal, -, hall, hlimit⟩, -⟩ := split_conserves_time hperiod hcap he
  exact ⟨hperiod, hcap, he, whole, htotal, hlimit fun h => absurd (hall.1 h) (by decide)⟩

end Elapsed

end Tickless
