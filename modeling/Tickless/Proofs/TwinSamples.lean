import Tickless.Proofs.Sampling
import Tickless.Proofs.TwinBenches

/-!
# Samples on twin benches

A sample is the one step of the idle path in which twins may part, as their policies may differ. The same
policy meets the same sample on both. A bounded policy on the first reads what the unbounded one reads on
the second, or gives up.
-/

namespace Tickless.Difference

open Bench

variable {d : Difference} {armed : Bool} {c c' : Chip} {b b' : Bench} {stage : SampleStage}

/-! ## Benches after a sample -/

/-- A sample reads as far ahead as the counter is. -/
theorem Chips.sampled (h : d.Chips armed c c') : d.Chips armed c.sampled c'.sampled := by
  obtain ⟨alarm, events, rfl⟩ := h.twin
  exact ⟨⟨_, _, rfl⟩, h.alarms, h.logs.push (.rtcSample c.rtc.counter), h.known⟩

theorem Benches.withBusyLeft (h : d.Benches armed b b') (left : UInt32) :
    d.Benches armed (b.withBusyLeft left) (b'.withBusyLeft left) :=
  { h with
    chip := Chips.of_silent (f := fun c => { c with rtc := { c.rtc with busyLeft := left } }) {} h.chip }

theorem Benches.counter_eq (h : d.Benches armed b b') :
    b'.chip.rtc.counter = b.chip.rtc.counter + d.counter := by
  obtain ⟨alarm, events, hb'⟩ := h.chip.twin
  rw [hb']
  rfl

theorem Benches.stuck_eq (h : d.Benches armed b b') : b'.chip.rtc.stuck = b.chip.rtc.stuck := by
  obtain ⟨alarm, events, hb'⟩ := h.chip.twin
  rw [hb']
  rfl

theorem Benches.busyPolls_eq (h : d.Benches armed b b') :
    b'.chip.rtc.busyPolls = b.chip.rtc.busyPolls := by
  obtain ⟨alarm, events, hb'⟩ := h.chip.twin
  rw [hb']
  rfl

/-! ## Samples -/

/-- A sample that both of them read. -/
theorem sample_of_outlasts {halts : Halts Bench Bench} {p p' : PollPolicy} (h : d.Benches armed b b')
    (hb : b.chip.rtc.stuck = false) (hb' : b'.chip.rtc.stuck = false)
    (hp : p.Outlasts b.chip.rtc.busyPolls) (hp' : p'.Outlasts b.chip.rtc.busyPolls) :
    Ends halts (fun n n' => n' = n + d.counter) (d.Benches armed) (sampleCounter p stage b)
      (sampleCounter p' stage b') := by
  rw [sampleCounter_eq_ok.2 ⟨hb, hp, rfl, rfl⟩,
    sampleCounter_eq_ok.2 ⟨hb', by rw [h.busyPolls_eq]; exact hp', rfl, rfl⟩]
  exact .answered h.counter_eq { h with chip := h.chip.sampled }

/-- Both come to the same halt. -/
def sameHalts (d : Difference) : Halts Bench Bench := fun h b halt? =>
  ∃ b', halt? = some (h, b') ∧ d.Benches false b b'

theorem sameHalts_of_overflows (h : Halt) (b : Bench) (halt? : Option (Halt × Bench))
    (hover : d.overflows h b halt?) : d.sameHalts h b halt? := by
  obtain ⟨e, b', rfl, rfl, hb⟩ := hover
  exact ⟨b', rfl, hb⟩

/-- The same policy meets the same sample. -/
theorem sample_together_same (p : PollPolicy) :
    Together d.sameHalts (d.Benches false) (sampleCounter p stage) (sampleCounter p stage)
      (fun n n' => n' = n + d.counter) (d.Benches false) := by
  intro b b' h
  have heq := h.stuck_eq
  by_cases hread : b.chip.rtc.stuck = false ∧ p.Outlasts b.chip.rtc.busyPolls
  · exact sample_of_outlasts h hread.1 (heq.trans hread.1) hread.2 hread.2
  · have hpolls := h.busyPolls_eq
    cases hb : b.chip.rtc.stuck with
    | true =>
      rw [hb] at heq
      cases p with
      | unbounded =>
        rw [sampleCounter_endless hb, sampleCounter_endless heq, hpolls]
        exact .halted ⟨_, rfl, h.withBusyLeft _⟩
      | bounded budget =>
        rw [sampleCounter_fault_of_stuck hb, sampleCounter_fault_of_stuck heq, hpolls]
        exact .halted ⟨_, rfl, (h.withBusyLeft _).record _⟩
    | false =>
      rw [hb] at heq
      cases p with
      | unbounded => exact absurd ⟨hb, trivial⟩ hread
      | bounded budget =>
        have hle : max budget.toNat 1 ≤ b.chip.rtc.busyPolls.toNat :=
          Nat.le_of_not_lt fun hlt => hread ⟨hb, hlt⟩
        rw [sampleCounter_fault_of_le hb hle, sampleCounter_fault_of_le heq (by rwa [hpolls]), hpolls]
        exact .halted ⟨_, rfl, (h.withBusyLeft _).record _⟩

/-- The first gives up on a sample. -/
def givesUp (d : Difference) (slow : Prop) : Halts Bench Bench := fun h b halt? =>
  d.overflows h b halt? ∨ slow ∧ halt? = none ∧ ∃ stage, h = .fault (.sampleStuck stage)

/-- A bounded policy gives up on some of the samples that the unbounded one reads. -/
theorem sample_together_bounded {budget busyPolls : UInt32}
    (hknown : ∀ stuck polls, d.known stuck polls → stuck = false ∧ polls = busyPolls) :
    Together (d.givesUp (max budget.toNat 1 ≤ busyPolls.toNat)) (d.Benches false)
      (sampleCounter (.bounded budget) stage) (sampleCounter .unbounded stage)
      (fun n n' => n' = n + d.counter) (d.Benches false) := by
  intro b b' h
  obtain ⟨hb, hpolls⟩ := hknown _ _ h.chip.known
  by_cases hlt : PollPolicy.Outlasts b.chip.rtc.busyPolls (.bounded budget)
  · exact sample_of_outlasts h hb (h.stuck_eq.trans hb) hlt trivial
  · have hle : max budget.toNat 1 ≤ b.chip.rtc.busyPolls.toNat := Nat.le_of_not_lt hlt
    rw [sampleCounter_fault_of_le hb hle]
    exact .excused (.inr ⟨by rwa [← hpolls], rfl, _, rfl⟩)

end Tickless.Difference
