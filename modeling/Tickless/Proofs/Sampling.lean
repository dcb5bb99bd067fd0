import Tickless.Proofs.Conversions
import Tickless.Proofs.BenchCommands

/-!
# Sampling on the bench

A poll of the simulated chip finds the sample busy for as many polls as are left, and for ever when
samples are stuck. So a sample is read exactly if it is not stuck and the budget of polls outlasts
the busy ones, and reading it leaves nothing of the polling behind.
-/

namespace Tickless

/-- A poll policy goes on for more than a number of busy polls. -/
def PollPolicy.Outlasts (busyPolls : UInt32) : PollPolicy → Prop
  | .unbounded => True
  | .bounded maxPolls => busyPolls.toNat < max maxPolls.toNat 1

instance (busyPolls : UInt32) (p : PollPolicy) : Decidable (p.Outlasts busyPolls) :=
  match p with
  | .unbounded => inferInstanceAs (Decidable True)
  | .bounded _ => inferInstanceAs (Decidable (_ < _))

namespace Bench

/-- The bench with a number of busy polls left. -/
def withBusyLeft (left : UInt32) (b : Bench) : Bench :=
  { b with chip := { b.chip with rtc := { b.chip.rtc with busyLeft := left } } }

theorem poll_eq {b : Bench} (hb : b.chip.rtc.stuck = false) :
    (ask .sampleBusy : Act Bench Bool) b =
      if b.chip.rtc.busyLeft = 0 then .ok false b
      else .ok true (b.withBusyLeft (b.chip.rtc.busyLeft - 1)) := by
  show EStateM.Result.ok b.chip.rtc.poll.1 { b with chip := { b.chip with rtc := b.chip.rtc.poll.2 } } = _
  unfold RealTimeCounter.poll
  rw [if_neg (by rw [hb]; decide)]
  split
  · rfl
  · rfl

/-- Polling finds a stuck sample busy every time. -/
theorem becomesReady_of_stuck {b : Bench} (hb : b.chip.rtc.stuck = true) (polls : Nat) :
    becomesReady (ask .sampleBusy) polls b = .ok false b := by
  induction polls with
  | zero => rfl
  | succ polls ih =>
    have hpoll : (ask .sampleBusy : Act Bench Bool) b = .ok true b := by
      show EStateM.Result.ok b.chip.rtc.poll.1
        { b with chip := { b.chip with rtc := b.chip.rtc.poll.2 } } = _
      unfold RealTimeCounter.poll
      rw [if_pos hb]
    unfold becomesReady
    rw [Act.bind_of_ok hpoll]
    exact ih

/-- Polling finds any other sample ready after the busy polls, if it goes on for that long. -/
theorem becomesReady_of_lt {b : Bench} (hb : b.chip.rtc.stuck = false) {polls : Nat}
    (h : b.chip.rtc.busyLeft.toNat < polls) :
    becomesReady (ask .sampleBusy) polls b = .ok true (b.withBusyLeft 0) := by
  induction polls generalizing b with
  | zero => omega
  | succ polls ih =>
    unfold becomesReady
    by_cases h0 : b.chip.rtc.busyLeft = 0
    · rw [Act.bind_of_ok ((poll_eq hb).trans (if_pos h0))]
      show EStateM.Result.ok true b = _
      rw [← h0]
      rfl
    · have hpos : 0 < b.chip.rtc.busyLeft.toNat := toNat_pos h0
      have hsub : (b.chip.rtc.busyLeft - 1).toNat = b.chip.rtc.busyLeft.toNat - 1 :=
        toNat_sub_one hpos
      rw [Act.bind_of_ok ((poll_eq hb).trans (if_neg h0))]
      exact ih (b := b.withBusyLeft (b.chip.rtc.busyLeft - 1)) hb
        (by show (b.chip.rtc.busyLeft - 1).toNat < polls; omega)

/-- Polling that is too short leaves the sample busy. -/
theorem becomesReady_of_le {b : Bench} (hb : b.chip.rtc.stuck = false) {polls : Nat}
    (h : polls ≤ b.chip.rtc.busyLeft.toNat) :
    becomesReady (ask .sampleBusy) polls b =
      .ok false (b.withBusyLeft (UInt32.ofNat (b.chip.rtc.busyLeft.toNat - polls))) := by
  induction polls generalizing b with
  | zero =>
    show EStateM.Result.ok false b = _
    rw [Nat.sub_zero, UInt32.ofNat_toNat]
    rfl
  | succ polls ih =>
    have hpos : 0 < b.chip.rtc.busyLeft.toNat := Nat.lt_of_lt_of_le polls.succ_pos h
    have h0 : b.chip.rtc.busyLeft ≠ 0 := word_ne_zero hpos
    have hsub : (b.chip.rtc.busyLeft - 1).toNat = b.chip.rtc.busyLeft.toNat - 1 :=
      toNat_sub_one hpos
    unfold becomesReady
    rw [Act.bind_of_ok ((poll_eq hb).trans (if_neg h0))]
    show becomesReady (ask .sampleBusy) polls (b.withBusyLeft (b.chip.rtc.busyLeft - 1)) = _
    rw [ih (b := b.withBusyLeft (b.chip.rtc.busyLeft - 1)) hb
      (by show polls ≤ (b.chip.rtc.busyLeft - 1).toNat; omega)]
    show EStateM.Result.ok false
      (b.withBusyLeft (UInt32.ofNat ((b.chip.rtc.busyLeft - 1).toNat - polls))) = _
    rw [hsub, Nat.sub_sub, Nat.add_comm 1 polls]

end Bench

/-- The polls that a policy allows, given a patience for the unbounded one. -/
def PollPolicy.polls (patience : Nat) : PollPolicy → Nat
  | .unbounded => patience
  | .bounded maxPolls => max maxPolls.toNat 1

/-- A wait comes to its end exactly if one of the allowed polls finds the hardware ready. -/
theorem waitReady_eq_ok {σ : Type} [Logger σ] {policy : PollPolicy} {fault : Fault} {patience : Nat}
    {busy : Act σ Bool} {s t : σ} {u : Unit} :
    waitReady policy fault patience busy s = .ok u t ↔
      becomesReady busy (policy.polls patience) s = .ok true t := by
  have hguard : ∀ {x : Act σ Bool} {giveUp : Act σ Unit},
      (∀ t', giveUp t' ≠ .ok u t) →
      ((x >>= fun ready => if ready = true then pure () else giveUp) s = .ok u t ↔
        x s = .ok true t) := by
    intro x giveUp hgiveUp
    rw [Act.bind_eq_ok]
    constructor
    · rintro ⟨ready, t', hx, hr⟩
      cases ready with
      | true =>
        obtain ⟨-, rfl⟩ := Act.pure_eq_ok.1 hr
        exact hx
      | false => exact absurd hr (hgiveUp t')
    · intro hx
      exact ⟨true, t, hx, rfl⟩
  cases policy with
  | unbounded => exact hguard fun t' h => Act.throw_eq_ok.1 h
  | bounded maxPolls =>
    show _ ↔ becomesReady busy (max maxPolls.toNat 1) s = _
    rw [show max maxPolls.toNat 1 = (max maxPolls 1).toNat from (toNat_max maxPolls 1).symm]
    refine hguard fun t' h => ?_
    obtain ⟨_, t'', -, h⟩ := Act.bind_eq_ok.1 h
    exact Act.throw_eq_ok.1 h

namespace Bench

/-- A sample is read exactly if it is not stuck and the policy outlasts its busy polls. -/
theorem sampleCounter_eq_ok {policy : PollPolicy} {stage : SampleStage} {b b' : Bench} {n : UInt32} :
    sampleCounter policy stage b = .ok n b' ↔
      b.chip.rtc.stuck = false ∧ policy.Outlasts b.chip.rtc.busyPolls ∧
        n = b.chip.rtc.counter ∧ b' = { b with chip := b.chip.sampled } := by
  have hrun : sampleCounter policy stage b = .ok n b' ↔ ∃ b1 : Bench,
      becomesReady (ask .sampleBusy) (policy.polls (b.chip.rtc.busyPolls.toNat + 1))
        (b.withBusyLeft b.chip.rtc.busyPolls) = .ok true b1 ∧
      n = b1.chip.rtc.counter ∧
      b' = { b1 with chip := b1.chip.logged (.rtcSample b1.chip.rtc.counter) } := by
    show (waitReady policy (.sampleStuck stage) (b.chip.rtc.busyPolls.toNat + 1) (ask .sampleBusy) >>=
      fun _ => sense .sampledCounter) (b.withBusyLeft b.chip.rtc.busyPolls) = _ ↔ _
    rw [Act.bind_eq_ok]
    constructor
    · rintro ⟨_, b1, hw, hs⟩
      cases hs
      exact ⟨b1, waitReady_eq_ok.1 hw, rfl, rfl⟩
    · rintro ⟨b1, hw, rfl, rfl⟩
      exact ⟨(), b1, waitReady_eq_ok.2 hw, rfl⟩
  have hpolls : policy.Outlasts b.chip.rtc.busyPolls ↔
      b.chip.rtc.busyPolls.toNat < policy.polls (b.chip.rtc.busyPolls.toNat + 1) := by
    cases policy with
    | unbounded => exact ⟨fun _ => Nat.lt_succ_self _, fun _ => trivial⟩
    | bounded maxPolls => exact Iff.rfl
  rw [hrun]
  by_cases hstuck : b.chip.rtc.stuck = true
  · rw [becomesReady_of_stuck (b := b.withBusyLeft b.chip.rtc.busyPolls) hstuck]
    simp [hstuck]
  · have hfree : b.chip.rtc.stuck = false := by simpa using hstuck
    by_cases hlt : policy.Outlasts b.chip.rtc.busyPolls
    · rw [becomesReady_of_lt (b := b.withBusyLeft b.chip.rtc.busyPolls) hfree (hpolls.1 hlt)]
      constructor
      · rintro ⟨b1, h1, rfl, rfl⟩
        cases h1
        exact ⟨hfree, hlt, rfl, rfl⟩
      · rintro ⟨-, -, rfl, rfl⟩
        exact ⟨_, rfl, rfl, rfl⟩
    · rw [becomesReady_of_le (b := b.withBusyLeft b.chip.rtc.busyPolls) hfree
        (Nat.le_of_not_lt fun h => hlt (hpolls.2 h))]
      simp [hlt]

variable {stage : SampleStage} {b : Bench} {budget : UInt32}

/-- An unbounded policy waits without end for a stuck sample. -/
theorem sampleCounter_endless (hb : b.chip.rtc.stuck = true) :
    sampleCounter .unbounded stage b = .error .endless (b.withBusyLeft b.chip.rtc.busyPolls) := by
  show ((becomesReady (ask .sampleBusy) (b.chip.rtc.busyPolls.toNat + 1) >>= fun ready =>
    unless ready do throw .endless) >>= fun _ => sense .sampledCounter)
      (b.withBusyLeft b.chip.rtc.busyPolls) = _
  refine Act.bind_of_error ?_
  rw [Act.bind_of_ok (becomesReady_of_stuck (b := b.withBusyLeft b.chip.rtc.busyPolls) hb _)]
  rfl

theorem sampleCounter_bounded {left : UInt32}
    (h : becomesReady (ask .sampleBusy) (max budget 1).toNat (b.withBusyLeft b.chip.rtc.busyPolls) =
      .ok false (b.withBusyLeft left)) :
    sampleCounter (.bounded budget) stage b =
      .error (.fault (.sampleStuck stage))
        (Logger.record (.pollsExhausted budget) (b.withBusyLeft left)) := by
  show ((becomesReady (ask .sampleBusy) (max budget 1).toNat >>= fun ready =>
    unless ready do
      log (.pollsExhausted budget)
      throw (.fault (.sampleStuck stage))) >>= fun _ => sense .sampledCounter)
      (b.withBusyLeft b.chip.rtc.busyPolls) = _
  refine Act.bind_of_error ?_
  rw [Act.bind_of_ok h]
  rfl

/-- A bounded policy gives up on a stuck sample. -/
theorem sampleCounter_fault_of_stuck (hb : b.chip.rtc.stuck = true) :
    sampleCounter (.bounded budget) stage b =
      .error (.fault (.sampleStuck stage))
        (Logger.record (.pollsExhausted budget) (b.withBusyLeft b.chip.rtc.busyPolls)) :=
  sampleCounter_bounded (becomesReady_of_stuck (b := b.withBusyLeft b.chip.rtc.busyPolls) hb _)

/-- A bounded policy gives up on a sample that its budget of polls does not outlast. -/
theorem sampleCounter_fault_of_le (hb : b.chip.rtc.stuck = false)
    (h : max budget.toNat 1 ≤ b.chip.rtc.busyPolls.toNat) :
    sampleCounter (.bounded budget) stage b =
      .error (.fault (.sampleStuck stage))
        (Logger.record (.pollsExhausted budget)
          (b.withBusyLeft (UInt32.ofNat (b.chip.rtc.busyPolls.toNat - (max budget 1).toNat)))) :=
  sampleCounter_bounded
    (becomesReady_of_le (b := b.withBusyLeft b.chip.rtc.busyPolls) hb (by rwa [toNat_max]))

end Bench

end Tickless
