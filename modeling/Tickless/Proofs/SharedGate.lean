import Mathlib.Algebra.BigOperators.Group.Finset.Piecewise
import Mathlib.Algebra.Order.BigOperators.Group.Finset
import Tickless.Gate
import Tickless.Proofs.Acts
import Tickless.Proofs.Words
import Tickless.Sleep.Depth

/-!
# A gate shared by clients

Any number of clients hold one gate, by acquires and by guards, and their uses of it come in any order.
The gate knows none of them: all it keeps is a count that stops at both ends of its word. As long as no
client takes away what it does not have itself, and all of them together have no more than the word
holds, the count never comes to either end, and it is what all clients have together.
-/

namespace Tickless

/-! ## Clients -/

/-- What a client does to the gate. It knows each of its guards by a name. -/
inductive ClientUse where
  | acquire
  | release
  | hold (guard : Nat)
  | drop (guard : Nat)

namespace ClientUse

/-- What the gate sees of a use: guards are all alike to it. -/
def onGate : ClientUse → GateUse
  | acquire => .acquire
  | release => .release
  | hold _ => .hold
  | drop _ => .drop

/-- Whether a use adds to the holds, and does not take one away. -/
def adds : ClientUse → Bool
  | acquire | hold _ => true
  | release | drop _ => false

end ClientUse

/-- What a client has of the gate. -/
structure GateClient where
  /-- Its acquires that it has not released. -/
  acquires : Nat := 0
  /-- The names of its guards that are alive. -/
  guards : Finset Nat := ∅

namespace GateClient

variable {c : GateClient} {u : ClientUse}

/-- The holds of a client. -/
def outstanding (c : GateClient) : Nat :=
  c.acquires + c.guards.card

/-- The uses of a client that behaves well: it releases only an acquire of its own, and drops only a
guard that is alive. A new guard is given a name that is free. -/
def Allows (c : GateClient) : ClientUse → Prop
  | .acquire => True
  | .release => 0 < c.acquires
  | .hold guard => guard ∉ c.guards
  | .drop guard => guard ∈ c.guards

instance (c : GateClient) : DecidablePred c.Allows
  | .acquire => inferInstanceAs (Decidable True)
  | .release => inferInstanceAs (Decidable (0 < c.acquires))
  | .hold guard => inferInstanceAs (Decidable (guard ∉ c.guards))
  | .drop guard => inferInstanceAs (Decidable (guard ∈ c.guards))

/-- What a client has after a use. -/
def after (c : GateClient) : ClientUse → GateClient
  | .acquire => { c with acquires := c.acquires + 1 }
  | .release => { c with acquires := c.acquires - 1 }
  | .hold guard => { c with guards := insert guard c.guards }
  | .drop guard => { c with guards := c.guards.erase guard }

theorem outstanding_after_of_adds (h : c.Allows u) (hadds : u.adds = true) :
    (c.after u).outstanding = c.outstanding + 1 := by
  cases u with
  | acquire =>
    simp only [after, outstanding]
    omega
  | hold guard =>
    have hnew : guard ∉ c.guards := h
    simp only [after, outstanding, Finset.card_insert_of_notMem hnew]
    omega
  | release => cases hadds
  | drop guard => cases hadds

theorem outstanding_after_of_takes (h : c.Allows u) (htakes : u.adds = false) :
    (c.after u).outstanding + 1 = c.outstanding := by
  cases u with
  | release =>
    have hpos : 0 < c.acquires := h
    simp only [after, outstanding]
    omega
  | drop guard =>
    have halive : guard ∈ c.guards := h
    have hcard := Finset.card_erase_add_one halive
    simp only [after, outstanding]
    omega
  | acquire => cases htakes
  | hold guard => cases htakes

end GateClient

/-! ## Uses of a gate -/

/-- Whether a use adds a hold, and does not take one away. -/
def GateUse.adds : GateUse → Bool
  | acquire | hold => true
  | release | drop => false

/-- The gate sees of a use what it does to the holds. -/
theorem ClientUse.adds_onGate (u : ClientUse) : u.onGate.adds = u.adds := by
  cases u <;> rfl

namespace Gate

variable {g : Gate}

/-- Whether a gate ignores a use: a hold is to be taken away, and there is none. -/
def Ignores (g : Gate) (u : GateUse) : Prop :=
  u.adds = false ∧ g.isHeld = false

instance (g : Gate) (u : GateUse) : Decidable (g.Ignores u) :=
  inferInstanceAs (Decidable (_ ∧ _))

theorem isHeld_eq_false_iff : g.isHeld = false ↔ g.count.toNat = 0 := by
  simp only [isHeld, decide_eq_false_iff_not, gt_iff_lt, UInt32.lt_iff_toNat_lt]
  show ¬ 0 < _ ↔ _
  omega

theorem not_ignores_of_held (h : 0 < g.count.toNat) (u : GateUse) : ¬ g.Ignores u := by
  rintro ⟨-, hidle⟩
  rw [isHeld_eq_false_iff] at hidle
  omega

theorem release_eq {σ : Type} [Logger σ] (g : Gate) (t : σ) :
    g.release t =
      .ok g.released (if g.isHeld = false then Logger.record .idleGateReleased t else t) :=
  Act.logIf_bind _ _ _ t

end Gate

namespace GuardedGate

variable {g : GuardedGate} {u : GateUse}

/-- A gate after a use. -/
def used (g : GuardedGate) : GateUse → GuardedGate
  | .acquire => { g with gate := g.gate.acquired }
  | .release => { g with gate := g.gate.released }
  | .hold => { gate := g.gate.acquired, guards := g.guards + 1 }
  | .drop => { gate := g.gate.released, guards := g.guards - 1 }

/-- A use comes to its end, and it is reported if it is ignored. -/
theorem use_eq (t : Transcript) (hguards : u = .drop → 0 < g.guards) :
    g.use u t = .ok (g.used u) (if g.gate.Ignores u then .idleGateReleased :: t else t) := by
  cases u with
  | acquire => rfl
  | hold => rfl
  | release =>
    refine (Act.bind_of_ok (g.gate.release_eq t)).trans ?_
    simp only [Gate.Ignores, GateUse.adds, true_and]
    rfl
  | drop =>
    obtain ⟨n, hn⟩ := Nat.exists_eq_succ_of_ne_zero (Nat.ne_of_gt (hguards rfl))
    unfold use used
    simp only [hn]
    refine (Act.bind_of_ok (g.gate.release_eq t)).trans ?_
    simp only [Gate.Ignores, GateUse.adds, true_and]
    rfl

/-- What a use leaves of the gate depends on what it does to the holds alone. -/
theorem gate_used_eq (g : GuardedGate) (u : GateUse) :
    (g.used u).gate = if u.adds then g.gate.acquired else g.gate.released := by
  cases u <;> rfl

end GuardedGate

/-! ## The gate and its clients -/

/-- A gate with what each client has of it, and with the messages so far. -/
structure SharedGate (ι : Type) where
  gate : GuardedGate := {}
  clients : ι → GateClient := fun _ => {}
  transcript : Transcript := []

namespace SharedGate

variable {ι : Type} [Fintype ι] {g g' : SharedGate ι} {i : ι} {u : ClientUse}

/-- The holds of all clients. -/
def outstanding (g : SharedGate ι) : Nat :=
  ∑ i, (g.clients i).outstanding

theorem outstanding_client_le (g : SharedGate ι) (i : ι) :
    (g.clients i).outstanding ≤ g.outstanding :=
  Finset.single_le_sum (f := fun j => (g.clients j).outstanding) (fun _ _ => Nat.zero_le _)
    (Finset.mem_univ i)

theorem card_guards_le (g : SharedGate ι) (i : ι) :
    (g.clients i).guards.card ≤ ∑ j, (g.clients j).guards.card :=
  Finset.single_le_sum (f := fun j => (g.clients j).guards.card) (fun _ _ => Nat.zero_le _)
    (Finset.mem_univ i)

/-- The gate counts the holds of its clients and their guards, and has had nothing to report. -/
structure Counted (g : SharedGate ι) : Prop where
  count_eq : g.gate.gate.count.toNat = g.outstanding
  guards_eq : g.gate.guards = ∑ i, (g.clients i).guards.card
  silent : g.transcript = []

/-- A client that takes away what it has itself finds the gate held. -/
theorem Counted.held (h : g.Counted) (hallowed : (g.clients i).Allows u) (htakes : u.adds = false) :
    0 < g.gate.gate.count.toNat := by
  have hown := GateClient.outstanding_after_of_takes hallowed htakes
  have hall := g.outstanding_client_le i
  have hcount := h.count_eq
  omega

theorem Counted.guards_pos (h : g.Counted) {guard : Nat} (halive : guard ∈ (g.clients i).guards) :
    0 < g.gate.guards := by
  -- the gate knows of as many guards as are alive, so there is one for it to drop
  have hown : 0 < (g.clients i).guards.card := Finset.card_pos.2 ⟨guard, halive⟩
  have hall := g.card_guards_le i
  rw [h.guards_eq]
  omega

theorem Counted.not_ignores (h : g.Counted) (hallowed : (g.clients i).Allows u) :
    ¬ g.gate.gate.Ignores u.onGate := by
  intro hignores
  have htakes : u.adds = false := u.adds_onGate ▸ hignores.1
  exact Gate.not_ignores_of_held (h.held hallowed htakes) _ hignores

theorem Counted.use_eq (h : g.Counted) (hallowed : (g.clients i).Allows u) :
    g.gate.use u.onGate g.transcript = .ok (g.gate.used u.onGate) g.transcript := by
  have hguards : u.onGate = .drop → 0 < g.gate.guards := by
    intro hdrop
    cases u with
    | drop guard => exact h.guards_pos hallowed
    | acquire => cases hdrop
    | release => cases hdrop
    | hold guard => cases hdrop
  rw [GuardedGate.use_eq _ hguards, if_neg (h.not_ignores hallowed)]

/-- The count decides for all clients at once. -/
theorem Counted.isHeld_eq_false_iff (h : g.Counted) :
    g.gate.gate.isHeld = false ↔ ∀ i, (g.clients i).outstanding = 0 := by
  rw [Gate.isHeld_eq_false_iff, h.count_eq]
  unfold outstanding
  rw [Finset.sum_eq_zero_iff]
  simp

variable [DecidableEq ι]

/-- One client uses the gate, and the others stay as they are. -/
structure Step (g : SharedGate ι) (i : ι) (u : ClientUse) (g' : SharedGate ι) : Prop where
  allowed : (g.clients i).Allows u
  used : g.gate.use u.onGate g.transcript = .ok g'.gate g'.transcript
  clients_eq : g'.clients = Function.update g.clients i ((g.clients i).after u)
  fits : g'.outstanding ≤ 2 ^ 32 - 1

/-- What any interleaving of the clients' uses of a new gate comes to. -/
inductive Reached : SharedGate ι → Prop where
  | new : Reached {}
  | step {g g' : SharedGate ι} {i : ι} {u : ClientUse} (h : Reached g) (hstep : g.Step i u g') : Reached g'

/-! ## What a step does -/

theorem sum_update (f : GateClient → Nat) (clients : ι → GateClient) (i : ι) (c : GateClient) :
    ∑ j, f (Function.update clients i c j) + f (clients i) = ∑ j, f (clients j) + f c := by
  have hf : ∀ j, f (Function.update clients i c j) = Function.update (fun j => f (clients j)) i (f c) j := by
    intro j
    by_cases hj : j = i
    · subst hj
      simp
    · simp [hj]
  simp only [hf]
  rw [Finset.sum_update_of_mem (Finset.mem_univ i), ← Finset.add_sum_erase _ _ (Finset.mem_univ i),
    Finset.sdiff_singleton_eq_erase]
  omega

/-- The gate and its clients after a use. -/
def moved (g : SharedGate ι) (i : ι) (u : ClientUse) : SharedGate ι where
  gate := g.gate.used u.onGate
  clients := Function.update g.clients i ((g.clients i).after u)
  transcript := g.transcript

theorem outstanding_moved (g : SharedGate ι) (i : ι) (u : ClientUse) :
    (g.moved i u).outstanding + (g.clients i).outstanding =
      g.outstanding + ((g.clients i).after u).outstanding :=
  sum_update GateClient.outstanding g.clients i _

theorem outstanding_moved_of_adds (hallowed : (g.clients i).Allows u) (hadds : u.adds = true) :
    (g.moved i u).outstanding = g.outstanding + 1 := by
  have hown := GateClient.outstanding_after_of_adds hallowed hadds
  have hall := g.outstanding_moved i u
  omega

theorem outstanding_moved_of_takes (hallowed : (g.clients i).Allows u) (htakes : u.adds = false) :
    (g.moved i u).outstanding + 1 = g.outstanding := by
  have hown := GateClient.outstanding_after_of_takes hallowed htakes
  have hall := g.outstanding_moved i u
  omega

/-- A step is the use, made without a message. -/
theorem Step.eq_moved (h : g.Counted) (hs : g.Step i u g') : g' = g.moved i u := by
  have hused := hs.used
  rw [h.use_eq hs.allowed] at hused
  obtain ⟨gate, clients, transcript⟩ := g'
  cases hused
  cases hs.clients_eq
  rfl

/-- What a client may do, it can do, if the word has room for it. -/
theorem Counted.step_moved (h : g.Counted) (hallowed : (g.clients i).Allows u)
    (hfits : (g.moved i u).outstanding ≤ 2 ^ 32 - 1) : g.Step i u (g.moved i u) :=
  ⟨hallowed, h.use_eq hallowed, rfl, hfits⟩

theorem Counted.count_moved (h : g.Counted) (hallowed : (g.clients i).Allows u)
    (hfits : (g.moved i u).outstanding ≤ 2 ^ 32 - 1) :
    (g.moved i u).gate.gate.count.toNat = (g.moved i u).outstanding := by
  have hcount := h.count_eq
  have hgate : (g.moved i u).gate.gate = _ := g.gate.gate_used_eq u.onGate
  rw [hgate, u.adds_onGate]
  cases hadds : u.adds with
  | true =>
    -- the increment is stopped only past the bound
    have hall := outstanding_moved_of_adds hallowed hadds
    rw [if_pos rfl, Gate.toNat_acquired, size_word32]
    omega
  | false =>
    have hall := outstanding_moved_of_takes hallowed hadds
    rw [if_neg Bool.false_ne_true, Gate.toNat_released]
    omega

theorem Counted.guards_moved (h : g.Counted) (hallowed : (g.clients i).Allows u) :
    (g.moved i u).gate.guards = ∑ j, ((g.moved i u).clients j).guards.card := by
  have hguards := h.guards_eq
  have hall := sum_update (fun c => c.guards.card) g.clients i ((g.clients i).after u)
  show (g.gate.used u.onGate).guards =
    ∑ j, (Function.update g.clients i ((g.clients i).after u) j).guards.card
  cases u with
  | acquire =>
    simp only [GateClient.after, GuardedGate.used, ClientUse.onGate] at hall ⊢
    omega
  | release =>
    simp only [GateClient.after, GuardedGate.used, ClientUse.onGate] at hall ⊢
    omega
  | hold guard =>
    have hnew : guard ∉ (g.clients i).guards := hallowed
    have hcard := Finset.card_insert_of_notMem hnew
    simp only [GateClient.after, GuardedGate.used, ClientUse.onGate] at hall ⊢
    omega
  | drop guard =>
    have halive : guard ∈ (g.clients i).guards := hallowed
    have hcard := Finset.card_erase_add_one halive
    simp only [GateClient.after, GuardedGate.used, ClientUse.onGate] at hall ⊢
    omega

theorem Counted.step (h : g.Counted) (hs : g.Step i u g') : g'.Counted := by
  have hfits := hs.fits
  rw [hs.eq_moved h] at hfits ⊢
  exact ⟨h.count_moved hs.allowed hfits, h.guards_moved hs.allowed, h.silent⟩

theorem Reached.counted (h : g.Reached) : g.Counted := by
  induction h with
  | new => exact ⟨by simp [outstanding, GateClient.outstanding], by simp, rfl⟩
  | step h hstep ih => exact ih.step hstep

/-- A run goes on with any use that a client may make. -/
theorem Reached.moved (h : g.Reached) (hallowed : (g.clients i).Allows u)
    (hfits : (g.moved i u).outstanding ≤ 2 ^ 32 - 1) : (g.moved i u).Reached :=
  h.step (h.counted.step_moved hallowed hfits)

end SharedGate

/-! ## What the count decides -/

/-- A gate that is held leaves no choice, whatever the platform answers. -/
theorem chooseDepth_of_held {σ : Type} [Platform σ] {s : Settings} {ticks : UInt32} {mode : SleepMode}
    {p p' : σ} (h : chooseDepth s ticks true p = .ok mode p') : mode = .light := by
  obtain ⟨ms, -, h⟩ := Act.lift_bind_eq_ok.1 h
  have hconsents : consents (ms ≥ s.minDeepSleepMs.toUInt64 && !true) p = .ok false p := by
    rw [Bool.not_true, Bool.and_false]
    rfl
  rw [Act.bind_of_ok hconsents] at h
  obtain ⟨-, q, -, h⟩ := Act.bind_eq_ok.1 h
  exact (Act.pure_eq_ok.1 h).1

namespace SharedGate

variable {ι : Type} [Fintype ι] [DecidableEq ι] {g : SharedGate ι}

/-- In any interleaving of well-behaved clients, the count of the gate is what all of them have together.
Every use that a client may make comes to its end without a message, and moves the count by one: no release
and no drop is ignored. So deep sleep is chosen only while no client has a hold, and as soon as none has,
the choice is the one that a new gate leaves. -/
theorem gate_counts_outstanding (h : g.Reached) :
    g.gate.gate.count.toNat = g.outstanding ∧ g.transcript = [] ∧
      (∀ i u, (g.clients i).Allows u → (u.adds = true → g.outstanding < 2 ^ 32 - 1) →
        ∃ g', g.Step i u g') ∧
      (∀ i u g', g.Step i u g' →
        (u.adds = true → g'.gate.gate.count.toNat = g.gate.gate.count.toNat + 1) ∧
        (u.adds = false → g'.gate.gate.count.toNat + 1 = g.gate.gate.count.toNat)) ∧
      (∀ {σ : Type} [Platform σ] (s : Settings) (ticks : UInt32) (p p' : σ),
        chooseDepth s ticks g.gate.gate.isHeld p = .ok .deep p' →
          ∀ i, (g.clients i).acquires = 0 ∧ (g.clients i).guards = ∅) ∧
      ((∀ i, (g.clients i).acquires = 0 ∧ (g.clients i).guards = ∅) →
        ∀ {σ : Type} [Platform σ] (s : Settings) (ticks : UInt32),
          chooseDepth s ticks g.gate.gate.isHeld =
            (chooseDepth s ticks ({} : Gate).isHeld : Act σ SleepMode)) := by
  have hcounted := h.counted
  have hfree : ∀ i, (g.clients i).outstanding = 0 ↔
      (g.clients i).acquires = 0 ∧ (g.clients i).guards = ∅ := fun i => by
    rw [GateClient.outstanding, Nat.add_eq_zero_iff, Finset.card_eq_zero]
  refine ⟨hcounted.count_eq, hcounted.silent, ?_, ?_, ?_, ?_⟩
  · intro i u hallowed hroom
    refine ⟨_, hcounted.step_moved hallowed ?_⟩
    have hnow := hcounted.count_eq
    have hword := word_lt g.gate.gate.count
    cases hadds : u.adds with
    | true =>
      have hall := outstanding_moved_of_adds hallowed hadds
      have hlt := hroom hadds
      omega
    | false =>
      have hall := outstanding_moved_of_takes hallowed hadds
      omega
  · intro i u g' hstep
    have hcount := hcounted.count_eq
    have hcount' := (hcounted.step hstep).count_eq
    rw [hstep.eq_moved hcounted] at hcount' ⊢
    constructor
    · intro hadds
      have hall := outstanding_moved_of_adds hstep.allowed hadds
      omega
    · intro htakes
      have hall := outstanding_moved_of_takes hstep.allowed htakes
      omega
  · intro σ _ s ticks p p' hdeep i
    cases hheld : g.gate.gate.isHeld with
    | false => exact (hfree i).1 (hcounted.isHeld_eq_false_iff.1 hheld i)
    | true =>
      rw [hheld] at hdeep
      cases chooseDepth_of_held hdeep
  · intro hgone σ _ s ticks
    rw [hcounted.isHeld_eq_false_iff.2 fun i => (hfree i).2 (hgone i)]
    rfl

/-- Two clients, of which the second drops its older guard first: what is left of three holds are two. -/
theorem two_clients_counted :
    ∃ g : SharedGate (Fin 2), g.Reached ∧ (g.clients 0).acquires = 1 ∧ (g.clients 1).guards = {8} ∧
      g.gate.gate.count.toNat = 2 ∧ g.transcript = [] := by
  have hacquire : (({} : SharedGate (Fin 2)).moved 0 .acquire).Reached :=
    Reached.new.moved (by decide) (by decide)
  have hfirst := hacquire.moved (i := 1) (u := .hold 7) (by decide) (by decide)
  have hsecond := hfirst.moved (i := 1) (u := .hold 8) (by decide) (by decide)
  have hdrop := hsecond.moved (i := 1) (u := .drop 7) (by decide) (by decide)
  obtain ⟨hcount, hsilent, -⟩ := gate_counts_outstanding hdrop
  exact ⟨_, hdrop, by decide, by decide, hcount.trans (by decide), hsilent⟩

end SharedGate

end Tickless
