import Mathlib.Order.Bounds.Defs
import Tickless.Proofs.SharedGate

/-!
# A gate that is misused

Nothing keeps a client from a release that it has no right to. Such a release takes away the hold of
somebody else or, when nobody holds the gate, is ignored and reported. So the count is a walk that is
stopped at zero: where it ends depends on the order of the uses and not on their numbers alone. The walk
without the stop, the balance, tells it all the same. As far as the balance has been below zero, so many
releases were ignored, and so far does the count lie above it.
-/

namespace Tickless

/-! ## The balance of a list of uses -/

namespace GateUse

/-- What a use adds to the balance. -/
def change (u : GateUse) : ℤ :=
  if u.adds then 1 else -1

/-- The uses that add a hold, less the uses that take one away. -/
def balance (us : List GateUse) : ℤ :=
  us.countP adds - us.countP fun u => !u.adds

/-- The lowest balance on the way through a list of uses. -/
def lowest : List GateUse → ℤ
  | [] => 0
  | u :: us => min 0 (u.change + lowest us)

variable {u : GateUse} {us : List GateUse}

theorem change_of_adds (h : u.adds = true) : u.change = 1 := if_pos h

theorem change_of_takes (h : u.adds = false) : u.change = -1 := if_neg (by rw [h]; exact Bool.false_ne_true)

theorem balance_cons (u : GateUse) (us : List GateUse) : balance (u :: us) = u.change + balance us := by
  unfold balance
  cases h : u.adds with
  | true =>
    rw [List.countP_cons_of_pos h, List.countP_cons_of_neg (by rw [h]; decide), change_of_adds h]
    omega
  | false =>
    rw [List.countP_cons_of_neg (by rw [h]; decide), List.countP_cons_of_pos (by rw [h]; decide),
      change_of_takes h]
    omega

theorem lowest_cons (u : GateUse) (us : List GateUse) :
    lowest (u :: us) = min 0 (u.change + lowest us) := rfl

theorem change_add_le (u : GateUse) (us : List GateUse) :
    u.change + us.countP adds ≤ (u :: us).countP adds ∧ us.countP adds ≤ (u :: us).countP adds := by
  rw [List.countP_cons]
  unfold change
  split <;> omega

theorem lowest_nonpos (us : List GateUse) : lowest us ≤ 0 := by
  cases us with
  | nil => exact le_refl 0
  | cons u us => exact min_le_left _ _

/-- The lowest balance is that of some part that a list of uses begins with, and of no part is the balance
lower. -/
theorem isLeast_lowest (us : List GateUse) :
    IsLeast {d | ∃ p, p <+: us ∧ balance p = d} (lowest us) := by
  induction us with
  | nil =>
    refine ⟨⟨[], List.prefix_rfl, rfl⟩, ?_⟩
    rintro d ⟨p, hp, rfl⟩
    rw [List.prefix_nil.1 hp]
    exact le_refl 0
  | cons u us ih =>
    obtain ⟨⟨p, hp, hlowest⟩, hleast⟩ := ih
    constructor
    · rcases min_choice 0 (u.change + lowest us) with h | h
      · exact ⟨[], List.nil_prefix, h.symm⟩
      · refine ⟨u :: p, List.cons_prefix_cons.2 ⟨rfl, hp⟩, ?_⟩
        rw [balance_cons, hlowest]
        exact h.symm
    · rintro d ⟨q, hq, rfl⟩
      rcases List.prefix_cons_iff.1 hq with rfl | ⟨r, rfl, hr⟩
      · exact min_le_left _ _
      · rw [balance_cons]
        exact le_trans (min_le_right _ _) (add_le_add_right (hleast ⟨r, hr, rfl⟩) _)

end GateUse

/-! ## Uses that are ignored -/

namespace GuardedGate

variable {g : GuardedGate} {u : GateUse} {us : List GateUse}

/-- The releases and drops that a gate ignores in the course of some uses. -/
def ignored (g : GuardedGate) : List GateUse → Nat
  | [] => 0
  | u :: us => (if g.gate.Ignores u then 1 else 0) + (g.used u).ignored us

/-- Whether there is a guard for every drop. -/
def Covers (g : GuardedGate) (us : List GateUse) : Prop :=
  ∀ p, p <+: us → p.count .drop ≤ g.guards + p.count .hold

theorem covers_of_notMem (g : GuardedGate) (h : .drop ∉ us) : g.Covers us := by
  intro p hp
  rw [List.count_eq_zero.2 fun hdrop => h (hp.subset hdrop)]
  exact Nat.zero_le _

theorem Covers.guards_pos (h : g.Covers (.drop :: us)) : 0 < g.guards :=
  h [.drop] (List.cons_prefix_cons.2 ⟨rfl, List.nil_prefix⟩)

theorem Covers.tail (h : g.Covers (u :: us)) : (g.used u).Covers us := by
  intro p hp
  have hdrops := h (u :: p) (List.cons_prefix_cons.2 ⟨rfl, hp⟩)
  cases u with
  | acquire =>
    rw [List.count_cons_of_ne (by decide), List.count_cons_of_ne (by decide)] at hdrops
    exact hdrops
  | release =>
    rw [List.count_cons_of_ne (by decide), List.count_cons_of_ne (by decide)] at hdrops
    exact hdrops
  | hold =>
    rw [List.count_cons_of_ne (by decide), List.count_cons_self] at hdrops
    simp only [used]
    omega
  | drop =>
    rw [List.count_cons_self, List.count_cons_of_ne (by decide)] at hdrops
    simp only [used]
    omega

theorem Covers.of_append {vs : List GateUse} (h : g.Covers (us ++ vs)) : g.Covers us := fun p hp =>
  h p (hp.trans (List.prefix_append us vs))

/-- There is a guard for every drop also without a use that takes a hold away. -/
theorem Covers.without {vs : List GateUse} (h : g.Covers (us ++ u :: vs)) (htakes : u.adds = false) :
    g.Covers (us ++ vs) := by
  intro p hp
  rcases List.prefix_or_prefix_of_prefix hp (List.prefix_append us vs) with hleft | ⟨r, rfl⟩
  · exact h.of_append p hleft
  · have hright : r <+: vs := (List.prefix_append_right_inj us).1 hp
    have hdrops := h (us ++ u :: r)
      ((List.prefix_append_right_inj us).2 (List.cons_prefix_cons.2 ⟨rfl, hright⟩))
    have hhold : u ≠ .hold := fun hu => by rw [hu] at htakes; cases htakes
    rw [List.count_append, List.count_append, List.count_cons_of_ne hhold] at hdrops
    have hcons : r.count .drop ≤ (u :: r).count .drop := List.count_le_count_cons
    rw [List.count_append, List.count_append]
    omega

/-! ## What a use does -/

/-- The count moves with the balance, but not below zero. -/
theorem count_used (hroom : (g.gate.count.toNat : ℤ) + u.change < 2 ^ 32) :
    ((g.used u).gate.count.toNat : ℤ) = max 0 (g.gate.count.toNat + u.change) := by
  rw [gate_used_eq]
  cases hadds : u.adds with
  | true =>
    rw [GateUse.change_of_adds hadds] at hroom ⊢
    rw [if_pos rfl, Gate.toNat_acquired, size_word32]
    omega
  | false =>
    rw [if_neg Bool.false_ne_true, Gate.toNat_released, GateUse.change_of_takes hadds]
    omega

/-- A use is ignored exactly when the count would have to go below zero. -/
theorem ignores_iff : g.gate.Ignores u ↔ (g.gate.count.toNat : ℤ) + u.change < 0 := by
  unfold Gate.Ignores
  rw [Gate.isHeld_eq_false_iff]
  cases hadds : u.adds with
  | true =>
    rw [GateUse.change_of_adds hadds]
    constructor
    · rintro ⟨h, -⟩
      cases h
    · intro h
      exfalso
      omega
  | false =>
    rw [GateUse.change_of_takes hadds, and_iff_right rfl]
    omega

theorem gate_used_of_ignores (h : g.gate.Ignores u) : (g.used u).gate = g.gate := by
  have hcount : (g.used u).gate.count = g.gate.count := by
    rw [gate_used_eq, h.1, if_neg Bool.false_ne_true, ← UInt32.toNat_inj, Gate.toNat_released,
      Gate.isHeld_eq_false_iff.1 h.2]
  exact congrArg Gate.mk hcount

/-! ## What a list of uses does -/

theorem ignored_cons (g : GuardedGate) (u : GateUse) (us : List GateUse) :
    g.ignored (u :: us) = (if g.gate.Ignores u then 1 else 0) + (g.used u).ignored us := rfl

/-- A list of uses comes to its end, with a message for each use that is ignored. -/
theorem uses_eq (h : g.Covers us) (t : Transcript) :
    g.uses us t =
      .ok (us.foldl used g) (List.replicate (g.ignored us) .idleGateReleased ++ t) := by
  induction us generalizing g t with
  | nil => rfl
  | cons u us ih =>
    have huse := g.use_eq t (u := u) fun hu => (hu ▸ h).guards_pos
    refine (Act.bind_of_ok huse).trans ((ih h.tail _).trans ?_)
    rw [ignored_cons, List.foldl_cons]
    by_cases hignored : g.gate.Ignores u
    · rw [if_pos hignored, if_pos hignored, Nat.add_comm, List.replicate_succ', List.append_assoc]
      rfl
    · rw [if_neg hignored, if_neg hignored, Nat.zero_add]

theorem gate_foldl_used {g' : GuardedGate} (h : g.gate = g'.gate) :
    (us.foldl used g).gate = (us.foldl used g').gate := by
  induction us generalizing g g' with
  | nil => exact h
  | cons u us ih => exact ih (by rw [gate_used_eq, gate_used_eq, h])

/-- The count lies above the balance by what the balance has been below zero on the way, and so many
uses were ignored. -/
theorem count_foldl_used (hfew : g.gate.count.toNat + us.countP GateUse.adds < 2 ^ 32) :
    ((us.foldl used g).gate.count.toNat : ℤ) = g.gate.count.toNat + GateUse.balance us -
        min 0 (g.gate.count.toNat + GateUse.lowest us) ∧
      (g.ignored us : ℤ) = -min 0 (g.gate.count.toNat + GateUse.lowest us) := by
  induction us generalizing g with
  | nil =>
    show (g.gate.count.toNat : ℤ) = g.gate.count.toNat + 0 - min 0 (g.gate.count.toNat + 0) ∧
      (0 : ℤ) = -min 0 (g.gate.count.toNat + 0)
    omega
  | cons u us ih =>
    have hadds := GateUse.change_add_le u us
    have hcount := g.count_used (u := u) (by omega)
    obtain ⟨hend, hignored⟩ := ih (g := g.used u) (by omega)
    have hnonpos := GateUse.lowest_nonpos us
    rw [List.foldl_cons, hend, GateUse.balance_cons, ignored_cons, GateUse.lowest_cons, Int.natCast_add,
      hignored, hcount]
    by_cases hignores : g.gate.Ignores u
    · rw [if_pos hignores]
      have hchange := GateUse.change_of_takes hignores.1
      have hempty := Gate.isHeld_eq_false_iff.1 hignores.2
      omega
    · rw [if_neg hignores]
      rw [ignores_iff] at hignores
      omega

/-- Whatever comes after a use that was ignored goes on as if it had not been made. -/
theorem gate_foldl_without {vs : List GateUse} (h : (us.foldl used g).gate.Ignores u) :
    ((us ++ u :: vs).foldl used g).gate = ((us ++ vs).foldl used g).gate := by
  rw [List.foldl_append, List.foldl_append, List.foldl_cons]
  exact gate_foldl_used (gate_used_of_ignores h)

/-- On a new gate, any uses with fewer than 2 ^ 32 acquires among them come to their end, with a message for
each release that is ignored; a guard that is dropped has to be there. In the end the gate counts the balance
of the uses, less the lowest balance on the way if that is below zero, and so many releases were ignored. None
of these takes anything from a later acquire: without it, the gate comes to the same count. -/
theorem misuse_counted {us : List GateUse} (hguards : .drop ∈ us → ({} : GuardedGate).Covers us)
    (hfew : us.countP GateUse.adds < 2 ^ 32) (t : Transcript) :
    ∃ g, ({} : GuardedGate).uses us t =
        .ok g (List.replicate (({} : GuardedGate).ignored us) .idleGateReleased ++ t) ∧
      IsLeast {d | ∃ p, p <+: us ∧ GateUse.balance p = d} (GateUse.lowest us) ∧
      (g.gate.count.toNat : ℤ) = GateUse.balance us - min 0 (GateUse.lowest us) ∧
      (({} : GuardedGate).ignored us : ℤ) = -min 0 (GateUse.lowest us) ∧
      ∀ p u q before t', us = p ++ u :: q → ({} : GuardedGate).uses p t = .ok before t' →
        before.gate.Ignores u →
          ∃ g' t'', ({} : GuardedGate).uses (p ++ q) t = .ok g' t'' ∧ g'.gate = g.gate := by
  have hcovers : ({} : GuardedGate).Covers us := by
    by_cases hdrop : .drop ∈ us
    · exact hguards hdrop
    · exact covers_of_notMem _ hdrop
  have hroom : ({} : GuardedGate).gate.count.toNat + us.countP GateUse.adds < 2 ^ 32 := by
    show 0 + us.countP GateUse.adds < 2 ^ 32
    omega
  obtain ⟨hcount, hignored⟩ := count_foldl_used hroom
  have hzero : ((({} : GuardedGate).gate.count.toNat : ℕ) : ℤ) = 0 := rfl
  rw [hzero, Int.zero_add, Int.zero_add] at hcount
  rw [hzero, Int.zero_add] at hignored
  refine ⟨_, uses_eq hcovers t, GateUse.isLeast_lowest us, hcount, hignored, ?_⟩
  rintro p u q before t' rfl hbefore hignores
  rw [uses_eq hcovers.of_append] at hbefore
  cases hbefore
  exact ⟨_, _, uses_eq (hcovers.without hignores.1) t, (gate_foldl_without hignores).symm⟩

/-- A release takes away the hold of a guard, so that the drop of the guard is ignored, and the acquire after
it counts in full. -/
theorem stolen_hold_counted :
    (GateUse.drop ∈ [GateUse.release, .hold, .release, .drop, .acquire] →
        ({} : GuardedGate).Covers [.release, .hold, .release, .drop, .acquire]) ∧
      [GateUse.release, .hold, .release, .drop, .acquire].countP GateUse.adds < 2 ^ 32 ∧
      ∃ g, ({} : GuardedGate).uses [.release, .hold, .release, .drop, .acquire] ([] : Transcript) =
          .ok g [.idleGateReleased, .idleGateReleased] ∧
        IsLeast {d | ∃ p, p <+: [GateUse.release, .hold, .release, .drop, .acquire] ∧
          GateUse.balance p = d} (-2) ∧
        (g.gate.count.toNat : ℤ) = -1 - min 0 (-2) := by
  have hguards : ({} : GuardedGate).Covers [.release, .hold, .release, .drop, .acquire] := by
    intro p hp
    revert p
    simp only [← List.mem_inits]
    decide
  obtain ⟨g, huses, hleast, hcount, -⟩ := misuse_counted (fun _ => hguards) (by decide) []
  exact ⟨fun _ => hguards, by decide, g, huses, hleast, hcount⟩

end GuardedGate

end Tickless
