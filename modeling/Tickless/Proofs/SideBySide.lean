import Tickless.Proofs.Acts

/-!
# Two acts side by side

An act that is run on two states which resemble each other ends on states that still do. The lemmas
below take two acts apart step by step, in the way in which both are put together: if the first steps
keep up a relation between the states, and the rest does so from there, the whole does.

A pair of acts is described by a relation between the states before, one between the answers, one
between the states after, and by the pairs of halts that are in order. In such a pair the second act
may be left open: then nothing is said about it from the halt of the first one on.
-/

namespace Tickless

/-- Pairs of halts, each with the state in which it came. -/
abbrev Halts (σ τ : Type) := Halt → σ → Option (Halt × τ) → Prop

/-- Two results that belong together. -/
inductive Ends {σ τ α β : Type} (halts : Halts σ τ) (same : α → β → Prop) (after : σ → τ → Prop) :
    EStateM.Result Halt σ α → EStateM.Result Halt τ β → Prop where
  | answered {a : α} {s : σ} {b : β} {t : τ} (hanswer : same a b) (hstate : after s t) :
    Ends halts same after (.ok a s) (.ok b t)
  | halted {h h' : Halt} {s : σ} {t : τ} (hhalt : halts h s (some (h', t))) :
    Ends halts same after (.error h s) (.error h' t)
  | excused {h : Halt} {s : σ} {r : EStateM.Result Halt τ β} (hhalt : halts h s none) :
    Ends halts same after (.error h s) r

/-- Two acts whose results belong together on all states that do. -/
def Together {σ τ α β : Type} (halts : Halts σ τ) (before : σ → τ → Prop) (x : Act σ α) (y : Act τ β)
    (same : α → β → Prop) (after : σ → τ → Prop) : Prop :=
  ∀ s t, before s t → Ends halts same after (x s) (y t)

/-- Word arithmetic had no result on either side. -/
def overflows {σ τ : Type} (near : σ → τ → Prop) : Halts σ τ := fun h s halt? =>
  ∃ e t, h = .arithmetic e ∧ halt? = some (.arithmetic e, t) ∧ near s t

theorem Ends.weaken {σ τ α β : Type} {halts halts' : Halts σ τ} {same same' : α → β → Prop}
    {after after' : σ → τ → Prop} {r : EStateM.Result Halt σ α} {r' : EStateM.Result Halt τ β}
    (h : Ends halts same after r r') (hhalts : ∀ h s o, halts h s o → halts' h s o)
    (hsame : ∀ a b, same a b → same' a b) (hafter : ∀ s t, after s t → after' s t) :
    Ends halts' same' after' r r' := by
  cases h with
  | answered hanswer hstate => exact .answered (hsame _ _ hanswer) (hafter _ _ hstate)
  | halted hhalt => exact .halted (hhalts _ _ _ hhalt)
  | excused hhalt => exact .excused (hhalts _ _ _ hhalt)

namespace Together

variable {σ τ α β γ δ : Type} {halts halts' : Halts σ τ} {before between after after' : σ → τ → Prop}
  {same same' : α → β → Prop} {x : Act σ α} {y : Act τ β}

theorem allow (h : Together halts before x y same after) (hhalts : ∀ h s o, halts h s o → halts' h s o) :
    Together halts' before x y same after :=
  fun s t hst => (h s t hst).weaken hhalts (fun _ _ h => h) fun _ _ h => h

theorem weaken (h : Together halts before x y same after) (hsame : ∀ a b, same a b → same' a b)
    (hafter : ∀ s t, after s t → after' s t) : Together halts before x y same' after' :=
  fun s t hst => (h s t hst).weaken (fun _ _ _ h => h) hsame hafter

/-- The second of two acts comes to its end where the first does. -/
theorem of_ok {s s' : σ} {t : τ} {a : α} (h : Together halts before x y same after) (hst : before s t)
    (hx : x s = .ok a s') : ∃ b t', y t = .ok b t' ∧ same a b ∧ after s' t' := by
  have hends := h s t hst
  rw [hx] at hends
  generalize y t = r at hends ⊢
  cases hends with
  | answered hanswer hstate => exact ⟨_, _, rfl, hanswer, hstate⟩

theorem pure {a : α} {b : β} (h : same a b) :
    Together halts before (Pure.pure a : Act σ α) (Pure.pure b : Act τ β) same before :=
  fun _ _ hst => .answered h hst

theorem bind {f : α → Act σ γ} {g : β → Act τ δ} {same' : γ → δ → Prop}
    (hx : Together halts before x y same between)
    (hf : ∀ a b, same a b → Together halts between (f a) (g b) same' after) :
    Together halts before (x >>= f) (y >>= g) same' after := by
  intro s t hst
  show Ends halts same' after (EStateM.bind x f s) (EStateM.bind y g t)
  unfold EStateM.bind
  have h := hx s t hst
  revert h
  generalize x s = r
  generalize y t = r'
  intro h
  cases h with
  | answered hanswer hstate => exact hf _ _ hanswer _ _ hstate
  | halted hhalt => exact .halted hhalt
  | excused hhalt => exact .excused hhalt

/-- The rest of two acts that go on from the same answer. -/
theorem next {y : Act τ α} {f : α → Act σ γ} {g : α → Act τ δ} {same' : γ → δ → Prop}
    (hx : Together halts before x y Eq between)
    (hf : ∀ a, Together halts between (f a) (g a) same' after) :
    Together halts before (x >>= f) (y >>= g) same' after :=
  hx.bind fun a b hab => by
    subst hab
    exact hf a

/-- Acts that read their states go on from what they read. -/
theorem read {f : σ → Act σ γ} {g : τ → Act τ δ} {same' : γ → δ → Prop}
    (h : ∀ s t, before s t → Together halts before (f s) (g t) same' after) :
    Together halts before (get >>= f) (get >>= g) same' after :=
  fun s t hst => h s t hst s t hst

theorem modify {f : σ → σ} {g : τ → τ} (h : ∀ s t, before s t → after (f s) (g t)) :
    Together halts before (modify f : Act σ PUnit) (modify g : Act τ PUnit) Eq after :=
  fun s t hst => .answered rfl (h s t hst)

/-- The same word arithmetic on both sides. -/
theorem lift {near : σ → τ → Prop} (hnear : ∀ s t, before s t → near s t) (v : Except ArithError α) :
    Together (overflows near) before (liftM v : Act σ α) (liftM v : Act τ α) Eq before := by
  intro s t hst
  cases v with
  | ok a => exact .answered rfl hst
  | error e => exact .halted ⟨e, t, rfl, rfl, hnear s t hst⟩

end Together

end Tickless
