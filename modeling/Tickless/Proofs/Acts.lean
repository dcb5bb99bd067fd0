import Tickless.Message

/-!
# Running acts

An act is run by taking its first step and then the rest. The lemmas below are that step, for each
way in which an act is put together. They are equations where the first step always has an answer,
and equivalences where it may halt: `eq_ok` says what a run that comes to its end went through.
-/

namespace Tickless.Act

variable {σ τ α β : Type} {s t : σ} {a : α} {b : β}

/-! ## Steps that always have an answer -/

theorem get_bind (f : σ → Act σ β) (s : σ) : (get >>= f) s = f s s := rfl

theorem set_bind (u : σ) (f : PUnit → Act σ β) (s : σ) : (set u >>= f) s = f ⟨⟩ u := rfl

theorem modify_bind (g : σ → σ) (f : PUnit → Act σ β) (s : σ) :
    (modify g >>= f) s = f ⟨⟩ (g s) := rfl

theorem modifyGet_bind (g : σ → α × σ) (f : α → Act σ β) (s : σ) :
    (modifyGet g >>= f) s = f (g s).1 (g s).2 := rfl

theorem logIf_bind [Logger σ] (reason : Prop) [Decidable reason] (m : Message) (f : Unit → Act σ β)
    (s : σ) : (logIf reason m >>= f) s = f () (if reason then Logger.record m s else s) := by
  unfold logIf
  split <;> rfl

theorem lift_ok_bind (a : α) (f : α → Act σ β) (s : σ) :
    ((liftM (Except.ok a : Except ArithError α) : Act σ α) >>= f) s = f a s := rfl

/-- An act after one that is known to come to its end. -/
theorem bind_of_ok {x : Act σ α} {f : α → Act σ β} {u : σ} (h : x s = .ok a u) :
    (x >>= f) s = f a u := by
  show EStateM.bind x f s = _
  unfold EStateM.bind
  rw [h]

/-- Nothing follows an act that halts. -/
theorem bind_of_error {x : Act σ α} {f : α → Act σ β} {h : Halt} {u : σ} (hx : x s = .error h u) :
    (x >>= f) s = .error h u := by
  show EStateM.bind x f s = _
  unfold EStateM.bind
  rw [hx]

/-! ## Runs that come to their end -/

theorem pure_eq_ok {a' : α} : (pure a' : Act σ α) s = .ok a t ↔ a = a' ∧ t = s := by
  show EStateM.Result.ok a' s = _ ↔ _
  rw [EStateM.Result.ok.injEq]
  exact ⟨fun h => ⟨h.1.symm, h.2.symm⟩, fun h => ⟨h.1.symm, h.2.symm⟩⟩

theorem set_eq_ok {u : σ} {e : PUnit} : (set u : Act σ PUnit) s = .ok e t ↔ t = u := by
  show EStateM.Result.ok PUnit.unit u = _ ↔ _
  rw [EStateM.Result.ok.injEq]
  exact ⟨fun h => h.2.symm, fun h => ⟨rfl, h.symm⟩⟩

theorem throw_eq_ok {h : Halt} : (throw h : Act σ α) s = .ok a t ↔ False := by
  constructor
  · intro h
    cases h
  · exact False.elim

/-- A sequence comes to its end if its first act does and the rest does from there. -/
theorem bind_eq_ok {x : Act σ α} {f : α → Act σ β} :
    (x >>= f) s = .ok b t ↔ ∃ a u, x s = .ok a u ∧ f a u = .ok b t := by
  constructor
  · intro h
    cases hx : x s with
    | ok a u => exact ⟨a, u, rfl, (bind_of_ok hx).symm.trans h⟩
    | error e u =>
      have h : EStateM.bind x f s = .ok b t := h
      unfold EStateM.bind at h
      rw [hx] at h
      cases h
  · rintro ⟨a, u, hx, hf⟩
    rw [bind_of_ok hx, hf]

/-- A sequence halts in its first act, or in the rest after the first has come to its end. -/
theorem bind_eq_error {x : Act σ α} {f : α → Act σ β} {h : Halt} :
    (x >>= f) s = .error h t ↔ x s = .error h t ∨ ∃ a u, x s = .ok a u ∧ f a u = .error h t := by
  cases hx : x s with
  | ok a u =>
    rw [bind_of_ok hx]
    constructor
    · intro hf
      exact .inr ⟨a, u, rfl, hf⟩
    · rintro (hf | ⟨_, _, ⟨rfl, rfl⟩, hf⟩)
      · cases hf
      · exact hf
  | error e u =>
    rw [bind_of_error hx]
    constructor
    · intro hf
      cases hf
      exact .inl rfl
    · rintro (hf | ⟨_, _, hf, -⟩)
      · cases hf
        rfl
      · cases hf

/-- Word arithmetic halts the act where it has no result, and otherwise leaves the state alone. -/
theorem lift_eq_ok {x : Except ArithError α} :
    (liftM x : Act σ α) s = .ok a t ↔ x = .ok a ∧ t = s := by
  cases x with
  | ok a' =>
    show (pure a' : Act σ α) s = _ ↔ _
    rw [pure_eq_ok, Except.ok.injEq]
    exact ⟨fun h => ⟨h.1.symm, h.2⟩, fun h => ⟨h.1.symm, h.2⟩⟩
  | error e =>
    show (throw (.arithmetic e) : Act σ α) s = _ ↔ _
    rw [throw_eq_ok]
    exact ⟨False.elim, fun h => by cases h.1⟩

theorem lift_bind_eq_ok {x : Except ArithError α} {f : α → Act σ β} :
    ((liftM x : Act σ α) >>= f) s = .ok b t ↔ ∃ a, x = .ok a ∧ f a s = .ok b t := by
  rw [bind_eq_ok]
  constructor
  · rintro ⟨a, u, hx, hf⟩
    obtain ⟨hv, rfl⟩ := lift_eq_ok.1 hx
    exact ⟨a, hv, hf⟩
  · rintro ⟨a, hx, hf⟩
    exact ⟨a, s, lift_eq_ok.2 ⟨hx, rfl⟩, hf⟩

theorem lift_bind_eq_error {x : Except ArithError α} {f : α → Act σ β} {h : Halt} :
    ((liftM x : Act σ α) >>= f) s = .error h t ↔
      (∃ e, x = .error e ∧ h = .arithmetic e ∧ t = s) ∨ ∃ a, x = .ok a ∧ f a s = .error h t := by
  cases x with
  | ok a =>
    rw [lift_ok_bind]
    simp
  | error e =>
    have hlift : ((liftM (.error e : Except ArithError α) : Act σ α) >>= f) s =
        .error (.arithmetic e) s := rfl
    rw [hlift, EStateM.Result.error.injEq]
    constructor
    · rintro ⟨rfl, rfl⟩
      exact .inl ⟨e, rfl, rfl, rfl⟩
    · rintro (⟨_, he, rfl, rfl⟩ | ⟨_, he, -⟩)
      · cases he
        exact ⟨rfl, rfl⟩
      · cases he

/-- An act on a part of the state leaves the rest of it alone. -/
theorem within_eq_ok {part : σ → τ} {put : τ → σ → σ} {act : Act τ α} :
    act.within part put s = .ok a t ↔ ∃ u, act (part s) = .ok a u ∧ t = put u s := by
  unfold within
  cases act (part s) with
  | ok a' u =>
    simp only [EStateM.Result.ok.injEq]
    constructor
    · rintro ⟨rfl, rfl⟩
      exact ⟨u, ⟨rfl, rfl⟩, rfl⟩
    · rintro ⟨_, ⟨rfl, rfl⟩, rfl⟩
      exact ⟨rfl, rfl⟩
  | error e u => simp

/-! ## Checked runs -/

/-- Whether a run comes to its end with an answer and a state that pass a check. -/
def passes (act : Act σ α) (check : α → σ → Bool) (s : σ) : Bool :=
  match act s with
  | .ok a t => check a t
  | .error _ _ => false

theorem passes_iff {act : Act σ α} {check : α → σ → Bool} :
    act.passes check s = true ↔ ∃ a t, act s = .ok a t ∧ check a t = true := by
  unfold passes
  cases act s with
  | ok a t =>
    constructor
    · intro h
      exact ⟨a, t, rfl, h⟩
    · rintro ⟨_, _, ⟨rfl, rfl⟩, h⟩
      exact h
  | error e t => simp

/-- Whether a run halts for a reason that passes a check. -/
def halts (act : Act σ α) (check : Halt → Bool) (s : σ) : Bool :=
  match act s with
  | .ok _ _ => false
  | .error h _ => check h

theorem halts_iff {act : Act σ α} {check : Halt → Bool} :
    act.halts check s = true ↔ ∃ h t, act s = .error h t ∧ check h = true := by
  unfold halts
  cases act s with
  | ok a t => simp
  | error h t =>
    constructor
    · intro hcheck
      exact ⟨h, t, rfl, hcheck⟩
    · rintro ⟨_, _, ⟨rfl, rfl⟩, hcheck⟩
      exact hcheck

end Tickless.Act
