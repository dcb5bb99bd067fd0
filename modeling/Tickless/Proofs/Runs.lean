import Tickless.Proofs.Sessions

/-!
# Runs

A run is a sequence of calls on a manager, each made after a change around the manager. It goes on
until a call halts. Every call is kept with the manager that it found and with what came of it, so
that a statement about a run can speak of each of its calls, of the halt at its end, or of what the
calls add up to.
-/

namespace Tickless

open PowerManager

/-! ## Calls and changes -/

/-- What changes around a manager between two calls. -/
structure Change where
  chip : Chip → Chip := id
  kernel : Kernel → Kernel := id
  application : Application → Application := id
  gate : Gate → Gate := id

/-- A call of a run. -/
structure Turn where
  call : Call
  /-- The manager that the call found. -/
  found : PowerManager Bench
  result : EStateM.Result Halt (PowerManager Bench) Reply

namespace Turn

/-- The reply, if the call came to its end. -/
def reply? (t : Turn) : Option Reply :=
  match t.result with
  | .ok reply _ => some reply
  | .error _ _ => none

/-- The halt, if the call did not come to its end. -/
def halt? (t : Turn) : Option Halt :=
  match t.result with
  | .ok _ _ => none
  | .error h _ => some h

/-- The manager that the call left. -/
def left (t : Turn) : PowerManager Bench :=
  match t.result with
  | .ok _ m => m
  | .error _ m => m

/-- The same call with the same result, on managers that may differ. -/
structure Same (t t' : Turn) : Prop where
  call : t'.call = t.call
  reply : t'.reply? = t.reply?
  halt : t'.halt? = t.halt?

end Turn

/-- All calls of a run have come to their end. -/
def Returned (turns : List Turn) : Prop :=
  ∀ t ∈ turns, t.reply?.isSome

instance (turns : List Turn) : Decidable (Returned turns) :=
  inferInstanceAs (Decidable (∀ t ∈ turns, t.reply?.isSome))

/-- The manager that a run leaves. -/
def leftBy (turns : List Turn) (m : PowerManager Bench) : PowerManager Bench :=
  turns.foldl (fun _ t => t.left) m

namespace PowerManager

/-- A manager after a change around it. -/
def changed (change : Change) (m : PowerManager Bench) : PowerManager Bench :=
  { m with
    gate := change.gate m.gate
    platform := { m.platform with
      chip := change.chip m.platform.chip
      kernel := change.kernel m.platform.kernel
      application := change.application m.platform.application } }

/-- A call on a manager. -/
def turn (call : Call) (m : PowerManager Bench) : Turn :=
  { call, found := m, result := answer call m }

/-- Carry out calls, each after its change, until one halts. -/
def run : List (Change × Call) → PowerManager Bench → List Turn
  | [], _ => []
  | (change, call) :: rest, m =>
    turn call (m.changed change) ::
      match answer call (m.changed change) with
      | .ok _ m' => run rest m'
      | .error _ _ => []

variable {s : Settings} {entry : ResumeEntry} {b : Bench} {m m' : PowerManager Bench}

/-- A manager is created from valid settings, in the active state. -/
theorem create_eq_ok :
    create s entry b = .ok m ↔
      s.Valid ∧ m = { platform := Logger.record (.ready s) b, settings := s, entry } := by
  unfold create
  cases hvalidate : s.validate with
  | error e =>
    constructor
    · intro h
      cases h
    · rintro ⟨hs, -⟩
      rw [Settings.validate_eq_ok.2 ⟨hs, rfl⟩] at hvalidate
      cases hvalidate
  | ok s' =>
    obtain ⟨hs, rfl⟩ := Settings.validate_eq_ok.1 hvalidate
    constructor
    · intro h
      cases h
      exact ⟨hs, rfl⟩
    · rintro ⟨-, rfl⟩
      rfl

/-! ## Runs call by call -/

variable {change : Change} {call : Call} {reply : Reply} {rest : List (Change × Call)}

theorem run_cons_of_ok (h : answer call (m.changed change) = .ok reply m') :
    run ((change, call) :: rest) m = turn call (m.changed change) :: run rest m' := by
  rw [run, h]

theorem run_cons_of_error {halt : Halt} (h : answer call (m.changed change) = .error halt m') :
    run ((change, call) :: rest) m = [turn call (m.changed change)] := by
  rw [run, h]

theorem reply?_turn (h : answer call m = .ok reply m') : (turn call m).reply? = some reply := by
  unfold Turn.reply? turn
  rw [h]

theorem left_turn (h : answer call m = .ok reply m') : (turn call m).left = m' := by
  unfold Turn.left turn
  rw [h]

theorem halt?_turn_of_ok (h : answer call m = .ok reply m') : (turn call m).halt? = none := by
  unfold Turn.halt? turn
  rw [h]

theorem halt?_turn {halt : Halt} (h : answer call m = .error halt m') :
    (turn call m).halt? = some halt := by
  unfold Turn.halt? turn
  rw [h]

theorem reply?_turn_of_error {halt : Halt} (h : answer call m = .error halt m') :
    (turn call m).reply? = none := by
  unfold Turn.reply? turn
  rw [h]

theorem left_turn_of_error {halt : Halt} (h : answer call m = .error halt m') :
    (turn call m).left = m' := by
  unfold Turn.left turn
  rw [h]

theorem answer_of_reply? (h : (turn call m).reply? = some reply) : ∃ m', answer call m = .ok reply m' := by
  cases hcall : answer call m with
  | ok r m' =>
    rw [reply?_turn hcall] at h
    cases h
    exact ⟨m', rfl⟩
  | error halt m' =>
    rw [reply?_turn_of_error hcall] at h
    cases h

theorem same_turn_of_ok {n n' : PowerManager Bench} (h : answer call m = .ok reply n)
    (h' : answer call m' = .ok reply n') : (turn call m).Same (turn call m') := by
  refine ⟨rfl, ?_, ?_⟩
  · rw [reply?_turn h, reply?_turn h']
  · rw [halt?_turn_of_ok h, halt?_turn_of_ok h']

theorem same_turn_of_error {halt : Halt} {n n' : PowerManager Bench}
    (h : answer call m = .error halt n) (h' : answer call m' = .error halt n') :
    (turn call m).Same (turn call m') := by
  refine ⟨rfl, ?_, ?_⟩
  · rw [reply?_turn_of_error h, reply?_turn_of_error h']
  · rw [halt?_turn h, halt?_turn h']

theorem leftBy_run_cons (h : answer call (m.changed change) = .ok reply m') :
    leftBy (run ((change, call) :: rest) m) m = leftBy (run rest m') m' := by
  rw [run_cons_of_ok h]
  show leftBy (run rest m') (turn call (m.changed change)).left = _
  rw [left_turn h]

/-- A run all of whose calls come to their end goes through the manager that its first call leaves. -/
theorem returned_run_cons (h : Returned (run ((change, call) :: rest) m)) :
    ∃ reply m', answer call (m.changed change) = .ok reply m' ∧ Returned (run rest m') ∧
      run ((change, call) :: rest) m = turn call (m.changed change) :: run rest m' := by
  cases hcall : answer call (m.changed change) with
  | ok reply m' =>
    have hrun : run ((change, call) :: rest) m = _ := run_cons_of_ok hcall
    rw [hrun] at h
    exact ⟨reply, m', rfl, fun t ht => h t (List.mem_cons_of_mem _ ht), hrun⟩
  | error halt m' =>
    rw [run_cons_of_error hcall] at h
    have hreply := h _ List.mem_cons_self
    rw [reply?_turn_of_error hcall] at hreply
    cases hreply

/-! ## What a call does not change -/

theorem CallStep.settings_eq (h : CallStep m call reply m') : m'.settings = m.settings := by
  cases h with
  | idle hidle => cases hidle <;> rfl
  | resume hresume => cases hresume <;> rfl
  | elapse => rfl

/-- The manager is active exactly if there is no deep sleep to resume from. -/
def Settled (m : PowerManager Bench) : Prop :=
  m.state = .active ↔ m.pending = none

theorem CallStep.settled (h : CallStep m call reply m') (hm : m.Settled) : m'.Settled := by
  cases h with
  | idle hidle =>
    cases hidle with
    | refused hstate => exact hm
    | aborted hstate habort => exact hm
    | light hstate habort hdepth hsleep => exact ⟨fun _ => hm.1 hstate, fun _ => rfl⟩
    | vetoed hstate habort hdepth hentry => exact hm
    | retained hstate habort hdepth hentry hdown =>
      exact ⟨fun h => (nomatch (h : PowerState.deepSleep = .active)), fun h => nomatch h⟩
  | resume hresume =>
    cases hresume with
    | nothing hpending => exact hm
    | slept hpending hmeasure hstart => exact ⟨fun _ => rfl, fun _ => rfl⟩
  | elapse hc => exact hm

/-- Every call of a run finds a manager with the same settings, active or with a deep sleep to resume
from. -/
theorem found_of_mem_run {calls : List (Change × Call)} {t : Turn} (hs : m.settings.Valid)
    (hm : m.Settled) (ht : t ∈ run calls m) :
    ∃ call n, t = turn call n ∧ n.settings = m.settings ∧ n.Settled := by
  induction calls generalizing m with
  | nil => cases ht
  | cons c rest ih =>
    obtain ⟨change, call⟩ := c
    cases hcall : answer call (m.changed change) with
    | error halt m' =>
      rw [run_cons_of_error hcall, List.mem_singleton] at ht
      exact ⟨call, m.changed change, ht, rfl, hm⟩
    | ok reply m' =>
      rw [run_cons_of_ok hcall, List.mem_cons] at ht
      rcases ht with rfl | ht
      · exact ⟨call, m.changed change, rfl, rfl, hm⟩
      · have hstep := callStep_of_answer (m := m.changed change) hs hcall
        have hset : m'.settings = m.settings := hstep.settings_eq
        rw [← hset] at hs ⊢
        exact ih hs (hstep.settled hm) ht

end PowerManager

end Tickless
