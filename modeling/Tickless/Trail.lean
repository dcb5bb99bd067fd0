/-!
# Bounded records

Two ways to keep a record within bounds. A `Trail` keeps the first entries and drops what comes
after it is full; it serves the logs of the simulation. A `Recent` list keeps the last entries and
drops the oldest; it serves the sleep history.
-/

namespace Tickless

/-! ## The first entries -/

/-- At most `capacity` entries, oldest first; what comes later is dropped. -/
structure Trail (α : Type) (capacity : Nat) where
  /-- The entries, oldest first. -/
  entries : List α := []
  /-- There are no more of them than the capacity. -/
  length_le : entries.length ≤ capacity := by exact Nat.zero_le _

namespace Trail

variable {α : Type} {capacity : Nat}

instance : Inhabited (Trail α capacity) := ⟨{}⟩

/-- Append an entry if there is room. -/
def push (a : α) (t : Trail α capacity) : Trail α capacity :=
  if h : t.entries.length < capacity then
    ⟨t.entries ++ [a], by rw [List.length_append]; exact h⟩
  else t

/-- The number of entries. -/
def length (t : Trail α capacity) : Nat :=
  t.entries.length

/-- The entries from a position on. -/
def since (t : Trail α capacity) (position : Nat) : List α :=
  t.entries.drop position

/-- The position of the first occurrence of an entry. -/
def position? [DecidableEq α] (a : α) (t : Trail α capacity) : Option Nat :=
  t.entries.findIdx? (· = a)

/-- The number of entries with a property. -/
def count (p : α → Bool) (t : Trail α capacity) : Nat :=
  t.entries.countP p

/-- A push keeps the first entries, as many as there is room for. -/
theorem entries_push (a : α) (t : Trail α capacity) :
    (t.push a).entries = (t.entries ++ [a]).take capacity := by
  have := t.length_le
  unfold push
  split
  · next h => rw [List.take_of_length_le (by rw [List.length_append]; exact h)]
  · next h => rw [List.take_append_of_le_length (by omega), List.take_of_length_le this]

theorem entries_push_of_lt {t : Trail α capacity} (h : t.entries.length < capacity) (a : α) :
    (t.push a).entries = t.entries ++ [a] := by
  unfold push
  rw [dif_pos h]

theorem push_of_full {t : Trail α capacity} (h : ¬ t.entries.length < capacity) (a : α) :
    t.push a = t :=
  dif_neg h

/-- What had no room the first time has none later. -/
theorem take_take_append (n : Nat) (l l' : List α) : (l.take n ++ l').take n = (l ++ l').take n := by
  have hroom : n - min n l.length = n - l.length := by omega
  rw [List.take_append, List.take_append, List.take_take, Nat.min_self, List.length_take, hroom]

/-- Entries pushed one by one: the first of them are kept, as many as there is room for. -/
theorem entries_foldl_push (l : List α) (t : Trail α capacity) :
    (l.foldl (fun t a => t.push a) t).entries = (t.entries ++ l).take capacity := by
  induction l generalizing t with
  | nil => rw [List.foldl_nil, List.append_nil, List.take_of_length_le t.length_le]
  | cons a l ih =>
    rw [List.foldl_cons, ih, entries_push, take_take_append, List.append_assoc, List.singleton_append]

/-- A trail with room left has kept all of what was pushed. -/
theorem since_foldl_push {l : List α} {t : Trail α capacity}
    (h : (l.foldl (fun t a => t.push a) t).length < capacity) :
    (l.foldl (fun t a => t.push a) t).since t.length = l := by
  unfold length at h
  rw [entries_foldl_push, List.length_take] at h
  unfold since length
  rw [entries_foldl_push, List.take_of_length_le (by omega), List.drop_left]

/-- A push of an entry without a property leaves the entries with it as they were. -/
theorem filter_push {p : α → Bool} {a : α} (h : p a = false) (t : Trail α capacity) :
    (t.push a).entries.filter p = t.entries.filter p := by
  unfold push
  split
  · rw [List.filter_append, List.filter_cons_of_neg (by simp [h]), List.filter_nil, List.append_nil]
  · rfl

end Trail

/-! ## The last entries -/

/-- At most `capacity` entries, oldest first; the oldest make room. -/
structure Recent (α : Type) (capacity : Nat) where
  /-- The entries, oldest first. -/
  entries : List α := []
  /-- There are no more of them than the capacity. -/
  length_le : entries.length ≤ capacity := by exact Nat.zero_le _

namespace Recent

variable {α : Type} {capacity : Nat}

instance : Inhabited (Recent α capacity) := ⟨{}⟩

/-- Append an entry and drop what is too old. -/
def push (a : α) (r : Recent α capacity) : Recent α capacity where
  entries := (r.entries ++ [a]).drop ((r.entries ++ [a]).length - capacity)
  length_le := by rw [List.length_drop]; omega

/-- The number of entries. -/
def length (r : Recent α capacity) : Nat :=
  r.entries.length

/-- The newest entry. -/
def newest? (r : Recent α capacity) : Option α :=
  r.entries.getLast?

/-- A push keeps the last entries, as many as there is room for. -/
theorem entries_recent_push (a : α) (r : Recent α capacity) :
    (r.push a).entries = (r.entries ++ [a]).drop (r.entries.length + 1 - capacity) := by
  simp [push]

theorem mem_of_mem_push {a b : α} {r : Recent α capacity} (h : b ∈ (r.push a).entries) :
    b ∈ r.entries ∨ b = a := by
  rw [entries_recent_push] at h
  rcases List.mem_append.1 (List.mem_of_mem_drop h) with hold | hnew
  · exact .inl hold
  · exact .inr (List.mem_singleton.1 hnew)

end Recent

end Tickless
