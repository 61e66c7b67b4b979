import Mathlib.Tactic

/-!
Receivers of a bounded broadcast channel. The channel retains the last `ring` values; a receiver
whose next value has been released is told so once, and goes on with the oldest value retained.

* `Receiver`: the values sent since it subscribed, with the place of the next one to read;
* `Receiver.Lags`, `Receiver.recv`: when a receiver is behind, and what it is answered;
* `recv_of_lags`, `recv_of_lt`, `recv_cases`: the answers;
* `Receiver.seen`: the values before that place, which a receiver that never lagged has read.
-/

namespace Broadcast

/-- The values sent since the receiver subscribed, and the place of the next one it reads. -/
structure Receiver (α : Type*) where
  sent : List α
  next : ℕ
  le : next ≤ sent.length

/-- The answers of `recv`; `empty` stands for a wait or, once the sender is dropped, for the end. -/
inductive Received (α : Type*) where
  | value (a : α)
  | lagged
  | empty

namespace Receiver

variable {α : Type*}

/-- A new receiver. -/
def start : Receiver α := ⟨[], 0, le_rfl⟩

/-- A value is sent. -/
def push (r : Receiver α) (a : α) : Receiver α where
  sent := r.sent ++ [a]
  next := r.next
  le := by
    rw [List.length_append]
    exact r.le.trans (Nat.le_add_right _ _)

/-- The next value has been released. -/
def Lags (ring : ℕ) (r : Receiver α) : Prop := r.next + ring < r.sent.length

instance (ring : ℕ) (r : Receiver α) : Decidable (r.Lags ring) :=
  inferInstanceAs (Decidable (_ < _))

/-- `recv`, with the receiver after it. -/
def recv (ring : ℕ) (r : Receiver α) : Received α × Receiver α :=
  if r.Lags ring then
    (.lagged, { r with next := r.sent.length - ring, le := Nat.sub_le _ _ })
  else if h : r.next < r.sent.length then
    (.value (r.sent.get ⟨r.next, h⟩), { r with next := r.next + 1, le := h })
  else (.empty, r)

/-- What stands before the next place. -/
def seen (r : Receiver α) : List α := r.sent.take r.next

lemma seen_prefix (r : Receiver α) : r.seen <+: r.sent := List.take_prefix _ _

@[simp] lemma seen_push (r : Receiver α) (a : α) : (r.push a).seen = r.seen :=
  List.take_append_of_le_length r.le

/-- A receiver at the end has seen everything. -/
lemma seen_eq_sent {r : Receiver α} (h : r.next = r.sent.length) : r.seen = r.sent := by
  rw [seen, h, List.take_length]

/-- A receiver that is behind goes on with the oldest value retained. -/
lemma recv_of_lags {ring : ℕ} {r : Receiver α} (h : r.Lags ring) :
    r.recv ring = (.lagged, ⟨r.sent, r.sent.length - ring, Nat.sub_le _ _⟩) := if_pos h

/-- A receiver that is not behind reads the next value. -/
lemma recv_of_lt {ring : ℕ} {r : Receiver α} (h : ¬ r.Lags ring) (hnext : r.next < r.sent.length) :
    r.recv ring = (.value (r.sent.get ⟨r.next, hnext⟩), ⟨r.sent, r.next + 1, hnext⟩) := by
  rw [recv, if_neg h, dif_pos hnext]

/-- The three answers: behind, the next value, nothing yet. -/
lemma recv_cases (ring : ℕ) (r : Receiver α) :
    (r.Lags ring ∧ ∃ r', r.recv ring = (.lagged, r') ∧ r'.sent = r.sent) ∨
    (∃ a r', r.recv ring = (.value a, r') ∧ r'.sent = r.sent ∧ r'.seen = r.seen ++ [a]) ∨
    r.recv ring = (.empty, r) := by
  by_cases hlags : r.Lags ring
  · exact .inl ⟨hlags, _, recv_of_lags hlags, rfl⟩
  · by_cases hnext : r.next < r.sent.length
    · refine .inr (.inl ⟨_, _, recv_of_lt hlags hnext, rfl, ?_⟩)
      exact (List.take_concat_get' r.sent r.next hnext).symm
    · rw [recv, if_neg hlags, dif_neg hnext]
      exact .inr (.inr rfl)

end Receiver

end Broadcast
