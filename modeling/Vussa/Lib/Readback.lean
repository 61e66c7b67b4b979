import Vussa.Lib.Run

/-!
Requests that write to a store, read a part of it back and publish what they have read, in three
steps between which others may come. A step may fail, before or after it takes effect, and ends the
request then.

* `Source`, `Task`, `State`, `Act`, `step`: the requests under way and what they have published;
* `Idle`: none is under way;
* `shown`, `Agrees`: what a listener shows, and that it is the present part of the store once the
  state is idle;
* `Timely`: where the last request under way ends, the last publication heard was read back after
  the last write that changed the part;
* `agrees_along`: **along timely steps the listener agrees with the store in every idle state**.
-/

namespace Readback

open Run

variable {D O V : Type*}

/-- The writes, and the part of the store that is read back. -/
structure Source (D O V : Type*) where
  apply : D → O → D
  read : D → V

/-- What a request has read back, and how often the part had changed by then. -/
structure Reading (O V : Type*) where
  request : O
  value : V
  changes : ℕ
  deriving DecidableEq

/-- A request, by its next step. -/
inductive Task (O V : Type*) where
  | write (o : O)
  | read (o : O)
  | publish (r : Reading O V)
  deriving DecidableEq

/-- The store, the requests by their number and the publications in their order; and the number of
writes that have changed the part, which no step uses. -/
structure State (D O V : Type*) where
  db : D
  tasks : List (Option (Task O V)) := []
  published : List (Reading O V) := []
  changes : ℕ := 0

/-- A step is carried out and the request goes on; or it is carried out and its answer is lost; or
it is refused. -/
inductive Outcome where
  | done
  | lost
  | refused
  deriving DecidableEq

/-- The step takes effect. -/
def Outcome.Lands (out : Outcome) : Prop := out ≠ .refused

instance (out : Outcome) : Decidable out.Lands := inferInstanceAs (Decidable (¬ _))

/-- A request arrives or takes its next step. -/
inductive Act (O : Type*) where
  | begin (o : O)
  | run (k : ℕ) (out : Outcome)

namespace State

variable (s : State D O V)

/-- A request under way. -/
def task (k : ℕ) : Option (Task O V) := s.tasks[k]?.join

/-- Replace or end a request. -/
def put (k : ℕ) (t : Option (Task O V)) : State D O V := { s with tasks := s.tasks.set k t }

/-- No request is under way but `k`. -/
def Alone (k : ℕ) : Prop := ∀ j < s.tasks.length, j ≠ k → s.task j = none

/-- No request is under way. -/
def Idle : Prop := ∀ j < s.tasks.length, s.task j = none

instance [DecidableEq O] [DecidableEq V] (k : ℕ) : Decidable (s.Alone k) :=
  inferInstanceAs (Decidable (∀ j < s.tasks.length, _))

instance [DecidableEq O] [DecidableEq V] : Decidable s.Idle :=
  inferInstanceAs (Decidable (∀ j < s.tasks.length, _))

variable {s}

lemma lt_of_task {k : ℕ} {t : Task O V} (h : s.task k = some t) : k < s.tasks.length := by
  rw [task, Option.join_eq_some_iff] at h
  exact (List.getElem?_eq_some_iff.mp h).1

lemma task_put_self {k : ℕ} (hk : k < s.tasks.length) (t : Option (Task O V)) :
    (s.put k t).task k = t := by
  rw [task, put, List.getElem?_set_self hk, Option.join_some]

lemma task_put_of_ne {k j : ℕ} (hne : j ≠ k) (t : Option (Task O V)) :
    (s.put k t).task j = s.task j := by
  rw [task, put, List.getElem?_set_ne hne.symm, task]

lemma task_of_append {j : ℕ} {t t' : Task O V}
    (h : ({ s with tasks := s.tasks ++ [some t'] } : State D O V).task j = some t) :
    t = t' ∨ s.task j = some t := by
  rw [task, List.getElem?_append] at h
  split at h
  · exact Or.inr h
  · cases hj : j - s.tasks.length with
    | zero =>
        rw [hj] at h
        exact Or.inl (Option.some.inj h).symm
    | succ n =>
        rw [hj] at h
        exact absurd h (by simp)

/-- A request that goes on is under way. -/
lemma not_idle_put {k : ℕ} (hk : k < s.tasks.length) (t : Task O V) :
    ¬ (s.put k (some t)).Idle := by
  intro hidle
  have hnone := hidle k (by rwa [put, List.length_set])
  rw [task_put_self hk] at hnone
  cases hnone

/-- With the end of a request there is none under way iff it was the only one. -/
lemma idle_put_none {k : ℕ} : (s.put k none).Idle ↔ s.Alone k := by
  have hlength : (s.put k none).tasks.length = s.tasks.length := List.length_set
  rw [Idle, hlength]
  refine ⟨fun h j hj hne => ?_, fun h j hj => ?_⟩
  · rw [← task_put_of_ne hne none]
    exact h j hj
  · by_cases heq : j = k
    · rw [heq]
      exact task_put_self (heq ▸ hj) none
    · rw [task_put_of_ne heq]
      exact h j hj heq

end State

section Step

variable (S : Source D O V) [DecidableEq V]

/-- What the next step of a request does. -/
def Task.effect (s : State D O V) : Task O V → State D O V
  | .write o => { s with
      db := S.apply s.db o
      changes := if S.read (S.apply s.db o) = S.read s.db then s.changes else s.changes + 1 }
  | .read _ => s
  | .publish r => { s with published := s.published ++ [r] }

omit [DecidableEq V] in
/-- What is left of a request after its next step. -/
def Task.next (s : State D O V) : Task O V → Option (Task O V)
  | .write o => some (.read o)
  | .read o => some (.publish ⟨o, S.read s.db, s.changes⟩)
  | .publish _ => none

/-- The state that the next step of a request leaves. -/
def Task.land (t : Task O V) (s : State D O V) (out : Outcome) : State D O V :=
  if out.Lands then t.effect S s else s

omit [DecidableEq V] in
/-- What is left of a request after its next step has gone so. -/
def Task.rest (t : Task O V) (s : State D O V) (out : Outcome) : Option (Task O V) :=
  if out = .done then t.next S s else none

/-- One step. -/
def step (s : State D O V) : Act O → State D O V
  | .begin o => { s with tasks := s.tasks ++ [some (.write o)] }
  | .run k out =>
      match s.task k with
      | none => s
      | some t => (t.land S s out).put k (t.rest S s out)

end Step

/-! ### Listeners -/

section Listener

variable (heard : O → Prop) [DecidablePred heard]

/-- What a listener has been told of last: the changes that were counted by then, and the part of
the store. At the start it is the part it has found itself. -/
def State.last (start : V) (s : State D O V) : ℕ × V :=
  ((s.published.filter fun r => heard r.request).getLast?.map fun r => (r.changes, r.value)).getD
    (0, start)

/-- What a listener shows. -/
def State.shown (start : V) (s : State D O V) : V := (s.last heard start).2

variable (S : Source D O V)

/-- In an idle state the listener shows the present part of the store. -/
def Agrees (start : V) (s : State D O V) : Prop := s.Idle → s.shown heard start = S.read s.db

/-- The listener has been told of every change. -/
def State.Told (start : V) (s : State D O V) : Prop := (s.last heard start).1 = s.changes

/-- A request that ends so leaves no change untold. -/
def Task.Timely (start : V) (s : State D O V) (out : Outcome) : Task O V → Prop
  | .write o => s.Told heard start ∧ (out.Lands → S.read (S.apply s.db o) = S.read s.db)
  | .read _ => s.Told heard start
  | .publish r => if out.Lands ∧ heard r.request then r.changes = s.changes else s.Told heard start

/-- The step leaves no change untold if it ends the last request under way. -/
def Timely (start : V) (s : State D O V) : Act O → Prop
  | .begin _ => True
  | .run k out =>
      ∀ t ∈ s.task k, s.Alone k → t.rest S s out = none → t.Timely heard S start s out

instance (start : V) (s : State D O V) : Decidable (s.Told heard start) :=
  inferInstanceAs (Decidable (_ = _))

instance [DecidableEq V] (start : V) (s : State D O V) (out : Outcome) :
    ∀ t : Task O V, Decidable (t.Timely heard S start s out)
  | .write _ => inferInstanceAs (Decidable (_ ∧ (_ → _)))
  | .read _ => inferInstanceAs (Decidable (s.Told heard start))
  | .publish _ => inferInstanceAs (Decidable (ite _ _ _))

instance [DecidableEq O] [DecidableEq V] (start : V) (s : State D O V) :
    ∀ a, Decidable (Timely heard S start s a)
  | .begin _ => isTrue trivial
  | .run k _ => inferInstanceAs (Decidable (∀ t ∈ s.task k, _))

/-! ### Readings -/

/-- A part read back after so many changes: it is the present one if there was none since. -/
def Sound (s : State D O V) (reading : ℕ × V) : Prop :=
  reading.1 ≤ s.changes ∧ (reading.1 = s.changes → reading.2 = S.read s.db)

/-- Whatever is to be published was read back soundly, and so was what the listener shows. -/
structure Fresh (start : V) (s : State D O V) : Prop where
  publish : ∀ k r, s.task k = some (.publish r) → Sound S s (r.changes, r.value)
  last : Sound S s (s.last heard start)

variable {heard S} {start : V} {s : State D O V}

lemma fresh_start (d : D) : Fresh heard S (S.read d) { db := d } where
  publish _ _ htask := nomatch htask
  last := ⟨le_rfl, fun _ => rfl⟩

/-- A publication is heard or not. -/
lemma last_publish (r : Reading O V) :
    ({ s with published := s.published ++ [r] } : State D O V).last heard start =
      if heard r.request then (r.changes, r.value) else s.last heard start := by
  rw [State.last, List.filter_append]
  split_ifs with hr
  · have hone : [r].filter (fun r => heard r.request) = [r] :=
      List.filter_cons_of_pos (decide_eq_true hr)
    rw [hone, List.getLast?_append_of_ne_nil _ (by simp)]
    rfl
  · have hnone : [r].filter (fun r => heard r.request) = [] :=
      List.filter_cons_of_neg (by simpa using hr)
    rw [hnone, List.append_nil]
    rfl

variable [DecidableEq V]

/-- What was read back soundly stays so. -/
lemma Sound.effect {reading : ℕ × V} (h : Sound S s reading) (t : Task O V) :
    Sound S (t.effect S s) reading := by
  cases t with
  | write o =>
      rw [Sound, Task.effect]
      by_cases hsame : S.read (S.apply s.db o) = S.read s.db
      · rw [if_pos hsame, hsame]
        exact h
      · rw [if_neg hsame]
        exact ⟨Nat.le_succ_of_le h.1, fun heq => absurd (heq ▸ h.1) (Nat.not_succ_le_self _)⟩
  | read o => exact h
  | publish r => exact h

lemma Sound.land {reading : ℕ × V} (h : Sound S s reading) (t : Task O V) (out : Outcome) :
    Sound S (t.land S s out) reading := by
  rw [Task.land]
  split_ifs
  · exact h.effect t
  · exact h

/-- What a listener is told was read back soundly. -/
lemma Fresh.last_land (h : Fresh heard S start s) {k : ℕ} {t : Task O V} (hk : s.task k = some t)
    (out : Outcome) : Sound S (t.land S s out) ((t.land S s out).last heard start) := by
  have hold := h.last.land t out
  rw [Task.land] at hold ⊢
  split_ifs at hold ⊢
  · cases t with
    | write o => exact hold
    | read o => exact hold
    | publish r =>
        rw [Task.effect, last_publish]
        split_ifs
        · exact (h.publish k r hk).effect (.publish r)
        · exact hold
  · exact hold

lemma task_land (t : Task O V) (out : Outcome) (j : ℕ) : (t.land S s out).task j = s.task j := by
  rw [Task.land]
  split_ifs
  · cases t <;> rfl
  · rfl

lemma Fresh.step (h : Fresh heard S start s) (a : Act O) : Fresh heard S start (step S s a) := by
  cases a with
  | begin o =>
      refine ⟨fun j r hj => ?_, h.last⟩
      rcases State.task_of_append hj with heq | hold
      · cases heq
      · exact h.publish j r hold
  | run k out =>
      rw [Readback.step]
      cases hk : s.task k with
      | none => exact h
      | some t =>
          refine ⟨fun j r hj => ?_, h.last_land hk out⟩
          have hlt : k < (t.land S s out).tasks.length :=
            State.lt_of_task ((task_land t out k).trans hk)
          by_cases hne : j = k
          · -- the request has just read back
            subst hne
            rw [State.task_put_self hlt, Task.rest] at hj
            split_ifs at hj with hdone
            subst hdone
            cases t with
            | write o => cases hj
            | read o =>
                cases hj
                exact ⟨le_rfl, fun _ => rfl⟩
            | publish r' => cases hj
          · rw [State.task_put_of_ne hne, task_land] at hj
            exact (h.publish j r hj).land t out

/-! ### Agreement -/

/-- A timely end leaves no change untold. -/
lemma Task.Timely.told {t : Task O V} {out : Outcome} (h : t.Timely heard S start s out) :
    (t.land S s out).Told heard start := by
  rw [Task.land]
  cases t with
  | write o =>
      obtain ⟨htold, hsame⟩ := h
      split_ifs with hlands
      · rw [State.Told, Task.effect, if_pos (hsame hlands)]
        exact htold
      · exact htold
  | read o =>
      split_ifs
      · exact h
      · exact h
  | publish r =>
      rw [Task.Timely] at h
      split_ifs with hlands
      · rw [State.Told, Task.effect, last_publish]
        split_ifs with hheard
        · rwa [if_pos ⟨hlands, hheard⟩] at h
        · rwa [if_neg fun hboth => hheard hboth.2] at h
      · rwa [if_neg fun hboth => hlands hboth.1] at h

/-- **One timely step**: once no request is under way, no change is untold. -/
lemma Timely.told {a : Act O} (h : Timely heard S start s a) (hs : s.Idle → s.Told heard start)
    (hidle : (step S s a).Idle) : (step S s a).Told heard start := by
  cases a with
  | begin o =>
      have hnew := hidle s.tasks.length (by simp [step])
      simp [step, State.task] at hnew
  | run k out =>
      rw [step] at hidle ⊢
      cases hk : s.task k with
      | none =>
          rw [hk] at hidle
          exact hs hidle
      | some t =>
          rw [hk] at hidle
          replace hidle : ((t.land S s out).put k (t.rest S s out)).Idle := hidle
          have hlt : k < (t.land S s out).tasks.length :=
            State.lt_of_task ((task_land t out k).trans hk)
          cases hrest : t.rest S s out with
          | some t' =>
              rw [hrest] at hidle
              exact absurd hidle (State.not_idle_put hlt t')
          | none =>
              rw [hrest] at hidle
              refine (h t hk (fun j hj hne => ?_) hrest).told
              have halone := State.idle_put_none.mp hidle j
              rw [task_land] at halone
              refine halone ?_ hne
              rw [Task.land]
              split_ifs
              · cases t <;> exact hj
              · exact hj

/-- **Along timely steps** the listener agrees with the store in every idle state. -/
theorem agrees_along (d : D) (as : List (Act O))
    (h : Along (step S) (Timely heard S (S.read d)) { db := d } as) :
    Along (step S) (fun s a => Agrees heard S (S.read d) (step S s a)) { db := d } as :=
  h.of_invariant
    (I := fun s => Fresh heard S (S.read d) s ∧ (s.Idle → s.Told heard (S.read d)))
    (fun _ a hs ha => ⟨hs.1.step a, ha.told hs.2⟩)
    (fun _ a hs ha => fun hidle => (hs.1.step a).last.2 (ha.told hs.2 hidle))
    ⟨fresh_start d, fun _ => rfl⟩

end Listener

end Readback
