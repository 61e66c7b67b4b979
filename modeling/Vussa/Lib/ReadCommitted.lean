import Vussa.Lib.Run

/-!
Transactions of concurrent requests under read committed, one statement at a time.

A request is where its program stands. A statement reads what others have committed and what its own
transaction has written; it waits while another request holds a lock it needs, and the locks it
takes are held until the transaction ends. What a transaction has written becomes visible to others
at its commit; a request that fails or is lost is rolled back.

* `System`: the programs, with the writes and the locks of a transaction at each point;
* `State`, `Act`, `System.step`: the committed database and the requests under way;
* `System.Exclusive`: no lock is held twice;
* `System.Good`: an invariant of the database and one of every request;
* `System.Keeps`, `Keeps.step`: **what has to be shown of single statements and commits for these to
  hold along every run**.
-/

namespace ReadCommitted

variable {D O P W K : Type*}

/-- What a request does next. -/
inductive Next (P K : Type*) where
  /-- a statement that waits for the locks `needs` and leads to `p` -/
  | goto (needs : List K) (p : P)
  /-- the transaction commits, and the request is done -/
  | commit
  /-- the request fails, and its transaction is rolled back -/
  | fail

/-- The programs of requests `O` over a database `D`. -/
structure System (D O P W K : Type*) where
  start : O → P
  /-- what the program does next, in the view it has -/
  next : P → D → Next P K
  /-- what the transaction has written so far -/
  writes : P → List W
  /-- the locks the transaction holds -/
  locks : P → List K
  apply : D → W → D

/-- The committed database, and where each request stands. -/
structure State (D P : Type*) where
  db : D
  requests : List (Option P) := []

/-- A request begins, runs its next statement, or is lost. -/
inductive Act (O : Type*) where
  | begin (o : O)
  | run (k : ℕ)
  | abort (k : ℕ)

namespace State

variable (s : State D P)

/-- Where a request stands, unless it is done. -/
def request (k : ℕ) : Option P := s.requests[k]?.join

/-- Replace or end a request. -/
def put (k : ℕ) (x : Option P) : State D P := { s with requests := s.requests.set k x }

variable {s}

lemma request_put {k : ℕ} {x : Option P} {j : ℕ} {q : P} (h : (s.put k x).request j = some q) :
    (j = k ∧ x = some q) ∨ (j ≠ k ∧ s.request j = some q) := by
  rw [request, put, List.getElem?_set] at h
  split at h
  · rename_i heq
    split at h
    · exact Or.inl ⟨heq.symm, h⟩
    · exact absurd h (by simp)
  · rename_i hne
    exact Or.inr ⟨fun heq => hne heq.symm, h⟩

lemma request_append {p q : P} {j : ℕ}
    (h : ({ s with requests := s.requests ++ [some p] } : State D P).request j = some q) :
    (j = s.requests.length ∧ p = q) ∨ s.request j = some q := by
  rw [request, List.getElem?_append] at h
  split at h
  · exact Or.inr h
  · rename_i hlength
    cases hj : j - s.requests.length with
    | zero =>
        rw [hj] at h
        exact Or.inl ⟨by omega, Option.some.inj h⟩
    | succ n =>
        rw [hj] at h
        exact absurd h (by simp)

/-- A request under way has a number below the number of requests. -/
lemma lt_of_request {k : ℕ} {p : P} (h : s.request k = some p) : k < s.requests.length := by
  by_contra hk
  rw [request, List.getElem?_eq_none (by omega)] at h
  exact absurd h (by simp)

end State

namespace System

variable (S : System D O P W K)

/-- What a request sees: the committed database and its own writes. -/
def view (d : D) (p : P) : D := (S.writes p).foldl S.apply d

/-- Another request holds one of the locks. -/
def Blocked (s : State D P) (k : ℕ) (κs : List K) : Prop :=
  ∃ j < s.requests.length, j ≠ k ∧ ∃ q ∈ s.request j, ∃ κ ∈ S.locks q, κ ∈ κs

instance [DecidableEq K] (s : State D P) (k : ℕ) (κs : List K) : Decidable (S.Blocked s k κs) :=
  inferInstanceAs (Decidable (∃ j < s.requests.length, _))

/-- One act. A statement whose locks are held by another request waits. -/
def step [DecidableEq K] (s : State D P) : Act O → State D P
  | .begin o => { s with requests := s.requests ++ [some (S.start o)] }
  | .abort k => s.put k none
  | .run k =>
      match s.request k with
      | none => s
      | some p =>
          match S.next p (S.view s.db p) with
          | .fail => s.put k none
          | .commit => { s.put k none with db := S.view s.db p }
          | .goto needs p' => if S.Blocked s k (needs ++ S.locks p') then s else s.put k (some p')

/-- A request is about to commit. -/
def Commits (s : State D P) (k : ℕ) (p : P) : Prop :=
  s.request k = some p ∧ S.next p (S.view s.db p) = .commit

/-- No lock is held by two requests. -/
def Exclusive (s : State D P) : Prop :=
  ∀ j k p q, j ≠ k → s.request j = some p → s.request k = some q → ∀ κ ∈ S.locks p, κ ∉ S.locks q

/-- An invariant of the database, and one of each request relative to the database. -/
structure Good (I : D → Prop) (T : D → P → Prop) (s : State D P) : Prop where
  db : I s.db
  request : ∀ k p, s.request k = some p → T s.db p
  exclusive : S.Exclusive s

/-- What keeps the invariants along the steps that meet `C`: a request begins well and without
locks, a statement leads on well, a commit keeps the invariant of the database, and the other
requests do not notice it. -/
structure Keeps (I : D → Prop) (T : D → P → Prop) (C : State D P → Act O → Prop) : Prop where
  locks : ∀ o, S.locks (S.start o) = []
  start : ∀ s o, I s.db → C s (.begin o) → T s.db (S.start o)
  goto : ∀ d p needs p', I d → T d p → S.next p (S.view d p) = .goto needs p' → T d p'
  commit : ∀ s k p, S.Good I T s → S.Commits s k p → C s (.run k) → I (S.view s.db p)
  frame : ∀ s k p, S.Good I T s → S.Commits s k p → C s (.run k) →
    ∀ j q, j ≠ k → s.request j = some q → T (S.view s.db p) q

variable {S} {I : D → Prop} {T : D → P → Prop} {C : State D P → Act O → Prop} {s : State D P}

/-- A database without requests. -/
lemma good_of_requests_eq_nil (hI : I s.db) (hs : s.requests = []) : S.Good I T s := by
  have hnone : ∀ k p, s.request k ≠ some p := by
    intro k p h
    rw [State.request, hs] at h
    exact absurd h (by simp)
  exact ⟨hI, fun k p h => absurd h (hnone k p), fun j k p q _ h => absurd h (hnone j p)⟩

/-- The end of a request. -/
lemma Good.put_none (h : S.Good I T s) (k : ℕ) : S.Good I T (s.put k none) := by
  have hold : ∀ j q, (s.put k none).request j = some q → s.request j = some q := by
    intro j q hj
    rcases State.request_put hj with ⟨-, hnone⟩ | ⟨-, hq⟩
    · exact absurd hnone (by simp)
    · exact hq
  exact ⟨h.db, fun j q hj => h.request j q (hold j q hj),
    fun i j p q hne hp hq => h.exclusive i j p q hne (hold i p hp) (hold j q hq)⟩

/-- A statement that no other request holds up. -/
lemma Good.put_some (h : S.Good I T s) {k : ℕ} {p : P} {needs : List K}
    (hp : T s.db p) (hfree : ¬ S.Blocked s k (needs ++ S.locks p)) :
    S.Good I T (s.put k (some p)) := by
  have hother : ∀ j q, j ≠ k → s.request j = some q → ∀ κ ∈ S.locks q, κ ∉ S.locks p := by
    intro j q hne hq κ hκ hp
    exact hfree ⟨j, State.lt_of_request hq, hne, q, hq, κ, hκ, List.mem_append_right _ hp⟩
  refine ⟨h.db, fun j q hj => ?_, fun i j p' q hne hi hj κ hκ hκ' => ?_⟩
  · rcases State.request_put hj with ⟨-, heq⟩ | ⟨-, hq⟩
    · exact Option.some.inj heq ▸ hp
    · exact h.request j q hq
  · rcases State.request_put hi with ⟨rfl, hnew⟩ | ⟨hik, hold⟩
    · rcases State.request_put hj with ⟨rfl, -⟩ | ⟨hjk, hold⟩
      · exact hne rfl
      · exact hother j q hjk hold κ hκ' (Option.some.inj hnew ▸ hκ)
    · rcases State.request_put hj with ⟨rfl, hnew⟩ | ⟨-, hold'⟩
      · exact hother i p' hik hold κ hκ (Option.some.inj hnew ▸ hκ')
      · exact h.exclusive i j p' q hne hold hold' κ hκ hκ'

/-- One act keeps the invariants. -/
theorem Keeps.step [DecidableEq K] (hkeeps : S.Keeps I T C) (h : S.Good I T s) {a : Act O}
    (ha : C s a) : S.Good I T (S.step s a) := by
  cases a with
  | begin o =>
      have hnew : ∀ {j q}, (S.step s (.begin o)).request j = some q →
          S.start o = q ∨ s.request j = some q := fun hj =>
        (State.request_append hj).imp_left fun hq => hq.2
      refine ⟨h.db, fun j q hj => ?_, fun i j p q hne hi hj κ hκ hκ' => ?_⟩
      · rcases hnew hj with rfl | hq
        · exact hkeeps.start s o h.db ha
        · exact h.request j q hq
      · rcases hnew hi with rfl | hi
        · rw [hkeeps.locks o] at hκ
          exact absurd hκ List.not_mem_nil
        · rcases hnew hj with rfl | hj
          · rw [hkeeps.locks o] at hκ'
            exact absurd hκ' List.not_mem_nil
          · exact h.exclusive i j p q hne hi hj κ hκ hκ'
  | abort k => exact h.put_none k
  | run k =>
      rw [System.step]
      cases hk : s.request k with
      | none => exact h
      | some p =>
          dsimp only
          cases hnext : S.next p (S.view s.db p) with
          | fail => exact h.put_none k
          | commit =>
              -- the committed writes meet the other requests
              have hend := h.put_none k
              refine ⟨hkeeps.commit s k p h ⟨hk, hnext⟩ ha, fun j q hj => ?_, hend.exclusive⟩
              rcases State.request_put hj with ⟨-, hnone⟩ | ⟨hne, hq⟩
              · exact absurd hnone (by simp)
              · exact hkeeps.frame s k p h ⟨hk, hnext⟩ ha j q hne hq
          | goto needs p' =>
              dsimp only
              split
              · exact h
              · rename_i hfree
                exact h.put_some (hkeeps.goto s.db p needs p' h.db (h.request k p hk) hnext) hfree

/-- The database changes at commits alone. -/
lemma step_db [DecidableEq K] (s : State D P) (a : Act O) :
    (S.step s a).db = s.db ∨ ∃ k p, a = .run k ∧ S.Commits s k p ∧
      (S.step s a).db = S.view s.db p := by
  cases a with
  | begin o => exact Or.inl rfl
  | abort k => exact Or.inl rfl
  | run k =>
      rw [System.step]
      cases hk : s.request k with
      | none => exact Or.inl rfl
      | some p =>
          dsimp only
          cases hnext : S.next p (S.view s.db p) with
          | fail => exact Or.inl rfl
          | commit => exact Or.inr ⟨k, p, rfl, ⟨hk, hnext⟩, rfl⟩
          | goto needs p' =>
              dsimp only
              split
              · exact Or.inl rfl
              · exact Or.inl rfl

/-- Where a request stands after an act: where it stood, at its beginning, or behind a statement. Its
own statements leave the database. -/
lemma request_step [DecidableEq K] {s : State D P} {a : Act O} {k : ℕ} {q : P}
    (h : (S.step s a).request k = some q) :
    (s.request k = some q ∧ (a = .run k → (S.step s a).db = s.db)) ∨ (∃ o, q = S.start o) ∨
      (a = .run k ∧ (S.step s a).db = s.db ∧ ∃ p needs, s.request k = some p ∧
        S.next p (S.view s.db p) = .goto needs q) := by
  cases a with
  | begin o =>
      rcases State.request_append h with ⟨-, rfl⟩ | h
      · exact .inr (.inl ⟨o, rfl⟩)
      · exact .inl ⟨h, fun _ => rfl⟩
  | abort j =>
      rcases State.request_put h with ⟨-, hnone⟩ | ⟨-, h⟩
      · exact absurd hnone (by simp)
      · exact .inl ⟨h, fun _ => rfl⟩
  | run j =>
      rw [System.step] at h ⊢
      cases hj : s.request j with
      | none =>
          rw [hj] at h
          exact .inl ⟨h, fun _ => rfl⟩
      | some p =>
          rw [hj] at h
          dsimp only at h ⊢
          cases hnext : S.next p (S.view s.db p) with
          | fail =>
              rw [hnext] at h
              rcases State.request_put h with ⟨-, hnone⟩ | ⟨-, h⟩
              · exact absurd hnone (by simp)
              · exact .inl ⟨h, fun _ => rfl⟩
          | commit =>
              rw [hnext] at h
              rcases State.request_put (x := none) h with ⟨-, hnone⟩ | ⟨hne, h⟩
              · exact absurd hnone (by simp)
              · exact .inl ⟨h, fun hrun => absurd (Act.run.inj hrun).symm hne⟩
          | goto needs p' =>
              rw [hnext] at h
              dsimp only at h ⊢
              split at h
              · rename_i hblocked
                exact .inl ⟨h, fun _ => by rw [if_pos hblocked]⟩
              · rename_i hfree
                rw [if_neg hfree]
                rcases State.request_put h with ⟨rfl, hq⟩ | ⟨hne, h⟩
                · obtain rfl := Option.some.inj hq
                  exact .inr (.inr ⟨rfl, rfl, p, needs, hj, hnext⟩)
                · exact .inl ⟨h, fun _ => rfl⟩

/-- A statement of the only request, which waits for nobody. -/
lemma step_only [DecidableEq K] {d : D} {p p' : P} {needs : List K}
    (h : S.next p (S.view d p) = .goto needs p') :
    S.step { db := d, requests := [some p] } (.run 0) = { db := d, requests := [some p'] } := by
  have hrequest : ({ db := d, requests := [some p] } : State D P).request 0 = some p := rfl
  have hfree : ¬ S.Blocked { db := d, requests := [some p] } 0 (needs ++ S.locks p') := by
    rintro ⟨j, hj, hne, -⟩
    exact hne (Nat.lt_one_iff.mp hj)
  rw [System.step]
  simp only [hrequest, h, if_neg hfree]
  rfl

/-- The database after a commit. -/
lemma step_commit [DecidableEq K] {k : ℕ} {p : P} (h : S.Commits s k p) :
    (S.step s (.run k)).db = S.view s.db p := by
  rw [System.step, h.1]
  dsimp only
  rw [h.2]

end System

end ReadCommitted
