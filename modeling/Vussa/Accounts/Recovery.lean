import Vussa.Lib.ReadCommitted
import Vussa.Accounts.Model

/-!
The recovery tokens of a user under concurrent calls of `request_recovery` and `reset_recovery`
(`api/account.rs`), at the granularity of SQL statements under read committed.

`DELETE ... WHERE user_id=$1 AND used_at IS NULL` finds its rows in the snapshot of its beginning
and then takes them one by one: it waits for the lock of a row, looks at the row again, and passes
over it if it no longer fits. Rows committed after the snapshot are not found. Rate limits, the
notifier, the audit rows and the outbox are left out; the instant a call reads is that of a common
clock.

* `Clocked`, `Write`, `Lock`: the tables with the clock, and what the statements write and lock;
* `Op`, `Stage`, `Stage.next`, `system`: the two calls as programs of `ReadCommitted`;
* `Single`: at most one token of the user is unused and unexpired;
* `Careful`, `single_step_iff`: a step keeps this iff a call that commits such a token has deleted
  all the others that are there;
* `Watched`, `watch`, `OnTime`: the tokens that others have committed since the `DELETE` of a call
  began, and the schedules in which none of them is left when the call commits its own;
* `Stage.Found`: what a call has found is what there was, but for those tokens;
* `single_along`: **in every state of a run on such a schedule there is at most one such token**;
* `not_single_race`: two overlapping calls leave two tokens, also where the second one waits for
  the first.
-/

namespace Vussa.Accounts.Recovery

open Run ReadCommitted

/-! ### Tables -/

/-- The tables with the clock. -/
structure Clocked extends Tables where
  now : Millis := 0
  deriving DecidableEq, Repr

/-- What a statement writes; the unique `token_hash` names a row. -/
inductive Write where
  | deleteToken (tokenHash : String)
  | insertToken (row : RecoveryToken)
  | setPassword (userId : Uuid) (passwordHash : String) (now : Millis)
  | useToken (tokenHash : String) (now : Millis)
  deriving DecidableEq, Repr

/-- The tables after a write. -/
def Write.apply (d : Clocked) : Write → Clocked
  | deleteToken tokenHash =>
      { d with recoveryTokens := d.recoveryTokens.filter fun r => r.tokenHash ≠ tokenHash }
  | insertToken row => { d with recoveryTokens := d.recoveryTokens ++ [row] }
  | setPassword userId passwordHash now =>
      { d with toTables := d.updateUser userId (Account.setPassword passwordHash now) }
  | useToken tokenHash now =>
      { d with recoveryTokens := d.recoveryTokens.map fun r =>
          if r.tokenHash = tokenHash then { r with usedAt := some now } else r }

/-- The rows and index entries that are locked. -/
inductive Lock where
  | token (tokenHash : String)
  | user (id : Uuid)
  deriving DecidableEq, Repr

/-! ### Programs -/

/-- The calls, with the token and the salt they draw. -/
inductive Op where
  | request (rawEmail token : String)
  | reset (rawToken password : String) (salt : Uuid)
  deriving DecidableEq, Repr

/-- Where a call stands. -/
inductive Stage where
  | call (op : Op)
  /-- `request_recovery` has found the user and reads the clock -/
  | clock (userId : Uuid) (tokenHash : String)
  /-- about to run its `DELETE` -/
  | delete (userId : Uuid) (tokenHash : String) (now : Millis)
  /-- the `DELETE` still has `todo` to visit and has deleted `done` -/
  | deleting (userId : Uuid) (tokenHash : String) (now : Millis) (todo done : List String)
  | inserted (userId : Uuid) (tokenHash : String) (now : Millis) (done : List String)
  /-- `reset_recovery` has hashed the password and reads the clock -/
  | resetClock (tokenHash passwordHash : String)
  | lookup (tokenHash passwordHash : String) (now : Millis)
  | setPassword (userId : Uuid) (tokenHash passwordHash : String) (now : Millis)
  | useToken (userId : Uuid) (tokenHash passwordHash : String) (now : Millis)
  | used (userId : Uuid) (tokenHash passwordHash : String) (now : Millis)
  deriving DecidableEq, Repr

/-- The row `request_recovery` inserts. -/
def tokenRow (userId : Uuid) (tokenHash : String) (now : Millis) : RecoveryToken :=
  { userId := userId, tokenHash := tokenHash, expiresAt := ((now : ℕ) : ℤ) + 30 * 60 * 1000,
    createdAt := now }

namespace Stage

/-- What the transaction has written. -/
def writes : Stage → List Write
  | deleting _ _ _ _ done => done.map .deleteToken
  | inserted userId tokenHash now done =>
      done.map .deleteToken ++ [.insertToken (tokenRow userId tokenHash now)]
  | useToken userId _ passwordHash now => [.setPassword userId passwordHash now]
  | used userId tokenHash passwordHash now =>
      [.setPassword userId passwordHash now, .useToken tokenHash now]
  | _ => []

/-- The locks the transaction holds. -/
def locks : Stage → List Lock
  | deleting _ _ _ _ done => done.map .token
  | inserted _ tokenHash _ done => .token tokenHash :: done.map .token
  | setPassword _ tokenHash _ _ => [.token tokenHash]
  | useToken userId tokenHash _ _ | used userId tokenHash _ _ => [.token tokenHash, .user userId]
  | _ => []

end Stage

/-- The Unicode tables and the cryptography. -/
structure Env where
  unicode : Unicode
  crypto : Crypto

/-- A row the `DELETE` is for. -/
def Unused (userId : Uuid) (r : RecoveryToken) : Prop := r.userId = userId ∧ r.usedAt = none

instance (userId : Uuid) (r : RecoveryToken) : Decidable (Unused userId r) :=
  inferInstanceAs (Decidable (_ ∧ _))

/-- The statement after the checks on the arguments: the query for the user, or the hash of the
new password. -/
def Op.next (E : Env) (v : Clocked) : Op → Next Stage Lock
  | request rawEmail token =>
      let email := E.unicode.toLowercase (trim rawEmail)
      if email = "" ∨ 320 < email.utf8ByteSize then .fail
      else
        match v.users.find? fun u =>
            E.unicode.toLowercase u.email = E.unicode.toLowercase email ∧ u.disabledAt = none ∧
              u.deletedAt = none with
        | none => .commit
        | some u => .goto [] (.clock u.id (E.crypto.digest token))
  | reset rawToken password salt =>
      let token := trim rawToken
      if token.utf8ByteSize ≠ 64 ∨ ¬ token.toList.all isAsciiHexdigit then .fail
      else
        match passwordHash E.crypto password salt with
        | .error _ => .fail
        | .ok hash => .goto [] (.resetClock (E.crypto.digest token) hash)

/-- The next statement of a call. -/
def Stage.next (E : Env) (p : Stage) (v : Clocked) : Next Stage Lock :=
  match p with
  | call op => op.next E v
  | clock userId tokenHash => .goto [] (delete userId tokenHash v.now)
  | delete userId tokenHash now =>
      let found := v.recoveryTokens.filter fun r => Unused userId r
      .goto [] (deleting userId tokenHash now (found.map RecoveryToken.tokenHash) [])
  | deleting userId tokenHash now (h :: todo) done =>
      if ∃ r ∈ v.recoveryTokens, r.tokenHash = h ∧ Unused userId r then
        .goto [] (deleting userId tokenHash now todo (done ++ [h]))
      else .goto [.token h] (deleting userId tokenHash now todo done)
  | deleting userId tokenHash now [] done =>
      if ∃ r ∈ v.recoveryTokens, r.tokenHash = tokenHash then .fail
      else .goto [] (inserted userId tokenHash now done)
  | inserted _ _ _ _ => .commit
  | resetClock tokenHash passwordHash => .goto [] (lookup tokenHash passwordHash v.now)
  | lookup tokenHash passwordHash now =>
      match v.recoveryTokens.find? fun r =>
          r.tokenHash = tokenHash ∧ r.usedAt = none ∧ ((now : ℕ) : ℤ) < r.expiresAt with
      | none => .fail
      | some r => .goto [] (setPassword r.userId tokenHash passwordHash now)
  | setPassword userId tokenHash passwordHash now =>
      .goto [] (useToken userId tokenHash passwordHash now)
  | useToken userId tokenHash passwordHash now => .goto [] (used userId tokenHash passwordHash now)
  | used _ _ _ _ => .commit

/-- The calls as programs. -/
def system (E : Env) : System Clocked Op Stage Write Lock where
  start := .call
  next := Stage.next E
  writes := Stage.writes
  locks := Stage.locks
  apply := Write.apply

/-- The committed tables and the calls under way. -/
abbrev State := ReadCommitted.State Clocked Stage

/-- The clock goes on, or a call does something. -/
inductive Act where
  | wait (now : Millis)
  | run (a : ReadCommitted.Act Op)

/-- One step. -/
def step (E : Env) (s : State) : Act → State
  | .wait now => { s with db := { s.db with now := max s.db.now now } }
  | .run a => (system E).step s a

/-! ### The property and the condition -/

/-- An unused, unexpired token of the user. -/
def Live (d : Clocked) (userId : Uuid) (r : RecoveryToken) : Prop :=
  Unused userId r ∧ ((d.now : ℕ) : ℤ) < r.expiresAt

instance (d : Clocked) (userId : Uuid) (r : RecoveryToken) : Decidable (Live d userId r) :=
  inferInstanceAs (Decidable (_ ∧ _))

/-- At most one token of the user is unused and unexpired. -/
def Single (userId : Uuid) (d : Clocked) : Prop :=
  d.recoveryTokens.countP (fun r => Live d userId r) ≤ 1

instance (userId : Uuid) (d : Clocked) : Decidable (Single userId d) :=
  inferInstanceAs (Decidable (_ ≤ _))

/-- A call that is about to commit an unexpired token for the user has deleted all live tokens of
the user that are there: none was committed after its `DELETE` began. -/
def Stage.Careful (userId : Uuid) (d : Clocked) : Stage → Prop
  | inserted owner tokenHash now done => Live d userId (tokenRow owner tokenHash now) →
      ∀ r ∈ d.recoveryTokens, Live d userId r → r.tokenHash ∈ done
  | _ => True

instance (userId : Uuid) (d : Clocked) : ∀ p : Stage, Decidable (p.Careful userId d)
  | .inserted _ _ _ _ => inferInstanceAs (Decidable (_ → _))
  | .call _ | .clock _ _ | .delete _ _ _ | .deleting _ _ _ _ _ | .resetClock _ _ | .lookup _ _ _
  | .setPassword _ _ _ _ | .useToken _ _ _ _ | .used _ _ _ _ => isTrue trivial

/-- A careful step. -/
def Careful (userId : Uuid) (s : State) : Act → Prop
  | .run (.run k) => ∀ p ∈ s.request k, p.Careful userId s.db
  | _ => True

instance (userId : Uuid) (s : State) : ∀ a, Decidable (Careful userId s a)
  | .run (.run k) => inferInstanceAs (Decidable (∀ p ∈ s.request k, _))
  | .wait _ | .run (.begin _) | .run (.abort _) => isTrue trivial

/-! ### Commits -/

section Commit

variable {userId : Uuid} {d : Clocked}

/-- Deletions one after another. -/
lemma foldl_deleteToken (d : Clocked) (done : List String) :
    (done.map Write.deleteToken).foldl Write.apply d
      = { d with recoveryTokens := d.recoveryTokens.filter fun r => r.tokenHash ∉ done } := by
  induction done generalizing d with
  | nil => simp
  | cons h done ih =>
      rw [List.map_cons, List.foldl_cons, ih, Write.apply]
      simp only [List.filter_filter, List.mem_cons, not_or, Bool.decide_and]
      congr 2
      exact List.filter_congr fun r _ => Bool.and_comm _ _

/-- A row counts unless it is among the deleted ones. -/
lemma countP_undeleted (done : List String) :
    ((d.recoveryTokens.filter fun r => r.tokenHash ∉ done).countP fun r => Live d userId r) = 0 ↔
      ∀ r ∈ d.recoveryTokens, Live d userId r → r.tokenHash ∈ done := by
  rw [List.countP_eq_zero]
  refine ⟨fun h r hr hlive => ?_, fun h r hr hlive => ?_⟩
  · by_contra hmem
    exact h r (List.mem_filter.mpr ⟨hr, decide_eq_true hmem⟩) (decide_eq_true hlive)
  · obtain ⟨hr, hmem⟩ := List.mem_filter.mp hr
    exact of_decide_eq_true hmem (h r hr (of_decide_eq_true hlive))

/-- The commit of `request_recovery`. -/
lemma single_inserted (h : Single userId d) (owner : Uuid) (tokenHash : String) (now : Millis)
    (done : List String) :
    Single userId ((Stage.inserted owner tokenHash now done).writes.foldl Write.apply d) ↔
      (Stage.inserted owner tokenHash now done).Careful userId d := by
  have hkept : ((d.recoveryTokens.filter fun r => r.tokenHash ∉ done).countP
      fun r => Live d userId r) ≤ 1 :=
    (List.filter_sublist.countP_le).trans h
  rw [Stage.writes, List.foldl_append, foldl_deleteToken, Stage.Careful, ← countP_undeleted]
  change (List.countP (fun r => decide (Live d userId r)) (_ ++ [_])) ≤ 1 ↔ _
  rw [List.countP_append, List.countP_singleton]
  by_cases hlive : Live d userId (tokenRow owner tokenHash now)
  · simp only [hlive, decide_true, if_true, forall_const]
    omega
  · simp only [hlive, decide_false, Bool.false_eq_true, if_false, false_imp_iff, iff_true]
    omega

/-- The commit of `reset_recovery` leaves fewer unused tokens. -/
lemma single_used (h : Single userId d) (owner : Uuid) (tokenHash passwordHash : String)
    (now : Millis) :
    Single userId ((Stage.used owner tokenHash passwordHash now).writes.foldl Write.apply d) := by
  refine le_trans ?_ h
  change List.countP (fun r => decide (Live d userId r)) (d.recoveryTokens.map _) ≤ _
  rw [List.countP_map]
  refine List.countP_mono_left fun r _ hlive => ?_
  by_cases hhash : r.tokenHash = tokenHash
  · simp [hhash, Live, Unused] at hlive
  · simpa [hhash] using hlive

end Commit

/-- The stages that commit. -/
lemma Stage.next_commit {E : Env} {p : Stage} {v : Clocked} (h : p.next E v = .commit) :
    p.writes = [] ∨ (∃ owner tokenHash now done, p = inserted owner tokenHash now done) ∨
      ∃ owner tokenHash passwordHash now, p = used owner tokenHash passwordHash now := by
  cases p with
  | inserted owner tokenHash now done => exact .inr (.inl ⟨owner, tokenHash, now, done, rfl⟩)
  | used owner tokenHash passwordHash now =>
      exact .inr (.inr ⟨owner, tokenHash, passwordHash, now, rfl⟩)
  | deleting owner tokenHash now todo done =>
      cases todo with
      | nil =>
          rw [next] at h
          split_ifs at h
      | cons r todo =>
          rw [next] at h
          split_ifs at h
  | call op | clock _ _ | delete _ _ _ | resetClock _ _ | lookup _ _ _ | setPassword _ _ _ _ =>
      exact .inl rfl
  | useToken _ _ _ _ => cases h

/-- A call that does not commit is careful. -/
lemma Stage.careful_of_next {E : Env} {p : Stage} {v : Clocked} (h : p.next E v ≠ .commit)
    (userId : Uuid) (d : Clocked) : p.Careful userId d := by
  cases p with
  | inserted _ _ _ _ => exact absurd rfl h
  | _ => trivial

/-- The next statement of a call keeps the property iff the call is careful. -/
lemma single_run_iff (E : Env) {userId : Uuid} {s : State} (h : Single userId s.db) {k : ℕ}
    {p : Stage} (hk : s.request k = some p) :
    Single userId ((system E).step s (.run k)).db ↔ p.Careful userId s.db := by
  by_cases hnext : p.next E ((system E).view s.db p) = .commit
  · rw [System.step_commit ⟨hk, hnext⟩]
    obtain hnil | ⟨owner, tokenHash, now, done, rfl⟩ | ⟨owner, tokenHash, hash, now, rfl⟩ :=
      Stage.next_commit hnext
    · have hview : (system E).view s.db p = s.db := by
        change p.writes.foldl Write.apply s.db = s.db
        rw [hnil, List.foldl_nil]
      rw [hview]
      refine iff_of_true h ?_
      cases p with
      | inserted _ _ _ done => exact absurd hnil (by simp [Stage.writes])
      | _ => trivial
    · exact single_inserted h owner tokenHash now done
    · exact iff_of_true (single_used h owner tokenHash hash now) trivial
  · refine iff_of_true ?_ (Stage.careful_of_next hnext userId s.db)
    obtain hsame | ⟨j, q, hj, ⟨hq, hcommit⟩, -⟩ := System.step_db (S := system E) s (.run k)
    · rw [hsame]
      exact h
    · obtain rfl : k = j := ReadCommitted.Act.run.inj hj
      obtain rfl : q = p := Option.some.inj (hq.symm.trans hk)
      exact absurd hcommit hnext

/-- One step keeps the property iff it is careful. -/
lemma single_step_iff (E : Env) {userId : Uuid} {s : State} (h : Single userId s.db) (a : Act) :
    Single userId (step E s a).db ↔ Careful userId s a := by
  cases a with
  | wait now =>
      refine iff_of_true (le_trans (List.countP_mono_left fun r _ hlive => ?_) h) trivial
      obtain ⟨hunused, hexpiry⟩ := of_decide_eq_true hlive
      have hnow : ((s.db.now : ℕ) : ℤ) ≤ ((max s.db.now now : Millis) : ℕ) :=
        Int.ofNat_le.mpr (le_max_left s.db.now now)
      exact decide_eq_true ⟨hunused, hnow.trans_lt hexpiry⟩
  | run a =>
      cases a with
      | begin op => exact iff_of_true h trivial
      | abort k => exact iff_of_true h trivial
      | run k =>
          cases hk : s.request k with
          | none =>
              have hstay : (system E).step s (.run k) = s := by
                rw [System.step, hk]
              rw [step, hstay]
              exact iff_of_true h fun p hp => absurd (hk.symm.trans hp) (by simp)
          | some p =>
              rw [step, single_run_iff E h hk]
              exact ⟨fun hp q hq => Option.some.inj (hk.symm.trans hq) ▸ hp, fun hall => hall p hk⟩

/-! ### Schedules -/

/-- A state, and for each call the tokens of the user that other calls have committed since its
`DELETE` began. -/
structure Watched where
  state : State
  later : ℕ → List String := fun _ => []

/-- The token of the user that a call commits with its next statement. -/
def issued (userId : Uuid) (s : State) (k : ℕ) : List String :=
  match s.request k with
  | some (.inserted owner tokenHash _ _) => if owner = userId then [tokenHash] else []
  | _ => []

/-- The call runs its `DELETE` next. -/
def deletes (s : State) (k : ℕ) : Bool :=
  match s.request k with
  | some (.delete _ _ _) => true
  | _ => false

/-- One step, with what it adds for the calls under way. -/
def watch (E : Env) (userId : Uuid) (w : Watched) (a : Act) : Watched where
  state := step E w.state a
  later k :=
    match a with
    | .run (.run j) =>
        if j = k then if deletes w.state k then [] else w.later k
        else issued userId w.state j ++ w.later k
    | _ => w.later k

/-- A call that is about to commit an unexpired token for the user: none of the tokens in `later` is
unused and unexpired. -/
def Stage.OnTime (userId : Uuid) (d : Clocked) (later : List String) : Stage → Prop
  | inserted owner tokenHash now _ => Live d userId (tokenRow owner tokenHash now) →
      ∀ r ∈ d.recoveryTokens, Live d userId r → r.tokenHash ∉ later
  | _ => True

instance (userId : Uuid) (d : Clocked) (later : List String) :
    ∀ p : Stage, Decidable (p.OnTime userId d later)
  | .inserted _ _ _ _ => inferInstanceAs (Decidable (_ → _))
  | .call _ | .clock _ _ | .delete _ _ _ | .deleting _ _ _ _ _ | .resetClock _ _ | .lookup _ _ _
  | .setPassword _ _ _ _ | .useToken _ _ _ _ | .used _ _ _ _ => isTrue trivial

/-- A call commits such a token only while none is left that another call has committed for the user
since its `DELETE` began. -/
def OnTime (userId : Uuid) (w : Watched) : Act → Prop
  | .run (.run k) => ∀ p ∈ w.state.request k, p.OnTime userId w.state.db (w.later k)
  | _ => True

instance (userId : Uuid) (w : Watched) : ∀ a, Decidable (OnTime userId w a)
  | .run (.run k) => inferInstanceAs (Decidable (∀ p ∈ w.state.request k, _))
  | .wait _ | .run (.begin _) | .run (.abort _) => isTrue trivial

/-- What a call has found, or others have committed since, is all there is. -/
def Stage.Found (userId : Uuid) (d : Clocked) (later : List String) : Stage → Prop
  | deleting owner _ _ todo done => owner = userId → ∀ r ∈ d.recoveryTokens, Live d userId r →
      r.tokenHash ∈ todo ++ done ++ later
  | inserted owner _ _ done => owner = userId → ∀ r ∈ d.recoveryTokens, Live d userId r →
      r.tokenHash ∈ done ++ later
  | _ => True

section Schedules

variable {E : Env} {userId : Uuid} {d d' : Clocked} {s : State} {k : ℕ}

/-- The tokens that are left are among the old ones or were committed since. -/
lemma Stage.Found.later {p : Stage} {later : List String} (h : p.Found userId d later)
    {extra : List String}
    (hlive : ∀ r ∈ d'.recoveryTokens, Live d' userId r →
      r.tokenHash ∈ extra ∨ ∃ r' ∈ d.recoveryTokens, Live d userId r' ∧
        r'.tokenHash = r.tokenHash) :
    p.Found userId d' (extra ++ later) := by
  cases p with
  | deleting owner tokenHash now todo done =>
      intro howner r hr hrow
      rcases hlive r hr hrow with hextra | ⟨r', hr', hrow', hhash⟩
      · exact List.mem_append_right _ (List.mem_append_left _ hextra)
      · have hfound := h howner r' hr' hrow'
        rw [hhash] at hfound
        simp only [List.mem_append] at hfound ⊢
        tauto
  | inserted owner tokenHash now done =>
      intro howner r hr hrow
      rcases hlive r hr hrow with hextra | ⟨r', hr', hrow', hhash⟩
      · exact List.mem_append_right _ (List.mem_append_left _ hextra)
      · have hfound := h howner r' hr' hrow'
        rw [hhash] at hfound
        simp only [List.mem_append] at hfound ⊢
        tauto
  | _ => trivial

/-- The `DELETE` finds the unused tokens that are there, and visits them one by one. -/
lemma Stage.Found.statement {p q : Stage} {needs : List Lock} {later : List String}
    (h : p.Found userId d later) (hnext : p.next E ((system E).view d p) = .goto needs q) :
    q.Found userId d later := by
  cases p with
  | call op =>
      cases op with
      | request rawEmail token =>
          rw [next, Op.next] at hnext
          split_ifs at hnext
          split at hnext
          · cases hnext
          · cases hnext
            trivial
      | reset rawToken password salt =>
          rw [next, Op.next] at hnext
          split_ifs at hnext
          split at hnext
          · cases hnext
          · cases hnext
            trivial
  | delete owner tokenHash now =>
      cases hnext
      rintro rfl r hr hrow
      refine List.mem_append_left _ (List.mem_append_left _ (List.mem_map_of_mem ?_))
      exact List.mem_filter.mpr ⟨hr, decide_eq_true hrow.1⟩
  | deleting owner tokenHash now todo done =>
      cases todo with
      | nil =>
          rw [next] at hnext
          split_ifs at hnext
          cases hnext
          exact h
      | cons hash todo =>
          have hview : (system E).view d (deleting owner tokenHash now (hash :: todo) done) =
              { d with recoveryTokens := d.recoveryTokens.filter fun r => r.tokenHash ∉ done } :=
            foldl_deleteToken d done
          rw [hview, next] at hnext
          split_ifs at hnext with hthere
          · cases hnext
            intro howner r hr hrow
            have hfound := h howner r hr hrow
            simp only [List.mem_append, List.mem_cons] at hfound ⊢
            tauto
          · -- the row is gone or used, or it is one the call has deleted itself
            cases hnext
            rintro rfl r hr hrow
            have hfound := h rfl r hr hrow
            simp only [List.mem_append, List.mem_cons] at hfound ⊢
            rcases hfound with ((rfl | htodo) | hdone) | hlate
            · by_contra hmem
              refine hthere ⟨r, List.mem_filter.mpr ⟨hr, decide_eq_true ?_⟩, rfl, hrow.1⟩
              exact fun hdone => hmem (.inl (.inr hdone))
            · exact .inl (.inl htodo)
            · exact .inl (.inr hdone)
            · exact .inr hlate
  | inserted owner tokenHash now done => cases hnext
  | used owner tokenHash passwordHash now => cases hnext
  | lookup tokenHash passwordHash now =>
      rw [next] at hnext
      split at hnext
      · cases hnext
      · cases hnext
        trivial
  | _ =>
      cases hnext
      trivial

/-- The tokens a step leaves were there, or it commits them. -/
lemma live_step (userId : Uuid) (E : Env) (s : State) (a : Act) :
    ∀ r ∈ (step E s a).db.recoveryTokens, Live (step E s a).db userId r →
      (∃ j, a = .run (.run j) ∧ r.tokenHash ∈ issued userId s j) ∨
        ∃ r' ∈ s.db.recoveryTokens, Live s.db userId r' ∧ r'.tokenHash = r.tokenHash := by
  intro r hr hrow
  cases a with
  | wait now =>
      refine .inr ⟨r, hr, ⟨hrow.1, lt_of_le_of_lt ?_ hrow.2⟩, rfl⟩
      exact Int.ofNat_le.mpr (le_max_left s.db.now now)
  | run a =>
      rcases System.step_db (S := system E) s a with hsame | ⟨j, p, rfl, hcommits, hdb⟩
      · rw [step, hsame] at hr hrow
        exact .inr ⟨r, hr, hrow, rfl⟩
      · rw [step, hdb] at hr hrow
        obtain hnil | ⟨owner, tokenHash, now, done, rfl⟩ | ⟨owner, tokenHash, hash, now, rfl⟩ :=
          Stage.next_commit hcommits.2
        · have hview : (system E).view s.db p = s.db := by
            change p.writes.foldl Write.apply s.db = s.db
            rw [hnil, List.foldl_nil]
          rw [hview] at hr hrow
          exact .inr ⟨r, hr, hrow, rfl⟩
        · have hview : (system E).view s.db (.inserted owner tokenHash now done) =
              Write.apply { s.db with
                recoveryTokens := s.db.recoveryTokens.filter fun r => r.tokenHash ∉ done }
                (.insertToken (tokenRow owner tokenHash now)) := by
            change (Stage.inserted owner tokenHash now done).writes.foldl Write.apply s.db = _
            rw [Stage.writes, List.foldl_append, foldl_deleteToken]
            rfl
          rw [hview] at hr hrow
          rcases List.mem_append.mp hr with hold | hnew
          · exact .inr ⟨r, (List.mem_filter.mp hold).1, hrow, rfl⟩
          · obtain rfl := List.mem_singleton.mp hnew
            refine .inl ⟨j, rfl, ?_⟩
            rw [issued, hcommits.1]
            dsimp only
            rw [if_pos (show owner = userId from hrow.1.1)]
            exact List.mem_singleton_self _
        · obtain ⟨r', hr', rfl⟩ := List.mem_map.mp hr
          refine .inr ⟨r', hr', ?_⟩
          by_cases hhash : r'.tokenHash = tokenHash
          · rw [if_pos hhash] at hrow
            exact absurd hrow.1.2 (Option.some_ne_none now)
          · rw [if_neg hhash] at hrow ⊢
            exact ⟨hrow, rfl⟩

/-- The invariant of a run on such a schedule. -/
structure Tidy (userId : Uuid) (w : Watched) : Prop where
  single : Single userId w.state.db
  found : ∀ k p, w.state.request k = some p → p.Found userId w.state.db (w.later k)

lemma Tidy.careful {w : Watched} (h : Tidy userId w) {a : Act} (ha : OnTime userId w a) :
    Careful userId w.state a := by
  cases a with
  | wait now => trivial
  | run a =>
      cases a with
      | begin op => trivial
      | abort k => trivial
      | run k =>
          intro p hp
          cases p with
          | inserted owner tokenHash now done =>
              intro hlive r hr hrow
              rcases List.mem_append.mp (h.found k _ hp hlive.1.1 r hr hrow) with hdone | hlate
              · exact hdone
              · exact absurd hlate (ha _ hp hlive r hr hrow)
          | _ => trivial

/-- The call that runs: what it found it still has, and from a `DELETE` on nothing is later. -/
lemma later_watch_self (w : Watched) (k : ℕ) : (watch E userId w (.run (.run k))).later k =
    if deletes w.state k then [] else w.later k :=
  if_pos rfl

/-- A call that waits. -/
lemma Tidy.found_wait {w : Watched} (h : Tidy userId w) {p : Stage}
    (hp : w.state.request k = some p) :
    p.Found userId w.state.db (if deletes w.state k then [] else w.later k) := by
  split_ifs with hdeletes
  · rw [deletes, hp] at hdeletes
    cases p with
    | delete owner tokenHash now => trivial
    | _ => cases hdeletes
  · exact h.found k p hp

/-- A statement of a call. -/
lemma Tidy.found_statement {w : Watched} (h : Tidy userId w) {p q : Stage} {needs : List Lock}
    (hp : w.state.request k = some p)
    (hnext : p.next E ((system E).view w.state.db p) = .goto needs q) :
    q.Found userId w.state.db (if deletes w.state k then [] else w.later k) :=
  (h.found_wait hp).statement hnext

/-- Another call runs, or time passes. -/
lemma Tidy.found_other {w : Watched} (h : Tidy userId w) {p : Stage}
    (hp : w.state.request k = some p) {a : Act} (ha : a ≠ .run (.run k)) :
    p.Found userId (step E w.state a).db ((watch E userId w a).later k) := by
  have hfound := h.found k p hp
  have hlive := live_step userId E w.state a
  by_cases hrun : ∃ j, a = .run (.run j)
  · obtain ⟨j, rfl⟩ := hrun
    have hne : j ≠ k := fun heq => ha (heq ▸ rfl)
    have hlater : (watch E userId w (.run (.run j))).later k =
        issued userId w.state j ++ w.later k := if_neg hne
    rw [hlater]
    refine hfound.later fun r hr hrow => ?_
    obtain ⟨i, hi, hissued⟩ | hold := hlive r hr hrow
    · obtain rfl : j = i := by injection hi with hi; injection hi
      exact .inl hissued
    · exact .inr hold
  · have hlater : (watch E userId w a).later k = [] ++ w.later k := by
      cases a with
      | wait now => rfl
      | run a =>
          cases a with
          | begin op => rfl
          | abort j => rfl
          | run j => exact absurd ⟨j, rfl⟩ hrun
    rw [hlater]
    refine hfound.later fun r hr hrow => ?_
    obtain ⟨j, hj, -⟩ | hold := hlive r hr hrow
    · exact absurd ⟨j, hj⟩ hrun
    · exact .inr hold

/-- One step on such a schedule. -/
lemma tidy_watch {w : Watched} (h : Tidy userId w) {a : Act} (ha : OnTime userId w a) :
    Tidy userId (watch E userId w a) := by
  refine ⟨(single_step_iff E h.single a).mpr (h.careful ha), fun k q hq => ?_⟩
  cases a with
  | wait now => exact h.found_other hq (by simp)
  | run a =>
      obtain ⟨hstay, hdb⟩ | ⟨o, rfl⟩ | ⟨rfl, hdb, p, needs, hp, hnext⟩ :=
        System.request_step (S := system E) hq
      · by_cases hown : a = .run k
        · subst hown
          rw [later_watch_self]
          change Stage.Found userId ((system E).step w.state (.run k)).db _ q
          rw [hdb rfl]
          exact h.found_wait hstay
        · exact h.found_other hstay fun heq => hown (by injection heq)
      · trivial
      · rw [later_watch_self]
        change Stage.Found userId ((system E).step w.state (.run k)).db _ q
        rw [hdb]
        exact h.found_statement hp hnext

end Schedules

/-- **One token at most**: from a state in which no call is under way and at most one token of the
user is unused and unexpired, this is so in every state of a run in which no call commits such a
token while one is left that another call has committed since its `DELETE` began. -/
theorem single_along (E : Env) {userId : Uuid} {s : State} (h : Single userId s.db)
    (hidle : s.requests = []) {as : List Act}
    (honTime : Along (watch E userId) (OnTime userId) { state := s } as) :
    Along (step E) (fun s a => Single userId (step E s a).db) s as := by
  have hstart : Tidy userId { state := s } := by
    refine ⟨h, fun k p hp => ?_⟩
    change s.request k = some p at hp
    rw [ReadCommitted.State.request, hidle] at hp
    exact absurd hp (by simp)
  have hwatched : Along (watch E userId) (fun w a => Single userId (step E w.state a).db)
      { state := s } as :=
    Along.of_invariant (I := Tidy userId) (fun w a hw ha => tidy_watch hw ha)
      (fun w a hw ha => (tidy_watch (E := E) hw ha).single) hstart honTime
  have hsame : Along (watch E userId) (fun w a => Single userId (step E w.state a).db)
      { state := s } as ↔ Along (step E) (fun s a => Single userId (step E s a).db) s as :=
    along_view Watched.state (fun _ _ => rfl) (fun s a => Single userId (step E s a).db) _ as
  exact hsame.mp hwatched

/-! ### Two calls -/

/-- ASCII text, and passwords and tokens stored as they are. -/
def plainEnv : Env where
  unicode := .ascii
  crypto := { hash := fun password _ => .ok password, verify := fun a b => a == b, digest := id }

/-- A user without tokens. -/
def oneUser : State where
  db := { users := [{ id := 1, email := "a@x", username := "ada", passwordHash := "",
                      createdAt := 0, updatedAt := 0 }] }

/-- A call with the token. -/
def call (token : String) : Act := .run (.begin (.request "a@x" token))

/-- The next `n` statements of a call. -/
def statements (n k : ℕ) : List Act := List.replicate n (.run (.run k))

/-- One call after another. -/
def oneByOne : List Act :=
  call "t0" :: statements 5 0 ++ [.wait 1000, call "t1"] ++ statements 6 1

/-- The second token replaces the first one. -/
theorem single_oneByOne :
    Along (step plainEnv) (fun s a => Single 1 (step plainEnv s a).db) oneUser oneByOne := by
  have hstart : Single 1 oneUser.db := by decide
  exact single_along plainEnv hstart rfl (by decide +kernel)

/-- Two calls at the same time, when there is no token yet. -/
def together : List Act :=
  [call "t1", call "t2"] ++ statements 4 0 ++ statements 4 1 ++ statements 1 0 ++ statements 1 1

/-- Two calls at the same time, when there is a token: the second one waits for the first to
commit, finds the token gone and does not look for others. -/
def waiting : List Act :=
  call "t0" :: statements 5 0 ++ [call "t1", call "t2"] ++ statements 3 1 ++ statements 3 2 ++
    statements 1 1 ++ statements 1 2 ++ statements 2 1 ++ statements 3 2

/-- Two overlapping calls leave two tokens. -/
theorem not_single_race :
    (final (step plainEnv) oneUser together).db.recoveryTokens.map RecoveryToken.tokenHash =
        ["t1", "t2"] ∧
      ¬ Single 1 (final (step plainEnv) oneUser together).db ∧
      (final (step plainEnv) oneUser waiting).db.recoveryTokens.map RecoveryToken.tokenHash =
        ["t1", "t2"] ∧
      ¬ Single 1 (final (step plainEnv) oneUser waiting).db := by
  decide +kernel

end Vussa.Accounts.Recovery
