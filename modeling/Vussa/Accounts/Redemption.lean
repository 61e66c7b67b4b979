import Vussa.Model.Database
import Vussa.Accounts.Recovery
import Vussa.Outbox.Model

/-!
Recovery tokens and deleted accounts: concurrent calls of `reset_recovery`, `delete_account`
(`api/account.rs`) and `admin_delete_user` (`api/admin.rs`), at the granularity of SQL statements
under read committed.

`SELECT ... FOR UPDATE` waits for the row of the token and looks at it again. `UPDATE users ... AND
deleted_at IS NULL` waits for the row of a user who is not deleted, and passes over a deleted one
without a lock. `reset_recovery` does not ask how many rows it has changed. Sessions and identifiers
of audit rows are left out.

* `Store`, `Write`, `Lock`: the tables, and what the statements write and lock;
* `Reset`, `Task`, `Stage`, `system`: the calls as programs of `ReadCommitted`;
* `Held`: what a call knows of the rows it has locked;
* `Fulfils`: what a success of `reset_recovery` should mean;
* `fulfils_along_iff`: **a token is redeemed at most once, and every success has replaced a password
  iff none of them is for a deleted account**.
-/

namespace Vussa.Accounts.Redemption

open Run ReadCommitted
open Recovery (Env Clocked)
open Outbox (EventRow)

/-! ### Tables -/

/-- The tables with the clock, the audit rows and the outbox. -/
structure Store extends Clocked where
  audits : List AuditRow := []
  events : List EventRow := []
  deriving DecidableEq, Repr

/-- What a statement writes. -/
inductive Write where
  /-- `UPDATE users` or `UPDATE account_recovery_tokens` of `reset_recovery` -/
  | account (w : Recovery.Write)
  /-- `UPDATE users` of `delete_account` -/
  | selfDelete (userId : Uuid) (now : Millis)
  /-- `UPDATE users` of `admin_delete_user` -/
  | delete (userId : Uuid) (now : Millis)
  | audit (row : AuditRow)
  | queue (row : EventRow)
  deriving DecidableEq, Repr

/-- The tables after a write. -/
def Write.apply (d : Store) : Write → Store
  | account w => { d with toClocked := w.apply d.toClocked }
  | selfDelete userId now => { d with toTables := d.updateUser userId (Account.selfDelete now) }
  | delete userId now => { d with toTables := d.updateUser userId (Account.delete now) }
  | audit row => { d with audits := d.audits ++ [row] }
  | queue row => { d with events := d.events ++ [row] }

/-- The rows and index entries that are locked. -/
inductive Lock where
  | token (tokenHash : String)
  | user (id : Uuid)
  | event (id : Uuid)
  deriving DecidableEq, Repr

/-- The index entries a write inserts. -/
def Write.locks : Write → List Lock
  | queue row => [.event row.id]
  | _ => []

/-- The primary key of the outbox refuses the write. -/
def Write.Refused (v : Store) : Write → Prop
  | queue row => ∃ e ∈ v.events, e.id = row.id
  | _ => False

instance (v : Store) : ∀ w : Write, Decidable (w.Refused v)
  | .queue _ => inferInstanceAs (Decidable (∃ e ∈ v.events, _))
  | .account _ | .selfDelete _ _ | .delete _ _ | .audit _ => isFalse id

/-! ### Programs -/

/-- A call of `reset_recovery` that has found its token. -/
structure Reset where
  userId : Uuid
  tokenHash : String
  passwordHash : String
  now : Millis
  eventId : Uuid
  deriving DecidableEq, Repr

/-- Who deletes an account: its user, or an administrator, who draws the identifier of the outbox
row. -/
inductive Deleter where
  | self
  | admin (actorId eventId : Uuid)
  deriving DecidableEq, Repr

/-- The transactions of `reset_recovery`, and of `delete_account` and `admin_delete_user`. -/
inductive Task where
  | reset (r : Reset)
  | delete (deleter : Deleter) (userId : Uuid) (now : Millis)
  deriving DecidableEq, Repr

/-- The row `queue_auth_invalidation` inserts. -/
def invalidation (eventId userId : Uuid) (now : Millis) : EventRow :=
  { id := eventId, topic := .authInvalidate, payload := .authInvalidate userId
    createdAt := ((now : ℕ) : ℤ), publishedAt := none, attempts := 0, claimedAt := none }

namespace Task

/-- The user whose row is updated. -/
def userId : Task → Uuid
  | reset r => r.userId
  | delete _ userId _ => userId

/-- The `UPDATE users`. -/
def update : Task → Write
  | reset r => .account (.setPassword r.userId r.passwordHash r.now)
  | delete .self userId now => .selfDelete userId now
  | delete (.admin _ _) userId now => .delete userId now

/-- The statements after it. -/
def rest : Task → List Write
  | reset r =>
      [.account (.useToken r.tokenHash r.now),
        .audit { actor := some r.userId, action := "user.password_recovered", targetType := "user",
                 targetId := r.userId, createdAt := r.now },
        .queue (invalidation r.eventId r.userId r.now)]
  | delete .self userId now =>
      [.audit { actor := some userId, action := "user.self_deleted", targetType := "user",
                targetId := userId, createdAt := now }]
  | delete (.admin actorId eventId) userId now =>
      [.audit { actor := some actorId, action := "user.deleted", targetType := "user",
                targetId := userId, createdAt := now },
        .queue (invalidation eventId userId now)]

/-- The row that the transaction has locked before it. -/
def locks : Task → List Lock
  | reset r => [.token r.tokenHash]
  | delete _ _ _ => []

/-- `admin_delete_user` asks whether its update has changed a row. -/
def counts : Task → Bool
  | delete (.admin _ _) _ _ => true
  | _ => false

end Task

/-- The calls, with the salt and the identifiers they draw. -/
inductive Op where
  | reset (rawToken password : String) (salt eventId : Uuid)
  | delete (userId : Uuid)
  | adminDelete (actor : AuthUser) (userId eventId : Uuid)
  deriving DecidableEq, Repr

/-- Where a call stands. -/
inductive Stage where
  | call (op : Op)
  /-- `reset_recovery` has hashed the password and reads the clock -/
  | resetClock (tokenHash passwordHash : String) (eventId : Uuid)
  | lookup (tokenHash passwordHash : String) (now : Millis) (eventId : Uuid)
  /-- a deletion reads the clock -/
  | deleteClock (deleter : Deleter) (userId : Uuid)
  /-- about to run the `UPDATE users` -/
  | update (t : Task)
  /-- the update has run and has `changed` a row, as have `n` statements after it -/
  | rest (t : Task) (changed : Bool) (n : ℕ)
  deriving DecidableEq, Repr

namespace Stage

/-- What the transaction has written. -/
def writes : Stage → List Write
  | rest t changed n => (if changed then [t.update] else []) ++ t.rest.take n
  | _ => []

/-- The locks the transaction holds. -/
def locks : Stage → List Lock
  | update t => t.locks
  | rest t changed n =>
      t.locks ++ (if changed then [.user t.userId] else []) ++ (t.rest.take n).flatMap Write.locks
  | _ => []

end Stage

/-- A user who is not deleted. -/
def Live (d : Store) (userId : Uuid) : Prop := ∃ u ∈ d.users, u.id = userId ∧ u.deletedAt = none

instance (d : Store) (userId : Uuid) : Decidable (Live d userId) :=
  inferInstanceAs (Decidable (∃ u ∈ d.users, _))

/-- The checks on the arguments. -/
def Op.next (E : Env) : Op → Next Stage Lock
  | reset rawToken password salt eventId =>
      let token := trim rawToken
      if token.utf8ByteSize ≠ 64 ∨ ¬ token.toList.all isAsciiHexdigit then .fail
      else
        match passwordHash E.crypto password salt with
        | .error _ => .fail
        | .ok hash => .goto [] (.resetClock (E.crypto.digest token) hash eventId)
  | delete userId => .goto [] (.deleteClock .self userId)
  | adminDelete actor userId eventId =>
      match requirePermission actor .usersWrite with
      | .error _ => .fail
      | .ok _ =>
          if userId = actor.id then .fail
          else .goto [] (.deleteClock (.admin actor.id eventId) userId)

/-- The next statement of a call. -/
def Stage.next (E : Env) (p : Stage) (v : Store) : Next Stage Lock :=
  match p with
  | call op => op.next E
  | resetClock tokenHash passwordHash eventId =>
      .goto [] (lookup tokenHash passwordHash v.now eventId)
  | lookup tokenHash passwordHash now eventId =>
      match v.recoveryTokens.find? fun r =>
          r.tokenHash = tokenHash ∧ r.usedAt = none ∧ ((now : ℕ) : ℤ) < r.expiresAt with
      | none => .fail
      | some r => .goto [] (update (.reset ⟨r.userId, tokenHash, passwordHash, now, eventId⟩))
  | deleteClock deleter userId => .goto [] (update (.delete deleter userId v.now))
  | update t =>
      if Live v t.userId then .goto [] (rest t true 0)
      else if t.counts then .fail
      else .goto [] (rest t false 0)
  | rest t changed n =>
      match t.rest[n]? with
      | none => .commit
      | some w => if w.Refused v then .fail else .goto [] (rest t changed (n + 1))

/-- The calls as programs. -/
def system (E : Env) : System Store Op Stage Write Lock where
  start := .call
  next := Stage.next E
  writes := Stage.writes
  locks := Stage.locks
  apply := Write.apply

/-- The committed tables and the calls under way. -/
abbrev State := ReadCommitted.State Store Stage

/-- The clock goes on, or a call does something. -/
inductive Act where
  | wait (now : Millis)
  | run (a : ReadCommitted.Act Op)

/-- One step. -/
def step (E : Env) (s : State) : Act → State
  | .wait now => { s with db := { s.db with now := max s.db.now now } }
  | .run a => (system E).step s a

/-! ### The property and the condition -/

/-- The token of the call is unused, and the call has begun before its expiry. -/
def Redeemable (d : Store) (r : Reset) : Prop :=
  ∃ row ∈ d.recoveryTokens, row.tokenHash = r.tokenHash ∧ row.userId = r.userId ∧
    row.usedAt = none ∧ ((r.now : ℕ) : ℤ) < row.expiresAt

/-- The call that is about to report success. -/
def Stage.reset? : Stage → Option Reset
  | rest (.reset r) _ n => if 3 ≤ n then some r else none
  | _ => none

/-- The step lets a call of `reset_recovery` report success. -/
def Succeeds (s : State) (a : Act) (r : Reset) : Prop :=
  ∃ k p, a = .run (.run k) ∧ s.request k = some p ∧ p.reset? = some r

/-- What a success means: the call has redeemed an unused, unexpired token, has replaced the
password of the token's user, and has queued the invalidation of the user's sessions. -/
structure Fulfils (s s' : State) (r : Reset) : Prop where
  redeemed : Redeemable s.db r
  used : ∀ row ∈ s'.db.recoveryTokens, row.tokenHash = r.tokenHash → row.usedAt = some r.now
  replaced : ∃ u ∈ s.db.users, u.id = r.userId ∧
    { u with passwordHash := r.passwordHash, roleVersion := u.roleVersion + 1
             updatedAt := r.now } ∈ s'.db.users
  queued : invalidation r.eventId r.userId r.now ∈ s'.db.events

/-- A call that is about to report success is for a user who is not deleted. -/
def Careful (s : State) : Act → Prop
  | .run (.run k) => ∀ p ∈ s.request k, ∀ r ∈ p.reset?, Live s.db r.userId
  | _ => True

instance (s : State) : ∀ a, Decidable (Careful s a)
  | .run (.run k) => inferInstanceAs (Decidable (∀ p ∈ s.request k, _))
  | .wait _ | .run (.begin _) | .run (.abort _) => isTrue trivial

/-! ### Commits -/

/-- The change of a user's row. -/
def Task.change : Task → Account → Account
  | reset r => Account.setPassword r.passwordHash r.now
  | delete .self _ now => Account.selfDelete now
  | delete (.admin _ _) _ now => Account.delete now

/-- The tables after the commit of a transaction. -/
def Task.result (t : Task) (changed : Bool) (d : Store) : Store :=
  ((if changed then [t.update] else []) ++ t.rest).foldl Write.apply d

section Commit

variable {t : Task} {changed : Bool} {d : Store}

/-- The stages that commit. -/
lemma Stage.next_commit {E : Env} {p : Stage} {v : Store} (h : p.next E v = .commit) :
    ∃ t changed n, p = rest t changed n ∧ t.rest.length ≤ n := by
  cases p with
  | rest t changed n =>
      refine ⟨t, changed, n, rfl, ?_⟩
      rw [next] at h
      cases hn : t.rest[n]? with
      | none => exact List.getElem?_eq_none_iff.mp hn
      | some w =>
          simp only [hn] at h
          split_ifs at h
  | call op =>
      cases op with
      | reset rawToken password salt eventId =>
          simp only [next, Op.next] at h
          split_ifs at h
          split at h <;> cases h
      | delete userId => cases h
      | adminDelete actor userId eventId =>
          simp only [next, Op.next] at h
          split at h
          · cases h
          · split_ifs at h
  | resetClock _ _ _ => cases h
  | lookup _ _ _ _ =>
      simp only [next] at h
      split at h <;> cases h
  | deleteClock _ _ => cases h
  | update t =>
      simp only [next] at h
      split_ifs at h

/-- A call commits when all its statements have run. -/
lemma commits_cases {E : Env} {s : State} {k : ℕ} {p : Stage} (h : (system E).Commits s k p) :
    ∃ t changed n, p = .rest t changed n ∧ t.rest.length ≤ n ∧
      (system E).view s.db p = t.result changed s.db := by
  obtain ⟨t, changed, n, rfl, hlength⟩ := Stage.next_commit h.2
  refine ⟨t, changed, n, rfl, hlength, ?_⟩
  change (Stage.rest t changed n).writes.foldl Write.apply s.db = _
  rw [Stage.writes, List.take_of_length_le hlength, Task.result]

lemma Task.change_id (t : Task) (u : Account) : (t.change u).id = u.id := by
  cases t with
  | reset r =>
      rw [change, Account.setPassword]
      split <;> rfl
  | delete deleter userId now =>
      cases deleter with
      | self =>
          rw [change, Account.selfDelete]
          split <;> rfl
      | admin actorId eventId =>
          rw [change, Account.delete]
          split <;> rfl

/-- No transaction takes back a deletion. -/
lemma Task.deletedAt_of_change {u : Account} (h : (t.change u).deletedAt = none) :
    u.deletedAt = none := by
  by_contra hdeleted
  refine hdeleted ?_
  cases t with
  | reset r =>
      rw [change, Account.setPassword, if_neg hdeleted] at h
      exact h
  | delete deleter userId now =>
      cases deleter with
      | self =>
          rw [change, Account.selfDelete, if_neg hdeleted] at h
          exact h
      | admin actorId eventId =>
          rw [change, Account.delete, if_neg hdeleted] at h
          exact h

/-- The rows of the users after a commit. -/
lemma Task.result_users : (t.result changed d).users =
    if changed then d.users.map fun u => if u.id = t.userId then t.change u else u
    else d.users := by
  cases t with
  | reset r => cases changed <;> rfl
  | delete deleter userId now =>
      cases deleter with
      | self => cases changed <;> rfl
      | admin actorId eventId => cases changed <;> rfl

/-- A deletion leaves the tokens. -/
lemma Task.result_delete_tokens {deleter : Deleter} {userId : Uuid} {now : Millis} :
    ((Task.delete deleter userId now).result changed d).recoveryTokens = d.recoveryTokens := by
  cases deleter with
  | self => cases changed <;> rfl
  | admin actorId eventId => cases changed <;> rfl

/-- A reset uses the tokens of its hash. -/
lemma Task.result_reset_tokens {r : Reset} :
    ((Task.reset r).result changed d).recoveryTokens = d.recoveryTokens.map fun row =>
      if row.tokenHash = r.tokenHash then { row with usedAt := some r.now } else row := by
  cases changed <;> rfl

/-- A reset queues the invalidation. -/
lemma Task.result_reset_events {r : Reset} :
    ((Task.reset r).result changed d).events =
      d.events ++ [invalidation r.eventId r.userId r.now] := by
  cases changed <;> rfl

/-- Nobody comes back from a deletion. -/
lemma live_of_result {userId : Uuid} (h : Live (t.result changed d) userId) : Live d userId := by
  obtain ⟨u, hu, hid, hlive⟩ := h
  rw [Task.result_users] at hu
  split at hu
  · obtain ⟨v, hv, rfl⟩ := List.mem_map.mp hu
    split at hlive
    · rename_i huser
      rw [if_pos huser, t.change_id] at hid
      exact ⟨v, hv, hid, t.deletedAt_of_change hlive⟩
    · rename_i huser
      rw [if_neg huser] at hid
      exact ⟨v, hv, hid, hlive⟩
  · exact ⟨u, hu, hid, hlive⟩

/-- A transaction deletes no other user than its own. -/
lemma live_result_of_ne {userId : Uuid} (hne : changed = true → t.userId ≠ userId)
    (h : Live d userId) : Live (t.result changed d) userId := by
  obtain ⟨u, hu, hid, hlive⟩ := h
  rw [Live, Task.result_users]
  split
  · rename_i hchanged
    refine ⟨_, List.mem_map_of_mem hu, ?_⟩
    rw [if_neg fun huser => hne hchanged (huser.symm.trans hid)]
    exact ⟨hid, hlive⟩
  · exact ⟨u, hu, hid, hlive⟩

/-- A transaction with another token leaves a token as it is. -/
lemma redeemable_result {r : Reset} (hne : ∀ r', t = .reset r' → r'.tokenHash ≠ r.tokenHash)
    (h : Redeemable d r) : Redeemable (t.result changed d) r := by
  obtain ⟨row, hrow, hhash, hredeemable⟩ := h
  cases t with
  | reset r' =>
      rw [Redeemable, Task.result_reset_tokens]
      refine ⟨_, List.mem_map_of_mem hrow, ?_⟩
      rw [if_neg fun heq => hne r' rfl (heq.symm.trans hhash)]
      exact ⟨hhash, hredeemable⟩
  | delete deleter userId now =>
      rw [Redeemable, Task.result_delete_tokens]
      exact ⟨row, hrow, hhash, hredeemable⟩

end Commit

/-! ### The invariant -/

/-- What a call of `reset_recovery` knows of the rows it has looked at: the token stays redeemable
while its row is locked, and the update has changed a row iff the user is not deleted. -/
def Stage.Held (d : Store) : Stage → Prop
  | update (.reset r) => Redeemable d r
  | rest (.reset r) changed _ => Redeemable d r ∧ (changed = true ↔ Live d r.userId)
  | _ => True

/-- The primary key of `users`. -/
def Keyed (d : Store) : Prop := (d.users.map Account.id).Nodup

instance (d : Store) : Decidable (Keyed d) := inferInstanceAs (Decidable (List.Nodup _))

/-- The next statement of a call. -/
lemma held_goto {E : Env} {d : Store} {p p' : Stage} {needs : List Lock} (h : p.Held d)
    (hnext : p.next E (p.writes.foldl Write.apply d) = .goto needs p') : p'.Held d := by
  cases p with
  | call op =>
      cases op with
      | reset rawToken password salt eventId =>
          simp only [Stage.next, Op.next] at hnext
          split_ifs at hnext
          split at hnext <;> cases hnext
          trivial
      | delete userId =>
          cases hnext
          trivial
      | adminDelete actor userId eventId =>
          simp only [Stage.next, Op.next] at hnext
          split at hnext
          · cases hnext
          · split_ifs at hnext
            cases hnext
            trivial
  | resetClock _ _ _ =>
      cases hnext
      trivial
  | lookup tokenHash passwordHash now eventId =>
      -- the row is locked from here on
      simp only [Stage.next] at hnext
      split at hnext
      · cases hnext
      · rename_i row hrow
        cases hnext
        obtain ⟨hhash, hunused, hexpiry⟩ : row.tokenHash = tokenHash ∧ row.usedAt = none ∧
            ((now : ℕ) : ℤ) < row.expiresAt := by
          simpa using List.find?_some hrow
        exact ⟨row, List.mem_of_find?_eq_some hrow, hhash, rfl, hunused, hexpiry⟩
  | deleteClock _ _ =>
      cases hnext
      trivial
  | update t =>
      simp only [Stage.next] at hnext
      cases t with
      | reset r =>
          split_ifs at hnext with hlive hcounts
          · cases hnext
            exact ⟨h, iff_of_true rfl hlive⟩
          · cases hnext
            exact ⟨h, iff_of_false Bool.false_ne_true hlive⟩
      | delete deleter userId now =>
          split_ifs at hnext
          · cases hnext
            trivial
          · cases hnext
            trivial
  | rest t changed n =>
      simp only [Stage.next] at hnext
      split at hnext
      · cases hnext
      · split_ifs at hnext
        cases hnext
        cases t with
        | reset r => exact h
        | delete deleter userId now => trivial

/-- A commit does not reach the rows that another call has locked. -/
lemma held_commit {d : Store} {t : Task} {changed : Bool} {n : ℕ} {q : Stage} (h : q.Held d)
    (hexclusive : ∀ κ ∈ (Stage.rest t changed n).locks, κ ∉ q.locks) :
    q.Held (t.result changed d) := by
  have htoken : ∀ r : Reset, Lock.token r.tokenHash ∈ q.locks →
      ∀ r', t = .reset r' → r'.tokenHash ≠ r.tokenHash := by
    rintro r hr r' rfl heq
    refine hexclusive (.token r'.tokenHash) ?_ (heq ▸ hr)
    simp [Stage.locks, Task.locks]
  cases q with
  | update t' =>
      cases t' with
      | reset r => exact redeemable_result (htoken r (by simp [Stage.locks, Task.locks])) h
      | delete deleter userId now => trivial
  | rest t' changed' n' =>
      cases t' with
      | reset r =>
          refine ⟨redeemable_result (htoken r (by simp [Stage.locks, Task.locks])) h.1,
            fun hchanged => ?_, fun hlive => h.2.mpr (live_of_result hlive)⟩
          -- the update has changed the user's row, which is locked
          refine live_result_of_ne (fun hother heq => ?_) (h.2.mp hchanged)
          refine hexclusive (.user t.userId) ?_ ?_
          · simp [Stage.locks, hother]
          · rw [heq]
            simp [Stage.locks, hchanged, Task.userId]
      | delete deleter userId now => trivial
  | call _ | resetClock _ _ _ | lookup _ _ _ _ | deleteClock _ _ => trivial

lemma keyed_result {t : Task} {changed : Bool} {d : Store} (h : Keyed d) :
    Keyed (t.result changed d) := by
  rw [Keyed, Task.result_users]
  split
  · have hsame : (d.users.map fun u => if u.id = t.userId then t.change u else u).map Account.id =
        d.users.map Account.id := by
      rw [List.map_map]
      refine List.map_congr_left fun u _ => ?_
      rw [Function.comp_apply]
      split
      · exact t.change_id u
      · rfl
    rw [hsame]
    exact h
  · exact h

lemma keeps (E : Env) : (system E).Keeps Keyed (fun d p => p.Held d) fun _ _ => True where
  locks _ := rfl
  start _ _ _ _ := trivial
  goto _ _ _ _ _ h hnext := held_goto h hnext
  commit s k p hs hcommits _ := by
    obtain ⟨t, changed, n, -, -, hview⟩ := commits_cases hcommits
    rw [hview]
    exact keyed_result hs.db
  frame s k p hs hcommits _ j q hne hq := by
    obtain ⟨t, changed, n, rfl, -, hview⟩ := commits_cases hcommits
    rw [hview]
    exact held_commit (hs.request j q hq) fun κ hκ =>
      hs.exclusive k j _ q (Ne.symm hne) hcommits.1 hq κ hκ

/-- The invariant, and no lock held twice. -/
abbrev Good (E : Env) (s : State) : Prop := (system E).Good Keyed (fun d p => p.Held d) s

lemma Stage.held_congr {d d' : Store} (husers : d'.users = d.users)
    (htokens : d'.recoveryTokens = d.recoveryTokens) (p : Stage) : p.Held d' ↔ p.Held d := by
  cases p with
  | update t => cases t <;> simp only [Held, Redeemable, htokens]
  | rest t changed n => cases t <;> simp only [Held, Redeemable, Live, husers, htokens]
  | call _ | resetClock _ _ _ | lookup _ _ _ _ | deleteClock _ _ => exact Iff.rfl

lemma good_step (E : Env) (s : State) (a : Act) (h : Good E s) : Good E (step E s a) := by
  cases a with
  | wait now =>
      exact ⟨h.db, fun k p hk => (p.held_congr rfl rfl).mpr (h.request k p hk), h.exclusive⟩
  | run a => exact (keeps E).step h trivial

/-! ### Successes -/

lemma Stage.reset?_eq_some {p : Stage} {r : Reset} (h : p.reset? = some r) :
    ∃ changed n, p = rest (.reset r) changed n ∧ 3 ≤ n := by
  cases p with
  | rest t changed n =>
      cases t with
      | reset r' =>
          rw [reset?] at h
          split_ifs at h with hn
          obtain rfl := Option.some.inj h
          exact ⟨changed, n, rfl, hn⟩
      | delete _ _ _ => exact absurd h (by simp [reset?])
  | call _ | resetClock _ _ _ | lookup _ _ _ _ | deleteClock _ _ | update _ =>
      exact absurd h (by simp [reset?])

/-- A success is the commit of the call. -/
lemma Succeeds.commit {E : Env} {s : State} (hs : Good E s) {a : Act} {r : Reset}
    (h : Succeeds s a r) : ∃ changed, (step E s a).db = (Task.reset r).result changed s.db ∧
      Redeemable s.db r ∧ (changed = true ↔ Live s.db r.userId) := by
  obtain ⟨k, p, rfl, hk, hp⟩ := h
  obtain ⟨changed, n, rfl, hn⟩ := Stage.reset?_eq_some hp
  have hnext : ∀ v, (Stage.rest (.reset r) changed n).next E v = .commit := by
    intro v
    have hnone : (Task.reset r).rest[n]? = none := List.getElem?_eq_none_iff.mpr hn
    rw [Stage.next, hnone]
  have hcommits : (system E).Commits s k (.rest (.reset r) changed n) := ⟨hk, hnext _⟩
  obtain ⟨t', changed', n', heq, -, hview⟩ := commits_cases hcommits
  cases heq
  exact ⟨changed, (System.step_commit hcommits).trans hview, hs.request k _ hk⟩

/-- A success is what it should be iff the user is not deleted. -/
lemma Succeeds.fulfils_iff {E : Env} {s : State} (hs : Good E s) {a : Act} {r : Reset}
    (h : Succeeds s a r) : Fulfils s (step E s a) r ↔ Live s.db r.userId := by
  obtain ⟨changed, hdb, hredeemable, hchanged⟩ := h.commit hs
  constructor
  · intro hfulfils
    by_contra hdeleted
    obtain rfl : changed = false := Bool.eq_false_iff.mpr (hchanged.not.mpr hdeleted)
    obtain ⟨u, hu, hid, hreplaced⟩ := hfulfils.replaced
    rw [hdb, Task.result_users] at hreplaced
    -- the row of the user is still the old one
    have hsame := List.inj_on_of_nodup_map hs.db hreplaced hu rfl
    have hversion := congrArg Account.roleVersion hsame
    exact absurd hversion (Nat.succ_ne_self _)
  · intro hlive
    obtain rfl := hchanged.mpr hlive
    refine ⟨hredeemable, ?_, ?_, ?_⟩
    · rw [hdb, Task.result_reset_tokens]
      intro row hrow hhash
      obtain ⟨row', -, rfl⟩ := List.mem_map.mp hrow
      split_ifs at hhash ⊢ with hother
      · rfl
      · exact absurd hhash hother
    · obtain ⟨u, hu, hid, hdeleted⟩ := hlive
      refine ⟨u, hu, hid, ?_⟩
      rw [hdb, Task.result_users]
      refine List.mem_map.mpr ⟨u, hu, ?_⟩
      have huser : u.id = (Task.reset r).userId := hid
      rw [if_pos huser, Task.change, Account.setPassword, if_pos hdeleted]
    · rw [hdb, Task.result_reset_events]
      exact List.mem_append_right _ (List.mem_singleton_self _)

/-- The tokens of the hash are used. -/
def UsedUp (tokenHash : String) (s : State) : Prop :=
  ∀ row ∈ s.db.recoveryTokens, row.tokenHash = tokenHash → row.usedAt ≠ none

/-- A used token stays used. -/
lemma usedUp_step (E : Env) (tokenHash : String) (s : State) (a : Act) (h : UsedUp tokenHash s) :
    UsedUp tokenHash (step E s a) := by
  cases a with
  | wait now => exact h
  | run a =>
      rcases System.step_db (S := system E) s a with hsame | ⟨k, p, rfl, hcommits, hdb⟩
      · rw [UsedUp, step, hsame]
        exact h
      · obtain ⟨t, changed, n, rfl, -, hview⟩ := commits_cases hcommits
        rw [UsedUp, step, hdb, hview]
        cases t with
        | reset r =>
            rw [Task.result_reset_tokens]
            intro row hrow hhash
            obtain ⟨row', hrow', rfl⟩ := List.mem_map.mp hrow
            split_ifs at hhash ⊢
            · simp
            · exact h row' hrow' hhash
        | delete deleter userId now =>
            rw [Task.result_delete_tokens]
            exact h

lemma Succeeds.usedUp {E : Env} {s : State} (hs : Good E s) {a : Act} {r : Reset}
    (h : Succeeds s a r) : UsedUp r.tokenHash (step E s a) := by
  obtain ⟨changed, hdb, -⟩ := h.commit hs
  rw [UsedUp, hdb, Task.result_reset_tokens]
  intro row hrow hhash
  obtain ⟨row', -, rfl⟩ := List.mem_map.mp hrow
  split_ifs at hhash ⊢ with hother
  · simp
  · exact absurd hhash hother

/-- No two steps of a run succeed with the same token. -/
def AtMostOnce (E : Env) (s : State) (as : List Act) : Prop :=
  ∀ bs a cs b ds, as = bs ++ a :: cs ++ b :: ds → ∀ r r',
    Succeeds (final (step E) s bs) a r → Succeeds (final (step E) s (bs ++ a :: cs)) b r' →
    r.tokenHash ≠ r'.tokenHash

lemma atMostOnce {E : Env} {s : State} (hs : Good E s) (as : List Act) : AtMostOnce E s as := by
  rintro bs a cs b ds rfl r r' hfirst hsecond heq
  have hbs : Good E (final (step E) s bs) := final_invariant (good_step E) hs bs
  rw [final_append, final_cons] at hsecond
  have hgood : Good E (step E (final (step E) s bs) a) := good_step E _ a hbs
  have hused : UsedUp r.tokenHash (final (step E) (step E (final (step E) s bs) a) cs) :=
    final_invariant (usedUp_step E r.tokenHash) (hfirst.usedUp hbs) cs
  obtain ⟨-, -, ⟨row, hrow, hhash, -, hunused, -⟩, -⟩ :=
    hsecond.commit (final_invariant (good_step E) hgood cs)
  exact hused row hrow (hhash.trans heq.symm) hunused

/-- **Redeemed tokens**: from tables without calls under way, no token is redeemed twice, and every
call that reports success has redeemed an unused token that had not expired when the call read the
clock, has replaced the password of its user, and has queued the invalidation of the user's
sessions, iff no call that is about to report success is for a deleted user. -/
theorem fulfils_along_iff (E : Env) {d : Store} (hd : Keyed d) (as : List Act) :
    AtMostOnce E { db := d } as ∧
    (Along (step E) (fun s a => ∀ r, Succeeds s a r → Fulfils s (step E s a) r) { db := d } as ↔
      Along (step E) Careful { db := d } as) := by
  have hstart : Good E { db := d } := System.good_of_requests_eq_nil hd rfl
  refine ⟨atMostOnce hstart as, along_congr (good_step E) (fun s a hs => ?_) hstart as⟩
  constructor
  · intro hfulfils
    cases a with
    | wait now => trivial
    | run a =>
        cases a with
        | begin op => trivial
        | abort k => trivial
        | run k =>
            intro p hp r hr
            have hsucceeds : Succeeds s (.run (.run k)) r := ⟨k, p, rfl, hp, hr⟩
            exact (hsucceeds.fulfils_iff hs).mp (hfulfils r hsucceeds)
  · rintro hcareful r hsucceeds
    refine (hsucceeds.fulfils_iff hs).mpr ?_
    obtain ⟨k, p, rfl, hp, hr⟩ := hsucceeds
    exact hcareful p hp r hr

/-! ### A deleted account -/

/-- A token. -/
def zeros : String := String.ofList (List.replicate 64 '0')

/-- A user with a token. -/
def oneToken : Store where
  users := [{ id := 1, email := "a@x", username := "ada", passwordHash := "old password",
              createdAt := 0, updatedAt := 0 }]
  recoveryTokens := [{ userId := 1, tokenHash := zeros, expiresAt := 2000, createdAt := 0 }]

/-- The call with the token. -/
def redeem : Act := .run (.begin (.reset zeros "a new password" 70 71))

/-- The next `n` statements of a call. -/
def statements (n k : ℕ) : List Act := List.replicate n (.run (.run k))

/-- What the call knows when it commits. -/
def redeemed (now : Millis) : Reset := ⟨1, zeros, "a new password", now, 71⟩

/-- The call alone. -/
def alone : List Act := redeem :: statements 8 0

/-- The user deletes the account, and then redeems the token. -/
def afterDeletion : List Act :=
  .run (.begin (.delete 1)) :: statements 5 0 ++ redeem :: statements 7 1

/-- The state after a run with the one user. -/
def reached (as : List Act) : State := final (step Recovery.plainEnv) { db := oneToken } as

/-- The call alone succeeds once and does what it says. -/
theorem fulfils_alone : Keyed oneToken ∧
    Succeeds (reached (redeem :: statements 7 0)) (.run (.run 0)) (redeemed 0) ∧
    Along (step Recovery.plainEnv)
      (fun s a => ∀ r, Succeeds s a r → Fulfils s (step Recovery.plainEnv s a) r)
      { db := oneToken } alone := by
  have hkeyed : Keyed oneToken := by decide
  refine ⟨hkeyed, ⟨0, .rest (.reset (redeemed 0)) true 3, rfl, by decide +kernel, rfl⟩, ?_⟩
  exact (fulfils_along_iff Recovery.plainEnv hkeyed alone).2.mpr (by decide +kernel)

/-- After the deletion the call succeeds, and the password is the old one. -/
theorem not_fulfils_afterDeletion :
    Succeeds (reached afterDeletion) (.run (.run 1)) (redeemed 0) ∧
    ¬ Fulfils (reached afterDeletion) (reached (afterDeletion ++ [.run (.run 1)])) (redeemed 0) ∧
    (reached (afterDeletion ++ [.run (.run 1)])).db.users.map Account.passwordHash =
      ["old password"] := by
  have hhash : (reached (afterDeletion ++ [.run (.run 1)])).db.users.map Account.passwordHash =
      ["old password"] := by
    decide +kernel
  refine ⟨⟨1, .rest (.reset (redeemed 0)) false 3, rfl, by decide +kernel, rfl⟩, ?_, hhash⟩
  intro hfulfils
  obtain ⟨u, -, -, hreplaced⟩ := hfulfils.replaced
  have hmem := List.mem_map_of_mem (f := Account.passwordHash) hreplaced
  rw [hhash] at hmem
  have hsame : "a new password" = "old password" := List.mem_singleton.mp hmem
  exact absurd hsame (by decide)

end Vussa.Accounts.Redemption
