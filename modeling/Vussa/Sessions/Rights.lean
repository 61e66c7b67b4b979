import Vussa.Accounts.Rights
import Vussa.Sessions.Endings
import Vussa.Sessions.Ownership

/-!
The rights that sessions cache. A session holds the roles and permissions its user had at the login,
and every request is judged by them. A change of the account queues an `auth.invalidate` row in its
transaction, a worker of the outbox deletes the sessions and marks the row as published, and
`delete_account` deletes the sessions itself.

The sessions are those of `Index`, command by command. A login reads the account at one point and
creates its session at a later one. A row may be taken by any number of workers, one after the other
or at once. Names, passwords and recovery tokens are no rights; `update_account` and
`change_password` write nothing else into the tables and are left out there.

* `State`, `Act`, `State.step`: tables, sessions, logins under way, rows and workers;
* `Careful`: the commands on the sessions are careful, a session is created within the rights of its
  user or before a worker has looked for the sessions, and no `delete_account` is cut short;
* `Covered`: a row or a `delete_account` under way still deletes the session;
* `careful_login`: a login that nothing interrupts is careful;
* `Guarded`, `inv_step`: every session is within the rights of its user or covered;
* `within_along`: **in a run of careful steps a session exceeds the rights of its user only while
  an invalidation of the user is not published or the user's `delete_account` is under way**;
* `lateSession_exceeds`: a login that read its account before a change and creates the session after
  the invalidation.
-/

namespace Vussa.Sessions.Rights

open Run Accounts

/-! ### The system -/

/-- The tables, Valkey with its tasks, the logins that have read an account, the rows of
`auth.invalidate` that are not published, and the workers by their tasks. -/
structure State where
  tables : Tables := {}
  sessions : Sessions.State := {}
  logins : ℕ → Option AuthUser := fun _ => none
  pending : ℕ → Option Uuid := fun _ => none
  /-- the number of the next row -/
  queued : ℕ := 0
  working : ℕ → Option ℕ := fun _ => none

/-- The moves. -/
inductive Act where
  | register (k : ℕ) (drawn : Drawn) (now : Millis) (email username password : String)
  /-- a login that its rate limits admit -/
  | login (k : ℕ) (email password : String)
  /-- `create_session` of a login or a registration -/
  | create (k : ℕ) (id : Uuid) (csrf : String)
  | change (now : Millis) (op : Change)
  | requestRecovery (now : Millis) (email token : String)
  | bootstrapAdmin (drawn : Drawn) (now : Millis) (email password : Option String)
  /-- a worker takes a row -/
  | take (k e : ℕ)
  /-- `finish_event` of a worker whose task is over -/
  | publish (k : ℕ)
  | arrive (k : ℕ) (request : Request) (header : Option String) (cookie : Uuid)
  /-- the next command of a task; for `delete_account` with its transaction -/
  | run (k : ℕ) (ids : List Uuid) (now : Millis)
  | lapse (id : Uuid)
  | abort (k : ℕ)

/-- The task is in the loop of `delete_account`, past the transaction. -/
def Task.deletesOwn : Task → Bool
  | .readOwn _ | .clear _ _ _ _ => true
  | _ => false

namespace State

variable (U : Unicode) (C : Crypto)

/-- The transaction of `delete_account` comes before the loop. -/
def tablesAfter (s : State) (k : ℕ) (next : Option Task) (now : Millis) : Tables :=
  match s.sessions.tasks k, next with
  | some (.refresh .deleteAccount _ _), some (.readOwn user) => deleteAccount now s.tables user
  | _, _ => s.tables

/-- One move; a move that does not apply leaves the state as it is. -/
def step (s : State) : Act → State
  | .register k drawn now email username password =>
      match register U C drawn now s.tables email username password with
      | .ok (t, user) =>
          { s with tables := t, logins := Function.update s.logins k (some user) }
      | .error _ => s
  | .login k email password =>
      match login U C (.ok ⟨⟩) (.ok ⟨⟩) s.tables email password with
      | .ok user => { s with logins := Function.update s.logins k (some user) }
      | .error _ => s
  | .create k id csrf =>
      match s.logins k with
      | some user =>
          { s with
            sessions := s.sessions.step U (.createSession id csrf user)
            logins := Function.update s.logins k none }
      | none => s
  | .change now op =>
      match op.run C now s.tables with
      | .ok (t, user) =>
          { s with
            tables := t, pending := Function.update s.pending s.queued (some user)
            queued := s.queued + 1 }
      | .error _ => s
  | .requestRecovery now email token =>
      match requestRecovery U C now s.tables email token with
      | .ok t => { s with tables := t }
      | .error _ => s
  | .bootstrapAdmin drawn now email password =>
      match bootstrapAdmin U C drawn now s.tables email password with
      | .ok t => { s with tables := t }
      | .error _ => s
  | .take k e =>
      match s.pending e with
      | some user =>
          if (s.sessions.tasks k).isSome ∨ (s.working k).isSome then s
          else
            { s with
              sessions := s.sessions.step U (.invalidate k user)
              working := Function.update s.working k (some e) }
      | none => s
  | .publish k =>
      match s.working k with
      | some e =>
          if (s.sessions.tasks k).isSome then s
          else
            { s with
              pending := Function.update s.pending e none
              working := Function.update s.working k none }
      | none => s
  | .arrive k request header cookie =>
      if (s.working k).isSome then s
      else { s with sessions := s.sessions.step U (.arrive k request header cookie) }
  | .run k ids now =>
      let sessions := s.sessions.step U (.run k ids)
      { s with sessions := sessions, tables := s.tablesAfter k (sessions.tasks k) now }
  | .lapse id => { s with sessions := s.sessions.step U (.lapse id) }
  | .abort k =>
      { s with
        sessions := s.sessions.step U (.abort k)
        working := Function.update s.working k none }

end State

/-! ### The property and the condition -/

/-- A row for the user of which every worker has yet to look for the sessions. -/
def Untouched (s : State) (user : Uuid) : Prop :=
  ∃ e, s.pending e = some user ∧
    ∀ k, s.working k = some e → s.sessions.tasks k = some (.readInvalid user)

/-- A careful move. -/
def Careful (s : State) : Act → Prop
  | .create k _ _ => ∀ user ∈ s.logins k, Within s.tables user ∨ Untouched s user.id
  | .run k ids _ => Sessions.Careful s.sessions (.run k ids)
  | .abort k => ∀ t ∈ s.sessions.tasks k, ¬ Task.deletesOwn t
  | _ => True

instance (s : State) (k : ℕ) (ids : List Uuid) (now : Millis) :
    Decidable (Careful s (.run k ids now)) :=
  inferInstanceAs (Decidable (Sessions.Careful s.sessions (.run k ids)))

/-- A login that creates its session at once is careful. -/
lemma careful_login (U : Unicode) (C : Crypto) {s : State} {email password : String}
    {user : AuthUser} (h : login U C (.ok ⟨⟩) (.ok ⟨⟩) s.tables email password = .ok user) (k : ℕ)
    (id : Uuid) (csrf : String) :
    Careful (s.step U C (.login k email password)) (.create k id csrf) := by
  intro found hfound
  rw [State.step, h] at hfound ⊢
  obtain rfl : user = found := by
    simpa only [Function.update_self, Option.mem_some_iff] using hfound
  exact .inl (within_login h)

/-- The task in `k` is going to delete the session. -/
def Doomed (s : Sessions.State) (k : ℕ) (id : Uuid) : Prop :=
  ∃ t, s.tasks k = some t ∧ t.Dooms s.store id

/-- The task in `k` is the loop of a `delete_account` that is going to delete the session. -/
def DoomedOwn (s : Sessions.State) (k : ℕ) (id : Uuid) : Prop :=
  ∃ t, s.tasks k = some t ∧ Task.deletesOwn t ∧ t.Dooms s.store id

/-- A row for the user all workers of which are going to delete the session, or a
`delete_account` that is. -/
def Covered (s : State) (id user : Uuid) : Prop :=
  (∃ e, s.pending e = some user ∧ ∀ k, s.working k = some e → Doomed s.sessions k id) ∨
    ∃ k, DoomedOwn s.sessions k id

/-- Every session is within the rights of its user, or covered. -/
def Guarded (s : State) : Prop :=
  ∀ id h, s.sessions.store.keys id = some h → Within s.tables h.user ∨ Covered s id h.user.id

/-! ### The commands on the sessions -/

/-- From `s` to `s'` no session comes back and none changes its user or its permissions, as far as
`known` goes. -/
def SameRights (known : Finset Uuid) (s s' : Store) : Prop :=
  ∀ id ∈ known, ∀ h', s'.keys id = some h' → ∃ h, s.keys id = some h ∧
    h.user.id = h'.user.id ∧ h.user.permissions = h'.user.permissions

/-- A task that writes back what it loaded has loaded the permissions of the session. -/
def Task.Cached (s : Store) : Task → Prop
  | .refresh _ _ session =>
      ∀ h, s.keys session.id = some h → h.user.permissions = session.user.permissions
  | .rename id user => ∀ h, s.keys id = some h → h.user.permissions = user.permissions
  | _ => True

section Commands

variable (U : Unicode) {known : Finset Uuid} {s s' : Store} {task : Task} {id : Uuid}

lemma SameRights.refl (known : Finset Uuid) (s : Store) : SameRights known s s :=
  fun _ _ h hkey => ⟨h, hkey, rfl, rfl⟩

lemma sameRights_del (s : Store) (ids : List Uuid) : SameRights known s (s.del ids) := by
  intro id _ h' hkey
  change (if id ∈ ids then none else s.keys id) = some h' at hkey
  split_ifs at hkey
  exact ⟨h', hkey, rfl, rfl⟩

lemma SameRights.permissions (h : SameRights known s s') (hid : id ∈ known) {ps : List Permission}
    (hps : ∀ hash, s.keys id = some hash → hash.user.permissions = ps) :
    ∀ hash, s'.keys id = some hash → hash.user.permissions = ps := by
  intro h' hkey
  obtain ⟨hash, hold, -, hperms⟩ := h id hid h' hkey
  exact hperms.symm.trans (hps hash hold)

/-- What a task has loaded stays so while the others move. -/
lemma Task.Cached.mono (h : Task.Cached s task) (hsound : task.Sound known s)
    (hsame : SameRights known s s') : Task.Cached s' task := by
  cases task with
  | refresh request header session => exact hsame.permissions hsound.2.1 h
  | rename id user => exact hsame.permissions hsound.1 h
  | _ => trivial

/-- A careful command keeps the rights of every session. -/
lemma exec_sameRights (ids : List Uuid) (hsound : task.Sound known s) (hcached : Task.Cached s task)
    (hc : task.Careful s) : SameRights known s (s.exec U ids task).1 := by
  cases task with
  | load request header id =>
      rw [Store.exec]
      split <;> exact SameRights.refl _ _
  | refresh request header session =>
      intro i _ h' hkey
      by_cases hi : i = session.id
      · subst hi
        simp only [Store.exec, Store.expire, Function.update_self, Option.map_eq_some_iff] at hkey
        obtain ⟨h, hsome, rfl⟩ := hkey
        exact ⟨h, hsome, rfl, rfl⟩
      · simp only [Store.exec, Store.expire, Function.update_of_ne hi] at hkey
        exact ⟨h', hkey, rfl, rfl⟩
  | rename id user =>
      intro i _ h' hkey
      by_cases hi : i = id
      · subst hi
        obtain ⟨h, hh⟩ := Option.isSome_iff_exists.mp hc
        have huser : h'.user = user := s.hsetUser_user hkey
        exact ⟨h, hh, huser ▸ hsound.2 h hh, huser ▸ hcached h hh⟩
      · simp only [Store.exec, Store.hsetUser, Function.update_of_ne hi] at hkey
        exact ⟨h', hkey, rfl, rfl⟩
  | check user id rest | readOthers session | readListed user | readOwn user | readInvalid user =>
      rw [Store.exec]
      split_ifs <;> exact SameRights.refl _ _
  | remove user id rest => exact sameRights_del s [id]
  | clear user read id rest => exact sameRights_del s [id]
  | clearAll user read => exact sameRights_del s read
  | unlist user id rest | drop user id rest => exact SameRights.refl _ _
  | close user read => exact SameRights.refl _ _

lemma cached_removeEach {user : Uuid} {rest : List Uuid} :
    ∀ t ∈ Task.removeEach user rest, Task.Cached s t := by
  intro t ht
  cases rest with
  | nil => cases ht
  | cons id rest =>
      obtain rfl := Option.some.inj ht
      trivial

lemma cached_checkEach {user : Uuid} {rest : List Uuid} :
    ∀ t ∈ Task.checkEach user rest, Task.Cached s t := by
  intro t ht
  cases rest with
  | nil => cases ht
  | cons id rest =>
      obtain rfl := Option.some.inj ht
      trivial

lemma cached_clearEach {user : Uuid} {read rest : List Uuid} :
    Task.Cached s (Task.clearEach user read rest) := by
  cases rest <;> trivial

/-- What a request does next has the permissions it loaded. -/
lemma cached_next {request : Request} {header : Option String} {session : Session}
    (h : ∀ hash, s.keys session.id = some hash →
      hash.user.permissions = session.user.permissions) :
    ∀ t ∈ orEnd (request.next U header session), Task.Cached s t := by
  intro t ht
  have hok := mem_orEnd.mp ht
  cases request with
  | other => cases Except.ok.inj hok
  | listSessions =>
      obtain rfl := Option.some.inj (Except.ok.inj hok)
      trivial
  | logout | changePassword | deleteAccount =>
      obtain ⟨-, -, hok⟩ := Effect.bind_eq_ok hok
      obtain rfl := Option.some.inj (Except.ok.inj hok)
      trivial
  | revokeSession id =>
      obtain ⟨-, -, hok⟩ := Effect.bind_eq_ok hok
      split_ifs at hok
      obtain rfl := Option.some.inj (Except.ok.inj hok)
      trivial
  | updateAccount username =>
      obtain ⟨-, -, hok⟩ := Effect.bind_eq_ok hok
      obtain ⟨-, -, hok⟩ := Effect.bind_eq_ok hok
      obtain rfl := Option.some.inj (Except.ok.inj hok)
      exact h

/-- A command leaves its task with what it loaded. -/
lemma exec_cached (ids : List Uuid) (hsound : task.Sound known s) (hcached : Task.Cached s task)
    (hc : task.Careful s) : ∀ t ∈ (s.exec U ids task).2, Task.Cached (s.exec U ids task).1 t := by
  have hsame := exec_sameRights U ids hsound hcached hc
  cases task with
  | load request header id =>
      rw [Store.exec]
      split
      next csrf user expires hkey =>
        intro t ht
        obtain rfl := Option.some.inj ht
        intro h hh
        obtain rfl := Option.some.inj (hkey.symm.trans hh)
        rfl
      next =>
        intro t ht
        cases ht
  | refresh request header session =>
      exact cached_next U (hsame.permissions hsound.2.1 hcached)
  | remove user id rest =>
      intro t ht
      obtain rfl := Option.some.inj ht
      trivial
  | unlist user id rest => exact cached_removeEach
  | check user id rest =>
      rw [Store.exec]
      split_ifs
      · exact cached_checkEach
      · intro t ht
        obtain rfl := Option.some.inj ht
        trivial
  | drop user id rest => exact cached_checkEach
  | rename id user =>
      intro t ht
      cases ht
  | readOthers session =>
      rw [Store.exec]
      split_ifs
      · exact cached_removeEach
      · intro t ht
        obtain rfl := Option.some.inj ht
        trivial
  | readListed user =>
      rw [Store.exec]
      split_ifs
      · exact cached_checkEach
      · intro t ht
        obtain rfl := Option.some.inj ht
        trivial
  | readOwn user =>
      rw [Store.exec]
      split_ifs
      · intro t ht
        obtain rfl := Option.some.inj ht
        exact cached_clearEach
      · intro t ht
        obtain rfl := Option.some.inj ht
        trivial
  | readInvalid user =>
      rw [Store.exec]
      split_ifs
      all_goals
        intro t ht
        obtain rfl := Option.some.inj ht
        trivial
  | clear user read id rest =>
      intro t ht
      obtain rfl := Option.some.inj ht
      exact cached_clearEach
  | clearAll user read =>
      intro t ht
      obtain rfl := Option.some.inj ht
      trivial
  | close user read =>
      intro t ht
      cases ht

/-- The loop of `delete_account` goes on in its next task, or there is nothing more to delete. -/
lemma exec_deletesOwn (ids : List Uuid) (h : Task.deletesOwn task) {t : Task}
    (ht : (s.exec U ids task).2 = some t) (hd : t.Dooms (s.exec U ids task).1 id) :
    Task.deletesOwn t := by
  have heach : ∀ {s : Store} {user : Uuid} {read rest : List Uuid},
      (Task.clearEach user read rest).Dooms s id →
        Task.deletesOwn (Task.clearEach user read rest) := by
    intro s user read rest hd
    cases rest with
    | nil => exact hd.elim
    | cons first rest => rfl
  cases task with
  | readOwn user =>
      rw [Store.exec] at ht hd
      split_ifs at ht hd
      · obtain rfl := Option.some.inj ht
        exact heach hd
      · obtain rfl := Option.some.inj ht
        rfl
  | clear user read first rest =>
      obtain rfl := Option.some.inj ht
      exact heach hd
  | _ => cases h

end Commands

/-! ### The moves on the sessions -/

/-- Every task has the permissions of the session it loaded. -/
def AllCached (s : Sessions.State) : Prop := ∀ k, ∀ t ∈ s.tasks k, Task.Cached s.store t

section Moves

variable (U : Unicode) {s : Sessions.State} {a : Sessions.Act} {id : Uuid} {k : ℕ}

/-- A new session leaves the ones there are. -/
lemma sameRights_create {known : Finset Uuid} (s : Store) (hid : id ∉ known) (csrf : String)
    (user : AuthUser) : SameRights known s (s.create id csrf user) := by
  intro i hi h' hkey
  have hne : i ≠ id := fun h => hid (h ▸ hi)
  simp only [Store.create, Function.update_of_ne hne] at hkey
  exact ⟨h', hkey, rfl, rfl⟩

/-- A careful move keeps the rights of the sessions there are. -/
lemma sameRights_step (h : Tidy s) (hcached : AllCached s) (hc : Sessions.Careful s a) :
    SameRights s.known s.store (s.step U a).store := by
  cases a with
  | createSession id csrf user =>
      rw [Sessions.State.step]
      split_ifs with hid
      · exact SameRights.refl _ _
      · exact sameRights_create s.store hid csrf user
  | lapse id =>
      rw [Sessions.State.step]
      split_ifs
      · exact sameRights_del s.store [id]
      · exact SameRights.refl _ _
  | arrive k request header cookie =>
      rw [Sessions.State.step, Sessions.State.spawn_store]
      exact SameRights.refl _ _
  | invalidate k user =>
      rw [Sessions.State.step, Sessions.State.spawn_store]
      exact SameRights.refl _ _
  | run k ids =>
      rw [Sessions.State.step]
      cases htask : s.tasks k with
      | none => exact SameRights.refl _ _
      | some task =>
          exact exec_sameRights U ids (h.sound k task htask) (hcached k task htask) (hc task htask)
  | abort k => exact SameRights.refl _ _

/-- The tasks after a move: each is as it was, has run its next command, or is new in its place. -/
lemma task_step {t : Task} (ht : (s.step U a).tasks k = some t) :
    s.tasks k = some t ∨
      (∃ ids task, a = .run k ids ∧ s.tasks k = some task ∧ (s.store.exec U ids task).2 = some t) ∨
      (s.tasks k = none ∧ ∀ store, Task.Cached store t) := by
  have hspawn : ∀ {j : ℕ} {task : Task} {named : Finset Uuid},
      (s.spawn j task named).tasks k = some t →
        s.tasks k = some t ∨ (s.tasks k = none ∧ task = t) := by
    intro j task named ht
    rw [Sessions.State.spawn] at ht
    split_ifs at ht with hfree
    · exact .inl ht
    · by_cases hj : k = j
      · subst hj
        simp only [Function.update_self, Option.some.injEq] at ht
        exact .inr ⟨Option.not_isSome_iff_eq_none.mp hfree, ht⟩
      · simp only [Function.update_of_ne hj] at ht
        exact .inl ht
  cases a with
  | createSession id csrf user =>
      rw [Sessions.State.step] at ht
      split_ifs at ht <;> exact .inl ht
  | lapse id =>
      rw [Sessions.State.step] at ht
      split_ifs at ht <;> exact .inl ht
  | arrive j request header cookie =>
      rcases hspawn ht with hold | ⟨hnone, rfl⟩
      · exact .inl hold
      · exact .inr (.inr ⟨hnone, fun _ => trivial⟩)
  | invalidate j user =>
      rcases hspawn ht with hold | ⟨hnone, rfl⟩
      · exact .inl hold
      · exact .inr (.inr ⟨hnone, fun _ => trivial⟩)
  | run j ids =>
      rw [Sessions.State.step] at ht
      cases htask : s.tasks j with
      | none =>
          simp only [htask] at ht
          exact .inl ht
      | some task =>
          simp only [htask] at ht
          by_cases hj : k = j
          · subst hj
            rw [Function.update_self] at ht
            exact .inr (.inl ⟨ids, task, rfl, htask, ht⟩)
          · rw [Function.update_of_ne hj] at ht
            exact .inl ht
  | abort j =>
      by_cases hj : k = j
      · subst hj
        simp only [Sessions.State.step, Function.update_self] at ht
        cases ht
      · simp only [Sessions.State.step, Function.update_of_ne hj] at ht
        exact .inl ht

lemma allCached_step (h : Tidy s) (hcached : AllCached s) (hc : Sessions.Careful s a) :
    AllCached (s.step U a) := by
  intro k t ht
  have hsame := sameRights_step U h hcached hc
  rcases task_step U ht with hold | ⟨ids, task, rfl, htask, hnext⟩ | ⟨-, hnew⟩
  · exact (hcached k t hold).mono (h.sound k t hold) hsame
  · have hexec := exec_cached U ids (h.sound k task htask) (hcached k task htask) (hc task htask)
    have hstore : (s.step U (.run k ids)).store = (s.store.exec U ids task).1 := by
      rw [Sessions.State.step, htask]
    exact hstore ▸ hexec t hnext
  · exact hnew _

/-- A session that a task is going to delete waits for it or is gone. -/
lemma doomed_step (h : Tidy s) (hc : Sessions.Careful s a) (ha : a ≠ .abort k) (hid : id ∈ s.known)
    (hd : Doomed s k id) : (s.step U a).store.keys id = none ∨ Doomed (s.step U a) k id :=
  (Ending.step U h hc ha ⟨hid, .inr hd⟩).2

/-- The same for the loop of `delete_account`. -/
lemma doomedOwn_step (h : Tidy s) (hc : Sessions.Careful s a) (ha : a ≠ .abort k)
    (hid : id ∈ s.known) (hd : DoomedOwn s k id) :
    (s.step U a).store.keys id = none ∨ DoomedOwn (s.step U a) k id := by
  obtain ⟨t, ht, hown, hdooms⟩ := hd
  rcases doomed_step U h hc ha hid ⟨t, ht, hdooms⟩ with hnone | ⟨t', ht', hdooms'⟩
  · exact .inl hnone
  refine .inr ⟨t', ht', ?_, hdooms'⟩
  rcases task_step U ht' with hold | ⟨ids, task, rfl, htask, hnext⟩ | ⟨hnone, -⟩
  · obtain rfl := Option.some.inj (ht.symm.trans hold)
    exact hown
  · obtain rfl := Option.some.inj (ht.symm.trans htask)
    have hstore : (s.step U (.run k ids)).store = (s.store.exec U ids t).1 := by
      rw [Sessions.State.step, ht]
    exact exec_deletesOwn U ids hown hnext (hstore ▸ hdooms')
  · rw [ht] at hnone
    cases hnone

end Moves

/-! ### The moves of the system -/

/-- The invariant: the sessions are tidy, a task has the permissions of its session, the numbers of
the rows and those that workers have are below the next one, and the property. -/
structure Inv (s : State) : Prop where
  tidy : Tidy s.sessions
  cached : AllCached s.sessions
  pending : ∀ e, (s.pending e).isSome → e < s.queued
  working : ∀ k e, s.working k = some e → e < s.queued
  guarded : Guarded s

section Steps

variable {s s' : State} {a : Sessions.Act} {id user : Uuid}
  {h' : SessionHash}

/-- But for a creation, a move finds the sessions that it leaves. -/
lemma known_of_key (U : Unicode) (h : Tidy s.sessions) (hc : Sessions.Careful s.sessions a)
    (hnew : ∀ id csrf user, a ≠ .createSession id csrf user)
    (hkey : (s.sessions.step U a).store.keys id = some h') : id ∈ s.sessions.known := by
  cases a with
  | createSession i csrf user => exact absurd rfl (hnew i csrf user)
  | lapse i =>
      rw [Sessions.State.step] at hkey
      split_ifs at hkey
      · obtain ⟨hash, hold, -⟩ := s.sessions.store.follows_del [i] id h' hkey
        exact h.keys_known id hash hold
      · exact h.keys_known id h' hkey
  | arrive k request header cookie =>
      rw [Sessions.State.step, Sessions.State.spawn_store] at hkey
      exact h.keys_known id h' hkey
  | invalidate k user =>
      rw [Sessions.State.step, Sessions.State.spawn_store] at hkey
      exact h.keys_known id h' hkey
  | run k ids =>
      rw [Sessions.State.step] at hkey
      cases htask : s.sessions.tasks k with
      | none =>
          simp only [htask] at hkey
          exact h.keys_known id h' hkey
      | some task =>
          simp only [htask] at hkey
          obtain ⟨hash, hold, -⟩ :=
            exec_follows U ids (h.sound k task htask) (hc task htask) id h' hkey
          exact h.keys_known id hash hold
  | abort k => exact h.keys_known id h' hkey

/-- A move on the sessions that takes no row and no worker from a row leaves the sessions that were
there covered. -/
lemma Covered.move (U : Unicode) (hinv : Inv s) (hc : Sessions.Careful s.sessions a)
    (hs : s'.sessions = s.sessions.step U a) (hpending : s'.pending = s.pending)
    (hworking : ∀ k e, s'.working k = some e → s.working k = some e ∧ a ≠ .abort k)
    (hown : ∀ k, a = .abort k → ∀ t ∈ s.sessions.tasks k, ¬ Task.deletesOwn t)
    (hkey : s'.sessions.store.keys id = some h') (hid : id ∈ s.sessions.known)
    (hcovered : Covered s id user) : Covered s' id user := by
  have hthere : (s.sessions.step U a).store.keys id ≠ none := by
    rw [← hs, hkey]
    exact Option.some_ne_none h'
  rcases hcovered with ⟨e, he, hdoomed⟩ | ⟨k, hdoomed⟩
  · refine .inl ⟨e, hpending ▸ he, fun k hk => ?_⟩
    obtain ⟨hk', ha⟩ := hworking k e hk
    rw [hs]
    exact (doomed_step U hinv.tidy hc ha hid (hdoomed k hk')).resolve_left hthere
  · refine .inr ⟨k, ?_⟩
    have ha : a ≠ .abort k := by
      obtain ⟨t, ht, hdeletes, -⟩ := hdoomed
      exact fun ha => hown k ha t ht hdeletes
    rw [hs]
    exact (doomedOwn_step U hinv.tidy hc ha hid hdoomed).resolve_left hthere

/-- After such a move a session that was there is within the rights its user had, or covered. -/
lemma Guarded.move (U : Unicode) (s : State) (hinv : Inv s) (hc : Sessions.Careful s.sessions a)
    (hs : s'.sessions = s.sessions.step U a) (hpending : s'.pending = s.pending)
    (hworking : ∀ k e, s'.working k = some e → s.working k = some e ∧ a ≠ .abort k)
    (hown : ∀ k, a = .abort k → ∀ t ∈ s.sessions.tasks k, ¬ Task.deletesOwn t)
    (hkey : s'.sessions.store.keys id = some h') (hid : id ∈ s.sessions.known) :
    Within s.tables h'.user ∨ Covered s' id h'.user.id := by
  obtain ⟨h, hold, huser, hperms⟩ :=
    sameRights_step U hinv.tidy hinv.cached hc id hid h' (hs ▸ hkey)
  refine (hinv.guarded id h hold).imp (fun hw => hw.congr huser hperms) fun hcovered => ?_
  exact (huser ▸ hcovered).move U hinv hc hs hpending hworking hown hkey hid

/-- The sessions, rows and workers stay, and no user but those of new rows loses rights. -/
lemma Guarded.tables (hinv : Inv s) (hs : s'.sessions = s.sessions)
    (hpending : ∀ e u, s.pending e = some u → s'.pending e = some u)
    (hworking : s'.working = s.working)
    (htables : ∀ a, Within s.tables a → Within s'.tables a ∨
      ∃ e, s'.pending e = some a.id ∧ ∀ k, s'.working k ≠ some e) : Guarded s' := by
  intro id h hkey
  rw [hs] at hkey
  rcases hinv.guarded id h hkey with hw | ⟨e, he, hdoomed⟩ | ⟨k, hdoomed⟩
  · refine (htables h.user hw).imp_right fun ⟨e, he, hfree⟩ => .inl ⟨e, he, fun k hk => ?_⟩
    exact absurd hk (hfree k)
  · refine .inr (.inl ⟨e, hpending e _ he, fun k hk => ?_⟩)
    rw [hs]
    exact hdoomed k (hworking ▸ hk)
  · refine .inr (.inr ⟨k, ?_⟩)
    rw [hs]
    exact hdoomed

lemma tablesAfter_cases (s : State) (k : ℕ) (next : Option Task) (now : Millis) :
    s.tablesAfter k next now = s.tables ∨
      ∃ user, next = some (.readOwn user) ∧
        s.tablesAfter k next now = deleteAccount now s.tables user := by
  unfold State.tablesAfter
  split
  · exact .inr ⟨_, rfl, rfl⟩
  · exact .inl rfl

end Steps

section Moves

variable (U : Unicode) (C : Crypto) {s : State}

/-- A session is created within the rights of its user, or before a worker has looked. -/
lemma inv_create (hinv : Inv s) {k : ℕ} {id : Uuid} {csrf : String}
    (hc : Careful s (.create k id csrf)) : Inv (s.step U C (.create k id csrf)) := by
  rw [State.step]
  split
  swap
  · exact hinv
  rename_i user huser
  have hsessions : Sessions.Careful s.sessions (.createSession id csrf user) := trivial
  refine ⟨hinv.tidy.step U _ hsessions, allCached_step U hinv.tidy hinv.cached hsessions,
    hinv.pending, hinv.working, fun i h' hkey => ?_⟩
  by_cases hi : i ∈ s.sessions.known
  · exact Guarded.move U s hinv hsessions rfl rfl (fun _ _ h => ⟨h, by simp⟩) (by simp) hkey hi
  -- the session is the new one
  have hstep : s.sessions.step U (.createSession id csrf user) = if id ∈ s.sessions.known then
      s.sessions else { s.sessions with
        store := s.sessions.store.create id csrf user, known := insert id s.sessions.known } := rfl
  simp only [hstep] at hkey ⊢
  split_ifs at hkey with hid
  · exact absurd (hinv.tidy.keys_known i h' hkey) hi
  · have heq : i = id := by
      by_contra hne
      simp only [Store.create, Function.update_of_ne hne] at hkey
      exact hi (hinv.tidy.keys_known i h' hkey)
    subst heq
    have hhash : h'.user = user := by
      simp only [Store.create, Function.update_self, Option.some.injEq] at hkey
      rw [← hkey]
    rw [hhash, if_neg hid]
    refine (hc user huser).imp_right fun huntouched => .inl ?_
    obtain ⟨e, he, hread⟩ := huntouched
    refine ⟨e, he, fun j hj => ?_⟩
    exact ⟨_, hread j hj, h', hkey, congrArg AuthUser.id hhash⟩

/-- A change takes rights from the user of its row only. -/
lemma inv_change (hinv : Inv s) (now : Millis) (op : Change) :
    Inv (s.step U C (.change now op)) := by
  rw [State.step]
  split
  swap
  · exact hinv
  rename_i t user hok
  refine ⟨hinv.tidy, hinv.cached, fun e he => ?_,
    fun k e hk => (hinv.working k e hk).trans (Nat.lt_succ_self _), ?_⟩
  · by_cases hq : e = s.queued
    · exact hq ▸ Nat.lt_succ_self _
    · simp only [Function.update_of_ne hq] at he
      exact (hinv.pending e he).trans (Nat.lt_succ_self _)
  refine Guarded.tables hinv rfl (fun e u he => ?_) rfl fun a ha => ?_
  · have hq : e ≠ s.queued := (hinv.pending e (he ▸ rfl)).ne
    exact (Function.update_of_ne hq _ _).trans he
  · by_cases hua : a.id = user
    · refine .inr ⟨s.queued, ?_, fun k hk => absurd (hinv.working k _ hk) (lt_irrefl _)⟩
      rw [hua]
      exact Function.update_self ..
    · exact .inl (run_sparesOthers hok a hua ha)

/-- A worker begins with all sessions of the user before it. -/
lemma inv_take (hinv : Inv s) (k e : ℕ) : Inv (s.step U C (.take k e)) := by
  rw [State.step]
  split
  swap
  · exact hinv
  rename_i user hpending
  split_ifs with hbusy
  · exact hinv
  rw [not_or, Option.not_isSome_iff_eq_none, Option.not_isSome_iff_eq_none] at hbusy
  have hsessions : Sessions.Careful s.sessions (.invalidate k user) := trivial
  have hstore : (s.sessions.step U (.invalidate k user)).store = s.sessions.store :=
    Sessions.State.spawn_store _ _ _ _
  have htasks : (s.sessions.step U (.invalidate k user)).tasks =
      Function.update s.sessions.tasks k (some (.readInvalid user)) := by
    rw [Sessions.State.step, Sessions.State.spawn, hbusy.1]
    rfl
  refine ⟨hinv.tidy.step U _ hsessions, allCached_step U hinv.tidy hinv.cached hsessions,
    hinv.pending, fun j e' hj => ?_, fun id h' hkey => ?_⟩
  · by_cases hjk : j = k
    · subst hjk
      simp only [Function.update_self, Option.some.injEq] at hj
      exact hj ▸ hinv.pending e (hpending ▸ rfl)
    · simp only [Function.update_of_ne hjk] at hj
      exact hinv.working j e' hj
  have hold : s.sessions.store.keys id = some h' := hstore ▸ hkey
  have hother : ∀ j, j ≠ k → Doomed s.sessions j id →
      Doomed (s.sessions.step U (.invalidate k user)) j id := by
    rintro j hjk ⟨t, ht, hd⟩
    refine ⟨t, ?_, hstore ▸ hd⟩
    rw [htasks, Function.update_of_ne hjk]
    exact ht
  refine (hinv.guarded id h' hold).imp_right ?_
  rintro (⟨e', he', hdoomed⟩ | ⟨j, t, ht, hown, hd⟩)
  · refine .inl ⟨e', he', fun j hj => ?_⟩
    by_cases hjk : j = k
    · subst hjk
      simp only [Function.update_self, Option.some.injEq] at hj
      subst hj
      obtain rfl := Option.some.inj (hpending.symm.trans he')
      refine ⟨.readInvalid h'.user.id, ?_, h', hkey, rfl⟩
      rw [htasks, Function.update_self]
    · simp only [Function.update_of_ne hjk] at hj
      exact hother j hjk (hdoomed j hj)
  · have hjk : j ≠ k := by
      rintro rfl
      rw [hbusy.1] at ht
      cases ht
    refine .inr ⟨j, t, ?_, hown, hstore ▸ hd⟩
    rw [htasks, Function.update_of_ne hjk]
    exact ht

/-- A worker whose task is over has nothing more to delete. -/
lemma inv_publish (hinv : Inv s) (k : ℕ) : Inv (s.step U C (.publish k)) := by
  rw [State.step]
  split
  swap
  · exact hinv
  rename_i e hworking
  split_ifs with hbusy
  · exact hinv
  have hsub : ∀ j e', Function.update s.working k none j = some e' → s.working j = some e' := by
    intro j e' hj
    by_cases hjk : j = k
    · subst hjk
      rw [Function.update_self] at hj
      cases hj
    · rwa [Function.update_of_ne hjk] at hj
  refine ⟨hinv.tidy, hinv.cached, fun e' he' => ?_, fun j e' hj => hinv.working j e' (hsub j e' hj),
    fun id h hkey => ?_⟩
  · by_cases hee : e' = e
    · subst hee
      simp only [Function.update_self] at he'
      cases he'
    · simp only [Function.update_of_ne hee] at he'
      exact hinv.pending e' he'
  refine (hinv.guarded id h hkey).imp_right ?_
  rintro (⟨e', he', hdoomed⟩ | hown)
  · have hee : e' ≠ e := by
      rintro rfl
      obtain ⟨t, ht, -⟩ := hdoomed k hworking
      rw [ht] at hbusy
      exact hbusy rfl
    exact .inl ⟨e', (Function.update_of_ne hee _ _).trans he',
      fun j hj => hdoomed j (hsub j e' hj)⟩
  · exact .inr hown

/-- The transaction of `delete_account` comes before its loop over all sessions of the user. -/
lemma inv_run (hinv : Inv s) {k : ℕ} {ids : List Uuid} {now : Millis}
    (hc : Careful s (.run k ids now)) : Inv (s.step U C (.run k ids now)) := by
  rw [State.step]
  have hsessions : Sessions.Careful s.sessions (.run k ids) := hc
  refine ⟨hinv.tidy.step U _ hsessions, allCached_step U hinv.tidy hinv.cached hsessions,
    hinv.pending, hinv.working, fun id h' hkey => ?_⟩
  have hid := known_of_key U hinv.tidy hsessions (by simp) hkey
  have hmoved : Within s.tables h'.user ∨ Covered (s.step U C (.run k ids now)) id h'.user.id :=
    Guarded.move U s hinv hsessions rfl rfl (fun _ _ h => ⟨h, by simp⟩) (by simp) hkey hid
  rcases hmoved with hw | hcovered
  swap
  · exact .inr hcovered
  rcases tablesAfter_cases s k ((s.sessions.step U (.run k ids)).tasks k) now with
    hsame | ⟨user, hnext, hdeleted⟩
  · exact .inl (by rwa [hsame])
  · by_cases hu : h'.user.id = user
    · exact .inr (.inr ⟨k, .readOwn user, hnext, rfl, h', hkey, hu⟩)
    · refine .inl ?_
      rw [hdeleted]
      exact sparesOthers_deleteAccount user h'.user hu hw

/-- A worker that ends early leaves its row to others. -/
lemma inv_abort (hinv : Inv s) {k : ℕ} (hc : Careful s (.abort k)) :
    Inv (s.step U C (.abort k)) := by
  rw [State.step]
  have hsessions : Sessions.Careful s.sessions (.abort k) := trivial
  have hsub : ∀ j e, Function.update s.working k none j = some e →
      s.working j = some e ∧ j ≠ k := by
    intro j e hj
    by_cases hjk : j = k
    · subst hjk
      rw [Function.update_self] at hj
      cases hj
    · exact ⟨by rwa [Function.update_of_ne hjk] at hj, hjk⟩
  refine ⟨hinv.tidy.step U _ hsessions, allCached_step U hinv.tidy hinv.cached hsessions,
    hinv.pending, fun j e hj => hinv.working j e (hsub j e hj).1, fun id h' hkey => ?_⟩
  have hid := known_of_key U hinv.tidy hsessions (by simp) hkey
  refine Guarded.move U s hinv hsessions rfl rfl (fun j e hj => ?_) (fun j hj => ?_) hkey hid
  · refine ⟨(hsub j e hj).1, fun heq => (hsub j e hj).2 ?_⟩
    exact (Sessions.Act.abort.inj heq).symm
  · obtain rfl := Sessions.Act.abort.inj hj
    exact hc

/-- **A careful move keeps the invariant.** -/
lemma inv_step (hinv : Inv s) (a : Act) (hc : Careful s a) : Inv (s.step U C a) := by
  cases a with
  | register k drawn now email username password =>
      rw [State.step]
      split
      · rename_i t user hok
        exact ⟨hinv.tidy, hinv.cached, hinv.pending, hinv.working,
          Guarded.tables hinv rfl (fun _ _ h => h) rfl fun a ha => .inl (keeps_register hok a ha)⟩
      · exact hinv
  | login k email password =>
      rw [State.step]
      split
      · exact ⟨hinv.tidy, hinv.cached, hinv.pending, hinv.working, hinv.guarded⟩
      · exact hinv
  | create k id csrf => exact inv_create U C hinv hc
  | change now op => exact inv_change U C hinv now op
  | requestRecovery now email token =>
      rw [State.step]
      split
      · rename_i t hok
        exact ⟨hinv.tidy, hinv.cached, hinv.pending, hinv.working,
          Guarded.tables hinv rfl (fun _ _ h => h) rfl fun a ha =>
            .inl (keeps_requestRecovery hok a ha)⟩
      · exact hinv
  | bootstrapAdmin drawn now email password =>
      rw [State.step]
      split
      · rename_i t hok
        exact ⟨hinv.tidy, hinv.cached, hinv.pending, hinv.working,
          Guarded.tables hinv rfl (fun _ _ h => h) rfl fun a ha =>
            .inl (keeps_bootstrapAdmin hok a ha)⟩
      · exact hinv
  | take k e => exact inv_take U C hinv k e
  | publish k => exact inv_publish U C hinv k
  | arrive k request header cookie =>
      rw [State.step]
      split
      · exact hinv
      · have hsessions : Sessions.Careful s.sessions (.arrive k request header cookie) := trivial
        refine ⟨hinv.tidy.step U _ hsessions, allCached_step U hinv.tidy hinv.cached hsessions,
          hinv.pending, hinv.working, fun id h' hkey => ?_⟩
        have hid := known_of_key U hinv.tidy hsessions (by simp) hkey
        exact Guarded.move U s hinv hsessions rfl rfl (fun _ _ h => ⟨h, by simp⟩) (by simp) hkey hid
  | run k ids now => exact inv_run U C hinv hc
  | lapse id =>
      have hsessions : Sessions.Careful s.sessions (.lapse id) := trivial
      refine ⟨hinv.tidy.step U _ hsessions, allCached_step U hinv.tidy hinv.cached hsessions,
        hinv.pending, hinv.working, fun i h' hkey => ?_⟩
      have hid := known_of_key U hinv.tidy hsessions (by simp) hkey
      exact Guarded.move U s hinv hsessions rfl rfl (fun _ _ h => ⟨h, by simp⟩) (by simp) hkey hid
  | abort k => exact inv_abort U C hinv hc

end Moves

/-! ### Runs -/

lemma inv_start (tables : Tables) : Inv { tables := tables } where
  tidy := tidy_start
  cached _ _ ht := nomatch ht
  pending _ he := nomatch he
  working _ _ hk := nomatch hk
  guarded _ _ hkey := nomatch hkey

/-- **Cached rights**: after a run of careful steps a session is within the rights that its user has
in the tables, or an invalidation of the user is queued and not published, or the session is one
that a `delete_account` under way is going to delete. -/
theorem within_along (U : Unicode) (C : Crypto) (tables : Tables) {as : List Act} {s : State}
    (h : Along (State.step U C) Careful { tables := tables } as)
    (hs : final (State.step U C) { tables := tables } as = s) {id : Uuid} {hash : SessionHash}
    (hkey : s.sessions.store.keys id = some hash) :
    Within s.tables hash.user ∨ (∃ e, s.pending e = some hash.user.id) ∨
      ∃ k, DoomedOwn s.sessions k id := by
  have hinv : Inv s := by
    rw [← hs]
    exact Along.invariant (I := Inv) (fun _ a hinv hc => inv_step U C hinv a hc)
      (inv_start tables) h
  refine (hinv.guarded id hash hkey).imp_right ?_
  rintro (⟨e, he, -⟩ | hown)
  · exact .inl ⟨e, he⟩
  · exact .inr hown

/-- A moderator and an administrator. -/
def staff : Tables where
  users :=
    [{ id := 1, email := "a@x", username := "ada", passwordHash := "#pass", createdAt := 1,
       updatedAt := 1 }]
  roles := ["user", "moderator"]
  rolePermissions := [("user", .chatWrite), ("moderator", .chatModerate)]
  userRoles := [(1, "user"), (1, "moderator")]

/-- The administrator. -/
def boss : AuthUser :=
  { id := 2, email := "b@x", username := "boss", roles := ["admin"], permissions := [.rolesWrite] }

/-- A moderator logs in, loses the role, has the session invalidated and logs in again. -/
def demotion : List Act :=
  [.login 0 "ada" "pass", .create 0 11 "c", .change 5 (.removeRole boss 1 "moderator"), .take 0 0,
    .run 0 [11] 5, .run 0 [] 5, .run 0 [] 5, .publish 0, .login 1 "ada" "pass", .create 1 12 "d"]

/-- The state after `demotion`. -/
def demoted : State := final (State.step .ascii plainCrypto) { tables := staff } demotion

/-- A login that read the account before the change. -/
def lateSession : List Act :=
  [.login 0 "ada" "pass", .change 5 (.removeRole boss 1 "moderator"), .take 1 0, .run 1 [] 5,
    .run 1 [] 5, .publish 1, .create 0 11 "c"]

/-- The state after `lateSession`. -/
def late : State := final (State.step .ascii plainCrypto) { tables := staff } lateSession

theorem within_along_demotion : ∃ hash, demoted.sessions.store.keys 12 = some hash ∧
    (Within demoted.tables hash.user ∨ (∃ e, demoted.pending e = some hash.user.id) ∨
      ∃ k, DoomedOwn demoted.sessions k 12) := by
  have hcareful : Along (State.step .ascii plainCrypto) Careful { tables := staff } demotion := by
    refine ⟨trivial, ?_, trivial, trivial, ?_, ?_, ?_, trivial, trivial, ?_, trivial⟩
    · exact fun user huser => .inl (by decide +kernel +revert)
    · decide +kernel
    · decide +kernel
    · decide +kernel
    · exact fun user huser => .inl (by decide +kernel +revert)
  have hkey : demoted.sessions.store.keys 12 = some
      { csrf := some "d", expires := true, user :=
          { id := 1, email := "a@x", username := "ada", roles := ["user"]
            permissions := [.chatWrite] } } := by
    decide +kernel
  exact ⟨_, hkey, within_along .ascii plainCrypto staff hcareful rfl hkey⟩

/-- **A late session exceeds the rights of its user**: the login read the account with the role that
is taken, no row is left to delete the session, and the session still moderates. -/
theorem lateSession_exceeds : (∀ e < late.queued, late.pending e = none) ∧
    ∃ hash, late.sessions.store.keys 11 = some hash ∧
      .chatModerate ∈ hash.user.permissions ∧ ¬ Within late.tables hash.user := by
  refine ⟨by decide +kernel, { csrf := some "c", expires := true, user :=
    { id := 1, email := "a@x", username := "ada", roles := ["user", "moderator"]
      permissions := [.chatWrite, .chatModerate] } }, ?_, ?_, ?_⟩
  · decide +kernel
  · decide +kernel
  · decide +kernel

end Vussa.Sessions.Rights
