import Vussa.Accounts.Identifiers
import Vussa.Sessions.Index

/-!
`change_password` against the renaming of accounts (`api/account.rs`, `repository/postgres.rs`). The
current password is verified against the row that the username of the session finds, and the new one
is stored under the identifier of the session. The username is the one the session was created with,
or that `update_account` has written into this session; the other sessions of the user keep the old
one, which another user may take.

A transaction, a query and a command of Valkey is one step each, and any number of requests are
under way. A session may end at any time: by a logout, by its time to live, by another change of the
password. Rate limits, audit rows and times to live are left out.

* `Request`, `Task`, `Task.exec`, `State.step`: the requests and their steps;
* `OwnVerified`: a current password that is accepted is that of the user of the session;
* `Careful`: no user takes a name that is cached for another one;
* `Good`, `Good.step`: the invariant, a cached name finds no row but the user's own;
* `ownVerified_along`: **in a run of careful steps a password change verifies the user's own hash**;
* `findUser_of_not_careful`: after a step that is not careful a cached name finds a row of another
  user.
-/

namespace Vussa.Accounts.PasswordChange

open Run Table Identifiers
open Sessions (Session Store SessionHash requireCsrf)

/-! ### Transactions and queries -/

/-- The transaction of `register`. -/
def registerUser (E : Env) (t : Tables) (rawEmail rawUsername password : String) (drawn : Drawn)
    (now : Millis) : Option (Tables × AuthUser) :=
  match Op.next E (.register rawEmail rawUsername password drawn now) with
  | .goto _ (.insert row) =>
      if Taken E t.users row then none
      else
        let t := (Write.grant row.id).apply ((Write.insertUser row).apply t)
        some (t, t.authUser row)
  | _ => none

/-- The transaction of `update_username`. -/
def updateUsername (E : Env) (t : Tables) (user : Uuid) (username : String) (now : Millis) :
    Option Tables :=
  if (∃ u ∈ t.users, u.id = user ∧ u.deletedAt = none) ∧ ¬ NameTaken E t.users user username then
    some ((Write.rename user username now).apply t)
  else none

/-- `find_user_for_login`. -/
def findUser (E : Env) (t : Tables) (name : String) : Option Account := (loginRows E t name).head?

/-- The row a name finds, if it is not disabled and the password fits it. -/
def verified (E : Env) (t : Tables) (name password : String) : Option Account :=
  (findUser E t name).filter fun u => u.disabledAt.isNone && E.crypto.verify password u.passwordHash

/-! ### Requests -/

/-- What `create_session` draws. -/
structure Created where
  id : Uuid
  csrf : String
  deriving DecidableEq, Repr

/-- The requests on a session. -/
inductive Request where
  | updateAccount (rawUsername : String)
  | changePassword (currentPassword newPassword : String) (salt : Uuid)
  deriving DecidableEq, Repr

/-- A request under way, by its next step. -/
inductive Task where
  /-- the transaction of `register` -/
  | register (rawEmail rawUsername password : String) (drawn : Drawn) (now : Millis)
      (created : Created)
  /-- the query of `login` -/
  | login (email password : String) (created : Created)
  /-- `create_session` -/
  | create (user : AuthUser) (created : Created)
  /-- `load_session` -/
  | load (request : Request) (header : Option String) (cookie : Uuid) (now : Millis)
  /-- the transaction of `update_username` -/
  | rename (session : Session) (username : String) (now : Millis)
  /-- `HSET` of `update_account` -/
  | store (session : Session) (username : String)
  /-- the query of `change_password` -/
  | verify (session : Session) (currentPassword newPassword : String) (salt : Uuid) (now : Millis)
  /-- `UPDATE users` of `change_password` -/
  | update (session : Session) (hash : String) (now : Millis)
  deriving DecidableEq, Repr

/-- What a request does once its session is loaded. -/
def Request.next (U : Unicode) (session : Session) (now : Millis) : Request → Option Task
  | updateAccount rawUsername =>
      match validateUsername U (trim rawUsername) with
      | .ok _ => some (.rename session (trim rawUsername) now)
      | .error _ => none
  | changePassword currentPassword newPassword salt =>
      some (.verify session currentPassword newPassword salt now)

/-- PostgreSQL, Valkey and the requests under way. -/
structure State where
  tables : Tables := {}
  store : Store := {}
  tasks : ℕ → Option Task := fun _ => none

/-- One step of a request; a request that is refused or done has no next step. -/
def Task.exec (E : Env) (t : Tables) (s : Store) : Task → Tables × Store × Option Task
  | register rawEmail rawUsername password drawn now created =>
      match registerUser E t rawEmail rawUsername password drawn now with
      | some (t', user) => (t', s, some (.create user created))
      | none => (t, s, none)
  | login email password created =>
      (t, s, (verified E t (trim email) password).map fun u => .create (t.authUser u) created)
  | create user created => (t, s.create created.id created.csrf user, none)
  | load request header cookie now =>
      match s.keys cookie with
      | some { csrf := some csrf, user, expires := _ } =>
          let session : Session := { id := cookie, csrf := csrf, user := user }
          match requireCsrf header session with
          | .ok _ => (t, s, request.next E.unicode session now)
          | .error _ => (t, s, none)
      | _ => (t, s, none)
  | rename session username now =>
      match updateUsername E t session.user.id username now with
      | some t' => (t', s, some (.store session username))
      | none => (t, s, none)
  | store session username =>
      (t, s.hsetUser session.id { session.user with username := username }, none)
  | verify session currentPassword newPassword salt now =>
      match verified E t session.user.username currentPassword with
      | some _ =>
          match passwordHash E.crypto newPassword salt with
          | .ok hash => (t, s, some (.update session hash now))
          | .error _ => (t, s, none)
      | none => (t, s, none)
  | update session hash now =>
      (t.updateUser session.user.id (Account.setPassword hash now), s, none)

/-- The requests that a client may send. -/
def Task.IsCall : Task → Prop
  | register .. | login .. | load .. => True
  | create .. | rename .. | store .. | verify .. | update .. => False

instance : DecidablePred Task.IsCall
  | .register .. | .login .. | .load .. => isTrue trivial
  | .create .. | .rename .. | .store .. | .verify .. | .update .. => isFalse id

/-- The moves. -/
inductive Act where
  /-- a request arrives -/
  | arrive (k : ℕ) (task : Task)
  /-- the next step of a request -/
  | run (k : ℕ)
  /-- a request fails -/
  | abort (k : ℕ)
  /-- a session ends -/
  | endSession (id : Uuid)
  deriving DecidableEq, Repr

/-- One move; a move that does not apply leaves the state as it is. -/
def State.step (E : Env) (s : State) : Act → State
  | .arrive k task =>
      if task.IsCall ∧ s.tasks k = none then
        { s with tasks := Function.update s.tasks k (some task) }
      else s
  | .run k =>
      match s.tasks k with
      | some task =>
          { tables := (task.exec E s.tables s.store).1
            store := (task.exec E s.tables s.store).2.1
            tasks := Function.update s.tasks k (task.exec E s.tables s.store).2.2 }
      | none => s
  | .abort k => { s with tasks := Function.update s.tasks k none }
  | .endSession id => { s with store := s.store.del [id] }

-- the equations of both, made once and not by each proof that unfolds them
attribute [local grind =] Task.exec State.step

/-! ### The property and the condition -/

/-- The step accepts a current password only if it is that of the user of the session. -/
def OwnVerified (E : Env) (s : State) : Act → Prop
  | .run k => ∀ session currentPassword newPassword salt now hash,
      s.tasks k = some (.verify session currentPassword newPassword salt now) →
      (s.step E (.run k)).tasks k = some (.update session hash now) →
      ∃ u ∈ s.tables.users, u.id = session.user.id ∧ E.crypto.verify currentPassword u.passwordHash
  | _ => True

/-- The users whose name a request will use. -/
def Task.Caches : Task → AuthUser → Prop
  | create user _, cached => cached = user
  | store session username, cached => cached = { session.user with username := username }
  | verify session _ _ _ _, cached => cached = session.user
  | register .., _ | login .., _ | load .., _ | rename .., _ | update .., _ => False

/-- The users that a session or a request carries. -/
def State.Cached (s : State) (cached : AuthUser) : Prop :=
  (∃ id h, s.store.keys id = some h ∧ h.user = cached) ∨
    ∃ k task, s.tasks k = some task ∧ task.Caches cached

/-- No user but `user` is cached under the name. -/
def State.Uncached (E : Env) (s : State) (user : Uuid) (username : String) : Prop :=
  ∀ cached, s.Cached cached → E.lower cached.username = E.lower username → cached.id = user

/-- A registration or a renaming that succeeds takes no name that is cached for another user. -/
def Task.Careful (E : Env) (s : State) : Task → Prop
  | register rawEmail rawUsername password drawn now _ =>
      (registerUser E s.tables rawEmail rawUsername password drawn now).isSome →
        s.Uncached E drawn.id (trim rawUsername)
  | rename session username now =>
      (updateUsername E s.tables session.user.id username now).isSome →
        s.Uncached E session.user.id username
  | login .. | create .. | load .. | store .. | verify .. | update .. => True

/-- A careful move. -/
def Careful (E : Env) (s : State) : Act → Prop
  | .run k => ∀ task ∈ s.tasks k, task.Careful E s
  | .arrive .. | .abort _ | .endSession _ => True

/-! ### The invariant -/

/-- The name of a cached user is the name of no other user. -/
def Owns (E : Env) (users : List Account) (cached : AuthUser) : Prop :=
  '@' ∉ cached.username.toList ∧
    ∀ u ∈ users, E.lower u.username = E.lower cached.username → u.id = cached.id

/-- Every cached name is that of its user or of nobody. -/
structure Good (E : Env) (s : State) : Prop where
  distinct : Distinct E s.tables.users
  cached : ∀ cached, s.Cached cached → Owns E s.tables.users cached
  rename : ∀ k session username now, s.tasks k = some (.rename session username now) →
    '@' ∉ username.toList

section Steps

variable {E : Env} {t : Tables} {cached : AuthUser}

/-- A name without `@` finds a row by its username. -/
lemma findUser_username (hlower : E.KeepsAt) (hdistinct : Distinct E t.users) {name : String}
    (hat : '@' ∉ name.toList) {u : Account} (h : findUser E t name = some u) :
    u ∈ t.users ∧ E.lower u.username = E.lower name := by
  obtain ⟨hu, hname⟩ := List.mem_filter.mp (List.mem_of_mem_head? h)
  rcases of_decide_eq_true hname with hemail | hname
  · have hat' : '@' ∈ (E.lower u.email).toList := (hlower u.email).mpr (hdistinct.emailAt u hu)
    rw [hemail] at hat'
    exact absurd ((hlower name).mp hat') hat
  · exact ⟨hu, hname⟩

/-- A name of its own finds the row of its user. -/
lemma Owns.findUser (hlower : E.KeepsAt) (hdistinct : Distinct E t.users)
    (howns : Owns E t.users cached) {u : Account} (h : findUser E t cached.username = some u) :
    u ∈ t.users ∧ u.id = cached.id := by
  obtain ⟨hu, hname⟩ := findUser_username hlower hdistinct howns.1 h
  exact ⟨hu, howns.2 u hu hname⟩

/-- A row with a name is that of its user: the names are unique. -/
lemma owns_of_mem (hdistinct : Distinct E t.users) {u : Account} (hu : u ∈ t.users)
    (hid : cached.id = u.id) (hname : cached.username = u.username) : Owns E t.users cached := by
  refine ⟨hname ▸ hdistinct.usernameAt u hu, fun v hv heq => ?_⟩
  rw [hname] at heq
  rw [hid, hdistinct.username.eq hv hu heq]

lemma verified_eq_some {name password : String} {u : Account}
    (h : verified E t name password = some u) :
    findUser E t name = some u ∧ E.crypto.verify password u.passwordHash := by
  rw [verified, Option.filter_eq_some_iff, Bool.and_eq_true] at h
  exact ⟨h.1, h.2.2⟩

/-- What a registration writes. -/
lemma registerUser_eq_some (hlower : E.KeepsAt) (hat : E.unicode.isAlphanumeric '@' = false)
    {rawEmail rawUsername password : String} {drawn : Drawn} {now : Millis} {t' : Tables}
    {user : AuthUser}
    (h : registerUser E t rawEmail rawUsername password drawn now = some (t', user)) :
    ∃ row, Addressed row ∧ ¬ Taken E t.users row ∧ row.id = drawn.id ∧
      row.username = trim rawUsername ∧ t'.users = t.users ++ [row] ∧ user.id = row.id ∧
        user.username = row.username := by
  have hcases := Op.next_cases hlower hat (.register rawEmail rawUsername password drawn now)
  rw [registerUser] at h
  obtain hfail | ⟨p', hnext, hsound⟩ := hcases
  · rw [hfail] at h
    exact absurd h (by simp)
  · rw [hnext] at h
    cases p' with
    | insert row =>
        have hrow : row.id = drawn.id ∧ row.username = trim rawUsername := by
          rw [Op.next] at hnext
          split at hnext
          · cases hnext
          · split at hnext
            · cases hnext
            · split at hnext
              · cases hnext
              · cases hnext
                exact ⟨rfl, rfl⟩
        simp only at h
        split at h
        · exact absurd h (by simp)
        · rename_i hfree
          obtain ⟨rfl, rfl⟩ := Prod.mk.inj (Option.some.inj h)
          exact ⟨row, hsound t, hfree, hrow.1, hrow.2, grant_users _ _ _, rfl, rfl⟩
    | call _ | inserted _ | granted _ | rename _ _ _ | renamed _ _ _ => exact absurd h (by simp)

/-- What a renaming writes. -/
lemma updateUsername_eq_some {user : Uuid} {username : String} {now : Millis} {t' : Tables}
    (h : updateUsername E t user username now = some t') :
    ¬ NameTaken E t.users user username ∧ t'.users = renameIn t.users user username now := by
  rw [updateUsername] at h
  split_ifs at h with hfree
  obtain rfl := Option.some.inj h
  exact ⟨hfree.2, rfl⟩

/-- The rows after a change of the password have the same identifiers and names. -/
lemma setPassword_keys (hash : String) (now : Millis) (u : Account) :
    (u.setPassword hash now).id = u.id ∧ (u.setPassword hash now).email = u.email ∧
      (u.setPassword hash now).username = u.username := by
  rw [Account.setPassword]
  split
  · exact ⟨rfl, rfl, rfl⟩
  · exact ⟨rfl, rfl, rfl⟩

/-- Rows that keep their keys keep their names apart. -/
lemma distinct_map {users : List Account} (h : Distinct E users) {f : Account → Account}
    (hf : ∀ u, (f u).id = u.id ∧ (f u).email = u.email ∧ (f u).username = u.username) :
    Distinct E (users.map f) where
  id := h.id.map fun u => (hf u).1
  email := h.email.map fun u => congrArg E.lower (hf u).2.1
  username := h.username.map fun u => congrArg E.lower (hf u).2.2
  emailAt u' hu' := by
    obtain ⟨u, hu, rfl⟩ := List.mem_map.mp hu'
    rw [(hf u).2.1]
    exact h.emailAt u hu
  usernameAt u' hu' := by
    obtain ⟨u, hu, rfl⟩ := List.mem_map.mp hu'
    rw [(hf u).2.2]
    exact h.usernameAt u hu

lemma Owns.map {users : List Account} (h : Owns E users cached) {f : Account → Account}
    (hf : ∀ u, (f u).id = u.id ∧ (f u).email = u.email ∧ (f u).username = u.username) :
    Owns E (users.map f) cached := by
  refine ⟨h.1, fun u' hu' heq => ?_⟩
  obtain ⟨u, hu, rfl⟩ := List.mem_map.mp hu'
  rw [(hf u).2.2] at heq
  rw [(hf u).1]
  exact h.2 u hu heq

/-- A new user with a name that is not cached for another one. -/
lemma Owns.insert {users : List Account} (h : Owns E users cached) {row : Account}
    (hfree : E.lower cached.username = E.lower row.username → cached.id = row.id) :
    Owns E (users ++ [row]) cached := by
  refine ⟨h.1, fun u hu heq => ?_⟩
  rcases List.mem_append.mp hu with hu | hu
  · exact h.2 u hu heq
  · obtain rfl := List.mem_singleton.mp hu
    exact (hfree heq.symm).symm

/-- A new name that is not cached for another user. -/
lemma Owns.rename {users : List Account} (h : Owns E users cached) {user : Uuid}
    {username : String} (hfree : E.lower cached.username = E.lower username → cached.id = user)
    (now : Millis) : Owns E (renameIn users user username now) cached := by
  refine ⟨h.1, fun u' hu' heq => ?_⟩
  obtain ⟨u, hu, hid, -, hname | ⟨huser, hname⟩⟩ := mem_renameIn hu'
  · rw [hname] at heq
    rw [hid]
    exact h.2 u hu heq
  · rw [hname] at heq
    rw [hid, huser, hfree heq.symm]

/-- The new name is that of its user. -/
lemma owns_renamed {users : List Account} {user : AuthUser} {username : String}
    (hat : '@' ∉ username.toList) (hfree : ¬ NameTaken E users user.id username) (now : Millis) :
    Owns E (renameIn users user.id username now) { user with username := username } := by
  refine ⟨hat, fun u' hu' heq => ?_⟩
  obtain ⟨u, hu, hid, -, hname | ⟨huser, -⟩⟩ := mem_renameIn hu'
  · rw [hname] at heq
    rw [hid]
    by_contra hne
    exact hfree ⟨u, hu, hne, heq⟩
  · rw [hid, huser]

end Steps

/-! ### Runs -/

section Runs

variable {E : Env} {s : State}

/-- What a step of a request keeps: the names stay apart, and what is cached afterwards is owned. -/
structure Advance (E : Env) (s : State) (r : Tables × Store × Option Task) : Prop where
  distinct : Distinct E r.1.users
  cached : ∀ cached, s.Cached cached → Owns E r.1.users cached
  store : ∀ id h, r.2.1.keys id = some h → Owns E r.1.users h.user
  next : ∀ task ∈ r.2.2, ∀ cached, task.Caches cached → Owns E r.1.users cached
  rename : ∀ task ∈ r.2.2, ∀ session username now, task = .rename session username now →
    '@' ∉ username.toList

lemma Good.store (h : Good E s) {id : Uuid} {hash : SessionHash}
    (hkey : s.store.keys id = some hash) : Owns E s.tables.users hash.user :=
  h.cached _ (.inl ⟨id, hash, hkey, rfl⟩)

/-- A step that ends the request without a write. -/
lemma Good.stop (h : Good E s) : Advance E s (s.tables, s.store, none) where
  distinct := h.distinct
  cached := h.cached
  store _ _ hkey := h.store hkey
  next _ htask := absurd htask (Option.not_mem_none _)
  rename _ htask := absurd htask (Option.not_mem_none _)

/-- A step that writes accounts and goes on with a user it may cache. -/
lemma Advance.commit {t' : Tables} {next : Task} (hdistinct : Distinct E t'.users)
    (hcached : ∀ cached, s.Cached cached → Owns E t'.users cached)
    (hnext : ∀ cached, next.Caches cached → Owns E t'.users cached)
    (hrename : ∀ session username now, next = .rename session username now →
      '@' ∉ username.toList) : Advance E s (t', s.store, some next) where
  distinct := hdistinct
  cached := hcached
  store id hash hkey := hcached _ (.inl ⟨id, hash, hkey, rfl⟩)
  next task htask := by
    obtain rfl := Option.some.inj htask
    exact hnext
  rename task htask := by
    obtain rfl := Option.some.inj htask
    exact hrename

/-- A step that writes nothing and goes on with a user it may cache. -/
lemma Good.goto (h : Good E s) {next : Task}
    (hnext : ∀ cached, next.Caches cached → Owns E s.tables.users cached)
    (hrename : ∀ session username now, next = .rename session username now →
      '@' ∉ username.toList) : Advance E s (s.tables, s.store, some next) :=
  .commit h.distinct h.cached hnext hrename

/-- A step that writes a session for a user. -/
lemma Good.write (h : Good E s) {user : AuthUser} (howns : Owns E s.tables.users user)
    {store : Store} (hstore : ∀ id hash, store.keys id = some hash →
      hash.user = user ∨ s.store.keys id = some hash) : Advance E s (s.tables, store, none) where
  distinct := h.distinct
  cached := h.cached
  store id hash hkey := by
    rcases hstore id hash hkey with rfl | hold
    · exact howns
    · exact h.store hold
  next _ htask := absurd htask (Option.not_mem_none _)
  rename _ htask := absurd htask (Option.not_mem_none _)

/-- A registration: the new row is owned by nobody who is cached, and by the user it returns. -/
lemma advance_register (hlower : E.KeepsAt) (hat : E.unicode.isAlphanumeric '@' = false)
    (hgood : Good E s) {rawEmail rawUsername password : String} {drawn : Drawn}
    {now : Millis} {created : Created}
    (hcareful : (Task.register rawEmail rawUsername password drawn now created).Careful E s) :
    Advance E s ((Task.register rawEmail rawUsername password drawn now created).exec E s.tables
      s.store) := by
  rw [Task.exec]
  cases hregister : registerUser E s.tables rawEmail rawUsername password drawn now with
  | none => exact hgood.stop
  | some result =>
      obtain ⟨t', user⟩ := result
      obtain ⟨row, haddressed, hfree, hid, hname, husers, huserId, huserName⟩ :=
        registerUser_eq_some hlower hat hregister
      have huncached := hcareful (by rw [hregister, Option.isSome_some])
      have hdistinct : Distinct E t'.users := by
        rw [husers]
        exact hgood.distinct.insert haddressed hfree
      have hcached : ∀ cached, s.Cached cached → Owns E t'.users cached := by
        intro cached h
        rw [husers]
        refine (hgood.cached cached h).insert fun heq => ?_
        rw [hid]
        exact huncached cached h (hname ▸ heq)
      refine .commit hdistinct hcached ?_ (by rintro _ _ _ ⟨⟩)
      rintro cached rfl
      have hrow : row ∈ t'.users := by
        rw [husers]
        exact List.mem_append_right _ (List.mem_singleton_self row)
      exact owns_of_mem hdistinct hrow huserId huserName

/-- A login goes on with the user of the row that it has found. -/
lemma advance_login (hgood : Good E s) (email password : String) (created : Created) :
    Advance E s ((Task.login email password created).exec E s.tables s.store) := by
  rw [Task.exec]
  cases hverified : verified E s.tables (trim email) password with
  | none => exact hgood.stop
  | some u =>
      obtain ⟨hfound, -⟩ := verified_eq_some hverified
      obtain ⟨hu, -⟩ := List.mem_filter.mp (List.mem_of_mem_head? hfound)
      refine hgood.goto ?_ (by rintro _ _ _ ⟨⟩)
      rintro cached rfl
      exact owns_of_mem hgood.distinct hu rfl rfl

/-- A request of a session goes on with the user of the session. -/
lemma advance_load (hat : E.unicode.isAlphanumeric '@' = false) (hgood : Good E s)
    (request : Request) (header : Option String) (cookie : Uuid) (now : Millis) :
    Advance E s ((Task.load request header cookie now).exec E s.tables s.store) := by
  rw [Task.exec]
  split
  · rename_i csrf user expires hkey
    simp only
    split
    · cases request with
      | updateAccount rawUsername =>
          rw [Request.next]
          split
          · rename_i hvalid
            refine hgood.goto (fun _ h => h.elim) ?_
            rintro _ _ _ ⟨⟩
            exact at_of_validateUsername hat hvalid
          · exact hgood.stop
      | changePassword currentPassword newPassword salt =>
          refine hgood.goto ?_ (by rintro _ _ _ ⟨⟩)
          rintro cached rfl
          exact hgood.store hkey
    · exact hgood.stop
  · exact hgood.stop

/-- A renaming goes on with the name that the row has then. -/
lemma advance_rename (hgood : Good E s) {session : Session} {username : String} {now : Millis}
    (hname : '@' ∉ username.toList)
    (hcareful : (Task.rename session username now).Careful E s) :
    Advance E s ((Task.rename session username now).exec E s.tables s.store) := by
  rw [Task.exec]
  cases hrename : updateUsername E s.tables session.user.id username now with
  | none => exact hgood.stop
  | some t' =>
      obtain ⟨hfree, husers⟩ := updateUsername_eq_some hrename
      have huncached := hcareful (by rw [hrename, Option.isSome_some])
      have hdistinct : Distinct E t'.users := by
        rw [husers]
        exact hgood.distinct.rename hname hfree now
      have hcached : ∀ cached, s.Cached cached → Owns E t'.users cached := by
        intro cached h
        rw [husers]
        exact (hgood.cached cached h).rename (huncached cached h) now
      refine .commit hdistinct hcached ?_ (by rintro _ _ _ ⟨⟩)
      rintro cached rfl
      rw [husers]
      exact owns_renamed hname hfree now

/-- A new password changes no key of a row. -/
lemma advance_update (hgood : Good E s) (session : Session) (hash : String) (now : Millis) :
    Advance E s ((Task.update session hash now).exec E s.tables s.store) := by
  have hkeys : ∀ u : Account,
      (if u.id = session.user.id then u.setPassword hash now else u).id = u.id ∧
      (if u.id = session.user.id then u.setPassword hash now else u).email = u.email ∧
      (if u.id = session.user.id then u.setPassword hash now else u).username = u.username := by
    intro u
    split
    · exact setPassword_keys hash now u
    · exact ⟨rfl, rfl, rfl⟩
  exact
    { distinct := distinct_map hgood.distinct hkeys
      cached := fun cached h => (hgood.cached cached h).map hkeys
      store := fun id h hkey => (hgood.store hkey).map hkeys
      next := fun _ h => absurd h (Option.not_mem_none _)
      rename := fun _ h => absurd h (Option.not_mem_none _) }

/-- One step of a request. -/
lemma exec_advance (hlower : E.KeepsAt) (hat : E.unicode.isAlphanumeric '@' = false)
    (hgood : Good E s) {k : ℕ} {task : Task} (htask : s.tasks k = some task)
    (hcareful : task.Careful E s) : Advance E s (task.exec E s.tables s.store) := by
  cases task with
  | register rawEmail rawUsername password drawn now created =>
      exact advance_register hlower hat hgood hcareful
  | login email password created => exact advance_login hgood email password created
  | create user created =>
      have howns : Owns E s.tables.users user := hgood.cached _ (.inr ⟨k, _, htask, rfl⟩)
      refine hgood.write howns fun id h hkey => ?_
      simp only [Store.create, Function.update_apply] at hkey
      split_ifs at hkey
      · obtain rfl := Option.some.inj hkey
        exact .inl rfl
      · exact .inr hkey
  | load request header cookie now => exact advance_load hat hgood request header cookie now
  | rename session username now =>
      exact advance_rename hgood (hgood.rename k session username now htask) hcareful
  | store session username =>
      have howns : Owns E s.tables.users { session.user with username := username } :=
        hgood.cached _ (.inr ⟨k, _, htask, rfl⟩)
      refine hgood.write howns fun id h hkey => ?_
      simp only [Store.hsetUser, Function.update_apply] at hkey
      split_ifs at hkey
      · obtain rfl := Option.some.inj hkey
        refine .inl ?_
        split
        · rfl
        · rfl
      · exact .inr hkey
  | verify session currentPassword newPassword salt now =>
      rw [Task.exec]
      split
      · split
        · exact hgood.goto (fun _ h => h.elim) (by rintro _ _ _ ⟨⟩)
        · exact hgood.stop
      · exact hgood.stop
  | update session hash now => exact advance_update hgood session hash now

/-- A request that arrives caches nothing. -/
lemma Task.IsCall.not_caches {task : Task} (h : task.IsCall) {cached : AuthUser} :
    ¬ task.Caches cached := by
  cases task with
  | register | login | load => exact id
  | create | rename | store | verify | update => exact h.elim

/-- A step in the place of its request keeps the invariant. -/
lemma Good.put (hgood : Good E s) {r : Tables × Store × Option Task} (h : Advance E s r) (k : ℕ) :
    Good E { tables := r.1, store := r.2.1, tasks := Function.update s.tasks k r.2.2 } where
  distinct := h.distinct
  cached cached hcached := by
    rcases hcached with ⟨id, hash, hkey, rfl⟩ | ⟨j, task, htask, hcaches⟩
    · exact h.store id hash hkey
    · rcases eq_or_ne j k with rfl | hne
      · simp only [Function.update_self] at htask
        exact h.next task htask cached hcaches
      · simp only [Function.update_of_ne hne] at htask
        exact h.cached cached (.inr ⟨j, task, htask, hcaches⟩)
  rename j session username now htask := by
    rcases eq_or_ne j k with rfl | hne
    · simp only [Function.update_self] at htask
      exact h.rename _ htask session username now rfl
    · simp only [Function.update_of_ne hne] at htask
      exact hgood.rename j session username now htask

/-- A careful move keeps the invariant. -/
lemma Good.step (hlower : E.KeepsAt) (hat : E.unicode.isAlphanumeric '@' = false)
    (hgood : Good E s) {a : Act} (hcareful : Careful E s a) : Good E (s.step E a) := by
  cases a with
  | arrive k task =>
      rw [State.step]
      split_ifs with hcall
      · -- a request that arrives caches nothing and renames nobody
        have harrive : Advance E s (s.tables, s.store, some task) := by
          refine hgood.goto (fun _ hcaches => absurd hcaches hcall.1.not_caches) ?_
          rintro session username now rfl
          exact hcall.1.elim
        exact hgood.put harrive k
      · exact hgood
  | run k =>
      rw [State.step]
      cases htask : s.tasks k with
      | none => exact hgood
      | some task => exact hgood.put (exec_advance hlower hat hgood htask (hcareful task htask)) k
  | abort k => exact hgood.put hgood.stop k
  | endSession id =>
      refine ⟨hgood.distinct, fun cached h => ?_, hgood.rename⟩
      rcases h with ⟨id', hash, hkey, rfl⟩ | htask
      · simp only [State.step, Store.del] at hkey
        split_ifs at hkey
        exact hgood.store hkey
      · exact hgood.cached cached (.inr htask)

/-- Under the invariant a current password that is accepted is that of the user. -/
lemma Good.ownVerified (hlower : E.KeepsAt) (hgood : Good E s) (a : Act) : OwnVerified E s a := by
  cases a with
  | arrive _ _ | abort _ | endSession _ => trivial
  | run k =>
      intro session currentPassword newPassword salt now hash htask hnext
      have hexec : (s.step E (.run k)).tasks k = ((Task.verify session currentPassword newPassword
          salt now).exec E s.tables s.store).2.2 := by
        simp only [State.step, htask, Function.update_self]
      rw [hexec, Task.exec] at hnext
      split at hnext
      · rename_i u hverified
        obtain ⟨hfound, hfits⟩ := verified_eq_some hverified
        have howns := hgood.cached session.user (.inr ⟨k, _, htask, rfl⟩)
        obtain ⟨hu, hid⟩ := howns.findUser hlower hgood.distinct hfound
        exact ⟨u, hu, hid, hfits⟩
      · exact absurd hnext (by simp)

end Runs

/-! ### The condition is exact -/

/-- A row is found by its username. -/
lemma findUser_of_mem {E : Env} {t : Tables} (hlower : E.KeepsAt) (hdistinct : Distinct E t.users)
    {u : Account} (hu : u ∈ t.users) {name : String} (hat : '@' ∉ name.toList)
    (hname : E.lower u.username = E.lower name) : findUser E t name = some u := by
  have hrow : u ∈ loginRows E t name := List.mem_filter.mpr ⟨hu, decide_eq_true (.inr hname)⟩
  obtain ⟨v, hv⟩ : ∃ v, findUser E t name = some v := by
    rw [findUser]
    cases hrows : loginRows E t name with
    | nil => exact absurd (hrows ▸ hrow) List.not_mem_nil
    | cons v _ => exact ⟨v, rfl⟩
  obtain ⟨hmem, heq⟩ := findUser_username hlower hdistinct hat hv
  rw [hv, hdistinct.username.eq hu hmem (hname.trans heq.symm)]

section Exact

variable {E : Env} {s : State}

/-- What a registration or a renaming leaves cached. -/
lemma cached_of_exec {k : ℕ} {task : Task} (htask : s.tasks k = some task) {cached : AuthUser}
    (h : s.Cached cached) (hcaches : ¬ task.Caches cached)
    (hstore : (task.exec E s.tables s.store).2.1 = s.store) :
    (s.step E (.run k)).Cached cached := by
  simp only [State.step, htask]
  rcases h with ⟨id, hash, hkey, huser⟩ | ⟨j, other, hother, hother'⟩
  · refine .inl ⟨id, hash, ?_, huser⟩
    simp only [hstore]
    exact hkey
  · refine .inr ⟨j, other, ?_, hother'⟩
    have hne : j ≠ k := by
      rintro rfl
      obtain rfl := Option.some.inj (htask.symm.trans hother)
      exact hcaches hother'
    simp only [Function.update_of_ne hne]
    exact hother

/-- **After a step that is not careful** a session or a request carries a name that finds a row of
another user, against which its current password would be verified. -/
theorem findUser_of_not_careful (hlower : E.KeepsAt) (hat : E.unicode.isAlphanumeric '@' = false)
    (hgood : Good E s) {a : Act} (h : ¬ Careful E s a) :
    ∃ cached u, (s.step E a).Cached cached ∧
      findUser E (s.step E a).tables cached.username = some u ∧ u.id ≠ cached.id := by
  cases a with
  | arrive _ _ | abort _ | endSession _ => exact absurd trivial h
  | run k =>
      simp only [Careful, not_forall, Option.mem_def] at h
      obtain ⟨task, htask, h⟩ := h
      have htables : (s.step E (.run k)).tables = (task.exec E s.tables s.store).1 := by
        simp only [State.step, htask]
      rw [htables]
      cases task with
      | login | create | load | store | verify | update => exact absurd trivial h
      | register rawEmail rawUsername password drawn now created =>
          simp only [Task.Careful, State.Uncached, not_forall] at h
          obtain ⟨hsome, cached, hcached, hname, hne⟩ := h
          obtain ⟨⟨t', user⟩, hregister⟩ := Option.isSome_iff_exists.mp hsome
          obtain ⟨row, haddressed, hfree, hid, hrow, husers, -, -⟩ :=
            registerUser_eq_some hlower hat hregister
          have hexec :
              (Task.register rawEmail rawUsername password drawn now created).exec E s.tables
                s.store = (t', s.store, some (.create user created)) := by
            rw [Task.exec, hregister]
          refine ⟨cached, row, cached_of_exec htask hcached id (by rw [hexec]), ?_, ?_⟩
          · rw [hexec]
            refine findUser_of_mem hlower ?_ ?_ (hgood.cached cached hcached).1 ?_
            · rw [husers]
              exact hgood.distinct.insert haddressed hfree
            · rw [husers]
              exact List.mem_append_right _ (List.mem_singleton_self row)
            · rw [hrow, hname]
          · rw [hid]
            exact fun heq => hne heq.symm
      | rename session username now =>
          simp only [Task.Careful, State.Uncached, not_forall] at h
          obtain ⟨hsome, cached, hcached, hname, hne⟩ := h
          obtain ⟨t', hrename⟩ := Option.isSome_iff_exists.mp hsome
          obtain ⟨hfree, husers⟩ := updateUsername_eq_some hrename
          have hexec : (Task.rename session username now).exec E s.tables s.store =
              (t', s.store, some (.store session username)) := by
            rw [Task.exec, hrename]
          obtain ⟨u, hu, hid, hlive⟩ : ∃ u ∈ s.tables.users, u.id = session.user.id ∧
              u.deletedAt = none := by
            by_contra hnone
            rw [updateUsername, if_neg fun h => hnone h.1] at hrename
            exact absurd hrename (by simp)
          refine ⟨cached, u.rename username now, cached_of_exec htask hcached id (by rw [hexec]),
            ?_, ?_⟩
          · rw [hexec]
            refine findUser_of_mem hlower ?_ ?_ (hgood.cached cached hcached).1 ?_
            · rw [husers]
              exact hgood.distinct.rename (hgood.rename k session username now htask) hfree now
            · rw [husers]
              exact List.mem_map.mpr ⟨u, hu, if_pos hid⟩
            · rw [Account.rename, if_pos hlive, hname]
          · rw [Account.rename, if_pos hlive]
            exact fun heq => hne (heq.symm.trans hid)

end Exact

/-! ### The property of a run -/

/-- No user, no session and no request. -/
lemma good_start {E : Env} {t : Tables} (hempty : t.users = []) : Good E { tables := t } where
  distinct := by
    rw [hempty]
    exact ⟨unique_nil, unique_nil, unique_nil, nofun, nofun⟩
  cached cached h := by
    rcases h with ⟨_, _, hkey, -⟩ | ⟨_, _, htask, -⟩
    · exact absurd hkey (by simp)
    · exact absurd htask (by simp)
  rename _ _ _ _ h := absurd h (by simp)

/-- **The current password**: in a run in which no user takes a name that a session or request of
another user still carries, `change_password` accepts the password of the user of the session
only. -/
theorem ownVerified_along {E : Env} (hlower : E.KeepsAt)
    (hat : E.unicode.isAlphanumeric '@' = false) {t : Tables} (hempty : t.users = [])
    {as : List Act} (h : Along (State.step E) (Careful E) { tables := t } as) :
    Along (State.step E) (OwnVerified E) { tables := t } as :=
  Along.of_invariant (I := Good E) (fun _ _ hgood hcareful => hgood.step hlower hat hcareful)
    (fun _ a hgood _ => hgood.ownVerified hlower a) (good_start hempty) h

section Example

variable {E : Env}

/-- The first request finds nothing cached. -/
lemma not_cached_arrive {t : Tables} {k : ℕ} {task : Task} (hcall : task.IsCall)
    {cached : AuthUser} :
    ¬ (State.step E { tables := t } (.arrive k task)).Cached cached := by
  rw [State.step, if_pos ⟨hcall, rfl⟩]
  rintro (⟨_, _, hkey, -⟩ | ⟨j, other, hother, hcaches⟩)
  · exact absurd hkey (by simp)
  · simp only [Function.update_apply] at hother
    split_ifs at hother
    obtain rfl := Option.some.inj hother
    exact hcall.not_caches hcaches

/-- Does the next step take a name? -/
def Task.takesName : Task → Bool
  | register .. | rename .. => true
  | login .. | create .. | load .. | store .. | verify .. | update .. => false

lemma careful_of_takesName {s : State} {k : ℕ}
    (h : (s.tasks k).all fun task => !task.takesName) : Careful E s (.run k) := by
  intro task htask
  rw [Option.mem_def.mp htask, Option.all_some] at h
  cases task with
  | register | rename => exact absurd h Bool.false_ne_true
  | login | create | load | store | verify | update => trivial

end Example

/-- A user registers and changes the password. -/
def ownPassword : List Act :=
  [.arrive 0 (.register "ada@x" "ada" "the old password" ⟨1, 11⟩ 0 ⟨100, "c"⟩), .run 0, .run 0,
    .arrive 0 (.load (.changePassword "the old password" "the new password" 12) (some "c") 100 5),
    .run 0, .run 0, .run 0]

/-- The password is accepted and replaced. -/
theorem ownVerified_ownPassword :
    Along (State.step plainEnv) (OwnVerified plainEnv) {} ownPassword ∧
      (final (State.step plainEnv) {} ownPassword).tables.users.map Account.passwordHash =
        ["the new password"] := by
  refine ⟨ownVerified_along keepsAt_plainEnv (by decide) rfl ?_, by decide +kernel⟩
  refine ⟨trivial, ?_, ?_, trivial, ?_, ?_, ?_, trivial⟩
  · intro task htask
    obtain rfl := Option.some.inj (Option.mem_def.mp htask)
    have hcall : Task.IsCall (.register "ada@x" "ada" "the old password" ⟨1, 11⟩ 0 ⟨100, "c"⟩) :=
      trivial
    exact fun _ cached hcached => absurd hcached (not_cached_arrive hcall)
  all_goals exact careful_of_takesName (by decide +kernel)

/-- A user renames the account in one of two sessions, and another one takes the old name. -/
def takenName : List Act :=
  [.arrive 0 (.register "ada@x" "ada" "ada's password" ⟨1, 11⟩ 0 ⟨100, "c"⟩), .run 0, .run 0,
    .arrive 0 (.login "ada" "ada's password" ⟨101, "d"⟩), .run 0, .run 0,
    .arrive 0 (.load (.updateAccount "ada2") (some "d") 101 5), .run 0, .run 0, .run 0,
    .arrive 0 (.register "bob@x" "ada" "bob's password" ⟨2, 12⟩ 6 ⟨102, "e"⟩), .run 0, .run 0,
    .arrive 0 (.load (.changePassword "bob's password" "the new password" 13) (some "c") 100 7),
    .run 0]

/-- The session that still carries the old name accepts the password of the other user, and the new
password replaces that of its own user, who never gave one. -/
theorem not_ownVerified_takenName :
    ¬ Along (State.step plainEnv) (OwnVerified plainEnv) {} (takenName ++ [.run 0]) ∧
      (final (State.step plainEnv) {} (takenName ++ [.run 0, .run 0])).tables.users.map
          (fun u => (u.username, u.passwordHash)) =
        [("ada2", "the new password"), ("ada", "bob's password")] := by
  refine ⟨fun h => ?_, by decide +kernel⟩
  have hlast := ((along_append _ _ _ _).mp h).2.1
  obtain ⟨u, hu, hid, hfits⟩ := hlast ⟨100, "c", ⟨1, "ada@x", "ada", [], []⟩⟩ "bob's password"
    "the new password" 13 7 "the new password" (by decide +kernel) (by decide +kernel)
  have hother : ∀ u ∈ (final (State.step plainEnv) {} takenName).tables.users, u.id = 1 →
      plainEnv.crypto.verify "bob's password" u.passwordHash = false := by decide +kernel
  rw [hother u hu hid] at hfits
  exact absurd hfits (by decide)

end Vussa.Accounts.PasswordChange
