import Vussa.Lib.Run
import Vussa.Lib.Effect
import Vussa.Model.Text

/-!
The session keys `vussa:session:<id>` and the sets `vussa:user_sessions:<user>` of Valkey, with the
functions that write them (`auth.rs`, `api/account.rs`, `outbox.rs`), at the granularity of single
commands and `MULTI` blocks.

A request is a task that issues its commands one at a time; between two of them any other task may
run, a key with a time to live may expire, and the task may end early, because a command or the
database failed or because the request is refused for another reason (`abort`). The database and the
answers of the requests are left out, and so is the `PUBLISH` that ends an invalidation. The sets
hold only identifiers that `create_session` added, so that each of their members parses.

* `Store`: the keys and the sets, with the commands on them;
* `Request`, `Task`, `Store.exec`: the requests and their next commands;
* `State`, `Act`, `State.step`: the tasks under way and the moves, in any order;
* `Indexed`: every session key is listed in the set of its user;
* `Careful`: `HSET` finds the key it renames, and `DEL` of a set finds no session in it that came
  after its `SMEMBERS`;
* `indexed_along`: **in a run of careful steps every session key is listed**;
* `lateLogin_not_indexed`: a login between the two commands of an invalidation, and a rename after
  a logout, leave a key that is not listed.
-/

namespace Vussa.Sessions

open Run
open Effect (bind_eq_ok)

/-! ### Valkey -/

/-- The hash of a session key, and whether the key has a time to live. -/
structure SessionHash where
  csrf : Option String
  user : AuthUser
  expires : Bool
  deriving DecidableEq, Repr

/-- The session keys and the sets of the users. -/
structure Store where
  keys : Uuid → Option SessionHash := fun _ => none
  index : Uuid → Finset Uuid := fun _ => ∅

namespace Store

/-- The `MULTI` block of `create_session`. -/
def create (s : Store) (id : Uuid) (csrf : String) (user : AuthUser) : Store where
  keys := Function.update s.keys id (some { csrf := some csrf, user := user, expires := true })
  index := Function.update s.index user.id (insert id (s.index user.id))

/-- `DEL` of session keys. -/
def del (s : Store) (ids : List Uuid) : Store :=
  { s with keys := fun id => if id ∈ ids then none else s.keys id }

/-- `SREM` of an identifier. -/
def srem (s : Store) (user id : Uuid) : Store :=
  { s with index := Function.update s.index user ((s.index user).erase id) }

/-- `DEL` of the set of a user. -/
def delIndex (s : Store) (user : Uuid) : Store :=
  { s with index := Function.update s.index user ∅ }

/-- `EXPIRE` of a session key. -/
def expire (s : Store) (id : Uuid) : Store :=
  { s with
    keys := Function.update s.keys id ((s.keys id).map fun h => { h with expires := true }) }

/-- `HSET` of the field `user`: a missing key is created, without a time to live. -/
def hsetUser (s : Store) (id : Uuid) (user : AuthUser) : Store :=
  { s with
    keys := Function.update s.keys id (some (match s.keys id with
      | some h => { h with user := user }
      | none => { csrf := none, user := user, expires := false })) }

/-- Possible answers of `SMEMBERS`. -/
def Members (s : Store) (user : Uuid) (ids : List Uuid) : Prop :=
  ids.Nodup ∧ ids.toFinset = s.index user

instance (s : Store) (user : Uuid) (ids : List Uuid) : Decidable (s.Members user ids) :=
  inferInstanceAs (Decidable (_ ∧ _))

end Store

/-! ### Requests -/

/-- `Session`. -/
structure Session where
  id : Uuid
  csrf : String
  user : AuthUser
  deriving DecidableEq, Repr

/-- `require_csrf`. -/
def requireCsrf (header : Option String) (session : Session) : Except AppError Unit :=
  if header = some session.csrf then .ok ⟨⟩ else .error (.badRequest "invalid csrf token")

/-- The requests; `other` stands for those that only load the session. -/
inductive Request where
  | other
  | logout
  | revokeSession (id : Uuid)
  | changePassword
  | listSessions
  | updateAccount (username : String)
  | deleteAccount
  deriving DecidableEq, Repr

/-- A task, by its next command. -/
inductive Task where
  /-- `HMGET` of `load_session` -/
  | load (request : Request) (header : Option String) (id : Uuid)
  /-- `EXPIRE` of `load_session` -/
  | refresh (request : Request) (header : Option String) (session : Session)
  /-- `DEL` of a key, then the `SREM` of its identifier, then the others -/
  | remove (user id : Uuid) (rest : List Uuid)
  /-- that `SREM` -/
  | unlist (user id : Uuid) (rest : List Uuid)
  /-- `EXISTS` of `list_sessions` -/
  | check (user id : Uuid) (rest : List Uuid)
  /-- `SREM` of `list_sessions` -/
  | drop (user id : Uuid) (rest : List Uuid)
  /-- `HSET` of `update_account` -/
  | rename (id : Uuid) (user : AuthUser)
  /-- `SMEMBERS` of `change_password` -/
  | readOthers (session : Session)
  /-- `SMEMBERS` of `list_sessions` -/
  | readListed (user : Uuid)
  /-- `SMEMBERS` of `delete_account` -/
  | readOwn (user : Uuid)
  /-- `SMEMBERS` of `handle_auth_invalidate` -/
  | readInvalid (user : Uuid)
  /-- `DEL` of the first of the keys left in `delete_account`, which read `ids` -/
  | clear (user : Uuid) (ids : List Uuid) (id : Uuid) (rest : List Uuid)
  /-- `DEL` of all keys in `handle_auth_invalidate` -/
  | clearAll (user : Uuid) (ids : List Uuid)
  /-- `DEL` of the set, after the sessions `ids` it was read to hold -/
  | close (user : Uuid) (ids : List Uuid)
  deriving DecidableEq, Repr

/-- The loop of `change_password`. -/
def Task.removeEach (user : Uuid) : List Uuid → Option Task
  | [] => none
  | id :: rest => some (.remove user id rest)

/-- The loop of `list_sessions`. -/
def Task.checkEach (user : Uuid) : List Uuid → Option Task
  | [] => none
  | id :: rest => some (.check user id rest)

/-- The loop of `delete_account`. -/
def Task.clearEach (user : Uuid) (ids : List Uuid) : List Uuid → Task
  | [] => .close user ids
  | id :: rest => .clear user ids id rest

/-- What a request does once its session is loaded. -/
def Request.next (U : Unicode) (header : Option String) (session : Session) :
    Request → Except AppError (Option Task)
  | other => .ok none
  | logout => do
      requireCsrf header session
      .ok (some (.remove session.user.id session.id []))
  | revokeSession id => do
      requireCsrf header session
      if id = session.id then .error (.badRequest "use logout to revoke the current session")
      else .ok (some (.remove session.user.id id []))
  | changePassword => do
      requireCsrf header session
      .ok (some (.readOthers session))
  | listSessions => .ok (some (.readListed session.user.id))
  | updateAccount username => do
      requireCsrf header session
      validateUsername U (trim username)
      .ok (some (.rename session.id { session.user with username := trim username }))
  | deleteAccount => do
      requireCsrf header session
      .ok (some (.readOwn session.user.id))

/-- A refused request ends. -/
def orEnd : Except AppError (Option Task) → Option Task
  | .ok task => task
  | .error _ => none

lemma mem_orEnd {x : Except AppError (Option Task)} {task : Task} :
    task ∈ orEnd x ↔ x = .ok (some task) := by
  cases x with
  | ok t => simp [orEnd]
  | error e => simp [orEnd]

/-- One command of a task; `ids` is the answer of `SMEMBERS`, which a wrong list is not. -/
def Store.exec (U : Unicode) (s : Store) (ids : List Uuid) : Task → Store × Option Task
  | .load request header id =>
      match s.keys id with
      | some { csrf := some csrf, user, expires := _ } =>
          (s, some (.refresh request header { id := id, csrf := csrf, user := user }))
      | _ => (s, none)
  | .refresh request header session =>
      (s.expire session.id, orEnd (request.next U header session))
  | .remove user id rest => (s.del [id], some (.unlist user id rest))
  | .unlist user id rest => (s.srem user id, Task.removeEach user rest)
  | .check user id rest =>
      if (s.keys id).isSome then (s, Task.checkEach user rest)
      else (s, some (.drop user id rest))
  | .drop user id rest => (s.srem user id, Task.checkEach user rest)
  | .rename id user => (s.hsetUser id user, none)
  | .readOthers session =>
      if s.Members session.user.id ids then
        (s, Task.removeEach session.user.id (ids.filter fun id => id ≠ session.id))
      else (s, some (.readOthers session))
  | .readListed user =>
      if s.Members user ids then (s, Task.checkEach user ids) else (s, some (.readListed user))
  | .readOwn user =>
      if s.Members user ids then (s, some (Task.clearEach user ids ids))
      else (s, some (.readOwn user))
  | .readInvalid user =>
      if s.Members user ids then
        (s, some (if ids = [] then .close user ids else .clearAll user ids))
      else (s, some (.readInvalid user))
  | .clear user read id rest => (s.del [id], some (Task.clearEach user read rest))
  | .clearAll user read => (s.del read, some (.close user read))
  | .close user _ => (s.delIndex user, none)

/-! ### Runs -/

/-- Valkey, the tasks under way, and the identifiers that were drawn or named so far. -/
structure State where
  store : Store := {}
  tasks : ℕ → Option Task := fun _ => none
  known : Finset Uuid := ∅

/-- The moves. -/
inductive Act where
  /-- `create_session`; `Uuid::now_v7` draws an identifier that nobody has named yet -/
  | createSession (id : Uuid) (csrf : String) (user : AuthUser)
  /-- a time to live runs out -/
  | lapse (id : Uuid)
  /-- a request arrives, with the session cookie and the header it carries -/
  | arrive (k : ℕ) (request : Request) (header : Option String) (cookie : Uuid)
  /-- the outbox worker takes up an `auth.invalidate` entry -/
  | invalidate (k : ℕ) (user : Uuid)
  /-- the next command of a task -/
  | run (k : ℕ) (ids : List Uuid)
  /-- a task ends early -/
  | abort (k : ℕ)
  deriving DecidableEq, Repr

/-- The identifier a request names in its path. -/
def Request.named : Request → Finset Uuid
  | revokeSession id => {id}
  | _ => ∅

/-- Put a task into a free place. -/
def State.spawn (s : State) (k : ℕ) (task : Task) (named : Finset Uuid) : State :=
  if (s.tasks k).isSome then s
  else { s with tasks := Function.update s.tasks k (some task), known := s.known ∪ named }

/-- One move; a move that does not apply leaves the state as it is. -/
def State.step (U : Unicode) (s : State) : Act → State
  | .createSession id csrf user =>
      if id ∈ s.known then s
      else { s with store := s.store.create id csrf user, known := insert id s.known }
  | .lapse id =>
      if (s.store.keys id).any SessionHash.expires then { s with store := s.store.del [id] }
      else s
  | .arrive k request header cookie => s.spawn k (.load request header cookie) request.named
  | .invalidate k user => s.spawn k (.readInvalid user) ∅
  | .run k ids =>
      match s.tasks k with
      | some task =>
          { s with
            store := (s.store.exec U ids task).1
            tasks := Function.update s.tasks k (s.store.exec U ids task).2 }
      | none => s
  | .abort k => { s with tasks := Function.update s.tasks k none }

/-! ### The property and the condition -/

/-- Every session key is listed in the set of its user. -/
def Indexed (s : Store) : Prop := ∀ id h, s.keys id = some h → id ∈ s.index h.user.id

/-- `HSET` finds its key, and `DEL` of a set leaves out no session that is still there. -/
def Task.Careful (s : Store) : Task → Prop
  | rename id _ => (s.keys id).isSome
  | close user ids => ∀ id ∈ s.index user, (s.keys id).isSome → id ∈ ids
  | _ => True

instance (s : Store) : ∀ task, Decidable (Task.Careful s task)
  | .rename _ _ => inferInstanceAs (Decidable (_ = _))
  | .close user _ => Finset.decidableDforallFinset (s := s.index user)
  | .load _ _ _ | .refresh _ _ _ | .remove _ _ _ | .unlist _ _ _ | .check _ _ _ | .drop _ _ _
  | .readOthers _ | .readListed _ | .readOwn _ | .readInvalid _ | .clear _ _ _ _
  | .clearAll _ _ => isTrue trivial

/-- A careful move. -/
def Careful (s : State) : Act → Prop
  | .run k _ => ∀ task ∈ s.tasks k, task.Careful s.store
  | _ => True

instance (s : State) : ∀ a, Decidable (Careful s a)
  | .run k _ => inferInstanceAs (Decidable (∀ task ∈ s.tasks k, _))
  | .createSession _ _ _ | .lapse _ | .arrive _ _ _ _ | .invalidate _ _ | .abort _ =>
      isTrue trivial

/-! ### The invariant of a task -/

/-- What a task relies on; `known` are the identifiers no session will be created under. -/
def Task.Sound (known : Finset Uuid) (s : Store) : Task → Prop
  | load request _ _ => request.named ⊆ known
  | refresh request _ session => request.named ⊆ known ∧ session.id ∈ known ∧
      ∀ h, s.keys session.id = some h → h.user.id = session.user.id
  | remove _ id rest | check _ id rest => id ∈ known ∧ ∀ i ∈ rest, i ∈ known
  | unlist _ id rest | drop _ id rest => s.keys id = none ∧ id ∈ known ∧ ∀ i ∈ rest, i ∈ known
  | rename id user => id ∈ known ∧ ∀ h, s.keys id = some h → h.user.id = user.id
  | readOthers _ | readListed _ | readOwn _ | readInvalid _ => True
  -- what was read and is no longer waiting has been deleted
  | clear _ ids id rest => ∀ i ∈ ids, i ∈ known ∧ (i = id ∨ i ∈ rest ∨ s.keys i = none)
  | clearAll _ ids => ∀ i ∈ ids, i ∈ known
  | close _ ids => ∀ i ∈ ids, i ∈ known ∧ s.keys i = none

/-- From `s` to `s'` no session comes back and none changes its user, as far as `known` goes. -/
def Settled (known : Finset Uuid) (s s' : Store) : Prop :=
  ∀ id ∈ known, ∀ h', s'.keys id = some h' → ∃ h, s.keys id = some h ∧ h.user.id = h'.user.id

lemma Settled.refl (known : Finset Uuid) (s : Store) : Settled known s s :=
  fun _ _ h' hkey => ⟨h', hkey, rfl⟩

lemma Settled.none {known : Finset Uuid} {s s' : Store} (hs : Settled known s s') {id : Uuid}
    (hid : id ∈ known) (hnone : s.keys id = none) : s'.keys id = none := by
  cases hkey : s'.keys id with
  | none => rfl
  | some h' =>
      obtain ⟨h, hsome, -⟩ := hs id hid h' hkey
      rw [hnone] at hsome
      cases hsome

lemma Settled.user {known : Finset Uuid} {s s' : Store} (hs : Settled known s s') {id user : Uuid}
    (hid : id ∈ known) (huser : ∀ h, s.keys id = some h → h.user.id = user) :
    ∀ h, s'.keys id = some h → h.user.id = user := by
  intro h' hkey
  obtain ⟨h, hsome, heq⟩ := hs id hid h' hkey
  rw [← heq]
  exact huser h hsome

/-- What a task relies on is not lost while the others move. -/
lemma Task.Sound.mono {known known' : Finset Uuid} {s s' : Store} {task : Task}
    (h : task.Sound known s) (hknown : known ⊆ known') (hs : Settled known s s') :
    task.Sound known' s' := by
  cases task with
  | load request header id => exact subset_trans h hknown
  | refresh request header session =>
      exact ⟨subset_trans h.1 hknown, hknown h.2.1, hs.user h.2.1 h.2.2⟩
  | remove user id rest | check user id rest =>
      exact ⟨hknown h.1, fun i hi => hknown (h.2 i hi)⟩
  | unlist user id rest | drop user id rest =>
      exact ⟨hs.none h.2.1 h.1, hknown h.2.1, fun i hi => hknown (h.2.2 i hi)⟩
  | rename id user => exact ⟨hknown h.1, hs.user h.1 h.2⟩
  | readOthers session => trivial
  | readListed user => trivial
  | readOwn user => trivial
  | readInvalid user => trivial
  | clear user ids id rest =>
      intro i hi
      obtain ⟨hk, hcase⟩ := h i hi
      exact ⟨hknown hk, hcase.imp_right fun hcase => hcase.imp_right (hs.none hk)⟩
  | clearAll user ids => exact fun i hi => hknown (h i hi)
  | close user ids => exact fun i hi => ⟨hknown (h i hi).1, hs.none (h i hi).1 (h i hi).2⟩

/-! ### The commands -/

/-- From `s` to `s'` no session key appears and none changes its user. -/
def Follows (s s' : Store) : Prop :=
  ∀ id h', s'.keys id = some h' → ∃ h, s.keys id = some h ∧ h.user.id = h'.user.id

lemma Follows.settled {s s' : Store} (h : Follows s s') (known : Finset Uuid) :
    Settled known s s' := fun id _ => h id

lemma Follows.refl (s : Store) : Follows s s := fun _ h' hkey => ⟨h', hkey, rfl⟩

/-- A store that follows an indexed one is indexed if it keeps the entries of its keys. -/
lemma Indexed.follows {s s' : Store} (hi : Indexed s) (hf : Follows s s')
    (hindex : ∀ id h, s'.keys id = some h → id ∈ s.index h.user.id → id ∈ s'.index h.user.id) :
    Indexed s' := by
  intro id h' hkey
  obtain ⟨h, hsome, heq⟩ := hf id h' hkey
  refine hindex id h' hkey ?_
  rw [← heq]
  exact hi id h hsome

namespace Store

variable (s : Store)

lemma del_keys_of_mem {ids : List Uuid} {id : Uuid} (h : id ∈ ids) : (s.del ids).keys id = none :=
  if_pos h

lemma follows_del (ids : List Uuid) : Follows s (s.del ids) := by
  intro id h' hkey
  change (if id ∈ ids then none else s.keys id) = some h' at hkey
  split_ifs at hkey with hid
  exact ⟨h', hkey, rfl⟩

lemma follows_expire (id : Uuid) : Follows s (s.expire id) := by
  intro i h' hkey
  by_cases hi : i = id
  · subst hi
    simp only [expire, Function.update_self, Option.map_eq_some_iff] at hkey
    obtain ⟨h, hsome, rfl⟩ := hkey
    exact ⟨h, hsome, rfl⟩
  · simp only [expire, Function.update_of_ne hi] at hkey
    exact ⟨h', hkey, rfl⟩

/-- `HSET` on a key that is there and belongs to the user. -/
lemma follows_hsetUser {id : Uuid} {user : AuthUser} (hsome : (s.keys id).isSome)
    (huser : ∀ h, s.keys id = some h → h.user.id = user.id) : Follows s (s.hsetUser id user) := by
  intro i h' hkey
  by_cases hi : i = id
  · subst hi
    obtain ⟨h, hh⟩ := Option.isSome_iff_exists.mp hsome
    simp only [hsetUser, Function.update_self, hh] at hkey
    obtain rfl := Option.some.inj hkey
    exact ⟨h, hh, huser h hh⟩
  · simp only [hsetUser, Function.update_of_ne hi] at hkey
    exact ⟨h', hkey, rfl⟩

lemma srem_index_subset (user id u : Uuid) : (s.srem user id).index u ⊆ s.index u := by
  by_cases hu : u = user
  · subst hu
    simp only [srem, Function.update_self]
    exact Finset.erase_subset _ _
  · simp only [srem, Function.update_of_ne hu]
    exact subset_rfl

/-- `SREM` loses nothing but its identifier. -/
lemma mem_srem {user id u i : Uuid} (hi : i ∈ s.index u) (hne : i ≠ id) :
    i ∈ (s.srem user id).index u := by
  by_cases hu : u = user
  · subst hu
    simp only [srem, Function.update_self]
    exact Finset.mem_erase.mpr ⟨hne, hi⟩
  · simpa only [srem, Function.update_of_ne hu]

lemma delIndex_subset (user u : Uuid) : (s.delIndex user).index u ⊆ s.index u := by
  by_cases hu : u = user
  · subst hu
    simp only [delIndex, Function.update_self]
    exact Finset.empty_subset _
  · simp only [delIndex, Function.update_of_ne hu]
    exact subset_rfl

/-- The `SREM` of a key that is gone. -/
lemma indexed_srem {user id : Uuid} (hi : Indexed s) (hnone : s.keys id = none) :
    Indexed (s.srem user id) := by
  refine hi.follows (Follows.refl s) fun i h hkey hmem => s.mem_srem hmem ?_
  rintro rfl
  change s.keys i = some h at hkey
  rw [hnone] at hkey
  cases hkey

/-- `DEL` of a set without sessions. -/
lemma indexed_delIndex {user : Uuid} (hi : Indexed s)
    (hnone : ∀ id ∈ s.index user, s.keys id = none) : Indexed (s.delIndex user) := by
  intro id h hkey
  change s.keys id = some h at hkey
  have hmem := hi id h hkey
  have hu : h.user.id ≠ user := by
    intro hu
    rw [hu] at hmem
    rw [hnone id hmem] at hkey
    cases hkey
  simpa only [delIndex, Function.update_of_ne hu]

/-- A new session is listed, and the others stay so. -/
lemma indexed_create {id : Uuid} (hi : Indexed s) (csrf : String) (user : AuthUser) :
    Indexed (s.create id csrf user) := by
  intro i h hkey
  by_cases hid : i = id
  · subst hid
    simp only [create, Function.update_self] at hkey
    obtain rfl := Option.some.inj hkey
    simp only [create, Function.update_self]
    exact Finset.mem_insert_self _ _
  · simp only [create, Function.update_of_ne hid] at hkey
    have hmem := hi i h hkey
    by_cases hu : h.user.id = user.id
    · simp only [create, hu, Function.update_self]
      exact Finset.mem_insert_of_mem (hu ▸ hmem)
    · simpa only [create, Function.update_of_ne hu]

lemma settled_create {id : Uuid} {known : Finset Uuid} (hid : id ∉ known) (csrf : String)
    (user : AuthUser) : Settled known s (s.create id csrf user) := by
  intro i hi h' hkey
  have hne : i ≠ id := fun h => hid (h ▸ hi)
  simp only [create, Function.update_of_ne hne] at hkey
  exact ⟨h', hkey, rfl⟩

end Store

/-! ### The tasks -/

section Exec

variable (U : Unicode) {known : Finset Uuid} {s : Store} {task : Task} (ids : List Uuid)

/-- No command of a careful task makes a session key appear. -/
lemma exec_follows (hsound : task.Sound known s) (hc : task.Careful s) :
    Follows s (s.exec U ids task).1 := by
  cases task with
  | load request header id =>
      rw [Store.exec]
      split <;> exact Follows.refl s
  | refresh request header session => exact s.follows_expire session.id
  | remove user id rest => exact s.follows_del [id]
  | unlist user id rest | drop user id rest => exact Follows.refl s
  | check user id rest | readOthers session | readListed user | readOwn user | readInvalid user =>
      rw [Store.exec]
      split_ifs <;> exact Follows.refl s
  | rename id user => exact s.follows_hsetUser hc hsound.2
  | clear user read id rest => exact s.follows_del [id]
  | clearAll user read => exact s.follows_del read
  | close user read => exact Follows.refl s

/-- No command adds to a set. -/
lemma exec_index (u : Uuid) : (s.exec U ids task).1.index u ⊆ s.index u := by
  cases task with
  | load request header id =>
      rw [Store.exec]
      split <;> exact subset_rfl
  | refresh request header session => exact subset_rfl
  | remove user id rest | clear user read id rest | clearAll user read => exact subset_rfl
  | unlist user id rest | drop user id rest => exact s.srem_index_subset user id u
  | check user id rest | readOthers session | readListed user | readOwn user | readInvalid user =>
      rw [Store.exec]
      split_ifs <;> exact subset_rfl
  | rename id user => exact subset_rfl
  | close user read => exact s.delIndex_subset user u

/-- A careful task leaves every session key listed. -/
lemma exec_indexed (hi : Indexed s) (hsound : task.Sound known s) (hc : task.Careful s) :
    Indexed (s.exec U ids task).1 := by
  have hf := exec_follows U ids hsound hc
  cases task with
  | unlist user id rest | drop user id rest => exact s.indexed_srem hi hsound.1
  | close user read =>
      refine s.indexed_delIndex hi fun id hid => ?_
      -- a session of the set that is still there was read, and what was read is gone
      cases hkey : s.keys id with
      | none => rfl
      | some h =>
          have hread := (hsound id (hc id hid (by rw [hkey]; rfl))).2
          rw [hkey] at hread
          cases hread
  | load request header id =>
      rw [Store.exec] at hf ⊢
      split <;> exact hi
  | check user id rest | readOthers session | readListed user | readOwn user | readInvalid user =>
      rw [Store.exec] at hf ⊢
      split_ifs <;> exact hi
  | refresh request header session => exact hi.follows hf fun id h _ hmem => hmem
  | remove user id rest => exact hi.follows hf fun id h _ hmem => hmem
  | rename id user => exact hi.follows hf fun id h _ hmem => hmem
  | clear user read id rest => exact hi.follows hf fun id h _ hmem => hmem
  | clearAll user read => exact hi.follows hf fun id h _ hmem => hmem

lemma removeEach_sound {user : Uuid} {rest : List Uuid} (h : ∀ i ∈ rest, i ∈ known) :
    ∀ t ∈ Task.removeEach user rest, t.Sound known s := by
  intro t ht
  cases rest with
  | nil => cases ht
  | cons id rest =>
      obtain rfl := Option.some.inj ht
      exact List.forall_mem_cons.mp h

lemma checkEach_sound {user : Uuid} {rest : List Uuid} (h : ∀ i ∈ rest, i ∈ known) :
    ∀ t ∈ Task.checkEach user rest, t.Sound known s := by
  intro t ht
  cases rest with
  | nil => cases ht
  | cons id rest =>
      obtain rfl := Option.some.inj ht
      exact List.forall_mem_cons.mp h

lemma clearEach_sound {user : Uuid} {read rest : List Uuid}
    (h : ∀ i ∈ read, i ∈ known ∧ (i ∈ rest ∨ s.keys i = none)) :
    (Task.clearEach user read rest).Sound known s := by
  cases rest with
  | nil => exact fun i hi => ⟨(h i hi).1, (h i hi).2.resolve_left List.not_mem_nil⟩
  | cons id rest =>
      intro i hi
      obtain ⟨hk, hcase⟩ := h i hi
      refine ⟨hk, ?_⟩
      rw [List.mem_cons, or_assoc] at hcase
      exact hcase

lemma members_known {user : Uuid} (h : s.Members user ids)
    (hindex : ∀ u, s.index u ⊆ known) : ∀ i ∈ ids, i ∈ known := by
  intro i hi
  refine hindex user ?_
  rw [← h.2]
  exact List.mem_toFinset.mpr hi

/-- A request whose session is known continues soundly. -/
lemma next_sound {request : Request} {header : Option String} {session : Session}
    (h : Task.Sound known s (.refresh request header session)) :
    ∀ t ∈ orEnd (request.next U header session), t.Sound known s := by
  obtain ⟨hnamed, hid, huser⟩ := h
  intro t ht
  have hok := mem_orEnd.mp ht
  cases request with
  | other => cases Except.ok.inj hok
  | listSessions =>
      obtain rfl := Option.some.inj (Except.ok.inj hok)
      trivial
  | logout =>
      obtain ⟨-, -, hok⟩ := bind_eq_ok hok
      obtain rfl := Option.some.inj (Except.ok.inj hok)
      exact ⟨hid, fun i hi => absurd hi List.not_mem_nil⟩
  | revokeSession id =>
      obtain ⟨-, -, hok⟩ := bind_eq_ok hok
      split_ifs at hok
      obtain rfl := Option.some.inj (Except.ok.inj hok)
      exact ⟨hnamed (Finset.mem_singleton_self id), fun i hi => absurd hi List.not_mem_nil⟩
  | changePassword | deleteAccount =>
      obtain ⟨-, -, hok⟩ := bind_eq_ok hok
      obtain rfl := Option.some.inj (Except.ok.inj hok)
      trivial
  | updateAccount username =>
      obtain ⟨-, -, hok⟩ := bind_eq_ok hok
      obtain ⟨-, -, hok⟩ := bind_eq_ok hok
      obtain rfl := Option.some.inj (Except.ok.inj hok)
      exact ⟨hid, huser⟩

/-- What a task does next is sound again. -/
lemma exec_sound (hkeys : ∀ id h, s.keys id = some h → id ∈ known)
    (hindex : ∀ u, s.index u ⊆ known) (hsound : task.Sound known s) (hc : task.Careful s) :
    ∀ t ∈ (s.exec U ids task).2, t.Sound known (s.exec U ids task).1 := by
  have hf := (exec_follows U ids hsound hc).settled known
  cases task with
  | load request header id =>
      rw [Store.exec]
      split
      next csrf user expires hkey =>
        intro t ht
        obtain rfl := Option.some.inj ht
        refine ⟨hsound, hkeys id _ hkey, fun h hh => ?_⟩
        obtain rfl := Option.some.inj (hkey.symm.trans hh)
        rfl
      next => exact fun t ht => nomatch ht
  | refresh request header session =>
      exact fun t ht => (next_sound U hsound t ht).mono subset_rfl hf
  | remove user id rest =>
      intro t ht
      obtain rfl := Option.some.inj ht
      exact ⟨s.del_keys_of_mem (List.mem_singleton_self id), hsound⟩
  | unlist user id rest => exact removeEach_sound hsound.2.2
  | check user id rest =>
      rw [Store.exec]
      split_ifs with hkey
      · exact checkEach_sound hsound.2
      · intro t ht
        obtain rfl := Option.some.inj ht
        exact ⟨Option.not_isSome_iff_eq_none.mp hkey, hsound⟩
  | drop user id rest => exact checkEach_sound hsound.2.2
  | rename id user => exact fun t ht => nomatch ht
  | readOthers session =>
      rw [Store.exec]
      split_ifs with hids
      · exact removeEach_sound fun i hi =>
          members_known ids hids hindex i (List.mem_of_mem_filter hi)
      · intro t ht
        obtain rfl := Option.some.inj ht
        trivial
  | readListed user =>
      rw [Store.exec]
      split_ifs with hids
      · exact checkEach_sound (members_known ids hids hindex)
      · intro t ht
        obtain rfl := Option.some.inj ht
        trivial
  | readOwn user =>
      rw [Store.exec]
      split_ifs with hids
      · intro t ht
        obtain rfl := Option.some.inj ht
        exact clearEach_sound fun i hi => ⟨members_known ids hids hindex i hi, .inl hi⟩
      · intro t ht
        obtain rfl := Option.some.inj ht
        trivial
  | readInvalid user =>
      rw [Store.exec]
      split_ifs with hids hnil
      · intro t ht
        obtain rfl := Option.some.inj ht
        subst hnil
        exact fun i hi => absurd hi List.not_mem_nil
      · intro t ht
        obtain rfl := Option.some.inj ht
        exact members_known ids hids hindex
      · intro t ht
        obtain rfl := Option.some.inj ht
        trivial
  | clear user read id rest =>
      intro t ht
      obtain rfl := Option.some.inj ht
      refine clearEach_sound fun i hi => ?_
      obtain ⟨hk, rfl | hrest | hnone⟩ := hsound i hi
      · exact ⟨hk, .inr (s.del_keys_of_mem (List.mem_singleton_self i))⟩
      · exact ⟨hk, .inl hrest⟩
      · exact ⟨hk, .inr (hf.none hk hnone)⟩
  | clearAll user read =>
      intro t ht
      obtain rfl := Option.some.inj ht
      exact fun i hi => ⟨hsound i hi, s.del_keys_of_mem hi⟩
  | close user read => exact fun t ht => nomatch ht

end Exec

/-! ### Runs keep the invariant -/

/-- The invariant: the keys are listed, every identifier in use is known, and every task is sound.
-/
structure Tidy (s : State) : Prop where
  indexed : Indexed s.store
  keys_known : ∀ id h, s.store.keys id = some h → id ∈ s.known
  index_known : ∀ u, s.store.index u ⊆ s.known
  sound : ∀ k, ∀ task ∈ s.tasks k, task.Sound s.known s.store

lemma tidy_start : Tidy {} where
  indexed _ _ hkey := nomatch hkey
  keys_known _ _ hkey := nomatch hkey
  index_known _ := Finset.empty_subset _
  sound _ _ ht := nomatch ht

/-- A task that is put into its place, the others as they are. -/
lemma sound_update {s : State} {known : Finset Uuid} {store : Store} {k : ℕ} {new : Option Task}
    (h : ∀ j, ∀ task ∈ s.tasks j, task.Sound known store)
    (hnew : ∀ task ∈ new, task.Sound known store) :
    ∀ j, ∀ task ∈ Function.update s.tasks k new j, task.Sound known store := by
  intro j task ht
  by_cases hj : j = k
  · subst hj
    rw [Function.update_self] at ht
    exact hnew task ht
  · rw [Function.update_of_ne hj] at ht
    exact h j task ht

lemma Tidy.spawn {s : State} (h : Tidy s) (k : ℕ) (task : Task) (named : Finset Uuid)
    (hsound : task.Sound (s.known ∪ named) s.store) : Tidy (s.spawn k task named) := by
  have hsub : s.known ⊆ s.known ∪ named := Finset.subset_union_left
  rw [State.spawn]
  split_ifs
  · exact h
  · refine ⟨h.indexed, fun id hash hkey => hsub (h.keys_known id hash hkey),
      fun u => (h.index_known u).trans hsub, sound_update (fun j t ht => ?_) fun t ht => ?_⟩
    · exact (h.sound j t ht).mono hsub (Settled.refl _ _)
    · obtain rfl := Option.some.inj ht
      exact hsound

/-- A careful move keeps the invariant. -/
lemma Tidy.step (U : Unicode) {s : State} (h : Tidy s) (a : Act) (hc : Careful s a) :
    Tidy (s.step U a) := by
  cases a with
  | createSession id csrf user =>
      rw [State.step]
      split_ifs with hid
      · exact h
      have hsub : s.known ⊆ insert id s.known := Finset.subset_insert _ _
      refine ⟨s.store.indexed_create h.indexed csrf user, fun i hash hkey => ?_, fun u i hi => ?_,
        fun k t ht => (h.sound k t ht).mono hsub (s.store.settled_create hid csrf user)⟩
      · by_cases hi : i = id
        · exact hi ▸ Finset.mem_insert_self _ _
        · simp only [Store.create, Function.update_of_ne hi] at hkey
          exact hsub (h.keys_known i hash hkey)
      · by_cases hu : u = user.id
        · subst hu
          simp only [Store.create, Function.update_self] at hi
          exact Finset.insert_subset_insert id (h.index_known user.id) hi
        · simp only [Store.create, Function.update_of_ne hu] at hi
          exact hsub (h.index_known u hi)
  | lapse id =>
      rw [State.step]
      split_ifs
      · have hf := s.store.follows_del [id]
        refine ⟨h.indexed.follows hf fun i hash _ hmem => hmem, fun i hash hkey => ?_,
          h.index_known, fun k t ht => (h.sound k t ht).mono subset_rfl (hf.settled _)⟩
        obtain ⟨hash', hkey', -⟩ := hf i hash hkey
        exact h.keys_known i hash' hkey'
      · exact h
  | arrive k request header cookie =>
      exact h.spawn k _ _ Finset.subset_union_right
  | invalidate k user => exact h.spawn k _ _ trivial
  | run k ids =>
      rw [State.step]
      cases htask : s.tasks k with
      | none => exact h
      | some task =>
          have hs := h.sound k task htask
          have hcareful := hc task htask
          have hf := exec_follows U ids hs hcareful
          refine ⟨exec_indexed U ids h.indexed hs hcareful, fun i hash hkey => ?_,
            fun u => (exec_index U ids u).trans (h.index_known u),
            sound_update (fun j t ht => (h.sound j t ht).mono subset_rfl (hf.settled _))
              (exec_sound U ids h.keys_known h.index_known hs hcareful)⟩
          obtain ⟨hash', hkey', -⟩ := hf i hash hkey
          exact h.keys_known i hash' hkey'
  | abort k =>
      exact ⟨h.indexed, h.keys_known, h.index_known,
        sound_update h.sound fun t ht => nomatch ht⟩

/-- In a run of careful steps every session key is listed in the set of its user, in the last state
and so in every state before it. -/
theorem indexed_along (U : Unicode) (as : List Act) (h : Along (State.step U) Careful {} as) :
    Indexed (final (State.step U) {} as).store :=
  (Along.invariant (I := Tidy) (fun _ a hs hc => Tidy.step U hs a hc) tidy_start h).indexed

/-! ### Runs on two sessions -/

/-- A user. -/
def ada : AuthUser :=
  { id := 1, email := "a@x", username := "ada", roles := ["user"], permissions := [] }

/-- A user with two sessions logs out of the first and is invalidated; the sessions are gone and
a later login is listed. -/
def logoutThenInvalidate : List Act :=
  [.createSession 11 "c" ada, .createSession 12 "d" ada,
    .arrive 0 .logout (some "c") 11, .run 0 [], .run 0 [], .run 0 [],
    .invalidate 1 1, .run 1 [12, 11], .run 0 [], .run 1 [], .run 1 [],
    .createSession 13 "e" ada]

theorem indexed_logoutThenInvalidate :
    Along (State.step .ascii) Careful {} logoutThenInvalidate ∧
      Indexed (final (State.step .ascii) {} logoutThenInvalidate).store := by
  have hcareful : Along (State.step .ascii) Careful {} logoutThenInvalidate := by
    decide +kernel
  exact ⟨hcareful, indexed_along .ascii logoutThenInvalidate hcareful⟩

/-- A login between the `SMEMBERS` of an invalidation and its `DEL` of the set. -/
def lateLogin : List Act :=
  [.createSession 11 "c" ada, .invalidate 0 1, .run 0 [11], .createSession 12 "d" ada,
    .run 0 [], .run 0 []]

/-- A rename whose `HSET` comes after a logout of the same session. -/
def lateRename : List Act :=
  [.createSession 11 "c" ada, .arrive 0 (.updateAccount "eve") (some "c") 11, .run 0 [], .run 0 [],
    .arrive 1 .logout (some "c") 11, .run 1 [], .run 1 [], .run 1 [], .run 1 [], .run 0 []]

/-- After the login the late session exists and is listed nowhere. After the rename the key of the
session is back without a token, never expires and is listed nowhere. -/
theorem lateLogin_not_indexed :
    (final (State.step .ascii) {} lateLogin).store.keys 12 =
        some { csrf := some "d", user := ada, expires := true } ∧
      ¬ Indexed (final (State.step .ascii) {} lateLogin).store ∧
      (final (State.step .ascii) {} lateRename).store.keys 11 =
        some { csrf := none, user := { ada with username := "eve" }, expires := false } ∧
      ¬ Indexed (final (State.step .ascii) {} lateRename).store := by
  have hlogin : (final (State.step .ascii) {} lateLogin).store.keys 12 =
      some { csrf := some "d", user := ada, expires := true } := by decide
  have hrename : (final (State.step .ascii) {} lateRename).store.keys 11 =
      some { csrf := none, user := { ada with username := "eve" }, expires := false } := by
    decide +kernel
  refine ⟨hlogin, fun hindexed => ?_, hrename, fun hindexed => ?_⟩
  · have hmem := hindexed 12 _ hlogin
    revert hmem
    decide
  · have hmem := hindexed 11 _ hrename
    revert hmem
    decide +kernel

end Vussa.Sessions
