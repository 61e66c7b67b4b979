import Vussa.Sessions.Index

/-!
Whose session keys and whose set the commands of a request write, in every run of `Index`.

A session key does not name its user. What ties it to one is the set of the user, and
`revoke_session` deletes the key its path names without asking that set.

* `Served`, `Served.step`: the runs, with the request at each place of the tasks;
* `Spares`: the session keys and the sets of the other users stay as they were;
* `Store.Owned`, `Task.Owned`: every session belongs to one user, and a task but for
  `revoke_session` deletes keys of its own user;
* `Served.Spared`, `Served.Own`: a command spares the other users; no `DEL` of `revoke_session`
  hits a key of another user;
* `Served.spared_along_iff`: **the commands of all requests spare the other users iff no `DEL` of
  `revoke_session` hits a key of another user**;
* `Served.not_spared_revoke`: a user ends the session of another one.
-/

namespace Vussa.Sessions

open Run
open Effect (bind_eq_ok)

/-! ### The property -/

/-- The user a task works for, once the session is loaded. -/
def Task.user : Task → Option Uuid
  | load _ _ _ => none
  | refresh _ _ session | readOthers session => some session.user.id
  | remove user _ _ | unlist user _ _ | check user _ _ | drop user _ _ | readListed user
  | readOwn user | readInvalid user | clear user _ _ _ | clearAll user _ | close user _ =>
      some user
  | rename _ user => some user.id

/-- The session keys and the sets of all users but one are as they were. -/
def Spares (user : Option Uuid) (s s' : Store) : Prop :=
  ∀ v, user ≠ some v →
    s'.index v = s.index v ∧ ∀ id h, h.user.id = v → (s'.keys id = some h ↔ s.keys id = some h)

/-- A run, with the request that each place was given to; an invalidation is none. -/
structure Served where
  state : State := {}
  request : ℕ → Option Request := fun _ => none

namespace Served

/-- One move. -/
def step (U : Unicode) (s : Served) (a : Act) : Served where
  state := s.state.step U a
  request := match a with
    | .arrive k request _ _ =>
        if (s.state.tasks k).isSome then s.request else Function.update s.request k (some request)
    | .invalidate k _ =>
        if (s.state.tasks k).isSome then s.request else Function.update s.request k none
    | .createSession _ _ _ | .lapse _ | .run _ _ | .abort _ => s.request

/-- A command of a task spares the users it does not work for. -/
def Spared (U : Unicode) (s : Served) (a : Act) : Prop :=
  match a with
  | .run k _ =>
      ∀ task ∈ s.state.tasks k, Spares task.user s.state.store (s.step U a).state.store
  | _ => True

/-- The `DEL` of `revoke_session` finds no key of another user. -/
def Own (s : Served) : Act → Prop
  | .run k _ => ∀ user id rest, s.state.tasks k = some (.remove user id rest) →
      s.request k = some (.revokeSession id) →
        ∀ h, s.state.store.keys id = some h → h.user.id = user
  | _ => True

end Served

/-! ### The commands -/

lemma Spares.refl (user : Option Uuid) (s : Store) : Spares user s s :=
  fun _ _ => ⟨rfl, fun _ _ _ => Iff.rfl⟩

/-- A key that is not another user's before or after is not another user's business. -/
lemma spares_of_keys {user : Uuid} {s s' : Store} (hindex : ∀ v, v ≠ user → s'.index v = s.index v)
    (hkeys : ∀ id, s'.keys id = s.keys id ∨
      ((∀ h, s.keys id = some h → h.user.id = user) ∧ ∀ h, s'.keys id = some h → h.user.id = user)) :
    Spares (some user) s s' := by
  intro v hv
  have hne : v ≠ user := fun h => hv (congrArg some h.symm)
  refine ⟨hindex v hne, fun id h hh => ?_⟩
  rcases hkeys id with hsame | ⟨hbefore, hafter⟩
  · rw [hsame]
  · exact iff_of_false (fun hkey => hne (hh.symm.trans (hafter h hkey)))
      fun hkey => hne (hh.symm.trans (hbefore h hkey))

namespace Store

variable (s : Store)

/-- `DEL` of session keys. -/
lemma spares_del_iff {user : Uuid} {ids : List Uuid} : Spares (some user) s (s.del ids) ↔
    ∀ id ∈ ids, ∀ h, s.keys id = some h → h.user.id = user := by
  constructor
  · intro hspares id hid h hkey
    by_contra hne
    have hstay := ((hspares h.user.id fun heq => hne (Option.some.inj heq).symm).2 id h rfl).mpr hkey
    rw [s.del_keys_of_mem hid] at hstay
    cases hstay
  · intro hown
    refine spares_of_keys (fun _ _ => rfl) fun id => ?_
    by_cases hid : id ∈ ids
    · refine .inr ⟨hown id hid, fun h hkey => ?_⟩
      rw [s.del_keys_of_mem hid] at hkey
      cases hkey
    · exact .inl (if_neg hid)

lemma spares_srem (user id : Uuid) : Spares (some user) s (s.srem user id) :=
  spares_of_keys (fun _ hv => Function.update_of_ne hv _ _) fun _ => .inl rfl

lemma spares_delIndex (user : Uuid) : Spares (some user) s (s.delIndex user) :=
  spares_of_keys (fun _ hv => Function.update_of_ne hv _ _) fun _ => .inl rfl

/-- `EXPIRE` and `HSET` of a key that is not another user's. -/
lemma spares_expire {user id : Uuid} (h : ∀ hash, s.keys id = some hash → hash.user.id = user) :
    Spares (some user) s (s.expire id) := by
  refine spares_of_keys (fun _ _ => rfl) fun i => ?_
  by_cases hi : i = id
  · subst hi
    refine .inr ⟨h, fun hash' hkey => ?_⟩
    obtain ⟨hash, hsome, heq⟩ := s.follows_expire i i hash' hkey
    rw [← heq]
    exact h hash hsome
  · exact .inl (Function.update_of_ne hi _ _)

lemma hsetUser_user {id : Uuid} {user : AuthUser} {hash : SessionHash}
    (h : (s.hsetUser id user).keys id = some hash) : hash.user = user := by
  simp only [hsetUser, Function.update_self, Option.some.injEq] at h
  rw [← h]
  split
  · rfl
  · rfl

lemma spares_hsetUser {id : Uuid} {user : AuthUser}
    (h : ∀ hash, s.keys id = some hash → hash.user.id = user.id) :
    Spares (some user.id) s (s.hsetUser id user) := by
  refine spares_of_keys (fun _ _ => rfl) fun i => ?_
  by_cases hi : i = id
  · subst hi
    exact .inr ⟨h, fun hash hkey => congrArg AuthUser.id (s.hsetUser_user hkey)⟩
  · exact .inl (Function.update_of_ne hi _ _)

end Store

/-! ### Owners -/

/-- The owner of each identifier in use: its key holds that user, and only the set of that user
lists it. -/
structure Store.Owned (owner : Uuid → Uuid) (known : Finset Uuid) (s : Store) : Prop where
  keys : ∀ id h, s.keys id = some h → id ∈ known ∧ owner id = h.user.id
  index : ∀ u, ∀ id ∈ s.index u, id ∈ known ∧ owner id = u

/-- The identifiers that a task deletes or writes are its user's; `revoke_session` has one that
may be anybody's. -/
def Task.Owned (owner : Uuid → Uuid) (known : Finset Uuid) (request : Option Request) :
    Task → Prop
  | load r _ _ => request = some r
  | refresh r _ session =>
      request = some r ∧ session.id ∈ known ∧ owner session.id = session.user.id
  | remove user id rest =>
      (request ≠ some (.revokeSession id) → id ∈ known ∧ owner id = user) ∧
        ∀ i ∈ rest, i ∈ known ∧ owner i = user
  | unlist user _ rest => ∀ i ∈ rest, i ∈ known ∧ owner i = user
  | rename id user => id ∈ known ∧ owner id = user.id
  | clear user _ id rest => ∀ i ∈ id :: rest, i ∈ known ∧ owner i = user
  | clearAll user ids => ∀ i ∈ ids, i ∈ known ∧ owner i = user
  | _ => True

section Exec

variable (U : Unicode) {owner : Uuid → Uuid} {known : Finset Uuid} {s : Store} {task : Task}
  {request : Option Request} (ids : List Uuid)

lemma Store.Owned.user_eq (hs : s.Owned owner known) {id user : Uuid}
    (hid : id ∈ known ∧ owner id = user) : ∀ h, s.keys id = some h → h.user.id = user :=
  fun h hkey => (hs.keys id h hkey).2.symm.trans hid.2

/-- A store without new keys and without new entries. -/
lemma Store.Owned.follows (hs : s.Owned owner known) {s' : Store} (hf : Follows s s')
    (hindex : ∀ u, s'.index u ⊆ s.index u) : s'.Owned owner known := by
  refine ⟨fun id h' hkey => ?_, fun u id hid => hs.index u id (hindex u hid)⟩
  obtain ⟨h, hsome, heq⟩ := hf id h' hkey
  rw [← heq]
  exact hs.keys id h hsome

lemma members_owned {user : Uuid} (hs : s.Owned owner known) (h : s.Members user ids) :
    ∀ i ∈ ids, i ∈ known ∧ owner i = user := by
  intro i hi
  refine hs.index user i ?_
  rw [← h.2]
  exact List.mem_toFinset.mpr hi

/-- A command spares the other users, unless it is the `DEL` of `revoke_session`. -/
lemma exec_spares_iff (hs : s.Owned owner known) (ht : task.Owned owner known request) :
    Spares task.user s (s.exec U ids task).1 ↔
      ∀ user id rest, task = .remove user id rest → request = some (.revokeSession id) →
        ∀ h, s.keys id = some h → h.user.id = user := by
  cases task with
  | remove user id rest =>
      rw [Store.exec, Task.user, s.spares_del_iff, List.forall_mem_singleton]
      constructor
      · rintro hown _ _ _ ⟨⟩ -
        exact hown
      · intro hrevoke
        by_cases hrequest : request = some (.revokeSession id)
        · exact hrevoke user id rest rfl hrequest
        · exact hs.user_eq (ht.1 hrequest)
  | load r header id =>
      refine iff_of_true ?_ fun _ _ _ h => absurd h (by simp)
      rw [Store.exec]
      split <;> exact Spares.refl _ s
  | refresh r header session =>
      exact iff_of_true (s.spares_expire (hs.user_eq ht.2)) fun _ _ _ h => absurd h (by simp)
  | unlist user id rest | drop user id rest =>
      exact iff_of_true (s.spares_srem user id) fun _ _ _ h => absurd h (by simp)
  | check user id rest | readOthers session | readListed user | readOwn user | readInvalid user =>
      refine iff_of_true ?_ fun _ _ _ h => absurd h (by simp)
      rw [Store.exec]
      split_ifs <;> exact Spares.refl _ s
  | rename id user =>
      exact iff_of_true (s.spares_hsetUser (hs.user_eq ht)) fun _ _ _ h => absurd h (by simp)
  | clear user read id rest =>
      refine iff_of_true (s.spares_del_iff.mpr ?_) fun _ _ _ h => absurd h (by simp)
      exact List.forall_mem_singleton.mpr (hs.user_eq (ht id List.mem_cons_self))
  | clearAll user read =>
      exact iff_of_true (s.spares_del_iff.mpr fun i hi => hs.user_eq (ht i hi))
        fun _ _ _ h => absurd h (by simp)
  | close user read => exact iff_of_true (s.spares_delIndex user) fun _ _ _ h => absurd h (by simp)

/-- The owners stay. -/
lemma exec_owned (hs : s.Owned owner known) (ht : task.Owned owner known request) :
    (s.exec U ids task).1.Owned owner known := by
  cases task with
  | rename id user =>
      refine ⟨fun i h hkey => ?_, hs.index⟩
      by_cases hi : i = id
      · subst hi
        rw [s.hsetUser_user hkey]
        exact ht
      · simp only [Store.exec, Store.hsetUser, Function.update_of_ne hi] at hkey
        exact hs.keys i h hkey
  | load r header id =>
      rw [Store.exec]
      split <;> exact hs
  | check user id rest | readOthers session | readListed user | readOwn user | readInvalid user =>
      rw [Store.exec]
      split_ifs <;> exact hs
  | refresh r header session => exact hs.follows (s.follows_expire session.id) fun _ => subset_rfl
  | remove user id rest => exact hs.follows (s.follows_del [id]) fun _ => subset_rfl
  | unlist user id rest | drop user id rest =>
      exact hs.follows (Follows.refl s) (s.srem_index_subset user id)
  | clear user read id rest => exact hs.follows (s.follows_del [id]) fun _ => subset_rfl
  | clearAll user read => exact hs.follows (s.follows_del read) fun _ => subset_rfl
  | close user read => exact hs.follows (Follows.refl s) (s.delIndex_subset user)

lemma owned_some {task : Task} (h : task.Owned owner known request) :
    ∀ t ∈ some task, t.Owned owner known request := by
  intro t ht
  obtain rfl := Option.some.inj ht
  exact h

lemma removeEach_owned {user : Uuid} {rest : List Uuid}
    (h : ∀ i ∈ rest, i ∈ known ∧ owner i = user) :
    ∀ t ∈ Task.removeEach user rest, t.Owned owner known request := by
  intro t ht
  cases rest with
  | nil => cases ht
  | cons id rest =>
      obtain rfl := Option.some.inj ht
      exact ⟨fun _ => h id List.mem_cons_self, fun i hi => h i (List.mem_cons_of_mem id hi)⟩

lemma checkEach_owned {user : Uuid} {rest : List Uuid} :
    ∀ t ∈ Task.checkEach user rest, t.Owned owner known request := by
  intro t ht
  cases rest with
  | nil => cases ht
  | cons id rest =>
      obtain rfl := Option.some.inj ht
      trivial

lemma clearEach_owned {user : Uuid} {read rest : List Uuid}
    (h : ∀ i ∈ rest, i ∈ known ∧ owner i = user) :
    (Task.clearEach user read rest).Owned owner known request := by
  cases rest with
  | nil => trivial
  | cons id rest => exact h

/-- What a request does first. -/
lemma next_owned {r : Request} {header : Option String} {session : Session}
    (h : Task.Owned owner known request (.refresh r header session)) :
    ∀ t ∈ orEnd (r.next U header session), t.Owned owner known request := by
  obtain ⟨hrequest, hid⟩ := h
  intro t ht
  have hok := mem_orEnd.mp ht
  cases r with
  | other => cases Except.ok.inj hok
  | listSessions =>
      obtain rfl := Option.some.inj (Except.ok.inj hok)
      trivial
  | logout =>
      obtain ⟨-, -, hok⟩ := bind_eq_ok hok
      obtain rfl := Option.some.inj (Except.ok.inj hok)
      exact ⟨fun _ => hid, fun i hi => absurd hi List.not_mem_nil⟩
  | revokeSession id =>
      obtain ⟨-, -, hok⟩ := bind_eq_ok hok
      split_ifs at hok
      obtain rfl := Option.some.inj (Except.ok.inj hok)
      exact ⟨fun hne => absurd hrequest hne, fun i hi => absurd hi List.not_mem_nil⟩
  | changePassword | deleteAccount =>
      obtain ⟨-, -, hok⟩ := bind_eq_ok hok
      obtain rfl := Option.some.inj (Except.ok.inj hok)
      trivial
  | updateAccount username =>
      obtain ⟨-, -, hok⟩ := bind_eq_ok hok
      obtain ⟨-, -, hok⟩ := bind_eq_ok hok
      obtain rfl := Option.some.inj (Except.ok.inj hok)
      exact hid

/-- What a task does next. -/
lemma exec_next_owned (hs : s.Owned owner known) (ht : task.Owned owner known request) :
    ∀ t ∈ (s.exec U ids task).2, t.Owned owner known request := by
  cases task with
  | load r header id =>
      rw [Store.exec]
      split
      next csrf user expires hkey =>
        exact owned_some ⟨ht, hs.keys id _ hkey⟩
      next => exact fun t hmem => absurd hmem (Option.not_mem_none t)
  | refresh r header session => exact next_owned U ht
  | remove user id rest =>
      exact owned_some ht.2
  | unlist user id rest => exact removeEach_owned ht
  | check user id rest =>
      rw [Store.exec]
      split_ifs with hkey
      · exact checkEach_owned
      · exact owned_some trivial
  | drop user id rest => exact checkEach_owned
  | rename id user => exact fun t hmem => absurd hmem (Option.not_mem_none t)
  | readOthers session =>
      rw [Store.exec]
      split_ifs with hids
      · exact removeEach_owned fun i hi => members_owned ids hs hids i (List.mem_of_mem_filter hi)
      · exact owned_some trivial
  | readListed user =>
      rw [Store.exec]
      split_ifs with hids
      · exact checkEach_owned
      · exact owned_some trivial
  | readOwn user =>
      rw [Store.exec]
      split_ifs with hids
      · exact owned_some (clearEach_owned (members_owned ids hs hids))
      · exact owned_some trivial
  | readInvalid user =>
      rw [Store.exec]
      split_ifs with hids hnil
      · exact owned_some trivial
      · exact owned_some (members_owned ids hs hids)
      · exact owned_some trivial
  | clear user read id rest =>
      exact owned_some (clearEach_owned fun i hi => ht i (List.mem_cons_of_mem id hi))
  | clearAll user read =>
      exact owned_some trivial
  | close user read => exact fun t hmem => absurd hmem (Option.not_mem_none t)

end Exec

/-! ### Runs -/

/-- An identifier that is given to a user for the first time. -/
lemma Task.Owned.mono {owner owner' : Uuid → Uuid} {known known' : Finset Uuid}
    {request : Option Request} {task : Task} (h : task.Owned owner known request)
    (hmine : ∀ i user, i ∈ known ∧ owner i = user → i ∈ known' ∧ owner' i = user) :
    task.Owned owner' known' request := by
  cases task with
  | load r header id => exact h
  | refresh r header session => exact ⟨h.1, hmine _ _ h.2⟩
  | remove user id rest =>
      exact ⟨fun hne => hmine _ _ (h.1 hne), fun i hi => hmine _ _ (h.2 i hi)⟩
  | unlist user id rest => exact fun i hi => hmine _ _ (h i hi)
  | rename id user => exact hmine _ _ h
  | clear user read id rest => exact fun i hi => hmine _ _ (h i hi)
  | clearAll user read => exact fun i hi => hmine _ _ (h i hi)
  | _ => trivial

namespace Served

/-- The invariant: the sessions have owners, and the tasks keep to those of their user. -/
structure Owned (owner : Uuid → Uuid) (s : Served) : Prop where
  store : s.state.store.Owned owner s.state.known
  tasks : ∀ k, ∀ task ∈ s.state.tasks k, task.Owned owner s.state.known (s.request k)

lemma owned_start : Owned id {} where
  store := ⟨fun _ _ hkey => absurd hkey (by simp),
    fun _ _ hid => absurd hid (Finset.notMem_empty _)⟩
  tasks _ _ ht := nomatch ht

variable {owner : Uuid → Uuid} {s : Served}

/-- A task that is put into its place, with its request. -/
lemma owned_update {known : Finset Uuid} {tasks : ℕ → Option Task} {request : ℕ → Option Request}
    {k : ℕ} {new : Option Task} {r : Option Request}
    (h : ∀ j, ∀ task ∈ tasks j, task.Owned owner known (request j))
    (hnew : ∀ task ∈ new, task.Owned owner known r) :
    ∀ j, ∀ task ∈ Function.update tasks k new j,
      task.Owned owner known (Function.update request k r j) := by
  intro j task ht
  by_cases hj : j = k
  · subst hj
    rw [Function.update_self] at ht ⊢
    exact hnew task ht
  · rw [Function.update_of_ne hj] at ht ⊢
    exact h j task ht

/-- A request or an invalidation that takes a free place. -/
lemma Owned.spawn (h : Owned owner s) {k : ℕ} {task : Task} {named : Finset Uuid}
    {r : Option Request} (hnew : task.Owned owner (s.state.known ∪ named) r) :
    Owned owner ⟨s.state.spawn k task named,
      if (s.state.tasks k).isSome then s.request else Function.update s.request k r⟩ := by
  have hmine : ∀ i user, i ∈ s.state.known ∧ owner i = user →
      i ∈ s.state.known ∪ named ∧ owner i = user :=
    fun i user hi => ⟨Finset.mem_union_left named hi.1, hi.2⟩
  rw [State.spawn]
  split_ifs
  · exact h
  · refine ⟨⟨fun i hash hkey => hmine i _ (h.store.keys i hash hkey), fun u i hi =>
      hmine i u (h.store.index u i hi)⟩, owned_update (fun j t ht => ?_) fun t ht => ?_⟩
    · exact (h.tasks j t ht).mono hmine
    · obtain rfl := Option.some.inj ht
      exact hnew

/-- A login gives its identifier an owner. -/
lemma Owned.create (h : Owned owner s) {id : Uuid} (hid : id ∉ s.state.known) (csrf : String)
    (user : AuthUser) : Owned (Function.update owner id user.id)
      ⟨{ s.state with
          store := s.state.store.create id csrf user
          known := insert id s.state.known }, s.request⟩ := by
  have hmine : ∀ i u, i ∈ s.state.known ∧ owner i = u →
      i ∈ insert id s.state.known ∧ Function.update owner id user.id i = u := by
    rintro i u ⟨hi, howner⟩
    have hne : i ≠ id := fun heq => hid (heq ▸ hi)
    rw [Function.update_of_ne hne]
    exact ⟨Finset.mem_insert_of_mem hi, howner⟩
  have hnew : id ∈ insert id s.state.known ∧ Function.update owner id user.id id = user.id :=
    ⟨Finset.mem_insert_self _ _, Function.update_self _ _ _⟩
  refine ⟨⟨fun i hash hkey => ?_, fun u i hi => ?_⟩, fun k t ht => (h.tasks k t ht).mono hmine⟩
  · by_cases hi : i = id
    · subst hi
      simp only [Store.create, Function.update_self] at hkey
      obtain rfl := Option.some.inj hkey
      exact hnew
    · simp only [Store.create, Function.update_of_ne hi] at hkey
      exact hmine i _ (h.store.keys i hash hkey)
  · by_cases hu : u = user.id
    · subst hu
      simp only [Store.create, Function.update_self] at hi
      rcases Finset.mem_insert.mp hi with rfl | hi
      · exact hnew
      · exact hmine i _ (h.store.index user.id i hi)
    · simp only [Store.create, Function.update_of_ne hu] at hi
      exact hmine i u (h.store.index u i hi)

/-- Every move keeps the invariant. -/
lemma Owned.step (U : Unicode) (h : Owned owner s) (a : Act) :
    ∃ owner', Owned owner' (s.step U a) := by
  cases a with
  | createSession id csrf user =>
      rw [Served.step, State.step]
      split_ifs with hid
      · exact ⟨owner, h⟩
      · exact ⟨_, h.create hid csrf user⟩
  | lapse id =>
      refine ⟨owner, ?_⟩
      rw [Served.step, State.step]
      split_ifs
      · exact ⟨h.store.follows (s.state.store.follows_del [id]) fun _ => subset_rfl, h.tasks⟩
      · exact h
  | arrive k request header cookie =>
      exact ⟨owner, h.spawn (r := some request) rfl⟩
  | invalidate k user => exact ⟨owner, h.spawn (r := none) trivial⟩
  | run k ids =>
      refine ⟨owner, ?_⟩
      rw [Served.step, State.step]
      cases htask : s.state.tasks k with
      | none => exact h
      | some task =>
          have ht := h.tasks k task htask
          refine ⟨exec_owned U ids h.store ht, fun j t hmem => ?_⟩
          have hnext := owned_update (k := k) h.tasks (exec_next_owned U ids h.store ht) j t hmem
          rwa [Function.update_eq_self] at hnext
  | abort k =>
      refine ⟨owner, h.store, fun j t hmem => ?_⟩
      have hnone : ∀ t ∈ (none : Option Task), t.Owned owner s.state.known (s.request k) :=
        fun t ht => absurd ht (Option.not_mem_none t)
      have hnext := owned_update (k := k) h.tasks hnone j t hmem
      rwa [Function.update_eq_self] at hnext

/-- What a step does to the other users. -/
lemma spared_iff (U : Unicode) (h : Owned owner s) (a : Act) : Spared U s a ↔ Own s a := by
  cases a with
  | run k ids =>
      rw [Spared, Own, Served.step, State.step]
      cases htask : s.state.tasks k with
      | none => simp
      | some task =>
          have hexec := exec_spares_iff U ids h.store (h.tasks k task htask)
          simp only [Option.mem_def, Option.some.injEq, forall_eq']
          exact hexec
  | createSession id csrf user => exact Iff.rfl
  | lapse id => exact Iff.rfl
  | arrive k request header cookie => exact Iff.rfl
  | invalidate k user => exact Iff.rfl
  | abort k => exact Iff.rfl

/-- **Other users**: in every run, all commands of all requests leave the session keys and the sets
of the other users as they were iff no `DEL` of `revoke_session` hits a key of another user. -/
theorem spared_along_iff (U : Unicode) (as : List Act) :
    Along (step U) (Spared U) {} as ↔ Along (step U) Own {} as :=
  along_congr (I := fun s => ∃ owner, Owned owner s) (fun _ a ⟨_, h⟩ => h.step U a)
    (fun _ a ⟨_, h⟩ => spared_iff U h a) ⟨id, owned_start⟩ as

/-! ### A session of another user -/

/-- Another user. -/
def bob : AuthUser :=
  { id := 2, email := "b@x", username := "bob", roles := ["user"], permissions := [] }

/-- Two users log in, and the first revokes the session of the second. -/
def foreign : List Act :=
  [.createSession 11 "c" ada, .createSession 12 "d" bob,
    .arrive 0 (.revokeSession 12) (some "c") 11, .run 0 [], .run 0 [], .run 0 []]

/-- The session of the second user is gone. -/
theorem not_spared_revoke :
    ((final (step .ascii) {} (foreign.take 5)).state.store.keys 12 =
        some { csrf := some "d", user := bob, expires := true } ∧
      (final (step .ascii) {} foreign).state.store.keys 12 = none) ∧
    ¬ Along (step .ascii) (Spared .ascii) {} foreign := by
  have hkeys : (final (step .ascii) {} (foreign.take 5)).state.store.keys 12 =
        some { csrf := some "d", user := bob, expires := true } ∧
      (final (step .ascii) {} foreign).state.store.keys 12 = none := by
    decide
  have htask : (final (step .ascii) {} (foreign.take 5)).state.tasks 0 = some (.remove 1 12 []) := by
    decide
  refine ⟨hkeys, fun h => ?_⟩
  have hspares := h.2.2.2.2.2.1 (.remove 1 12 []) htask
  have hkey := ((hspares 2 (by decide)).2 12 _ rfl).mpr hkeys.1
  exact absurd (hkeys.2.symm.trans hkey) (by simp)

end Served

end Vussa.Sessions
