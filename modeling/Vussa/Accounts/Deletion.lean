import Vussa.Lib.Run
import Vussa.Accounts.Model

/-!
Deleted accounts. `login` looks at `disabled_at` alone, so that a deleted account stays out rests on
an implied invariant of two columns: `deleted_at` is never set without `disabled_at`. Of these
operations two clear `disabled_at` and do not look at `deleted_at`: `admin_enable_user` and the
upsert of `bootstrap_admin`. (The upserts of `seed_test_accounts`, which runs at a start with
`SEED_TEST_ACCOUNTS` only, do so too and are no operation here.)

* `Act`, `step`: the account operations, one after the other;
* `KeepsDisabled`, `RefusesDeleted`: the invariant, and what it is for;
* `SparesDeleted`: no operation enables a deleted account;
* `refusesDeleted_along`: **in every run whose operations enable no deleted account, deleted
  accounts stay disabled and no login succeeds for one**.
-/

namespace Vussa.Accounts

open Run

/-- The account operations. -/
inductive Act where
  | register (drawn : Drawn) (now : Millis) (email username password : String)
  | adminDisableUser (now : Millis) (actor : AuthUser) (user : Uuid)
  | adminEnableUser (now : Millis) (actor : AuthUser) (user : Uuid)
  | adminDeleteUser (now : Millis) (actor : AuthUser) (user : Uuid)
  | deleteAccount (now : Millis) (user : Uuid)
  | requestRecovery (now : Millis) (email token : String)
  | resetRecovery (salt : Uuid) (now : Millis) (token password : String)
  | bootstrapAdmin (drawn : Drawn) (now : Millis) (email password : Option String)
  deriving DecidableEq, Repr

/-- The tables after an operation; a refused one leaves them. -/
def Tables.after (t : Tables) : Except AppError Tables → Tables
  | .ok t' => t'
  | .error _ => t

/-- One operation. -/
def step (U : Unicode) (C : Crypto) (t : Tables) : Act → Tables
  | .register drawn now email username password =>
      t.after ((register U C drawn now t email username password).map Prod.fst)
  | .adminDisableUser now actor user => t.after (adminDisableUser now t actor user)
  | .adminEnableUser now actor user => t.after (adminEnableUser now t actor user)
  | .adminDeleteUser now actor user => t.after (adminDeleteUser now t actor user)
  | .deleteAccount now user => deleteAccount now t user
  | .requestRecovery now email token => t.after (requestRecovery U C now t email token)
  | .resetRecovery salt now token password =>
      t.after (resetRecovery C salt now t token password)
  | .bootstrapAdmin drawn now email password =>
      t.after (bootstrapAdmin U C drawn now t email password)

/-- A deleted account is disabled. -/
def KeepsDisabled (t : Tables) : Prop := ∀ u ∈ t.users, u.deletedAt ≠ none → u.disabledAt ≠ none

/-- No login succeeds for a deleted account. -/
def RefusesDeleted (U : Unicode) (C : Crypto) (t : Tables) : Prop :=
  ∀ ipLimit targetLimit email password user,
    login U C ipLimit targetLimit t email password = .ok user →
    ∀ u ∈ t.users, u.id = user.id → u.deletedAt = none

/-- No operation enables a deleted account: neither `admin_enable_user` by its identifier nor
`bootstrap_admin` by its address. -/
def SparesDeleted (U : Unicode) (t : Tables) : Act → Prop
  | .adminEnableUser _ actor user =>
      Permission.usersWrite ∈ actor.permissions → ∀ u ∈ t.users, u.id = user → u.deletedAt = none
  | .bootstrapAdmin _ _ (some email) (some _) =>
      ∀ u ∈ t.users, U.toLowercase u.email = U.toLowercase email → u.deletedAt = none
  | _ => True

/-- The invariant, with the primary key of `users`. -/
structure Sound (t : Tables) : Prop where
  ids : (t.users.map Account.id).Nodup
  disabled : KeepsDisabled t

/-! ### Rows -/

/-- Updates that keep the identifier and, where the row is deleted, leave it disabled. -/
lemma Sound.updateUser {t : Tables} (h : Sound t) {id : Uuid} {f : Account → Account}
    (hid : ∀ u, (f u).id = u.id)
    (hf : ∀ u ∈ t.users, u.id = id → (f u).deletedAt ≠ none → (f u).disabledAt ≠ none) :
    Sound (t.updateUser id f) := by
  refine ⟨?_, ?_⟩
  · have hsame : (t.updateUser id f).users.map Account.id = t.users.map Account.id := by
      rw [Tables.updateUser, List.map_map]
      refine List.map_congr_left fun u _ => ?_
      by_cases hu : u.id = id
      · simp [hu, hid]
      · simp [hu]
    rw [hsame]
    exact h.ids
  · intro u hu
    obtain ⟨v, hv, rfl⟩ := List.mem_map.mp hu
    by_cases hvid : v.id = id
    · rw [if_pos hvid]
      exact hf v hv hvid
    · rw [if_neg hvid]
      exact h.disabled v hv

/-- A new row is not deleted. -/
lemma Sound.insertUser {U : Unicode} {t t' : Tables} {row : Account} (h : Sound t)
    (hrow : row.deletedAt = none) (hok : t.insertUser U row = .ok t') : Sound t' := by
  rw [Tables.insertUser] at hok
  split at hok
  · exact absurd hok (by simp)
  · rename_i hfresh
    rw [Except.ok.injEq] at hok
    rw [← hok]
    refine ⟨?_, ?_⟩
    · rw [List.map_append, List.map_singleton, List.nodup_append]
      refine ⟨h.ids, List.nodup_singleton _, ?_⟩
      intro a ha b hb hab
      obtain ⟨u, hu, rfl⟩ := List.mem_map.mp ha
      rw [List.mem_singleton] at hb
      exact hfresh ⟨u, hu, Or.inl (hab.trans hb)⟩
    · intro u hu hdeleted
      rcases List.mem_append.mp hu with hu | hu
      · exact h.disabled u hu hdeleted
      · rw [List.mem_singleton] at hu
        exact absurd (hu ▸ hrow) hdeleted

/-- Roles and tokens do not matter. -/
lemma Sound.congr {t t' : Tables} (h : Sound t) (husers : t'.users = t.users) : Sound t' := by
  refine ⟨?_, ?_⟩
  · rw [husers]
    exact h.ids
  · intro u hu
    exact h.disabled u (husers ▸ hu)

lemma Sound.grant {t : Tables} (h : Sound t) (user : Uuid) (role : String) :
    Sound (t.grant user role) := by
  rw [Tables.grant]
  split
  · exact h.congr rfl
  · exact h

/-! ### Operations -/

lemma mapConflict_ok {α : Type} {x : Except RepositoryError α} {a : α}
    (h : mapConflict x = .ok a) : x = .ok a := by
  cases x with
  | ok b => exact congrArg Except.ok (Except.ok.inj h)
  | error e => cases e <;> exact absurd h (by simp [mapConflict])

lemma repositoryResult_ok {α : Type} {x : Except RepositoryError α} {a : α}
    (h : repositoryResult x = .ok a) : x = .ok a := by
  cases x with
  | ok b => exact congrArg Except.ok (Except.ok.inj h)
  | error e => exact absurd h (by simp [repositoryResult])

/-- An operation that returned has a sound result. -/
lemma sound_after {t : Tables} (h : Sound t) {x : Except AppError Tables}
    (hx : ∀ t', x = .ok t' → Sound t') : Sound (t.after x) := by
  cases x with
  | ok t' => exact hx t' rfl
  | error e => exact h

lemma sound_register {U : Unicode} {C : Crypto} {drawn : Drawn} {now : Millis} {t t' : Tables}
    {email username password : String} {user : AuthUser} (h : Sound t)
    (hok : register U C drawn now t email username password = .ok (t', user)) : Sound t' := by
  rw [register] at hok
  dsimp only at hok
  split at hok
  · exact absurd hok (by simp)
  · obtain ⟨-, -, hok⟩ := Effect.bind_eq_ok hok
    obtain ⟨hash, -, hok⟩ := Effect.bind_eq_ok hok
    obtain ⟨t1, hinsert, hok⟩ := Effect.bind_eq_ok hok
    obtain ⟨rfl, -⟩ := Prod.mk.inj (Except.ok.inj hok)
    exact (h.insertUser rfl (mapConflict_ok hinsert)).grant _ _

lemma setUserDisabled_ok {now : Millis} {t t' : Tables} {user : Uuid} {disabled : Bool}
    (h : setUserDisabled now t user disabled = .ok t') :
    t' = t.updateUser user (if disabled then Account.disable now else Account.enable now) := by
  rw [setUserDisabled] at h
  split at h
  · exact (Except.ok.inj h).symm
  · exact absurd h (by simp)

lemma sound_adminDisableUser {now : Millis} {t t' : Tables} {actor : AuthUser} {user : Uuid}
    (h : Sound t) (hok : adminDisableUser now t actor user = .ok t') : Sound t' := by
  obtain ⟨-, -, hok⟩ := Effect.bind_eq_ok hok
  rw [setUserDisabled_ok (repositoryResult_ok hok)]
  exact h.updateUser (fun _ => rfl) fun u _ _ _ => by simp [Account.disable]

/-- Enabling is sound as long as the account is not deleted. -/
lemma sound_adminEnableUser {now : Millis} {t t' : Tables} {actor : AuthUser} {user : Uuid}
    (h : Sound t) (hspared : Permission.usersWrite ∈ actor.permissions →
      ∀ u ∈ t.users, u.id = user → u.deletedAt = none)
    (hok : adminEnableUser now t actor user = .ok t') : Sound t' := by
  obtain ⟨_, hperm, hok⟩ := Effect.bind_eq_ok hok
  rw [setUserDisabled_ok (repositoryResult_ok hok)]
  refine h.updateUser (fun _ => rfl) fun u hu hid hdeleted => ?_
  exact absurd (hspared (requirePermission_eq_ok.mp hperm) u hu hid) hdeleted

lemma sound_adminDeleteUser {now : Millis} {t t' : Tables} {actor : AuthUser} {user : Uuid}
    (h : Sound t) (hok : adminDeleteUser now t actor user = .ok t') : Sound t' := by
  obtain ⟨-, -, hok⟩ := Effect.bind_eq_ok hok
  split at hok
  · exact absurd hok (by simp)
  · split at hok
    · rw [← Except.ok.inj hok]
      refine h.updateUser (fun u => ?_) fun u hu _ => ?_
      · rw [Account.delete]
        split <;> rfl
      · rw [Account.delete]
        split
        · simp
        · exact h.disabled u hu
    · exact absurd hok (by simp)

lemma sound_deleteAccount {now : Millis} {t : Tables} (h : Sound t) (user : Uuid) :
    Sound (deleteAccount now t user) := by
  refine h.updateUser (fun u => ?_) fun u hu _ => ?_
  · rw [Account.selfDelete]
    split <;> rfl
  · rw [Account.selfDelete]
    split
    · simp
    · exact h.disabled u hu

lemma sound_requestRecovery {U : Unicode} {C : Crypto} {now : Millis} {t t' : Tables}
    {email token : String} (h : Sound t)
    (hok : requestRecovery U C now t email token = .ok t') : Sound t' := by
  rw [requestRecovery] at hok
  split at hok
  · exact absurd hok (by simp)
  · split at hok
    · exact Except.ok.inj hok ▸ h
    · exact Except.ok.inj hok ▸ h.congr rfl

lemma sound_resetRecovery {C : Crypto} {salt : Uuid} {now : Millis} {t t' : Tables}
    {token password : String} (h : Sound t)
    (hok : resetRecovery C salt now t token password = .ok t') : Sound t' := by
  rw [resetRecovery] at hok
  dsimp only at hok
  split at hok
  · exact absurd hok (by simp)
  · obtain ⟨hash, -, hok⟩ := Effect.bind_eq_ok hok
    split at hok
    · exact absurd hok (by simp)
    · rename_i r _
      have hset : Sound (t.updateUser r.userId (Account.setPassword hash now)) := by
        refine h.updateUser (fun u => ?_) fun u hu _ => ?_
        · rw [Account.setPassword]
          split <;> rfl
        · rw [Account.setPassword]
          split
          · exact h.disabled u hu
          · exact h.disabled u hu
      exact Except.ok.inj hok ▸ hset.congr rfl

/-- The renaming touches neither addresses nor the two columns. -/
lemma renameAdmin_ok {U : Unicode} {t t' : Tables} {email : String} (h : Sound t)
    (hok : renameAdmin U t email = .ok t') :
    Sound t' ∧ ∀ u' ∈ t'.users, ∃ u ∈ t.users, u'.email = u.email ∧ u'.deletedAt = u.deletedAt := by
  rw [renameAdmin] at hok
  split at hok
  · obtain rfl := Except.ok.inj hok
    exact ⟨h, fun u hu => ⟨u, hu, rfl, rfl⟩⟩
  · rename_i u _
    split at hok
    · obtain rfl := Except.ok.inj hok
      exact ⟨h, fun u hu => ⟨u, hu, rfl, rfl⟩⟩
    · dsimp only at hok
      split at hok
      · exact absurd hok (by simp)
      · obtain rfl := Except.ok.inj hok
        refine ⟨h.updateUser (fun _ => rfl) fun v hv _ => h.disabled v hv, fun u' hu' => ?_⟩
        obtain ⟨v, hv, rfl⟩ := List.mem_map.mp hu'
        refine ⟨v, hv, ?_⟩
        by_cases hvid : v.id = u.id
        · simp [hvid]
        · simp [hvid]

/-- The upsert is sound as long as no deleted account has the address. -/
lemma sound_upsertAdmin {U : Unicode} {drawn : Drawn} {now : Millis} {t t' : Tables}
    {email hash : String} {id : Uuid} (h : Sound t)
    (hspared : ∀ u ∈ t.users, U.toLowercase u.email = U.toLowercase email → u.deletedAt = none)
    (hok : upsertAdmin U drawn now t email hash = .ok (t', id)) : Sound t' := by
  rw [upsertAdmin] at hok
  split at hok
  · rename_i u hfound
    have hu : u ∈ t.users := List.mem_of_find?_eq_some hfound
    have hemail := List.find?_some hfound
    obtain ⟨rfl, -⟩ := Prod.mk.inj (Except.ok.inj hok)
    refine h.updateUser (fun _ => rfl) fun v hv hvid hdeleted => ?_
    obtain rfl : v = u := List.inj_on_of_nodup_map h.ids hv hu hvid
    exact absurd (hspared v hv (of_decide_eq_true hemail)) hdeleted
  · obtain ⟨t1, hinsert, hok⟩ := Effect.bind_eq_ok hok
    obtain ⟨rfl, -⟩ := Prod.mk.inj (Except.ok.inj hok)
    exact h.insertUser rfl (repositoryResult_ok hinsert)

lemma sound_bootstrapAdmin {U : Unicode} {C : Crypto} {drawn : Drawn} {now : Millis}
    {t t' : Tables} {email password : Option String} (h : Sound t)
    (hspared : SparesDeleted U t (.bootstrapAdmin drawn now email password))
    (hok : bootstrapAdmin U C drawn now t email password = .ok t') : Sound t' := by
  cases email with
  | none => exact Except.ok.inj hok ▸ h
  | some email =>
      cases password with
      | none => exact Except.ok.inj hok ▸ h
      | some password =>
          obtain ⟨hash, -, hok⟩ := Effect.bind_eq_ok hok
          obtain ⟨t1, hrename, hok⟩ := Effect.bind_eq_ok hok
          obtain ⟨r, hupsert, hok⟩ := Effect.bind_eq_ok hok
          obtain ⟨h1, hrows⟩ := renameAdmin_ok h hrename
          have hspared1 : ∀ u ∈ t1.users,
              U.toLowercase u.email = U.toLowercase email → u.deletedAt = none := by
            intro u' hu' hemail
            obtain ⟨u, hu, hsame, hdeleted⟩ := hrows u' hu'
            rw [hdeleted]
            exact hspared u hu (hsame ▸ hemail)
          rw [← Except.ok.inj hok]
          exact (sound_upsertAdmin h1 hspared1 hupsert).grant _ _

/-- **One operation** that enables no deleted account keeps the invariant. -/
theorem sound_step {U : Unicode} {C : Crypto} {t : Tables} (h : Sound t) {a : Act}
    (hspared : SparesDeleted U t a) : Sound (step U C t a) := by
  cases a with
  | register drawn now email username password =>
      refine sound_after h fun t' hok => ?_
      obtain ⟨r, hreg, rfl⟩ := Effect.map_eq_ok hok
      exact sound_register h hreg
  | adminDisableUser now actor user => exact sound_after h fun _ => sound_adminDisableUser h
  | adminEnableUser now actor user =>
      exact sound_after h fun _ => sound_adminEnableUser h hspared
  | adminDeleteUser now actor user => exact sound_after h fun _ => sound_adminDeleteUser h
  | deleteAccount now user => exact sound_deleteAccount h user
  | requestRecovery now email token => exact sound_after h fun _ => sound_requestRecovery h
  | resetRecovery salt now token password =>
      exact sound_after h fun _ => sound_resetRecovery h
  | bootstrapAdmin drawn now email password =>
      exact sound_after h fun _ => sound_bootstrapAdmin h hspared

/-! ### Login -/

/-- With the invariant a login finds no deleted account. -/
lemma Sound.refusesDeleted {t : Tables} (h : Sound t) (U : Unicode) (C : Crypto) :
    RefusesDeleted U C t := by
  intro ipLimit targetLimit email password user hok u hu hid
  obtain ⟨-, -, v, hfound, hopen, -, rfl⟩ := login_eq_ok_iff.mp hok
  have hv : v ∈ t.users := List.mem_of_find?_eq_some hfound
  obtain rfl : u = v := List.inj_on_of_nodup_map h.ids hu hv hid
  by_contra hdeleted
  exact h.disabled u hu hdeleted hopen

/-- **Deleted accounts**: from tables in which deleted accounts are disabled, every state of a run
whose operations enable no deleted account has its deleted accounts disabled, and refuses every
login for one. -/
theorem refusesDeleted_along (U : Unicode) (C : Crypto) {t : Tables} (h : Sound t)
    (as : List Act) (hspared : Along (step U C) (SparesDeleted U) t as) :
    (KeepsDisabled t ∧ RefusesDeleted U C t) ∧
      Along (step U C) (fun t a => KeepsDisabled (step U C t a) ∧
        RefusesDeleted U C (step U C t a)) t as := by
  refine ⟨⟨h.disabled, h.refusesDeleted U C⟩, ?_⟩
  refine Along.of_invariant (I := Sound) (fun t a ht ha => sound_step ht ha)
    (fun t a ht ha => ?_) h hspared
  have hnext : Sound (step U C t a) := sound_step ht ha
  exact ⟨hnext.disabled, hnext.refusesDeleted U C⟩

/-- A password hash that shows the password. -/
def plainCrypto : Crypto where
  hash password _ := .ok ("#" ++ password)
  verify password encoded := encoded = "#" ++ password
  digest token := "d" ++ token

/-- An administrator and another account. -/
def twoAccounts : Tables where
  users :=
    [{ id := 1, email := "b@x", username := "boss", passwordHash := "#1", createdAt := 1,
       updatedAt := 1 },
     { id := 2, email := "g@x", username := "gone", passwordHash := "#2", createdAt := 1,
       updatedAt := 1 }]
  roles := ["admin", "user"]
  userRoles := [(1, "admin"), (2, "user")]

/-- The session of the administrator. -/
def boss : AuthUser :=
  { id := 1, email := "b@x", username := "boss", roles := ["admin"], permissions := [.usersWrite] }

lemma twoAccounts_sound : Sound twoAccounts := by
  refine ⟨by decide, ?_⟩
  unfold KeepsDisabled
  decide

/-- An account that deletes itself stays out, though it is disabled once more. -/
theorem refusesDeleted_selfDelete :
    RefusesDeleted .ascii plainCrypto (final (step .ascii plainCrypto) twoAccounts
      [.deleteAccount 5 2, .adminDisableUser 6 boss 2]) :=
  (refusesDeleted_along .ascii plainCrypto twoAccounts_sound
    [.deleteAccount 5 2, .adminDisableUser 6 boss 2]
    ⟨trivial, trivial, trivial⟩).2.2.1.2

/-- The deleted account is enabled, and its login succeeds. -/
theorem enabled_deleted_login :
    Sound twoAccounts ∧
      ¬ KeepsDisabled (final (step .ascii plainCrypto) twoAccounts
        [.deleteAccount 5 2, .adminEnableUser 6 boss 2]) ∧
      ¬ RefusesDeleted .ascii plainCrypto (final (step .ascii plainCrypto) twoAccounts
        [.deleteAccount 5 2, .adminEnableUser 6 boss 2]) := by
  refine ⟨twoAccounts_sound, ?_, ?_⟩
  · unfold KeepsDisabled
    decide
  · intro hrefuses
    have hlogin : login .ascii plainCrypto (.ok ⟨⟩) (.ok ⟨⟩)
        (final (step .ascii plainCrypto) twoAccounts
          [.deleteAccount 5 2, .adminEnableUser 6 boss 2]) "gone" "2"
          = .ok { id := 2, email := "g@x", username := "gone", roles := ["user"],
                  permissions := [] } := by decide +kernel
    have hlive := hrefuses _ _ _ _ _ hlogin
    revert hlive
    decide

end Vussa.Accounts
