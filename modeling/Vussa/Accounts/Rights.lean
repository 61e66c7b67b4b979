import Vussa.Accounts.Administrators
import Vussa.Accounts.Deletion

/-!
The rights of the users in the tables, and the changes of accounts that queue an invalidation of the
sessions (`api/admin.rs`, `api/account.rs`, `repository/postgres.rs`). Each is one transaction with
the row of `queue_auth_invalidation` in it.

* `Change`, `Change.run`: these changes, with the user whose sessions are to be invalidated;
* `Holds`, `Within`: what a user may do, and an `AuthUser` that claims no more;
* `Keeps`, `SparesOthers`: tables that take no rights away, and none from other users;
* `run_sparesOthers`: **a change takes rights from no one but the user it invalidates**;
* `keeps_register`, `keeps_requestRecovery`, `keeps_bootstrapAdmin`: what takes none away at all.
-/

namespace Vussa.Accounts

open Effect

/-! ### Changes -/

/-- `UPDATE users SET password_hash` of `admin_reset_password`. -/
def Account.resetPassword (hash : String) (now : Millis) (u : Account) : Account :=
  if u.deletedAt = none then { u with passwordHash := hash, updatedAt := now } else u

/-- `admin_reset_password`. -/
def adminResetPassword (C : Crypto) (salt : Uuid) (now : Millis) (t : Tables) (actor : AuthUser)
    (user : Uuid) (password : String) : Except AppError Tables := do
  requirePermission actor .usersWrite
  let hash ← passwordHash C password salt
  if ∃ u ∈ t.users, u.id = user ∧ u.deletedAt = none then
    .ok (t.updateUser user (Account.resetPassword hash now))
  else .error RepositoryError.notFound.toApp

/-- `assign_role`; a user that does not exist violates the reference. -/
def assignRole (now : Millis) (t : Tables) (user : Uuid) (role : String) :
    Except RepositoryError Tables :=
  if role ∈ t.roles ∧ ∀ ur ∈ t.userRoles, ur ≠ (user, role) then
    if ∃ u ∈ t.users, u.id = user then
      .ok ((t.grant user role).updateUser user (Account.bump now))
    else .error .database
  else .error .notFound

/-- `admin_assign_role`. -/
def adminAssignRole (now : Millis) (t : Tables) (actor : AuthUser) (user : Uuid) (role : String) :
    Except AppError Tables := do
  requirePermission actor .rolesWrite
  repositoryResult (assignRole now t user role)

/-- `admin_remove_role`. -/
def adminRemoveRole (now : Millis) (t : Tables) (actor : AuthUser) (user : Uuid) (role : String) :
    Except AppError Tables := do
  requirePermission actor .rolesWrite
  if role = "admin" ∧ countAdmins t ≤ 1 then
    .error (.badRequest "the final administrator cannot be removed")
  else if ∃ ur ∈ t.userRoles, ur = (user, role) then
    .ok ((t.revoke user role).updateUser user (Account.bump now))
  else .error RepositoryError.notFound.toApp

/-- The row that `reset_recovery` finds for a token. -/
def redeemed? (C : Crypto) (now : Millis) (t : Tables) (rawToken : String) : Option RecoveryToken :=
  t.recoveryTokens.find? fun r =>
    r.tokenHash = C.digest (trim rawToken) ∧ r.usedAt = none ∧ ((now : ℕ) : ℤ) < r.expiresAt

/-- The transactions that call `queue_auth_invalidation`. -/
inductive Change where
  | disableUser (actor : AuthUser) (user : Uuid)
  | enableUser (actor : AuthUser) (user : Uuid)
  | deleteUser (actor : AuthUser) (user : Uuid)
  | resetPassword (actor : AuthUser) (user : Uuid) (salt : Uuid) (password : String)
  | invalidateSessions (actor : AuthUser) (user : Uuid)
  | assignRole (actor : AuthUser) (user : Uuid) (role : String)
  | removeRole (actor : AuthUser) (user : Uuid) (role : String)
  | resetRecovery (salt : Uuid) (token password : String)
  deriving DecidableEq, Repr

/-- The tables after a change, and the user of the row it queues. -/
def Change.run (C : Crypto) (now : Millis) (t : Tables) : Change → Except AppError (Tables × Uuid)
  | disableUser actor user => (adminDisableUser now t actor user).map fun t' => (t', user)
  | enableUser actor user => (adminEnableUser now t actor user).map fun t' => (t', user)
  | deleteUser actor user => (adminDeleteUser now t actor user).map fun t' => (t', user)
  | resetPassword actor user salt password =>
      (adminResetPassword C salt now t actor user password).map fun t' => (t', user)
  -- `admin_invalidate_sessions`
  | invalidateSessions actor user =>
      (requirePermission actor .usersWrite).map fun _ => (t, user)
  | assignRole actor user role => (adminAssignRole now t actor user role).map fun t' => (t', user)
  | removeRole actor user role => (adminRemoveRole now t actor user role).map fun t' => (t', user)
  | resetRecovery salt token password =>
      match redeemed? C now t token with
      | some r => (Accounts.resetRecovery C salt now t token password).map fun t' => (t', r.userId)
      | none => .error (.unauthorized "invalid or expired recovery token")

/-! ### Rights -/

/-- The user has the permission by one of the roles. -/
def Holds (t : Tables) (user : Uuid) (p : Permission) : Prop :=
  ∃ ur ∈ t.userRoles, ur.1 = user ∧ (ur.2, p) ∈ t.rolePermissions

instance (t : Tables) (user : Uuid) (p : Permission) : Decidable (Holds t user p) :=
  inferInstanceAs (Decidable (∃ ur ∈ t.userRoles, _))

/-- The account is enabled and has the permissions that `a` claims for it. -/
structure Within (t : Tables) (a : AuthUser) : Prop where
  enabled : ∃ u ∈ t.users, u.id = a.id ∧ u.disabledAt = none
  permitted : ∀ p ∈ a.permissions, Holds t a.id p

instance (t : Tables) (a : AuthUser) : Decidable (Within t a) :=
  decidable_of_iff ((∃ u ∈ t.users, u.id = a.id ∧ u.disabledAt = none) ∧
    ∀ p ∈ a.permissions, Holds t a.id p) ⟨fun h => ⟨h.1, h.2⟩, fun h => ⟨h.1, h.2⟩⟩

/-- No user loses rights. -/
def Keeps (t t' : Tables) : Prop := ∀ a, Within t a → Within t' a

/-- No user but one loses rights. -/
def SparesOthers (user : Uuid) (t t' : Tables) : Prop :=
  ∀ a : AuthUser, a.id ≠ user → Within t a → Within t' a

section Rights

variable {t t' : Tables} {a b : AuthUser} {user : Uuid} {f : Account → Account}

/-- The name and the address of a user are no rights. -/
lemma Within.congr (h : Within t a) (hid : a.id = b.id) (hp : a.permissions = b.permissions) :
    Within t b := by
  refine ⟨hid ▸ h.enabled, fun p hmem => hid ▸ h.permitted p (hp ▸ hmem)⟩

lemma Within.mono (h : Within t a) (hperms : t'.rolePermissions = t.rolePermissions)
    (husers : ∀ u ∈ t.users, u.id = a.id → u.disabledAt = none →
      ∃ u' ∈ t'.users, u'.id = a.id ∧ u'.disabledAt = none)
    (hroles : ∀ ur ∈ t.userRoles, ur.1 = a.id → ur ∈ t'.userRoles) : Within t' a := by
  obtain ⟨u, hu, hid, hon⟩ := h.enabled
  refine ⟨husers u hu hid hon, fun p hp => ?_⟩
  obtain ⟨ur, hur, huser, hperm⟩ := h.permitted p hp
  exact ⟨ur, hroles ur hur huser, huser, hperms ▸ hperm⟩

lemma Keeps.refl (t : Tables) : Keeps t t := fun _ h => h

lemma Keeps.trans {t'' : Tables} (h : Keeps t t') (h' : Keeps t' t'') : Keeps t t'' :=
  fun a ha => h' a (h a ha)

lemma Keeps.sparesOthers (h : Keeps t t') (user : Uuid) : SparesOthers user t t' :=
  fun a _ => h a

/-- An update that leaves enabled rows enabled. -/
lemma keeps_updateUser (hid : ∀ u, (f u).id = u.id)
    (hf : ∀ u, u.disabledAt = none → (f u).disabledAt = none) : Keeps t (t.updateUser user f) := by
  intro a h
  refine h.mono rfl (fun u hu hua hon => ?_) fun ur hur _ => hur
  refine ⟨if u.id = user then f u else u, List.mem_map_of_mem hu, ?_, ?_⟩
  · rw [apply_ite Account.id, hid, ite_self, hua]
  · split_ifs
    · exact hf u hon
    · exact hon

/-- Any update of the row of a user. -/
lemma sparesOthers_updateUser : SparesOthers user t (t.updateUser user f) := by
  intro a hne h
  refine h.mono rfl (fun u hu hua hon => ?_) fun ur hur _ => hur
  refine ⟨if u.id = user then f u else u, List.mem_map_of_mem hu, ?_⟩
  rw [if_neg fun heq => hne (hua.symm.trans heq)]
  exact ⟨hua, hon⟩

lemma keeps_grant (user : Uuid) (role : String) : Keeps t (t.grant user role) := by
  intro a h
  rw [Tables.grant]
  split_ifs
  · exact h.mono rfl (fun u hu hua hon => ⟨u, hu, hua, hon⟩) fun ur hur _ =>
      List.mem_append_left _ hur
  · exact h

lemma sparesOthers_revoke (user : Uuid) (role : String) :
    SparesOthers user t (t.revoke user role) := by
  intro a hne h
  refine h.mono rfl (fun u hu hua hon => ⟨u, hu, hua, hon⟩) fun ur hur huser => ?_
  refine List.mem_filter.mpr ⟨hur, decide_eq_true fun heq => hne ?_⟩
  rw [← huser, heq]

lemma keeps_insertUser {U : Unicode} {row : Account} (h : t.insertUser U row = .ok t') :
    Keeps t t' := by
  rw [Tables.insertUser] at h
  split_ifs at h
  obtain rfl := Except.ok.inj h
  exact fun a ha => ha.mono rfl (fun u hu hua hon => ⟨u, List.mem_append_left _ hu, hua, hon⟩)
    fun ur hur _ => hur

/-- The projection of an enabled account claims what the tables say. -/
lemma within_authUser {u : Account} (hu : u ∈ t.users) (hon : u.disabledAt = none) :
    Within t (t.authUser u) := by
  refine ⟨⟨u, hu, rfl, hon⟩, fun p hp => ?_⟩
  obtain ⟨rp, hrp, rfl⟩ := List.mem_map.mp (List.mem_dedup.mp hp)
  obtain ⟨hrp, hrole⟩ := List.mem_filter.mp hrp
  exact ⟨(u.id, rp.1), of_decide_eq_true hrole, rfl, hrp⟩

/-- A login that succeeds finds an enabled account. -/
lemma within_login {U : Unicode} {C : Crypto} {ipLimit targetLimit : Except AppError Unit}
    {email password : String} (h : login U C ipLimit targetLimit t email password = .ok a) :
    Within t a := by
  obtain ⟨-, -, u, hfind, hon, -, rfl⟩ := login_eq_ok_iff.mp h
  exact within_authUser (List.mem_of_find?_eq_some hfind) hon

end Rights

/-! ### The operations -/

section Operations

variable {U : Unicode} {C : Crypto} {now : Millis} {t t' : Tables}

/-- A registration takes no rights. -/
lemma keeps_register {drawn : Drawn} {email username password : String} {user : AuthUser}
    (h : register U C drawn now t email username password = .ok (t', user)) : Keeps t t' := by
  rw [register] at h
  split_ifs at h
  obtain ⟨-, -, h⟩ := bind_eq_ok h
  obtain ⟨hash, -, h⟩ := bind_eq_ok h
  obtain ⟨t1, hinsert, h⟩ := bind_eq_ok h
  obtain ⟨rfl, -⟩ := Prod.mk.inj (Except.ok.inj h)
  exact (keeps_insertUser (mapConflict_ok hinsert)).trans (keeps_grant drawn.id "user")

/-- Recovery tokens are no rights. -/
lemma keeps_requestRecovery {email token : String}
    (h : requestRecovery U C now t email token = .ok t') : Keeps t t' := by
  rw [requestRecovery] at h
  split_ifs at h
  split at h
  · obtain rfl := Except.ok.inj h
    exact Keeps.refl t
  · obtain rfl := Except.ok.inj h
    exact fun a ha => ha.mono rfl (fun u hu hua hon => ⟨u, hu, hua, hon⟩) fun ur hur _ => hur

lemma keeps_renameAdmin {email : String} (h : renameAdmin U t email = .ok t') : Keeps t t' := by
  rw [renameAdmin] at h
  split at h
  · obtain rfl := Except.ok.inj h
    exact Keeps.refl t
  · dsimp only at h
    split_ifs at h
    · obtain rfl := Except.ok.inj h
      exact Keeps.refl t
    · obtain rfl := Except.ok.inj h
      exact keeps_updateUser (fun _ => rfl) fun _ hon => hon

lemma keeps_upsertAdmin {drawn : Drawn} {email hash : String} {id : Uuid}
    (h : upsertAdmin U drawn now t email hash = .ok (t', id)) : Keeps t t' := by
  rw [upsertAdmin] at h
  split at h
  · obtain ⟨rfl, -⟩ := Prod.mk.inj (Except.ok.inj h)
    exact keeps_updateUser (fun _ => rfl) fun _ _ => rfl
  · obtain ⟨t1, hinsert, h⟩ := bind_eq_ok h
    obtain ⟨rfl, -⟩ := Prod.mk.inj (Except.ok.inj h)
    exact keeps_insertUser (repositoryResult_ok hinsert)

/-- The bootstrap of the administrator takes no rights. -/
lemma keeps_bootstrapAdmin {drawn : Drawn} {email password : Option String}
    (h : bootstrapAdmin U C drawn now t email password = .ok t') : Keeps t t' := by
  have hnothing : (Except.ok t : Except AppError Tables) = .ok t' → Keeps t t' := by
    intro h
    obtain rfl := Except.ok.inj h
    exact Keeps.refl t
  cases email with
  | none => exact hnothing h
  | some email =>
      cases password with
      | none => exact hnothing h
      | some password =>
          obtain ⟨hash, -, h⟩ := bind_eq_ok h
          obtain ⟨t1, hrename, h⟩ := bind_eq_ok h
          obtain ⟨⟨t2, id⟩, hupsert, h⟩ := bind_eq_ok h
          obtain rfl := Except.ok.inj h
          exact ((keeps_renameAdmin hrename).trans (keeps_upsertAdmin hupsert)).trans
            (keeps_grant id _)

/-- **A change spares the others**: only the user whose sessions it invalidates may lose rights. -/
theorem run_sparesOthers {op : Change} {user : Uuid} (h : op.run C now t = .ok (t', user)) :
    SparesOthers user t t' := by
  cases op with
  | disableUser actor target | enableUser actor target =>
      obtain ⟨t1, hrun, heq⟩ := map_eq_ok h
      obtain ⟨rfl, rfl⟩ := Prod.mk.inj heq
      obtain ⟨-, -, hrun⟩ := bind_eq_ok hrun
      rw [setUserDisabled_ok (repositoryResult_ok hrun)]
      exact sparesOthers_updateUser
  | deleteUser actor target =>
      obtain ⟨t1, hrun, heq⟩ := map_eq_ok h
      obtain ⟨rfl, rfl⟩ := Prod.mk.inj heq
      obtain ⟨-, -, hrun⟩ := bind_eq_ok hrun
      split_ifs at hrun
      obtain rfl := Except.ok.inj hrun
      exact sparesOthers_updateUser
  | resetPassword actor target salt password =>
      obtain ⟨t1, hrun, heq⟩ := map_eq_ok h
      obtain ⟨rfl, rfl⟩ := Prod.mk.inj heq
      obtain ⟨-, -, hrun⟩ := bind_eq_ok hrun
      obtain ⟨hash, -, hrun⟩ := bind_eq_ok hrun
      split_ifs at hrun
      obtain rfl := Except.ok.inj hrun
      exact sparesOthers_updateUser
  | invalidateSessions actor target =>
      obtain ⟨-, -, heq⟩ := map_eq_ok h
      obtain ⟨rfl, -⟩ := Prod.mk.inj heq
      exact (Keeps.refl t).sparesOthers user
  | assignRole actor target role =>
      obtain ⟨t1, hrun, heq⟩ := map_eq_ok h
      obtain ⟨rfl, rfl⟩ := Prod.mk.inj heq
      obtain ⟨-, -, hrun⟩ := bind_eq_ok hrun
      have hrun := repositoryResult_ok hrun
      rw [assignRole] at hrun
      split_ifs at hrun
      obtain rfl := Except.ok.inj hrun
      exact fun a hne ha => sparesOthers_updateUser a hne (keeps_grant _ _ a ha)
  | removeRole actor target role =>
      obtain ⟨t1, hrun, heq⟩ := map_eq_ok h
      obtain ⟨rfl, rfl⟩ := Prod.mk.inj heq
      obtain ⟨-, -, hrun⟩ := bind_eq_ok hrun
      split_ifs at hrun
      obtain rfl := Except.ok.inj hrun
      exact fun a hne ha => sparesOthers_updateUser a hne (sparesOthers_revoke _ _ a hne ha)
  | resetRecovery salt token password =>
      rw [Change.run] at h
      split at h
      · rename_i r hfind
        obtain ⟨t1, hrun, heq⟩ := map_eq_ok h
        obtain ⟨rfl, rfl⟩ := Prod.mk.inj heq
        rw [resetRecovery] at hrun
        dsimp only at hrun
        split_ifs at hrun
        obtain ⟨hash, -, hrun⟩ := bind_eq_ok hrun
        rw [redeemed?] at hfind
        simp only [hfind] at hrun
        obtain rfl := Except.ok.inj hrun
        intro a hne ha
        have hspared := sparesOthers_updateUser (f := Account.setPassword hash now) a hne ha
        exact hspared.mono rfl (fun u hu hua hon => ⟨u, hu, hua, hon⟩) fun ur hur _ => hur
      · cases h

/-- `delete_account` takes rights from its user only. -/
lemma sparesOthers_deleteAccount (user : Uuid) : SparesOthers user t (deleteAccount now t user) :=
  sparesOthers_updateUser

end Operations

end Vussa.Accounts
