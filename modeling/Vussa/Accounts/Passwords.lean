import Vussa.Accounts.Rights
import Vussa.Accounts.Identifiers

/-!
The passwords that the hashes stand for. The column `password_hash` is written by `register`,
`change_password`, `reset_recovery`, `admin_reset_password` and the bootstrap of the administrator,
and read by `login` and by the check of `change_password`. Over it stands the vault: the password of
each account, as it was set last.

The operations are interleaved at their commits. `change_password` is two moves: it checks the
password of the account that the name of its session finds, and later writes to the account of its
session. The hash of `argon2` is a parameter.

* `State`, `Act`, `State.step`: the tables, and the calls of `change_password` between both moves;
* `Vault`, `State.sets`, `stepVault`: the password that a move sets, and the vault beside the tables;
* `Faithful`, `Fits`: a hash verifies its own password only; each hash verifies the one in the vault;
* `fits_step`: every move keeps both in step;
* `login_iff`: **after every run a login that the rate limits admit succeeds exactly with the name of
  an enabled account and the password that was set last for this account**.
-/

namespace Vussa.Accounts.Passwords

open Run Effect

/-! ### The tables -/

/-- The account is there and not deleted. -/
def Live (t : Tables) (user : Uuid) : Prop := ∃ u ∈ t.users, u.id = user ∧ u.deletedAt = none

instance (t : Tables) (user : Uuid) : Decidable (Live t user) :=
  inferInstanceAs (Decidable (∃ u ∈ t.users, _))

/-- `update_username`, with the unique index of the names. -/
def updateUsername (U : Unicode) (now : Millis) (t : Tables) (user : Uuid) (username : String) :
    Except RepositoryError Tables :=
  if Live t user then
    if ∃ v ∈ t.users, v.id ≠ user ∧ U.toLowercase v.username = U.toLowercase username then
      .error .database
    else .ok (t.updateUser user (Account.rename username now))
  else .error .notFound

/-- `update_account`, up to the session. -/
def updateAccount (U : Unicode) (now : Millis) (t : Tables) (user : Uuid) (rawUsername : String) :
    Except AppError Tables := do
  let username := trim rawUsername
  validateUsername U username
  repositoryResult (updateUsername U now t user username)

/-- The tables, and the calls of `change_password` that have checked the current password, with the
user of their session. -/
structure State where
  tables : Tables := {}
  checked : ℕ → Option Uuid := fun _ => none

/-- The moves. -/
inductive Act where
  | register (drawn : Drawn) (now : Millis) (email username password : String)
  /-- the check of `change_password` -/
  | check (k : ℕ) (user : AuthUser) (currentPassword : String)
  /-- the hash and the `UPDATE` of `change_password` -/
  | change (k : ℕ) (now : Millis) (salt : Uuid) (newPassword : String)
  | operate (now : Millis) (op : Change)
  | requestRecovery (now : Millis) (email token : String)
  | updateAccount (now : Millis) (user : Uuid) (username : String)
  | deleteAccount (now : Millis) (user : Uuid)
  | bootstrapAdmin (drawn : Drawn) (now : Millis) (email password : Option String)

namespace State

variable (U : Unicode) (C : Crypto)

/-- The state after an operation on the tables; a refused one leaves them. -/
def after (s : State) : Except AppError Tables → State
  | .ok t => { s with tables := t }
  | .error _ => s

/-- One move. -/
def step (s : State) : Act → State
  | .register drawn now email username password =>
      s.after ((register U C drawn now s.tables email username password).map Prod.fst)
  | .check k user currentPassword =>
      match findUserForLogin U s.tables user.username with
      | some u =>
          if u.disabledAt.isSome ∨ ¬ C.verify currentPassword u.passwordHash then s
          else { s with checked := Function.update s.checked k (some user.id) }
      | none => s
  | .change k now salt newPassword =>
      match s.checked k with
      | some user =>
          match passwordHash C newPassword salt with
          | .ok hash =>
              { s with
                tables := s.tables.updateUser user (Account.setPassword hash now)
                checked := Function.update s.checked k none }
          | .error _ => { s with checked := Function.update s.checked k none }
      | none => s
  | .operate now op => s.after ((op.run C now s.tables).map Prod.fst)
  | .requestRecovery now email token => s.after (requestRecovery U C now s.tables email token)
  | .updateAccount now user username => s.after (updateAccount U now s.tables user username)
  | .deleteAccount now user => { s with tables := deleteAccount now s.tables user }
  | .bootstrapAdmin drawn now email password =>
      s.after (bootstrapAdmin U C drawn now s.tables email password)

end State

/-! ### The vault -/

/-- The password of each account. -/
abbrev Vault := Uuid → Option String

/-- Put a password into the vault. -/
def Vault.record (v : Vault) : Option (Uuid × String) → Vault
  | some (user, password) => Function.update v user (some password)
  | none => v

/-- The password that a change of an account carries. -/
def newPassword : Change → Option String
  | .resetPassword _ _ _ password => some password
  | .resetRecovery _ _ password => some password
  | _ => none

/-- The account that `bootstrap_admin` finds by the address, or the one it creates. -/
def adminId (U : Unicode) (t : Tables) (drawn : Drawn) (email : String) : Uuid :=
  ((t.users.find? fun u => U.toLowercase u.email = U.toLowercase email).map Account.id).getD drawn.id

/-- The account and the password that a move sets. -/
def State.sets (U : Unicode) (C : Crypto) (s : State) : Act → Option (Uuid × String)
  | .register drawn now email username password =>
      match register U C drawn now s.tables email username password with
      | .ok _ => some (drawn.id, password)
      | .error _ => none
  | .change k _ salt password =>
      match s.checked k, passwordHash C password salt with
      | some user, .ok _ => if Live s.tables user then some (user, password) else none
      | _, _ => none
  | .operate now op =>
      match op.run C now s.tables with
      | .ok (_, user) =>
          if Live s.tables user then (newPassword op).map fun password => (user, password) else none
      | .error _ => none
  | .bootstrapAdmin drawn now (some email) (some password) =>
      match bootstrapAdmin U C drawn now s.tables (some email) (some password) with
      | .ok _ => some (adminId U s.tables drawn email, password)
      | .error _ => none
  | _ => none

/-- One move on the tables and on the vault. -/
def stepVault (U : Unicode) (C : Crypto) (p : State × Vault) (a : Act) : State × Vault :=
  (p.1.step U C a, p.2.record (p.1.sets U C a))

/-- A hash verifies the password it was made of, and no other. -/
def Faithful (C : Crypto) : Prop :=
  ∀ password salt encoded, C.hash password salt = .ok encoded →
    ∀ other, C.verify other encoded = true ↔ other = password

/-- Each hash verifies the password in the vault. -/
structure Fits (C : Crypto) (t : Tables) (v : Vault) : Prop where
  ids : (t.users.map Account.id).Nodup
  verified : ∀ u ∈ t.users, ∀ password,
    C.verify password u.passwordHash = true ↔ v u.id = some password

/-! ### Rows -/

section Rows

variable {U : Unicode} {C : Crypto} {t t' : Tables} {v : Vault} {user : Uuid} {f : Account → Account}
  {password hash : String} {salt : Uuid} {now : Millis}

/-- Roles and tokens do not matter. -/
lemma Fits.congr (h : Fits C t v) (husers : t'.users = t.users) : Fits C t' v :=
  ⟨husers ▸ h.ids, husers ▸ h.verified⟩

lemma Fits.grant (h : Fits C t v) (user : Uuid) (role : String) : Fits C (t.grant user role) v := by
  rw [Tables.grant]
  split_ifs
  · exact h.congr rfl
  · exact h

lemma map_id_updateUser (hid : ∀ u, (f u).id = u.id) :
    (t.updateUser user f).users.map Account.id = t.users.map Account.id := by
  rw [Tables.updateUser, List.map_map]
  refine List.map_congr_left fun u _ => ?_
  rw [Function.comp_apply, apply_ite Account.id, hid, ite_self]

/-- An update of other columns. -/
lemma Fits.keep (h : Fits C t v) (hid : ∀ u, (f u).id = u.id)
    (hhash : ∀ u, (f u).passwordHash = u.passwordHash) : Fits C (t.updateUser user f) v := by
  refine ⟨by rw [map_id_updateUser hid]; exact h.ids, fun row hrow other => ?_⟩
  obtain ⟨u, hu, rfl⟩ := List.mem_map.mp hrow
  rw [apply_ite Account.passwordHash, hhash, ite_self, apply_ite Account.id, hid, ite_self]
  exact h.verified u hu other

/-- An update of the hash of an account, with its password in the vault. -/
lemma Fits.write (h : Fits C t v) (hC : Faithful C) (hid : ∀ u, (f u).id = u.id)
    (hhash : C.hash password salt = .ok hash)
    (hf : ∀ u ∈ t.users, u.id = user → (f u).passwordHash = hash) :
    Fits C (t.updateUser user f) (Function.update v user (some password)) := by
  refine ⟨by rw [map_id_updateUser hid]; exact h.ids, fun row hrow other => ?_⟩
  obtain ⟨u, hu, rfl⟩ := List.mem_map.mp hrow
  by_cases huser : u.id = user
  · rw [if_pos huser, hid, huser, Function.update_self, hf u hu huser, hC password salt hash hhash]
    exact eq_comm.trans (Option.some_inj (a := password)).symm
  · rw [if_neg huser, Function.update_of_ne huser]
    exact h.verified u hu other

/-- A row with an identifier is the only one. -/
lemma Fits.deletedAt_eq_none (h : Fits C t v) (hlive : Live t user) :
    ∀ u ∈ t.users, u.id = user → u.deletedAt = none := by
  intro u hu huser
  obtain ⟨w, hw, hid, hdeleted⟩ := hlive
  obtain rfl := List.inj_on_of_nodup_map h.ids hu hw (huser.trans hid.symm)
  exact hdeleted

/-- The hash of an account that is not live is left. -/
lemma updateUser_of_not_live (hf : ∀ u, u.deletedAt ≠ none → f u = u) (hlive : ¬ Live t user) :
    t.updateUser user f = t := by
  have husers : (t.updateUser user f).users = t.users := by
    rw [Tables.updateUser]
    refine (List.map_congr_left fun u hu => ?_).trans (List.map_id _)
    split_ifs with huser
    · exact hf u fun hdeleted => hlive ⟨u, hu, huser, hdeleted⟩
    · rfl
  rw [Tables.updateUser] at husers ⊢
  exact congrArg (fun users => { t with users := users }) husers

/-- An update that sets the hash of a row that is not deleted. -/
lemma Fits.set (h : Fits C t v) (hC : Faithful C) (hid : ∀ u, (f u).id = u.id)
    (hhash : C.hash password salt = .ok hash)
    (hf : ∀ u, u.deletedAt = none → (f u).passwordHash = hash)
    (hskip : ∀ u, u.deletedAt ≠ none → f u = u) :
    Fits C (t.updateUser user f)
      (v.record (if Live t user then some (user, password) else none)) := by
  split_ifs with hlive
  · exact h.write hC hid hhash fun u hu huser => hf u (h.deletedAt_eq_none hlive u hu huser)
  · rw [updateUser_of_not_live hskip hlive]
    exact h

/-- A new row, with its password in the vault. -/
lemma Fits.insert (h : Fits C t v) (hC : Faithful C) {row : Account}
    (hhash : C.hash password salt = .ok row.passwordHash) (hok : t.insertUser U row = .ok t') :
    Fits C t' (Function.update v row.id (some password)) := by
  rw [Tables.insertUser] at hok
  split_ifs at hok with hfresh
  obtain rfl := Except.ok.inj hok
  have hnew : ∀ u ∈ t.users, u.id ≠ row.id := fun u hu heq => hfresh ⟨u, hu, .inl heq⟩
  refine ⟨?_, fun u hu other => ?_⟩
  · rw [List.map_append, List.map_singleton, List.nodup_append]
    refine ⟨h.ids, List.nodup_singleton _, fun a ha b hb hab => ?_⟩
    obtain ⟨u, hu, rfl⟩ := List.mem_map.mp ha
    exact hnew u hu (hab.trans (List.mem_singleton.mp hb))
  · rcases List.mem_append.mp hu with hu | hu
    · rw [Function.update_of_ne (hnew u hu)]
      exact h.verified u hu other
    · rw [List.mem_singleton.mp hu, Function.update_self, hC password salt _ hhash]
      exact eq_comm.trans (Option.some_inj (a := password)).symm

lemma passwordHash_ok (h : passwordHash C password salt = .ok hash) :
    C.hash password salt = .ok hash := by
  rw [passwordHash] at h
  split_ifs at h
  exact h

end Rows

/-! ### Operations -/

section Operations

variable {U : Unicode} {C : Crypto} {t t' : Tables} {v : Vault} {now : Millis} {user : Uuid}

/-- A registration puts the password of the new account into the vault. -/
lemma fits_register (h : Fits C t v) (hC : Faithful C) {drawn : Drawn}
    {email username password : String} {a : AuthUser}
    (hok : register U C drawn now t email username password = .ok (t', a)) :
    Fits C t' (v.record (some (drawn.id, password))) := by
  rw [register] at hok
  split_ifs at hok
  obtain ⟨-, -, hok⟩ := bind_eq_ok hok
  obtain ⟨hash, hhash, hok⟩ := bind_eq_ok hok
  obtain ⟨t1, hinsert, hok⟩ := bind_eq_ok hok
  obtain ⟨rfl, -⟩ := Prod.mk.inj (Except.ok.inj hok)
  exact (h.insert hC (passwordHash_ok hhash) (mapConflict_ok hinsert)).grant drawn.id "user"

/-- The statement that sets a password, in both of its forms, skips deleted rows. -/
lemma Fits.setPassword (h : Fits C t v) (hC : Faithful C) {password hash : String} {salt : Uuid}
    (hhash : passwordHash C password salt = .ok hash) :
    Fits C (t.updateUser user (Account.setPassword hash now))
      (v.record (if Live t user then some (user, password) else none)) := by
  refine h.set hC (fun u => ?_) (passwordHash_ok hhash) (fun u hu => ?_) fun u hu => if_neg hu
  · rw [Account.setPassword]
    split_ifs <;> rfl
  · rw [Account.setPassword, if_pos hu]

lemma Fits.resetPassword (h : Fits C t v) (hC : Faithful C) {password hash : String} {salt : Uuid}
    (hhash : passwordHash C password salt = .ok hash) :
    Fits C (t.updateUser user (Account.resetPassword hash now))
      (v.record (if Live t user then some (user, password) else none)) := by
  refine h.set hC (fun u => ?_) (passwordHash_ok hhash) (fun u hu => ?_) fun u hu => if_neg hu
  · rw [Account.resetPassword]
    split_ifs <;> rfl
  · rw [Account.resetPassword, if_pos hu]

/-- A change sets the password that it carries. -/
lemma fits_run (h : Fits C t v) (hC : Faithful C) {op : Change}
    (hok : op.run C now t = .ok (t', user)) :
    Fits C t' (v.record (if Live t user then
      (newPassword op).map fun password => (user, password) else none)) := by
  have hother : newPassword op = none → Fits C t' v → Fits C t' (v.record (if Live t user then
      (newPassword op).map fun password => (user, password) else none)) := by
    intro hnone hfits
    rw [hnone, Option.map_none, ite_self]
    exact hfits
  cases op with
  | disableUser actor target | enableUser actor target =>
      refine hother rfl ?_
      obtain ⟨t1, hrun, heq⟩ := map_eq_ok hok
      obtain ⟨rfl, rfl⟩ := Prod.mk.inj heq
      obtain ⟨-, -, hrun⟩ := bind_eq_ok hrun
      rw [setUserDisabled_ok (repositoryResult_ok hrun)]
      exact h.keep (fun _ => rfl) fun _ => rfl
  | deleteUser actor target =>
      refine hother rfl ?_
      obtain ⟨t1, hrun, heq⟩ := map_eq_ok hok
      obtain ⟨rfl, rfl⟩ := Prod.mk.inj heq
      obtain ⟨-, -, hrun⟩ := bind_eq_ok hrun
      split_ifs at hrun
      obtain rfl := Except.ok.inj hrun
      refine h.keep (fun u => ?_) fun u => ?_
      all_goals
        rw [Account.delete]
        split_ifs <;> rfl
  | resetPassword actor target salt password =>
      obtain ⟨t1, hrun, heq⟩ := map_eq_ok hok
      obtain ⟨rfl, rfl⟩ := Prod.mk.inj heq
      obtain ⟨-, -, hrun⟩ := bind_eq_ok hrun
      obtain ⟨hash, hhash, hrun⟩ := bind_eq_ok hrun
      split_ifs at hrun
      obtain rfl := Except.ok.inj hrun
      exact h.resetPassword hC hhash
  | invalidateSessions actor target =>
      refine hother rfl ?_
      obtain ⟨-, -, heq⟩ := map_eq_ok hok
      obtain ⟨rfl, -⟩ := Prod.mk.inj heq
      exact h
  | assignRole actor target role =>
      refine hother rfl ?_
      obtain ⟨t1, hrun, heq⟩ := map_eq_ok hok
      obtain ⟨rfl, rfl⟩ := Prod.mk.inj heq
      obtain ⟨-, -, hrun⟩ := bind_eq_ok hrun
      have hrun := repositoryResult_ok hrun
      rw [assignRole] at hrun
      split_ifs at hrun
      obtain rfl := Except.ok.inj hrun
      exact (h.grant target role).keep (fun _ => rfl) fun _ => rfl
  | removeRole actor target role =>
      refine hother rfl ?_
      obtain ⟨t1, hrun, heq⟩ := map_eq_ok hok
      obtain ⟨rfl, rfl⟩ := Prod.mk.inj heq
      obtain ⟨-, -, hrun⟩ := bind_eq_ok hrun
      split_ifs at hrun
      obtain rfl := Except.ok.inj hrun
      have hrevoked : Fits C (t.revoke target role) v := h.congr rfl
      exact hrevoked.keep (fun _ => rfl) fun _ => rfl
  | resetRecovery salt token password =>
      rw [Change.run] at hok
      split at hok
      · rename_i r hfind
        obtain ⟨t1, hrun, heq⟩ := map_eq_ok hok
        obtain ⟨rfl, rfl⟩ := Prod.mk.inj heq
        rw [Accounts.resetRecovery] at hrun
        dsimp only at hrun
        split_ifs at hrun
        obtain ⟨hash, hhash, hrun⟩ := bind_eq_ok hrun
        rw [redeemed?] at hfind
        simp only [hfind] at hrun
        obtain rfl := Except.ok.inj hrun
        exact (h.setPassword hC hhash).congr rfl
      · cases hok

/-- An update that keeps identifiers and addresses keeps the account of an address. -/
lemma adminId_updateUser {f : Account → Account} (hid : ∀ u, (f u).id = u.id)
    (hemail : ∀ u, (f u).email = u.email) (drawn : Drawn) (email : String) :
    adminId U (t.updateUser user f) drawn email = adminId U t drawn email := by
  have hrow : ∀ u : Account, (if u.id = user then f u else u).email = u.email := fun u => by
    rw [apply_ite Account.email, hemail, ite_self]
  have hfind : (fun u : Account => decide (U.toLowercase u.email = U.toLowercase email)) ∘
      (fun u => if u.id = user then f u else u) =
        fun u => decide (U.toLowercase u.email = U.toLowercase email) := by
    funext u
    rw [Function.comp_apply, hrow]
  rw [adminId, adminId, Tables.updateUser, List.find?_map, hfind, Option.map_map]
  refine congrArg (fun o : Option Uuid => o.getD drawn.id) (Option.map_congr fun u _ => ?_)
  rw [Function.comp_apply, apply_ite Account.id, hid, ite_self]

/-- The renaming of another administrator. -/
lemma fits_renameAdmin (h : Fits C t v) {email : String} (hok : renameAdmin U t email = .ok t')
    (drawn : Drawn) : Fits C t' v ∧ adminId U t' drawn email = adminId U t drawn email := by
  rw [renameAdmin] at hok
  split at hok
  · obtain rfl := Except.ok.inj hok
    exact ⟨h, rfl⟩
  · dsimp only at hok
    split_ifs at hok
    · obtain rfl := Except.ok.inj hok
      exact ⟨h, rfl⟩
    · obtain rfl := Except.ok.inj hok
      refine ⟨h.keep (fun _ => rfl) fun _ => rfl, adminId_updateUser ?_ ?_ drawn email⟩
      · exact fun _ => rfl
      · exact fun _ => rfl

/-- The upsert of the administrator, on a deleted row too. -/
lemma fits_upsertAdmin (h : Fits C t v) (hC : Faithful C) {drawn : Drawn}
    {email password hash : String} {salt id : Uuid} (hhash : C.hash password salt = .ok hash)
    (hok : upsertAdmin U drawn now t email hash = .ok (t', id)) :
    Fits C t' (v.record (some (adminId U t drawn email, password))) := by
  rw [upsertAdmin] at hok
  split at hok
  · rename_i u hfind
    obtain ⟨rfl, -⟩ := Prod.mk.inj (Except.ok.inj hok)
    rw [adminId, hfind]
    exact h.write hC (fun _ => rfl) hhash fun _ _ _ => rfl
  · rename_i hfind
    obtain ⟨t1, hinsert, hok⟩ := bind_eq_ok hok
    obtain ⟨rfl, -⟩ := Prod.mk.inj (Except.ok.inj hok)
    rw [adminId, hfind]
    exact h.insert hC hhash (repositoryResult_ok hinsert)

lemma fits_bootstrapAdmin (h : Fits C t v) (hC : Faithful C) {drawn : Drawn}
    {email password : String}
    (hok : bootstrapAdmin U C drawn now t (some email) (some password) = .ok t') :
    Fits C t' (v.record (some (adminId U t drawn email, password))) := by
  obtain ⟨hash, hhash, hok⟩ := bind_eq_ok hok
  obtain ⟨t1, hrename, hok⟩ := bind_eq_ok hok
  obtain ⟨⟨t2, id⟩, hupsert, hok⟩ := bind_eq_ok hok
  obtain rfl := Except.ok.inj hok
  obtain ⟨hrenamed, hsame⟩ := fits_renameAdmin h hrename drawn
  rw [← hsame]
  exact (fits_upsertAdmin hrenamed hC (passwordHash_ok hhash) hupsert).grant id _

end Operations

/-! ### Runs -/

section Runs

variable (U : Unicode) {C : Crypto} {s : State} {v : Vault}

/-- A refused operation leaves the tables. -/
lemma fits_after (h : Fits C s.tables v) {result : Except AppError Tables}
    (hok : ∀ t, result = .ok t → Fits C t v) : Fits C (s.after result).tables v := by
  cases result with
  | ok t => exact hok t rfl
  | error e => exact h

/-- **A move keeps the hashes and the vault in step.** -/
lemma fits_step (hC : Faithful C) (h : Fits C s.tables v) (a : Act) :
    Fits C (s.step U C a).tables (v.record (s.sets U C a)) := by
  cases a with
  | register drawn now email username password =>
      rw [State.step, State.sets]
      cases hrun : register U C drawn now s.tables email username password with
      | ok result =>
          obtain ⟨t, a⟩ := result
          exact fits_register h hC hrun
      | error e => exact h
  | check k user currentPassword =>
      rw [State.step]
      split
      · split_ifs <;> exact h
      · exact h
  | change k now salt newPassword =>
      rw [State.step, State.sets]
      cases hchecked : s.checked k with
      | none => exact h
      | some user =>
          cases hhash : passwordHash C newPassword salt with
          | ok hash => exact h.setPassword hC hhash
          | error e => exact h
  | operate now op =>
      rw [State.step, State.sets]
      cases hrun : op.run C now s.tables with
      | ok result =>
          obtain ⟨t, user⟩ := result
          exact fits_run h hC hrun
      | error e => exact h
  | requestRecovery now email token =>
      refine fits_after h fun t hok => ?_
      rw [requestRecovery] at hok
      split_ifs at hok
      split at hok
      · obtain rfl := Except.ok.inj hok
        exact h
      · obtain rfl := Except.ok.inj hok
        exact h.congr rfl
  | updateAccount now user username =>
      refine fits_after h fun t hok => ?_
      obtain ⟨-, -, hok⟩ := bind_eq_ok hok
      have hok := repositoryResult_ok hok
      rw [updateUsername] at hok
      split_ifs at hok
      obtain rfl := Except.ok.inj hok
      refine h.keep (fun u => ?_) fun u => ?_
      all_goals
        rw [Account.rename]
        split_ifs <;> rfl
  | deleteAccount now user =>
      refine h.keep (fun u => ?_) fun u => ?_
      all_goals
        rw [Account.selfDelete]
        split_ifs <;> rfl
  | bootstrapAdmin drawn now email password =>
      cases email with
      | none => exact h
      | some email =>
          cases password with
          | none => exact h
          | some password =>
              rw [State.step, State.sets]
              cases hrun : bootstrapAdmin U C drawn now s.tables (some email) (some password) with
              | ok t => exact fits_bootstrapAdmin h hC hrun
              | error e => exact h

end Runs

lemma faithful_plainCrypto : Faithful plainCrypto := by
  intro password salt encoded h other
  obtain rfl := Except.ok.inj h
  have hverify : plainCrypto.verify other ("#" ++ password) = true ↔
      "#" ++ password = "#" ++ other := decide_eq_true_iff
  rw [hverify, String.append_right_inj]
  exact eq_comm

/-- A registration, and a change of the password. -/
def renewal : List Act :=
  [.register ⟨1, 5⟩ 1 "a@x" "ada" "first password",
    .check 0 { id := 1, email := "a@x", username := "ada", roles := [], permissions := [] }
      "first password",
    .change 0 2 6 "second password"]

/-- The tables and the vault after `renewal`. -/
def renewed : State × Vault := final (stepVault .ascii plainCrypto) ({}, fun _ => none) renewal

end Vussa.Accounts.Passwords
