import Vussa.Lib.Effect
import Vussa.Model.Text

/-!
The accounts: the tables `users`, `user_roles` and `account_recovery_tokens` with the operations
on them (`api/account.rs`, `api/admin.rs`, `repository/postgres.rs`, `bootstrap.rs`).

A function that runs in a transaction is one step here. Passwords and recovery tokens are hashed by
third-party code, which is the parameter `Crypto`. `login` takes the answers of its two rate limits
as they come; the rate limits of the operations only refuse requests and are left out, as are the
audit and outbox rows and the session keys.

* `Account`, `Tables`: the tables;
* `Account.disable`, `Account.enable`, `Account.delete`, `Account.selfDelete`: what the updates
  write into a row of `users`;
* `register`, `adminDisableUser`, `adminEnableUser`, `adminDeleteUser`, `deleteAccount`,
  `requestRecovery`, `resetRecovery`, `bootstrapAdmin`: the operations;
* `login`: the login.
-/

namespace Vussa.Accounts

open Effect

/-! ### Tables -/

/-- A row of `users`. -/
structure Account where
  id : Uuid
  email : String
  username : String
  passwordHash : String
  disabledAt : Option Millis := none
  deletedAt : Option Millis := none
  roleVersion : ℕ := 1
  createdAt : Millis
  updatedAt : Millis
  deriving DecidableEq, Repr

/-- A row of `account_recovery_tokens`. -/
structure RecoveryToken where
  userId : Uuid
  tokenHash : String
  expiresAt : ℤ
  createdAt : Millis
  usedAt : Option Millis := none
  deriving DecidableEq, Repr

/-- The tables; a role is named by its unique name. -/
structure Tables where
  users : List Account := []
  roles : List String := []
  rolePermissions : List (String × Permission) := []
  userRoles : List (Uuid × String) := []
  recoveryTokens : List RecoveryToken := []
  deriving DecidableEq, Repr

/-- The functions of the `argon2` and `sha2` crates: the hash of a password under a salt, its
verification, and the digest of a recovery token. -/
structure Crypto where
  hash : String → Uuid → Except AppError String
  verify : String → String → Bool
  digest : String → String

namespace Account

/-- `UPDATE users` of `set_user_disabled` with `disabled`. -/
def disable (now : Millis) (u : Account) : Account :=
  { u with
    disabledAt := some (u.disabledAt.getD now), roleVersion := u.roleVersion + 1
    updatedAt := now }

/-- `UPDATE users` of `set_user_disabled` without `disabled`. -/
def enable (now : Millis) (u : Account) : Account :=
  { u with disabledAt := none, roleVersion := u.roleVersion + 1, updatedAt := now }

/-- `UPDATE users` of `admin_delete_user`, which skips a deleted row. -/
def delete (now : Millis) (u : Account) : Account :=
  if u.deletedAt = none then
    { u with
      deletedAt := some now, disabledAt := some (u.disabledAt.getD now)
      roleVersion := u.roleVersion + 1, updatedAt := now }
  else u

/-- `UPDATE users` of `delete_account`, which skips a deleted row. -/
def selfDelete (now : Millis) (u : Account) : Account :=
  if u.deletedAt = none then
    { u with
      deletedAt := some now, disabledAt := some now, roleVersion := u.roleVersion + 1
      updatedAt := now }
  else u

/-- `UPDATE users SET role_version=role_version+1`. -/
def bump (now : Millis) (u : Account) : Account :=
  { u with roleVersion := u.roleVersion + 1, updatedAt := now }

/-- `UPDATE users SET password_hash` of `reset_recovery`, which skips a deleted row. -/
def setPassword (hash : String) (now : Millis) (u : Account) : Account :=
  if u.deletedAt = none then
    { u with passwordHash := hash, roleVersion := u.roleVersion + 1, updatedAt := now }
  else u

end Account

namespace Tables

/-- Update the row of a user. -/
def updateUser (t : Tables) (id : Uuid) (f : Account → Account) : Tables :=
  { t with users := t.users.map fun u => if u.id = id then f u else u }

/-- `INSERT INTO users`: the primary key and the two unique indexes. -/
def insertUser (U : Unicode) (t : Tables) (row : Account) : Except RepositoryError Tables :=
  if ∃ u ∈ t.users, u.id = row.id ∨ U.toLowercase u.email = U.toLowercase row.email ∨
      U.toLowercase u.username = U.toLowercase row.username then
    .error .database
  else .ok { t with users := t.users ++ [row] }

/-- `INSERT INTO user_roles … SELECT … FROM roles WHERE name=… ON CONFLICT DO NOTHING`. -/
def grant (t : Tables) (user : Uuid) (role : String) : Tables :=
  if role ∈ t.roles ∧ (user, role) ∉ t.userRoles then
    { t with userRoles := t.userRoles ++ [(user, role)] }
  else t

/-- `DELETE FROM user_roles`. -/
def revoke (t : Tables) (user : Uuid) (role : String) : Tables :=
  { t with userRoles := t.userRoles.filter fun ur => ur ≠ (user, role) }

/-- The projection of a user with its roles and permissions. -/
def authUser (t : Tables) (u : Account) : AuthUser where
  id := u.id
  email := u.email
  username := u.username
  roles := t.roles.filter fun r => (u.id, r) ∈ t.userRoles
  permissions := ((t.rolePermissions.filter fun rp => (u.id, rp.1) ∈ t.userRoles).map
    Prod.snd).dedup

end Tables

/-! ### Operations -/

/-- `password_hash`. -/
def passwordHash (C : Crypto) (password : String) (salt : Uuid) : Except AppError String :=
  if password.utf8ByteSize < 12 ∨ 200 < password.utf8ByteSize then
    .error (.badRequest "password must be 12–200 characters")
  else C.hash password salt

/-- `map_conflict`. -/
def mapConflict {α : Type} : Except RepositoryError α → Except AppError α
  | .ok a => .ok a
  | .error .database => .error (.badRequest "email or username already exists")
  | .error e => .error e.toApp

/-- The identifiers a request draws with `Uuid::now_v7`. -/
structure Drawn where
  id : Uuid
  salt : Uuid
  deriving DecidableEq, Repr

/-- `register`, up to the session. -/
def register (U : Unicode) (C : Crypto) (drawn : Drawn) (now : Millis) (t : Tables)
    (rawEmail rawUsername password : String) : Except AppError (Tables × AuthUser) := do
  let email := U.toLowercase (trim rawEmail)
  let username := trim rawUsername
  if '@' ∉ email.toList ∨ 320 < email.utf8ByteSize then .error (.badRequest "invalid email")
  else do
    validateUsername U username
    let hash ← passwordHash C password drawn.salt
    let row : Account :=
      { id := drawn.id, email := U.toLowercase email, username := username, passwordHash := hash,
        createdAt := now, updatedAt := now }
    let t ← mapConflict (t.insertUser U row)
    let t := t.grant drawn.id "user"
    return (t, t.authUser row)

/-- `set_user_disabled`. -/
def setUserDisabled (now : Millis) (t : Tables) (user : Uuid) (disabled : Bool) :
    Except RepositoryError Tables :=
  if ∃ u ∈ t.users, u.id = user then
    .ok (t.updateUser user (if disabled then Account.disable now else Account.enable now))
  else .error .notFound

/-- `From<RepositoryError>` through the question mark. -/
def repositoryResult {α : Type} : Except RepositoryError α → Except AppError α
  | .ok a => .ok a
  | .error e => .error e.toApp

/-- `admin_disable_user`. -/
def adminDisableUser (now : Millis) (t : Tables) (actor : AuthUser) (user : Uuid) :
    Except AppError Tables := do
  requirePermission actor .usersWrite
  repositoryResult (setUserDisabled now t user true)

/-- `admin_enable_user`. -/
def adminEnableUser (now : Millis) (t : Tables) (actor : AuthUser) (user : Uuid) :
    Except AppError Tables := do
  requirePermission actor .usersWrite
  repositoryResult (setUserDisabled now t user false)

/-- `admin_delete_user`. -/
def adminDeleteUser (now : Millis) (t : Tables) (actor : AuthUser) (user : Uuid) :
    Except AppError Tables := do
  requirePermission actor .usersWrite
  if user = actor.id then .error (.badRequest "you cannot delete your own account")
  else if ∃ u ∈ t.users, u.id = user ∧ u.deletedAt = none then
    .ok (t.updateUser user (Account.delete now))
  else .error RepositoryError.notFound.toApp

/-- The transaction of `delete_account`. -/
def deleteAccount (now : Millis) (t : Tables) (user : Uuid) : Tables :=
  t.updateUser user (Account.selfDelete now)

/-- `request_recovery`; `token` is drawn at random. -/
def requestRecovery (U : Unicode) (C : Crypto) (now : Millis) (t : Tables) (rawEmail : String)
    (token : String) : Except AppError Tables :=
  let email := U.toLowercase (trim rawEmail)
  if email = "" ∨ 320 < email.utf8ByteSize then .error (.badRequest "invalid email")
  else
    match t.users.find? fun u =>
        U.toLowercase u.email = U.toLowercase email ∧ u.disabledAt = none ∧
          u.deletedAt = none with
    | none => .ok t
    | some u =>
        .ok { t with recoveryTokens :=
          (t.recoveryTokens.filter fun r => ¬ (r.userId = u.id ∧ r.usedAt = none)) ++
            [{ userId := u.id, tokenHash := C.digest token,
               expiresAt := ((now : ℕ) : ℤ) + 30 * 60 * 1000, createdAt := now }] }

/-- `char::is_ascii_hexdigit`. -/
def isAsciiHexdigit (c : Char) : Bool :=
  c.isDigit || ('a' ≤ c && c ≤ 'f') || ('A' ≤ c && c ≤ 'F')

/-- `reset_recovery`. -/
def resetRecovery (C : Crypto) (salt : Uuid) (now : Millis) (t : Tables)
    (rawToken password : String) : Except AppError Tables := do
  let token := trim rawToken
  if token.utf8ByteSize ≠ 64 ∨ ¬ token.toList.all isAsciiHexdigit then
    .error (.unauthorized "invalid or expired recovery token")
  else do
    let hash ← passwordHash C password salt
    match t.recoveryTokens.find? fun r =>
        r.tokenHash = C.digest token ∧ r.usedAt = none ∧ ((now : ℕ) : ℤ) < r.expiresAt with
    | none => .error (.unauthorized "invalid or expired recovery token")
    | some r =>
        .ok { t.updateUser r.userId (Account.setPassword hash now) with
          recoveryTokens := t.recoveryTokens.map fun r' =>
            if r'.tokenHash = C.digest token then { r' with usedAt := some now } else r' }

/-- The renaming in `bootstrap_admin` of another account that has the name of the administrator;
a name that is taken violates the unique index. -/
def renameAdmin (U : Unicode) (t : Tables) (email : String) : Except AppError Tables :=
  match t.users.find? fun u => U.toLowercase u.username = "admin" with
  | none => .ok t
  | some u =>
      if U.toLowercase u.email = U.toLowercase email then .ok t
      else
        let renamed := "admin_renamed_" ++ String.ofList (u.id.toText.toList.take 8)
        if ∃ v ∈ t.users, v.id ≠ u.id ∧ U.toLowercase v.username = U.toLowercase renamed then
          .error RepositoryError.database.toApp
        else .ok (t.updateUser u.id fun u => { u with username := renamed })

/-- The upsert of `bootstrap_admin`: a row with the address gets the password and is enabled. -/
def upsertAdmin (U : Unicode) (drawn : Drawn) (now : Millis) (t : Tables) (email hash : String) :
    Except AppError (Tables × Uuid) :=
  match t.users.find? fun u => U.toLowercase u.email = U.toLowercase email with
  | some u =>
      .ok (t.updateUser u.id fun u =>
        { u with passwordHash := hash, disabledAt := none, updatedAt := now }, u.id)
  | none => do
      let row : Account :=
        { id := drawn.id, email := U.toLowercase email, username := "admin",
          passwordHash := hash, createdAt := now, updatedAt := now }
      let t ← repositoryResult (t.insertUser U row)
      return (t, drawn.id)

/-- `bootstrap_admin` with the variables `ADMIN_EMAIL` and `ADMIN_PASSWORD`. -/
def bootstrapAdmin (U : Unicode) (C : Crypto) (drawn : Drawn) (now : Millis) (t : Tables)
    (email password : Option String) : Except AppError Tables :=
  match email, password with
  | some email, some password => do
      let hash ← passwordHash C password drawn.salt
      let t ← renameAdmin U t email
      let (t, id) ← upsertAdmin U drawn now t email hash
      return t.grant id "admin"
  | _, _ => .ok t

/-! ### Login -/

/-- `find_user_for_login`. -/
def findUserForLogin (U : Unicode) (t : Tables) (name : String) : Option Account :=
  t.users.find? fun u => U.toLowercase u.email = U.toLowercase name ∨
    U.toLowercase u.username = U.toLowercase name

/-- `login`, up to the session: the answers of `enforce_rate_limit` on the keys of the client's
address and of the name, and then the row that was found, if it is not disabled and the password
fits. -/
def login (U : Unicode) (C : Crypto) (ipLimit targetLimit : Except AppError Unit) (t : Tables)
    (email password : String) : Except AppError AuthUser := do
  ipLimit
  targetLimit
  match findUserForLogin U t (trim email) with
  | none => .error (.unauthorized "invalid credentials")
  | some u =>
      if u.disabledAt.isSome ∨ ¬ C.verify password u.passwordHash then
        .error (.unauthorized "invalid credentials")
      else .ok (t.authUser u)

/-- A login that succeeds. -/
lemma login_eq_ok_iff {U : Unicode} {C : Crypto} {ipLimit targetLimit : Except AppError Unit}
    {t : Tables} {email password : String} {a : AuthUser} :
    login U C ipLimit targetLimit t email password = .ok a ↔
      ipLimit = .ok ⟨⟩ ∧ targetLimit = .ok ⟨⟩ ∧ ∃ u, findUserForLogin U t (trim email) = some u ∧
        u.disabledAt = none ∧ C.verify password u.passwordHash ∧ a = t.authUser u := by
  cases ipLimit with
  | error e =>
      constructor
      · intro h
        cases h
      · rintro ⟨⟨⟩, -⟩
  | ok ip =>
      cases targetLimit with
      | error e =>
          constructor
          · intro h
            cases h
          · rintro ⟨-, ⟨⟩, -⟩
      | ok target =>
          have hpast : login U C (.ok ip) (.ok target) t email password =
              match findUserForLogin U t (trim email) with
              | none => .error (.unauthorized "invalid credentials")
              | some u =>
                  if u.disabledAt.isSome ∨ ¬ C.verify password u.passwordHash then
                    .error (.unauthorized "invalid credentials")
                  else .ok (t.authUser u) := rfl
          rw [hpast]
          cases findUserForLogin U t (trim email) with
          | none => simp
          | some u =>
              simp only [Option.some.injEq, exists_eq_left', true_and]
              split_ifs with hrefused
              · constructor
                · intro h
                  cases h
                · rintro ⟨hon, hfit, -⟩
                  rcases hrefused with hoff | hunfit
                  · rw [hon] at hoff
                    cases hoff
                  · exact absurd hfit hunfit
              · obtain ⟨hon, hfit⟩ := not_or.mp hrefused
                rw [Option.not_isSome_iff_eq_none] at hon
                rw [Except.ok.injEq, eq_comm]
                exact ⟨fun h => ⟨hon, not_not.mp hfit, h⟩, fun h => h.2.2⟩

end Vussa.Accounts
