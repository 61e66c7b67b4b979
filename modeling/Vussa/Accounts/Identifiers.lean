import Vussa.Lib.ReadCommitted
import Vussa.Lib.Unique
import Vussa.Accounts.Model

/-!
The name of a login under concurrent calls of `register` and `update_account` (`api/account.rs`,
`repository/postgres.rs`), at the granularity of SQL statements under read committed. `users` has
unique indexes on `lower(email)` and on `lower(username)`; the query of a login compares both
columns with its argument, and no index forbids that one user has the e-mail another has as
username.

A statement that enters a key in an index waits for a transaction that has entered the key, and
fails if the key is there. Rate limits, the sessions and the audit rows are left out: where they
refuse a request it is lost before its commit. `lower` of the database is a parameter.

* `Op`, `Stage`, `Stage.next`, `system`: the two calls as programs of `ReadCommitted`;
* `loginRows`: the rows of the query;
* `findUserForLogin_eq`, `register_alone`: the query and a call that runs alone against the
  functions of `Vussa.Accounts`;
* `Distinct`: the invariant, unique keys, and that e-mails contain `@` where usernames do not;
* `Stage.Sound`, `keeps_distinct`: what the indexes have promised to a call under way;
* `loginRows_le_one`: **in every state of a run a login finds at most one user**.
-/

namespace Vussa.Accounts

open Run ReadCommitted Table

/-- `UPDATE users` of `update_username`, which skips a deleted row. -/
def Account.rename (username : String) (now : Millis) (u : Account) : Account :=
  if u.deletedAt = none then
    { u with username := username, updatedAt := now, roleVersion := u.roleVersion + 1 }
  else u

namespace Identifiers

/-- The Unicode tables and the cryptography of the server, and `lower` of the database. -/
structure Env where
  unicode : Unicode
  crypto : Crypto
  lower : String → String

/-- What a statement writes. -/
inductive Write where
  | insertUser (row : Account)
  | grant (userId : Uuid)
  | rename (userId : Uuid) (username : String) (now : Millis)
  deriving DecidableEq, Repr

/-- The tables after a write. -/
def Write.apply (t : Tables) : Write → Tables
  | insertUser row => { t with users := t.users ++ [row] }
  | grant userId => t.grant userId "user"
  | rename userId username now => t.updateUser userId (Account.rename username now)

/-- The rows and index entries that are locked. -/
inductive Lock where
  | user (id : Uuid)
  | email (key : String)
  | username (key : String)
  deriving DecidableEq, Repr

/-! ### Programs -/

/-- The calls, with what they draw and the instant they read. -/
inductive Op where
  | register (rawEmail rawUsername password : String) (drawn : Drawn) (now : Millis)
  | updateAccount (userId : Uuid) (rawUsername : String) (now : Millis)
  deriving DecidableEq, Repr

/-- Where a call stands. -/
inductive Stage where
  | call (op : Op)
  /-- the checks of `register` have passed -/
  | insert (row : Account)
  | inserted (row : Account)
  | granted (row : Account)
  /-- the checks of `update_account` have passed -/
  | rename (userId : Uuid) (username : String) (now : Millis)
  | renamed (userId : Uuid) (username : String) (now : Millis)
  deriving DecidableEq, Repr

/-- What the transaction has written. -/
def Stage.writes : Stage → List Write
  | inserted row => [.insertUser row]
  | granted row => [.insertUser row, .grant row.id]
  | renamed userId username now => [.rename userId username now]
  | call _ | insert _ | rename _ _ _ => []

/-- The locks the transaction holds. -/
def Stage.locks (E : Env) : Stage → List Lock
  | inserted row | granted row =>
      [.user row.id, .email (E.lower row.email), .username (E.lower row.username)]
  | renamed userId username _ => [.user userId, .username (E.lower username)]
  | call _ | insert _ | rename _ _ _ => []

/-- The checks of a call. -/
def Op.next (E : Env) : Op → Next Stage Lock
  | register rawEmail rawUsername password drawn now =>
      let email := E.unicode.toLowercase (trim rawEmail)
      let username := trim rawUsername
      if '@' ∉ email.toList ∨ 320 < email.utf8ByteSize then .fail
      else
        match validateUsername E.unicode username with
        | .error _ => .fail
        | .ok _ =>
            match passwordHash E.crypto password drawn.salt with
            | .error _ => .fail
            | .ok hash =>
                .goto [] (.insert
                  { id := drawn.id, email := E.lower email, username := username,
                    passwordHash := hash, createdAt := now, updatedAt := now })
  | updateAccount userId rawUsername now =>
      match validateUsername E.unicode (trim rawUsername) with
      | .error _ => .fail
      | .ok _ => .goto [] (.rename userId (trim rawUsername) now)

/-- A row with the primary key, the e-mail or the username of another one. -/
def Taken (E : Env) (users : List Account) (row : Account) : Prop :=
  ∃ u ∈ users, u.id = row.id ∨ E.lower u.email = E.lower row.email ∨
    E.lower u.username = E.lower row.username

instance (E : Env) (users : List Account) (row : Account) : Decidable (Taken E users row) :=
  inferInstanceAs (Decidable (∃ u ∈ users, _))

/-- A username of another row. -/
def NameTaken (E : Env) (users : List Account) (userId : Uuid) (username : String) : Prop :=
  ∃ u ∈ users, u.id ≠ userId ∧ E.lower u.username = E.lower username

instance (E : Env) (users : List Account) (userId : Uuid) (username : String) :
    Decidable (NameTaken E users userId username) :=
  inferInstanceAs (Decidable (∃ u ∈ users, _))

/-- The next statement of a call. -/
def Stage.next (E : Env) (p : Stage) (v : Tables) : Next Stage Lock :=
  match p with
  | call op => op.next E
  | insert row => if Taken E v.users row then .fail else .goto [] (inserted row)
  | inserted row => .goto [] (granted row)
  | granted _ => .commit
  | rename userId username now =>
      if ∃ u ∈ v.users, u.id = userId ∧ u.deletedAt = none then
        if NameTaken E v.users userId username then .fail
        else .goto [] (renamed userId username now)
      else .fail
  | renamed _ _ _ => .commit

/-- The calls as programs. -/
def system (E : Env) : System Tables Op Stage Write Lock where
  start := .call
  next := Stage.next E
  writes := Stage.writes
  locks := Stage.locks E
  apply := Write.apply

/-- The rows of `find_user_for_login`. -/
def loginRows (E : Env) (t : Tables) (name : String) : List Account :=
  t.users.filter fun u => E.lower u.email = E.lower name ∨ E.lower u.username = E.lower name

/-! ### One call at a time -/

section Alone

variable {E : Env} (hlower : E.lower = E.unicode.toLowercase)
include hlower

lemma findUserForLogin_eq (t : Tables) (name : String) :
    findUserForLogin E.unicode t name = (loginRows E t name).head? := by
  rw [loginRows, List.head?_filter, findUserForLogin, hlower]

/-- A call of `register` that runs alone commits what the function does in one step. -/
theorem register_alone {drawn : Drawn} {now : Millis} {t t' : Tables}
    {rawEmail rawUsername password : String} {user : AuthUser}
    (h : register E.unicode E.crypto drawn now t rawEmail rawUsername password = .ok (t', user)) :
    (final (system E).step { db := t }
      (.begin (.register rawEmail rawUsername password drawn now) :: List.replicate 4 (.run 0))).db
        = t' := by
  rw [register] at h
  split at h
  · cases h
  · rename_i hemail
    obtain ⟨x, hvalid, h⟩ := Effect.bind_eq_ok h
    obtain ⟨hash, hhash, h⟩ := Effect.bind_eq_ok h
    obtain ⟨t1, hinserted, h⟩ := Effect.bind_eq_ok h
    obtain ⟨rfl, -⟩ := Prod.mk.inj (Except.ok.inj h)
    rw [Tables.insertUser] at hinserted
    split at hinserted
    · cases hinserted
    · rename_i hfree
      obtain rfl := Except.ok.inj hinserted
      let op : Op := .register rawEmail rawUsername password drawn now
      let row : Account :=
        { id := drawn.id, email := E.lower (E.unicode.toLowercase (trim rawEmail)),
          username := trim rawUsername, passwordHash := hash, createdAt := now, updatedAt := now }
      have hcall : (system E).next (.call op) ((system E).view t (.call op)) =
          .goto [] (.insert row) := by
        change op.next E = .goto [] (.insert row)
        rw [Op.next, if_neg hemail]
        simp only [hvalid, hhash]
        rfl
      have hinsert : (system E).next (.insert row) ((system E).view t (.insert row)) =
          .goto [] (.inserted row) := by
        refine if_neg ?_
        rw [Taken, hlower]
        simp only [row, hlower]
        exact hfree
      have hgrant : (system E).next (.inserted row) ((system E).view t (.inserted row)) =
          .goto [] (.granted row) := rfl
      change ((system E).step ((system E).step ((system E).step ((system E).step
        { db := t, requests := [some (.call op)] } (.run 0)) (.run 0)) (.run 0)) (.run 0)).db = _
      rw [System.step_only hcall, System.step_only hinsert, System.step_only hgrant,
        System.step_commit ⟨rfl, rfl⟩]
      simp only [row, hlower]
      rfl

end Alone

/-! ### The invariant -/

/-- The keys are distinct, e-mails contain `@` and usernames do not. -/
structure Distinct (E : Env) (users : List Account) : Prop where
  id : Unique Account.id users
  email : Unique (fun u => E.lower u.email) users
  username : Unique (fun u => E.lower u.username) users
  emailAt : ∀ u ∈ users, '@' ∈ u.email.toList
  usernameAt : ∀ u ∈ users, '@' ∉ u.username.toList

/-- The addresses of a row are well formed. -/
def Addressed (row : Account) : Prop := '@' ∈ row.email.toList ∧ '@' ∉ row.username.toList

/-- What a call has checked, and what the indexes have promised it. -/
def Stage.Sound (E : Env) (t : Tables) : Stage → Prop
  | call _ => True
  | insert row => Addressed row
  | inserted row | granted row => Addressed row ∧ ¬ Taken E t.users row
  | rename _ username _ => '@' ∉ username.toList
  | renamed userId username _ => '@' ∉ username.toList ∧ ¬ NameTaken E t.users userId username

section Rows

variable {E : Env} {users : List Account} {row : Account}

lemma Distinct.insert (h : Distinct E users) (haddressed : Addressed row)
    (hnew : ¬ Taken E users row) : Distinct E (users ++ [row]) where
  id := h.id.append fun u hu heq => hnew ⟨u, hu, .inl heq⟩
  email := h.email.append fun u hu heq => hnew ⟨u, hu, .inr (.inl heq)⟩
  username := h.username.append fun u hu heq => hnew ⟨u, hu, .inr (.inr heq)⟩
  emailAt u hu := by
    rcases List.mem_append.mp hu with hu | hu
    · exact h.emailAt u hu
    · exact List.mem_singleton.mp hu ▸ haddressed.1
  usernameAt u hu := by
    rcases List.mem_append.mp hu with hu | hu
    · exact h.usernameAt u hu
    · exact List.mem_singleton.mp hu ▸ haddressed.2

/-- The rows after `update_username`. -/
def renameIn (users : List Account) (userId : Uuid) (username : String) (now : Millis) :
    List Account :=
  users.map fun u => if u.id = userId then u.rename username now else u

/-- A row after `update_username` has its name, or it is the one that was renamed. -/
lemma rename_cases (userId : Uuid) (username : String) (now : Millis) (u : Account) :
    (if u.id = userId then u.rename username now else u).id = u.id ∧
      (if u.id = userId then u.rename username now else u).email = u.email ∧
      ((if u.id = userId then u.rename username now else u).username = u.username ∨
        (u.id = userId ∧
          (if u.id = userId then u.rename username now else u).username = username)) := by
  by_cases hid : u.id = userId
  · rw [if_pos hid, Account.rename]
    split
    · exact ⟨rfl, rfl, .inr ⟨hid, rfl⟩⟩
    · exact ⟨rfl, rfl, .inl rfl⟩
  · rw [if_neg hid]
    exact ⟨rfl, rfl, .inl rfl⟩

lemma mem_renameIn {userId : Uuid} {username : String} {now : Millis} {u' : Account}
    (h : u' ∈ renameIn users userId username now) :
    ∃ u ∈ users, u'.id = u.id ∧ u'.email = u.email ∧
      (u'.username = u.username ∨ (u.id = userId ∧ u'.username = username)) := by
  obtain ⟨u, hu, rfl⟩ := List.mem_map.mp h
  exact ⟨u, hu, rename_cases userId username now u⟩

lemma Distinct.rename (h : Distinct E users) {userId : Uuid} {username : String}
    (hat : '@' ∉ username.toList) (hfree : ¬ NameTaken E users userId username) (now : Millis) :
    Distinct E (renameIn users userId username now) where
  id := h.id.map fun u => (rename_cases userId username now u).1
  email := h.email.map fun u => congrArg E.lower (rename_cases userId username now u).2.1
  username := by
    have hpairs : users.Pairwise fun a b => a.id ≠ b.id ∧ E.lower a.username ≠ E.lower b.username :=
      (List.pairwise_map.mp h.id).and (List.pairwise_map.mp h.username)
    refine List.pairwise_map.mpr (List.pairwise_map.mpr ?_)
    refine hpairs.imp_of_mem fun {a b} ha hb ⟨hid, hname⟩ => ?_
    obtain ⟨-, -, ha' | ⟨haid, ha'⟩⟩ := rename_cases userId username now a
    · obtain ⟨-, -, hb' | ⟨hbid, hb'⟩⟩ := rename_cases userId username now b
      · rw [ha', hb']
        exact hname
      · rw [ha', hb']
        exact fun heq => hfree ⟨a, ha, fun haid => hid (haid.trans hbid.symm), heq⟩
    · obtain ⟨-, -, hb' | ⟨hbid, -⟩⟩ := rename_cases userId username now b
      · rw [ha', hb']
        exact fun heq => hfree ⟨b, hb, fun hbid => hid (haid.trans hbid.symm), heq.symm⟩
      · exact absurd (haid.trans hbid.symm) hid
  emailAt u' hu' := by
    obtain ⟨u, hu, -, hemail, -⟩ := mem_renameIn hu'
    rw [hemail]
    exact h.emailAt u hu
  usernameAt u' hu' := by
    obtain ⟨u, hu, -, -, hname | ⟨-, hname⟩⟩ := mem_renameIn hu'
    · rw [hname]
      exact h.usernameAt u hu
    · rw [hname]
      exact hat

/-- `lower` keeps `@` and makes none. -/
def Env.KeepsAt (E : Env) : Prop := ∀ s, '@' ∈ (E.lower s).toList ↔ '@' ∈ s.toList

/-- No name is the e-mail of one user and the username of another one. -/
lemma Distinct.length_loginRows (hlower : E.KeepsAt) {t : Tables} (h : Distinct E t.users)
    (name : String) : (loginRows E t name).length ≤ 1 := by
  have hcross : ∀ a ∈ t.users, ∀ b ∈ t.users, E.lower a.email ≠ E.lower b.username := by
    intro a ha b hb heq
    have hemail : '@' ∈ (E.lower a.email).toList := (hlower a.email).mpr (h.emailAt a ha)
    exact h.usernameAt b hb ((hlower b.username).mp (heq ▸ hemail))
  refine h.id.length_filter_le_one fun a ha b hb hpa hpb => congrArg Account.id ?_
  rcases of_decide_eq_true hpa with hae | han
  · rcases of_decide_eq_true hpb with hbe | hbn
    · exact h.email.eq ha hb (hae.trans hbe.symm)
    · exact absurd (hae.trans hbn.symm) (hcross a ha b hb)
  · rcases of_decide_eq_true hpb with hbe | hbn
    · exact absurd (hbe.trans han.symm) (hcross b hb a ha)
    · exact h.username.eq ha hb (han.trans hbn.symm)

/-! ### The promises of the indexes -/

/-- Another call inserts a row with other keys. -/
lemma not_taken_insert {other : Account} (h : ¬ Taken E users row) (hid : other.id ≠ row.id)
    (hemail : E.lower other.email ≠ E.lower row.email)
    (hname : E.lower other.username ≠ E.lower row.username) :
    ¬ Taken E (users ++ [other]) row := by
  rintro ⟨u, hu, htaken⟩
  rcases List.mem_append.mp hu with hu | hu
  · exact h ⟨u, hu, htaken⟩
  · obtain rfl := List.mem_singleton.mp hu
    exact htaken.elim hid fun htaken => htaken.elim hemail hname

/-- Another call gives a user another name than the row has. -/
lemma not_taken_rename (h : ¬ Taken E users row) {userId : Uuid} {username : String}
    (hname : E.lower username ≠ E.lower row.username) (now : Millis) :
    ¬ Taken E (renameIn users userId username now) row := by
  rintro ⟨u', hu', htaken⟩
  obtain ⟨u, hu, hid, hemail, hname' | ⟨-, hname'⟩⟩ := mem_renameIn hu'
  · rw [hid, hemail, hname'] at htaken
    exact h ⟨u, hu, htaken⟩
  · rw [hid, hemail, hname'] at htaken
    rcases htaken with htaken | htaken | htaken
    · exact h ⟨u, hu, .inl htaken⟩
    · exact h ⟨u, hu, .inr (.inl htaken)⟩
    · exact hname htaken

lemma not_nameTaken_insert {userId : Uuid} {username : String} {other : Account}
    (h : ¬ NameTaken E users userId username) (hname : E.lower other.username ≠ E.lower username) :
    ¬ NameTaken E (users ++ [other]) userId username := by
  rintro ⟨u, hu, htaken⟩
  rcases List.mem_append.mp hu with hu | hu
  · exact h ⟨u, hu, htaken⟩
  · obtain rfl := List.mem_singleton.mp hu
    exact hname htaken.2

lemma not_nameTaken_rename {userId other : Uuid} {username name : String}
    (h : ¬ NameTaken E users userId username) (hname : E.lower name ≠ E.lower username)
    (now : Millis) : ¬ NameTaken E (renameIn users other name now) userId username := by
  rintro ⟨u', hu', hne, htaken⟩
  obtain ⟨u, hu, hid, -, hname' | ⟨-, hname'⟩⟩ := mem_renameIn hu'
  · rw [hid] at hne
    rw [hname'] at htaken
    exact h ⟨u, hu, hne, htaken⟩
  · rw [hname'] at htaken
    exact hname htaken

end Rows

/-! ### Runs -/

/-- A valid username has no `@`. -/
lemma at_of_validateUsername {U : Unicode} (hat : U.isAlphanumeric '@' = false) {name : String}
    {x : Unit} (h : validateUsername U name = .ok x) : '@' ∉ name.toList := by
  rw [validateUsername] at h
  split_ifs at h with hchars hreserved
  intro hmem
  have hall := not_not.mp (not_or.mp (not_or.mp hchars).2).2
  have hchar := List.all_eq_true.mp hall '@' hmem
  rw [hat] at hchar
  exact absurd hchar (by decide)

section Runs

variable {E : Env}

/-- The checks of a call refuse it, or they have found what its row or name needs. -/
lemma Op.next_cases (hlower : E.KeepsAt) (hat : E.unicode.isAlphanumeric '@' = false) (op : Op) :
    op.next E = .fail ∨ ∃ p', op.next E = .goto [] p' ∧ ∀ t, p'.Sound E t := by
  cases op with
  | register rawEmail rawUsername password drawn now =>
      rw [next]
      split
      · exact .inl rfl
      · rename_i hemail
        split
        · exact .inl rfl
        · rename_i hvalid
          split
          · exact .inl rfl
          · exact .inr ⟨_, rfl, fun t => ⟨(hlower _).mpr (not_not.mp (not_or.mp hemail).1),
              at_of_validateUsername hat hvalid⟩⟩
  | updateAccount userId rawUsername now =>
      rw [next]
      split
      · exact .inl rfl
      · rename_i hvalid
        exact .inr ⟨_, rfl, fun t => at_of_validateUsername hat hvalid⟩

/-- What a statement finds. -/
lemma Stage.next_sound (hlower : E.KeepsAt) (hat : E.unicode.isAlphanumeric '@' = false)
    {t : Tables} {p p' : Stage} {needs : List Lock} (h : p.Sound E t)
    (hnext : p.next E ((system E).view t p) = .goto needs p') : p'.Sound E t := by
  cases p with
  | call op =>
      have hop : op.next E = .goto needs p' := hnext
      obtain hfail | ⟨q, hq, hsound⟩ := op.next_cases hlower hat
      · cases hfail.symm.trans hop
      · cases hq.symm.trans hop
        exact hsound t
  | insert row =>
      rw [next] at hnext
      split at hnext
      · cases hnext
      · rename_i hfree
        cases hnext
        exact ⟨h, hfree⟩
  | inserted row =>
      cases hnext
      exact h
  | granted row => cases hnext
  | rename userId username now =>
      rw [next] at hnext
      split at hnext
      · split at hnext
        · cases hnext
        · rename_i hfree
          cases hnext
          exact ⟨h, hfree⟩
      · cases hnext
  | renamed userId username now => cases hnext

lemma grant_users (t : Tables) (user : Uuid) (role : String) :
    (t.grant user role).users = t.users := by
  rw [Tables.grant]
  split
  · rfl
  · rfl

/-- The two commits. -/
lemma commit_cases (hlower : E.KeepsAt) (hat : E.unicode.isAlphanumeric '@' = false) {t : Tables}
    {p : Stage} (h : p.next E ((system E).view t p) = .commit) :
    (∃ row, p = .granted row ∧ ((system E).view t p).users = t.users ++ [row]) ∨
    ∃ userId username now, p = .renamed userId username now ∧
      ((system E).view t p).users = renameIn t.users userId username now := by
  cases p with
  | call op =>
      have hop : op.next E = .commit := h
      obtain hfail | ⟨q, hq, -⟩ := op.next_cases hlower hat
      · cases hfail.symm.trans hop
      · cases hq.symm.trans hop
  | insert row =>
      rw [Stage.next] at h
      split at h
      · cases h
      · cases h
  | inserted row => cases h
  | granted row => exact .inl ⟨row, rfl, grant_users _ _ _⟩
  | rename userId username now =>
      rw [Stage.next] at h
      split at h
      · split at h
        · cases h
        · cases h
      · cases h
  | renamed userId username now => exact .inr ⟨userId, username, now, rfl, rfl⟩

/-- Rows entered at the same time have distinct keys. -/
lemma keys_ne {row other : Account}
    (h : ∀ κ ∈ (Stage.granted row).locks E, κ ∉ (Stage.granted other).locks E) :
    row.id ≠ other.id ∧ E.lower row.email ≠ E.lower other.email ∧
      E.lower row.username ≠ E.lower other.username := by
  refine ⟨fun heq => ?_, fun heq => ?_, fun heq => ?_⟩
  · exact h (.user row.id) (by simp [Stage.locks]) (by simp [Stage.locks, heq])
  · exact h (.email (E.lower row.email)) (by simp [Stage.locks]) (by simp [Stage.locks, heq])
  · exact h (.username (E.lower row.username)) (by simp [Stage.locks]) (by simp [Stage.locks, heq])

/-- The indexes keep their promises to a call while another one inserts its row. -/
lemma Stage.Sound.insert {t t' : Tables} {row : Account} {q : Stage} (h : q.Sound E t)
    (husers : t'.users = t.users ++ [row])
    (hlocks : ∀ κ ∈ (Stage.granted row).locks E, κ ∉ q.locks E) : q.Sound E t' := by
  cases q with
  | call _ | insert _ | rename _ _ _ => exact h
  | inserted other | granted other =>
      obtain ⟨hid, hemail, hname⟩ := keys_ne hlocks
      refine ⟨h.1, ?_⟩
      rw [husers]
      exact not_taken_insert h.2 hid hemail hname
  | renamed userId username now =>
      refine ⟨h.1, ?_⟩
      rw [husers]
      refine not_nameTaken_insert h.2 fun heq => ?_
      exact hlocks (.username (E.lower row.username)) (by simp [locks]) (by simp [locks, heq])

/-- And while another one renames its user. -/
lemma Stage.Sound.rename {t t' : Tables} {userId : Uuid} {username : String} {now : Millis}
    {q : Stage} (h : q.Sound E t) (husers : t'.users = renameIn t.users userId username now)
    (hlocks : Lock.username (E.lower username) ∉ q.locks E) : q.Sound E t' := by
  cases q with
  | call _ | insert _ | rename _ _ _ => exact h
  | inserted other | granted other =>
      refine ⟨h.1, ?_⟩
      rw [husers]
      exact not_taken_rename h.2 (fun heq => hlocks (by simp [locks, heq])) now
  | renamed other name now' =>
      refine ⟨h.1, ?_⟩
      rw [husers]
      exact not_nameTaken_rename h.2 (fun heq => hlocks (by simp [locks, heq])) now

/-- What the statements and commits keep. -/
lemma keeps_distinct (hlower : E.KeepsAt) (hat : E.unicode.isAlphanumeric '@' = false) :
    (system E).Keeps (fun t => Distinct E t.users) (fun t p => p.Sound E t) fun _ _ => True where
  locks _ := rfl
  start _ _ _ _ := trivial
  goto _ _ _ _ _ hsound hnext := Stage.next_sound hlower hat hsound hnext
  commit s k p hgood hcommit _ := by
    have hsound := hgood.request k p hcommit.1
    obtain ⟨row, rfl, husers⟩ | ⟨userId, username, now, rfl, husers⟩ :=
      commit_cases hlower hat hcommit.2
    · rw [husers]
      exact hgood.db.insert hsound.1 hsound.2
    · rw [husers]
      exact hgood.db.rename hsound.1 hsound.2 now
  frame s k p hgood hcommit _ j q hne hq := by
    have hlocks := hgood.exclusive k j p q hne.symm hcommit.1 hq
    have hsound := hgood.request j q hq
    obtain ⟨row, rfl, husers⟩ | ⟨userId, username, now, rfl, husers⟩ :=
      commit_cases hlower hat hcommit.2
    · exact hsound.insert husers hlocks
    · exact hsound.rename husers (hlocks _ (List.mem_cons_of_mem _ List.mem_cons_self))

/-- **One user at most**: in every run of `register` and `update_account` on an empty table every
name is the e-mail or the username of at most one user. -/
theorem loginRows_le_one (hlower : E.KeepsAt) (hat : E.unicode.isAlphanumeric '@' = false)
    {t : Tables} (hempty : t.users = []) (as : List (ReadCommitted.Act Op)) (name : String) :
    (loginRows E (final (system E).step { db := t } as).db name).length ≤ 1 := by
  have hdistinct : Distinct E t.users := by
    rw [hempty]
    exact ⟨unique_nil, unique_nil, unique_nil, nofun, nofun⟩
  have hgood := final_invariant
    (I := (system E).Good (fun t => Distinct E t.users) (fun t p => p.Sound E t))
    (fun _ a hs => (keeps_distinct hlower hat).step hs (a := a) trivial)
    (System.good_of_requests_eq_nil (s := { db := t }) hdistinct rfl) as
  exact hgood.db.length_loginRows hlower name

end Runs

/-! ### Two users -/

/-- ASCII text, and passwords stored as they are. -/
def plainEnv : Env where
  unicode := .ascii
  crypto := { hash := fun password _ => .ok password, verify := fun a b => a == b, digest := id }
  lower := Unicode.ascii.toLowercase

lemma toLower_eq_at {c : Char} : c.toLower = '@' ↔ c = '@' := by
  by_cases hupper : c.val ≥ 'A'.val ∧ c.val ≤ 'Z'.val
  · have hlow : 65 ≤ c.val.toNat := hupper.1
    have hhigh : c.val.toNat ≤ 90 := hupper.2
    have hlower : c.toLower.val = c.val + 32 := congrArg Char.val (dif_pos hupper)
    refine iff_of_false (fun heq => ?_) fun heq => ?_
    · rw [heq] at hlower
      have hval : ((c.val + 32 : UInt32)).toNat = 64 := congrArg UInt32.toNat hlower.symm
      rw [UInt32.toNat_add] at hval
      have h32 : (32 : UInt32).toNat = 32 := rfl
      omega
    · rw [heq] at hlow
      exact absurd hlow (by decide)
  · have hsame : c.toLower = c := dif_neg hupper
    rw [hsame]

lemma keepsAt_plainEnv : plainEnv.KeepsAt := by
  intro s
  have hchars : (plainEnv.lower s).toList = s.toList.map Char.toLower := String.toList_map
  rw [hchars, List.mem_map]
  constructor
  · rintro ⟨c, hc, heq⟩
    exact toLower_eq_at.mp heq ▸ hc
  · exact fun h => ⟨'@', h, by decide⟩

/-- Two users register at the same time, and one takes a new name. -/
def twoUsers : List (ReadCommitted.Act Op) :=
  [.begin (.register "Ada@x" "ada" "a long password" ⟨1, 2⟩ 0),
    .begin (.register "bob@x" "bob" "a long password" ⟨3, 4⟩ 0),
    .run 0, .run 1, .run 0, .run 1, .run 0, .run 1, .run 1, .run 0,
    .begin (.updateAccount 3 " Ada_2 " 5), .run 2, .run 2, .run 2]

/-- Each name finds one of them. -/
theorem loginRows_twoUsers :
    (final (system plainEnv).step { db := {} } twoUsers).db.users.map Account.username =
        ["Ada_2", "ada"] ∧
      (loginRows plainEnv (final (system plainEnv).step { db := {} } twoUsers).db "ADA@X").length
        ≤ 1 :=
  ⟨by decide +kernel, loginRows_le_one keepsAt_plainEnv (by decide) (t := {}) rfl twoUsers "ADA@X"⟩

end Identifiers

end Vussa.Accounts
