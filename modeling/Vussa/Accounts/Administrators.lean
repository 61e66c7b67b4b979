import Vussa.Lib.Run
import Vussa.Accounts.Model

/-!
The last administrator, at the granularity of SQL statements under read committed.

An operation is a transaction: its statements run one at a time, see what others have committed,
and lock the rows they write until the commit makes the writes visible. Only `admin_remove_role`
counts the administrators, and its count and its `DELETE` are separate statements.

* `AdminOp`: the operations that touch roles or the two columns of an account;
* `Txn`, `State`, `State.step`: the transactions under way and their statements;
* `ActiveAdmin`, `HasAdmin`: an enabled, undeleted user with the role;
* `LeavesAdmin`: a commit that takes an administrator away leaves another one;
* `hasAdmin_along_iff`: **some administrator is left in every state of a run iff every such commit
  leaves another one**;
* `leavesAdmin_of_count`: a removal whose count still holds at its commit does.
-/

namespace Vussa.Accounts

open Run

/-! ### Operations -/

/-- The operations, with the user of the session. -/
inductive AdminOp where
  | removeRole (actor : AuthUser) (user : Uuid) (role : String)
  | disableUser (actor : AuthUser) (user : Uuid)
  | enableUser (actor : AuthUser) (user : Uuid)
  | deleteUser (actor : AuthUser) (user : Uuid)
  | deleteAccount (actor : AuthUser)
  | assignRole (actor : AuthUser) (user : Uuid) (role : String)
  deriving DecidableEq, Repr

namespace AdminOp

/-- The user an operation is about. -/
def target : AdminOp → Uuid
  | removeRole _ user _ | disableUser _ user | enableUser _ user | deleteUser _ user
  | assignRole _ user _ => user
  | deleteAccount actor => actor.id

/-- The checks before the transaction. -/
def permitted : AdminOp → Except AppError Unit
  | removeRole actor _ _ | assignRole actor _ _ => requirePermission actor .rolesWrite
  | disableUser actor _ | enableUser actor _ => requirePermission actor .usersWrite
  | deleteUser actor user => do
      requirePermission actor .usersWrite
      if user = actor.id then .error (.badRequest "you cannot delete your own account")
      else .ok ⟨⟩
  | deleteAccount _ => .ok ⟨⟩

/-- The operation begins with the count of the administrators. -/
def Counts : AdminOp → Prop
  | removeRole _ _ role => role = "admin"
  | _ => False

instance : ∀ op, Decidable (Counts op)
  | removeRole _ _ _ => inferInstanceAs (Decidable (_ = _))
  | disableUser _ _ | enableUser _ _ | deleteUser _ _ | deleteAccount _ | assignRole _ _ _ =>
      isFalse id

/-- The row the writing statement locks. -/
inductive Row where
  | user (id : Uuid)
  | role (user : Uuid) (role : String)
  deriving DecidableEq, Repr

/-- The row of the writing statement. -/
def row : AdminOp → Row
  | removeRole _ user role | assignRole _ user role => .role user role
  | disableUser _ user | enableUser _ user | deleteUser _ user => .user user
  | deleteAccount actor => .user actor.id

/-- `rows_affected` of the writing statement is not zero, where the code asks for it. -/
def affects (t : Tables) : AdminOp → Prop
  | removeRole _ user role => (user, role) ∈ t.userRoles
  | disableUser _ user | enableUser _ user => ∃ u ∈ t.users, u.id = user
  | deleteUser _ user => ∃ u ∈ t.users, u.id = user ∧ u.deletedAt = none
  | deleteAccount _ => True
  -- a user that does not exist violates the reference
  | assignRole _ user role => role ∈ t.roles ∧ (user, role) ∉ t.userRoles ∧
      ∃ u ∈ t.users, u.id = user

instance (t : Tables) : ∀ op, Decidable (affects t op)
  | removeRole _ _ _ => inferInstanceAs (Decidable (_ ∈ _))
  | disableUser _ _ | enableUser _ _ => inferInstanceAs (Decidable (∃ u ∈ t.users, _))
  | deleteUser _ _ => inferInstanceAs (Decidable (∃ u ∈ t.users, _))
  | deleteAccount _ => isTrue trivial
  | assignRole _ _ _ => inferInstanceAs (Decidable (_ ∧ _))

/-- What the writing statement writes. -/
def write (now : Millis) (t : Tables) : AdminOp → Tables
  | removeRole _ user role => t.revoke user role
  | disableUser _ user => t.updateUser user (Account.disable now)
  | enableUser _ user => t.updateUser user (Account.enable now)
  | deleteUser _ user => t.updateUser user (Account.delete now)
  | deleteAccount actor => t.updateUser actor.id (Account.selfDelete now)
  | assignRole _ user role => t.grant user role

/-- A change of roles is followed by `UPDATE users SET role_version=role_version+1`. -/
def Bumps : AdminOp → Prop
  | removeRole _ _ _ | assignRole _ _ _ => True
  | _ => False

instance : ∀ op, Decidable (Bumps op)
  | removeRole _ _ _ | assignRole _ _ _ => isTrue trivial
  | disableUser _ _ | enableUser _ _ | deleteUser _ _ | deleteAccount _ => isFalse id

/-- The operation takes an administrator away. -/
def TakesAway : AdminOp → Prop
  | removeRole _ _ role => role = "admin"
  | disableUser _ _ | deleteUser _ _ | deleteAccount _ => True
  | enableUser _ _ | assignRole _ _ _ => False

instance : ∀ op, Decidable (TakesAway op)
  | removeRole _ _ _ => inferInstanceAs (Decidable (_ = _))
  | disableUser _ _ | deleteUser _ _ | deleteAccount _ => isTrue trivial
  | enableUser _ _ | assignRole _ _ _ => isFalse id

end AdminOp

/-! ### Transactions -/

/-- Where a transaction is. -/
inductive Stage where
  /-- begun -/
  | begun
  /-- the count was above one -/
  | counted
  /-- the writing statement ran -/
  | written
  /-- the version of the user was raised too -/
  | bumped
  deriving DecidableEq, Repr

/-- A transaction under way; `now` is the instant the request read. -/
structure Txn where
  op : AdminOp
  now : Millis
  stage : Stage := .begun
  deriving DecidableEq, Repr

/-- The rows a transaction has locked. -/
def Txn.locks (x : Txn) : List AdminOp.Row :=
  match x.stage with
  | .begun | .counted => []
  | .written => [x.op.row]
  | .bumped => [x.op.row, .user x.op.target]

/-- What a transaction has written and not yet committed. -/
def Txn.apply (x : Txn) (t : Tables) : Tables :=
  match x.stage with
  | .begun | .counted => t
  | .written => x.op.write x.now t
  | .bumped => (x.op.write x.now t).updateUser x.op.target (Account.bump x.now)

/-- The committed tables and the transactions under way, by number. -/
structure State where
  tables : Tables
  txns : ℕ → Option Txn := fun _ => none
  next : ℕ := 0

/-- A statement, or the begin or end of a transaction. -/
inductive Stmt where
  | begin (op : AdminOp) (now : Millis)
  | count (k : ℕ)
  | write (k : ℕ)
  | bump (k : ℕ)
  | commit (k : ℕ)
  | abort (k : ℕ)
  deriving DecidableEq, Repr

/-- The count of `admin_remove_role`: the joined rows of roles and active users. -/
def countAdmins (t : Tables) : ℕ :=
  (t.userRoles.filter fun ur => ur.2 = "admin" ∧
    ∃ u ∈ t.users, u.id = ur.1 ∧ u.deletedAt = none ∧ u.disabledAt = none).length

namespace State

/-- Replace or end a transaction. -/
def setTxn (s : State) (k : ℕ) (x : Option Txn) : State :=
  { s with txns := Function.update s.txns k x }

/-- Another transaction has a row locked. -/
def Locked (s : State) (k : ℕ) (row : AdminOp.Row) : Prop :=
  ∃ j < s.next, j ≠ k ∧ ∃ x ∈ s.txns j, row ∈ x.locks

instance (s : State) (k : ℕ) (row : AdminOp.Row) : Decidable (s.Locked k row) :=
  inferInstanceAs (Decidable (∃ j < s.next, _))

/-- One statement. A statement whose row is locked waits. -/
def step (s : State) : Stmt → State
  | .begin op now =>
      match op.permitted with
      | .ok _ => { s.setTxn s.next (some { op := op, now := now }) with next := s.next + 1 }
      | .error _ => s
  | .count k =>
      match s.txns k with
      | some x =>
          if x.stage = .begun ∧ x.op.Counts then
            -- "the final administrator cannot be removed"
            if countAdmins s.tables ≤ 1 then s.setTxn k none
            else s.setTxn k (some { x with stage := .counted })
          else s
      | none => s
  | .write k =>
      match s.txns k with
      | some x =>
          if x.stage = (if x.op.Counts then .counted else .begun) ∧ ¬ s.Locked k x.op.row then
            if x.op.affects s.tables then s.setTxn k (some { x with stage := .written })
            else s.setTxn k none
          else s
      | none => s
  | .bump k =>
      match s.txns k with
      | some x =>
          if x.stage = .written ∧ x.op.Bumps ∧ ¬ s.Locked k (.user x.op.target) then
            s.setTxn k (some { x with stage := .bumped })
          else s
      | none => s
  | .commit k =>
      match s.txns k with
      | some x =>
          if x.stage = (if x.op.Bumps then .bumped else .written) then
            { s.setTxn k none with tables := x.apply s.tables }
          else s
      | none => s
  | .abort k => s.setTxn k none

end State

/-! ### Administrators -/

/-- An enabled, undeleted user that holds the role. -/
def ActiveAdmin (t : Tables) (v : Uuid) : Prop :=
  (v, "admin") ∈ t.userRoles ∧ ∃ u ∈ t.users, u.id = v ∧ u.deletedAt = none ∧ u.disabledAt = none

/-- There is one. -/
def HasAdmin (t : Tables) : Prop := ∃ v, ActiveAdmin t v

/-- A commit that takes an administrator away leaves another one. -/
def LeavesAdmin (s : State) : Stmt → Prop
  | .commit k => ∀ x, s.txns k = some x → x.stage = (if x.op.Bumps then .bumped else .written) →
      x.op.TakesAway → ∃ v, v ≠ x.op.target ∧ ActiveAdmin s.tables v
  | _ => True

/-! ### What the writes do -/

/-- An account that is neither disabled nor deleted. -/
def Account.Active (u : Account) : Prop := u.deletedAt = none ∧ u.disabledAt = none

/-- An update of a row, seen from an administrator. -/
lemma activeAdmin_updateUser {t : Tables} {id v : Uuid} {f : Account → Account}
    (hid : ∀ u, (f u).id = u.id) :
    ActiveAdmin (t.updateUser id f) v ↔ (v, "admin") ∈ t.userRoles ∧
      ∃ u ∈ t.users, u.id = v ∧ (if u.id = id then f u else u).Active := by
  refine and_congr_right fun _ => ⟨?_, ?_⟩
  · rintro ⟨u', hu', hv, hactive⟩
    obtain ⟨u, hu, rfl⟩ := List.mem_map.mp hu'
    refine ⟨u, hu, ?_, hactive⟩
    split at hv
    · rw [← hid u]
      exact hv
    · exact hv
  · rintro ⟨u, hu, hv, hactive⟩
    refine ⟨_, List.mem_map_of_mem hu, ?_, hactive⟩
    split
    · rw [hid]
      exact hv
    · exact hv

/-- Another administrator does not notice an update. -/
lemma activeAdmin_updateUser_of_ne {t : Tables} {id v : Uuid} (hne : v ≠ id)
    {f : Account → Account} (hid : ∀ u, (f u).id = u.id) :
    ActiveAdmin (t.updateUser id f) v ↔ ActiveAdmin t v := by
  rw [activeAdmin_updateUser hid]
  refine and_congr_right fun _ => exists_congr fun u => and_congr_right fun _ => ?_
  refine and_congr_right fun hv => ?_
  rw [if_neg fun h => hne (hv.symm.trans h)]
  exact Iff.rfl

/-- A user that no row keeps active is no administrator. -/
lemma not_activeAdmin_updateUser {t : Tables} {id : Uuid} {f : Account → Account}
    (hid : ∀ u, (f u).id = u.id) (hf : ∀ u, ¬ (f u).Active) :
    ¬ ActiveAdmin (t.updateUser id f) id := by
  rw [activeAdmin_updateUser hid]
  rintro ⟨-, u, -, hv, hactive⟩
  rw [if_pos hv] at hactive
  exact hf u hactive

/-- An administrator stays one under an update that keeps rows active. -/
lemma activeAdmin_updateUser_of_active {t : Tables} {id v : Uuid} {f : Account → Account}
    (hid : ∀ u, (f u).id = u.id) (hf : ∀ u : Account, u.Active → (f u).Active)
    (h : ActiveAdmin t v) : ActiveAdmin (t.updateUser id f) v := by
  rw [activeAdmin_updateUser hid]
  obtain ⟨hrole, u, hu, hv, hactive⟩ := h
  refine ⟨hrole, u, hu, hv, ?_⟩
  split
  · exact hf u hactive
  · exact hactive

lemma Account.delete_id (now : Millis) (u : Account) : (u.delete now).id = u.id := by
  rw [delete]
  split <;> rfl

lemma Account.selfDelete_id (now : Millis) (u : Account) : (u.selfDelete now).id = u.id := by
  rw [selfDelete]
  split <;> rfl

lemma Account.not_active_delete (now : Millis) (u : Account) : ¬ (u.delete now).Active := by
  rw [delete]
  split
  · exact fun h => absurd h.1 (by simp)
  · rename_i hdeleted
    exact fun h => hdeleted h.1

lemma Account.not_active_selfDelete (now : Millis) (u : Account) :
    ¬ (u.selfDelete now).Active := by
  rw [selfDelete]
  split
  · exact fun h => absurd h.1 (by simp)
  · rename_i hdeleted
    exact fun h => hdeleted h.1

/-- The raised version concerns no administrator. -/
lemma activeAdmin_bump {t : Tables} {id v : Uuid} (now : Millis) :
    ActiveAdmin (t.updateUser id (Account.bump now)) v ↔ ActiveAdmin t v := by
  have hid : ∀ u, (Account.bump now u).id = u.id := fun _ => rfl
  rw [activeAdmin_updateUser hid]
  refine and_congr_right fun _ => exists_congr fun u => and_congr_right fun _ => ?_
  refine and_congr_right fun _ => ?_
  split <;> exact Iff.rfl

lemma activeAdmin_revoke {t : Tables} {user v : Uuid} {role : String} :
    ActiveAdmin (t.revoke user role) v ↔ ActiveAdmin t v ∧ ¬ (v = user ∧ role = "admin") := by
  rw [ActiveAdmin, Tables.revoke, List.mem_filter, ActiveAdmin]
  simp only [ne_eq, Prod.mk.injEq, decide_eq_true_eq, eq_comm (a := "admin")]
  tauto

lemma activeAdmin_grant {t : Tables} {user v : Uuid} {role : String} (h : ActiveAdmin t v) :
    ActiveAdmin (t.grant user role) v := by
  rw [Tables.grant]
  split
  · exact ⟨List.mem_append_left _ h.1, h.2⟩
  · exact h

lemma activeAdmin_grant_of_ne {t : Tables} {user v : Uuid} {role : String} (hne : v ≠ user) :
    ActiveAdmin (t.grant user role) v ↔ ActiveAdmin t v := by
  refine ⟨?_, activeAdmin_grant⟩
  rw [Tables.grant]
  split
  · rintro ⟨hrole, hrow⟩
    rcases List.mem_append.mp hrole with hrole | hrole
    · exact ⟨hrole, hrow⟩
    · rw [List.mem_singleton, Prod.mk.injEq] at hrole
      exact absurd hrole.1 hne
  · exact id

/-- A write concerns its target alone. -/
lemma activeAdmin_write_of_ne (now : Millis) (t : Tables) {op : AdminOp} {v : Uuid}
    (hne : v ≠ op.target) : ActiveAdmin (op.write now t) v ↔ ActiveAdmin t v := by
  cases op with
  | removeRole actor user role =>
      rw [AdminOp.write, activeAdmin_revoke]
      exact and_iff_left fun h => hne h.1
  | disableUser actor user => exact activeAdmin_updateUser_of_ne hne fun _ => rfl
  | enableUser actor user => exact activeAdmin_updateUser_of_ne hne fun _ => rfl
  | deleteUser actor user => exact activeAdmin_updateUser_of_ne hne (Account.delete_id now)
  | deleteAccount actor => exact activeAdmin_updateUser_of_ne hne (Account.selfDelete_id now)
  | assignRole actor user role => exact activeAdmin_grant_of_ne hne

/-- A write that takes away leaves its target no administrator. -/
lemma not_activeAdmin_write (now : Millis) (t : Tables) {op : AdminOp} (h : op.TakesAway) :
    ¬ ActiveAdmin (op.write now t) op.target := by
  cases op with
  | removeRole actor user role =>
      rw [AdminOp.write, activeAdmin_revoke]
      exact fun hadmin => hadmin.2 ⟨rfl, h⟩
  | disableUser actor user =>
      exact not_activeAdmin_updateUser (fun _ => rfl) fun u hu => absurd hu.2 (by
        simp [Account.disable])
  | enableUser actor user => exact absurd h id
  | deleteUser actor user =>
      exact not_activeAdmin_updateUser (Account.delete_id now) (Account.not_active_delete now)
  | deleteAccount actor =>
      exact not_activeAdmin_updateUser (Account.selfDelete_id now)
        (Account.not_active_selfDelete now)
  | assignRole actor user role => exact absurd h id

/-- Any other write leaves every administrator. -/
lemma activeAdmin_write (now : Millis) (t : Tables) {op : AdminOp} (h : ¬ op.TakesAway) {v : Uuid}
    (hv : ActiveAdmin t v) : ActiveAdmin (op.write now t) v := by
  cases op with
  | removeRole actor user role =>
      rw [AdminOp.write, activeAdmin_revoke]
      exact ⟨hv, fun hadmin => h hadmin.2⟩
  | disableUser actor user => exact absurd trivial h
  | enableUser actor user =>
      exact activeAdmin_updateUser_of_active (fun _ => rfl) (fun u hu => ⟨hu.1, rfl⟩) hv
  | deleteUser actor user => exact absurd trivial h
  | deleteAccount actor => exact absurd trivial h
  | assignRole actor user role => exact activeAdmin_grant hv

/-- What a transaction at its end has written, seen from an administrator. -/
lemma activeAdmin_apply {x : Txn} (hstage : x.stage = (if x.op.Bumps then .bumped else .written))
    (t : Tables) (v : Uuid) : ActiveAdmin (x.apply t) v ↔ ActiveAdmin (x.op.write x.now t) v := by
  rw [Txn.apply, hstage]
  by_cases hbumps : x.op.Bumps
  · rw [if_pos hbumps]
    exact activeAdmin_bump x.now
  · rw [if_neg hbumps]

/-! ### Runs -/

/-- Only a commit changes the committed tables. -/
lemma tables_step {s : State} {a : Stmt} (ha : ∀ k, a ≠ .commit k) :
    (s.step a).tables = s.tables := by
  cases a with
  | commit k => exact absurd rfl (ha k)
  | begin op now =>
      rw [State.step]
      split <;> rfl
  | abort k => rfl
  | count k =>
      rw [State.step]
      repeat' split
      all_goals rfl
  | write k =>
      rw [State.step]
      repeat' split
      all_goals rfl
  | bump k =>
      rw [State.step]
      repeat' split
      all_goals rfl

/-- A commit leaves an administrator iff it takes none away or leaves another. -/
lemma hasAdmin_commit_iff {s : State} (h : HasAdmin s.tables) (k : ℕ) :
    HasAdmin (s.step (.commit k)).tables ↔ LeavesAdmin s (.commit k) := by
  rw [State.step]
  cases hx : s.txns k with
  | none =>
      refine iff_of_true h fun x hx' => ?_
      rw [hx] at hx'
      exact absurd hx' (by simp)
  | some x =>
      have hleaves : LeavesAdmin s (.commit k) ↔
          (x.stage = (if x.op.Bumps then .bumped else .written) → x.op.TakesAway →
            ∃ v, v ≠ x.op.target ∧ ActiveAdmin s.tables v) := by
        refine ⟨fun hall => hall x hx, fun hone x' hx' => ?_⟩
        obtain rfl : x = x' := Option.some.inj (hx.symm.trans hx')
        exact hone
      rw [hleaves]
      by_cases hstage : x.stage = (if x.op.Bumps then .bumped else .written)
      · simp only [if_pos hstage]
        rw [forall_prop_of_true hstage]
        have happly : HasAdmin (x.apply s.tables) ↔
            ∃ v, ActiveAdmin (x.op.write x.now s.tables) v :=
          exists_congr fun v => activeAdmin_apply hstage s.tables v
        show HasAdmin (x.apply s.tables) ↔ _
        rw [happly]
        by_cases htakes : x.op.TakesAway
        · rw [forall_prop_of_true htakes]
          refine exists_congr fun v => ⟨fun hv => ?_, fun hv => ?_⟩
          · have hne : v ≠ x.op.target := by
              rintro rfl
              exact not_activeAdmin_write x.now s.tables htakes hv
            exact ⟨hne, (activeAdmin_write_of_ne x.now s.tables hne).mp hv⟩
          · exact (activeAdmin_write_of_ne x.now s.tables hv.1).mpr hv.2
        · obtain ⟨v, hv⟩ := h
          exact iff_of_true ⟨v, activeAdmin_write x.now s.tables htakes hv⟩
            fun hcon => absurd hcon htakes
      · simp only [if_neg hstage]
        exact iff_of_true h fun hcon => absurd hcon hstage

/-- **One statement** leaves an administrator iff a commit that takes one away leaves another. -/
lemma hasAdmin_step_iff {s : State} (h : HasAdmin s.tables) (a : Stmt) :
    HasAdmin (s.step a).tables ↔ LeavesAdmin s a := by
  cases a with
  | commit k => exact hasAdmin_commit_iff h k
  | _ =>
      refine iff_of_true ?_ trivial
      rw [tables_step (by simp)]
      exact h

/-- **The last administrator**: from tables with an administrator, every state of a run, in any
interleaving of the statements of any number of operations, has one iff every commit that takes an
administrator away leaves another. -/
theorem hasAdmin_along_iff (t : Tables) (h : HasAdmin t) (as : List Stmt) :
    Along State.step (fun s a => HasAdmin (s.step a).tables) { tables := t } as ↔
      Along State.step LeavesAdmin { tables := t } as := by
  refine along_congr_of (I := fun s => HasAdmin s.tables) (fun s a hs hleaves => ?_)
    (fun s a hs => hasAdmin_step_iff hs a) h as
  exact (hasAdmin_step_iff hs a).mpr hleaves

/-! ### The count -/

/-- Two counted rows are two administrators, so that one of them is not the target. The primary
key of `user_roles` makes the rows distinct. -/
lemma exists_other_of_count {t : Tables} (hkey : t.userRoles.Nodup) (hcount : 1 < countAdmins t)
    (user : Uuid) : ∃ v, v ≠ user ∧ ActiveAdmin t v := by
  by_contra hnone
  have hsub : ∀ ur ∈ t.userRoles.filter fun ur => ur.2 = "admin" ∧
      ∃ u ∈ t.users, u.id = ur.1 ∧ u.deletedAt = none ∧ u.disabledAt = none,
      ur ∈ [(user, "admin")] := by
    intro ur hur
    obtain ⟨hmem, hp⟩ := List.mem_filter.mp hur
    obtain ⟨hrole, hactive⟩ := of_decide_eq_true hp
    have hadmin : ActiveAdmin t ur.1 := ⟨hrole ▸ hmem, hactive⟩
    have huser : ur.1 = user := by
      by_contra hne
      exact hnone ⟨ur.1, hne, hadmin⟩
    rw [List.mem_singleton, ← huser, ← hrole]
  have hle := (List.subperm_of_subset (hkey.filter _) hsub).length_le
  rw [List.length_singleton] at hle
  exact absurd hcount (not_lt.mpr hle)

/-- **The count**: a removal whose count still holds at its commit leaves an administrator. Only
what other transactions commit after the count can make it wrong. -/
theorem leavesAdmin_of_count {s : State} (hkey : s.tables.userRoles.Nodup)
    (hcount : 1 < countAdmins s.tables) (k : ℕ) : LeavesAdmin s (.commit k) :=
  fun x _ _ _ => exists_other_of_count hkey hcount x.op.target

/-- Two administrators. -/
def twoAdmins : Tables where
  users :=
    [{ id := 1, email := "a@x", username := "a", passwordHash := "#", createdAt := 1,
       updatedAt := 1 },
     { id := 2, email := "b@x", username := "b", passwordHash := "#", createdAt := 1,
       updatedAt := 1 }]
  roles := ["admin", "user"]
  userRoles := [(1, "admin"), (2, "admin")]

/-- The session of an administrator. -/
def adminSession (id : Uuid) : AuthUser :=
  { id := id, email := "", username := "", roles := ["admin"],
    permissions := [.usersWrite, .rolesWrite] }

/-- One of two administrators leaves. -/
theorem hasAdmin_one_leaves :
    Along State.step (fun s a => HasAdmin (s.step a).tables) { tables := twoAdmins }
      [.begin (.deleteAccount (adminSession 1)) 5, .write 0, .commit 0] := by
  have hadmin : ActiveAdmin twoAdmins 2 := by
    unfold ActiveAdmin
    decide
  refine (hasAdmin_along_iff twoAdmins ⟨2, hadmin⟩ _).mpr ⟨trivial, trivial, ?_, trivial⟩
  intro x hx _ _
  obtain rfl := Option.some.inj hx
  exact ⟨2, by decide, hadmin⟩

/-- Each of two administrators removes the role of the other: both counts come before both
deletions. -/
def crossedRemovals : List Stmt :=
  [.begin (.removeRole (adminSession 1) 2 "admin") 5,
   .begin (.removeRole (adminSession 2) 1 "admin") 5,
   .count 0, .count 1, .write 0, .write 1, .bump 0, .bump 1, .commit 0, .commit 1]

/-- No administrator is left, whether two removals cross or the only one deletes the account. -/
theorem crossedRemovals_no_admin :
    HasAdmin twoAdmins ∧
      ¬ Along State.step (fun s a => HasAdmin (s.step a).tables) { tables := twoAdmins }
        crossedRemovals ∧
      ¬ HasAdmin (final State.step { tables := twoAdmins }
        [.begin (.deleteUser (adminSession 1) 2) 5, .write 0, .commit 0,
         .begin (.deleteAccount (adminSession 1)) 6, .write 1, .commit 1]).tables := by
  refine ⟨⟨2, by unfold ActiveAdmin; decide⟩, fun h => ?_, ?_⟩
  · have hlast : HasAdmin (final State.step { tables := twoAdmins } crossedRemovals).tables :=
      ((along_append _ _ (crossedRemovals.take 9) [.commit 1]).mp h).2.1
    obtain ⟨v, hrole, -⟩ := hlast
    have hnone : (final State.step { tables := twoAdmins } crossedRemovals).tables.userRoles = [] := by
      decide
    rw [hnone] at hrole
    exact absurd hrole List.not_mem_nil
  · rintro ⟨v, -, u, hu, -, hdeleted, -⟩
    revert hu
    have hall : ∀ u ∈ (final State.step { tables := twoAdmins }
        [.begin (.deleteUser (adminSession 1) 2) 5, .write 0, .commit 0,
         .begin (.deleteAccount (adminSession 1)) 6, .write 1, .commit 1]).tables.users,
        u.deletedAt ≠ none := by decide
    exact fun hu => hall u hu hdeleted

end Vussa.Accounts
