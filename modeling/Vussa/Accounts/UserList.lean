import Vussa.Lib.Pages
import Vussa.Accounts.Model

/-!
The user list of the administration (`admin_users` in `api/admin.rs`), page by page in the order of
the identifiers. `LIKE` over the lower case of both sides is a parameter.

* `UserListQuery`, `AdminUserView`, `adminUsers`: the endpoint;
* `Listed`: the users it finds;
* `adminUsers_enumerates`: **a walk through its pages visits every found user once, in the order
  of the identifiers**.
-/

namespace Vussa.Accounts

open Pages Timeline

/-- `UserListQuery`. -/
structure UserListQuery where
  q : Option String := none
  after : Option Uuid := none
  limit : Option ℤ := none
  deriving DecidableEq, Repr

/-- `AdminUserView`. -/
structure AdminUserView where
  user : AuthUser
  disabledAt : Option Millis
  deletedAt : Option Millis
  createdAt : Millis
  updatedAt : Millis
  deriving DecidableEq, Repr

/-- The projection of `admin_users`. -/
def Tables.adminView (t : Tables) (u : Account) : AdminUserView :=
  { user := t.authUser u, disabledAt := u.disabledAt, deletedAt := u.deletedAt
    createdAt := u.createdAt, updatedAt := u.updatedAt }

/-- The columns `admin_users` searches; an empty text finds every user. -/
def Account.Found (like : String → String → Bool) (search : String) (u : Account) : Prop :=
  u.deletedAt = none ∧ (search = "" ∨ like u.username search ∨ like u.email search)

instance (like : String → String → Bool) (search : String) (u : Account) :
    Decidable (u.Found like search) :=
  inferInstanceAs (Decidable (_ ∧ _))

/-- The rows of `admin_users`. -/
def userRows (like : String → String → Bool) (t : Tables) (search : String)
    (after : Option Uuid) : List Account :=
  t.users.filter fun u => u.Found like search ∧ ∀ id ∈ after, id < u.id

/-- The limit of `admin_users`. -/
def userLimit (limit : Option ℤ) : ℕ := (max 1 (min (limit.getD 100) 200)).toNat

/-- `admin_users`. -/
def adminUsers (like : String → String → Bool) (t : Tables) (caller : AuthUser)
    (query : UserListQuery) : Except AppError (Pages.Page AdminUserView Uuid) := do
  requirePermission caller .usersRead
  let limit := userLimit query.limit
  let rows := ((userRows like t (query.q.getD "") query.after).insertionSort
    fun a b => a.id ≤ b.id).take (limit + 1)
  let users := (rows.map t.adminView).take limit
  return { items := users
           next := if limit < rows.length then users.getLast?.map fun view => view.user.id
             else none }

/-- The users a list shows. -/
def Listed (like : String → String → Bool) (t : Tables) (search : String) (view : AdminUserView) :
    Prop :=
  ∃ u ∈ t.users, u.Found like search ∧ view = t.adminView u

/-! ### The walk -/

variable {like : String → String → Bool} {t : Tables} {search : String}

/-- All users of a list, in its order. -/
def listedUsers (like : String → String → Bool) (t : Tables) (search : String) :
    List AdminUserView :=
  (chron Account.id (userRows like t search none)).map t.adminView

lemma mem_listedUsers {view : AdminUserView} :
    view ∈ listedUsers like t search ↔ Listed like t search view := by
  constructor
  · intro h
    obtain ⟨u, hu, rfl⟩ := List.mem_map.mp h
    obtain ⟨hmem, hfound⟩ := List.mem_filter.mp (mem_chron.mp hu)
    exact ⟨u, hmem, (of_decide_eq_true hfound).1, rfl⟩
  · rintro ⟨u, hmem, hfound, rfl⟩
    exact List.mem_map.mpr ⟨u, mem_chron.mpr (List.mem_filter.mpr
      ⟨hmem, decide_eq_true ⟨hfound, nofun⟩⟩), rfl⟩

section Key

variable (hkey : (t.users.map Account.id).Nodup)
include hkey

lemma userRows_keyed (after : Option Uuid) : Keyed Account.id (userRows like t search after) :=
  Keyed.filter hkey _

lemma listedUsers_chron : Chron (fun view => view.user.id) (listedUsers like t search) :=
  List.pairwise_map.mpr (chron_chron (userRows_keyed hkey none))

/-- The rows behind a cursor. -/
lemma chron_userRows (after : Option Uuid) :
    (chron Account.id (userRows like t search after)).map t.adminView =
      rest id (fun view => view.user.id) after (listedUsers like t search) := by
  rw [rest, listedUsers, List.filter_map]
  congr 1
  refine (chron_chron (userRows_keyed hkey after)).ext
    ((chron_chron (userRows_keyed hkey none)).sublist List.filter_sublist) fun u => ?_
  simp only [mem_chron, userRows, List.mem_filter, decide_eq_true_eq, Function.comp_apply]
  constructor
  · rintro ⟨hu, hfound, hafter⟩
    exact ⟨⟨hu, hfound, nofun⟩, hafter⟩
  · rintro ⟨⟨hu, hfound, -⟩, hafter⟩
    exact ⟨hu, hfound, hafter⟩

/-- A call answers a page of the users behind its cursor. -/
lemma adminUsers_eq {caller : AuthUser} (hperm : .usersRead ∈ caller.permissions)
    (query : UserListQuery) :
    adminUsers like t caller query = .ok (page (fun view => view.user.id) (userLimit query.limit)
      (rest id (fun view => view.user.id) query.after
        (listedUsers like t (query.q.getD "")))) := by
  rw [adminUsers, requirePermission_eq_ok.mpr hperm, ← chron_userRows hkey, page, ← List.map_take,
    List.length_map]
  rfl

/-- **The user list**: a walk visits every user it shows once, in the order of the identifiers. -/
lemma adminUsers_enumerates {caller : AuthUser} (hperm : .usersRead ∈ caller.permissions)
    (query : UserListQuery) :
    Enumerates (fun after => adminUsers like t caller { query with after := after })
      (userLimit query.limit) (fun view => view.user.id) (Listed like t (query.q.getD "")) := by
  have hlimit : 0 < userLimit query.limit := by
    rw [userLimit]
    omega
  have hwalk : Enumerates (fun after => adminUsers like t caller { query with after := after })
      (userLimit query.limit) (fun view : AdminUserView => id view.user.id)
      (· ∈ listedUsers like t (query.q.getD "")) :=
    enumerates_of_page id (fun view : AdminUserView => view.user.id) hlimit (listedUsers_chron hkey)
      fun after => adminUsers_eq hkey hperm { query with after := after }
  exact hwalk.congr fun _ => mem_listedUsers

end Key

end Vussa.Accounts
