import Mathlib.Logic.Relation
import Vussa.Lib.Unique

/-!
A table whose rows refer to rows of the same table, with `ON DELETE CASCADE`.

* `Above`, `Doomed`: the row that a row refers to, and a row with a deleted one on its chain of
  references, itself included;
* `cascade`: the deletion of some keys, round by round: the rows that refer to a deleted row are the
  keys of the next round;
* `mem_cascade_iff`: **the rows that stay are those that are not doomed**.
-/

namespace Table

open Relation

section

variable {α κ : Type*} (key : α → κ) (parent : α → Option κ)

/-- The row `r` refers to the row `r'` of the table. -/
def Above (rows : List α) (r r' : α) : Prop := r' ∈ rows ∧ parent r = some (key r')

/-- Some row on the chain of references from `r`, itself included, has one of the keys. -/
def Doomed (rows : List α) (keys : List κ) (r : α) : Prop :=
  ∃ r', ReflTransGen (Above key parent rows) r r' ∧ key r' ∈ keys

variable [DecidableEq κ]

/-- The rows that stay in the first round of a deletion. -/
def keep (keys : List κ) (rows : List α) : List α := rows.filter fun r => key r ∉ keys

/-- The keys of the next round: the rows left that refer to a deleted one. -/
def nextKeys (keys : List κ) (rows : List α) : List κ :=
  ((keep key keys rows).filter fun r => ∃ k ∈ parent r, k ∈ keys).map key

/-- At most `n` rounds of a deletion. -/
def cascadeRounds : ℕ → List κ → List α → List α
  | 0, _, rows => rows
  | n + 1, keys, rows =>
      if nextKeys key parent keys rows = [] then keep key keys rows
      else cascadeRounds n (nextKeys key parent keys rows) (keep key keys rows)

/-- The deletion of the rows with the given keys; no more rounds than rows. -/
def cascade (keys : List κ) (rows : List α) : List α :=
  cascadeRounds key parent rows.length keys rows

end

section

variable {α κ : Type*} [DecidableEq κ] {key : α → κ} {parent : α → Option κ} {rows : List α}
  {keys : List κ} {r r' : α} {n : ℕ}

lemma mem_keep : r ∈ keep key keys rows ↔ r ∈ rows ∧ key r ∉ keys := by
  rw [keep, List.mem_filter, decide_eq_true_iff]

lemma mem_nextKeys {k : κ} : k ∈ nextKeys key parent keys rows ↔
    ∃ r ∈ keep key keys rows, (∃ k' ∈ parent r, k' ∈ keys) ∧ key r = k := by
  simp only [nextKeys, List.mem_map, List.mem_filter, decide_eq_true_iff, and_assoc]

lemma keep_unique (hkey : Unique key rows) : Unique key (keep key keys rows) := hkey.filter _

/-- A chain of references among the rows that stay is one of the table. -/
lemma chain_of_keep (h : ReflTransGen (Above key parent (keep key keys rows)) r r') :
    ReflTransGen (Above key parent rows) r r' := by
  induction h with
  | refl => exact .refl
  | tail _ hstep ih => exact ih.tail ⟨(mem_keep.mp hstep.1).1, hstep.2⟩

/-- A row that stays in a round is doomed exactly when it is doomed by the next one. -/
lemma doomed_iff_next (hkey : Unique key rows) (hkeys : ∀ k ∈ keys, ∃ r ∈ rows, key r = k)
    (hr : r ∈ keep key keys rows) :
    Doomed key parent rows keys r ↔
      Doomed key parent (keep key keys rows) (nextKeys key parent keys rows) r := by
  constructor
  · rintro ⟨top, hchain, htop⟩
    induction hchain using ReflTransGen.head_induction_on with
    | refl => exact absurd htop (mem_keep.mp hr).2
    | @head x y hxy _ ih =>
        by_cases hy : key y ∈ keys
        · exact ⟨x, .refl, mem_nextKeys.mpr ⟨x, hr, ⟨key y, hxy.2, hy⟩, rfl⟩⟩
        · have hstay : y ∈ keep key keys rows := mem_keep.mpr ⟨hxy.1, hy⟩
          obtain ⟨z, hyz, hz⟩ := ih hstay
          exact ⟨z, .head ⟨hstay, hxy.2⟩ hyz, hz⟩
  · rintro ⟨z, hchain, hz⟩
    obtain ⟨w, hw, ⟨k, hk, hdeleted⟩, hwz⟩ := mem_nextKeys.mp hz
    have hzstay : z ∈ keep key keys rows := by
      rcases hchain.cases_tail with rfl | ⟨y, -, hyz⟩
      · exact hr
      · exact hyz.1
    obtain rfl : w = z := hkey.eq (mem_keep.mp hw).1 (mem_keep.mp hzstay).1 hwz
    obtain ⟨top, htop, rfl⟩ := hkeys k hdeleted
    exact ⟨top, (chain_of_keep hchain).tail ⟨htop, hk⟩, hdeleted⟩

/-- A round that leaves a key for the next one has deleted a row. -/
lemma length_keep_lt (hkeys : ∀ k ∈ keys, ∃ r ∈ rows, key r = k)
    (hnext : nextKeys key parent keys rows ≠ []) : (keep key keys rows).length < rows.length := by
  obtain ⟨k, hk⟩ := List.exists_mem_of_ne_nil _ hnext
  obtain ⟨-, -, ⟨k', -, hk'⟩, -⟩ := mem_nextKeys.mp hk
  obtain ⟨top, htop, rfl⟩ := hkeys k' hk'
  refine List.length_filter_lt_length_iff_exists.mpr ⟨top, htop, ?_⟩
  simpa using hk'

lemma mem_cascadeRounds_iff (hkey : Unique key rows) (hkeys : ∀ k ∈ keys, ∃ r ∈ rows, key r = k)
    (hn : rows.length ≤ n) :
    r ∈ cascadeRounds key parent n keys rows ↔ r ∈ rows ∧ ¬ Doomed key parent rows keys r := by
  induction n generalizing rows keys with
  | zero =>
      obtain rfl := List.length_eq_zero_iff.mp (Nat.le_zero.mp hn)
      simp [cascadeRounds]
  | succ n ih =>
      have hstay : ∀ {p : Prop}, (r ∈ keep key keys rows → (p ↔ ¬ Doomed key parent rows keys r)) →
          (r ∈ keep key keys rows ∧ p ↔ r ∈ rows ∧ ¬ Doomed key parent rows keys r) := by
        intro p hp
        constructor
        · rintro ⟨hr, hpr⟩
          exact ⟨(mem_keep.mp hr).1, (hp hr).mp hpr⟩
        · rintro ⟨hr, hfree⟩
          have hr' : r ∈ keep key keys rows := mem_keep.mpr ⟨hr, fun h => hfree ⟨r, .refl, h⟩⟩
          exact ⟨hr', (hp hr').mpr hfree⟩
      rw [cascadeRounds]
      split_ifs with hnext
      · rw [← hstay (p := True) fun hr => ?_, and_true]
        refine (iff_true_intro fun hdoomed => ?_).symm
        obtain ⟨z, -, hz⟩ := (doomed_iff_next hkey hkeys hr).mp hdoomed
        rw [hnext] at hz
        exact List.not_mem_nil hz
      · have hlength := length_keep_lt hkeys hnext
        have hnextKeys : ∀ k ∈ nextKeys key parent keys rows,
            ∃ r ∈ keep key keys rows, key r = k := by
          intro k hk
          obtain ⟨w, hw, -, hwk⟩ := mem_nextKeys.mp hk
          exact ⟨w, hw, hwk⟩
        rw [ih (keep_unique hkey) hnextKeys (by omega)]
        exact hstay fun hr => not_congr (doomed_iff_next hkey hkeys hr).symm

/-- **The rows that stay** after the deletion of some rows are those that are not doomed. -/
theorem mem_cascade_iff (hkey : Unique key rows) (hkeys : ∀ k ∈ keys, ∃ r ∈ rows, key r = k) :
    r ∈ cascade key parent keys rows ↔ r ∈ rows ∧ ¬ Doomed key parent rows keys r :=
  mem_cascadeRounds_iff hkey hkeys (Nat.le_refl _)

lemma exists_filter_cascadeRounds (n : ℕ) (keys : List κ) (rows : List α) :
    ∃ p : α → Bool, cascadeRounds key parent n keys rows = rows.filter p := by
  induction n generalizing keys rows with
  | zero => exact ⟨fun _ => true, (List.filter_eq_self.mpr fun _ _ => rfl).symm⟩
  | succ n ih =>
      rw [cascadeRounds]
      split_ifs
      · exact ⟨_, rfl⟩
      · obtain ⟨p, hp⟩ := ih (nextKeys key parent keys rows) (keep key keys rows)
        exact ⟨_, hp.trans List.filter_filter⟩

/-- The rows that stay keep their order. -/
lemma exists_filter_cascade (keys : List κ) (rows : List α) :
    ∃ p : α → Bool, cascade key parent keys rows = rows.filter p :=
  exists_filter_cascadeRounds rows.length keys rows

end

end Table
