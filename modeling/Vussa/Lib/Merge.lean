import Vussa.Lib.Unique
import Mathlib.Tactic
import Mathlib.Data.List.Sort

/-!
Lists of partial records, merged by their keys: a record is laid over the first item with its key,
and becomes a new item, in the order of a rank, where there is none.

* `merge`: the list after a record;
* `merge_cases`: what a merge does;
* `unique_merge`, `ranked_merge`: keys stay distinct, and the ranks stay in order;
* `mem_merge_of_ne`, `mem_merge_self`: the items after a merge;
* `merge_eq_self`, `merge_merge`: a record that is there already changes nothing.
-/

namespace Merge

open Table

variable {α κ τ : Type*} [DecidableEq κ] [LinearOrder τ] {key : α → κ} {rank : α → τ}
  {onto : α → α → α} {l : List α} {x : α}

/-- The list after the record `x`, where `onto x item` is what `x` makes of an item with its key. -/
def merge (key : α → κ) (rank : α → τ) (onto : α → α → α) (l : List α) (x : α) : List α :=
  match l.findIdx? fun item => key item = key x with
  | none => (l ++ [x]).insertionSort fun a b => rank a ≤ rank b
  | some index => l.mapIdx fun offset item => if offset = index then onto x item else item

/-- The ranks of the items are in order. -/
def Ranked (rank : α → τ) (l : List α) : Prop := l.Pairwise fun a b => rank a ≤ rank b

lemma ranked_insertionSort (l : List α) :
    Ranked rank (l.insertionSort fun a b => rank a ≤ rank b) := by
  have : Std.Total fun a b : α => rank a ≤ rank b := ⟨fun a b => le_total (rank a) (rank b)⟩
  have : IsTrans α fun a b : α => rank a ≤ rank b := ⟨fun a b c => le_trans⟩
  exact List.pairwise_insertionSort _ l

/-! ### What a merge does -/

omit [LinearOrder τ] in
lemma mapIdx_at (f : α → α) (a b : List α) (y : α) :
    ((a ++ y :: b).mapIdx fun offset item => if offset = a.length then f item else item)
      = a ++ f y :: b := by
  induction a with
  | nil =>
      have hrest : b.mapIdx (fun _ item => item) = b := List.ext_getElem (by simp) (by simp)
      simp [List.mapIdx_cons, hrest]
  | cons z a ih => simpa [List.mapIdx_cons] using ih

theorem merge_of_new (h : ∀ item ∈ l, key item ≠ key x) :
    merge key rank onto l x = (l ++ [x]).insertionSort fun a b => rank a ≤ rank b := by
  have hnone : (l.findIdx? fun item => key item = key x) = none :=
    List.findIdx?_eq_none_iff.mpr fun item hitem => decide_eq_false (h item hitem)
  rw [merge, hnone]

theorem merge_append_cons {a b : List α} {y : α} (ha : ∀ item ∈ a, key item ≠ key x)
    (hy : key y = key x) : merge key rank onto (a ++ y :: b) x = a ++ onto x y :: b := by
  have hsome : ((a ++ y :: b).findIdx? fun item => key item = key x) = some a.length := by
    have hnone : (a.findIdx? fun item => key item = key x) = none :=
      List.findIdx?_eq_none_iff.mpr fun item hitem => decide_eq_false (ha item hitem)
    rw [List.findIdx?_append, hnone, List.findIdx?_cons, if_pos (decide_eq_true hy)]
    simp
  rw [merge, hsome]
  exact mapIdx_at (onto x) a b y

/-- The first item with the key, if there is one. -/
lemma first_cases (l : List α) (k : κ) : (∀ item ∈ l, key item ≠ k) ∨
    ∃ a y b, l = a ++ y :: b ∧ (∀ item ∈ a, key item ≠ k) ∧ key y = k := by
  induction l with
  | nil => exact .inl (by simp)
  | cons z l ih =>
      by_cases hz : key z = k
      · exact .inr ⟨[], z, l, rfl, by simp, hz⟩
      · rcases ih with hnone | ⟨a, y, b, rfl, ha, hy⟩
        · exact .inl (List.forall_mem_cons.mpr ⟨hz, hnone⟩)
        · exact .inr ⟨z :: a, y, b, rfl, List.forall_mem_cons.mpr ⟨hz, ha⟩, hy⟩

/-- **A merge**: a new item, or the record over the first item with its key. -/
theorem merge_cases (key : α → κ) (rank : α → τ) (onto : α → α → α) (l : List α) (x : α) :
    ((∀ item ∈ l, key item ≠ key x) ∧
      merge key rank onto l x = (l ++ [x]).insertionSort fun a b => rank a ≤ rank b) ∨
    ∃ a y b, l = a ++ y :: b ∧ (∀ item ∈ a, key item ≠ key x) ∧ key y = key x ∧
      merge key rank onto l x = a ++ onto x y :: b := by
  rcases first_cases l (key x) with hnew | ⟨a, y, b, rfl, ha, hy⟩
  · exact .inl ⟨hnew, merge_of_new hnew⟩
  · exact .inr ⟨a, y, b, rfl, ha, hy, merge_append_cons ha hy⟩

/-! ### Keys and ranks -/

theorem unique_merge (honto : ∀ x y, key (onto x y) = key x) (h : Unique key l) (x : α) :
    Unique key (merge key rank onto l x) := by
  rcases merge_cases key rank onto l x with ⟨hnew, heq⟩ | ⟨a, y, b, rfl, -, hy, heq⟩
  · rw [heq, Table.Unique, ((List.perm_insertionSort _ _).map key).nodup_iff]
    exact h.append hnew
  · rw [heq, Table.Unique, List.map_append, List.map_cons, honto, ← hy, ← List.map_cons,
      ← List.map_append]
    exact h

theorem ranked_merge (honto : ∀ x y, rank (onto x y) = rank x) (h : Ranked rank l)
    (hx : ∀ item ∈ l, key item = key x → rank item = rank x) :
    Ranked rank (merge key rank onto l x) := by
  rcases merge_cases key rank onto l x with ⟨-, heq⟩ | ⟨a, y, b, rfl, -, hy, heq⟩
  · rw [heq]
    exact ranked_insertionSort _
  · have hrank : rank (onto x y) = rank y := (honto x y).trans (hx y (by simp) hy).symm
    have hmap : (a ++ onto x y :: b).map rank = (a ++ y :: b).map rank := by
      rw [List.map_append, List.map_append, List.map_cons, List.map_cons, hrank]
    rw [heq, Ranked, ← List.pairwise_map (R := (· ≤ ·)) , hmap]
    exact List.pairwise_map.mpr h

/-! ### Items -/

/-- The items of other keys. -/
theorem mem_merge_of_ne (honto : ∀ x y, key (onto x y) = key x) {z : α} (hz : key z ≠ key x) :
    z ∈ merge key rank onto l x ↔ z ∈ l := by
  rcases merge_cases key rank onto l x with ⟨-, heq⟩ | ⟨a, y, b, rfl, -, hy, heq⟩
  · have hne : z ≠ x := fun h => hz (by rw [h])
    rw [heq, List.mem_insertionSort, List.mem_append, List.mem_singleton, or_iff_left hne]
  · have hne : z ≠ onto x y := fun h => hz (by rw [h, honto])
    have hne' : z ≠ y := fun h => hz (by rw [h, hy])
    simp [heq, hne, hne']

/-- The item with the key of a new record. -/
theorem eq_of_mem_merge_of_new (hnew : ∀ item ∈ l, key item ≠ key x) {z : α} (hz : key z = key x)
    (hmem : z ∈ merge key rank onto l x) : z = x := by
  rw [merge_of_new hnew, List.mem_insertionSort, List.mem_append, List.mem_singleton] at hmem
  exact hmem.resolve_left fun hold => hnew z hold hz

/-- The item with the key of the record, in a list with distinct keys. -/
theorem mem_merge_self (h : Unique key l) {z : α} (hz : key z = key x)
    (hmem : z ∈ merge key rank onto l x) :
    ((∀ item ∈ l, key item ≠ key x) ∧ z = x) ∨ ∃ y ∈ l, key y = key x ∧ z = onto x y := by
  rcases merge_cases key rank onto l x with ⟨hnew, -⟩ | ⟨a, y, b, rfl, ha, hy, heq⟩
  · exact .inl ⟨hnew, eq_of_mem_merge_of_new hnew hz hmem⟩
  · rw [heq, List.mem_append, List.mem_cons] at hmem
    have hy' : y ∈ a ++ y :: b := by simp
    rcases hmem with hmem | rfl | hmem
    · exact absurd hz (ha z hmem)
    · exact .inr ⟨y, hy', hy, rfl⟩
    · -- a second item with the key
      rw [Table.Unique, List.map_append, List.nodup_append, List.map_cons, List.nodup_cons] at h
      exact absurd (List.mem_map.mpr ⟨z, hmem, hz.trans hy.symm⟩) h.2.1.1

theorem exists_mem_merge (honto : ∀ x y, key (onto x y) = key x) (l : List α) (x : α) :
    ∃ z ∈ merge key rank onto l x, key z = key x := by
  rcases merge_cases key rank onto l x with ⟨-, heq⟩ | ⟨a, y, b, rfl, -, -, heq⟩
  · exact ⟨x, by rw [heq, List.mem_insertionSort]; simp, rfl⟩
  · exact ⟨onto x y, by simp [heq], honto x y⟩

/-! ### Repetitions -/

/-- A record that is part of all items with its key, of which there are some. -/
theorem merge_eq_self (h : ∃ item ∈ l, key item = key x)
    (hitem : ∀ item ∈ l, key item = key x → onto x item = item) :
    merge key rank onto l x = l := by
  rcases merge_cases key rank onto l x with ⟨hnew, -⟩ | ⟨a, y, b, rfl, -, hy, heq⟩
  · obtain ⟨item, hmem, hkey⟩ := h
    exact absurd hkey (hnew item hmem)
  · rw [heq, hitem y (by simp) hy]

/-- **A repeated record** changes nothing. -/
theorem merge_merge (hkey : ∀ x y, key (onto x y) = key x) (hself : onto x x = x)
    (htwice : ∀ y, onto x (onto x y) = onto x y) :
    merge key rank onto (merge key rank onto l x) x = merge key rank onto l x := by
  rcases merge_cases key rank onto l x with ⟨hnew, -⟩ | ⟨a, y, b, rfl, ha, hy, heq⟩
  · refine merge_eq_self (exists_mem_merge hkey l x) fun item hmem hitem => ?_
    rw [eq_of_mem_merge_of_new hnew hitem hmem, hself]
  · rw [heq, merge_append_cons ha (hkey x y), htwice]

end Merge
