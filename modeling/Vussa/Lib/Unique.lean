import Mathlib.Data.List.Nodup

/-!
Unique indexes of a table, read as the list of its rows.

* `Unique`: no two rows have the same key;
* `Unique.append`, `Unique.map`, `Unique.filter`: inserts of new keys, updates of other columns
  and deletions keep an index;
* `Unique.length_filter_le_one`, `Unique.count_le_one`: at most one row has a given key;
* `insertNew`: `INSERT ... ON CONFLICT DO NOTHING`.
-/

namespace Table

variable {α κ : Type*} {key : α → κ} {rows : List α}

/-- The rows have distinct keys. -/
def Unique (key : α → κ) (rows : List α) : Prop := (rows.map key).Nodup

instance [DecidableEq κ] (key : α → κ) (rows : List α) : Decidable (Unique key rows) :=
  inferInstanceAs (Decidable (rows.map key).Nodup)

lemma unique_nil : Unique key [] := List.nodup_nil

/-- The row of a key. -/
lemma Unique.eq (h : Unique key rows) {a b : α} (ha : a ∈ rows) (hb : b ∈ rows)
    (hkey : key a = key b) : a = b :=
  List.inj_on_of_nodup_map h ha hb hkey

lemma Unique.append (h : Unique key rows) {row : α} (hnew : ∀ r ∈ rows, key r ≠ key row) :
    Unique key (rows ++ [row]) := by
  rw [Unique, List.map_append, List.map_singleton, ← List.concat_eq_append]
  refine List.Nodup.concat (fun hmem => ?_) h
  obtain ⟨r, hr, hkey⟩ := List.mem_map.mp hmem
  exact hnew r hr hkey

lemma Unique.map (h : Unique key rows) {f : α → α} (hf : ∀ r, key (f r) = key r) :
    Unique key (rows.map f) := by
  have hkeys : key ∘ f = key := funext hf
  rw [Unique, List.map_map, hkeys]
  exact h

lemma Unique.filter (h : Unique key rows) (p : α → Bool) : Unique key (rows.filter p) :=
  h.sublist (List.filter_sublist.map key)

/-- Conditions that force one key meet at most one row. -/
lemma Unique.length_filter_le_one (h : Unique key rows) {p : α → Bool}
    (hp : ∀ a ∈ rows, ∀ b ∈ rows, p a → p b → key a = key b) : (rows.filter p).length ≤ 1 := by
  have hfilter : Unique key (rows.filter p) := h.filter p
  cases hrows : rows.filter p with
  | nil => exact Nat.zero_le 1
  | cons a rest =>
      have hmem : ∀ x ∈ a :: rest, x ∈ rows ∧ p x := fun x hx =>
        List.mem_filter.mp (hrows ▸ hx)
      rw [hrows, Unique, List.map_cons, List.nodup_cons] at hfilter
      have hrest : rest = [] := List.eq_nil_iff_forall_not_mem.mpr fun b hb => by
        obtain ⟨ha, hpa⟩ := hmem a List.mem_cons_self
        obtain ⟨hb', hpb⟩ := hmem b (List.mem_cons_of_mem _ hb)
        exact hfilter.1 (List.mem_map.mpr ⟨b, hb, (hp a ha b hb' hpa hpb).symm⟩)
      rw [hrest]
      exact Nat.le_refl 1

/-- A key has at most one row. -/
lemma Unique.count_le_one [DecidableEq κ] (h : Unique key rows) (k : κ) :
    (rows.filter fun r => key r = k).length ≤ 1 :=
  h.length_filter_le_one fun _ _ _ _ ha hb =>
    (of_decide_eq_true ha).trans (of_decide_eq_true hb).symm

/-- `INSERT ... ON CONFLICT DO NOTHING` of one row. -/
def insertNew [DecidableEq κ] (key : α → κ) (rows : List α) (row : α) : List α :=
  if ∃ r ∈ rows, key r = key row then rows else rows ++ [row]

lemma Unique.insertNew [DecidableEq κ] (h : Unique key rows) (row : α) :
    Unique key (insertNew key rows row) := by
  rw [Table.insertNew]
  split_ifs with hkey
  · exact h
  · exact h.append fun r hr heq => hkey ⟨r, hr, heq⟩

lemma mem_insertNew [DecidableEq κ] {row r : α} (h : r ∈ insertNew key rows row) :
    r ∈ rows ∨ (r = row ∧ ∀ r' ∈ rows, key r' ≠ key row) := by
  rw [insertNew] at h
  split_ifs at h with hkey
  · exact Or.inl h
  · rcases List.mem_append.mp h with hold | hnew
    · exact Or.inl hold
    · exact Or.inr ⟨List.mem_singleton.mp hnew, fun r' hr' heq => hkey ⟨r', hr', heq⟩⟩

end Table
