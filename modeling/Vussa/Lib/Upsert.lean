import Vussa.Lib.Unique

/-!
Rows read and written by their key, over the tables of `Unique`.

* `row?`: the row of a key;
* `upsert`: `INSERT ... ON CONFLICT DO UPDATE` of a whole row;
* `row?_upsert`, `row?_filter`: **what a read finds after an upsert and after a deletion**.
-/

namespace Table

variable {α κ : Type*} [DecidableEq κ] {key : α → κ} {rows : List α}

/-- The row of a key. -/
def row? (key : α → κ) (rows : List α) (k : κ) : Option α := rows.find? fun r => key r = k

lemma row?_eq_some (h : Unique key rows) {k : κ} {r : α} :
    row? key rows k = some r ↔ r ∈ rows ∧ key r = k := by
  constructor
  · intro hfind
    have hkey := List.find?_some hfind
    exact ⟨List.mem_of_find?_eq_some hfind, of_decide_eq_true hkey⟩
  · rintro ⟨hmem, rfl⟩
    cases hfind : row? key rows (key r) with
    | none => exact absurd (decide_eq_true rfl) (List.find?_eq_none.mp hfind r hmem)
    | some r' =>
        have hkey := List.find?_some hfind
        rw [h.eq (List.mem_of_find?_eq_some hfind) hmem (of_decide_eq_true hkey)]

lemma row?_eq_none {k : κ} : row? key rows k = none ↔ ∀ r ∈ rows, key r ≠ k := by
  simp [row?]

/-- `INSERT ... ON CONFLICT DO UPDATE`: the row takes the place of the one with its key. -/
def upsert (key : α → κ) (rows : List α) (row : α) : List α :=
  if ∃ r ∈ rows, key r = key row then rows.map fun r => if key r = key row then row else r
  else rows ++ [row]

lemma key_replaced (row r : α) : key (if key r = key row then row else r) = key r := by
  split
  · next h => exact h.symm
  · rfl

lemma Unique.upsert (h : Unique key rows) (row : α) : Unique key (upsert key rows row) := by
  rw [Table.upsert]
  split_ifs with hkey
  · exact h.map (key_replaced row)
  · exact h.append fun r hr heq => hkey ⟨r, hr, heq⟩

/-- A read after an upsert. -/
theorem row?_upsert (row : α) (k : κ) :
    row? key (upsert key rows row) k = if k = key row then some row else row? key rows k := by
  rw [upsert]
  split_ifs with hkey hk hk
  · obtain ⟨r, hr, heq⟩ := hkey
    simp only [row?, List.find?_map, Function.comp_def, key_replaced]
    cases hfind : rows.find? fun r => key r = k with
    | none => exact absurd (decide_eq_true (heq.trans hk.symm)) (List.find?_eq_none.mp hfind r hr)
    | some r' =>
        have hkey' := List.find?_some hfind
        rw [Option.map_some, if_pos ((of_decide_eq_true hkey').trans hk)]
  · simp only [row?, List.find?_map, Function.comp_def, key_replaced]
    cases hfind : rows.find? fun r => key r = k with
    | none => rfl
    | some r' =>
        have hkey' := List.find?_some hfind
        rw [Option.map_some, if_neg fun heq => hk ((of_decide_eq_true hkey').symm.trans heq)]
  · rw [row?, List.find?_append, hk]
    have hnone : rows.find? (fun r => key r = key row) = none :=
      row?_eq_none.mpr fun r hr heq => hkey ⟨r, hr, heq⟩
    rw [hnone]
    simp
  · have hne : ¬ key row = k := fun heq => hk heq.symm
    rw [row?, List.find?_append]
    simp [hne, row?]

/-- A read after a deletion. -/
theorem row?_filter (h : Unique key rows) (p : α → Bool) (k : κ) :
    row? key (rows.filter p) k = (row? key rows k).filter p := by
  ext r
  rw [row?_eq_some (h.filter p), Option.filter_eq_some_iff, row?_eq_some h, List.mem_filter]
  constructor
  · rintro ⟨⟨hmem, hp⟩, hkey⟩
    exact ⟨⟨hmem, hkey⟩, hp⟩
  · rintro ⟨⟨hmem, hkey⟩, hp⟩
    exact ⟨⟨hmem, hp⟩, hkey⟩

end Table
