import Mathlib.Tactic
import Mathlib.Data.List.Dedup

/-!
Tables as lists of rows, and the operations of a `SELECT` on them.

* `join`: the pairs of rows that meet a condition;
* `leftJoin`: the same, where a row without a partner is kept with none;
* `groupBy`: the rows by a key.
-/

namespace Table

variable {α β κ : Type*}

/-- `JOIN ... ON`. -/
def join (on : α → β → Bool) (rows : List α) (others : List β) : List (α × β) :=
  rows.flatMap fun a => (others.filter (on a)).map fun b => (a, b)

/-- `LEFT JOIN ... ON`. -/
def leftJoin (on : α → β → Bool) (rows : List α) (others : List β) : List (α × Option β) :=
  rows.flatMap fun a =>
    match others.filter (on a) with
    | [] => [(a, none)]
    | partners => partners.map fun b => (a, some b)

/-- `GROUP BY`. -/
def groupBy [DecidableEq κ] (key : α → κ) (rows : List α) : List (κ × List α) :=
  (rows.map key).dedup.map fun k => (k, rows.filter fun a => key a = k)

lemma mem_join {on : α → β → Bool} {rows : List α} {others : List β} {a : α} {b : β} :
    (a, b) ∈ join on rows others ↔ a ∈ rows ∧ b ∈ others ∧ on a b := by
  rw [join, List.mem_flatMap]
  refine ⟨?_, ?_⟩
  · rintro ⟨a', ha, hpair⟩
    obtain ⟨b', hb, heq⟩ := List.mem_map.mp hpair
    obtain ⟨rfl, rfl⟩ := Prod.mk.injEq .. ▸ heq
    exact ⟨ha, List.mem_filter.mp hb⟩
  · rintro ⟨ha, hb⟩
    exact ⟨a, ha, List.mem_map_of_mem (List.mem_filter.mpr hb)⟩

/-- A row of a left join is a row of the first table, with a partner that meets the condition if it
has one. -/
lemma mem_leftJoin {on : α → β → Bool} {rows : List α} {others : List β} {a : α} {b : Option β}
    (h : (a, b) ∈ leftJoin on rows others) :
    a ∈ rows ∧ ∀ b' ∈ b, b' ∈ others ∧ on a b' := by
  obtain ⟨a', ha, hpair⟩ := List.mem_flatMap.mp h
  split at hpair
  · rw [List.mem_singleton] at hpair
    obtain ⟨rfl, rfl⟩ := Prod.mk.injEq .. ▸ hpair
    exact ⟨ha, by simp⟩
  · obtain ⟨b', hb, heq⟩ := List.mem_map.mp hpair
    obtain ⟨rfl, rfl⟩ := Prod.mk.injEq .. ▸ heq
    refine ⟨ha, fun b'' hb'' => ?_⟩
    rw [Option.mem_some_iff] at hb''
    rw [← hb'']
    exact List.mem_filter.mp hb

/-- Every row of the first table is in a left join. -/
lemma exists_mem_leftJoin (on : α → β → Bool) {rows : List α} (others : List β) {a : α}
    (ha : a ∈ rows) : ∃ b, (a, b) ∈ leftJoin on rows others := by
  cases hpartners : others.filter (on a) with
  | nil =>
      refine ⟨none, List.mem_flatMap.mpr ⟨a, ha, ?_⟩⟩
      rw [hpartners]
      exact List.mem_singleton_self _
  | cons b rest =>
      refine ⟨some b, List.mem_flatMap.mpr ⟨a, ha, ?_⟩⟩
      rw [hpartners]
      exact List.mem_cons_self

/-- A row of a left join without a partner has none. -/
lemma not_on_of_mem_leftJoin {on : α → β → Bool} {rows : List α} {others : List β} {a : α}
    (h : (a, none) ∈ leftJoin on rows others) : ∀ b ∈ others, ¬ on a b := by
  obtain ⟨a', -, hpair⟩ := List.mem_flatMap.mp h
  split at hpair
  · rename_i hnil
    rw [List.mem_singleton] at hpair
    obtain ⟨rfl, -⟩ := Prod.mk.injEq .. ▸ hpair
    exact List.filter_eq_nil_iff.mp hnil
  · obtain ⟨b, -, heq⟩ := List.mem_map.mp hpair
    exact absurd (Prod.mk.inj heq).2 (by simp)

/-- A group is the key of some row. -/
lemma mem_groupBy [DecidableEq κ] {key : α → κ} {rows : List α} {g : κ × List α}
    (h : g ∈ groupBy key rows) : ∃ a ∈ rows, key a = g.1 := by
  obtain ⟨k, hk, rfl⟩ := List.mem_map.mp h
  exact List.mem_map.mp (List.mem_dedup.mp hk)

end Table
