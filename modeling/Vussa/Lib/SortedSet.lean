import Mathlib.Tactic
import Mathlib.Data.List.Sort
import Mathlib.Data.Prod.Lex

/-!
Sorted sets in the manner of a key-value store: distinct members, each with a score, kept in the
order of the scores and, among equal scores, of the members.

* `SortedSet`: the entries, with their order and the distinctness of the members as fields;
* `add`, `rem`: insertion (which moves a member that is already there) and removal;
* `range`: a slice by signed indices, negative ones counting from the end;
* `revRangeByScore`: the highest entries up to a score, in descending order;
* `range_renamed`, `entries_rem_renamed`, `entries_add_renamed`: the operations on a set whose
  entries are those of another one under other names, in the same order.
-/

/-- Distinct members, each with a score, in the order of score and member. -/
structure SortedSet (σ α : Type*) [LinearOrder σ] [LinearOrder α] where
  entries : List (σ ×ₗ α)
  sorted : entries.Pairwise (· < ·)
  nodup : (entries.map fun e => (ofLex e).2).Nodup

namespace SortedSet

variable {σ α : Type*} [LinearOrder σ] [LinearOrder α]

/-- The member of an entry. -/
def member (e : σ ×ₗ α) : α := (ofLex e).2

/-- The score of an entry. -/
def score (e : σ ×ₗ α) : σ := (ofLex e).1

lemma lt_of_score_lt {a b : σ ×ₗ α} (h : score a < score b) : a < b :=
  Prod.Lex.lt_iff.mpr (Or.inl h)

lemma score_le_of_lt {a b : σ ×ₗ α} (h : a < b) : score a ≤ score b := by
  rcases Prod.Lex.lt_iff.mp h with h | h
  · exact le_of_lt h
  · exact le_of_eq h.1

/-! ### Insertion and removal -/

/-- The set with no members. -/
def empty : SortedSet σ α where
  entries := []
  sorted := List.Pairwise.nil
  nodup := List.nodup_nil

/-- `ZREM`. -/
def rem (z : SortedSet σ α) (ms : List α) : SortedSet σ α where
  entries := z.entries.filter fun e => member e ∉ ms
  sorted := z.sorted.sublist List.filter_sublist
  nodup := z.nodup.sublist (List.filter_sublist.map _)

@[simp] lemma mem_rem {z : SortedSet σ α} {ms : List α} {e : σ ×ₗ α} :
    e ∈ (z.rem ms).entries ↔ e ∈ z.entries ∧ member e ∉ ms := by
  simp [rem]

/-- `ZADD` of one member: an entry it already has is replaced. -/
def add (z : SortedSet σ α) (s : σ) (m : α) : SortedSet σ α where
  entries := (z.rem [m]).entries.orderedInsert (· ≤ ·) (toLex (s, m))
  sorted := by
    have hnew : ∀ e ∈ (z.rem [m]).entries, e ≠ toLex (s, m) := by
      rintro e he rfl
      exact (mem_rem.mp he).2 (List.mem_singleton_self m)
    have hle : ((z.rem [m]).entries.orderedInsert (· ≤ ·) (toLex (s, m))).Pairwise (· ≤ ·) :=
      ((z.rem [m]).sorted.imp le_of_lt).orderedInsert _ _
    have hnd : ((z.rem [m]).entries.orderedInsert (· ≤ ·) (toLex (s, m))).Nodup := by
      rw [(List.perm_orderedInsert _ _ _).nodup_iff, List.nodup_cons]
      exact ⟨fun hmem => hnew _ hmem rfl, (z.rem [m]).sorted.imp ne_of_lt⟩
    exact hle.imp₂ (fun a b h1 h2 => lt_of_le_of_ne h1 h2) hnd
  nodup := by
    rw [((List.perm_orderedInsert _ _ _).map _).nodup_iff, List.map_cons, List.nodup_cons]
    refine ⟨fun hmem => ?_, (z.rem [m]).nodup⟩
    obtain ⟨e, he, hem⟩ := List.mem_map.mp hmem
    exact (mem_rem.mp he).2 (List.mem_singleton.mpr hem)

@[simp] lemma mem_add {z : SortedSet σ α} {s : σ} {m : α} {e : σ ×ₗ α} :
    e ∈ (z.add s m).entries ↔ e = toLex (s, m) ∨ (e ∈ z.entries ∧ member e ≠ m) := by
  simp [add]

lemma length_add_le (z : SortedSet σ α) (s : σ) (m : α) :
    (z.add s m).entries.length ≤ z.entries.length + 1 := by
  rw [add, List.orderedInsert_length]
  exact Nat.succ_le_succ (List.length_filter_le _ _)

/-! ### Slices -/

/-- `ZRANGE` by index: both ends count, and a negative index counts from the end. -/
def range (z : SortedSet σ α) (start stop : ℤ) : List α :=
  let len : ℤ := z.entries.length
  let lo := (if start < 0 then start + len else start).toNat
  let hi := if stop < 0 then stop + len else stop
  ((z.entries.take (hi + 1).toNat).drop lo).map member

/-- The last `k` members. -/
lemma range_last (z : SortedSet σ α) {k : ℕ} (hk : 0 < k) :
    z.range (-k) (-1) = (z.entries.drop (z.entries.length - k)).map member := by
  have h1 : (-(k : ℤ)) < 0 := by omega
  simp only [range, if_pos h1, if_pos (show (-1 : ℤ) < 0 by omega)]
  have h2 : ((-1 : ℤ) + z.entries.length + 1).toNat = z.entries.length := by omega
  have h3 : (-(k : ℤ) + z.entries.length).toNat = z.entries.length - k := by omega
  rw [h2, h3, List.take_length]

/-- All members but the last `k`. -/
lemma range_butLast (z : SortedSet σ α) (k : ℕ) :
    z.range 0 (-((k + 1 : ℕ) : ℤ)) = (z.entries.take (z.entries.length - k)).map member := by
  have h1 : (-((k + 1 : ℕ) : ℤ)) < 0 := by omega
  simp only [range, if_pos h1, if_neg (lt_irrefl (0 : ℤ)), Int.toNat_zero, List.drop_zero]
  have h2 : (-((k + 1 : ℕ) : ℤ) + z.entries.length + 1).toNat = z.entries.length - k := by omega
  rw [h2]

/-- Removing the first members leaves the others. -/
lemma rem_take_entries (z : SortedSet σ α) (n : ℕ) :
    (z.rem ((z.entries.take n).map member)).entries = z.entries.drop n := by
  have hsplit := List.take_append_drop n z.entries
  have hdisj : ∀ e ∈ z.entries.drop n, member e ∉ (z.entries.take n).map member := by
    intro e he hmem
    obtain ⟨e', he', heq⟩ := List.mem_map.mp hmem
    have hnd := z.nodup
    rw [← hsplit, List.map_append, List.nodup_append] at hnd
    exact hnd.2.2 _ (List.mem_map_of_mem he') _ (List.mem_map_of_mem he) heq
  simp only [rem]
  conv_lhs => rw [← hsplit]
  rw [List.filter_append]
  have h1 : (z.entries.take n).filter
      (fun e => decide (member e ∉ (z.entries.take n).map member)) = [] :=
    List.filter_eq_nil_iff.mpr fun e he hout =>
      of_decide_eq_true hout (List.mem_map_of_mem he)
  have h2 : (z.entries.drop n).filter
      (fun e => decide (member e ∉ (z.entries.take n).map member)) = z.entries.drop n :=
    List.filter_eq_self.mpr fun e he => decide_eq_true (hdisj e he)
  have h3 : z.entries.take n ++ z.entries.drop n = z.entries := hsplit
  rw [h3, h1, h2, List.nil_append]

/-- `ZREVRANGEBYSCORE z max -inf LIMIT 0 limit`. -/
def revRangeByScore (z : SortedSet σ α) (max : σ) (limit : ℕ) : List α :=
  ((z.entries.filter fun e => score e ≤ max).reverse.take limit).map member

/-! ### Other names -/

section Renamed

variable {τ β : Type*} [LinearOrder τ] [LinearOrder β] {f : σ ×ₗ α → τ ×ₗ β} {g : α → β}
  {z : SortedSet σ α} {w : SortedSet τ β}

lemma range_renamed (hf : ∀ e, member (f e) = g (member e)) (h : w.entries = z.entries.map f)
    (start stop : ℤ) : w.range start stop = (z.range start stop).map g := by
  simp only [range, h, List.length_map, ← List.map_take, ← List.map_drop, List.map_map]
  exact List.map_congr_left fun e _ => hf e

lemma entries_rem_renamed (hg : Function.Injective g) (hf : ∀ e, member (f e) = g (member e))
    (h : w.entries = z.entries.map f) (ms : List α) :
    (w.rem (ms.map g)).entries = (z.rem ms).entries.map f := by
  simp only [rem, h, List.filter_map]
  congr 1
  refine List.filter_congr fun e _ => ?_
  rw [Function.comp_apply, hf, decide_eq_decide, List.mem_map_of_injective hg]

/-- An insertion, where the names keep the order of the entries. -/
lemma entries_add_renamed (hg : Function.Injective g) (hf : ∀ e, member (f e) = g (member e))
    (h : w.entries = z.entries.map f) {s : σ} {t : τ} {m : α} (hnew : f (toLex (s, m)) = toLex (t, g m))
    (hmono : ∀ a ∈ (z.add s m).entries, ∀ b ∈ (z.add s m).entries, a < b → f a < f b) :
    (w.add t (g m)).entries = (z.add s m).entries.map f := by
  have hsorted : ((z.add s m).entries.map f).Pairwise (· < ·) :=
    List.pairwise_map.mpr ((z.add s m).sorted.imp_of_mem fun ha hb hlt => hmono _ ha _ hb hlt)
  refine List.Perm.eq_of_pairwise (fun a b _ _ (hab : a < b) hba => absurd hba hab.not_gt)
    (w.add t (g m)).sorted hsorted ?_
  rw [List.perm_ext_iff_of_nodup ((w.add t (g m)).sorted.imp ne_of_lt) (hsorted.imp ne_of_lt)]
  intro e
  rw [mem_add, List.mem_map, h, List.mem_map]
  constructor
  · rintro (rfl | ⟨⟨a, ha, rfl⟩, hne⟩)
    · exact ⟨toLex (s, m), mem_add.mpr (.inl rfl), hnew⟩
    · rw [hf] at hne
      exact ⟨a, mem_add.mpr (.inr ⟨ha, fun heq => hne (by rw [heq])⟩), rfl⟩
  · rintro ⟨a, ha, rfl⟩
    rcases mem_add.mp ha with rfl | ⟨ha, hne⟩
    · exact .inl hnew
    · refine .inr ⟨⟨a, ha, rfl⟩, ?_⟩
      rw [hf]
      exact fun heq => hne (hg heq)

end Renamed

end SortedSet
