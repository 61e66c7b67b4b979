import Mathlib.Data.List.Basic
import Mathlib.Data.List.Flatten
import Mathlib.Tactic

/-!
Replacing all matches of a pattern in a list, from left to right and without overlaps, as `replace`
does with a global regular expression. What is written may be of another type than what is read.

* `Find`: the match at the head of a list, by what replaces it and how many symbols it takes;
* `replaceAll`: the replacement;
* `replaceAll_of_eq_some`, `replaceAll_cons`: a match at the head, and none;
* `replaceAll_flatMap`: **symbols may be spelled out before the replacement or after it**, if the
  pattern matches the spellings as it matches the symbols;
* `cut`: the first occurrence of a text, for a pattern that takes as little as it can.
-/

namespace Replace

variable {α β γ δ : Type*}

/-- A pattern: the replacement of a match at the head of a list, and the number of its symbols. -/
abbrev Find (α β : Type*) := List α → Option (List β × ℕ)

/-- The replacement, where the next `k` symbols belong to a match and others are written by
`keep`. -/
def replaceFrom (keep : α → List β) (find : Find α β) : ℕ → List α → List β
  | _, [] => []
  | k + 1, _ :: xs => replaceFrom keep find k xs
  | 0, x :: xs =>
      match find (x :: xs) with
      | some (out, n) => out ++ replaceFrom keep find (n - 1) xs
      | none => keep x ++ replaceFrom keep find 0 xs

/-- All matches are replaced. -/
def replaceAll (keep : α → List β) (find : Find α β) (xs : List α) : List β :=
  replaceFrom keep find 0 xs

section Steps

variable {keep : α → List β} {find : Find α β}

@[simp] lemma replaceAll_nil : replaceAll keep find [] = [] := by
  rw [replaceAll, replaceFrom]

lemma replaceFrom_eq (k : ℕ) (xs : List α) :
    replaceFrom keep find k xs = replaceAll keep find (xs.drop k) := by
  induction xs generalizing k with
  | nil => cases k <;> simp [replaceFrom]
  | cons x xs ih =>
      cases k with
      | zero => rfl
      | succ k => rw [replaceFrom, ih, List.drop_succ_cons]

/-- A match at the head. -/
lemma replaceAll_of_eq_some {xs : List α} {out : List β} {n : ℕ} (h : find xs = some (out, n))
    (hn : n ≠ 0) (hxs : xs ≠ []) :
    replaceAll keep find xs = out ++ replaceAll keep find (xs.drop n) := by
  cases xs with
  | nil => exact absurd rfl hxs
  | cons x xs =>
      obtain ⟨m, rfl⟩ := Nat.exists_eq_succ_of_ne_zero hn
      rw [replaceAll, replaceFrom, h]
      dsimp only
      rw [replaceFrom_eq, Nat.succ_sub_one, List.drop_succ_cons]

/-- No match at the head. -/
lemma replaceAll_cons {x : α} {xs : List α} (h : find (x :: xs) = none) :
    replaceAll keep find (x :: xs) = keep x ++ replaceAll keep find xs := by
  rw [replaceAll, replaceFrom, h]
  rfl

/-- A stretch in which no match begins. -/
lemma replaceAll_append {xs ys : List α}
    (h : ∀ zs, zs ≠ [] → zs <:+ xs → find (zs ++ ys) = none) :
    replaceAll keep find (xs ++ ys) = xs.flatMap keep ++ replaceAll keep find ys := by
  induction xs with
  | nil => rfl
  | cons x xs ih =>
      have hnone : find (x :: (xs ++ ys)) = none :=
        h (x :: xs) (List.cons_ne_nil x xs) (List.suffix_refl _)
      rw [List.cons_append, replaceAll_cons hnone,
        ih fun zs hzs hsuffix => h zs hzs (hsuffix.trans (List.suffix_cons x xs)),
        List.flatMap_cons, List.append_assoc]

/-- What is written is kept, or replaces a match. -/
lemma mem_replaceAll {y : β} {xs : List α} (h : y ∈ replaceAll keep find xs) :
    (∃ x ∈ xs, y ∈ keep x) ∨
      ∃ zs out n, zs <:+ xs ∧ find zs = some (out, n) ∧ y ∈ out := by
  have hfrom : ∀ k, y ∈ replaceFrom keep find k xs → (∃ x ∈ xs, y ∈ keep x) ∨
      ∃ zs out n, zs <:+ xs ∧ find zs = some (out, n) ∧ y ∈ out := by
    clear h
    induction xs with
    | nil =>
        intro k h
        rw [replaceFrom_eq, List.drop_nil, replaceAll_nil] at h
        exact absurd h List.not_mem_nil
    | cons x xs ih =>
        have htail : ∀ k, y ∈ replaceFrom keep find k xs → (∃ x' ∈ x :: xs, y ∈ keep x') ∨
            ∃ zs out n, zs <:+ x :: xs ∧ find zs = some (out, n) ∧ y ∈ out := by
          intro k hk
          rcases ih k hk with ⟨x', hx', hy⟩ | ⟨zs, out, n, hzs, hfind⟩
          · exact .inl ⟨x', List.mem_cons_of_mem x hx', hy⟩
          · exact .inr ⟨zs, out, n, hzs.trans (List.suffix_cons x xs), hfind⟩
        intro k h
        cases k with
        | succ k => exact htail k h
        | zero =>
            cases hfind : find (x :: xs) with
            | none =>
                rw [replaceFrom, hfind] at h
                rcases List.mem_append.mp h with hkeep | hrest
                · exact .inl ⟨x, List.mem_cons_self, hkeep⟩
                · exact htail 0 hrest
            | some found =>
                obtain ⟨out, n⟩ := found
                rw [replaceFrom, hfind] at h
                rcases List.mem_append.mp h with hout | hrest
                · exact .inr ⟨_, out, n, List.suffix_refl _, hfind, hout⟩
                · exact htail _ hrest
  exact hfrom 0 h

end Steps

/-- **Spellings**: if `find'` matches the spelling of a list exactly where `find` matches the list,
and nowhere inside the spelling of a symbol, then the replacement in the spelling spells out the
replacement in the list. -/
theorem replaceAll_flatMap {keep : α → List γ} {find : Find α γ} {keep' : β → List δ}
    {find' : Find β δ} {spell : α → List β} {write : γ → List δ}
    (hspell : ∀ a, spell a ≠ [])
    (hsome : ∀ xs out n, find xs = some (out, n) → n ≠ 0 ∧ xs ≠ [] ∧ n ≤ xs.length ∧
      find' (xs.flatMap spell) = some (out.flatMap write, ((xs.take n).flatMap spell).length))
    (hnone : ∀ x xs, find (x :: xs) = none → ∀ zs, zs ≠ [] → zs <:+ spell x →
      find' (zs ++ xs.flatMap spell) = none)
    (hkeep : ∀ a, (keep a).flatMap write = (spell a).flatMap keep') (xs : List α) :
    replaceAll keep' find' (xs.flatMap spell) = (replaceAll keep find xs).flatMap write := by
  induction hlength : xs.length using Nat.strong_induction_on generalizing xs with
  | _ length ih =>
      cases xs with
      | nil => rw [List.flatMap_nil, replaceAll_nil, replaceAll_nil, List.flatMap_nil]
      | cons x xs =>
          cases hfind : find (x :: xs) with
          | none =>
              rw [replaceAll_cons hfind, List.flatMap_cons, replaceAll_append (hnone x xs hfind),
                ih xs.length (by simp [← hlength]) xs rfl, List.flatMap_append, hkeep]
          | some found =>
              obtain ⟨out, n⟩ := found
              obtain ⟨hn, hne, hle, hfind'⟩ := hsome _ _ _ hfind
              have hsplit : (x :: xs).flatMap spell = ((x :: xs).take n).flatMap spell ++
                  ((x :: xs).drop n).flatMap spell := by
                rw [← List.flatMap_append, List.take_append_drop]
              have htake : ((x :: xs).take n).flatMap spell ≠ [] := by
                obtain ⟨m, rfl⟩ := Nat.exists_eq_succ_of_ne_zero hn
                rw [List.take_succ_cons, List.flatMap_cons]
                exact fun hnil => hspell x (List.append_eq_nil_iff.mp hnil).1
              have hwhole : (x :: xs).flatMap spell ≠ [] := by
                rw [hsplit]
                exact fun hnil => htake (List.append_eq_nil_iff.mp hnil).1
              rw [replaceAll_of_eq_some hfind hn hne, List.flatMap_append,
                replaceAll_of_eq_some hfind' (fun hzero => htake (List.length_eq_zero_iff.mp hzero))
                  hwhole, ← ih ((x :: xs).drop n).length (by
                    rw [← hlength, List.length_drop]
                    omega) _ rfl]
              nth_rewrite 1 [hsplit]
              rw [List.drop_left]

section Cut

variable [DecidableEq α]

/-- The text before the first occurrence of another one, and the text after it. -/
def cut (p : List α) : List α → Option (List α × List α)
  | [] => if p = [] then some ([], []) else none
  | x :: xs =>
      if p <+: x :: xs then some ([], (x :: xs).drop p.length)
      else (cut p xs).map fun (before, after) => (x :: before, after)

lemma cut_eq_some {p xs before after : List α} (h : cut p xs = some (before, after)) :
    xs = before ++ p ++ after := by
  induction xs generalizing before with
  | nil =>
      rw [cut] at h
      split_ifs at h with hp
      obtain ⟨rfl, rfl⟩ := Prod.mk.inj (Option.some.inj h)
      rw [hp]
      rfl
  | cons x xs ih =>
      rw [cut] at h
      split_ifs at h with hp
      · obtain ⟨rfl, rfl⟩ := Prod.mk.inj (Option.some.inj h)
        obtain ⟨rest, hrest⟩ := hp
        rw [← hrest, List.drop_left, List.nil_append]
      · obtain ⟨⟨before', after'⟩, hcut, heq⟩ := Option.map_eq_some_iff.mp h
        obtain ⟨rfl, rfl⟩ := Prod.mk.inj heq
        rw [ih hcut, List.cons_append, List.cons_append]

end Cut

end Replace
