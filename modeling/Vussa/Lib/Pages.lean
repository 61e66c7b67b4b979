import Vussa.Lib.Timeline

/-!
Walks by pages through a list in the strict order of its keys. Every call of the walk names the
cursor of the last item it got; the page is cut out of a query for one row more, which tells whether
there is a next page.

* `Page`, `page`: a page, and how it is cut;
* `rest`: what a cursor leaves of the list;
* `Walk`: the calls, from a cursor to the page without a next one;
* `enumerates_of_page`: **the walk ends, and it visits the items of the list once each, in its
  order, on full pages but for the last one**;
* `Asked`, `exists_page_of_gapless`: a walk back in time, whose requests name the oldest item of the
  page before; **where no page leaves a gap, every item is on one of them**.
-/

namespace Vussa.Pages

open Timeline

variable {α γ κ ε : Type*}

/-- A page, and the cursor of the next one. -/
structure Page (α γ : Type*) where
  items : List α
  next : Option γ

/-- The page of `n` of the rows: one row more is read, and cut off. -/
def page (cursor : α → γ) (n : ℕ) (rows : List α) : Page α γ where
  items := (rows.take (n + 1)).take n
  next :=
    if n < (rows.take (n + 1)).length then ((rows.take (n + 1)).take n).getLast?.map cursor
    else none

/-- Calls that take the cursor of the answer before, until an answer has none. -/
inductive Walk (fetch : Option γ → Except ε (Page α γ)) : Option γ → List (Page α γ) → Prop
  | last {c : Option γ} {p : Page α γ} (h : fetch c = .ok p) (hnext : p.next = none) :
      Walk fetch c [p]
  | more {c : Option γ} {p : Page α γ} {k : γ} {ps : List (Page α γ)} (h : fetch c = .ok p)
      (hnext : p.next = some k) (hrest : Walk fetch (some k) ps) : Walk fetch c (p :: ps)

/-- The walk from the start ends, and visits the hits once each, in the order of their keys, on
pages of `n` items but for the last one. -/
structure Enumerates [LT κ] (fetch : Option γ → Except ε (Page α γ)) (n : ℕ) (f : α → κ)
    (hits : α → Prop) : Prop where
  ends : ∃ pages, Walk fetch none pages
  hits : ∀ pages, Walk fetch none pages → ∀ a, a ∈ pages.flatMap Page.items ↔ hits a
  strict : ∀ pages, Walk fetch none pages → (pages.flatMap Page.items).Pairwise fun a b => f a < f b
  full : ∀ pages, Walk fetch none pages → ∀ p ∈ pages.dropLast, p.items.length = n

lemma Enumerates.congr [LT κ] {fetch : Option γ → Except ε (Page α γ)} {n : ℕ} {f : α → κ}
    {p q : α → Prop} (h : Enumerates fetch n f p) (hpq : ∀ a, p a ↔ q a) :
    Enumerates fetch n f q :=
  { h with hits := fun pages hwalk a => (h.hits pages hwalk a).trans (hpq a) }

/-! ### A page -/

variable {cursor : α → γ} {n : ℕ} {rows : List α}

lemma page_items : (page cursor n rows).items = rows.take n := by
  rw [page, List.take_take, min_eq_left n.le_succ]

lemma page_next : (page cursor n rows).next =
    if n < rows.length then (rows.take n).getLast?.map cursor else none := by
  have hlen : n < (rows.take (n + 1)).length ↔ n < rows.length := by
    rw [List.length_take]
    omega
  rw [page, List.take_take, min_eq_left n.le_succ]
  simp only [hlen]

/-- Without a next page the page holds all rows. -/
lemma length_le_of_next_none (hn : 0 < n) (h : (page cursor n rows).next = none) :
    rows.length ≤ n := by
  by_contra hlt
  rw [page_next, if_pos (not_le.mp hlt), Option.map_eq_none_iff, List.getLast?_eq_none_iff,
    List.take_eq_nil_iff] at h
  rcases h with h | h
  · omega
  · rw [h] at hlt
    exact hlt (Nat.zero_le _)

/-- A next page starts behind the last item of a full one. -/
lemma split_of_next {k : γ} (h : (page cursor n rows).next = some k) :
    n < rows.length ∧ ∃ p a, cursor a = k ∧ rows.take n = p ++ [a] ∧
      rows = p ++ a :: rows.drop n := by
  rw [page_next] at h
  split at h
  · rename_i hlt
    obtain ⟨a, ha, rfl⟩ := Option.map_eq_some_iff.mp h
    obtain ⟨p, hp⟩ := List.getLast?_eq_some_iff.mp ha
    refine ⟨hlt, p, a, rfl, hp, ?_⟩
    calc rows = rows.take n ++ rows.drop n := (List.take_append_drop n rows).symm
      _ = p ++ a :: rows.drop n := by rw [hp, List.append_assoc, List.singleton_append]
  · exact absurd h (by simp)

/-! ### The walk -/

section Walk

variable [LinearOrder κ] (key : γ → κ) (cursor : α → γ)

/-- The items behind a cursor. -/
def rest (c : Option γ) (l : List α) : List α :=
  l.filter fun a => ∀ k ∈ c, key k < key (cursor a)

variable {key cursor} {l : List α}

@[simp] lemma rest_none : rest key cursor none l = l :=
  List.filter_eq_self.mpr fun _ _ => decide_eq_true nofun

/-- The cursor of a page leaves what the page does. -/
lemma rest_of_next (h : Chron (fun a => key (cursor a)) l) {c : Option γ} {k : γ}
    (hnext : (page cursor n (rest key cursor c l)).next = some k) :
    rest key cursor (some k) l = (rest key cursor c l).drop n := by
  obtain ⟨-, p, a, rfl, -, hsplit⟩ := split_of_next hnext
  have hrest : Chron (fun a => key (cursor a)) (rest key cursor c l) :=
    h.sublist List.filter_sublist
  have hafter : ∀ k ∈ c, key k < key (cursor a) := by
    have ha : a ∈ rest key cursor c l := by
      rw [hsplit]
      exact List.mem_append_right _ List.mem_cons_self
    exact of_decide_eq_true (List.mem_filter.mp ha).2
  calc rest key cursor (some (cursor a)) l
      = (rest key cursor c l).filter fun b => key (cursor a) < key (cursor b) := by
        rw [rest, rest, List.filter_filter]
        refine List.filter_congr fun b _ => ?_
        rw [← Bool.decide_and]
        refine decide_eq_decide.mpr ⟨fun hb => ⟨hb _ rfl, fun k hk => ?_⟩, fun hb k hk => ?_⟩
        · exact (hafter k hk).trans (hb _ rfl)
        · obtain rfl := Option.some.inj hk
          exact hb.1
    _ = (rest key cursor c l).drop n := by
        rw [hsplit] at hrest ⊢
        rw [hrest.filter_newer, ← hsplit]

variable {fetch : Option γ → Except ε (Page α γ)}

/-- A walk holds what its cursor leaves, on full pages but for the last one. -/
lemma items_of_walk (hn : 0 < n) (h : Chron (fun a => key (cursor a)) l)
    (hfetch : ∀ c, fetch c = .ok (page cursor n (rest key cursor c l))) {c : Option γ}
    {pages : List (Page α γ)} (hwalk : Walk fetch c pages) :
    pages.flatMap Page.items = rest key cursor c l ∧ ∀ p ∈ pages.dropLast, p.items.length = n := by
  induction hwalk with
  | @last c p hp hnext =>
      obtain rfl := Except.ok.inj ((hfetch c).symm.trans hp)
      refine ⟨?_, fun _ hmem => absurd hmem List.not_mem_nil⟩
      rw [List.flatMap_singleton, page_items]
      exact List.take_of_length_le (length_le_of_next_none hn hnext)
  | @more c p k ps hp hnext hrest ih =>
      obtain rfl := Except.ok.inj ((hfetch c).symm.trans hp)
      refine ⟨?_, fun q hq => ?_⟩
      · rw [List.flatMap_cons, ih.1, page_items, rest_of_next h hnext, List.take_append_drop]
      · have hps : ps ≠ [] := by cases hrest <;> exact List.cons_ne_nil _ _
        rw [List.dropLast_cons_of_ne_nil hps] at hq
        rcases List.mem_cons.mp hq with rfl | hq
        · rw [page_items, List.length_take]
          exact min_eq_left (split_of_next hnext).1.le
        · exact ih.2 q hq

/-- From every cursor the walk ends: each page leaves fewer items. -/
lemma exists_walk (hn : 0 < n) (h : Chron (fun a => key (cursor a)) l)
    (hfetch : ∀ c, fetch c = .ok (page cursor n (rest key cursor c l))) (c : Option γ) :
    ∃ pages, Walk fetch c pages := by
  induction hlen : (rest key cursor c l).length using Nat.strong_induction_on generalizing c with
  | _ m ih =>
    cases hnext : (page cursor n (rest key cursor c l)).next with
    | none => exact ⟨_, .last (hfetch c) hnext⟩
    | some k =>
        have hlt : (rest key cursor (some k) l).length < m := by
          have hmore := (split_of_next hnext).1
          rw [rest_of_next h hnext, List.length_drop]
          omega
        obtain ⟨pages, hpages⟩ := ih _ hlt (some k) rfl
        exact ⟨_, .more (hfetch c) hnext hpages⟩

variable (key cursor) in
/-- **The walk**: calls that answer pages of the items behind their cursor visit every item. -/
theorem enumerates_of_page (hn : 0 < n) (h : Chron (fun a => key (cursor a)) l)
    (hfetch : ∀ c, fetch c = .ok (page cursor n (rest key cursor c l))) :
    Enumerates fetch n (fun a => key (cursor a)) (· ∈ l) where
  ends := exists_walk hn h hfetch none
  hits pages hwalk a := by rw [(items_of_walk hn h hfetch hwalk).1, rest_none]
  strict pages hwalk := by
    rw [(items_of_walk hn h hfetch hwalk).1, rest_none]
    exact h
  full pages hwalk := (items_of_walk hn h hfetch hwalk).2

end Walk

/-! ### Back in time -/

/-- The cursors of the requests of a walk, each named by the first item of the page before. -/
inductive Asked (page : γ → List α) (cursor : α → γ) (start : γ) : γ → Prop
  | start : Asked page cursor start start
  | older {c : γ} {a : α} {l : List α} (h : Asked page cursor start c) (hpage : page c = a :: l) :
      Asked page cursor start (cursor a)

section Asked

variable [LinearOrder κ] {page : γ → List α} {cursor : α → γ} {start : γ} {f : α → κ}

/-- **A walk without gaps**: where each page has the key, or starts after it, the key is on some
page. -/
theorem exists_page_of_gapless (key : γ → Option κ) (all : List κ)
    (hcursor : ∀ a, key (cursor a) = some (f a))
    (hpage : ∀ c, Asked page cursor start c → ∀ a ∈ page c, f a ∈ all ∧ ∀ k ∈ key c, f a < k)
    {x : κ} (hgapless : ∀ c, Asked page cursor start c → (∀ k ∈ key c, x < k) →
      x ∈ (page c).map f ∨ ∃ a l, page c = a :: l ∧ x < f a)
    (hstart : ∀ k ∈ key start, x < k) :
    ∃ c, Asked page cursor start c ∧ x ∈ (page c).map f := by
  have hwalk : ∀ n c, Asked page cursor start c → (∀ k ∈ key c, x < k) →
      (all.filter fun e => ∀ k ∈ key c, e < k).length = n →
      ∃ c, Asked page cursor start c ∧ x ∈ (page c).map f := by
    intro n
    induction n using Nat.strong_induction_on with
    | _ n ih =>
      intro c hc hx hlen
      rcases hgapless c hc hx with hfound | ⟨a, l, ha, hlt⟩
      · exact ⟨c, hc, hfound⟩
      · -- the next request leaves out the first item of this page
        obtain ⟨hall, hbefore⟩ := hpage c hc a (ha ▸ List.mem_cons_self)
        have hsub : List.Sublist (all.filter fun e => ∀ k ∈ key (cursor a), e < k)
            (all.filter fun e => ∀ k ∈ key c, e < k) := by
          refine List.monotone_filter_right all fun e he => decide_eq_true fun k hk => ?_
          exact (of_decide_eq_true he _ (hcursor a)).trans (hbefore k hk)
        have hfewer : (all.filter fun e => ∀ k ∈ key (cursor a), e < k).length < n := by
          by_contra hge
          have hin : f a ∈ all.filter fun e => ∀ k ∈ key c, e < k :=
            List.mem_filter.mpr ⟨hall, decide_eq_true hbefore⟩
          rw [← hsub.eq_of_length_le (by omega)] at hin
          exact lt_irrefl _ (of_decide_eq_true (List.mem_filter.mp hin).2 _ (hcursor a))
        refine ih _ hfewer (cursor a) (hc.older ha) (fun k hk => ?_) rfl
        rw [hcursor a] at hk
        exact Option.some.inj hk ▸ hlt
  exact hwalk _ start .start hstart rfl

end Asked

end Vussa.Pages
