import Vussa.Lib.Delimiters

/-!
The places of spans in a text, and the marks that they use up.

* `countP_wrap_le`, `wrap_mark`: **a mark is used up, or no span begins at it**;
* `Delimiter.spans`, `Delimiter.put`: the places of the delimiters, and tags in their places;
* `mem_put`, `spans_sorted`, `not_mark_inside`: what is there after that;
* `Spells.spans_map`: places do not depend on how symbols are spelled.
-/

namespace Delimiters

namespace Delimiter

variable {α γ : Type*} {D : Delimiter α}

/-! ### Marks that are used up -/

section Count

variable {p : α → Bool} {opened closed : List α → List α}

/-- A span at the head. -/
lemma wrap_span {opening inner closing : List α} (h : D.IsSpan opening inner closing)
    (rest : List α) : D.wrap opened closed (opening ++ inner ++ closing ++ rest) =
      opened opening ++ inner ++ closed closing ++ D.wrap opened closed rest :=
  replace_span h rest

/-- No span at the head. -/
lemma wrap_cons {x : α} {xs : List α} (h : ∀ opening inner closing rest,
    D.IsSpan opening inner closing → x :: xs ≠ opening ++ inner ++ closing ++ rest) :
    D.wrap opened closed (x :: xs) = x :: D.wrap opened closed xs :=
  replace_cons (find_eq_none_iff.mpr h)

variable (hopened : ∀ ms, ∀ y ∈ opened ms, p y = false)
  (hclosed : ∀ ms, ∀ y ∈ closed ms, p y = false)

include hopened hclosed

lemma countP_wrap_span {opening inner closing : List α} (h : D.IsSpan opening inner closing)
    (rest : List α) : (D.wrap opened closed (opening ++ inner ++ closing ++ rest)).countP p =
      inner.countP p + (D.wrap opened closed rest).countP p := by
  have hzero : ∀ ys : List α, (∀ y ∈ ys, p y = false) → ys.countP p = 0 := fun ys hys =>
    List.countP_eq_zero.mpr fun y hy => by rw [hys y hy]; exact Bool.false_ne_true
  rw [wrap_span h, List.countP_append, List.countP_append, List.countP_append,
    hzero _ (hopened opening), hzero _ (hclosed closing), Nat.zero_add, Nat.add_zero]

/-- Marks are used up, and none are written. -/
lemma countP_wrap_le (xs : List α) : (D.wrap opened closed xs).countP p ≤ xs.countP p := by
  induction xs using D.replace_induction with
  | nil => exact le_rfl
  | span opening inner closing rest hspan ih =>
      rw [countP_wrap_span hopened hclosed hspan]
      simp only [List.countP_append]
      omega
  | cons x xs hnone ih =>
      rw [wrap_cons hnone, List.countP_cons, List.countP_cons]
      omega

/-- **A mark is used up, or no span begins at it.** -/
theorem wrap_mark {pre post : List α} {m : α} (hm : D.isMark m = true) (hp : p m = true) :
    (D.wrap opened closed (pre ++ m :: post)).countP p < (pre ++ m :: post).countP p ∨
      (∀ opening inner closing rest, D.IsSpan opening inner closing →
        m :: post ≠ opening ++ inner ++ closing ++ rest) ∧
      ∃ pre', D.wrap opened closed (pre ++ m :: post) =
        pre' ++ m :: D.wrap opened closed post := by
  induction hxs : pre ++ m :: post using D.replace_induction generalizing pre with
  | nil => exact absurd hxs (by simp)
  | span opening inner closing rest hspan ih =>
      have hle := countP_wrap_le (D := D) hopened hclosed rest
      have hcases : m ∈ opening ++ inner ++ closing ∨ ∃ pre', pre' ++ m :: post = rest := by
        rcases List.append_eq_append_iff.mp hxs with ⟨as, has, hpost⟩ | ⟨pre', -, hrest⟩
        · cases as with
          | nil => exact .inr ⟨[], hpost⟩
          | cons a as =>
              obtain ⟨rfl, -⟩ := List.cons.inj hpost
              rw [has]
              exact .inl (List.mem_append_right pre List.mem_cons_self)
        · exact .inr ⟨pre', hrest.symm⟩
      rcases hcases with hmem | ⟨pre', hrest⟩
      · -- the mark is in one of the delimiters
        have hused : 0 < opening.countP p ∨ 0 < closing.countP p := by
          rcases List.mem_append.mp hmem with hmem | hmem
          · rcases List.mem_append.mp hmem with hmem | hmem
            · exact .inl (List.countP_pos_iff.mpr ⟨m, hmem, hp⟩)
            · have hnot := not_isMark_of_isInner (hspan.inner_isInner m hmem)
              exact absurd (hnot.symm.trans hm) Bool.false_ne_true
          · exact .inr (List.countP_pos_iff.mpr ⟨m, hmem, hp⟩)
        left
        rw [countP_wrap_span hopened hclosed hspan]
        simp only [List.countP_append]
        omega
      · rw [wrap_span hspan]
        rcases ih hrest with hlt | ⟨hnone, pre'', hpre''⟩
        · left
          rw [← wrap_span hspan, countP_wrap_span hopened hclosed hspan]
          simp only [List.countP_append]
          omega
        · refine .inr ⟨hnone, opened opening ++ inner ++ closed closing ++ pre'', ?_⟩
          rw [hpre'']
          simp only [List.append_assoc]
  | cons x xs hnone ih =>
      cases pre with
      | nil =>
          obtain ⟨rfl, rfl⟩ := List.cons.inj hxs
          exact .inr ⟨hnone, [], wrap_cons hnone⟩
      | cons y pre =>
          obtain ⟨rfl, htail⟩ := List.cons.inj hxs
          rw [wrap_cons hnone, List.countP_cons, List.countP_cons]
          rcases ih htail with hlt | ⟨hnone', pre', hpre'⟩
          · exact .inl (by omega)
          · exact .inr ⟨hnone', y :: pre', by rw [hpre', List.cons_append]⟩

/-- The mark that opens a span is used up, by that span or by one before it. -/
lemma countP_wrap_lt {pre opening inner closing post : List α}
    (h : D.IsSpan opening inner closing) (hp : ∀ m ∈ opening, p m = true) :
    (D.wrap opened closed (pre ++ (opening ++ inner ++ closing ++ post))).countP p <
      (pre ++ (opening ++ inner ++ closing ++ post)).countP p := by
  obtain ⟨⟨m, ms, rfl, hm⟩, -⟩ := h.exists_mark
  have hwhole : m :: ms ++ inner ++ closing ++ post = m :: (ms ++ inner ++ closing ++ post) := rfl
  rw [hwhole]
  rcases wrap_mark hopened hclosed hm (hp m List.mem_cons_self) with hlt | ⟨hnone, -⟩
  · exact hlt
  · exact absurd hwhole.symm (hnone _ _ _ post h)

/-- Two marks with none between: if the first is not used up, and no span begins at the second,
they stay. -/
lemma wrap_marks {pre mid post : List α} {m m' : α} (hm : D.isMark m = true) (hp : p m = true)
    (hmid : ∀ a ∈ mid, D.isMark a = false)
    (hnone : ∀ opening inner closing rest, D.IsSpan opening inner closing →
      m' :: post ≠ opening ++ inner ++ closing ++ rest)
    (hcount : (D.wrap opened closed (pre ++ m :: (mid ++ m' :: post))).countP p =
      (pre ++ m :: (mid ++ m' :: post)).countP p) :
    ∃ pre', D.wrap opened closed (pre ++ m :: (mid ++ m' :: post)) =
      pre' ++ m :: (mid ++ m' :: D.wrap opened closed post) := by
  rcases wrap_mark hopened hclosed hm hp with hlt | ⟨-, pre', hpre'⟩
  · exact absurd hcount (Nat.ne_of_lt hlt)
  · refine ⟨pre', ?_⟩
    rw [hpre', wrap, replace_append_of_not_mark hmid, List.flatMap_singleton', ← wrap,
      wrap_cons hnone]

end Count

/-! ### Places -/

section Places

variable (D)

/-- The delimiter on symbols with their places. -/
def placed : Delimiter (α × ℕ) := D.comap fun x => some x.1

/-- The place at which some symbols begin. -/
def place (xs : List (α × ℕ)) : ℕ := (xs.head?.map Prod.snd).getD 0

/-- The places of the delimiters of all spans. -/
def spans (xs : List (α × ℕ)) : List (ℕ × ℕ) :=
  D.placed.replace (fun _ => []) (fun opening _ closing => [(place opening, place closing)]) xs

/-- Tags in the places of the delimiters. -/
def put (opened closed : α) (xs : List (α × ℕ)) : List (α × ℕ) :=
  D.placed.wrap (fun ms => [(opened, place ms)]) (fun ms => [(closed, place ms)]) xs

variable {D} {opened closed : α}

/-- The places ascend. -/
def Ascending (xs : List (α × ℕ)) : Prop := xs.Pairwise fun x y => x.2 < y.2

lemma spans_span {opening inner closing : List (α × ℕ)} (h : D.placed.IsSpan opening inner closing)
    (rest : List (α × ℕ)) : D.spans (opening ++ inner ++ closing ++ rest) =
      (place opening, place closing) :: D.spans rest :=
  replace_span h rest

lemma spans_cons {x : α × ℕ} {xs : List (α × ℕ)} (h : ∀ opening inner closing rest,
    D.placed.IsSpan opening inner closing → x :: xs ≠ opening ++ inner ++ closing ++ rest) :
    D.spans (x :: xs) = D.spans xs :=
  replace_cons (find_eq_none_iff.mpr h)

lemma put_span {opening inner closing : List (α × ℕ)} (h : D.placed.IsSpan opening inner closing)
    (rest : List (α × ℕ)) : D.put opened closed (opening ++ inner ++ closing ++ rest) =
      (opened, place opening) :: (inner ++ (closed, place closing) ::
        D.put opened closed rest) := by
  rw [put, wrap_span h, put]
  simp only [List.append_assoc, List.cons_append, List.nil_append]

lemma put_cons {x : α × ℕ} {xs : List (α × ℕ)} (h : ∀ opening inner closing rest,
    D.placed.IsSpan opening inner closing → x :: xs ≠ opening ++ inner ++ closing ++ rest) :
    D.put opened closed (x :: xs) = x :: D.put opened closed xs :=
  wrap_cons h

/-- Delimiters have a first symbol, which is a mark in their place. -/
lemma IsSpan.exists_place {opening inner closing : List (α × ℕ)}
    (h : D.placed.IsSpan opening inner closing) :
    (∃ a ms, opening = (a, place opening) :: ms ∧ D.isMark a = true) ∧
      ∃ a ms, closing = (a, place closing) :: ms ∧ D.isMark a = true := by
  obtain ⟨⟨a, ms, rfl, ha⟩, b, ms', rfl, hb⟩ := h.exists_mark
  exact ⟨⟨a.1, ms, rfl, ha⟩, b.1, ms', rfl, hb⟩

/-- There are marks at the places of the spans. -/
lemma mark_of_mem_spans {xs : List (α × ℕ)} {s : ℕ × ℕ} (h : s ∈ D.spans xs) :
    (∃ a, (a, s.1) ∈ xs ∧ D.isMark a = true) ∧ ∃ a, (a, s.2) ∈ xs ∧ D.isMark a = true := by
  induction xs using D.placed.replace_induction with
  | nil =>
      rw [spans, replace_nil] at h
      exact absurd h List.not_mem_nil
  | span opening inner closing rest hspan ih =>
      rw [spans_span hspan] at h
      rcases List.mem_cons.mp h with rfl | h
      · obtain ⟨⟨a, ms, ho, ha⟩, b, ms', hc, hb⟩ := hspan.exists_place
        refine ⟨⟨a, ?_, ha⟩, b, ?_, hb⟩
        · simp only [List.mem_append]
          exact .inl (.inl (.inl (ho ▸ List.mem_cons_self)))
        · simp only [List.mem_append]
          exact .inl (.inr (hc ▸ List.mem_cons_self))
      · obtain ⟨⟨a, ha⟩, b, hb⟩ := ih h
        exact ⟨⟨a, List.mem_append_right _ ha.1, ha.2⟩, b, List.mem_append_right _ hb.1, hb.2⟩
  | cons x xs hnone ih =>
      rw [spans_cons hnone] at h
      obtain ⟨⟨a, ha⟩, b, hb⟩ := ih h
      exact ⟨⟨a, List.mem_cons_of_mem x ha.1, ha.2⟩, b, List.mem_cons_of_mem x hb.1, hb.2⟩

/-- What is there afterwards was there, or is a tag of a span. -/
lemma of_mem_put {xs : List (α × ℕ)} {y : α × ℕ} (h : y ∈ D.put opened closed xs) :
    y ∈ xs ∨ ∃ s ∈ D.spans xs, y = (opened, s.1) ∨ y = (closed, s.2) := by
  induction xs using D.placed.replace_induction with
  | nil => exact .inl h
  | span opening inner closing rest hspan ih =>
      rw [put_span hspan] at h
      rw [spans_span hspan]
      rcases List.mem_cons.mp h with rfl | h
      · exact .inr ⟨_, List.mem_cons_self, .inl rfl⟩
      · rcases List.mem_append.mp h with h | h
        · refine .inl ?_
          simp only [List.mem_append]
          exact .inl (.inl (.inr h))
        · rcases List.mem_cons.mp h with rfl | h
          · exact .inr ⟨_, List.mem_cons_self, .inr rfl⟩
          · rcases ih h with h | ⟨s, hs, h⟩
            · exact .inl (List.mem_append_right _ h)
            · exact .inr ⟨s, List.mem_cons_of_mem _ hs, h⟩
  | cons x xs hnone ih =>
      rw [put_cons hnone] at h
      rw [spans_cons hnone]
      rcases List.mem_cons.mp h with rfl | h
      · exact .inl List.mem_cons_self
      · rcases ih h with h | h
        · exact .inl (List.mem_cons_of_mem x h)
        · exact .inr h

/-- What is no mark stays. -/
lemma mem_put_of_not_mark {xs : List (α × ℕ)} {y : α × ℕ} (h : y ∈ xs)
    (hy : D.isMark y.1 = false) : y ∈ D.put opened closed xs := by
  induction xs using D.placed.replace_induction with
  | nil => exact h
  | span opening inner closing rest hspan ih =>
      rw [put_span hspan]
      have hnot : ∀ ms : List (α × ℕ), (∀ m ∈ ms, D.placed.isMark m = true) → y ∉ ms :=
        fun ms hms hmem => absurd (hy.symm.trans (hms y hmem)) Bool.false_ne_true
      simp only [List.mem_append, List.mem_cons] at h ⊢
      rcases h with ((h | h) | h) | h
      · exact absurd h (hnot opening hspan.opening_mark)
      · exact .inr (.inl h)
      · exact absurd h (hnot closing hspan.closing_mark)
      · exact .inr (.inr (.inr (ih h)))
  | cons x xs hnone ih =>
      rw [put_cons hnone]
      rcases List.mem_cons.mp h with rfl | h
      · exact List.mem_cons_self
      · exact List.mem_cons_of_mem x (ih h)

/-- Every span has its tags. -/
lemma tags_mem_put {xs : List (α × ℕ)} {s : ℕ × ℕ} (h : s ∈ D.spans xs) :
    (opened, s.1) ∈ D.put opened closed xs ∧ (closed, s.2) ∈ D.put opened closed xs := by
  induction xs using D.placed.replace_induction with
  | nil =>
      rw [spans, replace_nil] at h
      exact absurd h List.not_mem_nil
  | span opening inner closing rest hspan ih =>
      rw [spans_span hspan] at h
      rw [put_span hspan]
      simp only [List.mem_append, List.mem_cons]
      rcases List.mem_cons.mp h with rfl | h
      · exact ⟨.inl rfl, .inr (.inr (.inl rfl))⟩
      · exact ⟨.inr (.inr (.inr (ih h).1)), .inr (.inr (.inr (ih h).2))⟩
  | cons x xs hnone ih =>
      rw [spans_cons hnone] at h
      rw [put_cons hnone]
      exact ⟨List.mem_cons_of_mem x (ih h).1, List.mem_cons_of_mem x (ih h).2⟩

/-- The tags take the places of marks. -/
lemma places_put_sublist (xs : List (α × ℕ)) :
    ((D.put opened closed xs).map Prod.snd).Sublist (xs.map Prod.snd) := by
  induction xs using D.placed.replace_induction with
  | nil => exact List.Sublist.refl _
  | span opening inner closing rest hspan ih =>
      obtain ⟨⟨a, ms, ho, -⟩, b, ms', hc, -⟩ := hspan.exists_place
      have hopening : [place opening].Sublist (opening.map Prod.snd) := by
        rw [ho]
        exact List.singleton_sublist.mpr List.mem_cons_self
      have hclosing : [place closing].Sublist (closing.map Prod.snd) := by
        rw [hc]
        exact List.singleton_sublist.mpr List.mem_cons_self
      rw [put_span hspan]
      have hall := ((hopening.append (List.Sublist.refl (inner.map Prod.snd))).append
        hclosing).append ih
      simpa only [List.map_append, List.map_cons, List.append_assoc, List.cons_append,
        List.nil_append] using hall
  | cons x xs hnone ih =>
      rw [put_cons hnone]
      exact ih.cons_cons x.2

lemma Ascending.put {xs : List (α × ℕ)} (h : Ascending xs) :
    Ascending (D.put opened closed xs) := by
  have hplaces : (xs.map Prod.snd).Pairwise (· < ·) := List.pairwise_map.mpr h
  exact List.pairwise_map.mp (hplaces.sublist (places_put_sublist xs))

/-- The spans follow each other. -/
lemma Ascending.spans {xs : List (α × ℕ)} (h : Ascending xs) :
    (D.spans xs).Pairwise (fun s t => s.2 < t.1) ∧ ∀ s ∈ D.spans xs, s.1 < s.2 := by
  induction xs using D.placed.replace_induction with
  | nil =>
      rw [Delimiter.spans, replace_nil]
      exact ⟨List.Pairwise.nil, fun s hs => absurd hs List.not_mem_nil⟩
  | span opening inner closing rest hspan ih =>
      obtain ⟨⟨a, ms, ho, -⟩, b, ms', hc, -⟩ := hspan.exists_place
      obtain ⟨hbefore, hrest, hacross⟩ := List.pairwise_append.mp h
      obtain ⟨-, -, hclosing⟩ := List.pairwise_append.mp hbefore
      obtain ⟨hpairwise, hlt⟩ := ih hrest
      have hmemo : (a, place opening) ∈ opening ++ inner :=
        List.mem_append_left _ (ho ▸ List.mem_cons_self)
      have hmemc : (b, place closing) ∈ closing := hc ▸ List.mem_cons_self
      rw [spans_span hspan]
      refine ⟨List.pairwise_cons.mpr ⟨fun t ht => ?_, hpairwise⟩,
        List.forall_mem_cons.mpr ⟨hclosing _ hmemo _ hmemc, hlt⟩⟩
      obtain ⟨⟨d, hd, -⟩, -⟩ := mark_of_mem_spans ht
      exact hacross _ (List.mem_append_right _ hmemc) _ hd
  | cons x xs hnone ih =>
      rw [spans_cons hnone]
      exact ih h.of_cons

/-- No mark is left inside a span. -/
lemma Ascending.not_mark_inside {xs : List (α × ℕ)} (h : Ascending xs)
    (hopened : D.isMark opened = false) (hclosed : D.isMark closed = false) {y : α × ℕ}
    (hy : y ∈ D.put opened closed xs) (hmark : D.isMark y.1 = true) {s : ℕ × ℕ}
    (hs : s ∈ D.spans xs) : ¬ (s.1 < y.2 ∧ y.2 < s.2) := by
  have hne : ∀ {a : α} {n : ℕ}, D.isMark a = false → y ≠ (a, n) := by
    rintro a n ha rfl
    exact absurd (ha.symm.trans hmark) Bool.false_ne_true
  induction xs using D.placed.replace_induction with
  | nil =>
      rw [Delimiter.spans, replace_nil] at hs
      exact absurd hs List.not_mem_nil
  | span opening inner closing rest hspan ih =>
      obtain ⟨-, b, ms', hc, -⟩ := hspan.exists_place
      obtain ⟨-, hrest, hacross⟩ := List.pairwise_append.mp h
      have hmemc : (b, place closing) ∈ opening ++ inner ++ closing :=
        List.mem_append_right _ (hc ▸ List.mem_cons_self)
      have hyrest : y ∈ D.put opened closed rest := by
        rw [put_span hspan] at hy
        rcases List.mem_cons.mp hy with heq | hy
        · exact absurd heq (hne hopened)
        · rcases List.mem_append.mp hy with hy | hy
          · have hnot := not_isMark_of_isInner (hspan.inner_isInner y hy)
            exact absurd (hnot.symm.trans hmark) Bool.false_ne_true
          · rcases List.mem_cons.mp hy with heq | hy
            · exact absurd heq (hne hclosed)
            · exact hy
      rw [spans_span hspan] at hs
      rcases List.mem_cons.mp hs with rfl | hs
      · -- the mark is after the closing delimiter
        have hafter : place closing < y.2 := by
          rcases of_mem_put hyrest with hmem | ⟨t, ht, heq | heq⟩
          · exact hacross _ hmemc y hmem
          · exact absurd heq (hne hopened)
          · exact absurd heq (hne hclosed)
        exact fun hinside => absurd hafter (not_lt.mpr hinside.2.le)
      · exact ih hrest hyrest hs
  | cons x xs hnone ih =>
      rw [spans_cons hnone] at hs
      rw [put_cons hnone] at hy
      rcases List.mem_cons.mp hy with rfl | hy
      · obtain ⟨⟨a, ha, -⟩, -⟩ := mark_of_mem_spans hs
        have hbefore := List.rel_of_pairwise_cons h ha
        exact fun hinside => absurd hbefore (not_lt.mpr hinside.1.le)
      · exact ih h.of_cons hy hs

/-- Tags of the width of the marks can be taken back. -/
lemma map_put {restore : α → α} (hwidth : D.width = 1)
    (htags : ∀ m, D.isMark m = true → restore opened = m ∧ restore closed = m)
    {xs : List (α × ℕ)} (hxs : ∀ x ∈ xs, restore x.1 = x.1) :
    (D.put opened closed xs).map (fun x => (restore x.1, x.2)) = xs := by
  have hkeep : ∀ ys : List (α × ℕ), (∀ y ∈ ys, restore y.1 = y.1) →
      ys.map (fun x => (restore x.1, x.2)) = ys := fun ys hys =>
    (List.map_congr_left fun y hy => by rw [hys y hy]; rfl).trans (List.map_id ys)
  induction xs using D.placed.replace_induction with
  | nil => rfl
  | span opening inner closing rest hspan ih =>
      obtain ⟨⟨a, ms, ho, ha⟩, b, ms', hc, hb⟩ := hspan.exists_place
      have hone : ∀ {x : α × ℕ} {ys zs : List (α × ℕ)}, zs = x :: ys →
          zs.length = D.placed.width → zs = [x] := by
        rintro x ys zs rfl hlength
        have hzero : ys.length = 0 := by
          rw [List.length_cons] at hlength
          exact Nat.succ.inj (hlength.trans hwidth)
        rw [List.length_eq_zero_iff.mp hzero]
      have ho := hone ho hspan.opening_length
      have hc := hone hc hspan.closing_length
      have hinner := hkeep inner fun y hy => hxs y (by simp [hy])
      rw [put_span hspan, List.map_cons, List.map_append, List.map_cons, hinner,
        ih fun y hy => hxs y (List.mem_append_right _ hy)]
      dsimp only
      rw [(htags a ha).1, (htags b hb).2]
      have hwhole : [(a, place opening)] ++ inner ++ [(b, place closing)] ++ rest =
          opening ++ inner ++ closing ++ rest := by rw [← ho, ← hc]
      rw [← hwhole]
      simp only [List.append_assoc, List.cons_append, List.nil_append]
  | cons x xs hnone ih =>
      rw [put_cons hnone, List.map_cons, hxs x List.mem_cons_self,
        ih fun y hy => hxs y (List.mem_cons_of_mem x hy)]

end Places

/-! ### Spellings with places -/

namespace Spells

variable {D' : Delimiter γ}

/-- Places do not matter to the spelling. -/
lemma placed {spell : α → List γ} (h : Spells D D' spell) :
    Spells D.placed D' fun x => spell x.1 where
  width := h.width
  mark a := h.mark a.1
  isBreak a := h.isBreak a.1
  inner a := h.inner a.1

section Map

variable {f : α → γ} (hwidth : D'.width = D.width) (hmark : ∀ a, D'.isMark (f a) = D.isMark a)
  (hbreak : ∀ a, D'.isBreak (f a) = D.isBreak a)

include hwidth hmark hbreak

/-- One symbol for each, with its place. -/
lemma map : Spells D.placed D'.placed fun x => [(f x.1, x.2)] where
  width := hwidth
  mark a ha := ⟨_, rfl, (hmark a.1).trans ha⟩
  isBreak a ha := ⟨_, rfl, (hbreak a.1).trans ha⟩
  inner a ha := by
    refine ⟨List.cons_ne_nil _ _, fun b hb => ?_⟩
    rw [List.mem_singleton.mp hb]
    have hinner : (!D'.isMark (f a.1) && !D'.isBreak (f a.1)) = true := by
      rw [hmark, hbreak]
      exact ha
    exact hinner

omit hwidth hmark hbreak in
lemma place_flatMap (ms : List (α × ℕ)) :
    place (ms.flatMap fun x => [(f x.1, x.2)]) = place ms := by
  cases ms <;> rfl

/-- The spans are at the same places. -/
lemma spans_map (xs : List (α × ℕ)) :
    D'.spans (xs.map fun x => (f x.1, x.2)) = D.spans xs := by
  have hspans : D'.placed.replace (fun _ => []) (fun opening _ closing =>
      [(place opening, place closing)]) (xs.flatMap fun x => [(f x.1, x.2)]) =
        (D.placed.replace (fun _ => []) (fun opening _ closing =>
          [(place opening, place closing)]) xs).flatMap fun s => [s] := by
    refine (map hwidth hmark hbreak).replace_flatMap ?_ ?_ xs
    · exact fun _ => rfl
    · intro opening inner closing _
      rw [List.flatMap_singleton, place_flatMap, place_flatMap]
  rw [← List.map_eq_flatMap, List.flatMap_singleton'] at hspans
  exact hspans

/-- The tags are at the same places. -/
lemma put_map {opened closed : α} (xs : List (α × ℕ)) :
    D'.put (f opened) (f closed) (xs.map fun x => (f x.1, x.2)) =
      (D.put opened closed xs).map fun x => (f x.1, x.2) := by
  have hput : D'.put (f opened) (f closed) (xs.flatMap fun x => [(f x.1, x.2)]) =
      (D.put opened closed xs).flatMap fun x => [(f x.1, x.2)] :=
    (map hwidth hmark hbreak).wrap_flatMap (fun ms => by
      rw [List.flatMap_singleton, place_flatMap]) (fun ms => by
      rw [List.flatMap_singleton, place_flatMap]) xs
  rwa [← List.map_eq_flatMap, ← List.map_eq_flatMap] at hput

end Map

end Spells

end Delimiter

end Delimiters
