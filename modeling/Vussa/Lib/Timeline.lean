import Mathlib.Tactic
import Mathlib.Data.List.Sort
import Mathlib.Data.List.Nodup

/-!
Timelines: lists of items carrying a key in a linear order, and their newest items.

A list is *keyed* if no two of its items share a key. `chron` is the list in the order of its
keys and `newest k` the last `k` items of it, oldest first.

* `Chron.ext`: a chronological list is determined by its items;
* `mem_newest`: an item is among the `k` newest iff fewer than `k` items are newer;
* `reverse_take_eq_newest`: the newest items read from the other end, as a query with a
  descending order, a limit and a final reversal returns them;
* `newest_eq_of_upper`: a part that misses only older items has the same newest items as the
  whole, as long as it has enough of them;
* `exists_newest_cut`: cutting one item too many off the newest end of a page loses it;
* `Upper`, `Upper.write`: parts that miss only older keys, and when writing a key into one that
  is cut at a fixed size leaves such a part;
* `Covers`, `Covers.mono`, `Covers.trim`: parts that hold a key or `k` newer ones stay so when they
  grow, and when they lose only keys with `k` newer ones;
* `older_slice_iff`: whether something is older than a page cut out of the chronological list.
-/

namespace Timeline

variable {α κ : Type*} {f : α → κ}

/-- No two items share a key. -/
def Keyed (f : α → κ) (l : List α) : Prop := (l.map f).Nodup

lemma Keyed.filter {l : List α} (h : Keyed f l) (p : α → Bool) : Keyed f (l.filter p) :=
  h.sublist (List.filter_sublist.map f)

lemma Keyed.eq_of_key {l : List α} (h : Keyed f l) {a b : α} (ha : a ∈ l) (hb : b ∈ l)
    (hab : f a = f b) : a = b :=
  List.inj_on_of_nodup_map h ha hb hab

variable [LinearOrder κ] (f)

/-- The items stand in the strict order of their keys. -/
def Chron (l : List α) : Prop := l.Pairwise fun a b => f a < f b

/-- The list in the order of its keys. -/
def chron (l : List α) : List α := l.insertionSort fun a b => f a ≤ f b

/-- The `k` newest items, oldest first. -/
def newest (k : ℕ) (l : List α) : List α := (chron f l).drop (l.length - k)

variable {f}

lemma Chron.keyed {l : List α} (h : Chron f l) : Keyed f l :=
  (List.pairwise_map.mpr h).imp fun hab => ne_of_lt hab

lemma Chron.sublist {l l' : List α} (h : Chron f l) (hs : List.Sublist l' l) : Chron f l' :=
  List.Pairwise.sublist hs h

/-- A chronological list is determined by its items. -/
theorem Chron.ext {l l' : List α} (h : Chron f l) (h' : Chron f l')
    (hmem : ∀ a, a ∈ l ↔ a ∈ l') : l = l' := by
  have : Std.Irrefl fun a b : α => f a < f b := ⟨fun a => lt_irrefl (f a)⟩
  have : Std.Antisymm fun a b : α => f a < f b :=
    ⟨fun a b hab hba => absurd hba (lt_asymm hab)⟩
  exact List.Pairwise.eq_of_mem_iff h h' hmem

/-! ### The chronological list -/

lemma chron_perm (l : List α) : (chron f l).Perm l := List.perm_insertionSort _ l

@[simp] lemma mem_chron {l : List α} {a : α} : a ∈ chron f l ↔ a ∈ l := (chron_perm l).mem_iff

@[simp] lemma length_chron (l : List α) : (chron f l).length = l.length :=
  (chron_perm l).length_eq

lemma chron_sorted (l : List α) : (chron f l).Pairwise fun a b => f a ≤ f b := by
  have : Std.Total fun a b : α => f a ≤ f b := ⟨fun a b => le_total (f a) (f b)⟩
  have : IsTrans α fun a b : α => f a ≤ f b := ⟨fun a b c => le_trans⟩
  exact List.pairwise_insertionSort _ l

lemma chron_chron {l : List α} (h : Keyed f l) : Chron f (chron f l) := by
  have hkey : Keyed f (chron f l) := ((chron_perm l).map f).nodup_iff.mpr h
  have hne : (chron f l).Pairwise fun a b => f a ≠ f b := List.pairwise_map.mp hkey
  exact (chron_sorted l).imp₂ (fun a b h1 h2 => lt_of_le_of_ne h1 h2) hne

/-- A chronological list is its own chronological list. -/
lemma Chron.chron_eq {l : List α} (h : Chron f l) : chron f l = l :=
  (chron_chron h.keyed).ext h fun _ => mem_chron

/-! ### The newest items -/

lemma newest_sublist (k : ℕ) (l : List α) : List.Sublist (newest f k l) (chron f l) :=
  List.drop_sublist _ _

lemma newest_chron {l : List α} (h : Keyed f l) (k : ℕ) : Chron f (newest f k l) :=
  (chron_chron h).sublist (newest_sublist k l)

lemma length_newest (k : ℕ) (l : List α) : (newest f k l).length = min k l.length := by
  rw [newest, List.length_drop, length_chron]
  omega

lemma newest_subset {k : ℕ} {l : List α} {a : α} (h : a ∈ newest f k l) : a ∈ l :=
  mem_chron.mp ((newest_sublist k l).subset h)

/-- A list of at most `k` items is all newest. -/
lemma newest_of_length_le {k : ℕ} {l : List α} (h : l.length ≤ k) : newest f k l = chron f l := by
  rw [newest, Nat.sub_eq_zero_of_le h, List.drop_zero]

/-- In a chronological list the items newer than a given one are exactly those behind it. -/
lemma Chron.filter_newer {p q : List α} {a : α} (h : Chron f (p ++ a :: q)) :
    (p ++ a :: q).filter (fun b => f a < f b) = q := by
  obtain ⟨-, hq, hpq⟩ := List.pairwise_append.mp h
  have hp : p.filter (fun b => f a < f b) = [] :=
    List.filter_eq_nil_iff.mpr fun b hb => by
      simpa using le_of_lt (hpq b hb a List.mem_cons_self)
  have hq' : q.filter (fun b => f a < f b) = q :=
    List.filter_eq_self.mpr fun b hb => by
      simpa using (List.pairwise_cons.mp hq).1 b hb
  rw [List.filter_append, hp, List.filter_cons_of_neg (by simp), hq', List.nil_append]

/-- **Rank**: an item is among the `k` newest iff fewer than `k` items are newer. -/
theorem mem_newest {l : List α} (h : Keyed f l) {k : ℕ} {a : α} :
    a ∈ newest f k l ↔ a ∈ l ∧ (l.filter fun b => f a < f b).length < k := by
  have hchron := chron_chron h
  have hrank : (l.filter fun b => f a < f b).length
      = ((chron f l).filter fun b => f a < f b).length :=
    ((chron_perm l).filter _).length_eq.symm
  by_cases ha : a ∈ l
  · -- split the chronological list at `a`: the items behind it are the newer ones
    obtain ⟨p, q, hpq⟩ := List.append_of_mem ((mem_chron (f := f)).mpr ha)
    have hlen : p.length + (q.length + 1) = l.length := by
      rw [← length_chron (f := f) l, hpq, List.length_append, List.length_cons]
    rw [hpq] at hchron hrank
    rw [hchron.filter_newer] at hrank
    have hsplit : (a ∈ newest f k l) ↔ l.length - k ≤ p.length := by
      rw [newest, hpq]
      refine ⟨?_, ?_⟩
      · intro hmem
        by_contra hlt
        rw [not_le] at hlt
        obtain ⟨j, hj⟩ := Nat.exists_eq_add_of_lt hlt
        rw [hj, show p.length + j + 1 = p.length + (j + 1) from by omega, List.drop_append,
          List.drop_eq_nil_of_le (by omega)] at hmem
        have hmem' : a ∈ q := by
          simp only [List.nil_append, Nat.add_sub_cancel_left, List.drop_succ_cons] at hmem
          exact List.mem_of_mem_drop hmem
        have hlt' := (List.pairwise_cons.mp (List.pairwise_append.mp hchron).2.1).1 a hmem'
        exact lt_irrefl _ hlt'
      · intro hle
        rw [List.drop_append, Nat.sub_eq_zero_of_le hle, List.drop_zero]
        exact List.mem_append_right _ List.mem_cons_self
    rw [hsplit, hrank]
    refine ⟨?_, ?_⟩
    · intro hle; exact ⟨ha, by omega⟩
    · rintro ⟨-, hlt⟩; omega
  · refine ⟨?_, ?_⟩
    · intro hmem; exact absurd (newest_subset hmem) ha
    · intro hmem; exact absurd hmem.1 ha

/-- What is not among the newest items is no newer than any of them. -/
lemma le_of_not_mem_newest {l : List α} {k : ℕ} {a b : α} (ha : a ∈ l) (hnot : a ∉ newest f k l)
    (hb : b ∈ newest f k l) : f a ≤ f b := by
  have hsorted := chron_sorted (f := f) l
  rw [← List.take_append_drop (l.length - k) (chron f l), List.pairwise_append] at hsorted
  have hmem : a ∈ chron f l := mem_chron.mpr ha
  rw [← List.take_append_drop (l.length - k) (chron f l)] at hmem
  exact hsorted.2.2 a ((List.mem_append.mp hmem).resolve_right hnot) b hb

/-- What is not among the newest items is older than all of them. -/
lemma lt_of_not_mem_newest {l : List α} (h : Keyed f l) {k : ℕ} {a b : α} (ha : a ∈ l)
    (hnot : a ∉ newest f k l) (hb : b ∈ newest f k l) : f a < f b := by
  by_contra hle
  rw [not_lt] at hle
  -- otherwise at most as many items are newer than `a` as are newer than `b`
  refine hnot ((mem_newest h).mpr ⟨ha, lt_of_le_of_lt (List.Sublist.length_le ?_)
    ((mem_newest h).mp hb).2⟩)
  exact List.monotone_filter_right l fun m hm =>
    decide_eq_true (lt_of_le_of_lt hle (of_decide_eq_true hm))

/-- The newest of the newest items. -/
lemma newest_newest {l : List α} (h : Keyed f l) {j k : ℕ} (hkj : k ≤ j) :
    newest f k (newest f j l) = newest f k l := by
  rw [newest, (newest_chron h j).chron_eq, length_newest, newest, List.drop_drop, newest]
  congr 1
  omega

/-- The newest items as a query returns them: in descending order, cut at the limit, and then
reversed. -/
theorem reverse_take_eq_newest {l : List α} (h : Keyed f l) (k : ℕ) :
    ((l.insertionSort fun a b => f b ≤ f a).take k).reverse = newest f k l := by
  have hdesc : (l.insertionSort fun a b => f b ≤ f a) = (chron f l).reverse := by
    have hgt : Chron (fun a => OrderDual.toDual (f a)) (l.insertionSort fun a b => f b ≤ f a) :=
      chron_chron (f := fun a => OrderDual.toDual (f a)) h
    have hrev : Chron (fun a => OrderDual.toDual (f a)) (chron f l).reverse :=
      List.pairwise_reverse.mpr (chron_chron h)
    exact hgt.ext hrev fun a => by rw [List.mem_insertionSort, List.mem_reverse, mem_chron]
  rw [hdesc, List.take_reverse, List.reverse_reverse, length_chron, newest]

/-- **Agreement of a suffix**: a part of a timeline that misses only items older than all of its
own has the same `k` newest items as the whole, once it has `k` of them. -/
theorem newest_eq_of_upper {l l' : List α} (h : Keyed f l) (h' : Keyed f l')
    (hsub : ∀ a ∈ l', a ∈ l) (hupper : ∀ a ∈ l, a ∉ l' → ∀ b ∈ l', f a < f b) {k : ℕ}
    (hk : k ≤ l'.length) : newest f k l' = newest f k l := by
  refine (newest_chron h' k).ext (newest_chron h k) fun a => ?_
  rw [mem_newest h', mem_newest h]
  -- above an item of the part, part and whole have the same items
  have hcount : ∀ a ∈ l', (l'.filter fun b => f a < f b).length
      = (l.filter fun b => f a < f b).length := by
    intro a ha
    have hnd := (List.Nodup.of_map f (h'.filter fun b => f a < f b))
    have hnd' := (List.Nodup.of_map f (h.filter fun b => f a < f b))
    refine ((List.perm_ext_iff_of_nodup hnd hnd').mpr fun b => ?_).length_eq
    simp only [List.mem_filter, decide_eq_true_eq]
    refine ⟨?_, ?_⟩
    · exact fun hb => ⟨hsub b hb.1, hb.2⟩
    · rintro ⟨hb, hab⟩
      by_contra hnot
      exact lt_asymm hab (hupper b hb (fun hb' => hnot ⟨hb', hab⟩) a ha)
  refine ⟨?_, ?_⟩
  · rintro ⟨ha, hlt⟩
    exact ⟨hsub a ha, hcount a ha ▸ hlt⟩
  · rintro ⟨ha, hlt⟩
    have ha' : a ∈ l' := by
      by_contra hnot
      have hall : l'.filter (fun b => f a < f b) = l' :=
        List.filter_eq_self.mpr fun b hb => by simpa using hupper a ha hnot b hb
      have hle : (l'.filter fun b => f a < f b).length
          ≤ (l.filter fun b => f a < f b).length := by
        refine List.Subperm.length_le (List.subperm_of_subset
          (List.Nodup.of_map f (h'.filter fun b => f a < f b)) fun b hb => ?_)
        obtain ⟨hb1, hb2⟩ := List.mem_filter.mp hb
        exact List.mem_filter.mpr ⟨hsub b hb1, hb2⟩
      rw [hall] at hle
      omega
    exact ⟨ha', (hcount a ha').symm ▸ hlt⟩

/-! ### Pages -/

/-- Two timelines with the same keys have their newest items at the same places. -/
lemma newest_map {β : Type*} {f' : β → κ} {g : α → β} (hg : ∀ a, f' (g a) = f a) (k : ℕ)
    (l : List α) : newest f' k (l.map g) = (newest f k l).map g := by
  have hchron : chron f' (l.map g) = (chron f l).map g :=
    (List.map_insertionSort _ _ g l fun a _ b _ => by rw [hg, hg]).symm
  rw [newest, newest, hchron, List.length_map, List.map_drop]

/-- The keys of the newest items are the newest keys. -/
lemma newest_keys (k : ℕ) (l : List α) : (newest f k l).map f = newest id k (l.map f) := by
  have hid : ∀ a, id (f a) = f a := fun _ => rfl
  rw [newest_map hid]

/-- One item more than a page, cut at the wrong end: the newest item is lost. -/
lemma exists_newest_cut {l : List α} (h : Keyed f l) {k : ℕ} (hk : 0 < k) (hlen : k < l.length) :
    ∃ a ∈ newest f k l, ∀ b ∈ (newest f (k + 1) l).take k, f b < f a := by
  have hchron := newest_chron h (k + 1)
  have hone : ((newest f (k + 1) l).drop k).length = 1 := by
    rw [List.length_drop, length_newest]
    omega
  obtain ⟨a, ha⟩ := List.length_eq_one_iff.mp hone
  refine ⟨a, ?_, fun b hb => ?_⟩
  · have hmem : a ∈ (newest f (k + 1) l).drop k := ha ▸ List.mem_singleton_self a
    have hshift : l.length - (k + 1) + k = (l.length - k) + (k - 1) := by omega
    rw [newest, List.drop_drop, hshift, ← List.drop_drop] at hmem
    exact List.mem_of_mem_drop hmem
  · rw [← List.take_append_drop k (newest f (k + 1) l), ha] at hchron
    exact (List.pairwise_append.mp hchron).2.2 b hb a (List.mem_singleton_self a)

/-- Something is older than a whole slice of a chronological list iff the slice has items and
does not start at the beginning. -/
theorem older_slice_iff {s : List α} (h : Chron f s) (i j : ℕ) :
    ((s.drop i).take j ≠ [] ∧ ∃ b ∈ s, ∀ a ∈ (s.drop i).take j, f b < f a)
      ↔ 0 < i ∧ i < s.length ∧ 0 < j := by
  refine ⟨?_, ?_⟩
  · rintro ⟨hne, b, hb, hold⟩
    have hlen := List.length_pos_of_ne_nil hne
    rw [List.length_take, List.length_drop] at hlen
    refine ⟨?_, by omega, by omega⟩
    by_contra hzero
    have hzero' : i = 0 := by omega
    subst hzero'
    rw [List.drop_zero] at hold
    -- the first item is the oldest, and it is in the slice
    cases s with
    | nil => exact absurd hb (by simp)
    | cons a s =>
        have hfirst := hold a (List.mem_take_iff_getElem.mpr ⟨0, by simp; omega, rfl⟩)
        rcases List.mem_cons.mp hb with rfl | hb
        · exact lt_irrefl _ hfirst
        · exact lt_asymm hfirst ((List.pairwise_cons.mp h).1 b hb)
  · rintro ⟨hi, hlt, hj⟩
    refine ⟨?_, ?_⟩
    · intro hnil
      have hlen := congrArg List.length hnil
      rw [List.length_take, List.length_drop, List.length_nil] at hlen
      omega
    · have hne : s.take i ≠ [] := by
        intro hnil
        have hlen := congrArg List.length hnil
        rw [List.length_take, List.length_nil] at hlen
        omega
      obtain ⟨b, hb⟩ := List.exists_mem_of_ne_nil _ hne
      refine ⟨b, List.mem_of_mem_take hb, fun a ha => ?_⟩
      rw [← List.take_append_drop i s] at h
      exact (List.pairwise_append.mp h).2.2 b hb a (List.mem_of_mem_take ha)

/-! ### Upper parts -/

/-- The part misses only keys older than all of its own. -/
structure Upper (part whole : List κ) : Prop where
  subset : ∀ e ∈ part, e ∈ whole
  older : ∀ r ∈ whole, r ∉ part → ∀ e ∈ part, r < e

lemma Upper.nil (whole : List κ) : Upper [] whole := ⟨by simp, by simp⟩

/-- Two upper parts together are one. -/
lemma Upper.union {part part' whole both : List κ} (h : Upper part whole)
    (h' : Upper part' whole) (hboth : ∀ e, e ∈ both ↔ e ∈ part ∨ e ∈ part') :
    Upper both whole := by
  refine ⟨?_, ?_⟩
  · intro e he
    rcases (hboth e).mp he with he | he
    · exact h.subset e he
    · exact h'.subset e he
  · intro r hr hnot e he
    rcases (hboth e).mp he with he | he
    · exact h.older r hr (fun hmem => hnot ((hboth r).mpr (Or.inl hmem))) e he
    · exact h'.older r hr (fun hmem => hnot ((hboth r).mpr (Or.inr hmem))) e he

/-- The newest keys of an upper part are one. -/
lemma Upper.newest {part whole : List κ} (h : Upper part whole) (hkeyed : Keyed id part) (k : ℕ) :
    Upper (Timeline.newest id k part) whole := by
  refine ⟨?_, ?_⟩
  · intro e he
    exact h.subset e (newest_subset he)
  · intro r hr hnot e he
    by_cases hpart : r ∈ part
    · exact lt_of_not_mem_newest hkeyed hpart hnot he
    · exact h.older r hr hpart e (newest_subset he)

/-- A key may be written into a part that is cut at `k` keys: it is there already, or `k` keys of
the part are newer, or it belongs to the whole and every key that stays outside is older. -/
def Writable (k : ℕ) (part whole : List κ) (s : κ) : Prop :=
  s ∈ part ∨ k ≤ (part.filter fun e => s < e).length ∨
    (s ∈ whole ∧ ∀ r ∈ whole, r ∉ part → r ≠ s → r < s)

instance (k : ℕ) (part whole : List κ) (s : κ) : Decidable (Writable k part whole s) :=
  inferInstanceAs (Decidable (_ ∨ _ ∨ _))

/-- **Writes to an upper part**: a writable key, written while the whole grows by that key at
most, leaves an upper part. -/
theorem Upper.write {part part' whole whole' : List κ} {s : κ} {k : ℕ} (h : Upper part whole)
    (hkeyed : Keyed id part) (hkeyed' : Keyed id part')
    (hpart : ∀ e, e ∈ part' ↔ e = s ∨ e ∈ part) (hgrow : ∀ r ∈ whole, r ∈ whole')
    (hnew : ∀ r ∈ whole', r ∈ whole ∨ r = s) (hs : Writable k part whole' s) :
    Upper (Timeline.newest id k part') whole' := by
  rcases hs with hs | hs | ⟨hs, hold⟩
  · have hsame : Upper part' whole' := by
      refine ⟨?_, ?_⟩
      · intro e he
        rcases (hpart e).mp he with rfl | he
        · exact hgrow _ (h.subset _ hs)
        · exact hgrow _ (h.subset _ he)
      · intro r hr hnot e he
        have hr' : r ∈ whole := (hnew r hr).resolve_right
          fun heq => hnot ((hpart r).mpr (Or.inl heq))
        have he' : e ∈ part := ((hpart e).mp he).elim (fun heq => heq ▸ hs) fun he => he
        exact h.older r hr' (fun hmem => hnot ((hpart r).mpr (Or.inr hmem))) e he'
    exact hsame.newest hkeyed' k
  · -- the key is cut off at once, so everything that stays is newer
    have hcount : k ≤ (part'.filter fun e => s < e).length := by
      refine le_trans hs (List.Subperm.length_le (List.subperm_of_subset
        (List.Nodup.of_map id (hkeyed.filter fun e => s < e)) fun e he => ?_))
      obtain ⟨he1, he2⟩ := List.mem_filter.mp he
      exact List.mem_filter.mpr ⟨(hpart e).mpr (Or.inr he1), he2⟩
    have hlt : ∀ e ∈ Timeline.newest id k part', s < e := by
      intro e he
      have hs' : s ∈ part' := (hpart s).mpr (Or.inl rfl)
      have hout : s ∉ Timeline.newest id k part' :=
        fun hmem => absurd ((mem_newest hkeyed').mp hmem).2 (not_lt.mpr hcount)
      exact lt_of_not_mem_newest hkeyed' hs' hout he
    have hin : ∀ e ∈ Timeline.newest id k part', e ∈ part := fun e he =>
      ((hpart e).mp (newest_subset he)).resolve_left (ne_of_gt (hlt e he))
    refine ⟨?_, ?_⟩
    · intro e he
      exact hgrow e (h.subset e (hin e he))
    · intro r hr hnot e he
      rcases hnew r hr with hr | rfl
      · by_cases hmem : r ∈ part
        · exact lt_of_not_mem_newest hkeyed' ((hpart r).mpr (Or.inr hmem)) hnot he
        · exact h.older r hr hmem e (hin e he)
      · exact hlt e he
  · have hadd : Upper part' whole' := by
      refine ⟨?_, ?_⟩
      · intro e he
        rcases (hpart e).mp he with rfl | he
        · exact hs
        · exact hgrow e (h.subset e he)
      · intro r hr hnot e he
        have hne : r ≠ s := fun heq => hnot ((hpart r).mpr (Or.inl heq))
        have hout : r ∉ part := fun hmem => hnot ((hpart r).mpr (Or.inr hmem))
        have hr' : r ∈ whole := (hnew r hr).resolve_right hne
        rcases (hpart e).mp he with rfl | he
        · exact hold r hr hout hne
        · exact h.older r hr' hout e he
    exact hadd.newest hkeyed' k

/-! ### Covered keys -/

/-- How many keys are newer. -/
def newer (part : List κ) (s : κ) : ℕ := (part.filter fun e => s < e).length

/-- The part holds the key, or `k` newer ones. -/
def Covers (k : ℕ) (part : List κ) (s : κ) : Prop := s ∈ part ∨ k ≤ newer part s

instance (k : ℕ) (part : List κ) (s : κ) : Decidable (Covers k part s) :=
  inferInstanceAs (Decidable (_ ∨ _))

lemma newer_le_of_subset {part part' : List κ} (h : part.Nodup) (hsub : ∀ e ∈ part, e ∈ part')
    (s : κ) : newer part s ≤ newer part' s := by
  refine (List.subperm_of_subset (h.filter _) fun e he => ?_).length_le
  obtain ⟨he1, he2⟩ := List.mem_filter.mp he
  exact List.mem_filter.mpr ⟨hsub e he1, he2⟩

lemma newer_anti (part : List κ) {s t : κ} (h : s ≤ t) : newer part t ≤ newer part s := by
  refine List.Sublist.length_le (List.monotone_filter_right part fun e he => ?_)
  exact decide_eq_true (lt_of_le_of_lt h (of_decide_eq_true he))

lemma mem_newest_id {part : List κ} (h : part.Nodup) {k : ℕ} {s : κ} :
    s ∈ newest id k part ↔ s ∈ part ∧ newer part s < k :=
  mem_newest (f := id) (by rwa [Keyed, List.map_id])

/-- Among the `k` newest keys are only keys newer than one that has `k` newer ones. -/
lemma lt_of_mem_newest {part : List κ} (h : part.Nodup) {k : ℕ} {s e : κ} (hs : k ≤ newer part s)
    (he : e ∈ newest id k part) : s < e := by
  by_contra hle
  have hanti := newer_anti part (not_lt.mp hle)
  have hlt := ((mem_newest_id h).mp he).2
  omega

/-- A grown part. -/
theorem Covers.mono {k : ℕ} {part part' : List κ} {s : κ} (h : Covers k part s)
    (hpart : part.Nodup) (hsub : ∀ e ∈ part, e ∈ part') : Covers k part' s := by
  rcases h with h | h
  · exact Or.inl (hsub s h)
  · exact Or.inr (le_trans h (newer_le_of_subset hpart hsub s))

/-- A part that keeps the `k` newest keys keeps `k` newer ones. -/
lemma le_newer_of_newest {k : ℕ} {part part' : List κ} {s : κ} (h : k ≤ newer part s)
    (hpart : part.Nodup) (hkeep : ∀ e ∈ newest id k part, e ∈ part') : k ≤ newer part' s := by
  have hlen : k ≤ part.length := le_trans h (List.length_filter_le _ _)
  have hnodup : (newest id k part).Nodup :=
    ((chron_perm part).nodup_iff.mpr hpart).sublist (newest_sublist k part)
  calc k = (newest id k part).length := by rw [length_newest]; omega
    _ ≤ newer part' s := by
      refine (List.subperm_of_subset hnodup fun e he => ?_).length_le
      exact List.mem_filter.mpr ⟨hkeep e he, decide_eq_true (lt_of_mem_newest hpart h he)⟩

/-- **Trimming**: a part that loses only keys with `k` newer ones still covers what it covered. -/
theorem Covers.trim {k : ℕ} {part part' : List κ} {s : κ} (h : Covers k part s)
    (hpart : part.Nodup) (hkeep : ∀ e ∈ newest id k part, e ∈ part') : Covers k part' s := by
  rcases h with h | h
  · by_cases hnew : s ∈ newest id k part
    · exact Or.inl (hkeep s hnew)
    · rw [mem_newest_id hpart, not_and, not_lt] at hnew
      exact Or.inr (le_newer_of_newest (hnew h) hpart hkeep)
  · exact Or.inr (le_newer_of_newest h hpart hkeep)

/-- A covered key is among the `k` newest ones or older than all of them. -/
theorem Covers.newest {k : ℕ} {part : List κ} {s : κ} (h : Covers k part s) (hpart : part.Nodup) :
    s ∈ Timeline.newest id k part ∨ ∀ e ∈ Timeline.newest id k part, s < e := by
  rcases h with h | h
  · by_cases hnew : s ∈ Timeline.newest id k part
    · exact Or.inl hnew
    · rw [mem_newest_id hpart, not_and, not_lt] at hnew
      exact Or.inr fun e he => lt_of_mem_newest hpart (hnew h) he
  · exact Or.inr fun e he => lt_of_mem_newest hpart h he

end Timeline
