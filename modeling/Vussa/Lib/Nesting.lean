import Mathlib.Data.List.Basic
import Mathlib.Data.Set.Basic
import Mathlib.Tactic

/-!
Brackets of several kinds, and intervals that they open and close.

* `run`, `Nested`: brackets are read with a stack of those that are open;
* `nested_map`, `run_pair`: brackets under other names, and a pair with nothing inside;
* `Interval`, `Crosses`, `Brackets`: intervals, by the brackets at their ends;
* `nested_iff`: **brackets of intervals are nested exactly when no two intervals cross**.
-/

namespace Nesting

variable {κ κ' : Type*}

section Stack

variable [DecidableEq κ] [DecidableEq κ']

/-- Brackets, by whether they close, are read with those that are open. -/
def run : List κ → List (Bool × κ) → Option (List κ)
  | stack, [] => some stack
  | stack, (false, k) :: w => run (k :: stack) w
  | [], (true, _) :: _ => none
  | k' :: stack, (true, k) :: w => if k' = k then run stack w else none

/-- Every bracket is closed, and the last one first. -/
def Nested (w : List (Bool × κ)) : Prop := run [] w = some []

instance (w : List (Bool × κ)) : Decidable (Nested w) := inferInstanceAs (Decidable (_ = _))

/-- Kinds may have other names. -/
lemma run_map {f : κ → κ'} (hf : Function.Injective f) (stack : List κ) (w : List (Bool × κ)) :
    run (stack.map f) (w.map fun b => (b.1, f b.2)) = (run stack w).map (List.map f) := by
  induction w generalizing stack with
  | nil => rw [List.map_nil, run, run, Option.map_some]
  | cons b w ih =>
      obtain ⟨closing, k⟩ := b
      cases closing with
      | false =>
          rw [List.map_cons, run, run]
          exact ih (k :: stack)
      | true =>
          cases stack with
          | nil => rfl
          | cons k' stack =>
              rw [List.map_cons, List.map_cons, run, run]
              by_cases hk : k' = k
              · rw [if_pos hk, if_pos (congrArg f hk)]
                exact ih stack
              · rw [if_neg hk, if_neg fun heq => hk (hf heq)]
                rfl

lemma nested_map {f : κ → κ'} (hf : Function.Injective f) (w : List (Bool × κ)) :
    Nested (w.map fun b => (b.1, f b.2)) ↔ Nested w := by
  have hrun := run_map hf [] w
  rw [List.map_nil] at hrun
  rw [Nested, Nested, hrun, Option.map_eq_some_iff]
  constructor
  · rintro ⟨stack, hstack, hnil⟩
    rw [hstack, List.map_eq_nil_iff.mp hnil]
  · exact fun h => ⟨[], h, rfl⟩

lemma run_cons_congr {w w' : List (Bool × κ)} (h : ∀ stack, run stack w = run stack w')
    (b : Bool × κ) (stack : List κ) : run stack (b :: w) = run stack (b :: w') := by
  obtain ⟨closing, k⟩ := b
  cases closing with
  | false => exact h (k :: stack)
  | true =>
      cases stack with
      | nil => rfl
      | cons k' stack => rw [run, run, h stack]

/-- What is opened and closed at once may be left out. -/
lemma run_pair (stack : List κ) (k : κ) (w : List (Bool × κ)) :
    run stack ((false, k) :: (true, k) :: w) = run stack w := by
  rw [run, run, if_pos rfl]

end Stack

/-! ### Intervals -/

/-- An interval of some kind. -/
structure Interval (κ : Type*) where
  kind : κ
  start : ℕ
  stop : ℕ
  lt : start < stop

/-- One interval begins inside another and ends after it. -/
def Crosses (a b : Interval κ) : Prop :=
  a.start < b.start ∧ b.start < a.stop ∧ a.stop < b.stop

/-- The brackets at the ends of intervals, in their order. Ends are not shared, and intervals of
one kind do not meet. -/
structure Brackets (I : Set (Interval κ)) (w : List (ℕ × Bool × κ)) : Prop where
  sorted : w.Pairwise fun x y => x.1 < y.1
  opening : ∀ p k, (p, false, k) ∈ w ↔ ∃ a ∈ I, a.kind = k ∧ a.start = p
  closing : ∀ p k, (p, true, k) ∈ w ↔ ∃ a ∈ I, a.kind = k ∧ a.stop = p
  disjoint : ∀ a ∈ I, ∀ b ∈ I, a.kind = b.kind → a = b ∨ a.stop < b.start ∨ b.stop < a.start

/-- The places of a sorted list tell its elements apart. -/
lemma eq_of_fst_eq {α : Type*} {w : List (ℕ × α)} (h : w.Pairwise fun x y => x.1 < y.1)
    {x y : ℕ × α} (hx : x ∈ w) (hy : y ∈ w) (heq : x.1 = y.1) : x = y := by
  have hlt : w.Pairwise fun x y => x.1 = y.1 → x = y :=
    h.imp fun hlt heq => absurd heq (Nat.ne_of_lt hlt)
  have hgt : w.Pairwise (flip fun x y => x.1 = y.1 → x = y) :=
    h.imp fun hlt heq => absurd heq.symm (Nat.ne_of_lt hlt)
  exact hlt.forall_of_forall_of_flip (fun _ _ _ => rfl) hgt hx hy heq

namespace Brackets

variable {I : Set (Interval κ)} {w : List (ℕ × Bool × κ)} (h : Brackets I w)

include h

/-- No interval ends where one begins. -/
lemma stop_ne_start {a b : Interval κ} (ha : a ∈ I) (hb : b ∈ I) : a.stop ≠ b.start := by
  intro heq
  have hstop := (h.closing a.stop a.kind).mpr ⟨a, ha, rfl, rfl⟩
  have hstart := (h.opening b.start b.kind).mpr ⟨b, hb, rfl, rfl⟩
  exact absurd (eq_of_fst_eq h.sorted hstop hstart heq) (by simp)

/-- Intervals of one kind that share an end are the same. -/
lemma eq_of_kind_eq {a b : Interval κ} (ha : a ∈ I) (hb : b ∈ I) (hkind : a.kind = b.kind)
    (heq : a.start = b.start ∨ a.stop = b.stop) : a = b := by
  have hlt := a.lt
  have hlt' := b.lt
  rcases h.disjoint a ha b hb hkind with hab | hab | hab
  · exact hab
  · omega
  · omega

lemma eq_of_start_eq {a b : Interval κ} (ha : a ∈ I) (hb : b ∈ I) (heq : a.start = b.start) :
    a = b := by
  have hstart := (h.opening a.start a.kind).mpr ⟨a, ha, rfl, rfl⟩
  have hstart' := (h.opening b.start b.kind).mpr ⟨b, hb, rfl, rfl⟩
  have hpair := eq_of_fst_eq h.sorted hstart hstart' heq
  simp only [Prod.mk.injEq] at hpair
  exact h.eq_of_kind_eq ha hb hpair.2.2 (.inl heq)

lemma eq_of_stop_eq {a b : Interval κ} (ha : a ∈ I) (hb : b ∈ I) (heq : a.stop = b.stop) :
    a = b := by
  have hstop := (h.closing a.stop a.kind).mpr ⟨a, ha, rfl, rfl⟩
  have hstop' := (h.closing b.stop b.kind).mpr ⟨b, hb, rfl, rfl⟩
  have hpair := eq_of_fst_eq h.sorted hstop hstop' heq
  simp only [Prod.mk.injEq] at hpair
  exact h.eq_of_kind_eq ha hb hpair.2.2 (.inr heq)

end Brackets

/-- The brackets from a place on, and the intervals that are open there, the last one first. -/
structure Reading (I : Set (Interval κ)) (w : List (ℕ × Bool × κ)) (q : ℕ)
    (rest : List (ℕ × Bool × κ)) (stack : List (Interval κ)) : Prop where
  brackets : Brackets I w
  rest_sorted : rest.Pairwise fun x y => x.1 < y.1
  mem_rest : ∀ x, x ∈ rest ↔ x ∈ w ∧ q ≤ x.1
  stack_sorted : stack.Pairwise fun a b => b.start < a.start
  mem_stack : ∀ a, a ∈ stack ↔ a ∈ I ∧ a.start < q ∧ q ≤ a.stop

namespace Reading

variable {I : Set (Interval κ)} {w rest : List (ℕ × Bool × κ)} {q : ℕ} {x : ℕ × Bool × κ}
  {stack : List (Interval κ)}

lemma start (h : Brackets I w) : Reading I w 0 w [] where
  brackets := h
  rest_sorted := h.sorted
  mem_rest _ := ⟨fun hx => ⟨hx, Nat.zero_le _⟩, fun hx => hx.1⟩
  stack_sorted := List.Pairwise.nil
  mem_stack _ := ⟨fun ha => absurd ha List.not_mem_nil, fun ha => absurd ha.2.1 (Nat.not_lt_zero _)⟩

/-- At the end no interval is open. -/
lemma stop_lt (h : Reading I w q [] stack) {a : Interval κ} (ha : a ∈ I) : a.stop < q := by
  by_contra hq
  have hclosing := (h.brackets.closing a.stop a.kind).mpr ⟨a, ha, rfl, rfl⟩
  exact absurd ((h.mem_rest _).mpr ⟨hclosing, not_lt.mp hq⟩) List.not_mem_nil

lemma stack_eq_nil (h : Reading I w q [] stack) : stack = [] := by
  refine List.eq_nil_iff_forall_not_mem.mpr fun a ha => ?_
  obtain ⟨haI, -, hq⟩ := (h.mem_stack a).mp ha
  exact absurd (h.stop_lt haI) (not_lt.mpr hq)

section Step

variable (h : Reading I w q (x :: rest) stack)

include h

lemma le_fst : q ≤ x.1 := ((h.mem_rest x).mp List.mem_cons_self).2

/-- No bracket lies before the first one that is left. -/
lemma fst_le {y : ℕ × Bool × κ} (hy : y ∈ w) (hq : q ≤ y.1) : x.1 ≤ y.1 := by
  rcases List.mem_cons.mp ((h.mem_rest y).mpr ⟨hy, hq⟩) with rfl | hmem
  · exact le_rfl
  · exact (List.rel_of_pairwise_cons h.rest_sorted hmem).le

lemma start_lt {a : Interval κ} (ha : a ∈ I) (hlt : a.start < x.1) : a.start < q := by
  by_contra hq
  have hopening := (h.brackets.opening a.start a.kind).mpr ⟨a, ha, rfl, rfl⟩
  exact absurd hlt (not_lt.mpr (h.fst_le hopening (not_lt.mp hq)))

lemma le_stop {a : Interval κ} (ha : a ∈ I) (hq : q ≤ a.stop) : x.1 ≤ a.stop :=
  h.fst_le ((h.brackets.closing a.stop a.kind).mpr ⟨a, ha, rfl, rfl⟩) hq

lemma mem_tail (y : ℕ × Bool × κ) : y ∈ rest ↔ y ∈ w ∧ x.1 + 1 ≤ y.1 := by
  constructor
  · intro hy
    exact ⟨((h.mem_rest y).mp (List.mem_cons_of_mem x hy)).1,
      List.rel_of_pairwise_cons h.rest_sorted hy⟩
  · rintro ⟨hy, hlt⟩
    have hq := h.le_fst
    rcases List.mem_cons.mp ((h.mem_rest y).mpr ⟨hy, by omega⟩) with rfl | hmem
    · omega
    · exact hmem

end Step

/-- An opening bracket. -/
lemma push {a : Interval κ} (h : Reading I w q ((a.start, false, a.kind) :: rest) stack)
    (ha : a ∈ I) : Reading I w (a.start + 1) rest (a :: stack) where
  brackets := h.brackets
  rest_sorted := h.rest_sorted.of_cons
  mem_rest := h.mem_tail
  stack_sorted := by
    refine List.pairwise_cons.mpr ⟨fun b hb => ?_, h.stack_sorted⟩
    exact lt_of_lt_of_le ((h.mem_stack b).mp hb).2.1 h.le_fst
  mem_stack b := by
    have hlt := a.lt
    rw [List.mem_cons, h.mem_stack]
    constructor
    · rintro (rfl | ⟨hb, hbq, hqb⟩)
      · exact ⟨ha, by omega, by omega⟩
      · have hne := h.brackets.stop_ne_start hb ha
        have hq : q ≤ a.start := h.le_fst
        have hp : a.start ≤ b.stop := h.le_stop hb hqb
        exact ⟨hb, by omega, by omega⟩
    · rintro ⟨hb, hbp, hpb⟩
      have hq : q ≤ a.start := h.le_fst
      by_cases heq : b.start = a.start
      · exact .inl (h.brackets.eq_of_start_eq hb ha heq)
      · have hbefore : b.start < a.start := by omega
        exact .inr ⟨hb, h.start_lt hb hbefore, by omega⟩

/-- A closing bracket of the interval that was opened last. -/
lemma pop {a : Interval κ} (h : Reading I w q ((a.stop, true, a.kind) :: rest) (a :: stack)) :
    Reading I w (a.stop + 1) rest stack where
  brackets := h.brackets
  rest_sorted := h.rest_sorted.of_cons
  mem_rest := h.mem_tail
  stack_sorted := h.stack_sorted.of_cons
  mem_stack b := by
    obtain ⟨ha, -, hq⟩ := (h.mem_stack a).mp List.mem_cons_self
    constructor
    · intro hb
      have hbelow := List.rel_of_pairwise_cons h.stack_sorted hb
      obtain ⟨hbI, hbq, hqb⟩ := (h.mem_stack b).mp (List.mem_cons_of_mem a hb)
      have hp : a.stop ≤ b.stop := h.le_stop hbI hqb
      refine ⟨hbI, by omega, ?_⟩
      by_contra hle
      rw [h.brackets.eq_of_stop_eq hbI ha (by omega)] at hbelow
      exact absurd hbelow (lt_irrefl _)
    · rintro ⟨hbI, hbp, hpb⟩
      have hne := h.brackets.stop_ne_start ha hbI
      have hbefore : b.start < a.stop := by omega
      have hb := (h.mem_stack b).mpr ⟨hbI, h.start_lt hbI hbefore, by omega⟩
      rcases List.mem_cons.mp hb with rfl | hb
      · omega
      · exact hb

/-- The interval that was opened last crosses no other one. -/
lemma not_crosses {a b : Interval κ}
    (h : Reading I w q ((a.stop, true, a.kind) :: rest) (a :: stack)) (hb : b ∈ I) :
    ¬ Crosses a b := by
  rintro ⟨hstarts, hinside, hends⟩
  have hq : q ≤ a.stop := h.le_fst
  have hopen := (h.mem_stack b).mpr ⟨hb, h.start_lt hb hinside, by omega⟩
  rcases List.mem_cons.mp hopen with rfl | hopen
  · exact absurd hstarts (lt_irrefl _)
  · exact absurd (List.rel_of_pairwise_cons h.stack_sorted hopen) (not_lt.mpr hstarts.le)

/-- An interval that ends while another one was opened last is crossed by it, and of another
kind. -/
lemma crosses {a b : Interval κ} (h : Reading I w q ((a.stop, true, a.kind) :: rest) (b :: stack))
    (ha : a ∈ stack) : Crosses a b ∧ b.kind ≠ a.kind := by
  have hbelow := List.rel_of_pairwise_cons h.stack_sorted ha
  obtain ⟨hb, hbq, hqb⟩ := (h.mem_stack b).mp List.mem_cons_self
  obtain ⟨haI, -, hqa⟩ := (h.mem_stack a).mp (List.mem_cons_of_mem b ha)
  have hne : b.stop ≠ a.stop := by
    intro heq
    rw [h.brackets.eq_of_stop_eq hb haI heq] at hbelow
    exact lt_irrefl _ hbelow
  have hp : a.stop ≤ b.stop := h.le_stop hb hqb
  refine ⟨⟨hbelow, by omega, by omega⟩, fun hkind => ?_⟩
  have hlt := b.lt
  rcases h.brackets.disjoint a haI b hb hkind.symm with hab | hab | hab
  · exact hne (congrArg Interval.stop hab.symm)
  · omega
  · omega

/-- The brackets that are left are read if and only if no interval that ends among them crosses
another one. -/
lemma run_iff [DecidableEq κ] (h : Reading I w q rest stack) :
    run (stack.map Interval.kind) (rest.map Prod.snd) = some [] ↔
      ∀ a ∈ I, ∀ b ∈ I, q ≤ a.stop → ¬ Crosses a b := by
  induction rest generalizing q stack with
  | nil =>
      rw [h.stack_eq_nil]
      exact ⟨fun _ a ha b _ hq => absurd (h.stop_lt ha) (not_lt.mpr hq), fun _ => rfl⟩
  | cons x rest ih =>
      obtain ⟨p, closing, k⟩ := x
      have hxw := ((h.mem_rest _).mp List.mem_cons_self).1
      have hqp : q ≤ p := h.le_fst
      cases closing with
      | false =>
          obtain ⟨a, ha, rfl, rfl⟩ := (h.brackets.opening p k).mp hxw
          rw [List.map_cons, run, ← List.map_cons, ih (h.push ha)]
          refine forall₄_congr fun b hb c _ => ?_
          have hne := h.brackets.stop_ne_start hb ha
          have hiff : a.start + 1 ≤ b.stop ↔ q ≤ b.stop :=
            ⟨fun hle => by omega, fun hq => by
              have hp : a.start ≤ b.stop := h.le_stop hb hq
              omega⟩
          rw [hiff]
      | true =>
          obtain ⟨a, ha, rfl, rfl⟩ := (h.brackets.closing p k).mp hxw
          have hmem := (h.mem_stack a).mpr ⟨ha, h.start_lt ha a.lt, hqp⟩
          cases stack with
          | nil => exact absurd hmem List.not_mem_nil
          | cons b stack =>
              rw [List.map_cons, List.map_cons, run]
              rcases List.mem_cons.mp hmem with rfl | hbelow
              · rw [if_pos rfl, ih h.pop]
                refine forall₄_congr fun c hc d hd => ?_
                by_cases hca : c = a
                · rw [hca]
                  exact ⟨fun _ _ => h.not_crosses hd, fun _ _ => h.not_crosses hd⟩
                · have hne : c.stop ≠ a.stop := fun heq =>
                    hca (h.brackets.eq_of_stop_eq hc ha heq)
                  have hiff : a.stop + 1 ≤ c.stop ↔ q ≤ c.stop :=
                    ⟨fun hle => by omega, fun hq => by
                      have hp : a.stop ≤ c.stop := h.le_stop hc hq
                      omega⟩
                  rw [hiff]
              · obtain ⟨hcross, hkind⟩ := h.crosses hbelow
                have hb := ((h.mem_stack b).mp List.mem_cons_self).1
                rw [if_neg hkind]
                exact ⟨fun hnone => absurd hnone (by simp), fun hall =>
                  absurd hcross (hall a ha b hb hqp)⟩

end Reading

/-- **Nested brackets are those of intervals that do not cross.** -/
theorem Brackets.nested_iff [DecidableEq κ] {I : Set (Interval κ)} {w : List (ℕ × Bool × κ)}
    (h : Brackets I w) : Nested (w.map Prod.snd) ↔ ∀ a ∈ I, ∀ b ∈ I, ¬ Crosses a b := by
  have hrun := (Reading.start h).run_iff
  rw [List.map_nil] at hrun
  rw [Nested, hrun]
  exact forall₄_congr fun a _ b _ => ⟨fun hab => hab (Nat.zero_le _), fun hab _ => hab⟩

end Nesting
