import Mathlib.Tactic

/-!
Numbers written with a fixed number of digits, the most significant one first, and the order of
lists from the first difference on.

* `append_lt_iff`, `map_lt_iff`: lists compared part by part, and digit by digit;
* `digits`: the last `n` digits of a number;
* `digits_lt_iff`: **the order of the digits is the order of the numbers**.
-/

namespace Digits

/-- Digits written by different symbols. -/
lemma map_inj_of {α β : Type*} {f : α → β} {l l' : List α} (hf : ∀ a ∈ l, ∀ b ∈ l', f a = f b → a = b)
    (h : l.map f = l'.map f) : l = l' := by
  induction l generalizing l' with
  | nil => exact (List.map_eq_nil_iff.mp h.symm).symm
  | cons a l ih =>
      cases l' with
      | nil => exact absurd h (by simp)
      | cons b l' =>
          obtain ⟨hhead, htail⟩ := List.cons.inj h
          rw [hf a List.mem_cons_self b List.mem_cons_self hhead,
            ih (fun x hx y hy => hf x (List.mem_cons_of_mem _ hx) y (List.mem_cons_of_mem _ hy))
              htail]

section Order

variable {α β : Type*} [LT α] [LT β]

/-- Lists that begin with parts of one length are compared by these parts first. -/
theorem append_lt_iff {l l' m m' : List α} (hlen : l.length = l'.length) :
    l ++ m < l' ++ m' ↔ l < l' ∨ (l = l' ∧ m < m') := by
  induction l generalizing l' with
  | nil =>
      obtain rfl : l' = [] := List.length_eq_zero_iff.mp hlen.symm
      simp
  | cons a l ih =>
      cases l' with
      | nil => exact absurd hlen (by simp)
      | cons a' l' =>
          have hlen' : l.length = l'.length := Nat.succ.inj hlen
          rw [List.cons_append, List.cons_append, List.cons_lt_cons_iff, List.cons_lt_cons_iff,
            ih hlen', List.cons.injEq]
          tauto

/-- Digits written by symbols in their order. -/
theorem map_lt_iff {f : α → β} {l l' : List α}
    (hf : ∀ a ∈ l, ∀ b ∈ l', (f a < f b ↔ a < b) ∧ (f a = f b ↔ a = b)) :
    l.map f < l'.map f ↔ l < l' := by
  induction l generalizing l' with
  | nil =>
      cases l' with
      | nil => simp
      | cons b l' => simp
  | cons a l ih =>
      cases l' with
      | nil => simp
      | cons b l' =>
          obtain ⟨hlt, heq⟩ := hf a List.mem_cons_self b List.mem_cons_self
          rw [List.map_cons, List.map_cons, List.cons_lt_cons_iff, List.cons_lt_cons_iff, hlt, heq,
            ih fun x hx y hy => hf x (List.mem_cons_of_mem _ hx) y (List.mem_cons_of_mem _ hy)]

end Order

/-! ### Digits -/

/-- The last `n` digits of a number in base `b`. -/
def digits (b : ℕ) : ℕ → ℕ → List ℕ
  | 0, _ => []
  | n + 1, v => digits b n (v / b) ++ [v % b]

variable {b : ℕ}

@[simp] lemma length_digits (n v : ℕ) : (digits b n v).length = n := by
  induction n generalizing v with
  | zero => rfl
  | succ n ih => rw [digits, List.length_append, ih, List.length_singleton]

lemma lt_of_mem_digits (hb : 0 < b) {n v d : ℕ} (h : d ∈ digits b n v) : d < b := by
  induction n generalizing v with
  | zero => exact absurd h List.not_mem_nil
  | succ n ih =>
      rcases List.mem_append.mp h with hinit | hlast
      · exact ih hinit
      · rw [List.mem_singleton.mp hlast]
        exact Nat.mod_lt _ hb

/-- The digits from the powers of the base. -/
lemma digits_eq_map_range (n v : ℕ) :
    digits b n v = (List.range n).map fun i => v / b ^ (n - 1 - i) % b := by
  induction n generalizing v with
  | zero => rfl
  | succ n ih =>
      rw [digits, ih, List.range_succ, List.map_append, List.map_singleton]
      have hlast : v / b ^ (n + 1 - 1 - n) = v := by simp
      rw [hlast]
      congr 1
      refine List.map_congr_left fun i hi => ?_
      have hi : i < n := List.mem_range.mp hi
      have hpow : n + 1 - 1 - i = n - 1 - i + 1 := by omega
      rw [hpow, pow_succ', Nat.div_div_eq_div_mul]

lemma digits_injective {n v v' : ℕ} (hv : v < b ^ n) (hv' : v' < b ^ n)
    (h : digits b n v = digits b n v') : v = v' := by
  induction n generalizing v v' with
  | zero => rw [pow_zero] at hv hv'; omega
  | succ n ih =>
      rw [digits, digits] at h
      obtain ⟨hinit, hlast⟩ := List.append_inj' h rfl
      rw [pow_succ] at hv hv'
      have hdiv : v / b = v' / b :=
        ih (Nat.div_lt_of_lt_mul (by rwa [mul_comm]))
          (Nat.div_lt_of_lt_mul (by rwa [mul_comm])) hinit
      have hmod : v % b = v' % b := List.singleton_inj.mp hlast
      rw [← Nat.div_add_mod v b, ← Nat.div_add_mod v' b, hdiv, hmod]

/-- **The order of digits**: numbers written with as many digits are in the order of their digits,
from the first difference on. -/
theorem digits_lt_iff {n v v' : ℕ} (hv : v < b ^ n) (hv' : v' < b ^ n) :
    digits b n v < digits b n v' ↔ v < v' := by
  induction n generalizing v v' with
  | zero =>
      rw [pow_zero] at hv hv'
      simp [digits]
      omega
  | succ n ih =>
      rw [pow_succ] at hv hv'
      have hdiv : v / b < b ^ n := Nat.div_lt_of_lt_mul (by rwa [mul_comm])
      have hdiv' : v' / b < b ^ n := Nat.div_lt_of_lt_mul (by rwa [mul_comm])
      have hinj : digits b n (v / b) = digits b n (v' / b) ↔ v / b = v' / b :=
        ⟨digits_injective hdiv hdiv', fun h => by rw [h]⟩
      rw [digits, digits, append_lt_iff (by simp), ih hdiv hdiv', hinj, List.cons_lt_cons_iff]
      have hb : 0 < b := by
        rcases Nat.eq_zero_or_pos b with rfl | hb
        · omega
        · exact hb
      have hsplit := Nat.div_add_mod v b
      have hsplit' := Nat.div_add_mod v' b
      have hmod := Nat.mod_lt v hb
      have hmod' := Nat.mod_lt v' hb
      constructor
      · rintro (hlt | ⟨heq, hlt | ⟨-, hnil⟩⟩)
        · have hstep : b * (v / b) + b ≤ b * (v' / b) := by
            rw [← Nat.mul_succ]
            exact Nat.mul_le_mul_left b hlt
          omega
        · rw [heq] at hsplit
          omega
        · exact absurd hnil (by simp)
      · intro hlt
        rcases Nat.lt_or_ge (v / b) (v' / b) with hdlt | hdge
        · exact .inl hdlt
        · have heq : v / b = v' / b := le_antisymm (Nat.div_le_div_right hlt.le) hdge
          rw [heq] at hsplit
          exact .inr ⟨heq, .inl (by omega)⟩

end Digits
