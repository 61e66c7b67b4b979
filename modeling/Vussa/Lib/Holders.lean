import Mathlib.Data.List.Basic

/-!
A flag per key that several holders share: it is raised when a holder takes its key and lowered when
one gives it back, whoever else holds it.

* `Holds`, `OthersHold`: some holder has a key, and one beside the `i`-th has;
* `Mirrors`: a flag is raised exactly for the keys that are held;
* `Mirrors.take`, `Mirrors.giveBack_iff`, `Mirrors.abandon_iff`, `Mirrors.lower_iff`: which changes
  of the flags and the holders keep the mirror.
-/

namespace Holders

variable {α κ : Type*} {held : α → Option κ} {xs : List α} {i : ℕ} {x y : α} {k : κ}

/-- Some holder has the key. -/
def Holds (held : α → Option κ) (xs : List α) (k : κ) : Prop := ∃ x ∈ xs, held x = some k

/-- Some holder beside the `i`-th has the key. -/
def OthersHold (held : α → Option κ) (xs : List α) (i : ℕ) (k : κ) : Prop :=
  Holds held (xs.eraseIdx i) k

instance [DecidableEq κ] (held : α → Option κ) (xs : List α) (k : κ) :
    Decidable (Holds held xs k) := inferInstanceAs (Decidable (∃ x ∈ xs, held x = some k))

instance [DecidableEq κ] (held : α → Option κ) (xs : List α) (i : ℕ) (k : κ) :
    Decidable (OthersHold held xs i k) := inferInstanceAs (Decidable (Holds held _ k))

lemma not_holds_nil : ¬ Holds held [] k := fun ⟨_, hx, _⟩ => absurd hx List.not_mem_nil

/-- A key is held by the `i`-th holder or by another one. -/
lemma holds_iff (hx : xs[i]? = some x) :
    Holds held xs k ↔ held x = some k ∨ OthersHold held xs i k := by
  constructor
  · rintro ⟨z, hz, hk⟩
    obtain ⟨j, hj⟩ := List.mem_iff_getElem?.mp hz
    rcases eq_or_ne j i with rfl | hji
    · rw [hx] at hj
      cases hj
      exact Or.inl hk
    · exact Or.inr ⟨z, List.mem_eraseIdx_iff_getElem?.mpr ⟨j, hji, hj⟩, hk⟩
  · rintro (hk | ⟨z, hz, hk⟩)
    · exact ⟨x, List.mem_of_getElem? hx, hk⟩
    · exact ⟨z, List.mem_of_mem_eraseIdx hz, hk⟩

lemma getElem?_set_of_some (hx : xs[i]? = some x) (y : α) : (xs.set i y)[i]? = some y := by
  obtain ⟨hi, -⟩ := List.getElem?_eq_some_iff.mp hx
  exact List.getElem?_set_self hi

lemma othersHold_set (y : α) : OthersHold held (xs.set i y) i k ↔ OthersHold held xs i k := by
  rw [OthersHold, OthersHold, List.eraseIdx_set_eq]

/-- The keys held after the `i`-th holder has changed. -/
lemma holds_set (hx : xs[i]? = some x) (y : α) :
    Holds held (xs.set i y) k ↔ held y = some k ∨ OthersHold held xs i k := by
  rw [holds_iff (getElem?_set_of_some hx y), othersHold_set]

/-- The flags are raised exactly for the keys that are held. -/
def Mirrors (held : α → Option κ) (flag : κ → Prop) (xs : List α) : Prop :=
  ∀ k, flag k ↔ Holds held xs k

variable {flag flag' : κ → Prop}

lemma mirrors_nil (h : ∀ k, ¬ flag k) : Mirrors held flag [] :=
  fun k => iff_of_false (h k) not_holds_nil

/-- A new holder has no key. -/
lemma Mirrors.append (h : Mirrors held flag xs) (hx : held x = none) :
    Mirrors held flag (xs ++ [x]) := by
  intro k
  rw [h k]
  constructor
  · rintro ⟨z, hz, hk⟩
    exact ⟨z, List.mem_append_left _ hz, hk⟩
  · rintro ⟨z, hz, hk⟩
    rcases List.mem_append.mp hz with hold | hnew
    · exact ⟨z, hold, hk⟩
    · rw [List.mem_singleton.mp hnew, hx] at hk
      cases hk

/-- The `i`-th holder keeps what it has. -/
lemma Mirrors.set (h : Mirrors held flag xs) (hx : xs[i]? = some x) (hy : held y = held x) :
    Mirrors held flag (xs.set i y) := by
  intro k
  rw [h k, holds_iff hx, holds_set hx, hy]

/-- The `i`-th holder takes a key, or takes its own key again. -/
lemma Mirrors.take (h : Mirrors held flag xs) (hx : xs[i]? = some x)
    (hfree : held x = none ∨ held x = some k) (hy : held y = some k)
    (hflag : ∀ k', flag' k' ↔ k' = k ∨ flag k') : Mirrors held flag' (xs.set i y) := by
  intro k'
  rw [hflag, h k', holds_iff hx, holds_set hx, hy, Option.some.injEq, ← or_assoc, eq_comm (a := k)]
  refine or_congr_left ⟨?_, Or.inl⟩
  rintro (hk | hk)
  · exact hk
  · rcases hfree with hnone | hsome
    · rw [hnone] at hk
      cases hk
    · rw [hsome, Option.some.injEq] at hk
      exact hk.symm

/-- The `i`-th holder gives its key back and lowers the flag: the mirror is kept exactly when nobody
else holds the key. -/
lemma Mirrors.giveBack_iff (h : Mirrors held flag xs) (hx : xs[i]? = some x)
    (hfree : held x = none ∨ held x = some k) (hy : held y = none)
    (hflag : ∀ k', flag' k' ↔ flag k' ∧ k' ≠ k) :
    Mirrors held flag' (xs.set i y) ↔ ¬ OthersHold held xs i k := by
  constructor
  · intro hafter hothers
    exact ((hflag k).mp ((hafter k).mpr ((holds_set hx y).mpr (Or.inr hothers)))).2 rfl
  · intro hothers k'
    rw [hflag, h k', holds_iff hx, holds_set hx, hy]
    constructor
    · rintro ⟨hk | hk, hne⟩
      · rcases hfree with hnone | hsome
        · rw [hnone] at hk
          cases hk
        · exact absurd (Option.some.inj (hk.symm.trans hsome)) hne
      · exact Or.inr hk
    · rintro (hk | hk)
      · cases hk
      · exact ⟨Or.inr hk, fun heq => hothers (heq ▸ hk)⟩

/-- The `i`-th holder goes and leaves the flag of its key raised: the mirror is kept exactly when
somebody else holds the key. -/
lemma Mirrors.abandon_iff (h : Mirrors held flag xs) (hx : xs[i]? = some x)
    (hheld : held x = some k) (hy : held y = none) :
    Mirrors held flag (xs.set i y) ↔ OthersHold held xs i k := by
  constructor
  · intro hafter
    have hflag : flag k := (h k).mpr ((holds_iff hx).mpr (Or.inl hheld))
    rcases (holds_set hx y).mp ((hafter k).mp hflag) with hk | hk
    · rw [hy] at hk
      cases hk
    · exact hk
  · intro hothers k'
    rw [h k', holds_iff hx, holds_set hx, hheld, hy, Option.some.injEq]
    constructor
    · rintro (rfl | hk)
      · exact Or.inr hothers
      · exact Or.inr hk
    · rintro (hk | hk)
      · cases hk
      · exact Or.inr hk

/-- Flags are lowered: the mirror is kept exactly when none of their keys is held. -/
lemma Mirrors.lower_iff (h : Mirrors held flag xs) {p : κ → Prop}
    (hflag : ∀ k, flag' k ↔ flag k ∧ ¬ p k) :
    Mirrors held flag' xs ↔ ∀ k, p k → ¬ Holds held xs k := by
  constructor
  · intro hafter k hk hheld
    exact ((hflag k).mp ((hafter k).mpr hheld)).2 hk
  · intro hfree k
    rw [hflag, h k]
    exact and_iff_left_of_imp fun hheld hk => hfree k hk hheld

end Holders
