import Mathlib.Data.List.Nodup
import Mathlib.Data.Finset.Card

/-!
Tokens that are issued once, held by one holder at a time and spent at most once.

* `Purse`: what each holder holds and what has been spent;
* `Purse.Linear`: no token is in two places;
* `Linear.issue`, `Linear.keep`, `Linear.spend`: new tokens, the loss of tokens, and the use of one;
* `Linear.spent_le`: **at most as many tokens are spent as there are**.
-/

namespace Tokens

variable {ι τ : Type*}

/-- The tokens held and the tokens spent. -/
structure Purse (ι τ : Type*) where
  held : ι → List τ
  spent : List τ

namespace Purse

/-- The token has been issued, and is held or spent. -/
def InUse (p : Purse ι τ) (t : τ) : Prop := (∃ i, t ∈ p.held i) ∨ t ∈ p.spent

/-- Every token is in one place only. -/
structure Linear (p : Purse ι τ) : Prop where
  held : ∀ i, (p.held i).Nodup
  apart : ∀ i j, i ≠ j → ∀ t ∈ p.held i, t ∉ p.held j
  spent : p.spent.Nodup
  unspent : ∀ i, ∀ t ∈ p.held i, t ∉ p.spent

/-- Nobody holds a token, and none is spent. -/
lemma linear_empty : (⟨fun _ => [], []⟩ : Purse ι τ).Linear :=
  ⟨fun _ => List.nodup_nil, fun _ _ _ _ h => absurd h List.not_mem_nil, List.nodup_nil,
    fun _ _ h => absurd h List.not_mem_nil⟩

variable [DecidableEq ι] {p : Purse ι τ}

/-- The holder `i` holds `ts` from now on. -/
def hold (p : Purse ι τ) (i : ι) (ts : List τ) : Purse ι τ :=
  { p with held := Function.update p.held i ts }

@[simp] lemma hold_self (p : Purse ι τ) (i : ι) (ts : List τ) : (p.hold i ts).held i = ts := by
  simp [hold]

lemma hold_of_ne (p : Purse ι τ) {i j : ι} (h : j ≠ i) (ts : List τ) :
    (p.hold i ts).held j = p.held j := by
  simp [hold, h]

/-- The holder `i` spends `t` and holds `ts` from now on. -/
def spend (p : Purse ι τ) (i : ι) (t : τ) (ts : List τ) : Purse ι τ :=
  { p.hold i ts with spent := p.spent ++ [t] }

/-- A token in use after a hand-over was in use before, or is among those handed over. -/
lemma inUse_of_hold {i : ι} {ts : List τ} {t : τ} (h : (p.hold i ts).InUse t) :
    p.InUse t ∨ t ∈ ts := by
  rcases h with ⟨j, hj⟩ | hspent
  · by_cases hji : j = i
    · rw [hji, hold_self] at hj
      exact Or.inr hj
    · rw [hold_of_ne p hji] at hj
      exact Or.inl (Or.inl ⟨j, hj⟩)
  · exact Or.inl (Or.inr hspent)

lemma inUse_of_keep {i : ι} {ts : List τ} {t : τ} (hts : ts.Sublist (p.held i))
    (h : (p.hold i ts).InUse t) : p.InUse t :=
  (inUse_of_hold h).elim id fun ht => Or.inl ⟨i, hts.subset ht⟩

lemma inUse_of_spend {i : ι} {t u : τ} {ts : List τ} (hi : p.held i = t :: ts)
    (h : (p.spend i t ts).InUse u) : p.InUse u := by
  have hsub : ts.Sublist (p.held i) := hi ▸ List.sublist_cons_self t ts
  rcases h with ⟨j, hj⟩ | hspent
  · exact inUse_of_keep hsub (Or.inl ⟨j, hj⟩)
  · rcases List.mem_append.mp hspent with hold | hnew
    · exact Or.inr hold
    · rw [List.mem_singleton.mp hnew]
      exact Or.inl ⟨i, hi ▸ List.mem_cons_self⟩

/-- A holder exchanges its tokens for some that nobody else holds. -/
lemma Linear.hold (h : p.Linear) (i : ι) {ts : List τ} (hts : ts.Nodup)
    (hapart : ∀ j, j ≠ i → ∀ t ∈ ts, t ∉ p.held j) (hspent : ∀ t ∈ ts, t ∉ p.spent) :
    (p.hold i ts).Linear := by
  refine ⟨fun j => ?_, fun j k hjk t hj hk => ?_, h.spent, fun j t hj => ?_⟩
  · by_cases hji : j = i
    · rw [hji, hold_self]
      exact hts
    · rw [hold_of_ne p hji]
      exact h.held j
  · by_cases hji : j = i
    · rw [hji, hold_self] at hj
      rw [hold_of_ne p fun hki => hjk (hji.trans hki.symm)] at hk
      exact hapart k (fun hki => hjk (hji.trans hki.symm)) t hj hk
    · rw [hold_of_ne p hji] at hj
      by_cases hki : k = i
      · rw [hki, hold_self] at hk
        exact hapart j hji t hk hj
      · rw [hold_of_ne p hki] at hk
        exact h.apart j k hjk t hj hk
  · by_cases hji : j = i
    · rw [hji, hold_self] at hj
      exact hspent t hj
    · rw [hold_of_ne p hji] at hj
      exact h.unspent j t hj

/-- New tokens for a holder. -/
lemma Linear.issue (h : p.Linear) (i : ι) {ts : List τ} (hts : ts.Nodup)
    (hnew : ∀ t ∈ ts, ¬ p.InUse t) : (p.hold i ts).Linear :=
  h.hold i hts (fun j _ t ht hj => hnew t ht (Or.inl ⟨j, hj⟩))
    fun t ht hs => hnew t ht (Or.inr hs)

/-- A holder keeps some of its tokens. -/
lemma Linear.keep (h : p.Linear) (i : ι) {ts : List τ} (hts : ts.Sublist (p.held i)) :
    (p.hold i ts).Linear :=
  h.hold i ((h.held i).sublist hts) (fun j hj t ht => h.apart i j hj.symm t (hts.subset ht))
    fun t ht => h.unspent i t (hts.subset ht)

/-- A holder spends its first token. -/
lemma Linear.spend (h : p.Linear) {i : ι} {t : τ} {ts : List τ} (hi : p.held i = t :: ts) :
    (p.spend i t ts).Linear := by
  have hti : t ∈ p.held i := hi ▸ List.mem_cons_self
  have hts : ts.Sublist (p.held i) := hi ▸ List.sublist_cons_self t ts
  have hnodup : t ∉ ts := (List.nodup_cons.mp (hi ▸ h.held i)).1
  have hkeep := h.keep i hts
  refine ⟨hkeep.held, hkeep.apart, ?_, fun j u hj hu => ?_⟩
  · rw [Purse.spend, ← List.concat_eq_append]
    exact List.Nodup.concat (h.unspent i t hti) h.spent
  · rcases List.mem_append.mp hu with hu | hu
    · exact hkeep.unspent j u hj hu
    · rw [List.mem_singleton.mp hu] at hj
      by_cases hji : j = i
      · change t ∈ (p.hold i ts).held j at hj
        rw [hji, hold_self] at hj
        exact hnodup hj
      · change t ∈ (p.hold i ts).held j at hj
        rw [hold_of_ne p hji] at hj
        exact h.apart i j (Ne.symm hji) t hti hj

omit [DecidableEq ι] in
/-- If the spent tokens with a property are among finitely many, there are no more of them. -/
theorem Linear.spent_le [DecidableEq τ] (h : p.Linear) {P : τ → Prop} [DecidablePred P]
    {S : Finset τ} (hS : ∀ t ∈ p.spent, P t → t ∈ S) :
    (p.spent.filter fun t => P t).length ≤ S.card := by
  have hnodup : (p.spent.filter fun t => P t).Nodup := h.spent.filter _
  calc (p.spent.filter fun t => P t).length
      = (p.spent.filter fun t => P t).toFinset.card := (List.toFinset_card_of_nodup hnodup).symm
    _ ≤ S.card := by
        refine Finset.card_le_card fun t ht => ?_
        obtain ⟨hmem, hP⟩ := List.mem_filter.mp (List.mem_toFinset.mp ht)
        exact hS t hmem (of_decide_eq_true hP)

end Purse

end Tokens
