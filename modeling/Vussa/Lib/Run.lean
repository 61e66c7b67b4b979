import Mathlib.Tactic

/-!
Finite runs of a deterministic system: a state type, an action type and a step function, the
choices of the environment being part of the action.

* `final`: the state a list of actions leads to;
* `Along`: every step of a run meets a condition, read in the state before the step;
* `final_invariant`, `Along.invariant`: an invariant kept by every step, respectively by every
  step that meets a condition, holds at the end of the run;
* `Along.of_invariant`, `along_congr`, `along_congr_of`: a condition on the steps is traded for
  another one under an invariant, in one and in both directions;
* `along_of_forall`: a condition on the actions alone;
* `along_view`: the runs of a system that carries more along;
* `count`, `final_eq_add_count`: the steps of a kind, counted by a quantity that they alone change.
-/

namespace Run

variable {σ ι : Type*} {step : σ → ι → σ}

/-- The state the actions `as` lead to from `s`. -/
def final (step : σ → ι → σ) (s : σ) (as : List ι) : σ := as.foldl step s

@[simp] lemma final_nil (s : σ) : final step s [] = s := rfl

@[simp] lemma final_cons (s : σ) (a : ι) (as : List ι) :
    final step s (a :: as) = final step (step s a) as := rfl

lemma final_append (s : σ) (as bs : List ι) :
    final step s (as ++ bs) = final step (final step s as) bs :=
  List.foldl_append

/-- Every step of the run of `as` from `s` meets `Q`, in the state before the step. -/
def Along (step : σ → ι → σ) (Q : σ → ι → Prop) : σ → List ι → Prop
  | _, [] => True
  | s, a :: as => Q s a ∧ Along step Q (step s a) as

instance Along.decidable (step : σ → ι → σ) (Q : σ → ι → Prop) [∀ s a, Decidable (Q s a)] :
    ∀ (s : σ) (as : List ι), Decidable (Along step Q s as)
  | _, [] => isTrue trivial
  | s, a :: as =>
      haveI := Along.decidable step Q (step s a) as
      inferInstanceAs (Decidable (Q s a ∧ Along step Q (step s a) as))

@[simp] lemma along_nil (Q : σ → ι → Prop) (s : σ) : Along step Q s [] := trivial

lemma along_cons (Q : σ → ι → Prop) (s : σ) (a : ι) (as : List ι) :
    Along step Q s (a :: as) ↔ Q s a ∧ Along step Q (step s a) as := Iff.rfl

lemma along_append (Q : σ → ι → Prop) (s : σ) (as bs : List ι) :
    Along step Q s (as ++ bs) ↔ Along step Q s as ∧ Along step Q (final step s as) bs := by
  induction as generalizing s with
  | nil => exact (and_iff_right trivial).symm
  | cons a as ih => rw [List.cons_append, along_cons, along_cons, ih, and_assoc, final_cons]

lemma along_and (P Q : σ → ι → Prop) (s : σ) (as : List ι) :
    Along step (fun s a => P s a ∧ Q s a) s as ↔ Along step P s as ∧ Along step Q s as := by
  induction as generalizing s with
  | nil => exact (and_iff_left trivial).symm
  | cons a as ih => rw [along_cons, along_cons, along_cons, ih, and_and_and_comm]

/-- An invariant kept by every step holds at the end of every run. -/
theorem final_invariant {I : σ → Prop} (hstep : ∀ s a, I s → I (step s a)) {s : σ} (hs : I s)
    (as : List ι) : I (final step s as) := by
  induction as generalizing s with
  | nil => exact hs
  | cons a as ih => exact ih (hstep s a hs)

/-- An invariant kept by every step that meets `C` holds at the end of every run whose steps all
meet `C`. -/
theorem Along.invariant {I : σ → Prop} {C : σ → ι → Prop}
    (hstep : ∀ s a, I s → C s a → I (step s a)) {s : σ} (hs : I s) {as : List ι}
    (h : Along step C s as) : I (final step s as) := by
  induction as generalizing s with
  | nil => exact hs
  | cons a as ih => exact ih (hstep s a hs h.1) h.2

/-- Under an invariant kept by the steps that meet `C`, a run whose steps all meet `C` has the
step property `Q` all along. -/
theorem Along.of_invariant {I : σ → Prop} {C Q : σ → ι → Prop}
    (hstep : ∀ s a, I s → C s a → I (step s a)) (hQ : ∀ s a, I s → C s a → Q s a) {s : σ}
    (hs : I s) {as : List ι} (h : Along step C s as) : Along step Q s as := by
  induction as generalizing s with
  | nil => trivial
  | cons a as ih => exact ⟨hQ s a hs h.1, ih (hstep s a hs h.1) h.2⟩

/-- Two step conditions that agree under an unconditional invariant agree along every run. -/
theorem along_congr {I : σ → Prop} {C Q : σ → ι → Prop} (hstep : ∀ s a, I s → I (step s a))
    (hQ : ∀ s a, I s → (Q s a ↔ C s a)) {s : σ} (hs : I s) (as : List ι) :
    Along step Q s as ↔ Along step C s as := by
  induction as generalizing s with
  | nil => exact Iff.rfl
  | cons a as ih => exact and_congr (hQ s a hs) (ih (hstep s a hs))

/-- The same for an invariant that only the steps that meet `C` are known to keep. -/
theorem along_congr_of {I : σ → Prop} {C Q : σ → ι → Prop}
    (hstep : ∀ s a, I s → C s a → I (step s a)) (hQ : ∀ s a, I s → (Q s a ↔ C s a)) {s : σ}
    (hs : I s) (as : List ι) : Along step Q s as ↔ Along step C s as := by
  induction as generalizing s with
  | nil => exact Iff.rfl
  | cons a as ih =>
      rw [along_cons, along_cons, hQ s a hs]
      exact and_congr_right fun hC => ih (hstep s a hs hC)

/-- A condition on the actions alone is a condition on the steps. -/
lemma along_of_forall {P : ι → Prop} (s : σ) {as : List ι} (h : ∀ a ∈ as, P a) :
    Along step (fun _ a => P a) s as := by
  induction as generalizing s with
  | nil => trivial
  | cons a as ih =>
      exact ⟨h a List.mem_cons_self, ih (step s a) fun b hb => h b (List.mem_cons_of_mem a hb)⟩

/-- A system that carries more along has the runs of the system below it. -/
lemma along_view {τ : Type*} {step' : τ → ι → τ} (view : τ → σ)
    (hview : ∀ t a, view (step' t a) = step (view t) a) (Q : σ → ι → Prop) (t : τ) (as : List ι) :
    Along step' (fun t a => Q (view t) a) t as ↔ Along step Q (view t) as := by
  induction as generalizing t with
  | nil => exact Iff.rfl
  | cons a as ih => rw [along_cons, along_cons, ih, hview]

/-- The number of steps of a run that meet `Q`. -/
def count (step : σ → ι → σ) (Q : σ → ι → Prop) [∀ s a, Decidable (Q s a)] : σ → List ι → ℕ
  | _, [] => 0
  | s, a :: as => (if Q s a then 1 else 0) + count step Q (step s a) as

/-- A quantity that grows by one at each step that meets `Q`, and stays at all others, has grown by
the number of these steps. -/
theorem final_eq_add_count {I : σ → Prop} {Q : σ → ι → Prop} [∀ s a, Decidable (Q s a)] {f : σ → ℤ}
    (hstep : ∀ s a, I s → I (step s a))
    (hf : ∀ s a, I s → f (step s a) = f s + if Q s a then 1 else 0) {s : σ} (hs : I s)
    (as : List ι) : f (final step s as) = f s + count step Q s as := by
  induction as generalizing s with
  | nil => exact (Int.add_zero (f s)).symm
  | cons a as ih =>
      calc f (final step s (a :: as))
          = f (step s a) + count step Q (step s a) as := ih (hstep s a hs)
        _ = f s + count step Q s (a :: as) := by
          rw [hf s a hs, count, add_assoc]
          push_cast
          rfl

end Run
