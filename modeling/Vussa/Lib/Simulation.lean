import Vussa.Lib.Run

/-!
Two systems of which the lower one reads the actions of the upper one. An action of the lower
system that does not read as one of the upper system is a stutter.

* `final_filterMap`: **a relation that every step keeps holds at the end of every run**;
* `final_map_read`: the same where the upper state is a function of the lower one.
-/

namespace Run

variable {σ τ ι κ : Type*} {step : σ → ι → σ} {step' : τ → κ → τ} {read : ι → Option κ}

/-- **A relation that every step keeps holds at the end of every run**: the lower system takes its
actions, the upper one those that they read as. -/
theorem final_filterMap {R : σ → τ → Prop} {P : ι → Prop}
    (hstep : ∀ s t a, R s t → P a → R (step s a) ((read a).elim t (step' t))) {s : σ} {t : τ}
    (h : R s t) {as : List ι} (hP : ∀ a ∈ as, P a) :
    R (final step s as) (final step' t (as.filterMap read)) := by
  induction as generalizing s t with
  | nil => exact h
  | cons a as ih =>
      have hhead := hstep s t a h (hP a List.mem_cons_self)
      have htail : ∀ b ∈ as, P b := fun b hb => hP b (List.mem_cons_of_mem a hb)
      cases hread : read a with
      | none =>
          rw [List.filterMap_cons_none hread]
          rw [hread] at hhead
          exact ih hhead htail
      | some k =>
          rw [List.filterMap_cons_some hread]
          rw [hread] at hhead
          exact ih hhead htail

/-- The state of the upper system is read off the lower one after every run. -/
theorem final_map_read {view : σ → τ}
    (hstep : ∀ s a, view (step s a) = (read a).elim (view s) (step' (view s))) (s : σ)
    (as : List ι) : view (final step s as) = final step' (view s) (as.filterMap read) :=
  final_filterMap (R := fun s t => view s = t) (P := fun _ => True)
    (fun s t a h _ => by rw [hstep, h]) rfl fun _ _ => trivial

end Run
