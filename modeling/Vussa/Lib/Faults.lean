import Vussa.Lib.Effect

/-!
Programs whose steps can fail, over the monad of `Effect`. A plan says which steps fail and how: a
step that is refused has no effect; a step whose answer is lost has taken effect, and fails all the
same.

* `Fault`, `attempt`: a step under its name in the plan; `Lands`: it takes effect; `answer`: what
  is left of a step that has taken effect;
* `swallow`: a computation whose error is discarded;
* `atomically`: statements between a `begin` and a `commit`, undone where one of them fails or the
  commit is refused;
* `Succeeds`: a computation returns;
* `LeadsTo`: a computation fails and leaves the state, or it has an effect and goes on from there;
  `leadsTo_attempt` and `leadsTo_atomically` say so of a step and of a transaction;
* `ErrorKeeps`: an error leaves an observation of the state at a value; the rules take a program
  apart into the condition on the plan and the start, and `errorKeeps_iff_succeeds` ends them;
* `Keeps`: a computation leaves an observation of the state;
* `Appends`, `Enters`, `Logged`: it appends one entry to a log where it returns, or exactly under a
  condition; a change of the state has its entry. `logged_atomically_bind` is the rule for an entry
  in the transaction of the change, `logged_iff_of_enters` that for an entry that comes later.
-/

namespace Faults

open Effect

universe u

variable {ε σ α β : Type u} {ι τ : Type*}

/-- How a step fails: it has no effect, or it has taken effect and its answer is lost. -/
inductive Fault (ε : Type*) where
  | refused (error : ε)
  | lost (error : ε)
  deriving DecidableEq, Repr

/-- A step: it fails where the plan says so. -/
def attempt (fault : ι → Option (Fault ε)) (step : ι) (x : EStateM ε σ α) : EStateM ε σ α :=
  fun s =>
    match fault step with
    | none => x s
    | some (.refused e) => .error e s
    | some (.lost e) => .error e (after x s)

/-- The step takes effect. -/
def Lands (fault : ι → Option (Fault ε)) (step : ι) : Prop := ∀ e, fault step ≠ some (.refused e)

/-- A step that has taken effect: it returns, or its answer is lost. -/
def answer (fault : ι → Option (Fault ε)) (step : ι) (a : α) : EStateM ε σ α :=
  attempt fault step (pure a)

/-- `let _ = x`: an error is discarded. -/
def swallow (x : EStateM ε σ α) : EStateM ε σ PUnit := fun s => .ok ⟨⟩ (after x s)

/-- The statements of a transaction. -/
def atomically (fault : ι → Option (Fault ε)) (begin commit : ι) (x : EStateM ε σ α) :
    EStateM ε σ α :=
  fun s =>
    match (attempt fault begin x).run s with
    | .error e _ => .error e s
    | .ok a s' =>
        match fault commit with
        | none => .ok a s'
        | some (.refused e) => .error e s
        | some (.lost e) => .error e s'

/-- The computation returns. -/
def Succeeds (x : EStateM ε σ α) (s : σ) : Prop := ∃ a s', x.run s = .ok a s'

/-- An error leaves `f` at the value `t`. -/
def ErrorKeeps (f : σ → τ) (t : τ) (x : EStateM ε σ α) (s : σ) : Prop :=
  ∀ e s', x.run s = .error e s' → f s' = t

variable {fault : ι → Option (Fault ε)} {step begin commit : ι} {x : EStateM ε σ α}
  {g : α → EStateM ε σ β} {s s' : σ} {a : α}

/-! ### Steps -/

lemma run_attempt_none (h : fault step = none) : (attempt fault step x).run s = x.run s := by
  rw [EStateM.run, attempt, h]
  rfl

lemma run_attempt_refused {e : ε} (h : fault step = some (.refused e)) :
    (attempt fault step x).run s = .error e s := by
  rw [EStateM.run, attempt, h]

lemma run_attempt_lost {e : ε} (h : fault step = some (.lost e)) :
    (attempt fault step x).run s = .error e (after x s) := by
  rw [EStateM.run, attempt, h]

lemma lands_of_none (h : fault step = none) : Lands fault step := by
  intro e he
  exact absurd (h.symm.trans he) (by simp)

lemma not_lands_iff : ¬ Lands fault step ↔ ∃ e, fault step = some (.refused e) := by
  simp [Lands]

lemma attempt_run_ok_iff :
    (attempt fault step x).run s = .ok a s' ↔ fault step = none ∧ x.run s = .ok a s' := by
  cases h : fault step with
  | none => rw [run_attempt_none h, and_iff_right rfl]
  | some failure =>
      cases failure with
      | refused e => simp [run_attempt_refused h]
      | lost e => simp [run_attempt_lost h]

lemma after_read {c : σ → Except ε α} : after (read c) s = s := by
  rw [after, run_read]
  cases c s with
  | ok a => rfl
  | error e => rfl

/-- A step that only reads. -/
lemma attempt_run_error (hx : after x s = s) {e : ε}
    (h : (attempt fault step x).run s = .error e s') : s' = s := by
  cases hfault : fault step with
  | none =>
      rw [run_attempt_none hfault] at h
      rw [← hx, after, h]
  | some failure =>
      cases failure with
      | refused e' =>
          rw [run_attempt_refused hfault] at h
          exact (EStateM.Result.error.inj h).2.symm
      | lost e' =>
          rw [run_attempt_lost hfault] at h
          exact (EStateM.Result.error.inj h).2.symm.trans hx

lemma run_discard : (discard x).run s = match x.run s with
    | .ok _ s' => .ok ⟨⟩ s'
    | .error e s' => .error e s' := rfl

/-- A plan without faults. -/
lemma attempt_of_none (h : ∀ i, fault i = none) (step : ι) (x : EStateM ε σ α) :
    attempt fault step x = x :=
  funext fun _ => run_attempt_none (h step)

lemma bind_run_ok_iff {b : β} :
    (x >>= g).run s = .ok b s' ↔ ∃ a s1, x.run s = .ok a s1 ∧ (g a).run s1 = .ok b s' := by
  refine ⟨bind_run_ok, ?_⟩
  rintro ⟨a, s1, hx, hg⟩
  rw [run_bind, hx]
  exact hg

lemma run_atomically : (atomically fault begin commit x).run s =
    match (attempt fault begin x).run s with
    | .error e _ => .error e s
    | .ok a s' => match fault commit with
      | none => .ok a s'
      | some (.refused e) => .error e s
      | some (.lost e) => .error e s' := rfl

/-- A transaction is committed and answered if none of its steps fails. -/
lemma atomically_run_ok_iff :
    (atomically fault begin commit x).run s = .ok a s' ↔
      (fault begin = none ∧ fault commit = none) ∧ x.run s = .ok a s' := by
  rw [run_atomically]
  cases hrun : (attempt fault begin x).run s with
  | error e s1 =>
      refine iff_of_false (by simp) fun h => ?_
      exact absurd (hrun.symm.trans (attempt_run_ok_iff.mpr ⟨h.1.1, h.2⟩)) (by simp)
  | ok b s1 =>
      obtain ⟨hnone, hx⟩ := attempt_run_ok_iff.mp hrun
      cases hcommit : fault commit with
      | none => simp [hnone, hx]
      | some failure =>
          cases failure with
          | refused e => simp
          | lost e => simp

/-- A transaction without a commit is undone. -/
lemma atomically_run_error (hcommit : fault commit = none) {e : ε}
    (h : (atomically fault begin commit x).run s = .error e s') : s' = s := by
  rw [run_atomically] at h
  split at h
  · exact (EStateM.Result.error.inj h).2.symm
  · rw [hcommit] at h
    exact absurd h (by simp)

/-! ### Effects -/

/-- From `s` the computation fails and leaves the state, or it has one of the effects `p` and goes
on as `y`. -/
structure LeadsTo (x : EStateM ε σ α) (s : σ) (p : α → σ → Prop) (y : α → EStateM ε σ α) :
    Prop where
  effect : ∀ a s', p a s' → x.run s = (y a).run s'
  failure : (∀ a s', ¬ p a s') → ∃ e, x.run s = .error e s

lemma LeadsTo.congr {p q : α → σ → Prop} {y : α → EStateM ε σ α} (h : LeadsTo x s p y)
    (hp : ∀ a s', p a s' ↔ q a s') : LeadsTo x s q y :=
  ⟨fun a s' hq => h.effect a s' ((hp a s').mpr hq),
    fun hnone => h.failure fun a s' hpa => hnone a s' ((hp a s').mp hpa)⟩

lemma run_answer : (answer fault step a : EStateM ε σ α).run s = match fault step with
    | none => .ok a s
    | some (.refused e) | some (.lost e) => .error e s := by
  cases h : fault step with
  | none => exact run_attempt_none h
  | some failure =>
      cases failure with
      | refused e => exact run_attempt_refused h
      | lost e => exact run_attempt_lost h

/-- A step that leaves the state where it fails by itself. -/
lemma leadsTo_attempt (hx : ∀ e s', x.run s = .error e s' → s' = s) :
    LeadsTo (attempt fault step x) s (fun a s' => Lands fault step ∧ x.run s = .ok a s')
      (answer fault step) := by
  refine ⟨fun a s' h => ?_, fun h => ?_⟩
  · obtain ⟨hlands, hrun⟩ := h
    rw [run_answer]
    cases hfault : fault step with
    | none => rw [run_attempt_none hfault, hrun]
    | some failure =>
        cases failure with
        | refused e => exact absurd hfault (hlands e)
        | lost e => rw [run_attempt_lost hfault, after, hrun]
  · have hafter : Lands fault step → after x s = s := by
      intro hlands
      rw [after]
      cases hrun : x.run s with
      | ok a s' => exact absurd ⟨hlands, hrun⟩ (h a s')
      | error e s' => exact hx e s' hrun
    cases hfault : fault step with
    | none =>
        rw [run_attempt_none hfault]
        cases hrun : x.run s with
        | ok a s' => exact absurd ⟨lands_of_none hfault, hrun⟩ (h a s')
        | error e s' => exact ⟨e, by rw [hx e s' hrun]⟩
    | some failure =>
        cases failure with
        | refused e => exact ⟨e, run_attempt_refused hfault⟩
        | lost e =>
            refine ⟨e, ?_⟩
            rw [run_attempt_lost hfault, hafter fun e' he' => ?_]
            exact absurd (hfault.symm.trans he') (by simp)

/-- A transaction takes effect with its commit. -/
lemma leadsTo_atomically :
    LeadsTo (atomically fault begin commit x) s
      (fun a s' => (fault begin = none ∧ Lands fault commit) ∧ x.run s = .ok a s')
      (answer fault commit) := by
  refine ⟨fun a s' h => ?_, fun h => ?_⟩
  · obtain ⟨⟨hnone, hlands⟩, hrun⟩ := h
    rw [run_atomically, attempt_run_ok_iff.mpr ⟨hnone, hrun⟩, run_answer]
    cases hcommit : fault commit with
    | none => rfl
    | some failure =>
        cases failure with
        | refused e => exact absurd hcommit (hlands e)
        | lost e => rfl
  · rw [run_atomically]
    cases hrun : (attempt fault begin x).run s with
    | error e s' => exact ⟨e, rfl⟩
    | ok a s' =>
        obtain ⟨hnone, hx⟩ := attempt_run_ok_iff.mp hrun
        obtain ⟨e, he⟩ := not_lands_iff.mp fun hlands => h a s' ⟨⟨hnone, hlands⟩, hx⟩
        simp only [he]
        exact ⟨e, rfl⟩

section LeadsTo

variable {p : α → σ → Prop} {y : α → EStateM ε σ α}

lemma LeadsTo.run_bind_effect (h : LeadsTo x s p y) (hp : p a s') :
    (x >>= g).run s = (y a >>= g).run s' := by
  rw [run_bind, run_bind, h.effect a s' hp]

lemma LeadsTo.run_bind_failure (h : LeadsTo x s p y) (hp : ∀ a s', ¬ p a s') :
    ∃ e, (x >>= g).run s = .error e s := by
  obtain ⟨e, he⟩ := h.failure hp
  exact ⟨e, by rw [run_bind, he]⟩

/-- What holds afterwards, of the effect and what follows it. -/
theorem LeadsTo.after_bind_iff {P : σ → Prop} (h : LeadsTo x s p y) (hs : P s) :
    P (after (x >>= g) s) ↔ ∀ a s', p a s' → P (after (y a >>= g) s') := by
  by_cases hp : ∃ a s', p a s'
  · obtain ⟨a, s', hp⟩ := hp
    constructor
    · intro hafter b s1 hb
      rwa [after, h.run_bind_effect hb] at hafter
    · intro hall
      rw [after, h.run_bind_effect hp]
      exact hall a s' hp
  · have hnone : ∀ a s', ¬ p a s' := fun a s' hpa => hp ⟨a, s', hpa⟩
    obtain ⟨e, he⟩ := h.run_bind_failure (g := g) hnone
    rw [after, he]
    exact iff_of_true hs fun a s' hpa => absurd hpa (hnone a s')

end LeadsTo

/-! ### Returning -/

lemma succeeds_pure : Succeeds (pure a : EStateM ε σ α) s := ⟨a, s, rfl⟩

lemma succeeds_swallow : Succeeds (swallow x) s := ⟨⟨⟩, after x s, rfl⟩

lemma succeeds_update {f : σ → σ} : Succeeds (update f : EStateM ε σ PUnit) s := ⟨⟨⟩, f s, rfl⟩

lemma succeeds_attempt_iff :
    Succeeds (attempt fault step x) s ↔ fault step = none ∧ Succeeds x s := by
  simp only [Succeeds, attempt_run_ok_iff, exists_and_left]

lemma succeeds_bind_iff :
    Succeeds (x >>= g) s ↔ ∃ a s', x.run s = .ok a s' ∧ Succeeds (g a) s' := by
  constructor
  · rintro ⟨b, s2, h⟩
    obtain ⟨a, s1, hx, hg⟩ := bind_run_ok h
    exact ⟨a, s1, hx, b, s2, hg⟩
  · rintro ⟨a, s1, hx, b, s2, hg⟩
    exact ⟨b, s2, bind_run_ok_iff.mpr ⟨a, s1, hx, hg⟩⟩

lemma succeeds_answer_bind_iff :
    Succeeds (answer fault step a >>= g) s ↔ fault step = none ∧ Succeeds (g a) s := by
  rw [succeeds_bind_iff]
  constructor
  · rintro ⟨b, s1, hrun, hg⟩
    obtain ⟨hnone, hpure⟩ := attempt_run_ok_iff.mp hrun
    obtain ⟨rfl, rfl⟩ := EStateM.Result.ok.inj hpure
    exact ⟨hnone, hg⟩
  · rintro ⟨hnone, hg⟩
    exact ⟨a, s, attempt_run_ok_iff.mpr ⟨hnone, rfl⟩, hg⟩

/-- What follows returns or fails whatever the state is. -/
lemma succeeds_bind_iff_and {p : Prop} (h : ∀ a s', Succeeds (g a) s' ↔ p) :
    Succeeds (x >>= g) s ↔ Succeeds x s ∧ p := by
  rw [succeeds_bind_iff]
  constructor
  · rintro ⟨a, s', hx, hg⟩
    exact ⟨⟨a, s', hx⟩, (h a s').mp hg⟩
  · rintro ⟨⟨a, s', hx⟩, hp⟩
    exact ⟨a, s', hx, (h a s').mpr hp⟩

lemma not_succeeds_iff : ¬ Succeeds x s ↔ ∃ e s', x.run s = .error e s' := by
  rw [Succeeds]
  cases x.run s with
  | ok a s' => simp
  | error e s' => simp

/-! ### Errors that leave the state -/

section ErrorKeeps

variable {f : σ → τ} {t : τ}

lemma errorKeeps_of_succeeds (h : Succeeds x s) : ErrorKeeps f t x s := by
  intro e s' herror
  obtain ⟨a, s1, hok⟩ := h
  exact absurd (hok.symm.trans herror) (by simp)

lemma errorKeeps_read_bind_iff {c : σ → Except ε α} (hs : f s = t) :
    ErrorKeeps f t (read c >>= g) s ↔ ∀ a, c s = .ok a → ErrorKeeps f t (g a) s := by
  rw [ErrorKeeps, run_bind, run_read]
  cases hc : c s with
  | ok a =>
      refine ⟨fun h b hb => ?_, fun h => h a rfl⟩
      obtain rfl := Except.ok.inj hb
      exact h
  | error e =>
      refine ⟨fun _ b hb => absurd hb (by simp), fun _ e' s' h => ?_⟩
      rw [← (EStateM.Result.error.inj h).2]
      exact hs

/-- A step that only reads. -/
lemma errorKeeps_attempt_bind_iff (hx : after x s = s) (hs : f s = t) :
    ErrorKeeps f t (attempt fault step x >>= g) s ↔
      (fault step = none → ErrorKeeps f t (x >>= g) s) := by
  cases h : fault step with
  | none =>
      rw [ErrorKeeps, run_bind, run_attempt_none h, ← run_bind, imp_iff_right rfl, ErrorKeeps]
  | some failure =>
      refine iff_of_true (fun e' s' herror => ?_) fun hnone => absurd hnone (by simp)
      rcases bind_run_error herror with hattempt | ⟨a, s1, hattempt, -⟩
      · rw [attempt_run_error hx hattempt]
        exact hs
      · exact absurd ((attempt_run_ok_iff.mp hattempt).1.symm.trans h) (by simp)

/-- Behind an effect the rest of the program decides. -/
theorem LeadsTo.errorKeeps_bind_iff {p : α → σ → Prop} {y : α → EStateM ε σ α}
    (h : LeadsTo x s p y) (hs : f s = t) :
    ErrorKeeps f t (x >>= g) s ↔ ∀ a s', p a s' → ErrorKeeps f t (y a >>= g) s' := by
  by_cases hp : ∃ a s', p a s'
  · obtain ⟨a, s', hp⟩ := hp
    constructor
    · intro hkeeps b s1 hb
      rwa [ErrorKeeps, h.run_bind_effect hb] at hkeeps
    · intro hall
      rw [ErrorKeeps, h.run_bind_effect hp]
      exact hall a s' hp
  · have hnone : ∀ a s', ¬ p a s' := fun a s' hpa => hp ⟨a, s', hpa⟩
    obtain ⟨e, he⟩ := h.run_bind_failure (g := g) hnone
    refine iff_of_true (fun e' s' herror => ?_) fun a s' hpa => absurd hpa (hnone a s')
    rw [← (EStateM.Result.error.inj (he.symm.trans herror)).2]
    exact hs

/-- Where the rest of a program does not bring the value back, it must not fail. -/
lemma errorKeeps_iff_succeeds {P : σ → Prop} (hP : ∀ s, P s → f s ≠ t) (hx : Preserves P x)
    (hs : P s) : ErrorKeeps f t x s ↔ Succeeds x s := by
  refine ⟨fun h => ?_, errorKeeps_of_succeeds⟩
  by_contra hnot
  obtain ⟨e, s', herror⟩ := not_succeeds_iff.mp hnot
  have hafter := hx s hs
  rw [after, herror] at hafter
  exact hP s' hafter (h e s' herror)

lemma errorKeeps_discard_iff : ErrorKeeps f t (discard x) s ↔ ErrorKeeps f t x s := by
  rw [ErrorKeeps, ErrorKeeps, run_discard]
  cases x.run s with
  | ok a s' => simp
  | error e s' => simp

end ErrorKeeps

/-! ### The state afterwards -/

lemma after_discard : after (discard x) s = after x s := by
  rw [after, after, run_discard]
  cases x.run s with
  | ok a s' => rfl
  | error e s' => rfl

lemma after_bind_congr {g' : α → EStateM ε σ β}
    (h : ∀ a s', x.run s = .ok a s' → after (g a) s' = after (g' a) s') :
    after (x >>= g) s = after (x >>= g') s := by
  rw [after_bind, after_bind]
  cases hx : x.run s with
  | ok a s' => exact h a s' hx
  | error e s' => rfl

/-- A transaction writes nothing or has been committed. -/
lemma after_atomically_bind {P : σ → Prop} (hs : P s)
    (h : ∀ a s', x.run s = .ok a s' → P (after (answer fault commit a >>= g) s')) :
    P (after (atomically fault begin commit x >>= g) s) :=
  (leadsTo_atomically.after_bind_iff hs).mpr fun a s' hp => h a s' hp.2

/-- After a step that only reads the rest is run exactly if the step does not fail. -/
lemma after_attempt_bind_iff {P : σ → Prop} (hx : after x s = s) (hs : P s) :
    P (after (attempt fault step x >>= g) s) ↔
      (fault step = none → P (after (x >>= g) s)) := by
  rw [after_bind]
  cases hrun : (attempt fault step x).run s with
  | ok a s' =>
      obtain ⟨hnone, hrun⟩ := attempt_run_ok_iff.mp hrun
      rw [imp_iff_right hnone, after_bind, hrun]
  | error e s' =>
      obtain rfl := attempt_run_error hx hrun
      refine iff_of_true hs fun hnone => ?_
      rw [run_attempt_none hnone] at hrun
      rw [after_bind, hrun]
      exact hs

/-! ### Keeping an observation -/

/-- An observation of the state stays. -/
def Keeps (f : σ → τ) (x : EStateM ε σ α) : Prop := ∀ s, f (after x s) = f s

section Keeps

variable {f : σ → τ}

lemma keeps_pure (a : α) : Keeps f (pure a : EStateM ε σ α) := fun _ => rfl

lemma keeps_read (c : σ → Except ε α) : Keeps f (read c) := by
  intro s
  rw [after, run_read]
  cases c s with
  | ok a => rfl
  | error e => rfl

lemma keeps_transact {c : σ → Except ε (σ × α)} (h : ∀ s s' a, c s = .ok (s', a) → f s' = f s) :
    Keeps f (transact c) := by
  intro s
  rw [after, run_transact]
  cases hc : c s with
  | ok r => exact h s r.1 r.2 hc
  | error e => rfl

lemma Keeps.attempt (h : Keeps f x) (fault : ι → Option (Fault ε)) (step : ι) :
    Keeps f (attempt fault step x) := by
  intro s
  rw [after]
  cases hfault : fault step with
  | none =>
      rw [run_attempt_none hfault]
      exact h s
  | some failure =>
      cases failure with
      | refused e => rw [run_attempt_refused hfault]
      | lost e =>
          rw [run_attempt_lost hfault]
          exact h s

lemma keeps_answer (fault : ι → Option (Fault ε)) (step : ι) (a : α) :
    Keeps f (answer fault step a : EStateM ε σ α) :=
  (keeps_pure a).attempt fault step

lemma Keeps.swallow (h : Keeps f x) : Keeps f (swallow x) := h

lemma Keeps.run_ok (h : Keeps f x) (hrun : x.run s = .ok a s') : f s' = f s := by
  have hafter := h s
  rw [after, hrun] at hafter
  exact hafter

lemma Keeps.run_error (h : Keeps f x) {e : ε} (hrun : x.run s = .error e s') : f s' = f s := by
  have hafter := h s
  rw [after, hrun] at hafter
  exact hafter

lemma Keeps.bind (hx : Keeps f x) (hg : ∀ a, Keeps f (g a)) : Keeps f (x >>= g) := by
  intro s
  rw [after_bind]
  cases hrun : x.run s with
  | ok a s' => exact (hg a s').trans (hx.run_ok hrun)
  | error e s' => exact hx.run_error hrun

lemma Keeps.preserves (h : Keeps f x) (t : τ) : Preserves (fun s => f s = t) x :=
  fun s hs => (h s).trans hs

end Keeps

/-! ### A log -/

section Log

variable {ρ : Type*} {f : σ → List ρ} {Q : ρ → Prop} {same : σ → σ → Prop}

/-- A computation that returns has appended one entry that meets `Q` to a log. -/
def Appends (f : σ → List ρ) (Q : ρ → Prop) (x : EStateM ε σ α) (s : σ) : Prop :=
  ∀ a s', x.run s = .ok a s' → ∃ r, Q r ∧ f s' = f s ++ [r]

lemma Keeps.bind_appends (hx : Keeps f x)
    (hg : ∀ a s', x.run s = .ok a s' → Appends f Q (g a) s') : Appends f Q (x >>= g) s := by
  intro b s' hrun
  obtain ⟨a, s1, hx1, hg1⟩ := bind_run_ok hrun
  obtain ⟨r, hr, hlog⟩ := hg a s1 hx1 b s' hg1
  exact ⟨r, hr, by rw [hlog, hx.run_ok hx1]⟩

lemma Appends.bind_keeps (hx : Appends f Q x s) (hg : ∀ a, Keeps f (g a)) :
    Appends f Q (x >>= g) s := by
  intro b s' hrun
  obtain ⟨a, s1, hx1, hg1⟩ := bind_run_ok hrun
  obtain ⟨r, hr, hlog⟩ := hx a s1 hx1
  exact ⟨r, hr, by rw [(hg a).run_ok hg1, hlog]⟩

/-- The log gets one entry, which meets `Q`, if `p` holds, and stays otherwise. -/
structure Enters (f : σ → List ρ) (Q : ρ → Prop) (x : EStateM ε σ α) (s : σ) (p : Prop) :
    Prop where
  entry : p → ∃ r, Q r ∧ f (after x s) = f s ++ [r]
  stays : ¬ p → f (after x s) = f s

/-- The entry is written by a step of its own. -/
lemma enters_attempt {r : ρ} (hx : x.run s = .ok a s') (hr : Q r) (hlog : f s' = f s ++ [r]) :
    Enters f Q (attempt fault step x) s (Lands fault step) := by
  constructor
  · intro hlands
    refine ⟨r, hr, ?_⟩
    rw [← hlog, after]
    cases hfault : fault step with
    | none => rw [run_attempt_none hfault, hx]
    | some failure =>
        cases failure with
        | refused e => exact absurd hfault (hlands e)
        | lost e => rw [run_attempt_lost hfault, after, hx]
  · intro hnot
    obtain ⟨e, he⟩ := not_lands_iff.mp hnot
    rw [after, run_attempt_refused he]

/-- What comes before the entry must return. -/
lemma Keeps.bind_enters {p : Prop} (hx : Keeps f x)
    (hg : ∀ a s', x.run s = .ok a s' → Enters f Q (g a) s' p) :
    Enters f Q (x >>= g) s (Succeeds x s ∧ p) := by
  cases hrun : x.run s with
  | ok a s' =>
      have hafter : after (x >>= g) s = after (g a) s' := by rw [after_bind, hrun]
      have hsucceeds : Succeeds x s := ⟨a, s', hrun⟩
      have hkeep := hx.run_ok hrun
      constructor
      · intro hp
        obtain ⟨r, hr, hlog⟩ := (hg a s' hrun).entry hp.2
        exact ⟨r, hr, by rw [hafter, hlog, hkeep]⟩
      · intro hnot
        rw [hafter, (hg a s' hrun).stays fun hp => hnot ⟨hsucceeds, hp⟩, hkeep]
  | error e s' =>
      constructor
      · intro hp
        obtain ⟨a, s1, hok⟩ := hp.1
        exact absurd (hrun.symm.trans hok) (by simp)
      · intro _
        rw [after_bind, hrun]
        exact hx.run_error hrun

lemma Enters.bind_keeps {p : Prop} (hx : Enters f Q x s p) (hg : ∀ a, Keeps f (g a)) :
    Enters f Q (x >>= g) s p := by
  have hafter : f (after (x >>= g) s) = f (after x s) := by
    rw [after_bind, after]
    cases x.run s with
    | ok a s' => exact hg a s'
    | error e s' => rfl
  exact ⟨fun hp => by rw [hafter]; exact hx.entry hp, fun hp => by rw [hafter]; exact hx.stays hp⟩

lemma Enters.congr {p q : Prop} (hx : Enters f Q x s p) (h : p ↔ q) : Enters f Q x s q :=
  ⟨fun hq => hx.entry (h.mpr hq), fun hq => hx.stays fun hp => hq (h.mp hp)⟩

lemma enters_answer_bind {p : Prop} (hg : Enters f Q (g a) s p) :
    Enters f Q (answer fault step a >>= g) s (fault step = none ∧ p) := by
  have hreturns : Succeeds (answer fault step a : EStateM ε σ α) s ↔ fault step = none :=
    succeeds_attempt_iff.trans (and_iff_left succeeds_pure)
  rw [← hreturns]
  refine (keeps_answer fault step a).bind_enters fun b s1 hrun => ?_
  obtain ⟨rfl, rfl⟩ := EStateM.Result.ok.inj (attempt_run_ok_iff.mp hrun).2
  exact hg

/-- Where the state is no longer the same, the log has a new entry that meets `Q`. -/
def Logged (same : σ → σ → Prop) (f : σ → List ρ) (Q : ρ → Prop) (s s' : σ) : Prop :=
  ¬ same s s' → ∃ r ∈ (f s').drop (f s).length, Q r

lemma logged_of_same (h : same s s') : Logged same f Q s s' := fun hne => absurd h hne

lemma logged_of_append {r : ρ} (hr : Q r) (h : f s' = f s ++ [r]) : Logged same f Q s s' := by
  intro _
  rw [h, List.drop_left]
  exact ⟨r, List.mem_singleton_self r, hr⟩

/-- Nothing new in the log. -/
lemma logged_iff_same (h : f s' = f s) : Logged same f Q s s' ↔ same s s' := by
  rw [Logged, h, List.drop_length]
  simp

/-- The entry is part of the transaction. -/
lemma logged_atomically_bind (hs : same s s) (hx : Appends f Q x s) (hg : ∀ a, Keeps f (g a)) :
    Logged same f Q s (after (atomically fault begin commit x >>= g) s) := by
  refine after_atomically_bind (logged_of_same hs) fun a s' hrun => ?_
  obtain ⟨r, hr, hlog⟩ := hx a s' hrun
  exact logged_of_append hr ((((keeps_answer fault commit a).bind hg) s').trans hlog)

lemma logged_atomically (hs : same s s) (hx : Appends f Q x s) :
    Logged same f Q s (after (atomically fault begin commit x) s) := by
  rw [← bind_pure (atomically fault begin commit x)]
  exact logged_atomically_bind hs hx fun a => keeps_pure a

/-- The entry comes behind a change, under a condition: where the state has changed, the condition
must hold. -/
theorem logged_iff_of_enters {s1 : σ} {p : Prop} (hx : Enters f Q x s1 p) (hs : f s1 = f s)
    (hsame : same s (after x s1) ↔ same s s1) :
    Logged same f Q s (after x s1) ↔ (¬ same s s1 → p) := by
  by_cases hp : p
  · obtain ⟨r, hr, hlog⟩ := hx.entry hp
    exact iff_of_true (logged_of_append hr (by rw [hlog, hs])) fun _ => hp
  · rw [logged_iff_same ((hx.stays hp).trans hs), hsame]
    exact ⟨fun h hnot => absurd h hnot, fun h => by_contra fun hnot => hp (h hnot)⟩

end Log

end Faults
