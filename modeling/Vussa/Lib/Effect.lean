import Mathlib.Tactic

/-!
Computations with a state and errors, in which a failure keeps what was done before it: the
monad `EStateM`. Programs are built from three kinds of steps, a check that only reads, a
transaction that changes the state or fails as a whole, and an unconditional update.

* `after`: the state a computation ends in, returned or failed;
* `read`, `transact`, `update`: the steps;
* `Preserves`: a property that holds before holds afterwards; its rules reduce a program to its
  steps;
* `after_read_bind_iff`, `after_transact_bind_iff`: the rules for a program that keeps a property
  under a condition on the state it starts in;
* `Returns`: what holds of every returned value; `Preserves.bind_of_returns` hands it on.
-/

namespace Effect

universe u

variable {ε σ α β : Type u}

/-- The state a computation ends in, whether it returns or fails. -/
def after (x : EStateM ε σ α) (s : σ) : σ :=
  match x.run s with
  | .ok _ s' => s'
  | .error _ s' => s'

/-- A check or a query: the state is read and stays. -/
def read (f : σ → Except ε α) : EStateM ε σ α := fun s =>
  match f s with
  | .ok a => .ok a s
  | .error e => .error e s

/-- A transaction: it changes the state, or fails and leaves it. -/
def transact (f : σ → Except ε (σ × α)) : EStateM ε σ α := fun s =>
  match f s with
  | .ok (s', a) => .ok a s'
  | .error e => .error e s

/-- An update that cannot fail. -/
def update (f : σ → σ) : EStateM ε σ PUnit := fun s => .ok ⟨⟩ (f s)

/-! ### Results -/

/-- A bind that returned, step by step. -/
lemma bind_eq_ok {x : Except ε α} {f : α → Except ε β} {b : β} (h : x >>= f = .ok b) :
    ∃ a, x = .ok a ∧ f a = .ok b := by
  cases x with
  | error e => exact absurd h (by simp [bind, Except.bind])
  | ok a => exact ⟨a, rfl, h⟩

lemma map_eq_ok {x : Except ε α} {f : α → β} {b : β} (h : x.map f = .ok b) :
    ∃ a, x = .ok a ∧ f a = b := by
  cases x with
  | error e => exact absurd h (by simp [Except.map])
  | ok a => exact ⟨a, rfl, Except.ok.inj h⟩

lemma isOk_iff {x : Except ε α} : x.isOk ↔ ∃ a, x = .ok a := by
  cases x with
  | ok a => simp [Except.isOk, Except.toBool]
  | error e => simp [Except.isOk, Except.toBool]

lemma isOk_unit_iff {ε : Type} {x : Except ε Unit} : x.isOk ↔ x = .ok () := by
  rw [isOk_iff]
  exact ⟨fun ⟨_, h⟩ => h, fun h => ⟨(), h⟩⟩

lemma isOk_map {x : Except ε α} {f : α → β} : (x.map f).isOk = x.isOk := by
  cases x with
  | ok a => rfl
  | error e => rfl

lemma mem_toOption {x : Except ε α} {a : α} : a ∈ x.toOption ↔ x = .ok a := by
  cases x with
  | ok b => simp [Except.toOption]
  | error e => simp [Except.toOption]

/-! ### Running a step -/

lemma run_bind (x : EStateM ε σ α) (f : α → EStateM ε σ β) (s : σ) :
    (x >>= f).run s = match x.run s with
      | .ok a s' => (f a).run s'
      | .error e s' => .error e s' := rfl

lemma run_pure (a : α) (s : σ) : (pure a : EStateM ε σ α).run s = .ok a s := rfl

lemma run_read (f : σ → Except ε α) (s : σ) :
    (read f).run s = match f s with
      | .ok a => .ok a s
      | .error e => .error e s := rfl

lemma run_transact (f : σ → Except ε (σ × α)) (s : σ) :
    (transact f).run s = match f s with
      | .ok (s', a) => .ok a s'
      | .error e => .error e s := rfl

lemma run_update (f : σ → σ) (s : σ) :
    (update f : EStateM ε σ PUnit).run s = .ok ⟨⟩ (f s) := rfl

lemma after_bind (x : EStateM ε σ α) (f : α → EStateM ε σ β) (s : σ) :
    after (x >>= f) s = match x.run s with
      | .ok a s' => after (f a) s'
      | .error _ s' => s' := by
  rw [after, run_bind]
  cases x.run s with
  | ok a s' => rfl
  | error e s' => rfl

/-! ### Runs taken apart -/

lemma bind_run_ok {x : EStateM ε σ α} {f : α → EStateM ε σ β} {s s' : σ} {b : β}
    (h : (x >>= f).run s = .ok b s') :
    ∃ a s1, x.run s = .ok a s1 ∧ (f a).run s1 = .ok b s' := by
  rw [run_bind] at h
  cases hx : x.run s with
  | ok a s1 =>
      rw [hx] at h
      exact ⟨a, s1, rfl, h⟩
  | error e s1 =>
      rw [hx] at h
      exact absurd h (by simp)

lemma bind_run_error {x : EStateM ε σ α} {f : α → EStateM ε σ β} {s s' : σ} {e : ε}
    (h : (x >>= f).run s = .error e s') :
    x.run s = .error e s' ∨ ∃ a s1, x.run s = .ok a s1 ∧ (f a).run s1 = .error e s' := by
  rw [run_bind] at h
  cases hx : x.run s with
  | ok a s1 =>
      rw [hx] at h
      exact Or.inr ⟨a, s1, rfl, h⟩
  | error e1 s1 =>
      rw [hx, EStateM.Result.error.injEq] at h
      exact Or.inl (by rw [h.1, h.2])

lemma read_run_ok {f : σ → Except ε α} {s s' : σ} {a : α} (h : (read f).run s = .ok a s') :
    f s = .ok a ∧ s' = s := by
  rw [run_read] at h
  cases hf : f s with
  | ok b =>
      rw [hf, EStateM.Result.ok.injEq] at h
      exact ⟨by rw [h.1], h.2.symm⟩
  | error e =>
      rw [hf] at h
      exact absurd h (by simp)

lemma read_bind_run_ok_iff {f : σ → Except ε α} {g : α → EStateM ε σ β} {s s' : σ} {b : β} :
    (read f >>= g).run s = .ok b s' ↔ ∃ a, f s = .ok a ∧ (g a).run s = .ok b s' := by
  rw [run_bind, run_read]
  cases f s with
  | ok a => exact ⟨fun h => ⟨a, rfl, h⟩, fun ⟨_, ha, h⟩ => Except.ok.inj ha ▸ h⟩
  | error e => simp

lemma read_run_error {f : σ → Except ε α} {s s' : σ} {e : ε}
    (h : (read f).run s = .error e s') : s' = s := by
  rw [run_read] at h
  cases hf : f s with
  | ok b =>
      rw [hf] at h
      exact absurd h (by simp)
  | error e1 =>
      rw [hf, EStateM.Result.error.injEq] at h
      exact h.2.symm

lemma transact_run_ok {f : σ → Except ε (σ × α)} {s s' : σ} {a : α}
    (h : (transact f).run s = .ok a s') : f s = .ok (s', a) := by
  rw [run_transact] at h
  cases hf : f s with
  | ok p =>
      rw [hf, EStateM.Result.ok.injEq] at h
      rw [← h.1, ← h.2]
  | error e =>
      rw [hf] at h
      exact absurd h (by simp)

lemma transact_run_error {f : σ → Except ε (σ × α)} {s s' : σ} {e : ε}
    (h : (transact f).run s = .error e s') : s' = s := by
  rw [run_transact] at h
  cases hf : f s with
  | ok p =>
      rw [hf] at h
      exact absurd h (by simp)
  | error e1 =>
      rw [hf, EStateM.Result.error.injEq] at h
      exact h.2.symm

/-- What is returned at the end does not matter to the state. -/
lemma after_bind_pure (x : EStateM ε σ α) (f : α → β) (s : σ) :
    after (x >>= fun a => pure (f a)) s = after x s := by
  rw [after_bind, after]
  cases x.run s with
  | ok a s' => rfl
  | error e s' => rfl

/-! ### Keeping a property -/

/-- A property that holds before holds afterwards. -/
def Preserves (P : σ → Prop) (x : EStateM ε σ α) : Prop := ∀ s, P s → P (after x s)

variable {P : σ → Prop}

lemma Preserves.pure (a : α) : Preserves P (Pure.pure a : EStateM ε σ α) := fun _ hs => hs

lemma Preserves.update {f : σ → σ} (h : ∀ s, P s → P (f s)) :
    Preserves P (Effect.update f : EStateM ε σ PUnit) := h

lemma Preserves.bind {x : EStateM ε σ α} {f : α → EStateM ε σ β} (hx : Preserves P x)
    (hf : ∀ a, Preserves P (f a)) : Preserves P (x >>= f) := by
  intro s hs
  have hafter := hx s hs
  rw [after] at hafter
  rw [after_bind]
  cases hrun : x.run s with
  | ok a s' =>
      rw [hrun] at hafter
      exact hf a s' hafter
  | error e s' =>
      rw [hrun] at hafter
      exact hafter

/-- After a check the rest is run exactly if the check passed. -/
lemma after_read_bind_iff {f : σ → Except ε α} {g : α → EStateM ε σ β} {s : σ} (hs : P s) :
    P (after (Effect.read f >>= g) s) ↔ ∀ a, f s = .ok a → P (after (g a) s) := by
  rw [after_bind, run_read]
  cases hf : f s with
  | ok a => exact ⟨fun h _ ha => Except.ok.inj ha ▸ h, fun h => h a rfl⟩
  | error e => exact ⟨fun _ _ ha => absurd ha (by simp), fun _ => hs⟩

lemma after_read_bind {f : σ → Except ε α} {g : α → EStateM ε σ β} {s : σ} (hs : P s)
    (h : ∀ a, f s = .ok a → P (after (g a) s)) : P (after (Effect.read f >>= g) s) :=
  (after_read_bind_iff hs).mpr h

/-- After a transaction the rest is run exactly if the transaction was committed. -/
lemma after_transact_bind_iff {f : σ → Except ε (σ × α)} {g : α → EStateM ε σ β} {s : σ}
    (hs : P s) : P (after (Effect.transact f >>= g) s) ↔
      ∀ s' a, f s = .ok (s', a) → P (after (g a) s') := by
  rw [after_bind, run_transact]
  cases hf : f s with
  | ok p =>
      refine ⟨fun h s' a hp => ?_, fun h => h p.1 p.2 rfl⟩
      obtain rfl := Except.ok.inj hp
      exact h
  | error e => exact ⟨fun _ _ _ hp => absurd hp (by simp), fun _ => hs⟩

lemma after_transact_bind {f : σ → Except ε (σ × α)} {g : α → EStateM ε σ β} {s : σ} (hs : P s)
    (h : ∀ s' a, f s = .ok (s', a) → P (after (g a) s')) :
    P (after (Effect.transact f >>= g) s) :=
  (after_transact_bind_iff hs).mpr h

/-! ### Returned values -/

/-- Whatever is returned satisfies `Q`. -/
def Returns (Q : α → Prop) (x : EStateM ε σ α) : Prop := ∀ s a s', x.run s = .ok a s' → Q a

lemma Returns.pure {Q : α → Prop} {a : α} (h : Q a) : Returns Q (Pure.pure a : EStateM ε σ α) := by
  intro s b s' hrun
  rw [run_pure, EStateM.Result.ok.injEq] at hrun
  exact hrun.1 ▸ h

/-- What a bind returns is returned by its second part. -/
lemma Returns.bind {Q : β → Prop} {x : EStateM ε σ α} {f : α → EStateM ε σ β}
    (hf : ∀ a, Returns Q (f a)) : Returns Q (x >>= f) := by
  intro s b s' hrun
  obtain ⟨a, s1, -, hrest⟩ := bind_run_ok hrun
  exact hf a s1 b s' hrest

/-- The second part of a bind may rely on what the first part returns. -/
lemma Preserves.bind_of_returns {Q : α → Prop} {x : EStateM ε σ α} {f : α → EStateM ε σ β}
    (hx : Preserves P x) (hreturns : Returns Q x) (hf : ∀ a, Q a → Preserves P (f a)) :
    Preserves P (x >>= f) := by
  intro s hs
  have hafter := hx s hs
  rw [after] at hafter
  rw [after_bind]
  cases hrun : x.run s with
  | ok a s' =>
      rw [hrun] at hafter
      exact hf a (hreturns s a s' hrun) s' hafter
  | error e s' =>
      rw [hrun] at hafter
      exact hafter

end Effect
