import Vussa.Outbox.Claims
import Vussa.Lib.Tokens

/-!
How often an event is dispatched, and what happens to a published one. A row in the batch of a
worker has the `attempts` it was claimed with, so that its identifier and its `attempts` name the
claim it comes from. These names are tokens: a claim issues one, a dispatch spends it.

* `dispatched`, `claimed`, `dispatches`: what an action and a run dispatch and claim;
* `batchStep`: what a step does to the batches of the workers;
* `Ledger`, `purse_cases`: the claims whose dispatch is to come and those dispatched;
* `Ticketed`: every name belongs to a claim that `attempts` has counted, in every state of a run;
* `Settled`: a published row of the table, which stays as it is;
* `dispatched_at_most_five`: **every event is claimed and dispatched at most five times, and no
  claim selects it once it is published**.
-/

namespace Vussa.Outbox

open Run Tokens

/-! ### Dispatches -/

/-- The rows of a worker's batch that are still to be dispatched. -/
def Phase.rows : Phase → List EventRow
  | .dispatching rows => rows
  | .finishing _ _ rest => rest
  | .idle | .claiming _ => []

/-- The row that an action dispatches. -/
def dispatched (s : State) : Act → Option EventRow
  | .dispatch w _ =>
      match s.phase w with
      | .dispatching (row :: _) => some row
      | _ => none
  | _ => none

/-- The events that an action claims. -/
def claimed (s : State) : Act → List Uuid
  | .claim w locked =>
      match s.phase w with
      | .claiming now => nextIds now locked s.events
      | _ => []
  | _ => []

/-- The rows that a run dispatches. -/
def dispatches : State → List Act → List EventRow
  | _, [] => []
  | s, a :: as => (dispatched s a).toList ++ dispatches (step s a) as

@[simp] lemma rows_afterRow (rows : List EventRow) : (afterRow rows).rows = rows := by
  cases rows with
  | nil => rfl
  | cons row rows => rfl

/-! ### Rows along a step -/

/-- A row is still there after a step, as `RowStep` says. -/
lemma exists_rowStep {s : State} (hwf : WellFormed s.events) (a : Act) {e : EventRow}
    (he : e ∈ s.events) : ∃ e' ∈ (step s a).events, RowStep s.now e e' := by
  obtain ⟨e', he', hid⟩ := exists_mem_step a ⟨e, he, rfl⟩
  rcases mem_step_events hwf he' with ⟨-, hnew⟩ | ⟨f, hf, hrow⟩
  · exact absurd hid.symm (hnew e he)
  · obtain rfl : f = e := List.inj_on_of_nodup_map hwf hf he (hrow.id_eq.symm.trans hid)
    exact ⟨e', he', hrow⟩

/-- An event that an action claims is claimable. -/
lemma claimable_of_mem_claimed {s : State} (hwf : WellFormed s.events) {a : Act} {e : EventRow}
    (he : e ∈ s.events) (h : e.id ∈ claimed s a) : ∃ t, claimable t e := by
  cases a with
  | claim w locked =>
      simp only [claimed] at h
      split at h
      · rename_i now _
        exact ⟨now, claimable_of_mem_nextIds hwf he h⟩
      · exact absurd h List.not_mem_nil
  | _ => exact absurd h List.not_mem_nil

/-- What an action does to the batch of the worker it moves: rows are left out, a new batch is
claimed, or the first row is dispatched. -/
inductive BatchStep (s : State) (w : ℕ) : Act → Phase → Option EventRow → Prop
  | keep {a : Act} {p : Phase} (h : p.rows.Sublist (s.phase w).rows) : BatchStep s w a p none
  | claim {now : ℤ} {locked : List Uuid} {p : Phase} (h : s.phase w = .claiming now)
      (hrows : p.rows = (claimEvents now locked s.events).2) :
      BatchStep s w (.claim w locked) p none
  | dispatch {ok : Bool} {p : Phase} {row : EventRow} (h : (s.phase w).rows = row :: p.rows) :
      BatchStep s w (.dispatch w ok) p (some row)

/-- **Inversion of a step** for the batches: one worker is moved. -/
lemma batchStep (s : State) (a : Act) :
    ∃ w p, (step s a).phase = Function.update s.phase w p ∧
      BatchStep s w a p (dispatched s a) := by
  have hsame : (step s a).phase = s.phase → dispatched s a = none →
      ∃ w p, (step s a).phase = Function.update s.phase w p ∧
        BatchStep s w a p (dispatched s a) := fun hphase hnone =>
    ⟨0, s.phase 0, by rw [hphase, Function.update_eq_self], hnone ▸ .keep (List.Sublist.refl _)⟩
  cases a with
  | tick d => exact hsame rfl rfl
  | queueAuthInvalidation id u => exact hsame rfl rfl
  | queueNotificationRetry id a m => exact hsame rfl rfl
  | crash w => exact ⟨w, .idle, rfl, .keep (List.nil_sublist _)⟩
  | readClock w =>
      cases hphase : s.phase w with
      | idle => exact ⟨w, .claiming s.now, by rw [step, hphase]; rfl, .keep (List.nil_sublist _)⟩
      | _ => exact hsame (by rw [step, hphase]) rfl
  | claimError w =>
      cases hphase : s.phase w with
      | claiming now => exact ⟨w, .idle, by rw [step, hphase]; rfl, .keep (List.nil_sublist _)⟩
      | _ => exact hsame (by rw [step, hphase]) rfl
  | claim w locked =>
      cases hphase : s.phase w with
      | claiming now =>
          exact ⟨w, afterRow (claimEvents now locked s.events).2, by rw [step, hphase]; rfl,
            .claim hphase (rows_afterRow _)⟩
      | _ => exact hsame (by rw [step, hphase]) rfl
  | dispatch w ok =>
      cases hphase : s.phase w with
      | dispatching rows =>
          cases rows with
          | nil => exact hsame (by rw [step, hphase]) (by rw [dispatched, hphase])
          | cons row rest =>
              refine ⟨w, .finishing row (Outbox.dispatch row.topic ok) rest,
                by rw [step, hphase]; rfl, ?_⟩
              rw [dispatched, hphase]
              exact .dispatch (by rw [hphase]; rfl)
      | _ => exact hsame (by rw [step, hphase]) (by rw [dispatched, hphase])
  | finish w =>
      cases hphase : s.phase w with
      | finishing row delivered rest =>
          exact ⟨w, afterRow rest, by rw [step, hphase]; rfl,
            .keep (by rw [hphase, rows_afterRow]; exact List.Sublist.refl _)⟩
      | _ => exact hsame (by rw [step, hphase]) rfl
  | finishError w =>
      cases hphase : s.phase w with
      | finishing row delivered rest =>
          exact ⟨w, afterRow rest, by rw [step, hphase]; rfl,
            .keep (by rw [hphase, rows_afterRow]; exact List.Sublist.refl _)⟩
      | _ => exact hsame (by rw [step, hphase]) rfl

/-- A row to be dispatched was to be dispatched before, or has just been claimed. -/
lemma rows_step (s : State) (a : Act) (v : ℕ) {row : EventRow}
    (h : row ∈ ((step s a).phase v).rows) :
    row ∈ (s.phase v).rows ∨ row.id ∈ claimed s a := by
  obtain ⟨w, p, hphase, hbatch⟩ := batchStep s a
  rw [hphase] at h
  by_cases hvw : v = w
  · subst hvw
    rw [Function.update_self] at h
    generalize dispatched s a = row? at hbatch
    cases hbatch with
    | keep hsub => exact Or.inl (hsub.subset h)
    | claim hclaiming hrows =>
        rw [hrows] at h
        rw [claimed, hclaiming]
        exact Or.inr (of_decide_eq_true (List.mem_filter.mp h).2)
    | dispatch hrows => exact Or.inl (hrows ▸ List.mem_cons_of_mem _ h)
  · rw [Function.update_of_ne hvw] at h
    exact Or.inl h

/-! ### Claims as tokens -/

/-- The claim a row of a batch comes from: the event and the number of claims before. -/
def EventRow.ticket (e : EventRow) : Uuid × ℕ := (e.id, e.attempts)

/-- The outbox with the claims whose row has been dispatched: no code reads it. -/
structure Ledger where
  state : State
  spent : List (Uuid × ℕ) := []

/-- One step. -/
def Ledger.step (t : Ledger) (a : Act) : Ledger :=
  { state := Outbox.step t.state a
    spent := t.spent ++ (dispatched t.state a).toList.map EventRow.ticket }

lemma final_ledger (t : Ledger) (as : List Act) :
    final Ledger.step t as =
      { state := final step t.state as
        spent := t.spent ++ (dispatches t.state as).map EventRow.ticket } := by
  induction as generalizing t with
  | nil => simp [dispatches]
  | cons a as ih => rw [final_cons, ih]; simp [Ledger.step, dispatches]

/-- The tokens of the workers. -/
def Ledger.purse (t : Ledger) : Purse ℕ (Uuid × ℕ) :=
  ⟨fun w => (t.state.phase w).rows.map EventRow.ticket, t.spent⟩

/-- The tokens after a step: a worker keeps some of its own, or claims, or dispatches. -/
lemma purse_cases (t : Ledger) (a : Act) :
    ∃ w, (∃ ts, ts.Sublist (t.purse.held w) ∧ (t.step a).purse = t.purse.hold w ts) ∨
      (∃ now locked, a = .claim w locked ∧ t.state.phase w = .claiming now ∧
        (t.step a).purse = t.purse.hold w
          ((claimEvents now locked t.state.events).2.map EventRow.ticket)) ∨
      ∃ k ts, t.purse.held w = k :: ts ∧ (t.step a).purse = t.purse.spend w k ts := by
  obtain ⟨w, p, hphase, hbatch⟩ := batchStep t.state a
  have hheld : (fun v => ((step t.state a).phase v).rows.map EventRow.ticket) =
      (t.purse.hold w (p.rows.map EventRow.ticket)).held := by
    funext v
    rw [hphase]
    by_cases hvw : v = w
    · rw [hvw, Function.update_self, Purse.hold_self]
    · rw [Function.update_of_ne hvw, Purse.hold_of_ne _ hvw]
      rfl
  have hpurse : ∀ row?, dispatched t.state a = row? → (t.step a).purse =
      { t.purse.hold w (p.rows.map EventRow.ticket) with
        spent := t.purse.spent ++ row?.toList.map EventRow.ticket } := by
    rintro row? rfl
    rw [Ledger.purse, Ledger.step, hheld]
    rfl
  refine ⟨w, ?_⟩
  generalize hrow : dispatched t.state a = row? at hbatch
  cases hbatch with
  | keep hsub =>
      refine Or.inl ⟨_, hsub.map EventRow.ticket, ?_⟩
      rw [hpurse none hrow, Option.toList_none, List.map_nil, List.append_nil]
      rfl
  | @claim now locked _ hclaiming hrows =>
      refine Or.inr (Or.inl ⟨now, locked, rfl, hclaiming, ?_⟩)
      rw [hpurse none hrow, Option.toList_none, List.map_nil, List.append_nil, hrows]
      rfl
  | @dispatch ok _ row hrows =>
      refine Or.inr (Or.inr ⟨row.ticket, p.rows.map EventRow.ticket, ?_, hpurse _ hrow⟩)
      change (t.state.phase w).rows.map EventRow.ticket = _
      rw [hrows, List.map_cons]

/-- Every token belongs to a claim of its event, and is in one place. -/
structure Ticketed (t : Ledger) : Prop where
  key : WellFormed t.state.events
  cap : ∀ e ∈ t.state.events, e.attempts ≤ attemptCap
  issued : ∀ k, t.purse.InUse k → ∃ e ∈ t.state.events, e.id = k.1 ∧ k.2 < e.attempts
  linear : t.purse.Linear

/-- The tokens of a claim are new. -/
lemma Ticketed.fresh {t : Ledger} (h : Ticketed t) {e : EventRow} (he : e ∈ t.state.events) :
    ¬ t.purse.InUse e.ticket := by
  intro hused
  obtain ⟨f, hf, hid, hlt⟩ := h.issued _ hused
  obtain rfl : f = e := List.inj_on_of_nodup_map h.key hf he hid
  exact lt_irrefl _ hlt

lemma ticketed_init (now : ℤ) : Ticketed { state := init now } :=
  ⟨List.nodup_nil, fun e he => absurd he List.not_mem_nil,
    fun k hk => by simp [Ledger.purse, init, Phase.rows, Purse.InUse] at hk,
    Purse.linear_empty⟩

/-- One step keeps the tokens in order. -/
lemma step_ticketed (t : Ledger) (a : Act) (h : Ticketed t) : Ticketed (t.step a) := by
  have hgrow : ∀ k, t.purse.InUse k →
      ∃ e ∈ (t.step a).state.events, e.id = k.1 ∧ k.2 < e.attempts := by
    intro k hk
    obtain ⟨e, he, hid, hlt⟩ := h.issued k hk
    obtain ⟨e', he', hrow⟩ := exists_rowStep h.key a he
    exact ⟨e', he', hrow.id_eq.trans hid, hlt.trans_le hrow.attempts_le⟩
  have hcap : ∀ e ∈ (t.step a).state.events, e.attempts ≤ attemptCap := by
    intro e' he'
    rcases mem_step_events h.key he' with ⟨hzero, -⟩ | ⟨e, he, hrow⟩
    · rw [hzero]
      exact Nat.zero_le _
    · cases hrow with
      | same => exact h.cap _ he
      | claim now hclaim => exact hclaim.2.1
      | finish d hpub =>
          rw [EventRow.finish_attempts]
          exact h.cap e he
  obtain ⟨w, ⟨ts, hsub, heq⟩ | ⟨now, locked, rfl, hphase, heq⟩ | ⟨k, ts, hheld, heq⟩⟩ :=
    purse_cases t a
  · refine ⟨step_wellFormed _ a h.key, hcap, fun k hk => hgrow k ?_, ?_⟩
    · rw [heq] at hk
      exact Purse.inUse_of_keep hsub hk
    · rw [heq]
      exact h.linear.keep w hsub
  · refine ⟨step_wellFormed _ _ h.key, hcap, fun k hk => ?_, ?_⟩
    · rw [heq] at hk
      rcases Purse.inUse_of_hold hk with hold | hnew
      · exact hgrow k hold
      · -- a row of the new batch: its event has been claimed once more
        obtain ⟨e, he, rfl⟩ := List.mem_map.mp hnew
        obtain ⟨hmem, hnext⟩ := List.mem_filter.mp he
        refine ⟨e.claim now, ?_, rfl, Nat.lt_succ_self _⟩
        simp only [Ledger.step, step, hphase]
        exact List.mem_map.mpr ⟨e, hmem, if_pos (of_decide_eq_true hnext)⟩
    · rw [heq]
      refine h.linear.issue w ?_ fun k hk => ?_
      · have hids : ((claimEvents now locked t.state.events).2.map EventRow.id).Nodup :=
          h.key.sublist (List.filter_sublist.map _)
        refine List.Nodup.of_map Prod.fst ?_
        rw [List.map_map]
        exact hids
      · obtain ⟨e, he, rfl⟩ := List.mem_map.mp hk
        exact h.fresh (List.mem_of_mem_filter he)
  · refine ⟨step_wellFormed _ a h.key, hcap, fun k' hk => hgrow k' ?_, ?_⟩
    · rw [heq] at hk
      exact Purse.inUse_of_spend hheld hk
    · rw [heq]
      exact h.linear.spend hheld

/-- The tokens along a run. -/
lemma final_ticketed (now : ℤ) (as : List Act) :
    Ticketed { state := final step (init now) as
               spent := (dispatches (init now) as).map EventRow.ticket } := by
  have h := final_invariant (I := Ticketed) step_ticketed (ticketed_init now) as
  rw [final_ledger] at h
  exact h

/-- An event has at most as many dispatches as the cap allows claims. -/
lemma dispatches_le (now : ℤ) (as : List Act) (id : Uuid) :
    ((dispatches (init now) as).filter fun row => row.id = id).length ≤ attemptCap := by
  have h := final_ticketed now as
  have hle := h.linear.spent_le (P := fun k => k.1 = id)
    (S := (Finset.range attemptCap).map ⟨fun n => (id, n), fun m n hmn => by simpa using hmn⟩)
    fun k hk hid => by
      obtain ⟨e, he, -, hlt⟩ := h.issued k (Or.inr hk)
      exact Finset.mem_map.mpr
        ⟨k.2, Finset.mem_range.mpr (hlt.trans_le (h.cap e he)), Prod.ext hid.symm rfl⟩
  rw [Finset.card_map, Finset.card_range] at hle
  refine le_trans (le_of_eq ?_) hle
  change _ = (((dispatches (init now) as).map EventRow.ticket).filter fun k => k.1 = id).length
  rw [List.filter_map, List.length_map]
  rfl

/-! ### Published events -/

/-- A row of the table is published. -/
structure Settled (e : EventRow) (s : State) : Prop where
  key : WellFormed s.events
  mem : e ∈ s.events
  published : e.publishedAt ≠ none

variable {e : EventRow}

/-- A published row stays as it is. -/
lemma step_settled (s : State) (a : Act) (h : Settled e s) : Settled e (step s a) := by
  refine ⟨step_wellFormed s a h.key, ?_, h.published⟩
  obtain ⟨e', he', hrow⟩ := exists_rowStep h.key a h.mem
  cases hrow with
  | same => exact he'
  | claim t hclaim => exact absurd hclaim.1 h.published
  | finish d hpub => exact absurd hpub h.published

lemma Settled.not_claimed {s : State} (h : Settled e s) (a : Act) : e.id ∉ claimed s a := by
  intro hmem
  obtain ⟨t, hclaim⟩ := claimable_of_mem_claimed h.key h.mem hmem
  exact h.published hclaim.1

/-- The action is not a dispatch of the event by the worker. -/
def NotDispatched (w : ℕ) (id : Uuid) (s : State) (a : Act) : Prop :=
  ∀ ok, a = .dispatch w ok → ∀ row ∈ dispatched s a, row.id ≠ id

/-- A worker whose batch lacks a published event never dispatches it. -/
lemma along_notDispatched {w : ℕ} {s : State} (h : Settled e s)
    (hrows : ∀ row ∈ (s.phase w).rows, row.id ≠ e.id) (as : List Act) :
    Along step (NotDispatched w e.id) s as := by
  induction as generalizing s with
  | nil => trivial
  | cons a as ih =>
      refine ⟨?_, ih (step_settled s a h) fun row hrow => ?_⟩
      · rintro ok rfl row hrow
        cases hphase : s.phase w with
        | dispatching rows =>
            cases rows with
            | nil => simp [dispatched, hphase] at hrow
            | cons row' rest =>
                obtain rfl : row' = row := by simpa [dispatched, hphase] using hrow
                exact hrows row' (by simp [hphase, Phase.rows])
        | idle => simp [dispatched, hphase] at hrow
        | claiming now => simp [dispatched, hphase] at hrow
        | finishing row' d rest => simp [dispatched, hphase] at hrow
      · rcases rows_step s a w hrow with hold | hnew
        · exact hrows row hold
        · exact fun hid => h.not_claimed a (hid ▸ hnew)

/-- A batch claimed after the publication lacks the event. -/
lemma Settled.batch {s : State} (h : Settled e s) {w : ℕ} {now : ℤ} (locked : List Uuid)
    (hphase : s.phase w = .claiming now) :
    ∀ row ∈ ((step s (.claim w locked)).phase w).rows, row.id ≠ e.id := by
  intro row hrow hid
  rcases rows_step s (.claim w locked) w hrow with hold | hnew
  · rw [hphase] at hold
    exact absurd hold List.not_mem_nil
  · exact h.not_claimed _ (hid ▸ hnew)

/-- **Bounded attempts.** In every run of any number of workers every event is dispatched at most
five times; its `attempts` never exceeds five and never decreases; and once it is published, its
`published_at` stays, no claim selects it, and no batch claimed from then on dispatches it. -/
theorem dispatched_at_most_five (now : ℤ) (as : List Act) :
    (∀ id, ((dispatches (init now) as).filter fun row => row.id = id).length ≤ 5) ∧
    ∀ e ∈ (final step (init now) as).events, e.attempts ≤ 5 ∧ ∀ bs,
      (∃ e' ∈ (final step (init now) (as ++ bs)).events, e'.id = e.id ∧
        e.attempts ≤ e'.attempts ∧ ∀ t, e.publishedAt = some t → e'.publishedAt = some t) ∧
      (e.publishedAt ≠ none →
        Along step (fun s a => e.id ∉ claimed s a) (final step (init now) as) bs ∧
        ∀ cs w locked ds, bs = cs ++ .claim w locked :: ds →
          ∀ s, s = final step (init now) (as ++ cs) → (∃ t, s.phase w = .claiming t) →
            Along step (NotDispatched w e.id) (step s (.claim w locked)) ds) := by
  have h := final_ticketed now as
  refine ⟨dispatches_le now as, fun e he => ⟨h.cap e he, fun bs => ⟨?_, fun hpub => ?_⟩⟩⟩
  · have hkept : ∀ s a, (WellFormed s.events ∧ ∃ e' ∈ s.events, e'.id = e.id ∧
        e.attempts ≤ e'.attempts ∧ ∀ t, e.publishedAt = some t → e'.publishedAt = some t) →
        WellFormed (step s a).events ∧ ∃ e' ∈ (step s a).events, e'.id = e.id ∧
        e.attempts ≤ e'.attempts ∧ ∀ t, e.publishedAt = some t → e'.publishedAt = some t := by
      rintro s a ⟨hwf, e', he', hid, hle, hpub⟩
      obtain ⟨e₂, he₂, hrow⟩ := exists_rowStep hwf a he'
      refine ⟨step_wellFormed s a hwf, e₂, he₂, hrow.id_eq.trans hid, hle.trans hrow.attempts_le,
        fun t ht => ?_⟩
      cases hrow with
      | same => exact hpub t ht
      | claim u hclaim => exact hpub t ht
      | finish d hnone => exact absurd (hpub t ht) (by rw [hnone]; simp)
    rw [final_append]
    exact (final_invariant hkept ⟨h.key, e, he, rfl, le_rfl, fun t ht => ht⟩ bs).2
  · have hsettled : Settled e (final step (init now) as) := ⟨h.key, he, hpub⟩
    have hlater : ∀ cs, Settled e (final step (init now) (as ++ cs)) := fun cs => by
      rw [final_append]
      exact final_invariant (I := Settled e) step_settled hsettled cs
    refine ⟨Along.of_invariant (C := fun _ _ => True) (fun s a hs _ => step_settled s a hs)
      (fun s a hs _ => hs.not_claimed a) hsettled (along_of_forall _ fun _ _ => trivial), ?_⟩
    rintro cs w locked ds - s rfl ⟨t, hphase⟩
    exact along_notDispatched (step_settled _ _ (hlater cs)) ((hlater cs).batch locked hphase) ds

end Vussa.Outbox
