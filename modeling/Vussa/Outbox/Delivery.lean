import Vussa.Outbox.Model

/-!
Which unpublished events of the outbox can still be delivered.

* `mem_step_events`: everything a step can do to a row, the claiming and the finishing update
  included; the invariants below are read off it;
* `WellFormed`: the primary key, kept by every step;
* `deliverable_iff`: an unpublished row is selected at some later instant exactly when it has
  been claimed fewer than five times, however long its current claim runs;
* `Spent`: a row at the cap stays at the cap, so no continuation of the run claims it again.
-/

namespace Vussa.Outbox

open Run

/-! ### What a step does to a row -/

/-- The primary key of `outbox_events`. -/
def WellFormed (events : List EventRow) : Prop := (events.map EventRow.id).Nodup

/-- Under the primary key, a row whose id `next` selects meets the `WHERE` clause itself. -/
lemma claimable_of_mem_nextIds {now : ℤ} {locked : List Uuid} {events : List EventRow}
    (hwf : WellFormed events) {e : EventRow} (he : e ∈ events)
    (h : e.id ∈ nextIds now locked events) : claimable now e := by
  obtain ⟨f, hf, hid⟩ := List.mem_map.mp h
  have hf' : f ∈ events.filter fun e => claimable now e ∧ e.id ∉ locked :=
    (List.mem_insertionSort _).mp (List.mem_of_mem_take hf)
  obtain ⟨hmem, hclaim⟩ := List.mem_filter.mp hf'
  have hfe : f = e := List.inj_on_of_nodup_map hwf hmem he hid
  rw [← hfe]
  simp only [decide_eq_true_eq] at hclaim
  exact hclaim.1

/-- A row that `insertEvent` leaves in the table was there before, or is the new one. -/
lemma mem_insertEvent {id : Uuid} {topic : Topic} {payload : Payload} {t : ℤ}
    {events : List EventRow} {e : EventRow} (h : e ∈ insertEvent id topic payload t events) :
    e ∈ events ∨ (e.attempts = 0 ∧ ∀ f ∈ events, f.id ≠ e.id) := by
  rw [insertEvent] at h
  split_ifs at h with hid
  · exact Or.inl h
  · rcases List.mem_append.mp h with h | h
    · exact Or.inl h
    · rw [List.mem_singleton.mp h]
      exact Or.inr ⟨rfl, fun f hf hfe => hid ⟨f, hf, hfe⟩⟩

/-- A row that `queueNotificationRetry` leaves in the table was there before, or is the new
one. -/
lemma mem_queueNotificationRetry {id a m : Uuid} {t : ℤ} {events : List EventRow} {e : EventRow}
    (h : e ∈ queueNotificationRetry id a m t events) :
    e ∈ events ∨ (e.attempts = 0 ∧ ∀ f ∈ events, f.id ≠ e.id) := by
  rw [queueNotificationRetry] at h
  split_ifs at h with hdup
  · exact Or.inl h
  · exact mem_insertEvent h

/-- How a step may leave a row `e`: as it is, claimed where the `WHERE` clause selects it, or
finished where it is unpublished. -/
inductive RowStep (now : ℤ) (e : EventRow) : EventRow → Prop
  | same : RowStep now e e
  | claim (t : ℤ) (h : claimable t e) : RowStep now e (e.claim t)
  | finish (delivered : Bool) (h : e.publishedAt = none) :
      RowStep now e (e.finish now delivered)

/-- **Inversion of a step**: a row after the step is new and unclaimed, or stems from a row
before it. -/
theorem mem_step_events {s : State} (hwf : WellFormed s.events) {a : Act} {e' : EventRow}
    (h : e' ∈ (step s a).events) :
    (e'.attempts = 0 ∧ ∀ f ∈ s.events, f.id ≠ e'.id) ∨ ∃ e ∈ s.events, RowStep s.now e e' := by
  have hsame : e' ∈ s.events → (e'.attempts = 0 ∧ ∀ f ∈ s.events, f.id ≠ e'.id) ∨
      ∃ e ∈ s.events, RowStep s.now e e' := fun he => Or.inr ⟨e', he, .same⟩
  cases a with
  | tick d => exact hsame h
  | queueAuthInvalidation id u =>
      exact (mem_insertEvent h).elim hsame Or.inl
  | queueNotificationRetry id a m =>
      exact (mem_queueNotificationRetry h).elim hsame Or.inl
  | readClock w => simp only [step] at h; split at h <;> exact hsame h
  | claimError w => simp only [step] at h; split at h <;> exact hsame h
  | dispatch w ok => simp only [step] at h; split at h <;> exact hsame h
  | finishError w => simp only [step] at h; split at h <;> exact hsame h
  | crash w => exact hsame h
  | claim w locked =>
      simp only [step] at h
      split at h
      · rename_i now _
        obtain ⟨e, he, rfl⟩ := List.mem_map.mp h
        refine Or.inr ⟨e, he, ?_⟩
        split_ifs with hnext
        · exact .claim now (claimable_of_mem_nextIds hwf he hnext)
        · exact .same
      · exact hsame h
  | finish w =>
      simp only [step] at h
      split at h
      · obtain ⟨e, he, rfl⟩ := List.mem_map.mp h
        refine Or.inr ⟨e, he, ?_⟩
        split_ifs with hrow
        · exact .finish _ hrow.2
        · exact .same
      · exact hsame h

lemma EventRow.finish_id (now : ℤ) (d : Bool) (e : EventRow) : (e.finish now d).id = e.id := by
  rw [EventRow.finish]; split_ifs <;> rfl

lemma EventRow.finish_attempts (now : ℤ) (d : Bool) (e : EventRow) :
    (e.finish now d).attempts = e.attempts := by
  rw [EventRow.finish]; split_ifs <;> rfl

lemma RowStep.id_eq {now : ℤ} {e e' : EventRow} (h : RowStep now e e') : e'.id = e.id := by
  cases h with
  | same => rfl
  | claim t h => rfl
  | finish d h => exact EventRow.finish_id now d e

/-- A step never lowers `attempts`. -/
lemma RowStep.attempts_le {now : ℤ} {e e' : EventRow} (h : RowStep now e e') :
    e.attempts ≤ e'.attempts := by
  cases h with
  | same => exact le_rfl
  | claim t h => exact Nat.le_succ _
  | finish d h => rw [EventRow.finish_attempts]

/-! ### The primary key -/

lemma insertEvent_wellFormed {id : Uuid} {topic : Topic} {payload : Payload} {t : ℤ}
    {events : List EventRow} (hwf : WellFormed events) :
    WellFormed (insertEvent id topic payload t events) := by
  rw [insertEvent]
  split_ifs with hid
  · exact hwf
  · rw [WellFormed, List.map_append, List.nodup_append]
    refine ⟨hwf, by simp, fun i hi j hj => ?_⟩
    obtain ⟨e, he, rfl⟩ := List.mem_map.mp hi
    rw [List.map_singleton, List.mem_singleton] at hj
    exact fun heq => hid ⟨e, he, heq.trans hj⟩

/-- An update of the rows in place keeps their ids, hence the primary key. -/
lemma wellFormed_map {events : List EventRow} (hwf : WellFormed events) {f : EventRow → EventRow}
    (hf : ∀ e, (f e).id = e.id) : WellFormed (events.map f) := by
  have hids : EventRow.id ∘ f = EventRow.id := funext hf
  rw [WellFormed, List.map_map, hids]
  exact hwf

lemma claimEvents_wellFormed {now : ℤ} {locked : List Uuid} {events : List EventRow}
    (hwf : WellFormed events) : WellFormed (claimEvents now locked events).1 :=
  wellFormed_map hwf fun e => by split_ifs <;> rfl

lemma finishEvent_wellFormed {now : ℤ} {id : Uuid} {d : Bool} {events : List EventRow}
    (hwf : WellFormed events) : WellFormed (finishEvent now id d events) :=
  wellFormed_map hwf fun e => by
    split_ifs
    · exact EventRow.finish_id now d e
    · rfl

lemma step_wellFormed (s : State) (a : Act) (hwf : WellFormed s.events) :
    WellFormed (step s a).events := by
  cases a with
  | tick d => exact hwf
  | queueAuthInvalidation id u => exact insertEvent_wellFormed hwf
  | queueNotificationRetry id a m =>
      simp only [step, queueNotificationRetry]
      split_ifs
      · exact hwf
      · exact insertEvent_wellFormed hwf
  | readClock w => simp only [step]; split <;> exact hwf
  | claimError w => simp only [step]; split <;> exact hwf
  | dispatch w ok => simp only [step]; split <;> exact hwf
  | finishError w => simp only [step]; split <;> exact hwf
  | crash w => exact hwf
  | claim w locked =>
      simp only [step]
      split
      · exact claimEvents_wellFormed hwf
      · exact hwf
  | finish w =>
      simp only [step]
      split
      · exact finishEvent_wellFormed hwf
      · exact hwf

/-- The primary key holds in every reachable state. -/
lemma final_wellFormed (now : ℤ) (as : List Act) :
    WellFormed (final step (init now) as).events := by
  have h0 : WellFormed (init now).events := List.nodup_nil
  exact final_invariant (I := fun s : State => WellFormed s.events) step_wellFormed h0 as

/-! ### Deliverable events -/

/-- The row is selected by the `WHERE` clause at some instant from `now` on, if nothing else
happens to it. -/
def Deliverable (now : ℤ) (e : EventRow) : Prop := ∃ t, now ≤ t ∧ claimable t e

/-- Waiting out the claim timeout is enough: an unpublished row is deliverable exactly below the
attempt cap. -/
theorem deliverable_iff (now : ℤ) {e : EventRow} (hpub : e.publishedAt = none) :
    Deliverable now e ↔ e.attempts < attemptCap := by
  refine ⟨?_, ?_⟩
  · rintro ⟨t, -, -, hcap, -⟩
    exact hcap
  · intro hcap
    cases hc : e.claimedAt with
    | none => exact ⟨now, le_rfl, hpub, hcap, fun c hc' => by simp [hc] at hc'⟩
    | some c =>
        refine ⟨max now (c + claimTimeoutMillis + 1), le_max_left _ _, hpub, hcap,
          fun c' hc' => ?_⟩
        have hcc : c = c' := by simpa [hc] using hc'
        have hle := le_max_right now (c + claimTimeoutMillis + 1)
        omega

/-! ### The attempt cap -/

/-- The row `id` exists and has been claimed as often as the cap allows. -/
def Spent (id : Uuid) (s : State) : Prop :=
  WellFormed s.events ∧ (∃ e ∈ s.events, e.id = id) ∧
    ∀ e ∈ s.events, e.id = id → attemptCap ≤ e.attempts

/-- Rows are never removed. -/
lemma exists_mem_step {s : State} {id : Uuid} (a : Act) (h : ∃ e ∈ s.events, e.id = id) :
    ∃ e ∈ (step s a).events, e.id = id := by
  have hins : ∀ {i : Uuid} {topic : Topic} {payload : Payload} {t : ℤ},
      ∃ e ∈ insertEvent i topic payload t s.events, e.id = id := by
    obtain ⟨e, he, hid⟩ := h
    intro i topic payload t
    refine ⟨e, ?_, hid⟩
    rw [insertEvent]
    split_ifs
    · exact he
    · exact List.mem_append_left _ he
  have hmap : ∀ {f : EventRow → EventRow}, (∀ e, (f e).id = e.id) →
      ∃ e ∈ s.events.map f, e.id = id := by
    obtain ⟨e, he, hid⟩ := h
    exact fun {f} hf => ⟨f e, List.mem_map_of_mem he, (hf e).trans hid⟩
  cases a with
  | tick d => exact h
  | queueAuthInvalidation id u => exact hins
  | queueNotificationRetry id a m =>
      simp only [step, queueNotificationRetry]
      split_ifs
      · exact h
      · exact hins
  | readClock w => simp only [step]; split <;> exact h
  | claimError w => simp only [step]; split <;> exact h
  | dispatch w ok => simp only [step]; split <;> exact h
  | finishError w => simp only [step]; split <;> exact h
  | crash w => exact h
  | claim w locked =>
      simp only [step]
      split
      · exact hmap fun e => by split_ifs <;> rfl
      · exact h
  | finish w =>
      simp only [step]
      split
      · exact hmap fun e => by
          split_ifs
          · exact EventRow.finish_id _ _ e
          · rfl
      · exact h

/-- A spent row stays spent: its id cannot be inserted again and `attempts` never decreases. -/
lemma step_spent {id : Uuid} (s : State) (a : Act) (h : Spent id s) : Spent id (step s a) := by
  obtain ⟨hwf, hex, hcap⟩ := h
  refine ⟨step_wellFormed s a hwf, exists_mem_step a hex, fun e' he' hid => ?_⟩
  rcases mem_step_events hwf he' with ⟨-, hnew⟩ | ⟨e, he, hrow⟩
  · obtain ⟨e, he, heid⟩ := hex
    exact absurd (heid.trans hid.symm) (hnew e he)
  · exact (hcap e he (hrow.id_eq.symm.trans hid)).trans hrow.attempts_le

/-- **Delivery under the attempt cap.** In every state a run reaches, an unpublished event is
still deliverable exactly when it has been claimed fewer than five times; and once it is not,
`claim_events` selects it in no continuation of the run, at no instant. -/
theorem unpublished_deliverable_iff (now : ℤ) (as : List Act) {e : EventRow}
    (he : e ∈ (final step (init now) as).events) (hpub : e.publishedAt = none) :
    (Deliverable (final step (init now) as).now e ↔ e.attempts < attemptCap) ∧
    (¬ e.attempts < attemptCap → ∀ bs, ∀ e' ∈ (final step (init now) (as ++ bs)).events,
      e'.id = e.id → ∀ t, ¬ claimable t e') := by
  refine ⟨deliverable_iff _ hpub, fun hcap bs e' he' hid t hclaim => ?_⟩
  have hwf := final_wellFormed now as
  have hspent : Spent e.id (final step (init now) as) := by
    refine ⟨hwf, ⟨e, he, rfl⟩, fun f hf hfe => ?_⟩
    rw [List.inj_on_of_nodup_map hwf hf he hfe]
    exact not_lt.mp hcap
  rw [final_append] at he'
  have h := final_invariant step_spent hspent bs
  exact absurd hclaim.2.1 (not_lt.mpr (h.2.2 e' he' hid))

/-- One round of a worker during an outage: claim, failed dispatch, released claim. -/
def failedRound (w : ℕ) : List Act := [.readClock w, .claim w [], .dispatch w false, .finish w]

/-- An invalidation queued during an outage that lasts for `n` rounds of the loop. -/
def outage (n : ℕ) : List Act :=
  .queueAuthInvalidation 1 7 :: (List.replicate n (failedRound 0)).flatten

/-- The row an outage of `n` rounds leaves behind. -/
def outageRow (n : ℕ) : EventRow :=
  ⟨1, .authInvalidate, .authInvalidate 7, 0, none, n, none⟩

/-- After four failed rounds the invalidation is still deliverable. -/
theorem outage_four_deliverable :
    outageRow 4 ∈ (final step (init 0) (outage 4)).events ∧ (outageRow 4).publishedAt = none ∧
      Deliverable (final step (init 0) (outage 4)).now (outageRow 4) :=
  have hmem : outageRow 4 ∈ (final step (init 0) (outage 4)).events := by decide
  ⟨hmem, rfl, (unpublished_deliverable_iff 0 (outage 4) hmem rfl).1.mpr (by decide)⟩

/-- Half a second of outage, five rounds of the loop, strands an unpublished `auth.invalidate`. -/
theorem outage_five_stranded :
    ¬ ∀ e ∈ (final step (init 0) (outage 5)).events, e.publishedAt = none →
      Deliverable (final step (init 0) (outage 5)).now e := by
  intro h
  have hmem : outageRow 5 ∈ (final step (init 0) (outage 5)).events := by decide
  exact absurd ((deliverable_iff _ rfl).mp (h _ hmem rfl)) (by decide)

end Vussa.Outbox
