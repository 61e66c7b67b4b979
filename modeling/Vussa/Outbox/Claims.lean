import Vussa.Outbox.Delivery

/-!
Who ends a claim. `claim_events` takes a claimed event over once its claim is older than the
timeout, but the worker that lost it goes on, and its `finish_event` names only the event.

* `Traced`: the outbox with the worker that made the last claim of each event;
* `row_cases`: what a step does to one row, with the action;
* `EndsProperly`: a claim ends by the `finish_event` of its worker, or by a claim after the timeout;
* `KeptClaim`: no `finish_event` runs while the event is in the claim of another worker;
* `claims_end_properly_iff`: **every claim of a run ends properly iff every `finish_event` of the
  run finds the claim kept**.
-/

namespace Vussa.Outbox

open Run

/-! ### Claims and their workers -/

/-- The outbox, and for each event the worker that claimed it last: no code reads it. -/
structure Traced where
  state : State
  holder : Uuid → Option ℕ := fun _ => none

namespace Traced

/-- The workers of the claims after an action. -/
def holders (t : Traced) : Act → Uuid → Option ℕ
  | .claim w locked =>
      match t.state.phase w with
      | .claiming now => fun id =>
          if id ∈ nextIds now locked t.state.events then some w else t.holder id
      | _ => t.holder
  | _ => t.holder

/-- One step. -/
def step (t : Traced) (a : Act) : Traced :=
  { state := Outbox.step t.state a, holder := t.holders a }

end Traced

/-- No event and no claim. -/
def unclaimed (now : ℤ) : Traced := { state := init now }

/-- Every claim that the action ends is ended by the `finish_event` of its worker, or taken over
after the timeout. -/
def EndsProperly (t : Traced) (a : Act) : Prop :=
  ∀ e ∈ t.state.events, ∀ c, e.claimedAt = some c →
    ∀ e' ∈ (step t.state a).events, e'.id = e.id → e'.claimedAt ≠ some c →
      (∃ w, a = .finish w ∧ t.holder e.id = some w) ∨
        ∃ w locked, a = .claim w locked ∧ c < t.state.now - claimTimeoutMillis

/-- A `finish_event` does not find the event in the claim of another worker. -/
def KeptClaim (t : Traced) : Act → Prop
  | .finish w =>
      match t.state.phase w with
      | .finishing row _ _ => ∀ e ∈ t.state.events, e.id = row.id → e.publishedAt = none →
          e.claimedAt.isSome → t.holder e.id = some w
      | _ => True
  | _ => True

instance (t : Traced) : ∀ a, Decidable (KeptClaim t a)
  | .finish w =>
      match h : t.state.phase w with
      | .finishing row _ _ => decidable_of_iff (∀ e ∈ t.state.events, e.id = row.id →
          e.publishedAt = none → e.claimedAt.isSome → t.holder e.id = some w)
          (by simp only [KeptClaim, h])
      | .idle | .claiming _ | .dispatching _ => isTrue (by simp only [KeptClaim, h])
  | .tick _ | .queueAuthInvalidation _ _ | .queueNotificationRetry _ _ _ | .readClock _
  | .claim _ _ | .claimError _ | .dispatch _ _ | .finishError _ | .crash _ => isTrue trivial

/-! ### What a step does to one row -/

/-- The row after a step: as it was, claimed, or finished. -/
lemma row_cases {s : State} (hwf : WellFormed s.events) {a : Act} {e e' : EventRow}
    (he : e ∈ s.events) (he' : e' ∈ (step s a).events) (hid : e'.id = e.id) :
    e' = e ∨
    (∃ w locked now, a = .claim w locked ∧ s.phase w = .claiming now ∧ claimable now e) ∨
    ∃ w row delivered rest, a = .finish w ∧ s.phase w = .finishing row delivered rest ∧
      e.id = row.id ∧ e.publishedAt = none := by
  have hkey : ∀ f ∈ s.events, f.id = e.id → f = e := fun f hf hfe =>
    List.inj_on_of_nodup_map hwf hf he hfe
  have hnew : ∀ {p : Prop}, (e' ∈ s.events ∨ (p ∧ ∀ f ∈ s.events, f.id ≠ e'.id)) → e' = e := by
    rintro p (hold | ⟨-, hfresh⟩)
    · exact hkey e' hold hid
    · exact absurd hid.symm (hfresh e he)
  cases a with
  | tick d => exact .inl (hkey e' he' hid)
  | crash w => exact .inl (hkey e' he' hid)
  | queueAuthInvalidation id u => exact .inl (hnew (mem_insertEvent he'))
  | queueNotificationRetry id a m => exact .inl (hnew (mem_queueNotificationRetry he'))
  | readClock w | claimError w | dispatch w ok | finishError w =>
      simp only [step] at he'
      split at he' <;> exact .inl (hkey e' he' hid)
  | claim w locked =>
      simp only [step] at he'
      split at he'
      · rename_i now hphase
        obtain ⟨f, hf, rfl⟩ := List.mem_map.mp he'
        by_cases hnext : f.id ∈ nextIds now locked s.events
        · rw [if_pos hnext] at hid
          obtain rfl := hkey f hf hid
          exact .inr (.inl ⟨w, locked, now, rfl, hphase, claimable_of_mem_nextIds hwf hf hnext⟩)
        · rw [if_neg hnext] at hid ⊢
          exact .inl (hkey f hf hid)
      · exact .inl (hkey e' he' hid)
  | finish w =>
      simp only [step] at he'
      split at he'
      · rename_i row delivered rest hphase
        obtain ⟨f, hf, rfl⟩ := List.mem_map.mp he'
        by_cases hrow : f.id = row.id ∧ f.publishedAt = none
        · rw [if_pos hrow, EventRow.finish_id] at hid
          obtain rfl := hkey f hf hid
          exact .inr (.inr ⟨w, row, delivered, rest, rfl, hphase, hrow⟩)
        · rw [if_neg hrow] at hid ⊢
          exact .inl (hkey f hf hid)
      · exact .inl (hkey e' he' hid)

/-! ### The clock -/

/-- No worker claims with an instant that is still to come. -/
def ClockRead (s : State) : Prop := ∀ w now, s.phase w = .claiming now → now ≤ s.now

/-- A worker is moved; it is claiming only with the present instant. -/
lemma clockRead_enter {s : State} (h : ClockRead s) (w : ℕ) {p : Phase}
    (hp : ∀ now, p = .claiming now → now ≤ s.now) : ClockRead (s.enter w p) := by
  intro v now hv
  change Function.update s.phase w p v = .claiming now at hv
  by_cases hvw : v = w
  · subst hvw
    rw [Function.update_self] at hv
    exact hp now hv
  · rw [Function.update_of_ne hvw] at hv
    exact h v now hv

lemma afterRow_ne_claiming (rows : List EventRow) (now : ℤ) : afterRow rows ≠ .claiming now := by
  cases rows with
  | nil => simp [afterRow]
  | cons row rows => simp [afterRow]

lemma step_clockRead (s : State) (a : Act) (h : ClockRead s) : ClockRead (step s a) := by
  have hrows : ∀ (events : List EventRow) (w : ℕ) (rows : List EventRow),
      ClockRead ({ s with events := events }.enter w (afterRow rows)) := fun events w rows =>
    clockRead_enter (s := { s with events := events }) h w
      fun now hnow => absurd hnow (afterRow_ne_claiming rows now)
  cases a with
  | tick d =>
      intro w now hw
      have hnow := h w now hw
      change now ≤ s.now + d
      omega
  | queueAuthInvalidation id u => exact h
  | queueNotificationRetry id a m => exact h
  | crash w => exact clockRead_enter h w fun now hnow => by cases hnow
  | readClock w =>
      simp only [step]
      split
      · refine clockRead_enter h w fun now hnow => ?_
        obtain rfl := Phase.claiming.inj hnow
        exact le_rfl
      · exact h
  | claim w locked =>
      simp only [step]
      split
      · exact hrows _ w _
      · exact h
  | claimError w =>
      simp only [step]
      split
      · exact clockRead_enter h w fun now hnow => by cases hnow
      · exact h
  | dispatch w ok =>
      simp only [step]
      split
      · exact clockRead_enter h w fun now hnow => by cases hnow
      · exact h
  | finish w =>
      simp only [step]
      split
      · exact hrows _ w _
      · exact h
  | finishError w =>
      simp only [step]
      split
      · exact hrows s.events w _
      · exact h

/-! ### Kept claims -/

/-- The key of the table and the clock, in every state of a run. -/
def Sound (t : Traced) : Prop := WellFormed t.state.events ∧ ClockRead t.state

lemma step_sound (t : Traced) (a : Act) (h : Sound t) : Sound (t.step a) :=
  ⟨step_wellFormed t.state a h.1, step_clockRead t.state a h.2⟩

lemma sound_unclaimed (now : ℤ) : Sound (unclaimed now) :=
  ⟨List.nodup_nil, fun _ _ h => by cases h⟩

/-- A claim that is kept ends properly, and a `finish_event` in the claim of another worker ends
that one. -/
lemma endsProperly_iff (t : Traced) (a : Act) (h : Sound t) :
    EndsProperly t a ↔ KeptClaim t a := by
  refine ⟨fun hends => ?_, fun hkept e he c hc e' he' hid hended => ?_⟩
  · cases a with
    | finish w =>
        rw [KeptClaim]
        split
        · rename_i row delivered rest hphase
          intro e he hrow hpub hsome
          obtain ⟨c, hc⟩ := Option.isSome_iff_exists.mp hsome
          -- the row that `finish_event` leaves has no claim
          have he' : e.finish t.state.now delivered ∈ (step t.state (.finish w)).events := by
            simp only [step, hphase]
            refine List.mem_map.mpr ⟨e, he, ?_⟩
            rw [if_pos ⟨hrow, hpub⟩]
          have hfree : (e.finish t.state.now delivered).claimedAt ≠ some c := by
            rw [EventRow.finish]
            split_ifs <;> simp
          obtain ⟨v, hv, hholder⟩ | ⟨v, locked, hv, -⟩ :=
            hends e he c hc _ he' (EventRow.finish_id _ _ e) hfree
          · obtain rfl := Act.finish.inj hv
            exact hholder
          · cases hv
        · trivial
    | _ => trivial
  · obtain rfl | ⟨w, locked, now, rfl, hphase, hclaimable⟩ |
        ⟨w, row, delivered, rest, rfl, hphase, hrow, hpub⟩ := row_cases h.1 he he' hid
    · exact absurd hc hended
    · have hnow := h.2 w now hphase
      have hold := hclaimable.2.2 c hc
      exact .inr ⟨w, locked, rfl, by omega⟩
    · simp only [KeptClaim, hphase] at hkept
      exact .inl ⟨w, rfl, hkept e he hrow hpub (by rw [hc]; rfl)⟩

/-- **Claims and their workers.** In a run of any number of workers every claim is ended by the
`finish_event` of the worker that made it or taken over after the timeout, exactly when no
`finish_event` runs while its event is in the claim of another worker. -/
theorem claims_end_properly_iff (now : ℤ) (as : List Act) :
    Along Traced.step EndsProperly (unclaimed now) as ↔
      Along Traced.step KeptClaim (unclaimed now) as :=
  along_congr step_sound endsProperly_iff (sound_unclaimed now) as

/-- A worker claims an event and is slow; a second one takes the event over after the timeout; the
first one fails and finishes. -/
def takeover : List Act :=
  [.queueAuthInvalidation 1 7, .readClock 0, .claim 0 [], .tick 60001, .readClock 1, .claim 1 [],
    .dispatch 0 false, .finish 0]

/-- The late `finish_event` releases the claim of the second worker. -/
theorem takeover_releases : ¬ Along Traced.step EndsProperly (unclaimed 0) takeover := by
  intro h
  have hkept := (along_congr step_sound endsProperly_iff (sound_unclaimed 0) takeover).mp h
  exact absurd hkept (by decide)

end Vussa.Outbox
