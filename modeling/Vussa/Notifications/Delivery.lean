import Vussa.Notifications.Model

/-!
The delivery of notifications (`notifications/delivery.rs`). Any number of replicas run
`run_notification_delivery`: a worker reads the clock, claims up to 32 rows with one statement, and
spawns a task for each. A task waits for the sink and then acknowledges or backs off with one
update. Statements and sinks may fail, a task or a whole process may be lost at any point, and the
update of a task may come long after others have claimed the row again.

The claim does not select by `attempts`, an `INTEGER` column that is a natural number here.

* `claimable`, `claimDeliveries`, `retryDelayMs`: the claim and the back-off;
* `State`, `Act`, `step`: the workers, their tasks and the table;
* `RowStep`, `mem_step_deliveries`: what a step does to a row;
* `Timely`: no row is put off by more than an hour, or claimed in the future;
* `unsent_claimable`: **every unsent row can be claimed from an hour later on, `sent_at` is written
  once, and no claim selects a sent row**.
-/

namespace Vussa.Notifications.Delivery

open Run Table

/-! ### The statements -/

/-- The `WHERE` clause of the claim at the instant `now`. -/
def claimable (now : ℤ) (d : DeliveryRow) : Prop :=
  d.sentAt = none ∧ d.nextAttemptAt ≤ now ∧ ∀ c ∈ d.claimedAt, c < now - 60000

instance (now : ℤ) (d : DeliveryRow) : Decidable (claimable now d) :=
  inferInstanceAs (Decidable (_ ∧ _ ∧ _))

/-- `ORDER BY next_attempt_at, id`. -/
def claimOrder (d e : DeliveryRow) : Prop :=
  toLex (d.nextAttemptAt, d.id) ≤ toLex (e.nextAttemptAt, e.id)

instance : DecidableRel claimOrder := fun d e =>
  inferInstanceAs (Decidable (toLex (d.nextAttemptAt, d.id) ≤ toLex (e.nextAttemptAt, e.id)))

/-- The ids of the common table expression `next`; `locked` are the rows that `SKIP LOCKED` passes
over. -/
def nextIds (now : ℤ) (locked : List Uuid) (rows : List DeliveryRow) : List Uuid :=
  (((rows.filter fun d => claimable now d ∧ d.id ∉ locked).insertionSort claimOrder).take
    32).map DeliveryRow.id

/-- The update of one claimed row. -/
def claimRow (now : ℤ) (d : DeliveryRow) : DeliveryRow :=
  { d with claimedAt := some now, attempts := d.attempts + 1 }

/-- The claiming statement: the table, and the rows it returns. -/
def claimDeliveries (now : ℤ) (locked : List Uuid) (rows : List DeliveryRow) :
    List DeliveryRow × List DeliveryRow :=
  let next := nextIds now locked rows
  (rows.map fun d => if d.id ∈ next then claimRow now d else d,
    (rows.filter fun d => d.id ∈ next).map (claimRow now))

/-- `retry_delay_ms`. -/
def retryDelayMs (attempts : ℕ) : ℤ := min (2 ^ min attempts 12 * 1000) (60 * 60 * 1000)

example : retryDelayMs 0 = 1000 ∧ retryDelayMs 3 = 8000 ∧ retryDelayMs 99 = 3600000 := by decide

/-- The acknowledgement of one row. -/
def acknowledge (sentAt : ℤ) (d : DeliveryRow) : DeliveryRow :=
  { d with sentAt := some sentAt, claimedAt := none }

/-- The back-off of one row. -/
def backOff (nextAttemptAt : ℤ) (error : String) (d : DeliveryRow) : DeliveryRow :=
  { d with claimedAt := none, nextAttemptAt := nextAttemptAt, lastError := some error }

/-- `UPDATE notification_deliveries SET ... WHERE id=$1 AND sent_at IS NULL`. -/
def updateUnsent (id : Uuid) (f : DeliveryRow → DeliveryRow) (rows : List DeliveryRow) :
    List DeliveryRow :=
  rows.map fun d => if d.id = id ∧ d.sentAt = none then f d else d

/-! ### Workers and tasks -/

/-- Where a worker is in the loop of `run_notification_delivery`. -/
inductive Phase where
  | idle
  /-- the clock has been read, and the claim is next -/
  | claiming (now : ℤ)
  deriving DecidableEq, Repr

/-- Where a spawned task is: the sink has not answered, or its update is next, with the instant that
was read when the sink answered. -/
inductive Stage where
  | delivering (row : DeliveryRow)
  | acknowledging (id : Uuid) (sentAt : ℤ)
  | backingOff (id : Uuid) (nextAttemptAt : ℤ) (error : String)
  deriving DecidableEq, Repr

/-- A task of a worker's process. -/
structure Task where
  worker : ℕ
  stage : Stage
  deriving DecidableEq, Repr

/-- The clock, the table, the workers and their tasks. -/
structure State where
  now : ℤ
  deliveries : List DeliveryRow := []
  phase : ℕ → Phase := fun _ => .idle
  tasks : List Task := []

/-- What can happen next. -/
inductive Act where
  | tick (d : ℕ)
  /-- a transaction of `create_message_notifications` that read the clock `ago` milliseconds ago -/
  | enqueue (ago : ℕ) (inputs : List (Uuid × Uuid × Recipient × DeliveryChannel))
  /-- a row goes with its notification or user -/
  | remove (id : Uuid)
  | readClock (w : ℕ)
  | claim (w : ℕ) (locked : List Uuid)
  | claimError (w : ℕ)
  /-- the sink answers a task, with an error or not -/
  | answer (k : ℕ) (error : Option String)
  | update (k : ℕ)
  /-- a task ends without its update: the statement fails, or the task is lost -/
  | lose (k : ℕ)
  /-- a process ends, with its worker and its tasks -/
  | crash (w : ℕ)

namespace State

variable (s : State)

/-- Put the worker `w` into the phase `p`. -/
def enter (w : ℕ) (p : Phase) : State := { s with phase := Function.update s.phase w p }

/-- The task after the answer of the sink. -/
def answered (row : DeliveryRow) : Option String → Stage
  | none => .acknowledging row.id s.now
  | some error => .backingOff row.id (s.now + retryDelayMs row.attempts) error

/-- The table after the update of a task. -/
def updated : Stage → List DeliveryRow
  | .delivering _ => s.deliveries
  | .acknowledging id sentAt => updateUnsent id (acknowledge sentAt) s.deliveries
  | .backingOff id nextAttemptAt error =>
      updateUnsent id (backOff nextAttemptAt error) s.deliveries

end State

/-- One step; an action that the phase or the stage does not allow changes nothing. -/
def step (s : State) : Act → State
  | .tick d => { s with now := s.now + d }
  | .enqueue ago inputs =>
      match insertDeliveries (s.now - ago) inputs s.deliveries with
      | .ok rows => { s with deliveries := rows }
      | .error _ => s
  | .remove id => { s with deliveries := s.deliveries.filter fun d => d.id ≠ id }
  | .readClock w =>
      match s.phase w with
      | .idle => s.enter w (.claiming s.now)
      | .claiming _ => s
  | .claim w locked =>
      match s.phase w with
      | .claiming now =>
          { s.enter w .idle with
            deliveries := (claimDeliveries now locked s.deliveries).1
            tasks := s.tasks ++
              (claimDeliveries now locked s.deliveries).2.map fun d => ⟨w, .delivering d⟩ }
      | .idle => s
  | .claimError w => s.enter w .idle
  | .answer k error =>
      match s.tasks[k]? with
      | some ⟨w, .delivering row⟩ =>
          { s with tasks := s.tasks.set k ⟨w, s.answered row error⟩ }
      | _ => s
  | .update k =>
      match s.tasks[k]? with
      | some ⟨_, .delivering _⟩ | none => s
      | some ⟨_, stage⟩ => { s with deliveries := s.updated stage, tasks := s.tasks.eraseIdx k }
  | .lose k => { s with tasks := s.tasks.eraseIdx k }
  | .crash w => { s.enter w .idle with tasks := s.tasks.filter fun t => t.worker ≠ w }

/-- The rows that an action claims. -/
def claimed (s : State) : Act → List Uuid
  | .claim w locked =>
      match s.phase w with
      | .claiming now => nextIds now locked s.deliveries
      | .idle => []
  | _ => []

/-! ### What a step does to a row -/

/-- The primary key of the table. -/
def Keyed (rows : List DeliveryRow) : Prop := Unique DeliveryRow.id rows

/-- Under the primary key, a row whose id is selected meets the `WHERE` clause itself. -/
lemma claimable_of_mem_nextIds {now : ℤ} {locked : List Uuid} {rows : List DeliveryRow}
    (hkey : Keyed rows) {d : DeliveryRow} (hd : d ∈ rows) (h : d.id ∈ nextIds now locked rows) :
    claimable now d := by
  obtain ⟨e, he, hid⟩ := List.mem_map.mp h
  obtain ⟨hmem, hclaim⟩ :=
    List.mem_filter.mp ((List.mem_insertionSort _).mp (List.mem_of_mem_take he))
  obtain rfl := hkey.eq hmem hd hid
  exact (of_decide_eq_true hclaim).1

/-- A row of an insert was there before, or is new and due at the instant of the insert. -/
lemma mem_insertDeliveries {now : ℤ} {inputs : List (Uuid × Uuid × Recipient × DeliveryChannel)}
    {rows rows' : List DeliveryRow} (h : insertDeliveries now inputs rows = .ok rows')
    {d : DeliveryRow} (hd : d ∈ rows') :
    d ∈ rows ∨ (d.nextAttemptAt = now ∧ d.claimedAt = none ∧ ∀ e ∈ rows, e.id ≠ d.id) := by
  induction inputs generalizing rows with
  | nil =>
      rw [insertDeliveries, Except.ok.injEq] at h
      exact Or.inl (h ▸ hd)
  | cons input inputs ih =>
      obtain ⟨id, notificationId, r, channel⟩ := input
      rw [insertDeliveries] at h
      split_ifs at h with hkey
      rcases ih h with hmem | ⟨hdue, hfree, hnew⟩
      · rcases mem_insertNew hmem with hold | ⟨rfl, hkeys⟩
        · exact Or.inl hold
        · exact Or.inr ⟨rfl, rfl, fun e he hid => hkey ⟨⟨e, he, hid⟩, hkeys⟩⟩
      · refine Or.inr ⟨hdue, hfree, fun e he => hnew e ?_⟩
        rw [insertNew]
        split_ifs
        · exact he
        · exact List.mem_append_left _ he

lemma insertDeliveries_keyed {now : ℤ}
    {inputs : List (Uuid × Uuid × Recipient × DeliveryChannel)} {rows rows' : List DeliveryRow}
    (hkey : Keyed rows) (h : insertDeliveries now inputs rows = .ok rows') : Keyed rows' := by
  induction inputs generalizing rows with
  | nil =>
      rw [insertDeliveries, Except.ok.injEq] at h
      exact h ▸ hkey
  | cons input inputs ih =>
      obtain ⟨id, notificationId, r, channel⟩ := input
      rw [insertDeliveries] at h
      split_ifs at h with hid
      refine ih ?_ h
      rw [insertNew]
      split_ifs with hsame
      · exact hkey
      · exact hkey.append fun d hd heq => hid ⟨⟨d, hd, heq⟩, fun e he hk => hsame ⟨e, he, hk⟩⟩

/-- How a step may leave a row `d`. -/
inductive RowStep (s : State) (a : Act) (d : DeliveryRow) : DeliveryRow → Prop
  | same : RowStep s a d d
  | claim {w : ℕ} (now : ℤ) (hphase : s.phase w = .claiming now) (hclaim : claimable now d) :
      RowStep s a d (claimRow now d)
  | acknowledge (sentAt : ℤ) (hunsent : d.sentAt = none) :
      RowStep s a d (acknowledge sentAt d)
  | backOff {t : Task} {id : Uuid} (nextAttemptAt : ℤ) (error : String) (hmem : t ∈ s.tasks)
      (hstage : t.stage = .backingOff id nextAttemptAt error) (hunsent : d.sentAt = none) :
      RowStep s a d (backOff nextAttemptAt error d)

/-- **Inversion of a step**: a row after the step is new and due, or stems from a row before it. -/
theorem mem_step_deliveries {s : State} (hkey : Keyed s.deliveries) {a : Act} {d' : DeliveryRow}
    (h : d' ∈ (step s a).deliveries) :
    (d'.nextAttemptAt ≤ s.now ∧ d'.claimedAt = none ∧ ∀ d ∈ s.deliveries, d.id ≠ d'.id) ∨
      ∃ d ∈ s.deliveries, d.id = d'.id ∧ RowStep s a d d' := by
  have hsame : d' ∈ s.deliveries → (d'.nextAttemptAt ≤ s.now ∧ d'.claimedAt = none ∧
      ∀ d ∈ s.deliveries, d.id ≠ d'.id) ∨ ∃ d ∈ s.deliveries, d.id = d'.id ∧ RowStep s a d d' :=
    fun hd => Or.inr ⟨d', hd, rfl, .same⟩
  cases a with
  | tick d => exact hsame h
  | enqueue ago inputs =>
      rw [step] at h
      split at h
      · rename_i rows hrows
        rcases mem_insertDeliveries hrows h with hold | ⟨hdue, hfree, hnew⟩
        · exact hsame hold
        · exact Or.inl ⟨by omega, hfree, hnew⟩
      · exact hsame h
  | remove id => exact hsame (List.mem_of_mem_filter h)
  | readClock w =>
      rw [step] at h
      split at h
      · exact hsame h
      · exact hsame h
  | claim w locked =>
      rw [step] at h
      split at h
      · rename_i now hphase
        obtain ⟨d, hd, rfl⟩ := List.mem_map.mp h
        refine Or.inr ⟨d, hd, by split_ifs <;> rfl, ?_⟩
        split_ifs with hnext
        · exact .claim now hphase (claimable_of_mem_nextIds hkey hd hnext)
        · exact .same
      · exact hsame h
  | claimError w => exact hsame h
  | answer k error =>
      rw [step] at h
      split at h
      · exact hsame h
      · exact hsame h
  | update k =>
      rw [step] at h
      split at h
      · exact hsame h
      · exact hsame h
      · rename_i _ w stage hanswered htask
        cases stage with
        | delivering row => exact absurd rfl (hanswered row)
        | acknowledging id sentAt =>
            obtain ⟨d, hd, rfl⟩ := List.mem_map.mp h
            refine Or.inr ⟨d, hd, by split_ifs <;> rfl, ?_⟩
            split_ifs with hrow
            · exact .acknowledge sentAt hrow.2
            · exact .same
        | backingOff id nextAttemptAt error =>
            obtain ⟨d, hd, rfl⟩ := List.mem_map.mp h
            refine Or.inr ⟨d, hd, by split_ifs <;> rfl, ?_⟩
            split_ifs with hrow
            · exact .backOff nextAttemptAt error (List.mem_of_getElem? htask) rfl hrow.2
            · exact .same
  | lose k => exact hsame h
  | crash w => exact hsame h

/-! ### No row is put off for ever -/

lemma retryDelayMs_le (attempts : ℕ) : retryDelayMs attempts ≤ 3600000 := min_le_right _ _

/-- What bounds the eligibility of the rows at every instant of a run: no row is put off by more
than an hour or claimed in the future, no worker holds a reading of the clock from the future, and
no task is about to put its row off for longer. -/
structure Timely (s : State) : Prop where
  keyed : Keyed s.deliveries
  due : ∀ d ∈ s.deliveries, d.nextAttemptAt ≤ s.now + 3600000
  past : ∀ d ∈ s.deliveries, ∀ c ∈ d.claimedAt, c ≤ s.now
  clocks : ∀ w t, s.phase w = .claiming t → t ≤ s.now
  delays : ∀ task ∈ s.tasks, ∀ id t error,
    task.stage = .backingOff id t error → t ≤ s.now + 3600000

lemma State.updated_keyed {s : State} (hkey : Keyed s.deliveries) (stage : Stage) :
    Keyed (s.updated stage) := by
  cases stage with
  | delivering row => exact hkey
  | acknowledging id sentAt => exact hkey.map fun d => by split_ifs <;> rfl
  | backingOff id t error => exact hkey.map fun d => by split_ifs <;> rfl

lemma step_keyed {s : State} (hkey : Keyed s.deliveries) (a : Act) :
    Keyed (step s a).deliveries := by
  cases a with
  | tick d => exact hkey
  | enqueue ago inputs =>
      rw [step]
      split
      · rename_i rows hrows
        exact insertDeliveries_keyed hkey hrows
      · exact hkey
  | remove id => exact hkey.filter _
  | readClock w => rw [step]; split <;> exact hkey
  | claim w locked =>
      rw [step]
      split
      · exact hkey.map fun d => by split_ifs <;> rfl
      · exact hkey
  | claimError w => exact hkey
  | answer k error => rw [step]; split <;> exact hkey
  | update k =>
      rw [step]
      split
      · exact hkey
      · exact hkey
      · exact State.updated_keyed hkey _
  | lose k => exact hkey
  | crash w => exact hkey

lemma now_le_step (s : State) (a : Act) : s.now ≤ (step s a).now := by
  cases a with
  | tick d => exact le_add_of_nonneg_right (Int.natCast_nonneg d)
  | enqueue ago inputs => rw [step]; split <;> exact le_rfl
  | remove id => exact le_rfl
  | readClock w => rw [step]; split <;> exact le_rfl
  | claim w locked => rw [step]; split <;> exact le_rfl
  | claimError w => exact le_rfl
  | answer k error => rw [step]; split <;> exact le_rfl
  | update k => rw [step]; split <;> exact le_rfl
  | lose k => exact le_rfl
  | crash w => exact le_rfl

lemma State.enter_phase {s : State} {w w' : ℕ} {p p' : Phase} (h : (s.enter w p).phase w' = p') :
    p' = p ∨ s.phase w' = p' := by
  rw [enter] at h
  rcases eq_or_ne w' w with rfl | hw
  · exact Or.inl (h.symm.trans (Function.update_self w' p s.phase))
  · exact Or.inr ((Function.update_of_ne hw p s.phase).symm.trans h)

/-- A worker that is about to claim after a step was so before it, or has just read the clock. -/
lemma step_phase {s : State} {a : Act} {w : ℕ} {t : ℤ} (h : (step s a).phase w = .claiming t) :
    s.phase w = .claiming t ∨ t = s.now := by
  have hidle : ∀ w', (s.enter w' .idle).phase w = .claiming t → s.phase w = .claiming t := by
    intro w' hw'
    rcases State.enter_phase hw' with hp | hp
    · cases hp
    · exact hp
  cases a with
  | tick d => exact Or.inl h
  | enqueue ago inputs => rw [step] at h; split at h <;> exact Or.inl h
  | remove id => exact Or.inl h
  | readClock w' =>
      rw [step] at h
      split at h
      · rcases State.enter_phase h with hp | hp
        · exact Or.inr (Phase.claiming.inj hp)
        · exact Or.inl hp
      · exact Or.inl h
  | claim w' locked =>
      rw [step] at h
      split at h
      · exact Or.inl (hidle w' h)
      · exact Or.inl h
  | claimError w' => exact Or.inl (hidle w' h)
  | answer k error => rw [step] at h; split at h <;> exact Or.inl h
  | update k => rw [step] at h; split at h <;> exact Or.inl h
  | lose k => exact Or.inl h
  | crash w' => exact Or.inl (hidle w' h)

/-- A task after a step was there before it, was spawned by it, or has just got its answer. -/
lemma mem_step_tasks {s : State} {a : Act} {task : Task} (h : task ∈ (step s a).tasks) :
    task ∈ s.tasks ∨ (∃ row, task.stage = .delivering row) ∨
      ∃ row error, task.stage = s.answered row error := by
  cases a with
  | tick d => exact Or.inl h
  | enqueue ago inputs => rw [step] at h; split at h <;> exact Or.inl h
  | remove id => exact Or.inl h
  | readClock w => rw [step] at h; split at h <;> exact Or.inl h
  | claim w locked =>
      rw [step] at h
      split at h
      · rcases List.mem_append.mp h with hold | hnew
        · exact Or.inl hold
        · obtain ⟨d, hd, rfl⟩ := List.mem_map.mp hnew
          exact Or.inr (Or.inl ⟨d, rfl⟩)
      · exact Or.inl h
  | claimError w => exact Or.inl h
  | answer k error =>
      rw [step] at h
      split at h
      · rename_i w row htask
        rcases List.mem_or_eq_of_mem_set h with hold | rfl
        · exact Or.inl hold
        · exact Or.inr (Or.inr ⟨row, error, rfl⟩)
      · exact Or.inl h
  | update k =>
      rw [step] at h
      split at h
      · exact Or.inl h
      · exact Or.inl h
      · exact Or.inl (List.mem_of_mem_eraseIdx h)
  | lose k => exact Or.inl (List.mem_of_mem_eraseIdx h)
  | crash w => exact Or.inl (List.mem_of_mem_filter h)

/-- A task that has just got an error puts its row off by at most an hour. -/
lemma State.answered_delay {s : State} {row : DeliveryRow} {error : Option String} {id : Uuid}
    {t : ℤ} {text : String} (h : s.answered row error = .backingOff id t text) :
    t ≤ s.now + 3600000 := by
  cases error with
  | none => cases h
  | some error =>
      cases h
      have hdelay := retryDelayMs_le row.attempts
      omega

namespace Timely

variable {s : State}

/-- An unsent row can be claimed at every instant from an hour later on. -/
lemma claimable (h : Timely s) {d : DeliveryRow} (hd : d ∈ s.deliveries) (hsent : d.sentAt = none)
    {t : ℤ} (ht : s.now + 3600000 ≤ t) : claimable t d := by
  refine ⟨hsent, (h.due d hd).trans ht, fun c hc => ?_⟩
  have hpast := h.past d hd c hc
  omega

/-- **Every step keeps the rows timely.** -/
theorem step (h : Timely s) (a : Act) : Timely (step s a) := by
  have hnow := now_le_step s a
  refine ⟨step_keyed h.keyed a, fun d' hd' => ?_, fun d' hd' c hc => ?_, fun w t hw => ?_,
    fun task htask id t error hstage => ?_⟩
  · rcases mem_step_deliveries h.keyed hd' with ⟨hdue, -, -⟩ | ⟨d, hd, -, hrow⟩
    · omega
    · have hdue := h.due d hd
      cases hrow with
      | same => omega
      | claim now hphase hclaim => exact hdue.trans (by omega)
      | acknowledge sentAt hunsent => exact hdue.trans (by omega)
      | backOff t error hmem hstage hunsent =>
          exact (h.delays _ hmem _ t error hstage).trans (by omega)
  · rcases mem_step_deliveries h.keyed hd' with ⟨-, hfree, -⟩ | ⟨d, hd, -, hrow⟩
    · rw [hfree] at hc
      cases hc
    · cases hrow with
      | same => exact (h.past d' hd c hc).trans hnow
      | claim now hphase hclaim =>
          obtain rfl : now = c := Option.some.inj hc
          exact (h.clocks _ now hphase).trans hnow
      | acknowledge sentAt hunsent => cases hc
      | backOff t error hmem hstage hunsent => cases hc
  · rcases step_phase hw with hold | rfl
    · exact (h.clocks w t hold).trans hnow
    · exact hnow
  · rcases mem_step_tasks htask with hold | ⟨row, hrow⟩ | ⟨row, answer, hanswer⟩
    · have hdelay := h.delays task hold id t error hstage
      omega
    · rw [hrow] at hstage
      cases hstage
    · have hdelay := State.answered_delay (hanswer.symm.trans hstage)
      omega

lemma init (now : ℤ) : Timely { now } where
  keyed := unique_nil
  due _ hd := absurd hd List.not_mem_nil
  past _ hd := absurd hd List.not_mem_nil
  clocks _ _ h := by cases h
  delays _ h := absurd h List.not_mem_nil

/-- No claim selects a sent row. -/
lemma not_mem_claimed (h : Timely s) (a : Act) {d : DeliveryRow} (hd : d ∈ s.deliveries)
    (hsent : d.sentAt ≠ none) : d.id ∉ claimed s a := by
  intro hmem
  cases a with
  | claim w locked =>
      rw [claimed] at hmem
      split at hmem
      · exact hsent (claimable_of_mem_nextIds h.keyed hd hmem).1
      · exact absurd hmem List.not_mem_nil
  | _ => exact absurd hmem List.not_mem_nil

/-- A step leaves the `sent_at` of a sent row as it is. -/
lemma sentAt_step (h : Timely s) (a : Act) {d d' : DeliveryRow} (hd : d ∈ s.deliveries)
    (hsent : d.sentAt ≠ none) (hd' : d' ∈ (Delivery.step s a).deliveries) (hid : d'.id = d.id) :
    d'.sentAt = d.sentAt := by
  rcases mem_step_deliveries h.keyed hd' with ⟨-, -, hnew⟩ | ⟨e, he, heid, hrow⟩
  · exact absurd hid.symm (hnew d hd)
  · obtain rfl := h.keyed.eq he hd (heid.trans hid)
    cases hrow with
    | same => rfl
    | claim now hphase hclaim => rfl
    | acknowledge sentAt hunsent => exact absurd hunsent hsent
    | backOff t error hmem hstage hunsent => rfl

end Timely

/-! ### Every run -/

/-- **Delivery over every run**, from an empty table at any instant `now`: an unsent row can be
claimed at every instant from an hour later on; and no step claims a sent row or changes its
`sent_at`. -/
theorem unsent_claimable (now : ℤ) (as : List Act) :
    (∀ d ∈ (final step { now } as).deliveries, d.sentAt = none →
      ∀ t, (final step { now } as).now + 3600000 ≤ t → claimable t d) ∧
    Along step (fun s a => ∀ d ∈ s.deliveries, d.sentAt ≠ none →
      d.id ∉ claimed s a ∧ ∀ d' ∈ (step s a).deliveries, d'.id = d.id → d'.sentAt = d.sentAt)
      { now } as := by
  refine ⟨fun d hd hsent t ht => ?_, ?_⟩
  · have htimely : Timely (final step { now } as) :=
      final_invariant (fun s a hs => hs.step a) (Timely.init now) as
    exact htimely.claimable hd hsent ht
  · refine Along.of_invariant (C := fun _ _ => True) (fun s a hs _ => hs.step a)
      (fun s a hs _ d hd hsent => ?_) (Timely.init now) (along_of_forall _ fun _ _ => trivial)
    exact ⟨hs.not_mem_claimed a hd hsent, fun d' hd' hid => hs.sentAt_step a hd hsent hd' hid⟩

end Vussa.Notifications.Delivery
