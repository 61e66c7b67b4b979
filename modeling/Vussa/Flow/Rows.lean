import Vussa.Flow.Model

/-!
What the tasks do to the tables: a `save_message` adds a row, a change or a moderation rewrites one,
and nothing else touches them.

* `Kept`: a later state of a row;
* `DbStep`: what one step does to the tables, with `exec_db`: **every step is one of these**;
* `Schema`: the keys of the tables and the unique index on the client identifiers;
* `Grows`, `Follows`: the rows of one state live on in another, and so does what was cached and
  published;
* `grows_final`, `schema_step`: no run loses a row, and every step keeps the schema.
-/

namespace Vussa.Flow

open Run

/-! ### Rows -/

/-- The columns that no statement changes. -/
structure Kept (m m' : MessageRow) : Prop where
  id : m'.id = m.id
  createdAt : m'.createdAt = m.createdAt
  channelId : m'.channelId = m.channelId
  rootMessageId : m'.rootMessageId = m.rootMessageId
  ownerSession : m'.ownerSession = m.ownerSession
  clientId : m'.clientId = m.clientId

lemma Kept.refl (m : MessageRow) : Kept m m := ⟨rfl, rfl, rfl, rfl, rfl, rfl⟩

lemma Kept.trans {a b c : MessageRow} (h : Kept a b) (h' : Kept b c) : Kept a c :=
  ⟨h'.id.trans h.id, h'.createdAt.trans h.createdAt, h'.channelId.trans h.channelId,
    h'.rootMessageId.trans h.rootMessageId, h'.ownerSession.trans h.ownerSession,
    h'.clientId.trans h.clientId⟩

lemma Kept.stamp {m m' : MessageRow} (h : Kept m m') : m'.stamp = m.stamp := by
  rw [MessageRow.stamp, MessageRow.stamp, h.id, h.createdAt]

lemma kept_edit (text : String) (m : MessageRow) : Kept m (m.edit text) :=
  ⟨rfl, rfl, rfl, rfl, rfl, rfl⟩

lemma kept_delete (now : Millis) (m : MessageRow) : Kept m (m.delete now) :=
  ⟨rfl, rfl, rfl, rfl, rfl, rfl⟩

lemma kept_moderate (now : Millis) (actor : Uuid) (reason : Option String) (action : Moderation)
    (m : MessageRow) : Kept m (m.moderate now actor reason action) := by
  cases action with
  | delete => exact ⟨rfl, rfl, rfl, rfl, rfl, rfl⟩
  | restore => exact ⟨rfl, rfl, rfl, rfl, rfl, rfl⟩

/-! ### Steps on the tables -/

/-- What a step does to the tables. -/
inductive DbStep (db : Database) : Task → Database → Prop
  | same {task : Task} : DbStep db task db
  | saved {p : Send} {message : ChatMessage} {db' : Database} :
      saveMessage db message p.session p.user.id = .ok db' → DbStep db (.save p message) db'
  | rewritten {task : Task} {id : Uuid} {f : MessageRow → MessageRow} (audit : List AuditRow) :
      (∀ m, Kept m (f m)) →
      DbStep db task { db.updateMessage id f with auditEvents := audit }

/-- Every step of a task does one of these. -/
lemma exec_db (U : Unicode) (e : Env) (s : State) (task : Task) :
    DbStep s.db task (s.exec U e task).1.db := by
  cases task with
  | save p message =>
      rw [State.exec]
      split
      next db hsave => exact .saved hsave
      next => exact .same
  | change change =>
      rw [State.exec]
      split
      next db message hcommit =>
        cases change with
        | edit channel id session text =>
            obtain ⟨-, -, -, -, rfl, -⟩ := editMessage_ok hcommit
            exact .rewritten s.db.auditEvents (kept_edit text)
        | delete channel id session canModerate =>
            obtain ⟨-, -, -, -, rfl, -⟩ := deleteMessage_ok hcommit
            exact .rewritten s.db.auditEvents (kept_delete e.now)
      next => exact .same
  | moderate actor id action reason =>
      rw [State.exec]
      split
      next db hmod =>
        obtain ⟨audit, rfl⟩ := adminModerateMessage_ok hmod
        exact .rewritten audit (kept_moderate e.now actor reason action)
      next => exact .same
  | check p rest =>
      cases rest with
      | nil => exact .same
      | cons c rest =>
          rw [State.exec]
          split <;> exact .same
  | look _ | recover _ _ | view _ =>
      rw [State.exec]
      split <;> exact .same
  | reconcile _ _ | answer _ _ | note _ _ | store _ | scan _ | trim _ _ _ | forget _ _
  | publish _ | sent _ _ | cut _ | announce _ | delMessages _ | delOrder _ | subscribe _
  | range _ | fetch _ _ | load _ | hydrate _ _ | joined _ _ | ended => exact .same

/-- A move: nothing for the tables, or the step of a task. -/
lemma step_db (U : Unicode) (s : State) (a : Act) :
    ∃ task, DbStep s.db task (s.step U a).db := by
  obtain ⟨tasks, heq⟩ | ⟨k, e, task, tasks, -, -, heq⟩ := step_cases U s a
  · rw [heq]
    exact ⟨.ended, .same⟩
  · rw [heq]
    exact ⟨task, exec_db U e s task⟩

/-! ### The schema -/

/-- The primary keys, and the unique index `messages_owner_client_idx`. -/
structure Schema (db : Database) : Prop where
  wellFormed : db.WellFormed
  client : ∀ m ∈ db.messages, ∀ m' ∈ db.messages, m.ownerSession = m'.ownerSession →
    m.clientId = m'.clientId → m.clientId.isSome → m = m'

/-- The rows of `db` live on in `db'`, in the same channels. -/
structure Grows (db db' : Database) : Prop where
  rows : ∀ m ∈ db.messages, ∃ m' ∈ db'.messages, Kept m m'
  channels : db'.channels = db.channels

lemma Grows.refl (db : Database) : Grows db db := ⟨fun m hm => ⟨m, hm, .refl m⟩, rfl⟩

lemma Grows.trans {a b c : Database} (h : Grows a b) (h' : Grows b c) : Grows a c := by
  refine ⟨fun m hm => ?_, h'.channels.trans h.channels⟩
  obtain ⟨m', hm', hkept⟩ := h.rows m hm
  obtain ⟨m'', hm'', hkept'⟩ := h'.rows m' hm'
  exact ⟨m'', hm'', hkept.trans hkept'⟩

lemma mem_updateMessage {db : Database} {id : Uuid} {f : MessageRow → MessageRow}
    (hf : ∀ m, Kept m (f m)) {m' : MessageRow} (hm' : m' ∈ (db.updateMessage id f).messages) :
    ∃ m ∈ db.messages, Kept m m' ∧ m' = if m.id = id then f m else m := by
  obtain ⟨m, hm, rfl⟩ := List.mem_map.mp hm'
  refine ⟨m, hm, ?_, rfl⟩
  split
  · exact hf m
  · exact .refl m

lemma grows_updateMessage {db : Database} {id : Uuid} {f : MessageRow → MessageRow}
    (hf : ∀ m, Kept m (f m)) : Grows db (db.updateMessage id f) := by
  refine ⟨fun m hm => ⟨_, List.mem_map_of_mem hm, ?_⟩, rfl⟩
  split
  · exact hf m
  · exact .refl m

/-- No step loses a row. -/
lemma DbStep.grows {db db' : Database} {task : Task} (h : DbStep db task db') : Grows db db' := by
  cases h with
  | same => exact .refl db
  | saved hsave =>
      obtain ⟨c, links, -, -, rfl⟩ := saveMessage_ok hsave
      exact ⟨fun m hm => ⟨m, List.mem_append_left _ hm, .refl m⟩, rfl⟩
  | rewritten audit hf =>
      exact ⟨(grows_updateMessage hf).rows, rfl⟩

lemma placed_of_kept {f : MessageRow → MessageRow} (hf : ∀ m, Kept m (f m)) :
    MessageRow.Placed f :=
  ⟨fun m => (hf m).id, fun m => (hf m).createdAt, fun m => (hf m).channelId,
    fun m => (hf m).rootMessageId⟩

/-- Every step keeps the primary keys. -/
lemma DbStep.wellFormed {db db' : Database} {task : Task} (h : DbStep db task db')
    (hwf : db.WellFormed) : db'.WellFormed := by
  cases h with
  | same => exact hwf
  | saved hsave =>
      obtain ⟨c, links, -, hfresh, rfl⟩ := saveMessage_ok hsave
      exact wellFormed_append hwf _ _ hfresh
  | rewritten audit hf =>
      exact wellFormed_audit (wellFormed_updateMessage hwf _ (placed_of_kept hf)) audit

/-- Every step keeps the schema. -/
lemma DbStep.schema {db db' : Database} {task : Task} (h : DbStep db task db') (hs : Schema db) :
    Schema db' := by
  refine ⟨h.wellFormed hs.wellFormed, ?_⟩
  cases h with
  | same => exact hs.client
  | @saved p message _ hsave =>
      obtain ⟨c, links, -, -, rfl⟩ := saveMessage_ok hsave
      have hclient : ∀ m ∈ db.messages, message.clientId.isSome → m.ownerSession = p.session →
          m.clientId ≠ message.clientId := fun m hm hsome => saveMessage_client hsave hsome hm
      intro m hm m' hm' howner hid hsome
      rw [List.mem_append, List.mem_singleton] at hm hm'
      obtain hm | rfl := hm
      · obtain hm' | rfl := hm'
        · exact hs.client m hm m' hm' howner hid hsome
        · rw [hid] at hsome
          exact absurd hid (hclient m hm hsome howner)
      · obtain hm' | rfl := hm'
        · exact absurd hid.symm (hclient m' hm' hsome howner.symm)
        · rfl
  | @rewritten _ id f audit hf =>
      intro m hm m' hm' howner hid hsome
      obtain ⟨n, hn, hkept, heq⟩ := mem_updateMessage hf hm
      obtain ⟨n', hn', hkept', heq'⟩ := mem_updateMessage hf hm'
      rw [hkept.ownerSession, hkept'.ownerSession] at howner
      rw [hkept.clientId, hkept'.clientId] at hid
      rw [hkept.clientId] at hsome
      obtain rfl := hs.client n hn n' hn' howner hid hsome
      rw [heq, heq']

/-! ### What a step leaves behind -/

/-- `s'` follows `s`: rows live on, and nothing is taken back from the cache and the rooms. -/
structure Follows (s s' : State) : Prop where
  grows : Grows s.db s'.db
  cached : ∀ x ∈ s.cached, x ∈ s'.cached
  published : ∀ x ∈ s.published, x ∈ s'.published

/-- The list of tasks is left out of account. -/
lemma follows_tasks (s : State) (tasks : List Task) : Follows s { s with tasks := tasks } :=
  ⟨.refl _, fun _ hx => hx, fun _ hx => hx⟩

lemma exec_follows (U : Unicode) (e : Env) (s : State) (task : Task) :
    Follows s (s.exec U e task).1 := by
  refine ⟨(exec_db U e s task).grows, ?_, ?_⟩
  · intro x hx
    fun_cases State.exec U e s task
    all_goals first | exact hx | exact List.mem_append_left _ hx
  · intro x hx
    fun_cases State.exec U e s task
    all_goals first | exact hx | exact List.mem_append_left _ hx

/-! ### Runs -/

lemma grows_step (U : Unicode) (s : State) (a : Act) : Grows s.db (s.step U a).db := by
  obtain ⟨task, h⟩ := step_db U s a
  exact h.grows

/-- No run loses a row. -/
lemma grows_final (U : Unicode) (s : State) (as : List Act) :
    Grows s.db (final (State.step U) s as).db := by
  induction as generalizing s with
  | nil => exact .refl s.db
  | cons a as ih => exact (grows_step U s a).trans (ih (s.step U a))

lemma schema_step (U : Unicode) {s : State} (hs : Schema s.db) (a : Act) :
    Schema (s.step U a).db := by
  obtain ⟨task, h⟩ := step_db U s a
  exact h.schema hs

/-! ### One channel and one event -/

/-- Tables with one channel. -/
def hall : Database := { channels := [{ id := 7, name := "main", createdAt := 1 }] }

lemma schema_hall : Schema hall :=
  ⟨⟨by decide, by decide, by decide⟩, fun m hm => absurd hm (by simp [hall])⟩

/-- A `SendMessage` event of one session under a client identifier. -/
def greeting (clientId : String) : Send where
  user := { id := 1, email := "a@x", username := "ada", roles := [], permissions := [.chatWrite] }
  session := 5
  channel := "main"
  text := "hi"
  rootMessageId := none
  clientId := some clientId
  fileIds := []

/-- The message such an event brings at the instant 10. -/
def greeted : ChatMessage :=
  newMessage .ascii { db := hall, now := 10 } 21 (greeting "c").user "main" "hi" none (some "c") []

/-- The next steps of a task, at one instant. -/
def runs (n k : ℕ) (now : Millis) (id : Uuid) : List Act :=
  List.replicate n (.run k { now := now, id := id })

/-- Nothing has happened yet. -/
def quietHall : State := { db := hall }

end Vussa.Flow
