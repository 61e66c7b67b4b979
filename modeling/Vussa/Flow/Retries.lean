import Vussa.Flow.Rows

/-!
Retries of `SendMessage` under one client identifier, over any interleaving of lookups, inserts and
lookups after a failed insert, and with a failure at any step.

* `OneRow`: a session has one row under a client identifier, and every `Ok` names it;
* `oneRow_of_not_blank`: **this holds for every client identifier that is not blank**;
* `Delivered`: a message is stored, was written to the cache and was published;
* `Undelivered`: an attempt stored the message and was cut off, or is still on its way, before its
  `PUBLISH`;
* `Prompt`: no retry is answered from a row that is undelivered, and no commit loses its answer;
* `delivered_of_prompt`: **in a run of such steps every `Ok` is for a delivered message**.
-/

namespace Vussa.Flow

open Run

/-! ### The row of a client identifier -/

/-- A row of the session under the client identifier. -/
def RowOf (db : Database) (session : Uuid) (clientId : String) (m : MessageRow) : Prop :=
  m ∈ db.messages ∧ m.ownerSession = session ∧ m.clientId = some clientId

lemma RowOf.grows {db db' : Database} (hg : Grows db db') {session : Uuid} {clientId : String}
    {m : MessageRow} (h : RowOf db session clientId m) :
    ∃ m', RowOf db' session clientId m' ∧ m'.id = m.id := by
  obtain ⟨hm, howner, hclient⟩ := h
  obtain ⟨m', hm', hkept⟩ := hg.rows m hm
  exact ⟨m', ⟨hm', hkept.ownerSession.trans howner, hkept.clientId.trans hclient⟩, hkept.id⟩

lemma Schema.rowOf_unique {db : Database} (hs : Schema db) {session : Uuid} {clientId : String}
    {m m' : MessageRow} (h : RowOf db session clientId m) (h' : RowOf db session clientId m') :
    m = m' := by
  refine hs.client m h.1 m' h'.1 (h.2.1.trans h'.2.1.symm) (h.2.2.trans h'.2.2.symm) ?_
  rw [h.2.2]
  rfl

/-- The lookup returns a row of its client identifier. -/
lemma findMessageByClientId_row {db : Database} {session : Uuid} {clientId : String}
    {existing : ChatMessage} (h : findMessageByClientId db session clientId = some existing) :
    ∃ m, RowOf db session clientId m ∧ m.id = existing.id := by
  obtain ⟨m, hm, hview⟩ := List.exists_of_findSome?_eq_some h
  split_ifs at hview with hkey
  obtain ⟨c, -, rfl⟩ := Option.map_eq_some_iff.mp hview
  exact ⟨m, ⟨hm, hkey⟩, rfl⟩

lemma Send.find_row {db : Database} {p : Send} {existing : ChatMessage}
    (h : p.find db = .ok (some existing)) :
    ∃ clientId m, p.key = some clientId ∧ RowOf db p.session clientId m ∧ m.id = existing.id := by
  rw [Send.find, findRetried] at h
  cases hkey : p.key with
  | none =>
      rw [hkey] at h
      exact absurd h (by simp)
  | some clientId =>
      rw [hkey, Option.bind_some] at h
      cases hfound : findMessageByClientId db p.session clientId with
      | none =>
          rw [hfound] at h
          exact absurd h (by simp)
      | some found =>
          simp only [hfound] at h
          split_ifs at h
          obtain rfl := Option.some.inj (Except.ok.inj h)
          obtain ⟨m, hrow, hid⟩ := findMessageByClientId_row hfound
          exact ⟨clientId, m, rfl, hrow, hid⟩

/-! ### One row -/

/-- The message is the row of the client identifier of the request. -/
def Answers (db : Database) (p : Send) (message : ChatMessage) : Prop :=
  ∀ clientId, p.key = some clientId →
    ∃ m, RowOf db p.session clientId m ∧ m.id = message.id

lemma Answers.grows {db db' : Database} (hg : Grows db db') {p : Send} {message : ChatMessage}
    (h : Answers db p message) : Answers db' p message := by
  intro clientId hkey
  obtain ⟨m, hrow, hid⟩ := h clientId hkey
  obtain ⟨m', hrow', hid'⟩ := hrow.grows hg
  exact ⟨m', hrow', hid'.trans hid⟩

/-- What a task knows of the row. -/
def Task.Keyed (db : Database) : Task → Prop
  | save p message | recover p message => message.clientId = p.key
  | reconcile p message | answer p message | note p message | sent p message =>
      Answers db p message
  | store j | scan j | trim j _ _ | forget j _ | publish j | cut j =>
      ∀ p, j.origin = some p → Answers db p j.message
  | _ => True

lemma Task.Keyed.grows {db db' : Database} (hg : Grows db db') {task : Task}
    (h : task.Keyed db) : task.Keyed db' := by
  cases task with
  | save p message | recover p message => exact h
  | reconcile p message | answer p message | note p message | sent p message =>
      exact Answers.grows hg h
  | store j | scan j | trim j _ _ | forget j _ | publish j | cut j =>
      exact fun p hp => (h p hp).grows hg
  | _ => trivial

lemma Task.Keyed.fail {db : Database} {task : Task} (h : task.Keyed db) :
    task.fail.Keyed db := by
  cases task with
  | note p message =>
      intro p' hp'
      obtain rfl := Option.some.inj hp'
      exact h
  | save p message | sent p message => exact h
  | store j | scan j | trim j _ _ | forget j _ | publish j | cut j => exact h
  | _ => trivial

lemma Task.Keyed.lost {db : Database} {task : Task} (h : task.Keyed db) :
    task.lost.Keyed db := by
  cases task with
  | publish j => trivial
  | _ => exact h.fail

/-- A lookup that finds a row. -/
lemma answers_of_find {db : Database} {p : Send} {existing : ChatMessage}
    (h : p.find db = .ok (some existing)) : Answers db p existing := by
  obtain ⟨clientId, m, hkey, hrow, hid⟩ := Send.find_row h
  intro clientId' hkey'
  rw [hkey] at hkey'
  obtain rfl := Option.some.inj hkey'
  exact ⟨m, hrow, hid⟩

/-- A saved message is the row of its client identifier. -/
lemma answers_of_save {db db' : Database} {p : Send} {message : ChatMessage}
    (h : saveMessage db message p.session p.user.id = .ok db') (hclient : message.clientId = p.key) :
    Answers db' p message := by
  obtain ⟨c, links, -, -, rfl⟩ := saveMessage_ok h
  intro clientId hkey
  exact ⟨savedRow c message p.session p.user.id,
    ⟨List.mem_append_right _ (List.mem_singleton_self _), rfl, hclient.trans hkey⟩, rfl⟩

lemma exec_keyed (U : Unicode) (e : Env) (s : State) {task : Task} (h : task.Keyed s.db) :
    (s.exec U e task).2.Keyed (s.exec U e task).1.db := by
  cases task with
  | check p rest =>
      cases rest with
      | nil => trivial
      | cons c rest =>
          rw [State.exec]
          split <;> trivial
  | look p =>
      rw [State.exec]
      split
      next existing hfound => exact answers_of_find hfound
      next => rfl
      next => trivial
  | save p message =>
      rw [State.exec]
      split
      next db hsave => exact answers_of_save hsave h
      next => exact h
  | recover p message =>
      rw [State.exec]
      split
      next existing hfound => exact answers_of_find hfound
      next => trivial
  | note p message =>
      intro p' hp'
      obtain rfl := Option.some.inj hp'
      exact h
  | change change =>
      rw [State.exec]
      split
      next =>
        intro p hp
        cases hp
      next => trivial
  | scan j =>
      simp only [State.exec]
      split_ifs <;> exact h
  | publish j =>
      rw [State.exec]
      split
      next p hp => exact h p hp
      next => trivial
  | moderate _ _ _ _ | view _ =>
      rw [State.exec]
      split <;> trivial
  | range j | fetch j ids =>
      simp only [State.exec]
      split_ifs <;> trivial
  | reconcile _ _ | answer _ _ | store _ | trim _ _ _ | forget _ _ | sent _ _ | cut _ => exact h
  | announce _ | delMessages _ | delOrder _ | subscribe _ | load _ | hydrate _ _ | joined _ _
  | ended => trivial

/-- The invariant of the row: the schema, and what every task knows. -/
structure Tracked (s : State) : Prop where
  schema : Schema s.db
  keyed : ∀ task ∈ s.tasks, task.Keyed s.db

lemma Tracked.step (U : Unicode) {s : State} (h : Tracked s) (a : Act) : Tracked (s.step U a) := by
  refine ⟨schema_step U h.schema a, ?_⟩
  refine forall_tasks_step (P := fun s task => task.Keyed s.db) (fun _ _ _ ht => ht) h.keyed ?_ ?_
    (fun _ ht => ht.fail) ?_
  · exact ⟨fun _ _ => trivial, fun _ => trivial, fun _ _ _ _ => trivial, fun _ => trivial⟩
  · intro k e t _ htask
    exact ⟨exec_keyed U e s (h.keyed t (List.mem_of_getElem? htask)),
      fun t' ht' => (h.keyed t' ht').grows (exec_db U e s t).grows⟩
  · intro k e t _ htask
    exact ⟨((h.keyed t (List.mem_of_getElem? htask)).grows (exec_db U e s t).grows).lost,
      fun t' ht' => (h.keyed t' ht').grows (exec_db U e s t).grows⟩

lemma tracked_final (U : Unicode) {s : State} (h : Tracked s) (as : List Act) :
    Tracked (final (State.step U) s as) :=
  final_invariant (I := Tracked) (fun _ a hs => hs.step U a) h as

/-- Between `s` and the later state `s'` the session has one row under the client identifier, and
every `SendMessage` that returned `Ok` with it answered that row. -/
def OneRow (s s' : State) (session : Uuid) (clientId : String) : Prop :=
  (∀ m m', RowOf s.db session clientId m → RowOf s'.db session clientId m' → m'.id = m.id) ∧
  (∀ m m', RowOf s'.db session clientId m → RowOf s'.db session clientId m' → m' = m) ∧
  ∀ p message, .sent p message ∈ s.tasks → p.session = session → p.clientId = some clientId →
    ∃ m, RowOf s'.db session clientId m ∧ m.id = message.id

lemma Send.key_of_not_blank {p : Send} {clientId : String} (h : p.clientId = some clientId)
    (hblank : trim clientId ≠ "") : p.key = some clientId := by
  rw [Send.key, h, Option.filter_some, if_pos (decide_eq_true hblank)]

/-- However the sends interleave, a session has one row under a client identifier that is not
blank, and every `Ok` is for that row. -/
theorem oneRow_of_not_blank (U : Unicode) {s : State} (hdb : Schema s.db) (htasks : s.tasks = [])
    (as bs : List Act) (session : Uuid) (clientId : String) (hblank : trim clientId ≠ "") :
    OneRow (final (State.step U) s as) (final (State.step U) s (as ++ bs)) session clientId := by
  have hstart : Tracked s := ⟨hdb, by simp [htasks]⟩
  have hmid := tracked_final U hstart as
  have hend := tracked_final U hstart (as ++ bs)
  have hgrows : Grows (final (State.step U) s as).db (final (State.step U) s (as ++ bs)).db := by
    rw [final_append]
    exact grows_final U _ bs
  refine ⟨?_, fun m m' h h' => hend.schema.rowOf_unique h' h, ?_⟩
  · intro m m' h h'
    obtain ⟨m'', hrow, hid⟩ := h.grows hgrows
    rw [← hid, hend.schema.rowOf_unique h' hrow]
  · rintro p message hsent rfl hclient
    have hanswers : Answers (final (State.step U) s as).db p message := hmid.keyed _ hsent
    exact hanswers.grows hgrows clientId (Send.key_of_not_blank hclient hblank)

/-! ### Runs of two sends -/

/-- Both sends look before either saves, and the second insert fails. -/
def race : List Act :=
  [.send (greeting "c"), .send (greeting "c")] ++
    runs 7 0 10 21 ++ runs 7 1 11 22 ++ runs 5 0 12 23 ++ runs 4 1 13 24

/-- Both are answered with the one row. -/
theorem oneRow_race :
    trim "c" ≠ "" ∧ (final (State.step .ascii) quietHall race).tasks.length = 2 ∧
      OneRow (final (State.step .ascii) quietHall race)
        (final (State.step .ascii) quietHall (race ++ [])) 5 "c" := by
  have hblank : trim "c" ≠ "" := by decide +kernel
  exact ⟨hblank, by decide +kernel,
    oneRow_of_not_blank .ascii schema_hall rfl race [] 5 "c" hblank⟩

/-- Two sends under a blank client identifier, one after the other. -/
def blankTwice : List Act :=
  [.send (greeting " "), .send (greeting " ")] ++
    runs 12 0 10 21 ++ runs 12 1 11 22

/-- Both are stored and answered, without a row under that identifier. -/
theorem blankTwice_not_oneRow :
    Schema quietHall.db ∧
      ((final (State.step .ascii) quietHall blankTwice).db.messages.map MessageRow.id = [21, 22]) ∧
      ¬ OneRow (final (State.step .ascii) quietHall blankTwice)
        (final (State.step .ascii) quietHall blankTwice) 5 " " := by
  refine ⟨schema_hall, by decide +kernel, fun h => ?_⟩
  have hsent : Task.sent (greeting " ")
      (newMessage .ascii { db := hall, now := 10 } 21 (greeting " ").user "main" "hi" none none [])
        ∈ (final (State.step .ascii) quietHall blankTwice).tasks := by decide +kernel
  obtain ⟨m, ⟨hm, -, hclient⟩, -⟩ := h.2.2 _ _ hsent rfl rfl
  have hnone : ∀ m ∈ (final (State.step .ascii) quietHall blankTwice).db.messages,
      m.clientId = none := by decide +kernel
  rw [hnone m hm] at hclient
  cases hclient

/-! ### Delivery -/

/-- The message is stored, was written to the cache, and was published to its room. -/
structure Delivered (s : State) (id : Uuid) : Prop where
  stored : ∃ m ∈ s.db.messages, m.id = id
  cached : ∃ message ∈ s.cached, message.id = id
  published : ∃ message : ChatMessage, message.id = id ∧
    (message.channel, ServerEvent.message message) ∈ s.published

/-- The message that a task has stored and not published: it is on its way, or was cut off. -/
def Task.held? : Task → Option Uuid
  | note _ message => some message.id
  | store j | scan j | trim j _ _ | forget j _ | publish j | cut j =>
      j.origin.map fun _ => j.message.id
  | _ => none

/-- Some attempt holds the message. -/
def Undelivered (s : State) (id : Uuid) : Prop := ∃ task ∈ s.tasks, task.held? = some id

instance (s : State) (id : Uuid) : Decidable (Undelivered s id) :=
  inferInstanceAs (Decidable (∃ task ∈ s.tasks, _))

/-- The stored message that the next step of a retry answers with. -/
def Task.answers? : Task → Option ChatMessage
  | answer _ existing => some existing
  | _ => none

/-- The next step of the task commits a message. -/
def Task.commits (db : Database) : Task → Bool
  | save p message => (saveMessage db message p.session p.user.id).isOk
  | _ => false

/-- A retry is answered only from a row that no attempt holds, and no commit loses its answer. -/
def Prompt (s : State) : Act → Prop
  | .run k _ => ∀ task ∈ s.tasks[k]?, ∀ existing ∈ task.answers?, ¬ Undelivered s existing.id
  | .lose k _ => ∀ task ∈ s.tasks[k]?, task.commits s.db = false
  | _ => True

instance (s : State) : ∀ a, Decidable (Prompt s a)
  | .run k _ => inferInstanceAs (Decidable (∀ task ∈ s.tasks[k]?, _))
  | .lose k _ => inferInstanceAs (Decidable (∀ task ∈ s.tasks[k]?, _))
  | .send _ | .change _ | .moderate _ _ _ _ | .join _ | .fail _ => isTrue trivial

lemma Delivered.follows {s s' : State} (hf : Follows s s') {id : Uuid} (h : Delivered s id) :
    Delivered s' id := by
  obtain ⟨m, hm, hid⟩ := h.stored
  obtain ⟨m', hm', hkept⟩ := hf.grows.rows m hm
  obtain ⟨x, hx, hxid⟩ := h.cached
  obtain ⟨message, hmessage, hpub⟩ := h.published
  exact ⟨⟨m', hm', hkept.id.trans hid⟩, ⟨x, hf.cached x hx, hxid⟩,
    ⟨message, hmessage, hf.published _ hpub⟩⟩

/-- The message has a row. -/
def HasRow (s : State) (id : Uuid) : Prop := ∃ m ∈ s.db.messages, m.id = id

lemma HasRow.follows {s s' : State} (hf : Follows s s') {id : Uuid} (h : HasRow s id) :
    HasRow s' id := by
  obtain ⟨m, hm, hid⟩ := h
  obtain ⟨m', hm', hkept⟩ := hf.grows.rows m hm
  exact ⟨m', hm', hkept.id.trans hid⟩

/-- How far the message of a task has come. -/
def Task.Carried (s : State) : Task → Prop
  | reconcile _ existing | answer _ existing =>
      ∃ m ∈ s.db.messages, m.id = existing.id ∧ m.clientId.isSome
  | note _ message => HasRow s message.id
  | store j => j.origin.isSome → HasRow s j.message.id
  | scan j | trim j _ _ | forget j _ | publish j =>
      j.origin.isSome → HasRow s j.message.id ∧ j.message ∈ s.cached
  | sent _ message => Delivered s message.id
  | _ => True

lemma Task.Carried.follows {s s' : State} (hf : Follows s s') {task : Task}
    (h : task.Carried s) : task.Carried s' := by
  cases task with
  | reconcile p existing | answer p existing =>
      obtain ⟨m, hm, hid, hsome⟩ := h
      obtain ⟨m', hm', hkept⟩ := hf.grows.rows m hm
      refine ⟨m', hm', hkept.id.trans hid, ?_⟩
      rw [hkept.clientId]
      exact hsome
  | note p message => exact HasRow.follows hf h
  | store j => exact fun ho => (h ho).follows hf
  | scan j | trim j _ _ | forget j _ | publish j =>
      exact fun ho => ⟨(h ho).1.follows hf, hf.cached _ (h ho).2⟩
  | sent p message => exact Delivered.follows hf h
  | _ => trivial

lemma Task.Carried.fail {s : State} {task : Task} (h : task.Carried s) : task.fail.Carried s := by
  cases task with
  | note p message => exact fun _ => h
  | sent p message => exact h
  | _ => trivial

lemma Task.Carried.lost {s : State} {task : Task} (h : task.Carried s) : task.lost.Carried s := by
  cases task with
  | publish j => trivial
  | _ => exact h.fail

lemma carried_of_find {s : State} {p : Send} {existing : ChatMessage}
    (h : p.find s.db = .ok (some existing)) :
    ∃ m ∈ s.db.messages, m.id = existing.id ∧ m.clientId.isSome := by
  obtain ⟨clientId, m, -, hrow, hid⟩ := Send.find_row h
  refine ⟨m, hrow.1, hid, ?_⟩
  rw [hrow.2.2]
  rfl

/-- A published message of a `SendMessage`. -/
lemma delivered_publish {s : State} {j : Job} (hrow : HasRow s j.message.id)
    (hcached : j.message ∈ s.cached) (horigin : j.origin.isSome) :
    Delivered (s.publish j.message.channel j.event) j.message.id := by
  refine ⟨hrow, ⟨j.message, hcached, rfl⟩, j.message, rfl, List.mem_append_right _ ?_⟩
  obtain ⟨p, hp⟩ := Option.isSome_iff_exists.mp horigin
  rw [Job.event, hp]
  exact List.mem_singleton_self _

/-- The step of a task, where a retry answers with a delivered message. -/
lemma exec_carried (U : Unicode) (e : Env) (s : State) {task : Task} (h : task.Carried s)
    (hanswer : ∀ existing ∈ task.answers?, Delivered s existing.id) :
    (s.exec U e task).2.Carried (s.exec U e task).1 := by
  cases task with
  | check p rest =>
      cases rest with
      | nil => trivial
      | cons c rest =>
          rw [State.exec]
          split <;> trivial
  | look p =>
      rw [State.exec]
      split
      next existing hfound => exact carried_of_find hfound
      next => trivial
      next => trivial
  | save p message =>
      rw [State.exec]
      split
      next db hsave =>
        obtain ⟨c, links, -, -, rfl⟩ := saveMessage_ok hsave
        exact ⟨_, List.mem_append_right _ (List.mem_singleton_self _), rfl⟩
      next => trivial
  | recover p message =>
      rw [State.exec]
      split
      next existing hfound => exact carried_of_find hfound
      next => trivial
  | answer p existing => exact hanswer existing rfl
  | note p message => exact fun _ => h
  | change change =>
      rw [State.exec]
      split
      next => exact fun ho => absurd ho (by simp)
      next => trivial
  | store j => exact fun ho => ⟨h ho, List.mem_append_right _ (List.mem_singleton_self _)⟩
  | scan j =>
      simp only [State.exec]
      split_ifs <;> exact h
  | publish j =>
      rw [State.exec]
      split
      next p hp =>
        have ho : j.origin.isSome := by rw [hp]; rfl
        exact delivered_publish (h ho).1 (h ho).2 ho
      next => trivial
  | moderate _ _ _ _ | view _ =>
      rw [State.exec]
      split <;> trivial
  | range j | fetch j ids =>
      simp only [State.exec]
      split_ifs <;> trivial
  | reconcile _ _ | trim _ _ _ | forget _ _ | sent _ _ => exact h
  | cut _ | announce _ | delMessages _ | delOrder _ | subscribe _ | load _ | hydrate _ _
  | joined _ _ | ended => trivial

/-! ### No message is forgotten -/

/-- The last step of an attempt delivers its message. -/
lemma publish_held {s : State} {j : Job} (h : Task.Carried s (.publish j)) {id : Uuid}
    (hheld : (Task.publish j).held? = some id) :
    Delivered (s.publish j.message.channel j.event) id := by
  obtain ⟨p, hp, rfl⟩ := Option.map_eq_some_iff.mp hheld
  have ho : j.origin.isSome := by rw [hp]; rfl
  exact delivered_publish (h ho).1 (h ho).2 ho

/-- A held message stays held, or is delivered. -/
lemma exec_held (U : Unicode) (e : Env) (s : State) {task : Task} (h : task.Carried s) {id : Uuid}
    (hheld : task.held? = some id) :
    Delivered (s.exec U e task).1 id ∨ (s.exec U e task).2.held? = some id := by
  cases task with
  | note p message => exact .inr hheld
  | store j | trim j _ _ | forget j _ | cut j => exact .inr hheld
  | scan j =>
      simp only [State.exec]
      split_ifs <;> exact .inr hheld
  | publish j => exact .inl (publish_held h hheld)
  | _ => exact absurd hheld (by simp [Task.held?])

lemma fail_held {task : Task} {id : Uuid} (hheld : task.held? = some id) :
    task.fail.held? = some id := by
  cases task with
  | note p message => exact hheld
  | store j | scan j | trim j _ _ | forget j _ | publish j | cut j => exact hheld
  | _ => exact absurd hheld (by simp [Task.held?])

lemma lost_held (U : Unicode) (e : Env) (s : State) {task : Task} (h : task.Carried s) {id : Uuid}
    (hheld : task.held? = some id) :
    Delivered (s.exec U e task).1 id ∨ task.lost.held? = some id := by
  cases task with
  | publish j => exact .inl (publish_held h hheld)
  | _ => exact .inr (fail_held hheld)

/-- A row of the new tables is an old one, or the one that the step saved. -/
lemma DbStep.origin {db db' : Database} {task : Task} (h : DbStep db task db') {m' : MessageRow}
    (hm' : m' ∈ db'.messages) :
    (∃ m ∈ db.messages, Kept m m') ∨
      ∃ p message, task = .save p message ∧ m'.id = message.id ∧
        saveMessage db message p.session p.user.id = .ok db' := by
  cases h with
  | same => exact .inl ⟨m', hm', .refl m'⟩
  | @saved p message _ hsave =>
      have hok := hsave
      obtain ⟨c, links, -, -, rfl⟩ := saveMessage_ok hsave
      obtain hm' | hm' := List.mem_append.mp hm'
      · exact .inl ⟨m', hm', .refl m'⟩
      · obtain rfl := List.mem_singleton.mp hm'
        exact .inr ⟨p, message, rfl, rfl, hok⟩
  | rewritten audit hf =>
      obtain ⟨m, hm, hkept, -⟩ := mem_updateMessage hf hm'
      exact .inl ⟨m, hm, hkept⟩

/-- While a task goes on to `new`, a held message stays held unless it is delivered. -/
lemma undelivered_set {s : State} {k : ℕ} {task new : Task} {id : Uuid} {D : Prop}
    (htask : s.tasks[k]? = some task) (h : Undelivered s id)
    (hk : task.held? = some id → D ∨ new.held? = some id) :
    D ∨ ∃ t ∈ s.tasks.set k new, t.held? = some id := by
  obtain ⟨t, ht, hheld⟩ := h
  obtain ⟨j, hj⟩ := List.mem_iff_getElem?.mp ht
  by_cases hjk : k = j
  · subst hjk
    obtain rfl := Option.some.inj (htask.symm.trans hj)
    refine (hk hheld).imp_right fun hnew => ⟨new, ?_, hnew⟩
    obtain ⟨hlt, -⟩ := List.getElem?_eq_some_iff.mp htask
    exact List.mem_set hlt new
  · refine .inr ⟨t, List.mem_iff_getElem?.mpr ⟨j, ?_⟩, hheld⟩
    rw [List.getElem?_set_ne hjk]
    exact hj

/-- The invariant of the delivery: every row with a client identifier is delivered or held. -/
structure Told (s : State) : Prop where
  carried : ∀ task ∈ s.tasks, task.Carried s
  told : ∀ m ∈ s.db.messages, m.clientId.isSome → Delivered s m.id ∨ Undelivered s m.id

lemma Told.delivered {s : State} (h : Told s) {p : Send} {existing : ChatMessage}
    (hcarried : Task.Carried s (.answer p existing)) (hfree : ¬ Undelivered s existing.id) :
    Delivered s existing.id := by
  obtain ⟨m, hm, hid, hsome⟩ := hcarried
  rw [← hid] at hfree ⊢
  exact (h.told m hm hsome).resolve_right hfree

/-- Old rows are told of after the step of a task that goes on to `new`. -/
lemma told_set (U : Unicode) (e : Env) {s : State} (h : Told s) {k : ℕ} {task new : Task}
    (htask : s.tasks[k]? = some task)
    (hheld : ∀ id, task.held? = some id → Delivered (s.exec U e task).1 id ∨ new.held? = some id)
    (hsaved : ∀ p message db, task = .save p message →
      saveMessage s.db message p.session p.user.id = .ok db → new.held? = some message.id) :
    ∀ m ∈ ((s.exec U e task).1.setTask k new).db.messages, m.clientId.isSome →
      Delivered ((s.exec U e task).1.setTask k new) m.id ∨
        Undelivered ((s.exec U e task).1.setTask k new) m.id := by
  intro m' hm' hsome
  have hset : ∀ id, Delivered (s.exec U e task).1 id →
      Delivered ((s.exec U e task).1.setTask k new) id := fun id hd =>
    ⟨hd.stored, hd.cached, hd.published⟩
  have htasks : ((s.exec U e task).1.setTask k new).tasks = s.tasks.set k new := by
    rw [State.setTask, exec_tasks]
  rw [Undelivered, htasks]
  obtain ⟨m, hm, hkept⟩ | ⟨p, message, rfl, hid, hsave⟩ := (exec_db U e s task).origin hm'
  · rw [hkept.clientId] at hsome
    rw [hkept.id]
    obtain hdelivered | hun := h.told m hm hsome
    · exact .inl (hset _ (hdelivered.follows (exec_follows U e s task)))
    · exact (undelivered_set htask hun (hheld m.id)).imp_left (hset _)
  · obtain ⟨hlt, -⟩ := List.getElem?_eq_some_iff.mp htask
    rw [hid]
    exact .inr ⟨new, List.mem_set hlt new, hsaved p message _ rfl hsave⟩

/-- What the tasks carry stays true. -/
lemma Told.step_carried (U : Unicode) {s : State} (h : Told s) (a : Act) (hp : Prompt s a) :
    ∀ task ∈ (s.step U a).tasks, task.Carried (s.step U a) := by
  refine forall_tasks_step (P := fun s task => task.Carried s) ?_ h.carried ?_ ?_
    (fun _ ht => ht.fail) ?_
  · exact fun s tasks t ht => ht.follows (follows_tasks s tasks)
  · exact ⟨fun _ _ => trivial, fun _ => trivial, fun _ _ _ _ => trivial, fun _ => trivial⟩
  · rintro k e t rfl htask
    have hcarried := h.carried t (List.mem_of_getElem? htask)
    refine ⟨exec_carried U e s hcarried fun existing hex => ?_,
      fun t' ht' => (h.carried t' ht').follows (exec_follows U e s t)⟩
    have hfree := hp t htask existing hex
    cases t with
    | answer p existing' =>
        obtain rfl := Option.some.inj hex
        exact h.delivered hcarried hfree
    | _ => cases hex
  · rintro k e t - htask
    have hcarried := h.carried t (List.mem_of_getElem? htask)
    exact ⟨(hcarried.follows (exec_follows U e s t)).lost,
      fun t' ht' => (h.carried t' ht').follows (exec_follows U e s t)⟩

/-- Every row is told of, or an attempt holds it. -/
lemma Told.step_told (U : Unicode) {s : State} (h : Told s) (a : Act) (hp : Prompt s a) :
    ∀ m ∈ (s.step U a).db.messages, m.clientId.isSome →
      Delivered (s.step U a) m.id ∨ Undelivered (s.step U a) m.id := by
  have hspawn : ∀ t, ∀ m ∈ (s.spawn t).db.messages, m.clientId.isSome →
      Delivered (s.spawn t) m.id ∨ Undelivered (s.spawn t) m.id := by
    intro t m hm hsome
    obtain hd | ⟨t', ht', hheld⟩ := h.told m hm hsome
    · exact .inl ⟨hd.stored, hd.cached, hd.published⟩
    · exact .inr ⟨t', List.mem_append_left _ ht', hheld⟩
  cases a with
  | send p => exact hspawn _
  | change change => exact hspawn _
  | moderate actor id action reason => exact hspawn _
  | join channel => exact hspawn _
  | run k e =>
      rw [State.step]
      cases htask : s.tasks[k]? with
      | none => exact h.told
      | some task =>
          have hcarried := h.carried task (List.mem_of_getElem? htask)
          refine told_set U e h htask (fun id => exec_held U e s hcarried) ?_
          rintro p message db rfl hsave
          simp only [State.exec, hsave]
          rfl
  | fail k =>
      rw [State.step]
      cases htask : s.tasks[k]? with
      | none => exact h.told
      | some task =>
          intro m hm hsome
          obtain hd | hun := h.told m hm hsome
          · exact .inl ⟨hd.stored, hd.cached, hd.published⟩
          · obtain hfalse | hun := undelivered_set (D := False) htask hun
              fun hheld => .inr (fail_held hheld)
            · exact hfalse.elim
            · exact .inr hun
  | lose k e =>
      rw [State.step]
      cases htask : s.tasks[k]? with
      | none => exact h.told
      | some task =>
          have hcarried := h.carried task (List.mem_of_getElem? htask)
          refine told_set U e h htask (fun id => lost_held U e s hcarried) ?_
          rintro p message db rfl hsave
          -- the answer of a commit is not lost
          have hheard := hp _ htask
          rw [Task.commits, hsave] at hheard
          cases hheard

/-- A step that meets the condition keeps the invariant. -/
lemma Told.step (U : Unicode) {s : State} (h : Told s) (a : Act) (hp : Prompt s a) :
    Told (s.step U a) :=
  ⟨h.step_carried U a hp, h.step_told U a hp⟩

/-- In a run in which a retry is answered only from a row that no attempt holds, every `Ok` is for a
message that is stored, was cached and was published. -/
theorem delivered_of_prompt (U : Unicode) {s : State} (htasks : s.tasks = [])
    (hrows : ∀ m ∈ s.db.messages, m.clientId.isSome → Delivered s m.id) (as : List Act)
    (h : Along (State.step U) Prompt s as) (p : Send) (message : ChatMessage)
    (hsent : .sent p message ∈ (final (State.step U) s as).tasks) :
    Delivered (final (State.step U) s as) message.id := by
  have hstart : Told s := ⟨by simp [htasks], fun m hm hsome => .inl (hrows m hm hsome)⟩
  exact (Along.invariant (I := Told) (fun _ a hs hp => hs.step U a hp) hstart h).carried _ hsent

/-- An attempt that goes through, and a retry. -/
def sendAgain : List Act :=
  .send (greeting "c") :: runs 12 0 10 21 ++ .send (greeting "c") :: runs 9 1 11 22

theorem delivered_sendAgain :
    Along (State.step .ascii) Prompt quietHall sendAgain ∧
      Delivered (final (State.step .ascii) quietHall sendAgain) 21 := by
  have hprompt : Along (State.step .ascii) Prompt quietHall sendAgain := by decide +kernel
  have hsent : Task.sent (greeting "c") greeted
      ∈ (final (State.step .ascii) quietHall sendAgain).tasks := by decide +kernel
  exact ⟨hprompt, delivered_of_prompt .ascii rfl (fun m hm => absurd hm (by simp [quietHall, hall]))
    sendAgain hprompt _ _ hsent⟩

/-- An attempt whose `store_message` fails, and a retry. -/
def sendAfterFailure : List Act :=
  .send (greeting "c") :: runs 9 0 10 21 ++
    .fail 0 :: .send (greeting "c") :: runs 9 1 11 22

/-- The retry returns `Ok`, and nobody was sent the message. -/
theorem sendAfterFailure_not_delivered :
    Task.sent (greeting "c") greeted
        ∈ (final (State.step .ascii) quietHall sendAfterFailure).tasks ∧
      (final (State.step .ascii) quietHall sendAfterFailure).published = [] ∧
      (final (State.step .ascii) quietHall sendAfterFailure).cached = [] ∧
      ¬ Delivered (final (State.step .ascii) quietHall sendAfterFailure) greeted.id := by
  have hcached : (final (State.step .ascii) quietHall sendAfterFailure).cached = [] := by
    decide +kernel
  refine ⟨by decide +kernel, by decide +kernel, hcached, fun h => ?_⟩
  obtain ⟨message, hmem, -⟩ := h.cached
  rw [hcached] at hmem
  cases hmem

end Vussa.Flow
