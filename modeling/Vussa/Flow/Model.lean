import Vussa.Lib.Run
import Vussa.Model.Handler

/-!
Messages in flight: `SendMessage`, `EditMessage`, `DeleteMessage`, the moderation of a message and
the entry of a socket into a channel, as tasks that run side by side (`websocket/handler.rs`,
`websocket/history.rs`, `websocket/broadcast.rs`, `api/admin.rs`).

A step of a task is one database query or transaction, one Valkey command or `MULTI` block, one
`PUBLISH`, or one frame to the own socket; between two of them every other task may run. A step may
fail without effect, and its effect may come about while its answer is lost. The two keys of the
cache are separate here, since the commands that delete and trim them are. A refusal by the rate
limit is a failed check. The instants, the drawn identifiers and the presence entries that the code
reads are choices of the run.

* `Cache`: the two cache keys of a channel, with the commands on them;
* `Send`, `Job`, `Task`: the requests and the tasks by their next step;
* `State.exec`, `Task.fail`: the step of a task, and where a failed one leads;
* `Act`, `State.step`: the moves, in any order;
* `step_cases`, `forall_tasks_step`: what a move does to the rest of the state, and the rule for a
  property that all tasks have.
-/

namespace Vussa.Flow

open SortedSet

/-! ### The cache keys -/

/-- `chat:history:{channel}:messages` and `chat:history:{channel}:order`; `wipes` counts how often
the second one was deleted. -/
structure Cache where
  messages : Uuid → Option StoredMessage := fun _ => none
  order : SortedSet ℤ Uuid := SortedSet.empty
  wipes : ℕ := 0

namespace Cache

/-- `HSET` and `ZADD` of a record. -/
def store (c : Cache) (record : StoredMessage) : Cache :=
  { c with
    messages := Function.update c.messages record.id (some record)
    order := c.order.add ((record.createdAt : ℕ) : ℤ) record.id }

/-- The `MULTI` block of `hydrate_hot_history`. -/
def hydrate (c : Cache) (messages : List ChatMessage) : Cache :=
  messages.foldl (fun c m => c.store (.fromMessage m Uuid.nil)) c

/-- `ZRANGE order 0 -(HOT_HISTORY_LIMIT + 1)`. -/
def oldIds (c : Cache) : List Uuid := c.order.range 0 (-((hotHistoryLimit + 1 : ℕ) : ℤ))

/-- `ZRANGE order -HOT_HISTORY_LIMIT -1`. -/
def latestIds (c : Cache) : List Uuid := c.order.range (-((hotHistoryLimit : ℕ) : ℤ)) (-1)

/-- `HMGET`, with the payloads decoded. -/
def fetch (c : Cache) (ids : List Uuid) : List ChatMessage :=
  (ids.filterMap c.messages).map StoredMessage.intoMessage

/-- `ZREM`. -/
def zrem (c : Cache) (ids : List Uuid) : Cache := { c with order := c.order.rem ids }

/-- `HDEL`. -/
def hdel (c : Cache) (ids : List Uuid) : Cache :=
  { c with messages := fun id => if id ∈ ids then none else c.messages id }

/-- `DEL` of the payloads. -/
def delMessages (c : Cache) : Cache := { c with messages := fun _ => none }

/-- `DEL` of the order. -/
def delOrder (c : Cache) : Cache := { c with order := SortedSet.empty, wipes := c.wipes + 1 }

end Cache

/-! ### Requests and tasks -/

/-- A `SendMessage` event on a socket. -/
structure Send where
  user : AuthUser
  session : Uuid
  channel : String
  text : String
  rootMessageId : Option Uuid
  clientId : Option String
  fileIds : List Uuid
  deriving DecidableEq, Repr

/-- `client_id.filter(|value| !value.trim().is_empty())`. -/
def Send.key (p : Send) : Option String := p.clientId.filter fun value => trim value ≠ ""

/-- The checks of `SendMessage`, in order. -/
inductive Check where
  | permission | access | posting | text | files
  deriving DecidableEq, Repr

/-- One check. -/
def Check.pass (db : Database) (now : Millis) (p : Send) : Check → Except AppError Unit
  | permission => requirePermission p.user .chatWrite
  | access => ensureChannelAccess db now p.channel p.user.id
  | posting => ensureChannelPostingAccess db p.channel p.user
  | text => (messageText p.text).map fun _ => ⟨⟩
  | files => ensureFiles db p.user.id p.fileIds

/-- The lookup by the client identifier. -/
def Send.find (p : Send) (db : Database) : Except AppError (Option ChatMessage) :=
  findRetried db p.session p.key p.channel (trim p.text) p.rootMessageId p.fileIds

/-- `edit_message` and `delete_message` past the checks of their events. -/
inductive Change where
  | edit (channel : String) (id session : Uuid) (text : String)
  | delete (channel : String) (id session : Uuid) (canModerate : Bool)
  deriving DecidableEq, Repr

/-- The transaction of a change. -/
def Change.commit (db : Database) (now : Millis) :
    Change → Except RepositoryError (Database × ChatMessage)
  | edit channel id session text => editMessage db channel id session text
  | delete channel id session canModerate => deleteMessage db now channel id session canModerate

/-- A message on its way from its commit to its `PUBLISH`: for `SendMessage` with the request, for
a change without. -/
structure Job where
  message : ChatMessage
  origin : Option Send
  deriving DecidableEq, Repr

namespace Job

/-- The session `store_message` is called with. -/
def owner (j : Job) : Uuid := j.origin.elim Uuid.nil Send.session

/-- The event that is broadcast. -/
def event (j : Job) : ServerEvent :=
  match j.origin with
  | some _ => .message j.message
  | none => .messageUpdated j.message

end Job

/-- A socket that enters a channel; its receiver gets what is published from `since` on. -/
structure Join where
  channel : String
  since : ℕ
  deriving DecidableEq, Repr

/-- A task, by its next step. -/
inductive Task where
  /-- the checks of `SendMessage` that are left -/
  | check (p : Send) (rest : List Check)
  /-- `find_message_by_client_id` -/
  | look (p : Send)
  /-- `save_message` -/
  | save (p : Send) (message : ChatMessage)
  /-- the lookup after a failed `save_message` -/
  | recover (p : Send) (message : ChatMessage)
  /-- `create_message_notifications` for a stored message -/
  | reconcile (p : Send) (existing : ChatMessage)
  /-- `send_event` of a stored message to the own socket -/
  | answer (p : Send) (existing : ChatMessage)
  /-- `create_message_notifications` for a new message -/
  | note (p : Send) (message : ChatMessage)
  /-- the transaction of a change -/
  | change (change : Change)
  /-- the `MULTI` block of `store_message` -/
  | store (j : Job)
  /-- its `ZRANGE` -/
  | scan (j : Job)
  /-- its `ZREM`; `wipes` is the count of deletions that its `ZRANGE` saw -/
  | trim (j : Job) (ids : List Uuid) (wipes : ℕ)
  /-- its `HDEL` -/
  | forget (j : Job) (ids : List Uuid)
  /-- `broadcast` -/
  | publish (j : Job)
  /-- a `SendMessage` that returned `Ok`, with the message it answered -/
  | sent (p : Send) (message : ChatMessage)
  /-- a job that ended between its commit and its `PUBLISH` -/
  | cut (j : Job)
  /-- the transaction of `admin_moderate_message` -/
  | moderate (actor id : Uuid) (action : Moderation) (reason : Option String)
  /-- the query of `refresh_moderated_message` -/
  | view (id : Uuid)
  /-- its `broadcast` -/
  | announce (message : ChatMessage)
  /-- its `DEL` of the payloads -/
  | delMessages (channel : String)
  /-- its `DEL` of the order -/
  | delOrder (channel : String)
  /-- `rooms.subscribe` of a channel switch -/
  | subscribe (channel : String)
  /-- `ZRANGE` of `load_hot_history` -/
  | range (j : Join)
  /-- `HMGET` of `load_hot_history` -/
  | fetch (j : Join) (ids : List Uuid)
  /-- `load_messages` of `send_history_page` -/
  | load (j : Join)
  /-- `hydrate_hot_history` -/
  | hydrate (j : Join) (rows : List ChatMessage)
  /-- a socket that was sent its `History` page -/
  | joined (j : Join) (page : List ChatMessage)
  /-- an ended task: refused, failed, or done without more to say -/
  | ended
  deriving DecidableEq, Repr

/-! ### Steps -/

/-- The tables, the cache keys by channel name, what was published, and the tasks. `cached` lists
the messages that a `store_message` has written. -/
structure State where
  db : Database
  cache : String → Cache := fun _ => {}
  cached : List ChatMessage := []
  published : List (String × ServerEvent) := []
  tasks : List Task := []

/-- Replace the cache keys of a channel. -/
def State.setCache (s : State) (channel : String) (c : Cache) : State :=
  { s with cache := Function.update s.cache channel c }

/-- `broadcast`. -/
def State.publish (s : State) (channel : String) (event : ServerEvent) : State :=
  { s with published := s.published ++ [(channel, event)] }

/-- What a step reads beside the state: the clock, a drawn identifier, the presence entries. -/
structure Env where
  now : Millis
  id : Uuid
  present : List Participant := []
  deriving DecidableEq, Repr

/-- The message `SendMessage` builds. -/
def Send.build (U : Unicode) (p : Send) (db : Database) (e : Env) : ChatMessage :=
  newMessage U { db := db, now := e.now, presence := fun _ => e.present } e.id p.user p.channel
    (trim p.text) p.rootMessageId p.key p.fileIds

/-- The page without a cursor. -/
def page (messages : List ChatMessage) : List ChatMessage := splitOffPage (sortMessages messages)

/-- The step of a task: what it does, and what the task does next. -/
def State.exec (U : Unicode) (e : Env) (s : State) : Task → State × Task
  | .check p [] => (s, .look p)
  | .check p (c :: rest) =>
      match c.pass s.db e.now p with
      | .ok _ => (s, .check p rest)
      | .error _ => (s, .ended)
  | .look p =>
      match p.find s.db with
      | .ok (some existing) => (s, .reconcile p existing)
      | .ok none => (s, .save p (p.build U s.db e))
      | .error _ => (s, .ended)
  | .save p message =>
      match saveMessage s.db message p.session p.user.id with
      | .ok db => ({ s with db := db }, .note p message)
      | .error _ => (s, .recover p message)
  | .recover p _ =>
      match p.find s.db with
      | .ok (some existing) => (s, .reconcile p existing)
      | _ => (s, .ended)
  | .reconcile p existing => (s, .answer p existing)
  | .answer p existing => (s, .sent p existing)
  | .note p message => (s, .store { message := message, origin := some p })
  | .change change =>
      match change.commit s.db e.now with
      | .ok (db, message) => ({ s with db := db }, .store { message := message, origin := none })
      | .error _ => (s, .ended)
  | .store j =>
      ({ s.setCache j.message.channel
          ((s.cache j.message.channel).store (.fromMessage j.message j.owner)) with
        cached := s.cached ++ [j.message] }, .scan j)
  | .scan j =>
      let c := s.cache j.message.channel
      (s, if c.oldIds = [] then .publish j else .trim j c.oldIds c.wipes)
  | .trim j ids _ =>
      (s.setCache j.message.channel ((s.cache j.message.channel).zrem ids), .forget j ids)
  | .forget j ids =>
      (s.setCache j.message.channel ((s.cache j.message.channel).hdel ids), .publish j)
  | .publish j =>
      (s.publish j.message.channel j.event,
        match j.origin with
        | some p => .sent p j.message
        | none => .ended)
  | .moderate actor id action reason =>
      match adminModerateMessage s.db e.now actor id action reason with
      | .ok db => ({ s with db := db }, .view id)
      | .error _ => (s, .ended)
  | .view id =>
      match moderatedView? s.db id with
      | some message => (s, .announce message)
      | none => (s, .ended)
  | .announce message =>
      (s.publish message.channel (.messageUpdated message), .delMessages message.channel)
  | .delMessages channel =>
      (s.setCache channel (s.cache channel).delMessages, .delOrder channel)
  | .delOrder channel => (s.setCache channel (s.cache channel).delOrder, .ended)
  | .subscribe channel => (s, .range { channel := channel, since := s.published.length })
  | .range j =>
      let ids := (s.cache j.channel).latestIds
      (s, if ids = [] then .load j else .fetch j ids)
  | .fetch j ids =>
      let messages := (s.cache j.channel).fetch ids
      (s, if messages.length < hotHistoryLimit then .load j else .joined j (page messages))
  | .load j => (s, .hydrate j (loadMessages s.db e.now j.channel none (hotHistoryLimit + 1)))
  | .hydrate j rows =>
      (s.setCache j.channel
        ((s.cache j.channel).hydrate (rows.drop (rows.length - hotHistoryLimit))),
        .joined j (page rows))
  | .sent p message => (s, .sent p message)
  | .cut j => (s, .cut j)
  | .joined j messages => (s, .joined j messages)
  | .ended => (s, .ended)

/-- Where a failed step leads. -/
def Task.fail : Task → Task
  | .save p message => .recover p message
  -- a failed notification is queued or logged
  | .note p message => .store { message := message, origin := some p }
  | .store j | .scan j | .trim j _ _ | .forget j _ | .publish j | .cut j => .cut j
  -- the refresh of a moderated message goes on
  | .announce message => .delMessages message.channel
  | .delMessages channel => .delOrder channel
  | .sent p message => .sent p message
  | .joined j messages => .joined j messages
  | _ => .ended

/-- Where a step leads whose effect came about while its answer was lost. -/
def Task.lost : Task → Task
  | .publish _ => .ended
  | t => t.fail

/-- The moves; a task is named by its place in the list. -/
inductive Act where
  /-- a `SendMessage` event arrives -/
  | send (p : Send)
  /-- an `EditMessage` or `DeleteMessage` event arrives -/
  | change (change : Change)
  /-- a moderation request arrives -/
  | moderate (actor id : Uuid) (action : Moderation) (reason : Option String)
  /-- a socket switches to a channel -/
  | join (channel : String)
  /-- the next step of a task -/
  | run (k : ℕ) (e : Env)
  /-- the next step of a task fails -/
  | fail (k : ℕ)
  /-- the next step of a task takes effect but its answer is lost -/
  | lose (k : ℕ) (e : Env)
  deriving DecidableEq, Repr

/-- A new task. -/
def State.spawn (s : State) (task : Task) : State := { s with tasks := s.tasks ++ [task] }

/-- Replace the task in a place. -/
def State.setTask (s : State) (k : ℕ) (task : Task) : State :=
  { s with tasks := s.tasks.set k task }

/-- One move. -/
def State.step (U : Unicode) (s : State) : Act → State
  | .send p => s.spawn (.check p [.permission, .access, .posting, .text, .files])
  | .change change => s.spawn (.change change)
  | .moderate actor id action reason => s.spawn (.moderate actor id action reason)
  | .join channel => s.spawn (.subscribe channel)
  | .run k e =>
      match s.tasks[k]? with
      | some task => (s.exec U e task).1.setTask k (s.exec U e task).2
      | none => s
  | .fail k =>
      match s.tasks[k]? with
      | some task => s.setTask k task.fail
      | none => s
  | .lose k e =>
      match s.tasks[k]? with
      | some task => (s.exec U e task).1.setTask k task.lost
      | none => s

/-! ### Invariants of the tasks -/

lemma forall_mem_set {P : Task → Prop} {tasks : List Task} (h : ∀ t ∈ tasks, P t) {new : Task}
    (hnew : P new) (k : ℕ) : ∀ t ∈ tasks.set k new, P t := by
  intro t ht
  obtain ht | rfl := List.mem_or_eq_of_mem_set ht
  · exact h t ht
  · exact hnew

/-- A step leaves the list of tasks to the move. -/
lemma exec_tasks (U : Unicode) (e : Env) (s : State) (task : Task) :
    (s.exec U e task).1.tasks = s.tasks := by
  fun_cases State.exec U e s task <;> rfl

/-- Apart from the list of tasks, a move does nothing or the step of a task. -/
lemma step_cases (U : Unicode) (s : State) (a : Act) :
    (∃ tasks, s.step U a = { s with tasks := tasks }) ∨
      ∃ k e t tasks, (a = .run k e ∨ a = .lose k e) ∧ s.tasks[k]? = some t ∧
        s.step U a = { (s.exec U e t).1 with tasks := tasks } := by
  cases a with
  | send _ | change _ | moderate _ _ _ _ | join _ => exact .inl ⟨_, rfl⟩
  | run k e =>
      rw [State.step]
      split
      next t htask => exact .inr ⟨k, e, t, _, .inl rfl, htask, rfl⟩
      next => exact .inl ⟨_, rfl⟩
  | fail k =>
      rw [State.step]
      split <;> exact .inl ⟨_, rfl⟩
  | lose k e =>
      rw [State.step]
      split
      next t htask => exact .inr ⟨k, e, t, _, .inr rfl, htask, rfl⟩
      next => exact .inl ⟨_, rfl⟩

/-- A property of all tasks is kept by a move if new tasks have it, if the task that moves has it
where it goes, and if the others keep it while that one moves. -/
lemma forall_tasks_step {U : Unicode} {s : State} {a : Act} {P : State → Task → Prop}
    (hset : ∀ s tasks t, P s t → P { s with tasks := tasks } t)
    (h : ∀ t ∈ s.tasks, P s t)
    (hnew : (∀ p rest, P s (.check p rest)) ∧ (∀ change, P s (.change change)) ∧
      (∀ actor id action reason, P s (.moderate actor id action reason)) ∧
      ∀ channel, P s (.subscribe channel))
    (hrun : ∀ k e t, a = .run k e → s.tasks[k]? = some t →
      P (s.exec U e t).1 (s.exec U e t).2 ∧ ∀ t' ∈ s.tasks, P (s.exec U e t).1 t')
    (hfail : ∀ t, P s t → P s t.fail)
    (hlose : ∀ k e t, a = .lose k e → s.tasks[k]? = some t →
      P (s.exec U e t).1 t.lost ∧ ∀ t' ∈ s.tasks, P (s.exec U e t).1 t') :
    ∀ t ∈ (s.step U a).tasks, P (s.step U a) t := by
  have hspawn : ∀ t, P s t → ∀ t' ∈ (s.spawn t).tasks, P (s.spawn t) t' := by
    intro t ht t' ht'
    obtain ht' | ht' := List.mem_append.mp ht'
    · exact hset s _ t' (h t' ht')
    · obtain rfl := List.mem_singleton.mp ht'
      exact hset s _ t' ht
  obtain ⟨hcheck, hchange, hmoderate, hsubscribe⟩ := hnew
  cases a with
  | send p => exact hspawn _ (hcheck p _)
  | change change => exact hspawn _ (hchange change)
  | moderate actor id action reason => exact hspawn _ (hmoderate actor id action reason)
  | join channel => exact hspawn _ (hsubscribe channel)
  | run k e =>
      rw [State.step]
      cases htask : s.tasks[k]? with
      | none => exact h
      | some task =>
          obtain ⟨hthis, hothers⟩ := hrun k e task rfl htask
          rw [← exec_tasks U e s task] at hothers
          exact fun t ht => hset _ _ t (forall_mem_set hothers hthis k t ht)
  | fail k =>
      rw [State.step]
      cases htask : s.tasks[k]? with
      | none => exact h
      | some task =>
          have hthis := hfail task (h task (List.mem_of_getElem? htask))
          exact fun t ht => hset _ _ t (forall_mem_set h hthis k t ht)
  | lose k e =>
      rw [State.step]
      cases htask : s.tasks[k]? with
      | none => exact h
      | some task =>
          obtain ⟨hthis, hothers⟩ := hlose k e task rfl htask
          rw [← exec_tasks U e s task] at hothers
          exact fun t ht => hset _ _ t (forall_mem_set hothers hthis k t ht)

end Vussa.Flow
