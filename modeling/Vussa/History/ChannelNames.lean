import Vussa.Flow.Cache
import Vussa.Model.Writes

/-!
Caches are keyed by the name of a channel, messages by its identifier. A name can pass from one
channel to another: `admin_update_channel` renames a channel and leaves the cache of the old name
where it is, and the name is free for a new channel. Behind the cache, a send, a change or a page
request that is under way carries messages under the name that it read.

* `ChannelWrite`, `ChannelWrite.commit`: the transactions that write channels;
* `Older`, `State`, `Act`, `State.step`: these, the requests of `Flow` and the pages before a cursor,
  command by command and in any order;
* `Serves`, `ServesOwn`: what `load_hot_history` and `send_history_page` give out, and that it is
  stored in the channel of the name;
* `TakesColdNames`: a channel takes a free name only while the cache under that name and the tasks
  under way for it hold no message of another channel;
* `ChannelWrite.commit_ok`: all that a write does to the channels;
* `history_serves_own`: **in every run of such steps** only messages of the named channel are
  served.
-/

namespace Vussa.ChannelNames

open Run Effect SortedSet

/-! ### Writes to channels -/

/-- The transactions that write rows of channels. -/
inductive ChannelWrite where
  /-- `create_public_channel`, or `create_channel` of the repository -/
  | create (id : Uuid) (name : String)
  /-- `create_private_conversation` -/
  | createPrivate (id : Uuid) (user : AuthUser) (name : String)
  /-- `open_direct` -/
  | openDirect (id : Uuid) (user : AuthUser) (target : Uuid)
  /-- the columns that `admin_create_channel` writes after the creation -/
  | configure (name : String) (request : ChannelAdminRequest)
  /-- `admin_update_channel` -/
  | update (user : AuthUser) (id : Uuid) (request : ChannelAdminRequest)
  /-- `admin_channel_state` -/
  | setState (user : AuthUser) (id : Uuid) (action : ChannelAction)
  /-- `delete_channel_service` -/
  | delete (user : AuthUser) (name : String)
  /-- `transfer_channel_ownership` -/
  | transfer (user : AuthUser) (name : String) (target : Uuid)
  deriving DecidableEq, Repr

/-- The tables that a write leaves. -/
def ChannelWrite.commit (U : Unicode) (db : Database) (now : Millis) :
    ChannelWrite → Except AppError Database
  | .create id name => (db.upsertChannel id name now).map Prod.fst
  | .createPrivate id user name => (insertPrivateChannel id user name db now).map Prod.fst
  | .openDirect id user target => (insertDirect id user target db now).map Prod.fst
  | .configure name request =>
      match db.channels.find? fun c => c.name = name with
      | some c => .ok (db.updateChannel c.id (ChannelRow.configure request))
      | none => .ok db
  | .update user id request => (updateChannelRow U user id request db now).map Prod.fst
  | .setState user id action => (setChannelState user id action db now).map Prod.fst
  | .delete user name => (deleteChannel user name db now).map Prod.fst
  | .transfer user name target => (transferOwnership user name target db).map Prod.fst

/-- The channel that a write names, and the name it asks for. -/
def ChannelWrite.takes? (U : Unicode) : ChannelWrite → Option (Uuid × String)
  | .create id name | .createPrivate id _ name => some (id, name)
  | .openDirect id _ _ => some (id, directName id)
  | .update _ id request => request.name.bind fun raw =>
      (normalizeChannelName U raw).toOption.map fun name => (id, name)
  | _ => none

/-! ### Pages before a cursor -/

/-- A `send_history_page` with a cursor, by its next step. -/
inductive Older where
  /-- `ZREVRANGEBYSCORE` of `load_hot_history_before` -/
  | range (channel : String) (before : Cursor)
  /-- its `HMGET` -/
  | fetch (channel : String) (before : Cursor) (ids : List Uuid)
  /-- `load_messages` -/
  | load (channel : String) (before : Cursor)
  /-- a page that was sent -/
  | answered (channel : String) (messages : List ChatMessage)
  /-- a failed request -/
  | ended
  deriving DecidableEq, Repr

/-- What `load_hot_history_before` returns for the identifiers it read. -/
def hotBefore (s : Flow.State) (channel : String) (before : Cursor) (ids : List Uuid) :
    List ChatMessage :=
  splitOffPage (sortMessages
    (((s.cache channel).fetch ids).filter fun m => m.Before (some before.cast)))

/-- What `load_messages` returns. -/
def storedBefore (s : Flow.State) (now : Millis) (channel : String) (before : Cursor) :
    List ChatMessage :=
  loadMessages s.db now channel (some before.cast) (cacheLimit (some before) + 1)

/-- The page cut from what was read. -/
def olderPage (before : Cursor) (messages : List ChatMessage) : List ChatMessage :=
  cutPage (some before) (sortMessages messages)

/-- The next step of a page request. -/
def Older.exec (s : Flow.State) (now : Millis) : Older → Older
  | .range channel before =>
      let ids := (s.cache channel).order.revRangeByScore (score before.cast) hotHistoryLimit
      if ids = [] then .load channel before else .fetch channel before ids
  | .fetch channel before ids =>
      let messages := hotBefore s channel before ids
      if messages.length < cacheLimit (some before) then .load channel before
      else .answered channel (olderPage before messages)
  | .load channel before =>
      .answered channel (olderPage before (storedBefore s now channel before))
  | .answered channel messages => .answered channel messages
  | .ended => .ended

/-- Where a failed step leads. -/
def Older.fail : Older → Older
  | .answered channel messages => .answered channel messages
  | _ => .ended

/-! ### The system -/

/-- The tables, the caches and the requests under way. -/
structure State where
  flow : Flow.State
  older : List Older := []

/-- The moves. -/
inductive Act where
  /-- a move of the sends, changes, moderations and joins -/
  | flow (a : Flow.Act)
  /-- a request for the page before a cursor arrives -/
  | older (channel : String) (before : Cursor)
  /-- the next step of such a request -/
  | run (k : ℕ) (now : Millis)
  /-- the next step of such a request fails -/
  | fail (k : ℕ)
  /-- a write to the channels; one that is refused changes nothing -/
  | write (w : ChannelWrite) (now : Millis)
  /-- `create_system_message` -/
  | notice (id : Uuid) (channel text : String) (now : Millis)
  /-- the other tables change -/
  | elsewhere (db : Database)

namespace State

/-- Replace the tables. -/
def setDb (s : State) (db : Database) : State := { s with flow := { s.flow with db := db } }

/-- One move. -/
def step (U : Unicode) (s : State) : Act → State
  | .flow a => { s with flow := s.flow.step U a }
  | .older channel before => { s with older := s.older ++ [.range channel before] }
  | .run k now => { s with older := s.older.modify k (Older.exec s.flow now) }
  | .fail k => { s with older := s.older.modify k Older.fail }
  | .write w now =>
      match w.commit U s.flow.db now with
      | .ok db => s.setDb db
      | .error _ => s
  | .notice id channel text now =>
      match createSystemMessage s.flow.db now id channel text with
      | .ok (db, _) => s.setDb db
      | .error _ => s
  | .elsewhere db =>
      s.setDb { db with channels := s.flow.db.channels, messages := s.flow.db.messages }

/-- Empty caches, and nothing under way. -/
def start (db : Database) : State := { flow := { db := db } }

end State

/-! ### What is served -/

/-- The message is stored in the channel. -/
def StoredIn (db : Database) (channelId messageId : Uuid) : Prop :=
  ∃ row ∈ db.messages, row.id = messageId ∧ row.channelId = channelId

instance (db : Database) (channelId messageId : Uuid) :
    Decidable (StoredIn db channelId messageId) :=
  inferInstanceAs (Decidable (∃ row ∈ db.messages, _))

/-- The message is stored in the channel of the name, if there is one. -/
def Owned (db : Database) (name : String) (messageId : Uuid) : Prop :=
  ∀ c ∈ db.channels, c.name = name → StoredIn db c.id messageId

instance (db : Database) (name : String) (messageId : Uuid) : Decidable (Owned db name messageId) :=
  inferInstanceAs (Decidable (∀ c ∈ db.channels, _))

/-- In the move `a`, `load_hot_history` or `load_hot_history_before` returns the messages for the
name, or `send_history_page` cuts its page from them. -/
inductive Serves (s : State) : Act → String → List ChatMessage → Prop
  | hot {k : ℕ} {e : Flow.Env} {j : Flow.Join} {ids : List Uuid} :
      s.flow.tasks[k]? = some (.fetch j ids) →
      Serves s (.flow (.run k e)) j.channel ((s.flow.cache j.channel).fetch ids)
  | first {k : ℕ} {e : Flow.Env} {j : Flow.Join} {rows : List ChatMessage} :
      s.flow.tasks[k]? = some (.hydrate j rows) →
      Serves s (.flow (.run k e)) j.channel rows
  | hotBefore {k : ℕ} {now : Millis} {channel : String} {before : Cursor} {ids : List Uuid} :
      s.older[k]? = some (.fetch channel before ids) →
      Serves s (.run k now) channel (hotBefore s.flow channel before ids)
  | older {k : ℕ} {now : Millis} {channel : String} {before : Cursor} :
      s.older[k]? = some (.load channel before) →
      Serves s (.run k now) channel (storedBefore s.flow now channel before)

/-- Every message that is served for the name of a channel is stored in that channel. -/
def ServesOwn (s : State) (a : Act) : Prop :=
  ∀ name messages, Serves s a name messages → ∀ m ∈ messages, Owned s.flow.db name m.id

/-! ### Names that are taken -/

/-- The messages that a task is about to write to the cache of a name. -/
def carried (name : String) : Flow.Task → List ChatMessage
  | .note _ message => if message.channel = name then [message] else []
  | .store j => if j.message.channel = name then [j.message] else []
  | .hydrate j rows => if j.channel = name then rows else []
  | _ => []

/-- The cache of a name and the tasks under way for it hold messages of the channel only. -/
structure Cold (s : Flow.State) (id : Uuid) (name : String) : Prop where
  cache : ∀ i record, (s.cache name).messages i = some record → StoredIn s.db id record.id
  tasks : ∀ task ∈ s.tasks, ∀ m ∈ carried name task, StoredIn s.db id m.id

/-- A write that gives a free name to a channel finds it cold. -/
def TakesColdNames (U : Unicode) (s : State) : Act → Prop
  | .write w now => (w.commit U s.flow.db now).isOk → ∀ p ∈ w.takes? U,
      (∀ c ∈ s.flow.db.channels, c.name ≠ p.2) → Cold s.flow p.1 p.2
  | _ => True

/-! ### What a write does -/

/-- The channels of `db'` are those of `db`, by identifier and name, but for a channel that has
taken a free name. -/
def Renames (db db' : Database) (taken : Option (Uuid × String)) : Prop :=
  ∀ c' ∈ db'.channels, (∃ c ∈ db.channels, c.id = c'.id ∧ c.name = c'.name) ∨
    (taken = some (c'.id, c'.name) ∧ ∀ c ∈ db.channels, c.name ≠ c'.name)

lemma renames_refl (db : Database) (taken : Option (Uuid × String)) : Renames db db taken :=
  fun c' hc' => .inl ⟨c', hc', rfl, rfl⟩

/-- A new row. -/
lemma commit_insert {db : Database} (hwf : db.WellFormed) (row : ChannelRow)
    (hfresh : ∀ c ∈ db.channels, c.id ≠ row.id ∧ c.name ≠ row.name) :
    Database.WellFormed { db with channels := db.channels ++ [row] } ∧
      Renames db { db with channels := db.channels ++ [row] } (some (row.id, row.name)) := by
  refine ⟨wellFormed_insertChannel hwf row hfresh, fun c' hc' => ?_⟩
  obtain hold | hnew := List.mem_append.mp hc'
  · exact .inl ⟨c', hold, rfl, rfl⟩
  · obtain rfl := List.mem_singleton.mp hnew
    exact .inr ⟨rfl, fun c hc => (hfresh c hc).2⟩

/-- A change of other columns. -/
lemma commit_columns {db : Database} (hwf : db.WellFormed) (id : Uuid) (f : ChannelRow → ChannelRow)
    (hid : ∀ c, (f c).id = c.id) (hname : ∀ c, (f c).name = c.name)
    (taken : Option (Uuid × String)) :
    (db.updateChannel id f).WellFormed ∧ Renames db (db.updateChannel id f) taken := by
  refine ⟨wellFormed_updateChannel hwf hid fun c hc hcid c' hc' hname' => ?_, fun c' hc' => ?_⟩
  · rw [hname] at hname'
    rw [List.inj_on_of_nodup_map hwf.channelName hc' hc hname', hcid]
  · obtain ⟨c, hc, rfl⟩ := List.mem_map.mp hc'
    refine .inl ⟨c, hc, ?_⟩
    split
    · exact ⟨(hid c).symm, (hname c).symm⟩
    · exact ⟨rfl, rfl⟩

/-- A new name is the one the request asks for. -/
lemma rename_some {U : Unicode} {request : ChannelAdminRequest} {c : ChannelRow} {name : String}
    {user : AuthUser} {id : Uuid} (h : request.rename U c = .ok name) (hne : name ≠ c.name) :
    ChannelWrite.takes? U (.update user id request) = some (id, name) := by
  rw [ChannelAdminRequest.rename] at h
  rw [ChannelWrite.takes?]
  cases hraw : request.name with
  | none =>
      simp only [hraw, Except.ok.injEq] at h
      exact absurd h.symm hne
  | some raw =>
      simp only [hraw] at h
      rw [Option.bind_some, h]
      rfl

/-- **A write**: the keys hold, no message is touched, and the only new name is the one asked
for. -/
lemma ChannelWrite.commit_ok {U : Unicode} {db db' : Database} {now : Millis} {w : ChannelWrite}
    (hwf : db.WellFormed) (h : w.commit U db now = .ok db') :
    db'.WellFormed ∧ db'.messages = db.messages ∧ Renames db db' (w.takes? U) := by
  cases w with
  | create id name =>
      obtain ⟨⟨db1, id'⟩, hok, rfl⟩ := map_eq_ok h
      obtain ⟨-, hfresh, rfl⟩ | ⟨c, -, -, -, -, rfl⟩ := Database.upsertChannel_ok hok
      · obtain ⟨hwf', hrenames⟩ := commit_insert hwf
          { id := id, name := name, createdAt := now } hfresh
        exact ⟨hwf', rfl, hrenames⟩
      · obtain ⟨hwf', hrenames⟩ := commit_columns hwf c.id
          (fun c => { c with deletedAt := none }) (fun _ => rfl) (fun _ => rfl) _
        exact ⟨hwf', rfl, hrenames⟩
  | createPrivate id user name =>
      obtain ⟨⟨db1, u⟩, hok, rfl⟩ := map_eq_ok h
      obtain ⟨hfresh, rfl⟩ := insertPrivateChannel_ok hok
      obtain ⟨hwf', hrenames⟩ := commit_insert hwf (privateRow id user name now) hfresh
      exact ⟨hwf'.congr (by simp) (by simp), by simp,
        fun c' hc' => hrenames c' (by simpa using hc')⟩
  | openDirect id user target =>
      obtain ⟨⟨db1, r⟩, hok, rfl⟩ := map_eq_ok h
      obtain ⟨c, -, -, -, ⟨-, rfl⟩ | ⟨hid, hname, hfresh, rfl⟩⟩ := insertDirect_ok hok
      · exact ⟨hwf.congr (by simp) (by simp), by simp,
          fun c' hc' => renames_refl db _ c' (by simpa using hc')⟩
      · obtain ⟨hwf', hrenames⟩ := commit_insert hwf c hfresh
        rw [hid, hname] at hrenames
        exact ⟨hwf'.congr (by simp) (by simp), by simp,
          fun c' hc' => hrenames c' (by simpa using hc')⟩
  | configure name request =>
      rw [commit] at h
      split at h
      next c _ =>
        obtain rfl := Except.ok.inj h
        obtain ⟨hwf', hrenames⟩ := commit_columns hwf c.id (ChannelRow.configure request)
          (fun _ => rfl) (fun _ => rfl) _
        exact ⟨hwf', rfl, hrenames⟩
      next =>
        obtain rfl := Except.ok.inj h
        exact ⟨hwf, rfl, renames_refl db _⟩
  | update user id request =>
      obtain ⟨⟨db1, u⟩, hok, rfl⟩ := map_eq_ok h
      obtain ⟨c, name, hc, hcid, -, hrename, hunique, rfl⟩ := updateChannelRow_ok hok
      have hwf' := wellFormed_updateChannel hwf
        (f := fun c => { c.configure request with name := name }) (fun _ => rfl)
        fun _ _ _ => hunique
      refine ⟨wellFormed_audit hwf' _, rfl, fun c' hc' => ?_⟩
      obtain ⟨c1, hc1, rfl⟩ := List.mem_map.mp hc'
      split_ifs with hid
      · obtain rfl : c1 = c :=
          List.inj_on_of_nodup_map hwf.channelId hc1 hc (hid.trans hcid.symm)
        by_cases hname : name = c1.name
        · exact .inl ⟨c1, hc1, rfl, hname.symm⟩
        · refine .inr ⟨(rename_some hrename hname).trans
            (congrArg (fun i => some (i, name)) hid.symm), fun c2 hc2 hname2 => ?_⟩
          -- the only row with the new name would be the row itself
          obtain rfl : c2 = c1 := List.inj_on_of_nodup_map hwf.channelId hc2 hc1
            ((hunique c2 hc2 hname2).trans hid.symm)
          exact hname hname2.symm
      · exact .inl ⟨c1, hc1, rfl, rfl⟩
  | setState user id action =>
      obtain ⟨⟨db1, r⟩, hok, rfl⟩ := map_eq_ok h
      obtain rfl := setChannelState_ok hok
      obtain ⟨hwf', hrenames⟩ := commit_columns hwf id (fun c => action.apply now c)
        (ChannelAction.apply_id now action) (ChannelAction.apply_name now action) _
      exact ⟨wellFormed_audit hwf' _, rfl, hrenames⟩
  | delete user name =>
      obtain ⟨⟨db1, u⟩, hok, rfl⟩ := map_eq_ok h
      obtain ⟨c, -, rfl⟩ := deleteChannel_ok hok
      obtain ⟨hwf', hrenames⟩ := commit_columns hwf c.id
        (fun c => { c with deletedAt := some now }) (fun _ => rfl) (fun _ => rfl) _
      exact ⟨wellFormed_audit hwf' _, rfl, hrenames⟩
  | transfer user name target =>
      obtain ⟨⟨db1, id⟩, hok, rfl⟩ := map_eq_ok h
      obtain ⟨c, g, -, -, rfl⟩ := transferOwnership_ok hok
      obtain ⟨hwf', hrenames⟩ := commit_columns hwf c.id
        (fun c => { c with ownerUserId := some target }) (fun _ => rfl) (fun _ => rfl) _
      exact ⟨hwf'.congr rfl rfl, rfl, hrenames⟩

/-! ### Own caches -/

/-- The primary keys hold, and the messages in the cache of a name, or on their way there, are
stored in the channel of the name. -/
structure Own (s : Flow.State) : Prop where
  wellFormed : s.db.WellFormed
  cache : ∀ name i record, (s.cache name).messages i = some record → Owned s.db name record.id
  tasks : ∀ task ∈ s.tasks, ∀ name, ∀ m ∈ carried name task, Owned s.db name m.id

lemma Owned.grows {db db' : Database} (hg : Flow.Grows db db') {name : String} {id : Uuid}
    (h : Owned db name id) : Owned db' name id := by
  intro c hc hname
  rw [hg.channels] at hc
  obtain ⟨row, hrow, hid, hchannel⟩ := h c hc hname
  obtain ⟨row', hrow', hkept⟩ := hg.rows row hrow
  exact ⟨row', hrow', hkept.id.trans hid, hkept.channelId.trans hchannel⟩

/-- A name is that of one channel. -/
lemma owned_of_rowFor {db : Database} (hwf : db.WellFormed) {m : ChatMessage}
    (h : Flow.RowFor db m) : Owned db m.channel m.id := by
  obtain ⟨row, hrow, hstamp, -, c, hc, hchannel⟩ := h
  obtain ⟨hmem, hname, -⟩ := Database.liveChannel?_some hc
  intro c' hc' hname'
  obtain rfl : c' = c :=
    List.inj_on_of_nodup_map hwf.channelName hc' hmem (hname'.trans hname.symm)
  exact ⟨row, hrow, congrArg member hstamp, hchannel⟩

lemma owned_of_mem_loadMessages {db : Database} (hwf : db.WellFormed) {now : Millis}
    {name : String} {before : Option Stamp} {limit : ℕ} {m : ChatMessage}
    (hm : m ∈ loadMessages db now name before limit) : Owned db name m.id := by
  obtain ⟨rfl, hrow⟩ := Flow.rowFor_load hm
  exact owned_of_rowFor hwf hrow

/-! ### Requests under way -/

/-- What a task carries after its step it carried before, or it has just read or committed it. -/
lemma carried_exec (U : Unicode) (e : Flow.Env) (s : Flow.State) (task : Flow.Task) {name : String}
    {m : ChatMessage} (hm : m ∈ carried name (s.exec U e task).2) :
    m ∈ carried name task ∨ m.channel = name ∧ Flow.RowFor (s.exec U e task).1.db m := by
  cases task with
  | save p message =>
      rw [Flow.State.exec] at hm ⊢
      split at hm
      next db hsave =>
        rw [carried] at hm
        split_ifs at hm with hname
        · obtain rfl := List.mem_singleton.mp hm
          exact .inr ⟨hname, Flow.rowFor_save hsave⟩
        · exact absurd hm List.not_mem_nil
      next => exact absurd hm List.not_mem_nil
  | change change =>
      rw [Flow.State.exec] at hm ⊢
      split at hm
      next db message hcommit =>
        rw [carried] at hm
        split_ifs at hm with hname
        · obtain rfl := List.mem_singleton.mp hm
          exact .inr ⟨hname, Flow.rowFor_change hcommit⟩
        · exact absurd hm List.not_mem_nil
      next => exact absurd hm List.not_mem_nil
  | load j =>
      rw [Flow.State.exec, carried] at hm
      split_ifs at hm with hname
      · obtain ⟨hchannel, hrow⟩ := Flow.rowFor_load hm
        exact .inr ⟨hchannel.trans hname, hrow⟩
      · exact absurd hm List.not_mem_nil
  | note p message => exact .inl hm
  | check p rest =>
      cases rest with
      | nil => exact absurd hm List.not_mem_nil
      | cons c rest =>
          rw [Flow.State.exec] at hm
          split at hm <;> exact absurd hm List.not_mem_nil
  | look _ | recover _ _ | publish _ | moderate _ _ _ _ | view _ =>
      rw [Flow.State.exec] at hm
      split at hm <;> exact absurd hm List.not_mem_nil
  | scan _ | range _ | fetch _ _ =>
      simp only [Flow.State.exec] at hm
      split_ifs at hm <;> exact absurd hm List.not_mem_nil
  | reconcile _ _ | answer _ _ | store _ | trim _ _ _ | forget _ _ | announce _ | delMessages _
  | delOrder _ | subscribe _ | hydrate _ _ | sent _ _ | cut _ | joined _ _ | ended =>
      exact absurd hm List.not_mem_nil

lemma carried_fail {name : String} {task : Flow.Task} {m : ChatMessage}
    (hm : m ∈ carried name task.fail) : m ∈ carried name task := by
  cases task with
  | note p message => exact hm
  | _ => exact absurd hm List.not_mem_nil

lemma carried_lost {name : String} {task : Flow.Task} {m : ChatMessage}
    (hm : m ∈ carried name task.lost) : m ∈ carried name task := by
  cases task with
  | note p message => exact hm
  | _ => exact absurd hm List.not_mem_nil

/-- A payload was in the cache before a step, or is one of the messages the task carried. -/
lemma payload_exec (U : Unicode) (e : Flow.Env) (s : Flow.State) (task : Flow.Task) {name : String}
    {i : Uuid} {record : StoredMessage}
    (h : ((s.exec U e task).1.cache name).messages i = some record) :
    (s.cache name).messages i = some record ∨ ∃ m ∈ carried name task, m.id = record.id := by
  have hstep := Flow.exec_cache U e s task name
  generalize (s.exec U e task).1.cache name = c at hstep h
  cases hstep with
  | same => exact .inl h
  | @store j hname =>
      by_cases hi : i = j.message.id
      · subst hi
        have hself : ((s.cache name).store (.fromMessage j.message j.owner)).messages j.message.id
            = some (.fromMessage j.message j.owner) := Function.update_self ..
        obtain rfl := Option.some.inj (hself.symm.trans h)
        exact .inr ⟨j.message, by simp [carried, hname], rfl⟩
      · have hother : ((s.cache name).store (.fromMessage j.message j.owner)).messages i
            = (s.cache name).messages i := Function.update_of_ne hi ..
        exact .inl (hother.symm.trans h)
  | @hydrate j rows hname =>
      obtain hsame | ⟨m, hm, -, hwritten⟩ := Flow.Cache.hydrate_messages_cases (s.cache name)
        (rows.drop (rows.length - hotHistoryLimit)) i
      · exact .inl (hsame.symm.trans h)
      · obtain rfl := Option.some.inj (hwritten.symm.trans h)
        refine .inr ⟨m, ?_, rfl⟩
        rw [carried, if_pos hname]
        exact List.mem_of_mem_drop hm
  | trim _ => exact .inl h
  | @forget j ids _ =>
      change (if i ∈ ids then none else (s.cache name).messages i) = some record at h
      split_ifs at h
      exact .inl h
  | delMessages => exact absurd h (by simp [Flow.Cache.delMessages])
  | delOrder => exact .inl h

/-- **The requests**: no move of them brings a message under a wrong name. -/
lemma Own.step_flow (U : Unicode) {s : Flow.State} (hs : Own s) (a : Flow.Act) :
    Own (s.step U a) := by
  have hwf : (s.step U a).db.WellFormed := by
    obtain ⟨task, h⟩ := Flow.step_db U s a
    exact h.wellFormed hs.wellFormed
  refine ⟨hwf, ?_, ?_⟩
  · obtain ⟨tasks, heq⟩ | ⟨k, e, task, tasks, -, htask, heq⟩ := Flow.step_cases U s a
    · rw [heq]
      exact hs.cache
    · rw [heq]
      intro name i record h
      refine Owned.grows (Flow.exec_follows U e s task).grows ?_
      obtain hold | ⟨m, hm, hid⟩ := payload_exec U e s task h
      · exact hs.cache name i record hold
      · exact hid ▸ hs.tasks task (List.mem_of_getElem? htask) name m hm
  · have hkept : ∀ e t, ∀ t' ∈ s.tasks, ∀ name, ∀ m ∈ carried name t',
        Owned (s.exec U e t).1.db name m.id := fun e t t' ht' name m hm =>
      (hs.tasks t' ht' name m hm).grows (Flow.exec_follows U e s t).grows
    refine Flow.forall_tasks_step
      (P := fun s task => ∀ name, ∀ m ∈ carried name task, Owned s.db name m.id)
      (fun _ _ _ h => h) hs.tasks ?_ ?_ ?_ ?_
    · exact ⟨fun _ _ _ _ hm => absurd hm List.not_mem_nil,
        fun _ _ _ hm => absurd hm List.not_mem_nil,
        fun _ _ _ _ _ _ hm => absurd hm List.not_mem_nil,
        fun _ _ _ hm => absurd hm List.not_mem_nil⟩
    · rintro k e t - htask
      have ht := List.mem_of_getElem? htask
      refine ⟨fun name m hm => ?_, fun t' ht' => hkept e t t' ht'⟩
      obtain hold | ⟨rfl, hrow⟩ := carried_exec U e s t hm
      · exact hkept e t t ht name m hold
      · exact owned_of_rowFor ((Flow.exec_db U e s t).wellFormed hs.wellFormed) hrow
    · exact fun t ht name m hm => ht name m (carried_fail hm)
    · rintro k e t - htask
      have ht := List.mem_of_getElem? htask
      exact ⟨fun name m hm => hkept e t t ht name m (carried_lost hm),
        fun t' ht' => hkept e t t' ht'⟩

/-! ### Other writes -/

/-- Tables in which no message loses its channel. -/
lemma Own.setDb {s : Flow.State} (hs : Own s) {db : Database} (hwf : db.WellFormed)
    (hg : Flow.Grows s.db db) : Own { s with db := db } :=
  ⟨hwf, fun name i record h => (hs.cache name i record h).grows hg,
    fun task ht name m hm => (hs.tasks task ht name m hm).grows hg⟩

/-- **A write to the channels**, by which only a cold name is taken. -/
lemma Own.write {s : Flow.State} (hs : Own s) {db : Database} {taken : Option (Uuid × String)}
    (hwf : db.WellFormed) (hmessages : db.messages = s.db.messages)
    (hrenames : Renames s.db db taken)
    (hcold : ∀ p ∈ taken, (∀ c ∈ s.db.channels, c.name ≠ p.2) → Cold s p.1 p.2) :
    Own { s with db := db } := by
  have howned : ∀ name id, Owned s.db name id → (∀ cid, Cold s cid name → StoredIn s.db cid id) →
      Owned db name id := by
    intro name id hold hnew c' hc' hname
    have hstored : StoredIn s.db c'.id id := by
      obtain ⟨c, hc, hid, hname'⟩ | ⟨htaken, hfree⟩ := hrenames c' hc'
      · exact hid ▸ hold c hc (hname'.trans hname)
      · exact hnew c'.id (hname ▸ hcold _ htaken hfree)
    obtain ⟨row, hrow, hkey⟩ := hstored
    exact ⟨row, hmessages ▸ hrow, hkey⟩
  exact ⟨hwf,
    fun name i record h => howned name record.id (hs.cache name i record h)
      fun _ hc => hc.cache i record h,
    fun task ht name m hm => howned name m.id (hs.tasks task ht name m hm)
      fun _ hc => hc.tasks task ht m hm⟩

/-- **One move**: everything stays in the channel of its name, if no warm name is taken. -/
lemma own_step (U : Unicode) (s : State) (a : Act) (hs : Own s.flow) (hcold : TakesColdNames U s a) :
    Own (s.step U a).flow := by
  cases a with
  | flow a => exact hs.step_flow U a
  | older channel before => exact hs
  | run k now => exact hs
  | fail k => exact hs
  | write w now =>
      rw [State.step]
      split
      next db hok =>
        obtain ⟨hwf, hmessages, hrenames⟩ := w.commit_ok hs.wellFormed hok
        exact hs.write hwf hmessages hrenames (hcold (by rw [hok]; rfl))
      next => exact hs
  | notice id channel text now =>
      rw [State.step]
      split
      next db message hok =>
        obtain ⟨-, rfl⟩ | ⟨c, -, hfresh, rfl⟩ := createSystemMessage_ok hok
        · exact hs
        · exact hs.setDb
            (wellFormed_append hs.wellFormed (systemRow c id now text) s.flow.db.messageFiles hfresh)
            ⟨fun m hm => ⟨m, List.mem_append_left _ hm, .refl m⟩, rfl⟩
      next => exact hs
  | elsewhere db =>
      exact hs.setDb (hs.wellFormed.congr rfl rfl) ⟨fun m hm => ⟨m, hm, .refl m⟩, rfl⟩

/-! ### Runs -/

lemma mem_fetch {c : Flow.Cache} {ids : List Uuid} {m : ChatMessage} (hm : m ∈ c.fetch ids) :
    ∃ i record, c.messages i = some record ∧ record.id = m.id := by
  obtain ⟨record, hrecord, rfl⟩ := List.mem_map.mp hm
  obtain ⟨i, -, hi⟩ := List.mem_filterMap.mp hrecord
  exact ⟨i, record, hi, rfl⟩

/-- **Serving**: what is served comes from the cache, from a task or from the tables. -/
lemma Own.servesOwn {s : State} (hs : Own s.flow) (a : Act) : ServesOwn s a := by
  have hfetch : ∀ name ids, ∀ m ∈ (s.flow.cache name).fetch ids, Owned s.flow.db name m.id := by
    intro name ids m hm
    obtain ⟨i, record, hrecord, hid⟩ := mem_fetch hm
    exact hid ▸ hs.cache name i record hrecord
  intro name messages hserves m hm
  cases hserves with
  | hot _ => exact hfetch _ _ m hm
  | @first k e j rows htask =>
      refine hs.tasks _ (List.mem_of_getElem? htask) j.channel m ?_
      rw [carried, if_pos rfl]
      exact hm
  | hotBefore _ =>
      have hpage : m ∈ cutPage none (sortMessages _) := hm
      exact hfetch _ _ m (List.mem_of_mem_filter (mem_of_mem_cutPage hpage))
  | older _ => exact owned_of_mem_loadMessages hs.wellFormed hm

/-- **Served history**: in every run in which a channel takes a free name only while the cache of
that name, and every task under way for it, holds no message of another channel, every message
served for the name of a channel is stored in that channel. -/
theorem history_serves_own (U : Unicode) (db : Database) (hwf : db.WellFormed) (acts : List Act)
    (h : Along (State.step U) (TakesColdNames U) (.start db) acts) :
    Along (State.step U) ServesOwn (.start db) acts := by
  have hstart : Own (State.start db).flow :=
    ⟨hwf, fun _ _ _ h => absurd h (by simp [State.start]),
      fun _ ht => absurd ht List.not_mem_nil⟩
  exact Along.of_invariant (own_step U) (fun _ a hs _ => hs.servesOwn a) hstart h

/-! ### A name that passes on -/

lemma cache_write (U : Unicode) (s : State) (w : ChannelWrite) (now : Millis) :
    (s.step U (.write w now)).flow.cache = s.flow.cache := by
  rw [State.step]
  split <;> rfl

/-- A channel `team` with fifty messages. -/
def teamTables : Database where
  channels := [{ id := 1, name := mainChannel, createdAt := 0 },
               { id := 2, name := "team", createdAt := 0 }]
  messages := (List.finRange 50).map fun i =>
    { id := Fin.castLE (by decide) i, channelId := 2, username := "ada", text := "plan",
      createdAt := Fin.castLE (by decide) i, ownerSession := 3 }

/-- An administrator of channels. -/
def chief : AuthUser :=
  { id := 31, email := "", username := "chief", roles := [],
    permissions := [.chatWrite, .channelsWrite] }

/-- A socket joins `team` and fills its cache. -/
def openTeam : List Act :=
  .flow (.join "team") :: List.replicate 4 (.flow (.run 0 { now := 100, id := 0 }))

/-- A message of `team` is moderated, and both cache keys are deleted. -/
def refreshTeam : List Act :=
  .flow (.moderate 31 7 .delete none) :: List.replicate 5 (.flow (.run 1 { now := 100, id := 0 }))

/-- The channel `team` is renamed to `club`, and a new channel `team` is created. -/
def passOn : List Act :=
  [.write (.update chief 2 { name := some "club" }) 100, .write (.create 93 "team") 100]

/-- The page before the instant 200 is requested in `team`, and the cache is asked for it. -/
def askTeam : List Act := [.older "team" (200, 0), .run 0 100]

/-- After a refresh the cache is empty, and the new channel shows its own history. -/
theorem passed_on_cold :
    teamTables.WellFormed ∧
    Along (State.step .ascii) (TakesColdNames .ascii) (.start teamTables)
      (openTeam ++ refreshTeam ++ passOn ++ askTeam ++ [.run 0 100]) ∧
    Along (State.step .ascii) ServesOwn (.start teamTables)
      (openTeam ++ refreshTeam ++ passOn ++ askTeam ++ [.run 0 100]) := by
  have hwf : teamTables.WellFormed := ⟨by decide +kernel, by decide +kernel, by decide +kernel⟩
  set s := final (State.step .ascii) (.start teamTables) (openTeam ++ refreshTeam) with hs
  have hempty : ∀ i, (s.flow.cache "club").messages i = none ∧
      (s.flow.cache "team").messages i = none := fun _ => ⟨rfl, rfl⟩
  have hclub : Cold s.flow 2 "club" :=
    ⟨fun i record h => absurd ((hempty i).1.symm.trans h) (by simp), by decide +kernel⟩
  have hteam : Cold (s.step .ascii (.write (.update chief 2 { name := some "club" }) 100)).flow 93
      "team" := by
    refine ⟨fun i record h => ?_, by decide +kernel⟩
    rw [cache_write] at h
    exact absurd ((hempty i).2.symm.trans h) (by simp)
  have hrename : ChannelWrite.takes? .ascii (.update chief 2 { name := some "club" })
      = some (2, "club") := by decide +kernel
  have hcold : Along (State.step .ascii) (TakesColdNames .ascii) (.start teamTables)
      (openTeam ++ refreshTeam ++ passOn ++ askTeam ++ [.run 0 100]) := by
    rw [along_append, along_append, along_append, ← hs]
    refine ⟨⟨⟨?_, fun _ p hp _ => ?_, fun _ p hp _ => ?_, trivial⟩, trivial, trivial, trivial⟩,
      trivial, trivial⟩
    · simp [openTeam, refreshTeam, Along, TakesColdNames]
    · obtain rfl := Option.some.inj (hrename.symm.trans hp)
      exact hclub
    · obtain rfl := Option.some.inj hp
      exact hteam
  exact ⟨hwf, hcold, history_serves_own .ascii teamTables hwf _ hcold⟩

/-- Once somebody has opened `team`, its cache is served to the readers of the new channel. -/
theorem passed_on_hot :
    teamTables.WellFormed ∧
    ¬ Along (State.step .ascii) ServesOwn (.start teamTables)
      (openTeam ++ passOn ++ askTeam ++ [.run 0 100]) := by
  refine ⟨⟨by decide +kernel, by decide +kernel, by decide +kernel⟩, fun h => ?_⟩
  rw [along_append] at h
  set s := final (State.step .ascii) (.start teamTables) (openTeam ++ passOn ++ askTeam) with hs
  set ids : List Uuid := ((List.finRange 50).map (Fin.castLE (by decide))).reverse
  have hasked : s.older[0]? = some (.fetch "team" (200, 0) ids) := by decide +kernel
  have hforeign : ∃ m ∈ hotBefore s.flow "team" (200, 0) ids, ¬ Owned s.flow.db "team" m.id := by
    decide +kernel
  obtain ⟨m, hm, hnot⟩ := hforeign
  exact hnot (h.2.1 _ _ (.hotBefore hasked) m hm)

end Vussa.ChannelNames
