import Vussa.Lib.Effect
import Vussa.Model.Database

/-!
The message functions of the repository (`repository/postgres.rs`), `load_thread` of
`websocket/history.rs`, `create_system_message` of `api/channels.rs` and the moderation of
`api/admin.rs`, as functions of the tables. A function that runs in a transaction is one step;
an `INSERT` that violates a key or a reference is a database error.

* `Database.view`: the projection every reading query selects (text hidden once deleted);
* `loadMessages`, `loadThread`, `findMessageByClientId`: the reading queries;
* `saveMessage`, `editMessage`, `deleteMessage`, `createSystemMessage`, `adminModerateMessage`:
  the writers.
-/

namespace Vussa

/-! ### Reading -/

namespace Database

/-- The subquery `COUNT(*) … WHERE replies.root_message_id = m.id`. -/
def replyCount (db : Database) (id : Uuid) : ℕ :=
  (db.messages.filter fun r => r.rootMessageId = some id).length

/-- The subquery `ARRAY(SELECT mf.file_id …)`. -/
def fileIds (db : Database) (id : Uuid) : List Uuid :=
  (db.messageFiles.filter fun mf => mf.messageId = id).map MessageFileRow.fileId

/-- The projection of a stored row that the reading queries select and
`ChatMessage::try_from_row` turns into a message. -/
def view (db : Database) (channel : String) (m : MessageRow) : ChatMessage where
  id := m.id
  channel := channel
  username := m.username
  text := if m.deletedAt = none then m.text else ""
  createdAt := m.createdAt
  edited := m.edited
  deleted := m.deletedAt.isSome
  rootMessageId := m.rootMessageId
  replyCount := db.replyCount m.id
  metadata := m.metadata
  mentions := m.mentions
  clientId := m.clientId
  fileIds := db.fileIds m.id

@[simp] lemma view_stamp (db : Database) (channel : String) (m : MessageRow) :
    (db.view channel m).stamp = m.stamp := rfl

end Database

/-- `($3::bigint IS NULL OR (m.created_at, m.id) < ($3, $4))`. -/
def MessageRow.Before (before : Option Stamp) (m : MessageRow) : Prop :=
  ∀ s ∈ before, m.stamp < s

instance (before : Option Stamp) (m : MessageRow) : Decidable (m.Before before) :=
  inferInstanceAs (Decidable (∀ s ∈ before, m.stamp < s))

/-- `ORDER BY m.created_at DESC, m.id DESC LIMIT limit`, followed by `messages.reverse()`. -/
def latestRows (limit : ℕ) (rows : List MessageRow) : List MessageRow :=
  ((rows.insertionSort fun a b => b.stamp ≤ a.stamp).take limit).reverse

/-- The root messages of a channel that `load_messages` serves at the instant `now`. -/
def servedRoots (db : Database) (now : Millis) (c : ChannelRow) (before : Option Stamp) :
    List MessageRow :=
  db.messages.filter fun m => m.channelId = c.id ∧
    ((now : ℕ) : ℤ) - historyWindow ≤ ((m.createdAt : ℕ) : ℤ) ∧ m.rootMessageId = none ∧
    m.Before before

/-- `load_messages`. -/
def loadMessages (db : Database) (now : Millis) (channel : String) (before : Option Stamp)
    (limit : ℕ) : List ChatMessage :=
  match db.liveChannel? channel with
  | none => []
  | some c => (latestRows limit (servedRoots db now c before)).map (db.view c.name)

/-- The replies of a thread that `load_thread` reads. -/
def threadRows (db : Database) (c : ChannelRow) (rootMessageId : Uuid) (before : Option Stamp) :
    List MessageRow :=
  db.messages.filter fun m => m.channelId = c.id ∧ m.rootMessageId = some rootMessageId ∧
    m.Before before

/-- `load_thread`. -/
def loadThread (db : Database) (channel : String) (rootMessageId : Uuid) (before : Option Stamp)
    (limit : ℕ) : List ChatMessage :=
  match db.liveChannel? channel with
  | none => []
  | some c => (latestRows limit (threadRows db c rootMessageId before)).map (db.view c.name)

lemma mem_of_mem_latestRows {limit : ℕ} {rows : List MessageRow} {m : MessageRow}
    (h : m ∈ latestRows limit rows) : m ∈ rows :=
  (List.mem_insertionSort _).mp (List.mem_of_mem_take (List.mem_reverse.mp h))

/-- A message of the history is the view of a served row of the live channel. -/
lemma mem_loadMessages {db : Database} {now : Millis} {channel : String} {before : Option Stamp}
    {limit : ℕ} {message : ChatMessage} (h : message ∈ loadMessages db now channel before limit) :
    ∃ c, db.liveChannel? channel = some c ∧
      ∃ m ∈ servedRoots db now c before, db.view c.name m = message := by
  rw [loadMessages] at h
  split at h
  · exact absurd h List.not_mem_nil
  · rename_i c hc
    obtain ⟨m, hm, rfl⟩ := List.mem_map.mp h
    exact ⟨c, hc, m, mem_of_mem_latestRows hm, rfl⟩

/-- A message of a thread is the view of a reply in the live channel. -/
lemma mem_loadThread {db : Database} {channel : String} {root : Uuid} {before : Option Stamp}
    {limit : ℕ} {message : ChatMessage} (h : message ∈ loadThread db channel root before limit) :
    ∃ c, db.liveChannel? channel = some c ∧
      ∃ m ∈ threadRows db c root before, db.view c.name m = message := by
  rw [loadThread] at h
  split at h
  · exact absurd h List.not_mem_nil
  · rename_i c hc
    obtain ⟨m, hm, rfl⟩ := List.mem_map.mp h
    exact ⟨c, hc, m, mem_of_mem_latestRows hm, rfl⟩

/-- `find_message_by_client_id`; the channel argument is not read. -/
def findMessageByClientId (db : Database) (ownerSession : Uuid) (clientId : String) :
    Option ChatMessage :=
  db.messages.findSome? fun m =>
    if m.ownerSession = ownerSession ∧ m.clientId = some clientId then
      (db.channels.find? fun c => c.id = m.channelId ∧ c.deletedAt = none).map
        fun c => db.view c.name m
    else none

/-- The join of `edit_message` and `delete_message`: the row of the message, if its channel is
live and has the given name. -/
def Database.messageIn? (db : Database) (channel : String) (id : Uuid) :
    Option (ChannelRow × MessageRow) :=
  (db.liveChannel? channel).bind fun c =>
    (db.messages.find? fun m => m.id = id ∧ m.channelId = c.id).map fun m => (c, m)

lemma Database.messageIn?_some {db : Database} {channel : String} {id : Uuid} {c : ChannelRow}
    {m : MessageRow} (h : db.messageIn? channel id = some (c, m)) :
    db.liveChannel? channel = some c ∧ m ∈ db.messages ∧ m.id = id ∧ m.channelId = c.id := by
  obtain ⟨c', hc', hm⟩ := Option.bind_eq_some_iff.mp h
  obtain ⟨m', hm', heq⟩ := Option.map_eq_some_iff.mp hm
  obtain ⟨rfl, rfl⟩ := Prod.mk.injEq _ _ _ _ ▸ heq
  have hp := List.find?_some hm'
  simp only [decide_eq_true_eq] at hp
  exact ⟨hc', List.mem_of_find?_eq_some hm', hp⟩

/-! ### Writing -/

/-- Update the row of a message. -/
def Database.updateMessage (db : Database) (id : Uuid) (f : MessageRow → MessageRow) : Database :=
  { db with messages := db.messages.map fun m => if m.id = id then f m else m }

/-- `INSERT INTO messages`: the primary key and `messages_owner_client_idx`. -/
def Database.insertMessage (db : Database) (row : MessageRow) : Except RepositoryError Database :=
  if (∃ m ∈ db.messages, m.id = row.id) ∨
      (row.clientId.isSome ∧
        ∃ m ∈ db.messages, m.ownerSession = row.ownerSession ∧ m.clientId = row.clientId) then
    .error .database
  else .ok { db with messages := db.messages ++ [row] }

/-- The `message_files` inserts of `save_message`, each `ON CONFLICT DO NOTHING`; a file that
does not exist violates the reference. -/
def Database.attachFiles (db : Database) (messageId : Uuid) :
    List Uuid → Except RepositoryError Database
  | [] => .ok db
  | f :: fs =>
      if ∃ row ∈ db.files, row.id = f then
        let links := if ⟨messageId, f⟩ ∈ db.messageFiles then db.messageFiles
          else db.messageFiles ++ [⟨messageId, f⟩]
        { db with messageFiles := links }.attachFiles messageId fs
      else .error .database

/-- The row `save_message` inserts. -/
def savedRow (c : ChannelRow) (message : ChatMessage) (ownerSession ownerUser : Uuid) :
    MessageRow :=
  { id := message.id, channelId := c.id, username := message.username, text := message.text,
    createdAt := message.createdAt, edited := message.edited, ownerSession := ownerSession,
    ownerUserId := some ownerUser, rootMessageId := message.rootMessageId,
    clientId := message.clientId, metadata := message.metadata, mentions := message.mentions }

/-- The thread check of `save_message`: the root of a reply is a message of the channel. -/
def Database.HasRoot (db : Database) (c : ChannelRow) : Option Uuid → Prop
  | none => True
  | some r => ∃ parent ∈ db.messages, parent.id = r ∧ parent.channelId = c.id

instance (db : Database) (c : ChannelRow) : ∀ root, Decidable (db.HasRoot c root)
  | none => isTrue trivial
  | some _ => inferInstanceAs (Decidable (∃ parent ∈ db.messages, _))

/-- `save_message`. -/
def saveMessage (db : Database) (message : ChatMessage) (ownerSession ownerUser : Uuid) :
    Except RepositoryError Database :=
  match db.liveChannel? message.channel with
  | none => .error .notFound
  | some c =>
      if db.HasRoot c message.rootMessageId then
        (db.insertMessage (savedRow c message ownerSession ownerUser)).bind
          fun db' => db'.attachFiles message.id message.fileIds
      else .error .notFound

/-- The row `edit_message` writes. -/
def MessageRow.edit (text : String) (m : MessageRow) : MessageRow :=
  { m with text := text, edited := true }

/-- `edit_message`: the tables and the message it returns, which is built by hand from the row
read before the update. -/
def editMessage (db : Database) (channel : String) (id ownerSession : Uuid) (text : String) :
    Except RepositoryError (Database × ChatMessage) :=
  match db.messageIn? channel id with
  | none => .error .notFound
  | some (c, m) =>
      if m.ownerSession ≠ ownerSession then .error .forbidden
      else .ok (db.updateMessage id (MessageRow.edit text),
        { id := id, channel := c.name, username := m.username, text := text,
          createdAt := m.createdAt, edited := true, deleted := false,
          rootMessageId := m.rootMessageId, replyCount := db.replyCount m.id,
          metadata := m.metadata, mentions := m.mentions, clientId := m.clientId,
          fileIds := db.fileIds m.id })

/-- The row `delete_message` writes: `COALESCE(deleted_at, now)` and `edited = FALSE`. -/
def MessageRow.delete (now : Millis) (m : MessageRow) : MessageRow :=
  { m with deletedAt := some (m.deletedAt.getD now), edited := false }

/-- `delete_message`. -/
def deleteMessage (db : Database) (now : Millis) (channel : String) (id ownerSession : Uuid)
    (canModerate : Bool) : Except RepositoryError (Database × ChatMessage) :=
  match db.messageIn? channel id with
  | none => .error .notFound
  | some (c, m) =>
      if ¬ canModerate ∧ m.ownerSession ≠ ownerSession then .error .forbidden
      else .ok (db.updateMessage id (MessageRow.delete now),
        { id := id, channel := c.name, username := m.username, text := "",
          createdAt := m.createdAt, edited := false, deleted := true,
          rootMessageId := m.rootMessageId, replyCount := db.replyCount m.id,
          metadata := m.metadata, mentions := m.mentions, clientId := m.clientId,
          fileIds := db.fileIds m.id })

/-- The row and the message of `create_system_message` in the channel `c`. -/
def systemRow (c : ChannelRow) (id : Uuid) (now : Millis) (text : String) : MessageRow :=
  { id := id, channelId := c.id, username := "system", text := text, createdAt := now,
    ownerSession := Uuid.nil, metadata := .system }

/-- `create_system_message`: `none` when the channel is not live. -/
def createSystemMessage (db : Database) (now : Millis) (id : Uuid) (channel text : String) :
    Except RepositoryError (Database × Option ChatMessage) :=
  match db.liveChannel? channel with
  | none => .ok (db, none)
  | some c =>
      (db.insertMessage (systemRow c id now text)).map fun db' =>
        (db', some
          { id := id, channel := channel, username := "system", text := text, createdAt := now,
            edited := false, deleted := false, rootMessageId := none, replyCount := 0,
            metadata := .system, mentions := [], clientId := none, fileIds := [] })

/-- The actions of `admin_moderate_message`. -/
inductive Moderation where
  | delete | restore
  deriving DecidableEq, Repr

/-- `format!("message.{action}")`. -/
def Moderation.audit : Moderation → String
  | .delete => "message.delete"
  | .restore => "message.restore"

/-- The row a moderation writes. -/
def MessageRow.moderate (now : Millis) (actor : Uuid) (reason : Option String) (action : Moderation)
    (m : MessageRow) : MessageRow :=
  match action with
  | .delete => { m with deletedAt := some now, deletedBy := some actor, deletionReason := reason }
  | .restore => { m with deletedAt := none, deletedBy := none, deletionReason := none }

/-- The transaction of `admin_moderate_message`, past its session and permission checks. -/
def adminModerateMessage (db : Database) (now : Millis) (actor id : Uuid) (action : Moderation)
    (reason : Option String) : Except RepositoryError Database :=
  if ∃ m ∈ db.messages, m.id = id ∧ ∃ c ∈ db.channels, c.id = m.channelId then
    let audit : AuditRow :=
      { actor := some actor, action := action.audit, targetType := "message", targetId := id,
        metadata := [("reason", .ofText? reason)], createdAt := now }
    .ok { db.updateMessage id (MessageRow.moderate now actor reason action) with
      auditEvents := db.auditEvents ++ [audit] }
  else .error .notFound

/-- The query of `refresh_moderated_message`: the view of the message, if its channel is live. -/
def moderatedView? (db : Database) (id : Uuid) : Option ChatMessage :=
  (db.messages.find? fun m => m.id = id).bind fun m =>
    (db.channels.find? fun c => c.id = m.channelId ∧ c.deletedAt = none).map
      fun c => db.view c.name m

/-! ### What the writers do -/

lemma Database.insertMessage_ok {db db' : Database} {row : MessageRow}
    (h : db.insertMessage row = .ok db') :
    (∀ m ∈ db.messages, m.id ≠ row.id) ∧ db' = { db with messages := db.messages ++ [row] } := by
  rw [insertMessage] at h
  by_cases hkey : (∃ m ∈ db.messages, m.id = row.id) ∨ (row.clientId.isSome ∧
      ∃ m ∈ db.messages, m.ownerSession = row.ownerSession ∧ m.clientId = row.clientId)
  · rw [if_pos hkey] at h
    exact absurd h (by simp)
  · rw [if_neg hkey, Except.ok.injEq] at h
    rw [not_or] at hkey
    exact ⟨fun m hm hid => hkey.1 ⟨m, hm, hid⟩, h.symm⟩

/-- `messages_owner_client_idx`: the client identifier of an inserted row was free. -/
lemma Database.insertMessage_client {db db' : Database} {row m : MessageRow}
    (h : db.insertMessage row = .ok db') (hsome : row.clientId.isSome) (hm : m ∈ db.messages)
    (howner : m.ownerSession = row.ownerSession) : m.clientId ≠ row.clientId := by
  intro hclient
  rw [insertMessage, if_pos (Or.inr ⟨hsome, m, hm, howner, hclient⟩)] at h
  exact absurd h (by simp)

lemma Database.attachFiles_ok {db db' : Database} {messageId : Uuid} {files : List Uuid}
    (h : db.attachFiles messageId files = .ok db') :
    ∃ links, db' = { db with messageFiles := links } := by
  induction files generalizing db with
  | nil =>
      rw [attachFiles, Except.ok.injEq] at h
      exact ⟨db.messageFiles, h.symm⟩
  | cons f fs ih =>
      rw [attachFiles] at h
      by_cases hf : ∃ row ∈ db.files, row.id = f
      · rw [if_pos hf] at h
        obtain ⟨links, hlinks⟩ := ih h
        exact ⟨links, hlinks⟩
      · rw [if_neg hf] at h
        exact absurd h (by simp)

/-- A saved message is one more row, under an identifier that was free. -/
lemma saveMessage_ok {db db' : Database} {message : ChatMessage} {session user : Uuid}
    (h : saveMessage db message session user = .ok db') :
    ∃ c links, db.liveChannel? message.channel = some c ∧
      (∀ m ∈ db.messages, m.id ≠ message.id) ∧
      db' = { db with
        messages := db.messages ++ [savedRow c message session user],
        messageFiles := links } := by
  rw [saveMessage] at h
  cases hc : db.liveChannel? message.channel with
  | none =>
      rw [hc] at h
      exact absurd h (by simp)
  | some c =>
      simp only [hc] at h
      split at h
      · obtain ⟨db1, hins, hattach⟩ := Effect.bind_eq_ok h
        obtain ⟨hfresh, rfl⟩ := Database.insertMessage_ok hins
        obtain ⟨links, hlinks⟩ := Database.attachFiles_ok hattach
        exact ⟨c, links, rfl, hfresh, hlinks⟩
      · exact absurd h (by simp)

/-- The client identifier of a saved message was free in its session. -/
lemma saveMessage_client {db db' : Database} {message : ChatMessage} {session user : Uuid}
    (h : saveMessage db message session user = .ok db') (hsome : message.clientId.isSome)
    {m : MessageRow} (hm : m ∈ db.messages) (howner : m.ownerSession = session) :
    m.clientId ≠ message.clientId := by
  rw [saveMessage] at h
  split at h
  · exact absurd h (by simp)
  · rename_i c _
    split at h
    · obtain ⟨db1, hins, -⟩ := Effect.bind_eq_ok h
      exact Database.insertMessage_client hins hsome hm howner
    · exact absurd h (by simp)

/-- An edit: the row was found under the name, and only its text and flag change. -/
lemma editMessage_ok {db db' : Database} {channel : String} {id session : Uuid} {text : String}
    {message : ChatMessage} (h : editMessage db channel id session text = .ok (db', message)) :
    ∃ c m, db.messageIn? channel id = some (c, m) ∧ m.ownerSession = session ∧
      db' = db.updateMessage id (MessageRow.edit text) ∧
      message = { db.view c.name m with text := text, edited := true, deleted := false } := by
  rw [editMessage] at h
  cases hm : db.messageIn? channel id with
  | none =>
      rw [hm] at h
      exact absurd h (by simp)
  | some cm =>
      obtain ⟨c, m⟩ := cm
      simp only [hm] at h
      split at h
      · exact absurd h (by simp)
      · rename_i howner
        rw [Except.ok.injEq, Prod.mk.injEq] at h
        obtain ⟨-, -, hid, -⟩ := Database.messageIn?_some hm
        refine ⟨c, m, rfl, not_not.mp howner, h.1.symm, ?_⟩
        rw [← h.2, ← hid]
        rfl

/-- A deletion: the row was found under the name and is marked. -/
lemma deleteMessage_ok {db db' : Database} {now : Millis} {channel : String} {id session : Uuid}
    {canModerate : Bool} {message : ChatMessage}
    (h : deleteMessage db now channel id session canModerate = .ok (db', message)) :
    ∃ c m, db.messageIn? channel id = some (c, m) ∧
      (canModerate ∨ m.ownerSession = session) ∧
      db' = db.updateMessage id (MessageRow.delete now) ∧
      message = { db.view c.name m with text := "", edited := false, deleted := true } := by
  rw [deleteMessage] at h
  cases hm : db.messageIn? channel id with
  | none =>
      rw [hm] at h
      exact absurd h (by simp)
  | some cm =>
      obtain ⟨c, m⟩ := cm
      simp only [hm] at h
      split at h
      · exact absurd h (by simp)
      · rename_i howner
        rw [Except.ok.injEq, Prod.mk.injEq] at h
        obtain ⟨-, -, hid, -⟩ := Database.messageIn?_some hm
        have hallowed : canModerate ∨ m.ownerSession = session := by
          rw [not_and_or, not_not, not_not] at howner
          exact howner
        refine ⟨c, m, rfl, hallowed, h.1.symm, ?_⟩
        rw [← h.2, ← hid]
        rfl

/-- A system message: nothing without a live channel, else one more root. -/
lemma createSystemMessage_ok {db db' : Database} {now : Millis} {id : Uuid}
    {channel text : String} {message : Option ChatMessage}
    (h : createSystemMessage db now id channel text = .ok (db', message)) :
    (db.liveChannel? channel = none ∧ db' = db) ∨
    ∃ c, db.liveChannel? channel = some c ∧ (∀ m ∈ db.messages, m.id ≠ id) ∧
      db' = { db with messages := db.messages ++ [systemRow c id now text] } := by
  rw [createSystemMessage] at h
  cases hc : db.liveChannel? channel with
  | none =>
      simp only [hc, Except.ok.injEq, Prod.mk.injEq] at h
      exact Or.inl ⟨rfl, h.1.symm⟩
  | some c =>
      simp only [hc] at h
      obtain ⟨db1, hins, hpair⟩ := Effect.map_eq_ok h
      obtain ⟨hfresh, rfl⟩ := Database.insertMessage_ok hins
      exact Or.inr ⟨c, rfl, hfresh, (Prod.mk.inj hpair).1.symm⟩

/-- A moderation: the row is marked or unmarked, and the audit grows. -/
lemma adminModerateMessage_ok {db db' : Database} {now : Millis} {actor id : Uuid}
    {action : Moderation} {reason : Option String}
    (h : adminModerateMessage db now actor id action reason = .ok db') :
    ∃ audit, db' = { db.updateMessage id (MessageRow.moderate now actor reason action) with
      auditEvents := audit } := by
  rw [adminModerateMessage] at h
  split at h
  · rw [Except.ok.injEq] at h
    exact ⟨_, h.symm⟩
  · exact absurd h (by simp)

/-- An update that keeps a message where it is. -/
structure MessageRow.Placed (f : MessageRow → MessageRow) : Prop where
  id : ∀ m, (f m).id = m.id
  createdAt : ∀ m, (f m).createdAt = m.createdAt
  channelId : ∀ m, (f m).channelId = m.channelId
  rootMessageId : ∀ m, (f m).rootMessageId = m.rootMessageId

lemma MessageRow.placed_edit (text : String) : Placed (edit text) :=
  ⟨fun _ => rfl, fun _ => rfl, fun _ => rfl, fun _ => rfl⟩

lemma MessageRow.placed_delete (now : Millis) : Placed (delete now) :=
  ⟨fun _ => rfl, fun _ => rfl, fun _ => rfl, fun _ => rfl⟩

lemma MessageRow.placed_moderate (now : Millis) (actor : Uuid) (reason : Option String)
    (action : Moderation) : Placed (moderate now actor reason action) := by
  cases action with
  | delete => exact ⟨fun _ => rfl, fun _ => rfl, fun _ => rfl, fun _ => rfl⟩
  | restore => exact ⟨fun _ => rfl, fun _ => rfl, fun _ => rfl, fun _ => rfl⟩

/-- The message of an identifier is one row. -/
lemma Database.WellFormed.eq_of_id {db : Database} (hwf : db.WellFormed) {m m' : MessageRow}
    (hm : m ∈ db.messages) (hm' : m' ∈ db.messages) (hid : m.id = m'.id) : m = m' :=
  List.inj_on_of_nodup_map hwf.messageId hm hm' hid

/-! ### The tables stay well-formed -/

lemma wellFormed_append {db : Database} (hwf : db.WellFormed) (row : MessageRow)
    (links : List MessageFileRow) (hfresh : ∀ m ∈ db.messages, m.id ≠ row.id) :
    Database.WellFormed { db with messages := db.messages ++ [row], messageFiles := links } := by
  refine ⟨hwf.channelId, hwf.channelName, ?_⟩
  rw [List.map_append, List.map_singleton, List.nodup_append]
  refine ⟨hwf.messageId, List.nodup_singleton _, ?_⟩
  intro a ha b hb hab
  obtain ⟨m, hm, rfl⟩ := List.mem_map.mp ha
  rw [List.mem_singleton] at hb
  exact hfresh m hm (hab.trans hb)

lemma wellFormed_updateMessage {db : Database} (hwf : db.WellFormed) (id : Uuid)
    {f : MessageRow → MessageRow} (hf : MessageRow.Placed f) :
    (db.updateMessage id f).WellFormed := by
  refine ⟨hwf.channelId, hwf.channelName, ?_⟩
  have hids : (db.updateMessage id f).messages.map MessageRow.id
      = db.messages.map MessageRow.id := by
    rw [Database.updateMessage, List.map_map]
    refine List.map_congr_left fun m _ => ?_
    by_cases hid : m.id = id <;> simp [hid, hf.id]
  rw [hids]
  exact hwf.messageId

lemma wellFormed_audit {db : Database} (hwf : db.WellFormed) (audit : List AuditRow) :
    Database.WellFormed { db with auditEvents := audit } :=
  hwf.congr rfl rfl

end Vussa
