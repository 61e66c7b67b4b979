import Vussa.Model.HotHistory

/-!
The state the replicas share and the message operations on it: the tables, the hot caches by
channel name and the clock. An operation is the part of a handler that changes this state: the
repository call followed by the cache write (`websocket/handler.rs`), the publication of a system
message (`api/channels.rs`) and a moderation with its cache refresh (`api/admin.rs`).

* `Backend`: tables, caches and clock;
* `Backend.postMessage`, `Backend.editMessage`, `Backend.deleteMessage`,
  `Backend.publishSystemMessage`, `Backend.moderateMessage`, `Backend.historyPage`: the operations;
* `MessageOp`, `step`: a completed operation as an action; a failed one changes nothing.
-/

namespace Vussa

/-- The tables, the hot cache of every channel name, and the clock. -/
structure Backend where
  db : Database
  history : String → HotHistory := fun _ => .empty
  now : Millis

namespace Backend

/-- Replace the cache of one channel name. -/
def setHistory (b : Backend) (channel : String) (h : HotHistory) : Backend :=
  { b with history := Function.update b.history channel h }

@[simp] lemma setHistory_db (b : Backend) (channel : String) (h : HotHistory) :
    (b.setHistory channel h).db = b.db := rfl

@[simp] lemma setHistory_self (b : Backend) (channel : String) (h : HotHistory) :
    (b.setHistory channel h).history channel = h := Function.update_self ..

lemma setHistory_of_ne (b : Backend) {channel name : String} (hne : name ≠ channel)
    (h : HotHistory) : (b.setHistory channel h).history name = b.history name :=
  Function.update_of_ne hne ..

/-- `save_message` and `store_message` of the `SendMessage` arm. -/
def postMessage (b : Backend) (message : ChatMessage) (session user : Uuid) :
    Except RepositoryError Backend :=
  (saveMessage b.db message session user).map fun db =>
    { b with db := db }.setHistory message.channel
      (storeMessage (b.history message.channel) message session)

/-- `update_hot_message`, which writes under the channel name of the message. -/
def writeHot (b : Backend) (message : ChatMessage) : Backend :=
  b.setHistory message.channel (updateHotMessage (b.history message.channel) message)

/-- The `EditMessage` arm past its checks: the message is written to the cache and then broadcast
as `MessageUpdated`. -/
def editMessage (b : Backend) (channel : String) (id session : Uuid) (text : String) :
    Except RepositoryError (Backend × ChatMessage) :=
  (Vussa.editMessage b.db channel id session text).map fun (db, message) =>
    ({ b with db := db }.writeHot message, message)

/-- The `DeleteMessage` arm past its checks. -/
def deleteMessage (b : Backend) (channel : String) (id session : Uuid) (canModerate : Bool) :
    Except RepositoryError (Backend × ChatMessage) :=
  (Vussa.deleteMessage b.db b.now channel id session canModerate).map fun (db, message) =>
    ({ b with db := db }.writeHot message, message)

/-- `publish_system_message`: the message is stored and broadcast, but not cached. -/
def publishSystemMessage (b : Backend) (id : Uuid) (channel text : String) :
    Except RepositoryError (Backend × Option ChatMessage) :=
  (createSystemMessage b.db b.now id channel text).map fun (db, message) =>
    ({ b with db := db }, message)

/-- `admin_moderate_message` past its checks, with `refresh_moderated_message`: the view is
broadcast and both cache keys of the channel are deleted. -/
def moderateMessage (b : Backend) (actor id : Uuid) (action : Moderation)
    (reason : Option String) : Except RepositoryError (Backend × Option ChatMessage) :=
  (adminModerateMessage b.db b.now actor id action reason).map fun db =>
    match moderatedView? db id with
    | none => ({ b with db := db }, none)
    | some message => ({ b with db := db }.setHistory message.channel .empty, some message)

/-- A published system message changes the tables only. -/
lemma publishSystemMessage_ok {b b' : Backend} {id : Uuid} {channel text : String}
    {message : Option ChatMessage} (h : b.publishSystemMessage id channel text = .ok (b', message)) :
    ∃ db, createSystemMessage b.db b.now id channel text = .ok (db, message) ∧
      b' = { b with db := db } := by
  rw [publishSystemMessage] at h
  obtain ⟨⟨db, m⟩, hsys, hpair⟩ := Effect.map_eq_ok h
  obtain ⟨rfl, rfl⟩ := Prod.mk.inj hpair
  exact ⟨db, hsys, rfl⟩

lemma postMessage_ok {b b' : Backend} {message : ChatMessage} {session user : Uuid}
    (h : b.postMessage message session user = .ok b') :
    ∃ db, saveMessage b.db message session user = .ok db ∧
      b' = { b with db := db }.setHistory message.channel
        (storeMessage (b.history message.channel) message session) := by
  rw [postMessage] at h
  obtain ⟨db, hsave, hb⟩ := Effect.map_eq_ok h
  exact ⟨db, hsave, hb.symm⟩

lemma editMessage_ok {b b' : Backend} {channel : String} {id session : Uuid} {text : String}
    {message : ChatMessage} (h : b.editMessage channel id session text = .ok (b', message)) :
    ∃ db, Vussa.editMessage b.db channel id session text = .ok (db, message) ∧
      b' = { b with db := db }.writeHot message := by
  rw [editMessage] at h
  obtain ⟨⟨db, m⟩, hedit, hpair⟩ := Effect.map_eq_ok h
  obtain ⟨rfl, rfl⟩ := Prod.mk.inj hpair
  exact ⟨db, hedit, rfl⟩

lemma deleteMessage_ok {b b' : Backend} {channel : String} {id session : Uuid} {canModerate : Bool}
    {message : ChatMessage}
    (h : b.deleteMessage channel id session canModerate = .ok (b', message)) :
    ∃ db, Vussa.deleteMessage b.db b.now channel id session canModerate = .ok (db, message) ∧
      b' = { b with db := db }.writeHot message := by
  rw [deleteMessage] at h
  obtain ⟨⟨db, m⟩, hdel, hpair⟩ := Effect.map_eq_ok h
  obtain ⟨rfl, rfl⟩ := Prod.mk.inj hpair
  exact ⟨db, hdel, rfl⟩

/-- A moderation writes the tables and empties at most one cache. -/
lemma moderateMessage_ok {b b' : Backend} {actor id : Uuid} {action : Moderation}
    {reason : Option String} {message : Option ChatMessage}
    (h : b.moderateMessage actor id action reason = .ok (b', message)) :
    ∃ db, adminModerateMessage b.db b.now actor id action reason = .ok db ∧
      (b' = { b with db := db } ∨ ∃ name, b' = { b with db := db }.setHistory name .empty) := by
  rw [moderateMessage] at h
  obtain ⟨db, hmod, hpair⟩ := Effect.map_eq_ok h
  refine ⟨db, hmod, ?_⟩
  split at hpair
  · exact Or.inl (Prod.mk.inj hpair).1.symm
  · rename_i m _
    exact Or.inr ⟨m.channel, (Prod.mk.inj hpair).1.symm⟩

/-- `send_history_page` with the cache it leaves. -/
def historyPage (b : Backend) (channel : String) (before : Option Cursor) :
    HistoryReply × Backend :=
  let (reply, h) := historyReply b.db b.now channel (b.history channel) before
  (reply, b.setHistory channel h)

lemma historyPage_fst (b : Backend) (channel : String) (before : Option Cursor) :
    (b.historyPage channel before).1
      = (historyReply b.db b.now channel (b.history channel) before).1 := rfl

lemma historyPage_snd (b : Backend) (channel : String) (before : Option Cursor) :
    (b.historyPage channel before).2 = b.setHistory channel
      (historyReply b.db b.now channel (b.history channel) before).2 := rfl

end Backend

/-! ### Completed operations -/

/-- The message operations; `wait` lets the clock go on. -/
inductive MessageOp where
  | post (message : ChatMessage) (session user : Uuid)
  | edit (channel : String) (id session : Uuid) (text : String)
  | delete (channel : String) (id session : Uuid) (canModerate : Bool)
  | system (id : Uuid) (channel text : String)
  | moderate (actor id : Uuid) (action : Moderation) (reason : Option String)
  | page (channel : String) (before : Option Cursor)
  | wait (millis : Millis)
  deriving DecidableEq, Repr

/-- The state after an operation that returned; a failed one leaves it as it was. -/
def Backend.after {α : Type} (b : Backend) : Except RepositoryError (Backend × α) → Backend
  | .ok (b', _) => b'
  | .error _ => b

/-- One completed operation. -/
def MessageOp.step (b : Backend) : MessageOp → Backend
  | .post message session user =>
      b.after ((b.postMessage message session user).map fun b' => (b', ()))
  | .edit channel id session text => b.after (b.editMessage channel id session text)
  | .delete channel id session canModerate =>
      b.after (b.deleteMessage channel id session canModerate)
  | .system id channel text => b.after (b.publishSystemMessage id channel text)
  | .moderate actor id action reason => b.after (b.moderateMessage actor id action reason)
  | .page channel before => (b.historyPage channel before).2
  | .wait millis => { b with now := max b.now millis }

end Vussa
