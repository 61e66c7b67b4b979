import Vussa.Model.Channels

/-!
The WebSocket handler: `handle_client_event` with every event, and the channel switch of
`handle_socket` (`websocket/handler.rs`, `websocket/presence.rs`).

`create_message_notifications` writes only tables that nothing here reads and is left out, as are
the lists of channels, conversations and members sent back to the socket. Presence entries are
kept without their time to live.

* `sendMessage`, `editMessageEvent`, `deleteMessageEvent`, `addReaction`, `removeReaction`,
  `markRead`: the arms that write;
* `handleClientEvent`: the dispatch;
* `enterChannel`, `leavePresence`: what a socket does when it enters and leaves a channel.
-/

namespace Vussa

open Effect

/-- The identifiers a request draws with `Uuid::now_v7`. -/
structure Fresh where
  channel : Uuid
  message : Uuid
  notice : Uuid
  deriving DecidableEq, Repr

/-- What `handle_client_event` returns, with the events it sent to its own socket. -/
structure Reply where
  switchTo : Option String := none
  sent : List ServerEvent := []
  deriving DecidableEq, Repr

/-! ### Presence -/

/-- `participant_for_user`. -/
def participantForUser (db : Database) (now : Millis) (user : AuthUser) : Participant :=
  let profile := db.users.find? fun u => u.id = user.id ∧ u.deletedAt = none
  { userId := user.id, username := user.username,
    displayName := (profile.map UserRow.displayName).getD user.username,
    customStatus := (profile.map fun u =>
      if ∃ e ∈ u.statusExpiresAt, e ≤ ((now : ℕ) : ℤ) then "" else u.customStatus).getD "",
    roles := user.roles, online := true }

/-- Replace the presence set of a channel. -/
def Shared.setPresence (s : Shared) (channel : String) (participants : List Participant) :
    Shared :=
  { s with presence := Function.update s.presence channel participants }

/-- `refresh_presence`. -/
def refreshPresence (channel : String) (participant : Participant) : App Unit :=
  update fun s => s.setPresence channel
    ((s.presence channel).filter (fun p => p.userId ≠ participant.userId) ++ [participant])

/-- `remove_presence`. -/
def removePresence (channel : String) (userId : Uuid) : App Unit :=
  update fun s => s.setPresence channel
    ((s.presence channel).filter fun p => p.userId ≠ userId)

/-- `list_presence`. -/
def listPresence (s : Shared) (channel : String) : List Participant :=
  (s.presence channel).insertionSort fun a b => a.username ≤ b.username

/-! ### The arms that write -/

/-- `INCR` of the message key of a user. -/
def Shared.countRate (s : Shared) (userId : Uuid) : Shared :=
  { s with rates := Function.update s.rates userId (s.rates userId + 1) }

@[simp] lemma Shared.countRate_backend (s : Shared) (userId : Uuid) :
    (s.countRate userId).toBackend = s.toBackend := rfl

@[simp] lemma Shared.countRate_rates (s : Shared) (userId : Uuid) :
    (s.countRate userId).rates userId = s.rates userId + 1 := Function.update_self ..

/-- `enforce_rate_limit` on the message key of a user: sixty in a window. -/
def enforceRateLimit (userId : Uuid) : App Unit := do
  update fun s => s.countRate userId
  read fun s =>
    if 60 < s.rates userId then .error (.tooManyRequests "rate limit exceeded") else .ok ⟨⟩

/-- The file checks of `SendMessage`. -/
def ensureFiles (db : Database) (userId : Uuid) (fileIds : List Uuid) : Except AppError Unit :=
  if 10 < fileIds.length then .error (.badRequest "a message can contain at most 10 files")
  else if fileIds ≠ [] ∧ (db.files.filter fun f =>
      f.id ∈ fileIds ∧ f.uploaderUserId = userId ∧ f.deletedAt = none).length
        ≠ fileIds.length then
    .error (.forbidden "one or more files are not available")
  else .ok ⟨⟩

/-- A stored message is the retried one. -/
def SameMessage (existing : ChatMessage) (channel text : String) (rootMessageId : Option Uuid)
    (fileIds : List Uuid) : Prop :=
  existing.channel = channel ∧ existing.text = text ∧ existing.rootMessageId = rootMessageId ∧
    existing.fileIds = fileIds

instance (existing : ChatMessage) (channel text : String) (root : Option Uuid)
    (files : List Uuid) : Decidable (SameMessage existing channel text root files) :=
  inferInstanceAs (Decidable (_ ∧ _))

/-- The lookup of a retried message by its client identifier. -/
def findRetried (db : Database) (session : Uuid) (clientId : Option String)
    (channel text : String) (rootMessageId : Option Uuid) (fileIds : List Uuid) :
    Except AppError (Option ChatMessage) :=
  match clientId.bind (findMessageByClientId db session) with
  | none => .ok none
  | some existing =>
      if SameMessage existing channel text rootMessageId fileIds then .ok (some existing)
      else .error (.badRequest "client_id was already used for a different message")

/-- The message `SendMessage` builds. -/
def newMessage (U : Unicode) (s : Shared) (id : Uuid) (user : AuthUser) (channel text : String)
    (rootMessageId : Option Uuid) (clientId : Option String) (fileIds : List Uuid) :
    ChatMessage where
  id := id
  channel := channel
  username := user.username
  text := text
  createdAt := s.now
  edited := false
  deleted := false
  rootMessageId := rootMessageId
  replyCount := 0
  metadata := .chat rootMessageId fileIds (mentionScope U text)
    (if mentionScope U text = some .here then
      ((listPresence s channel).filter fun p => p.userId ≠ user.id).map Participant.userId
    else [])
  mentions := extractMentionedUsernames U text user.username
  clientId := clientId
  fileIds := fileIds

/-- The insert of `SendMessage`: the new message, or, after a failed insert, the stored one of its
client identifier. -/
def insertOrFind (U : Unicode) (id : Uuid) (user : AuthUser) (session : Uuid)
    (channel text : String) (rootMessageId : Option Uuid) (clientId : Option String)
    (fileIds : List Uuid) (s : Shared) : Except AppError (Shared × (ChatMessage ⊕ ChatMessage)) :=
  let message := newMessage U s id user channel text rootMessageId clientId fileIds
  match s.postMessage message session user.id with
  | .ok b => .ok (s.setBackend b, .inl message)
  | .error e =>
      match findRetried s.db session clientId channel text rootMessageId fileIds with
      | .ok (some existing) => .ok (s, .inr existing)
      | .ok none => .error e.toApp
      | .error e' => .error e'

/-- The `SendMessage` arm. -/
def sendMessage (U : Unicode) (id : Uuid) (user : AuthUser) (session : Uuid) (channel : String)
    (rawText : String) (rootMessageId : Option Uuid) (rawClientId : Option String)
    (fileIds : List Uuid) : App Reply := do
  check fun _ _ => requirePermission user .chatWrite
  enforceRateLimit user.id
  check fun db now => ensureChannelAccess db now channel user.id
  check fun db _ => ensureChannelPostingAccess db channel user
  let text ← read fun _ => messageText rawText
  check fun db _ => ensureFiles db user.id fileIds
  let clientId := rawClientId.filter fun value => trim value ≠ ""
  let retried ← read fun s => findRetried s.db session clientId channel text rootMessageId fileIds
  match retried with
  | some existing => return { sent := [.message existing] }
  | none =>
      let outcome ← transact
        (insertOrFind U id user session channel text rootMessageId clientId fileIds)
      match outcome with
      | .inl message => do
          broadcast channel (.message message)
          return {}
      | .inr existing => return { sent := [.message existing] }

/-- The `EditMessage` arm. -/
def editMessageEvent (user : AuthUser) (session : Uuid) (channel : String) (id : Uuid)
    (rawText : String) : App Reply := do
  check fun _ _ => requirePermission user .chatWrite
  check fun db now => ensureChannelAccess db now channel user.id
  let text ← read fun _ => messageText rawText
  let message ← repository fun b => b.editMessage channel id session text
  broadcast channel (.messageUpdated message)
  return {}

/-- The `DeleteMessage` arm. -/
def deleteMessageEvent (user : AuthUser) (session : Uuid) (channel : String) (id : Uuid) :
    App Reply := do
  check fun _ _ => requirePermission user .chatWrite
  check fun db now => ensureChannelAccess db now channel user.id
  let message ← repository fun b =>
    b.deleteMessage channel id session (Permission.chatModerate ∈ user.permissions)
  broadcast channel (.messageUpdated message)
  return {}

/-- The guarded `INSERT INTO message_reactions`. -/
def Database.addReaction (db : Database) (channel : String) (messageId userId : Uuid)
    (emoji : String) (now : Millis) : Database :=
  if (db.messageIn? channel messageId).isSome ∧ ¬ ∃ r ∈ db.messageReactions,
      r.messageId = messageId ∧ r.userId = userId ∧ r.emoji = emoji then
    { db with messageReactions := db.messageReactions ++
        [{ messageId := messageId, userId := userId, emoji := emoji, createdAt := now }] }
  else db

/-- The guarded `DELETE FROM message_reactions`. -/
def Database.removeReaction (db : Database) (channel : String) (messageId userId : Uuid)
    (emoji : String) : Database :=
  if (db.messageIn? channel messageId).isSome then
    { db with messageReactions := db.messageReactions.filter fun r =>
        ¬ (r.messageId = messageId ∧ r.userId = userId ∧ r.emoji = emoji) }
  else db

/-- The summary `broadcast_reaction` reads back, by the identifier alone. -/
def reactionSummary (db : Database) (messageId : Uuid) (emoji : String) : ReactionSummary where
  messageId := messageId
  emoji := emoji
  userIds := ((db.messageReactions.filter fun r => r.messageId = messageId ∧ r.emoji = emoji).map
    ReactionRow.userId).insertionSort (· ≤ ·)

/-- `broadcast_reaction`. -/
def broadcastReaction (channel : String) (messageId : Uuid) (emoji : String) : App Unit :=
  update fun s => { s with published := s.published ++
    [(channel, .reactionUpdated channel (reactionSummary s.db messageId emoji))] }

/-- The `AddReaction` and `RemoveReaction` arms. -/
def react (add : Bool) (user : AuthUser) (channel : String) (messageId : Uuid)
    (rawEmoji : String) : App Reply := do
  check fun _ _ => requirePermission user .chatWrite
  check fun db now => ensureChannelAccess db now channel user.id
  let emoji ← read fun _ => normalizeEmoji rawEmoji
  update fun s => s.setDb
    (if add then s.db.addReaction channel messageId user.id emoji s.now
      else s.db.removeReaction channel messageId user.id emoji)
  broadcastReaction channel messageId emoji
  return {}

/-- The upsert of `MarkRead`. -/
def Database.markRead (db : Database) (userId : Uuid) (channel : String) (messageId : Uuid)
    (createdAt : ℤ) (now : Millis) : Database :=
  match db.channels.find? fun c => c.name = channel with
  | none => db
  | some c =>
      if ∃ r ∈ db.channelReads, r.userId = userId ∧ r.channelId = c.id then
        { db with channelReads := db.channelReads.map fun r =>
            if r.userId = userId ∧ r.channelId = c.id then
              { r with
                lastReadCreatedAt := max r.lastReadCreatedAt createdAt
                lastReadMessageId :=
                  if r.lastReadCreatedAt ≤ createdAt then messageId else r.lastReadMessageId
                updatedAt := now }
            else r }
      else { db with channelReads := db.channelReads ++
          [{ userId := userId, channelId := c.id, lastReadCreatedAt := createdAt,
             lastReadMessageId := messageId, updatedAt := now }] }

/-- The `MarkRead` arm. -/
def markRead (user : AuthUser) (channel : String) (messageId : Uuid) (createdAt : U64) :
    App Reply := do
  check fun _ _ => requirePermission user .chatWrite
  check fun db now => ensureChannelAccess db now channel user.id
  update fun s => s.setDb (s.db.markRead user.id channel messageId (asI64 createdAt) s.now)
  return { sent := [.readStateUpdated channel user.id messageId createdAt] }

/-- `send_history_page` on the shared state. -/
def sendPage (channel : String) (before : Option Cursor) : App ServerEvent :=
  transact fun s =>
    let (event, h) := sendHistoryPage s.db s.now channel (s.history channel) before
    .ok (s.setBackend (s.setHistory channel h), event)

/-! ### The dispatch -/

/-- `handle_client_event` on a socket in `channel`; `active` says whether the session key
exists. -/
def handleClientEvent (U : Unicode) (fresh : Fresh) (user : AuthUser) (session : Uuid)
    (active : Bool) (channel : String) : ClientEvent → App Reply
  | .listChannels => return {}
  | .createChannel name => do
      let _ ← createPublicChannel U fresh.channel fresh.notice user name
      return {}
  | .createPrivateChannel name => do
      let _ ← createPrivateConversation U fresh.channel fresh.notice user name
      return {}
  | .openDirect userId => do
      let (_, name) ← openDirect fresh.channel user userId
      return { switchTo := some name }
  | .inviteMember target userId => do
      let _ ← inviteMember fresh.notice user target userId
      return {}
  | .removeMember target userId => do
      removeMember fresh.notice user target userId
      return {}
  | .joinChannel raw => do
      let name ← read fun _ => requestedChannel U raw
      check fun db now => ensureChannelAccess db now name user.id
      return { switchTo := some name }
  | .deleteChannel raw => do
      let name ← deleteChannelService U user raw
      return { switchTo := if channel = name then some mainChannel else none }
  | .sendMessage text root clientId fileIds =>
      sendMessage U fresh.message user session channel text root clientId fileIds
  | .editMessage id text => editMessageEvent user session channel id text
  | .deleteMessage id => deleteMessageEvent user session channel id
  | .addReaction messageId emoji => react true user channel messageId emoji
  | .removeReaction messageId emoji => react false user channel messageId emoji
  | .typing typing => do
      check fun _ _ => requirePermission user .chatWrite
      check fun db now => ensureChannelAccess db now channel user.id
      broadcast channel (.typing channel user.id user.username typing)
      return {}
  | .markRead messageId createdAt => markRead user channel messageId createdAt
  | .loadHistory raw beforeCreatedAt beforeId => do
      let name ← read fun _ => requestedChannel U raw
      if name ≠ channel then return {}
      else do
        check fun db now => ensureChannelAccess db now name user.id
        let event ← sendPage name (some (beforeCreatedAt, beforeId))
        return { sent := [event] }
  | .loadThread messageId beforeCreatedAt beforeId => do
      check fun _ _ => requirePermission user .chatWrite
      check fun db now => ensureChannelAccess db now channel user.id
      let event ← read fun s => .ok (sendThreadPage s.db channel messageId
        (beforeCreatedAt.bind fun t => beforeId.map fun id => (t, id)))
      return { sent := [event] }
  | .heartbeat => do
      read fun _ => if active then .ok ⟨⟩ else .error (.unauthorized "session expired")
      let participant ← read fun s => .ok (participantForUser s.db s.now user)
      refreshPresence channel participant
      broadcast channel (.participantJoined channel participant)
      return {}

/-- What `handle_socket` does on entering a channel: `joined`, the history, presence. -/
def enterChannel (user : AuthUser) (channel : String) : App (List ServerEvent) := do
  let event ← sendPage channel none
  let participant ← read fun s => .ok (participantForUser s.db s.now user)
  refreshPresence channel participant
  let sync ← read fun s => .ok (listPresence s channel)
  broadcast channel (.participantJoined channel participant)
  return [.joined channel, event, .presenceSync channel sync]

/-- What `handle_socket` does on leaving a channel. -/
def leavePresence (user : AuthUser) (channel : String) : App Unit := do
  removePresence channel user.id
  broadcast channel (.participantLeft channel user.id)

end Vussa
