import Vussa.Model.Handler

/-!
The requests of the HTTP interface that change channels, members, bans or messages, past
`load_session` and `require_csrf`. Those that a client event calls too, and the administration of
channels, bans and single messages, are in `Vussa.Model.Channels`; here are the moderators and the
ownership of a channel (`api/members.rs`), the invite links (`api/channels.rs`) and the moderation
of many messages (`api/admin.rs`).

* `promoteChannelModerator`, `demoteChannelModerator`, `transferChannelOwnership`: the roles of
  members;
* `acceptInviteLink`: the row of the link is what the hash of the token selects;
* `adminBulkModerate`, `refreshModeratedMessage`: a transaction over many messages, and the refresh
  of each one behind it;
* `Request`, `handleRequest`: the dispatch.
-/

namespace Vussa

open Effect

/-! ### Roles -/

/-- `channel_moderator_manager`. -/
def channelModeratorManager (db : Database) (name : String) (user : AuthUser) :
    Except AppError Uuid :=
  if Permission.chatModerate ∈ user.permissions then
    match db.liveChannel? name with
    | some c => .ok c.id
    | none => .error RepositoryError.notFound.toApp
  else ownedPrivateChannel db name user.id

/-- `UPDATE channel_members SET membership_role=… WHERE channel_id=… AND user_id=… AND
membership_role=…`, with the check of `rows_affected`. -/
def changeRole (channelId userId : Uuid) (old new : MembershipRole) (db : Database) :
    Except AppError (Database × Unit) :=
  if ∃ cm ∈ db.channelMembers, cm.channelId = channelId ∧ cm.userId = userId ∧
      cm.membershipRole = old then
    .ok ({ db with channelMembers := db.channelMembers.map fun cm =>
      if cm.channelId = channelId ∧ cm.userId = userId ∧ cm.membershipRole = old then
        { cm with membershipRole := new } else cm }, ⟨⟩)
  else .error RepositoryError.notFound.toApp

/-- The two changes of a moderator's role. -/
def setModerator (old new : MembershipRole) (action : String) (actor : AuthUser) (name : String)
    (userId : Uuid) : App Unit := do
  let channelId ← read fun s => channelModeratorManager s.db name actor
  transaction fun db _ => changeRole channelId userId old new db
  transaction fun db now =>
    .ok (db.recordAudit actor.id action "channel" channelId [("user_id", .id userId)] now, ⟨⟩)

/-- `promote_channel_moderator`. -/
def promoteChannelModerator : AuthUser → String → Uuid → App Unit :=
  setModerator .member .moderator "channel.moderator_promoted"

/-- `demote_channel_moderator`. -/
def demoteChannelModerator : AuthUser → String → Uuid → App Unit :=
  setModerator .moderator .member "channel.moderator_demoted"

/-- The transaction of `transfer_channel_ownership`, with the checks before it. -/
def transferOwnership (actor : AuthUser) (name : String) (userId : Uuid) (db : Database) :
    Except AppError (Database × Uuid) :=
  match db.liveChannel? name with
  | none => .error RepositoryError.notFound.toApp
  | some c =>
      if c.ownerUserId ≠ some actor.id then
        .error (.forbidden "only the channel owner can transfer ownership")
      else if userId = actor.id then
        .error (.badRequest "cannot transfer ownership to yourself")
      else if ¬ Member db c.id userId then
        .error (.badRequest "target user is not a member of the channel")
      else
        let members := db.channelMembers.map fun cm =>
          if cm.channelId = c.id ∧ cm.userId = userId then { cm with membershipRole := .owner }
          else if cm.channelId = c.id ∧ cm.userId = actor.id then
            { cm with membershipRole := .moderator }
          else cm
        .ok ({ db.updateChannel c.id fun c => { c with ownerUserId := some userId } with
          channelMembers := members }, c.id)

/-- `transfer_channel_ownership`. -/
def transferChannelOwnership (actor : AuthUser) (name : String) (userId : Uuid) : App Unit := do
  check fun _ _ => requirePermission actor .chatWrite
  let channelId ← transaction fun db _ => transferOwnership actor name userId db
  broadcastMembers name
  transaction fun db now =>
    .ok (db.recordAudit actor.id "channel.ownership_transferred" "channel" channelId
      [("old_owner", .id actor.id), ("new_owner", .id userId)] now, ⟨⟩)

/-! ### Invite links -/

/-- The columns of `channel_invite_links` that `accept_invite_link` reads. -/
structure InviteLinkRow where
  channelId : Uuid
  expiresAt : Option ℤ
  maxUses : ℤ
  uses : ℤ
  deriving DecidableEq, Repr

/-- The transaction of `accept_invite_link` on the link that the hash of the token selects: the
name of the channel, and whether the user is a new member. -/
def useInviteLink (actor : AuthUser) (link : Option InviteLinkRow) (db : Database)
    (now : Millis) : Except AppError (Database × (String × Bool)) :=
  match link.bind fun l => (db.channels.find? fun c => c.id = l.channelId ∧ c.deletedAt = none).map
      fun c => (l, c) with
  | none => .error RepositoryError.notFound.toApp
  | some (l, c) =>
      if (∃ e ∈ l.expiresAt, e ≤ ((now : ℕ) : ℤ)) ∨ (0 < l.maxUses ∧ l.maxUses ≤ l.uses) then
        .error (.badRequest "invite link is expired or exhausted")
      else if Banned db now actor.id c.id then .error (.forbidden "conversation access denied")
      else if Member db c.id actor.id then .ok (db, (c.name, false))
      else .ok (db.addMember { channelId := c.id, userId := actor.id, createdAt := now },
        (c.name, true))

/-- `accept_invite_link`. -/
def acceptInviteLink (notice : Uuid) (actor : AuthUser) (token : String)
    (link : Option InviteLinkRow) : App String := do
  check fun _ _ => requirePermission actor .chatWrite
  check fun _ _ =>
    if token.utf8ByteSize ≠ 64 ∨ ¬ token.toList.all fun c =>
        c.isDigit ∨ ('a' ≤ c ∧ c ≤ 'f') ∨ ('A' ≤ c ∧ c ≤ 'F') then
      .error (.badRequest "invalid invite link")
    else .ok ⟨⟩
  let (name, joined) ← transaction (useInviteLink actor link)
  if joined then publishSystemMessage notice name (actor.username ++ " joined the conversation")
  return name

/-! ### Many messages -/

/-- `refresh_moderated_message`. -/
def refreshModeratedMessage (id : Uuid) : App Unit := do
  let message ← read fun s => .ok (moderatedView? s.db id)
  match message with
  | none => pure ⟨⟩
  | some message => do
      broadcast message.channel (.messageUpdated message)
      update fun s => s.setBackend (s.setHistory message.channel .empty)

/-- The row an action of `admin_bulk_moderate` changes: a message to delete is not yet deleted, one
to restore is. -/
def Applies (action : Moderation) (m : MessageRow) : Prop :=
  match action with
  | .delete => m.deletedAt = none
  | .restore => m.deletedAt ≠ none

instance (action : Moderation) (m : MessageRow) : Decidable (Applies action m) :=
  match action with
  | .delete => inferInstanceAs (Decidable (_ = _))
  | .restore => inferInstanceAs (Decidable (¬ _ = _))

/-- The loop of `admin_bulk_moderate`: the tables and the identifiers it changed. -/
def bulkModerate (actor : AuthUser) (action : Moderation) (reason : Option String) (now : Millis) :
    List Uuid → Database → Database × List Uuid
  | [], db => (db, [])
  | id :: ids, db =>
      if ∃ m ∈ db.messages, m.id = id ∧ Applies action m then
        let db' := (db.updateMessage id (MessageRow.moderate now actor.id reason action)).recordAudit
          actor.id action.audit "message" id [("reason", .ofText? reason), ("bulk", .flag true)] now
        let (db'', changed) := bulkModerate actor action reason now ids db'
        (db'', id :: changed)
      else bulkModerate actor action reason now ids db

/-- `for id in changed_ids { refresh_moderated_message(&state, id) }`. -/
def refreshModerated : List Uuid → App Unit
  | [] => pure ⟨⟩
  | id :: ids => do
      refreshModeratedMessage id
      refreshModerated ids

/-- `admin_bulk_moderate`. -/
def adminBulkModerate (actor : AuthUser) (ids : List Uuid) (action : Moderation)
    (reason : Option String) : App Unit := do
  check fun _ _ => requirePermission actor .moderationWrite
  check fun _ _ =>
    if ids = [] ∨ 100 < ids.length then
      .error (.badRequest "bulk moderation must contain 1–100 messages")
    else .ok ⟨⟩
  let changed ← transaction fun db now => .ok (bulkModerate actor action reason now ids db)
  refreshModerated changed

/-! ### The dispatch -/

/-- The requests of the HTTP interface that change channels, members, bans or messages. -/
inductive Request where
  | createChannel (name : String)
  | createPrivateChannel (name : String)
  | openDirect (userId : Uuid)
  | inviteMember (channel : String) (userId : Uuid)
  | removeMember (channel : String) (userId : Uuid)
  | leaveChannel (channel : String)
  | adminCreateChannel (request : ChannelAdminRequest)
  | adminUpdateChannel (id : Uuid) (request : ChannelAdminRequest)
  | adminChannelState (id : Uuid) (action : ChannelAction)
  | adminCreateBan (request : BanRequest)
  | adminRevokeBan (id : Uuid)
  | adminModerateMessage (id : Uuid) (action : Moderation) (reason : Option String)
  | promoteModerator (channel : String) (userId : Uuid)
  | demoteModerator (channel : String) (userId : Uuid)
  | transferOwnership (channel : String) (userId : Uuid)
  | acceptInviteLink (token : String) (link : Option InviteLinkRow)
  | adminBulkModerate (ids : List Uuid) (action : Moderation) (reason : Option String)
  deriving DecidableEq, Repr

/-- The handler of a request, past `load_session` and `require_csrf`. -/
def handleRequest (U : Unicode) (fresh : Fresh) (user : AuthUser) : Request → App Unit
  | .createChannel name => do
      let _ ← createPublicChannel U fresh.channel fresh.notice user name
      return ⟨⟩
  | .createPrivateChannel name => do
      let _ ← createPrivateConversation U fresh.channel fresh.notice user name
      return ⟨⟩
  | .openDirect userId => do
      let _ ← openDirect fresh.channel user userId
      return ⟨⟩
  | .inviteMember channel userId => do
      let _ ← inviteMember fresh.notice user channel userId
      return ⟨⟩
  | .removeMember channel userId => removeMember fresh.notice user channel userId
  | .leaveChannel channel => leaveChannel fresh.notice user channel
  | .adminCreateChannel request => adminCreateChannel U fresh.channel fresh.notice user request
  | .adminUpdateChannel id request => adminUpdateChannel U user id request
  | .adminChannelState id action => adminChannelState fresh.notice user id action
  | .adminCreateBan request => adminCreateBan fresh.message user request
  | .adminRevokeBan id => adminRevokeBan user id
  | .adminModerateMessage id action reason => adminModerate user id action reason
  | .promoteModerator channel userId => promoteChannelModerator user channel userId
  | .demoteModerator channel userId => demoteChannelModerator user channel userId
  | .transferOwnership channel userId => transferChannelOwnership user channel userId
  | .acceptInviteLink token link => do
      let _ ← acceptInviteLink fresh.notice user token link
      return ⟨⟩
  | .adminBulkModerate ids action reason => adminBulkModerate user ids action reason

end Vussa
