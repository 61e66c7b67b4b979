import Vussa.Rooms.Routing
import Vussa.Access.Banned
import Vussa.Failures.Services

/-!
The operations that record an audit event (`api/admin.rs`, `api/members.rs`, `api/media.rs`,
`api/account.rs`, `repository/postgres.rs`), with their failures. Some write the audit row in the
transaction of the change; others change the tables first and record the audit row afterwards, on
another connection of the pool.

The moderations ask for the action `delete` or `restore`, and so on; an unknown action is refused
before anything is written and is left out.

* `Ledger`, `Request`: the shared state with the roles, the reports and the outbox; the monad of
  the requests;
* `recordAuditPool`: the audit row behind a change;
* `openDirect`, `leaveChannel`, `setModerator`, `transferChannelOwnership`, `adminCreateChannel`,
  `adminUpdateChannel`, `adminChannelState`, `adminCreateBan`, `adminRevokeBan`, `adminModerate`,
  `adminBulkModerate`: the operations on channels, members, bans and messages;
* `setUserDisabled`, `adminDeleteUser`, `deleteAccount`, `assignRole`, `removeRole`,
  `reportMessage`, `updateMessageReport`: those on accounts, roles and reports;
* `Operation`, `Operation.run`: one request of them, and of the services.
-/

namespace Vussa.Failures

open Effect Faults

/-! ### The tables -/

/-- The column `status` of `message_reports`. -/
inductive ReportStatus where
  | open | resolved
  deriving DecidableEq, Repr

/-- A row of `message_reports`. -/
structure ReportRow where
  id : Uuid
  messageId : Uuid
  reporterUserId : Uuid
  reason : String
  status : ReportStatus := .open
  createdAt : Millis
  resolvedAt : Option Millis := none
  resolvedBy : Option Uuid := none
  deriving DecidableEq, Repr

/-- The shared state with the tables of roles and reports; `invalidations` are the users of the
queued `auth.invalidate` events. -/
structure Ledger extends Shared where
  roles : List String := []
  userRoles : List (Uuid × String) := []
  roleVersion : Uuid → ℕ := fun _ => 1
  invalidations : List Uuid := []
  reports : List ReportRow := []

/-- A request. -/
abbrev Request := EStateM AppError Ledger

/-- A program on the shared state. -/
def lift {α : Type} (x : App α) : Request α := fun s =>
  match x.run s.toShared with
  | .ok a t => .ok a { s with toShared := t }
  | .error e t => .error e { s with toShared := t }

variable (fault : Plan)

/-- A statement on the further tables. -/
def write (step : Step) (f : Ledger → Except AppError Ledger) : Request Unit :=
  attempt fault step (transact fun s => (f s).map fun s' => (s', ⟨⟩))

/-- A transaction on the further tables. -/
def inRequest {α : Type} (body : Request α) : Request α := atomically fault .begin .commit body

/-- `record_audit_pool`. -/
def recordAuditPool (actor : Uuid) (action targetType : String) (targetId : Uuid)
    (metadata : List (String × AuditValue)) : App Unit := do
  attempt fault .acquire (pure ⟨⟩)
  recordAudit fault 0 actor action targetType targetId metadata

/-! ### Channels and members -/

/-- The transaction of `open_direct`. -/
def directTransaction (channelId : Uuid) (actor : AuthUser) (target : Uuid) :
    App (Uuid × String) := do
  let key := directKey actor.id target
  let name := directName channelId
  let created ← exec fault (.statement 0) fun db now =>
    if (db.directChannel? key).isSome then .ok (db, false)
    else (db.insertChannel
      { id := channelId, name := name, kind := .direct, directKey := some key,
        createdAt := now }).map fun db => (db, true)
  let (id, name) ←
    if created then pure (channelId, name)
    else ask fault (.statement 1) fun db _ =>
      match db.directChannel? key with
      | none => .error RepositoryError.database.toApp
      | some c => .ok (c.id, c.name)
  exec fault (.statement 2) fun db now =>
    .ok (db.addMember
      { channelId := id, userId := key.1, invitedBy := some actor.id, createdAt := now }, ⟨⟩)
  exec fault (.statement 3) fun db now =>
    .ok (db.addMember
      { channelId := id, userId := key.2, invitedBy := some actor.id, createdAt := now }, ⟨⟩)
  if created then
    recordAudit fault 0 actor.id "channel.direct_created" "channel" id [("user_id", .id target)]
  return (id, name)

/-- `open_direct`. -/
def openDirect (channelId : Uuid) (actor : AuthUser) (target : Uuid) : App (Uuid × String) := do
  check fun _ _ => requirePermission actor .chatWrite
  ask fault (.query 0) fun db now => ensureNotGloballyBanned db now actor.id
  check fun _ _ =>
    if target = actor.id then .error (.badRequest "you cannot message yourself") else .ok ⟨⟩
  ask fault (.query 1) fun db _ =>
    if (db.activeUser? target).isSome then .ok ⟨⟩ else .error RepositoryError.notFound.toApp
  inTransaction fault (directTransaction fault channelId actor target)

/-- `let _ = broadcast(…)` with the members: the error of their query is handed on. -/
def publishMembers (name : String) : App Unit := do
  let members ← ask fault .members fun db _ => .ok (channelMembers db name)
  swallow (attempt fault .announceMembers (broadcast name (.members name members)))

/-- The query of `leave_channel`. -/
def membership (actor : AuthUser) (name : String) (db : Database) :
    Except AppError (ChannelRow × MemberRow) :=
  match (db.liveChannel? name).bind fun c =>
      (db.channelMembers.find? fun cm => cm.channelId = c.id ∧ cm.userId = actor.id).map
        fun cm => (c, cm) with
  | none => .error RepositoryError.notFound.toApp
  | some row => .ok row

/-- The checks of `leave_channel`. -/
def checkLeave (actor : AuthUser) (row : ChannelRow × MemberRow) : Except AppError Unit :=
  if row.1.kind = .pub then .error (.badRequest "public channels do not require leaving")
  else if row.1.ownerUserId = some actor.id ∨ row.2.membershipRole = .owner then
    .error (.badRequest "the channel owner must transfer ownership or delete the channel")
  else .ok ⟨⟩

/-- `leave_channel`. -/
def leaveChannel (notice : Uuid) (actor : AuthUser) (name : String) : App Unit := do
  check fun _ _ => requirePermission actor .chatWrite
  let row ← ask fault (.query 0) fun db _ => membership actor name db
  check fun _ _ => checkLeave actor row
  exec fault (.statement 0) fun db _ => .ok (db.removeMembers row.1.id actor.id fun _ => true, ⟨⟩)
  publishSystemMessage fault notice name (actor.username ++ " left the conversation")
  publishMembers fault name
  recordAuditPool fault actor.id "channel.member_left" "channel" row.1.id
    [("user_id", .id actor.id)]

/-- The two changes of a moderator's role. -/
def setModerator (old new : MembershipRole) (action : String) (actor : AuthUser) (name : String)
    (userId : Uuid) : App Unit := do
  let channelId ← ask fault (.query 0) fun db _ => channelModeratorManager db name actor
  exec fault (.statement 0) fun db _ => changeRole channelId userId old new db
  recordAuditPool fault actor.id action "channel" channelId [("user_id", .id userId)]

/-- `promote_channel_moderator`. -/
def promoteChannelModerator : AuthUser → String → Uuid → App Unit :=
  setModerator fault .member .moderator "channel.moderator_promoted"

/-- `demote_channel_moderator`. -/
def demoteChannelModerator : AuthUser → String → Uuid → App Unit :=
  setModerator fault .moderator .member "channel.moderator_demoted"

/-- `UPDATE channel_members SET membership_role=… WHERE channel_id=… AND user_id=…`. -/
def setRole (channelId userId : Uuid) (role : MembershipRole) (db : Database) : Database :=
  { db with channelMembers := db.channelMembers.map fun cm =>
      if cm.channelId = channelId ∧ cm.userId = userId then { cm with membershipRole := role }
      else cm }

/-- The first query of `transfer_channel_ownership`. -/
def liveChannel (name : String) (db : Database) : Except AppError ChannelRow :=
  match db.liveChannel? name with
  | none => .error RepositoryError.notFound.toApp
  | some c => .ok c

/-- The checks of `transfer_channel_ownership` on the channel. -/
def checkTransfer (actor : AuthUser) (userId : Uuid) (c : ChannelRow) : Except AppError Unit :=
  if c.ownerUserId ≠ some actor.id then
    .error (.forbidden "only the channel owner can transfer ownership")
  else if userId = actor.id then .error (.badRequest "cannot transfer ownership to yourself")
  else .ok ⟨⟩

/-- The second query of `transfer_channel_ownership`. -/
def checkTarget (channelId userId : Uuid) (db : Database) : Except AppError Unit :=
  if Member db channelId userId then .ok ⟨⟩
  else .error (.badRequest "target user is not a member of the channel")

/-- The transaction of `transfer_channel_ownership`. -/
def transferTransaction (channelId actor userId : Uuid) : App Unit := do
  exec fault (.statement 0) fun db _ =>
    .ok (db.updateChannel channelId fun c => { c with ownerUserId := some userId }, ⟨⟩)
  exec fault (.statement 1) fun db _ => .ok (setRole channelId actor .moderator db, ⟨⟩)
  exec fault (.statement 2) fun db _ => .ok (setRole channelId userId .owner db, ⟨⟩)

/-- `transfer_channel_ownership`. -/
def transferChannelOwnership (actor : AuthUser) (name : String) (userId : Uuid) : App Unit := do
  check fun _ _ => requirePermission actor .chatWrite
  let c ← ask fault (.query 0) fun db _ => liveChannel name db
  check fun _ _ => checkTransfer actor userId c
  ask fault (.query 1) fun db _ => checkTarget c.id userId db
  inTransaction fault (transferTransaction fault c.id actor.id userId)
  publishMembers fault name
  recordAuditPool fault actor.id "channel.ownership_transferred" "channel" c.id
    [("old_owner", .id actor.id), ("new_owner", .id userId)]

/-- The query of `admin_create_channel` for the identifier. -/
def channelId (db : Database) (name : String) : Except AppError Uuid :=
  match db.channels.find? fun c => c.name = name with
  | none => .error RepositoryError.database.toApp
  | some c => .ok c.id

/-- What `admin_create_channel` does behind `create_channel`, up to the audit row. -/
def configureChannel (actor : AuthUser) (name : String) (request : ChannelAdminRequest) :
    App Unit := do
  exec fault (.statement 1) fun db _ =>
    .ok ({ db with channels := db.channels.map fun c =>
      if c.name = name then c.configure request else c }, ⟨⟩)
  let id ← ask fault (.query 0) fun db _ => channelId db name
  recordAuditPool fault actor.id "channel.created" "channel" id []

/-- `admin_create_channel`. -/
def adminCreateChannel (U : Unicode) (channelId notice : Uuid) (actor : AuthUser)
    (request : ChannelAdminRequest) : App Unit := do
  check fun _ _ => requirePermission actor .channelsWrite
  let name ← read fun _ => normalizeChannelName U (request.name.getD "")
  check fun _ _ =>
    if name = mainChannel then .error (.badRequest "main is reserved") else .ok ⟨⟩
  check fun _ _ => validateRetentionDays request.retentionDays
  -- `create_channel` of the repository
  let _ ← exec fault (.statement 0) fun db now => db.upsertChannel channelId name now
  configureChannel fault actor name request
  publishSystemMessage fault notice name (actor.username ++ " created this channel")

/-- The transaction of `admin_update_channel`. -/
def updateTransaction (U : Unicode) (actor : AuthUser) (id : Uuid)
    (request : ChannelAdminRequest) : App Unit := do
  let c ← ask fault (.statement 0) fun db _ =>
    match db.channels.find? fun c => c.id = id ∧ c.deletedAt = none with
    | none => .error RepositoryError.notFound.toApp
    | some c => .ok c
  let name ← read fun _ => request.rename U c
  check fun _ _ =>
    if request.name.isSome ∧ c.name = mainChannel ∧ name ≠ mainChannel then
      .error (.badRequest "main cannot be renamed")
    else .ok ⟨⟩
  check fun _ _ => validateRetentionDays request.retentionDays
  exec fault (.statement 1) fun db _ =>
    if ∃ c' ∈ db.channels, c'.name = name ∧ c'.id ≠ id then .error RepositoryError.database.toApp
    else .ok (db.updateChannel id fun c => { c.configure request with name := name }, ⟨⟩)
  recordAudit fault 0 actor.id "channel.updated" "channel" id []

/-- `admin_update_channel`. -/
def adminUpdateChannel (U : Unicode) (actor : AuthUser) (id : Uuid)
    (request : ChannelAdminRequest) : App Unit := do
  check fun _ _ => requirePermission actor .channelsWrite
  inTransaction fault (updateTransaction fault U actor id request)

/-- The transaction of `admin_channel_state`: the name of the channel. -/
def stateTransaction (actor : AuthUser) (id : Uuid) (action : ChannelAction) : App String := do
  let c ← ask fault (.statement 0) fun db _ =>
    match db.channels.find? fun c => c.id = id with
    | none => .error RepositoryError.notFound.toApp
    | some c => .ok c
  check fun _ _ =>
    if c.name = mainChannel then .error (.badRequest "main cannot be changed") else .ok ⟨⟩
  exec fault (.statement 1) fun db now =>
    .ok (db.updateChannel id fun c => action.apply now c, ⟨⟩)
  recordAudit fault 0 actor.id action.audit "channel" id []
  return c.name

/-- `admin_channel_state`. -/
def adminChannelState (notice : Uuid) (actor : AuthUser) (id : Uuid) (action : ChannelAction) :
    App Unit := do
  check fun _ _ => requirePermission actor .channelsWrite
  let name ← inTransaction fault (stateTransaction fault actor id action)
  match action with
  | .archive =>
      publishSystemMessage fault notice name "This channel was archived and is now read-only"
  | .restore => publishSystemMessage fault notice name "This channel was restored"
  | _ => pure ⟨⟩

/-! ### Bans and messages -/

/-- The checks of `admin_create_ban` on the request. -/
def checkBan (request : BanRequest) (now : Millis) : Except AppError Unit :=
  if trim request.reason = "" ∨ 500 < (trim request.reason).utf8ByteSize then
    .error (.badRequest "ban reason must be 1–500 characters")
  else if ∃ e ∈ request.expiresAt, e ≤ ((now : ℕ) : ℤ) then
    .error (.badRequest "ban expiry must be in the future")
  else .ok ⟨⟩

/-- The first query of `admin_create_ban`. -/
def checkBanned (userId : Uuid) (db : Database) : Except AppError Unit :=
  if ∃ u ∈ db.users, u.id = userId ∧ u.deletedAt = none then .ok ⟨⟩
  else .error RepositoryError.notFound.toApp

/-- The `INSERT` of `admin_create_ban`. -/
def addBan (banId : Uuid) (actor : AuthUser) (request : BanRequest) (channelId : Option Uuid)
    (db : Database) (now : Millis) : Except AppError (Database × Unit) :=
  if ∃ b ∈ db.userBans, b.id = banId then .error RepositoryError.database.toApp
  else .ok (db.addBan
    { id := banId, userId := request.userId, channelId := channelId, reason := trim request.reason,
      createdBy := some actor.id, expiresAt := request.expiresAt, createdAt := now }, ⟨⟩)

/-- The channel of a ban: a query, if the request names one. -/
def banChannel (request : BanRequest) : App (Option Uuid) :=
  match request.channel with
  | none => pure none
  | some name => do
      let c ← ask fault (.query 1) fun db _ => liveChannel name db
      return some c.id

/-- `admin_create_ban`. -/
def adminCreateBan (banId : Uuid) (actor : AuthUser) (request : BanRequest) : App Unit := do
  check fun _ _ => requirePermission actor .moderationWrite
  check fun _ now => checkBan request now
  ask fault (.query 0) fun db _ => checkBanned request.userId db
  let channelId ← banChannel fault request
  exec fault (.statement 0) (addBan banId actor request channelId)
  recordAuditPool fault actor.id "user.banned" "user" request.userId
    [("reason", .text (trim request.reason)), ("channel_id", .ofId? channelId)]

/-- The transaction of `admin_revoke_ban`. -/
def revokeTransaction (actor : AuthUser) (banId : Uuid) : App Unit := do
  let userId ← exec fault (.statement 0) fun db now =>
    match db.userBans.find? fun b => b.id = banId ∧ b.revokedAt = none with
    | none => .error RepositoryError.notFound.toApp
    | some b => .ok (db.revokeBan banId actor.id now, b.userId)
  recordAudit fault 0 actor.id "user.ban_revoked" "user" userId [("ban_id", .id banId)]

/-- `admin_revoke_ban`. -/
def adminRevokeBan (actor : AuthUser) (banId : Uuid) : App Unit := do
  check fun _ _ => requirePermission actor .moderationWrite
  inTransaction fault (revokeTransaction fault actor banId)

/-- `refresh_moderated_message`, whose errors are all discarded. -/
def refreshModerated (n : ℕ) (id : Uuid) : App Unit :=
  swallow (attempt fault (.refresh n) (Vussa.refreshModeratedMessage id))

/-- The transaction of `admin_moderate_message`. -/
def moderateTransaction (actor : AuthUser) (id : Uuid) (action : Moderation)
    (reason : Option String) : App Unit := do
  ask fault (.statement 0) fun db _ =>
    if ∃ m ∈ db.messages, m.id = id ∧ ∃ c ∈ db.channels, c.id = m.channelId then .ok ⟨⟩
    else .error RepositoryError.notFound.toApp
  exec fault (.statement 1) fun db now =>
    .ok (db.updateMessage id (MessageRow.moderate now actor.id reason action), ⟨⟩)
  recordAudit fault 0 actor.id action.audit "message" id [("reason", .ofText? reason)]

/-- `admin_moderate_message`. -/
def adminModerate (actor : AuthUser) (id : Uuid) (action : Moderation) (reason : Option String) :
    App Unit := do
  check fun _ _ => requirePermission actor .moderationWrite
  inTransaction fault (moderateTransaction fault actor id action reason)
  refreshModerated fault 0 id

/-- The loop of `admin_bulk_moderate` from the `n`-th identifier on: the identifiers it changed. -/
def bulkTransaction (actor : AuthUser) (action : Moderation) (reason : Option String) :
    ℕ → List Uuid → App (List Uuid)
  | _, [] => pure []
  | n, id :: ids => do
      let updated ← exec fault (.statement n) fun db now =>
        if ∃ m ∈ db.messages, m.id = id ∧ Applies action m then
          .ok (db.updateMessage id (MessageRow.moderate now actor.id reason action), true)
        else .ok (db, false)
      if updated then
        recordAudit fault n actor.id action.audit "message" id
          [("reason", .ofText? reason), ("bulk", .flag true)]
      let changed ← bulkTransaction actor action reason (n + 1) ids
      return if updated then id :: changed else changed

/-- `for id in changed_ids { refresh_moderated_message(&state, id) }`. -/
def refreshAll : ℕ → List Uuid → App Unit
  | _, [] => pure ⟨⟩
  | n, id :: ids => do
      refreshModerated fault n id
      refreshAll (n + 1) ids

/-- `admin_bulk_moderate`. -/
def adminBulkModerate (actor : AuthUser) (ids : List Uuid) (action : Moderation)
    (reason : Option String) : App Unit := do
  check fun _ _ => requirePermission actor .moderationWrite
  check fun _ _ =>
    if ids = [] ∨ 100 < ids.length then
      .error (.badRequest "bulk moderation must contain 1–100 messages")
    else .ok ⟨⟩
  let changed ← inTransaction fault (bulkTransaction fault actor action reason 0 ids)
  refreshAll fault 0 changed

/-! ### Accounts and roles -/

namespace Ledger

/-- `UPDATE users … WHERE id=…`, which raises the version of the roles. -/
def updateUser (s : Ledger) (user : Uuid) (f : UserRow → UserRow) : Ledger :=
  { s with
    db := { s.db with users := s.db.users.map fun u => if u.id = user then f u else u }
    roleVersion := Function.update s.roleVersion user (s.roleVersion user + 1) }

/-- A row of `users`. -/
def HasUser (s : Ledger) (user : Uuid) (p : UserRow → Prop) : Prop :=
  ∃ u ∈ s.db.users, u.id = user ∧ p u

instance (s : Ledger) (user : Uuid) (p : UserRow → Prop) [DecidablePred p] :
    Decidable (s.HasUser user p) :=
  inferInstanceAs (Decidable (∃ u ∈ s.db.users, _))

/-- `queue_auth_invalidation`. -/
def queueAuthInvalidation (s : Ledger) (user : Uuid) : Ledger :=
  { s with invalidations := s.invalidations ++ [user] }

/-- The count of `admin_remove_role`. -/
def adminCount (s : Ledger) : ℕ :=
  (s.userRoles.filter fun r => r.2 = "admin" ∧ r.2 ∈ s.roles ∧
    s.HasUser r.1 fun u => u.deletedAt = none ∧ u.disabledAt = none).length

end Ledger

/-- `set_user_disabled`. -/
def setUserDisabled (actor user : Uuid) (disabled : Bool) : Request Unit :=
  inRequest fault do
    write fault (.statement 0) fun s =>
      if s.HasUser user fun _ => True then
        .ok (s.updateUser user fun u =>
          { u with disabledAt := if disabled then some (u.disabledAt.getD s.now) else none })
      else .error RepositoryError.notFound.toApp
    lift (recordAudit fault 0 actor (if disabled then "user.disabled" else "user.enabled") "user"
      user [])
    write fault (.statement 1) fun s => .ok (s.queueAuthInvalidation user)

/-- `admin_disable_user` and `admin_enable_user`. -/
def adminSetDisabled (actor : AuthUser) (user : Uuid) (disabled : Bool) : Request Unit := do
  lift (check fun _ _ => requirePermission actor .usersWrite)
  setUserDisabled fault actor.id user disabled

/-- `admin_delete_user`. -/
def adminDeleteUser (actor : AuthUser) (user : Uuid) : Request Unit := do
  lift (check fun _ _ => requirePermission actor .usersWrite)
  lift (check fun _ _ =>
    if user = actor.id then .error (.badRequest "you cannot delete your own account") else .ok ⟨⟩)
  inRequest fault do
    write fault (.statement 0) fun s =>
      if s.HasUser user fun u => u.deletedAt = none then
        .ok (s.updateUser user fun u =>
          if u.deletedAt = none then
            { u with deletedAt := some s.now, disabledAt := some (u.disabledAt.getD s.now) }
          else u)
      else .error RepositoryError.notFound.toApp
    lift (recordAudit fault 0 actor.id "user.deleted" "user" user [])
    write fault (.statement 1) fun s => .ok (s.queueAuthInvalidation user)

/-- `delete_account`; the session keys are deleted behind the commit. -/
def deleteAccount (actor : AuthUser) : Request Unit := do
  inRequest fault do
    write fault (.statement 0) fun s =>
      .ok (if s.HasUser actor.id fun u => u.deletedAt = none then
        s.updateUser actor.id fun u =>
          if u.deletedAt = none then
            { u with deletedAt := some s.now, disabledAt := some s.now }
          else u
        else s)
    lift (recordAudit fault 0 actor.id "user.self_deleted" "user" actor.id [])
  attempt fault .endSessions (pure ⟨⟩)

/-- `assign_role`; a user that does not exist violates the reference. -/
def assignRole (actor user : Uuid) (role : String) : Request Unit :=
  inRequest fault do
    write fault (.statement 0) fun s =>
      if role ∈ s.roles ∧ ∀ r ∈ s.userRoles, r ≠ (user, role) then
        if s.HasUser user fun _ => True then
          .ok { s with userRoles := s.userRoles ++ [(user, role)] }
        else .error RepositoryError.database.toApp
      else .error RepositoryError.notFound.toApp
    write fault (.statement 1) fun s => .ok (s.updateUser user id)
    lift (recordAudit fault 0 actor "user.role_assigned" "user" user [("role", .text role)])
    write fault (.statement 2) fun s => .ok (s.queueAuthInvalidation user)

/-- `admin_assign_role`. -/
def adminAssignRole (actor : AuthUser) (user : Uuid) (role : String) : Request Unit := do
  lift (check fun _ _ => requirePermission actor .rolesWrite)
  assignRole fault actor.id user role

/-- The count in the transaction of `admin_remove_role`, for the role of the administrators. -/
def countAdmins (role : String) : Request Unit :=
  if role = "admin" then
    attempt fault (.statement 0) (read fun s =>
      if s.adminCount ≤ 1 then
        .error (.badRequest "the final administrator cannot be removed")
      else .ok ⟨⟩)
  else pure ⟨⟩

/-- `admin_remove_role`. -/
def adminRemoveRole (actor : AuthUser) (user : Uuid) (role : String) : Request Unit := do
  lift (check fun _ _ => requirePermission actor .rolesWrite)
  inRequest fault do
    countAdmins fault role
    write fault (.statement 1) fun s =>
      if ∃ r ∈ s.userRoles, r = (user, role) then
        .ok { s with userRoles := s.userRoles.filter fun r => r ≠ (user, role) }
      else .error RepositoryError.notFound.toApp
    write fault (.statement 2) fun s => .ok (s.updateUser user id)
    lift (recordAudit fault 0 actor.id "user.role_removed" "user" user [("role", .text role)])
    write fault (.statement 3) fun s => .ok (s.queueAuthInvalidation user)

/-! ### Reports -/

/-- The channel of `ensure_message_access`. -/
def messageChannel (db : Database) (messageId userId : Uuid) : Except AppError String :=
  match (db.messages.find? fun m => m.id = messageId).bind fun m =>
      db.channels.find? fun c => c.id = m.channelId ∧ c.deletedAt = none ∧
        (c.kind = .pub ∨ Member db c.id userId) with
  | none => .error RepositoryError.notFound.toApp
  | some c => .ok c.name

/-- The check of the reason. -/
def checkReason (reason : String) : Except AppError Unit :=
  if reason = "" ∨ 500 < reason.utf8ByteSize then
    .error (.badRequest "report reason must be 1–500 characters")
  else .ok ⟨⟩

/-- `INSERT INTO message_reports … ON CONFLICT (message_id,reporter_user_id) DO UPDATE … RETURNING
id`. -/
def upsertReport (row : ReportRow) (reports : List ReportRow) :
    Except AppError (List ReportRow × Uuid) :=
  match reports.find? fun r =>
      r.messageId = row.messageId ∧ r.reporterUserId = row.reporterUserId with
  | some r =>
      .ok (reports.map fun r' =>
        if r'.messageId = row.messageId ∧ r'.reporterUserId = row.reporterUserId then
          { r' with reason := row.reason, status := .open, resolvedAt := none, resolvedBy := none }
        else r', r.id)
  | none =>
      if ∃ r ∈ reports, r.id = row.id then .error RepositoryError.database.toApp
      else .ok (reports ++ [row], row.id)

/-- The row of a report. -/
def reportRow (reportId messageId : Uuid) (actor : AuthUser) (reason : String) (now : Millis) :
    ReportRow :=
  { id := reportId, messageId := messageId, reporterUserId := actor.id, reason := reason,
    createdAt := now }

/-- `report_message`. -/
def reportMessage (reportId : Uuid) (actor : AuthUser) (messageId : Uuid) (rawReason : String) :
    Request Unit := do
  let reason := trim rawReason
  lift (check fun _ _ => checkReason reason)
  let name ← lift (ask fault (.query 0) fun db _ => messageChannel db messageId actor.id)
  lift (ask fault (.query 1) fun db now => ensureChannelAccess db now name actor.id)
  let id ← attempt fault (.statement 0) (transact fun s =>
    (upsertReport (reportRow reportId messageId actor reason s.now) s.reports).map fun r =>
      ({ s with reports := r.1 }, r.2))
  lift (recordAuditPool fault actor.id "report.created" "message_report" id
    [("message_id", .id messageId), ("reason", .text reason)])

/-- The actions of `update_message_report`. -/
inductive ReportAction where
  | resolve | reopen
  deriving DecidableEq, Repr

/-- `format!("report.{action}")`. -/
def ReportAction.audit : ReportAction → String
  | .resolve => "report.resolve"
  | .reopen => "report.reopen"

/-- The column `status` it writes. -/
def ReportAction.status : ReportAction → String
  | .resolve => "resolved"
  | .reopen => "open"

/-- The row an action writes. -/
def ReportAction.apply (now : Millis) (actor : Uuid) (r : ReportRow) : ReportAction → ReportRow
  | .resolve => { r with status := .resolved, resolvedAt := some now, resolvedBy := some actor }
  | .reopen => { r with status := .open, resolvedAt := none, resolvedBy := none }

/-- `UPDATE message_reports SET … WHERE id=…`, with the check of `rows_affected`. -/
def applyReport (action : ReportAction) (now : Millis) (actor id : Uuid)
    (reports : List ReportRow) : Except AppError (List ReportRow) :=
  if ∃ r ∈ reports, r.id = id then
    .ok (reports.map fun r => if r.id = id then action.apply now actor r else r)
  else .error RepositoryError.notFound.toApp

/-- `update_message_report`. -/
def updateMessageReport (actor : AuthUser) (id : Uuid) (action : ReportAction) :
    Request Unit := do
  lift (check fun _ _ => requirePermission actor .moderationWrite)
  write fault (.statement 0) fun s =>
    (applyReport action s.now actor.id id s.reports).map fun reports =>
      { s with reports := reports }
  lift (recordAuditPool fault actor.id action.audit "message_report" id
    [("status", .text action.status)])

/-! ### Requests -/

/-- The operations, with the user of the session and the identifiers they draw. -/
inductive Operation where
  | createPublic (channelId notice : Uuid) (actor : AuthUser) (rawName : String)
  | createPrivate (channelId notice : Uuid) (actor : AuthUser) (rawName : String)
  | openDirect (channelId : Uuid) (actor : AuthUser) (target : Uuid)
  | invite (notice : Uuid) (actor : AuthUser) (channel : String) (userId : Uuid)
  | remove (notice : Uuid) (actor : AuthUser) (channel : String) (userId : Uuid)
  | deleteChannel (actor : AuthUser) (rawName : String)
  | leave (notice : Uuid) (actor : AuthUser) (name : String)
  | promote (actor : AuthUser) (name : String) (userId : Uuid)
  | demote (actor : AuthUser) (name : String) (userId : Uuid)
  | transfer (actor : AuthUser) (name : String) (userId : Uuid)
  | adminCreate (channelId notice : Uuid) (actor : AuthUser) (request : ChannelAdminRequest)
  | adminUpdate (actor : AuthUser) (id : Uuid) (request : ChannelAdminRequest)
  | channelState (notice : Uuid) (actor : AuthUser) (id : Uuid) (action : ChannelAction)
  | createBan (banId : Uuid) (actor : AuthUser) (request : BanRequest)
  | revokeBan (actor : AuthUser) (banId : Uuid)
  | moderate (actor : AuthUser) (id : Uuid) (action : Moderation) (reason : Option String)
  | bulkModerate (actor : AuthUser) (ids : List Uuid) (action : Moderation)
      (reason : Option String)
  | setDisabled (actor : AuthUser) (user : Uuid) (disabled : Bool)
  | deleteUser (actor : AuthUser) (user : Uuid)
  | deleteAccount (actor : AuthUser)
  | assignRole (actor : AuthUser) (user : Uuid) (role : String)
  | removeRole (actor : AuthUser) (user : Uuid) (role : String)
  | report (reportId : Uuid) (actor : AuthUser) (messageId : Uuid) (rawReason : String)
  | updateReport (actor : AuthUser) (id : Uuid) (action : ReportAction)
  deriving DecidableEq, Repr

namespace Operation

/-- The request past its session. -/
def body (U : Unicode) : Operation → Request Unit
  | createPublic channelId notice actor rawName =>
      lift (Call.run fault U (.createPublic channelId notice actor rawName))
  | createPrivate channelId notice actor rawName =>
      lift (Call.run fault U (.createPrivate channelId notice actor rawName))
  | openDirect channelId actor target =>
      lift (discard (Failures.openDirect fault channelId actor target))
  | invite notice actor channel userId =>
      lift (Call.run fault U (.invite notice actor channel userId))
  | remove notice actor channel userId =>
      lift (Call.run fault U (.remove notice actor channel userId))
  | deleteChannel actor rawName => lift (Call.run fault U (.delete actor rawName))
  | leave notice actor name => lift (leaveChannel fault notice actor name)
  | promote actor name userId => lift (promoteChannelModerator fault actor name userId)
  | demote actor name userId => lift (demoteChannelModerator fault actor name userId)
  | transfer actor name userId => lift (transferChannelOwnership fault actor name userId)
  | adminCreate channelId notice actor request =>
      lift (adminCreateChannel fault U channelId notice actor request)
  | adminUpdate actor id request => lift (adminUpdateChannel fault U actor id request)
  | channelState notice actor id action => lift (adminChannelState fault notice actor id action)
  | createBan banId actor request => lift (adminCreateBan fault banId actor request)
  | revokeBan actor banId => lift (adminRevokeBan fault actor banId)
  | moderate actor id action reason => lift (adminModerate fault actor id action reason)
  | bulkModerate actor ids action reason => lift (adminBulkModerate fault actor ids action reason)
  | setDisabled actor user disabled => adminSetDisabled fault actor user disabled
  | deleteUser actor user => adminDeleteUser fault actor user
  | deleteAccount actor => Failures.deleteAccount fault actor
  | assignRole actor user role => adminAssignRole fault actor user role
  | removeRole actor user role => adminRemoveRole fault actor user role
  | report reportId actor messageId rawReason =>
      reportMessage fault reportId actor messageId rawReason
  | updateReport actor id action => updateMessageReport fault actor id action

/-- The request: its session is loaded first. -/
def run (U : Unicode) (op : Operation) : Request Unit := do
  attempt fault .session (pure ⟨⟩)
  op.body fault U

end Operation

end Vussa.Failures
