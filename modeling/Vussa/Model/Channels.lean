import Vussa.Lib.Effect
import Vussa.Model.Text
import Vussa.Model.Backend

/-!
The services on channels and members (`services.rs`, `api/channels.rs`, `api/members.rs`) and the
administration of channels and bans (`api/admin.rs`), as programs over the state the replicas
share. A transaction is one step; what comes after its commit, the system message and the
broadcasts, are further steps, and an error keeps what was committed. The identifiers a request
draws with `Uuid::now_v7` are its arguments. The audit metadata and the columns only
administration pages show are left out.

* `Shared`, `App`: the shared state and the monad of the handlers;
* `broadcast`, `publishSystemMessage`: publications, kept until a room manager receives them;
* `createPublicChannel`, `createPrivateConversation`, `openDirect`, `inviteMember`,
  `removeMember`, `deleteChannelService`, `leaveChannel`: the services;
* `adminCreateChannel`, `adminUpdateChannel`, `adminChannelState`, `adminCreateBan`,
  `adminRevokeBan`, `adminModerate`: the administration.
-/

namespace Vussa

open Effect

/-! ### The shared state -/

/-- What the replicas share: the backend, the rate counters and the presence sets of Valkey, and
the events published but not yet received. -/
structure Shared extends Backend where
  rates : Uuid → ℕ := fun _ => 0
  presence : String → List Participant := fun _ => []
  published : List (String × ServerEvent) := []

/-- A handler. -/
abbrev App := EStateM AppError Shared

namespace Shared

/-- Replace the tables. -/
def setDb (s : Shared) (db : Database) : Shared := { s with db := db }

@[simp] lemma setDb_db (s : Shared) (db : Database) : (s.setDb db).db = db := rfl

@[simp] lemma setDb_now (s : Shared) (db : Database) : (s.setDb db).now = s.now := rfl

/-- Replace tables, caches and clock. -/
def setBackend (s : Shared) (b : Backend) : Shared := { s with toBackend := b }

end Shared

/-- A check over the tables and the clock. -/
def check (f : Database → Millis → Except AppError Unit) : App Unit :=
  read fun s => f s.db s.now

/-- A transaction on the tables alone. -/
def transaction {α : Type} (f : Database → Millis → Except AppError (Database × α)) : App α :=
  transact fun s => (f s.db s.now).map fun (db, a) => (s.setDb db, a)

/-- An operation of the repository with its cache write. -/
def repository {α : Type} (f : Backend → Except RepositoryError (Backend × α)) : App α :=
  transact fun s =>
    match f s.toBackend with
    | .ok (b, a) => .ok (s.setBackend b, a)
    | .error e => .error e.toApp

section Rules

variable {α β : Type} {s : Shared} {P : Shared → Prop}

lemma after_check_bind {f : Database → Millis → Except AppError Unit} {g : Unit → App β}
    (hs : P s) (h : f s.db s.now = .ok () → P (after (g ()) s)) : P (after (check f >>= g) s) :=
  after_read_bind hs fun _ hok => h hok

lemma after_transaction_bind {f : Database → Millis → Except AppError (Database × α)}
    {g : α → App β} (hs : P s)
    (h : ∀ db' a, f s.db s.now = .ok (db', a) → P (after (g a) (s.setDb db'))) :
    P (after (transaction f >>= g) s) := by
  refine after_transact_bind hs ?_
  intro s' a hok
  obtain ⟨⟨db', a'⟩, hf, hpair⟩ := map_eq_ok hok
  obtain ⟨rfl, rfl⟩ := Prod.mk.inj hpair
  exact h db' a' hf

lemma transaction_run_ok {f : Database → Millis → Except AppError (Database × α)} {s' : Shared}
    {a : α} (h : (transaction f).run s = .ok a s') :
    ∃ db', f s.db s.now = .ok (db', a) ∧ s' = s.setDb db' := by
  have hok := transact_run_ok h
  obtain ⟨⟨db', a'⟩, hf, hpair⟩ := map_eq_ok hok
  obtain ⟨rfl, rfl⟩ := Prod.mk.inj hpair
  exact ⟨db', hf, rfl⟩

lemma after_repository_bind {f : Backend → Except RepositoryError (Backend × α)} {g : α → App β}
    (hs : P s) (h : ∀ b a, f s.toBackend = .ok (b, a) → P (after (g a) (s.setBackend b))) :
    P (after (repository f >>= g) s) := by
  refine after_transact_bind hs ?_
  intro s' a hok
  cases hf : f s.toBackend with
  | error e => simp [hf] at hok
  | ok p =>
      simp only [hf, Except.ok.injEq, Prod.mk.injEq] at hok
      obtain ⟨rfl, rfl⟩ := hok
      exact h p.1 p.2 hf

end Rules

/-- `broadcast`. -/
def broadcast (channel : String) (event : ServerEvent) : App Unit :=
  update fun s => { s with published := s.published ++ [(channel, event)] }

/-- `broadcast_control`. -/
def broadcastControl (event : ServerEvent) : App Unit := broadcast "_control" event

/-- `publish_system_message`. -/
def publishSystemMessage (notice : Uuid) (channel text : String) : App Unit := do
  let message ← repository fun b => b.publishSystemMessage notice channel text
  match message with
  | some message => broadcast channel (.message message)
  | none => pure ⟨⟩

/-- A system message is one more root of a live channel. -/
lemma preserves_publishSystemMessage {P : Shared → Prop} (notice : Uuid) (channel text : String)
    (hpublish : ∀ s events, P s → P { s with published := events })
    (hrow : ∀ s c, P s → s.db.liveChannel? channel = some c →
      (∀ m ∈ s.db.messages, m.id ≠ notice) →
      P (s.setDb { s.db with
        messages := s.db.messages ++ [systemRow c notice s.now text] })) :
    Preserves P (publishSystemMessage notice channel text) := by
  intro s hs
  refine after_repository_bind hs ?_
  intro b message hok
  obtain ⟨db, hsys, rfl⟩ := Backend.publishSystemMessage_ok hok
  have hnew : P (s.setDb db) := by
    rcases createSystemMessage_ok hsys with ⟨-, rfl⟩ | ⟨c, hc, hfresh, rfl⟩
    · exact hs
    · exact hrow s c hs hc hfresh
  cases message with
  | none => exact hnew
  | some m => exact hpublish _ _ hnew

/-- The rank of a membership role in `ORDER BY membership_role DESC`. -/
def MembershipRole.rank : MembershipRole → ℕ
  | .owner => 0
  | .moderator => 1
  | .member => 2

/-- `channel_members`. -/
def channelMembers (db : Database) (name : String) : List ChannelMember :=
  match db.liveChannel? name with
  | none => []
  | some c =>
      let rows := (db.channelMembers.filter fun cm => cm.channelId = c.id).filterMap fun cm =>
        (db.users.find? fun u => u.id = cm.userId).map fun u =>
          { userId := u.id, username := u.username, membershipRole := cm.membershipRole }
      rows.insertionSort fun a b => a.membershipRole.rank < b.membershipRole.rank ∨
        (a.membershipRole = b.membershipRole ∧ a.username ≤ b.username)

/-- `broadcast_members`. -/
def broadcastMembers (channel : String) : App Unit :=
  update fun s => { s with
    published := s.published ++ [(channel, .members channel (channelMembers s.db channel))] }

/-! ### Rows -/

namespace Database

/-- `record_audit`. -/
def recordAudit (db : Database) (actor : Uuid) (action targetType : String) (targetId : Uuid)
    (metadata : List (String × AuditValue)) (now : Millis) : Database :=
  { db with auditEvents := db.auditEvents ++
      [{ actor := some actor, action := action, targetType := targetType, targetId := targetId,
         metadata := metadata, createdAt := now }] }

/-- Update the row of a channel. -/
def updateChannel (db : Database) (id : Uuid) (f : ChannelRow → ChannelRow) : Database :=
  { db with channels := db.channels.map fun c => if c.id = id then f c else c }

/-- `INSERT INTO channels`: the primary key and the unique name. -/
def insertChannel (db : Database) (row : ChannelRow) : Except AppError Database :=
  if ∃ c ∈ db.channels, c.id = row.id ∨ c.name = row.name then
    .error RepositoryError.database.toApp
  else .ok { db with channels := db.channels ++ [row] }

/-- `INSERT INTO channels … ON CONFLICT (name) DO UPDATE SET deleted_at = NULL WHERE
channels.deleted_at IS NOT NULL RETURNING id`: a deleted channel of the name comes back as it
was. -/
def upsertChannel (db : Database) (id : Uuid) (name : String) (now : Millis) :
    Except AppError (Database × Uuid) :=
  match db.channels.find? fun c => c.name = name with
  | none =>
      (db.insertChannel { id := id, name := name, createdAt := now }).map fun db => (db, id)
  | some c =>
      if c.deletedAt = none then .error (.badRequest "channel already exists")
      else .ok (db.updateChannel c.id fun c => { c with deletedAt := none }, c.id)

/-- `INSERT INTO channel_members … ON CONFLICT DO NOTHING`. -/
def addMember (db : Database) (row : MemberRow) : Database :=
  if ∃ cm ∈ db.channelMembers, cm.channelId = row.channelId ∧ cm.userId = row.userId then db
  else { db with channelMembers := db.channelMembers ++ [row] }

/-- `DELETE FROM channel_members` of one user in one channel, among the rows that `p` selects. -/
def removeMembers (db : Database) (channelId userId : Uuid) (p : MemberRow → Bool) : Database :=
  { db with channelMembers := db.channelMembers.filter fun cm =>
      ¬ (cm.channelId = channelId ∧ cm.userId = userId ∧ p cm) }

/-- `INSERT INTO user_bans`. -/
def addBan (db : Database) (row : BanRow) : Database :=
  { db with userBans := db.userBans ++ [row] }

/-- `UPDATE user_bans SET revoked_at … WHERE id=… AND revoked_at IS NULL`. -/
def revokeBan (db : Database) (banId actor : Uuid) (now : Millis) : Database :=
  { db with userBans := db.userBans.map fun b =>
      if b.id = banId ∧ b.revokedAt = none then
        { b with revokedAt := some now, revokedBy := some actor } else b }

/-- A user that is neither disabled nor deleted. -/
def activeUser? (db : Database) (id : Uuid) : Option UserRow :=
  db.users.find? fun u => u.id = id ∧ u.disabledAt = none ∧ u.deletedAt = none

end Database

/-! ### Services -/

/-- `create_public_channel`. -/
def createPublicChannel (U : Unicode) (channelId notice : Uuid) (actor : AuthUser)
    (rawName : String) : App String := do
  check fun _ _ => requirePermission actor .chatWrite
  check fun db now => ensureNotGloballyBanned db now actor.id
  let name ← read fun _ => normalizeChannelName U rawName
  transaction fun db now => (db.upsertChannel channelId name now).map fun (db, id) =>
    (db.recordAudit actor.id "channel.created" "channel" id [] now, ⟨⟩)
  publishSystemMessage notice name (actor.username ++ " created this channel")
  broadcastControl (.channelCreated name)
  return name

/-- The row of a private channel. -/
def privateRow (channelId : Uuid) (actor : AuthUser) (name : String) (now : Millis) : ChannelRow :=
  { id := channelId, name := name, kind := .priv, ownerUserId := some actor.id, createdAt := now }

/-- The transaction of `create_private_conversation`. -/
def insertPrivateChannel (channelId : Uuid) (actor : AuthUser) (name : String) (db : Database)
    (now : Millis) : Except AppError (Database × Unit) :=
  if ∃ c ∈ db.channels, c.name = name then .error (.badRequest "channel already exists")
  else (db.insertChannel (privateRow channelId actor name now)).map fun db =>
    ((db.addMember
      { channelId := channelId, userId := actor.id, membershipRole := .owner,
        invitedBy := some actor.id, createdAt := now }).recordAudit
          actor.id "channel.private_created" "channel" channelId [] now, ⟨⟩)

/-- `create_private_conversation`. -/
def createPrivateConversation (U : Unicode) (channelId notice : Uuid) (actor : AuthUser)
    (rawName : String) : App (Uuid × String) := do
  check fun _ _ => requirePermission actor .chatWrite
  check fun db now => ensureNotGloballyBanned db now actor.id
  let name ← read fun _ => normalizeChannelName U rawName
  transaction (insertPrivateChannel channelId actor name)
  publishSystemMessage notice name (actor.username ++ " created this private channel")
  return (channelId, name)

/-- The conversation of a pair of users, if there is a live one. -/
def Database.directChannel? (db : Database) (key : Uuid × Uuid) : Option ChannelRow :=
  db.channels.find? fun c => c.kind = .direct ∧ c.directKey = some key ∧ c.deletedAt = none

/-- `direct_key`: the two users in their order. -/
def directKey (first second : Uuid) : Uuid × Uuid :=
  if first < second then (first, second) else (second, first)

/-- The two `INSERT INTO channel_members` of `open_direct`. -/
def Database.enroll (db : Database) (channelId : Uuid) (key : Uuid × Uuid) (actor : Uuid)
    (now : Millis) : Database :=
  (db.addMember { channelId := channelId, userId := key.1, invitedBy := some actor,
                  createdAt := now }).addMember
    { channelId := channelId, userId := key.2, invitedBy := some actor, createdAt := now }

/-- The name `open_direct` gives a new conversation. -/
def directName (channelId : Uuid) : String := "dm_" ++ channelId.toText

/-- The transaction of `open_direct`. -/
def insertDirect (channelId : Uuid) (actor : AuthUser) (target : Uuid) (db : Database)
    (now : Millis) : Except AppError (Database × (Uuid × String)) :=
  let key := directKey actor.id target
  match db.directChannel? key with
  | some c => .ok (db.enroll c.id key actor.id now, (c.id, c.name))
  | none =>
      let name := directName channelId
      (db.insertChannel
        { id := channelId, name := name, kind := .direct, directKey := some key,
          createdAt := now }).map fun db =>
        ((db.enroll channelId key actor.id now).recordAudit actor.id "channel.direct_created"
          "channel" channelId [("user_id", .id target)] now, (channelId, name))

/-- `open_direct`. -/
def openDirect (channelId : Uuid) (actor : AuthUser) (target : Uuid) : App (Uuid × String) := do
  check fun _ _ => requirePermission actor .chatWrite
  check fun db now => ensureNotGloballyBanned db now actor.id
  check fun _ _ =>
    if target = actor.id then .error (.badRequest "you cannot message yourself") else .ok ⟨⟩
  check fun db _ =>
    if (db.activeUser? target).isSome then .ok ⟨⟩ else .error RepositoryError.notFound.toApp
  transaction (insertDirect channelId actor target)

/-- The transaction of `invite_member`: the name of the invited user, if the user is new. -/
def insertMember (channelId : Uuid) (actor : AuthUser) (userId : Uuid) (db : Database)
    (now : Millis) : Except AppError (Database × Option String) :=
  match db.activeUser? userId with
  | none => .error RepositoryError.notFound.toApp
  | some target =>
      if Member db channelId userId then .ok (db, none)
      else .ok ((db.addMember
        { channelId := channelId, userId := userId, invitedBy := some actor.id,
          createdAt := now }).recordAudit actor.id "channel.member_added" "channel" channelId
            [("user_id", .id userId)] now,
        some target.username)

/-- `invite_member`. -/
def inviteMember (notice : Uuid) (actor : AuthUser) (channel : String) (userId : Uuid) :
    App Bool := do
  check fun _ _ => requirePermission actor .chatWrite
  let channelId ← read fun s => ownedPrivateChannel s.db channel actor.id
  let target ← transaction (insertMember channelId actor userId)
  match target with
  | none => return false
  | some target =>
      publishSystemMessage notice channel (actor.username ++ " invited " ++ target)
      broadcastMembers channel
      return true

/-- The transaction of `remove_member`: the name of the removed user. -/
def deleteMember (channelId : Uuid) (actor : AuthUser) (userId : Uuid) (db : Database)
    (now : Millis) : Except AppError (Database × String) :=
  if ∃ cm ∈ db.channelMembers, cm.channelId = channelId ∧ cm.userId = userId ∧
      cm.membershipRole ≠ .owner then
    .ok ((db.removeMembers channelId userId fun cm => cm.membershipRole ≠ .owner).recordAudit
      actor.id "channel.member_removed" "channel" channelId [("user_id", .id userId)] now,
      ((db.users.find? fun u => u.id = userId).map UserRow.username).getD "a member")
  else .error RepositoryError.notFound.toApp

/-- `remove_member`. -/
def removeMember (notice : Uuid) (actor : AuthUser) (channel : String) (userId : Uuid) :
    App Unit := do
  check fun _ _ => requirePermission actor .chatWrite
  let channelId ← read fun s => ownedPrivateChannel s.db channel actor.id
  let target ← transaction (deleteMember channelId actor userId)
  publishSystemMessage notice channel (actor.username ++ " removed " ++ target)
  broadcastMembers channel

/-- The transaction of `delete_channel_service`. -/
def deleteChannel (actor : AuthUser) (name : String) (db : Database) (now : Millis) :
    Except AppError (Database × Unit) :=
  match db.liveChannel? name with
  | none => .error RepositoryError.notFound.toApp
  | some c => .ok ((db.updateChannel c.id fun c => { c with deletedAt := some now }).recordAudit
      actor.id "channel.deleted" "channel" c.id [] now, ⟨⟩)

/-- `delete_channel_service`. -/
def deleteChannelService (U : Unicode) (actor : AuthUser) (rawName : String) : App String := do
  check fun _ _ => requirePermission actor .chatModerate
  let name ← read fun _ => normalizeChannelName U rawName
  check fun _ _ =>
    if name = mainChannel then .error (.badRequest "the main channel cannot be removed")
    else .ok ⟨⟩
  transaction (deleteChannel actor name)
  broadcastControl (.channelDeleted name)
  return name

/-- The checks of `leave_channel` and its `DELETE`. -/
def deleteOwnMembership (actor : AuthUser) (name : String) (db : Database) :
    Except AppError (Database × Uuid) :=
  match (db.liveChannel? name).bind fun c =>
      (db.channelMembers.find? fun cm => cm.channelId = c.id ∧ cm.userId = actor.id).map
        fun cm => (c, cm) with
  | none => .error RepositoryError.notFound.toApp
  | some (c, cm) =>
      if c.kind = .pub then .error (.badRequest "public channels do not require leaving")
      else if c.ownerUserId = some actor.id ∨ cm.membershipRole = .owner then
        .error (.badRequest "the channel owner must transfer ownership or delete the channel")
      else .ok (db.removeMembers c.id actor.id fun _ => true, c.id)

/-- `leave_channel`. -/
def leaveChannel (notice : Uuid) (actor : AuthUser) (name : String) : App Unit := do
  check fun _ _ => requirePermission actor .chatWrite
  let channelId ← transaction fun db _ => deleteOwnMembership actor name db
  publishSystemMessage notice name (actor.username ++ " left the conversation")
  broadcastMembers name
  transaction fun db now =>
    .ok (db.recordAudit actor.id "channel.member_left" "channel" channelId
      [("user_id", .id actor.id)] now, ⟨⟩)

/-! ### Administration -/

/-- The fields of `ChannelAdminRequest` that the model keeps. -/
structure ChannelAdminRequest where
  name : Option String := none
  description : Option String := none
  retentionDays : Option ℤ := none
  postingRestricted : Option Bool := none
  deriving DecidableEq, Repr

/-- `validate_retention_days`. -/
def validateRetentionDays (value : Option ℤ) : Except AppError Unit :=
  if ∃ days ∈ value, ¬ (1 ≤ days ∧ days ≤ 3650) then
    .error (.badRequest "retention must be between 1 and 3650 days")
  else .ok ⟨⟩

/-- The columns `UPDATE channels SET …=COALESCE(…)` writes, except for the name. -/
def ChannelRow.configure (request : ChannelAdminRequest) (c : ChannelRow) : ChannelRow :=
  { c with
    description := request.description.getD c.description
    retentionDays := (request.retentionDays.map Int.toNat).getD c.retentionDays
    postingRestricted := request.postingRestricted.getD c.postingRestricted }

/-- `admin_create_channel`. -/
def adminCreateChannel (U : Unicode) (channelId notice : Uuid) (actor : AuthUser)
    (request : ChannelAdminRequest) : App Unit := do
  check fun _ _ => requirePermission actor .channelsWrite
  let name ← read fun _ => normalizeChannelName U (request.name.getD "")
  check fun _ _ =>
    if name = mainChannel then .error (.badRequest "main is reserved") else .ok ⟨⟩
  check fun _ _ => validateRetentionDays request.retentionDays
  let id ← transaction fun db now => db.upsertChannel channelId name now
  transaction fun db now =>
    .ok ((db.updateChannel id (ChannelRow.configure request)).recordAudit actor.id
      "channel.created" "channel" id [] now, ⟨⟩)
  publishSystemMessage notice name (actor.username ++ " created this channel")

/-- The name `admin_update_channel` gives a channel. -/
def ChannelAdminRequest.rename (U : Unicode) (request : ChannelAdminRequest) (c : ChannelRow) :
    Except AppError String :=
  match request.name with
  | none => .ok c.name
  | some raw => normalizeChannelName U raw

/-- The transaction of `admin_update_channel`; a name that another channel has violates the
unique key. -/
def updateChannelRow (U : Unicode) (actor : AuthUser) (id : Uuid) (request : ChannelAdminRequest)
    (db : Database) (now : Millis) : Except AppError (Database × Unit) :=
  match db.channels.find? fun c => c.id = id ∧ c.deletedAt = none with
  | none => .error RepositoryError.notFound.toApp
  | some c => do
      let name ← request.rename U c
      if request.name.isSome ∧ c.name = mainChannel ∧ name ≠ mainChannel then
        .error (.badRequest "main cannot be renamed")
      else do
        validateRetentionDays request.retentionDays
        if ∃ c' ∈ db.channels, c'.name = name ∧ c'.id ≠ id then
          .error RepositoryError.database.toApp
        else .ok ((db.updateChannel id fun c => { c.configure request with name := name }).recordAudit
          actor.id "channel.updated" "channel" id [] now, ⟨⟩)

/-- `admin_update_channel`. -/
def adminUpdateChannel (U : Unicode) (actor : AuthUser) (id : Uuid)
    (request : ChannelAdminRequest) : App Unit := do
  check fun _ _ => requirePermission actor .channelsWrite
  transaction (updateChannelRow U actor id request)

/-- The actions of `admin_channel_state`. -/
inductive ChannelAction where
  | archive | restore | delete | undelete
  deriving DecidableEq, Repr

/-- The row an action writes. -/
def ChannelAction.apply (now : Millis) (c : ChannelRow) : ChannelAction → ChannelRow
  | .archive => { c with archivedAt := some (c.archivedAt.getD now) }
  | .restore => { c with archivedAt := none }
  | .delete => { c with deletedAt := some (c.deletedAt.getD now) }
  | .undelete => { c with deletedAt := none }

/-- `format!("channel.{action}")`. -/
def ChannelAction.audit : ChannelAction → String
  | .archive => "channel.archive"
  | .restore => "channel.restore"
  | .delete => "channel.delete"
  | .undelete => "channel.undelete"

/-- The transaction of `admin_channel_state`: the name of the channel. -/
def setChannelState (actor : AuthUser) (id : Uuid) (action : ChannelAction) (db : Database)
    (now : Millis) : Except AppError (Database × String) :=
  match db.channels.find? fun c => c.id = id with
  | none => .error RepositoryError.notFound.toApp
  | some c =>
      if c.name = mainChannel then .error (.badRequest "main cannot be changed")
      else .ok ((db.updateChannel id fun c => action.apply now c).recordAudit actor.id action.audit
        "channel" id [] now, c.name)

/-- `admin_channel_state`. -/
def adminChannelState (notice : Uuid) (actor : AuthUser) (id : Uuid) (action : ChannelAction) :
    App Unit := do
  check fun _ _ => requirePermission actor .channelsWrite
  let name ← transaction (setChannelState actor id action)
  match action with
  | .archive =>
      publishSystemMessage notice name "This channel was archived and is now read-only"
  | .restore => publishSystemMessage notice name "This channel was restored"
  | _ => pure ⟨⟩

/-- `BanRequest`. -/
structure BanRequest where
  userId : Uuid
  channel : Option String := none
  reason : String
  expiresAt : Option ℤ := none
  deriving DecidableEq, Repr

/-- The checks of `admin_create_ban` and its `INSERT`. -/
def insertBan (banId : Uuid) (actor : AuthUser) (request : BanRequest) (db : Database)
    (now : Millis) : Except AppError (Database × Unit) :=
  let reason := trim request.reason
  if reason = "" ∨ 500 < reason.utf8ByteSize then
    .error (.badRequest "ban reason must be 1–500 characters")
  else if ∃ e ∈ request.expiresAt, e ≤ ((now : ℕ) : ℤ) then
    .error (.badRequest "ban expiry must be in the future")
  else if ¬ ∃ u ∈ db.users, u.id = request.userId ∧ u.deletedAt = none then
    .error RepositoryError.notFound.toApp
  else
    match request.channel.map db.liveChannel? with
    | some none => .error RepositoryError.notFound.toApp
    | channel =>
        if ∃ b ∈ db.userBans, b.id = banId then .error RepositoryError.database.toApp
        else .ok ((db.addBan
          { id := banId, userId := request.userId, channelId := channel.join.map ChannelRow.id,
            reason := reason, createdBy := some actor.id, expiresAt := request.expiresAt,
            createdAt := now }).recordAudit actor.id "user.banned" "user" request.userId
              [("reason", .text reason), ("channel_id", .ofId? (channel.join.map ChannelRow.id))]
              now, ⟨⟩)

/-- `admin_create_ban`. -/
def adminCreateBan (banId : Uuid) (actor : AuthUser) (request : BanRequest) : App Unit := do
  check fun _ _ => requirePermission actor .moderationWrite
  transaction (insertBan banId actor request)

/-- The transaction of `admin_revoke_ban`. -/
def updateBan (actor : AuthUser) (banId : Uuid) (db : Database) (now : Millis) :
    Except AppError (Database × Unit) :=
  match db.userBans.find? fun b => b.id = banId ∧ b.revokedAt = none with
  | none => .error RepositoryError.notFound.toApp
  | some b =>
      .ok ((db.revokeBan banId actor.id now).recordAudit actor.id "user.ban_revoked" "user" b.userId
        [("ban_id", .id banId)] now, ⟨⟩)

/-- `admin_revoke_ban`. -/
def adminRevokeBan (actor : AuthUser) (banId : Uuid) : App Unit := do
  check fun _ _ => requirePermission actor .moderationWrite
  transaction (updateBan actor banId)

/-- `admin_moderate_message`. -/
def adminModerate (actor : AuthUser) (id : Uuid) (action : Moderation) (reason : Option String) :
    App Unit := do
  check fun _ _ => requirePermission actor .moderationWrite
  let message ← repository fun b => b.moderateMessage actor.id id action reason
  match message with
  | some message => broadcast message.channel (.messageUpdated message)
  | none => pure ⟨⟩

/-! ### What the rows keep -/

namespace Database

section RecordAudit

variable (db : Database) (actor : Uuid) (action targetType : String) (target : Uuid)
  (metadata : List (String × AuditValue)) (now : Millis)

@[simp] lemma recordAudit_channels :
    (db.recordAudit actor action targetType target metadata now).channels = db.channels := rfl

@[simp] lemma recordAudit_channelMembers :
    (db.recordAudit actor action targetType target metadata now).channelMembers =
      db.channelMembers := rfl

@[simp] lemma recordAudit_userBans :
    (db.recordAudit actor action targetType target metadata now).userBans = db.userBans := rfl

@[simp] lemma recordAudit_messages :
    (db.recordAudit actor action targetType target metadata now).messages = db.messages := rfl

@[simp] lemma length_recordAudit :
    (db.recordAudit actor action targetType target metadata now).auditEvents.length
      = db.auditEvents.length + 1 := by
  rw [recordAudit, List.length_append, List.length_singleton]

end RecordAudit

/-- A new membership row touches nothing but its table. -/
lemma addMember_eq (db : Database) (row : MemberRow) :
    db.addMember row = { db with channelMembers := (db.addMember row).channelMembers } := by
  rw [addMember]
  split <;> rfl

@[simp] lemma addMember_channels (db : Database) (row : MemberRow) :
    (db.addMember row).channels = db.channels := by rw [addMember_eq]

@[simp] lemma addMember_userBans (db : Database) (row : MemberRow) :
    (db.addMember row).userBans = db.userBans := by rw [addMember_eq]

@[simp] lemma addMember_messages (db : Database) (row : MemberRow) :
    (db.addMember row).messages = db.messages := by rw [addMember_eq]

@[simp] lemma addMember_auditEvents (db : Database) (row : MemberRow) :
    (db.addMember row).auditEvents = db.auditEvents := by rw [addMember_eq]

/-- After the insert the row, or one with its key, is there. -/
lemma mem_addMember {db : Database} {row cm : MemberRow} (h : cm ∈ db.channelMembers) :
    cm ∈ (db.addMember row).channelMembers := by
  rw [addMember]
  split
  · exact h
  · exact List.mem_append_left _ h

lemma member_addMember (db : Database) (row : MemberRow) :
    Member (db.addMember row) row.channelId row.userId := by
  rw [addMember]
  split
  · rename_i hold
    exact hold
  · exact ⟨row, List.mem_append_right _ (List.mem_singleton_self _), rfl, rfl⟩

lemma insertChannel_ok {db db' : Database} {row : ChannelRow} (h : db.insertChannel row = .ok db') :
    (∀ c ∈ db.channels, c.id ≠ row.id ∧ c.name ≠ row.name) ∧
      db' = { db with channels := db.channels ++ [row] } := by
  rw [insertChannel] at h
  by_cases hkey : ∃ c ∈ db.channels, c.id = row.id ∨ c.name = row.name
  · rw [if_pos hkey] at h
    exact absurd h (by simp)
  · rw [if_neg hkey, Except.ok.injEq] at h
    refine ⟨fun c hc => ?_, h.symm⟩
    exact ⟨fun hid => hkey ⟨c, hc, Or.inl hid⟩, fun hname => hkey ⟨c, hc, Or.inr hname⟩⟩

/-- The upsert of a channel: a new public row, or a deleted row of the name brought back. -/
lemma upsertChannel_ok {db db' : Database} {id id' : Uuid} {name : String} {now : Millis}
    (h : db.upsertChannel id name now = .ok (db', id')) :
    (id' = id ∧ (∀ c ∈ db.channels, c.id ≠ id ∧ c.name ≠ name) ∧
      db' = { db with channels := db.channels ++ [{ id := id, name := name, createdAt := now }] }) ∨
    ∃ c ∈ db.channels, c.name = name ∧ c.deletedAt ≠ none ∧ id' = c.id ∧
      db' = db.updateChannel c.id fun c => { c with deletedAt := none } := by
  rw [upsertChannel] at h
  cases hfind : db.channels.find? fun c => c.name = name with
  | none =>
      simp only [hfind] at h
      obtain ⟨db1, hins, hpair⟩ := map_eq_ok h
      obtain ⟨hfresh, rfl⟩ := insertChannel_ok hins
      obtain ⟨hdb, hid⟩ := Prod.mk.inj hpair
      exact Or.inl ⟨hid.symm, hfresh, hdb.symm⟩
  | some c =>
      simp only [hfind] at h
      by_cases hdel : c.deletedAt = none
      · rw [if_pos hdel] at h
        exact absurd h (by simp)
      · rw [if_neg hdel, Except.ok.injEq, Prod.mk.injEq] at h
        have hname := List.find?_some hfind
        exact Or.inr ⟨c, List.mem_of_find?_eq_some hfind, of_decide_eq_true hname, hdel, h.2.symm,
          h.1.symm⟩

end Database

/-! ### What the transactions do -/

lemma insertPrivateChannel_ok {channelId : Uuid} {actor : AuthUser} {name : String}
    {db db' : Database} {now : Millis} {u : Unit}
    (h : insertPrivateChannel channelId actor name db now = .ok (db', u)) :
    (∀ c ∈ db.channels, c.id ≠ channelId ∧ c.name ≠ name) ∧
      db' = (Database.addMember
        { db with channels := db.channels ++ [privateRow channelId actor name now] }
        { channelId := channelId, userId := actor.id, membershipRole := .owner,
          invitedBy := some actor.id, createdAt := now }).recordAudit
            actor.id "channel.private_created" "channel" channelId [] now := by
  rw [insertPrivateChannel] at h
  split at h
  · exact absurd h (by simp)
  · obtain ⟨db1, hins, hpair⟩ := map_eq_ok h
    obtain ⟨hfresh, rfl⟩ := Database.insertChannel_ok hins
    exact ⟨hfresh, (Prod.mk.inj hpair).1.symm⟩

@[simp] lemma Database.enroll_channels (db : Database) (id : Uuid) (key : Uuid × Uuid)
    (actor : Uuid) (now : Millis) : (db.enroll id key actor now).channels = db.channels := by
  rw [enroll, addMember_channels, addMember_channels]

@[simp] lemma Database.enroll_userBans (db : Database) (id : Uuid) (key : Uuid × Uuid)
    (actor : Uuid) (now : Millis) : (db.enroll id key actor now).userBans = db.userBans := by
  rw [enroll, addMember_userBans, addMember_userBans]

@[simp] lemma Database.enroll_messages (db : Database) (id : Uuid) (key : Uuid × Uuid)
    (actor : Uuid) (now : Millis) : (db.enroll id key actor now).messages = db.messages := by
  rw [enroll, addMember_messages, addMember_messages]

lemma Database.mem_enroll (db : Database) (id : Uuid) (key : Uuid × Uuid) (actor : Uuid)
    (now : Millis) {cm : MemberRow} (h : cm ∈ db.channelMembers) :
    cm ∈ (db.enroll id key actor now).channelMembers :=
  mem_addMember (mem_addMember h)

/-- Both users of the key are members afterwards. -/
lemma Database.member_enroll (db : Database) (id : Uuid) (key : Uuid × Uuid) (actor : Uuid)
    (now : Millis) {user : Uuid} (h : user = key.1 ∨ user = key.2) :
    Member (db.enroll id key actor now) id user := by
  rcases h with rfl | rfl
  · obtain ⟨cm, hcm, hkey⟩ := db.member_addMember
      { channelId := id, userId := key.1, invitedBy := some actor, createdAt := now }
    exact ⟨cm, mem_addMember hcm, hkey⟩
  · exact member_addMember _
      { channelId := id, userId := key.2, invitedBy := some actor, createdAt := now }

lemma mem_directKey (first second : Uuid) :
    first = (directKey first second).1 ∨ first = (directKey first second).2 := by
  rw [directKey]
  split
  · exact Or.inl rfl
  · exact Or.inr rfl

/-- A direct conversation: the live one of the pair, or a new one, with both users enrolled. -/
lemma insertDirect_ok {channelId : Uuid} {actor : AuthUser} {target : Uuid} {db db' : Database}
    {now : Millis} {r : Uuid × String}
    (h : insertDirect channelId actor target db now = .ok (db', r)) :
    ∃ c, r = (c.id, c.name) ∧ c.deletedAt = none ∧ c.kind = .direct ∧
      ((c ∈ db.channels ∧ db' = db.enroll c.id (directKey actor.id target) actor.id now) ∨
        (c.id = channelId ∧ c.name = directName channelId ∧
          (∀ c' ∈ db.channels, c'.id ≠ c.id ∧ c'.name ≠ c.name) ∧
          db' = (Database.enroll { db with channels := db.channels ++ [c] } c.id
            (directKey actor.id target) actor.id now).recordAudit actor.id
              "channel.direct_created" "channel" c.id [("user_id", .id target)] now)) := by
  rw [insertDirect] at h
  cases hfind : db.directChannel? (directKey actor.id target) with
  | some c =>
      simp only [hfind, Except.ok.injEq, Prod.mk.injEq] at h
      have hp := List.find?_some hfind
      simp only [decide_eq_true_eq] at hp
      exact ⟨c, h.2.symm, hp.2.2, hp.1, Or.inl ⟨List.mem_of_find?_eq_some hfind, h.1.symm⟩⟩
  | none =>
      simp only [hfind] at h
      obtain ⟨db1, hins, hpair⟩ := map_eq_ok h
      obtain ⟨hfresh, rfl⟩ := Database.insertChannel_ok hins
      obtain ⟨hdb, hrow⟩ := Prod.mk.inj hpair
      exact ⟨_, hrow.symm, rfl, rfl, Or.inr ⟨rfl, rfl, hfresh, hdb.symm⟩⟩

/-- An invitation: nothing for a member, else one more row. -/
lemma insertMember_ok {channelId : Uuid} {actor : AuthUser} {userId : Uuid} {db db' : Database}
    {now : Millis} {r : Option String}
    (h : insertMember channelId actor userId db now = .ok (db', r)) :
    (r = none ∧ db' = db) ∨
    (r.isSome ∧ db' = (db.addMember
      { channelId := channelId, userId := userId, invitedBy := some actor.id,
        createdAt := now }).recordAudit actor.id "channel.member_added" "channel" channelId
          [("user_id", .id userId)] now) := by
  rw [insertMember] at h
  cases hfind : db.activeUser? userId with
  | none =>
      rw [hfind] at h
      exact absurd h (by simp)
  | some target =>
      simp only [hfind] at h
      split at h
      · rw [Except.ok.injEq, Prod.mk.injEq] at h
        exact Or.inl ⟨h.2.symm, h.1.symm⟩
      · rw [Except.ok.injEq, Prod.mk.injEq] at h
        exact Or.inr ⟨by rw [← h.2]; rfl, h.1.symm⟩

lemma deleteMember_ok {channelId : Uuid} {actor : AuthUser} {userId : Uuid} {db db' : Database}
    {now : Millis} {r : String} (h : deleteMember channelId actor userId db now = .ok (db', r)) :
    db' = (db.removeMembers channelId userId fun cm => cm.membershipRole ≠ .owner).recordAudit
      actor.id "channel.member_removed" "channel" channelId [("user_id", .id userId)] now := by
  rw [deleteMember] at h
  split at h
  · rw [Except.ok.injEq, Prod.mk.injEq] at h
    exact h.1.symm
  · exact absurd h (by simp)

lemma deleteChannel_ok {actor : AuthUser} {name : String} {db db' : Database} {now : Millis}
    {u : Unit} (h : deleteChannel actor name db now = .ok (db', u)) :
    ∃ c, db.liveChannel? name = some c ∧
      db' = (db.updateChannel c.id fun c => { c with deletedAt := some now }).recordAudit
        actor.id "channel.deleted" "channel" c.id [] now := by
  rw [deleteChannel] at h
  cases hc : db.liveChannel? name with
  | none =>
      rw [hc] at h
      exact absurd h (by simp)
  | some c =>
      simp only [hc, Except.ok.injEq, Prod.mk.injEq] at h
      exact ⟨c, rfl, h.1.symm⟩

lemma deleteOwnMembership_ok {actor : AuthUser} {name : String} {db db' : Database} {id : Uuid}
    (h : deleteOwnMembership actor name db = .ok (db', id)) :
    ∃ c, db.liveChannel? name = some c ∧ c.kind ≠ .pub ∧ id = c.id ∧
      db' = db.removeMembers c.id actor.id fun _ => true := by
  rw [deleteOwnMembership] at h
  cases hfind : (db.liveChannel? name).bind fun c =>
      (db.channelMembers.find? fun cm => cm.channelId = c.id ∧ cm.userId = actor.id).map
        fun cm => (c, cm) with
  | none =>
      simp only [hfind] at h
      exact absurd h (by simp)
  | some p =>
      obtain ⟨c, cm⟩ := p
      simp only [hfind] at h
      obtain ⟨c', hc', hcm⟩ := Option.bind_eq_some_iff.mp hfind
      obtain ⟨cm', -, heq⟩ := Option.map_eq_some_iff.mp hcm
      rw [Prod.mk.injEq] at heq
      split at h
      · exact absurd h (by simp)
      · rename_i hkind
        split at h
        · exact absurd h (by simp)
        · rw [Except.ok.injEq, Prod.mk.injEq] at h
          exact ⟨c, heq.1 ▸ hc', hkind, h.2.symm, h.1.symm⟩

/-- An update of a channel: the live row of the identifier gets its columns and a name that no
other row has; the main channel keeps its name. -/
lemma updateChannelRow_ok {U : Unicode} {actor : AuthUser} {id : Uuid}
    {request : ChannelAdminRequest} {db db' : Database} {now : Millis} {u : Unit}
    (h : updateChannelRow U actor id request db now = .ok (db', u)) :
    ∃ c name, c ∈ db.channels ∧ c.id = id ∧ c.deletedAt = none ∧
      request.rename U c = .ok name ∧
      (∀ c' ∈ db.channels, c'.name = name → c'.id = id) ∧
      db' = (db.updateChannel id fun c => { c.configure request with name := name }).recordAudit
        actor.id "channel.updated" "channel" id [] now := by
  rw [updateChannelRow] at h
  cases hfind : db.channels.find? fun c => c.id = id ∧ c.deletedAt = none with
  | none =>
      rw [hfind] at h
      exact absurd h (by simp)
  | some c =>
      have hp := List.find?_some hfind
      simp only [decide_eq_true_eq] at hp
      simp only [hfind] at h
      obtain ⟨name, hname, h⟩ := bind_eq_ok h
      split at h
      · exact absurd h (by simp)
      · obtain ⟨-, -, h⟩ := bind_eq_ok h
        split at h
        · exact absurd h (by simp)
        · rename_i hunique
          rw [Except.ok.injEq, Prod.mk.injEq] at h
          refine ⟨c, name, List.mem_of_find?_eq_some hfind, hp.1, hp.2, hname, ?_, h.1.symm⟩
          intro c' hc' hname'
          by_contra hne
          exact hunique ⟨c', hc', hname', hne⟩

lemma setChannelState_ok {actor : AuthUser} {id : Uuid} {action : ChannelAction}
    {db db' : Database} {now : Millis} {r : String}
    (h : setChannelState actor id action db now = .ok (db', r)) :
    db' = (db.updateChannel id fun c => action.apply now c).recordAudit actor.id action.audit
      "channel" id [] now := by
  rw [setChannelState] at h
  split at h
  · exact absurd h (by simp)
  · split at h
    · exact absurd h (by simp)
    · rw [Except.ok.injEq, Prod.mk.injEq] at h
      exact h.1.symm

/-- A ban: one more row, global or for a live channel. -/
lemma insertBan_ok {banId : Uuid} {actor : AuthUser} {request : BanRequest} {db db' : Database}
    {now : Millis} {u : Unit} (h : insertBan banId actor request db now = .ok (db', u)) :
    ∃ row : BanRow, row.userId = request.userId ∧
      (request.channel = none ∧ row.channelId = none ∨
        ∃ name c, request.channel = some name ∧ db.liveChannel? name = some c ∧
          row.channelId = some c.id) ∧
      db' = (db.addBan row).recordAudit actor.id "user.banned" "user" request.userId
        [("reason", .text row.reason), ("channel_id", .ofId? row.channelId)] now := by
  rw [insertBan] at h
  split at h
  · exact absurd h (by simp)
  · split at h
    · exact absurd h (by simp)
    · split at h
      · exact absurd h (by simp)
      · cases hchannel : request.channel with
        | none =>
            simp only [hchannel, Option.map_none] at h
            split at h
            · exact absurd h (by simp)
            · rw [Except.ok.injEq, Prod.mk.injEq] at h
              exact ⟨_, rfl, Or.inl ⟨rfl, rfl⟩, h.1.symm⟩
        | some name =>
            cases hc : db.liveChannel? name with
            | none =>
                simp only [hchannel, Option.map_some, hc] at h
                exact absurd h (by simp)
            | some c =>
                simp only [hchannel, Option.map_some, hc] at h
                split at h
                · exact absurd h (by simp)
                · rw [Except.ok.injEq, Prod.mk.injEq] at h
                  exact ⟨_, rfl, Or.inr ⟨name, c, rfl, hc, rfl⟩, h.1.symm⟩

lemma updateBan_ok {actor : AuthUser} {banId : Uuid} {db db' : Database} {now : Millis}
    {u : Unit} (h : updateBan actor banId db now = .ok (db', u)) :
    ∃ target, db' = (db.revokeBan banId actor.id now).recordAudit actor.id "user.ban_revoked"
      "user" target [("ban_id", .id banId)] now := by
  rw [updateBan] at h
  split at h
  · exact absurd h (by simp)
  · rw [Except.ok.injEq, Prod.mk.injEq] at h
    exact ⟨_, h.1.symm⟩

lemma ChannelAction.apply_id (now : Millis) (action : ChannelAction) (c : ChannelRow) :
    (action.apply now c).id = c.id := by
  cases action with
  | archive => rfl
  | restore => rfl
  | delete => rfl
  | undelete => rfl

lemma ChannelAction.apply_name (now : Millis) (action : ChannelAction) (c : ChannelRow) :
    (action.apply now c).name = c.name := by
  cases action with
  | archive => rfl
  | restore => rfl
  | delete => rfl
  | undelete => rfl

lemma ChannelAction.apply_kind (now : Millis) (action : ChannelAction) (c : ChannelRow) :
    (action.apply now c).kind = c.kind := by
  cases action with
  | archive => rfl
  | restore => rfl
  | delete => rfl
  | undelete => rfl

/-! ### The tables stay well-formed -/

lemma wellFormed_insertChannel {db : Database} (hwf : db.WellFormed) (row : ChannelRow)
    (hfresh : ∀ c ∈ db.channels, c.id ≠ row.id ∧ c.name ≠ row.name) :
    Database.WellFormed { db with channels := db.channels ++ [row] } := by
  have happend : ∀ {α : Type} (key : ChannelRow → α), (db.channels.map key).Nodup →
      (∀ c ∈ db.channels, key c ≠ key row) → ((db.channels ++ [row]).map key).Nodup := by
    intro α key hnodup hne
    rw [List.map_append, List.map_singleton, List.nodup_append]
    refine ⟨hnodup, List.nodup_singleton _, ?_⟩
    intro a ha b hb hab
    obtain ⟨c, hc, rfl⟩ := List.mem_map.mp ha
    rw [List.mem_singleton] at hb
    exact hne c hc (hab.trans hb)
  exact ⟨happend ChannelRow.id hwf.channelId fun c hc => (hfresh c hc).1,
    happend ChannelRow.name hwf.channelName fun c hc => (hfresh c hc).2, hwf.messageId⟩

/-- A changed row keeps its identifier, and no other row has its name. -/
lemma wellFormed_updateChannel {db : Database} (hwf : db.WellFormed) {id : Uuid}
    {f : ChannelRow → ChannelRow} (hid : ∀ c, (f c).id = c.id)
    (hunique : ∀ c ∈ db.channels, c.id = id → ∀ c' ∈ db.channels, c'.name = (f c).name →
      c'.id = id) : (db.updateChannel id f).WellFormed := by
  refine ⟨?_, ?_, hwf.messageId⟩
  · have hids : (db.updateChannel id f).channels.map ChannelRow.id
        = db.channels.map ChannelRow.id := by
      rw [Database.updateChannel, List.map_map]
      refine List.map_congr_left fun c _ => ?_
      by_cases hc : c.id = id
      · simp [hc, hid]
      · simp [hc]
    rw [hids]
    exact hwf.channelId
  · rw [Database.updateChannel, List.map_map]
    refine List.Nodup.map_on ?_ (List.Nodup.of_map _ hwf.channelId)
    intro c hc c' hc' heq
    simp only [Function.comp_apply] at heq
    by_cases h1 : c.id = id
    · by_cases h2 : c'.id = id
      · exact List.inj_on_of_nodup_map hwf.channelId hc hc' (h1.trans h2.symm)
      · rw [if_pos h1, if_neg h2] at heq
        exact absurd (hunique c hc h1 c' hc' heq.symm) h2
    · by_cases h2 : c'.id = id
      · rw [if_neg h1, if_pos h2] at heq
        exact absurd (hunique c' hc' h2 c hc heq) h1
      · rw [if_neg h1, if_neg h2] at heq
        exact List.inj_on_of_nodup_map hwf.channelName hc hc' heq

end Vussa
