import Vussa.Model.Types

/-!
The PostgreSQL tables of `backend/migrations` that the chat functions read and write, and the
access predicates over them (`api/channels.rs`).

A column that no modelled function reads is left out. A table is the list of its rows; the
defaults of the columns are those of the migrations.

* `Database`, `Database.WellFormed`: the tables and their primary and unique keys;
* `Database.liveChannel?`: the join `c.name = $1 AND c.deleted_at IS NULL`;
* `ChannelAccess`, `ensureChannelAccess`: who may read a channel;
* `ensureNotGloballyBanned`, `ensureChannelPostingAccess`, `ownedPrivateChannel`: the other
  gates of the handlers.
-/

namespace Vussa

/-! ### Tables -/

/-- A row of `users`. -/
structure UserRow where
  id : Uuid
  username : String
  disabledAt : Option Millis := none
  deletedAt : Option Millis := none
  displayName : String := ""
  customStatus : String := ""
  statusExpiresAt : Option ℤ := none
  deriving DecidableEq, Repr

/-- A row of `channels`; `directKey` is the pair of users the text `"{first}:{second}"` names. -/
structure ChannelRow where
  id : Uuid
  name : String
  createdAt : Millis
  deletedAt : Option Millis := none
  kind : ChannelKind := .pub
  ownerUserId : Option Uuid := none
  directKey : Option (Uuid × Uuid) := none
  description : String := ""
  archivedAt : Option Millis := none
  retentionDays : ℕ := 90
  postingRestricted : Bool := false
  deriving DecidableEq, Repr

/-- A row of `channel_members`. -/
structure MemberRow where
  channelId : Uuid
  userId : Uuid
  membershipRole : MembershipRole := .member
  invitedBy : Option Uuid := none
  createdAt : Millis
  deriving DecidableEq, Repr

/-- A row of `user_bans`; no channel means a global ban. -/
structure BanRow where
  id : Uuid
  userId : Uuid
  channelId : Option Uuid := none
  reason : String
  createdBy : Option Uuid := none
  expiresAt : Option ℤ := none
  createdAt : Millis
  revokedAt : Option Millis := none
  revokedBy : Option Uuid := none
  deriving DecidableEq, Repr

/-- A row of `messages`. -/
structure MessageRow where
  id : Uuid
  channelId : Uuid
  username : String
  text : String
  createdAt : Millis
  edited : Bool := false
  ownerSession : Uuid
  ownerUserId : Option Uuid := none
  rootMessageId : Option Uuid := none
  clientId : Option String := none
  metadata : Metadata := .empty
  mentions : List String := []
  deletedAt : Option Millis := none
  deletedBy : Option Uuid := none
  deletionReason : Option String := none
  deriving DecidableEq, Repr

/-- The position of a row in its timeline. -/
def MessageRow.stamp (m : MessageRow) : Stamp := Vussa.stamp m.createdAt m.id

/-- A row of `files`. -/
structure FileRow where
  id : Uuid
  uploaderUserId : Uuid
  deletedAt : Option Millis := none
  deriving DecidableEq, Repr

/-- A row of `message_files`. -/
structure MessageFileRow where
  messageId : Uuid
  fileId : Uuid
  deriving DecidableEq, Repr

/-- A row of `message_reactions`. -/
structure ReactionRow where
  messageId : Uuid
  userId : Uuid
  emoji : String
  createdAt : Millis
  deriving DecidableEq, Repr

/-- A row of `channel_reads`. -/
structure ReadRow where
  userId : Uuid
  channelId : Uuid
  lastReadCreatedAt : ℤ
  lastReadMessageId : Uuid
  updatedAt : Millis
  deriving DecidableEq, Repr

/-- A value in the metadata of an audit row. -/
inductive AuditValue where
  | null
  | id (id : Uuid)
  | text (text : String)
  | flag (flag : Bool)
  deriving DecidableEq, Repr

/-- An identifier, or `null`. -/
def AuditValue.ofId? : Option Uuid → AuditValue
  | some i => .id i
  | none => .null

/-- A text, or `null`. -/
def AuditValue.ofText? : Option String → AuditValue
  | some t => .text t
  | none => .null

/-- A row of `audit_events`; the metadata is the JSON object of these fields. -/
structure AuditRow where
  actor : Option Uuid
  action : String
  targetType : String
  targetId : Uuid
  metadata : List (String × AuditValue) := []
  createdAt : Millis
  deriving DecidableEq, Repr

/-- The tables. -/
structure Database where
  users : List UserRow := []
  channels : List ChannelRow := []
  channelMembers : List MemberRow := []
  userBans : List BanRow := []
  messages : List MessageRow := []
  files : List FileRow := []
  messageFiles : List MessageFileRow := []
  messageReactions : List ReactionRow := []
  channelReads : List ReadRow := []
  auditEvents : List AuditRow := []
  deriving DecidableEq, Repr

/-- The keys the proofs rest on: the primary keys of `channels` and `messages` and the unique
channel name, which deleted channels keep. -/
structure Database.WellFormed (db : Database) : Prop where
  channelId : (db.channels.map ChannelRow.id).Nodup
  channelName : (db.channels.map ChannelRow.name).Nodup
  messageId : (db.messages.map MessageRow.id).Nodup

/-- The keys are a matter of channels and messages. -/
lemma Database.WellFormed.congr {db db' : Database} (hwf : db.WellFormed)
    (hchannels : db'.channels = db.channels) (hmessages : db'.messages = db.messages) :
    db'.WellFormed := by
  refine ⟨?_, ?_, ?_⟩
  · rw [hchannels]
    exact hwf.channelId
  · rw [hchannels]
    exact hwf.channelName
  · rw [hmessages]
    exact hwf.messageId

namespace Database

/-- The row `c.name = name AND c.deleted_at IS NULL`. -/
def liveChannel? (db : Database) (name : String) : Option ChannelRow :=
  db.channels.find? fun c => c.name = name ∧ c.deletedAt = none

lemma liveChannel?_some {db : Database} {name : String} {c : ChannelRow}
    (h : db.liveChannel? name = some c) : c ∈ db.channels ∧ c.name = name ∧ c.deletedAt = none := by
  have hp := List.find?_some h
  simp only [decide_eq_true_eq] at hp
  exact ⟨List.mem_of_find?_eq_some h, hp⟩

/-- A channel is live under one name. -/
lemma liveChannel?_name_unique {db : Database} (hwf : db.WellFormed) {name name' : String}
    {c c' : ChannelRow} (hc : db.liveChannel? name = some c) (hc' : db.liveChannel? name' = some c')
    (hid : c.id = c'.id) : name = name' := by
  obtain ⟨hmem, hname, -⟩ := liveChannel?_some hc
  obtain ⟨hmem', hname', -⟩ := liveChannel?_some hc'
  rw [← hname, ← hname', List.inj_on_of_nodup_map hwf.channelId hmem hmem' hid]

end Database

/-! ### Access -/

/-- `revoked_at IS NULL AND (expires_at IS NULL OR expires_at > now)`. -/
def BanRow.Active (now : Millis) (b : BanRow) : Prop :=
  b.revokedAt = none ∧ ∀ e ∈ b.expiresAt, ((now : ℕ) : ℤ) < e

instance (now : Millis) (b : BanRow) : Decidable (b.Active now) :=
  inferInstanceAs (Decidable (_ ∧ _))

/-- The ban subquery: an active ban of the user, global or for the channel. -/
def Banned (db : Database) (now : Millis) (userId channelId : Uuid) : Prop :=
  ∃ b ∈ db.userBans, b.userId = userId ∧ b.Active now ∧
    (b.channelId = none ∨ b.channelId = some channelId)

instance (db : Database) (now : Millis) (u c : Uuid) : Decidable (Banned db now u c) :=
  inferInstanceAs (Decidable (∃ b ∈ db.userBans, _))

/-- The membership join. -/
def Member (db : Database) (channelId userId : Uuid) : Prop :=
  ∃ cm ∈ db.channelMembers, cm.channelId = channelId ∧ cm.userId = userId

instance (db : Database) (c u : Uuid) : Decidable (Member db c u) :=
  inferInstanceAs (Decidable (∃ cm ∈ db.channelMembers, _))

/-- What the access query asks of one channel row. -/
def ChannelRow.Readable (db : Database) (now : Millis) (userId : Uuid) (c : ChannelRow) : Prop :=
  c.deletedAt = none ∧ (c.kind = .pub ∨ Member db c.id userId) ∧ ¬ Banned db now userId c.id

instance (db : Database) (now : Millis) (u : Uuid) (c : ChannelRow) :
    Decidable (c.Readable db now u) :=
  inferInstanceAs (Decidable (_ ∧ _))

/-- The query of `ensure_channel_access`. -/
def ChannelAccess (db : Database) (now : Millis) (name : String) (userId : Uuid) : Prop :=
  ∃ c ∈ db.channels, c.name = name ∧ c.Readable db now userId

instance (db : Database) (now : Millis) (n : String) (u : Uuid) :
    Decidable (ChannelAccess db now n u) :=
  inferInstanceAs (Decidable (∃ c ∈ db.channels, _))

/-- `ensure_channel_access`. -/
def ensureChannelAccess (db : Database) (now : Millis) (name : String) (userId : Uuid) :
    Except AppError Unit :=
  if ChannelAccess db now name userId then .ok ()
  else .error (.forbidden "conversation access denied")

lemma ensureChannelAccess_eq_ok {db : Database} {now : Millis} {name : String} {user : Uuid} :
    ensureChannelAccess db now name user = .ok () ↔ ChannelAccess db now name user := by
  rw [ensureChannelAccess]
  by_cases h : ChannelAccess db now name user
  · simp [h]
  · simp [h]

/-- The query of `ensure_not_globally_banned`. -/
def GloballyBanned (db : Database) (now : Millis) (userId : Uuid) : Prop :=
  ∃ b ∈ db.userBans, b.userId = userId ∧ b.channelId = none ∧ b.Active now

instance (db : Database) (now : Millis) (u : Uuid) : Decidable (GloballyBanned db now u) :=
  inferInstanceAs (Decidable (∃ b ∈ db.userBans, _))

/-- `ensure_not_globally_banned`. -/
def ensureNotGloballyBanned (db : Database) (now : Millis) (userId : Uuid) :
    Except AppError Unit :=
  if GloballyBanned db now userId then .error (.forbidden "conversation access denied")
  else .ok ()

lemma ensureNotGloballyBanned_eq_ok {db : Database} {now : Millis} {user : Uuid} :
    ensureNotGloballyBanned db now user = .ok () ↔ ¬ GloballyBanned db now user := by
  rw [ensureNotGloballyBanned]
  by_cases h : GloballyBanned db now user
  · simp [h]
  · simp [h]

/-- `ensure_channel_posting_access`. The last query joins on the name alone, without asking that
the channel is live; names are unique, so the row is the one found first. -/
def ensureChannelPostingAccess (db : Database) (name : String) (user : AuthUser) :
    Except AppError Unit :=
  match db.liveChannel? name with
  | none => .error RepositoryError.notFound.toApp
  | some c =>
      let isModerator := Permission.chatModerate ∈ user.permissions
      if c.archivedAt.isSome ∧ ¬ isModerator then
        .error (.forbidden "archived channels are read-only")
      else if ¬ c.postingRestricted ∨ isModerator then .ok ()
      else if ∃ cm ∈ db.channelMembers, cm.userId = user.id ∧
          (cm.membershipRole = .owner ∨ cm.membershipRole = .moderator) ∧
          ∃ c' ∈ db.channels, c'.id = cm.channelId ∧ c'.name = name then .ok ()
      else .error (.forbidden "posting is restricted in this channel")

/-- `owned_private_channel`. -/
def ownedPrivateChannel (db : Database) (name : String) (userId : Uuid) : Except AppError Uuid :=
  match db.channels.find? fun c =>
      c.name = name ∧ c.kind = .priv ∧ c.ownerUserId = some userId ∧ c.deletedAt = none with
  | some c => .ok c.id
  | none => .error (.forbidden "only the private channel owner can manage members")

end Vussa
