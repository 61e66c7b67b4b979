import Mathlib.Tactic
import Mathlib.Data.Prod.Lex

/-!
The vocabulary of the backend: `config.rs`, `error.rs` and `models.rs`.

* `Uuid`, `Millis`, `Cursor`: identifiers, stored instants and the paging cursors a client sends;
* `Stamp`: the position `(created_at, id)` of a message in a timeline, lexicographically ordered,
  the order of `sort_by_key`, of the SQL row comparison and of the cache's sorted sets;
* `AppError`, `RepositoryError`: the errors with their statuses and texts;
* `AuthUser`, `ChatMessage`, `StoredMessage`, `ClientEvent`, `ServerEvent`: the data of
  `models.rs`.
-/

namespace Vussa

/-! ### Identifiers and instants -/

/-- A UUID read as the unsigned 128-bit number of its sixteen bytes, so that the order of numbers
is the byte order of PostgreSQL and of the `uuid` crate. -/
abbrev Uuid := Fin (2 ^ 128)

/-- Literals and membership tests find this instance and the next by name. -/
instance Uuid.neZero : NeZero (2 ^ 128) := inferInstance

instance Uuid.lawfulBEq : LawfulBEq Uuid := inferInstance

/-- `Uuid::nil()`. -/
def Uuid.nil : Uuid := 0

/-- A stored instant in milliseconds: a `bigint` column written from `now_millis`. -/
abbrev Millis := Fin (2 ^ 63)

instance Millis.neZero : NeZero (2 ^ 63) := inferInstance

/-- The `u64` the client sends in a cursor. -/
abbrev U64 := Fin (2 ^ 64)

/-- Rust's `as i64` (and `as isize`) on a `u64`: the same sixty-four bits read with a sign. -/
def asI64 (n : U64) : ℤ := if (n : ℕ) < 2 ^ 63 then (n : ℕ) else (n : ℕ) - 2 ^ 64

lemma asI64_of_lt {n : U64} (h : (n : ℕ) < 2 ^ 63) : asI64 n = (n : ℕ) := if_pos h

/-- From `2 ^ 63` on the cast is negative. -/
lemma asI64_neg {n : U64} (h : ¬ (n : ℕ) < 2 ^ 63) : asI64 n < 0 := by
  have hn := n.isLt
  rw [asI64, if_neg h]
  omega

/-- The position of a message in its timeline. -/
abbrev Stamp := ℤ ×ₗ Uuid

/-- The position of a message created at `t` under the identifier `id`. -/
def stamp (t : Millis) (id : Uuid) : Stamp := toLex (((t : ℕ) : ℤ), id)

/-- The cursor `(before_created_at, before_id)` of a history request. -/
abbrev Cursor := U64 × Uuid

/-- The position the code compares with: both paths cast `before_created_at` to a signed
integer first. -/
def Cursor.cast (c : Cursor) : Stamp := toLex (asI64 c.1, c.2)

/-- The position the cursor denotes. -/
def Cursor.stamp (c : Cursor) : Stamp := toLex (((c.1 : ℕ) : ℤ), c.2)

lemma Cursor.cast_eq_stamp {c : Cursor} (h : (c.1 : ℕ) < 2 ^ 63) : c.cast = c.stamp := by
  rw [Cursor.cast, Cursor.stamp, asI64_of_lt h]

/-- A cursor from `2 ^ 63` on is cast below every stored message. -/
lemma Cursor.cast_lt_of_not_lt {c : Cursor} (h : ¬ (c.1 : ℕ) < 2 ^ 63) (t : Millis) (id : Uuid) :
    c.cast < Vussa.stamp t id := by
  have h1 := asI64_neg h
  have h2 : (0 : ℤ) ≤ ((t : ℕ) : ℤ) := Int.natCast_nonneg _
  exact Prod.Lex.toLex_lt_toLex.mpr (Or.inl (by simp only; omega))

/-- The cursor that names the position of a message, as the client builds it from the oldest
message it holds. -/
def cursorAt (t : Millis) (id : Uuid) : Cursor := (⟨t, by omega⟩, id)

lemma cursorAt_lt (t : Millis) (id : Uuid) : (((cursorAt t id).1 : U64) : ℕ) < 2 ^ 63 := t.isLt

@[simp] lemma cursorAt_stamp (t : Millis) (id : Uuid) :
    (cursorAt t id).stamp = Vussa.stamp t id := rfl

@[simp] lemma cursorAt_cast (t : Millis) (id : Uuid) :
    (cursorAt t id).cast = Vussa.stamp t id := by
  rw [Cursor.cast_eq_stamp (cursorAt_lt t id), cursorAt_stamp]

/-! ### `config.rs` -/

/-- `MAIN_CHANNEL`. -/
def mainChannel : String := "main"

/-- `HISTORY_PAGE_SIZE`. -/
def historyPageSize : ℕ := 50

/-- `HOT_HISTORY_LIMIT`. -/
def hotHistoryLimit : ℕ := 300

/-- The ninety days of `load_messages`, in milliseconds. -/
def historyWindow : ℤ := 90 * 24 * 60 * 60 * 1000

/-! ### `error.rs` -/

/-- The statuses `AppError` is built with. -/
inductive StatusCode where
  | badRequest | unauthorized | forbidden | notFound | internalServerError
  | serviceUnavailable | tooManyRequests
  deriving DecidableEq, Repr

/-- `AppError`. -/
structure AppError where
  status : StatusCode
  message : String
  deriving DecidableEq, Repr

namespace AppError

def badRequest (message : String) : AppError := ⟨.badRequest, message⟩

def unauthorized (message : String) : AppError := ⟨.unauthorized, message⟩

def forbidden (message : String) : AppError := ⟨.forbidden, message⟩

def tooManyRequests (message : String) : AppError := ⟨.tooManyRequests, message⟩

end AppError

/-- `RepositoryError`; the text of a database error is not kept, since no caller reads it. -/
inductive RepositoryError where
  | database | migration | notFound | forbidden
  deriving DecidableEq, Repr

/-- `impl From<RepositoryError> for AppError`. -/
def RepositoryError.toApp : RepositoryError → AppError
  | .notFound => ⟨.notFound, "resource not found"⟩
  | .forbidden => ⟨.forbidden, "operation not permitted"⟩
  | .database => ⟨.internalServerError, "database request failed"⟩
  | .migration => ⟨.internalServerError, "database initialization failed"⟩

/-! ### `models.rs` -/

/-- The permissions `seed_authorization` creates. -/
inductive Permission where
  | chatWrite | chatModerate | usersRead | usersWrite | rolesWrite | auditRead
  | channelsRead | channelsWrite | moderationRead | moderationWrite | operationsRead
  deriving DecidableEq, Repr

/-- `AuthUser`. -/
structure AuthUser where
  id : Uuid
  email : String
  username : String
  roles : List String
  permissions : List Permission
  deriving DecidableEq, Repr

/-- `require_permission`. -/
def requirePermission (user : AuthUser) (permission : Permission) : Except AppError Unit :=
  if permission ∈ user.permissions then .ok () else .error (.forbidden "permission denied")

lemma requirePermission_eq_ok {user : AuthUser} {p : Permission} :
    requirePermission user p = .ok () ↔ p ∈ user.permissions := by
  rw [requirePermission]
  by_cases h : p ∈ user.permissions
  · simp [h]
  · simp [h]

/-- The scopes of `mention_scope`. -/
inductive MentionScope where
  | channel | here
  deriving DecidableEq, Repr

/-- The JSON objects the code writes into the `metadata` column: the object of `SendMessage`, the
one of `create_system_message`, and the empty default. -/
inductive Metadata where
  | empty
  | system
  | chat (rootMessageId : Option Uuid) (fileIds : List Uuid)
      (mentionScope : Option MentionScope) (onlineUserIds : List Uuid)
  deriving DecidableEq, Repr

/-- `ChatMessage`. -/
structure ChatMessage where
  id : Uuid
  channel : String
  username : String
  text : String
  createdAt : Millis
  edited : Bool
  deleted : Bool
  rootMessageId : Option Uuid
  replyCount : ℕ
  metadata : Metadata
  mentions : List String
  clientId : Option String
  fileIds : List Uuid
  deriving DecidableEq, Repr

/-- The sort key `(created_at, id)` of a message. -/
def ChatMessage.stamp (m : ChatMessage) : Stamp := Vussa.stamp m.createdAt m.id

/-- `StoredMessage`, the record the cache keeps; `bitcode` and the JSON text of the metadata are
transparent, so the metadata is kept as a value. -/
structure StoredMessage extends ChatMessage where
  ownerSession : Uuid
  deriving DecidableEq, Repr

/-- `StoredMessage::from_message`. -/
def StoredMessage.fromMessage (message : ChatMessage) (ownerSession : Uuid) : StoredMessage :=
  { message with ownerSession }

/-- `StoredMessage::into_message`. -/
def StoredMessage.intoMessage (record : StoredMessage) : ChatMessage := record.toChatMessage

/-- `ReactionSummary`. -/
structure ReactionSummary where
  messageId : Uuid
  emoji : String
  userIds : List Uuid
  deriving DecidableEq, Repr

/-- The roles of `channel_members_role_check`. -/
inductive MembershipRole where
  | owner | moderator | member
  deriving DecidableEq, Repr

/-- `ChannelMember`. -/
structure ChannelMember where
  userId : Uuid
  username : String
  membershipRole : MembershipRole
  deriving DecidableEq, Repr

/-- The kinds of `channels_kind_check`. -/
inductive ChannelKind where
  | pub | priv | direct
  deriving DecidableEq, Repr

/-- `ConversationSummary`. -/
structure ConversationSummary where
  id : Uuid
  name : String
  kind : ChannelKind
  ownerUserId : Option Uuid
  displayName : String
  peerUserId : Option Uuid
  peerUsername : Option String
  lastMessageAt : Option Millis
  deriving DecidableEq, Repr

/-- `Participant`. -/
structure Participant where
  userId : Uuid
  username : String
  displayName : String
  customStatus : String
  roles : List String
  online : Bool
  deriving DecidableEq, Repr

/-- `HistorySource`. -/
inductive HistorySource where
  | cache | database
  deriving DecidableEq, Repr

/-- `ClientEvent`. -/
inductive ClientEvent where
  | listChannels
  | createChannel (name : String)
  | createPrivateChannel (name : String)
  | openDirect (userId : Uuid)
  | inviteMember (channel : String) (userId : Uuid)
  | removeMember (channel : String) (userId : Uuid)
  | joinChannel (name : String)
  | deleteChannel (name : String)
  | deleteMessage (id : Uuid)
  | addReaction (messageId : Uuid) (emoji : String)
  | removeReaction (messageId : Uuid) (emoji : String)
  | typing (typing : Bool)
  | markRead (messageId : Uuid) (createdAt : U64)
  | sendMessage (text : String) (rootMessageId : Option Uuid) (clientId : Option String)
      (fileIds : List Uuid)
  | editMessage (id : Uuid) (text : String)
  | loadHistory (channel : String) (beforeCreatedAt : U64) (beforeId : Uuid)
  | loadThread (messageId : Uuid) (beforeCreatedAt : Option U64) (beforeId : Option Uuid)
  | heartbeat
  deriving DecidableEq, Repr

/-- `ServerEvent`. -/
inductive ServerEvent where
  | welcome (username : String)
  | channels (channels : List String)
  | privateConversations (conversations : List ConversationSummary)
  | members (channel : String) (members : List ChannelMember)
  | channelCreated (name : String)
  | channelDeleted (name : String)
  | joined (name : String)
  | history (channel : String) (messages : List ChatMessage) (source : HistorySource)
      (hasMore : Bool)
  | historyPage (channel : String) (messages : List ChatMessage) (source : HistorySource)
      (hasMore : Bool)
  | message (message : ChatMessage)
  | messageUpdated (message : ChatMessage)
  | threadHistory (rootMessageId : Uuid) (messages : List ChatMessage) (hasMore : Bool)
  | reactionUpdated (channel : String) (reaction : ReactionSummary)
  | typing (channel : String) (userId : Uuid) (username : String) (typing : Bool)
  | readStateUpdated (channel : String) (userId : Uuid) (messageId : Uuid) (createdAt : U64)
  | error (message : String)
  | participants (channel : String) (participants : List Participant)
  | participantJoined (channel : String) (participant : Participant)
  | participantLeft (channel : String) (userId : Uuid)
  | presenceSync (channel : String) (participants : List Participant)
  deriving DecidableEq, Repr

end Vussa
