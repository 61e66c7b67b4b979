import Vussa.Lib.Codec
import Vussa.Model.Identifiers

/-!
The JSON of `models.rs`, as `serde` derives it: the events on the sockets and on the topics of
Valkey, the participants of the presence keys and the users of the session keys. The form of a
record as an array, which `serde` also reads, is left out. The texts of enumerations that the code
keeps as strings are those that the checks of the tables allow; a `u64` that comes from a `bigint`
column is read as one.

* `uuidCodec`, `metadataCodec`, `ChatMessage.codec`, …: the codecs of the parts;
* `ServerEvent.codec`, `ServerEvent.payload`: the events of the server and their texts;
* `ClientEvent.ofText`: `serde_json::from_str` on a frame of a client;
* `ServerEvent.exact`: **an event comes back from its JSON**;
* `ClientEvent.read_append`: further fields of a frame are ignored.
-/

namespace Vussa

open Json (Value Codec required optional defaulted)

/-- The fields of a JSON object. -/
abbrev Fields := List (String × Value)

/-- The levels of arrays and objects `serde_json` enters. -/
def jsonLimit : ℕ := 127

/-! ### Parts -/

/-- `Uuid`: its text. -/
def uuidCodec : Codec Uuid := Codec.string.via Uuid.toText Uuid.parseStr

/-- `u64`. -/
def u64Codec : Codec U64 := Codec.fin (2 ^ 64)

/-- A stored instant. -/
def millisCodec : Codec Millis := Codec.fin (2 ^ 63)

/-- `u32`. -/
def u32Codec : Codec ℕ := Codec.below (2 ^ 32)

/-- The texts of `channel_members_role_check`. -/
def MembershipRole.toText : MembershipRole → String
  | .owner => "owner"
  | .moderator => "moderator"
  | .member => "member"

def roleCodec : Codec MembershipRole := Codec.enum [.owner, .moderator, .member] MembershipRole.toText

/-- The texts of `channels_kind_check`. -/
def ChannelKind.toText : ChannelKind → String
  | .pub => "public"
  | .priv => "private"
  | .direct => "direct"

def kindCodec : Codec ChannelKind := Codec.enum [.pub, .priv, .direct] ChannelKind.toText

/-- `rename_all = "snake_case"` on `HistorySource`. -/
def HistorySource.toText : HistorySource → String
  | .cache => "cache"
  | .database => "database"

def sourceCodec : Codec HistorySource := Codec.enum [.cache, .database] HistorySource.toText

/-- The texts of `mention_scope`. -/
def MentionScope.toText : MentionScope → String
  | .channel => "channel"
  | .here => "here"

def scopeCodec : Codec MentionScope := Codec.enum [.channel, .here] MentionScope.toText

/-- The permission strings. -/
def Permission.toText : Permission → String
  | .chatWrite => "chat:write"
  | .chatModerate => "chat:moderate"
  | .usersRead => "users:read"
  | .usersWrite => "users:write"
  | .rolesWrite => "roles:write"
  | .auditRead => "audit:read"
  | .channelsRead => "channels:read"
  | .channelsWrite => "channels:write"
  | .moderationRead => "moderation:read"
  | .moderationWrite => "moderation:write"
  | .operationsRead => "operations:read"

def permissionCodec : Codec Permission :=
  Codec.enum [.chatWrite, .chatModerate, .usersRead, .usersWrite, .rolesWrite, .auditRead,
    .channelsRead, .channelsWrite, .moderationRead, .moderationWrite, .operationsRead]
    Permission.toText

/-- The fields of the `metadata` objects the code writes. -/
def Metadata.fields : Metadata → Fields
  | .empty => []
  | .system => [("kind", .string "system")]
  | .chat root fileIds scope onlineUserIds =>
      [("file_ids", uuidCodec.list.encode fileIds),
       ("mention_scope", scopeCodec.option.encode scope),
       ("online_user_ids", uuidCodec.list.encode onlineUserIds),
       ("root_message_id", uuidCodec.option.encode root)]

/-- Which of them an object is. -/
def Metadata.read (fields : Fields) : Option Metadata :=
  match fields with
  | [] => some .empty
  | [("kind", .string "system")] => some .system
  | fields => do
      let root ← required uuidCodec.option "root_message_id" fields
      let fileIds ← required uuidCodec.list "file_ids" fields
      let scope ← required scopeCodec.option "mention_scope" fields
      let onlineUserIds ← required uuidCodec.list "online_user_ids" fields
      return .chat root fileIds scope onlineUserIds

def metadataCodec : Codec Metadata := Codec.object Metadata.fields Metadata.read

/-- The fields of `ChatMessage`. -/
def ChatMessage.fields (m : ChatMessage) : Fields :=
  [("id", uuidCodec.encode m.id), ("channel", .string m.channel), ("username", .string m.username),
   ("text", .string m.text), ("created_at", millisCodec.encode m.createdAt),
   ("edited", .bool m.edited), ("deleted", .bool m.deleted),
   ("root_message_id", uuidCodec.option.encode m.rootMessageId),
   ("reply_count", u32Codec.encode m.replyCount), ("metadata", metadataCodec.encode m.metadata),
   ("mentions", Codec.string.list.encode m.mentions),
   ("client_id", Codec.string.option.encode m.clientId),
   ("file_ids", uuidCodec.list.encode m.fileIds)]

def ChatMessage.read (fields : Fields) : Option ChatMessage := do
  let id ← required uuidCodec "id" fields
  let channel ← required Codec.string "channel" fields
  let username ← required Codec.string "username" fields
  let text ← required Codec.string "text" fields
  let createdAt ← required millisCodec "created_at" fields
  let edited ← required Codec.bool "edited" fields
  let deleted ← required Codec.bool "deleted" fields
  let rootMessageId ← optional uuidCodec "root_message_id" fields
  let replyCount ← required u32Codec "reply_count" fields
  let metadata ← required metadataCodec "metadata" fields
  let mentions ← required Codec.string.list "mentions" fields
  let clientId ← optional Codec.string "client_id" fields
  let fileIds ← required uuidCodec.list "file_ids" fields
  return { id, channel, username, text, createdAt, edited, deleted, rootMessageId, replyCount,
           metadata, mentions, clientId, fileIds }

def ChatMessage.codec : Codec ChatMessage := Codec.object ChatMessage.fields ChatMessage.read

/-- `ReactionSummary`. -/
def ReactionSummary.codec : Codec ReactionSummary :=
  Codec.object
    (fun r => [("message_id", uuidCodec.encode r.messageId), ("emoji", .string r.emoji),
      ("user_ids", uuidCodec.list.encode r.userIds)])
    fun fields => do
      let messageId ← required uuidCodec "message_id" fields
      let emoji ← required Codec.string "emoji" fields
      let userIds ← required uuidCodec.list "user_ids" fields
      return { messageId, emoji, userIds }

/-- `ChannelMember`. -/
def ChannelMember.codec : Codec ChannelMember :=
  Codec.object
    (fun m => [("user_id", uuidCodec.encode m.userId), ("username", .string m.username),
      ("membership_role", roleCodec.encode m.membershipRole)])
    fun fields => do
      let userId ← required uuidCodec "user_id" fields
      let username ← required Codec.string "username" fields
      let membershipRole ← required roleCodec "membership_role" fields
      return { userId, username, membershipRole }

/-- `ConversationSummary`. -/
def ConversationSummary.codec : Codec ConversationSummary :=
  Codec.object
    (fun c => [("id", uuidCodec.encode c.id), ("name", .string c.name),
      ("kind", kindCodec.encode c.kind),
      ("owner_user_id", uuidCodec.option.encode c.ownerUserId),
      ("display_name", .string c.displayName),
      ("peer_user_id", uuidCodec.option.encode c.peerUserId),
      ("peer_username", Codec.string.option.encode c.peerUsername),
      ("last_message_at", millisCodec.option.encode c.lastMessageAt)])
    fun fields => do
      let id ← required uuidCodec "id" fields
      let name ← required Codec.string "name" fields
      let kind ← required kindCodec "kind" fields
      let ownerUserId ← optional uuidCodec "owner_user_id" fields
      let displayName ← required Codec.string "display_name" fields
      let peerUserId ← optional uuidCodec "peer_user_id" fields
      let peerUsername ← optional Codec.string "peer_username" fields
      let lastMessageAt ← optional millisCodec "last_message_at" fields
      return { id, name, kind, ownerUserId, displayName, peerUserId, peerUsername, lastMessageAt }

/-- `Participant`; the two fields of the profile may be missing. -/
def Participant.codec : Codec Participant :=
  Codec.object
    (fun p => [("user_id", uuidCodec.encode p.userId), ("username", .string p.username),
      ("display_name", .string p.displayName), ("custom_status", .string p.customStatus),
      ("roles", Codec.string.list.encode p.roles), ("online", .bool p.online)])
    fun fields => do
      let userId ← required uuidCodec "user_id" fields
      let username ← required Codec.string "username" fields
      let displayName ← defaulted Codec.string "" "display_name" fields
      let customStatus ← defaulted Codec.string "" "custom_status" fields
      let roles ← required Codec.string.list "roles" fields
      let online ← required Codec.bool "online" fields
      return { userId, username, displayName, customStatus, roles, online }

/-- `AuthUser`. -/
def AuthUser.codec : Codec AuthUser :=
  Codec.object
    (fun u => [("id", uuidCodec.encode u.id), ("email", .string u.email),
      ("username", .string u.username), ("roles", Codec.string.list.encode u.roles),
      ("permissions", permissionCodec.list.encode u.permissions)])
    fun fields => do
      let id ← required uuidCodec "id" fields
      let email ← required Codec.string "email" fields
      let username ← required Codec.string "username" fields
      let roles ← required Codec.string.list "roles" fields
      let permissions ← required permissionCodec.list "permissions" fields
      return { id, email, username, roles, permissions }

/-! ### The parts come back -/

lemma exact_uuid (id : Uuid) : uuidCodec.Exact 0 id :=
  Codec.exact_via (Codec.exact_string _) (parseStr_toText id)

lemma solid_uuid : uuidCodec.Solid := Codec.solid_string.via _ _

lemma exact_uuids (ids : List Uuid) : uuidCodec.list.Exact 1 ids :=
  Codec.exact_list fun id _ => exact_uuid id

lemma exact_strings (texts : List String) : Codec.string.list.Exact 1 texts :=
  Codec.exact_list fun s _ => Codec.exact_string s

lemma exact_uuid? (id : Option Uuid) : uuidCodec.option.Exact 0 id :=
  Codec.exact_option solid_uuid fun id _ => exact_uuid id

lemma exact_string? (s : Option String) : Codec.string.option.Exact 0 s :=
  Codec.exact_option Codec.solid_string fun s _ => Codec.exact_string s

lemma exact_millis? (t : Option Millis) : millisCodec.option.Exact 0 t :=
  Codec.exact_option ((Codec.solid_below _).via _ _) fun t _ => Codec.exact_fin t

lemma exact_role (r : MembershipRole) : roleCodec.Exact 0 r :=
  Codec.exact_enum (by cases r <;> rfl)

lemma exact_kind (k : ChannelKind) : kindCodec.Exact 0 k :=
  Codec.exact_enum (by cases k <;> rfl)

lemma exact_source (s : HistorySource) : sourceCodec.Exact 0 s :=
  Codec.exact_enum (by cases s <;> rfl)

lemma exact_scope? (s : Option MentionScope) : scopeCodec.option.Exact 0 s :=
  Codec.exact_option (Codec.solid_string.via _ _) fun s _ =>
    Codec.exact_enum (by cases s <;> rfl)

lemma exact_permissions (ps : List Permission) : permissionCodec.list.Exact 1 ps :=
  Codec.exact_list fun p _ => Codec.exact_enum (by cases p <;> rfl)

/-- The fields of a record, one after the other. -/
lemma depth_fields_cons {name : String} {v : Value} {fields : Fields} {depth : ℕ}
    (hv : v.depth ≤ depth) (h : ∀ f ∈ fields, f.2.depth ≤ depth) :
    ∀ f ∈ (name, v) :: fields, f.2.depth ≤ depth :=
  List.forall_mem_cons.mpr ⟨hv, h⟩

lemma Metadata.exact (m : Metadata) : metadataCodec.Exact 2 m := by
  cases m with
  | empty => exact Codec.exact_object rfl (by simp [Metadata.fields])
  | system => exact Codec.exact_object rfl (by simp [Metadata.fields, Value.depth])
  | chat root fileIds scope onlineUserIds =>
      refine Codec.exact_object ?_ ?_
      · simp [Metadata.fields, Metadata.read, (exact_uuid? root).decode_encode,
          (exact_uuids fileIds).decode_encode, (exact_scope? scope).decode_encode,
          (exact_uuids onlineUserIds).decode_encode]
      · exact depth_fields_cons (exact_uuids fileIds).depth_le <|
          depth_fields_cons ((exact_scope? scope).mono (by decide)).depth_le <|
          depth_fields_cons (exact_uuids onlineUserIds).depth_le <|
          depth_fields_cons ((exact_uuid? root).mono (by decide)).depth_le (by simp)

lemma ReactionSummary.exact (r : ReactionSummary) : ReactionSummary.codec.Exact 2 r := by
  refine Codec.exact_object ?_ ?_
  · simp [(exact_uuid r.messageId).decode_encode, (exact_uuids r.userIds).decode_encode]
  · exact depth_fields_cons ((exact_uuid r.messageId).mono (by decide)).depth_le <|
      depth_fields_cons (Nat.zero_le _) <|
      depth_fields_cons (exact_uuids r.userIds).depth_le (by simp)

lemma ChannelMember.exact (m : ChannelMember) : ChannelMember.codec.Exact 1 m := by
  refine Codec.exact_object ?_ ?_
  · simp [(exact_uuid m.userId).decode_encode, (exact_role m.membershipRole).decode_encode]
  · exact depth_fields_cons (exact_uuid m.userId).depth_le <|
      depth_fields_cons (Nat.zero_le _) <|
      depth_fields_cons (exact_role m.membershipRole).depth_le (by simp)

lemma ConversationSummary.exact (c : ConversationSummary) : ConversationSummary.codec.Exact 1 c := by
  refine Codec.exact_object ?_ ?_
  · simp [(exact_uuid c.id).decode_encode, (exact_kind c.kind).decode_encode,
      (exact_uuid? c.ownerUserId).decode_encode, (exact_uuid? c.peerUserId).decode_encode,
      (exact_string? c.peerUsername).decode_encode, (exact_millis? c.lastMessageAt).decode_encode]
  · exact depth_fields_cons (exact_uuid c.id).depth_le <|
      depth_fields_cons (Nat.zero_le _) <|
      depth_fields_cons (exact_kind c.kind).depth_le <|
      depth_fields_cons (exact_uuid? c.ownerUserId).depth_le <|
      depth_fields_cons (Nat.zero_le _) <|
      depth_fields_cons (exact_uuid? c.peerUserId).depth_le <|
      depth_fields_cons (exact_string? c.peerUsername).depth_le <|
      depth_fields_cons (exact_millis? c.lastMessageAt).depth_le (by simp)

lemma Participant.exact (p : Participant) : Participant.codec.Exact 2 p := by
  refine Codec.exact_object ?_ ?_
  · simp [(exact_uuid p.userId).decode_encode, (exact_strings p.roles).decode_encode]
  · exact depth_fields_cons ((exact_uuid p.userId).mono (by decide)).depth_le <|
      depth_fields_cons (Nat.zero_le _) <| depth_fields_cons (Nat.zero_le _) <|
      depth_fields_cons (Nat.zero_le _) <|
      depth_fields_cons (exact_strings p.roles).depth_le <|
      depth_fields_cons (Nat.zero_le _) (by simp)

lemma AuthUser.exact (u : AuthUser) : AuthUser.codec.Exact 2 u := by
  refine Codec.exact_object ?_ ?_
  · simp [(exact_uuid u.id).decode_encode, (exact_strings u.roles).decode_encode,
      (exact_permissions u.permissions).decode_encode]
  · exact depth_fields_cons ((exact_uuid u.id).mono (by decide)).depth_le <|
      depth_fields_cons (Nat.zero_le _) <| depth_fields_cons (Nat.zero_le _) <|
      depth_fields_cons (exact_strings u.roles).depth_le <|
      depth_fields_cons (exact_permissions u.permissions).depth_le (by simp)

/-- The number of replies fits a `u32`. -/
lemma ChatMessage.exact {m : ChatMessage} (h : m.replyCount < 2 ^ 32) :
    ChatMessage.codec.Exact 3 m := by
  have hcount : u32Codec.Exact 0 m.replyCount := Codec.exact_below h
  have htime : millisCodec.Exact 0 m.createdAt := Codec.exact_fin _
  refine Codec.exact_object ?_ ?_
  · simp [ChatMessage.fields, ChatMessage.read, (exact_uuid m.id).decode_encode,
      htime.decode_encode, (exact_uuid? m.rootMessageId).decode_encode, hcount.decode_encode,
      (Metadata.exact m.metadata).decode_encode, (exact_strings m.mentions).decode_encode,
      (exact_string? m.clientId).decode_encode, (exact_uuids m.fileIds).decode_encode]
  · exact depth_fields_cons ((exact_uuid m.id).mono (by decide)).depth_le <|
      depth_fields_cons (Nat.zero_le _) <| depth_fields_cons (Nat.zero_le _) <|
      depth_fields_cons (Nat.zero_le _) <|
      depth_fields_cons (htime.mono (by decide)).depth_le <|
      depth_fields_cons (Nat.zero_le _) <| depth_fields_cons (Nat.zero_le _) <|
      depth_fields_cons ((exact_uuid? m.rootMessageId).mono (by decide)).depth_le <|
      depth_fields_cons (hcount.mono (by decide)).depth_le <|
      depth_fields_cons (Metadata.exact m.metadata).depth_le <|
      depth_fields_cons ((exact_strings m.mentions).mono (by decide)).depth_le <|
      depth_fields_cons ((exact_string? m.clientId).mono (by decide)).depth_le <|
      depth_fields_cons ((exact_uuids m.fileIds).mono (by decide)).depth_le (by simp)

/-! ### Events of the server -/

namespace ServerEvent

/-- The tag of an event. -/
def tag : ServerEvent → String
  | .welcome _ => "welcome"
  | .channels _ => "channels"
  | .privateConversations _ => "private_conversations"
  | .members _ _ => "members"
  | .channelCreated _ => "channel_created"
  | .channelDeleted _ => "channel_deleted"
  | .joined _ => "joined"
  | .history _ _ _ _ => "history"
  | .historyPage _ _ _ _ => "history_page"
  | .message _ => "message"
  | .messageUpdated _ => "message_updated"
  | .threadHistory _ _ _ => "thread_history"
  | .reactionUpdated _ _ => "reaction_updated"
  | .typing _ _ _ _ => "typing"
  | .readStateUpdated _ _ _ _ => "read_state_updated"
  | .error _ => "error"
  | .participants _ _ => "participants"
  | .participantJoined _ _ => "participant_joined"
  | .participantLeft _ _ => "participant_left"
  | .presenceSync _ _ => "presence_sync"

/-- The fields of a page of messages. -/
def pageFields (channel : String) (messages : List ChatMessage) (source : HistorySource)
    (hasMore : Bool) : Fields :=
  [("channel", .string channel), ("messages", ChatMessage.codec.list.encode messages),
   ("source", sourceCodec.encode source), ("has_more", .bool hasMore)]

/-- The fields of a list of participants. -/
def participantsFields (channel : String) (participants : List Participant) : Fields :=
  [("channel", .string channel), ("participants", Participant.codec.list.encode participants)]

/-- The fields of an event. -/
def fields : ServerEvent → Fields
  | .welcome username => [("username", .string username)]
  | .channels names => [("channels", Codec.string.list.encode names)]
  | .privateConversations cs =>
      [("conversations", ConversationSummary.codec.list.encode cs)]
  | .members channel ms =>
      [("channel", .string channel), ("members", ChannelMember.codec.list.encode ms)]
  | .channelCreated name | .channelDeleted name | .joined name => [("name", .string name)]
  | .history channel ms source hasMore | .historyPage channel ms source hasMore =>
      pageFields channel ms source hasMore
  | .message m | .messageUpdated m => [("message", ChatMessage.codec.encode m)]
  | .threadHistory rootMessageId ms hasMore =>
      [("root_message_id", uuidCodec.encode rootMessageId),
       ("messages", ChatMessage.codec.list.encode ms), ("has_more", .bool hasMore)]
  | .reactionUpdated channel reaction =>
      [("channel", .string channel), ("reaction", ReactionSummary.codec.encode reaction)]
  | .typing channel userId username isTyping =>
      [("channel", .string channel), ("user_id", uuidCodec.encode userId),
       ("username", .string username), ("typing", .bool isTyping)]
  | .readStateUpdated channel userId messageId createdAt =>
      [("channel", .string channel), ("user_id", uuidCodec.encode userId),
       ("message_id", uuidCodec.encode messageId), ("created_at", u64Codec.encode createdAt)]
  | .error text => [("message", .string text)]
  | .participants channel ps | .presenceSync channel ps => participantsFields channel ps
  | .participantJoined channel participant =>
      [("channel", .string channel), ("participant", Participant.codec.encode participant)]
  | .participantLeft channel userId =>
      [("channel", .string channel), ("user_id", uuidCodec.encode userId)]

/-- A page of messages. -/
def readPage (make : String → List ChatMessage → HistorySource → Bool → ServerEvent)
    (fields : Fields) : Option ServerEvent := do
  let channel ← required Codec.string "channel" fields
  let messages ← required ChatMessage.codec.list "messages" fields
  let source ← required sourceCodec "source" fields
  let hasMore ← required Codec.bool "has_more" fields
  return make channel messages source hasMore

/-- A list of participants. -/
def readParticipants (make : String → List Participant → ServerEvent) (fields : Fields) :
    Option ServerEvent := do
  let channel ← required Codec.string "channel" fields
  let participants ← required Participant.codec.list "participants" fields
  return make channel participants

/-- The variant of a tag. -/
def readTag (fields : Fields) : String → Option ServerEvent
  | "welcome" => (required Codec.string "username" fields).map .welcome
  | "channels" => (required Codec.string.list "channels" fields).map .channels
  | "private_conversations" =>
      (required ConversationSummary.codec.list "conversations" fields).map .privateConversations
  | "members" => do
      let channel ← required Codec.string "channel" fields
      let members ← required ChannelMember.codec.list "members" fields
      return .members channel members
  | "channel_created" => (required Codec.string "name" fields).map .channelCreated
  | "channel_deleted" => (required Codec.string "name" fields).map .channelDeleted
  | "joined" => (required Codec.string "name" fields).map .joined
  | "history" => readPage .history fields
  | "history_page" => readPage .historyPage fields
  | "message" => (required ChatMessage.codec "message" fields).map .message
  | "message_updated" => (required ChatMessage.codec "message" fields).map .messageUpdated
  | "thread_history" => do
      let rootMessageId ← required uuidCodec "root_message_id" fields
      let messages ← required ChatMessage.codec.list "messages" fields
      let hasMore ← required Codec.bool "has_more" fields
      return .threadHistory rootMessageId messages hasMore
  | "reaction_updated" => do
      let channel ← required Codec.string "channel" fields
      let reaction ← required ReactionSummary.codec "reaction" fields
      return .reactionUpdated channel reaction
  | "typing" => do
      let channel ← required Codec.string "channel" fields
      let userId ← required uuidCodec "user_id" fields
      let username ← required Codec.string "username" fields
      let isTyping ← required Codec.bool "typing" fields
      return .typing channel userId username isTyping
  | "read_state_updated" => do
      let channel ← required Codec.string "channel" fields
      let userId ← required uuidCodec "user_id" fields
      let messageId ← required uuidCodec "message_id" fields
      let createdAt ← required u64Codec "created_at" fields
      return .readStateUpdated channel userId messageId createdAt
  | "error" => (required Codec.string "message" fields).map .error
  | "participants" => readParticipants .participants fields
  | "participant_joined" => do
      let channel ← required Codec.string "channel" fields
      let participant ← required Participant.codec "participant" fields
      return .participantJoined channel participant
  | "participant_left" => do
      let channel ← required Codec.string "channel" fields
      let userId ← required uuidCodec "user_id" fields
      return .participantLeft channel userId
  | "presence_sync" => readParticipants .presenceSync fields
  | _ => none

/-- `#[serde(tag = "type", rename_all = "snake_case")]` on `ServerEvent`. -/
def codec : Codec ServerEvent :=
  Codec.object (fun e => ("type", .string e.tag) :: e.fields)
    fun fields => (required Codec.string "type" fields).bind (readTag fields)

/-- `serde_json::to_vec` and `to_string`. -/
def payload (e : ServerEvent) : String := codec.text e

/-- `serde_json::from_slice`. -/
def ofPayload (text : String) : Option ServerEvent := codec.ofText jsonLimit text

/-- The messages an event carries. -/
def messages : ServerEvent → List ChatMessage
  | .history _ ms _ _ | .historyPage _ ms _ _ | .threadHistory _ ms _ => ms
  | .message m | .messageUpdated m => [m]
  | _ => []

/-- The numbers of replies fit a `u32`. -/
def Counted (e : ServerEvent) : Prop := ∀ m ∈ e.messages, m.replyCount < 2 ^ 32

end ServerEvent

section Exact

lemma exact_messages (ms : List ChatMessage) (h : ∀ m ∈ ms, m.replyCount < 2 ^ 32) :
    ChatMessage.codec.list.Exact 4 ms :=
  Codec.exact_list fun m hm => ChatMessage.exact (h m hm)

lemma exact_participants (ps : List Participant) : Participant.codec.list.Exact 3 ps :=
  Codec.exact_list fun p _ => Participant.exact p

lemma exact_members (ms : List ChannelMember) : ChannelMember.codec.list.Exact 2 ms :=
  Codec.exact_list fun m _ => ChannelMember.exact m

lemma exact_conversations (cs : List ConversationSummary) :
    ConversationSummary.codec.list.Exact 2 cs :=
  Codec.exact_list fun c _ => ConversationSummary.exact c

/-- The fields of an event are read as the event. -/
lemma ServerEvent.readTag_fields {e : ServerEvent} (h : e.Counted) :
    (required Codec.string "type" (("type", .string e.tag) :: e.fields)).bind
      (readTag (("type", .string e.tag) :: e.fields)) = some e := by
  cases e with
  | welcome username => simp [tag, fields, readTag]
  | channels channels => simp [tag, fields, readTag, (exact_strings channels).decode_encode]
  | privateConversations conversations =>
      simp [tag, fields, readTag, (exact_conversations conversations).decode_encode]
  | members channel members =>
      simp [tag, fields, readTag, (exact_members members).decode_encode]
  | channelCreated name | channelDeleted name | joined name => simp [tag, fields, readTag]
  | history channel messages source hasMore | historyPage channel messages source hasMore =>
      simp [tag, fields, readTag, pageFields, readPage,
        (exact_messages messages h).decode_encode, (exact_source source).decode_encode]
  | message message | messageUpdated message =>
      have hm := ChatMessage.exact (h message (List.mem_singleton_self _))
      simp [tag, fields, readTag, hm.decode_encode]
  | threadHistory rootMessageId messages hasMore =>
      simp [tag, fields, readTag, (exact_uuid rootMessageId).decode_encode,
        (exact_messages messages h).decode_encode]
  | reactionUpdated channel reaction =>
      simp [tag, fields, readTag, (ReactionSummary.exact reaction).decode_encode]
  | typing channel userId username typing =>
      simp [tag, fields, readTag, (exact_uuid userId).decode_encode]
  | readStateUpdated channel userId messageId createdAt =>
      have ht : u64Codec.Exact 0 createdAt := Codec.exact_fin _
      simp [tag, fields, readTag, (exact_uuid userId).decode_encode,
        (exact_uuid messageId).decode_encode, ht.decode_encode]
  | error message => simp [tag, fields, readTag]
  | participants channel participants | presenceSync channel participants =>
      simp [tag, fields, readTag, participantsFields, readParticipants,
        (exact_participants participants).decode_encode]
  | participantJoined channel participant =>
      simp [tag, fields, readTag, (Participant.exact participant).decode_encode]
  | participantLeft channel userId =>
      simp [tag, fields, readTag, (exact_uuid userId).decode_encode]

lemma ServerEvent.depth_fields {e : ServerEvent} (h : e.Counted) :
    ∀ f ∈ e.fields, f.2.depth ≤ 4 := by
  have hpart : ∀ {α : Type} {c : Codec α} {depth : ℕ} {a : α}, c.Exact depth a → depth ≤ 4 →
      (c.encode a).depth ≤ 4 := fun ha hle => (ha.mono hle).depth_le
  have htext : ∀ s : String, (Value.string s).depth ≤ 4 := fun _ => Nat.zero_le _
  have hbool : ∀ b : Bool, (Value.bool b).depth ≤ 4 := fun _ => Nat.zero_le _
  cases e with
  | welcome username | error message => simp [fields, htext]
  | channels channels => simp [fields, hpart (exact_strings channels)]
  | privateConversations conversations => simp [fields, hpart (exact_conversations conversations)]
  | members channel members => simp [fields, htext, hpart (exact_members members)]
  | channelCreated name | channelDeleted name | joined name => simp [fields, htext]
  | history channel messages source hasMore | historyPage channel messages source hasMore =>
      simp [fields, pageFields, htext, hbool, hpart (exact_messages messages h),
        hpart (exact_source source)]
  | message message | messageUpdated message =>
      have hm := ChatMessage.exact (h message (List.mem_singleton_self _))
      simp [fields, hpart hm]
  | threadHistory rootMessageId messages hasMore =>
      simp [fields, hbool, hpart (exact_uuid rootMessageId), hpart (exact_messages messages h)]
  | reactionUpdated channel reaction =>
      simp [fields, htext, hpart (ReactionSummary.exact reaction)]
  | typing channel userId username typing =>
      simp [fields, htext, hbool, hpart (exact_uuid userId)]
  | readStateUpdated channel userId messageId createdAt =>
      have ht : u64Codec.Exact 0 createdAt := Codec.exact_fin _
      simp [fields, htext, hpart (exact_uuid userId), hpart (exact_uuid messageId), hpart ht]
  | participants channel participants | presenceSync channel participants =>
      simp [fields, participantsFields, htext, hpart (exact_participants participants)]
  | participantJoined channel participant =>
      simp [fields, htext, hpart (Participant.exact participant)]
  | participantLeft channel userId => simp [fields, htext, hpart (exact_uuid userId)]

/-- **An event comes back from its JSON.** -/
theorem ServerEvent.exact {e : ServerEvent} (h : e.Counted) : ServerEvent.codec.Exact 5 e :=
  Codec.exact_object (readTag_fields h) (depth_fields_cons (Nat.zero_le _) (depth_fields h))

end Exact

/-! ### Events of the clients -/

namespace ClientEvent

/-- The variant of a tag. -/
def readTag (fields : Fields) : String → Option ClientEvent
  | "list_channels" => some .listChannels
  | "create_channel" => (required Codec.string "name" fields).map .createChannel
  | "create_private_channel" => (required Codec.string "name" fields).map .createPrivateChannel
  | "open_direct" => (required uuidCodec "user_id" fields).map .openDirect
  | "invite_member" => do
      let channel ← required Codec.string "channel" fields
      let userId ← required uuidCodec "user_id" fields
      return .inviteMember channel userId
  | "remove_member" => do
      let channel ← required Codec.string "channel" fields
      let userId ← required uuidCodec "user_id" fields
      return .removeMember channel userId
  | "join_channel" => (required Codec.string "name" fields).map .joinChannel
  | "delete_channel" => (required Codec.string "name" fields).map .deleteChannel
  | "delete_message" => (required uuidCodec "id" fields).map .deleteMessage
  | "add_reaction" => do
      let messageId ← required uuidCodec "message_id" fields
      let emoji ← required Codec.string "emoji" fields
      return .addReaction messageId emoji
  | "remove_reaction" => do
      let messageId ← required uuidCodec "message_id" fields
      let emoji ← required Codec.string "emoji" fields
      return .removeReaction messageId emoji
  | "typing" => (required Codec.bool "typing" fields).map .typing
  | "mark_read" => do
      let messageId ← required uuidCodec "message_id" fields
      let createdAt ← required u64Codec "created_at" fields
      return .markRead messageId createdAt
  | "send_message" => do
      let text ← required Codec.string "text" fields
      let rootMessageId ← optional uuidCodec "root_message_id" fields
      let clientId ← optional Codec.string "client_id" fields
      let fileIds ← defaulted uuidCodec.list [] "file_ids" fields
      return .sendMessage text rootMessageId clientId fileIds
  | "edit_message" => do
      let id ← required uuidCodec "id" fields
      let text ← required Codec.string "text" fields
      return .editMessage id text
  | "load_history" => do
      let channel ← required Codec.string "channel" fields
      let beforeCreatedAt ← required u64Codec "before_created_at" fields
      let beforeId ← required uuidCodec "before_id" fields
      return .loadHistory channel beforeCreatedAt beforeId
  | "load_thread" => do
      let messageId ← required uuidCodec "message_id" fields
      let beforeCreatedAt ← optional u64Codec "before_created_at" fields
      let beforeId ← optional uuidCodec "before_id" fields
      return .loadThread messageId beforeCreatedAt beforeId
  | "heartbeat" => some .heartbeat
  | _ => none

/-- `#[serde(tag = "type", rename_all = "snake_case")]` on `ClientEvent`. -/
def read (fields : Fields) : Option ClientEvent :=
  (required Codec.string "type" fields).bind (readTag fields)

/-- `serde_json::from_str`. -/
def ofText (text : String) : Option ClientEvent :=
  (Json.parse jsonLimit text).bind fun
    | .object fields => read fields
    | _ => none

/-- The names of the fields of all events, the tag included. -/
def fieldNames : List String :=
  ["type", "name", "user_id", "channel", "id", "message_id", "emoji", "typing", "created_at", "text",
   "root_message_id", "client_id", "file_ids", "before_created_at", "before_id"]

/-- A frame with fields that no event has says what it says without them. -/
lemma read_append {fields extra : Fields} (h : ∀ f ∈ extra, f.1 ∉ fieldNames) :
    read (fields ++ extra) = read fields := by
  have hnot : ∀ name ∈ fieldNames, name ∉ extra.map Prod.fst := by
    intro name hname hmem
    obtain ⟨f, hf, rfl⟩ := List.mem_map.mp hmem
    exact h f hf hname
  simp only [fieldNames, List.forall_mem_cons] at hnot
  obtain ⟨htype, hname, huser, hchannel, hid, hmessage, hemoji, htyping, hcreated, htext, hroot,
    hclient, hfiles, hbefore, hbeforeId, -⟩ := hnot
  have htag : ∀ tag, readTag (fields ++ extra) tag = readTag fields tag := by
    intro tag
    simp only [readTag, Json.required_append, Json.optional_append, Json.defaulted_append, hname,
      huser, hchannel, hid, hmessage, hemoji, htyping, hcreated, htext, hroot, hclient, hfiles,
      hbefore, hbeforeId, not_false_eq_true]
  rw [read, read, Json.required_append _ htype, funext htag]

end ClientEvent

end Vussa
