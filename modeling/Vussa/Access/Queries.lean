import Vussa.Lib.Join
import Vussa.Messages.Redaction

/-!
The queries that repeat the rule of `ensure_channel_access` by hand: the lists of channels,
conversations, unread counts and favorites, the search, the saved and the single messages, the
recipients of a notification, and the download of a file. Each is translated with its own joins and
its own nesting of conditions; the ban subquery is the same text in all of them but the last.

A string is ordered by its characters, whatever the collation of the database. PostgreSQL's `lower`
and the object store are parameters.

* `Directory`: the tables with `channel_favorites`, `notification_preferences` and the addresses;
* `listChannels`, `listVisibleConversations`, `listUnread`, `listFavoriteChannels`,
  `messageRecipients`, `downloadFile`: the queries that `Vussa.Messages` does not have;
* `produced_accessible`: **whatever the queries produce for a user lies in a channel that
  `ensure_channel_access` grants the user**.
-/

namespace Vussa

open Table

/-! ### Tables -/

/-- A row of `channel_favorites`. -/
structure FavoriteRow where
  userId : Uuid
  channelId : Uuid
  createdAt : Millis
  deriving DecidableEq, Repr

/-- A row of `notification_preferences`. -/
structure PreferenceRow where
  userId : Uuid
  mentions : Bool := true
  directMessages : Bool := true
  channelMessages : Bool := false
  emailEnabled : Bool := false
  browserPushEnabled : Bool := false
  deriving DecidableEq, Repr

/-- The tables with the favorites, the preferences and the column `email` of `users`. -/
structure Directory extends Archive where
  channelFavorites : List FavoriteRow := []
  notificationPreferences : List PreferenceRow := []
  email : Uuid → String := fun _ => ""

/-- `LEFT JOIN channel_members cm ON cm.channel_id=c.id AND cm.user_id=$1`. -/
def Database.withMember (db : Database) (userId : Uuid) : List (ChannelRow × Option MemberRow) :=
  leftJoin (fun c cm => cm.channelId = c.id ∧ cm.userId = userId) db.channels db.channelMembers

/-! ### Lists -/

/-- The sort key of `list_channels`: the main channel first. -/
def channelKey (name : String) : Bool ×ₗ String := toLex (decide (name ≠ mainChannel), name)

/-- `list_channels`. -/
def listChannels (db : Database) (now : Millis) (userId : Uuid) : List String :=
  ((db.channels.filter fun c => c.deletedAt = none ∧ c.archivedAt = none ∧ c.kind = .pub ∧
      ¬ Banned db now userId c.id).map ChannelRow.name).insertionSort fun a b =>
    channelKey a ≤ channelKey b

/-- `ORDER BY c.kind`: the order of the texts `direct`, `private` and `public`. -/
def ChannelKind.rank : ChannelKind → ℕ
  | .direct => 0
  | .priv => 1
  | .pub => 2

/-- The subquery `recent`: the time of the last message of a channel. -/
def Database.recent (db : Database) : List (Uuid × Option Millis) :=
  (groupBy MessageRow.channelId (db.messages.filter fun m => m.deletedAt = none)).map fun g =>
    (g.1, (g.2.map MessageRow.createdAt).max?)

/-- The sort key of `list_visible_conversations`: the last message first, and none at the end. -/
def ConversationSummary.sortKey (s : ConversationSummary) : Bool ×ₗ ℤ ×ₗ Bool ×ₗ ℕ ×ₗ String :=
  toLex (s.lastMessageAt.isNone, toLex (-((s.lastMessageAt.getD 0 : ℕ) : ℤ),
    toLex (¬ (s.kind = .pub ∧ s.name = mainChannel), toLex (s.kind.rank, s.name))))

/-- `list_visible_conversations`: the channel with the membership of the user, the other members of
a direct channel, the user one of these is, and the last message. -/
def listVisibleConversations (db : Database) (now : Millis) (userId : Uuid) :
    List ConversationSummary :=
  let others := leftJoin (fun (c, _) other => other.channelId = c.id ∧ other.userId ≠ userId ∧
    c.kind = .direct) (db.withMember userId) db.channelMembers
  let peers := leftJoin (fun (_, other) peer => other.map MemberRow.userId = some peer.id)
    others db.users
  let rows := leftJoin (fun (((c, _), _), _) recent => recent.1 = c.id) peers db.recent
  let visible := rows.filter fun ((((c, mine), _), _), _) => c.deletedAt = none ∧
    c.archivedAt = none ∧ (c.kind = .pub ∨ mine.isSome) ∧ ¬ Banned db now userId c.id
  (visible.map fun ((((c, _), _), peer), recent) =>
    { id := c.id, name := c.name, kind := c.kind, ownerUserId := c.ownerUserId
      displayName := if c.kind = .direct then (peer.map UserRow.username).getD c.name else c.name
      peerUserId := peer.map UserRow.id, peerUsername := peer.map UserRow.username
      lastMessageAt := recent.bind Prod.snd }).insertionSort fun a b => a.sortKey ≤ b.sortKey

/-- The answer of `list_unread` for a channel. -/
structure Unread where
  channel : String
  unreadCount : ℕ
  latestCreatedAt : Option Millis
  deriving DecidableEq, Repr

/-- `list_unread`: the messages of others after the last read one, by channel. -/
def listUnread (db : Database) (now : Millis) (userId : Uuid) : List Unread :=
  let reads := leftJoin (fun (c, _) cr => cr.channelId = c.id ∧ cr.userId = userId)
    (db.withMember userId) db.channelReads
  let rows := leftJoin (fun ((c, _), cr) m => m.channelId = c.id ∧ m.deletedAt = none ∧
    (cr.map ReadRow.lastReadCreatedAt).getD 0 < ((m.createdAt : ℕ) : ℤ) ∧
    (m.ownerUserId = none ∨ m.ownerUserId ≠ some userId)) reads db.messages
  let visible := rows.filter fun (((c, cm), _), _) => c.deletedAt = none ∧ c.archivedAt = none ∧
    (c.kind = .pub ∨ cm.isSome) ∧ ¬ Banned db now userId c.id
  ((groupBy (fun row => (row.1.1.1.id, row.1.1.1.name)) visible).map fun g =>
    { channel := g.1.2, unreadCount := (g.2.filterMap Prod.snd).length
      latestCreatedAt := ((g.2.filterMap Prod.snd).map MessageRow.createdAt).max? : Unread
      }).insertionSort fun a b => a.channel ≤ b.channel

/-- `list_favorite_channels`. -/
def listFavoriteChannels (db : Directory) (now : Millis) (userId : Uuid) : List String :=
  let rows := (join (fun f c => c.id = f.channelId) db.channelFavorites db.channels).filter
    fun (f, c) => f.userId = userId ∧ c.deletedAt = none ∧
      (c.kind = .pub ∨ Member db.toDatabase c.id userId) ∧ ¬ Banned db.toDatabase now userId c.id
  (rows.insertionSort fun a b =>
    toLex (a.1.createdAt, a.2.name) ≤ toLex (b.1.createdAt, b.2.name)).map fun (_, c) => c.name

/-! ### Recipients -/

/-- The kinds of a notification. -/
inductive NotificationKind where
  | mention | directMessage | channelMessage
  deriving DecidableEq, Repr

/-- A recipient of a message's notification. -/
structure Recipient where
  userId : Uuid
  channelId : Uuid
  email : String
  kind : NotificationKind
  body : String
  emailEnabled : Bool
  browserEnabled : Bool
  deriving DecidableEq, Repr

/-- The `online_user_ids` of the metadata. -/
def Metadata.onlineUserIds : Metadata → List Uuid
  | .chat _ _ _ ids => ids
  | _ => []

/-- The rows of `create_message_notifications_with_clock`: a channel, a user, and the user's
membership and preferences. -/
def recipientRows (U : Unicode) (lower : String → String) (db : Directory) (now : Millis)
    (actor : AuthUser) (message : ChatMessage) :
    List (((ChannelRow × UserRow) × Option MemberRow) × Option PreferenceRow) :=
  let mentionUsernames := extractMentionedUsernames U message.text actor.username
  let channelMention := mentionScope U message.text = some .channel
  let hereIds := message.metadata.onlineUserIds
  let users := join (fun _ u => u.id ≠ actor.id) db.channels db.users
  let members := leftJoin (fun (c, u) cm => cm.channelId = c.id ∧ cm.userId = u.id)
    users db.channelMembers
  let rows := leftJoin (fun ((_, u), _) np => np.userId = u.id) members db.notificationPreferences
  rows.filter fun (((c, u), cm), np) =>
    c.name = message.channel ∧ c.deletedAt = none ∧ u.disabledAt = none ∧ u.deletedAt = none ∧
    ¬ Banned db.toDatabase now u.id c.id ∧
    (((lower u.username ∈ mentionUsernames ∨ channelMention ∨ u.id ∈ hereIds) ∧
        (np.map PreferenceRow.mentions).getD true ∧ (c.kind = .pub ∨ cm.isSome)) ∨
      (c.kind = .direct ∧ cm.isSome ∧ (np.map PreferenceRow.directMessages).getD true) ∨
      (c.kind = .priv ∧ cm.isSome ∧ (np.map PreferenceRow.channelMessages).getD false) ∨
      (c.kind = .pub ∧ (np.map PreferenceRow.channelMessages).getD false))

/-- The recipients of `create_message_notifications_with_clock`, each with the kind and the text of
the notification. -/
def messageRecipients (U : Unicode) (lower : String → String) (db : Directory) (now : Millis)
    (actor : AuthUser) (message : ChatMessage) : List Recipient :=
  let mentionUsernames := extractMentionedUsernames U message.text actor.username
  let scope := mentionScope U message.text
  let hereIds := message.metadata.onlineUserIds
  (recipientRows U lower db now actor message).map fun (((c, u), _), np) =>
    let isMention := (np.map PreferenceRow.mentions).getD true ∧
      (scope = some .channel ∨ (scope = some .here ∧ u.id ∈ hereIds) ∨
        U.toLowercase u.username ∈ mentionUsernames)
    let kind : NotificationKind := if isMention then .mention
      else if c.kind = .direct then .directMessage else .channelMessage
    { userId := u.id, channelId := c.id, email := db.email u.id, kind := kind
      body := match kind with
        | .mention => actor.username ++ " mentioned you in #" ++ message.channel
        | .directMessage => actor.username ++ " sent you a direct message"
        | .channelMessage => actor.username ++ " posted in #" ++ message.channel
      emailEnabled := (np.map PreferenceRow.emailEnabled).getD false
      browserEnabled := (np.map PreferenceRow.browserPushEnabled).getD false }

/-! ### Files -/

/-- The subquery `EXISTS (SELECT 1 FROM message_files mf ...)` of `download_file`: the file is
attached to a message of a channel the user may read. -/
def AttachedFor (db : Database) (now : Millis) (userId fileId : Uuid) : Prop :=
  ∃ row ∈ leftJoin (fun (_, c) cm => cm.channelId = c.id ∧ cm.userId = userId)
      (join (fun (_, m) c => c.id = m.channelId)
        (join (fun mf m => m.id = mf.messageId) db.messageFiles db.messages) db.channels)
      db.channelMembers,
    row.1.1.1.fileId = fileId ∧ row.1.1.2.deletedAt = none ∧ row.1.2.deletedAt = none ∧
    (row.1.2.kind = .pub ∨ row.2.isSome) ∧ ¬ Banned db now userId row.1.2.id

instance (db : Database) (now : Millis) (u f : Uuid) : Decidable (AttachedFor db now u f) :=
  inferInstanceAs (Decidable (∃ row ∈ _, _))

/-- The row of `download_file`. -/
def downloadRow? (db : Database) (now : Millis) (userId id : Uuid) : Option FileRow :=
  db.files.find? fun f => f.id = id ∧ f.deletedAt = none ∧
    (¬ ∃ b ∈ db.userBans, b.userId = userId ∧ b.Active now ∧ b.channelId = none) ∧
    ((f.uploaderUserId = userId ∧ ¬ ∃ b ∈ db.userBans, b.userId = userId ∧ b.Active now) ∨
      AttachedFor db now userId f.id)

/-- `download_file`; `getStream` reads the object of a file. -/
def downloadFile {Stream : Type} (getStream : FileRow → Option Stream) (db : Database)
    (now : Millis) (userId id : Uuid) : Except AppError (FileRow × Stream) :=
  match downloadRow? db now userId id with
  | none => .error RepositoryError.notFound.toApp
  | some f =>
      match getStream f with
      | none => .error ⟨.serviceUnavailable, "file storage unavailable"⟩
      | some stream => .ok (f, stream)

/-! ### What the queries produce -/

section Produced

variable {db : Database} {now : Millis} {userId : Uuid} {c : ChannelRow}

/-- A stored channel that `ensure_channel_access` grants the user. -/
def ChannelRow.Granted (db : Database) (now : Millis) (userId : Uuid) (c : ChannelRow) : Prop :=
  c ∈ db.channels ∧ ensureChannelAccess db now c.name userId = .ok ()

/-- A message is stored in a channel that `ensure_channel_access` grants the user. -/
def ChatMessage.Granted (db : Database) (now : Millis) (userId : Uuid) (message : ChatMessage) :
    Prop :=
  ∃ m ∈ db.messages, m.id = message.id ∧
    ∃ c : ChannelRow, c.Granted db now userId ∧ c.id = m.channelId ∧ c.name = message.channel

lemma ChannelRow.Readable.granted (hc : c ∈ db.channels) (h : c.Readable db now userId) :
    c.Granted db now userId :=
  ⟨hc, ensureChannelAccess_eq_ok.mpr ⟨c, hc, rfl, h⟩⟩

/-- A partner in the join with `channel_members` is a membership. -/
lemma member_of_partner {cm : Option MemberRow}
    (hcm : ∀ row ∈ cm, row ∈ db.channelMembers ∧
      decide (row.channelId = c.id ∧ row.userId = userId) = true)
    (hkind : c.kind = .pub ∨ cm.isSome) : c.kind = .pub ∨ Member db c.id userId := by
  refine hkind.imp_right fun hsome => ?_
  obtain ⟨row, rfl⟩ := Option.isSome_iff_exists.mp hsome
  obtain ⟨hmem, hon⟩ := hcm row rfl
  exact ⟨row, hmem, of_decide_eq_true hon⟩

/-- The conditions as the lists write them, with the membership joined. -/
lemma granted_of_withMember {cm : Option MemberRow} (hrow : (c, cm) ∈ db.withMember userId)
    (hlive : c.deletedAt = none) (hkind : c.kind = .pub ∨ cm.isSome)
    (hban : ¬ Banned db now userId c.id) : c.Granted db now userId := by
  obtain ⟨hc, hcm⟩ := mem_leftJoin hrow
  exact ChannelRow.Readable.granted hc ⟨hlive, member_of_partner hcm hkind, hban⟩

lemma listChannels_granted {name : String} (h : name ∈ listChannels db now userId) :
    ∃ c : ChannelRow, c.Granted db now userId ∧ c.name = name := by
  obtain ⟨c, hc, rfl⟩ := List.mem_map.mp ((List.mem_insertionSort _).mp h)
  obtain ⟨hmem, hwhere⟩ := List.mem_filter.mp hc
  obtain ⟨hlive, -, hkind, hban⟩ := of_decide_eq_true hwhere
  exact ⟨c, ChannelRow.Readable.granted hmem ⟨hlive, Or.inl hkind, hban⟩, rfl⟩

lemma listVisibleConversations_granted {s : ConversationSummary}
    (h : s ∈ listVisibleConversations db now userId) :
    ∃ c : ChannelRow, c.Granted db now userId ∧ c.id = s.id ∧ c.name = s.name := by
  obtain ⟨⟨⟨⟨⟨c, mine⟩, other⟩, peer⟩, recent⟩, hrow, rfl⟩ :=
    List.mem_map.mp ((List.mem_insertionSort _).mp h)
  obtain ⟨hrow, hwhere⟩ := List.mem_filter.mp hrow
  obtain ⟨hlive, -, hkind, hban⟩ := of_decide_eq_true hwhere
  have hmine := (mem_leftJoin (mem_leftJoin (mem_leftJoin hrow).1).1).1
  exact ⟨c, granted_of_withMember hmine hlive hkind hban, rfl, rfl⟩

lemma listUnread_granted {u : Unread} (h : u ∈ listUnread db now userId) :
    ∃ c : ChannelRow, c.Granted db now userId ∧ c.name = u.channel := by
  obtain ⟨g, hg, rfl⟩ := List.mem_map.mp ((List.mem_insertionSort _).mp h)
  obtain ⟨⟨⟨⟨c, cm⟩, cr⟩, m⟩, hrow, hkey⟩ := mem_groupBy hg
  obtain ⟨hrow, hwhere⟩ := List.mem_filter.mp hrow
  obtain ⟨hlive, -, hkind, hban⟩ := of_decide_eq_true hwhere
  have hcm := (mem_leftJoin (mem_leftJoin hrow).1).1
  exact ⟨c, granted_of_withMember hcm hlive hkind hban, congrArg Prod.snd hkey⟩

lemma listFavoriteChannels_granted {db : Directory} {name : String}
    (h : name ∈ listFavoriteChannels db now userId) :
    ∃ c : ChannelRow, c.Granted db.toDatabase now userId ∧ c.name = name := by
  obtain ⟨⟨f, c⟩, hrow, rfl⟩ := List.mem_map.mp h
  obtain ⟨hrow, hwhere⟩ := List.mem_filter.mp ((List.mem_insertionSort _).mp hrow)
  obtain ⟨-, hreadable⟩ := of_decide_eq_true hwhere
  exact ⟨c, ChannelRow.Readable.granted (mem_join.mp hrow).2.1 hreadable, rfl⟩

/-- The row and the channel of a message that a query joins. -/
lemma granted_of_join {m : MessageRow} {message : ChatMessage} (hm : m ∈ db.messages)
    (hc : c ∈ db.channels) (hid : c.id = m.channelId) (hreadable : c.Readable db now userId)
    (hmessage : message.id = m.id ∧ message.channel = c.name) : message.Granted db now userId :=
  ⟨m, hm, hmessage.1.symm, c, hreadable.granted hc, hid, hmessage.2.symm⟩

lemma searchMessages_granted {P : TextSearch} {query : MessageSearchQuery}
    {item : MessageSearchResult} (h : item ∈ (searchMessages P db now userId query).items) :
    item.message.Granted db now userId := by
  rw [searchMessages] at h
  dsimp only at h
  split at h
  · exact absurd h List.not_mem_nil
  · obtain ⟨r, hr, rfl⟩ := List.mem_map.mp (List.mem_of_mem_take h)
    obtain ⟨m, hm, hjoin⟩ := List.mem_filterMap.mp
      ((List.mem_insertionSort _).mp (List.mem_of_mem_take hr))
    split at hjoin
    · obtain ⟨c, hc, rfl⟩ := Option.map_eq_some_iff.mp hjoin
      have hwhere := List.find?_some hc
      obtain ⟨hid, -, hreadable, -⟩ := of_decide_eq_true hwhere
      exact granted_of_join hm (List.mem_of_find?_eq_some hc) hid hreadable ⟨rfl, rfl⟩
    · exact absurd hjoin (by simp)

lemma listSavedMessages_granted {db : Archive} {limit : Option ℤ} {message : ChatMessage}
    (h : message ∈ listSavedMessages db now userId limit) :
    message.Granted db.toDatabase now userId := by
  obtain ⟨s, hs, hview⟩ := List.mem_filterMap.mp h
  obtain ⟨⟨m, c⟩, hjoin, rfl⟩ := Option.map_eq_some_iff.mp hview
  have hsaved := List.mem_filter.mp ((List.mem_insertionSort _).mp (List.mem_of_mem_take hs))
  have huser : s.userId = userId := (of_decide_eq_true hsaved.2).1
  obtain ⟨m', hm, hchannel⟩ := Option.bind_eq_some_iff.mp hjoin
  obtain ⟨c', hc, hpair⟩ := Option.map_eq_some_iff.mp hchannel
  obtain ⟨rfl, rfl⟩ := Prod.mk.injEq .. ▸ hpair
  have hwhere := List.find?_some hc
  obtain ⟨hid, hreadable⟩ := of_decide_eq_true hwhere
  exact granted_of_join (List.mem_of_find?_eq_some hm) (List.mem_of_find?_eq_some hc) hid
    (huser ▸ hreadable) ⟨rfl, rfl⟩

/-- The single message is checked by `ensure_channel_access` itself, under the name of its
channel. -/
lemma getMessage_granted {id : Uuid} {message : ChatMessage}
    (h : getMessage db now userId id = .ok message) : message.Granted db now userId := by
  rw [getMessage] at h
  split at h
  · exact absurd h (by simp)
  · rename_i view hfound
    obtain ⟨_, haccess, hview⟩ := Effect.bind_eq_ok h
    obtain ⟨m, hm, hjoin⟩ := Option.bind_eq_some_iff.mp hfound
    obtain ⟨c, hc, rfl⟩ := Option.map_eq_some_iff.mp hjoin
    obtain rfl : db.view c.name m = message := Except.ok.inj hview
    have hwhere := List.find?_some hc
    exact ⟨m, List.mem_of_find?_eq_some hm, rfl, c, ⟨List.mem_of_find?_eq_some hc, haccess⟩,
      (of_decide_eq_true hwhere).1, rfl⟩

/-- Every disjunct of the recipients' condition asks for a public channel or a membership. -/
lemma messageRecipients_granted {U : Unicode} {lower : String → String} {db : Directory}
    {actor : AuthUser} {message : ChatMessage} {r : Recipient}
    (h : r ∈ messageRecipients U lower db now actor message) :
    ∃ c : ChannelRow, c.Granted db.toDatabase now r.userId ∧ c.id = r.channelId ∧
      c.name = message.channel := by
  obtain ⟨⟨⟨⟨c, u⟩, cm⟩, np⟩, hrow, rfl⟩ := List.mem_map.mp h
  obtain ⟨hrow, hwhere⟩ := List.mem_filter.mp hrow
  obtain ⟨hname, hlive, -, -, hban, hreason⟩ := of_decide_eq_true hwhere
  obtain ⟨husers, hcm⟩ := mem_leftJoin (mem_leftJoin hrow).1
  have hkind : c.kind = .pub ∨ cm.isSome := by
    rcases hreason with ⟨-, -, hkind⟩ | ⟨-, hcm, -⟩ | ⟨-, hcm, -⟩ | ⟨hpub, -⟩
    · exact hkind
    · exact Or.inr hcm
    · exact Or.inr hcm
    · exact Or.inl hpub
  have hmember := member_of_partner hcm hkind
  exact ⟨c, ChannelRow.Readable.granted (mem_join.mp husers).1 ⟨hlive, hmember, hban⟩, rfl, hname⟩

/-- A file served to another user than its uploader is attached to a message of a channel that
`ensure_channel_access` grants the user. -/
lemma downloadFile_granted {Stream : Type} {getStream : FileRow → Option Stream} {id : Uuid}
    {f : FileRow} {stream : Stream}
    (h : downloadFile getStream db now userId id = .ok (f, stream))
    (huploader : f.uploaderUserId ≠ userId) :
    ∃ mf ∈ db.messageFiles, mf.fileId = f.id ∧ ∃ m ∈ db.messages, m.id = mf.messageId ∧
      m.deletedAt = none ∧ ∃ c : ChannelRow, c.Granted db now userId ∧ c.id = m.channelId := by
  have hrow : downloadRow? db now userId id = some f := by
    rw [downloadFile] at h
    split at h
    · exact absurd h (by simp)
    · rename_i f' hrow
      split at h
      · exact absurd h (by simp)
      · rw [Except.ok.injEq, Prod.mk.injEq] at h
        rw [hrow, h.1]
  have hwhere := List.find?_some hrow
  obtain ⟨-, -, -, hreason⟩ := of_decide_eq_true hwhere
  obtain ⟨⟨⟨⟨mf, m⟩, c⟩, cm⟩, hjoined, hfile, hm, hlive, hkind, hban⟩ :=
    hreason.resolve_left fun hown => huploader hown.1
  obtain ⟨hchannel, hcm⟩ := mem_leftJoin hjoined
  obtain ⟨hmessage, hc, hid⟩ := mem_join.mp hchannel
  obtain ⟨hmf, hmem, hattached⟩ := mem_join.mp hmessage
  have hmember := member_of_partner hcm hkind
  exact ⟨mf, hmf, hfile, m, hmem, of_decide_eq_true hattached, hm, c,
    ChannelRow.Readable.granted hc ⟨hlive, hmember, hban⟩, of_decide_eq_true hid⟩

end Produced

/-- **Hand-written access**: over every state of the tables, every instant and every user, the
channels, conversations, unread counts and favorites listed, the messages found, saved or fetched,
the recipients of every notification, and the files served to another user than their uploader lie
in channels that `ensure_channel_access` grants the user at that instant. -/
theorem produced_accessible (U : Unicode) (P : TextSearch) (lower : String → String)
    (db : Directory) (now : Millis) (userId : Uuid) :
    (∀ name ∈ listChannels db.toDatabase now userId,
      ∃ c : ChannelRow, c.Granted db.toDatabase now userId ∧ c.name = name) ∧
    (∀ s ∈ listVisibleConversations db.toDatabase now userId,
      ∃ c : ChannelRow, c.Granted db.toDatabase now userId ∧ c.id = s.id ∧ c.name = s.name) ∧
    (∀ u ∈ listUnread db.toDatabase now userId,
      ∃ c : ChannelRow, c.Granted db.toDatabase now userId ∧ c.name = u.channel) ∧
    (∀ name ∈ listFavoriteChannels db now userId,
      ∃ c : ChannelRow, c.Granted db.toDatabase now userId ∧ c.name = name) ∧
    (∀ query, ∀ item ∈ (searchMessages P db.toDatabase now userId query).items,
      item.message.Granted db.toDatabase now userId) ∧
    (∀ limit, ∀ message ∈ listSavedMessages db.toArchive now userId limit,
      message.Granted db.toDatabase now userId) ∧
    (∀ id message, getMessage db.toDatabase now userId id = .ok message →
      message.Granted db.toDatabase now userId) ∧
    (∀ actor message, ∀ r ∈ messageRecipients U lower db now actor message,
      ∃ c : ChannelRow, c.Granted db.toDatabase now r.userId ∧ c.id = r.channelId ∧
        c.name = message.channel) ∧
    (∀ (Stream : Type) (getStream : FileRow → Option Stream) id f stream,
      downloadFile getStream db.toDatabase now userId id = .ok (f, stream) →
      f.uploaderUserId ≠ userId →
      ∃ mf ∈ db.messageFiles, mf.fileId = f.id ∧ ∃ m ∈ db.messages, m.id = mf.messageId ∧
        m.deletedAt = none ∧
        ∃ c : ChannelRow, c.Granted db.toDatabase now userId ∧ c.id = m.channelId) :=
  ⟨fun _ h => listChannels_granted h, fun _ h => listVisibleConversations_granted h,
    fun _ h => listUnread_granted h, fun _ h => listFavoriteChannels_granted h,
    fun _ _ h => searchMessages_granted h, fun _ _ h => listSavedMessages_granted h,
    fun _ _ h => getMessage_granted h, fun _ _ _ h => messageRecipients_granted h,
    fun _ _ _ _ _ h hne => downloadFile_granted h hne⟩

end Vussa
