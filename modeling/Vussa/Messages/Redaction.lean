import Vussa.History.HotReads
import Vussa.Model.Database

/-!
What the read paths show of a deleted message: the history and thread pages of the socket, the
retry lookup of `SendMessage` (`repository/postgres.rs`), the single message and the saved list
(`api/media.rs`) and the search (`api/discovery.rs`). Every path repeats the projection of a row in
its own SQL; the saved list selects `m.text` where the others hide it.

A page answered from the hot cache is not read from the tables: what the two Valkey keys hold of the
message is part of the condition. The text search of PostgreSQL is a parameter.

* `Archive`: the tables with `saved_messages`, and their keys;
* `getMessage`, `listSavedMessages`, `searchMessages`: the endpoints, next to the reading functions
  of `Vussa.Model`;
* `ReadRequest`, `ReadRequest.answer`: the read paths that need no moderation permission;
* `CacheHides`: no page that the cache of an open channel answers has a copy with a text;
* `hidden_iff`: **a deleted message is hidden on every path iff it has no text or no user has it
  among the two hundred visible messages saved last, and the caches hide it**.
-/

namespace Vussa

open Timeline

/-! ### Tables -/

/-- A row of `saved_messages`. -/
structure SavedRow where
  userId : Uuid
  messageId : Uuid
  createdAt : Millis
  deriving DecidableEq, Repr

/-- The sort key of the saved list. -/
def SavedRow.stamp (s : SavedRow) : Stamp := Vussa.stamp s.createdAt s.messageId

/-- The tables with `saved_messages`, whose primary key is the pair of user and message. -/
structure Archive extends Database where
  savedMessages : List SavedRow := []
  wellFormed : toDatabase.WellFormed
  savedKey : (savedMessages.map fun s => (s.userId, s.messageId)).Nodup

/-! ### The endpoints -/

/-- The query of `get_message`, and its access check. -/
def getMessage (db : Database) (now : Millis) (userId id : Uuid) : Except AppError ChatMessage :=
  match (db.messages.find? fun m => m.id = id).bind fun m =>
      (db.channels.find? fun c => c.id = m.channelId ∧ c.deletedAt = none ∧
        (c.kind = .pub ∨ Member db c.id userId)).map fun c => db.view c.name m with
  | none => .error RepositoryError.notFound.toApp
  | some message => do
      ensureChannelAccess db now message.channel userId
      return message

/-- The message and the channel a saved row joins, if the user may read the channel. -/
def Archive.joined? (db : Archive) (now : Millis) (s : SavedRow) :
    Option (MessageRow × ChannelRow) :=
  (db.messages.find? fun m => m.id = s.messageId).bind fun m =>
    (db.channels.find? fun c =>
      c.id = m.channelId ∧ c.Readable db.toDatabase now s.userId).map fun c => (m, c)

/-- The saved rows of a user that the list shows. -/
def Archive.visibleSaved (db : Archive) (now : Millis) (userId : Uuid) : List SavedRow :=
  db.savedMessages.filter fun s => s.userId = userId ∧ (db.joined? now s).isSome

/-- The projection that selects the text as it is. -/
def Database.rawView (db : Database) (channel : String) (m : MessageRow) : ChatMessage :=
  { db.view channel m with text := m.text }

/-- The limit of `list_saved_messages`. -/
def savedLimit (limit : Option ℤ) : ℕ := (max 1 (min (limit.getD 100) 200)).toNat

/-- `list_saved_messages`. -/
def listSavedMessages (db : Archive) (now : Millis) (userId : Uuid) (limit : Option ℤ) :
    List ChatMessage :=
  (((db.visibleSaved now userId).insertionSort fun a b => b.stamp ≤ a.stamp).take
    (savedLimit limit)).filterMap fun s =>
      (db.joined? now s).map fun (m, c) => db.rawView c.name m

/-- The text search of PostgreSQL: whether a text matches a term, by `search_vector` or `ILIKE`,
and `ts_headline`. -/
structure TextSearch where
  matching : String → String → Bool
  headline : String → String → String

/-- `MessageSearchQuery`. -/
structure MessageSearchQuery where
  q : Option String := none
  channel : Option String := none
  fromCreatedAt : Option ℤ := none
  toCreatedAt : Option ℤ := none
  beforeCreatedAt : Option ℤ := none
  beforeId : Option Uuid := none
  limit : Option ℤ := none
  deriving DecidableEq, Repr

/-- `MessageSearchResult`. -/
structure MessageSearchResult where
  message : ChatMessage
  snippet : String
  highlighted : String
  deriving DecidableEq, Repr

/-- The answer of `search_messages`. -/
structure SearchPage where
  items : List MessageSearchResult := []
  next : Option (Millis × Uuid) := none
  deriving DecidableEq, Repr

/-- The cursor of a search: without `before_id` a `before_created_at` selects nothing. -/
def MessageRow.SearchBefore (m : MessageRow) : Option ℤ → Option Uuid → Prop
  | none, _ => True
  | some _, none => False
  | some t, some id => m.stamp < toLex (t, id)

instance (m : MessageRow) : ∀ t id, Decidable (m.SearchBefore t id)
  | none, _ => isTrue trivial
  | some _, none => isFalse fun h => h
  | some _, some _ => inferInstanceAs (Decidable (_ < _))

/-- The rows of `search_messages`, each with its channel. -/
def searchRows (P : TextSearch) (db : Database) (now : Millis) (userId : Uuid) (term : String)
    (query : MessageSearchQuery) : List (MessageRow × ChannelRow) :=
  db.messages.filterMap fun m =>
    if m.deletedAt = none ∧ (∀ t ∈ query.fromCreatedAt, t ≤ ((m.createdAt : ℕ) : ℤ)) ∧
        (∀ t ∈ query.toCreatedAt, ((m.createdAt : ℕ) : ℤ) ≤ t) ∧
        m.SearchBefore query.beforeCreatedAt query.beforeId ∧ P.matching m.text term then
      (db.channels.find? fun c => c.id = m.channelId ∧ c.archivedAt = none ∧
        c.Readable db now userId ∧ ∀ name ∈ query.channel, c.name = name).map fun c => (m, c)
    else none

/-- The limit of `search_messages`. -/
def searchLimit (limit : Option ℤ) : ℕ := (max 1 (min (limit.getD 50) 100)).toNat

/-- `search_messages`. -/
def searchMessages (P : TextSearch) (db : Database) (now : Millis) (userId : Uuid)
    (query : MessageSearchQuery) : SearchPage :=
  let term := trim (query.q.getD "")
  if term = "" ∨ 200 < term.utf8ByteSize then {}
  else
    let limit := searchLimit query.limit
    let rows := ((searchRows P db now userId term query).insertionSort
      fun a b => b.1.stamp ≤ a.1.stamp).take (limit + 1)
    let items := (rows.map fun (m, c) =>
      { message := db.rawView c.name m, snippet := m.text,
        highlighted := P.headline m.text term }).take limit
    { items := items
      next := if limit < rows.length then
          items.getLast?.map fun item => (item.message.createdAt, item.message.id)
        else none }

/-! ### The read paths -/

/-- The read paths open without a moderation permission. -/
inductive ReadRequest where
  | history (channel : String) (before : Option Cursor)
  | thread (channel : String) (rootMessageId : Uuid) (before : Option Cursor)
  | message (id : Uuid)
  | search (query : MessageSearchQuery)
  | saved (limit : Option ℤ)
  | retry (clientId : String)
  deriving DecidableEq, Repr

/-- What a path shows: a message, and the excerpts of a search result. -/
structure Shown where
  message : ChatMessage
  excerpts : List String := []
  deriving DecidableEq, Repr

/-- The answer of a read path to a user; `caches` are the hot caches by channel name. -/
def ReadRequest.answer (P : TextSearch) (db : Archive) (caches : String → HotKeys)
    (now : Millis) (user : AuthUser) (session : Uuid) :
    ReadRequest → Except AppError (List Shown)
  | .history channel before => do
      ensureChannelAccess db.toDatabase now channel user.id
      return ((caches channel).historyReply db.toDatabase now channel before).1.messages.map
        fun m => { message := m }
  | .thread channel root before => do
      requirePermission user .chatWrite
      ensureChannelAccess db.toDatabase now channel user.id
      return (loadThread db.toDatabase channel root (before.map Cursor.cast) historyPageSize).map
        fun m => { message := m }
  | .message id => do
      let m ← getMessage db.toDatabase now user.id id
      return [{ message := m }]
  | .search query =>
      return (searchMessages P db.toDatabase now user.id query).items.map fun item =>
        { message := item.message, excerpts := [item.snippet, item.highlighted] }
  | .saved limit => return (listSavedMessages db now user.id limit).map fun m => { message := m }
  | .retry clientId =>
      return (findMessageByClientId db.toDatabase session clientId).toList.map
        fun m => { message := m }

/-- A message is left out, or shown with an empty text. -/
def Hides (m : MessageRow) (answer : Except AppError (List Shown)) : Prop :=
  ∀ items, answer = .ok items → ∀ item ∈ items, item.message.id = m.id →
    item.message.text = "" ∧ ∀ t ∈ item.excerpts, t = ""

/-! ### The paths that hide -/

section Hides

variable {db : Database} {m : MessageRow}

/-- The projection of a stored row that hides a deleted text. -/
def IsView (db : Database) (message : ChatMessage) : Prop :=
  ∃ row ∈ db.messages, ∃ name, message = db.view name row

/-- The view of a deleted message has no text. -/
lemma IsView.text_eq {message : ChatMessage} (h : IsView db message) (hwf : db.WellFormed)
    (hm : m ∈ db.messages) (hdeleted : m.deletedAt ≠ none) (hid : message.id = m.id) :
    message.text = "" := by
  obtain ⟨row, hrow, name, rfl⟩ := h
  obtain rfl : row = m := hwf.eq_of_id hrow hm hid
  exact if_neg hdeleted

/-- A path that shows messages without text under the identifier. -/
lemma hides_of_text (messages : List ChatMessage)
    (h : ∀ message ∈ messages, message.id = m.id → message.text = "") :
    Hides m (.ok (messages.map fun message => { message := message })) := by
  intro items hok item hitem hid
  rw [Except.ok.injEq] at hok
  rw [← hok] at hitem
  obtain ⟨message, hmessage, rfl⟩ := List.mem_map.mp hitem
  exact ⟨h message hmessage hid, by simp⟩

/-- A check in front only adds refusals. -/
lemma Hides.check {α : Type} {x : Except AppError α} {f : α → Except AppError (List Shown)}
    (h : ∀ a, x = .ok a → Hides m (f a)) : Hides m (x >>= f) := by
  intro items hok
  obtain ⟨a, ha, hrest⟩ := Effect.bind_eq_ok hok
  exact h a ha items hrest

lemma isView_of_mem_loadMessages {now : Millis} {name : String} {before : Option Stamp}
    {limit : ℕ} {message : ChatMessage} (h : message ∈ loadMessages db now name before limit) :
    IsView db message := by
  obtain ⟨c, -, row, hrow, rfl⟩ := mem_loadMessages h
  exact ⟨row, List.mem_of_mem_filter hrow, c.name, rfl⟩

lemma isView_of_mem_loadThread {name : String} {root : Uuid} {before : Option Stamp} {limit : ℕ}
    {message : ChatMessage} (h : message ∈ loadThread db name root before limit) :
    IsView db message := by
  obtain ⟨c, -, row, hrow, rfl⟩ := mem_loadThread h
  exact ⟨row, List.mem_of_mem_filter hrow, c.name, rfl⟩

lemma isView_of_getMessage {now : Millis} {user id : Uuid} {message : ChatMessage}
    (h : getMessage db now user id = .ok message) : IsView db message := by
  rw [getMessage] at h
  split at h
  · exact absurd h (by simp)
  · rename_i view hfound
    obtain ⟨-, -, hview⟩ := Effect.bind_eq_ok h
    obtain ⟨row, hrow, hjoin⟩ := Option.bind_eq_some_iff.mp hfound
    obtain ⟨c, -, rfl⟩ := Option.map_eq_some_iff.mp hjoin
    obtain rfl : db.view c.name row = message := Except.ok.inj hview
    exact ⟨row, List.mem_of_find?_eq_some hrow, c.name, rfl⟩

lemma isView_of_findMessageByClientId {session : Uuid} {clientId : String}
    {message : ChatMessage} (h : findMessageByClientId db session clientId = some message) :
    IsView db message := by
  obtain ⟨row, hrow, hjoin⟩ := List.exists_of_findSome?_eq_some h
  split at hjoin
  · obtain ⟨c, -, rfl⟩ := Option.map_eq_some_iff.mp hjoin
    exact ⟨row, hrow, c.name, rfl⟩
  · exact absurd hjoin (by simp)

/-- A search finds no deleted row. -/
lemma deletedAt_of_mem_searchRows {P : TextSearch} {now : Millis} {user : Uuid} {term : String}
    {query : MessageSearchQuery} {r : MessageRow × ChannelRow}
    (h : r ∈ searchRows P db now user term query) :
    r.1 ∈ db.messages ∧ r.1.deletedAt = none := by
  obtain ⟨row, hrow, hjoin⟩ := List.mem_filterMap.mp h
  split at hjoin
  · rename_i hrow'
    obtain ⟨c, -, rfl⟩ := Option.map_eq_some_iff.mp hjoin
    exact ⟨hrow, hrow'.1⟩
  · exact absurd hjoin (by simp)

/-- A search result is a row that is not deleted. -/
lemma mem_searchMessages {P : TextSearch} {now : Millis} {user : Uuid}
    {query : MessageSearchQuery} {item : MessageSearchResult}
    (h : item ∈ (searchMessages P db now user query).items) :
    ∃ row ∈ db.messages, row.deletedAt = none ∧ item.message.id = row.id := by
  rw [searchMessages] at h
  dsimp only at h
  split at h
  · exact absurd h List.not_mem_nil
  · obtain ⟨r, hr, rfl⟩ := List.mem_map.mp (List.mem_of_mem_take h)
    have hrow := deletedAt_of_mem_searchRows
      ((List.mem_insertionSort _).mp (List.mem_of_mem_take hr))
    exact ⟨r.1, hrow.1, hrow.2, rfl⟩

end Hides

/-! ### The saved list -/

namespace Archive

variable (db : Archive) (now : Millis)

/-- A user has a message among the two hundred visible messages saved last. -/
def SavedRecently (userId : Uuid) (m : MessageRow) : Prop :=
  ∃ s ∈ db.visibleSaved now userId, s.messageId = m.id ∧
    ((db.visibleSaved now userId).filter fun s' => s.stamp < s'.stamp).length < 200

/-- The primary key orders the saved rows of a user. -/
lemma visibleSaved_keyed (userId : Uuid) : Keyed SavedRow.stamp (db.visibleSaved now userId) := by
  have hkey : (db.visibleSaved now userId).Pairwise
      fun a b => (a.userId, a.messageId) ≠ (b.userId, b.messageId) :=
    (List.pairwise_map.mp db.savedKey).sublist List.filter_sublist
  refine List.pairwise_map.mpr (hkey.imp_of_mem fun {a b} ha hb hne heq => ?_)
  have hau := (of_decide_eq_true (List.mem_filter.mp ha).2).1
  have hbu := (of_decide_eq_true (List.mem_filter.mp hb).2).1
  have hmember := congrArg SortedSet.member heq
  exact hne (Prod.ext (hau.trans hbu.symm) hmember)

/-- What `list_saved_messages` shows. -/
lemma mem_listSavedMessages {userId : Uuid} {limit : Option ℤ} {message : ChatMessage} :
    message ∈ listSavedMessages db now userId limit ↔
      ∃ s ∈ db.visibleSaved now userId,
        ((db.visibleSaved now userId).filter fun s' => s.stamp < s'.stamp).length
            < savedLimit limit ∧
          ∃ row c, db.joined? now s = some (row, c) ∧ message = db.rawView c.name row := by
  have hnewest : ∀ s, s ∈ ((db.visibleSaved now userId).insertionSort
      fun a b => b.stamp ≤ a.stamp).take (savedLimit limit) ↔ s ∈ db.visibleSaved now userId ∧
        ((db.visibleSaved now userId).filter fun s' => s.stamp < s'.stamp).length
          < savedLimit limit := by
    intro s
    rw [← List.mem_reverse, reverse_take_eq_newest (db.visibleSaved_keyed now userId),
      mem_newest (db.visibleSaved_keyed now userId)]
  rw [listSavedMessages, List.mem_filterMap]
  refine ⟨?_, ?_⟩
  · rintro ⟨s, hs, hjoin⟩
    obtain ⟨⟨row, c⟩, hrow, rfl⟩ := Option.map_eq_some_iff.mp hjoin
    exact ⟨s, ((hnewest s).mp hs).1, ((hnewest s).mp hs).2, row, c, hrow, rfl⟩
  · rintro ⟨s, hs, hrank, row, c, hrow, rfl⟩
    exact ⟨s, (hnewest s).mpr ⟨hs, hrank⟩, by rw [hrow]; rfl⟩

/-- The row a saved row joins is the stored message. -/
lemma joined?_some {s : SavedRow} {row : MessageRow} {c : ChannelRow}
    (h : db.joined? now s = some (row, c)) : row ∈ db.messages ∧ row.id = s.messageId := by
  obtain ⟨row', hrow, hjoin⟩ := Option.bind_eq_some_iff.mp h
  obtain ⟨c', -, heq⟩ := Option.map_eq_some_iff.mp hjoin
  obtain ⟨rfl, -⟩ := Prod.mk.injEq _ _ _ _ ▸ heq
  have hid := List.find?_some hrow
  exact ⟨List.mem_of_find?_eq_some hrow, of_decide_eq_true hid⟩

/-- **The saved list of a user hides a message**, under every limit, iff it has no text or is not
among the two hundred. -/
lemma saved_hides_iff (userId : Uuid) {m : MessageRow} (hm : m ∈ db.messages) :
    (∀ limit, ∀ message ∈ listSavedMessages db now userId limit, message.id = m.id →
      message.text = "") ↔ m.text = "" ∨ ¬ db.SavedRecently now userId m := by
  refine ⟨fun h => ?_, ?_⟩
  · by_contra hcon
    rw [not_or, not_not] at hcon
    obtain ⟨htext, s, hs, hid, hrank⟩ := hcon
    obtain ⟨⟨row, c⟩, hjoin⟩ :=
      Option.isSome_iff_exists.mp (of_decide_eq_true (List.mem_filter.mp hs).2).2
    obtain ⟨hrow, hrowid⟩ := db.joined?_some now hjoin
    obtain rfl : row = m := db.wellFormed.eq_of_id hrow hm (hrowid.trans hid)
    refine htext (h (some 200) (db.rawView c.name row) ?_ rfl)
    exact (db.mem_listSavedMessages now).mpr ⟨s, hs, hrank, row, c, hjoin, rfl⟩
  · intro h limit message hmessage hid
    obtain ⟨s, hs, hrank, row, c, hjoin, rfl⟩ := (db.mem_listSavedMessages now).mp hmessage
    obtain ⟨hrow, hrowid⟩ := db.joined?_some now hjoin
    obtain rfl : row = m := db.wellFormed.eq_of_id hrow hm hid
    refine h.resolve_right (not_not.mpr ⟨s, hs, hrowid.symm, ?_⟩)
    refine lt_of_lt_of_le hrank ?_
    rw [savedLimit]
    omega

end Archive

/-! ### Every path -/

/-- A user without the moderation permissions. -/
def Unprivileged (user : AuthUser) : Prop :=
  ∀ p ∈ user.permissions, p ≠ .chatModerate ∧ p ≠ .moderationRead ∧ p ≠ .moderationWrite

/-- A page that the cache answers has no copy of the message with a text. -/
def HotKeys.Hides (k : HotKeys) (before : Option Cursor) (m : MessageRow) : Prop :=
  k.Answers before → ∀ copy ∈ newest ChatMessage.stamp historyPageSize
    (k.loaded (before.map Cursor.cast)), copy.id = m.id → copy.text = ""

/-- No page that the cache of a channel answers, if some user may read the channel, has a copy of the
message with a text. -/
def CacheHides (db : Database) (caches : String → HotKeys) (now : Millis) (m : MessageRow) : Prop :=
  ∀ channel userId, ChannelAccess db now channel userId → ∀ before, (caches channel).Hides before m

/-- The history of a channel hides a deleted message iff its cache does. -/
lemma history_hides_iff (P : TextSearch) (db : Archive) (caches : String → HotKeys) (now : Millis)
    (user : AuthUser) (session : Uuid) {m : MessageRow} (hm : m ∈ db.messages)
    (hdeleted : m.deletedAt ≠ none) (channel : String) (before : Option Cursor) :
    Hides m ((ReadRequest.history channel before).answer P db caches now user session) ↔
      (ChannelAccess db.toDatabase now channel user.id → (caches channel).Hides before m) := by
  constructor
  · intro h haccess hcache copy hcopy hid
    have hanswer : (ReadRequest.history channel before).answer P db caches now user session =
        .ok ((newest ChatMessage.stamp historyPageSize
          ((caches channel).loaded (before.map Cursor.cast))).map fun m => { message := m }) := by
      rw [ReadRequest.answer, ensureChannelAccess_eq_ok.mpr haccess,
        HotKeys.historyReply_cache hcache]
      rfl
    exact (h _ hanswer _ (List.mem_map_of_mem hcopy) hid).1
  · intro h
    refine .check fun _ hok => hides_of_text _ fun message hmessage hid => ?_
    by_cases hcache : (caches channel).Answers before
    · rw [HotKeys.historyReply_cache hcache] at hmessage
      exact h (ensureChannelAccess_eq_ok.mp hok) hcache message hmessage hid
    · rw [HotKeys.historyReply_database hcache] at hmessage
      exact (isView_of_mem_loadMessages (mem_of_mem_cutPage hmessage)).text_eq db.wellFormed hm
        hdeleted hid

/-- Every path but the saved list hides a deleted message that the caches hide. -/
lemma hides_of_not_saved (P : TextSearch) (db : Archive) (caches : String → HotKeys)
    (now : Millis) (user : AuthUser) (session : Uuid) {m : MessageRow} (hm : m ∈ db.messages)
    (hdeleted : m.deletedAt ≠ none) (hcache : CacheHides db.toDatabase caches now m)
    {request : ReadRequest} (hrequest : ∀ limit, request ≠ .saved limit) :
    Hides m (request.answer P db caches now user session) := by
  have hview : ∀ {message : ChatMessage}, IsView db.toDatabase message → message.id = m.id →
      message.text = "" := fun h hid => h.text_eq db.wellFormed hm hdeleted hid
  cases request with
  | history channel before =>
      exact (history_hides_iff P db caches now user session hm hdeleted channel before).mpr
        fun haccess => hcache channel user.id haccess before
  | thread channel root before =>
      exact .check fun _ _ => .check fun _ _ => hides_of_text _ fun message hmessage hid =>
        hview (isView_of_mem_loadThread hmessage) hid
  | message id =>
      refine .check fun message hok => hides_of_text [message] fun message' h hid => ?_
      rw [List.mem_singleton] at h
      exact hview (isView_of_getMessage (h ▸ hok)) hid
  | search query =>
      intro items hok item hitem hid
      obtain rfl := Except.ok.inj hok
      obtain ⟨result, hresult, rfl⟩ := List.mem_map.mp hitem
      obtain ⟨row, hrow, hlive, hrowid⟩ := mem_searchMessages hresult
      obtain rfl : row = m := db.wellFormed.eq_of_id hrow hm (hrowid.symm.trans hid)
      exact absurd hlive hdeleted
  | saved limit => exact absurd rfl (hrequest limit)
  | retry clientId =>
      refine hides_of_text _ fun message hmessage hid => ?_
      rw [Option.mem_toList] at hmessage
      exact hview (isView_of_findMessageByClientId hmessage) hid

/-- A user without permissions. -/
def plainUser (id : Uuid) : AuthUser :=
  { id := id, email := "", username := "", roles := [], permissions := [] }

/-- **Deleted messages**: over every state of the tables and of the caches, a deleted message is left
out or shown with an empty text on every read path of every user without moderation permissions iff
it has no text or no user has it among the two hundred visible messages saved last, and no page that
the cache of an open channel answers has a copy of it with a text. -/
theorem hidden_iff (P : TextSearch) (db : Archive) (caches : String → HotKeys) (now : Millis)
    {m : MessageRow} (hm : m ∈ db.messages) (hdeleted : m.deletedAt ≠ none) :
    (∀ user session request, Unprivileged user →
      Hides m (ReadRequest.answer P db caches now user session request)) ↔
    (m.text = "" ∨ ∀ userId, ¬ db.SavedRecently now userId m) ∧
      CacheHides db.toDatabase caches now m := by
  have hplain : ∀ userId, Unprivileged (plainUser userId) := by simp [Unprivileged, plainUser]
  have hsplit : (∀ user session request, Unprivileged user →
      Hides m (ReadRequest.answer P db caches now user session request)) ↔
      (∀ userId limit, ∀ message ∈ listSavedMessages db now userId limit, message.id = m.id →
        message.text = "") ∧ CacheHides db.toDatabase caches now m := by
    constructor
    · intro h
      refine ⟨fun userId limit message hmessage hid => ?_, fun channel userId haccess before => ?_⟩
      · have huser := h (plainUser userId) 0 (.saved limit) (hplain userId)
        exact (huser _ rfl _ (List.mem_map_of_mem hmessage) hid).1
      · have huser := h (plainUser userId) 0 (.history channel before) (hplain userId)
        exact (history_hides_iff P db caches now _ 0 hm hdeleted channel before).mp huser haccess
    · rintro ⟨hsaved, hcache⟩ user session request -
      by_cases hrequest : ∃ limit, request = .saved limit
      · obtain ⟨limit, rfl⟩ := hrequest
        exact hides_of_text _ fun message hmessage hid => hsaved user.id limit message hmessage hid
      · exact hides_of_not_saved P db caches now user session hm hdeleted hcache
          fun limit heq => hrequest ⟨limit, heq⟩
  rw [hsplit, ← forall_or_left]
  exact and_congr_left fun _ => forall_congr' fun userId => db.saved_hides_iff now userId hm

/-- A deleted message. -/
def deletedRow (text : String) : MessageRow :=
  { id := 20, channelId := 7, username := "a", text := text, createdAt := 2, ownerSession := 5,
    deletedAt := some 3 }

/-- One public channel with a deleted message, saved by a user. -/
def savedArchive (text : String) : Archive where
  channels := [{ id := 7, name := "main", createdAt := 1 }]
  messages := [deletedRow text]
  savedMessages := [{ userId := 1, messageId := 20, createdAt := 2 }]
  wellFormed := ⟨List.nodup_singleton _, List.nodup_singleton _, List.nodup_singleton _⟩
  savedKey := List.nodup_singleton _

/-- A search that matches everything. -/
def anyMatch : TextSearch := { matching := fun _ _ => true, headline := fun text _ => text }

/-- A deleted message without text is hidden although it is saved. -/
theorem hidden_emptied :
    (deletedRow "").deletedAt ≠ none ∧ ∀ user session request, Unprivileged user →
      Hides (deletedRow "") (ReadRequest.answer anyMatch (savedArchive "") (fun _ => .empty) 10
        user session request) := by
  have hdeleted : (deletedRow "").deletedAt ≠ none := by decide
  exact ⟨hdeleted, (hidden_iff anyMatch (savedArchive "") (fun _ => .empty) 10
    (List.mem_singleton_self _) hdeleted).mpr
      ⟨Or.inl rfl, fun _ _ _ before hcache => absurd hcache (HotKeys.not_answers_empty before)⟩⟩

/-- The saved list shows the text of a deleted message. -/
theorem saved_not_hidden :
    deletedRow "secret" ∈ (savedArchive "secret").messages ∧
      (deletedRow "secret").deletedAt ≠ none ∧
      ∃ user, Unprivileged user ∧
        ¬ Hides (deletedRow "secret") (ReadRequest.answer anyMatch (savedArchive "secret")
          (fun _ => .empty) 10 user 5 (.saved none)) := by
  refine ⟨List.mem_singleton_self _, by decide,
    { id := 1, email := "", username := "", roles := [], permissions := [] },
    by simp [Unprivileged], fun h => ?_⟩
  have hmem : { message := (savedArchive "secret").rawView "main" (deletedRow "secret") } ∈
      (listSavedMessages (savedArchive "secret") 10 1 none).map
        fun m => ({ message := m } : Shown) := by decide
  have hshown := (h _ rfl _ hmem rfl).1
  exact absurd hshown (by decide)

end Vussa
