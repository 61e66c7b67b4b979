import Vussa.Lib.SortedSet
import Vussa.Lib.Timeline
import Vussa.Model.Messages

/-!
The hot cache of a channel and the history pages served from it (`websocket/history.rs`).

Valkey keeps a hash of payloads and a sorted set of message identifiers under the name of the
channel. `HotHistory` is a cache on which every function has run to its end: both keys hold the same
messages, which it carries as fields. Between two commands of a function, or behind one that failed
half way, the two keys may disagree; `HotKeys` has them apart. Scores are the instants as integers:
Valkey's doubles hold them exactly below `2 ^ 53`.

* `HotHistory`, `HotHistory.log`: the cache of one channel and its messages in order;
* `HotHistory.store`, `hydrateHotHistory`, `storeMessage`: the writers;
* `loadHotHistory_eq`, `loadHotHistoryBefore_eq`: what the reading functions return, in terms of
  the log;
* `historyReply`, `sendHistoryPage`: the page a history request is answered with, and the cache
  after it;
* `sendThreadPage`: the page a thread request is answered with.
-/

namespace Vussa

open SortedSet Timeline

/-- The two Valkey keys `chat:history:{channel}:messages` and `chat:history:{channel}:order`, with the
same messages. -/
structure HotHistory where
  messages : Uuid → Option StoredMessage
  order : SortedSet ℤ Uuid
  keyed : ∀ id r, messages id = some r → r.id = id
  scored : ∀ e, e ∈ order.entries ↔ ∃ r, messages (member e) = some r ∧ r.intoMessage.stamp = e

namespace HotHistory

/-- Both keys deleted. -/
def empty : HotHistory where
  messages := fun _ => none
  order := SortedSet.empty
  keyed := by simp
  scored := by simp [SortedSet.empty]

/-! ### Writing -/

/-- One `HSET` and `ZADD` pair. -/
def store (h : HotHistory) (record : StoredMessage) : HotHistory where
  messages := Function.update h.messages record.id (some record)
  order := h.order.add ((record.createdAt : ℕ) : ℤ) record.id
  keyed := by
    intro id r hr
    by_cases hid : id = record.id
    · subst hid
      rw [Function.update_self, Option.some.injEq] at hr
      rw [hr]
    · rw [Function.update_of_ne hid] at hr
      exact h.keyed id r hr
  scored := by
    intro e
    rw [mem_add]
    by_cases hid : member e = record.id
    · rw [hid, Function.update_self]
      refine ⟨?_, ?_⟩
      · rintro (he | he)
        · exact ⟨record, rfl, he.symm⟩
        · exact absurd rfl he.2
      · rintro ⟨r, hr, he⟩
        rw [Option.some.injEq] at hr
        exact Or.inl (by rw [← he, ← hr]; rfl)
    · rw [Function.update_of_ne hid, ← h.scored]
      refine ⟨?_, ?_⟩
      · rintro (he | he)
        · exact absurd (by rw [he]; rfl) hid
        · exact he.1
      · exact fun he => Or.inr ⟨he, hid⟩

/-- One `ZREM` and `HDEL` pair. -/
def drop (h : HotHistory) (ids : List Uuid) : HotHistory where
  messages := fun id => if id ∈ ids then none else h.messages id
  order := h.order.rem ids
  keyed := by
    intro id r hr
    by_cases hid : id ∈ ids
    · rw [if_pos hid] at hr
      exact absurd hr (by simp)
    · rw [if_neg hid] at hr
      exact h.keyed id r hr
  scored := by
    intro e
    rw [mem_rem]
    by_cases hid : member e ∈ ids
    · simp [hid]
    · rw [if_neg hid, ← h.scored]
      exact ⟨fun he => he.1, fun he => ⟨he, hid⟩⟩

/-- `HMGET` of some identifiers, with the payloads decoded. -/
def fetch (h : HotHistory) (ids : List Uuid) : List ChatMessage :=
  (ids.filterMap h.messages).map StoredMessage.intoMessage

/-- The cached messages in the order of the sorted set. -/
def log (h : HotHistory) : List ChatMessage := h.fetch (h.order.entries.map member)

end HotHistory

/-- `hydrate_hot_history`. -/
def hydrateHotHistory (h : HotHistory) (messages : List ChatMessage) : HotHistory :=
  messages.foldl (fun h m => h.store (StoredMessage.fromMessage m Uuid.nil)) h

/-- `store_message`: the write, and the removal of all but the newest three hundred entries. -/
def storeMessage (h : HotHistory) (message : ChatMessage) (ownerSession : Uuid) : HotHistory :=
  let h' := h.store (StoredMessage.fromMessage message ownerSession)
  h'.drop (h'.order.range 0 (-((hotHistoryLimit + 1 : ℕ) : ℤ)))

/-- `update_hot_message`. -/
def updateHotMessage (h : HotHistory) (message : ChatMessage) : HotHistory :=
  storeMessage h message Uuid.nil

/-! ### Reading -/

/-- `before_history_cursor`, for an optional cursor. -/
def ChatMessage.Before (before : Option Stamp) (m : ChatMessage) : Prop :=
  ∀ s ∈ before, m.stamp < s

instance (before : Option Stamp) (m : ChatMessage) : Decidable (m.Before before) :=
  inferInstanceAs (Decidable (∀ s ∈ before, m.stamp < s))

/-- `messages.sort_by_key(|message| (message.created_at, message.id))`. -/
def sortMessages (messages : List ChatMessage) : List ChatMessage :=
  messages.insertionSort fun a b => a.stamp ≤ b.stamp

/-- `messages.split_off(messages.len() - HISTORY_PAGE_SIZE)` when there are more than a page. -/
def splitOffPage (messages : List ChatMessage) : List ChatMessage :=
  if historyPageSize < messages.length then messages.drop (messages.length - historyPageSize)
  else messages

/-- `load_hot_history`. -/
def loadHotHistory (h : HotHistory) : List ChatMessage :=
  h.fetch (h.order.range (-((hotHistoryLimit : ℕ) : ℤ)) (-1))

/-- `load_hot_history_before`. -/
def loadHotHistoryBefore (h : HotHistory) : Option Stamp → List ChatMessage
  | none => loadHotHistory h
  | some cursor =>
      splitOffPage (sortMessages ((h.fetch
        (h.order.revRangeByScore (score cursor) hotHistoryLimit)).filter
          fun m => m.Before (some cursor)))

/-- The data of a `History` or `HistoryPage` event. -/
structure HistoryReply where
  messages : List ChatMessage
  source : HistorySource
  hasMore : Bool
  deriving DecidableEq, Repr

/-- The cut at the end of `send_history_page`: without a cursor the newest messages stay, with a
cursor `truncate` keeps the oldest ones. -/
def cutPage (before : Option Cursor) (messages : List ChatMessage) : List ChatMessage :=
  if before.isNone then splitOffPage messages
  else if historyPageSize < messages.length then messages.take historyPageSize
  else messages

lemma cutPage_none (messages : List ChatMessage) : cutPage none messages = splitOffPage messages :=
  rfl

lemma cutPage_some (c : Cursor) (messages : List ChatMessage) :
    cutPage (some c) messages = messages.take historyPageSize := by
  rw [cutPage, if_neg (by simp)]
  by_cases hlen : historyPageSize < messages.length
  · rw [if_pos hlen]
  · rw [if_neg hlen, List.take_of_length_le (not_lt.mp hlen)]

/-- The cut of a page only drops messages. -/
lemma mem_of_mem_cutPage {before : Option Cursor} {l : List ChatMessage} {m : ChatMessage}
    (hm : m ∈ cutPage before (sortMessages l)) : m ∈ l := by
  have hsorted : m ∈ sortMessages l := by
    cases before with
    | none =>
        rw [cutPage_none, splitOffPage] at hm
        split at hm
        · exact List.mem_of_mem_drop hm
        · exact hm
    | some c =>
        rw [cutPage_some] at hm
        exact List.mem_of_mem_take hm
  exact (List.mem_insertionSort _).mp hsorted

/-- `cache_limit`. -/
def cacheLimit (before : Option Cursor) : ℕ :=
  if before.isNone then hotHistoryLimit else historyPageSize

/-- `send_history_page` up to the event, with the cache it leaves. -/
def historyReply (db : Database) (now : Millis) (channel : String) (h : HotHistory)
    (before : Option Cursor) : HistoryReply × HotHistory :=
  let cached := loadHotHistoryBefore h (before.map Cursor.cast)
  if cached.length < cacheLimit before then
    let rows := loadMessages db now channel (before.map Cursor.cast) (cacheLimit before + 1)
    let h' := if before.isNone then
        hydrateHotHistory h (rows.drop (rows.length - hotHistoryLimit))
      else h
    ({ messages := cutPage before (sortMessages rows), source := .database,
       hasMore := cacheLimit before < rows.length }, h')
  else
    ({ messages := cutPage before (sortMessages cached), source := .cache,
       hasMore := cacheLimit before ≤ cached.length }, h)

/-- `send_history_page`: the event sent, and the cache it leaves. -/
def sendHistoryPage (db : Database) (now : Millis) (channel : String) (h : HotHistory)
    (before : Option Cursor) : ServerEvent × HotHistory :=
  let (reply, h') := historyReply db now channel h before
  (match before with
    | none => .history channel reply.messages reply.source reply.hasMore
    | some _ => .historyPage channel reply.messages reply.source reply.hasMore, h')

/-- The answer of the `LoadThread` arm of `handle_client_event`. -/
def sendThreadPage (db : Database) (channel : String) (messageId : Uuid) (before : Option Cursor) :
    ServerEvent :=
  let messages := loadThread db channel messageId (before.map Cursor.cast) historyPageSize
  .threadHistory messageId messages (messages.length = historyPageSize)

/-! ### The log of a cache -/

namespace HotHistory

lemma fetch_cons (h : HotHistory) {id : Uuid} {r : StoredMessage} (hr : h.messages id = some r)
    (ids : List Uuid) : h.fetch (id :: ids) = r.intoMessage :: h.fetch ids := by
  rw [fetch, List.filterMap_cons_some hr, List.map_cons, fetch]

/-- The payloads of entries of the sorted set stand at those entries. -/
lemma fetch_stamps (h : HotHistory) {es : List Stamp} (hes : ∀ e ∈ es, e ∈ h.order.entries) :
    (h.fetch (es.map member)).map ChatMessage.stamp = es := by
  induction es with
  | nil => rfl
  | cons e es ih =>
      obtain ⟨r, hr, hstamp⟩ := (h.scored e).mp (hes e List.mem_cons_self)
      rw [List.map_cons, h.fetch_cons hr, List.map_cons, hstamp,
        ih fun e' he' => hes e' (List.mem_cons_of_mem _ he')]

/-- The stamps of the log are the entries of the sorted set. -/
lemma entries_eq (h : HotHistory) : h.order.entries = h.log.map ChatMessage.stamp :=
  (h.fetch_stamps fun _ he => he).symm

lemma log_chron (h : HotHistory) : Chron ChatMessage.stamp h.log := by
  have hsorted := h.order.sorted
  rw [h.entries_eq] at hsorted
  exact List.pairwise_map.mp hsorted

lemma log_keyed (h : HotHistory) : Keyed ChatMessage.stamp h.log := h.log_chron.keyed

lemma member_stamp (m : ChatMessage) : member m.stamp = m.id := rfl

/-- A message is in the log iff the hash has its payload. -/
lemma mem_log {h : HotHistory} {m : ChatMessage} :
    m ∈ h.log ↔ ∃ r, h.messages m.id = some r ∧ r.intoMessage = m := by
  refine ⟨?_, ?_⟩
  · intro hm
    obtain ⟨r, hr, hrm⟩ := List.mem_map.mp hm
    obtain ⟨id, hid, hget⟩ := List.mem_filterMap.mp hr
    have hrid := h.keyed id r hget
    refine ⟨r, ?_, hrm⟩
    rw [← hrm, show r.intoMessage.id = r.id from rfl, hrid]
    exact hget
  · rintro ⟨r, hr, rfl⟩
    have he := (h.scored r.intoMessage.stamp).mpr ⟨r, hr, rfl⟩
    exact List.mem_map_of_mem (List.mem_filterMap.mpr ⟨_, List.mem_map_of_mem he, hr⟩)

/-- Reading messages of the log back by their identifiers. -/
lemma fetch_ids (h : HotHistory) {l : List ChatMessage} (hl : ∀ m ∈ l, m ∈ h.log) :
    h.fetch ((l.map ChatMessage.stamp).map member) = l := by
  induction l with
  | nil => rfl
  | cons m l ih =>
      obtain ⟨r, hr, hrm⟩ := mem_log.mp (hl m List.mem_cons_self)
      rw [List.map_cons, List.map_cons, member_stamp, h.fetch_cons hr, hrm,
        ih fun m' hm' => hl m' (List.mem_cons_of_mem _ hm')]

/-- What a stored record does to the log: it replaces the message with its identifier. -/
lemma mem_log_store {h : HotHistory} {record : StoredMessage} {m : ChatMessage} :
    m ∈ (h.store record).log ↔ m = record.intoMessage ∨ (m ∈ h.log ∧ m.id ≠ record.id) := by
  rw [mem_log, mem_log]
  by_cases hid : m.id = record.id
  · simp only [store, hid, Function.update_self, Option.some.injEq, ne_eq, not_true_eq_false,
      and_false, or_false]
    refine ⟨?_, ?_⟩
    · rintro ⟨r, rfl, hrm⟩; exact hrm.symm
    · rintro rfl; exact ⟨record, rfl, rfl⟩
  · simp only [store, Function.update_of_ne hid, ne_eq, hid, not_false_eq_true, and_true]
    refine ⟨?_, ?_⟩
    · exact Or.inr
    · rintro (rfl | hr)
      · exact absurd rfl hid
      · exact hr

end HotHistory

/-- `storeMessage` keeps the newest three hundred entries. -/
lemma storeMessage_entries (h : HotHistory) (m : ChatMessage) (s : Uuid) :
    (storeMessage h m s).order.entries
      = (h.store (.fromMessage m s)).order.entries.drop
          ((h.store (.fromMessage m s)).order.entries.length - hotHistoryLimit) := by
  rw [storeMessage]
  simp only [HotHistory.drop]
  rw [range_butLast, rem_take_entries]

lemma HotHistory.mem_log_drop {h : HotHistory} {ids : List Uuid} {m : ChatMessage} :
    m ∈ (h.drop ids).log ↔ m ∈ h.log ∧ m.id ∉ ids := by
  rw [mem_log, mem_log]
  by_cases hid : m.id ∈ ids
  · simp [drop, hid]
  · simp [drop, hid]

/-- What `store_message` leaves: the newest three hundred messages after the write. -/
lemma storeMessage_log (h : HotHistory) (m : ChatMessage) (s : Uuid) :
    (storeMessage h m s).log
      = newest ChatMessage.stamp hotHistoryLimit (h.store (.fromMessage m s)).log := by
  have hentries := storeMessage_entries h m s
  set h' := h.store (.fromMessage m s) with hh'
  rw [newest, h'.log_chron.chron_eq]
  refine (storeMessage h m s).log_chron.ext (h'.log_chron.sublist (List.drop_sublist _ _)) ?_
  rw [HotHistory.entries_eq, h'.entries_eq, List.length_map, ← List.map_drop] at hentries
  intro a
  refine ⟨?_, ?_⟩
  · intro ha
    have ha' : a ∈ h'.log := (HotHistory.mem_log_drop.mp ha).1
    have hmem : a.stamp ∈ (h'.log.drop (h'.log.length - hotHistoryLimit)).map
        ChatMessage.stamp := by
      rw [← hentries]
      exact List.mem_map_of_mem ha
    obtain ⟨b, hb, hba⟩ := List.mem_map.mp hmem
    exact h'.log_keyed.eq_of_key (List.mem_of_mem_drop hb) ha' hba ▸ hb
  · intro ha
    have hmem : a.stamp ∈ (storeMessage h m s).log.map ChatMessage.stamp := by
      rw [hentries]
      exact List.mem_map_of_mem ha
    obtain ⟨b, hb, hba⟩ := List.mem_map.mp hmem
    have hb' : b ∈ h'.log := (HotHistory.mem_log_drop.mp hb).1
    exact h'.log_keyed.eq_of_key hb' (List.mem_of_mem_drop ha) hba ▸ hb

/-! ### What the reading functions return -/

/-- `load_hot_history` returns the newest three hundred messages. -/
lemma loadHotHistory_eq (h : HotHistory) :
    loadHotHistory h = newest ChatMessage.stamp hotHistoryLimit h.log := by
  rw [loadHotHistory, range_last _ (by decide), h.entries_eq, List.length_map, ← List.map_drop,
    newest, h.log_chron.chron_eq, h.fetch_ids]
  exact fun m hm => List.mem_of_mem_drop hm

/-- Sorting and splitting off a page leaves the newest messages of any list. -/
lemma splitOffPage_sortMessages (l : List ChatMessage) :
    splitOffPage (sortMessages l) = newest ChatMessage.stamp historyPageSize l := by
  have hsort : sortMessages l = chron ChatMessage.stamp l := rfl
  rw [hsort, splitOffPage, length_chron]
  by_cases hlen : historyPageSize < l.length
  · rw [if_pos hlen, newest]
  · rw [if_neg hlen, newest_of_length_le (not_lt.mp hlen)]

/-- The messages that the range query of `load_hot_history_before` finds and its filter keeps. -/
def HotHistory.recentBefore (h : HotHistory) (cursor : Stamp) : List ChatMessage :=
  (newest ChatMessage.stamp hotHistoryLimit
    (h.log.filter fun m => score m.stamp ≤ score cursor)).filter fun m => m.Before (some cursor)

lemma HotHistory.recentBefore_chron (h : HotHistory) (cursor : Stamp) :
    Chron ChatMessage.stamp (h.recentBefore cursor) :=
  (newest_chron (h.log_keyed.filter _) _).sublist List.filter_sublist

/-- `load_hot_history_before` returns a page of the newest of them. -/
lemma loadHotHistoryBefore_some (h : HotHistory) (cursor : Stamp) :
    loadHotHistoryBefore h (some cursor)
      = newest ChatMessage.stamp historyPageSize (h.recentBefore cursor) := by
  set up := h.log.filter fun m => score m.stamp ≤ score cursor with hup
  have hsub : ∀ m ∈ up, m ∈ h.log := fun m hm => List.mem_of_mem_filter hm
  have hupchron : Chron ChatMessage.stamp up := h.log_chron.sublist List.filter_sublist
  have hfetch : h.fetch (h.order.revRangeByScore (score cursor) hotHistoryLimit)
      = (newest ChatMessage.stamp hotHistoryLimit up).reverse := by
    have hentries : (h.order.entries.filter fun e => score e ≤ score cursor)
        = up.map ChatMessage.stamp := by
      rw [h.entries_eq, List.filter_map]
      rfl
    rw [revRangeByScore, hentries, ← List.map_reverse, ← List.map_take, h.fetch_ids, newest,
      hupchron.chron_eq, List.take_reverse]
    exact fun m hm => hsub m (List.mem_reverse.mp (List.mem_of_mem_take hm))
  have hrev : newest ChatMessage.stamp historyPageSize (h.recentBefore cursor).reverse
      = newest ChatMessage.stamp historyPageSize (h.recentBefore cursor) := by
    have hchron : chron ChatMessage.stamp (h.recentBefore cursor).reverse
        = chron ChatMessage.stamp (h.recentBefore cursor) := by
      have hkeyed : Keyed ChatMessage.stamp (h.recentBefore cursor).reverse := by
        rw [Keyed, List.map_reverse, List.nodup_reverse]
        exact (h.recentBefore_chron cursor).keyed
      refine (chron_chron hkeyed).ext (chron_chron (h.recentBefore_chron cursor).keyed) ?_
      intro a
      rw [mem_chron, mem_chron, List.mem_reverse]
    rw [newest, newest, hchron, List.length_reverse]
  rw [loadHotHistoryBefore, splitOffPage_sortMessages, hfetch, List.filter_reverse,
    ← HotHistory.recentBefore, hrev]

/-- The range query finds an upper part of the messages before the cursor. -/
lemma HotHistory.recentBefore_upper (h : HotHistory) (cursor : Stamp) :
    (∀ a ∈ h.recentBefore cursor, a ∈ h.log.filter fun m => m.Before (some cursor)) ∧
    ∀ a ∈ h.log.filter (fun m => m.Before (some cursor)), a ∉ h.recentBefore cursor →
      ∀ b ∈ h.recentBefore cursor, a.stamp < b.stamp := by
  have hkeyed : Keyed ChatMessage.stamp (h.log.filter fun m => score m.stamp ≤ score cursor) :=
    h.log_keyed.filter _
  refine ⟨?_, ?_⟩
  · intro a ha
    obtain ⟨ha1, ha2⟩ := List.mem_filter.mp ha
    exact List.mem_filter.mpr ⟨List.mem_of_mem_filter (newest_subset ha1), ha2⟩
  · intro a ha hnot b hb
    obtain ⟨ha1, ha2⟩ := List.mem_filter.mp ha
    obtain ⟨hb1, -⟩ := List.mem_filter.mp hb
    have haup : a ∈ h.log.filter fun m => score m.stamp ≤ score cursor := by
      refine List.mem_filter.mpr ⟨ha1, decide_eq_true ?_⟩
      exact score_le_of_lt (of_decide_eq_true ha2 cursor rfl)
    have hnew : a ∉ newest ChatMessage.stamp hotHistoryLimit
        (h.log.filter fun m => score m.stamp ≤ score cursor) :=
      fun hmem => hnot (List.mem_filter.mpr ⟨hmem, ha2⟩)
    exact lt_of_not_mem_newest hkeyed haup hnew hb1

/-- The cached messages before the cursor, all of them without a cursor. -/
def HotHistory.before (h : HotHistory) (cursor : Option Stamp) : List ChatMessage :=
  h.log.filter fun m => m.Before cursor

@[simp] lemma HotHistory.before_none (h : HotHistory) : h.before none = h.log :=
  List.filter_eq_self.mpr fun _ _ => by simp [ChatMessage.Before]

/-- The cache never offers more messages than it holds before the cursor. -/
lemma length_loadHotHistoryBefore_le (h : HotHistory) (cursor : Option Stamp) :
    (loadHotHistoryBefore h cursor).length ≤ (h.before cursor).length := by
  cases cursor with
  | none =>
      rw [loadHotHistoryBefore, loadHotHistory_eq, length_newest, h.before_none]
      exact min_le_right _ _
  | some c =>
      rw [loadHotHistoryBefore_some, length_newest]
      refine le_trans (min_le_right _ _) ?_
      exact (List.subperm_of_subset (List.Nodup.of_map _ (h.recentBefore_chron c).keyed)
        (h.recentBefore_upper c).1).length_le

/-- **A page from the cache**: with enough messages before the cursor, the page is the newest of
them. -/
theorem cutPage_loadHotHistoryBefore (h : HotHistory) (before : Option Cursor)
    (hlen : cacheLimit before ≤ (loadHotHistoryBefore h (before.map Cursor.cast)).length) :
    cutPage before (sortMessages (loadHotHistoryBefore h (before.map Cursor.cast)))
      = newest ChatMessage.stamp historyPageSize (h.before (before.map Cursor.cast)) := by
  cases before with
  | none =>
      rw [cutPage_none, splitOffPage_sortMessages, Option.map_none, loadHotHistoryBefore,
        loadHotHistory_eq, h.before_none]
      exact newest_newest h.log_keyed (by decide)
  | some c =>
      have hpage : historyPageSize ≤ (h.recentBefore c.cast).length := by
        have hlen' : historyPageSize ≤ (loadHotHistoryBefore h (some c.cast)).length := hlen
        rw [loadHotHistoryBefore_some, length_newest] at hlen'
        omega
      have hsort : sortMessages (newest ChatMessage.stamp historyPageSize (h.recentBefore c.cast))
          = newest ChatMessage.stamp historyPageSize (h.recentBefore c.cast) :=
        (newest_chron (h.recentBefore_chron c.cast).keyed _).chron_eq
      rw [cutPage_some, Option.map_some, loadHotHistoryBefore_some, hsort,
        List.take_of_length_le (by rw [length_newest]; exact min_le_left _ _)]
      exact newest_eq_of_upper (h.log_keyed.filter _) (h.recentBefore_chron c.cast).keyed
        (h.recentBefore_upper c.cast).1 (h.recentBefore_upper c.cast).2 hpage

end Vussa
