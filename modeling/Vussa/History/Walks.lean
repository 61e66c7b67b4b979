import Vussa.Lib.Pages
import Vussa.History.HotReads
import Vussa.History.Paging

/-!
A client that goes back through the history of a channel, or through a thread: it joins, and asks
for the page before the oldest message it has (`loadOlderHistory`, `loadThread`).

* `HotKeys.historyPages`, `threadPages`: what the requests are answered with;
* `HotKeys.Gapless`: the cache has no gap above the oldest message loaded, and the tables have no
  more than a page behind a cursor;
* `HotKeys.exists_historyPage`: **where no request of the walk leaves a gap, every top-level message
  of the window is on a page**;
* `HotKeys.gapless_empty`: deleted keys and less than a page of messages leave no gap;
* `exists_threadPage`: **every reply is on a page of its thread**.
-/

namespace Vussa

open SortedSet Timeline Pages

/-- The cursor of the request that follows a page with this oldest message. -/
def ChatMessage.cursor (m : ChatMessage) : Option Cursor := some (cursorAt m.createdAt m.id)

lemma ChatMessage.cast_cursor (m : ChatMessage) : m.cursor.map Cursor.cast = some m.stamp :=
  congrArg some (cursorAt_cast m.createdAt m.id)

/-- A list with an item starts with one that has a key below that of every other. -/
lemma exists_head_lt {x : Stamp} {l : List ChatMessage} (hne : l ≠ [])
    (hlt : ∀ a ∈ l, x < a.stamp) : ∃ a l', l = a :: l' ∧ x < a.stamp := by
  obtain ⟨a, l', rfl⟩ := List.exists_cons_of_ne_nil hne
  exact ⟨a, l', rfl, hlt a List.mem_cons_self⟩

/-! ### The history -/

namespace HotKeys

/-- The keys a request finds: the join those of the channel, the others what the join left. -/
def atRequest (k : HotKeys) (db : Database) (now : Millis) (channel : String) :
    Option Cursor → HotKeys
  | none => k
  | some _ => (k.historyReply db now channel none).2

/-- The messages that a request is answered with. -/
def historyPages (k : HotKeys) (db : Database) (now : Millis) (channel : String)
    (before : Option Cursor) : List ChatMessage :=
  ((k.atRequest db now channel before).historyReply db now channel before).1.messages

/-- The requests of a client that joins and goes back through the history. -/
def Requested (k : HotKeys) (db : Database) (now : Millis) (channel : String) :
    Option Cursor → Prop :=
  Asked (k.historyPages db now channel) ChatMessage.cursor none

/-- What a request finds leaves no top-level message out. In the cache: each one before the cursor is
among the messages loaded or older than them. In the tables behind a cursor, where `truncate` cuts
the newest messages off: at most a page of messages is left. -/
def Gapless (k : HotKeys) (db : Database) (now : Millis) (c : ChannelRow)
    (before : Option Cursor) : Prop :=
  let k' := k.atRequest db now c.name before
  let cursor := before.map Cursor.cast
  if k'.Answers before then
    ∀ m ∈ servedRoots db now c cursor, m.stamp ∈ (k'.loaded cursor).map ChatMessage.stamp ∨
      ∀ a ∈ k'.loaded cursor, m.stamp < a.stamp
  else before.isSome → (servedRoots db now c cursor).length ≤ historyPageSize

instance (k : HotKeys) (db : Database) (now : Millis) (c : ChannelRow) (before : Option Cursor) :
    Decidable (k.Gapless db now c before) := by
  unfold Gapless
  infer_instance

section Walk

variable {k : HotKeys} {db : Database} {now : Millis} {c : ChannelRow} {before : Option Cursor}

/-- The messages of the cache come from the payloads of its entries. -/
lemma mem_fetch_of_mem_loaded {a : ChatMessage} {cursor : Option Stamp} (h : a ∈ k.loaded cursor) :
    a ∈ k.fetch (k.order.entries.map member) ∧ a.Before cursor := by
  have hfetch : ∀ ids : List String, (∀ id ∈ ids, id ∈ k.order.entries.map member) →
      a ∈ k.fetch ids → a ∈ k.fetch (k.order.entries.map member) := by
    intro ids hids ha
    obtain ⟨r, hr, rfl⟩ := List.mem_map.mp ha
    obtain ⟨id, hid, hget⟩ := List.mem_filterMap.mp hr
    exact List.mem_map_of_mem (List.mem_filterMap.mpr ⟨id, hids id hid, hget⟩)
  cases cursor with
  | none =>
      refine ⟨hfetch _ (fun id hid => ?_) h, by simp [ChatMessage.Before]⟩
      rw [range_last _ (by decide)] at hid
      obtain ⟨e, he, rfl⟩ := List.mem_map.mp hid
      exact List.mem_map_of_mem (List.mem_of_mem_drop he)
  | some cursor =>
      obtain ⟨ha, hbefore⟩ := List.mem_filter.mp h
      refine ⟨hfetch _ (fun id hid => ?_) ha, of_decide_eq_true hbefore⟩
      rw [upTo] at hid
      split at hid
      · obtain ⟨e, he, rfl⟩ := List.mem_map.mp hid
        exact List.mem_map_of_mem
          (List.mem_of_mem_filter (List.mem_reverse.mp (List.mem_of_mem_take he)))
      · exact absurd hid List.not_mem_nil

lemma historyPages_cache (h : (k.atRequest db now c.name before).Answers before) :
    k.historyPages db now c.name before = newest ChatMessage.stamp historyPageSize
      ((k.atRequest db now c.name before).loaded (before.map Cursor.cast)) := by
  rw [historyPages, historyReply_cache h]

lemma historyPages_database (hwf : db.WellFormed) (hlive : db.liveChannel? c.name = some c)
    (h : ¬ (k.atRequest db now c.name before).Answers before) :
    k.historyPages db now c.name before = cutPage before (newest ChatMessage.stamp
      (cacheLimit before + 1) (servedMessages db now c (before.map Cursor.cast))) := by
  rw [historyPages, historyReply_database h]
  exact congrArg HistoryReply.messages (databaseReply_eq hwf hlive now before)

/-- A page from the tables holds served rows. -/
lemma exists_row_of_mem_database (hwf : db.WellFormed) (hlive : db.liveChannel? c.name = some c)
    (h : ¬ (k.atRequest db now c.name before).Answers before) {a : ChatMessage}
    (ha : a ∈ k.historyPages db now c.name before) :
    ∃ m ∈ servedRoots db now c (before.map Cursor.cast), db.view c.name m = a := by
  rw [historyPages, historyReply_database h] at ha
  have hrow := mem_of_mem_cutPage ha
  rw [loadMessages_eq hwf hlive] at hrow
  exact List.mem_map.mp (newest_subset hrow)

/-- What is on a page comes from the tables or the cache, and stands before the cursor. -/
lemma mem_historyPages (hwf : db.WellFormed) (hlive : db.liveChannel? c.name = some c)
    {a : ChatMessage} (ha : a ∈ k.historyPages db now c.name before) :
    a.Before (before.map Cursor.cast) ∧ (a.stamp ∈ db.messages.map MessageRow.stamp ∨
      a ∈ (k.atRequest db now c.name before).fetch
        ((k.atRequest db now c.name before).order.entries.map member)) := by
  by_cases h : (k.atRequest db now c.name before).Answers before
  · rw [historyPages_cache h] at ha
    obtain ⟨hfetch, hbefore⟩ := mem_fetch_of_mem_loaded (newest_subset ha)
    exact ⟨hbefore, Or.inr hfetch⟩
  · obtain ⟨m, hm, rfl⟩ := exists_row_of_mem_database hwf hlive h ha
    obtain ⟨hmem, hserved⟩ := List.mem_filter.mp hm
    exact ⟨(of_decide_eq_true hserved).2.2.2, Or.inl (List.mem_map_of_mem hmem)⟩

/-- A page from the cache is full. -/
lemma historyPages_ne_nil (h : (k.atRequest db now c.name before).Answers before) :
    k.historyPages db now c.name before ≠ [] := by
  intro hnil
  have hlength := congrArg List.length hnil
  rw [historyPages_cache h, length_newest, List.length_nil] at hlength
  have hpage : historyPageSize ≤ cacheLimit before := by
    rw [cacheLimit]
    split <;> decide
  have hsize : 0 < historyPageSize := by decide
  have hloaded : cacheLimit before ≤ _ := h
  omega

/-- The first page from the tables has the newest served messages. -/
lemma historyPages_first (hwf : db.WellFormed) (hlive : db.liveChannel? c.name = some c)
    (h : ¬ (k.atRequest db now c.name none).Answers none) :
    k.historyPages db now c.name none =
      newest ChatMessage.stamp historyPageSize (servedMessages db now c none) := by
  have hkeyed := servedMessages_keyed hwf now c none
  have hsort : ∀ l, sortMessages l = chron ChatMessage.stamp l := fun _ => rfl
  calc k.historyPages db now c.name none
      = cutPage none (newest ChatMessage.stamp (cacheLimit none + 1)
          (servedMessages db now c none)) := historyPages_database hwf hlive h
    _ = splitOffPage (sortMessages (newest ChatMessage.stamp (cacheLimit none + 1)
          (servedMessages db now c none))) := by
        rw [cutPage_none, hsort, (newest_chron hkeyed _).chron_eq]
    _ = newest ChatMessage.stamp historyPageSize (newest ChatMessage.stamp (cacheLimit none + 1)
          (servedMessages db now c none)) := splitOffPage_sortMessages _
    _ = newest ChatMessage.stamp historyPageSize (servedMessages db now c none) :=
        newest_newest hkeyed (by decide)

/-- A page from the tables that all messages before its cursor fit on has them all. -/
lemma mem_historyPages_of_fits (hwf : db.WellFormed) (hlive : db.liveChannel? c.name = some c)
    {cursor : Cursor} (h : ¬ (k.atRequest db now c.name (some cursor)).Answers (some cursor))
    (hfits : (servedMessages db now c (some cursor.cast)).length ≤ historyPageSize)
    {a : ChatMessage} (ha : a ∈ servedMessages db now c (some cursor.cast)) :
    a ∈ k.historyPages db now c.name (some cursor) := by
  have hlimit : historyPageSize ≤ cacheLimit (some cursor) + 1 := Nat.le_succ _
  rw [historyPages_database hwf hlive h, Option.map_some, cutPage_some,
    newest_of_length_le (hfits.trans hlimit),
    List.take_of_length_le ((length_chron _).le.trans hfits)]
  exact mem_chron.mpr ha

/-- A gapless request: a served message is on the page, or older than its first message. -/
lemma Gapless.found (hwf : db.WellFormed) (hlive : db.liveChannel? c.name = some c)
    (h : k.Gapless db now c before) {m : MessageRow}
    (hm : m ∈ servedRoots db now c (before.map Cursor.cast)) :
    m.stamp ∈ (k.historyPages db now c.name before).map ChatMessage.stamp ∨
      ∃ a l, k.historyPages db now c.name before = a :: l ∧ m.stamp < a.stamp := by
  have hview : db.view c.name m ∈ servedMessages db now c (before.map Cursor.cast) :=
    List.mem_map_of_mem hm
  rw [Gapless] at h
  split at h
  · rename_i hanswers
    by_cases hshown : m.stamp ∈ (k.historyPages db now c.name before).map ChatMessage.stamp
    · exact Or.inl hshown
    refine Or.inr (exists_head_lt (historyPages_ne_nil hanswers) fun a ha => ?_)
    rw [historyPages_cache hanswers] at ha hshown
    rcases h m hm with hfound | hlt
    · obtain ⟨b, hb, hstamp⟩ := List.mem_map.mp hfound
      have hnot : b ∉ newest ChatMessage.stamp historyPageSize _ :=
        fun hb => hshown (hstamp ▸ List.mem_map_of_mem hb)
      refine lt_of_le_of_ne (hstamp ▸ le_of_not_mem_newest hb hnot ha) fun heq => hshown ?_
      exact heq ▸ List.mem_map_of_mem ha
    · exact hlt a (newest_subset ha)
  · rename_i hcold
    cases before with
    | none =>
        rw [historyPages_first hwf hlive hcold]
        by_cases hnew : db.view c.name m ∈ newest ChatMessage.stamp historyPageSize
            (servedMessages db now c none)
        · exact Or.inl (List.mem_map_of_mem hnew)
        · refine Or.inr (exists_head_lt (fun hnil => ?_) fun a ha =>
            lt_of_not_mem_newest (servedMessages_keyed hwf now c none) hview hnew ha)
          have hlength := congrArg List.length hnil
          have hpos := List.length_pos_of_mem hview
          have hsize : 0 < historyPageSize := by decide
          rw [length_newest, List.length_nil] at hlength
          simp only [Option.map_none] at hpos
          omega
    | some cursor =>
        have hfits : (servedMessages db now c (some cursor.cast)).length ≤ historyPageSize :=
          (List.length_map _).le.trans (h rfl)
        exact Or.inl (List.mem_map_of_mem (mem_historyPages_of_fits hwf hlive hcold hfits hview))

/-- **The history**: where no request of the walk leaves a gap, every top-level message of the
window is on one of its pages. -/
theorem exists_historyPage (hwf : db.WellFormed) (hlive : db.liveChannel? c.name = some c)
    (hgapless : ∀ before, k.Requested db now c.name before → k.Gapless db now c before)
    {m : MessageRow} (hm : m ∈ servedRoots db now c none) :
    ∃ before, k.Requested db now c.name before ∧
      m.stamp ∈ (k.historyPages db now c.name before).map ChatMessage.stamp := by
  have hserved : ∀ before : Option Cursor, (∀ s ∈ before.map Cursor.cast, m.stamp < s) →
      m ∈ servedRoots db now c (before.map Cursor.cast) := by
    intro before hbefore
    obtain ⟨hmem, hroot⟩ := List.mem_filter.mp hm
    obtain ⟨hchannel, hwindow, htop, -⟩ := of_decide_eq_true hroot
    exact List.mem_filter.mpr ⟨hmem, decide_eq_true ⟨hchannel, hwindow, htop, hbefore⟩⟩
  let cached (k : HotKeys) : List Stamp :=
    (k.fetch (k.order.entries.map member)).map ChatMessage.stamp
  refine exists_page_of_gapless (fun before => before.map Cursor.cast)
    (db.messages.map MessageRow.stamp ++
      (cached k ++ cached (k.historyReply db now c.name none).2))
    ChatMessage.cast_cursor (fun before _ a ha => ?_)
    (fun before hasked hbefore => (hgapless before hasked).found hwf hlive (hserved before hbefore))
    (by simp)
  obtain ⟨hbefore, hsource⟩ := mem_historyPages hwf hlive ha
  refine ⟨?_, hbefore⟩
  rcases hsource with hrow | hcached
  · exact List.mem_append_left _ hrow
  · cases before with
    | none => exact List.mem_append_right _ (List.mem_append_left _ (List.mem_map_of_mem hcached))
    | some cursor =>
        exact List.mem_append_right _ (List.mem_append_right _ (List.mem_map_of_mem hcached))

/-! ### A short history -/

lemma length_hydrateHotHistory_le (k : HotKeys) (messages : List ChatMessage) :
    (k.hydrateHotHistory messages).order.entries.length ≤
      k.order.entries.length + messages.length := by
  induction messages generalizing k with
  | nil => exact le_rfl
  | cons m messages ih =>
      have hwrite : (k.write (.fromMessage m Uuid.nil)).order.entries.length ≤
          k.order.entries.length + 1 := length_add_le _ _ _
      have hrest := ih (k.write (.fromMessage m Uuid.nil))
      rw [hydrateHotHistory, List.foldl_cons, ← hydrateHotHistory, List.length_cons]
      omega

/-- Fewer entries than a page has places do not answer. -/
lemma not_answers_of_few (h : k.order.entries.length < historyPageSize) (before : Option Cursor) :
    ¬ k.Answers before := by
  have hfetch : ∀ ids : List String, (k.fetch ids).length ≤ ids.length := by
    intro ids
    rw [fetch, List.length_map]
    exact List.length_filterMap_le _ _
  have hloaded : (k.loaded (before.map Cursor.cast)).length ≤ k.order.entries.length := by
    cases before with
    | none =>
        refine (hfetch _).trans ?_
        rw [range_last _ (by decide), List.length_map, List.length_drop]
        exact Nat.sub_le _ _
    | some cursor =>
        refine (List.length_filter_le _ _).trans ((hfetch _).trans ?_)
        rw [upTo]
        split
        · rw [revRangeByScore, List.length_map, List.length_take, List.length_reverse]
          exact (min_le_right _ _).trans (List.length_filter_le _ _)
        · exact Nat.zero_le _
  have hpage : historyPageSize ≤ cacheLimit before := by
    rw [cacheLimit]
    split <;> decide
  rw [Answers]
  omega

/-- Less than a page of messages: behind deleted keys the tables answer every request. -/
lemma not_answers_of_short (hwf : db.WellFormed) (hlive : db.liveChannel? c.name = some c)
    (hshort : (servedRoots db now c none).length < historyPageSize) (before : Option Cursor) :
    ¬ (empty.atRequest db now c.name before).Answers before := by
  cases before with
  | none => exact not_answers_empty none
  | some cursor =>
      refine not_answers_of_few ?_ _
      have hrows : (loadMessages db now c.name none (cacheLimit none + 1)).length ≤
          (servedRoots db now c none).length := by
        rw [loadMessages_eq hwf hlive, length_newest, List.length_map]
        exact min_le_right _ _
      have hlimit : (empty.loadHotHistoryBefore none).length < cacheLimit none :=
        not_le.mp fun hle => not_answers_empty none (answers_iff.mp hle)
      rw [atRequest, historyReply]
      simp only [Option.map_none, if_pos hlimit, Option.isNone_none, if_true]
      refine (length_hydrateHotHistory_le _ _).trans_lt ?_
      have hempty : (empty.order.entries).length = 0 := rfl
      rw [hempty, List.length_drop]
      omega

/-- **A short history** has no gaps. -/
lemma gapless_empty (hwf : db.WellFormed) (hlive : db.liveChannel? c.name = some c)
    (hshort : (servedRoots db now c none).length < historyPageSize) (before : Option Cursor) :
    empty.Gapless db now c before := by
  rw [Gapless, if_neg (not_answers_of_short hwf hlive hshort before)]
  intro _
  refine le_trans (List.Sublist.length_le ?_) hshort.le
  refine List.monotone_filter_right _ fun m hm => decide_eq_true ?_
  obtain ⟨hchannel, hwindow, hroot, -⟩ := of_decide_eq_true hm
  exact ⟨hchannel, hwindow, hroot, fun _ h => absurd h (Option.not_mem_none _)⟩

end Walk

end HotKeys

/-! ### Threads -/

/-- The messages that a request for a thread is answered with. -/
def threadPages (db : Database) (channel : String) (root : Uuid) (before : Option Cursor) :
    List ChatMessage :=
  loadThread db channel root (before.map Cursor.cast) historyPageSize

section Thread

variable {db : Database} {c : ChannelRow} {root : Uuid} {before : Option Cursor}

lemma threadPages_eq (hwf : db.WellFormed) (hlive : db.liveChannel? c.name = some c) :
    threadPages db c.name root before = newest ChatMessage.stamp historyPageSize
      ((threadRows db c root (before.map Cursor.cast)).map (db.view c.name)) := by
  have hkeyed : Keyed MessageRow.stamp (threadRows db c root (before.map Cursor.cast)) :=
    hwf.keyed.filter _
  rw [threadPages, loadThread, hlive]
  simp only
  rw [latestRows_eq hkeyed, newest_map (db.view_stamp c.name)]

/-- **A thread**: every reply is on one of the pages of its thread. -/
theorem exists_threadPage (hwf : db.WellFormed) (hlive : db.liveChannel? c.name = some c)
    {m : MessageRow} (hm : m ∈ db.messages) (hchannel : m.channelId = c.id)
    (hroot : m.rootMessageId = some root) :
    ∃ before, Asked (threadPages db c.name root) ChatMessage.cursor none before ∧
      m.stamp ∈ (threadPages db c.name root before).map ChatMessage.stamp := by
  have hkeyed : ∀ before : Option Cursor, Keyed ChatMessage.stamp
      ((threadRows db c root (before.map Cursor.cast)).map (db.view c.name)) := by
    intro before
    rw [Keyed, List.map_map]
    exact hwf.keyed.filter _
  refine exists_page_of_gapless (fun before => before.map Cursor.cast)
    (db.messages.map MessageRow.stamp) ChatMessage.cast_cursor (fun before _ a ha => ?_)
    (fun before _ hbefore => ?_) (by simp)
  · rw [threadPages_eq hwf hlive] at ha
    obtain ⟨r, hr, rfl⟩ := List.mem_map.mp (newest_subset ha)
    obtain ⟨hmem, hreply⟩ := List.mem_filter.mp hr
    exact ⟨List.mem_map_of_mem hmem, (of_decide_eq_true hreply).2.2⟩
  · have hview : db.view c.name m ∈
        (threadRows db c root (before.map Cursor.cast)).map (db.view c.name) :=
      List.mem_map_of_mem (List.mem_filter.mpr ⟨hm, decide_eq_true ⟨hchannel, hroot, hbefore⟩⟩)
    rw [threadPages_eq hwf hlive]
    by_cases hnew : db.view c.name m ∈ newest ChatMessage.stamp historyPageSize
        ((threadRows db c root (before.map Cursor.cast)).map (db.view c.name))
    · exact Or.inl (List.mem_map_of_mem hnew)
    · refine Or.inr (exists_head_lt (fun hnil => ?_) fun a ha =>
        lt_of_not_mem_newest (hkeyed before) hview hnew ha)
      have hlength := congrArg List.length hnil
      have hpos := List.length_pos_of_mem hview
      have hsize : 0 < historyPageSize := by decide
      rw [length_newest, List.length_nil] at hlength
      omega

end Thread

end Vussa
