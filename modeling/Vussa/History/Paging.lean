import Vussa.Model.HotHistory

/-!
What a page from the database holds, and the walk of a client through older history.

`load_messages` is asked for one row more than the page has places. Without a cursor the oldest
rows are cut off, with a cursor the newest one is: `truncate` keeps the front of the ascending
list.

* `loadMessages_eq`, `historyReply_database`, `historyReply_cache`: the two paths of
  `send_history_page` in terms of the newest rows;
* `historyPage_newest_iff`: a page with a cursor holds the newest rows before the cursor, and the
  walk through the pages visits every older row exactly once, iff a single page remains.
-/

namespace Vussa

open Timeline

/-! ### The rows behind a page -/

/-- Distinct identifiers make distinct positions. -/
lemma Database.WellFormed.keyed {db : Database} (hwf : db.WellFormed) :
    Keyed MessageRow.stamp db.messages := by
  have hid : (db.messages.map MessageRow.stamp).map SortedSet.member
      = db.messages.map MessageRow.id := by
    rw [List.map_map]
    rfl
  exact List.Nodup.of_map SortedSet.member (hid ▸ hwf.messageId)

lemma latestRows_eq {rows : List MessageRow} (h : Keyed MessageRow.stamp rows) (limit : ℕ) :
    latestRows limit rows = newest MessageRow.stamp limit rows :=
  reverse_take_eq_newest h limit

lemma servedRoots_keyed {db : Database} (hwf : db.WellFormed) (now : Millis) (c : ChannelRow)
    (before : Option Stamp) : Keyed MessageRow.stamp (servedRoots db now c before) :=
  hwf.keyed.filter _

/-- `load_messages` returns the newest served roots before the cursor. -/
lemma loadMessages_eq {db : Database} (hwf : db.WellFormed) {channel : String} {c : ChannelRow}
    (hc : db.liveChannel? channel = some c) (now : Millis) (before : Option Stamp) (limit : ℕ) :
    loadMessages db now channel before limit
      = newest ChatMessage.stamp limit ((servedRoots db now c before).map (db.view c.name)) := by
  rw [loadMessages, hc]
  simp only
  rw [latestRows_eq (servedRoots_keyed hwf now c before), newest_map (db.view_stamp c.name)]

/-- The served roots as messages. -/
def servedMessages (db : Database) (now : Millis) (c : ChannelRow) (before : Option Stamp) :
    List ChatMessage :=
  (servedRoots db now c before).map (db.view c.name)

lemma servedMessages_keyed {db : Database} (hwf : db.WellFormed) (now : Millis) (c : ChannelRow)
    (before : Option Stamp) : Keyed ChatMessage.stamp (servedMessages db now c before) := by
  have hstamp : (servedMessages db now c before).map ChatMessage.stamp
      = (servedRoots db now c before).map MessageRow.stamp := by
    rw [servedMessages, List.map_map]
    rfl
  rw [Keyed, hstamp]
  exact servedRoots_keyed hwf now c before

/-- What the tables answer: the newest served messages before the cursor, cut. -/
lemma databaseReply_eq {db : Database} (hwf : db.WellFormed) {channel : String}
    {c : ChannelRow} (hc : db.liveChannel? channel = some c) (now : Millis)
    (before : Option Cursor) :
    ({ messages := cutPage before (sortMessages
         (loadMessages db now channel (before.map Cursor.cast) (cacheLimit before + 1))),
       source := .database,
       hasMore := cacheLimit before <
         (loadMessages db now channel (before.map Cursor.cast) (cacheLimit before + 1)).length } :
      HistoryReply) =
      { messages := cutPage before (newest ChatMessage.stamp (cacheLimit before + 1)
          (servedMessages db now c (before.map Cursor.cast))),
        source := .database,
        hasMore := cacheLimit before
          < (servedMessages db now c (before.map Cursor.cast)).length } := by
  have hsort : sortMessages (newest ChatMessage.stamp (cacheLimit before + 1)
      (servedMessages db now c (before.map Cursor.cast)))
      = newest ChatMessage.stamp (cacheLimit before + 1)
          (servedMessages db now c (before.map Cursor.cast)) :=
    (newest_chron (servedMessages_keyed hwf now c _) _).chron_eq
  have hmore : (cacheLimit before < (newest ChatMessage.stamp (cacheLimit before + 1)
      (servedMessages db now c (before.map Cursor.cast))).length)
      ↔ cacheLimit before < (servedMessages db now c (before.map Cursor.cast)).length := by
    rw [length_newest]
    omega
  rw [loadMessages_eq hwf hc, ← servedMessages, hsort, decide_eq_decide.mpr hmore]

/-- A page from the database. -/
lemma historyReply_database {db : Database} (hwf : db.WellFormed) {channel : String}
    {c : ChannelRow} (hc : db.liveChannel? channel = some c) (now : Millis) {h : HotHistory}
    {before : Option Cursor}
    (hlen : (loadHotHistoryBefore h (before.map Cursor.cast)).length < cacheLimit before) :
    (historyReply db now channel h before).1 =
      { messages := cutPage before (newest ChatMessage.stamp (cacheLimit before + 1)
          (servedMessages db now c (before.map Cursor.cast))),
        source := .database,
        hasMore := cacheLimit before
          < (servedMessages db now c (before.map Cursor.cast)).length } := by
  rw [historyReply]
  simp only [if_pos hlen]
  exact databaseReply_eq hwf hc now before

/-- A page from the cache, which leaves the cache as it is. -/
lemma historyReply_cache {db : Database} {channel : String} {now : Millis} {h : HotHistory}
    {before : Option Cursor}
    (hlen : cacheLimit before ≤ (loadHotHistoryBefore h (before.map Cursor.cast)).length) :
    historyReply db now channel h before =
      ({ messages := newest ChatMessage.stamp historyPageSize (h.before (before.map Cursor.cast)),
         source := .cache, hasMore := true }, h) := by
  rw [historyReply]
  simp only [if_neg (not_lt.mpr hlen), decide_eq_true hlen]
  rw [cutPage_loadHotHistoryBefore h before hlen]

/-- What a page request leaves in the cache: what was there, or, after a join that went to the
database, the newest three hundred served roots on top of it. -/
lemma historyReply_snd_cases {db : Database} (hwf : db.WellFormed) (now : Millis)
    (channel : String) (h : HotHistory) (before : Option Cursor) :
    (historyReply db now channel h before).2 = h ∨
      ∃ c, db.liveChannel? channel = some c ∧
        (historyReply db now channel h before).2
          = hydrateHotHistory h (newest ChatMessage.stamp hotHistoryLimit
              (servedMessages db now c none)) := by
  by_cases hlen : (loadHotHistoryBefore h (before.map Cursor.cast)).length < cacheLimit before
  · rw [historyReply]
    simp only [if_pos hlen]
    cases before with
    | some cursor => exact Or.inl rfl
    | none =>
        simp only [Option.isNone_none, if_true, Option.map_none]
        cases hc : db.liveChannel? channel with
        | none =>
            have hnil : loadMessages db now channel none (cacheLimit none + 1) = [] := by
              rw [loadMessages, hc]
            rw [hnil]
            exact Or.inl rfl
        | some c =>
            have hkeyed := servedMessages_keyed hwf now c none
            have hload := loadMessages_eq hwf hc now none (cacheLimit none + 1)
            rw [← servedMessages] at hload
            have hdrop := newest_newest hkeyed
              (show hotHistoryLimit ≤ cacheLimit none + 1 by decide)
            rw [newest, (newest_chron hkeyed _).chron_eq] at hdrop
            refine Or.inr ⟨c, rfl, ?_⟩
            rw [hload, hdrop]
  · refine Or.inl ?_
    rw [historyReply]
    simp only [if_neg hlen]

/-! ### The walk through older pages -/

/-- The root messages of a channel strictly before the cursor. -/
def olderRoots (db : Database) (c : ChannelRow) (cursor : Cursor) : List MessageRow :=
  db.messages.filter fun m => m.channelId = c.id ∧ m.rootMessageId = none ∧ m.stamp < cursor.stamp

/-- Every root message of the channel is inside the ninety days that `load_messages` serves. -/
def InWindow (db : Database) (now : Millis) (c : ChannelRow) : Prop :=
  ∀ m ∈ db.messages, m.channelId = c.id → m.rootMessageId = none →
    ((now : ℕ) : ℤ) - historyWindow ≤ ((m.createdAt : ℕ) : ℤ)

instance (db : Database) (now : Millis) (c : ChannelRow) : Decidable (InWindow db now c) :=
  inferInstanceAs (Decidable (∀ m ∈ db.messages, _))

/-- The messages received by requesting, `k` times at most, the page before the oldest message
received so far, until a page comes back empty. -/
def walkBack (db : Database) (now : Millis) (channel : String) (h : HotHistory) :
    ℕ → Cursor → List ChatMessage
  | 0, _ => []
  | k + 1, cursor =>
      match (historyReply db now channel h (some cursor)).1.messages with
      | [] => []
      | m :: rest => walkBack db now channel h k (cursorAt m.createdAt m.id) ++ (m :: rest)

/-- Inside the window and below `2 ^ 63` the rows behind a page are those before the cursor. -/
lemma servedRoots_eq_olderRoots {db : Database} {now : Millis} {c : ChannelRow}
    (hwin : InWindow db now c) {cursor : Cursor} (hcur : (cursor.1 : ℕ) < 2 ^ 63) :
    servedRoots db now c (some cursor.cast) = olderRoots db c cursor := by
  refine List.filter_congr fun m hm => decide_eq_decide.mpr ?_
  rw [Cursor.cast_eq_stamp hcur]
  refine ⟨?_, ?_⟩
  · rintro ⟨h1, -, h3, h4⟩
    exact ⟨h1, h3, h4 _ rfl⟩
  · rintro ⟨h1, h2, h3⟩
    exact ⟨h1, hwin m hm h1 h2, h2, fun s hs => Option.mem_some.mp hs ▸ h3⟩

/-- From `2 ^ 63` on the cast cursor precedes every row. -/
lemma servedRoots_eq_nil {db : Database} {now : Millis} {c : ChannelRow} {cursor : Cursor}
    (hcur : ¬ (cursor.1 : ℕ) < 2 ^ 63) : servedRoots db now c (some cursor.cast) = [] := by
  refine List.filter_eq_nil_iff.mpr fun m hm hmem => ?_
  have hlt := (of_decide_eq_true hmem).2.2.2 _ rfl
  exact lt_asymm hlt (Cursor.cast_lt_of_not_lt hcur m.createdAt m.id)

/-- Fewer than a page of cached messages before the cursor: the cache does not answer. -/
lemma cold_of_before {h : HotHistory} {cursor : Cursor}
    (hcold : (h.before (some cursor.stamp)).length < historyPageSize) :
    (loadHotHistoryBefore h ((some cursor).map Cursor.cast)).length < cacheLimit (some cursor) := by
  refine lt_of_le_of_lt (length_loadHotHistoryBefore_le h _) ?_
  by_cases hcur : (cursor.1 : ℕ) < 2 ^ 63
  · rw [Option.map_some, Cursor.cast_eq_stamp hcur]
    exact hcold
  · have hnil : h.before (some cursor.cast) = [] := by
      refine List.filter_eq_nil_iff.mpr fun m hm hmem => ?_
      exact lt_asymm (of_decide_eq_true hmem _ rfl)
        (Cursor.cast_lt_of_not_lt hcur m.createdAt m.id)
    rw [Option.map_some, hnil]
    exact (by decide : 0 < historyPageSize)

/-- Every message of a page with a cursor stands before the cursor. -/
lemma lt_of_mem_page {db : Database} (hwf : db.WellFormed) {channel : String} {c : ChannelRow}
    (hc : db.liveChannel? channel = some c) {now : Millis} {h : HotHistory} {cursor : Cursor}
    {m : ChatMessage} (hm : m ∈ (historyReply db now channel h (some cursor)).1.messages) :
    m.stamp < cursor.cast := by
  by_cases hlen : (loadHotHistoryBefore h ((some cursor).map Cursor.cast)).length
      < cacheLimit (some cursor)
  · rw [historyReply_database hwf hc now hlen, cutPage_some] at hm
    obtain ⟨row, hrow, rfl⟩ := List.mem_map.mp (newest_subset (List.mem_of_mem_take hm))
    exact (of_decide_eq_true (List.mem_filter.mp hrow).2).2.2.2 _ rfl
  · rw [historyReply_cache (not_lt.mp hlen)] at hm
    exact of_decide_eq_true (List.mem_filter.mp (newest_subset hm)).2 _ rfl

/-- The walk only ever goes down from its cursor. -/
lemma lt_of_mem_walkBack {db : Database} (hwf : db.WellFormed) {channel : String} {c : ChannelRow}
    (hc : db.liveChannel? channel = some c) {now : Millis} {h : HotHistory} {k : ℕ}
    {cursor : Cursor} {m : ChatMessage} (hm : m ∈ walkBack db now channel h k cursor) :
    m.stamp < cursor.cast := by
  induction k generalizing cursor with
  | zero => exact absurd hm (by simp [walkBack])
  | succ k ih =>
      rw [walkBack] at hm
      cases hpage : (historyReply db now channel h (some cursor)).1.messages with
      | nil =>
          rw [hpage] at hm
          exact absurd hm (by simp)
      | cons first rest =>
          rw [hpage] at hm
          have hfirst : first.stamp < cursor.cast :=
            lt_of_mem_page hwf hc (hpage ▸ List.mem_cons_self)
          rcases List.mem_append.mp hm with hm | hm
          · have hlt := ih hm
            rw [cursorAt_cast] at hlt
            exact lt_trans hlt hfirst
          · exact lt_of_mem_page hwf hc (hpage ▸ hm)

/-- The messages strictly before the cursor. -/
def olderMessages (db : Database) (c : ChannelRow) (cursor : Cursor) : List ChatMessage :=
  (olderRoots db c cursor).map (db.view c.name)

lemma olderMessages_keyed {db : Database} (hwf : db.WellFormed) (c : ChannelRow)
    (cursor : Cursor) : Keyed ChatMessage.stamp (olderMessages db c cursor) := by
  have hstamp : (olderMessages db c cursor).map ChatMessage.stamp
      = (olderRoots db c cursor).map MessageRow.stamp := by
    rw [olderMessages, List.map_map]
    rfl
  rw [Keyed, hstamp]
  exact hwf.keyed.filter _

/-- A single page remains before the cursor, and the cursor survives the cast. -/
def PageFits (db : Database) (c : ChannelRow) (cursor : Cursor) : Prop :=
  (olderRoots db c cursor).length ≤ historyPageSize ∧
    ((cursor.1 : ℕ) < 2 ^ 63 ∨ olderRoots db c cursor = [])

instance (db : Database) (c : ChannelRow) (cursor : Cursor) : Decidable (PageFits db c cursor) :=
  inferInstanceAs (Decidable (_ ∧ _))

section Walk

variable {db : Database} {channel : String} {c : ChannelRow} {now : Millis} {h : HotHistory}
  {cursor : Cursor}

/-- The page a cold cache leaves to the database. -/
lemma page_eq_take (hwf : db.WellFormed) (hc : db.liveChannel? channel = some c)
    (hwin : InWindow db now c) (hcold : (h.before (some cursor.stamp)).length < historyPageSize)
    (hcur : (cursor.1 : ℕ) < 2 ^ 63) :
    (historyReply db now channel h (some cursor)).1.messages
      = (newest ChatMessage.stamp (historyPageSize + 1) (olderMessages db c cursor)).take
          historyPageSize := by
  rw [historyReply_database hwf hc now (cold_of_before hcold), cutPage_some, Option.map_some,
    servedMessages, servedRoots_eq_olderRoots hwin hcur]
  rfl

/-- With a cursor from `2 ^ 63` on the page is empty. -/
lemma page_eq_nil (now : Millis) (hwf : db.WellFormed) (hc : db.liveChannel? channel = some c)
    (hcold : (h.before (some cursor.stamp)).length < historyPageSize)
    (hcur : ¬ (cursor.1 : ℕ) < 2 ^ 63) :
    (historyReply db now channel h (some cursor)).1.messages = [] := by
  rw [historyReply_database hwf hc now (cold_of_before hcold), cutPage_some, Option.map_some,
    servedMessages, servedRoots_eq_nil hcur]
  rfl

/-- When the rest fits into a page, the page is the rest. -/
lemma page_of_fits (hwf : db.WellFormed) (hc : db.liveChannel? channel = some c)
    (hwin : InWindow db now c) (hcold : (h.before (some cursor.stamp)).length < historyPageSize)
    (hfits : PageFits db c cursor) :
    (historyReply db now channel h (some cursor)).1.messages
      = chron ChatMessage.stamp (olderMessages db c cursor) := by
  have hlen : (olderMessages db c cursor).length ≤ historyPageSize := by
    rw [olderMessages, List.length_map]
    exact hfits.1
  by_cases hcur : (cursor.1 : ℕ) < 2 ^ 63
  · rw [page_eq_take hwf hc hwin hcold hcur, newest_of_length_le (by omega),
      List.take_of_length_le (by rw [length_chron]; exact hlen)]
  · rw [page_eq_nil now hwf hc hcold hcur, olderMessages, hfits.2.resolve_left hcur]
    rfl

/-- Nothing is left to walk to behind a page that holds the rest. -/
lemma walkBack_of_fits (hwf : db.WellFormed) (hc : db.liveChannel? channel = some c)
    (hwin : InWindow db now c) (hcold : (h.before (some cursor.stamp)).length < historyPageSize)
    (hfits : PageFits db c cursor) {first : ChatMessage} {rest : List ChatMessage}
    (hpage : (historyReply db now channel h (some cursor)).1.messages = first :: rest) (k : ℕ) :
    walkBack db now channel h k (cursorAt first.createdAt first.id) = [] := by
  have hcur : (cursor.1 : ℕ) < 2 ^ 63 := by
    by_contra hcur
    rw [page_eq_nil now hwf hc hcold hcur] at hpage
    exact absurd hpage (by simp)
  have hfirst : first.stamp < cursor.stamp := by
    rw [← Cursor.cast_eq_stamp hcur]
    exact lt_of_mem_page hwf hc (hpage ▸ List.mem_cons_self)
  have hall := page_of_fits hwf hc hwin hcold hfits
  rw [hpage] at hall
  have hnone : olderRoots db c (cursorAt first.createdAt first.id) = [] := by
    refine List.filter_eq_nil_iff.mpr fun m hm hmem => ?_
    obtain ⟨h1, h2, h3⟩ := of_decide_eq_true hmem
    have h3' : (db.view c.name m).stamp < first.stamp := h3
    have hrow : m ∈ olderRoots db c cursor :=
      List.mem_filter.mpr ⟨hm, decide_eq_true ⟨h1, h2, lt_trans h3 hfirst⟩⟩
    -- the row is on the page, whose first message is the oldest
    have hview : db.view c.name m ∈ first :: rest := by
      rw [hall, mem_chron]
      exact List.mem_map_of_mem hrow
    have hchron : Chron ChatMessage.stamp (first :: rest) := by
      rw [hall]
      exact chron_chron (olderMessages_keyed hwf c cursor)
    rcases List.mem_cons.mp hview with heq | htail
    · exact absurd h3' (by rw [heq]; exact lt_irrefl _)
    · exact lt_asymm h3' ((List.pairwise_cons.mp hchron).1 _ htail)
  have hcold' : (h.before (some (cursorAt first.createdAt first.id).stamp)).length
      < historyPageSize := by
    refine lt_of_le_of_lt (List.Sublist.length_le ?_) hcold
    refine List.monotone_filter_right h.log fun m hm => decide_eq_true fun s hs => ?_
    rw [Option.mem_some] at hs
    exact hs ▸ lt_trans (of_decide_eq_true hm _ rfl) hfirst
  cases k with
  | zero => rfl
  | succ k =>
      rw [walkBack, page_of_fits hwf hc hwin hcold' ⟨by rw [hnone]; decide, Or.inr hnone⟩,
        olderMessages, hnone]
      rfl

/-- Where the rest does not fit, the newest message before the cursor is lost: neither the page
nor anything the walk reaches from it holds it. -/
lemma exists_lost (hwf : db.WellFormed) (hc : db.liveChannel? channel = some c)
    (hwin : InWindow db now c) (hcold : (h.before (some cursor.stamp)).length < historyPageSize)
    (hfits : ¬ PageFits db c cursor) :
    ∃ a ∈ newest ChatMessage.stamp historyPageSize (olderMessages db c cursor),
      a ∉ (historyReply db now channel h (some cursor)).1.messages ∧
      ∀ k, a ∉ walkBack db now channel h k cursor := by
  by_cases hcur : (cursor.1 : ℕ) < 2 ^ 63
  · have hlen : historyPageSize < (olderMessages db c cursor).length := by
      rw [olderMessages, List.length_map]
      by_contra hle
      exact hfits ⟨not_lt.mp hle, Or.inl hcur⟩
    obtain ⟨a, ha, hlt⟩ := exists_newest_cut (olderMessages_keyed hwf c cursor) (by decide) hlen
    rw [← page_eq_take hwf hc hwin hcold hcur] at hlt
    have hnot : a ∉ (historyReply db now channel h (some cursor)).1.messages :=
      fun hmem => lt_irrefl _ (hlt a hmem)
    refine ⟨a, ha, hnot, fun k hmem => ?_⟩
    -- further pages lie before the first message of this one, which is older than `a`
    cases k with
    | zero => exact absurd hmem (by simp [walkBack])
    | succ k =>
        rw [walkBack] at hmem
        cases hpage : (historyReply db now channel h (some cursor)).1.messages with
        | nil =>
            rw [hpage] at hmem
            exact absurd hmem (by simp)
        | cons first rest =>
            rw [hpage] at hmem hnot hlt
            rcases List.mem_append.mp hmem with hmem | hmem
            · have hback := lt_of_mem_walkBack hwf hc hmem
              rw [cursorAt_cast] at hback
              exact lt_asymm hback (hlt first List.mem_cons_self)
            · exact hnot hmem
  · have hne : olderMessages db c cursor ≠ [] := by
      intro hnil
      have hroots : olderRoots db c cursor = [] := List.map_eq_nil_iff.mp hnil
      exact hfits ⟨by rw [hroots]; decide, Or.inr hroots⟩
    have hnew : newest ChatMessage.stamp historyPageSize (olderMessages db c cursor) ≠ [] := by
      intro hnil
      have hlen := congrArg List.length hnil
      rw [length_newest, List.length_nil] at hlen
      have hpos := List.length_pos_of_ne_nil hne
      have hsize : 0 < historyPageSize := by decide
      omega
    obtain ⟨a, ha⟩ := List.exists_mem_of_ne_nil _ hnew
    have hpage := page_eq_nil now hwf hc hcold hcur
    refine ⟨a, ha, by rw [hpage]; simp, fun k => ?_⟩
    cases k with
    | zero => simp [walkBack]
    | succ k => rw [walkBack, hpage]; simp

end Walk

/-- **Pages through the database.** When fewer than a page of cached messages precede the cursor,
the `HistoryPage` sent holds the newest messages before the cursor, and any number of requests for
the page before the oldest message received visits every older message exactly once, iff no more
than a page of messages is left. -/
theorem historyPage_newest_iff {db : Database} (hwf : db.WellFormed) {channel : String}
    {c : ChannelRow} (hc : db.liveChannel? channel = some c) {now : Millis}
    (hwin : InWindow db now c) {h : HotHistory} {cursor : Cursor}
    (hcold : (h.before (some cursor.stamp)).length < historyPageSize) :
    ((∃ more, (sendHistoryPage db now channel h (some cursor)).1
        = .historyPage channel
            (newest ChatMessage.stamp historyPageSize (olderMessages db c cursor)) .database more)
      ↔ PageFits db c cursor) ∧
    ∀ k, 0 < k →
      ((walkBack db now channel h k cursor).Perm (olderMessages db c cursor)
        ↔ PageFits db c cursor) := by
  have hsource : (historyReply db now channel h (some cursor)).1.source = .database := by
    rw [historyReply_database hwf hc now (cold_of_before hcold)]
  have hfull : PageFits db c cursor → newest ChatMessage.stamp historyPageSize
      (olderMessages db c cursor) = chron ChatMessage.stamp (olderMessages db c cursor) :=
    fun hfits => newest_of_length_le (by rw [olderMessages, List.length_map]; exact hfits.1)
  refine ⟨?_, ?_⟩
  · refine ⟨?_, ?_⟩
    · rintro ⟨more, hsent⟩
      by_contra hfits
      obtain ⟨a, ha, hnot, -⟩ := exists_lost hwf hc hwin hcold hfits
      simp only [sendHistoryPage, ServerEvent.historyPage.injEq] at hsent
      exact hnot (hsent.2.1 ▸ ha)
    · intro hfits
      refine ⟨(historyReply db now channel h (some cursor)).1.hasMore, ?_⟩
      simp only [sendHistoryPage]
      rw [hsource, page_of_fits hwf hc hwin hcold hfits, hfull hfits]
  · intro k hk
    refine ⟨?_, ?_⟩
    · intro hperm
      by_contra hfits
      obtain ⟨a, ha, -, hnot⟩ := exists_lost hwf hc hwin hcold hfits
      exact hnot k (hperm.mem_iff.mpr (newest_subset ha))
    · intro hfits
      obtain ⟨j, rfl⟩ := Nat.exists_eq_add_of_lt hk
      rw [Nat.zero_add, walkBack]
      have hpage := page_of_fits hwf hc hwin hcold hfits
      cases hmsgs : (historyReply db now channel h (some cursor)).1.messages with
      | nil =>
          have hperm := chron_perm (f := ChatMessage.stamp) (olderMessages db c cursor)
          rw [← hpage, hmsgs] at hperm
          exact hperm
      | cons first rest =>
          simp only [walkBack_of_fits hwf hc hwin hcold hfits hmsgs, List.nil_append]
          rw [← hmsgs, hpage]
          exact chron_perm _

/-- A public channel. -/
def general : ChannelRow := { id := 1, name := "general", createdAt := 0 }

/-- A root message of the channel, created at the instant of its identifier. -/
def rootAt (i : ℕ) : MessageRow :=
  { id := Fin.ofNat _ i, channelId := 1, username := "ada", text := "hello",
    createdAt := Fin.ofNat _ i, ownerSession := 7 }

/-- The channel with `n` root messages. -/
def withRoots (n : ℕ) : Database :=
  { channels := [general], messages := (List.range n).map rootAt }

/-- Fifty messages before the cursor come as one page. -/
theorem historyPage_newest_fifty :
    ∃ more, (sendHistoryPage (withRoots 50) 100 "general" .empty (some (60, 0))).1
      = .historyPage "general"
          (newest ChatMessage.stamp historyPageSize (olderMessages (withRoots 50) general (60, 0)))
          .database more :=
  (historyPage_newest_iff ⟨by decide, by decide, by decide +kernel⟩ (c := general) rfl
    (by decide +kernel) (by decide)).1.mpr (by decide +kernel)

/-- Of fifty-one messages before the cursor the newest one is never served: the page ends with
the message before it, and the walk ends without it. -/
theorem fifty_one_roots_lose_newest :
    (withRoots 51).liveChannel? "general" = some general ∧
    InWindow (withRoots 51) 100 general ∧
    (HotHistory.empty.before (some (Cursor.stamp (60, 0)))).length < historyPageSize ∧
    (¬ ∃ more, (sendHistoryPage (withRoots 51) 100 "general" .empty (some (60, 0))).1
      = .historyPage "general"
          (newest ChatMessage.stamp historyPageSize (olderMessages (withRoots 51) general (60, 0)))
          .database more) ∧
    ∀ k, ¬ (walkBack (withRoots 51) 100 "general" .empty k (60, 0)).Perm
      (olderMessages (withRoots 51) general (60, 0)) := by
  have hwf : (withRoots 51).WellFormed := ⟨by decide, by decide, by decide +kernel⟩
  have hlive : (withRoots 51).liveChannel? "general" = some general := rfl
  have hwin : InWindow (withRoots 51) 100 general := by decide +kernel
  have hcold : (HotHistory.empty.before (some (Cursor.stamp (60, 0)))).length
      < historyPageSize := by decide
  obtain ⟨a, ha, hpage, hwalk⟩ := exists_lost hwf hlive hwin hcold (by decide +kernel)
  refine ⟨hlive, hwin, hcold, ?_, fun k hperm => hwalk k (hperm.mem_iff.mpr (newest_subset ha))⟩
  rintro ⟨more, hsent⟩
  simp only [sendHistoryPage, ServerEvent.historyPage.injEq] at hsent
  exact hpage (hsent.2.1 ▸ ha)

end Vussa
