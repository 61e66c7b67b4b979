import Vussa.Lib.Run
import Vussa.History.Paging
import Vussa.Model.Backend

/-!
The fast path against the slow path: when a page from the hot cache is the page the database
would give.

The cache of a channel is right as long as it is an upper part of the channel's root timeline.
Replies are cached although they are no roots, edits and deletions write messages of any age, and
system messages are stored without being cached; each of these can break it.

* `rootStamps`: the root timeline of a channel;
* `CacheUpper`: the invariant;
* `CacheSound`: what an operation must meet for the cache to stay an upper part;
* `cache_page_agrees`: in every run whose operations meet it, every page from the cache is the
  page of the database.
-/

namespace Vussa

open Timeline SortedSet Run

/-! ### The path of a request -/

/-- The cache has enough messages to answer: three hundred without a cursor; with one, fifty
among the three hundred newest up to the instant of the cursor. -/
def CacheAnswers (h : HotHistory) : Option Cursor → Prop
  | none => hotHistoryLimit ≤ h.log.length
  | some cursor => historyPageSize ≤ (h.recentBefore cursor.cast).length

instance (h : HotHistory) : (before : Option Cursor) → Decidable (CacheAnswers h before)
  | none => inferInstanceAs (Decidable (_ ≤ _))
  | some _ => inferInstanceAs (Decidable (_ ≤ _))

lemma cacheAnswers_iff (h : HotHistory) (before : Option Cursor) :
    cacheLimit before ≤ (loadHotHistoryBefore h (before.map Cursor.cast)).length
      ↔ CacheAnswers h before := by
  cases before with
  | none =>
      rw [Option.map_none, loadHotHistoryBefore, loadHotHistory_eq, length_newest]
      exact ⟨fun hle => le_trans hle (min_le_right _ _), fun hle => le_min le_rfl hle⟩
  | some cursor =>
      rw [Option.map_some, loadHotHistoryBefore_some, length_newest]
      exact ⟨fun hle => le_trans hle (min_le_right _ _), fun hle => le_min le_rfl hle⟩

/-! ### The root timeline -/

/-- The positions of the root messages of the channel with this name. -/
def rootStamps (db : Database) (name : String) : List Stamp :=
  match db.liveChannel? name with
  | none => []
  | some c => (db.messages.filter fun m => m.channelId = c.id ∧ m.rootMessageId = none).map
      MessageRow.stamp

lemma mem_rootStamps {db : Database} {name : String} {e : Stamp} :
    e ∈ rootStamps db name ↔ ∃ c, db.liveChannel? name = some c ∧ ∃ m ∈ db.messages,
      m.channelId = c.id ∧ m.rootMessageId = none ∧ m.stamp = e := by
  rw [rootStamps]
  cases hc : db.liveChannel? name with
  | none => simp
  | some c =>
      simp only [List.mem_map, List.mem_filter, decide_eq_true_eq, Option.some.injEq,
        exists_eq_left']
      refine ⟨?_, ?_⟩
      · rintro ⟨m, ⟨hm, h1, h2⟩, he⟩
        exact ⟨m, hm, h1, h2, he⟩
      · rintro ⟨m, hm, h1, h2, he⟩
        exact ⟨m, ⟨hm, h1, h2⟩, he⟩

lemma rootStamps_keyed {db : Database} (hwf : db.WellFormed) (name : String) :
    Keyed id (rootStamps db name) := by
  rw [rootStamps, Keyed, List.map_id]
  cases hc : db.liveChannel? name with
  | none => exact List.nodup_nil
  | some c => exact hwf.keyed.filter _

/-- One more row is one more root of its channel, if it is a root. -/
lemma mem_rootStamps_append (db : Database) (row : MessageRow) (links : List MessageFileRow)
    {name : String} {e : Stamp} :
    e ∈ rootStamps { db with messages := db.messages ++ [row], messageFiles := links } name ↔
      e ∈ rootStamps db name ∨ ∃ c, db.liveChannel? name = some c ∧ row.channelId = c.id ∧
        row.rootMessageId = none ∧ e = row.stamp := by
  rw [mem_rootStamps, mem_rootStamps]
  have hlive : Database.liveChannel?
      { db with messages := db.messages ++ [row], messageFiles := links } name
      = db.liveChannel? name := rfl
  rw [hlive]
  refine ⟨?_, ?_⟩
  · rintro ⟨c, hc, m, hm, h1, h2, he⟩
    rcases List.mem_append.mp hm with hm | hm
    · exact Or.inl ⟨c, hc, m, hm, h1, h2, he⟩
    · rw [List.mem_singleton] at hm
      subst hm
      exact Or.inr ⟨c, hc, h1, h2, he.symm⟩
  · rintro (⟨c, hc, m, hm, h1, h2, he⟩ | ⟨c, hc, h1, h2, he⟩)
    · exact ⟨c, hc, m, List.mem_append_left _ hm, h1, h2, he⟩
    · exact ⟨c, hc, row, List.mem_append_right _ (List.mem_singleton_self row), h1, h2, he.symm⟩

/-- A saved message is one more root of its channel, unless it is a reply. -/
lemma mem_rootStamps_saved {db : Database} {message : ChatMessage} {c : ChannelRow}
    (hc : db.liveChannel? message.channel = some c) (session user : Uuid)
    (links : List MessageFileRow) (e : Stamp) :
    e ∈ rootStamps { db with
        messages := db.messages ++ [savedRow c message session user], messageFiles := links }
        message.channel ↔
      e ∈ (if message.rootMessageId = none then message.stamp :: rootStamps db message.channel
        else rootStamps db message.channel) := by
  have hrow : (savedRow c message session user).stamp = message.stamp := rfl
  rw [mem_rootStamps_append, hrow]
  by_cases hroot : message.rootMessageId = none
  · rw [if_pos hroot, List.mem_cons]
    refine ⟨?_, ?_⟩
    · rintro (hr | ⟨-, -, -, -, rfl⟩)
      · exact Or.inr hr
      · exact Or.inl rfl
    · rintro (rfl | hr)
      · exact Or.inr ⟨c, hc, rfl, hroot, rfl⟩
      · exact Or.inl hr
  · rw [if_neg hroot]
    refine ⟨?_, ?_⟩
    · rintro (hr | ⟨-, -, -, hnone, -⟩)
      · exact hr
      · exact absurd hnone hroot
    · exact Or.inl

/-- A row belongs to one channel, and does not move the timelines of the others. -/
lemma mem_rootStamps_append_of_ne {db : Database} (hwf : db.WellFormed) {row : MessageRow}
    {channel name : String} {c : ChannelRow} (hc : db.liveChannel? channel = some c)
    (hrow : row.channelId = c.id) (hname : name ≠ channel) (links : List MessageFileRow)
    (e : Stamp) :
    e ∈ rootStamps { db with messages := db.messages ++ [row], messageFiles := links } name ↔
      e ∈ rootStamps db name := by
  rw [mem_rootStamps_append]
  refine ⟨?_, Or.inl⟩
  rintro (he | ⟨c', hc', hcid, -, -⟩)
  · exact he
  · exact absurd (Database.liveChannel?_name_unique hwf hc' hc (hcid.symm.trans hrow)) hname

/-- An update that keeps a message where it is does not move the timeline. -/
lemma rootStamps_updateMessage (db : Database) (id : Uuid) {f : MessageRow → MessageRow}
    (hf : MessageRow.Placed f) (name : String) :
    rootStamps (db.updateMessage id f) name = rootStamps db name := by
  have hlive : (db.updateMessage id f).liveChannel? name = db.liveChannel? name := rfl
  rw [rootStamps, rootStamps, hlive]
  cases hc : db.liveChannel? name with
  | none => rfl
  | some c =>
      simp only [Database.updateMessage, List.filter_map, List.map_map]
      have hpred : (fun m => decide (m.channelId = c.id ∧ m.rootMessageId = none)) ∘
          (fun m => if m.id = id then f m else m)
          = fun m => decide (m.channelId = c.id ∧ m.rootMessageId = none) := by
        funext m
        by_cases hid : m.id = id <;> simp [hid, hf.channelId, hf.rootMessageId]
      have hstamp : MessageRow.stamp ∘ (fun m => if m.id = id then f m else m)
          = MessageRow.stamp := by
        funext m
        by_cases hid : m.id = id <;> simp [hid, MessageRow.stamp, hf.id, hf.createdAt]
      rw [hpred, hstamp]

/-! ### The entries of the cache -/

lemma HotHistory.entries_keyed (h : HotHistory) : Keyed id h.order.entries := by
  rw [Keyed, List.map_id]
  exact h.order.sorted.imp ne_of_lt

lemma mem_store_entries {h : HotHistory} {record : StoredMessage} {e : Stamp} :
    e ∈ (h.store record).order.entries ↔
      e = record.intoMessage.stamp ∨ (e ∈ h.order.entries ∧ member e ≠ record.id) :=
  mem_add

lemma storeMessage_entries_newest (h : HotHistory) (m : ChatMessage) (s : Uuid) :
    (storeMessage h m s).order.entries
      = newest id hotHistoryLimit (h.store (.fromMessage m s)).order.entries := by
  have hchron : Chron id (h.store (.fromMessage m s)).order.entries :=
    (h.store (.fromMessage m s)).order.sorted
  rw [storeMessage_entries, newest, hchron.chron_eq]

/-- A cache write of a writable position leaves an upper part. -/
lemma upper_storeMessage {h : HotHistory} {whole whole' : List Stamp}
    (hup : Upper h.order.entries whole) {m : ChatMessage} (s : Uuid)
    (hsame : ∀ e ∈ h.order.entries, member e = m.id → e = m.stamp)
    (hgrow : ∀ r ∈ whole, r ∈ whole') (hnew : ∀ r ∈ whole', r ∈ whole ∨ r = m.stamp)
    (hw : Writable hotHistoryLimit h.order.entries whole' m.stamp) :
    Upper (storeMessage h m s).order.entries whole' := by
  rw [storeMessage_entries_newest]
  refine hup.write h.entries_keyed (HotHistory.entries_keyed _) (fun e => ?_) hgrow hnew hw
  rw [mem_store_entries]
  refine ⟨?_, ?_⟩
  · rintro (he | ⟨he, -⟩)
    · exact Or.inl he
    · exact Or.inr he
  · rintro (he | he)
    · exact Or.inl he
    · by_cases hid : member e = m.id
      · exact Or.inl (hsame e he hid)
      · exact Or.inr ⟨he, hid⟩

/-- Hydration adds the positions of the messages, when all positions agree on their members. -/
lemma mem_hydrate_entries {W : List Stamp}
    (hW : ∀ a ∈ W, ∀ b ∈ W, member a = member b → a = b) {h : HotHistory}
    {ms : List ChatMessage} (hh : ∀ e ∈ h.order.entries, e ∈ W) (hms : ∀ m ∈ ms, m.stamp ∈ W)
    {e : Stamp} :
    e ∈ (hydrateHotHistory h ms).order.entries ↔
      e ∈ h.order.entries ∨ e ∈ ms.map ChatMessage.stamp := by
  induction ms generalizing h with
  | nil => simp [hydrateHotHistory]
  | cons m ms ih =>
      have hstore : ∀ e, e ∈ (h.store (.fromMessage m Uuid.nil)).order.entries ↔
          e = m.stamp ∨ e ∈ h.order.entries := by
        intro e
        rw [mem_store_entries]
        refine ⟨?_, ?_⟩
        · rintro (he | ⟨he, -⟩)
          · exact Or.inl he
          · exact Or.inr he
        · rintro (he | he)
          · exact Or.inl he
          · by_cases hid : member e = m.id
            · exact Or.inl (hW e (hh e he) m.stamp (hms m List.mem_cons_self) hid)
            · exact Or.inr ⟨he, hid⟩
      have hstoreW : ∀ e ∈ (h.store (.fromMessage m Uuid.nil)).order.entries, e ∈ W := by
        intro e he
        rcases (hstore e).mp he with rfl | he
        · exact hms m List.mem_cons_self
        · exact hh e he
      have hih := ih hstoreW fun m' hm' => hms m' (List.mem_cons_of_mem _ hm')
      rw [hydrateHotHistory, List.foldl_cons, ← hydrateHotHistory, hih, hstore, List.map_cons,
        List.mem_cons]
      tauto

/-! ### Agreement -/

/-- The positions of the served roots. -/
lemma mem_servedStamps {db : Database} {now : Millis} {name : String} {c : ChannelRow}
    (hc : db.liveChannel? name = some c) {before : Option Stamp} {e : Stamp} :
    e ∈ (servedRoots db now c before).map MessageRow.stamp ↔
      e ∈ rootStamps db name ∧ ((now : ℕ) : ℤ) - historyWindow ≤ score e ∧
        ∀ s ∈ before, e < s := by
  simp only [mem_rootStamps, hc, servedRoots, List.mem_map, List.mem_filter, decide_eq_true_eq,
    Option.some.injEq, exists_eq_left']
  refine ⟨?_, ?_⟩
  · rintro ⟨m, ⟨hm, h1, h2, h3, h4⟩, rfl⟩
    exact ⟨⟨m, hm, h1, h3, rfl⟩, h2, h4⟩
  · rintro ⟨⟨m, hm, h1, h3, rfl⟩, h2, h4⟩
    exact ⟨m, ⟨hm, h1, h2, h3, h4⟩, rfl⟩

/-- Roots outside the window are older than those inside. -/
lemma lt_of_unserved {now : Millis} {a b : Stamp}
    (ha : ¬ ((now : ℕ) : ℤ) - historyWindow ≤ score a)
    (hb : ((now : ℕ) : ℤ) - historyWindow ≤ score b) : a < b :=
  lt_of_score_lt (lt_of_lt_of_le (not_le.mp ha) hb)

/-- The page of the cache lies inside the ninety days that `load_messages` serves. -/
def PageInWindow (now : Millis) (h : HotHistory) (before : Option Cursor) : Prop :=
  ∀ m ∈ newest ChatMessage.stamp historyPageSize (h.before (before.map Cursor.cast)),
    ((now : ℕ) : ℤ) - historyWindow ≤ ((m.createdAt : ℕ) : ℤ)

instance (now : Millis) (h : HotHistory) (before : Option Cursor) :
    Decidable (PageInWindow now h before) :=
  inferInstanceAs (Decidable (∀ m ∈ newest _ _ _, _))

/-- The positions of the cached messages before the cursor. -/
lemma before_stamps (h : HotHistory) (before : Option Stamp) :
    (h.before before).map ChatMessage.stamp
      = h.order.entries.filter fun e => ∀ s ∈ before, e < s := by
  rw [h.entries_eq, List.filter_map]
  rfl

/-- **One page**: an upper part of the root timeline that has enough messages before the cursor
gives the page of the database. -/
lemma newest_before_eq {db : Database} (hwf : db.WellFormed) {now : Millis} {name : String}
    {c : ChannelRow} (hc : db.liveChannel? name = some c) {h : HotHistory}
    (hup : Upper h.order.entries (rootStamps db name)) {before : Option Cursor}
    (hlen : historyPageSize ≤ (h.before (before.map Cursor.cast)).length)
    (hwin : PageInWindow now h before) :
    (newest ChatMessage.stamp historyPageSize (h.before (before.map Cursor.cast))).map
        ChatMessage.stamp
      = (loadMessages db now name (before.map Cursor.cast) historyPageSize).map
          ChatMessage.stamp := by
  set cut := before.map Cursor.cast with hcut
  set part := h.order.entries.filter fun e => ∀ s ∈ cut, e < s with hpart
  set whole := (rootStamps db name).filter fun e => ∀ s ∈ cut, e < s with hwhole
  set served := (servedRoots db now c cut).map MessageRow.stamp with hserved
  have hleft : (newest ChatMessage.stamp historyPageSize (h.before cut)).map ChatMessage.stamp
      = newest id historyPageSize part := by
    rw [hpart, ← before_stamps, newest_keys]
  have hright : (loadMessages db now name cut historyPageSize).map ChatMessage.stamp
      = newest id historyPageSize served := by
    have hview : (servedMessages db now c cut).map ChatMessage.stamp = served := by
      rw [servedMessages, List.map_map]
      rfl
    rw [loadMessages_eq hwf hc, ← servedMessages, ← hview, newest_keys]
  have hpartlen : historyPageSize ≤ part.length := by
    rw [hpart, ← before_stamps, List.length_map]
    exact hlen
  have hkwhole : Keyed id whole := (rootStamps_keyed hwf name).filter _
  have hkserved : Keyed id served := by
    rw [Keyed, List.map_id]
    exact servedRoots_keyed hwf now c cut
  have hpw : newest id historyPageSize part = newest id historyPageSize whole := by
    refine newest_eq_of_upper hkwhole (h.entries_keyed.filter _) ?_ ?_ hpartlen
    · intro e he
      obtain ⟨he1, he2⟩ := List.mem_filter.mp he
      exact List.mem_filter.mpr ⟨hup.subset e he1, he2⟩
    · intro r hr hnot e he
      obtain ⟨hr1, hr2⟩ := List.mem_filter.mp hr
      exact hup.older r hr1 (fun hmem => hnot (List.mem_filter.mpr ⟨hmem, hr2⟩)) e
        (List.mem_of_mem_filter he)
  -- the page is served, so the served roots are many enough to give the same page
  have hpage : ∀ e ∈ newest id historyPageSize whole, e ∈ served := by
    intro e he
    rw [← hpw, ← hleft] at he
    obtain ⟨m, hm, rfl⟩ := List.mem_map.mp he
    have hmem : m.stamp ∈ part := by
      rw [hpart, ← before_stamps]
      exact List.mem_map_of_mem (newest_subset hm)
    obtain ⟨h1, h2⟩ := List.mem_filter.mp hmem
    exact (mem_servedStamps hc).mpr ⟨hup.subset _ h1, hwin m hm, of_decide_eq_true h2⟩
  have hsw : newest id historyPageSize served = newest id historyPageSize whole := by
    refine newest_eq_of_upper hkwhole hkserved ?_ ?_ ?_
    · intro e he
      obtain ⟨h1, -, h3⟩ := (mem_servedStamps hc).mp he
      exact List.mem_filter.mpr ⟨h1, decide_eq_true h3⟩
    · intro r hr hnot e he
      obtain ⟨hr1, hr2⟩ := List.mem_filter.mp hr
      obtain ⟨-, h2, -⟩ := (mem_servedStamps hc).mp he
      refine lt_of_unserved (fun hle => hnot ?_) h2
      exact (mem_servedStamps hc).mpr ⟨hr1, hle, of_decide_eq_true hr2⟩
    · have hsub : (newest id historyPageSize whole).length ≤ served.length :=
        (List.subperm_of_subset (List.Nodup.of_map id (newest_chron hkwhole _).keyed)
          hpage).length_le
      rw [← hpw, length_newest] at hsub
      omega
  calc (newest ChatMessage.stamp historyPageSize (h.before cut)).map ChatMessage.stamp
      = newest id historyPageSize part := hleft
    _ = newest id historyPageSize whole := hpw
    _ = newest id historyPageSize served := hsw.symm
    _ = (loadMessages db now name cut historyPageSize).map ChatMessage.stamp := hright.symm

/-! ### The invariant -/

/-- Every cache is an upper part of the root timeline of the channel it is named after. -/
structure CacheUpper (b : Backend) : Prop where
  wf : b.db.WellFormed
  upper : ∀ name, Upper (b.history name).order.entries (rootStamps b.db name)

/-- What keeps the cache an upper part. A message written to the cache is there already, or three
hundred cached messages are newer, or it is a root and the other roots outside the cache are
older; a system message, which is not cached, is older than everything cached. A page taken from
the cache lies inside the window. -/
def CacheSound (b : Backend) : MessageOp → Prop
  | .post message session user =>
      (∃ db', saveMessage b.db message session user = .ok db') →
        Writable hotHistoryLimit (b.history message.channel).order.entries
          (if message.rootMessageId = none then message.stamp :: rootStamps b.db message.channel
            else rootStamps b.db message.channel) message.stamp
  | .edit channel id session _ =>
      ∀ cm ∈ b.db.messageIn? channel id, cm.2.ownerSession = session →
        Writable hotHistoryLimit (b.history channel).order.entries (rootStamps b.db channel)
          cm.2.stamp
  | .delete channel id session canModerate =>
      ∀ cm ∈ b.db.messageIn? channel id, canModerate ∨ cm.2.ownerSession = session →
        Writable hotHistoryLimit (b.history channel).order.entries (rootStamps b.db channel)
          cm.2.stamp
  | .system id channel _ => ∀ e ∈ (b.history channel).order.entries, stamp b.now id < e
  | .moderate _ _ _ _ => True
  | .page channel before =>
      CacheAnswers (b.history channel) before → PageInWindow b.now (b.history channel) before
  | .wait _ => True

/-- A page answered from the cache has the identifiers, in the order, of the page of the
database. -/
def PageAgrees (b : Backend) : MessageOp → Prop
  | .page channel before =>
      (b.historyPage channel before).1.source = .cache →
        (b.historyPage channel before).1.messages.map ChatMessage.id
          = (loadMessages b.db b.now channel (before.map Cursor.cast) historyPageSize).map
              ChatMessage.id
  | _ => True

instance (b : Backend) : (op : MessageOp) → Decidable (PageAgrees b op)
  | .page _ _ => inferInstanceAs (Decidable (_ = _ → _ = _))
  | .post .. | .edit .. | .delete .. | .system .. | .moderate .. | .wait _ => isTrue trivial

/-- Under the invariant a page from the cache agrees. -/
lemma pageAgrees_of_upper {b : Backend} (hinv : CacheUpper b) {channel : String}
    {before : Option Cursor} (hsound : CacheSound b (.page channel before)) :
    PageAgrees b (.page channel before) := by
  intro hsource
  set h := b.history channel with hh
  by_cases hcache : CacheAnswers h before
  · have hlimit := (cacheAnswers_iff h before).mpr hcache
    have hlen : historyPageSize ≤ (h.before (before.map Cursor.cast)).length := by
      refine le_trans ?_ (le_trans hlimit (length_loadHotHistoryBefore_le h _))
      cases before with
      | none => decide
      | some cursor => exact le_rfl
    have hne : h.order.entries ≠ [] := by
      intro hnil
      rw [h.entries_eq, List.map_eq_nil_iff] at hnil
      rw [HotHistory.before, hnil, List.filter_nil] at hlen
      exact absurd hlen (by decide)
    obtain ⟨e, he⟩ := List.exists_mem_of_ne_nil _ hne
    obtain ⟨c, hc, -⟩ := mem_rootStamps.mp ((hinv.upper channel).subset e he)
    have hstamps := newest_before_eq hinv.wf hc (hinv.upper channel) hlen (hsound hcache)
    have hids := congrArg (List.map member) hstamps
    simp only [List.map_map] at hids
    rw [Backend.historyPage_fst, ← hh, historyReply_cache hlimit]
    exact hids
  · have hcold := not_le.mp fun hle => hcache ((cacheAnswers_iff h before).mp hle)
    rw [Backend.historyPage_fst, ← hh, historyReply] at hsource
    simp only [if_pos hcold] at hsource
    exact absurd hsource (by simp)

/-! ### Every operation keeps the invariant -/

/-- Changing the tables without moving a timeline, and the cache of one name to an upper part. -/
lemma CacheUpper.setHistory {b : Backend} (hinv : CacheUpper b) {db' : Database}
    (hwf' : db'.WellFormed) (channel : String) {h : HotHistory}
    (hroots : ∀ name, name ≠ channel → rootStamps db' name = rootStamps b.db name)
    (hup : Upper h.order.entries (rootStamps db' channel)) :
    CacheUpper ({ b with db := db' }.setHistory channel h) := by
  refine ⟨hwf', fun name => ?_⟩
  by_cases hname : name = channel
  · rw [hname, Backend.setHistory_self]
    exact hup
  · rw [Backend.setHistory_of_ne _ hname, Backend.setHistory_db]
    simp only
    rw [hroots name hname]
    exact hinv.upper name

/-- `update_hot_message` after an update of a row that stays in its place. -/
lemma CacheUpper.writeHot {b : Backend} (hinv : CacheUpper b) {channel : String} {id : Uuid}
    {cm : ChannelRow × MessageRow} (hm : b.db.messageIn? channel id = some cm)
    {f : MessageRow → MessageRow} (hf : MessageRow.Placed f) {message : ChatMessage}
    (hchan : message.channel = cm.1.name) (hstamp : message.stamp = cm.2.stamp)
    (hw : Writable hotHistoryLimit (b.history channel).order.entries (rootStamps b.db channel)
      cm.2.stamp) :
    CacheUpper ({ b with db := b.db.updateMessage id f }.writeHot message) := by
  obtain ⟨c, m⟩ := cm
  obtain ⟨hlive, hmem, hid, hcid⟩ := Database.messageIn?_some hm
  have hname : message.channel = channel := hchan.trans (Database.liveChannel?_some hlive).2.1
  rw [Backend.writeHot, hname]
  refine hinv.setHistory (wellFormed_updateMessage hinv.wf id hf) channel
    (fun name _ => rootStamps_updateMessage b.db id hf name) ?_
  rw [rootStamps_updateMessage b.db id hf]
  refine upper_storeMessage (hinv.upper channel) Uuid.nil ?_ (fun r hr => hr)
    (fun r hr => Or.inl hr) (hstamp ▸ hw)
  -- a cached entry of this identifier is the position of this very row
  intro e he hmember
  obtain ⟨c', -, m', hm', -, -, rfl⟩ := mem_rootStamps.mp ((hinv.upper channel).subset e he)
  have hmid : message.id = m.id := congrArg member hstamp
  have hm'id : m'.id = m.id := (show m'.id = message.id from hmember).trans hmid
  rw [hstamp, hinv.wf.eq_of_id hm' hmem hm'id]

/-- A saved message: one more root or reply, written to the cache of its channel. -/
lemma CacheUpper.post {b : Backend} (hinv : CacheUpper b) {message : ChatMessage}
    {session user : Uuid} {db' : Database}
    (hsave : saveMessage b.db message session user = .ok db')
    (hw : Writable hotHistoryLimit (b.history message.channel).order.entries
      (if message.rootMessageId = none then message.stamp :: rootStamps b.db message.channel
        else rootStamps b.db message.channel) message.stamp) :
    CacheUpper ({ b with db := db' }.setHistory message.channel
      (storeMessage (b.history message.channel) message session)) := by
  obtain ⟨c, links, hc, hfresh, rfl⟩ := saveMessage_ok hsave
  set db1 : Database := { b.db with
    messages := b.db.messages ++ [savedRow c message session user], messageFiles := links }
  have hwf1 : db1.WellFormed :=
    wellFormed_append hinv.wf (savedRow c message session user) links hfresh
  -- the timeline of the channel grows by the message if it is a root
  have hgrown : ∀ r, r ∈ rootStamps db1 message.channel ↔
      r ∈ (if message.rootMessageId = none then message.stamp :: rootStamps b.db message.channel
        else rootStamps b.db message.channel) := mem_rootStamps_saved hc session user links
  have hwritable : Writable hotHistoryLimit (b.history message.channel).order.entries
      (rootStamps db1 message.channel) message.stamp := by
    simpa only [Writable, hgrown] using hw
  refine ⟨hwf1, fun name => ?_⟩
  by_cases hname : name = message.channel
  · rw [hname, Backend.setHistory_self, Backend.setHistory_db]
    refine upper_storeMessage (hinv.upper message.channel) session ?_ ?_ ?_ hwritable
    · -- no cached entry has the new identifier
      intro e he hmember
      obtain ⟨-, -, m', hm', -, -, rfl⟩ :=
        mem_rootStamps.mp ((hinv.upper message.channel).subset e he)
      exact absurd hmember (hfresh m' hm')
    · intro r hr
      exact (mem_rootStamps_append _ _ links).mpr (Or.inl hr)
    · intro r hr
      rcases (mem_rootStamps_append _ _ links).mp hr with hr | ⟨-, -, -, -, rfl⟩
      · exact Or.inl hr
      · exact Or.inr rfl
  · rw [Backend.setHistory_of_ne _ hname, Backend.setHistory_db]
    have hother : ∀ r, r ∈ rootStamps db1 name ↔ r ∈ rootStamps b.db name :=
      mem_rootStamps_append_of_ne hinv.wf hc rfl hname links
    refine ⟨?_, ?_⟩
    · intro e he
      exact (hother e).mpr ((hinv.upper name).subset e he)
    · intro r hr
      exact (hinv.upper name).older r ((hother r).mp hr)

/-- A system message older than everything cached. -/
lemma CacheUpper.system {b : Backend} (hinv : CacheUpper b) {id : Uuid} {channel text : String}
    {db' : Database} {message : Option ChatMessage}
    (hsave : createSystemMessage b.db b.now id channel text = .ok (db', message))
    (hold : ∀ e ∈ (b.history channel).order.entries, stamp b.now id < e) :
    CacheUpper { b with db := db' } := by
  rcases createSystemMessage_ok hsave with ⟨-, rfl⟩ | ⟨c, hc, hfresh, rfl⟩
  · exact hinv
  · refine ⟨wellFormed_append hinv.wf (systemRow c id b.now text) b.db.messageFiles hfresh,
      fun name => ?_⟩
    refine ⟨?_, ?_⟩
    · intro e he
      exact (mem_rootStamps_append _ (systemRow c id b.now text) b.db.messageFiles).mpr
        (Or.inl ((hinv.upper name).subset e he))
    · intro r hr hnot e he
      rcases (mem_rootStamps_append _ (systemRow c id b.now text) b.db.messageFiles).mp hr with
        hr | ⟨c', hc', hcid, -, rfl⟩
      · exact (hinv.upper name).older r hr hnot e he
      · have hname := Database.liveChannel?_name_unique hinv.wf hc' hc hcid.symm
        exact hold e (hname ▸ he)

/-- A moderation drops the cache of the channel. -/
lemma CacheUpper.moderate {b : Backend} (hinv : CacheUpper b) {actor id : Uuid}
    {action : Moderation} {reason : Option String} {db' : Database}
    (hmod : adminModerateMessage b.db b.now actor id action reason = .ok db')
    (message : Option ChatMessage) :
    CacheUpper (match message with
      | none => { b with db := db' }
      | some m => { b with db := db' }.setHistory m.channel .empty) := by
  obtain ⟨audit, rfl⟩ := adminModerateMessage_ok hmod
  have hplaced := MessageRow.placed_moderate b.now actor reason action
  have hwf' := wellFormed_audit (wellFormed_updateMessage hinv.wf id hplaced) audit
  have hroots : ∀ name, rootStamps { b.db.updateMessage id
      (MessageRow.moderate b.now actor reason action) with auditEvents := audit } name
      = rootStamps b.db name := fun name => rootStamps_updateMessage b.db id hplaced name
  cases message with
  | none => exact ⟨hwf', fun name => by simp only [hroots]; exact hinv.upper name⟩
  | some m => exact hinv.setHistory hwf' m.channel (fun name _ => hroots name) (Upper.nil _)

/-- Members of the positions of messages determine them. -/
lemma rootStamps_member {db : Database} (hwf : db.WellFormed) {name : String} :
    ∀ a ∈ rootStamps db name, ∀ e ∈ rootStamps db name, member a = member e → a = e := by
  intro a ha e he hmember
  obtain ⟨-, -, m, hm, -, -, rfl⟩ := mem_rootStamps.mp ha
  obtain ⟨-, -, m', hm', -, -, rfl⟩ := mem_rootStamps.mp he
  rw [hwf.eq_of_id hm hm' hmember]

/-- A page hydrates the cache with an upper part, or leaves it alone. -/
lemma CacheUpper.page {b : Backend} (hinv : CacheUpper b) (channel : String)
    (before : Option Cursor) : CacheUpper (b.historyPage channel before).2 := by
  rw [Backend.historyPage_snd]
  refine hinv.setHistory hinv.wf channel (fun _ _ => rfl) ?_
  rcases historyReply_snd_cases hinv.wf b.now channel (b.history channel) before with
    hkeep | ⟨c, hc, hhyd⟩
  · rw [hkeep]
    exact hinv.upper channel
  · -- the hydrated positions are the newest served ones, an upper part themselves
    have hstamps : (newest ChatMessage.stamp hotHistoryLimit
        (servedMessages b.db b.now c none)).map ChatMessage.stamp
        = newest id hotHistoryLimit ((servedRoots b.db b.now c none).map MessageRow.stamp) := by
      rw [newest_keys, servedMessages, List.map_map]
      rfl
    have hserved : Upper ((servedRoots b.db b.now c none).map MessageRow.stamp)
        (rootStamps b.db channel) := by
      refine ⟨?_, ?_⟩
      · intro e he
        exact ((mem_servedStamps hc).mp he).1
      · intro r hr hnot e he
        refine lt_of_unserved (fun hle => hnot ?_) ((mem_servedStamps hc).mp he).2.1
        exact (mem_servedStamps hc).mpr ⟨hr, hle, by simp⟩
    have hkeyed : Keyed id ((servedRoots b.db b.now c none).map MessageRow.stamp) := by
      rw [Keyed, List.map_id]
      exact servedRoots_keyed hinv.wf b.now c none
    have hnewest := hserved.newest hkeyed hotHistoryLimit
    rw [hhyd]
    refine (hinv.upper channel).union hnewest fun e => ?_
    rw [← hstamps]
    refine mem_hydrate_entries (rootStamps_member hinv.wf) (hinv.upper channel).subset ?_
    intro m hm
    refine hnewest.subset _ ?_
    rw [← hstamps]
    exact List.mem_map_of_mem hm

/-- **One operation** that meets the condition keeps every cache an upper part. -/
theorem CacheUpper.step {b : Backend} {op : MessageOp} (hinv : CacheUpper b)
    (hsound : CacheSound b op) : CacheUpper (op.step b) := by
  cases op with
  | post message session user =>
      rw [MessageOp.step, Backend.postMessage]
      cases hsave : saveMessage b.db message session user with
      | error e => exact hinv
      | ok db' => exact hinv.post hsave (hsound ⟨db', hsave⟩)
  | edit channel id session text =>
      rw [MessageOp.step, Backend.editMessage]
      cases hedit : Vussa.editMessage b.db channel id session text with
      | error e => exact hinv
      | ok res =>
          obtain ⟨db', message⟩ := res
          obtain ⟨c, m, hm, howner, rfl, rfl⟩ := editMessage_ok hedit
          exact hinv.writeHot hm (MessageRow.placed_edit text) rfl rfl
            (hsound (c, m) hm howner)
  | delete channel id session canModerate =>
      rw [MessageOp.step, Backend.deleteMessage]
      cases hdel : Vussa.deleteMessage b.db b.now channel id session canModerate with
      | error e => exact hinv
      | ok res =>
          obtain ⟨db', message⟩ := res
          obtain ⟨c, m, hm, hallowed, rfl, rfl⟩ := deleteMessage_ok hdel
          exact hinv.writeHot hm (MessageRow.placed_delete b.now) rfl rfl
            (hsound (c, m) hm hallowed)
  | system id channel text =>
      rw [MessageOp.step, Backend.publishSystemMessage]
      cases hsys : createSystemMessage b.db b.now id channel text with
      | error e => exact hinv
      | ok res => exact hinv.system hsys hsound
  | moderate actor id action reason =>
      rw [MessageOp.step, Backend.moderateMessage]
      cases hmod : adminModerateMessage b.db b.now actor id action reason with
      | error e => exact hinv
      | ok db' =>
          have hview := hinv.moderate hmod (moderatedView? db' id)
          simp only [Except.map]
          cases hv : moderatedView? db' id with
          | none => rw [hv] at hview; exact hview
          | some m => rw [hv] at hview; exact hview
  | page channel before => exact hinv.page channel before
  | wait millis => exact ⟨hinv.wf, hinv.upper⟩

/-- **The fast path agrees with the slow path.** From cold caches over any well-formed tables, in
every run of posts, replies, system messages, edits, deletions, moderations and joins whose
operations all meet `CacheSound`, every page answered from the cache has the identifiers and the
order of the page the database gives for the same cursor. -/
theorem cache_page_agrees {b : Backend} (hwf : b.db.WellFormed)
    (hcold : ∀ name, (b.history name).order.entries = []) {ops : List MessageOp}
    (hsound : Along MessageOp.step CacheSound b ops) :
    Along MessageOp.step PageAgrees b ops := by
  have hinit : CacheUpper b := ⟨hwf, fun name => by rw [hcold name]; exact Upper.nil _⟩
  refine Along.of_invariant (fun b op (hinv : CacheUpper b) hop => hinv.step hop) ?_ hinit hsound
  intro b op hinv hop
  cases op with
  | page channel before => exact pageAgrees_of_upper hinv hop
  | _ => trivial

/-- A channel of fifty messages and cold caches. -/
def fiftyRoots : Backend := { db := withRoots 50, now := 55 }

/-- After a join, the page before the end comes from the cache and agrees. -/
theorem cache_page_agrees_fifty :
    (((MessageOp.page "general" none).step fiftyRoots).historyPage "general"
      (some (60, 0))).1.source = .cache ∧
    Along MessageOp.step PageAgrees fiftyRoots
      [.page "general" none, .page "general" (some (60, 0))] :=
  ⟨by decide +kernel,
    cache_page_agrees (b := fiftyRoots) ⟨by decide, by decide, by decide +kernel⟩ (fun _ => rfl)
      ⟨fun hcache => absurd hcache (by decide +kernel), fun _ => by decide +kernel, trivial⟩⟩

/-- A system message is stored but not cached, so that the page before the end misses it. -/
theorem uncached_system_message_disagrees :
    ¬ Along MessageOp.step PageAgrees fiftyRoots
      [.page "general" none, .system 55 "general" "ada invited bob",
        .page "general" (some (60, 0))] := by
  intro hrun
  exact absurd hrun.2.2.1 (by decide +kernel)

end Vussa
