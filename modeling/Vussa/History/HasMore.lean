import Vussa.History.HotReads
import Vussa.History.Paging

/-!
The `has_more` flags of `History`, `HistoryPage` and `ThreadHistory`.

The page sent has fifty places, but the flag is computed against another number on every path:
three hundred rows without a cursor, fifty rows with one (of which the newest is then cut off),
fifty replies in a thread, and no comparison with the database at all when the cache answers. The
cache is the two Valkey keys with whatever they hold.

* `PageRequest`, `PageRequest.answer`, `timeline`: the three requests, their answers and their
  timelines;
* `FlagRight`, `FlagHolds`: what the flag is to say, and when it does;
* `hasMore_iff`: the flag is right on exactly these inputs.
-/

namespace Vussa

open Timeline

/-- A request for a page: of the history of a channel (without a cursor on a join), or of a
thread. -/
inductive PageRequest where
  | history (before : Option Cursor)
  | thread (rootMessageId : Uuid) (before : Option Cursor)
  deriving DecidableEq, Repr

/-- The event that answers a request. -/
def PageRequest.answer (db : Database) (now : Millis) (channel : String) (k : HotKeys) :
    PageRequest → ServerEvent
  | .history before => (k.sendHistoryPage db now channel before).1
  | .thread root before => sendThreadPage db channel root before

/-- The timeline a request reads. -/
def timeline (db : Database) (now : Millis) (c : ChannelRow) : PageRequest → List MessageRow
  | .history _ => servedRoots db now c none
  | .thread root _ => threadRows db c root none

/-- The page and the flag of a paging event. -/
def ServerEvent.page? : ServerEvent → Option (List ChatMessage × Bool)
  | .history _ messages _ hasMore => some (messages, hasMore)
  | .historyPage _ messages _ hasMore => some (messages, hasMore)
  | .threadHistory _ messages hasMore => some (messages, hasMore)
  | _ => none

/-- Some row is strictly older than the oldest message of the page, that is, than all of them. -/
def OlderThan (rows : List MessageRow) (page : List ChatMessage) : Prop :=
  page ≠ [] ∧ ∃ m ∈ rows, ∀ x ∈ page, m.stamp < x.stamp

instance (rows : List MessageRow) (page : List ChatMessage) : Decidable (OlderThan rows page) :=
  inferInstanceAs (Decidable (_ ∧ _))

/-- The flag of a paging event says whether its timeline has something older. -/
def FlagRight (rows : List MessageRow) (event : ServerEvent) : Prop :=
  ∃ page more, event.page? = some (page, more) ∧ (more = true ↔ OlderThan rows page)

/-! ### The path of a request -/

/-- The page and the flag a cache answer carries. -/
lemma page?_answer_cache {db : Database} {channel : String} {now : Millis} {k : HotKeys}
    {before : Option Cursor} (hcache : k.Answers before) :
    (PageRequest.answer db now channel k (.history before)).page?
      = some (newest ChatMessage.stamp historyPageSize (k.loaded (before.map Cursor.cast)),
          true) := by
  rw [PageRequest.answer, HotKeys.sendHistoryPage, HotKeys.historyReply_cache hcache]
  cases before with
  | none => rfl
  | some cursor => rfl

/-- The page and the flag a database answer carries. -/
lemma page?_answer_database {db : Database} (hwf : db.WellFormed) {channel : String}
    {c : ChannelRow} (hc : db.liveChannel? channel = some c) {now : Millis} {k : HotKeys}
    {before : Option Cursor} (hcold : ¬ k.Answers before) :
    (PageRequest.answer db now channel k (.history before)).page?
      = some (cutPage before (newest ChatMessage.stamp (cacheLimit before + 1)
          (servedMessages db now c (before.map Cursor.cast))),
          decide (cacheLimit before
            < (servedMessages db now c (before.map Cursor.cast)).length)) := by
  have hreply := (HotKeys.historyReply_database hcold db now channel).trans
    (databaseReply_eq hwf hc now before)
  rw [PageRequest.answer, HotKeys.sendHistoryPage]
  cases before with
  | none => simp only [ServerEvent.page?, hreply]
  | some cursor => simp only [ServerEvent.page?, hreply]

/-! ### Older rows -/

/-- Rows before the cursor, as messages. -/
lemma olderThan_map (db : Database) (channel : String) {rows : List MessageRow}
    {page : List ChatMessage} :
    OlderThan rows page ↔ page ≠ [] ∧
      ∃ b ∈ rows.map (db.view channel), ∀ x ∈ page, b.stamp < x.stamp := by
  simp only [OlderThan, List.mem_map, exists_exists_and_eq_and, Database.view_stamp]

/-- The rows before the cursor are cut out of the whole timeline. -/
lemma servedRoots_filter (db : Database) (now : Millis) (c : ChannelRow) (before : Option Stamp) :
    servedRoots db now c before
      = (servedRoots db now c none).filter fun m => m.Before before := by
  rw [servedRoots, servedRoots, List.filter_filter]
  refine List.filter_congr fun m _ => ?_
  simp only [MessageRow.Before]
  grind

lemma threadRows_filter (db : Database) (c : ChannelRow) (root : Uuid) (before : Option Stamp) :
    threadRows db c root before
      = (threadRows db c root none).filter fun m => m.Before before := by
  rw [threadRows, threadRows, List.filter_filter]
  refine List.filter_congr fun m _ => ?_
  simp only [MessageRow.Before]
  grind

/-- A page cut out of the rows before the cursor has something older iff it does not start at the
oldest of these rows. -/
lemma olderThan_slice (db : Database) (channel : String) {rows : List MessageRow}
    (hkeyed : Keyed MessageRow.stamp rows) (before : Option Stamp) (i j : ℕ) :
    OlderThan rows (((chron ChatMessage.stamp
        ((rows.filter fun m => m.Before before).map (db.view channel))).drop i).take j)
      ↔ 0 < i ∧ i < (rows.filter fun m => m.Before before).length ∧ 0 < j := by
  set page := ((chron ChatMessage.stamp
    ((rows.filter fun m => m.Before before).map (db.view channel))).drop i).take j with hpage
  have hmap : Keyed ChatMessage.stamp
      ((rows.filter fun m => m.Before before).map (db.view channel)) := by
    rw [Keyed, List.map_map]
    exact hkeyed.filter _
  -- a row older than the page is before the cursor, as every message of the page is
  have hdown : OlderThan rows page ↔ OlderThan (rows.filter fun m => m.Before before) page := by
    refine ⟨?_, ?_⟩
    · rintro ⟨hne, m, hm, hold⟩
      obtain ⟨x, hx⟩ := List.exists_mem_of_ne_nil page hne
      obtain ⟨row, hrow, rfl⟩ := List.mem_map.mp
        (mem_chron.mp (List.mem_of_mem_drop (List.mem_of_mem_take hx)))
      have hrow' := of_decide_eq_true (List.mem_filter.mp hrow).2
      have hlt := hold _ hx
      exact ⟨hne, m, List.mem_filter.mpr ⟨hm, decide_eq_true
        fun s hs => lt_trans hlt (hrow' s hs)⟩, hold⟩
    · rintro ⟨hne, m, hm, hold⟩
      exact ⟨hne, m, List.mem_of_mem_filter hm, hold⟩
  rw [hdown, olderThan_map db channel]
  have hslice := older_slice_iff (chron_chron hmap) i j
  simpa only [mem_chron, length_chron, List.length_map] using hslice

/-! ### The flag -/

/-- When the flag is right. -/
def FlagHolds (db : Database) (now : Millis) (c : ChannelRow) (k : HotKeys) :
    PageRequest → Prop
  | .history before =>
      if k.Answers before then
        ∃ m ∈ servedRoots db now c none,
          ∀ x ∈ newest ChatMessage.stamp historyPageSize (k.loaded (before.map Cursor.cast)),
            m.stamp < x.stamp
      else
        match before with
        | none => (servedRoots db now c none).length ≤ historyPageSize ∨
            hotHistoryLimit < (servedRoots db now c none).length
        | some cursor =>
            (servedRoots db now c (some cursor.cast)).length ≠ historyPageSize + 1
  | .thread root before =>
      (threadRows db c root (before.map Cursor.cast)).length ≠ historyPageSize

lemma flagRight_iff {rows : List MessageRow} {event : ServerEvent} {page : List ChatMessage}
    {more : Bool} (hpage : event.page? = some (page, more)) :
    FlagRight rows event ↔ (more = true ↔ OlderThan rows page) := by
  refine ⟨?_, ?_⟩
  · rintro ⟨page', more', hpage', hflag⟩
    rw [hpage, Option.some.injEq, Prod.mk.injEq] at hpage'
    rw [hpage'.1, hpage'.2]
    exact hflag
  · intro hflag
    exact ⟨page, more, hpage, hflag⟩

section Flags

variable {db : Database} {channel : String} {c : ChannelRow} {now : Millis} {k : HotKeys}

/-- From the cache the flag is always set. -/
lemma flagRight_cache {before : Option Cursor} (hcache : k.Answers before) :
    FlagRight (servedRoots db now c none)
        (PageRequest.answer db now channel k (.history before)) ↔
      ∃ m ∈ servedRoots db now c none,
        ∀ x ∈ newest ChatMessage.stamp historyPageSize (k.loaded (before.map Cursor.cast)),
          m.stamp < x.stamp := by
  have hne : newest ChatMessage.stamp historyPageSize (k.loaded (before.map Cursor.cast)) ≠ [] := by
    intro hnil
    have hlen := congrArg List.length hnil
    have hsize : 0 < historyPageSize := by decide
    have hlimit : 0 < cacheLimit before := by
      cases before with
      | none => decide
      | some cursor => exact hsize
    have hle : cacheLimit before ≤ (k.loaded (before.map Cursor.cast)).length := hcache
    rw [length_newest, List.length_nil] at hlen
    omega
  rw [flagRight_iff (page?_answer_cache hcache), OlderThan]
  refine ⟨?_, ?_⟩
  · intro hflag
    exact (hflag.mp rfl).2
  · intro hold
    exact ⟨fun _ => ⟨hne, hold⟩, fun _ => rfl⟩

/-- Without a cursor the flag compares with three hundred, the page has fifty places. -/
lemma flagRight_join (hwf : db.WellFormed) (hc : db.liveChannel? channel = some c)
    (hcold : ¬ k.Answers none) :
    FlagRight (servedRoots db now c none)
        (PageRequest.answer db now channel k (.history none)) ↔
      (servedRoots db now c none).length ≤ historyPageSize ∨
        hotHistoryLimit < (servedRoots db now c none).length := by
  have hkeyed := servedMessages_keyed hwf now c none
  have hsort : sortMessages (newest ChatMessage.stamp (cacheLimit none + 1)
      (servedMessages db now c none)) = newest ChatMessage.stamp (cacheLimit none + 1)
      (servedMessages db now c none) := (newest_chron hkeyed _).chron_eq
  have hpage : cutPage none (newest ChatMessage.stamp (cacheLimit none + 1)
      (servedMessages db now c none))
      = ((chron ChatMessage.stamp (servedMessages db now c none)).drop
          ((servedRoots db now c none).length - historyPageSize)).take
            (servedRoots db now c none).length := by
    rw [cutPage_none, ← hsort, splitOffPage_sortMessages, newest_newest hkeyed (by decide),
      newest, servedMessages, List.length_map,
      List.take_of_length_le (by rw [List.length_drop, length_chron, List.length_map]; omega)]
  have hslice := olderThan_slice db c.name (servedRoots_keyed hwf now c none) none
    ((servedRoots db now c none).length - historyPageSize) (servedRoots db now c none).length
  rw [← servedRoots_filter, ← servedMessages] at hslice
  rw [flagRight_iff (page?_answer_database hwf hc hcold), Option.map_none, hpage, hslice,
    servedMessages, List.length_map, decide_eq_true_iff]
  have hcount : ∀ n : ℕ, ((300 < n) ↔ 0 < n - 50 ∧ n - 50 < n ∧ 0 < n) ↔ n ≤ 50 ∨ 300 < n := by
    intro n; omega
  exact hcount _

/-- With a cursor the flag compares with fifty, and the newest of fifty-one rows is cut off. -/
lemma flagRight_page (hwf : db.WellFormed) (hc : db.liveChannel? channel = some c)
    {cursor : Cursor} (hcold : ¬ k.Answers (some cursor)) :
    FlagRight (servedRoots db now c none)
        (PageRequest.answer db now channel k (.history (some cursor))) ↔
      (servedRoots db now c (some cursor.cast)).length ≠ historyPageSize + 1 := by
  have hslice := olderThan_slice db c.name (servedRoots_keyed hwf now c none) (some cursor.cast)
    ((servedRoots db now c (some cursor.cast)).length - (historyPageSize + 1)) historyPageSize
  rw [← servedRoots_filter] at hslice
  have hlimit : cacheLimit (some cursor) = historyPageSize := rfl
  rw [flagRight_iff (page?_answer_database hwf hc hcold), cutPage_some, Option.map_some, hlimit,
    servedMessages, newest, List.length_map, hslice, decide_eq_true_iff]
  have hcount : ∀ n : ℕ, ((50 < n) ↔ 0 < n - 51 ∧ n - 51 < n ∧ 0 < 50) ↔ n ≠ 51 := by
    intro n; omega
  exact hcount _

/-- In a thread the flag is set at fifty replies, of which none is older. -/
lemma flagRight_thread (hwf : db.WellFormed) (hc : db.liveChannel? channel = some c)
    (root : Uuid) (before : Option Cursor) :
    FlagRight (threadRows db c root none)
        (PageRequest.answer db now channel k (.thread root before)) ↔
      (threadRows db c root (before.map Cursor.cast)).length ≠ historyPageSize := by
  set rows := threadRows db c root (before.map Cursor.cast) with hrows
  have hrowskeyed : Keyed MessageRow.stamp rows := hwf.keyed.filter _
  have hpage : loadThread db channel root (before.map Cursor.cast) historyPageSize
      = ((chron ChatMessage.stamp (rows.map (db.view c.name))).drop
          (rows.length - historyPageSize)).take rows.length := by
    rw [loadThread, hc]
    simp only
    rw [← hrows, latestRows_eq hrowskeyed, ← newest_map (db.view_stamp c.name), newest,
      List.length_map,
      List.take_of_length_le (by rw [List.length_drop, length_chron, List.length_map]; omega)]
  have hkeyed : Keyed MessageRow.stamp (threadRows db c root none) := hwf.keyed.filter _
  have hslice := olderThan_slice db c.name hkeyed (before.map Cursor.cast)
    (rows.length - historyPageSize) rows.length
  rw [← threadRows_filter] at hslice
  have hevent : (PageRequest.answer db now channel k (.thread root before)).page?
      = some (loadThread db channel root (before.map Cursor.cast) historyPageSize,
          decide ((loadThread db channel root (before.map Cursor.cast) historyPageSize).length
            = historyPageSize)) := rfl
  rw [flagRight_iff hevent, hpage, hslice, decide_eq_true_iff, List.length_take, List.length_drop,
    length_chron, List.length_map]
  have hcount : ∀ n : ℕ,
      (min n (n - (n - 50)) = 50 ↔ 0 < n - 50 ∧ n - 50 < n ∧ 0 < n) ↔ n ≠ 50 := by
    intro n; omega
  exact hcount _

end Flags

/-- **The `has_more` flags.** For every content of the tables and of the two keys of the cache, the
flag of the answer says whether its timeline holds something older than the page, iff: the cache
answers and a served root is older than the fifty newest messages found in it; or the database
answers a join and the channel has at most fifty or more than three hundred served roots; or it
answers a cursor that does not leave exactly fifty-one of them; or it answers a thread request
that does not leave exactly fifty replies. -/
theorem hasMore_iff {db : Database} (hwf : db.WellFormed) {channel : String} {c : ChannelRow}
    (hc : db.liveChannel? channel = some c) (now : Millis) (k : HotKeys)
    (request : PageRequest) :
    FlagRight (timeline db now c request) (PageRequest.answer db now channel k request)
      ↔ FlagHolds db now c k request := by
  cases request with
  | history before =>
      simp only [timeline, FlagHolds]
      by_cases hcache : k.Answers before
      · rw [if_pos hcache]
        exact flagRight_cache hcache
      · rw [if_neg hcache]
        cases before with
        | none => exact flagRight_join hwf hc hcache
        | some cursor => exact flagRight_page hwf hc hcache
  | thread root before => exact flagRight_thread hwf hc root before

/-- Joining a channel of fifty messages: the flag is right. -/
theorem hasMore_join_fifty :
    FlagRight (servedRoots (withRoots 50) 100 general none)
      (PageRequest.answer (withRoots 50) 100 "general" .empty (.history none)) := by
  have hcount : FlagHolds (withRoots 50) 100 general .empty (.history none) := by
    simp only [FlagHolds]
    rw [if_neg (by decide)]
    exact Or.inl (by decide +kernel)
  exact (hasMore_iff ⟨by decide, by decide, by decide +kernel⟩ rfl 100 .empty
    (.history none)).mpr hcount

/-- With fifty-one messages both flags are wrong: a join says that there is nothing older than
its page, and the page before the cursor `(60, 0)` says that there is. -/
theorem hasMore_wrong_fifty_one :
    (withRoots 51).liveChannel? "general" = some general ∧
    ¬ FlagRight (servedRoots (withRoots 51) 100 general none)
      (PageRequest.answer (withRoots 51) 100 "general" .empty (.history none)) ∧
    ¬ FlagRight (servedRoots (withRoots 51) 100 general none)
      (PageRequest.answer (withRoots 51) 100 "general" .empty (.history (some (60, 0)))) := by
  have hwf : (withRoots 51).WellFormed := ⟨by decide, by decide, by decide +kernel⟩
  have hlive : (withRoots 51).liveChannel? "general" = some general := rfl
  refine ⟨hlive, fun hflag => ?_, fun hflag => ?_⟩
  · have hcount := (flagRight_join hwf hlive (by decide)).mp hflag
    exact absurd hcount (by decide +kernel)
  · have hcount := (flagRight_page hwf hlive (by decide)).mp hflag
    exact absurd hcount (by decide +kernel)

end Vussa
