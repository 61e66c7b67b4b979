import Vussa.Flow.Cache

/-!
Joining a channel while messages are on their way: the page of the joining socket, the frames its
receiver gets, and the message that is in neither.

`store_message` caches a message before it is published, and a socket subscribes before it reads the
cache, so a published message is in the cache of whoever subscribed too late for its frame. What can
take it away again is the `DEL` of a moderation refresh: until the message is back, the order must
not fill up with other messages, since a full order is served without a look at the database.

* `Cache.Hides`: a full order without the message, and without enough newer ones;
* `Careful`: no write fills the order while it lacks the message, and no `ZREM` whose ids were read
  before a `DEL` removes a recent entry;
* `page_of_careful`: **in such runs every socket that joins has the message on its page, gets its
  frame, or has a page of newer messages**;
* `staleHydration_hides`: a hydration with rows read before the message was stored.
-/

namespace Vussa.Flow

open Run SortedSet Timeline

/-! ### Reading the order -/

namespace Cache

lemma entries_nodup (c : Cache) : c.order.entries.Nodup := c.order.sorted.imp ne_of_lt

/-- The entries stand in their order. -/
lemma newest_entries (c : Cache) (k : ℕ) :
    newest id k c.order.entries = c.order.entries.drop (c.order.entries.length - k) := by
  have hchron : Chron id c.order.entries := c.order.sorted
  rw [newest, hchron.chron_eq]

/-- `load_hot_history` reads the newest entries. -/
lemma latestIds_eq (c : Cache) :
    c.latestIds = (newest id hotHistoryLimit c.order.entries).map member := by
  rw [latestIds, range_last _ (by decide), newest_entries]

/-- What `store_message` trims has three hundred newer entries. -/
lemma le_newer_of_mem_oldIds {c : Cache} {old : Uuid} (h : old ∈ c.oldIds) :
    ∃ e ∈ c.order.entries, member e = old ∧ hotHistoryLimit ≤ newer c.order.entries e := by
  rw [oldIds, range_butLast] at h
  obtain ⟨e, he, rfl⟩ := List.mem_map.mp h
  have hmem : e ∈ c.order.entries := List.mem_of_mem_take he
  refine ⟨e, hmem, rfl, ?_⟩
  by_contra hlt
  -- otherwise it would be among the entries behind the cut
  have hnew : e ∈ newest id hotHistoryLimit c.order.entries :=
    (mem_newest_id c.entries_nodup).mpr ⟨hmem, not_le.mp hlt⟩
  rw [newest_entries] at hnew
  exact List.disjoint_take_drop c.entries_nodup le_rfl he hnew

/-- The identifiers of the newest entries are distinct, and there are three hundred at most. -/
lemma latestIds_nodup (c : Cache) : c.latestIds.Nodup := by
  rw [latestIds_eq, newest_entries]
  exact c.order.nodup.sublist ((List.drop_sublist _ _).map member)

lemma length_latestIds (c : Cache) :
    c.latestIds.length = min hotHistoryLimit c.order.entries.length := by
  rw [latestIds_eq, List.length_map, length_newest]

/-! ### Hidden messages -/

/-- The order is full, and holds neither the message nor that many newer ones. -/
def Hides (m : ChatMessage) (c : Cache) : Prop :=
  hotHistoryLimit ≤ c.order.entries.length ∧ ¬ Covers hotHistoryLimit c.order.entries m.stamp

instance (m : ChatMessage) (c : Cache) : Decidable (c.Hides m) :=
  inferInstanceAs (Decidable (_ ∧ _))

lemma not_hides_of_covers {m : ChatMessage} {c : Cache}
    (h : Covers hotHistoryLimit c.order.entries m.stamp) : ¬ c.Hides m := fun hh => hh.2 h

lemma not_hides_of_length {m : ChatMessage} {c : Cache}
    (h : c.order.entries.length < hotHistoryLimit) : ¬ c.Hides m := fun hh => by
  have := hh.1
  omega

end Cache

/-- A `store_message` has written the message. -/
def Written (m : ChatMessage) (s : State) : Prop :=
  ∃ x ∈ s.cached, x.channel = m.channel ∧ x.stamp = m.stamp

instance (m : ChatMessage) (s : State) : Decidable (Written m s) :=
  inferInstanceAs (Decidable (∃ x ∈ s.cached, _))

/-- The message was written, and its channel's order holds neither it nor three hundred newer ones:
the key was deleted. -/
def Gone (m : ChatMessage) (s : State) : Prop :=
  Written m s ∧ ¬ Covers hotHistoryLimit (s.cache m.channel).order.entries m.stamp

instance (m : ChatMessage) (s : State) : Decidable (Gone m s) :=
  inferInstanceAs (Decidable (_ ∧ _))

/-- A write does not fill the order while the message is gone, unless it brings it back; and a
`ZREM` that a `DEL` of the order has overtaken since its `ZRANGE` removes none of the three hundred
newest entries. -/
def Task.Spares (m : ChatMessage) (s : State) : Task → Prop
  | .store j => j.message.channel = m.channel → Gone m s →
      ¬ ((s.cache m.channel).store (.fromMessage j.message j.owner)).Hides m
  | .hydrate j rows => j.channel = m.channel → Gone m s →
      ¬ ((s.cache m.channel).hydrate (rows.drop (rows.length - hotHistoryLimit))).Hides m
  | .trim j ids wipes => j.message.channel = m.channel → wipes ≠ (s.cache m.channel).wipes →
      ∀ e ∈ newest id hotHistoryLimit (s.cache m.channel).order.entries, member e ∉ ids
  | _ => True

instance (m : ChatMessage) (s : State) : ∀ t, Decidable (Task.Spares m s t)
  | .store j => inferInstanceAs (Decidable (j.message.channel = m.channel → _ → _))
  | .hydrate j _ => inferInstanceAs (Decidable (j.channel = m.channel → _ → _))
  | .trim j _ _ => inferInstanceAs (Decidable (j.message.channel = m.channel → _ → _))
  | .check _ _ | .look _ | .save _ _ | .recover _ _ | .reconcile _ _ | .answer _ _ | .note _ _
  | .change _ | .scan _ | .forget _ _ | .publish _ | .sent _ _ | .cut _ | .moderate _ _ _ _
  | .view _ | .announce _ | .delMessages _ | .delOrder _ | .subscribe _ | .range _ | .fetch _ _
  | .load _ | .joined _ _ | .ended => isTrue trivial

/-- The message is younger than the ninety days that `load_messages` goes back. -/
def Recent (m : ChatMessage) (now : Millis) : Prop :=
  ((now : ℕ) : ℤ) - historyWindow ≤ ((m.createdAt : ℕ) : ℤ)

instance (m : ChatMessage) (now : Millis) : Decidable (Recent m now) :=
  inferInstanceAs (Decidable ((_ : ℤ) ≤ _))

/-- A socket that reads the database finds something there: the message is recent, or others
are. -/
def Task.Finds (m : ChatMessage) (s : State) (e : Env) : Task → Prop
  | .load j => j.channel = m.channel →
      Recent m e.now ∨ loadMessages s.db e.now j.channel none (hotHistoryLimit + 1) ≠ []
  | _ => True

instance (m : ChatMessage) (s : State) (e : Env) : ∀ t, Decidable (Task.Finds m s e t)
  | .load j => inferInstanceAs (Decidable (j.channel = m.channel → _ ∨ _))
  | .check _ _ | .look _ | .save _ _ | .recover _ _ | .reconcile _ _ | .answer _ _ | .note _ _
  | .change _ | .store _ | .scan _ | .trim _ _ _ | .forget _ _ | .publish _ | .sent _ _ | .cut _
  | .moderate _ _ _ _ | .view _ | .announce _ | .delMessages _ | .delOrder _ | .subscribe _
  | .range _ | .fetch _ _ | .hydrate _ _ | .joined _ _ | .ended => isTrue trivial

/-- What keeps the message from being hidden, as a condition on the steps of a run. -/
def Careful (m : ChatMessage) (s : State) : Act → Prop
  | .run k e => ∀ task ∈ s.tasks[k]?, task.Spares m s ∧ task.Finds m s e
  | .lose k _ => ∀ task ∈ s.tasks[k]?, task.Spares m s
  | _ => True

instance (m : ChatMessage) (s : State) : ∀ a, Decidable (Careful m s a)
  | .run k _ => inferInstanceAs (Decidable (∀ task ∈ s.tasks[k]?, _))
  | .lose k _ => inferInstanceAs (Decidable (∀ task ∈ s.tasks[k]?, _))
  | .send _ | .change _ | .moderate _ _ _ _ | .join _ | .fail _ => isTrue trivial

/-! ### Tasks that look at the order -/

/-- The message was published before the socket subscribed. -/
def Missed (m : ChatMessage) (s : State) (j : Join) : Prop :=
  (m.channel, .message m) ∈ s.published.take j.since

/-- The page holds the message, or starts with a newer one. -/
def Shows (m : ChatMessage) (messages : List ChatMessage) : Prop :=
  (∃ x ∈ messages, x.id = m.id) ∨
    ∃ oldest, messages.head? = some oldest ∧ m.stamp < oldest.stamp

/-- The identifiers of three hundred entries: that of the message is among them, or all are those of
newer messages. -/
structure Reads (m : ChatMessage) (db : Database) (ids : List Uuid) : Prop where
  nodup : ids.Nodup
  length : ids.length ≤ hotHistoryLimit
  full : ids.length = hotHistoryLimit → m.id ∈ ids ∨
    ∀ x ∈ ids, ∃ e, Stamped db e ∧ member e = x ∧ m.stamp < e

/-- A `ZREM` whose identifiers were read when the order had been deleted `wipes` times: while no
further `DEL` overtakes it, what it removes has three hundred newer entries. -/
structure TrimsOld (db : Database) (c : Cache) (ids : List Uuid) (wipes : ℕ) : Prop where
  le : wipes ≤ c.wipes
  old : wipes = c.wipes → ∀ x ∈ ids, ∃ e, Stamped db e ∧ member e = x ∧
    hotHistoryLimit ≤ newer c.order.entries e

/-- What the tasks have found in the order, as far as the message is concerned. -/
def Task.Served (m : ChatMessage) (s : State) : Task → Prop
  | .trim j ids wipes => j.message.channel = m.channel →
      TrimsOld s.db (s.cache m.channel) ids wipes
  | .range j | .load j => j.since ≤ s.published.length
  | .fetch j ids => j.since ≤ s.published.length ∧
      (j.channel = m.channel → Missed m s j → Reads m s.db ids)
  | .hydrate j rows => j.since ≤ s.published.length ∧
      (j.channel = m.channel → Missed m s j → Shows m (page rows))
  | .joined j messages => j.since ≤ s.published.length ∧
      (j.channel = m.channel → Missed m s j → Shows m messages)
  | _ => True

/-- The invariant: a message that was written is not hidden, and the tasks know about it. -/
structure Shown (m : ChatMessage) (s : State) : Prop where
  grounded : Grounded s
  visible : Written m s → ¬ (s.cache m.channel).Hides m
  tasks : ∀ task ∈ s.tasks, task.Served m s

/-! ### The order over a step -/

/-- A `ZREM` that meets the condition keeps the three hundred newest entries. -/
lemma newest_mem_zrem {m : ChatMessage} {s : State} {j : Job} {ids : List Uuid} {wipes : ℕ}
    (hg : Grounded s) (hserved : (Task.trim j ids wipes).Served m s)
    (hspares : (Task.trim j ids wipes).Spares m s) (hchannel : j.message.channel = m.channel) :
    ∀ e ∈ newest id hotHistoryLimit (s.cache m.channel).order.entries,
      e ∈ ((s.cache m.channel).zrem ids).order.entries := by
  intro e he
  have hnodup := (s.cache m.channel).entries_nodup
  obtain ⟨hmem, hlt⟩ := (mem_newest_id hnodup).mp he
  refine mem_rem.mpr ⟨hmem, fun hin => ?_⟩
  by_cases hwipes : wipes = (s.cache m.channel).wipes
  · obtain ⟨e', hstamped, hmember, hle⟩ := (hserved hchannel).old hwipes _ hin
    obtain rfl := hg.schema.stamp_inj hstamped ((hg.caches m.channel).order e hmem) hmember
    omega
  · exact hspares hchannel hwipes e he hin

/-- A step writes a message, or it was written before. -/
lemma exec_cached (U : Unicode) (e : Env) {s : State} {task : Task} {x : ChatMessage}
    (hx : x ∈ (s.exec U e task).1.cached) :
    x ∈ s.cached ∨ ∃ j, task = .store j ∧ j.message = x := by
  revert hx
  fun_cases State.exec U e s task
  all_goals intro hx
  all_goals first
    | exact .inl hx
    | exact (List.mem_append.mp hx).imp_right fun h => ⟨_, rfl, (List.mem_singleton.mp h).symm⟩

/-- What a step publishes comes after what was published before. -/
lemma exec_publishes (U : Unicode) (e : Env) (s : State) (task : Task) :
    ∃ new, (s.exec U e task).1.published = s.published ++ new := by
  fun_cases State.exec U e s task
  all_goals first
    | exact ⟨[], (List.append_nil _).symm⟩
    | exact ⟨_, rfl⟩

/-- A written message stays visible over a step that meets the condition. -/
lemma visible_exec (U : Unicode) (e : Env) {m : ChatMessage} {s : State} (h : Shown m s)
    {task : Task} (hground : task.Grounded s) (hserved : task.Served m s)
    (hspares : task.Spares m s) (hwritten : Written m (s.exec U e task).1) :
    ¬ ((s.exec U e task).1.cache m.channel).Hides m := by
  obtain ⟨x, hx, hchannel, hstamp⟩ := hwritten
  have hgc := h.grounded.caches m.channel
  have hnodup := (s.cache m.channel).entries_nodup
  obtain hx | ⟨j, rfl, rfl⟩ := exec_cached U e hx
  · have hold : Written m s := ⟨x, hx, hchannel, hstamp⟩
    have hvis := h.visible hold
    -- a write that finds the message covered, in either of the two ways, leaves it so
    have hgrow : ∀ c : Cache, (∀ e ∈ (s.cache m.channel).order.entries, e ∈ c.order.entries) →
        (Gone m s → ¬ c.Hides m) → ¬ c.Hides m := by
      intro c hsub hgone
      by_cases hcov : Covers hotHistoryLimit (s.cache m.channel).order.entries m.stamp
      · exact Cache.not_hides_of_covers (hcov.mono hnodup hsub)
      · exact hgone ⟨hold, hcov⟩
    have hstep := exec_cache U e s task m.channel
    generalize (s.exec U e task).1.cache m.channel = c at hstep
    cases hstep with
    | same => exact hvis
    | store hch =>
        have hsub := hgc.subset_store h.grounded.schema (RowFor.stamped hground)
        exact hgrow _ (hsub _) (hspares hch)
    | hydrate hch =>
        exact hgrow _ (hgc.subset_hydrate h.grounded.schema (hground.hydrated _)) (hspares hch)
    | @trim j ids wipes hch =>
        have hkeep := newest_mem_zrem h.grounded hserved hspares hch
        by_cases hcov : Covers hotHistoryLimit (s.cache m.channel).order.entries m.stamp
        · exact Cache.not_hides_of_covers (hcov.trim hnodup hkeep)
        · have hlen : (s.cache m.channel).order.entries.length < hotHistoryLimit :=
            not_le.mp fun hle => hvis ⟨hle, hcov⟩
          exact Cache.not_hides_of_length (lt_of_le_of_lt (List.length_filter_le _ _) hlen)
    | forget _ => exact hvis
    | delMessages => exact hvis
    | delOrder => exact Cache.not_hides_of_length (show 0 < hotHistoryLimit by decide)
  · -- the message is written now
    rw [State.exec, ← hchannel]
    refine Cache.not_hides_of_covers (.inl ?_)
    simp only [State.setCache, Function.update_self]
    exact mem_add.mpr (.inl hstamp.symm)

/-- So does what a pending `ZREM` knows about its identifiers. -/
lemma trimsOld_exec (U : Unicode) (e : Env) {m : ChatMessage} {s : State} (hg : Grounded s)
    {task : Task} (hground : task.Grounded s) (hserved : task.Served m s)
    (hspares : task.Spares m s) {ids : List Uuid} {wipes : ℕ}
    (h : TrimsOld s.db (s.cache m.channel) ids wipes) :
    TrimsOld (s.exec U e task).1.db ((s.exec U e task).1.cache m.channel) ids wipes := by
  have hgc := hg.caches m.channel
  have hnodup := (s.cache m.channel).entries_nodup
  have hgrows := (exec_db U e s task).grows
  have hold : ∀ c : Cache, c.wipes = (s.cache m.channel).wipes →
      (∀ e', hotHistoryLimit ≤ newer (s.cache m.channel).order.entries e' →
        hotHistoryLimit ≤ newer c.order.entries e') →
      TrimsOld (s.exec U e task).1.db c ids wipes := by
    intro c hwipes hnewer
    refine ⟨hwipes ▸ h.le, fun heq x hx => ?_⟩
    obtain ⟨e', hstamped, hmember, hle⟩ := h.old (heq.trans hwipes) x hx
    exact ⟨e', hstamped.grows hgrows, hmember, hnewer e' hle⟩
  have hstep := exec_cache U e s task m.channel
  generalize (s.exec U e task).1.cache m.channel = c at hstep
  cases hstep with
  | same => exact hold _ rfl fun _ hle => hle
  | store _ =>
      have hsub := hgc.subset_store hg.schema (RowFor.stamped hground)
      exact hold _ rfl fun e' hle => le_trans hle (newer_le_of_subset hnodup (hsub _) e')
  | hydrate _ =>
      exact hold _ (Cache.hydrate_wipes _ _) fun e' hle => le_trans hle
        (newer_le_of_subset hnodup (hgc.subset_hydrate hg.schema (hground.hydrated _)) e')
  | trim hch =>
      exact hold _ rfl fun e' hle =>
        le_newer_of_newest hle hnodup (newest_mem_zrem hg hserved hspares hch)
  | forget _ => exact hold _ rfl fun _ hle => hle
  | delMessages => exact hold _ rfl fun _ hle => hle
  | delOrder =>
      refine ⟨le_trans h.le (Nat.le_succ _), fun heq => ?_⟩
      have hle := h.le
      rw [heq] at hle
      exact absurd hle (Nat.not_succ_le_self _)

/-! ### Pages -/

lemma page_eq (l : List ChatMessage) : page l = newest ChatMessage.stamp historyPageSize l :=
  splitOffPage_sortMessages l

/-- A page of a list with the message, or of a list of newer messages. -/
lemma shows_page {m : ChatMessage} {l : List ChatMessage} (hkeyed : Keyed ChatMessage.stamp l)
    (h : (∃ x ∈ l, x.id = m.id ∧ x.stamp = m.stamp) ∨ (l ≠ [] ∧ ∀ x ∈ l, m.stamp < x.stamp)) :
    Shows m (page l) := by
  rw [page_eq]
  have hne : l ≠ [] := by
    obtain ⟨x, hx, -⟩ | ⟨hne, -⟩ := h
    · exact List.ne_nil_of_mem hx
    · exact hne
  have hpos : 0 < (newest ChatMessage.stamp historyPageSize l).length := by
    rw [length_newest]
    exact lt_min (by decide) (List.length_pos_of_ne_nil hne)
  obtain ⟨oldest, rest, hpage⟩ := List.exists_cons_of_ne_nil (List.ne_nil_of_length_pos hpos)
  have holdest : oldest ∈ newest ChatMessage.stamp historyPageSize l :=
    hpage ▸ List.mem_cons_self
  obtain ⟨x, hx, hid, hstamp⟩ | ⟨-, hnewer⟩ := h
  · by_cases hmem : x ∈ newest ChatMessage.stamp historyPageSize l
    · exact .inl ⟨x, hmem, hid⟩
    · have hlt := lt_of_not_mem_newest hkeyed hx hmem holdest
      rw [hstamp] at hlt
      exact .inr ⟨oldest, by rw [hpage]; rfl, hlt⟩
  · exact .inr ⟨oldest, by rw [hpage]; rfl, hnewer oldest (newest_subset holdest)⟩

/-- A page from the database. -/
lemma shows_load {db : Database} (hs : Schema db) {m : ChatMessage} (hrow : RowFor db m)
    (hroot : m.rootMessageId = none) {now : Millis}
    (hfinds : Recent m now ∨ loadMessages db now m.channel none (hotHistoryLimit + 1) ≠ []) :
    Shows m (page (loadMessages db now m.channel none (hotHistoryLimit + 1))) := by
  obtain ⟨r, hr, hstamp, hrroot, c, hc, hchannel⟩ := hrow
  have hload := loadMessages_eq hs.wellFormed hc now none (hotHistoryLimit + 1)
  have hkeyed := servedMessages_keyed hs.wellFormed now c none
  rw [← servedMessages] at hload
  have hpage : page (loadMessages db now m.channel none (hotHistoryLimit + 1))
      = page (servedMessages db now c none) := by
    rw [hload, page_eq, page_eq, newest_newest hkeyed (by decide)]
  rw [hpage]
  refine shows_page hkeyed ?_
  by_cases hrecent : Recent m now
  · refine .inl ⟨db.view c.name r, List.mem_map_of_mem (List.mem_filter.mpr ⟨hr, ?_⟩), ?_, hstamp⟩
    · have hcreated : ((r.createdAt : ℕ) : ℤ) = ((m.createdAt : ℕ) : ℤ) := congrArg score hstamp
      refine decide_eq_true ⟨hchannel, ?_, hrroot.trans hroot, fun s hs => ?_⟩
      · rw [hcreated]
        exact hrecent
      · cases hs
    · exact congrArg member hstamp
  · -- the message is too old to be served, and all that are served are newer
    refine .inr ⟨?_, fun x hx => ?_⟩
    · intro hnil
      rw [hload, hnil] at hfinds
      exact hfinds.elim hrecent fun hne => hne rfl
    · obtain ⟨r', hr', rfl⟩ := List.mem_map.mp hx
      have hserved := (of_decide_eq_true (List.mem_filter.mp hr').2).2.1
      refine lt_of_score_lt (lt_of_lt_of_le (not_le.mp hrecent) ?_)
      exact hserved

/-- What the newest identifiers say of a message that is not hidden. -/
lemma reads_latestIds {db : Database} {m : ChatMessage} {c : Cache} (hc : c.Grounded db)
    (hvis : ¬ c.Hides m) : Reads m db c.latestIds := by
  have hlen := c.length_latestIds
  refine ⟨c.latestIds_nodup, by omega, fun hfull => ?_⟩
  have hcov : Covers hotHistoryLimit c.order.entries m.stamp := by
    by_contra hcov
    exact hvis ⟨by omega, hcov⟩
  rw [c.latestIds_eq]
  obtain hmem | hnewer := hcov.newest c.entries_nodup
  · have hid := List.mem_map_of_mem (f := member) hmem
    exact .inl hid
  · refine .inr fun x hx => ?_
    obtain ⟨e, he, rfl⟩ := List.mem_map.mp hx
    exact ⟨e, hc.order e (newest_subset he), rfl, hnewer e he⟩

/-- The payloads of distinct identifiers. -/
lemma fetch_keyed {db : Database} {c : Cache} (hc : c.Grounded db) {ids : List Uuid}
    (hids : ids.Nodup) : Keyed ChatMessage.stamp (c.fetch ids) := by
  have hsub : List.Sublist ((c.fetch ids).map ChatMessage.id) ids := by
    clear hids
    induction ids with
    | nil => exact List.Sublist.slnil
    | cons x ids ih =>
        cases hx : c.messages x with
        | none =>
            have hskip : c.fetch (x :: ids) = c.fetch ids := by
              rw [Cache.fetch, List.filterMap_cons_none hx, Cache.fetch]
            rw [hskip]
            exact ih.cons x
        | some r =>
            have htake : c.fetch (x :: ids) = r.intoMessage :: c.fetch ids := by
              rw [Cache.fetch, List.filterMap_cons_some hx, List.map_cons, Cache.fetch]
            rw [htake, List.map_cons, show r.intoMessage.id = x from (hc.payload x r hx).1]
            exact ih.cons_cons x
  have hid : ((c.fetch ids).map ChatMessage.stamp).map member
      = (c.fetch ids).map ChatMessage.id := by
    rw [List.map_map]
    rfl
  exact List.Nodup.of_map member (hid ▸ hids.sublist hsub)

/-- A page from the cache. -/
lemma shows_fetch {db : Database} (hs : Schema db) {m : ChatMessage} (hm : Stamped db m.stamp)
    {c : Cache} (hc : c.Grounded db) {ids : List Uuid} (hreads : Reads m db ids)
    (hlen : hotHistoryLimit ≤ (c.fetch ids).length) : Shows m (page (c.fetch ids)) := by
  have hfetched : (c.fetch ids).length = (ids.filterMap c.messages).length := List.length_map _
  have hle := List.length_filterMap_le c.messages ids
  have hmax := hreads.length
  have hall : ∀ x ∈ ids, (c.messages x).isSome :=
    List.filterMap_length_eq_length.mp (by omega)
  -- an identifier that was read has a payload with its stamp
  have hpayload : ∀ x ∈ c.fetch ids, ∃ y ∈ ids, x.id = y ∧ Stamped db x.stamp := by
    intro x hx
    obtain ⟨r, hr, rfl⟩ := List.mem_map.mp hx
    obtain ⟨y, hy, hget⟩ := List.mem_filterMap.mp hr
    exact ⟨y, hy, (hc.payload y r hget).1, (hc.payload y r hget).2⟩
  refine shows_page (fetch_keyed hc hreads.nodup) ?_
  obtain hmem | hnewer := hreads.full (by omega)
  · obtain ⟨r, hr⟩ := Option.isSome_iff_exists.mp (hall _ hmem)
    obtain ⟨hid, hstamped⟩ := hc.payload _ r hr
    refine .inl ⟨r.intoMessage, ?_, hid, hs.stamp_inj hstamped hm hid⟩
    exact List.mem_map_of_mem (List.mem_filterMap.mpr ⟨_, hmem, hr⟩)
  · refine .inr ⟨?_, fun x hx => ?_⟩
    · refine List.ne_nil_of_length_pos (lt_of_lt_of_le ?_ hlen)
      decide
    · obtain ⟨y, hy, rfl, hstamped⟩ := hpayload x hx
      obtain ⟨e, he, hmember, hlt⟩ := hnewer _ hy
      rwa [hs.stamp_inj he hstamped hmember] at hlt

/-! ### Steps -/

lemma Reads.grows {m : ChatMessage} {db db' : Database} (hg : Grows db db') {ids : List Uuid}
    (h : Reads m db ids) : Reads m db' ids := by
  refine ⟨h.nodup, h.length, fun hfull => (h.full hfull).imp_right fun hnewer x hx => ?_⟩
  obtain ⟨e, he, hmember, hlt⟩ := hnewer x hx
  exact ⟨e, he.grows hg, hmember, hlt⟩

/-- What was published before a subscription stays that. -/
lemma missed_exec (U : Unicode) (e : Env) (m : ChatMessage) {s : State} (task : Task) {j : Join}
    (hsince : j.since ≤ s.published.length) :
    j.since ≤ (s.exec U e task).1.published.length ∧
      (Missed m (s.exec U e task).1 j ↔ Missed m s j) := by
  obtain ⟨new, hnew⟩ := exec_publishes U e s task
  rw [Missed, Missed, hnew, List.take_append_of_le_length hsince, List.length_append]
  exact ⟨by omega, Iff.rfl⟩

/-- What a socket missed has a row and was written. -/
lemma Missed.written {m : ChatMessage} {s : State} {j : Join} (hg : Grounded s)
    (h : Missed m s j) : Written m s ∧ RowFor s.db m := by
  obtain ⟨-, hcached, hrow⟩ := hg.published _ _ (List.mem_of_mem_take h)
  exact ⟨⟨m, hcached, rfl, rfl⟩, hrow⟩

/-- The tasks that do not move. -/
lemma served_other (U : Unicode) (e : Env) {m : ChatMessage} {s : State} (hg : Grounded s)
    {task other : Task} (hground : task.Grounded s) (hserved : task.Served m s)
    (hspares : task.Spares m s) (h : other.Served m s) :
    other.Served m (s.exec U e task).1 := by
  have hgrows := (exec_db U e s task).grows
  cases other with
  | trim j ids wipes => exact fun hch => trimsOld_exec U e hg hground hserved hspares (h hch)
  | range j | load j => exact (missed_exec U e m task h).1
  | fetch j ids =>
      obtain ⟨hsince, hmissed⟩ := missed_exec U e m task h.1
      exact ⟨hsince, fun hch hm => (h.2 hch (hmissed.mp hm)).grows hgrows⟩
  | hydrate j _ | joined j _ =>
      obtain ⟨hsince, hmissed⟩ := missed_exec U e m task h.1
      exact ⟨hsince, fun hch hm => h.2 hch (hmissed.mp hm)⟩
  | _ => trivial

/-- The task that moves. -/
lemma exec_served (U : Unicode) (e : Env) {m : ChatMessage} (hroot : m.rootMessageId = none)
    {s : State} (h : Shown m s) {task : Task} (hserved : task.Served m s)
    (hfinds : task.Finds m s e) : (s.exec U e task).2.Served m (s.exec U e task).1 := by
  have hschema := h.grounded.schema
  have hcache := h.grounded.caches m.channel
  cases task with
  | scan j =>
      simp only [State.exec]
      split_ifs
      · trivial
      · intro hch
        rw [hch]
        refine ⟨le_rfl, fun _ x hx => ?_⟩
        obtain ⟨e', he', hmember, hle⟩ := Cache.le_newer_of_mem_oldIds hx
        exact ⟨e', hcache.order e' he', hmember, hle⟩
  | subscribe channel => exact le_rfl
  | range j =>
      simp only [State.exec]
      split_ifs
      · exact hserved
      · refine ⟨hserved, fun hch hmissed => ?_⟩
        rw [hch]
        exact reads_latestIds hcache (h.visible (hmissed.written h.grounded).1)
  | fetch j ids =>
      simp only [State.exec]
      split_ifs with hshort
      · exact hserved.1
      · refine ⟨hserved.1, fun hch hmissed => ?_⟩
        rw [hch] at hshort ⊢
        exact shows_fetch hschema (hmissed.written h.grounded).2.stamped hcache
          (hserved.2 hch hmissed) (not_lt.mp hshort)
  | load j =>
      refine ⟨hserved, fun hch hmissed => ?_⟩
      have hfound := hfinds hch
      rw [hch] at hfound ⊢
      exact shows_load hschema (hmissed.written h.grounded).2 hroot hfound
  | hydrate j rows => exact hserved
  | joined j messages => exact hserved
  | check p rest =>
      cases rest with
      | nil => trivial
      | cons c rest =>
          rw [State.exec]
          split <;> trivial
  | look _ | save _ _ | recover _ _ | change _ | publish _ | moderate _ _ _ _ | view _ =>
      rw [State.exec]
      split <;> trivial
  | _ => trivial

lemma Task.Served.fail {m : ChatMessage} {s : State} {task : Task} (h : task.Served m s) :
    task.fail.Served m s := by
  cases task with
  | joined j messages => exact h
  | _ => trivial

lemma Task.Served.lost {m : ChatMessage} {s : State} {task : Task} (h : task.Served m s) :
    task.lost.Served m s := by
  cases task with
  | joined j messages => exact h
  | _ => trivial

/-- A step that meets the condition keeps the invariant. -/
lemma Shown.step (U : Unicode) {m : ChatMessage} (hroot : m.rootMessageId = none) {s : State}
    (h : Shown m s) (a : Act) (hc : Careful m s a) : Shown m (s.step U a) := by
  have hground := h.grounded.tasks
  refine ⟨h.grounded.step U a, ?_, ?_⟩
  · obtain ⟨tasks, heq⟩ | ⟨k, e, task, tasks, hmove, htask, heq⟩ := step_cases U s a
    · rw [heq]
      exact h.visible
    · have hmem := List.mem_of_getElem? htask
      have hspares : task.Spares m s := by
        obtain rfl | rfl := hmove
        · exact (hc task htask).1
        · exact hc task htask
      rw [heq]
      exact visible_exec U e h (hground task hmem) (h.tasks task hmem) hspares
  · refine forall_tasks_step (P := fun s task => task.Served m s) ?_ h.tasks ?_ ?_
      (fun _ ht => ht.fail) ?_
    · intro s tasks t ht
      cases t <;> exact ht
    · exact ⟨fun _ _ => trivial, fun _ => trivial, fun _ _ _ _ => trivial, fun _ => trivial⟩
    · rintro k e t rfl htask
      have hmem := List.mem_of_getElem? htask
      obtain ⟨hspares, hfinds⟩ := hc t htask
      have hserved := h.tasks t hmem
      exact ⟨exec_served U e hroot h hserved hfinds, fun t' ht' =>
        served_other U e h.grounded (hground t hmem) hserved hspares (h.tasks t' ht')⟩
    · rintro k e t rfl htask
      have hmem := List.mem_of_getElem? htask
      have hother := fun t' ht' => served_other U e h.grounded (hground t hmem) (h.tasks t hmem)
        (hc t htask) (h.tasks t' ht')
      exact ⟨(hother t hmem).lost, hother⟩

/-- Nothing is lost on the way into the channel: in a run that is careful about a root message, a
socket that has joined the message's channel has the message on its page, or its receiver gets the
message, or the oldest message of the page is newer. -/
theorem page_of_careful (U : Unicode) {s : State} (hground : Grounded s) (htasks : s.tasks = [])
    (hcached : s.cached = []) {m : ChatMessage} (hroot : m.rootMessageId = none) {as : List Act}
    (h : Along (State.step U) (Careful m) s as)
    (hpublished : (m.channel, .message m) ∈ (final (State.step U) s as).published)
    {j : Join} {messages : List ChatMessage}
    (hjoined : .joined j messages ∈ (final (State.step U) s as).tasks)
    (hchannel : j.channel = m.channel) :
    (∃ x ∈ messages, x.id = m.id) ∨
      (m.channel, .message m) ∈ (final (State.step U) s as).published.drop j.since ∨
      ∃ oldest, messages.head? = some oldest ∧ m.stamp < oldest.stamp := by
  have hstart : Shown m s := by
    refine ⟨hground, fun hwritten => ?_, by simp [htasks]⟩
    obtain ⟨x, hx, -⟩ := hwritten
    rw [hcached] at hx
    exact absurd hx List.not_mem_nil
  have hshown := Along.invariant (I := Shown m) (fun _ a hs hc => hs.step U hroot a hc) hstart h
  rw [← List.take_append_drop j.since (final (State.step U) s as).published,
    List.mem_append] at hpublished
  obtain hmissed | hframe := hpublished
  · obtain hmem | holder := (hshown.tasks _ hjoined).2 hchannel hmissed
    · exact .inl hmem
    · exact .inr (.inr holder)
  · exact .inr (.inl hframe)

/-! ### A careful run -/

lemma grounded_start {db : Database} (hs : Schema db) : Grounded { db := db } := by
  refine ⟨hs, fun _ => ⟨fun e he => absurd he List.not_mem_nil, fun _ _ hr => nomatch hr⟩, ?_, ?_⟩
  · exact fun t ht => absurd ht List.not_mem_nil
  · exact fun _ _ hx => absurd hx List.not_mem_nil

/-- A message is sent, and a socket joins. -/
def sendThenJoin : List Act :=
  .send (greeting "c") :: runs 12 0 10 21 ++ .join "main" :: runs 5 1 11 0

theorem page_sendThenJoin :
    Along (State.step .ascii) (Careful greeted) quietHall sendThenJoin ∧
      ((∃ x ∈ [greeted], x.id = greeted.id) ∨
        ("main", .message greeted)
          ∈ (final (State.step .ascii) quietHall sendThenJoin).published.drop 1 ∨
        ∃ oldest, [greeted].head? = some oldest ∧ greeted.stamp < oldest.stamp) := by
  have hcareful : Along (State.step .ascii) (Careful greeted) quietHall sendThenJoin := by
    decide +kernel
  have hpublished : ("main", .message greeted)
      ∈ (final (State.step .ascii) quietHall sendThenJoin).published := by decide +kernel
  have hjoined : Task.joined { channel := "main", since := 1 } [greeted]
      ∈ (final (State.step .ascii) quietHall sendThenJoin).tasks := by decide +kernel
  exact ⟨hcareful, page_of_careful .ascii (grounded_start schema_hall) rfl rfl rfl hcareful
    hpublished hjoined rfl⟩

/-! ### A stale hydration -/

namespace Cache

lemma hydrate_messages_of_ne (c : Cache) {xs : List ChatMessage} {id : Uuid}
    (h : ∀ x ∈ xs, x.id ≠ id) : (c.hydrate xs).messages id = c.messages id := by
  obtain hsame | ⟨x, hx, hid, -⟩ := c.hydrate_messages_cases xs id
  · exact hsame
  · exact absurd hid (h x hx)

/-- Every message of a hydration has its payload. -/
lemma hydrate_messages (c : Cache) {xs : List ChatMessage} (hids : (xs.map ChatMessage.id).Nodup)
    {x : ChatMessage} (hx : x ∈ xs) :
    (c.hydrate xs).messages x.id = some (.fromMessage x Uuid.nil) := by
  induction xs generalizing c with
  | nil => exact absurd hx List.not_mem_nil
  | cons y xs ih =>
      obtain ⟨hy, hids⟩ := List.nodup_cons.mp hids
      obtain rfl | hx := List.mem_cons.mp hx
      · -- the messages behind it have other identifiers
        have hother : ∀ z ∈ xs, z.id ≠ x.id := fun z hz heq =>
          hy (heq ▸ List.mem_map_of_mem hz)
        calc ((c.store (.fromMessage x Uuid.nil)).hydrate xs).messages x.id
            = (c.store (.fromMessage x Uuid.nil)).messages x.id := hydrate_messages_of_ne _ hother
          _ = some (.fromMessage x Uuid.nil) := Function.update_self ..
      · exact ih _ hids hx

/-- A hydrated order that was empty is read back in full. -/
lemma fetch_hydrate {db : Database} {c : Cache} (hc : c.Grounded db) (hs : Schema db)
    (hempty : c.order.entries = []) {xs : List ChatMessage}
    (hxs : ∀ x ∈ xs, Stamped db x.stamp) (hchron : Chron ChatMessage.stamp xs)
    (hlen : xs.length = hotHistoryLimit) :
    (c.hydrate xs).latestIds = xs.map ChatMessage.id ∧
      (c.hydrate xs).fetch (c.hydrate xs).latestIds = xs := by
  have hentries : (c.hydrate xs).order.entries = xs.map ChatMessage.stamp := by
    have hsorted : Chron id (c.hydrate xs).order.entries := (c.hydrate xs).order.sorted
    have hstamps : Chron id (xs.map ChatMessage.stamp) := List.pairwise_map.mpr hchron
    refine hsorted.ext hstamps fun e => ?_
    rw [hc.mem_hydrate hs hxs, hempty, List.mem_map]
    exact or_iff_left List.not_mem_nil
  have hlatest : (c.hydrate xs).latestIds = xs.map ChatMessage.id := by
    rw [latestIds_eq, newest_entries, hentries, List.length_map, hlen, Nat.sub_self,
      List.drop_zero, List.map_map]
    rfl
  have hids : (xs.map ChatMessage.id).Nodup := hlatest ▸ (c.hydrate xs).latestIds_nodup
  refine ⟨hlatest, ?_⟩
  have hpayloads : (xs.map ChatMessage.id).filterMap (c.hydrate xs).messages
      = xs.map fun x => StoredMessage.fromMessage x Uuid.nil := by
    rw [List.filterMap_map, ← List.filterMap_eq_map]
    exact List.filterMap_congr fun x hx => hydrate_messages c hids hx
  rw [hlatest, fetch, hpayloads, List.map_map]
  exact List.map_id' xs

end Cache

/-- A socket that joins after such a hydration gets a page of what was hydrated. -/
lemma joins_hydrated (U : Unicode) (e : Env) {s : State} (hground : Grounded s) {j : Join}
    {rows : List ChatMessage} {t t' : Task} (htasks : s.tasks = [.hydrate j rows, t, t'])
    (hempty : (s.cache j.channel).order.entries = []) (hchron : Chron ChatMessage.stamp rows)
    (hlen : rows.length = hotHistoryLimit) :
    (final (State.step U) s [.run 0 e, .join j.channel, .run 3 e, .run 3 e, .run 3 e]).tasks
        = [.joined j (page rows), t, t',
            .joined { channel := j.channel, since := s.published.length } (page rows)] ∧
      (final (State.step U) s
        [.run 0 e, .join j.channel, .run 3 e, .run 3 e, .run 3 e]).published = s.published := by
  have hrows : ∀ x ∈ rows, Stamped s.db x.stamp := by
    have hmem : Task.hydrate j rows ∈ s.tasks := htasks ▸ List.mem_cons_self
    exact fun x hx => (hground.tasks _ hmem x hx).2.stamped
  obtain ⟨hlatest, hfetch⟩ := Cache.fetch_hydrate (hground.caches j.channel) hground.schema
    hempty hrows hchron hlen
  have hne : rows.map ChatMessage.id ≠ [] := by
    refine List.ne_nil_of_length_pos ?_
    rw [List.length_map, hlen]
    decide
  have hfull : ¬ rows.length < hotHistoryLimit := not_lt.mpr hlen.ge
  have hdrop : rows.drop (rows.length - hotHistoryLimit) = rows := by
    rw [hlen, Nat.sub_self, List.drop_zero]
  rw [hlatest] at hfetch
  simp only [final, List.foldl_cons, List.foldl_nil, State.step, State.spawn, State.setTask,
    State.setCache, State.exec, htasks, hdrop, hlatest, hfetch, hne, hfull, if_false,
    Function.update_self, List.getElem?_cons_zero, List.getElem?_cons_succ, List.set_cons_zero,
    List.set_cons_succ, List.cons_append, List.nil_append]
  exact ⟨trivial, trivial⟩

/-- The place of the task that a move is about. -/
def Act.task? : Act → Option ℕ
  | .run k _ | .fail k | .lose k _ => some k
  | .send _ | .change _ | .moderate _ _ _ _ | .join _ => none

/-- A task waits while others move. -/
lemma tasks_step_of_ne (U : Unicode) {s : State} {k : ℕ} {t : Task} (h : s.tasks[k]? = some t)
    {a : Act} (ha : a.task? ≠ some k) : (s.step U a).tasks[k]? = some t := by
  have hset : ∀ {s' : State} {k' : ℕ} (t' : Task), s'.tasks = s.tasks → k' ≠ k →
      (s'.setTask k' t').tasks[k]? = some t := by
    intro s' k' t' htasks hne
    rw [State.setTask, htasks, List.getElem?_set_ne hne, h]
  cases a with
  | send _ | change _ | moderate _ _ _ _ | join _ =>
      exact (List.getElem?_append_left (List.getElem?_eq_some_iff.mp h).1).trans h
  | run k' e | lose k' e =>
      have hne : k' ≠ k := fun heq => ha (congrArg some heq)
      rw [State.step]
      split
      · exact hset _ (exec_tasks U e s _) hne
      · exact h
  | fail k' =>
      have hne : k' ≠ k := fun heq => ha (congrArg some heq)
      rw [State.step]
      split
      · exact hset _ rfl hne
      · exact h

lemma tasks_final_of_ne (U : Unicode) {s : State} {k : ℕ} {t : Task} (h : s.tasks[k]? = some t)
    {as : List Act} (has : ∀ a ∈ as, a.task? ≠ some k) :
    (final (State.step U) s as).tasks[k]? = some t := by
  induction as generalizing s with
  | nil => exact h
  | cons a as ih =>
      exact ih (tasks_step_of_ne U h (has a List.mem_cons_self))
        fun b hb => has b (List.mem_cons_of_mem _ hb)

/-- One of three hundred messages of the instant 1. -/
def oldRow (i : ℕ) : MessageRow :=
  { id := Fin.ofNat _ (400 - i), channelId := 7, username := "ada", text := "hello",
    createdAt := 1, ownerSession := 7 }

/-- The channel with these messages. -/
def crowdedHall : Database := { hall with messages := (List.range 300).map oldRow }

lemma schema_crowdedHall : Schema crowdedHall := by
  have hclient : ∀ m ∈ crowdedHall.messages, m.clientId = none := by
    intro m hm
    obtain ⟨i, -, rfl⟩ := List.mem_map.mp hm
    rfl
  have hnodup : (crowdedHall.messages.map MessageRow.id).Nodup := by
    rw [crowdedHall, List.map_map]
    refine List.nodup_range.map_on fun i hi k hk heq => ?_
    have hval : (400 - i) % 2 ^ 128 = (400 - k) % 2 ^ 128 := congrArg Fin.val heq
    rw [List.mem_range] at hi hk
    omega
  refine ⟨⟨by decide, by decide, hnodup⟩, fun m hm m' _ _ _ hsome => ?_⟩
  rw [hclient m hm] at hsome
  cases hsome

/-- What a socket reads from these tables. -/
def staleRows : List ChatMessage := loadMessages crowdedHall 5 "main" none (hotHistoryLimit + 1)

/-- The channel of these messages. -/
def mainHall : ChannelRow := { id := 7, name := "main", createdAt := 1 }

lemma staleRows_eq : staleRows = newest ChatMessage.stamp (hotHistoryLimit + 1)
    (servedMessages crowdedHall 5 mainHall none) := by
  have hlive : crowdedHall.liveChannel? "main" = some mainHall := rfl
  exact loadMessages_eq schema_crowdedHall.wellFormed hlive 5 none (hotHistoryLimit + 1)

lemma staleRows_chron : Chron ChatMessage.stamp staleRows := by
  rw [staleRows_eq]
  exact newest_chron (servedMessages_keyed schema_crowdedHall.wellFormed 5 mainHall none) _

lemma length_staleRows : staleRows.length = hotHistoryLimit := by
  have hserved : (servedRoots crowdedHall 5 mainHall none).length = hotHistoryLimit := by
    decide +kernel
  rw [staleRows_eq, length_newest, servedMessages, List.length_map, hserved]
  decide

/-- They are all older than the message that is sent. -/
lemma lt_of_mem_staleRows {x : ChatMessage} (hx : x ∈ staleRows) :
    x.stamp < greeted.stamp ∧ x.id ≠ greeted.id := by
  have hold : ∀ r ∈ crowdedHall.messages, r.stamp < greeted.stamp ∧ r.id ≠ greeted.id := by
    decide +kernel
  obtain ⟨-, r, hr, hstamp, -⟩ := rowFor_load hx
  obtain ⟨hlt, hne⟩ := hold r hr
  rw [hstamp] at hlt
  exact ⟨hlt, fun heq => hne ((congrArg member hstamp).trans heq)⟩

/-- A socket joins and reads the database. -/
def firstJoin : List Act :=
  .join "main" :: runs 3 0 5 0

lemma final_firstJoin : final (State.step .ascii) { db := crowdedHall } firstJoin
    = { db := crowdedHall, tasks := [.hydrate { channel := "main", since := 0 } staleRows] } := by
  have hcold : Cache.latestIds {} = [] := rfl
  simp only [firstJoin, runs, List.replicate, final, List.foldl_cons, List.foldl_nil, State.step,
    State.spawn, State.setTask, State.exec, hcold, if_true, List.nil_append,
    List.getElem?_cons_zero, List.set_cons_zero, List.length_nil]
  rfl

/-- A message is sent and cached, a moderation deletes the cache, and the message is published. -/
def meanwhile : List Act :=
  .send (greeting "c") :: runs 11 1 10 21 ++
    .moderate 1 400 .delete none :: runs 5 2 11 0 ++
    [.run 1 { now := 12, id := 0 }]

/-- The first socket caches what it read, and a second one joins. -/
def lastJoin : List Act :=
  [.run 0 { now := 13, id := 0 }, .join "main", .run 3 { now := 13, id := 0 },
    .run 3 { now := 13, id := 0 }, .run 3 { now := 13, id := 0 }]

/-- The second socket subscribed after the message was published, and has a full page of older
messages. -/
theorem staleHydration_hides :
    Grounded { db := crowdedHall } ∧ greeted.rootMessageId = none ∧
      Task.sent (greeting "c") greeted ∈ (final (State.step .ascii) { db := crowdedHall }
        (firstJoin ++ meanwhile ++ lastJoin)).tasks ∧
      (greeted.channel, .message greeted) ∈ (final (State.step .ascii) { db := crowdedHall }
        (firstJoin ++ meanwhile ++ lastJoin)).published ∧
      ∃ j messages, Task.joined j messages ∈ (final (State.step .ascii) { db := crowdedHall }
          (firstJoin ++ meanwhile ++ lastJoin)).tasks ∧ j.channel = greeted.channel ∧
        ¬ ((∃ x ∈ messages, x.id = greeted.id) ∨
          (greeted.channel, .message greeted) ∈ (final (State.step .ascii) { db := crowdedHall }
            (firstJoin ++ meanwhile ++ lastJoin)).published.drop j.since ∨
          ∃ oldest, messages.head? = some oldest ∧ greeted.stamp < oldest.stamp) := by
  have hstart := grounded_start schema_crowdedHall
  rw [final_append, final_append, final_firstJoin]
  set s := final (State.step .ascii) { db := crowdedHall, tasks :=
    [.hydrate { channel := "main", since := 0 } staleRows] } meanwhile with hs
  have hground : Grounded s := by
    rw [hs, ← final_firstJoin, ← final_append]
    exact final_invariant (fun _ a h => h.step .ascii a) hstart _
  have hhydrate : s.tasks[0]? = some (.hydrate { channel := "main", since := 0 } staleRows) :=
    tasks_final_of_ne .ascii rfl (by decide)
  have hlength : s.tasks.length = 3 := by decide +kernel
  have hsent : s.tasks[1]? = some (.sent (greeting "c") greeted) := by decide +kernel
  have hempty : (s.cache "main").order.entries = [] := by decide +kernel
  have hpublished : (greeted.channel, .message greeted) ∈ s.published := by decide +kernel
  clear_value s
  obtain ⟨t, t', t'', htasks⟩ := List.length_eq_three.mp hlength
  rw [htasks] at hhydrate hsent
  obtain rfl := Option.some.inj hhydrate
  obtain rfl := Option.some.inj hsent
  obtain ⟨hfinal, hpub⟩ := joins_hydrated .ascii { now := 13, id := 0 } hground htasks hempty
    staleRows_chron length_staleRows
  have hpage : ∀ x ∈ page staleRows, x ∈ staleRows := by
    intro x hx
    rw [page_eq] at hx
    exact newest_subset hx
  refine ⟨hstart, rfl, ?_, ?_, { channel := "main", since := s.published.length },
    page staleRows, ?_, rfl, ?_⟩
  · rw [lastJoin, hfinal]
    simp
  · rw [lastJoin, hpub]
    exact hpublished
  · rw [lastJoin, hfinal]
    simp
  · rw [lastJoin, hpub]
    rintro (⟨x, hx, hid⟩ | hframe | ⟨oldest, hhead, hlt⟩)
    · exact (lt_of_mem_staleRows (hpage x hx)).2 hid
    · rw [List.drop_length] at hframe
      exact absurd hframe List.not_mem_nil
    · have hmem := hpage oldest (List.mem_of_mem_head? hhead)
      exact lt_asymm hlt (lt_of_mem_staleRows hmem).1

end Vussa.Flow
