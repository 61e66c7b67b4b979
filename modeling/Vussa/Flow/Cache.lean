import Vussa.Flow.Rows
import Vussa.History.Paging

/-!
What the tasks do to the caches, and where the cached entries and the published messages come from:
every entry, every payload and every message on its way is one of a row.

* `CacheStep`: what one step does to the keys of a channel, with `exec_cache`;
* `RowFor`: the row of a message, in the live channel the message names;
* `Cache.Grounded`, `Task.Grounded`: entries, payloads and messages on their way have rows;
* `Grounded.step`: **this stays so with every move**.
-/

namespace Vussa.Flow

open Run SortedSet Timeline

/-! ### Steps on a cache -/

/-- What a step does to the keys of the channel `ch`. -/
inductive CacheStep (s : State) (ch : String) : Task → Cache → Prop
  | same {task : Task} : CacheStep s ch task (s.cache ch)
  | store {j : Job} : j.message.channel = ch →
      CacheStep s ch (.store j) ((s.cache ch).store (.fromMessage j.message j.owner))
  | hydrate {j : Join} {rows : List ChatMessage} : j.channel = ch →
      CacheStep s ch (.hydrate j rows)
        ((s.cache ch).hydrate (rows.drop (rows.length - hotHistoryLimit)))
  | trim {j : Job} {ids : List Uuid} {wipes : ℕ} : j.message.channel = ch →
      CacheStep s ch (.trim j ids wipes) ((s.cache ch).zrem ids)
  | forget {j : Job} {ids : List Uuid} : j.message.channel = ch →
      CacheStep s ch (.forget j ids) ((s.cache ch).hdel ids)
  | delMessages : CacheStep s ch (.delMessages ch) (s.cache ch).delMessages
  | delOrder : CacheStep s ch (.delOrder ch) (s.cache ch).delOrder

/-- A write under one channel name. -/
lemma setCache_cases (s : State) (channel ch : String) (c : Cache) :
    (channel = ch ∧ (s.setCache channel c).cache ch = c) ∨
      (s.setCache channel c).cache ch = s.cache ch := by
  by_cases h : ch = channel
  · subst h
    exact .inl ⟨rfl, Function.update_self ..⟩
  · exact .inr (Function.update_of_ne h ..)

/-- Every step of a task does one of these. -/
lemma exec_cache (U : Unicode) (e : Env) (s : State) (task : Task) (ch : String) :
    CacheStep s ch task ((s.exec U e task).1.cache ch) := by
  cases task with
  | store j =>
      obtain ⟨rfl, heq⟩ | heq := setCache_cases s j.message.channel ch
        ((s.cache j.message.channel).store (.fromMessage j.message j.owner))
      · exact heq ▸ .store rfl
      · exact heq ▸ .same
  | trim j ids wipes =>
      obtain ⟨rfl, heq⟩ | heq := setCache_cases s j.message.channel ch
        ((s.cache j.message.channel).zrem ids)
      · exact heq ▸ .trim rfl
      · exact heq ▸ .same
  | forget j ids =>
      obtain ⟨rfl, heq⟩ | heq := setCache_cases s j.message.channel ch
        ((s.cache j.message.channel).hdel ids)
      · exact heq ▸ .forget rfl
      · exact heq ▸ .same
  | delMessages channel =>
      obtain ⟨rfl, heq⟩ | heq := setCache_cases s channel ch (s.cache channel).delMessages
      · exact heq ▸ .delMessages
      · exact heq ▸ .same
  | delOrder channel =>
      obtain ⟨rfl, heq⟩ | heq := setCache_cases s channel ch (s.cache channel).delOrder
      · exact heq ▸ .delOrder
      · exact heq ▸ .same
  | hydrate j rows =>
      obtain ⟨rfl, heq⟩ | heq := setCache_cases s j.channel ch
        ((s.cache j.channel).hydrate (rows.drop (rows.length - hotHistoryLimit)))
      · exact heq ▸ .hydrate rfl
      · exact heq ▸ .same
  | check p rest =>
      cases rest with
      | nil => exact .same
      | cons c rest =>
          rw [State.exec]
          split <;> exact .same
  | look _ | save _ _ | recover _ _ | change _ | moderate _ _ _ _ | view _ =>
      rw [State.exec]
      split <;> exact .same
  | reconcile _ _ | answer _ _ | note _ _ | scan _ | publish _ | sent _ _ | cut _ | announce _
  | subscribe _ | range _ | fetch _ _ | load _ | joined _ _ | ended => exact .same

/-! ### Rows behind messages -/

/-- The stamp of a row. -/
def Stamped (db : Database) (e : Stamp) : Prop := ∃ r ∈ db.messages, r.stamp = e

lemma Stamped.grows {db db' : Database} (hg : Grows db db') {e : Stamp} (h : Stamped db e) :
    Stamped db' e := by
  obtain ⟨r, hr, rfl⟩ := h
  obtain ⟨r', hr', hkept⟩ := hg.rows r hr
  exact ⟨r', hr', hkept.stamp⟩

/-- An identifier has one stamp. -/
lemma Schema.stamp_inj {db : Database} (hs : Schema db) {a b : Stamp} (ha : Stamped db a)
    (hb : Stamped db b) (h : member a = member b) : a = b := by
  obtain ⟨r, hr, rfl⟩ := ha
  obtain ⟨r', hr', rfl⟩ := hb
  rw [hs.wellFormed.eq_of_id hr hr' h]

/-- The row of a message, in the live channel that the message names. -/
def RowFor (db : Database) (x : ChatMessage) : Prop :=
  ∃ r ∈ db.messages, r.stamp = x.stamp ∧ r.rootMessageId = x.rootMessageId ∧
    ∃ c, db.liveChannel? x.channel = some c ∧ r.channelId = c.id

lemma RowFor.stamped {db : Database} {x : ChatMessage} (h : RowFor db x) : Stamped db x.stamp := by
  obtain ⟨r, hr, hstamp, -⟩ := h
  exact ⟨r, hr, hstamp⟩

lemma RowFor.grows {db db' : Database} (hg : Grows db db') {x : ChatMessage} (h : RowFor db x) :
    RowFor db' x := by
  obtain ⟨r, hr, hstamp, hroot, c, hc, hchannel⟩ := h
  obtain ⟨r', hr', hkept⟩ := hg.rows r hr
  refine ⟨r', hr', hkept.stamp.trans hstamp, hkept.rootMessageId.trans hroot, c, ?_,
    hkept.channelId.trans hchannel⟩
  rw [Database.liveChannel?, hg.channels]
  exact hc

lemma rowFor_save {db db' : Database} {message : ChatMessage} {session user : Uuid}
    (h : saveMessage db message session user = .ok db') : RowFor db' message := by
  obtain ⟨c, links, hc, -, rfl⟩ := saveMessage_ok h
  exact ⟨savedRow c message session user, List.mem_append_right _ (List.mem_singleton_self _), rfl,
    rfl, c, hc, rfl⟩

/-- The view of a row that was found under a channel name. -/
lemma rowFor_view {db : Database} {channel : String} {id : Uuid} {c : ChannelRow} {m : MessageRow}
    (h : db.messageIn? channel id = some (c, m)) : RowFor db (db.view c.name m) := by
  obtain ⟨hc, hm, -, hchannel⟩ := Database.messageIn?_some h
  refine ⟨m, hm, rfl, rfl, c, ?_, hchannel⟩
  change db.liveChannel? c.name = some c
  rw [(Database.liveChannel?_some hc).2.1]
  exact hc

lemma rowFor_change {db db' : Database} {now : Millis} {change : Change} {message : ChatMessage}
    (h : change.commit db now = .ok (db', message)) : RowFor db' message := by
  cases change with
  | edit channel id session text =>
      obtain ⟨c, m, hin, -, rfl, rfl⟩ := editMessage_ok h
      exact RowFor.grows (grows_updateMessage (kept_edit text)) (rowFor_view hin)
  | delete channel id session canModerate =>
      obtain ⟨c, m, hin, -, rfl, rfl⟩ := deleteMessage_ok h
      exact RowFor.grows (grows_updateMessage (kept_delete now)) (rowFor_view hin)

lemma rowFor_load {db : Database} {now : Millis} {channel : String} {before : Option Stamp}
    {limit : ℕ} {x : ChatMessage} (h : x ∈ loadMessages db now channel before limit) :
    x.channel = channel ∧ RowFor db x := by
  obtain ⟨c, hc, r, hr, rfl⟩ := mem_loadMessages h
  obtain ⟨hmem, hp⟩ := List.mem_filter.mp hr
  have hname : c.name = channel := (Database.liveChannel?_some hc).2.1
  refine ⟨hname, r, hmem, rfl, rfl, c, ?_, (of_decide_eq_true hp).1⟩
  change db.liveChannel? c.name = some c
  rw [hname]
  exact hc

/-! ### Grounded caches -/

/-- The entries and the payloads of a cache are those of rows. -/
structure Cache.Grounded (db : Database) (c : Cache) : Prop where
  order : ∀ e ∈ c.order.entries, Stamped db e
  payload : ∀ id r, c.messages id = some r → r.id = id ∧ Stamped db r.intoMessage.stamp

namespace Cache.Grounded

variable {db : Database} {c : Cache}

lemma grows {db' : Database} (hg : Grows db db') (h : c.Grounded db) : c.Grounded db' :=
  ⟨fun e he => (h.order e he).grows hg,
    fun id r hr => ⟨(h.payload id r hr).1, (h.payload id r hr).2.grows hg⟩⟩

lemma store (h : c.Grounded db) {x : ChatMessage} (hx : Stamped db x.stamp) (owner : Uuid) :
    (c.store (.fromMessage x owner)).Grounded db := by
  refine ⟨fun e he => ?_, fun id r hr => ?_⟩
  · obtain rfl | ⟨he, -⟩ := mem_add.mp he
    · exact hx
    · exact h.order e he
  · by_cases hid : id = x.id
    · subst hid
      have hself : (c.store (.fromMessage x owner)).messages x.id
          = some (.fromMessage x owner) := Function.update_self ..
      obtain rfl := Option.some.inj (hself.symm.trans hr)
      exact ⟨rfl, hx⟩
    · have hother : (c.store (.fromMessage x owner)).messages id = c.messages id :=
        Function.update_of_ne hid ..
      exact h.payload id r (hother.symm.trans hr)

lemma hydrate (h : c.Grounded db) {xs : List ChatMessage} (hxs : ∀ x ∈ xs, Stamped db x.stamp) :
    (c.hydrate xs).Grounded db := by
  induction xs generalizing c with
  | nil => exact h
  | cons x xs ih =>
      exact ih (h.store (hxs x List.mem_cons_self) Uuid.nil)
        fun y hy => hxs y (List.mem_cons_of_mem _ hy)

lemma zrem (h : c.Grounded db) (ids : List Uuid) : (c.zrem ids).Grounded db :=
  ⟨fun e he => h.order e (mem_rem.mp he).1, h.payload⟩

lemma hdel (h : c.Grounded db) (ids : List Uuid) : (c.hdel ids).Grounded db := by
  refine ⟨h.order, fun id r hr => ?_⟩
  change (if id ∈ ids then none else c.messages id) = some r at hr
  split_ifs at hr
  exact h.payload id r hr

lemma delMessages (h : c.Grounded db) : c.delMessages.Grounded db :=
  ⟨h.order, fun _ _ hr => nomatch hr⟩

lemma delOrder (h : c.Grounded db) : c.delOrder.Grounded db :=
  ⟨fun _ he => absurd he List.not_mem_nil, h.payload⟩

/-- A write adds its entry and keeps the others. -/
lemma mem_store (h : c.Grounded db) (hs : Schema db) {x : ChatMessage} (hx : Stamped db x.stamp)
    (owner : Uuid) (e : Stamp) :
    e ∈ (c.store (.fromMessage x owner)).order.entries ↔ e = x.stamp ∨ e ∈ c.order.entries := by
  refine mem_add.trans ⟨?_, ?_⟩
  · rintro (he | ⟨he, -⟩)
    · exact .inl he
    · exact .inr he
  · rintro (he | he)
    · exact .inl he
    · -- an entry of the same message is the same entry
      by_cases hid : member e = x.id
      · exact .inl (hs.stamp_inj (h.order e he) hx hid)
      · exact .inr ⟨he, hid⟩

lemma mem_hydrate (h : c.Grounded db) (hs : Schema db) {xs : List ChatMessage}
    (hxs : ∀ x ∈ xs, Stamped db x.stamp) (e : Stamp) :
    e ∈ (c.hydrate xs).order.entries ↔ (∃ x ∈ xs, x.stamp = e) ∨ e ∈ c.order.entries := by
  induction xs generalizing c with
  | nil => simp [Cache.hydrate]
  | cons x xs ih =>
      have hx := hxs x List.mem_cons_self
      have hstep : (c.hydrate (x :: xs)) = (c.store (.fromMessage x Uuid.nil)).hydrate xs := rfl
      rw [hstep, ih (h.store hx Uuid.nil) fun y hy => hxs y (List.mem_cons_of_mem _ hy),
        h.mem_store hs hx, List.exists_mem_cons_iff, eq_comm (a := e), or_left_comm, or_assoc]

lemma subset_store (h : c.Grounded db) (hs : Schema db) {x : ChatMessage}
    (hx : Stamped db x.stamp) (owner : Uuid) :
    ∀ e ∈ c.order.entries, e ∈ (c.store (.fromMessage x owner)).order.entries :=
  fun e he => (h.mem_store hs hx owner e).mpr (.inr he)

lemma subset_hydrate (h : c.Grounded db) (hs : Schema db) {xs : List ChatMessage}
    (hxs : ∀ x ∈ xs, Stamped db x.stamp) :
    ∀ e ∈ c.order.entries, e ∈ (c.hydrate xs).order.entries :=
  fun e he => (h.mem_hydrate hs hxs e).mpr (.inr he)

end Cache.Grounded

lemma Cache.hydrate_wipes (c : Cache) (xs : List ChatMessage) : (c.hydrate xs).wipes = c.wipes := by
  induction xs generalizing c with
  | nil => rfl
  | cons x xs ih => exact ih (c.store (.fromMessage x Uuid.nil))

/-- A hydration writes payloads of its messages and leaves the others. -/
lemma Cache.hydrate_messages_cases (c : Cache) (xs : List ChatMessage) (id : Uuid) :
    (c.hydrate xs).messages id = c.messages id ∨
      ∃ x ∈ xs, x.id = id ∧ (c.hydrate xs).messages id = some (.fromMessage x Uuid.nil) := by
  induction xs generalizing c with
  | nil => exact .inl rfl
  | cons x xs ih =>
      obtain hsame | ⟨y, hy, hid, hwritten⟩ := ih (c.store (.fromMessage x Uuid.nil))
      · by_cases hid : x.id = id
        · subst hid
          exact .inr ⟨x, List.mem_cons_self, rfl, hsame.trans (Function.update_self ..)⟩
        · exact .inl (hsame.trans (Function.update_of_ne (Ne.symm hid) ..))
      · exact .inr ⟨y, List.mem_cons_of_mem _ hy, hid, hwritten⟩

/-! ### Grounded states -/

/-- The messages on their way have rows, and those that were stored are noted as cached. -/
def Task.Grounded (s : State) : Task → Prop
  | note _ message => RowFor s.db message
  | store j => RowFor s.db j.message
  | scan j | trim j _ _ | forget j _ | publish j => RowFor s.db j.message ∧ j.message ∈ s.cached
  | hydrate j rows => ∀ x ∈ rows, x.channel = j.channel ∧ RowFor s.db x
  | _ => True

lemma Task.Grounded.follows {s s' : State} (hf : Follows s s') {task : Task}
    (h : task.Grounded s) : task.Grounded s' := by
  cases task with
  | note p message => exact RowFor.grows hf.grows h
  | store j => exact RowFor.grows hf.grows h
  | scan j | trim j _ _ | forget j _ | publish j =>
      exact ⟨h.1.grows hf.grows, hf.cached _ h.2⟩
  | hydrate j rows => exact fun x hx => ⟨(h x hx).1, (h x hx).2.grows hf.grows⟩
  | _ => trivial

/-- The rows on their way into the cache have stamps. -/
lemma Task.Grounded.hydrated {s : State} {j : Join} {rows : List ChatMessage}
    (h : (Task.hydrate j rows).Grounded s) (n : ℕ) : ∀ x ∈ rows.drop n, Stamped s.db x.stamp :=
  fun x hx => (h x (List.mem_of_mem_drop hx)).2.stamped

lemma Task.Grounded.fail {s : State} {task : Task} (h : task.Grounded s) :
    task.fail.Grounded s := by
  cases task with
  | note p message => exact h
  | _ => trivial

lemma Task.Grounded.lost {s : State} {task : Task} (h : task.Grounded s) :
    task.lost.Grounded s := by
  cases task with
  | note p message => exact h
  | _ => trivial

lemma exec_grounded (U : Unicode) (e : Env) (s : State) {task : Task} (h : task.Grounded s) :
    (s.exec U e task).2.Grounded (s.exec U e task).1 := by
  cases task with
  | save p message =>
      rw [State.exec]
      split
      next db hsave => exact rowFor_save hsave
      next => trivial
  | change change =>
      rw [State.exec]
      split
      next db message hcommit => exact rowFor_change hcommit
      next => trivial
  | note p message => exact h
  | store j => exact ⟨h, List.mem_append_right _ (List.mem_singleton_self _)⟩
  | scan j =>
      simp only [State.exec]
      split_ifs <;> exact h
  | trim _ _ _ | forget _ _ => exact h
  | load j => exact fun x hx => rowFor_load hx
  | check p rest =>
      cases rest with
      | nil => trivial
      | cons c rest =>
          rw [State.exec]
          split <;> trivial
  | look _ | recover _ _ | publish _ | moderate _ _ _ _ | view _ =>
      rw [State.exec]
      split <;> trivial
  | range _ | fetch _ _ =>
      simp only [State.exec]
      split_ifs <;> trivial
  | _ => trivial

/-- The invariant: the schema, and everything in the caches, on its way and published has a row. -/
structure Grounded (s : State) : Prop where
  schema : Schema s.db
  caches : ∀ ch, (s.cache ch).Grounded s.db
  tasks : ∀ task ∈ s.tasks, task.Grounded s
  published : ∀ ch x, (ch, .message x) ∈ s.published →
    ch = x.channel ∧ x ∈ s.cached ∧ RowFor s.db x

/-- The step of a grounded task keeps the caches grounded. -/
lemma exec_cache_grounded (U : Unicode) (e : Env) {s : State} {task : Task}
    (h : task.Grounded s) {ch : String} (hc : (s.cache ch).Grounded s.db) :
    ((s.exec U e task).1.cache ch).Grounded (s.exec U e task).1.db := by
  refine Cache.Grounded.grows (exec_db U e s task).grows ?_
  have hstep := exec_cache U e s task ch
  generalize (s.exec U e task).1.cache ch = c at hstep
  cases hstep with
  | same => exact hc
  | store _ => exact hc.store (RowFor.stamped h) _
  | hydrate _ => exact hc.hydrate (h.hydrated _)
  | trim _ => exact hc.zrem _
  | forget _ => exact hc.hdel _
  | delMessages => exact hc.delMessages
  | delOrder => exact hc.delOrder

/-- What a step publishes is a message that was stored and cached. -/
lemma exec_published (U : Unicode) (e : Env) {s : State} {task : Task} (h : task.Grounded s)
    {ch : String} {x : ChatMessage} (hx : (ch, .message x) ∈ (s.exec U e task).1.published) :
    (ch, .message x) ∈ s.published ∨ (ch = x.channel ∧ x ∈ s.cached ∧ RowFor s.db x) := by
  cases task with
  | publish j =>
      obtain hx | hx := List.mem_append.mp hx
      · exact .inl hx
      · rw [List.mem_singleton, Prod.mk.injEq, Job.event] at hx
        obtain ⟨rfl, hevent⟩ := hx
        split at hevent
        · obtain rfl := ServerEvent.message.inj hevent
          exact .inr ⟨rfl, h.2, h.1⟩
        · cases hevent
  | announce message =>
      obtain hx | hx := List.mem_append.mp hx
      · exact .inl hx
      · rw [List.mem_singleton, Prod.mk.injEq] at hx
        cases hx.2
  | check p rest =>
      cases rest with
      | nil => exact .inl hx
      | cons c rest =>
          rw [State.exec] at hx
          split at hx <;> exact .inl hx
  | look _ | save _ _ | recover _ _ | change _ | moderate _ _ _ _ | view _ =>
      rw [State.exec] at hx
      split at hx <;> exact .inl hx
  | reconcile _ _ | answer _ _ | note _ _ | store _ | scan _ | trim _ _ _ | forget _ _ | sent _ _
  | cut _ | delMessages _ | delOrder _ | subscribe _ | range _ | fetch _ _ | load _ | hydrate _ _
  | joined _ _ | ended => exact .inl hx

/-- The tasks stay grounded. -/
lemma Grounded.step_tasks (U : Unicode) {s : State} (h : Grounded s) (a : Act) :
    ∀ task ∈ (s.step U a).tasks, task.Grounded (s.step U a) := by
  refine forall_tasks_step (P := fun s task => task.Grounded s) ?_ h.tasks ?_ ?_
    (fun _ ht => ht.fail) ?_
  · exact fun s tasks t ht => ht.follows (follows_tasks s tasks)
  · exact ⟨fun _ _ => trivial, fun _ => trivial, fun _ _ _ _ => trivial, fun _ => trivial⟩
  · rintro k e t - htask
    exact ⟨exec_grounded U e s (h.tasks t (List.mem_of_getElem? htask)),
      fun t' ht' => (h.tasks t' ht').follows (exec_follows U e s t)⟩
  · rintro k e t - htask
    have hother := fun t' ht' => (h.tasks t' ht').follows (exec_follows U e s t)
    exact ⟨(hother t (List.mem_of_getElem? htask)).lost, hother⟩

/-- The invariant is kept by every move. -/
lemma Grounded.step (U : Unicode) {s : State} (h : Grounded s) (a : Act) :
    Grounded (s.step U a) := by
  have hschema := schema_step U h.schema a
  have htasks := h.step_tasks U a
  obtain ⟨tasks, heq⟩ | ⟨k, e, task, tasks, -, htask, heq⟩ := step_cases U s a
  · rw [heq] at hschema htasks ⊢
    exact ⟨hschema, h.caches, htasks, h.published⟩
  · have ht := h.tasks task (List.mem_of_getElem? htask)
    have hf := exec_follows U e s task
    rw [heq] at hschema htasks ⊢
    refine ⟨hschema, fun ch => exec_cache_grounded U e ht (h.caches ch), htasks, fun ch x hx => ?_⟩
    obtain ⟨hch, hcached, hrow⟩ : ch = x.channel ∧ x ∈ s.cached ∧ RowFor s.db x := by
      obtain hold | hnew := exec_published U e ht hx
      · exact h.published ch x hold
      · exact hnew
    exact ⟨hch, hf.cached x hcached, hrow.grows hf.grows⟩

end Vussa.Flow
