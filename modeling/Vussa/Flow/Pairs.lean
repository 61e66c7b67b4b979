import Vussa.Flow.Cache

/-!
The two keys of a cache. Every writer sets both in one `MULTI` block, but the trim of
`store_message` and the refresh of a moderated message take an identifier out of one key and then
out of the other, by separate commands. What is written in between loses one of its halves.

* `Cache.Paired`: the fields of the hash are the members of the order;
* `Cache.Mended`: the same up to the removals that are still to come, with a lemma for each command;
* `State.Lands`, `State.Breaks`, `State.Whole`: what a removal finds when it runs, and what one that
  fails or loses its answer leaves behind;
* `paired_of_along`: **in a run whose steps are whole the two keys agree once all tasks have
  finished**;
* `refresh_tears`: an edit that is cached between the two deletions of a refresh.
-/

namespace Vussa.Flow

open Run SortedSet

/-! ### A task and the others -/

/-- A task with nothing left to do. -/
def Task.finished : Task → Bool
  | sent _ _ | cut _ | joined _ _ | ended => true
  | _ => false

/-- A task has the property, and it is not the one in the place `k`. -/
def State.Other (s : State) (k : ℕ) (P : Task → Prop) : Prop := ∃ t ∈ s.tasks.eraseIdx k, P t

instance (s : State) (k : ℕ) (P : Task → Prop) [DecidablePred P] : Decidable (s.Other k P) :=
  inferInstanceAs (Decidable (∃ t ∈ s.tasks.eraseIdx k, P t))

/-- The task in its place, or another one. -/
lemma exists_task_iff {s : State} {k : ℕ} {t : Task} (h : s.tasks[k]? = some t)
    (P : Task → Prop) : (∃ t' ∈ s.tasks, P t') ↔ P t ∨ s.Other k P := by
  refine ⟨?_, ?_⟩
  · rintro ⟨t', ht', hP⟩
    obtain ⟨i, hi⟩ := List.mem_iff_getElem?.mp ht'
    by_cases hik : i = k
    · subst hik
      obtain rfl := Option.some.inj (h.symm.trans hi)
      exact .inl hP
    · exact .inr ⟨t', List.mem_eraseIdx_iff_getElem?.mpr ⟨i, hik, hi⟩, hP⟩
  · rintro (hP | ⟨t', ht', hP⟩)
    · exact ⟨t, List.mem_of_getElem? h, hP⟩
    · exact ⟨t', List.mem_of_mem_eraseIdx ht', hP⟩

/-- The same after the task in the place has moved on. -/
lemma exists_set_iff {s : State} {k : ℕ} {t : Task} (h : s.tasks[k]? = some t) (new : Task)
    (P : Task → Prop) : (∃ t' ∈ s.tasks.set k new, P t') ↔ P new ∨ s.Other k P := by
  obtain ⟨hk, -⟩ := List.getElem?_eq_some_iff.mp h
  have hset : ∀ i ≠ k, (s.tasks.set k new)[i]? = s.tasks[i]? :=
    fun i hi => List.getElem?_set_ne (Ne.symm hi)
  refine ⟨?_, ?_⟩
  · rintro ⟨t', ht', hP⟩
    obtain ⟨i, hi⟩ := List.mem_iff_getElem?.mp ht'
    by_cases hik : i = k
    · subst hik
      rw [List.getElem?_set_self hk] at hi
      obtain rfl := Option.some.inj hi
      exact .inl hP
    · rw [hset i hik] at hi
      exact .inr ⟨t', List.mem_eraseIdx_iff_getElem?.mpr ⟨i, hik, hi⟩, hP⟩
  · rintro (hP | ⟨t', ht', hP⟩)
    · exact ⟨new, List.mem_set hk new, hP⟩
    · obtain ⟨i, hik, hi⟩ := List.mem_eraseIdx_iff_getElem?.mp ht'
      exact ⟨t', List.mem_of_getElem? ((hset i hik).trans hi), hP⟩

/-- A task that arrives takes nothing away. -/
lemma exists_spawn {s : State} {P : Task → Prop} (new : Task) (h : ∃ t ∈ s.tasks, P t) :
    ∃ t ∈ (s.spawn new).tasks, P t := by
  obtain ⟨t, ht, hP⟩ := h
  exact ⟨t, List.mem_append_left _ ht, hP⟩

/-! ### Halves of a pair -/

namespace Cache

/-- The hash has a field for the identifier. -/
def HasPayload (c : Cache) (id : Uuid) : Prop := (c.messages id).isSome

/-- The identifier is a member of the order. -/
def HasEntry (c : Cache) (id : Uuid) : Prop := ∃ e ∈ c.order.entries, member e = id

instance (c : Cache) (id : Uuid) : Decidable (c.HasPayload id) :=
  inferInstanceAs (Decidable ((c.messages id).isSome = true))

instance (c : Cache) (id : Uuid) : Decidable (c.HasEntry id) :=
  inferInstanceAs (Decidable (∃ e ∈ c.order.entries, member e = id))

/-- The fields of the hash are the members of the order. -/
def Paired (c : Cache) : Prop := ∀ id, c.HasPayload id ↔ c.HasEntry id

variable {c : Cache} {id : Uuid}

lemma hasPayload_store (record : StoredMessage) :
    (c.store record).HasPayload id ↔ id = record.id ∨ c.HasPayload id := by
  by_cases hid : id = record.id
  · subst hid
    simp [HasPayload, store]
  · simp [HasPayload, store, hid]

lemma hasEntry_store (record : StoredMessage) :
    (c.store record).HasEntry id ↔ id = record.id ∨ c.HasEntry id := by
  refine ⟨?_, ?_⟩
  · rintro ⟨e, he, rfl⟩
    obtain rfl | ⟨he, -⟩ := mem_add.mp he
    · exact .inl rfl
    · exact .inr ⟨e, he, rfl⟩
  · intro h
    by_cases hid : id = record.id
    · exact ⟨_, mem_add.mpr (.inl rfl), hid.symm⟩
    · obtain ⟨e, he, rfl⟩ := h.resolve_left hid
      exact ⟨e, mem_add.mpr (.inr ⟨he, hid⟩), rfl⟩

lemma hasEntry_zrem (ids : List Uuid) :
    (c.zrem ids).HasEntry id ↔ c.HasEntry id ∧ id ∉ ids := by
  refine ⟨?_, ?_⟩
  · rintro ⟨e, he, rfl⟩
    obtain ⟨he, hout⟩ := mem_rem.mp he
    exact ⟨⟨e, he, rfl⟩, hout⟩
  · rintro ⟨⟨e, he, rfl⟩, hout⟩
    exact ⟨e, mem_rem.mpr ⟨he, hout⟩, rfl⟩

lemma hasPayload_hdel (ids : List Uuid) :
    (c.hdel ids).HasPayload id ↔ c.HasPayload id ∧ id ∉ ids := by
  by_cases hid : id ∈ ids <;> simp [HasPayload, hdel, hid]

lemma not_hasPayload_delMessages : ¬ c.delMessages.HasPayload id := by
  simp [HasPayload, delMessages]

lemma not_hasEntry_delOrder : ¬ c.delOrder.HasEntry id := by
  simp [HasEntry, delOrder, SortedSet.empty]

/-- A payload without an entry is forgotten yet, and an entry without a payload goes with the
order. -/
structure Mended (c : Cache) (forgotten : Uuid → Prop) (unordered : Prop) : Prop where
  payload : ∀ id, c.HasPayload id → c.HasEntry id ∨ forgotten id
  entry : ∀ id, c.HasEntry id → c.HasPayload id ∨ unordered

namespace Mended

variable {F F' : Uuid → Prop} {N N' : Prop}

lemma mono (h : c.Mended F N) (hF : ∀ id, F id → F' id) (hN : N → N') : c.Mended F' N' :=
  ⟨fun id hid => (h.payload id hid).imp_right (hF id), fun id hid => (h.entry id hid).imp_right hN⟩

lemma of_paired (h : c.Paired) : c.Mended F N :=
  ⟨fun id hid => .inl ((h id).mp hid), fun id hid => .inl ((h id).mpr hid)⟩

/-- With no removal to come the two keys agree. -/
lemma paired (h : c.Mended F N) (hF : ∀ id, ¬ F id) (hN : ¬ N) : c.Paired :=
  fun id => ⟨fun hid => (h.payload id hid).resolve_right (hF id),
    fun hid => (h.entry id hid).resolve_right hN⟩

lemma store (h : c.Mended F N) (record : StoredMessage) : (c.store record).Mended F N := by
  refine ⟨fun id hid => ?_, fun id hid => ?_⟩
  · rw [hasEntry_store]
    obtain rfl | hid := (hasPayload_store record).mp hid
    · exact .inl (.inl rfl)
    · exact (h.payload id hid).imp_left .inr
  · rw [hasPayload_store]
    obtain rfl | hid := (hasEntry_store record).mp hid
    · exact .inl (.inl rfl)
    · exact (h.entry id hid).imp_left .inr

lemma hydrate (h : c.Mended F N) (messages : List ChatMessage) :
    (c.hydrate messages).Mended F N := by
  induction messages generalizing c with
  | nil => exact h
  | cons m messages ih => exact ih (h.store _)

/-- `ZREM`, when the payloads it leaves are forgotten yet. -/
lemma zrem (h : c.Mended F N) {ids : List Uuid} (hF : ∀ id, F id → F' id)
    (hids : ∀ id ∈ ids, c.HasPayload id → F' id) : (c.zrem ids).Mended F' N := by
  refine ⟨fun id hid => ?_, fun id hid => h.entry id ((hasEntry_zrem ids).mp hid).1⟩
  rw [hasEntry_zrem]
  by_cases hin : id ∈ ids
  · exact .inr (hids id hin hid)
  · obtain hentry | hforgotten := h.payload id hid
    · exact .inl ⟨hentry, hin⟩
    · exact .inr (hF id hforgotten)

/-- `HDEL`, when none of the identifiers is in an order that stays. -/
lemma hdel (h : c.Mended F N) {ids : List Uuid} (hF : ∀ id ∉ ids, F id → F' id) (hN : N → N')
    (hids : ∀ id ∈ ids, c.HasEntry id → N') : (c.hdel ids).Mended F' N' := by
  refine ⟨fun id hid => ?_, fun id hid => ?_⟩
  · obtain ⟨hid, hout⟩ := (hasPayload_hdel ids).mp hid
    exact (h.payload id hid).imp_right (hF id hout)
  · rw [hasPayload_hdel]
    by_cases hin : id ∈ ids
    · exact .inr (hids id hin hid)
    · exact (h.entry id hid).imp (fun hpayload => ⟨hpayload, hin⟩) hN

/-- `DEL` of the payloads, when the order goes too. -/
lemma delMessages (hN : N) : c.delMessages.Mended F N :=
  ⟨fun _ hid => absurd hid not_hasPayload_delMessages, fun _ _ => .inr hN⟩

/-- `DEL` of the order, when the payloads are forgotten yet. -/
lemma delOrder (hids : ∀ id, c.HasPayload id → F id) : c.delOrder.Mended F N :=
  ⟨fun id hid => .inr (hids id hid), fun _ hid => absurd hid not_hasEntry_delOrder⟩

end Mended

end Cache

/-! ### Removals to come -/

/-- The `HDEL` of the identifier is the next step. -/
def Task.Forgets (ch : String) (id : Uuid) : Task → Prop
  | forget j ids => j.message.channel = ch ∧ id ∈ ids
  | _ => False

/-- The `DEL` of the order is the next step. -/
def Task.Unorders (ch : String) : Task → Prop
  | delOrder channel => channel = ch
  | _ => False

/-- The keys agree up to the removals that are the next steps of tasks. -/
def State.Mended (s : State) : Prop :=
  ∀ ch, (s.cache ch).Mended (fun id => ∃ t ∈ s.tasks, t.Forgets ch id)
    (∃ t ∈ s.tasks, t.Unorders ch)

/-- What the second of two removals must find: none of the identifiers of the `HDEL` is back in the
order, and no payload is back when the order is deleted, except for those that go with the removal
of another task. -/
def State.Lands (s : State) (k : ℕ) : Task → Prop
  | .forget j ids => ∀ id ∈ ids, (s.cache j.message.channel).HasEntry id →
      s.Other k (Task.Unorders j.message.channel)
  | .delOrder ch => ∀ id, (s.cache ch).HasPayload id → s.Other k (Task.Forgets ch id)
  | _ => True

/-- What a second removal that fails must not leave behind. -/
def State.Breaks (s : State) (k : ℕ) : Task → Prop
  | .forget j ids => ∀ id ∈ ids, (s.cache j.message.channel).HasPayload id →
      (s.cache j.message.channel).HasEntry id ∨ s.Other k (Task.Forgets j.message.channel id)
  | .delOrder ch => ∀ id, (s.cache ch).HasEntry id →
      (s.cache ch).HasPayload id ∨ s.Other k (Task.Unorders ch)
  | _ => True

/-- What a first removal must not leave behind when its answer is lost, and the second one is left
out. -/
def State.Leaves (s : State) (k : ℕ) : Task → Prop
  | .trim j ids _ => ∀ id ∈ ids, (s.cache j.message.channel).HasPayload id →
      s.Other k (Task.Forgets j.message.channel id)
  | _ => True

/-- A move after which no identifier is left in one key alone. -/
def State.Whole (s : State) : Act → Prop
  | .run k _ => ∀ t ∈ s.tasks[k]?, s.Lands k t
  | .fail k => ∀ t ∈ s.tasks[k]?, s.Breaks k t
  | .lose k _ => ∀ t ∈ s.tasks[k]?, s.Lands k t ∧ s.Leaves k t
  | _ => True

/-! ### Steps -/

/-- A cache is mended up to what the task `t` in the place `k` and the others still remove. -/
def State.MendedFor (s : State) (k : ℕ) (t : Task) (ch : String) (c : Cache) : Prop :=
  c.Mended (fun id => t.Forgets ch id ∨ s.Other k (Task.Forgets ch id))
    (t.Unorders ch ∨ s.Other k (Task.Unorders ch))

/-- The task in its place before its step. -/
lemma State.Mended.before {s : State} (h : s.Mended) {k : ℕ} {t : Task} (ht : s.tasks[k]? = some t)
    (ch : String) : s.MendedFor k t ch (s.cache ch) :=
  (h ch).mono (fun _ => (exists_task_iff ht _).mp) (exists_task_iff ht _).mp

/-- The task in its place after its step. -/
lemma State.MendedFor.after {s : State} {k : ℕ} {t new : Task} {ch : String} {c : Cache}
    (hc : s.MendedFor k new ch c) (ht : s.tasks[k]? = some t) :
    c.Mended (fun id => ∃ t' ∈ s.tasks.set k new, t'.Forgets ch id)
      (∃ t' ∈ s.tasks.set k new, t'.Unorders ch) :=
  hc.mono (fun _ => (exists_set_iff ht new _).mpr) (exists_set_iff ht new _).mpr

/-- A task that is no second removal may go on as any other. -/
lemma State.MendedFor.free {s : State} {k : ℕ} {t : Task} {ch : String} {c : Cache}
    (h : s.MendedFor k t ch c) (t' : Task) (hF : ∀ id, ¬ t.Forgets ch id) (hN : ¬ t.Unorders ch) :
    s.MendedFor k t' ch c :=
  h.mono (fun id hid => .inr (hid.resolve_left (hF id))) fun hid => .inr (hid.resolve_left hN)

/-- The `HDEL` of a trim. -/
lemma forget_mended (U : Unicode) (e : Env) {s : State} {k : ℕ} {j : Job} {ids : List Uuid}
    (t' : Task) {ch : String} (h : s.MendedFor k (.forget j ids) ch (s.cache ch))
    (hlands : s.Lands k (.forget j ids)) :
    s.MendedFor k t' ch ((s.exec U e (.forget j ids)).1.cache ch) := by
  by_cases hch : j.message.channel = ch
  · subst hch
    have heq : (s.exec U e (.forget j ids)).1.cache j.message.channel
        = (s.cache j.message.channel).hdel ids := Function.update_self ..
    rw [heq]
    refine h.hdel (fun id hout hid => ?_) (fun hid => ?_) fun id hin hentry => ?_
    · exact .inr (hid.resolve_left fun hthis => hout hthis.2)
    · exact .inr (hid.resolve_left not_false)
    · exact .inr (hlands id hin hentry)
  · have heq : (s.exec U e (.forget j ids)).1.cache ch = s.cache ch :=
      Function.update_of_ne (Ne.symm hch) ..
    rw [heq]
    exact h.free t' (fun id hid => hch hid.1) not_false

/-- The `DEL` of the order. -/
lemma delOrder_mended (U : Unicode) (e : Env) {s : State} {k : ℕ} {channel : String} (t' : Task)
    {ch : String} (h : s.MendedFor k (.delOrder channel) ch (s.cache ch))
    (hlands : s.Lands k (.delOrder channel)) :
    s.MendedFor k t' ch ((s.exec U e (.delOrder channel)).1.cache ch) := by
  by_cases hch : channel = ch
  · subst hch
    have heq : (s.exec U e (.delOrder channel)).1.cache channel = (s.cache channel).delOrder :=
      Function.update_self ..
    rw [heq]
    exact .delOrder fun id hid => .inr (hlands id hid)
  · have heq : (s.exec U e (.delOrder channel)).1.cache ch = s.cache ch :=
      Function.update_of_ne (Ne.symm hch) ..
    rw [heq]
    exact h.free t' (fun _ => not_false) hch

/-- The effect of a task that goes on as `t'`. -/
lemma exec_mended (U : Unicode) (e : Env) {s : State} {k : ℕ} {t : Task} (t' : Task) {ch : String}
    (h : s.MendedFor k t ch (s.cache ch))
    (hlands : s.Lands k t)
    (htrim : ∀ j ids wipes, t = .trim j ids wipes → t' = .forget j ids ∨ s.Leaves k t)
    (hdel : ∀ channel, t = .delMessages channel → t' = .delOrder channel) :
    s.MendedFor k t' ch ((s.exec U e t).1.cache ch) := by
  have hfree := h.free t'
  cases t with
  | store j =>
      have hkeep := hfree (fun _ => not_false) not_false
      obtain ⟨rfl, heq⟩ | heq := setCache_cases s j.message.channel ch
        ((s.cache j.message.channel).store (.fromMessage j.message j.owner))
      · exact heq ▸ hkeep.store _
      · exact heq ▸ hkeep
  | hydrate j rows =>
      have hkeep := hfree (fun _ => not_false) not_false
      obtain ⟨rfl, heq⟩ | heq := setCache_cases s j.channel ch
        ((s.cache j.channel).hydrate (rows.drop (rows.length - hotHistoryLimit)))
      · exact heq ▸ hkeep.hydrate _
      · exact heq ▸ hkeep
  | trim j ids wipes =>
      have hkeep := hfree (fun _ => not_false) not_false
      obtain ⟨rfl, heq⟩ | heq := setCache_cases s j.message.channel ch
        ((s.cache j.message.channel).zrem ids)
      · refine heq ▸ hkeep.zrem (fun _ hid => hid) fun id hin hpayload => ?_
        obtain rfl | hleaves := htrim j ids wipes rfl
        · exact .inl ⟨rfl, hin⟩
        · exact .inr (hleaves id hin hpayload)
      · exact heq ▸ hkeep
  | forget j ids => exact forget_mended U e t' h hlands
  | delMessages channel =>
      obtain rfl := hdel channel rfl
      obtain ⟨rfl, heq⟩ | heq := setCache_cases s channel ch (s.cache channel).delMessages
      · exact heq ▸ .delMessages (.inl rfl)
      · exact heq ▸ hfree (fun _ => not_false) not_false
  | delOrder channel => exact delOrder_mended U e t' h hlands
  | check p rest =>
      cases rest with
      | nil => exact hfree (fun _ => not_false) not_false
      | cons c rest =>
          rw [State.exec]
          split <;> exact hfree (fun _ => not_false) not_false
  | look _ | save _ _ | recover _ _ | change _ | moderate _ _ _ _ | view _ =>
      rw [State.exec]
      split <;> exact hfree (fun _ => not_false) not_false
  | reconcile _ _ | answer _ _ | note _ _ | scan _ | publish _ | sent _ _ | cut _ | announce _
  | subscribe _ | range _ | fetch _ _ | load _ | joined _ _ | ended =>
      exact hfree (fun _ => not_false) not_false

/-- A task that fails. -/
lemma fail_mended {s : State} {k : ℕ} {t : Task} {ch : String}
    (h : s.MendedFor k t ch (s.cache ch))
    (hbreaks : s.Breaks k t) :
    s.MendedFor k t.fail ch (s.cache ch) := by
  have hfree := h.free t.fail
  cases t with
  | forget j ids =>
      by_cases hch : j.message.channel = ch
      · subst hch
        refine ⟨fun id hid => ?_, fun id hid => ?_⟩
        · obtain hentry | ⟨-, hin⟩ | hother := h.payload id hid
          · exact .inl hentry
          · exact (hbreaks id hin hid).imp_right .inr
          · exact .inr (.inr hother)
        · exact (h.entry id hid).imp_right fun hthis => .inr (hthis.resolve_left not_false)
      · exact hfree (fun id hid => hch hid.1) not_false
  | delOrder channel =>
      by_cases hch : channel = ch
      · subst hch
        refine ⟨fun id hid => ?_, fun id hid => (hbreaks id hid).imp_right .inr⟩
        exact (h.payload id hid).imp_right fun hthis => .inr (hthis.resolve_left not_false)
      · exact hfree (fun _ => not_false) hch
  | _ => exact hfree (fun _ => not_false) not_false

/-- A whole move keeps the keys mended. -/
lemma mended_step (U : Unicode) {s : State} (h : s.Mended) {a : Act} (hwhole : s.Whole a) :
    (s.step U a).Mended := by
  intro ch
  have hspawn : ∀ new, ((s.spawn new).cache ch).Mended
      (fun id => ∃ t ∈ (s.spawn new).tasks, t.Forgets ch id)
      (∃ t ∈ (s.spawn new).tasks, t.Unorders ch) := fun new =>
    (h ch).mono (fun _ hid => exists_spawn new hid) fun hid => exists_spawn new hid
  cases a with
  | send p => exact hspawn _
  | change change => exact hspawn _
  | moderate actor id action reason => exact hspawn _
  | join channel => exact hspawn _
  | run k e =>
      rw [State.step]
      cases ht : s.tasks[k]? with
      | none => exact h ch
      | some t =>
          have hstep := exec_mended U e (s.exec U e t).2 (h.before ht ch) (hwhole t ht)
            (fun j ids wipes heq => .inl (by rw [heq, State.exec])) fun channel heq => by
              rw [heq, State.exec]
          have hset := hstep.after ht
          rw [← exec_tasks U e s t] at hset
          exact hset
  | fail k =>
      rw [State.step]
      cases ht : s.tasks[k]? with
      | none => exact h ch
      | some t => exact (fail_mended (h.before ht ch) (hwhole t ht)).after ht
  | lose k e =>
      rw [State.step]
      cases ht : s.tasks[k]? with
      | none => exact h ch
      | some t =>
          obtain ⟨hlands, hleaves⟩ := hwhole t ht
          have hstep := exec_mended U e t.lost (h.before ht ch) hlands
            (fun _ _ _ _ => .inr hleaves) fun channel heq => by
              subst heq
              rfl
          have hset := hstep.after ht
          rw [← exec_tasks U e s t] at hset
          exact hset

/-! ### Runs -/

/-- A finished task removes nothing. -/
lemma Task.not_removes {t : Task} (h : t.finished) (ch : String) :
    (∀ id, ¬ t.Forgets ch id) ∧ ¬ t.Unorders ch := by
  cases t with
  | forget _ _ | delOrder _ => cases h
  | _ => exact ⟨fun _ => not_false, not_false⟩

/-- From paired keys and any tasks, a run of whole moves ends with paired keys once all tasks have
finished. -/
theorem paired_of_along (U : Unicode) {s : State} (hs : ∀ ch, (s.cache ch).Paired) {as : List Act}
    (h : Along (State.step U) State.Whole s as)
    (hdone : ∀ t ∈ (final (State.step U) s as).tasks, t.finished) (ch : String) :
    ((final (State.step U) s as).cache ch).Paired := by
  have hmended : (final (State.step U) s as).Mended :=
    h.invariant (I := State.Mended) (fun _ _ hm hw => mended_step U hm hw)
      fun ch => .of_paired (hs ch)
  refine (hmended ch).paired ?_ ?_
  · rintro id ⟨t, ht, hforgets⟩
    exact (Task.not_removes (hdone t ht) ch).1 id hforgets
  · rintro ⟨t, ht, hunorders⟩
    exact (Task.not_removes (hdone t ht) ch).2 hunorders

/-- A channel with one message. -/
def quotedHall : Database :=
  { hall with messages :=
      [{ id := 21, channelId := 7, username := "ada", text := "hi", createdAt := 10,
         ownerSession := 5 }] }

lemma paired_quotedHall (ch : String) : (({ db := quotedHall } : State).cache ch).Paired :=
  fun _ => iff_of_false (by simp [Cache.HasPayload]) (by simp [Cache.HasEntry, SortedSet.empty])

/-- A moderator restores the message, and then its author edits it. -/
def restoredThenEdited : List Act :=
  .moderate 1 21 .restore none :: runs 5 0 11 0 ++
    .change (.edit "main" 21 5 "ho") :: runs 4 1 12 0

lemma whole_restoredThenEdited :
    Along (State.step .ascii) State.Whole { db := quotedHall } restoredThenEdited := by
  have hrefresh : Along (State.step .ascii) State.Whole { db := quotedHall }
      (.moderate 1 21 .restore none :: runs 5 0 11 0) := by
    refine ⟨trivial, ?_, ?_, ?_, ?_, ?_, trivial⟩ <;> rintro t ⟨⟩
    iterate 4 trivial
    -- the order is deleted: the payloads are gone
    exact fun id hid => absurd hid Cache.not_hasPayload_delMessages
  refine (along_append _ _ _ _).mpr ⟨hrefresh, trivial, ?_, ?_, ?_, ?_, trivial⟩ <;>
    rintro t ⟨⟩ <;> trivial

/-- One after the other the two requests leave a pair. -/
theorem restored_reworded :
    (∀ t ∈ (final (State.step .ascii) { db := quotedHall } restoredThenEdited).tasks,
      t.finished) ∧
    ((final (State.step .ascii) { db := quotedHall } restoredThenEdited).cache
      "main").HasPayload 21 ∧
    ((final (State.step .ascii) { db := quotedHall } restoredThenEdited).cache "main").Paired := by
  have hdone : ∀ t ∈ (final (State.step .ascii) { db := quotedHall } restoredThenEdited).tasks,
      t.finished := by decide +kernel
  have hpayload : ((final (State.step .ascii) { db := quotedHall } restoredThenEdited).cache
      "main").HasPayload 21 := by decide +kernel
  exact ⟨hdone, hpayload,
    paired_of_along .ascii paired_quotedHall whole_restoredThenEdited hdone "main"⟩

/-- The edit is cached between the two deletions of the refresh. -/
def overtaken : List Act :=
  .moderate 1 21 .restore none :: runs 4 0 11 0 ++
    .change (.edit "main" 21 5 "ho") :: runs 2 1 12 0 ++
    .run 0 { now := 12, id := 0 } :: runs 2 1 12 0

/-- The edit keeps its payload and has no entry in the order. -/
theorem refresh_tears :
    (∀ ch, (({ db := quotedHall } : State).cache ch).Paired) ∧
    (∀ t ∈ (final (State.step .ascii) { db := quotedHall } overtaken).tasks, t.finished) ∧
    ¬ ((final (State.step .ascii) { db := quotedHall } overtaken).cache "main").Paired := by
  refine ⟨paired_quotedHall, by decide +kernel, fun hpaired => ?_⟩
  have hpayload : ((final (State.step .ascii) { db := quotedHall } overtaken).cache
      "main").HasPayload 21 := by decide +kernel
  have hentry : ¬ ((final (State.step .ascii) { db := quotedHall } overtaken).cache
      "main").HasEntry 21 := by decide +kernel
  exact hentry ((hpaired 21).mp hpayload)

end Vussa.Flow
