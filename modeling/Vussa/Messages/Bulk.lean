import Vussa.Rooms.Routing

/-!
Many moderations in one request (`admin_bulk_moderate`), against one request for each message
(`admin_moderate_message`). The bulk request skips the messages that its action would not change,
writes the others in one transaction and refreshes the caches and the sockets at its end; the single
requests do so one after the other. The audit rows of the bulk request carry a mark that the others
lack.

* `moderated`, `refreshed`: what one moderation does to the tables, and what its refresh does;
* `auditRows`, `withAudit`: the audit rows of some moderations, and a state with other ones;
* `bulkModerate_eq`, `changed_spec`: the transaction, and the messages it changes;
* `moderatedView?_moderated`: the refresh of a message does not see the others' moderation;
* `bulk_eq_each`: **a bulk request does what the single requests on the messages it changes do**, up
  to the mark.
-/

namespace Vussa.Rooms

open Effect

/-- `admin_moderate_message` for each message in turn. -/
def moderateEach (actor : AuthUser) (action : Moderation) (reason : Option String) :
    List Uuid → App Unit
  | [] => pure ⟨⟩
  | id :: ids => do
      adminModerate actor id action reason
      moderateEach actor action reason ids

/-- The metadata of a moderation's audit row. -/
def moderationMetadata (bulk : Bool) (reason : Option String) : List (String × AuditValue) :=
  ("reason", .ofText? reason) :: if bulk then [("bulk", .flag true)] else []

/-- A state with other audit rows. -/
def withAudit (s : Shared) (rows : List AuditRow) : Shared :=
  s.setDb { s.db with auditEvents := rows }

/-- Every message is in a channel. -/
def Housed (db : Database) : Prop :=
  ∀ m ∈ db.messages, ∃ c ∈ db.channels, c.id = m.channelId

section Bulk

variable (bulk : Bool) (actor : AuthUser) (action : Moderation) (reason : Option String)
  (now : Millis)

/-- The tables after a moderation, with its audit row. -/
def moderated (db : Database) (id : Uuid) : Database :=
  (db.updateMessage id (MessageRow.moderate now actor.id reason action)).recordAudit actor.id
    action.audit "message" id (moderationMetadata bulk reason) now

/-- The audit rows of some moderations. -/
def auditRows (ids : List Uuid) : List AuditRow :=
  ids.map fun id =>
    { actor := some actor.id, action := action.audit, targetType := "message", targetId := id,
      metadata := moderationMetadata bulk reason, createdAt := now }

/-- The refresh of a message. -/
def refreshed (s : Shared) (id : Uuid) : Shared :=
  match moderatedView? s.db id with
  | none => s
  | some message =>
      { s.setBackend (s.setHistory message.channel .empty) with
        published := s.published ++ [(message.channel, .messageUpdated message)] }

/-- One moderation with its refresh. -/
def moderatedOne (s : Shared) (id : Uuid) : Shared :=
  refreshed (s.setDb (moderated false actor action reason now s.db id)) id

variable {bulk actor action reason now} {db : Database} {s : Shared} {id other : Uuid}
  {ids : List Uuid}

/-! ### The tables -/

lemma messages_moderated : (moderated bulk actor action reason now db id).messages =
    db.messages.map fun m => if m.id = id then m.moderate now actor.id reason action else m := rfl

lemma moderate_id (m : MessageRow) : (m.moderate now actor.id reason action).id = m.id := by
  cases action <;> rfl

lemma moderate_channelId (m : MessageRow) :
    (m.moderate now actor.id reason action).channelId = m.channelId := by
  cases action <;> rfl

lemma moderate_rootMessageId (m : MessageRow) :
    (m.moderate now actor.id reason action).rootMessageId = m.rootMessageId := by
  cases action <;> rfl

/-- A message that was moderated is not moderated again. -/
lemma not_applies_moderate (m : MessageRow) :
    ¬ Applies action (m.moderate now actor.id reason action) := by
  cases action with
  | delete => exact Option.some_ne_none _
  | restore => exact not_not_intro rfl

lemma Housed.moderated (h : Housed db) : Housed (moderated bulk actor action reason now db id) := by
  intro m hm
  rw [messages_moderated] at hm
  obtain ⟨r, hr, rfl⟩ := List.mem_map.mp hm
  obtain ⟨c, hc, hid⟩ := h r hr
  refine ⟨c, hc, hid.trans ?_⟩
  rw [apply_ite MessageRow.channelId, moderate_channelId, ite_self]

/-- Which messages the action still applies to after a moderation. -/
lemma exists_applies_moderated :
    (∃ m ∈ (moderated bulk actor action reason now db id).messages, m.id = other ∧ Applies action m) ↔
      other ≠ id ∧ ∃ m ∈ db.messages, m.id = other ∧ Applies action m := by
  rw [messages_moderated]
  constructor
  · rintro ⟨m, hm, hid, happlies⟩
    obtain ⟨r, hr, rfl⟩ := List.mem_map.mp hm
    split_ifs at hid happlies with hrow
    · exact absurd happlies (not_applies_moderate r)
    · exact ⟨fun heq => hrow (hid.trans heq), r, hr, hid, happlies⟩
  · rintro ⟨hne, m, hm, rfl, happlies⟩
    refine ⟨m, List.mem_map.mpr ⟨m, hm, if_neg hne⟩, rfl, happlies⟩

/-- The transaction of the bulk request is a moderation for each message it changes. -/
lemma bulkModerate_eq (ids : List Uuid) (db : Database) :
    (bulkModerate actor action reason now ids db).1 =
      (bulkModerate actor action reason now ids db).2.foldl (moderated true actor action reason now)
        db := by
  induction ids generalizing db with
  | nil => rfl
  | cons id ids ih =>
      rw [bulkModerate]
      split_ifs
      · exact ih _
      · exact ih db

/-- **The messages a bulk request changes**: each once, in the order of the request. -/
lemma changed_spec (ids : List Uuid) (db : Database) :
    (bulkModerate actor action reason now ids db).2.Nodup ∧
      (bulkModerate actor action reason now ids db).2.Sublist ids ∧
        ∀ id, id ∈ (bulkModerate actor action reason now ids db).2 ↔
          id ∈ ids ∧ ∃ m ∈ db.messages, m.id = id ∧ Applies action m := by
  induction ids generalizing db with
  | nil => exact ⟨List.nodup_nil, List.Sublist.refl _, fun id => by simp [bulkModerate]⟩
  | cons first ids ih =>
      rw [bulkModerate]
      split_ifs with happlies
      · obtain ⟨hnodup, hsub, hmem⟩ := ih (moderated true actor action reason now db first)
        refine ⟨List.nodup_cons.mpr ⟨fun hfirst => ?_, hnodup⟩, hsub.cons_cons first, fun id => ?_⟩
        · exact (exists_applies_moderated.mp ((hmem first).mp hfirst).2).1 rfl
        · change id ∈ first :: (bulkModerate actor action reason now ids
            (moderated true actor action reason now db first)).2 ↔ _
          rw [List.mem_cons, hmem, exists_applies_moderated, List.mem_cons]
          by_cases hid : id = first
          · subst hid
            exact ⟨fun _ => ⟨.inl rfl, happlies⟩, fun _ => .inl rfl⟩
          · simp only [hid, false_or, ne_eq, not_false_eq_true, true_and]
      · obtain ⟨hnodup, hsub, hmem⟩ := ih db
        refine ⟨hnodup, hsub.cons first, fun id => ?_⟩
        rw [hmem, List.mem_cons]
        constructor
        · exact fun h => ⟨.inr h.1, h.2⟩
        · rintro ⟨rfl | hid, happlied⟩
          · exact absurd happlied happlies
          · exact ⟨hid, happlied⟩

/-- The tables after some moderations, but for the audit rows, whether these carry the mark. -/
lemma foldl_moderated (ids : List Uuid) (db : Database) (rows : List AuditRow) :
    ids.foldl (moderated bulk actor action reason now) { db with auditEvents := rows } =
      { ids.foldl (moderated false actor action reason now) db with
        auditEvents := rows ++ auditRows bulk actor action reason now ids } := by
  induction ids generalizing db rows with
  | nil => rw [auditRows, List.map_nil, List.append_nil]; rfl
  | cons id ids ih =>
      have hrest := ih (moderated false actor action reason now db id)
        (rows ++ auditRows bulk actor action reason now [id])
      rw [List.append_assoc] at hrest
      exact hrest

/-- The audit rows after some moderations. -/
lemma auditEvents_foldl_moderated (ids : List Uuid) (db : Database) :
    (ids.foldl (moderated bulk actor action reason now) db).auditEvents =
      db.auditEvents ++ auditRows bulk actor action reason now ids :=
  congrArg Database.auditEvents (foldl_moderated ids db db.auditEvents)

/-! ### The refreshes -/

lemma replyCount_moderated :
    (moderated bulk actor action reason now db id).replyCount other = db.replyCount other := by
  have hroot : ((fun r : MessageRow => decide (r.rootMessageId = some other)) ∘ fun m =>
      if m.id = id then m.moderate now actor.id reason action else m) =
        fun r => decide (r.rootMessageId = some other) := by
    funext m
    rw [Function.comp_apply, apply_ite MessageRow.rootMessageId, moderate_rootMessageId, ite_self]
  rw [Database.replyCount, messages_moderated, List.filter_map, hroot, List.length_map]
  rfl

lemma view_moderated (name : String) (m : MessageRow) :
    (moderated bulk actor action reason now db id).view name m = db.view name m := by
  rw [Database.view, replyCount_moderated]
  rfl

/-- **The refresh of a message does not see the moderation of another one.** -/
lemma moderatedView?_moderated (hne : other ≠ id) :
    moderatedView? (moderated bulk actor action reason now db id) other = moderatedView? db other := by
  have hfind : (moderated bulk actor action reason now db id).messages.find? (fun m => m.id = other) =
      db.messages.find? fun m => m.id = other := by
    have hsame : ((fun m : MessageRow => decide (m.id = other)) ∘ fun m =>
        if m.id = id then m.moderate now actor.id reason action else m) =
          fun m => decide (m.id = other) := by
      funext m
      rw [Function.comp_apply, apply_ite MessageRow.id, moderate_id, ite_self]
    rw [messages_moderated, List.find?_map, hsame]
    cases hrow : db.messages.find? fun m => m.id = other with
    | none => rfl
    | some m =>
        have hid : m.id = other := by simpa using List.find?_some hrow
        rw [Option.map_some, if_neg fun heq => hne (hid.symm.trans heq)]
  rw [moderatedView?, moderatedView?, hfind]
  simp only [view_moderated]
  rfl

@[simp] lemma refreshed_db : (refreshed s id).db = s.db := by
  rw [refreshed]
  split <;> rfl

@[simp] lemma refreshed_now : (refreshed s id).now = s.now := by
  rw [refreshed]
  split <;> rfl

lemma moderatedOne_db : (moderatedOne actor action reason now s id).db =
    moderated false actor action reason now s.db id := refreshed_db

lemma refreshed_moderated (hne : other ≠ id) :
    refreshed (s.setDb (moderated bulk actor action reason now s.db id)) other =
      (refreshed s other).setDb (moderated bulk actor action reason now s.db id) := by
  rw [refreshed, Shared.setDb_db, moderatedView?_moderated hne, refreshed]
  cases moderatedView? s.db other <;> rfl

/-- A refresh may come before the moderation of the others. -/
lemma refreshed_foldl (h : other ∉ ids) :
    refreshed (s.setDb (ids.foldl (moderated bulk actor action reason now) s.db)) other =
      (refreshed s other).setDb (ids.foldl (moderated bulk actor action reason now) s.db) := by
  induction ids generalizing s with
  | nil =>
      rw [List.foldl_nil]
      calc refreshed (s.setDb s.db) other
          = (refreshed s other).setDb (refreshed s other).db := rfl
        _ = (refreshed s other).setDb s.db := by rw [refreshed_db]
  | cons id ids ih =>
      rw [List.mem_cons, not_or] at h
      have hrest := ih (s := s.setDb (moderated bulk actor action reason now s.db id)) h.2
      rw [refreshed_moderated h.1] at hrest
      exact hrest

/-- **One after the other, or at once**: the moderations with their refreshes are the moderations and
then the refreshes. -/
lemma foldl_moderatedOne (h : ids.Nodup) :
    ids.foldl (moderatedOne actor action reason now) s =
      ids.foldl refreshed (s.setDb (ids.foldl (moderated false actor action reason now) s.db)) := by
  induction ids generalizing s with
  | nil => rfl
  | cons id ids ih =>
      obtain ⟨hid, hnodup⟩ := List.nodup_cons.mp h
      rw [List.foldl_cons, ih hnodup, moderatedOne_db, moderatedOne]
      have hrest : refreshed ((s.setDb (moderated false actor action reason now s.db id)).setDb
          (ids.foldl (moderated false actor action reason now)
            (moderated false actor action reason now s.db id))) id = _ :=
        refreshed_foldl (s := s.setDb (moderated false actor action reason now s.db id)) hid
      rw [Shared.setDb_db] at hrest
      rw [← hrest]
      rfl

/-- A refresh does not look at the audit rows. -/
lemma refreshed_withAudit (s : Shared) (rows : List AuditRow) (id : Uuid) :
    refreshed (withAudit s rows) id = withAudit (refreshed s id) rows := by
  have hview : moderatedView? (withAudit s rows).db id = moderatedView? s.db id := rfl
  rw [refreshed, hview, refreshed]
  cases moderatedView? s.db id <;> rfl

lemma foldl_refreshed_withAudit (ids : List Uuid) (s : Shared) (rows : List AuditRow) :
    ids.foldl refreshed (withAudit s rows) = withAudit (ids.foldl refreshed s) rows := by
  induction ids generalizing s with
  | nil => rfl
  | cons id ids ih => rw [List.foldl_cons, refreshed_withAudit, ih, List.foldl_cons]

lemma foldl_refreshed_db (ids : List Uuid) (s : Shared) : (ids.foldl refreshed s).db = s.db := by
  induction ids generalizing s with
  | nil => rfl
  | cons id ids ih => rw [List.foldl_cons, ih, refreshed_db]

/-! ### The requests -/

lemma run_refreshModeratedMessage (s : Shared) (id : Uuid) :
    (refreshModeratedMessage id).run s = .ok ⟨⟩ (refreshed s id) := by
  rw [refreshModeratedMessage, run_bind, run_read, refreshed]
  dsimp only
  cases moderatedView? s.db id <;> rfl

lemma run_refreshModerated (s : Shared) (ids : List Uuid) :
    (refreshModerated ids).run s = .ok ⟨⟩ (ids.foldl refreshed s) := by
  induction ids generalizing s with
  | nil => rfl
  | cons id ids ih =>
      rw [refreshModerated, run_bind, run_refreshModeratedMessage]
      exact ih (refreshed s id)

/-- A single request for a message that is there. -/
lemma run_adminModerate (hperm : requirePermission actor .moderationWrite = .ok ⟨⟩)
    (hhoused : Housed s.db) (hrow : ∃ m ∈ s.db.messages, m.id = id) :
    (adminModerate actor id action reason).run s =
      .ok ⟨⟩ (moderatedOne actor action reason s.now s id) := by
  obtain ⟨m, hm, hid⟩ := hrow
  have hsingle : adminModerateMessage s.db s.now actor.id id action reason =
      .ok (moderated false actor action reason s.now s.db id) :=
    if_pos ⟨m, hm, hid, hhoused m hm⟩
  have hmoderate : s.toBackend.moderateMessage actor.id id action reason =
      .ok (match moderatedView? (moderated false actor action reason s.now s.db id) id with
        | none => ({ s.toBackend with db := moderated false actor action reason s.now s.db id }, none)
        | some message =>
            ({ s.toBackend with db := moderated false actor action reason s.now s.db id }.setHistory
              message.channel .empty, some message)) := by
    rw [Backend.moderateMessage, hsingle]
    rfl
  rw [adminModerate, run_bind, check, run_read, hperm]
  dsimp only
  rw [run_bind, repository, run_transact, hmoderate, moderatedOne, refreshed, Shared.setDb_db]
  cases moderatedView? (moderated false actor action reason s.now s.db id) id <;> rfl

/-- The single requests for messages that are there. -/
lemma run_moderateEach (hperm : requirePermission actor .moderationWrite = .ok ⟨⟩)
    (hhoused : Housed s.db) (hrows : ∀ id ∈ ids, ∃ m ∈ s.db.messages, m.id = id) :
    (moderateEach actor action reason ids).run s =
      .ok ⟨⟩ (ids.foldl (moderatedOne actor action reason s.now) s) := by
  induction ids generalizing s with
  | nil => rfl
  | cons id ids ih =>
      have hnow : (moderatedOne actor action reason s.now s id).now = s.now := refreshed_now
      have hrest := ih (s := moderatedOne actor action reason s.now s id)
        (by rw [moderatedOne_db]; exact hhoused.moderated) fun other hother => by
          obtain ⟨m, hm, hid⟩ := hrows other (List.mem_cons_of_mem id hother)
          rw [moderatedOne_db, messages_moderated]
          refine ⟨_, List.mem_map_of_mem hm, ?_⟩
          rw [apply_ite MessageRow.id, moderate_id, ite_self, hid]
      rw [moderateEach, run_bind, run_adminModerate hperm hhoused (hrows id List.mem_cons_self)]
      dsimp only
      rw [hrest, hnow]
      rfl

/-- **Bulk moderation**: a bulk request that succeeds leaves the tables, the caches and the
publications, in their order, that the single requests leave on the messages that its action applied
to: each of them once, in the order of the request. Its audit rows are theirs with the mark. -/
theorem bulk_eq_each {s s' : Shared} (hhoused : Housed s.db) {actor : AuthUser} {ids : List Uuid}
    {action : Moderation} {reason : Option String}
    (h : (adminBulkModerate actor ids action reason).run s = .ok ⟨⟩ s') :
    ∃ (changed : List Uuid) (s₁ : Shared), changed.Nodup ∧ changed.Sublist ids ∧
      (∀ id, id ∈ changed ↔ id ∈ ids ∧ ∃ m ∈ s.db.messages, m.id = id ∧ Applies action m) ∧
      (moderateEach actor action reason changed).run s = .ok ⟨⟩ s₁ ∧
      s₁.db.auditEvents = s.db.auditEvents ++ auditRows false actor action reason s.now changed ∧
      s' = withAudit s₁
        (s.db.auditEvents ++ auditRows true actor action reason s.now changed) := by
  obtain ⟨_, s1, hfirst, hcounted⟩ := bind_run_ok h
  obtain ⟨hperm, rfl⟩ := read_run_ok hfirst
  obtain ⟨_, s2, hcount, htransaction⟩ := bind_run_ok hcounted
  obtain ⟨-, rfl⟩ := read_run_ok hcount
  obtain ⟨changed, s3, hbulk, hrefresh⟩ := bind_run_ok htransaction
  obtain ⟨db, hdb, rfl⟩ := transaction_run_ok hbulk
  have hpair : bulkModerate actor action reason s2.now ids s2.db = (db, changed) :=
    Except.ok.inj hdb
  obtain ⟨hnodup, hsub, hmem⟩ := @changed_spec actor action reason s2.now ids s2.db
  have htables := @bulkModerate_eq actor action reason s2.now ids s2.db
  rw [hpair] at hnodup hsub hmem htables
  have hrows : ∀ id ∈ changed, ∃ m ∈ s2.db.messages, m.id = id := by
    intro id hid
    obtain ⟨-, m, hm, hmid, -⟩ := (hmem id).mp hid
    exact ⟨m, hm, hmid⟩
  have heach : (moderateEach actor action reason changed).run s2 = _ :=
    run_moderateEach hperm hhoused hrows
  rw [foldl_moderatedOne hnodup] at heach
  refine ⟨changed, _, hnodup, hsub, hmem, heach, ?_, ?_⟩
  · rw [foldl_refreshed_db, Shared.setDb_db, auditEvents_foldl_moderated]
  · -- the tables of the bulk request, as those of the single ones with other audit rows
    rw [run_refreshModerated] at hrefresh
    injection hrefresh with hunit hstate
    have hmarked : db = { changed.foldl (moderated false actor action reason s2.now) s2.db with
        auditEvents := s2.db.auditEvents ++ auditRows true actor action reason s2.now changed } :=
      htables.trans (foldl_moderated changed s2.db s2.db.auditEvents)
    rw [← hstate, ← foldl_refreshed_withAudit, hmarked]
    rfl

end Bulk

/-- A channel with a message, its reply and a deleted message. -/
def busyRoom : Database where
  channels := [{ id := 1, name := mainChannel, createdAt := 0 }]
  messages :=
    [{ id := 10, channelId := 1, username := "ada", text := "one", createdAt := 1,
       ownerSession := 7 },
      { id := 11, channelId := 1, username := "bob", text := "two", createdAt := 2,
        ownerSession := 8, rootMessageId := some 10 },
      { id := 12, channelId := 1, username := "ada", text := "three", createdAt := 3,
        ownerSession := 7, deletedAt := some 4 }]

/-- A moderator. -/
def moderator : AuthUser :=
  { id := 2, email := "", username := "boss", roles := [], permissions := [.moderationWrite] }

/-- The request names a message twice, one that is deleted and one that does not exist. -/
def sweep : App Unit := adminBulkModerate moderator [11, 10, 11, 12, 13] .delete none

/-- The state before the sweep. -/
def beforeSweep : Shared := { db := busyRoom, now := 5 }

theorem bulk_eq_each_sweep : ∃ (changed : List Uuid) (s₁ : Shared), changed.Nodup ∧
    changed.Sublist [11, 10, 11, 12, 13] ∧
      (∀ id, id ∈ changed ↔ id ∈ [11, 10, 11, 12, 13] ∧
        ∃ m ∈ beforeSweep.db.messages, m.id = id ∧ Applies .delete m) ∧
      (moderateEach moderator .delete none changed).run beforeSweep = .ok ⟨⟩ s₁ ∧
      s₁.db.auditEvents = auditRows false moderator .delete none 5 changed ∧
      after sweep beforeSweep = withAudit s₁ (auditRows true moderator .delete none 5 changed) := by
  have hhoused : Housed beforeSweep.db := by
    intro m hm
    refine ⟨_, List.mem_singleton_self _, ?_⟩
    revert m
    decide +kernel
  exact bulk_eq_each hhoused (by rfl)

end Vussa.Rooms
