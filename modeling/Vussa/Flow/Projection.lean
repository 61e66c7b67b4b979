import Vussa.Flow.Pairs
import Vussa.Messages.View

/-!
The payloads of the caches against the tables, while edits, deletions, moderations and hydrations
run side by side. A commit and the cache write that follows it are separate steps, and no write
asks whether the tables have moved on.

* `projection?`: what the reading queries select for a message;
* `State.Projected`: every payload is the projection of its message;
* `Task.Clears`, `Task.Mends`: a task that takes a payload away yet, or writes the right one;
* `State.Ordered`: the moves that leave no payload behind the tables;
* `projected_of_along`: **in a run of ordered moves every payload is the projection of its message
  once all tasks have finished**;
* `staleHydration_revives`: a hydration that read before a deletion and writes after it.
-/

namespace Vussa.Flow

open Run SortedSet

/-! ### Projections -/

/-- What the reading queries select for the message under a channel name. -/
def projection? (db : Database) (ch : String) (id : Uuid) : Option ChatMessage :=
  (db.messageIn? ch id).map fun cm => db.view cm.1.name cm.2

lemma projection?_some {db : Database} {ch : String} {id : Uuid} {x : ChatMessage}
    (h : projection? db ch id = some x) :
    ∃ c m, db.messageIn? ch id = some (c, m) ∧ c.name = ch ∧ x = db.view ch m := by
  obtain ⟨⟨c, m⟩, hin, rfl⟩ := Option.map_eq_some_iff.mp h
  have hname : c.name = ch := (Database.liveChannel?_some (Database.messageIn?_some hin).1).2.1
  exact ⟨c, m, hin, hname, by rw [hname]⟩

section Rewriting

variable {db : Database} {i : Uuid} {f : MessageRow → MessageRow} (hf : MessageRow.Placed f)
  (audit : List AuditRow) (ch : String) (id : Uuid)

include hf

lemma projection?_rewritten :
    projection? { db.updateMessage i f with auditEvents := audit } ch id =
      (db.messageIn? ch id).map fun cm =>
        db.view cm.1.name (if cm.2.id = i then f cm.2 else cm.2) := by
  have hin : Database.messageIn? { db.updateMessage i f with auditEvents := audit } ch id
      = (db.updateMessage i f).messageIn? ch id := rfl
  rw [projection?, hin, messageIn?_updateMessage_eq db i hf, Option.map_map]
  congr 1
  funext cm
  exact view_updateMessage db i hf _ _

/-- The messages under other identifiers and names keep their projection. -/
lemma projection?_kept (h : id = i → db.messageIn? ch id = none) :
    projection? { db.updateMessage i f with auditEvents := audit } ch id
      = projection? db ch id := by
  rw [projection?_rewritten hf, projection?]
  cases hin : db.messageIn? ch id with
  | none => rfl
  | some cm =>
      have hid : cm.2.id ≠ i := by
        rw [(Database.messageIn?_some hin).2.2.1]
        intro heq
        rw [h heq] at hin
        cases hin
      rw [Option.map_some, Option.map_some, if_neg hid]

lemma projection?_moved {c : ChannelRow} {m : MessageRow}
    (hin : db.messageIn? ch i = some (c, m)) :
    projection? { db.updateMessage i f with auditEvents := audit } ch i
      = some (db.view c.name (f m)) := by
  rw [projection?_rewritten hf, hin, Option.map_some, if_pos (Database.messageIn?_some hin).2.2.1]

end Rewriting

lemma isSome_projection?_rewritten (db : Database) (i : Uuid) {f : MessageRow → MessageRow}
    (hf : MessageRow.Placed f) (audit : List AuditRow) (ch : String) (id : Uuid) :
    (projection? { db.updateMessage i f with auditEvents := audit } ch id).isSome
      = (projection? db ch id).isSome := by
  rw [projection?_rewritten hf, projection?, Option.isSome_map, Option.isSome_map]


/-- The refresh of a moderated message selects the projection. -/
lemma moderatedView?_of_projection? {db : Database} (hwf : db.WellFormed) {ch : String} {id : Uuid}
    {x : ChatMessage} (h : projection? db ch id = some x) :
    moderatedView? db id = some x ∧ x.channel = ch := by
  obtain ⟨c, m, hin, hname, rfl⟩ := projection?_some h
  obtain ⟨hlive, hm, hid, hchannel⟩ := Database.messageIn?_some hin
  obtain ⟨hc, -, hdeleted⟩ := Database.liveChannel?_some hlive
  have hrow : (db.messages.find? fun m => m.id = id) = some m := by
    cases hfind : db.messages.find? fun m => m.id = id with
    | none => exact absurd (decide_eq_true hid) (List.find?_eq_none.mp hfind m hm)
    | some m' =>
        have hid' := List.find?_some hfind
        have hm' := List.mem_of_find?_eq_some hfind
        rw [hwf.eq_of_id hm' hm ((of_decide_eq_true hid').trans hid.symm)]
  have hchan : (db.channels.find? fun c => c.id = m.channelId ∧ c.deletedAt = none) = some c := by
    cases hfind : db.channels.find? fun c => c.id = m.channelId ∧ c.deletedAt = none with
    | none =>
        have hnone := List.find?_eq_none.mp hfind c hc
        exact absurd (decide_eq_true ⟨hchannel.symm, hdeleted⟩) hnone
    | some c' =>
        have hc' := List.find?_some hfind
        have hmem := List.mem_of_find?_eq_some hfind
        have heq : c'.id = c.id := (of_decide_eq_true hc').1.trans hchannel
        rw [List.inj_on_of_nodup_map hwf.channelId hmem hc heq]
  refine ⟨?_, rfl⟩
  rw [moderatedView?, hrow, Option.bind_some, hchan, Option.map_some, hname]

/-- A message is found under one name. -/
lemma messageIn?_name_unique {db : Database} (hwf : db.WellFormed) {ch ch' : String} {id : Uuid}
    {c c' : ChannelRow} {m m' : MessageRow} (h : db.messageIn? ch id = some (c, m))
    (h' : db.messageIn? ch' id = some (c', m')) : ch = ch' := by
  obtain ⟨hlive, hm, hid, hchannel⟩ := Database.messageIn?_some h
  obtain ⟨hlive', hm', hid', hchannel'⟩ := Database.messageIn?_some h'
  obtain rfl := hwf.eq_of_id hm hm' (hid.trans hid'.symm)
  exact Database.liveChannel?_name_unique hwf hlive hlive' (hchannel.symm.trans hchannel')

/-- Every other pair of name and identifier keeps its projection. -/
lemma projection?_elsewhere {db : Database} (hwf : db.WellFormed) {f : MessageRow → MessageRow}
    (hf : MessageRow.Placed f) (audit : List AuditRow) {ch ch' : String} {id i : Uuid}
    {c : ChannelRow} {m : MessageRow} (hin : db.messageIn? ch' i = some (c, m))
    (h : ¬ (id = i ∧ ch = ch')) :
    projection? { db.updateMessage i f with auditEvents := audit } ch id
      = projection? db ch id := by
  refine projection?_kept hf audit ch id fun hid => ?_
  cases hin' : db.messageIn? ch id with
  | none => rfl
  | some cm =>
      subst hid
      exact absurd ⟨rfl, messageIn?_name_unique hwf hin' hin⟩ h

/-! ### Commits -/

namespace Change

/-- The channel name of the request. -/
def channel : Change → String
  | edit channel _ _ _ | delete channel _ _ _ => channel

/-- The message of the request. -/
def id : Change → Uuid
  | edit _ id _ _ | delete _ id _ _ => id

/-- What the commit makes of the row. -/
def row (now : Millis) : Change → MessageRow → MessageRow
  | edit _ _ _ text => MessageRow.edit text
  | delete _ _ _ _ => MessageRow.delete now

/-- `edit_message` returns a deleted message as if it were not. -/
def Misleads (m : MessageRow) : Change → Prop
  | edit _ _ _ _ => m.deletedAt ≠ none
  | delete _ _ _ _ => False

instance (m : MessageRow) : ∀ change, Decidable (Misleads m change)
  | edit _ _ _ _ => inferInstanceAs (Decidable (m.deletedAt ≠ none))
  | delete _ _ _ _ => inferInstanceAs (Decidable False)

lemma placed_row (now : Millis) (change : Change) : MessageRow.Placed (change.row now) := by
  cases change with
  | edit _ _ _ text => exact MessageRow.placed_edit text
  | delete _ _ _ _ => exact MessageRow.placed_delete now

/-- A commit rewrites the row, and returns its new projection unless it misleads. -/
lemma commit_ok {db db' : Database} {now : Millis} {change : Change} {message : ChatMessage}
    (h : change.commit db now = .ok (db', message)) :
    ∃ c m, db.messageIn? change.channel change.id = some (c, m) ∧
      db' = db.updateMessage change.id (change.row now) ∧
      (¬ Misleads m change → message = db.view change.channel (change.row now m)) := by
  cases change with
  | edit channel id session text =>
      obtain ⟨c, m, hin, -, rfl, rfl⟩ := editMessage_ok h
      have hname : c.name = channel :=
        (Database.liveChannel?_some (Database.messageIn?_some hin).1).2.1
      refine ⟨c, m, hin, rfl, fun hplain => ?_⟩
      have hnone : m.deletedAt = none := not_not.mp hplain
      subst hname
      simp [Database.view, row, MessageRow.edit, Change.channel, hnone]
  | delete channel id session canModerate =>
      obtain ⟨c, m, hin, -, rfl, rfl⟩ := deleteMessage_ok h
      have hname : c.name = channel :=
        (Database.liveChannel?_some (Database.messageIn?_some hin).1).2.1
      refine ⟨c, m, hin, rfl, fun _ => ?_⟩
      subst hname
      simp [Database.view, row, MessageRow.delete, Change.channel]

end Change

/-! ### Writes to come -/

/-- The payload for an identifier is taken away before the task ends. -/
def Task.Clears (db : Database) (ch : String) (id : Uuid) : Task → Prop
  | trim j ids _ | forget j ids => j.message.channel = ch ∧ id ∈ ids
  | view i => (projection? db ch i).isSome
  | announce message => message.channel = ch
  | delMessages channel => channel = ch
  | _ => False

/-- The payload for an identifier is taken away, or overwritten with the projection. -/
def Task.Mends (db : Database) (ch : String) (id : Uuid) : Task → Prop
  | store j => j.message.channel = ch ∧ j.message.id = id ∧ projection? db ch id = some j.message
  | t => t.Clears db ch id

/-- The payload for an identifier, if there is one, is the projection. -/
def State.Current (s : State) (ch : String) (id : Uuid) : Prop :=
  ∀ r ∈ (s.cache ch).messages id, projection? s.db ch id = some r.intoMessage

/-- Every payload is the projection of its message. -/
def State.Projected (s : State) : Prop := ∀ ch id, s.Current ch id

/-- The payload is right, or a task other than the one in the place `k` mends it. -/
def State.Covered (s : State) (k : ℕ) (ch : String) (id : Uuid) : Prop :=
  s.Current ch id ∨ s.Other k (Task.Mends s.db ch id)

/-! ### Ordered moves -/

/-- A row may be rewritten without a write to the cache: it has no payload, its projection stays,
or its payload is taken away yet. -/
def State.Unseen (s : State) (k : ℕ) (ch : String) (id : Uuid) (f : MessageRow → MessageRow) :
    Prop :=
  ∀ c m, s.db.messageIn? ch id = some (c, m) →
    (s.cache ch).messages id = none ∨ s.db.view c.name (f m) = s.db.view c.name m ∨
      s.Other k (Task.Clears s.db ch id)

/-- A commit that goes on to its cache write: an edit hits no deleted message that is cached. -/
def State.Told (s : State) (k : ℕ) (e : Env) : Task → Prop
  | .change change => ∀ c m, s.db.messageIn? change.channel change.id = some (c, m) →
      change.Misleads m → s.Unseen k change.channel change.id (change.row e.now)
  | _ => True

/-- A commit whose answer is lost, so that no cache write follows. -/
def State.Untold (s : State) (k : ℕ) (e : Env) : Task → Prop
  | .change change => s.Unseen k change.channel change.id (change.row e.now)
  | .moderate actor id action reason =>
      ∀ ch, s.Unseen k ch id (MessageRow.moderate e.now actor reason action)
  | _ => True

/-- A write to the cache: what is written is still the projection, or is mended yet. -/
def State.Writes (s : State) (k : ℕ) : Task → Prop
  | .store j => projection? s.db j.message.channel j.message.id = some j.message ∨
      s.Other k (Task.Mends s.db j.message.channel j.message.id)
  | .hydrate j rows => ∀ x ∈ rows.drop (rows.length - hotHistoryLimit),
      projection? s.db j.channel x.id = some x ∨ s.Other k (Task.Mends s.db j.channel x.id)
  | _ => True

/-- The rest of a trim or of a refresh is left out. -/
def State.Drops (s : State) (k : ℕ) : Task → Prop
  | .trim j ids _ => ∀ id ∈ ids, s.Covered k j.message.channel id
  | .view i => ∀ ch, (projection? s.db ch i).isSome → ∀ id, s.Covered k ch id
  | _ => True

/-- A write or a removal fails. -/
def State.Misses (s : State) (k : ℕ) : Task → Prop
  | .store j => s.Covered k j.message.channel j.message.id
  | .forget j ids => ∀ id ∈ ids, s.Covered k j.message.channel id
  | .delMessages ch => ∀ id, s.Covered k ch id
  | t => s.Drops k t

/-- A move after which no payload is left behind the tables. -/
def State.Ordered (s : State) : Act → Prop
  | .run k e => ∀ t ∈ s.tasks[k]?, s.Told k e t ∧ s.Writes k t
  | .fail k => ∀ t ∈ s.tasks[k]?, s.Misses k t
  | .lose k e => ∀ t ∈ s.tasks[k]?, s.Untold k e t ∧ s.Writes k t ∧ s.Drops k t
  | _ => True

/-! ### Steps on the caches -/

lemma Task.Clears.mends {db : Database} {ch : String} {id : Uuid} {t : Task}
    (h : t.Clears db ch id) : t.Mends db ch id := by
  cases t with
  | store j => exact absurd h not_false
  | _ => exact h

lemma Task.Mends.clears_or {db : Database} {ch : String} {id : Uuid} {t : Task}
    (h : t.Mends db ch id) : t.Clears db ch id ∨ ∃ j, t = .store j ∧ j.message.channel = ch ∧
      j.message.id = id ∧ projection? db ch id = some j.message := by
  cases t with
  | store j => exact .inr ⟨j, rfl, h⟩
  | _ => exact .inl h

/-- The payload is right, or the task `t` in the place `k` or another one mends it. -/
def State.Held (s : State) (k : ℕ) (t : Task) (ch : String) (id : Uuid) : Prop :=
  t.Mends s.db ch id ∨ s.Covered k ch id

section Payloads

variable {s s' : State} {k : ℕ} {ch : String} {id : Uuid}

/-- A step that does not touch the payload. -/
lemma State.Covered.same (h : s.Covered k ch id) (hdb : s'.db = s.db) (htasks : s'.tasks = s.tasks)
    (hpayload : (s'.cache ch).messages id = (s.cache ch).messages id) : s'.Covered k ch id := by
  obtain hcurrent | hother := h
  · refine .inl fun r hr => ?_
    rw [hpayload] at hr
    rw [hdb]
    exact hcurrent r hr
  · right
    rw [State.Other, htasks, hdb]
    exact hother

/-- A step that takes the payload away. -/
lemma State.Covered.gone (hpayload : (s'.cache ch).messages id = none) : s'.Covered k ch id := by
  refine .inl fun r hr => ?_
  rw [hpayload] at hr
  cases hr

/-- A step that writes the payload, when this is the projection or is mended yet. -/
lemma State.Covered.written (hdb : s'.db = s.db) (htasks : s'.tasks = s.tasks) {x : ChatMessage}
    {owner : Uuid} (hpayload : (s'.cache ch).messages id = some (.fromMessage x owner))
    (h : projection? s.db ch id = some x ∨ s.Other k (Task.Mends s.db ch id)) :
    s'.Covered k ch id := by
  obtain hprojection | hother := h
  · refine .inl fun r hr => ?_
    obtain rfl := Option.some.inj (hpayload.symm.trans hr)
    rw [hdb]
    exact hprojection
  · right
    rw [State.Other, htasks, hdb]
    exact hother

variable (U : Unicode) (e : Env)

lemma store_covered {j : Job} (h : s.Held k (.store j) ch id) (hwrites : s.Writes k (.store j)) :
    (s.exec U e (.store j)).1.Covered k ch id := by
  by_cases hch : j.message.channel = ch
  · subst hch
    have hcache : (s.exec U e (.store j)).1.cache j.message.channel
        = (s.cache j.message.channel).store (.fromMessage j.message j.owner) :=
      Function.update_self ..
    by_cases hid : j.message.id = id
    · subst hid
      have hpayload : ((s.exec U e (.store j)).1.cache j.message.channel).messages j.message.id
          = some (.fromMessage j.message j.owner) := by
        rw [hcache]
        exact Function.update_self ..
      exact .written (s := s) rfl rfl hpayload hwrites
    · refine State.Covered.same (h.resolve_left fun hthis => hid hthis.2.1) rfl rfl ?_
      rw [hcache]
      exact Function.update_of_ne (Ne.symm hid) ..
  · refine State.Covered.same (h.resolve_left fun hthis => hch hthis.1) rfl rfl ?_
    exact congrArg (fun c => Cache.messages c id) (Function.update_of_ne (Ne.symm hch) ..)

lemma hydrate_covered {j : Join} {rows : List ChatMessage} (h : s.Held k (.hydrate j rows) ch id)
    (hwrites : s.Writes k (.hydrate j rows)) :
    (s.exec U e (.hydrate j rows)).1.Covered k ch id := by
  have hpre := h.resolve_left not_false
  obtain ⟨rfl, heq⟩ | heq := setCache_cases s j.channel ch
    ((s.cache j.channel).hydrate (rows.drop (rows.length - hotHistoryLimit)))
  · obtain hsame | ⟨x, hx, rfl, hwritten⟩ := (s.cache j.channel).hydrate_messages_cases
      (rows.drop (rows.length - hotHistoryLimit)) id
    · exact hpre.same rfl rfl ((congrArg (fun c => Cache.messages c id) heq).trans hsame)
    · exact .written rfl rfl ((congrArg (fun c => Cache.messages c x.id) heq).trans hwritten)
        (hwrites x hx)
  · exact hpre.same rfl rfl (congrArg (fun c => Cache.messages c id) heq)

lemma forget_covered {j : Job} {ids : List Uuid} (h : s.Held k (.forget j ids) ch id) :
    (s.exec U e (.forget j ids)).1.Covered k ch id := by
  by_cases hch : j.message.channel = ch
  · subst hch
    have hcache : (s.exec U e (.forget j ids)).1.cache j.message.channel
        = (s.cache j.message.channel).hdel ids := Function.update_self ..
    by_cases hid : id ∈ ids
    · refine .gone ?_
      rw [hcache]
      exact if_pos hid
    · refine State.Covered.same (h.resolve_left fun hthis => hid hthis.2) rfl rfl ?_
      rw [hcache]
      exact if_neg hid
  · refine State.Covered.same (h.resolve_left fun hthis => hch hthis.1) rfl rfl ?_
    exact congrArg (fun c => Cache.messages c id) (Function.update_of_ne (Ne.symm hch) ..)

lemma delMessages_covered {channel : String} (h : s.Held k (.delMessages channel) ch id) :
    (s.exec U e (.delMessages channel)).1.Covered k ch id := by
  by_cases hch : channel = ch
  · subst hch
    have hcache : (s.exec U e (.delMessages channel)).1.cache channel
        = (s.cache channel).delMessages := Function.update_self ..
    refine .gone ?_
    rw [hcache]
    rfl
  · refine State.Covered.same (h.resolve_left hch) rfl rfl ?_
    exact congrArg (fun c => Cache.messages c id) (Function.update_of_ne (Ne.symm hch) ..)

/-- The removals from the order leave the payloads. -/
lemma setCache_messages {channel : String} {c : Cache}
    (hc : c.messages = (s.cache channel).messages) (ch : String) :
    ((s.setCache channel c).cache ch).messages = (s.cache ch).messages := by
  obtain ⟨rfl, heq⟩ | heq := setCache_cases s channel ch c
  · rw [heq, hc]
  · rw [heq]

end Payloads

/-! ### Steps on the tables -/

section Commits

variable {s : State} {k : ℕ} {ch : String} {id i : Uuid} {f : MessageRow → MessageRow}
  (hf : MessageRow.Placed f) (audit : List AuditRow)

include hf

/-- The removals to come are still to come after a commit. -/
lemma Task.Clears.rewritten {db : Database} {t : Task} (h : t.Clears db ch id) :
    t.Clears { db.updateMessage i f with auditEvents := audit } ch id := by
  cases t with
  | view i' =>
      have hsome := isSome_projection?_rewritten db i hf audit ch i'
      exact hsome.trans h
  | _ => exact h

/-- A commit that does not change the projection. -/
lemma State.Covered.rewritten (h : s.Covered k ch id)
    (hsame : projection? { s.db.updateMessage i f with auditEvents := audit } ch id
      = projection? s.db ch id) :
    ({ s with db := { s.db.updateMessage i f with auditEvents := audit } } : State).Covered
      k ch id := by
  obtain hcurrent | ⟨t, ht, hmends⟩ := h
  · exact .inl fun r hr => hsame.trans (hcurrent r hr)
  · refine .inr ⟨t, ht, ?_⟩
    obtain hclears | ⟨j, rfl, hchannel, hid, hprojection⟩ := hmends.clears_or
    · exact (hclears.rewritten hf audit).mends
    · exact ⟨hchannel, hid, hsame.trans hprojection⟩

/-- A commit that need not be told to the cache. -/
lemma State.Covered.unseen (h : s.Covered k ch i) (hunseen : s.Unseen k ch i f) :
    ({ s with db := { s.db.updateMessage i f with auditEvents := audit } } : State).Covered
      k ch i := by
  cases hin : s.db.messageIn? ch i with
  | none => exact h.rewritten hf audit (projection?_kept hf audit ch i fun _ => hin)
  | some cm =>
      obtain ⟨c, m⟩ := cm
      obtain hnone | hview | ⟨t, ht, hclears⟩ := hunseen c m hin
      · exact .gone hnone
      · refine h.rewritten hf audit ?_
        rw [projection?_moved hf audit ch hin, projection?, hin, Option.map_some, hview]
      · exact .inr ⟨t, ht, (hclears.rewritten hf audit).mends⟩

end Commits

section CommitSteps

variable (U : Unicode) {s : State} {k : ℕ} {ch : String} {id : Uuid} {e : Env}

/-- A change commits and goes on to its write. -/
lemma change_held {change : Change} (hwf : s.db.WellFormed)
    (h : s.Held k (.change change) ch id) (htold : s.Told k e (.change change)) :
    (s.exec U e (.change change)).1.Held k (s.exec U e (.change change)).2 ch id := by
  have hpre := h.resolve_left not_false
  rw [State.exec]
  split
  next db' message hcommit =>
    obtain ⟨c, m, hin, rfl, hmessage⟩ := Change.commit_ok hcommit
    have hf := change.placed_row e.now
    by_cases hthis : id = change.id ∧ ch = change.channel
    · obtain ⟨rfl, rfl⟩ := hthis
      by_cases hmis : change.Misleads m
      · exact .inr (hpre.unseen hf s.db.auditEvents (htold c m hin hmis))
      · left
        obtain ⟨hlive, -, hid, -⟩ := Database.messageIn?_some hin
        have hname : c.name = change.channel := (Database.liveChannel?_some hlive).2.1
        have hmoved := projection?_moved hf s.db.auditEvents change.channel hin
        rw [hname, ← hmessage hmis] at hmoved
        refine ⟨?_, ?_, hmoved⟩
        · rw [hmessage hmis]
          rfl
        · rw [hmessage hmis]
          exact (hf.id m).trans hid
    · exact .inr (hpre.rewritten hf s.db.auditEvents (projection?_elsewhere hwf hf _ hin hthis))
  next => exact .inr hpre

/-- A change commits and nothing follows. -/
lemma change_covered {change : Change} (hwf : s.db.WellFormed)
    (h : s.Held k (.change change) ch id) (huntold : s.Untold k e (.change change)) :
    (s.exec U e (.change change)).1.Covered k ch id := by
  have hpre := h.resolve_left not_false
  rw [State.exec]
  split
  next db' message hcommit =>
    obtain ⟨c, m, hin, rfl, -⟩ := Change.commit_ok hcommit
    have hf := change.placed_row e.now
    by_cases hthis : id = change.id ∧ ch = change.channel
    · obtain ⟨rfl, rfl⟩ := hthis
      exact hpre.unseen hf s.db.auditEvents huntold
    · exact hpre.rewritten hf s.db.auditEvents (projection?_elsewhere hwf hf _ hin hthis)
  next => exact hpre

/-- A moderation commits and goes on to its refresh. -/
lemma moderate_held {actor i : Uuid} {action : Moderation} {reason : Option String}
    (h : s.Held k (.moderate actor i action reason) ch id) :
    (s.exec U e (.moderate actor i action reason)).1.Held k
      (s.exec U e (.moderate actor i action reason)).2 ch id := by
  have hpre := h.resolve_left not_false
  rw [State.exec]
  split
  next db' hmod =>
    obtain ⟨audit, rfl⟩ := adminModerateMessage_ok hmod
    have hf := MessageRow.placed_moderate e.now actor reason action
    by_cases hin : (projection? s.db ch i).isSome
    · -- the refresh takes every payload of the channel away
      left
      have hsome := isSome_projection?_rewritten s.db i hf audit ch i
      exact hsome.trans hin
    · refine .inr (hpre.rewritten hf audit (projection?_kept hf audit ch id fun hid => ?_))
      rw [projection?, Option.isSome_map, Option.isSome_iff_ne_none, not_not] at hin
      rw [hid]
      exact hin
  next => exact .inr hpre

/-- A moderation commits and nothing follows. -/
lemma moderate_covered {actor i : Uuid} {action : Moderation} {reason : Option String}
    (h : s.Held k (.moderate actor i action reason) ch id)
    (huntold : s.Untold k e (.moderate actor i action reason)) :
    (s.exec U e (.moderate actor i action reason)).1.Covered k ch id := by
  have hpre := h.resolve_left not_false
  rw [State.exec]
  split
  next db' hmod =>
    obtain ⟨audit, rfl⟩ := adminModerateMessage_ok hmod
    have hf := MessageRow.placed_moderate e.now actor reason action
    by_cases hid : id = i
    · subst hid
      exact hpre.unseen hf audit (huntold ch)
    · exact hpre.rewritten hf audit (projection?_kept hf audit ch id fun heq => absurd heq hid)
  next => exact hpre

end CommitSteps

/-! ### Moves -/

/-- A task of `SendMessage` before its message is stored. -/
def Task.sends : Task → Bool
  | check _ _ | look _ | save _ _ | recover _ _ | reconcile _ _ | answer _ _ | note _ _ => true
  | _ => false

section Moves

variable (U : Unicode) {s : State} {k : ℕ} {t : Task} {ch : String} {id : Uuid}

/-- A task runs. -/
lemma held_run {e : Env} (hwf : s.db.WellFormed) (hsends : ¬ t.sends) (h : s.Held k t ch id)
    (htold : s.Told k e t) (hwrites : s.Writes k t) :
    (s.exec U e t).1.Held k (s.exec U e t).2 ch id := by
  cases t with
  | change change => exact change_held U hwf h htold
  | moderate actor i action reason => exact moderate_held U h
  | store j => exact .inr (store_covered U e h hwrites)
  | hydrate j rows => exact .inr (hydrate_covered U e h hwrites)
  | forget j ids => exact .inr (forget_covered U e h)
  | delMessages channel => exact .inr (delMessages_covered U e h)
  | trim j ids wipes =>
      refine h.imp (fun hthis => hthis) fun hpre => hpre.same rfl rfl ?_
      exact congrFun (setCache_messages (c := (s.cache j.message.channel).zrem ids) rfl ch) id
  | delOrder channel =>
      refine .inr (State.Covered.same (h.resolve_left not_false) rfl rfl ?_)
      exact congrFun (setCache_messages (c := (s.cache channel).delOrder) rfl ch) id
  | view i =>
      obtain hthis | hpre := h
      · obtain ⟨x, hx⟩ := Option.isSome_iff_exists.mp hthis
        obtain ⟨hview, hchannel⟩ := moderatedView?_of_projection? hwf hx
        rw [State.exec, hview]
        exact .inl hchannel
      · rw [State.exec]
        split <;> exact .inr hpre
  | announce message => exact h.imp (fun hthis => hthis) fun hpre => hpre.same rfl rfl rfl
  | publish j => exact .inr (State.Covered.same (h.resolve_left not_false) rfl rfl rfl)
  | check _ _ | look _ | save _ _ | recover _ _ | reconcile _ _ | answer _ _ | note _ _ =>
      exact absurd rfl hsends
  | scan _ | sent _ _ | cut _ | subscribe _ | range _ | fetch _ _ | load _ | joined _ _ | ended =>
      exact .inr (h.resolve_left not_false)

/-- A task takes effect and its answer is lost. -/
lemma held_lose {e : Env} (hwf : s.db.WellFormed) (hsends : ¬ t.sends) (h : s.Held k t ch id)
    (huntold : s.Untold k e t) (hwrites : s.Writes k t) (hdrops : s.Drops k t) :
    (s.exec U e t).1.Held k t.lost ch id := by
  cases t with
  | change change => exact .inr (change_covered U hwf h huntold)
  | moderate actor i action reason => exact .inr (moderate_covered U h huntold)
  | store j => exact .inr (store_covered U e h hwrites)
  | hydrate j rows => exact .inr (hydrate_covered U e h hwrites)
  | forget j ids => exact .inr (forget_covered U e h)
  | delMessages channel => exact .inr (delMessages_covered U e h)
  | trim j ids wipes =>
      have hpre : s.Covered k ch id := by
        obtain ⟨rfl, hid⟩ | hpre := h
        · exact hdrops id hid
        · exact hpre
      refine .inr (hpre.same rfl rfl ?_)
      exact congrFun (setCache_messages (c := (s.cache j.message.channel).zrem ids) rfl ch) id
  | delOrder channel =>
      refine .inr (State.Covered.same (h.resolve_left not_false) rfl rfl ?_)
      exact congrFun (setCache_messages (c := (s.cache channel).delOrder) rfl ch) id
  | view i =>
      have hpre : s.Covered k ch id := by
        obtain hthis | hpre := h
        · exact hdrops ch hthis id
        · exact hpre
      rw [State.exec]
      split <;> exact .inr hpre
  | announce message => exact h.imp (fun hthis => hthis) fun hpre => hpre.same rfl rfl rfl
  | publish j => exact .inr (State.Covered.same (h.resolve_left not_false) rfl rfl rfl)
  | check _ _ | look _ | save _ _ | recover _ _ | reconcile _ _ | answer _ _ | note _ _ =>
      exact absurd rfl hsends
  | scan _ | sent _ _ | cut _ | subscribe _ | range _ | fetch _ _ | load _ | joined _ _ | ended =>
      exact .inr (h.resolve_left not_false)

/-- A task fails. -/
lemma held_fail (hsends : ¬ t.sends) (h : s.Held k t ch id) (hmisses : s.Misses k t) :
    s.Held k t.fail ch id := by
  cases t with
  | store j =>
      obtain ⟨rfl, rfl, -⟩ | hpre := h
      · exact .inr hmisses
      · exact .inr hpre
  | trim j ids _ | forget j ids =>
      obtain ⟨rfl, hid⟩ | hpre := h
      · exact .inr (hmisses id hid)
      · exact .inr hpre
  | view i =>
      obtain hthis | hpre := h
      · exact .inr (hmisses ch hthis id)
      · exact .inr hpre
  | announce message => exact h
  | delMessages channel =>
      obtain rfl | hpre := h
      · exact .inr (hmisses id)
      · exact .inr hpre
  | check _ _ | look _ | save _ _ | recover _ _ | reconcile _ _ | answer _ _ | note _ _ =>
      exact absurd rfl hsends
  | _ => exact .inr (h.resolve_left not_false)

end Moves

/-! ### Runs -/

/-- The invariant: every payload is right or mended yet, and no message is on its way to be
saved. -/
structure State.Tended (s : State) : Prop where
  schema : Schema s.db
  quiet : ∀ t ∈ s.tasks, ¬ t.sends
  mended : ∀ ch id, s.Current ch id ∨ ∃ t ∈ s.tasks, t.Mends s.db ch id

section Tended

variable (U : Unicode) {s : State}

/-- The step of a task that sends nothing leads to one that sends nothing. -/
lemma exec_not_sends (e : Env) {t : Task} (h : ¬ t.sends) : ¬ (s.exec U e t).2.sends := by
  cases t with
  | check _ _ | look _ | save _ _ | recover _ _ | reconcile _ _ | answer _ _ | note _ _ =>
      exact absurd rfl h
  | change _ | moderate _ _ _ _ | view _ | publish _ =>
      rw [State.exec]
      split <;> exact Bool.false_ne_true
  | scan _ | range _ | fetch _ _ =>
      simp only [State.exec]
      split_ifs <;> exact Bool.false_ne_true
  | _ => exact Bool.false_ne_true

lemma Task.fail_not_sends {t : Task} (h : ¬ t.sends) : ¬ t.fail.sends := by
  cases t with
  | check _ _ | look _ | save _ _ | recover _ _ | reconcile _ _ | answer _ _ | note _ _ =>
      exact absurd rfl h
  | _ => exact Bool.false_ne_true

lemma Task.lost_not_sends {t : Task} (h : ¬ t.sends) : ¬ t.lost.sends := by
  cases t with
  | publish _ => exact Bool.false_ne_true
  | _ => exact Task.fail_not_sends h

/-- The task in its place before its step. -/
lemma State.Tended.held (h : s.Tended) {k : ℕ} {t : Task} (ht : s.tasks[k]? = some t) (ch : String)
    (id : Uuid) : s.Held k t ch id := by
  obtain hcurrent | hmends := h.mended ch id
  · exact .inr (.inl hcurrent)
  · exact ((exists_task_iff ht _).mp hmends).imp_right .inr

/-- The task in its place after its step. -/
lemma State.Tended.moved {s' : State} (h : s.Tended) (htasks : s'.tasks = s.tasks) {k : ℕ}
    {t new : Task} (ht : s.tasks[k]? = some t) (hschema : Schema s'.db) (hnew : ¬ new.sends)
    (hheld : ∀ ch id, s'.Held k new ch id) : (s'.setTask k new).Tended := by
  rw [← htasks] at ht
  have hquiet := h.quiet
  rw [← htasks] at hquiet
  refine ⟨hschema, forall_mem_set hquiet hnew k, fun ch id => ?_⟩
  obtain hthis | hcurrent | hother := hheld ch id
  · exact .inr ((exists_set_iff ht new _).mpr (.inl hthis))
  · exact .inl hcurrent
  · exact .inr ((exists_set_iff ht new _).mpr (.inr hother))

/-- A task that arrives. -/
lemma State.Tended.spawn (h : s.Tended) {new : Task} (hnew : ¬ new.sends) :
    (s.spawn new).Tended := by
  refine ⟨h.schema, fun t ht => ?_, fun ch id => ?_⟩
  · obtain ht | ht := List.mem_append.mp ht
    · exact h.quiet t ht
    · rw [List.mem_singleton.mp ht]
      exact hnew
  · exact (h.mended ch id).imp_right fun hmends => exists_spawn new hmends

/-- An ordered move of a run without `SendMessage` keeps the invariant. -/
lemma tended_step (h : s.Tended) {a : Act} (hsend : ∀ p, a ≠ .send p) (hordered : s.Ordered a) :
    (s.step U a).Tended := by
  have hschema := schema_step U h.schema a
  cases a with
  | send p => exact absurd rfl (hsend p)
  | change change => exact h.spawn Bool.false_ne_true
  | moderate actor id action reason => exact h.spawn Bool.false_ne_true
  | join channel => exact h.spawn Bool.false_ne_true
  | run k e =>
      rw [State.step] at hschema ⊢
      cases ht : s.tasks[k]? with
      | none => exact h
      | some t =>
          rw [ht] at hschema
          have hsends := h.quiet t (List.mem_of_getElem? ht)
          obtain ⟨htold, hwrites⟩ := hordered t ht
          refine h.moved (exec_tasks U e s t) ht hschema (exec_not_sends U e hsends) fun ch id => ?_
          exact held_run U h.schema.wellFormed hsends (h.held ht ch id) htold hwrites
  | fail k =>
      rw [State.step] at hschema ⊢
      cases ht : s.tasks[k]? with
      | none => exact h
      | some t =>
          have hsends := h.quiet t (List.mem_of_getElem? ht)
          refine h.moved rfl ht h.schema (Task.fail_not_sends hsends) fun ch id => ?_
          exact held_fail hsends (h.held ht ch id) (hordered t ht)
  | lose k e =>
      rw [State.step] at hschema ⊢
      cases ht : s.tasks[k]? with
      | none => exact h
      | some t =>
          rw [ht] at hschema
          have hsends := h.quiet t (List.mem_of_getElem? ht)
          obtain ⟨huntold, hwrites, hdrops⟩ := hordered t ht
          refine h.moved (exec_tasks U e s t) ht hschema (Task.lost_not_sends hsends)
            fun ch id => ?_
          exact held_lose U h.schema.wellFormed hsends (h.held ht ch id) huntold hwrites hdrops

end Tended

/-- A finished task mends nothing. -/
lemma Task.not_mends {t : Task} (h : t.finished) (db : Database) (ch : String) (id : Uuid) :
    ¬ t.Mends db ch id := by
  cases t with
  | sent _ _ | cut _ | joined _ _ | ended => exact not_false
  | _ => cases h

/-- From right payloads and no tasks, a run of ordered moves without `SendMessage` ends with right
payloads once all tasks have finished. -/
theorem projected_of_along (U : Unicode) {s : State} (hschema : Schema s.db) (hidle : s.tasks = [])
    (hs : s.Projected) {as : List Act} (hsend : ∀ p, Act.send p ∉ as)
    (h : Along (State.step U) State.Ordered s as)
    (hdone : ∀ t ∈ (final (State.step U) s as).tasks, t.finished) :
    (final (State.step U) s as).Projected := by
  have hquiet : ∀ t ∈ s.tasks, ¬ t.sends := by
    rw [hidle]
    exact fun t ht => absurd ht List.not_mem_nil
  have hacts : Along (State.step U) (fun _ a => ∀ p, a ≠ .send p) s as :=
    along_of_forall s fun a ha p heq => hsend p (heq ▸ ha)
  have htended : (final (State.step U) s as).Tended :=
    ((along_and _ _ s as).mpr ⟨hacts, h⟩).invariant (I := State.Tended)
      (fun _ _ ht hc => tended_step U ht hc.1 hc.2) ⟨hschema, hquiet, fun ch id => .inl (hs ch id)⟩
  intro ch id
  refine (htended.mended ch id).resolve_right ?_
  rintro ⟨t, ht, hmends⟩
  exact Task.not_mends (hdone t ht) _ ch id hmends

/-- A socket enters, and then the author edits and deletes the message. -/
def readThenDeleted : List Act :=
  .join "main" :: runs 4 0 11 0 ++ .change (.edit "main" 21 5 "ho") :: runs 4 1 12 0 ++
    .change (.delete "main" 21 5 false) :: runs 4 2 13 0

lemma projected_quotedHall : ({ db := quotedHall } : State).Projected := fun _ _ _ hr => nomatch hr

lemma schema_quotedHall : Schema quotedHall :=
  ⟨⟨by decide, by decide, by decide⟩, by decide⟩

lemma ordered_readThenDeleted :
    Along (State.step .ascii) State.Ordered { db := quotedHall } readThenDeleted := by
  refine ⟨trivial, ?_, ?_, ?_, ?_, trivial, ?_, ?_, ?_, ?_, trivial, ?_, ?_, ?_, ?_, trivial⟩ <;>
    rintro t ⟨⟩
  iterate 3 exact ⟨trivial, trivial⟩
  · -- the socket caches the message as it is
    have hrows : ∀ x ∈ loadMessages quotedHall 11 "main" none (hotHistoryLimit + 1),
        projection? quotedHall "main" x.id = some x := by decide +kernel
    exact ⟨trivial, fun x hx => .inl (hrows x (List.mem_of_mem_drop hx))⟩
  · -- the message is not deleted when it is edited
    refine ⟨?_, trivial⟩
    rintro c m ⟨⟩ hmisleads
    exact absurd rfl hmisleads
  · exact ⟨trivial, .inl rfl⟩
  iterate 2 exact ⟨trivial, trivial⟩
  · exact ⟨fun _ _ _ hmisleads => absurd hmisleads not_false, trivial⟩
  · exact ⟨trivial, .inl rfl⟩
  iterate 2 exact ⟨trivial, trivial⟩

/-- One after the other the requests leave the payload of a deleted message. -/
theorem readThenDeleted_projected :
    (∀ t ∈ (final (State.step .ascii) { db := quotedHall } readThenDeleted).tasks, t.finished) ∧
    (((final (State.step .ascii) { db := quotedHall } readThenDeleted).cache "main").messages
      21).map (fun r => r.deleted) = some true ∧
    (final (State.step .ascii) { db := quotedHall } readThenDeleted).Projected := by
  have hdone : ∀ t ∈ (final (State.step .ascii) { db := quotedHall } readThenDeleted).tasks,
      t.finished := by decide +kernel
  exact ⟨hdone, by decide +kernel, projected_of_along .ascii schema_quotedHall rfl
    projected_quotedHall (by simp [readThenDeleted, runs]) ordered_readThenDeleted hdone⟩

/-- A socket reads the tables, the message is deleted and the deletion is cached, and then the
socket fills the cache with what it read. -/
def readAroundDeletion : List Act :=
  .join "main" :: runs 3 0 11 0 ++ .change (.delete "main" 21 5 false) :: runs 4 1 12 0 ++
    runs 1 0 13 0

/-- The text of the deleted message is back in the cache. -/
theorem staleHydration_revives :
    Schema quotedHall ∧ ({ db := quotedHall } : State).Projected ∧
    (∀ t ∈ (final (State.step .ascii) { db := quotedHall } readAroundDeletion).tasks,
      t.finished) ∧
    (((final (State.step .ascii) { db := quotedHall } readAroundDeletion).cache "main").messages
      21).map (fun r => r.text) = some "hi" ∧
    (projection? (final (State.step .ascii) { db := quotedHall } readAroundDeletion).db "main"
      21).map (fun x => (x.text, x.deleted)) = some ("", true) ∧
    ¬ (final (State.step .ascii) { db := quotedHall } readAroundDeletion).Projected := by
  have htext : (((final (State.step .ascii) { db := quotedHall } readAroundDeletion).cache
      "main").messages 21).map (fun r => r.text) = some "hi" := by decide +kernel
  have hprojection : (projection? (final (State.step .ascii) { db := quotedHall }
      readAroundDeletion).db "main" 21).map (fun x => (x.text, x.deleted)) = some ("", true) := by
    decide +kernel
  refine ⟨schema_quotedHall, projected_quotedHall, by decide +kernel, htext, hprojection,
    fun hprojected => ?_⟩
  obtain ⟨r, hr, hread⟩ := Option.map_eq_some_iff.mp htext
  have hcurrent := hprojected "main" 21 r hr
  rw [hcurrent, Option.map_some, Option.some.injEq, Prod.mk.injEq] at hprojection
  exact absurd (hread.symm.trans hprojection.1) (by decide)

end Vussa.Flow
