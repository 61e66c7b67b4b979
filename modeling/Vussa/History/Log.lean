import Vussa.Access.Revival
import Vussa.History.Retention
import Vussa.History.Threads

/-!
The table `messages` over whole runs, with `prune_expired` in between, which `bootstrap.rs` starts
every day (`repository/postgres.rs`). Messages are inserted at the instant of the clock, in the
thread of a message that is there; edits, deletions and restorations leave them in their place; the
retention takes a thread with its root.

* `Event`, `Server.advance`: the steps of the server and the pruning;
* `Rooted`, `Logged`: every reply comes after its root, in the same channel, and the rows are in
  the order of their instants;
* `Continues`: what is left of old rows, then newer ones;
* `Recorded`, `recorded_advance`: both, and that one step keeps them;
* `messages_logged`: **in every run threads stay whole, and what is older than a past cursor only
  gets less**.
-/

namespace Vussa

open Effect Relation Run
open Retention (pruneExpired mem_pruneExpired_iff ReplyTo Expired)

/-- The steps of the server, and the daily pruning. -/
inductive Event where
  | serve (a : Act)
  | prune
  deriving DecidableEq, Repr

/-- One step or pruning. -/
def Server.advance (U : Unicode) (s : Server) : Event → Server
  | .serve a => s.step U a
  | .prune => { s with shared := s.shared.setDb (pruneExpired s.shared.db s.shared.now).1 }

/-! ### The log -/

/-- What no edit, deletion or restoration writes. -/
def MessageRow.entry (m : MessageRow) : MessageRow :=
  { m with
    text := "", edited := false, deletedAt := none, deletedBy := none, deletionReason := none }

/-- Every reply comes after the message it names as its root, in the same channel. -/
inductive Rooted : List MessageRow → Prop
  | nil : Rooted []
  | concat {rows : List MessageRow} {m : MessageRow} : Rooted rows →
      (∀ root ∈ m.rootMessageId, ∃ r ∈ rows, r.id = root ∧ r.channelId = m.channelId) →
      Rooted (rows ++ [m])

/-- The rows are a log of what was posted up to `now`. -/
structure Logged (now : Millis) (rows : List MessageRow) : Prop where
  rooted : Rooted rows
  sorted : rows.Pairwise fun a b => (a.createdAt : ℕ) ≤ b.createdAt
  past : ∀ m ∈ rows, (m.createdAt : ℕ) ≤ now

/-- Some of the old rows in their order, and then rows from `since` on. -/
def Continues (old : List MessageRow) (since : Millis) (rows : List MessageRow) : Prop :=
  ∃ kept new, rows.map MessageRow.entry = kept ++ new ∧
    kept.Sublist (old.map MessageRow.entry) ∧ ∀ m ∈ new, (since : ℕ) ≤ m.createdAt

/-! ### Rows -/

section Rows

variable {rows old : List MessageRow} {now since : Millis}

lemma Rooted.map (h : Rooted rows) {f : MessageRow → MessageRow} (hf : MessageRow.Placed f) :
    Rooted (rows.map f) := by
  induction h with
  | nil => exact .nil
  | @concat rows m _ hroot ih =>
      rw [List.map_append, List.map_singleton]
      refine ih.concat fun root hm => ?_
      rw [hf.rootMessageId] at hm
      obtain ⟨r, hr, hid, hchannel⟩ := hroot root hm
      refine ⟨f r, List.mem_map_of_mem hr, ?_, ?_⟩
      · rw [hf.id, hid]
      · rw [hf.channelId, hf.channelId, hchannel]

/-- A filter that takes the replies along. -/
lemma Rooted.filter (h : Rooted rows) {p : MessageRow → Bool}
    (hp : ∀ m ∈ rows, p m → ∀ root ∈ m.rootMessageId, ∀ r ∈ rows, r.id = root → p r) :
    Rooted (rows.filter p) := by
  induction h with
  | nil => exact .nil
  | @concat rows m _ hroot ih =>
      have hrows := ih fun m hm hpm root hroot r hr =>
        hp m (List.mem_append_left _ hm) hpm root hroot r (List.mem_append_left _ hr)
      rw [List.filter_append]
      by_cases hpm : p m
      · rw [List.filter_cons_of_pos hpm, List.filter_nil]
        refine hrows.concat fun root hm => ?_
        obtain ⟨r, hr, hid, hchannel⟩ := hroot root hm
        have hpr := hp m List.mem_concat_self hpm root hm r (List.mem_append_left _ hr) hid
        exact ⟨r, List.mem_filter.mpr ⟨hr, hpr⟩, hid, hchannel⟩
      · rw [List.filter_cons_of_neg hpm, List.filter_nil, List.append_nil]
        exact hrows

/-- **Every thread has a top**: from a reply the roots lead to a message that is no reply. -/
lemma Rooted.top {db : Database} (h : Rooted rows) (hsub : rows ⊆ db.messages) :
    ∀ m ∈ rows, ∃ top ∈ db.messages, top.rootMessageId = none ∧ top.channelId = m.channelId ∧
      ReflTransGen (ReplyTo db) m top := by
  induction h with
  | nil => exact fun m hm => absurd hm List.not_mem_nil
  | @concat rows m' _ hroot ih =>
      obtain ⟨hrows, hm'⟩ := List.append_subset.mp hsub
      intro m hm
      rcases List.mem_append.mp hm with hm | hm
      · exact ih hrows m hm
      · obtain rfl := List.mem_singleton.mp hm
        cases hid : m.rootMessageId with
        | none => exact ⟨m, hm' hm, hid, rfl, .refl⟩
        | some root =>
            obtain ⟨r, hr, rfl, hchannel⟩ := hroot root hid
            obtain ⟨top, htop, hnone, hsame, hchain⟩ := ih hrows r hr
            exact ⟨top, htop, hnone, hsame.trans hchannel, .head ⟨hrows hr, hid⟩ hchain⟩

lemma Logged.map (h : Logged now rows) {f : MessageRow → MessageRow}
    (hf : MessageRow.Placed f) : Logged now (rows.map f) where
  rooted := h.rooted.map hf
  sorted := List.pairwise_map.mpr (by simpa only [hf.createdAt] using h.sorted)
  past := List.forall_mem_map.mpr fun m hm => by
    rw [hf.createdAt]
    exact h.past m hm

/-- A message that is posted now. -/
lemma Logged.concat (h : Logged now rows) {m : MessageRow} (hnow : m.createdAt = now)
    (hroot : ∀ root ∈ m.rootMessageId, ∃ r ∈ rows, r.id = root ∧ r.channelId = m.channelId) :
    Logged now (rows ++ [m]) where
  rooted := h.rooted.concat hroot
  sorted := by
    refine List.pairwise_append.mpr ⟨h.sorted, List.pairwise_singleton _ _, fun a ha b hb => ?_⟩
    rw [List.mem_singleton.mp hb, hnow]
    exact h.past a ha
  past a ha := by
    rcases List.mem_append.mp ha with ha | ha
    · exact h.past a ha
    · rw [List.mem_singleton.mp ha, hnow]

lemma Logged.later (h : Logged now rows) {later : Millis} (hle : now ≤ later) :
    Logged later rows :=
  ⟨h.rooted, h.sorted, fun m hm => (h.past m hm).trans hle⟩

/-- The retention takes a thread with its root. -/
lemma Logged.prune {db : Database} (hwf : db.WellFormed) (h : Logged now db.messages) :
    Logged now (pruneExpired db now).1.messages := by
  have hfilter : ∃ p, (pruneExpired db now).1.messages = db.messages.filter p :=
    Table.exists_filter_cascade _ _
  obtain ⟨p, hp⟩ := hfilter
  have hmem : ∀ m ∈ db.messages, p m ↔
      ∀ root, ReflTransGen (ReplyTo db) m root → ¬ Expired db now root := by
    intro m hm
    have hstay : m ∈ (pruneExpired db now).1.messages ↔ _ := mem_pruneExpired_iff hwf
    rw [hp, List.mem_filter] at hstay
    rwa [and_iff_right hm, and_iff_right hm] at hstay
  rw [hp]
  refine ⟨h.rooted.filter fun m hm hpm root hroot r hr hid => ?_, h.sorted.filter _,
    fun m hm => h.past m (List.mem_of_mem_filter hm)⟩
  refine (hmem r hr).mpr fun top hchain => (hmem m hm).mp hpm top ?_
  exact .head ⟨hr, hroot.trans (congrArg some hid.symm)⟩ hchain

lemma Continues.refl : Continues rows since rows :=
  ⟨rows.map MessageRow.entry, [], (List.append_nil _).symm, List.Sublist.refl _, by simp⟩

/-- A change of the rows that leaves the entries. -/
lemma Continues.map (h : Continues old since rows) {f : MessageRow → MessageRow}
    (hf : ∀ m, (f m).entry = m.entry) : Continues old since (rows.map f) := by
  obtain ⟨kept, new, heq, hrest⟩ := h
  refine ⟨kept, new, ?_, hrest⟩
  rw [← heq, List.map_map]
  exact List.map_congr_left fun m _ => hf m

lemma Continues.concat (h : Continues old since rows) {m : MessageRow}
    (hsince : (since : ℕ) ≤ m.createdAt) : Continues old since (rows ++ [m]) := by
  obtain ⟨kept, new, heq, hsub, hnew⟩ := h
  refine ⟨kept, new ++ [m.entry], ?_, hsub, List.forall_mem_append.mpr ⟨hnew, ?_⟩⟩
  · rw [List.map_append, heq, List.append_assoc, List.map_singleton]
  · exact List.forall_mem_singleton.mpr hsince

lemma Continues.filter (h : Continues old since rows) (p : MessageRow → Bool) :
    Continues old since (rows.filter p) := by
  obtain ⟨kept, new, heq, hsub, hnew⟩ := h
  have hrows : ((rows.filter p).map MessageRow.entry).Sublist (kept ++ new) :=
    heq ▸ List.filter_sublist.map MessageRow.entry
  obtain ⟨kept', new', heq', hkept, hnew'⟩ := List.sublist_append_iff.mp hrows
  exact ⟨kept', new', heq', hkept.trans hsub, fun m hm => hnew m (hnew'.subset hm)⟩

/-- What is older than a past cursor. -/
lemma Continues.before (h : Continues old since rows) {p q : MessageRow → Bool}
    (hpq : ∀ m, p m → q m) (hp : ∀ m, p m.entry = p m) (hq : ∀ m, q m.entry = q m)
    (hnew : ∀ m, p m → (m.createdAt : ℕ) < since) :
    ((rows.filter p).map MessageRow.entry).Sublist ((old.filter q).map MessageRow.entry) := by
  obtain ⟨kept, new, heq, hsub, hsince⟩ := h
  have hcomm : ∀ {p : MessageRow → Bool} (_ : ∀ m, p m.entry = p m) (rows : List MessageRow),
      (rows.filter p).map MessageRow.entry = (rows.map MessageRow.entry).filter p := by
    intro p hp rows
    rw [List.filter_map]
    exact congrArg _ (List.filter_congr fun m _ => (hp m).symm)
  have hnone : new.filter p = [] := List.filter_eq_nil_iff.mpr fun m hm hpm =>
    absurd (hnew m hpm) (not_lt.mpr (hsince m hm))
  rw [hcomm hp, hcomm hq, heq, List.filter_append, hnone, List.append_nil]
  exact (List.monotone_filter_right kept hpq).trans (hsub.filter q)

end Rows

/-! ### Steps -/

/-- The rows are a log, and go on from those of an earlier state. -/
structure Recorded (old : List MessageRow) (since : Millis) (s : Shared) : Prop where
  logged : Logged s.now s.db.messages
  continues : Continues old since s.db.messages
  since : since ≤ s.now

section Writes

variable {old : List MessageRow} {since : Millis} {s s' : Shared}

lemma Recorded.of_messages (h : Recorded old since s) (hmessages : s'.db.messages = s.db.messages)
    (hnow : s.now ≤ s'.now) : Recorded old since s' := by
  refine ⟨?_, ?_, h.since.trans hnow⟩
  · rw [hmessages]
    exact h.logged.later hnow
  · rw [hmessages]
    exact h.continues

lemma Recorded.update (h : Recorded old since s) (id : Uuid) {f : MessageRow → MessageRow}
    (hf : MessageRow.Placed f) (hentry : ∀ m, (f m).entry = m.entry)
    (hmessages : s'.db.messages = (s.db.updateMessage id f).messages) (hnow : s'.now = s.now) :
    Recorded old since s' := by
  have hplaced : MessageRow.Placed fun m => if m.id = id then f m else m := by
    refine ⟨fun m => ?_, fun m => ?_, fun m => ?_, fun m => ?_⟩
    · rw [apply_ite MessageRow.id, hf.id, ite_self]
    · rw [apply_ite MessageRow.createdAt, hf.createdAt, ite_self]
    · rw [apply_ite MessageRow.channelId, hf.channelId, ite_self]
    · rw [apply_ite MessageRow.rootMessageId, hf.rootMessageId, ite_self]
  refine ⟨?_, ?_, hnow ▸ h.since⟩
  · rw [hmessages, hnow]
    exact h.logged.map hplaced
  · rw [hmessages]
    refine h.continues.map fun m => ?_
    rw [apply_ite MessageRow.entry, hentry, ite_self]

lemma Recorded.concat (h : Recorded old since s) {row : MessageRow} (hcreated : row.createdAt = s.now)
    (hroot : ∀ root ∈ row.rootMessageId,
      ∃ r ∈ s.db.messages, r.id = root ∧ r.channelId = row.channelId)
    (hmessages : s'.db.messages = s.db.messages ++ [row]) (hnow : s'.now = s.now) :
    Recorded old since s' := by
  refine ⟨?_, ?_, hnow ▸ h.since⟩
  · rw [hmessages, hnow]
    exact h.logged.concat hcreated hroot
  · rw [hmessages]
    exact h.continues.concat (by rw [hcreated]; exact h.since)

lemma stable_recorded : Stable (Recorded old since) where
  quiet _ _ hq h := h.of_messages hq.messages hq.now
  notice notice channel text := by
    refine preserves_publishSystemMessage notice channel text (fun _ _ h => ⟨h.1, h.2, h.3⟩) ?_
    intro s c h _ _
    exact h.concat rfl (fun root hroot => absurd hroot (by simp [systemRow])) rfl rfl
  page _ _ _ h := ⟨h.1, h.2, h.3⟩
  refresh _ _ h := ⟨h.1, h.2, h.3⟩

/-- A request moderates some messages or leaves them all. -/
lemma recorded_request {U : Unicode} {fresh : Fresh} {user : AuthUser} {request : Request}
    (h : Recorded old since s) (hw : Write U fresh user s request s') : Recorded old since s' := by
  cases hw with
  | createChannel _ _ _ hok =>
      refine h.of_messages ?_ (le_refl _)
      rcases Database.upsertChannel_ok hok with ⟨-, -, rfl⟩ | ⟨c, -, -, -, -, rfl⟩
      · rfl
      · rfl
  | createPrivateChannel _ _ _ hok =>
      obtain ⟨-, rfl⟩ := insertPrivateChannel_ok hok
      exact h.of_messages (by simp) (le_refl _)
  | openDirect _ _ hok =>
      obtain ⟨c, -, -, -, ⟨-, rfl⟩ | ⟨-, -, -, rfl⟩⟩ := insertDirect_ok hok
      · exact h.of_messages (by simp) (le_refl _)
      · exact h.of_messages (by simp) (le_refl _)
  | inviteMember _ hok =>
      rcases insertMember_ok hok with ⟨-, rfl⟩ | ⟨-, rfl⟩
      · exact h.of_messages rfl (le_refl _)
      · exact h.of_messages (by simp) (le_refl _)
  | removeMember _ _ hok =>
      obtain rfl := deleteMember_ok hok
      exact h.of_messages rfl (le_refl _)
  | leaveChannel _ hok =>
      obtain ⟨c, -, -, -, rfl⟩ := deleteOwnMembership_ok hok
      exact h.of_messages rfl (le_refl _)
  | adminCreateChannel _ _ _ hok =>
      refine h.of_messages ?_ (le_refl _)
      rcases Database.upsertChannel_ok hok with ⟨-, -, rfl⟩ | ⟨c, -, -, -, -, rfl⟩
      · rfl
      · rfl
  | adminUpdateChannel _ hok =>
      obtain ⟨c, name, -, -, -, -, -, rfl⟩ := updateChannelRow_ok hok
      exact h.of_messages rfl (le_refl _)
  | adminChannelState _ hok =>
      obtain rfl := setChannelState_ok hok
      exact h.of_messages rfl (le_refl _)
  | adminCreateBan _ hok =>
      obtain ⟨row, -, -, rfl⟩ := insertBan_ok hok
      exact h.of_messages rfl (le_refl _)
  | adminRevokeBan hok =>
      obtain ⟨target, rfl⟩ := updateBan_ok hok
      exact h.of_messages rfl (le_refl _)
  | @adminModerateMessage id action reason b message hok =>
      obtain ⟨db, hmod, hb⟩ := Backend.moderateMessage_ok hok
      obtain ⟨audit, rfl⟩ := adminModerateMessage_ok hmod
      refine h.update id (MessageRow.placed_moderate s.now user.id reason action) ?_ ?_ ?_
      · cases action <;> exact fun m => rfl
      · rcases hb with rfl | ⟨name, rfl⟩ <;> rfl
      · rcases hb with rfl | ⟨name, rfl⟩ <;> rfl
  | promoteModerator hok =>
      obtain ⟨f, -, rfl⟩ := changeRole_ok hok
      exact h.of_messages rfl (le_refl _)
  | demoteModerator hok =>
      obtain ⟨f, -, rfl⟩ := changeRole_ok hok
      exact h.of_messages rfl (le_refl _)
  | transferOwnership _ hok =>
      obtain ⟨c, f, -, -, rfl⟩ := transferOwnership_ok hok
      exact h.of_messages rfl (le_refl _)
  | acceptInviteLink _ hok =>
      rcases useInviteLink_ok hok with rfl | ⟨row, rfl⟩
      · exact h.of_messages rfl (le_refl _)
      · exact h.of_messages (by simp) (le_refl _)
  | @adminBulkModerate ids action reason =>
      refine bulkModerate_induct (P := fun db => Recorded old since (s.setDb db))
        (fun db id metadata h => ?_) ids s.db ⟨h.1, h.2, h.3⟩
      refine h.update id (MessageRow.placed_moderate s.now user.id reason action) ?_ rfl rfl
      cases action <;> exact fun m => rfl

/-- An event posts, edits or deletes a message or leaves them all. -/
lemma recorded_event {U : Unicode} {fresh : Fresh} {user : AuthUser} {session : Uuid}
    {channel : String} {event : ClientEvent} (h : Recorded old since s)
    (hw : EventWrite U fresh user session channel s event s') : Recorded old since s' := by
  cases hw with
  | service _ hw => exact recorded_request h hw
  | deleteChannel _ _ _ hok =>
      obtain ⟨c, -, rfl⟩ := deleteChannel_ok hok
      exact h.of_messages rfl (le_refl _)
  | @sendMessage _ _ root? _ _ _ _ hok =>
      obtain ⟨db, hsave, rfl⟩ := Backend.postMessage_ok hok
      obtain ⟨c, links, hc, -, rfl⟩ := saveMessage_ok hsave
      refine h.concat rfl (fun root hroot => ?_) rfl rfl
      have hparent := Threads.saveMessage_hasRoot hsave hc
      obtain rfl : root? = some root := hroot
      exact hparent
  | editMessage hok =>
      obtain ⟨db, hedit, rfl⟩ := Backend.editMessage_ok hok
      obtain ⟨c, row, -, -, rfl, -⟩ := editMessage_ok hedit
      exact h.update _ (MessageRow.placed_edit _) (fun _ => rfl) rfl rfl
  | deleteMessage hok =>
      obtain ⟨db, hdel, rfl⟩ := Backend.deleteMessage_ok hok
      obtain ⟨c, row, -, -, rfl, -⟩ := deleteMessage_ok hdel
      exact h.update _ (MessageRow.placed_delete _) (fun _ => rfl) rfl rfl

end Writes

/-! ### Runs -/

namespace Server

/-- A step or a pruning keeps the keys and the log. -/
lemma recorded_advance (U : Unicode) {old : List MessageRow} {since : Millis} {s : Server}
    (hwf : s.shared.db.WellFormed) (h : Recorded old since s.shared) (e : Event) :
    (s.advance U e).shared.db.WellFormed ∧ Recorded old since (s.advance U e).shared := by
  cases e with
  | serve a =>
      refine ⟨(accessKept_step hwf a).wellFormed, ?_⟩
      refine holds_after_step stable_recorded h a fun s' hw => ?_
      cases hw with
      | request _ hw => exact recorded_request h hw
      | client _ _ hw => exact recorded_event h hw
  | prune =>
      have hfilter : ∃ p, (pruneExpired s.shared.db s.shared.now).1.messages =
          s.shared.db.messages.filter p := Table.exists_filter_cascade _ _
      obtain ⟨p, hp⟩ := hfilter
      refine ⟨⟨hwf.channelId, hwf.channelName, ?_⟩, h.logged.prune hwf, ?_, h.since⟩
      · show ((pruneExpired s.shared.db s.shared.now).1.messages.map MessageRow.id).Nodup
        rw [hp]
        exact hwf.messageId.sublist (List.filter_sublist.map _)
      · show Continues old since (pruneExpired s.shared.db s.shared.now).1.messages
        rw [hp]
        exact h.continues.filter p

/-- **The messages over a run**: when the messages are a log at the start, they are one in every
state of every run of the server with prunings in between. Every thread has its top, and what a
later state has before a cursor that was in the past, among the messages of a channel or the replies
of a thread, it had before, up to edits, deletions and restorations, in the same order. -/
theorem messages_logged (U : Unicode) {db : Database} (hwf : db.WellFormed) {now : Millis}
    (hlog : Logged now db.messages) (as bs : List Event) {s s' : Server}
    (hs : final (advance U) (start db now) as = s) (hs' : final (advance U) s bs = s') :
    Logged s'.shared.now s'.shared.db.messages ∧
      (∀ m ∈ s'.shared.db.messages, ∃ top ∈ s'.shared.db.messages, top.rootMessageId = none ∧
        top.channelId = m.channelId ∧ ReflTransGen (ReplyTo s'.shared.db) m top) ∧
      ∀ (c : ChannelRow) (before : Stamp), (ofLex before).1 < ((s.shared.now : ℕ) : ℤ) →
        ((servedRoots s'.shared.db s'.shared.now c (some before)).map MessageRow.entry).Sublist
            ((servedRoots s.shared.db s.shared.now c (some before)).map MessageRow.entry) ∧
          ∀ root, ((threadRows s'.shared.db c root (some before)).map MessageRow.entry).Sublist
            ((threadRows s.shared.db c root (some before)).map MessageRow.entry) := by
  have hrun : ∀ {old : List MessageRow} {since : Millis} {s : Server} (es : List Event),
      s.shared.db.WellFormed ∧ Recorded old since s.shared →
        (final (advance U) s es).shared.db.WellFormed ∧
          Recorded old since (final (advance U) s es).shared := fun es h =>
    final_invariant (I := fun s : Server => s.shared.db.WellFormed ∧ Recorded _ _ s.shared)
      (fun _ e h => recorded_advance U h.1 h.2 e) h es
  obtain ⟨hwf1, hrec1⟩ := hrun as (s := start db now) ⟨hwf, hlog, .refl, le_refl now⟩
  rw [hs] at hwf1 hrec1
  obtain ⟨-, hrec⟩ := hrun bs ⟨hwf1, hrec1.logged, .refl, le_refl s.shared.now⟩
  rw [hs'] at hrec
  have hle : ((s.shared.now : ℕ) : ℤ) ≤ s'.shared.now := Int.ofNat_le.mpr hrec.since
  refine ⟨hrec.logged, hrec.logged.rooted.top (List.Subset.refl _), fun c before hbefore => ?_⟩
  have hpast : ∀ m : MessageRow, m.Before (some before) →
      (m.createdAt : ℕ) < (s.shared.now : ℕ) := by
    intro m hm
    have hlt := Prod.Lex.lt_iff.mp (hm before rfl)
    have hcreated : (ofLex m.stamp).1 = ((m.createdAt : ℕ) : ℤ) := rfl
    omega
  refine ⟨hrec.continues.before (fun m hm => ?_) (fun _ => rfl) (fun _ => rfl) fun m hm => ?_,
    fun root => hrec.continues.before (fun _ h => h) (fun _ => rfl) (fun _ => rfl) fun m hm => ?_⟩
  · obtain ⟨hchannel, hwindow, hrest⟩ := of_decide_eq_true hm
    exact decide_eq_true ⟨hchannel, by omega, hrest⟩
  · exact hpast m (of_decide_eq_true hm).2.2.2
  · exact hpast m (of_decide_eq_true hm).2.2

/-- A message of day 10, and a day later a reply. -/
def dayTen : List Event :=
  [.serve (.login 5 (townUser 30 "ada")), .serve (.connect 1 0 5), .serve (.proceed 1),
    .serve (.proceed 1), .serve (.wait (Retention.day 10)),
    .serve (.client 1 (.sendMessage "hello" none none []) ⟨2, 80, 81⟩),
    .serve (.wait (Retention.day 11))]

/-- The reply is written, and a hundred days later both are pruned. -/
def dayHundred : List Event :=
  [.serve (.client 1 (.sendMessage "hi" (some 80) none []) ⟨3, 82, 83⟩),
    .serve (.wait (Retention.day 111)), .prune]

theorem messages_logged_dayHundred : townHall.WellFormed ∧ Logged 100 townHall.messages ∧
    ∃ s s', final (advance .ascii) (start townHall 100) dayTen = s ∧
      final (advance .ascii) s dayHundred = s' ∧ Logged s'.shared.now s'.shared.db.messages := by
  have hlog : Logged 100 townHall.messages := ⟨.nil, .nil, fun _ hm => absurd hm List.not_mem_nil⟩
  exact ⟨townHall_wellFormed, hlog, _, _, rfl, rfl,
    (messages_logged .ascii townHall_wellFormed hlog dayTen dayHundred rfl rfl).1⟩

end Server

end Vussa
