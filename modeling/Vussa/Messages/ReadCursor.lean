import Vussa.Lib.Run
import Vussa.Model.Handler

/-!
The read cursor of a user in a channel: the row of `channel_reads` that `MarkRead` writes.

The upsert keeps the greater of the two instants, and takes the identifier of the event unless its
instant is smaller. The instant of the event is a `u64` that is cast to a signed integer first. An
event that its checks refuse writes nothing and is left out.

* `MarkRead`, `MarkRead.step`: an event and what it writes;
* `cursor`: the pair of a row, in the order `(created_at, id)` of the history;
* `submitted`: the pairs the events of a user in a channel name;
* `InOrder`: the instant fits a signed integer, and on equal instants the identifier of the cursor
  is not greater;
* `cursor_eq_maximum_iff`: **the cursor is the greatest pair in every state of a run iff every
  event of the user in the channel is in order**;
* `cursor_not_maximum`: two events in one millisecond.
-/

namespace Vussa

open Run

/-- A `MarkRead` event on a socket in `channel`, at the instant `now`. -/
structure MarkRead where
  userId : Uuid
  channel : String
  messageId : Uuid
  createdAt : U64
  now : Millis
  deriving DecidableEq, Repr

/-- What an accepted event writes. -/
def MarkRead.step (db : Database) (e : MarkRead) : Database :=
  db.markRead e.userId e.channel e.messageId (asI64 e.createdAt) e.now

/-- The arm of `handle_client_event`. -/
lemma after_markRead {s : Shared} {user : AuthUser} {channel : String} {messageId : Uuid}
    {createdAt : U64} (hperm : Permission.chatWrite ∈ user.permissions)
    (haccess : ChannelAccess s.db s.now channel user.id) :
    (Effect.after (markRead user channel messageId createdAt) s).db =
      MarkRead.step s.db { userId := user.id, channel := channel, messageId := messageId,
                           createdAt := createdAt, now := s.now } := by
  rw [markRead, Effect.after]
  simp only [check, Effect.run_bind, Effect.run_read, requirePermission, if_pos hperm,
    ensureChannelAccess, if_pos haccess, Effect.run_update, Effect.run_pure]
  rfl

/-- The channel an event writes to. -/
def MarkRead.target (db : Database) (e : MarkRead) : Option Uuid :=
  (db.channels.find? fun c => c.name = e.channel).map ChannelRow.id

/-- The pair an event submits. -/
def MarkRead.pair (e : MarkRead) : Stamp := toLex (((e.createdAt : ℕ) : ℤ), e.messageId)

/-- The event is of the user in the channel. -/
def MarkRead.Concerns (db : Database) (userId channelId : Uuid) (e : MarkRead) : Prop :=
  e.userId = userId ∧ e.target db = some channelId

instance (db : Database) (userId channelId : Uuid) (e : MarkRead) :
    Decidable (e.Concerns db userId channelId) := inferInstanceAs (Decidable (_ ∧ _))

/-- The row of a user in a channel. -/
def IsRead (userId channelId : Uuid) (r : ReadRow) : Prop :=
  r.userId = userId ∧ r.channelId = channelId

instance (userId channelId : Uuid) (r : ReadRow) : Decidable (IsRead userId channelId r) :=
  inferInstanceAs (Decidable (_ ∧ _))

/-- The pair of a row. -/
def ReadRow.pair (r : ReadRow) : Stamp := toLex (r.lastReadCreatedAt, r.lastReadMessageId)

/-- The row of a user in a channel. -/
def Database.readRow? (db : Database) (userId channelId : Uuid) : Option ReadRow :=
  db.channelReads.find? fun r => IsRead userId channelId r

/-- The stored cursor. -/
def cursor (db : Database) (userId channelId : Uuid) : WithBot Stamp :=
  match db.readRow? userId channelId with
  | some r => r.pair
  | none => ⊥

/-- The pairs the events of a user in a channel name. -/
def submitted (db : Database) (userId channelId : Uuid) (es : List MarkRead) : List Stamp :=
  (es.filter fun e => e.Concerns db userId channelId).map MarkRead.pair

/-- The instant fits a signed integer, and on equal instants the identifier of the cursor is not
greater. -/
def InOrder (userId channelId : Uuid) (db : Database) (e : MarkRead) : Prop :=
  e.Concerns db userId channelId → (e.createdAt : ℕ) < 2 ^ 63 ∧
    ∀ r ∈ db.readRow? userId channelId, r.lastReadCreatedAt = ((e.createdAt : ℕ) : ℤ) →
      r.lastReadMessageId ≤ e.messageId

instance (userId channelId : Uuid) (db : Database) (e : MarkRead) :
    Decidable (InOrder userId channelId db e) := inferInstanceAs (Decidable (_ → _))

/-- The stored instant is a `bigint`. -/
def Bounded (db : Database) (userId channelId : Uuid) : Prop :=
  ∀ r ∈ db.readRow? userId channelId, r.lastReadCreatedAt < 2 ^ 63

/-! ### One event -/

section Step

variable {db : Database} {userId channelId : Uuid} {e : MarkRead}

/-- What the upsert makes of a row. -/
def ReadRow.advance (e : MarkRead) (r : ReadRow) : ReadRow :=
  { r with
    lastReadCreatedAt := max r.lastReadCreatedAt (asI64 e.createdAt)
    lastReadMessageId :=
      if r.lastReadCreatedAt ≤ asI64 e.createdAt then e.messageId else r.lastReadMessageId
    updatedAt := e.now }

/-- What the upsert inserts. -/
def MarkRead.row (e : MarkRead) (channelId : Uuid) : ReadRow :=
  { userId := e.userId, channelId := channelId, lastReadCreatedAt := asI64 e.createdAt,
    lastReadMessageId := e.messageId, updatedAt := e.now }

lemma MarkRead.step_channels (e : MarkRead) : (e.step db).channels = db.channels := by
  rw [step, Database.markRead]
  split
  · rfl
  · split <;> rfl

/-- An update that leaves the keys of the rows. -/
lemma find?_map_read {f : ReadRow → ReadRow} (rows : List ReadRow)
    (hf : ∀ r, IsRead userId channelId (f r) ↔ IsRead userId channelId r) :
    (rows.map f).find? (fun r => IsRead userId channelId r)
      = (rows.find? fun r => IsRead userId channelId r).map f := by
  rw [List.find?_map]
  congr 2
  funext r
  exact decide_eq_decide.mpr (hf r)

/-- The row an event leaves, by the row before. -/
lemma readRow?_step (db : Database) (e : MarkRead) (userId channelId : Uuid) :
    (e.step db).readRow? userId channelId =
      if e.Concerns db userId channelId then
        some (((db.readRow? userId channelId).map (ReadRow.advance e)).getD (e.row channelId))
      else db.readRow? userId channelId := by
  rw [MarkRead.step, Database.markRead]
  cases hfind : db.channels.find? fun c => c.name = e.channel with
  | none =>
      have hother : ¬ e.Concerns db userId channelId := by
        rw [MarkRead.Concerns, MarkRead.target, hfind]
        simp
      rw [if_neg hother]
  | some c =>
      have hconcerns : e.Concerns db userId channelId ↔ IsRead userId channelId (e.row c.id) := by
        rw [MarkRead.Concerns, MarkRead.target, hfind]
        simp [IsRead, MarkRead.row]
      simp only [hconcerns]
      by_cases hrow : ∃ r ∈ db.channelReads, r.userId = e.userId ∧ r.channelId = c.id
      · rw [if_pos hrow, Database.readRow?,
          find?_map_read _ fun r => by split_ifs <;> exact Iff.rfl, Database.readRow?]
        cases hread : db.channelReads.find? fun r => IsRead userId channelId r with
        | none =>
            have hother : ¬ IsRead userId channelId (e.row c.id) := by
              rintro ⟨rfl, rfl⟩
              obtain ⟨r, hr, hkey⟩ := hrow
              exact List.find?_eq_none.mp hread r hr (decide_eq_true hkey)
            rw [if_neg hother, Option.map_none]
        | some r =>
            have hkey := List.find?_some hread
            obtain ⟨rfl, rfl⟩ := of_decide_eq_true hkey
            rw [Option.map_some, Option.map_some, Option.getD_some]
            by_cases hmine : r.userId = e.userId ∧ r.channelId = c.id
            · have hown : IsRead r.userId r.channelId (e.row c.id) := ⟨hmine.1.symm, hmine.2.symm⟩
              rw [if_pos hmine, if_pos hown]
              rfl
            · have hother : ¬ IsRead r.userId r.channelId (e.row c.id) :=
                fun h => hmine ⟨h.1.symm, h.2.symm⟩
              rw [if_neg hmine, if_neg hother]
      · rw [if_neg hrow, Database.readRow?]
        change (db.channelReads ++ [e.row c.id]).find? _ = _
        rw [List.find?_append, List.find?_singleton]
        by_cases hmine : IsRead userId channelId (e.row c.id)
        · obtain ⟨rfl, rfl⟩ := hmine
          have hown : IsRead (e.row c.id).userId (e.row c.id).channelId (e.row c.id) := ⟨rfl, rfl⟩
          have hnone : db.readRow? (e.row c.id).userId (e.row c.id).channelId = none :=
            List.find?_eq_none.mpr fun r hr hkey => hrow ⟨r, hr, of_decide_eq_true hkey⟩
          rw [if_pos hown, if_pos (decide_eq_true hown), hnone]
          change Option.or (db.readRow? _ _) _ = _
          rw [hnone]
          rfl
        · rw [if_neg hmine, if_neg (by simpa using hmine), Option.or_none, Database.readRow?]

lemma asI64_lt (n : U64) : asI64 n < 2 ^ 63 := by
  by_cases h : (n : ℕ) < 2 ^ 63
  · rw [asI64_of_lt h]
    exact_mod_cast h
  · exact (asI64_neg h).trans (by norm_num)

/-- The column stays a `bigint`. -/
lemma Bounded.step (h : Bounded db userId channelId) (e : MarkRead) :
    Bounded (e.step db) userId channelId := by
  intro r hr
  rw [readRow?_step] at hr
  split_ifs at hr
  · cases hread : db.readRow? userId channelId with
    | none =>
        rw [hread] at hr
        obtain rfl := Option.some.inj hr
        exact asI64_lt e.createdAt
    | some r' =>
        rw [hread] at hr
        obtain rfl := Option.some.inj hr
        exact max_lt (h r' hread) (asI64_lt e.createdAt)
  · exact h r hr

/-- The advance of a row is the greater pair iff the event is in order. -/
lemma pair_advance_iff {r : ReadRow} (h : r.lastReadCreatedAt < 2 ^ 63) :
    (r.advance e).pair = max r.pair e.pair ↔ (e.createdAt : ℕ) < 2 ^ 63 ∧
      (r.lastReadCreatedAt = ((e.createdAt : ℕ) : ℤ) → r.lastReadMessageId ≤ e.messageId) := by
  by_cases hfit : (e.createdAt : ℕ) < 2 ^ 63
  · rw [ReadRow.pair, ReadRow.advance, asI64_of_lt hfit, and_iff_right hfit]
    rcases lt_trichotomy r.lastReadCreatedAt ((e.createdAt : ℕ) : ℤ) with hlt | heq | hgt
    · have hle : r.pair ≤ e.pair := Prod.Lex.toLex_le_toLex.mpr (Or.inl hlt)
      rw [max_eq_right hlt.le, if_pos hlt.le, max_eq_right hle]
      exact iff_of_true rfl fun heq => absurd heq hlt.ne
    · have hpair : r.pair ≤ e.pair ↔ r.lastReadMessageId ≤ e.messageId := by
        rw [ReadRow.pair, MarkRead.pair, Prod.Lex.toLex_le_toLex]
        simp [heq]
      rw [if_pos heq.le, max_eq_right heq.le, ← hpair]
      exact ⟨fun hmax _ => max_eq_right_iff.mp hmax.symm, fun hle => (max_eq_right (hle heq)).symm⟩
    · have hle : e.pair ≤ r.pair := Prod.Lex.toLex_le_toLex.mpr (Or.inl hgt)
      rw [max_eq_left hgt.le, if_neg hgt.not_ge, max_eq_left hle]
      exact iff_of_true rfl fun heq => absurd heq hgt.ne'
  · -- the cast instant stays below every instant that does not fit
    refine iff_of_false (fun hmax => ?_) fun hin => hfit hin.1
    have hbound : (r.advance e).lastReadCreatedAt < ((e.createdAt : ℕ) : ℤ) :=
      (max_lt h (asI64_lt e.createdAt)).trans_le (by exact_mod_cast not_lt.mp hfit)
    have hlt : (r.advance e).pair < e.pair := Prod.Lex.toLex_lt_toLex.mpr (Or.inl hbound)
    exact (hlt.trans_le (le_max_right r.pair e.pair)).ne hmax

/-- The first row of an event. -/
lemma pair_row_iff : (e.row channelId).pair = e.pair ↔ (e.createdAt : ℕ) < 2 ^ 63 := by
  constructor
  · intro hpair
    by_contra hfit
    have hbound : asI64 e.createdAt < ((e.createdAt : ℕ) : ℤ) :=
      (asI64_lt e.createdAt).trans_le (by exact_mod_cast not_lt.mp hfit)
    have hlt : (e.row channelId).pair < e.pair := Prod.Lex.toLex_lt_toLex.mpr (Or.inl hbound)
    exact hlt.ne hpair
  · intro hfit
    rw [ReadRow.pair, MarkRead.row, MarkRead.pair, asI64_of_lt hfit]

lemma submitted_nil : submitted db userId channelId [] = [] := rfl

lemma submitted_cons_pos (h : e.Concerns db userId channelId) (es : List MarkRead) :
    submitted db userId channelId (e :: es) = e.pair :: submitted db userId channelId es := by
  rw [submitted, List.filter_cons, if_pos (decide_eq_true h), List.map_cons, submitted]

lemma submitted_cons_neg (h : ¬ e.Concerns db userId channelId) (es : List MarkRead) :
    submitted db userId channelId (e :: es) = submitted db userId channelId es := by
  rw [submitted, List.filter_cons, if_neg (by simpa using h), submitted]

/-- The first event and the rest. -/
lemma maximum_submitted_cons (e : MarkRead) (es : List MarkRead) :
    (submitted db userId channelId (e :: es)).maximum =
      max (submitted db userId channelId [e]).maximum
        (submitted db userId channelId es).maximum := by
  by_cases hmine : e.Concerns db userId channelId
  · rw [submitted_cons_pos hmine, submitted_cons_pos hmine, submitted_nil, List.maximum_cons,
      List.maximum_singleton]
  · rw [submitted_cons_neg hmine, submitted_cons_neg hmine, submitted_nil, List.maximum_nil,
      bot_sup_eq]

/-- An event moves the cursor to the greater pair iff it is in order. -/
lemma cursor_step_iff (h : Bounded db userId channelId) (e : MarkRead) :
    cursor (e.step db) userId channelId =
        max (cursor db userId channelId) (submitted db userId channelId [e]).maximum ↔
      InOrder userId channelId db e := by
  rw [InOrder, cursor, readRow?_step]
  by_cases hmine : e.Concerns db userId channelId
  · rw [if_pos hmine, imp_iff_right hmine, submitted_cons_pos hmine, submitted_nil,
      List.maximum_singleton, cursor]
    cases hread : db.readRow? userId channelId with
    | none =>
        simpa using pair_row_iff
    | some r =>
        simp only [Option.map_some, Option.getD_some, Option.mem_some_iff, forall_eq']
        rw [← WithBot.coe_max, WithBot.coe_inj, pair_advance_iff (h r hread)]
  · rw [if_neg hmine, submitted_cons_neg hmine, submitted_nil, List.maximum_nil, sup_bot_eq]
    exact iff_of_true rfl fun hin => absurd hin hmine

/-- What the events name is read in the channels alone. -/
lemma submitted_step (e : MarkRead) (es : List MarkRead) :
    submitted (e.step db) userId channelId es = submitted db userId channelId es := by
  have hconcerns : ∀ e' : MarkRead,
      e'.Concerns (e.step db) userId channelId ↔ e'.Concerns db userId channelId := by
    intro e'
    rw [MarkRead.Concerns, MarkRead.target, MarkRead.step_channels, MarkRead.Concerns,
      MarkRead.target]
  rw [submitted, submitted]
  simp only [hconcerns]

end Step

/-! ### Every order of events -/

/-- **The cursor is the greatest pair**, the first cursor included, in every state of a run iff
every event of the user in the channel is in order. -/
theorem cursor_eq_maximum_iff {db : Database} {userId channelId : Uuid}
    (h : Bounded db userId channelId) (es : List MarkRead) :
    (∀ n, cursor (final MarkRead.step db (es.take n)) userId channelId =
        max (cursor db userId channelId) (submitted db userId channelId (es.take n)).maximum) ↔
      Along MarkRead.step (InOrder userId channelId) db es := by
  induction es generalizing db with
  | nil => simp [submitted_nil]
  | cons e es ih =>
      rw [along_cons, ← ih (h.step e), ← cursor_step_iff h e]
      constructor
      · intro hall
        have hfirst := hall 1
        refine ⟨hfirst, fun n => ?_⟩
        have hnext := hall (n + 1)
        rw [List.take_succ_cons, final_cons, maximum_submitted_cons, ← max_assoc] at hnext
        rw [hnext, submitted_step]
        rw [List.take_succ_cons, List.take_zero, final_cons, final_nil] at hfirst
        rw [hfirst]
      · rintro ⟨hfirst, hrest⟩ n
        cases n with
        | zero => simp [submitted_nil]
        | succ n =>
            rw [List.take_succ_cons, final_cons, hrest n, hfirst, submitted_step, max_assoc,
              ← maximum_submitted_cons]

/-- A database with one channel, in which nothing is read. -/
def unreadHall : Database := { channels := [{ id := 2, name := "main", createdAt := 0 }] }

/-- An event of user 1 in the channel. -/
def markAt (createdAt : U64) (messageId : Uuid) : MarkRead :=
  { userId := 1, channel := "main", messageId := messageId, createdAt := createdAt, now := 0 }

lemma unreadHall_bounded : Bounded unreadHall 1 2 := by
  have hnone : unreadHall.readRow? 1 2 = none := by decide
  rw [Bounded, hnone]
  simp

/-- Devices that report in the order of the history, one of them late. -/
theorem cursor_late_device :
    Bounded unreadHall 1 2 ∧
      ∀ n, cursor (final MarkRead.step unreadHall
          ([markAt 1000 3, markAt 1000 7, markAt 900 8].take n)) 1 2 =
        max (cursor unreadHall 1 2) (submitted unreadHall 1 2
          ([markAt 1000 3, markAt 1000 7, markAt 900 8].take n)).maximum :=
  ⟨unreadHall_bounded, (cursor_eq_maximum_iff unreadHall_bounded _).mpr (by decide)⟩

/-- Two messages of one millisecond, reported in the other order: the cursor goes back to the
first, while the same events in order leave it at the second. -/
theorem cursor_not_maximum :
    (submitted unreadHall 1 2 [markAt 1000 7, markAt 1000 3]).maximum =
        ((toLex ((1000 : ℤ), 7) : Stamp) : WithBot Stamp) ∧
      cursor (final MarkRead.step unreadHall [markAt 1000 7]) 1 2 =
        ((toLex ((1000 : ℤ), 7) : Stamp) : WithBot Stamp) ∧
      cursor (final MarkRead.step unreadHall [markAt 1000 7, markAt 1000 3]) 1 2 =
        ((toLex ((1000 : ℤ), 3) : Stamp) : WithBot Stamp) ∧
      cursor (final MarkRead.step unreadHall [markAt 1000 3, markAt 1000 7]) 1 2 =
        ((toLex ((1000 : ℤ), 7) : Stamp) : WithBot Stamp) := by
  decide

end Vussa
