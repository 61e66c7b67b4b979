import Vussa.Lib.Cascade
import Vussa.History.Served

/-!
What the retention policy keeps (`prune_expired` and `load_messages` of `repository/postgres.rs`,
`validate_retention_days` of `api/admin.rs`).

`prune_expired` reads the days of each channel and takes the replies of what it deletes along, by
the foreign key `root_message_id`; `load_messages` has a window of its own.

* `Expired`, `pruneExpired`: the rows the statement selects, and the tables after its cascade;
* `mem_pruneExpired_iff`: which messages stay;
* `retained_iff`: **a message within its retention stays stored and readable exactly when it is in
  the window too and no message above it on its chain of roots has expired**; `lounge_disagrees` has
  one of each kind that does not.
-/

namespace Vussa.Retention

open Relation Table

/-! ### The statements -/

/-- `validate_retention_days`. -/
def validateRetentionDays (value : Option ℤ) : Except AppError (Option ℤ) :=
  if ∃ days ∈ value, ¬ (1 ≤ days ∧ days ≤ 3650) then
    .error (.badRequest "retention must be between 1 and 3650 days")
  else .ok value

lemma validateRetentionDays_ok {days : ℤ} {value : Option ℤ}
    (h : validateRetentionDays (some days) = .ok value) : 1 ≤ days ∧ days ≤ 3650 := by
  rw [validateRetentionDays] at h
  split_ifs at h with hbound
  by_contra hout
  exact hbound ⟨days, rfl, hout⟩

/-- `m.created_at < $1 - (GREATEST(c.retention_days,1)::BIGINT * 86400000)`. -/
def PastRetention (now : Millis) (c : ChannelRow) (m : MessageRow) : Prop :=
  ((m.createdAt : ℕ) : ℤ) < ((now : ℕ) : ℤ) - max (c.retentionDays : ℤ) 1 * 86400000

instance (now : Millis) (c : ChannelRow) (m : MessageRow) : Decidable (PastRetention now c m) :=
  inferInstanceAs (Decidable (_ < _))

/-- The `WHERE` clause of `prune_expired`. -/
def Expired (db : Database) (now : Millis) (m : MessageRow) : Prop :=
  ∃ c ∈ db.channels, m.channelId = c.id ∧ PastRetention now c m

instance (db : Database) (now : Millis) (m : MessageRow) : Decidable (Expired db now m) :=
  inferInstanceAs (Decidable (∃ c ∈ db.channels, _))

/-- The ids of the rows that `prune_expired` selects. -/
def expiredIds (db : Database) (now : Millis) : List Uuid :=
  (db.messages.filter fun m => Expired db now m).map MessageRow.id

/-- `prune_expired`: the tables after the cascades, and the number of rows selected. A row of the
other tables stays as long as the message it refers to. -/
def pruneExpired (db : Database) (now : Millis) : Database × ℕ :=
  let messages := cascade MessageRow.id MessageRow.rootMessageId (expiredIds db now) db.messages
  ({ db with
      messages
      messageFiles := db.messageFiles.filter fun mf => ∃ m ∈ messages, m.id = mf.messageId
      messageReactions := db.messageReactions.filter fun r => ∃ m ∈ messages, m.id = r.messageId },
    (expiredIds db now).length)

/-- A message refers to its root. -/
abbrev ReplyTo (db : Database) : MessageRow → MessageRow → Prop :=
  Above MessageRow.id MessageRow.rootMessageId db.messages

/-! ### What is stored -/

/-- **The messages that stay** are those without an expired message on their chain of roots,
themselves included. -/
theorem mem_pruneExpired_iff {db : Database} (hwf : db.WellFormed) {now : Millis} {m : MessageRow} :
    m ∈ (pruneExpired db now).1.messages ↔
      m ∈ db.messages ∧ ∀ root, ReflTransGen (ReplyTo db) m root → ¬ Expired db now root := by
  have hids : ∀ id ∈ expiredIds db now, ∃ r ∈ db.messages, r.id = id := by
    intro id hid
    obtain ⟨r, hr, rfl⟩ := List.mem_map.mp hid
    exact ⟨r, List.mem_of_mem_filter hr, rfl⟩
  have hexpired : ∀ r ∈ db.messages, r.id ∈ expiredIds db now ↔ Expired db now r := by
    intro r hr
    constructor
    · intro hid
      obtain ⟨r', hr', heq⟩ := List.mem_map.mp hid
      obtain ⟨hmem, hexp⟩ := List.mem_filter.mp hr'
      obtain rfl := List.inj_on_of_nodup_map hwf.messageId hmem hr heq
      exact of_decide_eq_true hexp
    · intro hexp
      exact List.mem_map_of_mem (List.mem_filter.mpr ⟨hr, decide_eq_true hexp⟩)
  have hstay : m ∈ (pruneExpired db now).1.messages ↔ m ∈ db.messages ∧
      ¬ Doomed MessageRow.id MessageRow.rootMessageId db.messages (expiredIds db now) m :=
    mem_cascade_iff hwf.messageId hids
  refine hstay.trans (and_congr_right fun hm => ?_)
  have hmem : ∀ root, ReflTransGen (ReplyTo db) m root → root ∈ db.messages := by
    intro root hchain
    rcases hchain.cases_tail with rfl | ⟨r, -, hlast⟩
    · exact hm
    · exact hlast.1
  constructor
  · intro hfree root hchain hexp
    exact hfree ⟨root, hchain, (hexpired root (hmem root hchain)).mpr hexp⟩
  · rintro hfree ⟨root, hchain, hid⟩
    exact hfree root hchain ((hexpired root (hmem root hchain)).mp hid)

/-! ### What the policy keeps -/

/-- The message is younger than the retention of its channel. -/
def Young (now : Millis) (c : ChannelRow) (m : MessageRow) : Prop :=
  ((now : ℕ) : ℤ) - (c.retentionDays : ℤ) * 86400000 ≤ ((m.createdAt : ℕ) : ℤ)

instance (now : Millis) (c : ChannelRow) (m : MessageRow) : Decidable (Young now c m) :=
  inferInstanceAs (Decidable (_ ≤ _))

/-- `load_messages` does not filter the message out by its age: if it is a top-level message of a
live channel, it is served. -/
def Readable (db : Database) (now : Millis) (c : ChannelRow) (m : MessageRow) : Prop :=
  m.rootMessageId = none → db.liveChannel? c.name = some c → Served db now c.name m

/-- **What the retention policy keeps**: a message that is younger than the retention of its channel
when it is read is still stored after an earlier `prune_expired`, and not filtered out by its age,
exactly when it lies in the window of `load_messages` and none of the messages above it on its chain
of roots had expired. -/
theorem retained_iff {db : Database} (hwf : db.WellFormed) {c : ChannelRow} (hc : c ∈ db.channels)
    (hdays : validateRetentionDays (some c.retentionDays) = .ok (some c.retentionDays))
    {m : MessageRow} (hm : m ∈ db.messages) (hchannel : m.channelId = c.id)
    {pruned read : Millis} (hle : pruned ≤ read) (hyoung : Young read c m) :
    (m ∈ (pruneExpired db pruned).1.messages ∧ Readable (pruneExpired db pruned).1 read c m) ↔
      (m.rootMessageId = none → db.liveChannel? c.name = some c →
        ((read : ℕ) : ℤ) - historyWindow ≤ ((m.createdAt : ℕ) : ℤ)) ∧
      ∀ root, TransGen (ReplyTo db) m root → ¬ Expired db pruned root := by
  have hlive : (pruneExpired db pruned).1.liveChannel? c.name = db.liveChannel? c.name := rfl
  have hfresh : ¬ Expired db pruned m := by
    rintro ⟨c', hc', hid, hpast⟩
    obtain rfl : c' = c := List.inj_on_of_nodup_map hwf.channelId hc' hc (hid.symm.trans hchannel)
    have hone := (validateRetentionDays_ok hdays).1
    have hle' : (pruned : ℕ) ≤ (read : ℕ) := hle
    rw [PastRetention, max_eq_left hone] at hpast
    rw [Young] at hyoung
    omega
  have hstored : m ∈ (pruneExpired db pruned).1.messages ↔
      ∀ root, TransGen (ReplyTo db) m root → ¬ Expired db pruned root := by
    rw [mem_pruneExpired_iff hwf, and_iff_right hm]
    constructor
    · exact fun hfree root hchain => hfree root hchain.to_reflTransGen
    · intro hfree root hchain
      rcases reflTransGen_iff_eq_or_transGen.mp hchain with rfl | habove
      · exact hfresh
      · exact hfree root habove
  rw [← hstored, and_comm]
  refine and_congr_left fun hkept => forall₂_congr fun hroot hchan => ?_
  exact served_iff (hlive.trans hchan) hkept hchannel hroot

/-- The instant `d` days in. -/
def day (d : ℕ) : Millis := Fin.ofNat _ (d * 86400000)

/-- A message of the lounge. -/
def loungeMessage (id : Uuid) (created : ℕ) (rootMessageId : Option Uuid) : MessageRow where
  id := id
  channelId := 1
  username := "ada"
  text := "hello"
  createdAt := day created
  ownerSession := 9
  rootMessageId := rootMessageId

/-- A channel that keeps its messages for a year, on day 400: one of day 300, one of day 30 with a
reply of day 399, and one of day 395. -/
def lounge : Database where
  channels := [{ id := 1, name := "lounge", createdAt := 0, retentionDays := 365 }]
  messages := [loungeMessage 2 300 none, loungeMessage 3 30 none, loungeMessage 4 399 (some 3),
    loungeMessage 5 395 none]

/-- The channel row of the lounge. -/
def loungeChannel : ChannelRow :=
  { id := 1, name := "lounge", createdAt := 0, retentionDays := 365 }

lemma lounge_wellFormed : lounge.WellFormed := ⟨by decide, by decide, by decide⟩

/-- A top-level message has nothing above it. -/
lemma not_above_of_root_none {db : Database} {m root : MessageRow} (h : m.rootMessageId = none) :
    ¬ TransGen (ReplyTo db) m root := by
  intro hchain
  obtain ⟨r, hstep, -⟩ := TransGen.head'_iff.mp hchain
  rw [ReplyTo, Above, h] at hstep
  cases hstep.2

theorem lounge_retains :
    loungeMessage 5 395 none ∈ (pruneExpired lounge (day 400)).1.messages ∧
      Readable (pruneExpired lounge (day 400)).1 (day 400) loungeChannel
        (loungeMessage 5 395 none) :=
  (retained_iff lounge_wellFormed (by decide) (by decide) (by decide) rfl le_rfl
    (by decide)).mpr ⟨fun _ _ => by decide, fun _ h => absurd h (not_above_of_root_none rfl)⟩

/-- Two messages that are younger than a year on day 400: the one of day 300 is stored and not
served, the reply of day 399 is deleted with its root. -/
theorem lounge_disagrees :
    (Young (day 400) loungeChannel (loungeMessage 2 300 none) ∧
      ¬ Readable (pruneExpired lounge (day 400)).1 (day 400) loungeChannel
        (loungeMessage 2 300 none)) ∧
    Young (day 400) loungeChannel (loungeMessage 4 399 (some 3)) ∧
      loungeMessage 4 399 (some 3) ∈ lounge.messages ∧
      loungeMessage 4 399 (some 3) ∉ (pruneExpired lounge (day 400)).1.messages := by
  refine ⟨⟨by decide, fun h => ?_⟩, by decide, by decide, by decide⟩
  have hserved := (served_iff (by decide) (by decide) rfl rfl).mp (h rfl (by decide))
  exact absurd hserved (by decide)

end Vussa.Retention
