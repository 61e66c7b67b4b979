import Vussa.Lib.Run
import Vussa.Model.Backend

/-!
The message that `edit_message` and `delete_message` return, against the row they leave.

Both build the message by hand: `delete_message` with the flags its update sets, `edit_message`
with `deleted: false` whatever the row says. The message goes into the hot cache and out as
`MessageUpdated`.

* `ShowsRow`: the message, and the payload of the cache, are the projection of the stored row;
* `showsRow_edit_iff`, `showsRow_delete`: the two functions;
* `views_right_iff`: along every run of saves, edits, deletions and moderations the returned
  messages are right iff no edit hits a deleted message.
-/

namespace Vussa

open Run

/-! ### The row after an update -/

/-- The reading queries find the same rows, the updated one as updated. -/
lemma messageIn?_updateMessage_eq (db : Database) (i : Uuid) {f : MessageRow → MessageRow}
    (hf : MessageRow.Placed f) (channel : String) (id : Uuid) :
    (db.updateMessage i f).messageIn? channel id = (db.messageIn? channel id).map
      fun cm => (cm.1, if cm.2.id = i then f cm.2 else cm.2) := by
  have hlive : (db.updateMessage i f).liveChannel? channel = db.liveChannel? channel := rfl
  rw [Database.messageIn?, Database.messageIn?, hlive]
  cases db.liveChannel? channel with
  | none => rfl
  | some c =>
      have hpred : (fun m => decide (m.id = id ∧ m.channelId = c.id)) ∘
          (fun m => if m.id = i then f m else m)
          = fun m => decide (m.id = id ∧ m.channelId = c.id) := by
        funext m
        by_cases hmid : m.id = i <;> simp [hmid, hf.id, hf.channelId]
      rw [Option.bind_some, Option.bind_some, Database.updateMessage, List.find?_map, hpred,
        Option.map_map, Option.map_map]
      rfl

/-- An updated row stands where the old one was. -/
lemma messageIn?_updateMessage {db : Database} {channel : String} {id : Uuid} {c : ChannelRow}
    {m : MessageRow} {f : MessageRow → MessageRow} (hf : MessageRow.Placed f)
    (hm : db.messageIn? channel id = some (c, m)) :
    (db.updateMessage id f).messageIn? channel id = some (c, f m) := by
  obtain ⟨-, -, hid, -⟩ := Database.messageIn?_some hm
  rw [messageIn?_updateMessage_eq db id hf, hm, Option.map_some, if_pos hid]

lemma replyCount_updateMessage (db : Database) (id : Uuid) {f : MessageRow → MessageRow}
    (hf : MessageRow.Placed f) (root : Uuid) :
    (db.updateMessage id f).replyCount root = db.replyCount root := by
  rw [Database.replyCount, Database.replyCount, Database.updateMessage]
  simp only [List.filter_map, List.length_map]
  congr 2
  funext m
  by_cases hmid : m.id = id <;> simp [hmid, hf.rootMessageId]

/-- The projection of a row does not depend on the contents of the others. -/
lemma view_updateMessage (db : Database) (id : Uuid) {f : MessageRow → MessageRow}
    (hf : MessageRow.Placed f) (channel : String) (row : MessageRow) :
    (db.updateMessage id f).view channel row = db.view channel row := by
  rw [Database.view, replyCount_updateMessage db id hf, Database.view]
  rfl

/-! ### The returned message -/

/-- The message, and whatever the cache holds for it, is the projection of the stored row. -/
def ShowsRow (b : Backend) (channel : String) (id : Uuid) (message : ChatMessage) : Prop :=
  ∃ c row, b.db.messageIn? channel id = some (c, row) ∧ message = b.db.view c.name row ∧
    ∀ r, (b.history channel).messages id = some r → r.intoMessage = b.db.view c.name row

/-- After `update_hot_message` the cache holds nothing else for the message. -/
lemma updateHotMessage_payload {h : HotHistory} {message : ChatMessage} {r : StoredMessage}
    (hr : (updateHotMessage h message).messages message.id = some r) : r.intoMessage = message := by
  have hid : r.id = message.id := (updateHotMessage h message).keyed _ _ hr
  have hlog : r.intoMessage ∈ (updateHotMessage h message).log :=
    HotHistory.mem_log.mpr ⟨r, by rw [show r.intoMessage.id = r.id from rfl, hid]; exact hr, rfl⟩
  rw [updateHotMessage, storeMessage_log] at hlog
  rcases HotHistory.mem_log_store.mp (Timeline.newest_subset hlog) with heq | ⟨-, hne⟩
  · exact heq
  · exact absurd hid hne

/-- The message is written to the cache of its channel, so only the projection matters. -/
lemma showsRow_writeHot {b : Backend} {channel : String} {id : Uuid} {c : ChannelRow}
    {m : MessageRow} {f : MessageRow → MessageRow} (hf : MessageRow.Placed f)
    (hm : b.db.messageIn? channel id = some (c, m)) {message : ChatMessage}
    (hchan : message.channel = c.name) (hid : message.id = id) :
    ShowsRow ({ b with db := b.db.updateMessage id f }.writeHot message) channel id message ↔
      message = b.db.view c.name (f m) := by
  have hview := view_updateMessage b.db id hf c.name
  have hname : message.channel = channel :=
    hchan.trans (Database.liveChannel?_some (Database.messageIn?_some hm).1).2.1
  have hrow := messageIn?_updateMessage hf hm
  refine ⟨?_, ?_⟩
  · rintro ⟨c', row, hrow', hmessage, -⟩
    rw [Backend.writeHot, Backend.setHistory_db, hrow, Option.some.injEq, Prod.mk.injEq] at hrow'
    rw [Backend.writeHot, Backend.setHistory_db, ← hrow'.1, ← hrow'.2] at hmessage
    exact hmessage.trans (hview (f m))
  · intro hmessage
    refine ⟨c, f m, hrow, hmessage.trans (hview (f m)).symm, fun r hr => ?_⟩
    rw [Backend.writeHot, hname, Backend.setHistory_self, ← hid] at hr
    rw [updateHotMessage_payload hr]
    exact hmessage.trans (hview (f m)).symm

/-- `edit_message` shows the row iff the row is not deleted. -/
lemma showsRow_edit_iff {b b' : Backend} {channel : String} {id session : Uuid} {text : String}
    {message : ChatMessage} {c : ChannelRow} {m : MessageRow}
    (hm : b.db.messageIn? channel id = some (c, m))
    (hedit : b.editMessage channel id session text = .ok (b', message)) :
    ShowsRow b' channel id message ↔ m.deletedAt = none := by
  obtain ⟨db', hdb, rfl⟩ := Backend.editMessage_ok hedit
  obtain ⟨c', m', hm', -, rfl, rfl⟩ := editMessage_ok hdb
  rw [hm, Option.some.injEq, Prod.mk.injEq] at hm'
  obtain ⟨rfl, rfl⟩ := hm'
  have hid := (Database.messageIn?_some hm).2.2.1
  rw [showsRow_writeHot (MessageRow.placed_edit text) hm rfl hid]
  refine ⟨?_, ?_⟩
  · intro hview
    -- the flag `deleted` of the message is `false`
    have hdeleted := congrArg ChatMessage.deleted hview
    exact Option.isNone_iff_eq_none.mp (by simpa [Database.view, MessageRow.edit] using hdeleted)
  · intro hlive
    simp [Database.view, MessageRow.edit, hlive]

/-- `delete_message` always shows the row. -/
lemma showsRow_delete {b b' : Backend} {channel : String} {id session : Uuid} {canModerate : Bool}
    {message : ChatMessage}
    (hdel : b.deleteMessage channel id session canModerate = .ok (b', message)) :
    ShowsRow b' channel id message := by
  obtain ⟨db', hdb, rfl⟩ := Backend.deleteMessage_ok hdel
  obtain ⟨c, m, hm, -, rfl, rfl⟩ := deleteMessage_ok hdb
  have hid := (Database.messageIn?_some hm).2.2.1
  rw [showsRow_writeHot (MessageRow.placed_delete b.now) hm rfl hid]
  simp [Database.view, MessageRow.delete]

/-! ### Runs -/

/-- A successful edit or deletion returns, caches and broadcasts the projection of the row it
leaves. -/
def ViewRight (b : Backend) : MessageOp → Prop
  | .edit channel id session text => ∀ res, b.editMessage channel id session text = .ok res →
      ShowsRow res.1 channel id res.2
  | .delete channel id session canModerate =>
      ∀ res, b.deleteMessage channel id session canModerate = .ok res →
        ShowsRow res.1 channel id res.2
  | _ => True

/-- An edit by the owner does not hit a deleted message. -/
def EditsLive (b : Backend) : MessageOp → Prop
  | .edit channel id session _ =>
      ∀ cm ∈ b.db.messageIn? channel id, cm.2.ownerSession = session → cm.2.deletedAt = none
  | _ => True

instance (b : Backend) : (op : MessageOp) → Decidable (EditsLive b op)
  | .edit channel id session _ =>
      inferInstanceAs (Decidable (∀ cm ∈ b.db.messageIn? channel id, cm.2.ownerSession = session →
        cm.2.deletedAt = none))
  | .post .. | .page .. | .delete .. | .system .. | .moderate .. | .wait _ => isTrue trivial

/-- One operation. -/
lemma viewRight_iff (b : Backend) (op : MessageOp) : ViewRight b op ↔ EditsLive b op := by
  cases op with
  | edit channel id session text =>
      refine ⟨?_, ?_⟩
      · rintro hview ⟨c, m⟩ hm howner
        obtain ⟨res, hedit⟩ : ∃ res, b.editMessage channel id session text = .ok res := by
          have howner' : m.ownerSession = session := howner
          rw [Backend.editMessage, Vussa.editMessage, Option.mem_def.mp hm]
          simp only [howner', ne_eq, not_true_eq_false, if_false, Except.map]
          exact ⟨_, rfl⟩
        exact (showsRow_edit_iff hm hedit).mp (hview res hedit)
      · rintro hlive ⟨b', message⟩ hedit
        obtain ⟨db', hdb, -⟩ := Backend.editMessage_ok hedit
        obtain ⟨c, m, hm, howner, -, -⟩ := editMessage_ok hdb
        exact (showsRow_edit_iff hm hedit).mpr (hlive (c, m) hm howner)
  | delete channel id session canModerate =>
      exact ⟨fun _ => trivial, fun _ _ hdel => showsRow_delete hdel⟩
  | _ => exact Iff.rfl

/-- **Returned views.** Along every run of saves, edits, deletions, admin deletions and
restorations, every message that `edit_message` or `delete_message` returns (and that is then
cached and broadcast) is the projection of the stored row, iff every edit of the run hits a
message that is not deleted. -/
theorem views_right_iff (b : Backend) (ops : List MessageOp) :
    Along MessageOp.step ViewRight b ops ↔ Along MessageOp.step EditsLive b ops :=
  along_congr (I := fun _ => True) (fun _ _ _ => trivial) (fun b op _ => viewRight_iff b op)
    trivial ops

/-- One message of the session `7`. -/
def oneMessage : Backend where
  db := {
    channels := [{ id := 1, name := "general", createdAt := 0 }]
    messages := [{ id := 5, channelId := 1, username := "ada", text := "secret", createdAt := 10,
                   ownerSession := 7 }] }
  now := 20

/-- Its owner deletes the message and then edits it: the edit returns a message that is not
deleted, while the stored row is. -/
theorem edit_of_deleted_shows_text :
    ¬ Along MessageOp.step ViewRight oneMessage
      [.delete "general" 5 7 false, .edit "general" 5 7 "secret again"] := by
  intro hrun
  exact absurd ((viewRight_iff _ _).mp hrun.2.1) (by decide +kernel)

end Vussa
