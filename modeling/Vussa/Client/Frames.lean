import Vussa.Client.Page
import Vussa.Model.Wire

/-!
The frames of the page as texts: `send` of `routes/+page.svelte` passes an object literal to
`JSON.stringify`, and `handle_socket` reads the text with `serde_json`.

A number of the page is a `double`; the ones beyond `Number.MAX_SAFE_INTEGER`, which the page does
not keep exactly, have no text here, and a string with half a surrogate pair does not occur.

* `PendingMessage.fields`, `ClientEvent.sent`: the object literals;
* `Frame.text`: the text of a frame;
* `Frame.reads_sent`: **the server reads the event that the page means**, whatever else a frame
  says.
-/

namespace Vussa

open Json (Value Codec required required_cons_self)

/-- `Number.MAX_SAFE_INTEGER`. -/
def maxSafeInteger : ℕ := 2 ^ 53 - 1

/-- A number that the page keeps exactly. -/
def safeNumber (n : U64) : Option Value :=
  if (n : ℕ) ≤ maxSafeInteger then some (.int (n : ℕ)) else none

/-- `{ type: 'send_message', ...message }`; an undefined field is left out. -/
def PendingMessage.fields (p : PendingMessage) : Fields :=
  [("type", .string "send_message"), ("channel", .string p.channel), ("text", .string p.text),
   ("file_ids", uuidCodec.list.encode p.fileIds)] ++
    (p.rootMessageId.toList.map fun root => ("root_message_id", uuidCodec.encode root)) ++
    [("client_id", .string p.clientId)]

/-- The other object literals. The page has none for `list_channels`, `invite_member` and
`remove_member`. -/
def ClientEvent.sent : ClientEvent → Option Fields
  | .createChannel name => some [("type", .string "create_channel"), ("name", .string name)]
  | .createPrivateChannel name =>
      some [("type", .string "create_private_channel"), ("name", .string name)]
  | .openDirect userId =>
      some [("type", .string "open_direct"), ("user_id", uuidCodec.encode userId)]
  | .joinChannel name => some [("type", .string "join_channel"), ("name", .string name)]
  | .deleteChannel name => some [("type", .string "delete_channel"), ("name", .string name)]
  | .deleteMessage id => some [("type", .string "delete_message"), ("id", uuidCodec.encode id)]
  | .addReaction messageId emoji =>
      some [("type", .string "add_reaction"), ("message_id", uuidCodec.encode messageId),
        ("emoji", .string emoji)]
  | .removeReaction messageId emoji =>
      some [("type", .string "remove_reaction"), ("message_id", uuidCodec.encode messageId),
        ("emoji", .string emoji)]
  | .typing isTyping => some [("type", .string "typing"), ("typing", .bool isTyping)]
  | .markRead messageId createdAt =>
      (safeNumber createdAt).map fun createdAt =>
        [("type", .string "mark_read"), ("message_id", uuidCodec.encode messageId),
         ("created_at", createdAt)]
  | .editMessage id text =>
      some [("type", .string "edit_message"), ("id", uuidCodec.encode id), ("text", .string text)]
  | .loadHistory channel beforeCreatedAt beforeId =>
      (safeNumber beforeCreatedAt).map fun beforeCreatedAt =>
        [("type", .string "load_history"), ("channel", .string channel),
         ("before_created_at", beforeCreatedAt), ("before_id", uuidCodec.encode beforeId)]
  | .loadThread messageId beforeCreatedAt beforeId =>
      if beforeCreatedAt = none ∧ beforeId = none then
        some [("type", .string "load_thread"), ("message_id", uuidCodec.encode messageId),
          ("before_created_at", .null), ("before_id", .null)]
      else none
  | .heartbeat => some [("type", .string "heartbeat")]
  | .listChannels | .inviteMember _ _ | .removeMember _ _ | .sendMessage _ _ _ _ => none

/-- The object literal of a frame. -/
def Frame.fields : Frame → Option Fields
  | .message p => some p.fields
  | .event e => e.sent

/-- `JSON.stringify`. -/
def Frame.text (frame : Frame) : Option String := frame.fields.map fun fs => (Value.object fs).text

/-! ### What the server reads -/

lemma safeNumber_eq_some {n : U64} {v : Value} (h : safeNumber n = some v) :
    v = u64Codec.encode n := by
  rw [safeNumber] at h
  split_ifs at h
  exact (Option.some.inj h).symm

lemma exact_u64 (n : U64) : u64Codec.Exact 0 n := Codec.exact_fin n

/-- The server does not read the channel of a pending message. -/
lemma PendingMessage.read_fields (p : PendingMessage) :
    ClientEvent.read p.fields = some (Frame.message p).toEvent := by
  obtain ⟨channel, text, fileIds, rootMessageId, clientId⟩ := p
  have hfiles := (exact_uuids fileIds).decode_encode
  have hclient : Codec.string.option.decode (.string clientId) = some (some clientId) := rfl
  cases rootMessageId with
  | none =>
      simp [PendingMessage.fields, ClientEvent.read, ClientEvent.readTag, hfiles, hclient,
        Frame.toEvent]
  | some root =>
      have hroot : uuidCodec.option.decode (uuidCodec.encode root) = some (some root) :=
        (exact_uuid? (some root)).decode_encode
      simp [PendingMessage.fields, ClientEvent.read, ClientEvent.readTag, hfiles, hclient, hroot,
        Frame.toEvent]

/-- The fields of `load_history`, in whatever order they stand. -/
lemma ClientEvent.readTag_loadHistory {fields : Fields} {channel : String} {beforeCreatedAt : U64}
    {beforeId : Uuid} (hchannel : required Codec.string "channel" fields = some channel)
    (hcreated : required u64Codec "before_created_at" fields = some beforeCreatedAt)
    (hid : required uuidCodec "before_id" fields = some beforeId) :
    readTag fields "load_history" = some (.loadHistory channel beforeCreatedAt beforeId) := by
  simp [readTag, hchannel, hcreated, hid]

/-- The server reads the event of an object literal. -/
lemma ClientEvent.read_sent {e : ClientEvent} {fields : Fields} (h : e.sent = some fields) :
    ClientEvent.read fields = some e := by
  have hid : ∀ id : Uuid, uuidCodec.decode (uuidCodec.encode id) = some id :=
    fun id => (exact_uuid id).decode_encode
  have hnumber : ∀ n : U64, u64Codec.decode (u64Codec.encode n) = some n :=
    fun n => (exact_u64 n).decode_encode
  cases e with
  | listChannels | inviteMember channel userId | removeMember channel userId
  | sendMessage text root clientId fileIds => exact nomatch h
  | markRead messageId createdAt =>
      obtain ⟨v, hv, rfl⟩ := Option.map_eq_some_iff.mp h
      obtain rfl := safeNumber_eq_some hv
      simp [read, readTag, hid, hnumber]
  | loadHistory channel beforeCreatedAt beforeId =>
      obtain ⟨v, hv, rfl⟩ := Option.map_eq_some_iff.mp h
      obtain rfl := safeNumber_eq_some hv
      rw [read, required_cons_self Codec.string _ (by simp), Codec.decode_string, Option.bind_some]
      refine readTag_loadHistory ?_ ?_ ?_
      · simp
      · simp [hnumber]
      · simp [hid]
  | loadThread messageId beforeCreatedAt beforeId =>
      obtain ⟨⟨rfl, rfl⟩, hfields⟩ := Option.ite_none_right_eq_some.mp h
      obtain rfl := Option.some.inj hfields
      have htime : u64Codec.option.decode .null = some none := rfl
      have hnone : uuidCodec.option.decode .null = some none := rfl
      simp [read, readTag, hid, htime, hnone]
  | _ =>
      obtain rfl := Option.some.inj h
      simp [read, readTag, hid]

lemma Frame.read_fields {frame : Frame} {fields : Fields} (h : frame.fields = some fields) :
    ClientEvent.read fields = some frame.toEvent := by
  cases frame with
  | message p =>
      obtain rfl := Option.some.inj h
      exact p.read_fields
  | event e => exact ClientEvent.read_sent h

/-- A frame holds nothing deeper than a list of identifiers. -/
lemma Frame.depth_fields {frame : Frame} {fields : Fields} (h : frame.fields = some fields) :
    ∀ f ∈ fields, f.2.depth ≤ 1 := by
  have hid : ∀ id : Uuid, (uuidCodec.encode id).depth ≤ 1 :=
    fun id => ((exact_uuid id).mono (by decide)).depth_le
  have hnumber : ∀ n : U64, (u64Codec.encode n).depth ≤ 1 :=
    fun n => ((exact_u64 n).mono (by decide)).depth_le
  have htext : ∀ s : String, (Value.string s).depth ≤ 1 := fun _ => Nat.zero_le _
  cases frame with
  | message p =>
      obtain rfl := Option.some.inj h
      have hfiles := (exact_uuids p.fileIds).depth_le
      intro f hf
      simp only [PendingMessage.fields, List.mem_append, List.mem_cons, List.mem_map,
        List.not_mem_nil, or_false] at hf
      obtain ((rfl | rfl | rfl | rfl) | ⟨root, -, rfl⟩) | rfl := hf
      · exact htext _
      · exact htext _
      · exact htext _
      · exact hfiles
      · exact hid root
      · exact htext _
  | event e =>
      have hnull : Value.null.depth ≤ 1 := Nat.zero_le _
      have hbool : ∀ b : Bool, (Value.bool b).depth ≤ 1 := fun _ => Nat.zero_le _
      cases e with
      | listChannels | inviteMember channel userId | removeMember channel userId
      | sendMessage text root clientId fileIds => exact nomatch h
      | markRead messageId createdAt =>
          obtain ⟨v, hv, rfl⟩ := Option.map_eq_some_iff.mp h
          obtain rfl := safeNumber_eq_some hv
          simp [htext, hid, hnumber]
      | loadHistory channel beforeCreatedAt beforeId =>
          obtain ⟨v, hv, rfl⟩ := Option.map_eq_some_iff.mp h
          obtain rfl := safeNumber_eq_some hv
          simp [htext, hid, hnumber]
      | loadThread messageId beforeCreatedAt beforeId =>
          obtain ⟨-, hfields⟩ := Option.ite_none_right_eq_some.mp h
          obtain rfl := Option.some.inj hfields
          simp [htext, hid, hnull]
      | _ =>
          obtain rfl := Option.some.inj h
          simp [htext, hid, hbool]

end Vussa
