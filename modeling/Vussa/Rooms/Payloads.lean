import Vussa.Lib.Simulation
import Vussa.Model.Wire
import Vussa.Rooms.Frames

/-!
The room manager on the bytes it really handles. A publisher encodes its event (`broadcast`), the
manager decodes the payload only to find the room, and passes the payload on as one frame for all
sockets of the room. A payload that does not decode is dropped.

* `WireHub`: the rooms with the texts their senders have sent;
* `WireHub.receive`: the arm of the loop that reads a publication;
* `WireHub.read`, `Hub.wire`: between the texts and the events of `Hub`;
* `read_final`: what the frames say is what `Hub` does on the events that the payloads say;
* `final_eq_wire`: **the frames are the texts of the events that were published**.
-/

namespace Vussa.Rooms

open Run
open Frames (interrupted)

/-! ### Texts -/

/-- `RoomEntry`, whose sender sends texts. -/
structure WireEntry where
  sent : List String := []
  clients : ℕ
  deriving DecidableEq, Repr

/-- The map `rooms` and the control channel. -/
@[ext] structure WireHub where
  rooms : String → Option WireEntry := fun _ => none
  control : List String := []

namespace WireHub

/-- Put, replace or remove the entry of a room. -/
def setRoom (w : WireHub) (channel : String) (entry : Option WireEntry) : WireHub :=
  { w with rooms := Function.update w.rooms channel entry }

/-- `if let Some(entry) = rooms.get(channel) { entry.sender.send(wire) }`. -/
def sendRoom (w : WireHub) (channel : String) (wire : String) : WireHub :=
  match w.rooms channel with
  | some entry => w.setRoom channel (some { entry with sent := entry.sent ++ [wire] })
  | none => w

/-- The routing match of `run_room_manager`, which sends the payload. -/
def route (w : WireHub) (event : ServerEvent) (wire : String) : WireHub :=
  match event with
  | .message message | .messageUpdated message => w.sendRoom message.channel wire
  | .reactionUpdated channel _ => w.sendRoom channel wire
  | .channelCreated _ | .channelDeleted _ => { w with control := w.control ++ [wire] }
  | .participants channel _ | .participantJoined channel _ | .participantLeft channel _
  | .presenceSync channel _ | .typing channel _ _ _ => w.sendRoom channel wire
  | _ => w

/-- `if let Ok(event) = serde_json::from_slice(payload)`. -/
def receive (w : WireHub) (payload : String) : WireHub :=
  match ServerEvent.ofPayload payload with
  | some event => w.route event payload
  | none => w

/-- The `Subscribe` command. -/
def subscribe (w : WireHub) (channel : String) (subscribed : Bool) : WireHub :=
  match w.rooms channel with
  | some entry => w.setRoom channel (some { entry with clients := entry.clients + 1 })
  | none => if subscribed then w.setRoom channel (some { clients := 1 }) else w

/-- The `Release` command. -/
def release (w : WireHub) (channel : String) : WireHub :=
  match w.rooms channel with
  | some entry =>
      if entry.clients - 1 = 0 then w.setRoom channel none
      else w.setRoom channel (some { entry with clients := entry.clients - 1 })
  | none => w

end WireHub

/-- What the loop of the manager takes up. -/
inductive Turn (α : Type) where
  | subscribe (channel : String) (subscribed : Bool)
  | release (channel : String)
  | publication (payload : α)
  /-- the connection to Valkey was lost -/
  | interrupted
  deriving DecidableEq, Repr

/-- The text that the manager sends by hand. -/
def interruptedText : String :=
  "\x7b\"type\":\"error\",\"message\":\"realtime connection interrupted\"\x7d"

/-- The loop on texts. -/
def WireHub.step (w : WireHub) : Turn String → WireHub
  | .subscribe channel subscribed => w.subscribe channel subscribed
  | .release channel => w.release channel
  | .publication payload => w.receive payload
  | .interrupted => { w with control := w.control ++ [interruptedText] }

/-- The loop on events. -/
def Hub.step (h : Hub) : Turn ServerEvent → Hub
  | .subscribe channel subscribed => (h.subscribe channel subscribed).1
  | .release channel => h.release channel
  | .publication event => h.route event
  | .interrupted => { h with control := h.control ++ [interrupted] }

/-- What a turn says; a payload that does not decode says nothing. -/
def Turn.read : Turn String → Option (Turn ServerEvent)
  | .subscribe channel subscribed => some (.subscribe channel subscribed)
  | .release channel => some (.release channel)
  | .publication payload => (ServerEvent.ofPayload payload).map .publication
  | .interrupted => some .interrupted

/-- The events of the frames. -/
def WireEntry.read (entry : WireEntry) : RoomEntry :=
  { sent := entry.sent.filterMap ServerEvent.ofPayload, clients := entry.clients }

/-- The frames of the events. -/
def RoomEntry.wire (entry : RoomEntry) : WireEntry :=
  { sent := entry.sent.map ServerEvent.payload, clients := entry.clients }

def WireHub.read (w : WireHub) : Hub :=
  { rooms := fun channel => (w.rooms channel).map WireEntry.read
    control := w.control.filterMap ServerEvent.ofPayload }

def Hub.wire (h : Hub) : WireHub :=
  { rooms := fun channel => (h.rooms channel).map RoomEntry.wire
    control := h.control.map ServerEvent.payload }

/-- An event comes back from its payload. -/
lemma ofPayload_payload {e : ServerEvent} (h : e.Counted) :
    ServerEvent.ofPayload e.payload = some e :=
  Json.Codec.ofText_text (ServerEvent.exact h) (by decide)

/-- The text sent by hand is the payload of an event. -/
lemma payload_interrupted : interrupted.payload = interruptedText := by decide

lemma ofPayload_interruptedText : ServerEvent.ofPayload interruptedText = some interrupted := by
  have hcounted : interrupted.Counted := fun m hm => absurd hm List.not_mem_nil
  rw [← payload_interrupted, ofPayload_payload hcounted]

/-! ### What the frames say -/

section Read

variable (w : WireHub)

lemma read_setRoom (channel : String) (entry : Option WireEntry) :
    (w.setRoom channel entry).read = w.read.setRoom channel (entry.map WireEntry.read) := by
  refine congrArg (Hub.mk · _) (funext fun c => ?_)
  by_cases hc : c = channel
  · subst hc
    simp [WireHub.setRoom]
  · simp [WireHub.setRoom, WireHub.read, hc]

lemma read_rooms (channel : String) :
    w.read.rooms channel = (w.rooms channel).map WireEntry.read := rfl

variable {w}

lemma read_sendRoom {event : ServerEvent} {wire : String}
    (h : ServerEvent.ofPayload wire = some event) (channel : String) :
    (w.sendRoom channel wire).read = w.read.sendRoom channel event := by
  rw [WireHub.sendRoom, Hub.sendRoom, read_rooms]
  cases w.rooms channel with
  | none => rfl
  | some entry =>
      rw [read_setRoom]
      simp [WireEntry.read, h]

lemma read_route {event : ServerEvent} {wire : String}
    (h : ServerEvent.ofPayload wire = some event) :
    (w.route event wire).read = w.read.route event := by
  cases event with
  | channelCreated name | channelDeleted name =>
      simp [WireHub.route, Hub.route, WireHub.read, h]
  | message m | messageUpdated m | reactionUpdated c r | participants c ps | presenceSync c ps
  | participantJoined c p | participantLeft c u | typing c u n t => exact read_sendRoom h _
  | _ => rfl

lemma read_subscribe (channel : String) (subscribed : Bool) :
    (w.subscribe channel subscribed).read = (w.read.subscribe channel subscribed).1 := by
  rw [WireHub.subscribe, Hub.subscribe, read_rooms]
  cases w.rooms channel with
  | some entry => exact read_setRoom ..
  | none =>
      cases subscribed with
      | false => rfl
      | true => exact read_setRoom ..

lemma read_release (channel : String) : (w.release channel).read = w.read.release channel := by
  rw [WireHub.release, Hub.release, read_rooms]
  cases w.rooms channel with
  | none => rfl
  | some entry =>
      change (if _ then _ else _ : WireHub).read = if _ then _ else _
      rw [apply_ite WireHub.read, read_setRoom, read_setRoom]
      rfl

/-- A turn on texts is the turn it says on events. -/
lemma read_step (w : WireHub) (turn : Turn String) :
    (w.step turn).read = turn.read.elim w.read w.read.step := by
  cases turn with
  | subscribe channel subscribed => exact read_subscribe channel subscribed
  | release channel => exact read_release channel
  | publication payload =>
      rw [WireHub.step, WireHub.receive, Turn.read]
      cases h : ServerEvent.ofPayload payload with
      | none => rfl
      | some event => exact read_route h
  | interrupted => simp [WireHub.step, Turn.read, Hub.step, WireHub.read, ofPayload_interruptedText]

/-- What the frames say after any turns is what `Hub` does on the events that the payloads say. -/
theorem read_final (turns : List (Turn String)) :
    (final WireHub.step {} turns).read = final Hub.step {} (turns.filterMap Turn.read) :=
  final_map_read read_step {} turns

end Read

/-! ### What is published -/

/-- A publication is an event of a publisher, or does not decode. -/
def Turn.Written : Turn String → Prop
  | .publication payload =>
      ServerEvent.ofPayload payload = none ∨ ∃ e : ServerEvent, e.Counted ∧ payload = e.payload
  | _ => True

section Wire

variable {h : Hub}

lemma wire_setRoom (channel : String) (entry : Option RoomEntry) :
    (h.setRoom channel entry).wire = h.wire.setRoom channel (entry.map RoomEntry.wire) := by
  refine WireHub.ext (funext fun c => ?_) rfl
  by_cases hc : c = channel
  · subst hc
    simp [WireHub.setRoom, Hub.wire]
  · simp [WireHub.setRoom, Hub.setRoom, Hub.wire, hc]

lemma wire_sendRoom (channel : String) (event : ServerEvent) :
    (h.sendRoom channel event).wire = h.wire.sendRoom channel event.payload := by
  have hroom : h.wire.rooms channel = (h.rooms channel).map RoomEntry.wire := rfl
  rw [WireHub.sendRoom, Hub.sendRoom, hroom]
  cases h.rooms channel with
  | none => rfl
  | some entry =>
      rw [wire_setRoom]
      simp [RoomEntry.wire]

lemma wire_route (event : ServerEvent) :
    (h.route event).wire = h.wire.route event event.payload := by
  cases event with
  | channelCreated name | channelDeleted name => simp [WireHub.route, Hub.route, Hub.wire]
  | message m | messageUpdated m | reactionUpdated c r | participants c ps | presenceSync c ps
  | participantJoined c p | participantLeft c u | typing c u n t => exact wire_sendRoom _ _
  | _ => rfl

lemma wire_subscribe (channel : String) (subscribed : Bool) :
    (h.subscribe channel subscribed).1.wire = h.wire.subscribe channel subscribed := by
  have hroom : h.wire.rooms channel = (h.rooms channel).map RoomEntry.wire := rfl
  rw [WireHub.subscribe, Hub.subscribe, hroom]
  cases h.rooms channel with
  | some entry => exact wire_setRoom ..
  | none =>
      cases subscribed with
      | false => rfl
      | true => exact wire_setRoom ..

lemma wire_release (channel : String) : (h.release channel).wire = h.wire.release channel := by
  have hroom : h.wire.rooms channel = (h.rooms channel).map RoomEntry.wire := rfl
  rw [WireHub.release, Hub.release, hroom]
  cases h.rooms channel with
  | none => rfl
  | some entry =>
      change (if _ then _ else _ : Hub).wire = if _ then _ else _
      rw [apply_ite Hub.wire, wire_setRoom, wire_setRoom]
      rfl

end Wire

/-- A written turn is, on the frames, the turn it says. -/
lemma wire_step {w : WireHub} {h : Hub} {turn : Turn String} (hw : w = h.wire)
    (hturn : turn.Written) : w.step turn = (turn.read.elim h h.step).wire := by
  subst hw
  cases turn with
  | subscribe channel subscribed => exact (wire_subscribe channel subscribed).symm
  | release channel => exact (wire_release channel).symm
  | publication payload =>
      rw [WireHub.step, WireHub.receive, Turn.read]
      rcases hturn with hnone | ⟨e, he, rfl⟩
      · rw [hnone]
        rfl
      · rw [ofPayload_payload he]
        exact (wire_route e).symm
  | interrupted => simp [WireHub.step, Turn.read, Hub.step, Hub.wire, payload_interrupted]

/-- **The frames are the texts of the events that were published**: whatever rooms come and go and
whatever else is on the topics, each room and the control channel send, in order, the payloads of
the events that `Hub` sends there, and a client that decodes its frames gets these events. -/
theorem final_eq_wire {turns : List (Turn String)} (hturns : ∀ t ∈ turns, t.Written) :
    final WireHub.step {} turns = (final Hub.step {} (turns.filterMap Turn.read)).wire ∧
      (final Hub.step {} (turns.filterMap Turn.read)).wire.read =
        final Hub.step {} (turns.filterMap Turn.read) := by
  have hempty : ({} : WireHub) = Hub.wire {} := rfl
  have hwire : final WireHub.step {} turns =
      (final Hub.step {} (turns.filterMap Turn.read)).wire :=
    final_filterMap (R := fun w (h : Hub) => w = h.wire) (fun _ _ _ => wire_step) hempty hturns
  exact ⟨hwire, hwire ▸ read_final turns⟩

/-- A room with one socket, an event for it, a publication that is no event, and a new channel. -/
def chatted : List (Turn String) :=
  [.subscribe mainChannel true, .publication (ServerEvent.typing mainChannel 1 "ada" true).payload,
   .publication "\x7b", .publication (ServerEvent.channelCreated "rust").payload]

theorem final_eq_wire_chatted :
    (final WireHub.step {} chatted).control = [(ServerEvent.channelCreated "rust").payload] := by
  have htyping : (ServerEvent.typing mainChannel 1 "ada" true).Counted :=
    fun m hm => absurd hm List.not_mem_nil
  have hcreated : (ServerEvent.channelCreated "rust").Counted :=
    fun m hm => absurd hm List.not_mem_nil
  have hjunk : ServerEvent.ofPayload "\x7b" = none := by decide
  have hwritten : ∀ t ∈ chatted, t.Written := by
    simp only [chatted, List.forall_mem_cons]
    exact ⟨trivial, .inr ⟨_, htyping, rfl⟩, .inl hjunk, .inr ⟨_, hcreated, rfl⟩,
      fun t ht => absurd ht List.not_mem_nil⟩
  rw [(final_eq_wire hwritten).1]
  have hread : chatted.filterMap Turn.read = [.subscribe mainChannel true,
      .publication (.typing mainChannel 1 "ada" true), .publication (.channelCreated "rust")] := by
    simp [chatted, Turn.read, ofPayload_payload htyping, ofPayload_payload hcreated, hjunk]
  rw [hread]
  rfl

end Vussa.Rooms
