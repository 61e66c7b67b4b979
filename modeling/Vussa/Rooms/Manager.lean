import Vussa.Lib.Run
import Vussa.Model.Server

/-!
The room manager (`websocket/rooms.rs`) with the socket tasks that use it (`handle_socket` of
`websocket/handler.rs`), at the granularity of the commands they exchange.

The manager owns the map of local rooms. A task sends it `Subscribe` and `Release` commands through
a bounded queue and waits for the reply of a `Subscribe`; everything else a task does is seen only
through the point of `handle_socket` it has reached. What a broadcast sender has sent is kept as a
list. A reconnection of the manager leaves the rooms as they are and is not a step.

* `Hub`, `Hub.route`: the rooms and the control channel, and where a published event goes;
* `Hub.subscribe`, `Hub.release`: the two commands on the map of rooms;
* `Task`, `Phase`: a socket task and the points it can be at;
* `Act`, `State.step`: the moves of the tasks and of the command loop, in any order.
-/

namespace Vussa.Rooms

/-! ### Rooms -/

/-- `RoomEntry`: the frames sent through its `sender`, and the counter. -/
structure RoomEntry where
  sent : List ServerEvent := []
  clients : ℕ
  deriving DecidableEq, Repr

/-- The map `rooms` of `run_room_manager`, with what the control channel has sent. -/
structure Hub where
  rooms : String → Option RoomEntry := fun _ => none
  control : List ServerEvent := []

namespace Hub

/-- Put, replace or remove the entry of a room. -/
def setRoom (h : Hub) (channel : String) (entry : Option RoomEntry) : Hub :=
  { h with rooms := Function.update h.rooms channel entry }

@[simp] lemma setRoom_self (h : Hub) (channel : String) (entry : Option RoomEntry) :
    (h.setRoom channel entry).rooms channel = entry := Function.update_self ..

lemma setRoom_of_ne (h : Hub) {channel c : String} (hne : c ≠ channel)
    (entry : Option RoomEntry) : (h.setRoom channel entry).rooms c = h.rooms c :=
  Function.update_of_ne hne ..

/-- `if let Some(entry) = rooms.get(channel) { entry.sender.send(wire) }`. -/
def sendRoom (h : Hub) (channel : String) (wire : ServerEvent) : Hub :=
  match h.rooms channel with
  | some entry => h.setRoom channel (some { entry with sent := entry.sent ++ [wire] })
  | none => h

/-- The routing match of `run_room_manager`. -/
def route (h : Hub) (event : ServerEvent) : Hub :=
  match event with
  | .message message | .messageUpdated message => h.sendRoom message.channel event
  | .reactionUpdated channel _ => h.sendRoom channel event
  | .channelCreated _ | .channelDeleted _ => { h with control := h.control ++ [event] }
  | .participants channel _ | .participantJoined channel _ | .participantLeft channel _
  | .presenceSync channel _ | .typing channel _ _ _ => h.sendRoom channel event
  | _ => h

/-- An event with a room goes to that room. -/
lemma route_of_room {event : ServerEvent} {channel : String} (h : Hub)
    (hroom : event.room? = some channel) : h.route event = h.sendRoom channel event := by
  cases event with
  | message m =>
      obtain rfl : m.channel = channel := Option.some.inj hroom
      rfl
  | messageUpdated m =>
      obtain rfl : m.channel = channel := Option.some.inj hroom
      rfl
  | reactionUpdated c r =>
      obtain rfl : c = channel := Option.some.inj hroom
      rfl
  | participants c ps =>
      obtain rfl : c = channel := Option.some.inj hroom
      rfl
  | participantJoined c p =>
      obtain rfl : c = channel := Option.some.inj hroom
      rfl
  | participantLeft c u =>
      obtain rfl : c = channel := Option.some.inj hroom
      rfl
  | presenceSync c ps =>
      obtain rfl : c = channel := Option.some.inj hroom
      rfl
  | typing c u n t =>
      obtain rfl : c = channel := Option.some.inj hroom
      rfl
  | _ => exact absurd hroom (by simp [ServerEvent.room?])

/-- The counter `rooms[channel].clients`, zero without an entry. -/
def clients (h : Hub) (channel : String) : ℕ := (h.rooms channel).elim 0 RoomEntry.clients

/-- The `Subscribe` command; `subscribed` is the answer of `sink.subscribe`, which is asked only
when the room is new. The result says whether the reply is `Ok`. -/
def subscribe (h : Hub) (channel : String) (subscribed : Bool) : Hub × Bool :=
  match h.rooms channel with
  | some entry => (h.setRoom channel (some { entry with clients := entry.clients + 1 }), true)
  | none => if subscribed then (h.setRoom channel (some { clients := 1 }), true) else (h, false)

/-- The `Release` command. -/
def release (h : Hub) (channel : String) : Hub :=
  match h.rooms channel with
  | some entry =>
      if entry.clients - 1 = 0 then h.setRoom channel none
      else h.setRoom channel (some { entry with clients := entry.clients - 1 })
  | none => h

end Hub

/-! ### Tasks -/

/-- The points of `handle_socket`. -/
inductive Phase where
  /-- the greeting, before anything is subscribed -/
  | opening
  /-- about to send `Subscribe` after a channel switch -/
  | switching (channel : String)
  /-- waiting for the reply of `Subscribe`, in the setup or after a switch -/
  | awaiting (channel : String) (setup : Bool)
  /-- the history, members and presence of the setup -/
  | entering (channel : String)
  /-- the loop -/
  | looping (channel : String)
  /-- on the way out, with the last `Release` still to send -/
  | closing (channel : String)
  /-- returned -/
  | closed
  deriving DecidableEq, Repr

/-- A socket task. `reply` is what the one-shot channel holds, `failed` whether the error arm of a
channel switch was taken. `held` is the room of the last subscription the manager granted and has
not yet taken back: no code reads it. -/
structure Task where
  phase : Phase := .opening
  reply : Option Bool := none
  failed : Bool := false
  held : Option String := none
  deriving DecidableEq, Repr

/-- `ManagerCommand`. The task stands for the reply channel of `Subscribe`; of `Release` the
manager reads only the name. -/
inductive Command where
  | subscribe (channel : String) (task : ℕ)
  | release (channel : String) (task : ℕ)
  deriving DecidableEq, Repr

/-- The task a command comes from. -/
def Command.task : Command → ℕ
  | .subscribe _ k | .release _ k => k

/-- The capacity of the command queue. -/
def commandCapacity : ℕ := 128

/-- The manager, its queue and the tasks by their number. -/
structure State where
  hub : Hub := {}
  commands : List Command := []
  tasks : List Task := []

/-- Everything that can happen. -/
inductive Act where
  /-- a connection is upgraded -/
  | connect
  /-- the greeting fails -/
  | reject (k : ℕ)
  /-- `Subscribe` is sent -/
  | subscribe (k : ℕ)
  /-- the reply of `Subscribe` is read -/
  | resume (k : ℕ)
  /-- the setup is complete -/
  | enter (k : ℕ)
  /-- a step of the setup fails, or the loop is left -/
  | leave (k : ℕ)
  /-- an event asks for another channel: `Release` is sent for the present one -/
  | switchTo (k : ℕ) (channel : String)
  /-- the last `Release` is sent -/
  | close (k : ℕ)
  /-- the command loop takes a command; the flag is the answer of `sink.subscribe` -/
  | manage (subscribed : Bool)
  /-- the command loop reads a publication -/
  | publish (event : ServerEvent)
  deriving DecidableEq, Repr

namespace State

/-- A task by its number; a number not yet given is a closed task. -/
def task (s : State) (k : ℕ) : Task := s.tasks.getD k { phase := .closed }

/-- Replace a task. -/
def setTask (s : State) (k : ℕ) (t : Task) : State := { s with tasks := s.tasks.set k t }

/-- `commands.send`: the task goes on once there is room in the queue. -/
def send (s : State) (k : ℕ) (command : Command) (t : Task) : State :=
  if s.commands.length < commandCapacity then
    { s.setTask k t with commands := s.commands ++ [command] }
  else s

/-- The command loop takes a command. -/
def manage (s : State) (subscribed : Bool) : State :=
  match s.commands with
  | [] => s
  | .subscribe channel k :: rest =>
      let (hub, ok) := s.hub.subscribe channel subscribed
      let t := s.task k
      { s.setTask k { t with reply := some ok, held := if ok then some channel else t.held } with
        hub := hub, commands := rest }
  | .release channel k :: rest =>
      let t := s.task k
      { s.setTask k { t with held := if t.held = some channel then none else t.held } with
        hub := s.hub.release channel, commands := rest }

/-- One step. An act that does not fit the point a task has reached changes nothing. -/
def step (s : State) : Act → State
  | .connect => { s with tasks := s.tasks ++ [{}] }
  | .reject k =>
      let t := s.task k
      match t.phase with
      | .opening => s.setTask k { t with phase := .closed }
      | _ => s
  | .subscribe k =>
      let t := s.task k
      match t.phase with
      | .opening =>
          s.send k (.subscribe mainChannel k) { t with phase := .awaiting mainChannel true }
      | .switching channel =>
          s.send k (.subscribe channel k) { t with phase := .awaiting channel false }
      | _ => s
  | .resume k =>
      let t := s.task k
      match t.phase, t.reply with
      | .awaiting channel true, some true =>
          s.setTask k { t with phase := .entering channel, reply := none }
      -- the setup returns at once when the main room cannot be subscribed
      | .awaiting _ true, some false => s.setTask k { t with phase := .closed, reply := none }
      | .awaiting channel false, some true =>
          s.setTask k { t with phase := .looping channel, reply := none }
      -- the loop is left through its end, where `release` stands
      | .awaiting channel false, some false =>
          s.setTask k { t with phase := .closing channel, reply := none, failed := true }
      | _, _ => s
  | .enter k =>
      let t := s.task k
      match t.phase with
      | .entering channel => s.setTask k { t with phase := .looping channel }
      | _ => s
  | .leave k =>
      let t := s.task k
      match t.phase with
      | .entering channel | .looping channel => s.setTask k { t with phase := .closing channel }
      | _ => s
  | .switchTo k channel =>
      let t := s.task k
      match t.phase with
      | .looping previous => s.send k (.release previous k) { t with phase := .switching channel }
      | _ => s
  | .close k =>
      let t := s.task k
      match t.phase with
      | .closing channel => s.send k (.release channel k) { t with phase := .closed }
      | _ => s
  | .manage subscribed => s.manage subscribed
  | .publish event => { s with hub := s.hub.route event }

end State

end Vussa.Rooms
