import Vussa.Lib.Holders
import Vussa.Lib.Run
import Vussa.Model.Handler

/-!
Presence in Valkey (`websocket/presence.rs`) and the sockets that keep it (`handle_socket` and the
heartbeat of `websocket/handler.rs`), at the granularity of single commands and `MULTI` blocks.

A channel has a set of user ids, and each user in it a key that holds the participant for 45
seconds. The sockets of all replicas share both. A socket is one task: it refreshes, lists and
removes one after the other, and at any point its connection may be lost. `list_presence` is also
called on its own, by the administration and for `@here`. The commands themselves do not fail here.

* `Valkey`: the sets and the keys, with the blocks of `refresh_presence` and `remove_presence`;
* `Listing`: a call of `list_presence` between its commands, and `listPresence`, its answer;
* `Stage`, `Socket`, `Act`, `step`: the sockets and their moves, in any order.
-/

namespace Vussa.Presence

open Holders

/-! ### Valkey -/

/-- The sets `presence_set_key` and the keys `presence_key`. -/
structure Valkey where
  users : String → List Uuid := fun _ => []
  participants : String → Uuid → Option Participant := fun _ _ => none

namespace Valkey

variable (v : Valkey)

/-- Replace the set of a channel. -/
def setUsers (channel : String) (ids : List Uuid) : Valkey :=
  { v with users := Function.update v.users channel ids }

/-- Write or delete the key of a user. -/
def setParticipant (channel : String) (userId : Uuid) (value : Option Participant) : Valkey :=
  let keys := Function.update (v.participants channel) userId value
  { v with participants := Function.update v.participants channel keys }

/-- `refresh_presence`: `SADD` and `SETEX` in one block. -/
def refreshPresence (channel : String) (participant : Participant) : Valkey :=
  (v.setUsers channel ((v.users channel).insert participant.userId)).setParticipant channel
    participant.userId (some participant)

/-- `SREM`. -/
def srem (channel : String) (ids : List Uuid) : Valkey :=
  v.setUsers channel ((v.users channel).filter fun id => id ∉ ids)

/-- `remove_presence`: `SREM` and `DEL` in one block. -/
def removePresence (channel : String) (userId : Uuid) : Valkey :=
  (v.srem channel [userId]).setParticipant channel userId none

/-- The key of a user expires. -/
def expire (channel : String) (userId : Uuid) : Valkey := v.setParticipant channel userId none

/-- The user is in the set of the channel, and has a key. -/
def Listed (key : String × Uuid) : Prop :=
  key.2 ∈ v.users key.1 ∧ v.participants key.1 key.2 ≠ none

instance (key : String × Uuid) : Decidable (v.Listed key) := inferInstanceAs (Decidable (_ ∧ _))

end Valkey

/-! ### Listing -/

/-- The participants that `MGET` finds, and the ids it finds no key for. -/
def found (v : Valkey) (channel : String) (ids : List Uuid) : List Participant :=
  ids.filterMap (v.participants channel)

def stale (v : Valkey) (channel : String) (ids : List Uuid) : List Uuid :=
  ids.filter fun id => v.participants channel id = none

/-- `participants.sort_by(|a, b| a.username.cmp(&b.username))`. -/
def byUsername (participants : List Participant) : List Participant :=
  participants.insertionSort fun a b => a.username ≤ b.username

/-- A call of `list_presence` that runs alone. -/
def listPresence (v : Valkey) (channel : String) : List Participant :=
  byUsername (found v channel (v.users channel))

/-- A call of `list_presence` between its commands. -/
inductive Listing where
  | start
  /-- `SMEMBERS` has answered, and `MGET` is next -/
  | fetched (ids : List Uuid)
  /-- `MGET` has answered, and `SREM` of the stale ids is next -/
  | removing (stale : List Uuid) (participants : List Participant)
  | done (participants : List Participant)
  deriving DecidableEq, Repr

/-- The call has returned. -/
def Listing.isDone : Listing → Bool
  | .done _ => true
  | .start | .fetched _ | .removing _ _ => false

/-- The next command of a call, with what it leaves in Valkey. -/
def Listing.next (v : Valkey) (channel : String) : Listing → Valkey × Listing
  | .start => if v.users channel = [] then (v, .done []) else (v, .fetched (v.users channel))
  | .fetched ids =>
      if stale v channel ids = [] then (v, .done (byUsername (found v channel ids)))
      else (v, .removing (stale v channel ids) (byUsername (found v channel ids)))
  | .removing stale participants => (v.srem channel stale, .done participants)
  | .done participants => (v, .done participants)

/-- **The three commands of a call that runs alone** answer with `listPresence`. -/
theorem next_alone (v : Valkey) (channel : String) :
    ((fun r : Valkey × Listing => r.2.next r.1 channel)^[3] (v, .start)).2 =
      .done (listPresence v channel) := by
  simp only [Function.iterate_succ, Function.iterate_zero, Function.comp_apply, id]
  rw [Listing.next.eq_1]
  split_ifs with hempty
  · rw [listPresence, hempty]
    rfl
  · rw [Listing.next]
    split_ifs with hstale
    · rfl
    · rfl

/-! ### Sockets -/

/-- The points of `handle_socket` that matter to presence. `setup` tells the entry into the first
channel from the entry after a switch. -/
inductive Stage where
  /-- `refresh_presence` of the channel is next -/
  | entering (setup : Bool)
  /-- in `sync_presence` -/
  | syncing (setup : Bool) (call : Listing)
  | looping
  /-- `remove_presence` of the channel is next, then the other channel is entered -/
  | switching (target : String)
  /-- left the loop from `looping`, and `remove_presence` is next -/
  | closing
  /-- left the loop because the target of a switch could not be entered, and `remove_presence` is
  next -/
  | refused
  | closed
  deriving DecidableEq, Repr

/-- A socket of a user, with its current channel. -/
structure Socket where
  user : AuthUser
  channel : String := mainChannel
  stage : Stage := .entering true
  deriving DecidableEq, Repr

namespace Socket

variable (socket : Socket)

/-- The socket has refreshed its channel and not removed it again. No code reads it. -/
def isPresent : Bool :=
  match socket.stage with
  | .syncing _ _ | .looping | .switching _ | .closing => true
  | .entering _ | .refused | .closed => false

/-- The channel and user of the socket. -/
def key : String × Uuid := (socket.channel, socket.user.id)

/-- The key the socket keeps alive. -/
def held : Option (String × Uuid) := if socket.isPresent then some socket.key else none

/-- Go on to the stage `stage`. -/
def goto (stage : Stage) : Socket := { socket with stage }

end Socket

/-- The moves of a socket. -/
inductive Move where
  | refresh (db : Database) (now : Millis)
  /-- the next command of `sync_presence`, or its event is sent -/
  | sync
  /-- `sync_presence` fails -/
  | syncError
  | heartbeat (db : Database) (now : Millis)
  | switch (target : String)
  | remove
  /-- the room or its history cannot be had -/
  | enterError
  /-- the loop ends -/
  | close

/-- `refresh_presence` by a socket. -/
def Socket.refreshed (socket : Socket) (v : Valkey) (db : Database) (now : Millis) : Valkey :=
  v.refreshPresence socket.channel (participantForUser db now socket.user)

/-- `remove_presence` by a socket. -/
def Socket.removed (socket : Socket) (v : Valkey) : Valkey :=
  v.removePresence socket.channel socket.user.id

/-- A move of a socket, with what it leaves in Valkey; nothing if the stage does not allow it. -/
def Socket.move (v : Valkey) (socket : Socket) : Move → Option (Valkey × Socket)
  | .refresh db now =>
      match socket.stage with
      | .entering setup => some (socket.refreshed v db now, socket.goto (.syncing setup .start))
      | _ => none
  | .sync =>
      match socket.stage with
      | .syncing _ (.done _) => some (v, socket.goto .looping)
      | .syncing setup call =>
          some ((call.next v socket.channel).1,
            socket.goto (.syncing setup (call.next v socket.channel).2))
      | _ => none
  | .syncError =>
      match socket.stage with
      | .syncing true _ => some (v, socket.goto .closed)
      | .syncing false _ => some (v, socket.goto .looping)
      | _ => none
  | .heartbeat db now =>
      match socket.stage with
      | .looping => some (socket.refreshed v db now, socket)
      | _ => none
  | .switch target =>
      match socket.stage with
      | .looping => some (v, socket.goto (.switching target))
      | _ => none
  | .remove =>
      match socket.stage with
      | .switching target =>
          some (socket.removed v, { socket with channel := target, stage := .entering false })
      | .closing | .refused => some (socket.removed v, socket.goto .closed)
      | _ => none
  | .enterError =>
      match socket.stage with
      | .entering true => some (v, socket.goto .closed)
      | .entering false => some (v, socket.goto .refused)
      | _ => none
  | .close =>
      match socket.stage with
      | .looping => some (v, socket.goto .closing)
      | _ => none

/-! ### Runs -/

/-- Valkey, the sockets and the calls of `list_presence` outside `sync_presence`. -/
structure State where
  valkey : Valkey := {}
  sockets : List Socket := []
  calls : List (String × Listing) := []

/-- Some socket is present under the key. -/
def State.Held (s : State) (key : String × Uuid) : Prop := Holds Socket.held s.sockets key

instance (s : State) (key : String × Uuid) : Decidable (s.Held key) :=
  inferInstanceAs (Decidable (Holds _ _ _))

/-- What can happen next. -/
inductive Act where
  | connect (user : AuthUser)
  | move (k : ℕ) (move : Move)
  | call (channel : String)
  | list (k : ℕ)
  | expire (channel : String) (userId : Uuid)

/-- One step. A key does not expire while a socket that keeps it alive is present. -/
def step (s : State) : Act → State
  | .connect user => { s with sockets := s.sockets ++ [{ user }] }
  | .move k move =>
      match s.sockets[k]? with
      | some socket =>
          match socket.move s.valkey move with
          | some (valkey, socket') => { s with valkey, sockets := s.sockets.set k socket' }
          | none => s
      | none => s
  | .call channel => { s with calls := s.calls ++ [(channel, .start)] }
  | .list k =>
      match s.calls[k]? with
      | some (channel, call) =>
          { s with
            valkey := (call.next s.valkey channel).1
            calls := s.calls.set k (channel, (call.next s.valkey channel).2) }
      | none => s
  | .expire channel userId =>
      if s.Held (channel, userId) then s
      else { s with valkey := s.valkey.expire channel userId }

/-- No presence operation is in flight. -/
def Quiescent (s : State) : Prop :=
  (∀ socket ∈ s.sockets, socket.stage = .looping ∨ socket.stage = .closed) ∧
    ∀ call ∈ s.calls, call.2.isDone = true

instance (s : State) : Decidable (Quiescent s) := inferInstanceAs (Decidable (_ ∧ _))

end Vussa.Presence
