import Vussa.Model.Requests

/-!
The running system: the replicas with their open sockets, the session keys, and the state they
share. Every request, every client event and every delivery is one step; where the code awaits
between a check and what it is for, on the way of a socket into a channel and in `update_account`,
the steps are apart. The commands that a handler sends to the tables and to the caches run one after
the other here; `Vussa.Flow` takes them apart.

Publications form one log; the room manager of each replica reads it in order and hands an event
of a topic it is subscribed to to the sockets of the room the event names (`websocket/rooms.rs`),
or loses it with its connection. A manager may read a publication that is older than its
subscription, which only adds runs. A socket keeps the frames of its room until the loop of
`handle_socket` forwards them, or skips them when it lags; the subscription to another channel
replaces the receiver. The messages that `handle_auth_invalidate` publishes on `auth.invalidate`
have no subscriber, so they do not appear.

A session key is a hash with the fields `csrf` and `user`. The `HSET` of `update_account` writes the
second field alone: on a key that was deleted in between it makes a remnant, which `load_session`
refuses and `EXISTS` finds.

* `Stage`, `Socket`, `Renaming`, `Server`: the state;
* `Act`, `Server.step`: everything that can happen;
* `Server.start`: no sessions and no sockets over given tables.
-/

namespace Vussa

open Effect

/-- The room `run_room_manager` hands an event to; other events go to the control channel or
nowhere. -/
def ServerEvent.room? : ServerEvent → Option String
  | .message m | .messageUpdated m => some m.channel
  | .reactionUpdated c _ | .participants c _ | .participantJoined c _ | .participantLeft c _
  | .presenceSync c _ | .typing c _ _ _ => some c
  | _ => none

/-- Where the task of a socket is: in the loop of `handle_socket`, or on its way into a channel. On
the way it releases the room it was in and leaves the presence there, subscribes to the next one, and
enters it with the history and the presence. `setup` is the way into the main channel before the
loop. -/
inductive Stage where
  | loop
  | leaving (target : String)
  | entering (target : String) (setup : Bool)
  | arriving (setup : Bool)
  deriving DecidableEq, Repr

/-- A socket of `handle_socket`; `channel` and `frames` belong to the receiver it holds. -/
structure Socket where
  id : ℕ
  replica : ℕ
  session : Uuid
  user : AuthUser
  channel : String
  frames : List ServerEvent := []
  stage : Stage := .loop
  deriving DecidableEq, Repr

/-- The channel a socket is in or on its way into. -/
def Socket.destination (k : Socket) : String :=
  match k.stage with
  | .loop | .arriving _ => k.channel
  | .leaving target | .entering target _ => target

/-- The socket counts among the clients of the room of its channel. -/
def Socket.counted (k : Socket) : Bool :=
  match k.stage with
  | .loop | .arriving _ => true
  | .leaving _ | .entering _ _ => false

/-- A call of `update_account` between its statements: the session it loaded, the name it asks for,
and the name it has saved. -/
structure Renaming where
  session : Uuid
  user : AuthUser
  username : String
  saved : Option String := none
  deriving DecidableEq, Repr

/-- The running system. `sessions` are the whole session keys and `remnants` the keys without the
field `csrf`; `index` holds the sets `vussa:user_sessions`, as pairs of a user and a session.
`issued` are the session identifiers drawn so far, `received` how much of the log each room manager
has read. -/
structure Server where
  shared : Shared
  sessions : List (Uuid × AuthUser) := []
  remnants : List (Uuid × AuthUser) := []
  index : List (Uuid × Uuid) := []
  issued : List Uuid := []
  renamings : List Renaming := []
  sockets : List Socket := []
  received : ℕ → ℕ := fun _ => 0

/-! ### Accounts -/

/-- `update_username`; the names are unique up to their case. -/
def updateUsername (U : Unicode) (userId : Uuid) (username : String) (db : Database)
    (now : Millis) : Except AppError (Database × Unit) :=
  if ¬ ∃ u ∈ db.users, u.id = userId ∧ u.deletedAt = none then
    .error RepositoryError.notFound.toApp
  else if ∃ u ∈ db.users, u.id ≠ userId ∧ U.toLowercase u.username = U.toLowercase username then
    .error RepositoryError.database.toApp
  else
    let users := db.users.map fun u =>
      if u.id = userId ∧ u.deletedAt = none then { u with username := username } else u
    .ok ({ db with users := users }.recordAudit userId "user.username_changed" "user" userId
      [("username", .text username)] now, ⟨⟩)

/-- The checks and the transaction of `update_account`: the new name. -/
def updateAccount (U : Unicode) (userId : Uuid) (rawName : String) : App String := do
  let username := trim rawName
  check fun _ _ => validateUsername U username
  transaction (updateUsername U userId username)
  return username

/-- The transaction of `delete_account`. -/
def deleteUser (userId : Uuid) (db : Database) (now : Millis) : Database :=
  let users := db.users.map fun u =>
    if u.id = userId ∧ u.deletedAt = none then
      { u with deletedAt := some now, disabledAt := some now }
    else u
  { db with users := users }.recordAudit userId "user.self_deleted" "user" userId [] now

/-! ### The steps -/

/-- Everything that can happen. A change of the password is one that passed its checks. A call of
`update_account` loads its session, saves the name and writes the session, by its place among the
calls under way. A key expires with its time to live, or is deleted by a slower logout or
revocation. -/
inductive Act where
  | login (session : Uuid) (user : AuthUser)
  | logout (session : Uuid)
  | updateAccount (session : Uuid) (username : String)
  | saveUsername (n : ℕ)
  | writeSession (n : ℕ)
  | listSessions (session : Uuid)
  | revokeSession (session target : Uuid)
  | changePassword (session : Uuid)
  | deleteAccount (session : Uuid)
  | authInvalidate (userId : Uuid)
  | expireSession (session : Uuid)
  | request (session : Uuid) (request : Request) (fresh : Fresh)
  | connect (id replica : ℕ) (session : Uuid)
  | proceed (id : ℕ)
  | client (id : ℕ) (event : ClientEvent) (fresh : Fresh)
  | receive (replica : ℕ)
  | lose (replica : ℕ)
  | forward (id : ℕ)
  | lag (id : ℕ)
  | disconnect (id : ℕ)
  | resetRate (userId : Uuid)
  | wait (millis : Millis)
  deriving DecidableEq, Repr

namespace Server

/-- Tables over which nothing has happened yet. -/
def start (db : Database) (now : Millis) : Server := { shared := { db := db, now := now } }

/-- The user of a session whose key is whole. -/
def user? (s : Server) (session : Uuid) : Option AuthUser := s.sessions.lookup session

/-- `EXISTS` on a session key. -/
def hasKey (s : Server) (session : Uuid) : Bool :=
  (s.user? session).isSome || (s.remnants.lookup session).isSome

/-- An open socket by its number. -/
def socket? (s : Server) (id : ℕ) : Option Socket := s.sockets.find? fun k => k.id = id

/-- Run a handler on the shared state. -/
def exec {α : Type} (s : Server) (x : App α) : Server := { s with shared := after x s.shared }

/-! ### Session keys -/

/-- `create_session` under an identifier that was not drawn before. -/
def createSession (s : Server) (session : Uuid) (user : AuthUser) : Server :=
  { s with
    sessions := (session, user) :: s.sessions
    index := (user.id, session) :: s.index
    issued := session :: s.issued }

/-- `DEL` on session keys. -/
def deleteKeys (s : Server) (p : Uuid → Bool) : Server :=
  { s with
    sessions := s.sessions.filter fun k => !p k.1
    remnants := s.remnants.filter fun k => !p k.1 }

/-- `SREM` on the sets of sessions. -/
def unindex (s : Server) (p : Uuid × Uuid → Bool) : Server :=
  { s with index := s.index.filter fun e => !p e }

/-- Delete the keys of the sessions of a user that are in the set and meet `p`. -/
def endSessions (s : Server) (userId : Uuid) (p : Uuid → Bool) : Server :=
  (s.deleteKeys fun id => (userId, id) ∈ s.index ∧ p id).unindex fun e => e.1 = userId ∧ p e.2

/-- `HSET` of the field `user`: on a whole key, or on one that is not there. -/
def writeUser (s : Server) (session : Uuid) (user : AuthUser) : Server :=
  if (s.user? session).isSome then
    { s with sessions := s.sessions.map fun k => if k.1 = session then (k.1, user) else k }
  else
    { s with remnants := (session, user) :: s.remnants.filter fun k => k.1 ≠ session }

/-- `update_account` has saved the new name, or failed. -/
def saveName (U : Unicode) (s : Server) (n : ℕ) (r : Renaming) : Server :=
  match (updateAccount U r.user.id r.username).run s.shared with
  | .ok name shared =>
      { s with shared := shared, renamings := s.renamings.set n { r with saved := some name } }
  | .error _ shared => { s with shared := shared, renamings := s.renamings.eraseIdx n }

/-! ### Sockets -/

/-- Change the socket with a number. -/
def updateSocket (s : Server) (id : ℕ) (f : Socket → Socket) : Server :=
  { s with sockets := s.sockets.map fun k => if k.id = id then f k else k }

/-- The task of a new socket is on its way into the main channel. -/
def addSocket (s : Server) (id replica : ℕ) (session : Uuid) (user : AuthUser) : Server :=
  { s with sockets := s.sockets ++
      [{ id := id, replica := replica, session := session, user := user,
         channel := mainChannel, stage := .entering mainChannel true }] }

/-- The task of a socket ends. -/
def removeSocket (s : Server) (k : Socket) : Server :=
  { s with sockets := s.sockets.filter fun k' => k'.id ≠ k.id }

/-- The end of `handle_socket` behind its loop, in a channel. -/
def close (s : Server) (k : Socket) (channel : String) : Server :=
  (s.exec (leavePresence k.user channel)).removeSocket k

/-- A connection that breaks, or a subscription that fails: before the loop the task just returns;
between an event and the subscription nothing is sent, so it goes on. -/
def hangUp (s : Server) (k : Socket) : Server :=
  match k.stage with
  | .entering _ true | .arriving true => s.removeSocket k
  | .leaving _ => s
  | .entering target false => s.close k target
  | .loop | .arriving false => s.close k k.channel

/-- The next step of a socket on its way into a channel. -/
def proceed (s : Server) (k : Socket) : Server :=
  match k.stage with
  | .loop => s
  | .leaving target =>
      (s.exec (leavePresence k.user k.channel)).updateSocket k.id fun k =>
        { k with stage := .entering target false }
  | .entering target setup =>
      s.updateSocket k.id fun k =>
        { k with channel := target, frames := [], stage := .arriving setup }
  | .arriving _ =>
      (s.exec (enterChannel k.user k.channel)).updateSocket k.id fun k => { k with stage := .loop }

/-- What `handle_client_event` returns on a socket. -/
def reply (U : Unicode) (s : Server) (k : Socket) (event : ClientEvent) (fresh : Fresh) :
    EStateM.Result AppError Shared Reply :=
  (handleClientEvent U fresh k.user k.session (s.hasKey k.session) k.channel event).run s.shared

/-- A text frame in the loop of a socket. -/
def onClient (U : Unicode) (s : Server) (k : Socket) (event : ClientEvent) (fresh : Fresh) :
    Server :=
  match s.reply U k event fresh with
  | .ok r shared =>
      let s' := { s with shared := shared }
      match r.switchTo with
      | some channel => s'.updateSocket k.id fun k => { k with stage := .leaving channel }
      | none => s'
  | .error e shared =>
      let s' := { s with shared := shared }
      if e.status = .unauthorized then s'.close k k.channel else s'

/-- The room manager of a replica goes on to the next publication. -/
def skip (s : Server) (replica : ℕ) : Server :=
  { s with received := Function.update s.received replica (s.received replica + 1) }

/-- The room manager of a replica has a room of the name. -/
def Subscribed (s : Server) (replica : ℕ) (channel : String) : Prop :=
  ∃ k ∈ s.sockets, k.replica = replica ∧ k.channel = channel ∧ k.counted

instance (s : Server) (replica : ℕ) (channel : String) : Decidable (s.Subscribed replica channel) :=
  inferInstanceAs (Decidable (∃ k ∈ s.sockets, _))

/-- Hand an event to the sockets of its room. A receiver whose room was released is about to be
replaced, and what it holds is never forwarded. -/
def deliver (s : Server) (replica : ℕ) (event : ServerEvent) : Server :=
  { s with sockets := s.sockets.map fun k =>
      if k.replica = replica ∧ event.room? = some k.channel ∧ k.counted then
        { k with frames := k.frames ++ [event] }
      else k }

/-- A room manager reads the next publication. -/
def receive (s : Server) (replica : ℕ) : Server :=
  match s.shared.published[s.received replica]? with
  | none => s
  | some (topic, event) =>
      if s.Subscribed replica topic then (s.deliver replica event).skip replica else s.skip replica

/-- The next frame of the receiver leaves it, forwarded or skipped. -/
def nextFrame (s : Server) (id : ℕ) : Server :=
  s.updateSocket id fun k => if k.stage = .loop then { k with frames := k.frames.tail } else k

/-- One step. -/
def step (U : Unicode) (s : Server) : Act → Server
  | .login session user => if session ∈ s.issued then s else s.createSession session user
  | .logout session =>
      match s.user? session with
      | none => s
      | some user => (s.deleteKeys fun id => id = session).unindex fun e => e = (user.id, session)
  | .updateAccount session username =>
      match s.user? session with
      | none => s
      | some user =>
          { s with renamings := s.renamings ++
              [{ session := session, user := user, username := username }] }
  | .saveUsername n =>
      match s.renamings[n]? with
      | none => s
      | some r => if r.saved.isSome then s else s.saveName U n r
  | .writeSession n =>
      match s.renamings[n]? with
      | none => s
      | some r =>
          match r.saved with
          | none => s
          | some name =>
              { s with renamings := s.renamings.eraseIdx n }.writeUser r.session
                { r.user with username := name }
  | .listSessions session =>
      match s.user? session with
      | none => s
      | some user => s.unindex fun e => e.1 = user.id ∧ !s.hasKey e.2
  | .revokeSession session target =>
      match s.user? session with
      | none => s
      | some user =>
          if target = session then s
          else (s.deleteKeys fun id => id = target).unindex fun e => e = (user.id, target)
  | .changePassword session =>
      match s.user? session with
      | none => s
      | some user =>
          (s.exec (update fun sh => sh.setDb (sh.db.recordAudit user.id "user.password_changed"
            "user" user.id [] sh.now))).endSessions user.id fun id => id ≠ session
  | .deleteAccount session =>
      match s.user? session with
      | none => s
      | some user =>
          (s.exec (update fun sh => sh.setDb (deleteUser user.id sh.db sh.now))).endSessions user.id
            fun _ => true
  | .authInvalidate userId => s.endSessions userId fun _ => true
  | .expireSession session => s.deleteKeys fun id => id = session
  | .request session req fresh =>
      match s.user? session with
      | none => s
      | some user => s.exec (handleRequest U fresh user req)
  | .connect id replica session =>
      match s.user? session with
      | none => s
      | some user =>
          if (s.socket? id).isSome ∨ ¬ ChannelAccess s.shared.db s.shared.now mainChannel user.id
          then s
          else s.addSocket id replica session user
  | .proceed id =>
      match s.socket? id with
      | none => s
      | some k => s.proceed k
  | .client id event fresh =>
      match s.socket? id with
      | none => s
      | some k => if k.stage = .loop then s.onClient U k event fresh else s
  | .receive replica => s.receive replica
  | .lose replica => s.skip replica
  | .forward id | .lag id => s.nextFrame id
  | .disconnect id =>
      match s.socket? id with
      | none => s
      | some k => s.hangUp k
  | .resetRate userId => s.exec (update fun sh =>
      { sh with rates := Function.update sh.rates userId 0 })
  | .wait millis => s.exec (update fun sh => { sh with now := max sh.now millis })

end Server

end Vussa
