import Vussa.Model.Handler

/-!
The chat page (`routes/+page.svelte`) and the protocol it speaks with `handle_socket`.

A connection carries the frames of the page to the server and the events of the server to the
page, each in order. The page never looks back: it closes a connection and opens another one, while
the server may still be reading the frames of the old one. A stale timer may open a second
connection, so the events of an older connection can still be handled; everything the page sends
goes to the newest one. The entry of `handle_socket` into the main channel and `onopen` are one
step, as both only append to queues. Everything that happens beside the page is a step that replaces
the shared state, and the frames of rooms and the control channel are pushed. The tests of the page
for missing or empty names are left out, and so is what only matters to the display.

* `PendingMessage`, `Frame`: what is sent; the server does not read the channel of a message;
* `Page`, `Connection`, `Chat`: the state;
* `Chat.join`, `Chat.queueMessage`, `Chat.flushPendingMessages`, `Chat.handleEvent`: the page;
* `Connection.answer`: the server on one frame;
* `ChatAct`, `Chat.step`: the steps.
-/

namespace Vussa

open Effect

/-! ### Data -/

/-- `PendingMessage`. -/
structure PendingMessage where
  channel : String
  text : String
  fileIds : List Uuid
  rootMessageId : Option Uuid := none
  clientId : String
  deriving DecidableEq, Repr

/-- A frame of the page: `send_message` with the fields of a pending message, or another event. -/
inductive Frame where
  | message (p : PendingMessage)
  | event (event : ClientEvent)
  deriving DecidableEq, Repr

/-- The event the server reads; `SendMessage` has no field for the channel. -/
def Frame.toEvent : Frame → ClientEvent
  | .message p => .sendMessage p.text p.rootMessageId (some p.clientId) p.fileIds
  | .event e => e

/-- The state of a WebSocket; a closing one counts as closed, since it neither sends nor hands out
messages. -/
inductive ReadyState where
  | connecting
  | open
  | closed
  deriving DecidableEq, Repr

/-- The `status` of the page. -/
inductive Status where
  | connecting
  | connected
  | disconnected
  deriving DecidableEq, Repr

/-- The variables of the page that its protocol reads; `uploading` holds the text of a submit that
waits for its file. -/
structure Page where
  activeChannel : String := mainChannel
  pendingChannel : Option String := none
  historyLoading : Bool := true
  status : Status := .connecting
  pendingMessages : List PendingMessage := []
  threadRoot : Option Uuid := none
  uploading : Option String := none
  intentionalClose : Bool := false
  deriving DecidableEq, Repr

/-- A connection: the end of the page, the loop of `handle_socket` with its channel, and the two
queues. -/
structure Connection where
  session : Uuid
  user : AuthUser
  resumeChannel : String
  readyState : ReadyState := .connecting
  serving : Bool := false
  channel : String := mainChannel
  requests : List Frame := []
  events : List ServerEvent := []
  deriving DecidableEq, Repr

/-- The page, its connections with the newest first, and the state of the servers. -/
structure Chat where
  page : Page := {}
  connections : List Connection := []
  shared : Shared

/-- The events that the receivers of a room and of the control channel hand out. -/
def ServerEvent.isBroadcast : ServerEvent → Bool
  | .channelCreated _ | .channelDeleted _ | .members _ _ | .message _ | .messageUpdated _
  | .reactionUpdated _ _ | .typing _ _ _ _ | .error _ | .participants _ _ | .participantJoined _ _
  | .participantLeft _ _ | .presenceSync _ _ => true
  | _ => false

/-- The frames of the page that have no function of their own here. -/
def ClientEvent.isBackground : ClientEvent → Bool
  | .joinChannel _ | .openDirect _ | .deleteChannel _ | .sendMessage _ _ _ _ | .loadThread _ _ _ =>
      false
  | _ => true

namespace Chat

/-! ### The page -/

/-- Change a variable of the page. -/
def setPage (s : Chat) (page : Page) : Chat := { s with page := page }

/-- The current socket is open. -/
def isOpen (s : Chat) : Bool :=
  match s.connections with
  | [] => false
  | c :: _ => c.readyState = .open

/-- `send`: a frame on the current socket, if it is open. -/
def send (s : Chat) (frame : Frame) : Chat :=
  match s.connections with
  | [] => s
  | c :: cs =>
      if c.readyState = .open then
        { s with connections := { c with requests := c.requests ++ [frame] } :: cs }
      else s

/-- `socket.close()`. -/
def closeSocket (s : Chat) : Chat :=
  match s.connections with
  | [] => s
  | c :: cs => { s with connections := { c with readyState := .closed } :: cs }

/-- `connect`. -/
def connect (s : Chat) (session : Uuid) (user : AuthUser) : Chat :=
  if s.page.intentionalClose then s
  else
    { s with
      page := { s.page with status := .connecting, historyLoading := true }
      connections :=
        { session := session, user := user, resumeChannel := s.page.activeChannel } ::
          s.connections }

/-- `disconnected`. -/
def disconnected (s : Chat) : Chat :=
  if s.page.intentionalClose then s
  else s.setPage { s.page with status := .disconnected, historyLoading := false }

/-- `join`, which first takes back the typing mark. -/
def join (s : Chat) (name : String) : Chat :=
  if name = s.page.activeChannel ∧ s.page.pendingChannel = none then s
  else
    let s := s.send (.event (.typing false))
    if s.isOpen then
      (s.send (.event (.joinChannel name))).setPage
        { s.page with pendingChannel := some name, historyLoading := true }
    else s

/-- `openDirect`. -/
def openDirect (s : Chat) (userId : Uuid) : Chat :=
  if s.isOpen then
    (s.send (.event (.openDirect userId))).setPage
      { s.page with pendingChannel := some "__direct__" }
  else s

/-- `queueMessage`. -/
def queueMessage (s : Chat) (p : PendingMessage) : Chat :=
  let others := s.page.pendingMessages.filter fun q => q.clientId ≠ p.clientId
  if s.isOpen then
    (s.send (.message p)).setPage { s.page with pendingMessages := others ++ [p] }
  else s.setPage { s.page with pendingMessages := others }

/-- `flushPendingMessages`. -/
def flushPendingMessages (s : Chat) (channel : String) : Chat :=
  (s.page.pendingMessages.filter fun p => p.channel = channel).foldl
    (fun s p => s.send (.message p)) s

/-- `submit` has its conditions. -/
def MaySubmit (s : Chat) : Prop :=
  s.page.status = .connected ∧ s.page.historyLoading = false ∧ s.page.uploading = none

instance (s : Chat) : Decidable s.MaySubmit := inferInstanceAs (Decidable (_ ∧ _))

/-- `submit` up to the upload: without a file the message is queued at once. -/
def submit (s : Chat) (text : String) (file : Bool) (clientId : String) : Chat :=
  if (text = "" ∧ file = false) ∨ ¬ s.MaySubmit then s
  else if file then s.setPage { s.page with uploading := some text }
  else s.queueMessage
    { channel := s.page.activeChannel, text := text, fileIds := [], clientId := clientId }

/-- `submit` after the upload, in the channel that is active then. -/
def uploaded (s : Chat) (fileId : Uuid) (clientId : String) : Chat :=
  match s.page.uploading with
  | none => s
  | some text =>
      (s.setPage { s.page with uploading := none }).queueMessage
        { channel := s.page.activeChannel, text := text, fileIds := [fileId],
          clientId := clientId }

/-- `replyInThread`. -/
def replyInThread (s : Chat) (text clientId : String) : Chat :=
  match s.page.threadRoot with
  | none => s
  | some root =>
      if text = "" then s
      else s.queueMessage
        { channel := s.page.activeChannel, text := text, fileIds := [],
          rootMessageId := some root, clientId := clientId }

/-- `handle`. -/
def handleEvent (s : Chat) : ServerEvent → Chat
  | .channelDeleted name => if s.page.activeChannel = name then s.join mainChannel else s
  | .joined name =>
      (s.setPage { s.page with activeChannel := name, pendingChannel := none, threadRoot := none,
                               historyLoading := true }).flushPendingMessages name
  | .history channel _ _ _ =>
      if channel = s.page.activeChannel then s.setPage { s.page with historyLoading := false }
      else s
  | .message m =>
      match m.clientId with
      | none => s
      | some clientId =>
          let others := s.page.pendingMessages.filter fun p => p.clientId ≠ clientId
          s.setPage { s.page with pendingMessages := others }
  | .threadHistory root _ _ => s.setPage { s.page with threadRoot := some root }
  | .error message =>
      if message = "session expired" then
        (s.setPage { s.page with intentionalClose := true }).closeSocket
      else if message = "realtime connection interrupted" then s.closeSocket
      else s
  | _ => s

end Chat

/-! ### The server -/

/-- `handle_socket` on one frame: the handler, and the channel switch it asks for. -/
def Connection.answer (U : Unicode) (c : Connection) (active : Bool) (fresh : Fresh)
    (frame : Frame) (shared : Shared) : Connection × Shared :=
  match (handleClientEvent U fresh c.user c.session active c.channel frame.toEvent).run shared with
  | .ok r shared =>
      match r.switchTo with
      | none => ({ c with events := c.events ++ r.sent }, shared)
      | some channel =>
          match (enterChannel c.user channel).run (after (leavePresence c.user c.channel) shared)
          with
          | .ok events shared =>
              ({ c with channel := channel, events := c.events ++ r.sent ++ events }, shared)
          | .error _ shared => ({ c with channel := channel, serving := false }, shared)
  | .error e shared =>
      let c := { c with events := c.events ++ [.error e.message] }
      if e.status = .unauthorized then
        ({ c with serving := false }, after (leavePresence c.user c.channel) shared)
      else (c, shared)

/-! ### The steps -/

/-- Everything that can happen: the page and its user, the connections, the server, and the rest of
the world. -/
inductive ChatAct where
  | signIn (session : Uuid) (user : AuthUser)
  | reconnect (session : Uuid) (user : AuthUser)
  | connectFails
  | opened (i : ℕ)
  | closed (i : ℕ)
  | signOut
  | handle (i : ℕ)
  | join (name : String)
  | openDirect (userId : Uuid)
  | removeChannel (name : String)
  | openThread (messageId : Uuid)
  | submit (text : String) (file : Bool) (clientId : String)
  | uploaded (fileId : Uuid) (clientId : String)
  | uploadFails
  | replyInThread (text clientId : String)
  | background (event : ClientEvent)
  | serve (i : ℕ) (active : Bool) (fresh : Fresh)
  | push (i : ℕ) (event : ServerEvent)
  | hangUp (i : ℕ)
  | world (shared : Shared)

namespace Chat

/-- The page has just been loaded. -/
def start (shared : Shared) : Chat := { shared := shared }

/-- Replace a connection. -/
def setConnection (s : Chat) (i : ℕ) (c : Connection) : Chat :=
  { s with connections := s.connections.set i c }

/-- `onopen`, with the entry of `handle_socket`. -/
def opened (s : Chat) (i : ℕ) (c : Connection) : Chat :=
  match (enterChannel c.user mainChannel).run s.shared with
  | .error _ _ => s
  | .ok events shared =>
      let entered := { c with readyState := .open, serving := true, channel := mainChannel
                              requests := [], events := .welcome c.user.username :: events }
      let s := { s.setConnection i entered with
        shared := shared, page := { s.page with status := .connected } }
      let s := s.send (.event .heartbeat)
      if c.resumeChannel = mainChannel then s
      else s.send (.event (.joinChannel c.resumeChannel))

/-- The server reads a frame. -/
def serve (U : Unicode) (s : Chat) (i : ℕ) (c : Connection) (active : Bool) (fresh : Fresh)
    (frame : Frame) (rest : List Frame) : Chat :=
  let (c, shared) := { c with requests := rest }.answer U active fresh frame s.shared
  { s.setConnection i c with shared := shared }

/-- One step. -/
def step (U : Unicode) (s : Chat) : ChatAct → Chat
  | .signIn session user =>
      (s.setPage { s.page with intentionalClose := false }).connect session user
  | .reconnect session user => s.connect session user
  | .connectFails => s.disconnected
  | .opened i =>
      match s.connections[i]? with
      | none => s
      | some c => if c.readyState = .connecting then s.opened i c else s
  | .closed i =>
      match s.connections[i]? with
      | none => s
      | some c =>
          let s := s.setConnection i { c with readyState := .closed }
          if i = 0 then s.disconnected else s
  | .signOut => (s.setPage { s.page with intentionalClose := true }).closeSocket
  | .handle i =>
      match s.connections[i]? with
      | none => s
      | some c =>
          match c.events with
          | [] => s
          | event :: events =>
              if c.readyState = .open then
                (s.setConnection i { c with events := events }).handleEvent event
              else s
  | .join name => s.join name
  | .openDirect userId => s.openDirect userId
  | .removeChannel name =>
      if name = mainChannel then s else s.send (.event (.deleteChannel name))
  | .openThread messageId =>
      (s.setPage { s.page with threadRoot := some messageId }).send
        (.event (.loadThread messageId none none))
  | .submit text file clientId => s.submit text file clientId
  | .uploaded fileId clientId => s.uploaded fileId clientId
  | .uploadFails => s.setPage { s.page with uploading := none }
  | .replyInThread text clientId => s.replyInThread text clientId
  | .background event => if event.isBackground then s.send (.event event) else s
  | .serve i active fresh =>
      match s.connections[i]? with
      | none => s
      | some c =>
          match c.requests with
          | [] => s
          | frame :: rest => if c.serving then s.serve U i c active fresh frame rest else s
  | .push i event =>
      match s.connections[i]? with
      | none => s
      | some c =>
          if c.serving ∧ event.isBroadcast then
            s.setConnection i { c with events := c.events ++ [event] }
          else s
  | .hangUp i =>
      match s.connections[i]? with
      | none => s
      | some c => s.setConnection i { c with serving := false }
  | .world shared => { s with shared := shared }

end Chat

end Vussa
