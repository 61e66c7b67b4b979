import Vussa.Rooms.Manager

/-!
Where published events go. `run_room_manager` does not look at the Pub/Sub topic: it derives the
room from the payload by a match with a catch-all arm. Every publisher of the backend names its
topic in the payload, but the member lists fall into the catch-all arm.

* `Operation`: everything that publishes;
* `Publishing`: a program publishes only events addressed to their topic, with its rules;
* `routed_iff`: **a published room event reaches its room, and no other, iff it is not a member
  list**.
-/

namespace Vussa.Rooms

open Effect

/-- Everything that publishes: a client event, a request, a socket that enters or leaves a
channel. -/
inductive Operation where
  | client (user : AuthUser) (session : Uuid) (active : Bool) (channel : String)
      (event : ClientEvent)
  | request (user : AuthUser) (body : Request)
  | enter (user : AuthUser) (channel : String)
  | leave (user : AuthUser) (channel : String)
  deriving DecidableEq, Repr

/-- The program of an operation. -/
def Operation.run (U : Unicode) (fresh : Fresh) : Operation → App Unit
  | .client user session active channel event => do
      let _ ← handleClientEvent U fresh user session active channel event
      return ⟨⟩
  | .request user body => handleRequest U fresh user body
  | .enter user channel => do
      let _ ← enterChannel user channel
      return ⟨⟩
  | .leave user channel => leavePresence user channel

/-- The events an operation publishes, with their topics. -/
def Operation.publications (U : Unicode) (fresh : Fresh) (op : Operation) (s : Shared) :
    List (String × ServerEvent) :=
  (after (op.run U fresh) s).published.drop s.published.length

/-! ### What is published -/

/-- An event on a topic: a control event, an event whose payload names the topic as its room, or
the member list of the topic. -/
def Addressed (p : String × ServerEvent) : Prop :=
  p.1 = "_control" ∨ p.2.room? = some p.1 ∨ ∃ members, p.2 = .members p.1 members

/-- What was published after `base` is addressed. -/
def Published (base : List (String × ServerEvent)) (s : Shared) : Prop :=
  ∃ new, s.published = base ++ new ∧ ∀ p ∈ new, Addressed p

lemma Published.congr {base : List (String × ServerEvent)} {s s' : Shared} (h : Published base s)
    (hsame : s'.published = s.published) : Published base s' := by
  obtain ⟨new, hnew, haddressed⟩ := h
  exact ⟨new, hsame.trans hnew, haddressed⟩

/-- A program publishes only addressed events. -/
def Publishing {α : Type} (x : App α) : Prop := ∀ base, Preserves (Published base) x

namespace Publishing

variable {α β : Type}

lemma pure (a : α) : Publishing (Pure.pure a : App α) := fun _ => .pure a

lemma bind {x : App α} {f : α → App β} (hx : Publishing x) (hf : ∀ a, Publishing (f a)) :
    Publishing (x >>= f) := fun base => (hx base).bind fun a => hf a base

lemma bind_of_returns {Q : α → Prop} {x : App α} {f : α → App β} (hx : Publishing x)
    (hreturns : Returns Q x) (hf : ∀ a, Q a → Publishing (f a)) : Publishing (x >>= f) :=
  fun base => (hx base).bind_of_returns hreturns fun a ha => hf a ha base

lemma read (f : Shared → Except AppError α) : Publishing (Effect.read f) := by
  intro base s hs
  rw [after, run_read]
  cases f s with
  | ok a => exact hs
  | error e => exact hs

lemma check (f : Database → Millis → Except AppError Unit) : Publishing (Vussa.check f) := read _

lemma update {f : Shared → Shared} (h : ∀ s, (f s).published = s.published) :
    Publishing (Effect.update f) := fun _ s hs => hs.congr (h s)

lemma transact {f : Shared → Except AppError (Shared × α)}
    (h : ∀ s s' a, f s = .ok (s', a) → s'.published = s.published) :
    Publishing (Effect.transact f) := by
  intro base s hs
  rw [after, run_transact]
  cases hf : f s with
  | ok p => exact hs.congr (h s p.1 p.2 hf)
  | error e => exact hs

lemma transaction (f : Database → Millis → Except AppError (Database × α)) :
    Publishing (Vussa.transaction f) := by
  refine transact ?_
  intro s s' a hok
  obtain ⟨⟨db, a'⟩, -, hpair⟩ := map_eq_ok hok
  rw [← (Prod.mk.inj hpair).1]
  rfl

lemma repository (f : Backend → Except RepositoryError (Backend × α)) :
    Publishing (Vussa.repository f) := by
  refine transact ?_
  intro s s' a hok
  cases hf : f s.toBackend with
  | error e => simp [hf] at hok
  | ok p =>
      simp only [hf, Except.ok.injEq, Prod.mk.injEq] at hok
      rw [← hok.1]
      rfl

/-- An event is added to what was published. -/
lemma publish {f : Shared → Shared} {p : Shared → String × ServerEvent}
    (hf : ∀ s, (f s).published = s.published ++ [p s]) (hp : ∀ s, Addressed (p s)) :
    Publishing (Effect.update f) := by
  rintro base s ⟨new, hnew, haddressed⟩
  refine ⟨new ++ [p s], ?_, ?_⟩
  · show (f s).published = base ++ (new ++ [p s])
    rw [hf, hnew, List.append_assoc]
  · intro q hq
    rcases List.mem_append.mp hq with hq | hq
    · exact haddressed q hq
    · rw [List.mem_singleton] at hq
      exact hq ▸ hp s

lemma broadcast {channel : String} {event : ServerEvent} (h : Addressed (channel, event)) :
    Publishing (Vussa.broadcast channel event) := publish (fun _ => rfl) fun _ => h

/-- An event that names its topic. -/
lemma broadcastRoom {channel : String} {event : ServerEvent} (h : event.room? = some channel) :
    Publishing (Vussa.broadcast channel event) := broadcast (Or.inr (Or.inl h))

lemma broadcastControl (event : ServerEvent) : Publishing (Vussa.broadcastControl event) :=
  broadcast (Or.inl rfl)

lemma broadcastMembers (channel : String) : Publishing (Vussa.broadcastMembers channel) :=
  publish (p := fun s => (channel, .members channel (Vussa.channelMembers s.db channel)))
    (fun _ => rfl) fun _ => Or.inr (Or.inr ⟨_, rfl⟩)

end Publishing

/-- What a repository operation returns. -/
lemma returns_repository {α : Type} {Q : α → Prop}
    {f : Backend → Except RepositoryError (Backend × α)}
    (h : ∀ b b' a, f b = .ok (b', a) → Q a) : Returns Q (repository f) := by
  intro s a s' hrun
  have hok := transact_run_ok hrun
  cases hf : f s.toBackend with
  | error e => simp [hf] at hok
  | ok p =>
      simp only [hf, Except.ok.injEq, Prod.mk.injEq] at hok
      exact hok.2 ▸ h _ _ _ hf

/-! ### The operations -/

/-- A system message carries the name it was published under. -/
lemma createSystemMessage_channel {db db' : Database} {now : Millis} {id : Uuid}
    {channel text : String} {message : ChatMessage}
    (h : createSystemMessage db now id channel text = .ok (db', some message)) :
    message.channel = channel := by
  rw [createSystemMessage] at h
  cases hc : db.liveChannel? channel with
  | none => simp [hc] at h
  | some c =>
      simp only [hc] at h
      obtain ⟨db1, -, hpair⟩ := map_eq_ok h
      rw [← Option.some.inj (Prod.mk.inj hpair).2]

lemma publishing_publishSystemMessage (notice : Uuid) (channel text : String) :
    Publishing (publishSystemMessage notice channel text) := by
  refine .bind_of_returns (Q := fun m => ∀ message ∈ m, message.channel = channel)
    (.repository _) (returns_repository ?_) ?_
  · intro b b' m hok message hm
    obtain ⟨db, hsys, -⟩ := Backend.publishSystemMessage_ok hok
    obtain rfl : m = some message := hm
    exact createSystemMessage_channel hsys
  · rintro (_ | m) hm
    · exact .pure _
    · exact .broadcastRoom (congrArg some (hm m rfl))

/-- An edited or deleted message is returned under the name of the channel it was found in. -/
lemma messageIn?_name {db : Database} {channel : String} {id : Uuid} {c : ChannelRow}
    {m : MessageRow} (h : db.messageIn? channel id = some (c, m)) : c.name = channel :=
  (Database.liveChannel?_some (Database.messageIn?_some h).1).2.1

lemma publishing_editMessageEvent (user : AuthUser) (session : Uuid) (channel : String)
    (id : Uuid) (rawText : String) :
    Publishing (editMessageEvent user session channel id rawText) := by
  refine .bind (.check _) fun _ => .bind (.check _) fun _ => .bind (.read _) fun text => ?_
  refine .bind_of_returns (Q := fun m => m.channel = channel) (.repository _)
    (returns_repository ?_) fun m hm => ?_
  · intro b b' m hok
    obtain ⟨db, hedit, -⟩ := Backend.editMessage_ok hok
    obtain ⟨c, row, hfound, -, -, rfl⟩ := editMessage_ok hedit
    exact messageIn?_name hfound
  · exact .bind (.broadcastRoom (congrArg some hm)) fun _ => .pure _

lemma publishing_deleteMessageEvent (user : AuthUser) (session : Uuid) (channel : String)
    (id : Uuid) : Publishing (deleteMessageEvent user session channel id) := by
  refine .bind (.check _) fun _ => .bind (.check _) fun _ => ?_
  refine .bind_of_returns (Q := fun m => m.channel = channel) (.repository _)
    (returns_repository ?_) fun m hm => ?_
  · intro b b' m hok
    obtain ⟨db, hdelete, -⟩ := Backend.deleteMessage_ok hok
    obtain ⟨c, row, hfound, -, -, rfl⟩ := deleteMessage_ok hdelete
    exact messageIn?_name hfound
  · exact .bind (.broadcastRoom (congrArg some hm)) fun _ => .pure _

/-- What `insertOrFind` does to the publications, and the channel of a new message. -/
lemma insertOrFind_ok {U : Unicode} {id : Uuid} {user : AuthUser} {session : Uuid}
    {channel text : String} {root : Option Uuid} {clientId : Option String} {files : List Uuid}
    {s s' : Shared} {r : ChatMessage ⊕ ChatMessage}
    (h : insertOrFind U id user session channel text root clientId files s = .ok (s', r)) :
    s'.published = s.published ∧ ∀ m, r = .inl m → m.channel = channel := by
  rw [insertOrFind] at h
  split at h
  · rw [Except.ok.injEq, Prod.mk.injEq] at h
    refine ⟨by rw [← h.1]; rfl, fun m hm => ?_⟩
    rw [← h.2, Sum.inl.injEq] at hm
    rw [← hm]
    rfl
  · split at h
    · rw [Except.ok.injEq, Prod.mk.injEq] at h
      refine ⟨by rw [h.1], fun m hm => ?_⟩
      rw [← h.2] at hm
      exact absurd hm (by simp)
    · exact absurd h (by simp)
    · exact absurd h (by simp)

lemma publishing_enforceRateLimit (userId : Uuid) : Publishing (enforceRateLimit userId) :=
  .bind (.update fun _ => rfl) fun _ => .read _

lemma publishing_sendMessage (U : Unicode) (id : Uuid) (user : AuthUser) (session : Uuid)
    (channel rawText : String) (root : Option Uuid) (rawClientId : Option String)
    (files : List Uuid) :
    Publishing (sendMessage U id user session channel rawText root rawClientId files) := by
  refine .bind (.check _) fun _ => .bind (publishing_enforceRateLimit _) fun _ => ?_
  refine .bind (.check _) fun _ => .bind (.check _) fun _ => .bind (.read _) fun text => ?_
  refine .bind (.check _) fun _ => .bind (.read _) fun retried => ?_
  cases retried with
  | some existing => exact .pure _
  | none =>
      refine .bind_of_returns (Q := fun r => ∀ m, r = .inl m → m.channel = channel)
        (.transact fun _ _ _ hok => (insertOrFind_ok hok).1) ?_ fun outcome houtcome => ?_
      · intro s r s' hrun
        exact (insertOrFind_ok (transact_run_ok hrun)).2
      · cases outcome with
        | inl m =>
            exact .bind (.broadcastRoom (congrArg some (houtcome m rfl))) fun _ => .pure _
        | inr existing => exact .pure _

lemma publishing_react (add : Bool) (user : AuthUser) (channel : String) (messageId : Uuid)
    (rawEmoji : String) : Publishing (react add user channel messageId rawEmoji) := by
  refine .bind (.check _) fun _ => .bind (.check _) fun _ => .bind (.read _) fun emoji => ?_
  refine .bind (.update fun _ => rfl) fun _ => .bind ?_ fun _ => .pure _
  exact .publish (p := fun s =>
    (channel, .reactionUpdated channel (reactionSummary s.db messageId emoji)))
    (fun _ => rfl) fun _ => Or.inr (Or.inl rfl)

lemma publishing_sendPage (channel : String) (before : Option Cursor) :
    Publishing (sendPage channel before) := by
  refine .transact fun s s' event hok => ?_
  simp only [Except.ok.injEq, Prod.mk.injEq] at hok
  rw [← hok.1]
  rfl

lemma publishing_enterChannel (user : AuthUser) (channel : String) :
    Publishing (enterChannel user channel) :=
  .bind (publishing_sendPage _ _) fun _ => .bind (.read _) fun _ =>
    .bind (.update fun _ => rfl) fun _ => .bind (.read _) fun _ =>
      .bind (.broadcastRoom rfl) fun _ => .pure _

lemma publishing_leavePresence (user : AuthUser) (channel : String) :
    Publishing (leavePresence user channel) :=
  .bind (.update fun _ => rfl) fun _ => .broadcastRoom rfl

lemma publishing_createPublicChannel (U : Unicode) (channelId notice : Uuid) (actor : AuthUser)
    (rawName : String) : Publishing (createPublicChannel U channelId notice actor rawName) :=
  .bind (.check _) fun _ => .bind (.check _) fun _ => .bind (.read _) fun _ =>
    .bind (.transaction _) fun _ => .bind (publishing_publishSystemMessage _ _ _) fun _ =>
      .bind (.broadcastControl _) fun _ => .pure _

lemma publishing_createPrivateConversation (U : Unicode) (channelId notice : Uuid)
    (actor : AuthUser) (rawName : String) :
    Publishing (createPrivateConversation U channelId notice actor rawName) :=
  .bind (.check _) fun _ => .bind (.check _) fun _ => .bind (.read _) fun _ =>
    .bind (.transaction _) fun _ => .bind (publishing_publishSystemMessage _ _ _) fun _ => .pure _

lemma publishing_openDirect (channelId : Uuid) (actor : AuthUser) (target : Uuid) :
    Publishing (openDirect channelId actor target) :=
  .bind (.check _) fun _ => .bind (.check _) fun _ => .bind (.check _) fun _ =>
    .bind (.check _) fun _ => .transaction _

lemma publishing_inviteMember (notice : Uuid) (actor : AuthUser) (channel : String)
    (userId : Uuid) : Publishing (inviteMember notice actor channel userId) := by
  refine .bind (.check _) fun _ => .bind (.read _) fun _ => .bind (.transaction _) fun target => ?_
  cases target with
  | none => exact .pure _
  | some target =>
      exact .bind (publishing_publishSystemMessage _ _ _) fun _ =>
        .bind (.broadcastMembers _) fun _ => .pure _

lemma publishing_removeMember (notice : Uuid) (actor : AuthUser) (channel : String)
    (userId : Uuid) : Publishing (removeMember notice actor channel userId) :=
  .bind (.check _) fun _ => .bind (.read _) fun _ => .bind (.transaction _) fun _ =>
    .bind (publishing_publishSystemMessage _ _ _) fun _ => .broadcastMembers _

lemma publishing_deleteChannelService (U : Unicode) (actor : AuthUser) (rawName : String) :
    Publishing (deleteChannelService U actor rawName) :=
  .bind (.check _) fun _ => .bind (.read _) fun _ => .bind (.check _) fun _ =>
    .bind (.transaction _) fun _ => .bind (.broadcastControl _) fun _ => .pure _

lemma publishing_leaveChannel (notice : Uuid) (actor : AuthUser) (name : String) :
    Publishing (leaveChannel notice actor name) :=
  .bind (.check _) fun _ => .bind (.transaction _) fun _ =>
    .bind (publishing_publishSystemMessage _ _ _) fun _ => .bind (.broadcastMembers _) fun _ =>
      .transaction _

lemma publishing_adminChannelState (notice : Uuid) (actor : AuthUser) (id : Uuid)
    (action : ChannelAction) : Publishing (adminChannelState notice actor id action) := by
  refine .bind (.check _) fun _ => .bind (.transaction _) fun _ => ?_
  cases action with
  | archive => exact publishing_publishSystemMessage _ _ _
  | restore => exact publishing_publishSystemMessage _ _ _
  | delete => exact .pure _
  | undelete => exact .pure _

lemma publishing_adminModerate (actor : AuthUser) (id : Uuid) (action : Moderation)
    (reason : Option String) : Publishing (adminModerate actor id action reason) := by
  refine .bind (.check _) fun _ => .bind (.repository _) fun message => ?_
  cases message with
  | none => exact .pure _
  | some message => exact .broadcastRoom rfl

/-- The client events. -/
lemma publishing_client (U : Unicode) (fresh : Fresh) (user : AuthUser) (session : Uuid)
    (active : Bool) (channel : String) (event : ClientEvent) :
    Publishing (handleClientEvent U fresh user session active channel event) := by
  cases event with
  | listChannels => exact .pure _
  | createChannel name =>
      exact .bind (publishing_createPublicChannel _ _ _ _ _) fun _ => .pure _
  | createPrivateChannel name =>
      exact .bind (publishing_createPrivateConversation _ _ _ _ _) fun _ => .pure _
  | openDirect userId => exact .bind (publishing_openDirect _ _ _) fun _ => .pure _
  | inviteMember target userId => exact .bind (publishing_inviteMember _ _ _ _) fun _ => .pure _
  | removeMember target userId => exact .bind (publishing_removeMember _ _ _ _) fun _ => .pure _
  | joinChannel raw => exact .bind (.read _) fun _ => .bind (.check _) fun _ => .pure _
  | deleteChannel raw => exact .bind (publishing_deleteChannelService _ _ _) fun _ => .pure _
  | deleteMessage id => exact publishing_deleteMessageEvent _ _ _ _
  | addReaction messageId emoji => exact publishing_react _ _ _ _ _
  | removeReaction messageId emoji => exact publishing_react _ _ _ _ _
  | typing typing =>
      exact .bind (.check _) fun _ => .bind (.check _) fun _ =>
        .bind (.broadcastRoom rfl) fun _ => .pure _
  | markRead messageId createdAt =>
      exact .bind (.check _) fun _ => .bind (.check _) fun _ =>
        .bind (.update fun _ => rfl) fun _ => .pure _
  | sendMessage text root clientId fileIds => exact publishing_sendMessage _ _ _ _ _ _ _ _ _
  | editMessage id text => exact publishing_editMessageEvent _ _ _ _ _
  | loadHistory raw t id =>
      refine .bind (.read _) fun name => ?_
      split
      · exact .pure _
      · exact .bind (.check _) fun _ => .bind (publishing_sendPage _ _) fun _ => .pure _
  | loadThread messageId t id =>
      exact .bind (.check _) fun _ => .bind (.check _) fun _ => .bind (.read _) fun _ => .pure _
  | heartbeat =>
      exact .bind (.read _) fun _ => .bind (.read _) fun _ => .bind (.update fun _ => rfl) fun _ =>
        .bind (.broadcastRoom rfl) fun _ => .pure _

lemma publishing_refreshModeratedMessage (id : Uuid) :
    Publishing (refreshModeratedMessage id) := by
  refine .bind (.read _) fun message => ?_
  cases message with
  | none => exact .pure _
  | some message => exact .bind (.broadcastRoom rfl) fun _ => .update fun _ => rfl

lemma publishing_refreshModerated (ids : List Uuid) : Publishing (refreshModerated ids) := by
  induction ids with
  | nil => exact .pure _
  | cons id ids ih => exact .bind (publishing_refreshModeratedMessage id) fun _ => ih

lemma publishing_acceptInviteLink (notice : Uuid) (actor : AuthUser) (token : String)
    (link : Option InviteLinkRow) : Publishing (acceptInviteLink notice actor token link) := by
  refine .bind (.check _) fun _ => .bind (.check _) fun _ => .bind (.transaction _) fun r => ?_
  obtain ⟨name, joined⟩ := r
  cases joined with
  | true => exact .bind (publishing_publishSystemMessage _ _ _) fun _ => .pure _
  | false => exact .pure _

lemma publishing_setModerator (old new : MembershipRole) (action : String) (actor : AuthUser)
    (name : String) (userId : Uuid) :
    Publishing (setModerator old new action actor name userId) :=
  .bind (.read _) fun _ => .bind (.transaction _) fun _ => .transaction _

/-- The requests. -/
lemma publishing_request (U : Unicode) (fresh : Fresh) (user : AuthUser) (body : Request) :
    Publishing (handleRequest U fresh user body) := by
  cases body with
  | createChannel name =>
      exact .bind (publishing_createPublicChannel _ _ _ _ _) fun _ => .pure _
  | createPrivateChannel name =>
      exact .bind (publishing_createPrivateConversation _ _ _ _ _) fun _ => .pure _
  | openDirect userId => exact .bind (publishing_openDirect _ _ _) fun _ => .pure _
  | inviteMember channel userId => exact .bind (publishing_inviteMember _ _ _ _) fun _ => .pure _
  | removeMember channel userId => exact publishing_removeMember _ _ _ _
  | leaveChannel channel => exact publishing_leaveChannel _ _ _
  | adminCreateChannel request =>
      exact .bind (.check _) fun _ => .bind (.read _) fun _ => .bind (.check _) fun _ =>
        .bind (.check _) fun _ => .bind (.transaction _) fun _ => .bind (.transaction _) fun _ =>
          publishing_publishSystemMessage _ _ _
  | adminUpdateChannel id request => exact .bind (.check _) fun _ => .transaction _
  | adminChannelState id action => exact publishing_adminChannelState _ _ _ _
  | adminCreateBan request => exact .bind (.check _) fun _ => .transaction _
  | adminRevokeBan id => exact .bind (.check _) fun _ => .transaction _
  | adminModerateMessage id action reason => exact publishing_adminModerate _ _ _ _
  | promoteModerator channel userId => exact publishing_setModerator _ _ _ _ _ _
  | demoteModerator channel userId => exact publishing_setModerator _ _ _ _ _ _
  | transferOwnership channel userId =>
      exact .bind (.check _) fun _ => .bind (.transaction _) fun _ =>
        .bind (.broadcastMembers _) fun _ => .transaction _
  | acceptInviteLink token link =>
      exact .bind (publishing_acceptInviteLink _ _ _ _) fun _ => .pure _
  | adminBulkModerate ids action reason =>
      exact .bind (.check _) fun _ => .bind (.check _) fun _ => .bind (.transaction _) fun _ =>
        publishing_refreshModerated _

/-- **Every operation addresses what it publishes**: to the control channel, to the room that the
payload names, or as a member list. -/
theorem publishing_run (U : Unicode) (fresh : Fresh) (op : Operation) :
    Publishing (op.run U fresh) := by
  cases op with
  | client user session active channel event =>
      exact .bind (publishing_client _ _ _ _ _ _ _) fun _ => .pure _
  | request user body => exact publishing_request _ _ _ _
  | enter user channel => exact .bind (publishing_enterChannel _ _) fun _ => .pure _
  | leave user channel => exact publishing_leavePresence _ _

lemma addressed_of_mem {U : Unicode} {fresh : Fresh} {op : Operation} {s : Shared}
    {p : String × ServerEvent} (h : p ∈ op.publications U fresh s) : Addressed p := by
  obtain ⟨new, hnew, haddressed⟩ :=
    publishing_run U fresh op s.published s ⟨[], (List.append_nil _).symm, by simp⟩
  rw [Operation.publications, hnew, List.drop_left] at h
  exact haddressed p h

/-! ### Routing -/

/-- A member list goes nowhere. -/
lemma route_members (h : Hub) (channel : String) (members : List ChannelMember) :
    h.route (.members channel members) = h := rfl

/-- A frame that is sent to an open room shows. -/
lemma sendRoom_ne_self {h : Hub} {channel : String} {entry : RoomEntry}
    (hroom : h.rooms channel = some entry) (wire : ServerEvent) :
    h.sendRoom channel wire ≠ h := by
  intro heq
  have hsent := congrArg (fun h : Hub => h.rooms channel) heq
  simp only [Hub.sendRoom, hroom, Hub.setRoom_self, Option.some.injEq] at hsent
  have hlen := congrArg (fun e : RoomEntry => e.sent.length) hsent
  simp at hlen

/-- **Routing**: for every event `e` that an operation publishes on the topic of a room `c`, the
room manager hands the frame, over every map of rooms, to the receivers of `c` and to no other
room iff `e` is not a member list. -/
theorem routed_iff (U : Unicode) (fresh : Fresh) (op : Operation) (s : Shared) {c : String}
    {e : ServerEvent} (hpub : (c, e) ∈ op.publications U fresh s) (hc : c ≠ "_control") :
    (∀ h : Hub, h.route e = h.sendRoom c e) ↔ ∀ name members, e ≠ .members name members := by
  rcases addressed_of_mem hpub with hcontrol | hroom | ⟨members, hmembers⟩
  · exact absurd hcontrol hc
  · refine iff_of_true (fun h => h.route_of_room hroom) ?_
    rintro name members rfl
    exact absurd hroom (by simp [ServerEvent.room?])
  · obtain rfl : e = .members c members := hmembers
    refine iff_of_false (fun hall => ?_) fun hnot => hnot c members rfl
    -- a map in which the room is open
    have hopen : (Hub.setRoom {} c (some { clients := 1 })).rooms c = some { clients := 1 } :=
      Hub.setRoom_self ..
    exact sendRoom_ne_self hopen (.members c members) ((hall _).symm.trans (route_members ..))

/-- A member of the private channel of the tables below. -/
def guest : AuthUser :=
  { id := 2, email := "g@x", username := "g", roles := [], permissions := [.chatWrite] }

/-- A private channel with its owner and one member. -/
def clubTables : Database where
  users := [{ id := 1, username := "o" }, { id := 2, username := "g" }]
  channels :=
    [{ id := 7, name := "club", createdAt := 1, kind := .priv, ownerUserId := some 1 }]
  channelMembers :=
    [{ channelId := 7, userId := 1, membershipRole := .owner, createdAt := 1 },
     { channelId := 7, userId := 2, createdAt := 1 }]

/-- The identifiers of a request. -/
def freshIds : Fresh := { channel := 10, message := 11, notice := 12 }

/-- The state over the tables. -/
def clubState : Shared := { db := clubTables, now := 5 }

/-- A socket that leaves the room. -/
theorem routed_participantLeft :
    ("club", ServerEvent.participantLeft "club" 2) ∈
      (Operation.leave guest "club").publications .ascii freshIds clubState ∧
    ∀ h : Hub, h.route (.participantLeft "club" 2)
      = h.sendRoom "club" (.participantLeft "club" 2) := by
  have hpub : ("club", ServerEvent.participantLeft "club" 2) ∈
      (Operation.leave guest "club").publications .ascii freshIds clubState := by decide
  exact ⟨hpub, (routed_iff .ascii freshIds _ _ hpub (by decide)).mpr (by simp)⟩

/-- The member list that `leave_channel` publishes reaches nobody, though the room is open. -/
theorem members_not_routed :
    ("club", ServerEvent.members "club"
        [{ userId := 1, username := "o", membershipRole := .owner }]) ∈
      (Operation.request guest (.leaveChannel "club")).publications .ascii freshIds clubState ∧
    ¬ ∀ h : Hub,
      h.route (.members "club" [{ userId := 1, username := "o", membershipRole := .owner }])
        = h.sendRoom "club"
          (.members "club" [{ userId := 1, username := "o", membershipRole := .owner }]) := by
  refine ⟨by decide, fun hall => ?_⟩
  have hsent := congrArg (fun h : Hub => (h.rooms "club").map fun e => e.sent.length)
    (hall (Hub.setRoom {} "club" (some { clients := 1 })))
  exact absurd hsent (by decide)

end Vussa.Rooms
