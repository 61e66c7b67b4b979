import Vussa.Model.Server

/-!
What the handlers write. A handler checks, makes at most one write that matters to channels,
members, bans, messages or caches, and then publishes, audits and notes. `Write` and `EventWrite`
list that write for every request and every client event, read in the state the handler starts in.

* `Quiet`, `Stable`: changes that matter to nobody, and the properties kept by them, by system
  messages, by history pages and by the refresh of a cache;
* `Write`, `EventWrite`: the writes;
* `holds_after_request`, `holds_after_event`: **a stable property kept by the write of a handler is
  kept by the handler**;
* `holds_after_step`: the same for a step of the system.
-/

namespace Vussa

open Effect

/-! ### Stable properties -/

/-- Channels, members, bans, messages and caches are as before, and time did not go back. -/
structure Quiet (s s' : Shared) : Prop where
  channels : s'.db.channels = s.db.channels
  channelMembers : s'.db.channelMembers = s.db.channelMembers
  userBans : s'.db.userBans = s.db.userBans
  messages : s'.db.messages = s.db.messages
  history : s'.history = s.history
  now : s.now ≤ s'.now

/-- A property kept by quiet changes, by system messages, by history pages and by the refresh of a
cache. -/
structure Stable (P : Shared → Prop) : Prop where
  quiet : ∀ s s', Quiet s s' → P s → P s'
  notice : ∀ notice channel text, Preserves P (publishSystemMessage notice channel text)
  page : ∀ channel before, Preserves P (sendPage channel before)
  refresh : ∀ channel s, P s → P (s.setBackend (s.setHistory channel .empty))

/-- The same channels, members, bans, messages and clock. -/
lemma quiet_of_backend {s s' : Shared} (h : s'.toBackend = s.toBackend) : Quiet s s' := by
  refine ⟨?_, ?_, ?_, ?_, ?_, ?_⟩
  all_goals rw [h]

/-! ### Writes -/

/-- What the handler of a request writes. -/
inductive Write (U : Unicode) (fresh : Fresh) (user : AuthUser) (s : Shared) :
    Request → Shared → Prop
  | createChannel {raw name : String} {db' : Database} {id : Uuid} :
      Permission.chatWrite ∈ user.permissions → ¬ GloballyBanned s.db s.now user.id →
      normalizeChannelName U raw = .ok name →
      s.db.upsertChannel fresh.channel name s.now = .ok (db', id) →
      Write U fresh user s (.createChannel raw) (s.setDb db')
  | createPrivateChannel {raw name : String} {db' : Database} {u : Unit} :
      Permission.chatWrite ∈ user.permissions → ¬ GloballyBanned s.db s.now user.id →
      normalizeChannelName U raw = .ok name →
      insertPrivateChannel fresh.channel user name s.db s.now = .ok (db', u) →
      Write U fresh user s (.createPrivateChannel raw) (s.setDb db')
  | openDirect {target : Uuid} {db' : Database} {r : Uuid × String} :
      Permission.chatWrite ∈ user.permissions → ¬ GloballyBanned s.db s.now user.id →
      insertDirect fresh.channel user target s.db s.now = .ok (db', r) →
      Write U fresh user s (.openDirect target) (s.setDb db')
  | inviteMember {channel : String} {userId id : Uuid} {db' : Database} {r : Option String} :
      ownedPrivateChannel s.db channel user.id = .ok id →
      insertMember id user userId s.db s.now = .ok (db', r) →
      Write U fresh user s (.inviteMember channel userId) (s.setDb db')
  | removeMember {channel : String} {userId id : Uuid} {db' : Database} {r : String} :
      Permission.chatWrite ∈ user.permissions →
      ownedPrivateChannel s.db channel user.id = .ok id →
      deleteMember id user userId s.db s.now = .ok (db', r) →
      Write U fresh user s (.removeMember channel userId) (s.setDb db')
  | leaveChannel {channel : String} {id : Uuid} {db' : Database} :
      Permission.chatWrite ∈ user.permissions →
      deleteOwnMembership user channel s.db = .ok (db', id) →
      Write U fresh user s (.leaveChannel channel) (s.setDb db')
  | adminCreateChannel {request : ChannelAdminRequest} {name : String} {db' : Database}
      {id : Uuid} :
      Permission.channelsWrite ∈ user.permissions →
      normalizeChannelName U (request.name.getD "") = .ok name → name ≠ mainChannel →
      s.db.upsertChannel fresh.channel name s.now = .ok (db', id) →
      Write U fresh user s (.adminCreateChannel request)
        (s.setDb (db'.updateChannel id (ChannelRow.configure request)))
  | adminUpdateChannel {id : Uuid} {request : ChannelAdminRequest} {db' : Database} {u : Unit} :
      Permission.channelsWrite ∈ user.permissions →
      updateChannelRow U user id request s.db s.now = .ok (db', u) →
      Write U fresh user s (.adminUpdateChannel id request) (s.setDb db')
  | adminChannelState {id : Uuid} {action : ChannelAction} {db' : Database} {name : String} :
      Permission.channelsWrite ∈ user.permissions →
      setChannelState user id action s.db s.now = .ok (db', name) →
      Write U fresh user s (.adminChannelState id action) (s.setDb db')
  | adminCreateBan {request : BanRequest} {db' : Database} {u : Unit} :
      Permission.moderationWrite ∈ user.permissions →
      insertBan fresh.message user request s.db s.now = .ok (db', u) →
      Write U fresh user s (.adminCreateBan request) (s.setDb db')
  | adminRevokeBan {id : Uuid} {db' : Database} {u : Unit} :
      updateBan user id s.db s.now = .ok (db', u) →
      Write U fresh user s (.adminRevokeBan id) (s.setDb db')
  | adminModerateMessage {id : Uuid} {action : Moderation} {reason : Option String} {b : Backend}
      {message : Option ChatMessage} :
      s.toBackend.moderateMessage user.id id action reason = .ok (b, message) →
      Write U fresh user s (.adminModerateMessage id action reason) (s.setBackend b)
  | promoteModerator {channel : String} {userId id : Uuid} {db' : Database} {u : Unit} :
      changeRole id userId .member .moderator s.db = .ok (db', u) →
      Write U fresh user s (.promoteModerator channel userId) (s.setDb db')
  | demoteModerator {channel : String} {userId id : Uuid} {db' : Database} {u : Unit} :
      changeRole id userId .moderator .member s.db = .ok (db', u) →
      Write U fresh user s (.demoteModerator channel userId) (s.setDb db')
  | transferOwnership {channel : String} {userId id : Uuid} {db' : Database} :
      Permission.chatWrite ∈ user.permissions →
      transferOwnership user channel userId s.db = .ok (db', id) →
      Write U fresh user s (.transferOwnership channel userId) (s.setDb db')
  | acceptInviteLink {token : String} {link : Option InviteLinkRow} {db' : Database}
      {r : String × Bool} :
      Permission.chatWrite ∈ user.permissions →
      useInviteLink user link s.db s.now = .ok (db', r) →
      Write U fresh user s (.acceptInviteLink token link) (s.setDb db')
  | adminBulkModerate {ids : List Uuid} {action : Moderation} {reason : Option String} :
      Write U fresh user s (.adminBulkModerate ids action reason)
        (s.setDb (bulkModerate user action reason s.now ids s.db).1)

/-- What a transfer of the ownership leaves: another owner, and other roles. -/
lemma transferOwnership_ok {actor : AuthUser} {name : String} {userId id : Uuid}
    {db db' : Database} (h : transferOwnership actor name userId db = .ok (db', id)) :
    ∃ c f, db.liveChannel? name = some c ∧
      (∀ cm, (f cm).channelId = cm.channelId ∧ (f cm).userId = cm.userId) ∧
      db' = { db.updateChannel c.id fun c => { c with ownerUserId := some userId } with
        channelMembers := db.channelMembers.map f } := by
  rw [transferOwnership] at h
  split at h
  · exact absurd h (by simp)
  · rename_i c hc
    split_ifs at h
    rw [Except.ok.injEq, Prod.mk.injEq] at h
    refine ⟨c, _, hc, fun cm => ?_, h.1.symm⟩
    split_ifs
    · exact ⟨rfl, rfl⟩
    · exact ⟨rfl, rfl⟩
    · exact ⟨rfl, rfl⟩

/-- What a change of a role leaves. -/
lemma changeRole_ok {channelId userId : Uuid} {old new : MembershipRole} {db db' : Database}
    {u : Unit} (h : changeRole channelId userId old new db = .ok (db', u)) :
    ∃ f, (∀ cm, (f cm).channelId = cm.channelId ∧ (f cm).userId = cm.userId) ∧
      db' = { db with channelMembers := db.channelMembers.map f } := by
  rw [changeRole] at h
  split_ifs at h
  rw [Except.ok.injEq, Prod.mk.injEq] at h
  refine ⟨_, fun cm => ?_, h.1.symm⟩
  split_ifs
  · exact ⟨rfl, rfl⟩
  · exact ⟨rfl, rfl⟩

/-- An accepted link leaves at most one more member. -/
lemma useInviteLink_ok {actor : AuthUser} {link : Option InviteLinkRow} {db db' : Database}
    {now : Millis} {r : String × Bool} (h : useInviteLink actor link db now = .ok (db', r)) :
    db' = db ∨ ∃ row, db' = db.addMember row := by
  rw [useInviteLink] at h
  split at h
  · exact absurd h (by simp)
  · split_ifs at h
    · rw [Except.ok.injEq, Prod.mk.injEq] at h
      exact .inl h.1.symm
    · rw [Except.ok.injEq, Prod.mk.injEq] at h
      exact .inr ⟨_, h.1.symm⟩

/-- What each moderation of the loop keeps, the loop keeps. -/
lemma bulkModerate_induct {P : Database → Prop} {actor : AuthUser} {action : Moderation}
    {reason : Option String} {now : Millis}
    (hone : ∀ db id metadata, P db →
      P ((db.updateMessage id (MessageRow.moderate now actor.id reason action)).recordAudit actor.id
        action.audit "message" id metadata now)) (ids : List Uuid) :
    ∀ db, P db → P (bulkModerate actor action reason now ids db).1 := by
  induction ids with
  | nil => exact fun db h => h
  | cons id ids ih =>
      intro db h
      rw [bulkModerate]
      split_ifs
      · exact ih _ (hone db id _ h)
      · exact ih db h

/-- The client events that call the same service as a request. -/
def ClientEvent.request? : ClientEvent → Option Request
  | .createChannel name => some (.createChannel name)
  | .createPrivateChannel name => some (.createPrivateChannel name)
  | .openDirect userId => some (.openDirect userId)
  | .inviteMember channel userId => some (.inviteMember channel userId)
  | .removeMember channel userId => some (.removeMember channel userId)
  | _ => none

/-- What `handle_client_event` writes on a socket in `channel`. -/
inductive EventWrite (U : Unicode) (fresh : Fresh) (user : AuthUser) (session : Uuid)
    (channel : String) (s : Shared) : ClientEvent → Shared → Prop
  | service {event : ClientEvent} {request : Request} {s' : Shared} :
      event.request? = some request → Write U fresh user s request s' →
      EventWrite U fresh user session channel s event s'
  | deleteChannel {raw name : String} {db' : Database} {u : Unit} :
      Permission.chatModerate ∈ user.permissions → normalizeChannelName U raw = .ok name →
      name ≠ mainChannel → deleteChannel user name s.db s.now = .ok (db', u) →
      EventWrite U fresh user session channel s (.deleteChannel raw) (s.setDb db')
  | sendMessage {raw text : String} {root : Option Uuid} {rawClientId clientId : Option String}
      {fileIds : List Uuid} {b : Backend} :
      s.toBackend.postMessage (newMessage U s fresh.message user channel text root clientId fileIds)
        session user.id = .ok b →
      EventWrite U fresh user session channel s (.sendMessage raw root rawClientId fileIds)
        (s.setBackend b)
  | editMessage {id : Uuid} {raw text : String} {b : Backend} {message : ChatMessage} :
      s.toBackend.editMessage channel id session text = .ok (b, message) →
      EventWrite U fresh user session channel s (.editMessage id raw) (s.setBackend b)
  | deleteMessage {id : Uuid} {canModerate : Bool} {b : Backend} {message : ChatMessage} :
      s.toBackend.deleteMessage channel id session canModerate = .ok (b, message) →
      EventWrite U fresh user session channel s (.deleteMessage id) (s.setBackend b)

/-! ### The services -/

section Services

variable {P : Shared → Prop} {U : Unicode} {fresh : Fresh} {user : AuthUser} {s : Shared}

lemma Stable.publish (hst : Stable P) (s : Shared) (events : List (String × ServerEvent))
    (hs : P s) : P { s with published := events } :=
  hst.quiet s _ (quiet_of_backend rfl) hs

lemma Stable.broadcast (hst : Stable P) (channel : String) (event : ServerEvent) :
    Preserves P (broadcast channel event) :=
  Preserves.update fun s hs => hst.publish s _ hs

lemma Stable.broadcastMembers (hst : Stable P) (channel : String) :
    Preserves P (broadcastMembers channel) :=
  Preserves.update fun s hs => hst.publish s _ hs

/-- An audit row is quiet. -/
lemma Stable.audit (hst : Stable P) {s : Shared} {db : Database} (actor : Uuid)
    (action targetType : String) (target : Uuid) {metadata : List (String × AuditValue)}
    (now : Millis) (hs : P (s.setDb db)) :
    P (s.setDb (db.recordAudit actor action targetType target metadata now)) :=
  hst.quiet (s.setDb db) _ ⟨rfl, rfl, rfl, rfl, rfl, le_refl _⟩ hs

lemma holds_after_createPublicChannel (hst : Stable P) (hs : P s) {raw : String}
    (hw : ∀ s', Write U fresh user s (.createChannel raw) s' → P s') :
    P (after (createPublicChannel U fresh.channel fresh.notice user raw) s) := by
  refine after_check_bind hs fun hperm => after_check_bind hs fun hban =>
    after_read_bind hs fun name hname => after_transaction_bind hs fun db' u hok => ?_
  rw [requirePermission_eq_ok] at hperm
  rw [ensureNotGloballyBanned_eq_ok] at hban
  have htail : P (s.setDb db') := by
    obtain ⟨⟨db1, id⟩, hup, hpair⟩ := map_eq_ok hok
    rw [← (Prod.mk.inj hpair).1]
    exact hst.audit _ _ _ _ _ (hw _ (.createChannel hperm hban hname hup))
  refine Preserves.bind (hst.notice _ _ _) (fun _ => Preserves.bind (hst.broadcast _ _) fun _ =>
    Preserves.pure _) _ htail

lemma holds_after_createPrivateConversation (hst : Stable P) (hs : P s) {raw : String}
    (hw : ∀ s', Write U fresh user s (.createPrivateChannel raw) s' → P s') :
    P (after (createPrivateConversation U fresh.channel fresh.notice user raw) s) := by
  refine after_check_bind hs fun hperm => after_check_bind hs fun hban =>
    after_read_bind hs fun name hname => after_transaction_bind hs fun db' u hok => ?_
  rw [requirePermission_eq_ok] at hperm
  rw [ensureNotGloballyBanned_eq_ok] at hban
  exact Preserves.bind (hst.notice _ _ _) (fun _ => Preserves.pure _) _
    (hw _ (.createPrivateChannel hperm hban hname hok))

lemma holds_after_openDirect (hs : P s) {target : Uuid}
    (hw : ∀ s', Write U fresh user s (.openDirect target) s' → P s') :
    P (after (openDirect fresh.channel user target) s) := by
  refine after_check_bind hs fun hperm => after_check_bind hs fun hban =>
    after_check_bind hs fun _ => after_check_bind hs fun _ => ?_
  rw [requirePermission_eq_ok] at hperm
  rw [ensureNotGloballyBanned_eq_ok] at hban
  rw [← after_bind_pure (transaction (insertDirect fresh.channel user target)) fun r => r]
  exact after_transaction_bind hs fun db' r hok => hw _ (.openDirect hperm hban hok)

lemma holds_after_inviteMember (hst : Stable P) (hs : P s) {channel : String} {userId : Uuid}
    (hw : ∀ s', Write U fresh user s (.inviteMember channel userId) s' → P s') :
    P (after (inviteMember fresh.notice user channel userId) s) := by
  refine after_check_bind hs fun _ => after_read_bind hs fun id hid =>
    after_transaction_bind hs fun db' target hok => ?_
  have htail := hw _ (.inviteMember hid hok)
  cases target with
  | none => exact htail
  | some target =>
      exact Preserves.bind (hst.notice _ _ _) (fun _ => Preserves.bind (hst.broadcastMembers _)
        fun _ => Preserves.pure _) _ htail

lemma holds_after_removeMember (hst : Stable P) (hs : P s) {channel : String} {userId : Uuid}
    (hw : ∀ s', Write U fresh user s (.removeMember channel userId) s' → P s') :
    P (after (removeMember fresh.notice user channel userId) s) := by
  refine after_check_bind hs fun hperm => after_read_bind hs fun id hid =>
    after_transaction_bind hs fun db' target hok => ?_
  rw [requirePermission_eq_ok] at hperm
  exact Preserves.bind (hst.notice _ _ _) (fun _ => hst.broadcastMembers _) _
    (hw _ (.removeMember hperm hid hok))

lemma holds_after_leaveChannel (hst : Stable P) (hs : P s) {channel : String}
    (hw : ∀ s', Write U fresh user s (.leaveChannel channel) s' → P s') :
    P (after (leaveChannel fresh.notice user channel) s) := by
  refine after_check_bind hs fun hperm => after_transaction_bind hs fun db' id hok => ?_
  rw [requirePermission_eq_ok] at hperm
  refine Preserves.bind (hst.notice _ _ _) (fun _ => Preserves.bind (hst.broadcastMembers _)
    fun _ => ?_) _ (hw _ (.leaveChannel hperm hok))
  intro s' hs'
  exact hst.quiet s' _ ⟨rfl, rfl, rfl, rfl, rfl, le_refl _⟩ hs'

lemma holds_after_adminCreateChannel (hst : Stable P) (hs : P s) {request : ChannelAdminRequest}
    (hw : ∀ s', Write U fresh user s (.adminCreateChannel request) s' → P s') :
    P (after (adminCreateChannel U fresh.channel fresh.notice user request) s) := by
  refine after_check_bind hs fun hperm => after_read_bind hs fun name hname =>
    after_check_bind hs fun hmain => after_check_bind hs fun _ => ?_
  rw [requirePermission_eq_ok] at hperm
  have hne : name ≠ mainChannel := by
    intro heq
    rw [if_pos heq] at hmain
    exact absurd hmain (by simp)
  refine after_transaction_bind hs fun db' id hup => ?_
  -- the second transaction of the handler cannot fail
  exact hst.notice _ _ _ _ (hst.audit _ _ _ _ _ (hw _ (.adminCreateChannel hperm hname hne hup)))

lemma holds_after_adminUpdateChannel (hs : P s) {id : Uuid} {request : ChannelAdminRequest}
    (hw : ∀ s', Write U fresh user s (.adminUpdateChannel id request) s' → P s') :
    P (after (adminUpdateChannel U user id request) s) := by
  refine after_check_bind hs fun hperm => ?_
  rw [requirePermission_eq_ok] at hperm
  rw [← after_bind_pure (transaction (updateChannelRow U user id request)) fun r => r]
  exact after_transaction_bind hs fun db' u hok => hw _ (.adminUpdateChannel hperm hok)

lemma holds_after_adminChannelState (hst : Stable P) (hs : P s) {id : Uuid}
    {action : ChannelAction}
    (hw : ∀ s', Write U fresh user s (.adminChannelState id action) s' → P s') :
    P (after (adminChannelState fresh.notice user id action) s) := by
  refine after_check_bind hs fun hperm => after_transaction_bind hs fun db' name hok => ?_
  rw [requirePermission_eq_ok] at hperm
  have htail := hw _ (.adminChannelState hperm hok)
  cases action with
  | archive => exact hst.notice _ _ _ _ htail
  | restore => exact hst.notice _ _ _ _ htail
  | delete => exact htail
  | undelete => exact htail

lemma holds_after_adminCreateBan (hs : P s) {request : BanRequest}
    (hw : ∀ s', Write U fresh user s (.adminCreateBan request) s' → P s') :
    P (after (adminCreateBan fresh.message user request) s) := by
  refine after_check_bind hs fun hperm => ?_
  rw [requirePermission_eq_ok] at hperm
  rw [← after_bind_pure (transaction (insertBan fresh.message user request)) fun r => r]
  exact after_transaction_bind hs fun db' u hok => hw _ (.adminCreateBan hperm hok)

lemma holds_after_adminRevokeBan (hs : P s) {id : Uuid}
    (hw : ∀ s', Write U fresh user s (.adminRevokeBan id) s' → P s') :
    P (after (adminRevokeBan user id) s) := by
  refine after_check_bind hs fun _ => ?_
  rw [← after_bind_pure (transaction (updateBan user id)) fun r => r]
  exact after_transaction_bind hs fun db' u hok => hw _ (.adminRevokeBan hok)

lemma holds_after_adminModerate (hst : Stable P) (hs : P s) {id : Uuid} {action : Moderation}
    {reason : Option String}
    (hw : ∀ s', Write U fresh user s (.adminModerateMessage id action reason) s' → P s') :
    P (after (adminModerate user id action reason) s) := by
  refine after_check_bind hs fun _ => after_repository_bind hs fun b message hok => ?_
  have htail := hw _ (.adminModerateMessage hok)
  cases message with
  | none => exact htail
  | some message => exact hst.broadcast _ _ _ htail

lemma holds_after_setModerator (hst : Stable P) (hs : P s) {old new : MembershipRole}
    {action channel : String} {userId : Uuid}
    (hw : ∀ id db' u, changeRole id userId old new s.db = .ok (db', u) → P (s.setDb db')) :
    P (after (setModerator old new action user channel userId) s) := by
  refine after_read_bind hs fun id _ => after_transaction_bind hs fun db' u hok => ?_
  exact hst.audit _ _ _ _ _ (hw id db' u hok)

lemma holds_after_transferChannelOwnership (hst : Stable P) (hs : P s) {channel : String}
    {userId : Uuid} (hw : ∀ s', Write U fresh user s (.transferOwnership channel userId) s' → P s') :
    P (after (transferChannelOwnership user channel userId) s) := by
  refine after_check_bind hs fun hperm => after_transaction_bind hs fun db' id hok => ?_
  rw [requirePermission_eq_ok] at hperm
  refine Preserves.bind (hst.broadcastMembers _) (fun _ s hs => ?_) _
    (hw _ (.transferOwnership hperm hok))
  exact hst.audit _ _ _ _ _ hs

lemma holds_after_acceptInviteLink (hst : Stable P) (hs : P s) {token : String}
    {link : Option InviteLinkRow}
    (hw : ∀ s', Write U fresh user s (.acceptInviteLink token link) s' → P s') :
    P (after (acceptInviteLink fresh.notice user token link) s) := by
  refine after_check_bind hs fun hperm => after_check_bind hs fun _ =>
    after_transaction_bind hs fun db' r hok => ?_
  rw [requirePermission_eq_ok] at hperm
  have htail := hw _ (.acceptInviteLink hperm hok)
  obtain ⟨name, joined⟩ := r
  cases joined with
  | true => exact Preserves.bind (hst.notice _ _ _) (fun _ => Preserves.pure _) _ htail
  | false => exact htail

lemma Stable.refreshModerated (hst : Stable P) (ids : List Uuid) :
    Preserves P (refreshModerated ids) := by
  induction ids with
  | nil => exact Preserves.pure _
  | cons id ids ih =>
      refine Preserves.bind (fun s hs => after_read_bind hs fun message _ => ?_) fun _ => ih
      cases message with
      | none => exact hs
      | some message =>
          exact Preserves.bind (hst.broadcast _ _)
            (fun _ => Preserves.update fun s hs => hst.refresh _ s hs) s hs

lemma holds_after_adminBulkModerate (hst : Stable P) (hs : P s) {ids : List Uuid}
    {action : Moderation} {reason : Option String}
    (hw : ∀ s', Write U fresh user s (.adminBulkModerate ids action reason) s' → P s') :
    P (after (adminBulkModerate user ids action reason) s) := by
  refine after_check_bind hs fun _ => after_check_bind hs fun _ =>
    after_transaction_bind hs fun db' changed hok => ?_
  have hdb : db' = (bulkModerate user action reason s.now ids s.db).1 :=
    (congrArg Prod.fst (Except.ok.inj hok)).symm
  exact hst.refreshModerated changed _ (hdb ▸ hw _ .adminBulkModerate)

/-- **A request keeps** every stable property that its write keeps. -/
theorem holds_after_request (hst : Stable P) (hs : P s) {request : Request}
    (hw : ∀ s', Write U fresh user s request s' → P s') :
    P (after (handleRequest U fresh user request) s) := by
  cases request with
  | createChannel name =>
      rw [handleRequest, after_bind_pure]
      exact holds_after_createPublicChannel hst hs hw
  | createPrivateChannel name =>
      rw [handleRequest, after_bind_pure]
      exact holds_after_createPrivateConversation hst hs hw
  | openDirect userId =>
      rw [handleRequest, after_bind_pure]
      exact holds_after_openDirect hs hw
  | inviteMember channel userId =>
      rw [handleRequest, after_bind_pure]
      exact holds_after_inviteMember hst hs hw
  | removeMember channel userId => exact holds_after_removeMember hst hs hw
  | leaveChannel channel => exact holds_after_leaveChannel hst hs hw
  | adminCreateChannel request => exact holds_after_adminCreateChannel hst hs hw
  | adminUpdateChannel id request => exact holds_after_adminUpdateChannel hs hw
  | adminChannelState id action => exact holds_after_adminChannelState hst hs hw
  | adminCreateBan request => exact holds_after_adminCreateBan hs hw
  | adminRevokeBan id => exact holds_after_adminRevokeBan hs hw
  | adminModerateMessage id action reason => exact holds_after_adminModerate hst hs hw
  | promoteModerator channel userId =>
      exact holds_after_setModerator hst hs fun _ _ _ hok => hw _ (.promoteModerator hok)
  | demoteModerator channel userId =>
      exact holds_after_setModerator hst hs fun _ _ _ hok => hw _ (.demoteModerator hok)
  | transferOwnership channel userId => exact holds_after_transferChannelOwnership hst hs hw
  | acceptInviteLink token link =>
      rw [handleRequest, after_bind_pure]
      exact holds_after_acceptInviteLink hst hs hw
  | adminBulkModerate ids action reason => exact holds_after_adminBulkModerate hst hs hw

end Services

/-! ### The arms -/

section Arms

variable {P : Shared → Prop} {U : Unicode} {fresh : Fresh} {user : AuthUser} {session : Uuid}
  {active : Bool} {channel : String} {s : Shared}

lemma holds_after_deleteChannelService (hst : Stable P) (hs : P s) {raw : String}
    (hw : ∀ s', EventWrite U fresh user session channel s (.deleteChannel raw) s' → P s') :
    P (after (deleteChannelService U user raw) s) := by
  refine after_check_bind hs fun hperm => after_read_bind hs fun name hname =>
    after_check_bind hs fun hmain => after_transaction_bind hs fun db' u hok => ?_
  rw [requirePermission_eq_ok] at hperm
  have hne : name ≠ mainChannel := by
    intro heq
    rw [if_pos heq] at hmain
    exact absurd hmain (by simp)
  exact Preserves.bind (hst.broadcast _ _) (fun _ => Preserves.pure _) _
    (hw _ (.deleteChannel hperm hname hne hok))

/-- The message is the only write, so no more than quiet changes matter. -/
lemma holds_after_sendMessage (hquiet : ∀ s s', Quiet s s' → P s → P s') (hs : P s)
    {raw : String} {root : Option Uuid} {clientId : Option String} {fileIds : List Uuid}
    (hw : ∀ s', EventWrite U fresh user session channel s
      (.sendMessage raw root clientId fileIds) s' → P s') :
    P (after (sendMessage U fresh.message user session channel raw root clientId fileIds) s) := by
  have hcount : ∀ s, P s → P (s.countRate user.id) := fun s hs =>
    hquiet s _ (quiet_of_backend rfl) hs
  have hs' := hcount s hs
  refine after_check_bind hs fun _ => ?_
  rw [enforceRateLimit, bind_assoc]
  refine after_read_bind hs' fun _ _ => after_check_bind hs' fun _ => after_check_bind hs' fun _ =>
    after_read_bind hs' fun text _ => after_check_bind hs' fun _ =>
    after_read_bind hs' fun retried _ => ?_
  cases retried with
  | some existing => exact hs'
  | none =>
      refine after_transact_bind hs' fun s1 outcome hok => ?_
      rw [insertOrFind] at hok
      split at hok
      · rename_i b hpost
        rw [Except.ok.injEq, Prod.mk.injEq] at hok
        obtain ⟨rfl, rfl⟩ := hok
        have hwrite : P (s.setBackend b) := hw _ (.sendMessage hpost)
        exact hquiet (s.setBackend b) _ (quiet_of_backend rfl) hwrite
      · split at hok
        · rw [Except.ok.injEq, Prod.mk.injEq] at hok
          obtain ⟨rfl, rfl⟩ := hok
          exact hs'
        · exact absurd hok (by simp)
        · exact absurd hok (by simp)

lemma holds_after_react (hst : Stable P) (hs : P s) {add : Bool} {messageId : Uuid}
    {raw : String} : P (after (react add user channel messageId raw) s) := by
  refine after_check_bind hs fun _ => after_check_bind hs fun _ => after_read_bind hs fun emoji _ =>
    Preserves.bind (Preserves.update fun s hs => ?_) (fun _ => Preserves.bind
      (Preserves.update fun s hs => hst.publish s _ hs) fun _ => Preserves.pure _) s hs
  cases add with
  | true =>
      refine hst.quiet s _ ?_ hs
      simp only [if_true, Database.addReaction]
      split
      · exact ⟨rfl, rfl, rfl, rfl, rfl, le_refl _⟩
      · exact ⟨rfl, rfl, rfl, rfl, rfl, le_refl _⟩
  | false =>
      refine hst.quiet s _ ?_ hs
      simp only [Bool.false_eq_true, if_false, Database.removeReaction]
      split
      · exact ⟨rfl, rfl, rfl, rfl, rfl, le_refl _⟩
      · exact ⟨rfl, rfl, rfl, rfl, rfl, le_refl _⟩

lemma holds_after_markRead (hst : Stable P) (hs : P s) {messageId : Uuid} {createdAt : U64} :
    P (after (markRead user channel messageId createdAt) s) := by
  refine after_check_bind hs fun _ => after_check_bind hs fun _ => hst.quiet s _ ?_ hs
  show Quiet s (s.setDb (s.db.markRead user.id channel messageId (asI64 createdAt) s.now))
  rw [Database.markRead]
  split
  · exact ⟨rfl, rfl, rfl, rfl, rfl, le_refl _⟩
  · split
    · exact ⟨rfl, rfl, rfl, rfl, rfl, le_refl _⟩
    · exact ⟨rfl, rfl, rfl, rfl, rfl, le_refl _⟩

lemma Stable.refreshPresence (hst : Stable P) (channel : String) (participant : Participant) :
    Preserves P (refreshPresence channel participant) :=
  Preserves.update fun s hs => hst.quiet s _ (quiet_of_backend rfl) hs

/-- **A client event keeps** every stable property that its write keeps. -/
theorem holds_after_event (hst : Stable P) (hs : P s) {event : ClientEvent}
    (hw : ∀ s', EventWrite U fresh user session channel s event s' → P s') :
    P (after (handleClientEvent U fresh user session active channel event) s) := by
  cases event with
  | listChannels => exact hs
  | createChannel name =>
      rw [handleClientEvent, after_bind_pure]
      exact holds_after_createPublicChannel hst hs fun s' hs' => hw s' (.service rfl hs')
  | createPrivateChannel name =>
      rw [handleClientEvent, after_bind_pure]
      exact holds_after_createPrivateConversation hst hs fun s' hs' => hw s' (.service rfl hs')
  | openDirect userId =>
      rw [handleClientEvent, after_bind_pure]
      exact holds_after_openDirect hs fun s' hs' => hw s' (.service rfl hs')
  | inviteMember target userId =>
      rw [handleClientEvent, after_bind_pure]
      exact holds_after_inviteMember hst hs fun s' hs' => hw s' (.service rfl hs')
  | removeMember target userId =>
      rw [handleClientEvent, after_bind_pure]
      exact holds_after_removeMember hst hs fun s' hs' => hw s' (.service rfl hs')
  | joinChannel raw =>
      exact after_read_bind hs fun name _ => after_check_bind hs fun _ => hs
  | deleteChannel raw =>
      rw [handleClientEvent, after_bind_pure]
      exact holds_after_deleteChannelService hst hs hw
  | deleteMessage id =>
      refine after_check_bind hs fun _ => after_check_bind hs fun _ =>
        after_repository_bind hs fun b message hok => ?_
      exact hst.broadcast _ _ _ (hw _ (.deleteMessage hok))
  | addReaction messageId emoji => exact holds_after_react hst hs
  | removeReaction messageId emoji => exact holds_after_react hst hs
  | typing typing =>
      exact after_check_bind hs fun _ => after_check_bind hs fun _ => hst.broadcast _ _ _ hs
  | markRead messageId createdAt => exact holds_after_markRead hst hs
  | sendMessage text root clientId fileIds => exact holds_after_sendMessage hst.quiet hs hw
  | editMessage id text =>
      refine after_check_bind hs fun _ => after_check_bind hs fun _ =>
        after_read_bind hs fun text _ => after_repository_bind hs fun b message hok => ?_
      exact hst.broadcast _ _ _ (hw _ (.editMessage hok))
  | loadHistory raw beforeCreatedAt beforeId =>
      refine after_read_bind hs fun name _ => ?_
      split
      · exact hs
      · exact after_check_bind hs fun _ =>
          Preserves.bind (hst.page _ _) (fun _ => Preserves.pure _) s hs
  | loadThread messageId beforeCreatedAt beforeId =>
      exact after_check_bind hs fun _ => after_check_bind hs fun _ => hs
  | heartbeat =>
      refine after_read_bind hs fun _ _ => after_read_bind hs fun participant _ => ?_
      exact Preserves.bind (hst.refreshPresence _ _) (fun _ => Preserves.bind (hst.broadcast _ _)
        fun _ => Preserves.pure _) s hs

lemma Stable.leavePresence (hst : Stable P) (user : AuthUser) (channel : String) :
    Preserves P (leavePresence user channel) :=
  Preserves.bind (Preserves.update fun s hs => hst.quiet s _ (quiet_of_backend rfl) hs)
    fun _ => hst.broadcast _ _

lemma Stable.enterChannel (hst : Stable P) (user : AuthUser) (channel : String) :
    Preserves P (enterChannel user channel) := by
  refine Preserves.bind (hst.page _ _) fun _ s hs => after_read_bind hs fun participant _ => ?_
  refine Preserves.bind (hst.refreshPresence _ _) (fun _ s hs => after_read_bind hs fun _ _ => ?_)
    s hs
  exact Preserves.bind (hst.broadcast _ _) (fun _ => Preserves.pure _) s hs

end Arms

/-! ### Steps of the system -/

namespace Server

variable {P : Shared → Prop} {U : Unicode} {s : Server}

/-- What the handler of a step writes. -/
inductive StepWrite (U : Unicode) (s : Server) : Act → Shared → Prop
  | request {session : Uuid} {user : AuthUser} {request : Request} {fresh : Fresh} {s' : Shared} :
      s.user? session = some user → Write U fresh user s.shared request s' →
      StepWrite U s (.request session request fresh) s'
  | client {id : ℕ} {k : Socket} {event : ClientEvent} {fresh : Fresh} {s' : Shared} :
      s.socket? id = some k → k.stage = .loop →
      EventWrite U fresh k.user k.session k.channel s.shared event s' →
      StepWrite U s (.client id event fresh) s'

lemma holds_after_close (hst : Stable P) (hs : P s.shared) (k : Socket) (channel : String) :
    P (s.close k channel).shared :=
  hst.leavePresence _ _ _ hs

lemma holds_after_hangUp (hst : Stable P) (hs : P s.shared) (k : Socket) :
    P (s.hangUp k).shared := by
  rw [hangUp]
  split
  · exact hs
  · exact hs
  · exact hs
  · exact holds_after_close hst hs k _
  · exact holds_after_close hst hs k _
  · exact holds_after_close hst hs k _

lemma holds_after_proceed (hst : Stable P) (hs : P s.shared) (k : Socket) :
    P (s.proceed k).shared := by
  rw [proceed]
  split
  · exact hs
  · exact hst.leavePresence _ _ _ hs
  · exact hs
  · exact hst.enterChannel _ _ _ hs

lemma holds_after_onClient (hst : Stable P) (hs : P s.shared) {k : Socket} {event : ClientEvent}
    {fresh : Fresh}
    (hw : ∀ s', EventWrite U fresh k.user k.session k.channel s.shared event s' → P s') :
    P (s.onClient U k event fresh).shared := by
  have hafter : P (after (handleClientEvent U fresh k.user k.session (s.hasKey k.session) k.channel
      event) s.shared) := holds_after_event hst hs hw
  rw [after] at hafter
  rw [onClient, reply]
  split
  · rename_i r shared hrun
    rw [hrun] at hafter
    dsimp only
    split
    · exact hafter
    · exact hafter
  · rename_i e shared hrun
    rw [hrun] at hafter
    dsimp only
    split
    · exact holds_after_close hst hafter k _
    · exact hafter

lemma holds_after_updateAccount (hst : Stable P) (hs : P s.shared) (userId : Uuid)
    (username : String) : P (after (updateAccount U userId username) s.shared) := by
  refine after_check_bind hs fun _ => after_transaction_bind hs fun db' u hok => ?_
  rw [updateUsername] at hok
  split at hok
  · exact absurd hok (by simp)
  · split at hok
    · exact absurd hok (by simp)
    · rw [Except.ok.injEq, Prod.mk.injEq] at hok
      obtain ⟨rfl, -⟩ := hok
      exact hst.quiet s.shared _ ⟨rfl, rfl, rfl, rfl, rfl, le_refl _⟩ hs

lemma holds_after_saveName (hst : Stable P) (hs : P s.shared) (n : ℕ) (r : Renaming) :
    P (s.saveName U n r).shared := by
  have hafter : P (after (updateAccount U r.user.id r.username) s.shared) :=
    holds_after_updateAccount hst hs r.user.id r.username
  rw [after] at hafter
  rw [saveName]
  split
  · rename_i name shared hrun
    rw [hrun] at hafter
    exact hafter
  · rename_i e shared hrun
    rw [hrun] at hafter
    exact hafter

/-- **A step keeps** every stable property of the shared state that its write keeps. -/
theorem holds_after_step (hst : Stable P) (hs : P s.shared) (a : Act)
    (hw : ∀ s', StepWrite U s a s' → P s') : P (s.step U a).shared := by
  cases a with
  | login session user =>
      rw [step]
      split
      · exact hs
      · exact hs
  | logout session =>
      rw [step]
      split
      · exact hs
      · exact hs
  | updateAccount session username =>
      rw [step]
      split
      · exact hs
      · exact hs
  | saveUsername n =>
      rw [step]
      split
      · exact hs
      · split
        · exact hs
        · exact holds_after_saveName hst hs n _
  | writeSession n =>
      rw [step]
      split
      · exact hs
      · split
        · exact hs
        · rw [writeUser]
          split
          · exact hs
          · exact hs
  | listSessions session =>
      rw [step]
      split
      · exact hs
      · exact hs
  | revokeSession session target =>
      rw [step]
      split
      · exact hs
      · split
        · exact hs
        · exact hs
  | changePassword session =>
      rw [step]
      split
      · exact hs
      · exact hst.quiet s.shared _ ⟨rfl, rfl, rfl, rfl, rfl, le_refl _⟩ hs
  | deleteAccount session =>
      rw [step]
      split
      · exact hs
      · exact hst.quiet s.shared _ ⟨rfl, rfl, rfl, rfl, rfl, le_refl _⟩ hs
  | authInvalidate userId => exact hs
  | expireSession session => exact hs
  | request session request fresh =>
      rw [step]
      split
      · exact hs
      · rename_i user huser
        exact holds_after_request hst hs fun s' hs' => hw s' (.request huser hs')
  | connect id replica session =>
      rw [step]
      split
      · exact hs
      · split
        · exact hs
        · exact hs
  | proceed id =>
      rw [step]
      split
      · exact hs
      · exact holds_after_proceed hst hs _
  | client id event fresh =>
      rw [step]
      split
      · exact hs
      · rename_i k hk
        split
        · rename_i hloop
          exact holds_after_onClient hst hs fun s' hs' => hw s' (.client hk hloop hs')
        · exact hs
  | receive replica =>
      rw [step, receive]
      split
      · exact hs
      · split
        · exact hs
        · exact hs
  | lose replica => exact hs
  | forward id => exact hs
  | lag id => exact hs
  | disconnect id =>
      rw [step]
      split
      · exact hs
      · exact holds_after_hangUp hst hs _
  | resetRate userId => exact hst.quiet s.shared _ (quiet_of_backend rfl) hs
  | wait millis =>
      exact hst.quiet s.shared _ ⟨rfl, rfl, rfl, rfl, rfl, le_max_left _ _⟩ hs

end Server

end Vussa
