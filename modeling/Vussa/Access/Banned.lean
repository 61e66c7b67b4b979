import Vussa.Sockets.Refusal

/-!
Globally banned users and the operations that write. The ban is asked for by each operation on its
own, by `ensure_not_globally_banned`, by the access check or by an inline query; the management of
members, of the ownership and of channels does not ask for it.

* `createInviteLink` (`api/channels.rs`), `uploadFile` (`api/media.rs`): the operations beside those
  of `Vussa.Model`;
* `ChatOp`, `ChatOp.Mutates`: the operations of a user over HTTP and the socket, and those that
  write;
* `ChatOp.Unguarded`: an operation without the check, with what it asks for instead;
* `banned_refused_iff`: **an operation of a banned user is refused, with the tables as before, iff
  it is not one of these**.
-/

namespace Vussa

open Effect

/-! ### Further operations -/

/-- `InviteLinkRequest`. -/
structure InviteLinkRequest where
  expiresAt : Option ℤ := none
  maxUses : Option ℤ := none
  deriving DecidableEq, Repr

/-- The row lookup and the checks of `create_invite_link` behind the ban. -/
def inviteLinkRow (actor : AuthUser) (name : String) (request : InviteLinkRequest) (db : Database)
    (now : Millis) : Except AppError InviteLinkRow :=
  match db.liveChannel? name with
  | none => .error RepositoryError.notFound.toApp
  | some c => do
      ensureChannelAccess db now name actor.id
      if c.kind = .priv ∧ c.ownerUserId ≠ some actor.id ∧
          Permission.chatModerate ∉ actor.permissions then
        .error (.forbidden "only the channel owner can create invite links")
      else if ¬ (0 ≤ request.maxUses.getD 0 ∧ request.maxUses.getD 0 ≤ 100000) then
        .error (.badRequest "max_uses must be between 0 and 100000")
      else if ∃ e ∈ request.expiresAt, e ≤ ((now : ℕ) : ℤ) then
        .error (.badRequest "invite link expiry must be in the future")
      else .ok { channelId := c.id, expiresAt := request.expiresAt,
                 maxUses := request.maxUses.getD 0, uses := 0 }

/-- `create_invite_link`: the row it inserts into `channel_invite_links`. -/
def createInviteLink (actor : AuthUser) (name : String) (request : InviteLinkRequest) :
    App InviteLinkRow := do
  check fun _ _ => requirePermission actor .chatWrite
  check fun db now => ensureNotGloballyBanned db now actor.id
  read fun s => inviteLinkRow actor name request s.db s.now

/-- The insert of `upload_file`. -/
def insertFile (id uploader : Uuid) (db : Database) : Except AppError (Database × Uuid) :=
  if ∃ f ∈ db.files, f.id = id then .error RepositoryError.database.toApp
  else .ok ({ db with files := db.files ++ [{ id := id, uploaderUserId := uploader }] }, id)

/-- `upload_file`; `received` is what the rate limit, the multipart body, the scanner and the blob
store answer. -/
def uploadFile (id : Uuid) (actor : AuthUser) (received : Except AppError Unit) : App Uuid := do
  check fun _ _ => requirePermission actor .chatWrite
  check fun db now => ensureNotGloballyBanned db now actor.id
  check fun _ _ => received
  transaction fun db _ => insertFile id actor.id db

/-! ### The operations of a user -/

/-- The operations over the socket and over HTTP; where both have one, it is the event. -/
inductive ChatOp where
  | event (session : Uuid) (active : Bool) (channel : String) (e : ClientEvent)
  | leaveChannel (name : String)
  | promote (name : String) (userId : Uuid)
  | demote (name : String) (userId : Uuid)
  | transfer (name : String) (userId : Uuid)
  | createInviteLink (name : String) (request : InviteLinkRequest)
  | acceptInviteLink (token : String) (link : Option InviteLinkRow)
  | uploadFile (received : Except AppError Unit)

namespace ChatOp

/-- The program of an operation. -/
def run (U : Unicode) (fresh : Fresh) (actor : AuthUser) : ChatOp → App Unit
  | event session active channel e => do
      let _ ← handleClientEvent U fresh actor session active channel e
      return ⟨⟩
  | leaveChannel name => Vussa.leaveChannel fresh.notice actor name
  | promote name userId => promoteChannelModerator actor name userId
  | demote name userId => demoteChannelModerator actor name userId
  | transfer name userId => transferChannelOwnership actor name userId
  | createInviteLink name request => do
      let _ ← Vussa.createInviteLink actor name request
      return ⟨⟩
  | acceptInviteLink token link => do
      let _ ← Vussa.acceptInviteLink fresh.notice actor token link
      return ⟨⟩
  | uploadFile received => do
      let _ ← Vussa.uploadFile fresh.message actor received
      return ⟨⟩

/-- The operations that write channels, memberships, ownership, links, messages, reactions or
files. -/
def Mutates : ChatOp → Prop
  | event _ _ _ e =>
      match e with
      | .createChannel _ | .createPrivateChannel _ | .openDirect _ | .inviteMember _ _
      | .removeMember _ _ | .deleteChannel _ | .sendMessage _ _ _ _ | .editMessage _ _
      | .deleteMessage _ | .addReaction _ _ | .removeReaction _ _ => True
      | _ => False
  | _ => True

/-- The operations that do not ask for the ban, with what they ask for. -/
def Unguarded (U : Unicode) (db : Database) (actor : AuthUser) : ChatOp → Prop
  | event _ _ _ (.inviteMember channel userId) =>
      Permission.chatWrite ∈ actor.permissions ∧
        (ownedPrivateChannel db channel actor.id).isOk ∧ (db.activeUser? userId).isSome
  | event _ _ _ (.removeMember channel userId) =>
      Permission.chatWrite ∈ actor.permissions ∧
        ∃ id ∈ (ownedPrivateChannel db channel actor.id).toOption, ∃ cm ∈ db.channelMembers,
          cm.channelId = id ∧ cm.userId = userId ∧ cm.membershipRole ≠ .owner
  | event _ _ _ (.deleteChannel raw) =>
      Permission.chatModerate ∈ actor.permissions ∧
        ∃ name ∈ (normalizeChannelName U raw).toOption, name ≠ mainChannel ∧
          (db.liveChannel? name).isSome
  | leaveChannel name =>
      Permission.chatWrite ∈ actor.permissions ∧ ∃ c, db.liveChannel? name = some c ∧
        c.kind ≠ .pub ∧ c.ownerUserId ≠ some actor.id ∧
        ∃ cm, db.channelMembers.find? (fun cm => cm.channelId = c.id ∧ cm.userId = actor.id)
          = some cm ∧ cm.membershipRole ≠ .owner
  | promote name userId =>
      ∃ id ∈ (channelModeratorManager db name actor).toOption, ∃ cm ∈ db.channelMembers,
        cm.channelId = id ∧ cm.userId = userId ∧ cm.membershipRole = .member
  | demote name userId =>
      ∃ id ∈ (channelModeratorManager db name actor).toOption, ∃ cm ∈ db.channelMembers,
        cm.channelId = id ∧ cm.userId = userId ∧ cm.membershipRole = .moderator
  | transfer name userId =>
      Permission.chatWrite ∈ actor.permissions ∧ ∃ c, db.liveChannel? name = some c ∧
        c.ownerUserId = some actor.id ∧ userId ≠ actor.id ∧ Member db c.id userId
  | _ => False

end ChatOp

/-! ### What a global ban closes -/

section Ban

variable {db : Database} {now : Millis} {user : Uuid}

lemma GloballyBanned.banned (h : GloballyBanned db now user) (channelId : Uuid) :
    Banned db now user channelId := by
  obtain ⟨b, hb, huser, hglobal, hactive⟩ := h
  exact ⟨b, hb, huser, hactive, .inl hglobal⟩

lemma GloballyBanned.not_access (h : GloballyBanned db now user) (name : String) :
    ¬ ChannelAccess db now name user := by
  rintro ⟨c, -, -, -, -, hfree⟩
  exact hfree (h.banned c.id)

end Ban

/-! ### The operations without the check -/

section Services

variable {U : Unicode} {s : Shared} {actor : AuthUser}

lemma not_refuses_recorded {db : Database} (f : Database → Millis → Database) :
    ¬ Refuses db (transaction fun db now => .ok (f db now, PUnit.unit)) s := by
  rintro ⟨e, s', hrun, -⟩
  cases hrun

lemma isOk_insertMember {channelId userId : Uuid} {db : Database} {now : Millis} :
    (insertMember channelId actor userId db now).isOk ↔ (db.activeUser? userId).isSome := by
  rw [insertMember]
  cases db.activeUser? userId with
  | none => simp [Except.isOk, Except.toBool]
  | some target =>
      by_cases hmember : Member db channelId userId
      · simp [hmember, Except.isOk, Except.toBool]
      · simp [hmember, Except.isOk, Except.toBool]

lemma isOk_deleteMember {channelId userId : Uuid} {db : Database} {now : Millis} :
    (deleteMember channelId actor userId db now).isOk ↔ ∃ cm ∈ db.channelMembers,
      cm.channelId = channelId ∧ cm.userId = userId ∧ cm.membershipRole ≠ .owner := by
  rw [deleteMember]
  split
  next h => exact ⟨fun _ => h, fun _ => rfl⟩
  next h =>
    exact iff_of_false (by simp [Except.isOk, Except.toBool]) h

lemma isOk_deleteChannel {name : String} {db : Database} {now : Millis} :
    (deleteChannel actor name db now).isOk ↔ (db.liveChannel? name).isSome := by
  rw [deleteChannel]
  cases db.liveChannel? name with
  | none => simp [Except.isOk, Except.toBool]
  | some c => simp [Except.isOk, Except.toBool]

lemma refuses_setModerator {old new : MembershipRole} {action name : String} {userId : Uuid} :
    Refuses s.db (setModerator old new action actor name userId) s ↔
      ¬ ∃ id ∈ (channelModeratorManager s.db name actor).toOption, ∃ cm ∈ s.db.channelMembers,
        cm.channelId = id ∧ cm.userId = userId ∧ cm.membershipRole = old := by
  rw [setModerator, refuses_read rfl]
  simp only [mem_toOption]
  rw [not_exists]
  refine forall_congr' fun id => ?_
  rw [not_and]
  refine forall_congr' fun _ => ?_
  rw [refuses_commit rfl fun _ _ _ => not_refuses_recorded _, changeRole]
  split
  next h => exact ⟨fun hok => absurd rfl hok, fun h' => absurd h h'⟩
  next h => exact ⟨fun _ => h, fun _ hok => by cases hok⟩

lemma refuses_transferChannelOwnership {name : String} {userId : Uuid} :
    Refuses s.db (transferChannelOwnership actor name userId) s ↔
      ¬ (Permission.chatWrite ∈ actor.permissions ∧ ∃ c, s.db.liveChannel? name = some c ∧
        c.ownerUserId = some actor.id ∧ userId ≠ actor.id ∧ Member s.db c.id userId) := by
  rw [transferChannelOwnership, refuses_check rfl, requirePermission_eq_ok, not_and]
  refine forall_congr' fun _ => ?_
  rw [refuses_commit rfl]
  · refine not_congr ?_
    rw [transferOwnership]
    cases s.db.liveChannel? name with
    | none => simp [Except.isOk, Except.toBool]
    | some c =>
        by_cases howner : c.ownerUserId = some actor.id
        · by_cases hself : userId = actor.id
          · simp [howner, hself, Except.isOk, Except.toBool]
          · by_cases hmember : Member s.db c.id userId
            · simp [howner, hself, hmember, Except.isOk, Except.toBool]
            · simp [howner, hself, hmember, Except.isOk, Except.toBool]
        · simp [howner, Except.isOk, Except.toBool]
  · intro db' channelId _
    rw [broadcastMembers, refuses_update]
    exact not_refuses_recorded _

/-- Once a row of `channel_members` is gone, no later failure is a refusal. -/
lemma not_refuses_left {α : Type} {x : App α} {db : Database} {cm : MemberRow}
    (hx : Preserves (fun s => cm ∉ s.db.channelMembers) x) (hcm : cm ∈ db.channelMembers)
    (hs : cm ∉ s.db.channelMembers) : ¬ Refuses db x s := by
  rintro ⟨e, s', hrun, rfl⟩
  have hgone := hx s hs
  rw [after, hrun] at hgone
  exact hgone hcm

lemma isOk_deleteOwnMembership {name : String} {db : Database} :
    (deleteOwnMembership actor name db).isOk ↔ ∃ c, db.liveChannel? name = some c ∧
      c.kind ≠ .pub ∧ c.ownerUserId ≠ some actor.id ∧
      ∃ cm, db.channelMembers.find? (fun cm => cm.channelId = c.id ∧ cm.userId = actor.id)
        = some cm ∧ cm.membershipRole ≠ .owner := by
  have hjoin : (deleteOwnMembership actor name db).isOk ↔ ∃ c cm,
      ((db.liveChannel? name).bind fun c => (db.channelMembers.find? fun cm =>
        cm.channelId = c.id ∧ cm.userId = actor.id).map fun cm => (c, cm)) = some (c, cm) ∧
      c.kind ≠ .pub ∧ ¬ (c.ownerUserId = some actor.id ∨ cm.membershipRole = .owner) := by
    rw [deleteOwnMembership]
    cases ((db.liveChannel? name).bind fun c => (db.channelMembers.find? fun cm =>
        cm.channelId = c.id ∧ cm.userId = actor.id).map fun cm => (c, cm)) with
    | none => simp [Except.isOk, Except.toBool]
    | some p =>
        obtain ⟨c, cm⟩ := p
        by_cases hkind : c.kind = .pub
        · simp [hkind, Except.isOk, Except.toBool]
        · by_cases howner : c.ownerUserId = some actor.id ∨ cm.membershipRole = .owner
          · simp only [hkind, howner, if_true, if_false, Except.isOk, Except.toBool]
            simp only [Option.some.injEq, Prod.mk.injEq]
            refine ⟨fun h => absurd h (by simp), ?_⟩
            rintro ⟨c', cm', ⟨rfl, rfl⟩, -, hnot⟩
            exact absurd howner hnot
          · simp only [hkind, howner, if_false, Except.isOk, Except.toBool]
            exact ⟨fun _ => ⟨c, cm, rfl, hkind, howner⟩, fun _ => trivial⟩
  rw [hjoin]
  simp only [Option.bind_eq_some_iff, Option.map_eq_some_iff, Prod.mk.injEq, not_or]
  constructor
  · rintro ⟨c, cm, ⟨c', hc', cm', hcm', rfl, rfl⟩, hkind, howner, hrole⟩
    exact ⟨c', hc', hkind, howner, cm', hcm', hrole⟩
  · rintro ⟨c, hc, hkind, howner, cm, hcm, hrole⟩
    exact ⟨c, cm, ⟨c, hc, cm, hcm, rfl, rfl⟩, hkind, howner, hrole⟩

/-- What comes after the `DELETE` of `leave_channel` brings no membership back. -/
lemma preserves_left (cm : MemberRow) {notice channelId : Uuid} {name text : String} :
    Preserves (fun s => cm ∉ s.db.channelMembers) (publishSystemMessage notice name text >>=
      fun _ => broadcastMembers name >>= fun _ => transaction fun db now =>
        .ok (db.recordAudit actor.id "channel.member_left" "channel" channelId
          [("user_id", .id actor.id)] now, PUnit.unit)) := by
  refine .bind ?_ fun _ => .bind (.update fun _ h => h) fun _ s hs => hs
  exact preserves_publishSystemMessage notice name text (fun _ _ h => h) fun _ _ h _ _ => h

lemma refuses_leaveChannel {notice : Uuid} {name : String} :
    Refuses s.db (leaveChannel notice actor name) s ↔
      ¬ (Permission.chatWrite ∈ actor.permissions ∧ ∃ c, s.db.liveChannel? name = some c ∧
        c.kind ≠ .pub ∧ c.ownerUserId ≠ some actor.id ∧
        ∃ cm, s.db.channelMembers.find? (fun cm => cm.channelId = c.id ∧ cm.userId = actor.id)
          = some cm ∧ cm.membershipRole ≠ .owner) := by
  rw [leaveChannel, refuses_check rfl, requirePermission_eq_ok, not_and]
  refine forall_congr' fun _ => ?_
  rw [refuses_commit rfl, isOk_deleteOwnMembership]
  intro db' channelId hok
  obtain ⟨c, hc, -, -, rfl⟩ := deleteOwnMembership_ok hok
  obtain ⟨c', hc', -, -, cm, hcm, -⟩ :=
    isOk_deleteOwnMembership.mp (isOk_iff.mpr ⟨_, hok⟩)
  obtain rfl : c = c' := Option.some.inj (hc.symm.trans hc')
  have hrow : cm.channelId = c.id ∧ cm.userId = actor.id := by
    have hp := List.find?_some hcm
    exact of_decide_eq_true hp
  refine not_refuses_left (preserves_left cm) (List.mem_of_find?_eq_some hcm) ?_
  intro hkept
  exact of_decide_eq_true (List.mem_filter.mp hkept).2 ⟨hrow.1, hrow.2, rfl⟩

end Services

/-! ### The operations with the check -/

section Guarded

variable {U : Unicode} {s : Shared} {actor : AuthUser}

lemma refuses_createInviteLink (hban : GloballyBanned s.db s.now actor.id) {name : String}
    {request : InviteLinkRequest} : Refuses s.db (createInviteLink actor name request) s := by
  rw [createInviteLink, refuses_check rfl]
  intro _
  rw [refuses_check rfl, ensureNotGloballyBanned_eq_ok]
  exact fun hfree => absurd hban hfree

lemma refuses_uploadFile (hban : GloballyBanned s.db s.now actor.id) {id : Uuid}
    {received : Except AppError Unit} : Refuses s.db (uploadFile id actor received) s := by
  rw [uploadFile, refuses_check rfl]
  intro _
  rw [refuses_check rfl, ensureNotGloballyBanned_eq_ok]
  exact fun hfree => absurd hban hfree

/-- The ban is read after the row of the link. -/
lemma refuses_acceptInviteLink (hban : GloballyBanned s.db s.now actor.id) {notice : Uuid}
    {token : String} {link : Option InviteLinkRow} :
    Refuses s.db (Vussa.acceptInviteLink notice actor token link) s := by
  rw [Vussa.acceptInviteLink, refuses_check rfl]
  intro _
  rw [refuses_check rfl]
  intro _
  rw [refuses_transaction rfl]
  intro db' r hok
  rw [useInviteLink] at hok
  split at hok
  · exact absurd hok (by simp)
  · rename_i l c _
    split at hok
    · exact absurd hok (by simp)
    · rw [if_pos (hban.banned c.id)] at hok
      exact absurd hok (by simp)

end Guarded

/-- An event of a banned user is refused unless it is about members or about the deletion of a
channel. -/
lemma accepts_banned {U : Unicode} {fresh : Fresh} {s : Shared} {actor : AuthUser}
    (hban : GloballyBanned s.db s.now actor.id) {session : Uuid} {active : Bool} {channel : String}
    {e : ClientEvent} (hm : (ChatOp.event session active channel e).Mutates) :
    Accepts U fresh s actor session active channel e ↔
      (ChatOp.event session active channel e).Unguarded U s.db actor := by
  have haccess : ¬ ChannelAccess s.db s.now channel actor.id := hban.not_access channel
  cases e with
  | createChannel raw | createPrivateChannel raw => exact ⟨fun h => h.2.1 hban, False.elim⟩
  | openDirect userId => exact ⟨fun h => h.2.1 hban, False.elim⟩
  | inviteMember target userId =>
      simp only [Accepts, ChatOp.Unguarded, isOk_insertMember, mem_toOption]
      rw [isOk_iff]
      refine and_congr_right fun _ => ⟨?_, ?_⟩
      · rintro ⟨id, hid, h⟩
        exact ⟨⟨id, hid⟩, h⟩
      · rintro ⟨⟨id, hid⟩, h⟩
        exact ⟨id, hid, h⟩
  | removeMember target userId =>
      simp only [Accepts, ChatOp.Unguarded, isOk_deleteMember]
  | deleteChannel raw => simp only [Accepts, ChatOp.Unguarded, isOk_deleteChannel]
  | sendMessage text root clientId fileIds => exact ⟨fun h => haccess h.2.2.1, False.elim⟩
  | editMessage id raw => exact ⟨fun h => haccess h.2.1, False.elim⟩
  | deleteMessage id => exact ⟨fun h => haccess h.2.1, False.elim⟩
  | addReaction id emoji | removeReaction id emoji => exact ⟨fun h => haccess h.2.1, False.elim⟩
  | _ => exact absurd hm id

/-- **Banned users.** An operation that writes, by a user with an active global ban, is refused and
leaves the tables as they are, exactly when it is not the invitation or removal of a member, the
change of a moderator, a transfer of ownership, a leave or the deletion of a channel with everything
else these ask for. -/
theorem banned_refused_iff (U : Unicode) (fresh : Fresh) {s : Shared} {actor : AuthUser}
    (hban : GloballyBanned s.db s.now actor.id) (op : ChatOp) (hm : op.Mutates) :
    Refuses s.db (op.run U fresh actor) s ↔ ¬ op.Unguarded U s.db actor := by
  cases op with
  | event session active channel e =>
      rw [ChatOp.run, refuses_bind_pure, refuses_iff, accepts_banned hban hm]
  | leaveChannel name => exact refuses_leaveChannel
  | promote name userId => exact refuses_setModerator
  | demote name userId => exact refuses_setModerator
  | transfer name userId => exact refuses_transferChannelOwnership
  | createInviteLink name request =>
      rw [ChatOp.run, refuses_bind_pure]
      exact ⟨fun _ => id, fun _ => refuses_createInviteLink hban⟩
  | acceptInviteLink token link =>
      rw [ChatOp.run, refuses_bind_pure]
      exact ⟨fun _ => id, fun _ => refuses_acceptInviteLink hban⟩
  | uploadFile received =>
      rw [ChatOp.run, refuses_bind_pure]
      exact ⟨fun _ => id, fun _ => refuses_uploadFile hban⟩

/-- A private channel of a banned user, with another member. -/
def bannedOwner : Shared where
  db :=
    { users := [{ id := 1, username := "ada" }, { id := 2, username := "bob" }]
      channels := [{ id := 3, name := "club", createdAt := 1, kind := .priv,
                     ownerUserId := some 1 }]
      channelMembers := [{ channelId := 3, userId := 1, membershipRole := .owner, createdAt := 1 },
        { channelId := 3, userId := 2, createdAt := 1 }]
      userBans := [{ id := 4, userId := 1, reason := "spam", createdAt := 2 }] }
  now := 10

/-- The banned owner. -/
def bannedUser : AuthUser :=
  { id := 1, email := "a@x", username := "ada", roles := [], permissions := [.chatWrite] }

/-- A link to the channel is refused. -/
theorem banned_refused_link :
    GloballyBanned bannedOwner.db bannedOwner.now bannedUser.id ∧
      Refuses bannedOwner.db
        (ChatOp.run .ascii ⟨8, 22, 23⟩ bannedUser (.createInviteLink "club" {}))
        bannedOwner :=
  have hban : GloballyBanned bannedOwner.db bannedOwner.now bannedUser.id := by decide
  ⟨hban, (banned_refused_iff .ascii ⟨8, 22, 23⟩ hban (.createInviteLink "club" {})
    trivial).mpr id⟩

/-- The removal of a member is not. -/
theorem banned_removes_member :
    GloballyBanned bannedOwner.db bannedOwner.now bannedUser.id ∧
      ¬ Refuses bannedOwner.db (ChatOp.run .ascii ⟨8, 22, 23⟩ bannedUser
        (.event 5 true "main" (.removeMember "club" 2))) bannedOwner := by
  refine ⟨by decide, ?_⟩
  rw [ChatOp.run, refuses_bind_pure, handleClientEvent, refuses_bind_pure, refuses_removeMember,
    not_not]
  refine ⟨by decide, 3, by decide, ?_⟩
  rw [isOk_deleteMember]
  decide

end Vussa
