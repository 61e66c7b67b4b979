import Vussa.Lib.ReadCommitted
import Vussa.Access.Banned

/-!
The operations on channels and their members at the granularity of SQL statements (`services.rs`,
`api/members.rs`, `api/channels.rs`, `admin_channel_state`), under read committed.

A check outside a transaction is a statement of its own. A write locks its row and its entries in
the unique indexes; `FOR UPDATE` locks the rows it selects. The shared lock of a reference to a
channel or a user is left out, so the model waits less than the database; audit rows and the events
published after a commit are left out too.

* `Tables`: the database with `channel_invite_links`;
* `Op`, `Stage`: the requests, and where the program of one stands;
* `Write`, `Lock`: what a statement writes, and what it locks;
* `Stage.next`, `system`: the programs, as a system of `ReadCommitted`.
-/

namespace Vussa.Members

open ReadCommitted

/-! ### Tables -/

/-- A row of `channel_invite_links`. -/
structure LinkRow extends InviteLinkRow where
  tokenHash : String
  createdBy : Uuid
  deriving DecidableEq, Repr

/-- The tables with the invite links. -/
structure Tables extends Database where
  inviteLinks : List LinkRow := []
  deriving DecidableEq, Repr

/-- A live direct channel of a pair. -/
def IsDirect (key : Uuid × Uuid) (c : ChannelRow) : Prop :=
  c.kind = .direct ∧ c.directKey = some key ∧ c.deletedAt = none

instance (key : Uuid × Uuid) (c : ChannelRow) : Decidable (IsDirect key c) :=
  inferInstanceAs (Decidable (_ ∧ _))

/-! ### Writes -/

/-- The rows and index entries that are locked. -/
inductive Lock where
  | channel (id : Uuid)
  | name (name : String)
  | direct (key : Uuid × Uuid)
  | member (channelId userId : Uuid)
  | link (tokenHash : String)
  deriving DecidableEq, Repr

/-- What a statement writes. -/
inductive Write where
  | insertChannel (row : ChannelRow)
  /-- `deleted_at=NULL` of a channel with the direct key -/
  | undelete (id : Uuid) (key : Option (Uuid × Uuid))
  | deleteChannel (id : Uuid) (now : Millis)
  | setArchived (id : Uuid) (archivedAt : Option Millis)
  | setOwner (id userId : Uuid)
  | insertMember (row : MemberRow)
  /-- `DELETE FROM channel_members`, with `membership_role <> 'owner'` if `keepOwner` -/
  | deleteMember (channelId userId : Uuid) (keepOwner : Bool)
  | changeRole (channelId userId : Uuid) (old new : MembershipRole)
  | setRole (channelId userId : Uuid) (role : MembershipRole)
  | insertLink (row : LinkRow)
  | useLink (tokenHash : String)
  deriving DecidableEq, Repr

namespace Write

/-- The rows and index entries a write locks. -/
def locks : Write → List Lock
  | insertChannel row =>
      [.channel row.id, .name row.name] ++ (row.directKey.map Lock.direct).toList
  | undelete id key => .channel id :: (key.map Lock.direct).toList
  | deleteChannel id _ | setArchived id _ | setOwner id _ => [.channel id]
  | insertMember row => [.member row.channelId row.userId]
  | deleteMember channelId userId _ | changeRole channelId userId _ _
  | setRole channelId userId _ => [.member channelId userId]
  | insertLink row => [.link row.tokenHash]
  | useLink tokenHash => [.link tokenHash]

/-- The rows of `channel_members` with a new role. -/
def mapRole (d : Tables) (sel : MemberRow → Prop) [DecidablePred sel]
    (role : MembershipRole) : Tables :=
  { d with channelMembers := d.channelMembers.map fun cm =>
      if sel cm then { cm with membershipRole := role } else cm }

/-- The tables after a write. -/
def apply (d : Tables) : Write → Tables
  | insertChannel row => { d with channels := d.channels ++ [row] }
  | undelete id key =>
      { d with toDatabase := d.updateChannel id fun c =>
          if c.directKey = key then { c with deletedAt := none } else c }
  | deleteChannel id now =>
      { d with toDatabase := d.updateChannel id fun c =>
          { c with deletedAt := some (c.deletedAt.getD now) } }
  | setArchived id archivedAt =>
      { d with toDatabase := d.updateChannel id fun c => { c with archivedAt := archivedAt } }
  | setOwner id userId =>
      { d with toDatabase := d.updateChannel id fun c => { c with ownerUserId := some userId } }
  | insertMember row => { d with toDatabase := d.addMember row }
  | deleteMember channelId userId keepOwner =>
      { d with toDatabase := d.removeMembers channelId userId fun cm =>
          ¬ (keepOwner ∧ cm.membershipRole = .owner) }
  | changeRole channelId userId old new => mapRole d (fun cm =>
      cm.channelId = channelId ∧ cm.userId = userId ∧ cm.membershipRole = old) new
  | setRole channelId userId role =>
      mapRole d (fun cm => cm.channelId = channelId ∧ cm.userId = userId) role
  | insertLink row => { d with inviteLinks := d.inviteLinks ++ [row] }
  | useLink tokenHash =>
      { d with inviteLinks := d.inviteLinks.map fun l =>
          if l.tokenHash = tokenHash then { l with uses := l.uses + 1 } else l }

end Write

/-! ### Programs -/

/-- The requests; `id` is the identifier a request draws and `now` the instant it reads. -/
inductive Op where
  | createPublic (id : Uuid) (actor : AuthUser) (rawName : String) (now : Millis)
  | createPrivate (id : Uuid) (actor : AuthUser) (rawName : String) (now : Millis)
  | openDirect (id : Uuid) (actor : AuthUser) (target : Uuid) (now : Millis)
  | inviteMember (actor : AuthUser) (channel : String) (userId : Uuid) (now : Millis)
  | removeMember (actor : AuthUser) (channel : String) (userId : Uuid)
  | leaveChannel (actor : AuthUser) (name : String)
  | promote (actor : AuthUser) (name : String) (userId : Uuid)
  | demote (actor : AuthUser) (name : String) (userId : Uuid)
  | transfer (actor : AuthUser) (name : String) (userId : Uuid)
  | createLink (actor : AuthUser) (name : String) (request : InviteLinkRequest) (token : String)
      (now : Millis)
  | acceptLink (actor : AuthUser) (token : String) (now : Millis)
  | deleteChannel (actor : AuthUser) (rawName : String) (now : Millis)
  | channelState (actor : AuthUser) (id : Uuid) (action : ChannelAction) (now : Millis)
  deriving DecidableEq, Repr

/-- The transaction of `open_direct` behind its channel: the rows it has inserted, and the users
still to come. -/
structure Opening where
  channelId : Uuid
  name : String
  created : Bool
  actor : Uuid
  target : Uuid
  now : Millis
  rows : List MemberRow := []
  todo : List Uuid
  deriving DecidableEq, Repr

/-- `direct_key`. -/
def Opening.key (o : Opening) : Uuid × Uuid := directKey o.actor o.target

/-- The row of a new direct channel. -/
def Opening.row (o : Opening) : ChannelRow :=
  { id := o.channelId, name := o.name, kind := .direct, directKey := some o.key,
    createdAt := o.now }

/-- Where a program stands: the statement it comes to next. -/
inductive Stage where
  | request (op : Op)
  | upsert (id : Uuid) (name : String) (now : Millis)
  | insertPrivate (id : Uuid) (actor : AuthUser) (name : String) (now : Millis)
  | insertOwner (id : Uuid) (actor : AuthUser) (name : String) (now : Millis)
  | createdPrivate (id : Uuid) (actor : AuthUser) (name : String) (now : Millis)
  | findTarget (id actor target : Uuid) (now : Millis)
  | insertDirect (id actor target : Uuid) (now : Millis)
  | lookupDirect (actor target : Uuid) (now : Millis)
  | enroll (o : Opening)
  | inviteTarget (channelId actor userId : Uuid) (now : Millis)
  | inviteInsert (channelId actor userId : Uuid) (now : Millis)
  | removeRow (channelId userId : Uuid)
  | leaveRow (channelId userId : Uuid)
  | changeRole (channelId userId : Uuid) (old new : MembershipRole)
  | transferMember (channelId actor target : Uuid)
  | transferOwner (channelId actor target : Uuid)
  | transferActor (channelId actor target : Uuid)
  | transferTarget (channelId actor target : Uuid) (hit : Bool)
  | transferred (channelId actor target : Uuid) (hit hit' : Bool)
  | linkChannel (actor : AuthUser) (name : String) (request : InviteLinkRequest)
      (tokenHash : String) (now : Millis)
  | linkAccess (c : ChannelRow) (actor : AuthUser) (name : String) (request : InviteLinkRequest)
      (tokenHash : String) (now : Millis)
  | insertLink (row : LinkRow)
  | acceptBan (channelId : Uuid) (tokenHash : String) (actor : Uuid) (now : Millis)
  | acceptMember (channelId : Uuid) (tokenHash : String) (actor : Uuid) (now : Millis)
  | acceptInsert (channelId : Uuid) (tokenHash : String) (actor : Uuid) (now : Millis)
  | acceptUse (channelId : Uuid) (tokenHash : String) (actor : Uuid) (now : Millis)
  | accepted (channelId : Uuid) (tokenHash : String) (actor : Uuid) (now : Millis) (joined : Bool)
  | channelState (c : ChannelRow) (action : ChannelAction) (now : Millis)
  /-- a single write that is about to be committed -/
  | written (w : Option Write)
  deriving DecidableEq, Repr

/-- The row of the owner of a private channel. -/
def ownerRow (id : Uuid) (actor : AuthUser) (now : Millis) : MemberRow :=
  { channelId := id, userId := actor.id, membershipRole := .owner, invitedBy := some actor.id,
    createdAt := now }

/-- The row of a member who came by a link. -/
def linkMember (channelId actor : Uuid) (now : Millis) : MemberRow :=
  { channelId := channelId, userId := actor, createdAt := now }

namespace Stage

/-- An `UPDATE` of a role that found its row. -/
def roleWrite (hit : Bool) (channelId userId : Uuid) (role : MembershipRole) : List Write :=
  if hit then [.setRole channelId userId role] else []

/-- What the transaction has written. -/
def writes : Stage → List Write
  | insertOwner id actor name now => [.insertChannel (privateRow id actor name now)]
  | createdPrivate id actor name now =>
      [.insertChannel (privateRow id actor name now), .insertMember (ownerRow id actor now)]
  | enroll o => (if o.created then [.insertChannel o.row] else []) ++ o.rows.map .insertMember
  | transferActor c _ target => [.setOwner c target]
  | transferTarget c actor target hit => .setOwner c target :: roleWrite hit c actor .moderator
  | transferred c actor target hit hit' =>
      .setOwner c target :: (roleWrite hit c actor .moderator ++ roleWrite hit' c target .owner)
  | acceptUse c _ actor now => [.insertMember (linkMember c actor now)]
  | accepted c tokenHash actor now joined =>
      if joined then [.insertMember (linkMember c actor now), .useLink tokenHash] else []
  | written w => w.toList
  | _ => []

/-- The rows that `FOR UPDATE` has selected. -/
def selected : Stage → List Lock
  | acceptBan c tokenHash _ _ | acceptMember c tokenHash _ _ | acceptInsert c tokenHash _ _
  | acceptUse c tokenHash _ _ | accepted c tokenHash _ _ _ => [.channel c, .link tokenHash]
  | channelState c _ _ => [.channel c.id]
  | _ => []

/-- The locks the transaction holds. -/
def locks (p : Stage) : List Lock := p.selected ++ p.writes.flatMap Write.locks

end Stage

/-- What the environment decides: the Unicode tables and the hash of a token. -/
structure Env where
  unicode : Unicode
  hash : String → String

/-- A token of sixty-four digits. -/
def salonToken : String := "0123456789abcdef0123456789abcdef0123456789abcdef0123456789abcdef"

/-- A token of sixty-four digits. -/
def linkToken : String := String.ofList (List.replicate 64 'a')

/-- ASCII text, and the SHA-256 digests of the two tokens; no other is hashed with it. -/
def asciiEnv : Env where
  unicode := .ascii
  hash token :=
    if token = salonToken then "a8ae6e6ee929abea3afcfc5258c8ccd6f85273e0d4626d26c7279f3250f77c8e"
    else if token = linkToken then
      "ffe054fe7ae0cb6dc65c3af9b61d5209f439851db43d0ba5997337df154668eb"
    else ""

/-- A check: an error ends the request. -/
def ensure {α : Type} (check : Except AppError α) (f : α → Next Stage Lock) : Next Stage Lock :=
  match check with
  | .ok a => f a
  | .error _ => .fail

/-- A condition that ends the request if it does not hold. -/
def require (p : Prop) [Decidable p] (x : Next Stage Lock) : Next Stage Lock :=
  if p then x else .fail

/-- The statement after `request`: the checks on the arguments, and the first query. -/
def Op.next (E : Env) (v : Tables) : Op → Next Stage Lock
  | createPublic id actor rawName now =>
      ensure (requirePermission actor .chatWrite) fun _ =>
      ensure (ensureNotGloballyBanned v.toDatabase now actor.id) fun _ =>
      ensure (normalizeChannelName E.unicode rawName) fun name => .goto [] (.upsert id name now)
  | createPrivate id actor rawName now =>
      ensure (requirePermission actor .chatWrite) fun _ =>
      ensure (ensureNotGloballyBanned v.toDatabase now actor.id) fun _ =>
      ensure (normalizeChannelName E.unicode rawName) fun name =>
        .goto [] (.insertPrivate id actor name now)
  | openDirect id actor target now =>
      ensure (requirePermission actor .chatWrite) fun _ =>
      ensure (ensureNotGloballyBanned v.toDatabase now actor.id) fun _ =>
      require (target ≠ actor.id) (.goto [] (.findTarget id actor.id target now))
  | inviteMember actor channel userId now =>
      ensure (requirePermission actor .chatWrite) fun _ =>
      ensure (ownedPrivateChannel v.toDatabase channel actor.id) fun c =>
        .goto [] (.inviteTarget c actor.id userId now)
  | removeMember actor channel userId =>
      ensure (requirePermission actor .chatWrite) fun _ =>
      ensure (ownedPrivateChannel v.toDatabase channel actor.id) fun c =>
        .goto [] (.removeRow c userId)
  | leaveChannel actor name =>
      ensure (requirePermission actor .chatWrite) fun _ =>
      match (v.liveChannel? name).bind fun c =>
          (v.channelMembers.find? fun cm => cm.channelId = c.id ∧ cm.userId = actor.id).map
            fun cm => (c, cm) with
      | none => .fail
      | some (c, cm) =>
          require (c.kind ≠ .pub) <|
          require (¬ (c.ownerUserId = some actor.id ∨ cm.membershipRole = .owner)) <|
            .goto [] (.leaveRow c.id actor.id)
  | promote actor name userId =>
      ensure (channelModeratorManager v.toDatabase name actor) fun c =>
        .goto [] (.changeRole c userId .member .moderator)
  | demote actor name userId =>
      ensure (channelModeratorManager v.toDatabase name actor) fun c =>
        .goto [] (.changeRole c userId .moderator .member)
  | transfer actor name userId =>
      ensure (requirePermission actor .chatWrite) fun _ =>
      match v.liveChannel? name with
      | none => .fail
      | some c =>
          require (c.ownerUserId = some actor.id) <|
          require (userId ≠ actor.id) <| .goto [] (.transferMember c.id actor.id userId)
  | createLink actor name request token now =>
      ensure (requirePermission actor .chatWrite) fun _ =>
      ensure (ensureNotGloballyBanned v.toDatabase now actor.id) fun _ =>
        .goto [] (.linkChannel actor name request (E.hash token) now)
  | acceptLink actor token now =>
      ensure (requirePermission actor .chatWrite) fun _ =>
      require (token.utf8ByteSize = 64 ∧ token.toList.all fun c =>
        c.isDigit ∨ ('a' ≤ c ∧ c ≤ 'f') ∨ ('A' ≤ c ∧ c ≤ 'F')) <|
      match (v.inviteLinks.find? fun l => l.tokenHash = E.hash token).bind fun l =>
          (v.channels.find? fun c => c.id = l.channelId ∧ c.deletedAt = none).map
            fun c => (l, c) with
      | none => .fail
      | some (l, c) =>
          -- "invite link is expired or exhausted"
          require (¬ ((∃ e ∈ l.expiresAt, e ≤ ((now : ℕ) : ℤ)) ∨
            (0 < l.maxUses ∧ l.maxUses ≤ l.uses))) <|
            .goto [] (.acceptBan c.id (E.hash token) actor.id now)
  | deleteChannel actor rawName now =>
      ensure (requirePermission actor .chatModerate) fun _ =>
      ensure (normalizeChannelName E.unicode rawName) fun name =>
      require (name ≠ mainChannel) <|
      match v.liveChannel? name with
      | none => .fail
      | some c => .goto [] (.written (some (.deleteChannel c.id now)))
  | channelState actor id action now =>
      ensure (requirePermission actor .channelsWrite) fun _ =>
      match v.channels.find? fun c => c.id = id with
      | none => .fail
      | some c => require (c.name ≠ mainChannel) (.goto [] (.channelState c action now))

/-- `channel_members` has the row. -/
def Tables.HasRow (v : Tables) (channelId userId : Uuid) (p : MemberRow → Prop) : Prop :=
  ∃ cm ∈ v.channelMembers, cm.channelId = channelId ∧ cm.userId = userId ∧ p cm

instance (v : Tables) (c u : Uuid) (p : MemberRow → Prop) [DecidablePred p] :
    Decidable (v.HasRow c u p) :=
  inferInstanceAs (Decidable (∃ cm ∈ v.channelMembers, _))

/-- The unique index on the direct keys of live channels lets a channel come back. -/
def Tables.Restorable (v : Tables) (c : ChannelRow) : Prop :=
  c.kind = .direct → c.directKey ≠ none → ∀ c' ∈ v.channels,
    c'.kind = .direct ∧ c'.directKey = c.directKey ∧ c'.deletedAt = none → c'.id = c.id

instance (v : Tables) (c : ChannelRow) : Decidable (v.Restorable c) :=
  inferInstanceAs (Decidable (_ → _))

/-- The next statement of a program. -/
def Stage.next (E : Env) (p : Stage) (v : Tables) : Next Stage Lock :=
  match p with
  | request op => op.next E v
  | upsert id name now =>
      match v.channels.find? fun c => c.name = name with
      | none =>
          require (∀ c ∈ v.channels, c.id ≠ id) <|
            .goto [] (.written (some (.insertChannel { id := id, name := name, createdAt := now })))
      | some c =>
          -- a live channel is left as it is; a deleted one comes back unless its pair has a new one
          require (c.deletedAt ≠ none ∧ v.Restorable c) <|
            .goto [.name name] (.written (some (.undelete c.id c.directKey)))
  | insertPrivate id actor name now =>
      require (∀ c ∈ v.channels, c.id ≠ id ∧ c.name ≠ name) <|
        .goto [] (.insertOwner id actor name now)
  | insertOwner id actor name now => .goto [] (.createdPrivate id actor name now)
  | createdPrivate _ _ _ _ => .commit
  | findTarget id actor target now =>
      require (v.activeUser? target).isSome (.goto [] (.insertDirect id actor target now))
  | insertDirect id actor target now =>
      let key := directKey actor target
      match v.directChannel? key with
      | some _ => .goto [.direct key] (.lookupDirect actor target now)
      | none =>
          require (∀ c ∈ v.channels, c.id ≠ id ∧ c.name ≠ directName id) <|
            .goto [] (.enroll { channelId := id, name := directName id, created := true,
                                actor := actor, target := target, now := now,
                                todo := [key.1, key.2] })
  | lookupDirect actor target now =>
      let key := directKey actor target
      match v.directChannel? key with
      | none => .fail
      | some c => .goto [] (.enroll { channelId := c.id, name := c.name, created := false,
                                      actor := actor, target := target, now := now,
                                      todo := [key.1, key.2] })
  | enroll o =>
      match o.todo with
      | [] => .commit
      | userId :: rest =>
          .goto [.member o.channelId userId] <| .enroll <|
            if Member v.toDatabase o.channelId userId then { o with todo := rest }
            else { o with
              todo := rest
              rows := o.rows ++ [{ channelId := o.channelId, userId := userId,
                                   invitedBy := some o.actor, createdAt := o.now }] }
  | inviteTarget c actor userId now =>
      require (v.activeUser? userId).isSome (.goto [] (.inviteInsert c actor userId now))
  | inviteInsert c actor userId now =>
      .goto [.member c userId] <| .written <|
        if Member v.toDatabase c userId then none
        else some (.insertMember { channelId := c, userId := userId, invitedBy := some actor,
                                   createdAt := now })
  | removeRow c userId =>
      require (v.HasRow c userId fun cm => cm.membershipRole ≠ .owner) <|
        .goto [] (.written (some (.deleteMember c userId true)))
  | leaveRow c userId =>
      .goto [] <| .written <|
        if Member v.toDatabase c userId then some (.deleteMember c userId false) else none
  | changeRole c userId old new =>
      require (v.HasRow c userId fun cm => cm.membershipRole = old) <|
        .goto [] (.written (some (.changeRole c userId old new)))
  | transferMember c actor target =>
      require (Member v.toDatabase c target) (.goto [] (.transferOwner c actor target))
  | transferOwner c actor target => .goto [] (.transferActor c actor target)
  | transferActor c actor target =>
      .goto [] (.transferTarget c actor target (decide (Member v.toDatabase c actor)))
  | transferTarget c actor target hit =>
      .goto [] (.transferred c actor target hit (decide (Member v.toDatabase c target)))
  | transferred _ _ _ _ _ => .commit
  | linkChannel actor name req tokenHash now =>
      match v.liveChannel? name with
      | none => .fail
      | some c => .goto [] (.linkAccess c actor name req tokenHash now)
  | linkAccess c actor name req tokenHash now =>
      ensure (ensureChannelAccess v.toDatabase now name actor.id) fun _ =>
      -- "only the channel owner can create invite links"
      require (¬ (c.kind = .priv ∧ c.ownerUserId ≠ some actor.id ∧
        Permission.chatModerate ∉ actor.permissions)) <|
      require (0 ≤ req.maxUses.getD 0 ∧ req.maxUses.getD 0 ≤ 100000) <|
      require (¬ ∃ e ∈ req.expiresAt, e ≤ ((now : ℕ) : ℤ)) <|
        .goto [] (.insertLink { channelId := c.id, expiresAt := req.expiresAt,
                                maxUses := req.maxUses.getD 0, uses := 0,
                                tokenHash := tokenHash, createdBy := actor.id })
  | insertLink row =>
      require (∀ l ∈ v.inviteLinks, l.tokenHash ≠ row.tokenHash) <|
        .goto [] (.written (some (.insertLink row)))
  | acceptBan c tokenHash actor now =>
      require (¬ Banned v.toDatabase now actor c) (.goto [] (.acceptMember c tokenHash actor now))
  | acceptMember c tokenHash actor now =>
      .goto [] <|
        if Member v.toDatabase c actor then .accepted c tokenHash actor now false
        else .acceptInsert c tokenHash actor now
  | acceptInsert c tokenHash actor now =>
      -- a plain `INSERT`: a row that came in between is an error
      require (¬ Member v.toDatabase c actor) (.goto [] (.acceptUse c tokenHash actor now))
  | acceptUse c tokenHash actor now => .goto [] (.accepted c tokenHash actor now true)
  | accepted _ _ _ _ _ => .commit
  | channelState c action now =>
      match action with
      | .archive => .goto [] (.written (some (.setArchived c.id (some (c.archivedAt.getD now)))))
      | .restore => .goto [] (.written (some (.setArchived c.id none)))
      | .delete => .goto [] (.written (some (.deleteChannel c.id now)))
      | .undelete =>
          require (v.Restorable c) <| .goto [] (.written (some (.undelete c.id c.directKey)))
  | written _ => .commit

/-- The requests on channels and members. -/
def system (E : Env) : System Tables Op Stage Write Lock where
  start := .request
  next := Stage.next E
  writes := Stage.writes
  locks := Stage.locks
  apply := Write.apply

/-- A state of the tables and the requests. -/
abbrev State := ReadCommitted.State Tables Stage

end Vussa.Members
