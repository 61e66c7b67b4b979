import Vussa.Failures.Operations

/-!
The audit rows of the operations, and those that are written in the transaction of the change.

* `IsAudit`, `SameTables`, `SameData`: an audit row; two states that differ in audit rows alone;
* `Operation.target?`, `Operation.Row`, `Operation.Audited`: what an operation is about; its audit
  row; a change has its row;
* `logged_createPublicChannel` to `logged_adminRemoveRole`: whatever fails, these operations commit
  their change with its audit row;
* `covered_adminBulkModerate`: a bulk moderation commits a row for every message it changes.
-/

namespace Vussa.Failures

open Effect Faults

/-! ### The property -/

/-- The audit row of a user for an action on a target. -/
def IsAudit (actor : Uuid) (action targetType : String) (target : Option Uuid) (r : AuditRow) :
    Prop :=
  r.actor = some actor ∧ r.action = action ∧ r.targetType = targetType ∧ target = some r.targetId

/-- The tables of the shared state are as they were, but for the audit rows. -/
def SameTables (s s' : Shared) : Prop :=
  { s'.db with auditEvents := s.db.auditEvents } = s.db

/-- All tables are as they were, but for the audit rows. -/
structure SameData (s s' : Ledger) : Prop where
  tables : SameTables s.toShared s'.toShared
  userRoles : s'.userRoles = s.userRoles
  roleVersion : s'.roleVersion = s.roleVersion
  invalidations : s'.invalidations = s.invalidations
  reports : s'.reports = s.reports

/-- The audit rows of a ledger. -/
def Ledger.audits (s : Ledger) : List AuditRow := Failures.audits s.toShared

namespace Operation

/-- The user of the session. -/
def actor : Operation → AuthUser
  | createPublic _ _ actor _ | createPrivate _ _ actor _ | openDirect _ actor _
  | invite _ actor _ _ | remove _ actor _ _ | deleteChannel actor _ | leave _ actor _
  | promote actor _ _ | demote actor _ _ | transfer actor _ _ | adminCreate _ _ actor _
  | adminUpdate actor _ _ | channelState _ actor _ _ | createBan _ actor _ | revokeBan actor _
  | moderate actor _ _ _ | bulkModerate actor _ _ _ | setDisabled actor _ _ | deleteUser actor _
  | deleteAccount actor | assignRole actor _ _ | removeRole actor _ _ | report _ actor _ _
  | updateReport actor _ _ => actor

/-- The action of the audit row. -/
def action : Operation → String
  | createPublic _ _ _ _ | adminCreate _ _ _ _ => "channel.created"
  | createPrivate _ _ _ _ => "channel.private_created"
  | openDirect _ _ _ => "channel.direct_created"
  | invite _ _ _ _ => "channel.member_added"
  | remove _ _ _ _ => "channel.member_removed"
  | deleteChannel _ _ => "channel.deleted"
  | leave _ _ _ => "channel.member_left"
  | promote _ _ _ => "channel.moderator_promoted"
  | demote _ _ _ => "channel.moderator_demoted"
  | transfer _ _ _ => "channel.ownership_transferred"
  | adminUpdate _ _ _ => "channel.updated"
  | channelState _ _ _ action => action.audit
  | createBan _ _ _ => "user.banned"
  | revokeBan _ _ => "user.ban_revoked"
  | moderate _ _ action _ | bulkModerate _ _ action _ => action.audit
  | setDisabled _ _ disabled => if disabled then "user.disabled" else "user.enabled"
  | deleteUser _ _ => "user.deleted"
  | deleteAccount _ => "user.self_deleted"
  | assignRole _ _ _ => "user.role_assigned"
  | removeRole _ _ _ => "user.role_removed"
  | report _ _ _ _ => "report.created"
  | updateReport _ _ action => action.audit

/-- The kind of what the operation is about. -/
def targetType : Operation → String
  | createBan _ _ _ | revokeBan _ _ | setDisabled _ _ _ | deleteUser _ _ | deleteAccount _
  | assignRole _ _ _ | removeRole _ _ _ => "user"
  | moderate _ _ _ _ | bulkModerate _ _ _ _ => "message"
  | report _ _ _ _ | updateReport _ _ _ => "message_report"
  | _ => "channel"

/-- The channel of a created name: an old channel of the name, or the new one. -/
def created? (U : Unicode) (db : Database) (channelId : Uuid) (rawName : String) : Option Uuid :=
  (normalizeChannelName U rawName).toOption.map fun name =>
    ((db.channels.find? fun c => c.name = name).map ChannelRow.id).getD channelId

/-- The live channel of a name. -/
def named? (U : Unicode) (db : Database) (rawName : String) : Option Uuid :=
  (normalizeChannelName U rawName).toOption.bind fun name =>
    (db.liveChannel? name).map ChannelRow.id

/-- What the operation is about: a channel, a user, a message or a report. A bulk moderation is
about several messages. -/
def target? (U : Unicode) (s : Ledger) : Operation → Option Uuid
  | createPublic channelId _ _ rawName => created? U s.db channelId rawName
  | createPrivate channelId _ _ _ | openDirect channelId _ _ => some channelId
  | invite _ actor channel _ | remove _ actor channel _ =>
      (ownedPrivateChannel s.db channel actor.id).toOption
  | deleteChannel _ rawName => named? U s.db rawName
  | leave _ actor name => (membership actor name s.db).toOption.map fun row => row.1.id
  | promote actor name _ | demote actor name _ => (channelModeratorManager s.db name actor).toOption
  | transfer _ name _ => (liveChannel name s.db).toOption.map ChannelRow.id
  | adminCreate channelId _ _ request => created? U s.db channelId (request.name.getD "")
  | adminUpdate _ id _ | channelState _ _ id _ => some id
  | createBan _ _ request => some request.userId
  | revokeBan _ banId =>
      (s.db.userBans.find? fun b => b.id = banId ∧ b.revokedAt = none).map BanRow.userId
  | moderate _ id _ _ => some id
  | bulkModerate _ _ _ _ => none
  | setDisabled _ user _ | deleteUser _ user | assignRole _ user _ | removeRole _ user _ =>
      some user
  | deleteAccount actor => some actor.id
  | report reportId actor messageId _ =>
      some (((s.reports.find? fun r => r.messageId = messageId ∧ r.reporterUserId = actor.id).map
        ReportRow.id).getD reportId)
  | updateReport _ id _ => some id

/-- An audit row of the operation for a target. -/
def Row (op : Operation) (target : Option Uuid) (r : AuditRow) : Prop :=
  IsAudit op.actor.id op.action op.targetType target r

/-- A change from one state to another has its audit row. A bulk moderation has one for each
message it changed, and `open_direct` records the creation of a conversation. -/
def Audited (U : Unicode) (op : Operation) (s s' : Ledger) : Prop :=
  match op with
  | bulkModerate .. => ∀ m ∈ s.db.messages, m ∉ s'.db.messages →
      ∃ r ∈ s'.audits.drop s.audits.length, op.Row (some m.id) r
  | openDirect .. => Logged (fun s s' => s'.db.channels = s.db.channels) Ledger.audits
      (op.Row (op.target? U s)) s s'
  | _ => Logged SameData Ledger.audits (op.Row (op.target? U s)) s s'

end Operation

/-! ### Steps and audit rows -/

section Steps

variable {fault : Plan}

lemma lift_run {α : Type} (x : App α) (s : Ledger) : (lift x).run s = match x.run s.toShared with
    | .ok a t => .ok a { s with toShared := t }
    | .error e t => .error e { s with toShared := t } := rfl

lemma after_lift {α : Type} {x : App α} {s : Ledger} :
    after (lift x) s = { s with toShared := after x s.toShared } := by
  rw [after, after, lift_run]
  cases x.run s.toShared with
  | ok a t => rfl
  | error e t => rfl

/-- A program on the shared state is judged there. -/
lemma logged_lift_iff {α : Type} {x : App α} {s : Ledger} {Q : AuditRow → Prop} :
    Logged SameData Ledger.audits Q s (after (lift x) s) ↔
      Logged SameTables audits Q s.toShared (after x s.toShared) := by
  have hsame : SameData s { s with toShared := after x s.toShared } ↔
      SameTables s.toShared (after x s.toShared) :=
    ⟨fun h => h.tables, fun h => ⟨h, rfl, rfl, rfl, rfl⟩⟩
  rw [after_lift, Logged, Logged, hsame]
  rfl

lemma keeps_ask {α : Type} (step : Step) (f : Database → Millis → Except AppError α) :
    Keeps audits (ask fault step f) :=
  (keeps_read _).attempt fault step

lemma keeps_check (f : Database → Millis → Except AppError Unit) : Keeps audits (check f) :=
  keeps_read _

lemma keeps_exec {α : Type} {f : Database → Millis → Except AppError (Database × α)}
    (h : ∀ db now db' a, f db now = .ok (db', a) → db'.auditEvents = db.auditEvents)
    (step : Step) : Keeps audits (exec fault step f) := by
  refine (keeps_transact fun s s' a hok => ?_).attempt fault step
  obtain ⟨⟨db', b⟩, hf, hs'⟩ := map_eq_ok hok
  obtain ⟨rfl, rfl⟩ := Prod.mk.inj hs'
  exact h s.db s.now db' b hf

lemma appends_recordAudit {n : ℕ} {actor : Uuid} {action targetType : String} {targetId : Uuid}
    {metadata : List (String × AuditValue)} {target : Option Uuid} {s : Shared}
    (h : target = some targetId) :
    Appends audits (IsAudit actor action targetType target)
      (recordAudit fault n actor action targetType targetId metadata) s := by
  intro a s' hrun
  obtain ⟨-, db', hdb, rfl⟩ := (transacts_exec _ _ s a s').mp hrun
  obtain ⟨rfl, -⟩ := Prod.mk.inj (Except.ok.inj hdb)
  exact ⟨_, ⟨rfl, rfl, rfl, h⟩, rfl⟩

lemma after_ask_bind {α β : Type} {P : Shared → Prop} {s : Shared} {step : Step}
    {f : Database → Millis → Except AppError α} {g : α → App β} (hs : P s)
    (h : ∀ a, f s.db s.now = .ok a → P (after (g a) s)) : P (after (ask fault step f >>= g) s) :=
  (after_attempt_bind_iff after_read hs).mpr fun _ => after_read_bind hs h

lemma keeps_upsertChannel (step : Step) (id : Uuid) (name : String) :
    Keeps audits (exec fault step fun db now => db.upsertChannel id name now) := by
  refine keeps_exec (fun db now db' id' hok => ?_) step
  rcases Database.upsertChannel_ok hok with ⟨-, -, rfl⟩ | ⟨c, -, -, -, -, rfl⟩
  · rfl
  · rfl

lemma auditEvents_insertChannel {α : Type} {db db' : Database} {row : ChannelRow} {a b : α}
    (h : (db.insertChannel row).map (fun db => (db, a)) = .ok (db', b)) :
    db'.auditEvents = db.auditEvents := by
  obtain ⟨db1, hins, hrest⟩ := map_eq_ok h
  obtain ⟨rfl, -⟩ := Prod.mk.inj hrest
  obtain ⟨-, rfl⟩ := Database.insertChannel_ok hins
  rfl

lemma keeps_addMember (step : Step) (row : Millis → MemberRow) :
    Keeps audits (exec fault step fun db now => .ok (db.addMember (row now), ())) := by
  refine keeps_exec (fun db now db' _ hok => ?_) step
  obtain ⟨rfl, -⟩ := Prod.mk.inj (Except.ok.inj hok)
  exact db.addMember_auditEvents _

end Steps

/-! ### Audit rows in the transaction -/

section Atomic

variable {fault : Plan} {U : Unicode} {s : Shared} {actor : AuthUser}

lemma logged_self (Q : AuditRow → Prop) (s : Shared) : Logged SameTables audits Q s s :=
  logged_of_same rfl

/-- The channel that `create_channel` makes or brings back. -/
lemma created?_of_upsertChannel {db db' : Database} {channelId id : Uuid} {rawName name : String}
    {now : Millis} (hname : normalizeChannelName U rawName = .ok name)
    (h : db.upsertChannel channelId name now = .ok (db', id)) :
    Operation.created? U db channelId rawName = some id := by
  rw [Operation.created?, hname, Except.toOption, Option.map_some, Option.some.injEq]
  rw [Database.upsertChannel] at h
  split at h
  · rename_i hnone
    obtain ⟨db1, -, hpair⟩ := map_eq_ok h
    rw [hnone]
    exact congrArg Prod.snd hpair
  · rename_i c hsome
    rw [hsome]
    split at h
    · exact absurd h (by simp)
    · exact congrArg Prod.snd (Except.ok.inj h)

lemma logged_createPublicChannel {channelId notice : Uuid} {rawName : String} :
    Logged SameTables audits
      (IsAudit actor.id "channel.created" "channel" (Operation.created? U s.db channelId rawName)) s
      (after (createPublicChannel fault U channelId notice actor rawName) s) := by
  refine after_check_bind (logged_self _ s) fun _ => after_ask_bind (logged_self _ s) fun _ _ =>
    after_read_bind (logged_self _ s) fun name hname => logged_atomically_bind rfl ?_ fun _ => ?_
  · refine (keeps_upsertChannel _ _ _).bind_appends fun id s1 hrun => appends_recordAudit ?_
    obtain ⟨-, db', hok, -⟩ := (transacts_exec _ _ _ _ _).mp hrun
    exact created?_of_upsertChannel hname hok
  · exact (keeps_publishSystemMessage _ _ _).bind fun _ =>
      (keeps_broadcastControl _).bind fun _ => keeps_pure _

lemma logged_createPrivateConversation {channelId notice : Uuid} {rawName : String} :
    Logged SameTables audits
      (IsAudit actor.id "channel.private_created" "channel" (some channelId)) s
      (after (createPrivateConversation fault U channelId notice actor rawName) s) := by
  refine after_check_bind (logged_self _ s) fun _ => after_ask_bind (logged_self _ s) fun _ _ =>
    after_read_bind (logged_self _ s) fun name _ => logged_atomically_bind rfl ?_ fun _ => ?_
  · refine Keeps.bind_appends (keeps_exec (fun db now db' _ hok => ?_) _) fun _ _ _ =>
      (keeps_addMember _ _).bind_appends fun _ _ _ => appends_recordAudit rfl
    split at hok
    · exact absurd hok (by simp)
    · exact auditEvents_insertChannel hok
  · exact (keeps_publishSystemMessage _ _ _).bind fun _ => keeps_pure _

lemma logged_inviteMember {notice userId : Uuid} {channel : String} :
    Logged SameTables audits (IsAudit actor.id "channel.member_added" "channel"
      (ownedPrivateChannel s.db channel actor.id).toOption) s
      (after (inviteMember fault notice actor channel userId) s) := by
  refine after_check_bind (logged_self _ s) fun _ =>
    after_ask_bind (logged_self _ s) fun c howned =>
      after_atomically_bind (logged_self _ s) fun target s' hrun => ?_
  obtain ⟨-, db', hok, rfl⟩ := inviteTransaction_run_ok_iff.mp hrun
  rcases insertMember_ok hok with ⟨rfl, rfl⟩ | ⟨hsome, rfl⟩
  · -- the user is a member: nothing changes, whether the commit is answered or not
    rw [after_bind, run_answer]
    cases fault .commit with
    | none => exact logged_self _ s
    | some failure =>
        cases failure with
        | refused e => exact logged_self _ s
        | lost e => exact logged_self _ s
  · let row : AuditRow :=
      { actor := some actor.id, action := "channel.member_added", targetType := "channel",
        targetId := c, metadata := [("user_id", .id userId)], createdAt := s.now }
    have hrow : IsAudit actor.id "channel.member_added" "channel"
        (ownedPrivateChannel s.db channel actor.id).toOption row :=
      ⟨rfl, rfl, rfl, mem_toOption.mpr howned⟩
    refine logged_of_append hrow (Eq.trans ((keeps_answer _ _ _).bind (fun target => ?_) _) ?_)
    · cases target with
      | none => exact keeps_pure _
      | some target =>
          exact (keeps_publishSystemMessage _ _ _).bind fun _ =>
            (keeps_broadcastMembers _).bind fun _ => keeps_pure _
    · rw [audits, Shared.setDb_db, Database.recordAudit, Database.addMember_auditEvents]
      rfl

lemma logged_removeMember {notice userId : Uuid} {channel : String} :
    Logged SameTables audits (IsAudit actor.id "channel.member_removed" "channel"
      (ownedPrivateChannel s.db channel actor.id).toOption) s
      (after (removeMember fault notice actor channel userId) s) := by
  refine after_check_bind (logged_self _ s) fun _ =>
    after_ask_bind (logged_self _ s) fun c howned => logged_atomically_bind rfl ?_ fun target => ?_
  · refine Keeps.bind_appends (keeps_exec (fun db now db' _ hok => ?_) _) fun _ _ _ =>
      (keeps_ask _ _).bind_appends fun target _ _ =>
        (appends_recordAudit (mem_toOption.mpr howned)).bind_keeps fun _ => keeps_pure _
    split at hok
    · obtain ⟨rfl, -⟩ := Prod.mk.inj (Except.ok.inj hok)
      rfl
    · exact absurd hok (by simp)
  · exact (keeps_publishSystemMessage _ _ _).bind fun _ => keeps_broadcastMembers _

lemma logged_deleteChannelService {rawName : String} :
    Logged SameTables audits
      (IsAudit actor.id "channel.deleted" "channel" (Operation.named? U s.db rawName)) s
      (after (deleteChannelService fault U actor rawName) s) := by
  refine after_check_bind (logged_self _ s) fun _ =>
    after_read_bind (logged_self _ s) fun name hname => after_check_bind (logged_self _ s) fun _ =>
      logged_atomically_bind rfl ?_ fun _ => ?_
  · refine Keeps.bind_appends (keeps_exec (fun db now db' _ hok => ?_) _) fun id s1 hrun =>
      appends_recordAudit ?_
    · split at hok
      · exact absurd hok (by simp)
      · obtain ⟨rfl, -⟩ := Prod.mk.inj (Except.ok.inj hok)
        rfl
    · obtain ⟨-, db', hok, -⟩ := (transacts_exec _ _ _ _ _).mp hrun
      rw [Operation.named?, hname, Except.toOption, Option.bind_some]
      split at hok
      · exact absurd hok (by simp)
      · rename_i c hlive
        rw [hlive]
        exact congrArg some (Prod.mk.inj (Except.ok.inj hok)).2
  · exact (keeps_broadcastControl _).bind fun _ => keeps_pure _

lemma logged_adminUpdateChannel {id : Uuid} {request : ChannelAdminRequest} :
    Logged SameTables audits (IsAudit actor.id "channel.updated" "channel" (some id)) s
      (after (adminUpdateChannel fault U actor id request) s) := by
  refine after_check_bind (logged_self _ s) fun _ => logged_atomically rfl ?_
  refine (keeps_ask _ _).bind_appends fun c _ _ => (keeps_read _).bind_appends fun name _ _ =>
    (keeps_check _).bind_appends fun _ _ _ => (keeps_check _).bind_appends fun _ _ _ =>
      Keeps.bind_appends (keeps_exec (fun db now db' _ hok => ?_) _) fun _ _ _ =>
        appends_recordAudit rfl
  split at hok
  · exact absurd hok (by simp)
  · obtain ⟨rfl, -⟩ := Prod.mk.inj (Except.ok.inj hok)
    rfl

lemma logged_adminChannelState {notice id : Uuid} {action : ChannelAction} :
    Logged SameTables audits (IsAudit actor.id action.audit "channel" (some id)) s
      (after (adminChannelState fault notice actor id action) s) := by
  refine after_check_bind (logged_self _ s) fun _ => logged_atomically_bind rfl ?_ fun name => ?_
  · refine (keeps_ask _ _).bind_appends fun c _ _ => (keeps_check _).bind_appends fun _ _ _ =>
      Keeps.bind_appends (keeps_exec (fun db now db' _ hok => ?_) _) fun _ _ _ =>
        (appends_recordAudit rfl).bind_keeps fun _ => keeps_pure _
    obtain ⟨rfl, -⟩ := Prod.mk.inj (Except.ok.inj hok)
    rfl
  · cases action with
    | archive => exact keeps_publishSystemMessage _ _ _
    | restore => exact keeps_publishSystemMessage _ _ _
    | delete => exact keeps_pure _
    | undelete => exact keeps_pure _

lemma logged_adminRevokeBan {banId : Uuid} :
    Logged SameTables audits (IsAudit actor.id "user.ban_revoked" "user"
      ((s.db.userBans.find? fun b => b.id = banId ∧ b.revokedAt = none).map BanRow.userId)) s
      (after (adminRevokeBan fault actor banId) s) := by
  refine after_check_bind (logged_self _ s) fun _ => logged_atomically rfl ?_
  refine Keeps.bind_appends (keeps_exec (fun db now db' _ hok => ?_) _) fun userId s1 hrun =>
    appends_recordAudit ?_
  · split at hok
    · exact absurd hok (by simp)
    · obtain ⟨rfl, -⟩ := Prod.mk.inj (Except.ok.inj hok)
      rfl
  · obtain ⟨-, db', hok, -⟩ := (transacts_exec _ _ _ _ _).mp hrun
    split at hok
    · exact absurd hok (by simp)
    · rename_i b hban
      rw [hban]
      exact congrArg some (Prod.mk.inj (Except.ok.inj hok)).2

/-- The refreshed message is published and leaves the cache; no table is written. -/
lemma refreshModerated_db (n : ℕ) (id : Uuid) :
    Keeps (fun s : Shared => s.db) (refreshModerated fault n id) := by
  refine Keeps.swallow (Keeps.attempt ((keeps_read _).bind fun message => ?_) _ _)
  cases message with
  | none => exact keeps_pure _
  | some m => exact Keeps.bind (fun _ => rfl) fun _ => fun _ => rfl

lemma refreshAll_db (n : ℕ) (ids : List Uuid) :
    Keeps (fun s : Shared => s.db) (refreshAll fault n ids) := by
  induction ids generalizing n with
  | nil => exact keeps_pure _
  | cons id ids ih => exact (refreshModerated_db n id).bind fun _ => ih (n + 1)

lemma logged_adminModerate {id : Uuid} {action : Moderation} {reason : Option String} :
    Logged SameTables audits (IsAudit actor.id action.audit "message" (some id)) s
      (after (adminModerate fault actor id action reason) s) := by
  refine after_check_bind (logged_self _ s) fun _ => logged_atomically_bind rfl ?_ fun _ =>
    fun s' => congrArg Database.auditEvents (refreshModerated_db 0 id s')
  refine (keeps_ask _ _).bind_appends fun _ _ _ =>
    Keeps.bind_appends (keeps_exec (fun db now db' _ hok => ?_) _) fun _ _ _ =>
      appends_recordAudit rfl
  obtain ⟨rfl, -⟩ := Prod.mk.inj (Except.ok.inj hok)
  rfl

/-- The channels of the state. -/
def channels (s : Shared) : List ChannelRow := s.db.channels

lemma keeps_channels_addMember (step : Step) (row : Millis → MemberRow) :
    Keeps channels (exec fault step fun db now => .ok (db.addMember (row now), ())) := by
  refine (keeps_transact fun s s' a hok => ?_).attempt fault step
  obtain ⟨r, hf, hs'⟩ := map_eq_ok hok
  obtain rfl := Except.ok.inj hf
  obtain ⟨rfl, -⟩ := Prod.mk.inj hs'
  exact s.db.addMember_channels _

/-- The creation of a conversation is recorded; one that exists stays as it is. -/
lemma logged_openDirect {channelId target : Uuid} :
    Logged (fun s s' => s'.db.channels = s.db.channels) audits
      (IsAudit actor.id "channel.direct_created" "channel" (some channelId)) s
      (after (openDirect fault channelId actor target) s) := by
  have hs : Logged (fun s s' : Shared => s'.db.channels = s.db.channels) audits
      (IsAudit actor.id "channel.direct_created" "channel" (some channelId)) s s :=
    logged_of_same rfl
  refine after_check_bind hs fun _ => after_ask_bind hs fun _ _ => after_check_bind hs fun _ =>
    after_ask_bind hs fun _ _ => ?_
  rw [← bind_pure (inTransaction _ _)]
  refine after_atomically_bind hs fun r s' hrun => ?_
  have hend : after (answer fault .commit r >>= fun r => (pure r : App (Uuid × String))) s' =
      s' := by
    rw [bind_pure]
    exact keeps_answer (f := id) fault .commit r s'
  rw [hend]
  rw [directTransaction] at hrun
  obtain ⟨created, s1, hfirst, hrun⟩ := bind_run_ok hrun
  obtain ⟨-, db1, hdb1, rfl⟩ := (transacts_exec _ _ _ _ _).mp hfirst
  by_cases hfound : (s.db.directChannel? (directKey actor.id target)).isSome
  · rw [if_pos hfound] at hdb1
    obtain ⟨rfl, rfl⟩ := Prod.mk.inj (Except.ok.inj hdb1)
    have hkeep : ∀ x : App (Uuid × String), x.run (s.setDb s.db) = .ok r s' →
        Keeps channels x → s'.db.channels = s.db.channels := fun x hx hk => hk.run_ok hx
    refine logged_of_same (hkeep _ hrun ?_)
    exact ((keeps_read _).attempt _ _).bind fun c => (keeps_channels_addMember _ _).bind fun _ =>
      (keeps_channels_addMember _ _).bind fun _ => (keeps_pure _).bind fun _ => keeps_pure _
  · rw [if_neg hfound] at hdb1
    obtain ⟨db2, -, hpair⟩ := map_eq_ok hdb1
    obtain ⟨rfl, rfl⟩ := Prod.mk.inj hpair
    have hlog : ∀ x : App (Uuid × String), x.run (s.setDb db2) = .ok r s' →
        Appends audits (IsAudit actor.id "channel.direct_created" "channel" (some channelId)) x
          (s.setDb db2) →
        Logged (fun s s' : Shared => s'.db.channels = s.db.channels) audits
          (IsAudit actor.id "channel.direct_created" "channel" (some channelId)) s s' := by
      intro x hx happ
      obtain ⟨row, hrow, hrows⟩ := happ r s' hx
      exact logged_of_append hrow
        (hrows.trans (congrArg (· ++ [row]) (auditEvents_insertChannel hdb1)))
    refine hlog _ hrun ?_
    refine (keeps_pure _).bind_appends fun c s1 hc => (keeps_addMember _ _).bind_appends
      fun _ _ _ => (keeps_addMember _ _).bind_appends fun _ _ _ =>
        (appends_recordAudit ?_).bind_keeps fun _ => keeps_pure _
    obtain ⟨rfl, -⟩ := EStateM.Result.ok.inj hc
    rfl

/-- The rows that were added cover the messages that were changed. -/
def Covered (actor : Uuid) (action : String) (s s' : Shared) : Prop :=
  ∃ rows, audits s' = audits s ++ rows ∧ ∀ m ∈ s.db.messages, m ∉ s'.db.messages →
    ∃ r ∈ rows, IsAudit actor action "message" (some m.id) r

lemma Covered.refl (actor : Uuid) (action : String) (s : Shared) : Covered actor action s s :=
  ⟨[], (List.append_nil _).symm, fun _ hm hne => absurd hm hne⟩

lemma Covered.trans {actor : Uuid} {action : String} {s s1 s' : Shared}
    (h : Covered actor action s s1) (h' : Covered actor action s1 s') :
    Covered actor action s s' := by
  obtain ⟨rows, hrows, hcover⟩ := h
  obtain ⟨rows', hrows', hcover'⟩ := h'
  refine ⟨rows ++ rows', by rw [hrows', hrows, List.append_assoc], fun m hm hne => ?_⟩
  by_cases hm1 : m ∈ s1.db.messages
  · obtain ⟨r, hr, hrow⟩ := hcover' m hm1 hne
    exact ⟨r, List.mem_append_right _ hr, hrow⟩
  · obtain ⟨r, hr, hrow⟩ := hcover m hm hm1
    exact ⟨r, List.mem_append_left _ hr, hrow⟩

/-- An updated message is the one of the identifier. -/
lemma id_of_updateMessage {db : Database} {id : Uuid} {f : MessageRow → MessageRow}
    {m : MessageRow} (hm : m ∈ db.messages) (hne : m ∉ (db.updateMessage id f).messages) :
    m.id = id := by
  by_contra hid
  exact hne (List.mem_map.mpr ⟨m, hm, if_neg hid⟩)

/-- The loop of a bulk moderation, by induction on the identifiers. -/
lemma covered_bulkTransaction {action : Moderation} {reason : Option String} {n : ℕ}
    {ids changed : List Uuid} {s s' : Shared}
    (h : (bulkTransaction fault actor action reason n ids).run s = .ok changed s') :
    Covered actor.id action.audit s s' := by
  induction ids generalizing n s changed with
  | nil =>
      rw [bulkTransaction, run_pure, EStateM.Result.ok.injEq] at h
      exact h.2 ▸ Covered.refl _ _ s
  | cons id ids ih =>
      rw [bulkTransaction] at h
      obtain ⟨updated, s1, hexec, h⟩ := bind_run_ok h
      obtain ⟨-, db1, hdb1, rfl⟩ := (transacts_exec _ _ _ _ _).mp hexec
      split at hdb1
      · obtain ⟨rfl, rfl⟩ := Prod.mk.inj (Except.ok.inj hdb1)
        obtain ⟨u, s2, haudit, h⟩ := bind_run_ok h
        obtain ⟨-, db2, hdb2, rfl⟩ := (transacts_exec _ _ _ _ _).mp haudit
        obtain ⟨rfl, -⟩ := Prod.mk.inj (Except.ok.inj hdb2)
        obtain ⟨rest, s3, hrest, h⟩ := bind_run_ok h
        obtain rfl := (EStateM.Result.ok.inj h).2
        refine Covered.trans ?_ (ih hrest)
        exact ⟨_, rfl, fun m hm hne => ⟨_, List.mem_singleton_self _,
          ⟨rfl, rfl, rfl, congrArg some (id_of_updateMessage hm hne)⟩⟩⟩
      · obtain ⟨rfl, rfl⟩ := Prod.mk.inj (Except.ok.inj hdb1)
        obtain ⟨rest, s3, hrest, h⟩ := bind_run_ok h
        obtain rfl := (EStateM.Result.ok.inj h).2
        exact ih hrest

lemma covered_adminBulkModerate {ids : List Uuid} {action : Moderation}
    {reason : Option String} : Covered actor.id action.audit s
      (after (adminBulkModerate fault actor ids action reason) s) := by
  have hs := Covered.refl actor.id action.audit s
  refine after_check_bind hs fun _ => after_check_bind hs fun _ =>
    after_atomically_bind hs fun changed s' hrun => ?_
  obtain ⟨rows, hrows, hcover⟩ := covered_bulkTransaction hrun
  have hdb : (after (answer fault .commit changed >>= refreshAll fault 0) s').db = s'.db :=
    ((keeps_answer fault .commit changed).bind (refreshAll_db 0)) s'
  refine ⟨rows, (congrArg Database.auditEvents hdb).trans hrows, fun m hm hne => ?_⟩
  exact hcover m hm fun hold => hne ((congrArg Database.messages hdb).symm ▸ hold)

end Atomic

/-! ### Accounts and roles -/

section Accounts

variable {fault : Plan} {s : Ledger} {actor : AuthUser} {user : Uuid}

lemma SameData.refl (s : Ledger) : SameData s s := ⟨rfl, rfl, rfl, rfl, rfl⟩

lemma ledger_self (Q : AuditRow → Prop) (s : Ledger) : Logged SameData Ledger.audits Q s s :=
  logged_of_same (.refl s)

lemma keeps_write {f : Ledger → Except AppError Ledger}
    (h : ∀ s s', f s = .ok s' → s'.audits = s.audits) (step : Step) :
    Keeps Ledger.audits (write fault step f) := by
  refine (keeps_transact fun s s' a hok => ?_).attempt fault step
  obtain ⟨s1, hf, hs'⟩ := map_eq_ok hok
  obtain ⟨rfl, -⟩ := Prod.mk.inj hs'
  exact h s s1 hf

lemma keeps_queueAuthInvalidation (step : Step) (user : Uuid) : Keeps Ledger.audits
    (write fault step fun s => .ok (s.queueAuthInvalidation user)) := by
  refine keeps_write (fun s s' hok => ?_) step
  obtain rfl := Except.ok.inj hok
  rfl

lemma keeps_updateUser (step : Step) (user : Uuid) (f : UserRow → UserRow) : Keeps Ledger.audits
    (write fault step fun s => .ok (s.updateUser user f)) := by
  refine keeps_write (fun s s' hok => ?_) step
  obtain rfl := Except.ok.inj hok
  rfl

lemma appends_lift {α : Type} {x : App α} {Q : AuditRow → Prop}
    (h : Appends audits Q x s.toShared) : Appends Ledger.audits Q (lift x) s := by
  intro a s' hrun
  rw [lift_run] at hrun
  cases hx : x.run s.toShared with
  | error e t =>
      rw [hx] at hrun
      exact absurd hrun (by simp)
  | ok b t =>
      rw [hx] at hrun
      obtain ⟨rfl, rfl⟩ := EStateM.Result.ok.inj hrun
      exact h b t hx

/-- A check on the shared state. -/
lemma after_lift_check_bind {β : Type} {P : Ledger → Prop}
    {f : Database → Millis → Except AppError Unit} {g : Unit → Request β} (hs : P s)
    (h : P (after (g ()) s)) : P (after (lift (check f) >>= g) s) := by
  rw [after_bind, lift_run, check, run_read]
  cases f s.db s.now with
  | ok u => exact h
  | error e => exact hs

lemma logged_adminSetDisabled {disabled : Bool} :
    Logged SameData Ledger.audits
      (IsAudit actor.id (if disabled then "user.disabled" else "user.enabled") "user" (some user)) s
      (after (adminSetDisabled fault actor user disabled) s) := by
  refine after_lift_check_bind (ledger_self _ s) (logged_atomically (.refl s) ?_)
  refine Keeps.bind_appends (keeps_write (fun s s' hok => ?_) _) fun _ _ _ =>
    (appends_lift (appends_recordAudit rfl)).bind_keeps fun _ =>
      keeps_queueAuthInvalidation _ _
  split at hok
  · exact Except.ok.inj hok ▸ rfl
  · exact absurd hok (by simp)

lemma logged_adminDeleteUser :
    Logged SameData Ledger.audits (IsAudit actor.id "user.deleted" "user" (some user)) s
      (after (adminDeleteUser fault actor user) s) := by
  refine after_lift_check_bind (ledger_self _ s) (after_lift_check_bind (ledger_self _ s)
    (logged_atomically (.refl s) ?_))
  refine Keeps.bind_appends (keeps_write (fun s s' hok => ?_) _) fun _ _ _ =>
    (appends_lift (appends_recordAudit rfl)).bind_keeps fun _ =>
      keeps_queueAuthInvalidation _ _
  split at hok
  · exact Except.ok.inj hok ▸ rfl
  · exact absurd hok (by simp)

lemma logged_deleteAccount :
    Logged SameData Ledger.audits (IsAudit actor.id "user.self_deleted" "user" (some actor.id)) s
      (after (deleteAccount fault actor) s) := by
  refine logged_atomically_bind (.refl s) ?_ fun _ => (keeps_pure _).attempt _ _
  refine Keeps.bind_appends (keeps_write (fun s s' hok => ?_) _) fun _ _ _ =>
    appends_lift (appends_recordAudit rfl)
  obtain rfl := Except.ok.inj hok
  split
  · rfl
  · rfl

lemma logged_adminAssignRole {role : String} :
    Logged SameData Ledger.audits (IsAudit actor.id "user.role_assigned" "user" (some user)) s
      (after (adminAssignRole fault actor user role) s) := by
  refine after_lift_check_bind (ledger_self _ s) (logged_atomically (.refl s) ?_)
  refine Keeps.bind_appends (keeps_write (fun s s' hok => ?_) _) fun _ _ _ =>
    (keeps_updateUser _ _ _).bind_appends fun _ _ _ =>
      (appends_lift (appends_recordAudit rfl)).bind_keeps fun _ =>
        keeps_queueAuthInvalidation _ _
  split at hok
  · split at hok
    · exact Except.ok.inj hok ▸ rfl
    · exact absurd hok (by simp)
  · exact absurd hok (by simp)

lemma logged_adminRemoveRole {role : String} :
    Logged SameData Ledger.audits (IsAudit actor.id "user.role_removed" "user" (some user)) s
      (after (adminRemoveRole fault actor user role) s) := by
  have hcount : Keeps Ledger.audits (countAdmins fault role) := by
    rw [countAdmins]
    split
    · exact (keeps_read _).attempt _ _
    · exact keeps_pure _
  refine after_lift_check_bind (ledger_self _ s) (logged_atomically (.refl s) ?_)
  refine hcount.bind_appends fun _ _ _ => Keeps.bind_appends (keeps_write (fun s s' hok => ?_) _)
    fun _ _ _ => (keeps_updateUser _ _ _).bind_appends fun _ _ _ =>
      (appends_lift (appends_recordAudit rfl)).bind_keeps fun _ =>
        keeps_queueAuthInvalidation _ _
  split at hok
  · exact Except.ok.inj hok ▸ rfl
  · exact absurd hok (by simp)

end Accounts

end Vussa.Failures
