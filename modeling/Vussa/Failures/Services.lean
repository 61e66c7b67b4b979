import Vussa.Lib.Faults
import Vussa.Model.Channels

/-!
The services on channels and members (`services.rs`) with their failures: every statement, every
commit and every command to Valkey is a step that the plan may let fail, without effect or with its
answer lost. A transaction is undone unless it is committed; a commit whose answer is lost is
carried out, and reported as an error.

`publish_system_message` and `broadcast_members` discard the errors of their broadcasts; the insert
of the system message and the control broadcast hand theirs on, after the commit.

* `Step`: the steps of a request;
* `createPublicChannel`, `createPrivateConversation`, `inviteMember`, `removeMember`,
  `deleteChannelService`: the services, and `Call`, one call of them;
* `Call.after_of_none`: without a failure they are those of `Model.Channels`;
* `Call.Commits`, `Call.Finishes`: the transaction changes the tables and is committed; the commit
  is answered, and no step behind it hands on an error;
* `Call.unchanged_on_error_iff`: **an error leaves the database as it was iff a call that commits
  its change finishes**;
* `not_unchanged_control`: a channel whose control broadcast fails.
-/

namespace Vussa.Failures

open Effect Faults

/-! ### Steps -/

/-- The steps of a request that can fail, each numbered within its kind in the order of the
source. -/
inductive Step where
  /-- `load_session` -/
  | session
  /-- a query outside the transaction -/
  | query (n : ℕ)
  | begin
  /-- a statement of the transaction, or a write on the pool -/
  | statement (n : ℕ)
  /-- the insert of an audit row -/
  | audit (n : ℕ)
  | commit
  /-- the insert of the system message -/
  | notice
  /-- the broadcast of the system message -/
  | announce
  /-- `channel_members` -/
  | members
  | announceMembers
  /-- `broadcast_control` -/
  | control
  /-- the connection of `record_audit_pool` -/
  | acquire
  /-- the session keys that `delete_account` deletes -/
  | endSessions
  /-- `refresh_moderated_message` -/
  | refresh (n : ℕ)
  deriving DecidableEq, Repr

/-- The steps that fail, and how. -/
abbrev Plan := Step → Option (Fault AppError)

namespace Plan

/-- None of the steps fails. -/
def Passes (fault : Plan) (steps : List Step) : Prop := ∀ step ∈ steps, fault step = none

instance (fault : Plan) (steps : List Step) : Decidable (fault.Passes steps) :=
  inferInstanceAs (Decidable (∀ step ∈ steps, _))

@[simp] lemma passes_singleton {fault : Plan} {step : Step} :
    fault.Passes [step] ↔ fault step = none := List.forall_mem_singleton

/-- One step fails as a request to the database. -/
def only (step : Step) : Plan := fun i =>
  if i = step then some (.refused RepositoryError.database.toApp) else none

end Plan

variable (fault : Plan)

/-- A query and the check of what it found. -/
def ask {α : Type} (step : Step) (f : Database → Millis → Except AppError α) : App α :=
  attempt fault step (read fun s => f s.db s.now)

/-- A statement that writes. -/
def exec {α : Type} (step : Step) (f : Database → Millis → Except AppError (Database × α)) :
    App α :=
  attempt fault step (transaction f)

/-- `begin`, the statements, `commit`. -/
def inTransaction {α : Type} (body : App α) : App α := atomically fault .begin .commit body

/-- `record_audit`. -/
def recordAudit (n : ℕ) (actor : Uuid) (action targetType : String) (targetId : Uuid)
    (metadata : List (String × AuditValue)) : App Unit :=
  exec fault (.audit n) fun db now =>
    .ok (db.recordAudit actor action targetType targetId metadata now, ⟨⟩)

/-! ### Transactions -/

section Transacts

variable {fault} {α β : Type}

/-- The statements of a transaction, none of `steps` failing, come to the transaction `f`. -/
def Transacts (fault : Plan) (steps : List Step) (body : App α)
    (f : Database → Millis → Except AppError (Database × α)) : Prop :=
  ∀ s a s', body.run s = .ok a s' ↔
    fault.Passes steps ∧ ∃ db', f s.db s.now = .ok (db', a) ∧ s' = s.setDb db'

lemma transacts_exec (step : Step) (f : Database → Millis → Except AppError (Database × α)) :
    Transacts fault [step] (exec fault step f) f := by
  intro s a s'
  rw [exec, attempt_run_ok_iff, Plan.Passes, List.forall_mem_singleton]
  refine and_congr_right fun _ => ⟨transaction_run_ok, ?_⟩
  rintro ⟨db', hf, rfl⟩
  rw [transaction, run_transact, hf]
  rfl

lemma transacts_ask (step : Step) (f : Database → Millis → Except AppError α) :
    Transacts fault [step] (ask fault step f)
      fun db now => (f db now).map fun a => (db, a) := by
  intro s a s'
  rw [ask, attempt_run_ok_iff, Plan.Passes, List.forall_mem_singleton, run_read]
  refine and_congr_right fun _ => ?_
  cases hf : f s.db s.now with
  | error e => simp [hf, Except.map]
  | ok b =>
      simp only [hf, Except.map, Except.ok.injEq, Prod.mk.injEq, EStateM.Result.ok.injEq]
      constructor
      · rintro ⟨rfl, rfl⟩
        exact ⟨s.db, ⟨rfl, rfl⟩, rfl⟩
      · rintro ⟨db', ⟨rfl, rfl⟩, rfl⟩
        exact ⟨rfl, rfl⟩

lemma transacts_pure (a : α) : Transacts fault [] (pure a) fun db _ => .ok (db, a) := by
  intro s b s'
  rw [run_pure, EStateM.Result.ok.injEq, Plan.Passes]
  constructor
  · rintro ⟨rfl, rfl⟩
    exact ⟨by simp, s.db, rfl, rfl⟩
  · rintro ⟨-, db', h, rfl⟩
    obtain ⟨rfl, rfl⟩ := Prod.mk.inj (Except.ok.inj h)
    exact ⟨rfl, rfl⟩

lemma Transacts.bind {steps steps' : List Step} {x : App α} {g : α → App β}
    {f : Database → Millis → Except AppError (Database × α)}
    {h : α → Database → Millis → Except AppError (Database × β)} (hx : Transacts fault steps x f)
    (hg : ∀ a, Transacts fault steps' (g a) (h a)) :
    Transacts fault (steps ++ steps') (x >>= g)
      fun db now => f db now >>= fun r => h r.2 r.1 now := by
  intro s b s'
  rw [bind_run_ok_iff, Plan.Passes, List.forall_mem_append]
  constructor
  · rintro ⟨a, s1, hrun, hrest⟩
    obtain ⟨hsteps, db1, hf, rfl⟩ := (hx s a s1).mp hrun
    obtain ⟨hsteps', db', hh, rfl⟩ := (hg a _ b s').mp hrest
    refine ⟨⟨hsteps, hsteps'⟩, db', ?_, rfl⟩
    change f s.db s.now >>= _ = _
    rw [hf]
    exact hh
  · rintro ⟨⟨hsteps, hsteps'⟩, db', hok, rfl⟩
    obtain ⟨⟨db1, a⟩, hf, hh⟩ := bind_eq_ok hok
    exact ⟨a, s.setDb db1, (hx s a _).mpr ⟨hsteps, db1, hf, rfl⟩,
      (hg a _ b _).mpr ⟨hsteps', db', hh, rfl⟩⟩

/-- The same transaction, written in another way. -/
lemma Transacts.congr {steps : List Step} {body : App α}
    {f f' : Database → Millis → Except AppError (Database × α)} (h : Transacts fault steps body f)
    (hf : ∀ db now, f db now = f' db now) : Transacts fault steps body f' := by
  intro s a s'
  rw [← hf]
  exact h s a s'

end Transacts

/-! ### What follows a commit -/

/-- `publish_system_message`. -/
def publishSystemMessage (notice : Uuid) (channel text : String) : App Unit := do
  let message ← attempt fault .notice
    (repository fun b => b.publishSystemMessage notice channel text)
  match message with
  | some message => swallow (attempt fault .announce (broadcast channel (.message message)))
  | none => pure ⟨⟩

/-- `broadcast_members`. -/
def broadcastMembers (channel : String) : App Unit :=
  swallow do
    let members ← ask fault .members fun db _ => .ok (channelMembers db channel)
    attempt fault .announceMembers (broadcast channel (.members channel members))

/-- `broadcast_control`. -/
def broadcastControl (event : ServerEvent) : App Unit :=
  attempt fault .control (Vussa.broadcastControl event)

/-! ### Services -/

/-- The transaction of `create_public_channel`. -/
def publicTransaction (channelId : Uuid) (actor : AuthUser) (name : String) : App Unit := do
  let id ← exec fault (.statement 0) fun db now => db.upsertChannel channelId name now
  recordAudit fault 0 actor.id "channel.created" "channel" id []

/-- `create_public_channel`. -/
def createPublicChannel (U : Unicode) (channelId notice : Uuid) (actor : AuthUser)
    (rawName : String) : App String := do
  check fun _ _ => requirePermission actor .chatWrite
  ask fault (.query 0) fun db now => ensureNotGloballyBanned db now actor.id
  let name ← read fun _ => normalizeChannelName U rawName
  inTransaction fault (publicTransaction fault channelId actor name)
  publishSystemMessage fault notice name (actor.username ++ " created this channel")
  broadcastControl fault (.channelCreated name)
  return name

/-- The transaction of `create_private_conversation`. -/
def privateTransaction (channelId : Uuid) (actor : AuthUser) (name : String) : App Unit := do
  exec fault (.statement 0) fun db now =>
    if ∃ c ∈ db.channels, c.name = name then .error (.badRequest "channel already exists")
    else (db.insertChannel (privateRow channelId actor name now)).map fun db => (db, ⟨⟩)
  exec fault (.statement 1) fun db now =>
    .ok (db.addMember
      { channelId := channelId, userId := actor.id, membershipRole := .owner,
        invitedBy := some actor.id, createdAt := now }, ⟨⟩)
  recordAudit fault 0 actor.id "channel.private_created" "channel" channelId []

/-- `create_private_conversation`. -/
def createPrivateConversation (U : Unicode) (channelId notice : Uuid) (actor : AuthUser)
    (rawName : String) : App (Uuid × String) := do
  check fun _ _ => requirePermission actor .chatWrite
  ask fault (.query 0) fun db now => ensureNotGloballyBanned db now actor.id
  let name ← read fun _ => normalizeChannelName U rawName
  inTransaction fault (privateTransaction fault channelId actor name)
  publishSystemMessage fault notice name (actor.username ++ " created this private channel")
  return (channelId, name)

/-- The transaction of `invite_member`: the name of the invited user, if the user is new. -/
def inviteTransaction (channelId : Uuid) (actor : AuthUser) (userId : Uuid) :
    App (Option String) := do
  let target ← ask fault (.statement 0) fun db _ =>
    match db.activeUser? userId with
    | none => .error RepositoryError.notFound.toApp
    | some u => .ok u.username
  let inserted ← exec fault (.statement 1) fun db now =>
    .ok (db.addMember
      { channelId := channelId, userId := userId, invitedBy := some actor.id, createdAt := now },
      decide (¬ Member db channelId userId))
  -- for a member the transaction is committed as it is
  if inserted then do
    recordAudit fault 0 actor.id "channel.member_added" "channel" channelId
      [("user_id", .id userId)]
    return some target
  else return none

/-- `invite_member`. -/
def inviteMember (notice : Uuid) (actor : AuthUser) (channel : String) (userId : Uuid) :
    App Bool := do
  check fun _ _ => requirePermission actor .chatWrite
  let channelId ← ask fault (.query 0) fun db _ => ownedPrivateChannel db channel actor.id
  let target ← inTransaction fault (inviteTransaction fault channelId actor userId)
  match target with
  | none => return false
  | some target =>
      publishSystemMessage fault notice channel (actor.username ++ " invited " ++ target)
      broadcastMembers fault channel
      return true

/-- The transaction of `remove_member`: the name of the removed user. -/
def removeTransaction (channelId : Uuid) (actor : AuthUser) (userId : Uuid) : App String := do
  exec fault (.statement 0) fun db _ =>
    if ∃ cm ∈ db.channelMembers, cm.channelId = channelId ∧ cm.userId = userId ∧
        cm.membershipRole ≠ .owner then
      .ok (db.removeMembers channelId userId fun cm => cm.membershipRole ≠ .owner, ⟨⟩)
    else .error RepositoryError.notFound.toApp
  let target ← ask fault (.statement 1) fun db _ =>
    .ok (((db.users.find? fun u => u.id = userId).map UserRow.username).getD "a member")
  recordAudit fault 0 actor.id "channel.member_removed" "channel" channelId
    [("user_id", .id userId)]
  return target

/-- `remove_member`. -/
def removeMember (notice : Uuid) (actor : AuthUser) (channel : String) (userId : Uuid) :
    App Unit := do
  check fun _ _ => requirePermission actor .chatWrite
  let channelId ← ask fault (.query 0) fun db _ => ownedPrivateChannel db channel actor.id
  let target ← inTransaction fault (removeTransaction fault channelId actor userId)
  publishSystemMessage fault notice channel (actor.username ++ " removed " ++ target)
  broadcastMembers fault channel

/-- The transaction of `delete_channel_service`. -/
def deleteTransaction (actor : AuthUser) (name : String) : App Unit := do
  let id ← exec fault (.statement 0) fun db now =>
    match db.liveChannel? name with
    | none => .error RepositoryError.notFound.toApp
    | some c => .ok (db.updateChannel c.id fun c => { c with deletedAt := some now }, c.id)
  recordAudit fault 0 actor.id "channel.deleted" "channel" id []

/-- `delete_channel_service`. -/
def deleteChannelService (U : Unicode) (actor : AuthUser) (rawName : String) : App String := do
  check fun _ _ => requirePermission actor .chatModerate
  let name ← read fun _ => normalizeChannelName U rawName
  check fun _ _ =>
    if name = mainChannel then .error (.badRequest "the main channel cannot be removed")
    else .ok ⟨⟩
  inTransaction fault (deleteTransaction fault actor name)
  broadcastControl fault (.channelDeleted name)
  return name

/-- One call of a service. -/
inductive Call where
  | createPublic (channelId notice : Uuid) (actor : AuthUser) (rawName : String)
  | createPrivate (channelId notice : Uuid) (actor : AuthUser) (rawName : String)
  | invite (notice : Uuid) (actor : AuthUser) (channel : String) (userId : Uuid)
  | remove (notice : Uuid) (actor : AuthUser) (channel : String) (userId : Uuid)
  | delete (actor : AuthUser) (rawName : String)
  deriving DecidableEq, Repr

namespace Call

/-- The call, without what it returns. -/
def run (U : Unicode) : Call → App Unit
  | createPublic channelId notice actor rawName =>
      discard (createPublicChannel fault U channelId notice actor rawName)
  | createPrivate channelId notice actor rawName =>
      discard (createPrivateConversation fault U channelId notice actor rawName)
  | invite notice actor channel userId => discard (inviteMember fault notice actor channel userId)
  | remove notice actor channel userId => removeMember fault notice actor channel userId
  | delete actor rawName => discard (deleteChannelService fault U actor rawName)

/-- The program of `Model.Channels`, without what it returns. -/
def whole (U : Unicode) : Call → App Unit
  | createPublic channelId notice actor rawName =>
      discard (Vussa.createPublicChannel U channelId notice actor rawName)
  | createPrivate channelId notice actor rawName =>
      discard (Vussa.createPrivateConversation U channelId notice actor rawName)
  | invite notice actor channel userId => discard (Vussa.inviteMember notice actor channel userId)
  | remove notice actor channel userId => Vussa.removeMember notice actor channel userId
  | delete actor rawName => discard (Vussa.deleteChannelService U actor rawName)

end Call

/-! ### The transactions -/

section Transactions

variable {fault} {channelId userId : Uuid} {actor : AuthUser} {name : String}

/-- The tables after the transaction of `create_public_channel`. -/
def insertPublicChannel (channelId : Uuid) (actor : AuthUser) (name : String) (db : Database)
    (now : Millis) : Except AppError (Database × Unit) :=
  (db.upsertChannel channelId name now).map fun r =>
    (r.1.recordAudit actor.id "channel.created" "channel" r.2 [] now, ⟨⟩)

lemma transacts_public :
    Transacts fault [.statement 0, .audit 0] (publicTransaction fault channelId actor name)
      (insertPublicChannel channelId actor name) := by
  refine ((transacts_exec _ _).bind fun id => transacts_exec _ _).congr fun db now => ?_
  rw [insertPublicChannel]
  cases db.upsertChannel channelId name now with
  | error e => rfl
  | ok r => rfl

lemma transacts_private :
    Transacts fault [.statement 0, .statement 1, .audit 0]
      (privateTransaction fault channelId actor name)
      (insertPrivateChannel channelId actor name) := by
  refine ((transacts_exec _ _).bind fun _ =>
    (transacts_exec _ _).bind fun _ => transacts_exec _ _).congr fun db now => ?_
  rw [insertPrivateChannel]
  split
  · rfl
  · cases db.insertChannel (privateRow channelId actor name now) with
    | error e => rfl
    | ok db1 => rfl

lemma transacts_remove :
    Transacts fault [.statement 0, .statement 1, .audit 0]
      (removeTransaction fault channelId actor userId) (deleteMember channelId actor userId) := by
  refine ((transacts_exec _ _).bind fun _ => (transacts_ask _ _).bind fun target =>
    (transacts_exec _ _).bind fun _ => transacts_pure target).congr fun db now => ?_
  rw [deleteMember]
  split
  · rfl
  · rfl

lemma transacts_delete :
    Transacts fault [.statement 0, .audit 0] (deleteTransaction fault actor name)
      (deleteChannel actor name) := by
  refine ((transacts_exec _ _).bind fun id => transacts_exec _ _).congr fun db now => ?_
  rw [deleteChannel]
  cases db.liveChannel? name with
  | none => rfl
  | some c => rfl

/-- The audit row of an invitation is written for a new member only. -/
lemma inviteTransaction_run_ok_iff {s s' : Shared} {target : Option String} :
    (inviteTransaction fault channelId actor userId).run s = .ok target s' ↔
      (fault.Passes [.statement 0, .statement 1] ∧ (target.isSome → fault (.audit 0) = none)) ∧
        ∃ db', insertMember channelId actor userId s.db s.now = .ok (db', target) ∧
          s' = s.setDb db' := by
  rw [inviteTransaction, insertMember]
  simp only [bind_run_ok_iff, transacts_ask _ _ _ _ _, transacts_exec _ _ _ _ _]
  cases hu : s.db.activeUser? userId with
  | none => simp [Except.map]
  | some u =>
      have hsteps : fault.Passes [.statement 0, .statement 1] ↔
          fault.Passes [.statement 0] ∧ fault.Passes [.statement 1] := by
        simp [Plan.Passes]
      have hone : ∀ step, fault.Passes [step] ↔ fault step = none := fun step =>
        List.forall_mem_singleton
      have haudit : ∀ db1, (recordAudit fault 0 actor.id "channel.member_added" "channel"
            channelId [("user_id", .id userId)] >>= fun _ => pure (some u.username)).run
              (s.setDb db1) = .ok target s' ↔
          fault (.audit 0) = none ∧ some u.username = target ∧ s' = s.setDb
            (db1.recordAudit actor.id "channel.member_added" "channel" channelId
              [("user_id", .id userId)] s.now) := by
        intro db1
        rw [recordAudit, ((transacts_exec _ _).bind fun _ => transacts_pure _) _ _ _]
        refine and_congr (hone _) ⟨?_, ?_⟩
        · rintro ⟨db', hok, rfl⟩
          obtain ⟨rfl, rfl⟩ := Prod.mk.inj (Except.ok.inj hok)
          exact ⟨rfl, rfl⟩
        · rintro ⟨rfl, rfl⟩
          exact ⟨_, rfl, rfl⟩
      by_cases hm : Member s.db channelId userId
      · have hold : ¬ decide (¬ Member (s.setDb s.db).db channelId userId) = true :=
          fun h => of_decide_eq_true h hm
        have hadd : s.db.addMember
            { channelId := channelId, userId := userId, invitedBy := some actor.id,
              createdAt := s.now } = s.db := if_pos hm
        simp only [Except.map, Except.ok.injEq, Prod.mk.injEq, if_pos hm, hsteps, hone]
        constructor
        · rintro ⟨_, _, ⟨h0, _, ⟨rfl, rfl⟩, rfl⟩, _, _, ⟨h1, _, ⟨rfl, rfl⟩, rfl⟩, hrest⟩
          rw [if_neg hold, run_pure, EStateM.Result.ok.injEq] at hrest
          obtain ⟨rfl, rfl⟩ := hrest
          exact ⟨⟨⟨h0, h1⟩, by simp⟩, s.db, ⟨rfl, rfl⟩, congrArg s.setDb hadd⟩
        · rintro ⟨⟨⟨h0, h1⟩, -⟩, _, ⟨rfl, rfl⟩, rfl⟩
          refine ⟨_, _, ⟨h0, _, ⟨rfl, rfl⟩, rfl⟩, _, _, ⟨h1, _, ⟨rfl, rfl⟩, rfl⟩, ?_⟩
          rw [if_neg hold, run_pure, EStateM.Result.ok.injEq]
          exact ⟨rfl, congrArg s.setDb hadd⟩
      · have hnew : decide (¬ Member (s.setDb s.db).db channelId userId) = true :=
          decide_eq_true hm
        simp only [Except.map, Except.ok.injEq, Prod.mk.injEq, if_neg hm, hsteps, hone]
        constructor
        · rintro ⟨_, _, ⟨h0, _, ⟨rfl, rfl⟩, rfl⟩, _, _, ⟨h1, _, ⟨rfl, rfl⟩, rfl⟩, hrest⟩
          rw [if_pos hnew] at hrest
          obtain ⟨h2, rfl, rfl⟩ := (haudit _).mp hrest
          exact ⟨⟨⟨h0, h1⟩, fun _ => h2⟩, _, ⟨rfl, rfl⟩, rfl⟩
        · rintro ⟨⟨⟨h0, h1⟩, h2⟩, _, ⟨rfl, rfl⟩, rfl⟩
          refine ⟨_, _, ⟨h0, _, ⟨rfl, rfl⟩, rfl⟩, _, _, ⟨h1, _, ⟨rfl, rfl⟩, rfl⟩, ?_⟩
          rw [if_pos hnew]
          exact (haudit _).mpr ⟨h2 rfl, rfl, rfl⟩

end Transactions

/-! ### Without a failure -/

section None

variable {fault} {s : Shared}

/-- A transaction none of whose steps fails is the transaction of one step. -/
lemma after_inTransaction_bind {α β : Type} {steps : List Step} {body : App α}
    {f : Database → Millis → Except AppError (Database × α)} {g g' : α → App β}
    (h : Transacts fault steps body f) (hfault : ∀ step, fault step = none)
    (hg : ∀ a s', after (g a) s' = after (g' a) s') :
    after (inTransaction fault body >>= g) s = after (transaction f >>= g') s := by
  have hok : ∀ a s', (inTransaction fault body).run s = .ok a s' ↔
      (transaction f).run s = .ok a s' := by
    intro a s'
    rw [inTransaction, atomically_run_ok_iff, and_iff_right ⟨hfault _, hfault _⟩, h s a s']
    refine ⟨?_, fun hrun => ⟨fun step _ => hfault step, transaction_run_ok hrun⟩⟩
    rintro ⟨-, db', hf, rfl⟩
    rw [transaction, run_transact, hf]
    rfl
  rw [after_bind, after_bind]
  cases hrun : (inTransaction fault body).run s with
  | ok a s1 =>
      rw [(hok a s1).mp hrun]
      exact hg a s1
  | error e s1 =>
      obtain rfl := atomically_run_error (hfault _) hrun
      cases hrun' : (transaction f).run s1 with
      | ok a s2 => exact absurd (hrun.symm.trans ((hok a s2).mpr hrun')) (by simp)
      | error e' s2 => exact (transact_run_error hrun').symm

lemma publishSystemMessage_of_none (hfault : ∀ step, fault step = none) (notice : Uuid)
    (channel text : String) : publishSystemMessage fault notice channel text =
      Vussa.publishSystemMessage notice channel text := by
  rw [publishSystemMessage, Vussa.publishSystemMessage]
  simp only [attempt_of_none hfault]
  congr 1

lemma broadcastMembers_of_none (hfault : ∀ step, fault step = none) (channel : String) :
    broadcastMembers fault channel = Vussa.broadcastMembers channel := by
  rw [broadcastMembers, ask]
  simp only [attempt_of_none hfault]
  rfl

lemma transacts_invite_of_none (hfault : ∀ step, fault step = none) (channelId : Uuid)
    (actor : AuthUser) (userId : Uuid) :
    Transacts fault [] (inviteTransaction fault channelId actor userId)
      (insertMember channelId actor userId) := by
  intro s target s'
  rw [inviteTransaction_run_ok_iff]
  exact and_congr_left fun _ =>
    iff_of_true ⟨fun step _ => hfault step, fun _ => hfault _⟩ fun step _ => hfault step

/-- **Without a failure** the services are those of the model without failures. -/
theorem Call.after_of_none (hfault : ∀ step, fault step = none) (U : Unicode) (call : Call) :
    after (call.run fault U) s = after (call.whole U) s := by
  cases call with
  | createPublic channelId notice actor rawName =>
      rw [run, whole, after_discard, after_discard, createPublicChannel, Vussa.createPublicChannel,
        ask, attempt_of_none hfault]
      refine after_bind_congr fun _ s1 _ => after_bind_congr fun _ s2 _ =>
        after_bind_congr fun name s3 _ => ?_
      rw [publishSystemMessage_of_none hfault, broadcastControl, attempt_of_none hfault]
      exact after_inTransaction_bind transacts_public hfault fun _ _ => rfl
  | createPrivate channelId notice actor rawName =>
      rw [run, whole, after_discard, after_discard, createPrivateConversation,
        Vussa.createPrivateConversation, ask, attempt_of_none hfault]
      refine after_bind_congr fun _ s1 _ => after_bind_congr fun _ s2 _ =>
        after_bind_congr fun name s3 _ => ?_
      rw [publishSystemMessage_of_none hfault]
      exact after_inTransaction_bind transacts_private hfault fun _ _ => rfl
  | invite notice actor channel userId =>
      rw [run, whole, after_discard, after_discard, inviteMember, Vussa.inviteMember, ask,
        attempt_of_none hfault, broadcastMembers_of_none hfault]
      refine after_bind_congr fun _ s1 _ => after_bind_congr fun c s2 _ => ?_
      refine after_inTransaction_bind (transacts_invite_of_none hfault c actor userId) hfault
        fun target s3 => ?_
      cases target with
      | none => rfl
      | some target => simp only [publishSystemMessage_of_none hfault]
  | remove notice actor channel userId =>
      rw [run, whole, removeMember, Vussa.removeMember, ask, attempt_of_none hfault,
        broadcastMembers_of_none hfault]
      refine after_bind_congr fun _ s1 _ => after_bind_congr fun c s2 _ => ?_
      refine after_inTransaction_bind transacts_remove hfault fun target s3 => ?_
      rw [publishSystemMessage_of_none hfault]
  | delete actor rawName =>
      rw [run, whole, after_discard, after_discard, deleteChannelService,
        Vussa.deleteChannelService]
      refine after_bind_congr fun _ s1 _ => after_bind_congr fun name s2 _ =>
        after_bind_congr fun _ s3 _ => ?_
      rw [broadcastControl, attempt_of_none hfault]
      exact after_inTransaction_bind transacts_delete hfault fun _ _ => rfl

end None

/-! ### Errors -/

/-- The system message is inserted: the step does not fail, and the identifier is new. -/
def Notifies (s : Shared) (notice : Uuid) : Prop :=
  fault .notice = none ∧ ∀ m ∈ s.db.messages, m.id ≠ notice

instance (s : Shared) (notice : Uuid) : Decidable (Notifies fault s notice) :=
  inferInstanceAs (Decidable (_ ∧ _))

namespace Call

/-- The checks of a call pass, and its transaction changes the tables and is committed. -/
def Commits (U : Unicode) (s : Shared) : Call → Prop
  | createPublic channelId _ actor rawName =>
      fault.Passes [.query 0, .begin, .statement 0, .audit 0] ∧ Lands fault .commit ∧
      requirePermission actor .chatWrite = .ok ⟨⟩ ∧
      ensureNotGloballyBanned s.db s.now actor.id = .ok ⟨⟩ ∧
      ∃ name, normalizeChannelName U rawName = .ok name ∧
        ∃ r, insertPublicChannel channelId actor name s.db s.now = .ok r
  | createPrivate channelId _ actor rawName =>
      fault.Passes [.query 0, .begin, .statement 0, .statement 1, .audit 0] ∧ Lands fault .commit ∧
      requirePermission actor .chatWrite = .ok ⟨⟩ ∧
      ensureNotGloballyBanned s.db s.now actor.id = .ok ⟨⟩ ∧
      ∃ name, normalizeChannelName U rawName = .ok name ∧
        ∃ r, insertPrivateChannel channelId actor name s.db s.now = .ok r
  | invite _ actor channel userId =>
      fault.Passes [.query 0, .begin, .statement 0, .statement 1, .audit 0] ∧ Lands fault .commit ∧
      requirePermission actor .chatWrite = .ok ⟨⟩ ∧
      ∃ c, ownedPrivateChannel s.db channel actor.id = .ok c ∧
        ∃ db' target, insertMember c actor userId s.db s.now = .ok (db', some target)
  | remove _ actor channel userId =>
      fault.Passes [.query 0, .begin, .statement 0, .statement 1, .audit 0] ∧ Lands fault .commit ∧
      requirePermission actor .chatWrite = .ok ⟨⟩ ∧
      ∃ c, ownedPrivateChannel s.db channel actor.id = .ok c ∧
        ∃ r, deleteMember c actor userId s.db s.now = .ok r
  | delete actor rawName =>
      fault.Passes [.begin, .statement 0, .audit 0] ∧ Lands fault .commit ∧
      requirePermission actor .chatModerate = .ok ⟨⟩ ∧
      ∃ name, normalizeChannelName U rawName = .ok name ∧ name ≠ mainChannel ∧
        ∃ r, deleteChannel actor name s.db s.now = .ok r

/-- The commit is answered, and no step behind it fails whose error the call hands on. -/
def Finishes (s : Shared) : Call → Prop
  | createPublic _ notice _ _ =>
      fault .commit = none ∧ Notifies fault s notice ∧ fault .control = none
  | createPrivate _ notice _ _ | invite notice _ _ _ | remove notice _ _ _ =>
      fault .commit = none ∧ Notifies fault s notice
  | delete _ _ => fault .commit = none ∧ fault .control = none

end Call

section Errors

variable {fault} {U : Unicode} {s : Shared}

lemma succeeds_repository_iff {α : Type} {f : Backend → Except RepositoryError (Backend × α)} :
    Succeeds (repository f) s ↔ ∃ r, f s.toBackend = .ok r := by
  rw [Succeeds, repository, run_transact]
  cases hf : f s.toBackend with
  | ok r => simp
  | error e => simp

/-- The insert of a row without a client identifier. -/
lemma insertMessage_ok_iff {db : Database} {row : MessageRow} (hrow : row.clientId = none) :
    (∃ db', db.insertMessage row = .ok db') ↔ ∀ m ∈ db.messages, m.id ≠ row.id := by
  constructor
  · rintro ⟨db', hok⟩
    exact (Database.insertMessage_ok hok).1
  · intro hfresh
    refine ⟨_, if_neg ?_⟩
    rintro (⟨m, hm, hid⟩ | ⟨hclient, -⟩)
    · exact hfresh m hm hid
    · rw [hrow] at hclient
      exact absurd hclient (by simp)

/-- The insert of a system message into a live channel. -/
lemma createSystemMessage_ok_iff {db : Database} {now : Millis} {notice : Uuid}
    {channel text : String} {c : ChannelRow} (hc : db.liveChannel? channel = some c) :
    (∃ r, createSystemMessage db now notice channel text = .ok r) ↔
      ∀ m ∈ db.messages, m.id ≠ notice := by
  have hrow : (∃ db', db.insertMessage (systemRow c notice now text) = .ok db') ↔
      ∀ m ∈ db.messages, m.id ≠ notice := insertMessage_ok_iff rfl
  rw [← hrow, createSystemMessage]
  simp only [hc]
  cases db.insertMessage (systemRow c notice now text) with
  | ok db' => simp [Except.map]
  | error e => simp [Except.map]

lemma succeeds_publishSystemMessage_iff {notice : Uuid} {channel text : String} {c : ChannelRow}
    (hc : s.db.liveChannel? channel = some c) :
    Succeeds (publishSystemMessage fault notice channel text) s ↔ Notifies fault s notice := by
  have hrest : ∀ (message : Option ChatMessage) (s' : Shared), Succeeds
      (match message with
        | some message => swallow (attempt fault .announce (broadcast channel (.message message)))
        | none => pure ⟨⟩ : App Unit) s' ↔ True := by
    intro message s'
    cases message with
    | none => exact iff_true_intro succeeds_pure
    | some message => exact iff_true_intro succeeds_swallow
  rw [publishSystemMessage, succeeds_bind_iff_and hrest, and_true, succeeds_attempt_iff,
    succeeds_repository_iff, Notifies, ← createSystemMessage_ok_iff hc]
  refine and_congr_right fun _ => ?_
  rw [Backend.publishSystemMessage]
  cases createSystemMessage s.db s.now notice channel text with
  | ok r => simp [Except.map]
  | error e => simp [Except.map]

/-- The audit rows of the state. -/
def audits (s : Shared) : List AuditRow := s.db.auditEvents

lemma keeps_broadcast (channel : String) (event : ServerEvent) :
    Keeps audits (broadcast channel event) := fun _ => rfl

/-- A system message is one more message at most. -/
lemma keeps_of_messages {τ : Type} {f : Database → τ}
    (hf : ∀ db messages, f { db with messages := messages } = f db) (notice : Uuid)
    (channel text : String) :
    Keeps (fun s : Shared => f s.db) (publishSystemMessage fault notice channel text) := by
  refine ((keeps_transact fun s s' message hok => ?_).attempt fault .notice).bind fun message => ?_
  · cases hsys : s.toBackend.publishSystemMessage notice channel text with
    | error e => simp [hsys] at hok
    | ok r =>
        simp only [hsys, Except.ok.injEq, Prod.mk.injEq] at hok
        obtain ⟨db, hrow, hb⟩ := Backend.publishSystemMessage_ok hsys
        have hdb : s'.db = db := by
          rw [← hok.1]
          exact congrArg Backend.db hb
        rw [hdb]
        rcases createSystemMessage_ok hrow with ⟨-, rfl⟩ | ⟨c, -, -, rfl⟩
        · rfl
        · exact hf s.db _
  · cases message with
    | none => exact keeps_pure _
    | some m => exact Keeps.swallow (Keeps.attempt (fun _ => rfl) fault .announce)

lemma keeps_publishSystemMessage (notice : Uuid) (channel text : String) :
    Keeps audits (publishSystemMessage fault notice channel text) :=
  keeps_of_messages (fun _ _ => rfl) notice channel text

/-- Behind the commit of a transaction that wrote an audit row. -/
lemma errorKeeps_committed_iff {α β : Type} {g : α → App β} {a : α} {db db' : Database}
    (hg : ∀ a, Keeps audits (g a)) (hdb : db'.auditEvents ≠ db.auditEvents) :
    ErrorKeeps (fun s => s.db) db (answer fault .commit a >>= g) (s.setDb db') ↔
      fault .commit = none ∧ Succeeds (g a) (s.setDb db') := by
  rw [← succeeds_answer_bind_iff]
  exact errorKeeps_iff_succeeds (fun _ hs' heq => hdb (hs'.symm.trans (congrArg _ heq)))
    (((keeps_answer _ _ _).bind hg).preserves db'.auditEvents) rfl

/-- A transaction takes effect if its statements pass and its commit does. -/
lemma leadsTo_inTransaction {α : Type} {steps : List Step} {body : App α}
    {f : Database → Millis → Except AppError (Database × α)} (h : Transacts fault steps body f) :
    LeadsTo (inTransaction fault body) s
      (fun a s' => (fault.Passes (.begin :: steps) ∧ Lands fault .commit) ∧
        ∃ db', f s.db s.now = .ok (db', a) ∧ s' = s.setDb db')
      (answer fault .commit) := by
  refine leadsTo_atomically.congr fun a s' => ?_
  have hsteps : fault.Passes (.begin :: steps) ↔ fault .begin = none ∧ fault.Passes steps :=
    List.forall_mem_cons
  rw [h s a s', hsteps]
  tauto

lemma errorKeeps_inTransaction_bind_iff {α β : Type} {steps : List Step} {body : App α}
    {f : Database → Millis → Except AppError (Database × α)} {g : α → App β}
    (h : Transacts fault steps body f) :
    ErrorKeeps (fun s => s.db) s.db (inTransaction fault body >>= g) s ↔
      (fault.Passes (.begin :: steps) ∧ Lands fault .commit →
        ∀ db' a, f s.db s.now = .ok (db', a) →
          ErrorKeeps (fun s => s.db) s.db (answer fault .commit a >>= g) (s.setDb db')) := by
  rw [(leadsTo_inTransaction h).errorKeeps_bind_iff rfl]
  constructor
  · intro hall hsteps db' a hf
    exact hall a _ ⟨hsteps, db', hf, rfl⟩
  · rintro hall a s' ⟨hsteps, db', hf, rfl⟩
    exact hall hsteps db' a hf

/-- A live channel of a name is found. -/
lemma liveChannel?_of_mem {db : Database} {name : String} {c : ChannelRow} (hc : c ∈ db.channels)
    (hname : c.name = name) (hlive : c.deletedAt = none) : ∃ c', db.liveChannel? name = some c' :=
  Option.isSome_iff_exists.mp
    (List.find?_isSome.mpr ⟨c, hc, decide_eq_true ⟨hname, hlive⟩⟩)

/-- A transaction that wrote an audit row and left the messages and a live channel of the name. -/
structure Announces (db db' : Database) (name : String) : Prop where
  live : ∃ c, db'.liveChannel? name = some c
  messages : db'.messages = db.messages
  audited : db'.auditEvents ≠ db.auditEvents

lemma recordAudit_ne {db db' : Database} {actor : Uuid} {action targetType : String}
    {targetId : Uuid} {metadata : List (String × AuditValue)} {now : Millis}
    (h : db'.auditEvents = db.auditEvents) :
    (db'.recordAudit actor action targetType targetId metadata now).auditEvents ≠
      db.auditEvents := by
  rw [Database.recordAudit, h]
  simp

lemma announces_public {channelId : Uuid} {actor : AuthUser} {name : String} {db db' : Database}
    {now : Millis} {u : Unit} (h : insertPublicChannel channelId actor name db now = .ok (db', u)) :
    Announces db db' name := by
  obtain ⟨⟨db1, id⟩, hupsert, hrest⟩ := map_eq_ok h
  obtain ⟨rfl, -⟩ := Prod.mk.inj hrest
  rcases Database.upsertChannel_ok hupsert with ⟨-, -, rfl⟩ | ⟨c, hc, rfl, -, -, rfl⟩
  · exact ⟨liveChannel?_of_mem (List.mem_append_right _ (List.mem_singleton_self _)) rfl rfl, rfl,
      recordAudit_ne rfl⟩
  · have hmem : { c with deletedAt := none } ∈
        (db.updateChannel c.id fun c => { c with deletedAt := none }).channels :=
      List.mem_map.mpr ⟨c, hc, if_pos rfl⟩
    exact ⟨liveChannel?_of_mem hmem rfl rfl, rfl, recordAudit_ne rfl⟩

lemma announces_private {channelId : Uuid} {actor : AuthUser} {name : String} {db db' : Database}
    {now : Millis} {u : Unit}
    (h : insertPrivateChannel channelId actor name db now = .ok (db', u)) :
    Announces db db' name := by
  obtain ⟨-, rfl⟩ := insertPrivateChannel_ok h
  exact ⟨@liveChannel?_of_mem _ name (privateRow channelId actor name now) (by simp) rfl rfl,
    by simp, recordAudit_ne (by simp)⟩

/-- A private channel of its owner is live. -/
lemma live_of_owned {db : Database} {name : String} {userId channelId : Uuid}
    (h : ownedPrivateChannel db name userId = .ok channelId) :
    ∃ c ∈ db.channels, c.name = name ∧ c.deletedAt = none := by
  rw [ownedPrivateChannel] at h
  split at h
  · rename_i c hfind
    have hp := List.find?_some hfind
    simp only [decide_eq_true_eq] at hp
    exact ⟨c, List.mem_of_find?_eq_some hfind, hp.1, hp.2.2.2⟩
  · exact absurd h (by simp)

lemma announces_invite {channelId userId : Uuid} {actor : AuthUser} {name target : String}
    {db db' : Database} {now : Millis}
    (howned : ownedPrivateChannel db name actor.id = .ok channelId)
    (h : insertMember channelId actor userId db now = .ok (db', some target)) :
    Announces db db' name := by
  obtain ⟨c, hc, rfl, hlive⟩ := live_of_owned howned
  rcases insertMember_ok h with ⟨hnone, -⟩ | ⟨-, rfl⟩
  · exact absurd hnone (by simp)
  · exact ⟨liveChannel?_of_mem (by simpa using hc) rfl hlive, by simp, recordAudit_ne (by simp)⟩

lemma announces_remove {channelId userId : Uuid} {actor : AuthUser} {name target : String}
    {db db' : Database} {now : Millis}
    (howned : ownedPrivateChannel db name actor.id = .ok channelId)
    (h : deleteMember channelId actor userId db now = .ok (db', target)) :
    Announces db db' name := by
  obtain ⟨c, hc, rfl, hlive⟩ := live_of_owned howned
  obtain rfl := deleteMember_ok h
  exact ⟨liveChannel?_of_mem (by simpa [Database.removeMembers] using hc) rfl hlive, rfl,
    recordAudit_ne rfl⟩

/-- Behind such a commit: the system message, and what follows it. -/
lemma succeeds_announce_iff {α : Type} {db' : Database} {notice : Uuid} {name text : String}
    {g : Unit → App α} {p : Prop} (h : Announces s.db db' name)
    (hp : ∀ u s', Succeeds (g u) s' ↔ p) :
    Succeeds (publishSystemMessage fault notice name text >>= g) (s.setDb db') ↔
      Notifies fault s notice ∧ p := by
  obtain ⟨c, hc⟩ := h.live
  rw [succeeds_bind_iff_and hp, succeeds_publishSystemMessage_iff hc, Notifies, Notifies,
    Shared.setDb_db, h.messages]

lemma keeps_broadcastControl (event : ServerEvent) :
    Keeps audits (broadcastControl fault event) :=
  (keeps_broadcast _ _).attempt fault .control

lemma succeeds_broadcastControl_bind_iff {α : Type} {event : ServerEvent} {a : α} :
    Succeeds (broadcastControl fault event >>= fun _ => pure a) s ↔ fault .control = none := by
  rw [succeeds_bind_iff_and fun _ _ => iff_true_intro succeeds_pure, and_true, broadcastControl,
    succeeds_attempt_iff]
  exact and_iff_left succeeds_update

lemma errorKeeps_createPublicChannel_iff {channelId notice : Uuid} {actor : AuthUser}
    {rawName : String} :
    ErrorKeeps (fun s => s.db) s.db (createPublicChannel fault U channelId notice actor rawName) s ↔
      ((Call.createPublic channelId notice actor rawName).Commits fault U s →
        (Call.createPublic channelId notice actor rawName).Finishes fault s) := by
  rw [createPublicChannel, check, errorKeeps_read_bind_iff rfl, ask,
    errorKeeps_attempt_bind_iff after_read rfl]
  simp only [errorKeeps_read_bind_iff, errorKeeps_inTransaction_bind_iff transacts_public]
  have hrest : ∀ name db' (u : Unit),
      insertPublicChannel channelId actor name s.db s.now = .ok (db', ⟨⟩) →
      (ErrorKeeps (fun s => s.db) s.db
        (answer fault .commit u >>= fun _ =>
          publishSystemMessage fault notice name (actor.username ++ " created this channel") >>=
            fun _ => broadcastControl fault (.channelCreated name) >>= fun _ => pure name)
        (s.setDb db') ↔
        fault .commit = none ∧ Notifies fault s notice ∧ fault .control = none) := by
    intro name db' u hok
    have hann := announces_public hok
    rw [errorKeeps_committed_iff (fun _ => ?_) hann.audited,
      succeeds_announce_iff hann fun _ s' => succeeds_broadcastControl_bind_iff]
    exact (keeps_publishSystemMessage _ _ _).bind fun _ =>
      (keeps_broadcastControl _).bind fun _ => keeps_pure _
  constructor
  · rintro hall ⟨hsteps, hcommit, hperm, hban, name, hname, ⟨db', _⟩, hok⟩
    obtain ⟨hquery, htx⟩ := List.forall_mem_cons.mp hsteps
    exact (hrest name db' _ hok).mp (hall _ hperm hquery _ hban name hname ⟨htx, hcommit⟩ db' _ hok)
  · rintro hall _ hperm hquery _ hban name hname ⟨htx, hcommit⟩ db' _ hok
    exact (hrest name db' _ hok).mpr
      (hall ⟨List.forall_mem_cons.mpr ⟨hquery, htx⟩, hcommit, hperm, hban, name, hname, _, hok⟩)

lemma errorKeeps_createPrivateConversation_iff {channelId notice : Uuid} {actor : AuthUser}
    {rawName : String} :
    ErrorKeeps (fun s => s.db) s.db
        (createPrivateConversation fault U channelId notice actor rawName) s ↔
      ((Call.createPrivate channelId notice actor rawName).Commits fault U s →
        (Call.createPrivate channelId notice actor rawName).Finishes fault s) := by
  rw [createPrivateConversation, check, errorKeeps_read_bind_iff rfl, ask,
    errorKeeps_attempt_bind_iff after_read rfl]
  simp only [errorKeeps_read_bind_iff, errorKeeps_inTransaction_bind_iff transacts_private]
  have hrest : ∀ name db' (u : Unit),
      insertPrivateChannel channelId actor name s.db s.now = .ok (db', ⟨⟩) →
      (ErrorKeeps (fun s => s.db) s.db
        (answer fault .commit u >>= fun _ => publishSystemMessage fault notice name
            (actor.username ++ " created this private channel") >>= fun _ => pure (channelId, name))
        (s.setDb db') ↔ fault .commit = none ∧ Notifies fault s notice) := by
    intro name db' u hok
    have hann := announces_private hok
    rw [errorKeeps_committed_iff (fun _ => ?_) hann.audited,
      succeeds_announce_iff hann fun _ s' => iff_true_intro succeeds_pure, and_true]
    exact (keeps_publishSystemMessage _ _ _).bind fun _ => keeps_pure _
  constructor
  · rintro hall ⟨hsteps, hcommit, hperm, hban, name, hname, ⟨db', _⟩, hok⟩
    obtain ⟨hquery, htx⟩ := List.forall_mem_cons.mp hsteps
    exact (hrest name db' _ hok).mp (hall _ hperm hquery _ hban name hname ⟨htx, hcommit⟩ db' _ hok)
  · rintro hall _ hperm hquery _ hban name hname ⟨htx, hcommit⟩ db' _ hok
    exact (hrest name db' _ hok).mpr
      (hall ⟨List.forall_mem_cons.mpr ⟨hquery, htx⟩, hcommit, hperm, hban, name, hname, _, hok⟩)

lemma keeps_broadcastMembers (channel : String) : Keeps audits (broadcastMembers fault channel) :=
  (((keeps_read _).attempt fault .members).bind fun _ =>
    (keeps_broadcast _ _).attempt fault .announceMembers).swallow

lemma succeeds_broadcastMembers (channel : String) :
    Succeeds (broadcastMembers fault channel) s := succeeds_swallow

lemma errorKeeps_removeMember_iff {notice userId : Uuid} {actor : AuthUser} {channel : String} :
    ErrorKeeps (fun s => s.db) s.db (removeMember fault notice actor channel userId) s ↔
      ((Call.remove notice actor channel userId).Commits fault U s →
        (Call.remove notice actor channel userId).Finishes fault s) := by
  rw [removeMember, check, errorKeeps_read_bind_iff rfl, ask,
    errorKeeps_attempt_bind_iff after_read rfl]
  simp only [errorKeeps_read_bind_iff, errorKeeps_inTransaction_bind_iff transacts_remove]
  have hrest : ∀ c target db', ownedPrivateChannel s.db channel actor.id = .ok c →
      deleteMember c actor userId s.db s.now = .ok (db', target) →
      (ErrorKeeps (fun s => s.db) s.db
        (answer fault .commit target >>= fun target =>
          publishSystemMessage fault notice channel (actor.username ++ " removed " ++ target) >>=
            fun _ => broadcastMembers fault channel) (s.setDb db') ↔
        fault .commit = none ∧ Notifies fault s notice) := by
    intro c target db' howned hok
    have hann := announces_remove howned hok
    rw [errorKeeps_committed_iff (fun _ => ?_) hann.audited,
      succeeds_announce_iff hann fun _ s' => iff_true_intro (succeeds_broadcastMembers channel),
      and_true]
    exact (keeps_publishSystemMessage _ _ _).bind fun _ => keeps_broadcastMembers _
  constructor
  · rintro hall ⟨hsteps, hcommit, hperm, c, howned, ⟨db', target⟩, hok⟩
    obtain ⟨hquery, htx⟩ := List.forall_mem_cons.mp hsteps
    exact (hrest c target db' howned hok).mp
      (hall _ hperm hquery c howned ⟨htx, hcommit⟩ db' target hok)
  · rintro hall _ hperm hquery c howned ⟨htx, hcommit⟩ db' target hok
    exact (hrest c target db' howned hok).mpr
      (hall ⟨List.forall_mem_cons.mpr ⟨hquery, htx⟩, hcommit, hperm, c, howned, _, hok⟩)

lemma errorKeeps_deleteChannelService_iff {actor : AuthUser} {rawName : String} :
    ErrorKeeps (fun s => s.db) s.db (deleteChannelService fault U actor rawName) s ↔
      ((Call.delete actor rawName).Commits fault U s →
        (Call.delete actor rawName).Finishes fault s) := by
  rw [deleteChannelService, check, errorKeeps_read_bind_iff rfl]
  simp only [check, errorKeeps_read_bind_iff, errorKeeps_inTransaction_bind_iff transacts_delete]
  have hrest : ∀ name db' (u : Unit), deleteChannel actor name s.db s.now = .ok (db', ⟨⟩) →
      (ErrorKeeps (fun s => s.db) s.db
        (answer fault .commit u >>= fun _ =>
          broadcastControl fault (.channelDeleted name) >>= fun _ => pure name) (s.setDb db') ↔
        fault .commit = none ∧ fault .control = none) := by
    intro name db' u hok
    obtain ⟨c, -, rfl⟩ := deleteChannel_ok hok
    have hsame : (s.db.updateChannel c.id fun c =>
        { c with deletedAt := some s.now }).auditEvents = s.db.auditEvents := rfl
    rw [errorKeeps_committed_iff (fun _ => ?_) (recordAudit_ne hsame),
      succeeds_broadcastControl_bind_iff]
    exact (keeps_broadcastControl _).bind fun _ => keeps_pure _
  have hmain : ∀ name : String, ∀ u : Unit, (if name = mainChannel then
      .error (.badRequest "the main channel cannot be removed") else .ok ⟨⟩ :
        Except AppError Unit) = .ok u ↔ name ≠ mainChannel := by
    intro name u
    by_cases h : name = mainChannel
    · simp [h]
    · simp [h]
  simp only [hmain]
  constructor
  · rintro hall ⟨hsteps, hcommit, hperm, name, hname, hne, ⟨db', _⟩, hok⟩
    exact (hrest name db' _ hok).mp
      (hall _ hperm name hname ⟨⟩ hne ⟨hsteps, hcommit⟩ db' _ hok)
  · rintro hall _ hperm name hname _ hne ⟨hsteps, hcommit⟩ db' _ hok
    exact (hrest name db' _ hok).mpr (hall ⟨hsteps, hcommit, hperm, name, hname, hne, _, hok⟩)

lemma errorKeeps_inviteMember_iff {notice userId : Uuid} {actor : AuthUser} {channel : String} :
    ErrorKeeps (fun s => s.db) s.db (inviteMember fault notice actor channel userId) s ↔
      ((Call.invite notice actor channel userId).Commits fault U s →
        (Call.invite notice actor channel userId).Finishes fault s) := by
  rw [inviteMember, check, errorKeeps_read_bind_iff rfl, ask,
    errorKeeps_attempt_bind_iff after_read rfl]
  simp only [errorKeeps_read_bind_iff, inTransaction, leadsTo_atomically.errorKeeps_bind_iff,
    inviteTransaction_run_ok_iff]
  have hrest : ∀ c target db', ownedPrivateChannel s.db channel actor.id = .ok c →
      insertMember c actor userId s.db s.now = .ok (db', some target) →
      (ErrorKeeps (fun s => s.db) s.db
        (answer fault .commit (some target) >>= fun target => match target with
          | none => (return false : App Bool)
          | some target =>
              publishSystemMessage fault notice channel (actor.username ++ " invited " ++ target)
                >>= fun _ => broadcastMembers fault channel >>= fun _ => pure true)
          (s.setDb db') ↔
        fault .commit = none ∧ Notifies fault s notice) := by
    intro c target db' howned hok
    have hann := announces_invite howned hok
    have hlast : Succeeds (publishSystemMessage fault notice channel
        (actor.username ++ " invited " ++ target) >>= fun _ =>
          broadcastMembers fault channel >>= fun _ => (pure true : App Bool)) (s.setDb db') ↔
        Notifies fault s notice ∧ True :=
      succeeds_announce_iff hann fun _ s' => iff_true_intro ⟨true, _, rfl⟩
    rw [errorKeeps_committed_iff (fun target => ?_) hann.audited, hlast, and_true]
    cases target with
    | none => exact keeps_pure _
    | some target =>
        exact (keeps_publishSystemMessage _ _ _).bind fun _ =>
          (keeps_broadcastMembers _).bind fun _ => keeps_pure _
  constructor
  · rintro hall ⟨hsteps, hcommit, hperm, c, howned, db', target, hok⟩
    have hfault : ∀ step ∈ [Step.query 0, .begin, .statement 0, .statement 1, .audit 0],
        fault step = none := hsteps
    simp only [List.forall_mem_cons, List.not_mem_nil, false_imp_iff, implies_true,
      and_true] at hfault
    obtain ⟨hquery, hbegin, h0, h1, haudit⟩ := hfault
    have hkept := hall _ hperm hquery c howned (some target) _
      ⟨⟨hbegin, hcommit⟩, ⟨by simp [Plan.Passes, h0, h1], fun _ => haudit⟩, db', hok, rfl⟩
    exact (hrest c target db' howned hok).mp hkept
  · rintro hall _ hperm hquery c howned target _
      ⟨⟨hbegin, hcommit⟩, ⟨hsteps, haudit⟩, db', hok, rfl⟩
    cases target with
    | none =>
        have hsame : db' = s.db := by
          rcases insertMember_ok hok with ⟨-, hdb⟩ | ⟨hsome, -⟩
          · exact hdb
          · exact absurd hsome (by simp)
        have hanswer : Keeps (fun s : Shared => s.db)
            (answer fault .commit (none : Option String)) := keeps_answer _ _ _
        intro e s1 herror
        rcases bind_run_error herror with hlost | ⟨target, s2, hrun, hpure⟩
        · exact (hanswer.run_error hlost).trans hsame
        · obtain ⟨rfl, rfl⟩ := EStateM.Result.ok.inj (attempt_run_ok_iff.mp hrun).2
          exact absurd hpure (by simp)
    | some target =>
        have hfault : fault.Passes [.query 0, .begin, .statement 0, .statement 1, .audit 0] := by
          obtain ⟨h0, h1⟩ : fault (.statement 0) = none ∧ fault (.statement 1) = none := by
            simpa [Plan.Passes] using hsteps
          simp [Plan.Passes, hquery, hbegin, h0, h1, haudit rfl]
        exact (hrest c target db' howned hok).mpr
          (hall ⟨hfault, hcommit, hperm, c, howned, db', target, hok⟩)

end Errors

/-- **Errors**: whatever fails, with or without its effect, a call that returns an error leaves the
database as it was iff, where its transaction has been committed with a change, the commit is
answered and none of the later steps fails. -/
theorem Call.unchanged_on_error_iff (fault : Plan) (U : Unicode) (call : Call) (s : Shared) :
    (∀ e s', (call.run fault U).run s = .error e s' → s'.db = s.db) ↔
      (call.Commits fault U s → call.Finishes fault s) := by
  cases call with
  | createPublic channelId notice actor rawName =>
      exact errorKeeps_discard_iff.trans errorKeeps_createPublicChannel_iff
  | createPrivate channelId notice actor rawName =>
      exact errorKeeps_discard_iff.trans errorKeeps_createPrivateConversation_iff
  | invite notice actor channel userId =>
      exact errorKeeps_discard_iff.trans errorKeeps_inviteMember_iff
  | remove notice actor channel userId => exact errorKeeps_removeMember_iff
  | delete actor rawName => exact errorKeeps_discard_iff.trans errorKeeps_deleteChannelService_iff

/-- A user who may write. -/
def writer : AuthUser :=
  { id := 1, email := "ada@vussa", username := "ada", roles := [], permissions := [.chatWrite] }

/-- Tables over which nothing has happened yet. -/
def emptyShared : Shared := { db := {}, now := 5 }

/-- The state after a call that returns an error. -/
def Call.errorState? (fault : Plan) (U : Unicode) (call : Call) (s : Shared) : Option Shared :=
  match (call.run fault U).run s with
  | .ok _ _ => none
  | .error _ s' => some s'

/-- The control broadcast fails: the call returns an error, and the channel, its audit row and its
system message are there. -/
theorem not_unchanged_control :
    ((Call.createPublic 7 8 writer "den").errorState? (Plan.only .control) .ascii emptyShared).map
        (fun s' => (s'.db.channels.map ChannelRow.name, s'.db.auditEvents.map AuditRow.action,
          s'.db.messages.map MessageRow.text)) =
      some (["den"], ["channel.created"], ["ada created this channel"]) ∧
    ¬ ∀ e s', ((Call.createPublic 7 8 writer "den").run (Plan.only .control) .ascii).run
        emptyShared = .error e s' → s'.db = emptyShared.db := by
  have hstate : ((Call.createPublic 7 8 writer "den").errorState? (Plan.only .control) .ascii
      emptyShared).map (fun s' => (s'.db.channels.map ChannelRow.name,
        s'.db.auditEvents.map AuditRow.action, s'.db.messages.map MessageRow.text)) =
      some (["den"], ["channel.created"], ["ada created this channel"]) := by
    decide +kernel
  refine ⟨hstate, fun h => ?_⟩
  obtain ⟨s', hs', hrows⟩ := Option.map_eq_some_iff.mp hstate
  rw [Call.errorState?] at hs'
  split at hs'
  · exact absurd hs' (by simp)
  · rename_i e s1 herror
    obtain rfl := Option.some.inj hs'
    have hdb := h e s1 herror
    rw [hdb] at hrows
    exact absurd hrows (by decide)

end Vussa.Failures
