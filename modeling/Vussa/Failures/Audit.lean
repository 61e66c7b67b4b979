import Vussa.Failures.Atomic

/-!
The audit row of an operation, whatever fails: a change is committed only with its audit row iff
the operation writes the row in the transaction of the change, or nothing fails in between.

* `Operation.ChangesFirst`: the operation commits a change before its audit row is written, by
  `record_audit_pool`;
* `Operation.Reaches`: the change is answered, none of the steps fails from there to the audit row,
  and the insert of the row takes effect;
* `Operation.audited_iff`: **a change has its audit row iff an operation that changes first
  reaches its audit row**;
* `not_audited_ban`: a ban whose audit row fails.
-/

namespace Vussa.Failures

open Effect Faults

/-- `record_audit_pool` writes its row. -/
def Plan.Records (fault : Plan) : Prop := fault .acquire = none ∧ Lands fault (.audit 0)

namespace Operation

variable (fault : Plan)

/-- The operation changes tables before its audit row is written, in a step of its own. -/
def ChangesFirst (U : Unicode) (s : Ledger) : Operation → Prop
  | leave _ actor name =>
      fault.Passes [.session, .query 0] ∧ Lands fault (.statement 0) ∧
      requirePermission actor .chatWrite = .ok ⟨⟩ ∧
      ∃ row, membership actor name s.db = .ok row ∧ checkLeave actor row = .ok ⟨⟩
  | promote actor name userId =>
      fault.Passes [.session, .query 0] ∧ Lands fault (.statement 0) ∧
      ∃ c, channelModeratorManager s.db name actor = .ok c ∧
        ∃ r, changeRole c userId .member .moderator s.db = .ok r
  | demote actor name userId =>
      fault.Passes [.session, .query 0] ∧ Lands fault (.statement 0) ∧
      ∃ c, channelModeratorManager s.db name actor = .ok c ∧
        ∃ r, changeRole c userId .moderator .member s.db = .ok r
  | transfer actor name userId =>
      fault.Passes [.session, .query 0, .query 1, .begin, .statement 0, .statement 1,
        .statement 2] ∧ Lands fault .commit ∧
      requirePermission actor .chatWrite = .ok ⟨⟩ ∧
      ∃ c, liveChannel name s.db = .ok c ∧ checkTransfer actor userId c = .ok ⟨⟩ ∧
        checkTarget c.id userId s.db = .ok ⟨⟩
  | adminCreate channelId _ actor request =>
      fault.Passes [.session] ∧ Lands fault (.statement 0) ∧
      requirePermission actor .channelsWrite = .ok ⟨⟩ ∧
      ∃ name, normalizeChannelName U (request.name.getD "") = .ok name ∧ name ≠ mainChannel ∧
        validateRetentionDays request.retentionDays = .ok ⟨⟩ ∧
        ∃ r, s.db.upsertChannel channelId name s.now = .ok r
  | createBan banId actor request =>
      fault.Passes [.session, .query 0] ∧ Lands fault (.statement 0) ∧
      (request.channel.isSome → fault (.query 1) = none) ∧
      requirePermission actor .moderationWrite = .ok ⟨⟩ ∧ checkBan request s.now = .ok ⟨⟩ ∧
      checkBanned request.userId s.db = .ok ⟨⟩ ∧
      (∀ name ∈ request.channel, ∃ c, liveChannel name s.db = .ok c) ∧
      ∀ b ∈ s.db.userBans, b.id ≠ banId
  | report reportId actor messageId rawReason =>
      fault.Passes [.session, .query 0, .query 1] ∧ Lands fault (.statement 0) ∧
      checkReason (trim rawReason) = .ok ⟨⟩ ∧
      ∃ name, messageChannel s.db messageId actor.id = .ok name ∧
        ensureChannelAccess s.db s.now name actor.id = .ok ⟨⟩ ∧
        ∃ r, upsertReport (reportRow reportId messageId actor (trim rawReason) s.now) s.reports =
          .ok r ∧ r.1 ≠ s.reports
  | updateReport actor id action =>
      fault.Passes [.session] ∧ Lands fault (.statement 0) ∧
      requirePermission actor .moderationWrite = .ok ⟨⟩ ∧
      ∃ reports, applyReport action s.now actor.id id s.reports = .ok reports ∧
        reports ≠ s.reports
  | _ => False

/-- The change is answered, none of the steps fails that come between it and the audit row, and the
row is written. -/
def Reaches (s : Ledger) : Operation → Prop
  | leave notice _ _ => fault (.statement 0) = none ∧ Notifies fault s.toShared notice ∧
      fault .members = none ∧ fault.Records
  | transfer _ _ _ => fault .commit = none ∧ fault .members = none ∧ fault.Records
  | adminCreate _ _ _ _ => fault.Passes [.statement 0, .statement 1, .query 0] ∧ fault.Records
  | promote _ _ _ | demote _ _ _ | createBan _ _ _ | report _ _ _ _ | updateReport _ _ _ =>
      fault (.statement 0) = none ∧ fault.Records
  | _ => True

end Operation

/-! ### The audit row behind the change -/

section Late

variable {fault : Plan} {s : Shared} {actor : AuthUser}

/-- A step that writes takes effect, and what follows depends on its answer. -/
lemma after_exec_bind_iff {α β : Type} {P : Shared → Prop} {step : Step}
    {f : Database → Millis → Except AppError (Database × α)} {g : α → App β} (hs : P s) :
    P (after (exec fault step f >>= g) s) ↔ (Lands fault step → ∀ db' a,
      f s.db s.now = .ok (db', a) → P (after (answer fault step a >>= g) (s.setDb db'))) := by
  have hstep : LeadsTo (exec fault step f) s
      (fun a s' => Lands fault step ∧ (transaction f).run s = .ok a s') (answer fault step) :=
    leadsTo_attempt fun _ _ => transact_run_error
  rw [hstep.after_bind_iff hs]
  constructor
  · intro hall hlands db' a hok
    refine hall a _ ⟨hlands, ?_⟩
    rw [transaction, run_transact, hok]
    rfl
  · rintro hall a s' ⟨hlands, hrun⟩
    obtain ⟨db', hok, rfl⟩ := transaction_run_ok hrun
    exact hall hlands db' a hok

lemma after_ask_bind_iff {α β : Type} {P : Shared → Prop} {step : Step}
    {f : Database → Millis → Except AppError α} {g : α → App β} (hs : P s) :
    P (after (ask fault step f >>= g) s) ↔
      (fault step = none → ∀ a, f s.db s.now = .ok a → P (after (g a) s)) := by
  rw [ask, after_attempt_bind_iff after_read hs, after_read_bind_iff hs]

lemma after_check_bind_iff {β : Type} {P : Shared → Prop}
    {f : Database → Millis → Except AppError Unit} {g : Unit → App β} (hs : P s) :
    P (after (check f >>= g) s) ↔ (f s.db s.now = .ok ⟨⟩ → P (after (g ⟨⟩) s)) := by
  rw [check, after_read_bind_iff hs]
  exact ⟨fun h => h ⟨⟩, fun h _ => h⟩

/-- `record_audit_pool` adds its row if it gets a connection and its insert takes effect. -/
lemma enters_recordAuditPool {user : Uuid} {action targetType : String} {targetId : Uuid}
    {metadata : List (String × AuditValue)} {target : Option Uuid} (h : target = some targetId)
    (s : Shared) :
    Enters audits (IsAudit user action targetType target)
      (recordAuditPool fault user action targetType targetId metadata) s fault.Records := by
  have hkeeps : Keeps audits (attempt fault .acquire (pure ⟨⟩ : App PUnit)) :=
    (keeps_pure _).attempt _ _
  have hacquire : Succeeds (attempt fault .acquire (pure ⟨⟩ : App PUnit)) s ↔
      fault .acquire = none := succeeds_attempt_iff.trans (and_iff_left succeeds_pure)
  rw [Plan.Records, ← hacquire]
  exact hkeeps.bind_enters fun _ s' _ => enters_attempt rfl ⟨rfl, rfl, rfl, h⟩ rfl

lemma SameTables.congr {τ : Type} {f : Database → τ} {s' : Shared} (h : SameTables s s')
    (hf : ∀ db rows, f { db with auditEvents := rows } = f db) : f s'.db = f s.db := by
  rw [← hf s'.db s.db.auditEvents]
  exact congrArg f h

/-- A change of role in the table. -/
lemma changeRole_ok {channelId userId : Uuid} {old new : MembershipRole} {db db' : Database}
    {u : Unit} (h : changeRole channelId userId old new db = .ok (db', u)) (hne : old ≠ new) :
    db'.auditEvents = db.auditEvents ∧ db'.channelMembers ≠ db.channelMembers := by
  rw [changeRole] at h
  split at h
  · rename_i hrow
    obtain ⟨rfl, -⟩ := Prod.mk.inj (Except.ok.inj h)
    refine ⟨rfl, fun hsame => ?_⟩
    obtain ⟨cm, hcm, hkey⟩ := hrow
    have hfix := List.map_inj_left.mp (hsame.trans (List.map_id _).symm) cm hcm
    rw [if_pos hkey] at hfix
    exact hne (hkey.2.2.symm.trans (congrArg MemberRow.membershipRole hfix).symm)
  · exact absurd h (by simp)

/-- The audit row of a later step leaves the other tables. -/
lemma keeps_recordAuditPool {τ : Type} {f : Database → τ}
    (hf : ∀ db rows, f { db with auditEvents := rows } = f db) (user : Uuid)
    (action targetType : String) (targetId : Uuid) (metadata : List (String × AuditValue)) :
    Keeps (fun s : Shared => f s.db)
      (recordAuditPool fault user action targetType targetId metadata) := by
  refine ((keeps_pure _).attempt _ _).bind fun _ =>
    (keeps_transact fun s s' a hok => ?_).attempt _ _
  obtain ⟨r, hr, hs'⟩ := map_eq_ok hok
  obtain rfl := Except.ok.inj hr
  obtain ⟨rfl, -⟩ := Prod.mk.inj hs'
  exact hf s.db _

/-- A change of a table other than the audit rows, and what follows it: the audit row must be
reached. -/
lemma logged_change_iff {τ α β : Type} {f : Database → τ} {Q : AuditRow → Prop} {step : Step}
    {a : α} {g : α → App β} {db' : Database} {p : Prop}
    (hf : ∀ db rows, f { db with auditEvents := rows } = f db)
    (hg : Enters audits Q (g a) (s.setDb db') p)
    (hkeeps : ∀ a, Keeps (fun s : Shared => f s.db) (g a))
    (haudits : db'.auditEvents = s.db.auditEvents) (hchange : f db' ≠ f s.db) :
    Logged SameTables audits Q s (after (answer fault step a >>= g) (s.setDb db')) ↔
      fault step = none ∧ p := by
  have hafter : f (after (answer fault step a >>= g) (s.setDb db')).db = f db' :=
    ((keeps_answer fault step a).bind hkeeps) (s.setDb db')
  have hnot : ¬ SameTables s (after (answer fault step a >>= g) (s.setDb db')) :=
    fun hsame => hchange (hafter.symm.trans (hsame.congr hf))
  have hnot' : ¬ SameTables s (s.setDb db') := fun hsame => hchange (hsame.congr hf)
  rw [logged_iff_of_enters (enters_answer_bind hg) haudits (iff_of_false hnot hnot'),
    imp_iff_right hnot']

lemma logged_setModerator_iff {old new : MembershipRole} (hne : old ≠ new) {action name : String}
    {userId : Uuid} :
    Logged SameTables audits
        (IsAudit actor.id action "channel" (channelModeratorManager s.db name actor).toOption) s
        (after (setModerator fault old new action actor name userId) s) ↔
      (fault.Passes [.query 0] ∧ Lands fault (.statement 0) ∧
        (∃ c, channelModeratorManager s.db name actor = .ok c ∧
          ∃ r, changeRole c userId old new s.db = .ok r) →
        fault (.statement 0) = none ∧ fault.Records) := by
  have hself := logged_self
    (IsAudit actor.id action "channel" (channelModeratorManager s.db name actor).toOption) s
  rw [setModerator, after_ask_bind_iff hself]
  simp only [after_exec_bind_iff hself]
  have hrest : ∀ c db' (u : Unit), channelModeratorManager s.db name actor = .ok c →
      changeRole c userId old new s.db = .ok (db', ⟨⟩) →
      (Logged SameTables audits
        (IsAudit actor.id action "channel" (channelModeratorManager s.db name actor).toOption) s
        (after (answer fault (.statement 0) u >>= fun _ => recordAuditPool fault actor.id action
          "channel" c [("user_id", .id userId)]) (s.setDb db')) ↔
        fault (.statement 0) = none ∧ fault.Records) := by
    intro c db' u hc hok
    obtain ⟨haudits, hmembers⟩ := changeRole_ok hok hne
    exact logged_change_iff (f := Database.channelMembers) (fun _ _ => rfl)
      (enters_recordAuditPool (mem_toOption.mpr hc) _)
      (fun _ => keeps_recordAuditPool (fun _ _ => rfl) _ _ _ _ _) haudits hmembers
  constructor
  · rintro hall ⟨hquery, hlands, c, hc, ⟨db', _⟩, hok⟩
    exact (hrest c db' _ hc hok).mp
      (hall (Plan.passes_singleton.mp hquery) c hc hlands db' _ hok)
  · intro hall hquery c hc hlands db' _ hok
    exact (hrest c db' _ hc hok).mpr
      (hall ⟨Plan.passes_singleton.mpr hquery, hlands, c, hc, _, hok⟩)

/-- The members are published; no table is written. -/
lemma keeps_publishMembers {τ : Type} (f : Database → τ) (name : String) :
    Keeps (fun s : Shared => f s.db) (publishMembers fault name) :=
  ((keeps_read _).attempt _ _).bind fun _ =>
    Keeps.swallow (Keeps.attempt (fun _ => rfl) fault .announceMembers)

lemma succeeds_ask_iff {α : Type} {step : Step} {f : Database → Millis → Except AppError α} :
    Succeeds (ask fault step f) s ↔ fault step = none ∧ ∃ a, f s.db s.now = .ok a := by
  rw [ask, succeeds_attempt_iff, Succeeds, run_read]
  cases f s.db s.now with
  | ok a => simp
  | error e => simp

lemma succeeds_publishMembers_iff {name : String} :
    Succeeds (publishMembers fault name) s ↔ fault .members = none := by
  rw [publishMembers, succeeds_bind_iff_and fun _ _ => iff_true_intro succeeds_swallow, and_true,
    succeeds_ask_iff]
  exact and_iff_left ⟨channelMembers s.db name, rfl⟩

/-- The row of the member who leaves. -/
lemma membership_ok {name : String} {db : Database} {row : ChannelRow × MemberRow}
    (h : membership actor name db = .ok row) :
    db.liveChannel? name = some row.1 ∧ row.2 ∈ db.channelMembers ∧
      row.2.channelId = row.1.id ∧ row.2.userId = actor.id := by
  rw [membership] at h
  split at h
  · exact absurd h (by simp)
  · rename_i row' hfind
    obtain rfl := Except.ok.inj h
    obtain ⟨c, hc, hmap⟩ := Option.bind_eq_some_iff.mp hfind
    obtain ⟨cm, hcm, rfl⟩ := Option.map_eq_some_iff.mp hmap
    have hkey := List.find?_some hcm
    exact ⟨hc, List.mem_of_find?_eq_some hcm, of_decide_eq_true hkey⟩

/-- The members and the audit row, the end of two operations. -/
lemma enters_publishMembers_bind {user : Uuid} {action targetType name : String}
    {targetId : Uuid} {metadata : List (String × AuditValue)} {target : Option Uuid}
    (h : target = some targetId) (s : Shared) :
    Enters audits (IsAudit user action targetType target)
      (publishMembers fault name >>= fun _ =>
        recordAuditPool fault user action targetType targetId metadata) s
      (fault .members = none ∧ fault.Records) := by
  have hreturns : Succeeds (publishMembers fault name) s ↔ fault .members = none :=
    succeeds_publishMembers_iff
  rw [← hreturns]
  exact (keeps_publishMembers Database.auditEvents _).bind_enters fun _ s' _ =>
    enters_recordAuditPool h s'

lemma logged_leaveChannel_iff {notice : Uuid} {name : String} :
    Logged SameTables audits (IsAudit actor.id "channel.member_left" "channel"
          ((membership actor name s.db).toOption.map fun row => row.1.id)) s
        (after (leaveChannel fault notice actor name) s) ↔
      (fault.Passes [.query 0] ∧ Lands fault (.statement 0) ∧
          requirePermission actor .chatWrite = .ok ⟨⟩ ∧
          (∃ row, membership actor name s.db = .ok row ∧ checkLeave actor row = .ok ⟨⟩) →
        fault (.statement 0) = none ∧ Notifies fault s notice ∧
          fault .members = none ∧ fault.Records) := by
  have hself := logged_self (IsAudit actor.id "channel.member_left" "channel"
    ((membership actor name s.db).toOption.map fun row => row.1.id)) s
  rw [leaveChannel, after_check_bind_iff hself, after_ask_bind_iff hself]
  simp only [after_check_bind_iff hself, after_exec_bind_iff hself]
  have hrest : ∀ row (u : Unit), membership actor name s.db = .ok row →
      (Logged SameTables audits (IsAudit actor.id "channel.member_left" "channel"
          ((membership actor name s.db).toOption.map fun row => row.1.id)) s
        (after (answer fault (.statement 0) u >>= fun _ =>
          publishSystemMessage fault notice name (actor.username ++ " left the conversation")
            >>= fun _ => publishMembers fault name >>= fun _ =>
              recordAuditPool fault actor.id "channel.member_left" "channel" row.1.id
                [("user_id", .id actor.id)])
          (s.setDb (s.db.removeMembers row.1.id actor.id fun _ => true))) ↔
        fault (.statement 0) = none ∧ Notifies fault s notice ∧
          fault .members = none ∧ fault.Records) := by
    intro row u hrow
    obtain ⟨hlive, hmem, hkey⟩ := membership_ok hrow
    have hleft : (s.setDb (s.db.removeMembers row.1.id actor.id fun _ => true)).db.liveChannel?
        name = some row.1 := hlive
    have hgone : (s.db.removeMembers row.1.id actor.id fun _ => true).channelMembers ≠
        s.db.channelMembers := by
      intro hsame
      have hstay := hsame ▸ hmem
      have hfilter := (List.mem_filter.mp hstay).2
      simp [hkey] at hfilter
    have htarget : (membership actor name s.db).toOption.map (fun row => row.1.id) =
        some row.1.id := by
      rw [hrow]
      rfl
    have hnotice : Succeeds (publishSystemMessage fault notice name
        (actor.username ++ " left the conversation"))
          (s.setDb (s.db.removeMembers row.1.id actor.id fun _ => true)) ↔
        Notifies fault s notice := succeeds_publishSystemMessage_iff hleft
    rw [← hnotice]
    refine logged_change_iff (f := Database.channelMembers) (fun _ _ => rfl)
      ((keeps_publishSystemMessage _ _ _).bind_enters fun _ s' _ =>
        enters_publishMembers_bind htarget s') (fun _ => ?_) rfl hgone
    exact (keeps_of_messages (fun _ _ => rfl) _ _ _).bind fun _ =>
      (keeps_publishMembers Database.channelMembers _).bind fun _ =>
        keeps_recordAuditPool (fun _ _ => rfl) _ _ _ _ _
  constructor
  · rintro hall ⟨hquery, hlands, hperm, row, hrow, hcheck⟩
    exact (hrest row _ hrow).mp
      (hall hperm (Plan.passes_singleton.mp hquery) row hrow hcheck hlands _ _ rfl)
  · intro hall hperm hquery row hrow hcheck hlands db' _ hok
    obtain ⟨rfl, -⟩ := Prod.mk.inj (Except.ok.inj hok)
    exact (hrest row _ hrow).mpr
      (hall ⟨Plan.passes_singleton.mpr hquery, hlands, hperm, row, hrow, hcheck⟩)

/-- What holds afterwards, of a transaction and what follows it. -/
lemma after_inTransaction_bind_iff {α β : Type} {P : Shared → Prop} {steps : List Step}
    {body : App α} {f : Database → Millis → Except AppError (Database × α)} {g : α → App β}
    (hs : P s) (h : Transacts fault steps body f) :
    P (after (inTransaction fault body >>= g) s) ↔
      (fault.Passes (.begin :: steps) ∧ Lands fault .commit → ∀ db' a,
        f s.db s.now = .ok (db', a) →
          P (after (answer fault .commit a >>= g) (s.setDb db'))) := by
  rw [(leadsTo_inTransaction h).after_bind_iff hs]
  constructor
  · intro hall hsteps db' a hf
    exact hall a _ ⟨hsteps, db', hf, rfl⟩
  · rintro hall a s' ⟨hsteps, db', hf, rfl⟩
    exact hall hsteps db' a hf

/-- The tables after the transaction of `transfer_channel_ownership`. -/
def transferOwner (channelId actor userId : Uuid) (db : Database) : Database :=
  setRole channelId userId .owner (setRole channelId actor .moderator
    (db.updateChannel channelId fun c => { c with ownerUserId := some userId }))

lemma transacts_transfer {channelId user userId : Uuid} :
    Transacts fault [.statement 0, .statement 1, .statement 2]
      (transferTransaction fault channelId user userId)
      fun db _ => .ok (transferOwner channelId user userId db, ⟨⟩) :=
  ((transacts_exec _ _).bind fun _ =>
    (transacts_exec _ _).bind fun _ => transacts_exec _ _).congr fun _ _ => rfl

/-- The owner of a live channel changes. -/
lemma transferOwner_ne {name : String} {c : ChannelRow} {userId : Uuid} {db : Database}
    (hc : liveChannel name db = .ok c) (hcheck : checkTransfer actor userId c = .ok ⟨⟩) :
    (transferOwner c.id actor.id userId db).channels ≠ db.channels := by
  rw [liveChannel] at hc
  split at hc
  · exact absurd hc (by simp)
  · rename_i c' hfind
    obtain rfl := Except.ok.inj hc
    intro hsame
    have hfix := List.map_inj_left.mp (hsame.trans (List.map_id _).symm) c'
      (List.mem_of_find?_eq_some hfind)
    rw [if_pos rfl] at hfix
    have howner : some userId = c'.ownerUserId := congrArg ChannelRow.ownerUserId hfix
    rw [checkTransfer, ← howner] at hcheck
    split at hcheck
    · exact absurd hcheck (by simp)
    · rename_i hactor
      split at hcheck
      · exact absurd hcheck (by simp)
      · rename_i hne
        exact hactor fun heq => hne (Option.some.inj heq)

lemma logged_transferChannelOwnership_iff {name : String} {userId : Uuid} :
    Logged SameTables audits (IsAudit actor.id "channel.ownership_transferred" "channel"
          ((liveChannel name s.db).toOption.map ChannelRow.id)) s
        (after (transferChannelOwnership fault actor name userId) s) ↔
      (fault.Passes [.query 0, .query 1, .begin, .statement 0, .statement 1, .statement 2] ∧
          Lands fault .commit ∧ requirePermission actor .chatWrite = .ok ⟨⟩ ∧
          (∃ c, liveChannel name s.db = .ok c ∧ checkTransfer actor userId c = .ok ⟨⟩ ∧
            checkTarget c.id userId s.db = .ok ⟨⟩) →
        fault .commit = none ∧ fault .members = none ∧ fault.Records) := by
  have hself := logged_self (IsAudit actor.id "channel.ownership_transferred" "channel"
    ((liveChannel name s.db).toOption.map ChannelRow.id)) s
  rw [transferChannelOwnership, after_check_bind_iff hself, after_ask_bind_iff hself]
  simp only [after_check_bind_iff hself, after_ask_bind_iff hself,
    after_inTransaction_bind_iff hself transacts_transfer]
  have hrest : ∀ c (u : Unit), liveChannel name s.db = .ok c →
      checkTransfer actor userId c = .ok ⟨⟩ →
      (Logged SameTables audits (IsAudit actor.id "channel.ownership_transferred" "channel"
          ((liveChannel name s.db).toOption.map ChannelRow.id)) s
        (after (answer fault .commit u >>= fun _ => publishMembers fault name >>= fun _ =>
            recordAuditPool fault actor.id "channel.ownership_transferred" "channel" c.id
              [("old_owner", .id actor.id), ("new_owner", .id userId)])
          (s.setDb (transferOwner c.id actor.id userId s.db))) ↔
        fault .commit = none ∧ fault .members = none ∧ fault.Records) := by
    intro c u hc hcheck
    have htarget : (liveChannel name s.db).toOption.map ChannelRow.id = some c.id := by
      rw [hc]
      rfl
    refine logged_change_iff (f := Database.channels) (fun _ _ => rfl)
      (enters_publishMembers_bind htarget _) (fun _ => ?_) rfl (transferOwner_ne hc hcheck)
    exact (keeps_publishMembers Database.channels _).bind fun _ =>
      keeps_recordAuditPool (fun _ _ => rfl) _ _ _ _ _
  constructor
  · rintro hall ⟨hsteps, hlands, hperm, c, hc, hcheck, htarget⟩
    obtain ⟨hquery, hsteps⟩ := List.forall_mem_cons.mp hsteps
    obtain ⟨hquery', hsteps⟩ := List.forall_mem_cons.mp hsteps
    exact (hrest c _ hc hcheck).mp
      (hall hperm hquery c hc hcheck hquery' ⟨⟩ htarget ⟨hsteps, hlands⟩ _ _ rfl)
  · rintro hall hperm hquery c hc hcheck hquery' _ htarget ⟨hsteps, hlands⟩ db' _ hok
    obtain ⟨rfl, -⟩ := Prod.mk.inj (Except.ok.inj hok)
    exact (hrest c _ hc hcheck).mpr (hall ⟨List.forall_mem_cons.mpr
      ⟨hquery, List.forall_mem_cons.mpr ⟨hquery', hsteps⟩⟩, hlands, hperm, c, hc, hcheck, htarget⟩)

/-- The channel of a name, as far as `create_channel` changes it: whether it is deleted. -/
def deletion (name : String) (db : Database) : Option (Option Millis) :=
  (db.channels.find? fun c => c.name = name).map ChannelRow.deletedAt

/-- A map that leaves the names. -/
lemma find?_name_map {f : ChannelRow → ChannelRow} {name : String} {rows : List ChannelRow}
    (hf : ∀ c, (f c).name = c.name) : ((rows.map f).find? fun c => c.name = name) =
      (rows.find? fun c => c.name = name).map f := by
  rw [List.find?_map]
  simp only [Function.comp_def, hf]

/-- A channel brought back keeps its name. -/
lemma revive_name (id : Uuid) (c : ChannelRow) :
    (if c.id = id then { c with deletedAt := none } else c).name = c.name := by
  split
  · rfl
  · rfl

/-- `create_channel` brings a channel that was not there. -/
lemma deletion_upsertChannel {db : Database} {id : Uuid} {name : String} {now : Millis}
    {r : Database × Uuid} (h : db.upsertChannel id name now = .ok r) :
    deletion name r.1 = some none ∧ deletion name db ≠ some none := by
  rw [Database.upsertChannel] at h
  rw [deletion, deletion]
  split at h
  · rename_i hnone
    obtain ⟨db1, hins, rfl⟩ := map_eq_ok h
    obtain ⟨-, rfl⟩ := Database.insertChannel_ok hins
    simp [hnone]
  · rename_i c hsome
    split at h
    · exact absurd h (by simp)
    · rename_i hdeleted
      obtain rfl := Except.ok.inj h
      rw [Database.updateChannel, find?_name_map (revive_name c.id), hsome]
      simpa using hdeleted

/-- The query of `admin_create_channel` finds what `create_channel` returned. -/
lemma channelId_upsertChannel {db db' : Database} {id id' : Uuid} {name : String} {now : Millis}
    (h : db.upsertChannel id name now = .ok (db', id')) : channelId db' name = .ok id' := by
  rw [Database.upsertChannel] at h
  rw [channelId]
  split at h
  · rename_i hnone
    obtain ⟨db1, hins, hpair⟩ := map_eq_ok h
    obtain ⟨rfl, rfl⟩ := Prod.mk.inj hpair
    obtain ⟨-, rfl⟩ := Database.insertChannel_ok hins
    simp [hnone]
  · rename_i c hsome
    split at h
    · exact absurd h (by simp)
    · obtain ⟨rfl, rfl⟩ := Prod.mk.inj (Except.ok.inj h)
      rw [Database.updateChannel, find?_name_map (revive_name c.id), hsome]
      simp

/-- `UPDATE channels SET … WHERE name=…` of `admin_create_channel`. -/
lemma configure_name (request : ChannelAdminRequest) (name : String) (c : ChannelRow) :
    (if c.name = name then c.configure request else c).name = c.name := by
  split
  · rfl
  · rfl

lemma keeps_deletion_configureChannel {request : ChannelAdminRequest} {name : String} :
    Keeps (fun s : Shared => deletion name s.db) (configureChannel fault actor name request) := by
  refine ((keeps_transact fun s s' a hok => ?_).attempt _ _).bind fun _ =>
    ((keeps_read _).attempt _ _).bind fun _ => keeps_recordAuditPool (fun _ _ => rfl) _ _ _ _ _
  obtain ⟨r, hr, hs'⟩ := map_eq_ok hok
  obtain rfl := Except.ok.inj hr
  obtain ⟨rfl, -⟩ := Prod.mk.inj hs'
  rw [Shared.setDb_db, deletion, find?_name_map (configure_name request name), Option.map_map]
  rw [deletion]
  congr 1
  funext c
  rw [Function.comp]
  split
  · rfl
  · rfl

/-- The audit row behind `create_channel`, where the channel is `id`. -/
lemma enters_configureChannel {request : ChannelAdminRequest} {name : String} {id : Uuid}
    {target : Option Uuid} (hid : channelId s.db name = .ok id) (htarget : target = some id) :
    Enters audits (IsAudit actor.id "channel.created" "channel" target)
      (configureChannel fault actor name request) s
      (fault.Passes [.statement 1, .query 0] ∧ fault.Records) := by
  have hexec : Keeps audits (exec fault (.statement 1) fun db _ =>
      .ok ({ db with channels := db.channels.map fun c =>
        if c.name = name then c.configure request else c }, ())) := by
    refine keeps_exec (fun db now db' _ hok => ?_) _
    obtain ⟨rfl, -⟩ := Prod.mk.inj (Except.ok.inj hok)
    rfl
  have hfind : ∀ s1 : Shared, s1.db.channels = (s.db.channels.map fun c =>
      if c.name = name then c.configure request else c) → channelId s1.db name = .ok id := by
    intro s1 hs1
    rw [channelId] at hid ⊢
    rw [hs1, find?_name_map (configure_name request name)]
    cases hc : s.db.channels.find? fun c => c.name = name with
    | none =>
        rw [hc] at hid
        exact absurd hid (by simp)
    | some c =>
        rw [hc] at hid
        rw [Option.map_some]
        have hconfigured : (if c.name = name then c.configure request else c).id = c.id := by
          split
          · rfl
          · rfl
        exact hid ▸ congrArg Except.ok hconfigured
  refine (hexec.bind_enters (p := fault (.query 0) = none ∧ fault.Records)
    fun _ s1 hrun => ?_).congr ?_
  · obtain ⟨-, db1, hdb, rfl⟩ := (transacts_exec _ _ _ _ _).mp hrun
    have hquery : channelId (s.setDb db1).db name = .ok id := by
      obtain ⟨rfl, -⟩ := Prod.mk.inj (Except.ok.inj hdb)
      exact hfind _ rfl
    have hasks : Succeeds (ask fault (.query 0) fun db _ => channelId db name) (s.setDb db1) ↔
        fault (.query 0) = none := succeeds_ask_iff.trans (and_iff_left ⟨id, hquery⟩)
    rw [← hasks]
    refine (keeps_ask _ _).bind_enters fun id' s2 hask => ?_
    obtain ⟨-, db2, hid', -⟩ := (transacts_ask _ _ _ _ _).mp hask
    obtain ⟨a, ha, hpair⟩ := map_eq_ok hid'
    obtain rfl : a = id := Except.ok.inj (ha.symm.trans hquery)
    obtain ⟨-, rfl⟩ := Prod.mk.inj hpair
    exact enters_recordAuditPool htarget s2
  · have hpasses : fault.Passes [.statement 1, .query 0] ∧ fault.Records ↔
        fault (.statement 1) = none ∧ fault (.query 0) = none ∧ fault.Records := by
      simp [Plan.Passes, and_assoc]
    rw [hpasses]
    exact and_congr_left' (succeeds_attempt_iff.trans (and_iff_left ⟨⟨⟩, _, rfl⟩))

/-- The check of the name. -/
lemma checkName_ok_iff {name : String} {u : Unit} : (if name = mainChannel then
    .error (.badRequest "main is reserved") else .ok ⟨⟩ : Except AppError Unit) = .ok u ↔
      name ≠ mainChannel := by
  by_cases h : name = mainChannel
  · simp [h]
  · simp [h]

lemma auditEvents_upsertChannel {db : Database} {id : Uuid} {name : String} {now : Millis}
    {r : Database × Uuid} (h : db.upsertChannel id name now = .ok r) :
    r.1.auditEvents = db.auditEvents := by
  rcases Database.upsertChannel_ok h with ⟨-, -, hr⟩ | ⟨c, -, -, -, -, hr⟩
  · rw [hr]
  · rw [hr]
    rfl

lemma logged_adminCreateChannel_iff {U : Unicode} {channelId notice : Uuid}
    {request : ChannelAdminRequest} :
    Logged SameTables audits (IsAudit actor.id "channel.created" "channel"
          (Operation.created? U s.db channelId (request.name.getD ""))) s
        (after (adminCreateChannel fault U channelId notice actor request) s) ↔
      (fault.Passes [] ∧ Lands fault (.statement 0) ∧
          requirePermission actor .channelsWrite = .ok ⟨⟩ ∧
          (∃ name, normalizeChannelName U (request.name.getD "") = .ok name ∧ name ≠ mainChannel ∧
            validateRetentionDays request.retentionDays = .ok ⟨⟩ ∧
            ∃ r, s.db.upsertChannel channelId name s.now = .ok r) →
        fault.Passes [.statement 0, .statement 1, .query 0] ∧ fault.Records) := by
  have hself := logged_self (IsAudit actor.id "channel.created" "channel"
    (Operation.created? U s.db channelId (request.name.getD ""))) s
  rw [adminCreateChannel, after_check_bind_iff hself, after_read_bind_iff hself]
  simp only [after_check_bind_iff hself, after_exec_bind_iff hself, checkName_ok_iff]
  have hrest : ∀ name db' id, normalizeChannelName U (request.name.getD "") = .ok name →
      s.db.upsertChannel channelId name s.now = .ok (db', id) →
      (Logged SameTables audits (IsAudit actor.id "channel.created" "channel"
          (Operation.created? U s.db channelId (request.name.getD ""))) s
        (after (answer fault (.statement 0) id >>= fun _ =>
          configureChannel fault actor name request >>= fun _ =>
            publishSystemMessage fault notice name (actor.username ++ " created this channel"))
          (s.setDb db')) ↔
        fault.Passes [.statement 0, .statement 1, .query 0] ∧ fault.Records) := by
    intro name db' id hname hok
    obtain ⟨hnew, hold⟩ := deletion_upsertChannel hok
    have hchange : deletion name db' ≠ deletion name s.db := fun hsame => hold (hsame ▸ hnew)
    have htarget := created?_of_upsertChannel hname hok
    have hid : Failures.channelId (s.setDb db').db name = .ok id := channelId_upsertChannel hok
    have hpasses : fault.Passes [.statement 0, .statement 1, .query 0] ∧ fault.Records ↔
        fault (.statement 0) = none ∧ fault.Passes [.statement 1, .query 0] ∧ fault.Records := by
      simp [Plan.Passes, and_assoc]
    rw [hpasses]
    refine logged_change_iff (f := deletion name) (fun _ _ => rfl)
      ((enters_configureChannel hid htarget).bind_keeps fun _ => keeps_publishSystemMessage _ _ _)
      (fun _ => ?_) (auditEvents_upsertChannel hok) hchange
    exact keeps_deletion_configureChannel.bind fun _ => keeps_of_messages (fun _ _ => rfl) _ _ _
  constructor
  · rintro hall ⟨-, hlands, hperm, name, hname, hmain, hdays, ⟨db', id⟩, hok⟩
    exact (hrest name db' id hname hok).mp (hall hperm name hname hmain hdays hlands db' id hok)
  · intro hall hperm name hname hmain hdays hlands db' id hok
    exact (hrest name db' id hname hok).mpr
      (hall ⟨by simp [Plan.Passes], hlands, hperm, name, hname, hmain, hdays, _, hok⟩)

/-- A ban is a new row. -/
lemma addBan_ok_iff {banId : Uuid} {request : BanRequest} {channelId : Option Uuid}
    {db db' : Database} {now : Millis} {u : Unit} :
    addBan banId actor request channelId db now = .ok (db', u) ↔
      (∀ b ∈ db.userBans, b.id ≠ banId) ∧ db' = db.addBan
        { id := banId, userId := request.userId, channelId := channelId,
          reason := trim request.reason, createdBy := some actor.id,
          expiresAt := request.expiresAt, createdAt := now } := by
  rw [addBan]
  split
  · rename_i hold
    refine iff_of_false (by simp) fun h => ?_
    obtain ⟨b, hb, hid⟩ := hold
    exact h.1 b hb hid
  · rename_i hnew
    rw [Except.ok.injEq, Prod.mk.injEq, and_iff_left rfl, eq_comm, iff_and_self]
    exact fun _ b hb hid => hnew ⟨b, hb, hid⟩

/-- What holds afterwards does not depend on the channel of the ban. -/
lemma after_banChannel_bind_iff {β : Type} {P : Shared → Prop} {request : BanRequest} {p : Prop}
    {g : Option Uuid → App β} (hs : P s) (hg : ∀ channelId, P (after (g channelId) s) ↔ p) :
    P (after (banChannel fault request >>= g) s) ↔
      ((request.channel.isSome → fault (.query 1) = none) ∧
        (∀ name ∈ request.channel, ∃ c, liveChannel name s.db = .ok c) → p) := by
  rw [banChannel]
  cases request.channel with
  | none =>
      rw [pure_bind, hg]
      simp
  | some name =>
      rw [bind_assoc, after_ask_bind_iff hs]
      simp only [pure_bind, hg]
      simp

lemma logged_adminCreateBan_iff {banId : Uuid} {request : BanRequest} :
    Logged SameTables audits (IsAudit actor.id "user.banned" "user" (some request.userId)) s
        (after (adminCreateBan fault banId actor request) s) ↔
      (fault.Passes [.query 0] ∧ Lands fault (.statement 0) ∧
          (request.channel.isSome → fault (.query 1) = none) ∧
          requirePermission actor .moderationWrite = .ok ⟨⟩ ∧ checkBan request s.now = .ok ⟨⟩ ∧
          checkBanned request.userId s.db = .ok ⟨⟩ ∧
          (∀ name ∈ request.channel, ∃ c, liveChannel name s.db = .ok c) ∧
          (∀ b ∈ s.db.userBans, b.id ≠ banId) →
        fault (.statement 0) = none ∧ fault.Records) := by
  have hself := logged_self (IsAudit actor.id "user.banned" "user" (some request.userId)) s
  have hnew : ∀ channelId db' (u : Unit),
      addBan banId actor request channelId s.db s.now = .ok (db', ⟨⟩) →
      (Logged SameTables audits (IsAudit actor.id "user.banned" "user" (some request.userId)) s
        (after (answer fault (.statement 0) u >>= fun _ =>
          recordAuditPool fault actor.id "user.banned" "user" request.userId
            [("reason", .text (trim request.reason)), ("channel_id", .ofId? channelId)])
          (s.setDb db')) ↔ fault (.statement 0) = none ∧ fault.Records) := by
    intro channelId db' u hok
    obtain ⟨-, rfl⟩ := addBan_ok_iff.mp hok
    exact logged_change_iff (f := Database.userBans) (fun _ _ => rfl)
      (enters_recordAuditPool rfl _) (fun _ => keeps_recordAuditPool (fun _ _ => rfl) _ _ _ _ _) rfl
      (by simp [Database.addBan])
  have hrest : ∀ channelId, Logged SameTables audits
      (IsAudit actor.id "user.banned" "user" (some request.userId)) s
      (after (exec fault (.statement 0) (addBan banId actor request channelId) >>= fun _ =>
        recordAuditPool fault actor.id "user.banned" "user" request.userId
          [("reason", .text (trim request.reason)), ("channel_id", .ofId? channelId)]) s) ↔
      (Lands fault (.statement 0) ∧ (∀ b ∈ s.db.userBans, b.id ≠ banId) →
        fault (.statement 0) = none ∧ fault.Records) := by
    intro channelId
    rw [after_exec_bind_iff hself, and_imp]
    refine imp_congr_right fun _ => ⟨fun h hfresh => ?_, fun h db' _ hok => ?_⟩
    · obtain ⟨db', hok⟩ : ∃ db', addBan banId actor request channelId s.db s.now =
          .ok (db', ⟨⟩) := ⟨_, addBan_ok_iff.mpr ⟨hfresh, rfl⟩⟩
      exact (hnew channelId db' _ hok).mp (h db' ⟨⟩ hok)
    · exact (hnew channelId db' _ hok).mpr (h (addBan_ok_iff.mp hok).1)
  rw [adminCreateBan, after_check_bind_iff hself, after_check_bind_iff hself,
    after_ask_bind_iff hself]
  simp only [after_banChannel_bind_iff hself hrest]
  constructor
  · rintro hall ⟨hquery, hlands, hquery', hperm, hban, huser, hchannel, hfresh⟩
    exact hall hperm hban (Plan.passes_singleton.mp hquery) ⟨⟩ huser ⟨hquery', hchannel⟩
      ⟨hlands, hfresh⟩
  · rintro hall hperm hban hquery _ huser ⟨hquery', hchannel⟩ ⟨hlands, hfresh⟩
    exact hall ⟨Plan.passes_singleton.mpr hquery, hlands, hquery', hperm, hban, huser, hchannel,
      hfresh⟩

end Late

/-! ### Reports -/

section Reports

variable {fault : Plan} {s : Ledger} {actor : AuthUser}

lemma after_lift_check_bind_iff {β : Type} {P : Ledger → Prop}
    {f : Database → Millis → Except AppError Unit} {g : Unit → Request β} (hs : P s) :
    P (after (lift (check f) >>= g) s) ↔ (f s.db s.now = .ok ⟨⟩ → P (after (g ⟨⟩) s)) := by
  rw [after_bind, lift_run, check, run_read]
  cases f s.db s.now with
  | ok u => simp
  | error e => simpa using hs

lemma lift_attempt {α : Type} (step : Step) (x : App α) :
    lift (attempt fault step x) = attempt fault step (lift x) := by
  funext s
  change (lift (attempt fault step x)).run s = (attempt fault step (lift x)).run s
  rw [lift_run]
  match hfault : fault step with
  | none => rw [run_attempt_none hfault, run_attempt_none hfault, lift_run]
  | some (.refused e) => rw [run_attempt_refused hfault, run_attempt_refused hfault]
  | some (.lost e) => rw [run_attempt_lost hfault, run_attempt_lost hfault, after_lift]

lemma after_lift_ask_bind_iff {α β : Type} {P : Ledger → Prop} {step : Step}
    {f : Database → Millis → Except AppError α} {g : α → Request β} (hs : P s) :
    P (after (lift (ask fault step f) >>= g) s) ↔
      (fault step = none → ∀ a, f s.db s.now = .ok a → P (after (g a) s)) := by
  have hread : after (lift (read fun s : Shared => f s.db s.now)) s = s := by
    rw [after_lift, after_read]
  rw [ask, lift_attempt, after_attempt_bind_iff hread hs, after_bind, lift_run, run_read]
  refine imp_congr_right fun _ => ?_
  cases f s.db s.now with
  | ok a => simp
  | error e => simpa using hs

/-- A statement on the further tables takes effect. -/
lemma after_attempt_transact_bind_iff {α β : Type} {P : Ledger → Prop} {step : Step}
    {c : Ledger → Except AppError (Ledger × α)} {g : α → Request β} (hs : P s) :
    P (after (attempt fault step (transact c) >>= g) s) ↔
      (Lands fault step → ∀ r, c s = .ok r → P (after (answer fault step r.2 >>= g) r.1)) := by
  have hstep : LeadsTo (attempt fault step (transact c)) s
      (fun a s' => Lands fault step ∧ (transact c).run s = .ok a s') (answer fault step) :=
    leadsTo_attempt fun _ _ => transact_run_error
  rw [hstep.after_bind_iff hs]
  constructor
  · intro hall hlands r hr
    refine hall r.2 r.1 ⟨hlands, ?_⟩
    rw [run_transact, hr]
  · rintro hall a s' ⟨hlands, hrun⟩
    rw [run_transact] at hrun
    cases hr : c s with
    | error e =>
        rw [hr] at hrun
        exact absurd hrun (by simp)
    | ok r =>
        rw [hr] at hrun
        obtain ⟨rfl, rfl⟩ := EStateM.Result.ok.inj hrun
        exact hall hlands r hr

lemma enters_lift {α : Type} {x : App α} {Q : AuditRow → Prop} {p : Prop}
    (h : Enters audits Q x s.toShared p) : Enters Ledger.audits Q (lift x) s p := by
  constructor
  · intro hp
    rw [after_lift]
    exact h.entry hp
  · intro hp
    rw [after_lift]
    exact h.stays hp

/-- The audit row behind a change of the reports. -/
lemma logged_reports_iff {α : Type} {a : α} {user : Uuid} {action targetType : String}
    {target : Option Uuid} {metadata : List (String × AuditValue)} {reports : List ReportRow}
    (targetId : α → Uuid) (htarget : target = some (targetId a)) :
    Logged SameData Ledger.audits (IsAudit user action targetType target) s
        (after (answer fault (.statement 0) a >>= fun a =>
          lift (recordAuditPool fault user action targetType (targetId a) metadata))
          { s with reports := reports }) ↔
      (reports ≠ s.reports → fault (.statement 0) = none ∧ fault.Records) := by
  have hsame : SameData s { s with reports := reports } ↔ reports = s.reports :=
    ⟨fun h => h.reports, fun h => ⟨rfl, rfl, rfl, rfl, h⟩⟩
  have hafter : SameData s (after (answer fault (.statement 0) a >>= fun a =>
      lift (recordAuditPool fault user action targetType (targetId a) metadata))
        { s with reports := reports }) ↔ reports = s.reports := by
    rw [after_bind, run_answer]
    match fault (.statement 0) with
    | none =>
        let f : Database → Database := fun db => { db with auditEvents := s.db.auditEvents }
        have hkeeps : Keeps (fun t : Shared => f t.db)
            (recordAuditPool fault user action targetType (targetId a) metadata) :=
          keeps_recordAuditPool (fun _ _ => rfl) _ _ _ _ _
        simp only [after_lift]
        exact ⟨fun h => h.reports, fun h => ⟨hkeeps s.toShared, rfl, rfl, rfl, h⟩⟩
    | some (.refused e) => exact hsame
    | some (.lost e) => exact hsame
  have hentry : Enters Ledger.audits (IsAudit user action targetType target)
      (lift (recordAuditPool fault user action targetType (targetId a) metadata))
      { s with reports := reports } fault.Records :=
    enters_lift (enters_recordAuditPool htarget _)
  have hprogram : Enters Ledger.audits (IsAudit user action targetType target)
      (answer fault (.statement 0) a >>= fun a =>
        lift (recordAuditPool fault user action targetType (targetId a) metadata))
      { s with reports := reports } (fault (.statement 0) = none ∧ fault.Records) :=
    enters_answer_bind hentry
  have haudits : Ledger.audits { s with reports := reports } = s.audits := rfl
  rw [logged_iff_of_enters hprogram haudits (hafter.trans hsame.symm), hsame]

/-- The report of a user on a message. -/
lemma upsertReport_id {row : ReportRow} {reports : List ReportRow} {r : List ReportRow × Uuid}
    (h : upsertReport row reports = .ok r) :
    ((reports.find? fun r => r.messageId = row.messageId ∧
      r.reporterUserId = row.reporterUserId).map ReportRow.id).getD row.id = r.2 := by
  rw [upsertReport] at h
  split at h
  · rename_i old hold
    rw [hold]
    exact congrArg Prod.snd (Except.ok.inj h)
  · rename_i hnone
    rw [hnone]
    split at h
    · exact absurd h (by simp)
    · exact congrArg Prod.snd (Except.ok.inj h)

lemma logged_reportMessage_iff {reportId messageId : Uuid} {rawReason : String} :
    Logged SameData Ledger.audits (IsAudit actor.id "report.created" "message_report"
          (some (((s.reports.find? fun r => r.messageId = messageId ∧
            r.reporterUserId = actor.id).map ReportRow.id).getD reportId))) s
        (after (reportMessage fault reportId actor messageId rawReason) s) ↔
      (fault.Passes [.query 0, .query 1] ∧ Lands fault (.statement 0) ∧
          checkReason (trim rawReason) = .ok ⟨⟩ ∧
          (∃ name, messageChannel s.db messageId actor.id = .ok name ∧
            ensureChannelAccess s.db s.now name actor.id = .ok ⟨⟩ ∧
            ∃ r, upsertReport (reportRow reportId messageId actor (trim rawReason) s.now)
              s.reports = .ok r ∧ r.1 ≠ s.reports) →
        fault (.statement 0) = none ∧ fault.Records) := by
  have hself := ledger_self (IsAudit actor.id "report.created" "message_report"
    (some (((s.reports.find? fun r => r.messageId = messageId ∧
      r.reporterUserId = actor.id).map ReportRow.id).getD reportId))) s
  rw [reportMessage, after_lift_check_bind_iff hself, after_lift_ask_bind_iff hself]
  simp only [after_lift_ask_bind_iff hself, after_attempt_transact_bind_iff hself]
  constructor
  · rintro hall ⟨hsteps, hlands, hreason, name, hname, haccess, r, hr, hne⟩
    obtain ⟨hquery, hquery'⟩ : fault (.query 0) = none ∧ fault (.query 1) = none := by
      simpa [Plan.Passes] using hsteps
    have hid : (((s.reports.find? fun r => r.messageId = messageId ∧
        r.reporterUserId = actor.id).map ReportRow.id).getD reportId) = r.2 := upsertReport_id hr
    refine (logged_reports_iff (fun id => id) (congrArg some hid)).mp (hall hreason hquery name
      hname hquery' ⟨⟩ haccess hlands ({ s with reports := r.1 }, r.2) ?_) hne
    rw [hr]
    rfl
  · intro hall hreason hquery name hname hquery' _ haccess hlands r hr
    obtain ⟨r, hupsert, rfl⟩ := map_eq_ok hr
    have hid : (((s.reports.find? fun r => r.messageId = messageId ∧
        r.reporterUserId = actor.id).map ReportRow.id).getD reportId) = r.2 :=
      upsertReport_id hupsert
    refine (logged_reports_iff (fun id => id) (congrArg some hid)).mpr fun hne =>
      hall ⟨?_, hlands, hreason, name, hname, haccess, r, hupsert, hne⟩
    simp [Plan.Passes, hquery, hquery']

lemma logged_updateMessageReport_iff {id : Uuid} {action : ReportAction} :
    Logged SameData Ledger.audits (IsAudit actor.id action.audit "message_report" (some id)) s
        (after (updateMessageReport fault actor id action) s) ↔
      (fault.Passes [] ∧ Lands fault (.statement 0) ∧
          requirePermission actor .moderationWrite = .ok ⟨⟩ ∧
          (∃ reports, applyReport action s.now actor.id id s.reports = .ok reports ∧
            reports ≠ s.reports) →
        fault (.statement 0) = none ∧ fault.Records) := by
  have hself := ledger_self (IsAudit actor.id action.audit "message_report" (some id)) s
  rw [updateMessageReport, after_lift_check_bind_iff hself, write,
    after_attempt_transact_bind_iff hself]
  constructor
  · rintro hall ⟨-, hlands, hperm, reports, hreports, hne⟩
    refine (logged_reports_iff (fun _ => id) rfl).mp (hall hperm hlands
      ({ s with reports := reports }, ⟨⟩) ?_) hne
    rw [hreports]
    rfl
  · intro hall hperm hlands r hr
    obtain ⟨s1, hs1, rfl⟩ := map_eq_ok hr
    obtain ⟨reports, hreports, rfl⟩ := map_eq_ok hs1
    exact (logged_reports_iff (fun _ => id) rfl).mpr fun hne =>
      hall ⟨by simp [Plan.Passes], hlands, hperm, reports, hreports, hne⟩

end Reports

/-! ### Operations -/

namespace Operation

variable {fault : Plan} {U : Unicode} {s : Ledger}

lemma audited_self (U : Unicode) (op : Operation) (s : Ledger) : op.Audited U s s := by
  cases op with
  | bulkModerate actor ids action reason => exact fun m hm hne => absurd hm hne
  | openDirect channelId actor target =>
      have hself : Logged (fun s s' : Ledger => s'.db.channels = s.db.channels) Ledger.audits
        ((Operation.openDirect channelId actor target).Row (some channelId)) s s :=
        logged_of_same rfl
      exact hself
  | _ => exact ledger_self _ s

/-- Past the session. -/
lemma audited_run_iff {op : Operation} : op.Audited U s (after (op.run fault U) s) ↔
    (fault .session = none → op.Audited U s (after (op.body fault U) s)) := by
  rw [run, after_attempt_bind_iff (P := op.Audited U s) rfl (audited_self U op s), pure_bind]

/-- The audit row is in the transaction. -/
lemma audited_run_of_body {op : Operation} {p : Prop}
    (h : op.Audited U s (after (op.body fault U) s)) :
    op.Audited U s (after (op.run fault U) s) ↔ (p → True) :=
  iff_of_true (audited_run_iff.mpr fun _ => h) fun _ => trivial

/-- The audit row comes later. -/
lemma audited_run_of_body_iff {op : Operation} {steps : List Step} {p q : Prop}
    (h : op.Audited U s (after (op.body fault U) s) ↔ (fault.Passes steps ∧ p → q)) :
    op.Audited U s (after (op.run fault U) s) ↔ (fault.Passes (.session :: steps) ∧ p → q) := by
  rw [audited_run_iff, h, Plan.Passes, Plan.Passes, List.forall_mem_cons, and_assoc,
    ← and_imp]

/-- **Audit rows**: whatever fails, with or without its effect, the change of an operation has its
audit row iff an operation that changes tables before the row is written gets as far as writing
it. -/
theorem audited_iff (fault : Plan) (U : Unicode) (op : Operation) (s : Ledger) :
    op.Audited U s (after (op.run fault U) s) ↔
      (op.ChangesFirst fault U s → op.Reaches fault s) := by
  cases op with
  | createPublic channelId notice actor rawName =>
      refine audited_run_of_body (logged_lift_iff.mpr ?_)
      rw [Call.run, after_discard]
      exact logged_createPublicChannel
  | createPrivate channelId notice actor rawName =>
      refine audited_run_of_body (logged_lift_iff.mpr ?_)
      rw [Call.run, after_discard]
      exact logged_createPrivateConversation
  | openDirect channelId actor target =>
      refine audited_run_of_body ?_
      rw [Audited, body, after_lift, after_discard]
      exact logged_openDirect (s := s.toShared)
  | invite notice actor channel userId =>
      refine audited_run_of_body (logged_lift_iff.mpr ?_)
      rw [Call.run, after_discard]
      exact logged_inviteMember
  | remove notice actor channel userId =>
      exact audited_run_of_body (logged_lift_iff.mpr logged_removeMember)
  | deleteChannel actor rawName =>
      refine audited_run_of_body (logged_lift_iff.mpr ?_)
      rw [Call.run, after_discard]
      exact logged_deleteChannelService
  | leave notice actor name =>
      exact audited_run_of_body_iff (logged_lift_iff.trans logged_leaveChannel_iff)
  | promote actor name userId =>
      exact audited_run_of_body_iff (logged_lift_iff.trans (logged_setModerator_iff (by decide)))
  | demote actor name userId =>
      exact audited_run_of_body_iff (logged_lift_iff.trans (logged_setModerator_iff (by decide)))
  | transfer actor name userId =>
      exact audited_run_of_body_iff (logged_lift_iff.trans logged_transferChannelOwnership_iff)
  | adminCreate channelId notice actor request =>
      exact audited_run_of_body_iff (logged_lift_iff.trans logged_adminCreateChannel_iff)
  | adminUpdate actor id request =>
      exact audited_run_of_body (logged_lift_iff.mpr logged_adminUpdateChannel)
  | channelState notice actor id action =>
      exact audited_run_of_body (logged_lift_iff.mpr logged_adminChannelState)
  | createBan banId actor request =>
      exact audited_run_of_body_iff (logged_lift_iff.trans logged_adminCreateBan_iff)
  | revokeBan actor banId =>
      exact audited_run_of_body (logged_lift_iff.mpr logged_adminRevokeBan)
  | moderate actor id action reason =>
      exact audited_run_of_body (logged_lift_iff.mpr logged_adminModerate)
  | bulkModerate actor ids action reason =>
      refine audited_run_of_body ?_
      obtain ⟨rows, hrows, hcover⟩ := covered_adminBulkModerate (s := s.toShared)
      rw [Audited, body, after_lift]
      intro m hm hne
      obtain ⟨r, hr, hrow⟩ := hcover m hm hne
      refine ⟨r, ?_, hrow⟩
      rw [Ledger.audits, Ledger.audits, hrows, List.drop_left]
      exact hr
  | setDisabled actor user disabled => exact audited_run_of_body logged_adminSetDisabled
  | deleteUser actor user => exact audited_run_of_body logged_adminDeleteUser
  | deleteAccount actor => exact audited_run_of_body logged_deleteAccount
  | assignRole actor user role => exact audited_run_of_body logged_adminAssignRole
  | removeRole actor user role => exact audited_run_of_body logged_adminRemoveRole
  | report reportId actor messageId rawReason =>
      exact audited_run_of_body_iff logged_reportMessage_iff
  | updateReport actor id action => exact audited_run_of_body_iff logged_updateMessageReport_iff

end Operation

/-! ### A ban without its audit row -/

/-- A user who may ban. -/
def keeper : AuthUser :=
  { id := 1, email := "eve@vussa", username := "eve", roles := []
    permissions := [.moderationWrite] }

/-- A ban by that user. -/
def oneBan : Operation := .createBan 7 keeper { userId := 2, reason := "spam" }

/-- Tables with the user who is banned. -/
def oneUser : Ledger := { db := { users := [{ id := 2, username := "bob" }] }, now := 5 }

/-- The connection for the audit row cannot be acquired: the ban is there, its audit row is not. -/
theorem not_audited_ban :
    ((after (oneBan.run (Plan.only .acquire) .ascii) oneUser).db.userBans.map BanRow.id = [7] ∧
      (after (oneBan.run (Plan.only .acquire) .ascii) oneUser).audits = []) ∧
    ¬ oneBan.Audited .ascii oneUser (after (oneBan.run (Plan.only .acquire) .ascii) oneUser) := by
  have hstate : (after (oneBan.run (Plan.only .acquire) .ascii) oneUser).db.userBans.map BanRow.id =
        [7] ∧ (after (oneBan.run (Plan.only .acquire) .ascii) oneUser).audits = [] := by
    decide +kernel
  have hnot : ¬ SameData oneUser (after (oneBan.run (Plan.only .acquire) .ascii) oneUser) := by
    intro hsame
    have hbans := hsame.tables.congr (f := Database.userBans) fun _ _ => rfl
    exact absurd (hstate.1.symm.trans (congrArg _ hbans)) (by decide)
  refine ⟨hstate, fun h => ?_⟩
  obtain ⟨r, hr, -⟩ := h hnot
  rw [hstate.2] at hr
  exact absurd hr (by simp)

end Vussa.Failures
