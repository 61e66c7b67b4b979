import Vussa.Model.Server

/-!
When `handle_client_event` refuses an event: it returns an error and the tables are as before.

* `Refuses`: the outcome, with rules for the steps a handler is made of;
* `Accepts`: the checks of every arm, read in the state before the event;
* `refuses_iff`: **an event is refused exactly when its checks fail**.
-/

namespace Vussa

open Effect

/-- The computation fails, and the tables it leaves are `db`. -/
def Refuses {α : Type} (db : Database) (x : App α) (s : Shared) : Prop :=
  ∃ e s', x.run s = .error e s' ∧ s'.db = db

/-! ### Rules -/

section Rules

variable {α β : Type} {db : Database} {s : Shared}

lemma not_refuses_pure (a : α) : ¬ Refuses db (pure a : App α) s := by
  rintro ⟨e, s', hrun, -⟩
  rw [run_pure] at hrun
  exact absurd hrun (by simp)

/-- What is returned after a computation does not matter. -/
lemma refuses_bind_pure (x : App α) (f : α → β) :
    Refuses db (x >>= fun a => pure (f a)) s ↔ Refuses db x s := by
  simp only [Refuses, run_bind]
  cases hrun : x.run s with
  | ok a s' => simp
  | error e s' => simp

lemma refuses_read (hdb : s.db = db) (f : Shared → Except AppError α) (g : α → App β) :
    Refuses db (read f >>= g) s ↔ ∀ a, f s = .ok a → Refuses db (g a) s := by
  simp only [Refuses, run_bind, run_read]
  cases hf : f s with
  | ok a => simp
  | error e => simp [hdb]

lemma refuses_check (hdb : s.db = db) (f : Database → Millis → Except AppError Unit)
    (g : Unit → App β) :
    Refuses db (check f >>= g) s ↔ (f s.db s.now = .ok ⟨⟩ → Refuses db (g ⟨⟩) s) := by
  rw [check, refuses_read hdb]
  exact ⟨fun h => h ⟨⟩, fun h a ha => h ha⟩

lemma refuses_update (f : Shared → Shared) (g : Unit → App β) :
    Refuses db (update f >>= g) s ↔ Refuses db (g ⟨⟩) (f s) := Iff.rfl

lemma refuses_transact (hdb : s.db = db) (f : Shared → Except AppError (Shared × α))
    (g : α → App β) :
    Refuses db (transact f >>= g) s ↔ ∀ s' a, f s = .ok (s', a) → Refuses db (g a) s' := by
  simp only [Refuses, run_bind, run_transact]
  cases hf : f s with
  | ok p =>
      obtain ⟨s', a⟩ := p
      simp
  | error e => simp [hdb]

lemma refuses_transaction (hdb : s.db = db)
    (f : Database → Millis → Except AppError (Database × α)) (g : α → App β) :
    Refuses db (transaction f >>= g) s ↔
      ∀ db' a, f s.db s.now = .ok (db', a) → Refuses db (g a) (s.setDb db') := by
  rw [transaction, refuses_transact hdb]
  cases hf : f s.db s.now with
  | ok p =>
      obtain ⟨db', a⟩ := p
      simp [Except.map]
  | error e => simp [Except.map]

/-- A transaction whose rest never fails. -/
lemma refuses_last (hdb : s.db = db) {f : Shared → Except AppError (Shared × α)} {g : α → App β}
    (hg : ∀ a s', ¬ Refuses db (g a) s') :
    Refuses db (transact f >>= g) s ↔ ¬ (f s).isOk := by
  rw [refuses_transact hdb, isOk_iff]
  refine ⟨?_, ?_⟩
  · rintro h ⟨⟨s', a⟩, hf⟩
    exact hg a s' (h s' a hf)
  · intro h s' a hf
    exact absurd ⟨(s', a), hf⟩ h

/-- A transaction after which nothing is refused any more. -/
lemma refuses_commit (hdb : s.db = db)
    {f : Database → Millis → Except AppError (Database × α)} {g : α → App β}
    (hg : ∀ db' a, f s.db s.now = .ok (db', a) → ¬ Refuses db (g a) (s.setDb db')) :
    Refuses db (transaction f >>= g) s ↔ ¬ (f s.db s.now).isOk := by
  rw [refuses_transaction hdb, isOk_iff]
  refine ⟨?_, ?_⟩
  · rintro h ⟨⟨db', a⟩, hf⟩
    exact hg db' a hf (h db' a hf)
  · intro h db' a hf
    exact absurd ⟨(db', a), hf⟩ h

end Rules

/-! ### The audit only grows -/

/-- There are at least `n` audit rows. -/
def Audited (n : ℕ) (s : Shared) : Prop := n ≤ s.db.auditEvents.length

lemma audited_broadcast (n : ℕ) (channel : String) (event : ServerEvent) :
    Preserves (Audited n) (broadcast channel event) :=
  Preserves.update fun _ h => h

lemma audited_publishSystemMessage (n : ℕ) (notice : Uuid) (channel text : String) :
    Preserves (Audited n) (publishSystemMessage notice channel text) :=
  preserves_publishSystemMessage notice channel text (fun _ _ h => h) fun _ _ h _ _ => h

/-- Once a transaction has written its audit row, no later failure is a refusal. -/
lemma not_refuses_audited {α : Type} {x : App α} {db : Database} {s : Shared}
    (hx : Preserves (Audited (db.auditEvents.length + 1)) x)
    (h : db.auditEvents.length < s.db.auditEvents.length) : ¬ Refuses db x s := by
  rintro ⟨e, s', hrun, hdb⟩
  have hgrow := hx s h
  rw [Audited, after, hrun] at hgrow
  simp only [hdb] at hgrow
  omega

/-! ### The checks of every arm -/

/-- The checks of the `SendMessage` arm: the gates, the text, the files, and a stored message of
the client identifier or a successful insert. -/
def AcceptsSend (U : Unicode) (id : Uuid) (s : Shared) (user : AuthUser) (session : Uuid)
    (channel rawText : String) (root : Option Uuid) (rawClientId : Option String)
    (fileIds : List Uuid) : Prop :=
  let clientId := rawClientId.filter fun value => trim value ≠ ""
  Permission.chatWrite ∈ user.permissions ∧ s.rates user.id < 60 ∧
  ChannelAccess s.db s.now channel user.id ∧
  (ensureChannelPostingAccess s.db channel user).isOk ∧
  ∃ text ∈ (messageText rawText).toOption, (ensureFiles s.db user.id fileIds).isOk ∧
    ∃ retried ∈ (findRetried s.db session clientId channel text root fileIds).toOption,
      retried.isSome ∨ (saveMessage s.db
        (newMessage U s id user channel text root clientId fileIds) session user.id).isOk

/-- The checks `handle_client_event` makes of an event; `active` says whether the session key
exists. -/
def Accepts (U : Unicode) (fresh : Fresh) (s : Shared) (user : AuthUser) (session : Uuid)
    (active : Bool) (channel : String) : ClientEvent → Prop
  | .listChannels => True
  | .createChannel raw =>
      Permission.chatWrite ∈ user.permissions ∧ ¬ GloballyBanned s.db s.now user.id ∧
        ∃ name ∈ (normalizeChannelName U raw).toOption,
          (s.db.upsertChannel fresh.channel name s.now).isOk
  | .createPrivateChannel raw =>
      Permission.chatWrite ∈ user.permissions ∧ ¬ GloballyBanned s.db s.now user.id ∧
        ∃ name ∈ (normalizeChannelName U raw).toOption,
          (insertPrivateChannel fresh.channel user name s.db s.now).isOk
  | .openDirect userId =>
      Permission.chatWrite ∈ user.permissions ∧ ¬ GloballyBanned s.db s.now user.id ∧
        userId ≠ user.id ∧ (s.db.activeUser? userId).isSome ∧
        (insertDirect fresh.channel user userId s.db s.now).isOk
  | .inviteMember target userId =>
      Permission.chatWrite ∈ user.permissions ∧
        ∃ id ∈ (ownedPrivateChannel s.db target user.id).toOption,
          (insertMember id user userId s.db s.now).isOk
  | .removeMember target userId =>
      Permission.chatWrite ∈ user.permissions ∧
        ∃ id ∈ (ownedPrivateChannel s.db target user.id).toOption,
          (deleteMember id user userId s.db s.now).isOk
  | .joinChannel raw =>
      ∃ name ∈ (requestedChannel U raw).toOption, ChannelAccess s.db s.now name user.id
  | .deleteChannel raw =>
      Permission.chatModerate ∈ user.permissions ∧
        ∃ name ∈ (normalizeChannelName U raw).toOption, name ≠ mainChannel ∧
          (deleteChannel user name s.db s.now).isOk
  | .sendMessage text root clientId fileIds =>
      AcceptsSend U fresh.message s user session channel text root clientId fileIds
  | .editMessage id raw =>
      Permission.chatWrite ∈ user.permissions ∧ ChannelAccess s.db s.now channel user.id ∧
        ∃ text ∈ (messageText raw).toOption, (editMessage s.db channel id session text).isOk
  | .deleteMessage id =>
      Permission.chatWrite ∈ user.permissions ∧ ChannelAccess s.db s.now channel user.id ∧
        (deleteMessage s.db s.now channel id session
          (Permission.chatModerate ∈ user.permissions)).isOk
  | .addReaction _ emoji | .removeReaction _ emoji =>
      Permission.chatWrite ∈ user.permissions ∧ ChannelAccess s.db s.now channel user.id ∧
        (normalizeEmoji emoji).isOk
  | .typing _ | .markRead _ _ | .loadThread _ _ _ =>
      Permission.chatWrite ∈ user.permissions ∧ ChannelAccess s.db s.now channel user.id
  | .loadHistory raw _ _ =>
      ∃ name ∈ (requestedChannel U raw).toOption,
        name = channel → ChannelAccess s.db s.now name user.id
  | .heartbeat => active

/-! ### The services -/

section Services

variable {U : Unicode} {s : Shared} {actor : AuthUser}

lemma refuses_createPublicChannel {id notice : Uuid} {raw : String} :
    Refuses s.db (createPublicChannel U id notice actor raw) s ↔
      ¬ (Permission.chatWrite ∈ actor.permissions ∧ ¬ GloballyBanned s.db s.now actor.id ∧
        ∃ name ∈ (normalizeChannelName U raw).toOption, (s.db.upsertChannel id name s.now).isOk) := by
  rw [createPublicChannel, refuses_check rfl, refuses_check rfl, refuses_read rfl]
  simp only [requirePermission_eq_ok, ensureNotGloballyBanned_eq_ok, not_and, not_exists,
    mem_toOption]
  refine forall_congr' fun _ => forall_congr' fun _ => forall_congr' fun name =>
    forall_congr' fun _ => ?_
  rw [refuses_commit rfl, isOk_map]
  intro db' a hok
  refine not_refuses_audited ?_ ?_
  · exact Preserves.bind (audited_publishSystemMessage _ _ _ _) fun _ =>
      Preserves.bind (audited_broadcast _ _ _) fun _ => Preserves.pure _
  · obtain ⟨⟨db1, id'⟩, hup, hpair⟩ := map_eq_ok hok
    rw [Shared.setDb_db, ← (Prod.mk.inj hpair).1, Database.length_recordAudit]
    rcases Database.upsertChannel_ok hup with ⟨-, -, hdb⟩ | ⟨c, -, -, -, -, hdb⟩
    · rw [hdb]
      exact Nat.lt_succ_self _
    · rw [hdb]
      exact Nat.lt_succ_self _

lemma refuses_createPrivateConversation {id notice : Uuid} {raw : String} :
    Refuses s.db (createPrivateConversation U id notice actor raw) s ↔
      ¬ (Permission.chatWrite ∈ actor.permissions ∧ ¬ GloballyBanned s.db s.now actor.id ∧
        ∃ name ∈ (normalizeChannelName U raw).toOption,
          (insertPrivateChannel id actor name s.db s.now).isOk) := by
  rw [createPrivateConversation, refuses_check rfl, refuses_check rfl, refuses_read rfl]
  simp only [requirePermission_eq_ok, ensureNotGloballyBanned_eq_ok, not_and, not_exists,
    mem_toOption]
  refine forall_congr' fun _ => forall_congr' fun _ => forall_congr' fun name =>
    forall_congr' fun _ => ?_
  rw [refuses_commit rfl]
  intro db' a hok
  refine not_refuses_audited ?_ ?_
  · exact Preserves.bind (audited_publishSystemMessage _ _ _ _) fun _ =>
      Preserves.pure _
  · obtain ⟨-, rfl⟩ := insertPrivateChannel_ok hok
    rw [Shared.setDb_db, Database.length_recordAudit, Database.addMember_auditEvents]
    exact Nat.lt_succ_self _

lemma refuses_openDirect {id target : Uuid} :
    Refuses s.db (openDirect id actor target) s ↔
      ¬ (Permission.chatWrite ∈ actor.permissions ∧ ¬ GloballyBanned s.db s.now actor.id ∧
        target ≠ actor.id ∧ (s.db.activeUser? target).isSome ∧
        (insertDirect id actor target s.db s.now).isOk) := by
  rw [openDirect, refuses_check rfl, refuses_check rfl, refuses_check rfl, refuses_check rfl]
  simp only [requirePermission_eq_ok, ensureNotGloballyBanned_eq_ok, not_and]
  refine forall_congr' fun _ => forall_congr' fun _ => ?_
  have hcommit : Refuses s.db (transaction (insertDirect id actor target)) s ↔
      ¬ (insertDirect id actor target s.db s.now).isOk := by
    rw [← refuses_bind_pure (transaction (insertDirect id actor target)) (fun r => r),
      refuses_commit rfl fun _ _ _ => not_refuses_pure _]
  rw [hcommit]
  by_cases hself : target = actor.id
  · simp [hself]
  · by_cases hactive : (s.db.activeUser? target).isSome
    · simp [hself, hactive]
    · simp [hself, hactive]

lemma refuses_inviteMember {notice userId : Uuid} {channel : String} :
    Refuses s.db (inviteMember notice actor channel userId) s ↔
      ¬ (Permission.chatWrite ∈ actor.permissions ∧
        ∃ id ∈ (ownedPrivateChannel s.db channel actor.id).toOption,
          (insertMember id actor userId s.db s.now).isOk) := by
  rw [inviteMember, refuses_check rfl, refuses_read rfl]
  simp only [requirePermission_eq_ok, not_and, not_exists, mem_toOption]
  refine forall_congr' fun _ => forall_congr' fun id => forall_congr' fun _ => ?_
  rw [refuses_commit rfl]
  intro db' target hok
  rcases insertMember_ok hok with ⟨rfl, -⟩ | ⟨hsome, rfl⟩
  · exact not_refuses_pure _
  · obtain ⟨name, rfl⟩ := Option.isSome_iff_exists.mp hsome
    refine not_refuses_audited ?_ ?_
    · exact Preserves.bind (audited_publishSystemMessage _ _ _ _) fun _ =>
        Preserves.bind (Preserves.update fun _ h => h) fun _ =>
          Preserves.pure _
    · rw [Shared.setDb_db, Database.length_recordAudit, Database.addMember_auditEvents]
      exact Nat.lt_succ_self _

lemma refuses_removeMember {notice userId : Uuid} {channel : String} :
    Refuses s.db (removeMember notice actor channel userId) s ↔
      ¬ (Permission.chatWrite ∈ actor.permissions ∧
        ∃ id ∈ (ownedPrivateChannel s.db channel actor.id).toOption,
          (deleteMember id actor userId s.db s.now).isOk) := by
  rw [removeMember, refuses_check rfl, refuses_read rfl]
  simp only [requirePermission_eq_ok, not_and, not_exists, mem_toOption]
  refine forall_congr' fun _ => forall_congr' fun id => forall_congr' fun _ => ?_
  rw [refuses_commit rfl]
  intro db' target hok
  obtain rfl := deleteMember_ok hok
  refine not_refuses_audited ?_ ?_
  · exact Preserves.bind (audited_publishSystemMessage _ _ _ _) fun _ =>
      Preserves.update fun _ h => h
  · rw [Shared.setDb_db, Database.length_recordAudit]
    exact Nat.lt_succ_self _

lemma refuses_deleteChannelService {raw : String} :
    Refuses s.db (deleteChannelService U actor raw) s ↔
      ¬ (Permission.chatModerate ∈ actor.permissions ∧
        ∃ name ∈ (normalizeChannelName U raw).toOption, name ≠ mainChannel ∧
          (deleteChannel actor name s.db s.now).isOk) := by
  rw [deleteChannelService, refuses_check rfl, refuses_read rfl]
  simp only [requirePermission_eq_ok, not_and, not_exists, mem_toOption]
  refine forall_congr' fun _ => forall_congr' fun name => forall_congr' fun _ => ?_
  rw [refuses_check rfl]
  by_cases hmain : name = mainChannel
  · simp [hmain]
  · simp only [hmain, if_false, ne_eq, not_false_eq_true, forall_const]
    rw [refuses_commit rfl]
    intro db' a hok
    obtain ⟨c, -, rfl⟩ := deleteChannel_ok hok
    refine not_refuses_audited ?_ ?_
    · exact Preserves.bind (audited_broadcast _ _ _) fun _ =>
        Preserves.pure _
    · rw [Shared.setDb_db, Database.length_recordAudit]
      exact Nat.lt_succ_self _

end Services

/-! ### The arms on messages -/

section Arms

variable {U : Unicode} {s : Shared} {user : AuthUser} {session : Uuid} {channel : String}

/-- A repository call that is followed by a broadcast. -/
lemma refuses_repository_broadcast {α : Type} {f : Backend → Except RepositoryError (Backend × α)}
    {event : α → ServerEvent} {r : Reply} :
    Refuses s.db (repository f >>= fun a => broadcast channel (event a) >>= fun _ => pure r) s ↔
      ¬ (f s.toBackend).isOk := by
  rw [repository, refuses_last rfl]
  · cases f s.toBackend with
    | ok p => simp [Except.isOk, Except.toBool]
    | error e => simp [Except.isOk, Except.toBool]
  · intro a s'
    rw [broadcast, refuses_update]
    exact not_refuses_pure r

lemma refuses_editMessageEvent {id : Uuid} {raw : String} :
    Refuses s.db (editMessageEvent user session channel id raw) s ↔
      ¬ (Permission.chatWrite ∈ user.permissions ∧ ChannelAccess s.db s.now channel user.id ∧
        ∃ text ∈ (messageText raw).toOption, (editMessage s.db channel id session text).isOk) := by
  rw [editMessageEvent, refuses_check rfl, refuses_check rfl, refuses_read rfl]
  simp only [requirePermission_eq_ok, ensureChannelAccess_eq_ok, not_and, not_exists, mem_toOption]
  refine forall_congr' fun _ => forall_congr' fun _ => forall_congr' fun text =>
    forall_congr' fun _ => ?_
  rw [refuses_repository_broadcast, Backend.editMessage, isOk_map]

lemma refuses_deleteMessageEvent {id : Uuid} :
    Refuses s.db (deleteMessageEvent user session channel id) s ↔
      ¬ (Permission.chatWrite ∈ user.permissions ∧ ChannelAccess s.db s.now channel user.id ∧
        (deleteMessage s.db s.now channel id session
          (Permission.chatModerate ∈ user.permissions)).isOk) := by
  rw [deleteMessageEvent, refuses_check rfl, refuses_check rfl]
  simp only [requirePermission_eq_ok, ensureChannelAccess_eq_ok, not_and]
  refine forall_congr' fun _ => forall_congr' fun _ => ?_
  rw [refuses_repository_broadcast, Backend.deleteMessage, isOk_map]

lemma refuses_react {add : Bool} {id : Uuid} {raw : String} :
    Refuses s.db (react add user channel id raw) s ↔
      ¬ (Permission.chatWrite ∈ user.permissions ∧ ChannelAccess s.db s.now channel user.id ∧
        (normalizeEmoji raw).isOk) := by
  rw [react, refuses_check rfl, refuses_check rfl, refuses_read rfl]
  simp only [requirePermission_eq_ok, ensureChannelAccess_eq_ok, not_and, isOk_iff, not_exists,
    broadcastReaction, refuses_update, not_refuses_pure]

lemma refuses_enforceRateLimit {g : Unit → App Reply} :
    Refuses s.db (enforceRateLimit user.id >>= g) s ↔
      (s.rates user.id < 60 → Refuses s.db (g ()) (s.countRate user.id)) := by
  rw [enforceRateLimit, bind_assoc, refuses_update, refuses_read (by simp),
    Shared.countRate_rates]
  by_cases hrate : s.rates user.id < 60
  · simp only [show ¬ 60 < s.rates user.id + 1 by omega, if_false, forall_const, hrate]
    exact ⟨fun h => h (), fun h _ => h⟩
  · simp [hrate, show 60 < s.rates user.id + 1 by omega]

/-- The insert is refused when it fails and no message of the client identifier is stored. -/
lemma insertOrFind_isOk (U : Unicode) (id : Uuid) (user : AuthUser) {text : String}
    {root : Option Uuid} {clientId : Option String} {fileIds : List Uuid}
    (hnone : findRetried s.db session clientId channel text root fileIds = .ok none) :
    (insertOrFind U id user session channel text root clientId fileIds s).isOk ↔
      (saveMessage s.db (newMessage U s id user channel text root clientId fileIds) session
        user.id).isOk := by
  rw [insertOrFind, Backend.postMessage]
  cases saveMessage s.db (newMessage U s id user channel text root clientId fileIds) session
      user.id with
  | ok db' => simp [Except.map, Except.isOk, Except.toBool]
  | error e => simp [Except.map, hnone, Except.isOk, Except.toBool]

lemma refuses_sendMessage {id : Uuid} {raw : String} {root : Option Uuid}
    {clientId : Option String} {fileIds : List Uuid} :
    Refuses s.db (sendMessage U id user session channel raw root clientId fileIds) s ↔
      ¬ AcceptsSend U id s user session channel raw root clientId fileIds := by
  have hdb : (s.countRate user.id).db = s.db := rfl
  rw [sendMessage, refuses_check rfl, refuses_enforceRateLimit, refuses_check hdb,
    refuses_check hdb, refuses_read hdb]
  simp only [requirePermission_eq_ok, ensureChannelAccess_eq_ok, refuses_check hdb,
    refuses_read hdb, AcceptsSend, not_and, not_exists, mem_toOption, isOk_unit_iff]
  refine forall_congr' fun _ => forall_congr' fun _ => forall_congr' fun _ =>
    forall_congr' fun _ => forall_congr' fun text => forall_congr' fun _ =>
    forall_congr' fun _ => forall_congr' fun retried => forall_congr' fun hretried => ?_
  cases retried with
  | some existing => simp [not_refuses_pure]
  | none =>
      have hsave := insertOrFind_isOk U id user hretried
      simp only [Option.isSome_none, Bool.false_eq_true, false_or]
      rw [refuses_last hdb, hsave]
      · exact Iff.rfl
      · intro outcome s'
        cases outcome with
        | inl message =>
            simp only [broadcast, refuses_update]
            exact not_refuses_pure _
        | inr existing => exact not_refuses_pure _

end Arms

/-- **When an event is refused**: exactly when its checks fail. -/
theorem refuses_iff (U : Unicode) (fresh : Fresh) (s : Shared) (user : AuthUser) (session : Uuid)
    (active : Bool) (channel : String) (event : ClientEvent) :
    Refuses s.db (handleClientEvent U fresh user session active channel event) s ↔
      ¬ Accepts U fresh s user session active channel event := by
  cases event with
  | listChannels => simp [handleClientEvent, Accepts, not_refuses_pure]
  | createChannel name =>
      rw [handleClientEvent, refuses_bind_pure, refuses_createPublicChannel, Accepts]
  | createPrivateChannel name =>
      rw [handleClientEvent, refuses_bind_pure, refuses_createPrivateConversation, Accepts]
  | openDirect userId =>
      rw [handleClientEvent, refuses_bind_pure, refuses_openDirect, Accepts]
  | inviteMember target userId =>
      rw [handleClientEvent, refuses_bind_pure, refuses_inviteMember, Accepts]
  | removeMember target userId =>
      rw [handleClientEvent, refuses_bind_pure, refuses_removeMember, Accepts]
  | joinChannel raw =>
      rw [handleClientEvent, refuses_read rfl, Accepts]
      simp only [refuses_check rfl, ensureChannelAccess_eq_ok, not_refuses_pure, mem_toOption,
        not_exists, not_and, imp_false]
  | deleteChannel raw =>
      rw [handleClientEvent, refuses_bind_pure, refuses_deleteChannelService, Accepts]
  | deleteMessage id => rw [handleClientEvent, refuses_deleteMessageEvent, Accepts]
  | addReaction messageId emoji => rw [handleClientEvent, refuses_react, Accepts]
  | removeReaction messageId emoji => rw [handleClientEvent, refuses_react, Accepts]
  | typing typing =>
      rw [handleClientEvent, refuses_check rfl, refuses_check rfl, Accepts]
      simp only [requirePermission_eq_ok, ensureChannelAccess_eq_ok, broadcast, refuses_update,
        not_refuses_pure, not_and, imp_false]
  | markRead messageId createdAt =>
      rw [handleClientEvent, markRead, refuses_check rfl, refuses_check rfl, Accepts]
      simp only [requirePermission_eq_ok, ensureChannelAccess_eq_ok, refuses_update,
        not_refuses_pure, not_and, imp_false]
  | sendMessage text root clientId fileIds =>
      rw [handleClientEvent, refuses_sendMessage, Accepts]
  | editMessage id text => rw [handleClientEvent, refuses_editMessageEvent, Accepts]
  | loadHistory raw beforeCreatedAt beforeId =>
      rw [handleClientEvent, refuses_read rfl, Accepts]
      simp only [mem_toOption, not_exists, not_and]
      refine forall_congr' fun name => forall_congr' fun _ => ?_
      by_cases hname : name = channel
      · simp only [hname, ne_eq, not_true_eq_false, if_false, forall_const]
        rw [refuses_check rfl, ensureChannelAccess_eq_ok]
        simp only [sendPage, refuses_transact rfl, not_refuses_pure]
        simp
      · simp [hname, not_refuses_pure]
  | loadThread messageId beforeCreatedAt beforeId =>
      rw [handleClientEvent, refuses_check rfl, refuses_check rfl, Accepts]
      simp only [requirePermission_eq_ok, ensureChannelAccess_eq_ok, refuses_read rfl,
        not_refuses_pure, not_and, imp_false]
      simp
  | heartbeat =>
      rw [handleClientEvent, refuses_read rfl, Accepts]
      cases active with
      | true =>
          simp only [if_true, forall_const, refuses_read rfl, refreshPresence, broadcast,
            refuses_update, not_refuses_pure]
          simp
      | false => simp

end Vussa
