import Vussa.Valkey.Stores

/-!
The models of the sessions, of presence, of the hot histories and of the rate limits side by side
on one keyspace. Each keeps a store of its own; the commands of their steps go to the names of the
keys.

* `Models`, `Act`, `Models.step`: the models, and a step of one of them;
* `Models.moves`: the commands of a step;
* `OfSessions`, `OfPresence`, `OfHistory`, `OfLimit`: a command that one store alone knows;
* `step_sessions`, `step_presence`, `step_histories`, `step_limits`: what a step does to a store,
  its commands do;
* `models_share`: **in every run of the models the keyspace holds the store of each**.
-/

namespace Vussa.Valkey

open Keyspace Run

/-! ### The models -/

/-- The models, each with the store it keeps. -/
structure Models where
  sessions : Sessions.State := {}
  presence : Presence.State := {}
  histories : String → HotKeys := fun _ => HotKeys.empty
  limits : Limit → RateLimit.State := fun _ => {}

/-- A step of one of them; `limit` and `window` are the arguments of `enforce_rate_limit`. -/
inductive Act where
  | session (act : Sessions.Act)
  | presence (act : Presence.Act)
  /-- `store_message` -/
  | store (message : ChatMessage) (ownerSession : Uuid)
  | limit (key : Limit) (limit window : ℤ) (act : RateLimit.Act)

/-- One step. -/
def Models.step (U : Unicode) (m : Models) : Act → Models
  | .session act => { m with sessions := m.sessions.step U act }
  | .presence act => { m with presence := Presence.step m.presence act }
  | .store message ownerSession =>
      { m with
        histories := Function.update m.histories message.channel
          ((m.histories message.channel).storeMessage message ownerSession) }
  | .limit key limit window act =>
      { m with
        limits := Function.update m.limits key (RateLimit.step limit window (m.limits key) act) }

/-! ### Their commands -/

/-- The command of a task. -/
def taskMoves : Sessions.Task → List Move
  | .refresh _ _ session => [.expireSession session.id]
  | .remove _ id _ | .clear _ _ id _ => [.delSessions [id]]
  | .unlist user id _ | .drop user id _ => [.sremSession user id]
  | .rename id user => [.hsetUser id user]
  | .clearAll _ read => [.delSessions read]
  | .close user _ => [.delUserSessions user]
  | .load _ _ _ | .check _ _ _ | .readOthers _ | .readListed _ | .readOwn _ | .readInvalid _ => []

/-- The commands of a step of the sessions. -/
def sessionMoves (s : Sessions.State) : Sessions.Act → List Move
  | .createSession id csrf user => if id ∈ s.known then [] else [.createSession id csrf user]
  | .lapse id =>
      if (s.store.keys id).any Sessions.SessionHash.expires then [.delSessions [id]] else []
  | .run k _ => ((s.tasks k).map taskMoves).getD []
  | .arrive _ _ _ _ | .invalidate _ _ | .abort _ => []

/-- The command of a call of `list_presence`. -/
def listingMoves (channel : String) : Presence.Listing → List Move
  | .removing stale _ => [.sremStale channel stale]
  | .start | .fetched _ | .done _ => []

/-- The block of `refresh_presence` by a socket. -/
def refreshMoves (socket : Presence.Socket) (db : Database) (now : Millis) : List Move :=
  [.refreshPresence socket.channel (participantForUser db now socket.user)]

/-- The commands of a move of a socket. -/
def socketMoves (socket : Presence.Socket) : Presence.Move → List Move
  | .refresh db now =>
      match socket.stage with
      | .entering _ => refreshMoves socket db now
      | _ => []
  | .sync =>
      match socket.stage with
      | .syncing _ call => listingMoves socket.channel call
      | _ => []
  | .heartbeat db now =>
      match socket.stage with
      | .looping => refreshMoves socket db now
      | _ => []
  | .remove =>
      match socket.stage with
      | .switching _ | .closing | .refused =>
          [.removePresence socket.channel socket.user.id]
      | _ => []
  | .syncError | .switch _ | .enterError | .close => []

/-- The commands of a step of presence. -/
def presenceMoves (s : Presence.State) : Presence.Act → List Move
  | .move k move => (s.sockets[k]?.map fun socket => socketMoves socket move).getD []
  | .list k => (s.calls[k]?.map fun call => listingMoves call.1 call.2).getD []
  | .expire channel userId =>
      if s.Held (channel, userId) then [] else [.expirePresence channel userId]
  | .connect _ | .call _ => []

/-- The commands of `store_message`. -/
def storeMoves (k : HotKeys) (message : ChatMessage) (ownerSession : Uuid) : List Move :=
  let record := StoredMessage.fromMessage message ownerSession
  let oldIds := (k.write record).order.range 0 (-((hotHistoryLimit + 1 : ℕ) : ℤ))
  .write message.channel record ::
    if oldIds = [] then [] else [.zrem message.channel oldIds, .hdel message.channel oldIds]

/-- The command of a step of a rate limit. -/
def limitMoves (key : Limit) (window : ℤ) (s : RateLimit.State) : RateLimit.Act → List Move
  | .run k =>
      match s.calls k with
      | .start => [.incr key]
      | .expiring _ => [.expireIn key window]
      | .reading _ | .returning _ | .returned _ | .crashed => []
  | .crash _ => []
  | .expire => if (s.key.map (·.expires)).getD false then [.expireCounter key] else []

/-- The commands of a step. -/
def Models.moves (m : Models) : Act → List Move
  | .session act => sessionMoves m.sessions act
  | .presence act => presenceMoves m.presence act
  | .store message ownerSession => storeMoves (m.histories message.channel) message ownerSession
  | .limit key _ window act => limitMoves key window (m.limits key) act

/-- The commands of a run. -/
def Models.allMoves (U : Unicode) (m : Models) : List Act → List Move
  | [] => []
  | a :: as => m.moves a ++ Models.allMoves U (m.step U a) as

/-! ### A step and its commands -/

lemma exec_moves (U : Unicode) (s : Sessions.Store) (ids : List Uuid) (task : Sessions.Task) :
    (s.exec U ids task).1 = final onSessions s (taskMoves task) := by
  cases task with
  | load request header id =>
      rw [Sessions.Store.exec]
      split <;> rfl
  | check user id rest =>
      rw [Sessions.Store.exec]
      split <;> rfl
  | readOthers session =>
      rw [Sessions.Store.exec]
      split <;> rfl
  | readListed user =>
      rw [Sessions.Store.exec]
      split <;> rfl
  | readOwn user =>
      rw [Sessions.Store.exec]
      split <;> rfl
  | readInvalid user =>
      rw [Sessions.Store.exec]
      split <;> rfl
  | _ => rfl

lemma sessionMoves_step (U : Unicode) (s : Sessions.State) (act : Sessions.Act) :
    (s.step U act).store = final onSessions s.store (sessionMoves s act) := by
  cases act with
  | createSession id csrf user =>
      rw [Sessions.State.step, sessionMoves]
      split_ifs <;> rfl
  | lapse id =>
      rw [Sessions.State.step, sessionMoves]
      split_ifs <;> rfl
  | arrive k request header cookie =>
      rw [Sessions.State.step, Sessions.State.spawn]
      split_ifs <;> rfl
  | invalidate k user =>
      rw [Sessions.State.step, Sessions.State.spawn]
      split_ifs <;> rfl
  | run k ids =>
      rw [Sessions.State.step, sessionMoves]
      cases s.tasks k with
      | none => rfl
      | some task => exact exec_moves U s.store ids task
  | abort k => rfl

lemma listingMoves_next (v : Presence.Valkey) (channel : String) (call : Presence.Listing) :
    (call.next v channel).1 = final onPresence v (listingMoves channel call) := by
  cases call with
  | start =>
      rw [Presence.Listing.next]
      split_ifs <;> rfl
  | fetched ids =>
      rw [Presence.Listing.next]
      split_ifs <;> rfl
  | removing stale participants => rfl
  | done participants => rfl

/-- A move that the stage of the socket does not allow has no commands. -/
lemma socketMoves_none {v : Presence.Valkey} {socket : Presence.Socket} {move : Presence.Move}
    (h : socket.move v move = none) : socketMoves socket move = [] := by
  cases move with
  | refresh db now =>
      simp only [Presence.Socket.move, socketMoves] at h ⊢
      split at h <;> simp_all
  | sync =>
      simp only [Presence.Socket.move, socketMoves] at h ⊢
      split at h <;> simp_all
  | heartbeat db now =>
      simp only [Presence.Socket.move, socketMoves] at h ⊢
      split at h <;> simp_all
  | remove =>
      simp only [Presence.Socket.move, socketMoves] at h ⊢
      split at h <;> simp_all
  | _ => rfl

/-- What a move of a socket leaves in Valkey, its commands leave. -/
lemma socketMoves_move {v v' : Presence.Valkey} {socket socket' : Presence.Socket}
    {move : Presence.Move} (h : socket.move v move = some (v', socket')) :
    v' = final onPresence v (socketMoves socket move) := by
  cases move with
  | refresh db now =>
      cases hstage : socket.stage with
      | entering setup =>
          simp only [Presence.Socket.move, hstage, Option.some.injEq, Prod.mk.injEq] at h
          simp only [socketMoves, hstage]
          exact h.1.symm
      | _ => simp [Presence.Socket.move, hstage] at h
  | sync =>
      cases hstage : socket.stage with
      | syncing setup call =>
          simp only [socketMoves, hstage]
          rw [← listingMoves_next]
          cases call with
          | done participants =>
              simp only [Presence.Socket.move, hstage, Option.some.injEq, Prod.mk.injEq] at h
              exact h.1.symm
          | _ =>
              simp only [Presence.Socket.move, hstage, Option.some.injEq, Prod.mk.injEq] at h
              exact h.1.symm
      | _ => simp [Presence.Socket.move, hstage] at h
  | heartbeat db now =>
      cases hstage : socket.stage with
      | looping =>
          simp only [Presence.Socket.move, hstage, Option.some.injEq, Prod.mk.injEq] at h
          simp only [socketMoves, hstage]
          exact h.1.symm
      | _ => simp [Presence.Socket.move, hstage] at h
  | remove =>
      cases hstage : socket.stage with
      | switching target =>
          simp only [Presence.Socket.move, hstage, Option.some.injEq, Prod.mk.injEq] at h
          simp only [socketMoves, hstage]
          exact h.1.symm
      | closing =>
          simp only [Presence.Socket.move, hstage, Option.some.injEq, Prod.mk.injEq] at h
          simp only [socketMoves, hstage]
          exact h.1.symm
      | refused =>
          simp only [Presence.Socket.move, hstage, Option.some.injEq, Prod.mk.injEq] at h
          simp only [socketMoves, hstage]
          exact h.1.symm
      | _ => simp [Presence.Socket.move, hstage] at h
  | syncError =>
      simp only [Presence.Socket.move] at h
      split at h <;> cases h <;> rfl
  | switch target =>
      simp only [Presence.Socket.move] at h
      split at h <;> cases h
      rfl
  | enterError =>
      simp only [Presence.Socket.move] at h
      split at h <;> cases h <;> rfl
  | close =>
      simp only [Presence.Socket.move] at h
      split at h <;> cases h
      rfl

lemma presenceMoves_step (s : Presence.State) (act : Presence.Act) :
    (Presence.step s act).valkey = final onPresence s.valkey (presenceMoves s act) := by
  cases act with
  | connect user => rfl
  | move k move =>
      rw [Presence.step, presenceMoves]
      cases s.sockets[k]? with
      | none => rfl
      | some socket =>
          cases hmove : socket.move s.valkey move with
          | none =>
              rw [Option.map_some, Option.getD_some, socketMoves_none hmove]
              simp [hmove]
          | some moved =>
              obtain ⟨valkey, socket'⟩ := moved
              rw [Option.map_some, Option.getD_some, ← socketMoves_move hmove]
              simp [hmove]
  | call channel => rfl
  | list k =>
      rw [Presence.step, presenceMoves]
      cases s.calls[k]? with
      | none => rfl
      | some call => exact listingMoves_next s.valkey call.1 call.2
  | expire channel userId =>
      rw [Presence.step, presenceMoves]
      split_ifs <;> rfl

lemma storeMoves_step (k : HotKeys) (message : ChatMessage) (ownerSession : Uuid) :
    k.storeMessage message ownerSession =
      final (onHistory message.channel) k (storeMoves k message ownerSession) := by
  rw [HotKeys.storeMessage, storeMoves]
  simp only [final_cons, onHistory, if_true]
  split_ifs <;> simp [onHistory]

lemma limitMoves_step (key : Limit) (limit window : ℤ) (s : RateLimit.State)
    (act : RateLimit.Act) :
    (RateLimit.step limit window s act).key =
      final (onCounter key) s.key (limitMoves key window s act) := by
  cases act with
  | run k =>
      rw [RateLimit.step, limitMoves]
      cases hcall : s.calls k with
      | start =>
          simp only [final_cons, final_nil, onCounter, if_true]
          exact incr_key s
      | expiring ticket =>
          simp only [final_cons, final_nil, onCounter, if_true]
          exact setExpire_key s window
      | reading ticket => rfl
      | returning ticket =>
          simp only [RateLimit.State.finish]
          split_ifs <;> rfl
      | returned ok => rfl
      | crashed => rfl
  | crash k => rfl
  | expire =>
      rw [RateLimit.step, limitMoves]
      rcases hkey : s.key with _ | ⟨count, expires⟩
      · simp [hkey]
      · cases expires <;> simp [hkey, onCounter]

/-! ### Commands on the other stores -/

/-- A store that none of some moves changes. -/
lemma final_of_same {σ : Type*} {on : σ → Move → σ} {moves : List Move}
    (h : ∀ move ∈ moves, ∀ x, on x move = x) (x : σ) : final on x moves = x := by
  induction moves with
  | nil => rfl
  | cons move moves ih =>
      rw [final_cons, h move List.mem_cons_self]
      exact ih fun move' hmove' => h move' (List.mem_cons_of_mem _ hmove')

/-- What only the sessions know. -/
def OfSessions (move : Move) : Prop :=
  (∀ v, onPresence v move = v) ∧ (∀ c k, onHistory c k move = k) ∧ ∀ l c, onCounter l c move = c

/-- What only presence knows. -/
def OfPresence (move : Move) : Prop :=
  (∀ s, onSessions s move = s) ∧ (∀ c k, onHistory c k move = k) ∧ ∀ l c, onCounter l c move = c

/-- What only the counter `key` knows. -/
def OfLimit (key : Limit) (move : Move) : Prop :=
  (∀ s, onSessions s move = s) ∧ (∀ v, onPresence v move = v) ∧
    (∀ c k, onHistory c k move = k) ∧ ∀ l, l ≠ key → ∀ c, onCounter l c move = c

/-- What only the hot history of `channel` knows. -/
def OfHistory (channel : String) (move : Move) : Prop :=
  (∀ s, onSessions s move = s) ∧ (∀ v, onPresence v move = v) ∧
    (∀ l c, onCounter l c move = c) ∧ ∀ c, c ≠ channel → ∀ k, onHistory c k move = k

lemma ofSessions_task {task : Sessions.Task} {move : Move} (h : move ∈ taskMoves task) :
    OfSessions move := by
  cases task <;> simp only [taskMoves, List.mem_singleton, List.not_mem_nil] at h <;> subst h <;>
    exact ⟨fun _ => rfl, fun _ _ => rfl, fun _ _ => rfl⟩

lemma ofSessions_moves {s : Sessions.State} {act : Sessions.Act} {move : Move}
    (h : move ∈ sessionMoves s act) : OfSessions move := by
  cases act with
  | createSession id csrf user =>
      rw [sessionMoves] at h
      split_ifs at h
      · cases h
      · rw [List.mem_singleton.mp h]
        exact ⟨fun _ => rfl, fun _ _ => rfl, fun _ _ => rfl⟩
  | lapse id =>
      rw [sessionMoves] at h
      split_ifs at h
      · rw [List.mem_singleton.mp h]
        exact ⟨fun _ => rfl, fun _ _ => rfl, fun _ _ => rfl⟩
      · cases h
  | run k ids =>
      rw [sessionMoves] at h
      cases htask : s.tasks k with
      | none =>
          rw [htask] at h
          cases h
      | some task =>
          rw [htask] at h
          exact ofSessions_task h
  | _ => cases h

lemma ofPresence_listing {channel : String} {call : Presence.Listing} {move : Move}
    (h : move ∈ listingMoves channel call) : OfPresence move := by
  cases call with
  | removing stale participants =>
      rw [List.mem_singleton.mp h]
      exact ⟨fun _ => rfl, fun _ _ => rfl, fun _ _ => rfl⟩
  | _ => cases h

lemma ofPresence_refresh {socket : Presence.Socket} {db : Database} {now : Millis} {move : Move}
    (h : move ∈ refreshMoves socket db now) : OfPresence move := by
  rw [List.mem_singleton.mp h]
  exact ⟨fun _ => rfl, fun _ _ => rfl, fun _ _ => rfl⟩

lemma ofPresence_socket {socket : Presence.Socket} {act : Presence.Move} {move : Move}
    (h : move ∈ socketMoves socket act) : OfPresence move := by
  cases act with
  | refresh db now =>
      simp only [socketMoves] at h
      split at h
      · exact ofPresence_refresh h
      · cases h
  | sync =>
      simp only [socketMoves] at h
      split at h
      · exact ofPresence_listing h
      · cases h
  | heartbeat db now =>
      simp only [socketMoves] at h
      split at h
      · exact ofPresence_refresh h
      · cases h
  | remove =>
      simp only [socketMoves] at h
      split at h
      · rw [List.mem_singleton.mp h]
        exact ⟨fun _ => rfl, fun _ _ => rfl, fun _ _ => rfl⟩
      · rw [List.mem_singleton.mp h]
        exact ⟨fun _ => rfl, fun _ _ => rfl, fun _ _ => rfl⟩
      · rw [List.mem_singleton.mp h]
        exact ⟨fun _ => rfl, fun _ _ => rfl, fun _ _ => rfl⟩
      · cases h
  | _ => cases h

lemma ofPresence_moves {s : Presence.State} {act : Presence.Act} {move : Move}
    (h : move ∈ presenceMoves s act) : OfPresence move := by
  cases act with
  | move k act =>
      rw [presenceMoves] at h
      cases hsocket : s.sockets[k]? with
      | none =>
          rw [hsocket] at h
          cases h
      | some socket =>
          rw [hsocket] at h
          exact ofPresence_socket h
  | list k =>
      rw [presenceMoves] at h
      cases hcall : s.calls[k]? with
      | none =>
          rw [hcall] at h
          cases h
      | some call =>
          rw [hcall] at h
          exact ofPresence_listing h
  | expire channel userId =>
      rw [presenceMoves] at h
      split_ifs at h
      · cases h
      · rw [List.mem_singleton.mp h]
        exact ⟨fun _ => rfl, fun _ _ => rfl, fun _ _ => rfl⟩
  | _ => cases h

lemma ofLimit_moves {key : Limit} {window : ℤ} {s : RateLimit.State} {act : RateLimit.Act}
    {move : Move} (h : move ∈ limitMoves key window s act) : OfLimit key move := by
  cases act with
  | run k =>
      simp only [limitMoves] at h
      split at h
      · rw [List.mem_singleton.mp h]
        exact ⟨fun _ => rfl, fun _ => rfl, fun _ _ => rfl, fun l hl c => if_neg hl.symm⟩
      · rw [List.mem_singleton.mp h]
        exact ⟨fun _ => rfl, fun _ => rfl, fun _ _ => rfl, fun l hl c => if_neg hl.symm⟩
      all_goals cases h
  | crash k => cases h
  | expire =>
      rw [limitMoves] at h
      split_ifs at h
      · rw [List.mem_singleton.mp h]
        exact ⟨fun _ => rfl, fun _ => rfl, fun _ _ => rfl, fun l hl c => if_neg hl.symm⟩
      · cases h

lemma ofHistory_moves {k : HotKeys} {message : ChatMessage} {ownerSession : Uuid} {move : Move}
    (h : move ∈ storeMoves k message ownerSession) : OfHistory message.channel move := by
  rw [storeMoves] at h
  rcases List.mem_cons.mp h with rfl | h
  · exact ⟨fun _ => rfl, fun _ => rfl, fun _ _ => rfl, fun c hc k => if_neg hc.symm⟩
  · split_ifs at h
    · cases h
    · rcases List.mem_pair.mp h with rfl | rfl
      · exact ⟨fun _ => rfl, fun _ => rfl, fun _ _ => rfl, fun c hc k => if_neg hc.symm⟩
      · exact ⟨fun _ => rfl, fun _ => rfl, fun _ _ => rfl, fun c hc k => if_neg hc.symm⟩

/-! ### A step of the models -/

section Step

variable (U : Unicode) (m : Models) (a : Act)

lemma step_sessions : (m.step U a).sessions.store =
    final onSessions m.sessions.store (m.moves a) := by
  cases a with
  | session act => exact sessionMoves_step U m.sessions act
  | presence act => exact (final_of_same (fun _ h => (ofPresence_moves h).1) _).symm
  | store message owner => exact (final_of_same (fun _ h => (ofHistory_moves h).1) _).symm
  | limit key limit window act => exact (final_of_same (fun _ h => (ofLimit_moves h).1) _).symm

lemma step_presence : (m.step U a).presence.valkey =
    final onPresence m.presence.valkey (m.moves a) := by
  cases a with
  | session act => exact (final_of_same (fun _ h => (ofSessions_moves h).1) _).symm
  | presence act => exact presenceMoves_step m.presence act
  | store message owner => exact (final_of_same (fun _ h => (ofHistory_moves h).2.1) _).symm
  | limit key limit window act => exact (final_of_same (fun _ h => (ofLimit_moves h).2.1) _).symm

lemma step_histories (c : String) :
    (m.step U a).histories c = final (onHistory c) (m.histories c) (m.moves a) := by
  cases a with
  | session act => exact (final_of_same (fun _ h => (ofSessions_moves h).2.1 c) _).symm
  | presence act => exact (final_of_same (fun _ h => (ofPresence_moves h).2.1 c) _).symm
  | store message owner =>
      by_cases h : c = message.channel
      · subst h
        simp only [Models.step, Function.update_self]
        exact storeMoves_step (m.histories message.channel) message owner
      · simp only [Models.step, Function.update_of_ne h]
        exact (final_of_same (fun _ hmove => (ofHistory_moves hmove).2.2.2 c h) _).symm
  | limit key limit window act =>
      exact (final_of_same (fun _ h => (ofLimit_moves h).2.2.1 c) _).symm

lemma step_limits (l : Limit) : ((m.step U a).limits l).key =
    final (onCounter l) (m.limits l).key (m.moves a) := by
  cases a with
  | session act => exact (final_of_same (fun _ h => (ofSessions_moves h).2.2 l) _).symm
  | presence act => exact (final_of_same (fun _ h => (ofPresence_moves h).2.2 l) _).symm
  | store message owner => exact (final_of_same (fun _ h => (ofHistory_moves h).2.2.1 l) _).symm
  | limit key limit window act =>
      by_cases h : l = key
      · subst h
        simp only [Models.step, Function.update_self]
        exact limitMoves_step l limit window (m.limits l) act
      · simp only [Models.step, Function.update_of_ne h]
        exact (final_of_same (fun _ hmove => (ofLimit_moves hmove).2.2.2 l h) _).symm

end Step

/-! ### Runs -/

/-- A store after a run, from the commands of the run. -/
lemma final_allMoves {σ : Type*} (view : Models → σ) {on : σ → Move → σ} {U : Unicode}
    (hstep : ∀ m a, view (m.step U a) = final on (view m) (m.moves a)) (m : Models)
    (as : List Act) : view (final (Models.step U) m as) = final on (view m) (m.allMoves U as) := by
  induction as generalizing m with
  | nil => rfl
  | cons a as ih => rw [final_cons, ih, hstep, Models.allMoves, final_append]

/-- **The models share one keyspace**: in every run the commands of their steps, sent to the names
of the keys, find no value of another type, no read finds one afterwards, and they leave there the
store of each model. -/
theorem models_share (U : Unicode) (as : List Act) :
    ∃ flat, layout.run (fun _ => none) ((({} : Models).allMoves U as).flatMap Move.commands) =
        some flat ∧
      (∀ k, layout.read flat k ≠ none) ∧
      sessionsOf (found flat) = (final (Models.step U) {} as).sessions.store ∧
      presenceOf (found flat) = (final (Models.step U) {} as).presence.valkey ∧
      (∀ channel, historyOf (found flat) channel =
        (final (Models.step U) {} as).histories channel) ∧
      ∀ limit, counterOf (found flat) limit = ((final (Models.step U) {} as).limits limit).key := by
  obtain ⟨flat, hrun, hread, hfound⟩ := exists_run (({} : Models).allMoves U as)
  refine ⟨flat, hrun, hread, ?_, ?_, fun channel => ?_, fun limit => ?_⟩
  · rw [final_allMoves (·.sessions.store) (step_sessions U), hfound]
    exact final_moves sessionsOf sessionsOf_step _ _
  · rw [final_allMoves (·.presence.valkey) (step_presence U), hfound]
    exact final_moves presenceOf presenceOf_step _ _
  · rw [final_allMoves (fun m => m.histories channel) (step_histories U · · channel), hfound]
    exact final_moves (historyOf · channel) (historyOf_step · · channel) _ _
  · rw [final_allMoves (fun m => (m.limits limit).key) (step_limits U · · limit), hfound]
    exact final_moves (counterOf · limit) (counterOf_step · · limit) _ _

end Vussa.Valkey
