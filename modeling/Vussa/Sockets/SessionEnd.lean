import Vussa.Lib.Run
import Vussa.Sockets.Refusal

/-!
Sockets whose session key has been deleted. `handle_socket` keeps the session it was opened with;
of all events only the heartbeat looks at the key again, and a late `HSET` of `update_account` may
have left a remnant there.

* `Ended`: the whole key of a session is gone; `ended_step`: it never comes back;
* `Rejects`: a client event on a socket of the session is rejected and changes no table;
* `rejects_after_end_iff`: **after the deletion of a key** this holds along a run exactly when
  every event sent on such a socket is a heartbeat while the key has left no remnant, or fails its
  own checks.
-/

namespace Vussa

open Effect

namespace Server

/-! ### Session keys -/

lemma user?_eq_none {s : Server} {session : Uuid} :
    s.user? session = none ↔ session ∉ s.sessions.map Prod.fst := by
  rw [user?, List.lookup_eq_none_iff]
  refine ⟨?_, ?_⟩
  · intro h hmem
    obtain ⟨k, hk, rfl⟩ := List.mem_map.mp hmem
    simpa using h k hk
  · intro h k hk
    simp only [bne_iff_ne, ne_eq]
    intro heq
    exact h (List.mem_map.mpr ⟨k, hk, heq.symm⟩)

lemma onClient_sessions (U : Unicode) (s : Server) (k : Socket) (event : ClientEvent)
    (fresh : Fresh) : (s.onClient U k event fresh).sessions = s.sessions ∧
      (s.onClient U k event fresh).issued = s.issued := by
  rw [onClient]
  split
  · dsimp only
    split
    · exact ⟨rfl, rfl⟩
    · exact ⟨rfl, rfl⟩
  · dsimp only
    split
    · exact ⟨rfl, rfl⟩
    · exact ⟨rfl, rfl⟩

lemma proceed_sessions (s : Server) (k : Socket) :
    (s.proceed k).sessions = s.sessions ∧ (s.proceed k).issued = s.issued := by
  rw [proceed]
  split <;> exact ⟨rfl, rfl⟩

lemma hangUp_sessions (s : Server) (k : Socket) :
    (s.hangUp k).sessions = s.sessions ∧ (s.hangUp k).issued = s.issued := by
  rw [hangUp]
  split <;> exact ⟨rfl, rfl⟩

lemma saveName_sessions (U : Unicode) (s : Server) (n : ℕ) (r : Renaming) :
    (s.saveName U n r).sessions = s.sessions ∧ (s.saveName U n r).issued = s.issued := by
  rw [saveName]
  split <;> exact ⟨rfl, rfl⟩

/-- The `HSET` makes no key whole. -/
lemma writeUser_keys (s : Server) (session : Uuid) (user : AuthUser) :
    (s.writeUser session user).issued = s.issued ∧
      (s.writeUser session user).sessions.map Prod.fst = s.sessions.map Prod.fst := by
  rw [writeUser]
  split
  · refine ⟨rfl, ?_⟩
    rw [List.map_map]
    refine List.map_congr_left fun k _ => ?_
    rw [Function.comp_apply, apply_ite Prod.fst, ite_self]
  · exact ⟨rfl, rfl⟩

/-- The whole keys a step leaves: those before it, or one more under a fresh identifier. -/
lemma step_sessions (U : Unicode) (s : Server) (a : Act) :
    (∃ session user, session ∉ s.issued ∧ (s.step U a).sessions = (session, user) :: s.sessions ∧
      (s.step U a).issued = session :: s.issued) ∨
    ((s.step U a).issued = s.issued ∧
      ∀ id ∈ (s.step U a).sessions.map Prod.fst, id ∈ s.sessions.map Prod.fst) := by
  have hsame : ∀ {s' : Server}, s'.sessions = s.sessions ∧ s'.issued = s.issued →
      s'.issued = s.issued ∧ ∀ id ∈ s'.sessions.map Prod.fst, id ∈ s.sessions.map Prod.fst :=
    fun h => ⟨h.2, fun _ hid => h.1 ▸ hid⟩
  have hfilter : ∀ {s' : Server} {p : Uuid × AuthUser → Bool},
      s'.sessions = s.sessions.filter p ∧ s'.issued = s.issued →
        s'.issued = s.issued ∧ ∀ id ∈ s'.sessions.map Prod.fst, id ∈ s.sessions.map Prod.fst := by
    intro s' p h
    refine ⟨h.2, fun id hid => ?_⟩
    rw [h.1] at hid
    exact (List.Sublist.map _ List.filter_sublist).subset hid
  cases a with
  | login session user =>
      by_cases hissued : session ∈ s.issued
      · rw [step, if_pos hissued]
        exact Or.inr (hsame ⟨rfl, rfl⟩)
      · rw [step, if_neg hissued]
        exact Or.inl ⟨session, user, hissued, rfl, rfl⟩
  | logout session =>
      rw [step]
      split
      · exact Or.inr (hsame ⟨rfl, rfl⟩)
      · exact Or.inr (hfilter ⟨rfl, rfl⟩)
  | updateAccount session username =>
      rw [step]
      split <;> exact Or.inr (hsame ⟨rfl, rfl⟩)
  | saveUsername n =>
      rw [step]
      split
      · exact Or.inr (hsame ⟨rfl, rfl⟩)
      · split
        · exact Or.inr (hsame ⟨rfl, rfl⟩)
        · exact Or.inr (hsame (saveName_sessions U s n _))
  | writeSession n =>
      rw [step]
      split
      · exact Or.inr (hsame ⟨rfl, rfl⟩)
      · split
        · exact Or.inr (hsame ⟨rfl, rfl⟩)
        · rename_i r _ _ name _
          obtain ⟨hissued, hkeys⟩ :=
            writeUser_keys { s with renamings := s.renamings.eraseIdx n } r.session
              { r.user with username := name }
          exact Or.inr ⟨hissued, fun _ hid => hkeys ▸ hid⟩
  | listSessions session =>
      rw [step]
      split <;> exact Or.inr (hsame ⟨rfl, rfl⟩)
  | revokeSession session target =>
      rw [step]
      split
      · exact Or.inr (hsame ⟨rfl, rfl⟩)
      · split
        · exact Or.inr (hsame ⟨rfl, rfl⟩)
        · exact Or.inr (hfilter ⟨rfl, rfl⟩)
  | changePassword session =>
      rw [step]
      split
      · exact Or.inr (hsame ⟨rfl, rfl⟩)
      · exact Or.inr (hfilter ⟨rfl, rfl⟩)
  | deleteAccount session =>
      rw [step]
      split
      · exact Or.inr (hsame ⟨rfl, rfl⟩)
      · exact Or.inr (hfilter ⟨rfl, rfl⟩)
  | authInvalidate userId => exact Or.inr (hfilter ⟨rfl, rfl⟩)
  | expireSession session => exact Or.inr (hfilter ⟨rfl, rfl⟩)
  | request session request fresh =>
      rw [step]
      split <;> exact Or.inr (hsame ⟨rfl, rfl⟩)
  | connect id replica session =>
      rw [step]
      split
      · exact Or.inr (hsame ⟨rfl, rfl⟩)
      · split <;> exact Or.inr (hsame ⟨rfl, rfl⟩)
  | proceed id =>
      rw [step]
      split
      · exact Or.inr (hsame ⟨rfl, rfl⟩)
      · exact Or.inr (hsame (proceed_sessions s _))
  | client id event fresh =>
      rw [step]
      split
      · exact Or.inr (hsame ⟨rfl, rfl⟩)
      · split
        · exact Or.inr (hsame (onClient_sessions U s _ event fresh))
        · exact Or.inr (hsame ⟨rfl, rfl⟩)
  | receive replica =>
      rw [step, receive]
      split
      · exact Or.inr (hsame ⟨rfl, rfl⟩)
      · split <;> exact Or.inr (hsame ⟨rfl, rfl⟩)
  | lose replica => exact Or.inr (hsame ⟨rfl, rfl⟩)
  | forward id => exact Or.inr (hsame ⟨rfl, rfl⟩)
  | lag id => exact Or.inr (hsame ⟨rfl, rfl⟩)
  | disconnect id =>
      rw [step]
      split
      · exact Or.inr (hsame ⟨rfl, rfl⟩)
      · exact Or.inr (hsame (hangUp_sessions s _))
  | resetRate userId => exact Or.inr (hsame ⟨rfl, rfl⟩)
  | wait millis => exact Or.inr (hsame ⟨rfl, rfl⟩)

/-- The identifiers of all keys have been drawn. -/
def KeysIssued (s : Server) : Prop := ∀ id ∈ s.sessions.map Prod.fst, id ∈ s.issued

lemma keysIssued_step (U : Unicode) (s : Server) (a : Act) (h : s.KeysIssued) :
    (s.step U a).KeysIssued := by
  intro id hid
  rcases step_sessions U s a with ⟨session, user, -, hsessions, hissued⟩ | ⟨hissued, hkeys⟩
  · rw [hsessions, List.map_cons, List.mem_cons] at hid
    rw [hissued, List.mem_cons]
    exact hid.imp_right fun hold => h _ hold
  · rw [hissued]
    exact h id (hkeys id hid)

/-- The key of a session was created and is gone, or a remnant. -/
def Ended (session : Uuid) (s : Server) : Prop := session ∈ s.issued ∧ s.user? session = none

/-- A deleted key does not come back whole. -/
lemma ended_step (U : Unicode) {session : Uuid} (s : Server) (a : Act) (h : s.Ended session) :
    (s.step U a).Ended session := by
  obtain ⟨hissued, hnone⟩ := h
  rw [user?_eq_none] at hnone
  rw [Ended, user?_eq_none]
  rcases step_sessions U s a with ⟨new, user, hfresh, hsessions, hissued'⟩ | ⟨hissued', hkeys⟩
  · rw [hsessions, hissued', List.map_cons, List.mem_cons, List.mem_cons]
    refine ⟨Or.inr hissued, ?_⟩
    rintro (rfl | hmem)
    · exact hfresh hissued
    · exact hnone hmem
  · rw [hissued']
    exact ⟨hissued, fun hmem => hnone (hkeys session hmem)⟩

/-- A step that deletes a key ends its session. -/
lemma ended_of_deleted {U : Unicode} {db : Database} {now : Millis} {before : List Act} {a : Act}
    {session : Uuid} (hkey : ((Run.final (step U) (start db now) before).user? session).isSome)
    (hdel : ((Run.final (step U) (start db now) before).step U a).user? session = none) :
    ((Run.final (step U) (start db now) before).step U a).Ended session := by
  set s := Run.final (step U) (start db now) before with hs
  have hstart : (start db now).KeysIssued := fun _ hid => absurd hid List.not_mem_nil
  have hissued : s.KeysIssued := Run.final_invariant (keysIssued_step U) hstart before
  have hmem : session ∈ s.sessions.map Prod.fst := by
    by_contra hnot
    rw [user?_eq_none.mpr hnot] at hkey
    exact absurd hkey (by simp)
  refine ⟨?_, hdel⟩
  rcases step_sessions U s a with ⟨new, user, -, -, hissued'⟩ | ⟨hissued', -⟩
  · rw [hissued']
    exact List.mem_cons_of_mem _ (hissued session hmem)
  · rw [hissued']
    exact hissued session hmem

/-! ### Events on the sockets of a session -/

/-- A client event that the loop of a socket of the session takes is rejected and changes no
table. -/
def Rejects (U : Unicode) (session : Uuid) (s : Server) : Act → Prop
  | .client id event fresh => ∀ k, s.socket? id = some k → k.stage = .loop → k.session = session →
      (∃ e shared, s.reply U k event fresh = .error e shared) ∧
        (s.step U (.client id event fresh)).shared.db = s.shared.db
  | _ => True

/-- A client event that the loop of a socket of the session takes is a heartbeat while the key has
left no remnant, or fails its own checks. -/
def FailsChecks (U : Unicode) (session : Uuid) (s : Server) : Act → Prop
  | .client id event fresh => ∀ k, s.socket? id = some k → k.stage = .loop → k.session = session →
      (event = .heartbeat ∧ s.remnants.lookup session = none) ∨
        (event ≠ .heartbeat ∧ ¬ Accepts U fresh s.shared k.user session false k.channel event)
  | _ => True

/-- A failed event leaves the tables its handler left. -/
lemma onClient_error_db {U : Unicode} {s : Server} {k : Socket} {event : ClientEvent}
    {fresh : Fresh} {e : AppError} {shared : Shared}
    (h : s.reply U k event fresh = .error e shared) :
    (s.onClient U k event fresh).shared.db = shared.db := by
  simp only [onClient, h]
  split
  · rfl
  · rfl

/-- Only a heartbeat asks for the key. -/
lemma accepts_of_ne_heartbeat {U : Unicode} {fresh : Fresh} {s : Shared} {user : AuthUser}
    {session : Uuid} {active : Bool} {channel : String} {event : ClientEvent}
    (h : event ≠ .heartbeat) : Accepts U fresh s user session active channel event ↔
      Accepts U fresh s user session false channel event := by
  cases event with
  | heartbeat => exact absurd rfl h
  | _ => exact Iff.rfl

/-- On a socket of an ended session an event is rejected exactly when it is a heartbeat without a
remnant or its checks fail. -/
lemma rejects_iff {U : Unicode} {session : Uuid} {s : Server} (hended : s.Ended session) (a : Act) :
    s.Rejects U session a ↔ s.FailsChecks U session a := by
  cases a with
  | client id event fresh =>
      refine forall_congr' fun k => forall_congr' fun hk => forall_congr' fun hloop =>
        forall_congr' fun hsession => ?_
      have hkey : s.hasKey session = (s.remnants.lookup session).isSome := by
        rw [hasKey, hended.2]
        rfl
      have hrefuses := refuses_iff U fresh s.shared k.user session (s.hasKey session) k.channel event
      have hstep : s.step U (.client id event fresh) = s.onClient U k event fresh := by
        rw [step, hk]
        exact if_pos hloop
      have hreply : s.reply U k event fresh = (handleClientEvent U fresh k.user session
          (s.hasKey session) k.channel event).run s.shared := by rw [reply, hsession]
      have hchecks : ((event = .heartbeat ∧ s.remnants.lookup session = none) ∨
          (event ≠ .heartbeat ∧
            ¬ Accepts U fresh s.shared k.user session false k.channel event)) ↔
            ¬ Accepts U fresh s.shared k.user session (s.hasKey session) k.channel event := by
        by_cases hheartbeat : event = .heartbeat
        · subst hheartbeat
          have hheart : Accepts U fresh s.shared k.user session (s.hasKey session) k.channel
              .heartbeat ↔ s.hasKey session = true := Iff.rfl
          rw [hheart, hkey, Option.not_isSome_iff_eq_none]
          simp only [true_and, ne_eq, not_true_eq_false, false_and, or_false]
        · have hactive : Accepts U fresh s.shared k.user session (s.hasKey session) k.channel event ↔
              Accepts U fresh s.shared k.user session false k.channel event :=
            accepts_of_ne_heartbeat hheartbeat
          rw [hactive]
          refine ⟨fun h => ?_, fun h => .inr ⟨hheartbeat, h⟩⟩
          exact (h.resolve_left fun h => hheartbeat h.1).2
      rw [hstep, hchecks, ← hrefuses, Refuses]
      constructor
      · rintro ⟨⟨e, shared, herror⟩, hdb⟩
        rw [onClient_error_db herror] at hdb
        exact ⟨e, shared, hreply ▸ herror, hdb⟩
      · rintro ⟨e, shared, herror, hdb⟩
        rw [← hreply] at herror
        exact ⟨⟨e, shared, herror⟩, by rw [onClient_error_db herror, hdb]⟩
  | _ => exact Iff.rfl

/-- **After the end of a session**: once a step has deleted the key of a session, every later
client event on a socket of the session is rejected and changes no table, exactly when every such
event is a heartbeat while the key has left no remnant, or fails its own checks. -/
theorem rejects_after_end_iff (U : Unicode) (db : Database) (now : Millis) (before : List Act)
    (a : Act) (later : List Act) (session : Uuid)
    (hkey : ((Run.final (step U) (start db now) before).user? session).isSome)
    (hdel : ((Run.final (step U) (start db now) before).step U a).user? session = none) :
    Run.Along (step U) (Rejects U session)
        ((Run.final (step U) (start db now) before).step U a) later ↔
      Run.Along (step U) (FailsChecks U session)
        ((Run.final (step U) (start db now) before).step U a) later :=
  Run.along_congr (ended_step U) (fun _ a hended => rejects_iff hended a)
    (ended_of_deleted hkey hdel) later

/-! ### A socket that outlives its session -/

/-- Tables with the main channel only. -/
def mainOnly : Database := { channels := [{ id := 1, name := mainChannel, createdAt := 0 }] }

/-- A user who may write. -/
def ada : AuthUser :=
  { id := 30, email := "", username := "ada", roles := [], permissions := [.chatWrite] }

/-- A login and a socket of the session. -/
def loggedIn : List Act := [.login 5 ada, .connect 1 0 5, .proceed 1, .proceed 1]

/-- A heartbeat after the logout is rejected. -/
theorem heartbeat_rejected_after_logout :
    ((Run.final (step .ascii) (start mainOnly 10) loggedIn).user? 5).isSome ∧
    ((Run.final (step .ascii) (start mainOnly 10) loggedIn).step .ascii (.logout 5)).user? 5 = none ∧
    Run.Along (step .ascii) (Rejects .ascii 5)
      ((Run.final (step .ascii) (start mainOnly 10) loggedIn).step .ascii (.logout 5))
      [.client 1 .heartbeat ⟨90, 91, 92⟩] := by
  have hkey : ((Run.final (step .ascii) (start mainOnly 10) loggedIn).user? 5).isSome := by
    decide +kernel
  have hdel : ((Run.final (step .ascii) (start mainOnly 10) loggedIn).step .ascii
      (.logout 5)).user? 5 = none := by decide +kernel
  exact ⟨hkey, hdel, (rejects_after_end_iff .ascii mainOnly 10 loggedIn (.logout 5)
    [.client 1 .heartbeat ⟨90, 91, 92⟩] 5 hkey hdel).mpr
      ⟨fun _ _ _ _ => Or.inl ⟨rfl, by decide +kernel⟩, trivial⟩⟩

/-- A message sent on the socket after the logout is accepted and saved. -/
theorem message_saved_after_logout :
    ∃ s : Server,
      s = (Run.final (step .ascii) (start mainOnly 10) loggedIn).step .ascii (.logout 5) ∧
      ((Run.final (step .ascii) (start mainOnly 10) loggedIn).user? 5).isSome ∧
      s.user? 5 = none ∧
      ¬ Run.Along (step .ascii) (Rejects .ascii 5) s
        [.client 1 (.sendMessage "hi" none none []) ⟨90, 91, 92⟩] ∧
      (s.step .ascii (.client 1 (.sendMessage "hi" none none []) ⟨90, 91, 92⟩)).shared.db.messages.map
        MessageRow.text = ["hi"] := by
  refine ⟨_, rfl, by decide +kernel, by decide +kernel, ?_, by decide +kernel⟩
  rintro ⟨hrejects, -⟩
  have hopen : ((Run.final (step .ascii) (start mainOnly 10) loggedIn).step .ascii
      (.logout 5)).socket? 1 = some ⟨1, 0, 5, ada, mainChannel, [], .loop⟩ := by decide +kernel
  obtain ⟨-, hdb⟩ := hrejects _ hopen rfl rfl
  have hmessages := congrArg (fun db => db.messages.map MessageRow.text) hdb
  revert hmessages
  decide +kernel

end Server

end Vussa
