import Vussa.Lib.Run
import Vussa.Sockets.Access
import Vussa.Sockets.Switch

/-!
Frames are forwarded from the receiver a socket got when it subscribed to its channel. Access is
checked before, by `websocket` or by the event that asks for the channel; what happens to members,
bans and channels afterwards, on the way into the channel or in it, does not reach the socket.

* `ForwardsAllowed`: whoever is forwarded a frame may read the channel it is from;
* `AllListening`: the invariant behind it, that the user of every open socket may read the channel
  it is in or on its way into;
* `SparesListeners`: no step takes a channel away from a user with an open socket in it or on its way
  into it;
* `forwards_allowed`: **in every run of such steps** frames are forwarded to readers only.
-/

namespace Vussa

open Effect

/-! ### Direct conversations -/

/-- The conversation an `open_direct` switches to has its user as a member. -/
lemma access_insertDirect {user : AuthUser} {id : Uuid} {target : Uuid} {db db' : Database}
    {now : Millis} {c : Uuid × String} (h : insertDirect id user target db now = .ok (db', c))
    (hban : ¬ Banned db now user.id c.1) : ChannelAccess db' now c.2 user.id := by
  obtain ⟨row, rfl, hlive, -, hcases⟩ := insertDirect_ok h
  have hkey : user.id = (directKey user.id target).1 ∨ user.id = (directKey user.id target).2 :=
    mem_directKey user.id target
  rcases hcases with ⟨hrow, rfl⟩ | ⟨-, -, -, rfl⟩
  · refine ⟨row, by simpa using hrow, rfl, hlive, Or.inr ?_, ?_⟩
    · exact Database.member_enroll _ _ _ _ _ hkey
    · rwa [Banned, Database.enroll_userBans]
  · refine ⟨row, by simp, rfl, hlive, Or.inr ?_, ?_⟩
    · exact Database.member_enroll _ _ _ _ _ hkey
    · rwa [Banned, Database.recordAudit_userBans, Database.enroll_userBans]

namespace Server

/-! ### Listeners -/

/-- The user of a socket may read the channel it is in or on its way into, and the frames that wait
are of the channel of its receiver. -/
structure Listening (sh : Shared) (k : Socket) : Prop where
  access : ChannelAccess sh.db sh.now k.destination k.user.id
  frames : ∀ event ∈ k.frames, event.room? = some k.channel

/-- The invariant: every open socket is listening. -/
structure AllListening (s : Server) : Prop where
  wellFormed : s.shared.db.WellFormed
  nodup : (s.sockets.map Socket.id).Nodup
  listening : ∀ k ∈ s.sockets, Listening s.shared k

/-- The frame that is forwarded is of a channel that the user of the socket may read. -/
def ForwardsAllowed (s : Server) : Act → Prop
  | .forward id => ∀ k ∈ s.socket? id, k.stage = .loop → ∀ event ∈ k.frames.head?,
      ∀ c ∈ event.room?, ChannelAccess s.shared.db s.shared.now c k.user.id
  | _ => True

/-- The step takes the channel named `n` away from the user `u`. -/
def Revokes (U : Unicode) (s : Server) (n : String) (u : Uuid) : Act → Prop
  | .request session request fresh =>
      ∃ user, s.user? session = some user ∧ request.Revokes U fresh user s.shared n u
  | .client id event fresh =>
      ∃ k, s.socket? id = some k ∧ k.stage = .loop ∧ event.Revokes U fresh k.user s.shared n u
  | _ => False

/-- An event leaves its own socket in a channel its user may read: a deletion of the own channel
because the user may read the main one, an `open_direct` because the user is not banned from the
conversation, and any other event because it does not revoke the channel. -/
def Lands (U : Unicode) (fresh : Fresh) (s : Shared) (k : Socket) : ClientEvent → Prop
  | .deleteChannel raw =>
      ClientEvent.Revokes U fresh k.user s k.channel k.user.id (.deleteChannel raw) →
        ChannelAccess s.db s.now mainChannel k.user.id
  | .openDirect target => ∀ db' c,
      insertDirect fresh.channel k.user target s.db s.now = .ok (db', c) →
        ¬ Banned s.db s.now k.user.id c.1
  | event => ¬ event.Revokes U fresh k.user s k.channel k.user.id

/-- The step takes no channel away from a user with an open socket in it or on its way into it. -/
def SparesListeners (U : Unicode) (s : Server) : Act → Prop
  | .client id event fresh => ∀ k, s.socket? id = some k → k.stage = .loop →
      (∀ k' ∈ s.sockets, k'.id ≠ id →
        ¬ event.Revokes U fresh k.user s.shared k'.destination k'.user.id) ∧
      Lands U fresh s.shared k event
  | a => ∀ k ∈ s.sockets, ¬ s.Revokes U k.destination k.user.id a

variable {U : Unicode} {s : Server}

lemma socket?_some {id : ℕ} {k : Socket} (h : s.socket? id = some k) :
    k ∈ s.sockets ∧ k.id = id := by
  refine ⟨List.mem_of_find?_eq_some h, ?_⟩
  simpa using List.find?_some h

/-- In the loop a socket is in the channel of its receiver. -/
lemma destination_of_loop {k : Socket} (h : k.stage = .loop) : k.destination = k.channel := by
  rw [Socket.destination, h]

lemma AllListening.forwards (h : s.AllListening) (a : Act) : s.ForwardsAllowed a := by
  cases a with
  | forward id =>
      intro k hk hloop event hevent c hc
      have hlistening := h.listening k (socket?_some hk).1
      have hroom := hlistening.frames event (List.mem_of_mem_head? hevent)
      rw [Option.mem_def, hroom, Option.some.injEq, ← destination_of_loop hloop] at hc
      exact hc ▸ hlistening.access
  | _ => trivial

/-- **A step** takes away no access but what it revokes. -/
theorem accessKept_step (hwf : s.shared.db.WellFormed) (a : Act) :
    AccessKept s.shared (fun n u => s.Revokes U n u a) (s.step U a).shared := by
  refine holds_after_step (stable_accessKept _ _) (AccessKept.refl hwf _) a ?_
  intro s' hw
  cases hw with
  | request huser hw =>
      refine (accessKept_request hwf hw).weaken fun n u hnot hrevokes => hnot ?_
      exact ⟨_, huser, hrevokes⟩
  | client hk hloop hw =>
      refine (accessKept_event hwf hw).weaken fun n u hnot hrevokes => hnot ?_
      exact ⟨_, hk, hloop, hrevokes⟩

/-! ### The sockets of a step -/

/-- Sockets that come from listening ones whose channel was not revoked. -/
lemma AllListening.of_sockets {A : String → Uuid → Prop} (h : s.AllListening) (s' : Server)
    (hkept : AccessKept s.shared A s'.shared) (hnodup : (s'.sockets.map Socket.id).Nodup)
    (hsockets : ∀ k' ∈ s'.sockets, Listening s'.shared k' ∨
      ∃ k ∈ s.sockets, k.destination = k'.destination ∧ k.user.id = k'.user.id ∧
        ¬ A k.destination k.user.id ∧ ∀ event ∈ k'.frames, event.room? = some k'.channel) :
    s'.AllListening := by
  refine ⟨hkept.wellFormed, hnodup, fun k' hk' => ?_⟩
  rcases hsockets k' hk' with hlistening | ⟨k, hk, hdestination, huser, hA, hframes⟩
  · exact hlistening
  · have haccess := hkept.access _ _ hA (h.listening k hk).access
    rw [hdestination, huser] at haccess
    exact ⟨haccess, hframes⟩

/-- The same sockets. -/
lemma AllListening.of_same {A : String → Uuid → Prop} (h : s.AllListening) (s' : Server)
    (hkept : AccessKept s.shared A s'.shared) (hsame : s'.sockets = s.sockets)
    (hA : ∀ k ∈ s.sockets, ¬ A k.destination k.user.id) : s'.AllListening := by
  refine h.of_sockets s' hkept (by rw [hsame]; exact h.nodup) ?_
  intro k hk
  rw [hsame] at hk
  exact Or.inr ⟨k, hk, rfl, rfl, hA k hk, (h.listening k hk).frames⟩

/-- Sockets that change in their frames only. -/
lemma AllListening.of_map (h : s.AllListening) {f : Socket → Socket} (s' : Server)
    (hshared : s'.shared = s.shared) (hmap : s'.sockets = s.sockets.map f)
    (hid : ∀ k, (f k).id = k.id) (hdestination : ∀ k, (f k).destination = k.destination)
    (huser : ∀ k, (f k).user = k.user)
    (hframes : ∀ k ∈ s.sockets, ∀ event ∈ (f k).frames, event.room? = some (f k).channel) :
    s'.AllListening := by
  have hkept : AccessKept s.shared (fun _ _ => False) s'.shared := by
    rw [hshared]
    exact AccessKept.refl h.wellFormed _
  refine h.of_sockets s' hkept ?_ ?_
  · have hids : Socket.id ∘ f = Socket.id := funext hid
    rw [hmap, List.map_map, hids]
    exact h.nodup
  · intro k' hk'
    rw [hmap] at hk'
    obtain ⟨k, hk, rfl⟩ := List.mem_map.mp hk'
    exact Or.inr ⟨k, hk, (hdestination k).symm, by rw [huser], not_false, hframes k hk⟩

/-- One socket changes and may read where it is going, and the others are where they were. -/
lemma AllListening.updateSocket {A : String → Uuid → Prop} {sh : Shared} {k : Socket}
    {f : Socket → Socket} (h : s.AllListening) (hk : k ∈ s.sockets)
    (hkept : AccessKept s.shared A sh) (hid : ∀ k, (f k).id = k.id) (hown : Listening sh (f k))
    (hspares : ∀ k' ∈ s.sockets, k'.id ≠ k.id → ¬ A k'.destination k'.user.id) :
    (Server.updateSocket { s with shared := sh } k.id f).AllListening := by
  refine h.of_sockets (Server.updateSocket { s with shared := sh } k.id f) hkept ?_ ?_
  · have hids : (Socket.id ∘ fun k' : Socket => if k'.id = k.id then f k' else k') = Socket.id := by
      funext k'
      rw [Function.comp_apply, apply_ite Socket.id, hid, ite_self]
    show ((s.sockets.map _).map Socket.id).Nodup
    rw [List.map_map, hids]
    exact h.nodup
  · intro k' hk'
    obtain ⟨k1, hk1, rfl⟩ := List.mem_map.mp hk'
    by_cases hsame : k1.id = k.id
    · obtain rfl : k1 = k := List.inj_on_of_nodup_map h.nodup hk1 hk hsame
      rw [if_pos rfl]
      exact Or.inl hown
    · rw [if_neg hsame]
      exact Or.inr ⟨k1, hk1, rfl, rfl, hspares k1 hk1 hsame, (h.listening k1 hk1).frames⟩

/-- One socket ends, and the others are where they were. -/
lemma AllListening.removeSocket {A : String → Uuid → Prop} {sh : Shared} {k : Socket}
    (h : s.AllListening) (hkept : AccessKept s.shared A sh)
    (hspares : ∀ k' ∈ s.sockets, k'.id ≠ k.id → ¬ A k'.destination k'.user.id) :
    (Server.removeSocket { s with shared := sh } k).AllListening := by
  refine h.of_sockets (Server.removeSocket { s with shared := sh } k) hkept ?_ ?_
  · exact h.nodup.sublist (List.filter_sublist.map _)
  · intro k' hk'
    obtain ⟨hmem, hne⟩ := List.mem_filter.mp hk'
    exact Or.inr ⟨k', hmem, rfl, rfl, hspares k' hmem (of_decide_eq_true hne),
      (h.listening k' hmem).frames⟩

/-- The end of a loop leaves the presence too. -/
lemma AllListening.close {A : String → Uuid → Prop} {sh : Shared} {k : Socket}
    (h : s.AllListening) (hkept : AccessKept s.shared A sh)
    (hspares : ∀ k' ∈ s.sockets, k'.id ≠ k.id → ¬ A k'.destination k'.user.id)
    (channel : String) : (Server.close { s with shared := sh } k channel).AllListening :=
  h.removeSocket ((stable_accessKept _ A).leavePresence _ _ _ hkept) hspares

/-! ### The socket of an event -/

section Own

variable {k : Socket} {event : ClientEvent} {fresh : Fresh}

/-- The access that the handler of an event leaves. -/
lemma accessKept_reply (U : Unicode) (k : Socket) (event : ClientEvent) (fresh : Fresh)
    (hwf : s.shared.db.WellFormed) :
    AccessKept s.shared (fun n u => event.Revokes U fresh k.user s.shared n u)
      (after (handleClientEvent U fresh k.user k.session (s.hasKey k.session) k.channel event)
        s.shared) :=
  holds_after_event (stable_accessKept _ _) (AccessKept.refl hwf _) fun _ hw =>
    accessKept_event hwf hw

/-- An event that returned leaves its socket in a channel that its user may read. -/
lemma access_of_reply_ok (hwf : s.shared.db.WellFormed)
    (haccess : ChannelAccess s.shared.db s.shared.now k.channel k.user.id)
    (hlands : Lands U fresh s.shared k event) {r : Reply} {sh : Shared}
    (hreply : s.reply U k event fresh = .ok r sh) :
    ChannelAccess sh.db sh.now (r.switchTo.getD k.channel) k.user.id := by
  have hkept := accessKept_reply U k event fresh hwf
  rw [reply] at hreply
  rw [after, hreply] at hkept
  cases event with
  | joinChannel raw =>
      obtain ⟨name, hswitch, -, hchecked⟩ := joinChannel_ok hreply
      rw [hswitch]
      exact hchecked
  | openDirect target =>
      obtain ⟨db', id, name, hswitch, rfl, hok⟩ := openDirect_ok hreply
      rw [hswitch]
      exact access_insertDirect hok (hlands db' _ hok)
  | deleteChannel raw =>
      obtain ⟨name, hname, hmain, hperm, hok, hswitch⟩ := deleteChannel_event_ok hreply
      rw [hswitch]
      by_cases heq : k.channel = name
      · rw [if_pos heq]
        subst heq
        refine hkept.access _ _ ?_ (hlands ⟨hperm, hname, hmain, hok⟩)
        rintro ⟨-, -, hne, -⟩
        exact hne rfl
      · rw [if_neg heq]
        refine hkept.access _ _ ?_ haccess
        rintro ⟨-, hname', -, -⟩
        rw [hname, Except.ok.injEq] at hname'
        exact heq hname'.symm
  | _ =>
      have hswitch : r.switchTo = none :=
        (returns_plain _ _ _ _ hreply).2 (by simp [ClientEvent.Switches])
      rw [hswitch]
      exact hkept.access _ _ hlands haccess

/-- An event that failed leaves its socket where it was. -/
lemma access_of_reply_error (hwf : s.shared.db.WellFormed)
    (haccess : ChannelAccess s.shared.db s.shared.now k.channel k.user.id)
    (hlands : Lands U fresh s.shared k event) {e : AppError} {sh : Shared}
    (hreply : s.reply U k event fresh = .error e sh) :
    ChannelAccess sh.db sh.now k.channel k.user.id := by
  have hkept := accessKept_reply U k event fresh hwf
  rw [reply] at hreply
  rw [after, hreply] at hkept
  cases event with
  | openDirect target =>
      refine hkept.access _ _ ?_ haccess
      rintro ⟨request, hrequest, hrevokes⟩
      rw [ClientEvent.request?, Option.some.injEq] at hrequest
      subst hrequest
      exact hrevokes
  | deleteChannel raw =>
      obtain rfl := deleteChannel_event_error hreply
      exact haccess
  | _ => exact hkept.access _ _ hlands haccess

/-- A socket that stays may still read its channel. -/
lemma AllListening.stay {A : String → Uuid → Prop} {sh : Shared} (h : s.AllListening)
    (hk : k ∈ s.sockets) (hkept : AccessKept s.shared A sh)
    (hspares : ∀ k' ∈ s.sockets, k'.id ≠ k.id → ¬ A k'.destination k'.user.id)
    (haccess : ChannelAccess sh.db sh.now k.destination k.user.id) :
    AllListening { s with shared := sh } := by
  refine h.of_sockets { s with shared := sh } hkept h.nodup fun k' hk' => ?_
  by_cases hid : k'.id = k.id
  · obtain rfl : k' = k := List.inj_on_of_nodup_map h.nodup hk' hk hid
    exact Or.inl ⟨haccess, (h.listening k' hk).frames⟩
  · exact Or.inr ⟨k', hk', rfl, rfl, hspares k' hk' hid, (h.listening k' hk').frames⟩

/-- **A client event** that leaves its own socket well, and takes no channel away from the user of
another one, keeps every socket listening. -/
theorem AllListening.onClient (h : s.AllListening) (hk : k ∈ s.sockets) (hloop : k.stage = .loop)
    (hspares : ∀ k' ∈ s.sockets, k'.id ≠ k.id →
      ¬ event.Revokes U fresh k.user s.shared k'.destination k'.user.id)
    (hlands : Lands U fresh s.shared k event) :
    (Server.onClient U s k event fresh).AllListening := by
  have hkept := accessKept_reply U k event fresh h.wellFormed
  have hlistening := h.listening k hk
  have hdestination := destination_of_loop hloop
  have haccess := hdestination ▸ hlistening.access
  rw [Server.onClient]
  cases hreply : s.reply U k event fresh with
  | ok r sh =>
      have hlanded := access_of_reply_ok h.wellFormed haccess hlands hreply
      rw [reply] at hreply
      rw [after, hreply] at hkept
      cases hswitch : r.switchTo with
      | some channel =>
          rw [hswitch] at hlanded
          simp only [hswitch]
          exact h.updateSocket (f := fun k => { k with stage := .leaving channel }) hk hkept
            (fun _ => rfl) ⟨hlanded, hlistening.frames⟩ hspares
      | none =>
          rw [hswitch] at hlanded
          simp only [hswitch]
          exact h.stay hk hkept hspares (hdestination ▸ hlanded)
  | error e sh =>
      have hstays := access_of_reply_error h.wellFormed haccess hlands hreply
      rw [reply] at hreply
      rw [after, hreply] at hkept
      dsimp only
      split
      · exact h.close hkept hspares _
      · exact h.stay hk hkept hspares (hdestination ▸ hstays)

end Own

/-! ### Runs -/

/-- The room manager hands a frame only to the sockets of its room. -/
lemma AllListening.receive (h : s.AllListening) (replica : ℕ) : (s.receive replica).AllListening := by
  rw [Server.receive]
  split
  · exact h
  · rename_i topic event _
    split
    · refine h.of_map (f := fun k =>
        if k.replica = replica ∧ event.room? = some k.channel ∧ k.counted then
          { k with frames := k.frames ++ [event] }
        else k) _ rfl rfl ?_ ?_ ?_ ?_
      · intro k
        split <;> rfl
      · intro k
        split <;> rfl
      · intro k
        split <;> rfl
      · intro k hk event' hevent
        split at hevent
        · rename_i hroom
          rw [if_pos hroom]
          rcases List.mem_append.mp hevent with hold | hnew
          · exact (h.listening k hk).frames event' hold
          · rw [List.mem_singleton.mp hnew]
            exact hroom.2.1
        · rename_i hroom
          rw [if_neg hroom]
          exact (h.listening k hk).frames event' hevent
    · exact h.of_same (s.skip replica) (AccessKept.refl h.wellFormed fun _ _ => False) rfl
        fun _ _ h => h

/-- A frame that is forwarded or skipped leaves the queue. -/
lemma AllListening.nextFrame (h : s.AllListening) (id : ℕ) : (s.nextFrame id).AllListening := by
  refine h.of_map (f := fun k => if k.id = id then
    if k.stage = .loop then { k with frames := k.frames.tail } else k else k) _ rfl rfl ?_ ?_ ?_ ?_
  · intro k
    split_ifs <;> rfl
  · intro k
    split_ifs <;> rfl
  · intro k
    split_ifs <;> rfl
  · intro k hk event hevent
    have hframes := (h.listening k hk).frames event
    split_ifs at hevent ⊢
    · exact hframes (List.mem_of_mem_tail hevent)
    · exact hframes hevent
    · exact hframes hevent

/-- A new socket is on its way into the main channel, after the check of `websocket`. -/
lemma AllListening.connect (h : s.AllListening) {id replica : ℕ} {session : Uuid} {user : AuthUser}
    (hfresh : s.socket? id = none)
    (haccess : ChannelAccess s.shared.db s.shared.now mainChannel user.id) :
    (s.addSocket id replica session user).AllListening := by
  refine h.of_sockets (s.addSocket id replica session user)
    (AccessKept.refl h.wellFormed fun _ _ => False) ?_ ?_
  · have hnew : id ∉ s.sockets.map Socket.id := by
      intro hmem
      obtain ⟨k, hk, hid⟩ := List.mem_map.mp hmem
      exact absurd (decide_eq_true hid) (List.find?_eq_none.mp hfresh k hk)
    show ((s.sockets ++ [_]).map Socket.id).Nodup
    rw [List.map_append, List.nodup_append]
    refine ⟨h.nodup, List.nodup_singleton _, ?_⟩
    rintro id' hid' _ hmem rfl
    rw [List.mem_singleton.mp hmem] at hid'
    exact hnew hid'
  · intro k hk
    rcases List.mem_append.mp hk with hold | hadded
    · exact Or.inr ⟨k, hold, rfl, rfl, not_false, (h.listening k hold).frames⟩
    · rw [List.mem_singleton.mp hadded]
      exact Or.inl ⟨haccess, by simp⟩

/-- On its way into a channel a socket keeps where it is going, and drops what it heard before. -/
lemma AllListening.proceed (h : s.AllListening) {k : Socket} (hk : k ∈ s.sockets) :
    (s.proceed k).AllListening := by
  have hstable := stable_accessKept s.shared fun _ _ => False
  have hrefl := AccessKept.refl h.wellFormed fun _ _ => False
  obtain ⟨haccess, hframes⟩ := h.listening k hk
  rw [Socket.destination] at haccess
  rw [Server.proceed]
  split
  · exact h
  · rename_i target hstage
    rw [hstage] at haccess
    have hkept := hstable.leavePresence k.user k.channel _ hrefl
    exact h.updateSocket (f := fun k => { k with stage := .entering target false }) hk hkept
      (fun _ => rfl) ⟨hkept.access _ _ not_false haccess, hframes⟩ fun _ _ _ h => h
  · rename_i target setup hstage
    rw [hstage] at haccess
    exact h.updateSocket
      (f := fun k => { k with channel := target, frames := [], stage := .arriving setup }) hk hrefl
      (fun _ => rfl) ⟨haccess, by simp⟩ fun _ _ _ h => h
  · rename_i setup hstage
    rw [hstage] at haccess
    have hkept := hstable.enterChannel k.user k.channel _ hrefl
    exact h.updateSocket (f := fun k => { k with stage := .loop }) hk hkept
      (fun _ => rfl) ⟨hkept.access _ _ not_false haccess, hframes⟩ fun _ _ _ h => h

/-- A connection that breaks. -/
lemma AllListening.hangUp (h : s.AllListening) (k : Socket) : (s.hangUp k).AllListening := by
  have hrefl := AccessKept.refl h.wellFormed fun _ _ => False
  rw [Server.hangUp]
  split
  · exact h.removeSocket hrefl fun _ _ _ h => h
  · exact h.removeSocket hrefl fun _ _ _ h => h
  · exact h
  · exact h.close hrefl (fun _ _ _ h => h) _
  · exact h.close hrefl (fun _ _ _ h => h) _
  · exact h.close hrefl (fun _ _ _ h => h) _

/-- **Every step** that spares the listeners keeps every socket listening. -/
theorem AllListening.step (h : s.AllListening) (a : Act) (hspares : s.SparesListeners U a) :
    (Server.step U s a).AllListening := by
  have hkept := accessKept_step (U := U) h.wellFormed a
  cases a with
  | client id event fresh =>
      rw [Server.step]
      split
      · exact h
      · rename_i k hk
        split
        · rename_i hloop
          obtain ⟨hothers, hlands⟩ := hspares k hk hloop
          obtain ⟨hmem, rfl⟩ := socket?_some hk
          exact h.onClient hmem hloop hothers hlands
        · exact h
  | receive replica => exact h.receive replica
  | forward id => exact h.nextFrame id
  | lag id => exact h.nextFrame id
  | connect id replica session =>
      rw [Server.step]
      split
      · exact h
      · split
        · exact h
        · rename_i hcheck
          rw [not_or, Option.not_isSome_iff_eq_none, not_not] at hcheck
          exact h.connect hcheck.1 hcheck.2
  | proceed id =>
      rw [Server.step]
      split
      · exact h
      · rename_i k hk
        exact h.proceed (socket?_some hk).1
  | disconnect id =>
      rw [Server.step]
      split
      · exact h
      · exact h.hangUp _
  | request session request fresh =>
      refine h.of_same _ hkept ?_ hspares
      rw [Server.step]
      split <;> rfl
  | login session user =>
      refine h.of_same _ hkept ?_ hspares
      rw [Server.step]
      split <;> rfl
  | logout session =>
      refine h.of_same _ hkept ?_ hspares
      rw [Server.step]
      split <;> rfl
  | updateAccount session username =>
      refine h.of_same _ hkept ?_ hspares
      rw [Server.step]
      split <;> rfl
  | saveUsername n =>
      refine h.of_same _ hkept ?_ hspares
      rw [Server.step]
      split
      · rfl
      · rw [saveName]
        split
        · rfl
        · split <;> rfl
  | writeSession n =>
      refine h.of_same _ hkept ?_ hspares
      rw [Server.step]
      split
      · rfl
      · split
        · rfl
        · rw [writeUser]
          split <;> rfl
  | listSessions session =>
      refine h.of_same _ hkept ?_ hspares
      rw [Server.step]
      split <;> rfl
  | revokeSession session target =>
      refine h.of_same _ hkept ?_ hspares
      rw [Server.step]
      split
      · rfl
      · split <;> rfl
  | changePassword session =>
      refine h.of_same _ hkept ?_ hspares
      rw [Server.step]
      split <;> rfl
  | deleteAccount session =>
      refine h.of_same _ hkept ?_ hspares
      rw [Server.step]
      split <;> rfl
  | _ => exact h.of_same _ hkept rfl hspares

/-- **Frames go to readers**: in every run in which no step takes a channel away from a user with
an open socket in it or on its way into it, every frame that is forwarded is of a channel that the
user of the socket may read at that moment. -/
theorem forwards_allowed (U : Unicode) {db : Database} (hwf : db.WellFormed) (now : Millis)
    (acts : List Act) (hspares : Run.Along (step U) (SparesListeners U) (start db now) acts) :
    Run.Along (step U) ForwardsAllowed (start db now) acts := by
  have hstart : (start db now).AllListening := ⟨hwf, List.nodup_nil, by simp [start]⟩
  refine Run.Along.of_invariant (I := AllListening) ?_ ?_ hstart hspares
  · exact fun s a h hspares => h.step a hspares
  · exact fun s a h _ => h.forwards a

/-! ### A removed member -/

/-- A private channel of two members. -/
def board : Database where
  users := [{ id := 30, username := "ada", displayName := "ada" },
    { id := 31, username := "bob", displayName := "bob" }]
  channels := [{ id := 1, name := mainChannel, createdAt := 0 },
    { id := 2, name := "board", kind := .priv, ownerUserId := some 30, createdAt := 0 }]
  channelMembers :=
    [{ channelId := 2, userId := 30, membershipRole := .owner, createdAt := 0 },
      { channelId := 2, userId := 31, createdAt := 0 }]

/-- A member of the private channel. -/
def boardUser (id : Uuid) (username : String) : AuthUser :=
  { id := id, email := "", username := username, roles := [], permissions := [.chatWrite] }

/-- Both members have a socket, the first one in the private channel. -/
def boardOpened : List Act :=
  [.login 5 (boardUser 30 "ada"), .login 6 (boardUser 31 "bob"), .connect 1 0 5, .proceed 1,
    .proceed 1, .connect 2 0 6, .proceed 2, .proceed 2,
    .client 1 (.joinChannel "board") ⟨90, 91, 92⟩, .proceed 1, .proceed 1, .proceed 1]

/-- The owner removes the other member. -/
def bobRemoved : Act := .client 1 (.removeMember "board" 31) ⟨93, 94, 95⟩

/-- The owner writes. -/
def secretSent : Act := .client 1 (.sendMessage "secret" none none []) ⟨96, 97, 98⟩

/-- The other member is removed from the private channel while his socket is in the main one, and
is forwarded the frames of the main one. -/
theorem forwards_allowed_board : board.WellFormed ∧
    Run.Along (step .ascii) (SparesListeners .ascii) (start board 10)
      (boardOpened ++ [bobRemoved, .receive 0, .forward 2]) ∧
    Run.Along (step .ascii) ForwardsAllowed (start board 10)
      (boardOpened ++ [bobRemoved, .receive 0, .forward 2]) := by
  have hwf : board.WellFormed := ⟨by decide +kernel, by decide +kernel, by decide +kernel⟩
  have hspares : Run.Along (step .ascii) (SparesListeners .ascii) (start board 10)
      (boardOpened ++ [bobRemoved, .receive 0, .forward 2]) := by
    have hlisteners : ∀ k ∈ (Run.final (step .ascii) (start board 10) boardOpened).sockets,
        ¬ (k.destination = "board" ∧ k.user.id = 31) ∧ k.destination = k.channel := by
      decide +kernel
    have hremoved : ∀ k ∈ (Run.final (step .ascii) (start board 10) boardOpened).sockets, ∀ user,
        ¬ ClientEvent.Revokes .ascii ⟨93, 94, 95⟩ user
          (Run.final (step .ascii) (start board 10) boardOpened).shared k.destination k.user.id
          (.removeMember "board" 31) := by
      rintro k hk user ⟨request, hrequest, hrevokes⟩
      rw [ClientEvent.request?, Option.some.injEq] at hrequest
      subst hrequest
      exact (hlisteners k hk).1 ⟨hrevokes.1, hrevokes.2.1⟩
    rw [Run.along_append]
    refine ⟨⟨fun _ _ => id, fun _ _ => id, fun _ _ => id, fun _ _ => id, fun _ _ => id,
      fun _ _ => id, fun _ _ => id, fun _ _ => id, ?_, fun _ _ => id, fun _ _ => id, fun _ _ => id,
      trivial⟩, ?_, fun _ _ => id, fun _ _ => id, trivial⟩
    · intro k _ _
      refine ⟨?_, ?_⟩
      · rintro k' - - ⟨request, hrequest, -⟩
        exact absurd hrequest (by simp [ClientEvent.request?])
      · rintro ⟨request, hrequest, -⟩
        exact absurd hrequest (by simp [ClientEvent.request?])
    · intro k hk _
      have hmem := (socket?_some hk).1
      have hown := hremoved k hmem k.user
      rw [(hlisteners k hmem).2] at hown
      exact ⟨fun k' hk' _ => hremoved k' hk' k.user, hown⟩
  exact ⟨hwf, hspares, forwards_allowed .ascii hwf 10 _ hspares⟩

/-- The other member is in the private channel too and has been forwarded what was published;
then he is removed, and what the owner writes afterwards is received. -/
def boardLeaked : List Act :=
  boardOpened ++ [.client 2 (.joinChannel "board") ⟨90, 91, 92⟩] ++ List.replicate 3 (.proceed 2) ++
    List.replicate 6 (.receive 0) ++ [.forward 2, .forward 2, bobRemoved, secretSent] ++
    List.replicate 3 (.receive 0) ++ [.forward 2]

/-- The removed member is forwarded a message written after the removal. -/
theorem removed_member_forwarded : board.WellFormed ∧
    ¬ Run.Along (step .ascii) ForwardsAllowed (start board 10) (boardLeaked ++ [.forward 2]) := by
  refine ⟨⟨by decide +kernel, by decide +kernel, by decide +kernel⟩, fun hallowed => ?_⟩
  rw [Run.along_append] at hallowed
  have hleak : ∃ k ∈ (Run.final (step .ascii) (start board 10) boardLeaked).socket? 2,
      k.stage = .loop ∧ ∃ event ∈ k.frames.head?, ∃ c ∈ event.room?,
        ¬ ChannelAccess (Run.final (step .ascii) (start board 10) boardLeaked).shared.db
          (Run.final (step .ascii) (start board 10) boardLeaked).shared.now c k.user.id := by
    decide +kernel
  obtain ⟨k, hk, hloop, event, hevent, c, hc, hdenied⟩ := hleak
  exact hdenied (hallowed.2.1 k hk hloop event hevent c hc)

end Server

end Vussa
