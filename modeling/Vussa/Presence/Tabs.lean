import Vussa.Presence.Model

/-!
Who is listed as present. A key belongs to a user and a channel, but every socket of the user sets
and removes it on its own.

* `listed_refreshPresence`, `listed_removePresence`, `listed_srem`: what the blocks do to the list;
* `Law`: the users listed in a channel are those with a socket that is present in it;
* `Careful`: a socket removes the key of its user only as the last one there, a failed entry leaves
  another one behind, and no stale id has come back;
* `law_step_iff`: a step keeps the law exactly when it is careful;
* `listed_iff_looping`: **along careful steps, `list_presence` names a user exactly when an open
  socket of his is in the channel**; `closedTab_unlisted` is the run of two tabs that breaks it.
-/

namespace Vussa.Presence

open Holders Run

/-! ### The list -/

namespace Valkey

variable {v : Valkey} {channel : String} {key : String × Uuid}

lemma mem_users_setUsers {ids : List Uuid} {c : String} {u : Uuid} :
    u ∈ (v.setUsers channel ids).users c ↔ if c = channel then u ∈ ids else u ∈ v.users c := by
  change u ∈ Function.update v.users channel ids c ↔ _
  split_ifs with hc
  · rw [hc, Function.update_self]
  · rw [Function.update_of_ne hc]

lemma participants_setParticipant {userId : Uuid} {value : Option Participant} {c : String}
    {u : Uuid} : (v.setParticipant channel userId value).participants c u =
      if (c, u) = (channel, userId) then value else v.participants c u := by
  change Function.update v.participants channel
    (Function.update (v.participants channel) userId value) c u = _
  split_ifs with hkey
  · obtain ⟨rfl, rfl⟩ := Prod.mk.inj hkey
    rw [Function.update_self, Function.update_self]
  · rcases eq_or_ne c channel with rfl | hc
    · have hu : u ≠ userId := fun hu => hkey (by rw [hu])
      rw [Function.update_self, Function.update_of_ne hu]
    · rw [Function.update_of_ne hc]

/-- A refresh adds its key to the list. -/
lemma listed_refreshPresence {participant : Participant} :
    (v.refreshPresence channel participant).Listed key ↔
      key = (channel, participant.userId) ∨ v.Listed key := by
  obtain ⟨c, u⟩ := key
  rw [Listed, Listed, refreshPresence, participants_setParticipant]
  change u ∈ (v.setUsers channel _).users c ∧ _ ↔ _
  rw [mem_users_setUsers]
  by_cases hkey : (c, u) = (channel, participant.userId)
  · obtain ⟨rfl, rfl⟩ := Prod.mk.inj hkey
    simp
  · rw [if_neg hkey, or_iff_right hkey]
    refine and_congr_left fun _ => ?_
    split_ifs with hc
    · have hu : u ≠ participant.userId := fun hu => hkey (by rw [hc, hu])
      rw [List.mem_insert_iff, or_iff_right hu, hc]
    · exact Iff.rfl

/-- `SREM` takes its ids from the list of the channel. -/
lemma listed_srem {ids : List Uuid} :
    (v.srem channel ids).Listed key ↔ v.Listed key ∧ ¬ (key.1 = channel ∧ key.2 ∈ ids) := by
  rw [Listed, Listed, srem, mem_users_setUsers, and_right_comm]
  refine and_congr_left fun _ => ?_
  split_ifs with hc
  · simp [hc]
  · simp [hc]

/-- A key without its value is not listed. -/
lemma listed_expire {userId : Uuid} :
    (v.expire channel userId).Listed key ↔ v.Listed key ∧ key ≠ (channel, userId) := by
  obtain ⟨c, u⟩ := key
  rw [Listed, Listed, expire, participants_setParticipant, and_assoc]
  refine and_congr_right fun _ => ?_
  split_ifs with hkey
  · simp [hkey]
  · simp [hkey]

lemma listed_removePresence {userId : Uuid} :
    (v.removePresence channel userId).Listed key ↔ v.Listed key ∧ key ≠ (channel, userId) := by
  have hremove : v.removePresence channel userId =
      (v.srem channel [userId]).expire channel userId := rfl
  rw [hremove, listed_expire, listed_srem, List.mem_singleton, and_assoc]
  refine and_congr_right fun _ => and_iff_right_of_imp fun hne hkey => hne ?_
  exact Prod.ext hkey.1 hkey.2

end Valkey

/-- The ids that the next command of a call removes. -/
def Listing.dropped : Listing → List Uuid
  | .removing stale _ => stale
  | .start | .fetched _ | .done _ => []

lemma listed_next {v : Valkey} {channel : String} {call : Listing} {key : String × Uuid} :
    (call.next v channel).1.Listed key ↔
      v.Listed key ∧ ¬ (key.1 = channel ∧ key.2 ∈ call.dropped) := by
  have hsame : v.Listed key ↔ v.Listed key ∧ ¬ (key.1 = channel ∧ key.2 ∈ ([] : List Uuid)) := by
    simp
  cases call with
  | start => rw [Listing.next]; split_ifs <;> exact hsame
  | fetched ids => rw [Listing.next]; split_ifs <;> exact hsame
  | removing stale participants => exact Valkey.listed_srem
  | done participants => exact hsame

/-- Every key holds the participant of its own user. -/
def Own (v : Valkey) : Prop := ∀ c u p, v.participants c u = some p → p.userId = u

/-- `list_presence` names the users that are in the set and have a key. -/
lemma mem_listPresence_iff {v : Valkey} (hown : Own v) {channel : String} {u : Uuid} :
    (∃ p ∈ listPresence v channel, p.userId = u) ↔ v.Listed (channel, u) := by
  constructor
  · rintro ⟨p, hp, rfl⟩
    obtain ⟨id, hid, hkey⟩ := List.mem_filterMap.mp ((List.mem_insertionSort _).mp hp)
    obtain rfl := hown channel id p hkey
    exact ⟨hid, fun hnone => by rw [hkey] at hnone; cases hnone⟩
  · rintro ⟨hid, hkey⟩
    obtain ⟨p, hp⟩ := Option.ne_none_iff_exists'.mp hkey
    exact ⟨p, (List.mem_insertionSort _).mpr (List.mem_filterMap.mpr ⟨u, hid, hp⟩),
      hown channel u p hp⟩

/-! ### The law -/

/-- The users listed in a channel are those with a socket that is present in it. -/
def Law (s : State) : Prop := Mirrors Socket.held s.valkey.Listed s.sockets

/-- The ids that the next command of a socket in `sync_presence` removes. -/
def Stage.dropped : Stage → List Uuid
  | .syncing _ call => call.dropped
  | _ => []

/-- The socket is about to remove the key of its user. -/
def Stage.removes : Stage → Bool
  | .switching _ | .closing | .refused => true
  | _ => false

/-- The socket is in the `sync_presence` of its setup, whose failure ends it. -/
def Stage.inSetup : Stage → Bool
  | .syncing setup _ => setup
  | _ => false

/-- The condition on a move of the `k`-th socket. -/
def Socket.Careful (sockets : List Socket) (k : ℕ) (socket : Socket) : Move → Prop
  | .sync => ∀ u ∈ socket.stage.dropped, ¬ Holds Socket.held sockets (socket.channel, u)
  | .syncError => socket.stage.inSetup → OthersHold Socket.held sockets k socket.key
  | .remove => socket.stage.removes → ¬ OthersHold Socket.held sockets k socket.key
  | _ => True

/-- No id that the next command of a call removes has a socket that is present. -/
def State.NoneBack (s : State) (call : String × Listing) : Prop :=
  ∀ u ∈ call.2.dropped, ¬ s.Held (call.1, u)

instance (s : State) (call : String × Listing) : Decidable (s.NoneBack call) :=
  List.decidableBAll (fun u => ¬ s.Held (call.1, u)) call.2.dropped

/-- The condition on a step: a socket removes the key of its user only as the last one that is
present in the channel, an entry fails after its refresh only where another one is, and `SREM` hits
no user who is present again. -/
def Careful (s : State) : Act → Prop
  | .move k move => ∀ socket ∈ s.sockets[k]?, socket.Careful s.sockets k move
  | .list k => ∀ call ∈ s.calls[k]?, s.NoneBack call
  | .connect _ | .call _ | .expire _ _ => True

instance (sockets : List Socket) (k : ℕ) (socket : Socket) :
    ∀ move, Decidable (socket.Careful sockets k move)
  | .sync => List.decidableBAll (fun u => ¬ Holds _ _ (socket.channel, u)) socket.stage.dropped
  | .syncError => inferInstanceAs (Decidable (_ → OthersHold _ _ _ _))
  | .remove => inferInstanceAs (Decidable (_ → ¬ OthersHold _ _ _ _))
  | .refresh _ _ | .heartbeat _ _ | .switch _ | .enterError | .close => isTrue trivial

instance (s : State) : ∀ a, Decidable (Careful s a)
  | .move k move =>
      inferInstanceAs (Decidable (∀ socket ∈ s.sockets[k]?, socket.Careful s.sockets k move))
  | .list k => inferInstanceAs (Decidable (∀ call ∈ s.calls[k]?, s.NoneBack call))
  | .connect _ | .call _ | .expire _ _ => isTrue trivial

namespace Socket

variable {socket : Socket}

lemma held_of_present (h : socket.isPresent = true) : socket.held = some socket.key := by
  rw [held, if_pos h]

lemma held_of_absent (h : socket.isPresent = false) : socket.held = none := by
  rw [held, h]; rfl

lemma held_cases (socket : Socket) : socket.held = none ∨ socket.held = some socket.key := by
  rw [held]
  split_ifs
  · exact Or.inr rfl
  · exact Or.inl rfl

lemma isPresent_congr {stage : Stage} (h : socket.stage = stage) :
    socket.isPresent = (socket.goto stage).isPresent := by
  rw [isPresent, h]; rfl

end Socket

/-- The ids of one channel that `SREM` drops, as keys. -/
lemma lower_iff {v v' : Valkey} {sockets : List Socket} {channel : String} {ids : List Uuid}
    (h : Mirrors Socket.held v.Listed sockets)
    (hv : ∀ key, v'.Listed key ↔ v.Listed key ∧ ¬ (key.1 = channel ∧ key.2 ∈ ids)) :
    Mirrors Socket.held v'.Listed sockets ↔
      ∀ u ∈ ids, ¬ Holds Socket.held sockets (channel, u) := by
  rw [h.lower_iff hv]
  constructor
  · intro hall u hu
    exact hall (channel, u) ⟨rfl, hu⟩
  · rintro hall ⟨c, u⟩ ⟨rfl, hu⟩
    exact hall u hu

/-- A socket that stays present or absent in its channel keeps the law. -/
lemma law_goto {v : Valkey} {sockets : List Socket} {k : ℕ} {socket : Socket} {stage stage' : Stage}
    (h : Mirrors Socket.held v.Listed sockets) (hsocket : sockets[k]? = some socket)
    (hstage : socket.stage = stage)
    (hsame : (socket.goto stage').isPresent = (socket.goto stage).isPresent) :
    Mirrors Socket.held v.Listed (sockets.set k (socket.goto stage')) := by
  refine h.set hsocket ?_
  rw [Socket.held, Socket.held, hsame, Socket.isPresent_congr hstage]
  rfl

/-- `refresh_presence` keeps the law. -/
lemma law_refreshed {v : Valkey} {sockets : List Socket} {k : ℕ} {socket socket' : Socket}
    {db : Database} {now : Millis} (h : Mirrors Socket.held v.Listed sockets)
    (hsocket : sockets[k]? = some socket) (hheld : socket'.held = some socket.key) :
    Mirrors Socket.held (socket.refreshed v db now).Listed (sockets.set k socket') :=
  h.take hsocket socket.held_cases hheld fun _ => Valkey.listed_refreshPresence

/-- `remove_presence` keeps the law exactly when no other socket is present under the key. -/
lemma law_removed_iff {v : Valkey} {sockets : List Socket} {k : ℕ} {socket socket' : Socket}
    (h : Mirrors Socket.held v.Listed sockets) (hsocket : sockets[k]? = some socket)
    (hheld : socket'.held = none) :
    Mirrors Socket.held (socket.removed v).Listed (sockets.set k socket') ↔
      ¬ OthersHold Socket.held sockets k socket.key :=
  h.giveBack_iff hsocket socket.held_cases hheld fun _ => Valkey.listed_removePresence

/-- **A move keeps the law exactly when it is careful.** -/
lemma law_move_iff {v v' : Valkey} {sockets : List Socket} {k : ℕ} {socket socket' : Socket}
    {move : Move} (h : Mirrors Socket.held v.Listed sockets) (hsocket : sockets[k]? = some socket)
    (hmove : socket.move v move = some (v', socket')) :
    Mirrors Socket.held v'.Listed (sockets.set k socket') ↔
      socket.Careful sockets k move := by
  have hpresent : ∀ {stage : Stage}, socket.stage = stage →
      (socket.goto stage).isPresent = true → socket.held = some socket.key :=
    fun hstage hgoto => Socket.held_of_present ((Socket.isPresent_congr hstage).trans hgoto)
  have hleave : ∀ {socket' : Socket}, socket'.held = none → socket.stage.removes = true →
      (Mirrors Socket.held (socket.removed v).Listed (sockets.set k socket') ↔
        (socket.stage.removes → ¬ OthersHold Socket.held sockets k socket.key)) := by
    intro socket' hheld hremoves
    rw [law_removed_iff h hsocket hheld]
    exact ⟨fun hk _ => hk, fun hk => hk hremoves⟩
  cases move with
  | refresh db now =>
      rw [Socket.move] at hmove
      split at hmove
      · rename_i setup hstage
        cases hmove
        exact iff_of_true (law_refreshed h hsocket (Socket.held_of_present rfl)) trivial
      · cases hmove
  | sync =>
      rw [Socket.move] at hmove
      rw [Socket.Careful]
      split at hmove
      · rename_i setup participants hstage
        cases hmove
        refine iff_of_true (law_goto h hsocket hstage rfl) fun u hu => ?_
        rw [hstage] at hu
        exact absurd hu List.not_mem_nil
      · rename_i setup call _ hstage
        cases hmove
        have hgoto : Mirrors Socket.held v.Listed (sockets.set k
            (socket.goto (.syncing setup (call.next v socket.channel).2))) :=
          law_goto h hsocket hstage rfl
        rw [lower_iff hgoto fun key => listed_next, hstage]
        refine forall₂_congr fun u _ => not_congr ?_
        exact (hgoto (socket.channel, u)).symm.trans (h (socket.channel, u))
      · cases hmove
  | syncError =>
      rw [Socket.move] at hmove
      rw [Socket.Careful]
      split at hmove
      · rename_i call hstage
        cases hmove
        rw [h.abandon_iff hsocket (hpresent hstage rfl) (Socket.held_of_absent rfl), hstage]
        exact ⟨fun hk _ => hk, fun hk => hk rfl⟩
      · rename_i call hstage
        cases hmove
        refine iff_of_true (law_goto h hsocket hstage rfl) fun hsetup => ?_
        rw [hstage] at hsetup
        cases hsetup
      · cases hmove
  | heartbeat db now =>
      rw [Socket.move] at hmove
      split at hmove
      · rename_i hstage
        cases hmove
        exact iff_of_true (law_refreshed h hsocket (hpresent hstage rfl)) trivial
      · cases hmove
  | switch target =>
      rw [Socket.move] at hmove
      split at hmove
      · rename_i hstage
        cases hmove
        exact iff_of_true (law_goto h hsocket hstage rfl) trivial
      · cases hmove
  | remove =>
      rw [Socket.move] at hmove
      rw [Socket.Careful]
      split at hmove
      · rename_i target hstage
        cases hmove
        exact hleave (Socket.held_of_absent rfl) (by rw [hstage]; rfl)
      · rename_i hstage
        cases hmove
        exact hleave (Socket.held_of_absent rfl) (by rw [hstage]; rfl)
      · rename_i hstage
        cases hmove
        exact hleave (Socket.held_of_absent rfl) (by rw [hstage]; rfl)
      · cases hmove
  | enterError =>
      rw [Socket.move] at hmove
      split at hmove
      · rename_i hstage
        cases hmove
        exact iff_of_true (law_goto h hsocket hstage rfl) trivial
      · rename_i hstage
        cases hmove
        exact iff_of_true (law_goto h hsocket hstage rfl) trivial
      · cases hmove
  | close =>
      rw [Socket.move] at hmove
      split at hmove
      · rename_i hstage
        cases hmove
        exact iff_of_true (law_goto h hsocket hstage rfl) trivial
      · cases hmove

/-- A move that the stage does not allow is careful. -/
lemma careful_of_move_eq_none {v : Valkey} {sockets : List Socket} {k : ℕ} {socket : Socket}
    {move : Move} (hmove : socket.move v move = none) : socket.Careful sockets k move := by
  cases move with
  | sync =>
      intro u hu
      rw [Socket.move] at hmove
      cases hstage : socket.stage with
      | syncing setup call =>
          rw [hstage] at hmove
          cases call with
          | _ => cases hmove
      | _ => rw [hstage] at hu; exact absurd hu List.not_mem_nil
  | syncError =>
      intro hsetup
      rw [Socket.move] at hmove
      cases hstage : socket.stage with
      | syncing setup call =>
          rw [hstage] at hmove
          cases setup with
          | _ => cases hmove
      | _ => rw [hstage] at hsetup; cases hsetup
  | remove =>
      intro hremoves
      rw [Socket.move] at hmove
      cases hstage : socket.stage with
      | switching target => rw [hstage] at hmove; cases hmove
      | closing => rw [hstage] at hmove; cases hmove
      | refused => rw [hstage] at hmove; cases hmove
      | _ => rw [hstage] at hremoves; cases hremoves
  | _ => trivial

/-- **A step keeps the law exactly when it is careful.** -/
theorem law_step_iff {s : State} (h : Law s) (a : Act) : Law (step s a) ↔ Careful s a := by
  cases a with
  | connect user => exact iff_of_true (h.append rfl) trivial
  | move k move =>
      rw [Careful, step]
      split
      · rename_i socket hsocket
        simp only [hsocket, Option.mem_some_iff, forall_eq']
        split
        · rename_i v' socket' hmove
          exact law_move_iff h hsocket hmove
        · rename_i hmove
          exact iff_of_true h (careful_of_move_eq_none hmove)
      · rename_i hnone
        rw [hnone]
        exact iff_of_true h fun _ hsocket => absurd hsocket (Option.not_mem_none _)
  | call channel => exact iff_of_true h trivial
  | list k =>
      rw [Careful, step]
      split
      · rename_i channel call hcall
        simp only [hcall, Option.mem_some_iff, forall_eq']
        exact lower_iff h fun key => listed_next
      · rename_i hnone
        rw [hnone]
        exact iff_of_true h fun _ hcall => absurd hcall (Option.not_mem_none _)
  | expire channel userId =>
      refine iff_of_true ?_ trivial
      rw [step]
      split_ifs with hheld
      · exact h
      · refine (h.lower_iff (p := fun key => key = (channel, userId)) fun key =>
          Valkey.listed_expire).mpr ?_
        rintro _ rfl
        exact hheld

/-! ### Every run -/

lemma Own.set {v : Valkey} (h : Own v) {channel : String} {userId : Uuid}
    {value : Option Participant} (hvalue : ∀ p ∈ value, p.userId = userId) :
    Own (v.setParticipant channel userId value) := by
  intro c u p hp
  rw [Valkey.participants_setParticipant] at hp
  split_ifs at hp with hkey
  · exact (hvalue p hp).trans (Prod.mk.inj hkey).2.symm
  · exact h c u p hp

lemma Own.next {v : Valkey} (h : Own v) (channel : String) (call : Listing) :
    Own (call.next v channel).1 := by
  cases call with
  | start => rw [Listing.next]; split_ifs <;> exact h
  | fetched ids => rw [Listing.next]; split_ifs <;> exact h
  | removing stale participants => exact h
  | done participants => exact h

lemma Own.move {v v' : Valkey} (h : Own v) {socket socket' : Socket} {move : Move}
    (hmove : socket.move v move = some (v', socket')) : Own v' := by
  have hrefreshed : ∀ db now, Own (socket.refreshed v db now) := fun db now =>
    Own.set (v := v.setUsers _ _) h fun p hp => by rw [← Option.some.inj hp, participantForUser]
  have hremoved : Own (socket.removed v) :=
    Own.set (v := v.srem _ _) h fun p hp => absurd hp (Option.not_mem_none p)
  cases move with
  | sync =>
      rw [Socket.move] at hmove
      split at hmove
      · cases hmove; exact h
      · cases hmove; exact h.next _ _
      · cases hmove
  | refresh db now =>
      rw [Socket.move] at hmove
      split at hmove
      · cases hmove; exact hrefreshed db now
      · cases hmove
  | heartbeat db now =>
      rw [Socket.move] at hmove
      split at hmove
      · cases hmove; exact hrefreshed db now
      · cases hmove
  | remove =>
      rw [Socket.move] at hmove
      split at hmove
      · cases hmove; exact hremoved
      · cases hmove; exact hremoved
      · cases hmove; exact hremoved
      · cases hmove
  | _ =>
      rw [Socket.move] at hmove
      split at hmove <;> cases hmove <;> exact h

lemma Own.step {s : State} (h : Own s.valkey) (a : Act) : Own (step s a).valkey := by
  cases a with
  | connect user => exact h
  | move k move =>
      rw [Presence.step]
      split
      · split
        · rename_i hmove
          exact h.move hmove
        · exact h
      · exact h
  | call channel => exact h
  | list k =>
      rw [Presence.step]
      split
      · exact h.next _ _
      · exact h
  | expire channel userId =>
      rw [Presence.step]
      split_ifs
      · exact h
      · exact h.set fun p hp => absurd hp (Option.not_mem_none p)

lemma law_init : Law {} := mirrors_nil fun _ h => absurd h.1 List.not_mem_nil

lemma own_init : Own {} := fun _ _ _ h => by cases h

/-- Where no presence operation is in flight, the sockets that are present are the open ones. -/
lemma held_iff_of_quiescent {s : State} (h : Quiescent s) {channel : String} {u : Uuid} :
    s.Held (channel, u) ↔ ∃ socket ∈ s.sockets,
      socket.user.id = u ∧ socket.channel = channel ∧ socket.stage = .looping := by
  constructor
  · rintro ⟨socket, hmem, hheld⟩
    rcases h.1 socket hmem with hloop | hclosed
    · rw [Socket.held_of_present (Socket.isPresent_congr hloop)] at hheld
      obtain ⟨hchannel, huser⟩ := Prod.mk.inj (Option.some.inj hheld)
      exact ⟨socket, hmem, huser, hchannel, hloop⟩
    · rw [Socket.held_of_absent (Socket.isPresent_congr hclosed)] at hheld
      cases hheld
  · rintro ⟨socket, hmem, rfl, rfl, hloop⟩
    exact ⟨socket, hmem, Socket.held_of_present (Socket.isPresent_congr hloop)⟩

/-- **Who is present**: along every run whose steps are all careful, once no presence operation is
in flight, `list_presence` names a user exactly when an open socket of his is in the channel. -/
theorem listed_iff_looping (as : List Act) (h : Along step Careful {} as)
    (hquiet : Quiescent (final step {} as)) (channel : String) (u : Uuid) :
    (∃ p ∈ listPresence (final step {} as).valkey channel, p.userId = u) ↔
      ∃ socket ∈ (final step {} as).sockets,
        socket.user.id = u ∧ socket.channel = channel ∧ socket.stage = .looping := by
  have hlaw : Law (final step {} as) :=
    Along.invariant (I := Law) (fun s a hs hcareful => (law_step_iff hs a).mpr hcareful) law_init h
  have hown : Own (final step {} as).valkey :=
    final_invariant (I := fun s : State => Own s.valkey) (fun s a hs => hs.step a) own_init as
  rw [mem_listPresence_iff hown, ← held_iff_of_quiescent hquiet]
  exact hlaw (channel, u)

/-- The entry of the `k`-th socket into its channel. -/
def entry (k : ℕ) : List Act :=
  [.move k (.refresh {} 0), .move k .sync, .move k .sync, .move k .sync]

/-- A user. -/
def ada : AuthUser := ⟨1, "ada@vussa.example", "ada", [], []⟩

/-- A user goes to another channel with one tab, opens a second one in the main channel and closes
it. -/
def twoTabs : List Act :=
  [.connect ada] ++ entry 0 ++ [.move 0 (.switch "general"), .move 0 .remove] ++ entry 0 ++
    [.connect ada] ++ entry 1 ++ [.move 1 .close, .move 1 .remove, .call "general", .list 0, .list 0]

/-- The user is listed in the channel of the first tab, and in the main channel no more. -/
theorem twoTabs_listed : Along step Careful {} twoTabs ∧ Quiescent (final step {} twoTabs) ∧
    (∃ p ∈ listPresence (final step {} twoTabs).valkey "general", p.userId = 1) ∧
    ¬ ∃ p ∈ listPresence (final step {} twoTabs).valkey mainChannel, p.userId = 1 := by
  have hcareful : Along step Careful {} twoTabs := by decide
  have hquiet : Quiescent (final step {} twoTabs) := by decide
  refine ⟨hcareful, hquiet, ?_, fun hlisted => ?_⟩
  · exact (listed_iff_looping twoTabs hcareful hquiet "general" 1).mpr (by decide)
  · have hlooping := (listed_iff_looping twoTabs hcareful hquiet mainChannel 1).mp hlisted
    exact absurd hlooping (by decide)

/-- A user opens two tabs and closes the second one. -/
def closedTab : List Act :=
  [.connect ada] ++ entry 0 ++ [.connect ada] ++ entry 1 ++ [.move 1 .close, .move 1 .remove]

/-- The first tab is still open in the channel, and its user is not listed there. -/
theorem closedTab_unlisted : ¬ ∀ (as : List Act), Quiescent (final step {} as) →
    ∀ (channel : String) (u : Uuid),
      (∃ p ∈ listPresence (final step {} as).valkey channel, p.userId = u) ↔
        ∃ socket ∈ (final step {} as).sockets,
          socket.user.id = u ∧ socket.channel = channel ∧ socket.stage = .looping := by
  intro h
  have hlisted := (h closedTab (by decide) mainChannel 1).mpr (by decide)
  exact absurd hlisted (by decide)

end Vussa.Presence
