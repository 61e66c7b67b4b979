import Vussa.Rooms.Counting
import Vussa.Rooms.Frames

/-!
The Pub/Sub connection of the room manager (`run_room_manager` in `websocket/rooms.rs`). The map of
rooms outlives a connection: when the stream ends, the manager opens another one and subscribes it
to every topic, one after another, before it takes it into use.

A `subscribe` that returns `Ok` is in effect; one that fails, and an `unsubscribe`, may be. Nothing
is subscribed on a connection that was lost, and no restoration on one succeeds; between the last
`Ok` of a restoration and the assignment of the connection the manager waits for nothing, so that is
one step.

* `Connection`, `Answer`: a connection, and what `subscribe` can come to;
* `Manager`, `Phase`: the variables of `run_room_manager`, and where it stands;
* `Act`, `Manager.step`: the commands, the failures and the attempts to connect again;
* `Sound`: the invariant, with the topics a candidate has yet to be subscribed to;
* `serves_run`: **in every run, at the top of the inner loop, every room has a client and is
  subscribed on the connection in use, unless that was lost**.
-/

namespace Vussa.Rooms.Subscriptions

open Run

/-! ### Topics and connections -/

/-- `room_key`. -/
def roomKey (channel : String) : String := "chat:room:" ++ channel

/-- The topic of the control channel. -/
def controlTopic : String := "_control"

lemma roomKey_injective {c c' : String} (h : roomKey c = roomKey c') : c = c' := by
  have hchars := congrArg String.toList h
  rw [roomKey, roomKey, String.toList_append, String.toList_append] at hchars
  exact String.toList_inj.mp (List.append_cancel_left hchars)

lemma roomKey_ne_control (c : String) : roomKey c ≠ controlTopic := by
  intro h
  have hchars := congrArg (fun s => s.toList.head?) h
  rw [roomKey] at hchars
  simp only [String.toList_append] at hchars
  revert hchars
  simp [controlTopic]

/-- A Pub/Sub connection: the topics that are subscribed on it, and whether it was lost. -/
structure Connection where
  topics : List String := []
  lost : Bool := false
  deriving DecidableEq, Repr

/-- What `sink.subscribe` comes to; a failure may have been too late for the server. -/
inductive Answer where
  | ok
  | failed (inEffect : Bool)
  deriving DecidableEq, Repr

namespace Connection

/-- `sink.subscribe`. -/
def subscribe (k : Connection) (topic : String) : Answer → Connection
  | .ok | .failed true => { k with topics := topic :: k.topics }
  | .failed false => k

/-- `sink.unsubscribe`. -/
def unsubscribe (k : Connection) (topic : String) (inEffect : Bool) : Connection :=
  if inEffect then { k with topics := k.topics.filter fun t => t ≠ topic } else k

/-- The connection is lost, with what was subscribed on it. -/
def lose (_ : Connection) : Connection := { topics := [], lost := true }

lemma lost_subscribe (k : Connection) (topic : String) (answer : Answer) :
    (k.subscribe topic answer).lost = k.lost := by
  unfold subscribe
  split
  · rfl
  · rfl
  · rfl

lemma topics_subscribe (k : Connection) (topic : String) (answer : Answer) :
    k.topics ⊆ (k.subscribe topic answer).topics := by
  unfold subscribe
  split
  · exact List.subset_cons_self _ _
  · exact List.subset_cons_self _ _
  · exact List.Subset.refl _

lemma mem_subscribe (k : Connection) (topic : String) : topic ∈ (k.subscribe topic .ok).topics :=
  List.mem_cons_self

lemma lost_unsubscribe (k : Connection) (topic : String) (inEffect : Bool) :
    (k.unsubscribe topic inEffect).lost = k.lost := by
  rw [unsubscribe]
  split
  · rfl
  · rfl

/-- An `unsubscribe` leaves the other topics. -/
lemma mem_unsubscribe {k : Connection} {topic t : String} (inEffect : Bool) (h : t ∈ k.topics)
    (hne : t ≠ topic) : t ∈ (k.unsubscribe topic inEffect).topics := by
  rw [unsubscribe]
  split
  · exact List.mem_filter.mpr ⟨h, decide_eq_true hne⟩
  · exact h

end Connection

/-! ### The manager -/

/-- `next_room_retry_delay`, in milliseconds. -/
def nextRoomRetryDelay (current : ℕ) : ℕ := min (current * 2) 10000

/-- Where `run_room_manager` stands. -/
inductive Phase where
  /-- the top of the inner loop -/
  | serving
  /-- the delay before the next attempt -/
  | sleeping (retryDelay : ℕ)
  /-- a candidate has yet to be subscribed to these topics -/
  | restoring (retryDelay : ℕ) (candidate : Connection) (topics : List String)
  /-- returned -/
  | stopped
  deriving DecidableEq, Repr

/-- The variables of `run_room_manager`, with the keys of the map of rooms. -/
structure Manager where
  hub : Hub := {}
  keys : List String := []
  connection : Connection
  phase : Phase := .serving

/-- Everything that can happen to it. -/
inductive Act where
  /-- a `Subscribe` command, and what `sink.subscribe` comes to if the room is new -/
  | subscribe (channel : String) (answer : Answer)
  /-- a `Release` command, and whether an `unsubscribe` is in effect -/
  | release (channel : String) (inEffect : Bool)
  /-- a publication is read -/
  | publish (event : ServerEvent)
  /-- all senders of commands are gone -/
  | closeCommands
  /-- the connection in use is lost -/
  | lose
  /-- its stream ends -/
  | endStream
  /-- `get_async_pubsub` fails -/
  | refuse
  /-- a connection is opened; the map is read in this order -/
  | connect (order : List String)
  /-- `subscribe` of the next topic on the candidate -/
  | restore (answer : Answer)
  /-- the candidate is lost -/
  | loseCandidate
  deriving DecidableEq, Repr

namespace Manager

/-- The `Subscribe` arm. -/
def subscribe (m : Manager) (channel : String) (answer : Answer) : Manager :=
  match m.hub.rooms channel, answer with
  | some _, _ => { m with hub := (m.hub.subscribe channel true).1 }
  | none, .ok =>
      { m with
        hub := (m.hub.subscribe channel true).1
        keys := channel :: m.keys
        connection := m.connection.subscribe (roomKey channel) answer }
  | none, .failed _ =>
      { m with
        hub := (m.hub.subscribe channel false).1
        connection := m.connection.subscribe (roomKey channel) answer }

/-- The `Release` arm. -/
def release (m : Manager) (channel : String) (inEffect : Bool) : Manager :=
  match m.hub.rooms channel with
  | some entry =>
      if entry.clients - 1 = 0 then
        { m with
          hub := m.hub.release channel
          keys := m.keys.filter fun c => c ≠ channel
          connection := m.connection.unsubscribe (roomKey channel) inEffect }
      else { m with hub := m.hub.release channel }
  | none => m

/-- A `subscribe` on the candidate: the last one that succeeds takes it into use. -/
def restore (m : Manager) (retryDelay : ℕ) (candidate : Connection) (topic : String)
    (rest : List String) (answer : Answer) : Manager :=
  if candidate.lost ∨ answer ≠ .ok then
    { m with phase := .sleeping (nextRoomRetryDelay retryDelay) }
  else if rest = [] then
    { m with connection := candidate.subscribe topic .ok, phase := .serving }
  else { m with phase := .restoring retryDelay (candidate.subscribe topic .ok) rest }

/-- One step. An act that does not fit the point the manager has reached changes nothing. -/
def step (m : Manager) (a : Act) : Manager :=
  match m.phase, a with
  | .serving, .subscribe channel answer => m.subscribe channel answer
  | .serving, .release channel inEffect => m.release channel inEffect
  | .serving, .publish event => { m with hub := m.hub.route event }
  | .serving, .closeCommands => { m with phase := .stopped }
  | .serving, .lose => { m with connection := m.connection.lose }
  | .serving, .endStream =>
      { m with
        hub := { m.hub with control := m.hub.control ++ [Frames.interrupted] }
        connection := m.connection.lose
        phase := .sleeping 250 }
  | .sleeping retryDelay, .refuse =>
      { m with phase := .sleeping (nextRoomRetryDelay retryDelay) }
  | .sleeping retryDelay, .connect order =>
      if order.Perm m.keys then
        { m with phase := .restoring retryDelay {} (controlTopic :: order.map roomKey) }
      else m
  | .restoring retryDelay candidate (topic :: rest), .restore answer =>
      m.restore retryDelay candidate topic rest answer
  | .restoring retryDelay candidate topics, .loseCandidate =>
      { m with phase := .restoring retryDelay candidate.lose topics }
  | _, _ => m

end Manager

/-- `RoomManager::start`: a connection that is subscribed to the control topic. -/
def start : Manager where
  connection := { topics := [controlTopic] }

/-! ### The invariant -/

/-- The topics a connection has to be subscribed to. -/
def Needed (h : Hub) (topic : String) : Prop :=
  topic = controlTopic ∨ ∃ c, (h.rooms c).isSome ∧ topic = roomKey c

/-- Every room has a client and its topic on the connection, and what a candidate lacks is still to
be subscribed. -/
structure Sound (m : Manager) : Prop where
  clients : ∀ c, (m.hub.rooms c).isSome → 1 ≤ m.hub.clients c
  keys : ∀ c, c ∈ m.keys ↔ (m.hub.rooms c).isSome
  connection : m.connection.lost = false →
    ∀ topic, Needed m.hub topic → topic ∈ m.connection.topics
  candidate : ∀ d k topics, m.phase = .restoring d k topics → k.lost = false →
    ∀ topic, Needed m.hub topic → topic ∈ k.topics ∨ topic ∈ topics

section Step

variable {m : Manager}

lemma Needed.mono {h h' : Hub} (hrooms : ∀ c, (h.rooms c).isSome → (h'.rooms c).isSome)
    {topic : String} (hneed : Needed h topic) : Needed h' topic :=
  hneed.imp_right fun ⟨c, hc, htopic⟩ => ⟨c, hrooms c hc, htopic⟩

lemma sound_start : Sound start where
  clients _ h := absurd h (by simp [start])
  keys c := by simp [start]
  connection _ topic hneed := by
    rcases hneed with rfl | ⟨c, hc, -⟩
    · exact List.mem_singleton_self _
    · exact absurd hc (by simp [start])
  candidate _ _ _ hphase := nomatch hphase

/-- The rooms stay, and so do the connection and its candidate. -/
lemma Sound.congr (h : Sound m) (hub : Hub)
    (hhub : ∀ c, hub.clients c = m.hub.clients c ∧ (hub.rooms c).isSome = (m.hub.rooms c).isSome) :
    Sound { m with hub := hub } where
  clients c hc := by
    rw [(hhub c).1]
    exact h.clients c ((hhub c).2 ▸ hc)
  keys c := by
    rw [h.keys c, (hhub c).2]
  connection hlost topic hneed :=
    h.connection hlost topic (hneed.mono fun c hc => (hhub c).2 ▸ hc)
  candidate d k topics hphase hlost topic hneed :=
    h.candidate d k topics hphase hlost topic (hneed.mono fun c hc => (hhub c).2 ▸ hc)

/-- The connection is lost or the manager leaves the inner loop. -/
lemma Sound.leave (h : Sound m) (connection : Connection) (phase : Phase)
    (hconnection : connection = m.connection ∨ connection.lost = true)
    (hphase : ∀ d k topics, phase ≠ .restoring d k topics) :
    Sound { m with connection := connection, phase := phase } where
  clients := h.clients
  keys := h.keys
  connection hlost topic hneed := by
    rcases hconnection with rfl | hgone
    · exact h.connection hlost topic hneed
    · exact absurd (hlost.symm.trans hgone) (by decide)
  candidate d k topics heq := absurd heq (hphase d k topics)

/-- A subscription is granted; a new room is subscribed first. -/
lemma Sound.grant (h : Sound m) (hphase : m.phase = .serving) {channel : String}
    {subscribed : Bool} (hok : (m.hub.subscribe channel subscribed).2 = true)
    {keys : List String} (hkeys : ∀ c, c ∈ keys ↔ c = channel ∨ c ∈ m.keys)
    {connection : Connection} (hlost : connection.lost = m.connection.lost)
    (htopics : m.connection.topics ⊆ connection.topics)
    (hnew : m.hub.rooms channel = none → roomKey channel ∈ connection.topics) :
    Sound { m with
      hub := (m.hub.subscribe channel subscribed).1, keys := keys, connection := connection } where
  clients c hc := by
    have hgranted := Hub.subscribe_granted hok c
    rw [hgranted.1]
    rcases hgranted.2.mp hc with rfl | hc
    · rw [if_pos rfl]
      exact Nat.le_add_left 1 _
    · exact le_trans (h.clients c hc) (Nat.le_add_right _ _)
  keys c := by
    rw [hkeys, h.keys c, (Hub.subscribe_granted hok c).2]
  connection hlive topic hneed := by
    have hold := h.connection (hlost.symm.trans hlive)
    rcases hneed with rfl | ⟨c, hc, rfl⟩
    · exact htopics (hold _ (.inl rfl))
    · rcases (Hub.subscribe_granted hok c).2.mp hc with rfl | hc
      · cases hroom : m.hub.rooms c with
        | none => exact hnew hroom
        | some entry => exact htopics (hold _ (.inr ⟨c, by rw [hroom]; rfl, rfl⟩))
      · exact htopics (hold _ (.inr ⟨c, hc, rfl⟩))
  candidate d k topics heq := absurd (hphase.symm.trans heq) (by simp)

lemma Sound.subscribe (h : Sound m) (hphase : m.phase = .serving) (channel : String)
    (answer : Answer) : Sound (m.subscribe channel answer) := by
  unfold Manager.subscribe
  cases hroom : m.hub.rooms channel with
  | some entry =>
      have hok : (m.hub.subscribe channel true).2 = true := by rw [Hub.subscribe, hroom]
      have hmem : channel ∈ m.keys := (h.keys channel).mpr (by rw [hroom]; rfl)
      refine h.grant hphase hok (fun c => ?_) rfl (List.Subset.refl _) fun hnone => ?_
      · exact ⟨.inr, fun hc => hc.elim (fun heq => heq ▸ hmem) id⟩
      · exact absurd (hroom.symm.trans hnone) (by simp)
  | none =>
      cases answer with
      | ok =>
          have hok : (m.hub.subscribe channel true).2 = true := by
            rw [Hub.subscribe, hroom]
            rfl
          exact h.grant hphase hok (fun c => List.mem_cons)
            (Connection.lost_subscribe _ _ _) (Connection.topics_subscribe _ _ _)
              fun _ => Connection.mem_subscribe _ _
      | failed inEffect =>
          have hrefused : (m.hub.subscribe channel false).1 = m.hub := by
            refine Hub.subscribe_refused ?_
            rw [Hub.subscribe, hroom]
            rfl
          dsimp only
          rw [hrefused]
          refine ⟨h.clients, h.keys, fun hlive topic hneed => ?_, h.candidate⟩
          rw [Connection.lost_subscribe] at hlive
          exact Connection.topics_subscribe _ _ _ (h.connection hlive topic hneed)

/-- A room that stays open after a release has a client left. -/
lemma one_le_clients_release {hub : Hub} (h : ∀ c, (hub.rooms c).isSome → 1 ≤ hub.clients c)
    {channel : String} {entry : RoomEntry} (hroom : hub.rooms channel = some entry) (c : String)
    (hc : ((hub.release channel).rooms c).isSome) : 1 ≤ (hub.release channel).clients c := by
  have hopen := Hub.release_open hroom c
  obtain ⟨hold, hmore⟩ := hopen.2.mp hc
  have hone := h c hold
  rw [hopen.1]
  by_cases hcc : c = channel
  · have htwo := hmore hcc
    rw [if_pos hcc, hcc]
    omega
  · rw [if_neg hcc]
    exact hone

lemma Sound.release (h : Sound m) (hphase : m.phase = .serving) (channel : String)
    (inEffect : Bool) : Sound (m.release channel inEffect) := by
  rw [Manager.release]
  cases hroom : m.hub.rooms channel with
  | none => exact h
  | some entry =>
      have hopen := Hub.release_open hroom
      have hentry : m.hub.clients channel = entry.clients := by
        rw [Hub.clients, hroom, Option.elim_some]
      have hclients := one_le_clients_release h.clients hroom
      dsimp only
      by_cases hlast : entry.clients - 1 = 0
      · -- the room is removed, and its topic is not needed any more
        rw [if_pos hlast]
        have hgone : ∀ c, ((m.hub.release channel).rooms c).isSome ↔
            (m.hub.rooms c).isSome ∧ c ≠ channel := by
          intro c
          rw [(hopen c).2, hentry]
          refine and_congr_right fun _ => ⟨fun hmore hcc => ?_, fun hne hcc => absurd hcc hne⟩
          have htwo := hmore hcc
          omega
        refine ⟨hclients, fun c => ?_, fun hlive topic hneed => ?_, fun d k topics heq => ?_⟩
        · rw [List.mem_filter, decide_eq_true_eq, h.keys c, hgone]
        · rw [Connection.lost_unsubscribe] at hlive
          rcases hneed with rfl | ⟨c, hc, rfl⟩
          · exact Connection.mem_unsubscribe _ (h.connection hlive _ (.inl rfl))
              (roomKey_ne_control channel).symm
          · obtain ⟨hold, hne⟩ := (hgone c).mp hc
            exact Connection.mem_unsubscribe _ (h.connection hlive _ (.inr ⟨c, hold, rfl⟩))
              fun heq => hne (roomKey_injective heq)
        · exact absurd (hphase.symm.trans heq) (by simp)
      · rw [if_neg hlast]
        have hkept : ∀ c, ((m.hub.release channel).rooms c).isSome ↔ (m.hub.rooms c).isSome := by
          intro c
          rw [(hopen c).2, hentry]
          exact and_iff_left_of_imp fun _ _ => by omega
        refine ⟨hclients, fun c => ?_, fun hlive topic hneed => ?_, fun d k topics heq => ?_⟩
        · rw [h.keys c, hkept]
        · exact h.connection hlive topic (hneed.mono fun c => (hkept c).mp)
        · exact absurd (hphase.symm.trans heq) (by simp)

lemma Sound.restore (h : Sound m) {d : ℕ} {k : Connection} {topic : String} {rest : List String}
    (hphase : m.phase = .restoring d k (topic :: rest)) (answer : Answer) :
    Sound (m.restore d k topic rest answer) := by
  rw [Manager.restore]
  split_ifs with hfailed hlast
  · exact h.leave m.connection _ (.inl rfl) nofun
  · -- the last topic: the candidate has them all
    refine ⟨h.clients, h.keys, fun hlive t hneed => ?_, nofun⟩
    rcases h.candidate d k _ hphase hlive t hneed with ht | ht
    · exact Connection.topics_subscribe _ _ _ ht
    · rw [hlast] at ht
      obtain rfl := List.mem_singleton.mp ht
      exact Connection.mem_subscribe _ _
  · refine ⟨h.clients, h.keys, h.connection, fun d' k' topics heq hlive t hneed => ?_⟩
    obtain ⟨-, rfl, rfl⟩ := Phase.restoring.inj heq
    rcases h.candidate d k _ hphase hlive t hneed with ht | ht
    · exact .inl (Connection.topics_subscribe _ _ _ ht)
    · rcases List.mem_cons.mp ht with rfl | ht
      · exact .inl (Connection.mem_subscribe _ _)
      · exact .inr ht

/-- Every step keeps the invariant. -/
theorem Sound.step (h : Sound m) (a : Act) : Sound (m.step a) := by
  unfold Manager.step
  split
  · rename_i hphase
    exact h.subscribe hphase _ _
  · rename_i hphase
    exact h.release hphase _ _
  · exact h.congr _ fun c => m.hub.route_frame _ c
  · exact h.leave m.connection .stopped (.inl rfl) nofun
  · rename_i hphase
    exact hphase ▸ h.leave m.connection.lose .serving (.inr rfl) nofun
  · have hnotice := h.congr { m.hub with control := m.hub.control ++ [Frames.interrupted] }
      fun c => ⟨rfl, rfl⟩
    exact hnotice.leave m.connection.lose (.sleeping 250) (.inr rfl) nofun
  · exact h.leave m.connection _ (.inl rfl) nofun
  · split
    · rename_i hperm
      refine ⟨h.clients, h.keys, h.connection, fun d k topics heq _ topic hneed => ?_⟩
      obtain ⟨-, rfl, rfl⟩ := Phase.restoring.inj heq
      rcases hneed with rfl | ⟨c, hc, rfl⟩
      · exact .inr List.mem_cons_self
      · exact .inr (List.mem_cons_of_mem _
          (List.mem_map_of_mem (hperm.mem_iff.mpr ((h.keys c).mpr hc))))
    · exact h
  · rename_i hphase
    exact h.restore hphase _
  · refine ⟨h.clients, h.keys, h.connection, fun d k topics heq hlive => ?_⟩
    obtain ⟨-, rfl, -⟩ := Phase.restoring.inj heq
    exact absurd hlive (by simp [Connection.lose])
  · exact h

end Step

/-- **Every run**: whenever the manager is at the top of its inner loop every room has a client,
and, unless the connection in use was lost, the control topic and the topic of every room are
subscribed on it. -/
theorem serves_run (as : List Act) :
    let m := final Manager.step start as
    m.phase = .serving →
      (∀ c entry, m.hub.rooms c = some entry → 1 ≤ entry.clients) ∧
      (m.connection.lost = false → controlTopic ∈ m.connection.topics ∧
        ∀ c, (m.hub.rooms c).isSome → roomKey c ∈ m.connection.topics) := by
  have h : Sound (final Manager.step start as) :=
    final_invariant (fun _ a hm => hm.step a) sound_start as
  intro m _
  refine ⟨fun c entry hroom => ?_, fun hlive => ⟨h.connection hlive _ (.inl rfl), fun c hc => ?_⟩⟩
  · have hclients := h.clients c (by rw [hroom]; rfl)
    rwa [Hub.clients, hroom, Option.elim_some] at hclients
  · exact h.connection hlive _ (.inr ⟨c, hc, rfl⟩)

/-- A room outlives a connection: the second attempt to restore it succeeds. -/
example :
    let m := final Manager.step start [.subscribe "a" .ok, .lose, .endStream, .connect ["a"],
      .restore .ok, .restore (.failed true), .connect ["a"], .restore .ok, .restore .ok]
    m.phase = .serving ∧ m.connection = ⟨["chat:room:a", "_control"], false⟩ ∧
      m.hub.clients "a" = 1 := by
  decide

end Vussa.Rooms.Subscriptions
