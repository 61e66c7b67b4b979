import Vussa.Model.Writes
import Vussa.Sockets.Switch
import Vussa.Client.Page

/-!
One connection of the page, with what is in flight on it. The server saves a message in the
channel its socket is in when it reads the frame, and confirms every switch by a `joined`.

* `settle`: where the page is after the events in flight;
* `Frame.Diverts`, `Connection.Settled`: switches in flight;
* `Connection.answer_cases`: **what the server does** with one frame;
* `Connection.answer_message_rows`: the rows saved for a message are in the channel of the socket;
* `Connection.Aimed`: every unread message is for the channel the socket will be in.
-/

namespace Vussa

open Effect

/-! ### Switches in flight -/

/-- The channel the page shows after it has handled `events`. -/
def settle (active : String) (events : List ServerEvent) : String :=
  events.foldl (fun active event => event.joined?.getD active) active

@[simp] lemma settle_nil (active : String) : settle active [] = active := rfl

@[simp] lemma settle_cons (active : String) (event : ServerEvent) (events : List ServerEvent) :
    settle active (event :: events) = settle (event.joined?.getD active) events := rfl

lemma settle_append (active : String) (events events' : List ServerEvent) :
    settle active (events ++ events') = settle (settle active events) events' :=
  List.foldl_append

/-- Events that confirm no channel do not move the page. -/
lemma settle_of_plain {events : List ServerEvent} (h : ∀ e ∈ events, e.joined? = none)
    (active : String) : settle active events = active := by
  induction events generalizing active with
  | nil => rfl
  | cons event events ih =>
      rw [settle_cons, h event List.mem_cons_self]
      exact ih (fun e he => h e (List.mem_cons_of_mem _ he)) active

/-- The frame may lead a socket in the channel `n` to the channel `dest`. -/
def Frame.LeadsTo (U : Unicode) (n dest : String) : Frame → Prop
  | .event (.joinChannel raw) => requestedChannel U raw = .ok dest
  | .event (.openDirect _) => True
  | .event (.deleteChannel raw) => normalizeChannelName U raw = .ok n ∧ dest = mainChannel
  | _ => False

/-- The frame may lead a socket in the channel `n` away from it. -/
def Frame.Diverts (U : Unicode) (n : String) (frame : Frame) : Prop :=
  ∃ dest, dest ≠ n ∧ frame.LeadsTo U n dest

/-- Messages are answered where the socket is. -/
lemma Frame.not_diverts_message (U : Unicode) (n : String) (p : PendingMessage) :
    ¬ (Frame.message p).Diverts U n := by
  rintro ⟨dest, -, hleads⟩
  exact hleads

/-- No switch away from `n` is in flight: the last `joined` that is not handled, if there is one,
names `n`, and no unread frame diverts from `n`. -/
structure Connection.Settled (U : Unicode) (n : String) (c : Connection) : Prop where
  events : settle n c.events = n
  requests : ∀ f ∈ c.requests, ¬ f.Diverts U n

/-! ### The server on one frame -/

/-- A frame that switches the channel leads there. -/
lemma Frame.leadsTo_of_switch {U : Unicode} {active : Bool} {fresh : Fresh}
    {shared shared' : Shared} {user : AuthUser} {session : Uuid} {channel name : String} {r : Reply}
    (frame : Frame)
    (h : (handleClientEvent U fresh user session active channel frame.toEvent).run shared =
      .ok r shared') (hswitch : r.switchTo = some name) : frame.LeadsTo U channel name := by
  cases frame with
  | message p =>
      have hnone : r.switchTo = none :=
        (returns_plain _ _ _ _ h).2 (by simp [toEvent, ClientEvent.Switches])
      rw [hnone] at hswitch
      exact absurd hswitch (by simp)
  | event e =>
      rcases switch_cases h hswitch with ⟨raw, hevent, hname⟩ | ⟨target, hevent⟩ |
        ⟨raw, hevent, hname, hmain⟩
      · obtain rfl : e = .joinChannel raw := hevent
        exact hname
      · obtain rfl : e = .openDirect target := hevent
        exact trivial
      · obtain rfl : e = .deleteChannel raw := hevent
        exact ⟨hname, hmain⟩

/-- The rows of `s'` that are not in `s` are in the live channel named `channel`. -/
def NewRowsIn (channel : String) (s s' : Shared) : Prop :=
  ∀ row ∈ s'.db.messages, row ∈ s.db.messages ∨
    ∃ ch, s.db.liveChannel? channel = some ch ∧ row.channelId = ch.id

section Answer

variable (U : Unicode) (active : Bool) (fresh : Fresh) (frame : Frame) (shared : Shared)

lemma Connection.answer_requests (c : Connection) :
    (c.answer U active fresh frame shared).1.requests = c.requests ∧
      (c.answer U active fresh frame shared).1.readyState = c.readyState := by
  rw [answer]
  split
  · split
    · exact ⟨rfl, rfl⟩
    · split
      · exact ⟨rfl, rfl⟩
      · exact ⟨rfl, rfl⟩
  · dsimp only
    split
    · exact ⟨rfl, rfl⟩
    · exact ⟨rfl, rfl⟩

/-- **One frame**: the socket stays and confirms nothing, or it is led to another channel and
confirms that one last. -/
theorem Connection.answer_cases (c : Connection) :
    ∃ sent, (c.answer U active fresh frame shared).1.events = c.events ++ sent ∧
      (((c.answer U active fresh frame shared).1.channel = c.channel ∧
          ∀ e ∈ sent, e.joined? = none) ∨
        (frame.LeadsTo U c.channel (c.answer U active fresh frame shared).1.channel ∧
          ∀ a, settle a sent = (c.answer U active fresh frame shared).1.channel)) := by
  cases hrun : (handleClientEvent U fresh c.user c.session active c.channel frame.toEvent).run
      shared with
  | error e shared' =>
      refine ⟨[.error e.message], ?_⟩
      rw [answer, hrun]
      dsimp only
      split
      · exact ⟨rfl, Or.inl ⟨rfl, by simp [ServerEvent.joined?]⟩⟩
      · exact ⟨rfl, Or.inl ⟨rfl, by simp [ServerEvent.joined?]⟩⟩
  | ok r shared' =>
      have hplain := (returns_plain frame.toEvent _ _ _ hrun).1
      cases hswitch : r.switchTo with
      | none =>
          have hanswer : c.answer U active fresh frame shared =
              ({ c with events := c.events ++ r.sent }, shared') := by
            rw [answer, hrun]
            simp only [hswitch]
          rw [hanswer]
          exact ⟨r.sent, rfl, Or.inl ⟨rfl, hplain⟩⟩
      | some channel =>
          obtain ⟨events, s', henter, hrest⟩ :=
            enterChannel_run c.user channel (after (leavePresence c.user c.channel) shared')
          have hanswer : c.answer U active fresh frame shared =
              ({ c with channel := channel,
                        events := c.events ++ r.sent ++ .joined channel :: events }, s') := by
            rw [answer, hrun]
            simp only [hswitch, henter]
          rw [hanswer]
          refine ⟨r.sent ++ .joined channel :: events, List.append_assoc _ _ _, Or.inr ⟨?_, ?_⟩⟩
          · exact frame.leadsTo_of_switch hrun hswitch
          · intro a
            calc settle a (r.sent ++ .joined channel :: events)
                = settle a (.joined channel :: events) := by
                  rw [settle_append, settle_of_plain hplain]
              _ = settle channel events := rfl
              _ = channel := settle_of_plain hrest channel

/-- **What is saved for a message** is in the live channel of the socket. -/
theorem Connection.answer_message_rows (c : Connection) (p : PendingMessage) :
    NewRowsIn c.channel shared (c.answer U active fresh (.message p) shared).2 := by
  have hquiet : ∀ s s', Quiet s s' → NewRowsIn c.channel shared s →
      NewRowsIn c.channel shared s' := by
    intro s s' hq hs
    rwa [NewRowsIn, hq.messages]
  have hafter : NewRowsIn c.channel shared (after (handleClientEvent U fresh c.user c.session active
      c.channel (Frame.message p).toEvent) shared) := by
    refine holds_after_sendMessage hquiet (fun row hrow => Or.inl hrow) ?_
    intro s' hw
    cases hw with
    | service hrequest _ => exact absurd hrequest (by simp [ClientEvent.request?])
    | sendMessage hok =>
        obtain ⟨db, hsave, rfl⟩ := Backend.postMessage_ok hok
        obtain ⟨ch, links, hch, -, rfl⟩ := saveMessage_ok hsave
        intro row hrow
        rcases List.mem_append.mp hrow with hold | hnew
        · exact Or.inl hold
        · rw [List.mem_singleton.mp hnew]
          exact Or.inr ⟨ch, hch, rfl⟩
  rw [after] at hafter
  rw [answer]
  cases hrun : (handleClientEvent U fresh c.user c.session active c.channel
      (Frame.message p).toEvent).run shared with
  | ok r shared' =>
      rw [hrun] at hafter
      have hnone : r.switchTo = none :=
        (returns_plain _ _ _ _ hrun).2 (by simp [Frame.toEvent, ClientEvent.Switches])
      simp only [hnone]
      exact hafter
  | error e shared' =>
      rw [hrun] at hafter
      dsimp only
      split
      · exact hquiet shared' _ (quiet_of_backend rfl) hafter
      · exact hafter

end Answer

/-! ### Aimed messages -/

/-- Every message that is still unread is for the channel of the socket, and no frame before it
diverts the socket. -/
structure Connection.Aimed (U : Unicode) (c : Connection) : Prop where
  composed : ∀ p, Frame.message p ∈ c.requests → p.channel = c.channel
  ordered : c.requests.Pairwise fun f g => ∀ p, g = .message p → ¬ f.Diverts U p.channel

/-- The aim is a matter of the queue and the channel. -/
lemma Connection.Aimed.congr {U : Unicode} {c c' : Connection} (h : c.Aimed U)
    (hrequests : c'.requests = c.requests) (hchannel : c'.channel = c.channel) : c'.Aimed U := by
  refine ⟨?_, ?_⟩
  · rw [hrequests, hchannel]
    exact h.composed
  · rw [hrequests]
    exact h.ordered

/-- A frame that is no message can follow. -/
lemma Connection.Aimed.append_event {U : Unicode} {c : Connection} (h : c.Aimed U)
    (e : ClientEvent) :
    ({ c with requests := c.requests ++ [.event e] } : Connection).Aimed U := by
  refine ⟨?_, ?_⟩
  · intro p hp
    rcases List.mem_append.mp hp with hold | hnew
    · exact h.composed p hold
    · exact absurd (List.mem_singleton.mp hnew) (by simp)
  · refine List.pairwise_append.mpr ⟨h.ordered, List.pairwise_singleton _ _, ?_⟩
    intro f _ g hg p hmessage
    rw [List.mem_singleton.mp hg] at hmessage
    exact absurd hmessage (by simp)

/-- A message for the channel of the socket can follow if nothing diverts the socket. -/
lemma Connection.Aimed.append_message {U : Unicode} {c : Connection} (h : c.Aimed U)
    {p : PendingMessage} (hchannel : p.channel = c.channel)
    (hrequests : ∀ f ∈ c.requests, ¬ f.Diverts U p.channel) :
    ({ c with requests := c.requests ++ [.message p] } : Connection).Aimed U := by
  refine ⟨?_, ?_⟩
  · intro q hq
    rcases List.mem_append.mp hq with hold | hnew
    · exact h.composed q hold
    · obtain rfl : q = p := Frame.message.inj (List.mem_singleton.mp hnew)
      exact hchannel
  · refine List.pairwise_append.mpr ⟨h.ordered, List.pairwise_singleton _ _, ?_⟩
    intro f hf g hg q hmessage
    rw [List.mem_singleton.mp hg] at hmessage
    obtain rfl : p = q := Frame.message.inj hmessage
    exact hrequests f hf

/-- **The server keeps its aim**: it reads the first frame and is still where the others want it. -/
lemma Connection.Aimed.answer {U : Unicode} {c : Connection} {frame : Frame} {rest : List Frame}
    (h : c.Aimed U) (hrequests : c.requests = frame :: rest) (active : Bool) (fresh : Fresh)
    (shared : Shared) :
    (({ c with requests := rest } : Connection).answer U active fresh frame shared).1.Aimed U := by
  have hordered := h.ordered
  rw [hrequests, List.pairwise_cons] at hordered
  have hread := Connection.answer_requests U active fresh frame shared { c with requests := rest }
  obtain ⟨sent, -, hcases⟩ :=
    Connection.answer_cases U active fresh frame shared { c with requests := rest }
  refine ⟨?_, by rw [hread.1]; exact hordered.2⟩
  intro p hp
  rw [hread.1] at hp
  have hchannel : p.channel = c.channel :=
    h.composed p (hrequests ▸ List.mem_cons_of_mem _ hp)
  rcases hcases with ⟨hstays, -⟩ | ⟨hleads, -⟩
  · rw [hstays]
    exact hchannel
  · -- a switch that comes before the message can only be to its channel
    by_contra hne
    refine hordered.1 (.message p) hp p rfl ⟨_, fun heq => hne heq.symm, ?_⟩
    rw [hchannel]
    exact hleads

end Vussa
