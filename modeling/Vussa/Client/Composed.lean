import Vussa.Lib.Run
import Vussa.Client.InFlight

/-!
Where the messages of the page are saved. The page writes a message for the channel it shows, and
the server saves it in the channel of its socket. The two agree as long as nothing in flight moves
the socket.

* `SavesWhereComposed`: a row saved for a message is in the channel the message was written for;
* `SendsSettled`: no message is sent while a switch to another channel is in flight;
* `Consistent`: the invariant, that the page ends up where the server is, and that every message
  in a queue is for the channel the server is in;
* `saves_where_composed`: **in every run of settled sends** messages are saved where they were
  composed.
-/

namespace Vussa

namespace Chat

/-! ### The invariant -/

/-- The page will be where the server is, and the queues are aimed. -/
structure Consistent (U : Unicode) (s : Chat) : Prop where
  aimed : ∀ c ∈ s.connections, c.Aimed U
  inStep : ∀ c ∈ s.connections.head?, c.readyState = .open →
    settle s.page.activeChannel c.events = c.channel

/-- If the current socket is open, no switch away from `n` is in flight on it. -/
def Settled (U : Unicode) (n : String) (s : Chat) : Prop :=
  ∀ c ∈ s.connections.head?, c.readyState = .open → c.Settled U n

/-- No message is sent while a switch away from its channel is in flight, and no `joined` of an
older connection is handled. -/
def SendsSettled (U : Unicode) (s : Chat) : ChatAct → Prop
  | .submit text file _ => s.MaySubmit → file = false → text ≠ "" →
      s.Settled U s.page.activeChannel
  | .uploaded _ _ => s.page.uploading ≠ none → s.Settled U s.page.activeChannel
  | .replyInThread text _ => s.page.threadRoot ≠ none → text ≠ "" →
      s.Settled U s.page.activeChannel
  | .handle i => ∀ c, s.connections[i]? = some c → c.readyState = .open →
      ∀ name events, c.events = .joined name :: events →
        i = 0 ∧ ((∃ p ∈ s.page.pendingMessages, p.channel = name) →
          ({ c with events := events } : Connection).Settled U name)
  | _ => True

/-- A row that is saved for a message of the page is in the channel it was composed in. -/
def SavesWhereComposed (U : Unicode) (s : Chat) : ChatAct → Prop
  | .serve i active fresh => ∀ c, s.connections[i]? = some c →
      ∀ p rest, c.requests = .message p :: rest →
        NewRowsIn p.channel s.shared (s.step U (.serve i active fresh)).shared
  | _ => True

variable {U : Unicode} {s : Chat}

/-! ### The page sends -/

lemma Consistent.setPage (h : s.Consistent U) (page : Page)
    (hactive : page.activeChannel = s.page.activeChannel) : (s.setPage page).Consistent U := by
  refine ⟨h.aimed, ?_⟩
  rw [Chat.setPage, hactive]
  exact h.inStep

@[simp] lemma setPage_page (s : Chat) (page : Page) : (s.setPage page).page = page := rfl

@[simp] lemma send_page (s : Chat) (frame : Frame) : (s.send frame).page = s.page := by
  rw [send]
  split
  · rfl
  · split
    · rfl
    · rfl

/-- A frame goes to the newest connection, or nowhere. -/
lemma send_cases (s : Chat) (frame : Frame) :
    s.send frame = s ∨ ∃ c cs, s.connections = c :: cs ∧ c.readyState = .open ∧
      s.send frame =
        { s with connections := { c with requests := c.requests ++ [frame] } :: cs } := by
  cases hcs : s.connections with
  | nil => exact Or.inl (by rw [send, hcs])
  | cons c cs =>
      by_cases hopen : c.readyState = .open
      · refine Or.inr ⟨c, cs, rfl, hopen, ?_⟩
        rw [send, hcs]
        simp only [if_pos hopen]
      · refine Or.inl ?_
        rw [send, hcs]
        simp only [if_neg hopen]

/-- What a longer queue of the newest connection needs. -/
lemma Consistent.of_requests {c : Connection} {cs : List Connection} {frames : List Frame}
    (h : s.Consistent U) (hcs : s.connections = c :: cs)
    (haimed : ({ c with requests := frames } : Connection).Aimed U) :
    Consistent U { s with connections := { c with requests := frames } :: cs } := by
  refine ⟨?_, ?_⟩
  · intro c' hc'
    rcases List.mem_cons.mp hc' with rfl | hold
    · exact haimed
    · exact h.aimed c' (hcs ▸ List.mem_cons_of_mem _ hold)
  · rintro c' hc' hopen
    obtain rfl : { c with requests := frames } = c' := Option.some.inj hc'
    exact h.inStep c (by rw [hcs]; rfl) hopen

lemma Consistent.send_event (h : s.Consistent U) (e : ClientEvent) :
    (s.send (.event e)).Consistent U := by
  rcases s.send_cases (.event e) with heq | ⟨c, cs, hcs, -, heq⟩
  · rwa [heq]
  · rw [heq]
    exact h.of_requests hcs ((h.aimed c (hcs ▸ List.mem_cons_self)).append_event e)

/-- **A settled message** is aimed at the channel of the socket. -/
lemma Consistent.send_message (h : s.Consistent U) {p : PendingMessage}
    (hactive : p.channel = s.page.activeChannel) (hsettled : s.Settled U p.channel) :
    (s.send (.message p)).Consistent U := by
  rcases s.send_cases (.message p) with heq | ⟨c, cs, hcs, hopen, heq⟩
  · rwa [heq]
  · rw [heq]
    have hhead : c ∈ s.connections.head? := by rw [hcs]; rfl
    have hc := hsettled c hhead hopen
    -- the events in flight lead the page to the channel of the socket, and leave it where it is
    have hchannel : p.channel = c.channel := by
      calc p.channel = settle p.channel c.events := hc.events.symm
        _ = settle s.page.activeChannel c.events := by rw [hactive]
        _ = c.channel := h.inStep c hhead hopen
    exact h.of_requests hcs ((h.aimed c (hcs ▸ List.mem_cons_self)).append_message hchannel
      hc.requests)

/-- A message does not unsettle the socket. -/
lemma Settled.send_message {n : String} (h : s.Settled U n) (p : PendingMessage) :
    (s.send (.message p)).Settled U n := by
  rcases s.send_cases (.message p) with heq | ⟨c, cs, hcs, hopen, heq⟩
  · rwa [heq]
  · rw [heq]
    have hc := h c (by rw [hcs]; rfl) hopen
    rintro c' hc' -
    obtain rfl : { c with requests := c.requests ++ [.message p] } = c' := Option.some.inj hc'
    refine ⟨hc.events, ?_⟩
    intro f hf
    rcases List.mem_append.mp hf with hold | hnew
    · exact hc.requests f hold
    · rw [List.mem_singleton.mp hnew]
      exact Frame.not_diverts_message U n p

lemma Consistent.queueMessage (h : s.Consistent U) {p : PendingMessage}
    (hactive : p.channel = s.page.activeChannel) (hsettled : s.Settled U p.channel) :
    (s.queueMessage p).Consistent U := by
  rw [Chat.queueMessage]
  dsimp only
  split
  · exact (h.send_message hactive hsettled).setPage _ (by rw [send_page])
  · exact h.setPage _ rfl

lemma Consistent.submit (h : s.Consistent U) {text : String} {file : Bool} (clientId : String)
    (hsettled : s.MaySubmit → file = false → text ≠ "" → s.Settled U s.page.activeChannel) :
    (s.submit text file clientId).Consistent U := by
  rw [Chat.submit]
  split
  · exact h
  · rename_i hguard
    rw [not_or, not_not] at hguard
    split
    · exact h.setPage _ rfl
    · rename_i hfile
      rw [Bool.not_eq_true] at hfile
      refine h.queueMessage rfl (hsettled hguard.2 hfile fun htext => ?_)
      exact hguard.1 ⟨htext, hfile⟩

/-- The message of an upload is for the channel that is shown when the upload ends. -/
lemma Consistent.uploaded (h : s.Consistent U) (fileId : Uuid) (clientId : String)
    (hsettled : s.page.uploading ≠ none → s.Settled U s.page.activeChannel) :
    (s.uploaded fileId clientId).Consistent U := by
  rw [Chat.uploaded]
  split
  · exact h
  · rename_i text hup
    refine (h.setPage { s.page with uploading := none } rfl).queueMessage rfl ?_
    exact hsettled (by simp [hup])

lemma Consistent.replyInThread (h : s.Consistent U) {text : String} (clientId : String)
    (hsettled : s.page.threadRoot ≠ none → text ≠ "" → s.Settled U s.page.activeChannel) :
    (s.replyInThread text clientId).Consistent U := by
  rw [Chat.replyInThread]
  split
  · exact h
  · rename_i root hroot
    split
    · exact h
    · rename_i htext
      exact h.queueMessage rfl (hsettled (by simp [hroot]) htext)

/-- The pending messages of the channel are resent one after the other. -/
lemma Consistent.send_all {n : String} {ps : List PendingMessage} (h : s.Consistent U)
    (hactive : s.page.activeChannel = n) (hps : ∀ p ∈ ps, p.channel = n)
    (hsettled : ps ≠ [] → s.Settled U n) :
    (ps.foldl (fun s p => s.send (.message p)) s).Consistent U := by
  induction ps generalizing s with
  | nil => exact h
  | cons p ps ih =>
      have hp := hps p List.mem_cons_self
      have hset := hsettled (List.cons_ne_nil _ _)
      refine ih (h.send_message (hp.trans hactive.symm) (hp ▸ hset)) ?_ ?_ ?_
      · rw [send_page, hactive]
      · exact fun q hq => hps q (List.mem_cons_of_mem _ hq)
      · exact fun _ => hset.send_message p

lemma Consistent.flushPendingMessages (h : s.Consistent U)
    (hsettled : (∃ p ∈ s.page.pendingMessages, p.channel = s.page.activeChannel) →
      s.Settled U s.page.activeChannel) :
    (s.flushPendingMessages s.page.activeChannel).Consistent U := by
  refine h.send_all rfl ?_ ?_
  · exact fun p hp => by simpa using (List.mem_filter.mp hp).2
  · intro hne
    obtain ⟨p, hp⟩ := List.exists_mem_of_ne_nil _ hne
    obtain ⟨hmem, hchannel⟩ := List.mem_filter.mp hp
    exact hsettled ⟨p, hmem, by simpa using hchannel⟩

lemma Consistent.join (h : s.Consistent U) (name : String) : (s.join name).Consistent U := by
  rw [Chat.join]
  split
  · exact h
  · have htyping := h.send_event (.typing false)
    dsimp only
    split
    · exact (htyping.send_event (.joinChannel name)).setPage _ (by simp)
    · exact htyping

lemma Consistent.openDirect (h : s.Consistent U) (userId : Uuid) :
    (s.openDirect userId).Consistent U := by
  rw [Chat.openDirect]
  split
  · exact (h.send_event (.openDirect userId)).setPage _ (by simp)
  · exact h

/-! ### Connections -/

/-- A changed connection: the queue is aimed, and the newest one is in step while it is open. -/
lemma Consistent.setConnection (h : s.Consistent U) {i : ℕ} {c : Connection} (haimed : c.Aimed U)
    (hstep : i = 0 → c.readyState = .open → settle s.page.activeChannel c.events = c.channel) :
    (s.setConnection i c).Consistent U := by
  refine ⟨?_, ?_⟩
  · intro c' hc'
    rcases List.mem_or_eq_of_mem_set hc' with hold | rfl
    · exact h.aimed c' hold
    · exact haimed
  · intro c' hc' hopen
    cases hcs : s.connections with
    | nil =>
        rw [Chat.setConnection, hcs] at hc'
        exact absurd hc' (by simp)
    | cons c0 cs =>
        rw [Chat.setConnection, hcs] at hc'
        cases i with
        | zero =>
            obtain rfl : c = c' := Option.some.inj hc'
            exact hstep rfl hopen
        | succ i =>
            obtain rfl : c0 = c' := Option.some.inj hc'
            exact h.inStep c0 (by rw [hcs]; rfl) hopen

/-- The newest connection by its number. -/
lemma head?_of_getElem? {i : ℕ} {c : Connection} (hc : s.connections[i]? = some c) (hi : i = 0) :
    c ∈ s.connections.head? := by
  subst hi
  rw [List.head?_eq_getElem?]
  exact hc

lemma Consistent.closeSocket (h : s.Consistent U) : s.closeSocket.Consistent U := by
  rw [Chat.closeSocket]
  split
  · exact h
  · rename_i c cs hcs
    refine ⟨?_, ?_⟩
    · intro c' hc'
      rcases List.mem_cons.mp hc' with rfl | hold
      · exact (h.aimed c (hcs ▸ List.mem_cons_self)).congr rfl rfl
      · exact h.aimed c' (hcs ▸ List.mem_cons_of_mem _ hold)
    · rintro c' hc' hopen
      obtain rfl := Option.some.inj hc'
      exact absurd hopen (by simp)

lemma Consistent.disconnected (h : s.Consistent U) : s.disconnected.Consistent U := by
  rw [Chat.disconnected]
  split
  · exact h
  · exact h.setPage _ rfl

/-- A new connection is not open yet. -/
lemma Consistent.connect (h : s.Consistent U) (session : Uuid) (user : AuthUser) :
    (s.connect session user).Consistent U := by
  rw [Chat.connect]
  split
  · exact h
  · refine ⟨?_, ?_⟩
    · intro c hc
      rcases List.mem_cons.mp hc with rfl | hold
      · exact ⟨by simp, List.Pairwise.nil⟩
      · exact h.aimed c hold
    · rintro c hc hopen
      obtain rfl := Option.some.inj hc
      exact absurd hopen (by simp)

/-- `onopen`: the server is in the main channel and has confirmed it. -/
lemma Consistent.opened (h : s.Consistent U) (i : ℕ) (c : Connection) :
    (s.opened i c).Consistent U := by
  obtain ⟨events, shared, henter, hplain⟩ := enterChannel_run c.user mainChannel s.shared
  rw [Chat.opened, henter]
  dsimp only
  have hentered : Consistent U { s.setConnection i
      { c with readyState := .open, serving := true, channel := mainChannel, requests := []
               events := .welcome c.user.username :: .joined mainChannel :: events } with
      shared := shared, page := { s.page with status := .connected } } := by
    have hset := h.setConnection (i := i)
      (c := { c with readyState := .open, serving := true, channel := mainChannel, requests := []
                     events := .welcome c.user.username :: .joined mainChannel :: events })
      ⟨by simp, List.Pairwise.nil⟩ ?_
    · exact ⟨hset.aimed, hset.inStep⟩
    · rintro - -
      rw [settle_cons, settle_cons, settle_of_plain hplain]
      rfl
  split
  · exact hentered.send_event _
  · exact (hentered.send_event _).send_event _

/-- An event that confirms no channel. -/
lemma Consistent.handleEvent (h : s.Consistent U) {event : ServerEvent}
    (hplain : event.joined? = none) : (s.handleEvent event).Consistent U := by
  cases event with
  | joined name => exact absurd hplain (by simp [ServerEvent.joined?])
  | channelDeleted name =>
      rw [Chat.handleEvent]
      split
      · exact h.join mainChannel
      · exact h
  | history channel messages source hasMore =>
      rw [Chat.handleEvent]
      split
      · exact h.setPage _ rfl
      · exact h
  | message m =>
      rw [Chat.handleEvent]
      split
      · exact h
      · exact h.setPage _ rfl
  | threadHistory root messages hasMore => exact h.setPage _ rfl
  | error message =>
      rw [Chat.handleEvent]
      split
      · exact (h.setPage { s.page with intentionalClose := true } rfl).closeSocket
      · split
        · exact h.closeSocket
        · exact h
  | _ => exact h

/-- The page handles the next event of a connection. -/
lemma Consistent.handle (h : s.Consistent U) {i : ℕ} {c : Connection}
    (hc : s.connections[i]? = some c) (hopen : c.readyState = .open) {event : ServerEvent}
    {events : List ServerEvent} (hevents : c.events = event :: events)
    (hsettled : ∀ name, event = .joined name →
      i = 0 ∧ ((∃ p ∈ s.page.pendingMessages, p.channel = name) →
        ({ c with events := events } : Connection).Settled U name)) :
    ((s.setConnection i { c with events := events }).handleEvent event).Consistent U := by
  have haimed : ({ c with events := events } : Connection).Aimed U :=
    (h.aimed c (List.mem_of_getElem? hc)).congr rfl rfl
  have hstep : i = 0 → settle (event.joined?.getD s.page.activeChannel) events = c.channel := by
    intro hi
    rw [← h.inStep c (head?_of_getElem? hc hi) hopen, hevents, settle_cons]
  cases hjoined : event.joined? with
  | none =>
      rw [hjoined] at hstep
      exact (h.setConnection haimed fun hi _ => hstep hi).handleEvent hjoined
  | some name =>
      obtain rfl : event = .joined name := by
        cases event with
        | joined name' =>
            rw [ServerEvent.joined?, Option.some.injEq] at hjoined
            rw [hjoined]
        | _ => exact absurd hjoined (by simp [ServerEvent.joined?])
      obtain ⟨rfl, hset⟩ := hsettled name rfl
      -- the page follows the socket, and then resends what is pending there
      obtain ⟨c0, cs, hcs⟩ : ∃ c0 cs, s.connections = c0 :: cs := by
        cases hcs : s.connections with
        | nil => rw [hcs] at hc; exact absurd hc (by simp)
        | cons c0 cs => exact ⟨c0, cs, rfl⟩
      have hmoved : Consistent U ((s.setConnection 0 { c with events := events }).setPage
          { s.page with activeChannel := name, pendingChannel := none, threadRoot := none,
                        historyLoading := true }) := by
        refine ⟨?_, ?_⟩
        · intro c' hc'
          rcases List.mem_or_eq_of_mem_set hc' with hold | rfl
          · exact h.aimed c' hold
          · exact haimed
        · intro c' hc' _
          rw [Chat.setPage, Chat.setConnection, hcs] at hc'
          obtain rfl := Option.some.inj hc'
          exact hstep rfl
      refine hmoved.flushPendingMessages fun hpending => ?_
      intro c' hc' _
      rw [Chat.setPage, Chat.setConnection, hcs] at hc'
      obtain rfl := Option.some.inj hc'
      exact hset hpending

/-- The server reads the next frame of a connection. -/
lemma Consistent.serve (h : s.Consistent U) {i : ℕ} {c : Connection}
    (hc : s.connections[i]? = some c) {frame : Frame} {rest : List Frame}
    (hrequests : c.requests = frame :: rest) (active : Bool) (fresh : Fresh) :
    (Chat.serve U s i c active fresh frame rest).Consistent U := by
  have haimed := (h.aimed c (List.mem_of_getElem? hc)).answer hrequests active fresh s.shared
  have hread := Connection.answer_requests U active fresh frame s.shared { c with requests := rest }
  obtain ⟨sent, hevents, hcases⟩ :=
    Connection.answer_cases U active fresh frame s.shared { c with requests := rest }
  have hset := h.setConnection (i := i) haimed ?_
  · exact ⟨hset.aimed, hset.inStep⟩
  · intro hi hopen
    rw [hread.2] at hopen
    rw [hevents, settle_append]
    rcases hcases with ⟨hstays, hplain⟩ | ⟨-, hsettle⟩
    · rw [settle_of_plain hplain, hstays]
      exact h.inStep c (head?_of_getElem? hc hi) hopen
    · exact hsettle _

/-- Broadcasts confirm no channel. -/
lemma joined?_of_isBroadcast {event : ServerEvent} (h : event.isBroadcast) :
    event.joined? = none := by
  cases event with
  | joined name => exact absurd h (by simp [ServerEvent.isBroadcast])
  | _ => rfl

/-- A frame of a room or of the control channel. -/
lemma Consistent.push (h : s.Consistent U) {i : ℕ} {c : Connection}
    (hc : s.connections[i]? = some c) {event : ServerEvent} (hevent : event.isBroadcast) :
    (s.setConnection i { c with events := c.events ++ [event] }).Consistent U := by
  have haimed := h.aimed c (List.mem_of_getElem? hc)
  refine h.setConnection (haimed.congr rfl rfl) fun hi hopen => ?_
  have hplain := joined?_of_isBroadcast hevent
  calc settle s.page.activeChannel (c.events ++ [event])
      = settle c.channel [event] := by
        rw [settle_append, h.inStep c (head?_of_getElem? hc hi) hopen]
    _ = c.channel := by rw [settle_cons, hplain, Option.getD_none, settle_nil]

/-! ### Runs -/

/-- **Every step** that sends settled messages keeps the page and the server consistent. -/
theorem Consistent.step (h : s.Consistent U) (a : ChatAct) (hsettled : s.SendsSettled U a) :
    (Chat.step U s a).Consistent U := by
  cases a with
  | signIn session user =>
      exact (h.setPage { s.page with intentionalClose := false } rfl).connect _ _
  | reconnect session user => exact h.connect session user
  | connectFails => exact h.disconnected
  | opened i =>
      rw [Chat.step]
      split
      · exact h
      · split
        · exact h.opened i _
        · exact h
  | closed i =>
      rw [Chat.step]
      split
      · exact h
      · rename_i c hc
        have haimed := h.aimed c (List.mem_of_getElem? hc)
        have hclosed : (s.setConnection i { c with readyState := .closed }).Consistent U :=
          h.setConnection (haimed.congr rfl rfl) fun _ hopen => absurd hopen (by simp)
        dsimp only
        split
        · exact hclosed.disconnected
        · exact hclosed
  | signOut => exact (h.setPage { s.page with intentionalClose := true } rfl).closeSocket
  | handle i =>
      rw [Chat.step]
      split
      · exact h
      · rename_i c hc
        split
        · exact h
        · rename_i event events hevents
          split
          · rename_i hopen
            exact h.handle hc hopen hevents fun name hname =>
              hsettled c hc hopen name events (hname ▸ hevents)
          · exact h
  | join name => exact h.join name
  | openDirect userId => exact h.openDirect userId
  | removeChannel name =>
      rw [Chat.step]
      split
      · exact h
      · exact h.send_event _
  | openThread messageId =>
      exact (h.setPage { s.page with threadRoot := some messageId } rfl).send_event _
  | submit text file clientId => exact h.submit clientId hsettled
  | uploaded fileId clientId => exact h.uploaded fileId clientId hsettled
  | uploadFails => exact h.setPage _ rfl
  | replyInThread text clientId => exact h.replyInThread clientId hsettled
  | background event =>
      rw [Chat.step]
      split
      · exact h.send_event event
      · exact h
  | serve i active fresh =>
      rw [Chat.step]
      split
      · exact h
      · rename_i c hc
        split
        · exact h
        · rename_i frame rest hrequests
          split
          · exact h.serve hc hrequests active fresh
          · exact h
  | push i event =>
      rw [Chat.step]
      split
      · exact h
      · rename_i c hc
        split
        · rename_i hpush
          exact h.push hc hpush.2
        · exact h
  | hangUp i =>
      rw [Chat.step]
      split
      · exact h
      · rename_i c hc
        have haimed := h.aimed c (List.mem_of_getElem? hc)
        exact h.setConnection (haimed.congr rfl rfl) fun hi hopen =>
          h.inStep c (head?_of_getElem? hc hi) hopen
  | world shared => exact ⟨h.aimed, h.inStep⟩

/-- Aimed messages are saved where they were composed. -/
lemma Consistent.saves (h : s.Consistent U) (a : ChatAct) : s.SavesWhereComposed U a := by
  cases a with
  | serve i active fresh =>
      intro c hc p rest hrequests row hrow
      rw [Chat.step, hc] at hrow
      simp only [hrequests] at hrow
      split at hrow
      · have haimed := h.aimed c (List.mem_of_getElem? hc)
        rw [haimed.composed p (hrequests ▸ List.mem_cons_self)]
        exact Connection.answer_message_rows U active fresh s.shared { c with requests := rest } p
          row hrow
      · exact Or.inl hrow
  | _ => trivial

/-- **Messages are saved where they were composed**: in every run in which no message is sent while
a switch away from its channel is in flight, and no `joined` of an older connection is handled,
every row the server saves for a message of the page is in the channel of that message. -/
theorem saves_where_composed (U : Unicode) (shared : Shared) (acts : List ChatAct)
    (hsettled : Run.Along (step U) (SendsSettled U) (start shared) acts) :
    Run.Along (step U) (SavesWhereComposed U) (start shared) acts := by
  have hstart : (start shared).Consistent U := ⟨by simp [start], by simp [start]⟩
  refine Run.Along.of_invariant (I := Consistent U) ?_ ?_ hstart hsettled
  · exact fun s a h hsettled => h.step a hsettled
  · exact fun s a h _ => h.saves a

/-! ### A message in a direct conversation -/

/-- Two users and the main channel. -/
def twoUsers : Shared where
  db :=
    { users := [{ id := 30, username := "ada", displayName := "ada" },
        { id := 31, username := "bob", displayName := "bob" }]
      channels := [{ id := 1, name := mainChannel, createdAt := 0 }] }
  now := 10

/-- The page signs in and shows the main channel. -/
def mainShown : List ChatAct :=
  [.signIn 5 { id := 30, email := "", username := "ada", roles := [], permissions := [.chatWrite] },
    .opened 0, .handle 0, .handle 0, .handle 0]

/-- A message is submitted in the main channel. -/
def hiSubmitted : ChatAct := .submit "hi" false "m1"

/-- The server reads a frame. -/
def frameRead (id : Uuid) : ChatAct := .serve 0 true ⟨id, id, id⟩

/-- The page shows the main channel before it has pending messages. -/
lemma mainShown_settled :
    Run.Along (step .ascii) (SendsSettled .ascii) (start twoUsers) mainShown := by
  refine ⟨trivial, trivial, ?_, ?_, ?_, trivial⟩
  all_goals
    rintro c - - name events -
    refine ⟨rfl, ?_⟩
    rintro ⟨p, hp, -⟩
    exact absurd hp List.not_mem_nil

/-- A message in the main channel, with nothing in flight but a heartbeat. -/
theorem saves_where_composed_main :
    Run.Along (step .ascii) (SendsSettled .ascii) (start twoUsers)
      (mainShown ++ [hiSubmitted, frameRead 90, frameRead 93]) ∧
    Run.Along (step .ascii) (SavesWhereComposed .ascii) (start twoUsers)
      (mainShown ++ [hiSubmitted, frameRead 90, frameRead 93]) ∧
    (Run.final (step .ascii) (start twoUsers)
      (mainShown ++ [hiSubmitted, frameRead 90, frameRead 93])).shared.db.messages.map
        MessageRow.channelId = [1] := by
  have hsettled : Run.Along (step .ascii) (SendsSettled .ascii) (start twoUsers)
      (mainShown ++ [hiSubmitted, frameRead 90, frameRead 93]) := by
    rw [Run.along_append]
    refine ⟨mainShown_settled, ?_, trivial, trivial, trivial⟩
    intro _ _ _ c hc _
    have hqueues : (Run.final (step .ascii) (start twoUsers) mainShown).connections.head?.map
        (fun c => (c.requests, c.events.map ServerEvent.joined?)) =
          some ([.event .heartbeat], [none]) := by decide +kernel
    rw [Option.mem_def.mp hc, Option.map_some, Option.some.injEq, Prod.mk.injEq] at hqueues
    refine ⟨settle_of_plain ?_ _, ?_⟩
    · intro e he
      have hmem := List.mem_map_of_mem (f := ServerEvent.joined?) he
      rw [hqueues.2] at hmem
      exact List.mem_singleton.mp hmem
    · intro f hf
      rw [hqueues.1, List.mem_singleton] at hf
      rw [hf]
      rintro ⟨dest, -, hleads⟩
      exact hleads
  exact ⟨hsettled, saves_where_composed .ascii twoUsers _ hsettled, by decide +kernel⟩

/-- The user opens a direct conversation and, while the request is in flight, submits a message in
the main channel; the server reads the request first. -/
def directOpened : List ChatAct :=
  mainShown ++ [.openDirect 31, hiSubmitted, frameRead 90, frameRead 93]

/-- The message of the main channel is saved in the direct conversation. -/
theorem saved_in_direct :
    ¬ Run.Along (step .ascii) (SavesWhereComposed .ascii) (start twoUsers)
      (directOpened ++ [frameRead 96]) := by
  intro hsaves
  rw [Run.along_append] at hsaves
  have hrequests : (Run.final (step .ascii) (start twoUsers) directOpened).connections[0]?.map
      Connection.requests = some [.message ⟨mainChannel, "hi", [], none, "m1"⟩] := by
    decide +kernel
  obtain ⟨c, hc, hrequests⟩ := Option.map_eq_some_iff.mp hrequests
  have hmisplaced : ∃ row ∈ (Run.final (step .ascii) (start twoUsers)
      (directOpened ++ [frameRead 96])).shared.db.messages,
      row ∉ (Run.final (step .ascii) (start twoUsers) directOpened).shared.db.messages ∧
      ((Run.final (step .ascii) (start twoUsers) directOpened).shared.db.liveChannel?
        mainChannel).map ChannelRow.id ≠ some row.channelId := by decide +kernel
  obtain ⟨row, hrow, hnew, hchannel⟩ := hmisplaced
  rw [Run.final_append] at hrow
  rcases hsaves.2.1 c hc _ _ hrequests row hrow with hold | ⟨ch, hch, hid⟩
  · exact hnew hold
  · rw [hch, Option.map_some, hid] at hchannel
    exact hchannel rfl

end Chat

end Vussa
