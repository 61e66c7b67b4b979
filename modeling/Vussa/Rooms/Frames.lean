import Vussa.Lib.Broadcast
import Vussa.Rooms.Manager

/-!
The frames of a room on their way to the sockets (`run_room_manager` of `websocket/rooms.rs`, the
receiving arms of `handle_socket` in `websocket/handler.rs`). The manager forwards a frame through
the bounded broadcast channel of its room, and the notice that makes a page reconnect through the
bounded control channel; every socket task reads both when it gets to it. A receiver that has
fallen behind is answered `Lagged`, which is logged and no more.

* `Seat`, `Listener`: the stay of a socket in a room, with what it was sent, and its receivers;
* `State`, `Act`, `State.step`: the manager and the tasks of `Rooms.State` with the receivers;
* `Listener.Gapless`: what a socket was sent before the notice is what was forwarded, from the
  first frame of its stay on;
* `State.Timely`: no socket without the notice reads a room receiver that has fallen behind;
* `gapless_of_along`: **in a run of timely steps no socket misses a frame silently**;
* `lagging_skips`: one frame more than the channel retains.
-/

namespace Vussa.Rooms.Frames

open Run Broadcast

/-! ### Receivers -/

/-- `WS_ROOM_EVENT_CAPACITY`, as parsed. The channel retains as many frames as the next power of two
says; the default and `controlCapacity` are such powers. -/
def roomEventCapacity (value : Option ℕ) : ℕ :=
  max 128 (min ((value.filter fun n => 0 < n).getD 4096) 65536)

/-- The capacity of the control channel. -/
def controlCapacity : ℕ := 128

/-- The notice that makes the page close its socket and connect again. -/
def interrupted : ServerEvent := .error "realtime connection interrupted"

/-- A stay in a room: the receiver, and whether the sender it belongs to is still the one of the
room. `forwarded` is what the manager has forwarded to the room since, `shown` what the socket was
sent of it before the notice: no code reads them. -/
structure Seat where
  room : String
  receiver : Receiver ServerEvent := .start
  live : Bool := true
  forwarded : List ServerEvent := []
  shown : List ServerEvent := []

/-- The receivers of a socket task, and whether it has sent the notice. -/
structure Listener where
  seat : Option Seat := none
  control : Option (Receiver ServerEvent) := none
  resynced : Bool := false

/-- A frame is forwarded to the room. -/
def Seat.forward (seat : Seat) (event : ServerEvent) : Seat :=
  { seat with
    receiver := if seat.live then seat.receiver.push event else seat.receiver
    forwarded := seat.forwarded ++ [event] }

namespace Listener

/-- Change the seat, if it is in the room. -/
def inRoom (channel : String) (f : Seat → Seat) (l : Listener) : Listener :=
  { l with seat := l.seat.map fun seat => if seat.room = channel then f seat else seat }

/-- `control.send`. -/
def announce (event : ServerEvent) (l : Listener) : Listener :=
  { l with control := l.control.map fun r => r.push event }

/-- `room_rx.recv`; a frame goes to the socket. -/
def recvRoom (ring : ℕ) (l : Listener) : Listener :=
  match l.seat with
  | none => l
  | some seat =>
      match seat.receiver.recv ring with
      | (.value frame, receiver) =>
          let shown := if l.resynced then seat.shown else seat.shown ++ [frame]
          { l with seat := some { seat with receiver := receiver, shown := shown } }
      -- `WebSocket room channel lagged`
      | (.lagged, receiver) => { l with seat := some { seat with receiver := receiver } }
      | (.empty, _) => l

/-- `room_rx.recv` answers `Closed`: the sender is gone, and everything it sent is read. -/
def closed (l : Listener) : Bool :=
  l.seat.any fun seat => !seat.live && seat.receiver.next == seat.receiver.sent.length

/-- `control_rx.recv`; a frame goes to the socket. -/
def recvControl (ring : ℕ) (l : Listener) : Listener :=
  match l.control with
  | none => l
  | some receiver =>
      match receiver.recv ring with
      | (.value frame, receiver) =>
          { l with control := some receiver, resynced := l.resynced || frame == interrupted }
      -- `WebSocket control channel lagged`
      | (.lagged, receiver) => { l with control := some receiver }
      | (.empty, _) => l

end Listener

/-! ### The system -/

/-- The manager with its tasks, and the receivers of each task. -/
structure State where
  base : Rooms.State := {}
  listeners : List Listener := []

/-- Everything that can happen. -/
inductive Act where
  /-- a move of the tasks or of the command loop -/
  | base (act : Rooms.Act)
  /-- `subscribe_control` in the setup of a task -/
  | listen (k : ℕ)
  /-- the connection to Valkey is lost, and the notice is sent -/
  | interrupt
  /-- the arm of `room_rx.recv` -/
  | recvRoom (k : ℕ)
  /-- the arm of `control_rx.recv` -/
  | recvControl (k : ℕ)

namespace State

/-- Change the receivers of a task. -/
def modify (s : State) (k : ℕ) (f : Listener → Listener) : State :=
  { s with listeners := s.listeners.modify k f }

/-- The task is in its loop. -/
def Looping (s : State) (k : ℕ) : Prop := ∃ channel, (s.base.task k).phase = .looping channel

instance (s : State) (k : ℕ) : Decidable (s.Looping k) :=
  match h : (s.base.task k).phase with
  | .looping channel => isTrue ⟨channel, h⟩
  | .opening | .switching _ | .awaiting _ _ | .entering _ | .closing _ | .closed =>
      isFalse (by rintro ⟨channel, hloop⟩; rw [h] at hloop; cases hloop)

/-- The receivers after the command loop has taken a command: a granted `Subscribe` gives one, and
a `Release` that closes the room drops the sender. -/
def managed (s : State) (subscribed : Bool) : List Listener :=
  match s.base.commands with
  | [] => s.listeners
  | .subscribe channel k :: _ =>
      if (s.base.hub.subscribe channel subscribed).2 then
        s.listeners.modify k fun l => { l with seat := some { room := channel } }
      else s.listeners
  | .release channel _ :: _ =>
      if (s.base.hub.release channel).rooms channel = none then
        s.listeners.map (Listener.inRoom channel fun seat => { seat with live := false })
      else s.listeners

/-- The receivers after a publication: the routing match of `run_room_manager`. -/
def routed (s : State) (event : ServerEvent) : List Listener :=
  match event with
  | .channelCreated _ | .channelDeleted _ => s.listeners.map (Listener.announce event)
  | _ =>
      match event.room? with
      | some channel =>
          if (s.base.hub.rooms channel).isSome then
            s.listeners.map (Listener.inRoom channel fun seat => seat.forward event)
          else s.listeners
      | none => s.listeners

/-- One step, with the numbers of values the room channels and the control channel retain. -/
def step (ring controlRing : ℕ) (s : State) : Act → State
  | .base act =>
      match act with
      | .connect => { base := s.base.step act, listeners := s.listeners ++ [{}] }
      | .subscribe k =>
          -- `subscribe_control` stands before the first `subscribe`
          if (s.base.task k).phase = .opening ∧ s.listeners[k]?.bind Listener.control = none then s
          else { s with base := s.base.step act }
      | .manage subscribed => { base := s.base.step act, listeners := s.managed subscribed }
      | .publish event => { base := s.base.step act, listeners := s.routed event }
      | _ => { s with base := s.base.step act }
  | .listen k =>
      if (s.base.task k).phase = .opening then
        s.modify k fun l => { l with control := some .start }
      else s
  | .interrupt => { s with listeners := s.listeners.map (Listener.announce interrupted) }
  | .recvRoom k =>
      if s.Looping k then
        if s.listeners[k]?.any Listener.closed then { s with base := s.base.step (.leave k) }
        else s.modify k (Listener.recvRoom ring)
      else s
  | .recvControl k =>
      if s.Looping k then s.modify k (Listener.recvControl controlRing) else s

end State

/-! ### What a socket is sent -/

/-- The frames a socket was sent before the notice are those forwarded in its stay, from the first
one on, and without the notice it was sent all of them once it has read its receiver to the end. -/
def Listener.Gapless (l : Listener) : Prop :=
  ∀ seat ∈ l.seat, seat.shown <+: seat.forwarded ∧
    (l.resynced = false → seat.live → seat.receiver.next = seat.receiver.sent.length →
      seat.shown = seat.forwarded)

/-- No socket reads a room receiver that has fallen behind, unless it was sent the notice. -/
def State.Timely (ring : ℕ) (s : State) : Act → Prop
  | .recvRoom k => s.Looping k → ∀ l ∈ s.listeners[k]?, ∀ seat ∈ l.seat,
      seat.receiver.Lags ring → l.resynced
  | _ => True

instance (ring : ℕ) (s : State) : ∀ a, Decidable (s.Timely ring a)
  | .recvRoom k => inferInstanceAs (Decidable (s.Looping k → ∀ l ∈ s.listeners[k]?,
      ∀ seat ∈ l.seat, seat.receiver.Lags ring → l.resynced = true))
  | .base _ | .listen _ | .interrupt | .recvControl _ => inferInstanceAs (Decidable True)

/-- The invariant of a stay. -/
structure Seat.Sound (resynced : Bool) (seat : Seat) : Prop where
  sent : seat.receiver.sent <+: seat.forwarded
  live : seat.live → seat.receiver.sent = seat.forwarded
  shown : seat.shown <+: seat.forwarded
  seen : resynced = false → seat.shown = seat.receiver.seen

/-- The invariant of a socket. -/
def Listener.Sound (l : Listener) : Prop := ∀ seat ∈ l.seat, seat.Sound l.resynced

lemma Listener.Sound.gapless {l : Listener} (h : l.Sound) : l.Gapless := by
  intro seat hseat
  have hsound := h seat hseat
  refine ⟨hsound.shown, fun hquiet hlive hend => ?_⟩
  calc seat.shown = seat.receiver.seen := hsound.seen hquiet
    _ = seat.receiver.sent := Receiver.seen_eq_sent hend
    _ = seat.forwarded := hsound.live hlive

namespace Seat.Sound

variable {resynced : Bool} {seat : Seat}

lemma start (resynced : Bool) (channel : String) : Seat.Sound resynced { room := channel } :=
  ⟨List.prefix_rfl, fun _ => rfl, List.prefix_rfl, fun _ => rfl⟩

lemma forward (h : seat.Sound resynced) (event : ServerEvent) :
    (seat.forward event).Sound resynced := by
  have hgrow : seat.forwarded <+: seat.forwarded ++ [event] := List.prefix_append _ _
  cases hlive : seat.live with
  | true =>
      have heq : seat.receiver.sent ++ [event] = seat.forwarded ++ [event] := by
        rw [h.live hlive]
      have hreceiver : (seat.forward event).receiver = seat.receiver.push event := by
        rw [Seat.forward, hlive]
        rfl
      refine ⟨?_, fun _ => ?_, h.shown.trans hgrow, fun hquiet => ?_⟩
      · rw [hreceiver]
        exact ⟨[], (List.append_nil _).trans heq⟩
      · rw [hreceiver]
        exact heq
      · rw [hreceiver, Receiver.seen_push]
        exact h.seen hquiet
  | false =>
      have hreceiver : (seat.forward event).receiver = seat.receiver := by
        rw [Seat.forward, hlive]
        rfl
      refine ⟨?_, fun hthis => ?_, h.shown.trans hgrow, fun hquiet => ?_⟩
      · rw [hreceiver]
        exact h.sent.trans hgrow
      · exact absurd (hlive.symm.trans hthis) Bool.false_ne_true
      · rw [hreceiver]
        exact h.seen hquiet

lemma drop (h : seat.Sound resynced) : Seat.Sound resynced { seat with live := false } :=
  ⟨h.sent, fun hlive => absurd hlive Bool.false_ne_true, h.shown, h.seen⟩

end Seat.Sound

namespace Listener.Sound

variable {l : Listener}

lemma inRoom (h : l.Sound) (channel : String) {f : Seat → Seat}
    (hf : ∀ seat, seat.Sound l.resynced → (f seat).Sound l.resynced) :
    (l.inRoom channel f).Sound := by
  intro seat hseat
  obtain ⟨old, hold, rfl⟩ := Option.map_eq_some_iff.mp hseat
  split_ifs
  · exact hf old (h old hold)
  · exact h old hold

/-- A socket reads the room: the next frame follows what it was sent. -/
lemma recvRoom {ring : ℕ} (h : l.Sound)
    (htimely : ∀ seat ∈ l.seat, seat.receiver.Lags ring → l.resynced) :
    (l.recvRoom ring).Sound := by
  rw [Listener.recvRoom]
  cases hseat : l.seat with
  | none => exact h
  | some seat =>
      have hsound := h seat hseat
      obtain ⟨hlags, r, heq, hsent⟩ | ⟨frame, r, heq, hsent, hseen⟩ | heq :=
        seat.receiver.recv_cases ring
      · simp only [heq]
        rintro _ ⟨⟩
        refine ⟨?_, fun hlive => ?_, hsound.shown, fun hquiet => ?_⟩
        · exact hsent ▸ hsound.sent
        · exact hsent ▸ hsound.live hlive
        · exact absurd (hquiet.symm.trans (htimely seat hseat hlags)) Bool.false_ne_true
      · simp only [heq]
        rintro _ ⟨⟩
        refine ⟨hsent ▸ hsound.sent, fun hlive => hsent ▸ hsound.live hlive, ?_, fun hquiet => ?_⟩
        · cases hresynced : l.resynced with
          | true => exact hsound.shown
          | false =>
              change seat.shown ++ [frame] <+: seat.forwarded
              rw [hsound.seen hresynced, ← hseen]
              exact (hsent ▸ r.seen_prefix).trans hsound.sent
        · change (if l.resynced then seat.shown else seat.shown ++ [frame]) = r.seen
          have hresynced : l.resynced = false := hquiet
          rw [hresynced, hseen, hsound.seen hresynced]
          rfl
      · simp only [heq]
        exact h

lemma recvControl (h : l.Sound) (ring : ℕ) : (l.recvControl ring).Sound := by
  rw [Listener.recvControl]
  cases l.control with
  | none => exact h
  | some receiver =>
      obtain ⟨-, r, heq, -⟩ | ⟨frame, r, heq, -, -⟩ | heq := receiver.recv_cases ring
      · simp only [heq]
        exact h
      · simp only [heq]
        intro seat hseat
        have hsound := h seat hseat
        refine ⟨hsound.sent, hsound.live, hsound.shown, fun hquiet => hsound.seen ?_⟩
        exact (Bool.or_eq_false_iff.mp hquiet).1
      · simp only [heq]
        exact h

end Listener.Sound

/-! ### Runs -/

/-- The invariant: every socket is sound. -/
def State.Sound (s : State) : Prop := ∀ l ∈ s.listeners, l.Sound

lemma sound_map {ls : List Listener} (h : ∀ l ∈ ls, l.Sound) {f : Listener → Listener}
    (hf : ∀ l : Listener, l.Sound → (f l).Sound) : ∀ l ∈ ls.map f, l.Sound := by
  intro l hl
  obtain ⟨old, hold, rfl⟩ := List.mem_map.mp hl
  exact hf old (h old hold)

lemma sound_modify {ls : List Listener} (h : ∀ l ∈ ls, l.Sound) (k : ℕ) {f : Listener → Listener}
    (hf : ∀ l ∈ ls[k]?, l.Sound → (f l).Sound) : ∀ l ∈ ls.modify k f, l.Sound := by
  intro l hl
  obtain ⟨i, hi⟩ := List.mem_iff_getElem?.mp hl
  rw [List.getElem?_modify] at hi
  obtain ⟨old, hold, heq⟩ := Option.map_eq_some_iff.mp hi
  have hsound := h old (List.mem_of_getElem? hold)
  split_ifs at heq with hik
  · subst hik heq
    exact hf old hold hsound
  · exact heq ▸ hsound

lemma sound_managed {s : State} (h : s.Sound) (subscribed : Bool) :
    ∀ l ∈ s.managed subscribed, l.Sound := by
  rw [State.managed]
  split
  · exact h
  · split_ifs
    · refine sound_modify h _ fun l _ _ seat hseat => ?_
      obtain rfl := Option.some.inj hseat
      exact .start _ _
    · exact h
  · split_ifs
    · exact sound_map h fun l hl => hl.inRoom _ fun seat hseat => hseat.drop
    · exact h

lemma sound_routed {s : State} (h : s.Sound) (event : ServerEvent) :
    ∀ l ∈ s.routed event, l.Sound := by
  unfold State.routed
  split
  · exact sound_map h fun l hl => hl
  · exact sound_map h fun l hl => hl
  · split
    · split_ifs
      · exact sound_map h fun l hl => hl.inRoom _ fun seat hseat => hseat.forward event
      · exact h
    · exact h

/-- A timely step keeps every socket sound. -/
lemma sound_step (ring controlRing : ℕ) {s : State} (h : s.Sound) {a : Act}
    (htimely : s.Timely ring a) : (s.step ring controlRing a).Sound := by
  cases a with
  | base act =>
      cases act with
      | connect =>
          intro l hl
          obtain hl | hl := List.mem_append.mp hl
          · exact h l hl
          · rw [List.mem_singleton.mp hl]
            exact fun seat hseat => nomatch hseat
      | subscribe k =>
          simp only [State.step]
          split_ifs <;> exact h
      | manage subscribed => exact sound_managed h subscribed
      | publish event => exact sound_routed h event
      | reject _ | resume _ | enter _ | leave _ | switchTo _ _ | close _ => exact h
  | listen k =>
      simp only [State.step]
      split_ifs
      · exact sound_modify h k fun l _ hl => hl
      · exact h
  | interrupt => exact sound_map h fun l hl => hl
  | recvRoom k =>
      simp only [State.step]
      split_ifs with hloop
      · exact h
      · exact sound_modify h k fun l hl hsound => hsound.recvRoom (htimely hloop l hl)
      · exact h
  | recvControl k =>
      simp only [State.step]
      split_ifs
      · exact sound_modify h k fun l _ hl => hl.recvControl controlRing
      · exact h

/-- In a run of timely steps no socket misses a frame silently, whatever the two channels retain. -/
theorem gapless_of_along (ring controlRing : ℕ) {as : List Act}
    (h : Along (State.step ring controlRing) (State.Timely ring) {} as) :
    ∀ l ∈ (final (State.step ring controlRing) {} as).listeners, l.Gapless := by
  have hsound : (final (State.step ring controlRing) {} as).Sound :=
    h.invariant (I := State.Sound) (fun _ _ hs ht => sound_step ring controlRing hs ht)
      fun l hl => absurd hl List.not_mem_nil
  exact fun l hl => (hsound l hl).gapless

/-! ### One socket in one room -/

/-- A socket connects and enters the main room. -/
def entered : List Act :=
  [.base .connect, .listen 0, .base (.subscribe 0), .base (.manage true), .base (.resume 0),
    .base (.enter 0)]

/-- Somebody types, or has stopped. -/
def typed (typing : Bool) : ServerEvent := .typing mainChannel 1 "ada" typing

/-- The socket reads as the frames come in. -/
def keptUp : List Act :=
  entered ++ [.base (.publish (typed true)), .recvRoom 0, .base (.publish (typed false)),
    .recvRoom 0]

theorem keptUp_gapless :
    ((final (State.step (roomEventCapacity none) controlCapacity) {} keptUp).listeners.map
      fun l => l.seat.map Seat.shown) = [some [typed true, typed false]] ∧
    ∀ l ∈ (final (State.step (roomEventCapacity none) controlCapacity) {} keptUp).listeners,
      l.Gapless :=
  ⟨by decide +kernel, gapless_of_along _ _ (by decide +kernel)⟩

/-- The only socket is in its loop and in an open room, and was not sent the notice. -/
structure Seated (s : State) (seat : Seat) : Prop where
  looping : s.Looping 0
  room : (s.base.hub.rooms seat.room).isSome
  live : seat.live
  listeners : ∃ control, s.listeners = [{ seat := some seat, control := control }]

namespace Seated

variable (ring controlRing : ℕ) {s : State} {seat : Seat}

lemma publish (h : Seated s seat) {event : ServerEvent} (hroom : event.room? = some seat.room) :
    Seated (s.step ring controlRing (.base (.publish event))) (seat.forward event) := by
  obtain ⟨control, hlisteners⟩ := h.listeners
  refine ⟨h.looping, ?_, h.live, control, ?_⟩
  · change ((s.base.hub.route event).rooms seat.room).isSome
    obtain ⟨entry, hentry⟩ := Option.isSome_iff_exists.mp h.room
    rw [Hub.route_of_room _ hroom, Hub.sendRoom, hentry, Hub.setRoom_self]
    rfl
  · change s.routed event = _
    unfold State.routed
    split
    · cases hroom
    · cases hroom
    · rw [hroom]
      simp only [h.room, if_true, hlisteners, List.map_cons, List.map_nil, Listener.inRoom,
        Option.map_some]

/-- The same frame over and over, while the socket does not read. -/
lemma publishes (h : Seated s seat) {event : ServerEvent} (hroom : event.room? = some seat.room)
    (n : ℕ) : ∃ seat', Seated (final (State.step ring controlRing) s
        (List.replicate n (.base (.publish event)))) seat' ∧
      seat'.shown = seat.shown ∧ seat'.forwarded = seat.forwarded ++ List.replicate n event ∧
      seat'.receiver.sent = seat.receiver.sent ++ List.replicate n event ∧
      seat'.receiver.next = seat.receiver.next := by
  induction n generalizing s seat with
  | zero => exact ⟨seat, h, rfl, (List.append_nil _).symm, (List.append_nil _).symm, rfl⟩
  | succ n ih =>
      have hpushed : (seat.forward event).receiver = seat.receiver.push event := by
        rw [Seat.forward, h.live]
        rfl
      obtain ⟨seat', hseated, hshown, hforwarded, hsent, hnext⟩ :=
        ih (h.publish ring controlRing hroom) hroom
      refine ⟨seat', hseated, hshown, ?_, ?_, ?_⟩
      · rw [hforwarded, List.replicate_succ]
        exact List.append_assoc _ _ _
      · rw [hsent, hpushed, List.replicate_succ]
        exact List.append_assoc _ _ _
      · rw [hnext, hpushed]
        rfl

/-- The socket reads its room. -/
lemma recv (h : Seated s seat) (seat' : Seat) (hroom : seat'.room = seat.room)
    (hlive : seat'.live) (hrecv : ∀ control, ({ seat := some seat, control := control } :
      Listener).recvRoom ring = { seat := some seat', control := control }) :
    Seated (s.step ring controlRing (.recvRoom 0)) seat' := by
  obtain ⟨control, hlisteners⟩ := h.listeners
  have hclosed : s.listeners[0]?.any Listener.closed = false := by
    rw [hlisteners]
    simp [Listener.closed, h.live]
  have hstep : s.step ring controlRing (.recvRoom 0) = s.modify 0 (Listener.recvRoom ring) := by
    rw [State.step, if_pos h.looping, hclosed]
    rfl
  rw [hstep]
  refine ⟨h.looping, hroom ▸ h.room, hlive, control, ?_⟩
  rw [State.modify, hlisteners, ← hrecv control]
  rfl

/-- Of one frame more than the channel retains the socket is sent the second one first. -/
lemma skips (h : Seated s seat) (hring : 0 < ring) (hnext : seat.receiver.next = 0)
    (hlength : seat.receiver.sent.length = ring + 1) {frame : ServerEvent}
    (hframe : seat.receiver.sent[1]? = some frame) :
    ∃ seat', Seated (final (State.step ring controlRing) s [.recvRoom 0, .recvRoom 0]) seat' ∧
      seat'.shown = seat.shown ++ [frame] ∧ seat'.forwarded = seat.forwarded := by
  have hlags : seat.receiver.Lags ring := by
    rw [Receiver.Lags, hnext, hlength]
    omega
  let behind : Receiver ServerEvent :=
    ⟨seat.receiver.sent, seat.receiver.sent.length - ring, Nat.sub_le _ _⟩
  have hone : behind.next = 1 := by
    change seat.receiver.sent.length - ring = 1
    omega
  have hkeeps : ¬ behind.Lags ring := by
    rw [Receiver.Lags, hone]
    change ¬ 1 + ring < seat.receiver.sent.length
    omega
  have hlt : behind.next < behind.sent.length := by
    rw [hone]
    change 1 < seat.receiver.sent.length
    omega
  have hget : behind.sent.get ⟨behind.next, hlt⟩ = frame := by
    have hsome : behind.sent[behind.next]? = some frame := by
      rw [hone]
      exact hframe
    obtain ⟨_, heq⟩ := List.getElem?_eq_some_iff.mp hsome
    exact heq
  -- the first read is answered `Lagged`, the second finds the oldest frame retained
  have hfirst := h.recv ring controlRing { seat with receiver := behind } rfl h.live
    fun control => by
      simp only [Listener.recvRoom, Receiver.recv_of_lags hlags, behind]
  have hsecond := hfirst.recv ring controlRing
    { seat with
      receiver := ⟨behind.sent, behind.next + 1, hlt⟩, shown := seat.shown ++ [frame] }
    rfl h.live fun control => by
      simp only [Listener.recvRoom, Receiver.recv_of_lt hkeeps hlt, hget]
      rfl
  exact ⟨_, hsecond, rfl, rfl⟩

end Seated

/-- The socket is busy while one frame comes in and then as many as the channel retains, and reads
twice. -/
def burst (ring : ℕ) : List Act :=
  .base (.publish (typed true)) :: (List.replicate ring (.base (.publish (typed false))) ++
    [.recvRoom 0, .recvRoom 0])

/-- It is sent the second frame and neither the first nor the notice. -/
lemma Seated.burst {ring : ℕ} (controlRing : ℕ) {s : State} (h : Seated s { room := mainChannel })
    (hring : 0 < ring) :
    ∃ seat, Seated (final (State.step ring controlRing) s (burst ring)) seat ∧
      seat.shown = [typed false] ∧
      seat.forwarded = typed true :: List.replicate ring (typed false) := by
  have hfirst := h.publish ring controlRing (show (typed true).room? = some mainChannel from rfl)
  obtain ⟨seat, hseated, hshown, hforwarded, hsent, hnext⟩ := hfirst.publishes ring controlRing
    (show (typed false).room? = some mainChannel from rfl) ring
  have hlength : seat.receiver.sent.length = ring + 1 := by
    rw [hsent, List.length_append, List.length_replicate]
    exact Nat.add_comm 1 ring
  have hframe : seat.receiver.sent[1]? = some (typed false) := by
    rw [hsent, List.getElem?_append_right (show 1 ≤ 1 from le_rfl)]
    exact List.getElem?_replicate_of_lt hring
  obtain ⟨seat', hseated', hshown', hforwarded'⟩ := hseated.skips ring controlRing
    hring hnext hlength hframe
  refine ⟨seat', ?_, ?_, ?_⟩
  · rw [Frames.burst, final_cons, final_append]
    exact hseated'
  · rw [hshown', hshown]
    rfl
  · rw [hforwarded', hforwarded]
    rfl

lemma seated_entered (ring controlRing : ℕ) :
    Seated (final (State.step ring controlRing) {} entered) { room := mainChannel } :=
  ⟨⟨mainChannel, rfl⟩, rfl, rfl, some .start, rfl⟩

/-- The first frame is skipped and the second one sent, at the default capacities. -/
theorem lagging_skips :
    ¬ ∀ as : List Act, ∀ l ∈ (final (State.step (roomEventCapacity none) controlCapacity) {}
      as).listeners, l.Gapless := by
  intro hall
  obtain ⟨seat, hseated, hshown, hforwarded⟩ :=
    (seated_entered (roomEventCapacity none) controlCapacity).burst controlCapacity
      (show 0 < roomEventCapacity none by decide)
  rw [← final_append] at hseated
  obtain ⟨control, hlisteners⟩ := hseated.listeners
  have hgapless := hall (entered ++ burst (roomEventCapacity none)) _
    (hlisteners ▸ List.mem_singleton_self _)
  have hprefix := (hgapless seat rfl).1
  rw [hshown, hforwarded, List.cons_prefix_cons] at hprefix
  exact absurd hprefix.1 (by decide)

end Vussa.Rooms.Frames
