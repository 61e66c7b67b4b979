import Vussa.Rooms.Manager

/-!
The counters of the room manager against the sockets that hold a room.

A task pairs every granted `Subscribe` with one `Release`, except that the error arm of a channel
switch leaves the loop through its end and releases a room it was never given. Such a release is
harmless as long as the room is not open; once another socket has opened it, the counter goes wrong.

* `Fits`, `Paired`: what a task holds against the point it is at and the commands it has under way,
  in every reachable state;
* `Counted`: the counters are the numbers of holders, and a room is open iff it has one;
* `Harmless`: no failed switch is released while the room is open;
* `counted_along_iff`: **the counters are right in every state of a run iff every step is
  harmless**.
-/

namespace Vussa.Rooms

open Run

namespace State

/-! ### Tasks in the list -/

lemma task_of_lt {s : State} {k : ℕ} (hk : k < s.tasks.length) : s.task k = s.tasks[k] := by
  rw [task, List.getD_eq_getElem?_getD, List.getElem?_eq_getElem hk, Option.getD_some]

lemma task_of_le {s : State} {k : ℕ} (hk : s.tasks.length ≤ k) :
    s.task k = { phase := .closed } := by
  rw [task, List.getD_eq_getElem?_getD, List.getElem?_eq_none hk, Option.getD_none]

lemma lt_of_phase {s : State} {k : ℕ} (h : (s.task k).phase ≠ .closed) : k < s.tasks.length := by
  by_contra hk
  rw [task_of_le (not_lt.mp hk)] at h
  exact h rfl

lemma task_setTask_self {s : State} {k : ℕ} (hk : k < s.tasks.length) (t : Task) :
    (s.setTask k t).task k = t := by
  rw [task, setTask, List.getD_eq_getElem?_getD, List.getElem?_set_self hk, Option.getD_some]

lemma task_setTask_of_ne (s : State) {k j : ℕ} (hne : j ≠ k) (t : Task) :
    (s.setTask k t).task j = s.task j := by
  rw [task, setTask, List.getD_eq_getElem?_getD, List.getElem?_set_ne hne.symm, task,
    List.getD_eq_getElem?_getD]

/-- The commands of a task that the manager has not taken. -/
def pending (s : State) (k : ℕ) : List Command := s.commands.filter fun c => c.task = k

/-! ### Holders -/

/-- The number of sockets that hold a granted, unreleased subscription to a room. -/
def holders (s : State) (channel : String) : ℕ :=
  s.tasks.countP fun t => t.held = some channel

lemma holders_setTask {s : State} {k : ℕ} (hk : k < s.tasks.length) (t : Task)
    (channel : String) :
    (s.setTask k t).holders channel
      = s.holders channel - (if (s.task k).held = some channel then 1 else 0)
        + (if t.held = some channel then 1 else 0) := by
  rw [holders, setTask, List.countP_set hk, ← task_of_lt hk, holders]
  simp only [decide_eq_true_eq]

/-- A task that holds a room is counted. -/
lemma holders_pos {s : State} {k : ℕ} {channel : String}
    (h : (s.task k).held = some channel) : 0 < s.holders channel := by
  have hk : k < s.tasks.length := by
    by_contra hk
    rw [task_of_le (not_lt.mp hk)] at h
    exact absurd h (by simp)
  rw [task_of_lt hk] at h
  exact List.countP_pos_iff.mpr ⟨s.tasks[k], List.getElem_mem hk, decide_eq_true h⟩

/-- A change that leaves what the task holds leaves the numbers. -/
lemma holders_setTask_of_held (s : State) {k : ℕ} {t : Task} (h : t.held = (s.task k).held)
    (channel : String) : (s.setTask k t).holders channel = s.holders channel := by
  by_cases hk : k < s.tasks.length
  · rw [holders_setTask hk, h]
    by_cases hheld : (s.task k).held = some channel
    · have hpos := holders_pos hheld
      rw [if_pos hheld]
      omega
    · rw [if_neg hheld, Nat.sub_zero, Nat.add_zero]
  · rw [holders, setTask, List.set_eq_of_length_le (not_lt.mp hk), holders]

end State

/-! ### Pairing -/

/-- A task at a point of `handle_socket` with its commands under way. Only the last three rows have
a failed switch behind them, and their release is not paired with anything. -/
inductive Fits (k : ℕ) : Task → List Command → Prop
  | opening : Fits k { phase := .opening } []
  | leaving (c p : String) :
      Fits k { phase := .switching c, held := some p } [.release p k]
  | left (c : String) : Fits k { phase := .switching c } []
  | asking (c p : String) (setup : Bool) :
      Fits k { phase := .awaiting c setup, held := some p } [.release p k, .subscribe c k]
  | asked (c : String) (setup : Bool) :
      Fits k { phase := .awaiting c setup } [.subscribe c k]
  | granted (c : String) (setup : Bool) :
      Fits k { phase := .awaiting c setup, reply := some true, held := some c } []
  | refused (c : String) (setup : Bool) :
      Fits k { phase := .awaiting c setup, reply := some false } []
  | entering (c : String) : Fits k { phase := .entering c, held := some c } []
  | looping (c : String) : Fits k { phase := .looping c, held := some c } []
  | closing (c : String) : Fits k { phase := .closing c, held := some c } []
  | released (c : String) : Fits k { phase := .closed, held := some c } [.release c k]
  | closed : Fits k { phase := .closed } []
  | failing (c : String) : Fits k { phase := .closing c, failed := true } []
  | unpaired (c : String) : Fits k { phase := .closed, failed := true } [.release c k]
  | failed : Fits k { phase := .closed, failed := true } []

/-- Every task fits its commands. -/
def Paired (s : State) : Prop := ∀ k, Fits k (s.task k) (s.pending k)

/-- A task with a command under way has a number. -/
lemma lt_of_fits {s : State} {k : ℕ} {c : Command} {cs : List Command}
    (h : Fits k (s.task k) (c :: cs)) : k < s.tasks.length := by
  by_contra hk
  rw [State.task_of_le (not_lt.mp hk)] at h
  cases h

/-- A `Release` comes from the holder, or from a failed switch that holds nothing. -/
lemma Fits.of_release {k j : ℕ} {t : Task} {c : String} {cs : List Command}
    (h : Fits k t (.release c j :: cs)) :
    (t.failed = false ∧ t.held = some c) ∨ (t.failed = true ∧ t.held = none) := by
  cases h with
  | leaving => exact Or.inl ⟨rfl, rfl⟩
  | asking => exact Or.inl ⟨rfl, rfl⟩
  | released => exact Or.inl ⟨rfl, rfl⟩
  | unpaired => exact Or.inr ⟨rfl, rfl⟩

/-- A `Subscribe` comes from a task that holds nothing. -/
lemma Fits.of_subscribe {k j : ℕ} {t : Task} {c : String} {cs : List Command}
    (h : Fits k t (.subscribe c j :: cs)) : t.held = none := by
  cases h with
  | asked => rfl

/-- The commands under way and the task are related only through `Fits`. -/
lemma paired_of_fits {s s' : State} (h : Paired s) (k : ℕ)
    (hcases : ∀ t p, s.task k = t → s.pending k = p → Fits k t p → Paired s') : Paired s' :=
  hcases _ _ rfl rfl (h k)

/-- A task changes without sending anything. -/
lemma paired_setTask {s : State} (h : Paired s) {k : ℕ} {t : Task} {p : List Command}
    (hp : s.pending k = p) (hfits : Fits k t p) : Paired (s.setTask k t) := by
  intro j
  have hpending : (s.setTask k t).pending j = s.pending j := rfl
  rw [hpending]
  by_cases hj : j = k
  · subst hj
    by_cases hk : j < s.tasks.length
    · rw [State.task_setTask_self hk, hp]
      exact hfits
    · rw [State.task, State.setTask, List.set_eq_of_length_le (not_lt.mp hk)]
      exact h j
  · rw [State.task_setTask_of_ne s hj]
    exact h j

/-- A task sends a command. -/
lemma paired_send {s : State} (h : Paired s) {k : ℕ} {c : Command} {t t' : Task}
    {p : List Command} (hc : c.task = k) (ht : s.task k = t) (hopen : t.phase ≠ .closed)
    (hp : s.pending k = p) (hfits : Fits k t' (p ++ [c])) : Paired (s.send k c t') := by
  have hk : k < s.tasks.length := State.lt_of_phase (by rw [ht]; exact hopen)
  rw [State.send]
  split
  · intro j
    show Fits j ((s.setTask k t').task j) ((s.commands ++ [c]).filter fun c => c.task = j)
    rw [List.filter_append]
    by_cases hj : j = k
    · subst hj
      rw [State.task_setTask_self hk, List.filter_cons_of_pos (by simp [hc]), List.filter_nil,
        ← State.pending, hp]
      exact hfits
    · rw [State.task_setTask_of_ne s hj,
        List.filter_cons_of_neg (by simp [hc, Ne.symm hj]), List.filter_nil, List.append_nil]
      exact h j
  · exact h

/-- The manager takes a command: its task changes and has one command less under way. -/
lemma paired_take {s : State} (h : Paired s) {c : Command} {rest : List Command} {t : Task}
    (hcommands : s.commands = c :: rest) (hub : Hub)
    (hfits : ∀ cs, Fits c.task (s.task c.task) (c :: cs) → Fits c.task t cs) :
    Paired { s.setTask c.task t with hub := hub, commands := rest } := by
  intro j
  show Fits j ((s.setTask c.task t).task j) (rest.filter fun c => c.task = j)
  have hj := h j
  rw [State.pending, hcommands] at hj
  by_cases hjc : j = c.task
  · subst hjc
    rw [List.filter_cons_of_pos (by simp)] at hj
    rw [State.task_setTask_self (lt_of_fits hj)]
    exact hfits _ hj
  · rw [List.filter_cons_of_neg (by simp [Ne.symm hjc])] at hj
    rw [State.task_setTask_of_ne s hjc]
    exact hj

/-- What the answer to a `Subscribe` makes of its task. -/
lemma Fits.answer {k : ℕ} {t : Task} {c : String} {cs : List Command}
    (h : Fits k t (.subscribe c k :: cs)) (ok : Bool) :
    Fits k { t with reply := some ok, held := if ok then some c else t.held } cs := by
  cases h with
  | asked c setup =>
      cases ok with
      | true => exact .granted c setup
      | false => exact .refused c setup

/-- What a `Release` that is taken makes of its task. -/
lemma Fits.takeBack {k : ℕ} {t : Task} {c : String} {cs : List Command}
    (h : Fits k t (.release c k :: cs)) :
    Fits k { t with held := if t.held = some c then none else t.held } cs := by
  cases h with
  | leaving n =>
      rw [if_pos rfl]
      exact .left n
  | asking n _ setup =>
      rw [if_pos rfl]
      exact .asked n setup
  | released =>
      rw [if_pos rfl]
      exact .closed
  | unpaired => exact .failed

lemma paired_manage {s : State} (h : Paired s) (subscribed : Bool) :
    Paired (s.manage subscribed) := by
  rw [State.manage]
  split
  · exact h
  · rename_i hcommands
    exact paired_take h hcommands _ fun cs hfits => hfits.answer _
  · rename_i hcommands
    exact paired_take h hcommands _ fun cs hfits => hfits.takeBack

/-- A new task sits at the end of the list. -/
lemma paired_connect {s : State} (h : Paired s) : Paired (s.step .connect) := by
  intro k
  have hk := h k
  show Fits k ((s.tasks ++ [({} : Task)]).getD k { phase := .closed }) (s.pending k)
  rw [List.getD_eq_getElem?_getD]
  rcases lt_trichotomy k s.tasks.length with hlt | heq | hgt
  · rw [List.getElem?_append_left hlt, ← List.getD_eq_getElem?_getD]
    exact hk
  · have hpending : s.pending k = [] := by
      rw [State.task_of_le heq.ge] at hk
      generalize s.pending k = p at hk
      cases hk with
      | closed => rfl
    rw [hpending, heq, List.getElem?_append_right le_rfl, Nat.sub_self]
    exact .opening
  · have hnone : (s.tasks ++ [({} : Task)])[k]? = none :=
      List.getElem?_eq_none (by rw [List.length_append, List.length_singleton]; omega)
    rw [State.task_of_le hgt.le] at hk
    rw [hnone]
    exact hk

/-- **Every step keeps the pairing**, whatever the manager and Valkey do. -/
theorem paired_step {s : State} (h : Paired s) (a : Act) : Paired (s.step a) := by
  cases a with
  | connect => exact paired_connect h
  | manage subscribed => exact paired_manage h subscribed
  | publish event => exact h
  | reject k =>
      refine paired_of_fits h k fun t p ht hp hk => ?_
      rw [State.step, ht]
      cases hk with
      | opening => exact paired_setTask h hp .closed
      | _ => exact h
  | subscribe k =>
      refine paired_of_fits h k fun t p ht hp hk => ?_
      rw [State.step, ht]
      cases hk with
      | opening => exact paired_send h rfl ht (by simp) hp (.asked _ _)
      | leaving c p => exact paired_send h rfl ht (by simp) hp (.asking c p false)
      | left c => exact paired_send h rfl ht (by simp) hp (.asked c false)
      | _ => exact h
  | resume k =>
      refine paired_of_fits h k fun t p ht hp hk => ?_
      rw [State.step, ht]
      cases hk with
      | granted c setup =>
          cases setup with
          | true => exact paired_setTask h hp (.entering c)
          | false => exact paired_setTask h hp (.looping c)
      | refused c setup =>
          cases setup with
          | true => exact paired_setTask h hp .closed
          | false => exact paired_setTask h hp (.failing c)
      | asking c p setup => cases setup <;> exact h
      | asked c setup => cases setup <;> exact h
      | _ => exact h
  | enter k =>
      refine paired_of_fits h k fun t p ht hp hk => ?_
      rw [State.step, ht]
      cases hk with
      | entering c => exact paired_setTask h hp (.looping c)
      | _ => exact h
  | leave k =>
      refine paired_of_fits h k fun t p ht hp hk => ?_
      rw [State.step, ht]
      cases hk with
      | entering c => exact paired_setTask h hp (.closing c)
      | looping c => exact paired_setTask h hp (.closing c)
      | _ => exact h
  | switchTo k channel =>
      refine paired_of_fits h k fun t p ht hp hk => ?_
      rw [State.step, ht]
      cases hk with
      | looping c => exact paired_send h rfl ht (by simp) hp (.leaving channel c)
      | _ => exact h
  | close k =>
      refine paired_of_fits h k fun t p ht hp hk => ?_
      rw [State.step, ht]
      cases hk with
      | closing c => exact paired_send h rfl ht (by simp) hp (.released c)
      | failing c => exact paired_send h rfl ht (by simp) hp (.unpaired c)
      | _ => exact h

/-! ### Counting -/

/-- The counters are the numbers of holders, and the open rooms are those with a holder. -/
structure Counted (s : State) : Prop where
  clients : ∀ c, s.hub.clients c = s.holders c
  opened : ∀ c, (s.hub.rooms c).isSome ↔ 0 < s.holders c

/-- A release does not tear down the room of another socket. -/
def Spares (s : State) : Act → Prop
  | .manage subscribed => ∀ c k rest, s.commands = .release c k :: rest →
      ∀ j, j ≠ k → (s.task j).held = some c → ((s.manage subscribed).hub.rooms c).isSome
  | _ => True

/-- The manager does not take the last `Release` of a failed switch while the room is open. -/
def Harmless (s : State) : Act → Prop
  | .manage _ => ∀ c k rest, s.commands = .release c k :: rest → (s.task k).failed →
      s.hub.rooms c = none
  | _ => True

/-! #### The map of rooms -/

namespace Hub

lemma clients_setRoom (h : Hub) (channel : String) (entry : Option RoomEntry) (c : String) :
    (h.setRoom channel entry).clients c
      = if c = channel then entry.elim 0 RoomEntry.clients else h.clients c := by
  rw [clients]
  by_cases hc : c = channel
  · subst hc
    rw [setRoom_self, if_pos rfl]
  · rw [h.setRoom_of_ne hc, if_neg hc, clients]

lemma isSome_setRoom (h : Hub) (channel : String) (entry : Option RoomEntry) (c : String) :
    ((h.setRoom channel entry).rooms c).isSome
      = if c = channel then entry.isSome else (h.rooms c).isSome := by
  by_cases hc : c = channel
  · subst hc
    rw [setRoom_self, if_pos rfl]
  · rw [h.setRoom_of_ne hc, if_neg hc]

/-- A frame changes neither the counters nor the rooms that are open. -/
lemma sendRoom_frame (h : Hub) (channel : String) (wire : ServerEvent) (c : String) :
    (h.sendRoom channel wire).clients c = h.clients c ∧
      ((h.sendRoom channel wire).rooms c).isSome = (h.rooms c).isSome := by
  rw [sendRoom]
  cases hroom : h.rooms channel with
  | none => exact ⟨rfl, rfl⟩
  | some entry =>
      rw [clients_setRoom, isSome_setRoom]
      by_cases hc : c = channel
      · subst hc
        simp [clients, hroom]
      · simp [hc]

lemma route_frame (h : Hub) (event : ServerEvent) (c : String) :
    (h.route event).clients c = h.clients c ∧
      ((h.route event).rooms c).isSome = (h.rooms c).isSome := by
  unfold route
  split <;> first | exact h.sendRoom_frame _ _ c | exact ⟨rfl, rfl⟩

/-- A granted subscription counts one more client of the room. -/
lemma subscribe_granted {h : Hub} {channel : String} {subscribed : Bool}
    (hok : (h.subscribe channel subscribed).2 = true) (c : String) :
    (h.subscribe channel subscribed).1.clients c
        = h.clients c + (if c = channel then 1 else 0) ∧
      (((h.subscribe channel subscribed).1.rooms c).isSome ↔
        c = channel ∨ (h.rooms c).isSome) := by
  rw [subscribe] at hok ⊢
  cases hroom : h.rooms channel with
  | some entry =>
      simp only
      rw [clients_setRoom, isSome_setRoom]
      by_cases hc : c = channel
      · subst hc
        simp [clients, hroom]
      · simp [hc]
  | none =>
      simp only [hroom] at hok
      cases subscribed with
      | false => exact absurd hok (by simp)
      | true =>
          simp only [if_true]
          rw [clients_setRoom, isSome_setRoom]
          by_cases hc : c = channel
          · subst hc
            simp [clients, hroom]
          · simp [hc]

/-- A refused subscription leaves the rooms. -/
lemma subscribe_refused {h : Hub} {channel : String} {subscribed : Bool}
    (hok : (h.subscribe channel subscribed).2 = false) :
    (h.subscribe channel subscribed).1 = h := by
  rw [subscribe] at hok ⊢
  cases hroom : h.rooms channel with
  | some entry =>
      rw [hroom] at hok
      exact absurd hok (by simp)
  | none =>
      rw [hroom] at hok
      cases subscribed with
      | false => rfl
      | true => exact absurd hok (by simp)

/-- A release of an open room counts one client less, and removes the room with the last one. -/
lemma release_open {h : Hub} {channel : String} {entry : RoomEntry}
    (hroom : h.rooms channel = some entry) (c : String) :
    (h.release channel).clients c = h.clients c - (if c = channel then 1 else 0) ∧
      (((h.release channel).rooms c).isSome ↔
        (h.rooms c).isSome ∧ (c = channel → 1 < h.clients channel)) := by
  have hclients : h.clients channel = entry.clients := by rw [clients, hroom, Option.elim_some]
  rw [release, hroom]
  simp only
  by_cases hlast : entry.clients - 1 = 0
  · rw [if_pos hlast, clients_setRoom, isSome_setRoom]
    by_cases hc : c = channel
    · subst hc
      simp only [if_true, Option.elim_none, Option.isSome_none, hroom, hclients]
      refine ⟨by omega, ?_⟩
      simp
      omega
    · simp [hc]
  · rw [if_neg hlast, clients_setRoom, isSome_setRoom]
    by_cases hc : c = channel
    · subst hc
      simp only [if_true, Option.elim_some, Option.isSome_some, hroom, hclients]
      refine ⟨trivial, ?_⟩
      simp
      omega
    · simp [hc]

/-- A release of a room that is not open does nothing. -/
lemma release_none {h : Hub} {channel : String} (hroom : h.rooms channel = none) :
    h.release channel = h := by
  rw [release, hroom]

end Hub

/-! #### One step -/

/-- The same counters, rooms and holders. -/
lemma Counted.congr {s s' : State} (h : Counted s)
    (hhub : ∀ c, s'.hub.clients c = s.hub.clients c ∧
      (s'.hub.rooms c).isSome = (s.hub.rooms c).isSome)
    (hheld : ∀ c, s'.holders c = s.holders c) : Counted s' := by
  refine ⟨fun c => ?_, fun c => ?_⟩
  · rw [(hhub c).1, hheld, h.clients]
  · rw [(hhub c).2, hheld, h.opened]

lemma Counted.setTask {s : State} (h : Counted s) {k : ℕ} {t : Task}
    (hheld : t.held = (s.task k).held) : Counted (s.setTask k t) :=
  h.congr (fun _ => ⟨rfl, rfl⟩) (s.holders_setTask_of_held hheld)

lemma Counted.send {s : State} (h : Counted s) {k : ℕ} (c : Command) {t : Task}
    (hheld : t.held = (s.task k).held) : Counted (s.send k c t) := by
  rw [State.send]
  split
  · exact (h.setTask hheld).congr (fun _ => ⟨rfl, rfl⟩) fun _ => rfl
  · exact h

lemma Counted.connect {s : State} (h : Counted s) : Counted (s.step .connect) := by
  refine h.congr (fun _ => ⟨rfl, rfl⟩) fun c => ?_
  show (s.tasks ++ [({} : Task)]).countP _ = s.tasks.countP _
  rw [List.countP_append, List.countP_singleton]
  simp

section Manage

variable {s : State} {k : ℕ} {channel : String} {rest : List Command}

/-- What the manager makes of a `Subscribe` whose task holds nothing. -/
lemma manage_subscribe (hcommands : s.commands = .subscribe channel k :: rest)
    (hk : k < s.tasks.length) (hheld : (s.task k).held = none) (subscribed : Bool) :
    (s.manage subscribed).hub = (s.hub.subscribe channel subscribed).1 ∧
      ∀ c, (s.manage subscribed).holders c = s.holders c +
        (if (s.hub.subscribe channel subscribed).2 ∧ c = channel then 1 else 0) := by
  have hmanage : s.manage subscribed =
      { s.setTask k { s.task k with
          reply := some (s.hub.subscribe channel subscribed).2
          held := if (s.hub.subscribe channel subscribed).2 then some channel
            else (s.task k).held } with
        hub := (s.hub.subscribe channel subscribed).1, commands := rest } := by
    rw [State.manage, hcommands]
  refine ⟨by rw [hmanage], fun c => ?_⟩
  rw [hmanage]
  show (s.setTask k _).holders c = _
  rw [State.holders_setTask hk, hheld]
  cases (s.hub.subscribe channel subscribed).2 with
  | true => simp [eq_comm]
  | false => simp

/-- What the manager makes of a `Release`. -/
lemma manage_release (hcommands : s.commands = .release channel k :: rest)
    (hk : k < s.tasks.length) (subscribed : Bool) :
    (s.manage subscribed).hub = s.hub.release channel ∧
      ∀ c, (s.manage subscribed).holders c = s.holders c -
        (if (s.task k).held = some channel ∧ c = channel then 1 else 0) := by
  have hmanage : s.manage subscribed =
      { s.setTask k { s.task k with
          held := if (s.task k).held = some channel then none else (s.task k).held } with
        hub := s.hub.release channel, commands := rest } := by
    rw [State.manage, hcommands]
  refine ⟨by rw [hmanage], fun c => ?_⟩
  rw [hmanage]
  show (s.setTask k _).holders c = _
  by_cases hheld : (s.task k).held = some channel
  · rw [State.holders_setTask hk, hheld]
    simp [eq_comm]
  · rw [State.holders_setTask_of_held s (by rw [if_neg hheld])]
    simp [hheld]

/-- An answered `Subscribe` keeps the counters right. -/
lemma Counted.subscribe (h : Counted s) (hcommands : s.commands = .subscribe channel k :: rest)
    (hk : k < s.tasks.length) (hheld : (s.task k).held = none) (subscribed : Bool) :
    Counted (s.manage subscribed) := by
  obtain ⟨hhub, hholders⟩ := manage_subscribe hcommands hk hheld subscribed
  cases hok : (s.hub.subscribe channel subscribed).2 with
  | false =>
      refine h.congr (fun c => ?_) fun c => ?_
      · rw [hhub, Hub.subscribe_refused hok]
        exact ⟨rfl, rfl⟩
      · rw [hholders, hok]
        simp
  | true =>
      refine ⟨fun c => ?_, fun c => ?_⟩
      · rw [hhub, (Hub.subscribe_granted hok c).1, hholders, hok, h.clients]
        simp
      · rw [hhub, (Hub.subscribe_granted hok c).2, hholders, hok, h.opened]
        by_cases hc : c = channel
        · simp [hc]
        · simp [hc]

/-- A `Release` of the holder keeps the counters right. -/
lemma Counted.release (h : Counted s) (hcommands : s.commands = .release channel k :: rest)
    (hk : k < s.tasks.length) (hheld : (s.task k).held = some channel) (subscribed : Bool) :
    Counted (s.manage subscribed) := by
  obtain ⟨hhub, hholders⟩ := manage_release hcommands hk subscribed
  have hpos := State.holders_pos hheld
  obtain ⟨entry, hroom⟩ := Option.isSome_iff_exists.mp ((h.opened channel).mpr hpos)
  refine ⟨fun c => ?_, fun c => ?_⟩
  · rw [hhub, (Hub.release_open hroom c).1, hholders, h.clients]
    simp [hheld]
  · rw [hhub, (Hub.release_open hroom c).2, hholders, h.opened, h.clients]
    by_cases hc : c = channel
    · subst hc
      simp [hheld]
      omega
    · simp [hc]

/-- A `Release` from a failed switch keeps the counters right iff the room is not open. -/
lemma counted_unpaired_iff (h : Counted s)
    (hcommands : s.commands = .release channel k :: rest) (hk : k < s.tasks.length)
    (hheld : (s.task k).held = none) (subscribed : Bool) :
    Counted (s.manage subscribed) ↔ s.hub.rooms channel = none := by
  obtain ⟨hhub, hholders⟩ := manage_release hcommands hk subscribed
  have hsame : ∀ c, (s.manage subscribed).holders c = s.holders c := by
    intro c
    rw [hholders, hheld]
    simp
  refine ⟨fun h' => ?_, fun hroom => ?_⟩
  · by_contra hroom
    obtain ⟨entry, hentry⟩ := Option.ne_none_iff_exists'.mp hroom
    have hpos : 0 < s.holders channel := (h.opened channel).mp (by rw [hentry]; rfl)
    have hcount := h'.clients channel
    rw [hhub, (Hub.release_open hentry channel).1, if_pos rfl, hsame, h.clients] at hcount
    omega
  · refine h.congr (fun c => ?_) hsame
    rw [hhub, Hub.release_none hroom]
    exact ⟨rfl, rfl⟩

end Manage

/-- The acts of the tasks and the publications keep the counters right. -/
lemma Counted.task {s : State} (h : Counted s) {a : Act} (ha : ∀ b, a ≠ .manage b) :
    Counted (s.step a) := by
  cases a with
  | connect => exact h.connect
  | manage b => exact absurd rfl (ha b)
  | publish event => exact h.congr (fun c => s.hub.route_frame event c) fun _ => rfl
  | reject k =>
      unfold State.step
      simp only
      split <;> first | exact h.setTask rfl | exact h
  | subscribe k =>
      unfold State.step
      simp only
      split <;> first | exact h.send _ rfl | exact h
  | resume k =>
      unfold State.step
      simp only
      split <;> first | exact h.setTask rfl | exact h
  | enter k =>
      unfold State.step
      simp only
      split <;> first | exact h.setTask rfl | exact h
  | leave k =>
      unfold State.step
      simp only
      split <;> first | exact h.setTask rfl | exact h
  | switchTo k channel =>
      unfold State.step
      simp only
      split <;> first | exact h.send _ rfl | exact h
  | close k =>
      unfold State.step
      simp only
      split <;> first | exact h.send _ rfl | exact h

/-- A command under way comes from a task that fits it. -/
lemma fits_head {s : State} (h : Paired s) {c : Command} {rest : List Command}
    (hcommands : s.commands = c :: rest) :
    ∃ cs, Fits c.task (s.task c.task) (c :: cs) := by
  refine ⟨rest.filter fun c' => c'.task = c.task, ?_⟩
  have hfits := h c.task
  rw [State.pending, hcommands, List.filter_cons_of_pos (by simp)] at hfits
  exact hfits

/-- With right counters after a release, the other holders of the room still have it. -/
lemma Counted.spares {s : State} {a : Act} (h : Counted (s.step a)) : Spares s a := by
  cases a with
  | manage b =>
      intro c k rest hcommands j hj hheld
      have hother : (s.manage b).task j = s.task j := by
        rw [State.manage, hcommands]
        exact s.task_setTask_of_ne hj _
      exact (h.opened c).mpr (State.holders_pos (hother ▸ hheld))
  | _ => trivial

/-- One act of the manager keeps the counters right iff it is harmless. -/
lemma counted_manage_iff {s : State} (hpaired : Paired s) (h : Counted s) (b : Bool) :
    Counted (s.manage b) ↔ Harmless s (.manage b) := by
  cases hcommands : s.commands with
  | nil =>
      have hsame : s.manage b = s := by rw [State.manage, hcommands]
      rw [hsame]
      refine iff_of_true h fun c k rest hc => ?_
      rw [hcommands] at hc
      exact absurd hc (by simp)
  | cons command rest =>
      obtain ⟨cs, hfits⟩ := fits_head hpaired hcommands
      have hk := lt_of_fits hfits
      cases command with
      | subscribe channel k =>
          refine iff_of_true (h.subscribe hcommands hk hfits.of_subscribe b) fun c k rest hc => ?_
          rw [hcommands] at hc
          exact absurd hc (by simp)
      | release channel k =>
          have hharmless : Harmless s (.manage b) ↔
              ((s.task k).failed → s.hub.rooms channel = none) := by
            refine ⟨fun hall => hall channel k rest hcommands, fun hone c k' rest' hc => ?_⟩
            rw [hcommands, List.cons.injEq, Command.release.injEq] at hc
            obtain ⟨⟨rfl, rfl⟩, -⟩ := hc
            exact hone
          rw [hharmless]
          rcases hfits.of_release with ⟨hfailed, hheld⟩ | ⟨hfailed, hheld⟩
          · refine iff_of_true (h.release hcommands hk hheld b) fun hbad => ?_
            exact absurd (hfailed.symm.trans hbad) (by simp)
          · rw [counted_unpaired_iff h hcommands hk hheld b]
            exact ⟨fun hroom _ => hroom, fun hroom => hroom hfailed⟩

/-- **One step**: the counters stay right iff the step is harmless, and then no socket loses its
room to the release of another one. -/
theorem counted_step_iff {s : State} (hpaired : Paired s) (h : Counted s) (a : Act) :
    (Counted (s.step a) ∧ Spares s a) ↔ Harmless s a := by
  rw [and_iff_left_of_imp Counted.spares]
  cases a with
  | manage b => exact counted_manage_iff hpaired h b
  | _ => exact iff_of_true (h.task fun b hb => nomatch hb) trivial

/-! ### Runs -/

/-- No rooms and no sockets. -/
def State.start : State := {}

lemma paired_start : Paired State.start := fun _ => .closed

lemma counted_start : Counted State.start :=
  ⟨fun _ => rfl, fun _ => by simp [State.start, State.holders]⟩

/-- **The counters along a run**: for every interleaving of any number of sockets with the command
loop, every counter is the number of sockets that hold the room, the open rooms are those with a
holder, and no release tears down the room of another socket, in every state of the run, iff no
step takes the last `Release` of a failed switch while the room is open. -/
theorem counted_along_iff (as : List Act) :
    (Counted State.start ∧
      Along State.step (fun s a => Counted (s.step a) ∧ Spares s a) State.start as) ↔
    Along State.step Harmless State.start as := by
  rw [and_iff_right counted_start]
  refine along_congr_of (I := fun s => Paired s ∧ Counted s) ?_ ?_
    ⟨paired_start, counted_start⟩ as
  · intro s a hs hharmless
    exact ⟨paired_step hs.1 a, ((counted_step_iff hs.1 hs.2 a).mpr hharmless).1⟩
  · exact fun s a hs => counted_step_iff hs.1 hs.2 a

/-- Two sockets in the main room; the switch of the first to `x` fails, the second opens `x`, and
then the first is closed. -/
def failedSwitch : List Act :=
  [.connect, .connect, .subscribe 0, .subscribe 1, .manage true, .manage true,
   .resume 0, .enter 0, .resume 1, .enter 1,
   .switchTo 0 "x", .manage true, .subscribe 0, .manage false, .resume 0,
   .switchTo 1 "x", .manage true, .subscribe 1, .manage true, .resume 1,
   .close 0, .manage true]

/-- The second socket sits in a room that is gone. -/
theorem failedSwitch_not_counted :
    ¬ (Counted State.start ∧ Along State.step
        (fun s a => Counted (s.step a) ∧ Spares s a) State.start failedSwitch) ∧
      ((final State.step State.start failedSwitch).task 1).held = some "x" ∧
      (final State.step State.start failedSwitch).hub.rooms "x" = none := by
  refine ⟨?_, by decide, by decide⟩
  rintro ⟨-, h⟩
  have hlast : Counted (final State.step State.start failedSwitch) :=
    ((along_append _ _ (failedSwitch.take 21) [.manage true]).mp h).2.1.1
  exact absurd (hlast.clients "x") (by decide)

end Vussa.Rooms
