import Vussa.Model.Handler

/-!
Where a client event leaves its socket: which events switch the channel, and to which one.

* `returns_plain`: only three events switch, and no answer to an event is a `joined`;
* `switch_cases`: **the channel** a switch goes to;
* `enterChannel_run`: the switch is confirmed by a `joined`.
-/

namespace Vussa

open Effect

section Events

variable {U : Unicode} {fresh : Fresh} {user : AuthUser} {session : Uuid} {active : Bool}
  {channel : String} {s s' : Shared} {r : Reply}

/-- The channel that an event confirms. -/
def ServerEvent.joined? : ServerEvent → Option String
  | .joined name => some name
  | _ => none

/-- The events that may switch the channel. -/
def ClientEvent.Switches : ClientEvent → Prop
  | .joinChannel _ | .openDirect _ | .deleteChannel _ => True
  | _ => False

/-- A page of history confirms no channel. -/
lemma sendPage_ok {before : Option Cursor} {event : ServerEvent}
    (h : (sendPage channel before).run s = .ok event s') : event.joined? = none := by
  rw [sendPage, run_transact] at h
  simp only [EStateM.Result.ok.injEq] at h
  rw [← h.1, sendHistoryPage]
  cases before with
  | none => rfl
  | some before => rfl

/-- **What an event returns**: its answers confirm no channel, and most events switch to none. -/
theorem returns_plain (event : ClientEvent) :
    Returns (fun r => (∀ e ∈ r.sent, e.joined? = none) ∧ (¬ event.Switches → r.switchTo = none))
      (handleClientEvent U fresh user session active channel event) := by
  have hempty : ∀ e ∈ ([] : List ServerEvent), e.joined? = none := fun e he =>
    absurd he List.not_mem_nil
  have hswitch : ∀ name : Option String, (∀ e ∈ ([] : List ServerEvent), e.joined? = none) ∧
      (¬ True → name = none) := fun name => ⟨hempty, fun h => absurd trivial h⟩
  have hnil : ∀ P : Prop, (∀ e ∈ ([] : List ServerEvent), e.joined? = none) ∧
      (P → (none : Option String) = none) := fun _ => ⟨hempty, fun _ => rfl⟩
  have hone : ∀ e : ServerEvent, e.joined? = none → ∀ P : Prop, (∀ e' ∈ [e], e'.joined? = none) ∧
      (P → (none : Option String) = none) := by
    intro e he P
    refine ⟨fun e' he' => ?_, fun _ => rfl⟩
    rwa [List.mem_singleton.mp he']
  cases event with
  | joinChannel raw =>
      exact Returns.bind fun _ => Returns.bind fun _ => Returns.pure (hswitch _)
  | openDirect userId => exact Returns.bind fun _ => Returns.pure (hswitch _)
  | deleteChannel raw => exact Returns.bind fun _ => Returns.pure (hswitch _)
  | listChannels => exact Returns.pure (hnil _)
  | createChannel name => exact Returns.bind fun _ => Returns.pure (hnil _)
  | createPrivateChannel name => exact Returns.bind fun _ => Returns.pure (hnil _)
  | inviteMember target userId => exact Returns.bind fun _ => Returns.pure (hnil _)
  | removeMember target userId => exact Returns.bind fun _ => Returns.pure (hnil _)
  | deleteMessage id =>
      exact Returns.bind fun _ => Returns.bind fun _ => Returns.bind fun _ =>
        Returns.bind fun _ => Returns.pure (hnil _)
  | addReaction messageId emoji =>
      exact Returns.bind fun _ => Returns.bind fun _ => Returns.bind fun _ =>
        Returns.bind fun _ => Returns.bind fun _ => Returns.pure (hnil _)
  | removeReaction messageId emoji =>
      exact Returns.bind fun _ => Returns.bind fun _ => Returns.bind fun _ =>
        Returns.bind fun _ => Returns.bind fun _ => Returns.pure (hnil _)
  | typing typing =>
      exact Returns.bind fun _ => Returns.bind fun _ => Returns.bind fun _ => Returns.pure (hnil _)
  | markRead messageId createdAt =>
      exact Returns.bind fun _ => Returns.bind fun _ => Returns.bind fun _ =>
        Returns.pure (hone _ rfl _)
  | sendMessage text root clientId fileIds =>
      refine Returns.bind fun _ => Returns.bind fun _ => Returns.bind fun _ =>
        Returns.bind fun _ => Returns.bind fun _ => Returns.bind fun _ =>
        Returns.bind fun retried => ?_
      cases retried with
      | some existing => exact Returns.pure (hone _ rfl _)
      | none =>
          refine Returns.bind fun outcome => ?_
          cases outcome with
          | inl message => exact Returns.bind fun _ => Returns.pure (hnil _)
          | inr existing => exact Returns.pure (hone _ rfl _)
  | editMessage id text =>
      exact Returns.bind fun _ => Returns.bind fun _ => Returns.bind fun _ =>
        Returns.bind fun _ => Returns.bind fun _ => Returns.pure (hnil _)
  | loadHistory raw beforeCreatedAt beforeId =>
      refine Returns.bind fun name => ?_
      split
      · exact Returns.pure (hnil _)
      · refine Returns.bind fun _ => ?_
        intro s r s' hrun
        obtain ⟨event, s1, hpage, hreturn⟩ := bind_run_ok hrun
        rw [run_pure, EStateM.Result.ok.injEq] at hreturn
        rw [← hreturn.1]
        exact hone event (sendPage_ok hpage) _
  | loadThread messageId beforeCreatedAt beforeId =>
      refine Returns.bind fun _ => Returns.bind fun _ => ?_
      intro s r s' hrun
      obtain ⟨event, s1, hread, hreturn⟩ := bind_run_ok hrun
      obtain ⟨hpage, -⟩ := read_run_ok hread
      rw [Except.ok.injEq] at hpage
      rw [run_pure, EStateM.Result.ok.injEq] at hreturn
      rw [← hreturn.1, ← hpage]
      exact hone _ rfl _
  | heartbeat =>
      exact Returns.bind fun _ => Returns.bind fun _ => Returns.bind fun _ =>
        Returns.bind fun _ => Returns.pure (hnil _)

/-- A join that is answered was checked. -/
lemma joinChannel_ok {raw : String}
    (h : (handleClientEvent U fresh user session active channel (.joinChannel raw)).run s
      = .ok r s') :
    ∃ name, r.switchTo = some name ∧ requestedChannel U raw = .ok name ∧
      ChannelAccess s'.db s'.now name user.id := by
  obtain ⟨name, s1, hread, hrest⟩ := bind_run_ok h
  obtain ⟨hname, rfl⟩ := read_run_ok hread
  obtain ⟨u, s2, hcheck, hreturn⟩ := bind_run_ok hrest
  obtain ⟨haccess, rfl⟩ := read_run_ok hcheck
  rw [run_pure, EStateM.Result.ok.injEq] at hreturn
  obtain ⟨rfl, rfl⟩ := hreturn
  exact ⟨name, rfl, hname, ensureChannelAccess_eq_ok.mp haccess⟩

/-- An opened conversation is entered without a look at its bans. -/
lemma openDirect_ok {target : Uuid}
    (h : (handleClientEvent U fresh user session active channel (.openDirect target)).run s
      = .ok r s') :
    ∃ db' id name, r.switchTo = some name ∧ s' = s.setDb db' ∧
      insertDirect fresh.channel user target s.db s.now = .ok (db', (id, name)) := by
  obtain ⟨⟨id, name⟩, s1, hopen, hreturn⟩ := bind_run_ok h
  rw [run_pure, EStateM.Result.ok.injEq] at hreturn
  obtain ⟨rfl, rfl⟩ := hreturn
  obtain ⟨_, s2, hcheck2, hrest2⟩ := bind_run_ok hopen
  obtain ⟨-, rfl⟩ := read_run_ok hcheck2
  obtain ⟨_, s3, hcheck3, hrest3⟩ := bind_run_ok hrest2
  obtain ⟨-, rfl⟩ := read_run_ok hcheck3
  obtain ⟨_, s4, hcheck4, hrest4⟩ := bind_run_ok hrest3
  obtain ⟨-, rfl⟩ := read_run_ok hcheck4
  obtain ⟨_, s5, hcheck5, htx⟩ := bind_run_ok hrest4
  obtain ⟨-, rfl⟩ := read_run_ok hcheck5
  obtain ⟨db', hok, rfl⟩ := transaction_run_ok htx
  exact ⟨db', id, name, rfl, rfl, hok⟩

/-- A deletion that is answered was allowed, and its own socket goes to the main channel. -/
lemma deleteChannel_event_ok {raw : String}
    (h : (handleClientEvent U fresh user session active channel (.deleteChannel raw)).run s
      = .ok r s') :
    ∃ name, normalizeChannelName U raw = .ok name ∧ name ≠ mainChannel ∧
      Permission.chatModerate ∈ user.permissions ∧ (deleteChannel user name s.db s.now).isOk ∧
      r.switchTo = if channel = name then some mainChannel else none := by
  obtain ⟨name, s1, hdelete, hreturn⟩ := bind_run_ok h
  rw [run_pure, EStateM.Result.ok.injEq] at hreturn
  obtain ⟨rfl, rfl⟩ := hreturn
  obtain ⟨_, s2, hcheck2, hrest2⟩ := bind_run_ok hdelete
  obtain ⟨hperm, rfl⟩ := read_run_ok hcheck2
  obtain ⟨name', s3, hread, hrest3⟩ := bind_run_ok hrest2
  obtain ⟨hname, rfl⟩ := read_run_ok hread
  obtain ⟨_, s4, hcheck4, hrest4⟩ := bind_run_ok hrest3
  obtain ⟨hmain, rfl⟩ := read_run_ok hcheck4
  obtain ⟨_, s5, htx, hrest5⟩ := bind_run_ok hrest4
  obtain ⟨db', hok, rfl⟩ := transaction_run_ok htx
  obtain ⟨_, s6, -, hlast⟩ := bind_run_ok hrest5
  rw [run_pure, EStateM.Result.ok.injEq] at hlast
  obtain ⟨rfl, -⟩ := hlast
  refine ⟨name', hname, ?_, requirePermission_eq_ok.mp hperm, isOk_iff.mpr ⟨_, hok⟩, rfl⟩
  intro heq
  rw [if_pos heq] at hmain
  exact absurd hmain (by simp)

/-- A deletion that fails has changed nothing. -/
lemma deleteChannel_event_error {raw : String} {e : AppError}
    (h : (handleClientEvent U fresh user session active channel (.deleteChannel raw)).run s
      = .error e s') : s' = s := by
  rcases bind_run_error h with hdelete | ⟨_, _, -, hreturn⟩
  · rcases bind_run_error hdelete with h1 | ⟨_, s1, hcheck1, hrest1⟩
    · exact read_run_error h1
    · obtain ⟨-, rfl⟩ := read_run_ok hcheck1
      rcases bind_run_error hrest1 with h2 | ⟨name, s2, hread, hrest2⟩
      · exact read_run_error h2
      · obtain ⟨-, rfl⟩ := read_run_ok hread
        rcases bind_run_error hrest2 with h3 | ⟨_, s3, hcheck3, hrest3⟩
        · exact read_run_error h3
        · obtain ⟨-, rfl⟩ := read_run_ok hcheck3
          rcases bind_run_error hrest3 with h4 | ⟨_, s4, -, hrest4⟩
          · exact transact_run_error h4
          · -- what follows the transaction cannot fail
            rw [broadcastControl, broadcast, run_bind, run_update] at hrest4
            exact absurd hrest4 (by simp)
  · exact absurd hreturn (by simp)

/-- **The channel a switch goes to**: the one that was asked for, a direct conversation, or the
main channel after the own one was deleted. -/
theorem switch_cases {event : ClientEvent} {name : String}
    (h : (handleClientEvent U fresh user session active channel event).run s = .ok r s')
    (hswitch : r.switchTo = some name) :
    (∃ raw, event = .joinChannel raw ∧ requestedChannel U raw = .ok name) ∨
    (∃ target, event = .openDirect target) ∨
    (∃ raw, event = .deleteChannel raw ∧ normalizeChannelName U raw = .ok channel ∧
      name = mainChannel) := by
  cases event with
  | joinChannel raw =>
      obtain ⟨name', hswitch', hname, -⟩ := joinChannel_ok h
      rw [hswitch, Option.some.injEq] at hswitch'
      exact Or.inl ⟨raw, rfl, hswitch' ▸ hname⟩
  | openDirect target => exact Or.inr (Or.inl ⟨target, rfl⟩)
  | deleteChannel raw =>
      obtain ⟨name', hname, -, -, -, hswitch'⟩ := deleteChannel_event_ok h
      rw [hswitch] at hswitch'
      split at hswitch'
      · rename_i hown
        rw [Option.some.injEq] at hswitch'
        exact Or.inr (Or.inr ⟨raw, rfl, hown ▸ hname, hswitch'⟩)
      · exact absurd hswitch' (by simp)
  | _ =>
      have hnone : r.switchTo = none := (returns_plain _ _ _ _ h).2 (by simp [ClientEvent.Switches])
      rw [hnone] at hswitch
      exact absurd hswitch (by simp)

/-! ### Entering -/

/-- Entering a channel cannot fail; it confirms the channel once, first. -/
lemma enterChannel_run (user : AuthUser) (channel : String) (s : Shared) :
    ∃ events s', (enterChannel user channel).run s = .ok (.joined channel :: events) s' ∧
      ∀ e ∈ events, e.joined? = none := by
  refine ⟨_, _, rfl, ?_⟩
  intro e he
  rcases List.mem_pair.mp he with rfl | rfl
  · rfl
  · rfl

end Events

end Vussa
