import Vussa.Access.Revival

/-!
The channel `main`. Every path that could rename, archive or delete it asks for its name first
(`delete_channel_service`, `admin_update_channel`, `admin_channel_state`), and the two that create
channels meet its row under the unique name.

* `Commons`: the channel with an identifier is the main one, live, public and not archived;
* `updateChannelRow_main`, `setChannelState_main`: what the two administration handlers refuse;
* `commons_request`, `commons_event`: no write takes it away;
* `mainChannel_open`: **in every state of a run the main channel is the row it was, live, public, not
  archived, and open to every user who is not banned**.
-/

namespace Vussa

open Effect

/-- The channel `id` is the main channel, live, public and not archived. -/
def Commons (id : Uuid) (s : Shared) : Prop :=
  ∃ c ∈ s.db.channels, c.id = id ∧ c.name = mainChannel ∧ c.deletedAt = none ∧ c.kind = .pub ∧
    c.archivedAt = none

section Writes

variable {U : Unicode} {id : Uuid} {s s' : Shared}

lemma stable_commons : Stable (Commons id) where
  quiet s s' hq h := by
    rw [Commons, hq.channels]
    exact h
  notice notice channel text :=
    preserves_publishSystemMessage notice channel text (fun _ _ h => h) fun _ _ h _ _ => h
  page _ _ _ h := h
  refresh _ _ h := h

lemma Commons.of_channels (h : Commons id s) (hchannels : s'.db.channels = s.db.channels) :
    Commons id s' := by
  rw [Commons, hchannels]
  exact h

/-- A further channel. -/
lemma Commons.append (h : Commons id s) {row : ChannelRow}
    (hchannels : s'.db.channels = s.db.channels ++ [row]) : Commons id s' := by
  obtain ⟨c, hc, hrest⟩ := h
  refine ⟨c, ?_, hrest⟩
  rw [hchannels]
  exact List.mem_append_left _ hc

/-- A row that is not the main one, or a change that keeps what matters. -/
lemma Commons.update (h : Commons id s) {i : Uuid} {f : ChannelRow → ChannelRow}
    (hchannels : s'.db.channels = (s.db.updateChannel i f).channels)
    (hf : ∀ c ∈ s.db.channels, c.id = i → c.name = mainChannel → c.deletedAt = none →
      (f c).id = c.id ∧ (f c).name = mainChannel ∧ (f c).deletedAt = none ∧
        (f c).kind = c.kind ∧ (f c).archivedAt = c.archivedAt) : Commons id s' := by
  obtain ⟨c, hc, hid, hname, hlive, hkind, harchived⟩ := h
  refine ⟨if c.id = i then f c else c, ?_, ?_⟩
  · rw [hchannels]
    exact List.mem_map_of_mem hc
  · split
    next hi =>
      obtain ⟨hid', hname', hlive', hkind', harchived'⟩ := hf c hc hi hname hlive
      exact ⟨hid'.trans hid, hname', hlive', hkind'.trans hkind, harchived'.trans harchived⟩
    next => exact ⟨hid, hname, hlive, hkind, harchived⟩

/-- An update gives the main channel no other name. -/
lemma updateChannelRow_main {actor : AuthUser} {i : Uuid} {request : ChannelAdminRequest}
    {db db' : Database} {now : Millis} {u : Unit} (hwf : db.WellFormed)
    (h : updateChannelRow U actor i request db now = .ok (db', u)) :
    ∃ name, db'.channels
        = (db.updateChannel i fun c => { c.configure request with name := name }).channels ∧
      ∀ c ∈ db.channels, c.id = i → c.name = mainChannel → name = mainChannel := by
  obtain ⟨c, name, hc, hid, -, hrename, -, rfl⟩ := updateChannelRow_ok h
  refine ⟨name, rfl, fun c' hc' hid' hmain => ?_⟩
  obtain rfl : c' = c := List.inj_on_of_nodup_map hwf.channelId hc' hc (hid'.trans hid.symm)
  cases hreq : request.name with
  | none =>
      rw [ChannelAdminRequest.rename, hreq] at hrename
      exact (Except.ok.inj hrename).symm.trans hmain
  | some raw =>
      by_contra hne
      rw [updateChannelRow] at h
      split at h
      · exact absurd h (by simp)
      · rename_i c1 hfind
        have hp := List.find?_some hfind
        simp only [decide_eq_true_eq] at hp
        obtain rfl : c1 = c' := List.inj_on_of_nodup_map hwf.channelId
          (List.mem_of_find?_eq_some hfind) hc (hp.1.trans hid.symm)
        rw [hrename] at h
        -- the guard of the handler
        have hguard : request.name.isSome ∧ c1.name = mainChannel ∧ name ≠ mainChannel :=
          ⟨by rw [hreq]; rfl, hmain, hne⟩
        simp only [bind, Except.bind, if_pos hguard] at h
        exact absurd h (by simp)

/-- An action is never one on the main channel. -/
lemma setChannelState_main {actor : AuthUser} {i : Uuid} {action : ChannelAction}
    {db db' : Database} {now : Millis} {r : String} (hwf : db.WellFormed)
    (h : setChannelState actor i action db now = .ok (db', r)) :
    ∀ c ∈ db.channels, c.id = i → c.name ≠ mainChannel := by
  intro c hc hid hmain
  rw [setChannelState] at h
  split at h
  · exact absurd h (by simp)
  · rename_i c' hfind
    have hp := List.find?_some hfind
    simp only [decide_eq_true_eq] at hp
    obtain rfl : c' = c := List.inj_on_of_nodup_map hwf.channelId
      (List.mem_of_find?_eq_some hfind) hc (hp.trans hid.symm)
    rw [if_pos hmain] at h
    exact absurd h (by simp)

/-- The upsert adds a row or brings a deleted one back. -/
lemma Commons.upsert (hwf : s.db.WellFormed) (h : Commons id s) {new i : Uuid} {name : String}
    {db' : Database} (hok : s.db.upsertChannel new name s.now = .ok (db', i)) :
    Commons id (s.setDb db') := by
  rcases Database.upsertChannel_ok hok with ⟨-, -, rfl⟩ | ⟨c, hc, -, hdeleted, -, rfl⟩
  · exact h.append rfl
  · refine h.update rfl fun c' hc' hid _ hlive => absurd ?_ hdeleted
    obtain rfl : c' = c := List.inj_on_of_nodup_map hwf.channelId hc' hc hid
    exact hlive

/-- **A request** keeps the main channel. -/
lemma commons_request {fresh : Fresh} {user : AuthUser} {request : Request}
    (hwf : s.db.WellFormed) (h : Commons id s) (hw : Write U fresh user s request s') :
    Commons id s' := by
  cases hw with
  | createChannel _ _ _ hok => exact h.upsert hwf hok
  | createPrivateChannel _ _ _ hok =>
      obtain ⟨-, rfl⟩ := insertPrivateChannel_ok hok
      exact h.append (Database.addMember_channels _ _)
  | openDirect _ _ hok =>
      obtain ⟨c, -, -, -, ⟨-, rfl⟩ | ⟨-, -, -, rfl⟩⟩ := insertDirect_ok hok
      · exact h.of_channels (Database.enroll_channels _ _ _ _ _)
      · exact h.append (Database.enroll_channels _ _ _ _ _)
  | inviteMember _ hok =>
      rcases insertMember_ok hok with ⟨-, rfl⟩ | ⟨-, rfl⟩
      · exact h
      · exact h.of_channels (by simp)
  | removeMember _ _ hok =>
      obtain rfl := deleteMember_ok hok
      exact h.of_channels rfl
  | leaveChannel _ hok =>
      obtain ⟨c, -, -, -, rfl⟩ := deleteOwnMembership_ok hok
      exact h.of_channels rfl
  | adminCreateChannel _ _ _ hok =>
      exact (h.upsert hwf hok).update rfl fun c _ _ hmain hlive => ⟨rfl, hmain, hlive, rfl, rfl⟩
  | adminUpdateChannel _ hok =>
      obtain ⟨name, hchannels, hmain⟩ := updateChannelRow_main hwf hok
      exact h.update hchannels fun c hc hid hname hlive =>
        ⟨rfl, hmain c hc hid hname, hlive, rfl, rfl⟩
  | adminChannelState _ hok =>
      have hmain := setChannelState_main hwf hok
      obtain rfl := setChannelState_ok hok
      exact h.update rfl fun c hc hid hname => absurd hname (hmain c hc hid)
  | adminCreateBan _ hok =>
      obtain ⟨row, -, -, rfl⟩ := insertBan_ok hok
      exact h.of_channels rfl
  | adminRevokeBan hok =>
      obtain ⟨target, rfl⟩ := updateBan_ok hok
      exact h.of_channels rfl
  | adminModerateMessage hok =>
      obtain ⟨db, hmod, hb⟩ := Backend.moderateMessage_ok hok
      obtain ⟨audit, rfl⟩ := adminModerateMessage_ok hmod
      refine h.of_channels ?_
      rcases hb with rfl | ⟨name, rfl⟩ <;> rfl
  | promoteModerator hok =>
      obtain ⟨f, -, rfl⟩ := changeRole_ok hok
      exact h.of_channels rfl
  | demoteModerator hok =>
      obtain ⟨f, -, rfl⟩ := changeRole_ok hok
      exact h.of_channels rfl
  | transferOwnership _ hok =>
      obtain ⟨c, f, -, -, rfl⟩ := transferOwnership_ok hok
      exact h.update rfl fun c _ _ hmain hlive => ⟨rfl, hmain, hlive, rfl, rfl⟩
  | acceptInviteLink _ hok =>
      rcases useInviteLink_ok hok with rfl | ⟨row, rfl⟩
      · exact h
      · exact h.of_channels (by simp)
  | @adminBulkModerate ids action reason =>
      exact h.of_channels (bulkModerate_induct (P := fun db => db.channels = s.db.channels)
        (fun _ _ _ h => h) ids s.db rfl)

/-- **An event** keeps the main channel. -/
lemma commons_event {fresh : Fresh} {user : AuthUser} {session : Uuid} {channel : String}
    {event : ClientEvent} (hwf : s.db.WellFormed) (h : Commons id s)
    (hw : EventWrite U fresh user session channel s event s') : Commons id s' := by
  cases hw with
  | service _ hw => exact commons_request hwf h hw
  | deleteChannel _ _ hne hok =>
      obtain ⟨c, hlive, rfl⟩ := deleteChannel_ok hok
      obtain ⟨hc, hname, -⟩ := Database.liveChannel?_some hlive
      refine h.update rfl fun c' hc' hid hmain => absurd ?_ hne
      obtain rfl : c' = c := List.inj_on_of_nodup_map hwf.channelId hc' hc hid
      exact hname.symm.trans hmain
  | sendMessage hok =>
      obtain ⟨db, hsave, rfl⟩ := Backend.postMessage_ok hok
      obtain ⟨c, links, -, -, rfl⟩ := saveMessage_ok hsave
      exact h.of_channels rfl
  | editMessage hok =>
      obtain ⟨db, hedit, rfl⟩ := Backend.editMessage_ok hok
      obtain ⟨c, row, -, -, rfl, -⟩ := editMessage_ok hedit
      exact h.of_channels rfl
  | deleteMessage hok =>
      obtain ⟨db, hdel, rfl⟩ := Backend.deleteMessage_ok hok
      obtain ⟨c, row, -, -, rfl, -⟩ := deleteMessage_ok hdel
      exact h.of_channels rfl

end Writes

/-! ### Runs -/

namespace Server

/-- A step keeps the main channel. -/
lemma commons_step (U : Unicode) {id : Uuid} {s : Server} (hwf : s.shared.db.WellFormed)
    (h : Commons id s.shared) (a : Act) : Commons id (s.step U a).shared := by
  refine holds_after_step stable_commons h a fun s' hw => ?_
  cases hw with
  | request _ hw => exact commons_request hwf h hw
  | client _ _ hw => exact commons_event hwf h hw

/-- A row that is the main channel is the one found under the name. -/
lemma liveChannel?_of_commons {id : Uuid} {s : Shared} (hwf : s.db.WellFormed)
    (h : Commons id s) : ∃ c, s.db.liveChannel? mainChannel = some c ∧ c.id = id ∧ c.kind = .pub ∧
      c.archivedAt = none := by
  obtain ⟨c, hc, hid, hname, hlive, hkind, harchived⟩ := h
  refine ⟨c, ?_, hid, hkind, harchived⟩
  have hsome : (s.db.liveChannel? mainChannel).isSome :=
    List.find?_isSome.mpr ⟨c, hc, decide_eq_true ⟨hname, hlive⟩⟩
  obtain ⟨c', hc'⟩ := Option.isSome_iff_exists.mp hsome
  obtain ⟨hmem, hname', -⟩ := Database.liveChannel?_some hc'
  obtain rfl : c' = c := List.inj_on_of_nodup_map hwf.channelName hmem hc (hname'.trans hname.symm)
  exact hc'

/-- **The main channel**: if the row named so is live, public and not archived at the start, it is
the live channel of the name in every state of every run, public and not archived, and a user has
access to it and finds it in the list of channels exactly if no active ban keeps the user out. -/
theorem mainChannel_open (U : Unicode) {db : Database} (hwf : db.WellFormed) {c : ChannelRow}
    (hc : db.liveChannel? mainChannel = some c) (hkind : c.kind = .pub)
    (harchived : c.archivedAt = none) (now : Millis) (as : List Act) :
    ∃ c', (Run.final (step U) (start db now) as).shared.db.liveChannel? mainChannel = some c' ∧
      c'.id = c.id ∧ c'.kind = .pub ∧ c'.archivedAt = none ∧
      ∀ user,
        (ChannelAccess (Run.final (step U) (start db now) as).shared.db
            (Run.final (step U) (start db now) as).shared.now mainChannel user ↔
          ¬ Banned (Run.final (step U) (start db now) as).shared.db
            (Run.final (step U) (start db now) as).shared.now user c.id) ∧
        (mainChannel ∈ listChannels (Run.final (step U) (start db now) as).shared.db
            (Run.final (step U) (start db now) as).shared.now user ↔
          ¬ Banned (Run.final (step U) (start db now) as).shared.db
            (Run.final (step U) (start db now) as).shared.now user c.id) := by
  obtain ⟨hmem, hname, hlive⟩ := Database.liveChannel?_some hc
  obtain ⟨hwf', hcommons⟩ := Run.final_invariant
    (I := fun s : Server => s.shared.db.WellFormed ∧ Commons c.id s.shared)
    (fun s a h => ⟨(accessKept_step h.1 a).wellFormed, commons_step U h.1 h.2 a⟩)
    (s := start db now) ⟨hwf, c, hmem, rfl, hname, hlive, hkind, harchived⟩ as
  generalize (Run.final (step U) (start db now) as).shared = s at hwf' hcommons
  obtain ⟨c', hc', hid, hkind', harchived'⟩ := liveChannel?_of_commons hwf' hcommons
  obtain ⟨hmem', hname', hlive'⟩ := Database.liveChannel?_some hc'
  have hone : ∀ c1 ∈ s.db.channels, c1.name = mainChannel → c1 = c' := fun c1 hc1 hname1 =>
    List.inj_on_of_nodup_map hwf'.channelName hc1 hmem' (hname1.trans hname'.symm)
  refine ⟨c', hc', hid, hkind', harchived', fun user => ⟨⟨?_, fun hban => ?_⟩, ?_, fun hban => ?_⟩⟩
  · rintro ⟨c1, hc1, hname1, -, -, hban⟩
    rwa [hone c1 hc1 hname1, hid] at hban
  · exact ⟨c', hmem', hname', hlive', Or.inl hkind', by rwa [hid]⟩
  · intro hlisted
    obtain ⟨c1, hc1, hname1⟩ := List.mem_map.mp ((List.mem_insertionSort _).mp hlisted)
    obtain ⟨hc1, hp⟩ := List.mem_filter.mp hc1
    have hban := (of_decide_eq_true hp).2.2.2
    rwa [hone c1 hc1 hname1, hid] at hban
  · refine (List.mem_insertionSort _).mpr (List.mem_map.mpr ⟨c', List.mem_filter.mpr ⟨hmem', ?_⟩,
      hname'⟩)
    exact decide_eq_true ⟨hlive', harchived', hkind', by rwa [hid]⟩

/-- Attempts to archive, delete and rename it. -/
def siege : List Act :=
  [.login 5 (townUser 30 "ada"), .request 5 (.adminChannelState 1 .archive) ⟨82, 83, 84⟩,
    .request 5 (.adminUpdateChannel 1 { name := some "hall" }) ⟨85, 86, 87⟩,
    .request 5 (.createChannel "Main") ⟨88, 89, 90⟩]

theorem mainChannel_open_siege : townHall.WellFormed ∧
    ∃ c, townHall.liveChannel? mainChannel = some c ∧
      ∃ c', (Run.final (step .ascii) (start townHall 100) siege).shared.db.liveChannel? mainChannel
        = some c' ∧ c'.id = c.id ∧ c'.archivedAt = none := by
  refine ⟨townHall_wellFormed, _, rfl, ?_⟩
  obtain ⟨c', hc', hid, -, harchived, -⟩ :=
    mainChannel_open .ascii townHall_wellFormed (c := { id := 1, name := mainChannel, createdAt := 0 })
      (by decide) rfl rfl 100 siege
  exact ⟨c', hc', hid, harchived⟩

end Server

end Vussa
