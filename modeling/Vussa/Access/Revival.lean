import Vussa.Access.Queries
import Vussa.Sockets.Forwarding

/-!
Channels created under the name of a deleted one. `create_public_channel` (`services.rs`) and
`admin_create_channel` (`api/admin.rs`) insert a public channel, or take away the deletion of the
channel that has the name. The kind, the owner and the archiving of its earlier life stay.

* `OpenChannel`: what a success should mean, a public channel that its creator sees and may read;
* `Plain`: the earlier life of a name, if any, was public and not archived;
* `openChannel_of_upsert`: the two writes, against the earlier life;
* `SameChannels`, `publishSystemMessage_sameChannels`: what follows the write leaves the channels
  alone;
* `created_open_iff`: **in every state of a run a created channel is open exactly if the name had no
  other earlier life**.
-/

namespace Vussa

open Effect

variable {U : Unicode} {s s' : Shared} {name : String} {creator : Uuid}

/-! ### Open channels -/

/-- The live channel of the name is public and not archived, and its creator, unless banned, finds
it in the list of channels and may read it. -/
def OpenChannel (s : Shared) (name : String) (creator : Uuid) : Prop :=
  ∃ c ∈ s.db.channels, c.name = name ∧ c.deletedAt = none ∧ c.kind = .pub ∧ c.archivedAt = none ∧
    (¬ Banned s.db s.now creator c.id → name ∈ listChannels s.db s.now creator ∧
      ensureChannelAccess s.db s.now name creator = .ok ())

/-- A channel that had the name was public, and is not archived. -/
def Plain (db : Database) (name : String) : Prop :=
  ∀ c ∈ db.channels, c.name = name → c.kind = .pub ∧ c.archivedAt = none

instance (db : Database) (name : String) : Decidable (Plain db name) :=
  inferInstanceAs (Decidable (∀ c ∈ db.channels, _))

/-- A live public channel that is not archived is open: both queries ask for no more. -/
lemma openChannel_iff : OpenChannel s name creator ↔
    ∃ c ∈ s.db.channels, c.name = name ∧ c.deletedAt = none ∧ c.kind = .pub ∧
      c.archivedAt = none := by
  constructor
  · rintro ⟨c, hc, hname, hlive, hkind, harchived, -⟩
    exact ⟨c, hc, hname, hlive, hkind, harchived⟩
  · rintro ⟨c, hc, rfl, hlive, hkind, harchived⟩
    refine ⟨c, hc, rfl, hlive, hkind, harchived, fun hban => ⟨?_, ?_⟩⟩
    · refine (List.mem_insertionSort _).mpr ?_
      refine List.mem_map.mpr ⟨c, List.mem_filter.mpr ⟨hc, ?_⟩, rfl⟩
      exact decide_eq_true ⟨hlive, harchived, hkind, hban⟩
    · exact ensureChannelAccess_eq_ok.mpr ⟨c, hc, rfl, hlive, .inl hkind, hban⟩

/-- The channels are those of another state. -/
def SameChannels (db : Database) (s : Shared) : Prop := s.db.channels = db.channels

lemma SameChannels.openChannel_iff {db : Database} (h : SameChannels db s) :
    OpenChannel s name creator ↔ ∃ c ∈ db.channels, c.name = name ∧ c.deletedAt = none ∧
      c.kind = .pub ∧ c.archivedAt = none := by
  rw [Vussa.openChannel_iff, h]

/-- A system message is no channel. -/
lemma publishSystemMessage_sameChannels (db : Database) (notice : Uuid) (channel text : String) :
    Preserves (SameChannels db) (publishSystemMessage notice channel text) :=
  preserves_publishSystemMessage notice channel text (fun _ _ h => h) fun _ _ h _ _ => h

lemma broadcastControl_sameChannels (db : Database) (event : ServerEvent) :
    Preserves (SameChannels db) (broadcastControl event) :=
  Preserves.update fun _ h => h

/-- A run that returned has come to the state behind it. -/
lemma holds_of_run_ok {α : Type} {P : Shared → Prop} {x : App α} (hx : Preserves P x) {a : α}
    (hs : P s) (h : x.run s = .ok a s') : P s' := by
  have hafter := hx s hs
  rw [after, h] at hafter
  exact hafter

/-! ### The upsert -/

/-- The upsert makes a channel of the name that is public and not archived exactly if an earlier
one was; a change `f` of other columns does not matter. -/
lemma upsert_open_iff {db db' : Database} (hwf : db.WellFormed) {id id' : Uuid} {now : Millis}
    (h : db.upsertChannel id name now = .ok (db', id')) {f : ChannelRow → ChannelRow}
    (hf : ∀ c, (f c).name = c.name ∧ (f c).deletedAt = c.deletedAt ∧ (f c).kind = c.kind ∧
      (f c).archivedAt = c.archivedAt) :
    (∃ c ∈ (db'.updateChannel id' f).channels, c.name = name ∧ c.deletedAt = none ∧ c.kind = .pub ∧
      c.archivedAt = none) ↔ Plain db name := by
  have hf' : ∀ c : ChannelRow, (if c.id = id' then f c else c).name = c.name ∧
      (if c.id = id' then f c else c).deletedAt = c.deletedAt ∧
      (if c.id = id' then f c else c).kind = c.kind ∧
      (if c.id = id' then f c else c).archivedAt = c.archivedAt := by
    intro c
    split
    · exact hf c
    · exact ⟨rfl, rfl, rfl, rfl⟩
  have hrows : (∃ c ∈ (db'.updateChannel id' f).channels, c.name = name ∧ c.deletedAt = none ∧
      c.kind = .pub ∧ c.archivedAt = none) ↔ ∃ c ∈ db'.channels, c.name = name ∧
        c.deletedAt = none ∧ c.kind = .pub ∧ c.archivedAt = none := by
    simp only [Database.updateChannel, List.mem_map, exists_exists_and_eq_and, (hf' _).1,
      (hf' _).2.1, (hf' _).2.2.1, (hf' _).2.2.2]
  rw [hrows]
  rcases Database.upsertChannel_ok h with ⟨-, hfresh, rfl⟩ | ⟨c, hc, hname, -, -, rfl⟩
  · -- a new row: nobody had the name
    refine iff_of_true ?_ fun c hc heq => absurd heq (hfresh c hc).2
    exact ⟨_, List.mem_append_right _ (List.mem_singleton_self _), rfl, rfl, rfl, rfl⟩
  · -- the deleted row comes back
    have hone : ∀ c' ∈ db.channels, c'.name = name → c' = c := fun c' hc' hname' =>
      List.inj_on_of_nodup_map hwf.channelName hc' hc (hname'.trans hname.symm)
    constructor
    · rintro ⟨c1, hc1, hname1, -, hkind, harchived⟩ c' hc' hname'
      obtain rfl := hone c' hc' hname'
      obtain ⟨c2, hc2, rfl⟩ := List.mem_map.mp hc1
      split at hname1
      · rename_i hid
        rw [if_pos hid] at hkind harchived
        obtain rfl := hone c2 hc2 hname1
        exact ⟨hkind, harchived⟩
      · rename_i hid
        obtain rfl := hone c2 hc2 hname1
        exact absurd rfl hid
    · intro hplain
      obtain ⟨hkind, harchived⟩ := hplain c hc hname
      refine ⟨{ c with deletedAt := none }, List.mem_map.mpr ⟨c, hc, if_pos rfl⟩, hname, rfl, hkind,
        harchived⟩

/-! ### The two handlers -/

/-- A created channel is open exactly if the name had no other earlier life. -/
lemma createPublicChannel_open (hwf : s.db.WellFormed) {channelId notice : Uuid} {actor : AuthUser}
    {raw : String} (h : (createPublicChannel U channelId notice actor raw).run s = .ok name s') :
    OpenChannel s' name creator ↔ Plain s.db name := by
  rw [createPublicChannel] at h
  obtain ⟨_, -, h⟩ := read_bind_run_ok_iff.mp h
  obtain ⟨_, -, h⟩ := read_bind_run_ok_iff.mp h
  obtain ⟨name', -, h⟩ := read_bind_run_ok_iff.mp h
  obtain ⟨u, s1, hwrite, h⟩ := bind_run_ok h
  obtain ⟨db1, hdb1, rfl⟩ := transaction_run_ok hwrite
  obtain ⟨⟨db', id'⟩, hupsert, heq⟩ := map_eq_ok hdb1
  obtain ⟨rfl, -⟩ := Prod.mk.inj heq
  have hsame : SameChannels db' (s.setDb (db'.recordAudit actor.id "channel.created" "channel" id'
      [] s.now)) := rfl
  obtain ⟨_, s2, hnotice, h⟩ := bind_run_ok h
  have hsame := holds_of_run_ok (publishSystemMessage_sameChannels db' _ _ _) hsame hnotice
  obtain ⟨_, s3, hcontrol, h⟩ := bind_run_ok h
  have hsame := holds_of_run_ok (broadcastControl_sameChannels db' _) hsame hcontrol
  cases h
  have hid : db'.updateChannel id' id = db' := by
    simp only [Database.updateChannel, id_eq, ite_self, List.map_id']
  rw [hsame.openChannel_iff, ← upsert_open_iff hwf hupsert (f := id)
    fun _ => ⟨rfl, rfl, rfl, rfl⟩, hid]

lemma adminCreateChannel_open (hwf : s.db.WellFormed) {channelId notice : Uuid} {actor : AuthUser}
    {request : ChannelAdminRequest}
    (hname : normalizeChannelName U (request.name.getD "") = .ok name)
    {u : Unit} (h : (adminCreateChannel U channelId notice actor request).run s = .ok u s') :
    OpenChannel s' name creator ↔ Plain s.db name := by
  rw [adminCreateChannel] at h
  obtain ⟨_, -, h⟩ := read_bind_run_ok_iff.mp h
  obtain ⟨name', hname', h⟩ := read_bind_run_ok_iff.mp h
  obtain rfl : name' = name := Except.ok.inj (hname'.symm.trans hname)
  obtain ⟨_, -, h⟩ := read_bind_run_ok_iff.mp h
  obtain ⟨_, -, h⟩ := read_bind_run_ok_iff.mp h
  obtain ⟨id', s1, hwrite, h⟩ := bind_run_ok h
  obtain ⟨db', hupsert, rfl⟩ := transaction_run_ok hwrite
  obtain ⟨_, s2, hconfigure, h⟩ := bind_run_ok h
  obtain ⟨db2, hdb2, rfl⟩ := transaction_run_ok hconfigure
  obtain ⟨rfl, -⟩ := Prod.mk.inj (Except.ok.inj hdb2)
  have hsame : SameChannels (db'.updateChannel id' (ChannelRow.configure request))
      ((s.setDb db').setDb ((db'.updateChannel id' (ChannelRow.configure request)).recordAudit
        actor.id "channel.created" "channel" id' [] s.now)) := rfl
  have hsame := holds_of_run_ok (publishSystemMessage_sameChannels _ _ _ _) hsame h
  rw [hsame.openChannel_iff, upsert_open_iff hwf hupsert]
  exact fun _ => ⟨rfl, rfl, rfl, rfl⟩

/-! ### Runs -/

namespace Server

/-- The keys hold in every state of a run. -/
lemma wellFormed_final (U : Unicode) {db : Database} (hwf : db.WellFormed) (now : Millis)
    (as : List Act) : (Run.final (step U) (start db now) as).shared.db.WellFormed :=
  Run.final_invariant (I := fun s : Server => s.shared.db.WellFormed)
    (fun _ a hs => (accessKept_step hs a).wellFormed) hwf as

/-- **Created channels**: when `create_public_channel` or `admin_create_channel` returns in a state
of a run, the live channel of the name is public, not archived, listed and readable for its creator,
exactly if no channel with the name was private, direct or archived before. -/
theorem created_open_iff (U : Unicode) {db : Database} (hwf : db.WellFormed) (now : Millis)
    (as : List Act) (channelId notice : Uuid) (actor : AuthUser) (name : String) (s' : Shared) :
    (∀ raw, (createPublicChannel U channelId notice actor raw).run
        (Run.final (step U) (start db now) as).shared = .ok name s' →
      (OpenChannel s' name actor.id ↔
        Plain (Run.final (step U) (start db now) as).shared.db name)) ∧
    ∀ request, normalizeChannelName U (request.name.getD "") = .ok name →
      (adminCreateChannel U channelId notice actor request).run
        (Run.final (step U) (start db now) as).shared = .ok ⟨⟩ s' →
      (OpenChannel s' name actor.id ↔
        Plain (Run.final (step U) (start db now) as).shared.db name) :=
  ⟨fun _ h => createPublicChannel_open (wellFormed_final U hwf now as) h,
    fun _ hname h => adminCreateChannel_open (wellFormed_final U hwf now as) hname h⟩

/-- A run with an answer ends in the state behind it. -/
lemma run_eq_ok_of_run' {α : Type} {x : App α} {s : Shared} {a : α} (h : x.run' s = some a) :
    x.run s = .ok a (after x s) := by
  delta EStateM.run' at h
  rw [after]
  cases hx : x.run s with
  | ok b s' =>
      rw [hx] at h
      rw [Option.some.inj h]
  | error e s' =>
      rw [hx] at h
      exact absurd h (by simp)

/-- The main channel. -/
def townHall : Database where
  channels := [{ id := 1, name := mainChannel, createdAt := 0 }]

/-- A user who may write, and administer channels. -/
def townUser (id : Uuid) (username : String) : AuthUser :=
  { id := id, email := "", username := username, roles := []
    permissions := [.chatWrite, .channelsWrite] }

/-- A public channel that was deleted comes back open. -/
def publicLife : List Act :=
  [.login 5 (townUser 30 "ada"), .request 5 (.createChannel "team") ⟨2, 80, 81⟩,
    .request 5 (.adminChannelState 2 .delete) ⟨82, 83, 84⟩]

/-- A private channel and an archived one are deleted. -/
def otherLives : List Act :=
  [.login 5 (townUser 30 "ada"), .request 5 (.createPrivateChannel "team") ⟨2, 80, 81⟩,
    .request 5 (.createChannel "club") ⟨3, 82, 83⟩,
    .request 5 (.adminChannelState 3 .archive) ⟨84, 85, 86⟩,
    .request 5 (.adminChannelState 2 .delete) ⟨87, 88, 89⟩,
    .request 5 (.adminChannelState 3 .delete) ⟨90, 91, 92⟩]

lemma townHall_wellFormed : townHall.WellFormed := ⟨by decide, by decide, by decide⟩

/-- Another user creates a channel after a run. -/
def created (as : List Act) (name : String) : App String × Shared :=
  (createPublicChannel .ascii 95 96 (townUser 31 "bob") name,
    (Run.final (step .ascii) (start townHall 100) as).shared)

/-- After the deletion of a public channel a new one is open. -/
theorem created_open_publicLife : townHall.WellFormed ∧
    (created publicLife "team").1.run (created publicLife "team").2 =
      .ok "team" (after (created publicLife "team").1 (created publicLife "team").2) ∧
    OpenChannel (after (created publicLife "team").1 (created publicLife "team").2) "team" 31 := by
  have hrun : (created publicLife "team").1.run (created publicLife "team").2 =
      .ok "team" (after (created publicLife "team").1 (created publicLife "team").2) :=
    run_eq_ok_of_run' (by decide +kernel)
  refine ⟨townHall_wellFormed, hrun, ?_⟩
  exact ((created_open_iff .ascii townHall_wellFormed 100 publicLife 95 96 (townUser 31 "bob")
    "team" _).1 "team" hrun).mpr (by decide +kernel)

/-- After the deletion of a private channel, and of an archived one, both names are created and none
is open. -/
theorem created_not_open :
    ((created otherLives "team").1.run (created otherLives "team").2 =
        .ok "team" (after (created otherLives "team").1 (created otherLives "team").2) ∧
      ¬ OpenChannel (after (created otherLives "team").1 (created otherLives "team").2) "team" 31) ∧
    ((created otherLives "club").1.run (created otherLives "club").2 =
        .ok "club" (after (created otherLives "club").1 (created otherLives "club").2) ∧
      ¬ OpenChannel (after (created otherLives "club").1 (created otherLives "club").2) "club"
        31) := by
  have hwf : (created otherLives "team").2.db.WellFormed :=
    wellFormed_final .ascii townHall_wellFormed 100 otherLives
  have hteam : (created otherLives "team").1.run (created otherLives "team").2 =
      .ok "team" (after (created otherLives "team").1 (created otherLives "team").2) :=
    run_eq_ok_of_run' (by decide +kernel)
  have hclub : (created otherLives "club").1.run (created otherLives "club").2 =
      .ok "club" (after (created otherLives "club").1 (created otherLives "club").2) :=
    run_eq_ok_of_run' (by decide +kernel)
  refine ⟨⟨hteam, ?_⟩, hclub, ?_⟩
  · exact (createPublicChannel_open hwf hteam).not.mpr (by decide +kernel)
  · exact (createPublicChannel_open hwf hclub).not.mpr (by decide +kernel)

end Server

end Vussa
