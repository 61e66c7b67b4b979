import Vussa.Members.Statements

/-!
The keys of the channel tables along every interleaving of the requests, and what a request knows
about the tables at each of its statements.

* `Keys`: the primary keys, the reference of a member to its channel, and the unique index on the
  direct keys of live channels;
* `Sole`, `Live`, `HasPlace`: like `Fresh`, facts about the tables that a request has read, each
  kept by every write that does not hold the lock it is guarded by;
* `Sound`: what a request knows;
* `keys_keeps`: **the keys and this knowledge hold along every run**.
-/

namespace Vussa.Members

open ReadCommitted

/-! ### Facts about the tables -/

/-- The columns of a channel that no statement changes. -/
def place (c : ChannelRow) : Uuid × String × ChannelKind × Option (Uuid × Uuid) :=
  (c.id, c.name, c.kind, c.directKey)

/-- A channel with given fixed columns exists. -/
def HasPlace (d : Tables) (Q : Uuid × String × ChannelKind × Option (Uuid × Uuid) → Prop) : Prop :=
  ∃ c ∈ d.channels, Q (place c)

/-- The pair has no live channel but this one. -/
def Sole (d : Tables) (key : Uuid × Uuid) (id : Uuid) : Prop :=
  ∀ c ∈ d.channels, IsDirect key c → c.id = id

/-- The channel is live. -/
def Live (d : Tables) (id : Uuid) : Prop := ∃ c ∈ d.channels, c.id = id ∧ c.deletedAt = none

/-- The keys of the tables. -/
structure Keys (d : Tables) : Prop where
  channelId : (d.channels.map ChannelRow.id).Nodup
  keyed : ∀ c ∈ d.channels, c.directKey ≠ none → c.kind = .direct
  directKey : ∀ key, ∀ c ∈ d.channels, IsDirect key c → Sole d key c.id
  memberKey : (d.channelMembers.map fun cm => (cm.channelId, cm.userId)).Nodup
  reference : ∀ cm ∈ d.channelMembers, ∃ c ∈ d.channels, c.id = cm.channelId

/-! ### What a write does to the channels -/

/-- The owner of a channel after a write. -/
def Write.ownerOf (c : ChannelRow) : Write → Option Uuid
  | setOwner id userId => if c.id = id then some userId else c.ownerUserId
  | _ => c.ownerUserId

/-- An update of channel rows by a write. -/
structure Write.Updates (w : Write) (f : ChannelRow → ChannelRow) : Prop where
  place : ∀ c, place (f c) = place c
  untouched : ∀ c, Lock.channel c.id ∉ w.locks → f c = c
  live : ∀ c, (f c).deletedAt = none → c.deletedAt = none ∨ w = .undelete c.id c.directKey
  alive : ∀ c, c.deletedAt = none → (f c).deletedAt = none ∨ ∃ now, w = .deleteChannel c.id now
  owner : ∀ c, (f c).ownerUserId = w.ownerOf c

namespace Write.Updates

variable {w : Write} {f : ChannelRow → ChannelRow} (h : w.Updates f) (c : ChannelRow)

include h

lemma id : (f c).id = c.id := congrArg Prod.fst (h.place c)

lemma name : (f c).name = c.name := congrArg (fun q => q.2.1) (h.place c)

lemma kind : (f c).kind = c.kind := congrArg (fun q => q.2.2.1) (h.place c)

lemma directKey : (f c).directKey = c.directKey := congrArg (fun q => q.2.2.2) (h.place c)

end Write.Updates

/-- The update of one row. -/
lemma updates_row {w : Write} {id : Uuid} (g : ChannelRow → ChannelRow)
    (hlock : Lock.channel id ∈ w.locks) (hplace : ∀ c, place (g c) = place c)
    (hlive : ∀ c, c.id = id → (g c).deletedAt = none →
      c.deletedAt = none ∨ w = .undelete c.id c.directKey)
    (halive : ∀ c, c.id = id → c.deletedAt = none →
      (g c).deletedAt = none ∨ ∃ now, w = .deleteChannel c.id now)
    (howner : ∀ c, (if c.id = id then g c else c).ownerUserId = w.ownerOf c) :
    w.Updates fun c => if c.id = id then g c else c := by
  refine ⟨fun c => ?_, fun c hc => ?_, fun c hnone => ?_, fun c hlive => ?_, howner⟩
  · split
    · exact hplace c
    · rfl
  · exact if_neg fun heq : c.id = id => hc (heq ▸ hlock)
  · split at hnone
    next heq => exact hlive c heq hnone
    next => exact Or.inl hnone
  · split
    next heq => exact halive c heq hlive
    next => exact Or.inl hlive

/-- A write inserts a channel or updates the rows. -/
lemma apply_channels (d : Tables) (w : Write) :
    (∃ row, w = .insertChannel row ∧ (w.apply d).channels = d.channels ++ [row]) ∨
      ∃ f, w.Updates f ∧ (w.apply d).channels = d.channels.map f := by
  have hsame : (w.apply d).channels = d.channels → (∀ c, c.ownerUserId = w.ownerOf c) →
      ∃ f, w.Updates f ∧ (w.apply d).channels = d.channels.map f := fun heq howner =>
    ⟨fun c => c, ⟨fun _ => rfl, fun _ _ => rfl, fun _ => Or.inl, fun _ => Or.inl, howner⟩,
      by rw [heq, List.map_id']⟩
  cases w with
  | insertChannel row => exact Or.inl ⟨row, rfl, rfl⟩
  | undelete id key =>
      refine Or.inr ⟨_, updates_row (fun c => if c.directKey = key then { c with deletedAt := none }
        else c) (List.mem_cons_self ..) (fun c => ?_) (fun c heq hnone => ?_)
        (fun c _ hlive => Or.inl ?_) (fun c => ?_), rfl⟩
      · split <;> rfl
      · split at hnone
        next hkey => exact Or.inr (by rw [heq, hkey])
        next => exact Or.inl hnone
      · split
        · rfl
        · exact hlive
      · split
        · split <;> rfl
        · rfl
  | deleteChannel id now =>
      refine Or.inr ⟨_, updates_row (fun c => { c with deletedAt := some (c.deletedAt.getD now) })
        (List.mem_singleton_self _) (fun _ => rfl) (fun _ _ hnone => absurd hnone (by simp))
        (fun c heq _ => Or.inr ⟨now, by rw [heq]⟩) (fun c => ?_), rfl⟩
      split <;> rfl
  | setArchived id archivedAt =>
      refine Or.inr ⟨_, updates_row (fun c => { c with archivedAt := archivedAt })
        (List.mem_singleton_self _) (fun _ => rfl) (fun _ _ hnone => Or.inl hnone)
        (fun _ _ hlive => Or.inl hlive) (fun c => ?_), rfl⟩
      split <;> rfl
  | setOwner id userId =>
      refine Or.inr ⟨_, updates_row (fun c => { c with ownerUserId := some userId })
        (List.mem_singleton_self _) (fun _ => rfl) (fun _ _ hnone => Or.inl hnone)
        (fun _ _ hlive => Or.inl hlive) (fun c => ?_), rfl⟩
      rw [Write.ownerOf]
      split <;> rfl
  | insertMember row =>
      refine Or.inr (hsame ?_ fun _ => rfl)
      change (d.addMember row).channels = d.channels
      rw [Database.addMember]
      split <;> rfl
  | deleteMember channelId userId keepOwner => exact Or.inr (hsame rfl fun _ => rfl)
  | changeRole channelId userId old new => exact Or.inr (hsame rfl fun _ => rfl)
  | setRole channelId userId role => exact Or.inr (hsame rfl fun _ => rfl)
  | insertLink row => exact Or.inr (hsame rfl fun _ => rfl)
  | useLink tokenHash => exact Or.inr (hsame rfl fun _ => rfl)

section Facts

variable {d : Tables} {w : Write}

lemma hasPlace_apply {Q : Uuid × String × ChannelKind × Option (Uuid × Uuid) → Prop}
    (h : HasPlace d Q) : HasPlace (w.apply d) Q := by
  obtain ⟨c, hc, hQ⟩ := h
  obtain ⟨row, -, hrows⟩ | ⟨f, hf, hrows⟩ := apply_channels d w
  · exact ⟨c, hrows ▸ List.mem_append_left _ hc, hQ⟩
  · exact ⟨f c, hrows ▸ List.mem_map_of_mem hc, (hf.place c).symm ▸ hQ⟩

lemma fresh_apply {id : Uuid} {name : String} (h : Fresh d id name)
    (hid : Lock.channel id ∉ w.locks) (hname : Lock.name name ∉ w.locks) :
    Fresh (w.apply d) id name := by
  intro c' hc'
  obtain ⟨row, rfl, hrows⟩ | ⟨f, hf, hrows⟩ := apply_channels d w
  · rcases List.mem_append.mp (hrows ▸ hc') with hc | hc
    · exact h c' hc
    · obtain rfl := List.mem_singleton.mp hc
      exact ⟨fun heq => hid (by simp [Write.locks, heq]),
        fun heq => hname (by simp [Write.locks, heq])⟩
  · obtain ⟨c, hc, rfl⟩ := List.mem_map.mp (hrows ▸ hc')
    rw [hf.id, hf.name]
    exact h c hc

lemma sole_apply {key : Uuid × Uuid} {id : Uuid} (h : Sole d key id)
    (hkey : Lock.direct key ∉ w.locks) : Sole (w.apply d) key id := by
  intro c' hc' hdirect
  obtain ⟨row, rfl, hrows⟩ | ⟨f, hf, hrows⟩ := apply_channels d w
  · rcases List.mem_append.mp (hrows ▸ hc') with hc | hc
    · exact h c' hc hdirect
    · obtain rfl := List.mem_singleton.mp hc
      exact absurd (by simp [Write.locks, hdirect.2.1]) hkey
  · obtain ⟨c, hc, rfl⟩ := List.mem_map.mp (hrows ▸ hc')
    obtain ⟨hkind, hk, hnone⟩ := hdirect
    rw [hf.kind] at hkind
    rw [hf.directKey] at hk
    rw [hf.id]
    rcases hf.live c hnone with hlive | rfl
    · exact h c hc ⟨hkind, hk, hlive⟩
    · exact absurd (by simp [Write.locks, hk]) hkey

lemma live_apply {id : Uuid} (h : Live d id) (hid : Lock.channel id ∉ w.locks) :
    Live (w.apply d) id := by
  obtain ⟨c, hc, heq, hlive⟩ := h
  obtain ⟨row, -, hrows⟩ | ⟨f, hf, hrows⟩ := apply_channels d w
  · exact ⟨c, hrows ▸ List.mem_append_left _ hc, heq, hlive⟩
  · have hsame : f c = c := hf.untouched c (heq ▸ hid)
    exact ⟨c, hrows ▸ (List.mem_map.mpr ⟨c, hc, hsame⟩), heq, hlive⟩

/-- A row of `channel_members` was there before, in whatever role, or is the one inserted. -/
lemma member_of_apply {cm' : MemberRow} (h : cm' ∈ (w.apply d).channelMembers) :
    w = .insertMember cm' ∨
      ∃ cm ∈ d.channelMembers, cm.channelId = cm'.channelId ∧ cm.userId = cm'.userId := by
  have hold : cm' ∈ d.channelMembers → w = .insertMember cm' ∨
      ∃ cm ∈ d.channelMembers, cm.channelId = cm'.channelId ∧ cm.userId = cm'.userId :=
    fun hcm => Or.inr ⟨cm', hcm, rfl, rfl⟩
  have hroles : ∀ (sel : MemberRow → Prop) [DecidablePred sel] (role : MembershipRole),
      cm' ∈ (Write.mapRole d sel role).channelMembers →
      ∃ cm ∈ d.channelMembers, cm.channelId = cm'.channelId ∧ cm.userId = cm'.userId := by
    intro sel _ role hcm
    obtain ⟨cm, hmem, rfl⟩ := List.mem_map.mp hcm
    refine ⟨cm, hmem, ?_⟩
    split
    · exact ⟨rfl, rfl⟩
    · exact ⟨rfl, rfl⟩
  cases w with
  | insertMember row =>
      change cm' ∈ (d.addMember row).channelMembers at h
      rw [Database.addMember] at h
      split at h
      · exact hold h
      · rcases List.mem_append.mp h with hcm | hcm
        · exact hold hcm
        · exact Or.inl (by rw [List.mem_singleton.mp hcm])
  | deleteMember channelId userId keepOwner => exact hold (List.mem_of_mem_filter h)
  | changeRole channelId userId old new => exact Or.inr (hroles _ new h)
  | setRole channelId userId role => exact Or.inr (hroles _ role h)
  | insertChannel _ => exact hold h
  | undelete _ _ => exact hold h
  | deleteChannel _ _ => exact hold h
  | setArchived _ _ => exact hold h
  | setOwner _ _ => exact hold h
  | insertLink _ => exact hold h
  | useLink _ => exact hold h

/-- A membership is deleted by a deletion of its row alone. -/
lemma member_apply {channelId userId : Uuid} (h : Member d.toDatabase channelId userId)
    (hdelete : ∀ keepOwner, w ≠ .deleteMember channelId userId keepOwner) :
    Member (w.apply d).toDatabase channelId userId := by
  obtain ⟨cm, hcm, hchannel, huser⟩ := h
  have hroles : ∀ (sel : MemberRow → Prop) [DecidablePred sel] (role : MembershipRole),
      Member (Write.mapRole d sel role).toDatabase channelId userId := by
    intro sel _ role
    refine ⟨_, List.mem_map_of_mem hcm, ?_⟩
    split
    · exact ⟨hchannel, huser⟩
    · exact ⟨hchannel, huser⟩
  cases w with
  | insertMember row =>
      change Member (d.addMember row) channelId userId
      rw [Database.addMember]
      split
      · exact ⟨cm, hcm, hchannel, huser⟩
      · exact ⟨cm, List.mem_append_left _ hcm, hchannel, huser⟩
  | deleteMember c u keepOwner =>
      refine ⟨cm, List.mem_filter.mpr ⟨hcm, decide_eq_true ?_⟩, hchannel, huser⟩
      rintro ⟨hc, hu, -⟩
      exact hdelete keepOwner (by rw [← hchannel, ← huser, hc, hu])
  | changeRole _ _ _ new => exact hroles _ new
  | setRole _ _ role => exact hroles _ role
  | insertChannel _ => exact ⟨cm, hcm, hchannel, huser⟩
  | undelete _ _ => exact ⟨cm, hcm, hchannel, huser⟩
  | deleteChannel _ _ => exact ⟨cm, hcm, hchannel, huser⟩
  | setArchived _ _ => exact ⟨cm, hcm, hchannel, huser⟩
  | setOwner _ _ => exact ⟨cm, hcm, hchannel, huser⟩
  | insertLink _ => exact ⟨cm, hcm, hchannel, huser⟩
  | useLink _ => exact ⟨cm, hcm, hchannel, huser⟩

/-- A change of roles makes nobody a member. -/
lemma member_of_mapRole {sel : MemberRow → Prop} [DecidablePred sel] {role : MembershipRole}
    {channelId userId : Uuid}
    (h : Member (Write.mapRole d sel role).toDatabase channelId userId) :
    Member d.toDatabase channelId userId := by
  obtain ⟨cm', hcm', hchannel, huser⟩ := h
  obtain ⟨cm, hcm, rfl⟩ := List.mem_map.mp hcm'
  refine ⟨cm, hcm, ?_⟩
  split at hchannel
  next hsel =>
    rw [if_pos hsel] at huser
    exact ⟨hchannel, huser⟩
  next hsel =>
    rw [if_neg hsel] at huser
    exact ⟨hchannel, huser⟩

/-- The inserted row is there, or one of the same user was. -/
lemma member_insertMember (d : Tables) (row : MemberRow) :
    Member ((Write.insertMember row).apply d).toDatabase row.channelId row.userId := by
  change Member (d.addMember row) row.channelId row.userId
  rw [Database.addMember]
  split
  next hex => exact hex
  next => exact ⟨row, List.mem_append_right _ (List.mem_singleton_self _), rfl, rfl⟩

end Facts

/-! ### The keys -/

/-- What a write needs to keep the keys. -/
def Write.Legal (d : Tables) : Write → Prop
  | insertChannel row => Fresh d row.id row.name ∧ (row.directKey ≠ none → row.kind = .direct) ∧
      ∀ key ∈ row.directKey, Sole d key row.id
  | undelete id key => ∀ k ∈ key, Sole d k id
  | insertMember row => HasPlace d fun q => q.1 = row.channelId
  | _ => True

section Apply

variable {d : Tables} {w : Write}

lemma Keys.channels_apply (h : Keys d) (hw : w.Legal d) :
    ((w.apply d).channels.map ChannelRow.id).Nodup ∧
    (∀ c ∈ (w.apply d).channels, c.directKey ≠ none → c.kind = .direct) ∧
    ∀ key, ∀ c ∈ (w.apply d).channels, IsDirect key c → Sole (w.apply d) key c.id := by
  obtain ⟨row, rfl, hrows⟩ | ⟨f, hf, hrows⟩ := apply_channels d w
  · obtain ⟨hfresh, hkeyed, hsole⟩ := hw
    rw [hrows]
    refine ⟨?_, fun c hc => ?_, fun key c hc hdirect c' hc' hdirect' => ?_⟩
    · rw [List.map_append, List.map_singleton, ← List.concat_eq_append]
      refine List.Nodup.concat ?_ h.channelId
      rintro hmem
      obtain ⟨c, hc, heq⟩ := List.mem_map.mp hmem
      exact (hfresh c hc).1 heq
    · rcases List.mem_append.mp hc with hc | hc
      · exact h.keyed c hc
      · exact List.mem_singleton.mp hc ▸ hkeyed
    · rw [hrows] at hc'
      rcases List.mem_append.mp hc with hold | hnew
      · rcases List.mem_append.mp hc' with hold' | hnew'
        · exact h.directKey key c hold hdirect c' hold' hdirect'
        · obtain rfl := List.mem_singleton.mp hnew'
          exact (hsole key hdirect'.2.1 c hold hdirect).symm
      · obtain rfl := List.mem_singleton.mp hnew
        rcases List.mem_append.mp hc' with hold' | hnew'
        · exact hsole key hdirect.2.1 c' hold' hdirect'
        · rw [List.mem_singleton.mp hnew']
  · have hback : ∀ {key : Uuid × Uuid} {c : ChannelRow}, IsDirect key (f c) →
        IsDirect key c ∨ w = .undelete c.id (some key) := by
      rintro key c ⟨hkind, hkey, hnone⟩
      rw [hf.kind] at hkind
      rw [hf.directKey] at hkey
      exact (hf.live c hnone).imp (fun hlive => ⟨hkind, hkey, hlive⟩) fun hw => hkey ▸ hw
    rw [hrows]
    refine ⟨?_, fun c hc => ?_, fun key c hc hdirect c' hc' hdirect' => ?_⟩
    · rw [List.map_map]
      exact (List.map_congr_left fun c _ => hf.id c : d.channels.map (ChannelRow.id ∘ f)
        = d.channels.map ChannelRow.id) ▸ h.channelId
    · obtain ⟨c₀, hc₀, rfl⟩ := List.mem_map.mp hc
      rw [hf.directKey, hf.kind]
      exact h.keyed c₀ hc₀
    · rw [hrows] at hc'
      obtain ⟨c₀, hc₀, rfl⟩ := List.mem_map.mp hc
      obtain ⟨c₁, hc₁, rfl⟩ := List.mem_map.mp hc'
      rw [hf.id, hf.id]
      rcases hback hdirect with hlive | rfl
      · rcases hback hdirect' with hlive' | rfl
        · exact h.directKey key c₀ hc₀ hlive c₁ hc₁ hlive'
        · exact (hw key rfl c₀ hc₀ hlive).symm
      · rcases hback hdirect' with hlive' | heq
        · exact hw key rfl c₁ hc₁ hlive'
        · exact (Write.undelete.inj heq).1.symm

lemma Keys.memberKey_apply (h : Keys d) :
    ((w.apply d).channelMembers.map fun cm => (cm.channelId, cm.userId)).Nodup := by
  have hroles : ∀ (sel : MemberRow → Prop) [DecidablePred sel] (role : MembershipRole),
      ((Write.mapRole d sel role).channelMembers.map
        fun cm => (cm.channelId, cm.userId)).Nodup := by
    intro sel _ role
    rw [Write.mapRole, List.map_map]
    refine (List.map_congr_left fun cm _ => ?_ : _ = d.channelMembers.map fun cm =>
      (cm.channelId, cm.userId)) ▸ h.memberKey
    rw [Function.comp_apply]
    split <;> rfl
  cases w with
  | insertMember row =>
      change ((d.addMember row).channelMembers.map fun cm => (cm.channelId, cm.userId)).Nodup
      rw [Database.addMember]
      split
      · exact h.memberKey
      · rename_i hnew
        rw [List.map_append, List.map_singleton, ← List.concat_eq_append]
        refine List.Nodup.concat (fun hmem => ?_) h.memberKey
        obtain ⟨cm, hcm, heq⟩ := List.mem_map.mp hmem
        rw [Prod.mk.injEq] at heq
        exact hnew ⟨cm, hcm, heq⟩
  | deleteMember channelId userId keepOwner =>
      exact h.memberKey.sublist (List.filter_sublist.map _)
  | changeRole _ _ _ new => exact hroles _ new
  | setRole _ _ role => exact hroles _ role
  | insertChannel _ => exact h.memberKey
  | undelete _ _ => exact h.memberKey
  | deleteChannel _ _ => exact h.memberKey
  | setArchived _ _ => exact h.memberKey
  | setOwner _ _ => exact h.memberKey
  | insertLink _ => exact h.memberKey
  | useLink _ => exact h.memberKey

/-- A legal write keeps the keys. -/
lemma Keys.apply (h : Keys d) (hw : w.Legal d) : Keys (w.apply d) := by
  obtain ⟨hid, hkeyed, hdirect⟩ := h.channels_apply hw
  refine ⟨hid, hkeyed, hdirect, h.memberKey_apply, fun cm' hcm' => ?_⟩
  have hplace : HasPlace d fun q => q.1 = cm'.channelId := by
    rcases member_of_apply hcm' with rfl | ⟨cm, hcm, hchannel, -⟩
    · exact hw
    · obtain ⟨c, hc, hcid⟩ := h.reference cm hcm
      exact ⟨c, hc, hcid.trans hchannel⟩
  exact hasPlace_apply hplace

end Apply

/-! ### What a request knows -/

/-- What `open_direct` knows behind its channel: a new channel is still new, an old one is the
pair's, and the rows are of its members. -/
structure Opening.Sound (d : Tables) (o : Opening) : Prop where
  created : o.created → Fresh d o.channelId o.name ∧ Sole d o.key o.channelId
  found : ¬ o.created → HasPlace d fun q => q = place o.row
  rows : ∀ r ∈ o.rows, r.channelId = o.channelId ∧ (r.userId = o.key.1 ∨ r.userId = o.key.2) ∧
    r.membershipRole = .member
  todo : ∀ userId ∈ o.todo, userId = o.key.1 ∨ userId = o.key.2

/-- The channel is private. -/
def IsPrivate (d : Tables) (channelId : Uuid) : Prop :=
  HasPlace d fun q => q.1 = channelId ∧ q.2.2.1 = .priv

/-- What a request knows. -/
def Sound (d : Tables) : Stage → Prop
  | .insertOwner id _ name _ | .createdPrivate id _ name _ => Fresh d id name
  | .enroll o => o.Sound d
  | .inviteTarget c _ _ _ | .inviteInsert c _ _ _ => IsPrivate d c
  | .changeRole _ _ old new => old ≠ .owner ∧ new ≠ .owner
  | .acceptBan c _ _ _ | .acceptMember c _ _ _ | .acceptInsert c _ _ _ | .acceptUse c _ _ _
  | .accepted c _ _ _ _ => Live d c
  | .channelState c _ _ => HasPlace d fun q => q = place c
  | .transferMember _ actor target | .transferOwner _ actor target
  | .transferActor _ actor target => actor ≠ target
  | .transferTarget c actor target hit => actor ≠ target ∧ (hit → Member d.toDatabase c actor)
  | .transferred c actor target hit hit' => actor ≠ target ∧
      (hit → Member d.toDatabase c actor) ∧ (hit' → Member d.toDatabase c target)
  | .written (some w) =>
      match w with
      | .insertChannel row => Fresh d row.id row.name ∧ row.kind = .pub ∧ row.directKey = none
      | .undelete id key => ∀ k ∈ key, Sole d k id
      | .insertMember row => IsPrivate d row.channelId ∧ row.membershipRole = .member
      | .deleteMember _ _ _ | .deleteChannel _ _ | .setArchived _ _ | .insertLink _ => True
      | .changeRole _ _ old new => old ≠ .owner ∧ new ≠ .owner
      | .setOwner _ _ | .setRole _ _ _ | .useLink _ => False
  | _ => True

section Statements

variable {E : Env} {d : Tables} {p' : Stage}

lemma isPrivate_of_owned {name : String} {userId c : Uuid}
    (h : ownedPrivateChannel d.toDatabase name userId = .ok c) : IsPrivate d c := by
  rw [ownedPrivateChannel] at h
  split at h
  · rename_i row hrow
    have hwhere := List.find?_some hrow
    exact ⟨row, List.mem_of_find?_eq_some hrow, Except.ok.inj h, (of_decide_eq_true hwhere).2.1⟩
  · exact absurd h (by simp)

/-- What the first statement of a request finds out. -/
lemma sound_request {op : Op} (h : op.Leads E d p') : Sound d p' := by
  cases h with
  | inviteMember howned => exact isPrivate_of_owned howned
  | promote _ => exact ⟨by simp, by simp⟩
  | demote _ => exact ⟨by simp, by simp⟩
  | transfer _ _ hne => exact hne.symm
  | acceptLink _ _ hc _ hlive => exact ⟨_, hc, rfl, hlive⟩
  | channelState hc _ => exact ⟨_, hc, rfl⟩
  | _ => trivial

/-- A statement of `open_direct` for one of the pair. -/
lemma Opening.Sound.enroll {o : Opening} (h : o.Sound d) {userId : Uuid} {rest : List Uuid}
    (htodo : o.todo = userId :: rest) :
    Opening.Sound d { o with todo := rest } ∧ Opening.Sound d { o with
      todo := rest
      rows := o.rows ++ [{ channelId := o.channelId, userId := userId,
                           invitedBy := some o.actor, createdAt := o.now }] } := by
  have hrest : ∀ u ∈ rest, u = o.key.1 ∨ u = o.key.2 := fun u hu =>
    h.todo u (htodo ▸ List.mem_cons_of_mem _ hu)
  refine ⟨⟨h.created, h.found, h.rows, hrest⟩, h.created, h.found, fun r hr => ?_, hrest⟩
  rcases List.mem_append.mp hr with hr | hr
  · exact h.rows r hr
  · rw [List.mem_singleton.mp hr]
    exact ⟨rfl, h.todo userId (htodo ▸ List.mem_cons_self), rfl⟩

/-- The key of a channel that may be restored is free for it. -/
lemma sole_of_restorable {c : ChannelRow} (h : d.Restorable c)
    (hkind : c.directKey ≠ none → c.kind = .direct) : ∀ key ∈ c.directKey, Sole d key c.id := by
  intro key hkey c' hc' hdirect
  have hsome : c.directKey ≠ none := by simp [Option.mem_def.mp hkey]
  exact h (hkind hsome) hsome c' hc' ⟨hdirect.1, hdirect.2.1.trans hkey.symm, hdirect.2.2⟩

/-- What a later statement finds out, in the view of its request. -/
lemma sound_next {p : Stage} {needs : List Lock} (hp : Sound d p) (hkeys : Keys d)
    (h : p.next E ((system E).view d p) = .goto needs p') : Sound d p' := by
  cases leads_of_next h with
  | request h => exact sound_request h
  | upsertNew hfresh => exact ⟨hfresh, rfl, rfl⟩
  | upsertDeleted hc hrestorable => exact sole_of_restorable hrestorable (hkeys.keyed _ hc)
  | insertPrivate hfresh => exact hfresh
  | insertDirect hsole hfresh =>
      refine ⟨fun _ => ⟨hfresh, fun c hc hdirect => absurd hdirect (hsole c hc)⟩,
        fun hnew => absurd rfl hnew, fun r hr => absurd hr List.not_mem_nil, fun u hu => ?_⟩
      simpa [Opening.key] using hu
  | lookupDirect hc hdirect =>
      refine ⟨fun hnew => absurd hnew (by simp), fun _ => ⟨_, hc, ?_⟩,
        fun r hr => absurd hr List.not_mem_nil, fun u hu => ?_⟩
      · simp [place, Opening.row, Opening.key, hdirect.1, hdirect.2.1]
      · simpa [Opening.key] using hu
  | enrolled htodo _ => exact (Opening.Sound.enroll hp htodo).1
  | enroll htodo _ => exact (Opening.Sound.enroll hp htodo).2
  | inviteInsert _ => exact ⟨hp, rfl⟩
  | transferActor => exact ⟨hp, of_decide_eq_true⟩
  | @transferTarget c actor target hit =>
      refine ⟨hp.1, hp.2, fun hhit => ?_⟩
      have hview : Member ((system E).view d (.transferTarget c actor target hit)).toDatabase c
          target := of_decide_eq_true hhit
      cases hit with
      | false => exact hview
      | true => exact member_of_mapRole hview
  | undelete hrestorable =>
      obtain ⟨c', hc', hplace⟩ := hp
      simp only [place, Prod.mk.injEq] at hplace
      refine sole_of_restorable hrestorable fun hsome => ?_
      exact hplace.2.2.1 ▸ hkeys.keyed c' hc' (hplace.2.2.2 ▸ hsome)
  -- a check that teaches nothing, or nothing that is not known
  | insertOwner | inviteTarget | changeRole _ | transferMember _ | transferOwner | acceptBan _
  | acceptedBefore _ | acceptMember _ | acceptInsert _ | acceptUse => exact hp
  | _ => trivial

end Statements

/-! ### What others write -/

section Frame

variable {d : Tables} {p q : Stage}

lemma lock_of_write {w : Write} (hw : w ∈ p.writes) {κ : Lock} (hκ : κ ∈ w.locks) : κ ∈ p.locks :=
  List.mem_append_right _ (List.mem_flatMap.mpr ⟨w, hw, hκ⟩)

/-- The writes of a request keep a fact that is guarded by a lock of another one. -/
lemma view_of_guarded {E : Env} {F : Tables → Prop} {κ : Lock}
    (hF : ∀ d w, F d → κ ∉ w.locks → F (Write.apply d w)) (hd : F d) (hκ : κ ∉ p.locks) :
    F ((system E).view d p) :=
  List.foldlRecOn p.writes Write.apply hd fun d hd w hw =>
    hF d w hd fun hmem => hκ (lock_of_write hw hmem)

lemma view_hasPlace {E : Env} {Q : Uuid × String × ChannelKind × Option (Uuid × Uuid) → Prop}
    (h : HasPlace d Q) : HasPlace ((system E).view d p) Q :=
  List.foldlRecOn (motive := fun d => HasPlace d Q) p.writes Write.apply h
    fun _ hd _ _ => hasPlace_apply hd

lemma view_fresh {E : Env} {id : Uuid} {name : String} (h : Fresh d id name)
    (hid : Lock.channel id ∉ p.locks) (hname : Lock.name name ∉ p.locks) :
    Fresh ((system E).view d p) id name :=
  List.foldlRecOn (motive := fun d => Fresh d id name) p.writes Write.apply h fun _ hd _ hw =>
    fresh_apply hd (fun hmem => hid (lock_of_write hw hmem)) fun hmem =>
      hname (lock_of_write hw hmem)

/-- A request still knows what it knows after the commit of another one. -/
lemma sound_view {E : Env} (hq : Sound d q) (hfree : ∀ κ ∈ q.locks, κ ∉ p.locks) :
    Sound ((system E).view d p) q := by
  have hlive : ∀ {c : Uuid}, Lock.channel c ∈ q.locks → Live d c → Live ((system E).view d p) c :=
    fun {c} hmem h => view_of_guarded (F := fun d => Live d c) (fun _ _ h hκ => live_apply h hκ) h
      (hfree _ hmem)
  have hsole : ∀ {key : Uuid × Uuid} {id : Uuid}, Lock.direct key ∈ q.locks → Sole d key id →
      Sole ((system E).view d p) key id :=
    fun {key id} hmem h => view_of_guarded (F := fun d => Sole d key id)
      (fun _ _ h hκ => sole_apply h hκ) h (hfree _ hmem)
  have hmember : ∀ {c u : Uuid}, Lock.member c u ∈ q.locks → Member d.toDatabase c u →
      Member ((system E).view d p).toDatabase c u :=
    fun {c u} hmem h => view_of_guarded (F := fun d => Member d.toDatabase c u)
      (fun _ w h hκ => member_apply h fun _ heq => hκ (by simp [heq, Write.locks])) h
      (hfree _ hmem)
  have hfresh : ∀ {id : Uuid} {name : String}, Lock.channel id ∈ q.locks →
      Lock.name name ∈ q.locks → Fresh d id name → Fresh ((system E).view d p) id name :=
    fun hid hname h => view_fresh h (hfree _ hid) (hfree _ hname)
  cases q with
  | insertOwner _ _ _ _ | createdPrivate _ _ _ _ =>
      exact hfresh (by simp [Stage.locks, Stage.writes, Write.locks, privateRow])
        (by simp [Stage.locks, Stage.writes, Write.locks, privateRow]) hq
  | enroll o =>
      refine ⟨fun hnew => ⟨?_, ?_⟩, fun hold => view_hasPlace (hq.found hold), hq.rows, hq.todo⟩
      · exact hfresh (by simp [Stage.locks, Stage.writes, Write.locks, hnew, Opening.row])
          (by simp [Stage.locks, Stage.writes, Write.locks, hnew, Opening.row]) (hq.created hnew).1
      · exact hsole (by simp [Stage.locks, Stage.writes, Write.locks, hnew, Opening.row])
          (hq.created hnew).2
  | inviteTarget c _ _ _ | inviteInsert c _ _ _ =>
      exact view_hasPlace (Q := fun q => q.1 = c ∧ q.2.2.1 = .priv) hq
  | acceptBan _ _ _ _ | acceptMember _ _ _ _ | acceptInsert _ _ _ _ | acceptUse _ _ _ _
  | accepted _ _ _ _ _ => exact hlive (by simp [Stage.locks, Stage.selected]) hq
  | channelState c action now => exact view_hasPlace (Q := fun q => q = place c) hq
  | written w =>
      cases w with
      | none => trivial
      | some w =>
          cases w with
          | insertChannel row =>
              exact ⟨hfresh (by simp [Stage.locks, Stage.writes, Write.locks])
                (by simp [Stage.locks, Stage.writes, Write.locks]) hq.1, hq.2⟩
          | undelete id key =>
              intro k hk
              obtain rfl : key = some k := hk
              exact hsole (by simp [Stage.locks, Stage.writes, Write.locks]) (hq k rfl)
          | insertMember row => exact ⟨view_hasPlace hq.1, hq.2⟩
          | deleteMember _ _ _ | deleteChannel _ _ | setArchived _ _ | insertLink _ => trivial
          | changeRole _ _ _ _ | setOwner _ _ | setRole _ _ _ | useLink _ => exact hq
  | transferTarget c actor target hit =>
      refine ⟨hq.1, fun hhit => hmember ?_ (hq.2 hhit)⟩
      simp [Stage.locks, Stage.writes, Stage.roleWrite, Write.locks, hhit]
  | transferred c actor target hit hit' =>
      refine ⟨hq.1, fun hhit => hmember ?_ (hq.2.1 hhit), fun hhit => hmember ?_ (hq.2.2 hhit)⟩
      · simp [Stage.locks, Stage.writes, Stage.roleWrite, Write.locks, hhit]
      · simp [Stage.locks, Stage.writes, Stage.roleWrite, Write.locks, hhit]
  -- what does not depend on the tables
  | changeRole _ _ _ _ | transferMember _ _ _ | transferOwner _ _ _ | transferActor _ _ _ =>
      exact hq
  | request _ | upsert _ _ _ | insertPrivate _ _ _ _ | findTarget _ _ _ _ | insertDirect _ _ _ _
  | lookupDirect _ _ _ | removeRow _ _ | leaveRow _ _ | linkChannel _ _ _ _ _
  | linkAccess _ _ _ _ _ _ | insertLink _ => trivial

end Frame

/-! ### Commits -/

section Commits

variable {d : Tables} {p : Stage}

/-- Memberships of a stored channel keep the keys. -/
lemma keys_insertMembers {id : Uuid} {rows : List MemberRow} (hrows : ∀ r ∈ rows, r.channelId = id)
    (hkeys : Keys d) (hplace : HasPlace d fun q => q.1 = id) :
    Keys ((rows.map Write.insertMember).foldl Write.apply d) := by
  have hboth : Keys ((rows.map Write.insertMember).foldl Write.apply d) ∧
      HasPlace ((rows.map Write.insertMember).foldl Write.apply d) fun q => q.1 = id := by
    refine List.foldlRecOn (motive := fun d => Keys d ∧ HasPlace d fun q => q.1 = id) _ _
      ⟨hkeys, hplace⟩ fun d hd w hw => ?_
    obtain ⟨r, hr, rfl⟩ := List.mem_map.mp hw
    refine ⟨hd.1.apply ?_, hasPlace_apply hd.2⟩
    rw [Write.Legal, hrows r hr]
    exact hd.2
  exact hboth.1

/-- An update of a role that may hit no row. -/
lemma Keys.roleWrite (h : Keys d) (hit : Bool) (c u : Uuid) (role : MembershipRole) :
    Keys ((Stage.roleWrite hit c u role).foldl Write.apply d) := by
  cases hit with
  | false => exact h
  | true => exact h.apply (w := .setRole c u role) trivial

/-- The keys hold in the view of a request. -/
lemma keys_view {E : Env} (hkeys : Keys d) (hp : Sound d p) : Keys ((system E).view d p) := by
  have hprivate : ∀ {id : Uuid} {actor : AuthUser} {name : String} {now : Millis},
      Fresh d id name → Keys (Write.apply d (.insertChannel (privateRow id actor name now))) :=
    fun hfresh => hkeys.apply ⟨hfresh, fun h => absurd rfl h,
      fun k hk => absurd hk (by simp [privateRow])⟩
  cases p with
  | insertOwner id actor name now => exact hprivate hp
  | createdPrivate id actor name now =>
      refine (hprivate hp).apply (w := .insertMember (ownerRow id actor now)) ?_
      exact ⟨privateRow id actor name now, List.mem_append_right _ (List.mem_singleton_self _), rfl⟩
  | enroll o =>
      change Keys (((if o.created then [Write.insertChannel o.row] else []) ++
        o.rows.map Write.insertMember).foldl Write.apply d)
      rw [List.foldl_append]
      have hchannel := fun r hr => (hp.rows r hr).1
      split
      next hnew =>
        obtain ⟨hfresh, hsole⟩ := hp.created hnew
        refine keys_insertMembers hchannel (hkeys.apply (w := .insertChannel o.row)
          ⟨hfresh, fun _ => rfl, fun k hk => ?_⟩)
          ⟨o.row, List.mem_append_right _ (List.mem_singleton_self _), rfl⟩
        obtain rfl : o.key = k := Option.some.inj hk
        exact hsole
      next hold =>
        obtain ⟨c, hc, hplace⟩ := hp.found hold
        exact keys_insertMembers hchannel hkeys ⟨c, hc, congrArg Prod.fst hplace⟩
  | transferActor c actor target => exact hkeys.apply (w := .setOwner c target) trivial
  | transferTarget c actor target hit =>
      exact (hkeys.apply (w := .setOwner c target) trivial).roleWrite hit c actor .moderator
  | transferred c actor target hit hit' =>
      change Keys ((Write.setOwner c target :: (Stage.roleWrite hit c actor .moderator ++
        Stage.roleWrite hit' c target .owner)).foldl Write.apply d)
      rw [List.foldl_cons, List.foldl_append]
      have howner := hkeys.apply (w := .setOwner c target) trivial
      exact (howner.roleWrite hit c actor .moderator).roleWrite hit' c target .owner
  | acceptUse c tokenHash actor now =>
      obtain ⟨row, hrow, hid, -⟩ := hp
      exact hkeys.apply (w := .insertMember (linkMember c actor now)) ⟨row, hrow, hid⟩
  | accepted c tokenHash actor now joined =>
      obtain ⟨row, hrow, hid, -⟩ := hp
      cases joined with
      | false => exact hkeys
      | true =>
          exact (hkeys.apply (w := .insertMember (linkMember c actor now)) ⟨row, hrow, hid⟩).apply
            (w := .useLink tokenHash) trivial
  | written w =>
      cases w with
      | none => exact hkeys
      | some w =>
          refine hkeys.apply (w := w) ?_
          cases w with
          | insertChannel row =>
              exact ⟨hp.1, fun h => absurd hp.2.2 h, fun k hk => absurd (hp.2.2 ▸ hk) (by simp)⟩
          | undelete id key => exact hp
          | insertMember row =>
              obtain ⟨c, hc, hid, -⟩ := hp.1
              exact ⟨c, hc, hid⟩
          | _ => trivial
  | _ => exact hkeys

/-- Where a request commits. -/
lemma stage_of_commit {E : Env} (h : p.next E d = .commit) :
    (∃ id actor name now, p = .createdPrivate id actor name now) ∨
    (∃ o, p = .enroll o ∧ o.todo = []) ∨
    (∃ c actor target hit hit', p = .transferred c actor target hit hit') ∨
    (∃ c tokenHash actor now joined, p = .accepted c tokenHash actor now joined) ∨
    ∃ w, p = .written w := by
  cases final_of_next h with
  | createdPrivate => exact Or.inl ⟨_, _, _, _, rfl⟩
  | enroll htodo => exact Or.inr (Or.inl ⟨_, rfl, htodo⟩)
  | transferred => exact Or.inr (Or.inr (Or.inl ⟨_, _, _, _, _, rfl⟩))
  | accepted => exact Or.inr (Or.inr (Or.inr (Or.inl ⟨_, _, _, _, _, rfl⟩)))
  | written => exact Or.inr (Or.inr (Or.inr (Or.inr ⟨_, rfl⟩)))


/-- **Keys**: along every run, the keys hold and every request knows what it has read. -/
theorem keys_keeps (E : Env) (C : State → ReadCommitted.Act Op → Prop) :
    (system E).Keeps Keys Sound C where
  locks _ := rfl
  start _ _ _ _ := trivial
  goto _ _ _ _ hkeys hp h := sound_next hp hkeys h
  commit _ k p hgood hp _ := keys_view hgood.db (hgood.request k p hp.1)
  frame _ k p hgood hp _ j q hne hq :=
    sound_view (hgood.request j q hq) (hgood.exclusive j k q p hne hq hp.1)

end Commits

end Vussa.Members
