import Vussa.Members.Keys

/-!
The owner of a private channel, stored in the row of the channel and as the role of a member.

A transfer and a leave read the owner outside the transaction that acts on it.

* `Owned`: every live private channel has one row with role owner, the row of its owner;
* `Proper`: a leave does not delete the row of the owner, a transfer commits while the channel
  belongs to the user who transfers it, and a deleted channel comes back with its owner;
* `owned_along_iff`: **every live private channel has its owner in every state of a run iff every
  leave and every transfer commits so**.
-/

namespace Vussa.Members

open Run ReadCommitted

/-! ### Owners -/

/-- The users with the role of an owner. -/
def owners (d : Tables) (channelId : Uuid) : List Uuid :=
  (d.channelMembers.filter fun cm =>
    cm.channelId = channelId ∧ cm.membershipRole = .owner).map MemberRow.userId

/-- A live private channel has one row with role owner, the row of its `owner_user_id`. -/
def Owned (d : Tables) : Prop :=
  ∀ c ∈ d.channels, c.kind = .priv → c.deletedAt = none →
    ∃ u ∈ c.ownerUserId, owners d c.id = [u]

instance (d : Tables) : Decidable (Owned d) :=
  decidable_of_iff (∀ c ∈ d.channels, c.kind = .priv → c.deletedAt = none →
    (c.ownerUserId.any fun u => decide (owners d c.id = [u])) = true)
    (by simp [Owned, Option.any_eq_true])

/-- The user has the role of an owner. -/
def IsOwner (d : Tables) (channelId userId : Uuid) : Prop :=
  d.HasRow channelId userId fun cm => cm.membershipRole = .owner

/-- A live private channel of this identifier, and what is asked of its owner. -/
def OwnerOf (d : Tables) (channelId : Uuid) (p : Option Uuid → Prop) : Prop :=
  ∀ c ∈ d.channels, c.id = channelId → c.kind = .priv → c.deletedAt = none → p c.ownerUserId

/-- A commit that keeps the owner: a leave is not the owner's; a transfer has found both rows, and
the channel still belongs to the user who transfers it, or already to the other one; a channel that
comes back has an owner. -/
def Stage.Proper (d : Tables) : Stage → Prop
  | .written (some (.undelete id key)) => ∀ c ∈ d.channels, c.id = id → c.directKey = key →
      c.kind = .priv → ∃ u ∈ c.ownerUserId, owners d c.id = [u]
  | .written (some (.deleteMember channelId userId false)) =>
      OwnerOf d channelId fun owner => owner ≠ some userId
  | .transferred channelId actor target hit hit' =>
      OwnerOf d channelId fun owner =>
        owner = some target ∨ (owner = some actor ∧ hit ∧ hit')
  | _ => True

/-- Every commit is of this kind. -/
def Proper (E : Env) (s : State) : ReadCommitted.Act Op → Prop
  | .run k => ∀ p, (system E).Commits s k p → p.Proper s.db
  | _ => True

section Owners

variable {d : Tables}

lemma mem_owners {channelId userId : Uuid} :
    userId ∈ owners d channelId ↔ IsOwner d channelId userId := by
  rw [owners, List.mem_map]
  refine ⟨?_, ?_⟩
  · rintro ⟨cm, hcm, rfl⟩
    obtain ⟨hmem, hwhere⟩ := List.mem_filter.mp hcm
    obtain ⟨hchannel, hrole⟩ := of_decide_eq_true hwhere
    exact ⟨cm, hmem, hchannel, rfl, hrole⟩
  · rintro ⟨cm, hmem, hchannel, huser, hrole⟩
    exact ⟨cm, List.mem_filter.mpr ⟨hmem, decide_eq_true ⟨hchannel, hrole⟩⟩, huser⟩

/-- A user has one row in a channel. -/
lemma Keys.owners_nodup (h : Keys d) (channelId : Uuid) : (owners d channelId).Nodup := by
  refine List.pairwise_map.mpr ?_
  refine ((List.pairwise_map.mp h.memberKey).sublist List.filter_sublist).imp_of_mem ?_
  intro a b ha hb hne heq
  have hac := (of_decide_eq_true (List.mem_filter.mp ha).2).1
  have hbc := (of_decide_eq_true (List.mem_filter.mp hb).2).1
  exact hne (by rw [hac, hbc, heq])

lemma Keys.owners_eq_iff (h : Keys d) {channelId u : Uuid} :
    owners d channelId = [u] ↔ ∀ v, IsOwner d channelId v ↔ v = u := by
  refine ⟨fun heq v => ?_, fun hall => ?_⟩
  · rw [← mem_owners, heq, List.mem_singleton]
  · refine List.perm_singleton.mp ((List.perm_ext_iff_of_nodup (h.owners_nodup channelId)
      (List.nodup_singleton u)).mpr fun v => ?_)
    rw [mem_owners, hall, List.mem_singleton]

lemma Keys.owned_iff (h : Keys d) : Owned d ↔ ∀ c ∈ d.channels, c.kind = .priv →
    c.deletedAt = none → ∃ u ∈ c.ownerUserId, ∀ v, IsOwner d c.id v ↔ v = u :=
  forall₄_congr fun _ _ _ _ => exists_congr fun _ => and_congr_right fun _ => h.owners_eq_iff

end Owners

/-! ### What the writes do to the owners -/

section Writes

variable {d : Tables} {id v : Uuid}

lemma isOwner_insertMember {row : MemberRow} :
    IsOwner (Write.apply d (.insertMember row)) id v ↔ IsOwner d id v ∨
      (row.membershipRole = .owner ∧ row.channelId = id ∧ row.userId = v ∧
        ¬ Member d.toDatabase row.channelId row.userId) := by
  change (∃ cm ∈ (d.addMember row).channelMembers, _) ↔ _
  rw [Database.addMember]
  split
  next hex => exact (or_iff_left fun h => h.2.2.2 hex).symm
  next hnew =>
    refine ⟨?_, ?_⟩
    · rintro ⟨cm, hcm, hchannel, huser, hrole⟩
      rcases List.mem_append.mp hcm with hold | hrow
      · exact Or.inl ⟨cm, hold, hchannel, huser, hrole⟩
      · obtain rfl := List.mem_singleton.mp hrow
        exact Or.inr ⟨hrole, hchannel, huser, hnew⟩
    · rintro (⟨cm, hold, hwhere⟩ | ⟨hrole, hchannel, huser, -⟩)
      · exact ⟨cm, List.mem_append_left _ hold, hwhere⟩
      · exact ⟨row, List.mem_append_right _ (List.mem_singleton_self _), hchannel, huser, hrole⟩

lemma isOwner_deleteMember {c u : Uuid} {keepOwner : Bool} :
    IsOwner (Write.apply d (.deleteMember c u keepOwner)) id v ↔
      IsOwner d id v ∧ (id = c → v = u → keepOwner) := by
  refine ⟨?_, ?_⟩
  · rintro ⟨cm, hcm, rfl, rfl, hrole⟩
    obtain ⟨hmem, hkept⟩ := List.mem_filter.mp hcm
    refine ⟨⟨cm, hmem, rfl, rfl, hrole⟩, fun hc hu => ?_⟩
    have hkept := of_decide_eq_true hkept
    by_contra hkeep
    exact hkept ⟨hc, hu, decide_eq_true fun h => hkeep h.1⟩
  · rintro ⟨⟨cm, hmem, rfl, rfl, hrole⟩, hkeep⟩
    refine ⟨cm, List.mem_filter.mpr ⟨hmem, decide_eq_true ?_⟩, rfl, rfl, hrole⟩
    rintro ⟨hc, hu, hdeleted⟩
    exact of_decide_eq_true hdeleted ⟨hkeep hc hu, hrole⟩

lemma isOwner_mapRole {sel : MemberRow → Prop} [DecidablePred sel] {role : MembershipRole} :
    IsOwner (Write.mapRole d sel role) id v ↔ d.HasRow id v fun cm =>
      (sel cm ∧ role = .owner) ∨ (¬ sel cm ∧ cm.membershipRole = .owner) := by
  refine ⟨?_, ?_⟩
  · rintro ⟨cm', hcm', hwhere⟩
    obtain ⟨cm, hcm, rfl⟩ := List.mem_map.mp hcm'
    split at hwhere
    next hsel => exact ⟨cm, hcm, hwhere.1, hwhere.2.1, Or.inl ⟨hsel, hwhere.2.2⟩⟩
    next hsel => exact ⟨cm, hcm, hwhere.1, hwhere.2.1, Or.inr ⟨hsel, hwhere.2.2⟩⟩
  · rintro ⟨cm, hcm, hchannel, huser, hrole⟩
    refine ⟨_, List.mem_map_of_mem hcm, ?_⟩
    rcases hrole with ⟨hsel, hrole⟩ | ⟨hsel, hrole⟩
    · rw [if_pos hsel]
      exact ⟨hchannel, huser, hrole⟩
    · rw [if_neg hsel]
      exact ⟨hchannel, huser, hrole⟩

lemma isOwner_changeRole {c u : Uuid} {old new : MembershipRole} (hold : old ≠ .owner)
    (hnew : new ≠ .owner) :
    IsOwner (Write.apply d (.changeRole c u old new)) id v ↔ IsOwner d id v := by
  change IsOwner (Write.mapRole d _ new) id v ↔ _
  rw [isOwner_mapRole]
  refine exists_congr fun cm => and_congr_right fun _ => and_congr_right fun _ =>
    and_congr_right fun _ => ?_
  refine ⟨?_, fun hrole => Or.inr ⟨fun hsel => hold (hsel.2.2 ▸ hrole), hrole⟩⟩
  rintro (⟨-, hrole⟩ | ⟨-, hrole⟩)
  · exact absurd hrole hnew
  · exact hrole

lemma isOwner_setRole {c u : Uuid} {role : MembershipRole} :
    IsOwner (Write.apply d (.setRole c u role)) id v ↔
      if id = c ∧ v = u then role = .owner ∧ Member d.toDatabase c u else IsOwner d id v := by
  change IsOwner (Write.mapRole d _ role) id v ↔ _
  rw [isOwner_mapRole]
  split
  next hrow =>
    obtain ⟨rfl, rfl⟩ := hrow
    refine ⟨?_, ?_⟩
    · rintro ⟨cm, hcm, hchannel, huser, hrole⟩
      rcases hrole with ⟨-, hrole⟩ | ⟨hsel, -⟩
      · exact ⟨hrole, cm, hcm, hchannel, huser⟩
      · exact absurd ⟨hchannel, huser⟩ hsel
    · rintro ⟨hrole, cm, hcm, hchannel, huser⟩
      exact ⟨cm, hcm, hchannel, huser, Or.inl ⟨⟨hchannel, huser⟩, hrole⟩⟩
  next hrow =>
    refine exists_congr fun cm => and_congr_right fun _ => and_congr_right fun hchannel =>
      and_congr_right fun huser => ?_
    have hsel : ¬ (cm.channelId = c ∧ cm.userId = u) := hchannel ▸ huser ▸ hrow
    exact ⟨fun h => (h.resolve_left fun h => hsel h.1).2, fun h => Or.inr ⟨hsel, h⟩⟩

lemma channels_insertMember (d : Tables) (row : MemberRow) :
    (Write.apply d (.insertMember row)).channels = d.channels := by
  change (d.addMember row).channels = d.channels
  rw [Database.addMember]
  split <;> rfl

/-- A live channel after a write was inserted by it, or was there before. -/
lemma channel_of_apply {w : Write} {c' : ChannelRow} (h : c' ∈ (w.apply d).channels) :
    w = .insertChannel c' ∨ ∃ c ∈ d.channels, c.id = c'.id ∧ c.kind = c'.kind ∧
      (c'.deletedAt = none → c.deletedAt = none ∨ w = .undelete c.id c.directKey) ∧
      c'.ownerUserId = w.ownerOf c := by
  obtain ⟨row, rfl, hrows⟩ | ⟨f, hf, hrows⟩ := apply_channels d w
  · rcases List.mem_append.mp (hrows ▸ h) with hold | hnew
    · exact Or.inr ⟨c', hold, rfl, rfl, Or.inl, rfl⟩
    · exact Or.inl (by rw [List.mem_singleton.mp hnew])
  · obtain ⟨c, hc, rfl⟩ := List.mem_map.mp (hrows ▸ h)
    exact Or.inr ⟨c, hc, (hf.id c).symm, (hf.kind c).symm, hf.live c, hf.owner c⟩

end Writes

/-! ### Writes that keep the owners -/

/-- The live private channels have the owners they had. -/
structure SameOwners (d d' : Tables) : Prop where
  channels : ∀ c' ∈ d'.channels, c'.kind = .priv → c'.deletedAt = none → ∃ c ∈ d.channels,
    c.id = c'.id ∧ c.kind = .priv ∧ c.deletedAt = none ∧ c.ownerUserId = c'.ownerUserId
  owners : ∀ id v, IsOwner d' id v ↔ IsOwner d id v

/-- A write that changes no owner. -/
def Write.Plain : Write → Prop
  | insertChannel row => row.kind ≠ .priv
  | insertMember row => row.membershipRole ≠ .owner
  | deleteMember _ _ keepOwner => keepOwner
  | changeRole _ _ old new => old ≠ .owner ∧ new ≠ .owner
  | deleteChannel _ _ | setArchived _ _ | insertLink _ | useLink _ => True
  | undelete _ _ | setOwner _ _ | setRole _ _ _ => False

section Same

variable {d d' d'' : Tables}

lemma SameOwners.refl (d : Tables) : SameOwners d d :=
  ⟨fun c hc hkind hlive => ⟨c, hc, rfl, hkind, hlive, rfl⟩, fun _ _ => Iff.rfl⟩

lemma SameOwners.trans (h : SameOwners d d') (h' : SameOwners d' d'') : SameOwners d d'' := by
  refine ⟨fun c'' hc'' hkind hlive => ?_, fun id v => (h'.owners id v).trans (h.owners id v)⟩
  obtain ⟨c', hc', hid', hkind', hlive', howner'⟩ := h'.channels c'' hc'' hkind hlive
  obtain ⟨c, hc, hid, hkind, hlive, howner⟩ := h.channels c' hc' hkind' hlive'
  exact ⟨c, hc, hid.trans hid', hkind, hlive, howner.trans howner'⟩

lemma SameOwners.owned (h : SameOwners d d') (hkeys : Keys d) (hkeys' : Keys d')
    (howned : Owned d) : Owned d' := by
  rw [hkeys'.owned_iff]
  intro c' hc' hkind hlive
  obtain ⟨c, hc, hid, hkind, hlive, howner⟩ := h.channels c' hc' hkind hlive
  obtain ⟨u, hu, hall⟩ := hkeys.owned_iff.mp howned c hc hkind hlive
  exact ⟨u, howner ▸ hu, fun v => (h.owners c'.id v).trans (hid ▸ hall v)⟩

lemma Write.Plain.same {w : Write} (h : w.Plain) : SameOwners d (w.apply d) := by
  refine ⟨fun c' hc' hkind hlive => ?_, fun id v => ?_⟩
  · rcases channel_of_apply hc' with rfl | ⟨c, hc, hid, hk, hback, howner⟩
    · exact absurd hkind h
    · rcases hback hlive with hlive | rfl
      · refine ⟨c, hc, hid, hk.trans hkind, hlive, ?_⟩
        rw [howner]
        cases w with
        | setOwner _ _ => exact h.elim
        | _ => rfl
      · exact h.elim
  · cases w with
    | insertMember row =>
        rw [isOwner_insertMember]
        exact or_iff_left fun hrow => h hrow.1
    | deleteMember c u keepOwner =>
        rw [isOwner_deleteMember]
        exact and_iff_left fun _ _ => h
    | changeRole c u old new => exact isOwner_changeRole h.1 h.2
    | setRole _ _ _ => exact h.elim
    | _ => exact Iff.rfl

lemma sameOwners_foldl {ws : List Write} (h : ∀ w ∈ ws, w.Plain) :
    SameOwners d (ws.foldl Write.apply d) :=
  List.foldlRecOn (motive := SameOwners d) ws Write.apply (SameOwners.refl d)
    fun _ hd w hw => hd.trans (h w hw).same

end Same

/-! ### Commits -/

section Commits

variable {E : Env} {d : Tables} {p : Stage}

/-- The new private channel is its creator's. -/
lemma owned_createdPrivate {id : Uuid} {actor : AuthUser} {name : String} {now : Millis}
    (hkeys : Keys d) (hfresh : Fresh d id name) (howned : Owned d) :
    Owned ((system E).view d (.createdPrivate id actor name now)) := by
  have hnone : ∀ v, ¬ Member d.toDatabase id v := by
    rintro v ⟨cm, hcm, hchannel, -⟩
    obtain ⟨c, hc, hid⟩ := hkeys.reference cm hcm
    exact (hfresh c hc).1 (hid.trans hchannel)
  have howner : ∀ x v, IsOwner ((system E).view d (.createdPrivate id actor name now)) x v ↔
      IsOwner d x v ∨ (x = id ∧ v = actor.id) := by
    intro x v
    refine isOwner_insertMember.trans (or_congr_right ?_)
    refine ⟨fun h => ⟨h.2.1.symm, h.2.2.1.symm⟩, fun h => ⟨rfl, h.1.symm, h.2.symm, hnone _⟩⟩
  rw [(keys_view hkeys (p := .createdPrivate id actor name now) hfresh).owned_iff]
  intro c hc hkind hlive
  have hrows : ((system E).view d (.createdPrivate id actor name now)).channels =
      d.channels ++ [privateRow id actor name now] :=
    channels_insertMember (Write.apply d (.insertChannel _)) (ownerRow id actor now)
  rcases List.mem_append.mp (hrows ▸ hc) with hold | hnew
  · obtain ⟨u, hu, hall⟩ := hkeys.owned_iff.mp howned c hold hkind hlive
    refine ⟨u, hu, fun v => ?_⟩
    rw [howner, hall]
    exact or_iff_left fun h => (hfresh c hold).1 h.1
  · obtain rfl := List.mem_singleton.mp hnew
    refine ⟨actor.id, rfl, fun v => ?_⟩
    rw [howner]
    refine ⟨?_, fun h => Or.inr ⟨rfl, h⟩⟩
    rintro (⟨cm, hcm, hchannel, huser, -⟩ | h)
    · exact absurd ⟨cm, hcm, hchannel, huser⟩ (hnone v)
    · exact h.2

/-- A leave keeps the owners iff the one who leaves is no owner. -/
lemma owned_leave_iff {c u : Uuid} (hkeys : Keys d) (howned : Owned d) :
    Owned ((system E).view d (.written (some (.deleteMember c u false)))) ↔
      OwnerOf d c fun owner => owner ≠ some u := by
  have hkeys' := keys_view (E := E) (p := .written (some (.deleteMember c u false))) hkeys trivial
  have howner : ∀ x v, IsOwner ((system E).view d (.written (some (.deleteMember c u false)))) x v ↔
      IsOwner d x v ∧ (x = c → v ≠ u) := fun x v =>
    isOwner_deleteMember.trans (and_congr_right fun _ => by simp)
  rw [hkeys'.owned_iff]
  refine ⟨fun h row hrow hid hkind hlive heq => ?_, fun h row hrow hkind hlive => ?_⟩
  · obtain ⟨u', hu', hall⟩ := h row hrow hkind hlive
    obtain rfl : u = u' := Option.some.inj (heq.symm.trans hu')
    exact ((howner row.id u).mp ((hall u).mpr rfl)).2 hid rfl
  · obtain ⟨o, ho, hall⟩ := hkeys.owned_iff.mp howned row hrow hkind hlive
    refine ⟨o, ho, fun v => ?_⟩
    rw [howner, hall]
    refine and_iff_left_of_imp fun hv hid hvu => h row hrow hid hkind hlive ?_
    rw [← hvu, hv]
    exact ho

/-- The owners after a transfer. -/
lemma isOwner_transferred (E : Env) {c target : Uuid} (actor : Uuid) (hit : Bool) {hit' : Bool}
    (htarget : hit' → Member d.toDatabase c target) (x v : Uuid) :
    IsOwner ((system E).view d (.transferred c actor target hit hit')) x v ↔
      (x = c ∧ v = target ∧ hit') ∨
        (¬ (x = c ∧ v = actor ∧ hit) ∧ ¬ (x = c ∧ v = target ∧ hit') ∧ IsOwner d x v) := by
  have hset : ∀ (d : Tables) (hit : Bool) (u : Uuid) (role : MembershipRole) (x v : Uuid),
      IsOwner ((Stage.roleWrite hit c u role).foldl Write.apply d) x v ↔
        if x = c ∧ v = u ∧ hit then role = .owner ∧ Member d.toDatabase c u else IsOwner d x v := by
    intro d hit u role x v
    cases hit with
    | false => simp [Stage.roleWrite]
    | true => simpa [Stage.roleWrite] using isOwner_setRole
  change IsOwner ((Write.setOwner c target :: (Stage.roleWrite hit c actor .moderator ++
    Stage.roleWrite hit' c target .owner)).foldl Write.apply d) x v ↔ _
  rw [List.foldl_cons, List.foldl_append, hset]
  split
  next h =>
    have hmember : Member ((Stage.roleWrite hit c actor .moderator).foldl Write.apply
        (Write.apply d (.setOwner c target))).toDatabase c target := by
      cases hit with
      | false => exact htarget h.2.2
      | true => exact member_apply (w := .setRole c actor .moderator) (htarget h.2.2) (by simp)
    exact ⟨fun _ => Or.inl h, fun _ => ⟨rfl, hmember⟩⟩
  next h =>
    rw [hset]
    split
    next h' =>
      refine ⟨fun hd => absurd hd.1 (by simp), fun hd => ?_⟩
      exact absurd h' (hd.resolve_left h).1
    next h' =>
      refine ⟨fun hd => Or.inr ⟨h', h, hd⟩, fun hd => ?_⟩
      exact (hd.resolve_left h).2.2

/-- A transfer keeps the owners iff the channel still belongs to one of the two. -/
lemma owned_transferred_iff {c actor target : Uuid} {hit hit' : Bool} (hkeys : Keys d)
    (hsound : Sound d (.transferred c actor target hit hit')) (howned : Owned d) :
    Owned ((system E).view d (.transferred c actor target hit hit')) ↔
      OwnerOf d c fun owner => owner = some target ∨ (owner = some actor ∧ hit ∧ hit') := by
  have hkeys' := keys_view (E := E) hkeys hsound
  have howner := isOwner_transferred E actor hit hsound.2.2
  have hchannels : ((system E).view d (.transferred c actor target hit hit')).channels =
      (d.updateChannel c fun row => { row with ownerUserId := some target }).channels := by
    cases hit with
    | false =>
        cases hit' with
        | false => rfl
        | true => rfl
    | true =>
        cases hit' with
        | false => rfl
        | true => rfl
  rw [hkeys'.owned_iff, hchannels]
  refine ⟨fun h row hrow hid hkind hlive => ?_, fun h row' hrow' hkind hlive => ?_⟩
  · obtain ⟨o, ho, hall⟩ := hkeys.owned_iff.mp howned row hrow hkind hlive
    have hrow' := h _ (List.mem_map_of_mem hrow)
    rw [if_pos hid] at hrow'
    obtain ⟨t, ht, hall'⟩ := hrow' hkind hlive
    obtain rfl : target = t := Option.some.inj ht
    simp only [hid, howner, true_and] at hall hall'
    rw [Option.mem_def.mp ho, Option.some.injEq, Option.some.injEq]
    by_cases hot : o = target
    · exact Or.inl hot
    · -- the new owner has the role, and the old one has lost it
      have hgains := (hall' target).mpr rfl
      have hloses := fun hrole => hot ((hall' o).mp hrole)
      have hhit' : hit' := by
        rcases hgains with hgains | hgains
        · exact hgains.2
        · exact absurd ((hall target).mp hgains.2.2).symm hot
      have hactor : o = actor ∧ hit := by
        by_contra hkept
        exact hloses (Or.inr ⟨hkept, fun heq => hot heq.1, (hall o).mpr rfl⟩)
      exact Or.inr ⟨hactor.1, hactor.2, hhit'⟩
  · obtain ⟨row, hrow, rfl⟩ := List.mem_map.mp hrow'
    split at hkind
    next hid =>
      rw [if_pos hid] at hlive ⊢
      obtain ⟨o, ho, hall⟩ := hkeys.owned_iff.mp howned row hrow hkind hlive
      have howner' := h row hrow hid hkind hlive
      rw [Option.mem_def.mp ho, Option.some.injEq, Option.some.injEq] at howner'
      refine ⟨target, rfl, fun v => ?_⟩
      simp only [hid] at hall ⊢
      simp only [howner, true_and, hall]
      rcases howner' with rfl | ⟨rfl, hh, hh'⟩
      · refine ⟨fun hv => hv.elim (fun hv => hv.1) fun hv => hv.2.2, fun hv => ?_⟩
        by_cases hh' : hit' = true
        · exact Or.inl ⟨hv, hh'⟩
        · exact Or.inr ⟨fun hva => hsound.1 (hva.1.symm.trans hv), fun hvt => hh' hvt.2, hv⟩
      · refine ⟨fun hv => hv.elim (fun hv => hv.1) fun hv => ?_, fun hv => Or.inl ⟨hv, hh'⟩⟩
        exact absurd ⟨hv.2.2, hh⟩ hv.1
    next hid =>
      rw [if_neg hid] at hlive ⊢
      obtain ⟨o, ho, hall⟩ := hkeys.owned_iff.mp howned row hrow hkind hlive
      refine ⟨o, ho, fun v => ?_⟩
      simp only [howner, hid, false_and, false_or, not_false_eq_true, true_and]
      exact hall v

/-- A channel that comes back keeps the owners iff it has one. -/
lemma owned_undelete_iff {id : Uuid} {key : Option (Uuid × Uuid)} (howned : Owned d) :
    Owned ((system E).view d (.written (some (.undelete id key)))) ↔
      ∀ c ∈ d.channels, c.id = id → c.directKey = key → c.kind = .priv →
        ∃ u ∈ c.ownerUserId, owners d c.id = [u] := by
  refine ⟨fun h c hc hid hkey hkind => ?_, fun h c' hc' hkind hlive => ?_⟩
  · have hback := h _ (List.mem_map_of_mem hc)
    rw [if_pos hid] at hback
    simp only [hkey, if_true] at hback
    exact hback hkind trivial
  · obtain ⟨c, hc, rfl⟩ := List.mem_map.mp hc'
    by_cases hid : c.id = id
    · by_cases hkey : c.directKey = key
      · simp only [hid, hkey, if_true] at hkind ⊢
        exact hid ▸ h c hc hid hkey hkind
      · simp only [hid, hkey, if_true, if_false] at hkind hlive ⊢
        exact hid ▸ howned c hc hkind hlive
    · simp only [hid, if_false] at hkind hlive ⊢
      exact howned c hc hkind hlive

/-- A commit keeps the owners iff it is proper. -/
lemma owned_commit_iff (hkeys : Keys d) (hsound : Sound d p) (howned : Owned d)
    (hcommit : p.next E ((system E).view d p) = .commit) :
    Owned ((system E).view d p) ↔ p.Proper d := by
  have hplain : (∀ w ∈ p.writes, w.Plain) → Owned ((system E).view d p) := fun h =>
    (sameOwners_foldl h).owned hkeys (keys_view (E := E) hkeys hsound) howned
  obtain ⟨id, actor, name, now, rfl⟩ | ⟨o, rfl, -⟩ | ⟨c, actor, target, hit, hit', rfl⟩ |
    ⟨c, tokenHash, actor, now, joined, rfl⟩ | ⟨w, rfl⟩ := stage_of_commit hcommit
  · exact iff_of_true (owned_createdPrivate hkeys hsound howned) trivial
  · refine iff_of_true (hplain fun w hw => ?_) trivial
    rcases List.mem_append.mp hw with hw | hw
    · split at hw
      · rw [List.mem_singleton.mp hw]
        simp [Write.Plain, Opening.row]
      · exact absurd hw List.not_mem_nil
    · obtain ⟨r, hr, rfl⟩ := List.mem_map.mp hw
      simp [Write.Plain, (hsound.rows r hr).2.2]
  · exact owned_transferred_iff hkeys hsound howned
  · refine iff_of_true (hplain fun w hw => ?_) trivial
    cases joined with
    | false => exact absurd hw List.not_mem_nil
    | true =>
        rcases List.mem_cons.mp hw with rfl | hw
        · simp [Write.Plain, linkMember]
        · rw [List.mem_singleton.mp hw]
          trivial
  · cases w with
    | none => exact iff_of_true howned trivial
    | some w =>
        cases w with
        | deleteMember c u keepOwner =>
            cases keepOwner with
            | false => exact owned_leave_iff hkeys howned
            | true => exact iff_of_true (hplain (by simp [Stage.writes, Write.Plain])) trivial
        | undelete id key => exact owned_undelete_iff howned
        | setOwner _ _ => exact hsound.elim
        | setRole _ _ _ => exact hsound.elim
        | useLink _ => exact hsound.elim
        | insertChannel row =>
            exact iff_of_true (hplain (by simp [Stage.writes, Write.Plain, hsound.2.1])) trivial
        | insertMember row =>
            exact iff_of_true (hplain (by simp [Stage.writes, Write.Plain, hsound.2])) trivial
        | changeRole c u old new =>
            exact iff_of_true (hplain (by simp [Stage.writes, Write.Plain, hsound.1, hsound.2]))
              trivial
        | deleteChannel _ _ | setArchived _ _ | insertLink _ =>
            exact iff_of_true (hplain (by simp [Stage.writes, Write.Plain])) trivial

end Commits

/-! ### Runs -/

/-- **Ownership**: along every run of the requests, from tables that have their keys and owners,
every live private channel has exactly one row with role owner, that of its `owner_user_id`, in
every state iff every commit is proper. -/
theorem owned_along_iff (E : Env) {s : State} (hs : s.requests = []) (hkeys : Keys s.db)
    (howned : Owned s.db) (as : List (ReadCommitted.Act Op)) :
    Along (system E).step (fun s a => Owned ((system E).step s a).db) s as ↔
      Along (system E).step (Proper E) s as := by
  have hiff : ∀ s a, ((system E).Good Keys Sound s ∧ Owned s.db) →
      (Owned ((system E).step s a).db ↔ Proper E s a) := by
    rintro s a ⟨hgood, howned⟩
    cases a with
    | begin op => exact iff_of_true howned trivial
    | abort k => exact iff_of_true howned trivial
    | run k =>
        by_cases hk : ∃ p, (system E).Commits s k p
        · obtain ⟨p, hp⟩ := hk
          rw [System.step_commit hp, owned_commit_iff hgood.db (hgood.request k p hp.1) howned hp.2]
          refine ⟨fun h q hq => ?_, fun h => h p hp⟩
          obtain rfl : p = q := Option.some.inj (hp.1.symm.trans hq.1)
          exact h
        · refine iff_of_true ?_ fun p hp => absurd ⟨p, hp⟩ hk
          rcases System.step_db (S := system E) s (.run k) with hdb | ⟨j, p, hj, hp, -⟩
          · rw [hdb]
            exact howned
          · obtain rfl : k = j := Act.run.inj hj
            exact absurd ⟨p, hp⟩ hk
  refine along_congr_of (I := fun s => (system E).Good Keys Sound s ∧ Owned s.db) ?_ hiff
    ⟨System.good_of_requests_eq_nil hkeys hs, howned⟩ as
  rintro s a ⟨hgood, howned⟩ hproper
  exact ⟨(keys_keeps E fun _ _ => True).step hgood trivial, (hiff s a ⟨hgood, howned⟩).mpr hproper⟩

/-- A private channel of user 1 with two members. -/
def club : Tables where
  channels := [{ id := 7, name := "club", kind := .priv, ownerUserId := some 1, createdAt := 1 }]
  channelMembers :=
    [{ channelId := 7, userId := 1, membershipRole := .owner, createdAt := 1 },
     { channelId := 7, userId := 2, createdAt := 2 },
     { channelId := 7, userId := 3, createdAt := 3 }]

lemma club_keys : Keys club := by
  refine ⟨by decide, by decide, fun key c hc hdirect => ?_, by decide, by decide⟩
  obtain rfl := List.mem_singleton.mp hc
  exact absurd hdirect.1 (by decide)

/-- User 1 gives the channel away. -/
def giveTo (userId : Uuid) : ReadCommitted.Act Op :=
  .begin (.transfer
    { id := 1, email := "a@x", username := "ada", roles := [], permissions := [.chatWrite] }
    "club" userId)

/-- A transfer that runs alone is proper. -/
theorem proper_transfer :
    Along (system asciiEnv).step (Proper asciiEnv) { db := club }
      (giveTo 2 :: List.replicate 6 (.run 0)) :=
  (owned_along_iff asciiEnv rfl club_keys (by decide +kernel) _).mp (by decide +kernel)

/-- Two transfers that have both read the owner leave two owners. -/
theorem transfers_race :
    Keys club ∧ Owned club ∧ ¬ Owned (final (system asciiEnv).step { db := club }
      ([giveTo 2, giveTo 3, .run 0, .run 0, .run 1, .run 1] ++
        List.replicate 4 (.run 0) ++ List.replicate 4 (.run 1))).db :=
  ⟨club_keys, by decide +kernel, by decide +kernel⟩

end Vussa.Members
