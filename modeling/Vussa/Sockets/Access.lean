import Vussa.Model.Writes

/-!
Who may read a channel after a write. Most writes only widen the access to channels; the others
take one channel away from one user, or from all.

* `Request.Revokes`, `ClientEvent.Revokes`: the channel and the user a request or an event takes
  effect against;
* `AccessKept`: every access outside a set of pairs is still there;
* `accessKept_request`, `accessKept_event`: **a write takes away** no access but what it revokes.
-/

namespace Vussa

open Effect

/-! ### Revocations -/

/-- The request takes the channel named `n` away from the user `u`: the removal of a member, a
leave, the rename or the deletion of the channel, or a ban, if its checks let it through. -/
def Request.Revokes (U : Unicode) (fresh : Fresh) (user : AuthUser) (s : Shared) (n : String)
    (u : Uuid) : Request → Prop
  | .removeMember channel target => n = channel ∧ u = target ∧
      Permission.chatWrite ∈ user.permissions ∧
      ∃ id, ownedPrivateChannel s.db channel user.id = .ok id ∧
        (deleteMember id user target s.db s.now).isOk
  | .leaveChannel channel => n = channel ∧ u = user.id ∧
      Permission.chatWrite ∈ user.permissions ∧ (deleteOwnMembership user channel s.db).isOk
  | .adminUpdateChannel id request => Permission.channelsWrite ∈ user.permissions ∧
      (updateChannelRow U user id request s.db s.now).isOk ∧
      ∃ c ∈ s.db.channels, c.id = id ∧ c.name = n ∧ request.rename U c ≠ .ok n
  | .adminChannelState id .delete => Permission.channelsWrite ∈ user.permissions ∧
      (setChannelState user id .delete s.db s.now).isOk ∧
      ∃ c ∈ s.db.channels, c.id = id ∧ c.name = n
  | .adminCreateBan request => u = request.userId ∧ (∀ channel ∈ request.channel, channel = n) ∧
      Permission.moderationWrite ∈ user.permissions ∧
      (insertBan fresh.message user request s.db s.now).isOk
  | _ => False

/-- The client event takes the channel named `n` away from the user `u`. -/
def ClientEvent.Revokes (U : Unicode) (fresh : Fresh) (user : AuthUser) (s : Shared) (n : String)
    (u : Uuid) : ClientEvent → Prop
  | .deleteChannel raw => Permission.chatModerate ∈ user.permissions ∧
      normalizeChannelName U raw = .ok n ∧ n ≠ mainChannel ∧
      (Vussa.deleteChannel user n s.db s.now).isOk
  | event => ∃ request, event.request? = some request ∧ request.Revokes U fresh user s n u

lemma ownedPrivateChannel_ok {db : Database} {name : String} {user id : Uuid}
    (h : ownedPrivateChannel db name user = .ok id) :
    ∃ c ∈ db.channels, c.name = name ∧ c.id = id := by
  rw [ownedPrivateChannel] at h
  split at h
  · rename_i c hfind
    rw [Except.ok.injEq] at h
    have hp := List.find?_some hfind
    simp only [decide_eq_true_eq] at hp
    exact ⟨c, List.mem_of_find?_eq_some hfind, hp.1, h⟩
  · exact absurd h (by simp)

/-! ### Access that is kept -/

/-- The keys hold, and whoever could read a channel in `s` still can, outside of `A`. -/
structure AccessKept (s : Shared) (A : String → Uuid → Prop) (s' : Shared) : Prop where
  wellFormed : s'.db.WellFormed
  access : ∀ n u, ¬ A n u → ChannelAccess s.db s.now n u → ChannelAccess s'.db s'.now n u

lemma AccessKept.refl {s : Shared} (hwf : s.db.WellFormed) (A : String → Uuid → Prop) :
    AccessKept s A s :=
  ⟨hwf, fun _ _ _ h => h⟩

lemma AccessKept.trans {s s1 s2 : Shared} {A : String → Uuid → Prop} (h : AccessKept s A s1)
    (h' : AccessKept s1 A s2) : AccessKept s A s2 :=
  ⟨h'.wellFormed, fun n u hA hacc => h'.access n u hA (h.access n u hA hacc)⟩

lemma AccessKept.weaken {s s' : Shared} {A B : String → Uuid → Prop} (h : AccessKept s A s')
    (hAB : ∀ n u, ¬ B n u → ¬ A n u) : AccessKept s B s' :=
  ⟨h.wellFormed, fun n u hB hacc => h.access n u (hAB n u hB) hacc⟩

/-- A ban that is active later was active before. -/
lemma BanRow.Active.of_le {b : BanRow} {now now' : Millis} (hle : now ≤ now')
    (h : b.Active now') : b.Active now := by
  refine ⟨h.1, fun e he => ?_⟩
  have hlt := h.2 e he
  have hnat : (now : ℕ) ≤ (now' : ℕ) := hle
  omega

/-- Access is monotone: more channels and members, no more bans, and time going on. -/
lemma ChannelAccess.mono {db db' : Database} {now now' : Millis} {n : String} {u : Uuid}
    (h : ChannelAccess db now n u) (hchannels : ∀ c ∈ db.channels, c ∈ db'.channels)
    (hmembers : ∀ cm ∈ db.channelMembers, cm ∈ db'.channelMembers)
    (hbans : ∀ b ∈ db'.userBans, b ∈ db.userBans) (hnow : now ≤ now') :
    ChannelAccess db' now' n u := by
  obtain ⟨c, hc, hname, hlive, hmember, hban⟩ := h
  refine ⟨c, hchannels c hc, hname, hlive, hmember.imp_right ?_, ?_⟩
  · rintro ⟨cm, hcm, hkey⟩
    exact ⟨cm, hmembers cm hcm, hkey⟩
  · rintro ⟨b, hb, huser, hactive, hchannel⟩
    exact hban ⟨b, hbans b hb, huser, hactive.of_le hnow, hchannel⟩

lemma AccessKept.mono {s s1 s2 : Shared} {A : String → Uuid → Prop} (h : AccessKept s A s1)
    (hwf : s2.db.WellFormed) (hchannels : ∀ c ∈ s1.db.channels, c ∈ s2.db.channels)
    (hmembers : ∀ cm ∈ s1.db.channelMembers, cm ∈ s2.db.channelMembers)
    (hbans : ∀ b ∈ s2.db.userBans, b ∈ s1.db.userBans) (hnow : s1.now ≤ s2.now) :
    AccessKept s A s2 :=
  ⟨hwf, fun n u hA hacc => (h.access n u hA hacc).mono hchannels hmembers hbans hnow⟩

lemma stable_accessKept (s : Shared) (A : String → Uuid → Prop) : Stable (AccessKept s A) where
  quiet s1 s2 hq h := by
    refine h.mono (h.wellFormed.congr hq.channels hq.messages) ?_ ?_ ?_ hq.now
    · rw [hq.channels]
      exact fun _ hc => hc
    · rw [hq.channelMembers]
      exact fun _ hcm => hcm
    · rw [hq.userBans]
      exact fun _ hb => hb
  notice notice channel text := by
    refine preserves_publishSystemMessage notice channel text ?_ ?_
    · exact fun s1 _ h => h.mono h.wellFormed (fun _ hc => hc) (fun _ hm => hm) (fun _ hb => hb)
        (le_refl _)
    · intro s1 c h _ hfresh
      exact h.mono (wellFormed_append h.wellFormed (systemRow c notice s1.now text)
        s1.db.messageFiles hfresh) (fun _ hc => hc) (fun _ hm => hm) (fun _ hb => hb) (le_refl _)
  page channel before s1 h :=
    h.mono h.wellFormed (fun _ hc => hc) (fun _ hm => hm) (fun _ hb => hb) (le_refl _)
  refresh channel s1 h :=
    h.mono h.wellFormed (fun _ hc => hc) (fun _ hm => hm) (fun _ hb => hb) (le_refl _)

/-! ### The writes -/

section Writes

variable {s : Shared} {A : String → Uuid → Prop}

/-- A row that keeps its name, kind and liveness keeps its readers. -/
lemma accessKept_updateChannel (hwf : s.db.WellFormed) {id : Uuid} (f : ChannelRow → ChannelRow)
    (hid : ∀ c, (f c).id = c.id) (hkind : ∀ c, (f c).kind = c.kind)
    (hunique : ∀ c ∈ s.db.channels, c.id = id → ∀ c' ∈ s.db.channels, c'.name = (f c).name →
      c'.id = id)
    (hkept : ∀ c ∈ s.db.channels, c.id = id → c.deletedAt = none →
      ((f c).name = c.name ∧ (f c).deletedAt = none) ∨ ∀ u, A c.name u) :
    AccessKept s A (s.setDb (s.db.updateChannel id f)) := by
  refine ⟨wellFormed_updateChannel hwf hid hunique, ?_⟩
  rintro n u hA ⟨c, hc, rfl, hlive, hmember, hban⟩
  refine ⟨if c.id = id then f c else c, List.mem_map_of_mem hc, ?_⟩
  by_cases hcid : c.id = id
  · rcases hkept c hc hcid hlive with ⟨hname, hdel⟩ | hall
    · rw [if_pos hcid]
      refine ⟨hname, hdel, ?_, ?_⟩
      · rw [hkind, hid]
        exact hmember
      · rw [hid]
        exact hban
    · exact absurd (hall u) hA
  · rw [if_neg hcid]
    exact ⟨rfl, hlive, hmember, hban⟩

/-- The unique name of a row that keeps it. -/
lemma unique_of_same_name (hwf : s.db.WellFormed) {id : Uuid} {f : ChannelRow → ChannelRow}
    (hname : ∀ c, (f c).name = c.name) : ∀ c ∈ s.db.channels, c.id = id →
      ∀ c' ∈ s.db.channels, c'.name = (f c).name → c'.id = id := by
  intro c hc hcid c' hc' hname'
  rw [hname] at hname'
  rw [List.inj_on_of_nodup_map hwf.channelName hc' hc hname', hcid]

/-- More channels and more members. -/
lemma accessKept_grow (hwf : s.db.WellFormed) {db : Database} (hwf' : db.WellFormed)
    (hchannels : ∀ c ∈ s.db.channels, c ∈ db.channels)
    (hmembers : ∀ cm ∈ s.db.channelMembers, cm ∈ db.channelMembers)
    (hbans : db.userBans = s.db.userBans) : AccessKept s A (s.setDb db) := by
  refine (AccessKept.refl hwf A).mono hwf' hchannels hmembers ?_ (le_refl _)
  rw [Shared.setDb_db, hbans]
  exact fun _ hb => hb

lemma accessKept_upsert (hwf : s.db.WellFormed) {id id' : Uuid} {name : String} {db : Database}
    (h : s.db.upsertChannel id name s.now = .ok (db, id')) : AccessKept s A (s.setDb db) := by
  rcases Database.upsertChannel_ok h with ⟨-, hfresh, rfl⟩ | ⟨c, -, -, -, -, rfl⟩
  · exact accessKept_grow hwf (wellFormed_insertChannel hwf _ hfresh)
      (fun _ hc => List.mem_append_left _ hc) (fun _ hm => hm) rfl
  · exact accessKept_updateChannel hwf (fun c => { c with deletedAt := none }) (fun _ => rfl)
      (fun _ => rfl) (unique_of_same_name hwf fun _ => rfl) fun _ _ _ _ => Or.inl ⟨rfl, rfl⟩

/-- The rows that a removal leaves. -/
lemma accessKept_removeMembers (hwf : s.db.WellFormed) {c : ChannelRow} (hc : c ∈ s.db.channels)
    {target : Uuid} (p : MemberRow → Bool) (hA : A c.name target) :
    AccessKept s A (s.setDb (s.db.removeMembers c.id target p)) := by
  refine ⟨hwf.congr rfl rfl, ?_⟩
  rintro n u hAn ⟨c', hc', rfl, hlive, hmember, hban⟩
  refine ⟨c', hc', rfl, hlive, hmember.imp_right ?_, hban⟩
  rintro ⟨cm, hcm, hcid, huser⟩
  refine ⟨cm, List.mem_filter.mpr ⟨hcm, decide_eq_true ?_⟩, hcid, huser⟩
  rintro ⟨hcid', huser', -⟩
  -- the removed row would be the one of the revoked channel
  have heq : c' = c := List.inj_on_of_nodup_map hwf.channelId hc' hc (hcid.symm.trans hcid')
  exact hAn (heq ▸ huser.symm.trans huser' ▸ hA)

lemma accessKept_addBan (hwf : s.db.WellFormed) {row : BanRow}
    (hA : ∀ c ∈ s.db.channels, row.channelId = none ∨ row.channelId = some c.id →
      A c.name row.userId) : AccessKept s A (s.setDb (s.db.addBan row)) := by
  refine ⟨hwf.congr rfl rfl, ?_⟩
  rintro n u hAn ⟨c, hc, rfl, hlive, hmember, hban⟩
  refine ⟨c, hc, rfl, hlive, hmember, ?_⟩
  rintro ⟨b, hb, huser, hactive, hchannel⟩
  rcases List.mem_append.mp hb with hold | hnew
  · exact hban ⟨b, hold, huser, hactive, hchannel⟩
  · rw [List.mem_singleton] at hnew
    subst hnew
    exact hAn (huser ▸ hA c hc hchannel)

/-- A revoked ban bans nobody. -/
lemma accessKept_revokeBan (hwf : s.db.WellFormed) (banId actor : Uuid) :
    AccessKept s A (s.setDb (s.db.revokeBan banId actor s.now)) := by
  refine ⟨hwf.congr rfl rfl, ?_⟩
  rintro n u - ⟨c, hc, rfl, hlive, hmember, hban⟩
  refine ⟨c, hc, rfl, hlive, hmember, ?_⟩
  rintro ⟨b', hb', huser, hactive, hchannel⟩
  obtain ⟨b, hb, rfl⟩ := List.mem_map.mp hb'
  split at huser
  · rename_i hrevoked
    rw [if_pos hrevoked] at hactive
    exact absurd hactive.1 (by simp)
  · rename_i hkeep
    rw [if_neg hkeep] at hactive hchannel
    exact hban ⟨b, hb, huser, hactive, hchannel⟩

/-- A write to messages and caches only. -/
lemma accessKept_messages (hwf : s.db.WellFormed) {b : Backend} (hwf' : b.db.WellFormed)
    (hchannels : b.db.channels = s.db.channels)
    (hmembers : b.db.channelMembers = s.db.channelMembers)
    (hbans : b.db.userBans = s.db.userBans) (hnow : b.now = s.now) :
    AccessKept s A (s.setBackend b) := by
  refine (AccessKept.refl hwf A).mono hwf' ?_ ?_ ?_ hnow.ge
  · exact fun c hc => hchannels ▸ hc
  · exact fun cm hcm => hmembers ▸ hcm
  · exact fun row hrow => hbans ▸ hrow

lemma accessKept_moderate (hwf : s.db.WellFormed) {actor id : Uuid} {action : Moderation}
    {reason : Option String} {b : Backend} {message : Option ChatMessage}
    (h : s.toBackend.moderateMessage actor id action reason = .ok (b, message)) :
    AccessKept s A (s.setBackend b) := by
  obtain ⟨db, hmod, hb⟩ := Backend.moderateMessage_ok h
  obtain ⟨audit, rfl⟩ := adminModerateMessage_ok hmod
  have hplaced := MessageRow.placed_moderate s.now actor reason action
  have hwf' := wellFormed_audit (wellFormed_updateMessage hwf id hplaced) audit
  rcases hb with rfl | ⟨name, rfl⟩
  · exact accessKept_messages hwf hwf' rfl rfl rfl rfl
  · exact accessKept_messages hwf hwf' rfl rfl rfl rfl

/-- An audit row changes nothing. -/
lemma AccessKept.audit {db : Database} (h : AccessKept s A (s.setDb db)) (actor : Uuid)
    (action targetType : String) (target : Uuid) {metadata : List (String × AuditValue)} :
    AccessKept s A (s.setDb (db.recordAudit actor action targetType target metadata s.now)) :=
  (stable_accessKept s A).audit actor action targetType target s.now h

/-- A direct conversation that is opened: both users are enrolled. -/
lemma accessKept_insertDirect (hwf : s.db.WellFormed) {id target : Uuid} {user : AuthUser}
    {db : Database} {r : Uuid × String}
    (h : insertDirect id user target s.db s.now = .ok (db, r)) : AccessKept s A (s.setDb db) := by
  obtain ⟨c, -, -, -, hcases⟩ := insertDirect_ok h
  rcases hcases with ⟨-, rfl⟩ | ⟨-, -, hfresh, rfl⟩
  · refine accessKept_grow hwf (hwf.congr (by simp) (by simp)) ?_
      (fun _ hm => Database.mem_enroll _ _ _ _ _ hm) (by simp)
    intro c hc
    rwa [Database.enroll_channels]
  · refine AccessKept.audit ?_ _ _ _ _
    refine accessKept_grow hwf ?_ ?_ (fun _ hm => Database.mem_enroll _ _ _ _ _ hm) (by simp)
    · exact (wellFormed_insertChannel hwf c hfresh).congr (by simp) (by simp)
    · intro c' hc'
      rw [Database.enroll_channels]
      exact List.mem_append_left _ hc'

/-- An invitation: at most one more row. -/
lemma accessKept_insertMember (hwf : s.db.WellFormed) {id target : Uuid} {user : AuthUser}
    {db : Database} {r : Option String}
    (h : insertMember id user target s.db s.now = .ok (db, r)) : AccessKept s A (s.setDb db) := by
  rcases insertMember_ok h with ⟨-, rfl⟩ | ⟨-, rfl⟩
  · exact AccessKept.refl hwf _
  · refine AccessKept.audit ?_ _ _ _ _
    refine accessKept_grow hwf (hwf.congr (by simp) (by simp)) ?_
      (fun _ hm => Database.mem_addMember hm) (by simp)
    intro c hc
    rwa [Database.addMember_channels]

/-- New settings, and perhaps a new name. -/
lemma accessKept_updateChannelRow (hwf : s.db.WellFormed) {U : Unicode} {user : AuthUser}
    {id : Uuid} {request : ChannelAdminRequest} {db : Database} {u : Unit}
    (h : updateChannelRow U user id request s.db s.now = .ok (db, u))
    (hA : ∀ c ∈ s.db.channels, c.id = id → request.rename U c ≠ .ok c.name → ∀ u, A c.name u) :
    AccessKept s A (s.setDb db) := by
  obtain ⟨c, name, hc, hcid, -, hrename, hunique, rfl⟩ := updateChannelRow_ok h
  refine AccessKept.audit ?_ _ _ _ _
  refine accessKept_updateChannel hwf (fun c => { c.configure _ with name := name })
    (fun _ => rfl) (fun _ => rfl) (fun _ _ _ => hunique) ?_
  intro c' hc' hcid' hlive
  have heq : c' = c := List.inj_on_of_nodup_map hwf.channelId hc' hc (hcid'.trans hcid.symm)
  subst heq
  by_cases hsame : name = c'.name
  · exact Or.inl ⟨hsame, hlive⟩
  · refine Or.inr (hA c' hc' hcid' ?_)
    rw [hrename, ne_eq, Except.ok.injEq]
    exact hsame

/-- Of the actions on a channel only a deletion takes it away. -/
lemma accessKept_setChannelState (hwf : s.db.WellFormed) {user : AuthUser} {id : Uuid}
    {action : ChannelAction} {db : Database} {name : String}
    (h : setChannelState user id action s.db s.now = .ok (db, name))
    (hA : action = .delete → ∀ c ∈ s.db.channels, c.id = id → ∀ u, A c.name u) :
    AccessKept s A (s.setDb db) := by
  obtain rfl := setChannelState_ok h
  refine AccessKept.audit ?_ _ _ _ _
  refine accessKept_updateChannel hwf _ (ChannelAction.apply_id s.now _)
    (ChannelAction.apply_kind s.now _)
    (unique_of_same_name hwf (ChannelAction.apply_name s.now _)) ?_
  intro c hc hcid hlive
  cases action with
  | archive => exact Or.inl ⟨rfl, hlive⟩
  | restore => exact Or.inl ⟨rfl, hlive⟩
  | delete => exact Or.inr (hA rfl c hc hcid)
  | undelete => exact Or.inl ⟨rfl, rfl⟩

/-- A ban hits one user, in one channel or in all. -/
lemma accessKept_insertBan (hwf : s.db.WellFormed) {id : Uuid} {user : AuthUser}
    {request : BanRequest} {db : Database} {u : Unit}
    (h : insertBan id user request s.db s.now = .ok (db, u))
    (hA : ∀ n, (∀ channel ∈ request.channel, channel = n) → A n request.userId) :
    AccessKept s A (s.setDb db) := by
  obtain ⟨row, huser, hchannel, rfl⟩ := insertBan_ok h
  refine (accessKept_addBan hwf ?_).audit _ _ _ _
  intro c hc hrow
  rw [huser]
  refine hA c.name fun channel hname => ?_
  rcases hchannel with ⟨hnone, -⟩ | ⟨name, c', hsome, hlive, hcid⟩
  · rw [hnone] at hname
    exact absurd hname (by simp)
  · -- the banned channel is the live one of the name
    obtain rfl : name = channel := by simpa [hsome] using hname
    obtain ⟨hc', hname', -⟩ := Database.liveChannel?_some hlive
    have hid : c'.id = c.id := by simpa [hcid] using hrow
    rw [← hname', List.inj_on_of_nodup_map hwf.channelId hc' hc hid]

/-- Other roles for the same members. -/
lemma accessKept_roles (hwf : s.db.WellFormed) {f : MemberRow → MemberRow}
    (hf : ∀ cm, (f cm).channelId = cm.channelId ∧ (f cm).userId = cm.userId) :
    AccessKept s A (s.setDb { s.db with channelMembers := s.db.channelMembers.map f }) := by
  refine ⟨hwf.congr rfl rfl, ?_⟩
  rintro n u - ⟨c, hc, rfl, hlive, hmember, hban⟩
  refine ⟨c, hc, rfl, hlive, hmember.imp_right ?_, hban⟩
  rintro ⟨cm, hcm, hcid, huser⟩
  exact ⟨f cm, List.mem_map_of_mem hcm, (hf cm).1.trans hcid, (hf cm).2.trans huser⟩

/-- Another owner among the members. -/
lemma accessKept_transferOwnership (hwf : s.db.WellFormed) {actor : AuthUser} {name : String}
    {userId id : Uuid} {db : Database}
    (h : transferOwnership actor name userId s.db = .ok (db, id)) :
    AccessKept s A (s.setDb db) := by
  obtain ⟨c, f, -, hf, rfl⟩ := transferOwnership_ok h
  have howner : AccessKept s A
      (s.setDb (s.db.updateChannel c.id fun c => { c with ownerUserId := some userId })) :=
    accessKept_updateChannel hwf _ (fun _ => rfl) (fun _ => rfl)
      (unique_of_same_name hwf fun _ => rfl) fun _ _ _ hlive => Or.inl ⟨rfl, hlive⟩
  exact howner.trans (accessKept_roles howner.wellFormed hf)

/-- Moderations of many messages. -/
lemma accessKept_bulkModerate (hwf : s.db.WellFormed) (actor : AuthUser) (action : Moderation)
    (reason : Option String) (ids : List Uuid) :
    AccessKept s A (s.setDb (bulkModerate actor action reason s.now ids s.db).1) := by
  refine bulkModerate_induct (P := fun db => AccessKept s A (s.setDb db)) (fun db id metadata h => ?_)
    ids s.db (AccessKept.refl hwf A)
  have hplaced := MessageRow.placed_moderate s.now actor.id reason action
  refine h.mono (wellFormed_audit (wellFormed_updateMessage h.wellFormed id hplaced) _) ?_ ?_ ?_
    (le_refl _)
  · exact fun _ hc => hc
  · exact fun _ hm => hm
  · exact fun _ hb => hb

/-- **A request** takes away no access but what it revokes. -/
theorem accessKept_request {U : Unicode} {fresh : Fresh} {user : AuthUser} {s' : Shared}
    (hwf : s.db.WellFormed) {request : Request} (hw : Write U fresh user s request s') :
    AccessKept s (fun n u => request.Revokes U fresh user s n u) s' := by
  cases hw with
  | createChannel _ _ _ hok => exact accessKept_upsert hwf hok
  | createPrivateChannel _ _ _ hok =>
      obtain ⟨hfresh, rfl⟩ := insertPrivateChannel_ok hok
      refine AccessKept.audit ?_ _ _ _ _
      refine accessKept_grow hwf ?_ ?_ (fun _ hm => Database.mem_addMember hm) (by simp)
      · exact (wellFormed_insertChannel hwf (privateRow _ user _ s.now) hfresh).congr (by simp)
          (by simp)
      · intro c hc
        rw [Database.addMember_channels]
        exact List.mem_append_left _ hc
  | openDirect _ _ hok => exact accessKept_insertDirect hwf hok
  | inviteMember _ hok => exact accessKept_insertMember hwf hok
  | removeMember hperm hid hok =>
      obtain ⟨c, hc, hname, hcid⟩ := ownedPrivateChannel_ok hid
      have hrevokes := isOk_iff.mpr ⟨_, hok⟩
      obtain rfl := deleteMember_ok hok
      refine AccessKept.audit ?_ _ _ _ _
      rw [← hcid]
      exact accessKept_removeMembers hwf hc _ ⟨hname, rfl, hperm, _, hid, hrevokes⟩
  | leaveChannel hperm hok =>
      have hrevokes := isOk_iff.mpr ⟨_, hok⟩
      obtain ⟨c, hc, -, -, rfl⟩ := deleteOwnMembership_ok hok
      obtain ⟨hmem, hname, -⟩ := Database.liveChannel?_some hc
      exact accessKept_removeMembers hwf hmem _ ⟨hname, rfl, hperm, hrevokes⟩
  | adminCreateChannel _ _ _ hok =>
      have hup := accessKept_upsert (A := fun _ _ => False) hwf hok
      refine (hup.trans ?_).weaken fun n u _ h => h
      exact accessKept_updateChannel hup.wellFormed (ChannelRow.configure _) (fun _ => rfl)
        (fun _ => rfl) (unique_of_same_name hup.wellFormed fun _ => rfl)
        fun _ _ _ hlive => Or.inl ⟨rfl, hlive⟩
  | adminUpdateChannel hperm hok =>
      refine accessKept_updateChannelRow hwf hok fun c hc hcid hrename u => ?_
      exact ⟨hperm, isOk_iff.mpr ⟨_, hok⟩, c, hc, hcid, rfl, hrename⟩
  | adminChannelState hperm hok =>
      refine accessKept_setChannelState hwf hok ?_
      rintro rfl c hc hcid u
      exact ⟨hperm, isOk_iff.mpr ⟨_, hok⟩, c, hc, hcid, rfl⟩
  | adminCreateBan hperm hok =>
      refine accessKept_insertBan hwf hok fun n hchannel => ?_
      exact ⟨rfl, hchannel, hperm, isOk_iff.mpr ⟨_, hok⟩⟩
  | adminRevokeBan hok =>
      obtain ⟨target, rfl⟩ := updateBan_ok hok
      exact (accessKept_revokeBan hwf _ _).audit _ _ _ _
  | adminModerateMessage hok => exact accessKept_moderate hwf hok
  | promoteModerator hok =>
      obtain ⟨f, hf, rfl⟩ := changeRole_ok hok
      exact accessKept_roles hwf hf
  | demoteModerator hok =>
      obtain ⟨f, hf, rfl⟩ := changeRole_ok hok
      exact accessKept_roles hwf hf
  | transferOwnership _ hok => exact accessKept_transferOwnership hwf hok
  | acceptInviteLink _ hok =>
      rcases useInviteLink_ok hok with rfl | ⟨row, rfl⟩
      · exact AccessKept.refl hwf _
      · refine accessKept_grow hwf (hwf.congr (by simp) (by simp)) ?_
          (fun _ hm => Database.mem_addMember hm) (by simp)
        intro c hc
        rwa [Database.addMember_channels]
  | adminBulkModerate => exact accessKept_bulkModerate hwf _ _ _ _

/-- **A client event** takes away no access but what it revokes. -/
theorem accessKept_event {U : Unicode} {fresh : Fresh} {user : AuthUser} {session : Uuid}
    {channel : String} {s' : Shared} (hwf : s.db.WellFormed) {event : ClientEvent}
    (hw : EventWrite U fresh user session channel s event s') :
    AccessKept s (fun n u => event.Revokes U fresh user s n u) s' := by
  cases hw with
  | service hrequest hw =>
      refine (accessKept_request hwf hw).weaken fun n u hnot hrevokes => hnot ?_
      rw [ClientEvent.Revokes.eq_def]
      cases event with
      | deleteChannel raw => exact absurd hrequest (by simp [ClientEvent.request?])
      | _ => exact ⟨_, hrequest, hrevokes⟩
  | deleteChannel hperm hname hmain hok =>
      have hrevokes := isOk_iff.mpr ⟨_, hok⟩
      obtain ⟨c, hc, rfl⟩ := deleteChannel_ok hok
      obtain ⟨hmem, rfl, -⟩ := Database.liveChannel?_some hc
      refine AccessKept.audit ?_ _ _ _ _
      refine accessKept_updateChannel hwf (fun c => { c with deletedAt := some s.now })
        (fun _ => rfl) (fun _ => rfl) (unique_of_same_name hwf fun _ => rfl) ?_
      intro c' hc' hcid _
      rw [List.inj_on_of_nodup_map hwf.channelId hc' hmem hcid]
      exact Or.inr fun u => ⟨hperm, hname, hmain, hrevokes⟩
  | sendMessage hok =>
      obtain ⟨db, hsave, rfl⟩ := Backend.postMessage_ok hok
      obtain ⟨c, links, -, hfresh, rfl⟩ := saveMessage_ok hsave
      exact accessKept_messages hwf (wellFormed_append hwf (savedRow c _ _ _) links hfresh) rfl rfl
        rfl rfl
  | editMessage hok =>
      obtain ⟨db, hedit, rfl⟩ := Backend.editMessage_ok hok
      obtain ⟨c, row, -, -, rfl, -⟩ := editMessage_ok hedit
      exact accessKept_messages hwf (wellFormed_updateMessage hwf _ (MessageRow.placed_edit _)) rfl
        rfl rfl rfl
  | deleteMessage hok =>
      obtain ⟨db, hdel, rfl⟩ := Backend.deleteMessage_ok hok
      obtain ⟨c, row, -, -, rfl, -⟩ := deleteMessage_ok hdel
      exact accessKept_messages hwf (wellFormed_updateMessage hwf _ (MessageRow.placed_delete _)) rfl
        rfl rfl rfl

end Writes

end Vussa
