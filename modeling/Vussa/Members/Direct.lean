import Vussa.Members.Keys
import Vussa.Model.Identifiers

/-!
The direct channel of a pair of users.

* `keyText_injective`: the text `"{first}:{second}"` determines the pair, so a direct key may be
  kept as the pair itself;
* `Closed`, `Paired`: the members of every live direct channel are of its pair, and a link to a
  direct channel is accepted by one of the pair;
* `closed_along_iff`: **no third user is ever a member of a live direct channel iff no third user's
  acceptance of a link to one commits**;
* `Undisturbed`: no commit deletes the channel or a member of a call of `open_direct` under way;
* `openDirect_agrees`: **every call returns the one live channel of the pair, in which both are
  members**.
-/

namespace Vussa.Members

open Run ReadCommitted

/-! ### The direct key -/

/-- The text of `direct_key`. -/
def keyText (key : Uuid × Uuid) : String := key.1.toText ++ ":" ++ key.2.toText

/-- The text of the key determines the pair. -/
theorem keyText_injective : Function.Injective keyText := by
  rintro ⟨a, b⟩ ⟨a', b'⟩ h
  have hlist : a.toText.toList ++ (':' :: b.toText.toList) =
      a'.toText.toList ++ (':' :: b'.toText.toList) := by
    simpa [keyText] using congrArg String.toList h
  obtain ⟨hfirst, hsecond⟩ := List.append_inj hlist (by rw [toText_length, toText_length])
  rw [toText_injective (String.toList_inj.mp hfirst),
    toText_injective (String.toList_inj.mp (List.cons.inj hsecond).2)]

/-- The key does not depend on who calls. -/
lemma directKey_comm (a b : Uuid) : directKey a b = directKey b a := by
  rw [directKey, directKey]
  rcases lt_trichotomy a b with h | h | h
  · rw [if_pos h, if_neg h.asymm]
  · rw [h]
  · rw [if_neg h.asymm, if_pos h]

/-- The key names the two users. -/
lemma directKey_mem (a b u : Uuid) :
    u = (directKey a b).1 ∨ u = (directKey a b).2 ↔ u = a ∨ u = b := by
  rw [directKey]
  split
  · exact Iff.rfl
  · exact or_comm

/-! ### The members of a direct channel -/

/-- The user is one of the pair of the channel. -/
def OfPair (c : ChannelRow) (userId : Uuid) : Prop :=
  ∃ key ∈ c.directKey, userId = key.1 ∨ userId = key.2

/-- The members of the live direct channels are of their pairs. -/
def Closed (d : Tables) : Prop :=
  ∀ c ∈ d.channels, c.kind = .direct → c.deletedAt = none →
    ∀ cm ∈ d.channelMembers, cm.channelId = c.id → OfPair c cm.userId

instance (c : ChannelRow) (u : Uuid) : Decidable (OfPair c u) :=
  decidable_of_iff ((c.directKey.any fun key => decide (u = key.1 ∨ u = key.2)) = true)
    (by simp [OfPair, Option.any_eq_true])

instance (d : Tables) : Decidable (Closed d) :=
  inferInstanceAs (Decidable (∀ c ∈ d.channels, _))

/-- A user may be a member of a channel: of a direct one, if the user is of its pair. -/
def MayJoin (d : Tables) (channelId userId : Uuid) : Prop :=
  ∀ c ∈ d.channels, c.id = channelId → c.kind = .direct → OfPair c userId

/-- The same for the deleted channels, which may come back. -/
def AllClosed (d : Tables) : Prop :=
  ∀ cm ∈ d.channelMembers, MayJoin d cm.channelId cm.userId

/-- A commit of an acceptance lets nobody but the pair into a direct channel. -/
def Stage.Paired (d : Tables) : Stage → Prop
  | .accepted channelId _ actor _ true => MayJoin d channelId actor
  | _ => True

/-- Every commit is of this kind. -/
def Paired (E : Env) (s : State) : ReadCommitted.Act Op → Prop
  | .run k => ∀ p, (system E).Commits s k p → p.Paired s.db
  | _ => True

section Closed

variable {E : Env} {d : Tables}

lemma AllClosed.closed (h : AllClosed d) : Closed d := fun c hc hkind _ cm hcm hchannel =>
  h cm hcm c hc hchannel.symm hkind

/-- What one row says of a channel holds of all rows of its identifier. -/
lemma Keys.mayJoin (h : Keys d) {c : ChannelRow} (hc : c ∈ d.channels) {userId : Uuid}
    (hpair : c.kind = .direct → OfPair c userId) : MayJoin d c.id userId := by
  intro c' hc' hid
  rw [List.inj_on_of_nodup_map h.channelId hc' hc hid]
  exact hpair

/-- A user may still join a stored channel after a write. -/
lemma mayJoin_apply {w : Write} (hw : w.Legal d) {channelId userId : Uuid}
    (hplace : HasPlace d fun q => q.1 = channelId) (h : MayJoin d channelId userId) :
    MayJoin (w.apply d) channelId userId := by
  intro c' hc' hid hkind
  obtain ⟨row, rfl, hrows⟩ | ⟨f, hf, hrows⟩ := apply_channels d w
  · rcases List.mem_append.mp (hrows ▸ hc') with hold | hnew
    · exact h c' hold hid hkind
    · obtain rfl := List.mem_singleton.mp hnew
      obtain ⟨c, hc, hcid⟩ := hplace
      exact absurd (hcid.trans hid.symm) (hw.1 c hc).1
  · obtain ⟨c, hc, rfl⟩ := List.mem_map.mp (hrows ▸ hc')
    rw [hf.id] at hid
    rw [hf.kind] at hkind
    rw [OfPair, hf.directKey]
    exact h c hc hid hkind

/-- A legal write keeps the pairs closed if the row it inserts may be there. -/
lemma AllClosed.apply {w : Write} (h : AllClosed d) (hkeys : Keys d) (hw : w.Legal d)
    (hinsert : ∀ row, w = .insertMember row → MayJoin d row.channelId row.userId) :
    AllClosed (w.apply d) := by
  intro cm' hcm'
  rcases member_of_apply hcm' with rfl | ⟨cm, hcm, hchannel, huser⟩
  · exact mayJoin_apply hw hw (hinsert cm' rfl)
  · obtain ⟨c, hc, hid⟩ := hkeys.reference cm hcm
    rw [← hchannel, ← huser]
    exact mayJoin_apply hw ⟨c, hc, hid⟩ (h cm hcm)

/-- Rows of users that may join keep the pairs closed. -/
lemma AllClosed.insertMembers {id : Uuid} {rows : List MemberRow} (h : AllClosed d)
    (hkeys : Keys d) (hplace : HasPlace d fun q => q.1 = id)
    (hrows : ∀ r ∈ rows, r.channelId = id ∧ MayJoin d id r.userId) :
    AllClosed ((rows.map Write.insertMember).foldl Write.apply d) := by
  have hall : ∀ d', d' = (rows.map Write.insertMember).foldl Write.apply d →
      (Keys d' ∧ AllClosed d' ∧ (HasPlace d' fun q => q.1 = id) ∧
        ∀ r ∈ rows, MayJoin d' id r.userId) := by
    rintro d' rfl
    refine List.foldlRecOn (motive := fun d => Keys d ∧ AllClosed d ∧
      (HasPlace d fun q => q.1 = id) ∧ ∀ r ∈ rows, MayJoin d id r.userId) _ _
      ⟨hkeys, h, hplace, fun r hr => (hrows r hr).2⟩ fun d hd w hw => ?_
    obtain ⟨hkeys, hclosed, hplace, hjoin⟩ := hd
    obtain ⟨r, hr, rfl⟩ := List.mem_map.mp hw
    have hlegal : (Write.insertMember r).Legal d := by
      rw [Write.Legal, (hrows r hr).1]
      exact hplace
    refine ⟨hkeys.apply hlegal, hclosed.apply hkeys hlegal ?_, hasPlace_apply hplace,
      fun r' hr' => mayJoin_apply hlegal hplace (hjoin r' hr')⟩
    rintro row heq
    obtain rfl := Write.insertMember.inj heq
    rw [(hrows r hr).1]
    exact hjoin r hr
  exact (hall _ rfl).2.1

/-- `open_direct` enrolls the pair. -/
lemma allClosed_enroll {o : Opening} (hkeys : Keys d) (hsound : o.Sound d) (h : AllClosed d) :
    AllClosed ((system E).view d (.enroll o)) := by
  change AllClosed (((if o.created then [Write.insertChannel o.row] else []) ++
    o.rows.map Write.insertMember).foldl Write.apply d)
  rw [List.foldl_append]
  have hpair : ∀ {d : Tables}, Keys d → (HasPlace d fun q => q = place o.row) →
      ∀ r ∈ o.rows, r.channelId = o.channelId ∧ MayJoin d o.channelId r.userId := by
    intro d hkeys hplace r hr
    obtain ⟨c, hc, hplace⟩ := hplace
    simp only [place, Opening.row, Prod.mk.injEq] at hplace
    refine ⟨(hsound.rows r hr).1, hplace.1 ▸ hkeys.mayJoin hc fun _ => ?_⟩
    exact ⟨o.key, hplace.2.2.2, (hsound.rows r hr).2.1⟩
  have hfst : ∀ {d : Tables}, (HasPlace d fun q => q = place o.row) →
      HasPlace d fun q => q.1 = o.channelId := by
    rintro d ⟨c, hc, hplace⟩
    exact ⟨c, hc, congrArg Prod.fst hplace⟩
  split
  next hnew =>
    obtain ⟨hfresh, hsole⟩ := hsound.created hnew
    have hlegal : (Write.insertChannel o.row).Legal d :=
      ⟨hfresh, fun _ => rfl, fun k hk => (Option.some.inj hk : o.key = k) ▸ hsole⟩
    have hplace : HasPlace (Write.apply d (.insertChannel o.row)) fun q => q = place o.row :=
      ⟨o.row, List.mem_append_right _ (List.mem_singleton_self _), rfl⟩
    exact (h.apply hkeys hlegal (by simp)).insertMembers (hkeys.apply hlegal) (hfst hplace)
      (hpair (hkeys.apply hlegal) hplace)
  next hold =>
    have hplace := hsound.found hold
    exact h.insertMembers hkeys (hfst hplace) (hpair hkeys hplace)

/-- An update of a role lets nobody in. -/
lemma AllClosed.roleWrite (h : AllClosed d) (hkeys : Keys d) (hit : Bool) (c u : Uuid)
    (role : MembershipRole) : AllClosed ((Stage.roleWrite hit c u role).foldl Write.apply d) := by
  cases hit with
  | false => exact h
  | true => exact h.apply (w := .setRole c u role) hkeys trivial (by simp)

/-- A paired commit keeps the pairs closed. -/
lemma AllClosed.commit {p : Stage} (h : AllClosed d) (hkeys : Keys d) (hsound : Sound d p)
    (hcommit : p.next E ((system E).view d p) = .commit) (hpaired : p.Paired d) :
    AllClosed ((system E).view d p) := by
  obtain ⟨id, actor, name, now, rfl⟩ | ⟨o, rfl, -⟩ | ⟨c, actor, target, hit, hit', rfl⟩ |
    ⟨c, tokenHash, actor, now, joined, rfl⟩ | ⟨w, rfl⟩ := stage_of_commit hcommit
  · have hlegal : (Write.insertChannel (privateRow id actor name now)).Legal d :=
      ⟨hsound, fun hkey => absurd rfl hkey, fun k hk => absurd hk (by simp [privateRow])⟩
    have hmem : privateRow id actor name now ∈
        (Write.apply d (.insertChannel (privateRow id actor name now))).channels :=
      List.mem_append_right _ (List.mem_singleton_self _)
    refine (h.apply hkeys hlegal (by simp)).apply (w := .insertMember (ownerRow id actor now))
      (hkeys.apply hlegal) ⟨_, hmem, rfl⟩ fun row heq => ?_
    obtain rfl := Write.insertMember.inj heq
    exact (hkeys.apply hlegal).mayJoin hmem fun hkind => absurd hkind (by simp [privateRow])
  · exact allClosed_enroll hkeys hsound h
  · change AllClosed ((Write.setOwner c target :: (Stage.roleWrite hit c actor .moderator ++
      Stage.roleWrite hit' c target .owner)).foldl Write.apply d)
    rw [List.foldl_cons, List.foldl_append]
    have howner := h.apply (w := .setOwner c target) hkeys trivial (by simp)
    have hkeys' := hkeys.apply (w := .setOwner c target) trivial
    exact (howner.roleWrite hkeys' hit c actor .moderator).roleWrite
      (hkeys'.roleWrite hit c actor .moderator) hit' c target .owner
  · cases joined with
    | false => exact h
    | true =>
        obtain ⟨c', hc', hid, -⟩ := hsound
        have hlegal : (Write.insertMember (linkMember c actor now)).Legal d := ⟨c', hc', hid⟩
        refine (h.apply hkeys hlegal fun row heq => ?_).apply (w := .useLink tokenHash)
          (hkeys.apply hlegal) trivial (by simp)
        obtain rfl := Write.insertMember.inj heq
        exact hpaired
  · cases w with
    | none => exact h
    | some w =>
        cases w with
        | insertMember row =>
            obtain ⟨⟨c, hc, hid, hkind⟩, -⟩ := hsound
            refine h.apply (w := .insertMember row) hkeys ⟨c, hc, hid⟩ fun row' heq => ?_
            obtain rfl := Write.insertMember.inj heq
            change c.id = row.channelId at hid
            rw [← hid]
            exact hkeys.mayJoin hc fun hdirect => absurd (hkind.symm.trans hdirect) (by simp)
        | insertChannel row =>
            exact h.apply (w := .insertChannel row) hkeys
              ⟨hsound.1, fun hkey => absurd hsound.2.2 hkey,
                fun k hk => absurd (hsound.2.2 ▸ hk) (by simp)⟩ (by simp)
        | undelete id key => exact h.apply (w := .undelete id key) hkeys hsound (by simp)
        | deleteChannel id now => exact h.apply (w := .deleteChannel id now) hkeys trivial (by simp)
        | setArchived id a => exact h.apply (w := .setArchived id a) hkeys trivial (by simp)
        | deleteMember c u keepOwner =>
            exact h.apply (w := .deleteMember c u keepOwner) hkeys trivial (by simp)
        | changeRole c u old new =>
            exact h.apply (w := .changeRole c u old new) hkeys trivial (by simp)
        | insertLink row => exact h.apply (w := .insertLink row) hkeys trivial (by simp)
        | setOwner _ _ => exact hsound.elim
        | setRole _ _ _ => exact hsound.elim
        | useLink _ => exact hsound.elim

/-- An acceptance by a third user opens a live direct channel. -/
lemma not_closed_of_not_paired {p : Stage} (hkeys : Keys d) (hsound : Sound d p)
    (hpaired : ¬ p.Paired d) : ¬ Closed ((system E).view d p) := by
  unfold Stage.Paired at hpaired
  split at hpaired
  next c tokenHash actor now =>
    intro hclosed
    refine hpaired fun row hrow hid hkind => ?_
    obtain ⟨live, hmem, hlive, hnone⟩ := hsound
    have hsame : row = live := List.inj_on_of_nodup_map hkeys.channelId hrow hmem
      (hid.trans hlive.symm)
    obtain ⟨cm, hcm, hchannel, huser⟩ := member_insertMember d (linkMember c actor now)
    have hchannels : ((system E).view d (.accepted c tokenHash actor now true)).channels =
        d.channels := by
      change (d.addMember _).channels = d.channels
      rw [Database.addMember]
      split <;> rfl
    have hof : OfPair row cm.userId := hclosed row (hchannels ▸ hrow) hkind (hsame ▸ hnone) cm hcm
      (hchannel.trans hid.symm)
    rw [huser] at hof
    exact hof
  next => exact absurd trivial hpaired

end Closed

/-- **Direct channels**: along every run of the requests, from tables that have their keys and in
which the members of direct channels are of their pairs, the members of every live direct channel
are of its pair in every state iff no acceptance of a link by a third user commits into one. -/
theorem closed_along_iff (E : Env) {s : State} (hs : s.requests = []) (hkeys : Keys s.db)
    (hclosed : AllClosed s.db) (as : List (ReadCommitted.Act Op)) :
    Along (system E).step (fun s a => Closed ((system E).step s a).db) s as ↔
      Along (system E).step (Paired E) s as := by
  have hstep : ∀ s a, ((system E).Good Keys Sound s ∧ AllClosed s.db) → Paired E s a →
      AllClosed ((system E).step s a).db := by
    rintro s a ⟨hgood, h⟩ hpaired
    rcases System.step_db (S := system E) s a with hdb | ⟨k, p, rfl, hp, hdb⟩
    · rw [hdb]
      exact h
    · rw [hdb]
      exact h.commit hgood.db (hgood.request k p hp.1) hp.2 (hpaired p hp)
  refine along_congr_of (I := fun s => (system E).Good Keys Sound s ∧ AllClosed s.db) ?_ ?_
    ⟨System.good_of_requests_eq_nil hkeys hs, hclosed⟩ as
  · exact fun s a h hpaired =>
      ⟨(keys_keeps E fun _ _ => True).step h.1 trivial, hstep s a h hpaired⟩
  · intro s a h
    refine ⟨fun hclosed => ?_, fun hpaired => (hstep s a h hpaired).closed⟩
    cases a with
    | begin op => trivial
    | abort k => trivial
    | run k =>
        intro p hp
        by_contra hpaired
        rw [System.step_commit hp] at hclosed
        exact not_closed_of_not_paired h.1.db (h.1.request k p hp.1) hpaired hclosed

/-- A direct channel of users 1 and 2. -/
def pairTables : Tables where
  channels := [{ id := 8, name := "dm", kind := .direct, directKey := some (1, 2), createdAt := 1 }]
  channelMembers := [{ channelId := 8, userId := 1, createdAt := 1 },
    { channelId := 8, userId := 2, createdAt := 1 }]
  users := [{ id := 1, username := "ada" }, { id := 2, username := "bob" },
    { id := 3, username := "eve" }]

lemma pairTables_keys : Keys pairTables := by
  refine ⟨by decide, by decide, fun key c hc _ c' hc' _ => ?_, by decide, by decide⟩
  rw [List.mem_singleton.mp hc, List.mem_singleton.mp hc']

lemma pairTables_closed : AllClosed pairTables := by
  intro cm hcm c hc _ _
  have hall : ∀ c ∈ pairTables.channels, ∀ cm ∈ pairTables.channelMembers, OfPair c cm.userId := by
    decide +kernel
  exact hall c hc cm hcm

/-- A user who may write. -/
def writer (id : Uuid) : AuthUser :=
  { id := id, email := "", username := "", roles := [], permissions := [.chatWrite] }

/-- User 1 creates a link to the direct channel. -/
def linking : List (ReadCommitted.Act Op) :=
  .begin (.createLink (writer 1) "dm" {} linkToken 5) :: List.replicate 5 (.run 0)

/-- User 3 accepts the link. -/
def accepting : List (ReadCommitted.Act Op) :=
  .begin (.acceptLink (writer 3) linkToken 6) :: List.replicate 6 (.run 1)

/-- A link alone lets nobody in. -/
theorem paired_link : Along (system asciiEnv).step (Paired asciiEnv) { db := pairTables } linking :=
  (closed_along_iff asciiEnv rfl pairTables_keys pairTables_closed _).mp (by decide +kernel)

/-- A third user accepts a link to the direct channel and is a member of it. -/
theorem link_opens_direct :
    Keys pairTables ∧ AllClosed pairTables ∧
      ¬ Closed (final (system asciiEnv).step { db := pairTables } (linking ++ accepting)).db :=
  ⟨pairTables_keys, pairTables_closed, by decide +kernel⟩

/-! ### The calls of `open_direct` -/

/-- A live channel with given fixed columns exists. -/
def LivePlace (d : Tables) (q : Uuid × String × ChannelKind × Option (Uuid × Uuid)) : Prop :=
  ∃ c ∈ d.channels, place c = q ∧ c.deletedAt = none

/-- What a call still has to rely on: the channel it found is live, and whom it has come by is a
member, or will be with its commit. -/
structure Opening.Held (d : Tables) (o : Opening) : Prop where
  found : ¬ o.created → LivePlace d (place o.row)
  member : ∀ u, (u = o.key.1 ∨ u = o.key.2) → u ∉ o.todo →
    Member d.toDatabase o.channelId u ∨ ∃ r ∈ o.rows, r.userId = u

/-- The same for a request. -/
def Held (d : Tables) : Stage → Prop
  | .enroll o => o.Held d
  | _ => True

/-- A write that neither deletes the channel nor one of its members. -/
def Write.Spares (id : Uuid) : Write → Prop
  | deleteChannel c _ => c ≠ id
  | deleteMember c _ _ => c ≠ id
  | _ => True

/-- No commit deletes the channel of a call under way, or a member of it. -/
def Undisturbed (E : Env) (s : State) : ReadCommitted.Act Op → Prop
  | .run k => ∀ p, (system E).Commits s k p → ∀ j o, s.request j = some (.enroll o) →
      ∀ w ∈ p.writes, w.Spares o.channelId
  | _ => True

/-- A call that commits at this act returns the one live channel of its pair, and both are
members. -/
def Returns (E : Env) (s : State) (a : ReadCommitted.Act Op) : Prop :=
  ∀ k o, a = .run k → (system E).Commits s k (.enroll o) →
    ∃ c ∈ ((system E).step s a).db.channels, IsDirect (directKey o.actor o.target) c ∧
      (c.id, c.name) = (o.channelId, o.name) ∧
      (∀ c' ∈ ((system E).step s a).db.channels,
        IsDirect (directKey o.target o.actor) c' → c' = c) ∧
      Member ((system E).step s a).db.toDatabase c.id o.actor ∧
      Member ((system E).step s a).db.toDatabase c.id o.target

section Calls

variable {E : Env} {d : Tables}

lemma livePlace_apply {w : Write} {q : Uuid × String × ChannelKind × Option (Uuid × Uuid)}
    (h : LivePlace d q) (hw : w.Spares q.1) : LivePlace (w.apply d) q := by
  obtain ⟨c, hc, hplace, hlive⟩ := h
  obtain ⟨row, -, hrows⟩ | ⟨f, hf, hrows⟩ := apply_channels d w
  · exact ⟨c, hrows ▸ List.mem_append_left _ hc, hplace, hlive⟩
  · refine ⟨f c, hrows ▸ List.mem_map_of_mem hc, (hf.place c).trans hplace, ?_⟩
    rcases hf.alive c hlive with hlive | ⟨now, rfl⟩
    · exact hlive
    · exact absurd (congrArg Prod.fst hplace) hw

/-- A member in the view of a request was one before, or is inserted by it. -/
lemma member_of_view {p : Stage} {c u : Uuid}
    (h : Member ((system E).view d p).toDatabase c u) : Member d.toDatabase c u ∨
      ∃ row, .insertMember row ∈ p.writes ∧ row.channelId = c ∧ row.userId = u := by
  refine List.foldlRecOn (motive := fun d' => Member d'.toDatabase c u → Member d.toDatabase c u ∨
    ∃ row, Write.insertMember row ∈ p.writes ∧ row.channelId = c ∧ row.userId = u)
    p.writes Write.apply Or.inl (fun d' hd' w hw hmember => ?_) h
  obtain ⟨cm', hcm', hchannel, huser⟩ := hmember
  rcases member_of_apply hcm' with rfl | ⟨cm, hcm, hchannel', huser'⟩
  · exact Or.inr ⟨cm', hw, hchannel, huser⟩
  · exact hd' ⟨cm, hcm, hchannel'.trans hchannel, huser'.trans huser⟩

/-- A row that is inserted last of all is there in the view. -/
lemma member_view_enroll {o : Opening} (hsound : o.Sound d) (hheld : o.Held d)
    (htodo : o.todo = []) {u : Uuid} (hu : u = o.key.1 ∨ u = o.key.2) :
    Member ((system E).view d (.enroll o)).toDatabase o.channelId u := by
  have hkeep : ∀ {d : Tables} (rows : List MemberRow), Member d.toDatabase o.channelId u →
      Member ((rows.map Write.insertMember).foldl Write.apply d).toDatabase o.channelId u :=
    fun {d} rows h => List.foldlRecOn
      (motive := fun d : Tables => Member d.toDatabase o.channelId u) _ _ h fun d hd w hw => by
        obtain ⟨r, -, rfl⟩ := List.mem_map.mp hw
        exact member_apply hd (by simp)
  change Member (((if o.created then [Write.insertChannel o.row] else []) ++
    o.rows.map Write.insertMember).foldl Write.apply d).toDatabase o.channelId u
  rw [List.foldl_append]
  rcases hheld.member u hu (htodo ▸ List.not_mem_nil) with hmember | ⟨r, hr, rfl⟩
  · refine hkeep o.rows ?_
    split
    · exact hmember
    · exact hmember
  · obtain ⟨before, after, hrows⟩ := List.append_of_mem hr
    rw [hrows, List.map_append, List.foldl_append, List.map_cons, List.foldl_cons]
    exact hkeep after ((hsound.rows r hr).1 ▸ member_insertMember _ r)

/-- What a call relies on survives the commit of another request that spares its channel. -/
lemma Opening.Held.view {o : Opening} {p : Stage} (h : o.Held d)
    (hspares : ∀ w ∈ p.writes, w.Spares o.channelId) : o.Held ((system E).view d p) := by
  refine List.foldlRecOn (motive := fun d => o.Held d) p.writes Write.apply h fun d hd w hw => ?_
  have hspare := hspares w hw
  refine ⟨fun hold => livePlace_apply (hd.found hold) hspare, fun u hu htodo => ?_⟩
  refine (hd.member u hu htodo).imp_left fun hmember => member_apply hmember ?_
  rintro keepOwner rfl
  exact hspare rfl

/-- The channel of a call is live in its view. -/
lemma livePlace_view_enroll {o : Opening} (hheld : o.Held d) :
    LivePlace ((system E).view d (.enroll o)) (place o.row) := by
  change LivePlace (((if o.created then [Write.insertChannel o.row] else []) ++
    o.rows.map Write.insertMember).foldl Write.apply d) (place o.row)
  rw [List.foldl_append]
  refine List.foldlRecOn (motive := fun d => LivePlace d (place o.row)) _ _ ?_ fun d hd w hw => ?_
  · split
    next => exact ⟨o.row, List.mem_append_right _ (List.mem_singleton_self _), rfl, rfl⟩
    next hold => exact hheld.found hold
  · obtain ⟨r, -, rfl⟩ := List.mem_map.mp hw
    exact livePlace_apply hd trivial

/-- A call that goes on to the next user still has its channel, and the members it passed over. -/
lemma Opening.Held.rest {o : Opening} {userId : Uuid} {rest : List Uuid} {rows : List MemberRow}
    (h : o.Held d) (htodo : o.todo = userId :: rest) (hrows : ∀ r ∈ o.rows, r ∈ rows)
    (hmember : Member d.toDatabase o.channelId userId ∨ ∃ r ∈ rows, r.userId = userId) :
    Opening.Held d { o with todo := rest, rows := rows } := by
  refine ⟨h.found, fun u hu hrest => ?_⟩
  by_cases hne : u = userId
  · rw [hne]
    exact hmember
  · refine (h.member u hu fun hmem => ?_).imp_right fun ⟨r, hr, huser⟩ => ⟨r, hrows r hr, huser⟩
    rcases List.mem_cons.mp (htodo ▸ hmem) with heq | hmem
    · exact hne heq
    · exact hrest hmem

/-- A statement of a call finds what the call relies on. -/
lemma held_next {p p' : Stage} {needs : List Lock} (hheld : Held d p)
    (h : p.next E ((system E).view d p) = .goto needs p') : Held d p' := by
  cases leads_of_next h with
  | request hop => cases hop <;> trivial
  | insertDirect _ _ =>
      exact ⟨fun hold => absurd rfl hold,
        fun u hu htodo => absurd (by simpa [Opening.key] using hu) htodo⟩
  | lookupDirect hc hdirect =>
      obtain ⟨hkind, hkey, hlive⟩ := hdirect
      exact ⟨fun _ => ⟨_, hc, by simp [place, Opening.row, Opening.key, hkind, hkey], hlive⟩,
        fun u hu htodo => absurd (by simpa [Opening.key] using hu) htodo⟩
  | enrolled htodo hmember =>
      refine Opening.Held.rest hheld htodo (fun _ hr => hr) ?_
      refine (member_of_view hmember).imp_right ?_
      rintro ⟨row, hrow, -, huser⟩
      rcases List.mem_append.mp hrow with hchannel | hrow
      · split at hchannel
        · exact absurd (List.mem_singleton.mp hchannel) (by simp)
        · exact absurd hchannel List.not_mem_nil
      · obtain ⟨r, hr, heq⟩ := List.mem_map.mp hrow
        rw [← Write.insertMember.inj heq] at huser
        exact ⟨r, hr, huser⟩
  | enroll htodo _ =>
      refine Opening.Held.rest hheld htodo (fun _ hr => List.mem_append_left _ hr) (Or.inr ?_)
      exact ⟨_, List.mem_append_right _ (List.mem_singleton_self _), rfl⟩
  | _ => trivial

/-- Undisturbed steps keep what every call relies on. -/
lemma held_keeps (E : Env) :
    (system E).Keeps Keys (fun d p => Sound d p ∧ Held d p) (Undisturbed E) where
  locks _ := rfl
  start _ _ _ _ := ⟨trivial, trivial⟩
  goto _ _ _ _ hkeys hp h := ⟨sound_next hp.1 hkeys h, held_next hp.2 h⟩
  commit _ k p hgood hp _ := keys_view hgood.db (hgood.request k p hp.1).1
  frame s k p hgood hp ha j q hne hq := by
    refine ⟨sound_view (hgood.request j q hq).1 (hgood.exclusive j k q p hne hq hp.1), ?_⟩
    have hheld := (hgood.request j q hq).2
    cases q with
    | enroll o => exact Opening.Held.view hheld (ha p hp j o hq)
    | _ => trivial

/-- A call that commits returns the channel of its pair. -/
lemma returns_of_good {s : State} (h : (system E).Good Keys (fun d p => Sound d p ∧ Held d p) s)
    (a : ReadCommitted.Act Op) : Returns E s a := by
  rintro k o rfl hp
  obtain ⟨hsound, hheld⟩ := h.request k _ hp.1
  have htodo : o.todo = [] := by
    obtain ⟨_, _, _, _, heq⟩ | ⟨o', heq, htodo⟩ | ⟨_, _, _, _, _, heq⟩ | ⟨_, _, _, _, _, heq⟩ |
      ⟨_, heq⟩ := stage_of_commit (E := E) (p := .enroll o) hp.2
    · exact absurd heq (by simp)
    · rw [Stage.enroll.inj heq, htodo]
    · exact absurd heq (by simp)
    · exact absurd heq (by simp)
    · exact absurd heq (by simp)
  rw [System.step_commit hp]
  have hkeys := keys_view (E := E) (p := .enroll o) h.db hsound
  obtain ⟨c, hc, hplace, hlive⟩ := livePlace_view_enroll (E := E) hheld
  simp only [place, Opening.row, Prod.mk.injEq] at hplace
  obtain ⟨hid, hname, hkind, hkey⟩ := hplace
  have hmember : ∀ u, u = o.actor ∨ u = o.target →
      Member ((system E).view s.db (.enroll o)).toDatabase c.id u := fun u hu =>
    hid ▸ member_view_enroll hsound hheld htodo ((directKey_mem o.actor o.target u).mpr hu)
  refine ⟨c, hc, ⟨hkind, hkey, hlive⟩, by rw [hid, hname], fun c' hc' hdirect => ?_,
    hmember _ (Or.inl rfl), hmember _ (Or.inr rfl)⟩
  rw [directKey_comm] at hdirect
  exact List.inj_on_of_nodup_map hkeys.channelId hc' hc
    (hkeys.directKey _ c hc ⟨hkind, hkey, hlive⟩ c' hc' hdirect)

/-- A stage of `open_direct`. -/
inductive Stage.OfCall : Stage → Prop
  | request (id : Uuid) (actor : AuthUser) (target : Uuid) (now : Millis) :
      OfCall (.request (.openDirect id actor target now))
  | findTarget (id actor target : Uuid) (now : Millis) : OfCall (.findTarget id actor target now)
  | insertDirect (id actor target : Uuid) (now : Millis) :
      OfCall (.insertDirect id actor target now)
  | lookupDirect (actor target : Uuid) (now : Millis) : OfCall (.lookupDirect actor target now)
  | enroll (o : Opening) : OfCall (.enroll o)

/-- A call of `open_direct` begins. -/
def BeginsCall : ReadCommitted.Act Op → Prop
  | .begin op => ∃ id actor target now, op = .openDirect id actor target now
  | _ => True

lemma ofCall_next {p p' : Stage} {needs : List Lock} (hp : p.OfCall)
    (h : p.next E d = .goto needs p') : p'.OfCall := by
  cases hp with
  | request id actor target now =>
      cases leads_of_next h with
      | request hop =>
          cases hop with
          | openDirect _ => exact .findTarget id actor.id target now
  | findTarget id actor target now =>
      cases leads_of_next h with
      | findTarget => exact .insertDirect id actor target now
  | insertDirect id actor target now =>
      cases leads_of_next h with
      | insertDirect _ _ => exact .enroll _
      | conflictDirect => exact .lookupDirect actor target now
  | lookupDirect actor target now =>
      cases leads_of_next h with
      | lookupDirect _ _ => exact .enroll _
  | enroll o =>
      cases leads_of_next h with
      | enrolled _ _ => exact .enroll _
      | enroll _ _ => exact .enroll _

/-- A call deletes nothing. -/
lemma spares_of_ofCall {p : Stage} (hp : p.OfCall) (id : Uuid) : ∀ w ∈ p.writes, w.Spares id := by
  intro w hw
  cases hp with
  | enroll o =>
      rcases List.mem_append.mp hw with hchannel | hrow
      · split at hchannel
        · rw [List.mem_singleton.mp hchannel]
          trivial
        · exact absurd hchannel List.not_mem_nil
      · obtain ⟨r, -, rfl⟩ := List.mem_map.mp hrow
        trivial
  | _ => exact absurd hw List.not_mem_nil

/-- Calls do not disturb each other. -/
lemma undisturbed_of_calls (E : Env) {s : State} (hs : s.requests = []) (hkeys : Keys s.db)
    {as : List (ReadCommitted.Act Op)} (h : ∀ a ∈ as, BeginsCall a) :
    Along (system E).step (Undisturbed E) s as := by
  have hkeeps : (system E).Keeps Keys (fun d p => Sound d p ∧ p.OfCall) fun _ a => BeginsCall a :=
    { locks := fun _ => rfl
      start := fun _ op _ ⟨id, actor, target, now, heq⟩ =>
        ⟨trivial, heq ▸ .request id actor target now⟩
      goto := fun _ _ _ _ hkeys hp h => ⟨sound_next hp.1 hkeys h, ofCall_next hp.2 h⟩
      commit := fun _ k p hgood hp _ => keys_view hgood.db (hgood.request k p hp.1).1
      frame := fun _ k p hgood hp _ j q hne hq =>
        ⟨sound_view (hgood.request j q hq).1 (hgood.exclusive j k q p hne hq hp.1),
          (hgood.request j q hq).2⟩ }
  refine Along.of_invariant (I := (system E).Good Keys fun d p => Sound d p ∧ p.OfCall)
    (C := fun _ a => BeginsCall a) (fun s a hgood ha => hkeeps.step hgood ha)
    (fun s a hgood _ => ?_)
    (System.good_of_requests_eq_nil hkeys hs) (along_of_forall (P := BeginsCall) s h)
  cases a with
  | begin op => trivial
  | abort k => trivial
  | run k => exact fun p hp j o _ => spares_of_ofCall (hgood.request k p hp.1).2 o.channelId

end Calls

/-- **One direct channel**: along every run of the requests, from tables that have their keys, an
unordered pair of users has at most one live direct channel; and where no commit deletes the channel
or a member of a call under way, every call of `open_direct` that commits returns that channel,
whichever of the two has called, and both are members of it. -/
theorem openDirect_agrees (E : Env) {s : State} (hs : s.requests = []) (hkeys : Keys s.db)
    {as : List (ReadCommitted.Act Op)} (has : Along (system E).step (Undisturbed E) s as) :
    Along (system E).step (fun s a => Returns E s a ∧
      ∀ u v, ∀ c ∈ ((system E).step s a).db.channels, ∀ c' ∈ ((system E).step s a).db.channels,
        IsDirect (directKey u v) c → IsDirect (directKey v u) c' → c' = c) s as := by
  refine Along.of_invariant (C := Undisturbed E)
    (fun s a hgood ha => (held_keeps E).step hgood ha)
    (fun s a hgood ha => ⟨returns_of_good hgood a, ?_⟩)
    (System.good_of_requests_eq_nil hkeys hs) has
  intro u v c hc c' hc' hdirect hdirect'
  have hkeys := ((held_keeps E).step hgood ha).db
  rw [directKey_comm] at hdirect'
  exact List.inj_on_of_nodup_map hkeys.channelId hc' hc
    (hkeys.directKey _ c hc hdirect c' hc' hdirect')

/-- Users 1 and 3 open the channel of the two at the same time. -/
def opening : List (ReadCommitted.Act Op) :=
  [.begin (.openDirect 20 (writer 1) 3 5), .begin (.openDirect 21 (writer 3) 1 5)] ++
    (List.replicate 8 [.run 0, .run 1]).flatten

/-- Calls that race agree. -/
theorem openDirect_race :
    Along (system asciiEnv).step (fun s a => Returns asciiEnv s a ∧
      ∀ u v, ∀ c ∈ ((system asciiEnv).step s a).db.channels,
        ∀ c' ∈ ((system asciiEnv).step s a).db.channels,
        IsDirect (directKey u v) c → IsDirect (directKey v u) c' → c' = c)
      { db := pairTables } opening :=
  openDirect_agrees asciiEnv rfl pairTables_keys
    (undisturbed_of_calls asciiEnv rfl pairTables_keys (by simp [opening, BeginsCall]))

end Vussa.Members
