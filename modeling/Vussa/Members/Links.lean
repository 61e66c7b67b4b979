import Vussa.Lib.Unique
import Vussa.Members.Keys

/-!
The uses of an invite link (`accept_invite_link`), under every interleaving with the other requests
on channels and members.

The limit is read by the statement that locks the channel and the link; the membership, its insert
and the increment are later statements of the same transaction.

* `Open`: the link lets its channel be joined;
* `LinkKeys`, `Learnt`: the links of the tables, and what a request knows about its link;
* `links_keeps`: **both hold along every run**;
* `Creates`, `linkUses_step`: a link gains a use at the commits that create a membership through it;
* `uses_eq_created`: **a limited link is never used more often than it allows, its uses are the
  memberships created through it, and an acceptance changes nothing or joins by an open link**.
-/

namespace Vussa.Members

open Run ReadCommitted Table

/-! ### Links -/

/-- The link is of the channel, has not expired and is not exhausted. -/
def Open (d : Tables) (channelId : Uuid) (tokenHash : String) (now : Millis) : Prop :=
  ∃ l ∈ d.inviteLinks, l.tokenHash = tokenHash ∧ l.channelId = channelId ∧
    (∀ e ∈ l.expiresAt, ((now : ℕ) : ℤ) < e) ∧ (0 < l.maxUses → l.uses < l.maxUses)

/-- No link has the hash. -/
def NewHash (d : Tables) (tokenHash : String) : Prop :=
  ∀ l ∈ d.inviteLinks, l.tokenHash ≠ tokenHash

/-- The unique index on the hashes, and the limits. -/
structure LinkKeys (d : Tables) : Prop where
  unique : Unique LinkRow.tokenHash d.inviteLinks
  within : ∀ l ∈ d.inviteLinks, 0 < l.maxUses → l.uses ≤ l.maxUses

/-- The uses of the link with a hash, none if there is no such link. -/
def Tables.linkUses (d : Tables) (tokenHash : String) : ℤ :=
  ((d.inviteLinks.find? fun l => l.tokenHash = tokenHash).map fun l => l.uses).getD 0

/-- What a request knows about its link. -/
def Learnt (d : Tables) : Stage → Prop
  | .insertLink row => row.uses = 0
  | .acceptBan c tokenHash _ now | .acceptMember c tokenHash _ now
  | .acceptInsert c tokenHash _ now => Open d c tokenHash now
  | .acceptUse c tokenHash actor now =>
      Open d c tokenHash now ∧ ¬ Member d.toDatabase c actor
  | .accepted c tokenHash actor now joined =>
      Open d c tokenHash now ∧ (joined → ¬ Member d.toDatabase c actor)
  | .written (some w) =>
      match w with
      | .insertLink row => row.uses = 0 ∧ NewHash d row.tokenHash
      | .useLink _ => False
      | _ => True
  | _ => True

/-! ### What a write does to the links -/

/-- One more use of the link with the hash. -/
def addUse (tokenHash : String) (l : LinkRow) : LinkRow :=
  if l.tokenHash = tokenHash then { l with uses := l.uses + 1 } else l

section Writes

variable {d : Tables} {w : Write}

lemma tokenHash_addUse (tokenHash : String) (l : LinkRow) :
    (addUse tokenHash l).tokenHash = l.tokenHash := by
  rw [addUse]
  split_ifs <;> rfl

/-- A write inserts a link, uses one, or leaves them all alone. -/
lemma apply_links (d : Tables) (w : Write) :
    (∃ row, w = .insertLink row ∧ (w.apply d).inviteLinks = d.inviteLinks ++ [row]) ∨
    (∃ tokenHash, w = .useLink tokenHash ∧
      (w.apply d).inviteLinks = d.inviteLinks.map (addUse tokenHash)) ∨
    (w.apply d).inviteLinks = d.inviteLinks := by
  cases w with
  | insertLink row => exact Or.inl ⟨row, rfl, rfl⟩
  | useLink tokenHash => exact Or.inr (Or.inl ⟨tokenHash, rfl, rfl⟩)
  | _ => exact Or.inr (Or.inr rfl)

lemma open_apply {c : Uuid} {tokenHash : String} {now : Millis} (h : Open d c tokenHash now)
    (hlock : Lock.link tokenHash ∉ w.locks) : Open (w.apply d) c tokenHash now := by
  obtain ⟨l, hl, rfl, hopen⟩ := h
  refine ⟨l, ?_, rfl, hopen⟩
  obtain ⟨row, -, hlinks⟩ | ⟨used, rfl, hlinks⟩ | hlinks := apply_links d w
  · rw [hlinks]
    exact List.mem_append_left _ hl
  · have hother : addUse used l = l := if_neg fun heq => hlock (by simp [Write.locks, heq])
    rw [hlinks]
    exact List.mem_map.mpr ⟨l, hl, hother⟩
  · rw [hlinks]
    exact hl

lemma newHash_apply {tokenHash : String} (h : NewHash d tokenHash)
    (hlock : Lock.link tokenHash ∉ w.locks) : NewHash (w.apply d) tokenHash := by
  intro l' hl'
  obtain ⟨row, rfl, hlinks⟩ | ⟨used, -, hlinks⟩ | hlinks := apply_links d w
  · rcases List.mem_append.mp (hlinks ▸ hl') with hold | hnew
    · exact h l' hold
    · rw [List.mem_singleton.mp hnew]
      exact fun heq => hlock (by simp [Write.locks, heq])
  · obtain ⟨l, hl, rfl⟩ := List.mem_map.mp (hlinks ▸ hl')
    rw [tokenHash_addUse]
    exact h l hl
  · exact h l' (hlinks ▸ hl')

/-- Only an insert of the row makes a user a member. -/
lemma not_member_apply {c u : Uuid} (h : ¬ Member d.toDatabase c u)
    (hlock : Lock.member c u ∉ w.locks) : ¬ Member (w.apply d).toDatabase c u := by
  rintro ⟨cm', hcm', rfl, rfl⟩
  rcases member_of_apply hcm' with rfl | ⟨cm, hcm, hchannel, huser⟩
  · exact hlock (List.mem_singleton_self _)
  · exact h ⟨cm, hcm, hchannel, huser⟩

end Writes

/-! ### What a request learns -/

/-- What a statement finds out about a link. -/
lemma learnt_next {E : Env} {d : Tables} {p p' : Stage} {needs : List Lock} (hp : Learnt d p)
    (h : p.next E ((system E).view d p) = .goto needs p') : Learnt d p' := by
  cases leads_of_next h with
  | request hop =>
      cases hop with
      | acceptLink hl hhash _ hid _ hexpiry hlimit =>
          exact ⟨_, hl, hhash, hid.symm, hexpiry, hlimit⟩
      | _ => trivial
  | linkAccess _ => exact rfl
  | insertLink hnew => exact ⟨hp, hnew⟩
  | acceptedBefore _ => exact ⟨hp, fun hjoined => absurd hjoined (by simp)⟩
  | acceptBan _ | acceptMember _ => exact hp
  | acceptInsert hnew => exact ⟨hp, hnew⟩
  | acceptUse => exact ⟨hp.1, fun _ => hp.2⟩
  | _ => trivial

/-! ### What others write -/

section Frame

variable {E : Env} {d : Tables} {p q : Stage}

/-- A request still knows what it knows about its link after the commit of another one. -/
lemma learnt_view (hq : Learnt d q) (hfree : ∀ κ ∈ q.locks, κ ∉ p.locks) :
    Learnt ((system E).view d p) q := by
  have hopen : ∀ {c : Uuid} {tokenHash : String} {now : Millis}, Lock.link tokenHash ∈ q.locks →
      Open d c tokenHash now → Open ((system E).view d p) c tokenHash now :=
    fun {c tokenHash now} hmem h => view_of_guarded (F := fun d => Open d c tokenHash now)
      (fun _ _ h hκ => open_apply h hκ) h (hfree _ hmem)
  have hmember : ∀ {c u : Uuid}, Lock.member c u ∈ q.locks → ¬ Member d.toDatabase c u →
      ¬ Member ((system E).view d p).toDatabase c u :=
    fun {c u} hmem h => view_of_guarded (F := fun d => ¬ Member d.toDatabase c u)
      (fun _ _ h hκ => not_member_apply h hκ) h (hfree _ hmem)
  cases q with
  | insertLink row => exact hq
  | acceptBan _ _ _ _ | acceptMember _ _ _ _ | acceptInsert _ _ _ _ =>
      exact hopen (by simp [Stage.locks, Stage.selected]) hq
  | acceptUse c tokenHash actor now =>
      exact ⟨hopen (by simp [Stage.locks, Stage.selected]) hq.1,
        hmember (by simp [Stage.locks, Stage.writes, Write.locks, linkMember]) hq.2⟩
  | accepted c tokenHash actor now joined =>
      refine ⟨hopen (by simp [Stage.locks, Stage.selected]) hq.1, fun hjoined => ?_⟩
      exact hmember (by simp [Stage.locks, Stage.writes, Write.locks, linkMember, hjoined])
        (hq.2 hjoined)
  | written w =>
      cases w with
      | none => trivial
      | some w =>
          cases w with
          | insertLink row =>
              refine ⟨hq.1, view_of_guarded (F := fun d => NewHash d row.tokenHash)
                (fun _ _ h hκ => newHash_apply h hκ) hq.2 (hfree _ ?_)⟩
              simp [Stage.locks, Stage.writes, Write.locks]
          | useLink tokenHash => exact hq
          | _ => trivial
  | _ => trivial

end Frame

/-! ### Uses -/

section Uses

variable {d d' : Tables}

/-- A link is found by its hash. -/
lemma LinkKeys.linkUses (h : LinkKeys d) {l : LinkRow} (hl : l ∈ d.inviteLinks) :
    d.linkUses l.tokenHash = l.uses := by
  rw [Tables.linkUses]
  cases hfind : d.inviteLinks.find? fun l' => l'.tokenHash = l.tokenHash with
  | none => exact absurd (decide_eq_true rfl) (List.find?_eq_none.mp hfind l hl)
  | some l' =>
      have hhash := List.find?_some hfind
      have hsame : l' = l :=
        h.unique.eq (List.mem_of_find?_eq_some hfind) hl (of_decide_eq_true hhash)
      rw [hsame]
      rfl

lemma linkUses_of_newHash {tokenHash : String} (h : NewHash d tokenHash) :
    d.linkUses tokenHash = 0 := by
  rw [Tables.linkUses, List.find?_eq_none.mpr fun l hl heq => h l hl (of_decide_eq_true heq)]
  rfl

/-- A new link has no uses. -/
lemma linkUses_append {row : LinkRow} (hrow : row.uses = 0)
    (hlinks : d'.inviteLinks = d.inviteLinks ++ [row]) (tokenHash : String) :
    d'.linkUses tokenHash = d.linkUses tokenHash := by
  rw [Tables.linkUses, Tables.linkUses, hlinks, List.find?_append]
  cases d.inviteLinks.find? fun l => l.tokenHash = tokenHash with
  | some l => rfl
  | none =>
      rw [Option.none_or, List.find?_singleton]
      split_ifs
      · exact hrow
      · rfl

/-- The use of one link. -/
lemma linkUses_map {used : String} (hlinks : d'.inviteLinks = d.inviteLinks.map (addUse used))
    (hfound : ¬ NewHash d used) (tokenHash : String) :
    d'.linkUses tokenHash = d.linkUses tokenHash + if used = tokenHash then 1 else 0 := by
  have hfind : d'.inviteLinks.find? (fun l => l.tokenHash = tokenHash) =
      (d.inviteLinks.find? fun l => l.tokenHash = tokenHash).map (addUse used) := by
    rw [hlinks, List.find?_map]
    congr 2
    funext l
    rw [Function.comp_apply, tokenHash_addUse]
  rw [Tables.linkUses, Tables.linkUses, hfind]
  cases hl : d.inviteLinks.find? fun l => l.tokenHash = tokenHash with
  | none =>
      have hne : used ≠ tokenHash := by
        rintro rfl
        exact hfound fun l hmem heq =>
          List.find?_eq_none.mp hl l hmem (decide_eq_true heq)
      rw [if_neg hne]
      rfl
  | some l =>
      have hhash := List.find?_some hl
      have hhash : l.tokenHash = tokenHash := of_decide_eq_true hhash
      change (addUse used l).uses = l.uses + _
      rw [addUse, hhash]
      by_cases heq : used = tokenHash
      · rw [if_pos heq.symm, if_pos heq]
      · rw [if_neg fun h => heq h.symm, if_neg heq, add_zero]

end Uses

/-! ### Commits -/

section Commits

variable {E : Env} {d : Tables} {p : Stage}

/-- A request whose writes are on other tables. -/
lemma links_view
    (h : ∀ w ∈ p.writes, (∀ row, w ≠ .insertLink row) ∧ ∀ tokenHash, w ≠ .useLink tokenHash) :
    ((system E).view d p).inviteLinks = d.inviteLinks := by
  refine List.foldlRecOn (motive := fun d' => d'.inviteLinks = d.inviteLinks) p.writes Write.apply
    rfl fun d' hd w hw => ?_
  obtain ⟨row, heq, -⟩ | ⟨tokenHash, heq, -⟩ | hlinks := apply_links d' w
  · exact absurd heq ((h w hw).1 row)
  · exact absurd heq ((h w hw).2 tokenHash)
  · rw [hlinks, hd]

/-- What a commit does to the links. -/
lemma links_of_commit (hp : Learnt d p) (hcommit : p.next E ((system E).view d p) = .commit) :
    (∃ c tokenHash actor now, p = .accepted c tokenHash actor now true ∧
      ((system E).view d p).inviteLinks = d.inviteLinks.map (addUse tokenHash)) ∨
    (∃ row, p = .written (some (.insertLink row)) ∧
      ((system E).view d p).inviteLinks = d.inviteLinks ++ [row]) ∨
    ((∀ c tokenHash actor now, p ≠ .accepted c tokenHash actor now true) ∧
      ((system E).view d p).inviteLinks = d.inviteLinks) := by
  obtain ⟨id, actor, name, now, rfl⟩ | ⟨o, rfl, -⟩ | ⟨c, actor, target, hit, hit', rfl⟩ |
    ⟨c, tokenHash, actor, now, joined, rfl⟩ | ⟨w, rfl⟩ := stage_of_commit hcommit
  · exact Or.inr (Or.inr ⟨by simp, links_view (by simp [Stage.writes])⟩)
  · refine Or.inr (Or.inr ⟨by simp, links_view fun w hw => ?_⟩)
    rcases List.mem_append.mp hw with hw | hw
    · split at hw
      · rw [List.mem_singleton.mp hw]
        exact ⟨by simp, by simp⟩
      · exact absurd hw List.not_mem_nil
    · obtain ⟨r, -, rfl⟩ := List.mem_map.mp hw
      exact ⟨by simp, by simp⟩
  · refine Or.inr (Or.inr ⟨by simp, links_view ?_⟩)
    cases hit <;> cases hit' <;> simp [Stage.writes, Stage.roleWrite]
  · cases joined with
    | false => exact Or.inr (Or.inr ⟨by simp, rfl⟩)
    | true => exact Or.inl ⟨c, tokenHash, actor, now, rfl, rfl⟩
  · cases w with
    | none => exact Or.inr (Or.inr ⟨by simp, rfl⟩)
    | some w =>
        cases w with
        | insertLink row => exact Or.inr (Or.inl ⟨row, rfl, rfl⟩)
        | useLink tokenHash => exact hp.elim
        | _ => exact Or.inr (Or.inr ⟨by simp, links_view (by simp [Stage.writes])⟩)

/-- A commit keeps the index on the hashes, and no link goes over its limit. -/
lemma linkKeys_commit (hkeys : LinkKeys d) (hp : Learnt d p)
    (hcommit : p.next E ((system E).view d p) = .commit) :
    LinkKeys ((system E).view d p) := by
  obtain ⟨c, tokenHash, actor, now, rfl, hlinks⟩ | ⟨row, rfl, hlinks⟩ | ⟨-, hlinks⟩ :=
    links_of_commit hp hcommit
  · obtain ⟨⟨l, hl, hhash, -, -, hlimit⟩, -⟩ := hp
    refine ⟨?_, fun l' hl' hlimited => ?_⟩
    · rw [hlinks]
      exact hkeys.unique.map (tokenHash_addUse tokenHash)
    · obtain ⟨l₀, hl₀, rfl⟩ := List.mem_map.mp (hlinks ▸ hl')
      rw [addUse] at hlimited ⊢
      split_ifs at hlimited ⊢ with heq
      · obtain rfl : l = l₀ := hkeys.unique.eq hl hl₀ (hhash.trans heq.symm)
        exact hlimit hlimited
      · exact hkeys.within l₀ hl₀ hlimited
  · obtain ⟨hrow, hnew⟩ := hp
    refine ⟨?_, fun l hl hlimited => ?_⟩
    · rw [hlinks]
      exact hkeys.unique.append hnew
    · rcases List.mem_append.mp (hlinks ▸ hl) with hold | hlast
      · exact hkeys.within l hold hlimited
      · obtain rfl := List.mem_singleton.mp hlast
        rw [hrow]
        exact hlimited.le
  · exact ⟨hlinks ▸ hkeys.unique, hlinks ▸ hkeys.within⟩

/-- **Links**: along every run, the links keep their limits and every request knows its link. -/
theorem links_keeps (E : Env) (C : State → ReadCommitted.Act Op → Prop) :
    (system E).Keeps LinkKeys Learnt C where
  locks _ := rfl
  start _ _ _ _ := trivial
  goto _ _ _ _ _ hp h := learnt_next hp h
  commit _ k p hgood hp _ := linkKeys_commit hgood.db (hgood.request k p hp.1) hp.2
  frame _ k p hgood hp _ j q hne hq :=
    learnt_view (hgood.request j q hq) (hgood.exclusive j k q p hne hq hp.1)

end Commits

/-! ### Memberships created through a link -/

/-- The channel and the user of an acceptance of the link. -/
def Stage.acceptance (tokenHash : String) : Stage → Option (Uuid × Uuid)
  | .accepted c hash actor _ _ => if hash = tokenHash then some (c, actor) else none
  | _ => none

/-- The step commits an acceptance of the link, and its user becomes a member. -/
def Creates (E : Env) (tokenHash : String) (s : State) : ReadCommitted.Act Op → Prop
  | .run k => ∃ x ∈ (s.request k).bind (Stage.acceptance tokenHash),
      ¬ Member s.db.toDatabase x.1 x.2 ∧
        Member ((system E).step s (.run k)).db.toDatabase x.1 x.2
  | .begin _ | .abort _ => False

instance (E : Env) (tokenHash : String) (s : State) : ∀ a, Decidable (Creates E tokenHash s a)
  | .run k => inferInstanceAs (Decidable (∃ x ∈ (s.request k).bind (Stage.acceptance tokenHash), _))
  | .begin _ | .abort _ => isFalse id

/-- An acceptance that commits changes nothing for a member, and where it changes something, its
user becomes a member by an open link. -/
def Accepts (E : Env) (s : State) (a : ReadCommitted.Act Op) : Prop :=
  ∀ k c tokenHash actor now joined, a = .run k →
    s.request k = some (.accepted c tokenHash actor now joined) →
    (Member s.db.toDatabase c actor → ((system E).step s a).db = s.db) ∧
    (((system E).step s a).db ≠ s.db → ¬ Member s.db.toDatabase c actor ∧
      Member ((system E).step s a).db.toDatabase c actor ∧ Open s.db c tokenHash now)

section Runs

variable {E : Env} {s : State}

/-- The membership of an acceptance that joins. -/
lemma member_of_accepted (E : Env) (d : Tables) (c : Uuid) (tokenHash : String) (actor : Uuid)
    (now : Millis) :
    Member ((system E).view d (.accepted c tokenHash actor now true)).toDatabase c actor :=
  member_insertMember d (linkMember c actor now)

/-- A step that changes no table creates no membership. -/
lemma not_creates {tokenHash : String} {a : ReadCommitted.Act Op}
    (hdb : ((system E).step s a).db = s.db) : ¬ Creates E tokenHash s a := by
  cases a with
  | begin _ => exact id
  | abort _ => exact id
  | run k =>
      rintro ⟨x, -, hnew, hmember⟩
      exact hnew (hdb ▸ hmember)

/-- **A link gains a use exactly when a membership is created through it.** -/
theorem linkUses_step (hgood : (system E).Good LinkKeys Learnt s) (tokenHash : String)
    (a : ReadCommitted.Act Op) :
    ((system E).step s a).db.linkUses tokenHash =
      s.db.linkUses tokenHash + if Creates E tokenHash s a then 1 else 0 := by
  rcases System.step_db (S := system E) s a with hdb | ⟨k, p, rfl, hp, -⟩
  · rw [hdb, if_neg (not_creates hdb), add_zero]
  · have hlearnt := hgood.request k p hp.1
    have hview := System.step_commit hp
    obtain ⟨c, used, actor, now, rfl, hlinks⟩ | ⟨row, rfl, hlinks⟩ | ⟨hne, hlinks⟩ :=
      links_of_commit hlearnt hp.2
    · obtain ⟨⟨l, hl, hhash, -⟩, hnew⟩ := hlearnt
      rw [hview, linkUses_map hlinks (fun h => h l hl hhash)]
      congr 1
      refine if_congr ?_ rfl rfl
      rw [Creates, hview, hp.1]
      by_cases heq : used = tokenHash
      · refine iff_of_true heq ⟨(c, actor), ?_, hnew rfl,
          member_of_accepted E s.db c used actor now⟩
        exact if_pos heq
      · refine iff_of_false heq ?_
        rintro ⟨x, hx, -⟩
        exact absurd (hx.symm.trans (if_neg heq)) (by simp)
    · have hcreates : ¬ Creates E tokenHash s (.run k) := by
        rintro ⟨x, hx, -⟩
        rw [hp.1] at hx
        exact absurd hx (by simp [Stage.acceptance])
      rw [hview, linkUses_append hlearnt.1 hlinks, if_neg hcreates, add_zero]
    · have hcreates : ¬ Creates E tokenHash s (.run k) := by
        rintro ⟨x, hx, hnew, hmember⟩
        rw [hp.1] at hx
        cases p with
        | accepted c used actor now joined =>
            cases joined with
            | true => exact hne c used actor now rfl
            | false =>
                rw [hview] at hmember
                exact hnew hmember
        | _ => exact absurd hx (by simp [Stage.acceptance])
      rw [hview, if_neg hcreates, add_zero, Tables.linkUses, hlinks, Tables.linkUses]

/-- **Acceptances**: a commit of one changes nothing, or joins by an open link. -/
theorem accepts_step (hgood : (system E).Good LinkKeys Learnt s) (a : ReadCommitted.Act Op) :
    Accepts E s a := by
  rintro k c tokenHash actor now joined rfl hk
  have hcommit : (system E).Commits s k (.accepted c tokenHash actor now joined) := ⟨hk, rfl⟩
  obtain ⟨hopen, hnew⟩ := hgood.request k _ hk
  rw [System.step_commit hcommit]
  cases joined with
  | false => exact ⟨fun _ => rfl, fun hne => absurd rfl hne⟩
  | true =>
      exact ⟨fun hmember => absurd hmember (hnew rfl),
        fun _ => ⟨hnew rfl, member_of_accepted E s.db c tokenHash actor now, hopen⟩⟩

end Runs

/-! ### Every run -/

/-- **Invite links over every run** of the requests, from tables whose links have distinct hashes
and are within their limits: a limited link is never over its limit, a link has gained as many uses
as memberships were created through it, and an acceptance changes nothing for a member and creates a
membership only through a link that has neither expired nor been exhausted. -/
theorem uses_eq_created (E : Env) {s : State} (hs : s.requests = []) (hkeys : LinkKeys s.db)
    (as : List (ReadCommitted.Act Op)) :
    (∀ l ∈ (final (system E).step s as).db.inviteLinks,
      (0 < l.maxUses → l.uses ≤ l.maxUses) ∧
      l.uses = s.db.linkUses l.tokenHash +
        count (system E).step (Creates E l.tokenHash) s as ∧
      (NewHash s.db l.tokenHash →
        l.uses = count (system E).step (Creates E l.tokenHash) s as)) ∧
    Along (system E).step (Accepts E) s as := by
  have hstart : (system E).Good LinkKeys Learnt s := System.good_of_requests_eq_nil hkeys hs
  have hstep : ∀ s a, (system E).Good LinkKeys Learnt s →
      (system E).Good LinkKeys Learnt ((system E).step s a) :=
    fun s a hgood => (links_keeps E fun _ _ => True).step hgood trivial
  have hend : (system E).Good LinkKeys Learnt (final (system E).step s as) :=
    final_invariant hstep hstart as
  refine ⟨fun l hl => ?_, ?_⟩
  · have hgained : l.uses = s.db.linkUses l.tokenHash +
        count (system E).step (Creates E l.tokenHash) s as :=
      calc l.uses
          = (final (system E).step s as).db.linkUses l.tokenHash := (hend.db.linkUses hl).symm
        _ = s.db.linkUses l.tokenHash + count (system E).step (Creates E l.tokenHash) s as :=
            final_eq_add_count (f := fun s => s.db.linkUses l.tokenHash) hstep
              (fun s a hgood => linkUses_step hgood l.tokenHash a) hstart as
    exact ⟨hend.db.within l hl, hgained, fun hnew => by
      rw [hgained, linkUses_of_newHash hnew, zero_add]⟩
  · have hall : Along (system E).step (fun _ _ => True) s as := along_of_forall s fun _ _ => trivial
    exact hall.of_invariant (fun s a hgood _ => hstep s a hgood)
      (fun s a hgood _ => accepts_step hgood a) hstart

/-- A private channel of user 1, with a link for one guest. -/
def salon : Tables where
  channels := [{ id := 7, name := "salon", kind := .priv, ownerUserId := some 1, createdAt := 1 }]
  channelMembers :=
    [{ channelId := 7, userId := 1, membershipRole := .owner, createdAt := 1 }]
  inviteLinks := [{ channelId := 7, expiresAt := some 100, maxUses := 1, uses := 0,
                    tokenHash := asciiEnv.hash salonToken, createdBy := 1 }]

/-- A user accepts the link. -/
def guest (userId : Uuid) : ReadCommitted.Act Op :=
  .begin (.acceptLink
    { id := userId, email := "b@x", username := "bob", roles := [], permissions := [.chatWrite] }
    salonToken 50)

/-- The owner and two guests at the same time, the second guest waiting for the first. -/
def arrivals : List (ReadCommitted.Act Op) :=
  [guest 1, guest 2, guest 3, .run 1, .run 2, .run 0] ++ List.replicate 5 (.run 1) ++
    List.replicate 6 (.run 2) ++ List.replicate 4 (.run 0)

/-- One of them has used the link up. -/
theorem arrivals_within :
    (final (system asciiEnv).step { db := salon } arrivals).db.inviteLinks.map
      (fun l => l.uses) = [1] ∧
    ∀ l ∈ (final (system asciiEnv).step { db := salon } arrivals).db.inviteLinks,
      0 < l.maxUses → l.uses ≤ l.maxUses :=
  ⟨by decide +kernel, fun l hl =>
    ((uses_eq_created asciiEnv rfl ⟨by decide, by decide⟩ arrivals).1 l hl).1⟩

end Vussa.Members
