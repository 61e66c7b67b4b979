import Vussa.Members.Model

/-!
What the statements of the requests on channels and members can do.

* `Op.Leads`, `Stage.Leads`: the statement a program comes to next, with what the check before it
  has found;
* `Stage.Final`: the programs that are about to commit;
* `Outcome`, `outcome_next`: **every statement fails, commits or leads on in one of these ways**.
-/

namespace Vussa.Members

open ReadCommitted

/-- No channel has the identifier or the name. -/
def Fresh (d : Tables) (id : Uuid) (name : String) : Prop :=
  ∀ c ∈ d.channels, c.id ≠ id ∧ c.name ≠ name

section Leads

variable (E : Env) (v : Tables)

/-- What the first statement of a request finds, and where it leads. -/
inductive Op.Leads : Op → Stage → Prop
  | createPublic {id actor rawName now name}
      (hname : normalizeChannelName E.unicode rawName = .ok name) :
      Leads (.createPublic id actor rawName now) (.upsert id name now)
  | createPrivate {id actor rawName now name}
      (hname : normalizeChannelName E.unicode rawName = .ok name) :
      Leads (.createPrivate id actor rawName now) (.insertPrivate id actor name now)
  | openDirect {id actor target now} (hne : target ≠ actor.id) :
      Leads (.openDirect id actor target now) (.findTarget id actor.id target now)
  | inviteMember {actor channel userId now c}
      (howned : ownedPrivateChannel v.toDatabase channel actor.id = .ok c) :
      Leads (.inviteMember actor channel userId now) (.inviteTarget c actor.id userId now)
  | removeMember {actor channel userId c}
      (howned : ownedPrivateChannel v.toDatabase channel actor.id = .ok c) :
      Leads (.removeMember actor channel userId) (.removeRow c userId)
  | leaveChannel {actor name c cm} (hlive : v.liveChannel? name = some c)
      (hcm : cm ∈ v.channelMembers)
      (howner : ¬ (c.ownerUserId = some actor.id ∨ cm.membershipRole = .owner)) :
      Leads (.leaveChannel actor name) (.leaveRow c.id actor.id)
  | promote {actor name userId c}
      (hmanager : channelModeratorManager v.toDatabase name actor = .ok c) :
      Leads (.promote actor name userId) (.changeRole c userId .member .moderator)
  | demote {actor name userId c}
      (hmanager : channelModeratorManager v.toDatabase name actor = .ok c) :
      Leads (.demote actor name userId) (.changeRole c userId .moderator .member)
  | transfer {actor name userId c} (hlive : v.liveChannel? name = some c)
      (howner : c.ownerUserId = some actor.id) (hne : userId ≠ actor.id) :
      Leads (.transfer actor name userId) (.transferMember c.id actor.id userId)
  | createLink {actor name request token now} :
      Leads (.createLink actor name request token now)
        (.linkChannel actor name request (E.hash token) now)
  | acceptLink {actor token l c} {now : Millis} (hl : l ∈ v.inviteLinks)
      (hhash : l.tokenHash = E.hash token) (hc : c ∈ v.channels) (hid : c.id = l.channelId)
      (hlive : c.deletedAt = none) (hexpiry : ∀ e ∈ l.expiresAt, ((now : ℕ) : ℤ) < e)
      (hlimit : 0 < l.maxUses → l.uses < l.maxUses) :
      Leads (.acceptLink actor token now) (.acceptBan c.id (E.hash token) actor.id now)
  | deleteChannel {actor rawName now name c}
      (hname : normalizeChannelName E.unicode rawName = .ok name) (hmain : name ≠ mainChannel)
      (hlive : v.liveChannel? name = some c) :
      Leads (.deleteChannel actor rawName now) (.written (some (.deleteChannel c.id now)))
  | channelState {actor action now c} (hc : c ∈ v.channels) (hmain : c.name ≠ mainChannel) :
      Leads (.channelState actor c.id action now) (.channelState c action now)

/-- What a statement finds, and where it leads. -/
inductive Stage.Leads : Stage → Stage → Prop
  | request {op p'} (h : op.Leads E v p') : Leads (.request op) p'
  | upsertNew {id name now} (hfresh : Fresh v id name) :
      Leads (.upsert id name now)
        (.written (some (.insertChannel { id := id, name := name, createdAt := now })))
  | upsertDeleted {id name now c} (hc : c ∈ v.channels) (hrestorable : v.Restorable c) :
      Leads (.upsert id name now) (.written (some (.undelete c.id c.directKey)))
  | insertPrivate {id actor name now} (hfresh : Fresh v id name) :
      Leads (.insertPrivate id actor name now) (.insertOwner id actor name now)
  | insertOwner {id actor name now} :
      Leads (.insertOwner id actor name now) (.createdPrivate id actor name now)
  | findTarget {id actor target now} :
      Leads (.findTarget id actor target now) (.insertDirect id actor target now)
  | insertDirect {id actor target now}
      (hsole : ∀ c ∈ v.channels, ¬ IsDirect (directKey actor target) c)
      (hfresh : Fresh v id (directName id)) :
      Leads (.insertDirect id actor target now)
        (.enroll { channelId := id, name := directName id, created := true, actor := actor,
                   target := target, now := now,
                   todo := [(directKey actor target).1, (directKey actor target).2] })
  | conflictDirect {id actor target now} :
      Leads (.insertDirect id actor target now) (.lookupDirect actor target now)
  | lookupDirect {actor target now c} (hc : c ∈ v.channels)
      (hdirect : IsDirect (directKey actor target) c) :
      Leads (.lookupDirect actor target now)
        (.enroll { channelId := c.id, name := c.name, created := false, actor := actor,
                   target := target, now := now,
                   todo := [(directKey actor target).1, (directKey actor target).2] })
  | enrolled {o userId rest} (htodo : o.todo = userId :: rest)
      (hmember : Member v.toDatabase o.channelId userId) :
      Leads (.enroll o) (.enroll { o with todo := rest })
  | enroll {o userId rest} (htodo : o.todo = userId :: rest)
      (hnew : ¬ Member v.toDatabase o.channelId userId) :
      Leads (.enroll o) (.enroll { o with
        todo := rest
        rows := o.rows ++ [{ channelId := o.channelId, userId := userId,
                             invitedBy := some o.actor, createdAt := o.now }] })
  | inviteTarget {c actor userId now} :
      Leads (.inviteTarget c actor userId now) (.inviteInsert c actor userId now)
  | inviteMember {c actor userId now} (hmember : Member v.toDatabase c userId) :
      Leads (.inviteInsert c actor userId now) (.written none)
  | inviteInsert {c actor userId now} (hnew : ¬ Member v.toDatabase c userId) :
      Leads (.inviteInsert c actor userId now)
        (.written (some (.insertMember { channelId := c, userId := userId,
                                         invitedBy := some actor, createdAt := now })))
  | removeRow {c userId} (hrow : v.HasRow c userId fun cm => cm.membershipRole ≠ .owner) :
      Leads (.removeRow c userId) (.written (some (.deleteMember c userId true)))
  | leaveRow {c userId} (hmember : Member v.toDatabase c userId) :
      Leads (.leaveRow c userId) (.written (some (.deleteMember c userId false)))
  | leftBefore {c userId} (hgone : ¬ Member v.toDatabase c userId) :
      Leads (.leaveRow c userId) (.written none)
  | changeRole {c userId old new} (hrow : v.HasRow c userId fun cm => cm.membershipRole = old) :
      Leads (.changeRole c userId old new) (.written (some (.changeRole c userId old new)))
  | transferMember {c actor target} (hmember : Member v.toDatabase c target) :
      Leads (.transferMember c actor target) (.transferOwner c actor target)
  | transferOwner {c actor target} :
      Leads (.transferOwner c actor target) (.transferActor c actor target)
  | transferActor {c actor target} :
      Leads (.transferActor c actor target)
        (.transferTarget c actor target (decide (Member v.toDatabase c actor)))
  | transferTarget {c actor target hit} :
      Leads (.transferTarget c actor target hit)
        (.transferred c actor target hit (decide (Member v.toDatabase c target)))
  | linkChannel {actor name request tokenHash now c} (hlive : v.liveChannel? name = some c) :
      Leads (.linkChannel actor name request tokenHash now)
        (.linkAccess c actor name request tokenHash now)
  | linkAccess {c actor name request tokenHash now}
      (huses : 0 ≤ request.maxUses.getD 0 ∧ request.maxUses.getD 0 ≤ 100000) :
      Leads (.linkAccess c actor name request tokenHash now)
        (.insertLink { channelId := c.id, expiresAt := request.expiresAt,
                       maxUses := request.maxUses.getD 0, uses := 0, tokenHash := tokenHash,
                       createdBy := actor.id })
  | insertLink {row} (hnew : ∀ l ∈ v.inviteLinks, l.tokenHash ≠ row.tokenHash) :
      Leads (.insertLink row) (.written (some (.insertLink row)))
  | acceptBan {c tokenHash actor now} (hfree : ¬ Banned v.toDatabase now actor c) :
      Leads (.acceptBan c tokenHash actor now) (.acceptMember c tokenHash actor now)
  | acceptedBefore {c tokenHash actor now} (hmember : Member v.toDatabase c actor) :
      Leads (.acceptMember c tokenHash actor now) (.accepted c tokenHash actor now false)
  | acceptMember {c tokenHash actor now} (hnew : ¬ Member v.toDatabase c actor) :
      Leads (.acceptMember c tokenHash actor now) (.acceptInsert c tokenHash actor now)
  | acceptInsert {c tokenHash actor now} (hnew : ¬ Member v.toDatabase c actor) :
      Leads (.acceptInsert c tokenHash actor now) (.acceptUse c tokenHash actor now)
  | acceptUse {c tokenHash actor now} :
      Leads (.acceptUse c tokenHash actor now) (.accepted c tokenHash actor now true)
  | archive {c now} :
      Leads (.channelState c .archive now)
        (.written (some (.setArchived c.id (some (c.archivedAt.getD now)))))
  | restore {c now} :
      Leads (.channelState c .restore now) (.written (some (.setArchived c.id none)))
  | deleteChannel {c now} :
      Leads (.channelState c .delete now) (.written (some (.deleteChannel c.id now)))
  | undelete {c now} (hrestorable : v.Restorable c) :
      Leads (.channelState c .undelete now) (.written (some (.undelete c.id c.directKey)))

end Leads

/-- The programs that are about to commit. -/
inductive Stage.Final : Stage → Prop
  | createdPrivate {id actor name now} : Final (.createdPrivate id actor name now)
  | enroll {o} (htodo : o.todo = []) : Final (.enroll o)
  | transferred {c actor target hit hit'} : Final (.transferred c actor target hit hit')
  | accepted {c tokenHash actor now joined} : Final (.accepted c tokenHash actor now joined)
  | written {w} : Final (.written w)

/-- What can come of a statement. -/
inductive Outcome (E : Env) (v : Tables) (p : Stage) : Next Stage Lock → Prop
  | fail : Outcome E v p .fail
  | commit (h : p.Final) : Outcome E v p .commit
  | goto {needs p'} (h : p.Leads E v p') : Outcome E v p (.goto needs p')

section Outcomes

variable {E : Env} {v : Tables} {p : Stage}

lemma outcome_ensure {α : Type} {check : Except AppError α} {f : α → Next Stage Lock}
    (h : ∀ a, check = .ok a → Outcome E v p (f a)) : Outcome E v p (ensure check f) := by
  cases hcheck : check with
  | ok a => exact h a hcheck
  | error e => exact .fail

lemma outcome_require {q : Prop} [Decidable q] {x : Next Stage Lock}
    (h : q → Outcome E v p x) : Outcome E v p (require q x) := by
  by_cases hq : q
  · rw [require, if_pos hq]
    exact h hq
  · rw [require, if_neg hq]
    exact .fail

/-- The first statement. -/
lemma outcome_request (op : Op) : Outcome E v (.request op) (op.next E v) := by
  cases op with
  | createPublic id actor rawName now =>
      exact outcome_ensure fun _ _ => outcome_ensure fun _ _ => outcome_ensure fun _ hname =>
        .goto (.request (.createPublic hname))
  | createPrivate id actor rawName now =>
      exact outcome_ensure fun _ _ => outcome_ensure fun _ _ => outcome_ensure fun _ hname =>
        .goto (.request (.createPrivate hname))
  | openDirect id actor target now =>
      exact outcome_ensure fun _ _ => outcome_ensure fun _ _ => outcome_require fun hne =>
        .goto (.request (.openDirect hne))
  | inviteMember actor channel userId now =>
      exact outcome_ensure fun _ _ => outcome_ensure fun _ howned =>
        .goto (.request (.inviteMember howned))
  | removeMember actor channel userId =>
      exact outcome_ensure fun _ _ => outcome_ensure fun _ howned =>
        .goto (.request (.removeMember howned))
  | leaveChannel actor name =>
      refine outcome_ensure fun _ _ => ?_
      split
      · exact .fail
      · rename_i c cm hjoin
        obtain ⟨c', hlive, hrow⟩ := Option.bind_eq_some_iff.mp hjoin
        obtain ⟨cm', hfind, hpair⟩ := Option.map_eq_some_iff.mp hrow
        obtain ⟨rfl, rfl⟩ := Prod.mk.inj hpair
        exact outcome_require fun _ => outcome_require fun howner =>
          .goto (.request (.leaveChannel hlive (List.mem_of_find?_eq_some hfind) howner))
  | promote actor name userId =>
      exact outcome_ensure fun _ hmanager => .goto (.request (.promote hmanager))
  | demote actor name userId =>
      exact outcome_ensure fun _ hmanager => .goto (.request (.demote hmanager))
  | transfer actor name userId =>
      refine outcome_ensure fun _ _ => ?_
      split
      · exact .fail
      · rename_i c hlive
        exact outcome_require fun howner => outcome_require fun hne =>
          .goto (.request (.transfer hlive howner hne))
  | createLink actor name request token now =>
      exact outcome_ensure fun _ _ => outcome_ensure fun _ _ => .goto (.request .createLink)
  | acceptLink actor token now =>
      refine outcome_ensure fun _ _ => outcome_require fun _ => ?_
      split
      · exact .fail
      · rename_i l c hjoin
        obtain ⟨l', hlink, hchannel⟩ := Option.bind_eq_some_iff.mp hjoin
        obtain ⟨c', hfind, hpair⟩ := Option.map_eq_some_iff.mp hchannel
        obtain ⟨rfl, rfl⟩ := Prod.mk.inj hpair
        have hhash := List.find?_some hlink
        have hwhere := List.find?_some hfind
        obtain ⟨hid, hlive⟩ := of_decide_eq_true hwhere
        refine outcome_require fun hallowed => .goto (.request (.acceptLink
          (List.mem_of_find?_eq_some hlink) (of_decide_eq_true hhash)
          (List.mem_of_find?_eq_some hfind) hid hlive (fun e he => ?_) fun hlimited => ?_))
        · exact lt_of_not_ge fun hle => hallowed (Or.inl ⟨e, he, hle⟩)
        · exact lt_of_not_ge fun hle => hallowed (Or.inr ⟨hlimited, hle⟩)
  | deleteChannel actor rawName now =>
      refine outcome_ensure fun _ _ => outcome_ensure fun _ hname => outcome_require fun hmain => ?_
      split
      · exact .fail
      · rename_i c hlive
        exact .goto (.request (.deleteChannel hname hmain hlive))
  | channelState actor id action now =>
      refine outcome_ensure fun _ _ => ?_
      split
      · exact .fail
      · rename_i c hfind
        have hid := List.find?_some hfind
        obtain rfl : c.id = id := of_decide_eq_true hid
        exact outcome_require fun hmain =>
          .goto (.request (.channelState (List.mem_of_find?_eq_some hfind) hmain))

/-- **Every statement** fails, commits, or leads on. -/
theorem outcome_next (E : Env) (p : Stage) (v : Tables) : Outcome E v p (p.next E v) := by
  cases p with
  | request op => exact outcome_request op
  | upsert id name now =>
      rw [Stage.next]
      split
      · rename_i hnone
        refine outcome_require fun hid => .goto (.upsertNew fun c hc => ⟨hid c hc, fun hname => ?_⟩)
        exact List.find?_eq_none.mp hnone c hc (decide_eq_true hname)
      · rename_i c hfind
        exact outcome_require fun hback =>
          .goto (.upsertDeleted (List.mem_of_find?_eq_some hfind) hback.2)
  | insertPrivate id actor name now =>
      exact outcome_require fun hfresh => .goto (.insertPrivate hfresh)
  | insertOwner id actor name now => exact .goto .insertOwner
  | createdPrivate id actor name now => exact .commit .createdPrivate
  | findTarget id actor target now => exact outcome_require fun _ => .goto .findTarget
  | insertDirect id actor target now =>
      simp only [Stage.next]
      split
      · exact .goto .conflictDirect
      · rename_i hnone
        refine outcome_require fun hfresh => .goto (.insertDirect (fun c hc hdirect => ?_) hfresh)
        exact List.find?_eq_none.mp hnone c hc (decide_eq_true hdirect)
  | lookupDirect actor target now =>
      simp only [Stage.next]
      split
      · exact .fail
      · rename_i c hfind
        have hwhere := List.find?_some hfind
        exact .goto (.lookupDirect (List.mem_of_find?_eq_some hfind) (of_decide_eq_true hwhere))
  | enroll o =>
      rw [Stage.next]
      split
      · rename_i htodo
        exact .commit (.enroll htodo)
      · rename_i userId rest htodo
        split
        · rename_i hmember
          exact .goto (.enrolled htodo hmember)
        · rename_i hnew
          exact .goto (.enroll htodo hnew)
  | inviteTarget c actor userId now => exact outcome_require fun _ => .goto .inviteTarget
  | inviteInsert c actor userId now =>
      rw [Stage.next]
      split
      · rename_i hmember
        exact .goto (.inviteMember hmember)
      · rename_i hnew
        exact .goto (.inviteInsert hnew)
  | removeRow c userId => exact outcome_require fun hrow => .goto (.removeRow hrow)
  | leaveRow c userId =>
      rw [Stage.next]
      split
      · rename_i hmember
        exact .goto (.leaveRow hmember)
      · rename_i hgone
        exact .goto (.leftBefore hgone)
  | changeRole c userId old new => exact outcome_require fun hrow => .goto (.changeRole hrow)
  | transferMember c actor target =>
      exact outcome_require fun hmember => .goto (.transferMember hmember)
  | transferOwner c actor target => exact .goto .transferOwner
  | transferActor c actor target => exact .goto .transferActor
  | transferTarget c actor target hit => exact .goto .transferTarget
  | transferred c actor target hit hit' => exact .commit .transferred
  | linkChannel actor name request tokenHash now =>
      rw [Stage.next]
      split
      · exact .fail
      · rename_i c hlive
        exact .goto (.linkChannel hlive)
  | linkAccess c actor name request tokenHash now =>
      exact outcome_ensure fun _ _ => outcome_require fun _ => outcome_require fun huses =>
        outcome_require fun _ => .goto (.linkAccess huses)
  | insertLink row => exact outcome_require fun hnew => .goto (.insertLink hnew)
  | acceptBan c tokenHash actor now => exact outcome_require fun hfree => .goto (.acceptBan hfree)
  | acceptMember c tokenHash actor now =>
      rw [Stage.next]
      split
      · rename_i hmember
        exact .goto (.acceptedBefore hmember)
      · rename_i hnew
        exact .goto (.acceptMember hnew)
  | acceptInsert c tokenHash actor now =>
      exact outcome_require fun hnew => .goto (.acceptInsert hnew)
  | acceptUse c tokenHash actor now => exact .goto .acceptUse
  | accepted c tokenHash actor now joined => exact .commit .accepted
  | channelState c action now =>
      cases action with
      | archive => exact .goto .archive
      | restore => exact .goto .restore
      | delete => exact .goto .deleteChannel
      | undelete => exact outcome_require fun hrestorable => .goto (.undelete hrestorable)
  | written w => exact .commit .written

/-- A statement that leads on. -/
lemma leads_of_next {needs : List Lock} {p' : Stage} (h : p.next E v = .goto needs p') :
    p.Leads E v p' := by
  have houtcome := outcome_next E p v
  rw [h] at houtcome
  cases houtcome with
  | goto hleads => exact hleads

/-- A program that commits. -/
lemma final_of_next (h : p.next E v = .commit) : p.Final := by
  have houtcome := outcome_next E p v
  rw [h] at houtcome
  cases houtcome with
  | commit hfinal => exact hfinal

end Outcomes

end Vussa.Members
