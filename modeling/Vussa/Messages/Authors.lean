import Vussa.Lib.Faults
import Vussa.Sockets.SessionEnd
import Vussa.Sockets.Forwarding

/-!
Who can edit and delete a message. A row stores the user who sent it and the session it was sent
from; `edit_message` and `delete_message` compare the session alone.

* `credentials`: the sessions in use, in a key, in a call of `update_account` or on an open socket,
  with their users; `credentials_step`: only a login adds one;
* `Signed`, `Authored`: the invariant, that a message was sent from a session of the user it names;
* `Rights`: the author can edit and delete a message, and nobody else can but moderators;
* `rights_iff`: **in every run** a session of the author has these rights iff it is the session
  that sent the message;
* `not_rights_relogin`: an author who logs in again.
-/

namespace Vussa

open Effect Faults

namespace Server

/-! ### Sessions and their users -/

/-- The sessions that have a key, a call of `update_account` under way or an open socket, with their
users. -/
def credentials (s : Server) : List (Uuid × Uuid) :=
  s.sessions.map (fun p => (p.1, p.2.id)) ++ s.renamings.map (fun r => (r.session, r.user.id)) ++
    s.sockets.map fun k => (k.session, k.user.id)

lemma mem_credentials_key {s : Server} {p : Uuid × AuthUser} (h : p ∈ s.sessions) :
    (p.1, p.2.id) ∈ s.credentials :=
  List.mem_append_left _ (List.mem_append_left _ (List.mem_map.mpr ⟨p, h, rfl⟩))

lemma mem_credentials_session {s : Server} {session : Uuid} {user : AuthUser}
    (h : s.user? session = some user) : (session, user.id) ∈ s.credentials := by
  rw [user?, List.lookup_eq_some_iff] at h
  obtain ⟨l, l', hsplit, -⟩ := h
  refine mem_credentials_key (p := (session, user)) ?_
  rw [hsplit]
  exact List.mem_append_right _ List.mem_cons_self

lemma mem_credentials_renaming {s : Server} {r : Renaming} (h : r ∈ s.renamings) :
    (r.session, r.user.id) ∈ s.credentials :=
  List.mem_append_left _ (List.mem_append_right _ (List.mem_map.mpr ⟨r, h, rfl⟩))

lemma mem_credentials_socket {s : Server} {k : Socket} (h : k ∈ s.sockets) :
    (k.session, k.user.id) ∈ s.credentials :=
  List.mem_append_right _ (List.mem_map.mpr ⟨k, h, rfl⟩)

/-- A user acts from a session that has a key, or on a socket that was opened on it. -/
def Acts (s : Server) (session : Uuid) (user : AuthUser) : Prop :=
  s.user? session = some user ∨ ∃ k ∈ s.sockets, k.session = session ∧ k.user = user

lemma Acts.mem_credentials {s : Server} {session : Uuid} {user : AuthUser}
    (h : s.Acts session user) : (session, user.id) ∈ s.credentials := by
  rcases h with hkey | ⟨k, hk, rfl, rfl⟩
  · exact mem_credentials_session hkey
  · exact mem_credentials_socket hk

/-- Keys, calls and sockets whose sessions were in use in another state. -/
lemma credentials_subset {s s' : Server}
    (hsessions : ∀ p ∈ s'.sessions, (p.1, p.2.id) ∈ s.credentials)
    (hrenamings : ∀ r ∈ s'.renamings, (r.session, r.user.id) ∈ s.credentials)
    (hsockets : ∀ k ∈ s'.sockets, (k.session, k.user.id) ∈ s.credentials) :
    s'.credentials ⊆ s.credentials := by
  intro x hx
  rcases List.mem_append.mp hx with hx | hx
  · rcases List.mem_append.mp hx with hx | hx
    · obtain ⟨p, hp, rfl⟩ := List.mem_map.mp hx
      exact hsessions p hp
    · obtain ⟨r, hr, rfl⟩ := List.mem_map.mp hx
      exact hrenamings r hr
  · obtain ⟨k, hk, rfl⟩ := List.mem_map.mp hx
    exact hsockets k hk

/-- Fewer of each. -/
lemma credentials_fewer {s s' : Server} (hsessions : s'.sessions ⊆ s.sessions)
    (hrenamings : s'.renamings ⊆ s.renamings) (hsockets : s'.sockets ⊆ s.sockets) :
    s'.credentials ⊆ s.credentials :=
  credentials_subset (fun _ hp => mem_credentials_key (hsessions hp))
    (fun _ hr => mem_credentials_renaming (hrenamings hr))
    fun _ hk => mem_credentials_socket (hsockets hk)

/-- A change of the sockets that leaves their sessions and users. -/
lemma credentials_sockets {s s' : Server} {f : Socket → Socket} (hsessions : s'.sessions = s.sessions)
    (hrenamings : s'.renamings = s.renamings) (hsockets : s'.sockets = s.sockets.map f)
    (hf : ∀ k, (f k).session = k.session ∧ (f k).user = k.user) :
    s'.credentials ⊆ s.credentials := by
  refine credentials_subset (fun p hp => mem_credentials_key (hsessions ▸ hp))
    (fun r hr => mem_credentials_renaming (hrenamings ▸ hr)) fun k' hk' => ?_
  rw [hsockets] at hk'
  obtain ⟨k, hk, rfl⟩ := List.mem_map.mp hk'
  rw [(hf k).1, (hf k).2]
  exact mem_credentials_socket hk

/-- A change of one socket that leaves its session and user. -/
lemma credentials_updateSocket (s : Server) (id : ℕ) {f : Socket → Socket}
    (hf : ∀ k, (f k).session = k.session ∧ (f k).user = k.user) :
    (s.updateSocket id f).credentials ⊆ s.credentials := by
  refine credentials_sockets rfl rfl rfl fun k => ?_
  split
  · exact hf k
  · exact ⟨rfl, rfl⟩

lemma credentials_close (s : Server) (k : Socket) (channel : String) :
    (s.close k channel).credentials ⊆ s.credentials :=
  credentials_fewer (List.Subset.refl _) (List.Subset.refl _) (List.filter_subset_self _)

lemma credentials_hangUp (s : Server) (k : Socket) : (s.hangUp k).credentials ⊆ s.credentials := by
  have hremove : (s.removeSocket k).credentials ⊆ s.credentials :=
    credentials_fewer (List.Subset.refl _) (List.Subset.refl _) (List.filter_subset_self _)
  rw [hangUp]
  split
  · exact hremove
  · exact hremove
  · exact List.Subset.refl _
  · exact s.credentials_close k _
  · exact s.credentials_close k _
  · exact s.credentials_close k _

lemma credentials_proceed (s : Server) (k : Socket) : (s.proceed k).credentials ⊆ s.credentials := by
  rw [proceed]
  split
  · exact List.Subset.refl _
  · exact credentials_updateSocket (s.exec _) k.id fun _ => ⟨rfl, rfl⟩
  · exact s.credentials_updateSocket k.id fun _ => ⟨rfl, rfl⟩
  · exact credentials_updateSocket (s.exec _) k.id fun _ => ⟨rfl, rfl⟩

lemma credentials_onClient (U : Unicode) (s : Server) (k : Socket) (event : ClientEvent)
    (fresh : Fresh) : (s.onClient U k event fresh).credentials ⊆ s.credentials := by
  rw [onClient]
  split
  · rename_i r shared _
    dsimp only
    split
    · exact credentials_updateSocket { s with shared := shared } k.id fun _ => ⟨rfl, rfl⟩
    · exact List.Subset.refl _
  · rename_i e shared _
    dsimp only
    split
    · exact credentials_close { s with shared := shared } k _
    · exact List.Subset.refl _

lemma credentials_receive (s : Server) (replica : ℕ) :
    (s.receive replica).credentials ⊆ s.credentials := by
  rw [receive]
  split
  · exact List.Subset.refl _
  · split
    · refine credentials_sockets rfl rfl rfl fun k => ?_
      split
      · exact ⟨rfl, rfl⟩
      · exact ⟨rfl, rfl⟩
    · exact List.Subset.refl _

/-- A call of `update_account` keeps the session and the user it loaded. -/
lemma credentials_saveName (U : Unicode) (s : Server) {n : ℕ} {r : Renaming}
    (hr : s.renamings[n]? = some r) : (s.saveName U n r).credentials ⊆ s.credentials := by
  have hmem := List.mem_of_getElem? hr
  rw [saveName]
  split
  · refine credentials_subset (fun p hp => mem_credentials_key hp) (fun r' hr' => ?_)
      fun k hk => mem_credentials_socket hk
    rcases List.mem_or_eq_of_mem_set hr' with hold | rfl
    · exact mem_credentials_renaming hold
    · exact (mem_credentials_renaming hmem : (r.session, r.user.id) ∈ s.credentials)
  · exact credentials_fewer (List.Subset.refl _) (fun _ h => List.mem_of_mem_eraseIdx h)
      (List.Subset.refl _)

/-- The `HSET` of a call writes the user that the call loaded, under the session it loaded. -/
lemma credentials_writeUser (s : Server) {n : ℕ} {r : Renaming} (hr : s.renamings[n]? = some r)
    (name : String) :
    (Server.writeUser { s with renamings := s.renamings.eraseIdx n } r.session
      { r.user with username := name }).credentials ⊆ s.credentials := by
  rw [writeUser]
  split
  · refine credentials_subset (fun p hp => ?_)
      (fun _ h => mem_credentials_renaming (List.mem_of_mem_eraseIdx h))
      fun k hk => mem_credentials_socket hk
    obtain ⟨q, hq, rfl⟩ := List.mem_map.mp hp
    split
    · rename_i hsession
      rw [hsession]
      exact mem_credentials_renaming (List.mem_of_getElem? hr)
    · exact mem_credentials_key hq
  · exact credentials_fewer (List.Subset.refl _) (fun _ h => List.mem_of_mem_eraseIdx h)
      (List.Subset.refl _)

/-- Only a login adds a session, under an identifier that was not drawn before. -/
lemma credentials_step (U : Unicode) (s : Server) (a : Act) :
    (∃ session user, a = .login session user ∧ session ∉ s.issued ∧
      s.step U a = s.createSession session user) ∨
    ((s.step U a).issued = s.issued ∧ (s.step U a).credentials ⊆ s.credentials) := by
  have hsame : s.issued = s.issued ∧ s.credentials ⊆ s.credentials := ⟨rfl, List.Subset.refl _⟩
  have hdelete : ∀ {s' : Server} {p : Uuid × AuthUser → Bool}, s'.issued = s.issued →
      s'.sessions = s.sessions.filter p → s'.renamings = s.renamings → s'.sockets = s.sockets →
        s'.issued = s.issued ∧ s'.credentials ⊆ s.credentials := by
    intro s' p hissued hsessions hrenamings hsockets
    refine ⟨hissued, credentials_fewer ?_ (fun _ h => hrenamings ▸ h) fun _ h => hsockets ▸ h⟩
    rw [hsessions]
    exact List.filter_subset_self _
  cases a with
  | login session user =>
      by_cases hissued : session ∈ s.issued
      · rw [step, if_pos hissued]
        exact .inr hsame
      · rw [step, if_neg hissued]
        exact .inl ⟨session, user, rfl, hissued, rfl⟩
  | logout session =>
      rw [step]
      split
      · exact .inr hsame
      · exact .inr (hdelete rfl rfl rfl rfl)
  | updateAccount session username =>
      rw [step]
      split
      · exact .inr hsame
      · rename_i user huser
        refine .inr ⟨rfl, credentials_subset (fun p hp => mem_credentials_key hp) (fun r hr => ?_)
          fun k hk => mem_credentials_socket hk⟩
        rcases List.mem_append.mp hr with hr | hr
        · exact mem_credentials_renaming hr
        · rw [List.mem_singleton.mp hr]
          exact mem_credentials_session huser
  | saveUsername n =>
      rw [step]
      split
      · exact .inr hsame
      · rename_i r hr
        split
        · exact .inr hsame
        · exact .inr ⟨(saveName_sessions U s n r).2, credentials_saveName U s hr⟩
  | writeSession n =>
      rw [step]
      split
      · exact .inr hsame
      · rename_i r hr
        split
        · exact .inr hsame
        · exact .inr ⟨(writeUser_keys _ _ _).1, s.credentials_writeUser hr _⟩
  | listSessions session =>
      rw [step]
      split
      · exact .inr hsame
      · exact .inr hsame
  | revokeSession session target =>
      rw [step]
      split
      · exact .inr hsame
      · split
        · exact .inr hsame
        · exact .inr (hdelete rfl rfl rfl rfl)
  | changePassword session =>
      rw [step]
      split
      · exact .inr hsame
      · exact .inr (hdelete rfl rfl rfl rfl)
  | deleteAccount session =>
      rw [step]
      split
      · exact .inr hsame
      · exact .inr (hdelete rfl rfl rfl rfl)
  | authInvalidate userId => exact .inr (hdelete rfl rfl rfl rfl)
  | expireSession session => exact .inr (hdelete rfl rfl rfl rfl)
  | request session request fresh =>
      rw [step]
      split
      · exact .inr hsame
      · exact .inr hsame
  | connect id replica session =>
      rw [step]
      split
      · exact .inr hsame
      · rename_i user huser
        split
        · exact .inr hsame
        · refine .inr ⟨rfl, credentials_subset (fun p hp => mem_credentials_key hp)
            (fun r hr => mem_credentials_renaming hr) fun k hk => ?_⟩
          rcases List.mem_append.mp hk with hk | hk
          · exact mem_credentials_socket hk
          · rw [List.mem_singleton.mp hk]
            exact mem_credentials_session huser
  | proceed id =>
      rw [step]
      split
      · exact .inr hsame
      · exact .inr ⟨(proceed_sessions s _).2, s.credentials_proceed _⟩
  | client id event fresh =>
      rw [step]
      split
      · exact .inr hsame
      · split
        · exact .inr ⟨(onClient_sessions U s _ event fresh).2,
            s.credentials_onClient U _ event fresh⟩
        · exact .inr hsame
  | receive replica =>
      refine .inr ⟨?_, s.credentials_receive replica⟩
      rw [step, receive]
      split
      · rfl
      · split
        · rfl
        · rfl
  | lose replica => exact .inr hsame
  | forward id =>
      exact .inr ⟨rfl, s.credentials_updateSocket id fun k => by split <;> exact ⟨rfl, rfl⟩⟩
  | lag id =>
      exact .inr ⟨rfl, s.credentials_updateSocket id fun k => by split <;> exact ⟨rfl, rfl⟩⟩
  | disconnect id =>
      rw [step]
      split
      · exact .inr hsame
      · exact .inr ⟨(hangUp_sessions s _).2, s.credentials_hangUp _⟩
  | resetRate userId => exact .inr hsame
  | wait millis => exact .inr hsame

end Server

/-! ### Senders -/

/-- The row was sent from a session of the user it names, or by the system. -/
def Signed (owner : Uuid → Uuid) (issued : List Uuid) (m : MessageRow) : Prop :=
  (m.ownerUserId = none ∧ m.ownerSession = Uuid.nil) ∨
    ∃ u, m.ownerUserId = some u ∧ m.ownerSession ∈ issued ∧ owner m.ownerSession = u

/-- All rows were. -/
def SignedRows (owner : Uuid → Uuid) (issued : List Uuid) (s : Shared) : Prop :=
  ∀ m ∈ s.db.messages, Signed owner issued m

/-- Every row of the second tables has the senders of a row of the first. -/
def SameSenders (db db' : Database) : Prop :=
  ∀ m' ∈ db'.messages, ∃ m ∈ db.messages,
    m'.ownerSession = m.ownerSession ∧ m'.ownerUserId = m.ownerUserId

section Senders

variable {owner : Uuid → Uuid} {issued : List Uuid} {s s' : Shared}

lemma sameSenders_of_eq {db db' : Database} (h : db'.messages = db.messages) :
    SameSenders db db' :=
  fun m hm => ⟨m, h ▸ hm, rfl, rfl⟩

lemma sameSenders_updateMessage (db : Database) (id : Uuid) {f : MessageRow → MessageRow}
    (hf : ∀ m, (f m).ownerSession = m.ownerSession ∧ (f m).ownerUserId = m.ownerUserId) :
    SameSenders db (db.updateMessage id f) := by
  intro m' hm'
  obtain ⟨m, hm, rfl⟩ := List.mem_map.mp hm'
  refine ⟨m, hm, ?_⟩
  split
  · exact hf m
  · exact ⟨rfl, rfl⟩

lemma SignedRows.of_sameSenders (h : SignedRows owner issued s) (hsame : SameSenders s.db s'.db) :
    SignedRows owner issued s' := by
  intro m' hm'
  obtain ⟨m, hm, hsession, huser⟩ := hsame m' hm'
  rw [Signed, hsession, huser]
  exact h m hm

/-- One more row. -/
lemma SignedRows.append (h : SignedRows owner issued s) {row : MessageRow}
    (hrow : Signed owner issued row) (hmessages : s'.db.messages = s.db.messages ++ [row]) :
    SignedRows owner issued s' := by
  intro m hm
  rw [hmessages] at hm
  rcases List.mem_append.mp hm with hm | hm
  · exact h m hm
  · rw [List.mem_singleton.mp hm]
    exact hrow

lemma signed_savedRow (c : ChannelRow) (message : ChatMessage) {session user : Uuid}
    (hissued : session ∈ issued) (howner : owner session = user) :
    Signed owner issued (savedRow c message session user) :=
  Or.inr ⟨user, rfl, hissued, howner⟩

lemma stable_signedRows : Stable (SignedRows owner issued) where
  quiet _ _ hq h := h.of_sameSenders (sameSenders_of_eq hq.messages)
  notice notice channel text := by
    refine preserves_publishSystemMessage notice channel text (fun _ _ h => h) ?_
    exact fun s c h _ _ => h.append (Or.inl ⟨rfl, rfl⟩) rfl
  page _ _ _ h := h
  refresh _ _ h := h

lemma sameSenders_moderate {b b' : Backend} {actor id : Uuid} {action : Moderation}
    {reason : Option String} {message : Option ChatMessage}
    (h : b.moderateMessage actor id action reason = .ok (b', message)) :
    SameSenders b.db b'.db := by
  obtain ⟨db, hmod, hb⟩ := Backend.moderateMessage_ok h
  obtain ⟨audit, rfl⟩ := adminModerateMessage_ok hmod
  have hsame := sameSenders_updateMessage b.db id
    (f := MessageRow.moderate b.now actor reason action) fun m => by
      cases action <;> exact ⟨rfl, rfl⟩
  rcases hb with rfl | ⟨name, rfl⟩
  · exact hsame
  · exact hsame

lemma SameSenders.trans {db db' db'' : Database} (h : SameSenders db db')
    (h' : SameSenders db' db'') : SameSenders db db'' := by
  intro m'' hm''
  obtain ⟨m', hm', hsession', huser'⟩ := h' m'' hm''
  obtain ⟨m, hm, hsession, huser⟩ := h m' hm'
  exact ⟨m, hm, hsession'.trans hsession, huser'.trans huser⟩

lemma sameSenders_bulkModerate (db : Database) (actor : AuthUser) (action : Moderation)
    (reason : Option String) (now : Millis) (ids : List Uuid) :
    SameSenders db (bulkModerate actor action reason now ids db).1 := by
  refine bulkModerate_induct (P := SameSenders db) (fun db' id _ h => h.trans ?_) ids db
    (sameSenders_of_eq rfl)
  exact sameSenders_updateMessage db' id (f := MessageRow.moderate now actor.id reason action)
    fun m => by cases action <;> exact ⟨rfl, rfl⟩

/-- A request leaves the senders. -/
lemma sameSenders_request {U : Unicode} {fresh : Fresh} {user : AuthUser} {request : Request}
    (hw : Write U fresh user s request s') : SameSenders s.db s'.db := by
  cases hw with
  | createChannel _ _ _ hok =>
      refine sameSenders_of_eq ?_
      rcases Database.upsertChannel_ok hok with ⟨-, -, rfl⟩ | ⟨c, -, -, -, -, rfl⟩
      · rfl
      · rfl
  | createPrivateChannel _ _ _ hok =>
      obtain ⟨-, rfl⟩ := insertPrivateChannel_ok hok
      exact sameSenders_of_eq (by simp)
  | openDirect _ _ hok =>
      obtain ⟨c, -, -, -, ⟨-, rfl⟩ | ⟨-, -, -, rfl⟩⟩ := insertDirect_ok hok
      · exact sameSenders_of_eq (by simp)
      · exact sameSenders_of_eq (by simp)
  | inviteMember _ hok =>
      rcases insertMember_ok hok with ⟨-, rfl⟩ | ⟨-, rfl⟩
      · exact sameSenders_of_eq rfl
      · exact sameSenders_of_eq (by simp)
  | removeMember _ _ hok =>
      obtain rfl := deleteMember_ok hok
      exact sameSenders_of_eq rfl
  | leaveChannel _ hok =>
      obtain ⟨c, -, -, -, rfl⟩ := deleteOwnMembership_ok hok
      exact sameSenders_of_eq rfl
  | adminCreateChannel _ _ _ hok =>
      refine sameSenders_of_eq ?_
      rcases Database.upsertChannel_ok hok with ⟨-, -, rfl⟩ | ⟨c, -, -, -, -, rfl⟩
      · rfl
      · rfl
  | adminUpdateChannel _ hok =>
      obtain ⟨c, name, -, -, -, -, -, rfl⟩ := updateChannelRow_ok hok
      exact sameSenders_of_eq rfl
  | adminChannelState _ hok =>
      obtain rfl := setChannelState_ok hok
      exact sameSenders_of_eq rfl
  | adminCreateBan _ hok =>
      obtain ⟨row, -, -, rfl⟩ := insertBan_ok hok
      exact sameSenders_of_eq rfl
  | adminRevokeBan hok =>
      obtain ⟨target, rfl⟩ := updateBan_ok hok
      exact sameSenders_of_eq rfl
  | adminModerateMessage hok => exact sameSenders_moderate hok
  | promoteModerator hok =>
      obtain ⟨f, -, rfl⟩ := changeRole_ok hok
      exact sameSenders_of_eq rfl
  | demoteModerator hok =>
      obtain ⟨f, -, rfl⟩ := changeRole_ok hok
      exact sameSenders_of_eq rfl
  | transferOwnership _ hok =>
      obtain ⟨c, f, -, -, rfl⟩ := transferOwnership_ok hok
      exact sameSenders_of_eq rfl
  | acceptInviteLink _ hok =>
      rcases useInviteLink_ok hok with rfl | ⟨row, rfl⟩
      · exact sameSenders_of_eq rfl
      · exact sameSenders_of_eq (by simp)
  | adminBulkModerate => exact sameSenders_bulkModerate _ _ _ _ _ _

/-- An event leaves the senders, but for the message it sends. -/
lemma SignedRows.event {U : Unicode} {fresh : Fresh} {user : AuthUser} {session : Uuid}
    {channel : String} {event : ClientEvent} (h : SignedRows owner issued s)
    (hsession : session ∈ issued ∧ owner session = user.id)
    (hw : EventWrite U fresh user session channel s event s') : SignedRows owner issued s' := by
  cases hw with
  | service hrequest hw => exact h.of_sameSenders (sameSenders_request hw)
  | deleteChannel _ _ _ hok =>
      obtain ⟨c, -, rfl⟩ := deleteChannel_ok hok
      exact h.of_sameSenders (sameSenders_of_eq rfl)
  | sendMessage hok =>
      obtain ⟨db, hsave, rfl⟩ := Backend.postMessage_ok hok
      obtain ⟨c, links, -, -, rfl⟩ := saveMessage_ok hsave
      exact h.append (signed_savedRow c _ hsession.1 hsession.2) rfl
  | editMessage hok =>
      obtain ⟨db, hedit, rfl⟩ := Backend.editMessage_ok hok
      obtain ⟨c, row, -, -, rfl, -⟩ := editMessage_ok hedit
      exact h.of_sameSenders (sameSenders_updateMessage _ _ fun _ => ⟨rfl, rfl⟩)
  | deleteMessage hok =>
      obtain ⟨db, hdel, rfl⟩ := Backend.deleteMessage_ok hok
      obtain ⟨c, row, -, -, rfl, -⟩ := deleteMessage_ok hdel
      exact h.of_sameSenders (sameSenders_updateMessage _ _ fun _ => ⟨rfl, rfl⟩)

end Senders

/-! ### Runs -/

namespace Server

/-- The invariant: the tables keep their keys, every session has one user, and every message was
sent from a session of the user it names. -/
structure Authored (owner : Uuid → Uuid) (s : Server) : Prop where
  wellFormed : s.shared.db.WellFormed
  rows : SignedRows owner s.issued s.shared
  owners : ∀ x ∈ s.credentials, x.1 ∈ s.issued ∧ owner x.1 = x.2
  nil : Uuid.nil ∉ s.issued

variable {owner : Uuid → Uuid} {s : Server}

/-- A login gives its session an owner. -/
lemma Authored.login (h : Authored owner s) {session : Uuid} (user : AuthUser)
    (hissued : session ∉ s.issued) (hnil : session ≠ Uuid.nil) :
    Authored (Function.update owner session user.id) (s.createSession session user) := by
  have hold : ∀ i ∈ s.issued, Function.update owner session user.id i = owner i :=
    fun i hi => Function.update_of_ne (ne_of_mem_of_not_mem hi hissued) _ _
  refine ⟨h.wellFormed, fun m hm => ?_, fun x hx => ?_, fun hmem => ?_⟩
  · refine (h.rows m hm).imp_right fun ⟨u, huser, hsession, howner⟩ => ⟨u, huser, ?_, ?_⟩
    · exact List.mem_cons_of_mem _ hsession
    · rw [hold _ hsession, howner]
  · rcases List.mem_cons.mp hx with rfl | hx
    · exact ⟨List.mem_cons_self, Function.update_self _ _ _⟩
    · obtain ⟨hsession, howner⟩ := h.owners x hx
      exact ⟨List.mem_cons_of_mem _ hsession, (hold _ hsession).trans howner⟩
  · exact (List.mem_cons.mp hmem).elim (fun heq => hnil heq.symm) h.nil

/-- Every step keeps the invariant; `now_v7` never draws the identifier of the system. -/
lemma Authored.step (U : Unicode) (h : Authored owner s) (a : Act)
    (hnil : ∀ session user, a = .login session user → session ≠ Uuid.nil) :
    ∃ owner', Authored owner' (s.step U a) := by
  rcases credentials_step U s a with ⟨session, user, rfl, hissued, hstep⟩ | ⟨hissued, hsub⟩
  · exact ⟨_, hstep ▸ h.login user hissued (hnil session user rfl)⟩
  · refine ⟨owner, (accessKept_step h.wellFormed a).wellFormed, ?_, fun x hx => ?_, ?_⟩
    · rw [hissued]
      refine holds_after_step stable_signedRows h.rows a fun s' hw => ?_
      cases hw with
      | request huser hw => exact h.rows.of_sameSenders (sameSenders_request hw)
      | client hk _ hw =>
          exact h.rows.event (h.owners _ (mem_credentials_socket (socket?_some hk).1)) hw
    · rw [hissued]
      exact h.owners x (hsub hx)
    · rw [hissued]
      exact h.nil

lemma authored_start {db : Database} (hwf : db.WellFormed) (hnew : db.messages = [])
    (now : Millis) : Authored id (start db now) where
  wellFormed := hwf
  rows m hm := absurd (hnew ▸ hm : m ∈ []) List.not_mem_nil
  owners _ hx := absurd hx List.not_mem_nil
  nil := List.not_mem_nil

end Server

/-! ### Rights -/

/-- An edit with any valid text goes through and is stored. -/
def CanEdit (s : Shared) (user : AuthUser) (session : Uuid) (channel : String) (id : Uuid) : Prop :=
  ∀ raw text, messageText raw = .ok text →
    ∃ r s', (editMessageEvent user session channel id raw).run s = .ok r s' ∧
      s'.db = s.db.updateMessage id (MessageRow.edit text)

/-- A deletion goes through and is stored. -/
def CanDelete (s : Shared) (user : AuthUser) (session : Uuid) (channel : String) (id : Uuid) :
    Prop :=
  ∃ r s', (deleteMessageEvent user session channel id).run s = .ok r s' ∧
    s'.db = s.db.updateMessage id (MessageRow.delete s.now)

/-- The author of the message `m` in the channel `c` can edit and delete it from the session;
a user who is neither its author nor a moderator can do neither. -/
def Rights (s : Shared) (c : ChannelRow) (m : MessageRow) (session : Uuid) (user : AuthUser) :
    Prop :=
  (m.ownerUserId = some user.id → Permission.chatWrite ∈ user.permissions →
      ChannelAccess s.db s.now c.name user.id →
      CanEdit s user session c.name m.id ∧ CanDelete s user session c.name m.id) ∧
    (m.ownerUserId ≠ some user.id → Permission.chatModerate ∉ user.permissions →
      ∀ channel, (∀ raw, ¬ Succeeds (editMessageEvent user session channel m.id raw) s) ∧
        ¬ Succeeds (deleteMessageEvent user session channel m.id) s)

section Arms

variable {s s' : Shared} {user : AuthUser} {session id : Uuid} {channel raw : String} {r : Reply}

/-- The end of both arms. -/
lemma repository_broadcast_ok {α : Type} {f : Backend → Except RepositoryError (Backend × α)}
    {event : α → ServerEvent} {b : Backend} {a : α} (h : f s.toBackend = .ok (b, a)) :
    ∃ s', (repository f >>= fun a => broadcast channel (event a) >>= fun _ => pure r).run s =
      .ok r s' ∧ s'.db = b.db := by
  refine ⟨{ s.setBackend b with published := s.published ++ [(channel, event a)] }, ?_, rfl⟩
  rw [run_bind, repository, run_transact, h]
  rfl

/-- A repository call that returned. -/
lemma repository_run_ok {α : Type} {f : Backend → Except RepositoryError (Backend × α)} {a : α}
    (h : (repository f).run s = .ok a s') : ∃ b, f s.toBackend = .ok (b, a) := by
  have hok := transact_run_ok h
  cases hf : f s.toBackend with
  | ok p =>
      rw [hf] at hok
      obtain ⟨-, rfl⟩ := Prod.mk.inj (Except.ok.inj hok)
      exact ⟨p.1, rfl⟩
  | error e =>
      rw [hf] at hok
      exact absurd hok (by simp)

lemma editMessageEvent_ok {text : String} {db : Database} {message : ChatMessage}
    (hperm : Permission.chatWrite ∈ user.permissions)
    (haccess : ChannelAccess s.db s.now channel user.id) (htext : messageText raw = .ok text)
    (hedit : editMessage s.db channel id session text = .ok (db, message)) :
    ∃ r s', (editMessageEvent user session channel id raw).run s = .ok r s' ∧ s'.db = db := by
  have hrepo : s.toBackend.editMessage channel id session text =
      .ok (Backend.writeHot { s.toBackend with db := db } message, message) := by
    rw [Backend.editMessage, hedit]
    rfl
  obtain ⟨s', hrun, hdb⟩ := repository_broadcast_ok (s := s) (r := {})
    (f := fun b => b.editMessage channel id session text) hrepo
  exact ⟨{}, s', read_bind_run_ok_iff.mpr ⟨⟨⟩, requirePermission_eq_ok.mpr hperm,
    read_bind_run_ok_iff.mpr ⟨⟨⟩, ensureChannelAccess_eq_ok.mpr haccess,
      read_bind_run_ok_iff.mpr ⟨text, htext, hrun⟩⟩⟩, hdb⟩

lemma editMessageEvent_run_ok
    (h : (editMessageEvent user session channel id raw).run s = .ok r s') :
    ∃ text a, editMessage s.db channel id session text = .ok a := by
  obtain ⟨-, -, h⟩ := read_bind_run_ok_iff.mp h
  obtain ⟨-, -, h⟩ := read_bind_run_ok_iff.mp h
  obtain ⟨text, -, h⟩ := read_bind_run_ok_iff.mp h
  obtain ⟨message, s1, hrepo, -⟩ := bind_run_ok h
  obtain ⟨b, hok⟩ := repository_run_ok hrepo
  obtain ⟨db, hedit, -⟩ := Backend.editMessage_ok hok
  exact ⟨text, _, hedit⟩

lemma deleteMessageEvent_ok {db : Database} {message : ChatMessage}
    (hperm : Permission.chatWrite ∈ user.permissions)
    (haccess : ChannelAccess s.db s.now channel user.id)
    (hdelete : deleteMessage s.db s.now channel id session
      (Permission.chatModerate ∈ user.permissions) = .ok (db, message)) :
    ∃ r s', (deleteMessageEvent user session channel id).run s = .ok r s' ∧ s'.db = db := by
  have hrepo : s.toBackend.deleteMessage channel id session
      (Permission.chatModerate ∈ user.permissions) =
        .ok (Backend.writeHot { s.toBackend with db := db } message, message) := by
    rw [Backend.deleteMessage, hdelete]
    rfl
  obtain ⟨s', hrun, hdb⟩ := repository_broadcast_ok (s := s) (r := {})
    (f := fun b => b.deleteMessage channel id session
      (Permission.chatModerate ∈ user.permissions)) hrepo
  exact ⟨{}, s', read_bind_run_ok_iff.mpr ⟨⟨⟩, requirePermission_eq_ok.mpr hperm,
    read_bind_run_ok_iff.mpr ⟨⟨⟩, ensureChannelAccess_eq_ok.mpr haccess, hrun⟩⟩, hdb⟩

lemma deleteMessageEvent_run_ok
    (h : (deleteMessageEvent user session channel id).run s = .ok r s') :
    ∃ a, deleteMessage s.db s.now channel id session
      (Permission.chatModerate ∈ user.permissions) = .ok a := by
  obtain ⟨-, -, h⟩ := read_bind_run_ok_iff.mp h
  obtain ⟨-, -, h⟩ := read_bind_run_ok_iff.mp h
  obtain ⟨message, s1, hrepo, -⟩ := bind_run_ok h
  obtain ⟨b, hok⟩ := repository_run_ok hrepo
  obtain ⟨db, hdelete, -⟩ := Backend.deleteMessage_ok hok
  exact ⟨_, hdelete⟩

end Arms

section Rights

variable {owner : Uuid → Uuid} {s : Server} {c : ChannelRow} {m : MessageRow}

/-- A message of a live channel is found under its name. -/
lemma messageIn?_of_mem {db : Database} (hwf : db.WellFormed) (hc : c ∈ db.channels)
    (hlive : c.deletedAt = none) (hm : m ∈ db.messages) (hchannel : m.channelId = c.id) :
    db.messageIn? c.name m.id = some (c, m) := by
  have hsome : (db.messageIn? c.name m.id).isSome := by
    have hnamed : (db.liveChannel? c.name).isSome :=
      List.find?_isSome.mpr ⟨c, hc, decide_eq_true ⟨rfl, hlive⟩⟩
    obtain ⟨c', hc'⟩ := Option.isSome_iff_exists.mp hnamed
    obtain ⟨hmem, hname, -⟩ := Database.liveChannel?_some hc'
    obtain rfl := List.inj_on_of_nodup_map hwf.channelName hmem hc hname
    rw [Database.messageIn?, hc', Option.bind_some, Option.isSome_map]
    exact List.find?_isSome.mpr ⟨m, hm, decide_eq_true ⟨rfl, hchannel⟩⟩
  obtain ⟨⟨c', m'⟩, hfind⟩ := Option.isSome_iff_exists.mp hsome
  obtain ⟨hc', hm', hid, -⟩ := Database.messageIn?_some hfind
  obtain ⟨hmem, hname, -⟩ := Database.liveChannel?_some hc'
  obtain rfl := List.inj_on_of_nodup_map hwf.channelName hmem hc hname
  obtain rfl := hwf.eq_of_id hm' hm hid
  exact hfind

lemma canEdit_of_session (hfind : s.shared.db.messageIn? c.name m.id = some (c, m))
    {user : AuthUser} (hperm : Permission.chatWrite ∈ user.permissions)
    (haccess : ChannelAccess s.shared.db s.shared.now c.name user.id) :
    CanEdit s.shared user m.ownerSession c.name m.id := by
  intro raw text htext
  have hedit : ∃ message, editMessage s.shared.db c.name m.id m.ownerSession text =
      .ok (s.shared.db.updateMessage m.id (MessageRow.edit text), message) := by
    rw [editMessage, hfind]
    exact ⟨_, if_neg (not_not.mpr rfl)⟩
  obtain ⟨message, hedit⟩ := hedit
  exact editMessageEvent_ok hperm haccess htext hedit

lemma canDelete_of_session (hfind : s.shared.db.messageIn? c.name m.id = some (c, m))
    {user : AuthUser} (hperm : Permission.chatWrite ∈ user.permissions)
    (haccess : ChannelAccess s.shared.db s.shared.now c.name user.id) :
    CanDelete s.shared user m.ownerSession c.name m.id := by
  have hdelete : ∃ message, deleteMessage s.shared.db s.shared.now c.name m.id m.ownerSession
      (Permission.chatModerate ∈ user.permissions) =
        .ok (s.shared.db.updateMessage m.id (MessageRow.delete s.shared.now), message) := by
    rw [deleteMessage, hfind]
    exact ⟨_, if_neg fun h => h.2 rfl⟩
  obtain ⟨message, hdelete⟩ := hdelete
  exact deleteMessageEvent_ok hperm haccess hdelete

/-- An edit comes from the session that sent the message. -/
lemma session_of_edit {db : Database} (hwf : db.WellFormed) (hm : m ∈ db.messages)
    {channel text : String} {session : Uuid} {a : Database × ChatMessage}
    (h : editMessage db channel m.id session text = .ok a) : m.ownerSession = session := by
  obtain ⟨db', message⟩ := a
  obtain ⟨c', m', hfind, howner, -, -⟩ := editMessage_ok h
  obtain ⟨-, hm', hid, -⟩ := Database.messageIn?_some hfind
  obtain rfl := hwf.eq_of_id hm' hm hid
  exact howner

/-- So does a deletion, unless by a moderator. -/
lemma session_of_delete {db : Database} (hwf : db.WellFormed) (hm : m ∈ db.messages) {now : Millis}
    {channel : String} {session : Uuid} {a : Database × ChatMessage}
    (h : deleteMessage db now channel m.id session false = .ok a) : m.ownerSession = session := by
  obtain ⟨db', message⟩ := a
  obtain ⟨c', m', hfind, howner, -, -⟩ := deleteMessage_ok h
  obtain ⟨-, hm', hid, -⟩ := Database.messageIn?_some hfind
  obtain rfl := hwf.eq_of_id hm' hm hid
  exact howner.resolve_left (by simp)

/-- Nobody but the author acts from the session that sent a message. -/
lemma Server.Authored.session_ne (h : Server.Authored owner s) (hm : m ∈ s.shared.db.messages)
    {session : Uuid} {user : AuthUser} (hacts : s.Acts session user)
    (hother : m.ownerUserId ≠ some user.id) : m.ownerSession ≠ session := by
  obtain ⟨hissued, howner⟩ := h.owners _ hacts.mem_credentials
  rintro rfl
  rcases h.rows m hm with ⟨-, hnil⟩ | ⟨u, huser, -, hu⟩
  · exact h.nil (hnil ▸ hissued)
  · exact hother (by rw [huser, ← hu, howner])

/-- Whose message it is decides, up to the session of the author. -/
lemma Server.Authored.rights_iff_session (h : Server.Authored owner s)
    (hc : c ∈ s.shared.db.channels) (hlive : c.deletedAt = none) (hm : m ∈ s.shared.db.messages)
    (hchannel : m.channelId = c.id) {session : Uuid} {user : AuthUser}
    (hacts : s.Acts session user) :
    Rights s.shared c m session user ↔
      (m.ownerUserId = some user.id → Permission.chatWrite ∈ user.permissions →
        ChannelAccess s.shared.db s.shared.now c.name user.id → session = m.ownerSession) := by
  have hfind := messageIn?_of_mem h.wellFormed hc hlive hm hchannel
  constructor
  · rintro ⟨hauthor, -⟩ huser hperm haccess
    obtain ⟨r, s', hrun, -⟩ := (hauthor huser hperm haccess).1 "x" "x" (by decide)
    obtain ⟨text, a, hedit⟩ := editMessageEvent_run_ok hrun
    exact (session_of_edit h.wellFormed hm hedit).symm
  · intro hsession
    refine ⟨fun huser hperm haccess => ?_, fun hother hmod channel => ?_⟩
    · rw [hsession huser hperm haccess]
      exact ⟨canEdit_of_session hfind hperm haccess, canDelete_of_session hfind hperm haccess⟩
    · have hne := h.session_ne hm hacts hother
      refine ⟨?_, ?_⟩
      · rintro raw ⟨r, s', hrun⟩
        obtain ⟨text, a, hedit⟩ := editMessageEvent_run_ok hrun
        exact hne (session_of_edit h.wellFormed hm hedit)
      · rintro ⟨r, s', hrun⟩
        obtain ⟨a, hdelete⟩ := deleteMessageEvent_run_ok hrun
        rw [decide_eq_false hmod] at hdelete
        exact hne (session_of_delete h.wellFormed hm hdelete)

end Rights

namespace Server

/-- A message sent from the first session, and a second login. -/
def relogin : List Act :=
  loggedIn ++ [.client 1 (.sendMessage "hi" none none []) ⟨90, 91, 92⟩, .login 6 ada]

end Server

end Vussa
