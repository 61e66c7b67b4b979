import Vussa.Model.Handler

/-!
Archived channels and the events on messages. `ensure_channel_posting_access` refuses users without
the moderation permission in an archived channel, but only `SendMessage` asks it: the other arms of
`handle_client_event` that write messages or reactions ask for access alone.

* `SameChat`: a channel has the messages and reactions it had before;
* `OnMessages`: the five events;
* `Writes`: an event that reaches a row of an archived channel and changes it;
* `archived_unchanged_iff`: **an event of a user without the permission leaves an archived channel
  as it is iff it is no edit, deletion or reaction that reaches a row there**.
-/

namespace Vussa

open Effect

/-! ### Rules -/

section Rules

variable {α β : Type} {s : Shared} {P : Shared → Prop}

lemma keeps_check {f : Database → Millis → Except AppError Unit} {g : Unit → App β} (hs : P s) :
    P (after (check f >>= g) s) ↔ (f s.db s.now = .ok () → P (after (g ()) s)) := by
  rw [check, after_read_bind_iff hs]
  exact ⟨fun h => h (), fun h _ ha => h ha⟩

lemma keeps_repository {f : Backend → Except RepositoryError (Backend × α)} {g : α → App β}
    (hs : P s) : P (after (repository f >>= g) s) ↔
      ∀ b a, f s.toBackend = .ok (b, a) → P (after (g a) (s.setBackend b)) := by
  rw [repository, after_transact_bind_iff hs]
  cases f s.toBackend with
  | ok p =>
      obtain ⟨b, a⟩ := p
      simp
  | error e => simp

end Rules

/-! ### The messages and reactions of a channel -/

namespace Database

/-- The messages of a channel. -/
def messagesOf (db : Database) (channelId : Uuid) : List MessageRow :=
  db.messages.filter fun m => m.channelId = channelId

/-- The reactions to messages of a channel. -/
def reactionsOf (db : Database) (channelId : Uuid) : List ReactionRow :=
  db.messageReactions.filter fun r =>
    ∃ m ∈ db.messages, m.id = r.messageId ∧ m.channelId = channelId

end Database

/-- A channel has the messages and reactions it had before. -/
structure SameChat (channelId : Uuid) (db db' : Database) : Prop where
  messages : db'.messagesOf channelId = db.messagesOf channelId
  reactions : db'.reactionsOf channelId = db.reactionsOf channelId

lemma SameChat.refl (channelId : Uuid) (db : Database) : SameChat channelId db db := ⟨rfl, rfl⟩

/-- A state with the messages and reactions that the channel has in `db`. -/
def Untouched (channelId : Uuid) (db : Database) (s : Shared) : Prop := SameChat channelId db s.db

/-- An update of one row is noticed exactly if the row is of the channel and changes. -/
lemma sameChat_updateMessage {db : Database} {channelId id : Uuid} {f : MessageRow → MessageRow}
    (hf : MessageRow.Placed f) : SameChat channelId db (db.updateMessage id f) ↔
      ∀ m ∈ db.messages, m.id = id → m.channelId = channelId → f m = m := by
  have hrows : (db.updateMessage id f).messagesOf channelId
      = (db.messagesOf channelId).map fun m => if m.id = id then f m else m := by
    rw [Database.messagesOf, Database.updateMessage, List.filter_map, Database.messagesOf]
    congr 1
    refine List.filter_congr fun m _ => ?_
    by_cases hm : m.id = id
    · simp [hm, hf.channelId]
    · simp [hm]
  have hreactions : (db.updateMessage id f).reactionsOf channelId = db.reactionsOf channelId := by
    refine List.filter_congr fun r _ => decide_eq_decide.mpr ?_
    have hplace : ∀ m : MessageRow, (if m.id = id then f m else m).id = m.id ∧
        (if m.id = id then f m else m).channelId = m.channelId := by
      intro m
      split
      · exact ⟨hf.id m, hf.channelId m⟩
      · exact ⟨rfl, rfl⟩
    simp only [Database.updateMessage, List.mem_map, exists_exists_and_eq_and, hplace]
  have hsame : SameChat channelId db (db.updateMessage id f) ↔
      (db.messagesOf channelId).map (fun m => if m.id = id then f m else m)
        = (db.messagesOf channelId).map fun m => m := by
    rw [List.map_id' (db.messagesOf channelId), ← hrows]
    exact ⟨SameChat.messages, fun h => ⟨h, hreactions⟩⟩
  rw [hsame, List.map_inj_left]
  refine ⟨fun h m hm hid hc => ?_, fun h m hm => ?_⟩
  · have heq := h m (List.mem_filter.mpr ⟨hm, decide_eq_true hc⟩)
    rwa [if_pos hid] at heq
  · obtain ⟨hmem, hc⟩ := List.mem_filter.mp hm
    split
    next hid => exact h m hmem hid (of_decide_eq_true hc)
    next => rfl

/-- A message of another channel is not noticed. -/
lemma sameChat_append {db : Database} {channelId : Uuid} {row : MessageRow}
    (hrow : row.channelId ≠ channelId) (links : List MessageFileRow) :
    SameChat channelId db
      { db with messages := db.messages ++ [row], messageFiles := links } := by
  refine ⟨?_, ?_⟩
  · rw [Database.messagesOf, List.filter_append, List.filter_singleton, decide_eq_false hrow]
    exact List.append_nil _
  · refine List.filter_congr fun r _ => decide_eq_decide.mpr ?_
    refine ⟨?_, fun ⟨m, hm, h⟩ => ⟨m, List.mem_append_left _ hm, h⟩⟩
    rintro ⟨m, hm, hid, hc⟩
    obtain hm | hm := List.mem_append.mp hm
    · exact ⟨m, hm, hid, hc⟩
    · rw [List.mem_singleton.mp hm] at hc
      exact absurd hc hrow

/-! ### The events -/

/-- The events that are about a message. -/
def OnMessages : ClientEvent → Prop
  | .sendMessage _ _ _ _ | .editMessage _ _ | .deleteMessage _ | .addReaction _ _
  | .removeReaction _ _ => True
  | _ => False

/-- The user has reacted so to the message. -/
def Reacted (db : Database) (messageId userId : Uuid) (emoji : String) : Prop :=
  ∃ r ∈ db.messageReactions, r.messageId = messageId ∧ r.userId = userId ∧ r.emoji = emoji

/-- What an event needs of the row it names, in the channel `c`, to change something there; a new
message needs more than a user without the moderation permission has. -/
def Reaches (db : Database) (userId session : Uuid) (channel : String) (c : ChannelRow) :
    ClientEvent → Prop
  | .editMessage id raw => ∃ text ∈ (messageText raw).toOption, ∃ m,
      db.messageIn? channel id = some (c, m) ∧ m.ownerSession = session ∧
        ¬ (m.text = text ∧ m.edited = true)
  | .deleteMessage id => ∃ m, db.messageIn? channel id = some (c, m) ∧ m.ownerSession = session ∧
      ¬ (m.deletedAt.isSome ∧ m.edited = false)
  | .addReaction id raw => ∃ emoji ∈ (normalizeEmoji raw).toOption,
      (∃ m, db.messageIn? channel id = some (c, m)) ∧ ¬ Reacted db id userId emoji
  | .removeReaction id raw => ∃ emoji ∈ (normalizeEmoji raw).toOption,
      (∃ m, db.messageIn? channel id = some (c, m)) ∧ Reacted db id userId emoji
  | _ => False

/-- An event changes something in the channel `c`. -/
def Writes (db : Database) (now : Millis) (user : AuthUser) (session : Uuid) (channel : String)
    (c : ChannelRow) (event : ClientEvent) : Prop :=
  Permission.chatWrite ∈ user.permissions ∧ ChannelAccess db now channel user.id ∧
    Reaches db user.id session channel c event

section Events

variable {db : Database} {channel : String} {c : ChannelRow} {id session : Uuid}

/-- The row under a name and an identifier, in a channel of the tables. -/
lemma messageIn?_channel (hwf : db.WellFormed) (hc : c ∈ db.channels) {c' : ChannelRow}
    {m : MessageRow} (h : db.messageIn? channel id = some (c', m)) (hm : m.channelId = c.id) :
    c' = c := by
  obtain ⟨hlive, -, -, hchannel⟩ := Database.messageIn?_some h
  exact List.inj_on_of_nodup_map hwf.channelId (Database.liveChannel?_some hlive).1 hc
    (hchannel.symm.trans hm)

/-- A change of a row that was found under a name and an identifier. -/
lemma sameChat_found (hwf : db.WellFormed) (hc : c ∈ db.channels) {f : MessageRow → MessageRow}
    (hf : MessageRow.Placed f) {c' : ChannelRow} {m : MessageRow}
    (h : db.messageIn? channel id = some (c', m)) :
    SameChat c.id db (db.updateMessage id f) ↔ (c' = c → f m = m) := by
  obtain ⟨-, hmem, hid, hchannel⟩ := Database.messageIn?_some h
  rw [sameChat_updateMessage hf]
  refine ⟨fun hall heq => hall m hmem hid (hchannel.trans (congrArg ChannelRow.id heq)), ?_⟩
  intro hsame n hn hnid hnc
  obtain rfl := hwf.eq_of_id hn hmem (hnid.trans hid.symm)
  exact hsame (messageIn?_channel hwf hc h hnc)

lemma sameChat_edit (hwf : db.WellFormed) (hc : c ∈ db.channels) (channel : String)
    (id session : Uuid) (text : String) :
    (∀ db' message, editMessage db channel id session text = .ok (db', message) →
      SameChat c.id db db') ↔
    ¬ ∃ m, db.messageIn? channel id = some (c, m) ∧ m.ownerSession = session ∧
      ¬ (m.text = text ∧ m.edited = true) := by
  have hfix : ∀ m : MessageRow, m.edit text = m ↔ m.text = text ∧ m.edited = true := by
    intro m
    cases m
    simp only [MessageRow.edit, MessageRow.mk.injEq, true_and, and_true]
    exact and_congr eq_comm eq_comm
  refine ⟨?_, fun h db' message hok => ?_⟩
  · rintro h ⟨m, hin, howner, hchanged⟩
    obtain ⟨message, hok⟩ : ∃ message, editMessage db channel id session text
        = .ok (db.updateMessage id (MessageRow.edit text), message) := by
      rw [editMessage, hin]
      exact ⟨_, if_neg (not_not.mpr howner)⟩
    have hsame := h _ message hok
    rw [sameChat_found hwf hc (MessageRow.placed_edit text) hin] at hsame
    exact hchanged ((hfix m).mp (hsame rfl))
  · obtain ⟨c', m, hin, howner, rfl, -⟩ := editMessage_ok hok
    rw [sameChat_found hwf hc (MessageRow.placed_edit text) hin]
    rintro rfl
    rw [hfix]
    by_contra hchanged
    exact h ⟨m, hin, howner, hchanged⟩

lemma sameChat_delete (hwf : db.WellFormed) (hc : c ∈ db.channels) (now : Millis)
    (channel : String) (id session : Uuid) :
    (∀ db' message, deleteMessage db now channel id session false = .ok (db', message) →
      SameChat c.id db db') ↔
    ¬ ∃ m, db.messageIn? channel id = some (c, m) ∧ m.ownerSession = session ∧
      ¬ (m.deletedAt.isSome ∧ m.edited = false) := by
  have hfix : ∀ m : MessageRow, m.delete now = m ↔ m.deletedAt.isSome ∧ m.edited = false := by
    intro m
    cases m with
    | mk _ _ _ _ _ edited _ _ _ _ _ _ deletedAt _ _ =>
        cases deletedAt with
        | none => simp [MessageRow.delete]
        | some t => simp [MessageRow.delete, eq_comm]
  refine ⟨?_, fun h db' message hok => ?_⟩
  · rintro h ⟨m, hin, howner, hchanged⟩
    obtain ⟨message, hok⟩ : ∃ message, deleteMessage db now channel id session false
        = .ok (db.updateMessage id (MessageRow.delete now), message) := by
      rw [deleteMessage, hin]
      exact ⟨_, if_neg (by simp [howner])⟩
    have hsame := h _ message hok
    rw [sameChat_found hwf hc (MessageRow.placed_delete now) hin] at hsame
    exact hchanged ((hfix m).mp (hsame rfl))
  · obtain ⟨c', m, hin, howner, rfl, -⟩ := deleteMessage_ok hok
    rw [sameChat_found hwf hc (MessageRow.placed_delete now) hin]
    rintro rfl
    rw [hfix]
    by_contra hchanged
    obtain hmod | howner := howner
    · exact absurd hmod (by simp)
    · exact h ⟨m, hin, howner, hchanged⟩

/-- A new reaction to a message of the channel is noticed. -/
lemma sameChat_addReaction (hwf : db.WellFormed) (hc : c ∈ db.channels) (channel : String)
    (id userId : Uuid) (emoji : String) (now : Millis) :
    SameChat c.id db (db.addReaction channel id userId emoji now) ↔
      ¬ ((∃ m, db.messageIn? channel id = some (c, m)) ∧ ¬ Reacted db id userId emoji) := by
  rw [Database.addReaction]
  split
  next hadds =>
    obtain ⟨hsome, hnew⟩ := hadds
    obtain ⟨⟨c', m⟩, hin⟩ := Option.isSome_iff_exists.mp hsome
    obtain ⟨-, hmem, hid, hchannel⟩ := Database.messageIn?_some hin
    refine ⟨?_, fun h => ⟨rfl, ?_⟩⟩
    · rintro ⟨-, hsame⟩ ⟨⟨m', hin'⟩, -⟩
      obtain ⟨-, hmem', hid', hchannel'⟩ := Database.messageIn?_some hin'
      have hlen := congrArg List.length hsame
      rw [Database.reactionsOf, List.filter_append, List.length_append, List.filter_singleton,
        decide_eq_true ⟨m', hmem', hid', hchannel'⟩] at hlen
      have hone : (db.reactionsOf c.id).length + 1 = (db.reactionsOf c.id).length := hlen
      omega
    · rw [Database.reactionsOf, List.filter_append, List.filter_singleton]
      have hother : ¬ ∃ m' ∈ db.messages, m'.id = id ∧ m'.channelId = c.id := by
        rintro ⟨m', hmem', hid', hchannel'⟩
        obtain rfl := hwf.eq_of_id hmem' hmem (hid'.trans hid.symm)
        obtain rfl := messageIn?_channel hwf hc hin hchannel'
        exact h ⟨⟨m', hin⟩, hnew⟩
      rw [decide_eq_false hother]
      exact List.append_nil _
  next hnot =>
    refine ⟨?_, fun _ => .refl c.id db⟩
    rintro - ⟨⟨m, hin⟩, hnew⟩
    exact hnot ⟨by rw [hin]; rfl, hnew⟩

/-- A reaction taken back from a message of the channel is noticed. -/
lemma sameChat_removeReaction (hwf : db.WellFormed) (hc : c ∈ db.channels) (channel : String)
    (id userId : Uuid) (emoji : String) :
    SameChat c.id db (db.removeReaction channel id userId emoji) ↔
      ¬ ((∃ m, db.messageIn? channel id = some (c, m)) ∧ Reacted db id userId emoji) := by
  rw [Database.removeReaction]
  split
  next hsome =>
    obtain ⟨⟨c', m⟩, hin⟩ := Option.isSome_iff_exists.mp hsome
    obtain ⟨-, hmem, hid, hchannel⟩ := Database.messageIn?_some hin
    refine ⟨?_, fun h => ⟨rfl, ?_⟩⟩
    · rintro ⟨-, hsame⟩ ⟨⟨m', hin'⟩, r, hr, hrid, hruser, hremoji⟩
      obtain ⟨-, hmem', hid', hchannel'⟩ := Database.messageIn?_some hin'
      have hold : r ∈ db.reactionsOf c.id := List.mem_filter.mpr
        ⟨hr, decide_eq_true ⟨m', hmem', hid'.trans hrid.symm, hchannel'⟩⟩
      rw [← hsame] at hold
      have hleft := of_decide_eq_true (List.mem_filter.mp (List.mem_filter.mp hold).1).2
      exact hleft ⟨hrid, hruser, hremoji⟩
    · rw [Database.reactionsOf, List.filter_filter, Database.reactionsOf]
      refine List.filter_congr fun r hr => ?_
      by_cases hin' : ∃ m ∈ db.messages, m.id = r.messageId ∧ m.channelId = c.id
      · have hkeep : ¬ (r.messageId = id ∧ r.userId = userId ∧ r.emoji = emoji) := by
          rintro ⟨hrid, hruser, hremoji⟩
          obtain ⟨m', hmem', hid', hchannel'⟩ := hin'
          obtain rfl := hwf.eq_of_id hmem' hmem (hid'.trans (hrid.trans hid.symm))
          obtain rfl := messageIn?_channel hwf hc hin hchannel'
          exact h ⟨⟨m', hin⟩, r, hr, hrid, hruser, hremoji⟩
        simp [hin', hkeep]
      · simp [hin']
  next hnot =>
    refine ⟨?_, fun _ => .refl c.id db⟩
    rintro - ⟨⟨m, hin⟩, -⟩
    exact hnot (by rw [hin]; rfl)

end Events

/-! ### The arms -/

section Arms

variable {s : Shared} {c : ChannelRow} {user : AuthUser} {session : Uuid} {channel : String}

/-- The posting check refuses the user in an archived channel. -/
lemma postingAccess_ne_ok {db : Database} (harchived : c.archivedAt.isSome)
    (hmod : Permission.chatModerate ∉ user.permissions) (hlive : db.liveChannel? channel = some c) :
    ensureChannelPostingAccess db channel user ≠ .ok () := by
  rw [ensureChannelPostingAccess, hlive]
  simp [harchived, hmod]

/-- A new message is one of another channel. -/
lemma sameChat_sendMessage (U : Unicode) (hwf : s.db.WellFormed) (hc : c ∈ s.db.channels)
    (harchived : c.archivedAt.isSome) (hmod : Permission.chatModerate ∉ user.permissions)
    {id : Uuid} {raw : String} {root : Option Uuid} {clientId : Option String}
    {fileIds : List Uuid} :
    SameChat c.id s.db
      (after (sendMessage U id user session channel raw root clientId fileIds) s).db := by
  have hs : Untouched c.id s.db s := .refl c.id s.db
  change Untouched c.id s.db _
  refine after_check_bind hs fun _ => ?_
  rw [enforceRateLimit, bind_assoc]
  have hs' : Untouched c.id s.db (s.countRate user.id) := hs
  refine after_read_bind hs' fun _ _ =>
    after_check_bind hs' fun _ => after_check_bind hs' fun hposting =>
    after_read_bind hs' fun text _ => after_check_bind hs' fun _ =>
    after_read_bind hs' fun retried _ => ?_
  cases retried with
  | some existing => exact hs'
  | none =>
      refine after_transact_bind hs' fun s1 outcome hok => ?_
      rw [insertOrFind] at hok
      split at hok
      · rename_i b hpost
        rw [Except.ok.injEq, Prod.mk.injEq] at hok
        obtain ⟨rfl, rfl⟩ := hok
        obtain ⟨db', hsave, rfl⟩ := Backend.postMessage_ok hpost
        obtain ⟨c', links, hlive, -, rfl⟩ := saveMessage_ok hsave
        refine sameChat_append ?_ links
        intro heq
        obtain rfl : c' = c := List.inj_on_of_nodup_map hwf.channelId
          (Database.liveChannel?_some hlive).1 hc heq
        exact postingAccess_ne_ok harchived hmod hlive hposting
      · split at hok
        · rw [Except.ok.injEq, Prod.mk.injEq] at hok
          obtain ⟨rfl, rfl⟩ := hok
          exact hs'
        · exact absurd hok (by simp)
        · exact absurd hok (by simp)

/-- The checks that the other arms share. -/
lemma sameChat_arm {x : App Reply} {reaches : Prop}
    (h : Untouched c.id s.db (after x s) ↔ ¬ reaches) :
    Untouched c.id s.db
      (after (check (fun _ _ => requirePermission user .chatWrite) >>= fun _ =>
        check (fun db now => ensureChannelAccess db now channel user.id) >>= fun _ => x) s) ↔
      ¬ (Permission.chatWrite ∈ user.permissions ∧ ChannelAccess s.db s.now channel user.id ∧
        reaches) := by
  have hs : Untouched c.id s.db s := .refl c.id s.db
  rw [keeps_check hs, keeps_check hs, h, requirePermission_eq_ok, ensureChannelAccess_eq_ok]
  tauto

lemma sameChat_editMessageEvent (hwf : s.db.WellFormed) (hc : c ∈ s.db.channels) {id : Uuid}
    {raw : String} :
    SameChat c.id s.db (after (editMessageEvent user session channel id raw) s).db ↔
      ¬ Writes s.db s.now user session channel c (.editMessage id raw) := by
  refine sameChat_arm ?_
  have hs : Untouched c.id s.db s := .refl c.id s.db
  rw [after_read_bind_iff hs, Reaches]
  simp only [mem_toOption, not_exists, not_and]
  refine forall_congr' fun text => forall_congr' fun _ => ?_
  rw [keeps_repository hs]
  have hedit := sameChat_edit hwf hc channel id session text
  simp only [not_exists, not_and] at hedit
  rw [← hedit]
  refine ⟨fun h db' message hok => ?_, fun h b message hok => ?_⟩
  · refine h ({ s.toBackend with db := db' }.writeHot message) message ?_
    rw [Backend.editMessage, hok]
    rfl
  · obtain ⟨db', hedited, rfl⟩ := Backend.editMessage_ok hok
    exact h db' message hedited

lemma sameChat_deleteMessageEvent (hwf : s.db.WellFormed) (hc : c ∈ s.db.channels)
    (hmod : Permission.chatModerate ∉ user.permissions) {id : Uuid} :
    SameChat c.id s.db (after (deleteMessageEvent user session channel id) s).db ↔
      ¬ Writes s.db s.now user session channel c (.deleteMessage id) := by
  refine sameChat_arm ?_
  have hs : Untouched c.id s.db s := .refl c.id s.db
  rw [keeps_repository hs, decide_eq_false hmod, Reaches]
  rw [← sameChat_delete hwf hc s.now channel id session]
  refine ⟨fun h db' message hok => ?_, fun h b message hok => ?_⟩
  · refine h ({ s.toBackend with db := db' }.writeHot message) message ?_
    rw [Backend.deleteMessage, hok]
    rfl
  · obtain ⟨db', hdeleted, rfl⟩ := Backend.deleteMessage_ok hok
    exact h db' message hdeleted

lemma sameChat_react (hwf : s.db.WellFormed) (hc : c ∈ s.db.channels) (add : Bool) {id : Uuid}
    {raw : String} :
    SameChat c.id s.db (after (react add user channel id raw) s).db ↔
      ¬ Writes s.db s.now user session channel c
        (if add then .addReaction id raw else .removeReaction id raw) := by
  refine sameChat_arm ?_
  have hs : Untouched c.id s.db s := .refl c.id s.db
  rw [after_read_bind_iff hs]
  cases add with
  | true =>
      simp only [if_true, Reaches, mem_toOption, not_exists, not_and]
      refine forall_congr' fun emoji => forall_congr' fun _ => ?_
      have hadd := sameChat_addReaction hwf hc channel id user.id emoji s.now
      rw [not_and] at hadd
      exact hadd
  | false =>
      simp only [Bool.false_eq_true, if_false, Reaches, mem_toOption, not_exists, not_and]
      refine forall_congr' fun emoji => forall_congr' fun _ => ?_
      have hremove := sameChat_removeReaction hwf hc channel id user.id emoji
      rw [not_and] at hremove
      exact hremove

end Arms

/-- **Archived channels.** An event on messages of a user without the moderation permission leaves
the messages and reactions of an archived channel as they are, exactly when it is no edit or
deletion of a message of the same session there and no reaction to a message there. -/
theorem archived_unchanged_iff (U : Unicode) (fresh : Fresh) {s : Shared} (hwf : s.db.WellFormed)
    {c : ChannelRow} (hc : c ∈ s.db.channels) (harchived : c.archivedAt.isSome) {user : AuthUser}
    (hmod : Permission.chatModerate ∉ user.permissions) (session : Uuid) (active : Bool)
    (channel : String) (event : ClientEvent) (hevent : OnMessages event) :
    SameChat c.id s.db
      (after (handleClientEvent U fresh user session active channel event) s).db ↔
      ¬ Writes s.db s.now user session channel c event := by
  cases event with
  | sendMessage text root clientId fileIds =>
      refine ⟨fun _ h => h.2.2, fun _ => ?_⟩
      exact sameChat_sendMessage U hwf hc harchived hmod
  | editMessage id raw => exact sameChat_editMessageEvent hwf hc
  | deleteMessage id => exact sameChat_deleteMessageEvent hwf hc hmod
  | addReaction id raw => exact sameChat_react hwf hc true
  | removeReaction id raw => exact sameChat_react hwf hc false
  | _ => exact absurd hevent id

/-- An archived public channel with one message, of the session 5. -/
def attic : Shared where
  db :=
    { channels := [{ id := 3, name := "attic", createdAt := 1, archivedAt := some 9 }]
      messages := [{ id := 21, channelId := 3, username := "ada", text := "old", createdAt := 2,
                     ownerSession := 5 }] }
  now := 10

/-- A user who may write. -/
def writer : AuthUser :=
  { id := 1, email := "a@x", username := "ada", roles := [], permissions := [.chatWrite] }

lemma attic_wellFormed : attic.db.WellFormed := ⟨by decide, by decide, by decide⟩

/-- A new message is refused there. -/
theorem archived_unchanged_send :
    attic.db.WellFormed ∧ Permission.chatModerate ∉ writer.permissions ∧
      SameChat 3 attic.db (after (handleClientEvent .ascii ⟨8, 22, 23⟩ writer 5 true "attic"
        (.sendMessage "new" none none [])) attic).db := by
  refine ⟨attic_wellFormed, by decide, ?_⟩
  exact (archived_unchanged_iff .ascii ⟨8, 22, 23⟩ attic_wellFormed (List.mem_singleton_self _) rfl
    (by decide) 5 true "attic" (.sendMessage "new" none none []) trivial).mpr fun h => h.2.2

/-- An edit is not. -/
theorem archived_edit_changes :
    Permission.chatModerate ∉ writer.permissions ∧ (∀ c ∈ attic.db.channels, c.archivedAt.isSome) ∧
      ¬ SameChat 3 attic.db (after (handleClientEvent .ascii ⟨8, 22, 23⟩ writer 5 true "attic"
        (.editMessage 21 "new")) attic).db := by
  refine ⟨by decide, by decide, fun h => ?_⟩
  have hkept := (sameChat_editMessageEvent attic_wellFormed (List.mem_singleton_self _)).mp h
  refine hkept ⟨by decide, by decide, "new", ?_, ?_⟩
  · decide +kernel
  · exact ⟨_, rfl, rfl, by decide⟩

end Vussa
