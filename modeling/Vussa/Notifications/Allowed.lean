import Vussa.Notifications.Idempotency

/-!
The kinds of the notifications of a message, against the preferences of their recipients. The query
of `create_message_notifications_with_clock` selects by one condition, and the code behind it names
the kind by another.

* `Directory.preferences`, `PreferenceRow.allows`: what a user has allowed;
* `Addresses`, `Queried`, `Named`: the parts of the two conditions;
* `exists_recipient_iff`: the recipients, by the parts;
* `Misread`: the query takes a mention for what the code does not name one;
* `allowed_iff`: **a call notifies as the recipients allow exactly if it misreads no user**.
-/

namespace Vussa

open Table

/-! ### Preferences -/

/-- The preferences of a user, with the defaults of the query. -/
def Directory.preferences (db : Directory) (userId : Uuid) : PreferenceRow :=
  (db.notificationPreferences.find? fun p => p.userId = userId).getD { userId := userId }

/-- The column for a kind. -/
def PreferenceRow.allows (p : PreferenceRow) : NotificationKind → Bool
  | .mention => p.mentions
  | .directMessage => p.directMessages
  | .channelMessage => p.channelMessages

/-- The kind of a message that mentions nobody. -/
def ChannelRow.postKind (c : ChannelRow) : NotificationKind :=
  if c.kind = .direct then .directMessage else .channelMessage

/-- The row that the query joins has the preferences of the user. -/
lemma preferences_of_joined {α : Type*} {db : Directory} {rows : List α} (user : α → UserRow)
    (hkey : Unique PreferenceRow.userId db.notificationPreferences) {a : α}
    {np : Option PreferenceRow}
    (h : (a, np) ∈ leftJoin (fun a np => np.userId = (user a).id) rows
      db.notificationPreferences) :
    db.preferences (user a).id = np.getD { userId := (user a).id } := by
  rw [Directory.preferences]
  cases np with
  | none =>
      have hnone := not_on_of_mem_leftJoin h
      rw [List.find?_eq_none.mpr hnone, Option.getD_none]
  | some p =>
      obtain ⟨hp, hon⟩ := (mem_leftJoin h).2 p rfl
      cases hfind : db.notificationPreferences.find? fun p => p.userId = (user a).id with
      | none => exact absurd hon (List.find?_eq_none.mp hfind p hp)
      | some p' =>
          have hid : p'.userId = (user a).id := by
            simpa using List.find?_some hfind
          exact hkey.eq (List.mem_of_find?_eq_some hfind) hp
            (hid.trans (of_decide_eq_true hon).symm)

namespace Notifications

/-! ### The two conditions -/

section Conditions

variable (U : Unicode) (lower : String → String) (db : Directory) (now : Millis)
  (actor : AuthUser) (message : ChatMessage) (c : ChannelRow) (u : UserRow)

/-- The user is another one, not disabled, deleted or banned, who may read the channel of the
message. -/
def Addresses : Prop :=
  c.name = message.channel ∧ c.deletedAt = none ∧ u.id ≠ actor.id ∧ u.disabledAt = none ∧
    u.deletedAt = none ∧ ¬ Banned db.toDatabase now u.id c.id ∧
    (c.kind = .pub ∨ Member db.toDatabase c.id u.id)

/-- The user is mentioned as the query reads the message: the stored identifiers count whatever the
text is. -/
def Queried : Prop :=
  lower u.username ∈ extractMentionedUsernames U message.text actor.username ∨
    mentionScope U message.text = some .channel ∨ u.id ∈ message.metadata.onlineUserIds

/-- The user is mentioned as the code names the kind: the stored identifiers count for `@here`. -/
def Named : Prop :=
  mentionScope U message.text = some .channel ∨
    (mentionScope U message.text = some .here ∧ u.id ∈ message.metadata.onlineUserIds) ∨
    U.toLowercase u.username ∈ extractMentionedUsernames U message.text actor.username

/-- The query selects a user who wants mentions as a mentioned one, the code does not name a
mention, and the user does not want what it names. -/
def Misread : Prop :=
  Addresses db now actor message c u ∧ (db.preferences u.id).mentions ∧
    Queried U lower actor message u ∧ ¬ Named U actor message u ∧
    ¬ (db.preferences u.id).allows c.postKind

instance : Decidable (Addresses db now actor message c u) := inferInstanceAs (Decidable (_ ∧ _))

instance : Decidable (Queried U lower actor message u) := inferInstanceAs (Decidable (_ ∨ _))

instance : Decidable (Named U actor message u) := inferInstanceAs (Decidable (_ ∨ _))

instance : Decidable (Misread U lower db now actor message c u) :=
  inferInstanceAs (Decidable (_ ∧ _))

/-- The kind of a selected user's notification. -/
def recipientKind : NotificationKind :=
  if (db.preferences u.id).mentions ∧ Named U actor message u then .mention else c.postKind

/-- The query selects the user. -/
def Selected : Prop :=
  Addresses db now actor message c u ∧
    ((Queried U lower actor message u ∧ (db.preferences u.id).mentions) ∨
      (db.preferences u.id).allows c.postKind)

variable {U lower db now actor message c u}

/-- A selected user allows the kind of the notification, unless the user is misread. -/
lemma Selected.allows_iff (h : Selected U lower db now actor message c u) :
    (db.preferences u.id).allows (recipientKind U db actor message c u) ↔
      ¬ Misread U lower db now actor message c u := by
  obtain ⟨haddresses, hreason⟩ := h
  rw [recipientKind]
  split_ifs with hmention
  · exact iff_of_true hmention.1 fun hmisread => hmisread.2.2.2.1 hmention.2
  · constructor
    · exact fun hallows hmisread => hmisread.2.2.2.2 hallows
    · intro hright
      by_contra hallows
      obtain ⟨hqueried, hmentions⟩ := hreason.resolve_right hallows
      exact hright ⟨haddresses, hmentions, hqueried, fun hnamed => hmention ⟨hmentions, hnamed⟩,
        hallows⟩

lemma Misread.selected (h : Misread U lower db now actor message c u) :
    Selected U lower db now actor message c u :=
  ⟨h.1, Or.inl ⟨h.2.2.1, h.2.1⟩⟩

end Conditions

/-! ### The recipients -/

section Recipients

variable {U : Unicode} {lower : String → String} {db : Directory} {now : Millis}
  {actor : AuthUser} {message : ChatMessage}

/-- The preferences in the `WHERE` clause are those for the kind of the channel. -/
lemma selected_iff {c : ChannelRow} {u : UserRow} :
    Selected U lower db now actor message c u ↔
      u.id ≠ actor.id ∧ c.name = message.channel ∧ c.deletedAt = none ∧ u.disabledAt = none ∧
      u.deletedAt = none ∧ ¬ Banned db.toDatabase now u.id c.id ∧
      ((Queried U lower actor message u ∧ (db.preferences u.id).mentions ∧
          (c.kind = .pub ∨ Member db.toDatabase c.id u.id)) ∨
        (c.kind = .direct ∧ Member db.toDatabase c.id u.id ∧
          (db.preferences u.id).directMessages) ∨
        (c.kind = .priv ∧ Member db.toDatabase c.id u.id ∧
          (db.preferences u.id).channelMessages) ∨
        (c.kind = .pub ∧ (db.preferences u.id).channelMessages)) := by
  rw [Selected, Addresses, ChannelRow.postKind]
  cases hkind : c.kind with
  | pub =>
      simp [PreferenceRow.allows]
      tauto
  | priv =>
      simp [PreferenceRow.allows]
      tauto
  | direct =>
      simp [PreferenceRow.allows]
      tauto

/-- A row of the query: the membership and the preferences it joins are those of the user. -/
lemma of_joined (hkey : Unique PreferenceRow.userId db.notificationPreferences) {c : ChannelRow}
    {u : UserRow} {cm : Option MemberRow} {np : Option PreferenceRow}
    (h : (((c, u), cm), np) ∈ leftJoin (fun ((_, u), _) np => np.userId = u.id)
      (leftJoin (fun (c, u) cm => cm.channelId = c.id ∧ cm.userId = u.id)
        (join (fun _ u => u.id ≠ actor.id) db.channels db.users) db.channelMembers)
      db.notificationPreferences) :
    c ∈ db.channels ∧ u ∈ db.users ∧ u.id ≠ actor.id ∧
      (cm.isSome ↔ Member db.toDatabase c.id u.id) ∧
      (np.map PreferenceRow.mentions).getD true = (db.preferences u.id).mentions ∧
      (np.map PreferenceRow.directMessages).getD true = (db.preferences u.id).directMessages ∧
      (np.map PreferenceRow.channelMessages).getD false =
        (db.preferences u.id).channelMessages := by
  have hmembers := (mem_leftJoin h).1
  obtain ⟨husers, hcm⟩ := mem_leftJoin hmembers
  obtain ⟨hc, hu, hne⟩ := mem_join.mp husers
  have hprefs : db.preferences u.id = np.getD { userId := u.id } :=
    preferences_of_joined (fun a : (ChannelRow × UserRow) × Option MemberRow => a.1.2) hkey h
  refine ⟨hc, hu, of_decide_eq_true hne, ?_, ?_, ?_, ?_⟩
  · cases cm with
    | none =>
        refine iff_of_false Bool.false_ne_true ?_
        rintro ⟨row, hrow, hon⟩
        exact not_on_of_mem_leftJoin hmembers row hrow (decide_eq_true hon)
    | some row =>
        obtain ⟨hrow, hon⟩ := hcm row rfl
        exact iff_of_true rfl ⟨row, hrow, of_decide_eq_true hon⟩
  · rw [hprefs]
    exact Option.getD_map PreferenceRow.mentions { userId := u.id } np
  · rw [hprefs]
    exact Option.getD_map PreferenceRow.directMessages { userId := u.id } np
  · rw [hprefs]
    exact Option.getD_map PreferenceRow.channelMessages { userId := u.id } np

/-- **The recipients**: a user is a recipient under a kind exactly if some channel selects the user
under it. -/
lemma exists_recipient_iff (hkey : Unique PreferenceRow.userId db.notificationPreferences)
    {userId : Uuid} {kind : NotificationKind} :
    (∃ r ∈ messageRecipients U lower db now actor message, r.userId = userId ∧ r.kind = kind) ↔
      ∃ c ∈ db.channels, ∃ u ∈ db.users, Selected U lower db now actor message c u ∧
        u.id = userId ∧ recipientKind U db actor message c u = kind := by
  constructor
  · rintro ⟨r, hr, rfl, rfl⟩
    obtain ⟨⟨⟨⟨c, u⟩, cm⟩, np⟩, hrow, rfl⟩ := List.mem_map.mp hr
    obtain ⟨hrow, hwhere⟩ := List.mem_filter.mp hrow
    obtain ⟨hc, hu, hne, hmember, hmentions, hdirect, hchannel⟩ := of_joined hkey hrow
    have hwhere := of_decide_eq_true hwhere
    refine ⟨c, hc, u, hu, selected_iff.mpr ⟨hne, ?_⟩, rfl, ?_⟩
    · rw [hmentions, hdirect, hchannel, hmember] at hwhere
      exact hwhere
    · rw [recipientKind, ← hmentions]
      rfl
  · rintro ⟨c, hc, u, hu, hselected, rfl, rfl⟩
    obtain ⟨hne, hwhere⟩ := selected_iff.mp hselected
    have husers : (c, u) ∈ join (fun _ u => u.id ≠ actor.id) db.channels db.users :=
      mem_join.mpr ⟨hc, hu, decide_eq_true hne⟩
    obtain ⟨cm, hcm⟩ := exists_mem_leftJoin
      (fun (c, u) cm => cm.channelId = c.id ∧ cm.userId = u.id) db.channelMembers husers
    obtain ⟨np, hnp⟩ := exists_mem_leftJoin (fun ((_, u), _) np => np.userId = u.id)
      db.notificationPreferences hcm
    obtain ⟨-, -, -, hmember, hmentions, hdirect, hchannel⟩ := of_joined hkey hnp
    refine ⟨_, List.mem_map.mpr ⟨(((c, u), cm), np), List.mem_filter.mpr ⟨hnp, ?_⟩, rfl⟩, rfl, ?_⟩
    · refine decide_eq_true ?_
      rw [hmentions, hdirect, hchannel, hmember]
      exact hwhere
    · rw [recipientKind, ← hmentions]
      rfl

end Recipients

/-! ### The calls -/

section Calls

variable (U : Unicode) (lower : String → String)

/-- The call has written the notification: none of its key was there before, or the call finds the
user under the kind, and its upsert writes the row again. -/
def Call.Writes (call : Call) (actor : AuthUser) (message : ChatMessage) (s s' : Inbox)
    (n : NotificationRow) : Prop :=
  n ∈ s'.notifications ∧
    ((∀ n₀ ∈ s.notifications, n₀.key ≠ n.key) ∨ call.Finds U lower actor message s n.key)

/-- What the call has written is for others, of a kind they allow. -/
def Call.Allowed (call : Call) (actor : AuthUser) (message : ChatMessage) (s s' : Inbox) : Prop :=
  ∀ n, call.Writes U lower actor message s s' n →
    n.userId ≠ actor.id ∧ (s.preferences n.userId).allows n.kind

variable {U lower}

/-- A call writes the notifications of the users it finds, and no others. -/
lemma Call.writes_iff {call : Call} {actor : AuthUser} {message : ChatMessage} {s s' : Inbox}
    (h : createMessageNotifications U lower call actor message s = .ok s') {n : NotificationRow} :
    call.Writes U lower actor message s s' n ↔
      n ∈ s'.notifications ∧ call.Finds U lower actor message s n.key := by
  refine and_congr_right fun hn => ⟨?_, Or.inr⟩
  rintro (hnew | hfinds)
  · refine (mem_createMessageNotifications h hn).resolve_left ?_
    rintro ⟨n₀, hn₀, hsame⟩
    exact hnew n₀ hn₀ hsame
  · exact hfinds

/-- The retry reads back the user and the message that it was given. -/
lemma retriedMessage_ids {s : Inbox} {actorId messageId : Uuid} {actor : AuthUser}
    {message : ChatMessage} (h : retriedMessage s actorId messageId = some (actor, message)) :
    actor.id = actorId ∧ message.id = messageId := by
  obtain ⟨m, hm, h⟩ := Option.bind_eq_some_iff.mp h
  obtain ⟨c, -, h⟩ := Option.bind_eq_some_iff.mp h
  obtain ⟨u, hu, h⟩ := Option.map_eq_some_iff.mp h
  obtain ⟨rfl, rfl⟩ := Prod.mk.inj h
  have hactor : u.id = actorId := by simpa using List.find?_some hu
  have hmessage : m.id = messageId := by simpa using List.find?_some hm
  exact ⟨hactor, hmessage⟩

/-- A call notifies as the recipients allow exactly if it misreads no user. -/
lemma Call.allowed_iff_forall {call : Call} {actor : AuthUser} {message : ChatMessage}
    {s s' : Inbox}
    (hkey : Unique PreferenceRow.userId s.notificationPreferences)
    (h : createMessageNotifications U lower call actor message s = .ok s') :
    call.Allowed U lower actor message s s' ↔ ∀ c ∈ s.channels, ∀ u ∈ s.users,
      ¬ Misread U lower s.toDirectory call.queried actor message c u := by
  constructor
  · intro hallowed c hc u hu hmisread
    have hfinds : call.Finds U lower actor message s
        (u.id, message.id, recipientKind U s.toDirectory actor message c u) :=
      ⟨rfl, (exists_recipient_iff hkey).mpr ⟨c, hc, u, hu, hmisread.selected, rfl, rfl⟩⟩
    obtain ⟨n, hn, hkeyed⟩ := hfinds.exists_notification h
    have hallows := (hallowed n ((writes_iff h).mpr ⟨hn, hkeyed ▸ hfinds⟩)).2
    obtain ⟨huser, -, hkind⟩ : n.userId = u.id ∧ n.messageId = message.id ∧
        n.kind = recipientKind U s.toDirectory actor message c u := by
      simpa [NotificationRow.key] using hkeyed
    rw [huser, hkind] at hallows
    exact hmisread.selected.allows_iff.mp hallows hmisread
  · intro hright n hwrites
    obtain ⟨-, -, hfinds⟩ := (writes_iff h).mp hwrites
    obtain ⟨c, hc, u, hu, hselected, huser, hkind⟩ := (exists_recipient_iff hkey).mp hfinds
    have hallows := hselected.allows_iff.mpr (hright c hc u hu)
    rw [huser, hkind] at hallows
    refine ⟨fun hself => hselected.1.2.2.1 ?_, hallows⟩
    exact huser.trans hself

variable (U lower) in
/-- **Preferences**: over every state of the tables, a call for a message notifies others of kinds
that they allow, exactly if the query counts no user as mentioned whom the code does not name as
mentioned and who does not want what it names instead. A retry of the outbox is such a call for the
message as it is stored, or does nothing. -/
theorem allowed_iff (call : Call) (s s' : Inbox)
    (hkey : Unique PreferenceRow.userId s.notificationPreferences) :
    (∀ actor message, createMessageNotifications U lower call actor message s = .ok s' →
      (call.Allowed U lower actor message s s' ↔ ∀ c ∈ s.channels, ∀ u ∈ s.users,
        ¬ Misread U lower s.toDirectory call.queried actor message c u)) ∧
    ∀ actorId messageId, retryMessageNotifications U lower call actorId messageId s = .ok s' →
      (retriedMessage s actorId messageId = none ∧ s' = s) ∨
      ∃ actor message, retriedMessage s actorId messageId = some (actor, message) ∧
        actor.id = actorId ∧ message.id = messageId ∧
        (call.Allowed U lower actor message s s' ↔ ∀ c ∈ s.channels, ∀ u ∈ s.users,
          ¬ Misread U lower s.toDirectory call.queried actor message c u) := by
  refine ⟨fun actor message h => Call.allowed_iff_forall hkey h, fun actorId messageId h => ?_⟩
  rw [retryMessageNotifications] at h
  cases hfound : retriedMessage s actorId messageId with
  | none =>
      rw [hfound] at h
      exact Or.inl ⟨rfl, (Except.ok.inj h).symm⟩
  | some am =>
      obtain ⟨actor, message⟩ := am
      rw [hfound] at h
      obtain ⟨hactor, hmessage⟩ := retriedMessage_ids hfound
      exact Or.inr ⟨actor, message, rfl, hactor, hmessage, Call.allowed_iff_forall hkey h⟩

/-- Alice has written `@here` while Bob was online. -/
def hereInbox : Inbox where
  users := [{ id := 1, username := "alice" }, { id := 2, username := "bob" }]
  channels := [{ id := 11, name := "main", createdAt := 0 }]
  messages := [{ id := 21, channelId := 11, username := "alice", text := "@here lunch?",
                 createdAt := 5, ownerSession := 5, ownerUserId := some 1,
                 metadata := .chat none [] (some .here) [2] }]
  wellFormed := ⟨by decide, by decide, by decide⟩
  savedKey := by exact List.nodup_nil

/-- The user and the message that a retry reads, by the text of the message. -/
def hereRetry (text : String) (edited : Bool) : AuthUser × ChatMessage :=
  ({ alice with permissions := [] },
    { id := 21, channel := "main", username := "alice", text := text, createdAt := 5
      edited := edited, deleted := false, rootMessageId := none, replyCount := 0
      metadata := .chat none [] (some .here) [2], mentions := [], clientId := none, fileIds := [] })

/-- Alice edits her message before the retry. -/
def editedInbox : Inbox := step .ascii id hereInbox (.edit "main" 21 5 "lunch?")

/-- The tables after a retry of the outbox. -/
def retried (s : Inbox) : Inbox :=
  s.after (retryMessageNotifications .ascii id (callFrom 100) 1 21 s)

lemma Inbox.eq_ok_after {s : Inbox} {result : Except RepositoryError Inbox}
    (h : result.isOk = true) : result = .ok (s.after result) := by
  cases result with
  | ok s' => rfl
  | error e => exact absurd h Bool.false_ne_true

/-- A retry before the edit mentions Bob, who allows that. -/
theorem allowed_here :
    Unique PreferenceRow.userId hereInbox.notificationPreferences ∧
    retryMessageNotifications .ascii id (callFrom 100) 1 21 hereInbox = .ok (retried hereInbox) ∧
    (callFrom 100).Allowed .ascii id (hereRetry "@here lunch?" false).1
      (hereRetry "@here lunch?" false).2 hereInbox (retried hereInbox) := by
  have hok : retryMessageNotifications .ascii id (callFrom 100) 1 21 hereInbox =
      .ok (retried hereInbox) := Inbox.eq_ok_after (by decide +kernel)
  have hread : retriedMessage hereInbox 1 21 = some (hereRetry "@here lunch?" false) := by
    decide +kernel
  refine ⟨unique_nil, hok, ?_⟩
  obtain ⟨hnone, -⟩ | ⟨actor, message, hfound, -, -, hiff⟩ :=
    (allowed_iff .ascii id (callFrom 100) hereInbox (retried hereInbox) unique_nil).2 1 21 hok
  · exact absurd (hread.symm.trans hnone) (by simp)
  · obtain ⟨rfl, rfl⟩ := Prod.mk.inj (Option.some.inj (hfound.symm.trans hread))
    exact hiff.mpr (by decide +kernel)

/-- After the edit Bob, who has set no preferences, is notified of a message of the channel. -/
theorem not_allowed_edited :
    retriedMessage editedInbox 1 21 = some (hereRetry "lunch?" true) ∧
    retryMessageNotifications .ascii id (callFrom 100) 1 21 editedInbox =
      .ok (retried editedInbox) ∧
    ¬ (callFrom 100).Allowed .ascii id (hereRetry "lunch?" true).1 (hereRetry "lunch?" true).2
      editedInbox (retried editedInbox) := by
  have hok : retryMessageNotifications .ascii id (callFrom 100) 1 21 editedInbox =
      .ok (retried editedInbox) := Inbox.eq_ok_after (by decide +kernel)
  refine ⟨by decide +kernel, hok, fun hallowed => ?_⟩
  obtain ⟨n, hn, huser, hkind⟩ : ∃ n ∈ (retried editedInbox).notifications, n.userId = 2 ∧
      n.kind = .channelMessage := by
    decide +kernel
  have hwrites : (callFrom 100).Writes .ascii id (hereRetry "lunch?" true).1
      (hereRetry "lunch?" true).2 editedInbox (retried editedInbox) n :=
    ⟨hn, Or.inl fun n₀ hn₀ => absurd hn₀ List.not_mem_nil⟩
  have hallows := (hallowed n hwrites).2
  rw [huser, hkind] at hallows
  exact absurd hallows (by decide +kernel)

end Calls

end Notifications

end Vussa
