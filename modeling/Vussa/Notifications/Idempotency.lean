import Vussa.Notifications.Model

/-!
How many notifications a message gets when its calls are repeated. The unique index keeps a
notification apart by its kind, and every call computes the kind from the preferences and the text
of the moment.

* `Indexed`: the two unique indexes, kept by every call;
* `Finds`: a call finds a user among the recipients of a message, under a kind;
* `notification_cases`: every notification was there before, or a call finds its user;
* `notified_once`: **a recipient gets at most one notification of each kind, with one delivery per
  channel, and at most one of all kinds while the calls agree on the kind**.
-/

namespace Vussa.Notifications

open Run Table Effect

/-! ### The statements -/

section Statements

variable {valid : Bool} {actorId messageId : Uuid} {createdAt : Millis}

/-- The first input of the upsert: it updates the row of its key, or inserts one. -/
lemma upsertNotifications_cons {id : Uuid} {r : Recipient} {inputs : List (Uuid × Recipient)}
    {written : List Uuid} {rows rows' : List NotificationRow}
    {returned : List ((Uuid × NotificationKind) × Uuid)}
    (h : upsertNotifications valid actorId messageId createdAt ((id, r) :: inputs) written rows
      = .ok (rows', returned)) :
    ∃ written₁ rows₁ returned₁,
      upsertNotifications valid actorId messageId createdAt inputs written₁ rows₁
        = .ok (rows', returned₁) ∧
      ((∃ f : NotificationRow → NotificationRow, (∀ n, (f n).key = n.key) ∧ rows₁ = rows.map f ∧
          ∃ n ∈ rows, n.key = (r.userId, messageId, r.kind)) ∨
        ∃ row : NotificationRow, row.key = (r.userId, messageId, r.kind) ∧
          rows₁ = rows ++ [row] ∧ ∀ n ∈ rows, n.key ≠ row.key) := by
  rw [upsertNotifications] at h
  split at h
  · rename_i n hfind
    split_ifs at h
    obtain ⟨⟨rows₁, returned₁⟩, hrest, heq⟩ := map_eq_ok h
    obtain ⟨rfl, -⟩ := Prod.mk.injEq .. ▸ heq
    have hkey : n.key = (r.userId, messageId, r.kind) := by simpa using List.find?_some hfind
    exact ⟨_, _, _, hrest, Or.inl ⟨_, fun n => by split_ifs <;> rfl, rfl, n,
      List.mem_of_find?_eq_some hfind, hkey⟩⟩
  · rename_i hnone
    split_ifs at h
    obtain ⟨⟨rows₁, returned₁⟩, hrest, heq⟩ := map_eq_ok h
    obtain ⟨rfl, -⟩ := Prod.mk.injEq .. ▸ heq
    refine ⟨_, _, _, hrest, Or.inr ⟨_, rfl, rfl, fun n hn hsame => ?_⟩⟩
    exact List.find?_eq_none.mp hnone n hn (decide_eq_true hsame)

lemma upsertNotifications_unique {inputs : List (Uuid × Recipient)} {written : List Uuid}
    {rows rows' : List NotificationRow} {returned : List ((Uuid × NotificationKind) × Uuid)}
    (hkey : Unique NotificationRow.key rows)
    (h : upsertNotifications valid actorId messageId createdAt inputs written rows
      = .ok (rows', returned)) : Unique NotificationRow.key rows' := by
  induction inputs generalizing written rows returned with
  | nil =>
      rw [upsertNotifications, Except.ok.injEq, Prod.mk.injEq] at h
      exact h.1 ▸ hkey
  | cons input inputs ih =>
      obtain ⟨written₁, rows₁, returned₁, hrest, ⟨f, hf, rfl, -⟩ | ⟨row, -, rfl, hnew⟩⟩ :=
        upsertNotifications_cons h
      · exact ih (hkey.map hf) hrest
      · exact ih (hkey.append hnew) hrest

/-- A notification after the upsert has the key of one before, or of an input. -/
lemma mem_upsertNotifications {inputs : List (Uuid × Recipient)} {written : List Uuid}
    {rows rows' : List NotificationRow} {returned : List ((Uuid × NotificationKind) × Uuid)}
    (h : upsertNotifications valid actorId messageId createdAt inputs written rows
      = .ok (rows', returned)) {n' : NotificationRow} (hn' : n' ∈ rows') :
    (∃ n ∈ rows, n.key = n'.key) ∨
      ∃ x ∈ inputs, n'.key = (x.2.userId, messageId, x.2.kind) := by
  induction inputs generalizing written rows returned with
  | nil =>
      rw [upsertNotifications, Except.ok.injEq, Prod.mk.injEq] at h
      exact Or.inl ⟨n', h.1 ▸ hn', rfl⟩
  | cons input inputs ih =>
      obtain ⟨written₁, rows₁, returned₁, hrest, hrows⟩ := upsertNotifications_cons h
      rcases ih hrest with ⟨n, hn, hkey⟩ | ⟨x, hx, hkey⟩
      · rcases hrows with ⟨f, hf, rfl, -⟩ | ⟨row, hrow, rfl, -⟩
        · obtain ⟨n₀, hn₀, rfl⟩ := List.mem_map.mp hn
          exact Or.inl ⟨n₀, hn₀, (hf n₀).symm.trans hkey⟩
        · rcases List.mem_append.mp hn with hold | hnew
          · exact Or.inl ⟨n, hold, hkey⟩
          · rw [List.mem_singleton.mp hnew] at hkey
            exact Or.inr ⟨input, List.mem_cons_self, hkey.symm.trans hrow⟩
      · exact Or.inr ⟨x, List.mem_cons_of_mem input hx, hkey⟩

/-- The upsert keeps the keys of its rows. -/
lemma upsertNotifications_keeps {inputs : List (Uuid × Recipient)} {written : List Uuid}
    {rows rows' : List NotificationRow} {returned : List ((Uuid × NotificationKind) × Uuid)}
    (h : upsertNotifications valid actorId messageId createdAt inputs written rows
      = .ok (rows', returned)) {n : NotificationRow} (hn : n ∈ rows) :
    ∃ n' ∈ rows', n'.key = n.key := by
  induction inputs generalizing written rows returned n with
  | nil =>
      rw [upsertNotifications, Except.ok.injEq, Prod.mk.injEq] at h
      exact ⟨n, h.1 ▸ hn, rfl⟩
  | cons input inputs ih =>
      obtain ⟨written₁, rows₁, returned₁, hrest, ⟨f, hf, rfl, -⟩ | ⟨row, -, rfl, -⟩⟩ :=
        upsertNotifications_cons h
      · obtain ⟨n', hn', hkey⟩ := ih hrest (List.mem_map_of_mem hn)
        exact ⟨n', hn', hkey.trans (hf n)⟩
      · exact ih hrest (List.mem_append_left _ hn)

/-- Every input of the upsert has its row after it. -/
lemma exists_upsertNotifications {inputs : List (Uuid × Recipient)} {written : List Uuid}
    {rows rows' : List NotificationRow} {returned : List ((Uuid × NotificationKind) × Uuid)}
    (h : upsertNotifications valid actorId messageId createdAt inputs written rows
      = .ok (rows', returned)) {x : Uuid × Recipient} (hx : x ∈ inputs) :
    ∃ n ∈ rows', n.key = (x.2.userId, messageId, x.2.kind) := by
  induction inputs generalizing written rows returned with
  | nil => exact absurd hx List.not_mem_nil
  | cons input inputs ih =>
      obtain ⟨written₁, rows₁, returned₁, hrest, hrows⟩ := upsertNotifications_cons h
      rcases List.mem_cons.mp hx with rfl | hx
      · rcases hrows with ⟨f, hf, rfl, n, hn, hkey⟩ | ⟨row, hkey, rfl, -⟩
        · obtain ⟨n', hn', hsame⟩ := upsertNotifications_keeps hrest (List.mem_map_of_mem hn)
          exact ⟨n', hn', hsame.trans ((hf n).trans hkey)⟩
        · obtain ⟨n', hn', hsame⟩ := upsertNotifications_keeps hrest
            (List.mem_append_right _ (List.mem_singleton_self row))
          exact ⟨n', hn', hsame.trans hkey⟩
      · exact ih hrest hx

lemma insertDeliveries_unique {now : ℤ}
    {inputs : List (Uuid × Uuid × Recipient × DeliveryChannel)} {rows rows' : List DeliveryRow}
    (hkey : Unique DeliveryRow.key rows) (h : insertDeliveries now inputs rows = .ok rows') :
    Unique DeliveryRow.key rows' := by
  induction inputs generalizing rows with
  | nil =>
      rw [insertDeliveries, Except.ok.injEq] at h
      exact h ▸ hkey
  | cons input inputs ih =>
      obtain ⟨id, notificationId, r, channel⟩ := input
      rw [insertDeliveries] at h
      split_ifs at h
      exact ih (hkey.insertNew _) h

end Statements

/-! ### The calls -/

/-- The unique indexes of the two tables. -/
structure Indexed (s : Inbox) : Prop where
  notifications : Unique NotificationRow.key s.notifications
  deliveries : Unique DeliveryRow.key s.deliveries

variable {U : Unicode} {lower : String → String}

/-- A call with notifications to make runs both statements. -/
lemma createMessageNotifications_ok {call : Call} {actor : AuthUser} {message : ChatMessage}
    {s s' : Inbox} (h : createMessageNotifications U lower call actor message s = .ok s') :
    (s' = s ∧ messageRecipients U lower s.toDirectory call.queried actor message = []) ∨
      ∃ notifications returned deliveries,
      upsertNotifications (s.Refers actor.id message.id) actor.id message.id message.createdAt
        ((messageRecipients U lower s.toDirectory call.queried actor message).mapIdx
          fun i r => (call.fresh i, r)) [] s.notifications = .ok (notifications, returned) ∧
      (∃ inputs, insertDeliveries ((call.now : ℕ) : ℤ) inputs s.deliveries = .ok deliveries) ∧
      s' = { s with notifications, deliveries } := by
  rw [createMessageNotifications] at h
  dsimp only at h
  split_ifs at h with hnone
  · exact Or.inl ⟨(Except.ok.inj h).symm, hnone⟩
  · obtain ⟨⟨notifications, returned⟩, hupsert, h⟩ := bind_eq_ok h
    obtain ⟨deliveries, hinsert, h⟩ := bind_eq_ok h
    exact Or.inr ⟨notifications, returned, deliveries, hupsert, ⟨_, hinsert⟩,
      (Except.ok.inj h).symm⟩

variable (U lower) in
/-- The call finds the user `userId` under the kind among the recipients of the message. -/
def Call.Finds (call : Call) (actor : AuthUser) (message : ChatMessage) (s : Inbox)
    (k : Uuid × Uuid × NotificationKind) : Prop :=
  message.id = k.2.1 ∧ ∃ r ∈ messageRecipients U lower s.toDirectory call.queried actor message,
    r.userId = k.1 ∧ r.kind = k.2.2

lemma createMessageNotifications_indexed {call : Call} {actor : AuthUser} {message : ChatMessage}
    {s s' : Inbox} (hs : Indexed s)
    (h : createMessageNotifications U lower call actor message s = .ok s') : Indexed s' := by
  obtain ⟨rfl, -⟩ | ⟨notifications, returned, deliveries, hupsert, ⟨inputs, hinsert⟩, rfl⟩ :=
    createMessageNotifications_ok h
  · exact hs
  · exact ⟨upsertNotifications_unique hs.notifications hupsert,
      insertDeliveries_unique hs.deliveries hinsert⟩

lemma mem_createMessageNotifications {call : Call} {actor : AuthUser} {message : ChatMessage}
    {s s' : Inbox} (h : createMessageNotifications U lower call actor message s = .ok s')
    {n' : NotificationRow} (hn' : n' ∈ s'.notifications) :
    (∃ n ∈ s.notifications, n.key = n'.key) ∨ call.Finds U lower actor message s n'.key := by
  obtain ⟨rfl, -⟩ | ⟨notifications, returned, deliveries, hupsert, -, rfl⟩ :=
    createMessageNotifications_ok h
  · exact Or.inl ⟨n', hn', rfl⟩
  · refine (mem_upsertNotifications hupsert hn').imp_right ?_
    rintro ⟨x, hx, hkey⟩
    obtain ⟨i, hi, rfl⟩ := List.mem_mapIdx.mp hx
    rw [Call.Finds, hkey]
    exact ⟨rfl, _, List.getElem_mem hi, rfl, rfl⟩

/-- A user whom a call finds has a notification after it. -/
lemma Call.Finds.exists_notification {call : Call} {actor : AuthUser} {message : ChatMessage}
    {s s' : Inbox} {k : Uuid × Uuid × NotificationKind}
    (hfinds : call.Finds U lower actor message s k)
    (h : createMessageNotifications U lower call actor message s = .ok s') :
    ∃ n ∈ s'.notifications, n.key = k := by
  obtain ⟨userId, messageId, kind⟩ := k
  obtain ⟨rfl, r, hr, rfl, rfl⟩ := hfinds
  obtain ⟨-, hnone⟩ | ⟨notifications, returned, deliveries, hupsert, -, rfl⟩ :=
    createMessageNotifications_ok h
  · rw [hnone] at hr
    exact absurd hr List.not_mem_nil
  · obtain ⟨i, hi, rfl⟩ := List.mem_iff_getElem.mp hr
    exact exists_upsertNotifications hupsert (List.mem_mapIdx.mpr ⟨i, hi, rfl⟩)

/-! ### Runs -/

/-- The call that an action makes: for whom, and for which message. -/
def Act.call? (s : Inbox) : Act → Option (Call × AuthUser × ChatMessage)
  | .create call actor message => some (call, actor, message)
  | .retry call actorId messageId => (retriedMessage s actorId messageId).map fun am => (call, am)
  | .preferences _ _ | .edit _ _ _ _ => none

variable (U lower) in
/-- A step calls, or leaves the notifications as they are. -/
lemma step_cases (s : Inbox) (a : Act) :
    (∃ call actor message s', a.call? s = some (call, actor, message) ∧
      createMessageNotifications U lower call actor message s = .ok s' ∧
      step U lower s a = s') ∨
    ((step U lower s a).notifications = s.notifications ∧
      (step U lower s a).deliveries = s.deliveries) := by
  cases a with
  | create call actor message =>
      rw [step]
      cases h : createMessageNotifications U lower call actor message s with
      | ok s' => exact Or.inl ⟨call, actor, message, s', rfl, h, rfl⟩
      | error e => exact Or.inr ⟨rfl, rfl⟩
  | retry call actorId messageId =>
      rw [step, retryMessageNotifications]
      cases hfound : retriedMessage s actorId messageId with
      | none => exact Or.inr ⟨rfl, rfl⟩
      | some am =>
          obtain ⟨actor, message⟩ := am
          cases h : createMessageNotifications U lower call actor message s with
          | ok s' =>
              refine Or.inl ⟨call, actor, message, s', ?_, h, ?_⟩
              · rw [Act.call?, hfound]
                rfl
              · simp only [h]
                rfl
          | error e =>
              simp only [h]
              exact Or.inr ⟨rfl, rfl⟩
  | preferences userId request =>
      rw [step, updateNotificationPreferences]
      split_ifs
      · exact Or.inr ⟨rfl, rfl⟩
      · exact Or.inr ⟨rfl, rfl⟩
  | edit channel id ownerSession text =>
      rw [step]
      split
      · exact Or.inr ⟨rfl, rfl⟩
      · exact Or.inr ⟨rfl, rfl⟩

lemma step_indexed (s : Inbox) (a : Act) (hs : Indexed s) : Indexed (step U lower s a) := by
  obtain ⟨call, actor, message, s', -, hok, heq⟩ | ⟨hnotifications, hdeliveries⟩ :=
    step_cases U lower s a
  · exact heq ▸ createMessageNotifications_indexed hs hok
  · exact ⟨hnotifications ▸ hs.notifications, hdeliveries ▸ hs.deliveries⟩

variable (U lower) in
/-- The call of an action, if there is one for the message, finds the user under no other kind. -/
def AgreesOn (userId messageId : Uuid) (kind : NotificationKind) (s : Inbox) (a : Act) : Prop :=
  ∀ call actor message, a.call? s = some (call, actor, message) → message.id = messageId →
    ∀ r ∈ messageRecipients U lower s.toDirectory call.queried actor message,
      r.userId = userId → r.kind = kind

/-- The notifications of a user for a message are of one kind. -/
def OfKind (userId messageId : Uuid) (kind : NotificationKind) (s : Inbox) : Prop :=
  ∀ n ∈ s.notifications, n.userId = userId → n.messageId = messageId → n.kind = kind

lemma step_ofKind {userId messageId : Uuid} {kind : NotificationKind} (s : Inbox) (a : Act)
    (hs : OfKind userId messageId kind s) (ha : AgreesOn U lower userId messageId kind s a) :
    OfKind userId messageId kind (step U lower s a) := by
  obtain ⟨call, actor, message, s', hcall, hok, heq⟩ | ⟨hnotifications, -⟩ :=
    step_cases U lower s a
  · intro n' hn' huser hmessage
    rw [heq] at hn'
    rcases mem_createMessageNotifications hok hn' with ⟨n, hn, hkey⟩ | ⟨hid, r, hr, hruser, hrkind⟩
    · obtain ⟨hu, hm, hk⟩ : n.userId = n'.userId ∧ n.messageId = n'.messageId ∧
          n.kind = n'.kind := by
        simpa [NotificationRow.key] using hkey
      exact hk.symm.trans (hs n hn (hu.trans huser) (hm.trans hmessage))
    · exact hrkind.symm.trans (ha call actor message hcall (hid.trans hmessage) r hr
        (hruser.trans huser))
  · intro n hn
    exact hs n (hnotifications ▸ hn)

/-- Rows that all agree outside a unique key are at most one. -/
lemma count_le_one {s : Inbox} (hs : Indexed s) {userId messageId : Uuid}
    {kind : NotificationKind} (hkind : OfKind userId messageId kind s) :
    (s.notifications.filter fun n => n.userId = userId ∧ n.messageId = messageId).length ≤ 1 := by
  have hsame : (s.notifications.filter fun n => n.userId = userId ∧ n.messageId = messageId) =
      s.notifications.filter fun n => n.key = (userId, messageId, kind) := by
    refine List.filter_congr fun n hn => ?_
    simp only [NotificationRow.key, Prod.mk.injEq]
    have h := hkind n hn
    grind
  rw [hsame]
  exact hs.notifications.count_le_one _

/-- The deliveries of a user for a message in one channel. -/
def deliveriesOf (s : Inbox) (userId messageId : Uuid) (channel : DeliveryChannel) :
    List DeliveryRow :=
  s.deliveries.filter fun d => d.channel = channel ∧
    ∃ n ∈ s.notifications, n.id = d.notificationId ∧ n.userId = userId ∧ n.messageId = messageId

/-- A user with one notification of a message gets it once in each channel. -/
lemma deliveriesOf_le_one {s : Inbox} (hs : Indexed s) {userId messageId : Uuid}
    {kind : NotificationKind} (hkind : OfKind userId messageId kind s) (channel : DeliveryChannel) :
    (deliveriesOf s userId messageId channel).length ≤ 1 := by
  by_cases hex : ∃ n ∈ s.notifications, n.userId = userId ∧ n.messageId = messageId
  · obtain ⟨n, hn, huser, hmessage⟩ := hex
    have hsub : (deliveriesOf s userId messageId channel).Sublist
        (s.deliveries.filter fun d => d.key = (n.id, channel)) := by
      refine List.monotone_filter_right _ fun d hd => ?_
      obtain ⟨hchannel, n', hn', hid, huser', hmessage'⟩ := of_decide_eq_true hd
      have hkey : n'.key = n.key := by
        simp only [NotificationRow.key, Prod.mk.injEq]
        exact ⟨huser'.trans huser.symm, hmessage'.trans hmessage.symm,
          (hkind n' hn' huser' hmessage').trans (hkind n hn huser hmessage).symm⟩
      obtain rfl := hs.notifications.eq hn' hn hkey
      exact decide_eq_true (Prod.ext hid.symm hchannel)
    exact hsub.length_le.trans (hs.deliveries.count_le_one _)
  · have hnil : deliveriesOf s userId messageId channel = [] := by
      refine List.filter_eq_nil_iff.mpr fun d _ hd => hex ?_
      obtain ⟨-, n, hn, -, huser, hmessage⟩ := of_decide_eq_true hd
      exact ⟨n, hn, huser, hmessage⟩
    rw [hnil]
    exact Nat.zero_le _

variable (U lower) in
/-- **Repeated calls.** After every sequence of calls, changes of preferences and edits a user has
at most one notification of each kind for a message, and each notification at most one delivery in
each channel. If the user had no notification of another kind for the message before and all calls
that find the user find it under the one kind, the user has at most one notification for it, and at
most one delivery in each channel. -/
theorem notified_once (s : Inbox) (hs : Indexed s) (as : List Act) (userId messageId : Uuid) :
    (∀ kind, ((final (step U lower) s as).notifications.filter fun n =>
      n.userId = userId ∧ n.messageId = messageId ∧ n.kind = kind).length ≤ 1) ∧
    (∀ notificationId channel, ((final (step U lower) s as).deliveries.filter fun d =>
      d.notificationId = notificationId ∧ d.channel = channel).length ≤ 1) ∧
    ∀ kind, OfKind userId messageId kind s →
      Along (step U lower) (AgreesOn U lower userId messageId kind) s as →
      ((final (step U lower) s as).notifications.filter fun n =>
        n.userId = userId ∧ n.messageId = messageId).length ≤ 1 ∧
      ∀ channel,
        (deliveriesOf (final (step U lower) s as) userId messageId channel).length ≤ 1 := by
  have hindexed : Indexed (final (step U lower) s as) :=
    final_invariant (I := Indexed) step_indexed hs as
  refine ⟨fun kind => ?_, fun notificationId channel => ?_, fun kind hbefore halong => ?_⟩
  · have h := hindexed.notifications.count_le_one (userId, messageId, kind)
    simpa only [NotificationRow.key, Prod.mk.injEq] using h
  · have h := hindexed.deliveries.count_le_one (notificationId, channel)
    simpa only [DeliveryRow.key, Prod.mk.injEq] using h
  · have hkind : OfKind userId messageId kind (final (step U lower) s as) :=
      halong.invariant step_ofKind hbefore
    exact ⟨count_le_one hindexed hkind, deliveriesOf_le_one hindexed hkind⟩

/-- Alice has mentioned Bob, who wants e-mails. -/
def mentionInbox : Inbox where
  users := [{ id := 1, username := "alice" }, { id := 2, username := "bob" }]
  channels := [{ id := 11, name := "main", createdAt := 0 }]
  messages := [{ id := 21, channelId := 11, username := "alice", text := "hi @bob",
                 createdAt := 5, ownerSession := 5, ownerUserId := some 1 }]
  notificationPreferences := [{ userId := 2, emailEnabled := true }]
  wellFormed := ⟨by decide, by decide, by decide⟩
  savedKey := by decide

/-- The author of the message. -/
def alice : AuthUser :=
  { id := 1, email := "", username := "alice", roles := [], permissions := [.chatWrite] }

/-- A call whose identifiers begin with `n`. -/
def callFrom (n : ℕ) : Call := { fresh := fun i => Fin.ofNat _ (n + i), queried := 10, now := 10 }

/-- The call of the first send, or of a retry by the client. -/
def sent (n : ℕ) : Act :=
  .create (callFrom n) alice
    ((mentionInbox.messages.map (mentionInbox.view "main")).head (by decide))

/-- While Bob's preferences stay, he is notified once. -/
theorem sentTwice_notified : Indexed mentionInbox ∧
    ((final (step .ascii id) mentionInbox [sent 100, sent 200]).notifications.filter fun n =>
      n.userId = 2 ∧ n.messageId = 21).length ≤ 1 := by
  have hindexed : Indexed mentionInbox := ⟨unique_nil, unique_nil⟩
  have hagrees : ∀ s, s = mentionInbox ∨ s = step .ascii id mentionInbox (sent 100) →
      ∀ r ∈ messageRecipients .ascii id s.toDirectory 10 alice
        ((mentionInbox.messages.map (mentionInbox.view "main")).head (by decide)),
        r.kind = .mention := by
    rintro s (rfl | rfl)
    · decide +kernel
    · decide +kernel
  refine ⟨hindexed, ((notified_once .ascii id mentionInbox hindexed [sent 100, sent 200] 2 21).2.2
    .mention (by simp [OfKind, mentionInbox]) ⟨?_, ?_, trivial⟩).1⟩
  · rintro call actor message hcall - r hr -
    obtain ⟨rfl, rfl, rfl⟩ : callFrom 100 = call ∧ alice = actor ∧ _ = message := by
      simpa [Act.call?, sent] using hcall
    exact hagrees _ (Or.inl rfl) r hr
  · rintro call actor message hcall - r hr -
    obtain ⟨rfl, rfl, rfl⟩ : callFrom 200 = call ∧ alice = actor ∧ _ = message := by
      simpa [Act.call?, sent] using hcall
    exact hagrees _ (Or.inr rfl) r hr

/-- Bob turns mentions off and channel messages on between the send and the client's retry: he gets
two notifications of the message, and two e-mails. -/
theorem retried_notifiesTwice :
    ¬ ∀ as userId, ((final (step .ascii id) mentionInbox as).notifications.filter fun n =>
        n.userId = userId ∧ n.messageId = 21).length ≤ 1 ∧
      ∀ channel,
        (deliveriesOf (final (step .ascii id) mentionInbox as) userId 21 channel).length ≤ 1 := by
  intro h
  have htwice := (h [sent 100,
    .preferences 2 { mentions := some false, channelMessages := some true }, sent 200] 2).2 .email
  exact absurd htwice (by decide +kernel)

end Vussa.Notifications
