import Vussa.Lib.Run
import Vussa.Lib.Unique
import Vussa.Access.Queries

/-!
The notifications of a message (`api/notifications.rs`): `create_message_notifications_with_clock`,
`retry_message_notifications` and `update_notification_preferences`, on the tables `notifications`
and `notification_deliveries` with their unique indexes.

The query for the recipients is `messageRecipients` of `Vussa.Access.Queries`. A call draws the
identifiers of its rows with `Uuid::now_v7`; `fresh` lists them in the order they are drawn. A
statement that a key or a reference refuses is a database error, and the transaction is rolled back.

* `NotificationRow`, `DeliveryRow`, `Inbox`: the tables;
* `upsertNotifications`, `insertDeliveries`: the two statements of the transaction;
* `createMessageNotifications`, `retryMessageNotifications`, `updateNotificationPreferences`: the
  functions;
* `Act`, `step`: calls for any messages, with changes of preferences and edits in between.
-/

namespace Vussa.Notifications

open Table

/-! ### Tables -/

/-- A row of `notifications`; the only insert gives `message_id` and `channel_id`. -/
structure NotificationRow where
  id : Uuid
  userId : Uuid
  actorUserId : Uuid
  kind : NotificationKind
  messageId : Uuid
  channelId : Uuid
  body : String
  createdAt : Millis
  deriving DecidableEq, Repr

/-- The channels of `notification_deliveries_channel_check`. -/
inductive DeliveryChannel where
  | email | browser
  deriving DecidableEq, Repr

/-- A row of `notification_deliveries`. -/
structure DeliveryRow where
  id : Uuid
  notificationId : Uuid
  userId : Uuid
  channel : DeliveryChannel
  email : String
  kind : NotificationKind
  body : String
  attempts : ℕ := 0
  nextAttemptAt : ℤ
  claimedAt : Option ℤ := none
  sentAt : Option ℤ := none
  lastError : Option String := none
  deriving DecidableEq, Repr

/-- The tables with the notifications and their deliveries. -/
structure Inbox extends Directory where
  notifications : List NotificationRow := []
  deliveries : List DeliveryRow := []

/-- The columns of `notifications_recipient_message_kind_idx`. -/
def NotificationRow.key (n : NotificationRow) : Uuid × Uuid × NotificationKind :=
  (n.userId, n.messageId, n.kind)

/-- The columns of `notification_deliveries_notification_channel_idx`. -/
def DeliveryRow.key (d : DeliveryRow) : Uuid × DeliveryChannel := (d.notificationId, d.channel)

/-! ### The statements -/

/-- The references of `notifications` to the message and to the actor. -/
def Inbox.Refers (s : Inbox) (actorId messageId : Uuid) : Prop :=
  (∃ m ∈ s.messages, m.id = messageId) ∧ ∃ u ∈ s.users, u.id = actorId

instance (s : Inbox) (actorId messageId : Uuid) : Decidable (s.Refers actorId messageId) :=
  inferInstanceAs (Decidable (_ ∧ _))

/-- `INSERT INTO notifications ... ON CONFLICT (user_id, message_id, kind) DO UPDATE SET body`, row
by row: the table, and what `RETURNING` gives. A row that the statement itself has written cannot be
written again. -/
def upsertNotifications (valid : Bool) (actorId messageId : Uuid) (createdAt : Millis) :
    List (Uuid × Recipient) → List Uuid → List NotificationRow →
    Except RepositoryError (List NotificationRow × List ((Uuid × NotificationKind) × Uuid))
  | [], _, rows => .ok (rows, [])
  | (id, r) :: inputs, written, rows =>
      match rows.find? fun n => n.key = (r.userId, messageId, r.kind) with
      | some n =>
          if n.id ∈ written then .error .database
          else
            (upsertNotifications valid actorId messageId createdAt inputs (n.id :: written)
              (rows.map fun n' => if n'.id = n.id then { n' with body := r.body } else n')).map
              fun (rows', returned) => (rows', ((r.userId, r.kind), n.id) :: returned)
      | none =>
          if ¬ valid ∨ ∃ n ∈ rows, n.id = id then .error .database
          else
            (upsertNotifications valid actorId messageId createdAt inputs (id :: written)
              (rows ++ [{ id := id, userId := r.userId, actorUserId := actorId, kind := r.kind,
                          messageId := messageId, channelId := r.channelId, body := r.body,
                          createdAt := createdAt }])).map
              fun (rows', returned) => (rows', ((r.userId, r.kind), id) :: returned)

/-- The channels a recipient has enabled. -/
def Recipient.channels (r : Recipient) : List DeliveryChannel :=
  (if r.emailEnabled then [.email] else []) ++ if r.browserEnabled then [.browser] else []

/-- The deliveries of the recipients whose notification the first statement returned. -/
def deliveryInputs (returned : List ((Uuid × NotificationKind) × Uuid))
    (recipients : List Recipient) : List (Uuid × Recipient × DeliveryChannel) :=
  recipients.flatMap fun r =>
    match returned.lookup (r.userId, r.kind) with
    | none => []
    | some notificationId => (Recipient.channels r).map fun c => (notificationId, r, c)

/-- `INSERT INTO notification_deliveries ... ON CONFLICT (notification_id, channel) DO NOTHING`. -/
def insertDeliveries (now : ℤ) :
    List (Uuid × Uuid × Recipient × DeliveryChannel) → List DeliveryRow →
    Except RepositoryError (List DeliveryRow)
  | [], rows => .ok rows
  | (id, notificationId, r, channel) :: inputs, rows =>
      if (∃ d ∈ rows, d.id = id) ∧ ∀ d ∈ rows, d.key ≠ (notificationId, channel) then
        .error .database
      else
        insertDeliveries now inputs (insertNew DeliveryRow.key rows
          { id := id, notificationId := notificationId, userId := r.userId, channel := channel,
            email := r.email, kind := r.kind, body := r.body, nextAttemptAt := now })

/-! ### The functions -/

/-- What a call takes from its surroundings: the identifiers it draws, and the instants of its two
readings of the clock. -/
structure Call where
  fresh : ℕ → Uuid
  queried : Millis
  now : Millis

section Functions

variable (U : Unicode) (lower : String → String)

/-- `create_message_notifications_with_clock`. -/
def createMessageNotifications (call : Call) (actor : AuthUser) (message : ChatMessage)
    (s : Inbox) : Except RepositoryError Inbox :=
  let recipients := messageRecipients U lower s.toDirectory call.queried actor message
  if recipients = [] then .ok s
  else do
    let (notifications, returned) ← upsertNotifications (s.Refers actor.id message.id) actor.id
      message.id message.createdAt (recipients.mapIdx fun i r => (call.fresh i, r)) []
      s.notifications
    let deliveries ← insertDeliveries ((call.now : ℕ) : ℤ)
      ((deliveryInputs returned recipients).mapIdx fun i x =>
        (call.fresh (recipients.length + i), x)) s.deliveries
    return { s with notifications, deliveries }

/-- The user and the message that `retry_message_notifications` reads back: the message with its
text even where it is deleted, and the user without roles. -/
def retriedMessage (s : Inbox) (actorId messageId : Uuid) : Option (AuthUser × ChatMessage) :=
  (s.messages.find? fun m => m.id = messageId).bind fun m =>
    (s.channels.find? fun c => c.id = m.channelId).bind fun c =>
      (s.users.find? fun u => u.id = actorId).map fun u =>
        ({ id := u.id, email := s.email u.id, username := u.username, roles := [],
           permissions := [] },
         { s.view c.name m with text := m.text, replyCount := 0 })

/-- `retry_message_notifications`. -/
def retryMessageNotifications (call : Call) (actorId messageId : Uuid) (s : Inbox) :
    Except RepositoryError Inbox :=
  match retriedMessage s actorId messageId with
  | none => .ok s
  | some (actor, message) => createMessageNotifications U lower call actor message s

/-- `NotificationPreferencesUpdate`. -/
structure PreferencesUpdate where
  mentions : Option Bool := none
  directMessages : Option Bool := none
  channelMessages : Option Bool := none
  emailEnabled : Option Bool := none
  browserPushEnabled : Option Bool := none
  deriving DecidableEq, Repr

/-- The columns of an update, over those of a row. -/
def PreferencesUpdate.apply (request : PreferencesUpdate) (p : PreferenceRow) : PreferenceRow :=
  { p with
    mentions := request.mentions.getD p.mentions
    directMessages := request.directMessages.getD p.directMessages
    channelMessages := request.channelMessages.getD p.channelMessages
    emailEnabled := request.emailEnabled.getD p.emailEnabled
    browserPushEnabled := request.browserPushEnabled.getD p.browserPushEnabled }

/-- `update_notification_preferences`. -/
def updateNotificationPreferences (userId : Uuid) (request : PreferencesUpdate) (s : Inbox) :
    Inbox :=
  if ∃ p ∈ s.notificationPreferences, p.userId = userId then
    { s with notificationPreferences := s.notificationPreferences.map fun p =>
        if p.userId = userId then request.apply p else p }
  else { s with notificationPreferences :=
          s.notificationPreferences ++ [request.apply { userId := userId }] }

/-! ### Runs -/

/-- A call, or a change in between. -/
inductive Act where
  /-- the first send, or a retry of the client with the message it finds -/
  | create (call : Call) (actor : AuthUser) (message : ChatMessage)
  /-- a retry of the outbox -/
  | retry (call : Call) (actorId messageId : Uuid)
  | preferences (userId : Uuid) (request : PreferencesUpdate)
  | edit (channel : String) (id ownerSession : Uuid) (text : String)

/-- The tables after a call that may have failed. -/
def Inbox.after (s : Inbox) : Except RepositoryError Inbox → Inbox
  | .ok s' => s'
  | .error _ => s

/-- An edit keeps the keys of the tables. -/
lemma edit_wellFormed {db db' : Database} {channel text : String} {id session : Uuid}
    {message : ChatMessage} (hwf : db.WellFormed)
    (h : editMessage db channel id session text = .ok (db', message)) : db'.WellFormed := by
  obtain ⟨c, m, -, -, rfl, -⟩ := editMessage_ok h
  exact wellFormed_updateMessage hwf id (MessageRow.placed_edit text)

/-- One step. -/
def step (s : Inbox) : Act → Inbox
  | .create call actor message => s.after (createMessageNotifications U lower call actor message s)
  | .retry call actorId messageId =>
      s.after (retryMessageNotifications U lower call actorId messageId s)
  | .preferences userId request => updateNotificationPreferences userId request s
  | .edit channel id ownerSession text =>
      match h : editMessage s.toDatabase channel id ownerSession text with
      | .ok (db, _) => { s with toDatabase := db, wellFormed := edit_wellFormed s.wellFormed h }
      | .error _ => s

end Functions

end Vussa.Notifications
