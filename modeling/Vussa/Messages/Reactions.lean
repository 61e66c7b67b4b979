import Vussa.Model.Handler

/-!
What a reaction publishes. The write of `AddReaction` and `RemoveReaction` joins the message with
the channel of the socket; the summary that `broadcast_reaction` reads back and publishes takes
the identifier the client sent, whatever channel the message is in.

* `publications`: the events a handler published;
* `SeparatesChannels`: the published reactions concern messages of their room and depend on the
  reactions stored for messages of that room only;
* `publications_react`: what the two arms publish;
* `separatesChannels_iff`: **separation holds exactly when** the event is refused or its message
  belongs to the channel of the socket.
-/

namespace Vussa

open Effect

/-- The events a handler published. -/
def publications {α : Type} (x : App α) (s : Shared) : List (String × ServerEvent) :=
  (after x s).published.drop s.published.length

/-- The message belongs to the live channel of the name. -/
def BelongsTo (db : Database) (channel : String) (messageId : Uuid) : Prop :=
  (db.messageIn? channel messageId).isSome

instance (db : Database) (channel : String) (messageId : Uuid) :
    Decidable (BelongsTo db channel messageId) :=
  inferInstanceAs (Decidable ((db.messageIn? channel messageId).isSome = true))

/-- The same state with other rows in `message_reactions`. -/
def Shared.setReactions (s : Shared) (rows : List ReactionRow) : Shared :=
  s.setDb { s.db with messageReactions := rows }

/-- The reactions stored for messages of a channel. -/
def reactionsIn (db : Database) (channel : String) (rows : List ReactionRow) : List ReactionRow :=
  rows.filter fun r => BelongsTo db channel r.messageId

/-- Published reactions concern messages of the room they are published to, and replacing the
reactions stored for messages of other channels changes nothing that is published. -/
structure SeparatesChannels (s : Shared) (channel : String) (x : App Reply) : Prop where
  concerns : ∀ room c r, (room, ServerEvent.reactionUpdated c r) ∈ publications x s →
    BelongsTo s.db room r.messageId
  independent : ∀ rows, reactionsIn s.db channel rows = reactionsIn s.db channel
    s.db.messageReactions → publications x (s.setReactions rows) = publications x s

/-- The two events on reactions. -/
def ClientEvent.reaction (add : Bool) (messageId : Uuid) (emoji : String) : ClientEvent :=
  if add then .addReaction messageId emoji else .removeReaction messageId emoji

/-- The event passes the checks of its arm. -/
def ReactionAllowed (s : Shared) (user : AuthUser) (channel emoji : String) : Prop :=
  Permission.chatWrite ∈ user.permissions ∧ ChannelAccess s.db s.now channel user.id ∧
    (normalizeEmoji emoji).isOk

instance (s : Shared) (user : AuthUser) (channel emoji : String) :
    Decidable (ReactionAllowed s user channel emoji) :=
  inferInstanceAs (Decidable (_ ∧ _))

/-! ### The two arms -/

/-- The tables after the guarded write. -/
def reactedDb (add : Bool) (s : Shared) (user : AuthUser) (channel : String) (messageId : Uuid)
    (emoji : String) : Database :=
  if add then s.db.addReaction channel messageId user.id emoji s.now
  else s.db.removeReaction channel messageId user.id emoji

lemma handleClientEvent_reaction (U : Unicode) (fresh : Fresh) (user : AuthUser) (session : Uuid)
    (active : Bool) (channel : String) (add : Bool) (messageId : Uuid) (emoji : String) :
    handleClientEvent U fresh user session active channel (.reaction add messageId emoji)
      = react add user channel messageId emoji := by
  cases add with
  | true => rfl
  | false => rfl

/-- A refused event publishes nothing. -/
lemma publications_react_refused {add : Bool} {s : Shared} {user : AuthUser} {channel : String}
    {messageId : Uuid} {raw : String} (h : ¬ ReactionAllowed s user channel raw) :
    publications (react add user channel messageId raw) s = [] := by
  have hstay : after (react add user channel messageId raw) s = s := by
    rw [react, after]
    simp only [check, run_bind, run_read, requirePermission, ensureChannelAccess]
    by_cases hperm : Permission.chatWrite ∈ user.permissions
    · by_cases haccess : ChannelAccess s.db s.now channel user.id
      · cases hemoji : normalizeEmoji raw with
        | error e => simp only [if_pos hperm, if_pos haccess]
        | ok emoji => exact absurd ⟨hperm, haccess, by rw [hemoji]; rfl⟩ h
      · simp only [if_pos hperm, if_neg haccess]
    · simp only [if_neg hperm]
  rw [publications, hstay, List.drop_length]

/-- **What is published**: one event, to the room of the socket, with the summary of whatever
message the client named. -/
theorem publications_react {add : Bool} {s : Shared} {user : AuthUser} {channel : String}
    {messageId : Uuid} {raw emoji : String} (hperm : Permission.chatWrite ∈ user.permissions)
    (haccess : ChannelAccess s.db s.now channel user.id) (hemoji : normalizeEmoji raw = .ok emoji) :
    publications (react add user channel messageId raw) s
      = [(channel, .reactionUpdated channel
          (reactionSummary (reactedDb add s user channel messageId emoji) messageId emoji))] := by
  have hpub : (after (react add user channel messageId raw) s).published = s.published ++
      [(channel, .reactionUpdated channel
        (reactionSummary (reactedDb add s user channel messageId emoji) messageId emoji))] := by
    rw [react, after]
    simp only [check, run_bind, run_read, requirePermission, if_pos hperm, ensureChannelAccess,
      if_pos haccess, hemoji, run_update, run_pure, broadcastReaction]
    rfl
  rw [publications, hpub, List.drop_left]

/-! ### What the summary reads -/

/-- The rows of one message. -/
def reactionsOf (messageId : Uuid) (rows : List ReactionRow) : List ReactionRow :=
  rows.filter fun r => r.messageId = messageId

/-- The reactions of a message of the channel are among those of the channel. -/
lemma reactionsOf_reactionsIn {db : Database} {channel : String} {messageId : Uuid}
    (h : BelongsTo db channel messageId) (rows : List ReactionRow) :
    reactionsOf messageId (reactionsIn db channel rows) = reactionsOf messageId rows := by
  rw [reactionsOf, reactionsIn, List.filter_filter, reactionsOf]
  refine List.filter_congr fun r _ => ?_
  by_cases hr : r.messageId = messageId
  · simp [hr, h]
  · simp [hr]

lemma exists_reactionsOf {messageId : Uuid} {rows : List ReactionRow} {p : ReactionRow → Prop} :
    (∃ r ∈ rows, r.messageId = messageId ∧ p r) ↔ ∃ r ∈ reactionsOf messageId rows, p r := by
  refine ⟨?_, ?_⟩
  · rintro ⟨r, hr, hid, hp⟩
    exact ⟨r, List.mem_filter.mpr ⟨hr, decide_eq_true hid⟩, hp⟩
  · rintro ⟨r, hr, hp⟩
    obtain ⟨hmem, hid⟩ := List.mem_filter.mp hr
    exact ⟨r, hmem, of_decide_eq_true hid, hp⟩

/-- The summary is a function of the rows of its message. -/
lemma reactionSummary_congr {db db' : Database} {messageId : Uuid} (emoji : String)
    (h : reactionsOf messageId db.messageReactions = reactionsOf messageId db'.messageReactions) :
    reactionSummary db messageId emoji = reactionSummary db' messageId emoji := by
  have hsplit : ∀ rows : List ReactionRow,
      (rows.filter fun r => r.messageId = messageId ∧ r.emoji = emoji)
        = (reactionsOf messageId rows).filter fun r => r.emoji = emoji := by
    intro rows
    rw [reactionsOf, List.filter_filter]
    refine List.filter_congr fun r _ => ?_
    rw [Bool.decide_and, Bool.and_comm]
  rw [reactionSummary, reactionSummary, hsplit, hsplit, h]

/-- The guarded write, seen at its own message, reads the rows of that message only. -/
lemma reactionsOf_reactedDb {add : Bool} {s : Shared} {user : AuthUser} {channel : String}
    {messageId : Uuid} {emoji : String} {rows : List ReactionRow}
    (h : reactionsOf messageId rows = reactionsOf messageId s.db.messageReactions) :
    reactionsOf messageId
        (reactedDb add (s.setReactions rows) user channel messageId emoji).messageReactions
      = reactionsOf messageId (reactedDb add s user channel messageId emoji).messageReactions := by
  have hjoin : (s.setReactions rows).db.messageIn? channel messageId
      = s.db.messageIn? channel messageId := rfl
  have hrows : (s.setReactions rows).db.messageReactions = rows := rfl
  cases add with
  | true =>
      simp only [reactedDb, if_true, Database.addReaction, hjoin, hrows, exists_reactionsOf, h]
      split
      · simp only [reactionsOf, List.filter_append] at h ⊢
        rw [h]
        rfl
      · exact h
  | false =>
      simp only [reactedDb, Bool.false_eq_true, if_false, Database.removeReaction, hjoin, hrows]
      split
      · simp only [reactionsOf, List.filter_filter] at h ⊢
        have hcomm : ∀ l : List ReactionRow, (l.filter fun r => decide (r.messageId = messageId) &&
            decide ¬ (r.messageId = messageId ∧ r.userId = user.id ∧ r.emoji = emoji))
          = (l.filter fun r => r.messageId = messageId).filter fun r =>
            decide ¬ (r.messageId = messageId ∧ r.userId = user.id ∧ r.emoji = emoji) := by
          intro l
          rw [List.filter_filter]
          exact List.filter_congr fun r _ => Bool.and_comm _ _
        rw [hcomm, hcomm, h]
      · exact h

/-! ### Separation -/

/-- A refused event separates the channels. -/
lemma separatesChannels_refused {add : Bool} {s : Shared} {user : AuthUser} {channel : String}
    {messageId : Uuid} {raw : String} (h : ¬ ReactionAllowed s user channel raw) :
    SeparatesChannels s channel (react add user channel messageId raw) := by
  refine ⟨?_, ?_⟩
  · intro room c r hr
    rw [publications_react_refused h] at hr
    exact absurd hr List.not_mem_nil
  · intro rows _
    have h' : ¬ ReactionAllowed (s.setReactions rows) user channel raw := h
    rw [publications_react_refused h, publications_react_refused h']

/-- An accepted event on a message of the channel separates the channels. -/
lemma separatesChannels_belongs {add : Bool} {s : Shared} {user : AuthUser} {channel : String}
    {messageId : Uuid} {raw emoji : String} (hperm : Permission.chatWrite ∈ user.permissions)
    (haccess : ChannelAccess s.db s.now channel user.id) (hemoji : normalizeEmoji raw = .ok emoji)
    (h : BelongsTo s.db channel messageId) :
    SeparatesChannels s channel (react add user channel messageId raw) := by
  refine ⟨?_, ?_⟩
  · intro room c r hr
    rw [publications_react hperm haccess hemoji, List.mem_singleton, Prod.mk.injEq,
      ServerEvent.reactionUpdated.injEq] at hr
    obtain ⟨rfl, -, rfl⟩ := hr
    exact h
  · intro rows hrows
    have hof : reactionsOf messageId rows = reactionsOf messageId s.db.messageReactions := by
      rw [← reactionsOf_reactionsIn h rows, hrows, reactionsOf_reactionsIn h]
    have haccess' : ChannelAccess (s.setReactions rows).db (s.setReactions rows).now channel
        user.id := haccess
    rw [publications_react hperm haccess hemoji, publications_react hperm haccess' hemoji,
      reactionSummary_congr emoji (reactionsOf_reactedDb hof)]

/-- **Separation**: a reaction event keeps the channels apart exactly when its own checks refuse
it or its message belongs to the channel of the socket. -/
theorem separatesChannels_iff (U : Unicode) (fresh : Fresh) (user : AuthUser) (session : Uuid)
    (active : Bool) (channel : String) (add : Bool) (messageId : Uuid) (emoji : String)
    (s : Shared) :
    SeparatesChannels s channel
        (handleClientEvent U fresh user session active channel (.reaction add messageId emoji)) ↔
      (ReactionAllowed s user channel emoji → BelongsTo s.db channel messageId) := by
  rw [handleClientEvent_reaction]
  refine ⟨?_, ?_⟩
  · rintro hsep ⟨hperm, haccess, hok⟩
    cases hemoji : normalizeEmoji emoji with
    | error e =>
        rw [hemoji] at hok
        exact absurd hok (by simp [Except.isOk, Except.toBool])
    | ok normal =>
        refine hsep.concerns channel channel
          (reactionSummary (reactedDb add s user channel messageId normal) messageId normal) ?_
        rw [publications_react hperm haccess hemoji]
        exact List.mem_singleton_self _
  · intro h
    by_cases hallowed : ReactionAllowed s user channel emoji
    · have hbelongs := h hallowed
      obtain ⟨hperm, haccess, hok⟩ := hallowed
      cases hemoji : normalizeEmoji emoji with
      | error e =>
          rw [hemoji] at hok
          exact absurd hok (by simp [Except.isOk, Except.toBool])
      | ok normal => exact separatesChannels_belongs hperm haccess hemoji hbelongs
    · exact separatesChannels_refused hallowed

/-! ### A message of another channel -/

/-- A public channel `lobby`, and a private channel `board` that the user is not a member of, with
a message that has a reaction. -/
def twoChannels : Shared where
  db := { channels := [{ id := 1, name := "lobby", createdAt := 0 },
                       { id := 2, name := "board", createdAt := 0, kind := .priv }]
          messages := [{ id := 7, channelId := 2, username := "ada", text := "secret",
                         createdAt := 5, ownerSession := 3 }]
          messageReactions := [{ messageId := 7, userId := 40, emoji := "+1", createdAt := 6 }] }
  now := 10

/-- A user who may write. -/
def guest : AuthUser :=
  { id := 50, email := "", username := "guest", roles := [], permissions := [.chatWrite] }

/-- Naming the message of `board` from `lobby` publishes to `lobby` who reacted in `board`. -/
theorem reaction_of_other_channel_published :
    ¬ SeparatesChannels twoChannels "lobby"
      (handleClientEvent .ascii ⟨90, 91, 92⟩ guest 8 true "lobby" (.reaction true 7 "+1")) := by
  intro h
  have hbelongs := h.concerns "lobby" "lobby" ⟨7, "+1", [40]⟩ (by decide +kernel)
  exact absurd hbelongs (by decide +kernel)

end Vussa
