import Vussa.Lib.Readback
import Vussa.Messages.Reactions

/-!
Concurrent reactions to one message with one emoji. `AddReaction` and `RemoveReaction` write to
`message_reactions`, read the rows back and publish what they have read, in three statements
between which other events come; a client replaces its list by the one it receives
(`chat-state.js`).

An event that its checks refuse writes and publishes nothing and is left out. One whose statement
fails ends there, and what it has written stays.

* `Reaction`, `reactions`: the events as requests of `Readback`;
* `reaction_alone`: an event that is not interrupted does what the handler does;
* `reduceReaction`, `shownUsers`: the `reaction_updated` arm of `reduceChatEvent`, and the users a
  client shows;
* `Converged`: once no event is under way, the last published list is the stored one, and every
  client that has received the events shows it;
* `converged_along`: **this holds in every state of a run if, wherever the last event under way
  ends, no write has changed the stored users since the read-back published last**.
-/

namespace Vussa

open Run Readback

/-! ### The events -/

/-- An accepted event on a socket in `channel`, with the instant its `INSERT` writes. -/
structure Reaction where
  add : Bool
  userId : Uuid
  channel : String
  now : Millis
  deriving DecidableEq, Repr

/-- The statements of the two arms, for one message and one emoji. -/
def reactions (messageId : Uuid) (emoji : String) : Source Database Reaction (List Uuid) where
  apply db r :=
    if r.add then db.addReaction r.channel messageId r.userId emoji r.now
    else db.removeReaction r.channel messageId r.userId emoji
  read db := (reactionSummary db messageId emoji).userIds

/-- The list that is read back names exactly the users of the stored rows. -/
lemma mem_read {messageId : Uuid} {emoji : String} {db : Database} {u : Uuid} :
    u ∈ (reactions messageId emoji).read db ↔
      ∃ r ∈ db.messageReactions, r.messageId = messageId ∧ r.emoji = emoji ∧ r.userId = u := by
  simp [reactions, reactionSummary, and_assoc]

/-- The summary that is published. -/
def summary (messageId : Uuid) (emoji : String) (userIds : List Uuid) : ReactionSummary :=
  { messageId := messageId, emoji := emoji, userIds := userIds }

/-- An event that is not interrupted does what the handler does: it writes the same rows and
publishes the same summary to the room of the socket. -/
theorem reaction_alone {add : Bool} {s : Shared} {user : AuthUser} {channel : String}
    {messageId : Uuid} {raw emoji : String} (hperm : Permission.chatWrite ∈ user.permissions)
    (haccess : ChannelAccess s.db s.now channel user.id) (hemoji : normalizeEmoji raw = .ok emoji) :
    let r : Reaction := { add := add, userId := user.id, channel := channel, now := s.now }
    let done := final (step (reactions messageId emoji)) { db := s.db }
      [.begin r, .run 0 .done, .run 0 .done, .run 0 .done]
    (Effect.after (react add user channel messageId raw) s).db = done.db ∧
      publications (react add user channel messageId raw) s =
        done.published.map fun p => (p.request.channel,
          ServerEvent.reactionUpdated p.request.channel (summary messageId emoji p.value)) := by
  refine ⟨?_, ?_⟩
  · rw [react, Effect.after]
    simp only [check, Effect.run_bind, Effect.run_read, requirePermission, if_pos hperm,
      ensureChannelAccess, if_pos haccess, hemoji, Effect.run_update, Effect.run_pure,
      broadcastReaction]
    rfl
  · rw [publications_react hperm haccess hemoji]
    rfl

/-! ### The client -/

/-- The entry of a message and an emoji. -/
def IsEntry (messageId : Uuid) (emoji : String) (r : ReactionSummary) : Prop :=
  r.messageId = messageId ∧ r.emoji = emoji

instance (messageId : Uuid) (emoji : String) (r : ReactionSummary) :
    Decidable (IsEntry messageId emoji r) := inferInstanceAs (Decidable (_ ∧ _))

/-- The `reaction_updated` arm of `reduceChatEvent`. -/
def reduceReaction (view : List ReactionSummary) (r : ReactionSummary) : List ReactionSummary :=
  let without := view.filter fun item => ¬ IsEntry r.messageId r.emoji item
  if r.userIds.length = 0 then without else without ++ [r]

/-- The users a client shows. -/
def shownUsers (messageId : Uuid) (emoji : String) (view : List ReactionSummary) : List Uuid :=
  ((view.find? fun r => IsEntry messageId emoji r).map ReactionSummary.userIds).getD []

/-- A client shows the list it received last. -/
lemma shownUsers_reduceReaction (view : List ReactionSummary) (r : ReactionSummary) :
    shownUsers r.messageId r.emoji (reduceReaction view r) = r.userIds := by
  have hnone : (view.filter fun item => ¬ IsEntry r.messageId r.emoji item).find?
      (fun item => IsEntry r.messageId r.emoji item) = none := by
    rw [List.find?_eq_none]
    intro item hitem
    simpa using (List.mem_filter.mp hitem).2
  have hself : IsEntry r.messageId r.emoji r := ⟨rfl, rfl⟩
  rw [shownUsers, reduceReaction]
  by_cases hempty : r.userIds.length = 0
  · rw [if_pos hempty, hnone, List.length_eq_zero_iff.mp hempty]
    rfl
  · rw [if_neg hempty, List.find?_append, hnone, Option.none_or, List.find?_singleton,
      if_pos (decide_eq_true hself)]
    rfl

/-- The publications to all rooms, or to one. -/
def Heard (room : Option String) (r : Reaction) : Prop := ∀ channel ∈ room, r.channel = channel

instance (room : Option String) : DecidablePred (Heard room) :=
  fun _ => inferInstanceAs (Decidable (∀ channel ∈ room, _))

/-- What a client receives. -/
def received (messageId : Uuid) (emoji : String) (room : Option String)
    (s : State Database Reaction (List Uuid)) : List ReactionSummary :=
  (s.published.filter fun p => Heard room p.request).map fun p => summary messageId emoji p.value

/-! ### Convergence -/

/-- Once no event is under way, the list published last is the stored one, and every client that
has received the events shows it if it showed the stored users at the start. -/
def Converged (messageId : Uuid) (emoji : String) (room : Option String) (start : List Uuid)
    (s : State Database Reaction (List Uuid)) : Prop :=
  s.Idle → (∀ p ∈ (s.published.filter fun p => Heard room p.request).getLast?,
      p.value = (reactionSummary s.db messageId emoji).userIds) ∧
    ∀ view, shownUsers messageId emoji view = start →
      shownUsers messageId emoji ((received messageId emoji room s).foldl reduceReaction view)
        = (reactionSummary s.db messageId emoji).userIds

/-- What the clients show follows from what is published. -/
lemma converged_of_agrees {messageId : Uuid} {emoji : String} {room : Option String}
    {start : List Uuid} {s : State Database Reaction (List Uuid)}
    (h : Agrees (Heard room) (reactions messageId emoji) start s) :
    Converged messageId emoji room start s := by
  intro hidle
  have hshown := h hidle
  rw [State.shown, State.last] at hshown
  rcases List.eq_nil_or_concat (s.published.filter fun p => Heard room p.request) with
    hnone | ⟨before, p, hlast⟩
  · rw [hnone] at hshown
    rw [received, hnone]
    exact ⟨fun p hp => absurd hp (Option.not_mem_none p), fun view hview => hview.trans hshown⟩
  · rw [hlast, List.concat_eq_append, List.getLast?_append_of_ne_nil _ (by simp)] at hshown
    rw [received, hlast, List.concat_eq_append, List.map_append,
      List.getLast?_append_of_ne_nil _ (by simp)]
    refine ⟨fun q hq => Option.some.inj hq ▸ hshown, fun view _ => ?_⟩
    rw [List.foldl_append]
    exact (shownUsers_reduceReaction _ (summary messageId emoji p.value)).trans hshown

/-- **Convergence**: for all interleavings of events on one message and one emoji with failing
statements, whenever no event is under way the last published list is the stored one, and the
clients show it, if no event ends as the last one under way while a write has changed the stored
users since the read-back published last; and so for the publications to one room. -/
theorem converged_along (messageId : Uuid) (emoji : String) (room : Option String) (db : Database)
    (as : List (Act Reaction))
    (h : Along (step (reactions messageId emoji))
      (Timely (Heard room) (reactions messageId emoji) (reactionSummary db messageId emoji).userIds)
        { db := db } as) :
    Along (step (reactions messageId emoji))
      (fun s a => Converged messageId emoji room (reactionSummary db messageId emoji).userIds
        (step (reactions messageId emoji) s a))
      { db := db } as :=
  (agrees_along db as h).of_invariant (I := fun _ => True) (fun _ _ _ _ => trivial)
    (fun _ _ _ hagrees => converged_of_agrees hagrees) trivial

/-! ### Two reactions at once -/

/-- A message in the main channel. -/
def greetedMain : Database where
  channels := [{ id := 1, name := mainChannel, createdAt := 0 }]
  messages := [{ id := 5, channelId := 1, username := "ada", text := "hello", createdAt := 0,
                 ownerSession := 9 }]

/-- A reaction of a user. -/
def reacting (userId : Uuid) : Reaction :=
  { add := true, userId := userId, channel := mainChannel, now := 0 }

/-- The read-back of the first event fails; the second one writes and reads back after it. -/
theorem converged_failing : Along (step (reactions 5 "x"))
    (fun s a => Converged 5 "x" (some mainChannel) [] (step (reactions 5 "x") s a))
    { db := greetedMain }
    [.begin (reacting 1), .run 0 .done, .begin (reacting 2), .run 0 .refused, .run 1 .done,
      .run 1 .done, .run 1 .done] :=
  converged_along 5 "x" (some mainChannel) greetedMain _ (by decide)

/-- Two users react at the same time; the first one reads back first and publishes last. -/
def overtaken : List (Act Reaction) :=
  [.begin (reacting 1), .begin (reacting 2), .run 0 .done, .run 0 .done, .run 1 .done, .run 1 .done,
    .run 1 .done, .run 0 .done]

/-- Both reactions are stored, and the last event lists one of them. -/
theorem not_converged_overtaken :
    (final (step (reactions 5 "x")) { db := greetedMain } overtaken).published.map Reading.value =
        [[1, 2], [1]] ∧
      ¬ Converged 5 "x" none []
        (final (step (reactions 5 "x")) { db := greetedMain } overtaken) := by
  have hidle : (final (step (reactions 5 "x")) { db := greetedMain } overtaken).Idle := by decide
  refine ⟨by decide, fun h => ?_⟩
  have hlast := (h hidle).1 ⟨reacting 1, [1], 1⟩ (by decide)
  revert hlast
  decide

end Vussa
