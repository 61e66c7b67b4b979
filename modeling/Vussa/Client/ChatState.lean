import Vussa.Lib.Merge
import Vussa.Lib.Run

/-!
The state of a chat as its tests reduce it (`lib/chat-state.js`).

The reducer is untyped. A message is an object with an `id` and a `created_at`; every other property
may be left out or be `null`, and only those the reducer or its results depend on are kept here.

* `Message`, `Message.onto`: messages as partial objects, and the spread of one over another;
* `ChatState`, `ChatEvent`, `reduceChatEvent`: the reducer;
* `WellFormed`, `WellFormed.step`: what holds of the four collections, and one event;
* `reduceChatEvent_twice`: an event that is delivered twice;
* `reduced_wellFormed`: **every state of a run is well formed, and a repeated event leaves it**.
-/

namespace Vussa.Reducer

open Run Table Merge

/-! ### Data -/

/-- A property of an object: left out, `null`, or a value. -/
abbrev Property (α : Type) := Option (Option α)

/-- A message, or what an event says of one. -/
structure Message where
  id : String
  createdAt : ℤ
  text : Property String := none
  edited : Property Bool := none
  deleted : Property Bool := none
  rootMessageId : Property String := none
  replyCount : Property ℕ := none
  deriving DecidableEq, Repr

/-- `{ ...item, ...message }`. -/
def Message.onto (message item : Message) : Message where
  id := message.id
  createdAt := message.createdAt
  text := message.text.or item.text
  edited := message.edited.or item.edited
  deleted := message.deleted.or item.deleted
  rootMessageId := message.rootMessageId.or item.rootMessageId
  replyCount := message.replyCount.or item.replyCount

/-- `root_message_id`, where it is truthy. -/
def Message.root? (m : Message) : Option String := m.rootMessageId.join.filter fun root => root ≠ ""

/-- An entry of `reactions`. -/
structure Reaction where
  messageId : String
  emoji : String
  userIds : List String
  deriving DecidableEq, Repr

/-- What identifies an entry of `reactions`. -/
def Reaction.key (r : Reaction) : String × String := (r.messageId, r.emoji)

/-- An entry of `typingUsers`. -/
structure TypingUser where
  userId : String
  username : String
  deriving DecidableEq, Repr

/-- The values of `status`. -/
inductive Status where
  | disconnected
  | connected
  deriving DecidableEq, Repr

/-- The state. -/
structure ChatState where
  messages : List Message
  reactions : List Reaction
  typingUsers : List TypingUser
  threadRoot : Option String
  threadMessages : List Message
  status : Status
  deriving DecidableEq, Repr

/-- `initialChatState`. -/
def initialChatState : ChatState where
  messages := []
  reactions := []
  typingUsers := []
  threadRoot := none
  threadMessages := []
  status := .disconnected

/-- The events, those of all other types being one. -/
inductive ChatEvent where
  | message (message : Message)
  | messageUpdated (message : Message)
  | reactionUpdated (reaction : Reaction)
  | typing (userId username : String) (typing : Bool)
  | threadHistory (rootMessageId : Option String) (messages : Option (List Message))
  | joined
  | other
  deriving DecidableEq, Repr

/-! ### The reducer -/

/-- `upsert`. -/
def upsert (messages : List Message) (message : Message) : List Message :=
  merge Message.id Message.createdAt Message.onto messages message

/-- One more reply to a root. -/
def countReply (root : String) (item : Message) : Message :=
  if item.id = root then { item with replyCount := some (some (item.replyCount.join.getD 0 + 1)) }
  else item

/-- `updatedMessages` of a `message` event. -/
def updatedMessages (state : ChatState) (message : Message) : List Message :=
  let existingReply := message.root?.isSome && state.messages.any fun item => item.id = message.id
  let messages := upsert state.messages message
  match message.root? with
  | some root => if existingReply then messages else messages.map (countReply root)
  | none => messages

/-- `state.threadRoot && message.root_message_id === state.threadRoot`. -/
def ChatState.InThread (state : ChatState) (message : Message) : Prop :=
  ∃ root ∈ state.threadRoot, root ≠ "" ∧ message.rootMessageId = some (some root)

instance (state : ChatState) (message : Message) : Decidable (state.InThread message) :=
  inferInstanceAs (Decidable (∃ root ∈ state.threadRoot, _))

/-- `reduceChatEvent`. -/
def reduceChatEvent (state : ChatState) : ChatEvent → ChatState
  | .message message =>
      { state with
        messages := updatedMessages state message
        threadMessages := if state.InThread message then upsert state.threadMessages message
          else state.threadMessages }
  | .messageUpdated message => { state with messages := upsert state.messages message }
  | .reactionUpdated reaction =>
      let without := state.reactions.filter fun item =>
        ¬ (item.messageId = reaction.messageId ∧ item.emoji = reaction.emoji)
      { state with reactions := if reaction.userIds.length ≠ 0 then without ++ [reaction] else without }
  | .typing userId username typing =>
      let without := state.typingUsers.filter fun item => item.userId ≠ userId
      { state with typingUsers := if typing then without ++ [⟨userId, username⟩] else without }
  | .threadHistory rootMessageId messages =>
      { state with threadRoot := rootMessageId, threadMessages := messages.getD [] }
  | .joined => { state with status := .connected }
  | .other => state

/-! ### Messages -/

@[simp] lemma onto_id (m item : Message) : (m.onto item).id = m.id := rfl

@[simp] lemma onto_createdAt (m item : Message) : (m.onto item).createdAt = m.createdAt := rfl

@[simp] lemma onto_replyCount (m item : Message) :
    (m.onto item).replyCount = m.replyCount.or item.replyCount := rfl

lemma onto_self (m : Message) : m.onto m = m := by
  simp only [Message.onto, Option.or_self]

lemma onto_onto (m item : Message) : m.onto (m.onto item) = m.onto item := by
  simp only [Message.onto, ← Option.or_assoc, Option.or_self]

/-- Counting a reply changes nothing else. -/
def Recount (f : Message → Message) : Prop :=
  ∀ item, ∃ count, f item = { item with replyCount := count }

lemma recount_countReply (root : String) : Recount (countReply root) := by
  intro item
  by_cases hroot : item.id = root
  · exact ⟨_, if_pos hroot⟩
  · exact ⟨item.replyCount, if_neg hroot⟩

lemma Recount.id {f : Message → Message} (h : Recount f) (item : Message) :
    (f item).id = item.id := by
  obtain ⟨count, heq⟩ := h item
  rw [heq]

lemma Recount.createdAt {f : Message → Message} (h : Recount f) (item : Message) :
    (f item).createdAt = item.createdAt := by
  obtain ⟨count, heq⟩ := h item
  rw [heq]

/-- A new reply is counted. -/
lemma updatedMessages_of_new {s : ChatState} {m : Message} {root : String} (hroot : m.root? = some root)
    (hnew : ∀ item ∈ s.messages, item.id ≠ m.id) :
    updatedMessages s m = (upsert s.messages m).map (countReply root) := by
  have hexists : (s.messages.any fun item => item.id = m.id) = false :=
    List.any_eq_false.mpr fun item hitem => by simp [hnew item hitem]
  simp [updatedMessages, hroot, hexists]

/-- The list after a `message` event: the upserted one, with the reply counted where the message
names a root and is new. -/
lemma updatedMessages_cases (s : ChatState) (m : Message) :
    updatedMessages s m = upsert s.messages m ∨
      ∃ root, m.root? = some root ∧ (∀ item ∈ s.messages, item.id ≠ m.id) ∧
        updatedMessages s m = (upsert s.messages m).map (countReply root) := by
  cases hroot : m.root? with
  | none => exact .inl (by simp [updatedMessages, hroot])
  | some root =>
      by_cases hexists : ∃ item ∈ s.messages, item.id = m.id
      · exact .inl (by simp [updatedMessages, hroot, hexists])
      · have hnew : ∀ item ∈ s.messages, item.id ≠ m.id := fun item hitem hid =>
          hexists ⟨item, hitem, hid⟩
        exact .inr ⟨root, rfl, hnew, updatedMessages_of_new hroot hnew⟩

/-! ### What holds of the collections -/

/-- What holds of every state: distinct messages in the order of their instants, one entry a message
and emoji, with some users, and one entry a typing user. -/
structure WellFormed (s : ChatState) : Prop where
  ids : Unique Message.id s.messages
  ordered : Ranked Message.createdAt s.messages
  reactionKeys : Unique Reaction.key s.reactions
  reactors : ∀ r ∈ s.reactions, r.userIds ≠ []
  typists : Unique TypingUser.userId s.typingUsers

/-- The message of a `message` or `message_updated` event. -/
def ChatEvent.message? : ChatEvent → Option Message
  | .message m => some m
  | .messageUpdated m => some m
  | _ => none

/-- The messages of the state are of the instants the events say. -/
def Timed (es : List ChatEvent) (s : ChatState) : Prop :=
  ∀ item ∈ s.messages, ∀ e ∈ es, ∀ m ∈ e.message?, item.id = m.id → item.createdAt = m.createdAt

/-- The events for one message carry one instant. -/
def OneInstant (es : List ChatEvent) : Prop :=
  ∀ e ∈ es, ∀ e' ∈ es, ∀ m ∈ e.message?, ∀ m' ∈ e'.message?, m.id = m'.id →
    m.createdAt = m'.createdAt

/-- The list after a `message` event is the upserted one, with some counts. -/
lemma exists_recount (s : ChatState) (m : Message) :
    ∃ f, Recount f ∧ updatedMessages s m = (upsert s.messages m).map f := by
  rcases updatedMessages_cases s m with heq | ⟨root, -, -, heq⟩
  · exact ⟨fun item => item, fun item => ⟨item.replyCount, rfl⟩, by rw [heq, List.map_id']⟩
  · exact ⟨countReply root, recount_countReply root, heq⟩

lemma unique_upsert {l : List Message} (h : Unique Message.id l) (m : Message) :
    Unique Message.id (upsert l m) := unique_merge onto_id h m

lemma ranked_upsert {l : List Message} (h : Ranked Message.createdAt l) {m : Message}
    (hm : ∀ item ∈ l, item.id = m.id → item.createdAt = m.createdAt) :
    Ranked Message.createdAt (upsert l m) := ranked_merge onto_createdAt h hm

lemma mem_upsert_of_ne {l : List Message} {m item : Message} (h : item.id ≠ m.id) :
    item ∈ upsert l m ↔ item ∈ l := mem_merge_of_ne onto_id h

lemma mem_upsert_self {l : List Message} (hl : Unique Message.id l) {m item : Message}
    (h : item.id = m.id) (hmem : item ∈ upsert l m) :
    ((∀ old ∈ l, old.id ≠ m.id) ∧ item = m) ∨ ∃ old ∈ l, old.id = m.id ∧ item = m.onto old :=
  mem_merge_self hl h hmem

lemma createdAt_of_mem_upsert {l : List Message} (hl : Unique Message.id l) {m item : Message}
    (h : item.id = m.id) (hmem : item ∈ upsert l m) : item.createdAt = m.createdAt := by
  rcases mem_upsert_self hl h hmem with ⟨-, rfl⟩ | ⟨old, -, -, rfl⟩
  · rfl
  · rfl

/-- The messages after an event that carries one. -/
lemma messages_of_message? (s : ChatState) {e : ChatEvent} {m : Message} (he : e.message? = some m) :
    ∃ f, Recount f ∧ (reduceChatEvent s e).messages = (upsert s.messages m).map f := by
  cases e with
  | message m' =>
      obtain rfl : m' = m := Option.some.inj he
      exact exists_recount s m'
  | messageUpdated m' =>
      obtain rfl : m' = m := Option.some.inj he
      exact ⟨fun item => item, fun item => ⟨item.replyCount, rfl⟩, (List.map_id' _).symm⟩
  | reactionUpdated reaction => cases he
  | typing userId username typing => cases he
  | threadHistory root messages => cases he
  | joined => cases he
  | other => cases he

/-- All other events leave them. -/
lemma messages_of_none (s : ChatState) {e : ChatEvent} (he : e.message? = none) :
    (reduceChatEvent s e).messages = s.messages := by
  cases e with
  | message m => cases he
  | messageUpdated m => cases he
  | reactionUpdated reaction => rfl
  | typing userId username typing => rfl
  | threadHistory root messages => rfl
  | joined => rfl
  | other => rfl

/-- The messages stay distinct, whatever the event says. -/
lemma unique_step {s : ChatState} (h : Unique Message.id s.messages) (e : ChatEvent) :
    Unique Message.id (reduceChatEvent s e).messages := by
  cases he : e.message? with
  | none => rwa [messages_of_none s he]
  | some m =>
      obtain ⟨f, hf, heq⟩ := messages_of_message? s he
      rw [heq]
      exact (unique_upsert h m).map hf.id

/-! ### One event -/

section Step

variable {s : ChatState} {es : List ChatEvent} {e : ChatEvent} {m : Message}

/-- Messages that are upserted keep the instants the events say. -/
lemma Timed.upsert (htimed : Timed es s) (hes : OneInstant es) (hids : Unique Message.id s.messages)
    (he : e ∈ es) (hm : e.message? = some m) {item : Message} (hitem : item ∈ upsert s.messages m) :
    ∀ e' ∈ es, ∀ m' ∈ e'.message?, item.id = m'.id → item.createdAt = m'.createdAt := by
  intro e' he' m' hm' hid
  by_cases hself : item.id = m.id
  · rw [createdAt_of_mem_upsert hids hself hitem]
    exact hes e he e' he' m hm m' hm' (hself.symm.trans hid)
  · exact htimed item ((mem_upsert_of_ne hself).mp hitem) e' he' m' hm' hid

lemma Timed.step (htimed : Timed es s) (hes : OneInstant es) (hids : Unique Message.id s.messages)
    (he : e ∈ es) : Timed es (reduceChatEvent s e) := by
  cases hm : e.message? with
  | none =>
      rw [Timed, messages_of_none s hm]
      exact htimed
  | some m =>
      obtain ⟨f, hf, heq⟩ := messages_of_message? s hm
      intro item hitem e' he' m' hm' hid
      rw [heq] at hitem
      obtain ⟨old, hold, rfl⟩ := List.mem_map.mp hitem
      rw [hf.createdAt]
      rw [hf.id] at hid
      exact htimed.upsert hes hids he hm hold e' he' m' hm' hid

lemma ranked_step (hordered : Ranked Message.createdAt s.messages) (htimed : Timed es s)
    (he : e ∈ es) : Ranked Message.createdAt (reduceChatEvent s e).messages := by
  cases hm : e.message? with
  | none => rwa [messages_of_none s hm]
  | some m =>
      obtain ⟨f, hf, heq⟩ := messages_of_message? s hm
      rw [heq, Ranked, List.pairwise_map]
      simp only [hf.createdAt]
      exact ranked_upsert hordered fun item hitem hid => htimed item hitem e he m hm hid

/-- **One event** keeps what holds of the collections. -/
lemma WellFormed.step (h : WellFormed s) (htimed : Timed es s) (he : e ∈ es) :
    WellFormed (reduceChatEvent s e) := by
  have hids := unique_step h.ids e
  have hordered := ranked_step h.ordered htimed he
  cases e with
  | message m => exact { h with ids := hids, ordered := hordered }
  | messageUpdated m => exact { h with ids := hids, ordered := hordered }
  | reactionUpdated reaction =>
      have hkeys := h.reactionKeys.filter fun item =>
        ¬ (item.messageId = reaction.messageId ∧ item.emoji = reaction.emoji)
      have hreactors : ∀ r ∈ s.reactions.filter (fun item =>
          ¬ (item.messageId = reaction.messageId ∧ item.emoji = reaction.emoji)), r.userIds ≠ [] :=
        fun r hr => h.reactors r (List.mem_of_mem_filter hr)
      by_cases hsome : reaction.userIds.length ≠ 0
      · refine { h with reactionKeys := ?_, reactors := ?_ }
        · rw [reduceChatEvent, if_pos hsome]
          refine hkeys.append fun r hr hkey => ?_
          exact of_decide_eq_true (List.mem_filter.mp hr).2 (Prod.mk.inj hkey)
        · rw [reduceChatEvent, if_pos hsome]
          refine List.forall_mem_append.mpr ⟨hreactors, ?_⟩
          simpa using hsome
      · refine { h with reactionKeys := ?_, reactors := ?_ }
        · rw [reduceChatEvent, if_neg hsome]
          exact hkeys
        · rw [reduceChatEvent, if_neg hsome]
          exact hreactors
  | typing userId username typing =>
      have htypists := h.typists.filter fun item => item.userId ≠ userId
      cases typing with
      | true =>
          refine { h with typists := ?_ }
          exact htypists.append fun item hitem => of_decide_eq_true (List.mem_filter.mp hitem).2
      | false => exact { h with typists := htypists }
  | threadHistory root messages => exact { h with }
  | joined => exact { h with }
  | other => exact h

end Step

/-! ### Repetitions -/

lemma updatedMessages_of_exists {s : ChatState} {m : Message} (h : ∃ item ∈ s.messages, item.id = m.id) :
    updatedMessages s m = upsert s.messages m := by
  rcases updatedMessages_cases s m with heq | ⟨-, -, hnew, -⟩
  · exact heq
  · obtain ⟨item, hitem, hid⟩ := h
    exact absurd hid (hnew item hitem)

lemma upsert_upsert (l : List Message) (m : Message) : upsert (upsert l m) m = upsert l m :=
  merge_merge onto_id (onto_self m) (onto_onto m)

lemma exists_mem_upsert (l : List Message) (m : Message) : ∃ item ∈ upsert l m, item.id = m.id :=
  exists_mem_merge onto_id l m

/-- The messages, when a `message` event comes a second time: the reply it counted is there now. -/
lemma updatedMessages_twice {s s' : ChatState} {m : Message} (hroot : m.root? ≠ some m.id)
    (hs : s'.messages = updatedMessages s m) : updatedMessages s' m = updatedMessages s m := by
  obtain ⟨item, hitem, hid⟩ := exists_mem_upsert s.messages m
  rcases updatedMessages_cases s m with heq | ⟨root, hroot', hnew, heq⟩
  · rw [updatedMessages_of_exists ⟨item, by rwa [hs, heq], hid⟩, hs, heq, upsert_upsert]
  · have hne : m.id ≠ root := fun h => hroot (by rw [h, hroot'])
    have hother := (recount_countReply root).id
    have hexists : ∃ item ∈ s'.messages, item.id = m.id :=
      ⟨countReply root item, by rw [hs, heq]; exact List.mem_map_of_mem hitem,
        (hother item).trans hid⟩
    rw [updatedMessages_of_exists hexists, ← hs]
    refine merge_eq_self hexists fun item' hitem' hid' => ?_
    rw [hs, heq] at hitem'
    obtain ⟨old, hold, rfl⟩ := List.mem_map.mp hitem'
    rw [hother] at hid'
    rw [eq_of_mem_merge_of_new hnew hid' hold, countReply, if_neg hne, onto_self]

lemma filter_again {α : Type} {p : α → Bool} (l : List α) {tail : List α} (h : ∀ a ∈ tail, p a = false) :
    (l.filter p ++ tail).filter p = l.filter p := by
  have hnil : tail.filter p = [] := List.filter_eq_nil_iff.mpr fun a ha => by simp [h a ha]
  rw [List.filter_append, hnil, List.append_nil, List.filter_filter]
  simp

/-- **A repeated event** leaves the state. -/
theorem reduceChatEvent_twice (s : ChatState) {e : ChatEvent}
    (hroot : ∀ m, e = .message m → m.root? ≠ some m.id) :
    reduceChatEvent (reduceChatEvent s e) e = reduceChatEvent s e := by
  cases e with
  | message m =>
      have hmessages : updatedMessages (reduceChatEvent s (.message m)) m = updatedMessages s m :=
        updatedMessages_twice (hroot m rfl) rfl
      rw [reduceChatEvent, hmessages]
      by_cases hthread : s.InThread m
      · have hthread' : (reduceChatEvent s (.message m)).InThread m := hthread
        rw [if_pos hthread']
        simp only [reduceChatEvent, if_pos hthread, upsert_upsert]
      · have hthread' : ¬ (reduceChatEvent s (.message m)).InThread m := hthread
        rw [if_neg hthread']
        simp only [reduceChatEvent, if_neg hthread]
  | messageUpdated m => simp only [reduceChatEvent, upsert_upsert]
  | reactionUpdated reaction =>
      by_cases hsome : reaction.userIds.length ≠ 0
      · simp only [reduceChatEvent, if_pos hsome]
        rw [filter_again s.reactions (by simp)]
      · simp only [reduceChatEvent, if_neg hsome, List.filter_filter, Bool.and_self]
  | typing userId username typing =>
      cases typing with
      | true =>
          simp only [reduceChatEvent, if_true]
          rw [filter_again s.typingUsers (by simp)]
      | false => simp [reduceChatEvent]
  | threadHistory root messages => rfl
  | joined => rfl
  | other => rfl

/-! ### Runs -/

lemma initial_wellFormed : WellFormed initialChatState :=
  ⟨unique_nil, List.Pairwise.nil, unique_nil, by simp [initialChatState], unique_nil⟩

/-- **Runs of the reducer**: if the events for one message carry one instant and no message is its
own root, every state is well formed, and an event delivered a second time right after the first
leaves the state. -/
theorem reduced_wellFormed {es : List ChatEvent} (htime : OneInstant es)
    (hroot : ∀ m, .message m ∈ es → m.root? ≠ some m.id) :
    (∀ before, before <+: es → WellFormed (final reduceChatEvent initialChatState before)) ∧
    ∀ before e, before ++ [e] <+: es →
      final reduceChatEvent initialChatState (before ++ [e, e]) =
        final reduceChatEvent initialChatState (before ++ [e]) := by
  refine ⟨fun before hbefore => ?_, fun before e hbefore => ?_⟩
  · have hstep : ∀ s e, WellFormed s ∧ Timed es s → e ∈ es →
        WellFormed (reduceChatEvent s e) ∧ Timed es (reduceChatEvent s e) :=
      fun s e hs he => ⟨hs.1.step hs.2 he, hs.2.step htime hs.1.ids he⟩
    have hinit : WellFormed initialChatState ∧ Timed es initialChatState :=
      ⟨initial_wellFormed, fun _ hitem => absurd hitem List.not_mem_nil⟩
    exact (Along.invariant hstep hinit
      (along_of_forall _ fun e he => hbefore.subset he)).1
  · have he : e ∈ es := hbefore.subset (by simp)
    have hlist : before ++ [e, e] = (before ++ [e]) ++ [e] := by simp
    rw [hlist, final_append, final_append, final_cons, final_nil, final_cons, final_nil]
    exact reduceChatEvent_twice _ fun m hm => hroot m (hm ▸ he)

/-- A root, two replies out of order, a reaction that is taken back, and an edit. -/
theorem reduced_wellFormed_thread :
    WellFormed (final reduceChatEvent initialChatState
      [.message { id := "b", createdAt := 3, rootMessageId := some (some "root") },
        .message { id := "root", createdAt := 1 },
        .message { id := "a", createdAt := 2, rootMessageId := some (some "root") },
        .reactionUpdated ⟨"a", "👍", ["ada"]⟩, .reactionUpdated ⟨"a", "👍", []⟩,
        .typing "7" "ada" true, .messageUpdated { id := "b", createdAt := 3, edited := some true }]) :=
  (reduced_wellFormed (by unfold OneInstant; decide) (by simp [Message.root?])).1 _ List.prefix_rfl

end Vussa.Reducer
