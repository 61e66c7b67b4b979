import Vussa.Client.ChatState
import Vussa.Lib.Upsert

/-!
The reply count of a root in the reduced state. Messages arrive in any order and any number of
times; a `message` event always says the same of its message.

* `posted`: the state after `message` events;
* `repliesTo`, `RootFirst`: the replies to a root among the events, and the order that is counted
  right;
* `Counted`, `Counted.step`: what the state says of the root, and one event;
* `replyCount_eq_iff`: **when the count is right**.
-/

namespace Vussa.Reducer

open Run Table Merge

/-- The state after `message` events. -/
def posted (ms : List Message) : ChatState :=
  final reduceChatEvent initialChatState (ms.map ChatEvent.message)

/-- The `reply_count` of a message of the state. -/
def replyCount? (s : ChatState) (id : String) : Option ℕ :=
  (row? Message.id s.messages id).bind fun item => item.replyCount.join

/-- The replies to a root. -/
def repliesTo (root : String) (ms : List Message) : Finset String :=
  ((ms.filter fun m => m.root? = some root).map Message.id).toFinset

/-- No reply to the root comes before the root, or before a repetition of it. -/
def RootFirst (root : String) (ms : List Message) : Prop :=
  ms.Pairwise fun a b => ¬ (a.root? = some root ∧ b.id = root)

instance (root : String) (ms : List Message) : Decidable (RootFirst root ms) :=
  inferInstanceAs (Decidable (ms.Pairwise _))

/-! ### One more event -/

section Events

variable {root id : String} {ms : List Message} {m : Message}

lemma mem_repliesTo : id ∈ repliesTo root ms ↔ ∃ m ∈ ms, m.root? = some root ∧ m.id = id := by
  simp [repliesTo, and_assoc]

lemma repliesTo_concat_of_ne (h : m.root? ≠ some root) :
    repliesTo root (ms ++ [m]) = repliesTo root ms := by
  simp [repliesTo, List.filter_append, h]

lemma repliesTo_concat (h : m.root? = some root) :
    repliesTo root (ms ++ [m]) = insert m.id (repliesTo root ms) := by
  ext id
  rw [Finset.mem_insert, mem_repliesTo, mem_repliesTo]
  constructor
  · rintro ⟨a, ha, hroot, rfl⟩
    rcases List.mem_append.mp ha with ha | ha
    · exact .inr ⟨a, ha, hroot, rfl⟩
    · rw [List.mem_singleton.mp ha]
      exact .inl rfl
  · rintro (rfl | ⟨a, ha, hroot, rfl⟩)
    · exact ⟨m, by simp, h, rfl⟩
    · exact ⟨a, List.mem_append_left _ ha, hroot, rfl⟩

lemma rootFirst_concat : RootFirst root (ms ++ [m]) ↔
    RootFirst root ms ∧ ∀ a ∈ ms, a.root? = some root → m.id ≠ root := by
  rw [RootFirst, List.pairwise_append, RootFirst]
  simp

/-- A message other than the root, at the end. -/
lemma rootFirst_concat_of_ne (h : m.id ≠ root) :
    RootFirst root (ms ++ [m]) ↔ RootFirst root ms := by
  rw [rootFirst_concat]
  exact and_iff_left fun _ _ _ => h

/-- The root at the end is in order if there are no replies yet. -/
lemma rootFirst_concat_self (h : m.id = root) :
    RootFirst root (ms ++ [m]) ↔ repliesTo root ms = ∅ := by
  have hempty : repliesTo root ms = ∅ ↔ ∀ a ∈ ms, a.root? ≠ some root := by
    rw [Finset.eq_empty_iff_forall_notMem]
    constructor
    · intro hnone a ha hroot
      exact hnone a.id (mem_repliesTo.mpr ⟨a, ha, hroot, rfl⟩)
    · intro hnone id hid
      obtain ⟨a, ha, hroot, -⟩ := mem_repliesTo.mp hid
      exact hnone a ha hroot
  rw [rootFirst_concat, hempty]
  constructor
  · rintro ⟨-, hnone⟩ a ha hroot
    exact hnone a ha hroot h
  · intro hnone
    refine ⟨List.Pairwise.imp_of_mem ?_ (List.pairwise_of_forall fun _ _ => trivial), fun a ha hroot => ?_⟩
    · rintro a b ha - - ⟨hroot, -⟩
      exact hnone a ha hroot
    · exact absurd hroot (hnone a ha)

end Events

/-! ### The count along the events -/

/-- What the state says after `past`: it holds the messages of the events, and the count of the root
is at most the number of its replies, which it is as long as the root came first. -/
structure Counted (root : Message) (past : List Message) (s : ChatState) : Prop where
  ids : Unique Message.id s.messages
  mem : ∀ id, (∃ item ∈ s.messages, item.id = id) ↔ ∃ m ∈ past, m.id = id
  count : ∀ item ∈ s.messages, item.id = root.id → ∃ n, item.replyCount = some (some n) ∧
    n ≤ (repliesTo root.id past).card ∧
    (n = (repliesTo root.id past).card ↔ RootFirst root.id past)

section Step

variable {root m : Message} {past : List Message} {s : ChatState}

/-- The identifiers after an event. -/
lemma mem_updatedMessages_id {id : String} :
    (∃ item ∈ updatedMessages s m, item.id = id) ↔
      id = m.id ∨ ∃ item ∈ s.messages, item.id = id := by
  obtain ⟨f, hf, heq⟩ := exists_recount s m
  have hmap : (∃ item ∈ updatedMessages s m, item.id = id) ↔
      ∃ item ∈ upsert s.messages m, item.id = id := by
    rw [heq]
    simp [hf.id]
  rw [hmap]
  by_cases hid : id = m.id
  · rw [hid]
    exact iff_of_true (exists_mem_upsert s.messages m) (.inl rfl)
  · constructor
    · rintro ⟨item, hitem, rfl⟩
      exact .inr ⟨item, (mem_upsert_of_ne hid).mp hitem, rfl⟩
    · rintro (h | ⟨item, hitem, rfl⟩)
      · exact absurd h hid
      · exact ⟨item, (mem_upsert_of_ne hid).mpr hitem, rfl⟩

/-- The root after its own event has the count the event says. -/
lemma replyCount_of_self (hids : Unique Message.id s.messages) (hcount : root.replyCount = some (some 0))
    (htop : root.root? ≠ some root.id) {item : Message} (hitem : item ∈ updatedMessages s root)
    (hid : item.id = root.id) : item.replyCount = some (some 0) := by
  have hupsert : ∀ item ∈ upsert s.messages root, item.id = root.id →
      item.replyCount = some (some 0) := by
    intro item hitem hid
    rcases mem_upsert_self hids hid hitem with ⟨-, rfl⟩ | ⟨old, -, -, rfl⟩
    · exact hcount
    · rw [onto_replyCount, hcount, Option.some_or]
  rcases updatedMessages_cases s root with heq | ⟨r, hr, -, heq⟩
  · rw [heq] at hitem
    exact hupsert item hitem hid
  · rw [heq] at hitem
    obtain ⟨old, hold, rfl⟩ := List.mem_map.mp hitem
    rw [(recount_countReply r).id] at hid
    have hne : old.id ≠ r := fun h => htop (by rw [hr, ← h, hid])
    rw [countReply, if_neg hne]
    exact hupsert old hold hid

/-- The root after an event of another message: one reply more if the event is a new reply. -/
lemma mem_of_mem_updatedMessages (hne : root.id ≠ m.id) {item : Message}
    (hitem : item ∈ updatedMessages s m) (hid : item.id = root.id) :
    ∃ old ∈ s.messages, old.id = root.id ∧
      item = if m.root? = some root.id ∧ ∀ x ∈ s.messages, x.id ≠ m.id then countReply root.id old
        else old := by
  have hold : ∀ old ∈ upsert s.messages m, old.id = root.id → old ∈ s.messages :=
    fun old hmem h => (mem_upsert_of_ne (h.trans_ne hne)).mp hmem
  by_cases hreply : m.root? = some root.id ∧ ∀ x ∈ s.messages, x.id ≠ m.id
  · rw [updatedMessages_of_new hreply.1 hreply.2] at hitem
    obtain ⟨old, hmem, rfl⟩ := List.mem_map.mp hitem
    rw [(recount_countReply root.id).id] at hid
    exact ⟨old, hold old hmem hid, hid, (if_pos hreply).symm⟩
  · refine ⟨item, ?_, hid, (if_neg hreply).symm⟩
    rcases updatedMessages_cases s m with heq | ⟨r, hr, hnew, heq⟩
    · rw [heq] at hitem
      exact hold item hitem hid
    · rw [heq] at hitem
      obtain ⟨old, hmem, rfl⟩ := List.mem_map.mp hitem
      rw [(recount_countReply r).id] at hid
      have hother : old.id ≠ r := fun h => hreply ⟨by rw [hr, ← h, hid], hnew⟩
      rw [countReply, if_neg hother]
      exact hold old hmem hid

/-- **One event**: the count of the root starts again at every event of the root, and grows by one
at every new reply. -/
lemma Counted.step (h : Counted root past s) (hcount : root.replyCount = some (some 0))
    (htop : root.root? ≠ some root.id) (hself : m.id = root.id → m = root)
    (hsame : ∀ a ∈ past, a.id = m.id → a = m) :
    Counted root (past ++ [m]) (reduceChatEvent s (.message m)) := by
  refine ⟨unique_step h.ids _, fun id => ?_, fun item hitem hid => ?_⟩
  · rw [reduceChatEvent, mem_updatedMessages_id, h.mem]
    simp [or_comm, eq_comm]
  · by_cases hroot : m.id = root.id
    · -- the root itself
      obtain rfl := hself hroot
      refine ⟨0, replyCount_of_self h.ids hcount htop hitem hid, Nat.zero_le _, ?_⟩
      rw [rootFirst_concat_self rfl, repliesTo_concat_of_ne htop, eq_comm, Finset.card_eq_zero]
    · obtain ⟨old, hold, hidold, hitem⟩ := mem_of_mem_updatedMessages (Ne.symm hroot) hitem hid
      obtain ⟨n, hn, hle, hiff⟩ := h.count old hold hidold
      have hpast : (∀ x ∈ s.messages, x.id ≠ m.id) ↔ ∀ a ∈ past, a.id ≠ m.id := by
        have hmem := not_congr (h.mem m.id)
        simpa only [not_exists, not_and] using hmem
      rw [rootFirst_concat_of_ne hroot]
      by_cases hreply : m.root? = some root.id
      · rw [repliesTo_concat hreply]
        by_cases hnew : ∀ x ∈ s.messages, x.id ≠ m.id
        · -- a new reply
          have hnot : m.id ∉ repliesTo root.id past := by
            intro hmem
            obtain ⟨a, ha, -, hida⟩ := mem_repliesTo.mp hmem
            exact hpast.mp hnew a ha hida
          rw [Finset.card_insert_of_notMem hnot]
          refine ⟨n + 1, ?_, Nat.succ_le_succ hle, by rw [← hiff]; omega⟩
          rw [hitem, if_pos ⟨hreply, hnew⟩, countReply, if_pos hidold, hn]
          rfl
        · -- a repeated one
          have hmem : m.id ∈ repliesTo root.id past := by
            have hagain : ∃ a ∈ past, a.id = m.id := by
              by_contra hnone
              exact hnew (hpast.mpr fun a ha hida => hnone ⟨a, ha, hida⟩)
            obtain ⟨a, ha, hida⟩ := hagain
            exact mem_repliesTo.mpr ⟨a, ha, by rw [hsame a ha hida, hreply], hida⟩
          rw [Finset.insert_eq_of_mem hmem]
          exact ⟨n, by rw [hitem, if_neg fun hc => hnew hc.2, hn], hle, hiff⟩
      · rw [repliesTo_concat_of_ne hreply]
        exact ⟨n, by rw [hitem, if_neg fun hc => hreply hc.1, hn], hle, hiff⟩

end Step

/-- The state after any events. -/
lemma counted_posted {root : Message} (hcount : root.replyCount = some (some 0))
    (htop : root.root? ≠ some root.id) {ms : List Message}
    (hself : ∀ m ∈ ms, m.id = root.id → m = root) (hsame : ∀ a ∈ ms, ∀ b ∈ ms, a.id = b.id → a = b) :
    Counted root ms (posted ms) := by
  induction ms using List.reverseRecOn with
  | nil => exact ⟨unique_nil, by simp [posted, initialChatState], by simp [posted, initialChatState]⟩
  | append_singleton past m ih =>
      have hpast : Counted root past (posted past) :=
        ih (fun a ha => hself a (List.mem_append_left _ ha))
          fun a ha b hb => hsame a (List.mem_append_left _ ha) b (List.mem_append_left _ hb)
      have hm : m ∈ past ++ [m] := by simp
      rw [posted, List.map_append, final_append]
      exact hpast.step hcount htop (hself m hm)
        fun a ha hid => hsame a (List.mem_append_left _ ha) m hm hid

/-- **When the count is right**: after `message` events that say the same of each message, the count
of a root is the number of its replies exactly if all events of the root come before all events of
its replies. -/
theorem replyCount_eq_iff {root : Message} (hcount : root.replyCount = some (some 0))
    (htop : root.root? ≠ some root.id) {ms : List Message} (hmem : root ∈ ms)
    (hsame : ∀ a ∈ ms, ∀ b ∈ ms, a.id = b.id → a = b) :
    replyCount? (posted ms) root.id = some (repliesTo root.id ms).card ↔ RootFirst root.id ms := by
  have h := counted_posted hcount htop (fun m hm hid => hsame m hm root hmem hid) hsame
  obtain ⟨item, hitem, hid⟩ := (h.mem root.id).mpr ⟨root, hmem, rfl⟩
  obtain ⟨n, hn, -, hiff⟩ := h.count item hitem hid
  have hrow : row? Message.id (posted ms).messages root.id = some item :=
    (row?_eq_some h.ids).mpr ⟨hitem, hid⟩
  rw [replyCount?, hrow, Option.bind_some, hn, ← hiff]
  simp

/-- A root, as it is posted. -/
def question : Message := { id := "question", createdAt := 1, replyCount := some (some 0) }

/-- A reply to it. -/
def reply (id : String) : Message :=
  { id := id, createdAt := 2, rootMessageId := some (some "question"), replyCount := some (some 0) }

/-- Two replies after their root, one of them repeated. -/
theorem replyCount_question :
    replyCount? (posted [question, reply "a", reply "b", reply "a"]) question.id =
      some (repliesTo question.id [question, reply "a", reply "b", reply "a"]).card :=
  (replyCount_eq_iff rfl (by decide) List.mem_cons_self (by decide)).mpr (by decide)

/-- A root that is delivered again after its reply, and one that comes after it, count none. -/
theorem not_replyCount_again :
    (replyCount? (posted [question, reply "a", question]) question.id = some 0 ∧
      (repliesTo question.id [question, reply "a", question]).card = 1) ∧
    replyCount? (posted [reply "a", question]) question.id = some 0 ∧
      (repliesTo question.id [reply "a", question]).card = 1 := by
  decide

end Vussa.Reducer
