import Vussa.Client.ChatState
import Mathlib.Data.List.TakeWhile

/-!
The open thread beside the timeline. Both lists hold copies of messages, and the events reach them
under different conditions.

* `Message.content`, `Agree`: the text and the two marks of a message, and two lists with the same
  contents;
* `latest`, `ListsLatest`: what the events last said of a message, and threads that are loaded with
  it;
* `ChatState.unreached`, `LeavesNoCopy`: the copies an event does not reach, and events that leave
  none of them behind;
* `Current`, `agree_step_iff`: what the timeline holds, and one event;
* `agree_iff`: **when both lists agree all along**.
-/

namespace Vussa.Reducer

open Run Table Merge

/-! ### Contents -/

/-- The text of a message and whether it is edited or deleted. -/
def Message.content (m : Message) : Property String × Property Bool × Property Bool :=
  (m.text, m.edited, m.deleted)

/-- The message has all three, as every message of the server does. -/
def Message.Complete (m : Message) : Prop := m.text.isSome ∧ m.edited.isSome ∧ m.deleted.isSome

instance (m : Message) : Decidable m.Complete := inferInstanceAs (Decidable (_ ∧ _ ∧ _))

/-- The messages of an event are complete. -/
def ChatEvent.Complete (e : ChatEvent) : Prop := ∀ m ∈ e.message?, m.Complete

instance (e : ChatEvent) : Decidable e.Complete :=
  inferInstanceAs (Decidable (∀ m ∈ e.message?, m.Complete))

/-- A message in both lists has one content. -/
def Agree (s : ChatState) : Prop :=
  ∀ a ∈ s.messages, ∀ b ∈ s.threadMessages, a.id = b.id → a.content = b.content

instance (s : ChatState) : Decidable (Agree s) :=
  inferInstanceAs (Decidable (∀ a ∈ s.messages, ∀ b ∈ s.threadMessages, _))

/-- The content of the latest event for a message. -/
def latest (es : List ChatEvent) (id : String) :
    Option (Property String × Property Bool × Property Bool) :=
  es.foldl (fun last e => ((e.message?.filter fun m => m.id = id).map Message.content).or last) none

/-- A thread is loaded with the content of the latest preceding events. -/
def Lists (past : List ChatEvent) : ChatEvent → Prop
  | .threadHistory _ messages => ∀ m ∈ messages.getD [], ∀ c ∈ latest past m.id, m.content = c
  | _ => True

instance (past : List ChatEvent) : DecidablePred (Lists past)
  | .threadHistory _ messages => inferInstanceAs (Decidable (∀ m ∈ messages.getD [], _))
  | .message _ | .messageUpdated _ | .reactionUpdated _ | .typing .. | .joined | .other =>
      isTrue trivial

/-- All threads are loaded so. -/
def ListsLatest (es : List ChatEvent) : Prop := Along (fun past e => past ++ [e]) Lists [] es

instance (es : List ChatEvent) : Decidable (ListsLatest es) := Along.decidable ..

/-! ### The condition -/

/-- The copies in the thread that a `message` event does not reach: all but the first one of an event
of the open thread, all of any other. -/
def ChatState.unreached (s : ChatState) (m : Message) : List Message :=
  if s.InThread m then (s.threadMessages.dropWhile fun item => item.id ≠ m.id).tail
  else s.threadMessages

/-- No copy in the thread that the event does not reach has another content than the event. -/
def LeavesNoCopy (s : ChatState) : ChatEvent → Prop
  | .message m => ∀ b ∈ s.unreached m, b.id = m.id → b.content = m.content
  | .messageUpdated m => ∀ b ∈ s.threadMessages, b.id = m.id → b.content = m.content
  | _ => True

instance (s : ChatState) : DecidablePred (LeavesNoCopy s)
  | .message m => inferInstanceAs (Decidable (∀ b ∈ s.unreached m, b.id = m.id → _))
  | .messageUpdated m => inferInstanceAs (Decidable (∀ b ∈ s.threadMessages, b.id = m.id → _))
  | .reactionUpdated _ | .typing .. | .threadHistory .. | .joined | .other => isTrue trivial

/-! ### Contents after an event -/

section Contents

variable {s : ChatState} {m : Message}

lemma content_onto (hm : m.Complete) (item : Message) : (m.onto item).content = m.content := by
  obtain ⟨htext, hedited, hdeleted⟩ := hm
  simp only [Message.content, Message.onto, Option.or_of_isSome htext, Option.or_of_isSome hedited,
    Option.or_of_isSome hdeleted]

lemma Recount.content {f : Message → Message} (h : Recount f) (item : Message) :
    (f item).content = item.content := by
  obtain ⟨count, heq⟩ := h item
  rw [heq, Message.content, Message.content]

lemma latest_concat (past : List ChatEvent) (e : ChatEvent) (id : String) :
    latest (past ++ [e]) id =
      ((e.message?.filter fun m => m.id = id).map Message.content).or (latest past id) := by
  rw [latest, List.foldl_append, List.foldl_cons, List.foldl_nil, latest]

/-- The copy of an upserted message. -/
lemma content_of_mem_upsert (hids : Unique Message.id s.messages) (hm : m.Complete) {a : Message}
    (ha : a ∈ upsert s.messages m) (hid : a.id = m.id) : a.content = m.content := by
  rcases mem_upsert_self hids hid ha with ⟨-, rfl⟩ | ⟨old, -, -, rfl⟩
  · rfl
  · exact content_onto hm old

/-- What an event for a message makes of the timeline. -/
lemma mem_messages_step (hids : Unique Message.id s.messages) {e : ChatEvent}
    (he : e.message? = some m) (hm : m.Complete) {a : Message}
    (ha : a ∈ (reduceChatEvent s e).messages) :
    (a.id = m.id ∧ a.content = m.content) ∨
      (a.id ≠ m.id ∧ ∃ old ∈ s.messages, old.id = a.id ∧ old.content = a.content) := by
  obtain ⟨f, hf, heq⟩ := messages_of_message? s he
  rw [heq] at ha
  obtain ⟨old, hold, rfl⟩ := List.mem_map.mp ha
  rw [hf.id, hf.content]
  by_cases hid : old.id = m.id
  · exact .inl ⟨hid, content_of_mem_upsert hids hm hold hid⟩
  · exact .inr ⟨hid, old, (mem_upsert_of_ne hid).mp hold, rfl, rfl⟩

/-- The timeline holds the message of an event. -/
lemma exists_mem_messages_step (s : ChatState) {e : ChatEvent} (he : e.message? = some m) :
    ∃ a ∈ (reduceChatEvent s e).messages, a.id = m.id := by
  obtain ⟨f, hf, heq⟩ := messages_of_message? s he
  obtain ⟨a, ha, hid⟩ := exists_mem_upsert s.messages m
  exact ⟨f a, by rw [heq]; exact List.mem_map_of_mem ha, (hf.id a).trans hid⟩

/-- An event for a message leaves the copies of other messages. -/
lemma mem_thread_of_ne {e : ChatEvent} (he : e.message? = some m) {b : Message} (hid : b.id ≠ m.id) :
    b ∈ (reduceChatEvent s e).threadMessages ↔ b ∈ s.threadMessages := by
  cases e with
  | message m' =>
      obtain rfl : m' = m := Option.some.inj he
      by_cases hthread : s.InThread m'
      · simp only [reduceChatEvent, if_pos hthread]
        exact mem_upsert_of_ne hid
      · simp only [reduceChatEvent, if_neg hthread]
  | messageUpdated m' => exact Iff.rfl
  | reactionUpdated reaction => cases he
  | typing userId username typing => cases he
  | threadHistory root messages => cases he
  | joined => cases he
  | other => cases he

/-- The copies after an upsert, where the record is new and where it is laid over the first one. -/
lemma copies_upsert (hm : m.Complete) (l : List Message) :
    (∀ b ∈ upsert l m, b.id = m.id → b.content = m.content) ↔
      ∀ b ∈ (l.dropWhile fun item => item.id ≠ m.id).tail, b.id = m.id → b.content = m.content := by
  rcases merge_cases Message.id Message.createdAt Message.onto l m with
    ⟨hnew, -⟩ | ⟨a, y, b, rfl, ha, hy, heq⟩
  · have hnil : l.dropWhile (fun item => item.id ≠ m.id) = [] :=
      List.dropWhile_eq_nil_iff.mpr fun item hitem => decide_eq_true (hnew item hitem)
    rw [hnil]
    refine iff_of_true (fun b hb hid => ?_) (by simp)
    rw [eq_of_mem_merge_of_new hnew hid hb]
  · have htail : ((a ++ y :: b).dropWhile fun item => item.id ≠ m.id).tail = b := by
      rw [List.dropWhile_append_of_pos (by simpa using ha),
        List.dropWhile_cons_of_neg (by simpa using hy), List.tail_cons]
    rw [htail, upsert, heq]
    simp only [List.mem_append, List.mem_cons]
    constructor
    · exact fun h x hx hid => h x (.inr (.inr hx)) hid
    · rintro h x (hx | rfl | hx) hid
      · exact absurd hid (ha x hx)
      · exact content_onto hm y
      · exact h x hx hid

/-- **The condition**, from the copies after the event. -/
lemma leavesNoCopy_iff {e : ChatEvent} (he : e.message? = some m) (hm : m.Complete) :
    LeavesNoCopy s e ↔
      ∀ b ∈ (reduceChatEvent s e).threadMessages, b.id = m.id → b.content = m.content := by
  cases e with
  | message m' =>
      obtain rfl : m' = m := Option.some.inj he
      by_cases hthread : s.InThread m'
      · simp only [LeavesNoCopy, ChatState.unreached, reduceChatEvent, if_pos hthread]
        exact (copies_upsert hm s.threadMessages).symm
      · simp only [LeavesNoCopy, ChatState.unreached, reduceChatEvent, if_neg hthread]
  | messageUpdated m' =>
      obtain rfl : m' = m := Option.some.inj he
      exact Iff.rfl
  | reactionUpdated reaction => cases he
  | typing userId username typing => cases he
  | threadHistory root messages => cases he
  | joined => cases he
  | other => cases he

end Contents

/-! ### One event -/

/-- The timeline holds the contents of the latest events. -/
def Current (past : List ChatEvent) (s : ChatState) : Prop :=
  ∀ a ∈ s.messages, latest past a.id = some a.content

section Step

variable {s : ChatState} {past : List ChatEvent} {e : ChatEvent}

lemma Current.step (h : Current past s) (hids : Unique Message.id s.messages) (he : e.Complete) :
    Current (past ++ [e]) (reduceChatEvent s e) := by
  intro a ha
  rw [latest_concat]
  cases hm : e.message? with
  | none =>
      rw [messages_of_none s hm] at ha
      exact h a ha
  | some m =>
      rcases mem_messages_step hids hm (he m hm) ha with ⟨hid, hcontent⟩ | ⟨hid, old, hold, hid', hcontent⟩
      · rw [Option.filter_some, if_pos (decide_eq_true hid.symm), hcontent]
        rfl
      · rw [Option.filter_some, if_neg (by simpa using Ne.symm hid), ← hid', ← hcontent]
        exact h old hold

/-- **One event**: two lists that agree do so afterwards exactly if the event leaves no copy. -/
lemma agree_step_iff (h : Agree s) (hids : Unique Message.id s.messages) (hcurrent : Current past s)
    (he : e.Complete) (hlists : Lists past e) :
    Agree (reduceChatEvent s e) ↔ LeavesNoCopy s e := by
  cases hm : e.message? with
  | some m =>
      have hcomplete := he m hm
      rw [leavesNoCopy_iff hm hcomplete]
      constructor
      · intro hagree b hb hid
        obtain ⟨a, ha, hida⟩ := exists_mem_messages_step s hm
        have hcontent : a.content = m.content := by
          rcases mem_messages_step hids hm hcomplete ha with ⟨-, hcontent⟩ | ⟨hne, -⟩
          · exact hcontent
          · exact absurd hida hne
        rw [← hagree a ha b hb (hida.trans hid.symm), hcontent]
      · intro hcopies a ha b hb hid
        rcases mem_messages_step hids hm hcomplete ha with
          ⟨hida, hcontent⟩ | ⟨hne, old, hold, hid', hcontent⟩
        · rw [hcontent, hcopies b hb (hid.symm.trans hida)]
        · have hb' : b ∈ s.threadMessages := (mem_thread_of_ne hm (hid ▸ hne)).mp hb
          rw [← hcontent, h old hold b hb' (hid'.trans hid)]
  | none =>
      have hnone : LeavesNoCopy s e := by
        cases e with
        | message m => cases hm
        | messageUpdated m => cases hm
        | reactionUpdated reaction => trivial
        | typing userId username typing => trivial
        | threadHistory root messages => trivial
        | joined => trivial
        | other => trivial
      refine iff_of_true (fun a ha b hb hid => ?_) hnone
      rw [messages_of_none s hm] at ha
      cases e with
      | message m => cases hm
      | messageUpdated m => cases hm
      | threadHistory root messages =>
          -- the thread is loaded anew
          exact (hlists b hb a.content (by rw [← hid]; exact hcurrent a ha)).symm
      | reactionUpdated reaction => exact h a ha b hb hid
      | typing userId username typing => exact h a ha b hb hid
      | joined => exact h a ha b hb hid
      | other => exact h a ha b hb hid

end Step

/-! ### Runs -/

lemma unique_messages (es : List ChatEvent) :
    Unique Message.id (final reduceChatEvent initialChatState es).messages := by
  have hstep : ∀ (s : ChatState) e, Unique Message.id s.messages →
      Unique Message.id (reduceChatEvent s e).messages := fun s e h => unique_step h e
  exact final_invariant hstep unique_nil es

lemma current_final {es : List ChatEvent} (h : ∀ e ∈ es, e.Complete) :
    Current es (final reduceChatEvent initialChatState es) := by
  induction es using List.reverseRecOn with
  | nil => exact fun a ha => absurd ha List.not_mem_nil
  | append_singleton past e ih =>
      rw [final_append]
      exact (ih fun e' he' => h e' (List.mem_append_left _ he')).step (unique_messages past)
        (h e (by simp))

lemma final_snoc (es past : List ChatEvent) :
    final (fun past e => past ++ [e]) past es = past ++ es := by
  induction es generalizing past with
  | nil => exact (List.append_nil past).symm
  | cons e es ih => rw [final_cons, ih, List.append_assoc, List.singleton_append]

lemma listsLatest_concat {past : List ChatEvent} {e : ChatEvent} :
    ListsLatest (past ++ [e]) ↔ ListsLatest past ∧ Lists past e := by
  rw [ListsLatest, along_append, along_cons, final_snoc, List.nil_append]
  exact and_congr_right fun _ => and_iff_left trivial

/-- For complete messages: the lists agree all along exactly if no event leaves a copy. -/
lemma agree_prefixes_iff {es : List ChatEvent} (hlists : ListsLatest es) (h : ∀ e ∈ es, e.Complete) :
    (∀ past, past <+: es → Agree (final reduceChatEvent initialChatState past)) ↔
      Along reduceChatEvent LeavesNoCopy initialChatState es := by
  induction es using List.reverseRecOn with
  | nil =>
      refine iff_of_true (fun past hpast => ?_) trivial
      rw [List.prefix_nil.mp hpast]
      exact fun a ha => absurd ha List.not_mem_nil
  | append_singleton past e ih =>
      obtain ⟨hpast, he⟩ := listsLatest_concat.mp hlists
      have hcomplete : ∀ e ∈ past, e.Complete := fun e' he' => h e' (List.mem_append_left _ he')
      have hstep := fun hagree => agree_step_iff hagree (unique_messages past)
        (current_final hcomplete) (h e (by simp)) he
      have hlast : Along reduceChatEvent LeavesNoCopy initialChatState (past ++ [e]) ↔
          Along reduceChatEvent LeavesNoCopy initialChatState past ∧
            LeavesNoCopy (final reduceChatEvent initialChatState past) e := by
        rw [along_append, along_cons]
        exact and_congr_right fun _ => and_iff_left trivial
      rw [hlast, ← ih hpast hcomplete]
      constructor
      · intro hagree
        have hbefore : ∀ p, p <+: past → Agree (final reduceChatEvent initialChatState p) :=
          fun p hp => hagree p (hp.trans (List.prefix_append past [e]))
        have hafter := hagree (past ++ [e]) List.prefix_rfl
        rw [final_append] at hafter
        exact ⟨hbefore, (hstep (hbefore past List.prefix_rfl)).mp hafter⟩
      · rintro ⟨hbefore, hleaves⟩ p hp
        rcases List.prefix_concat_iff.mp hp with rfl | hp
        · rw [final_append]
          exact (hstep (hbefore past List.prefix_rfl)).mpr hleaves
        · exact hbefore p hp

/-- **When the thread shows what the timeline shows**: with every thread loaded with the latest
contents, the two lists agree in every state of a run of complete messages exactly if no event
leaves a copy behind. -/
theorem agree_iff {es : List ChatEvent} (hlists : ListsLatest es) :
    ((∀ e ∈ es, e.Complete) ∧
      ∀ past, past <+: es → Agree (final reduceChatEvent initialChatState past)) ↔
    (∀ e ∈ es, e.Complete) ∧ Along reduceChatEvent LeavesNoCopy initialChatState es :=
  and_congr_right fun h => agree_prefixes_iff hlists h

/-- A reply with a text. -/
def answer (text : String) (edited : Bool) : Message :=
  { id := "answer", createdAt := 2, text := some (some text), edited := some (some edited),
    deleted := some (some false), rootMessageId := some (some "question") }

/-- The thread is loaded after an edit. -/
def loadedAfterEdit : List ChatEvent :=
  [.message (answer "no" false), .messageUpdated (answer "yes" true),
    .threadHistory (some "question") (some [answer "yes" true])]

/-- The thread is open when the edit comes. -/
def openDuringEdit : List ChatEvent :=
  [.message (answer "no" false), .threadHistory (some "question") (some [answer "no" false]),
    .messageUpdated (answer "yes" true)]

theorem agree_loadedAfterEdit : (∀ e ∈ loadedAfterEdit, e.Complete) ∧
    ∀ past, past <+: loadedAfterEdit → Agree (final reduceChatEvent initialChatState past) :=
  (agree_iff (by decide)).mpr (by decide)

/-- The open thread keeps the text from before the edit. -/
theorem not_agree_openDuringEdit :
    ListsLatest openDuringEdit ∧ (∀ e ∈ openDuringEdit, e.Complete) ∧
      (final reduceChatEvent initialChatState openDuringEdit).messages = [answer "yes" true] ∧
      (final reduceChatEvent initialChatState openDuringEdit).threadMessages = [answer "no" false] ∧
      ¬ Agree (final reduceChatEvent initialChatState openDuringEdit) := by
  decide

end Vussa.Reducer
