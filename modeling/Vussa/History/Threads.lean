import Vussa.History.Walks
import Vussa.Lib.Run
import Vussa.Model.Writes

/-!
Threads. The history of a channel pages through its top-level messages, and a thread holds the
direct replies to one message; `save_message` asks only that the root of a reply is in the channel.

* `Threaded`: every root is a top-level message of the same channel;
* `threaded_save_iff`: a saved message keeps this exactly when its root is top-level;
* `Reachable`, `Threaded.reachable`: the messages found on the pages of the history, or on those of
  the thread of a message found there;
* `threads_reachable`: **along sends that name no reply as a root, every message is reachable** on
  pages that leave no gap; `replyToReply_lost` is the run of three sends that breaks it.
-/

namespace Vussa.Threads

open Effect Run Pages

/-! ### One save -/

/-- Every root is a top-level message of the same channel. -/
def Threaded (db : Database) : Prop :=
  ∀ m ∈ db.messages, ∀ r ∈ m.rootMessageId,
    ∃ root ∈ db.messages, root.id = r ∧ root.channelId = m.channelId ∧ root.rootMessageId = none

/-- The message a client names as the root, if there is one, is not a reply itself. -/
def TopLevel (db : Database) (root : Option Uuid) : Prop :=
  ∀ parent ∈ db.messages, root = some parent.id → parent.rootMessageId = none

instance (db : Database) (root : Option Uuid) : Decidable (TopLevel db root) :=
  inferInstanceAs (Decidable (∀ parent ∈ db.messages, _))

/-- A message is saved only with a root of its channel. -/
lemma saveMessage_hasRoot {db db' : Database} {message : ChatMessage} {session user : Uuid}
    {c : ChannelRow} (h : saveMessage db message session user = .ok db')
    (hc : db.liveChannel? message.channel = some c) : db.HasRoot c message.rootMessageId := by
  by_contra hroot
  simp only [saveMessage, hc, if_neg hroot] at h
  cases h

/-- **A saved message keeps the threads flat** exactly when its root is top-level. -/
theorem threaded_save_iff {db db' : Database} (hwf : db.WellFormed) (hthreaded : Threaded db)
    {message : ChatMessage} {session user : Uuid}
    (h : saveMessage db message session user = .ok db') :
    Threaded db' ↔ TopLevel db message.rootMessageId := by
  obtain ⟨c, links, hc, hfresh, rfl⟩ := saveMessage_ok h
  have hold : ∀ m ∈ db.messages, m ∈ db.messages ++ [savedRow c message session user] :=
    fun m hm => List.mem_append_left _ hm
  have hnew : savedRow c message session user ∈
      db.messages ++ [savedRow c message session user] :=
    List.mem_append_right _ (List.mem_singleton_self _)
  constructor
  · intro hafter parent hparent hroot
    obtain ⟨root, hmem, hid, -, htop⟩ := hafter _ hnew parent.id hroot
    -- the identifier belongs to one row only
    have hwf' := wellFormed_append hwf (savedRow c message session user) links hfresh
    obtain rfl : root = parent :=
      List.inj_on_of_nodup_map hwf'.messageId hmem (hold parent hparent) hid
    exact htop
  · intro htop m hm r hr
    rcases List.mem_append.mp hm with hm | hm
    · obtain ⟨root, hmem, hid, hchannel, hnone⟩ := hthreaded m hm r hr
      exact ⟨root, hold root hmem, hid, hchannel, hnone⟩
    · rw [List.mem_singleton.mp hm] at hr
      have hroot : message.rootMessageId = some r := hr
      have hparent := saveMessage_hasRoot h hc
      rw [hroot] at hparent
      obtain ⟨parent, hmem, hid, hchannel⟩ := hparent
      refine ⟨parent, hold parent hmem, hid, ?_, htop parent hmem (hid ▸ hroot)⟩
      rw [List.mem_singleton.mp hm]
      exact hchannel

/-! ### What can be reached -/

/-- The message is on a page of the history, or on one of the thread of a message found there. -/
def Reachable (db : Database) (now : Millis) (c : ChannelRow) (k : HotKeys) (m : MessageRow) :
    Prop :=
  ∃ before, k.Requested db now c.name before ∧
    (m.stamp ∈ (k.historyPages db now c.name before).map ChatMessage.stamp ∨
      ∃ root ∈ k.historyPages db now c.name before, ∃ before',
        Asked (threadPages db c.name root.id) ChatMessage.cursor none before' ∧
          m.stamp ∈ (threadPages db c.name root.id before').map ChatMessage.stamp)

/-- **With flat threads every message is reachable** as far as the window of the history goes, on
pages that leave no gap. -/
theorem Threaded.reachable {db : Database} (hwf : db.WellFormed) (h : Threaded db) {now : Millis}
    {c : ChannelRow} (hlive : db.liveChannel? c.name = some c) (hwindow : InWindow db now c)
    {k : HotKeys}
    (hgapless : ∀ before, k.Requested db now c.name before → k.Gapless db now c before)
    {m : MessageRow} (hm : m ∈ db.messages) (hchannel : m.channelId = c.id) :
    Reachable db now c k m := by
  have hfound : ∀ r ∈ db.messages, r.channelId = c.id → r.rootMessageId = none →
      ∃ before, k.Requested db now c.name before ∧
        r.stamp ∈ (k.historyPages db now c.name before).map ChatMessage.stamp := by
    intro r hr hrchannel htop
    refine HotKeys.exists_historyPage hwf hlive hgapless (List.mem_filter.mpr ⟨hr, ?_⟩)
    exact decide_eq_true
      ⟨hrchannel, hwindow r hr hrchannel htop, htop, fun _ hs => absurd hs (Option.not_mem_none _)⟩
  cases hroot : m.rootMessageId with
  | none =>
      obtain ⟨before, hrequested, hpage⟩ := hfound m hm hchannel hroot
      exact ⟨before, hrequested, Or.inl hpage⟩
  | some r =>
      obtain ⟨root, hmem, rfl, hsame, htop⟩ := h m hm r hroot
      obtain ⟨before, hrequested, hpage⟩ := hfound root hmem (hsame.trans hchannel) htop
      obtain ⟨a, ha, hstamp⟩ := List.mem_map.mp hpage
      have hid : a.id = root.id := congrArg SortedSet.member hstamp
      obtain ⟨before', hasked, hthread⟩ := exists_threadPage hwf hlive hm hchannel hroot
      exact ⟨before, hrequested, Or.inr ⟨a, ha, before', hid ▸ hasked, hid ▸ hthread⟩⟩

/-- The row behind a stamp. -/
lemma eq_of_stamp {db : Database} (hwf : db.WellFormed) {m r : MessageRow} (hm : m ∈ db.messages)
    (hr : r ∈ db.messages) (h : r.stamp = m.stamp) : r = m :=
  List.inj_on_of_nodup_map hwf.messageId hr hm (congrArg SortedSet.member h)

/-- A reply to a reply is never reachable on pages from the tables. -/
lemma not_reachable {db : Database} (hwf : db.WellFormed) {now : Millis} {c : ChannelRow}
    (hlive : db.liveChannel? c.name = some c) {k : HotKeys}
    (hcold : ∀ before, ¬ (k.atRequest db now c.name before).Answers before) {m : MessageRow}
    (hm : m ∈ db.messages) {r : Uuid} (hroot : m.rootMessageId = some r)
    (hreply : ∀ root ∈ db.messages, root.id = r → root.rootMessageId ≠ none) :
    ¬ Reachable db now c k m := by
  -- what a page from the tables holds is a top-level message
  have htop : ∀ before, ∀ a ∈ k.historyPages db now c.name before, ∃ row ∈ db.messages,
      row.rootMessageId = none ∧ row.stamp = a.stamp := by
    intro before a ha
    obtain ⟨row, hrow, rfl⟩ := HotKeys.exists_row_of_mem_database hwf hlive (hcold before) ha
    obtain ⟨hmem, hserved⟩ := List.mem_filter.mp hrow
    exact ⟨row, hmem, (of_decide_eq_true hserved).2.2.1, rfl⟩
  rintro ⟨before, -, hpage | ⟨root, hfound, before', -, hthread⟩⟩
  · obtain ⟨a, ha, hstamp⟩ := List.mem_map.mp hpage
    obtain ⟨row, hmem, hnone, hrow⟩ := htop before a ha
    rw [eq_of_stamp hwf hm hmem (hrow.trans hstamp), hroot] at hnone
    exact absurd hnone (by simp)
  · obtain ⟨row, hmem, hnone, hrow⟩ := htop before root hfound
    obtain ⟨a, ha, hstamp⟩ := List.mem_map.mp hthread
    rw [threadPages_eq hwf hlive] at ha
    obtain ⟨reply, hin, rfl⟩ := List.mem_map.mp (Timeline.newest_subset ha)
    obtain ⟨hreplymem, hof⟩ := List.mem_filter.mp hin
    obtain ⟨-, hrootid, -⟩ := of_decide_eq_true hof
    rw [eq_of_stamp hwf hm hreplymem hstamp, hroot] at hrootid
    have hid : row.id = root.id := congrArg SortedSet.member hrow
    exact hreply row hmem (hid.trans (Option.some.inj hrootid).symm) hnone

/-! ### Every run -/

/-- A `SendMessage` event of a socket, at the instant it is handled, with the identifiers drawn for
it. -/
structure Sending where
  now : Millis
  fresh : Fresh
  user : AuthUser
  session : Uuid
  channel : String
  text : String
  rootMessageId : Option Uuid := none
  clientId : Option String := none
  fileIds : List Uuid := []

/-- The state after the event, accepted or refused. -/
def send (U : Unicode) (s : Shared) (e : Sending) : Shared :=
  after (sendMessage U e.fresh.message e.user e.session e.channel e.text e.rootMessageId e.clientId
    e.fileIds) { s with now := e.now }

/-- The condition on an event: its root is not a reply. -/
def Flat (s : Shared) (e : Sending) : Prop := TopLevel s.db e.rootMessageId

instance (s : Shared) (e : Sending) : Decidable (Flat s e) :=
  inferInstanceAs (Decidable (TopLevel s.db e.rootMessageId))

/-- The keys hold, and the threads are flat. -/
def Sound (s : Shared) : Prop := s.db.WellFormed ∧ Threaded s.db

/-- **A send keeps the threads flat** if its root is not a reply. -/
lemma Sound.send {U : Unicode} {s : Shared} (h : Sound s) {e : Sending} (hflat : Flat s e) :
    Sound (send U s e) := by
  have hquiet : ∀ s s' : Shared, Quiet s s' → Sound s → Sound s' := by
    intro s s' hq hs
    refine ⟨hs.1.congr hq.channels hq.messages, ?_⟩
    rw [Threaded, hq.messages]
    exact hs.2
  have hs : Sound { s with now := e.now } := h
  refine holds_after_sendMessage hquiet hs fun s' hwrite => ?_
  cases hwrite with
  | sendMessage hpost =>
      obtain ⟨db', hsave, rfl⟩ := Backend.postMessage_ok hpost
      refine ⟨?_, (threaded_save_iff h.1 h.2 hsave).mpr hflat⟩
      obtain ⟨c, links, -, hfresh, rfl⟩ := saveMessage_ok hsave
      exact wellFormed_append h.1 _ links hfresh
  | service hrequest => cases hrequest

/-- **Along every run of sends that name no reply as a root**, the threads are flat and every
message of a live channel is reachable, on pages that leave no gap. -/
theorem threads_reachable (U : Unicode) {s : Shared} (hwf : s.db.WellFormed)
    (hthreaded : Threaded s.db) (es : List Sending) (h : Along (send U) Flat s es) :
    Threaded (final (send U) s es).db ∧
      ∀ (now : Millis) (c : ChannelRow), (final (send U) s es).db.liveChannel? c.name = some c →
        InWindow (final (send U) s es).db now c → ∀ k : HotKeys,
          (∀ before, k.Requested (final (send U) s es).db now c.name before →
            k.Gapless (final (send U) s es).db now c before) →
          ∀ m ∈ (final (send U) s es).db.messages, m.channelId = c.id →
            Reachable (final (send U) s es).db now c k m := by
  have hsound : Sound (final (send U) s es) :=
    h.invariant (fun _ _ hs hflat => hs.send hflat) ⟨hwf, hthreaded⟩
  exact ⟨hsound.2, fun now c hlive hwindow k hgapless m hm hchannel =>
    hsound.2.reachable hsound.1 hlive hwindow hgapless hm hchannel⟩

/-- A user who may write. -/
def ada : AuthUser := ⟨1, "ada@vussa.example", "ada", [], [.chatWrite]⟩

/-- The channel of the sends below. -/
def hall : ChannelRow := { id := 5, name := "hall", createdAt := 0 }

/-- The tables before the sends. -/
def hallBefore : Shared := { db := { channels := [hall] }, now := 0 }

/-- A message to the hall under the identifier `id`. -/
def post (id : Uuid) (root : Option Uuid) : Sending where
  now := 1000
  fresh := ⟨90, id, 91⟩
  user := ada
  session := 9
  channel := "hall"
  text := "hello"
  rootMessageId := root

/-- A message and a reply to it. -/
def thread : List Sending := [post 21 none, post 22 (some 21)]

/-- Behind deleted keys both messages are reachable. -/
theorem thread_reachable : Threaded (final (send .ascii) hallBefore thread).db ∧
    ∀ m ∈ (final (send .ascii) hallBefore thread).db.messages,
      Reachable (final (send .ascii) hallBefore thread).db 1000 hall .empty m := by
  have hflat : Along (send .ascii) Flat hallBefore thread := by decide +kernel
  have hwf : hallBefore.db.WellFormed := ⟨by decide, by decide, by decide⟩
  obtain ⟨hthreaded, hreachable⟩ :=
    threads_reachable .ascii hwf (fun _ h => absurd h List.not_mem_nil) thread hflat
  have hafter : (final (send .ascii) hallBefore thread).db.WellFormed :=
    ⟨by decide +kernel, by decide +kernel, by decide +kernel⟩
  have hlive : (final (send .ascii) hallBefore thread).db.liveChannel? hall.name = some hall := by
    decide +kernel
  have hwindow : InWindow (final (send .ascii) hallBefore thread).db 1000 hall := by
    decide +kernel
  have hshort : (servedRoots (final (send .ascii) hallBefore thread).db 1000 hall none).length <
      historyPageSize := by
    decide +kernel
  have hchannel : ∀ m ∈ (final (send .ascii) hallBefore thread).db.messages,
      m.channelId = hall.id := by
    decide +kernel
  exact ⟨hthreaded, fun m hm => hreachable 1000 hall hlive hwindow .empty
    (fun before _ => HotKeys.gapless_empty hafter hlive hshort before) m hm (hchannel m hm)⟩

/-- A reply to a reply. -/
def replies : List Sending := [post 21 none, post 22 (some 21), post 23 (some 22)]

/-- The third message is stored, its root is a reply, and behind deleted keys no instant makes it
reachable. -/
theorem replyToReply_lost : ∃ m ∈ (final (send .ascii) hallBefore replies).db.messages,
    m.id = 23 ∧ m.channelId = hall.id ∧
      (final (send .ascii) hallBefore replies).db.liveChannel? hall.name = some hall ∧
      ¬ Threaded (final (send .ascii) hallBefore replies).db ∧
      ∀ now, ¬ Reachable (final (send .ascii) hallBefore replies).db now hall .empty m := by
  have hlive : (final (send .ascii) hallBefore replies).db.liveChannel? hall.name = some hall := by
    decide +kernel
  have hwf : (final (send .ascii) hallBefore replies).db.WellFormed :=
    ⟨by decide +kernel, by decide +kernel, by decide +kernel⟩
  have hreply : ∀ root ∈ (final (send .ascii) hallBefore replies).db.messages,
      root.id = 22 → root.rootMessageId ≠ none := by
    decide +kernel
  have hthird : ∃ m ∈ (final (send .ascii) hallBefore replies).db.messages,
      m.id = 23 ∧ m.channelId = hall.id ∧ m.rootMessageId = some 22 := by
    decide +kernel
  have hfew : (final (send .ascii) hallBefore replies).db.messages.length < historyPageSize := by
    decide +kernel
  obtain ⟨m, hm, hid, hchannel, hroot⟩ := hthird
  refine ⟨m, hm, hid, hchannel, hlive, fun hthreaded => ?_, fun now => ?_⟩
  · obtain ⟨root, hmem, hrootid, -, htop⟩ := hthreaded m hm 22 hroot
    exact hreply root hmem hrootid htop
  · have hshort : (servedRoots (final (send .ascii) hallBefore replies).db now hall none).length <
        historyPageSize := (List.length_filter_le _ _).trans_lt hfew
    exact not_reachable hwf hlive (HotKeys.not_answers_of_short hwf hlive hshort) hm hroot hreply

end Vussa.Threads
