import Vussa.Model.Messages

/-!
What `load_messages` serves of a channel, over all cursors and limits.

* `Served`, `served_iff`: **a top-level message is on some page exactly within the window**.
-/

namespace Vussa

variable {db : Database} {now : Millis} {c : ChannelRow} {m : MessageRow}

/-- Some page of `load_messages` holds the message. -/
def Served (db : Database) (now : Millis) (channel : String) (m : MessageRow) : Prop :=
  ∃ before limit, db.view channel m ∈ loadMessages db now channel before limit

/-- A page that is long enough holds every row. -/
lemma mem_latestRows {rows : List MessageRow} (h : m ∈ rows) : m ∈ latestRows rows.length rows := by
  rw [latestRows, List.take_of_length_le (List.length_insertionSort _ _).le, List.mem_reverse]
  exact (List.mem_insertionSort _).mpr h

/-- **What a page of `load_messages` holds** is a top-level message within the window. -/
lemma Served.of_view {channel : String} (h : Served db now channel m) :
    m.rootMessageId = none ∧ ((now : ℕ) : ℤ) - historyWindow ≤ ((m.createdAt : ℕ) : ℤ) := by
  obtain ⟨before, limit, hview⟩ := h
  obtain ⟨c', -, m', hm', heq⟩ := mem_loadMessages hview
  obtain ⟨-, hwindow, hroot, -⟩ := of_decide_eq_true (List.mem_filter.mp hm').2
  have hcreated : m'.createdAt = m.createdAt := congrArg ChatMessage.createdAt heq
  have hroot' : m'.rootMessageId = m.rootMessageId := congrArg ChatMessage.rootMessageId heq
  exact ⟨hroot'.symm.trans hroot, hcreated ▸ hwindow⟩

/-- **A top-level message of a live channel is served** exactly within the window. -/
theorem served_iff (hlive : db.liveChannel? c.name = some c) (hm : m ∈ db.messages)
    (hchannel : m.channelId = c.id) (hroot : m.rootMessageId = none) :
    Served db now c.name m ↔ ((now : ℕ) : ℤ) - historyWindow ≤ ((m.createdAt : ℕ) : ℤ) := by
  constructor
  · exact fun h => h.of_view.2
  · intro hwindow
    have hserved : m ∈ servedRoots db now c none :=
      List.mem_filter.mpr ⟨hm, decide_eq_true
        ⟨hchannel, hwindow, hroot, fun _ h => absurd h (Option.not_mem_none _)⟩⟩
    refine ⟨none, (servedRoots db now c none).length, ?_⟩
    rw [loadMessages, hlive]
    exact List.mem_map_of_mem (mem_latestRows hserved)

end Vussa
