import Vussa.Lib.Run
import Vussa.History.StoredOrder
import Vussa.Model.HotHistory

/-!
`store_message` command by command (`websocket/history.rs`), on the two Valkey keys of a channel as
they are: a hash and a sorted set that nothing but the commands relates, both by the texts of
identifiers.

* `HotKeys`: the two keys, with the commands `hset`, `zadd`, `zrem` and `hdel`;
* `HotKeys.storeMessage`, `HotKeys.updateHotMessage`: the functions;
* `HotKeys.Keyed`, `HotKeys.Kept`: a hash with the members of the set as fields, and what a write is
  to leave;
* `storeMessage_kept`: **the newest three hundred entries and their payloads**;
* `keyed_final`, `length_final`: whole runs;
* `HotKeys.Represents`, `storeMessage_represents`: the keys refine `HotHistory`.
-/

namespace Vussa

open Run SortedSet

/-- `chat:history:{channel}:messages` and `chat:history:{channel}:order`. -/
structure HotKeys where
  messages : String → Option StoredMessage
  order : SortedSet ℕ String

namespace HotKeys

/-- Both keys deleted. -/
def empty : HotKeys where
  messages := fun _ => none
  order := SortedSet.empty

/-! ### Commands -/

/-- `HSET`. -/
def hset (k : HotKeys) (id : String) (record : StoredMessage) : HotKeys :=
  { k with messages := Function.update k.messages id (some record) }

/-- `ZADD`. -/
def zadd (k : HotKeys) (score : ℕ) (id : String) : HotKeys :=
  { k with order := k.order.add score id }

/-- `ZREM`. -/
def zrem (k : HotKeys) (ids : List String) : HotKeys := { k with order := k.order.rem ids }

/-- `HDEL`. -/
def hdel (k : HotKeys) (ids : List String) : HotKeys :=
  { k with messages := fun id => if id ∈ ids then none else k.messages id }

/-- The two commands of the first pipeline. -/
def write (k : HotKeys) (record : StoredMessage) : HotKeys :=
  (k.hset record.id.toText record).zadd (nearestDouble record.createdAt) record.id.toText

/-- `store_message`. -/
def storeMessage (k : HotKeys) (message : ChatMessage) (ownerSession : Uuid) : HotKeys :=
  let k' := k.write (.fromMessage message ownerSession)
  let oldIds := k'.order.range 0 (-((hotHistoryLimit + 1 : ℕ) : ℤ))
  if oldIds = [] then k' else (k'.zrem oldIds).hdel oldIds

/-- `update_hot_message`. -/
def updateHotMessage (k : HotKeys) (message : ChatMessage) : HotKeys :=
  k.storeMessage message Uuid.nil

/-! ### What the functions are for -/

/-- The members of the sorted set. -/
def members (k : HotKeys) : List String := k.order.entries.map member

/-- The fields of the hash are the members of the sorted set. -/
def Keyed (k : HotKeys) : Prop := ∀ id, (k.messages id).isSome ↔ id ∈ k.members

/-- The entry of a record. -/
def entry (record : StoredMessage) : ℕ ×ₗ String :=
  toLex (nearestDouble record.createdAt, record.id.toText)

/-- Entries with one of them inserted or updated, in order. -/
structure Written (old : List (ℕ ×ₗ String)) (e : ℕ ×ₗ String) (all : List (ℕ ×ₗ String)) : Prop where
  sorted : all.Pairwise (· < ·)
  mem : ∀ e', e' ∈ all ↔ e' = e ∨ (e' ∈ old ∧ member e' ≠ member e)

/-- What storing a record leaves. -/
structure Kept (old new : HotKeys) (record : StoredMessage) : Prop where
  newest : ∃ all, Written old.order.entries (entry record) all ∧
    new.order.entries = all.drop (all.length - hotHistoryLimit) ∧
    new.order.entries.length = min hotHistoryLimit all.length
  keyed : new.Keyed
  current : record.id.toText ∈ new.members → new.messages record.id.toText = some record
  others : ∀ id ∈ new.members, id ≠ record.id.toText → new.messages id = old.messages id

/-! ### A write -/

section Write

variable {k : HotKeys} {record : StoredMessage}

lemma order_write (k : HotKeys) (record : StoredMessage) : (k.write record).order =
    k.order.add (nearestDouble record.createdAt) record.id.toText := by
  simp only [write, zadd, hset]

lemma written_write (k : HotKeys) (record : StoredMessage) :
    Written k.order.entries (entry record) (k.write record).order.entries :=
  ⟨(k.write record).order.sorted, fun _ => mem_add⟩

lemma messages_write_self (k : HotKeys) (record : StoredMessage) :
    (k.write record).messages record.id.toText = some record := by
  simp only [write, zadd, hset, Function.update_self]

lemma messages_write_of_ne {id : String} (h : id ≠ record.id.toText) :
    (k.write record).messages id = k.messages id := by
  simp only [write, zadd, hset, Function.update_of_ne h]

lemma mem_members_write {id : String} :
    id ∈ (k.write record).members ↔ id = record.id.toText ∨ id ∈ k.members := by
  rw [members, members, List.mem_map, List.mem_map]
  constructor
  · rintro ⟨e, he, rfl⟩
    rcases mem_add.mp he with rfl | ⟨he, -⟩
    · exact .inl rfl
    · exact .inr ⟨e, he, rfl⟩
  · intro h
    by_cases hid : id = record.id.toText
    · exact ⟨entry record, mem_add.mpr (.inl rfl), hid.symm⟩
    · obtain ⟨e, he, rfl⟩ := h.resolve_left hid
      exact ⟨e, mem_add.mpr (.inr ⟨he, hid⟩), rfl⟩

lemma Keyed.write (h : k.Keyed) (record : StoredMessage) : (k.write record).Keyed := by
  intro id
  rw [mem_members_write]
  by_cases hid : id = record.id.toText
  · rw [hid, messages_write_self]
    simp
  · rw [messages_write_of_ne hid, h id]
    simp [hid]

end Write

/-! ### The removal of the oldest entries -/

section Trim

variable {k : HotKeys}

/-- `ZREM` and `HDEL` of some members. -/
lemma Keyed.drop (h : k.Keyed) (ids : List String) : ((k.zrem ids).hdel ids).Keyed := by
  intro id
  have hmem : id ∈ ((k.zrem ids).hdel ids).members ↔ id ∈ k.members ∧ id ∉ ids := by
    rw [members, members, List.mem_map, List.mem_map]
    constructor
    · rintro ⟨e, he, rfl⟩
      obtain ⟨he, hnot⟩ := mem_rem.mp he
      exact ⟨⟨e, he, rfl⟩, hnot⟩
    · rintro ⟨⟨e, he, rfl⟩, hnot⟩
      exact ⟨e, mem_rem.mpr ⟨he, hnot⟩, rfl⟩
  rw [hmem, ← h id]
  by_cases hid : id ∈ ids
  · simp [hdel, hid]
  · simp [hdel, zrem, hid]

/-- The removal, which an empty list of old members makes of no effect. -/
def trim (k : HotKeys) : HotKeys :=
  let oldIds := k.order.range 0 (-((hotHistoryLimit + 1 : ℕ) : ℤ))
  (k.zrem oldIds).hdel oldIds

lemma storeMessage_eq (k : HotKeys) (message : ChatMessage) (ownerSession : Uuid) :
    k.storeMessage message ownerSession = (k.write (.fromMessage message ownerSession)).trim := by
  rw [storeMessage, trim]
  split_ifs with hnone
  · rw [hnone]
    have hrem : ∀ z : SortedSet ℕ String, z.rem [] = z := by
      intro z
      cases z
      simp [SortedSet.rem]
    simp [zrem, hdel, hrem]
  · rfl

/-- The newest entries stay. -/
lemma entries_trim (k : HotKeys) : k.trim.order.entries =
    k.order.entries.drop (k.order.entries.length - hotHistoryLimit) := by
  rw [trim, range_butLast]
  exact rem_take_entries _ _

/-- The payloads of the members that stay are the ones they had. -/
lemma messages_trim {id : String} (h : id ∈ k.trim.members) : k.trim.messages id = k.messages id := by
  obtain ⟨e, he, rfl⟩ := List.mem_map.mp h
  exact if_neg (mem_rem.mp he).2

end Trim

/-- **Storing a message**: whatever the two keys hold, with the members of the set as fields of the
hash, the newest three hundred entries stay, with their payloads. -/
theorem storeMessage_kept {k : HotKeys} (h : k.Keyed) (message : ChatMessage) (ownerSession : Uuid) :
    Kept k (k.storeMessage message ownerSession) (.fromMessage message ownerSession) := by
  rw [storeMessage_eq]
  refine ⟨⟨_, written_write k _, entries_trim _, ?_⟩, (h.write _).drop _, fun hmem => ?_,
    fun id hmem hid => ?_⟩
  · rw [entries_trim, List.length_drop]
    omega
  · rw [messages_trim hmem, messages_write_self]
  · rw [messages_trim hmem, messages_write_of_ne hid]

/-- A message of the main channel. -/
def greeting (text : String) : ChatMessage :=
  { id := 1, channel := mainChannel, username := "ada", text := text, createdAt := 5,
    edited := false, deleted := false, rootMessageId := none, replyCount := 0, metadata := .empty,
    mentions := [], clientId := none, fileIds := [] }

/-- A greeting with the number of its instant. -/
def numbered (i : ℕ) : ChatMessage :=
  { greeting "hi" with id := Fin.ofNat _ i, createdAt := Fin.ofNat _ i }

lemma numbered_id_injective {i j : ℕ} (hi : i < 1000) (hj : j < 1000)
    (h : (numbered i).id.toText = (numbered j).id.toText) : i = j := by
  have hid : (numbered i).id = (numbered j).id := toText_injective h
  have hval : i % 2 ^ 128 = j % 2 ^ 128 := congrArg Fin.val hid
  omega

/-- The keys with three hundred greetings. -/
def fullKeys : HotKeys where
  messages text := ((List.range hotHistoryLimit).find? fun i => (numbered i).id.toText = text).map
    fun i => .fromMessage (numbered i) 2
  order :=
    { entries := (List.range hotHistoryLimit).map fun i => toLex (i, (numbered i).id.toText)
      sorted := List.pairwise_map.mpr (List.pairwise_lt_range.imp fun h =>
        Prod.Lex.toLex_lt_toLex.mpr (.inl h))
      nodup := by
        rw [List.map_map]
        refine List.nodup_range.map_on fun i hi j hj hij => ?_
        have hlimit : hotHistoryLimit < 1000 := by decide
        exact numbered_id_injective ((List.mem_range.mp hi).trans hlimit)
          ((List.mem_range.mp hj).trans hlimit) hij }

lemma keyed_fullKeys : fullKeys.Keyed := by
  intro text
  simp only [fullKeys, members, Option.isSome_map, List.find?_isSome, decide_eq_true_eq,
    List.map_map, List.mem_map]
  rfl

/-- A further message is stored in full keys. -/
theorem storeMessage_kept_further : fullKeys.members.length = hotHistoryLimit ∧
    (numbered 300).id.toText ∉ fullKeys.members ∧
    Kept fullKeys (fullKeys.storeMessage (numbered 300) 2) (.fromMessage (numbered 300) 2) := by
  refine ⟨?_, fun hmem => ?_, storeMessage_kept keyed_fullKeys _ _⟩
  · rw [members, List.length_map, fullKeys, List.length_map, List.length_range]
  · obtain ⟨e, he, hmember⟩ := List.mem_map.mp hmem
    obtain ⟨i, hi, rfl⟩ := List.mem_map.mp he
    have hlimit : i < 300 := List.mem_range.mp hi
    have heq : i = 300 := numbered_id_injective (by omega) (by decide) hmember
    omega

/-! ### Runs -/

/-- One call, of a message and the session of its owner. -/
def step (k : HotKeys) (call : ChatMessage × Uuid) : HotKeys := k.storeMessage call.1 call.2

lemma keyed_final {k : HotKeys} (h : k.Keyed) (calls : List (ChatMessage × Uuid)) :
    (final step k calls).Keyed := by
  have hstep : ∀ k call, Keyed k → Keyed (step k call) :=
    fun _ call hk => (storeMessage_kept hk call.1 call.2).keyed
  exact final_invariant hstep h calls

/-- However full the keys were, three hundred entries are left after any calls. -/
lemma length_final {k : HotKeys} (h : k.Keyed) (calls : List (ChatMessage × Uuid)) (hne : calls ≠ []) :
    (final step k calls).order.entries.length ≤ hotHistoryLimit := by
  obtain ⟨init, call, rfl⟩ := (List.eq_nil_or_concat calls).resolve_left hne
  rw [List.concat_eq_append, final_append, final_cons, final_nil, step]
  obtain ⟨all, -, -, hlen⟩ := (storeMessage_kept (keyed_final h init) call.1 call.2).newest
  rw [hlen]
  exact min_le_left _ _

/-! ### Refinement -/

/-- An entry under the text of its identifier. -/
def named (e : Stamp) : ℕ ×ₗ String :=
  toLex (nearestDouble (score e).toNat, (member e).toText)

/-- The two keys hold what `HotHistory` holds. -/
structure Represents (k : HotKeys) (h : HotHistory) : Prop where
  entries : k.order.entries = h.order.entries.map named
  messages : ∀ id, k.messages (Uuid.toText id) = h.messages id
  rest : ∀ text, (∀ id, text ≠ Uuid.toText id) → k.messages text = none

@[simp] lemma member_named (e : Stamp) : member (named e) = (member e).toText := rfl

lemma empty_represents : Represents empty HotHistory.empty :=
  ⟨rfl, fun _ => rfl, fun _ _ => rfl⟩

/-- The entries of both are in the same order. -/
lemma named_lt {a b : Stamp} (ha : 0 ≤ score a ∧ score a < 2 ^ 53) (hb : 0 ≤ score b ∧ score b < 2 ^ 53)
    (h : a < b) : named a < named b := by
  have ha' : (score a).toNat < 2 ^ 53 := by omega
  have hb' : (score b).toNat < 2 ^ 53 := by omega
  rw [named, named, nearestDouble_eq ha', nearestDouble_eq hb', Prod.Lex.toLex_lt_toLex,
    String.lt_iff_toList_lt, toText_lt_iff]
  rcases Prod.Lex.lt_iff.mp h with h | ⟨hscore, hmember⟩
  · have hlt : score a < score b := h
    exact .inl (by simp only; omega)
  · have heq : score a = score b := hscore
    exact .inr ⟨by simp only [heq], hmember⟩

section Represents

variable {k : HotKeys} {h : HotHistory}

lemma Represents.write (hrep : Represents k h) {record : StoredMessage}
    (hsmall : ∀ e ∈ h.order.entries, score e < 2 ^ 53) (hrecord : (record.createdAt : ℕ) < 2 ^ 53) :
    Represents (k.write record) (h.store record) := by
  have hbounds : ∀ e ∈ (h.store record).order.entries, 0 ≤ score e ∧ score e < 2 ^ 53 := by
    intro e he
    obtain ⟨r, -, rfl⟩ := ((h.store record).scored e).mp he
    refine ⟨Int.natCast_nonneg _, ?_⟩
    rcases mem_add.mp he with heq | ⟨he, -⟩
    · rw [heq]
      exact Int.ofNat_lt.mpr hrecord
    · exact hsmall _ he
  refine ⟨?_, fun id => ?_, fun text htext => ?_⟩
  · have hnew : named (toLex (((record.createdAt : ℕ) : ℤ), record.id)) = entry record := by
      simp only [named, entry, score, member, ofLex_toLex, Int.toNat_natCast]
    have horder : (h.store record).order = h.order.add ((record.createdAt : ℕ) : ℤ) record.id := rfl
    rw [horder] at hbounds ⊢
    rw [order_write]
    exact entries_add_renamed toText_injective member_named hrep.entries hnew
      fun a ha b hb hlt => named_lt (hbounds a ha) (hbounds b hb) hlt
  · by_cases hid : id = record.id
    · rw [hid, messages_write_self]
      simp only [HotHistory.store, Function.update_self]
    · rw [messages_write_of_ne (toText_injective.ne hid), hrep.messages]
      simp only [HotHistory.store, Function.update_of_ne hid]
  · rw [messages_write_of_ne (htext _), hrep.rest text htext]

lemma Represents.drop (hrep : Represents k h) (ids : List Uuid) :
    Represents ((k.zrem (ids.map Uuid.toText)).hdel (ids.map Uuid.toText)) (h.drop ids) := by
  refine ⟨entries_rem_renamed toText_injective member_named hrep.entries ids, fun id => ?_,
    fun text htext => ?_⟩
  · simp only [hdel, zrem, HotHistory.drop, List.mem_map_of_injective toText_injective, hrep.messages]
  · simp only [hdel, zrem, hrep.rest text htext, ite_self]

/-- **Refinement**: below `2 ^ 53`, the commands do to the two keys what `storeMessage` does to the
model of the cache. -/
theorem storeMessage_represents (hrep : Represents k h) {message : ChatMessage} {ownerSession : Uuid}
    (hsmall : ∀ e ∈ h.order.entries, score e < 2 ^ 53) (hmessage : (message.createdAt : ℕ) < 2 ^ 53) :
    Represents (k.storeMessage message ownerSession)
      (Vussa.storeMessage h message ownerSession) := by
  have hwrite : Represents (k.write (.fromMessage message ownerSession))
      (h.store (.fromMessage message ownerSession)) := hrep.write hsmall hmessage
  rw [storeMessage_eq, trim, range_renamed member_named hwrite.entries]
  exact hwrite.drop _

end Represents

end HotKeys

end Vussa
