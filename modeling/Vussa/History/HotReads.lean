import Vussa.History.HotStore

/-!
The pages served from the two Valkey keys of a channel as they are (`websocket/history.rs`). The
hash and the sorted set need not agree: a member without a payload, or with one that does not
decode, is passed over, and the instant and the identifier of a payload need not be those of its
entry.

* `HotKeys.fetch`, `HotKeys.upTo`: `HMGET` and `ZREVRANGEBYSCORE`;
* `HotKeys.loaded`, `HotKeys.loadHotHistoryBefore`: what a request finds in the cache;
* `HotKeys.historyReply`, `HotKeys.sendHistoryPage`: the page, with the keys it leaves;
* `cutPage_loadHotHistoryBefore`: a page from the cache is the newest of what was found;
* `historyReply_represents`: **the answers refine those from `HotHistory`**.
-/

namespace Vussa

open SortedSet Timeline

namespace HotKeys

/-! ### The reads -/

/-- `HMGET` of some members, with the payloads decoded. -/
def fetch (k : HotKeys) (ids : List String) : List ChatMessage :=
  (ids.filterMap k.messages).map StoredMessage.intoMessage

/-- `ZREVRANGEBYSCORE order max -inf LIMIT 0 300`: no score is negative. -/
def upTo (k : HotKeys) (max : ℤ) : List String :=
  if 0 ≤ max then k.order.revRangeByScore (nearestDouble max.toNat) hotHistoryLimit else []

/-- The messages that a request finds in the cache: the newest three hundred, or those before its
cursor among the newest three hundred up to its instant. -/
def loaded (k : HotKeys) : Option Stamp → List ChatMessage
  | none => k.fetch (k.order.range (-((hotHistoryLimit : ℕ) : ℤ)) (-1))
  | some cursor => (k.fetch (k.upTo (score cursor))).filter fun m => m.Before (some cursor)

/-- `load_hot_history_before`. -/
def loadHotHistoryBefore (k : HotKeys) (before : Option Stamp) : List ChatMessage :=
  if before.isNone then k.loaded before else splitOffPage (sortMessages (k.loaded before))

/-- `hydrate_hot_history`. -/
def hydrateHotHistory (k : HotKeys) (messages : List ChatMessage) : HotKeys :=
  messages.foldl (fun k m => k.write (.fromMessage m Uuid.nil)) k

/-- `send_history_page` up to the event, with the keys it leaves. -/
def historyReply (k : HotKeys) (db : Database) (now : Millis) (channel : String)
    (before : Option Cursor) : HistoryReply × HotKeys :=
  let cached := k.loadHotHistoryBefore (before.map Cursor.cast)
  if cached.length < cacheLimit before then
    let rows := loadMessages db now channel (before.map Cursor.cast) (cacheLimit before + 1)
    let k' := if before.isNone then
        k.hydrateHotHistory (rows.drop (rows.length - hotHistoryLimit))
      else k
    ({ messages := cutPage before (sortMessages rows), source := .database,
       hasMore := cacheLimit before < rows.length }, k')
  else
    ({ messages := cutPage before (sortMessages cached), source := .cache,
       hasMore := cacheLimit before ≤ cached.length }, k)

/-- `send_history_page`: the event sent, and the keys it leaves. -/
def sendHistoryPage (k : HotKeys) (db : Database) (now : Millis) (channel : String)
    (before : Option Cursor) : ServerEvent × HotKeys :=
  let (reply, k') := k.historyReply db now channel before
  (match before with
    | none => .history channel reply.messages reply.source reply.hasMore
    | some _ => .historyPage channel reply.messages reply.source reply.hasMore, k')

/-! ### What a request finds -/

/-- The cache has enough messages to answer: three hundred without a cursor, fifty with one. -/
def Answers (k : HotKeys) (before : Option Cursor) : Prop :=
  cacheLimit before ≤ (k.loaded (before.map Cursor.cast)).length

instance (k : HotKeys) (before : Option Cursor) : Decidable (k.Answers before) :=
  inferInstanceAs (Decidable (_ ≤ _))

/-- Deleted keys answer nothing. -/
lemma not_answers_empty (before : Option Cursor) : ¬ empty.Answers before := by
  have hnone : empty.loaded (before.map Cursor.cast) = [] := by
    cases before with
    | none => rfl
    | some cursor =>
        have hmembers : ∀ max, empty.upTo max = [] := by
          intro max
          rw [upTo]
          split_ifs <;> rfl
        rw [Option.map_some, loaded, hmembers]
        rfl
  have hlimit : 0 < cacheLimit before := by
    rw [cacheLimit]
    split_ifs <;> decide
  rw [Answers, hnone, List.length_nil]
  exact not_le.mpr hlimit

section Reads

variable {k : HotKeys} {before : Option Cursor}

/-- With a cursor, `load_hot_history_before` keeps a page of the newest. -/
lemma loadHotHistoryBefore_some (k : HotKeys) (cursor : Stamp) :
    k.loadHotHistoryBefore (some cursor) =
      newest ChatMessage.stamp historyPageSize (k.loaded (some cursor)) := by
  rw [loadHotHistoryBefore, if_neg (by simp), splitOffPage_sortMessages]

lemma answers_iff : cacheLimit before ≤ (k.loadHotHistoryBefore (before.map Cursor.cast)).length ↔
    k.Answers before := by
  cases before with
  | none => exact Iff.rfl
  | some cursor =>
      rw [Option.map_some, loadHotHistoryBefore_some, length_newest]
      exact ⟨fun hle => hle.trans (min_le_right _ _), fun hle => le_min le_rfl hle⟩

/-- **A page from the cache** has the newest of the messages that were found. -/
lemma cutPage_loadHotHistoryBefore (k : HotKeys) (before : Option Cursor) :
    cutPage before (sortMessages (k.loadHotHistoryBefore (before.map Cursor.cast))) =
      newest ChatMessage.stamp historyPageSize (k.loaded (before.map Cursor.cast)) := by
  cases before with
  | none => rw [cutPage_none, splitOffPage_sortMessages]; rfl
  | some cursor =>
      set found := newest ChatMessage.stamp historyPageSize (k.loaded (some cursor.cast)) with hfound
      have hsorted : sortMessages found = found := by
        refine List.Pairwise.insertionSort_eq ?_
        exact (List.pairwise_insertionSort _ _).sublist (newest_sublist _ _)
      have hlength : found.length ≤ historyPageSize := by
        rw [hfound, length_newest]
        exact min_le_left _ _
      rw [Option.map_some, loadHotHistoryBefore_some, ← hfound, cutPage_some, hsorted,
        List.take_of_length_le hlength]

lemma historyReply_cache (hcache : k.Answers before) (db : Database) (now : Millis)
    (channel : String) : k.historyReply db now channel before =
      ({ messages := newest ChatMessage.stamp historyPageSize (k.loaded (before.map Cursor.cast)),
         source := .cache, hasMore := true }, k) := by
  have hlimit := answers_iff.mpr hcache
  rw [historyReply]
  simp only [if_neg (not_lt.mpr hlimit), cutPage_loadHotHistoryBefore, hlimit, decide_true]

lemma historyReply_database (hcold : ¬ k.Answers before) (db : Database) (now : Millis)
    (channel : String) : (k.historyReply db now channel before).1 =
      { messages := cutPage before (sortMessages
          (loadMessages db now channel (before.map Cursor.cast) (cacheLimit before + 1))),
        source := .database,
        hasMore := cacheLimit before <
          (loadMessages db now channel (before.map Cursor.cast) (cacheLimit before + 1)).length } := by
  have hlimit := not_le.mp (fun hle => hcold (answers_iff.mp hle))
  rw [historyReply]
  simp only [if_pos hlimit]

end Reads

/-! ### Refinement -/

section Represents

variable {k : HotKeys} {h : HotHistory}

/-- From `2 ^ 53` on a score is rounded to one from `2 ^ 53` on. -/
lemma le_nearestDouble {n : ℕ} (h : 2 ^ 53 ≤ n) : 2 ^ 53 ≤ nearestDouble n := by
  obtain ⟨s, hs⟩ : ∃ s, n.size = 53 + (s + 1) :=
    Nat.exists_eq_add_of_le (Nat.lt_size.mpr h) |>.imp fun _ hs => by omega
  have hlow : 2 ^ (52 + (s + 1)) ≤ n := Nat.lt_size.mp (by omega)
  have hunit : 2 ^ (n.size - 53) = 2 ^ (s + 1) := by rw [hs, Nat.add_sub_cancel_left]
  have hkept : 2 ^ 52 ≤ n / 2 ^ (s + 1) := by
    rw [Nat.le_div_iff_mul_le (by positivity), ← pow_add]
    exact hlow
  have hrounded : n / 2 ^ (s + 1) * 2 ^ (s + 1) ≤ nearestDouble n := by
    rw [nearestDouble, hunit]
    split_ifs
    · exact Nat.mul_le_mul_right _ (Nat.le_succ _)
    · exact le_rfl
  calc 2 ^ 53 = 2 ^ 52 * 2 := by norm_num
    _ ≤ n / 2 ^ (s + 1) * 2 ^ (s + 1) := Nat.mul_le_mul hkept (Nat.le_self_pow (by omega) 2)
    _ ≤ nearestDouble n := hrounded

/-- A score below `2 ^ 53` against a rounded bound. -/
lemma le_nearestDouble_iff {a b : ℕ} (ha : a < 2 ^ 53) : a ≤ nearestDouble b ↔ a ≤ b := by
  by_cases hb : b < 2 ^ 53
  · rw [nearestDouble_eq hb]
  · have hround := le_nearestDouble (not_lt.mp hb)
    exact iff_of_true (by omega) (by omega)

lemma Represents.fetch (hrep : Represents k h) (ids : List Uuid) :
    k.fetch (ids.map Uuid.toText) = h.fetch ids := by
  rw [HotKeys.fetch, HotHistory.fetch, List.filterMap_map]
  congr 1
  exact List.filterMap_congr fun id _ => hrep.messages id

/-- The range query finds the entries that it finds in the model of the cache. -/
lemma Represents.upTo (hrep : Represents k h) (hsmall : ∀ e ∈ h.order.entries, score e < 2 ^ 53)
    (max : ℤ) : k.upTo max = (h.order.revRangeByScore max hotHistoryLimit).map Uuid.toText := by
  have hpositive : ∀ e ∈ h.order.entries, 0 ≤ score e := by
    intro e he
    obtain ⟨r, -, rfl⟩ := (h.scored e).mp he
    exact Int.natCast_nonneg _
  have hkept : ∀ e ∈ h.order.entries, 0 ≤ max →
      (score (named e) ≤ nearestDouble max.toNat ↔ score e ≤ max) := by
    intro e he hmax
    have hscore : score (named e) = (score e).toNat := by
      have htop := hsmall e he
      exact nearestDouble_eq (by omega)
    have hlow := hpositive e he
    have htop := hsmall e he
    rw [hscore, le_nearestDouble_iff (by omega)]
    omega
  rw [HotKeys.upTo]
  split_ifs with hmax
  · rw [revRangeByScore, revRangeByScore, hrep.entries, List.filter_map, ← List.map_reverse,
      ← List.map_take, List.map_map, List.map_map]
    have hfilter : h.order.entries.filter
        ((fun e => decide (score e ≤ nearestDouble max.toNat)) ∘ named) =
          h.order.entries.filter fun e => score e ≤ max :=
      List.filter_congr fun e he => decide_eq_decide.mpr (hkept e he hmax)
    rw [hfilter]
    rfl
  · have hnone : (h.order.entries.filter fun e => score e ≤ max) = [] := by
      refine List.filter_eq_nil_iff.mpr fun e he hle => ?_
      exact hmax ((hpositive e he).trans (of_decide_eq_true hle))
    rw [revRangeByScore, hnone]
    rfl

/-- Below `2 ^ 53`, a request finds in the two keys what it finds in the model of the cache. -/
lemma loadHotHistoryBefore_represents (hrep : Represents k h)
    (hsmall : ∀ e ∈ h.order.entries, score e < 2 ^ 53) (before : Option Stamp) :
    k.loadHotHistoryBefore before = Vussa.loadHotHistoryBefore h before := by
  cases before with
  | none =>
      change k.fetch _ = h.fetch _
      rw [range_renamed member_named hrep.entries, hrep.fetch]
  | some cursor =>
      rw [loadHotHistoryBefore, if_neg (by simp), loaded, hrep.upTo hsmall, hrep.fetch]
      rfl

/-- **Refinement**: below `2 ^ 53`, the answer from the two keys is the one from the model of the
cache. -/
theorem historyReply_represents (hrep : Represents k h)
    (hsmall : ∀ e ∈ h.order.entries, score e < 2 ^ 53) (db : Database) (now : Millis)
    (channel : String) (before : Option Cursor) :
    (k.historyReply db now channel before).1 = (Vussa.historyReply db now channel h before).1 := by
  rw [historyReply, Vussa.historyReply, loadHotHistoryBefore_represents hrep hsmall]
  split_ifs <;> rfl

end Represents

end HotKeys

end Vussa
