import Vussa.Lib.Keyspace
import Vussa.Valkey.Names
import Vussa.Presence.Tabs
import Vussa.History.HotStore
import Vussa.Auth.RateLimit

/-!
Valkey as the one keyspace it is, under the stores that the other modules take apart: the sessions
with their sets, presence, the hot history of every channel and the counters of the rate limits.

* `Value`, `layout`: the values of all types, under the names of the keys;
* `sessionsOf`, `presenceOf`, `historyOf`, `counterOf`: the separate stores in it;
* `Move`, `Move.commands`: the commands and blocks of the program, as they go to the keys;
* `onSessions`, `onPresence`, `onHistory`, `onCounter`: what a move does to each store alone;
* `sessionsOf_step`, `presenceOf_step`, `historyOf_step`, `counterOf_step`: one move;
* `stores_apart`: **in every run, every store is what its own commands alone make of it**.
-/

namespace Vussa.Valkey

open Sessions (SessionHash)
open Keyspace Run

/-! ### The values -/

/-- What the program keeps at a key. A collection without elements stands for a missing key. -/
abbrev Key.Val : Key → Type
  | .session _ => SessionHash
  | .sessions _ => Finset Uuid
  | .history _ => String → Option StoredMessage
  | .historyOrder _ => SortedSet ℕ String
  | .presenceSet _ => List Uuid
  | .presence _ _ => Participant
  | .rate _ => RateLimit.Counter

/-- A value of Valkey, of any of these types. -/
inductive Value where
  | session (hash : SessionHash)
  | sessions (ids : Finset Uuid)
  | history (records : String → Option StoredMessage)
  | historyOrder (order : SortedSet ℕ String)
  | presenceSet (ids : List Uuid)
  | presence (participant : Participant)
  | rate (counter : RateLimit.Counter)

/-- The value of a key. -/
def Value.of : (k : Key) → k.Val → Value
  | .session _, hash => .session hash
  | .sessions _, ids => .sessions ids
  | .history _, records => .history records
  | .historyOrder _, order => .historyOrder order
  | .presenceSet _, ids => .presenceSet ids
  | .presence _ _, participant => .presence participant
  | .rate _, counter => .rate counter

/-- The value as a command on the key takes it; nothing (`WRONGTYPE`) for another type. -/
def Value.to : (k : Key) → Value → Option k.Val
  | .session _, .session hash => some hash
  | .sessions _, .sessions ids => some ids
  | .history _, .history records => some records
  | .historyOrder _, .historyOrder order => some order
  | .presenceSet _, .presenceSet ids => some ids
  | .presence _ _, .presence participant => some participant
  | .rate _, .rate counter => some counter
  | _, _ => none

/-- The program's keys in Valkey. -/
def layout : Layout Key.Val String Value where
  name := Key.text
  name_injective := text_injective
  encode := Value.of
  decode := Value.to
  decode_encode := by
    intro k x
    cases k <;> rfl

/-! ### The stores -/

section Views

variable (s : Stores Key.Val)

/-- The session keys and the sets of the users. -/
def sessionsOf : Sessions.Store where
  keys id := s (.session id)
  index userId := (s (.sessions userId)).getD (∅ : Finset Uuid)

/-- The presence of the channels. -/
def presenceOf : Presence.Valkey where
  users channel := (s (.presenceSet channel)).getD ([] : List Uuid)
  participants channel userId := s (.presence channel userId)

/-- The hot history of a channel. -/
def historyOf (channel : String) : HotKeys where
  messages := (s (.history channel)).getD fun _ => none
  order := (s (.historyOrder channel)).getD SortedSet.empty

/-- A counter. -/
def counterOf (limit : Limit) : Option RateLimit.Counter := s (.rate limit)

end Views

/-! ### The commands -/

/-- The commands and the `MULTI` blocks that change Valkey, and the expiry of keys. -/
inductive Move where
  /-- the block of `create_session` -/
  | createSession (id : Uuid) (csrf : String) (user : AuthUser)
  /-- `DEL` of session keys, or their expiry -/
  | delSessions (ids : List Uuid)
  /-- `EXPIRE` of a session key -/
  | expireSession (id : Uuid)
  /-- `HSET` of the field `user` -/
  | hsetUser (id : Uuid) (user : AuthUser)
  /-- `SREM` from the set of a user -/
  | sremSession (userId id : Uuid)
  /-- `DEL` of the set of a user -/
  | delUserSessions (userId : Uuid)
  /-- the block of `refresh_presence` -/
  | refreshPresence (channel : String) (participant : Participant)
  /-- the block of `remove_presence` -/
  | removePresence (channel : String) (userId : Uuid)
  /-- `SREM` of the stale ids in `list_presence` -/
  | sremStale (channel : String) (ids : List Uuid)
  /-- the expiry of a presence key -/
  | expirePresence (channel : String) (userId : Uuid)
  /-- `HSET` and `ZADD` of `store_message` and `hydrate_hot_history` -/
  | write (channel : String) (record : StoredMessage)
  /-- `ZREM` of the old ids -/
  | zrem (channel : String) (ids : List String)
  /-- `HDEL` of the old ids -/
  | hdel (channel : String) (ids : List String)
  /-- `DEL` of the payloads in `refresh_moderated_message` -/
  | delHistory (channel : String)
  /-- `DEL` of the order in `refresh_moderated_message` -/
  | delHistoryOrder (channel : String)
  /-- `INCR` of `enforce_rate_limit` -/
  | incr (limit : Limit)
  /-- `EXPIRE` of `enforce_rate_limit` -/
  | expireIn (limit : Limit) (window : ℤ)
  /-- the expiry of a counter -/
  | expireCounter (limit : Limit)

/-- `INCR`. -/
def incrKey (counter : Option RateLimit.Counter) : Option RateLimit.Counter :=
  ({ key := counter } : RateLimit.State).incr.1.key

/-- `EXPIRE`. -/
def expireKey (window : ℤ) (counter : Option RateLimit.Counter) : Option RateLimit.Counter :=
  (({ key := counter } : RateLimit.State).setExpire window).key

/-- The commands of a move, in their order. -/
def Move.commands : Move → List (Command Key.Val)
  | .createSession id csrf user =>
      [⟨.session id, fun _ => some ⟨some csrf, user, true⟩⟩,
        ⟨.sessions user.id, fun ids => some (insert id (ids.getD (∅ : Finset Uuid)))⟩]
  | .delSessions ids => ids.map fun id => ⟨.session id, fun _ => none⟩
  | .expireSession id => [⟨.session id, Option.map fun h => { h with expires := true }⟩]
  | .hsetUser id user =>
      [⟨.session id, fun h =>
          some ((h.map fun h => { h with user := user }).getD ⟨none, user, false⟩)⟩]
  | .sremSession userId id =>
      [⟨.sessions userId, Option.map fun ids : Finset Uuid => ids.erase id⟩]
  | .delUserSessions userId => [⟨.sessions userId, fun _ => none⟩]
  | .refreshPresence channel participant =>
      [⟨.presenceSet channel, fun ids =>
          some ((ids.getD ([] : List Uuid)).insert participant.userId)⟩,
        ⟨.presence channel participant.userId, fun _ => some participant⟩]
  | .removePresence channel userId =>
      [⟨.presenceSet channel, Option.map fun ids : List Uuid => ids.filter (· ∉ [userId])⟩,
        ⟨.presence channel userId, fun _ => none⟩]
  | .sremStale channel stale =>
      [⟨.presenceSet channel, Option.map fun ids : List Uuid => ids.filter (· ∉ stale)⟩]
  | .expirePresence channel userId => [⟨.presence channel userId, fun _ => none⟩]
  | .write channel record =>
      [⟨.history channel, fun records =>
          some (Function.update (records.getD fun _ => none) record.id.toText (some record))⟩,
        ⟨.historyOrder channel, fun order =>
          some ((order.getD SortedSet.empty).add (nearestDouble record.createdAt)
            record.id.toText)⟩]
  | .zrem channel ids => [⟨.historyOrder channel, Option.map fun order => order.rem ids⟩]
  | .hdel channel ids =>
      [⟨.history channel, Option.map fun records id => if id ∈ ids then none else records id⟩]
  | .delHistory channel => [⟨.history channel, fun _ => none⟩]
  | .delHistoryOrder channel => [⟨.historyOrder channel, fun _ => none⟩]
  | .incr limit => [⟨.rate limit, incrKey⟩]
  | .expireIn limit window => [⟨.rate limit, expireKey window⟩]
  | .expireCounter limit => [⟨.rate limit, fun _ => none⟩]

/-! ### The moves on the separate stores -/

/-- A move on the sessions. -/
def onSessions (s : Sessions.Store) : Move → Sessions.Store
  | .createSession id csrf user => s.create id csrf user
  | .delSessions ids => s.del ids
  | .expireSession id => s.expire id
  | .hsetUser id user => s.hsetUser id user
  | .sremSession userId id => s.srem userId id
  | .delUserSessions userId => s.delIndex userId
  | _ => s

/-- A move on the presence. -/
def onPresence (v : Presence.Valkey) : Move → Presence.Valkey
  | .refreshPresence channel participant => v.refreshPresence channel participant
  | .removePresence channel userId => v.removePresence channel userId
  | .sremStale channel ids => v.srem channel ids
  | .expirePresence channel userId => v.expire channel userId
  | _ => v

/-- A move on the hot history of the channel `c`. -/
def onHistory (c : String) (k : HotKeys) : Move → HotKeys
  | .write channel record => if channel = c then k.write record else k
  | .zrem channel ids => if channel = c then k.zrem ids else k
  | .hdel channel ids => if channel = c then k.hdel ids else k
  | .delHistory channel => if channel = c then { k with messages := fun _ => none } else k
  | .delHistoryOrder channel => if channel = c then { k with order := SortedSet.empty } else k
  | _ => k

/-- A move on the counter `l`. -/
def onCounter (l : Limit) (counter : Option RateLimit.Counter) :
    Move → Option RateLimit.Counter
  | .incr limit => if limit = l then incrKey counter else counter
  | .expireIn limit window => if limit = l then expireKey window counter else counter
  | .expireCounter limit => if limit = l then none else counter
  | _ => counter

/-- The counters are those of `enforce_rate_limit`. -/
lemma incr_key (s : RateLimit.State) : s.incr.1.key = incrKey s.key := by
  cases s with
  | mk key lifetime calls admitted => cases key <;> rfl

lemma setExpire_key (s : RateLimit.State) (window : ℤ) :
    (s.setExpire window).key = expireKey window s.key := rfl

/-! ### One move -/

section Step

variable (s : Stores Key.Val) (move : Move)

lemma sessions_ext {a b : Sessions.Store} (hkeys : ∀ id, a.keys id = b.keys id)
    (hindex : ∀ userId, a.index userId = b.index userId) : a = b := by
  cases a
  cases b
  congr
  · exact funext hkeys
  · exact funext hindex

/-- A move that leaves the session keys and the sets alone. -/
lemma sessionsOf_of_ne {cs : List (Command Key.Val)} (hkeys : ∀ c ∈ cs, ∀ id, .session id ≠ c.key)
    (hindex : ∀ c ∈ cs, ∀ userId, .sessions userId ≠ c.key) :
    sessionsOf (final apply s cs) = sessionsOf s :=
  sessions_ext (fun id => final_apply_of_ne fun c hc => hkeys c hc id)
    (fun userId => congrArg (·.getD (∅ : Finset Uuid))
      (final_apply_of_ne fun c hc => hindex c hc userId))

/-- `DEL` of session keys, one after the other. -/
lemma final_delSessions (ids : List Uuid) (id : Uuid) :
    final apply s (Move.delSessions ids).commands (.session id) =
      if id ∈ ids then none else s (.session id) := by
  rw [Move.commands]
  induction ids generalizing s with
  | nil => rfl
  | cons id' ids ih =>
      rw [List.map_cons, final_cons, ih]
      by_cases h : id = id'
      · subst h
        simp
      · simp [apply, h]

/-- **The sessions see a move as their own store does.** -/
lemma sessionsOf_step :
    sessionsOf (final apply s move.commands) = onSessions (sessionsOf s) move := by
  cases move with
  | createSession id csrf user =>
      refine sessions_ext (fun id' => ?_) fun userId => ?_
      · by_cases h : id' = id
        · subst h
          simp [sessionsOf, onSessions, Move.commands, apply, Sessions.Store.create]
        · simp [sessionsOf, onSessions, Move.commands, apply, Sessions.Store.create, h]
      · by_cases h : userId = user.id
        · subst h
          simp [sessionsOf, onSessions, Move.commands, apply, Sessions.Store.create]
        · simp [sessionsOf, onSessions, Move.commands, apply, Sessions.Store.create, h]
  | delSessions ids =>
      refine sessions_ext (fun id' => ?_) fun userId => ?_
      · exact final_delSessions s ids id'
      · have hsame : final apply s (Move.delSessions ids).commands (.sessions userId) =
            s (.sessions userId) := by
          refine final_apply_of_ne fun c hc => ?_
          obtain ⟨id, -, rfl⟩ := List.mem_map.mp hc
          simp
        exact congrArg (fun v : Option (Finset Uuid) => v.getD ∅) hsame
  | expireSession id =>
      refine sessions_ext (fun id' => ?_) fun userId => ?_
      · by_cases h : id' = id
        · subst h
          simp [sessionsOf, onSessions, Move.commands, apply, Sessions.Store.expire]
        · simp [sessionsOf, onSessions, Move.commands, apply, Sessions.Store.expire, h]
      · simp [sessionsOf, onSessions, Move.commands, apply, Sessions.Store.expire]
  | hsetUser id user =>
      refine sessions_ext (fun id' => ?_) fun userId => ?_
      · by_cases h : id' = id
        · subst h
          simp only [sessionsOf, onSessions, Move.commands, final_cons, final_nil, apply_self,
            Sessions.Store.hsetUser, Function.update_self]
          cases s (.session id') <;> rfl
        · simp [sessionsOf, onSessions, Move.commands, apply, Sessions.Store.hsetUser, h]
      · simp [sessionsOf, onSessions, Move.commands, apply, Sessions.Store.hsetUser]
  | sremSession user id =>
      refine sessions_ext (fun id' => ?_) fun userId => ?_
      · simp [sessionsOf, onSessions, Move.commands, apply, Sessions.Store.srem]
      · by_cases h : userId = user
        · subst h
          simp only [sessionsOf, onSessions, Move.commands, final_cons, final_nil, apply_self,
            Sessions.Store.srem, Function.update_self]
          cases s (.sessions userId) <;> rfl
        · simp [sessionsOf, onSessions, Move.commands, apply, Sessions.Store.srem, h]
  | delUserSessions user =>
      refine sessions_ext (fun id' => ?_) fun userId => ?_
      · simp [sessionsOf, onSessions, Move.commands, apply, Sessions.Store.delIndex]
      · by_cases h : userId = user
        · subst h
          simp [sessionsOf, onSessions, Move.commands, apply, Sessions.Store.delIndex]
        · simp [sessionsOf, onSessions, Move.commands, apply, Sessions.Store.delIndex, h]
  | _ => exact sessionsOf_of_ne s (by simp [Move.commands]) (by simp [Move.commands])

lemma presence_ext {a b : Presence.Valkey} (husers : ∀ channel, a.users channel = b.users channel)
    (hkeys : ∀ channel userId, a.participants channel userId = b.participants channel userId) :
    a = b := by
  cases a
  cases b
  congr
  · exact funext husers
  · exact funext fun channel => funext (hkeys channel)

/-- A presence key after a command on one. -/
lemma apply_presence {channel channel' : String} {userId userId' : Uuid}
    (act : Option Participant → Option Participant) :
    apply s ⟨.presence channel userId, act⟩ (.presence channel' userId') =
      if (channel', userId') = (channel, userId) then act (s (.presence channel userId))
      else s (.presence channel' userId') := by
  split_ifs with hkey
  · obtain ⟨rfl, rfl⟩ := Prod.mk.inj hkey
    exact apply_self (T := Key.Val) (k := Key.presence channel' userId') act
  · refine apply_of_ne fun h => hkey ?_
    obtain ⟨rfl, rfl⟩ := Key.presence.inj h
    rfl

/-- The presence keys and the sets do not meet. -/
lemma apply_set_presence (channel : String) {channel' : String} {userId : Uuid}
    (act : Option (List Uuid) → Option (List Uuid)) :
    apply s ⟨.presenceSet channel, act⟩ (.presence channel' userId) =
      s (.presence channel' userId) := apply_of_ne (by simp)

lemma apply_presence_set {channel channel' : String} {userId : Uuid}
    (act : Option Participant → Option Participant) :
    apply s ⟨.presence channel userId, act⟩ (.presenceSet channel') = s (.presenceSet channel') :=
  apply_of_ne (by simp)

/-- A move that leaves presence alone. -/
lemma presenceOf_of_ne {cs : List (Command Key.Val)}
    (husers : ∀ c ∈ cs, ∀ channel, .presenceSet channel ≠ c.key)
    (hkeys : ∀ c ∈ cs, ∀ channel userId, .presence channel userId ≠ c.key) :
    presenceOf (final apply s cs) = presenceOf s :=
  presence_ext (fun channel => congrArg (fun v : Option (List Uuid) => v.getD [])
      (final_apply_of_ne fun c hc => husers c hc channel))
    (fun channel userId => final_apply_of_ne fun c hc => hkeys c hc channel userId)

/-- `SREM` from the set of a channel. -/
lemma users_srem (channel channel' : String) (ids : List Uuid) :
    (apply s ⟨.presenceSet channel, Option.map fun l : List Uuid => l.filter (· ∉ ids)⟩
      (.presenceSet channel')).getD ([] : List Uuid) =
        ((presenceOf s).srem channel ids).users channel' := by
  by_cases h : channel' = channel
  · subst h
    simp only [presenceOf, apply_self, Presence.Valkey.srem, Presence.Valkey.setUsers,
      Function.update_self]
    cases s (.presenceSet channel') <;> rfl
  · simp [presenceOf, apply, Presence.Valkey.srem, Presence.Valkey.setUsers, h]

/-- **So does presence.** -/
lemma presenceOf_step :
    presenceOf (final apply s move.commands) = onPresence (presenceOf s) move := by
  cases move with
  | refreshPresence channel participant =>
      refine presence_ext (fun channel' => ?_) fun channel' userId => ?_
      · simp only [presenceOf, Move.commands, final_cons, final_nil, apply_presence_set]
        by_cases h : channel' = channel
        · subst h
          simp [onPresence, Presence.Valkey.refreshPresence,
            Presence.Valkey.setParticipant, Presence.Valkey.setUsers]
        · simp [onPresence, apply, Presence.Valkey.refreshPresence,
            Presence.Valkey.setParticipant, Presence.Valkey.setUsers, h]
      · refine (apply_presence _ _).trans ?_
        rw [apply_set_presence]
        exact (Presence.Valkey.participants_setParticipant
          (v := (presenceOf s).setUsers channel _)).symm
  | removePresence channel userId =>
      refine presence_ext (fun channel' => ?_) fun channel' userId' => ?_
      · simp only [presenceOf, Move.commands, final_cons, final_nil, apply_presence_set]
        exact users_srem s channel channel' [userId]
      · refine (apply_presence _ _).trans ?_
        rw [apply_set_presence]
        exact (Presence.Valkey.participants_setParticipant
          (v := (presenceOf s).srem channel [userId])).symm
  | sremStale channel ids =>
      refine presence_ext (users_srem s channel · ids) fun channel' userId' => ?_
      exact apply_set_presence s channel (Option.map fun l : List Uuid => l.filter (· ∉ ids))
  | expirePresence channel userId =>
      refine presence_ext (fun channel' => ?_) fun channel' userId' => ?_
      · simp only [presenceOf, Move.commands, final_cons, final_nil, apply_presence_set]
        rfl
      · exact (apply_presence s _).trans
          (Presence.Valkey.participants_setParticipant (v := presenceOf s)).symm
  | _ => exact presenceOf_of_ne s (by simp [Move.commands]) (by simp [Move.commands])

/-- A move that leaves the hot history of a channel alone. -/
lemma historyOf_of_ne {channel : String} {cs : List (Command Key.Val)}
    (hmessages : ∀ c ∈ cs, .history channel ≠ c.key)
    (horder : ∀ c ∈ cs, .historyOrder channel ≠ c.key) :
    historyOf (final apply s cs) channel = historyOf s channel := by
  unfold historyOf
  rw [final_apply_of_ne hmessages, final_apply_of_ne horder]

/-- **So does the hot history of every channel.** -/
lemma historyOf_step (c : String) :
    historyOf (final apply s move.commands) c = onHistory c (historyOf s c) move := by
  cases move with
  | write channel record =>
      by_cases h : channel = c
      · subst h
        simp [historyOf, onHistory, Move.commands, apply, HotKeys.write, HotKeys.hset, HotKeys.zadd]
      · rw [onHistory, if_neg h]
        exact historyOf_of_ne s (by simp [Move.commands, Ne.symm h])
          (by simp [Move.commands, Ne.symm h])
  | zrem channel ids =>
      by_cases h : channel = c
      · subst h
        cases horder : s (.historyOrder channel) <;>
          simp [historyOf, onHistory, Move.commands, apply, HotKeys.zrem, horder]
        rfl
      · rw [onHistory, if_neg h]
        exact historyOf_of_ne s (by simp [Move.commands]) (by simp [Move.commands, Ne.symm h])
  | hdel channel ids =>
      by_cases h : channel = c
      · subst h
        cases hmessages : s (.history channel) <;>
          simp [historyOf, onHistory, Move.commands, apply, HotKeys.hdel, hmessages]
      · rw [onHistory, if_neg h]
        exact historyOf_of_ne s (by simp [Move.commands, Ne.symm h]) (by simp [Move.commands])
  | delHistory channel =>
      by_cases h : channel = c
      · subst h
        simp [historyOf, onHistory, Move.commands, apply]
      · rw [onHistory, if_neg h]
        exact historyOf_of_ne s (by simp [Move.commands, Ne.symm h]) (by simp [Move.commands])
  | delHistoryOrder channel =>
      by_cases h : channel = c
      · subst h
        simp [historyOf, onHistory, Move.commands, apply]
      · rw [onHistory, if_neg h]
        exact historyOf_of_ne s (by simp [Move.commands]) (by simp [Move.commands, Ne.symm h])
  | _ => exact historyOf_of_ne s (by simp [Move.commands]) (by simp [Move.commands])

/-- **So does every counter.** -/
lemma counterOf_step (l : Limit) :
    counterOf (final apply s move.commands) l = onCounter l (counterOf s l) move := by
  cases move with
  | incr limit =>
      by_cases h : limit = l
      · subst h
        simp [counterOf, onCounter, Move.commands]
      · simp [counterOf, onCounter, Move.commands, apply, h, Ne.symm h]
  | expireIn limit window =>
      by_cases h : limit = l
      · subst h
        simp [counterOf, onCounter, Move.commands]
      · simp [counterOf, onCounter, Move.commands, apply, h, Ne.symm h]
  | expireCounter limit =>
      by_cases h : limit = l
      · subst h
        simp [counterOf, onCounter, Move.commands]
      · simp [counterOf, onCounter, Move.commands, apply, h, Ne.symm h]
  | _ => exact final_apply_of_ne (by simp [Move.commands])

end Step

/-! ### Runs -/

/-- What the commands find at the names of the keys. -/
def found (flat : String → Option Value) : Stores Key.Val := fun k => (layout.read flat k).join

lemma found_eq {flat : String → Option Value} {s : Stores Key.Val} (h : layout.Represents flat s) :
    found flat = s := by
  funext k
  rw [found, h.read]
  rfl

/-- The moves of every store, one after the other. -/
lemma final_moves {σ : Type*} (view : Stores Key.Val → σ) {on : σ → Move → σ}
    (hstep : ∀ s move, view (final apply s move.commands) = on (view s) move)
    (s : Stores Key.Val) (moves : List Move) :
    view (final apply s (moves.flatMap Move.commands)) = final on (view s) moves := by
  induction moves generalizing s with
  | nil => rfl
  | cons move moves ih => rw [List.flatMap_cons, final_append, ih, hstep, final_cons]

/-- The commands of a run go through, and the keyspace then holds the stores they make. -/
lemma exists_run (moves : List Move) :
    ∃ flat, layout.run (fun _ => none) (moves.flatMap Move.commands) = some flat ∧
      (∀ k, layout.read flat k ≠ none) ∧
      found flat = final apply (fun _ => none) (moves.flatMap Move.commands) := by
  have hempty : layout.Represents (fun _ => none) (fun _ => none) := fun _ => rfl
  obtain ⟨flat, hrun, hflat⟩ := hempty.run (moves.flatMap Move.commands)
  refine ⟨flat, hrun, fun k => ?_, found_eq hflat⟩
  rw [hflat.read]
  exact Option.some_ne_none _

/-- **The stores share the keyspace without meeting**: whatever the commands of the program are,
and in any order, none of them finds a value of another type, and every store is what its own
commands alone make of it. -/
theorem stores_apart (moves : List Move) :
    ∃ flat, layout.run (fun _ => none) (moves.flatMap Move.commands) = some flat ∧
      (∀ k, layout.read flat k ≠ none) ∧
      sessionsOf (found flat) = final onSessions {} moves ∧
      presenceOf (found flat) = final onPresence {} moves ∧
      (∀ channel,
        historyOf (found flat) channel = final (onHistory channel) HotKeys.empty moves) ∧
      ∀ limit, counterOf (found flat) limit = final (onCounter limit) none moves := by
  obtain ⟨flat, hrun, hread, hfound⟩ := exists_run moves
  refine ⟨flat, hrun, hread, ?_⟩
  rw [hfound]
  refine ⟨?_, ?_, fun channel => ?_, fun limit => ?_⟩
  · exact final_moves sessionsOf sessionsOf_step _ moves
  · exact final_moves presenceOf presenceOf_step _ moves
  · exact final_moves (historyOf · channel) (historyOf_step · · channel) _ moves
  · exact final_moves (counterOf · limit) (counterOf_step · · limit) _ moves

end Vussa.Valkey
