import Vussa.Lib.Run
import Vussa.Lib.Upsert
import Vussa.Model.Channels
import Vussa.Model.Identifiers
import Vussa.Model.Names

/-!
Drafts (`api/drafts.rs`): one text for a user and a channel, with the name of the channel in the
path. The handlers are past `load_session` and `require_csrf`. The tables of channels, members and
bans do not change here, the clock does.

* `Drafts`, `getDraft`, `updateDraft`, `deleteDraft`: the table and the handlers;
* `DraftCall`, `Drafts.step`: the calls of all users;
* `lastBody`: what a user last wrote to a channel;
* `KeepsDraft`: after some calls, a read returns what the user last wrote;
* `PlainName`: a name that the checks accept as it is, which the names of direct channels are;
* `isText`: what a column of type `TEXT` can hold;
* `body?_final`: a run of calls, seen from one user and one channel;
* `stored_eq_lastBody`: what is stored is the last body, unless that is one no column can hold;
* `keepsDraft_iff`: **in which channels, and of which bodies, drafts are kept**.
-/

namespace Vussa

open Run Table

/-! ### The table -/

/-- A row of `channel_drafts`. -/
structure DraftRow where
  userId : Uuid
  channelId : Uuid
  body : String
  updatedAt : Millis
  deriving DecidableEq, Repr

/-- The primary key of `channel_drafts`. -/
def DraftRow.key (d : DraftRow) : Uuid × Uuid := (d.userId, d.channelId)

/-- The table `channel_drafts`. -/
structure Drafts where
  rows : List DraftRow
  unique : Unique DraftRow.key rows

/-- The empty table. -/
def Drafts.empty : Drafts := ⟨[], unique_nil⟩

namespace Drafts

/-- The draft of a user in a channel. -/
def body? (t : Drafts) (userId channelId : Uuid) : Option String :=
  (row? DraftRow.key t.rows (userId, channelId)).map DraftRow.body

/-- `INSERT INTO channel_drafts … ON CONFLICT (user_id,channel_id) DO UPDATE`. -/
def put (t : Drafts) (row : DraftRow) : Drafts :=
  ⟨upsert DraftRow.key t.rows row, t.unique.upsert row⟩

/-- `DELETE FROM channel_drafts`. -/
def remove (t : Drafts) (p : DraftRow → Bool) : Drafts :=
  ⟨t.rows.filter fun d => !p d, t.unique.filter _⟩

lemma body?_put (t : Drafts) (row : DraftRow) (userId channelId : Uuid) :
    (t.put row).body? userId channelId =
      if userId = row.userId ∧ channelId = row.channelId then some row.body
      else t.body? userId channelId := by
  rw [body?, put, row?_upsert]
  simp only [DraftRow.key, Prod.mk.injEq]
  split_ifs with hkey
  · rfl
  · rfl

/-- A deletion that spares the rows of a key. -/
lemma body?_remove_of_not (t : Drafts) {p : DraftRow → Bool} {userId channelId : Uuid}
    (h : ∀ d, d.key = (userId, channelId) → p d = false) :
    (t.remove p).body? userId channelId = t.body? userId channelId := by
  rw [body?, remove, row?_filter t.unique, body?]
  cases hrow : row? DraftRow.key t.rows (userId, channelId) with
  | none => rfl
  | some d =>
      have hkey := ((row?_eq_some t.unique).mp hrow).2
      rw [Option.filter_some, h d hkey]
      rfl

/-- A deletion that takes the rows of a key. -/
lemma body?_remove_of (t : Drafts) {p : DraftRow → Bool} {userId channelId : Uuid}
    (h : ∀ d, d.key = (userId, channelId) → p d) : (t.remove p).body? userId channelId = none := by
  rw [body?, remove, row?_filter t.unique]
  cases hrow : row? DraftRow.key t.rows (userId, channelId) with
  | none => rfl
  | some d =>
      have hkey := ((row?_eq_some t.unique).mp hrow).2
      rw [Option.filter_some, h d hkey]
      rfl

end Drafts

/-! ### The handlers -/

/-- `normalize_draft_body`. -/
def normalizeDraftBody (raw : String) : Except AppError String :=
  let body := trim raw
  if 2000 < body.utf8ByteSize then .error (.badRequest "draft must be at most 2000 characters")
  else .ok body

/-- A text without U+0000, which PostgreSQL refuses. -/
def isText (value : String) : Bool := value.toList.all fun c => c ≠ Char.ofNat 0

/-- A statement with the text as a parameter. -/
def bindText (value : String) : Except AppError Unit :=
  if isText value then .ok () else .error RepositoryError.database.toApp

/-- The name and the access, the beginning of every handler. -/
def draftChannel (U : Unicode) (db : Database) (now : Millis) (userId : Uuid) (path : String) :
    Except AppError String := do
  let channel ← normalizeChannelName U path
  ensureChannelAccess db now channel userId
  return channel

/-- `get_draft`: the name of the channel and the body. -/
def getDraft (U : Unicode) (db : Database) (t : Drafts) (now : Millis) (userId : Uuid)
    (path : String) : Except AppError (String × String) := do
  let channel ← draftChannel U db now userId path
  let row := t.rows.find? fun d => d.userId = userId ∧
    ∃ c ∈ db.channels, c.id = d.channelId ∧ c.name = channel ∧ c.deletedAt = none
  return (channel, (row.map DraftRow.body).getD "")

/-- `update_draft`: the table, and the name, the body and the time of the answer. -/
def updateDraft (U : Unicode) (db : Database) (t : Drafts) (now : Millis) (userId : Uuid)
    (path rawBody : String) : Except AppError (Drafts × (String × String × Millis)) := do
  let channel ← draftChannel U db now userId path
  let body ← normalizeDraftBody rawBody
  -- the INSERT, which fails on the body whatever the channel is
  bindText body
  let t' := match db.liveChannel? channel with
    | some c => t.put { userId := userId, channelId := c.id, body := body, updatedAt := now }
    | none => t
  return (t', (channel, body, now))

/-- `delete_draft`. -/
def deleteDraft (U : Unicode) (db : Database) (t : Drafts) (now : Millis) (userId : Uuid)
    (path : String) : Except AppError Drafts := do
  let channel ← draftChannel U db now userId path
  return t.remove fun d => d.userId = userId ∧
    ∃ c ∈ db.channels, c.id = d.channelId ∧ c.name = channel

/-! ### Calls -/

/-- What a call does. -/
inductive DraftOp where
  | get
  | update (body : String)
  | delete
  deriving DecidableEq, Repr

/-- A call of one of the handlers. -/
structure DraftCall where
  userId : Uuid
  now : Millis
  path : String
  op : DraftOp
  deriving DecidableEq, Repr

/-- The table after a call; a refused call leaves it. -/
def Drafts.step (U : Unicode) (db : Database) (t : Drafts) (call : DraftCall) : Drafts :=
  match call.op with
  | .get => t
  | .update body =>
      match updateDraft U db t call.now call.userId call.path body with
      | .ok (t', _) => t'
      | .error _ => t
  | .delete =>
      match deleteDraft U db t call.now call.userId call.path with
      | .ok t' => t'
      | .error _ => t

/-- The path is the name of the channel, or something that is normalized to it. -/
def NamesChannel (U : Unicode) (name path : String) : Prop :=
  path = name ∨ normalizeChannelName U path = .ok name

/-- A call of the user on the channel. -/
def DraftCall.IsOn (U : Unicode) (userId : Uuid) (name : String) (call : DraftCall) : Prop :=
  call.userId = userId ∧ NamesChannel U name call.path

instance (U : Unicode) (userId : Uuid) (name : String) : DecidablePred (DraftCall.IsOn U userId name) :=
  fun _ => inferInstanceAs (Decidable (_ ∧ (_ ∨ _)))

/-- What a call of the user on the channel leaves as the last body: the trimmed body of an update,
nothing after a deletion. -/
def DraftOp.leaves (body : Option String) : DraftOp → Option String
  | .get => body
  | .update raw => some (trim raw)
  | .delete => none

/-- What the call leaves in the row: an update whose body no column can hold fails. -/
def DraftOp.stores (body : Option String) : DraftOp → Option String
  | .get => body
  | .update raw => if isText (trim raw) then some (trim raw) else body
  | .delete => none

/-- What a user last wrote to a channel and did not delete. -/
def lastBody (U : Unicode) (userId : Uuid) (name : String) (calls : List DraftCall) :
    Option String :=
  calls.foldl (fun body call => if call.IsOn U userId name then call.op.leaves body else body) none

/-- The user may access the channel at the time of the call, and an update is not too long. -/
def DraftCall.Proper (db : Database) (name : String) (call : DraftCall) : Prop :=
  ChannelAccess db call.now name call.userId ∧
    ∀ body, call.op = .update body → (trim body).utf8ByteSize ≤ 2000

/-- After the calls of all users, every read of the draft returns what the user last wrote, or the
empty text. -/
def KeepsDraft (U : Unicode) (db : Database) (userId : Uuid) (c : ChannelRow) (t : Drafts)
    (calls : List DraftCall) : Prop :=
  ∀ now path, NamesChannel U c.name path → ChannelAccess db now c.name userId →
    getDraft U db (final (Drafts.step U db) t calls) now userId path =
      .ok (c.name, (lastBody U userId c.name calls).getD "")

/-! ### Names -/

/-- A name that `normalize_channel_name` leaves as it is. -/
structure PlainName (D : CharacterData) (name : String) : Prop where
  notMain : name ≠ mainChannel
  nonempty : name ≠ ""
  bytes : name.utf8ByteSize ≤ 40
  chars : ∀ c ∈ name.toList, D.unicode.isNameChar c
  folded : D.lowercase name = name

lemma normalized_iff_plainName {D : CharacterData} {name : String} :
    normalizeChannelName D.unicode name = .ok name ↔ PlainName D name := by
  rw [normalizeChannelName_eq_ok_iff, CharacterData.unicode_toLowercase]
  constructor
  · rintro ⟨hne, hbytes, hmain, hchars, hfolded⟩
    have htrim : trim name = name := by
      have hlower := D.trim_lowercase hchars
      rwa [hfolded] at hlower
    rw [htrim] at hne hbytes hmain hchars hfolded
    exact ⟨hmain, hne, hbytes, hchars, hfolded⟩
  · intro h
    have htrim : trim name = name :=
      trimMatches_eq_self fun c hc => D.isWhitespace_nameChar (h.chars c hc)
    rw [htrim]
    exact ⟨h.nonempty, h.bytes, h.notMain, h.chars, h.folded⟩

/-- A property of the sixteen digits and of the four other characters is one of all characters in
the name of a direct channel. -/
lemma forall_mem_directName {p : Char → Prop} (hdigits : ∀ d < 16, p (Nat.digitChar d))
    (hrest : p 'd' ∧ p 'm' ∧ p '_' ∧ p '-') (id : Uuid) : ∀ c ∈ (directName id).toList, p c := by
  obtain ⟨hd, hm, hunderscore, hdash⟩ := hrest
  intro c hc
  rw [directName, String.toList_append, List.mem_append] at hc
  rcases hc with hc | hc
  · have hprefix : c = 'd' ∨ c = 'm' ∨ c = '_' := by simpa using hc
    rcases hprefix with rfl | rfl | rfl
    · exact hd
    · exact hm
    · exact hunderscore
  · rcases mem_toText hc with ⟨d, hlt, rfl⟩ | rfl
    · exact hdigits d hlt
    · exact hdash

/-- The names of direct channels: 39 characters, all in lower case. -/
theorem plainName_direct (D : CharacterData) (id : Uuid) : PlainName D (directName id) := by
  have hlen : (directName id).toList.length = 39 := by
    rw [directName, String.toList_append, List.length_append, toText_length]
    rfl
  have hascii : ∀ c ∈ (directName id).toList, c.toNat < 128 :=
    forall_mem_directName (by decide) (by decide) id
  have hsize : ∀ c ∈ (directName id).toList, c.utf8Size = 1 :=
    forall_mem_directName (by decide) (by decide) id
  refine ⟨fun h => ?_, fun h => ?_, ?_, fun c hc => ?_, ?_⟩
  · rw [h] at hlen
    exact absurd hlen (by decide)
  · rw [h] at hlen
    exact absurd hlen (by decide)
  · rw [← String.ofList_toList (s := directName id), CharacterData.utf8ByteSize_ofList,
      List.map_congr_left hsize, List.map_const', List.sum_replicate, hlen]
    decide
  · have hcases : isAsciiAlphanumeric c ∨ c = '-' ∨ c = '_' :=
      forall_mem_directName (p := fun c => isAsciiAlphanumeric c ∨ c = '-' ∨ c = '_') (by decide)
        (by decide) id c hc
    rw [D.isNameChar_iff, D.ascii_alphanumeric c (hascii c hc)]
    exact hcases
  · refine D.lowercase_eq_self fun c hc => ?_
    rw [D.ascii_lower c (hascii c hc),
      forall_mem_directName (p := fun c => c.toLower = c) (by decide) (by decide) id c hc]

/-! ### Single calls -/

section Calls

variable {U : Unicode} {db : Database} {t : Drafts} {now : Millis} {userId : Uuid}
  {path name : String} {c : ChannelRow}

lemma draftChannel_eq_ok_iff : draftChannel U db now userId path = .ok name ↔
    normalizeChannelName U path = .ok name ∧ ChannelAccess db now name userId := by
  constructor
  · intro h
    obtain ⟨name', hname, h⟩ := Effect.bind_eq_ok h
    obtain ⟨_, haccess, h⟩ := Effect.bind_eq_ok h
    obtain rfl := Except.ok.inj h
    exact ⟨hname, ensureChannelAccess_eq_ok.mp haccess⟩
  · rintro ⟨hname, haccess⟩
    rw [draftChannel, hname]
    change (do ensureChannelAccess db now name userId; return name) = Except.ok name
    rw [ensureChannelAccess_eq_ok.mpr haccess]
    rfl

/-- The row of a live channel. -/
lemma liveChannel?_of_mem (hwf : db.WellFormed) (hc : c ∈ db.channels) (hlive : c.deletedAt = none) :
    db.liveChannel? c.name = some c := by
  cases hfind : db.liveChannel? c.name with
  | none => exact absurd (decide_eq_true ⟨rfl, hlive⟩) (List.find?_eq_none.mp hfind c hc)
  | some c' =>
      obtain ⟨hc', hname, -⟩ := Database.liveChannel?_some hfind
      rw [List.inj_on_of_nodup_map hwf.channelName hc' hc hname]

/-- What a read of the channel returns. -/
lemma getDraft_eq (hwf : db.WellFormed) (hc : c ∈ db.channels) (hlive : c.deletedAt = none)
    (h : draftChannel U db now userId path = .ok c.name) :
    getDraft U db t now userId path = .ok (c.name, (t.body? userId c.id).getD "") := by
  have hjoin : ∀ d : DraftRow, (∃ c' ∈ db.channels, c'.id = d.channelId ∧ c'.name = c.name ∧
      c'.deletedAt = none) ↔ d.channelId = c.id := by
    intro d
    constructor
    · rintro ⟨c', hc', hid, hname, -⟩
      rw [← hid, List.inj_on_of_nodup_map hwf.channelName hc' hc hname]
    · intro hid
      exact ⟨c, hc, hid.symm, rfl, hlive⟩
  simp only [getDraft, h, bind, Except.bind, pure, Except.pure, Drafts.body?, row?, DraftRow.key,
    Prod.mk.injEq, hjoin]

/-- An update of the channel writes the trimmed body, if a column can hold it. -/
lemma updateDraft_eq {raw : String} (hwf : db.WellFormed) (hc : c ∈ db.channels)
    (hlive : c.deletedAt = none) (h : draftChannel U db now userId path = .ok c.name)
    (hbody : (trim raw).utf8ByteSize ≤ 2000) :
    updateDraft U db t now userId path raw = if isText (trim raw) then .ok
      (t.put { userId := userId, channelId := c.id, body := trim raw, updatedAt := now },
        (c.name, trim raw, now)) else .error RepositoryError.database.toApp := by
  simp only [updateDraft, h, bind, Except.bind, pure, Except.pure, normalizeDraftBody,
    if_neg (not_lt.mpr hbody), liveChannel?_of_mem hwf hc hlive, bindText]
  split_ifs <;> rfl

/-- An update that is not refused writes at most the draft of the named channel. -/
lemma updateDraft_ok {raw : String} {t' : Drafts} {answer : String × String × Millis}
    (h : updateDraft U db t now userId path raw = .ok (t', answer)) :
    t' = t ∨ ∃ c ∈ db.channels, normalizeChannelName U path = .ok c.name ∧
      t' = t.put { userId := userId, channelId := c.id, body := trim raw, updatedAt := now } := by
  obtain ⟨name, hname, h⟩ := Effect.bind_eq_ok h
  obtain ⟨body, hbody, h⟩ := Effect.bind_eq_ok h
  obtain rfl : trim raw = body := by
    rw [normalizeDraftBody] at hbody
    split_ifs at hbody
    exact Except.ok.inj hbody
  obtain ⟨_, -, h⟩ := Effect.bind_eq_ok h
  obtain ⟨rfl, -⟩ := Prod.mk.inj (Except.ok.inj h)
  cases hrow : db.liveChannel? name with
  | none => exact .inl rfl
  | some c =>
      obtain ⟨hc, rfl, -⟩ := Database.liveChannel?_some hrow
      exact .inr ⟨c, hc, (draftChannel_eq_ok_iff.mp hname).1, rfl⟩

/-- A deletion in the channel. -/
lemma deleteDraft_eq (h : draftChannel U db now userId path = .ok name) :
    deleteDraft U db t now userId path = .ok (t.remove fun d => d.userId = userId ∧
      ∃ c ∈ db.channels, c.id = d.channelId ∧ c.name = name) := by
  rw [deleteDraft, h]
  rfl

end Calls

/-! ### Runs -/

section Runs

variable {U : Unicode} {db : Database} {userId : Uuid} {c : ChannelRow}

lemma NamesChannel.normalized {path : String} (hname : normalizeChannelName U c.name = .ok c.name)
    (h : NamesChannel U c.name path) : normalizeChannelName U path = .ok c.name := by
  rcases h with rfl | h
  · exact hname
  · exact h

/-- A call of the user on the channel, seen from the draft of the user. -/
lemma body?_step_of_isOn (hwf : db.WellFormed) (hc : c ∈ db.channels) (hlive : c.deletedAt = none)
    (hname : normalizeChannelName U c.name = .ok c.name) (t : Drafts) {call : DraftCall}
    (hon : call.IsOn U userId c.name) (hproper : call.Proper db c.name) :
    (t.step U db call).body? userId c.id = call.op.stores (t.body? userId c.id) := by
  obtain ⟨rfl, hpath⟩ := hon
  have hchannel : draftChannel U db call.now call.userId call.path = .ok c.name :=
    draftChannel_eq_ok_iff.mpr ⟨hpath.normalized hname, hproper.1⟩
  rw [Drafts.step]
  cases hop : call.op with
  | get => rfl
  | update raw =>
      simp only [updateDraft_eq hwf hc hlive hchannel (hproper.2 raw hop), DraftOp.stores]
      cases isText (trim raw) with
      | false => rfl
      | true => exact (t.body?_put _ _ _).trans (if_pos ⟨rfl, rfl⟩)
  | delete =>
      simp only [deleteDraft_eq hchannel]
      refine t.body?_remove_of fun d hkey => ?_
      obtain ⟨huser, hid⟩ := Prod.mk.inj hkey
      exact decide_eq_true ⟨huser, c, hc, hid.symm, rfl⟩

/-- Any other call leaves the draft: its row has another user or another channel. -/
lemma body?_step_of_not_isOn (hwf : db.WellFormed) (hc : c ∈ db.channels) (t : Drafts)
    {call : DraftCall} (hoff : ¬ call.IsOn U userId c.name) :
    (t.step U db call).body? userId c.id = t.body? userId c.id := by
  -- a row of the user in this channel is not one the call names
  have hother : ∀ c' ∈ db.channels, normalizeChannelName U call.path = .ok c'.name →
      ¬ (userId = call.userId ∧ c.id = c'.id) := by
    rintro c' hc' hpath ⟨huser, hid⟩
    rw [← List.inj_on_of_nodup_map hwf.channelId hc hc' hid] at hpath
    exact hoff ⟨huser.symm, .inr hpath⟩
  rw [Drafts.step]
  cases call.op with
  | get => rfl
  | update raw =>
      cases hupdate : updateDraft U db t call.now call.userId call.path raw with
      | error e => simp only [hupdate]
      | ok result =>
          obtain ⟨t', answer⟩ := result
          simp only [hupdate]
          rcases updateDraft_ok hupdate with hsame | ⟨c', hc', hpath, hput⟩
          · rw [hsame]
          · rw [hput, Drafts.body?_put, if_neg (hother c' hc' hpath)]
  | delete =>
      cases hchannel : draftChannel U db call.now call.userId call.path with
      | error e =>
          simp only [deleteDraft, hchannel]
          rfl
      | ok name =>
          simp only [deleteDraft_eq hchannel]
          refine t.body?_remove_of_not fun d hkey => decide_eq_false ?_
          obtain ⟨huser, hid⟩ := Prod.mk.inj hkey
          rintro ⟨huser', c', hc', hid', rfl⟩
          exact hother c' hc' (draftChannel_eq_ok_iff.mp hchannel).1
            ⟨huser.symm.trans huser', hid.symm.trans hid'.symm⟩

/-- **A run of calls**, seen from the draft of one user in one channel. -/
lemma body?_final (hwf : db.WellFormed) (hc : c ∈ db.channels) (hlive : c.deletedAt = none)
    (hname : normalizeChannelName U c.name = .ok c.name) {calls : List DraftCall} {t : Drafts}
    (hproper : ∀ call ∈ calls, call.IsOn U userId c.name → call.Proper db c.name) :
    (final (Drafts.step U db) t calls).body? userId c.id = calls.foldl
      (fun body call => if call.IsOn U userId c.name then call.op.stores body else body)
      (t.body? userId c.id) := by
  induction calls generalizing t with
  | nil => rfl
  | cons call rest ih =>
      have hstep : (t.step U db call).body? userId c.id =
          if call.IsOn U userId c.name then call.op.stores (t.body? userId c.id)
          else t.body? userId c.id := by
        split_ifs with hon
        · exact body?_step_of_isOn hwf hc hlive hname t hon (hproper call List.mem_cons_self hon)
        · exact body?_step_of_not_isOn hwf hc t hon
      rw [final_cons, ih fun call' h => hproper call' (List.mem_cons_of_mem _ h), hstep,
        List.foldl_cons]

/-- A body that a column can hold, or none. -/
def Storable (body : Option String) : Prop := ∀ text ∈ body, isText text

instance : DecidablePred Storable := fun _ => inferInstanceAs (Decidable (∀ text ∈ _, _))

/-- **What is stored and what was last written** are the same if a column can hold the latter. -/
lemma stored_eq_lastBody (p : DraftCall → Prop) [DecidablePred p] (calls : List DraftCall)
    {stored last : Option String} (hstored : Storable stored) (heq : Storable last → stored = last) :
    Storable (calls.foldl (fun body call => if p call then call.op.stores body else body) stored) ∧
      (Storable (calls.foldl (fun body call => if p call then call.op.leaves body else body) last) →
        calls.foldl (fun body call => if p call then call.op.stores body else body) stored =
          calls.foldl (fun body call => if p call then call.op.leaves body else body) last) := by
  induction calls generalizing stored last with
  | nil => exact ⟨hstored, heq⟩
  | cons call rest ih =>
      refine ih ?_ ?_
      · dsimp only
        split_ifs
        · cases call.op with
          | get => exact hstored
          | update raw =>
              rw [DraftOp.stores]
              split_ifs with htext
              · rintro text ⟨⟩
                exact htext
              · exact hstored
          | delete => rintro text ⟨⟩
        · exact hstored
      · dsimp only
        split_ifs
        · cases call.op with
          | get => exact heq
          | update raw =>
              intro hlast
              exact if_pos (hlast _ rfl)
          | delete => exact fun _ => rfl
        · exact heq

/-- What a column holds is read as the last body only if that is one a column can hold. -/
lemma storable_of_getD_eq {stored last : Option String} (hstored : Storable stored)
    (h : stored.getD "" = last.getD "") : Storable last := by
  rintro text ⟨⟩
  rw [Option.getD_some] at h
  rw [← h]
  cases stored with
  | none => decide
  | some text => exact hstored text rfl

end Runs

/-- **Where drafts are kept**: for a user with access to a live channel, whatever calls there were,
every read returns what the user last wrote exactly if the name of the channel is one that
`normalize_channel_name` accepts unchanged, which it never does with the name of the main channel,
and that body has no U+0000, with which the write fails. -/
theorem keepsDraft_iff (D : CharacterData) {db : Database} (hwf : db.WellFormed) {c : ChannelRow}
    (hc : c ∈ db.channels) (hlive : c.deletedAt = none) {userId : Uuid} {now : Millis}
    (haccess : ChannelAccess db now c.name userId) {t : Drafts} (hnone : t.body? userId c.id = none)
    {calls : List DraftCall}
    (hproper : ∀ call ∈ calls, call.IsOn D.unicode userId c.name → call.Proper db c.name) :
    KeepsDraft D.unicode db userId c t calls ↔
      PlainName D c.name ∧ Storable (lastBody D.unicode userId c.name calls) := by
  rw [← normalized_iff_plainName]
  have hstart : Storable (t.body? userId c.id) := by
    rw [hnone]
    rintro text ⟨⟩
  obtain ⟨hstored, heq⟩ := stored_eq_lastBody (DraftCall.IsOn D.unicode userId c.name) calls hstart
    fun _ => hnone
  constructor
  · intro h
    have hread := h now c.name (.inl rfl) haccess
    obtain ⟨name, hchannel, hrest⟩ := Effect.bind_eq_ok hread
    obtain ⟨rfl, -⟩ := Prod.mk.inj (Except.ok.inj hrest)
    have hname := (draftChannel_eq_ok_iff.mp hchannel).1
    rw [getDraft_eq hwf hc hlive hchannel, body?_final hwf hc hlive hname hproper] at hread
    exact ⟨hname, storable_of_getD_eq hstored (Prod.mk.inj (Except.ok.inj hread)).2⟩
  · rintro ⟨hname, hlast⟩ now path hpath haccess
    have hchannel := draftChannel_eq_ok_iff.mpr ⟨hpath.normalized hname, haccess⟩
    rw [getDraft_eq hwf hc hlive hchannel, body?_final hwf hc hlive hname hproper, heq hlast,
      lastBody]

/-- Two public channels. -/
def draftTables : Database :=
  { channels := [{ id := 1, name := mainChannel, createdAt := 0 },
      { id := 2, name := "random", createdAt := 0 }] }

lemma draftTables_wellFormed : draftTables.WellFormed := ⟨by decide, by decide, by decide⟩

/-- Two drafts, of which the second fails: its body has U+0000. -/
def refusedDraft : List DraftCall :=
  [{ userId := 7, now := 0, path := "random", op := .update " soon " },
    { userId := 7, now := 1, path := "random", op := .update (String.ofList [Char.ofNat 0]) }]

theorem keepsDraft_random :
    KeepsDraft unicode15Plain.unicode draftTables 7 { id := 2, name := "random", createdAt := 0 }
        Drafts.empty (refusedDraft.take 1) ∧
      ¬ KeepsDraft unicode15Plain.unicode draftTables 7
        { id := 2, name := "random", createdAt := 0 } Drafts.empty refusedDraft := by
  have haccess : ChannelAccess draftTables 0 "random" 7 := by decide
  have hproper : ∀ call ∈ refusedDraft, call.IsOn unicode15Plain.unicode 7 "random" →
      call.Proper draftTables "random" := by
    simp only [refusedDraft, List.forall_mem_cons]
    exact ⟨fun _ => ⟨by decide, by rintro body ⟨⟩; decide⟩,
      fun _ => ⟨by decide, by rintro body ⟨⟩; decide⟩, by simp⟩
  constructor
  · exact (keepsDraft_iff unicode15Plain draftTables_wellFormed (by decide) rfl haccess rfl
      fun call hcall => hproper call (List.mem_of_mem_take hcall)).mpr
        ⟨⟨by decide, by decide, by decide, List.all_eq_true.mp (by decide +kernel),
          by decide +kernel⟩, by decide +kernel⟩
  · intro h
    have hlast := ((keepsDraft_iff unicode15Plain draftTables_wellFormed (by decide) rfl haccess rfl
      hproper).mp h).2
    exact absurd hlast (by decide +kernel)

/-- A user of the main channel cannot read a draft in it. -/
theorem not_keepsDraft_main :
    ChannelAccess draftTables 0 mainChannel 7 ∧
    (∀ t, getDraft unicode15Plain.unicode draftTables t 0 7 mainChannel =
      .error (.badRequest "channel name may contain only letters, numbers, '-' and '_'")) ∧
    ∀ t calls, ¬ KeepsDraft unicode15Plain.unicode draftTables 7
      { id := 1, name := mainChannel, createdAt := 0 } t calls := by
  have hrefused : ∀ t, getDraft unicode15Plain.unicode draftTables t 0 7 mainChannel =
      .error (.badRequest "channel name may contain only letters, numbers, '-' and '_'") := by
    intro t
    have hname : normalizeChannelName unicode15Plain.unicode mainChannel =
        .error (.badRequest "channel name may contain only letters, numbers, '-' and '_'") := by
      decide +kernel
    rw [getDraft, draftChannel, hname]
    rfl
  have haccess : ChannelAccess draftTables 0 mainChannel 7 := by decide
  refine ⟨haccess, hrefused, fun t calls h => ?_⟩
  have hread := h 0 mainChannel (.inl rfl) haccess
  rw [hrefused] at hread
  cases hread

end Vussa
