import Vussa.Files.Names
import Vussa.Lib.Simulation
import Vussa.Model.Wire
import Vussa.Sessions.Index

/-!
The sessions as texts: the cookie and the token of a request, and the hashes in Valkey. The user of
a session is JSON, its key and its cookie hold the text of its identifier (`auth.rs`). Only the
first `Cookie` and the first token header of a request are looked at, and only if they are visible
ASCII.

A browser sends its cookies in one header. The sets of the users, which hold identifiers as texts
too, are left as they are in `Store`.

* `Headers`, `cookieValue`, `authCookie`, `constantTimeCompare`: what is read of a request, and
  what a login answers;
* `Texts`, `Texts.loadSession`, `requireCsrfHeader`: the hashes, `load_session` and `require_csrf`;
* `cookieValue_cookieHeader`, `storedCookie_authCookie`: a cookie is found among the others, and
  the one of a login is kept;
* `loadSession_along`: **after every run a request is answered by the session that its cookie and
  token name**.
-/

namespace Vussa.Sessions

open Run
open Names (trim_toList)

/-! ### Requests -/

/-- The values of the `Cookie` and `x-csrf-token` headers, in order. -/
structure Headers where
  cookie : List String
  csrf : List String
  deriving DecidableEq, Repr

/-- `HeaderValue::to_str`. -/
def headerText (value : String) : Option String :=
  if value.toList.all fun c => c = '\t' ∨ (32 ≤ c.toNat ∧ c.toNat < 127) then some value else none

/-- `str::split_once`. -/
def splitOnce (sep : Char) (text : List Char) : Option (List Char × List Char) :=
  if sep ∈ text then some (text.takeWhile (· ≠ sep), (text.dropWhile (· ≠ sep)).tail) else none

/-- The closure of `cookie_value`. -/
def cookiePart (name : String) (part : List Char) : Option String :=
  (splitOnce '=' (trim (String.ofList part)).toList).bind fun (key, value) =>
    if String.ofList key = name then some (String.ofList value) else none

/-- `cookie_value`. -/
def cookieValue (headers : Headers) (name : String) : Option String :=
  (headers.cookie.head?.bind headerText).bind fun text =>
    (text.toList.splitOn ';').findSome? (cookiePart name)

/-- `SESSION_TTL_SECONDS`. -/
def sessionTtlSeconds : ℕ := 60 * 60 * 24 * 14

/-- `auth_cookie`; `secure` is whether `COOKIE_SECURE` is `true`. -/
def authCookie (secure : Bool) (id : Uuid) : String :=
  "vussa_session=" ++ id.toText ++ "; Path=/; HttpOnly" ++ (if secure then "; Secure" else "") ++
    "; SameSite=Lax; Max-Age=" ++ toString sessionTtlSeconds

/-- `constant_time_compare`. -/
def constantTimeCompare (a b : String) : Bool :=
  let aBytes := a.toByteArray.data.toList
  let bBytes := b.toByteArray.data.toList
  if aBytes.length ≠ bBytes.length then false
  else (aBytes.zip bBytes).foldl (fun result p => result ||| (p.1 ^^^ p.2)) 0 == 0

/-- `require_csrf`. -/
def requireCsrfHeader (headers : Headers) (session : Session) : Except AppError Unit :=
  match headers.csrf.head?.bind headerText with
  | none => .error (.badRequest "invalid csrf token")
  | some header =>
      if constantTimeCompare header session.csrf then .ok ⟨⟩
      else .error (.badRequest "invalid csrf token")

/-! ### Hashes -/

/-- The two fields of a hash. -/
structure HashTexts where
  csrf : Option String := none
  user : Option String := none
  deriving DecidableEq, Repr

/-- The hashes of Valkey by their keys. -/
abbrev Texts := String → Option HashTexts

/-- `session_key`. -/
def sessionKey (id : Uuid) : String := "vussa:session:" ++ id.toText

/-- `serde_json::to_string` on a user. -/
def userText (user : AuthUser) : String := AuthUser.codec.text user

namespace Texts

variable (w : Texts)

/-- `HSET` of both fields. -/
def create (id : Uuid) (csrf : String) (user : AuthUser) : Texts :=
  Function.update w (sessionKey id) (some { csrf := some csrf, user := some (userText user) })

/-- `DEL`. -/
def del (ids : List Uuid) : Texts := fun key => if key ∈ ids.map sessionKey then none else w key

/-- `HSET` of the field `user`. -/
def hsetUser (id : Uuid) (user : AuthUser) : Texts :=
  Function.update w (sessionKey id)
    (some { (w (sessionKey id)).getD {} with user := some (userText user) })

/-- What a command writes into the hashes. -/
def exec : Task → Texts
  | .remove _ id _ | .clear _ _ id _ => w.del [id]
  | .clearAll _ read => w.del read
  | .rename id user => w.hsetUser id user
  | _ => w

/-- `load_session`. -/
def loadSession (headers : Headers) : Except AppError Session :=
  match (cookieValue headers "vussa_session").bind Uuid.parseStr with
  | none => .error (.unauthorized "authentication required")
  | some id =>
      match (w (sessionKey id)).bind HashTexts.csrf, (w (sessionKey id)).bind HashTexts.user with
      | some csrf, some text =>
          match AuthUser.codec.ofText jsonLimit text with
          | some user => .ok { id := id, csrf := csrf, user := user }
          | none => .error (.unauthorized "session expired")
      | _, _ => .error (.unauthorized "session expired")

end Texts

/-- The move on the hashes, beside `State.step`. -/
def State.write (s : State) (w : Texts) : Act → Texts
  | .createSession id csrf user => if id ∈ s.known then w else w.create id csrf user
  | .lapse id => if (s.store.keys id).any SessionHash.expires then w.del [id] else w
  | .run k _ =>
      match s.tasks k with
      | some task => w.exec task
      | none => w
  | .arrive _ _ _ _ | .invalidate _ _ | .abort _ => w

/-- One move of the sessions with their texts. -/
def stepTexts (U : Unicode) (p : State × Texts) (a : Act) : State × Texts :=
  (p.1.step U a, p.1.write p.2 a)

/-- The session of an identifier, if both of its fields are there. -/
def Store.session (s : Store) (id : Uuid) : Except AppError Session :=
  match s.keys id with
  | some { csrf := some csrf, user, expires := _ } => .ok { id := id, csrf := csrf, user := user }
  | _ => .error (.unauthorized "session expired")

/-- `load_session` on records, with the cookie it finds. -/
def Store.loadSession (s : Store) (cookie : Option String) : Except AppError Session :=
  match cookie.bind Uuid.parseStr with
  | none => .error (.unauthorized "authentication required")
  | some id => s.session id

/-! ### Cookies -/

/-- A cookie of a browser. -/
structure Cookie where
  name : String
  value : String
  deriving DecidableEq, Repr

/-- The text of a cookie. -/
def Cookie.pair (c : Cookie) : List Char := c.name.toList ++ '=' :: c.value.toList

/-- A text that a browser can have as a cookie. -/
structure Cookie.WellFormed (c : Cookie) : Prop where
  name : '=' ∉ c.name.toList
  separator : ';' ∉ c.pair
  trimmed : trim (String.ofList c.pair) = String.ofList c.pair
  visible : ∀ ch ∈ c.pair, 32 ≤ ch.toNat ∧ ch.toNat < 127

/-- The header of a browser, if it has cookies. -/
def cookieHeader (jar : List Cookie) : List String :=
  match jar with
  | [] => []
  | c :: cs => [String.ofList ([';'].intercalate (c.pair :: cs.map fun c => ' ' :: c.pair))]

/-! ### The cookie of a request -/

lemma splitOnce_append {sep : Char} {key value : List Char} (h : sep ∉ key) :
    splitOnce sep (key ++ sep :: value) = some (key, value) := by
  have hkey : ∀ c ∈ key, decide (c ≠ sep) = true := fun c hc =>
    decide_eq_true fun heq => h (heq ▸ hc)
  rw [splitOnce, if_pos (by simp), List.takeWhile_append_of_pos hkey,
    List.dropWhile_append_of_pos hkey]
  simp

/-- The blank after the separator is trimmed. -/
lemma trim_blank (text : List Char) :
    trim (String.ofList (' ' :: text)) = trim (String.ofList text) := by
  apply String.toList_inj.mp
  rw [trim_toList, trim_toList, String.toList_ofList, String.toList_ofList,
    List.dropWhile_cons_of_pos (by decide)]

lemma cookiePart_of_trim {c : Cookie} (h : c.WellFormed) (name : String) {part : List Char}
    (hpart : trim (String.ofList part) = String.ofList c.pair) :
    cookiePart name part = if c.name = name then some c.value else none := by
  rw [cookiePart, hpart, String.toList_ofList, Cookie.pair, splitOnce_append h.name,
    Option.bind_some]
  simp only [String.ofList_toList]

/-- The value of the first cookie of a name. -/
def valueOf (jar : List Cookie) (name : String) : Option String :=
  (jar.find? fun c => c.name = name).map Cookie.value

lemma valueOf_cons (c : Cookie) (cs : List Cookie) (name : String) :
    valueOf (c :: cs) name = if c.name = name then some c.value else valueOf cs name := by
  rw [valueOf, List.find?_cons]
  by_cases hc : c.name = name
  · simp [hc]
  · simp [hc, valueOf]

lemma find_cookie {jar : List Cookie} {name : String} {f : Cookie → List Char}
    (h : ∀ c ∈ jar, cookiePart name (f c) = if c.name = name then some c.value else none) :
    (jar.map f).findSome? (cookiePart name) = valueOf jar name := by
  induction jar with
  | nil => rfl
  | cons c cs ih =>
      have hrest := ih fun d hd => h d (List.mem_cons_of_mem c hd)
      rw [List.map_cons, List.findSome?_cons, h c List.mem_cons_self, valueOf_cons]
      by_cases hc : c.name = name
      · rw [if_pos hc, if_pos hc]
      · rw [if_neg hc, if_neg hc]
        exact hrest

lemma mem_intercalate {sep ch : Char} {parts : List (List Char)}
    (h : ch ∈ [sep].intercalate parts) : ch = sep ∨ ∃ part ∈ parts, ch ∈ part := by
  induction parts with
  | nil => exact absurd h List.not_mem_nil
  | cons part parts ih =>
      cases parts with
      | nil =>
          rw [List.intercalate_singleton] at h
          exact .inr ⟨part, List.mem_cons_self, h⟩
      | cons next parts =>
          rw [List.intercalate_cons_cons, List.append_assoc, List.mem_append, List.mem_append,
            List.mem_singleton] at h
          rcases h with h | h | h
          · exact .inr ⟨part, List.mem_cons_self, h⟩
          · exact .inl h
          · rcases ih h with heq | ⟨other, hother, hmem⟩
            · exact .inl heq
            · exact .inr ⟨other, List.mem_cons_of_mem part hother, hmem⟩

/-- A cookie is found among the others: the first one of its name. -/
lemma cookieValue_cookieHeader {jar : List Cookie} (hjar : ∀ c ∈ jar, c.WellFormed)
    (csrf : List String) (name : String) :
    cookieValue ⟨cookieHeader jar, csrf⟩ name = valueOf jar name := by
  cases jar with
  | nil => rfl
  | cons c cs =>
      obtain ⟨hc, hcs⟩ := List.forall_mem_cons.mp hjar
      set parts := c.pair :: cs.map fun c => ' ' :: c.pair with hparts
      have hsep : ∀ part ∈ parts, ';' ∉ part := by
        intro part hpart
        rcases List.mem_cons.mp hpart with rfl | hpart
        · exact hc.separator
        · obtain ⟨d, hd, rfl⟩ := List.mem_map.mp hpart
          exact fun hmem => (hcs d hd).separator ((List.mem_cons.mp hmem).resolve_left (by decide))
      have hvisible : ∀ ch ∈ [';'].intercalate parts, 32 ≤ ch.toNat ∧ ch.toNat < 127 := by
        intro ch hch
        rcases mem_intercalate hch with rfl | ⟨part, hpart, hmem⟩
        · decide
        · rcases List.mem_cons.mp hpart with rfl | hpart
          · exact hc.visible ch hmem
          · obtain ⟨d, hd, rfl⟩ := List.mem_map.mp hpart
            rcases List.mem_cons.mp hmem with rfl | hmem
            · decide
            · exact (hcs d hd).visible ch hmem
      have htext : headerText (String.ofList ([';'].intercalate parts)) =
          some (String.ofList ([';'].intercalate parts)) := by
        refine if_pos (List.all_eq_true.mpr fun ch hch => decide_eq_true (.inr (hvisible ch ?_)))
        rwa [String.toList_ofList] at hch
      rw [cookieValue, cookieHeader, List.head?_cons, Option.bind_some, ← hparts, htext,
        Option.bind_some, String.toList_ofList,
        List.splitOn_intercalate ';' hsep (List.cons_ne_nil _ _), hparts, List.findSome?_cons,
        cookiePart_of_trim hc name hc.trimmed, valueOf_cons]
      have hrest : (cs.map fun c => ' ' :: c.pair).findSome? (cookiePart name) =
          valueOf cs name :=
        find_cookie fun d hd =>
          cookiePart_of_trim (hcs d hd) name ((trim_blank _).trans (hcs d hd).trimmed)
      by_cases heq : c.name = name
      · rw [if_pos heq, if_pos heq]
      · rw [if_neg heq, if_neg heq]
        exact hrest

/-- What a browser keeps of a `Set-Cookie` header: the part before the attributes. -/
def storedCookie (header : String) : Option Cookie :=
  (splitOnce '=' (header.toList.takeWhile (· ≠ ';'))).map fun (name, value) =>
    { name := String.ofList name, value := String.ofList value }

/-- The cookie of a session. -/
def sessionCookie (id : Uuid) : Cookie := { name := "vussa_session", value := id.toText }

/-- A property of the characters of a text, by going through the text and not through all
characters. -/
lemma forall_mem_of_all {P : Char → Prop} [DecidablePred P] {l : List Char}
    (h : l.all (fun c => decide (P c)) = true) : ∀ c ∈ l, P c :=
  fun c hc => of_decide_eq_true (List.all_eq_true.mp h c hc)

/-- A character of a session cookie. -/
lemma mem_sessionCookie {id : Uuid} {ch : Char} (h : ch ∈ (sessionCookie id).pair) :
    ch ≠ ';' ∧ isWhitespace ch = false ∧ 32 ≤ ch.toNat ∧ ch.toNat < 127 := by
  have hdigit : ∀ d < 16, Nat.digitChar d ≠ ';' ∧ isWhitespace (Nat.digitChar d) = false ∧
      32 ≤ (Nat.digitChar d).toNat ∧ (Nat.digitChar d).toNat < 127 := by decide
  have hname : ∀ c ∈ "vussa_session".toList ++ ['='], c ≠ ';' ∧ isWhitespace c = false ∧
      32 ≤ c.toNat ∧ c.toNat < 127 := forall_mem_of_all (by decide)
  rw [Cookie.pair, ← List.singleton_append, ← List.append_assoc, List.mem_append] at h
  rcases h with h | h
  · exact hname ch h
  · rcases mem_toText h with ⟨d, hd, rfl⟩ | rfl
    · exact hdigit d hd
    · decide

lemma wellFormed_sessionCookie (id : Uuid) : (sessionCookie id).WellFormed where
  name := show '=' ∉ "vussa_session".toList by decide
  separator h := (mem_sessionCookie h).1 rfl
  trimmed := by
    have hblank : ∀ ch ∈ (sessionCookie id).pair, ¬ isWhitespace ch := fun ch hch =>
      Bool.not_eq_true _ ▸ (mem_sessionCookie hch).2.1
    apply String.toList_inj.mp
    rw [trim_toList, String.toList_ofList,
      List.dropWhile_eq_self_iff.mpr fun h => hblank _ (List.getElem_mem h),
      List.rdropWhile_eq_self_iff.mpr fun h => hblank _ (List.getLast_mem h)]
  visible ch hch := (mem_sessionCookie hch).2.2

/-- A browser keeps the session cookie of a login. -/
lemma storedCookie_authCookie (secure : Bool) (id : Uuid) :
    storedCookie (authCookie secure id) = some (sessionCookie id) := by
  have htext : ∃ rest, (authCookie secure id).toList = (sessionCookie id).pair ++ ';' :: rest := by
    have hsplit : "; Path=/; HttpOnly".toList = ';' :: " Path=/; HttpOnly".toList := by decide
    have hname : "vussa_session=".toList = "vussa_session".toList ++ ['='] := by decide
    have hcookie : authCookie secure id = "vussa_session=" ++ id.toText ++ "; Path=/; HttpOnly" ++
        (if secure then "; Secure" else "") ++ "; SameSite=Lax; Max-Age=" ++
        toString sessionTtlSeconds := rfl
    simp only [hcookie, String.toList_append, hsplit, hname, Cookie.pair, sessionCookie,
      List.append_assoc, List.cons_append, List.nil_append]
    exact ⟨_, rfl⟩
  obtain ⟨rest, hrest⟩ := htext
  have hpair : ∀ ch ∈ (sessionCookie id).pair, decide (ch ≠ ';') = true := fun ch hch =>
    decide_eq_true (mem_sessionCookie hch).1
  rw [storedCookie, hrest, List.takeWhile_append_of_pos hpair, List.takeWhile_cons_of_neg (by simp),
    List.append_nil, Cookie.pair, splitOnce_append (wellFormed_sessionCookie id).name,
    Option.map_some]
  simp only [String.ofList_toList]

/-! ### The token of a request -/

/-- The differences that the loop collects. -/
lemma foldl_xor_eq_zero (ps : List (UInt8 × UInt8)) (result : UInt8) :
    ps.foldl (fun result p => result ||| (p.1 ^^^ p.2)) result = 0 ↔
      result = 0 ∧ ∀ p ∈ ps, p.1 = p.2 := by
  induction ps generalizing result with
  | nil => simp
  | cons p ps ih => rw [List.foldl_cons, ih, UInt8.or_eq_zero_iff, UInt8.xor_eq_zero_iff,
      List.forall_mem_cons, and_assoc]

lemma eq_of_zip {α : Type} {as bs : List α} (hlength : as.length = bs.length) :
    (∀ p ∈ as.zip bs, p.1 = p.2) ↔ as = bs := by
  induction as generalizing bs with
  | nil => simp [List.length_eq_zero_iff.mp hlength.symm]
  | cons a as ih =>
      cases bs with
      | nil => exact absurd hlength (by simp)
      | cons b bs =>
          rw [List.zip_cons_cons, List.forall_mem_cons, ih (Nat.succ.inj hlength), List.cons.injEq]

/-- The comparison that looks at every byte is equality. -/
lemma constantTimeCompare_iff {a b : String} : constantTimeCompare a b = true ↔ a = b := by
  have hbytes : a.toByteArray.data.toList = b.toByteArray.data.toList ↔ a = b := by
    rw [Array.toList_inj, ← ByteArray.ext_iff, String.toByteArray_inj]
  rw [constantTimeCompare]
  split_ifs with hlength
  · exact iff_of_false id fun heq => hlength (by rw [heq])
  · rw [beq_iff_eq, foldl_xor_eq_zero, eq_of_zip (not_not.mp hlength), hbytes]
    exact and_iff_right rfl

/-- `require_csrf` on the header that it reads. -/
lemma requireCsrfHeader_eq (headers : Headers) (session : Session) :
    requireCsrfHeader headers session =
      requireCsrf (headers.csrf.head?.bind headerText) session := by
  rw [requireCsrfHeader, requireCsrf]
  cases headers.csrf.head?.bind headerText with
  | none => rfl
  | some header =>
      by_cases heq : header = session.csrf
      · rw [if_pos (congrArg some heq)]
        exact if_pos (constantTimeCompare_iff.mpr heq)
      · rw [if_neg fun h => heq (Option.some.inj h)]
        exact if_neg fun h => heq (constantTimeCompare_iff.mp h)

/-! ### The hashes -/

lemma sessionKey_injective : Function.Injective sessionKey := fun _ _ h =>
  toText_injective (String.append_right_inj _ |>.mp h)

/-- The text of a user is read as the user. -/
lemma ofText_userText (user : AuthUser) :
    AuthUser.codec.ofText jsonLimit (userText user) = some user :=
  Json.Codec.ofText_text (AuthUser.exact user) (by decide)

/-- The texts of a hash. -/
def SessionHash.texts (h : SessionHash) : HashTexts :=
  { csrf := h.csrf, user := some (userText h.user) }

/-- The hashes hold the texts of the sessions. -/
def Represents (w : Texts) (s : Store) : Prop :=
  ∀ id, w (sessionKey id) = (s.keys id).map SessionHash.texts

section Commands

variable {w : Texts} {s : Store}

/-- The texts after a change of one key. -/
lemma Represents.update (h : Represents w s) (id : Uuid) (hash : SessionHash) {texts : HashTexts}
    (heq : texts = hash.texts) {s' : Store}
    (hkeys : s'.keys = Function.update s.keys id (some hash)) :
    Represents (Function.update w (sessionKey id) (some texts)) s' := by
  intro other
  rw [hkeys]
  by_cases hother : other = id
  · subst hother
    rw [Function.update_self, Function.update_self, heq, Option.map_some]
  · rw [Function.update_of_ne fun hkey => hother (sessionKey_injective hkey),
      Function.update_of_ne hother, h other]

lemma Represents.create (h : Represents w s) (id : Uuid) (csrf : String) (user : AuthUser) :
    Represents (w.create id csrf user) (s.create id csrf user) :=
  h.update id { csrf := some csrf, user := user, expires := true } rfl rfl

lemma Represents.hsetUser (h : Represents w s) (id : Uuid) (user : AuthUser) :
    Represents (w.hsetUser id user) (s.hsetUser id user) := by
  refine h.update id _ ?_ rfl
  rw [h id]
  cases s.keys id <;> rfl

lemma Represents.del (h : Represents w s) (ids : List Uuid) :
    Represents (w.del ids) (s.del ids) := by
  intro id
  have hmem : sessionKey id ∈ ids.map sessionKey ↔ id ∈ ids :=
    List.mem_map_of_injective sessionKey_injective
  have hkeys : (s.del ids).keys id = if id ∈ ids then none else s.keys id := rfl
  rw [Texts.del, hkeys]
  by_cases hid : id ∈ ids
  · rw [if_pos (hmem.mpr hid), if_pos hid, Option.map_none]
  · rw [if_neg fun h => hid (hmem.mp h), if_neg hid, h id]

/-- The time to live is no text. -/
lemma Represents.expire (h : Represents w s) (id : Uuid) : Represents w (s.expire id) := by
  intro other
  have hkeys : (s.expire id).keys = Function.update s.keys id
    ((s.keys id).map fun hash => { hash with expires := true }) := rfl
  rw [h other, hkeys]
  by_cases hother : other = id
  · subst hother
    rw [Function.update_self, Option.map_map]
    rfl
  · rw [Function.update_of_ne hother]

/-- The hashes do not show the sets. -/
lemma Represents.congr (h : Represents w s) {s' : Store} (hkeys : s'.keys = s.keys) :
    Represents w s' := fun id => by rw [hkeys, h id]

/-- A command writes the texts of what it writes. -/
lemma Represents.exec (h : Represents w s) (U : Unicode) (ids : List Uuid) (task : Task) :
    Represents (w.exec task) (s.exec U ids task).1 := by
  cases task with
  | load request header id =>
      rw [Store.exec]
      split <;> exact h
  | refresh request header session => exact h.expire session.id
  | remove user id rest => exact h.del [id]
  | unlist user id rest => exact h.congr rfl
  | check user id rest =>
      rw [Store.exec]
      split_ifs <;> exact h
  | drop user id rest => exact h.congr rfl
  | rename id user => exact h.hsetUser id user
  | readOthers session | readListed user | readOwn user | readInvalid user =>
      rw [Store.exec]
      split_ifs <;> exact h
  | clear user read id rest => exact h.del [id]
  | clearAll user read => exact h.del read
  | close user read => exact h.congr rfl

/-- A request is answered from the texts as from the records. -/
lemma Represents.loadSession (h : Represents w s) (headers : Headers) :
    w.loadSession headers = s.loadSession (cookieValue headers "vussa_session") := by
  rw [Texts.loadSession, Store.loadSession]
  cases (cookieValue headers "vussa_session").bind Uuid.parseStr with
  | none => rfl
  | some id =>
      simp only [h id, Store.session]
      rcases s.keys id with _ | ⟨_ | csrf, user, expires⟩
      · rfl
      · rfl
      · simp [SessionHash.texts, ofText_userText]

end Commands

/-! ### Runs -/

/-- A move writes the texts of what it writes. -/
lemma represents_step (U : Unicode) {s : State} {w : Texts} (h : Represents w s.store) (a : Act) :
    Represents (s.write w a) (s.step U a).store := by
  cases a with
  | createSession id csrf user =>
      rw [State.write, State.step]
      split_ifs
      · exact h
      · exact h.create id csrf user
  | lapse id =>
      rw [State.write, State.step]
      split_ifs
      · exact h.del [id]
      · exact h
  | arrive k request header cookie =>
      rw [State.write, State.step, State.spawn]
      split_ifs <;> exact h
  | invalidate k user =>
      rw [State.write, State.step, State.spawn]
      split_ifs <;> exact h
  | run k ids =>
      rw [State.write, State.step]
      cases s.tasks k with
      | none => exact h
      | some task => exact h.exec U ids task
  | abort k => exact h

/-- The texts follow the records in every run. -/
lemma represents_final (U : Unicode) (as : List Act) :
    Represents (final (stepTexts U) ({}, fun _ => none) as).2
      (final (State.step U) {} as).store := by
  have hfst : (final (stepTexts U) ({}, fun _ => none) as).1 = final (State.step U) {} as := by
    have hread : (final (stepTexts U) ({}, fun _ => none) as).1 =
        final (State.step U) {} (as.filterMap some) :=
      @final_map_read _ _ _ _ (stepTexts U) (State.step U) some Prod.fst (fun _ _ => rfl)
        ({}, fun _ => none) as
    rwa [List.filterMap_some] at hread
  have hinv : Represents (final (stepTexts U) ({}, fun _ => none) as).2
      (final (stepTexts U) ({}, fun _ => none) as).1.store :=
    final_invariant (I := fun p : State × Texts => Represents p.2 p.1.store)
      (fun p a hp => represents_step U hp a) (s := ({}, fun _ => none)) (fun _ => rfl) as
  rwa [hfst] at hinv

/-- **A request is answered by the session that its cookie and token name**: after every run,
`load_session` on the texts of Valkey and of the request finds the session of the cookie
`vussa_session` with its user and token, or refuses. With the cookie that the browser kept of a
login it finds the session of that login. `require_csrf` accepts the token of the session and
nothing else. -/
theorem loadSession_along (U : Unicode) (as : List Act) {jar : List Cookie}
    (hjar : ∀ c ∈ jar, c.WellFormed) (csrf : List String) :
    (final (stepTexts U) ({}, fun _ => none) as).2.loadSession ⟨cookieHeader jar, csrf⟩ =
        (final (State.step U) {} as).store.loadSession (valueOf jar "vussa_session") ∧
      (∀ secure id,
        (jar.find? fun c => c.name = "vussa_session") = storedCookie (authCookie secure id) →
          (final (stepTexts U) ({}, fun _ => none) as).2.loadSession ⟨cookieHeader jar, csrf⟩ =
            (final (State.step U) {} as).store.session id) ∧
      ∀ session, requireCsrfHeader ⟨cookieHeader jar, csrf⟩ session =
        requireCsrf (csrf.head?.bind headerText) session := by
  have hload : (final (stepTexts U) ({}, fun _ => none) as).2.loadSession ⟨cookieHeader jar, csrf⟩ =
      (final (State.step U) {} as).store.loadSession (valueOf jar "vussa_session") := by
    rw [(represents_final U as).loadSession, cookieValue_cookieHeader hjar]
  refine ⟨hload, fun secure id hfind => ?_, fun session => requireCsrfHeader_eq _ session⟩
  rw [hload, valueOf, hfind, storedCookie_authCookie, Option.map_some, sessionCookie,
    Store.loadSession, Option.bind_some, parseStr_toText]

/-- A browser with the cookie of a login and another one. -/
def phone : List Cookie := [⟨"theme", "dark"⟩, sessionCookie 7]

/-- The request after a login, with the token of its answer. -/
theorem loadSession_along_phone :
    (final (stepTexts .ascii) ({}, fun _ => none) [.createSession 7 "c1" ada]).2.loadSession
        ⟨cookieHeader phone, ["c1"]⟩ = .ok ⟨7, "c1", ada⟩ ∧
      requireCsrfHeader ⟨cookieHeader phone, ["c1"]⟩ ⟨7, "c1", ada⟩ = .ok ⟨⟩ := by
  have htheme : (Cookie.mk "theme" "dark").WellFormed :=
    ⟨by decide, by decide, by decide, forall_mem_of_all (by decide)⟩
  have hphone : ∀ c ∈ phone, c.WellFormed :=
    List.forall_mem_cons.mpr ⟨htheme, List.forall_mem_singleton.mpr (wellFormed_sessionCookie 7)⟩
  obtain ⟨_, hlogin, hcsrf⟩ :=
    loadSession_along .ascii [.createSession 7 "c1" ada] hphone ["c1"]
  have hfind : (phone.find? fun c => c.name = "vussa_session") = some (sessionCookie 7) := rfl
  exact ⟨hlogin false 7 (hfind.trans (storedCookie_authCookie false 7).symm),
    (hcsrf _).trans (by decide)⟩

end Vussa.Sessions
