import Vussa.Sessions.Texts

/-!
The names of the keys in Valkey. Sessions and their sets, presence, hot histories and the counters
of the rate limits share one keyspace, so that nothing but these texts keeps them apart; a channel's
name stands in the middle of some.

* `Limit`, `Key`: the keys, with `Key.text`, their names in the source's words;
* `Key.head`, `Key.body`: where a name divides; no head continues another;
* `text_injective`: **no two keys have one name, whatever the names of the channels**.
-/

namespace Vussa.Valkey

open Sessions (sessionKey)

/-! ### The keys -/

/-- What `enforce_rate_limit` counts. -/
inductive Limit where
  | message (userId : Uuid)
  | upload (userId : Uuid)
  | registerIp (ipHash : String)
  | loginIp (ipHash : String)
  | loginTarget (targetHash : String)
  | recovery (emailHash : String)
  deriving DecidableEq, Repr

/-- The keys of the program. -/
inductive Key where
  | session (id : Uuid)
  | sessions (userId : Uuid)
  | history (channel : String)
  | historyOrder (channel : String)
  | presenceSet (channel : String)
  | presence (channel : String) (userId : Uuid)
  | rate (limit : Limit)
  deriving DecidableEq, Repr

/-- `sessions_key`. -/
def sessionsKey (userId : Uuid) : String := "vussa:user_sessions:" ++ userId.toText

def historyKey (channel : String) : String := "chat:history:" ++ channel ++ ":messages"

def historyOrderKey (channel : String) : String := "chat:history:" ++ channel ++ ":order"

def presenceSetKey (channel : String) : String := "chat:presence:" ++ channel ++ ":users"

def presenceKey (channel : String) (userId : Uuid) : String :=
  "chat:presence:" ++ channel ++ ":" ++ userId.toText

/-- `message_rate_key`, and the keys that `upload_file`, `register`, `login` and `request_recovery`
write out. -/
def Limit.key : Limit → String
  | .message userId => "chat:rate:message:" ++ userId.toText
  | .upload userId => "chat:rate:upload:" ++ userId.toText
  | .registerIp ipHash => "chat:rate:register:ip:" ++ ipHash
  | .loginIp ipHash => "chat:rate:login:ip:" ++ ipHash
  | .loginTarget targetHash => "chat:rate:login:target:" ++ targetHash
  | .recovery emailHash => "chat:rate:recovery:" ++ emailHash

/-- The name of a key. -/
def Key.text : Key → String
  | .session id => sessionKey id
  | .sessions userId => sessionsKey userId
  | .history channel => historyKey channel
  | .historyOrder channel => historyOrderKey channel
  | .presenceSet channel => presenceSetKey channel
  | .presence channel userId => presenceKey channel userId
  | .rate limit => limit.key

/-! ### Heads and bodies -/

/-- What the names of a kind begin with. -/
inductive Head where
  | session | sessions | history | presence
  | message | upload | registerIp | loginIp | loginTarget | recovery
  deriving DecidableEq

/-- The text of a head. -/
def Head.text : Head → String
  | .session => "vussa:session:"
  | .sessions => "vussa:user_sessions:"
  | .history => "chat:history:"
  | .presence => "chat:presence:"
  | .message => "chat:rate:message:"
  | .upload => "chat:rate:upload:"
  | .registerIp => "chat:rate:register:ip:"
  | .loginIp => "chat:rate:login:ip:"
  | .loginTarget => "chat:rate:login:target:"
  | .recovery => "chat:rate:recovery:"

/-- The head of a counter's name. -/
def Limit.head : Limit → Head
  | .message _ => .message
  | .upload _ => .upload
  | .registerIp _ => .registerIp
  | .loginIp _ => .loginIp
  | .loginTarget _ => .loginTarget
  | .recovery _ => .recovery

/-- What follows the head of a counter's name. -/
def Limit.body : Limit → String
  | .message userId | .upload userId => userId.toText
  | .registerIp hash | .loginIp hash | .loginTarget hash | .recovery hash => hash

/-- The head of a name. -/
def Key.head : Key → Head
  | .session _ => .session
  | .sessions _ => .sessions
  | .history _ | .historyOrder _ => .history
  | .presenceSet _ | .presence _ _ => .presence
  | .rate limit => limit.head

/-- What follows the head of a name. -/
def Key.body : Key → String
  | .session id | .sessions id => id.toText
  | .history channel => channel ++ ":messages"
  | .historyOrder channel => channel ++ ":order"
  | .presenceSet channel => channel ++ ":users"
  | .presence channel userId => channel ++ ":" ++ userId.toText
  | .rate limit => limit.body

lemma Key.text_eq (k : Key) : k.text = k.head.text ++ k.body := by
  cases k with
  | session id => rfl
  | sessions userId => rfl
  | history channel => exact String.append_assoc
  | historyOrder channel => exact String.append_assoc
  | presenceSet channel => exact String.append_assoc
  | presence channel userId =>
      rw [Key.text, presenceKey, Key.body, String.append_assoc, String.append_assoc,
        String.append_assoc]
      rfl
  | rate limit => cases limit <;> rfl

/-- No head continues another. -/
lemma Head.eq_of_prefix {a b : Head} (h : a.text.toList <+: b.text.toList) : a = b := by
  revert h
  cases a <;> cases b <;> decide

/-- The head of a name can be read off it. -/
lemma Key.head_eq {k k' : Key} (h : k.text = k'.text) : k.head = k'.head := by
  have hchars := congrArg String.toList h
  rw [Key.text_eq, Key.text_eq, String.toList_append, String.toList_append] at hchars
  rcases List.prefix_or_prefix_of_prefix (List.prefix_append k.head.text.toList k.body.toList)
    (hchars ▸ List.prefix_append k'.head.text.toList k'.body.toList) with hle | hle
  · exact Head.eq_of_prefix hle
  · exact (Head.eq_of_prefix hle).symm

/-- So can what follows it. -/
lemma Key.body_eq {k k' : Key} (h : k.text = k'.text) : k.body = k'.body := by
  have hchars := congrArg String.toList h
  rw [Key.text_eq, Key.text_eq, Key.head_eq h, String.toList_append, String.toList_append] at hchars
  exact String.toList_inj.mp (List.append_cancel_left hchars)

/-! ### Bodies -/

/-- A text ends in one way only. -/
lemma append_right_inj {a b : String} (suffix : String) (h : a ++ suffix = b ++ suffix) :
    a = b := by
  have hchars := congrArg String.toList h
  rw [String.toList_append, String.toList_append] at hchars
  exact String.toList_inj.mp (List.append_cancel_right hchars)

/-- The last character of an identifier's text. -/
lemma getLast?_toText (id : Uuid) (c : Char) (h : id.toText.toList.getLast? = some c) :
    (∃ d < 16, c = Nat.digitChar d) ∨ c = '-' :=
  mem_toText (List.mem_of_getLast? h)

lemma digitChar_ne_s : ∀ d < 16, Nat.digitChar d ≠ 's' := by decide

/-- `users` is no identifier. -/
lemma users_ne (channel channel' : String) (userId : Uuid) :
    channel ++ ":users" ≠ channel' ++ ":" ++ userId.toText := by
  intro h
  have hlast := congrArg (fun text => text.toList.getLast?) h
  simp only [String.toList_append, List.getLast?_append] at hlast
  have hsome : userId.toText.toList.getLast? ≠ none := by
    rw [Ne, List.getLast?_eq_none_iff, ← List.length_eq_zero_iff, toText_length]
    decide
  obtain ⟨c, hc⟩ := Option.ne_none_iff_exists'.mp hsome
  have hs : c = 's' := by
    rw [hc] at hlast
    exact (Option.some.inj hlast).symm
  rcases getLast?_toText userId c hc with ⟨d, hd, hdigit⟩ | hdash
  · exact digitChar_ne_s d hd (hdigit ▸ hs)
  · exact absurd (hdash ▸ hs) (by decide)

/-- `messages` is not `order`. -/
lemma messages_ne (channel channel' : String) : channel ++ ":messages" ≠ channel' ++ ":order" := by
  intro h
  have hlast := congrArg (fun text => text.toList.getLast?) h
  simp only [String.toList_append, List.getLast?_append] at hlast
  have hends : ":messages".toList.getLast? = some 's' ∧ ":order".toList.getLast? = some 'r' := by
    decide
  rw [hends.1, hends.2] at hlast
  exact absurd (Option.some.inj hlast) (by decide)

lemma presence_body_inj {channel channel' : String} {userId userId' : Uuid}
    (h : channel ++ ":" ++ userId.toText = channel' ++ ":" ++ userId'.toText) :
    channel = channel' ∧ userId = userId' := by
  have hchars : (channel ++ ":").toList ++ userId.toText.toList =
      (channel' ++ ":").toList ++ userId'.toText.toList := by
    rw [← String.toList_append, ← String.toList_append, h]
  have hlength : userId.toText.toList.length = userId'.toText.toList.length :=
    (toText_length userId).trans (toText_length userId').symm
  obtain ⟨hchannel, huser⟩ := List.append_inj' hchars hlength
  exact ⟨append_right_inj ":" (String.toList_inj.mp hchannel),
    toText_injective (String.toList_inj.mp huser)⟩

lemma Limit.eq_of_body {l l' : Limit} (hhead : l.head = l'.head) (hbody : l.body = l'.body) :
    l = l' := by
  cases l with
  | message userId =>
      cases l' <;> cases hhead
      exact congrArg Limit.message (toText_injective hbody)
  | upload userId =>
      cases l' <;> cases hhead
      exact congrArg Limit.upload (toText_injective hbody)
  | registerIp hash =>
      cases l' <;> cases hhead
      exact congrArg Limit.registerIp hbody
  | loginIp hash =>
      cases l' <;> cases hhead
      exact congrArg Limit.loginIp hbody
  | loginTarget hash =>
      cases l' <;> cases hhead
      exact congrArg Limit.loginTarget hbody
  | recovery hash =>
      cases l' <;> cases hhead
      exact congrArg Limit.recovery hbody

/-- **No two keys have one name**, whatever the names of the channels. -/
theorem text_injective : Function.Injective Key.text := by
  intro k k' h
  have hhead := Key.head_eq h
  have hbody := Key.body_eq h
  cases k with
  | session id =>
      cases k' with
      | session id' => exact congrArg Key.session (toText_injective hbody)
      | rate limit => cases limit <;> cases hhead
      | _ => cases hhead
  | sessions userId =>
      cases k' with
      | sessions userId' => exact congrArg Key.sessions (toText_injective hbody)
      | rate limit => cases limit <;> cases hhead
      | _ => cases hhead
  | history channel =>
      cases k' with
      | history channel' => exact congrArg Key.history (append_right_inj _ hbody)
      | historyOrder channel' => exact absurd hbody (messages_ne _ _)
      | rate limit => cases limit <;> cases hhead
      | _ => cases hhead
  | historyOrder channel =>
      cases k' with
      | historyOrder channel' => exact congrArg Key.historyOrder (append_right_inj _ hbody)
      | history channel' => exact absurd hbody.symm (messages_ne _ _)
      | rate limit => cases limit <;> cases hhead
      | _ => cases hhead
  | presenceSet channel =>
      cases k' with
      | presenceSet channel' => exact congrArg Key.presenceSet (append_right_inj _ hbody)
      | presence channel' userId => exact absurd hbody (users_ne _ _ _)
      | rate limit => cases limit <;> cases hhead
      | _ => cases hhead
  | presence channel userId =>
      cases k' with
      | presence channel' userId' =>
          obtain ⟨rfl, rfl⟩ := presence_body_inj hbody
          rfl
      | presenceSet channel' => exact absurd hbody.symm (users_ne _ _ _)
      | rate limit => cases limit <;> cases hhead
      | _ => cases hhead
  | rate limit =>
      cases k' with
      | rate limit' => exact congrArg Key.rate (Limit.eq_of_body hhead hbody)
      | _ => cases limit <;> cases hhead

end Vussa.Valkey
