import Vussa.Messages.Mentionable
import Vussa.Client.Markdown
import Vussa.Files.Names

/-!
The completion of mentions on the page (`lib/mentions.js`), with `submit` and `chooseMention` of
`routes/+page.svelte`, against what the server reads in the message: `extract_mentioned_usernames`
and `mention_scope` (`api/notifications.rs`). The page separates by `\s`, the server by the property
`White_Space`; the two differ at U+FEFF and U+0085. A draft is a text of Unicode characters.

* `mentionMatch`, `mentionQuery`, `applyMention`, `submitted`: the page;
* `IsMatch`, `mentionMatch_eq_some`: the only match of the pattern;
* `mentionQuery_applyMention`: a completed draft asks for no further name;
* `words`, `words_append`, `words_trim`: the tokens of the server;
* `completed_mentions`: **a completed draft, when it is sent, mentions the chosen user and whom the
  text before mentions, and has the scope of the text before**.
-/

namespace Vussa.Completion

variable {value username text : String} {l r before query : List Char} {c : Char}

/-! ### The page -/

/-- `[a-zA-Z0-9_-]`. -/
def isQueryChar (c : Char) : Bool := isAsciiAlphanumeric c || c == '_' || c == '-'

/-- The match of `mentionPattern`: the text before the `@` and the query after it. -/
def mentionMatch (value : List Char) : Option (List Char × List Char) :=
  let query := (value.reverse.takeWhile isQueryChar).reverse
  match value.reverse.dropWhile isQueryChar with
  | '@' :: before =>
      if before.head?.all Markdown.isWhite ∧ query.length ≤ 32 then some (before.reverse, query)
      else none
  | _ => none

/-- `mentionQuery`. -/
def mentionQuery (value : String) : Option String :=
  (mentionMatch value.toList).map fun (_, query) => String.ofList query

/-- `applyMention`. -/
def applyMention (value username : String) : String :=
  match mentionMatch value.toList with
  | some (before, _) => String.ofList (before ++ '@' :: (username.toList ++ [' ']))
  | none => value

/-- `draft.trim()` of `submit`. -/
def submitted (draft : String) : String := trimMatches Markdown.isWhite draft

/-- The text before the `@`, without the white space at its front that `submit` cuts off. -/
def context (value : String) : String :=
  match mentionMatch value.toList with
  | some (before, _) => String.ofList (before.dropWhile Markdown.isWhite)
  | none => ""

/-- The text is matched by `mentionPattern` with the query as its group. -/
structure IsMatch (value before query : List Char) : Prop where
  text : value = before ++ '@' :: query
  start : ∀ c ∈ before.getLast?, Markdown.isWhite c
  chars : ∀ c ∈ query, isQueryChar c
  length : query.length ≤ 32

/-- **The only match**: the `@` is the one before the last characters of a query. -/
lemma mentionMatch_eq_some {value : List Char} :
    mentionMatch value = some (before, query) ↔ IsMatch value before query := by
  constructor
  · intro h
    rw [mentionMatch] at h
    split at h
    · rename_i rest hrest
      split_ifs at h with hmatch
      obtain ⟨rfl, rfl⟩ := Prod.mk.inj (Option.some.inj h)
      obtain ⟨hstart, hlength⟩ := hmatch
      have hsplit : value.reverse = value.reverse.takeWhile isQueryChar ++ '@' :: rest := by
        rw [← hrest, List.takeWhile_append_dropWhile]
      refine ⟨?_, fun c hc => ?_, fun c hc => ?_, hlength⟩
      · calc value = value.reverse.reverse := value.reverse_reverse.symm
          _ = (value.reverse.takeWhile isQueryChar ++ '@' :: rest).reverse := by rw [← hsplit]
          _ = rest.reverse ++ '@' :: (value.reverse.takeWhile isQueryChar).reverse := by
            rw [List.reverse_append, List.reverse_cons, List.append_assoc, List.singleton_append]
      · rw [List.getLast?_reverse] at hc
        rw [Option.mem_def.mp hc] at hstart
        exact hstart
      · exact List.mem_takeWhile_imp (List.mem_reverse.mp hc)
    · cases h
  · rintro ⟨rfl, hstart, hchars, hlength⟩
    have hquery : ∀ c ∈ query.reverse, isQueryChar c := fun c hc =>
      hchars c (List.mem_reverse.mp hc)
    have hrev : (before ++ '@' :: query).reverse = query.reverse ++ '@' :: before.reverse := by
      rw [List.reverse_append, List.reverse_cons, List.append_assoc, List.singleton_append]
    have htake : (query.reverse ++ '@' :: before.reverse).takeWhile isQueryChar =
        query.reverse := by
      rw [List.takeWhile_append_of_pos hquery, List.takeWhile_cons_of_neg (by decide),
        List.append_nil]
    have hdrop : (query.reverse ++ '@' :: before.reverse).dropWhile isQueryChar =
        '@' :: before.reverse := by
      rw [List.dropWhile_append_of_pos hquery, List.dropWhile_cons_of_neg (by decide)]
    rw [mentionMatch, hrev, htake, hdrop, List.reverse_reverse]
    simp only [List.reverse_reverse]
    refine if_pos ⟨?_, hlength⟩
    rw [List.head?_reverse, Option.all_eq_true]
    exact hstart

lemma applyMention_of_match (h : IsMatch value.toList before query) :
    (applyMention value username).toList = before ++ '@' :: (username.toList ++ [' ']) := by
  rw [applyMention, mentionMatch_eq_some.mpr h]
  exact String.toList_ofList

lemma context_of_match (h : IsMatch value.toList before query) :
    (context value).toList = before.dropWhile Markdown.isWhite := by
  rw [context, mentionMatch_eq_some.mpr h]
  exact String.toList_ofList

/-- A completed draft asks for no further name. -/
lemma mentionQuery_applyMention (value username : String) :
    mentionQuery (applyMention value username) = none := by
  rw [mentionQuery, Option.map_eq_none_iff]
  cases hmatch : mentionMatch value.toList with
  | none =>
      rw [applyMention, hmatch]
      exact hmatch
  | some found =>
      obtain ⟨before, query⟩ := found
      have hlist : (applyMention value username).toList = _ :=
        applyMention_of_match (mentionMatch_eq_some.mp hmatch)
      rw [← List.cons_append, ← List.append_assoc] at hlist
      rw [hlist, mentionMatch, List.reverse_append]
      rfl

/-! ### The tokens -/

/-- The tokens of `split_whitespace`. -/
def words (l : List Char) : List (List Char) := (l.splitOnP isWhitespace).filter fun w => w ≠ []

lemma splitWhitespace_eq (s : String) : splitWhitespace s = (words s.toList).map String.ofList := rfl

lemma words_nil : words [] = [] := rfl

lemma words_append_cons (hc : isWhitespace c) : words (l ++ c :: r) = words l ++ words r := by
  rw [words, List.splitOnP_append_cons l r hc, List.filter_append]
  rfl

lemma words_cons (hc : isWhitespace c) : words (c :: r) = words r :=
  words_append_cons (l := []) hc

lemma words_concat (hc : isWhitespace c) : words (l ++ [c]) = words l := by
  rw [words_append_cons hc, words_nil, List.append_nil]

/-- A text that ends in white space keeps its tokens in front of another one. -/
lemma words_append (h : ∀ c ∈ l.getLast?, isWhitespace c) : words (l ++ r) = words l ++ words r := by
  rcases List.eq_nil_or_concat l with rfl | ⟨init, c, rfl⟩
  · rfl
  · have hc : isWhitespace c := h c (by rw [List.concat_eq_append, List.getLast?_concat]; rfl)
    rw [List.concat_eq_append, words_concat hc, List.append_assoc, List.singleton_append,
      words_append_cons hc]

lemma words_dropWhile (l : List Char) : words (l.dropWhile isWhitespace) = words l := by
  induction l with
  | nil => rfl
  | cons c l ih =>
      by_cases hc : isWhitespace c
      · rw [List.dropWhile_cons_of_pos hc, ih, words_cons hc]
      · rw [List.dropWhile_cons_of_neg hc]

lemma words_rdropWhile (l : List Char) : words (l.rdropWhile isWhitespace) = words l := by
  induction l using List.reverseRecOn with
  | nil => rfl
  | append_singleton l c ih =>
      by_cases hc : isWhitespace c
      · rw [List.rdropWhile_concat_pos _ _ _ hc, ih, words_concat hc]
      · rw [List.rdropWhile_concat_neg _ _ _ hc]

/-- The trim of the server keeps the tokens. -/
lemma words_trim (s : String) : words (trim s).toList = words s.toList := by
  rw [Names.trim_toList, words_rdropWhile, words_dropWhile]

lemma words_word (hne : l ≠ []) (h : ∀ c ∈ l, isWhitespace c = false) : words l = [l] := by
  rw [words, List.splitOnP_eq_singleton h]
  simp [hne]

/-! ### The message -/

/-- White space of the page other than U+FEFF is white space of the server. -/
lemma isWhitespace_of_isWhite (h : Markdown.isWhite c) (hmark : c.toNat ≠ 0xFEFF) :
    isWhitespace c := by
  simp only [Markdown.isWhite, List.contains_cons, List.contains_nil, Bool.or_eq_true, beq_iff_eq,
    Bool.and_eq_true, decide_eq_true_eq, Bool.or_false] at h
  simp only [isWhitespace, Bool.or_eq_true, Bool.and_eq_true, decide_eq_true_eq, beq_iff_eq]
  omega

/-- What a mention begins and ends with is no white space of the page. -/
lemma isWhite_of_kept (h : isMentionTrim c = false) : Markdown.isWhite c = false := by
  by_contra hwhite
  rw [Bool.not_eq_false] at hwhite
  simp only [Markdown.isWhite, List.contains_cons, List.contains_nil, Bool.or_eq_true, beq_iff_eq,
    Bool.and_eq_true, decide_eq_true_eq, Bool.or_false] at hwhite
  have hne : c ≠ '_' ∧ c ≠ '-' := by
    constructor <;> rintro rfl <;> revert hwhite <;> decide
  have hnone : isAsciiAlphanumeric c = false := by
    rw [Bool.eq_false_iff]
    simp only [isAsciiAlphanumeric, ne_eq, Bool.or_eq_true, Bool.and_eq_true, decide_eq_true_eq]
    omega
  simp [isMentionTrim, hnone, hne.1, hne.2] at h

lemma dropWhile_append_cons {p : Char → Bool} (hc : p c = false) :
    (l ++ c :: r).dropWhile p = l.dropWhile p ++ c :: r := by
  induction l with
  | nil => rw [List.nil_append, List.dropWhile_cons_of_neg (by simp [hc])]; rfl
  | cons d l ih =>
      by_cases hd : p d
      · rw [List.cons_append, List.dropWhile_cons_of_pos hd, List.dropWhile_cons_of_pos hd, ih]
      · rw [List.cons_append, List.dropWhile_cons_of_neg hd, List.dropWhile_cons_of_neg hd,
          List.cons_append]

/-- A completed draft after the trim of the page. -/
lemma submitted_applyMention (h : IsMatch value.toList before query)
    (hlast : ∀ c ∈ username.toList.getLast?, isMentionTrim c = false) :
    (submitted (applyMention value username)).toList =
      (context value).toList ++ '@' :: username.toList := by
  have hend : ∀ c ∈ ((context value).toList ++ '@' :: username.toList).getLast?,
      ¬ Markdown.isWhite c := by
    intro c hc
    rw [Bool.not_eq_true]
    rw [List.getLast?_append, List.getLast?_cons] at hc
    obtain rfl : username.toList.getLast?.getD '@' = c := by simpa using hc
    cases hname : username.toList.getLast? with
    | none => rfl
    | some d => exact isWhite_of_kept (hlast d hname)
  have hblank : (context value).toList ++ '@' :: (username.toList ++ [' ']) =
      ((context value).toList ++ '@' :: username.toList) ++ [' '] := by
    rw [List.append_assoc, List.cons_append]
  rw [submitted, trimMatches, String.toList_ofList, applyMention_of_match h,
    dropWhile_append_cons (by decide), ← context_of_match h, hblank]
  change List.rdropWhile Markdown.isWhite _ = _
  rw [List.rdropWhile_concat_pos _ _ _ (by decide)]
  refine List.rdropWhile_eq_self_iff.mpr fun hne => hend _ ?_
  exact List.getLast?_eq_some_getLast hne

/-- **The tokens of a completed draft** are those of the text before and the mention. -/
lemma words_completed (h : IsMatch value.toList before query)
    (hmark : ∀ c ∈ (context value).toList.getLast?, c.toNat ≠ 0xFEFF)
    (hlast : ∀ c ∈ username.toList.getLast?, isMentionTrim c = false)
    (hname : ∀ c ∈ username.toList, isWhitespace c = false)
    (htext : messageText (submitted (applyMention value username)) = .ok text) :
    words text.toList = words (context value).toList ++ ['@' :: username.toList] := by
  have htrim : text = trim (submitted (applyMention value username)) := by
    rw [messageText] at htext
    split_ifs at htext
    exact (Except.ok.inj htext).symm
  have hspace : ∀ c ∈ (context value).toList.getLast?, isWhitespace c := by
    intro c hc
    refine isWhitespace_of_isWhite (h.start c ?_) (hmark c hc)
    rw [context_of_match h] at hc
    obtain ⟨front, hfront⟩ := List.dropWhile_suffix (l := before) Markdown.isWhite
    rw [← hfront, List.getLast?_append, Option.mem_def.mp hc]
    rfl
  have hmention : words ('@' :: username.toList) = ['@' :: username.toList] := by
    refine words_word (List.cons_ne_nil _ _) fun c hc => ?_
    rcases List.mem_cons.mp hc with rfl | hc
    · rfl
    · exact hname c hc
  calc words text.toList
      = words (submitted (applyMention value username)).toList := by rw [htrim, words_trim]
    _ = words ((context value).toList ++ '@' :: username.toList) := by
      rw [submitted_applyMention h hlast]
    _ = words (context value).toList ++ ['@' :: username.toList] := by
      rw [words_append hspace, hmention]

/-- **A completed draft mentions the chosen user**: the message that the server makes of it mentions
this user and whom the text before mentions, and no one else, and it addresses the channel or those
present if the text before does. -/
theorem completed_mentions (D : CharacterData) {value username actor text : String}
    (hquery : (mentionQuery value).isSome)
    (hmark : ∀ c ∈ (context value).toList.getLast?, c.toNat ≠ 0xFEFF)
    (hvalid : validateUsername D.unicode username = .ok ⟨⟩) (hends : AsciiEnds username)
    (hactor : D.lowercase username ≠ D.lowercase actor)
    (htext : messageText (submitted (applyMention value username)) = .ok text) :
    (∀ name, name ∈ extractMentionedUsernames D.unicode text actor ↔
        name ∈ extractMentionedUsernames D.unicode (context value) actor ∨
          name = D.lowercase username) ∧
      mentionScope D.unicode text = mentionScope D.unicode (context value) := by
  obtain ⟨htwo, -, hchars, hreserved⟩ := validateUsername_eq_ok_iff.mp hvalid
  obtain ⟨hchannel, hhere⟩ := ne_scope_of_valid hreserved rfl
  obtain ⟨⟨before, query⟩, hmatch⟩ : ∃ found, mentionMatch value.toList = some found := by
    rw [mentionQuery, Option.isSome_map] at hquery
    exact Option.isSome_iff_exists.mp hquery
  have hwords := words_completed (mentionMatch_eq_some.mp hmatch) hmark hends.last
    (not_whitespace_written hchars rfl) htext
  have htoken : String.ofList ('@' :: username.toList) = mentionOf username "" := by
    refine String.toList_inj.mp ?_
    rw [String.toList_ofList, toList_mentionOf]
    exact congrArg _ (List.append_nil _).symm
  have hmention : mentionToken (mentionOf username "") = some username :=
    mentionToken_token (fun c hc => absurd hc List.not_mem_nil) hends
  have hsplit : splitWhitespace text = splitWhitespace (context value) ++ [mentionOf username ""] := by
    rw [splitWhitespace_eq, hwords, List.map_append, ← splitWhitespace_eq, List.map_singleton,
      htoken]
  have hmentioned : mentioned text = mentioned (context value) ++ [username] := by
    rw [mentioned, hsplit, List.filterMap_append, List.filterMap_cons, hmention]
    rfl
  have hreported : Reported D.unicode actor username := by
    refine ⟨?_, hends.bytes, hchannel, hhere, hactor⟩
    rintro rfl
    exact absurd htwo (by decide)
  constructor
  · intro name
    simp only [mem_extractMentionedUsernames, hmentioned, List.mem_append, List.mem_singleton]
    constructor
    · rintro ⟨u, hu | rfl, hrep, rfl⟩
      · exact .inl ⟨u, hu, hrep, rfl⟩
      · exact .inr rfl
    · rintro (⟨u, hu, hrep, rfl⟩ | rfl)
      · exact ⟨u, .inl hu, hrep, rfl⟩
      · exact ⟨username, .inr rfl, hreported, rfl⟩
  · have hnone : scopeOf D.unicode (mentionOf username "") = none := by
      rw [← Option.not_isSome_iff_eq_none, scopeOf_isSome]
      rintro ⟨u, hu, hscope⟩
      obtain rfl := Option.some.inj (hmention.symm.trans hu)
      rcases hscope with hscope | hscope
      · exact hreserved (hscope ▸ by decide)
      · exact hreserved (hscope ▸ by decide)
    have hscope : ∀ s, mentionScope D.unicode s =
        (splitWhitespace s).findSome? (scopeOf D.unicode) := fun _ => rfl
    rw [hscope, hscope, hsplit, List.findSome?_append, List.findSome?_cons, hnone,
      List.findSome?_nil, Option.or_none]

/-- A draft with another mention and a scope, and a character of the name. -/
theorem completed_mentions_ping :
    (∀ name, name ∈ extractMentionedUsernames unicode15Plain.unicode "ping @bob @here @alice"
          "author" ↔
        name ∈ extractMentionedUsernames unicode15Plain.unicode (context " ping @bob @here @a")
            "author" ∨ name = unicode15Plain.lowercase "alice") ∧
      mentionScope unicode15Plain.unicode "ping @bob @here @alice" =
        mentionScope unicode15Plain.unicode (context " ping @bob @here @a") := by
  have hlast : (context " ping @bob @here @a").toList.getLast? = some ' ' := by decide +kernel
  refine @completed_mentions unicode15Plain " ping @bob @here @a" "alice" "author" _
    (by decide +kernel) (fun c hc => ?_) (by decide +kernel) (by decide +kernel)
    (by decide +kernel) (by decide +kernel)
  obtain rfl := Option.some.inj (hlast.symm.trans hc)
  decide

end Vussa.Completion
