import Vussa.Messages.Mentions
import Vussa.Model.Names

/-!
The users a message can mention. `validate_username` (`api/account.rs`) admits the letters and
numbers of all alphabets; `extract_mentioned_usernames` (`api/notifications.rs`) trims a token by
the letters and digits of ASCII.

* `Mentionable`: a name, in the way it is written, is mentioned by every text with its token;
* `AsciiEnds`: the condition on the written name;
* `mentionToken_token`: the name between `@` and the punctuation;
* `eq_of_lowercase_trim`: a name that trimming shortens has another lower case;
* `mentionable_iff`: **which written names are mentioned**.
-/

namespace Vussa

variable {D : CharacterData} {username written tail actor : String}

/-! ### The token -/

/-- `char::is_ascii_punctuation`. -/
def isAsciiPunctuation (c : Char) : Bool :=
  let n := c.toNat
  (0x21 ≤ n && n ≤ 0x2F) || (0x3A ≤ n && n ≤ 0x40) || (0x5B ≤ n && n ≤ 0x60) ||
    (0x7B ≤ n && n ≤ 0x7E)

/-- The characters a mention is trimmed by: all but the letters and digits of ASCII, `_` and `-`. -/
def isMentionTrim (c : Char) : Bool := !isAsciiAlphanumeric c && c != '_' && c != '-'

/-- Punctuation that may follow a mention: that of ASCII, other than `_` and `-`. -/
def IsTail (tail : String) : Prop :=
  ∀ c ∈ tail.toList, isAsciiPunctuation c ∧ c ≠ '_' ∧ c ≠ '-'

instance (tail : String) : Decidable (IsTail tail) := List.decidableBAll _ tail.toList

/-- The token of a mention. -/
def mentionOf (written tail : String) : String := "@" ++ (written ++ tail)

/-- Every text with the token of the written name mentions the user. -/
def Mentionable (U : Unicode) (username written tail actor : String) : Prop :=
  ∀ text, mentionOf written tail ∈ splitWhitespace text →
    U.toLowercase username ∈ extractMentionedUsernames U text actor

/-- The written name begins and ends with a letter or digit of ASCII, `_` or `-`, and takes at most
64 bytes. -/
structure AsciiEnds (written : String) : Prop where
  first : ∀ c ∈ written.toList.head?, isMentionTrim c = false
  last : ∀ c ∈ written.toList.getLast?, isMentionTrim c = false
  bytes : written.utf8ByteSize ≤ 64

instance (written : String) : Decidable (AsciiEnds written) :=
  letI : ∀ o : Option Char, Decidable (∀ c ∈ o, isMentionTrim c = false) :=
    fun o => Option.decidableForallMem o
  decidable_of_iff ((∀ c ∈ written.toList.head?, isMentionTrim c = false) ∧
      (∀ c ∈ written.toList.getLast?, isMentionTrim c = false) ∧ written.utf8ByteSize ≤ 64)
    ⟨fun h => ⟨h.1, h.2.1, h.2.2⟩, fun h => ⟨h.first, h.last, h.bytes⟩⟩

/-- The tail is trimmed. -/
lemma IsTail.trimmed (h : IsTail tail) : ∀ c ∈ tail.toList, isMentionTrim c := by
  intro c hc
  obtain ⟨hpunctuation, hunderscore, hdash⟩ := h c hc
  have hother : isAsciiAlphanumeric c = false := by
    simp only [isAsciiPunctuation, Bool.or_eq_true, Bool.and_eq_true, decide_eq_true_eq]
      at hpunctuation
    rw [Bool.eq_false_iff]
    simp only [isAsciiAlphanumeric, ne_eq, Bool.or_eq_true, Bool.and_eq_true, decide_eq_true_eq]
    omega
  simp [isMentionTrim, hother, hunderscore, hdash]

lemma IsTail.not_whitespace (h : IsTail tail) : ∀ c ∈ tail.toList, isWhitespace c = false := by
  intro c hc
  have hpunctuation := (h c hc).1
  simp only [isAsciiPunctuation, Bool.or_eq_true, Bool.and_eq_true, decide_eq_true_eq]
    at hpunctuation
  rw [Bool.eq_false_iff]
  simp only [isWhitespace, ne_eq, Bool.or_eq_true, Bool.and_eq_true, decide_eq_true_eq, beq_iff_eq]
  omega

lemma toList_mentionOf (written tail : String) :
    (mentionOf written tail).toList = '@' :: (written.toList ++ tail.toList) := by
  rw [mentionOf, String.toList_append, String.toList_append]
  rfl

/-- The name read from the token. -/
lemma mentionToken_mentionOf (written tail : String) :
    mentionToken (mentionOf written tail) = some (trimMatches isMentionTrim (written ++ tail)) := by
  have hat : stripAt (mentionOf written tail) = some (written ++ tail) := by
    rw [stripAt, toList_mentionOf, ← String.toList_append]
    exact congrArg some String.ofList_toList
  rw [mentionToken, hat]
  rfl

/-- A name that begins and ends as a mention does is read as it is written. -/
lemma mentionToken_token (htail : IsTail tail) (hends : AsciiEnds written) :
    mentionToken (mentionOf written tail) = some written := by
  rw [mentionToken_mentionOf]
  have htrim := trimMatches_eq (p := isMentionTrim) (s := written ++ tail) (a := [])
    (m := written.toList) (b := tail.toList) (by simp) (by simp) htail.trimmed hends.first hends.last
  rw [htrim, String.ofList_toList]

/-! ### Names that trimming shortens -/

/-- Trimming a name and its tail leaves a part of the name. -/
lemma exists_trim_written (htail : IsTail tail)
    (hne : trimMatches isMentionTrim (written ++ tail) ≠ "") :
    ∃ a b, written.toList = a ++ ((trimMatches isMentionTrim (written ++ tail)).toList ++ b) := by
  obtain ⟨a, b, hsplit, -, -⟩ := exists_trimMatches isMentionTrim (written ++ tail)
  set middle := trimMatches isMentionTrim (written ++ tail) with hmiddle
  rw [String.toList_append, ← List.append_assoc] at hsplit
  rcases List.append_eq_append_iff.mp hsplit with ⟨c, hac, htl⟩ | ⟨c, hwritten, -⟩
  · -- the middle would reach into the tail, and end with a trimmed character
    cases c with
    | nil => exact ⟨a, [], by rw [List.append_nil, ← List.append_nil written.toList, ← hac]⟩
    | cons d rest =>
        have hmiddle : middle.toList ≠ [] := fun hnil => hne (String.toList_eq_nil_iff.mp hnil)
        have hlast := congrArg List.getLast? hac
        rw [List.getLast?_append_of_ne_nil _ hmiddle,
          List.getLast?_append_of_ne_nil _ (List.cons_ne_nil d rest)] at hlast
        cases he : (d :: rest).getLast? with
        | none => exact absurd (List.getLast?_eq_none_iff.mp he) (List.cons_ne_nil d rest)
        | some e =>
            have hkept : isMentionTrim e = false := getLast?_trimMatches (hlast.trans he)
            have htrimmed : isMentionTrim e :=
              htail.trimmed e (htl ▸ List.mem_append_left _ (List.mem_of_getLast? he))
            exact absurd htrimmed (by simp [hkept])
  · exact ⟨a, c, by rw [hwritten, List.append_assoc]⟩

/-- A part of a text with a lower case of the same length is the whole text. -/
lemma eq_of_lowercase_eq {part : String} {a b : List Char}
    (hsplit : written.toList = a ++ (part.toList ++ b))
    (heq : D.lowercase part = D.lowercase written) : part = written := by
  have hlen := congrArg (fun s : String => s.toList.length) heq
  simp only [D.length_lowercase, hsplit, List.map_append, List.sum_append] at hlen
  have hnil : ∀ l : List Char, (l.map fun c => (D.lower c).length).sum = 0 → l = [] := by
    intro l hl
    cases l with
    | nil => rfl
    | cons c rest =>
        have hpos := List.length_pos_of_ne_nil (D.lower_ne_nil c)
        rw [List.map_cons, List.sum_cons] at hl
        omega
  rw [hnil a (by omega), hnil b (by omega), List.nil_append, List.append_nil] at hsplit
  exact (String.toList_inj.mp hsplit).symm

/-! ### The mention -/

/-- A word is the only token of its text. -/
lemma splitWhitespace_word {word : String} (hne : word ≠ "")
    (h : ∀ c ∈ word.toList, isWhitespace c = false) : splitWhitespace word = [word] := by
  have hword : word.toList ≠ [] := fun hnil => hne (String.toList_eq_nil_iff.mp hnil)
  have hone : word.toList.splitOnP isWhitespace = [word.toList] :=
    List.splitOnP_eq_singleton (fun c hc => by simp [h c hc])
  rw [splitWhitespace, hone]
  simp [hword]

/-- The way a user name is written has no white space, which the lower case would keep. -/
lemma not_whitespace_written (hchars : ∀ c ∈ username.toList, D.unicode.isNameChar c)
    (hwritten : D.lowercase written = D.lowercase username) :
    ∀ c ∈ written.toList, isWhitespace c = false := by
  intro c hc
  by_contra hspace
  rw [Bool.not_eq_false] at hspace
  have hne : c ≠ 'Σ' := by
    rintro rfl
    exact absurd hspace (by decide)
  have hmem : c ∈ (D.lowercase username).toList := by
    rw [← hwritten, D.toList_lowercase]
    refine D.mem_lowerFrom_of_mem hc hne ?_
    rw [D.lower_whitespace c hspace]
    exact List.mem_singleton_self c
  rcases D.isNameChar_lowercase hchars hmem with hname | ⟨-, rfl⟩
  · rw [D.isWhitespace_nameChar hname] at hspace
    exact absurd hspace (by decide)
  · exact absurd hspace (by decide)

/-- A scope is no user name, in whatever way it is written. -/
lemma ne_scope_of_valid (hreserved : D.lowercase username ∉ reservedUsernames)
    (hwritten : D.lowercase written = D.lowercase username) :
    written ≠ "channel" ∧ written ≠ "here" := by
  have hlower : ∀ scope ∈ ["channel", "here"],
      scope.toList.all fun c => c.toNat < 128 ∧ c.toLower = c := by decide
  have hascii : ∀ scope ∈ ["channel", "here"], D.lowercase scope = scope := by
    intro scope hscope
    refine D.lowercase_eq_self fun c hc => ?_
    obtain ⟨hlt, hfolded⟩ := of_decide_eq_true (List.all_eq_true.mp (hlower scope hscope) c hc)
    rw [D.ascii_lower c hlt, hfolded]
  rw [← hwritten] at hreserved
  constructor
  · rintro rfl
    exact hreserved (by rw [hascii _ (by simp)]; simp [reservedUsernames])
  · rintro rfl
    exact hreserved (by rw [hascii _ (by simp)]; simp [reservedUsernames])

/-- **Who can be mentioned**: a registered name is mentioned by every text with its token, in the
way it is written, exactly if it is written with a letter or digit of ASCII, `_` or `-` at both ends
and in at most 64 bytes. -/
theorem mentionable_iff (D : CharacterData) {username written tail actor : String}
    (hvalid : validateUsername D.unicode username = .ok ⟨⟩)
    (hwritten : D.lowercase written = D.lowercase username) (htail : IsTail tail)
    (hactor : D.lowercase username ≠ D.lowercase actor) :
    Mentionable D.unicode username written tail actor ↔ AsciiEnds written := by
  obtain ⟨htwo, -, hchars, hreserved⟩ := validateUsername_eq_ok_iff.mp hvalid
  have hne : written ≠ "" := by
    rintro rfl
    have hempty : D.lowercase username = "" := hwritten.symm.trans (by rfl)
    rw [D.lowercase_eq_empty hempty] at htwo
    exact absurd htwo (by decide)
  constructor
  · intro h
    -- the token as the whole text
    have htoken : splitWhitespace (mentionOf written tail) = [mentionOf written tail] := by
      refine splitWhitespace_word (fun hnil => ?_) fun c hc => ?_
      · have hcons := toList_mentionOf written tail
        rw [hnil] at hcons
        exact absurd hcons (by simp)
      · rw [toList_mentionOf, List.mem_cons, List.mem_append] at hc
        rcases hc with rfl | hc | hc
        · rfl
        · exact not_whitespace_written hchars hwritten c hc
        · exact htail.not_whitespace c hc
    have hmem := h (mentionOf written tail) (by rw [htoken]; exact List.mem_singleton_self _)
    obtain ⟨part, hpart, hreported, heq⟩ := mem_extractMentionedUsernames.mp hmem
    rw [mentioned, htoken, List.filterMap_cons, mentionToken_mentionOf] at hpart
    obtain rfl := List.mem_singleton.mp hpart
    obtain ⟨a, b, hsplit⟩ := exists_trim_written htail hreported.1
    have hwhole := eq_of_lowercase_eq hsplit (heq.trans hwritten.symm)
    refine ⟨?_, ?_, ?_⟩
    · rw [← hwhole]
      exact fun c hc => head?_trimMatches hc
    · rw [← hwhole]
      exact fun c hc => getLast?_trimMatches hc
    · rw [← hwhole]
      exact hreported.2.1
  · intro hends text htoken
    obtain ⟨hchannel, hhere⟩ := ne_scope_of_valid hreserved hwritten
    refine mem_extractMentionedUsernames.mpr ⟨written, ?_, ?_, hwritten⟩
    · exact List.mem_filterMap.mpr ⟨_, htoken, mentionToken_token htail hends⟩
    · exact ⟨hne, hends.bytes, hchannel, hhere, fun heq => hactor (hwritten.symm.trans heq)⟩

/-- A name of ASCII letters. -/
theorem mentionable_alice : Mentionable unicode15Plain.unicode "alice" "Alice" "!" "author" :=
  (mentionable_iff unicode15Plain (by decide +kernel) (by decide +kernel) (by decide +kernel)
    (by decide +kernel)).mpr (by decide +kernel)

/-- A registered name that begins with another letter is mentioned under what is left of it. -/
theorem not_mentionable_accent :
    validateUsername unicode15Plain.unicode "éva" = .ok ⟨⟩ ∧
      mentionOf "éva" "" ∈ splitWhitespace "@éva" ∧
      unicode15Plain.unicode.toLowercase "éva" ≠
        unicode15Plain.unicode.toLowercase "author" ∧
      extractMentionedUsernames unicode15Plain.unicode "@éva" "author" = ["va"] ∧
      ¬ Mentionable unicode15Plain.unicode "éva" "éva" "" "author" := by
  refine ⟨by decide +kernel, by decide +kernel, by decide +kernel, by decide +kernel, fun h => ?_⟩
  exact absurd (h "@éva" (by decide +kernel)) (by decide +kernel)

end Vussa
