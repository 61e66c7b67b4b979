import Vussa.Model.Characters
import Mathlib.Data.List.TakeWhile

/-!
The names of channels and of users: what `normalize_channel_name` and `validate_username` accept,
and what the lower case does to it.

* `trimMatches_eq`, `exists_trimMatches`, `head?_trimMatches`, `getLast?_trimMatches`: the text between
  the trimmed characters;
* `Unicode.isNameChar`: letters, numbers, `-` and `_`;
* `normalizeChannelName_eq_ok_iff`, `validateUsername_eq_ok_iff`: the accepted names;
* `isNameChar_lowercase`: the lower case of a name is made of name characters but for the dot that
  `U+0130` leaves.
-/

namespace Vussa

/-! ### Trimming -/

section Trimming

variable {p : Char → Bool} {s : String}

/-- The text between trimmed characters, if it neither begins nor ends with one. -/
lemma trimMatches_eq {a m b : List Char} (hs : s.toList = a ++ (m ++ b)) (ha : ∀ c ∈ a, p c)
    (hb : ∀ c ∈ b, p c) (hhead : ∀ c ∈ m.head?, p c = false)
    (hlast : ∀ c ∈ m.getLast?, p c = false) : trimMatches p s = String.ofList m := by
  rw [trimMatches, hs, List.dropWhile_append_of_pos ha]
  cases m with
  | nil =>
      rw [List.nil_append, List.dropWhile_eq_nil_iff.mpr hb]
      rfl
  | cons c rest =>
      have hfront : ((c :: rest) ++ b).dropWhile p = (c :: rest) ++ b :=
        List.dropWhile_cons_of_neg (by simp [hhead c rfl])
      have hback : ∀ d ∈ b.reverse, p d := fun d hd => hb d (List.mem_reverse.mp hd)
      rw [hfront, List.reverse_append, List.dropWhile_append_of_pos hback]
      cases hrev : (c :: rest).reverse with
      | nil => exact absurd (List.reverse_eq_nil_iff.mp hrev) (List.cons_ne_nil _ _)
      | cons d rest' =>
          have hd : p d = false := by
            refine hlast d ?_
            rw [← List.head?_reverse, hrev]
            rfl
          rw [List.dropWhile_cons_of_neg (by simp [hd]), ← hrev, List.reverse_reverse]

/-- A text without a trimmed character. -/
lemma trimMatches_eq_self (h : ∀ c ∈ s.toList, p c = false) : trimMatches p s = s := by
  have heq := trimMatches_eq (p := p) (s := s) (a := []) (m := s.toList) (b := []) (by simp)
    (by simp) (by simp) (fun c hc => h c (List.mem_of_head? hc))
    (fun c hc => h c (List.mem_of_getLast? hc))
  rwa [String.ofList_toList] at heq

/-- Trimming cuts off trimmed characters at both ends. -/
lemma exists_trimMatches (p : Char → Bool) (s : String) :
    ∃ a b, s.toList = a ++ ((trimMatches p s).toList ++ b) ∧ (∀ c ∈ a, p c) ∧ ∀ c ∈ b, p c := by
  refine ⟨s.toList.takeWhile p,
    ((s.toList.dropWhile p).reverse.takeWhile p).reverse, ?_, ?_, ?_⟩
  · rw [trimMatches, String.toList_ofList, ← List.reverse_append, List.takeWhile_append_dropWhile,
      List.reverse_reverse, List.takeWhile_append_dropWhile]
  · exact fun c hc => List.mem_takeWhile_imp hc
  · exact fun c hc => List.mem_takeWhile_imp (List.mem_reverse.mp hc)

/-- A trimmed text does not end with a trimmed character. -/
lemma getLast?_trimMatches {c : Char} (hc : c ∈ (trimMatches p s).toList.getLast?) :
    p c = false := by
  rw [trimMatches, String.toList_ofList, List.getLast?_reverse] at hc
  have hnot := List.head?_dropWhile_not p (s.toList.dropWhile p).reverse
  rw [Option.mem_def.mp hc] at hnot
  exact hnot

/-- A trimmed text does not begin with a trimmed character. -/
lemma head?_trimMatches {c : Char} (hc : c ∈ (trimMatches p s).toList.head?) : p c = false := by
  rw [trimMatches, String.toList_ofList] at hc
  -- what is left is the beginning of the text without its first trimmed characters
  have hsplit := List.takeWhile_append_dropWhile (p := p) (l := (s.toList.dropWhile p).reverse)
  have hfront := congrArg List.reverse hsplit
  rw [List.reverse_append, List.reverse_reverse] at hfront
  have hhead : c ∈ (s.toList.dropWhile p).head? := by
    rw [← hfront]
    exact List.mem_head?_append_of_mem_head? hc
  have hnot := List.head?_dropWhile_not p s.toList
  rw [Option.mem_def.mp hhead] at hnot
  exact hnot

end Trimming

/-! ### Names -/

/-- A character of a name. -/
def Unicode.isNameChar (U : Unicode) (c : Char) : Bool :=
  U.isAlphanumeric c || c == '-' || c == '_'

/-- The names `normalize_channel_name` accepts. -/
lemma normalizeChannelName_eq_ok_iff {U : Unicode} {raw name : String} :
    normalizeChannelName U raw = .ok name ↔
      trim raw ≠ "" ∧ (trim raw).utf8ByteSize ≤ 40 ∧ trim raw ≠ mainChannel ∧
        (∀ c ∈ (trim raw).toList, U.isNameChar c) ∧ U.toLowercase (trim raw) = name := by
  rw [normalizeChannelName]
  split_ifs with hlen hchars
  · refine iff_of_false (by simp) ?_
    rintro ⟨hne, hle, -⟩
    exact hlen.elim hne (not_lt.mpr hle)
  · refine iff_of_false (by simp) ?_
    rintro ⟨-, -, hmain, hall, -⟩
    exact hchars.elim hmain fun hnot => hnot (List.all_eq_true.mpr hall)
  · rw [not_or, not_lt] at hlen
    rw [not_or, not_not, List.all_eq_true] at hchars
    rw [Except.ok.injEq]
    exact ⟨fun h => ⟨hlen.1, hlen.2, hchars.1, hchars.2, h⟩, fun h => h.2.2.2.2⟩

/-- The names `validate_username` accepts. -/
lemma validateUsername_eq_ok_iff {U : Unicode} {username : String} :
    validateUsername U username = .ok ⟨⟩ ↔
      2 ≤ username.utf8ByteSize ∧ username.utf8ByteSize ≤ 40 ∧
        (∀ c ∈ username.toList, U.isNameChar c) ∧ U.toLowercase username ∉ reservedUsernames := by
  have hswap : (username.toList.all fun c => U.isAlphanumeric c || c == '_' || c == '-') =
      username.toList.all U.isNameChar :=
    congrArg _ (funext fun c => Bool.or_right_comm _ _ _)
  rw [validateUsername, hswap]
  split_ifs with hchars hreserved
  · refine iff_of_false (by simp) ?_
    rintro ⟨htwo, hforty, hall, -⟩
    rcases hchars with h | h | h
    · omega
    · omega
    · exact h (List.all_eq_true.mpr hall)
  · exact iff_of_false (by simp) fun h => h.2.2.2 hreserved
  · rw [not_or, not_or, not_lt, not_lt, not_not, List.all_eq_true] at hchars
    exact iff_of_true rfl ⟨hchars.1, hchars.2.1, hchars.2.2, hreserved⟩

/-! ### The lower case of names -/

namespace CharacterData

variable (D : CharacterData)

lemma isNameChar_iff {c : Char} :
    D.unicode.isNameChar c ↔ D.isAlphanumeric c ∨ c = '-' ∨ c = '_' := by
  simp [Unicode.isNameChar, or_assoc]

lemma isWhitespace_nameChar {c : Char} (h : D.unicode.isNameChar c) : isWhitespace c = false := by
  rcases D.isNameChar_iff.mp h with h | rfl | rfl
  · exact D.not_whitespace c h
  · rfl
  · rfl

/-- The lower case of a name character. -/
lemma isNameChar_lower {c d : Char} (hc : D.unicode.isNameChar c) (hd : d ∈ D.lower c) :
    D.unicode.isNameChar d ∨ (c = dottedCapitalI ∧ d = combiningDot) := by
  rcases D.isNameChar_iff.mp hc with hc | rfl | rfl
  · by_cases hne : c = dottedCapitalI
    · rw [hne, D.lower_dottedCapitalI, List.mem_cons, List.mem_singleton] at hd
      rcases hd with rfl | rfl
      · refine .inl (D.isNameChar_iff.mpr (.inl ?_))
        rw [D.ascii_alphanumeric 'i' (by decide)]
        rfl
      · exact .inr ⟨hne, rfl⟩
    · exact .inl (D.isNameChar_iff.mpr (.inl (D.lower_alphanumeric c hne hc d hd)))
  · rw [D.ascii_lower '-' (by decide), List.mem_singleton] at hd
    exact .inl (D.isNameChar_iff.mpr (.inr (.inl hd)))
  · rw [D.ascii_lower '_' (by decide), List.mem_singleton] at hd
    exact .inl (D.isNameChar_iff.mpr (.inr (.inr hd)))

/-- The characters of the lower case of a name. -/
lemma isNameChar_lowercase {name : String} (hname : ∀ c ∈ name.toList, D.unicode.isNameChar c)
    {d : Char} (hd : d ∈ (D.lowercase name).toList) :
    D.unicode.isNameChar d ∨ (dottedCapitalI ∈ name.toList ∧ d = combiningDot) := by
  rw [toList_lowercase] at hd
  obtain ⟨c, hc, hd | ⟨-, rfl⟩⟩ := D.mem_lowerFrom hd
  · refine (D.isNameChar_lower (hname c hc) hd).imp_right ?_
    rintro ⟨rfl, rfl⟩
    exact ⟨hc, rfl⟩
  · exact .inl (D.isNameChar_iff.mpr (.inl D.finalSigma_alphanumeric))

lemma isWhitespace_combiningDot : isWhitespace combiningDot = false := by decide

/-- The lower case of a name has nothing to trim. -/
lemma trim_lowercase {name : String} (hname : ∀ c ∈ name.toList, D.unicode.isNameChar c) :
    trim (D.lowercase name) = D.lowercase name := by
  refine trimMatches_eq_self fun d hd => ?_
  rcases D.isNameChar_lowercase hname hd with hd | ⟨-, rfl⟩
  · exact D.isWhitespace_nameChar hd
  · exact isWhitespace_combiningDot

end CharacterData

end Vussa
