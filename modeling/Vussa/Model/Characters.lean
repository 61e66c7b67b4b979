import Vussa.Lib.UnicodeTables
import Vussa.Model.Text

/-!
The two functions that `Unicode` leaves open, `char::is_alphanumeric` and `str::to_lowercase` of
Rust's standard library, over the data the Unicode standard has for each character.

* `CharacterData`: the data, with the rules of the standard that hold in every version of it;
* `CharacterData.lowercase`: `str::to_lowercase`, character by character but for the final sigma;
* `CharacterData.unicode`: both functions as the parameter of the text functions;
* `length_lowercase`, `utf8ByteSize_lowercase`, `mem_lowercase`, `lowercase_eq_self`: the lower case
  of a text by that of its characters;
* `unicode15`: **the data of version 15.0**.
-/

namespace Vussa

open CodePoints

/-- `U+0130`, the one letter whose lower case is more than letters. -/
def dottedCapitalI : Char := Char.ofNat 0x130

/-- `U+0307`, the combining dot above. -/
def combiningDot : Char := Char.ofNat 0x307

/-- What the standard library knows of a character: whether it is a letter or a number, its lower
case by itself, and the two properties that decide on the form of a sigma. -/
structure CharacterData where
  isAlphanumeric : Char → Bool
  lower : Char → List Char
  isCased : Char → Bool
  isCaseIgnorable : Char → Bool
  ascii_alphanumeric : ∀ c, c.toNat < 128 → isAlphanumeric c = isAsciiAlphanumeric c
  ascii_lower : ∀ c, c.toNat < 128 → lower c = [c.toLower]
  not_whitespace : ∀ c, isAlphanumeric c → isWhitespace c = false
  lower_whitespace : ∀ c, isWhitespace c → lower c = [c]
  lower_ne_nil : ∀ c, lower c ≠ []
  lower_lower : ∀ c, ∀ d ∈ lower c, lower d = [d]
  lower_alphanumeric : ∀ c, c ≠ dottedCapitalI → isAlphanumeric c →
    ∀ d ∈ lower c, isAlphanumeric d
  lower_dottedCapitalI : lower dottedCapitalI = ['i', combiningDot]
  combiningDot_alphanumeric : isAlphanumeric combiningDot = false
  lower_sigma : lower 'Σ' = ['σ']
  lower_finalSigma : lower 'ς' = ['ς']
  finalSigma_alphanumeric : isAlphanumeric 'ς'

namespace CharacterData

/-- `case_ignorable_then_cased`. -/
def ignorableThenCased (D : CharacterData) (cs : List Char) : Bool :=
  (cs.dropWhile D.isCaseIgnorable).head?.any D.isCased

/-- `map_uppercase_sigma`, with the characters before the sigma from the last to the first. -/
def sigma (D : CharacterData) (before after : List Char) : Char :=
  if D.ignorableThenCased before && !D.ignorableThenCased after then 'ς' else 'σ'

/-- The lower case of the rest of a text. -/
def lowerFrom (D : CharacterData) : List Char → List Char → List Char
  | _, [] => []
  | before, c :: rest =>
      (if c = 'Σ' then [D.sigma before rest] else D.lower c) ++ D.lowerFrom (c :: before) rest

/-- `str::to_lowercase`. -/
def lowercase (D : CharacterData) (s : String) : String := String.ofList (D.lowerFrom [] s.toList)

/-- The tables of the text functions. -/
def unicode (D : CharacterData) : Unicode where
  isAlphanumeric := D.isAlphanumeric
  toLowercase := D.lowercase

variable (D : CharacterData)

@[simp] lemma unicode_toLowercase (s : String) : D.unicode.toLowercase s = D.lowercase s := rfl

@[simp] lemma unicode_isAlphanumeric (c : Char) :
    D.unicode.isAlphanumeric c = D.isAlphanumeric c := rfl

@[simp] lemma toList_lowercase (s : String) :
    (D.lowercase s).toList = D.lowerFrom [] s.toList := String.toList_ofList

lemma sigma_cases (before after : List Char) :
    D.sigma before after = 'ς' ∨ D.sigma before after = 'σ' := by
  rw [sigma]
  split
  · exact .inl rfl
  · exact .inr rfl

/-! ### The lower case of a text -/

/-- The characters of a lower case come from the characters of the text. -/
lemma mem_lowerFrom {before l : List Char} {d : Char} (h : d ∈ D.lowerFrom before l) :
    ∃ c ∈ l, d ∈ D.lower c ∨ (c = 'Σ' ∧ d = 'ς') := by
  induction l generalizing before with
  | nil => exact absurd h List.not_mem_nil
  | cons c rest ih =>
      rw [lowerFrom, List.mem_append] at h
      rcases h with h | h
      · refine ⟨c, List.mem_cons_self, ?_⟩
        split at h
        · next hc =>
          rw [List.mem_singleton] at h
          rcases D.sigma_cases before rest with hs | hs
          · exact .inr ⟨hc, h.trans hs⟩
          · refine .inl ?_
            rw [hc, D.lower_sigma, h, hs]
            exact List.mem_singleton_self _
        · exact .inl h
      · obtain ⟨c', hc', hd⟩ := ih h
        exact ⟨c', List.mem_cons_of_mem _ hc', hd⟩

/-- Every character but a sigma leaves its lower case. -/
lemma mem_lowerFrom_of_mem {before l : List Char} {c d : Char} (hc : c ∈ l) (hne : c ≠ 'Σ')
    (hd : d ∈ D.lower c) : d ∈ D.lowerFrom before l := by
  induction l generalizing before with
  | nil => exact absurd hc List.not_mem_nil
  | cons c' rest ih =>
      rw [lowerFrom, List.mem_append]
      rcases List.mem_cons.mp hc with rfl | hc
      · rw [if_neg hne]
        exact .inl hd
      · exact .inr (ih hc)

/-- A quantity of characters that both forms of the sigma share adds up to the lower cases of the
characters. -/
lemma sum_lowerFrom {f : Char → ℕ} (hf : f 'ς' = f 'σ') (before l : List Char) :
    ((D.lowerFrom before l).map f).sum = (l.map fun c => ((D.lower c).map f).sum).sum := by
  induction l generalizing before with
  | nil => rfl
  | cons c rest ih =>
      rw [lowerFrom, List.map_append, List.sum_append, List.map_cons, List.sum_cons, ih]
      congr 1
      split
      · next hc =>
        rw [hc, D.lower_sigma]
        rcases D.sigma_cases before rest with hs | hs
        · simp [hs, hf]
        · simp [hs]
      · rfl

/-- How many characters a lower case has. -/
lemma length_lowercase (s : String) :
    (D.lowercase s).toList.length = (s.toList.map fun c => (D.lower c).length).sum := by
  have hsum := D.sum_lowerFrom (f := fun _ => 1) rfl [] s.toList
  simpa using hsum

/-- The bytes of a text are those of its characters. -/
lemma utf8ByteSize_ofList (l : List Char) :
    (String.ofList l).utf8ByteSize = (l.map Char.utf8Size).sum := by
  induction l with
  | nil => rfl
  | cons c l ih =>
      rw [String.ofList_cons, String.utf8ByteSize_append, String.utf8ByteSize_singleton, ih,
        List.map_cons, List.sum_cons]

/-- How many bytes a lower case has. -/
lemma utf8ByteSize_lowercase (s : String) :
    (D.lowercase s).utf8ByteSize
      = (s.toList.map fun c => ((D.lower c).map Char.utf8Size).sum).sum := by
  rw [lowercase, utf8ByteSize_ofList]
  exact D.sum_lowerFrom (by decide) [] s.toList

/-- A text of characters that are their own lower case. -/
lemma lowerFrom_eq_self {before l : List Char} (h : ∀ c ∈ l, D.lower c = [c]) :
    D.lowerFrom before l = l := by
  induction l generalizing before with
  | nil => rfl
  | cons c rest ih =>
      have hne : c ≠ 'Σ' := by
        rintro rfl
        have hself := h 'Σ' List.mem_cons_self
        rw [D.lower_sigma] at hself
        exact absurd hself (by decide)
      rw [lowerFrom, if_neg hne, h c List.mem_cons_self,
        ih fun c' hc' => h c' (List.mem_cons_of_mem _ hc')]
      rfl

lemma lowercase_eq_self {s : String} (h : ∀ c ∈ s.toList, D.lower c = [c]) :
    D.lowercase s = s := by
  rw [lowercase, D.lowerFrom_eq_self h, String.ofList_toList]

/-- The characters of a lower case are their own lower case. -/
lemma lower_of_mem_lowercase {s : String} {d : Char} (h : d ∈ (D.lowercase s).toList) :
    D.lower d = [d] := by
  rw [toList_lowercase] at h
  obtain ⟨c, -, hd | ⟨-, rfl⟩⟩ := D.mem_lowerFrom h
  · exact D.lower_lower c d hd
  · exact D.lower_finalSigma

/-- The lower case is its own lower case. -/
lemma lowercase_lowercase (s : String) : D.lowercase (D.lowercase s) = D.lowercase s :=
  D.lowercase_eq_self fun _ hd => D.lower_of_mem_lowercase hd

lemma lowercase_eq_empty {s : String} (h : D.lowercase s = "") : s = "" := by
  have hlen := D.length_lowercase s
  rw [h] at hlen
  cases hs : s.toList with
  | nil => exact String.toList_eq_nil_iff.mp hs
  | cons c rest =>
      have hpos := List.length_pos_of_ne_nil (D.lower_ne_nil c)
      rw [hs, List.map_cons, List.sum_cons, String.toList_empty, List.length_nil] at hlen
      omega

end CharacterData

/-! ### Version 15.0 -/

/-- `lower` by the tables: the simple mapping, and the dot of `U+0130` from `SpecialCasing`. -/
def tableLower (c : Char) : List Char :=
  Char.ofNat (shift simpleLowercase c.toNat) :: if c = dottedCapitalI then [combiningDot] else []

lemma isWhitespace_eq_member (c : Char) : isWhitespace c = member whiteSpace c.toNat := by
  rw [Bool.eq_iff_iff]
  simp only [isWhitespace, member, whiteSpace, List.any_cons, List.any_nil, Bool.or_eq_true,
    Bool.and_eq_true, decide_eq_true_eq, beq_iff_eq, Nat.ble_eq, Bool.false_eq_true, or_false]
  omega

/-- A mapped character is a character. -/
lemma toNat_shift (c : Char) :
    (Char.ofNat (shift simpleLowercase c.toNat)).toNat = shift simpleLowercase c.toNat := by
  have hvalid : (shift simpleLowercase c.toNat).isValidChar := by
    rcases shift_cases simpleLowercase c.toNat with ⟨s, hs, hmoves, heq⟩ | ⟨-, heq⟩
    · rw [heq]
      exact isValidChar_of_member
        (member_of_within checked.scalar (apply_mem checked.into hs hmoves))
    · rw [heq]
      exact c.valid
  rw [Char.ofNat, dif_pos hvalid]
  rfl

/-- A fixed character that is not `U+0130`. -/
lemma tableLower_eq_self {c : Char} (h : shift simpleLowercase c.toNat = c.toNat) :
    tableLower c = [c] := by
  have hne : c ≠ dottedCapitalI := by
    rintro rfl
    exact absurd h (by decide +kernel)
  rw [tableLower, if_neg hne, h, Char.ofNat_toNat]

lemma member_ascii {c : Char} (hc : c.toNat < 128) :
    member alphanumeric c.toNat = isAsciiAlphanumeric c := by
  rw [Bool.eq_iff_iff]
  simp only [isAsciiAlphanumeric, Bool.or_eq_true, Bool.and_eq_true, decide_eq_true_eq]
  constructor
  · intro h
    have hother := not_member_of_apart checked.other h
    simp only [member, asciiOther, List.any_cons, List.any_nil, Bool.or_eq_true, Bool.and_eq_true,
      Nat.ble_eq, Bool.false_eq_true, or_false] at hother
    omega
  · intro h
    refine member_of_within checked.within ?_
    simp only [member, asciiAlphanumeric, List.any_cons, List.any_nil, Bool.or_eq_true,
      Bool.and_eq_true, Nat.ble_eq, Bool.false_eq_true, or_false]
    omega

lemma toLower_ascii : ∀ n < 128, (Char.ofNat n).toLower =
    Char.ofNat (if 0x41 ≤ n ∧ n ≤ 0x5A then 0x61 + (n - 0x41) else n) := by
  decide +kernel

lemma tableLower_ascii (c : Char) (hc : c.toNat < 128) : tableLower c = [c.toLower] := by
  have hlower := toLower_ascii c.toNat hc
  rw [Char.ofNat_toNat] at hlower
  by_cases hcapital : 0x41 ≤ c.toNat ∧ c.toNat ≤ 0x5A
  · have hne : c ≠ dottedCapitalI := by
      rintro rfl
      exact absurd hc (by decide)
    have hshift := checked.capital (c.toNat - 0x41) (by omega)
    rw [Nat.add_sub_cancel' hcapital.1] at hshift
    rw [tableLower, if_neg hne, hshift, hlower, if_pos hcapital]
  · rw [if_neg hcapital, Char.ofNat_toNat] at hlower
    rw [hlower]
    refine tableLower_eq_self (shift_eq_self checked.ascii ?_)
    simp only [member, List.any_cons, List.any_nil, Bool.or_eq_true, Bool.and_eq_true, Nat.ble_eq,
      Bool.false_eq_true, or_false]
    omega

lemma tableLower_tableLower (c : Char) : ∀ d ∈ tableLower c, tableLower d = [d] := by
  intro d hd
  rw [tableLower, List.mem_cons] at hd
  rcases hd with rfl | hd
  · refine tableLower_eq_self ?_
    rw [toNat_shift, shift_shift checked.settled]
  · split at hd
    · rw [List.mem_singleton.mp hd]
      decide +kernel
    · exact absurd hd List.not_mem_nil

lemma tableLower_alphanumeric (c : Char) (hne : c ≠ dottedCapitalI)
    (hc : member alphanumeric c.toNat) : ∀ d ∈ tableLower c, member alphanumeric d.toNat := by
  intro d hd
  rw [tableLower, if_neg hne, List.mem_singleton] at hd
  rw [hd, toNat_shift]
  exact shift_mem checked.into hc

/-- The data of version 15.0; the two properties around the sigma are left open. -/
def unicode15 (isCased isCaseIgnorable : Char → Bool) : CharacterData where
  isAlphanumeric c := member alphanumeric c.toNat
  lower := tableLower
  isCased := isCased
  isCaseIgnorable := isCaseIgnorable
  ascii_alphanumeric _ := member_ascii
  ascii_lower := tableLower_ascii
  not_whitespace c hc := by
    rw [isWhitespace_eq_member, Bool.eq_false_iff]
    exact not_member_of_apart checked.apart hc
  lower_whitespace c hc := by
    rw [isWhitespace_eq_member] at hc
    exact tableLower_eq_self (shift_eq_self checked.misses hc)
  lower_ne_nil c := List.cons_ne_nil _ _
  lower_lower := tableLower_tableLower
  lower_alphanumeric := tableLower_alphanumeric
  lower_dottedCapitalI := by decide +kernel
  combiningDot_alphanumeric := by decide +kernel
  lower_sigma := by decide +kernel
  lower_finalSigma := by decide +kernel
  finalSigma_alphanumeric := by decide +kernel

/-- The same for texts without a capital sigma. -/
def unicode15Plain : CharacterData := unicode15 (fun _ => false) fun _ => false

end Vussa
