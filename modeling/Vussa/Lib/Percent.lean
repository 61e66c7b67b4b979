import Mathlib.Data.List.Basic
import Mathlib.Tactic.IntervalCases

/-!
Percent encoding of bytes: a byte that is kept is written as its ASCII character, any other one as
`%` and two digits in base sixteen.

* `utf8Bytes`, `mem_utf8Bytes_ascii`: the bytes of a text; those below `0x80` are the codes of
  characters;
* `encode`, `decode`: the encoding, and the reading of it;
* `Escaped`, `escaped_encode`: the encoding is made of kept characters and escapes;
* `decode_encode`: **the bytes come back**.
-/

namespace Vussa.Percent

/-! ### The bytes of a text -/

/-- The bytes of a text in UTF-8. -/
def utf8Bytes (text : List Char) : List UInt8 := text.flatMap String.utf8EncodeChar

/-- They are the bytes of the string. -/
lemma toUTF8_ofList (text : List Char) :
    (String.ofList text).toUTF8.data.toList = utf8Bytes text := by
  rw [String.toUTF8_eq_toByteArray, String.toByteArray_ofList, List.utf8Encode,
    List.data_toByteArray]
  rfl

/-- An ASCII character is its own byte. -/
lemma utf8EncodeChar_ascii {c : Char} (h : c.toNat < 128) :
    String.utf8EncodeChar c = [UInt8.ofNat c.toNat] :=
  if_pos (Nat.lt_succ_iff.mp h)

/-- A byte below `0x80` is the code of the character: those of longer sequences are above. -/
lemma toNat_of_mem_utf8EncodeChar {c : Char} {b : UInt8} (hb : b ∈ String.utf8EncodeChar c)
    (hascii : b.toNat < 128) : c.toNat = b.toNat := by
  rw [String.utf8EncodeChar] at hb
  split_ifs at hb with h1 h2 h3
  · obtain rfl := List.mem_singleton.mp hb
    exact (Nat.mod_eq_of_lt (show c.val.toNat < 256 by omega)).symm
  · simp only [List.mem_cons, List.not_mem_nil, or_false] at hb
    rcases hb with rfl | rfl <;> rw [UInt8.toNat_ofNat'] at hascii <;> omega
  · simp only [List.mem_cons, List.not_mem_nil, or_false] at hb
    rcases hb with rfl | rfl | rfl <;> rw [UInt8.toNat_ofNat'] at hascii <;> omega
  · simp only [List.mem_cons, List.not_mem_nil, or_false] at hb
    rcases hb with rfl | rfl | rfl | rfl <;> rw [UInt8.toNat_ofNat'] at hascii <;> omega

/-- The bytes of a text below `0x80` are the codes of its characters. -/
lemma mem_utf8Bytes_ascii {text : List Char} {b : UInt8} (hb : b ∈ utf8Bytes text)
    (hascii : b.toNat < 128) : ∃ c ∈ text, c.toNat = b.toNat := by
  obtain ⟨c, hc, hmem⟩ := List.mem_flatMap.mp hb
  exact ⟨c, hc, toNat_of_mem_utf8EncodeChar hmem hascii⟩

/-! ### Encoding and decoding -/

/-- A digit in base sixteen, in upper case. -/
def hexDigit (n : ℕ) : Char := if n < 10 then Char.ofNat (0x30 + n) else Char.ofNat (0x37 + n)

/-- The value of a digit in base sixteen. -/
def hexValue (c : Char) : Option ℕ :=
  if 0x30 ≤ c.toNat ∧ c.toNat ≤ 0x39 then some (c.toNat - 0x30)
  else if 0x41 ≤ c.toNat ∧ c.toNat ≤ 0x46 then some (c.toNat - 0x37)
  else if 0x61 ≤ c.toNat ∧ c.toNat ≤ 0x66 then some (c.toNat - 0x57)
  else none

/-- A byte as an escape. -/
def escape (b : UInt8) : List Char := ['%', hexDigit (b.toNat / 16), hexDigit (b.toNat % 16)]

/-- The encoding that keeps some of the bytes. -/
def encode (keep : UInt8 → Bool) (bytes : List UInt8) : List Char :=
  bytes.flatMap fun b => if keep b then [Char.ofNat b.toNat] else escape b

/-- The bytes of an encoded text; a `%` without two digits stands for itself. -/
def decode : List Char → List UInt8
  | [] => []
  | '%' :: c :: d :: text =>
      match hexValue c, hexValue d with
      | some x, some y => UInt8.ofNat (16 * x + y) :: decode text
      | _, _ => String.utf8EncodeChar '%' ++ decode (c :: d :: text)
  | c :: text => String.utf8EncodeChar c ++ decode text

/-- The texts of attribute characters and escapes. -/
inductive Escaped (attr : Char → Bool) : List Char → Prop
  | nil : Escaped attr []
  | char {c : Char} {text : List Char} (hc : attr c) (h : Escaped attr text) :
      Escaped attr (c :: text)
  | escape {c d : Char} {text : List Char} (hc : (hexValue c).isSome) (hd : (hexValue d).isSome)
      (h : Escaped attr text) : Escaped attr ('%' :: c :: d :: text)

/-- The digits are read back. -/
lemma hexValue_hexDigit {n : ℕ} (h : n < 16) : hexValue (hexDigit n) = some n := by
  interval_cases n <;> decide

/-- An escape is read back. -/
lemma decode_escape (b : UInt8) (text : List Char) :
    decode (escape b ++ text) = b :: decode text := by
  have hb : b.toNat < 256 := b.toNat_lt
  rw [escape, List.cons_append, List.cons_append, List.cons_append, List.nil_append, decode,
    hexValue_hexDigit (by omega), hexValue_hexDigit (by omega)]
  simp only
  rw [Nat.div_add_mod, UInt8.ofNat_toNat]

/-- A character other than `%` is read as its bytes. -/
lemma decode_char {c : Char} (h : c ≠ '%') (text : List Char) :
    decode (c :: text) = String.utf8EncodeChar c ++ decode text := by
  rw [decode]
  rintro _ _ _ rfl
  exact absurd rfl h

variable {keep : UInt8 → Bool}

/-- The character of a kept byte. -/
lemma toNat_ofNat_byte {b : UInt8} (h : b.toNat < 128) : (Char.ofNat b.toNat).toNat = b.toNat := by
  have hvalid : b.toNat.isValidChar := .inl (by omega)
  rw [Char.ofNat, dif_pos hvalid]
  rfl

/-- **Round trip**: the bytes come back, if those that are kept are ASCII and not `%`. -/
lemma decode_encode (hkeep : ∀ b, keep b → b.toNat < 128 ∧ b ≠ 0x25) (bytes : List UInt8) :
    decode (encode keep bytes) = bytes := by
  induction bytes with
  | nil => rfl
  | cons b bytes ih =>
      rw [encode, List.flatMap_cons, ← encode]
      split_ifs with hb
      · obtain ⟨hascii, hne⟩ := hkeep b hb
        have hchar : Char.ofNat b.toNat ≠ '%' := by
          intro heq
          have hcode := congrArg Char.toNat heq
          rw [toNat_ofNat_byte hascii] at hcode
          exact hne (UInt8.toNat_inj.mp hcode)
        rw [List.singleton_append, decode_char hchar, ih,
          utf8EncodeChar_ascii (by rw [toNat_ofNat_byte hascii]; exact hascii),
          toNat_ofNat_byte hascii, UInt8.ofNat_toNat, List.singleton_append]
      · rw [decode_escape, ih]

/-- The encoding is made of attribute characters and escapes. -/
lemma escaped_encode {attr : Char → Bool} (hattr : ∀ b, keep b → attr (Char.ofNat b.toNat))
    (bytes : List UInt8) : Escaped attr (encode keep bytes) := by
  induction bytes with
  | nil => exact .nil
  | cons b bytes ih =>
      have hb : b.toNat < 256 := b.toNat_lt
      rw [encode, List.flatMap_cons, ← encode]
      split_ifs with hkeep
      · exact .char (hattr b hkeep) ih
      · refine .escape ?_ ?_ ih
        · rw [hexValue_hexDigit (by omega), Option.isSome_some]
        · rw [hexValue_hexDigit (by omega), Option.isSome_some]

end Vussa.Percent
