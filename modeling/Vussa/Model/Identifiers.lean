import Vussa.Lib.Digits
import Vussa.Lib.Json
import Vussa.Model.Text

/-!
The text of an identifier: hexadecimal digits, and dashes at four places.

* `hexDigits_eq`, `hexDigits_injective`: the digits are those of the number;
* `toText_toList`, `mem_toText`, `toText_length`: the five parts of the text and its characters;
* `toText_injective`: the text determines the identifier;
* `Uuid.parseStr`, `parseStr_toText`: the reading of a text, which returns the identifier.
-/

namespace Vussa

open Digits

/-- The hexadecimal digits as characters. -/
lemma hexDigits_eq (n v : ℕ) : hexDigits n v = (digits 16 n v).map Nat.digitChar := by
  induction n generalizing v with
  | zero => rfl
  | succ n ih => rw [hexDigits, ih, digits, List.map_append, List.map_singleton]

lemma hexDigits_length (n v : ℕ) : (hexDigits n v).length = n := by
  rw [hexDigits_eq, List.length_map, length_digits]

/-- A digit is the character of a number below sixteen. -/
lemma exists_of_mem_hexDigits {n v : ℕ} {c : Char} (h : c ∈ hexDigits n v) :
    ∃ d < 16, c = Nat.digitChar d := by
  rw [hexDigits_eq] at h
  obtain ⟨d, hd, rfl⟩ := List.mem_map.mp h
  exact ⟨d, lt_of_mem_digits (by decide) hd, rfl⟩

lemma digitChar_ne_dash : ∀ a < 16, Nat.digitChar a ≠ '-' := by decide

lemma ne_dash_of_mem_hexDigits {n v : ℕ} {c : Char} (h : c ∈ hexDigits n v) : c ≠ '-' := by
  obtain ⟨d, hd, rfl⟩ := exists_of_mem_hexDigits h
  exact digitChar_ne_dash d hd

lemma digitChar_injective : ∀ a < 16, ∀ b < 16, Nat.digitChar a = Nat.digitChar b → a = b := by
  decide

lemma hexDigits_injective {n v v' : ℕ} (hv : v < 16 ^ n) (hv' : v' < 16 ^ n)
    (h : hexDigits n v = hexDigits n v') : v = v' := by
  rw [hexDigits_eq, hexDigits_eq] at h
  refine digits_injective hv hv' (map_inj_of (fun a ha b hb => ?_) h)
  exact digitChar_injective a (lt_of_mem_digits (by decide) ha) b (lt_of_mem_digits (by decide) hb)

/-- A list in the five parts of an identifier. -/
lemma parts_eq (l : List Char) : l.take 8 ++ ((l.drop 8).take 4 ++ ((l.drop 12).take 4 ++
    ((l.drop 16).take 4 ++ l.drop 20))) = l := by
  have hsplit : ∀ a b, (l.drop a).take b ++ l.drop (a + b) = l.drop a := by
    intro a b
    rw [← List.drop_drop, List.take_append_drop]
  rw [hsplit 16 4, hsplit 12 4, hsplit 8 4, List.take_append_drop]

lemma toText_toList (id : Uuid) : id.toText.toList = (hexDigits 32 id).take 8 ++ '-' ::
    (((hexDigits 32 id).drop 8).take 4 ++ '-' :: (((hexDigits 32 id).drop 12).take 4 ++ '-' ::
      (((hexDigits 32 id).drop 16).take 4 ++ '-' :: (hexDigits 32 id).drop 20))) := by
  simp only [Uuid.toText, String.toList_ofList, List.append_assoc, List.cons_append, List.nil_append]

/-- The digits of an identifier are its text without the dashes. -/
lemma toText_filter (id : Uuid) :
    id.toText.toList.filter (fun c => c ≠ '-') = hexDigits 32 id := by
  have hpart : ∀ {part : List Char}, part.Sublist (hexDigits 32 id) →
      part.filter (fun c => c ≠ '-') = part := fun hsub =>
    List.filter_eq_self.mpr fun c hc => decide_eq_true (ne_dash_of_mem_hexDigits (hsub.subset hc))
  have hmiddle : ∀ a b, (((hexDigits 32 id).drop a).take b).Sublist (hexDigits 32 id) := fun a b =>
    (List.take_sublist b _).trans (List.drop_sublist a _)
  have hdash : ∀ l : List Char, ('-' :: l).filter (fun c => c ≠ '-') = l.filter (fun c => c ≠ '-') :=
    fun l => List.filter_cons_of_neg (by simp)
  rw [toText_toList]
  simp only [List.filter_append, hdash]
  rw [hpart (List.take_sublist 8 _), hpart (hmiddle 8 4), hpart (hmiddle 12 4),
    hpart (hmiddle 16 4), hpart (List.drop_sublist 20 _), parts_eq]

lemma toText_injective : Function.Injective Uuid.toText := by
  intro a b h
  have hdigits : hexDigits 32 a = hexDigits 32 b := by
    rw [← toText_filter, ← toText_filter, h]
  have hbound : (2 : ℕ) ^ 128 = 16 ^ 32 := by norm_num
  exact Fin.ext (hexDigits_injective (a.isLt.trans_eq hbound) (b.isLt.trans_eq hbound) hdigits)

/-- The characters of the text are hexadecimal digits and dashes. -/
lemma mem_toText {id : Uuid} {c : Char} (h : c ∈ id.toText.toList) :
    (∃ d < 16, c = Nat.digitChar d) ∨ c = '-' := by
  by_cases hdash : c = '-'
  · exact .inr hdash
  · have hmem : c ∈ id.toText.toList.filter (fun c => c ≠ '-') :=
      List.mem_filter.mpr ⟨h, decide_eq_true hdash⟩
    rw [toText_filter] at hmem
    exact .inl (exists_of_mem_hexDigits hmem)

lemma toText_length (id : Uuid) : id.toText.toList.length = 36 := by
  rw [Uuid.toText]
  simp [hexDigits_length]

/-! ### Reading -/

/-- The number of a text of digits in base sixteen, of both cases. -/
def hexNumber (cs : List Char) : Option ℕ :=
  cs.foldlM (fun n c => (Json.hexValue c).map fun d => 16 * n + d) 0

/-- An identifier as thirty-two digits. -/
def parseSimple (cs : List Char) : Option Uuid :=
  if cs.length = 32 then
    (hexNumber cs).bind fun n => if h : n < 2 ^ 128 then some ⟨n, h⟩ else none
  else none

/-- An identifier with its four dashes. -/
def parseHyphenated (cs : List Char) : Option Uuid :=
  if cs.length = 36 ∧ cs[8]? = some '-' ∧ cs[13]? = some '-' ∧ cs[18]? = some '-' ∧
      cs[23]? = some '-' then
    parseSimple (cs.take 8 ++ ((cs.drop 9).take 4 ++ ((cs.drop 14).take 4 ++
      ((cs.drop 19).take 4 ++ cs.drop 24))))
  else none

/-- `Uuid::parse_str`: digits alone, or with dashes, then also in braces or as a URN. -/
def Uuid.parseStr (text : String) : Option Uuid :=
  let cs := text.toList
  if cs.length = 32 then parseSimple cs
  else if cs.length = 36 then parseHyphenated cs
  else if cs.length = 38 ∧ cs.head? = some '{' ∧ cs.getLast? = some '}' then
    parseHyphenated cs.tail.dropLast
  else if cs.length = 45 ∧ cs.take 9 = "urn:uuid:".toList then parseHyphenated (cs.drop 9)
  else none

/-- The digits of a number are read as the number. -/
lemma hexNumber_hexDigits (n v : ℕ) : hexNumber (hexDigits n v) = some (v % 16 ^ n) := by
  induction n generalizing v with
  | zero =>
      rw [pow_zero, Nat.mod_one]
      rfl
  | succ n ih =>
      have hinit := ih (v / 16)
      rw [hexNumber] at hinit ⊢
      rw [hexDigits, List.foldlM_append, hinit]
      have hdigit := Json.hexValue_digitChar (v % 16) (Nat.mod_lt v (by decide))
      have hval : 16 * (v / 16 % 16 ^ n) + v % 16 = v % 16 ^ (n + 1) := by
        rw [pow_succ', Nat.mod_mul]
        omega
      simp only [Option.bind_eq_bind, Option.bind_some, List.foldlM_cons, List.foldlM_nil, hdigit,
        Option.map_some, hval, Option.pure_def]

/-- Five parts with dashes between them are taken apart at the dashes. -/
lemma parseHyphenated_parts {a b c d e : List Char} (ha : a.length = 8) (hb : b.length = 4)
    (hc : c.length = 4) (hd : d.length = 4) (he : e.length = 12) :
    parseHyphenated (a ++ '-' :: (b ++ '-' :: (c ++ '-' :: (d ++ '-' :: e)))) =
      parseSimple (a ++ (b ++ (c ++ (d ++ e)))) := by
  have hdrop : ∀ {l m : List Char} {n : ℕ}, l.length = n → (l ++ '-' :: m).drop (n + 1) = m := by
    rintro l m n rfl
    rw [← List.drop_drop, List.drop_left]
    rfl
  have hget : ∀ {l m : List Char} {n : ℕ}, l.length = n → (l ++ '-' :: m)[n]? = some '-' := by
    rintro l m n rfl
    rw [List.getElem?_append_right le_rfl, Nat.sub_self]
    rfl
  have h9 := hdrop (m := b ++ '-' :: (c ++ '-' :: (d ++ '-' :: e))) ha
  have h14 := hdrop (m := c ++ '-' :: (d ++ '-' :: e)) hb
  have h19 := hdrop (m := d ++ '-' :: e) hc
  have h24 := hdrop (m := e) hd
  generalize htext : a ++ '-' :: (b ++ '-' :: (c ++ '-' :: (d ++ '-' :: e))) = text at h9
  have h14' : text.drop 14 = c ++ '-' :: (d ++ '-' :: e) := by
    rw [← h14, ← h9, List.drop_drop]
  have h19' : text.drop 19 = d ++ '-' :: e := by
    rw [← h19, ← h14', List.drop_drop]
  have h24' : text.drop 24 = e := by
    rw [← h24, ← h19', List.drop_drop]
  have hat : ∀ {n : ℕ} (k : ℕ) {l m : List Char}, text.drop n = l ++ '-' :: m → l.length = k →
      text[n + k]? = some '-' := by
    intro n k l m hdrop hl
    rw [← List.getElem?_drop, hdrop, hget hl]
  have hlen : text.length = 36 := by
    rw [← htext]
    simp only [List.length_append, List.length_cons]
    omega
  rw [parseHyphenated, if_pos ⟨hlen, hat 8 (by rw [List.drop_zero, htext]) ha, hat 4 h9 hb,
    hat 4 h14' hc, hat 4 h19' hd⟩, h9, h14', h19', h24', ← htext, List.take_left' ha,
    List.take_left' hb, List.take_left' hc, List.take_left' hd]

/-- **An identifier comes back from its text.** -/
theorem parseStr_toText (id : Uuid) : Uuid.parseStr id.toText = some id := by
  have hlen := toText_length id
  have hdigits : (hexDigits 32 id).length = 32 := hexDigits_length 32 id
  have hbound : (2 : ℕ) ^ 128 = 16 ^ 32 := by norm_num
  have hid : (id : ℕ) % 16 ^ 32 = id := Nat.mod_eq_of_lt (id.isLt.trans_eq hbound)
  have hpart : ∀ m n : ℕ, m + n ≤ 32 → (((hexDigits 32 id).drop m).take n).length = n := by
    intro m n h
    rw [List.length_take, List.length_drop, hdigits]
    omega
  rw [Uuid.parseStr, if_neg (by omega), if_pos hlen, toText_toList,
    parseHyphenated_parts (by rw [List.length_take]; omega) (hpart 8 4 (by decide)) (hpart 12 4 (by decide))
      (hpart 16 4 (by decide)) (by rw [List.length_drop, hdigits]), parts_eq, parseSimple,
    if_pos hdigits, hexNumber_hexDigits, Option.bind_some, hid, dif_pos id.isLt]

end Vussa
