import Vussa.Lib.Percent
import Vussa.Model.Text
import Mathlib.Data.List.DropRight

/-!
The names of files (`api/media.rs`): `sanitize_upload_name` for an upload, and
`content_disposition`, the header a download carries.

* `sanitizeUploadName`, `contentDisposition`: the two functions;
* `FileName`: what a name is good for, and `fileName_sanitizeUploadName`: a name after an upload;
* `sanitizeUploadName_eq_self`: such a name is kept as it is;
* `contentDisposition_spec`: the header of a name without control characters;
* `uploadName_spec`: **a name is safe on the way in, and its bytes come back on the way out**.
-/

namespace Vussa.Names

open Percent

/-! ### The two functions -/

/-- The separators of a path. -/
def isSeparator (c : Char) : Bool := c == '/' || c == '\\'

/-- `str::rsplit` at the separators: the pieces, the last one first. -/
def rsplit (name : String) : List (List Char) := (name.toList.splitOnP isSeparator).reverse

/-- `sanitize_upload_name`. -/
def sanitizeUploadName (name : String) : String :=
  let piece := (rsplit name).head?.getD "upload.bin".toList
  trim (String.ofList ((piece.filter fun c => !isControl c).take 255))

example : sanitizeUploadName "..\\private/\x00notes.txt" = "notes.txt" := by decide +kernel

/-- `char::is_ascii_graphic`. -/
def isAsciiGraphic (c : Char) : Bool := 0x21 ≤ c.toNat && c.toNat ≤ 0x7E

/-- The characters of the `filename` parameter. -/
def asciiName (name : String) : List Char :=
  let ascii := (name.toList.filter fun c =>
    isAsciiGraphic c && !(c == '"' || c == '\\' || c == ';')).take 150
  if ascii = [] then "download".toList else ascii

/-- The bytes `content_disposition` keeps. -/
def isKept (b : UInt8) : Bool :=
  (0x41 ≤ b && b ≤ 0x5A) || (0x61 ≤ b && b ≤ 0x7A) || (0x30 ≤ b && b ≤ 0x39) || b == 0x21 ||
    b == 0x23 || b == 0x24 || b == 0x26 || b == 0x2B || b == 0x2D || b == 0x2E || b == 0x5E ||
    b == 0x5F || b == 0x60 || b == 0x7C || b == 0x7E

/-- The characters of the `filename*` parameter. -/
def encodedName (name : String) : List Char :=
  encode isKept (name.toUTF8.data.toList.filter fun b => !(b == 0x0D || b == 0x0A || b == 0))

/-- The header around the two parameters. -/
def disposition (ascii encoded : List Char) : String :=
  String.ofList ("attachment; filename=\"".toList ++ ascii ++ "\"; filename*=UTF-8''".toList ++
    encoded)

lemma disposition_toList (ascii encoded : List Char) :
    (disposition ascii encoded).toList =
      "attachment; filename=\"".toList ++ ascii ++ "\"; filename*=UTF-8''".toList ++ encoded :=
  String.toList_ofList

/-- `content_disposition`. -/
def contentDisposition (name : String) : String :=
  disposition (asciiName name) (encodedName name)

/-! ### Names after an upload -/

/-- A name without separators and control characters, of at most 255 characters. -/
structure FileName (name : String) : Prop where
  plain : ∀ c ∈ name.toList, c ≠ '/' ∧ c ≠ '\\' ∧ isControl c = false
  length : name.toList.length ≤ 255

/-- A prefix of a trimmed list is trimmed at its front. -/
lemma dropWhile_prefix {α : Type*} {p : α → Bool} {l r : List α} (hl : l.dropWhile p = l)
    (hr : r <+: l) : r.dropWhile p = r := by
  cases r with
  | nil => rfl
  | cons a r =>
      obtain ⟨rest, rfl⟩ := hr
      rw [List.cons_append, List.dropWhile_eq_self_iff] at hl
      exact List.dropWhile_cons_of_neg (hl (Nat.succ_pos _))

/-- `trim` in the words of the library. -/
lemma trim_toList (s : String) :
    (trim s).toList = (s.toList.dropWhile isWhitespace).rdropWhile isWhitespace := by
  rw [trim, trimMatches, String.toList_ofList, List.rdropWhile]

/-- Trimming leaves a part of the text. -/
lemma trim_infix (s : String) : (trim s).toList <:+: s.toList := by
  rw [trim_toList]
  exact (List.rdropWhile_prefix _ _).isInfix.trans (List.dropWhile_suffix _).isInfix

/-- A trimmed text is kept by trimming. -/
lemma trim_trim (s : String) : trim (trim s) = trim s := by
  apply String.toList_inj.mp
  rw [trim_toList, trim_toList,
    dropWhile_prefix (List.dropWhile_idempotent _ _) (List.rdropWhile_prefix _ _),
    List.rdropWhile_idempotent]

/-- The pieces between separators have none. -/
lemma not_isSeparator_of_mem_splitOnP {p : Char → Bool} {name piece : List Char}
    (hpiece : piece ∈ name.splitOnP p) {c : Char} (hc : c ∈ piece) : p c = false := by
  induction name generalizing piece with
  | nil =>
      obtain rfl : piece = [] := by simpa using hpiece
      exact absurd hc List.not_mem_nil
  | cons a name ih =>
      rw [List.splitOnP_cons_eq_if_modifyHead] at hpiece
      split_ifs at hpiece with ha
      · rcases List.mem_cons.mp hpiece with rfl | hpiece
        · exact absurd hc List.not_mem_nil
        · exact ih hpiece hc
      · obtain ⟨first, pieces, heq⟩ := List.exists_cons_of_ne_nil (List.splitOnP_ne_nil p name)
        rw [heq, List.modifyHead_cons, List.mem_cons] at hpiece
        rw [heq] at ih
        rcases hpiece with rfl | hpiece
        · rcases List.mem_cons.mp hc with rfl | hc
          · simpa using ha
          · exact ih List.mem_cons_self hc
        · exact ih (List.mem_cons_of_mem _ hpiece) hc

/-- The last piece of a path. -/
lemma not_isSeparator_of_mem_rsplit {name : String} {c : Char}
    (hc : c ∈ (rsplit name).head?.getD "upload.bin".toList) : isSeparator c = false := by
  obtain ⟨piece, hpiece⟩ : ∃ piece, (rsplit name).head? = some piece := by
    rw [rsplit, List.head?_reverse]
    exact ⟨_, List.getLast?_eq_some_getLast (List.splitOnP_ne_nil _ _)⟩
  rw [hpiece, Option.getD_some] at hc
  exact not_isSeparator_of_mem_splitOnP
    (List.mem_reverse.mp (List.mem_of_mem_head? hpiece)) hc

/-- A name after an upload. -/
lemma fileName_sanitizeUploadName (name : String) : FileName (sanitizeUploadName name) := by
  rw [sanitizeUploadName]
  generalize hpiece : (rsplit name).head?.getD "upload.bin".toList = piece
  have hpart := trim_infix (String.ofList ((piece.filter fun c => !isControl c).take 255))
  rw [String.toList_ofList] at hpart
  constructor
  · intro c hc
    have hmem := List.mem_of_mem_take (hpart.subset hc)
    obtain ⟨hc, hcontrol⟩ := List.mem_filter.mp hmem
    have hseparator := not_isSeparator_of_mem_rsplit (hpiece ▸ hc)
    simp only [isSeparator, Bool.or_eq_false_iff, beq_eq_false_iff_ne] at hseparator
    exact ⟨hseparator.1, hseparator.2, by simpa using hcontrol⟩
  · exact hpart.length_le.trans (List.length_take_le _ _)

/-- A trimmed file name is kept as it is. -/
lemma sanitizeUploadName_eq_self {name : String} (h : FileName name) (htrim : trim name = name) :
    sanitizeUploadName name = name := by
  have hsplit : name.toList.splitOnP isSeparator = [name.toList] := by
    refine List.splitOnP_eq_singleton fun c hc => ?_
    obtain ⟨hslash, hbackslash, -⟩ := h.plain c hc
    simp [isSeparator, hslash, hbackslash]
  have hfilter : name.toList.filter (fun c => !isControl c) = name.toList := by
    refine List.filter_eq_self.mpr fun c hc => ?_
    simp [(h.plain c hc).2.2]
  rw [sanitizeUploadName, rsplit, hsplit, List.reverse_singleton, List.head?_cons,
    Option.getD_some, hfilter, List.take_of_length_le h.length, String.ofList_toList, htrim]

/-! ### The header of a download -/

/-- Printable ASCII. -/
def isPrintable (c : Char) : Bool := 0x20 ≤ c.toNat && c.toNat ≤ 0x7E

/-- `attr-char` of RFC 5987: the letters, the digits and fourteen signs. -/
def isAttrChar (c : Char) : Bool :=
  isAsciiAlphanumeric c || c ∈ "!#$&+-.^_`|~".toList

/-- What the quoted parameter is made of: it is never empty. -/
lemma mem_asciiName {name : String} {c : Char} (hc : c ∈ asciiName name) :
    isAsciiGraphic c ∧ c ≠ '"' ∧ c ≠ '\\' ∧ c ≠ ';' := by
  rw [asciiName] at hc
  split_ifs at hc with hempty
  · have hdownload : "download".toList.all (fun c => isAsciiGraphic c && c != '"' && c != '\\' &&
        c != ';') = true := by decide +kernel
    simpa [and_assoc] using List.all_eq_true.mp hdownload c hc
  · obtain ⟨-, hc⟩ := List.mem_filter.mp (List.mem_of_mem_take hc)
    simpa [and_assoc] using hc

/-- The kept bytes are attribute characters, and not `%`. -/
lemma isKept_spec {b : UInt8} (h : isKept b) :
    (b.toNat < 128 ∧ b ≠ 0x25) ∧ isAttrChar (Char.ofNat b.toNat) := by
  have hall : ∀ n < 256, isKept (UInt8.ofNat n) →
      (n < 128 ∧ n ≠ 0x25) ∧ isAttrChar (Char.ofNat n) := by decide +kernel
  obtain ⟨⟨hascii, hne⟩, hattr⟩ := hall b.toNat b.toNat_lt (by rwa [UInt8.ofNat_toNat])
  exact ⟨⟨hascii, fun heq => hne (heq ▸ rfl)⟩, hattr⟩

/-- The bytes of a name without control characters pass the filter. -/
lemma encodedName_eq {name : String} (hcontrol : ∀ c ∈ name.toList, isControl c = false) :
    encodedName name = encode isKept name.toUTF8.data.toList := by
  rw [encodedName]
  congr 1
  refine List.filter_eq_self.mpr fun b hb => ?_
  rw [← String.ofList_toList (s := name), toUTF8_ofList] at hb
  have hne : ∀ n : UInt8, n.toNat < 32 → b ≠ n := by
    rintro n hn rfl
    obtain ⟨c, hc, heq⟩ := mem_utf8Bytes_ascii hb (hn.trans (by decide))
    have hcode := hcontrol c hc
    rw [isControl, heq] at hcode
    simp only [Bool.or_eq_false_iff, decide_eq_false_iff_not] at hcode
    exact hcode.1 hn
  simp [hne 0x0D (by decide), hne 0x0A (by decide), hne 0 (by decide)]

/-- The characters of an encoded name are printable. -/
lemma isPrintable_of_mem {attr : Char → Bool} {text : List Char} (h : Escaped attr text)
    (hattr : ∀ c, attr c → isPrintable c) {c : Char} (hc : c ∈ text) : isPrintable c := by
  have hdigit : ∀ d, (hexValue d).isSome → isPrintable d := by
    intro d hd
    rw [hexValue] at hd
    rw [isPrintable, Bool.and_eq_true, decide_eq_true_eq, decide_eq_true_eq]
    split_ifs at hd
    · omega
    · omega
    · omega
    · exact absurd hd (by simp)
  induction h with
  | nil => exact absurd hc List.not_mem_nil
  | char ha _ ih =>
      rcases List.mem_cons.mp hc with rfl | hc
      · exact hattr _ ha
      · exact ih hc
  | escape hx hy _ ih =>
      simp only [List.mem_cons] at hc
      rcases hc with rfl | rfl | rfl | hc
      · decide
      · exact hdigit _ hx
      · exact hdigit _ hy
      · exact ih hc

/-- Attribute characters are printable. -/
lemma isPrintable_of_isAttrChar {c : Char} (h : isAttrChar c) : isPrintable c := by
  rw [isAttrChar, Bool.or_eq_true] at h
  rcases h with h | h
  · simp only [isAsciiAlphanumeric, Bool.or_eq_true, Bool.and_eq_true, decide_eq_true_eq] at h
    rw [isPrintable, Bool.and_eq_true, decide_eq_true_eq, decide_eq_true_eq]
    omega
  · have hsigns : ∀ c ∈ "!#$&+-.^_`|~".toList, isPrintable c :=
      List.all_eq_true.mp (by decide +kernel)
    exact hsigns c (by simpa using h)

/-- A header as it should be: it is printable, its quoted parameter ends at the next quote, and its
encoded parameter stands for the bytes of the name. -/
structure Disposes (name header : String) : Prop where
  printable : ∀ c ∈ header.toList, isPrintable c
  parameters : ∃ ascii encoded, header = disposition ascii encoded ∧
    (∀ c ∈ ascii, c ≠ '"' ∧ c ≠ '\\' ∧ c ≠ ';') ∧ Escaped isAttrChar encoded ∧
      decode encoded = name.toUTF8.data.toList

/-- The header of a name without control characters. -/
lemma disposes_contentDisposition {name : String}
    (hcontrol : ∀ c ∈ name.toList, isControl c = false) :
    Disposes name (contentDisposition name) := by
  have hencoded : Escaped isAttrChar (encodedName name) := by
    rw [encodedName_eq hcontrol]
    exact escaped_encode (fun b hb => (isKept_spec hb).2) _
  refine ⟨?_, ?_⟩
  · intro c hc
    rw [contentDisposition, disposition_toList] at hc
    have hfront : ∀ c ∈ "attachment; filename=\"".toList, isPrintable c :=
      List.all_eq_true.mp (by decide +kernel)
    have hback : ∀ c ∈ "\"; filename*=UTF-8''".toList, isPrintable c :=
      List.all_eq_true.mp (by decide +kernel)
    rcases List.mem_append.mp hc with hc | hc
    · rcases List.mem_append.mp hc with hc | hc
      · rcases List.mem_append.mp hc with hc | hc
        · exact hfront c hc
        · have hgraphic := (mem_asciiName hc).1
          simp only [isAsciiGraphic, Bool.and_eq_true, decide_eq_true_eq] at hgraphic
          rw [isPrintable, Bool.and_eq_true, decide_eq_true_eq, decide_eq_true_eq]
          omega
      · exact hback c hc
    · exact isPrintable_of_mem hencoded (fun _ => isPrintable_of_isAttrChar) hc
  · refine ⟨asciiName name, encodedName name, rfl, fun c hc => (mem_asciiName hc).2, hencoded, ?_⟩
    rw [encodedName_eq hcontrol, decode_encode fun b hb => (isKept_spec hb).1]

/-- **Names of files**: a name is safe after an upload and is not changed by another one, and the
header of a download is safe and carries its bytes. -/
theorem uploadName_spec (name : String) :
    FileName (sanitizeUploadName name) ∧
    sanitizeUploadName (sanitizeUploadName name) = sanitizeUploadName name ∧
    Disposes (sanitizeUploadName name) (contentDisposition (sanitizeUploadName name)) := by
  have hname := fileName_sanitizeUploadName name
  refine ⟨hname, sanitizeUploadName_eq_self hname ?_,
    disposes_contentDisposition fun c hc => (hname.plain c hc).2.2⟩
  rw [sanitizeUploadName, trim_trim]

end Vussa.Names
