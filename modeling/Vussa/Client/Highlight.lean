import Vussa.Lib.Html
import Vussa.Lib.Replace

/-!
The highlighted search results of the page (`lib/search-highlight.js`). A string of the page is a
text of Unicode characters.

* `htmlEscape`, `safeSearchHighlight`: the table and the function;
* `markAll_parts`: the result, by the marked parts of the text;
* `safeSearchHighlight_spec`: **the only tags are marks, one opening and one closing in turn, and
  the references of the result stand for the text**.
-/

namespace Vussa.Highlight

open Html Replace

/-! ### The function -/

/-- `HTML_ESCAPE`, on the characters of the class, and the other characters. -/
def htmlEscape : Char → List Char
  | '&' => "&amp;".toList
  | '<' => "&lt;".toList
  | '>' => "&gt;".toList
  | '"' => "&quot;".toList
  | '\'' => "&#39;".toList
  | character => [character]

/-- The pattern `&lt;mark&gt;([\s\S]*?)&lt;\/mark&gt;`, and `<mark>$1</mark>`. -/
def markMatch : Find Char Char := fun html =>
  if "&lt;mark&gt;".toList <+: html then
    (cut "&lt;/mark&gt;".toList (html.drop "&lt;mark&gt;".toList.length)).map fun (inner, _) =>
      ("<mark>".toList ++ inner ++ "</mark>".toList,
        "&lt;mark&gt;".toList.length + inner.length + "&lt;/mark&gt;".toList.length)
  else none

/-- The second replacement of `safeSearchHighlight`. -/
def markAll (escaped : List Char) : List Char := replaceAll (fun c => [c]) markMatch escaped

/-- `safeSearchHighlight`. -/
def safeSearchHighlight (value : String) : String :=
  String.ofList (markAll (value.toList.flatMap htmlEscape))

example : safeSearchHighlight "a <mark>b</mark> <img src=x>" =
    "a <mark>b</mark> &lt;img src=x&gt;" := by
  decide +kernel

/-! ### Marked parts -/

/-- A match lies between the escaped tags. -/
lemma markMatch_eq_some {text out : List Char} {n : ℕ}
    (h : markMatch (escape text) = some (out, n)) :
    ∃ inner rest, text = "<mark>".toList ++ inner ++ "</mark>".toList ++ rest ∧
      out = "<mark>".toList ++ escape inner ++ "</mark>".toList ∧
      (escape text).drop n = escape rest ∧ n ≠ 0 := by
  rw [markMatch] at h
  split_ifs at h with hbegins
  obtain ⟨html, hhtml⟩ := hbegins
  obtain ⟨⟨inner, rest⟩, hcut, heq⟩ := Option.map_eq_some_iff.mp h
  obtain ⟨rfl, rfl⟩ := Prod.mk.inj heq
  rw [← hhtml, List.drop_left] at hcut
  have hopen : escape text = escape "<mark>".toList ++ html := hhtml.symm
  obtain ⟨text', rfl, rfl⟩ := escape_eq_append hopen
  -- the escaped closing tag begins with the beginning of a reference
  have hclose : escape text' = inner ++ '&' :: ("lt;/mark&gt;".toList ++ rest) := by
    rw [cut_eq_some hcut, List.append_assoc]
    rfl
  obtain ⟨text₁, text₂, rfl, rfl, htext₂⟩ := escape_eq_append_cons hclose
  have hclose : escape text₂ = escape "</mark>".toList ++ rest := htext₂.symm
  obtain ⟨text₃, rfl, rfl⟩ := escape_eq_append hclose
  refine ⟨text₁, text₃, by simp only [List.append_assoc], rfl, ?_, by simp⟩
  have hsplit : escape ("<mark>".toList ++ (text₁ ++ ("</mark>".toList ++ text₃))) =
      (escape "<mark>".toList ++ escape text₁ ++ escape "</mark>".toList) ++ escape text₃ := by
    simp only [escape_append, List.append_assoc]
  rw [hsplit]
  refine List.drop_left' ?_
  simp only [List.length_append]
  rfl

/-- A reference without a match at its beginning has none in it. -/
lemma markAll_reference {c : Char} {text : List Char}
    (h : markMatch (reference c ++ escape text) = none) :
    markAll (reference c ++ escape text) = reference c ++ markAll (escape text) := by
  have hkeep : (reference c).flatMap (fun d => [d]) = reference c := List.flatMap_singleton' _
  rw [markAll, replaceAll_append, hkeep, markAll]
  intro zs hzs hsuffix
  obtain ⟨pre, hpre⟩ := hsuffix
  cases pre with
  | nil =>
      obtain rfl : zs = reference c := hpre
      exact h
  | cons x pre =>
      -- only the first character of a reference begins a tag
      refine if_neg fun hbegins => ?_
      obtain ⟨z, zs, rfl⟩ := List.exists_cons_of_ne_nil hzs
      obtain ⟨html, hhtml⟩ := hbegins
      obtain rfl : '&' = z := (List.cons.inj hhtml).1
      have htail : '&' ∈ (reference c).tail := by
        rw [← hpre, List.cons_append, List.tail_cons]
        exact List.mem_append_right pre List.mem_cons_self
      exact not_mem_tail_reference c htail

/-- A part that is marked, with what is before it. -/
def marked (write : List Char → List Char) (p : List Char × List Char) : List Char :=
  write p.1 ++ "<mark>".toList ++ write p.2 ++ "</mark>".toList

/-- The parts of the text that are marked, and the parts between them, which are escaped. -/
lemma markAll_parts (text : List Char) :
    ∃ (parts : List (List Char × List Char)) (last : List Char),
      text = parts.flatMap (marked id) ++ last ∧
        markAll (escape text) = parts.flatMap (marked escape) ++ escape last := by
  induction hlength : text.length using Nat.strong_induction_on generalizing text with
  | _ length ih =>
      cases text with
      | nil => exact ⟨[], [], rfl, rfl⟩
      | cons c text =>
          cases hmatch : markMatch (escape (c :: text)) with
          | none =>
              obtain ⟨parts, last, htext, hmark⟩ := ih text.length (by simp [← hlength]) text rfl
              rw [escape_cons] at hmatch ⊢
              rw [markAll_reference hmatch, hmark]
              cases parts with
              | nil =>
                  refine ⟨[], c :: last, congrArg (c :: ·) htext, ?_⟩
                  rw [List.flatMap_nil, List.nil_append, List.nil_append, escape_cons]
              | cons p parts =>
                  refine ⟨(c :: p.1, p.2) :: parts, last, congrArg (c :: ·) htext, ?_⟩
                  simp only [List.flatMap_cons, marked, escape_cons, List.append_assoc]
          | some found =>
              obtain ⟨out, n⟩ := found
              obtain ⟨inner, rest, htext, rfl, hdrop, hn⟩ := markMatch_eq_some hmatch
              obtain ⟨parts, last, rfl, hmark⟩ := ih rest.length (by
                rw [← hlength, htext]
                simp
                omega) rest rfl
              refine ⟨([], inner) :: parts, last, ?_, ?_⟩
              · rw [htext, List.flatMap_cons, marked]
                simp only [id_eq, List.nil_append, List.append_assoc]
              · rw [markAll, replaceAll_of_eq_some hmatch hn (by simp [escape_cons,
                  reference_ne_nil]), hdrop, ← markAll, hmark, List.flatMap_cons, marked]
                simp only [escape, List.flatMap_nil, List.nil_append, List.append_assoc]

/-! ### Tags and references -/

/-- The opening and the closing tag. -/
def markTag (closing : Bool) : Tag := { closing := closing, name := "mark".toList }

lemma markTag_plain (closing : Bool) : (markTag closing).Plain :=
  { name := by cases closing <;> decide
    attributeName := fun a ha => absurd ha List.not_mem_nil
    nodup := List.nodup_nil
    value := fun a ha => absurd ha List.not_mem_nil }

lemma not_mem_escape {text : List Char} : '<' ∉ escape text := by
  intro h
  rcases mem_escape h with heq | hspecial
  · exact absurd heq (by decide)
  · exact hspecial (by decide)

/-- The tokens of a part that is escaped. -/
lemma tokens_escape (text : List Char) : tokens (escape text) = (escape text).map Token.text := by
  have htokens : tokens (escape text ++ []) = (escape text).map Token.text ++ tokens [] :=
    tokens_text not_mem_escape []
  have hnil : tokens [] = [] := rfl
  rwa [hnil, List.append_nil, List.append_nil] at htokens

/-- The tokens of a marked part. -/
lemma tokens_marked (p : List Char × List Char) (ys : List Char) :
    tokens (marked escape p ++ ys) = (escape p.1).map Token.text ++ .tag (markTag false) ::
      (escape p.2).map Token.text ++ .tag (markTag true) :: tokens ys := by
  have hopen := tokens_write (markTag_plain false) (escape p.2 ++ "</mark>".toList ++ ys)
  have hclose : tokens ("</mark>".toList ++ ys) = .tag (markTag true) :: tokens ys :=
    tokens_write (markTag_plain true) ys
  have hwrite : marked escape p ++ ys = escape p.1 ++ ((markTag false).write ++
      (escape p.2 ++ "</mark>".toList ++ ys)) := by
    simp only [marked, List.append_assoc]
    rfl
  rw [hwrite, tokens_text not_mem_escape, hopen, List.append_assoc, tokens_text not_mem_escape,
    hclose]
  simp only [List.append_assoc, List.cons_append]

/-- The tags of the marked parts and of what follows. -/
lemma tags_parts (parts : List (List Char × List Char)) (last : List Char) :
    tags (parts.flatMap (marked escape) ++ escape last) =
      (List.replicate parts.length [markTag false, markTag true]).flatten := by
  have htext : ∀ xs : List Char, (xs.map Token.text).filterMap Token.tag? = [] := fun xs => by
    induction xs with
    | nil => rfl
    | cons c xs ih => exact ih
  induction parts with
  | nil =>
      rw [List.flatMap_nil, List.nil_append, tags, tokens_escape, htext]
      rfl
  | cons p parts ih =>
      rw [tags] at ih ⊢
      rw [List.flatMap_cons, List.append_assoc, tokens_marked, List.length_cons,
        List.replicate_succ, List.flatten_cons, ← ih]
      simp only [List.filterMap_append, htext, List.nil_append, List.filterMap_cons, Token.tag?,
        List.cons_append, List.append_assoc]

lemma markup_not_mem_parts (parts : List (List Char × List Char)) (last : List Char) :
    Token.markup ∉ tokens (parts.flatMap (marked escape) ++ escape last) := by
  have htext : ∀ xs : List Char, Token.markup ∉ xs.map Token.text := fun xs => by simp
  induction parts with
  | nil =>
      rw [List.flatMap_nil, List.nil_append, tokens_escape]
      exact htext _
  | cons p parts ih =>
      rw [List.flatMap_cons, List.append_assoc, tokens_marked]
      simp only [List.mem_append, List.mem_cons, htext, ih, reduceCtorEq, or_self,
        not_false_eq_true]

/-- The references of the marked parts, where a tag stands for itself. -/
lemma decode_parts (parts : List (List Char × List Char)) (last : List Char) :
    decode (parts.flatMap (marked escape) ++ escape last) =
      parts.flatMap (marked id) ++ last := by
  induction parts with
  | nil => exact decode_escape last
  | cons p parts ih =>
      have hopen : ∀ ys, decode ("<mark>".toList ++ ys) = "<mark>".toList ++ decode ys :=
        decode_append_of_not_mem (by decide)
      have hclose : ∀ ys, decode ("</mark>".toList ++ ys) = "</mark>".toList ++ decode ys :=
        decode_append_of_not_mem (by decide)
      simp only [List.flatMap_cons, marked, List.append_assoc, id_eq] at ih ⊢
      rw [decode_escape_append, hopen, decode_escape_append, hclose, ih]

/-- **Highlights**: the tags of the result are opening and closing marks without attributes, in
turn and in equal number, it has no comment, and its references, with each tag read as its text,
stand for the text that was given. -/
theorem safeSearchHighlight_spec (s : String) :
    (∃ n, tags (safeSearchHighlight s).toList =
      (List.replicate n [markTag false, markTag true]).flatten) ∧
    Token.markup ∉ tokens (safeSearchHighlight s).toList ∧
    decode (safeSearchHighlight s).toList = s.toList := by
  have hresult : (safeSearchHighlight s).toList = markAll (escape s.toList) :=
    String.toList_ofList
  obtain ⟨parts, last, htext, hmark⟩ := markAll_parts s.toList
  rw [hresult, hmark]
  refine ⟨⟨parts.length, tags_parts parts last⟩, markup_not_mem_parts parts last, ?_⟩
  rw [decode_parts, htext]

end Vussa.Highlight
