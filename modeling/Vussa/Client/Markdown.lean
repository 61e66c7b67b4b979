import Vussa.Client.Highlight
import Vussa.Lib.Delimiters

/-!
Messages as HTML (`lib/safe-markdown.js`). A string of the page is a text of Unicode characters.

* `linkMatch`, `Element.pass`, `renderSafeMarkdown`: the passes of the function;
* `Item`, `items`: the text with its URLs;
* `Sym`, `Sym.write`, `written`: the result, by the symbols that the passes write;
* `Sym.tokens`, `tokens_written`: what the tokenizer reads;
* `renderSafeMarkdown_spec`: **whatever the text, the tags are links to web pages, code, emphasis
  and line breaks, with the attributes of the source**.
-/

namespace Vussa.Markdown

open Html Replace Delimiters

/-! ### The function -/

/-- `escapeHtml`: the table is that of the search results. -/
def escapeHtml (value : List Char) : List Char := value.flatMap Highlight.htmlEscape

/-- The white space `\s` of a regular expression. -/
def isWhite (c : Char) : Bool :=
  [0x09, 0x0a, 0x0b, 0x0c, 0x0d, 0x20, 0xa0, 0x1680, 0x2028, 0x2029, 0x202f, 0x205f, 0x3000,
    0xfeff].contains c.toNat || (0x2000 ≤ c.toNat && c.toNat ≤ 0x200a)

/-- `https?:\/\/`, with the optional letter and without it. -/
def scheme (secure : Bool) : List Char := if secure then "https://".toList else "http://".toList

/-- The scheme at the head of a text. -/
def scheme? (text : List Char) : Option Bool :=
  if scheme true <+: text then some true
  else if scheme false <+: text then some false
  else none

/-- What is written before the value of `href`. -/
def linkStart : List Char := "<a href=\"".toList

/-- What is written between the value of `href` and the text. -/
def linkMiddle : List Char :=
  "\" target=\"_blank\" rel=\"noopener noreferrer nofollow\">".toList

/-- The link that replaces a URL. -/
def linked (url : List Char) : List Char :=
  linkStart ++ url ++ linkMiddle ++ url ++ "</a>".toList

/-- The pattern `(https?:\/\/[^\s<]+)` and its replacement. -/
def linkMatch : Find Char Char := fun html =>
  (scheme? html).bind fun secure =>
    let rest := (html.drop (scheme secure).length).takeWhile fun c => !isWhite c && c != '<'
    if rest = [] then none
    else some (linked (scheme secure ++ rest), (scheme secure ++ rest).length)

/-- The elements that delimiters of the text stand for. -/
inductive Element where
  | code
  | strong
  | em
  deriving DecidableEq, Repr

/-- `` ` ``. -/
def backtick : Char := Char.ofNat 0x60

/-- `width` many of a mark, on one line. -/
def marks (mark : Char) (width : ℕ) (hwidth : 0 < width) (hmark : '\n' ≠ mark) :
    Delimiter Char where
  isMark c := c == mark
  isBreak c := c == '\n'
  width := width
  width_pos := hwidth
  isMark_of_isBreak c h := by
    rw [beq_iff_eq] at h
    exact h ▸ beq_eq_false_iff_ne.mpr hmark

namespace Element

/-- The patterns `` `([^`\n]+)` ``, `\*\*([^*\n]+)\*\*` and `\*([^*\n]+)\*`. -/
def delimiter : Element → Delimiter Char
  | code => marks backtick 1 (by decide) (by decide)
  | strong => marks '*' 2 (by decide) (by decide)
  | em => marks '*' 1 (by decide) (by decide)

def name : Element → List Char
  | code => "code".toList
  | strong => "strong".toList
  | em => "em".toList

def tag (e : Element) (closing : Bool) : Tag := { closing := closing, name := e.name }

/-- The replacement of all matches of the pattern: `<code>$1</code>`, and so on. -/
def pass (e : Element) (html : List Char) : List Char :=
  e.delimiter.wrap (fun _ => (e.tag false).write) (fun _ => (e.tag true).write) html

end Element

/-- `html.replace(/\n/g, '<br>')`. -/
def lineBreak (c : Char) : List Char := if c = '\n' then "<br>".toList else [c]

/-- `renderSafeMarkdown`. -/
def renderSafeMarkdown (value : String) : String :=
  let html := escapeHtml value.toList
  let html := replaceAll (fun c => [c]) linkMatch html
  let html := Element.code.pass html
  let html := Element.strong.pass html
  let html := Element.em.pass html
  String.ofList (html.flatMap lineBreak)

example : renderSafeMarkdown "**a** <b>\n*c*" = "<strong>a</strong> &lt;b&gt;<br><em>c</em>" := by
  decide +kernel

/-! ### URLs of the text -/

/-- The text by its URLs, and the tags that are put between. -/
inductive Item where
  | char (c : Char)
  | url (secure : Bool) (rest : List Char)
  | tag (e : Element) (closing : Bool)
  | br
  deriving DecidableEq, Repr

/-- The URL at the head of the text. -/
def urlMatch : Find Char Item := fun text =>
  (scheme? text).bind fun secure =>
    let rest := (text.drop (scheme secure).length).takeWhile fun c => !isWhite c
    if rest = [] then none else some ([.url secure rest], (scheme secure ++ rest).length)

/-- The text by its URLs. -/
def items (text : List Char) : List Item := replaceAll (fun c => [.char c]) urlMatch text

/-- What the passes after the first see, and what they write. -/
inductive Sym where
  | char (c : Char)
  /-- a character in the value of `href` -/
  | value (c : Char)
  /-- the beginning of a link, with the scheme -/
  | link (secure : Bool)
  /-- what is between the value of `href` and the text of a link, with the scheme -/
  | middle (secure : Bool)
  | close
  | tag (e : Element) (closing : Bool)
  | br
  deriving DecidableEq, Repr

/-- The symbols of an item. -/
def Item.expand : Item → List Sym
  | char c => [.char c]
  | url secure rest =>
      .link secure :: rest.map .value ++ .middle secure :: rest.map .char ++ [.close]
  | tag e closing => [.tag e closing]
  | br => [.br]

namespace Sym

def write : Sym → List Char
  | char c => reference c
  | value c => reference c
  | link secure => linkStart ++ scheme secure
  | middle secure => linkMiddle ++ scheme secure
  | close => "</a>".toList
  | tag e closing => (e.tag closing).write
  | br => "<br>".toList

end Sym

/-- What symbols write. -/
def written (xs : List Sym) : List Char := xs.flatMap Sym.write

lemma written_append (xs ys : List Sym) : written (xs ++ ys) = written xs ++ written ys :=
  List.flatMap_append

lemma written_cons (x : Sym) (xs : List Sym) : written (x :: xs) = x.write ++ written xs :=
  List.flatMap_cons

lemma written_map_char (cs : List Char) : written (cs.map .char) = escape cs :=
  List.flatMap_map ..

lemma written_map_value (cs : List Char) : written (cs.map .value) = escape cs :=
  List.flatMap_map ..

lemma written_url (secure : Bool) (rest : List Char) :
    written (Item.url secure rest).expand = linked (scheme secure ++ escape rest) := by
  have hclose : written [.close] = "</a>".toList := List.append_nil _
  rw [Item.expand, written_append, written_append, written_cons, written_cons, written_map_char,
    written_map_value, hclose]
  simp only [Sym.write, linked, List.append_assoc]

/-! ### The first two passes -/

lemma escape_scheme (secure : Bool) : escape (scheme secure) = scheme secure := by
  cases secure <;> decide

lemma scheme_prefix_escape {secure : Bool} {text : List Char} :
    scheme secure <+: escape text ↔ scheme secure <+: text := by
  constructor
  · rintro ⟨r, hr⟩
    rw [← escape_scheme] at hr
    obtain ⟨text', rfl, -⟩ := escape_eq_append hr.symm
    exact List.prefix_append _ _
  · rintro ⟨text', rfl⟩
    rw [escape_append, escape_scheme]
    exact List.prefix_append _ _

lemma scheme?_escape (text : List Char) : scheme? (escape text) = scheme? text := by
  simp only [scheme?, scheme_prefix_escape]

lemma scheme?_eq_some {text : List Char} {secure : Bool} (h : scheme? text = some secure) :
    ∃ text', text = scheme secure ++ text' := by
  rw [scheme?] at h
  split_ifs at h with htrue hfalse
  · obtain rfl := Option.some.inj h
    obtain ⟨text', rfl⟩ := htrue
    exact ⟨text', rfl⟩
  · obtain rfl := Option.some.inj h
    obtain ⟨text', rfl⟩ := hfalse
    exact ⟨text', rfl⟩

/-- No URL begins with another letter. -/
lemma scheme?_cons {c : Char} (h : c ≠ 'h') (cs : List Char) : scheme? (c :: cs) = none := by
  have hbegins : ∀ secure, ¬ scheme secure <+: c :: cs := by
    rintro secure ⟨r, hr⟩
    cases secure <;> exact h (List.cons.inj hr).1.symm
  rw [scheme?, if_neg (hbegins true), if_neg (hbegins false)]

/-- No URL begins inside a reference. -/
lemma letter_not_mem_tail (c : Char) : 'h' ∉ (reference c).tail := by
  by_cases h : Special c
  · rcases h with rfl | rfl | rfl | rfl | rfl <;> decide
  · rw [reference_of_not_special h]
    exact List.not_mem_nil

/-- A reference has no white space, and does not stand for any. -/
lemma takeWhile_escape (text : List Char) :
    (escape text).takeWhile (fun c => !isWhite c && c != '<') =
      escape (text.takeWhile fun c => !isWhite c) := by
  induction text with
  | nil => rfl
  | cons c text ih =>
      rw [escape_cons]
      by_cases h : Special c
      · have hall : ∀ c', Special c' → isWhite c' = false ∧
            (reference c').all (fun d => !isWhite d && d != '<') = true := by
          rintro c' (rfl | rfl | rfl | rfl | rfl) <;> decide
        obtain ⟨hwhite, hreference⟩ := hall c h
        rw [List.takeWhile_append_of_pos (List.all_eq_true.mp hreference), ih,
          List.takeWhile_cons_of_pos (by rw [hwhite]; rfl), escape_cons]
      · have hne : (c != '<') = true := bne_iff_ne.mpr fun heq => h (.inr (.inl heq))
        rw [reference_of_not_special h, List.singleton_append, List.takeWhile_cons,
          List.takeWhile_cons, hne, Bool.and_true]
        cases isWhite c with
        | true => rfl
        | false =>
            simp only [Bool.not_false, if_true]
            rw [ih, escape_cons, reference_of_not_special h, List.singleton_append]

/-- The URLs of the escaped text are those of the text. -/
lemma linkMatch_escape (text : List Char) :
    linkMatch (escape text) = (urlMatch text).map fun (out, n) =>
      (out.flatMap fun i => written i.expand, (escape (text.take n)).length) := by
  rw [linkMatch, urlMatch, scheme?_escape]
  cases hscheme : scheme? text with
  | none => rfl
  | some secure =>
      obtain ⟨text', rfl⟩ := scheme?_eq_some hscheme
      have hdrop : (escape (scheme secure ++ text')).drop (scheme secure).length =
          escape text' := by
        rw [escape_append, escape_scheme, List.drop_left]
      simp only [Option.bind_some, hdrop, List.drop_left, takeWhile_escape]
      cases hrest : text'.takeWhile fun c => !isWhite c with
      | nil => rfl
      | cons c rest =>
          have htake : (scheme secure ++ text').take (scheme secure ++ c :: rest).length =
              scheme secure ++ c :: rest := by
            have hbegins := List.takeWhile_prefix (fun c => !isWhite c) (l := text')
            rw [hrest] at hbegins
            exact List.prefix_iff_eq_take.mp (List.prefix_append_right_inj _ |>.mpr hbegins) |>.symm
          rw [if_neg (List.cons_ne_nil c rest), if_neg (by
            rw [escape_cons]
            exact fun hnil => reference_ne_nil c (List.append_eq_nil_iff.mp hnil).1)]
          simp only [Option.map_some, htake, List.flatMap_cons, List.flatMap_nil, List.append_nil,
            written_url, escape_append, escape_scheme]

/-- A URL is a scheme and some characters up to white space. -/
lemma urlMatch_eq_some {text : List Char} {out : List Item} {n : ℕ}
    (h : urlMatch text = some (out, n)) :
    ∃ secure rest after, text = scheme secure ++ rest ++ after ∧ out = [.url secure rest] ∧
      n = (scheme secure ++ rest).length ∧ rest ≠ [] ∧ ∀ c ∈ rest, isWhite c = false := by
  rw [urlMatch] at h
  obtain ⟨secure, hscheme, h⟩ := Option.bind_eq_some_iff.mp h
  obtain ⟨text', rfl⟩ := scheme?_eq_some hscheme
  dsimp only at h
  rw [List.drop_left] at h
  split_ifs at h with hrest
  obtain ⟨rfl, rfl⟩ := Prod.mk.inj (Option.some.inj h)
  refine ⟨secure, _, text'.dropWhile fun c => !isWhite c, ?_, rfl, rfl, hrest, fun c hc => ?_⟩
  · rw [List.append_assoc, List.takeWhile_append_dropWhile]
  · have hwhite := List.mem_takeWhile_imp hc
    rwa [Bool.not_eq_true'] at hwhite

/-- The symbols of the text. -/
def syms (text : List Char) : List Sym := (items text).flatMap Item.expand

/-- The text after the first two passes. -/
lemma written_syms (text : List Char) :
    replaceAll (fun c => [c]) linkMatch (escapeHtml text) = written (syms text) := by
  have hescape : escapeHtml text = text.flatMap reference := rfl
  have hwrite : written (syms text) = (items text).flatMap fun i => written i.expand :=
    List.flatMap_assoc
  rw [hescape, hwrite, items]
  refine replaceAll_flatMap reference_ne_nil (fun xs out n hmatch => ?_) (fun c cs hmatch zs hzs
    hsuffix => ?_) (fun c => ?_) text
  · have hlink := linkMatch_escape xs
    rw [hmatch] at hlink
    obtain ⟨secure, rest, after, rfl, -, rfl, hrest, -⟩ := urlMatch_eq_some hmatch
    have hlength := List.length_pos_iff.mpr hrest
    refine ⟨?_, ?_, ?_, hlink⟩
    · rw [List.length_append]
      omega
    · rw [List.append_assoc]
      intro hnil
      exact hrest (List.append_eq_nil_iff.mp (List.append_eq_nil_iff.mp hnil).2).1
    · simp only [List.length_append]
      omega
  · obtain ⟨pre, hpre⟩ := hsuffix
    cases pre with
    | nil =>
        obtain rfl : zs = reference c := hpre
        have hlink := linkMatch_escape (c :: cs)
        rw [hmatch, escape_cons] at hlink
        exact hlink
    | cons x pre =>
        obtain ⟨z, zs, rfl⟩ := List.exists_cons_of_ne_nil hzs
        have htail : z ∈ (reference c).tail := by
          rw [← hpre, List.cons_append, List.tail_cons]
          exact List.mem_append_right pre List.mem_cons_self
        have hne : z ≠ 'h' := by
          rintro rfl
          exact letter_not_mem_tail c htail
        rw [List.cons_append, linkMatch, scheme?_cons hne]
        rfl
  · rw [List.flatMap_singleton, List.flatMap_singleton']
    exact List.append_nil _

/-! ### The passes on symbols -/

/-- The character that a delimiter of the text sees. -/
def Sym.letter? : Sym → Option Char
  | char c | value c => some c
  | link _ | middle _ | close | tag _ _ | br => none

/-- The delimiter on symbols. -/
def Element.onSyms (e : Element) : Delimiter Sym := e.delimiter.comap Sym.letter?

/-- The pass on symbols. -/
def Element.wrap (e : Element) (xs : List Sym) : List Sym :=
  e.onSyms.wrap (fun _ => [.tag e false]) (fun _ => [.tag e true]) xs

lemma Element.isMark_iff (e : Element) (c : Char) :
    e.delimiter.isMark c = true ↔ c = if e = code then backtick else '*' := by
  cases e <;> exact beq_iff_eq

lemma Element.isBreak_iff (e : Element) (c : Char) : e.delimiter.isBreak c = true ↔ c = '\n' := by
  cases e <;> exact beq_iff_eq

/-- References and tags have no marks. -/
lemma Element.spells (e : Element) : Delimiter.Spells e.onSyms e.delimiter Sym.write where
  width := rfl
  mark a h := by
    have hletter : ∀ c, e.delimiter.isMark c = true → reference c = [c] := by
      intro c hc
      rw [e.isMark_iff] at hc
      rw [hc]
      cases e <;> decide
    cases a with
    | char c => exact ⟨c, hletter c h, h⟩
    | value c => exact ⟨c, hletter c h, h⟩
    | link _ | middle _ | close | tag _ _ | br => exact absurd h Bool.false_ne_true
  isBreak a h := by
    have hletter : ∀ c, e.delimiter.isBreak c = true → reference c = [c] := by
      intro c hc
      rw [e.isBreak_iff] at hc
      rw [hc]
      decide
    cases a with
    | char c => exact ⟨c, hletter c h, h⟩
    | value c => exact ⟨c, hletter c h, h⟩
    | link _ | middle _ | close | tag _ _ | br => exact absurd h Bool.false_ne_true
  inner a h := by
    have hletter : ∀ c, e.delimiter.isInner c = true →
        reference c ≠ [] ∧ ∀ d ∈ reference c, e.delimiter.isInner d = true := by
      intro c hc
      refine ⟨reference_ne_nil c, ?_⟩
      by_cases hspecial : Special c
      · have hall : ∀ c', Special c' → (reference c').all e.delimiter.isInner = true := by
          rintro c' (rfl | rfl | rfl | rfl | rfl) <;> cases e <;> decide
        exact List.all_eq_true.mp (hall c hspecial)
      · rw [reference_of_not_special hspecial]
        exact fun d hd => List.mem_singleton.mp hd ▸ hc
    have hfixed : ∀ {cs : List Char}, cs ≠ [] → cs.all e.delimiter.isInner = true →
        cs ≠ [] ∧ ∀ d ∈ cs, e.delimiter.isInner d = true := fun hne hall =>
      ⟨hne, List.all_eq_true.mp hall⟩
    cases a with
    | char c => exact hletter c h
    | value c => exact hletter c h
    | link secure =>
        exact hfixed (by cases secure <;> decide) (by cases e <;> cases secure <;> decide)
    | middle secure =>
        exact hfixed (by cases secure <;> decide) (by cases e <;> cases secure <;> decide)
    | close => exact hfixed (by decide) (by cases e <;> decide)
    | tag e' closing =>
        exact hfixed (by simp [Sym.write, Tag.write])
          (by cases e <;> cases e' <;> cases closing <;> decide)
    | br => exact hfixed (by decide) (by cases e <;> decide)

/-- A pass on what symbols write is a pass on the symbols. -/
lemma Element.pass_written (e : Element) (xs : List Sym) :
    e.pass (written xs) = written (e.wrap xs) :=
  e.spells.wrap_flatMap (fun _ => List.flatMap_singleton ..) (fun _ => List.flatMap_singleton ..) xs

/-- The last pass on symbols. -/
def Sym.lineBreak (x : Sym) : Sym := if x.letter? = some '\n' then br else x

/-- No other character is written with a line break. -/
lemma Sym.newline_not_mem_write {x : Sym} (h : x.letter? ≠ some '\n') : '\n' ∉ x.write := by
  have hreference : ∀ c, c ≠ '\n' → '\n' ∉ reference c := by
    intro c hc
    by_cases hspecial : Special c
    · rcases hspecial with rfl | rfl | rfl | rfl | rfl <;> decide
    · rw [reference_of_not_special hspecial, List.mem_singleton]
      exact Ne.symm hc
  cases x with
  | char c => exact hreference c fun heq => h (congrArg some heq)
  | value c => exact hreference c fun heq => h (congrArg some heq)
  | link secure => cases secure <;> decide
  | middle secure => cases secure <;> decide
  | close => decide
  | tag e closing => cases e <;> cases closing <;> decide
  | br => decide

lemma Sym.write_lineBreak (x : Sym) : x.write.flatMap Markdown.lineBreak = x.lineBreak.write := by
  by_cases h : x.letter? = some '\n'
  · have hwrite : x.write = ['\n'] := by
      cases x with
      | char c | value c =>
          obtain rfl := Option.some.inj h
          rfl
      | link _ | middle _ | close | tag _ _ | br => exact absurd h (Option.some_ne_none _).symm
    rw [lineBreak, if_pos h, hwrite]
    rfl
  · have hkeep : ∀ cs : List Char, '\n' ∉ cs → cs.flatMap Markdown.lineBreak = cs := by
      intro cs hcs
      induction cs with
      | nil => rfl
      | cons c cs ih =>
          rw [List.mem_cons, not_or] at hcs
          rw [List.flatMap_cons, ih hcs.2, Markdown.lineBreak, if_neg (Ne.symm hcs.1)]
          rfl
    rw [lineBreak, if_neg h, hkeep _ (newline_not_mem_write h)]

/-- The symbols of the result. -/
def result (text : List Char) : List Sym :=
  (Element.em.wrap (Element.strong.wrap (Element.code.wrap (syms text)))).map Sym.lineBreak

/-- **The result, by its symbols.** -/
theorem renderSafeMarkdown_toList (s : String) :
    (renderSafeMarkdown s).toList = written (result s.toList) := by
  have hrender : (renderSafeMarkdown s).toList = (Element.em.pass (Element.strong.pass
      (Element.code.pass (replaceAll (fun c => [c]) linkMatch (escapeHtml s.toList))))).flatMap
        lineBreak := String.toList_ofList
  have hbreaks : ∀ xs, (written xs).flatMap lineBreak = written (xs.map Sym.lineBreak) := by
    intro xs
    rw [written, written, List.flatMap_assoc, List.flatMap_map]
    simp only [Sym.write_lineBreak]
  rw [hrender, written_syms, Element.pass_written, Element.pass_written, Element.pass_written,
    hbreaks, result]

/-! ### What the tokenizer reads -/

/-- Symbols in their places, inside the value of `href` or outside. -/
inductive Sound : Bool → List Sym → Prop where
  | nil : Sound false []
  | char (c : Char) {xs : List Sym} : Sound false xs → Sound false (.char c :: xs)
  | value {c : Char} {xs : List Sym} : c ≠ '\n' → Sound true xs → Sound true (.value c :: xs)
  | link (secure : Bool) {xs : List Sym} : Sound true xs → Sound false (.link secure :: xs)
  | middle (secure : Bool) {xs : List Sym} : Sound false xs → Sound true (.middle secure :: xs)
  | close {xs : List Sym} : Sound false xs → Sound false (.close :: xs)
  | tag (e : Element) (closing : Bool) {inValue : Bool} {xs : List Sym} :
      Sound inValue xs → Sound inValue (.tag e closing :: xs)
  | br {xs : List Sym} : Sound false xs → Sound false (.br :: xs)

namespace Sound

/-- What follows may be replaced. -/
lemma append_congr {inValue : Bool} {xs ys zs : List Sym} (h : Sound inValue (xs ++ ys))
    (hrest : ∀ inValue, Sound inValue ys → Sound inValue zs) : Sound inValue (xs ++ zs) := by
  induction xs generalizing inValue with
  | nil => exact hrest inValue h
  | cons x xs ih =>
      cases h with
      | char c h => exact .char c (ih h)
      | value hc h => exact .value hc (ih h)
      | link secure h => exact .link secure (ih h)
      | middle secure h => exact .middle secure (ih h)
      | close h => exact .close (ih h)
      | tag e closing h => exact .tag e closing (ih h)
      | br h => exact .br (ih h)

/-- Marks may be left out. -/
lemma of_marks (e : Element) {inValue : Bool} {xs ys : List Sym} (h : Sound inValue (xs ++ ys))
    (hxs : ∀ x ∈ xs, e.onSyms.isMark x = true) : Sound inValue ys := by
  induction xs generalizing inValue with
  | nil => exact h
  | cons x xs ih =>
      obtain ⟨hx, htail⟩ := List.forall_mem_cons.mp hxs
      cases h with
      | char c h => exact ih h htail
      | value hc h => exact ih h htail
      | tag e' closing h => exact ih h htail
      | link _ _ | middle _ _ | close _ | br _ => exact absurd hx Bool.false_ne_true

/-- A pass leaves the symbols in their places. -/
lemma wrap (e : Element) {inValue : Bool} {xs : List Sym} (h : Sound inValue xs) :
    Sound inValue (e.wrap xs) := by
  induction xs using e.onSyms.replace_induction generalizing inValue with
  | nil => exact h
  | span opening inner closing rest hspan ih =>
      rw [Element.wrap, Delimiter.wrap, Delimiter.replace_span hspan]
      rw [List.append_assoc, List.append_assoc] at h
      have hinner := of_marks e h hspan.opening_mark
      simp only [List.append_assoc, List.cons_append, List.nil_append]
      refine .tag e false (hinner.append_congr fun inValue hrest => .tag e true ?_)
      exact ih (of_marks e hrest hspan.closing_mark)
  | cons x xs hnone ih =>
      rw [Element.wrap, Delimiter.wrap, Delimiter.replace_cons]
      · have hx : Sound inValue ([x] ++ xs) := h
        exact hx.append_congr fun _ => ih
      · exact Delimiter.find_eq_none_iff.mpr hnone

lemma lineBreak {inValue : Bool} {xs : List Sym} (h : Sound inValue xs) :
    Sound inValue (xs.map Sym.lineBreak) := by
  induction h with
  | nil => exact .nil
  | char c _ ih =>
      rw [List.map_cons, Sym.lineBreak]
      split_ifs with hc
      · exact .br ih
      · exact .char c ih
  | value hc _ ih =>
      have hletter : ∀ {c}, c ≠ '\n' → (Sym.value c).letter? ≠ some '\n' := fun hc heq =>
        hc (Option.some.inj heq)
      rw [List.map_cons, Sym.lineBreak, if_neg (hletter hc)]
      exact .value hc ih
  | link secure _ ih => exact .link secure ih
  | middle secure _ ih => exact .middle secure ih
  | close _ ih => exact .close ih
  | tag e closing _ ih => exact .tag e closing ih
  | br _ ih => exact .br ih

end Sound

lemma sound_syms (text : List Char) : Sound false (syms text) := by
  have hitem : ∀ {i : Item} {xs : List Sym}, i ∈ items text → Sound false xs →
      Sound false (i.expand ++ xs) := by
    intro i xs hi hxs
    have hchars : ∀ cs : List Char, Sound false (cs.map .char ++ .close :: xs) := by
      intro cs
      induction cs with
      | nil => exact .close hxs
      | cons c cs ih => exact .char c ih
    have hvalues : ∀ {cs : List Char} {ys : List Sym}, (∀ c ∈ cs, isWhite c = false) →
        Sound true ys → Sound true (cs.map .value ++ ys) := by
      intro cs ys hcs hys
      induction cs with
      | nil => exact hys
      | cons c cs ih =>
          obtain ⟨hc, hcs⟩ := List.forall_mem_cons.mp hcs
          refine .value ?_ (ih hcs)
          rintro rfl
          exact absurd hc (by decide)
    rcases mem_replaceAll hi with ⟨c, -, hc⟩ | ⟨zs, out, n, -, hmatch, hout⟩
    · obtain rfl := List.mem_singleton.mp hc
      exact .char c hxs
    · obtain ⟨secure, rest, after, -, rfl, -, -, hrest⟩ := urlMatch_eq_some hmatch
      obtain rfl := List.mem_singleton.mp hout
      have hlink := Sound.link secure (hvalues hrest (.middle secure (hchars rest)))
      simpa only [Item.expand, List.cons_append, List.append_assoc, List.nil_append] using hlink
  rw [syms]
  generalize items text = is at hitem
  induction is with
  | nil => exact .nil
  | cons i is ih =>
      rw [List.flatMap_cons]
      exact hitem List.mem_cons_self (ih fun hi => hitem (List.mem_cons_of_mem i hi))

lemma sound_result (text : List Char) : Sound false (result text) :=
  (((sound_syms text).wrap .code).wrap .strong).wrap .em |>.lineBreak

/-- The opening tag of a link. -/
def linkTag (href : List Char) : Tag where
  name := "a".toList
  attributes := [("href".toList, href), ("target".toList, "_blank".toList),
    ("rel".toList, "noopener noreferrer nofollow".toList)]

/-- The closing tag of a link. -/
def closeTag : Tag := { closing := true, name := "a".toList }

/-- The tag of a line break. -/
def breakTag : Tag := { name := "br".toList }

/-- The tokens of symbols, from the value of `href` that is being read. -/
def Sym.tokens : Option (List Char) → List Sym → List Token
  | _, [] => []
  | none, .char c :: xs => (reference c).map Token.text ++ tokens none xs
  | none, .link secure :: xs => tokens (some (scheme secure)) xs
  | none, .close :: xs => .tag closeTag :: tokens none xs
  | none, .tag e closing :: xs => .tag (e.tag closing) :: tokens none xs
  | none, .br :: xs => .tag breakTag :: tokens none xs
  | some v, .middle secure :: xs =>
      .tag (linkTag v) :: (scheme secure).map Token.text ++ tokens none xs
  | some v, .value c :: xs => tokens (some (v ++ reference c)) xs
  | some v, .tag e closing :: xs => tokens (some (v ++ (e.tag closing).write)) xs
  | v?, _ :: xs => tokens v? xs

section Tokens

variable (c : Char) (secure : Bool) (e : Element) (closing : Bool) (v : List Char) (xs : List Sym)

namespace Sym

lemma tokens_nil (v? : Option (List Char)) : tokens v? [] = [] := rfl

lemma tokens_char :
    tokens none (.char c :: xs) = (reference c).map Token.text ++ tokens none xs := rfl

lemma tokens_link : tokens none (.link secure :: xs) = tokens (some (scheme secure)) xs := rfl

lemma tokens_close : tokens none (.close :: xs) = .tag closeTag :: tokens none xs := rfl

lemma tokens_tag : tokens none (.tag e closing :: xs) = .tag (e.tag closing) :: tokens none xs :=
  rfl

lemma tokens_br : tokens none (.br :: xs) = .tag breakTag :: tokens none xs := rfl

lemma tokens_value : tokens (some v) (.value c :: xs) = tokens (some (v ++ reference c)) xs := rfl

lemma tokens_value_tag : tokens (some v) (.tag e closing :: xs) =
    tokens (some (v ++ (e.tag closing).write)) xs := rfl

lemma tokens_middle : tokens (some v) (.middle secure :: xs) =
    .tag (linkTag v) :: (scheme secure).map Token.text ++ tokens none xs := rfl

end Sym

end Tokens

/-- A tag without attributes. -/
lemma plain_of_name {name : List Char} (h : PlainName name) (closing : Bool) :
    ({ closing := closing, name := name } : Tag).Plain where
  name := h
  attributeName _ ha := absurd ha List.not_mem_nil
  nodup := List.nodup_nil
  value _ ha := absurd ha List.not_mem_nil

lemma Element.tag_plain (e : Element) (closing : Bool) : (e.tag closing).Plain :=
  plain_of_name (by cases e <;> decide) closing

lemma linkTag_plain {href : List Char} (h : '"' ∉ href) : (linkTag href).Plain where
  name := (by decide : PlainName "a".toList)
  attributeName := List.forall_mem_cons.mpr ⟨(by decide : PlainName "href".toList),
    (by decide : ∀ a ∈ [("target".toList, "_blank".toList),
      ("rel".toList, "noopener noreferrer nofollow".toList)], PlainName a.1)⟩
  nodup := (by decide : ["href".toList, "target".toList, "rel".toList].Nodup)
  value := List.forall_mem_cons.mpr ⟨h,
    (by decide : ∀ a ∈ [("target".toList, "_blank".toList),
      ("rel".toList, "noopener noreferrer nofollow".toList)], '"' ∉ a.2)⟩

lemma write_linkTag (href : List Char) :
    (linkTag href).write = linkStart ++ href ++ linkMiddle := by
  rw [Tag.write, linkTag, List.flatMap_cons, writeAttribute]
  simp only [List.append_assoc, List.cons_append]
  rfl

lemma quote_not_mem_reference (c : Char) : '"' ∉ reference c := by
  intro h
  rcases mem_reference h with heq | hspecial
  · exact absurd heq (by decide)
  · exact hspecial (by decide)

lemma less_not_mem_reference (c : Char) : '<' ∉ reference c := by
  intro h
  rcases mem_reference h with heq | hspecial
  · exact absurd heq (by decide)
  · exact hspecial (by decide)

/-- What is written before the symbols. -/
def before : Option (List Char) → List Char
  | none => []
  | some v => linkStart ++ v

/-- **The tokens of the result.** -/
theorem tokens_written {inValue : Bool} {xs : List Sym} (h : Sound inValue xs)
    {v? : Option (List Char)} (hv? : v?.isSome = inValue) (hquote : ∀ v, v? = some v → '"' ∉ v) :
    Html.tokens (before v? ++ written xs) = Sym.tokens v? xs := by
  have hnone : ∀ {w? : Option (List Char)}, w?.isSome = false → w? = none := by
    intro w? hw?
    rwa [← Bool.not_eq_true, Option.not_isSome_iff_eq_none] at hw?
  induction h generalizing v? with
  | nil =>
      obtain rfl := hnone hv?
      rfl
  | char c _ ih =>
      obtain rfl := hnone hv?
      rw [written_cons, Sym.tokens_char, ← ih rfl hquote]
      exact tokens_text (less_not_mem_reference c) _
  | @value c xs _ _ ih =>
      obtain ⟨v, rfl⟩ := Option.isSome_iff_exists.mp hv?
      have hvalue : ∀ w, some (v ++ reference c) = some w → '"' ∉ w := by
        intro w hw
        rw [← Option.some.inj hw, List.mem_append, not_or]
        exact ⟨hquote v rfl, quote_not_mem_reference c⟩
      rw [Sym.tokens_value, ← ih rfl hvalue]
      simp only [before, written_cons, Sym.write, List.append_assoc]
  | @link secure xs _ ih =>
      obtain rfl := hnone hv?
      have hscheme : ∀ w, some (scheme secure) = some w → '"' ∉ w := by
        intro w hw
        rw [← Option.some.inj hw]
        cases secure <;> decide
      rw [Sym.tokens_link, ← ih rfl hscheme]
      simp only [before, written_cons, Sym.write, List.append_assoc, List.nil_append]
  | @middle secure xs _ ih =>
      obtain ⟨v, rfl⟩ := Option.isSome_iff_exists.mp hv?
      have hscheme : '<' ∉ scheme secure := by cases secure <;> decide
      have hrest : Html.tokens (before none ++ written xs) = Sym.tokens none xs :=
        ih rfl fun w hw => absurd hw (by simp)
      have htag := tokens_write (linkTag_plain (hquote v rfl)) (scheme secure ++ written xs)
      have htext := tokens_text hscheme (written xs)
      rw [Sym.tokens_middle, ← hrest]
      rw [write_linkTag, htext] at htag
      simpa only [before, written_cons, Sym.write, List.append_assoc, List.nil_append,
        List.cons_append] using htag
  | @close xs _ ih =>
      obtain rfl := hnone hv?
      rw [Sym.tokens_close, ← ih rfl hquote]
      exact tokens_write (plain_of_name (by decide : PlainName "a".toList) true) (written xs)
  | @tag e closing inValue xs _ ih =>
      cases v? with
      | none =>
          rw [Sym.tokens_tag, ← ih hv? hquote]
          exact tokens_write (e.tag_plain closing) (written xs)
      | some v =>
          have hvalue : ∀ w, some (v ++ (e.tag closing).write) = some w → '"' ∉ w := by
            intro w hw
            rw [← Option.some.inj hw, List.mem_append, not_or]
            exact ⟨hquote v rfl, by cases e <;> cases closing <;> decide⟩
          have hrest : Html.tokens (before (some (v ++ (e.tag closing).write)) ++ written xs) =
              Sym.tokens (some (v ++ (e.tag closing).write)) xs := ih hv? hvalue
          rw [Sym.tokens_value_tag, ← hrest]
          simp only [before, written_cons, Sym.write, List.append_assoc]
  | @br xs _ ih =>
      obtain rfl := hnone hv?
      rw [Sym.tokens_br, ← ih rfl hquote]
      exact tokens_write (plain_of_name (by decide : PlainName "br".toList) false) (written xs)

/-- The tokens of the result, by its symbols. -/
lemma tokens_renderSafeMarkdown (s : String) :
    Html.tokens (renderSafeMarkdown s).toList = Sym.tokens none (result s.toList) := by
  have h : Html.tokens (before none ++ written (result s.toList)) =
      Sym.tokens none (result s.toList) :=
    tokens_written (sound_result s.toList) rfl fun v hv => absurd hv (by simp)
  rwa [before, List.nil_append, ← renderSafeMarkdown_toList] at h

/-! ### The tags of the result -/

/-- The tags of the page: links to web pages with the attributes of the source, and `code`,
`strong`, `em` and `br` without attributes. -/
def Allowed (t : Tag) : Prop :=
  t.name ∈ ["a".toList, "code".toList, "strong".toList, "em".toList, "br".toList] ∧
  if t.name = "a".toList ∧ t.closing = false then
    ∃ href, t.attributes = [("href".toList, href), ("target".toList, "_blank".toList),
        ("rel".toList, "noopener noreferrer nofollow".toList)] ∧
      ("http://".toList <+: decode href ∨ "https://".toList <+: decode href)
  else t.attributes = []

lemma allowed_linkTag {href : List Char} {secure : Bool} (h : scheme secure <+: href) :
    Allowed (linkTag href) := by
  refine ⟨by simp [linkTag], ?_⟩
  rw [if_pos ⟨rfl, rfl⟩]
  refine ⟨href, rfl, ?_⟩
  obtain ⟨rest, rfl⟩ := h
  rw [decode_append_of_not_mem (by cases secure <;> decide)]
  cases secure with
  | false => exact .inl (List.prefix_append _ _)
  | true => exact .inr (List.prefix_append _ _)

lemma allowed_tag (e : Element) (closing : Bool) : Allowed (e.tag closing) := by
  have hmem : ∀ e : Element, e.name ∈ ["a".toList, "code".toList, "strong".toList, "em".toList,
      "br".toList] := fun e => by cases e <;> decide
  refine ⟨hmem e, ?_⟩
  rw [if_neg]
  · rfl
  · rintro ⟨hname, -⟩
    have hne : ∀ e : Element, e.name ≠ "a".toList := fun e => by cases e <;> decide
    exact hne e hname

/-- What the tokenizer reads of symbols is text and tags of the page. -/
lemma allowed_tokens {v? : Option (List Char)} {xs : List Sym}
    (hv? : ∀ v, v? = some v → ∃ secure, scheme secure <+: v) {token : Token}
    (h : token ∈ Sym.tokens v? xs) :
    (∃ c, token = .text c) ∨ ∃ t, token = .tag t ∧ Allowed t := by
  induction xs generalizing v? with
  | nil =>
      rw [Sym.tokens_nil] at h
      exact absurd h List.not_mem_nil
  | cons x xs ih =>
      have hnone : ∀ v : List Char, (none : Option (List Char)) = some v →
          ∃ secure, scheme secure <+: v := fun v hv => absurd hv (by simp)
      have happend : ∀ {v ys : List Char}, (∀ w, some v = some w → ∃ secure, scheme secure <+: w) →
          ∀ w, some (v ++ ys) = some w → ∃ secure, scheme secure <+: w := by
        intro v ys hv w hw
        obtain ⟨secure, hbegins⟩ := hv v rfl
        rw [← Option.some.inj hw]
        exact ⟨secure, hbegins.trans (List.prefix_append v ys)⟩
      cases v? with
      | none =>
          cases x with
          | char c =>
              rcases List.mem_append.mp h with htext | hrest
              · obtain ⟨d, -, rfl⟩ := List.mem_map.mp htext
                exact .inl ⟨d, rfl⟩
              · exact ih hnone hrest
          | link secure =>
              refine ih (fun v hv => ⟨secure, ?_⟩) h
              rw [← Option.some.inj hv]
          | close =>
              rcases List.mem_cons.mp h with rfl | hrest
              · exact .inr ⟨closeTag, rfl, by simp [closeTag], by simp [closeTag]⟩
              · exact ih hnone hrest
          | tag e closing =>
              rcases List.mem_cons.mp h with rfl | hrest
              · exact .inr ⟨_, rfl, allowed_tag e closing⟩
              · exact ih hnone hrest
          | br =>
              rcases List.mem_cons.mp h with rfl | hrest
              · exact .inr ⟨breakTag, rfl, by simp [breakTag], by simp [breakTag]⟩
              · exact ih hnone hrest
          | value _ | middle _ => exact ih hnone h
      | some v =>
          cases x with
          | middle secure =>
              rcases List.mem_cons.mp h with rfl | hrest
              · obtain ⟨secure', hbegins⟩ := hv? v rfl
                exact .inr ⟨_, rfl, allowed_linkTag hbegins⟩
              · rcases List.mem_append.mp hrest with htext | hrest
                · obtain ⟨d, -, rfl⟩ := List.mem_map.mp htext
                  exact .inl ⟨d, rfl⟩
                · exact ih hnone hrest
          | value c => exact ih (happend hv?) h
          | tag e closing => exact ih (happend hv?) h
          | char _ | link _ | close | br => exact ih hv? h

/-- **The tags of a message**: whatever the text, the result is text and tags of the page. -/
theorem renderSafeMarkdown_spec (s : String) :
    ∀ token ∈ Html.tokens (renderSafeMarkdown s).toList,
      (∃ c, token = .text c) ∨ ∃ t, token = .tag t ∧ Allowed t := by
  intro token h
  rw [tokens_renderSafeMarkdown] at h
  exact allowed_tokens (fun v hv => absurd hv (by simp)) h

/-- The link of a text. -/
theorem renderSafeMarkdown_spec_link :
    (∃ c, Token.tag (linkTag "http://x".toList) = .text c) ∨
      ∃ t, Token.tag (linkTag "http://x".toList) = .tag t ∧ Allowed t :=
  renderSafeMarkdown_spec "http://x" _ (by decide +kernel)

end Vussa.Markdown
