import Vussa.Client.Emphasis

/-!
Where the links of a message lead, and how its tags are nested (`lib/safe-markdown.js`).

* `hrefs`, `brackets`, `Faithful`: every link leads to its URL, and the tags are nested;
* `countP_eq_of_leads`, `not_mem_of_leads`: a mark in a URL is used up by a pass;
* `wrap_expand`, `tags_expand`: URLs without marks stay whole;
* `faithful_iff`: **the result is faithful exactly if no URL has a mark and no code span crosses
  emphasis**.
-/

namespace Vussa.Markdown

open Html Replace Delimiters Delimiter Nesting

/-! ### Links and nesting of the result -/

/-- The value of `href` of the opening tag of a link. -/
def href? (t : Tag) : Option (List Char) :=
  if t.name = "a".toList ∧ t.closing = false then t.attributes.lookup "href".toList else none

/-- The values of `href` of some tags. -/
def hrefs (ts : List Tag) : List (List Char) := ts.filterMap href?

/-- The brackets of some tags. A line break has no closing tag. -/
def brackets (ts : List Tag) : List (Bool × List Char) :=
  ts.filterMap fun t => if t.name = "br".toList then none else some (t.closing, t.name)

/-- Every link leads to a URL that is a part of the text, which is the URL in its place, and the
tags are nested and balanced. -/
structure Faithful (s : String) : Prop where
  url : ∀ href ∈ hrefs (tags (renderSafeMarkdown s).toList), decode href <:+: s.toList ∧
    ("http://".toList <+: decode href ∨ "https://".toList <+: decode href) ∧
      ∀ c ∈ decode href, isWhite c = false
  leads : (hrefs (tags (renderSafeMarkdown s).toList)).map decode = urls s.toList
  nested : Nested (brackets (tags (renderSafeMarkdown s).toList))

/-- Marks in the value of `href` become tags: the link leads elsewhere. -/
theorem not_faithful_code : ¬ Faithful "https://x/`a`" := by
  intro h
  have hhref := h.url "https://x/<code>a</code>".toList (by decide +kernel)
  exact absurd hhref.1 (by decide +kernel)

/-- The marks of the delimiters are outside the URLs, and code does not cross emphasis. -/
structure Separate (text : List Char) : Prop where
  urls : ∀ url ∈ urls text, backtick ∉ url ∧ '*' ∉ url
  spans : ∀ s ∈ codeSpans text, ∀ t ∈ strongSpans text ++ emSpans text, ¬ Cross s t

/-- The URLs of a text are links to web pages. -/
lemma url_of_leads {s : String}
    (h : (hrefs (tags (renderSafeMarkdown s).toList)).map decode = urls s.toList) :
    ∀ href ∈ hrefs (tags (renderSafeMarkdown s).toList), decode href <:+: s.toList ∧
      ("http://".toList <+: decode href ∨ "https://".toList <+: decode href) ∧
        ∀ c ∈ decode href, isWhite c = false := by
  intro href hhref
  have hurl : decode href ∈ urls s.toList := h ▸ List.mem_map_of_mem hhref
  obtain ⟨hpart, ⟨secure, hscheme⟩, hwhite⟩ := urls_spec hurl
  refine ⟨hpart, ?_, hwhite⟩
  cases secure with
  | false => exact .inl hscheme
  | true => exact .inr hscheme

/-! ### Marks in the value of `href` -/

/-- A mark of the delimiters. -/
def IsMark (c : Char) : Prop := c = backtick ∨ c = '*'

/-- Whether a symbol is a character in the value of `href`. -/
def inValue (c : Char) (x : Sym) : Bool := decide (x = .value c)

section Count

variable {c : Char} (hc : IsMark c)

include hc

/-- References have no marks. -/
lemma count_decode (cs : List Char) : (decode cs).count c = cs.count c := by
  induction cs using decode.induct with
  | case1 cs ih | case2 cs ih | case3 cs ih | case4 cs ih | case5 cs ih =>
      rw [decode]
      rcases hc with rfl | rfl <;> simpa [List.count_cons, backtick] using ih
  | case6 d cs h₁ h₂ h₃ h₄ h₅ ih =>
      rw [decode.eq_6 d cs h₁ h₂ h₃ h₄ h₅, List.count_cons, List.count_cons, ih]
  | case7 => rfl

lemma count_reference (d : Char) : (reference d).count c = if d = c then 1 else 0 := by
  have h := count_decode hc (reference d)
  rw [← List.append_nil (reference d), decode_reference, decode, List.append_nil] at h
  rw [← h, List.count_singleton]
  simp only [beq_iff_eq]

lemma count_scheme (secure : Bool) : (scheme secure).count c = 0 := by
  rcases hc with rfl | rfl <;> cases secure <;> decide

lemma count_write_tag (e : Element) (closing : Bool) : ((e.tag closing).write).count c = 0 := by
  rcases hc with rfl | rfl <;> cases e <;> cases closing <;> decide

end Count

/-- How often a character is in the values of `href`. -/
def hrefCount (c : Char) (ts : List Token) : ℕ :=
  ((hrefs (ts.filterMap Token.tag?)).map (List.count c)).sum

section HrefCount

variable {c : Char}

lemma hrefCount_text (cs : List Char) (ts : List Token) :
    hrefCount c (cs.map Token.text ++ ts) = hrefCount c ts := by
  induction cs with
  | nil => rfl
  | cons c cs ih => exact ih

lemma hrefCount_tag {t : Tag} (h : href? t = none) (ts : List Token) :
    hrefCount c (.tag t :: ts) = hrefCount c ts := by
  have htag : (Token.tag t).tag? = some t := rfl
  rw [hrefCount, List.filterMap_cons_some htag, hrefs, List.filterMap_cons_none h]
  rfl

lemma hrefCount_link (v : List Char) (ts : List Token) :
    hrefCount c (.tag (linkTag v) :: ts) = v.count c + hrefCount c ts := by
  have htag : (Token.tag (linkTag v)).tag? = some (linkTag v) := rfl
  have hhref : href? (linkTag v) = some v := rfl
  rw [hrefCount, List.filterMap_cons_some htag, hrefs, List.filterMap_cons_some hhref,
    List.map_cons, List.sum_cons]
  rfl

/-- The marks in links that lead to some URLs are those of the URLs. -/
lemma hrefCount_of_leads (hc : IsMark c) {ts : List Token} {us : List (List Char)}
    (h : (hrefs (ts.filterMap Token.tag?)).map decode = us) :
    hrefCount c ts = (us.map (List.count c)).sum := by
  rw [← h, List.map_map, hrefCount]
  exact congrArg List.sum (List.map_congr_left fun v _ => (count_decode hc v).symm)

lemma href?_tag (e : Element) (closing : Bool) : href? (e.tag closing) = none := by
  have hname : ∀ e : Element, e.name ≠ "a".toList := fun e => by cases e <;> decide
  exact if_neg fun h => hname e h.1

/-- The marks in the values of `href` are those of the symbols. -/
lemma hrefCount_tokens (hc : IsMark c) {inside : Bool} {xs : List Sym} (h : Sound inside xs)
    {v? : Option (List Char)} (hv? : v?.isSome = inside) :
    hrefCount c (Sym.tokens v? xs) = (v?.getD []).count c + xs.countP (inValue c) := by
  have hnone : ∀ {w? : Option (List Char)}, w?.isSome = false → w? = none := by
    intro w? hw?
    rwa [← Bool.not_eq_true, Option.not_isSome_iff_eq_none] at hw?
  have hother : ∀ {x : Sym} {xs : List Sym}, x ≠ .value c →
      (x :: xs).countP (inValue c) = xs.countP (inValue c) := fun hx =>
    List.countP_cons_of_neg (by simpa [inValue] using hx)
  induction h generalizing v? with
  | nil =>
      obtain rfl := hnone hv?
      rfl
  | char d _ ih =>
      obtain rfl := hnone hv?
      rw [Sym.tokens_char, hrefCount_text, ih rfl, hother (by simp)]
  | @value d xs _ _ ih =>
      obtain ⟨v, rfl⟩ := Option.isSome_iff_exists.mp hv?
      have hrest : hrefCount c (Sym.tokens (some (v ++ reference d)) xs) =
          (v ++ reference d).count c + xs.countP (inValue c) := ih rfl
      have hvalue : (Sym.value d = .value c) = (d = c) := by rw [Sym.value.injEq]
      rw [Sym.tokens_value, hrest, List.count_append, count_reference hc, List.countP_cons]
      simp only [inValue, hvalue, decide_eq_true_eq, Option.getD_some]
      omega
  | @link secure xs _ ih =>
      obtain rfl := hnone hv?
      have hrest : hrefCount c (Sym.tokens (some (scheme secure)) xs) =
          (scheme secure).count c + xs.countP (inValue c) := ih rfl
      rw [Sym.tokens_link, hrest, count_scheme hc, hother (by simp)]
      rfl
  | @middle secure xs _ ih =>
      obtain ⟨v, rfl⟩ := Option.isSome_iff_exists.mp hv?
      have hrest : hrefCount c (Sym.tokens none xs) = 0 + xs.countP (inValue c) := ih rfl
      rw [Sym.tokens_middle, List.cons_append, hrefCount_link, hrefCount_text, hrest, Nat.zero_add,
        hother (by simp), Option.getD_some]
  | @close xs _ ih =>
      obtain rfl := hnone hv?
      rw [Sym.tokens_close, hrefCount_tag rfl, ih rfl, hother (by simp)]
  | @tag e closing inside xs _ ih =>
      cases v? with
      | none => rw [Sym.tokens_tag, hrefCount_tag (href?_tag e closing), ih hv?, hother (by simp)]
      | some v =>
          have hrest : hrefCount c (Sym.tokens (some (v ++ (e.tag closing).write)) xs) =
              (v ++ (e.tag closing).write).count c + xs.countP (inValue c) := ih hv?
          rw [Sym.tokens_value_tag, hrest, List.count_append, count_write_tag hc, Nat.add_zero,
            hother (by simp), Option.getD_some]
  | @br xs _ ih =>
      obtain rfl := hnone hv?
      rw [Sym.tokens_br, hrefCount_tag rfl, ih rfl, hother (by simp)]

/-- The marks in the URLs of the text are in the values of `href` before the passes. -/
lemma countP_syms (hc : IsMark c) (text : List Char) :
    (syms text).countP (inValue c) = ((urls text).map (List.count c)).sum := by
  rw [syms, urls]
  induction items text with
  | nil => rfl
  | cons i is ih =>
      rw [List.flatMap_cons, List.countP_append, ih]
      cases i with
      | char d =>
          rw [List.filterMap_cons_none rfl, Item.expand, List.countP_singleton]
          simp [inValue]
      | url secure rest =>
          have hvalues : (rest.map Sym.value).countP (inValue c) = rest.count c := by
            rw [List.countP_map, List.count]
            refine List.countP_congr fun d _ => ?_
            simp [inValue]
          have hchars : (rest.map Sym.char).countP (inValue c) = 0 := by
            rw [List.countP_map]
            exact List.countP_eq_zero.mpr fun d _ => by simp [inValue]
          have hurl : (Item.url secure rest).url? = some (scheme secure ++ rest) := rfl
          rw [List.filterMap_cons_some hurl, List.map_cons, List.sum_cons, List.count_append,
            count_scheme hc, Item.expand]
          simp [List.countP_append, hvalues, hchars, inValue]
      | tag e closing =>
          rw [List.filterMap_cons_none rfl, Item.expand, List.countP_singleton]
          simp [inValue]
      | br =>
          rw [List.filterMap_cons_none rfl, Item.expand, List.countP_singleton]
          simp [inValue]

/-- Tags are not in a value. -/
lemma inValue_tag (e : Element) (closing : Bool) :
    ∀ _ms : List Sym, ∀ y ∈ [Sym.tag e closing], inValue c y = false := by
  intro _ y hy
  rw [List.mem_singleton.mp hy]
  rfl

lemma countP_elementWrap_le (e : Element) (xs : List Sym) :
    (e.wrap xs).countP (inValue c) ≤ xs.countP (inValue c) :=
  countP_wrap_le (inValue_tag e false) (inValue_tag e true) xs

lemma countP_lineBreak (hc : IsMark c) (xs : List Sym) :
    (xs.map Sym.lineBreak).countP (inValue c) = xs.countP (inValue c) := by
  have hne : c ≠ '\n' := by rcases hc with rfl | rfl <;> decide
  rw [List.countP_map]
  refine List.countP_congr fun x _ => ?_
  simp only [Function.comp_apply, Sym.lineBreak]
  split_ifs with hx
  · constructor
    · intro h
      exact absurd h (by simp [inValue])
    · intro h
      rw [of_decide_eq_true h] at hx
      exact absurd (Option.some.inj hx) hne
  · rfl

/-- If every link leads to its URL, no pass uses up a mark in the value of `href`. -/
lemma countP_eq_of_leads (hc : IsMark c) {s : String}
    (h : (hrefs (tags (renderSafeMarkdown s).toList)).map decode = urls s.toList) :
    (Element.code.wrap (syms s.toList)).countP (inValue c) = (syms s.toList).countP (inValue c) ∧
    (Element.strong.wrap (Element.code.wrap (syms s.toList))).countP (inValue c) =
      (Element.code.wrap (syms s.toList)).countP (inValue c) ∧
    (Element.em.wrap (Element.strong.wrap (Element.code.wrap (syms s.toList)))).countP
      (inValue c) =
        (Element.strong.wrap (Element.code.wrap (syms s.toList))).countP (inValue c) := by
  have hresult : hrefCount c (tokens (renderSafeMarkdown s).toList) =
      (result s.toList).countP (inValue c) := by
    have htokens : hrefCount c (Sym.tokens none (result s.toList)) =
        0 + (result s.toList).countP (inValue c) :=
      hrefCount_tokens hc (sound_result s.toList) rfl
    rw [tokens_renderSafeMarkdown, htokens, Nat.zero_add]
  have hurls : hrefCount c (tokens (renderSafeMarkdown s).toList) =
      ((urls s.toList).map (List.count c)).sum := hrefCount_of_leads hc h
  have htotal : (Element.em.wrap (Element.strong.wrap (Element.code.wrap
      (syms s.toList)))).countP (inValue c) = (syms s.toList).countP (inValue c) := by
    rw [countP_syms hc, ← hurls, hresult, result, countP_lineBreak hc]
  have hcode := countP_elementWrap_le (c := c) .code (syms s.toList)
  have hstrong := countP_elementWrap_le (c := c) .strong (Element.code.wrap (syms s.toList))
  have hem := countP_elementWrap_le (c := c) .em
    (Element.strong.wrap (Element.code.wrap (syms s.toList)))
  exact ⟨by omega, by omega, by omega⟩

end HrefCount

/-! ### URLs without marks -/

/-- Whether a URL has no mark of a delimiter. -/
def Item.plain (e : Element) : Item → Bool
  | url _ rest => rest.all e.delimiter.isInner
  | char _ | tag _ _ | br => true

/-- The symbols of an item, where a URL with a mark stands for one symbol. -/
def Item.symbols (e : Element) (i : Item) : List Sym := if i.plain e then i.expand else [.br]

lemma Element.spellsItems (e : Element) :
    Spells e.onItems e.onSyms (Item.symbols e) where
  width := rfl
  mark i h := by
    cases i with
    | char c => exact ⟨.char c, rfl, h⟩
    | url _ _ | tag _ _ | br => exact absurd h Bool.false_ne_true
  isBreak i h := by
    cases i with
    | char c => exact ⟨.char c, rfl, h⟩
    | url _ _ | tag _ _ | br => exact absurd h Bool.false_ne_true
  inner i h := by
    cases i with
    | char c => exact ⟨List.cons_ne_nil _ _, fun x hx => List.mem_singleton.mp hx ▸ h⟩
    | tag _ _ | br =>
        refine ⟨List.cons_ne_nil _ _, fun x hx => ?_⟩
        rw [List.mem_singleton.mp hx]
        rfl
    | url secure rest =>
        by_cases hplain : (Item.url secure rest).plain e = true
        · have hrest : ∀ c ∈ rest, e.delimiter.isInner c = true := List.all_eq_true.mp hplain
          rw [Item.symbols, if_pos hplain, Item.expand]
          refine ⟨by simp, fun x hx => ?_⟩
          simp only [List.mem_append, List.mem_cons, List.mem_map, List.not_mem_nil,
            or_false] at hx
          rcases hx with ((rfl | ⟨c, hc, rfl⟩) | rfl | ⟨c, hc, rfl⟩) | rfl
          · rfl
          · exact hrest c hc
          · rfl
          · exact hrest c hc
          · rfl
        · rw [Item.symbols, if_neg hplain]
          refine ⟨List.cons_ne_nil _ _, fun x hx => ?_⟩
          rw [List.mem_singleton.mp hx]
          rfl

/-- The symbols of items with places. -/
def expanded (xs : List (Item × ℕ)) : List Sym := xs.flatMap fun x => x.1.expand

lemma expanded_placedItems (text : List Char) : expanded (placedItems text) = syms text := by
  have hitems : items text = (placedItems text).map Prod.fst := by
    rw [placedItems, List.zipIdx_map_fst]
  rw [syms, hitems, List.flatMap_map, expanded]

lemma plain_of_mem_put {e e' : Element} {xs : List (Item × ℕ)}
    (h : ∀ x ∈ xs, x.1.plain e = true) : ∀ x ∈ e'.put xs, x.1.plain e = true := by
  intro x hx
  rcases of_mem_elementPut hx with hmem | ⟨closing, htag⟩
  · exact h x hmem
  · rw [htag]
    rfl

/-- **A pass on symbols is a pass on items**, if the URLs have no marks. -/
theorem wrap_expanded {e : Element} {xs : List (Item × ℕ)} (h : ∀ x ∈ xs, x.1.plain e = true) :
    e.wrap (expanded xs) = expanded (e.put xs) := by
  have hsymbols : ∀ {ys : List (Item × ℕ)}, (∀ y ∈ ys, y.1.plain e = true) →
      expanded ys = ys.flatMap fun x => x.1.symbols e := by
    intro ys hys
    refine List.flatMap_congr fun y hy => ?_
    rw [Item.symbols, if_pos (hys y hy)]
  have hwrap : e.wrap (xs.flatMap fun x => x.1.symbols e) =
      (e.put xs).flatMap fun x => x.1.symbols e := by
    refine e.spellsItems.placed.wrap_flatMap ?_ ?_ xs
    · exact fun ms => List.flatMap_singleton ..
    · exact fun ms => List.flatMap_singleton ..
  rw [hsymbols h, hwrap, hsymbols (plain_of_mem_put h)]

/-! ### Marks in a URL -/

lemma Element.isInner_iff (e : Element) (c : Char) : e.delimiter.isInner c = true ↔
    c ≠ (if e = code then backtick else '*') ∧ c ≠ '\n' := by
  rw [isInner, Bool.and_eq_true, Bool.not_eq_true', Bool.not_eq_true', ← Bool.not_eq_true,
    ← Bool.not_eq_true, e.isMark_iff, e.isBreak_iff]

/-- What is between the last mark in the value of `href` and the first one in the text of a link,
by what follows the one and precedes the other. -/
def gap (secure : Bool) (after before : List Char) : List Sym :=
  after.map Sym.value ++ Sym.middle secure :: before.map Sym.char

lemma gap_ne_nil (secure : Bool) (after before : List Char) : gap secure after before ≠ [] := by
  simp [gap]

lemma isInner_gap {e : Element} {secure : Bool} {after before : List Char}
    (hafter : ∀ c ∈ after, e.delimiter.isInner c = true)
    (hbefore : ∀ c ∈ before, e.delimiter.isInner c = true) :
    ∀ x ∈ gap secure after before, e.onSyms.isInner x = true := by
  intro x hx
  rcases List.mem_append.mp hx with hx | hx
  · obtain ⟨c, hc, rfl⟩ := List.mem_map.mp hx
    exact hafter c hc
  · rcases List.mem_cons.mp hx with rfl | hx
    · rfl
    · obtain ⟨c, hc, rfl⟩ := List.mem_map.mp hx
      exact hbefore c hc

/-- The symbols of a URL around the gap. -/
lemma expand_gap {secure : Bool} {rest before after pre post ms : List Char}
    (hlast : rest = pre ++ ms ++ after) (hfirst : rest = before ++ ms ++ post) :
    (Item.url secure rest).expand = Sym.link secure :: pre.map Sym.value ++
      (ms.map Sym.value ++ gap secure after before ++ ms.map Sym.char ++
        (post.map Sym.char ++ [Sym.close])) := by
  rw [Item.expand]
  nth_rewrite 1 [hlast]
  rw [hfirst]
  simp only [gap, List.map_append, List.append_assoc, List.cons_append]

/-- The marks of a delimiter in the value of `href`, and in the text of the link. -/
lemma isSpan_gap {e : Element} {secure : Bool} {after before ms : List Char}
    (hlength : ms.length = e.delimiter.width) (hms : ∀ m ∈ ms, e.delimiter.isMark m = true)
    (hafter : ∀ c ∈ after, e.delimiter.isInner c = true)
    (hbefore : ∀ c ∈ before, e.delimiter.isInner c = true) :
    e.onSyms.IsSpan (ms.map Sym.value) (gap secure after before) (ms.map Sym.char) where
  opening_length := (List.length_map _).trans hlength
  opening_mark x hx := by
    obtain ⟨m, hm, rfl⟩ := List.mem_map.mp hx
    exact hms m hm
  inner_ne_nil := gap_ne_nil secure after before
  inner_isInner := isInner_gap hafter hbefore
  closing_length := (List.length_map _).trans hlength
  closing_mark x hx := by
    obtain ⟨m, hm, rfl⟩ := List.mem_map.mp hx
    exact hms m hm

/-- A span whose marks are in a value is used up, or its first mark is by one before. -/
lemma countP_elementWrap_lt {e : Element} {c : Char} {xs pre opening inner closing post : List Sym}
    (hspan : e.onSyms.IsSpan opening inner closing) (hopening : ∀ x ∈ opening, x = Sym.value c)
    (hxs : xs = pre ++ (opening ++ inner ++ closing ++ post)) :
    (e.wrap xs).countP (inValue c) < xs.countP (inValue c) := by
  rw [hxs]
  exact countP_wrap_lt (inValue_tag e false) (inValue_tag e true) hspan fun x hx => by
    rw [hopening x hx]
    exact decide_eq_true rfl

/-- The last marks of a URL and its first ones are used up. -/
lemma countP_url_lt {e : Element} {c : Char} {xs front back : List Sym} {secure : Bool}
    {rest before after pre post ms : List Char}
    (hxs : xs = front ++ (Item.url secure rest).expand ++ back)
    (hlast : rest = pre ++ ms ++ after) (hfirst : rest = before ++ ms ++ post)
    (hlength : ms.length = e.delimiter.width) (hms : ∀ m ∈ ms, m = c)
    (hmark : e.delimiter.isMark c = true)
    (hafter : ∀ c ∈ after, e.delimiter.isInner c = true)
    (hbefore : ∀ c ∈ before, e.delimiter.isInner c = true) :
    (e.wrap xs).countP (inValue c) < xs.countP (inValue c) := by
  have hspan : e.onSyms.IsSpan (ms.map Sym.value) (gap secure after before) (ms.map Sym.char) :=
    isSpan_gap hlength (fun m hm => by rw [hms m hm, hmark]) hafter hbefore
  have hparts : xs = (front ++ Sym.link secure :: pre.map Sym.value) ++
      (ms.map Sym.value ++ gap secure after before ++ ms.map Sym.char ++
        (post.map Sym.char ++ [Sym.close] ++ back)) := by
    rw [hxs, expand_gap hlast hfirst]
    simp only [List.append_assoc, List.cons_append]
  refine countP_elementWrap_lt hspan (fun x hx => ?_) hparts
  obtain ⟨m, hm, rfl⟩ := List.mem_map.mp hx
  rw [hms m hm]

/-- The first element of a kind is in one place. -/
lemma append_cons_inj {α : Type*} {p : α → Bool} {xs xs' ys ys' : List α} {m m' : α}
    (hxs : ∀ x ∈ xs, p x = false) (hm : p m = true) (hxs' : ∀ x ∈ xs', p x = false)
    (hm' : p m' = true) (h : xs ++ m :: ys = xs' ++ m' :: ys') : xs = xs' ∧ m = m' ∧ ys = ys' := by
  induction xs generalizing xs' with
  | nil =>
      cases xs' with
      | nil =>
          obtain ⟨rfl, rfl⟩ := List.cons.inj h
          exact ⟨rfl, rfl, rfl⟩
      | cons x' xs' =>
          obtain ⟨rfl, -⟩ := List.cons.inj h
          exact absurd ((hxs' m List.mem_cons_self).symm.trans hm) Bool.false_ne_true
  | cons x xs ih =>
      cases xs' with
      | nil =>
          obtain ⟨rfl, -⟩ := List.cons.inj h
          exact absurd ((hxs x List.mem_cons_self).symm.trans hm') Bool.false_ne_true
      | cons x' xs' =>
          obtain ⟨rfl, htail⟩ := List.cons.inj h
          obtain ⟨rfl, hrest⟩ := ih (fun y hy => hxs y (List.mem_cons_of_mem x hy))
            (fun y hy => hxs' y (List.mem_cons_of_mem x hy)) htail
          exact ⟨rfl, hrest⟩

/-- The last place of an element. -/
lemma exists_last {α : Type*} {a : α} {xs : List α} (h : a ∈ xs) :
    ∃ pre post, xs = pre ++ a :: post ∧ a ∉ post := by
  obtain ⟨post, pre, hxs, hpost⟩ := List.eq_append_cons_of_mem (List.mem_reverse.mpr h)
  refine ⟨pre.reverse, post.reverse, ?_, by simpa using hpost⟩
  rw [← List.reverse_reverse xs, hxs]
  simp

section Url

variable {s : String} {secure : Bool} {rest : List Char}
  (h : (hrefs (tags (renderSafeMarkdown s).toList)).map decode = urls s.toList)
  (hurl : .url secure rest ∈ items s.toList)

include hurl

/-- Without its marks a part of a URL has nothing that ends a span. -/
lemma isInner_of_url {e : Element} {cs : List Char} (hcs : ∀ c ∈ cs, c ∈ rest)
    (hmark : (if e = .code then backtick else '*') ∉ cs) :
    ∀ c ∈ cs, e.delimiter.isInner c = true := by
  have hwhite : ∀ c ∈ rest, isWhite c = false := by
    rcases mem_items hurl with ⟨c, hc⟩ | ⟨secure', rest', heq, hwhite⟩
    · exact absurd hc (by simp)
    · obtain ⟨rfl, rfl⟩ := Item.url.inj heq
      exact hwhite
  intro c hc
  refine (e.isInner_iff c).mpr ⟨?_, ?_⟩
  · rintro rfl
    exact hmark hc
  · rintro rfl
    exact absurd (hwhite _ (hcs _ hc)) (by decide)

omit hurl in
/-- Items whose URLs have no mark. -/
lemma plain_of_items {e : Element} (hmarks : ∀ secure rest, .url secure rest ∈ items s.toList →
    (if e = .code then backtick else '*') ∉ rest) :
    ∀ x ∈ placedItems s.toList, x.1.plain e = true := by
  intro x hx
  have hitem : x.1 ∈ items s.toList := by
    have hfst := List.mem_map_of_mem (f := Prod.fst) hx
    rwa [placedItems, List.zipIdx_map_fst] at hfst
  cases hi : x.1 with
  | char _ | tag _ _ | br => rfl
  | url secure rest =>
      rw [hi] at hitem
      exact List.all_eq_true.mpr (isInner_of_url hitem (fun c hc => hc) (hmarks secure rest hitem))

/-- A URL is there after a pass. -/
lemma exists_expanded_put (e : Element) : ∃ front back,
    expanded (e.put (placedItems s.toList)) = front ++ (Item.url secure rest).expand ++ back := by
  obtain ⟨x, hx, hfst⟩ : ∃ x ∈ placedItems s.toList, x.1 = .url secure rest := by
    have hmem : Item.url secure rest ∈ (placedItems s.toList).map Prod.fst := by
      rwa [placedItems, List.zipIdx_map_fst]
    exact List.mem_map.mp hmem
  have hput : x ∈ e.put (placedItems s.toList) := by
    refine mem_put_of_not_mark hx ?_
    rw [hfst]
    rfl
  obtain ⟨ys, ys', hys⟩ := List.append_of_mem hput
  refine ⟨expanded ys, expanded ys', ?_⟩
  rw [hys, expanded, List.flatMap_append, List.flatMap_cons, hfst, List.append_assoc]
  rfl

/-- A strong span in a URL is used up in its value. -/
lemma countP_strong_lt {xs front back : List Sym} {before between tail : List Char}
    (hxs : xs = front ++ (Item.url secure rest).expand ++ back)
    (hrest : rest = before ++ '*' :: '*' :: (between ++ '*' :: '*' :: tail))
    (hne : between ≠ []) (hbetween : '*' ∉ between) :
    (Element.strong.wrap xs).countP (inValue '*') < xs.countP (inValue '*') := by
  have hspan : Element.strong.onSyms.IsSpan (['*', '*'].map Sym.value) (between.map Sym.value)
      (['*', '*'].map Sym.value) := by
    refine ⟨rfl, by decide, fun hnil => hne (List.map_eq_nil_iff.mp hnil), fun x hx => ?_, rfl,
      by decide⟩
    obtain ⟨c, hc, rfl⟩ := List.mem_map.mp hx
    have hinner : ∀ c ∈ between, Element.strong.delimiter.isInner c = true :=
      isInner_of_url hurl (fun c hc => by rw [hrest]; simp [hc]) hbetween
    exact hinner c hc
  have hparts : xs = (front ++ Sym.link secure :: before.map Sym.value) ++
      (['*', '*'].map Sym.value ++ between.map Sym.value ++ ['*', '*'].map Sym.value ++
        (tail.map Sym.value ++ Sym.middle secure :: rest.map Sym.char ++
          [Sym.close] ++ back)) := by
    rw [hxs, Item.expand]
    nth_rewrite 1 [hrest]
    simp only [List.map_append, List.map_cons, List.map_nil, List.append_assoc,
      List.cons_append, List.nil_append]
  exact countP_elementWrap_lt hspan (by simp) hparts

include h

/-- **A backtick in a URL is used up.** -/
lemma backtick_not_mem_of_leads : backtick ∉ rest := by
  intro hmem
  obtain ⟨before, post, hfirst, hbefore⟩ := List.eq_append_cons_of_mem hmem
  obtain ⟨pre, after, hlast, hafter⟩ := exists_last hmem
  obtain ⟨is, is', his⟩ := List.append_of_mem hurl
  have hlast' : rest = pre ++ [backtick] ++ after := by
    rw [hlast, List.append_assoc, List.singleton_append]
  have hfirst' : rest = before ++ [backtick] ++ post := by
    rw [hfirst, List.append_assoc, List.singleton_append]
  have hsyms : syms s.toList = is.flatMap Item.expand ++ (Item.url secure rest).expand ++
      is'.flatMap Item.expand := by
    rw [syms, his, List.flatMap_append, List.flatMap_cons, List.append_assoc]
  have hlt : (Element.code.wrap (syms s.toList)).countP (inValue backtick) <
      (syms s.toList).countP (inValue backtick) :=
    countP_url_lt hsyms hlast' hfirst' rfl (fun m hm => List.mem_singleton.mp hm) (by decide)
      (isInner_of_url hurl (fun c hc => by rw [hlast]; simp [hc]) hafter)
      (isInner_of_url hurl (fun c hc => by rw [hfirst]; simp [hc]) hbefore)
  exact absurd (countP_eq_of_leads (.inl rfl) h).1 (Nat.ne_of_lt hlt)

omit h in
/-- If no mark in a value is used up, no span of double asterisks begins at the first asterisk in
the text of the link. -/
lemma not_span_of_count {xs front back : List Sym} {before post : List Char}
    (hxs : xs = front ++ (Item.url secure rest).expand ++ back)
    (hcount : (Element.strong.wrap xs).countP (inValue '*') = xs.countP (inValue '*'))
    (hfirst : rest = before ++ '*' :: post) (hbefore : '*' ∉ before) :
    ∀ opening inner closing after, Element.strong.onSyms.IsSpan opening inner closing →
      Sym.char '*' :: (post.map Sym.char ++ Sym.close :: back) ≠
        opening ++ inner ++ closing ++ after := by
  intro opening inner closing after hspan heq
  have hmark : ∀ c : Char, Element.strong.onSyms.isMark (Sym.char c) = true → c = '*' := fun c hc =>
    (Element.strong.isMark_iff c).mp hc
  have hinner : ∀ cs : List Char, (∀ c ∈ cs, c ∈ rest) → '*' ∉ cs →
      ∀ c ∈ cs, Element.strong.delimiter.isInner c = true := fun cs hcs hnot =>
    isInner_of_url hurl hcs hnot
  obtain ⟨a, b, rfl⟩ := List.length_eq_two.mp hspan.opening_length
  obtain ⟨m, m', rfl⟩ := List.length_eq_two.mp hspan.closing_length
  have hb : Element.strong.onSyms.isMark b = true := hspan.opening_mark b (by simp)
  have hm : Element.strong.onSyms.isMark m = true := hspan.closing_mark m (by simp)
  have hm' : Element.strong.onSyms.isMark m' = true := hspan.closing_mark m' (by simp)
  simp only [List.append_assoc, List.cons_append, List.nil_append, List.cons.injEq] at heq
  obtain ⟨rfl, heq⟩ := heq
  cases post with
  | nil =>
      obtain rfl := (List.cons.inj heq).1
      exact absurd hb Bool.false_ne_true
  | cons d post =>
      obtain ⟨rfl, htail⟩ := List.cons.inj heq
      obtain rfl := hmark d hb
      have htail : post.map Sym.char ++ Sym.close :: back = inner ++ m :: (m' :: after) := htail
      by_cases hstar : '*' ∈ post
      · -- the same span is in the value
        obtain ⟨between, tail, rfl, hbetween⟩ := List.eq_append_cons_of_mem hstar
        have hnot : ∀ x ∈ between.map Sym.char, Element.strong.onSyms.isMark x = false := by
          intro x hx
          obtain ⟨c, hc, rfl⟩ := List.mem_map.mp hx
          exact Bool.eq_false_iff.mpr fun hx => hbetween (hmark c hx ▸ hc)
        rw [List.map_append, List.map_cons, List.append_assoc, List.cons_append] at htail
        obtain ⟨rfl, -, hrest⟩ := append_cons_inj hnot rfl
          (fun x hx => not_isMark_of_isInner (hspan.inner_isInner x hx)) hm htail
        cases tail with
        | nil =>
            obtain rfl := (List.cons.inj hrest).1
            exact absurd hm' Bool.false_ne_true
        | cons d' tail =>
            obtain ⟨rfl, -⟩ := List.cons.inj hrest
            obtain rfl := hmark d' hm'
            have hne : between ≠ [] := fun hnil =>
              hspan.inner_ne_nil (List.map_eq_nil_iff.mpr hnil)
            have hlt := countP_strong_lt hurl hxs hfirst hne hbetween
            exact absurd hcount (Nat.ne_of_lt hlt)
      · have hlt : (Element.strong.wrap xs).countP (inValue '*') < xs.countP (inValue '*') := by
          have hmarks : rest = before ++ ['*', '*'] ++ post := by
            rw [hfirst, List.append_assoc]
            rfl
          exact countP_url_lt hxs hmarks hmarks rfl (by simp) (by decide)
            (hinner post (fun c hc => by rw [hfirst]; simp [hc]) hstar)
            (hinner before (fun c hc => by rw [hfirst]; simp [hc]) hbefore)
        exact absurd hcount (Nat.ne_of_lt hlt)

/-- **An asterisk in a URL is used up.** -/
lemma asterisk_not_mem_of_leads : '*' ∉ rest := by
  intro hmem
  obtain ⟨before, post, hfirst, hbefore⟩ := List.eq_append_cons_of_mem hmem
  obtain ⟨pre, after, hlast, hafter⟩ := exists_last hmem
  -- the code pass leaves the URL
  have hcode := wrap_expanded (plain_of_items (e := .code) fun _ _ hitem =>
    backtick_not_mem_of_leads h hitem)
  obtain ⟨front, back, hxs⟩ := exists_expanded_put hurl .code
  rw [← hcode, expanded_placedItems] at hxs
  obtain ⟨-, hstrong, hem⟩ := countP_eq_of_leads (.inr rfl) h
  have hnone := not_span_of_count hurl hxs hstrong hfirst hbefore
  have hinner : ∀ e : Element, e ≠ .code → (∀ c ∈ after, e.delimiter.isInner c = true) ∧
      ∀ c ∈ before, e.delimiter.isInner c = true := fun e he =>
    ⟨isInner_of_url hurl (fun c hc => by rw [hlast]; simp [hc]) (by rwa [if_neg he]),
      isInner_of_url hurl (fun c hc => by rw [hfirst]; simp [hc]) (by rwa [if_neg he])⟩
  -- the strong pass leaves the last asterisk in the value and the first one in the text
  have hparts : Element.code.wrap (syms s.toList) =
      (front ++ Sym.link secure :: pre.map Sym.value) ++ Sym.value '*' ::
        (gap secure after before ++ Sym.char '*' ::
          (post.map Sym.char ++ Sym.close :: back)) := by
    have hlast' : rest = pre ++ ['*'] ++ after := by
      rw [hlast, List.append_assoc, List.singleton_append]
    have hfirst' : rest = before ++ ['*'] ++ post := by
      rw [hfirst, List.append_assoc, List.singleton_append]
    rw [hxs, expand_gap hlast' hfirst']
    simp only [List.map_cons, List.map_nil, List.append_assoc, List.cons_append, List.nil_append]
  obtain ⟨pre', post', hpre'⟩ : ∃ pre' post',
      Element.strong.wrap (Element.code.wrap (syms s.toList)) =
        pre' ++ (['*'].map Sym.value ++ gap secure after before ++
          ['*'].map Sym.char ++ post') := by
    obtain ⟨hafter', hbefore'⟩ := hinner .strong (by decide)
    have hgap : ∀ x ∈ gap secure after before, Element.strong.onSyms.isMark x = false :=
      fun x hx => not_isMark_of_isInner (isInner_gap hafter' hbefore' x hx)
    rw [hparts] at hstrong ⊢
    obtain ⟨pre', hpre'⟩ := wrap_marks (inValue_tag .strong false) (inValue_tag .strong true) rfl
      (decide_eq_true rfl) hgap hnone hstrong
    refine ⟨pre', Element.strong.wrap (post.map Sym.char ++ Sym.close :: back), hpre'.trans ?_⟩
    simp only [Element.wrap, List.map_cons, List.map_nil, List.append_assoc, List.cons_append,
      List.nil_append]
  -- they are a span of the last pass
  obtain ⟨hafter', hbefore'⟩ := hinner .em (by decide)
  have hspan : Element.em.onSyms.IsSpan (['*'].map Sym.value) (gap secure after before)
      (['*'].map Sym.char) :=
    isSpan_gap rfl (fun m hm => by rw [List.mem_singleton.mp hm]; rfl) hafter' hbefore'
  exact absurd hem (Nat.ne_of_lt (countP_elementWrap_lt hspan (by simp) hpre'))

end Url

/-! ### The tags of items -/

/-- The tags that an item stands for in the result. -/
def Item.tags : Item → List Tag
  | char c => if c = '\n' then [breakTag] else []
  | url secure rest => [linkTag (scheme secure ++ escape rest), closeTag]
  | tag e closing => [e.tag closing]
  | br => [breakTag]

lemma tokens_values (v cs : List Char) (ys : List Sym) :
    Sym.tokens (some v) (cs.map .value ++ ys) = Sym.tokens (some (v ++ escape cs)) ys := by
  induction cs generalizing v with
  | nil => rw [escape, List.flatMap_nil, List.append_nil, List.map_nil, List.nil_append]
  | cons c cs ih =>
      rw [List.map_cons, List.cons_append, Sym.tokens_value, ih, escape_cons, List.append_assoc]

lemma tokens_chars (cs : List Char) (ys : List Sym) :
    Sym.tokens none (cs.map .char ++ ys) = (escape cs).map Token.text ++ Sym.tokens none ys := by
  induction cs with
  | nil => rfl
  | cons c cs ih =>
      rw [List.map_cons, List.cons_append, Sym.tokens_char, ih, escape_cons, List.map_append,
        List.append_assoc]

/-- A text has no tags. -/
lemma filterMap_text (cs : List Char) (ts : List Token) :
    (cs.map Token.text ++ ts).filterMap Token.tag? = ts.filterMap Token.tag? := by
  induction cs with
  | nil => rfl
  | cons c cs ih => exact ih

lemma filterMap_tag (t : Tag) (ts : List Token) :
    (.tag t :: ts).filterMap Token.tag? = t :: ts.filterMap Token.tag? := rfl

/-- The tags of the result are those of the items. -/
lemma tags_expand {is : List Item} (h : ∀ secure rest, .url secure rest ∈ is → '\n' ∉ rest) :
    (Sym.tokens none ((is.flatMap Item.expand).map Sym.lineBreak)).filterMap Token.tag? =
      is.flatMap Item.tags := by
  induction is with
  | nil => rfl
  | cons i is ih =>
      have ih := ih fun secure rest hmem => h secure rest (List.mem_cons_of_mem i hmem)
      rw [List.flatMap_cons, List.map_append, List.flatMap_cons, ← ih]
      cases i with
      | char c =>
          rw [Item.tags]
          split_ifs with hc
          · rw [hc]
            rfl
          · have hbreak : (Sym.char c).lineBreak = .char c :=
              if_neg fun heq => hc (Option.some.inj heq)
            rw [Item.expand, List.map_cons, List.map_nil, hbreak, List.singleton_append,
              Sym.tokens_char, filterMap_text, List.nil_append]
      | url secure rest =>
          have hrest := h secure rest List.mem_cons_self
          have hkeep : ∀ f : Char → Sym, (∀ c, (f c).letter? = some c) →
              (rest.map f).map Sym.lineBreak = rest.map f := by
            intro f hf
            rw [List.map_map]
            refine List.map_congr_left fun c hc => if_neg fun heq => ?_
            rw [hf] at heq
            exact hrest (Option.some.inj heq ▸ hc)
          have hexpand : (Item.url secure rest).expand.map Sym.lineBreak =
              (Item.url secure rest).expand := by
            simp only [Item.expand, List.map_append, List.map_cons, List.map_nil,
              hkeep .value fun _ => rfl, hkeep .char fun _ => rfl]
            rfl
          rw [hexpand, Item.expand]
          simp only [List.append_assoc, List.cons_append, List.nil_append]
          rw [Sym.tokens_link, tokens_values, Sym.tokens_middle, tokens_chars, Sym.tokens_close,
            Item.tags, List.cons_append, filterMap_tag, filterMap_text, filterMap_text,
            filterMap_tag]
          rfl
      | tag e closing => rfl
      | br => rfl

/-- Links lead to the URLs. -/
lemma hrefs_tags (is : List Item) :
    (hrefs (is.flatMap Item.tags)).map decode = is.filterMap Item.url? := by
  induction is with
  | nil => rfl
  | cons i is ih =>
      rw [List.flatMap_cons, hrefs, List.filterMap_append, List.map_append]
      rw [hrefs] at ih
      rw [ih]
      cases i with
      | char c =>
          rw [Item.tags]
          split_ifs <;> rfl
      | url secure rest =>
          have htags : (Item.url secure rest).tags.filterMap href? =
              [scheme secure ++ escape rest] := rfl
          have hdecode : decode (scheme secure ++ escape rest) = scheme secure ++ rest := by
            rw [← escape_scheme, ← escape_append, decode_escape, escape_scheme]
          have hurl : (Item.url secure rest).url? = some (scheme secure ++ rest) := rfl
          rw [htags, List.map_singleton, hdecode, List.filterMap_cons_some hurl,
            List.singleton_append]
      | tag e closing =>
          rw [Item.tags, List.filterMap_cons_none (href?_tag e closing)]
          rfl
      | br => rfl

lemma Element.name_injective : Function.Injective Element.name := by
  intro e e' h
  cases e <;> cases e' <;> first | rfl | exact absurd h (by decide)

lemma brackets_append (ts ts' : List Tag) : brackets (ts ++ ts') = brackets ts ++ brackets ts' :=
  List.filterMap_append

/-- Links are opened and closed at once. -/
lemma run_brackets (xs : List (Item × ℕ)) (stack : List (List Char)) :
    run stack (brackets ((xs.map Prod.fst).flatMap Item.tags)) =
      run stack (((xs.filterMap placedBracket).map Prod.snd).map fun b => (b.1, b.2.name)) := by
  induction xs generalizing stack with
  | nil => rfl
  | cons x xs ih =>
      obtain ⟨i, n⟩ := x
      rw [List.map_cons, List.flatMap_cons, brackets_append]
      cases i with
      | char c =>
          have hnone : brackets (Item.char c).tags = [] := by
            rw [Item.tags]
            split_ifs <;> rfl
          rw [hnone, List.filterMap_cons_none rfl]
          exact ih stack
      | url secure rest =>
          have hpair : brackets (Item.url secure rest).tags =
              [(false, "a".toList), (true, "a".toList)] := rfl
          rw [hpair, List.filterMap_cons_none rfl]
          exact (run_pair ..).trans (ih stack)
      | tag e closing =>
          have hbracket : placedBracket (Item.tag e closing, n) = some (n, closing, e) := rfl
          have hone : brackets (Item.tag e closing).tags = [(closing, e.name)] := by
            cases e <;> rfl
          rw [hone, List.filterMap_cons_some hbracket, List.singleton_append]
          exact run_cons_congr ih (closing, e.name) stack
      | br =>
          rw [List.filterMap_cons_none rfl]
          exact ih stack

/-! ### When the result is faithful -/

section Faithful

variable {s : String}

/-- **URLs without marks stay whole**: the symbols of the result are those of the items after the
passes. -/
lemma result_of_urls (h : ∀ url ∈ urls s.toList, backtick ∉ url ∧ '*' ∉ url) :
    result s.toList = (expanded (passed s.toList)).map Sym.lineBreak := by
  have hplain : ∀ e : Element, ∀ x ∈ placedItems s.toList, x.1.plain e = true := by
    refine fun e => plain_of_items fun secure rest hitem hmem => ?_
    have hurl : scheme secure ++ rest ∈ urls s.toList := List.mem_filterMap.mpr ⟨_, hitem, rfl⟩
    obtain ⟨hbacktick, hasterisk⟩ := h _ hurl
    split_ifs at hmem with he
    · exact hbacktick (List.mem_append_right _ hmem)
    · exact hasterisk (List.mem_append_right _ hmem)
  rw [result, ← expanded_placedItems, wrap_expanded (hplain .code),
    wrap_expanded (plain_of_mem_put (hplain .strong)),
    wrap_expanded (plain_of_mem_put (plain_of_mem_put (hplain .em))), passed]

/-- The tags of the result are those of the items after the passes. -/
lemma tags_of_urls (h : ∀ url ∈ urls s.toList, backtick ∉ url ∧ '*' ∉ url) :
    tags (renderSafeMarkdown s).toList = ((passed s.toList).map Prod.fst).flatMap Item.tags := by
  have hexpanded : expanded (passed s.toList) =
      ((passed s.toList).map Prod.fst).flatMap Item.expand := by
    rw [List.flatMap_map, expanded]
  have hbreaks : ∀ secure rest, .url secure rest ∈ (passed s.toList).map Prod.fst →
      '\n' ∉ rest := by
    intro secure rest hurl hmem
    obtain ⟨x, hx, hfst⟩ := List.mem_map.mp hurl
    rcases mem_items (url_mem_items hx hfst) with ⟨c, hc⟩ | ⟨secure', rest', heq, hwhite⟩
    · exact absurd hc (by simp)
    · obtain ⟨rfl, rfl⟩ := Item.url.inj heq
      exact absurd (hwhite _ hmem) (by decide)
  have htags := tags_expand hbreaks
  rw [← hexpanded, ← result_of_urls h, ← tokens_renderSafeMarkdown] at htags
  exact htags

/-- **Faithful links and nested tags**: every link of the result leads to its URL of the text and
the tags are nested, exactly if no URL has a mark and no code span crosses emphasis. -/
theorem faithful_iff (s : String) : Faithful s ↔ Separate s.toList := by
  have hnested : (∀ url ∈ urls s.toList, backtick ∉ url ∧ '*' ∉ url) →
      (Nested (brackets (tags (renderSafeMarkdown s).toList)) ↔
        ∀ s' ∈ codeSpans s.toList, ∀ t ∈ strongSpans s.toList ++ emSpans s.toList,
          ¬ Cross s' t) := by
    intro h
    rw [tags_of_urls h, Nested, run_brackets, ← Nested, nested_map Element.name_injective,
      nested_passed_iff]
  constructor
  · intro h
    have hurls : ∀ url ∈ urls s.toList, backtick ∉ url ∧ '*' ∉ url := by
      intro url hurl
      obtain ⟨i, hi, heq⟩ := List.mem_filterMap.mp hurl
      cases i with
      | char _ | tag _ _ | br => exact absurd heq (by simp [Item.url?])
      | url secure rest =>
          obtain rfl := Option.some.inj heq
          have hscheme : backtick ∉ scheme secure ∧ '*' ∉ scheme secure := by
            cases secure <;> decide
          simp only [List.mem_append, not_or]
          exact ⟨⟨hscheme.1, backtick_not_mem_of_leads h.leads hi⟩, hscheme.2,
            asterisk_not_mem_of_leads h.leads hi⟩
    exact ⟨hurls, (hnested hurls).mp h.nested⟩
  · intro h
    have hleads : (hrefs (tags (renderSafeMarkdown s).toList)).map decode = urls s.toList := by
      rw [tags_of_urls h.urls, hrefs_tags, urls_passed]
    exact ⟨url_of_leads hleads, hleads, (hnested h.urls).mpr h.spans⟩

example : Separate "`a` **b** *http://x *".toList :=
  ⟨by decide +kernel, by decide +kernel⟩

example : codeSpans "`a **b` c**".toList = [(0, 6)] ∧ strongSpans "`a **b` c**".toList = [(3, 9)] ∧
    ¬ Nested (brackets (tags (renderSafeMarkdown "`a **b` c**").toList)) := by
  decide +kernel

end Faithful

end Vussa.Markdown
