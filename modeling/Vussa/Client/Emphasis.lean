import Vussa.Client.Markdown
import Vussa.Lib.Nesting
import Vussa.Lib.Spans

/-!
The spans of a message, by their places in the text, each URL taken as one symbol
(`lib/safe-markdown.js`).

* `urls`, `codeSpans`, `strongSpans`, `emSpans`: what the patterns find in a text;
* `Element.put`, `passed`: the passes on items with places;
* `found_eq`, `tag_mem_passed`, `brackets_passed`: where the passes put tags;
* `nested_passed_iff`: **the tags are nested exactly if no code span crosses emphasis**.
-/

namespace Vussa.Markdown

open Html Replace Delimiters Delimiter Nesting

/-! ### URLs and spans of a text -/

/-- The URL that an item is. -/
def Item.url? : Item → Option (List Char)
  | url secure rest => some (scheme secure ++ rest)
  | char _ | tag _ _ | br => none

/-- The URLs of a text. -/
def urls (text : List Char) : List (List Char) := (items text).filterMap Item.url?

/-- The character that delimiters see. A URL is none. -/
def Item.letter? : Item → Option Char
  | char c => some c
  | url _ _ | tag _ _ | br => none

/-- The delimiter on items. -/
def Element.onItems (e : Element) : Delimiter Item := e.delimiter.comap Item.letter?

/-- The spans of a list of items become tags. -/
def Element.put (e : Element) (xs : List (Item × ℕ)) : List (Item × ℕ) :=
  e.onItems.put (.tag e false) (.tag e true) xs

/-- The text by its URLs, with places. -/
def placedItems (text : List Char) : List (Item × ℕ) := (items text).zipIdx

/-- The places of the code spans. -/
def codeSpans (text : List Char) : List (ℕ × ℕ) := Element.code.onItems.spans (placedItems text)

/-- The places of the spans of double asterisks. -/
def strongSpans (text : List Char) : List (ℕ × ℕ) := Element.strong.onItems.spans (placedItems text)

/-- The places of the spans of single asterisks, after the double ones are taken out. -/
def emSpans (text : List Char) : List (ℕ × ℕ) :=
  Element.em.onItems.spans (Element.strong.put (placedItems text))

/-- One of two spans begins inside the other and ends after it. -/
def Cross (s t : ℕ × ℕ) : Prop :=
  (s.1 < t.1 ∧ t.1 < s.2 ∧ s.2 < t.2) ∨ (t.1 < s.1 ∧ s.1 < t.2 ∧ t.2 < s.2)

instance (s t : ℕ × ℕ) : Decidable (Cross s t) := inferInstanceAs (Decidable (_ ∨ _))

/-- The URLs of a text are parts of it, with a scheme of the web and without white space. -/
lemma urls_spec {text url : List Char} (h : url ∈ urls text) : url <:+: text ∧
    (∃ secure, scheme secure <+: url) ∧ ∀ c ∈ url, isWhite c = false := by
  obtain ⟨i, hi, hurl⟩ := List.mem_filterMap.mp h
  rcases mem_replaceAll hi with ⟨c, -, hc⟩ | ⟨zs, out, n, hzs, hmatch, hout⟩
  · rw [List.mem_singleton.mp hc] at hurl
    exact absurd hurl (by simp [Item.url?])
  · obtain ⟨secure, rest, after, rfl, rfl, -, -, hrest⟩ := urlMatch_eq_some hmatch
    rw [List.mem_singleton.mp hout] at hurl
    obtain rfl := Option.some.inj hurl
    refine ⟨(List.prefix_append _ after).isInfix.trans hzs.isInfix,
      ⟨secure, List.prefix_append _ _⟩, fun c hc => ?_⟩
    rcases List.mem_append.mp hc with hc | hc
    · have hscheme : (scheme secure).all (fun c => !isWhite c) = true := by
        cases secure <;> decide
      simpa using List.all_eq_true.mp hscheme c hc
    · exact hrest c hc

/-- The items of a text are characters and URLs. -/
lemma mem_items {text : List Char} {i : Item} (h : i ∈ items text) : (∃ c, i = .char c) ∨
    ∃ secure rest, i = .url secure rest ∧ ∀ c ∈ rest, isWhite c = false := by
  rcases mem_replaceAll h with ⟨c, -, hc⟩ | ⟨zs, out, n, -, hmatch, hout⟩
  · exact .inl ⟨c, List.mem_singleton.mp hc⟩
  · obtain ⟨secure, rest, after, -, rfl, -, -, hrest⟩ := urlMatch_eq_some hmatch
    exact .inr ⟨secure, rest, List.mem_singleton.mp hout, hrest⟩

lemma ascending_placedItems (text : List Char) : Ascending (placedItems text) := by
  have hplaces : ((placedItems text).map Prod.snd).Pairwise (· < ·) := by
    rw [placedItems, List.zipIdx_map_snd]
    exact List.pairwise_lt_range'
  exact List.pairwise_map.mp hplaces

/-! ### The passes on items -/

/-- The items after the passes. -/
def passed (text : List Char) : List (Item × ℕ) :=
  Element.em.put (Element.strong.put (Element.code.put (placedItems text)))

/-- The places of the spans that a pass finds. -/
def Element.found (e : Element) (text : List Char) : List (ℕ × ℕ) :=
  match e with
  | code => code.onItems.spans (placedItems text)
  | strong => strong.onItems.spans (code.put (placedItems text))
  | em => em.onItems.spans (strong.put (code.put (placedItems text)))

/-- The mark that a code tag was put for. -/
def Item.uncode : Item → Item
  | tag .code _ => .char backtick
  | char c => .char c
  | url secure rest => .url secure rest
  | tag .strong closing => .tag .strong closing
  | tag .em closing => .tag .em closing
  | br => .br

lemma uncode_kinds {e : Element} (h : e ≠ .code) (i : Item) :
    e.onItems.isMark i.uncode = e.onItems.isMark i ∧
      e.onItems.isBreak i.uncode = e.onItems.isBreak i := by
  cases i with
  | tag e' closing => cases e <;> cases e' <;> first | exact absurd rfl h | exact ⟨rfl, rfl⟩
  | char _ | url _ _ | br => exact ⟨rfl, rfl⟩

/-- Code tags are put for single marks. -/
lemma map_uncode_put (text : List Char) :
    (Element.code.put (placedItems text)).map (fun x => (x.1.uncode, x.2)) = placedItems text := by
  refine map_put rfl (fun i hi => ?_) fun x hx => ?_
  · cases i with
    | char c =>
        have hc : c = backtick := (Element.code.isMark_iff c).mp hi
        rw [hc]
        exact ⟨rfl, rfl⟩
    | url _ _ | tag _ _ | br => exact absurd hi Bool.false_ne_true
  · have hitem : x.1 ∈ items text := by
      have hfst := List.mem_map_of_mem (f := Prod.fst) hx
      rwa [placedItems, List.zipIdx_map_fst] at hfst
    rcases mem_items hitem with ⟨c, hc⟩ | ⟨secure, rest, hurl, -⟩
    · rw [hc]
      rfl
    · rw [hurl]
      rfl

/-- The passes find the spans of the text. -/
lemma found_eq (text : List Char) : Element.code.found text = codeSpans text ∧
    Element.strong.found text = strongSpans text ∧ Element.em.found text = emSpans text := by
  have hstrong : Element.strong ≠ .code := by decide
  have hem : Element.em ≠ .code := by decide
  refine ⟨rfl, ?_, ?_⟩
  · rw [strongSpans, ← map_uncode_put text, Spells.spans_map rfl
      (fun i => (uncode_kinds hstrong i).1) fun i => (uncode_kinds hstrong i).2]
    rfl
  · have hput : Element.strong.onItems.put (Item.tag .strong false).uncode
        (Item.tag .strong true).uncode ((Element.code.put (placedItems text)).map fun x =>
          (x.1.uncode, x.2)) = (Element.strong.put (Element.code.put (placedItems text))).map
            fun x => (x.1.uncode, x.2) :=
      Spells.put_map rfl (fun i => (uncode_kinds hstrong i).1)
        (fun i => (uncode_kinds hstrong i).2) _
    rw [map_uncode_put] at hput
    have hem' : emSpans text = Element.em.onItems.spans ((Element.strong.put (Element.code.put
        (placedItems text))).map fun x => (x.1.uncode, x.2)) := by
      rw [← hput]
      rfl
    rw [hem', Spells.spans_map rfl (fun i => (uncode_kinds hem i).1) fun i =>
      (uncode_kinds hem i).2]
    rfl

/-! ### Tags of items -/

section Put

variable {e e' : Element} {xs : List (Item × ℕ)}

/-- The tags of a pass. -/
lemma tag_mem_put {closing : Bool} {n : ℕ} : (Item.tag e' closing, n) ∈ e.put xs ↔
    (Item.tag e' closing, n) ∈ xs ∨
      e' = e ∧ ∃ s ∈ e.onItems.spans xs, n = if closing then s.2 else s.1 := by
  constructor
  · intro h
    rcases of_mem_put h with hmem | ⟨s, hs, heq | heq⟩
    · exact .inl hmem
    · simp only [Prod.mk.injEq, Item.tag.injEq] at heq
      obtain ⟨⟨rfl, rfl⟩, rfl⟩ := heq
      exact .inr ⟨rfl, s, hs, rfl⟩
    · simp only [Prod.mk.injEq, Item.tag.injEq] at heq
      obtain ⟨⟨rfl, rfl⟩, rfl⟩ := heq
      exact .inr ⟨rfl, s, hs, rfl⟩
  · rintro (hmem | ⟨rfl, s, hs, rfl⟩)
    · exact mem_put_of_not_mark hmem rfl
    · cases closing with
      | false => exact (tags_mem_put hs).1
      | true => exact (tags_mem_put hs).2

/-- A pass writes tags only. -/
lemma of_mem_elementPut {x : Item × ℕ} (h : x ∈ e.put xs) :
    x ∈ xs ∨ ∃ closing, x.1 = .tag e closing := by
  rcases of_mem_put h with hmem | ⟨s, -, rfl | rfl⟩
  · exact .inl hmem
  · exact .inr ⟨false, rfl⟩
  · exact .inr ⟨true, rfl⟩

/-- A pass leaves the URLs. -/
lemma urls_put : (e.put xs).filterMap (fun x => x.1.url?) = xs.filterMap fun x => x.1.url? := by
  have hmarks : ∀ ms : List (Item × ℕ), (∀ m ∈ ms, e.onItems.placed.isMark m = true) →
      ms.filterMap (fun x => x.1.url?) = [] := by
    intro ms hms
    refine List.filterMap_eq_nil_iff.mpr fun m hm => ?_
    obtain ⟨i, n⟩ := m
    cases i with
    | char _ | tag _ _ | br => rfl
    | url _ _ => exact absurd (hms _ hm) Bool.false_ne_true
  induction xs using e.onItems.placed.replace_induction with
  | nil => rfl
  | span opening inner closing rest hspan ih =>
      rw [Element.put, put_span hspan, ← Element.put, List.filterMap_cons_none rfl,
        List.filterMap_append, List.filterMap_cons_none rfl, ih]
      simp only [List.filterMap_append, hmarks opening hspan.opening_mark,
        hmarks closing hspan.closing_mark, List.nil_append, List.append_nil]
  | cons x xs hnone ih =>
      rw [Element.put, put_cons hnone, ← Element.put]
      simp only [List.filterMap_cons, ih]

end Put

/-- The tags after the passes, by the spans that were found. -/
lemma tag_mem_passed {text : List Char} {e : Element} {closing : Bool} {n : ℕ} :
    (Item.tag e closing, n) ∈ passed text ↔
      ∃ s ∈ e.found text, n = if closing then s.2 else s.1 := by
  have hnone : (Item.tag e closing, n) ∉ placedItems text := by
    intro h
    have hitem : Item.tag e closing ∈ items text := by
      have hfst := List.mem_map_of_mem (f := Prod.fst) h
      rwa [placedItems, List.zipIdx_map_fst] at hfst
    rcases mem_items hitem with ⟨c, hc⟩ | ⟨secure, rest, hurl, -⟩
    · exact absurd hc (by simp)
    · exact absurd hurl (by simp)
  rw [passed, tag_mem_put, tag_mem_put, tag_mem_put]
  cases e <;> simp [hnone, Element.found]

/-- The passes write no URL. -/
lemma url_mem_items {text : List Char} {x : Item × ℕ} {secure : Bool} {rest : List Char}
    (h : x ∈ passed text) (hx : x.1 = .url secure rest) : .url secure rest ∈ items text := by
  have hput : ∀ {e : Element} {xs : List (Item × ℕ)}, x ∈ e.put xs → x ∈ xs := by
    intro e xs h
    rcases of_mem_elementPut h with hmem | ⟨closing, htag⟩
    · exact hmem
    · exact absurd (hx.symm.trans htag) (by simp)
  have hfst := List.mem_map_of_mem (f := Prod.fst) (hput (hput (hput h)))
  rwa [placedItems, List.zipIdx_map_fst, hx] at hfst

/-- The URLs are those of the text. -/
lemma urls_passed (text : List Char) :
    ((passed text).map Prod.fst).filterMap Item.url? = urls text := by
  have hfst : urls text = ((placedItems text).map Prod.fst).filterMap Item.url? := by
    rw [placedItems, List.zipIdx_map_fst, urls]
  have hurls : (passed text).filterMap (fun x => x.1.url?) =
      (placedItems text).filterMap fun x => x.1.url? := by
    rw [passed, urls_put, urls_put, urls_put]
  rw [hfst, List.filterMap_map, List.filterMap_map]
  exact hurls

/-- The brackets of the tags, with places. -/
def placedBracket (x : Item × ℕ) : Option (ℕ × Bool × Element) :=
  match x.1 with
  | .tag e closing => some (x.2, closing, e)
  | .char _ | .url _ _ | .br => none

/-- The intervals between the tags. -/
def intervals (text : List Char) : Set (Interval Element) :=
  {a | (a.start, a.stop) ∈ a.kind.found text}

/-- The spans of a pass follow each other. -/
lemma ascending_found (text : List Char) (e : Element) :
    (e.found text).Pairwise (fun s t => s.2 < t.1) ∧ ∀ s ∈ e.found text, s.1 < s.2 := by
  have h := ascending_placedItems text
  cases e with
  | code => exact h.spans
  | strong => exact h.put.spans
  | em => exact h.put.put.spans

lemma ascending_passed (text : List Char) : Ascending (passed text) :=
  (ascending_placedItems text).put.put.put

lemma placedBracket_eq_some {x : Item × ℕ} {p : ℕ} {closing : Bool} {e : Element} :
    placedBracket x = some (p, closing, e) ↔ x = (.tag e closing, p) := by
  obtain ⟨i, n⟩ := x
  cases i with
  | tag e' closing' =>
      simp only [placedBracket, Option.some.injEq, Prod.mk.injEq, Item.tag.injEq]
      exact ⟨fun h => ⟨⟨h.2.2, h.2.1⟩, h.1⟩, fun h => ⟨h.2, h.1.2, h.1.1⟩⟩
  | char _ | url _ _ | br =>
      exact ⟨fun h => absurd h (by simp [placedBracket]), fun h => absurd h (by simp)⟩

lemma mem_brackets {xs : List (Item × ℕ)} {p : ℕ} {closing : Bool} {e : Element} :
    (p, closing, e) ∈ xs.filterMap placedBracket ↔ (Item.tag e closing, p) ∈ xs := by
  rw [List.mem_filterMap]
  constructor
  · rintro ⟨x, hx, hbracket⟩
    rwa [placedBracket_eq_some.mp hbracket] at hx
  · exact fun h => ⟨_, h, placedBracket_eq_some.mpr rfl⟩

/-- The spans of one pass do not meet. -/
lemma found_disjoint {text : List Char} {e : Element} {s t : ℕ × ℕ} (hs : s ∈ e.found text)
    (ht : t ∈ e.found text) : s = t ∨ s.2 < t.1 ∨ t.2 < s.1 := by
  have h := (ascending_found text e).1
  have hlt : (e.found text).Pairwise fun s t => s = t ∨ s.2 < t.1 ∨ t.2 < s.1 :=
    h.imp fun hst => .inr (.inl hst)
  have hgt : (e.found text).Pairwise (flip fun s t => s = t ∨ s.2 < t.1 ∨ t.2 < s.1) :=
    h.imp fun hst => .inr (.inr hst)
  exact hlt.forall_of_forall_of_flip (fun _ _ => .inl rfl) hgt hs ht

/-- The brackets of the tags are those of the intervals. -/
lemma brackets_passed (text : List Char) :
    Brackets (intervals text) ((passed text).filterMap placedBracket) where
  sorted := by
    refine List.Pairwise.filterMap placedBracket (fun x y hxy b hb b' hb' => ?_)
      (ascending_passed text)
    obtain ⟨p, closing, e⟩ := b
    obtain ⟨p', closing', e'⟩ := b'
    rw [placedBracket_eq_some.mp hb, placedBracket_eq_some.mp hb'] at hxy
    exact hxy
  opening p e := by
    rw [mem_brackets, tag_mem_passed]
    constructor
    · rintro ⟨s, hs, rfl⟩
      exact ⟨⟨e, s.1, s.2, (ascending_found text e).2 s hs⟩, hs, rfl, rfl⟩
    · rintro ⟨a, ha, rfl, rfl⟩
      exact ⟨_, ha, rfl⟩
  closing p e := by
    rw [mem_brackets, tag_mem_passed]
    constructor
    · rintro ⟨s, hs, rfl⟩
      exact ⟨⟨e, s.1, s.2, (ascending_found text e).2 s hs⟩, hs, rfl, rfl⟩
    · rintro ⟨a, ha, rfl, rfl⟩
      exact ⟨_, ha, rfl⟩
  disjoint a ha b hb hkind := by
    obtain ⟨e, start, stop, hlt⟩ := a
    obtain ⟨e', start', stop', hlt'⟩ := b
    obtain rfl : e = e' := hkind
    rcases found_disjoint ha hb with heq | hbefore | hafter
    · obtain ⟨rfl, rfl⟩ := Prod.mk.inj heq
      exact .inl rfl
    · exact .inr (.inl hbefore)
    · exact .inr (.inr hafter)

/-- No asterisk of emphasis is left inside strong text. -/
lemma not_em_inside {text : List Char} {s : ℕ × ℕ} (hs : s ∈ Element.strong.found text)
    {n : ℕ} {i : Item} (hi : (i, n) ∈ Element.strong.put (Element.code.put (placedItems text)))
    (hmark : Element.em.onItems.isMark i = true) : ¬ (s.1 < n ∧ n < s.2) :=
  (ascending_placedItems text).put.not_mark_inside rfl rfl hi hmark hs

/-- Strong text and emphasis do not cross. -/
lemma not_crosses_strong {text : List Char} {a b : Interval Element} (ha : a ∈ intervals text)
    (hb : b ∈ intervals text) (hstrong : a.kind = .strong) (hem : b.kind = .em) :
    ¬ Crosses a b ∧ ¬ Crosses b a := by
  have ha : (a.start, a.stop) ∈ a.kind.found text := ha
  have hb : (b.start, b.stop) ∈ b.kind.found text := hb
  rw [hstrong] at ha
  rw [hem] at hb
  obtain ⟨⟨i, hi, himark⟩, j, hj, hjmark⟩ := mark_of_mem_spans hb
  constructor
  · rintro ⟨hstart, hinside, -⟩
    exact not_em_inside ha hi himark ⟨hstart, hinside⟩
  · rintro ⟨-, hinside, hstop⟩
    exact not_em_inside ha hj hjmark ⟨hinside, hstop⟩

/-- **Nesting**: the tags of the spans are nested exactly if no code span crosses emphasis. -/
theorem nested_passed_iff (text : List Char) :
    Nested (((passed text).filterMap placedBracket).map Prod.snd) ↔
      ∀ s ∈ codeSpans text, ∀ t ∈ strongSpans text ++ emSpans text, ¬ Cross s t := by
  obtain ⟨hcode, hstrong, hem⟩ := found_eq text
  rw [(brackets_passed text).nested_iff, ← hcode, ← hstrong, ← hem]
  constructor
  · intro h s hs t ht hcross
    have hpair : ∀ e, t ∈ Element.found e text → False := by
      intro e ht
      have hst := h ⟨.code, s.1, s.2, (ascending_found text .code).2 s hs⟩ hs
        ⟨e, t.1, t.2, (ascending_found text e).2 t ht⟩ ht
      have hts := h ⟨e, t.1, t.2, (ascending_found text e).2 t ht⟩ ht
        ⟨.code, s.1, s.2, (ascending_found text .code).2 s hs⟩ hs
      rcases hcross with hcross | hcross
      · exact hst hcross
      · exact hts hcross
    rcases List.mem_append.mp ht with ht | ht
    · exact hpair .strong ht
    · exact hpair .em ht
  · intro h a ha b hb hcross
    have hne : a.kind ≠ b.kind := by
      intro hkind
      have hlt := a.lt
      obtain ⟨hstart, hinside, hstop⟩ := hcross
      rcases (brackets_passed text).disjoint a ha b hb hkind with rfl | hab | hab
      · omega
      · omega
      · omega
    have hcode : ∀ c d : Interval Element, c ∈ intervals text → d ∈ intervals text →
        c.kind = .code → d.kind ≠ .code → ¬ Cross (c.start, c.stop) (d.start, d.stop) := by
      intro c d hc hd hckind hdkind
      have hc : (c.start, c.stop) ∈ c.kind.found text := hc
      rw [hckind] at hc
      refine h _ hc _ (List.mem_append.mpr ?_)
      cases hkind : d.kind with
      | code => exact absurd hkind hdkind
      | strong => exact .inl (hkind ▸ hd)
      | em => exact .inr (hkind ▸ hd)
    by_cases hacode : a.kind = .code
    · exact hcode a b ha hb hacode (fun hbcode => hne (hacode.trans hbcode.symm)) (.inl hcross)
    · by_cases hbcode : b.kind = .code
      · exact hcode b a hb ha hbcode hacode (.inr hcross)
      · cases hakind : a.kind with
        | code => exact hacode hakind
        | strong =>
            cases hbkind : b.kind with
            | code => exact hbcode hbkind
            | strong => exact hne (hakind.trans hbkind.symm)
            | em => exact (not_crosses_strong ha hb hakind hbkind).1 hcross
        | em =>
            cases hbkind : b.kind with
            | code => exact hbcode hbkind
            | strong => exact (not_crosses_strong hb ha hbkind hakind).2 hcross
            | em => exact hne (hakind.trans hbkind.symm)

end Vussa.Markdown
