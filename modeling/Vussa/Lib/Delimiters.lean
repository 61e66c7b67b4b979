import Vussa.Lib.Replace
import Mathlib.Data.List.TakeWhile

/-!
Text between delimiters, such as the pattern `` `([^`\n]+)` `` of a simple markup: some marks,
symbols that are neither marks nor breaks, and as many marks again.

* `Delimiter`, `IsSpan`, `find`, `find_eq_some_iff`: the pattern;
* `replace`, `replace_span`, `replace_cons`, `replace_induction`: all spans replaced;
* `Spells`, `replace_flatMap`: **symbols may be spelled out before spans are replaced or after it**;
* `wrap`, `spans`: tags in the place of the delimiters, and the places of the delimiters.
-/

namespace Delimiters

open Replace

variable {α β γ δ : Type*}

/-- The marks of a delimiter, how many of them it takes, and what it does not reach over. -/
structure Delimiter (α : Type*) where
  isMark : α → Bool
  isBreak : α → Bool
  width : ℕ
  width_pos : 0 < width
  isMark_of_isBreak : ∀ a, isBreak a = true → isMark a = false

namespace Delimiter

variable (D : Delimiter α)

/-- The delimiter on symbols that stand for those of another one, or for none. -/
def comap (f : γ → Option α) : Delimiter γ where
  isMark c := (f c).any D.isMark
  isBreak c := (f c).any D.isBreak
  width := D.width
  width_pos := D.width_pos
  isMark_of_isBreak c h := by
    cases hf : f c with
    | none => rfl
    | some a =>
        rw [hf] at h
        exact D.isMark_of_isBreak a h

/-- What may stand between delimiters. -/
def isInner (a : α) : Bool := !D.isMark a && !D.isBreak a

/-- An opening delimiter, what is between, and a closing one. -/
structure IsSpan (opening inner closing : List α) : Prop where
  opening_length : opening.length = D.width
  opening_mark : ∀ a ∈ opening, D.isMark a = true
  inner_ne_nil : inner ≠ []
  inner_isInner : ∀ a ∈ inner, D.isInner a = true
  closing_length : closing.length = D.width
  closing_mark : ∀ a ∈ closing, D.isMark a = true

/-- The pattern, with `out` in the place of a span. -/
def find (out : List α → List α → List α → List β) : Find α β := fun xs =>
  let opening := xs.take D.width
  let inner := (xs.drop D.width).takeWhile D.isInner
  let closing := (xs.drop (D.width + inner.length)).take D.width
  if opening.length = D.width ∧ opening.all D.isMark ∧ 0 < inner.length ∧
      closing.length = D.width ∧ closing.all D.isMark then
    some (out opening inner closing, D.width + inner.length + D.width)
  else none

variable {D}

lemma not_isMark_of_isInner {a : α} (h : D.isInner a = true) : D.isMark a = false := by
  rw [isInner, Bool.and_eq_true, Bool.not_eq_true'] at h
  exact h.1

lemma IsSpan.exists_mark {opening inner closing : List α} (h : D.IsSpan opening inner closing) :
    (∃ a as, opening = a :: as ∧ D.isMark a = true) ∧
      ∃ a as, closing = a :: as ∧ D.isMark a = true := by
  have hcons : ∀ xs : List α, xs.length = D.width → (∀ a ∈ xs, D.isMark a = true) →
      ∃ a as, xs = a :: as ∧ D.isMark a = true := by
    intro xs hlength hmark
    cases xs with
    | nil => exact absurd hlength (Nat.ne_of_lt D.width_pos)
    | cons a as => exact ⟨a, as, rfl, hmark a List.mem_cons_self⟩
  exact ⟨hcons _ h.opening_length h.opening_mark, hcons _ h.closing_length h.closing_mark⟩

/-- The pattern matches a span at the head of the list, and nothing else. -/
lemma find_eq_some_iff {out : List α → List α → List α → List β} {xs : List α} {bs : List β}
    {n : ℕ} : D.find out xs = some (bs, n) ↔ ∃ opening inner closing rest,
      D.IsSpan opening inner closing ∧ xs = opening ++ inner ++ closing ++ rest ∧
        bs = out opening inner closing ∧ n = (opening ++ inner ++ closing).length := by
  constructor
  · intro h
    rw [find] at h
    split_ifs at h with hspan
    obtain ⟨hopening, hopening', hinner, hclosing, hclosing'⟩ := hspan
    obtain ⟨rfl, rfl⟩ := Prod.mk.inj (Option.some.inj h)
    refine ⟨_, _, _, (xs.drop (D.width + ((xs.drop D.width).takeWhile D.isInner).length)).drop
      D.width, ⟨hopening, List.all_eq_true.mp hopening', List.ne_nil_of_length_pos hinner,
        fun a ha => List.mem_takeWhile_imp ha, hclosing, List.all_eq_true.mp hclosing'⟩, ?_, rfl,
      ?_⟩
    · have hsplit := List.takeWhile_append_dropWhile (p := D.isInner) (l := xs.drop D.width)
      have hdrop : (xs.drop D.width).drop ((xs.drop D.width).takeWhile D.isInner).length =
          (xs.drop D.width).dropWhile D.isInner :=
        (congrArg (List.drop _) hsplit).symm.trans List.drop_left
      rw [List.append_assoc, List.append_assoc, List.take_append_drop, ← List.drop_drop, hdrop,
        hsplit, List.take_append_drop]
    · rw [List.length_append, List.length_append, hopening, hclosing]
  · rintro ⟨opening, inner, closing, rest, h, rfl, rfl, rfl⟩
    obtain ⟨-, c, cs, hc, hmark⟩ := h.exists_mark
    have htake : (opening ++ inner ++ closing ++ rest).take D.width = opening := by
      rw [List.append_assoc, List.append_assoc]
      exact List.take_left' h.opening_length
    have hdrop : (opening ++ inner ++ closing ++ rest).drop D.width =
        inner ++ (closing ++ rest) := by
      rw [List.append_assoc, List.append_assoc]
      exact List.drop_left' h.opening_length
    have hinner : (inner ++ (closing ++ rest)).takeWhile D.isInner = inner := by
      have hstop : (closing ++ rest).takeWhile D.isInner = [] := by
        rw [hc, List.cons_append, List.takeWhile_cons_of_neg]
        simp [isInner, hmark]
      rw [List.takeWhile_append_of_pos h.inner_isInner, hstop, List.append_nil]
    have hclosing : ((opening ++ inner ++ closing ++ rest).drop
        (D.width + inner.length)).take D.width = closing := by
      rw [← List.drop_drop, hdrop, List.drop_left]
      exact List.take_left' h.closing_length
    rw [find]
    rw [htake, hdrop, hinner, hclosing, if_pos ⟨h.opening_length, List.all_eq_true.mpr
      h.opening_mark, List.length_pos_iff.mpr h.inner_ne_nil, h.closing_length,
      List.all_eq_true.mpr h.closing_mark⟩]
    simp only [List.length_append, h.opening_length, h.closing_length]

lemma find_span {out : List α → List α → List α → List β} {opening inner closing : List α}
    (h : D.IsSpan opening inner closing) (rest : List α) :
    D.find out (opening ++ inner ++ closing ++ rest) =
      some (out opening inner closing, (opening ++ inner ++ closing).length) :=
  find_eq_some_iff.mpr ⟨opening, inner, closing, rest, h, rfl, rfl, rfl⟩

/-- Whether there is a match does not depend on what replaces it. -/
lemma find_eq_none_iff {out : List α → List α → List α → List β} {xs : List α} :
    D.find out xs = none ↔ ∀ opening inner closing rest, D.IsSpan opening inner closing →
      xs ≠ opening ++ inner ++ closing ++ rest := by
  constructor
  · rintro h opening inner closing rest hspan rfl
    rw [find_span hspan] at h
    exact absurd h (by simp)
  · intro h
    rw [Option.eq_none_iff_forall_ne_some]
    rintro ⟨bs, n⟩ hsome
    obtain ⟨opening, inner, closing, rest, hspan, hxs, -⟩ := find_eq_some_iff.mp hsome
    exact h opening inner closing rest hspan hxs

/-- No span begins with a symbol that is not a mark. -/
lemma find_cons_of_not_mark {out : List α → List α → List α → List β} {x : α} {xs : List α}
    (h : D.isMark x = false) : D.find out (x :: xs) = none := by
  refine find_eq_none_iff.mpr fun opening inner closing rest hspan heq => ?_
  obtain ⟨⟨a, as, rfl, hmark⟩, -⟩ := hspan.exists_mark
  obtain rfl := (List.cons.inj heq).1
  exact absurd (h.symm.trans hmark) Bool.false_ne_true

/-! ### Replacing spans -/

variable (D) in
/-- All spans are replaced. -/
def replace (keep : α → List β) (out : List α → List α → List α → List β) (xs : List α) :
    List β :=
  replaceAll keep (D.find out) xs

variable {keep : α → List β} {out : List α → List α → List α → List β}

@[simp] lemma replace_nil : D.replace keep out [] = [] := replaceAll_nil

lemma replace_span {opening inner closing : List α} (h : D.IsSpan opening inner closing)
    (rest : List α) : D.replace keep out (opening ++ inner ++ closing ++ rest) =
      out opening inner closing ++ D.replace keep out rest := by
  have hne : (opening ++ inner ++ closing).length ≠ 0 := by
    rw [List.length_append, List.length_append, h.opening_length]
    have hpos := D.width_pos
    omega
  have hwhole : opening ++ inner ++ closing ++ rest ≠ [] := by
    intro hnil
    rw [(List.append_eq_nil_iff.mp hnil).1] at hne
    exact hne rfl
  rw [replace, replaceAll_of_eq_some (find_span h rest) hne hwhole, List.drop_left, replace]

lemma replace_cons {x : α} {xs : List α} (h : D.find out (x :: xs) = none) :
    D.replace keep out (x :: xs) = keep x ++ D.replace keep out xs :=
  replaceAll_cons h

lemma replace_append_of_not_mark {xs ys : List α} (h : ∀ x ∈ xs, D.isMark x = false) :
    D.replace keep out (xs ++ ys) = xs.flatMap keep ++ D.replace keep out ys := by
  refine replaceAll_append fun zs hzs hsuffix => ?_
  obtain ⟨z, zs, rfl⟩ := List.exists_cons_of_ne_nil hzs
  exact find_cons_of_not_mark (h z (hsuffix.subset List.mem_cons_self))

variable (D) in
/-- Induction along the replacement: a span, or a symbol at which none begins. -/
theorem replace_induction {P : List α → Prop} (nil : P [])
    (span : ∀ opening inner closing rest, D.IsSpan opening inner closing → P rest →
      P (opening ++ inner ++ closing ++ rest))
    (cons : ∀ x xs, (∀ opening inner closing rest, D.IsSpan opening inner closing →
      x :: xs ≠ opening ++ inner ++ closing ++ rest) → P xs → P (x :: xs)) (xs : List α) :
    P xs := by
  induction hlength : xs.length using Nat.strong_induction_on generalizing xs with
  | _ length ih =>
      cases xs with
      | nil => exact nil
      | cons x xs =>
          by_cases hspan : ∃ opening inner closing rest, D.IsSpan opening inner closing ∧
              x :: xs = opening ++ inner ++ closing ++ rest
          · obtain ⟨opening, inner, closing, rest, hspan, heq⟩ := hspan
            rw [heq]
            refine span _ _ _ _ hspan (ih rest.length ?_ rest rfl)
            rw [← hlength, heq]
            simp only [List.length_append, hspan.opening_length]
            have hpos := D.width_pos
            omega
          · refine cons x xs (fun opening inner closing rest hs heq => ?_)
              (ih xs.length (by simp [← hlength]) xs rfl)
            exact hspan ⟨opening, inner, closing, rest, hs, heq⟩

variable (D) in
/-- Tags in the place of the delimiters. -/
def wrap (opened closed : List α → List α) (xs : List α) : List α :=
  D.replace (fun a => [a]) (fun opening inner closing => opened opening ++ inner ++ closed closing)
    xs

/-! ### Spellings -/

/-- The symbols of a list are spelled out: marks and breaks by one of their kind, and others by
some that are neither. -/
structure Spells (D : Delimiter α) (D' : Delimiter γ) (spell : α → List γ) : Prop where
  width : D'.width = D.width
  mark : ∀ a, D.isMark a = true → ∃ b, spell a = [b] ∧ D'.isMark b = true
  isBreak : ∀ a, D.isBreak a = true → ∃ b, spell a = [b] ∧ D'.isBreak b = true
  inner : ∀ a, D.isInner a = true → spell a ≠ [] ∧ ∀ b ∈ spell a, D'.isInner b = true

/-- The three kinds of symbols. -/
lemma kind_cases (D : Delimiter α) (a : α) :
    D.isMark a = true ∨ D.isBreak a = true ∨ D.isInner a = true := by
  rw [isInner]
  cases D.isMark a <;> cases D.isBreak a <;> simp

namespace Spells

variable {D' : Delimiter γ} {spell : α → List γ} (h : Spells D D' spell)

include h

lemma ne_nil (a : α) : spell a ≠ [] := by
  rcases D.kind_cases a with hmark | hbreak | hinner
  · obtain ⟨b, hb, -⟩ := h.mark a hmark
    rw [hb]
    exact List.cons_ne_nil b []
  · obtain ⟨b, hb, -⟩ := h.isBreak a hbreak
    rw [hb]
    exact List.cons_ne_nil b []
  · exact (h.inner a hinner).1

/-- What is no mark is spelled without marks. -/
lemma not_mark {a : α} (ha : D.isMark a = false) : ∀ b ∈ spell a, D'.isMark b = false := by
  rcases D.kind_cases a with hmark | hbreak | hinner
  · exact absurd (ha.symm.trans hmark) Bool.false_ne_true
  · obtain ⟨b, hb, hbreak'⟩ := h.isBreak a hbreak
    rw [hb]
    intro b' hb'
    rw [List.mem_singleton.mp hb']
    exact D'.isMark_of_isBreak b hbreak'
  · exact fun b hb => not_isMark_of_isInner ((h.inner a hinner).2 b hb)

lemma marks {xs : List α} (hxs : ∀ a ∈ xs, D.isMark a = true) :
    (xs.flatMap spell).length = xs.length ∧ ∀ b ∈ xs.flatMap spell, D'.isMark b = true := by
  induction xs with
  | nil => exact ⟨rfl, fun b hb => absurd hb List.not_mem_nil⟩
  | cons a xs ih =>
      obtain ⟨b, hb, hmark⟩ := h.mark a (hxs a List.mem_cons_self)
      obtain ⟨hlength, hall⟩ := ih fun x hx => hxs x (List.mem_cons_of_mem a hx)
      rw [List.flatMap_cons, hb]
      refine ⟨by rw [List.singleton_append, List.length_cons, List.length_cons, hlength], ?_⟩
      exact List.forall_mem_cons.mpr ⟨hmark, hall⟩

lemma isSpan {opening inner closing : List α} (hspan : D.IsSpan opening inner closing) :
    D'.IsSpan (opening.flatMap spell) (inner.flatMap spell) (closing.flatMap spell) where
  opening_length := by rw [(h.marks hspan.opening_mark).1, hspan.opening_length, h.width]
  opening_mark := (h.marks hspan.opening_mark).2
  inner_ne_nil := by
    obtain ⟨a, as, rfl⟩ := List.exists_cons_of_ne_nil hspan.inner_ne_nil
    rw [List.flatMap_cons]
    exact fun hnil => h.ne_nil a (List.append_eq_nil_iff.mp hnil).1
  inner_isInner b hb := by
    obtain ⟨a, ha, hb⟩ := List.mem_flatMap.mp hb
    exact (h.inner a (hspan.inner_isInner a ha)).2 b hb
  closing_length := by rw [(h.marks hspan.closing_mark).1, hspan.closing_length, h.width]
  closing_mark := (h.marks hspan.closing_mark).2

/-- Marks spell marks. -/
lemma of_marks {xs : List α} {ms zs : List γ} (heq : xs.flatMap spell = ms ++ zs)
    (hms : ∀ b ∈ ms, D'.isMark b = true) : ∃ os xs', xs = os ++ xs' ∧ os.flatMap spell = ms ∧
      (∀ a ∈ os, D.isMark a = true) ∧ xs'.flatMap spell = zs := by
  induction ms generalizing xs with
  | nil => exact ⟨[], xs, rfl, rfl, fun a ha => absurd ha List.not_mem_nil, heq⟩
  | cons m ms ih =>
      obtain ⟨hm, htail⟩ := List.forall_mem_cons.mp hms
      cases xs with
      | nil => exact absurd heq.symm (List.cons_ne_nil m _)
      | cons a xs =>
          rw [List.flatMap_cons] at heq
          cases hmark : D.isMark a with
          | true =>
              obtain ⟨b, hb, -⟩ := h.mark a hmark
              rw [hb] at heq
              obtain ⟨rfl, hrest⟩ := List.cons.inj heq
              obtain ⟨os, xs', rfl, rfl, hos, hxs'⟩ := ih hrest htail
              exact ⟨a :: os, xs', rfl, by rw [List.flatMap_cons, hb, List.singleton_append],
                List.forall_mem_cons.mpr ⟨hmark, hos⟩, hxs'⟩
          | false =>
              -- the spelling of `a` would begin with a mark
              obtain ⟨b, bs, hb⟩ := List.exists_cons_of_ne_nil (h.ne_nil a)
              rw [hb] at heq
              obtain ⟨rfl, -⟩ := List.cons.inj heq
              have hnot := h.not_mark hmark b (by rw [hb]; exact List.mem_cons_self)
              exact absurd (hnot.symm.trans hm) Bool.false_ne_true

/-- What is between delimiters spells what is between delimiters. -/
lemma of_inner {xs : List α} {is zs : List γ} {m : γ} (heq : xs.flatMap spell = is ++ m :: zs)
    (his : ∀ b ∈ is, D'.isInner b = true) (hm : D'.isMark m = true) :
    ∃ as xs', xs = as ++ xs' ∧ as.flatMap spell = is ∧ (∀ a ∈ as, D.isInner a = true) ∧
      xs'.flatMap spell = m :: zs := by
  induction xs generalizing is with
  | nil => exact absurd (congrArg List.length heq) (by simp)
  | cons a xs ih =>
      have hnot : ∀ b, D'.isInner b = true → b ≠ m := by
        rintro b hb rfl
        exact absurd ((not_isMark_of_isInner hb).symm.trans hm) Bool.false_ne_true
      have hstop : ∀ b, spell a = [b] → D'.isInner b = false → ∃ as xs', a :: xs = as ++ xs' ∧
          as.flatMap spell = is ∧ (∀ a ∈ as, D.isInner a = true) ∧
            xs'.flatMap spell = m :: zs := by
        intro b hb hnotInner
        cases is with
        | nil => exact ⟨[], a :: xs, rfl, rfl, fun a ha => absurd ha List.not_mem_nil, heq⟩
        | cons i is =>
            rw [List.flatMap_cons, hb] at heq
            obtain ⟨rfl, -⟩ := List.cons.inj heq
            have hinner := his b List.mem_cons_self
            exact absurd (hnotInner.symm.trans hinner) Bool.false_ne_true
      rcases D.kind_cases a with hmark | hbreak | hinner
      · obtain ⟨b, hb, hmark'⟩ := h.mark a hmark
        exact hstop b hb (by simp [isInner, hmark'])
      · obtain ⟨b, hb, hbreak'⟩ := h.isBreak a hbreak
        exact hstop b hb (by simp [isInner, hbreak'])
      · rw [List.flatMap_cons] at heq
        have hall := (h.inner a hinner).2
        have hrest : ∃ is', is = spell a ++ is' ∧ xs.flatMap spell = is' ++ m :: zs := by
          rcases List.append_eq_append_iff.mp heq with ⟨is', rfl, hxs⟩ | ⟨ys, hspell, hxs⟩
          · exact ⟨is', rfl, hxs⟩
          · cases ys with
            | nil =>
                rw [List.append_nil] at hspell
                exact ⟨[], by rw [hspell, List.append_nil], hxs.symm⟩
            | cons y ys =>
                obtain ⟨rfl, -⟩ := List.cons.inj hxs
                have hy : m ∈ spell a := by
                  rw [hspell]
                  exact List.mem_append_right is List.mem_cons_self
                exact absurd rfl (hnot m (hall m hy))
        obtain ⟨is', rfl, hxs⟩ := hrest
        obtain ⟨as, xs', rfl, rfl, has, hxs'⟩ :=
          ih hxs fun b hb => his b (List.mem_append_right _ hb)
        exact ⟨a :: as, xs', rfl, List.flatMap_cons, List.forall_mem_cons.mpr ⟨hinner, has⟩, hxs'⟩

/-- A span of the spelling spells a span. -/
lemma of_isSpan {xs : List α} {opening inner closing rest : List γ}
    (hspan : D'.IsSpan opening inner closing)
    (heq : xs.flatMap spell = opening ++ inner ++ closing ++ rest) :
    ∃ os is cs xs', D.IsSpan os is cs ∧ xs = os ++ is ++ cs ++ xs' := by
  rw [List.append_assoc, List.append_assoc] at heq
  obtain ⟨os, xs₁, rfl, hos, hosMark, heq⟩ := h.of_marks heq hspan.opening_mark
  obtain ⟨-, m, ms, hclosing, hm⟩ := hspan.exists_mark
  have heq' : xs₁.flatMap spell = inner ++ m :: (ms ++ rest) := by
    rw [heq, hclosing, List.cons_append]
  obtain ⟨is, xs₂, rfl, his, hisInner, heq'⟩ := h.of_inner heq' hspan.inner_isInner hm
  have heq'' : xs₂.flatMap spell = closing ++ rest := by
    rw [heq', hclosing, List.cons_append]
  obtain ⟨cs, xs₃, rfl, hcs, hcsMark, -⟩ := h.of_marks heq'' hspan.closing_mark
  refine ⟨os, is, cs, xs₃, ⟨?_, hosMark, ?_, hisInner, ?_, hcsMark⟩, by
    simp only [List.append_assoc]⟩
  · rw [← (h.marks hosMark).1, hos, hspan.opening_length, h.width]
  · rintro rfl
    exact hspan.inner_ne_nil his.symm
  · rw [← (h.marks hcsMark).1, hcs, hspan.closing_length, h.width]

/-- **Spellings**: spans may be replaced in a list, or in what it spells. -/
theorem replace_flatMap {keep' : γ → List δ} {out' : List γ → List γ → List γ → List δ}
    {write : β → List δ}
    (hkeep : ∀ a, (keep a).flatMap write = (spell a).flatMap keep')
    (hout : ∀ opening inner closing, D.IsSpan opening inner closing →
      (out opening inner closing).flatMap write =
        out' (opening.flatMap spell) (inner.flatMap spell) (closing.flatMap spell))
    (xs : List α) :
    D'.replace keep' out' (xs.flatMap spell) = (D.replace keep out xs).flatMap write := by
  refine replaceAll_flatMap h.ne_nil (fun xs bs n hfind => ?_) (fun x xs hfind zs hzs hsuffix => ?_)
    hkeep xs
  · obtain ⟨opening, inner, closing, rest, hspan, rfl, rfl, rfl⟩ := find_eq_some_iff.mp hfind
    have hlength := hspan.opening_length
    have hpos := D.width_pos
    refine ⟨?_, ?_, ?_, ?_⟩
    · simp only [List.length_append]
      omega
    · intro hnil
      have hzero := congrArg List.length hnil
      simp only [List.length_append, List.length_nil] at hzero
      omega
    · simp only [List.length_append]
      omega
    · have htake : (opening ++ inner ++ closing ++ rest).take
          (opening ++ inner ++ closing).length = opening ++ inner ++ closing := List.take_left
      rw [htake, hout _ _ _ hspan]
      simp only [List.flatMap_append]
      exact find_span (h.isSpan hspan) _
  · cases hmark : D.isMark x with
    | true =>
        obtain ⟨b, hb, -⟩ := h.mark x hmark
        obtain rfl : zs = [b] := by
          rw [hb] at hsuffix
          rcases List.suffix_cons_iff.mp hsuffix with heq | hnil
          · exact heq
          · exact absurd (List.suffix_nil.mp hnil) hzs
        refine find_eq_none_iff.mpr fun opening inner closing rest hspan heq => ?_
        rw [← hb, ← List.flatMap_cons] at heq
        obtain ⟨os, is, cs, xs', hspan', heq'⟩ := h.of_isSpan hspan heq
        exact find_eq_none_iff.mp hfind os is cs xs' hspan' heq'
    | false =>
        obtain ⟨z, zs, rfl⟩ := List.exists_cons_of_ne_nil hzs
        exact find_cons_of_not_mark (h.not_mark hmark z (hsuffix.subset List.mem_cons_self))

/-- Tags are spelled out with the rest. -/
lemma wrap_flatMap {opened closed : List α → List α} {opened' closed' : List γ → List γ}
    (hopened : ∀ marks, (opened marks).flatMap spell = opened' (marks.flatMap spell))
    (hclosed : ∀ marks, (closed marks).flatMap spell = closed' (marks.flatMap spell))
    (xs : List α) :
    D'.wrap opened' closed' (xs.flatMap spell) = (D.wrap opened closed xs).flatMap spell := by
  refine h.replace_flatMap (fun a => ?_) (fun opening inner closing _ => ?_) xs
  · rw [List.flatMap_singleton', List.flatMap_singleton]
  · rw [List.flatMap_append, List.flatMap_append, hopened, hclosed]

end Spells

end Delimiter

end Delimiters
