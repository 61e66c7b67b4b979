import Mathlib.Data.List.Basic
import Mathlib.Data.List.Flatten
import Mathlib.Tactic

/-!
Tags in HTML: the tokenizer of the standard, as far as text and tags go. The text of a token is the
text as it is written; character references are read apart from it.

* `Tag`, `Token`, `State`, `State.next`, `tokens`: the tokenizer;
* `tokens_text`: text without `<`;
* `Tag.write`, `Tag.Plain`, `tokens_write`: **a tag that is written with quoted values is read
  back**;
* `reference`, `escape`, `decode`: the references to the five characters with a meaning;
* `decode_escape_append`: **an escaped text is read back**.
-/

namespace Html

/-! ### Tokens -/

/-- A tag, by its name and its attributes in the order they are written. -/
structure Tag where
  closing : Bool := false
  name : List Char
  attributes : List (List Char × List Char) := []
  deriving DecidableEq, Repr

/-- What the tokenizer emits. -/
inductive Token where
  | text (c : Char)
  | tag (t : Tag)
  /-- a comment, a document type or a section of character data; its end is not looked for -/
  | markup
  deriving DecidableEq, Repr

/-- The tag that a token is. -/
def Token.tag? : Token → Option Tag
  | tag t => some t
  | _ => none

/-- The states of the tokenizer. -/
inductive State where
  | data
  | tagOpen
  | endTagOpen
  | tagName (t : Tag)
  | beforeAttributeName (t : Tag)
  | attributeName (t : Tag) (name : List Char)
  | afterAttributeName (t : Tag) (name : List Char)
  | beforeAttributeValue (t : Tag) (name : List Char)
  /-- in a value, between quotes or without any -/
  | attributeValue (t : Tag) (name value : List Char) (quote : Option Char)
  | afterAttributeValue (t : Tag)
  | selfClosingStartTag (t : Tag)
  | markup
  deriving DecidableEq, Repr

/-- White space of the standard. -/
def isSpace (c : Char) : Bool := c == '\t' || c == '\n' || c == '\x0c' || c == '\r' || c == ' '

/-- A letter of ASCII. -/
def isLetter (c : Char) : Bool := ('a' ≤ c && c ≤ 'z') || ('A' ≤ c && c ≤ 'Z')

/-- A letter of ASCII in lower case. -/
def lower (c : Char) : Char := if 'A' ≤ c && c ≤ 'Z' then Char.ofNat (c.toNat + 32) else c

/-- An attribute is added, unless the tag has one of the name. -/
def Tag.add (t : Tag) (name value : List Char) : Tag :=
  if name ∈ t.attributes.map Prod.fst then t
  else { t with attributes := t.attributes ++ [(name, value)] }

namespace State

/-- Before the name of an attribute. -/
def nextBeforeAttributeName (t : Tag) (c : Char) : List Token × State :=
  if isSpace c then ([], beforeAttributeName t)
  else if c = '/' then ([], selfClosingStartTag t)
  else if c = '>' then ([.tag t], data)
  else if c = '=' then ([], attributeName t [c])
  else ([], attributeName t [lower c])

/-- After the name of an attribute. -/
def nextAfterAttributeName (t : Tag) (name : List Char) (c : Char) : List Token × State :=
  if isSpace c then ([], afterAttributeName t name)
  else if c = '/' then ([], selfClosingStartTag (t.add name []))
  else if c = '=' then ([], beforeAttributeValue t name)
  else if c = '>' then ([.tag (t.add name [])], data)
  else ([], attributeName (t.add name []) [lower c])

/-- In a value without quotes. -/
def nextUnquoted (t : Tag) (name value : List Char) (c : Char) : List Token × State :=
  if isSpace c then ([], beforeAttributeName (t.add name value))
  else if c = '>' then ([.tag (t.add name value)], data)
  else ([], attributeValue t name (value ++ [c]) none)

/-- What the tokenizer does with the next character. -/
def next (s : State) (c : Char) : List Token × State :=
  match s with
  | data => if c = '<' then ([], tagOpen) else ([.text c], data)
  | tagOpen =>
      if c = '!' ∨ c = '?' then ([.markup], markup)
      else if c = '/' then ([], endTagOpen)
      else if isLetter c then ([], tagName { name := [lower c] })
      else if c = '<' then ([.text '<'], tagOpen)
      else ([.text '<', .text c], data)
  | endTagOpen =>
      if isLetter c then ([], tagName { closing := true, name := [lower c] })
      else if c = '>' then ([], data)
      else ([.markup], markup)
  | tagName t =>
      if isSpace c then ([], beforeAttributeName t)
      else if c = '/' then ([], selfClosingStartTag t)
      else if c = '>' then ([.tag t], data)
      else ([], tagName { t with name := t.name ++ [lower c] })
  | beforeAttributeName t => nextBeforeAttributeName t c
  | attributeName t name =>
      if isSpace c ∨ c = '/' ∨ c = '>' then nextAfterAttributeName t name c
      else if c = '=' then ([], beforeAttributeValue t name)
      else ([], attributeName t (name ++ [lower c]))
  | afterAttributeName t name => nextAfterAttributeName t name c
  | beforeAttributeValue t name =>
      if isSpace c then ([], beforeAttributeValue t name)
      else if c = '"' ∨ c = '\'' then ([], attributeValue t name [] (some c))
      else if c = '>' then ([.tag (t.add name [])], data)
      else nextUnquoted t name [] c
  | attributeValue t name value (some quote) =>
      if c = quote then ([], afterAttributeValue (t.add name value))
      else ([], attributeValue t name (value ++ [c]) (some quote))
  | attributeValue t name value none => nextUnquoted t name value c
  | afterAttributeValue t =>
      if isSpace c then ([], beforeAttributeName t)
      else if c = '/' then ([], selfClosingStartTag t)
      else if c = '>' then ([.tag t], data)
      else nextBeforeAttributeName t c
  | selfClosingStartTag t =>
      if c = '>' then ([.tag t], data) else nextBeforeAttributeName t c
  | markup => ([], markup)

/-- What is left at the end: a tag that has not ended is dropped. -/
def finish : State → List Token
  | tagOpen => [.text '<']
  | endTagOpen => [.text '<', .text '/']
  | _ => []

/-- The tokens from a state. -/
def run : State → List Char → List Token
  | s, [] => s.finish
  | s, c :: cs => (s.next c).1 ++ run (s.next c).2 cs

end State

/-- The tokens of a text. -/
def tokens (text : List Char) : List Token := State.data.run text

/-- The tags of a text. -/
def tags (text : List Char) : List Tag := (tokens text).filterMap Token.tag?

/-! ### Text -/

/-- Text without `<`. -/
lemma tokens_text {xs : List Char} (h : '<' ∉ xs) (ys : List Char) :
    tokens (xs ++ ys) = xs.map Token.text ++ tokens ys := by
  induction xs with
  | nil => rfl
  | cons c xs ih =>
      rw [List.mem_cons, not_or] at h
      rw [List.cons_append, tokens, State.run, State.next, if_neg (Ne.symm h.1)]
      exact congrArg (Token.text c :: ·) (ih h.2)

/-! ### Tags -/

/-- An attribute, with its value between quotes. -/
def writeAttribute (a : List Char × List Char) : List Char :=
  ' ' :: a.1 ++ '=' :: '"' :: a.2 ++ ['"']

/-- A tag, with the values of its attributes between quotes. -/
def Tag.write (t : Tag) : List Char :=
  '<' :: (if t.closing then ['/'] else []) ++ t.name ++ t.attributes.flatMap writeAttribute ++ ['>']

/-- A name of lower case letters. -/
def PlainName (name : List Char) : Prop := name ≠ [] ∧ ∀ c ∈ name, 'a' ≤ c ∧ c ≤ 'z'

instance (name : List Char) : Decidable (PlainName name) :=
  haveI : Decidable (∀ c ∈ name, 'a' ≤ c ∧ c ≤ 'z') := List.decidableBAll _ name
  inferInstanceAs (Decidable (_ ∧ _))

/-- Plain names, each of one attribute, and values that do not end the quotes. -/
structure Tag.Plain (t : Tag) : Prop where
  name : PlainName t.name
  attributeName : ∀ a ∈ t.attributes, PlainName a.1
  nodup : (t.attributes.map Prod.fst).Nodup
  value : ∀ a ∈ t.attributes, '"' ∉ a.2

section Letter

variable {c : Char} (h : 'a' ≤ c ∧ c ≤ 'z')

include h

/-- A lower case letter is none of the characters that end a name. -/
lemma ne_of_letter {d : Char} (hd : ¬ ('a' ≤ d ∧ d ≤ 'z')) : c ≠ d := by
  rintro rfl
  exact hd h

lemma isSpace_of_letter : isSpace c = false := by
  have hne : ∀ d : Char, ¬ ('a' ≤ d ∧ d ≤ 'z') → (c == d) = false := fun d hd =>
    beq_eq_false_iff_ne.mpr (ne_of_letter h hd)
  simp only [isSpace, hne '\t' (by decide), hne '\n' (by decide), hne '\x0c' (by decide),
    hne '\r' (by decide), hne ' ' (by decide), Bool.or_self]

lemma isLetter_of_letter : isLetter c = true := by
  simp only [isLetter, h.1, h.2, decide_true, Bool.and_self, Bool.true_or]

lemma lower_of_letter : lower c = c := by
  have hlt : ¬ c ≤ 'Z' := fun hle => absurd (Char.le_trans h.1 hle) (by decide)
  simp only [lower, hlt, decide_false, Bool.and_false, Bool.false_eq_true, if_false]

end Letter

/-- The rest of a name. -/
lemma run_tagName {name : List Char} (h : ∀ c ∈ name, 'a' ≤ c ∧ c ≤ 'z') (t : Tag)
    (ys : List Char) : (State.tagName t).run (name ++ ys) =
      (State.tagName { t with name := t.name ++ name }).run ys := by
  induction name generalizing t with
  | nil => rw [List.nil_append, List.append_nil]
  | cons c name ih =>
      have hc := h c List.mem_cons_self
      rw [List.cons_append, State.run, State.next, isSpace_of_letter hc, lower_of_letter hc,
        if_neg Bool.false_ne_true, if_neg (ne_of_letter hc (by decide)),
        if_neg (ne_of_letter hc (by decide))]
      dsimp only
      rw [List.nil_append, ih fun d hd => h d (List.mem_cons_of_mem c hd)]
      simp only [List.append_assoc, List.singleton_append]

/-- The rest of the name of an attribute. -/
lemma run_attributeName {name : List Char} (h : ∀ c ∈ name, 'a' ≤ c ∧ c ≤ 'z') (t : Tag)
    (pre ys : List Char) : (State.attributeName t pre).run (name ++ ys) =
      (State.attributeName t (pre ++ name)).run ys := by
  induction name generalizing pre with
  | nil => rw [List.nil_append, List.append_nil]
  | cons c name ih =>
      have hc := h c List.mem_cons_self
      have hend : ¬ (isSpace c = true ∨ c = '/' ∨ c = '>') := by
        rw [isSpace_of_letter hc]
        simp only [Bool.false_eq_true, false_or, not_or]
        exact ⟨ne_of_letter hc (by decide), ne_of_letter hc (by decide)⟩
      rw [List.cons_append, State.run, State.next, if_neg hend, lower_of_letter hc,
        if_neg (ne_of_letter hc (by decide))]
      dsimp only
      rw [List.nil_append, ih fun d hd => h d (List.mem_cons_of_mem c hd), List.append_assoc,
        List.singleton_append]

/-- The rest of a value between quotes. -/
lemma run_attributeValue {xs : List Char} (h : '"' ∉ xs) (t : Tag) (name value ys : List Char) :
    (State.attributeValue t name value (some '"')).run (xs ++ ys) =
      (State.attributeValue t name (value ++ xs) (some '"')).run ys := by
  induction xs generalizing value with
  | nil => rw [List.nil_append, List.append_nil]
  | cons c xs ih =>
      rw [List.mem_cons, not_or] at h
      rw [List.cons_append, State.run, State.next, if_neg (Ne.symm h.1)]
      dsimp only
      rw [List.nil_append, ih h.2, List.append_assoc, List.singleton_append]

/-- The attributes of a tag, and its end. -/
lemma run_attributes {attributes : List (List Char × List Char)} {t : Tag}
    (hname : ∀ a ∈ attributes, PlainName a.1)
    (hnodup : ((t.attributes ++ attributes).map Prod.fst).Nodup)
    (hvalue : ∀ a ∈ attributes, '"' ∉ a.2) (ys : List Char) {s : State}
    (hs : s = .tagName t ∨ s = .afterAttributeValue t) :
    s.run (attributes.flatMap writeAttribute ++ '>' :: ys) =
      .tag { t with attributes := t.attributes ++ attributes } :: tokens ys := by
  induction attributes generalizing t s with
  | nil =>
      rw [List.append_nil]
      rcases hs with rfl | rfl <;> rfl
  | cons a attributes ih =>
      obtain ⟨name, value⟩ := a
      obtain ⟨⟨hne, hletters⟩, hname⟩ := List.forall_mem_cons.mp hname
      obtain ⟨hquote, hvalue⟩ := List.forall_mem_cons.mp hvalue
      have hspace : ∀ zs, s.run (' ' :: zs) = (State.beforeAttributeName t).run zs := by
        rcases hs with rfl | rfl <;> exact fun zs => rfl
      have hstart : ∀ zs, (State.beforeAttributeName t).run (name ++ zs) =
          (State.attributeName t name).run zs := by
        cases name with
        | nil => exact absurd rfl hne
        | cons c name =>
            have hc := hletters c List.mem_cons_self
            intro zs
            rw [List.cons_append, State.run, State.next, State.nextBeforeAttributeName,
              isSpace_of_letter hc, lower_of_letter hc, if_neg Bool.false_ne_true,
              if_neg (ne_of_letter hc (by decide)), if_neg (ne_of_letter hc (by decide)),
              if_neg (ne_of_letter hc (by decide))]
            exact run_attributeName (fun d hd => hletters d (List.mem_cons_of_mem c hd)) t [c] zs
      have hadd : t.add name value = { t with attributes := t.attributes ++ [(name, value)] } := by
        refine if_neg fun hmem => ?_
        rw [List.map_append, List.map_cons, List.nodup_append] at hnodup
        exact hnodup.2.2 name hmem name List.mem_cons_self rfl
      have hrest := ih (t := t.add name value) hname (by rw [hadd]; simpa using hnodup) hvalue
        (.inr rfl)
      have hquotes : ∀ zs, (State.attributeName t name).run ('=' :: '"' :: value ++ '"' :: zs) =
          (State.afterAttributeValue (t.add name value)).run zs := by
        intro zs
        have hvalues := run_attributeValue hquote t name [] ('"' :: zs)
        exact hvalues
      rw [List.flatMap_cons, writeAttribute]
      simp only [List.cons_append, List.append_assoc, List.nil_append]
      rw [hspace, hstart]
      have hrun := hquotes (attributes.flatMap writeAttribute ++ '>' :: ys)
      simp only [List.cons_append] at hrun
      rw [hrun, hrest, hadd]
      simp only [List.append_assoc, List.singleton_append]

/-- **A plain tag is read back**: the attributes are there in order, and the text goes on. -/
theorem tokens_write {t : Tag} (h : t.Plain) (ys : List Char) :
    tokens (t.write ++ ys) = .tag t :: tokens ys := by
  obtain ⟨closing, name, attributes⟩ := t
  obtain ⟨⟨hne, hletters⟩, hname, hnodup, hvalue⟩ := h
  dsimp only at hne hletters hname hnodup hvalue
  cases name with
  | nil => exact absurd rfl hne
  | cons c name =>
      have hc := hletters c List.mem_cons_self
      have hstart : ∀ zs, tokens ('<' :: (if closing then ['/'] else []) ++ c :: name ++ zs) =
          (State.tagName { closing := closing, name := c :: name }).run zs := by
        intro zs
        have hrest := run_tagName (fun d hd => hletters d (List.mem_cons_of_mem c hd))
          { closing := closing, name := [c] } zs
        have hopen : ¬ (c = '!' ∨ c = '?') := by
          rw [not_or]
          exact ⟨ne_of_letter hc (by decide), ne_of_letter hc (by decide)⟩
        have hslash : c ≠ '/' := ne_of_letter hc (by decide)
        cases closing with
        | true =>
            refine Eq.trans ?_ hrest
            change (State.endTagOpen).run (c :: (name ++ zs)) = _
            rw [State.run, State.next, isLetter_of_letter hc, lower_of_letter hc, if_pos rfl]
            rfl
        | false =>
            refine Eq.trans ?_ hrest
            change (State.tagOpen).run (c :: (name ++ zs)) = _
            rw [State.run, State.next, isLetter_of_letter hc, lower_of_letter hc, if_neg hopen,
              if_neg hslash, if_pos rfl]
            rfl
      rw [Tag.write]
      have hrun := run_attributes (t := { closing := closing, name := c :: name }) hname
        (by simpa using hnodup) hvalue ys (.inl rfl)
      have hwhole := hstart (attributes.flatMap writeAttribute ++ '>' :: ys)
      rw [hrun] at hwhole
      simpa only [List.cons_append, List.append_assoc, List.nil_append] using hwhole

/-! ### Character references -/

/-- The reference to a character that has a meaning in text or in a value. -/
def reference : Char → List Char
  | '&' => "&amp;".toList
  | '<' => "&lt;".toList
  | '>' => "&gt;".toList
  | '"' => "&quot;".toList
  | '\'' => "&#39;".toList
  | c => [c]

/-- A text without characters that have a meaning. -/
def escape (text : List Char) : List Char := text.flatMap reference

/-- The references to these characters are read. -/
def decode : List Char → List Char
  | '&' :: 'a' :: 'm' :: 'p' :: ';' :: cs => '&' :: decode cs
  | '&' :: 'l' :: 't' :: ';' :: cs => '<' :: decode cs
  | '&' :: 'g' :: 't' :: ';' :: cs => '>' :: decode cs
  | '&' :: 'q' :: 'u' :: 'o' :: 't' :: ';' :: cs => '"' :: decode cs
  | '&' :: '#' :: '3' :: '9' :: ';' :: cs => '\'' :: decode cs
  | c :: cs => c :: decode cs
  | [] => []

lemma escape_cons (c : Char) (cs : List Char) : escape (c :: cs) = reference c ++ escape cs :=
  List.flatMap_cons

lemma escape_append (xs ys : List Char) : escape (xs ++ ys) = escape xs ++ escape ys :=
  List.flatMap_append

/-- The characters that have a meaning. -/
def Special (c : Char) : Prop := c = '&' ∨ c = '<' ∨ c = '>' ∨ c = '"' ∨ c = '\''

instance (c : Char) : Decidable (Special c) := inferInstanceAs (Decidable (_ ∨ _))

lemma reference_of_not_special {c : Char} (h : ¬ Special c) : reference c = [c] := by
  rw [reference.eq_def]
  simp only [Special, not_or] at h
  split <;> simp_all

lemma decode_of_ne {c : Char} (h : c ≠ '&') (cs : List Char) :
    decode (c :: cs) = c :: decode cs := by
  rw [decode.eq_def]
  split <;> simp_all

/-- A reference is read back. -/
lemma decode_reference (c : Char) (cs : List Char) :
    decode (reference c ++ cs) = c :: decode cs := by
  by_cases h : Special c
  · rcases h with rfl | rfl | rfl | rfl | rfl <;> rfl
  · rw [reference_of_not_special h, List.singleton_append, decode_of_ne fun heq => h (.inl heq)]

/-- **An escaped text is read back.** -/
theorem decode_escape_append (text ys : List Char) :
    decode (escape text ++ ys) = text ++ decode ys := by
  induction text with
  | nil => rfl
  | cons c text ih =>
      rw [escape_cons, List.append_assoc, decode_reference, ih, List.cons_append]

lemma decode_escape (text : List Char) : decode (escape text) = text := by
  have h := decode_escape_append text []
  rwa [List.append_nil, decode, List.append_nil] at h

/-- A text without references stays. -/
lemma decode_append_of_not_mem {xs : List Char} (h : '&' ∉ xs) (ys : List Char) :
    decode (xs ++ ys) = xs ++ decode ys := by
  induction xs with
  | nil => rfl
  | cons c xs ih =>
      rw [List.mem_cons, not_or] at h
      rw [List.cons_append, decode_of_ne (Ne.symm h.1), ih h.2, List.cons_append]

/-- No character of a reference but the first has a meaning. -/
lemma mem_reference {c d : Char} (h : d ∈ reference c) : d = '&' ∨ ¬ Special d := by
  by_cases hc : Special c
  · have hall : ∀ c', Special c' →
        (reference c').all (fun d => decide (d = '&' ∨ ¬ Special d)) = true := by
      rintro c' (rfl | rfl | rfl | rfl | rfl) <;> decide
    exact of_decide_eq_true (List.all_eq_true.mp (hall c hc) d h)
  · rw [reference_of_not_special hc, List.mem_singleton] at h
    exact .inr (h ▸ hc)

/-- References are told apart at their beginning. -/
lemma reference_append_inj {c d : Char} {xs ys : List Char}
    (h : reference c ++ xs = reference d ++ ys) : c = d ∧ xs = ys := by
  have hdecode := congrArg decode h
  rw [decode_reference, decode_reference] at hdecode
  obtain rfl := (List.cons.inj hdecode).1
  exact ⟨rfl, List.append_cancel_left h⟩

lemma reference_ne_nil (c : Char) : reference c ≠ [] := by
  intro h
  have hdecode := decode_reference c []
  rw [h] at hdecode
  exact absurd hdecode (by simp [decode])

/-- Only the first character of a reference can be `&`. -/
lemma not_mem_tail_reference (c : Char) : '&' ∉ (reference c).tail := by
  by_cases h : Special c
  · rcases h with rfl | rfl | rfl | rfl | rfl <;> decide
  · rw [reference_of_not_special h]
    exact List.not_mem_nil

/-- An escaped text that begins with an escaped one: the texts do. -/
lemma escape_eq_append {text p r : List Char} (h : escape text = escape p ++ r) :
    ∃ text', text = p ++ text' ∧ r = escape text' := by
  induction p generalizing text with
  | nil => exact ⟨text, rfl, h.symm⟩
  | cons d p ih =>
      rw [escape_cons, List.append_assoc] at h
      cases text with
      | nil => exact absurd (List.append_eq_nil_iff.mp h.symm).1 (reference_ne_nil d)
      | cons c text =>
          obtain ⟨rfl, hrest⟩ := reference_append_inj h
          obtain ⟨text', rfl, rfl⟩ := ih hrest
          exact ⟨text', rfl, rfl⟩

/-- In an escaped text every `&` begins a reference. -/
lemma escape_eq_append_cons {text xs ys : List Char} (h : escape text = xs ++ '&' :: ys) :
    ∃ text₁ text₂, text = text₁ ++ text₂ ∧ xs = escape text₁ ∧ '&' :: ys = escape text₂ := by
  induction text generalizing xs with
  | nil => exact absurd h.symm (by simp [escape])
  | cons c text ih =>
      rw [escape_cons] at h
      rcases List.append_eq_append_iff.mp h with ⟨zs, rfl, hrest⟩ | ⟨zs, hc, hrest⟩
      · obtain ⟨text₁, text₂, rfl, rfl, hys⟩ := ih hrest
        exact ⟨c :: text₁, text₂, rfl, (escape_cons c text₁).symm, hys⟩
      · cases zs with
        | nil =>
            rw [List.append_nil] at hc
            have hrest : escape text = [] ++ '&' :: ys := hrest.symm
            obtain ⟨text₁, text₂, rfl, hnil, hys⟩ := ih hrest
            refine ⟨c :: text₁, text₂, rfl, ?_, hys⟩
            rw [escape_cons, ← hnil, List.append_nil, hc]
        | cons z zs =>
            obtain ⟨rfl, -⟩ := List.cons.inj hrest
            cases xs with
            | nil => exact ⟨[], c :: text, rfl, rfl, by rw [escape_cons, h, List.nil_append]⟩
            | cons x xs =>
                refine absurd ?_ (not_mem_tail_reference c)
                rw [hc, List.cons_append, List.tail_cons]
                exact List.mem_append_right xs List.mem_cons_self

lemma mem_escape {text : List Char} {d : Char} (h : d ∈ escape text) : d = '&' ∨ ¬ Special d := by
  obtain ⟨c, -, hd⟩ := List.mem_flatMap.mp h
  exact mem_reference hd

end Html
