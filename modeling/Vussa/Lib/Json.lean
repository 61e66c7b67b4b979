import Mathlib.Tactic

/-!
JSON values and their texts: a writer without white space, with the escapes that writers agree on,
and a reader of the grammar with a limit on the nesting. Numbers are whole; the reader refuses a
fraction, an exponent and a negative zero.

* `Value`, `Value.depth`: the values and their nesting;
* `Value.print`, `Value.text`: the writer;
* `readChars`, `readNumber`, `readItems`, `readValue`, `parse`: the reader;
* `readChars_print`, `readNumber_print`, `readItems_print`: what each part reads back;
* `parse_text`: **the reader reads what the writer wrote**.
-/

namespace Json

/-! ### Values -/

/-- A JSON value; the fields of an object are in the order of the text, repetitions included. -/
inductive Value where
  | null
  | bool (b : Bool)
  | int (n : ℤ)
  | string (s : String)
  | array (items : List Value)
  | object (fields : List (String × Value))
  deriving Repr

mutual

/-- The number of arrays and objects around the innermost value. -/
def Value.depth : Value → ℕ
  | .array items => depthItems items + 1
  | .object fields => depthFields fields + 1
  | _ => 0

/-- The depth of the deepest item. -/
def depthItems : List Value → ℕ
  | [] => 0
  | v :: vs => max v.depth (depthItems vs)

/-- The depth of the deepest field. -/
def depthFields : List (String × Value) → ℕ
  | [] => 0
  | (_, v) :: fields => max v.depth (depthFields fields)

end

lemma depth_le_of_mem_items {v : Value} {items : List Value} (h : v ∈ items) :
    v.depth ≤ depthItems items := by
  induction items with
  | nil => exact absurd h List.not_mem_nil
  | cons w items ih =>
      rw [depthItems]
      rcases List.mem_cons.mp h with rfl | h
      · exact le_max_left _ _
      · exact (ih h).trans (le_max_right _ _)

lemma depth_le_of_mem_fields {f : String × Value} {fields : List (String × Value)}
    (h : f ∈ fields) : f.2.depth ≤ depthFields fields := by
  induction fields with
  | nil => exact absurd h List.not_mem_nil
  | cons g fields ih =>
      rw [depthFields]
      rcases List.mem_cons.mp h with rfl | h
      · exact le_max_left _ _
      · exact (ih h).trans (le_max_right _ _)

/-- An object is one level above its fields. -/
lemma depth_object {fields : List (String × Value)} {depth : ℕ}
    (h : ∀ f ∈ fields, f.2.depth ≤ depth) : (Value.object fields).depth ≤ depth + 1 := by
  rw [Value.depth]
  refine Nat.succ_le_succ ?_
  induction fields with
  | nil => exact Nat.zero_le _
  | cons f fields ih =>
      rw [depthFields]
      exact max_le (h f List.mem_cons_self) (ih fun g hg => h g (List.mem_cons_of_mem f hg))

/-! ### The writer -/

/-- A character inside a string. -/
def escape (c : Char) : List Char :=
  if c = '"' then ['\\', '"']
  else if c = '\\' then ['\\', '\\']
  else if c.toNat = 8 then ['\\', 'b']
  else if c.toNat = 9 then ['\\', 't']
  else if c.toNat = 10 then ['\\', 'n']
  else if c.toNat = 12 then ['\\', 'f']
  else if c.toNat = 13 then ['\\', 'r']
  else if c.toNat < 32 then
    ['\\', 'u', '0', '0', Nat.digitChar (c.toNat / 16), Nat.digitChar (c.toNat % 16)]
  else [c]

/-- A string. -/
def printString (s : String) : List Char := '"' :: (s.toList.flatMap escape ++ ['"'])

/-- A number. -/
def printInt (n : ℤ) : List Char :=
  if n < 0 then '-' :: Nat.toDigits 10 n.natAbs else Nat.toDigits 10 n.natAbs

/-- Texts with commas between them. -/
def commas : List (List Char) → List Char
  | [] => []
  | [t] => t
  | t :: ts => t ++ ',' :: commas ts

mutual

/-- The text of a value. -/
def Value.print : Value → List Char
  | .null => ['n', 'u', 'l', 'l']
  | .bool true => ['t', 'r', 'u', 'e']
  | .bool false => ['f', 'a', 'l', 's', 'e']
  | .int n => printInt n
  | .string s => printString s
  | .array items => '[' :: (commas (printItems items) ++ [']'])
  | .object fields => '{' :: (commas (printFields fields) ++ ['}'])

/-- The texts of the items. -/
def printItems : List Value → List (List Char)
  | [] => []
  | v :: vs => v.print :: printItems vs

/-- The texts of the fields. -/
def printFields : List (String × Value) → List (List Char)
  | [] => []
  | (name, v) :: fields => (printString name ++ ':' :: v.print) :: printFields fields

end

/-- The text of a value as a string. -/
def Value.text (v : Value) : String := String.ofList v.print

/-- The text of a field. -/
def printField (f : String × Value) : List Char := printString f.1 ++ ':' :: f.2.print

lemma printItems_eq_map (items : List Value) : printItems items = items.map Value.print := by
  induction items with
  | nil => rfl
  | cons v items ih => rw [printItems, ih, List.map_cons]

lemma printFields_eq_map (fields : List (String × Value)) :
    printFields fields = fields.map printField := by
  induction fields with
  | nil => rfl
  | cons f fields ih => rw [printFields, ih, List.map_cons, printField]

/-! ### The reader -/

/-- White space between tokens. -/
def isSpace (c : Char) : Bool := c == ' ' || c == '\t' || c == '\n' || c == '\r'

/-- Go on to the next token. -/
def skip (cs : List Char) : List Char := cs.dropWhile isSpace

/-- The value of a digit in base sixteen. -/
def hexValue (c : Char) : Option ℕ :=
  if 48 ≤ c.toNat ∧ c.toNat ≤ 57 then some (c.toNat - 48)
  else if 65 ≤ c.toNat ∧ c.toNat ≤ 70 then some (c.toNat - 55)
  else if 97 ≤ c.toNat ∧ c.toNat ≤ 102 then some (c.toNat - 87)
  else none

/-- The number four digits in base sixteen denote. -/
def hexQuad (a b c d : Char) : Option ℕ := do
  return 4096 * (← hexValue a) + 256 * (← hexValue b) + 16 * (← hexValue c) + (← hexValue d)

/-- What follows `\u`: a character, or the two halves of one beyond the first plane. -/
def readUnicode : List Char → Option (Char × List Char)
  | a :: b :: c :: d :: cs =>
      match hexQuad a b c d with
      | none => none
      | some high =>
          if 0xD800 ≤ high ∧ high ≤ 0xDBFF then
            match cs with
            | '\\' :: 'u' :: a :: b :: c :: d :: cs =>
                match hexQuad a b c d with
                | none => none
                | some low =>
                    if 0xDC00 ≤ low ∧ low ≤ 0xDFFF then
                      some (Char.ofNat (0x10000 + 1024 * (high - 0xD800) + (low - 0xDC00)), cs)
                    else none
            | _ => none
          else if 0xDC00 ≤ high ∧ high ≤ 0xDFFF then none
          else some (Char.ofNat high, cs)
  | _ => none

/-- What follows a backslash. -/
def readEscape : List Char → Option (Char × List Char)
  | '"' :: cs => some ('"', cs)
  | '\\' :: cs => some ('\\', cs)
  | '/' :: cs => some ('/', cs)
  | 'b' :: cs => some (Char.ofNat 8, cs)
  | 't' :: cs => some (Char.ofNat 9, cs)
  | 'n' :: cs => some (Char.ofNat 10, cs)
  | 'f' :: cs => some (Char.ofNat 12, cs)
  | 'r' :: cs => some (Char.ofNat 13, cs)
  | 'u' :: cs => readUnicode cs
  | _ => none

/-- The characters up to the closing quote; `n` bounds their number. -/
def readChars : ℕ → List Char → Option (List Char × List Char)
  | 0, _ => none
  | _, [] => none
  | n + 1, c :: cs =>
      if c = '"' then some ([], cs)
      else if c = '\\' then
        (readEscape cs).bind fun (c, cs) => (readChars n cs).map fun (s, cs) => (c :: s, cs)
      else if c.toNat < 32 then none
      else (readChars n cs).map fun (s, cs) => (c :: s, cs)

/-- A string, from its opening quote on. -/
def readString : List Char → Option (String × List Char)
  | '"' :: cs => (readChars (cs.length + 1) cs).map fun (s, cs) => (String.ofList s, cs)
  | _ => none

/-- The digits at the front, without a leading zero. -/
def readNat (cs : List Char) : Option (ℕ × List Char) :=
  let digits := cs.takeWhile Char.isDigit
  if digits = [] ∨ (digits.head? = some '0' ∧ digits ≠ ['0']) then none
  else some (Nat.ofDigitChars 10 digits 0, cs.dropWhile Char.isDigit)

/-- A whole number; what follows must not continue it as a fraction or with an exponent. -/
def readNumber (cs : List Char) : Option (Value × List Char) :=
  let read := match cs with
    | '-' :: cs => (readNat cs).bind fun (n, cs) => if n = 0 then none else some (-(n : ℤ), cs)
    | cs => (readNat cs).map fun (n, cs) => (Int.ofNat n, cs)
  read.bind fun (n, cs) =>
    match cs with
    | '.' :: _ | 'e' :: _ | 'E' :: _ => none
    | cs => some (.int n, cs)

/-- The items up to the closing bracket, with commas between them; `n` bounds their number. -/
def readItems {α : Type} (item : List Char → Option (α × List Char)) (close : Char) :
    ℕ → List Char → Option (List α × List Char)
  | 0, _ => none
  | n + 1, cs => (item cs).bind fun (a, cs) =>
      match skip cs with
      | [] => none
      | c :: cs =>
          if c = close then some ([a], cs)
          else if c = ',' then
            (readItems item close n cs).map fun (as, cs) => (a :: as, cs)
          else none

/-- The items after the opening bracket. -/
def readList {α : Type} (item : List Char → Option (α × List Char)) (close : Char)
    (cs : List Char) : Option (List α × List Char) :=
  match skip cs with
  | [] => none
  | c :: rest => if c = close then some ([], rest) else readItems item close (cs.length + 1) cs

/-- The name of a field, a colon and its value. -/
def readField (value : List Char → Option (Value × List Char)) (cs : List Char) :
    Option ((String × Value) × List Char) :=
  (readString (skip cs)).bind fun (name, cs) =>
    match skip cs with
    | ':' :: cs => (value cs).map fun (v, cs) => ((name, v), cs)
    | _ => none

/-- A value that is no array and no object. -/
def readScalar : List Char → Option (Value × List Char)
  | 'n' :: 'u' :: 'l' :: 'l' :: cs => some (.null, cs)
  | 't' :: 'r' :: 'u' :: 'e' :: cs => some (.bool true, cs)
  | 'f' :: 'a' :: 'l' :: 's' :: 'e' :: cs => some (.bool false, cs)
  | '"' :: cs => (readString ('"' :: cs)).map fun (s, cs) => (.string s, cs)
  | cs => readNumber cs

/-- A value, nested no deeper than the limit. -/
def readValue : ℕ → List Char → Option (Value × List Char)
  | 0, cs => readScalar (skip cs)
  | depth + 1, cs =>
      match skip cs with
      | '[' :: cs => (readList (readValue depth) ']' cs).map fun (vs, cs) => (.array vs, cs)
      | '{' :: cs =>
          (readList (readField (readValue depth)) '}' cs).map fun (fs, cs) => (.object fs, cs)
      | cs => readScalar cs

/-- A text that is one value and white space. -/
def parse (depth : ℕ) (text : String) : Option Value :=
  (readValue depth text.toList).bind fun (v, cs) => if skip cs = [] then some v else none

/-! ### Strings -/

lemma hexValue_digitChar : ∀ n < 16, hexValue (Nat.digitChar n) = some n := by decide

lemma hexValue_zero : hexValue '0' = some 0 := by decide

/-- A character comes back from its escape. -/
lemma readChars_escape (n : ℕ) (c : Char) (cs : List Char) :
    readChars (n + 1) (escape c ++ cs) = (readChars n cs).map fun (s, cs) => (c :: s, cs) := by
  have hesc : ∀ {c' e : Char} {k : ℕ}, c'.toNat = k → readEscape (e :: cs) = some (Char.ofNat k, cs) →
      readChars (n + 1) ('\\' :: e :: cs) = (readChars n cs).map fun (s, cs) => (c' :: s, cs) := by
    intro c' e k hk he
    rw [readChars, if_neg (by decide), if_pos rfl, he, Option.bind_some, ← hk, Char.ofNat_toNat]
  rw [escape]
  split_ifs with h1 h2 h3 h4 h5 h6 h7 h8
  · exact hesc (k := 34) (by rw [h1]; rfl) rfl
  · exact hesc (k := 92) (by rw [h2]; rfl) rfl
  · exact hesc h3 rfl
  · exact hesc h4 rfl
  · exact hesc h5 rfl
  · exact hesc h6 rfl
  · exact hesc h7 rfl
  · have hquad : hexQuad '0' '0' (Nat.digitChar (c.toNat / 16)) (Nat.digitChar (c.toNat % 16)) =
        some c.toNat := by
      have hdiv := Nat.div_add_mod c.toNat 16
      rw [hexQuad, hexValue_zero, hexValue_digitChar _ (by omega), hexValue_digitChar _ (by omega)]
      simp only [Option.pure_def, Option.bind_eq_bind, Option.bind_some]
      rw [mul_zero, mul_zero, zero_add, zero_add, hdiv]
    have hread : readEscape ('u' :: '0' :: '0' :: Nat.digitChar (c.toNat / 16) ::
        Nat.digitChar (c.toNat % 16) :: cs) = some (Char.ofNat c.toNat, cs) := by
      rw [readEscape, readUnicode, hquad]
      dsimp only
      rw [if_neg (by omega), if_neg (by omega)]
    change readChars (n + 1) ('\\' :: 'u' :: '0' :: '0' :: _ :: _ :: cs) = _
    rw [readChars, if_neg (by decide), if_pos rfl, hread, Option.bind_some, Char.ofNat_toNat]
  · rw [List.singleton_append, readChars, if_neg h1, if_neg h2, if_neg h8]

/-- **A string** comes back up to its closing quote. -/
lemma readChars_print (s : List Char) {n : ℕ} (hn : s.length < n) (cs : List Char) :
    readChars n (s.flatMap escape ++ '"' :: cs) = some (s, cs) := by
  induction s generalizing n with
  | nil =>
      obtain ⟨n, rfl⟩ := Nat.exists_eq_add_of_lt hn
      rw [List.flatMap_nil, List.nil_append, List.length_nil, zero_add, readChars, if_pos rfl]
  | cons c s ih =>
      rw [List.length_cons] at hn
      obtain ⟨n, rfl⟩ : ∃ m, n = m + 1 := ⟨n - 1, by omega⟩
      rw [List.flatMap_cons, List.append_assoc, readChars_escape, ih (by omega), Option.map_some]

lemma length_le_flatMap_escape (s : List Char) : s.length ≤ (s.flatMap escape).length := by
  induction s with
  | nil => exact le_rfl
  | cons c s ih =>
      have hc : 1 ≤ (escape c).length := by
        rw [escape]
        split_ifs <;> simp
      rw [List.flatMap_cons, List.length_append, List.length_cons]
      omega

lemma readString_print (s : String) (cs : List Char) :
    readString (printString s ++ cs) = some (s, cs) := by
  rw [printString, List.cons_append, List.append_assoc, List.singleton_append, readString]
  rw [readChars_print, Option.map_some]
  · exact congrArg (fun s => some (s, cs)) String.ofList_toList
  · have h := length_le_flatMap_escape s.toList
    rw [List.length_append]
    omega

/-! ### Numbers -/

/-- What may follow an item: nothing, a comma or a closing bracket. -/
def Stops (cs : List Char) : Prop := ∀ c ∈ cs.head?, c = ',' ∨ c = ']' ∨ c = '}'

lemma stops_nil : Stops [] := fun _ h => absurd h (by simp)

lemma stops_comma (cs : List Char) : Stops (',' :: cs) := by
  rintro c hc
  exact .inl (Option.some.inj hc).symm

lemma stops_close {close : Char} (h : close = ']' ∨ close = '}') (cs : List Char) :
    Stops (close :: cs) := by
  rintro c hc
  obtain rfl := Option.some.inj hc
  exact .inr h

lemma takeWhile_toDigits {cs : List Char} (hcs : Stops cs) (n : ℕ) :
    (Nat.toDigits 10 n ++ cs).takeWhile Char.isDigit = Nat.toDigits 10 n ∧
      (Nat.toDigits 10 n ++ cs).dropWhile Char.isDigit = cs := by
  have hdigits : ∀ c ∈ Nat.toDigits 10 n, c.isDigit = true := fun c hc =>
    Nat.isDigit_of_mem_toDigits (by decide) (by decide) hc
  have hstop : cs.takeWhile Char.isDigit = [] ∧ cs.dropWhile Char.isDigit = cs := by
    cases cs with
    | nil => exact ⟨rfl, rfl⟩
    | cons c cs =>
        have hc : c.isDigit = false := by
          rcases hcs c rfl with rfl | rfl | rfl <;> decide
        exact ⟨List.takeWhile_cons_of_neg (by simp [hc]), List.dropWhile_cons_of_neg (by simp [hc])⟩
  rw [List.takeWhile_append_of_pos hdigits, List.dropWhile_append_of_pos hdigits, hstop.1, hstop.2,
    List.append_nil]
  exact ⟨rfl, rfl⟩

/-- Only zero begins with the digit zero. -/
lemma toDigits_head (n : ℕ) (h : (Nat.toDigits 10 n).head? = some '0') :
    Nat.toDigits 10 n = ['0'] := by
  induction n using Nat.strong_induction_on with
  | _ n ih =>
      rcases Nat.lt_or_ge n 10 with hlt | hge
      · rw [Nat.toDigits_of_lt_base hlt] at h ⊢
        rw [List.head?_singleton] at h
        rw [Option.some.inj h]
      · rw [Nat.toDigits_of_base_le (by decide) hge] at h
        have hne : Nat.toDigits 10 (n / 10) ≠ [] := Nat.toDigits_ne_nil
        rw [List.head?_append_of_ne_nil _ hne] at h
        have hzero := ih (n / 10) (by omega) h
        have hback := Nat.ofDigitChars_toDigits (b := 10) (n := n / 10) (by decide) (by decide)
        rw [hzero] at hback
        have : n / 10 = 0 := hback.symm
        omega

lemma readNat_print {cs : List Char} (hcs : Stops cs) (n : ℕ) :
    readNat (Nat.toDigits 10 n ++ cs) = some (n, cs) := by
  obtain ⟨htake, hdrop⟩ := takeWhile_toDigits hcs n
  rw [readNat, htake, hdrop, if_neg, Nat.ofDigitChars_toDigits (by decide) (by decide)]
  rintro (hnil | ⟨hhead, hne⟩)
  · exact Nat.toDigits_ne_nil hnil
  · exact hne (toDigits_head n hhead)

/-- A number begins with a sign or a digit. -/
lemma toDigits_cons (n : ℕ) : ∃ c cs, Nat.toDigits 10 n = c :: cs ∧ c.isDigit = true := by
  cases h : Nat.toDigits 10 n with
  | nil => exact absurd h Nat.toDigits_ne_nil
  | cons c cs =>
      exact ⟨c, cs, rfl, Nat.isDigit_of_mem_toDigits (b := 10) (n := n) (by decide) (by decide)
        (by rw [h]; exact List.mem_cons_self)⟩

/-- **A number** comes back. -/
lemma readNumber_print {cs : List Char} (hcs : Stops cs) (n : ℤ) :
    readNumber (printInt n ++ cs) = some (.int n, cs) := by
  have hend : ∀ m : ℤ, (match cs with
      | '.' :: _ | 'e' :: _ | 'E' :: _ => none
      | cs => some (Value.int m, cs)) = some (.int m, cs) := by
    intro m
    split
    · rcases hcs _ rfl with h | h | h <;> exact absurd h (by decide)
    · rcases hcs _ rfl with h | h | h <;> exact absurd h (by decide)
    · rcases hcs _ rfl with h | h | h <;> exact absurd h (by decide)
    · rfl
  rw [printInt]
  split_ifs with hneg
  · rw [List.cons_append, readNumber]
    dsimp only
    rw [readNat_print hcs, Option.bind_some]
    have hne : n.natAbs ≠ 0 := by omega
    have hval : -(n.natAbs : ℤ) = n := by omega
    dsimp only
    rw [if_neg hne, hval, Option.bind_some]
    exact hend n
  · obtain ⟨c, ds, hds, hc⟩ := toDigits_cons n.natAbs
    have hminus : c ≠ '-' := by
      rintro rfl
      exact absurd hc (by decide)
    have hval : Int.ofNat n.natAbs = n := Int.natAbs_of_nonneg (by omega)
    have hread := readNat_print hcs n.natAbs
    rw [hds] at hread ⊢
    rw [List.cons_append] at hread ⊢
    rw [readNumber, hread, Option.map_some, Option.bind_some]
    · dsimp only
      rw [hval]
      exact hend n
    · exact fun _ heq => hminus (List.cons.inj heq).1

/-! ### Lists -/

/-- A text that begins with something else than white space and closing brackets. -/
def Starts (cs : List Char) : Prop :=
  ∃ c rest, cs = c :: rest ∧ isSpace c = false ∧ c ≠ ']' ∧ c ≠ '}'

lemma Starts.append {cs : List Char} (h : Starts cs) (ds : List Char) : Starts (cs ++ ds) := by
  obtain ⟨c, rest, rfl, hc⟩ := h
  exact ⟨c, rest ++ ds, rfl, hc⟩

lemma Starts.skip {cs : List Char} (h : Starts cs) : skip cs = cs := by
  obtain ⟨c, rest, rfl, hc, -⟩ := h
  exact List.dropWhile_cons_of_neg (by simp [hc])

lemma Stops.skip {cs : List Char} (h : Stops cs) : skip cs = cs := by
  cases cs with
  | nil => rfl
  | cons c cs =>
      refine List.dropWhile_cons_of_neg ?_
      rcases h c rfl with rfl | rfl | rfl <;> decide

section Items

variable {α : Type} {item : List Char → Option (α × List Char)} (print : α → List Char)
  {close : Char}

lemma commas_cons_cons (t u : List Char) (ts : List (List Char)) :
    commas (t :: u :: ts) = t ++ ',' :: commas (u :: ts) := rfl

/-- **Items** that come back one by one come back together. -/
lemma readItems_print (hclose : close = ']' ∨ close = '}') {as : List α} (hne : as ≠ [])
    (hitem : ∀ a ∈ as, ∀ cs, Stops cs → item (print a ++ cs) = some (a, cs)) {n : ℕ}
    (hn : as.length ≤ n) (cs : List Char) :
    readItems item close n (commas (as.map print) ++ close :: cs) = some (as, cs) := by
  have hcomma : ',' ≠ close := by
    rcases hclose with rfl | rfl <;> decide
  induction as generalizing n with
  | nil => exact absurd rfl hne
  | cons a as ih =>
      rw [List.length_cons] at hn
      obtain ⟨n, rfl⟩ : ∃ m, n = m + 1 := ⟨n - 1, by omega⟩
      cases as with
      | nil =>
          have hstop := stops_close hclose cs
          rw [List.map_singleton, commas, readItems, hitem a List.mem_cons_self _ hstop,
            Option.bind_some]
          dsimp only
          rw [hstop.skip]
          exact if_pos rfl
      | cons b as =>
          have hstop := stops_comma (commas ((b :: as).map print) ++ close :: cs)
          rw [List.map_cons, List.map_cons, commas_cons_cons, ← List.map_cons, List.append_assoc,
            List.cons_append, readItems, hitem a List.mem_cons_self _ hstop, Option.bind_some]
          dsimp only
          rw [hstop.skip]
          dsimp only
          rw [if_neg hcomma, if_pos rfl, ih (by simp)
            (fun x hx => hitem x (List.mem_cons_of_mem a hx)) (by omega), Option.map_some]

lemma length_le_commas {ts : List (List Char)} (h : ∀ t ∈ ts, t ≠ []) :
    ts.length ≤ (commas ts).length := by
  induction ts with
  | nil => exact le_rfl
  | cons t ts ih =>
      have ht : 1 ≤ t.length := List.length_pos_iff.mpr (h t List.mem_cons_self)
      cases ts with
      | nil => exact ht
      | cons u ts =>
          have htail := ih fun x hx => h x (List.mem_cons_of_mem t hx)
          simp only [commas_cons_cons, List.length_append, List.length_cons] at htail ⊢
          omega

lemma starts_commas {ts : List (List Char)} (hne : ts ≠ []) (h : ∀ t ∈ ts, Starts t) :
    Starts (commas ts) := by
  cases ts with
  | nil => exact absurd rfl hne
  | cons t ts =>
      cases ts with
      | nil => exact h t List.mem_cons_self
      | cons u ts =>
          rw [commas_cons_cons]
          exact (h t List.mem_cons_self).append _

/-- The items after the opening bracket. -/
lemma readList_print (hclose : close = ']' ∨ close = '}') {as : List α}
    (hitem : ∀ a ∈ as, ∀ cs, Stops cs → item (print a ++ cs) = some (a, cs))
    (hstart : ∀ a ∈ as, Starts (print a)) (cs : List Char) :
    readList item close (commas (as.map print) ++ close :: cs) = some (as, cs) := by
  by_cases hne : as = []
  · subst hne
    have hstop := stops_close hclose cs
    rw [List.map_nil, commas, List.nil_append, readList, hstop.skip]
    exact if_pos rfl
  · have hmap : ∀ t ∈ as.map print, Starts t := by
      intro t ht
      obtain ⟨a, ha, rfl⟩ := List.mem_map.mp ht
      exact hstart a ha
    have hstarts := starts_commas (mt List.map_eq_nil_iff.mp hne) hmap
    have hlen : as.length ≤ (commas (as.map print)).length := by
      rw [← List.length_map (f := print)]
      refine length_le_commas fun t ht => ?_
      obtain ⟨c, rest, rfl, -⟩ := hmap t ht
      exact List.cons_ne_nil c rest
    have hskip := (hstarts.append (close :: cs)).skip
    obtain ⟨c, rest, hcons, -, hbracket, hbrace⟩ := hstarts.append (close :: cs)
    have hc : c ≠ close := by
      rcases hclose with rfl | rfl
      · exact hbracket
      · exact hbrace
    rw [readList, hskip, hcons]
    dsimp only
    rw [if_neg hc, ← hcons]
    refine readItems_print print hclose hne hitem ?_ cs
    rw [List.length_append]
    omega

end Items

/-! ### Values -/

lemma starts_printString (s : String) : Starts (printString s) :=
  ⟨'"', _, rfl, by decide, by decide, by decide⟩

lemma starts_printInt (n : ℤ) : Starts (printInt n) := by
  have hdigit : ∀ c : Char, c.isDigit = true → isSpace c = false ∧ c ≠ ']' ∧ c ≠ '}' := by
    intro c hc
    refine ⟨?_, ?_, ?_⟩
    · rw [isSpace, Bool.eq_false_iff]
      simp only [ne_eq, Bool.or_eq_true, beq_iff_eq, not_or]
      refine ⟨⟨⟨?_, ?_⟩, ?_⟩, ?_⟩ <;> (rintro rfl; revert hc; decide)
    · rintro rfl
      revert hc
      decide
    · rintro rfl
      revert hc
      decide
  rw [printInt]
  split_ifs
  · exact ⟨'-', _, rfl, by decide, by decide, by decide⟩
  · obtain ⟨c, cs, hcs, hc⟩ := toDigits_cons n.natAbs
    exact ⟨c, cs, hcs, hdigit c hc⟩

lemma starts_print (v : Value) : Starts v.print := by
  cases v with
  | null => exact ⟨'n', _, by rw [Value.print], by decide, by decide, by decide⟩
  | bool b =>
      cases b with
      | true => exact ⟨'t', _, by rw [Value.print], by decide, by decide, by decide⟩
      | false => exact ⟨'f', _, by rw [Value.print], by decide, by decide, by decide⟩
  | int n =>
      rw [Value.print]
      exact starts_printInt n
  | string s =>
      rw [Value.print]
      exact starts_printString s
  | array items => exact ⟨'[', _, by rw [Value.print], by decide, by decide, by decide⟩
  | object fields => exact ⟨'{', _, by rw [Value.print], by decide, by decide, by decide⟩

/-- A number is none of the other scalars. -/
lemma readScalar_printInt {cs : List Char} (hcs : Stops cs) (n : ℤ) :
    readScalar (printInt n ++ cs) = some (.int n, cs) := by
  have hread := readNumber_print hcs n
  obtain ⟨c, ds, hds, hc⟩ : ∃ c ds, printInt n = c :: ds ∧ (c = '-' ∨ c.isDigit = true) := by
    rw [printInt]
    split_ifs
    · exact ⟨_, _, rfl, .inl rfl⟩
    · obtain ⟨c, ds, hds, hc⟩ := toDigits_cons n.natAbs
      exact ⟨c, ds, hds, .inr hc⟩
  have hletter : c ≠ 'n' ∧ c ≠ 't' ∧ c ≠ 'f' ∧ c ≠ '"' := by
    rcases hc with rfl | hc
    · decide
    · refine ⟨?_, ?_, ?_, ?_⟩ <;> (rintro rfl; revert hc; decide)
  rw [hds, List.cons_append] at hread ⊢
  rw [readScalar.eq_def]
  split
  · rename_i heq
    exact absurd (List.cons.inj heq).1 hletter.1
  · rename_i heq
    exact absurd (List.cons.inj heq).1 hletter.2.1
  · rename_i heq
    exact absurd (List.cons.inj heq).1 hletter.2.2.1
  · rename_i heq
    exact absurd (List.cons.inj heq).1 hletter.2.2.2
  · exact hread

/-- A value that is no array and no object comes back under any limit. -/
lemma readValue_scalar {v : Value} {cs : List Char} (h : readScalar (v.print ++ cs) = some (v, cs))
    (hscalar : ∀ c rest, v.print = c :: rest → c ≠ '[' ∧ c ≠ '{') (depth : ℕ) :
    readValue depth (v.print ++ cs) = some (v, cs) := by
  have hskip := ((starts_print v).append cs).skip
  obtain ⟨c, rest, hcons, -⟩ := starts_print v
  obtain ⟨hbracket, hbrace⟩ := hscalar c rest hcons
  cases depth with
  | zero => rw [readValue, hskip, h]
  | succ depth =>
      rw [readValue, hskip]
      rw [hcons, List.cons_append] at h ⊢
      split
      · rename_i heq
        exact absurd (List.cons.inj heq).1 hbracket
      · rename_i heq
        exact absurd (List.cons.inj heq).1 hbrace
      · exact h

/-- A scalar. -/
lemma readValue_print_scalar {v : Value} (hv : v.depth = 0) {cs : List Char} (hcs : Stops cs)
    (depth : ℕ) : readValue depth (v.print ++ cs) = some (v, cs) := by
  cases v with
  | null =>
      refine readValue_scalar (by rw [Value.print]; rfl) (fun c rest h => ?_) depth
      rw [Value.print] at h
      obtain rfl := (List.cons.inj h).1
      decide
  | bool b =>
      cases b with
      | true =>
          refine readValue_scalar (by rw [Value.print]; rfl) (fun c rest h => ?_) depth
          rw [Value.print] at h
          obtain rfl := (List.cons.inj h).1
          decide
      | false =>
          refine readValue_scalar (by rw [Value.print]; rfl) (fun c rest h => ?_) depth
          rw [Value.print] at h
          obtain rfl := (List.cons.inj h).1
          decide
  | int n =>
      refine readValue_scalar ?_ (fun c rest h => ?_) depth
      · rw [Value.print]
        exact readScalar_printInt hcs n
      · rw [Value.print, printInt] at h
        split_ifs at h
        · obtain rfl := (List.cons.inj h).1
          decide
        · have hc : c.isDigit = true := Nat.isDigit_of_mem_toDigits (b := 10) (n := n.natAbs)
            (by decide) (by decide) (by rw [h]; exact List.mem_cons_self)
          constructor <;> (rintro rfl; revert hc; decide)
  | string s =>
      refine readValue_scalar ?_ (fun c rest h => ?_) depth
      · have hread := readString_print s cs
        rw [printString, List.cons_append] at hread
        rw [Value.print, printString, List.cons_append, readScalar, hread, Option.map_some]
      · rw [Value.print, printString] at h
        obtain rfl := (List.cons.inj h).1
        decide
  | array items =>
      rw [Value.depth] at hv
      exact absurd hv (Nat.succ_ne_zero _)
  | object fields =>
      rw [Value.depth] at hv
      exact absurd hv (Nat.succ_ne_zero _)

section Nested

variable {depth : ℕ} {cs : List Char}

lemma readValue_array {items : List Value} (hitems : ∀ v ∈ items, ∀ cs, Stops cs →
      readValue depth (v.print ++ cs) = some (v, cs)) :
    readValue (depth + 1) ((Value.array items).print ++ cs) = some (.array items, cs) := by
  have hskip := ((starts_print (.array items)).append cs).skip
  have hlist := readList_print Value.print (.inl rfl) hitems (fun v _ => starts_print v) cs
  rw [readValue, hskip, Value.print, printItems_eq_map, List.cons_append, List.append_assoc,
    List.singleton_append]
  exact congrArg (Option.map fun (vs, cs) => (Value.array vs, cs)) hlist

/-- A name, a colon and a value. -/
lemma readField_print {f : String × Value} {value : List Char → Option (Value × List Char)}
    (h : value (f.2.print ++ cs) = some (f.2, cs)) :
    readField value (printField f ++ cs) = some (f, cs) := by
  have hskip := ((starts_printString f.1).append (':' :: (f.2.print ++ cs))).skip
  have hcolon : skip (':' :: (f.2.print ++ cs)) = ':' :: (f.2.print ++ cs) := rfl
  rw [readField, printField, List.append_assoc, List.cons_append, hskip, readString_print,
    Option.bind_some]
  dsimp only
  rw [hcolon]
  exact congrArg (Option.map fun (v, cs) => ((f.1, v), cs)) h

lemma readValue_object {fields : List (String × Value)} (hfields : ∀ f ∈ fields, ∀ cs, Stops cs →
      readValue depth (f.2.print ++ cs) = some (f.2, cs)) :
    readValue (depth + 1) ((Value.object fields).print ++ cs) = some (.object fields, cs) := by
  have hskip := ((starts_print (.object fields)).append cs).skip
  have hlist := readList_print printField (.inr rfl)
    (fun f hf cs hcs => readField_print (hfields f hf cs hcs))
    (fun f _ => (starts_printString f.1).append _) cs
  rw [readValue, hskip, Value.print, printFields_eq_map, List.cons_append, List.append_assoc,
    List.singleton_append]
  exact congrArg (Option.map fun (fs, cs) => (Value.object fs, cs)) hlist

end Nested

/-- **A value** comes back, before what may follow it. -/
theorem readValue_print (v : Value) {depth : ℕ} (hdepth : v.depth ≤ depth) {cs : List Char}
    (hcs : Stops cs) : readValue depth (v.print ++ cs) = some (v, cs) := by
  induction depth generalizing v cs with
  | zero => exact readValue_print_scalar (Nat.le_zero.mp hdepth) hcs 0
  | succ depth ih =>
      cases v with
      | array items =>
          rw [Value.depth, Nat.succ_le_succ_iff] at hdepth
          exact readValue_array fun v hv cs hcs => ih v ((depth_le_of_mem_items hv).trans hdepth) hcs
      | object fields =>
          rw [Value.depth, Nat.succ_le_succ_iff] at hdepth
          exact readValue_object fun f hf cs hcs =>
            ih f.2 ((depth_le_of_mem_fields hf).trans hdepth) hcs
      | null | bool _ | int _ | string _ => exact readValue_print_scalar rfl hcs _

/-- **The reader reads what the writer wrote.** -/
theorem parse_text {v : Value} {depth : ℕ} (h : v.depth ≤ depth) : parse depth v.text = some v := by
  have hread := readValue_print v h stops_nil
  rw [List.append_nil] at hread
  rw [parse, Value.text, String.toList_ofList, hread]
  rfl

end Json
