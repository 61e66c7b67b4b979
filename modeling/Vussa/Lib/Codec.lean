import Vussa.Lib.Json

/-!
Codecs between a type and JSON: scalars, lists, options, enumerations, and records whose fields are
looked up by name. A field that is there twice makes a record unreadable, a field that nobody asks
for is ignored.

* `Codec`, `Codec.Exact`: a codec, and the values that come back through it;
* `Codec.string`, `Codec.bool`, `Codec.below`, `Codec.fin`, `Codec.list`, `Codec.option`,
  `Codec.via`, `Codec.object`: the codecs, each with its exactness;
* `lookup`, `required`, `optional`, `defaulted`: the fields of a record;
* `Codec.ofText_text`: **an exact value comes back from its text**.
-/

namespace Json

/-- A writer and a reader of a type. -/
structure Codec (α : Type) where
  encode : α → Value
  decode : Value → Option α

namespace Codec

variable {α β : Type}

/-- The value comes back, and its encoding is nested no deeper than `depth`. -/
structure Exact (c : Codec α) (depth : ℕ) (a : α) : Prop where
  decode_encode : c.decode (c.encode a) = some a
  depth_le : (c.encode a).depth ≤ depth

lemma Exact.mono {c : Codec α} {depth depth' : ℕ} {a : α} (h : c.Exact depth a)
    (hle : depth ≤ depth') : c.Exact depth' a :=
  ⟨h.decode_encode, h.depth_le.trans hle⟩

/-! ### Scalars -/

/-- Strings. -/
def string : Codec String where
  encode s := .string s
  decode
    | .string s => some s
    | _ => none

/-- Truth values. -/
def bool : Codec Bool where
  encode b := .bool b
  decode
    | .bool b => some b
    | _ => none

/-- The numbers below a bound. -/
def below (n : ℕ) : Codec ℕ where
  encode k := .int k
  decode
    | .int k => if 0 ≤ k ∧ k < n then some k.toNat else none
    | _ => none

@[simp] lemma decode_string (s : String) : string.decode (.string s) = some s := rfl

@[simp] lemma decode_bool (b : Bool) : bool.decode (.bool b) = some b := rfl

lemma exact_string (s : String) : string.Exact 0 s := ⟨rfl, le_rfl⟩

lemma exact_below {n k : ℕ} (h : k < n) : (below n).Exact 0 k := by
  refine ⟨?_, le_rfl⟩
  have hk : 0 ≤ (k : ℤ) ∧ (k : ℤ) < n := ⟨by omega, by exact_mod_cast h⟩
  simp only [below, if_pos hk, Int.toNat_natCast]

/-- A type read through another one. -/
def via (c : Codec β) (write : α → β) (read : β → Option α) : Codec α where
  encode a := c.encode (write a)
  decode v := (c.decode v).bind read

lemma exact_via {c : Codec β} {write : α → β} {read : β → Option α} {depth : ℕ} {a : α}
    (h : c.Exact depth (write a)) (hread : read (write a) = some a) : (c.via write read).Exact depth a := by
  refine ⟨?_, h.depth_le⟩
  change (c.decode (c.encode (write a))).bind read = some a
  rw [h.decode_encode, Option.bind_some, hread]

/-- The numbers below a bound, as a type. -/
def fin (n : ℕ) : Codec (Fin n) :=
  (below n).via Fin.val fun k => if h : k < n then some ⟨k, h⟩ else none

lemma exact_fin {n : ℕ} (k : Fin n) : (fin n).Exact 0 k :=
  exact_via (exact_below k.isLt) (dif_pos k.isLt)

/-- An enumeration, by the texts of its values. -/
def enum (all : List α) (text : α → String) : Codec α :=
  string.via text fun s => all.find? fun a => text a = s

lemma exact_enum {all : List α} {text : α → String} {a : α}
    (h : (all.find? fun b => text b = text a) = some a) : (enum all text).Exact 0 a :=
  exact_via (exact_string (text a)) h

/-! ### Lists and options -/

/-- Lists. -/
def list (c : Codec α) : Codec (List α) where
  encode as := .array (as.map c.encode)
  decode
    | .array vs => vs.mapM c.decode
    | _ => none

/-- Options: nothing is `null`. -/
def option (c : Codec α) : Codec (Option α) where
  encode
    | none => .null
    | some a => c.encode a
  decode
    | .null => some none
    | v => (c.decode v).map some

lemma exact_list {c : Codec α} {depth : ℕ} {as : List α} (h : ∀ a ∈ as, c.Exact depth a) :
    c.list.Exact (depth + 1) as := by
  refine ⟨?_, ?_⟩
  · change (as.map c.encode).mapM c.decode = some as
    induction as with
    | nil => rfl
    | cons a as ih =>
        rw [List.map_cons, List.mapM_cons, (h a List.mem_cons_self).decode_encode,
          ih fun b hb => h b (List.mem_cons_of_mem a hb)]
        rfl
  · change depthItems (as.map c.encode) + 1 ≤ depth + 1
    refine Nat.succ_le_succ ?_
    induction as with
    | nil => exact Nat.zero_le _
    | cons a as ih =>
        rw [List.map_cons, depthItems]
        exact max_le (h a List.mem_cons_self).depth_le
          (ih fun b hb => h b (List.mem_cons_of_mem a hb))

/-- No value is written as `null`. -/
def Solid (c : Codec α) : Prop := ∀ a, c.encode a ≠ .null

lemma solid_string : string.Solid := fun _ h => nomatch h

lemma solid_below (n : ℕ) : (below n).Solid := fun _ h => nomatch h

lemma Solid.via {c : Codec β} (h : c.Solid) (write : α → β) (read : β → Option α) :
    (c.via write read).Solid := fun a => h (write a)

lemma exact_option {c : Codec α} (hc : c.Solid) {depth : ℕ} {a : Option α}
    (h : ∀ x ∈ a, c.Exact depth x) : c.option.Exact depth a := by
  cases a with
  | none => exact ⟨rfl, Nat.zero_le _⟩
  | some x =>
      have hx := h x rfl
      refine ⟨?_, hx.depth_le⟩
      change (match c.encode x with
        | .null => some none
        | v => (c.decode v).map some) = some (some x)
      split
      · rename_i heq
        exact absurd heq (hc x)
      · rw [hx.decode_encode, Option.map_some]

/-! ### Records -/

/-- Records, by what is written and read of their fields. -/
def object (fields : α → List (String × Value)) (read : List (String × Value) → Option α) :
    Codec α where
  encode a := .object (fields a)
  decode
    | .object fs => read fs
    | _ => none

lemma exact_object {fields : α → List (String × Value)}
    {read : List (String × Value) → Option α} {depth : ℕ} {a : α}
    (hread : read (fields a) = some a) (hdepth : ∀ f ∈ fields a, f.2.depth ≤ depth) :
    (object fields read).Exact (depth + 1) a :=
  ⟨hread, depth_object hdepth⟩

/-! ### Texts -/

/-- The text of a value. -/
def text (c : Codec α) (a : α) : String := (c.encode a).text

/-- A value from a text that is nested no deeper than the limit. -/
def ofText (c : Codec α) (limit : ℕ) (text : String) : Option α := (parse limit text).bind c.decode

/-- **An exact value comes back from its text.** -/
theorem ofText_text {c : Codec α} {depth limit : ℕ} {a : α} (h : c.Exact depth a)
    (hle : depth ≤ limit) : c.ofText limit (c.text a) = some a := by
  rw [ofText, text, parse_text (h.depth_le.trans hle), Option.bind_some, h.decode_encode]

end Codec

/-! ### Fields -/

/-- The field of a name: nothing if the name is there twice, else the value, if there is one. -/
def lookup (name : String) : List (String × Value) → Option (Option Value)
  | [] => some none
  | (n, v) :: fields =>
      if n = name then if name ∈ fields.map Prod.fst then none else some (some v)
      else lookup name fields

section Fields

variable {α : Type}

/-- A field that must be there. -/
def required (c : Codec α) (name : String) (fields : List (String × Value)) : Option α :=
  (lookup name fields).bind fun v => v.bind c.decode

/-- An optional field, which may be missing or `null`. -/
def optional (c : Codec α) (name : String) (fields : List (String × Value)) : Option (Option α) :=
  (lookup name fields).bind fun
    | none => some none
    | some v => c.option.decode v

/-- A field with a default. -/
def defaulted (c : Codec α) (default : α) (name : String) (fields : List (String × Value)) :
    Option α :=
  (lookup name fields).bind fun
    | none => some default
    | some v => c.decode v

lemma lookup_cons_ne {name n : String} (h : n ≠ name) (v : Value)
    (fields : List (String × Value)) : lookup name ((n, v) :: fields) = lookup name fields :=
  if_neg h

lemma lookup_cons_self {name : String} (v : Value) {fields : List (String × Value)}
    (h : name ∉ fields.map Prod.fst) : lookup name ((name, v) :: fields) = some (some v) := by
  rw [lookup, if_pos rfl, if_neg h]

/-- A name that is not there. -/
lemma lookup_of_notMem {name : String} {fields : List (String × Value)}
    (h : name ∉ fields.map Prod.fst) : lookup name fields = some none := by
  induction fields with
  | nil => rfl
  | cons f fields ih =>
      rw [List.map_cons, List.mem_cons, not_or] at h
      exact (lookup_cons_ne (fun heq => h.1 heq.symm) f.2 fields).trans (ih h.2)

section Cons

variable {name n : String} {fields : List (String × Value)} (c : Codec α) (v : Value)

@[simp] lemma required_cons_ne (h : n ≠ name) :
    required c name ((n, v) :: fields) = required c name fields := by
  rw [required, required, lookup_cons_ne h]

@[simp] lemma required_cons_self (h : name ∉ fields.map Prod.fst) :
    required c name ((name, v) :: fields) = c.decode v := by
  rw [required, lookup_cons_self v h, Option.bind_some, Option.bind_some]

@[simp] lemma optional_cons_ne (h : n ≠ name) :
    optional c name ((n, v) :: fields) = optional c name fields := by
  rw [optional, optional, lookup_cons_ne h]

@[simp] lemma optional_cons_self (h : name ∉ fields.map Prod.fst) :
    optional c name ((name, v) :: fields) = c.option.decode v := by
  rw [optional, lookup_cons_self v h, Option.bind_some]

@[simp] lemma optional_nil : optional c name [] = some none := rfl

@[simp] lemma defaulted_cons_ne (default : α) (h : n ≠ name) :
    defaulted c default name ((n, v) :: fields) = defaulted c default name fields := by
  rw [defaulted, defaulted, lookup_cons_ne h]

@[simp] lemma defaulted_cons_self (default : α) (h : name ∉ fields.map Prod.fst) :
    defaulted c default name ((name, v) :: fields) = c.decode v := by
  rw [defaulted, lookup_cons_self v h, Option.bind_some]

@[simp] lemma defaulted_nil (default : α) : defaulted c default name [] = some default := rfl

end Cons

/-- Fields of other names are ignored. -/
lemma lookup_append {name : String} {fields extra : List (String × Value)}
    (h : name ∉ extra.map Prod.fst) : lookup name (fields ++ extra) = lookup name fields := by
  induction fields with
  | nil => rw [List.nil_append, lookup_of_notMem h, lookup]
  | cons f fields ih =>
      simp only [List.cons_append, lookup, ih, List.map_append, List.mem_append, h, or_false]

section Append

variable {name : String} {fields extra : List (String × Value)} (c : Codec α)

lemma required_append (h : name ∉ extra.map Prod.fst) :
    required c name (fields ++ extra) = required c name fields := by
  rw [required, required, lookup_append h]

lemma optional_append (h : name ∉ extra.map Prod.fst) :
    optional c name (fields ++ extra) = optional c name fields := by
  rw [optional, optional, lookup_append h]

lemma defaulted_append (default : α) (h : name ∉ extra.map Prod.fst) :
    defaulted c default name (fields ++ extra) = defaulted c default name fields := by
  rw [defaulted, defaulted, lookup_append h]

end Append

end Fields

end Json
