import Vussa.Auth.Flights
import Vussa.Lib.Percent
import Vussa.Model.Identifiers
import Mathlib.Data.Nat.Size

/-!
The order of stored messages (`websocket/history.rs`, `repository/postgres.rs`). A message stands at
`(created_at, id)`, and three programs compare such pairs, each in its own representation: Valkey a
score and a text, Rust native numbers and bytes, PostgreSQL a `bigint` and a `uuid`.

* `nearestDouble`: the score Valkey reads from the digits of `created_at`;
* `ByTimeAndId`: two parts compared in turn, the identifiers by their bytes;
* `ValkeyBefore`, `TupleBefore`, `CursorBefore`, `RowBefore`: the four comparisons;
* `uuidBytes_lt_iff`, `textBytes_toText_lt_iff`: the bytes of identifiers and of their texts are in
  the order of the numbers;
* `storedOrder`: **one strict total order** below `2 ^ 53`.
-/

namespace Vussa

open Digits Flights

/-! ### The comparisons -/

/-- The double nearest to a natural number, ties to even: its first fifty-three bits, rounded. -/
def nearestDouble (n : ℕ) : ℕ :=
  let unit := 2 ^ (n.size - 53)
  let kept := n / unit
  let rest := n % unit
  if unit < 2 * rest ∨ (2 * rest = unit ∧ kept % 2 = 1) then (kept + 1) * unit else kept * unit

example : nearestDouble (2 ^ 53 + 1) = 2 ^ 53 := by decide +kernel

/-- The comparison by the time and, at equal times, by the bytes of the identifier. -/
def ByTimeAndId {σ : Type} [LT σ] (time : U64 → σ) (bytes : Uuid → List UInt8) (a b : Cursor) :
    Prop :=
  time a.1 < time b.1 ∨ (time a.1 = time b.1 ∧ bytes a.2 < bytes b.2)

/-- The order of a sorted set: the score, then the bytes of the member, which is the text of the
identifier. -/
def ValkeyBefore : Cursor → Cursor → Prop :=
  ByTimeAndId (fun createdAt => nearestDouble createdAt) fun id => textBytes id.toText

/-- The order of the tuples `(u64, Uuid)` in `sort_by_key`. -/
def TupleBefore : Cursor → Cursor → Prop := ByTimeAndId (fun createdAt => createdAt) uuidBytes

/-- `before_history_cursor`, with both instants as `isize`. -/
def CursorBefore : Cursor → Cursor → Prop := ByTimeAndId asI64 uuidBytes

/-- The row comparison `(m.created_at, m.id) < ($3, $4)` of a `bigint` and a `uuid`, and the order of
`ORDER BY`. -/
def RowBefore : Cursor → Cursor → Prop := ByTimeAndId asI64 uuidBytes

/-- The positions of messages created before `2 ^ 53`. -/
abbrev StoredKey := { key : Cursor // (key.1 : ℕ) < 2 ^ 53 }

/-! ### Scores -/

lemma nearestDouble_eq {n : ℕ} (h : n < 2 ^ 53) : nearestDouble n = n := by
  have hsize : n.size - 53 = 0 := Nat.sub_eq_zero_of_le (Nat.size_le.mpr h)
  have hunit : 2 ^ (n.size - 53) = 1 := by rw [hsize, pow_zero]
  rw [nearestDouble, hunit, Nat.div_one, Nat.mod_one, if_neg (by omega), Nat.mul_one]

/-! ### Identifiers -/

lemma ofNat_lt_iff {a b : ℕ} (ha : a < 256) (hb : b < 256) :
    (UInt8.ofNat a < UInt8.ofNat b ↔ a < b) ∧ (UInt8.ofNat a = UInt8.ofNat b ↔ a = b) := by
  rw [UInt8.lt_iff_toNat_lt, ← UInt8.toNat_inj, UInt8.toNat_ofNat', UInt8.toNat_ofNat',
    Nat.mod_eq_of_lt ha, Nat.mod_eq_of_lt hb]
  exact ⟨Iff.rfl, Iff.rfl⟩

lemma uuidBytes_eq (id : Uuid) : uuidBytes id = (digits 256 16 id).map UInt8.ofNat := by
  rw [uuidBytes, digits_eq_map_range, List.map_map]
  refine List.map_congr_left fun i _ => ?_
  rw [Function.comp_apply, ← UInt8.toNat_inj, UInt8.toNat_ofNat', UInt8.toNat_ofNat', Nat.mod_mod]

/-- The sixteen bytes are in the order of the numbers. -/
lemma uuidBytes_lt_iff {a b : Uuid} : uuidBytes a < uuidBytes b ↔ a < b := by
  have hbound : (2 : ℕ) ^ 128 = 256 ^ 16 := by norm_num
  rw [uuidBytes_eq, uuidBytes_eq, map_lt_iff fun x hx y hy => ofNat_lt_iff
      (lt_of_mem_digits (by decide) hx) (lt_of_mem_digits (by decide) hy),
    digits_lt_iff (a.isLt.trans_eq hbound) (b.isLt.trans_eq hbound)]
  exact Iff.rfl

lemma digitChar_lt_iff : ∀ a < 16, ∀ b < 16,
    (Nat.digitChar a < Nat.digitChar b ↔ a < b) ∧ (Nat.digitChar a = Nat.digitChar b ↔ a = b) := by
  decide

lemma hexDigits_lt_iff {n v v' : ℕ} (hv : v < 16 ^ n) (hv' : v' < 16 ^ n) :
    hexDigits n v < hexDigits n v' ↔ v < v' := by
  rw [hexDigits_eq, hexDigits_eq, map_lt_iff fun x hx y hy => digitChar_lt_iff x
      (lt_of_mem_digits (by decide) hx) y (lt_of_mem_digits (by decide) hy), digits_lt_iff hv hv']

/-- The dashes stand at the same places of all texts. -/
lemma toText_lt_iff {a b : Uuid} : a.toText.toList < b.toText.toList ↔ a < b := by
  have hbound : (2 : ℕ) ^ 128 = 16 ^ 32 := by norm_num
  have hdash : ¬ '-' < '-' := lt_irrefl _
  have hlen : ∀ n k : ℕ, (((hexDigits 32 a).drop n).take k).length =
      (((hexDigits 32 b).drop n).take k).length := by
    intro n k
    rw [List.length_take, List.length_take, List.length_drop, List.length_drop, hexDigits_length,
      hexDigits_length]
  have hlen₀ : ((hexDigits 32 a).take 8).length = ((hexDigits 32 b).take 8).length := hlen 0 8
  calc a.toText.toList < b.toText.toList
      ↔ hexDigits 32 a < hexDigits 32 b := by
        conv_rhs => rw [← parts_eq (hexDigits 32 a), ← parts_eq (hexDigits 32 b)]
        rw [toText_toList, toText_toList]
        simp only [append_lt_iff hlen₀, append_lt_iff (hlen 8 4), append_lt_iff (hlen 12 4),
          append_lt_iff (hlen 16 4), List.cons_lt_cons_iff, hdash, false_or, true_and]
    _ ↔ a < b := hexDigits_lt_iff (a.isLt.trans_eq hbound) (b.isLt.trans_eq hbound)

lemma toNat_lt_of_mem_toText {id : Uuid} {c : Char} (h : c ∈ id.toText.toList) : c.toNat < 128 := by
  rcases mem_toText h with ⟨d, hd, rfl⟩ | rfl
  · have hdigits : ∀ d < 16, (Nat.digitChar d).toNat < 128 := by decide
    exact hdigits d hd
  · decide

/-- An ASCII text has one byte a character. -/
lemma textBytes_ascii {s : String} (h : ∀ c ∈ s.toList, c.toNat < 128) :
    textBytes s = s.toList.map fun c => UInt8.ofNat c.toNat := by
  have hbytes := Percent.toUTF8_ofList s.toList
  rw [String.ofList_toList] at hbytes
  have hsingle := List.flatMap_congr fun c hc => Percent.utf8EncodeChar_ascii (h c hc)
  calc textBytes s = Percent.utf8Bytes s.toList := hbytes
    _ = s.toList.flatMap fun c => [UInt8.ofNat c.toNat] := hsingle
    _ = s.toList.map fun c => UInt8.ofNat c.toNat := List.map_eq_flatMap.symm

/-- The bytes of the texts are in the order of the numbers. -/
lemma textBytes_toText_lt_iff {a b : Uuid} : textBytes a.toText < textBytes b.toText ↔ a < b := by
  have hbyte : ∀ c ∈ a.toText.toList, ∀ d ∈ b.toText.toList,
      (UInt8.ofNat c.toNat < UInt8.ofNat d.toNat ↔ c < d) ∧
        (UInt8.ofNat c.toNat = UInt8.ofNat d.toNat ↔ c = d) := by
    intro c hc d hd
    obtain ⟨hlt, heq⟩ := ofNat_lt_iff ((toNat_lt_of_mem_toText hc).trans (by decide))
      ((toNat_lt_of_mem_toText hd).trans (by decide))
    exact ⟨hlt, heq.trans Char.toNat_inj⟩
  rw [textBytes_ascii fun _ => toNat_lt_of_mem_toText, textBytes_ascii fun _ => toNat_lt_of_mem_toText,
    map_lt_iff hbyte, toText_lt_iff]

/-! ### One order -/

/-- A comparison whose two parts are in the order of the model. -/
lemma byTimeAndId_iff {σ : Type} [LT σ] {time : U64 → σ} {bytes : Uuid → List UInt8} {a b : Cursor}
    (hlt : time a.1 < time b.1 ↔ a.1 < b.1) (heq : time a.1 = time b.1 ↔ a.1 = b.1)
    (hbytes : bytes a.2 < bytes b.2 ↔ a.2 < b.2) :
    ByTimeAndId time bytes a b ↔ a.stamp < b.stamp := by
  rw [ByTimeAndId, hlt, heq, hbytes, Cursor.stamp, Cursor.stamp, Prod.Lex.toLex_lt_toLex]
  simp only [Int.ofNat_lt, Int.ofNat_inj, Fin.lt_def, Fin.ext_iff]

lemma tupleBefore_iff {a b : Cursor} : TupleBefore a b ↔ a.stamp < b.stamp :=
  byTimeAndId_iff Iff.rfl Iff.rfl uuidBytes_lt_iff

lemma valkeyBefore_iff (a b : StoredKey) : ValkeyBefore a b ↔ a.1.stamp < b.1.stamp := by
  refine byTimeAndId_iff ?_ ?_ textBytes_toText_lt_iff
  · rw [nearestDouble_eq a.2, nearestDouble_eq b.2]
    exact Iff.rfl
  · rw [nearestDouble_eq a.2, nearestDouble_eq b.2]
    exact Fin.ext_iff.symm

/-- The casts of both other paths, before `2 ^ 63`. -/
lemma byTimeAndId_asI64_iff {a b : Cursor} (ha : (a.1 : ℕ) < 2 ^ 63) (hb : (b.1 : ℕ) < 2 ^ 63) :
    ByTimeAndId asI64 uuidBytes a b ↔ a.stamp < b.stamp := by
  refine byTimeAndId_iff ?_ ?_ uuidBytes_lt_iff
  · rw [asI64_of_lt ha, asI64_of_lt hb, Int.ofNat_lt]
    exact Iff.rfl
  · rw [asI64_of_lt ha, asI64_of_lt hb, Int.ofNat_inj]
    exact Fin.ext_iff.symm

lemma StoredKey.lt_i64 (key : StoredKey) : (key.1.1 : ℕ) < 2 ^ 63 :=
  key.2.trans (by norm_num)

/-- The range query of the cache finds what is before a cursor. -/
theorem nearestDouble_le_of_before {a b : StoredKey} (h : CursorBefore a b) :
    nearestDouble a.1.1 ≤ nearestDouble b.1.1 := by
  rw [nearestDouble_eq a.2, nearestDouble_eq b.2]
  rcases Prod.Lex.toLex_lt_toLex.mp ((byTimeAndId_asI64_iff a.lt_i64 b.lt_i64).mp h) with h | h
  · exact (Int.ofNat_lt.mp h).le
  · exact (Int.ofNat_inj.mp h.1).le

/-- **One order of stored messages**: below `2 ^ 53` the sorted set, the tuples, the cursor and the
row comparison put two messages in the same order, that of the model, and it is strict and
total. -/
theorem storedOrder :
    (∀ a b : StoredKey, (ValkeyBefore a b ↔ TupleBefore a b) ∧ (CursorBefore a b ↔ TupleBefore a b) ∧
      (RowBefore a b ↔ TupleBefore a b) ∧ (a.1.stamp < b.1.stamp ↔ TupleBefore a b)) ∧
    (∀ a : StoredKey, ¬ TupleBefore a a) ∧
    (∀ a b c : StoredKey, TupleBefore a b → TupleBefore b c → TupleBefore a c) ∧
    ∀ a b : StoredKey, TupleBefore a b ∨ a = b ∨ TupleBefore b a := by
  have hstamp : ∀ a b : StoredKey, a.1.stamp = b.1.stamp → a = b := by
    intro a b h
    obtain ⟨htime, hid⟩ := Prod.mk.inj (toLex.injective h)
    exact Subtype.ext (Prod.ext (Fin.ext (Int.ofNat_inj.mp htime)) hid)
  refine ⟨fun a b => ?_, fun a => ?_, fun a b c => ?_, fun a b => ?_⟩
  · rw [tupleBefore_iff, valkeyBefore_iff]
    exact ⟨Iff.rfl, byTimeAndId_asI64_iff a.lt_i64 b.lt_i64,
      byTimeAndId_asI64_iff a.lt_i64 b.lt_i64, Iff.rfl⟩
  · rw [tupleBefore_iff]
    exact lt_irrefl _
  · rw [tupleBefore_iff, tupleBefore_iff, tupleBefore_iff]
    exact lt_trans
  · rw [tupleBefore_iff, tupleBefore_iff]
    rcases lt_trichotomy a.1.stamp b.1.stamp with h | h | h
    · exact .inl h
    · exact .inr (.inl (hstamp a b h))
    · exact .inr (.inr h)

end Vussa
