import Mathlib.Tactic

/-!
Classes and mappings of code points, given by tables of ranges as character databases give them.
A statement about all code points becomes a statement about the ranges of a table, which can be
decided; as tables are long, everything is evaluated by comparisons of literals.

* `member`: the class of a table of ranges;
* `Shift`, `shift`: the mapping of a table of shifted ranges; everything else is fixed;
* `Apart`, `Within`, `Into`, `Settled`, `Misses`: conditions on tables;
* `not_member_of_apart`, `shift_mem`, `shift_shift`, `shift_eq_self`: **what they say of every code
  point**.
-/

namespace CodePoints

/-! ### Classes -/

/-- A range of code points, both ends included. -/
abbrev Range := ℕ × ℕ

/-- The code point is in one of the ranges. -/
def member (rs : List Range) (n : ℕ) : Bool := rs.any fun r => r.1.ble n && n.ble r.2

lemma member_iff {rs : List Range} {n : ℕ} : member rs n ↔ ∃ r ∈ rs, r.1 ≤ n ∧ n ≤ r.2 := by
  simp [member]

/-- No range of one table meets a range of the other. -/
def Apart (rs rs' : List Range) : Prop := ∀ r ∈ rs, ∀ r' ∈ rs', r.2 < r'.1 ∨ r'.2 < r.1

instance (rs rs' : List Range) : Decidable (Apart rs rs') :=
  decidable_of_iff (rs.all fun r => rs'.all fun r' => (r.2 + 1).ble r'.1 || (r'.2 + 1).ble r.1)
    (by simp [Apart])

/-- Tables that are apart have no code point in common. -/
lemma not_member_of_apart {rs rs' : List Range} (h : Apart rs rs') {n : ℕ} (hn : member rs n) :
    ¬ member rs' n := by
  rw [member_iff]
  rintro ⟨r', hr', hlo', hhi'⟩
  obtain ⟨r, hr, hlo, hhi⟩ := member_iff.mp hn
  have := h r hr r' hr'
  omega

/-- Every range of one table is inside a range of the other. -/
def Within (rs rs' : List Range) : Prop := ∀ r ∈ rs, ∃ r' ∈ rs', r'.1 ≤ r.1 ∧ r.2 ≤ r'.2

instance (rs rs' : List Range) : Decidable (Within rs rs') :=
  decidable_of_iff (rs.all fun r => rs'.any fun r' => r'.1.ble r.1 && r.2.ble r'.2)
    (by simp [Within])

lemma member_of_within {rs rs' : List Range} (h : Within rs rs') {n : ℕ} (hn : member rs n) :
    member rs' n := by
  obtain ⟨r, hr, hlo, hhi⟩ := member_iff.mp hn
  obtain ⟨r', hr', hlo', hhi'⟩ := h r hr
  exact member_iff.mpr ⟨r', hr', hlo'.trans hlo, hhi.trans hhi'⟩

/-- The scalar values: all code points but the surrogates. -/
def scalars : List Range := [(0, 0xD7FF), (0xE000, 0x10FFFF)]

lemma isValidChar_of_member {n : ℕ} (h : member scalars n) : n.isValidChar := by
  obtain ⟨r, hr, hlo, hhi⟩ := member_iff.mp h
  rw [Nat.isValidChar]
  simp only [scalars, List.mem_cons, List.not_mem_nil, or_false] at hr
  rcases hr with rfl | rfl
  · exact .inl (by omega)
  · exact .inr (by omega)

/-! ### Mappings -/

/-- Every `step`-th code point from `first` to `last`, moved as a whole so that `first` comes to
stand at `target`. -/
structure Shift where
  first : ℕ
  last : ℕ
  step : ℕ
  target : ℕ
  deriving DecidableEq, Repr

namespace Shift

/-- The code point is moved. -/
def Moves (s : Shift) (n : ℕ) : Prop := s.first ≤ n ∧ n ≤ s.last ∧ (n - s.first) % s.step = 0

instance (s : Shift) (n : ℕ) : Decidable (s.Moves n) :=
  decidable_of_iff (s.first.ble n && (n.ble s.last && ((n - s.first) % s.step).beq 0))
    (by simp [Moves])

/-- Where the code point is moved to. -/
def apply (s : Shift) (n : ℕ) : ℕ := s.target + (n - s.first)

/-- The last code point it is moved to. -/
def stop (s : Shift) : ℕ := s.target + (s.last - s.first)

lemma target_le_apply (s : Shift) (n : ℕ) : s.target ≤ s.apply n := Nat.le_add_right _ _

lemma apply_le_stop {s : Shift} {n : ℕ} (h : s.Moves n) : s.apply n ≤ s.stop := by
  have := h.2.1
  simp only [apply, stop]
  omega

/-- What one shift moves something to, the other does not move: it is out of its range or, where
both move every other code point, of the other parity. -/
def Avoids (s s' : Shift) : Prop :=
  s.stop < s'.first ∨ s'.last < s.target ∨
    (s.step = 2 ∧ s'.step = 2 ∧ (s.target + s'.first) % 2 = 1)

lemma Avoids.not_moves {s s' : Shift} (h : s.Avoids s') {n : ℕ} (hn : s.Moves n) :
    ¬ s'.Moves (s.apply n) := by
  intro hm
  have hlo := s.target_le_apply n
  have hhi := apply_le_stop hn
  obtain ⟨hlo', hhi', hstep'⟩ := hm
  obtain ⟨-, -, hstep⟩ := hn
  rcases h with h | h | ⟨htwo, htwo', hparity⟩
  · omega
  · omega
  · rw [htwo'] at hstep'
    rw [htwo] at hstep
    simp only [apply] at hstep' hlo'
    omega

end Shift

/-- The first shift of the table that moves the code point, applied to it. -/
def shift (ss : List Shift) (n : ℕ) : ℕ :=
  match ss.find? fun s => s.Moves n with
  | some s => s.apply n
  | none => n

/-- The table moves the code point, or fixes it. -/
lemma shift_cases (ss : List Shift) (n : ℕ) :
    (∃ s ∈ ss, s.Moves n ∧ shift ss n = s.apply n) ∨
      ((∀ s ∈ ss, ¬ s.Moves n) ∧ shift ss n = n) := by
  cases h : ss.find? fun s => s.Moves n with
  | some s =>
      have hmoves := List.find?_some h
      refine .inl ⟨s, List.mem_of_find?_eq_some h, of_decide_eq_true hmoves, ?_⟩
      rw [shift, h]
  | none =>
      refine .inr ⟨fun s hs => ?_, by rw [shift, h]⟩
      have hnone := List.find?_eq_none.mp h s hs
      rwa [decide_eq_true_eq] at hnone

lemma shift_eq_self_of {ss : List Shift} {n : ℕ} (h : ∀ s ∈ ss, ¬ s.Moves n) : shift ss n = n := by
  rcases shift_cases ss n with ⟨s, hs, hmoves, -⟩ | ⟨-, hfix⟩
  · exact absurd hmoves (h s hs)
  · exact hfix

/-- Every shift moves into one range of the class. -/
def Into (ss : List Shift) (rs : List Range) : Prop :=
  ∀ s ∈ ss, ∃ r ∈ rs, r.1 ≤ s.target ∧ s.stop ≤ r.2

instance (ss : List Shift) (rs : List Range) : Decidable (Into ss rs) :=
  decidable_of_iff (ss.all fun s => rs.any fun r => r.1.ble s.target && s.stop.ble r.2)
    (by simp [Into])

lemma apply_mem {ss : List Shift} {rs : List Range} (h : Into ss rs) {s : Shift} (hs : s ∈ ss)
    {n : ℕ} (hn : s.Moves n) : member rs (s.apply n) := by
  obtain ⟨r, hr, hlo, hhi⟩ := h s hs
  exact member_iff.mpr
    ⟨r, hr, hlo.trans (s.target_le_apply n), (Shift.apply_le_stop hn).trans hhi⟩

/-- A class into which everything moves is kept. -/
lemma shift_mem {ss : List Shift} {rs : List Range} (h : Into ss rs) {n : ℕ} (hn : member rs n) :
    member rs (shift ss n) := by
  rcases shift_cases ss n with ⟨s, hs, hmoves, heq⟩ | ⟨-, heq⟩
  · rw [heq]
    exact apply_mem h hs hmoves
  · rwa [heq]

/-- Nothing is moved twice. -/
def Settled (ss : List Shift) : Prop := ∀ s ∈ ss, ∀ s' ∈ ss, s.Avoids s'

instance (ss : List Shift) : Decidable (Settled ss) :=
  decidable_of_iff (ss.all fun s => ss.all fun s' =>
      (s.stop + 1).ble s'.first || ((s'.last + 1).ble s.target ||
        (s.step.beq 2 && (s'.step.beq 2 && ((s.target + s'.first) % 2).beq 1))))
    (by simp [Settled, Shift.Avoids])

lemma shift_shift {ss : List Shift} (h : Settled ss) (n : ℕ) :
    shift ss (shift ss n) = shift ss n := by
  rcases shift_cases ss n with ⟨s, hs, hmoves, heq⟩ | ⟨-, heq⟩
  · rw [heq]
    exact shift_eq_self_of fun s' hs' => (h s hs s' hs').not_moves hmoves
  · rw [heq, heq]

/-- No shift moves anything in the class. -/
def Misses (ss : List Shift) (rs : List Range) : Prop :=
  ∀ s ∈ ss, ∀ r ∈ rs, s.last < r.1 ∨ r.2 < s.first

instance (ss : List Shift) (rs : List Range) : Decidable (Misses ss rs) :=
  decidable_of_iff (ss.all fun s => rs.all fun r => (s.last + 1).ble r.1 || (r.2 + 1).ble s.first)
    (by simp [Misses])

lemma shift_eq_self {ss : List Shift} {rs : List Range} (h : Misses ss rs) {n : ℕ}
    (hn : member rs n) : shift ss n = n := by
  refine shift_eq_self_of fun s hs hmoves => ?_
  obtain ⟨r, hr, hlo, hhi⟩ := member_iff.mp hn
  have := h s hs r hr
  obtain ⟨hfirst, hlast, -⟩ := hmoves
  omega

end CodePoints
