import Vussa.Lib.Run

/-!
Stores of several types in one flat keyspace, where nothing but the names of the keys tells whose
value a name holds, and a command on a value of another type fails.

* `Stores`, `Command`: a value or none for every typed key, and a command on one key;
* `Layout`: the names of the keys, no two alike, and the values as the keyspace holds them;
* `Layout.read`, `Layout.exec`, `Layout.run`: the commands by name, which may fail;
* `Layout.Represents`: the keyspace holds the stores;
* `Represents.run`: **the commands of a run never fail, and do to the keyspace what they do to the
  stores**.
-/

namespace Keyspace

open Run

/-- A value or none for every key. -/
abbrev Stores {K : Type*} (T : K → Type*) := ∀ k, Option (T k)

/-- A command on one key: what it leaves there, from what is there. -/
structure Command {K : Type*} (T : K → Type*) where
  key : K
  act : Option (T key) → Option (T key)

section Stores

variable {K : Type*} {T : K → Type*} [DecidableEq K] {s : Stores T} {k : K}

/-- A command on the stores. -/
def apply (s : Stores T) (c : Command T) : Stores T := Function.update s c.key (c.act (s c.key))

@[simp] lemma apply_self (act : Option (T k) → Option (T k)) : apply s ⟨k, act⟩ k = act (s k) :=
  Function.update_self ..

lemma apply_of_ne {c : Command T} (h : k ≠ c.key) : apply s c k = s k :=
  Function.update_of_ne h ..

/-- Commands on other keys leave a key alone. -/
lemma final_apply_of_ne {cs : List (Command T)} (h : ∀ c ∈ cs, k ≠ c.key) :
    final apply s cs k = s k := by
  induction cs generalizing s with
  | nil => rfl
  | cons c cs ih =>
      rw [final_cons, ih fun c' hc' => h c' (List.mem_cons_of_mem _ hc'),
        apply_of_ne (h c List.mem_cons_self)]

end Stores

/-- How the values of typed keys lie in a flat keyspace. -/
structure Layout {K : Type*} (T : K → Type*) (N V : Type*) where
  name : K → N
  name_injective : Function.Injective name
  encode : ∀ k, T k → V
  decode : ∀ k, V → Option (T k)
  decode_encode : ∀ k x, decode k (encode k x) = some x

namespace Layout

variable {K : Type*} {T : K → Type*} {N V : Type*} (L : Layout T N V)

/-- What is at the name of a key; nothing if it is a value of another type. -/
def read (flat : N → Option V) (k : K) : Option (Option (T k)) :=
  match flat (L.name k) with
  | none => some none
  | some v => (L.decode k v).map some

/-- The keyspace holds the stores. -/
def Represents (flat : N → Option V) (s : Stores T) : Prop :=
  ∀ k, flat (L.name k) = (s k).map (L.encode k)

variable [DecidableEq N]

/-- A command on the keyspace; it fails on a value of another type. -/
def exec (flat : N → Option V) (c : Command T) : Option (N → Option V) :=
  (L.read flat c.key).map fun x =>
    Function.update flat (L.name c.key) ((c.act x).map (L.encode c.key))

/-- Commands one after the other. -/
def run (flat : N → Option V) (cs : List (Command T)) : Option (N → Option V) :=
  cs.foldlM L.exec flat

variable {L} {flat : N → Option V} {s : Stores T}

omit [DecidableEq N] in
/-- A name is read as the store has it. -/
lemma Represents.read (h : L.Represents flat s) (k : K) : L.read flat k = some (s k) := by
  unfold Layout.read
  rw [h k]
  cases s k with
  | none => rfl
  | some x => exact congrArg (Option.map some) (L.decode_encode k x)

variable [DecidableEq K]

/-- A command does not fail, and keeps the representation. -/
lemma Represents.exec (h : L.Represents flat s) (c : Command T) :
    ∃ flat', L.exec flat c = some flat' ∧ L.Represents flat' (apply s c) := by
  refine ⟨_, by rw [Layout.exec, h.read, Option.map_some], fun k => ?_⟩
  by_cases hk : k = c.key
  · subst hk
    rw [Function.update_self, apply, Function.update_self]
  · rw [Function.update_of_ne (L.name_injective.ne hk), apply_of_ne hk]
    exact h k

/-- **The commands of a run never fail, and do to the keyspace what they do to the stores.** -/
theorem Represents.run (h : L.Represents flat s) (cs : List (Command T)) :
    ∃ flat', L.run flat cs = some flat' ∧ L.Represents flat' (final apply s cs) := by
  induction cs generalizing flat s with
  | nil => exact ⟨flat, rfl, h⟩
  | cons c cs ih =>
      obtain ⟨flat₁, hc, h₁⟩ := h.exec c
      obtain ⟨flat₂, hcs, h₂⟩ := ih h₁
      refine ⟨flat₂, ?_, h₂⟩
      rw [Layout.run, List.foldlM_cons, hc]
      exact hcs

end Layout

end Keyspace
