import Vussa.Lib.Run
import Vussa.Lib.Tokens
import Mathlib.Order.Interval.Finset.Defs
import Mathlib.Data.Int.Interval

/-!
The rate limiter (`enforce_rate_limit` of `auth.rs`) on one key, at the granularity of its Valkey
commands. Between two commands of a call the key may expire, other calls may run, and the call may
end early, because a command fails or its process does.

A key lives from the `INCR` that creates it until it expires. The lifetimes are numbered, and a call
whose `INCR` fell into one has a ticket: the lifetime and the count it got. No code reads either.

* `Counter`, `Stage`, `Act`, `step`: the key, the calls between their commands, and the moves;
* `purse`, `purse_step`: the tickets of the calls under way and of those that returned `Ok`;
* `Counted`: every ticket has been counted, in every state of a run;
* `Solo`, `solo_settles`: a call that nobody interferes with leaves no key without an expiry;
* `admitted_le_limit`: **at most `limit` of the calls counted in one lifetime return `Ok`**;
  `lateReturn_admits` shows them returning in the next lifetime.
-/

namespace Vussa.RateLimit

open Run Tokens

/-! ### The key and the calls -/

/-- The value of the key, and whether it has a time to live. -/
structure Counter where
  count : ℤ
  expires : Bool
  deriving DecidableEq, Repr

/-- The lifetime and the count a call got from `INCR`. -/
structure Ticket where
  lifetime : ℕ
  count : ℤ
  deriving DecidableEq, Repr

/-- Where a call of `enforce_rate_limit` is. -/
inductive Stage where
  /-- `INCR` is next -/
  | start
  /-- `EXPIRE` is next, after a count of one or a `TTL` of -1 -/
  | expiring (ticket : Ticket)
  /-- `TTL` is next -/
  | reading (ticket : Ticket)
  /-- the commands are done -/
  | returning (ticket : Ticket)
  | returned (ok : Bool)
  | crashed
  deriving DecidableEq, Repr

/-- A call that returned `Ok`: its ticket, and the lifetime at that time. -/
structure Admission where
  ticket : Ticket
  lifetime : ℕ
  deriving DecidableEq, Repr

/-- The key, the number of lifetimes that have begun, the calls, and those that returned `Ok`. -/
structure State where
  key : Option Counter := none
  lifetime : ℕ := 0
  calls : ℕ → Stage := fun _ => .start
  admitted : List Admission := []

/-- What can happen next. -/
inductive Act where
  /-- a call issues its next command, or returns -/
  | run (k : ℕ)
  | crash (k : ℕ)
  /-- the key expires -/
  | expire
  deriving DecidableEq, Repr

namespace State

variable (s : State)

/-- The call `k` goes on to a stage. -/
def goto (k : ℕ) (stage : Stage) : State := { s with calls := Function.update s.calls k stage }

@[simp] lemma goto_self (k : ℕ) (stage : Stage) : (s.goto k stage).calls k = stage :=
  Function.update_self ..

lemma goto_of_ne {j k : ℕ} (h : j ≠ k) (stage : Stage) : (s.goto k stage).calls j = s.calls j :=
  Function.update_of_ne h ..

/-- `INCR`: a missing key begins a lifetime. -/
def incr : State × Ticket :=
  match s.key with
  | some c =>
      ({ s with key := some { c with count := c.count + 1 } }, ⟨s.lifetime, c.count + 1⟩)
  | none =>
      ({ s with key := some ⟨1, false⟩, lifetime := s.lifetime + 1 }, ⟨s.lifetime + 1, 1⟩)

/-- `EXPIRE`: a time to live that is not positive deletes the key. -/
def setExpire (window : ℤ) : State :=
  { s with key := if 0 < window then s.key.map fun c => { c with expires := true } else none }

/-- `TTL`: -2 for a missing key and -1 for one without an expiry; any other answer stands for the
rest of the time. -/
def ttl : ℤ :=
  match s.key with
  | none => -2
  | some c => if c.expires then 1 else -1

/-- `if count > limit`. -/
def finish (limit : ℤ) (k : ℕ) (ticket : Ticket) : State :=
  if limit < ticket.count then s.goto k (.returned false)
  else { s.goto k (.returned true) with admitted := s.admitted ++ [⟨ticket, s.lifetime⟩] }

end State

/-- One step; `window` is `window_seconds as i64`. -/
def step (limit window : ℤ) (s : State) : Act → State
  | .run k =>
      match s.calls k with
      | .start =>
          s.incr.1.goto k
            (if s.incr.2.count = 1 then .expiring s.incr.2 else .reading s.incr.2)
      | .expiring ticket => (s.setExpire window).goto k (.returning ticket)
      | .reading ticket =>
          s.goto k (if s.ttl = -1 then .expiring ticket else .returning ticket)
      | .returning ticket => s.finish limit k ticket
      | .returned _ | .crashed => s
  | .crash k => s.goto k .crashed
  | .expire =>
      match s.key with
      | some ⟨_, true⟩ => { s with key := none }
      | _ => s

/-! ### The tickets -/

/-- The ticket of a call under way. -/
def Stage.tickets : Stage → List Ticket
  | .expiring ticket | .reading ticket | .returning ticket => [ticket]
  | .start | .returned _ | .crashed => []

/-- The tickets held by the calls, and those of the calls that returned `Ok`. -/
def purse (s : State) : Purse ℕ Ticket where
  held k := (s.calls k).tickets
  spent := s.admitted.map Admission.ticket

lemma purse_goto (s : State) (k : ℕ) (stage : Stage) :
    purse (s.goto k stage) = (purse s).hold k stage.tickets := by
  change Purse.mk (fun j => (Function.update s.calls k stage j).tickets) _ =
    Purse.mk (Function.update (fun j => (s.calls j).tickets) k stage.tickets) _
  congr 1
  funext j
  by_cases hj : j = k
  · rw [hj, Function.update_self, Function.update_self]
  · rw [Function.update_of_ne hj, Function.update_of_ne hj]

/-- The ticket has been counted: it is of this lifetime or an earlier one, and no larger than the
count of its key. -/
structure Below (s : State) (t : Ticket) : Prop where
  lifetime : t.lifetime ≤ s.lifetime
  pos : 1 ≤ t.count
  count : ∀ c ∈ s.key, t.lifetime = s.lifetime → t.count ≤ c.count

/-- In every state of a run the tickets are told apart and counted, and those of the calls that
returned `Ok` are within the limit. -/
structure Counted (limit : ℤ) (s : State) : Prop where
  linear : (purse s).Linear
  below : ∀ t, (purse s).InUse t → Below s t
  within : ∀ t ∈ (purse s).spent, t.count ≤ limit
  key : ∀ c ∈ s.key, 0 ≤ c.count

namespace Counted

variable {limit : ℤ} {s : State}

lemma init : Counted limit {} where
  linear := Purse.linear_empty
  below t h := by
    rcases h with ⟨k, hk⟩ | hspent
    · exact absurd hk List.not_mem_nil
    · exact absurd hspent List.not_mem_nil
  within t h := absurd h List.not_mem_nil
  key c h := absurd h (Option.not_mem_none c)

/-- The key expires, or gets a time to live. -/
lemma withKey (h : Counted limit s) {key : Option Counter}
    (hkey : ∀ c ∈ key, ∃ c' ∈ s.key, c.count = c'.count) : Counted limit { s with key } where
  linear := h.linear
  below t ht :=
    { lifetime := (h.below t ht).lifetime
      pos := (h.below t ht).pos
      count := fun c hc hsame => by
        obtain ⟨c', hc', heq⟩ := hkey c hc
        rw [heq]
        exact (h.below t ht).count c' hc' hsame }
  within := h.within
  key c hc := by
    obtain ⟨c', hc', heq⟩ := hkey c hc
    rw [heq]
    exact h.key c' hc'

/-- A call goes on with its ticket, or loses it. -/
lemma keep (h : Counted limit s) (k : ℕ) {stage : Stage}
    (hsub : stage.tickets.Sublist (s.calls k).tickets) : Counted limit (s.goto k stage) := by
  have hpurse := purse_goto s k stage
  refine ⟨hpurse ▸ h.linear.keep k hsub, fun t ht => ?_, fun t ht => ?_, h.key⟩
  · rw [hpurse] at ht
    have hold := h.below t (Purse.inUse_of_keep hsub ht)
    exact ⟨hold.lifetime, hold.pos, hold.count⟩
  · rw [hpurse] at ht
    exact h.within t ht

/-- A ticket that `INCR` gives out is new. -/
lemma incr_new (h : Counted limit s) : ¬ (purse s).InUse s.incr.2 := by
  intro ht
  have hbelow := h.below _ ht
  cases hkey : s.key with
  | none =>
      have hlifetime := hbelow.lifetime
      simp only [State.incr, hkey] at hlifetime
      omega
  | some c =>
      have hcount := hbelow.count c hkey
      simp only [State.incr, hkey] at hcount
      have hle := hcount trivial
      omega

/-- After `INCR` the earlier tickets and the new one are counted. -/
lemma incr_below (h : Counted limit s) {t : Ticket} (ht : (purse s).InUse t ∨ t = s.incr.2) :
    Below s.incr.1 t := by
  cases hkey : s.key with
  | none =>
      simp only [State.incr, hkey] at ht ⊢
      rcases ht with hold | rfl
      · have hbelow := h.below t hold
        refine ⟨hbelow.lifetime.trans (Nat.le_succ _), hbelow.pos, fun c hc hsame => ?_⟩
        have hle := hbelow.lifetime
        have hsame' : t.lifetime = s.lifetime + 1 := hsame
        omega
      · exact ⟨le_rfl, le_rfl, fun c hc _ => by rw [← Option.some.inj hc]⟩
  | some c =>
      simp only [State.incr, hkey] at ht ⊢
      rcases ht with hold | rfl
      · have hbelow := h.below t hold
        refine ⟨hbelow.lifetime, hbelow.pos, fun c' hc' hsame => ?_⟩
        rw [← Option.some.inj hc']
        have hle := hbelow.count c hkey hsame
        exact hle.trans (Int.le_add_one le_rfl)
      · have hpos := h.key c hkey
        have hone : 1 ≤ c.count + 1 := by omega
        exact ⟨le_rfl, hone, fun c' hc' _ => by rw [← Option.some.inj hc']⟩

/-- A call is counted. -/
lemma incr (h : Counted limit s) (k : ℕ) {stage : Stage}
    (hstage : stage.tickets = [s.incr.2]) : Counted limit (s.incr.1.goto k stage) := by
  have hsame : purse s.incr.1 = purse s := by
    rw [State.incr]
    split <;> rfl
  have hpurse : purse (s.incr.1.goto k stage) = (purse s).hold k [s.incr.2] := by
    rw [purse_goto, hsame, hstage]
  refine ⟨?_, fun t ht => ?_, fun t ht => ?_, fun c hc => ?_⟩
  · rw [hpurse]
    exact h.linear.issue k (List.nodup_singleton _) fun t ht =>
      List.mem_singleton.mp ht ▸ h.incr_new
  · rw [hpurse] at ht
    have hbelow : Below s.incr.1 t :=
      h.incr_below ((Purse.inUse_of_hold ht).imp_right List.mem_singleton.mp)
    exact ⟨hbelow.lifetime, hbelow.pos, hbelow.count⟩
  · rw [hpurse] at ht
    exact h.within t ht
  · have hnew : Below s.incr.1 s.incr.2 := h.incr_below (Or.inr rfl)
    have hlast : s.incr.2.lifetime = s.incr.1.lifetime := by
      rw [State.incr]
      split <;> rfl
    have hle := hnew.count c hc hlast
    have hpos := hnew.pos
    omega

/-- A call within the limit returns. -/
lemma finish (h : Counted limit s) {k : ℕ} {ticket : Ticket} (hk : s.calls k = .returning ticket) :
    Counted limit (s.finish limit k ticket) := by
  rw [State.finish]
  split_ifs with hlimit
  · exact h.keep k (List.nil_sublist _)
  · have hheld : (purse s).held k = [ticket] := congrArg Stage.tickets hk
    have hgoto := purse_goto s k (.returned true)
    have hpurse : purse { s.goto k (.returned true) with
        admitted := s.admitted ++ [⟨ticket, s.lifetime⟩] } = (purse s).spend k ticket [] := by
      rw [Purse.spend, ← show Stage.tickets (.returned true) = [] from rfl, ← hgoto, purse,
        List.map_append]
      rfl
    refine ⟨hpurse ▸ h.linear.spend hheld, fun t ht => ?_, fun t ht => ?_, h.key⟩
    · rw [hpurse] at ht
      have hold := h.below t (Purse.inUse_of_spend hheld ht)
      exact ⟨hold.lifetime, hold.pos, hold.count⟩
    · rw [hpurse] at ht
      rcases List.mem_append.mp ht with hold | hnew
      · exact h.within t hold
      · rw [List.mem_singleton.mp hnew]
        omega

/-- **Every step keeps the tickets counted.** -/
theorem step (h : Counted limit s) (window : ℤ) (a : Act) :
    Counted limit (step limit window s a) := by
  cases a with
  | run k =>
      rw [RateLimit.step]
      split
      · refine h.incr k ?_
        split_ifs <;> rfl
      · rename_i ticket hk
        have hexpire : Counted limit (s.setExpire window) := by
          refine h.withKey fun c hc => ?_
          split_ifs at hc
          · obtain ⟨c', hc', rfl⟩ := Option.map_eq_some_iff.mp hc
            exact ⟨c', hc', rfl⟩
          · cases hc
        refine hexpire.keep k ?_
        rw [State.setExpire, hk]
        exact List.Sublist.refl _
      · rename_i ticket hk
        refine h.keep k ?_
        rw [hk]
        split_ifs <;> exact List.Sublist.refl _
      · rename_i ticket hk
        exact h.finish hk
      · exact h
      · exact h
  | crash k => exact h.keep k (List.nil_sublist _)
  | expire =>
      rw [RateLimit.step]
      split
      · exact h.withKey fun c hc => absurd hc (Option.not_mem_none c)
      · exact h

/-- The calls that were counted in one lifetime and returned `Ok`. -/
lemma admitted_le (h : Counted limit s) (g : ℕ) :
    (s.admitted.filter fun a => a.ticket.lifetime = g).length ≤ limit.toNat := by
  have hmap : (s.admitted.filter fun a => a.ticket.lifetime = g).length =
      ((purse s).spent.filter fun t => t.lifetime = g).length := by
    rw [purse, List.filter_map, List.length_map]
    rfl
  have hin : ∀ t ∈ (purse s).spent, t.lifetime = g →
      t ∈ (Finset.Icc 1 limit).image (Ticket.mk g) := by
    rintro ⟨lifetime, count⟩ ht rfl
    have hpos := (h.below _ (Or.inr ht)).pos
    exact Finset.mem_image_of_mem _ (Finset.mem_Icc.mpr ⟨hpos, h.within _ ht⟩)
  calc (s.admitted.filter fun a => a.ticket.lifetime = g).length
      = ((purse s).spent.filter fun t => t.lifetime = g).length := hmap
    _ ≤ ((Finset.Icc 1 limit).image (Ticket.mk g)).card := h.linear.spent_le hin
    _ ≤ (Finset.Icc 1 limit).card := Finset.card_image_le
    _ = limit.toNat := by rw [Int.card_Icc, add_sub_cancel_right]

end Counted

/-! ### A call that nobody interferes with -/

/-- The key is missing or will expire. -/
def Expires (s : State) : Prop := ∀ c ∈ s.key, c.expires = true

instance (s : State) : Decidable (Expires s) :=
  inferInstanceAs (Decidable (∀ c ∈ s.key, c.expires = true))

/-- No call but `k` issues a command. -/
def Solo (k : ℕ) : Act → Prop
  | .run j => j = k
  | .crash _ | .expire => True

instance (k : ℕ) : ∀ a, Decidable (Solo k a)
  | .run j => inferInstanceAs (Decidable (j = k))
  | .crash _ | .expire => isTrue trivial

/-- The call has issued its last command. -/
def Stage.isDone : Stage → Bool
  | .returning _ | .returned _ => true
  | .start | .expiring _ | .reading _ | .crashed => false

lemma State.setExpire_expires (s : State) (window : ℤ) : Expires (s.setExpire window) := by
  intro c hc
  rw [setExpire] at hc
  split_ifs at hc
  · obtain ⟨c', -, rfl⟩ := Option.map_eq_some_iff.mp hc
    rfl
  · cases hc

/-- `TTL` answers -1 only for a key without an expiry. -/
lemma State.expires_of_ttl {s : State} (h : s.ttl ≠ -1) : Expires s := by
  intro c hc
  by_contra hnone
  refine h ?_
  rw [ttl, show s.key = some c from hc]
  exact if_neg hnone

/-- **A step of a call that runs alone**: once it has issued its last command, the key expires. -/
lemma solo_step {limit window : ℤ} {k : ℕ} {s : State} {a : Act} (ha : Solo k a)
    (h : (s.calls k).isDone → Expires s) :
    ((step limit window s a).calls k).isDone → Expires (step limit window s a) := by
  cases a with
  | run j =>
      obtain rfl : j = k := ha
      rw [step]
      split
      · -- `INCR` is not the last command
        intro hdone
        rw [State.goto_self] at hdone
        split_ifs at hdone <;> cases hdone
      · exact fun _ => s.setExpire_expires window
      · intro hdone
        rw [State.goto_self] at hdone
        split_ifs at hdone with httl
        · cases hdone
        · have hexpires : Expires s := State.expires_of_ttl httl
          exact hexpires
      · rename_i ticket hk
        have hexpires : Expires s := h (by rw [hk]; rfl)
        intro _
        rw [State.finish]
        split_ifs <;> exact hexpires
      · exact h
      · exact h
  | crash j =>
      intro hdone
      rw [step] at hdone
      rcases eq_or_ne k j with rfl | hne
      · rw [State.goto_self] at hdone
        cases hdone
      · rw [State.goto_of_ne s hne] at hdone
        exact h hdone
  | expire =>
      rw [step]
      split
      · exact fun _ c hc => absurd hc (Option.not_mem_none c)
      · exact h

/-- **A call that runs alone to its end** leaves no key without an expiry, whatever it finds. -/
theorem solo_settles {limit window : ℤ} {k : ℕ} {s : State} (hstart : s.calls k = .start)
    {as : List Act} (hsolo : ∀ a ∈ as, Solo k a) {ok : Bool}
    (hend : (final (step limit window) s as).calls k = .returned ok) :
    Expires (final (step limit window) s as) := by
  have halong : Along (step limit window) (fun _ a => Solo k a) s as := along_of_forall s hsolo
  have hrun := halong.invariant (I := fun s => (s.calls k).isDone → Expires s)
    (fun s a hs ha => solo_step ha hs) fun hdone => by rw [hstart] at hdone; cases hdone
  exact hrun (by rw [hend]; rfl)

/-! ### Every run -/

/-- **The limit over every run**: at most `limit` of the calls that one lifetime of the key has
counted return `Ok`; and a call that runs to its end while no other acts on the key leaves it
missing or with an expiry. -/
theorem admitted_le_limit (limit window : ℤ) (as : List Act) :
    (∀ g, ((final (step limit window) {} as).admitted.filter fun a =>
      a.ticket.lifetime = g).length ≤ limit.toNat) ∧
    ∀ k, (final (step limit window) {} as).calls k = .start → ∀ bs, (∀ b ∈ bs, Solo k b) →
      ∀ ok, (final (step limit window) (final (step limit window) {} as) bs).calls k
          = .returned ok →
        Expires (final (step limit window) (final (step limit window) {} as) bs) := by
  have hcounted : Counted limit (final (step limit window) {} as) :=
    final_invariant (fun s a hs => hs.step window a) Counted.init as
  exact ⟨hcounted.admitted_le, fun k hstart bs hsolo ok hend => solo_settles hstart hsolo hend⟩

/-- A limit of one: a call is counted, the key expires, and another call is counted before both
return. -/
def lateReturn : List Act :=
  [.run 0, .run 0, .expire, .run 1, .run 1, .run 0, .run 1]

/-- Two calls return `Ok` in the second lifetime of the key. -/
theorem lateReturn_admits : ¬ ∀ (limit window : ℤ) (as : List Act) (g : ℕ),
    ((final (step limit window) {} as).admitted.filter fun a => a.lifetime = g).length
      ≤ limit.toNat := by
  intro h
  exact absurd (h 1 60 lateReturn 2) (by decide)

/-- A call that crashed before its `EXPIRE`, and a later one that makes up for it. -/
theorem crashed_settles : Expires (final (step 5 60) (final (step 5 60) {} [.run 0, .crash 0])
    [.run 1, .run 1, .run 1, .run 1]) :=
  (admitted_le_limit 5 60 [.run 0, .crash 0]).2 1 (by decide) _ (by decide) true (by decide)

end Vussa.RateLimit
