import Vussa.Sessions.Index

/-!
The requests that end sessions (`logout`, `revoke_session`, `change_password`, `delete_account`,
`handle_auth_invalidate`), once they got as far as their first command on the sets: what they were
to delete is gone when they are over, whatever ran between their commands, and it stays gone.

* `Task.Dooms`: the sessions a task is going to delete;
* `exec_dooms`: one command deletes such a session or leaves it to the next command;
* `State.step_settled`: no move brings a session back;
* `doomed_gone`: **a task that is over has deleted what it was to delete**.
-/

namespace Vussa.Sessions

open Run

/-- The session `id` is one of those the task deletes before it is over. -/
def Task.Dooms (s : Store) (id : Uuid) : Task → Prop
  | remove _ first rest => id = first ∨ id ∈ rest
  | unlist _ _ rest => id ∈ rest
  -- all sessions of the user but the own one, as far as they exist
  | readOthers session =>
      id ≠ session.id ∧ ∃ h, s.keys id = some h ∧ h.user.id = session.user.id
  | readOwn user | readInvalid user => ∃ h, s.keys id = some h ∧ h.user.id = user
  | clear _ ids _ _ => id ∈ ids
  | clearAll _ ids => id ∈ ids
  | _ => False

section Commands

variable {known : Finset Uuid} {s s' : Store} {task : Task} {id : Uuid}

lemma Task.Dooms.mem_known (h : task.Dooms s id) (hsound : task.Sound known s)
    (hkeys : ∀ id h, s.keys id = some h → id ∈ known) : id ∈ known := by
  cases task with
  | remove user first rest =>
      rcases h with rfl | hrest
      · exact hsound.1
      · exact hsound.2 id hrest
  | unlist user first rest => exact hsound.2.2 id h
  | readOthers session =>
      obtain ⟨-, hash, hkey, -⟩ := h
      exact hkeys id hash hkey
  | readOwn user | readInvalid user =>
      obtain ⟨hash, hkey, -⟩ := h
      exact hkeys id hash hkey
  | clear user ids first rest => exact (hsound id h).1
  | clearAll user ids => exact hsound id h
  | load _ _ _ | refresh _ _ _ | check _ _ _ | drop _ _ _ | rename _ _ | readListed _
  | close _ _ => exact h.elim

/-- While others move, a session waits for the task or is already gone. -/
lemma Task.Dooms.mono (h : task.Dooms s id) (hid : id ∈ known) (hs : Settled known s s') :
    s'.keys id = none ∨ task.Dooms s' id := by
  cases hkey : s'.keys id with
  | none => exact Or.inl rfl
  | some hash' =>
      obtain ⟨hash, hold, huser⟩ := hs id hid hash' hkey
      -- a session that is still there has the user it had
      have hread : ∀ user, (∃ g, s.keys id = some g ∧ g.user.id = user) →
          ∃ g, s'.keys id = some g ∧ g.user.id = user := by
        rintro user ⟨g, hg, rfl⟩
        obtain rfl := Option.some.inj (hold.symm.trans hg)
        exact ⟨hash', hkey, huser.symm⟩
      refine Or.inr ?_
      cases task with
      | readOthers session => exact ⟨h.1, hread _ h.2⟩
      | readOwn user | readInvalid user => exact hread user h
      | remove _ _ _ | unlist _ _ _ | clear _ _ _ _ | clearAll _ _ => exact h
      | load _ _ _ | refresh _ _ _ | check _ _ _ | drop _ _ _ | rename _ _ | readListed _
      | close _ _ => exact h.elim

lemma dooms_removeEach {user : Uuid} {rest : List Uuid} (h : id ∈ rest) :
    ∃ t, Task.removeEach user rest = some t ∧ t.Dooms s id := by
  cases rest with
  | nil => exact absurd h List.not_mem_nil
  | cons first rest => exact ⟨_, rfl, List.mem_cons.mp h⟩

/-- The loop of `delete_account` goes on until everything it read is gone. -/
lemma gone_or_dooms_clearEach {user : Uuid} {read rest : List Uuid} (h : id ∈ read)
    (hleft : id ∈ rest ∨ s.keys id = none) :
    s.keys id = none ∨ (Task.clearEach user read rest).Dooms s id := by
  cases rest with
  | nil => exact Or.inl (hleft.resolve_left List.not_mem_nil)
  | cons first rest => exact Or.inr h

lemma mem_of_members {user : Uuid} {ids : List Uuid} (hi : Indexed s) (hids : s.Members user ids)
    (h : ∃ g, s.keys id = some g ∧ g.user.id = user) : id ∈ ids := by
  obtain ⟨g, hkey, rfl⟩ := h
  have hmem := hi id g hkey
  rw [← hids.2] at hmem
  exact List.mem_toFinset.mp hmem

/-- A command of the task deletes the session or leaves it to the next one: `SMEMBERS` finds the
session since it is listed. -/
lemma exec_dooms (U : Unicode) (ids : List Uuid) (hi : Indexed s) (hsound : task.Sound known s)
    (h : task.Dooms s id) :
    (s.exec U ids task).1.keys id = none ∨
      ∃ t, (s.exec U ids task).2 = some t ∧ t.Dooms (s.exec U ids task).1 id := by
  cases task with
  | remove user first rest =>
      rcases h with rfl | hrest
      · exact Or.inl (s.del_keys_of_mem (List.mem_singleton_self id))
      · exact Or.inr ⟨_, rfl, hrest⟩
  | unlist user first rest => exact Or.inr (dooms_removeEach h)
  | readOthers session =>
      rw [Store.exec]
      split_ifs with hids
      · refine Or.inr (dooms_removeEach (List.mem_filter.mpr ⟨mem_of_members hi hids h.2, ?_⟩))
        exact decide_eq_true h.1
      · exact Or.inr ⟨_, rfl, h⟩
  | readOwn user =>
      rw [Store.exec]
      split_ifs with hids
      · have hmem := mem_of_members hi hids h
        exact (gone_or_dooms_clearEach hmem (Or.inl hmem)).imp_right fun hd => ⟨_, rfl, hd⟩
      · exact Or.inr ⟨_, rfl, h⟩
  | readInvalid user =>
      rw [Store.exec]
      split_ifs with hids hnil
      · exact absurd (hnil ▸ mem_of_members hi hids h) List.not_mem_nil
      · exact Or.inr ⟨_, rfl, mem_of_members hi hids h⟩
      · exact Or.inr ⟨_, rfl, h⟩
  | clear user read first rest =>
      have hleft : id ∈ rest ∨ (s.del [first]).keys id = none := by
        obtain ⟨-, rfl | hrest | hnone⟩ := hsound id h
        · exact Or.inr (s.del_keys_of_mem (List.mem_singleton_self id))
        · exact Or.inl hrest
        · refine Or.inr ?_
          change (if id ∈ [first] then none else s.keys id) = none
          rw [hnone, ite_self]
      exact (gone_or_dooms_clearEach h hleft).imp_right fun hd => ⟨_, rfl, hd⟩
  | clearAll user read => exact Or.inl (s.del_keys_of_mem h)
  | load _ _ _ | refresh _ _ _ | check _ _ _ | drop _ _ _ | rename _ _ | readListed _
  | close _ _ => exact h.elim

end Commands

/-! ### Moves -/

section Moves

variable (U : Unicode) {s : State} {a : Act}

lemma State.spawn_store (s : State) (k : ℕ) (task : Task) (named : Finset Uuid) :
    (s.spawn k task named).store = s.store := by
  rw [State.spawn]
  split_ifs <;> rfl

lemma State.known_subset_spawn (s : State) (k : ℕ) (task : Task) (named : Finset Uuid) :
    s.known ⊆ (s.spawn k task named).known := by
  rw [State.spawn]
  split_ifs
  · exact subset_rfl
  · exact Finset.subset_union_left

lemma State.spawn_tasks_of_some {k j : ℕ} {t : Task} (h : s.tasks k = some t) (task : Task)
    (named : Finset Uuid) : (s.spawn j task named).tasks k = some t := by
  rw [State.spawn]
  split_ifs with hfree
  · exact h
  · have hne : k ≠ j := by
      rintro rfl
      rw [h] at hfree
      exact hfree rfl
    exact (Function.update_of_ne hne _ _).trans h

/-- No identifier is forgotten. -/
lemma State.known_subset_step : s.known ⊆ (s.step U a).known := by
  cases a with
  | createSession id csrf user =>
      rw [State.step]
      split_ifs
      · exact subset_rfl
      · exact Finset.subset_insert _ _
  | lapse id =>
      rw [State.step]
      split_ifs <;> exact subset_rfl
  | arrive k request header cookie => exact s.known_subset_spawn _ _ _
  | invalidate k user => exact s.known_subset_spawn _ _ _
  | run k ids =>
      rw [State.step]
      split <;> exact subset_rfl
  | abort k => exact subset_rfl

/-- A careful move brings no session back and gives none to another user. -/
lemma State.step_settled (h : Tidy s) (hc : Careful s a) :
    Settled s.known s.store (s.step U a).store := by
  cases a with
  | createSession id csrf user =>
      rw [State.step]
      split_ifs with hid
      · exact Settled.refl _ _
      · exact s.store.settled_create hid csrf user
  | lapse id =>
      rw [State.step]
      split_ifs
      · exact (s.store.follows_del [id]).settled _
      · exact Settled.refl _ _
  | arrive k request header cookie =>
      rw [State.step, State.spawn_store]
      exact Settled.refl _ _
  | invalidate k user =>
      rw [State.step, State.spawn_store]
      exact Settled.refl _ _
  | run k ids =>
      rw [State.step]
      cases htask : s.tasks k with
      | none => exact Settled.refl _ _
      | some task =>
          exact (exec_follows U ids (h.sound k task htask) (hc task htask)).settled _
  | abort k => exact Settled.refl _ _

/-- The task in `k` is going to delete the session, or the session is gone for good. -/
def Ending (k : ℕ) (id : Uuid) (s : State) : Prop :=
  id ∈ s.known ∧ (s.store.keys id = none ∨ ∃ t, s.tasks k = some t ∧ t.Dooms s.store id)

lemma Ending.step {k : ℕ} {id : Uuid} (h : Tidy s) (hc : Careful s a) (ha : a ≠ .abort k)
    (he : Ending k id s) : Ending k id (s.step U a) := by
  obtain ⟨hid, hcase⟩ := he
  refine ⟨State.known_subset_step U hid, ?_⟩
  have hsettled := State.step_settled U h hc
  obtain hnone | ⟨t, ht, hd⟩ := hcase
  · exact Or.inl (hsettled.none hid hnone)
  -- a move of others leaves the task in its place
  have hother : (s.step U a).tasks k = some t →
      (s.step U a).store.keys id = none ∨
        ∃ t, (s.step U a).tasks k = some t ∧ t.Dooms (s.step U a).store id :=
    fun htask => (hd.mono hid hsettled).imp_right fun hd => ⟨t, htask, hd⟩
  cases a with
  | createSession new csrf user =>
      refine hother ?_
      rw [State.step]
      split_ifs <;> exact ht
  | lapse i =>
      refine hother ?_
      rw [State.step]
      split_ifs <;> exact ht
  | arrive j request header cookie => exact hother (State.spawn_tasks_of_some ht _ _)
  | invalidate j user => exact hother (State.spawn_tasks_of_some ht _ _)
  | run j ids =>
      by_cases hj : j = k
      · subst hj
        have hexec := exec_dooms U ids h.indexed (h.sound j t ht) hd
        simpa only [State.step, ht, Function.update_self] using hexec
      · refine hother ?_
        rw [State.step]
        split
        · exact (Function.update_of_ne (Ne.symm hj) _ _).trans ht
        · exact ht
  | abort j =>
      refine hother ?_
      have hj : k ≠ j := fun hj => ha (congrArg Act.abort hj.symm)
      exact (Function.update_of_ne hj _ _).trans ht

end Moves

/-! ### Runs -/

/-- A session that is gone stays gone. -/
lemma gone_along (U : Unicode) {id : Uuid} {s : State} {as : List Act} (htidy : Tidy s)
    (hid : id ∈ s.known) (hnone : s.store.keys id = none)
    (h : Along (State.step U) Careful s as) :
    (final (State.step U) s as).store.keys id = none := by
  refine (Along.invariant (I := fun s => Tidy s ∧ id ∈ s.known ∧ s.store.keys id = none)
    ?_ ⟨htidy, hid, hnone⟩ h).2.2
  rintro s a ⟨htidy, hid, hnone⟩ hc
  exact ⟨htidy.step U a hc, State.known_subset_step U hid,
    (State.step_settled U htidy hc).none hid hnone⟩

/-- The task is over after `bs`, and was not cut short. -/
theorem doomed_gone (U : Unicode) {as bs cs : List Act} (k : ℕ) (task : Task) (id : Uuid)
    (h : Along (State.step U) Careful {} (as ++ bs ++ cs))
    (htask : (final (State.step U) {} as).tasks k = some task)
    (hdooms : task.Dooms (final (State.step U) {} as).store id) (habort : .abort k ∉ bs)
    (hover : (final (State.step U) {} (as ++ bs)).tasks k = none) :
    (final (State.step U) {} (as ++ bs ++ cs)).store.keys id = none := by
  obtain ⟨hbs, hcs⟩ := (along_append _ _ _ _).mp h
  obtain ⟨has, hbs'⟩ := (along_append _ _ _ _).mp hbs
  have htidy : ∀ {l : List Act}, Along (State.step U) Careful {} l →
      Tidy (final (State.step U) {} l) := fun hl =>
    Along.invariant (I := Tidy) (fun _ a hs hc => Tidy.step U hs a hc) tidy_start hl
  have hstart : Ending k id (final (State.step U) {} as) :=
    ⟨Task.Dooms.mem_known hdooms ((htidy has).sound k task htask) (htidy has).keys_known,
      Or.inr ⟨task, htask, hdooms⟩⟩
  have hcond : Along (State.step U) (fun s a => Careful s a ∧ a ≠ Act.abort k)
      (final (State.step U) {} as) bs :=
    (along_and _ _ _ _).mpr ⟨hbs', along_of_forall _ fun a ha heq => habort (by rwa [heq] at ha)⟩
  obtain ⟨-, hid, hend⟩ := Along.invariant (I := fun s => Tidy s ∧ Ending k id s)
    (fun s a hs hc => ⟨hs.1.step U a hc.1, hs.2.step U hs.1 hc.1 hc.2⟩) ⟨htidy has, hstart⟩ hcond
  rw [← final_append] at hid hend
  rw [final_append]
  refine gone_along U (htidy hbs) hid (hend.resolve_right ?_) hcs
  rintro ⟨t, ht, -⟩
  rw [hover] at ht
  cases ht

/-- A logout between the commands of an invalidation: both sessions are gone, a later one is
not. -/
theorem doomed_gone_invalidate :
    (final (State.step .ascii) {} ([.createSession 11 "c" ada, .createSession 12 "d" ada,
        .arrive 1 .logout (some "c") 11, .run 1 [], .invalidate 0 1] ++
      [.run 0 [12, 11], .run 1 [], .run 0 [], .run 1 [], .run 0 []] ++
      [.run 1 [], .createSession 13 "e" ada])).store.keys 12 = none :=
  doomed_gone .ascii 0 (.readInvalid 1) 12 (by decide +kernel) rfl
    ⟨{ csrf := some "d", user := ada, expires := true }, by decide, rfl⟩ (by decide)
    (by decide +kernel)

end Vussa.Sessions
