import Vussa.Flow.Rows

/-!
A `SendMessage` event that is sent again after its message was committed, with edits, deletions and
moderations in between. The retry is compared with the view of the row as it is now, and its files
with the array the database returns, whose order the query leaves open.

* `StoredRow`: the row of a payload, in the live channel it was sent to;
* `storedRow_final`: a committed payload keeps its row in every later state;
* `Admits`: the checks in front of the lookup;
* `Answered`: the event is answered with the original message;
* `answered_iff`: **a resent payload is answered with its message iff the checks pass, the client
  identifier is not blank, the row is not deleted and still has the text, and the files come back in
  the order they were sent**.
-/

namespace Vussa.Flow

open Run Effect

/-! ### The committed row -/

/-- The row of a payload: what no statement changes of it. -/
def StoredRow (db : Database) (p : Send) (m : MessageRow) : Prop :=
  m ∈ db.messages ∧ m.ownerSession = p.session ∧ m.clientId = p.key ∧
    m.rootMessageId = p.rootMessageId ∧
    ∃ c, db.liveChannel? p.channel = some c ∧ m.channelId = c.id

lemma StoredRow.grows {db db' : Database} (hg : Grows db db') {p : Send} {m : MessageRow}
    (h : StoredRow db p m) : ∃ m', StoredRow db' p m' ∧ m'.id = m.id := by
  obtain ⟨hm, howner, hclient, hroot, c, hc, hchannel⟩ := h
  obtain ⟨m', hm', hkept⟩ := hg.rows m hm
  refine ⟨m', ⟨hm', hkept.ownerSession.trans howner, hkept.clientId.trans hclient,
    hkept.rootMessageId.trans hroot, c, ?_, hkept.channelId.trans hchannel⟩, hkept.id⟩
  rw [Database.liveChannel?, hg.channels]
  exact hc

/-- What a task knows of the payload it carries. -/
def Task.Faithful (db : Database) : Task → Prop
  | save p message | recover p message => message.channel = p.channel ∧
      message.rootMessageId = p.rootMessageId ∧ message.clientId = p.key
  | note p message => ∃ m, StoredRow db p m ∧ m.id = message.id
  | _ => True

lemma Task.Faithful.grows {db db' : Database} (hg : Grows db db') {task : Task}
    (h : task.Faithful db) : task.Faithful db' := by
  cases task with
  | save p message | recover p message => exact h
  | note p message =>
      obtain ⟨m, hrow, hid⟩ := h
      obtain ⟨m', hrow', hid'⟩ := hrow.grows hg
      exact ⟨m', hrow', hid'.trans hid⟩
  | _ => trivial

lemma Task.Faithful.fail {db : Database} {task : Task} (h : task.Faithful db) :
    task.fail.Faithful db := by
  cases task with
  | save p message => exact h
  | _ => trivial

lemma Task.Faithful.lost {db : Database} {task : Task} (h : task.Faithful db) :
    task.lost.Faithful db := by
  cases task with
  | save p message => exact h
  | _ => trivial

lemma exec_faithful (U : Unicode) (e : Env) (s : State) {task : Task} (h : task.Faithful s.db) :
    (s.exec U e task).2.Faithful (s.exec U e task).1.db := by
  cases task with
  | look p =>
      rw [State.exec]
      split
      next => trivial
      next => exact ⟨rfl, rfl, rfl⟩
      next => trivial
  | save p message =>
      rw [State.exec]
      split
      next db hsave =>
        obtain ⟨hchannel, hroot, hclient⟩ := h
        obtain ⟨c, links, hc, -, rfl⟩ := saveMessage_ok hsave
        rw [hchannel] at hc
        exact ⟨savedRow c message p.session p.user.id,
          ⟨List.mem_append_right _ (List.mem_singleton_self _), rfl, hclient, hroot, c, hc, rfl⟩,
          rfl⟩
      next => exact h
  | check p rest =>
      cases rest with
      | nil => trivial
      | cons c rest =>
          rw [State.exec]
          split <;> trivial
  | recover _ _ | change _ | moderate _ _ _ _ | view _ | publish _ =>
      rw [State.exec]
      split <;> trivial
  | scan _ | range _ | fetch _ _ =>
      simp only [State.exec]
      split_ifs <;> trivial
  | _ => trivial

/-- The rows of the committed payloads, in every state of a run. -/
lemma faithful_final (U : Unicode) {s : State} (htasks : s.tasks = []) (as : List Act) :
    ∀ task ∈ (final (State.step U) s as).tasks,
      task.Faithful (final (State.step U) s as).db := by
  refine final_invariant (I := fun s : State => ∀ task ∈ s.tasks, task.Faithful s.db) ?_
    (by simp [htasks]) as
  intro s a h
  refine forall_tasks_step (P := fun s task => task.Faithful s.db) (fun _ _ _ ht => ht) h ?_ ?_
    (fun _ ht => ht.fail) ?_
  · exact ⟨fun _ _ => trivial, fun _ => trivial, fun _ _ _ _ => trivial, fun _ => trivial⟩
  · intro k e t _ htask
    exact ⟨exec_faithful U e s (h t (List.mem_of_getElem? htask)),
      fun t' ht' => (h t' ht').grows (exec_db U e s t).grows⟩
  · intro k e t _ htask
    exact ⟨((h t (List.mem_of_getElem? htask)).grows (exec_db U e s t).grows).lost,
      fun t' ht' => (h t' ht').grows (exec_db U e s t).grows⟩

/-- A committed payload keeps its row in every later state. -/
lemma storedRow_final (U : Unicode) {s : State} (htasks : s.tasks = []) (as bs : List Act)
    {p : Send} {message : ChatMessage}
    (hcommit : .note p message ∈ (final (State.step U) s as).tasks) :
    ∃ m, StoredRow (final (State.step U) s (as ++ bs)).db p m ∧ m.id = message.id := by
  obtain ⟨m, hrow, hid⟩ := faithful_final U htasks as _ hcommit
  rw [final_append]
  obtain ⟨m', hrow', hid'⟩ := hrow.grows (grows_final U (final (State.step U) s as) bs)
  exact ⟨m', hrow', hid'.trans hid⟩

/-! ### The lookup -/

/-- The lookup finds the row of the payload. -/
lemma StoredRow.find {db : Database} (hs : Schema db) {p : Send} {m : MessageRow}
    (h : StoredRow db p m) {clientId : String} (hkey : p.key = some clientId) :
    findMessageByClientId db p.session clientId = some (db.view p.channel m) := by
  obtain ⟨hm, howner, hclient, -, c, hc, hchannel⟩ := h
  obtain ⟨hcmem, hcname, hclive⟩ := Database.liveChannel?_some hc
  have hjoin : (db.channels.find? fun c => c.id = m.channelId ∧ c.deletedAt = none) = some c := by
    have hsome : (db.channels.find? fun c => c.id = m.channelId ∧ c.deletedAt = none).isSome := by
      rw [List.find?_isSome]
      exact ⟨c, hcmem, by simp [hchannel, hclive]⟩
    obtain ⟨c', hc'⟩ := Option.isSome_iff_exists.mp hsome
    have hp := List.find?_some hc'
    simp only [decide_eq_true_eq] at hp
    rw [hc', List.inj_on_of_nodup_map hs.wellFormed.channelId (List.mem_of_find?_eq_some hc') hcmem
      (hp.1.trans hchannel)]
  rw [hkey] at hclient
  have hsome : (findMessageByClientId db p.session clientId).isSome := by
    rw [findMessageByClientId, List.findSome?_isSome_iff]
    refine ⟨m, hm, ?_⟩
    rw [if_pos ⟨howner, hclient⟩, hjoin]
    rfl
  obtain ⟨found, hfound⟩ := Option.isSome_iff_exists.mp hsome
  obtain ⟨m', hm', hview⟩ := List.exists_of_findSome?_eq_some hfound
  split_ifs at hview with hmatch
  -- the index leaves no other row with the identifier
  obtain rfl : m' = m := hs.client m' hm' m hm (hmatch.1.trans howner.symm)
    (hmatch.2.trans hclient.symm) (by rw [hmatch.2]; rfl)
  rw [hjoin, Option.map_some, hcname] at hview
  rw [hfound, hview]

/-- The comparison of the lookup, for a text that is not empty. -/
lemma sameMessage_iff {db : Database} {p : Send} {m : MessageRow} (h : StoredRow db p m)
    {text : String} (htext : text ≠ "") :
    SameMessage (db.view p.channel m) p.channel text p.rootMessageId p.fileIds ↔
      m.deletedAt = none ∧ m.text = text ∧ db.fileIds m.id = p.fileIds := by
  obtain ⟨-, -, -, hroot, -⟩ := h
  have hview : (db.view p.channel m).text = text ↔ m.deletedAt = none ∧ m.text = text := by
    change (if m.deletedAt = none then m.text else "") = text ↔ _
    split_ifs with hdeleted
    · exact (and_iff_right hdeleted).symm
    · exact ⟨fun heq => absurd heq.symm htext, fun heq => absurd heq.1 hdeleted⟩
  refine ⟨?_, ?_⟩
  · rintro ⟨-, hsame, -, hfiles⟩
    exact ⟨(hview.mp hsame).1, (hview.mp hsame).2, hfiles⟩
  · rintro ⟨hdeleted, hsame, hfiles⟩
    exact ⟨rfl, hview.mpr ⟨hdeleted, hsame⟩, hroot, hfiles⟩

/-! ### The event -/

/-- The checks in front of the lookup. -/
structure Admits (s : Shared) (p : Send) : Prop where
  permission : requirePermission p.user .chatWrite = .ok ()
  rate : s.rates p.user.id < 60
  access : ensureChannelAccess s.db s.now p.channel p.user.id = .ok ()
  posting : ensureChannelPostingAccess s.db p.channel p.user = .ok ()
  text : (messageText p.text).isOk
  files : ensureFiles s.db p.user.id p.fileIds = .ok ()

/-- The event of a payload. -/
def Send.run (U : Unicode) (p : Send) (fresh : Uuid) (s : Shared) :
    EStateM.Result AppError Shared Reply :=
  (sendMessage U fresh p.user p.session p.channel p.text p.rootMessageId p.clientId
    p.fileIds).run s

/-- The event is answered with the message of the identifier. -/
def Answered (U : Unicode) (p : Send) (fresh : Uuid) (s : Shared) (id : Uuid) : Prop :=
  ∃ existing s', p.run U fresh s = .ok { sent := [.message existing] } s' ∧ existing.id = id

lemma messageText_ok {raw text : String} (h : messageText raw = .ok text) :
    text = trim raw ∧ trim raw ≠ "" := by
  rw [messageText] at h
  split_ifs at h with hbad
  rw [not_or] at hbad
  exact ⟨(Except.ok.inj h).symm, hbad.1⟩

/-- What follows the lookup. -/
def Send.rest (U : Unicode) (p : Send) (fresh : Uuid) : Option ChatMessage → App Reply
  | some existing => return { sent := [.message existing] }
  | none => do
      let outcome ← transact (insertOrFind U fresh p.user p.session p.channel (trim p.text)
        p.rootMessageId p.key p.fileIds)
      match outcome with
      | .inl message => do
          broadcast p.channel (.message message)
          return {}
      | .inr existing => return { sent := [.message existing] }

/-- An event that returned passed its checks and its lookup. -/
lemma Send.run_ok_iff (U : Unicode) (p : Send) (fresh : Uuid) (s s' : Shared) (r : Reply) :
    p.run U fresh s = .ok r s' ↔ Admits s p ∧ ∃ retried, p.find s.db = .ok retried ∧
      (p.rest U fresh retried).run (s.countRate p.user.id) = .ok r s' := by
  have hcount : ∀ f : PUnit → App Reply, (enforceRateLimit p.user.id >>= f).run s = .ok r s' ↔
      s.rates p.user.id < 60 ∧ (f ⟨⟩).run (s.countRate p.user.id) = .ok r s' := by
    intro f
    rw [enforceRateLimit, bind_assoc, run_bind, run_update, read_bind_run_ok_iff]
    simp only [Shared.countRate_rates]
    split_ifs with hrate
    · exact ⟨fun ⟨_, hok, _⟩ => (nomatch hok), fun h => absurd h.1 (by omega)⟩
    · exact ⟨fun ⟨_, _, h⟩ => ⟨by omega, h⟩, fun h => ⟨⟨⟩, rfl, h.2⟩⟩
  refine ⟨?_, ?_⟩
  · intro h
    obtain ⟨_, hperm, h⟩ := read_bind_run_ok_iff.mp h
    obtain ⟨hrate, h⟩ := (hcount _).mp h
    obtain ⟨_, haccess, h⟩ := read_bind_run_ok_iff.mp h
    obtain ⟨_, hposting, h⟩ := read_bind_run_ok_iff.mp h
    obtain ⟨text, htext, h⟩ := read_bind_run_ok_iff.mp h
    obtain ⟨_, hfiles, h⟩ := read_bind_run_ok_iff.mp h
    obtain ⟨retried, hfound, h⟩ := read_bind_run_ok_iff.mp h
    obtain ⟨rfl, -⟩ := messageText_ok htext
    have hok : (messageText p.text).isOk := by rw [htext]; rfl
    refine ⟨⟨hperm, hrate, haccess, hposting, hok, hfiles⟩, retried, hfound, ?_⟩
    cases retried with
    | some existing => exact h
    | none => exact h
  · rintro ⟨⟨hperm, hrate, haccess, hposting, hok, hfiles⟩, retried, hfound, h⟩
    obtain ⟨text, htext⟩ := isOk_iff.mp hok
    obtain ⟨rfl, -⟩ := messageText_ok htext
    refine read_bind_run_ok_iff.mpr ⟨⟨⟩, hperm, (hcount _).mpr ⟨hrate, ?_⟩⟩
    refine read_bind_run_ok_iff.mpr ⟨⟨⟩, haccess, read_bind_run_ok_iff.mpr ⟨⟨⟩, hposting, ?_⟩⟩
    refine read_bind_run_ok_iff.mpr ⟨_, htext, read_bind_run_ok_iff.mpr ⟨⟨⟩, hfiles, ?_⟩⟩
    refine read_bind_run_ok_iff.mpr ⟨retried, hfound, ?_⟩
    cases retried with
    | some existing => exact h
    | none => exact h

/-- Without a client identifier nothing is looked up. -/
lemma Send.find_none {db : Database} {p : Send} (hkey : p.key = none) : p.find db = .ok none := by
  rw [Send.find, findRetried, hkey]
  rfl

/-- A new message is not sent back to its socket. -/
lemma not_answered_of_no_key (U : Unicode) {p : Send} (hkey : p.key = none) (fresh : Uuid)
    (s : Shared) (id : Uuid) : ¬ Answered U p fresh s id := by
  rintro ⟨existing, s', hrun, -⟩
  obtain ⟨-, retried, hfound, hrest⟩ := (p.run_ok_iff U fresh s s' _).mp hrun
  rw [Send.find_none hkey] at hfound
  obtain rfl := Except.ok.inj hfound
  obtain ⟨outcome, s1, htransact, hrest⟩ := bind_run_ok hrest
  have hok := transact_run_ok htransact
  rw [insertOrFind] at hok
  split at hok
  · obtain ⟨-, rfl⟩ := Prod.mk.inj (Except.ok.inj hok)
    obtain ⟨-, s2, -, hrest⟩ := bind_run_ok hrest
    rw [run_pure, EStateM.Result.ok.injEq] at hrest
    exact absurd hrest.1 (by simp)
  · -- the second lookup finds nothing either
    rw [show findRetried _ _ p.key _ _ _ _ = .ok none from Send.find_none hkey] at hok
    exact absurd hok (by simp)

/-- The event, when the row of its payload is there. -/
lemma answered_iff_of_row (U : Unicode) {p : Send} {t : Shared} (hs : Schema t.db) {m : MessageRow}
    (hrow : StoredRow t.db p m) (fresh : Uuid) :
    Answered U p fresh t m.id ↔ Admits t p ∧ p.key.isSome ∧ m.deletedAt = none ∧
      m.text = trim p.text ∧ t.db.fileIds m.id = p.fileIds := by
  cases hkey : p.key with
  | none =>
      refine ⟨fun h => absurd h (not_answered_of_no_key U hkey fresh t m.id), fun h => ?_⟩
      exact absurd h.2.1 (by simp)
  | some clientId =>
      have hfind : p.find t.db = if SameMessage (t.db.view p.channel m) p.channel (trim p.text)
          p.rootMessageId p.fileIds then .ok (some (t.db.view p.channel m))
          else .error (.badRequest "client_id was already used for a different message") := by
        rw [Send.find, findRetried, hkey, Option.bind_some, hrow.find hs hkey]
      refine ⟨?_, ?_⟩
      · rintro ⟨existing, s', hrun, -⟩
        obtain ⟨hadmits, retried, hfound, -⟩ := (p.run_ok_iff U fresh t s' _).mp hrun
        obtain ⟨text, htext⟩ := isOk_iff.mp hadmits.text
        rw [hfind] at hfound
        split_ifs at hfound with hsame
        exact ⟨hadmits, rfl, (sameMessage_iff hrow (messageText_ok htext).2).mp hsame⟩
      · rintro ⟨hadmits, -, hsame⟩
        obtain ⟨text, htext⟩ := isOk_iff.mp hadmits.text
        rw [if_pos ((sameMessage_iff hrow (messageText_ok htext).2).mpr hsame)] at hfind
        exact ⟨_, _, (p.run_ok_iff U fresh t _ _).mpr ⟨hadmits, _, hfind, rfl⟩, rfl⟩

/-- A payload was committed, and anything happened since; the database returns the links of messages
and files as `links`. The payload sent again is answered with its message iff the checks pass, its
client identifier is not blank, and the row is not deleted, has the text, and returns the files as
they were sent. -/
theorem answered_iff (U : Unicode) {s : State} (hdb : Schema s.db) (htasks : s.tasks = [])
    (as bs : List Act) (p : Send) (message : ChatMessage)
    (hcommit : .note p message ∈ (final (State.step U) s as).tasks) (t : Shared)
    (links : List MessageFileRow)
    (ht : t.db = { (final (State.step U) s (as ++ bs)).db with messageFiles := links })
    (fresh : Uuid) :
    Answered U p fresh t message.id ↔ Admits t p ∧ p.key.isSome ∧
      ∃ m ∈ t.db.messages, m.id = message.id ∧ m.deletedAt = none ∧ m.text = trim p.text ∧
        t.db.fileIds m.id = p.fileIds := by
  have hschema : Schema (final (State.step U) s (as ++ bs)).db :=
    final_invariant (I := fun s : State => Schema s.db) (fun _ a h => schema_step U h a) hdb _
  have hs : Schema t.db := by
    rw [ht]
    exact ⟨hschema.wellFormed.congr rfl rfl, hschema.client⟩
  obtain ⟨m, hrow, hid⟩ := storedRow_final U htasks as bs hcommit
  have hrow' : StoredRow t.db p m := by
    rw [ht]
    exact hrow
  rw [← hid, answered_iff_of_row U hs hrow' fresh]
  refine and_congr_right fun _ => and_congr_right fun _ => ⟨?_, ?_⟩
  · intro h
    exact ⟨m, hrow'.1, rfl, h⟩
  · rintro ⟨m', hm', hid', h⟩
    rwa [hs.wellFormed.eq_of_id hm' hrow'.1 hid'] at h

/-! ### An edit in between -/

/-- The message is committed. -/
def committed : List Act :=
  .send (greeting "c") :: runs 8 0 10 21

/-- Its session edits it. -/
def edited : List Act :=
  [.change (.edit "main" 21 5 "ho"), .run 1 { now := 11, id := 22 }]

/-- The shared state after some moves. -/
def sharedAfter (as : List Act) : Shared where
  db := (final (State.step .ascii) quietHall as).db
  now := 12

theorem answered_committed :
    Task.note (greeting "c") greeted
        ∈ (final (State.step .ascii) quietHall committed).tasks ∧
      Answered .ascii (greeting "c") 23 (sharedAfter (committed ++ [])) greeted.id := by
  have hcommit : Task.note (greeting "c") greeted
      ∈ (final (State.step .ascii) quietHall committed).tasks := by decide +kernel
  have hadmits : Admits (sharedAfter (committed ++ [])) (greeting "c") :=
    ⟨by decide +kernel, by decide +kernel, by decide +kernel, by decide +kernel,
      by decide +kernel, by decide +kernel⟩
  have hrow : ∃ m ∈ (sharedAfter (committed ++ [])).db.messages, m.id = greeted.id ∧
      m.deletedAt = none ∧ m.text = trim (greeting "c").text ∧
      (sharedAfter (committed ++ [])).db.fileIds m.id = (greeting "c").fileIds := by
    decide +kernel
  exact ⟨hcommit, (answered_iff .ascii schema_hall rfl committed [] _ _ hcommit
    (sharedAfter (committed ++ [])) [] rfl 23).mpr ⟨hadmits, by decide +kernel, hrow⟩⟩

/-- After the edit the same payload passes every check and is refused. -/
theorem edited_not_answered :
    Schema quietHall.db ∧
      Task.note (greeting "c") greeted
        ∈ (final (State.step .ascii) quietHall committed).tasks ∧
      Admits (sharedAfter (committed ++ edited)) (greeting "c") ∧
      ¬ Answered .ascii (greeting "c") 23 (sharedAfter (committed ++ edited)) greeted.id := by
  refine ⟨schema_hall, by decide +kernel, ⟨by decide +kernel, by decide +kernel, by decide +kernel,
    by decide +kernel, by decide +kernel, by decide +kernel⟩, ?_⟩
  rintro ⟨existing, s', hrun, -⟩
  obtain ⟨-, retried, hfound, -⟩ := ((greeting "c").run_ok_iff .ascii 23 _ s' _).mp hrun
  have hrefused : (greeting "c").find (sharedAfter (committed ++ edited)).db =
      .error (.badRequest "client_id was already used for a different message") := by
    decide +kernel
  rw [hrefused] at hfound
  cases hfound

end Vussa.Flow
