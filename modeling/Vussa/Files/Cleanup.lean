import Vussa.Files.Model

/-!
What the cleanup loop leaves alone. A pass claims files without a committed link and does not look
again, so a file is safe as long as no pass has claimed it when its message commits.

* `Kept`: every attachment of a committed message has its row, its link and its blob;
* `Attached`: an attachment that has these and that no pass is about to delete;
* `Sound`, `Sound.step`: what every step keeps, if it commits only attachments that no pass has;
* `attachments_kept`: **along such steps every committed attachment stays**; `claimed_lost` is the
  run that loses one to a pass between its check and its commit.
-/

namespace Vussa.Files

open Run

/-! ### What is kept -/

/-- Every attachment of a committed message has its row with a blob, and its link. -/
def Kept (s : State) : Prop :=
  ∀ m ∈ s.messages, ∀ id ∈ m.fileIds,
    (∃ f ∈ s.files, f.id = id ∧ f.storageKey ∈ s.blobs) ∧ ⟨m.id, id⟩ ∈ s.messageFiles

/-- The files a pass has claimed and whose blobs it has not yet dealt with. -/
def Pass.rest : Pass → List (Uuid × StorageKey)
  | .blobs rest | .metadata _ rest => rest

/-- The blob of a file is there, and no pass is about to delete it or the row. -/
def Untouched (s : State) (id : Uuid) : Prop :=
  ⟨id⟩ ∈ s.blobs ∧ ∀ p ∈ s.passes, id ∉ p.pending

instance (s : State) (id : Uuid) : Decidable (Untouched s id) :=
  inferInstanceAs (Decidable (_ ∧ _))

/-- All links are written, and the commit is next. -/
def Send.complete (send : Send) : Bool :=
  match send.stage with
  | .saving _ rest => rest.isEmpty
  | .checked => false

/-- No pass has an attachment of the message. -/
def AllUntouched (s : State) (message : Message) : Prop := ∀ id ∈ message.fileIds, Untouched s id

instance (s : State) (message : Message) : Decidable (AllUntouched s message) :=
  List.decidableBAll (Untouched s) message.fileIds

/-- The condition on a step: a message is committed only while no pass has an attachment of it. -/
def Careful (s : State) : Act → Prop
  | .commit k => ∀ send ∈ s.sends[k]?, send.complete → AllUntouched s send.message
  | _ => True

instance (s : State) : ∀ a, Decidable (Careful s a)
  | .commit k => inferInstanceAs
      (Decidable (∀ send ∈ s.sends[k]?, send.complete → AllUntouched s send.message))
  | .upload _ _ _ | .check _ _ | .insertMessage _ | .insertLink _ | .loseSend _ | .claim _
  | .deleteBlob _ _ _ | .deleteMetadata _ _ | .losePass _ | .removeMessage _ => isTrue trivial

/-- An attachment with its row and link, and out of reach of the passes. -/
structure Attached (s : State) (messageId id : Uuid) : Prop where
  row : ∃ f ∈ s.files, f.id = id
  link : ⟨messageId, id⟩ ∈ s.messageFiles
  untouched : Untouched s id

/-- What holds at every instant: the keys name their files, an open transaction has linked its ids
in their order and only to files that are there, and the committed attachments are out of reach. -/
structure Sound (s : State) : Prop where
  key : ∀ f ∈ s.files, f.storageKey = ⟨f.id⟩
  passKey : ∀ p ∈ s.passes, ∀ e ∈ p.rest, e.2 = ⟨e.1⟩
  linked : ∀ send ∈ s.sends, ∀ linked rest, send.stage = .saving linked rest →
    linked ++ rest = send.message.fileIds
  locked : ∀ send ∈ s.sends, ∀ id, send.Locks id → ∃ f ∈ s.files, f.id = id
  attached : ∀ m ∈ s.messages, ∀ id ∈ m.fileIds, Attached s m.id id

lemma Sound.kept {s : State} (h : Sound s) : Kept s := by
  intro m hm id hid
  obtain ⟨⟨f, hf, rfl⟩, hlink, hblob, -⟩ := h.attached m hm id hid
  exact ⟨⟨f, hf, rfl, h.key f hf ▸ hblob⟩, hlink⟩

/-! ### The statements -/

variable {files : List FileRow} {links : List MessageFileRow} {now olderThan : ℤ} {id : Uuid}

lemma mem_claimed_files {f : FileRow} (h : f ∈ (claimOrphanFiles now olderThan files links).1) :
    ∃ g ∈ files, g.id = f.id ∧ g.storageKey = f.storageKey := by
  obtain ⟨g, hg, rfl⟩ := List.mem_map.mp h
  exact ⟨g, hg, by split_ifs <;> rfl, by split_ifs <;> rfl⟩

/-- A claim leaves the rows in place. -/
lemma row_claimed (h : ∃ f ∈ files, f.id = id) :
    ∃ f ∈ (claimOrphanFiles now olderThan files links).1, f.id = id := by
  obtain ⟨f, hf, rfl⟩ := h
  exact ⟨_, List.mem_map_of_mem hf, by split_ifs <;> rfl⟩

/-- A claim returns only files without a committed link. -/
lemma claimed_unlinked {e : Uuid × StorageKey}
    (h : e ∈ (claimOrphanFiles now olderThan files links).2) :
    (∃ f ∈ files, e = (f.id, f.storageKey)) ∧ ∀ l ∈ links, l.fileId ≠ e.1 := by
  obtain ⟨f, hf, rfl⟩ := List.mem_map.mp h
  obtain ⟨hmem, horphan⟩ := List.mem_filter.mp hf
  exact ⟨⟨f, hmem, rfl⟩, (of_decide_eq_true horphan).2⟩

/-- A deletion leaves the rows and links of every other file. -/
lemma row_deleted (links : List MessageFileRow) {id' : Uuid} (hne : id ≠ id')
    (h : ∃ f ∈ files, f.id = id) :
    ∃ f ∈ (deleteFileMetadata id' files links).1, f.id = id := by
  obtain ⟨f, hf, rfl⟩ := h
  exact ⟨f, List.mem_filter.mpr ⟨hf, decide_eq_true fun hmarked => hne hmarked.1⟩, rfl⟩

lemma link_deleted {id' : Uuid} {l : MessageFileRow} (hne : l.fileId ≠ id') (h : l ∈ links) :
    l ∈ (deleteFileMetadata id' files links).2 := by
  rw [deleteFileMetadata]
  split_ifs
  · exact List.mem_filter.mpr ⟨h, decide_eq_true hne⟩
  · exact h

/-! ### The steps -/

namespace Sound

variable {s : State} {k : ℕ}

/-- The sends change, and the links and locks of each stay right. -/
lemma withSends (h : Sound s) {sends : List Send}
    (hlinked : ∀ send ∈ sends, ∀ linked rest, send.stage = .saving linked rest →
      linked ++ rest = send.message.fileIds)
    (hlocked : ∀ send ∈ sends, ∀ id, send.Locks id → ∃ f ∈ s.files, f.id = id) :
    Sound { s with sends } where
  key := h.key
  passKey := h.passKey
  linked := hlinked
  locked := hlocked
  attached m hm id hid :=
    { row := (h.attached m hm id hid).row
      link := (h.attached m hm id hid).link
      untouched := (h.attached m hm id hid).untouched }

/-- One send more, or one that goes on. -/
lemma withSend (h : Sound s) {sends : List Send} (send : Send)
    (hmem : ∀ x ∈ sends, x ∈ s.sends ∨ x = send)
    (hlinked : ∀ linked rest, send.stage = .saving linked rest →
      linked ++ rest = send.message.fileIds)
    (hlocked : ∀ id, send.Locks id → ∃ f ∈ s.files, f.id = id) : Sound { s with sends } := by
  refine h.withSends (fun x hx => ?_) (fun x hx => ?_)
  · rcases hmem x hx with hold | rfl
    · exact h.linked x hold
    · exact hlinked
  · rcases hmem x hx with hold | rfl
    · exact h.locked x hold
    · exact hlocked

lemma eraseSend (h : Sound s) : Sound { s with sends := s.sends.eraseIdx k } :=
  h.withSends (fun x hx => h.linked x (List.mem_of_mem_eraseIdx hx))
    (fun x hx => h.locked x (List.mem_of_mem_eraseIdx hx))

lemma upload (h : Sound s) (id uploaderUserId : Uuid) (createdAt : ℤ) :
    Sound (step s (.upload id uploaderUserId createdAt)) := by
  rw [step]
  split_ifs with hid
  · exact h
  · have hrow : ∀ {x : Uuid}, (∃ f ∈ s.files, f.id = x) →
        ∃ f ∈ s.files ++ [{ id, uploaderUserId, storageKey := ⟨id⟩, createdAt }], f.id = x := by
      rintro _ ⟨f, hf, rfl⟩
      exact ⟨f, List.mem_append_left _ hf, rfl⟩
    refine ⟨fun f hf => ?_, h.passKey, h.linked, fun send hsend x hx =>
      hrow (h.locked send hsend x hx), fun m hm x hx => ?_⟩
    · rcases List.mem_append.mp hf with hold | hnew
      · exact h.key f hold
      · rw [List.mem_singleton.mp hnew]
    · obtain ⟨hfile, hlink, hblob, hfree⟩ := h.attached m hm x hx
      exact ⟨hrow hfile, hlink, List.mem_cons_of_mem _ hblob, hfree⟩

lemma insertLink (h : Sound s) {send : Send}
    (hsend : s.sends[k]?.bind (Files.insertLink s.files) = some send) :
    Sound { s with sends := s.sends.set k send } := by
  obtain ⟨⟨message, stage⟩, hk, hnext⟩ := Option.bind_eq_some_iff.mp hsend
  have hmem := List.mem_of_getElem? hk
  rw [Files.insertLink] at hnext
  split at hnext
  · rename_i linked id rest hstage
    obtain rfl : stage = .saving linked (id :: rest) := hstage
    split_ifs at hnext with hfile
    cases hnext
    refine h.withSend _ (fun x hx => List.mem_or_eq_of_mem_set hx) (fun linked' rest' hsame => ?_)
      (fun x hx => ?_)
    · cases hsame
      rw [List.append_assoc]
      exact h.linked _ hmem linked (id :: rest) rfl
    · rcases List.mem_append.mp (show x ∈ linked ++ [id] from hx) with hold | hnew
      · exact h.locked _ hmem x hold
      · rw [List.mem_singleton.mp hnew]
        exact hfile
  · cases hnext

lemma commit (h : Sound s) {message : Message} {linked : List Uuid}
    (hk : s.sends[k]? = some ⟨message, .saving linked []⟩)
    (hfree : AllUntouched s message) :
    Sound { s with
      messages := s.messages ++ [message]
      messageFiles := s.messageFiles ++ linked.map fun id => ⟨message.id, id⟩
      sends := s.sends.eraseIdx k } := by
  have hmem := List.mem_of_getElem? hk
  have hall : linked = message.fileIds :=
    (List.append_nil linked).symm.trans (h.linked _ hmem linked [] rfl)
  have hsends := h.eraseSend (k := k)
  refine ⟨h.key, h.passKey, hsends.linked, hsends.locked, fun m hm id hid => ?_⟩
  rcases List.mem_append.mp hm with hold | hnew
  · obtain ⟨hrow, hlink, huntouched⟩ := h.attached m hold id hid
    exact ⟨hrow, List.mem_append_left _ hlink, huntouched⟩
  · obtain rfl := List.mem_singleton.mp hnew
    have hlinked : id ∈ linked := hall ▸ hid
    exact ⟨h.locked _ hmem id hlinked,
      List.mem_append_right _ (List.mem_map_of_mem hlinked), hfree id hid⟩

lemma claim (h : Sound s) (now : ℤ) : Sound (step s (.claim now)) := by
  refine ⟨fun f hf => ?_, fun p hp e he => ?_, h.linked,
    fun send hsend id hid => row_claimed (h.locked send hsend id hid), fun m hm id hid => ?_⟩
  · obtain ⟨g, hg, hgid, hgkey⟩ := mem_claimed_files hf
    rw [← hgkey, h.key g hg, hgid]
  · rcases List.mem_append.mp hp with hold | hnew
    · exact h.passKey p hold e he
    · rw [List.mem_singleton.mp hnew] at he
      obtain ⟨⟨f, hf, rfl⟩, -⟩ := claimed_unlinked he
      exact h.key f hf
  · obtain ⟨hrow, hlink, hblob, hfree⟩ := h.attached m hm id hid
    refine ⟨row_claimed hrow, hlink, hblob, fun p hp hpending => ?_⟩
    rcases List.mem_append.mp hp with hold | hnew
    · exact hfree p hold hpending
    · rw [List.mem_singleton.mp hnew] at hpending
      obtain ⟨e, he, rfl⟩ := List.mem_map.mp hpending
      exact (claimed_unlinked he).2 _ hlink rfl

/-- A pass goes on to files it had before it. -/
lemma passKey_set (h : Sound s) {p p' : Pass} (hp : s.passes[k]? = some p)
    (hsub : p'.rest ⊆ p.rest) : ∀ q ∈ s.passes.set k p', ∀ e ∈ q.rest, e.2 = ⟨e.1⟩ := by
  intro q hq e he
  rcases List.mem_or_eq_of_mem_set hq with hold | rfl
  · exact h.passKey q hold e he
  · exact h.passKey p (List.mem_of_getElem? hp) e (hsub he)

lemma pending_set {id : Uuid} (h : ∀ q ∈ s.passes, id ∉ q.pending) {p p' : Pass}
    (hp : s.passes[k]? = some p) (hsub : p'.pending ⊆ p.pending) :
    ∀ q ∈ s.passes.set k p', id ∉ q.pending := by
  intro q hq
  rcases List.mem_or_eq_of_mem_set hq with hold | rfl
  · exact h q hold
  · exact fun hmem => h p (List.mem_of_getElem? hp) (hsub hmem)

lemma deleteBlob (h : Sound s) {id : Uuid} {key : StorageKey} {rest : List (Uuid × StorageKey)}
    (hp : s.passes[k]? = some (.blobs ((id, key) :: rest))) (ok gone : Bool) :
    Sound { s with
      blobs := if ok ∨ gone then s.blobs.filter fun b => b ≠ key else s.blobs
      passes := s.passes.set k (if ok then .metadata id rest else .blobs rest) } := by
  have hkey : key = ⟨id⟩ := h.passKey _ (List.mem_of_getElem? hp) (id, key) List.mem_cons_self
  have hrest : (if ok then Pass.metadata id rest else .blobs rest).rest ⊆
      (Pass.blobs ((id, key) :: rest)).rest := by
    split_ifs <;> exact List.subset_cons_self _ _
  have hpending : (if ok then Pass.metadata id rest else .blobs rest).pending ⊆
      (Pass.blobs ((id, key) :: rest)).pending := by
    split_ifs
    · exact List.Subset.refl _
    · exact List.subset_cons_self _ _
  refine ⟨h.key, h.passKey_set hp hrest, h.linked, h.locked, fun m hm x hx => ?_⟩
  obtain ⟨hrow, hlink, hblob, hfree⟩ := h.attached m hm x hx
  refine ⟨hrow, hlink, ?_, pending_set hfree hp hpending⟩
  -- the blob that goes is another one's
  have hne : x ≠ id := fun heq =>
    hfree _ (List.mem_of_getElem? hp) (heq ▸ List.mem_cons_self)
  have hother : (⟨x⟩ : StorageKey) ≠ key := fun heq =>
    hne (StorageKey.mk.inj (heq.trans hkey))
  change ⟨x⟩ ∈ if ok ∨ gone then s.blobs.filter fun b => b ≠ key else s.blobs
  split_ifs
  · exact List.mem_filter.mpr ⟨hblob, decide_eq_true hother⟩
  · exact hblob

lemma deleteMetadata (h : Sound s) {id : Uuid} {rest : List (Uuid × StorageKey)}
    (hp : s.passes[k]? = some (.metadata id rest)) (hfree : ¬ ∃ send ∈ s.sends, send.Locks id) :
    Sound { s with
      files := (deleteFileMetadata id s.files s.messageFiles).1
      messageFiles := (deleteFileMetadata id s.files s.messageFiles).2
      passes := s.passes.set k (.blobs rest) } := by
  refine ⟨fun f hf => h.key f (List.mem_of_mem_filter hf),
    h.passKey_set hp (List.Subset.refl _), h.linked, fun send hsend x hx => ?_,
    fun m hm x hx => ?_⟩
  · have hne : x ≠ id := fun heq => hfree ⟨send, hsend, heq ▸ hx⟩
    exact row_deleted s.messageFiles hne (h.locked send hsend x hx)
  · obtain ⟨hrow, hlink, hblob, hpasses⟩ := h.attached m hm x hx
    have hne : x ≠ id := fun heq =>
      hpasses _ (List.mem_of_getElem? hp) (heq ▸ List.mem_cons_self)
    exact ⟨row_deleted s.messageFiles hne hrow, link_deleted hne hlink, hblob,
      pending_set hpasses hp (List.subset_cons_self _ _)⟩

/-- A pass moves on or ends, and nothing else changes. -/
lemma withPasses (h : Sound s) {passes : List Pass}
    (hkey : ∀ q ∈ passes, ∀ e ∈ q.rest, e.2 = ⟨e.1⟩)
    (hpending : ∀ id, (∀ q ∈ s.passes, id ∉ q.pending) → ∀ q ∈ passes, id ∉ q.pending) :
    Sound { s with passes } where
  key := h.key
  passKey := hkey
  linked := h.linked
  locked := h.locked
  attached m hm id hid :=
    { row := (h.attached m hm id hid).row
      link := (h.attached m hm id hid).link
      untouched := ⟨(h.attached m hm id hid).untouched.1,
        hpending id (h.attached m hm id hid).untouched.2⟩ }

lemma removeMessage (h : Sound s) (id : Uuid) : Sound (step s (.removeMessage id)) := by
  refine ⟨h.key, h.passKey, h.linked, h.locked, fun m hm x hx => ?_⟩
  obtain ⟨hmem, hid⟩ := List.mem_filter.mp hm
  obtain ⟨hrow, hlink, huntouched⟩ := h.attached m hmem x hx
  exact ⟨hrow, List.mem_filter.mpr ⟨hlink, decide_eq_true (of_decide_eq_true hid)⟩, huntouched⟩

/-- **Every careful step** keeps the committed attachments out of reach. -/
theorem step (h : Sound s) (a : Act) (hcareful : Careful s a) : Sound (step s a) := by
  cases a with
  | upload id uploaderUserId createdAt => exact h.upload id uploaderUserId createdAt
  | check userId message =>
      rw [Files.step]
      split_ifs
      · refine h.withSend { message } (fun x hx => ?_) (fun _ _ hstage => by cases hstage)
          fun _ hlocks => hlocks.elim
        exact (List.mem_append.mp hx).imp_right List.mem_singleton.mp
      · exact h
  | insertMessage k =>
      rw [Files.step]
      split
      · rename_i message hk
        refine h.withSend _ (fun x hx => List.mem_or_eq_of_mem_set hx)
          (fun linked rest hstage => ?_) fun _ hlocks => absurd hlocks List.not_mem_nil
        cases hstage
        rfl
      · exact h
  | insertLink k =>
      rw [Files.step]
      split
      · rename_i send hsend
        exact h.insertLink hsend
      · exact h
  | commit k =>
      rw [Files.step]
      split
      · rename_i message linked hk
        exact h.commit hk (hcareful _ hk rfl)
      · exact h
  | loseSend k => exact h.eraseSend
  | claim now => exact h.claim now
  | deleteBlob k ok gone =>
      rw [Files.step]
      split
      · rename_i id key rest hp
        exact h.deleteBlob hp ok gone
      · exact h
  | deleteMetadata k ok =>
      rw [Files.step]
      split
      · rename_i id rest hp
        split_ifs with hok hlocked
        · exact h
        · exact h.deleteMetadata hp hlocked
        · exact h.withPasses (h.passKey_set hp (List.Subset.refl _)) fun _ hfree =>
            pending_set hfree hp (List.subset_cons_self _ _)
      · exact h
  | losePass k =>
      exact h.withPasses (fun q hq => h.passKey q (List.mem_of_mem_eraseIdx hq)) fun _ hfree q hq =>
        hfree q (List.mem_of_mem_eraseIdx hq)
  | removeMessage id => exact h.removeMessage id

lemma init : Sound {} where
  key _ h := absurd h List.not_mem_nil
  passKey _ h := absurd h List.not_mem_nil
  linked _ h := absurd h List.not_mem_nil
  locked _ h := absurd h List.not_mem_nil
  attached _ h := absurd h List.not_mem_nil

end Sound

/-! ### Every run -/

/-- **Along every run that commits a message only while no cleanup pass has one of its files**,
every attachment of a committed message has its row, its link and its blob. -/
theorem attachments_kept (as : List Act) (h : Along step Careful {} as) :
    Kept (final step {} as) :=
  (h.invariant (I := Sound) (fun _ a hs hcareful => hs.step a hcareful) Sound.init).kept

/-- A file is uploaded and sent two hours later, while a pass runs that finds nothing to claim. -/
def sent : List Act :=
  [.upload 7 1 0, .claim 3000000, .check 1 ⟨2, [7]⟩, .insertMessage 0, .insertLink 0, .commit 0,
    .claim 7200000]

theorem sent_kept : (final step {} sent).messages = [⟨2, [7]⟩] ∧ Kept (final step {} sent) :=
  ⟨by decide, attachments_kept sent (by decide)⟩

/-- The same file, claimed by a pass between its check and its commit. -/
def claimed : List Act :=
  [.upload 7 1 0, .check 1 ⟨2, [7]⟩, .claim 7200000, .insertMessage 0, .insertLink 0, .commit 0,
    .deleteBlob 0 true true, .deleteMetadata 0 true]

/-- The message is committed, and the row, the link and the blob of its file are gone. -/
theorem claimed_lost : (final step {} claimed).messages = [⟨2, [7]⟩] ∧
    (final step {} claimed).files = [] ∧ (final step {} claimed).messageFiles = [] ∧
    (final step {} claimed).blobs = [] ∧ ¬ Kept (final step {} claimed) := by
  refine ⟨by decide, by decide, by decide, by decide, fun h => ?_⟩
  have hfiles : (final step {} claimed).files = [] := by decide
  obtain ⟨⟨f, hf, -⟩, -⟩ := h ⟨2, [7]⟩ (by decide) 7 (by decide)
  rw [hfiles] at hf
  exact absurd hf List.not_mem_nil

end Vussa.Files
