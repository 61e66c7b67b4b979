import Vussa.Lib.Run
import Vussa.Model.Database

/-!
Uploaded files between `SendMessage` and the cleanup loop: the check of `handle_client_event`, the
transaction of `save_message`, and the passes of `claim_orphan_files`, `BlobStore::delete` and
`delete_file_metadata` that every replica runs hourly (`bootstrap.rs`).

Statements are single steps. The links of an open transaction are seen by nobody else until it
commits; the foreign key of each locks the row of its file against deletion until then. An upload is
one step: its blob is there before its row, and nothing reads the one without the other. A call may
fail or be lost wherever it waits.

* `available`: the check of the attachments;
* `claimOrphanFiles`, `deleteFileMetadata`: the two statements of a pass;
* `Send`, `Pass`, `Act`, `step`: the calls in flight and their moves, in any order.
-/

namespace Vussa.Files

/-! ### Tables and statements -/

/-- `storage_key`: the name `{id}.bin` of a blob. -/
structure StorageKey where
  id : Uuid
  deriving DecidableEq, Repr

/-- A row of `files`. -/
structure FileRow where
  id : Uuid
  uploaderUserId : Uuid
  storageKey : StorageKey
  createdAt : ℤ
  deletedAt : Option ℤ := none
  deriving DecidableEq, Repr

/-- What a message says about its attachments, in the metadata of its row. -/
structure Message where
  id : Uuid
  fileIds : List Uuid
  deriving DecidableEq, Repr

/-- The attachments pass the check of `SendMessage`: at most ten, and as many live files of the
sender as there are ids. -/
def available (files : List FileRow) (userId : Uuid) (fileIds : List Uuid) : Prop :=
  fileIds.length ≤ 10 ∧
    (files.filter fun f =>
      f.id ∈ fileIds ∧ f.uploaderUserId = userId ∧ f.deletedAt = none).length = fileIds.length

instance (files : List FileRow) (userId : Uuid) (fileIds : List Uuid) :
    Decidable (available files userId fileIds) := inferInstanceAs (Decidable (_ ∧ _))

/-- The `WHERE` clause of `claim_orphan_files`. -/
def orphan (olderThan : ℤ) (links : List MessageFileRow) (f : FileRow) : Prop :=
  (f.deletedAt ≠ none ∨ f.createdAt < olderThan) ∧ ∀ l ∈ links, l.fileId ≠ f.id

instance (olderThan : ℤ) (links : List MessageFileRow) (f : FileRow) :
    Decidable (orphan olderThan links f) := inferInstanceAs (Decidable (_ ∧ _))

/-- `claim_orphan_files`: the table, and the ids and keys it returns. -/
def claimOrphanFiles (now olderThan : ℤ) (files : List FileRow) (links : List MessageFileRow) :
    List FileRow × List (Uuid × StorageKey) :=
  (files.map fun f =>
      if orphan olderThan links f then { f with deletedAt := some (f.deletedAt.getD now) } else f,
    (files.filter fun f => orphan olderThan links f).map fun f => (f.id, f.storageKey))

/-- The row that `delete_file_metadata` deletes. -/
def marked (id : Uuid) (f : FileRow) : Prop := f.id = id ∧ f.deletedAt ≠ none

instance (id : Uuid) (f : FileRow) : Decidable (marked id f) := inferInstanceAs (Decidable (_ ∧ _))

/-- `delete_file_metadata`, with the cascade to `message_files`. -/
def deleteFileMetadata (id : Uuid) (files : List FileRow) (links : List MessageFileRow) :
    List FileRow × List MessageFileRow :=
  (files.filter fun f => ¬ marked id f,
    if ∃ f ∈ files, marked id f then links.filter fun l => l.fileId ≠ id else links)

/-! ### Calls in flight -/

/-- Where a `SendMessage` is: the attachments have passed the check, or the transaction is open,
with the links written and the ids still to link. -/
inductive SendStage where
  | checked
  | saving (linked rest : List Uuid)
  deriving DecidableEq, Repr

/-- A `SendMessage` in flight. -/
structure Send where
  message : Message
  stage : SendStage := .checked
  deriving DecidableEq, Repr

/-- The file is linked in an open transaction, which locks its row. -/
def Send.Locks (send : Send) (id : Uuid) : Prop :=
  match send.stage with
  | .checked => False
  | .saving linked _ => id ∈ linked

instance (send : Send) (id : Uuid) : Decidable (send.Locks id) :=
  match h : send.stage with
  | .checked => isFalse (by rw [Send.Locks, h]; exact not_false)
  | .saving linked _ => decidable_of_iff (id ∈ linked) (by rw [Send.Locks, h])

/-- Where a pass of the cleanup loop is: the blob of the first of the remaining files is deleted
next, or the row of the file whose blob was. -/
inductive Pass where
  | blobs (rest : List (Uuid × StorageKey))
  | metadata (id : Uuid) (rest : List (Uuid × StorageKey))
  deriving DecidableEq, Repr

/-- The files a pass has claimed and not yet dealt with. -/
def Pass.pending : Pass → List Uuid
  | .blobs rest => rest.map Prod.fst
  | .metadata id rest => id :: rest.map Prod.fst

/-- The tables, the blobs and the calls. -/
structure State where
  files : List FileRow := []
  messages : List Message := []
  messageFiles : List MessageFileRow := []
  blobs : List StorageKey := []
  sends : List Send := []
  passes : List Pass := []

/-- What can happen next; `k` is the index of a send or a pass. -/
inductive Act where
  | upload (id uploaderUserId : Uuid) (createdAt : ℤ)
  | check (userId : Uuid) (message : Message)
  | insertMessage (k : ℕ)
  | insertLink (k : ℕ)
  | commit (k : ℕ)
  /-- a send ends without a commit -/
  | loseSend (k : ℕ)
  | claim (now : ℤ)
  /-- `BlobStore::delete` answers, with an error or not, and `gone` says whether the blob is deleted
  in spite of an error -/
  | deleteBlob (k : ℕ) (ok gone : Bool)
  | deleteMetadata (k : ℕ) (ok : Bool)
  /-- a pass ends with its process -/
  | losePass (k : ℕ)
  /-- a message goes, with its links -/
  | removeMessage (id : Uuid)

/-- The step of a send: what it changes at its own place, or nothing. -/
def insertLink (files : List FileRow) (send : Send) : Option Send :=
  match send.stage with
  | .saving linked (id :: rest) =>
      -- the foreign key
      if ∃ f ∈ files, f.id = id then some { send with stage := .saving (linked ++ [id]) rest }
      else none
  | _ => none

/-- One step; an action that the stage does not allow changes nothing. -/
def step (s : State) : Act → State
  | .upload id uploaderUserId createdAt =>
      if ∃ f ∈ s.files, f.id = id then s
      else { s with
        files := s.files ++ [{ id, uploaderUserId, storageKey := ⟨id⟩, createdAt }]
        blobs := ⟨id⟩ :: s.blobs }
  | .check userId message =>
      if available s.files userId message.fileIds then { s with sends := s.sends ++ [{ message }] }
      else s
  | .insertMessage k =>
      match s.sends[k]? with
      | some ⟨message, .checked⟩ =>
          { s with sends := s.sends.set k ⟨message, .saving [] message.fileIds⟩ }
      | _ => s
  | .insertLink k =>
      match s.sends[k]?.bind (insertLink s.files) with
      | some send => { s with sends := s.sends.set k send }
      | none => s
  | .commit k =>
      match s.sends[k]? with
      | some ⟨message, .saving linked []⟩ =>
          { s with
            messages := s.messages ++ [message]
            messageFiles := s.messageFiles ++ linked.map fun id => ⟨message.id, id⟩
            sends := s.sends.eraseIdx k }
      | _ => s
  | .loseSend k => { s with sends := s.sends.eraseIdx k }
  | .claim now =>
      let claimed := claimOrphanFiles now (now - 60 * 60 * 1000) s.files s.messageFiles
      { s with files := claimed.1, passes := s.passes ++ [.blobs claimed.2] }
  | .deleteBlob k ok gone =>
      match s.passes[k]? with
      | some (.blobs ((id, key) :: rest)) =>
          { s with
            blobs := if ok ∨ gone then s.blobs.filter fun b => b ≠ key else s.blobs
            passes := s.passes.set k (if ok then .metadata id rest else .blobs rest) }
      | _ => s
  | .deleteMetadata k ok =>
      match s.passes[k]? with
      | some (.metadata id rest) =>
          if ok then
            -- the deletion waits for the row
            if ∃ send ∈ s.sends, send.Locks id then s
            else { s with
              files := (deleteFileMetadata id s.files s.messageFiles).1
              messageFiles := (deleteFileMetadata id s.files s.messageFiles).2
              passes := s.passes.set k (.blobs rest) }
          else { s with passes := s.passes.set k (.blobs rest) }
      | _ => s
  | .losePass k => { s with passes := s.passes.eraseIdx k }
  | .removeMessage id =>
      { s with
        messages := s.messages.filter fun m => m.id ≠ id
        messageFiles := s.messageFiles.filter fun l => l.messageId ≠ id }

end Vussa.Files
