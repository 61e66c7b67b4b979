import Vussa.Model.Types
import Vussa.Lib.Run

/-!
The transactional outbox, `outbox.rs` with the two writers of `outbox_events`
(`queue_auth_invalidation` of `persistence.rs` and the retry insert of `SendMessage`).

Any number of replicas run `run_outbox`. A worker reads the clock, claims up to 32 rows with one
atomic statement, and then dispatches the claimed rows one after the other, each dispatch being
followed by its `finish_event`. Every database statement and every dispatch may fail and a worker
may crash at any point; these choices are part of the action (`Act`), so that the system is a
deterministic step function.

* `claimable`: the `WHERE` clause of `claim_events`;
* `claimEvents`, `finishEvent`, `dispatch`: the functions of `outbox.rs`;
* `Phase`, `State`, `Act`, `step`: the workers and the table.
-/

namespace Vussa.Outbox

/-- The payloads the two writers build; `unknown` is any other object. -/
inductive Payload where
  | authInvalidate (userId : Uuid)
  | messageNotifications (actorId messageId : Uuid)
  | unknown (json : String)
  deriving DecidableEq, Repr

/-- `payload->>'message_id'`. -/
def Payload.messageId? : Payload → Option Uuid
  | .messageNotifications _ messageId => some messageId
  | _ => none

/-- The topics `dispatch` matches on. -/
inductive Topic where
  | authInvalidate | messageNotifications | other (name : String)
  deriving DecidableEq, Repr

/-- A row of `outbox_events`. -/
structure EventRow where
  id : Uuid
  topic : Topic
  payload : Payload
  createdAt : ℤ
  publishedAt : Option ℤ
  attempts : ℕ
  claimedAt : Option ℤ
  deriving DecidableEq, Repr

/-- `CLAIM_TIMEOUT_MILLIS`. -/
def claimTimeoutMillis : ℤ := 60000

/-- The cap of the `WHERE` clause, `attempts < 5`. -/
def attemptCap : ℕ := 5

/-- The `LIMIT` of the claiming statement. -/
def claimLimit : ℕ := 32

/-- The `WHERE` clause of `claim_events` at the instant `now`. -/
def claimable (now : ℤ) (e : EventRow) : Prop :=
  e.publishedAt = none ∧ e.attempts < attemptCap ∧
    ∀ c, e.claimedAt = some c → c < now - claimTimeoutMillis

instance (now : ℤ) (e : EventRow) : Decidable (claimable now e) :=
  match h : e.claimedAt with
  | none => decidable_of_iff (e.publishedAt = none ∧ e.attempts < attemptCap)
      (by simp [claimable, h])
  | some c => decidable_of_iff
      (e.publishedAt = none ∧ e.attempts < attemptCap ∧ c < now - claimTimeoutMillis)
      (by simp [claimable, h])

/-- `ORDER BY created_at, id`. -/
def claimOrder (e f : EventRow) : Prop := toLex (e.createdAt, e.id) ≤ toLex (f.createdAt, f.id)

instance : DecidableRel claimOrder := fun e f =>
  inferInstanceAs (Decidable (toLex (e.createdAt, e.id) ≤ toLex (f.createdAt, f.id)))

/-- The ids the common table expression `next` selects; `locked` are the rows other claiming
transactions hold, which `SKIP LOCKED` passes over. -/
def nextIds (now : ℤ) (locked : List Uuid) (events : List EventRow) : List Uuid :=
  (((events.filter fun e => claimable now e ∧ e.id ∉ locked).insertionSort claimOrder).take
    claimLimit).map EventRow.id

/-- The update of one claimed row. -/
def EventRow.claim (now : ℤ) (e : EventRow) : EventRow :=
  { e with claimedAt := some now, attempts := e.attempts + 1 }

/-- `claim_events`: the table after the statement and the rows it returns. -/
def claimEvents (now : ℤ) (locked : List Uuid) (events : List EventRow) :
    List EventRow × List EventRow :=
  let next := nextIds now locked events
  (events.map fun e => if e.id ∈ next then e.claim now else e,
    events.filter fun e => e.id ∈ next)

/-- `dispatch`: an unknown topic is logged and counts as delivered; for the two known ones `ok` is
the answer of Valkey, respectively of the database. -/
def dispatch (topic : Topic) (ok : Bool) : Bool :=
  match topic with
  | .authInvalidate => ok
  | .messageNotifications => ok
  | .other _ => true

/-- The update of one row by `finish_event`. -/
def EventRow.finish (now : ℤ) (delivered : Bool) (e : EventRow) : EventRow :=
  if delivered then { e with publishedAt := some now, claimedAt := none }
  else { e with claimedAt := none }

/-- `finish_event`. -/
def finishEvent (now : ℤ) (id : Uuid) (delivered : Bool) (events : List EventRow) :
    List EventRow :=
  events.map fun e => if e.id = id ∧ e.publishedAt = none then e.finish now delivered else e

/-- `INSERT INTO outbox_events (id, topic, payload, created_at)`: refused by the primary key when
the id is taken. -/
def insertEvent (id : Uuid) (topic : Topic) (payload : Payload) (createdAt : ℤ)
    (events : List EventRow) : List EventRow :=
  if ∃ e ∈ events, e.id = id then events
  else events ++ [⟨id, topic, payload, createdAt, none, 0, none⟩]

/-- `queue_auth_invalidation`. -/
def queueAuthInvalidation (id userId : Uuid) (createdAt : ℤ) (events : List EventRow) :
    List EventRow :=
  insertEvent id .authInvalidate (.authInvalidate userId) createdAt events

/-- The retry insert of `SendMessage`: skipped while an unpublished retry of the same message
exists. -/
def queueNotificationRetry (id actorId messageId : Uuid) (createdAt : ℤ)
    (events : List EventRow) : List EventRow :=
  if ∃ e ∈ events, e.topic = .messageNotifications ∧ e.payload.messageId? = some messageId ∧
      e.publishedAt = none then events
  else insertEvent id .messageNotifications (.messageNotifications actorId messageId)
    createdAt events

/-! ### The workers -/

/-- Where a worker is in the loop of `run_outbox`. -/
inductive Phase where
  /-- asleep, or at the top of the loop -/
  | idle
  /-- the clock has been read and `claim_events` not yet run -/
  | claiming (now : ℤ)
  /-- rows still to dispatch, the current one first -/
  | dispatching (rows : List EventRow)
  /-- `dispatch` has answered for `row`, its `finish_event` is next -/
  | finishing (row : EventRow) (delivered : Bool) (rest : List EventRow)
  deriving DecidableEq, Repr

/-- The outbox of a deployment: the clock, the table, and the phase of every worker. -/
structure State where
  now : ℤ
  events : List EventRow
  phase : ℕ → Phase

/-- No event and every worker idle. -/
def init (now : ℤ) : State := ⟨now, [], fun _ => .idle⟩

/-- What can happen next. -/
inductive Act where
  | tick (d : ℕ)
  | queueAuthInvalidation (id userId : Uuid)
  | queueNotificationRetry (id actorId messageId : Uuid)
  | readClock (w : ℕ)
  | claim (w : ℕ) (locked : List Uuid)
  | claimError (w : ℕ)
  | dispatch (w : ℕ) (ok : Bool)
  | finish (w : ℕ)
  | finishError (w : ℕ)
  | crash (w : ℕ)
  deriving DecidableEq, Repr

/-- The worker's phase once the current row is done with. -/
def afterRow : List EventRow → Phase
  | [] => .idle
  | rows => .dispatching rows

/-- Put the worker `w` into the phase `p`. -/
def State.enter (s : State) (w : ℕ) (p : Phase) : State :=
  { s with phase := Function.update s.phase w p }

/-- One step; an action the worker's phase does not allow changes nothing. -/
def step (s : State) : Act → State
  | .tick d => { s with now := s.now + d }
  | .queueAuthInvalidation id userId =>
      { s with events := queueAuthInvalidation id userId s.now s.events }
  | .queueNotificationRetry id actorId messageId =>
      { s with events := queueNotificationRetry id actorId messageId s.now s.events }
  | .readClock w =>
      match s.phase w with
      | .idle => s.enter w (.claiming s.now)
      | _ => s
  | .claim w locked =>
      match s.phase w with
      | .claiming now =>
          { s with events := (claimEvents now locked s.events).1 }.enter w
            (afterRow (claimEvents now locked s.events).2)
      | _ => s
  | .claimError w =>
      match s.phase w with
      | .claiming _ => s.enter w .idle
      | _ => s
  | .dispatch w ok =>
      match s.phase w with
      | .dispatching (row :: rest) => s.enter w (.finishing row (dispatch row.topic ok) rest)
      | _ => s
  | .finish w =>
      match s.phase w with
      | .finishing row delivered rest =>
          { s with events := finishEvent s.now row.id delivered s.events }.enter w (afterRow rest)
      | _ => s
  | .finishError w =>
      match s.phase w with
      | .finishing _ _ rest => s.enter w (afterRow rest)
      | _ => s
  | .crash w => s.enter w .idle

end Vussa.Outbox
