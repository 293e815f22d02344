import Tarka.Lib.Steps
import Tarka.Lib.Text

/-! # The disk buffer (`tarka_core/messaging.py`)

While the broker is away, messages are appended to a SQLite table (and to a journal).
`replay_disk_buffer_to_broker` later publishes the rows that are not flushed, batch by batch in
the order of their ids, and marks each row after its publication. Every access takes the lock of
the buffer for itself only, so publishers may append between any two steps of the replayer. -/

namespace Tarka.Messaging

open Tarka.Lib

/-- NATS JetStream against core publish. -/
inductive PublishDelivery where
  | jetstream
  | core
  deriving DecidableEq

def PublishDelivery.value : PublishDelivery → String
  | jetstream => "jetstream"
  | core => "core"

def coerceDelivery (raw : String) : PublishDelivery :=
  if raw = PublishDelivery.jetstream.value then .jetstream
  else if raw = PublishDelivery.core.value then .core
  else .jetstream

theorem coerceDelivery_value (d : PublishDelivery) : coerceDelivery d.value = d := by
  cases d <;> decide

structure Message where
  subject : String
  payload : Bytes
  delivery : PublishDelivery
  deriving DecidableEq

/-- A row of `outbound_buffer`. -/
structure Row where
  id : Nat
  subject : String
  payload : Bytes
  delivery : String
  flushed : Bool
  deriving DecidableEq

def Row.message (r : Row) : Message := ⟨r.subject, r.payload, coerceDelivery r.delivery⟩

/-- Where the replayer is. It carries its batch limit and the number of rows replayed so far. -/
inductive Replayer where
  | idle
  | listing (batchLimit : Int) (total : Nat)
  | batch (batchLimit : Int) (total : Nat) (ids : List Nat)
  | fetched (batchLimit : Int) (total : Nat) (row : Row) (ids : List Nat)
  | published (batchLimit : Int) (total : Nat) (row : Row) (ids : List Nat)

/-- The table with the counter behind its ids, the journal and the replayer, and what its calls
have returned. The last two fields are history: the messages that publishers were told are
buffered, and those the broker took, each with its id. -/
structure State where
  rows : List Row
  lastId : Nat
  journal : Bytes
  replayer : Replayer
  returned : List Nat
  accepted : List (Nat × Message)
  delivered : List (Nat × Message)

def State.init : State := ⟨[], 0, [], .idle, [], [], []⟩

/-! ## Accesses to the buffer -/

/-- The bounds of `_sync_enqueue_with_lock`. -/
def withinBounds (subject : String) (payload : Bytes) : Bool :=
  decide ((utf8 subject).length ≤ 1048576 ∧ payload.length ≤ 16777216)

/-- A record of the journal: both lengths, the subject and the payload. -/
def journalRecord (subject : String) (payload : Bytes) : Bytes :=
  beBytes 4 (utf8 subject).length ++ beBytes 4 payload.length ++ utf8 subject ++ payload

/-- `_sync_enqueue_with_lock`. A message out of bounds is refused with a `ValueError`. -/
def enqueue (s : State) (subject : String) (payload : Bytes) (delivery : PublishDelivery) : State :=
  if withinBounds subject payload then
    { s with
      rows := s.rows ++ [⟨s.lastId + 1, subject, payload, delivery.value, false⟩]
      lastId := s.lastId + 1
      journal := s.journal ++ journalRecord subject payload
      accepted := s.accepted ++ [(s.lastId + 1, ⟨subject, payload, delivery⟩)] }
  else s

/-- `_sync_list_pending_ids`. -/
def listPendingIds (rows : List Row) (limit : Int) : List Nat :=
  (((rows.filter (fun r => !r.flushed)).map Row.id).insertionSort (· ≤ ·)).take (max 1 limit).toNat

/-- `_sync_fetch_row`. -/
def fetchRow (rows : List Row) (rowId : Nat) : Option Row :=
  rows.find? (fun r => r.id == rowId && !r.flushed)

/-- `_sync_mark_flushed`. -/
def markFlushed (rows : List Row) (rowId : Nat) : List Row :=
  rows.map (fun r => if r.id = rowId then { r with flushed := true } else r)

/-! ## Steps -/

inductive Act where
  | enqueue (subject : String) (payload : Bytes) (delivery : PublishDelivery)
  /-- A call of `replay_disk_buffer_to_broker`. -/
  | replay (batchLimit : Int)
  | list
  | fetch
  /-- The broker takes the message, or raises. -/
  | publish (taken : Bool)
  | mark
  /-- The replayer is cancelled or its process ends, other than between publication and mark. -/
  | stop

def bufferStep (s : State) (a : Act) : Option State :=
  match a, s.replayer with
  | .enqueue subject payload delivery, _ => some (enqueue s subject payload delivery)
  | .replay limit, .idle => some { s with replayer := .listing limit 0 }
  | .list, .listing limit total =>
    match listPendingIds s.rows limit with
    | [] => some { s with replayer := .idle, returned := s.returned ++ [total] }
    | ids => some { s with replayer := .batch limit total ids }
  | .fetch, .batch limit total [] => some { s with replayer := .listing limit total }
  | .fetch, .batch limit total (rowId :: ids) =>
    match fetchRow s.rows rowId with
    | none => some { s with replayer := .batch limit total ids }
    | some row => some { s with replayer := .fetched limit total row ids }
  | .publish true, .fetched limit total row ids =>
    some { s with
      replayer := .published limit total row ids
      delivered := s.delivered ++ [(row.id, row.message)] }
  | .publish false, .fetched _ total _ _ =>
    some { s with replayer := .idle, returned := s.returned ++ [total] }
  | .mark, .published limit total row ids =>
    some { s with
      rows := markFlushed s.rows row.id
      replayer := .batch limit (total + 1) ids }
  | .stop, .published _ _ _ _ => none
  | .stop, _ => some { s with replayer := .idle }
  | _, _ => none

end Tarka.Messaging
