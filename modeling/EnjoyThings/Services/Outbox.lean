import Mathlib.Data.List.Sort
import EnjoyThings.Services.Orchestrator

/-!
# The outbox and its publishers

`internal/outbox` with the statements of `db/query/outbox.sql`. A transaction of a
service inserts rows that nobody else sees until it commits. A publisher claims
unpublished rows, produces each to Kafka and marks it, and stops at the first error.
The claim is a statement of its own, so its locks are gone when it returns.

`rows` holds the committed rows in the order in which their transactions committed.
The transaction of a row, the produced events and the transactions that were rolled
back are history variables. Trace headers and telemetry are left out.
-/

namespace EnjoyThings

open Effect

/-- A row of `outbox_events`. The ID stands for the 128 bits of the UUID, which is how Postgres
    compares them; `tx` is the transaction that inserted the row. -/
structure OutboxRow where
  id : Nat
  record : OutboxRecord
  createdAt : Time
  claimedAt : Option Time := none
  publishedAt : Option Time := none
  tx : Nat
  deriving DecidableEq

/-- A transaction that has neither committed nor been rolled back. -/
structure OpenTx where
  tx : Nat
  start : Time
  rows : List OutboxRow := []
  deriving DecidableEq

structure OutboxWorld where
  rows : List OutboxRow := []
  opened : List OpenTx := []
  nextTx : Nat := 0
  produced : List OutboxRow := []
  rolledBack : List Nat := []
  deriving DecidableEq

/-! ## The transactions of the services -/

/-- What a service does in a transaction, as far as the outbox is concerned. A client that
    crashes has its transaction rolled back. -/
inductive TxStep
  | start (time : Time)
  | insert (tx : Nat) (id : Nat) (record : OutboxRecord)
  | commit (tx : Nat)
  | rollback (tx : Nat)

namespace OutboxWorld

/-- The open transaction with the number. -/
def tx? (w : OutboxWorld) (tx : Nat) : Option OpenTx :=
  w.opened.find? (·.tx = tx)

/-- The open transactions without one of them. -/
def without (w : OutboxWorld) (tx : Nat) : List OpenTx :=
  w.opened.filter (·.tx ≠ tx)

/-- `ROLLBACK`, and what an error in a transaction comes to. -/
def rollback (w : OutboxWorld) (tx : Nat) : OutboxWorld :=
  { w with opened := w.without tx, rolledBack := w.rolledBack ++ [tx] }

/-- The row `CreateOutboxEvent` inserts: `now()` is the start of the transaction. -/
def newRow (t : OpenTx) (id : Nat) (record : OutboxRecord) : OutboxRow :=
  { id := id, record := record, createdAt := t.start, tx := t.tx }

/-- `CreateOutboxEvent`. A committed row with the ID ends the transaction with an error; for
    one of an open transaction the statement waits, that is, it has not happened yet. -/
def insert (w : OutboxWorld) (t : OpenTx) (id : Nat) (record : OutboxRecord) : OutboxWorld :=
  if w.rows.any (·.id = id) then w.rollback t.tx
  else if w.opened.any (·.rows.any (·.id = id)) then w
  else
    { w with opened := w.opened.map fun o =>
        if o.tx = t.tx then { o with rows := o.rows ++ [newRow t id record] } else o }

/-- One step of a transaction. Steps of a transaction that is not open do nothing. -/
def txStep (w : OutboxWorld) : TxStep → OutboxWorld
  | .start time =>
    { w with opened := w.opened ++ [{ tx := w.nextTx, start := time }], nextTx := w.nextTx + 1 }
  | .insert tx id record => (w.tx? tx).elim w fun t => w.insert t id record
  | .commit tx => (w.tx? tx).elim w fun t =>
    { w with rows := w.rows ++ t.rows, opened := w.without tx }
  | .rollback tx => (w.tx? tx).elim w fun _ => w.rollback tx

/-- Steps of any transactions, one after the other. -/
def txSteps (w : OutboxWorld) (steps : List TxStep) : OutboxWorld :=
  steps.foldl txStep w

end OutboxWorld

/-! ## The statements of a publisher -/

/-- `ORDER BY created_at, id`. -/
def OutboxRow.before (left right : OutboxRow) : Prop :=
  left.createdAt < right.createdAt ∨ left.createdAt = right.createdAt ∧ left.id ≤ right.id

instance : DecidableRel OutboxRow.before :=
  fun _ _ => inferInstanceAs (Decidable (_ ∨ _))

namespace OutboxWorld

/-- The rows the CTE of `ClaimUnpublishedOutboxEvents` selects. `skipped` are the rows that
    others hold locks on. -/
def selected (w : OutboxWorld) (skipped : List Nat) (limit : Nat) : List OutboxRow :=
  ((w.rows.filter fun r => r.publishedAt = none ∧ r.id ∉ skipped).insertionSort
    OutboxRow.before).take limit

/-- The table after the claim of the rows. -/
def claimed (w : OutboxWorld) (ids : List Nat) (now : Time) : OutboxWorld :=
  { w with rows := w.rows.map fun r => if r.id ∈ ids then { r with claimedAt := some now } else r }

/-- `MarkOutboxEventPublished`, which marks whatever row has the ID. -/
def markPublished (w : OutboxWorld) (id : Nat) (now : Time) : OutboxWorld :=
  { w with rows := w.rows.map fun r => if r.id = id then { r with publishedAt := some now } else r }

end OutboxWorld

/-- The calls of a publisher. -/
inductive PublisherOp
  | claim (limit : Int32)
  | produce (event : OutboxRow)
  | mark (id : Nat)

@[reducible] def PublisherOp.Ret : PublisherOp → Type
  | .claim _ => List OutboxRow
  | .produce _ | .mark _ => Unit

inductive PublisherErr
  | negativeLimit
  | interrupted
  deriving DecidableEq

abbrev PublisherProg (α : Type) : Type := Prog PublisherOp PublisherOp.Ret PublisherErr α

/-! ## The publisher -/

namespace Publisher

/-- `Repository.ClaimUnpublished`, with its conversion to 32 bits. -/
def claimUnpublished (batchSize : Int64) : PublisherProg (List OutboxRow) :=
  Prog.perform (PublisherOp.claim (if batchSize < 1 then 1 else batchSize).toInt32)

/-- The loop of `PublishBatch`. On an error the count of the published events goes to a caller
    that does not use it, and is left out. -/
def publishEach (published : Nat) : List OutboxRow → PublisherProg Nat
  | [] => pure published
  | event :: events => do
    Prog.perform (PublisherOp.produce event)
    Prog.perform (PublisherOp.mark event.id)
    publishEach (published + 1) events

def publishBatch (batchSize : Int64) : PublisherProg Nat := do
  let events ← claimUnpublished batchSize
  publishEach 0 events

def defaultBatchSize : Int64 := 100

/-- The batch size `NewPublisher` settles on. -/
def configuredBatchSize (batchSize : Int64) : Int64 :=
  if batchSize ≤ 0 then defaultBatchSize else batchSize

/-- `Run` for a number of ticks. The error of a batch is logged. -/
def run (batchSize : Int64) : Nat → PublisherProg Unit
  | 0 => pure ()
  | ticks + 1 => do
    let _ ← (publishBatch (configuredBatchSize batchSize)).attempt
    run batchSize ticks

end Publisher

/-- What the surroundings decide about one call of a publisher: the transaction steps that come
    before it, the fault, the time of the statement, the rows locked by others, and the order in
    which `UPDATE ... RETURNING` returns its rows. -/
structure PublisherChoice where
  txs : List TxStep := []
  fault : Fault := .none
  now : Time := 0
  skipped : List Nat := []
  order : List OutboxRow → List OutboxRow := id
  order_perm : ∀ l, (order l).Perm l := by exact fun l => List.Perm.refl l

namespace PublisherOp

/-- The effect of a call that reaches its target. -/
def run (c : PublisherChoice) : (o : PublisherOp) → OutboxWorld →
    Except PublisherErr o.Ret × OutboxWorld
  | .claim limit, w =>
    if limit < 0 then (.error .negativeLimit, w)
    else
      let rows := w.selected c.skipped limit.toNatClampNeg
      (.ok (c.order (rows.map fun r => { r with claimedAt := some c.now })),
        w.claimed (rows.map (·.id)) c.now)
  | .produce event, w => (.ok (), { w with produced := w.produced ++ [event] })
  | .mark id, w => (.ok (), w.markPublished id c.now)

/-- One call under a choice. -/
def exec (c : PublisherChoice) (o : PublisherOp) (w : OutboxWorld) :
    Except PublisherErr o.Ret × OutboxWorld :=
  match c.fault with
  | .none => o.run c (w.txSteps c.txs)
  | .notDelivered => (.error .interrupted, w.txSteps c.txs)
  | .answerLost => (.error .interrupted, (o.run c (w.txSteps c.txs)).2)

end PublisherOp

/-- What answers the calls of a publisher. -/
def publisherMachine :
    Machine PublisherOp PublisherOp.Ret PublisherErr OutboxWorld Unit PublisherChoice where
  exec := PublisherOp.exec
  see _ _ _ := ()

end EnjoyThings
