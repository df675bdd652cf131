import EnjoyThings.ForStd.Prog
import EnjoyThings.Services.Orchestrator

/-!
# The payment processor

`Processor.HandleExecute` of `internal/paymentprocessor` and the queries of its
`PostgresStore` on `payment_attempts`. The handler is a program over the calls it
makes of the store, the rail, the outbox, the clock and the sleeper. The insert
and the select of `CreatePending` are two statements and therefore two calls. An
event that cannot be encoded is an enqueue that does not reach the outbox.
-/

namespace EnjoyThings

open Effect

/-- `StatusPending` and its siblings, the values the check of the column allows. -/
inductive AttemptStatus
  | pending
  | completed
  | failed
  deriving DecidableEq, Repr

def AttemptStatus.text : AttemptStatus → String
  | .pending => "PENDING"
  | .completed => "COMPLETED"
  | .failed => "FAILED"

/-- A row of `payment_attempts`. Time `0` is its NULL. -/
structure Attempt where
  id : String
  paymentID : String
  idempotencyKey : String
  traceID : String
  amountCents : Int64
  currency : String
  ledgerReservationID : String
  walletDebitID : String
  status : AttemptStatus := .pending
  attemptCount : Nat := 0
  processorPaymentID : String := ""
  failureCode : String := ""
  failureMessage : String := ""
  completedAt : Time := 0
  failedAt : Time := 0
  createdAt : Time
  updatedAt : Time
  deriving DecidableEq

structure RailChargeRequest where
  paymentID : String
  idempotencyKey : String
  traceID : String
  amountCents : Int64
  currency : String
  ledgerReservationID : String
  walletDebitID : String

structure RailResult where
  processorPaymentID : String
  completedAt : Time

structure RailFailure where
  code : String
  message : String
  retryable : Bool

/-- What a charge fails with: a `RailError`, a canceled context or another error. -/
inductive RailErr
  | railError (failure : RailFailure)
  | canceled (message : String)
  | other (message : String)

/-- `classifyRailFailure`. -/
def classifyRailFailure : RailErr → RailFailure
  | .railError failure => failure
  | .canceled message => { code := "context_canceled", message := message, retryable := false }
  | .other message => { code := "rail_unavailable", message := message, retryable := true }

/-- What a handler fails with: an invalid command, `ErrNotFound`, a database error, or a call
    that was cut off. -/
inductive ProcessorErr
  | invalidCommand (message : String)
  | notFound
  | sql (e : SqlErr)
  | interrupted
  deriving DecidableEq, Repr

/-- An outbox row of the processor. -/
structure ResultRecord where
  topic : String
  partitionKey : String
  payload : PaymentResult
  deriving DecidableEq

/-- The tables of the processor. -/
structure ProcessorWorld where
  attempts : List Attempt := []
  outbox : List ResultRecord := []
  deriving DecidableEq

/-! ## The store -/

namespace ProcessorWorld

/-- The row of a payment. -/
def attempt? (w : ProcessorWorld) (paymentID : String) : Option Attempt :=
  w.attempts.find? (·.paymentID = paymentID)

/-- The row the insert of `CreatePending` adds. -/
def newAttempt (id : String) (now : Time) (command : PaymentExecute) (time : Time) : Attempt :=
  { id := id, paymentID := command.paymentID, idempotencyKey := command.idempotencyKey
    traceID := command.traceID, amountCents := command.amountCents, currency := command.currency
    ledgerReservationID := command.ledgerReservationID, walletDebitID := command.walletDebitID
    createdAt := timeOrNow time now, updatedAt := timeOrNow time now }

/-- `INSERT ... ON CONFLICT (payment_id) DO NOTHING RETURNING`, which is `ErrNotFound` if the
    payment has a row. -/
def insertPending (w : ProcessorWorld) (id : String) (now : Time) (command : PaymentExecute)
    (time : Time) : Except ProcessorErr (Attempt × ProcessorWorld) :=
  if command.amountCents ≤ 0 then .error (.sql .checkViolation)
  else if w.attempts.any (·.paymentID = command.paymentID) then .error .notFound
  else
    .ok (newAttempt id now command time,
      { w with attempts := w.attempts ++ [newAttempt id now command time] })

/-- `PostgresStore.GetByPaymentID`. -/
def getByPaymentID (w : ProcessorWorld) (paymentID : String) : Except ProcessorErr Attempt :=
  Except.ofOption .notFound (w.attempt? paymentID)

/-- `UPDATE payment_attempts SET ... WHERE payment_id = $1 RETURNING`. -/
def updateAttempt (w : ProcessorWorld) (paymentID : String) (set : Attempt → Attempt) :
    Except ProcessorErr (Attempt × ProcessorWorld) :=
  match w.attempt? paymentID with
  | none => .error .notFound
  | some row =>
    .ok (set row,
      { w with attempts := w.attempts.map fun a => if a.paymentID = paymentID then set a else a })

/-- What `MarkAttemptStarted` sets. -/
def started (attemptCount : Nat) (time now : Time) (row : Attempt) : Attempt :=
  { row with attemptCount := attemptCount, updatedAt := timeOrNow time now }

/-- What `MarkCompleted` sets, whatever the status of the row is. -/
def completed (result : RailResult) (time now : Time) (row : Attempt) : Attempt :=
  let completedAt := if result.completedAt = 0 then time else result.completedAt
  { row with
    status := .completed
    processorPaymentID := result.processorPaymentID
    completedAt := timeOrNow completedAt now
    updatedAt := timeOrNow time now }

/-- What `MarkFailed` sets, whatever the status of the row is. -/
def failed (failure : RailFailure) (time now : Time) (row : Attempt) : Attempt :=
  { row with
    status := .failed
    failureCode := failure.code
    failureMessage := failure.message
    failedAt := timeOrNow time now
    updatedAt := timeOrNow time now }

end ProcessorWorld

/-! ## Calls -/

/-- The calls of `HandleExecute`. The jitter on a backoff is left to the surroundings. -/
inductive ProcessorOp
  | now
  | insertPending (command : PaymentExecute) (time : Time)
  | getByPaymentID (paymentID : String)
  | markAttemptStarted (paymentID : String) (attemptCount : Nat) (time : Time)
  | markCompleted (paymentID : String) (result : RailResult) (time : Time)
  | markFailed (paymentID : String) (failure : RailFailure) (time : Time)
  | charge (request : RailChargeRequest)
  | sleep (backoff : Nat)
  | enqueue (record : ResultRecord)

@[reducible] def ProcessorOp.Ret : ProcessorOp → Type
  | .now => Time
  | .charge _ => Except RailErr RailResult
  | .sleep _ | .enqueue _ => Unit
  | .insertPending _ _ | .getByPaymentID _ | .markAttemptStarted _ _ _ => Attempt
  | .markCompleted _ _ _ | .markFailed _ _ _ => Attempt

abbrev ProcessorProg : Type → Type :=
  Prog ProcessorOp ProcessorOp.Ret ProcessorErr

/-! ## The handler -/

namespace Processor

def now : ProcessorProg Time :=
  .perform ProcessorOp.now

/-- A time that is set, or the clock's. -/
def orNow (time : Time) : ProcessorProg Time :=
  if time = 0 then now else pure time

def insertPending (command : PaymentExecute) (time : Time) : ProcessorProg Attempt :=
  .perform (ProcessorOp.insertPending command time)

def getByPaymentID (paymentID : String) : ProcessorProg Attempt :=
  .perform (ProcessorOp.getByPaymentID paymentID)

def markAttemptStarted (paymentID : String) (attemptCount : Nat) (time : Time) :
    ProcessorProg Attempt :=
  .perform (ProcessorOp.markAttemptStarted paymentID attemptCount time)

def markCompleted (paymentID : String) (result : RailResult) (time : Time) :
    ProcessorProg Attempt :=
  .perform (ProcessorOp.markCompleted paymentID result time)

def markFailed (paymentID : String) (failure : RailFailure) (time : Time) :
    ProcessorProg Attempt :=
  .perform (ProcessorOp.markFailed paymentID failure time)

def charge (request : RailChargeRequest) : ProcessorProg (Except RailErr RailResult) :=
  .perform (ProcessorOp.charge request)

def sleep (backoff : Nat) : ProcessorProg Unit :=
  .perform (ProcessorOp.sleep backoff)

def enqueue (record : ResultRecord) : ProcessorProg Unit :=
  .perform (ProcessorOp.enqueue record)

def invalidCommand? (command : PaymentExecute) : Option String :=
  if command.paymentID = "" then some "payment_id is required"
  else if command.idempotencyKey = "" then some "idempotency_key is required"
  else if command.amountCents ≤ 0 then some "amount_cents must be positive"
  else if command.currency = "" then some "currency is required"
  else none

/-- `validateCommand`. -/
def validateCommand (command : PaymentExecute) : ProcessorProg Unit :=
  match invalidCommand? command with
  | some message => .fail (.invalidCommand message)
  | none => pure ()

/-- `CreatePending`: the row of the payment, which is inserted if there is none. -/
def createPending (command : PaymentExecute) (time : Time) : ProcessorProg Attempt := do
  match ← (insertPending command time).attempt with
  | .ok attempt => pure attempt
  | .error .notFound => getByPaymentID command.paymentID
  | .error e => .fail e

/-- `publishCompleted`. -/
def publishCompleted (attempt : Attempt) : ProcessorProg Unit := do
  let completedAt ← orNow attempt.completedAt
  let occurredAt ← now
  enqueue
    { topic := topicPaymentCompleted, partitionKey := attempt.paymentID
      payload := .completed
        { eventID := "payment.completed:" ++ attempt.paymentID
          paymentID := attempt.paymentID
          idempotencyKey := attempt.idempotencyKey
          traceID := attempt.traceID
          processorPaymentID := attempt.processorPaymentID
          status := AttemptStatus.completed.text
          completedAt := completedAt
          occurredAt := occurredAt } }

/-- `publishFailed`. -/
def publishFailed (attempt : Attempt) : ProcessorProg Unit := do
  let failedAt ← orNow attempt.failedAt
  let occurredAt ← now
  enqueue
    { topic := topicPaymentFailed, partitionKey := attempt.paymentID
      payload := .failed
        { eventID := "payment.failed:" ++ attempt.paymentID
          paymentID := attempt.paymentID
          idempotencyKey := attempt.idempotencyKey
          traceID := attempt.traceID
          failureCode := attempt.failureCode
          failureMessage := attempt.failureMessage
          failedAt := failedAt
          occurredAt := occurredAt } }

/-- The request for a charge of the attempt. -/
def chargeRequest (current : Attempt) : RailChargeRequest :=
  { paymentID := current.paymentID, idempotencyKey := current.idempotencyKey
    traceID := current.traceID, amountCents := current.amountCents, currency := current.currency
    ledgerReservationID := current.ledgerReservationID
    walletDebitID := current.walletDebitID }

/-- A charge that went through: the attempt is marked and the result enqueued. -/
def recordCompleted (current : Attempt) (result : RailResult) : ProcessorProg Unit := do
  let completedAt ← orNow result.completedAt
  let time ← now
  let completed ←
    markCompleted current.paymentID { result with completedAt := completedAt } time
  publishCompleted completed

/-- A charge that is not tried again. -/
def recordFailed (current : Attempt) (failure : RailFailure) : ProcessorProg Unit := do
  let time ← now
  let failed ← markFailed current.paymentID failure time
  publishFailed failed

/-- The failure that is recorded after the last attempt. -/
def exhausted (failure : RailFailure) : RailFailure :=
  { code := if failure.code = "" then "rail_retry_exhausted" else failure.code
    message := if failure.message = "" then "retryable rail failure exhausted" else failure.message
    retryable := false }

/-- The loop of `processPending` with `remaining` passes to go, the first of them for
    `nextAttempt`. -/
def attemptFrom (backoffs : List Nat) (paymentID : String) : Nat → Nat → ProcessorProg Unit
  | 0, _ => pure ()
  | remaining + 1, nextAttempt => do
    let time ← now
    let current ← markAttemptStarted paymentID nextAttempt time
    match ← charge (chargeRequest current) with
    | .ok result => recordCompleted current result
    | .error err =>
      let failure := classifyRailFailure err
      if failure.retryable = false then recordFailed current failure
      else if nextAttempt = backoffs.length + 1 then recordFailed current (exhausted failure)
      else do
        sleep (backoffs.getD (nextAttempt - 1) 0)
        attemptFrom backoffs paymentID remaining (nextAttempt + 1)

/-- `processPending`. -/
def processPending (backoffs : List Nat) (attempt : Attempt) : ProcessorProg Unit :=
  let maxAttempts := backoffs.length + 1
  let firstAttempt := min (attempt.attemptCount + 1) maxAttempts
  attemptFrom backoffs attempt.paymentID (maxAttempts + 1 - firstAttempt) firstAttempt

/-- `HandleExecute`. -/
def handleExecute (backoffs : List Nat) (command : PaymentExecute) : ProcessorProg Unit := do
  validateCommand command
  let time ← now
  let attempt ← createPending command time
  match attempt.status with
  | .completed => publishCompleted attempt
  | .failed => publishFailed attempt
  | .pending => processPending backoffs attempt

end Processor

/-! ## Performing a call -/

/-- What the surroundings decide about one call: the fault, the processor's clock, the ID and
    the time of the statement, and the rail's answer. -/
structure ProcessorChoice where
  fault : Fault
  clock : Time
  id : String
  dbNow : Time
  rail : Except RailErr RailResult

/-- The effect of a call that reaches its target. -/
def ProcessorOp.run (c : ProcessorChoice) :
    (o : ProcessorOp) → ProcessorWorld → Except ProcessorErr o.Ret × ProcessorWorld
  | .now, w => (.ok c.clock, w)
  | .insertPending command time, w => commit w (w.insertPending c.id c.dbNow command time)
  | .getByPaymentID paymentID, w => (w.getByPaymentID paymentID, w)
  | .markAttemptStarted paymentID attemptCount time, w =>
    commit w (w.updateAttempt paymentID (ProcessorWorld.started attemptCount time c.dbNow))
  | .markCompleted paymentID result time, w =>
    commit w (w.updateAttempt paymentID (ProcessorWorld.completed result time c.dbNow))
  | .markFailed paymentID failure time, w =>
    commit w (w.updateAttempt paymentID (ProcessorWorld.failed failure time c.dbNow))
  | .charge _, w => (.ok c.rail, w)
  | .sleep _, w => (.ok (), w)
  | .enqueue record, w => (.ok (), { w with outbox := w.outbox ++ [record] })
where
  /-- A statement: an error leaves everything as it was. -/
  commit (w : ProcessorWorld) :
      Except ProcessorErr (Attempt × ProcessorWorld) → Except ProcessorErr Attempt × ProcessorWorld
    | .ok (a, w') => (.ok a, w')
    | .error e => (.error e, w)

/-- One call under a choice. Reading the clock cannot fail, and the error of a charge is an
    answer. -/
def ProcessorOp.exec (c : ProcessorChoice) (o : ProcessorOp) (w : ProcessorWorld) :
    Except ProcessorErr o.Ret × ProcessorWorld :=
  match o, c.fault with
  | .now, _ => (.ok c.clock, w)
  | .charge _, _ => (.ok c.rail, w)
  | o, .none => o.run c w
  | _, .notDelivered => (.error .interrupted, w)
  | o, .answerLost => (.error .interrupted, (o.run c w).2)

/-- What answers the calls of the processor. -/
def processorMachine :
    Machine ProcessorOp ProcessorOp.Ret ProcessorErr ProcessorWorld Unit ProcessorChoice where
  exec := ProcessorOp.exec
  see _ _ _ := ()

end EnjoyThings
