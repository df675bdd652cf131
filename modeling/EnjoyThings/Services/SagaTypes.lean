import Mathlib.Data.Rat.Defs
import EnjoyThings.Services.Domain

/-!
# Saga rows, events and requests

`internal/saga/types.go`, the fraud and transfer events of `internal/event`, and
the outbox record of the orchestrator. JSON documents are kept as the values they
encode: an outbox payload is one of the event structs, the deferred payment
result of a saga is the event it was made from, and the details of an audit
record are the fields of its document. Risk scores are rationals, as the decoder
of the event only lets finite numbers through.
-/

namespace EnjoyThings

/-- The saga states, `StateStarted` and so on. -/
inductive SagaState
  | started
  | verificationChecked
  | walletDebited
  | ledgerReserved
  | paymentProcessing
  | fraudReview
  | ledgerConfirmed
  | completed
  | compensatingLedger
  | compensatingWallet
  | failed
  deriving DecidableEq, Repr

/-- The two states no result, decision or restart acts on. -/
def SagaState.terminal : SagaState → Bool
  | .completed | .failed => true
  | _ => false

def verificationVerified : String := "verified"
def failureCodeFraudRejected : String := "fraud_rejected"
def defaultRejectReason : String := "rejected in fraud review"

/-- The topics of the outbox; `configured` is the topic a deployment sets for transfers. -/
inductive Topic
  | paymentExecute
  | fraudScoreRequested
  | txCompleted
  | txFailed
  | txPaused
  | txInitiated
  | configured (name : String)
  deriving DecidableEq, Repr

def topicPaymentExecute : String := "payment.execute"
def topicPaymentCompleted : String := "payment.completed"
def topicPaymentFailed : String := "payment.failed"
def topicTxCompleted : String := "tx.completed"
def topicTxFailed : String := "tx.failed"
def fraudScoreRequestedTopic : String := "fraud.score.requested"
def fraudFlaggedTopic : String := "fraud.flagged"
def txPausedTopic : String := "tx.paused"

/-! ## Payment results -/

structure PaymentCompleted where
  eventID : String
  paymentID : String
  idempotencyKey : String
  traceID : String
  processorPaymentID : String
  status : String
  completedAt : Time
  occurredAt : Time
  deriving DecidableEq

structure PaymentFailed where
  eventID : String
  paymentID : String
  idempotencyKey : String
  traceID : String
  failureCode : String
  failureMessage : String
  failedAt : Time
  occurredAt : Time
  deriving DecidableEq

/-- A stored payment result: the document of one of the two events. -/
inductive PaymentResult
  | completed (event : PaymentCompleted)
  | failed (event : PaymentFailed)
  deriving DecidableEq

/-- The payment a result is about. -/
def PaymentResult.paymentID : PaymentResult → String
  | .completed e => e.paymentID
  | .failed e => e.paymentID

/-- The document decoded as a completion: fields it does not have are zero. -/
def PaymentResult.asCompleted : PaymentResult → PaymentCompleted
  | .completed e => e
  | .failed e =>
    { eventID := e.eventID, paymentID := e.paymentID, idempotencyKey := e.idempotencyKey,
      traceID := e.traceID, processorPaymentID := "", status := "", completedAt := 0,
      occurredAt := e.occurredAt }

/-- The document decoded as a failure: fields it does not have are zero. -/
def PaymentResult.asFailed : PaymentResult → PaymentFailed
  | .failed e => e
  | .completed e =>
    { eventID := e.eventID, paymentID := e.paymentID, idempotencyKey := e.idempotencyKey,
      traceID := e.traceID, failureCode := "", failureMessage := "", failedAt := 0,
      occurredAt := e.occurredAt }

/-- `deferredEventID`. -/
def deferredEventID : PaymentResult → String
  | .completed e => e.eventID
  | .failed e => e.eventID

/-! ## The saga row -/

/-- A row of `sagas`. An empty text, `none` and time `0` are its NULLs. -/
structure Saga where
  id : String := ""
  paymentID : String
  idempotencyKey : String
  userID : String
  fromWalletID : String
  toWalletID : String
  amountCents : Int64
  currency : String
  state : SagaState
  lastError : String := ""
  traceID : String := ""
  walletDebitID : String := ""
  ledgerReservationID : String := ""
  transferID : String := ""
  failureCode : String := ""
  fraudSessionID : String := ""
  fraudAction : String := ""
  fraudRiskScore : Rat := 0
  fraudReason : String := ""
  fraudFlaggedAt : Time := 0
  deferredPaymentJSON : Option PaymentResult := none
  createdAt : Time := 0
  updatedAt : Time := 0
  deriving DecidableEq

structure StartRequest where
  paymentID : String
  idempotencyKey : String
  traceID : String
  userID : String
  fromWalletID : String
  toWalletID : String
  amountCents : Int64
  currency : String
  deriving DecidableEq

structure FraudReviewDecision where
  paymentID : String
  actorID : String
  reason : String
  traceID : String
  deriving DecidableEq

/-! ## Requests to the other services -/

structure VerificationRequest where
  userID : String
  traceID : String
  deriving DecidableEq

structure VerificationResult where
  status : String
  deriving DecidableEq

structure WalletDebitRequest where
  paymentID : String
  idempotencyKey : String
  traceID : String
  fromWalletID : String
  amountCents : Int64
  currency : String

structure WalletDebitResult where
  walletDebitID : String

structure WalletCompensateRequest where
  paymentID : String
  idempotencyKey : String
  traceID : String
  fromWalletID : String
  walletDebitID : String
  amountCents : Int64
  currency : String
  reason : String

structure LedgerReserveRequest where
  paymentID : String
  idempotencyKey : String
  traceID : String
  fromWalletID : String
  toWalletID : String
  amountCents : Int64
  currency : String

structure LedgerReserveResult where
  ledgerReservationID : String

structure LedgerConfirmRequest where
  paymentID : String
  idempotencyKey : String
  traceID : String
  ledgerReservationID : String
  walletDebitID : String

structure LedgerConfirmResult where
  transferID : String
  completedAt : Time

structure LedgerCancelRequest where
  paymentID : String
  idempotencyKey : String
  traceID : String
  ledgerReservationID : String
  reason : String

/-! ## Events -/

structure PaymentExecute where
  eventID : String
  paymentID : String
  idempotencyKey : String
  traceID : String
  fromWalletID : String
  toWalletID : String
  amountCents : Int64
  currency : String
  ledgerReservationID : String
  walletDebitID : String
  occurredAt : Time
  deriving DecidableEq

structure TxCompleted where
  eventID : String
  paymentID : String
  traceID : String
  fromWalletID : String
  toWalletID : String
  amountCents : Int64
  currency : String
  transferID : String
  completedAt : Time
  occurredAt : Time
  deriving DecidableEq

structure TxFailed where
  eventID : String
  paymentID : String
  traceID : String
  fromWalletID : String
  toWalletID : String
  amountCents : Int64
  currency : String
  failureCode : String
  failureMessage : String
  failedAt : Time
  occurredAt : Time
  deriving DecidableEq

structure FraudScoreRequested where
  schemaVersion : Nat
  eventID : String
  paymentID : String
  userID : String
  fromWalletID : String
  toWalletID : String
  amountCents : Int64
  currency : String
  occurredAt : Time
  traceID : String
  deriving DecidableEq

structure FraudFlagged where
  schemaVersion : Int
  eventID : String
  sourceEventID : String
  paymentID : String
  sessionID : String
  action : String
  riskScore : Rat
  reason : String
  providerID : String
  modelID : String
  occurredAt : Time
  traceID : String
  deriving DecidableEq

structure TxPaused where
  schemaVersion : Nat
  eventID : String
  paymentID : String
  sessionID : String
  action : String
  riskScore : Rat
  reason : String
  pausedAt : Time
  occurredAt : Time
  traceID : String
  deriving DecidableEq

structure TransactionInitiated where
  transferID : String
  fromWalletID : String
  toWalletID : String
  amountCents : Int64
  currency : String
  initiatedAt : Time
  deriving DecidableEq

def fraudActionFlag : String := "flag"
def fraudActionBlock : String := "block"

def fraudScoreRequestedEventID (paymentID : String) : String :=
  fraudScoreRequestedTopic ++ ":" ++ paymentID

def fraudFlaggedEventID (sourceEventID : String) : String :=
  fraudFlaggedTopic ++ ":" ++ sourceEventID

def txPausedEventID (paymentID : String) : String :=
  txPausedTopic ++ ":" ++ paymentID

/-- `FraudFlagged.Validate`; times here are UTC, so only the zero time is refused. -/
def FraudFlagged.valid (event : FraudFlagged) : Bool :=
  event.schemaVersion = 1 && event.eventID = fraudFlaggedEventID event.sourceEventID &&
    event.sourceEventID ≠ "" && event.paymentID ≠ "" && event.sessionID ≠ "" &&
    (event.action = fraudActionFlag || event.action = fraudActionBlock) &&
    0 ≤ event.riskScore && event.riskScore ≤ 1 && event.reason ≠ "" &&
    event.providerID ≠ "" && event.modelID ≠ "" && event.occurredAt ≠ 0 && event.traceID ≠ ""

/-! ## Outbox and audit records -/

/-- What an outbox row carries. -/
inductive Payload
  | paymentExecute (event : PaymentExecute)
  | fraudScoreRequested (event : FraudScoreRequested)
  | txCompleted (event : TxCompleted)
  | txFailed (event : TxFailed)
  | txPaused (event : TxPaused)
  | transactionInitiated (event : TransactionInitiated)
  deriving DecidableEq

structure OutboxRecord where
  topic : Topic
  partitionKey : String
  payload : Payload
  deriving DecidableEq

/-- `FraudAuditKindOrphan` and its siblings. -/
inductive FraudAuditKind
  | orphan
  | ignored
  | transition
  | deferredTerminal
  | invariantViolation
  | duplicate
  | reviewResumed
  | reviewRejected
  deriving DecidableEq, Repr

/-- The outcomes a payment result is audited with. -/
inductive ResultOutcome
  | duplicate
  | terminalStateMismatch
  | conflictingTerminalResult
  | deferred
  deriving DecidableEq, Repr

inductive ReviewAction
  | resume
  | reject
  deriving DecidableEq, Repr

def ReviewAction.text : ReviewAction → String
  | .resume => "resume"
  | .reject => "reject"

/-- The document of an audit record. -/
inductive AuditDetails
  | fraudFlagged (sourceEventID paymentID : String) (state : Option SagaState)
      (kind : FraudAuditKind) (sessionID action : String) (riskScore : Rat) (reason : String)
  | paymentResult (topic eventID : String) (state : SagaState) (outcome : ResultOutcome)
      (status : String) (timestamp occurredAt : Time)
      (traceID processorPaymentID failureCode failureMessage : String)
  | review (action : ReviewAction) (paymentID actorID reason : String)
      (fromState toState : SagaState) (traceID : String) (deferred : Option PaymentResult)
  deriving DecidableEq

structure FraudAuditRecord where
  eventID : String
  paymentID : String
  kind : FraudAuditKind
  sagaState : Option SagaState
  detailsJSON : AuditDetails
  createdAt : Time
  deriving DecidableEq

end EnjoyThings
