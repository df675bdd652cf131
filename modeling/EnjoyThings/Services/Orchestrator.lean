import EnjoyThings.ForStd.Prog
import EnjoyThings.Services.SagaStore

/-!
# The saga orchestrator

`internal/saga/orchestrator.go`, `fraud_review.go` and `review_reaper.go` over
the PostgreSQL store. A handler is a program whose steps are the calls it makes:
store reads and writes, RPCs to verification, wallet and ledger, outbox enqueues
and clock readings. What happens between two steps (other handlers, a crash) is
left to the run. Spans and metrics are left out.
-/

namespace EnjoyThings

open Effect (Prog)

/-- The calls a handler makes. -/
inductive SagaOp
  | now
  | create (saga : Saga)
  | getByPaymentID (paymentID : String)
  | listNonTerminal
  | update (saga : Saga)
  | updateWithOutbox (saga : Saga) (events : List OutboxRecord)
  | updateWithAudit (saga : Saga) (audit : FraudAuditRecord)
  | updateWithOutboxAndAudit (saga : Saga) (events : List OutboxRecord) (audit : FraudAuditRecord)
  | recordFraudAudit (audit : FraudAuditRecord)
  | getStatus (req : VerificationRequest)
  | debitForSaga (req : WalletDebitRequest)
  | compensateDebit (req : WalletCompensateRequest)
  | reserveTransfer (req : LedgerReserveRequest)
  | confirmTransfer (req : LedgerConfirmRequest)
  | cancelReservation (req : LedgerCancelRequest)
  | enqueue (record : OutboxRecord)

/-- What each call returns. -/
@[reducible] def SagaOp.Ret : SagaOp → Type
  | .now => Time
  | .create _ | .getByPaymentID _ | .update _ | .updateWithOutbox _ _ => Saga
  | .updateWithAudit _ _ | .updateWithOutboxAndAudit _ _ _ => Saga
  | .listNonTerminal => List Saga
  | .recordFraudAudit _ | .compensateDebit _ | .cancelReservation _ | .enqueue _ => Unit
  | .getStatus _ => VerificationResult
  | .debitForSaga _ => WalletDebitResult
  | .reserveTransfer _ => LedgerReserveResult
  | .confirmTransfer _ => LedgerConfirmResult

abbrev SagaProg (α : Type) : Type := Prog SagaOp SagaOp.Ret SagaErr α

namespace Orchestrator

/-! ## The calls -/

abbrev now : SagaProg Time := Prog.perform SagaOp.now

abbrev create (saga : Saga) : SagaProg Saga := Prog.perform (SagaOp.create saga)

abbrev getByPaymentID (paymentID : String) : SagaProg Saga :=
  Prog.perform (SagaOp.getByPaymentID paymentID)

abbrev listNonTerminal : SagaProg (List Saga) := Prog.perform SagaOp.listNonTerminal

abbrev update (saga : Saga) : SagaProg Saga := Prog.perform (SagaOp.update saga)

abbrev updateWithOutbox (saga : Saga) (events : List OutboxRecord) : SagaProg Saga :=
  Prog.perform (SagaOp.updateWithOutbox saga events)

abbrev updateWithAudit (saga : Saga) (audit : FraudAuditRecord) : SagaProg Saga :=
  Prog.perform (SagaOp.updateWithAudit saga audit)

abbrev updateWithOutboxAndAudit (saga : Saga) (events : List OutboxRecord)
    (audit : FraudAuditRecord) : SagaProg Saga :=
  Prog.perform (SagaOp.updateWithOutboxAndAudit saga events audit)

abbrev recordFraudAudit (audit : FraudAuditRecord) : SagaProg Unit :=
  Prog.perform (SagaOp.recordFraudAudit audit)

abbrev getStatus (req : VerificationRequest) : SagaProg VerificationResult :=
  Prog.perform (SagaOp.getStatus req)

abbrev debitForSaga (req : WalletDebitRequest) : SagaProg WalletDebitResult :=
  Prog.perform (SagaOp.debitForSaga req)

abbrev compensateDebit (req : WalletCompensateRequest) : SagaProg Unit :=
  Prog.perform (SagaOp.compensateDebit req)

abbrev reserveTransfer (req : LedgerReserveRequest) : SagaProg LedgerReserveResult :=
  Prog.perform (SagaOp.reserveTransfer req)

abbrev confirmTransfer (req : LedgerConfirmRequest) : SagaProg LedgerConfirmResult :=
  Prog.perform (SagaOp.confirmTransfer req)

abbrev cancelReservation (req : LedgerCancelRequest) : SagaProg Unit :=
  Prog.perform (SagaOp.cancelReservation req)

abbrev enqueue (record : OutboxRecord) : SagaProg Unit := Prog.perform (SagaOp.enqueue record)

/-! ## Keys, requests and events -/

def stepKey (paymentID step : String) : String :=
  paymentID ++ ":" ++ step

/-- `traceID`: the preferred one unless it is empty. -/
def traceIDOr (preferred fallback : String) : String :=
  if preferred ≠ "" then preferred else fallback

def nonZeroTime (value fallback : Time) : Time :=
  if value = 0 then fallback else value

def walletDebitRequest (current : Saga) : WalletDebitRequest :=
  { paymentID := current.paymentID
    idempotencyKey := stepKey current.paymentID "debit-wallet"
    traceID := current.traceID
    fromWalletID := current.fromWalletID
    amountCents := current.amountCents
    currency := current.currency }

def ledgerReserveRequest (current : Saga) : LedgerReserveRequest :=
  { paymentID := current.paymentID
    idempotencyKey := stepKey current.paymentID "reserve-ledger"
    traceID := current.traceID
    fromWalletID := current.fromWalletID
    toWalletID := current.toWalletID
    amountCents := current.amountCents
    currency := current.currency }

def ledgerConfirmRequest (current : Saga) (traceID : String) : LedgerConfirmRequest :=
  { paymentID := current.paymentID
    idempotencyKey := stepKey current.paymentID "confirm-ledger"
    traceID := traceID
    ledgerReservationID := current.ledgerReservationID
    walletDebitID := current.walletDebitID }

def ledgerCancelRequest (current : Saga) (traceID reason : String) : LedgerCancelRequest :=
  { paymentID := current.paymentID
    idempotencyKey := stepKey current.paymentID "cancel-ledger"
    traceID := traceID
    ledgerReservationID := current.ledgerReservationID
    reason := reason }

def walletCompensateRequest (current : Saga) (traceID reason : String) :
    WalletCompensateRequest :=
  { paymentID := current.paymentID
    idempotencyKey := stepKey current.paymentID "compensate-wallet"
    traceID := traceID
    fromWalletID := current.fromWalletID
    walletDebitID := current.walletDebitID
    amountCents := current.amountCents
    currency := current.currency
    reason := reason }

/-- The `payment.execute` row. -/
def paymentExecuteRecord (current : Saga) (time : Time) : OutboxRecord :=
  { topic := .paymentExecute
    partitionKey := current.paymentID
    payload := .paymentExecute
      { eventID := topicPaymentExecute ++ ":" ++ current.paymentID
        paymentID := current.paymentID
        idempotencyKey := stepKey current.paymentID "execute-payment"
        traceID := current.traceID
        fromWalletID := current.fromWalletID
        toWalletID := current.toWalletID
        amountCents := current.amountCents
        currency := current.currency
        ledgerReservationID := current.ledgerReservationID
        walletDebitID := current.walletDebitID
        occurredAt := time } }

/-- The `fraud.score.requested` row. -/
def fraudScoreRecord (current : Saga) (time : Time) : OutboxRecord :=
  { topic := .fraudScoreRequested
    partitionKey := current.paymentID
    payload := .fraudScoreRequested
      { schemaVersion := 1
        eventID := fraudScoreRequestedEventID current.paymentID
        paymentID := current.paymentID
        userID := current.userID
        fromWalletID := current.fromWalletID
        toWalletID := current.toWalletID
        amountCents := current.amountCents
        currency := current.currency
        occurredAt := time
        traceID := current.traceID } }

/-- The `tx.completed` row of `publishTxCompleted`. -/
def txCompletedRecord (current : Saga) (traceID : String) (completedAt occurredAt : Time) :
    OutboxRecord :=
  { topic := .txCompleted
    partitionKey := current.fromWalletID
    payload := .txCompleted
      { eventID := topicTxCompleted ++ ":" ++ current.paymentID
        paymentID := current.paymentID
        traceID := traceID
        fromWalletID := current.fromWalletID
        toWalletID := current.toWalletID
        amountCents := current.amountCents
        currency := current.currency
        transferID := current.transferID
        completedAt := completedAt
        occurredAt := occurredAt } }

/-- The `tx.failed` row of `publishTxFailed`. -/
def txFailedRecord (current : Saga) (traceID : String) (failedAt occurredAt : Time) :
    OutboxRecord :=
  { topic := .txFailed
    partitionKey := current.fromWalletID
    payload := .txFailed
      { eventID := topicTxFailed ++ ":" ++ current.paymentID
        paymentID := current.paymentID
        traceID := traceID
        fromWalletID := current.fromWalletID
        toWalletID := current.toWalletID
        amountCents := current.amountCents
        currency := current.currency
        failureCode := current.failureCode
        failureMessage := current.lastError
        failedAt := failedAt
        occurredAt := occurredAt } }

/-- The `tx.paused` row of a saga that goes into review. -/
def txPausedRecord (current : Saga) (traceID : String) (time : Time) : OutboxRecord :=
  { topic := .txPaused
    partitionKey := current.paymentID
    payload := .txPaused
      { schemaVersion := 1
        eventID := txPausedEventID current.paymentID
        paymentID := current.paymentID
        sessionID := current.fraudSessionID
        action := current.fraudAction
        riskScore := current.fraudRiskScore
        reason := current.fraudReason
        pausedAt := time
        occurredAt := time
        traceID := traceID } }

def publishTxCompleted (current : Saga) (traceID : String) (completedAt : Time) :
    SagaProg Unit := do
  let occurredAt ← now
  enqueue (txCompletedRecord current traceID completedAt occurredAt)

def publishTxFailed (current : Saga) (traceID : String) (failedAt : Time) : SagaProg Unit := do
  let occurredAt ← now
  enqueue (txFailedRecord current traceID failedAt occurredAt)

/-! ## Starting a payment -/

/-- `failUnverified`: the saga ends before any money moved. -/
def failUnverified (current : Saga) : SagaProg Saga := do
  let time ← now
  let _ ← update { current with state := .failed, lastError := unverifiedMessage,
                                updatedAt := time }
  .fail .unverified

/-- The first stage of `advance`, for a saga in STARTED. -/
def checkVerification (current : Saga) : SagaProg Saga :=
  if current.state = .started then do
    match ← (getStatus { userID := current.userID, traceID := current.traceID }).attempt with
    | .error .verificationNotFound => failUnverified current
    | .error e => .fail e
    | .ok verification =>
      if verification.status ≠ verificationVerified then failUnverified current
      else
        let time ← now
        update { current with state := .verificationChecked, updatedAt := time }
  else pure current

/-- The second stage of `advance`, for a saga in VERIFICATION_CHECKED. -/
def debitWallet (current : Saga) : SagaProg Saga :=
  if current.state = .verificationChecked then do
    let debit ← debitForSaga (walletDebitRequest current)
    let time ← now
    update { current with state := .walletDebited, walletDebitID := debit.walletDebitID,
                          updatedAt := time }
  else pure current

/-- The third stage of `advance`, for a saga in WALLET_DEBITED. -/
def reserveLedger (current : Saga) : SagaProg Saga :=
  if current.state = .walletDebited then do
    let reservation ← reserveTransfer (ledgerReserveRequest current)
    let time ← now
    update { current with state := .ledgerReserved,
                          ledgerReservationID := reservation.ledgerReservationID,
                          updatedAt := time }
  else pure current

/-- The last stage of `advance`, for a saga in LEDGER_RESERVED: the row and its two outbox
    rows are one transaction. -/
def executePayment (current : Saga) : SagaProg Saga :=
  if current.state = .ledgerReserved then do
    let time ← now
    updateWithOutbox { current with state := .paymentProcessing, updatedAt := time }
      [paymentExecuteRecord current time, fraudScoreRecord current time]
  else pure current

/-- `advance`: each stage takes the row the stage before it left. -/
def advance (current : Saga) : SagaProg Saga := do
  let current ← checkVerification current
  let current ← debitWallet current
  let current ← reserveLedger current
  executePayment current

/-- The row `StartPaymentSaga` asks the store to create. -/
def startedSaga (req : StartRequest) (time : Time) : Saga :=
  { paymentID := req.paymentID
    idempotencyKey := req.idempotencyKey
    userID := req.userID
    fromWalletID := req.fromWalletID
    toWalletID := req.toWalletID
    amountCents := req.amountCents
    currency := req.currency
    state := .started
    traceID := req.traceID
    createdAt := time
    updatedAt := time }

def startPaymentSaga (req : StartRequest) : SagaProg Saga := do
  let time ← now
  let created ← create (startedSaga req time)
  if created.state ≠ .started then pure created else advance created

/-! ## Compensation and restart -/

/-- The tail of `resumeCompensation`, once the reservation is canceled. -/
def compensateWallet (current : Saga) : SagaProg Unit := do
  compensateDebit (walletCompensateRequest current current.traceID current.lastError)
  let time ← now
  let updated ← update { current with state := .failed, updatedAt := time }
  let failedAt ← now
  publishTxFailed updated updated.traceID failedAt

def resumeCompensation (current : Saga) (cancelLedger : Bool) : SagaProg Unit :=
  if cancelLedger then do
    cancelReservation (ledgerCancelRequest current current.traceID current.lastError)
    let time ← now
    let updated ← update { current with state := .compensatingWallet, updatedAt := time }
    compensateWallet updated
  else compensateWallet current

/-- `resumeOne`: what a restart does with one non-terminal saga. -/
def resumeOne (current : Saga) : SagaProg Unit :=
  match current.state with
  | .ledgerConfirmed => do
    let completedAt ← now
    publishTxCompleted current current.traceID completedAt
    let time ← now
    let _ ← update { current with state := .completed, updatedAt := time }
  | .compensatingLedger => resumeCompensation current true
  | .compensatingWallet => resumeCompensation current false
  | .paymentProcessing => pure ()
  | _ => do
    let _ ← advance current

/-- The loop of `ResumeNonTerminal`: the first error ends it. -/
def resumeEach : List Saga → SagaProg Unit
  | [] => pure ()
  | current :: rest => do
    resumeOne current
    resumeEach rest

def resumeNonTerminal : SagaProg Unit := do
  let sagas ← listNonTerminal
  resumeEach sagas

/-! ## Payment results -/

/-- `paymentResultAuditJSON` of a completion. -/
def completedAuditJSON (event : PaymentCompleted) (state : SagaState) (outcome : ResultOutcome) :
    AuditDetails :=
  .paymentResult topicPaymentCompleted event.eventID state outcome event.status event.completedAt
    event.occurredAt event.traceID event.processorPaymentID "" ""

/-- `paymentResultAuditJSON` of a failure. -/
def failedAuditJSON (event : PaymentFailed) (state : SagaState) (outcome : ResultOutcome) :
    AuditDetails :=
  .paymentResult topicPaymentFailed event.eventID state outcome "" event.failedAt
    event.occurredAt event.traceID "" event.failureCode event.failureMessage

/-- The audit of a result that is not applied. -/
def auditResult (current : Saga) (eventID : String) (kind : FraudAuditKind)
    (details : AuditDetails) : SagaProg Unit := do
  let time ← now
  recordFraudAudit { eventID := eventID, paymentID := current.paymentID, kind := kind,
                     sagaState := some current.state, detailsJSON := details, createdAt := time }

/-- `deferPaymentCompleted` and `deferPaymentFailed`: a saga under review keeps the first
    result it gets, later ones are only audited. `details` is the event's audit document. -/
def deferPaymentResult (current : Saga) (result : PaymentResult)
    (details : ResultOutcome → AuditDetails) : SagaProg Unit :=
  match current.deferredPaymentJSON with
  | some deferred =>
    if deferredEventID deferred = deferredEventID result then
      auditResult current (deferredEventID result) .duplicate (details .duplicate)
    else
      auditResult current (deferredEventID result) .invariantViolation
        (details .conflictingTerminalResult)
  | none => do
    let time ← now
    let _ ← updateWithAudit
      { current with deferredPaymentJSON := some result, updatedAt := time }
      { eventID := deferredEventID result, paymentID := current.paymentID,
        kind := .deferredTerminal, sagaState := some current.state,
        detailsJSON := details .deferred, createdAt := time }

def deferPaymentCompleted (current : Saga) (event : PaymentCompleted) : SagaProg Unit :=
  deferPaymentResult current (.completed event) (completedAuditJSON event current.state)

def deferPaymentFailed (current : Saga) (event : PaymentFailed) : SagaProg Unit :=
  deferPaymentResult current (.failed event) (failedAuditJSON event current.state)

/-- The part of `HandlePaymentCompleted` that applies the result. -/
def applyPaymentCompleted (current : Saga) (event : PaymentCompleted) : SagaProg Unit := do
  let confirmed ← confirmTransfer
    (ledgerConfirmRequest current (traceIDOr event.traceID current.traceID))
  let time ← now
  let current ← update { current with state := .ledgerConfirmed,
                                      transferID := confirmed.transferID, updatedAt := time }
  publishTxCompleted current (traceIDOr event.traceID current.traceID)
    (nonZeroTime confirmed.completedAt time)
  let _ ← update { current with state := .completed, updatedAt := time }

def handlePaymentCompleted (event : PaymentCompleted) : SagaProg Unit := do
  let current ← getByPaymentID event.paymentID
  match current.state with
  | .completed =>
    auditResult current event.eventID .duplicate
      (completedAuditJSON event current.state .duplicate)
  | .failed =>
    auditResult current event.eventID .invariantViolation
      (completedAuditJSON event current.state .terminalStateMismatch)
  | .fraudReview => deferPaymentCompleted current event
  | _ => applyPaymentCompleted current event

/-- The part of `HandlePaymentFailed` that applies the result. -/
def applyPaymentFailed (current : Saga) (event : PaymentFailed) : SagaProg Unit := do
  let time ← now
  let current ← update { current with state := .compensatingLedger,
                                      failureCode := event.failureCode,
                                      lastError := event.failureMessage, updatedAt := time }
  cancelReservation (ledgerCancelRequest current (traceIDOr event.traceID current.traceID)
    event.failureMessage)
  let current ← update { current with state := .compensatingWallet, updatedAt := time }
  compensateDebit (walletCompensateRequest current (traceIDOr event.traceID current.traceID)
    event.failureMessage)
  let current ← update { current with state := .failed, updatedAt := time }
  publishTxFailed current (traceIDOr event.traceID current.traceID)
    (nonZeroTime event.failedAt time)

def handlePaymentFailed (event : PaymentFailed) : SagaProg Unit := do
  let current ← getByPaymentID event.paymentID
  match current.state with
  | .failed =>
    auditResult current event.eventID .duplicate (failedAuditJSON event current.state .duplicate)
  | .completed =>
    auditResult current event.eventID .invariantViolation
      (failedAuditJSON event current.state .terminalStateMismatch)
  | .fraudReview => deferPaymentFailed current event
  | _ => applyPaymentFailed current event

/-! ## Fraud flags -/

def fraudFlaggedAuditKind : SagaState → FraudAuditKind
  | .paymentProcessing => .transition
  | .fraudReview | .completed | .failed => .duplicate
  | _ => .ignored

/-- `fraudFlaggedAuditJSON`; there is no state when there is no saga. -/
def fraudFlaggedAuditJSON (flagged : FraudFlagged) (state : Option SagaState)
    (kind : FraudAuditKind) : AuditDetails :=
  .fraudFlagged flagged.sourceEventID flagged.paymentID state kind flagged.sessionID
    flagged.action flagged.riskScore flagged.reason

/-- The fraud columns a flag sets on the row. -/
def withFraudMetadata (current : Saga) (flagged : FraudFlagged) (time : Time) : Saga :=
  { current with
    fraudSessionID := flagged.sessionID
    fraudAction := flagged.action
    fraudRiskScore := flagged.riskScore
    fraudReason := flagged.reason
    fraudFlaggedAt := nonZeroTime flagged.occurredAt time
    updatedAt := time }

/-- The audit record of a flag for a saga. -/
def fraudFlaggedAudit (flagged : FraudFlagged) (current : Saga) (time : Time) :
    FraudAuditRecord :=
  { eventID := flagged.eventID
    paymentID := current.paymentID
    kind := fraudFlaggedAuditKind current.state
    sagaState := some current.state
    detailsJSON := fraudFlaggedAuditJSON flagged (some current.state)
      (fraudFlaggedAuditKind current.state)
    createdAt := time }

/-- A flag for a payment without a saga. -/
def auditOrphan (flagged : FraudFlagged) : SagaProg Unit := do
  let time ← now
  recordFraudAudit
    { eventID := flagged.eventID, paymentID := flagged.paymentID, kind := .orphan,
      sagaState := none, detailsJSON := fraudFlaggedAuditJSON flagged none .orphan,
      createdAt := time }

/-- The part of `HandleFraudFlagged` that writes the row: only a saga in
    PAYMENT_PROCESSING goes into review. -/
def applyFraudFlagged (current : Saga) (flagged : FraudFlagged) : SagaProg Unit := do
  let time ← now
  let marked := withFraudMetadata current flagged time
  let audit := fraudFlaggedAudit flagged current time
  if current.state = .paymentProcessing then
    let _ ← updateWithOutboxAndAudit { marked with state := .fraudReview }
      [txPausedRecord marked (traceIDOr flagged.traceID current.traceID) time] audit
  else
    let _ ← updateWithAudit marked audit

def handleFraudFlagged (flagged : FraudFlagged) : SagaProg Unit :=
  if flagged.valid then do
    match ← (getByPaymentID flagged.paymentID).attempt with
    | .error .notFound => auditOrphan flagged
    | .error e => .fail e
    | .ok current => applyFraudFlagged current flagged
  else .fail .invalidFraudEvent

/-! ## Review decisions -/

/-- `reviewAuditEventID`. -/
def reviewAuditEventID (action : ReviewAction) (paymentID : String) (time : Time) : String :=
  "review." ++ action.text ++ ":" ++ paymentID ++ ":" ++ Go.formatRFC3339Nano time

/-- `reviewAuditJSON`. -/
def reviewAuditJSON (action : ReviewAction) (decision : FraudReviewDecision)
    (fromState toState : SagaState) (deferred : Option PaymentResult) : AuditDetails :=
  .review action decision.paymentID decision.actorID (Go.trimSpace decision.reason) fromState
    toState decision.traceID deferred

/-- The audit record of a decision. -/
def reviewAudit (action : ReviewAction) (kind : FraudAuditKind) (decision : FraudReviewDecision)
    (current : Saga) (toState : SagaState) (time : Time) : FraudAuditRecord :=
  { eventID := reviewAuditEventID action current.paymentID time
    paymentID := current.paymentID
    kind := kind
    sagaState := some .fraudReview
    detailsJSON := reviewAuditJSON action decision .fraudReview toState
      current.deferredPaymentJSON
    createdAt := time }

/-- `applyDeferredResult`: the event ID tells a completion from a failure. -/
def applyDeferredResult (deferred : PaymentResult) (fallbackTraceID : String) : SagaProg Unit :=
  if Go.hasPrefix (deferredEventID deferred) (topicPaymentCompleted ++ ":") then
    let completed := deferred.asCompleted
    handlePaymentCompleted
      { completed with traceID := traceIDOr completed.traceID fallbackTraceID }
  else if Go.hasPrefix (deferredEventID deferred) (topicPaymentFailed ++ ":") then
    let failed := deferred.asFailed
    handlePaymentFailed { failed with traceID := traceIDOr failed.traceID fallbackTraceID }
  else .fail .unknownDeferredResult

/-- `ResumeFraudReview`. The deferred result is cleared from the row before it is applied. -/
def resumeFraudReview (decision : FraudReviewDecision) : SagaProg Saga := do
  let current ← getByPaymentID decision.paymentID
  if current.state ≠ .fraudReview then .fail .notUnderReview
  else
    let time ← now
    let updated ← updateWithAudit
      { current with state := .paymentProcessing, deferredPaymentJSON := none, updatedAt := time }
      (reviewAudit .resume .reviewResumed decision current .paymentProcessing time)
    match current.deferredPaymentJSON with
    | none => pure updated
    | some deferred =>
      applyDeferredResult deferred decision.traceID
      getByPaymentID decision.paymentID

/-- The reason a rejection is stored with. -/
def rejectReason (decision : FraudReviewDecision) : String :=
  if Go.trimSpace decision.reason = "" then defaultRejectReason
  else Go.trimSpace decision.reason

/-- `RejectFraudReview`. The deferred result stays on the row. -/
def rejectFraudReview (decision : FraudReviewDecision) : SagaProg Saga := do
  let current ← getByPaymentID decision.paymentID
  if current.state ≠ .fraudReview then .fail .notUnderReview
  else
    let time ← now
    let updated ← updateWithAudit
      { current with state := .compensatingLedger, failureCode := failureCodeFraudRejected,
                     lastError := rejectReason decision, updatedAt := time }
      (reviewAudit .reject .reviewRejected decision current .compensatingLedger time)
    resumeCompensation updated true
    getByPaymentID decision.paymentID

/-! ## The review reaper -/

def reviewReaperActorID : String := "system:fraud-review-reaper"

/-- `reviewStartedAt`. -/
def reviewStartedAt (current : Saga) : Time :=
  if current.fraudFlaggedAt ≠ 0 then current.fraudFlaggedAt else current.updatedAt

/-- A listed saga whose review began at or before the deadline `time - ttl`. -/
def reviewExpired (ttl : Int) (time : Time) (current : Saga) : Prop :=
  current.state = .fraudReview ∧ (reviewStartedAt current : Int) ≤ (time : Int) - ttl

instance (ttl : Int) (time : Time) (current : Saga) :
    Decidable (reviewExpired ttl time current) :=
  inferInstanceAs (Decidable (_ ∧ _))

/-- The decision of the reaper on an overdue review. -/
def expiryDecision (ttl : Int) (current : Saga) : FraudReviewDecision :=
  { paymentID := current.paymentID
    actorID := reviewReaperActorID
    reason := "fraud review deadline of " ++ Go.formatDuration ttl.toNat ++ " exceeded"
    traceID := current.traceID }

/-- The loop of `ExpireFraudReviews`: the number of rejections and the failures, with the
    payment each belongs to. A saga that has left review is skipped. -/
def expireEach (ttl : Int) (time : Time) :
    List Saga → Nat → List (String × SagaErr) → SagaProg (Nat × List (String × SagaErr))
  | [], expired, failures => pure (expired, failures)
  | current :: rest, expired, failures =>
    if reviewExpired ttl time current then do
      match ← (rejectFraudReview (expiryDecision ttl current)).attempt with
      | .error .notUnderReview => expireEach ttl time rest expired failures
      | .error e => expireEach ttl time rest expired (failures ++ [(current.paymentID, e)])
      | .ok _ => expireEach ttl time rest (expired + 1) failures
    else expireEach ttl time rest expired failures

def expireFraudReviews (ttl : Int) : SagaProg (Nat × List (String × SagaErr)) :=
  if ttl ≤ 0 then .fail .reviewTTLNotPositive
  else do
    let sagas ← listNonTerminal
    let time ← now
    expireEach ttl time sagas 0 []

end Orchestrator

/-! ## Requests -/

/-- What makes a handler run. -/
inductive SagaRequest
  | start (req : StartRequest)
  | paymentCompleted (event : PaymentCompleted)
  | paymentFailed (event : PaymentFailed)
  | fraudFlagged (event : FraudFlagged)
  | resumeReview (decision : FraudReviewDecision)
  | rejectReview (decision : FraudReviewDecision)
  | expireReviews (ttl : Int)
  | resumeNonTerminal

open Orchestrator in
/-- The handler of a request. -/
def SagaRequest.handler : SagaRequest → SagaProg Unit
  | .start req => do let _ ← startPaymentSaga req
  | .paymentCompleted event => handlePaymentCompleted event
  | .paymentFailed event => handlePaymentFailed event
  | .fraudFlagged event => handleFraudFlagged event
  | .resumeReview decision => do let _ ← resumeFraudReview decision
  | .rejectReview decision => do let _ ← rejectFraudReview decision
  | .expireReviews ttl => do let _ ← expireFraudReviews ttl
  | .resumeNonTerminal => Orchestrator.resumeNonTerminal

/-- The payment a request names, if it names one. -/
def SagaRequest.paymentID? : SagaRequest → Option String
  | .start req => some req.paymentID
  | .paymentCompleted event => some event.paymentID
  | .paymentFailed event => some event.paymentID
  | .fraudFlagged event => some event.paymentID
  | .resumeReview decision => some decision.paymentID
  | .rejectReview decision => some decision.paymentID
  | .expireReviews _ | .resumeNonTerminal => none

/-! ## Performing a call -/

/-- What can go wrong with a call: nothing, it does not reach its target, or it takes
    effect but its answer is lost. -/
inductive Fault
  | none
  | notDelivered
  | answerLost
  deriving DecidableEq, Repr

/-- Everything the surroundings decide about one call: the fault, the orchestrator's clock,
    the UUIDs and the time of the transaction, and the verification service's answer. -/
structure Choice (U : Type) where
  fault : Fault
  clock : Time
  env : TxEnv U
  verification : Except SagaErr VerificationResult

variable {U : Type} [UuidLib U]

/-- The effect of a call that reaches its target. -/
def SagaOp.run (c : Choice U) : (o : SagaOp) → World U → Except SagaErr o.Ret × World U
  | .now, w => (.ok c.clock, w)
  | .create saga, w => commit w (w.create (text c.env.sagaID) c.env.now saga)
  | .getByPaymentID paymentID, w => (w.getByPaymentID paymentID, w)
  | .listNonTerminal, w => (.ok w.listNonTerminal, w)
  | .update saga, w => commit w (w.update c.env.now saga)
  | .updateWithOutbox saga events, w => commit w (w.updateWithOutbox c.env.now saga events)
  | .updateWithAudit saga audit, w => commit w (w.updateWithAudit c.env.now saga audit)
  | .updateWithOutboxAndAudit saga events audit, w =>
    commit w (w.updateWithOutboxAndAudit c.env.now saga events audit)
  | .recordFraudAudit audit, w => (.ok (), w.recordFraudAudit c.env.now audit)
  | .getStatus req, w =>
    (c.verification, { w with answers := w.answers ++ (answered req c.verification) })
  | .debitForSaga req, w => rpc w (WalletGRPCClient.debitForSaga w.db c.env req)
  | .compensateDebit req, w => rpc w (WalletGRPCClient.compensateDebit w.db c.env req)
  | .reserveTransfer req, w => rpc w (LedgerGRPCClient.reserveTransfer w.db c.env req)
  | .confirmTransfer req, w => rpc w (LedgerGRPCClient.confirmTransfer w.db c.env req)
  | .cancelReservation req, w => rpc w (LedgerGRPCClient.cancelReservation w.db c.env req)
  | .enqueue record, w => (.ok (), w.enqueue record)
where
  /-- A store transaction: an error leaves everything as it was. -/
  commit {α : Type} (w : World U) : Except SagaErr (α × World U) → Except SagaErr α × World U
    | .ok (a, w') => (.ok a, w')
    | .error e => (.error e, w)
  /-- A wallet or ledger call: an error status leaves everything as it was. -/
  rpc {α : Type} (w : World U) : Except Status (α × Database U) → Except SagaErr α × World U
    | .ok (a, db) => (.ok a, { w with db := db })
    | .error status => (.error (.rpc status), w)
  /-- What an answer of the verification service adds to the record. -/
  answered (req : VerificationRequest) :
      Except SagaErr VerificationResult → List (VerificationRequest × VerificationResult)
    | .ok result => [(req, result)]
    | .error _ => []

/-- One call under a choice. Reading the clock cannot fail. -/
def SagaOp.exec (c : Choice U) (o : SagaOp) (w : World U) : Except SagaErr o.Ret × World U :=
  match o, c.fault with
  | .now, _ => (.ok c.clock, w)
  | o, .none => o.run c w
  | _, .notDelivered => (.error .interrupted, w)
  | o, .answerLost => (.error .interrupted, (o.run c w).2)

end EnjoyThings
