import EnjoyThings.ForStd.Except
import EnjoyThings.Services.PyStd
import EnjoyThings.Services.SagaTypes

/-!
# The events between the orchestrator and the fraud worker

`internal/event/fraud.go` on the Go side; `app/fraud/dto.py`,
`classify_transport_payload` of `worker.py` and `KafkaFraudPublisher` of
`integrations/kafka.py` on the Python side. A document is the dictionary that
`json.loads` returns for it, and Go's decoder is `unmarshal`, which reads fields
by their names. Metrics and spans are left out.
-/

namespace EnjoyThings

open Except (refuseIf)

def fraudErrorTopic : String := "fraud.error"

/-! ## The orchestrator's side -/

/-- `FraudReasonEnrichmentFailed` and its siblings. -/
def fraudReasons : List String :=
  ["enrichment_failed", "prompt_rejected", "model_failed", "validation_failed", "audit_failed",
    "publish_failed"]

/-- `validFraudReason`. -/
def validFraudReason (reason : String) : Bool :=
  fraudReasons.contains reason

def fraudErrorEventID (sourceEventID reasonCode : String) : String :=
  fraudErrorTopic ++ ":" ++ sourceEventID ++ ":" ++ reasonCode

/-- `FraudScoreRequested.Validate`; times here are UTC, so only the zero time is refused. -/
def FraudScoreRequested.valid (event : FraudScoreRequested) : Bool :=
  event.schemaVersion = 1 && event.eventID = fraudScoreRequestedEventID event.paymentID &&
    event.paymentID ≠ "" && event.userID ≠ "" && event.fromWalletID ≠ "" &&
    event.toWalletID ≠ "" && 0 < event.amountCents && event.currency ≠ "" &&
    event.occurredAt ≠ 0 && event.traceID ≠ ""

structure FraudError where
  schemaVersion : Int
  eventID : String
  sourceEventID : String
  paymentID : String
  sessionID : String
  reasonCode : String
  occurredAt : Time
  traceID : String
  deriving DecidableEq

/-- `FraudError.Validate`; times here are UTC, so only the zero time is refused. -/
def FraudError.valid (event : FraudError) : Bool :=
  event.schemaVersion = 1 &&
    event.eventID = fraudErrorEventID event.sourceEventID event.reasonCode &&
    event.sourceEventID ≠ "" && event.paymentID ≠ "" && validFraudReason event.reasonCode &&
    event.occurredAt ≠ 0 && event.traceID ≠ ""

/-- The document the orchestrator enqueues, as Python reads it. -/
def FraudScoreRequested.document (event : FraudScoreRequested) : List (Py.Str × Py.Json) :=
  [(Py.ofString "schema_version", .int event.schemaVersion),
    (Py.ofString "event_id", .str (Py.ofString event.eventID)),
    (Py.ofString "payment_id", .str (Py.ofString event.paymentID)),
    (Py.ofString "user_id", .str (Py.ofString event.userID)),
    (Py.ofString "from_wallet_id", .str (Py.ofString event.fromWalletID)),
    (Py.ofString "to_wallet_id", .str (Py.ofString event.toWalletID)),
    (Py.ofString "amount_cents", .int event.amountCents.toInt),
    (Py.ofString "currency", .str (Py.ofString event.currency)),
    (Py.ofString "occurred_at", .str (Py.ofString (Go.formatRFC3339Nano event.occurredAt))),
    (Py.ofString "trace_id", .str (Py.ofString event.traceID))]

/-! ## What the worker reads -/

/-- `FraudScoreRequest` of `dto.py`. -/
structure FraudScoreRequest where
  schemaVersion : Nat
  eventID : Py.Str
  paymentID : Py.Str
  userID : Py.Str
  fromWalletID : Py.Str
  toWalletID : Py.Str
  amountCents : Int
  currency : Py.Str
  occurredAt : Py.DateTime
  traceID : Py.Str
  deriving DecidableEq

/-- `TransportResult`: VALID with its request, or NON_RETRYABLE. -/
inductive TransportResult
  | valid (request : FraudScoreRequest)
  | nonRetryable
  deriving DecidableEq

/-- `ConsumerDecision`: what becomes of a record. -/
inductive ConsumerDecision
  | commit
  | retry
  | deadLetter
  deriving DecidableEq

namespace FraudWorker

/-- A field that has to be a string and not empty. -/
def requiredString (raw : List (Py.Str × Py.Json)) (field : String) : Option Py.Str :=
  match Py.Json.get raw field with
  | some (.str s) => if s = [] then none else some s
  | _ => none

/-- A field that has to be a positive integer; `bool` is not one here. -/
def positiveInt (raw : List (Py.Str × Py.Json)) (field : String) : Option Int :=
  match Py.Json.get raw field with
  | some (.int n) => if n ≤ 0 then none else some n
  | _ => none

/-- The checks of `classify_transport_payload` on a dictionary. Every failure has the same
    result. -/
def readRequest [Py.IsoLib] (raw : List (Py.Str × Py.Json)) : Option FraudScoreRequest := do
  guard (((Py.Json.get raw "schema_version").any Py.Json.isOne) = true)
  let eventID ← requiredString raw "event_id"
  let paymentID ← requiredString raw "payment_id"
  let userID ← requiredString raw "user_id"
  let fromWalletID ← requiredString raw "from_wallet_id"
  let toWalletID ← requiredString raw "to_wallet_id"
  let currency ← requiredString raw "currency"
  let occurredAt ← requiredString raw "occurred_at"
  let traceID ← requiredString raw "trace_id"
  let amountCents ← positiveInt raw "amount_cents"
  let occurredAt ← Py.parseTime occurredAt
  guard (eventID = Py.ofString "fraud.score.requested:" ++ paymentID)
  guard (occurredAt.utcoffset = some 0)
  some { schemaVersion := 1, eventID := eventID, paymentID := paymentID, userID := userID
         fromWalletID := fromWalletID, toWalletID := toWalletID, amountCents := amountCents
         currency := currency, occurredAt := occurredAt, traceID := traceID }

/-- `classify_transport_payload`, with what `json.loads` does on the payload. -/
def classifyTransportPayload [Py.IsoLib] {B : Type} (loads : B → Except Py.Exn Py.Json)
    (payload : B) : Except Py.Exn TransportResult :=
  match loads payload with
  | .ok (.obj raw) => .ok ((readRequest raw).elim .nonRetryable .valid)
  | .ok _ | .error .jsonDecodeError => .ok .nonRetryable
  | .error .other => .error .other

end FraudWorker

/-! ## What the worker publishes -/

/-- `FraudAction`. -/
inductive FraudAction
  | allow
  | flag
  | block
  deriving DecidableEq, Repr

def FraudAction.text : FraudAction → String
  | .allow => "allow"
  | .flag => "flag"
  | .block => "block"

structure FraudVerdict where
  riskScore : Rat
  action : FraudAction
  reason : Py.Str
  modelAction : FraudAction
  actionNormalized : Bool
  deriving DecidableEq

structure FraudOutcome where
  action : Option FraudAction
  verdict : Option FraudVerdict := none
  reasonCode : Option String := none
  deriving DecidableEq

/-- An event as it is handed to the producer. -/
structure Published where
  topic : String
  key : Py.Str
  event : List (Py.Str × Py.Json)

/-- What a publisher is configured with, and the reading of its clock in microseconds. -/
structure PublisherEnv where
  providerID : Py.Str
  modelID : Py.Str
  now : Nat

namespace KafkaFraudPublisher

/-- `_send` up to the producer: the key has to have a UTF-8 form. -/
def send (topic : String) (key : Py.Str) (event : List (Py.Str × Py.Json)) :
    Except Py.Exn Published := do
  refuseIf (Py.encodes key = false) .other
  .ok { topic := topic, key := key, event := event }

/-- `publish_flagged`. -/
def publishFlagged (env : PublisherEnv) (request : FraudScoreRequest) (outcome : FraudOutcome)
    (sessionID : Py.Str) : Except Py.Exn Published := do
  let verdict ← Except.ofOption .other outcome.verdict
  let action ← Except.ofOption .other (outcome.action.filter fun a => a = .flag ∨ a = .block)
  send fraudFlaggedTopic request.paymentID
    [(Py.ofString "schema_version", .int 1),
      (Py.ofString "event_id", .str (Py.ofString "fraud.flagged:" ++ request.eventID)),
      (Py.ofString "source_event_id", .str request.eventID),
      (Py.ofString "payment_id", .str request.paymentID),
      (Py.ofString "session_id", .str sessionID),
      (Py.ofString "action", .str (Py.ofString action.text)),
      (Py.ofString "risk_score", .float (.finite verdict.riskScore)),
      (Py.ofString "reason", .str verdict.reason),
      (Py.ofString "provider_id", .str env.providerID),
      (Py.ofString "model_id", .str env.modelID),
      (Py.ofString "occurred_at", .str (Py.timestamp env.now)),
      (Py.ofString "trace_id", .str request.traceID)]

/-- `publish_error`. -/
def publishError (env : PublisherEnv) (request : FraudScoreRequest) (reasonCode : String)
    (sessionID : Py.Str) : Except Py.Exn Published :=
  send fraudErrorTopic request.paymentID
    [(Py.ofString "schema_version", .int 1),
      (Py.ofString "event_id",
        .str (Py.ofString "fraud.error:" ++ request.eventID ++ Py.ofString ":" ++
          Py.ofString reasonCode)),
      (Py.ofString "source_event_id", .str request.eventID),
      (Py.ofString "payment_id", .str request.paymentID),
      (Py.ofString "session_id", .str sessionID),
      (Py.ofString "reason_code", .str (Py.ofString reasonCode)),
      (Py.ofString "occurred_at", .str (Py.timestamp env.now)),
      (Py.ofString "trace_id", .str request.traceID)]

end KafkaFraudPublisher

/-! ## What the orchestrator reads -/

namespace Go

/-- A string field: a missing one and `null` are empty. -/
def stringField (event : List (Py.Str × Py.Json)) (field : String) : Option String :=
  match Py.Json.get event field with
  | none | some .null => some ""
  | some (.str s) => some (ofPython s)
  | some _ => none

/-- An integer field. -/
def intField (event : List (Py.Str × Py.Json)) (field : String) : Option Int :=
  match Py.Json.get event field with
  | none | some .null => some 0
  | some (.int n) => some n
  | some _ => none

/-- A field with a number; the ones that are not finite have no JSON form. -/
def floatField (event : List (Py.Str × Py.Json)) (field : String) : Option Rat :=
  match Py.Json.get event field with
  | none | some .null => some 0
  | some (.int n) => some n
  | some (.float (.finite q)) => some q
  | some _ => none

/-- A time with its offset. -/
def timeField (event : List (Py.Str × Py.Json)) (field : String) : Option (Time × Int) :=
  match Py.Json.get event field with
  | none | some .null => some (0, 0)
  | some (.str s) => parseRFC3339 (ofPython s)
  | some _ => none

end Go

/-- `json.Unmarshal` into a `FraudFlagged`, with the offset of its time. -/
def FraudFlagged.unmarshal (event : List (Py.Str × Py.Json)) : Option (FraudFlagged × Int) := do
  let schemaVersion ← Go.intField event "schema_version"
  let eventID ← Go.stringField event "event_id"
  let sourceEventID ← Go.stringField event "source_event_id"
  let paymentID ← Go.stringField event "payment_id"
  let sessionID ← Go.stringField event "session_id"
  let action ← Go.stringField event "action"
  let riskScore ← Go.floatField event "risk_score"
  let reason ← Go.stringField event "reason"
  let providerID ← Go.stringField event "provider_id"
  let modelID ← Go.stringField event "model_id"
  let (occurredAt, offset) ← Go.timeField event "occurred_at"
  let traceID ← Go.stringField event "trace_id"
  some ({ schemaVersion := schemaVersion, eventID := eventID, sourceEventID := sourceEventID
          paymentID := paymentID, sessionID := sessionID, action := action
          riskScore := riskScore, reason := reason, providerID := providerID
          modelID := modelID, occurredAt := occurredAt, traceID := traceID }, offset)

/-- `json.Unmarshal` into a `FraudError`, with the offset of its time. -/
def FraudError.unmarshal (event : List (Py.Str × Py.Json)) : Option (FraudError × Int) := do
  let schemaVersion ← Go.intField event "schema_version"
  let eventID ← Go.stringField event "event_id"
  let sourceEventID ← Go.stringField event "source_event_id"
  let paymentID ← Go.stringField event "payment_id"
  let sessionID ← Go.stringField event "session_id"
  let reasonCode ← Go.stringField event "reason_code"
  let (occurredAt, offset) ← Go.timeField event "occurred_at"
  let traceID ← Go.stringField event "trace_id"
  some ({ schemaVersion := schemaVersion, eventID := eventID, sourceEventID := sourceEventID
          paymentID := paymentID, sessionID := sessionID, reasonCode := reasonCode
          occurredAt := occurredAt, traceID := traceID }, offset)

end EnjoyThings
