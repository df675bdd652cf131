import EnjoyThings.Services.SagaTypes

/-!
# The messages of the notification service

`render` of `internal/notification`, with the five payloads it reads. Decoding JSON
is a parameter, `Payloads`, because `encoding/json` is library code; what is
checked and written after the decoding is here.
-/

namespace EnjoyThings

def topicUserVerified : String := "user.verified"
def topicUserRejected : String := "user.rejected"

structure Message where
  id : String
  aggregateID : String
  traceID : String
  subject : String
  body : String
  deriving DecidableEq

structure TxCompletedPayload where
  paymentID : String
  traceID : String
  amountCents : Int64
  currency : String

structure TxFailedPayload where
  paymentID : String
  traceID : String
  amountCents : Int64
  currency : String
  failureCode : String
  failureMessage : String

/-- `txPausedPayload`; the score it also decodes goes nowhere. -/
structure TxPausedPayload where
  paymentID : String
  traceID : String
  action : String
  reason : String

structure UserVerifiedPayload where
  userID : String
  verificationID : String
  traceID : String

structure UserRejectedPayload where
  userID : String
  verificationID : String
  traceID : String
  reason : String

/-- `json.Unmarshal` into each of the payloads, with the text of its error. -/
structure Payloads (B : Type) where
  txCompleted : B → Except String TxCompletedPayload
  txFailed : B → Except String TxFailedPayload
  txPaused : B → Except String TxPausedPayload
  userVerified : B → Except String UserVerifiedPayload
  userRejected : B → Except String UserRejectedPayload

namespace Go

/-- `%d`. -/
def decimal (n : Int) : String :=
  if n < 0 then "-" ++ Nat.repr n.natAbs else Nat.repr n.natAbs

/-- `%02d`: the width counts the sign. -/
def decimal2 (n : Int) : String :=
  if n < 0 then "-" ++ padded 1 n.natAbs else padded 2 n.natAbs

/-- `html.EscapeString`. -/
def escapeString (s : String) : String :=
  String.join (s.toList.map fun c =>
    if c = '&' then "&amp;" else if c.toNat = 39 then "&#39;" else if c = '<' then "&lt;"
    else if c = '>' then "&gt;" else if c.toNat = 34 then "&#34;" else c.toString)

/-- `strings.Fields`. -/
def fields (s : String) : List String :=
  ((s.toList.splitOnP fun c => isSpace c).filter (· ≠ [])).map String.ofList

end Go

namespace Notification

/-- `formatMoney`. The negation wraps around for the least amount. -/
def formatMoney (amountCents : Int64) (currency : String) : String :=
  let currency := if currency = "" then "USD" else currency
  let sign := if amountCents < 0 then "-" else ""
  let amountCents := if amountCents < 0 then -amountCents else amountCents
  sign ++ Go.decimal (amountCents / 100).toInt ++ "." ++ Go.decimal2 (amountCents % 100).toInt ++
    " " ++ currency

def sanitizeReason (reason : String) : String :=
  let reason := Go.trimSpace reason
  if reason = "" then "" else " ".intercalate (Go.fields (Go.escapeString reason))

/-- The first of the texts that is not empty, or the last resort. -/
def reasonOr (lastResort : String) (reasons : List String) : String :=
  (reasons.find? (· ≠ "")).getD lastResort

def renderTxCompleted (payload : TxCompletedPayload) : Except String Message :=
  if payload.paymentID = "" then .error "payment_id is required"
  else .ok
    { id := topicTxCompleted ++ ":" ++ payload.paymentID
      aggregateID := payload.paymentID
      traceID := payload.traceID
      subject := "Payment completed"
      body := "Your payment " ++ payload.paymentID ++ " for " ++
        formatMoney payload.amountCents payload.currency ++ " completed successfully." }

def renderTxFailed (payload : TxFailedPayload) : Except String Message :=
  if payload.paymentID = "" then .error "payment_id is required"
  else .ok
    { id := topicTxFailed ++ ":" ++ payload.paymentID
      aggregateID := payload.paymentID
      traceID := payload.traceID
      subject := "Payment failed"
      body := "Your payment " ++ payload.paymentID ++ " for " ++
        formatMoney payload.amountCents payload.currency ++ " failed: " ++
        reasonOr "payment processing failed" [payload.failureMessage, payload.failureCode] ++ "." }

def renderTxPaused (payload : TxPausedPayload) : Except String Message :=
  if payload.paymentID = "" then .error "payment_id is required"
  else .ok
    { id := txPausedTopic ++ ":" ++ payload.paymentID
      aggregateID := payload.paymentID
      traceID := payload.traceID
      subject := "Payment paused for review"
      body := "Your payment " ++ payload.paymentID ++ " was paused for fraud review with action " ++
        payload.action ++ ": " ++
        sanitizeReason (reasonOr "additional review is required" [payload.reason]) ++ "." }

def renderUserVerified (payload : UserVerifiedPayload) : Except String Message :=
  if payload.userID = "" then .error "user_id is required"
  else .ok
    { id := topicUserVerified ++ ":" ++ payload.userID
      aggregateID := payload.userID
      traceID := payload.traceID
      subject := "Verification approved"
      body := "Verification " ++ payload.verificationID ++ " was approved for user " ++
        payload.userID ++ "." }

def renderUserRejected (payload : UserRejectedPayload) : Except String Message :=
  if payload.userID = "" then .error "user_id is required"
  else .ok
    { id := topicUserRejected ++ ":" ++ payload.userID
      aggregateID := payload.userID
      traceID := payload.traceID
      subject := "Verification rejected"
      body := "Verification " ++ payload.verificationID ++ " was rejected for user " ++
        payload.userID ++ ": " ++
        reasonOr "the submitted verification did not pass review" [payload.reason] ++ "." }

/-- The topics `IsSupportedTopic` accepts, which are the ones the consumer subscribes to. -/
def supportedTopics : List String :=
  [topicTxCompleted, topicTxFailed, txPausedTopic, topicUserVerified, topicUserRejected]

/-- `render`. The quotes around the topic are those of `%q` for a text without special
    characters. -/
def render {B : Type} (payloads : Payloads B) (topic : String) (payload : B) :
    Except String Message :=
  if topic = topicTxCompleted then payloads.txCompleted payload >>= renderTxCompleted
  else if topic = topicTxFailed then payloads.txFailed payload >>= renderTxFailed
  else if topic = txPausedTopic then payloads.txPaused payload >>= renderTxPaused
  else if topic = topicUserVerified then payloads.userVerified payload >>= renderUserVerified
  else if topic = topicUserRejected then payloads.userRejected payload >>= renderUserRejected
  else .error ("unsupported notification topic \"" ++ topic ++ "\"")

example : formatMoney 1250 "" = "12.50 USD" := by decide +kernel

end Notification

end EnjoyThings
