import EnjoyThings.Services.FraudEvents
import EnjoyThings.Services.Notification
import EnjoyThings.Services.PaymentProcessor

/-!
# The Kafka consumers

`HandleRecord` and `Run` of the four Go consumers (`internal/sagaconsumer`,
`internal/ledgerconsumer`, `internal/paymentprocessor`, `internal/notification`)
and `KafkaWorkerRunner.run` of the fraud worker, over one partition.

A session starts where the group's committed offset is and goes through the records
in order. It stops anywhere: a crash, a canceled context and a rebalance look the same
from here. The application's handler is one call, which succeeds or fails. Telemetry,
trace headers and log lines are left out, and so is the branch for a missing
dead-letter publisher or committer, which the services always have.
-/

namespace EnjoyThings

open Effect
open Except (refuseIf ofOption)

/-! ## Records and dead letters -/

/-- A record as the client hands it over; `B` is the type of byte strings. -/
structure ConsumedRecord (B : Type) where
  topic : String
  partition : Int32
  offset : Nat
  key : B
  value : B
  deriving DecidableEq

/-- `deadletter.Record`, without the time. -/
structure DeadLetter (B : Type) extends ConsumedRecord B where
  reason : String
  deriving DecidableEq

namespace DeadLetter

/-- `deadletter.TopicFor`. -/
def topicFor (topic : String) : String := topic ++ ".dlq"

/-- `deadletter.FromKafka`. -/
def fromKafka {B : Type} (record : ConsumedRecord B) (cause : String) : DeadLetter B :=
  { record with reason := cause }

end DeadLetter

/-! ## What the consumers call -/

/-- `repo.LedgerTransfer`. -/
structure LedgerTransfer (U : Type) where
  transferID : U
  fromWalletID : U
  toWalletID : U
  amountCents : Int64
  currency : String
  deriving DecidableEq

/-- The call of the application a record comes to. `notify` is what `Dispatch` does with a
    rendered message: the email and then the SMS. -/
inductive AppCall (U : Type)
  | handlePaymentCompleted (event : PaymentCompleted)
  | handlePaymentFailed (event : PaymentFailed)
  | handleFraudFlagged (event : FraudFlagged)
  | appendTransferEntries (transfer : LedgerTransfer U)
  | handleExecute (command : PaymentExecute)
  | notify (message : Message)
  | handleRequest (request : FraudScoreRequest)

/-- The calls of a consumer. `poll` stands for all the polls of a session: its records come once
    and in order. -/
inductive ConsumerOp (U B : Type)
  | poll
  | handle (offset : Nat) (call : AppCall U)
  | publish (topic : String) (letter : DeadLetter B)
  | commit (offset : Nat)

@[reducible] def ConsumerOp.Ret {U B : Type} : ConsumerOp U B → Type
  | .poll => List (ConsumedRecord B)
  | .handle _ _ | .publish _ _ | .commit _ => Unit

/-- What a consumer stops with: an error of a call, or an exception of Python code. -/
inductive ConsumerErr
  | failed
  | raised (e : Py.Exn)
  deriving DecidableEq

abbrev ConsumerProg (U B α : Type) : Type :=
  Prog (ConsumerOp U B) ConsumerOp.Ret ConsumerErr α

/-- `json.Unmarshal` into the events the consumers read, with the text of its error, and
    `json.loads`. A decoded `FraudFlagged` comes with the offset of its time. -/
structure Decoders (B : Type) extends Payloads B where
  paymentCompleted : B → Except String PaymentCompleted
  paymentFailed : B → Except String PaymentFailed
  fraudFlagged : B → Except String (FraudFlagged × Int)
  transactionInitiated : B → Except String TransactionInitiated
  paymentExecute : B → Except String PaymentExecute
  loads : B → Except Py.Exn Py.Json

namespace Consumer

variable {U B : Type}

/-- The call of the application. -/
def handle (record : ConsumedRecord B) (call : AppCall U) : ConsumerProg U B Unit :=
  Prog.perform (ConsumerOp.handle record.offset call)

/-- `commit`. -/
def commit (record : ConsumedRecord B) : ConsumerProg U B Unit :=
  Prog.perform (ConsumerOp.commit record.offset)

/-- `Publisher.Publish` of a dead letter. -/
def park (record : ConsumedRecord B) (cause : String) : ConsumerProg U B Unit :=
  Prog.perform (ConsumerOp.publish (DeadLetter.topicFor record.topic)
    (DeadLetter.fromKafka record cause))

/-- `deadLetter`, which is the same in three of the Go consumers. -/
def deadLetter (record : ConsumedRecord B) (cause : String) : ConsumerProg U B Unit := do
  park record cause
  commit record

/-- A record that is either handed to the application or parked: the shape the Go handlers with
    a dead-letter publisher share. -/
def settle (record : ConsumedRecord B) : Except String (AppCall U) → ConsumerProg U B Unit
  | .error cause => deadLetter record cause
  | .ok call => do
    handle record call
    commit record

end Consumer

/-! ## The saga consumer -/

namespace SagaConsumer

variable {U B : Type} (decoders : Decoders B)

def topics : List String := [topicPaymentCompleted, topicPaymentFailed, fraudFlaggedTopic]

def readCompleted (value : B) : Except String (AppCall U) := do
  let completed ← decoders.paymentCompleted value
  refuseIf (completed.paymentID = "") "payment_id is required"
  .ok (.handlePaymentCompleted completed)

def readFailed (value : B) : Except String (AppCall U) := do
  let failed ← decoders.paymentFailed value
  refuseIf (failed.paymentID = "") "payment_id is required"
  .ok (.handlePaymentFailed failed)

/-- `Validate` refuses a time that is not in UTC. -/
def readFlagged (value : B) : Except String (AppCall U) := do
  let (flagged, offset) ← decoders.fraudFlagged value
  refuseIf ((flagged.valid && offset = 0) = false) "invalid fraud event"
  .ok (.handleFraudFlagged flagged)

/-- `HandleRecord` of `internal/sagaconsumer`. -/
def handleRecord (record : ConsumedRecord B) : ConsumerProg U B Unit :=
  if record.topic = topicPaymentCompleted then
    Consumer.settle record (readCompleted decoders record.value)
  else if record.topic = topicPaymentFailed then
    Consumer.settle record (readFailed decoders record.value)
  else if record.topic = fraudFlaggedTopic then
    Consumer.settle record (readFlagged decoders record.value)
  else Consumer.commit record

end SagaConsumer

/-! ## The ledger consumer -/

namespace LedgerConsumer

variable {U B : Type} [UuidLib U] (decoders : Decoders B)

def parseRequiredUUID (raw field : String) : Except String U :=
  ofOption (field ++ " must be a valid UUID") (parse raw)

/-- The error of `domain.NormalizeCurrency` is `ErrUnsupportedCurrency`. -/
def requireCurrency (currency : String) : Except String String :=
  (normalizeCurrency currency).mapError fun _ => "unsupported currency"

def decodeTransfer (payload : B) : Except String (LedgerTransfer U) := do
  let initiated ← (decoders.transactionInitiated payload).mapError fun e => "decode json: " ++ e
  let transferID ← parseRequiredUUID initiated.transferID "transfer_id"
  let fromWalletID ← parseRequiredUUID initiated.fromWalletID "from_wallet_id"
  let toWalletID ← parseRequiredUUID initiated.toWalletID "to_wallet_id"
  refuseIf (fromWalletID = toWalletID) "from_wallet_id and to_wallet_id must differ"
  refuseIf (initiated.amountCents ≤ 0) "amount_cents must be positive"
  let currency ← requireCurrency initiated.currency
  refuseIf (initiated.initiatedAt = 0) "initiated_at is required"
  .ok { transferID := transferID, fromWalletID := fromWalletID, toWalletID := toWalletID
        amountCents := initiated.amountCents, currency := currency }

/-- `HandleRecord` of `internal/ledgerconsumer`. It does not look at the topic. -/
def handleRecord (record : ConsumedRecord B) : ConsumerProg U B Unit :=
  Consumer.settle record ((decodeTransfer decoders record.value).map .appendTransferEntries)

end LedgerConsumer

/-! ## The consumer of the payment processor -/

namespace ProcessorConsumer

variable {U B : Type} (decoders : Decoders B)

/-- The command of a record, if it decodes and passes `validateCommand`. -/
def command? (value : B) : Option PaymentExecute :=
  (decoders.paymentExecute value).toOption.filter fun command =>
    Processor.invalidCommand? command = none

/-- `HandleRecord` of `internal/paymentprocessor`. Unlike the others it has no dead-letter
    publisher: it commits a command that does not decode or validate. -/
def handleRecord (record : ConsumedRecord B) : ConsumerProg U B Unit :=
  if record.topic = topicPaymentExecute then
    match command? decoders record.value with
    | none => Consumer.commit record
    | some command => do
      Consumer.handle record (.handleExecute command)
      Consumer.commit record
  else Consumer.commit record

end ProcessorConsumer

/-! ## The notification consumer -/

namespace NotificationConsumer

/-- `HandleRecord` of `internal/notification`. An event that does not render is an
    `ErrInvalidEvent` of `Dispatch`. -/
def handleRecord {U B : Type} (decoders : Decoders B) (record : ConsumedRecord B) :
    ConsumerProg U B Unit :=
  if record.topic ∈ Notification.supportedTopics then
    Consumer.settle record
      (((Notification.render decoders.toPayloads record.topic record.value).map .notify).mapError
        fun e => "invalid notification event: " ++ e)
  else Consumer.commit record

end NotificationConsumer

/-- `Run` of a Go consumer: an error of a record is logged, and the next record is handled. -/
def Consumer.run {U B : Type} (handleRecord : ConsumedRecord B → ConsumerProg U B Unit) :
    List (ConsumedRecord B) → ConsumerProg U B Unit
  | [] => pure ()
  | record :: records => do
    let _ ← (handleRecord record).attempt
    Consumer.run handleRecord records

/-! ## The fraud worker -/

namespace KafkaWorkerRunner

variable {U B : Type} [Py.IsoLib] (decoders : Decoders B)

/-- `handle_payload`. Where `_handle_request` decides on a retry, the call here fails. -/
def handlePayload (record : ConsumedRecord B) : ConsumerProg U B ConsumerDecision :=
  match FraudWorker.classifyTransportPayload decoders.loads record.value with
  | .error e => .fail (.raised e)
  | .ok .nonRetryable => pure .deadLetter
  | .ok (.valid request) => do
    match ← (Consumer.handle record (.handleRequest request)).attempt with
    | .ok _ => pure .commit
    | .error _ => pure .retry

/-- `_dead_letter`. -/
def deadLetter (record : ConsumedRecord B) : ConsumerProg U B Bool := do
  match ← (Consumer.park record "transport payload is not a valid fraud scoring request").attempt
  with
  | .ok _ => pure true
  | .error _ => pure false

/-- What `run` does with one record. -/
def handleRecord (record : ConsumedRecord B) : ConsumerProg U B Unit := do
  match ← handlePayload decoders record with
  | .commit => Consumer.commit record
  | .retry => pure ()
  | .deadLetter =>
    if ← deadLetter record then Consumer.commit record

/-- `run`. An exception, which a commit may raise as well, ends the session. -/
def run : List (ConsumedRecord B) → ConsumerProg U B Unit
  | [] => pure ()
  | record :: records => do
    handleRecord decoders record
    run records

end KafkaWorkerRunner

/-! ## Sessions -/

/-- The consumers of the system. The topic of the ledger consumer and that of the fraud worker
    are configured; an empty one of the ledger consumer is replaced by its default. -/
inductive ConsumerService
  | saga
  | ledger (topic : String)
  | paymentProcessor
  | notification
  | fraudWorker (topic : String)
  deriving DecidableEq

def transactionInitiatedTopic : String := "tx.initiated"

namespace ConsumerService

/-- What a consumer subscribes to. -/
def topics : ConsumerService → List String
  | .saga => SagaConsumer.topics
  | .ledger topic => [if topic = "" then transactionInitiatedTopic else topic]
  | .paymentProcessor => [topicPaymentExecute]
  | .notification => Notification.supportedTopics
  | .fraudWorker topic => [topic]

/-- The loop of a consumer over the records it is given. -/
def loop {U B : Type} [UuidLib U] [Py.IsoLib] (decoders : Decoders B) :
    ConsumerService → List (ConsumedRecord B) → ConsumerProg U B Unit
  | .saga => Consumer.run (SagaConsumer.handleRecord decoders)
  | .ledger _ => Consumer.run (LedgerConsumer.handleRecord decoders)
  | .paymentProcessor => Consumer.run (ProcessorConsumer.handleRecord decoders)
  | .notification => Consumer.run (NotificationConsumer.handleRecord decoders)
  | .fraudWorker _ => KafkaWorkerRunner.run decoders

/-- One session of a consumer. -/
def session {U B : Type} [UuidLib U] [Py.IsoLib] (decoders : Decoders B)
    (service : ConsumerService) : ConsumerProg U B Unit := do
  let records ← Prog.perform ConsumerOp.poll
  service.loop decoders records

end ConsumerService

/-- A partition of a topic the consumer subscribes to, with the key and the value of each of its
    records. -/
structure Partition (service : ConsumerService) (B : Type) where
  topic : String
  subscribed : topic ∈ service.topics
  number : Int32 := 0
  entries : List (B × B)

namespace Partition

variable {service : ConsumerService} {B : Type} (partition : Partition service B)

def record (offset : Nat) (entry : B × B) : ConsumedRecord B :=
  { topic := partition.topic, partition := partition.number, offset := offset
    key := entry.1, value := entry.2 }

def records : List (ConsumedRecord B) :=
  partition.entries.mapIdx partition.record

/-- What a client that starts at the offset is given. -/
def recordsFrom (offset : Nat) : List (ConsumedRecord B) :=
  partition.records.filter (offset ≤ ·.offset)

end Partition

/-- The group's offset in the partition, the offsets whose handler has succeeded, and what has
    been written to dead-letter topics. -/
structure ConsumerWorld (B : Type) where
  committed : Nat := 0
  handled : List Nat := []
  parked : List (String × DeadLetter B) := []
  deriving DecidableEq

/-- The effect of a call that reaches its target. -/
def ConsumerOp.run {service : ConsumerService} {U B : Type} (partition : Partition service B) :
    (o : ConsumerOp U B) → ConsumerWorld B → o.Ret × ConsumerWorld B
  | .poll, w => (partition.recordsFrom w.committed, w)
  | .handle offset _, w => ((), { w with handled := w.handled ++ [offset] })
  | .publish topic letter, w => ((), { w with parked := w.parked ++ [(topic, letter)] })
  | .commit offset, w => ((), { w with committed := offset + 1 })

/-- One call under a fault. A handler that fails has not handled its record, whatever it did
    before; a write whose answer is lost has happened. -/
def ConsumerOp.exec {service : ConsumerService} {U B : Type} (partition : Partition service B)
    (fault : Fault) (o : ConsumerOp U B) (w : ConsumerWorld B) :
    Except ConsumerErr o.Ret × ConsumerWorld B :=
  match fault, o with
  | .none, o => (.ok (o.run partition w).1, (o.run partition w).2)
  | .notDelivered, _ | .answerLost, .handle _ _ => (.error .failed, w)
  | .answerLost, o => (.error .failed, (o.run partition w).2)

def consumerMachine {service : ConsumerService} (U : Type) {B : Type}
    (partition : Partition service B) :
    Machine (ConsumerOp U B) ConsumerOp.Ret ConsumerErr (ConsumerWorld B) Unit Fault where
  exec := ConsumerOp.exec partition
  see _ _ _ := ()

end EnjoyThings
