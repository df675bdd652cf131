import EnjoyThings.ForStd.Prog
import EnjoyThings.Services.ChatStream
import EnjoyThings.Services.FraudVerdicts
import EnjoyThings.Services.Orchestrator

/-!
# The session store of the fraud worker

The statements of `PostgresFraudSessionStore` (`repo/postgres.py`) on `fraud_sessions`.
Each is a transaction of its own, with its own reading of the database clock: a
statement that waits for a row keeps the reading it started with, so the readings
need not come in order. Rows are never deleted here; the retention sweep is not part
of this model.

The world also has the heartbeat task of each worker, which renews the lease between
the worker's own statements. What was handed to the producer, what the broker has
acknowledged and what the workers have decided about records are history variables.
-/

namespace EnjoyThings

open Effect

/-! ## Sessions -/

/-- `FraudSession` of `dto.py`. -/
structure FraudSession where
  sessionID : Py.Str
  sourceEventID : Py.Str
  paymentID : Py.Str
  completed : Bool := false
  outcome : Option FraudOutcome := none
  outputEventType : String := ""
  outputPublished : Bool := false
  deriving DecidableEq

/-- The outcome of a session, if `session.completed and session.outcome`. -/
def FraudSession.decided (session : FraudSession) : Option FraudOutcome :=
  if session.completed then session.outcome else none

/-- A row of `fraud_sessions`. The lease owner `none` stands for the empty text, and the verdict
    `none` for the empty object. -/
structure SessionRow (U : Type) where
  sessionID : Py.Str
  sourceEventID : Py.Str
  paymentID : Py.Str
  providerID : Py.Str := []
  modelID : Py.Str := []
  sanitizedFacts : List (Py.Str × Py.Json) := []
  enrichment : List (Py.Str × Py.Json) := []
  rawResponse : Py.Str := []
  parsedVerdict : Option FraudVerdict := none
  events : List (List (Py.Str × Py.Json)) := []
  finalOutcome : String := ""
  failureReason : String := ""
  outputEventType : String := ""
  outputPublished : Bool := false
  leaseOwner : Option U := none
  leaseExpiresAt : Option Time := none
  startedAt : Time
  completedAt : Option Time := none

/-- `_output_event_type`. -/
def FraudOutcome.outputEventType (outcome : FraudOutcome) : String :=
  if outcome.action = some .flag ∨ outcome.action = some .block then fraudFlaggedTopic
  else if outcome.reasonCode.getD "" ≠ "" then fraudErrorTopic
  else ""

/-- `_fraud_action`. -/
def fraudAction (value : String) : Option FraudAction :=
  [FraudAction.allow, .flag, .block].find? (·.text = value)

namespace SessionRow

variable {U : Type}

/-- The outcome that is read from a completed row. -/
def outcome (row : SessionRow U) : FraudOutcome :=
  { action := fraudAction row.finalOutcome
    verdict := row.parsedVerdict
    reasonCode := if row.failureReason = "" then none else some row.failureReason }

/-- `_row_to_session`. -/
def toSession (row : SessionRow U) : FraudSession :=
  { sessionID := row.sessionID
    sourceEventID := row.sourceEventID
    paymentID := row.paymentID
    completed := row.completedAt.isSome
    outcome := if row.completedAt.isSome then some row.outcome else none
    outputEventType := row.outputEventType
    outputPublished := row.outputPublished }

/-- The row is leased to the owner, and the lease has not run out. -/
def LeasedTo (row : SessionRow U) (owner : U) (now : Time) : Prop :=
  row.leaseOwner = some owner ∧ row.leaseExpiresAt.any (now < ·) = true

instance [DecidableEq U] (row : SessionRow U) (owner : U) (now : Time) :
    Decidable (row.LeasedTo owner now) :=
  inferInstanceAs (Decidable (_ ∧ _))

/-- Whether `claim_session` may take the row. -/
def Claimable (row : SessionRow U) (owner : U) (now : Time) : Prop :=
  row.completedAt.isSome = true ∨ row.leaseOwner = some owner ∨
    row.leaseExpiresAt.all (· ≤ now) = true

instance [DecidableEq U] (row : SessionRow U) (owner : U) (now : Time) :
    Decidable (row.Claimable owner now) :=
  inferInstanceAs (Decidable (_ ∨ _ ∨ _))

/-- The lease that a claim and a renewal write. -/
def lease (row : SessionRow U) (owner : U) (expires : Time) : SessionRow U :=
  { row with leaseOwner := some owner, leaseExpiresAt := some expires }

/-- A text of an event, or nothing. -/
def textOf (event : List (Py.Str × Py.Json)) (field : String) : Py.Str :=
  match Py.Json.get event field with
  | some (.str s) => s
  | _ => []

/-- An object of an event, or the empty one. -/
def objectOf (event : List (Py.Str × Py.Json)) (field : String) : List (Py.Str × Py.Json) :=
  match Py.Json.get event field with
  | some (.obj fields) => fields
  | _ => []

/-- The new value unless it is empty. -/
def replaced {α : Type} (new old : List α) : List α :=
  if new.isEmpty then old else new

/-- What `append_event` sets. -/
def append (row : SessionRow U) (event : List (Py.Str × Py.Json)) : SessionRow U :=
  { row with
    events := row.events ++ [event]
    rawResponse := replaced (textOf event "raw_response") row.rawResponse
    providerID := replaced (textOf event "provider_id") row.providerID
    modelID := replaced (textOf event "model_id") row.modelID
    sanitizedFacts := replaced (objectOf event "sanitized_facts") row.sanitizedFacts
    enrichment := replaced (objectOf event "enrichment") row.enrichment }

/-- What `complete_session` sets. -/
def complete (row : SessionRow U) (outcome : FraudOutcome) (now : Time) : SessionRow U :=
  { row with
    parsedVerdict := outcome.verdict
    finalOutcome := outcome.action.elim "fail_open" FraudAction.text
    failureReason := String.ofList ((outcome.reasonCode.getD "").toList.take 100)
    outputEventType := outcome.outputEventType
    completedAt := some now }

end SessionRow

/-! ## The calls of a worker -/

structure TransactionHistoryEntry where
  direction : Py.Str
  amountCents : Int
  currency : Py.Str
  occurredAt : Py.DateTime
  deriving DecidableEq

structure VelocityMetrics where
  transactionsLastHour : Int := 0
  amountLastHourCents : Int := 0
  averageAmount30dCents : Int := 0
  distinctRecipients30d : Int := 0
  deriving DecidableEq

/-- What the three reads of `_enrich_transaction` return; the KYC status is a text. -/
structure Enrichment where
  history : List TransactionHistoryEntry
  velocity : VelocityMetrics
  kycStatus : Py.Str
  deriving DecidableEq

/-- The calls of a worker and of its graph. `enrich` is the `gather` of three reads. `append` has
    the fields of an event after its node and its time. `startHeartbeat` and `cancelHeartbeat`
    create and cancel the task of `_renew_lease`. `decide` is the return to the runner. -/
inductive FraudOp
  | insertSession (eventID paymentID : Py.Str)
  | claim (eventID : Py.Str)
  | append (sessionID : Py.Str) (node : String) (fields : List (Py.Str × Py.Json))
  | complete (sessionID : Py.Str) (outcome : FraudOutcome)
  | markPublished (sessionID : Py.Str)
  | releaseLease (sessionID : Py.Str)
  | startHeartbeat (sessionID : Py.Str)
  | cancelHeartbeat
  | enrich (walletID : Py.Str) (limit : Int) (userID traceID : Py.Str)
  | ask (messages : List ChatMessage)
  | publishFlagged (request : FraudScoreRequest) (outcome : FraudOutcome) (sessionID : Py.Str)
  | publishError (request : FraudScoreRequest) (reasonCode : String) (sessionID : Py.Str)
  | decide (eventID : Py.Str) (decision : ConsumerDecision)

/-- The model answers with a text or fails, and takes a number of milliseconds. -/
@[reducible] def FraudOp.Ret : FraudOp → Type
  | .claim _ | .complete _ _ | .markPublished _ => FraudSession
  | .enrich _ _ _ _ => Enrichment
  | .ask _ => Option Py.Str × Int
  | _ => Unit

/-- `lost` is an update that found no row under the worker's lease. -/
inductive FraudErr
  | lost
  | failed
  | raised (e : Py.Exn)
  deriving DecidableEq

abbrev FraudProg (α : Type) : Type := Prog FraudOp FraudOp.Ret FraudErr α

/-! ## The world of the workers -/

/-- The heartbeat task of a worker. -/
inductive Heartbeat
  | stopped
  | running (sessionID : Py.Str)
  | broken
  deriving DecidableEq

structure FraudWorld (U : Type) where
  rows : List (SessionRow U) := []
  heartbeats : U → Heartbeat := fun _ => .stopped
  sent : List Published := []
  acknowledged : List Published := []
  decisions : List (Py.Str × ConsumerDecision) := []

/-- A reading of `datetime.now(UTC)` after the start of the year 1, in microseconds. -/
structure Py.Now where
  micros : Nat
  pos : 0 < micros := by decide
  lt : micros / 1000000 < Stamp.lastSecond := by decide

/-- What the surroundings decide about one call: the fault, the reading of the database clock in
    nanoseconds, a new UUID, the worker's clock, and the answers of the other services. -/
structure FraudChoice where
  fault : Fault := .none
  now : Time := 0
  freshID : Py.Str := []
  clock : Py.Now := { micros := 1 }
  enrichment : Option Enrichment := none
  completion : Option Py.Str × Int := (none, 0)

/-- What a worker is started with. -/
structure WorkerEnv where
  config : FraudConfig := {}
  providerID : Py.Str
  modelID : Py.Str
  leaseSeconds : Nat := 60

namespace FraudWorld

variable {U : Type} (w : FraudWorld U)

/-- An `UPDATE` of the rows with `P`, with the first row it returns. -/
def update (P : SessionRow U → Prop) [DecidablePred P] (f : SessionRow U → SessionRow U) :
    Except FraudErr (SessionRow U) × FraudWorld U :=
  (Except.ofOption .lost ((w.rows.find? P).map f),
    { w with rows := w.rows.map fun row => if P row then f row else row })

/-- The first statement of `claim_session`. A session ID that is taken is an error of the
    statement. -/
def insertSession (freshID eventID paymentID : Py.Str) (now : Time) :
    Except FraudErr Unit × FraudWorld U :=
  if w.rows.any (·.sourceEventID = eventID) then (.ok (), w)
  else if w.rows.any (·.sessionID = freshID) then (.error .failed, w)
  else
    (.ok (), { w with rows := w.rows ++ [
      { sessionID := freshID, sourceEventID := eventID, paymentID := paymentID
        startedAt := now }] })

def setHeartbeat [DecidableEq U] (owner : U) (heartbeat : Heartbeat) : FraudWorld U :=
  { w with heartbeats := Function.update w.heartbeats owner heartbeat }

/-- `send_and_wait` of an event that could be built. Without a fault the broker acknowledges. -/
def publish (fault : Fault) (event : Except Py.Exn Published) :
    Except FraudErr Unit × FraudWorld U :=
  match event, fault with
  | .error e, _ => (.error (.raised e), w)
  | .ok event, .none =>
    (.ok (), { w with sent := w.sent ++ [event], acknowledged := w.acknowledged ++ [event] })
  | .ok event, .notDelivered | .ok event, .answerLost =>
    (.error .failed, { w with sent := w.sent ++ [event] })

end FraudWorld

section Statements

variable {U : Type} [DecidableEq U]

/-- When a lease that is written now runs out. -/
def WorkerEnv.leaseEnd (env : WorkerEnv) (now : Time) : Time :=
  now + env.leaseSeconds * 1000000000

/-- The statement of `renew_lease`. -/
def FraudWorld.renewLease (w : FraudWorld U) (env : WorkerEnv) (owner : U) (sessionID : Py.Str)
    (now : Time) : Except FraudErr (SessionRow U) × FraudWorld U :=
  w.update
    (fun row => row.sessionID = sessionID ∧ row.leaseOwner = some owner ∧ row.completedAt = none)
    fun row => { row with leaseExpiresAt := some (env.leaseEnd now) }

/-- An event of the audit trail, with its node and its time in front. -/
def auditEvent (node : String) (clock : Py.Now) (fields : List (Py.Str × Py.Json)) :
    List (Py.Str × Py.Json) :=
  (Py.ofString "node", .str (Py.ofString node)) ::
    (Py.ofString "occurred_at", .str (Py.isoformat (Py.DateTime.utc clock.micros))) :: fields

/-- What the publisher of a worker is configured with. -/
def WorkerEnv.publisher (env : WorkerEnv) (clock : Py.Now) : PublisherEnv :=
  { providerID := env.providerID, modelID := env.modelID, now := clock.micros }

/-- The answer of an update as a session. -/
def returning (r : Except FraudErr (SessionRow U) × FraudWorld U) :
    Except FraudErr FraudSession × FraudWorld U :=
  (r.1.map SessionRow.toSession, r.2)

/-- A call of a worker that reaches its target. -/
def FraudOp.run (env : WorkerEnv) (owner : U) (c : FraudChoice) (w : FraudWorld U) :
    (o : FraudOp) → Except FraudErr o.Ret × FraudWorld U
  | .insertSession eventID paymentID => w.insertSession c.freshID eventID paymentID c.now
  | .claim eventID =>
    returning (w.update (fun row => row.sourceEventID = eventID ∧ row.Claimable owner c.now)
      (·.lease owner (env.leaseEnd c.now)))
  | .append sessionID node fields =>
    let r := w.update (fun row => row.sessionID = sessionID ∧ row.LeasedTo owner c.now)
      (·.append (auditEvent node c.clock fields))
    (r.1.map fun _ => (), r.2)
  | .complete sessionID outcome =>
    returning (w.update (fun row => row.sessionID = sessionID ∧ row.LeasedTo owner c.now)
      (·.complete outcome c.now))
  | .markPublished sessionID =>
    returning (w.update (fun row => row.sessionID = sessionID ∧ row.LeasedTo owner c.now)
      ({ · with outputPublished := true }))
  | .releaseLease sessionID =>
    (.ok (), (w.update (fun row => row.sessionID = sessionID ∧ row.leaseOwner = some owner)
      ({ · with leaseOwner := none, leaseExpiresAt := none })).2)
  | .startHeartbeat sessionID => (.ok (), w.setHeartbeat owner (.running sessionID))
  | .cancelHeartbeat =>
    -- awaiting a task that has failed raises its exception, also the next time
    if w.heartbeats owner = .broken then (.error .lost, w)
    else (.ok (), w.setHeartbeat owner .stopped)
  | .enrich _ _ _ _ => (Except.ofOption .failed c.enrichment, w)
  | .ask _ => (.ok c.completion, w)
  | .publishFlagged request outcome sessionID =>
    w.publish c.fault
      (KafkaFraudPublisher.publishFlagged (env.publisher c.clock) request outcome sessionID)
  | .publishError request reasonCode sessionID =>
    w.publish c.fault
      (KafkaFraudPublisher.publishError (env.publisher c.clock) request reasonCode sessionID)
  | .decide eventID decision =>
    (.ok (), { w with decisions := w.decisions ++ [(eventID, decision)] })

/-- The calls that a fault can break from outside: the statements and the reads. -/
def FraudOp.remote : FraudOp → Bool
  | .insertSession _ _ | .claim _ | .append _ _ _ | .complete _ _ | .markPublished _ => true
  | .releaseLease _ | .enrich _ _ _ _ => true
  | .startHeartbeat _ | .cancelHeartbeat | .ask _ | .decide _ _ => false
  | .publishFlagged _ _ _ | .publishError _ _ _ => false

/-- One call under a choice. -/
def FraudOp.exec (env : WorkerEnv) (owner : U) (c : FraudChoice) (o : FraudOp) (w : FraudWorld U) :
    Except FraudErr o.Ret × FraudWorld U :=
  match c.fault with
  | .none => o.run env owner c w
  | .notDelivered => if o.remote then (.error .failed, w) else o.run env owner c w
  | .answerLost =>
    if o.remote then (.error .failed, (o.run env owner c w).2) else o.run env owner c w

/-- What answers the calls of the worker with the lease owner. -/
def fraudMachine (env : WorkerEnv) (owner : U) :
    Machine FraudOp FraudOp.Ret FraudErr (FraudWorld U) Unit FraudChoice where
  exec := FraudOp.exec env owner
  see _ _ _ := ()

/-- One turn of the heartbeat task of a worker. A renewal that fails ends the task. -/
def FraudWorld.beat (w : FraudWorld U) (env : WorkerEnv) (owner : U) (fault : Fault) (now : Time) :
    FraudWorld U :=
  match w.heartbeats owner with
  | .running sessionID =>
    let r := w.renewLease env owner sessionID now
    match fault, r.1 with
    | .none, .ok _ => r.2
    | .none, .error _ | .notDelivered, _ => w.setHeartbeat owner .broken
    | .answerLost, _ => r.2.setHeartbeat owner .broken
  | .stopped | .broken => w

end Statements

end EnjoyThings
