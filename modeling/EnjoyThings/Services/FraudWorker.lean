import EnjoyThings.ForStd.Team
import EnjoyThings.Services.FraudGraph

/-!
# The fraud worker

`_handle_request` of `worker.py`. The function has an `except` that decides on a retry
and a `finally` that cancels the heartbeat and releases the lease, so what its local
variables hold at an exception matters: `finish` is the `finally` with the two it reads.
-/

namespace EnjoyThings

open Effect

namespace FraudWorker

def startHeartbeat (session : FraudSession) : FraudProg Unit :=
  Prog.perform (FraudOp.startHeartbeat session.sessionID)

/-- `_cancel` of the heartbeat, which raises what the task has raised. -/
def cancelHeartbeat : FraudProg Unit :=
  Prog.perform FraudOp.cancelHeartbeat

def publishFlagged (request : FraudScoreRequest) (outcome : FraudOutcome)
    (session : FraudSession) : FraudProg Unit :=
  Prog.perform (FraudOp.publishFlagged request outcome session.sessionID)

def publishError (request : FraudScoreRequest) (reasonCode : String)
    (session : FraudSession) : FraudProg Unit :=
  Prog.perform (FraudOp.publishError request reasonCode session.sessionID)

/-- The `finally`, with the heartbeat if it is still set, and the decision. -/
def finish (session : Option FraudSession) (heartbeat : Bool) (decision : ConsumerDecision) :
    FraudProg ConsumerDecision := do
  if heartbeat then cancelHeartbeat
  match session with
  | none => pure decision
  | some session =>
    let _ ← (FraudStore.releaseLease session).attempt
    pure decision

/-- `publish_error` in a `try` of its own, and the decision on a retry. -/
def retryAfterError (request : FraudScoreRequest) (reasonCode : String) (session : FraudSession) :
    FraudProg ConsumerDecision := do
  let _ ← (publishError request reasonCode session).attempt
  finish (some session) false .retry

/-- `mark_published` as the last statement of the `try`. -/
def markAndCommit (session : FraudSession) : FraudProg ConsumerDecision := do
  match ← (FraudStore.markPublished session).attempt with
  | .error _ => finish (some session) false .retry
  | .ok _ => finish (some session) false .commit

/-- What becomes of a decided session. -/
def publishOutcome (request : FraudScoreRequest) (session : FraudSession)
    (outcome : FraudOutcome) : FraudProg ConsumerDecision := do
  if session.outputPublished then finish (some session) false .commit
  else if outcome.action = some .flag ∨ outcome.action = some .block then
    match ← (publishFlagged request outcome session).attempt with
    | .error _ => retryAfterError request "publish_failed" session
    | .ok _ => markAndCommit session
  else
    match outcome.reasonCode with
    | none => finish (some session) false .commit
    | some reasonCode =>
      let _ ← (publishError request reasonCode session).attempt
      markAndCommit session

/-- A session that is not decided yet is scored and completed. -/
def scoreSession (score : FraudProg FraudOutcome) (request : FraudScoreRequest)
    (session : FraudSession) : FraudProg ConsumerDecision := do
  startHeartbeat session
  match ← score.attempt with
  | .error _ => finish (some session) true .retry
  | .ok outcome =>
    match ← cancelHeartbeat.attempt with
    | .error _ => finish (some session) true .retry
    | .ok _ =>
      if outcome.reasonCode = some "audit_failed" then
        retryAfterError request "audit_failed" session
      else
        match ← (FraudStore.completeSession session outcome).attempt with
        | .error _ => retryAfterError request "audit_failed" session
        | .ok completed => publishOutcome request completed outcome

/-- `_handle_request` with any service: an exception of its `score` goes to the `except`. -/
def handleWith (score : FraudProg FraudOutcome) (request : FraudScoreRequest) :
    FraudProg ConsumerDecision := do
  match ← (FraudStore.claimSession request).attempt with
  | .error _ => finish none false .retry
  | .ok session =>
    match session.decided with
    | some outcome => publishOutcome request session outcome
    | none => scoreSession score request session

/-- `_handle_request` with the graph. -/
def handleRequest [Py.TextLib] (env : WorkerEnv) (request : FraudScoreRequest) :
    FraudProg ConsumerDecision :=
  handleWith (FraudGraph.score env request) request

/-- A request that is handled for the runner. -/
def deliver [Py.TextLib] (env : WorkerEnv) (request : FraudScoreRequest) : FraudProg Unit := do
  let decision ← handleRequest env request
  Prog.perform (FraudOp.decide request.eventID decision)

end FraudWorker

/-! ## Workers -/

/-- One turn of a heartbeat task. -/
structure Beat (U : Type) where
  owner : U
  fault : Fault := .none
  now : Time

/-- Any number of workers, each with its own lease owner and settings, and one request at a
    time. The heartbeat of a worker that crashes ends with it. -/
def fraudWorkers [Py.TextLib] {U : Type} [DecidableEq U] (env : U → WorkerEnv) :
    Company U FraudOp FraudOp.Ret FraudErr (FraudWorld U) Unit FraudChoice FraudScoreRequest
      (Beat U) where
  machine owner := fraudMachine (env owner) owner
  handle owner request := FraudWorker.deliver (env owner) request
  fresh := ()
  drift beat w := w.beat (env beat.owner) beat.owner beat.fault beat.now
  crash owner w := w.setHeartbeat owner .stopped

/-- The world after workers have worked on an empty table in any order. -/
def fraudRun [Py.TextLib] {U : Type} [DecidableEq U] (env : U → WorkerEnv)
    (acts : List (TeamAct U FraudScoreRequest FraudChoice (Beat U))) : FraudWorld U :=
  ((Team.idle {}).run (fraudWorkers env) acts).world

end EnjoyThings
