import EnjoyThings.Services.FraudStore
import EnjoyThings.Services.Notification

/-!
# The scoring graph

`FraudScoringGraph` of `graph.py`. Each node writes its audit event and names the node
after it, and the only edge that goes back leads from the validator to one retry of prompt,
guard, model and validator. An exception of a node ends the graph with `audit_failed`; only
the node that enriches catches one itself.
-/

namespace EnjoyThings

open Effect

/-! ## Facts and prompts -/

structure SanitizedTransactionFacts where
  amountCents : Int
  currency : Py.Str
  senderKycStatus : Py.Str
  history : List TransactionHistoryEntry := []
  velocity : VelocityMetrics := {}
  deriving DecidableEq

namespace Py

/-- `f"{n}"` of an integer. -/
def ofInt (n : Int) : Str := ofString (Go.decimal n)

/-- `separator.join(parts)`. -/
def join (separator : Str) (parts : List Str) : Str := separator.intercalate parts

/-- The microseconds from the start of the year 1 to a naive `datetime`, which order as the
    `datetime`s do. -/
def DateTime.micros (dt : DateTime) : Nat :=
  let stamp : Stamp :=
    { year := dt.year, month := dt.month, day := dt.day, hour := dt.hour, minute := dt.minute
      second := dt.second }
  stamp.seconds * 1000000 + dt.microsecond

end Py

/-- `sorted(history, key=lambda entry: entry.occurred_at, reverse=True)`, which keeps the order of
    entries with the same time. -/
def orderedHistory (history : List TransactionHistoryEntry) : List TransactionHistoryEntry :=
  history.insertionSort fun a b => b.occurredAt.micros ≤ a.occurredAt.micros

/-- `_history_sentence`. -/
def historySentence (entry : TransactionHistoryEntry) : Py.Str :=
  entry.direction ++ Py.ofString " " ++ Py.ofInt entry.amountCents ++ Py.ofString " " ++
    entry.currency ++ Py.ofString " at " ++ Py.isoformat entry.occurredAt

/-- `facts_sentence`. -/
def factsSentence (facts : SanitizedTransactionFacts) : Py.Str :=
  let history := Py.join (Py.ofString ", ") (facts.history.map historySentence)
  Py.ofString "velocity last hour count " ++ Py.ofInt facts.velocity.transactionsLastHour ++
    Py.ofString ", velocity last hour cents " ++ Py.ofInt facts.velocity.amountLastHourCents ++
    Py.ofString ", average 30d cents " ++ Py.ofInt facts.velocity.averageAmount30dCents ++
    Py.ofString ", distinct recipients 30d " ++ Py.ofInt facts.velocity.distinctRecipients30d ++
    Py.ofString ", recent history " ++ if history = [] then Py.ofString "none" else history

/-- `build_prompt`. -/
def promptText (facts : SanitizedTransactionFacts) : Py.Str :=
  Py.ofString "current_payment amount " ++ Py.ofInt facts.amountCents ++ Py.ofString " " ++
    facts.currency ++ Py.ofString "; sender kyc " ++ facts.senderKycStatus ++
    Py.ofString "; recipient semantic label recipient; " ++ factsSentence facts

def systemInstruction : String :=
  "You are a fraud scoring assistant. Return only JSON with risk_score, action, " ++
    "and reason. Use allow, flag, or block. Never include identifiers."

/-- `messages`. -/
def chatMessages (prompt : Py.Str) : List ChatMessage :=
  [{ role := "system", content := Py.ofString systemInstruction },
    { role := "user", content := prompt }]

/-- `_json_safe(asdict(facts))`. -/
def SanitizedTransactionFacts.document (facts : SanitizedTransactionFacts) :
    List (Py.Str × Py.Json) :=
  [(Py.ofString "amount_cents", .int facts.amountCents),
    (Py.ofString "currency", .str facts.currency),
    (Py.ofString "sender_kyc_status", .str facts.senderKycStatus),
    (Py.ofString "history", .arr (facts.history.map fun entry => .obj
      [(Py.ofString "direction", .str entry.direction),
        (Py.ofString "amount_cents", .int entry.amountCents),
        (Py.ofString "currency", .str entry.currency),
        (Py.ofString "occurred_at", .str (Py.isoformat entry.occurredAt))])),
    (Py.ofString "velocity", .obj
      [(Py.ofString "transactions_last_hour", .int facts.velocity.transactionsLastHour),
        (Py.ofString "amount_last_hour_cents", .int facts.velocity.amountLastHourCents),
        (Py.ofString "average_amount_30d_cents", .int facts.velocity.averageAmount30dCents),
        (Py.ofString "distinct_recipients_30d", .int facts.velocity.distinctRecipients30d)])]

/-! ## The calls -/

namespace FraudStore

/-- `claim_session`: two statements. -/
def claimSession (request : FraudScoreRequest) : FraudProg FraudSession := do
  Prog.perform (FraudOp.insertSession request.eventID request.paymentID)
  Prog.perform (FraudOp.claim request.eventID)

def completeSession (session : FraudSession) (outcome : FraudOutcome) : FraudProg FraudSession :=
  Prog.perform (FraudOp.complete session.sessionID outcome)

def markPublished (session : FraudSession) : FraudProg FraudSession :=
  Prog.perform (FraudOp.markPublished session.sessionID)

def releaseLease (session : FraudSession) : FraudProg Unit :=
  Prog.perform (FraudOp.releaseLease session.sessionID)

end FraudStore

namespace FraudGraph

/-- A field of an audit event with a text. -/
def textField (name value : String) : Py.Str × Py.Json :=
  (Py.ofString name, .str (Py.ofString value))

def intField (name : String) (value : Int) : Py.Str × Py.Json :=
  (Py.ofString name, .int value)

/-- `_audit`, which writes nothing without a session. -/
def audit (session : Option FraudSession) (node : String) (fields : List (Py.Str × Py.Json)) :
    FraudProg Unit :=
  match session with
  | none => pure ()
  | some session => Prog.perform (FraudOp.append session.sessionID node fields)

/-- An outcome without a verdict. -/
def failOpen (reasonCode : String) : FraudOutcome :=
  { action := none, reasonCode := some reasonCode }

/-! ## The nodes -/

/-- `_create_session`. -/
def createSession (request : FraudScoreRequest) : FraudProg FraudSession := do
  let session ← FraudStore.claimSession request
  audit session "create_session"
    [textField "outcome" "completed", (Py.ofString "source_event_id", .str request.eventID)]
  pure session

/-- `_build_sanitized_context`. -/
def buildSanitizedContext (session : Option FraudSession) : FraudProg Unit :=
  audit session "build_sanitized_context"
    [textField "outcome" "completed",
      (Py.ofString "labels", .arr (["current_payment", "sender", "recipient"].map fun label =>
        .str (Py.ofString label)))]

/-- `_enrich_transaction`. -/
def enrichTransaction (config : FraudConfig) (request : FraudScoreRequest)
    (session : Option FraudSession) : FraudProg SanitizedTransactionFacts := do
  let enrichment ← Prog.perform
    (FraudOp.enrich request.fromWalletID config.historyLimit request.userID request.traceID)
  let history := orderedHistory enrichment.history
  let facts : SanitizedTransactionFacts :=
    { amountCents := request.amountCents, currency := request.currency
      senderKycStatus := enrichment.kycStatus, history := history
      velocity := enrichment.velocity }
  audit session "enrich_transaction"
    [textField "outcome" "completed", intField "history_count" history.length,
      (Py.ofString "sanitized_facts", .obj facts.document),
      (Py.ofString "enrichment", .obj
        [intField "history_count" history.length,
          (Py.ofString "kyc_available", .bool (enrichment.kycStatus ≠ [])),
          (Py.ofString "velocity_available", .bool true)])]
  pure facts

/-- `_build_prompt`. -/
def buildPrompt (session : Option FraudSession) (facts : SanitizedTransactionFacts) :
    FraudProg (List ChatMessage) := do
  audit session "build_prompt" [textField "outcome" "completed"]
  pure (chatMessages (promptText facts))

/-- `_input_guard`: whether the messages may go to the model. -/
def inputGuard [Py.TextLib] (config : FraudConfig) (session : Option FraudSession)
    (messages : List ChatMessage) (attempt : Int) : FraudProg Bool := do
  let rejection := guardPrompt config
    (Py.join (Py.ofString "\n") (messages.map ChatMessage.content))
  audit session "input_guard" (intField "attempt" attempt ::
    match rejection with
    | none => [textField "outcome" "accepted"]
    | some code => [textField "outcome" "rejected", textField "rejection_phase" "before",
        textField "rejection_code" code])
  pure (rejection = none)

/-- `_call_llm`: the response, if the model gives one. -/
def callLlm (env : WorkerEnv) (session : Option FraudSession) (messages : List ChatMessage)
    (attempt : Int) : FraudProg (Option Py.Str) := do
  let (response, latency) ← Prog.perform (FraudOp.ask messages)
  let described := [intField "attempt" attempt, (Py.ofString "provider_id", .str env.providerID),
    (Py.ofString "model_id", .str env.modelID), intField "latency_ms" latency]
  audit session "call_llm" <| match response with
    | none => textField "outcome" "failed" :: described
    | some text => textField "outcome" "completed" :: described ++
        [(Py.ofString "raw_response", .str text)]
  pure response

/-- `_validate_verdict`: the outcome of an accepted response, or the result of the validation. -/
def validate [Py.TextLib] (config : FraudConfig) (session : Option FraudSession)
    (response : Py.Str) (attempt : Int) : FraudProg (Except ValidationResult FraudOutcome) :=
  match validateVerdict config response with
  | .error e => .fail (.raised e)
  | .ok validation =>
    match validation.verdict with
    | none => do
      audit session "validate_verdict"
        [textField "outcome" "rejected", intField "attempt" attempt,
          textField "rejection_phase" "after",
          textField "rejection_code" (validation.rejectionReason.getD "invalid_schema")]
      pure (.error validation)
    | some verdict => do
      audit session "validate_verdict"
        [textField "outcome" "accepted", intField "attempt" attempt,
          textField "action" verdict.action.text,
          textField "model_action" verdict.modelAction.text,
          (Py.ofString "action_normalized", .bool verdict.actionNormalized)]
      pure (.ok { action := some verdict.action, verdict := some verdict })

/-- `_retry_prompt`. -/
def retryPrompt (session : Option FraudSession) (facts : SanitizedTransactionFacts)
    (validation : ValidationResult) : FraudProg (List ChatMessage) := do
  audit session "retry_prompt"
    [textField "outcome" "completed",
      (Py.ofString "rejection_code", validation.rejectionReason.elim .null fun reason =>
        .str (Py.ofString reason))]
  pure (chatMessages (Py.ofString validation.correctivePrompt ++
    Py.ofString "\nSanitized facts: " ++ factsSentence facts))

/-- `_complete_session`. -/
def completeSession (session : Option FraudSession) (outcome : Option FraudOutcome) :
    FraudProg FraudOutcome :=
  match session with
  | none => pure (failOpen "audit_failed")
  | some session => do
    let outcome := outcome.getD (failOpen "audit_failed")
    audit session "complete_session"
      [textField "outcome" "completed",
        textField "action" (outcome.action.elim "fail_open" FraudAction.text),
        textField "reason_code" (outcome.reasonCode.getD "")]
    let _ ← FraudStore.completeSession session outcome
    pure outcome

/-! ## The graph -/

inductive GraphNode
  | createSession
  | buildSanitizedContext
  | enrichTransaction
  | buildPrompt
  | inputGuard
  | callLlm
  | validateVerdict
  | retryPrompt
  | completeSession
  deriving DecidableEq

/-- The values of `next_step`: the empty text, `"done"`, or the name of a node. -/
inductive NextStep
  | unset
  | done
  | node (node : GraphNode)
  deriving DecidableEq

/-- `GraphState`, without the prompt, which no node reads. -/
structure GraphState where
  request : FraudScoreRequest
  session : Option FraudSession := none
  facts : Option SanitizedTransactionFacts := none
  messages : Option (List ChatMessage) := none
  rawResponse : Py.Str := []
  validation : Option ValidationResult := none
  outcome : Option FraudOutcome := none
  attempt : Int := 1
  nextStep : NextStep := .unset

namespace GraphState

/-- The state when `value`, a field that an earlier node sets, must not be `None`. -/
def required {α β : Type} (value : Option α) (f : α → FraudProg β) : FraudProg β :=
  match value with
  | none => .fail (.raised .other)
  | some a => f a

/-- An outcome to be recorded. -/
def completing (state : GraphState) (outcome : FraudOutcome) : GraphState :=
  { state with outcome := some outcome, nextStep := .node .completeSession }

/-- After a response that was rejected: only the first one is asked for again. -/
def rejected (state : GraphState) (validation : ValidationResult) : GraphState :=
  let state := { state with validation := some validation }
  if state.attempt = 1 then { state with nextStep := .node .retryPrompt }
  else state.completing (failOpen "validation_failed")

end GraphState

open GraphState

/-- `_node_create_session`. A completed session ends the graph at once. -/
def nodeCreateSession (state : GraphState) : FraudProg GraphState := do
  let session ← createSession state.request
  match session.decided with
  | some outcome =>
    pure { state with session := some session, outcome := some outcome, nextStep := .done }
  | none =>
    pure { state with session := some session, nextStep := .node .buildSanitizedContext }

/-- `_node_build_sanitized_context`. -/
def nodeBuildSanitizedContext (state : GraphState) : FraudProg GraphState := do
  buildSanitizedContext state.session
  pure { state with nextStep := .node .enrichTransaction }

/-- `_node_enrich_transaction`. Facts whose audit event fails stay in the state of the source,
    where no node after this one reads them. -/
def nodeEnrichTransaction (env : WorkerEnv) (state : GraphState) : FraudProg GraphState := do
  match ← (enrichTransaction env.config state.request state.session).attempt with
  | .ok facts => pure { state with facts := some facts, nextStep := .node .buildPrompt }
  | .error _ => pure (state.completing (failOpen "enrichment_failed"))

/-- `_node_build_prompt`. -/
def nodeBuildPrompt (state : GraphState) : FraudProg GraphState :=
  required state.facts fun facts => do
    let messages ← buildPrompt state.session facts
    pure { state with messages := some messages, nextStep := .node .inputGuard }

/-- `_node_input_guard`. -/
def nodeInputGuard [Py.TextLib] (env : WorkerEnv) (state : GraphState) : FraudProg GraphState :=
  required state.messages fun messages => do
    if ← inputGuard env.config state.session messages state.attempt then
      pure { state with nextStep := .node .callLlm }
    else pure (state.completing (failOpen "prompt_rejected"))

/-- `_node_call_llm`. -/
def nodeCallLlm (env : WorkerEnv) (state : GraphState) : FraudProg GraphState :=
  required state.messages fun messages => do
    match ← callLlm env state.session messages state.attempt with
    | some response =>
      pure { state with rawResponse := response, nextStep := .node .validateVerdict }
    | none => pure (state.completing (failOpen "model_failed"))

/-- `_node_validate_verdict`. The validation of an accepted response is read by no node. -/
def nodeValidateVerdict [Py.TextLib] (env : WorkerEnv) (state : GraphState) :
    FraudProg GraphState := do
  match ← validate env.config state.session state.rawResponse state.attempt with
  | .ok outcome => pure (state.completing outcome)
  | .error validation => pure (state.rejected validation)

/-- `_node_retry_prompt`. -/
def nodeRetryPrompt (state : GraphState) : FraudProg GraphState :=
  required state.facts fun facts => required state.validation fun validation => do
    let messages ← retryPrompt state.session facts validation
    pure { state with
      messages := some messages, rawResponse := [], attempt := 2, nextStep := .node .inputGuard }

/-- `_node_complete_session`. -/
def nodeCompleteSession (state : GraphState) : FraudProg GraphState := do
  let outcome ← completeSession state.session state.outcome
  pure { state with outcome := some outcome, nextStep := .done }

/-- The nodes that `_build_graph` adds. -/
def runNode [Py.TextLib] (env : WorkerEnv) : GraphNode → GraphState → FraudProg GraphState
  | .createSession => nodeCreateSession
  | .buildSanitizedContext => nodeBuildSanitizedContext
  | .enrichTransaction => nodeEnrichTransaction env
  | .buildPrompt => nodeBuildPrompt
  | .inputGuard => nodeInputGuard env
  | .callLlm => nodeCallLlm env
  | .validateVerdict => nodeValidateVerdict env
  | .retryPrompt => nodeRetryPrompt
  | .completeSession => nodeCompleteSession

/-- `ainvoke`: a node, then the one that `_route` names, until the end. `steps` are those that
    the library still allows. -/
def ainvoke [Py.TextLib] (env : WorkerEnv) : Nat → GraphNode → GraphState → FraudProg GraphState
  | 0, _, _ => .fail (.raised .other)
  | steps + 1, node, state => do
    let state ← runNode env node state
    match state.nextStep with
    | .done => pure state
    -- Neither is a key of the `route_map`.
    | .unset | .node .createSession => .fail (.raised .other)
    | .node node => ainvoke env steps node state

/-- The default `recursion_limit` of the library. -/
def recursionLimit : Nat := 25

/-- The graph from its entry point. -/
def invoke [Py.TextLib] (env : WorkerEnv) (request : FraudScoreRequest) :
    FraudProg FraudOutcome := do
  let state ← ainvoke env recursionLimit .createSession { request }
  pure (state.outcome.getD (failOpen "audit_failed"))

/-- `score`. -/
def score [Py.TextLib] (env : WorkerEnv) (request : FraudScoreRequest) :
    FraudProg FraudOutcome := do
  match ← (invoke env request).attempt with
  | .ok outcome => pure outcome
  | .error _ => pure (failOpen "audit_failed")

end FraudGraph

end EnjoyThings
