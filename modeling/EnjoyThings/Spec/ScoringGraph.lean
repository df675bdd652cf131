import EnjoyThings.Services.FraudGraph

/-!
# The scoring graph as one program

The nodes of the graph name one another, and a loop runs them. A run takes one of a few
ways through them: `straight` writes these ways out, and the loop computes the same.

## Key results

- `FraudGraph.invoke_eq`: the loop over the nodes is the program without nodes
-/

namespace EnjoyThings

open Effect

namespace FraudGraph

open GraphState

/-! ## The program without nodes -/

def answered [Py.TextLib] (env : WorkerEnv) (session : FraudSession) (attempt : Int) :
    Option Py.Str → FraudProg (Except ValidationResult FraudOutcome)
  | none => pure (.ok (failOpen "model_failed"))
  | some response => validate env.config session response attempt

/-- From the guard to the validator: an outcome, or a response that was rejected. -/
def judge [Py.TextLib] (env : WorkerEnv) (session : FraudSession) (messages : List ChatMessage)
    (attempt : Int) : FraudProg (Except ValidationResult FraudOutcome) := do
  if ← inputGuard env.config session messages attempt then
    callLlm env session messages attempt >>= answered env session attempt
  else pure (.ok (failOpen "prompt_rejected"))

/-- The outcome of the first attempt or of the second. -/
def judgeTwice [Py.TextLib] (env : WorkerEnv) (session : FraudSession)
    (facts : SanitizedTransactionFacts) : FraudProg FraudOutcome := do
  let messages ← buildPrompt session facts
  match ← judge env session messages 1 with
  | .ok outcome => pure outcome
  | .error validation =>
    let messages ← retryPrompt session facts validation
    match ← judge env session messages 2 with
    | .ok outcome => pure outcome
    | .error _ => pure (failOpen "validation_failed")

/-- The nodes between the first and the last. -/
def assess [Py.TextLib] (env : WorkerEnv) (request : FraudScoreRequest) (session : FraudSession) :
    FraudProg FraudOutcome := do
  buildSanitizedContext session
  match ← (enrichTransaction env.config request session).attempt with
  | .error _ => pure (failOpen "enrichment_failed")
  | .ok facts => judgeTwice env session facts

/-- The whole graph. A completed session ends it at once. -/
def straight [Py.TextLib] (env : WorkerEnv) (request : FraudScoreRequest) :
    FraudProg FraudOutcome := do
  let session ← createSession request
  match session.decided with
  | some outcome => pure outcome
  | none =>
    let outcome ← assess env request session
    completeSession session outcome

/-! ## The loop from a node on -/

/-- The outcome of the graph from a node on. -/
def outcomeFrom [Py.TextLib] (env : WorkerEnv) (steps : Nat) (node : GraphNode)
    (state : GraphState) : FraudProg FraudOutcome := do
  let state ← ainvoke env steps node state
  pure (state.outcome.getD (failOpen "audit_failed"))

/-- How the loop goes on after a node. -/
def routed [Py.TextLib] (env : WorkerEnv) (steps : Nat) (state : GraphState) :
    FraudProg FraudOutcome :=
  match state.nextStep with
  | .done => pure (state.outcome.getD (failOpen "audit_failed"))
  | .unset | .node .createSession => .fail (.raised .other)
  | .node node => outcomeFrom env steps node state

private theorem outcomeFrom_succ [Py.TextLib] (env : WorkerEnv) (steps : Nat) (node : GraphNode)
    (state : GraphState) :
    outcomeFrom env (steps + 1) node state = runNode env node state >>= routed env steps := by
  rw [outcomeFrom, ainvoke, Prog.bind_assoc]
  congr 1
  funext state
  unfold routed
  cases state.nextStep with
  | unset => rfl
  | done => rfl
  | node node => cases node <;> rfl

/-- The last node. -/
private theorem routed_completing [Py.TextLib] (env : WorkerEnv) (steps : Nat)
    {state : GraphState} {session : FraudSession} (hsession : state.session = some session)
    (outcome : FraudOutcome) :
    routed env (steps + 1) (state.completing outcome) = completeSession session outcome := by
  change outcomeFrom env (steps + 1) .completeSession (state.completing outcome) = _
  rw [outcomeFrom_succ, runNode, nodeCompleteSession, Prog.bind_assoc, completing, hsession]
  exact Prog.bind_pure _

/-- What the loop does after an attempt, if a rejection leads to `again`. -/
def concluded (session : FraudSession) (again : ValidationResult → FraudProg FraudOutcome) :
    Except ValidationResult FraudOutcome → FraudProg FraudOutcome
  | .ok outcome => completeSession session outcome
  | .error validation => again validation

/-- A state before an attempt whose rejection leads to `again`. -/
structure Judging [Py.TextLib] (env : WorkerEnv) (steps : Nat) (session : FraudSession)
    (again : ValidationResult → FraudProg FraudOutcome) (state : GraphState) : Prop where
  session : state.session = some session
  rejected : ∀ response validation, routed env (steps + 1)
    ({ state with rawResponse := response }.rejected validation) = again validation

private theorem Judging.validateVerdict [Py.TextLib] {env : WorkerEnv} {steps : Nat}
    {session : FraudSession} {again : ValidationResult → FraudProg FraudOutcome}
    {state : GraphState} (h : Judging env steps session again state) (response : Py.Str) :
    outcomeFrom env (steps + 2) .validateVerdict
        { state with rawResponse := response, nextStep := .node .validateVerdict } =
      validate env.config session response state.attempt >>= concluded session again := by
  rw [outcomeFrom_succ, runNode, nodeValidateVerdict, Prog.bind_assoc, h.session]
  congr 1
  funext result
  cases result with
  | ok outcome => exact routed_completing env steps rfl outcome
  | error validation =>
    rw [← h.session]
    exact h.rejected response validation

private theorem Judging.callLlm [Py.TextLib] {env : WorkerEnv} {steps : Nat}
    {session : FraudSession} {again : ValidationResult → FraudProg FraudOutcome}
    {state : GraphState} (h : Judging env steps session again state) {messages : List ChatMessage}
    (hmessages : state.messages = some messages) :
    outcomeFrom env (steps + 3) .callLlm { state with nextStep := .node .callLlm } =
      (callLlm env session messages state.attempt >>= answered env session state.attempt) >>=
        concluded session again := by
  rw [outcomeFrom_succ, runNode, nodeCallLlm, Prog.bind_assoc, hmessages, required, h.session,
    Prog.bind_assoc]
  congr 1
  funext answer
  cases answer with
  | none => exact routed_completing env (steps + 1) rfl _
  | some response =>
    have hvalidate := h.validateVerdict response
    rw [h.session, hmessages] at hvalidate
    exact hvalidate

private theorem Judging.inputGuard [Py.TextLib] {env : WorkerEnv} {steps : Nat}
    {session : FraudSession} {again : ValidationResult → FraudProg FraudOutcome}
    {state : GraphState} (h : Judging env steps session again state) {messages : List ChatMessage}
    (hmessages : state.messages = some messages) :
    outcomeFrom env (steps + 4) .inputGuard state =
      judge env session messages state.attempt >>= concluded session again := by
  rw [outcomeFrom_succ, runNode, nodeInputGuard, judge, Prog.bind_assoc, hmessages, required,
    h.session, Prog.bind_assoc]
  congr 1
  funext accepted
  cases accepted with
  | false => exact routed_completing env (steps + 2) h.session _
  | true =>
    have hcall := h.callLlm hmessages
    rw [h.session, hmessages] at hcall
    exact hcall

/-- The second attempt: a rejection is the end. -/
private theorem outcomeFrom_retryPrompt [Py.TextLib] (env : WorkerEnv) (steps : Nat)
    {state : GraphState} {session : FraudSession} {facts : SanitizedTransactionFacts}
    {validation : ValidationResult} (hsession : state.session = some session)
    (hfacts : state.facts = some facts) (hvalidation : state.validation = some validation) :
    outcomeFrom env (steps + 5) .retryPrompt state =
      retryPrompt session facts validation >>= fun messages =>
        judge env session messages 2 >>= concluded session fun _ =>
          completeSession session (failOpen "validation_failed") := by
  rw [outcomeFrom_succ, runNode, nodeRetryPrompt, hfacts, hvalidation, hsession, required,
    required, Prog.bind_assoc]
  congr 1
  funext messages
  have hjudging : Judging env steps session
      (fun _ => completeSession session (failOpen "validation_failed"))
      { state with
        session := some session, facts := some facts, messages := some messages,
        validation := some validation, rawResponse := [], attempt := 2
        nextStep := .node .inputGuard } :=
    ⟨rfl, fun _ _ => routed_completing env steps rfl _⟩
  exact hjudging.inputGuard rfl

/-- Both attempts. -/
private theorem outcomeFrom_buildPrompt [Py.TextLib] (env : WorkerEnv) (steps : Nat)
    {state : GraphState} {session : FraudSession} {facts : SanitizedTransactionFacts}
    (hsession : state.session = some session) (hfacts : state.facts = some facts)
    (hattempt : state.attempt = 1) :
    outcomeFrom env (steps + 9) .buildPrompt state =
      judgeTwice env session facts >>= fun outcome => completeSession session outcome := by
  rw [outcomeFrom_succ, runNode, nodeBuildPrompt, judgeTwice, hfacts, hsession, hattempt,
    required, Prog.bind_assoc, Prog.bind_assoc]
  congr 1
  funext messages
  have hjudging : Judging env (steps + 4) session
      (fun validation => retryPrompt session facts validation >>= fun messages =>
        judge env session messages 2 >>= concluded session fun _ =>
          completeSession session (failOpen "validation_failed"))
      { state with
        session := some session, facts := some facts, messages := some messages, attempt := 1
        nextStep := .node .inputGuard } :=
    ⟨rfl, fun _ _ => outcomeFrom_retryPrompt env steps rfl rfl rfl⟩
  refine (hjudging.inputGuard rfl).trans ?_
  rw [Prog.bind_assoc]
  congr 1
  funext result
  cases result with
  | ok outcome => rfl
  | error validation =>
    rw [concluded, Prog.bind_assoc]
    congr 1
    funext messages
    rw [Prog.bind_assoc]
    congr 1
    funext result
    cases result <;> rfl

/-- The loop over the nodes computes what the program without nodes does. -/
theorem invoke_eq [Py.TextLib] (env : WorkerEnv) (request : FraudScoreRequest) :
    invoke env request = straight env request := by
  change outcomeFrom env 25 .createSession { request } = _
  rw [outcomeFrom_succ, runNode, nodeCreateSession, straight, Prog.bind_assoc]
  congr 1
  funext session
  cases hdecided : session.decided with
  | some outcome => rfl
  | none =>
    change outcomeFrom env 24 .buildSanitizedContext _ = _
    rw [outcomeFrom_succ, runNode, nodeBuildSanitizedContext, assess, Prog.bind_assoc,
      Prog.bind_assoc]
    congr 1
    funext _
    change outcomeFrom env 23 .enrichTransaction _ = _
    rw [outcomeFrom_succ, runNode, nodeEnrichTransaction, Prog.bind_assoc, Prog.bind_assoc]
    congr 1
    funext facts
    cases facts with
    | error e => exact routed_completing env 21 rfl _
    | ok facts => exact outcomeFrom_buildPrompt env 13 rfl rfl rfl

end FraudGraph

end EnjoyThings
