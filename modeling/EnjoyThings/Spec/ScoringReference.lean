import EnjoyThings.Spec.FraudPublished
import EnjoyThings.Spec.ScoringRuns

/-!
# What the scoring graph computes

The outcome of the graph is that of a reference function that knows no nodes: the facts,
a first attempt with its messages, and a second one with the messages that name the
rejection. Neither message says who pays: two requests for the same amount, with the same
enrichment and the same rejection, send the same messages.

## Key results

- `score_computes_reference`: the graph computes its reference function
- `prompts_independent`: what is sent to the model does not depend on identities
-/

namespace EnjoyThings

open Effect

/-! ## The reference function -/

section

variable [Py.TextLib] (config : FraudConfig)

/-- The action for a score: the thresholds decide. -/
def thresholdAction (score : Rat) : FraudAction :=
  if config.blockThreshold ≤ score then .block
  else if config.scoreThreshold ≤ score then .flag
  else .allow

/-- One attempt: an outcome, or the code a response was rejected with. -/
def attemptOutcome (messages : List ChatMessage) (answer : Option Py.Str) :
    Except String FraudOutcome :=
  if GuardAccepts config messages then
    match answer with
    | none => .ok (FraudGraph.failOpen "model_failed")
    | some response =>
      match Validator.readVerdict config response with
      | .ok verdict =>
        .ok { action := some (thresholdAction config verdict.riskScore), verdict := some verdict }
      | .error (.rejected code) => .error code
      | .error (.raised _) => .ok (FraudGraph.failOpen "audit_failed")
  else .ok (FraudGraph.failOpen "prompt_rejected")

/-- A second attempt after a rejection. -/
def secondAttempt (facts : SanitizedTransactionFacts) (second : Option Py.Str) :
    Except String FraudOutcome → FraudOutcome
  | .ok outcome => outcome
  | .error code => (attemptOutcome config (retryMessages facts code) second).toOption.getD
      (FraudGraph.failOpen "validation_failed")

/-- What the graph is for, without its nodes. -/
def referenceOutcome (request : FraudScoreRequest) (enrichment : Except FraudErr Enrichment)
    (first second : Option Py.Str) : FraudOutcome :=
  match enrichment with
  | .error _ => FraudGraph.failOpen "enrichment_failed"
  | .ok enrichment =>
    secondAttempt config (factsOf request enrichment) second
      (attemptOutcome config (firstMessages (factsOf request enrichment)) first)

end

variable {response : Py.Str} {takes : Takes}

section

variable [Py.TextLib]

theorem referenceOutcome_ok {config : FraudConfig} {request : FraudScoreRequest}
    {enrichment : Enrichment} {first second : Option Py.Str} :
    referenceOutcome config request (.ok enrichment) first second =
      secondAttempt config (factsOf request enrichment) second
        (attemptOutcome config (firstMessages (factsOf request enrichment)) first) := by
  rw [referenceOutcome]

theorem Validator.readVerdict_action {config : FraudConfig} {verdict : FraudVerdict}
    (h : Validator.readVerdict config response = .ok verdict) :
    verdict.action = thresholdAction config verdict.riskScore := by
  obtain ⟨_, -, h⟩ := Except.bind_eq_ok.mp h
  obtain ⟨_, -, h⟩ := Except.bind_eq_ok.mp h
  obtain ⟨fields, -, h⟩ := Except.bind_eq_ok.mp h
  obtain ⟨_, -, h⟩ := Except.bind_eq_ok.mp h
  obtain ⟨score, -, h⟩ := Except.bind_eq_ok.mp h
  obtain ⟨reason, -, h⟩ := Except.bind_eq_ok.mp h
  obtain ⟨_, -, h⟩ := Except.bind_eq_ok.mp h
  obtain ⟨_, -, h⟩ := Except.bind_eq_ok.mp h
  cases h
  rfl

/-- An attempt whose statements work is one of the reference function. -/
theorem judged_eq {config : FraudConfig} {messages : List ChatMessage} {answer : Option Py.Str}
    (htakes : takes.answer answer = true) (hreturns : Returns config answer) :
    judged config takes messages answer = .ok (attemptOutcome config messages answer) := by
  unfold judged attemptOutcome
  by_cases hguard : GuardAccepts config messages
  · rw [if_pos hguard, if_pos hguard, taken, if_pos htakes, Except.ok_bind]
    cases answer with
    | none => rfl
    | some response =>
      have hraised := validateVerdict_eq_ok.mp (hreturns response rfl)
      simp only [answered, validated]
      cases hread : Validator.readVerdict config response with
      | ok verdict => simp only [Validator.readVerdict_action hread]
      | error refusal =>
        cases refusal with
        | rejected code => rfl
        | raised e => exact absurd hread (hraised e)
  · rw [if_neg hguard, if_neg hguard]

/-- So are both attempts. -/
theorem judgedTwice_eq {config : FraudConfig} {first second : Option Py.Str}
    {request : FraudScoreRequest} {enrichment : Enrichment} (hfirst : takes.answer first = true)
    (hsecond : takes.answer second = true) (hreturns : Returns config first)
    (hreturns' : Returns config second) :
    judgedTwice config takes first second (factsOf request enrichment) =
      .ok (referenceOutcome config request (.ok enrichment) first second) := by
  rw [referenceOutcome_ok, judgedTwice, judged_eq hfirst hreturns, Except.ok_bind]
  cases attemptOutcome config (firstMessages (factsOf request enrichment)) first with
  | ok outcome => rw [judgedAgain, secondAttempt]
  | error code => rw [judgedAgain, judged_eq hsecond hreturns', secondAttempt, Except.map]

end

/-! ## The graph and its reference function -/

/-- A database that takes every text. -/
def Columns.every : Columns where
  text _ := true
  jsonb _ := true
  text_nil := rfl
  jsonb_word _ _ := rfl

namespace Columns

mutual

theorem every_json : ∀ value, every.json value = true
  | .str _ => by rw [json]; rfl
  | .arr values => by rw [json, every_items values]
  | .obj members => by rw [json, every_fields members]
  | .null | .bool _ | .int _ | .float _ => by simp only [json]

theorem every_items : ∀ values, every.items values = true
  | [] => by rw [items]
  | value :: values => by rw [items, every_json value, every_items values]; rfl

theorem every_fields : ∀ members, every.fields members = true
  | [] => by rw [fields]
  | (key, value) :: rest => by rw [fields, every_json value, every_fields rest]; rfl

end

theorem every_stores (o : FraudOp) : every.stores o = true := by
  cases o with
  | append sessionID node event =>
    rw [stores, every_fields]
    rfl
  | complete sessionID outcome =>
    show outcome.verdict.all (fun _ => true) = true
    cases outcome.verdict <;> rfl
  | _ => rfl

end Columns

theorem ScoringPorts.records_of_stores [Py.TextLib] {ports : ScoringPorts} (env : WorkerEnv)
    (request : FraudScoreRequest) (hstores : ∀ o, ports.stores o = true) :
    ports.Records env request (Columns.every.takes env) :=
  records_of_columns (funext fun o => (hstores o).trans (Columns.every_stores o).symm) rfl

theorem Columns.every_answer (env : WorkerEnv) (answer : Option Py.Str) :
    (every.takes env).answer answer = true := by
  cases answer <;> rfl

theorem Columns.every_facts (env : WorkerEnv) (facts : SanitizedTransactionFacts) :
    taken (every.takes env).facts facts = .ok facts :=
  if_pos (every_fields _)

/-- With an open session and statements that work, the graph computes its reference function and
    completes the session with its outcome. It asks the model at most twice, with messages the
    guard accepts, and the second time after a rejection. -/
theorem score_computes_reference [Py.TextLib] (ports : ScoringPorts) (env : WorkerEnv)
    (request : FraudScoreRequest) (hopen : ports.session.decided = none)
    (hstores : ∀ o, ports.stores o = true) (hfirst : Returns env.config ports.first.1)
    (hsecond : Returns env.config ports.second.1) :
    let run := ports.play (FraudGraph.score env request) []
    let outcome := referenceOutcome env.config request ports.enrichment ports.first.1 ports.second.1
    run.1 = .ok outcome ∧ completions run.2 = [(ports.session.sessionID, outcome)] ∧
      (askedMessages run.2).length ≤ 2 ∧
      (∀ messages ∈ askedMessages run.2, GuardAccepts env.config messages) ∧
      (2 ≤ (askedMessages run.2).length → ∃ response code, ports.first.1 = some response ∧
        RejectsWith env.config response code) := by
  intro run outcome
  obtain ⟨hresult, hasked, hdone⟩ :=
    ((ScoringPorts.records_of_stores env request hstores).score hopen).run
  -- nothing the graph stores is refused, so its nodes compute the reference function
  have hassessed : assessed env.config (Columns.every.takes env) ports.first.1 ports.second.1
      (ports.enrichment >>= fun e => taken (Columns.every.takes env).facts (factsOf request e)) =
        .ok outcome := by
    cases henrichment : ports.enrichment with
    | error e =>
      simp only [outcome, henrichment]
      rfl
    | ok e =>
      rw [Except.ok_bind, Columns.every_facts, assessed, judgedTwice_eq
        (Columns.every_answer env _) (Columns.every_answer env _) hfirst hsecond]
      simp only [outcome, henrichment]
  have hscored : scored env.config (Columns.every.takes env) request ports.enrichment
      ports.first.1 ports.second.1 = outcome := by
    have houtcome : (Columns.every.takes env).outcome outcome = true :=
      Columns.every_stores (.complete [] outcome)
    rw [scored, hassessed, Except.ok_bind, taken, if_pos houtcome]
    rfl
  rw [hassessed] at hdone
  refine ⟨hresult.trans (congrArg _ hscored), hdone, ?_⟩
  rw [hasked]
  exact sentBy_spec

namespace Sample

/-- A `json` that reads nothing. -/
@[reducible] def unreadableLib : Py.TextLib where
  loads _ := .error .jsonDecodeError
  dumps _ := .ok []
  lower s := s.map Py.lowerAscii

def enrichment : Enrichment :=
  { history := [], velocity := {}, kycStatus := Py.ofString "verified" }

def scoringPorts : ScoringPorts where
  session := { sessionID := Py.ofString "s", sourceEventID := scoreRequest.eventID
               paymentID := scoreRequest.paymentID }
  enrichment := .ok enrichment
  first := (some [], 3)
  second := (some [], 4)

/-- The first messages have nothing that is not allowed, nor have those after an answer that is
    no JSON. -/
theorem messages_accepted [Py.TextLib]
    (hlower : ∀ s, Py.TextLib.lower s = s.map Py.lowerAscii) :
    GuardAccepts {} (firstMessages (factsOf scoreRequest enrichment)) ∧
      GuardAccepts {} (retryMessages (factsOf scoreRequest enrichment) "invalid_json") := by
  unfold GuardAccepts guardPrompt containsKey
  simp only [hlower]
  decide +kernel

def flaggedOutcome : FraudOutcome := { action := some .flag, verdict := some flaggedVerdict }

theorem empty_rejected :
    @Validator.readVerdict flaggingLib {} [] = .error (.rejected "invalid_json") := by
  decide +kernel

theorem flaggedAnswer_accepted :
    @Validator.readVerdict flaggingLib {} flaggedAnswer = .ok flaggedVerdict := by
  decide +kernel

theorem empty_validated :
    @validateVerdict flaggingLib {} [] = .ok (Validator.rejected "invalid_json") := by
  simp only [validateVerdict, empty_rejected]

theorem flaggedAnswer_validated :
    @validateVerdict flaggingLib {} flaggedAnswer = .ok { verdict := some flaggedVerdict } := by
  simp only [validateVerdict, flaggedAnswer_accepted]

theorem returns_of_eq [Py.TextLib] {response : Py.Str} {validation : ValidationResult}
    (h : validateVerdict {} response = .ok validation) : Returns {} (some response) := by
  intro _ hresponse
  cases hresponse
  exact ⟨validation, h⟩

end Sample

/-- An answer that is no JSON, and after it one that flags the payment. -/
theorem score_computes_reference_retried :
    let ports := { Sample.scoringPorts with second := (some Sample.flaggedAnswer, 4) }
    let run := ports.play
      (@FraudGraph.score Sample.flaggingLib Sample.scoringWorker Sample.scoreRequest) []
    run.1 = .ok Sample.flaggedOutcome ∧
      completions run.2 = [(Py.ofString "s", Sample.flaggedOutcome)] := by
  have hattempt : @attemptOutcome Sample.flaggingLib {}
      (firstMessages (factsOf Sample.scoreRequest Sample.enrichment)) (some []) =
        .error "invalid_json" := by
    unfold attemptOutcome
    rw [if_pos (@Sample.messages_accepted Sample.flaggingLib fun _ => rfl).1]
    simp only [Sample.empty_rejected]
  have hattempt' : @attemptOutcome Sample.flaggingLib {}
      (retryMessages (factsOf Sample.scoreRequest Sample.enrichment) "invalid_json")
      (some Sample.flaggedAnswer) = .ok Sample.flaggedOutcome := by
    unfold attemptOutcome
    rw [if_pos (@Sample.messages_accepted Sample.flaggingLib fun _ => rfl).2]
    have haction : thresholdAction {} Sample.flaggedVerdict.riskScore = .flag := by
      decide +kernel
    simp only [Sample.flaggedAnswer_accepted, haction, Sample.flaggedOutcome]
  have houtcome : @referenceOutcome Sample.flaggingLib {} Sample.scoreRequest
      (.ok Sample.enrichment) (some []) (some Sample.flaggedAnswer) = Sample.flaggedOutcome := by
    rw [@referenceOutcome_ok Sample.flaggingLib, hattempt]
    simp only [secondAttempt, hattempt']
    rfl
  obtain ⟨hresult, hdone, -⟩ := @score_computes_reference Sample.flaggingLib
    { Sample.scoringPorts with second := (some Sample.flaggedAnswer, 4) } Sample.scoringWorker
    Sample.scoreRequest rfl (fun _ => rfl)
    (@Sample.returns_of_eq Sample.flaggingLib _ _ Sample.empty_validated)
    (@Sample.returns_of_eq Sample.flaggingLib _ _ Sample.flaggedAnswer_validated)
  exact ⟨hresult.trans (congrArg _ houtcome), hdone.trans (congrArg (fun o => [(_, o)]) houtcome)⟩

/-! ## Two runs -/

/-- What may be sent for a request whose first answer is rejected with the code. -/
def promptsOf (request : FraudScoreRequest) (code : String) :
    Except FraudErr Enrichment → List (List ChatMessage)
  | .ok e => [firstMessages (factsOf request e), retryMessages (factsOf request e) code]
  | .error _ => []

variable {code : String}

theorem Validator.rejected_inj {code' : String} :
    Validator.rejected code = Validator.rejected code' ↔ code = code' :=
  ⟨fun h => Option.some.inj (congrArg ValidationResult.rejectionReason h), congrArg _⟩

namespace ScoringPorts

variable {ports : ScoringPorts} {α β : Type} {n : Nat} {p : FraudProg α} {f : α → FraudProg β}

/-- A program that asks nothing and returns only values with `P`. -/
def Quiet (ports : ScoringPorts) (n : Nat) (p : FraudProg α) (P : α → Prop) : Prop :=
  ports.Ends n p fun r asked _ => asked = [] ∧ ∀ a, r = .ok a → P a

variable {P : α → Prop}

theorem Quiet.pure {a : α} (h : P a) : ports.Quiet n (pure a) P :=
  Ends.pure ⟨rfl, fun b hb => by cases hb; exact h⟩

theorem Quiet.perform {o : FraudOp} {P : o.Ret → Prop} (hasked : o.asked = none)
    (h : ∀ a, ports.answer n o = .ok a → P a) : ports.Quiet n (Prog.perform o) P :=
  Ends.perform ⟨by rw [hasked]; rfl, h⟩

/-- A quiet program before another one. -/
theorem Quiet.then
    {Q : Except FraudErr β → List (List ChatMessage) → List (Py.Str × FraudOutcome) → Prop}
    (h : ports.Quiet n p P) (hok : ∀ a, P a → ∀ done, ports.Ends n (f a) fun r asked done' =>
      Q r asked (done ++ done')) (herror : ∀ e done, Q (.error e) [] done) :
    ports.Ends n (p >>= f) Q := by
  apply Ends.bind h
  · rintro a _ done ⟨rfl, hP⟩
    exact hok a (hP a rfl) done
  · rintro e _ done ⟨rfl, -⟩
    exact herror e done

theorem Quiet.bind {R : β → Prop} (h : ports.Quiet n p P) (hf : ∀ a, P a → ports.Quiet n (f a) R) :
    ports.Quiet n (p >>= f) R :=
  h.then (fun a ha _ => hf a ha) fun _ _ => ⟨rfl, fun _ h => by cases h⟩

theorem Quiet.audit (session : FraudSession) (node : String) (event : List (Py.Str × Py.Json)) :
    ports.Quiet n (FraudGraph.audit session node event) fun _ => True :=
  .perform rfl fun _ _ => trivial

/-- A node that ends with its audit event. -/
theorem Quiet.noted {session : FraudSession} {node : String} {event : List (Py.Str × Py.Json)}
    {a : α} (h : P a) :
    ports.Quiet n (do FraudGraph.audit session node event; Pure.pure a) P :=
  (Quiet.audit session node event).bind fun _ _ => .pure h

variable {env : WorkerEnv} {request : FraudScoreRequest} {session : FraudSession}

theorem Quiet.createSession :
    ports.Quiet n (FraudGraph.createSession request) fun _ => True :=
  ((Quiet.perform rfl fun _ _ => trivial : ports.Quiet n (Prog.perform _) fun _ => True).bind
    fun _ _ => .perform rfl fun _ _ => trivial).bind fun _ _ => .noted trivial

/-- The facts are those of the request and of the enrichment that the data port returned. -/
theorem Quiet.enrichTransaction :
    ports.Quiet n (FraudGraph.enrichTransaction env.config request session) fun facts =>
      ∃ e, ports.enrichment = .ok e ∧ facts = factsOf request e := by
  unfold FraudGraph.enrichTransaction
  have hread : ports.Quiet n (Prog.perform (FraudOp.enrich request.fromWalletID
      env.config.historyLimit request.userID request.traceID)) fun e => ports.enrichment = .ok e :=
    .perform rfl fun e h => h
  exact hread.bind fun e he => .noted ⟨e, he, rfl⟩

/-- The model is asked with the messages, and the answer is what it gives. -/
theorem Ends.callLlm (messages : List ChatMessage) (attempt : Int) :
    ports.Ends n (FraudGraph.callLlm env session messages attempt) fun r asked _ =>
      asked = [messages] ∧ ∀ answer, r = .ok answer → answer = (ports.reply n).1 := by
  unfold FraudGraph.callLlm
  have hask : ports.Ends n (Prog.perform (FraudOp.ask messages)) fun r asked _ =>
      asked = [messages] ∧ r = .ok (ports.reply n) := .perform ⟨rfl, rfl⟩
  apply hask.bind
  · rintro ⟨answer, latency⟩ _ _ ⟨rfl, hreply⟩
    have hanswer : answer = (ports.reply n).1 := by rw [← Except.ok.inj hreply]
    apply (Quiet.noted (P := (· = (ports.reply n).1)) hanswer).mono
    rintro r _ _ ⟨rfl, hr⟩
    exact ⟨rfl, hr⟩
  · rintro e _ _ ⟨-, h⟩
    cases h

variable [Py.TextLib]

theorem Quiet.inputGuard (messages : List ChatMessage) (attempt : Int) :
    ports.Quiet n (FraudGraph.inputGuard env.config session messages attempt) fun _ => True :=
  .noted trivial

theorem Quiet.validate (response : Py.Str) (attempt : Int) :
    ports.Quiet n (FraudGraph.validate env.config session response attempt) fun r =>
      ∀ validation, r = .error validation →
        ∃ code, validation = Validator.rejected code ∧ RejectsWith env.config response code := by
  unfold FraudGraph.validate
  cases hvalidate : validateVerdict env.config response with
  | error e => exact Ends.fail ⟨rfl, fun _ h => by cases h⟩
  | ok validation =>
    cases hverdict : validation.verdict with
    | some verdict =>
      simp only [hverdict]
      exact .noted fun _ h => by cases h
    | none =>
      simp only [hverdict]
      refine .noted fun validation' h => ?_
      cases h
      -- a result without a verdict is a rejection
      unfold validateVerdict at hvalidate
      split at hvalidate
      · cases hvalidate
        cases hverdict
      · rename_i code hread
        cases hvalidate
        exact ⟨code, rfl, by simp only [RejectsWith, validateVerdict, hread]⟩
      · cases hvalidate

/-- An attempt sends its messages or nothing, and if it ends with a rejection it is that of the
    model's answer. -/
theorem Ends.judge (messages : List ChatMessage) (attempt : Int) :
    ports.Ends n (FraudGraph.judge env session messages attempt) fun r asked _ =>
      asked <+: [messages] ∧ ∀ validation, r = .ok (.error validation) → asked = [messages] ∧
        ∃ response code, (ports.reply n).1 = some response ∧
          validation = Validator.rejected code ∧ RejectsWith env.config response code := by
  unfold FraudGraph.judge
  refine (Quiet.inputGuard messages attempt).then (fun accepted _ _ => ?_)
    fun _ _ => ⟨List.nil_prefix, fun _ h => by cases h⟩
  cases accepted with
  | false =>
    rw [if_neg Bool.false_ne_true]
    exact Ends.pure ⟨List.nil_prefix, fun _ h => by cases h⟩
  | true =>
    rw [if_pos rfl]
    apply (Ends.callLlm messages attempt).bind
    · rintro answer _ _ ⟨rfl, hanswer⟩
      cases answer with
      | none => exact Ends.pure ⟨List.prefix_rfl, fun _ h => by cases h⟩
      | some response =>
        apply (Quiet.validate response attempt).mono
        rintro r _ _ ⟨rfl, hr⟩
        refine ⟨List.prefix_rfl, fun validation h => ⟨rfl, response, ?_⟩⟩
        obtain ⟨code, hcode, hrejects⟩ := hr _ h validation rfl
        exact ⟨code, (hanswer _ rfl).symm, hcode, hrejects⟩
    · rintro e _ _ ⟨rfl, -⟩
      exact ⟨List.prefix_rfl, fun _ h => by cases h⟩

/-- Both attempts send the messages of the facts, the second those that name the rejection. -/
theorem Ends.judgeTwice (facts : SanitizedTransactionFacts) (hfirst : ports.first.1 = some response)
    (hrejects : RejectsWith env.config response code) :
    ports.Ends 0 (FraudGraph.judgeTwice env session facts) fun _ asked _ =>
      asked <+: [firstMessages facts, retryMessages facts code] := by
  unfold FraudGraph.judgeTwice
  have hprompt : ports.Quiet 0 (FraudGraph.buildPrompt session facts) (· = firstMessages facts) :=
    .noted rfl
  refine hprompt.then (fun messages hmessages _ => ?_) fun _ _ => List.nil_prefix
  subst hmessages
  have hone (asked : List (List ChatMessage)) (h : asked <+: [firstMessages facts]) :
      asked <+: [firstMessages facts, retryMessages facts code] :=
    h.trans ⟨[retryMessages facts code], rfl⟩
  apply (Ends.judge (firstMessages facts) 1).bind
  · rintro r asked _ ⟨hasked, hr⟩
    cases r with
    | ok outcome => exact Ends.pure (by simpa using hone asked hasked)
    | error validation =>
      obtain ⟨rfl, response', code', hfirst', rfl, hrejects'⟩ := hr validation rfl
      -- the rejection is that of the first answer
      have hresponse : response' = response := Option.some.inj (hfirst'.symm.trans hfirst)
      subst hresponse
      have hcode : code' = code :=
        Validator.rejected_inj.mp (Except.ok.inj (hrejects'.symm.trans hrejects))
      subst hcode
      have hretry : ports.Quiet 1 (FraudGraph.retryPrompt session facts
          (Validator.rejected code')) (· = retryMessages facts code') := .noted rfl
      refine hretry.then (fun messages hmessages _ => ?_) fun _ _ => hone _ List.prefix_rfl
      subst hmessages
      have hboth (asked : List (List ChatMessage)) (h : asked <+: [retryMessages facts code']) :
          [firstMessages facts] ++ asked <+: [firstMessages facts, retryMessages facts code'] :=
        (List.prefix_append_right_inj _).mpr h
      apply (Ends.judge (retryMessages facts code') 2).bind
      · rintro r asked _ ⟨hasked, -⟩
        cases r with
        | ok outcome => exact Ends.pure (by simpa using hboth asked hasked)
        | error validation => exact Ends.pure (by simpa using hboth asked hasked)
      · rintro e asked _ ⟨hasked, -⟩
        exact hboth asked hasked
  · rintro e asked _ ⟨hasked, -⟩
    exact hone asked hasked

/-- Whatever the database does, `score` sends what the facts and the rejection give. -/
theorem Ends.score (hfirst : ports.first.1 = some response)
    (hrejects : RejectsWith env.config response code) :
    ports.Ends 0 (FraudGraph.score env request) fun _ asked _ =>
      asked <+: promptsOf request code ports.enrichment := by
  have hassess (session : FraudSession) :
      ports.Ends 0 (FraudGraph.assess env request session) fun _ asked _ =>
        asked <+: promptsOf request code ports.enrichment := by
    unfold FraudGraph.assess
    refine (Quiet.audit session _ _).then (fun _ _ _ => ?_) fun _ _ => List.nil_prefix
    have henrich := @Quiet.enrichTransaction ports 0 env request session
    apply (Ends.attempt (P := fun r asked _ => asked = [] ∧ ∀ facts, r = .ok (.ok facts) →
      ∃ e, ports.enrichment = .ok e ∧ facts = factsOf request e)
      (henrich.mono fun r _ _ h => ⟨h.1, fun facts hr => h.2 facts (Except.ok.inj hr)⟩)).bind
    · rintro r _ _ ⟨rfl, hfacts⟩
      cases r with
      | error e => exact Ends.pure List.nil_prefix
      | ok facts =>
        obtain ⟨e, he, rfl⟩ := hfacts facts rfl
        rw [he]
        exact Ends.judgeTwice _ hfirst hrejects
    · rintro e _ _ ⟨rfl, -⟩
      exact List.nil_prefix
  have hinvoke : ports.Ends 0 (FraudGraph.invoke env request) fun _ asked _ =>
      asked <+: promptsOf request code ports.enrichment := by
    rw [FraudGraph.invoke_eq]
    refine Quiet.createSession.then (fun session _ _ => ?_) fun _ _ => List.nil_prefix
    cases session.decided with
    | some outcome => exact Ends.pure List.nil_prefix
    | none =>
      apply (hassess session).bind
      · intro outcome asked _ hasked
        have hcomplete : ports.Quiet (0 + asked.length) (FraudGraph.completeSession session outcome)
            fun _ => True :=
          (Quiet.audit session _ _).bind fun _ _ =>
            (Quiet.perform rfl fun _ _ => trivial : ports.Quiet _ _ fun _ => True).bind
              fun _ _ => .pure trivial
        apply hcomplete.mono
        rintro r _ _ ⟨rfl, -⟩
        simpa using hasked
      · exact fun _ _ _ h => h
  unfold FraudGraph.score
  apply (Ends.attempt (P := fun _ asked _ => asked <+: promptsOf request code ports.enrichment)
    hinvoke).bind
  · intro r asked _ hasked
    cases r with
    | ok outcome => exact Ends.pure (by simpa using hasked)
    | error e => exact Ends.pure (by simpa using hasked)
  · exact fun _ _ _ h => h

end ScoringPorts

theorem rejectsWith_iff [Py.TextLib] {config : FraudConfig} :
    RejectsWith config response code ↔
      Validator.readVerdict config response = .error (.rejected code) := by
  unfold RejectsWith validateVerdict
  cases Validator.readVerdict config response with
  | ok verdict =>
    refine iff_of_false (fun h => ?_) fun h => by cases h
    exact Option.some_ne_none verdict (congrArg ValidationResult.verdict (Except.ok.inj h))
  | error refusal =>
    cases refusal with
    | raised e => simp only [reduceCtorEq, Except.error.injEq]
    | rejected code' =>
      simp only [Except.ok.injEq, Validator.rejected_inj, Except.error.injEq,
        Validator.Refusal.rejected.injEq]

theorem judged_of_rejects [Py.TextLib] {config : FraudConfig} {messages : List ChatMessage}
    (hguard : GuardAccepts config messages) (htakes : takes.answer (some response) = true)
    (hrejects : RejectsWith config response code) :
    judged config takes messages (some response) = .ok (.error code) := by
  simp only [judged, if_pos hguard, taken, htakes, if_true, Except.ok_bind, answered, validated,
    rejectsWith_iff.mp hrejects]

/-- When every statement works, what is sent depends on the first answer through its rejection. -/
theorem sentBy_rejected [Py.TextLib] {config : FraudConfig}
    (htakes : takes.answer (some response) = true) (hrejects : RejectsWith config response code)
    (facts : SanitizedTransactionFacts) :
    sentBy config takes (some response) (.ok facts) =
      if GuardAccepts config (firstMessages facts) then
        firstMessages facts :: sentMessages config (retryMessages facts code)
      else [] := by
  rw [sentBy, sentTwice]
  by_cases hguard : GuardAccepts config (firstMessages facts)
  · rw [judged_of_rejects hguard htakes hrejects, sentMessages_pos hguard, if_pos hguard,
      sentAgain, List.singleton_append]
  · rw [judged, sentMessages_neg hguard, if_neg hguard, if_neg hguard]
    rfl

/-- Two requests for the same amount, with the same enrichment and with first answers that are
    rejected for the same reason, send the same messages, whatever the IDs are and the database
    does. If both sessions are open and every statement works, they send equally many. -/
theorem prompts_independent [Py.TextLib] (ports ports' : ScoringPorts) (env env' : WorkerEnv)
    (request request' : FraudScoreRequest) (response response' : Py.Str) (code : String)
    (hamount : request.amountCents = request'.amountCents)
    (hcurrency : request.currency = request'.currency) (hconfig : env.config = env'.config)
    (henrichment : ports.enrichment = ports'.enrichment)
    (hfirst : ports.first.1 = some response) (hfirst' : ports'.first.1 = some response')
    (hrejects : RejectsWith env.config response code)
    (hrejects' : RejectsWith env'.config response' code) :
    let asked := askedMessages (ports.play (FraudGraph.score env request) []).2
    let asked' := askedMessages (ports'.play (FraudGraph.score env' request') []).2
    (∀ (i : Nat) (messages messages' : List ChatMessage), asked[i]? = some messages →
      asked'[i]? = some messages' → messages = messages') ∧
    (ports.session.decided = none → ports'.session.decided = none →
      (∀ o, ports.stores o = true) → (∀ o, ports'.stores o = true) → asked = asked') := by
  intro asked asked'
  have hfacts (e : Enrichment) : factsOf request e = factsOf request' e := by
    simp only [factsOf, hamount, hcurrency]
  have hprompts : promptsOf request code ports.enrichment =
      promptsOf request' code ports'.enrichment := by
    rw [henrichment]
    cases ports'.enrichment with
    | error e => rfl
    | ok e => rw [promptsOf, promptsOf, hfacts]
  constructor
  · intro i messages messages' h h'
    -- both runs send a beginning of the same two messages
    have hprefix : asked <+: promptsOf request' code ports'.enrichment :=
      hprompts ▸ (ScoringPorts.Ends.score hfirst hrejects).run
    have hprefix' : asked' <+: promptsOf request' code ports'.enrichment :=
      (ScoringPorts.Ends.score hfirst' hrejects').run
    have hsome {l l' : List (List ChatMessage)} {m : List ChatMessage} (hl : l <+: l')
        (hm : l[i]? = some m) : l'[i]? = some m := by
      obtain ⟨t, rfl⟩ := hl
      rw [List.getElem?_append_left (List.getElem?_eq_some_iff.mp hm).1, hm]
    exact Option.some.inj ((hsome hprefix h).symm.trans (hsome hprefix' h'))
  · intro hopen hopen' hstores hstores'
    have hasked := ((ScoringPorts.records_of_stores env request hstores).score hopen).run.2.1
    have hasked' := ((ScoringPorts.records_of_stores env' request' hstores').score hopen').run.2.1
    rw [hfirst] at hasked
    rw [hfirst'] at hasked'
    show asked = asked'
    rw [show asked = _ from hasked, show asked' = _ from hasked', henrichment]
    cases ports'.enrichment with
    | error e => rfl
    | ok e =>
      rw [Except.ok_bind, Except.ok_bind, Columns.every_facts, Columns.every_facts,
        sentBy_rejected (Columns.every_answer env _) hrejects,
        sentBy_rejected (Columns.every_answer env' _) hrejects', hfacts, hconfig]

namespace Sample

/-- A request for the same amount by another user. -/
def otherRequest : FraudScoreRequest :=
  { scoreRequest with
    eventID := Py.ofString "fraud.score.requested:q", paymentID := Py.ofString "q"
    userID := Py.ofString "v", fromWalletID := Py.ofString "c", toWalletID := Py.ofString "d"
    traceID := Py.ofString "r" }

end Sample

theorem prompts_independent_other :
    Sample.scoreRequest.userID ≠ Sample.otherRequest.userID ∧
      askedMessages (Sample.scoringPorts.play (@FraudGraph.score Sample.unreadableLib
          Sample.scoringWorker Sample.scoreRequest) []).2 =
        askedMessages (Sample.scoringPorts.play (@FraudGraph.score Sample.unreadableLib
          Sample.scoringWorker Sample.otherRequest) []).2 :=
  ⟨by decide, (@prompts_independent Sample.unreadableLib Sample.scoringPorts Sample.scoringPorts
    Sample.scoringWorker Sample.scoringWorker Sample.scoreRequest Sample.otherRequest [] []
    "invalid_json" rfl rfl rfl rfl rfl rfl rfl rfl).2 rfl rfl (fun _ => rfl) fun _ => rfl⟩

end EnjoyThings
