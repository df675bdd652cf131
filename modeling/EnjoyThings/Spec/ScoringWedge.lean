import EnjoyThings.Spec.ScoringReference

/-!
# What the model can write to fail its own scoring

The graph records the model's answer before it validates it, and the verdict when it
completes the session. PostgreSQL has no place for U+0000, and none in a document for a
surrogate without its other half; and `validate_verdict` does not return on every answer.
Each of these ends the graph with `audit_failed`, which the worker answers with a retry.

## Key results

- `Postgres.columns`: what the columns of `fraud_sessions` take
- `score_wedged_iff`: when the outcome is `audit_failed`
-/

namespace EnjoyThings

open Effect

/-! ## The columns of the database -/

namespace Postgres

/-- A code point that a text may have. -/
def plain (c : Py.CodePoint) : Bool :=
  c.val ≠ 0 && !Py.isSurrogate c

/-- A text goes to the server in UTF-8, which has no surrogates, and the server refuses U+0000. -/
def acceptsText (s : Py.Str) : Bool :=
  s.all plain

/-- A string of a document goes there with escapes. The server refuses U+0000, and a surrogate
    without its other half. -/
def acceptsEscaped : Py.Str → Bool
  | [] => true
  | [c] => plain c
  | c :: d :: s =>
    if Py.isHighSurrogate c then Py.isLowSurrogate d && acceptsEscaped s
    else plain c && acceptsEscaped (d :: s)

theorem plain_not_high {c : Py.CodePoint} (h : plain c = true) :
    Py.isHighSurrogate c = false := by
  simp only [plain, Py.isSurrogate, Bool.and_eq_true, Bool.not_eq_true', Bool.or_eq_false_iff] at h
  exact h.2.1

/-- What is taken as a text is taken in a document. -/
theorem acceptsEscaped_of_text : ∀ {s : Py.Str}, acceptsText s = true → acceptsEscaped s = true
  | [], _ => rfl
  | [c], h => by simpa [acceptsText, acceptsEscaped] using h
  | c :: d :: s, h => by
    simp only [acceptsText, List.all_cons, Bool.and_eq_true] at h
    obtain ⟨hc, hd, hs⟩ := h
    have hrest : acceptsEscaped (d :: s) = true := acceptsEscaped_of_text (by simp [acceptsText, *])
    simp only [acceptsEscaped, plain_not_high hc, Bool.false_eq_true, if_false, hc, hrest,
      Bool.and_self]

theorem plain_ofChar {c : Char} (h : c ≠ '\x00') : plain (Py.ofChar c) = true := by
  have hvalid := c.valid
  simp only [UInt32.isValidChar, Nat.isValidChar] at hvalid
  have hval : (Py.ofChar c).val = c.val.toNat := rfl
  have hne : Py.ofChar c ≠ 0 := by
    intro h0
    apply h
    have hzero : c.val.toNat = 0 := hval.symm.trans (congrArg Fin.val h0)
    exact Char.ext (UInt32.toNat_inj.mp hzero)
  have hsurrogate : Py.isSurrogate (Py.ofChar c) = false := by
    simp only [Py.isSurrogate, Py.isHighSurrogate, Py.isLowSurrogate, hval, Bool.or_eq_false_iff,
      Bool.and_eq_false_iff, decide_eq_false_iff_not, Nat.not_le]
    omega
  simp [plain, hne, hsurrogate]

/-- The columns of `fraud_sessions`. -/
def columns : Columns where
  text := acceptsText
  jsonb := acceptsEscaped
  text_nil := rfl
  jsonb_word s h := by
    apply acceptsEscaped_of_text
    simp only [List.all_eq_true, decide_eq_true_eq] at h
    simp only [acceptsText, Py.ofString, List.all_map, List.all_eq_true, Function.comp_apply]
    exact fun c hc => plain_ofChar (h c hc)

end Postgres

/-! ## Answers that do no harm -/

section

variable [Py.TextLib]

/-- An answer that can be recorded, on which `validate_verdict` returns, and whose verdict, if it
    is accepted, can be recorded. -/
def Harmless (columns : Columns) (env : WorkerEnv) (answer : Option Py.Str) : Prop :=
  (columns.takes env).answer answer = true ∧ Returns env.config answer ∧
    ∀ response, answer = some response →
      ∀ validation, validateVerdict env.config response = .ok validation →
        ∀ verdict, validation.verdict = some verdict → columns.jsonb verdict.reason = true

/-- The request can be recorded, and so can each answer the model is asked for. -/
def NothingWedges (columns : Columns) (env : WorkerEnv) (request : FraudScoreRequest)
    (enrichment : Except FraudErr Enrichment) (first second : Option Py.Str) : Prop :=
  columns.takesRequest request = true ∧
    ∀ e, enrichment = .ok e → (columns.takes env).facts (factsOf request e) = true →
      GuardAccepts env.config (firstMessages (factsOf request e)) →
      Harmless columns env first ∧ ∀ response code, first = some response →
        RejectsWith env.config response code →
        GuardAccepts env.config (retryMessages (factsOf request e) code) →
        Harmless columns env second

/-- An attempt returns, and its outcome, if it has one, can be recorded. -/
def Settles (takes : Takes) (x : Except FraudErr (Except String FraudOutcome)) : Prop :=
  ∃ r, x = .ok r ∧ ∀ outcome, r = .ok outcome → takes.outcome outcome = true

variable {columns : Columns} {env : WorkerEnv} {messages : List ChatMessage}
  {answer : Option Py.Str}

theorem settles_validated_iff {response : Py.Str} :
    Settles (columns.takes env) (validated env.config response) ↔
      Returns env.config (some response) ∧
        ∀ validation, validateVerdict env.config response = .ok validation →
          ∀ verdict, validation.verdict = some verdict → columns.jsonb verdict.reason = true := by
  unfold Settles validated Returns
  simp only [Option.some.injEq, forall_eq', validateVerdict]
  cases Validator.readVerdict env.config response with
  | ok verdict => simp [Columns.takes]
  | error refusal =>
    cases refusal with
    | rejected code => simp [Validator.rejected]
    | raised e => simp

theorem settles_judged_iff :
    Settles (columns.takes env) (judged env.config (columns.takes env) messages answer) ↔
      (GuardAccepts env.config messages → Harmless columns env answer) := by
  unfold judged
  by_cases hguard : GuardAccepts env.config messages
  · rw [if_pos hguard]
    simp only [hguard, true_implies]
    unfold taken Harmless
    by_cases htakes : (columns.takes env).answer answer = true
    · rw [if_pos htakes, Except.ok_bind]
      simp only [htakes, true_and]
      cases answer with
      | none => simp [answered, Settles, Returns, Columns.takes, FraudGraph.failOpen]
      | some response =>
        simp only [answered, settles_validated_iff, Option.some.injEq, forall_eq']
    · rw [if_neg htakes]
      simp [htakes, Settles]
  · rw [if_neg hguard]
    simp only [hguard, false_implies, iff_true]
    exact ⟨_, rfl, fun outcome h => by cases h; rfl⟩

variable {first second : Option Py.Str}

/-- Both attempts end with an outcome that can be recorded. -/
theorem judgedTwice_taken_iff {facts : SanitizedTransactionFacts} :
    (∃ outcome, judgedTwice env.config (columns.takes env) first second facts = .ok outcome ∧
        (columns.takes env).outcome outcome = true) ↔
      (GuardAccepts env.config (firstMessages facts) → Harmless columns env first ∧
        ∀ response code, first = some response → RejectsWith env.config response code →
          GuardAccepts env.config (retryMessages facts code) → Harmless columns env second) := by
  have hfirst := @settles_judged_iff _ columns env (firstMessages facts) first
  constructor
  · rintro ⟨outcome, hjudged, houtcome⟩ hguard
    obtain ⟨r, hr, hagain⟩ := Except.bind_eq_ok.mp hjudged
    have hsettles : Settles (columns.takes env)
        (judged env.config (columns.takes env) (firstMessages facts) first) := by
      refine ⟨r, hr, fun outcome' h => ?_⟩
      subst h
      cases hagain
      exact houtcome
    have hharmless := hfirst.mp hsettles hguard
    refine ⟨hharmless, fun response code hresponse hrejects hguard' => ?_⟩
    -- the first attempt ended with this rejection, so the outcome is that of the second
    subst hresponse
    cases hr.symm.trans (judged_of_rejects hguard hharmless.1 hrejects)
    rw [judgedAgain] at hagain
    obtain ⟨r', hr', hresult⟩ := Except.map_eq_ok.mp hagain
    refine settles_judged_iff.mp ⟨r', hr', fun outcome' h => ?_⟩ hguard'
    subst h
    cases hresult
    exact houtcome
  · intro h
    obtain ⟨r, hr, htaken⟩ := hfirst.mpr fun hguard => (h hguard).1
    rw [judgedTwice, hr, Except.ok_bind]
    cases r with
    | ok outcome => exact ⟨outcome, rfl, htaken outcome rfl⟩
    | error code =>
      obtain ⟨hguard, response, hresponse, hread⟩ := judged_rejected hr
      obtain ⟨r', hr', htaken'⟩ := (@settles_judged_iff _ columns env (retryMessages facts code)
        second).mpr ((h hguard).2 response code hresponse (rejectsWith_iff.mpr hread))
      rw [judgedAgain, hr']
      cases r' with
      | ok outcome => exact ⟨outcome, rfl, htaken' outcome rfl⟩
      | error code' => exact ⟨FraudGraph.failOpen "validation_failed", rfl, rfl⟩

variable {config : FraudConfig} {takes : Takes}

theorem judged_of_untaken (hguard : GuardAccepts config messages)
    (htakes : takes.answer answer = false) :
    judged config takes messages answer = .error .failed := by
  simp only [judged, if_pos hguard, taken, htakes, Bool.false_eq_true, if_false, Except.error_bind]

theorem judged_of_raised {response : Py.Str} {e : Py.Exn} (hguard : GuardAccepts config messages)
    (htakes : takes.answer (some response) = true)
    (hread : Validator.readVerdict config response = .error (.raised e)) :
    judged config takes messages (some response) = .error (.raised e) := by
  simp only [judged, if_pos hguard, taken, htakes, if_true, Except.ok_bind, answered, validated,
    hread]

theorem scored_of_error {request : FraudScoreRequest} {enrichment : Except FraudErr Enrichment}
    {e : FraudErr} (h : assessed config takes first second
      (enrichment >>= fun e => taken takes.facts (factsOf request e)) = .error e) :
    scored config takes request enrichment first second = FraudGraph.failOpen "audit_failed" := by
  rw [scored, h, Except.error_bind, Except.toOption, Option.getD_none]

/-- The outcome of the graph is another one than `audit_failed` if there is one to record. -/
theorem scored_reason_iff {request : FraudScoreRequest} {enrichment : Except FraudErr Enrichment} :
    (scored config takes request enrichment first second).reasonCode ≠ some "audit_failed" ↔
      ∃ outcome, assessed config takes first second
        (enrichment >>= fun e => taken takes.facts (factsOf request e)) = .ok outcome ∧
        takes.outcome outcome = true := by
  unfold scored
  cases hassessed : assessed config takes first second
      (enrichment >>= fun e => taken takes.facts (factsOf request e)) with
  | error e => simp [FraudGraph.failOpen, Except.toOption]
  | ok outcome =>
    rw [Except.ok_bind, taken]
    by_cases htaken : takes.outcome outcome = true
    · have hreason : outcome.reasonCode ≠ some "audit_failed" := fun h =>
        absurd (assessed_reason hassessed) (h ▸ by decide)
      simp [htaken, hreason, Except.toOption]
    · simp [htaken, FraudGraph.failOpen, Except.toOption]

end

/-- The outcome of `score` is not `audit_failed` exactly if the request and each answer the model
    is asked for do no harm. -/
theorem score_wedged_iff [Py.TextLib] (ports : ScoringPorts) (env : WorkerEnv)
    (request : FraudScoreRequest) (hopen : ports.session.decided = none)
    (hstores : ports.stores = Postgres.columns.stores) :
    ∃ outcome, (ports.play (FraudGraph.score env request) []).1 = .ok outcome ∧
      (outcome.reasonCode ≠ some "audit_failed" ↔ NothingWedges Postgres.columns env request
        ports.enrichment ports.first.1 ports.second.1) := by
  unfold NothingWedges
  cases hrequest : Postgres.columns.takesRequest request with
  | false =>
    have hcreate := @ScoringPorts.Plays.createSession ports request _ 0 hstores
    rw [hrequest] at hcreate
    have hinvoke : ports.Plays 0 (FraudGraph.invoke env request) (.error .failed) [] [] := by
      rw [FraudGraph.invoke_eq]
      exact ScoringPorts.Plays.bind_error hcreate
    have hscore : ports.Plays 0 (FraudGraph.score env request)
        (.ok (FraudGraph.failOpen "audit_failed")) [] [] := hinvoke.attempt.last rfl
    exact ⟨_, hscore.run.1, by simp [FraudGraph.failOpen]⟩
  | true =>
    have hrecords : ports.Records env request (Postgres.columns.takes env) :=
      ScoringPorts.records_of_columns hstores hrequest
    refine ⟨_, (hrecords.score hopen).run.1, ?_⟩
    rw [scored_reason_iff]
    simp only [true_and]
    cases ports.enrichment with
    | error e => exact iff_of_true ⟨_, rfl, rfl⟩ fun _ h => by cases h
    | ok e =>
      simp only [Except.ok_bind, Except.ok.injEq, forall_eq']
      unfold taken
      by_cases hfacts : (Postgres.columns.takes env).facts (factsOf request e) = true
      · rw [if_pos hfacts, assessed, judgedTwice_taken_iff]
        simp only [hfacts, true_implies]
      · rw [if_neg hfacts]
        exact iff_of_true ⟨_, rfl, rfl⟩ fun h => absurd h hfacts

namespace Sample

/-- An answer whose score has more digits than a `float` has room for. -/
def hugeAnswer : Py.Str :=
  answerText "allow" (Py.ofString "ok")
    (Py.ofString "1" ++ List.replicate 400 (Py.ofChar '0'))

@[reducible] def hugeScoreLib : Py.TextLib :=
  jsonLib hugeAnswer (answerDocument "allow" (Py.ofString "ok") (.int (10 ^ 400)))

/-- The ports on the columns of the database, with an answer of the model. -/
def storedPorts (answer : Option Py.Str) : ScoringPorts :=
  { scoringPorts with first := (answer, 3), stores := Postgres.columns.stores }

/-- Ports on which the first attempt fails. -/
theorem storedPorts_failed [Py.TextLib] {answer : Option Py.Str} {e : FraudErr}
    (hjudged : judged {} (Postgres.columns.takes scoringWorker)
      (firstMessages (factsOf scoreRequest enrichment)) answer = .error e) :
    ((storedPorts answer).play (FraudGraph.score scoringWorker scoreRequest) []).1 =
      .ok (FraudGraph.failOpen "audit_failed") := by
  have hrecords : (storedPorts answer).Records scoringWorker scoreRequest
      (Postgres.columns.takes scoringWorker) :=
    ScoringPorts.records_of_columns rfl (by decide +kernel)
  have hfacts : (Postgres.columns.takes scoringWorker).facts (factsOf scoreRequest enrichment) =
      true := by decide +kernel
  have hassessed : assessed {} (Postgres.columns.takes scoringWorker) answer (some [])
      (.ok enrichment >>= fun e => taken (Postgres.columns.takes scoringWorker).facts
        (factsOf scoreRequest e)) = .error e := by
    rw [Except.ok_bind, taken, if_pos hfacts, assessed, judgedTwice, hjudged, Except.error_bind]
  rw [(hrecords.score rfl).run.1]
  exact congrArg Except.ok (scored_of_error hassessed)

end Sample

/-- A code point that is not taken as text, and a number that is not taken as a `float`. -/
theorem unstorable_answer_wedges :
    ((Sample.storedPorts (some [0])).play (@FraudGraph.score Sample.unreadableLib
        Sample.scoringWorker Sample.scoreRequest) []).1 =
      .ok (FraudGraph.failOpen "audit_failed") ∧
    ((Sample.storedPorts (some Sample.hugeAnswer)).play (@FraudGraph.score Sample.hugeScoreLib
        Sample.scoringWorker Sample.scoreRequest) []).1 =
      .ok (FraudGraph.failOpen "audit_failed") := by
  constructor
  · apply @Sample.storedPorts_failed Sample.unreadableLib
    exact @judged_of_untaken Sample.unreadableLib _ _ _ _
      (@Sample.messages_accepted Sample.unreadableLib fun _ => rfl).1 (by decide +kernel)
  · have hread : @Validator.readVerdict Sample.hugeScoreLib {} Sample.hugeAnswer =
        .error (.raised .other) := by decide +kernel
    apply @Sample.storedPorts_failed Sample.hugeScoreLib
    exact @judged_of_raised Sample.hugeScoreLib _ _ _ _ _
      (@Sample.messages_accepted Sample.hugeScoreLib fun _ => rfl).1 (by decide +kernel) hread

/-- An answer that is no JSON, and after it one that is accepted: neither wedges. -/
theorem score_wedged_iff_retried : ∃ outcome,
    let ports := { Sample.storedPorts (some []) with second := (some Sample.flaggedAnswer, 4) }
    (ports.play (@FraudGraph.score Sample.flaggingLib Sample.scoringWorker
      Sample.scoreRequest) []).1 = .ok outcome ∧ outcome.reasonCode ≠ some "audit_failed" := by
  have hfirst : @Harmless Sample.flaggingLib Postgres.columns Sample.scoringWorker (some []) := by
    refine ⟨by decide +kernel, @Sample.returns_of_eq Sample.flaggingLib _ _ Sample.empty_validated,
      fun _ h validation hvalidation verdict hverdict => ?_⟩
    cases h
    cases (Sample.empty_validated).symm.trans hvalidation
    cases hverdict
  have hsecond : @Harmless Sample.flaggingLib Postgres.columns Sample.scoringWorker
      (some Sample.flaggedAnswer) := by
    refine ⟨by decide +kernel, @Sample.returns_of_eq Sample.flaggingLib _ _
      Sample.flaggedAnswer_validated, fun _ h validation hvalidation verdict hverdict => ?_⟩
    cases h
    cases Sample.flaggedAnswer_validated.symm.trans hvalidation
    cases hverdict
    decide +kernel
  obtain ⟨outcome, houtcome, hiff⟩ := @score_wedged_iff Sample.flaggingLib
    { Sample.storedPorts (some []) with second := (some Sample.flaggedAnswer, 4) }
    Sample.scoringWorker Sample.scoreRequest rfl rfl
  exact ⟨outcome, houtcome, hiff.mpr ⟨by decide +kernel, fun _ _ _ _ =>
    ⟨hfirst, fun _ _ _ _ _ => hsecond⟩⟩⟩

end EnjoyThings
