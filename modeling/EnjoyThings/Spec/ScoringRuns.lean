import EnjoyThings.Spec.ScoringGraph

/-!
# Runs of the scoring graph

One run of the graph against ports that are given: the session that is claimed, the
enrichment, two answers of the model, and which statements the database takes.

`Ends` is what holds at the end of a program of its result, of the messages it has sent
to the model and of the outcomes it has completed sessions with. `Plays` names all three.
Both compose along a program, so each node is run once, and the graph follows its edges.

## Key results

- `Records.score`: what `score` returns, sends and stores when its statements work
- `records_of_columns`: they work on columns that take the texts of the request
-/

namespace EnjoyThings

open Effect

/-! ## Runs against given ports -/

/-- What the graph is answered. -/
structure ScoringPorts where
  session : FraudSession
  enrichment : Except FraudErr Enrichment
  first : Option Py.Str × Int
  second : Option Py.Str × Int
  stores : FraudOp → Bool := fun _ => true

/-- The messages of a call of the model. -/
def FraudOp.asked : FraudOp → Option (List ChatMessage)
  | .ask messages => some messages
  | _ => none

/-- What a call completes a session with. -/
def FraudOp.completed : FraudOp → Option (Py.Str × FraudOutcome)
  | .complete sessionID outcome => some (sessionID, outcome)
  | _ => none

/-- The messages that were sent to the model. -/
def askedMessages (calls : List FraudOp) : List (List ChatMessage) :=
  calls.filterMap FraudOp.asked

/-- The outcomes that sessions were completed with. -/
def completions (calls : List FraudOp) : List (Py.Str × FraudOutcome) :=
  calls.filterMap FraudOp.completed

namespace ScoringPorts

variable (ports : ScoringPorts)

/-- The model's answer to the call with the number. -/
def reply (n : Nat) : Option Py.Str × Int :=
  if n = 0 then ports.first else ports.second

/-- The answer of a call when the model was asked a number of times before. -/
def answer (n : Nat) : (o : FraudOp) → Except FraudErr o.Ret
  | .enrich _ _ _ _ => ports.enrichment
  | .ask _ => .ok (ports.reply n)
  | .claim eventID => if ports.stores (.claim eventID) then .ok ports.session else .error .failed
  | .complete sessionID outcome =>
    if ports.stores (.complete sessionID outcome) then .ok ports.session else .error .failed
  | .markPublished sessionID =>
    if ports.stores (.markPublished sessionID) then .ok ports.session else .error .failed
  | .insertSession eventID paymentID =>
    if ports.stores (.insertSession eventID paymentID) then .ok () else .error .failed
  | .append sessionID node fields =>
    if ports.stores (.append sessionID node fields) then .ok () else .error .failed
  | .releaseLease _ | .startHeartbeat _ | .cancelHeartbeat | .publishFlagged _ _ _ => .ok ()
  | .publishError _ _ _ | .decide _ _ => .ok ()

/-- The ports as a machine whose world are the calls so far. -/
def machine : Machine FraudOp FraudOp.Ret FraudErr (List FraudOp) Unit Unit where
  exec _ o calls := (ports.answer (askedMessages calls).length o, calls ++ [o])
  see _ _ _ := ()

/-- A program against the ports. -/
def play {α : Type} (p : FraudProg α) (calls : List FraudOp) : Except FraudErr α × List FraudOp :=
  p.eval ports.machine (fun _ => ()) calls

/-- After `n` questions the program ends so that `Q` holds of its result, of what it has asked the
    model and of what it has completed sessions with. -/
def Ends {α : Type} (n : Nat) (p : FraudProg α)
    (Q : Except FraudErr α → List (List ChatMessage) → List (Py.Str × FraudOutcome) → Prop) :
    Prop :=
  ∀ calls, (askedMessages calls).length = n → ∃ asked done,
    askedMessages (ports.play p calls).2 = askedMessages calls ++ asked ∧
    completions (ports.play p calls).2 = completions calls ++ done ∧
    Q (ports.play p calls).1 asked done

/-- The program ends with `r`, has asked `asked` and completed sessions with `done`. -/
def Plays {α : Type} (n : Nat) (p : FraudProg α) (r : Except FraudErr α)
    (asked : List (List ChatMessage)) (done : List (Py.Str × FraudOutcome)) : Prop :=
  ports.Ends n p fun r' asked' done' => r' = r ∧ asked' = asked ∧ done' = done

variable {ports} {α β : Type} {n : Nat} {p : FraudProg α} {f : α → FraudProg β}
  {P : Except FraudErr α → List (List ChatMessage) → List (Py.Str × FraudOutcome) → Prop}
  {Q : Except FraudErr β → List (List ChatMessage) → List (Py.Str × FraudOutcome) → Prop}
  {asked asked' : List (List ChatMessage)} {done done' : List (Py.Str × FraudOutcome)}

/-- A program that returns at once asks and completes nothing. -/
theorem Ends.pure {a : α} (h : P (.ok a) [] []) : ports.Ends n (pure a) P := by
  intro calls _
  exact ⟨[], [], by simp [play, Prog.eval], by simp [play, Prog.eval], h⟩

theorem Ends.fail {e : FraudErr} (h : P (.error e) [] []) :
    ports.Ends n (.fail e : FraudProg α) P := by
  intro calls _
  exact ⟨[], [], by simp [play, Prog.eval], by simp [play, Prog.eval], h⟩

/-- One call: its answer after `n` questions, and what it adds. -/
theorem Ends.perform {o : FraudOp}
    {P : Except FraudErr o.Ret → List (List ChatMessage) → List (Py.Str × FraudOutcome) → Prop}
    (h : P (ports.answer n o) o.asked.toList o.completed.toList) :
    ports.Ends n (Prog.perform o) P := by
  intro calls hn
  have hplay : ports.play (Prog.perform o) calls = (ports.answer n o, calls ++ [o]) := by
    simp only [play, Prog.eval_perform, machine, hn]
  rw [hplay]
  refine ⟨o.asked.toList, o.completed.toList, ?_, ?_, h⟩
  · cases hasked : o.asked <;> simp [askedMessages, List.filterMap_append, hasked]
  · cases hdone : o.completed <;> simp [completions, List.filterMap_append, hdone]

/-- What comes after `p` counts the questions of `p` as asked. -/
theorem Ends.bind (h : ports.Ends n p P)
    (hok : ∀ a asked done, P (.ok a) asked done → ports.Ends (n + asked.length) (f a)
      fun r asked' done' => Q r (asked ++ asked') (done ++ done'))
    (herror : ∀ e asked done, P (.error e) asked done → Q (.error e) asked done) :
    ports.Ends n (p >>= f) Q := by
  intro calls hn
  obtain ⟨asked, done, hasked, hdone, hP⟩ := h calls hn
  cases hr : (ports.play p calls).1 with
  | error e =>
    have hp : p.eval ports.machine (fun _ => ()) calls = (.error e, (ports.play p calls).2) :=
      Prod.ext hr rfl
    have hbind : ports.play (p >>= f) calls = (.error e, (ports.play p calls).2) :=
      Prog.eval_bind_const_error hp f
    rw [hbind]
    exact ⟨asked, done, hasked, hdone, herror e asked done (hr ▸ hP)⟩
  | ok a =>
    have hp : p.eval ports.machine (fun _ => ()) calls = (.ok a, (ports.play p calls).2) :=
      Prod.ext hr rfl
    have hbind : ports.play (p >>= f) calls = ports.play (f a) (ports.play p calls).2 :=
      Prog.eval_bind_const hp f
    obtain ⟨asked', done', hasked', hdone', hQ⟩ :=
      hok a asked done (hr ▸ hP) (ports.play p calls).2 (by simp [hasked, hn])
    rw [hbind]
    refine ⟨asked ++ asked', done ++ done', ?_, ?_, hQ⟩
    · rw [hasked', hasked, List.append_assoc]
    · rw [hdone', hdone, List.append_assoc]

/-- An error that is looked at is a result. -/
theorem Ends.attempt
    {P : Except FraudErr (Except FraudErr α) → List (List ChatMessage) →
      List (Py.Str × FraudOutcome) → Prop}
    (h : ports.Ends n p fun r => P (.ok r)) : ports.Ends n p.attempt P := by
  intro calls hn
  rw [play, Prog.eval_attempt]
  exact h calls hn

theorem Ends.mono {P' : Except FraudErr α → List (List ChatMessage) →
      List (Py.Str × FraudOutcome) → Prop} (h : ports.Ends n p P)
    (hmono : ∀ r asked done, P r asked done → P' r asked done) : ports.Ends n p P' := by
  intro calls hn
  obtain ⟨asked, done, hasked, hdone, hP⟩ := h calls hn
  exact ⟨asked, done, hasked, hdone, hmono _ _ _ hP⟩

/-- A whole run. -/
theorem Ends.run (h : ports.Ends 0 p P) :
    P (ports.play p []).1 (askedMessages (ports.play p []).2)
      (completions (ports.play p []).2) := by
  obtain ⟨asked, done, hasked, hdone, hP⟩ := h [] rfl
  rw [hasked, hdone]
  exact hP

theorem Plays.pure (a : α) : ports.Plays n (pure a) (.ok a) [] [] :=
  Ends.pure ⟨rfl, rfl, rfl⟩

theorem Plays.fail (e : FraudErr) : ports.Plays n (.fail e : FraudProg α) (.error e) [] [] :=
  Ends.fail ⟨rfl, rfl, rfl⟩

theorem Plays.perform (o : FraudOp) : ports.Plays n (Prog.perform o) (ports.answer n o)
    o.asked.toList o.completed.toList :=
  Ends.perform ⟨rfl, rfl, rfl⟩

/-- Two programs in turn ask and complete what both do. -/
theorem Plays.bind {a : α} {r : Except FraudErr β} (h : ports.Plays n p (.ok a) asked done)
    (hf : ports.Plays (n + asked.length) (f a) r asked' done') :
    ports.Plays n (p >>= f) r (asked ++ asked') (done ++ done') := by
  apply Ends.bind h
  · rintro b _ _ ⟨hb, rfl, rfl⟩
    cases hb
    apply Ends.mono hf
    rintro r' _ _ ⟨rfl, rfl, rfl⟩
    exact ⟨rfl, rfl, rfl⟩
  · rintro e _ _ ⟨he, -⟩
    cases he

/-- A quiet program and what comes after it. -/
theorem Plays.then {a : α} {r : Except FraudErr β} (h : ports.Plays n p (.ok a) [] [])
    (hf : ports.Plays n (f a) r asked done) : ports.Plays n (p >>= f) r asked done :=
  h.bind hf

/-- A program whose result is only made into another one. -/
theorem Plays.last {a : α} {b : β} (h : ports.Plays n p (.ok a) asked done)
    (hf : f a = Pure.pure b) : ports.Plays n (p >>= f) (.ok b) asked done := by
  have hpure : ports.Plays (n + asked.length) (f a) (.ok b) [] [] := hf ▸ .pure b
  simpa only [List.append_nil] using h.bind hpure

/-- An error ends the whole program. -/
theorem Plays.bind_error {e : FraudErr} (h : ports.Plays n p (.error e) asked done) :
    ports.Plays n (p >>= f) (.error e) asked done := by
  apply Ends.bind h
  · rintro b _ _ ⟨hb, -⟩
    cases hb
  · rintro e' _ _ ⟨he, rfl, rfl⟩
    cases he
    exact ⟨rfl, rfl, rfl⟩

theorem Plays.attempt {r : Except FraudErr α} (h : ports.Plays n p r asked done) :
    ports.Plays n p.attempt (.ok r) asked done := by
  apply Ends.attempt
  apply Ends.mono h
  rintro r' _ _ ⟨rfl, rfl, rfl⟩
  exact ⟨rfl, rfl, rfl⟩

end ScoringPorts

/-! ## Facts and messages -/

/-- The facts of a request and its enrichment. -/
def factsOf (request : FraudScoreRequest) (enrichment : Enrichment) : SanitizedTransactionFacts :=
  { amountCents := request.amountCents, currency := request.currency
    senderKycStatus := enrichment.kycStatus, history := orderedHistory enrichment.history
    velocity := enrichment.velocity }

/-- The messages of the first attempt. -/
def firstMessages (facts : SanitizedTransactionFacts) : List ChatMessage :=
  chatMessages (promptText facts)

/-- The messages after a response that was rejected with the code. -/
def retryMessages (facts : SanitizedTransactionFacts) (code : String) : List ChatMessage :=
  chatMessages (Py.ofString (Validator.rejected code).correctivePrompt ++
    Py.ofString "\nSanitized facts: " ++ factsSentence facts)

section

variable [Py.TextLib] (config : FraudConfig)

/-- `guard_prompt` has nothing against the messages. -/
def GuardAccepts (messages : List ChatMessage) : Prop :=
  guardPrompt config (Py.join (Py.ofString "\n") (messages.map ChatMessage.content)) = none

instance (messages : List ChatMessage) : Decidable (GuardAccepts config messages) :=
  inferInstanceAs (Decidable (_ = none))

/-- `validate_verdict` rejects the response with the code. -/
def RejectsWith (response : Py.Str) (code : String) : Prop :=
  validateVerdict config response = .ok (Validator.rejected code)

end

/-! ## The codes of a rejection -/

namespace Validator

/-- The reasons `validate_verdict` rejects a response for. -/
def codes : List String :=
  ["response_too_large", "invalid_json", "invalid_schema", "invalid_action", "invalid_score",
    "sensitive_output"]

/-- No code has a NUL, which a database may refuse. -/
theorem codes_word : ∀ code ∈ codes, code.toList.all (· ≠ '\x00') = true := by
  decide

/-- A check that rejects only for one of the reasons. -/
def Coded {α : Type} (x : Except Refusal α) : Prop :=
  ∀ code, x = .error (.rejected code) → code ∈ codes

variable {α β : Type}

theorem Coded.bind {x : Except Refusal α} {f : α → Except Refusal β} (hx : Coded x)
    (hf : ∀ a, Coded (f a)) : Coded (x >>= f) := by
  intro code h
  cases Except.bind_eq_error.mp h with
  | inl h => exact hx code h
  | inr h =>
    obtain ⟨a, -, h⟩ := h
    exact hf a code h

theorem coded_ok (a : α) : Coded (.ok a) :=
  fun _ h => by cases h

theorem coded_error {reason : String} (h : reason ∈ codes) :
    Coded (.error (.rejected reason) : Except Refusal α) := by
  intro code hcode
  cases hcode
  exact h

theorem coded_raised (e : Py.Exn) : Coded (.error (.raised e) : Except Refusal α) :=
  fun _ h => by cases h

theorem coded_refuseIf {c : Prop} [Decidable c] {reason : String} (h : reason ∈ codes) :
    Coded (Except.refuseIf c (.rejected reason)) := by
  unfold Except.refuseIf
  split
  · exact coded_error h
  · exact coded_ok ()

theorem coded_ofOption {o : Option α} {reason : String} (h : reason ∈ codes) :
    Coded (Except.ofOption (.rejected reason) o) := by
  cases o with
  | none => exact coded_error h
  | some a => exact coded_ok a

theorem coded_score (value : Py.Json) : Coded (score value) := by
  unfold score
  split
  · split
    · exact coded_raised _
    · split
      · exact coded_ok _
      · exact coded_error (by decide)
  · split
    · exact coded_ok _
    · exact coded_error (by decide)
  · exact coded_error (by decide)

variable [Py.TextLib]

theorem coded_parse (response : Py.Str) : Coded (parse response) := by
  unfold parse
  cases Py.TextLib.loads response with
  | ok value => exact coded_ok value
  | error e =>
    cases e with
    | jsonDecodeError => exact coded_error (by decide)
    | other => exact coded_raised _

theorem coded_containsSensitive (keys : List Py.Str) (value : Py.Json) :
    Coded (containsSensitive keys value) := by
  unfold containsSensitive
  cases Py.TextLib.dumps value with
  | ok text => exact coded_ok _
  | error e => exact coded_raised e

/-- Whatever the response, its rejection has one of the codes. -/
theorem coded_readVerdict (config : FraudConfig) (response : Py.Str) :
    Coded (readVerdict config response) := by
  unfold readVerdict
  refine (coded_refuseIf (by decide)).bind fun _ => (coded_parse response).bind fun parsed => ?_
  have hfields : Coded (requiredFields parsed) := by
    unfold requiredFields
    split
    · exact coded_ofOption (by decide)
    · exact coded_error (by decide)
  refine hfields.bind fun fields => (coded_ofOption (by decide)).bind fun action => ?_
  refine (coded_score _).bind fun score => (coded_ofOption (by decide)).bind fun reason => ?_
  refine (coded_containsSensitive _ parsed).bind fun sensitive => ?_
  exact (coded_refuseIf (by decide)).bind fun _ => coded_ok _

end Validator

/-- The codes of the guard have no NUL either. -/
theorem guardPrompt_word [Py.TextLib] {config : FraudConfig} {prompt : Py.Str} {code : String}
    (h : guardPrompt config prompt = some code) : code.toList.all (· ≠ '\x00') = true := by
  unfold guardPrompt at h
  split at h
  · cases h; decide
  · split at h
    · cases h; decide
    · split at h
      · cases h; decide
      · split at h
        · cases h; decide
        · cases h

/-! ## What the nodes do -/

/-- What the database takes of the texts that come from the data and from the model. -/
structure Takes where
  facts : SanitizedTransactionFacts → Bool
  answer : Option Py.Str → Bool
  outcome : FraudOutcome → Bool

/-- The value, if the database takes it. -/
def taken {α : Type} (takes : α → Bool) (a : α) : Except FraudErr α :=
  if takes a then .ok a else .error .failed

section

variable [Py.TextLib]

/-- A validation that returns: an outcome, or the code of a rejection. -/
def validated (config : FraudConfig) (response : Py.Str) :
    Except FraudErr (Except String FraudOutcome) :=
  match Validator.readVerdict config response with
  | .ok verdict => .ok (.ok { action := some verdict.action, verdict := some verdict })
  | .error (.rejected code) => .ok (.error code)
  | .error (.raised e) => .error (.raised e)

/-- The end of an attempt whose prompt was accepted. -/
def answered (config : FraudConfig) : Option Py.Str → Except FraudErr (Except String FraudOutcome)
  | none => .ok (.ok (FraudGraph.failOpen "model_failed"))
  | some response => validated config response

/-- One attempt, with the failures of the database. -/
def judged (config : FraudConfig) (takes : Takes) (messages : List ChatMessage)
    (answer : Option Py.Str) : Except FraudErr (Except String FraudOutcome) :=
  if GuardAccepts config messages then
    taken takes.answer answer >>= answered config
  else .ok (.ok (FraudGraph.failOpen "prompt_rejected"))

/-- The second attempt after a rejection. -/
def judgedAgain (config : FraudConfig) (takes : Takes) (facts : SanitizedTransactionFacts)
    (second : Option Py.Str) : Except String FraudOutcome → Except FraudErr FraudOutcome
  | .ok outcome => .ok outcome
  | .error code => (judged config takes (retryMessages facts code) second).map fun r =>
      r.toOption.getD (FraudGraph.failOpen "validation_failed")

/-- Both attempts. -/
def judgedTwice (config : FraudConfig) (takes : Takes) (first second : Option Py.Str)
    (facts : SanitizedTransactionFacts) : Except FraudErr FraudOutcome :=
  judged config takes (firstMessages facts) first >>= judgedAgain config takes facts second

/-- The outcome of the nodes between the first and the last. -/
def assessed (config : FraudConfig) (takes : Takes) (first second : Option Py.Str) :
    Except FraudErr SanitizedTransactionFacts → Except FraudErr FraudOutcome
  | .error _ => .ok (FraudGraph.failOpen "enrichment_failed")
  | .ok facts => judgedTwice config takes first second facts

/-- What `score` returns. -/
def scored (config : FraudConfig) (takes : Takes) (request : FraudScoreRequest)
    (enrichment : Except FraudErr Enrichment) (first second : Option Py.Str) : FraudOutcome :=
  ((assessed config takes first second
      (enrichment >>= fun e => taken takes.facts (factsOf request e)) >>=
    taken takes.outcome).toOption).getD (FraudGraph.failOpen "audit_failed")

/-- The messages of one attempt that reach the model. -/
def sentMessages (config : FraudConfig) (messages : List ChatMessage) : List (List ChatMessage) :=
  if GuardAccepts config messages then [messages] else []

theorem sentMessages_pos {config : FraudConfig} {messages : List ChatMessage}
    (h : GuardAccepts config messages) : sentMessages config messages = [messages] :=
  if_pos h

theorem sentMessages_neg {config : FraudConfig} {messages : List ChatMessage}
    (h : ¬ GuardAccepts config messages) : sentMessages config messages = [] :=
  if_neg h

/-- The messages of the second attempt, if there is one. -/
def sentAgain (config : FraudConfig) (facts : SanitizedTransactionFacts) :
    Except FraudErr (Except String FraudOutcome) → List (List ChatMessage)
  | .ok (.error code) => sentMessages config (retryMessages facts code)
  | _ => []

/-- The messages of both attempts. -/
def sentTwice (config : FraudConfig) (takes : Takes) (first : Option Py.Str)
    (facts : SanitizedTransactionFacts) : List (List ChatMessage) :=
  sentMessages config (firstMessages facts) ++
    sentAgain config facts (judged config takes (firstMessages facts) first)

/-- What `score` sends to the model. -/
def sentBy (config : FraudConfig) (takes : Takes) (first : Option Py.Str) :
    Except FraudErr SanitizedTransactionFacts → List (List ChatMessage)
  | .error _ => []
  | .ok facts => sentTwice config takes first facts

/-- The session is completed with the outcome, if there is one. -/
def completedWith (sessionID : Py.Str) :
    Except FraudErr FraudOutcome → List (Py.Str × FraudOutcome)
  | .ok outcome => [(sessionID, outcome)]
  | .error _ => []

/-- The reason codes of the outcomes before the last node. -/
def reasonCodes : List (Option String) :=
  [none, some "enrichment_failed", some "prompt_rejected", some "model_failed",
    some "validation_failed"]

/-- The outcome of one attempt has one of the reason codes. -/
theorem judged_reason {config : FraudConfig} {takes : Takes} {messages : List ChatMessage}
    {answer : Option Py.Str} {outcome : FraudOutcome}
    (h : judged config takes messages answer = .ok (.ok outcome)) :
    outcome.reasonCode ∈ reasonCodes := by
  unfold judged at h
  split at h
  · obtain ⟨answer', -, h⟩ := Except.bind_eq_ok.mp h
    cases answer' with
    | none =>
      cases h
      decide
    | some response =>
      simp only [answered, validated] at h
      split at h
      · cases h
        exact List.mem_cons_self
      · cases h
      · cases h
  · cases h
    decide

/-- So has that of both, and that of an enrichment that failed. -/
theorem assessed_reason {config : FraudConfig} {takes : Takes} {first second : Option Py.Str}
    {facts : Except FraudErr SanitizedTransactionFacts} {outcome : FraudOutcome}
    (h : assessed config takes first second facts = .ok outcome) :
    outcome.reasonCode ∈ reasonCodes := by
  cases facts with
  | error e =>
    cases h
    decide
  | ok facts =>
    obtain ⟨r, hfirst, h⟩ := Except.bind_eq_ok.mp h
    cases r with
    | ok outcome' =>
      cases h
      exact judged_reason hfirst
    | error code =>
      rw [judgedAgain] at h
      obtain ⟨r, hsecond, h⟩ := Except.map_eq_ok.mp h
      cases r with
      | ok outcome' =>
        cases h
        exact judged_reason hsecond
      | error code' =>
        cases h
        show some "validation_failed" ∈ reasonCodes
        decide

/-- What is rejected is the answer to a prompt that the guard has accepted. -/
theorem judged_rejected {config : FraudConfig} {takes : Takes} {messages : List ChatMessage}
    {answer : Option Py.Str} {code : String}
    (h : judged config takes messages answer = .ok (.error code)) :
    GuardAccepts config messages ∧ ∃ response, answer = some response ∧
      Validator.readVerdict config response = .error (.rejected code) := by
  unfold judged at h
  by_cases hguard : GuardAccepts config messages
  · rw [if_pos hguard] at h
    obtain ⟨_, htaken, hanswered⟩ := Except.bind_eq_ok.mp h
    unfold taken at htaken
    split at htaken
    · cases htaken
      refine ⟨hguard, ?_⟩
      cases answer with
      | none => cases hanswered
      | some response =>
        refine ⟨response, rfl, ?_⟩
        simp only [answered, validated] at hanswered
        split at hanswered
        · cases hanswered
        · rename_i hread
          cases hanswered
          exact hread
        · cases hanswered
    · cases htaken
  · rw [if_neg hguard] at h
    cases h

/-- `validate_verdict` returns on the answer, if there is one. -/
def Returns (config : FraudConfig) (answer : Option Py.Str) : Prop :=
  ∀ response, answer = some response →
    ∃ validation, validateVerdict config response = .ok validation

/-- `validate_verdict` returns unless one of its checks raises. -/
theorem validateVerdict_eq_ok {config : FraudConfig} {response : Py.Str} :
    (∃ validation, validateVerdict config response = .ok validation) ↔
      ∀ e, Validator.readVerdict config response ≠ .error (.raised e) := by
  unfold validateVerdict
  cases Validator.readVerdict config response with
  | ok verdict => simp
  | error refusal => cases refusal <;> simp

/-! ## What reaches the model -/

/-- What is sent has passed the guard. -/
theorem sentMessages_guarded {config : FraudConfig} {messages m : List ChatMessage}
    (h : m ∈ sentMessages config messages) : m = messages ∧ GuardAccepts config messages := by
  unfold sentMessages at h
  split at h
  · exact ⟨List.mem_singleton.mp h, by assumption⟩
  · cases h

theorem sentMessages_length {config : FraudConfig} {messages : List ChatMessage} :
    (sentMessages config messages).length ≤ 1 := by
  unfold sentMessages
  split <;> simp

/-- A second attempt comes after a rejection. -/
theorem sentAgain_rejected {config : FraudConfig} {takes : Takes} {messages m : List ChatMessage}
    {facts : SanitizedTransactionFacts} {answer : Option Py.Str}
    (h : m ∈ sentAgain config facts (judged config takes messages answer)) :
    ∃ response code, answer = some response ∧ RejectsWith config response code ∧
      m = retryMessages facts code ∧ GuardAccepts config m := by
  cases hjudged : judged config takes messages answer with
  | error e =>
    rw [hjudged] at h
    cases h
  | ok r =>
    rw [hjudged] at h
    cases r with
    | ok outcome => cases h
    | error code =>
      obtain ⟨-, response, hresponse, hread⟩ := judged_rejected hjudged
      obtain ⟨rfl, hguard⟩ := sentMessages_guarded h
      refine ⟨response, code, hresponse, ?_, rfl, hguard⟩
      simp only [RejectsWith, validateVerdict, hread]

theorem sentAgain_length {config : FraudConfig} {facts : SanitizedTransactionFacts}
    {r : Except FraudErr (Except String FraudOutcome)} : (sentAgain config facts r).length ≤ 1 := by
  unfold sentAgain
  split
  · exact sentMessages_length
  · exact Nat.zero_le _

/-- At most two messages are sent, each accepted by the guard, and the second after a rejection. -/
theorem sentBy_spec {config : FraudConfig} {takes : Takes} {first : Option Py.Str}
    {facts : Except FraudErr SanitizedTransactionFacts} :
    (sentBy config takes first facts).length ≤ 2 ∧
      (∀ messages ∈ sentBy config takes first facts, GuardAccepts config messages) ∧
      (2 ≤ (sentBy config takes first facts).length → ∃ response code, first = some response ∧
        RejectsWith config response code) := by
  cases facts with
  | error e => simp [sentBy]
  | ok facts =>
    have hlength := @sentMessages_length _ config (firstMessages facts)
    have hlength' := @sentAgain_length _ config facts
      (judged config takes (firstMessages facts) first)
    simp only [sentBy, sentTwice, List.length_append, List.mem_append]
    refine ⟨by omega, ?_, ?_⟩
    · intro messages hmem
      cases hmem with
      | inl hmem =>
        obtain ⟨rfl, hguard⟩ := sentMessages_guarded hmem
        exact hguard
      | inr hmem =>
        obtain ⟨_, _, -, -, -, hguard⟩ := sentAgain_rejected hmem
        exact hguard
    · intro htwo
      obtain ⟨m, hm⟩ := List.exists_mem_of_length_pos
        (show 0 < (sentAgain config facts (judged config takes (firstMessages facts) first)).length
          by omega)
      obtain ⟨response, code, hresponse, hrejects, -⟩ := sentAgain_rejected hm
      exact ⟨response, code, hresponse, hrejects⟩

end

namespace ScoringPorts

variable [Py.TextLib] (ports : ScoringPorts) (env : WorkerEnv) (request : FraudScoreRequest)

/-- The statements of the graph work, but for texts the database does not take. -/
structure Records (takes : Takes) : Prop where
  create : ∀ n, ports.Plays n (FraudGraph.createSession request) (.ok ports.session) [] []
  context : ∀ n, ports.Plays n (FraudGraph.buildSanitizedContext ports.session) (.ok ()) [] []
  enrich : ∀ n, ports.Plays n (FraudGraph.enrichTransaction env.config request ports.session)
    (ports.enrichment >>= fun e => taken takes.facts (factsOf request e)) [] []
  prompt : ∀ n facts, ports.Plays n (FraudGraph.buildPrompt ports.session facts)
    (.ok (firstMessages facts)) [] []
  guard : ∀ n messages attempt, ports.Plays n
    (FraudGraph.inputGuard env.config ports.session messages attempt)
    (.ok (GuardAccepts env.config messages)) [] []
  llm : ∀ n messages attempt, ports.Plays n
    (FraudGraph.callLlm env ports.session messages attempt)
    (taken takes.answer (ports.reply n).1) [messages] []
  validate : ∀ n response attempt, ports.Plays n
    (FraudGraph.validate env.config ports.session response attempt)
    ((validated env.config response).map (Except.mapError Validator.rejected)) [] []
  retry : ∀ n facts, ∀ code ∈ Validator.codes, ports.Plays n
    (FraudGraph.retryPrompt ports.session facts (Validator.rejected code))
    (.ok (retryMessages facts code)) [] []
  complete : ∀ n (outcome : FraudOutcome), outcome.reasonCode ∈ reasonCodes → ports.Plays n
    (FraudGraph.completeSession ports.session outcome)
    (taken takes.outcome outcome) [] [(ports.session.sessionID, outcome)]

variable {ports env request} {takes : Takes}

/-- One attempt: the guard, the model and the validation of its answer. -/
theorem Records.judge (h : ports.Records env request takes) (n : Nat)
    (messages : List ChatMessage) (attempt : Int) :
    ports.Plays n (FraudGraph.judge env ports.session messages attempt)
      ((judged env.config takes messages (ports.reply n).1).map
        (Except.mapError Validator.rejected)) (sentMessages env.config messages) [] := by
  unfold FraudGraph.judge judged sentMessages
  apply (h.guard n messages attempt).then
  by_cases hguard : GuardAccepts env.config messages
  · simp only [hguard, decide_true, ↓reduceIte]
    have hllm := h.llm n messages attempt
    cases htaken : taken takes.answer (ports.reply n).1 with
    | error e =>
      -- the model has answered, but the answer could not be stored
      rw [htaken] at hllm
      exact hllm.bind_error
    | ok answer =>
      rw [htaken] at hllm
      cases answer with
      | none => exact hllm.last rfl
      | some response => exact hllm.bind (h.validate _ response attempt)
  · simp only [hguard, decide_false, Bool.false_eq_true, ↓reduceIte]
    exact .pure _

/-- The second attempt is made after a rejection, with its code in the prompt. -/
theorem Records.judgeTwice (h : ports.Records env request takes)
    (facts : SanitizedTransactionFacts) :
    ports.Plays 0 (FraudGraph.judgeTwice env ports.session facts)
      (judgedTwice env.config takes ports.first.1 ports.second.1 facts)
      (sentTwice env.config takes ports.first.1 facts) [] := by
  unfold FraudGraph.judgeTwice judgedTwice sentTwice
  apply (h.prompt 0 facts).then
  have hfirst := h.judge 0 (firstMessages facts) 1
  rw [show (ports.reply 0).1 = ports.first.1 from rfl] at hfirst
  cases hjudged : judged env.config takes (firstMessages facts) ports.first.1 with
  | error e =>
    rw [hjudged] at hfirst
    simpa [sentAgain] using hfirst.bind_error
  | ok r =>
    rw [hjudged] at hfirst
    cases r with
    | ok outcome =>
      simp only [sentAgain, List.append_nil]
      exact hfirst.last rfl
    | error code =>
      -- the response that was rejected is the answer to the only question so far
      have hsent : sentMessages env.config (firstMessages facts) = [firstMessages facts] :=
        sentMessages_pos (judged_rejected hjudged).1
      rw [hsent] at hfirst ⊢
      obtain ⟨-, response, -, hread⟩ := judged_rejected hjudged
      have hcode : code ∈ Validator.codes := Validator.coded_readVerdict _ _ code hread
      refine hfirst.bind ((h.retry _ facts code hcode).then ?_)
      have hsecond := h.judge 1 (retryMessages facts code) 2
      rw [show (ports.reply 1).1 = ports.second.1 from rfl] at hsecond
      simp only [Except.ok_bind, judgedAgain, sentAgain]
      cases hagain : judged env.config takes (retryMessages facts code) ports.second.1 with
      | error e =>
        rw [hagain] at hsecond
        exact hsecond.bind_error
      | ok r =>
        rw [hagain] at hsecond
        cases r with
        | ok outcome => exact hsecond.last rfl
        | error code' => exact hsecond.last rfl

/-- Without facts the model is not asked. -/
theorem Records.assess (h : ports.Records env request takes) :
    ports.Plays 0 (FraudGraph.assess env request ports.session)
      (assessed env.config takes ports.first.1 ports.second.1
        (ports.enrichment >>= fun e => taken takes.facts (factsOf request e)))
      (sentBy env.config takes ports.first.1
        (ports.enrichment >>= fun e => taken takes.facts (factsOf request e))) [] := by
  unfold FraudGraph.assess
  apply (h.context 0).then
  have henrich := (h.enrich 0).attempt
  cases hfacts : ports.enrichment >>= fun e => taken takes.facts (factsOf request e) with
  | error e =>
    rw [hfacts] at henrich
    exact henrich.last rfl
  | ok facts =>
    rw [hfacts] at henrich
    exact henrich.then (h.judgeTwice facts)

/-- What `score` returns, sends to the model and completes the session with. -/
theorem Records.score (h : ports.Records env request takes)
    (hopen : ports.session.decided = none) :
    ports.Plays 0 (FraudGraph.score env request)
      (.ok (scored env.config takes request ports.enrichment ports.first.1 ports.second.1))
      (sentBy env.config takes ports.first.1
        (ports.enrichment >>= fun e => taken takes.facts (factsOf request e)))
      (completedWith ports.session.sessionID (assessed env.config takes ports.first.1
        ports.second.1 (ports.enrichment >>= fun e => taken takes.facts (factsOf request e)))) := by
  have hinvoke : ports.Plays 0 (FraudGraph.invoke env request)
      (assessed env.config takes ports.first.1 ports.second.1
        (ports.enrichment >>= fun e => taken takes.facts (factsOf request e)) >>=
          taken takes.outcome)
      (sentBy env.config takes ports.first.1
        (ports.enrichment >>= fun e => taken takes.facts (factsOf request e)))
      (completedWith ports.session.sessionID (assessed env.config takes ports.first.1
        ports.second.1 (ports.enrichment >>= fun e => taken takes.facts (factsOf request e)))) := by
    rw [FraudGraph.invoke_eq]
    apply (h.create 0).then
    simp only [hopen]
    have hassess := h.assess
    have hreason := @assessed_reason _ env.config takes ports.first.1 ports.second.1
      (ports.enrichment >>= fun e => taken takes.facts (factsOf request e))
    generalize assessed env.config takes ports.first.1 ports.second.1
      (ports.enrichment >>= fun e => taken takes.facts (factsOf request e)) = r at hassess hreason ⊢
    cases r with
    | error e => exact hassess.bind_error
    | ok outcome =>
      have hcomplete := hassess.bind (f := fun outcome : FraudOutcome =>
        FraudGraph.completeSession ports.session outcome) (h.complete _ outcome (hreason rfl))
      simpa [completedWith] using hcomplete
  -- `score` turns every error of the graph into an outcome
  unfold FraudGraph.score scored
  have hattempt := hinvoke.attempt
  cases hr : assessed env.config takes ports.first.1 ports.second.1
      (ports.enrichment >>= fun e => taken takes.facts (factsOf request e)) >>=
        taken takes.outcome with
  | error e =>
    rw [hr] at hattempt
    exact hattempt.last rfl
  | ok outcome =>
    rw [hr] at hattempt
    exact hattempt.last rfl

end ScoringPorts

/-! ## What the columns take -/

/-- Which texts a database takes in its columns, and as the strings of a document. -/
structure Columns where
  text : Py.Str → Bool
  jsonb : Py.Str → Bool
  text_nil : text [] = true
  jsonb_word : ∀ s : String, s.toList.all (· ≠ '\x00') = true → jsonb (Py.ofString s) = true

namespace Columns

variable (columns : Columns)

mutual

/-- A document is taken if its strings are. An event has no numbers but integers. -/
def json : Py.Json → Bool
  | .str s => columns.jsonb s
  | .arr values => items values
  | .obj members => fields members
  | _ => true

def items : List Py.Json → Bool
  | [] => true
  | value :: values => json value && items values

def fields : List (Py.Str × Py.Json) → Bool
  | [] => true
  | (key, value) :: rest => columns.jsonb key && json value && fields rest

end

/-- Whether a statement is taken. A session ID is one that the database has returned. -/
def stores : FraudOp → Bool
  | .insertSession eventID paymentID => columns.text eventID && columns.text paymentID
  | .claim eventID => columns.text eventID
  | .append _ _ fields =>
    columns.fields fields && columns.text (SessionRow.textOf fields "raw_response") &&
      columns.text (SessionRow.textOf fields "provider_id") &&
      columns.text (SessionRow.textOf fields "model_id")
  | .complete _ outcome => outcome.verdict.all fun verdict => columns.jsonb verdict.reason
  | _ => true

/-- A text that stands in a column and in an event. -/
def both (s : Py.Str) : Bool :=
  columns.text s && columns.jsonb s

/-- The texts of the graph that are not the program's own. -/
def takes (env : WorkerEnv) : Takes where
  facts facts := columns.fields facts.document
  answer answer :=
    columns.both env.providerID && columns.both env.modelID && answer.all columns.both
  outcome outcome := outcome.verdict.all fun verdict => columns.jsonb verdict.reason

/-- The texts of a request that its session is created with. -/
def takesRequest (request : FraudScoreRequest) : Bool :=
  columns.both request.eventID && columns.text request.paymentID

variable {columns}

/-- An event without texts of the model is taken if its fields are. -/
theorem stores_append {sessionID : Py.Str} {node : String} {event : List (Py.Str × Py.Json)}
    (hraw : SessionRow.textOf event "raw_response" = [])
    (hprovider : SessionRow.textOf event "provider_id" = [])
    (hmodel : SessionRow.textOf event "model_id" = []) :
    columns.stores (.append sessionID node event) = columns.fields event := by
  simp only [stores, hraw, hprovider, hmodel, columns.text_nil, Bool.and_true]

theorem fields_nil : columns.fields [] = true := by simp only [fields]

/-- A field with a text of the program is taken. -/
theorem fields_textField {name value : String} {rest : List (Py.Str × Py.Json)}
    (hname : name.toList.all (· ≠ '\x00') = true) (hvalue : value.toList.all (· ≠ '\x00') = true) :
    columns.fields (FraudGraph.textField name value :: rest) = columns.fields rest := by
  simp only [FraudGraph.textField, fields, json, columns.jsonb_word name hname,
    columns.jsonb_word value hvalue, Bool.true_and]

theorem fields_cons {name : String} {value : Py.Json} {rest : List (Py.Str × Py.Json)}
    (hname : name.toList.all (· ≠ '\x00') = true) :
    columns.fields ((Py.ofString name, value) :: rest) =
      (columns.json value && columns.fields rest) := by
  simp only [fields, columns.jsonb_word name hname, Bool.true_and]

theorem fields_intField {name : String} {value : Int} {rest : List (Py.Str × Py.Json)}
    (hname : name.toList.all (· ≠ '\x00') = true) :
    columns.fields (FraudGraph.intField name value :: rest) = columns.fields rest := by
  rw [FraudGraph.intField, fields_cons hname]
  simp only [json, Bool.true_and]

end Columns

namespace ScoringPorts

variable {ports : ScoringPorts} {env : WorkerEnv} {request : FraudScoreRequest}
  {columns : Columns} {session : FraudSession} {n : Nat}

/-- A node that ends with its audit event. -/
theorem Plays.audited {α : Type} {node : String} {event : List (Py.Str × Py.Json)}
    {takes : α → Bool} {a : α}
    (h : ports.stores (.append session.sessionID node event) = takes a) :
    ports.Plays n (do FraudGraph.audit session node event; Pure.pure a) (taken takes a) [] [] := by
  have hperform : ports.Plays n (FraudGraph.audit session node event)
      (ports.answer n (.append session.sessionID node event)) [] [] := .perform _
  simp only [answer, h] at hperform
  unfold taken
  split at hperform
  · rw [if_pos (by assumption)]
    exact hperform.then (.pure a)
  · rw [if_neg (by assumption)]
    exact hperform.bind_error

/-- An audit event whose texts are the program's own. -/
theorem Plays.audit {node : String} {event : List (Py.Str × Py.Json)}
    (hstores : ports.stores = columns.stores) (hraw : SessionRow.textOf event "raw_response" = [])
    (hprovider : SessionRow.textOf event "provider_id" = [])
    (hmodel : SessionRow.textOf event "model_id" = []) (hevent : columns.fields event = true) :
    ports.Plays n (FraudGraph.audit session node event) (.ok ()) [] [] := by
  have hperform : ports.Plays n (FraudGraph.audit session node event)
      (ports.answer n (.append session.sessionID node event)) [] [] := .perform _
  rwa [answer, hstores, Columns.stores_append hraw hprovider hmodel, hevent, if_pos rfl] at hperform

/-- The session is created if the columns take the request. -/
theorem Plays.createSession (hstores : ports.stores = columns.stores) :
    ports.Plays n (FraudGraph.createSession request)
      (taken (fun _ => columns.takesRequest request) ports.session) [] [] := by
  unfold FraudGraph.createSession FraudStore.claimSession
  have hinsert : ports.Plays n (Prog.perform (FraudOp.insertSession request.eventID
      request.paymentID)) (ports.answer n (.insertSession request.eventID request.paymentID))
      [] [] := .perform _
  have hclaim : ports.Plays n (Prog.perform (FraudOp.claim request.eventID))
      (ports.answer n (.claim request.eventID)) [] [] := .perform _
  simp only [answer, hstores, Columns.stores] at hinsert hclaim
  -- both statements read the event ID, and the event repeats it
  by_cases hevent : columns.text request.eventID = true
  · by_cases hpayment : columns.text request.paymentID = true
    · simp only [hevent, hpayment, Bool.and_self, if_true] at hinsert hclaim
      refine (hinsert.then hclaim).then (.audited ?_)
      rw [hstores, Columns.stores_append rfl rfl rfl,
        Columns.fields_textField (by decide) (by decide), Columns.fields_cons (by decide)]
      simp only [Columns.json, Columns.fields_nil, Columns.takesRequest, Columns.both, hevent,
        hpayment, Bool.and_true, Bool.true_and]
    · rw [Bool.not_eq_true] at hpayment
      simp only [hpayment, Bool.and_false, Bool.false_eq_true, if_false] at hinsert
      simp only [taken, Columns.takesRequest, hpayment, Bool.and_false, Bool.false_eq_true,
        if_false]
      exact hinsert.bind_error.bind_error
  · rw [Bool.not_eq_true] at hevent
    simp only [hevent, Bool.false_and, Bool.false_eq_true, if_false] at hinsert
    simp only [taken, Columns.takesRequest, Columns.both, hevent, Bool.false_and,
      Bool.false_eq_true, if_false]
    exact hinsert.bind_error.bind_error

/-- The facts are returned if the event that records them is taken. -/
theorem Plays.enrichTransaction (config : FraudConfig) (hstores : ports.stores = columns.stores) :
    ports.Plays n (FraudGraph.enrichTransaction config request session)
      (ports.enrichment >>= fun e => taken (columns.takes env).facts (factsOf request e))
      [] [] := by
  unfold FraudGraph.enrichTransaction
  have hread : ports.Plays n (Prog.perform (FraudOp.enrich request.fromWalletID
      config.historyLimit request.userID request.traceID)) ports.enrichment [] [] := .perform _
  cases henrichment : ports.enrichment with
  | error e =>
    rw [henrichment] at hread
    exact hread.bind_error
  | ok e =>
    rw [henrichment] at hread
    refine hread.then (.audited ?_)
    rw [hstores, Columns.stores_append rfl rfl rfl]
    simp (disch := decide) only [Columns.fields_textField, Columns.fields_intField,
      Columns.fields_cons, Columns.json, Columns.fields_nil, Bool.and_true]
    rfl

/-- The answer is returned if the event that records it is taken. -/
theorem Plays.callLlm (messages : List ChatMessage) (attempt : Int)
    (hstores : ports.stores = columns.stores) :
    ports.Plays n (FraudGraph.callLlm env session messages attempt)
      (taken (columns.takes env).answer (ports.reply n).1) [messages] [] := by
  unfold FraudGraph.callLlm
  have hask : ports.Plays n (Prog.perform (FraudOp.ask messages)) (.ok (ports.reply n))
      [messages] [] := .perform _
  -- the answer stands in the event and, as raw text, in a column of its own
  generalize ports.reply n = reply at hask ⊢
  obtain ⟨answer, latency⟩ := reply
  refine hask.bind (.audited ?_)
  rw [hstores]
  cases answer with
  | none =>
    show (columns.fields _ && columns.text [] && columns.text env.providerID &&
      columns.text env.modelID) = _
    simp (disch := decide) only [Columns.fields_textField, Columns.fields_intField,
      Columns.fields_cons, Columns.json, Columns.fields_nil, columns.text_nil, Columns.takes,
      Columns.both, Option.all_none, Bool.and_true]
    ac_rfl
  | some text =>
    show (columns.fields _ && columns.text text && columns.text env.providerID &&
      columns.text env.modelID) = _
    simp (disch := decide) only [Columns.fields_textField, Columns.fields_intField,
      Columns.fields_cons, Columns.json, Columns.fields_nil, Columns.takes, Columns.both,
      List.cons_append, List.nil_append, Option.all_some, Bool.and_true]
    ac_rfl

/-- A validation is recorded in words of the program alone. -/
theorem Plays.validate [Py.TextLib] (config : FraudConfig) (response : Py.Str) (attempt : Int)
    (hstores : ports.stores = columns.stores) :
    ports.Plays n (FraudGraph.validate config session response attempt)
      ((validated config response).map (Except.mapError Validator.rejected)) [] [] := by
  unfold FraudGraph.validate validateVerdict validated
  cases hread : Validator.readVerdict config response with
  | ok verdict =>
    refine Plays.then (.audit hstores rfl rfl rfl ?_) (.pure _)
    cases verdict.action <;> cases verdict.modelAction <;>
      simp (disch := decide) only [Columns.fields_textField, Columns.fields_intField,
        Columns.fields_cons, Columns.json, Columns.fields_nil, FraudAction.text, Bool.and_true]
  | error refusal =>
    cases refusal with
    | raised e => exact .fail _
    | rejected code =>
      -- the code is the only text of the event that is not fixed
      have hcode : code ∈ Validator.codes := Validator.coded_readVerdict _ _ code hread
      have hword := Validator.codes_word code hcode
      refine Plays.then (.audit hstores rfl rfl rfl ?_) (.pure _)
      rw [Columns.fields_textField (by decide) (by decide), Columns.fields_intField (by decide),
        Columns.fields_textField (by decide) (by decide)]
      exact (Columns.fields_textField (by decide) hword).trans Columns.fields_nil

/-- The statements of the graph on columns that take the request. -/
theorem records_of_columns [Py.TextLib] (hstores : ports.stores = columns.stores)
    (hrequest : columns.takesRequest request = true) :
    ports.Records env request (columns.takes env) where
  create n := by
    have hcreate := @Plays.createSession ports request columns n hstores
    rwa [taken, if_pos hrequest] at hcreate
  context n := by
    refine Plays.audit hstores rfl rfl rfl ?_
    simp (disch := decide) only [Columns.fields_textField, Columns.fields_cons, Columns.json,
      List.map, Columns.items, columns.jsonb_word, Columns.fields_nil, Bool.and_true]
  enrich n := .enrichTransaction env.config hstores
  prompt n facts := by
    refine Plays.then (.audit hstores rfl rfl rfl ?_) (.pure _)
    simp (disch := decide) only [Columns.fields_textField, Columns.fields_nil]
  guard n messages attempt := by
    unfold FraudGraph.inputGuard
    cases hr : guardPrompt env.config
        (Py.join (Py.ofString "\n") (messages.map ChatMessage.content)) with
    | none =>
      rw [decide_eq_true (show GuardAccepts env.config messages from hr)]
      refine Plays.then (.audit hstores rfl rfl rfl ?_) (.pure _)
      simp (disch := decide) only [Columns.fields_intField, Columns.fields_textField,
        Columns.fields_nil]
    | some code =>
      have hrejects : ¬ GuardAccepts env.config messages := by
        simp only [GuardAccepts, hr, reduceCtorEq, not_false_eq_true]
      rw [decide_eq_false hrejects]
      refine Plays.then (.audit hstores rfl rfl rfl ?_) (.pure _)
      simp (disch := decide) only [Columns.fields_intField, Columns.fields_textField]
      rw [Columns.fields_textField (by decide) (guardPrompt_word hr), Columns.fields_nil]
  llm n messages attempt := .callLlm messages attempt hstores
  validate n response attempt := .validate env.config response attempt hstores
  retry n facts code hcode := by
    refine Plays.then (.audit hstores rfl rfl rfl ?_) (.pure _)
    rw [Columns.fields_textField (by decide) (by decide)]
    exact (Columns.fields_textField (by decide) (Validator.codes_word code hcode)).trans
      Columns.fields_nil
  complete n outcome hreason := by
    simp only [FraudGraph.completeSession, Option.getD_some]
    have hword : (outcome.reasonCode.getD "").toList.all (· ≠ '\x00') = true :=
      (by decide : ∀ reason ∈ reasonCodes, (reason.getD "").toList.all (· ≠ '\x00') = true)
        outcome.reasonCode hreason
    have hcomplete : ports.Plays n (FraudStore.completeSession ports.session outcome)
        (ports.answer n (.complete ports.session.sessionID outcome)) []
        [(ports.session.sessionID, outcome)] := .perform _
    refine Plays.then (.audit hstores rfl rfl rfl ?_) ?_
    · rw [Columns.fields_textField (by decide) (by decide)]
      cases outcome.action with
      | none =>
        rw [Columns.fields_textField (by decide) (by decide),
          Columns.fields_textField (by decide) hword, Columns.fields_nil]
      | some action =>
        rw [Columns.fields_textField (by decide) (by cases action <;> decide),
          Columns.fields_textField (by decide) hword, Columns.fields_nil]
    · simp only [answer, hstores] at hcomplete
      unfold taken
      by_cases htakes : columns.stores (.complete ports.session.sessionID outcome) = true
      · rw [if_pos htakes] at hcomplete
        rw [if_pos (by exact htakes)]
        exact hcomplete.last rfl
      · rw [if_neg htakes] at hcomplete
        rw [if_neg (by exact htakes)]
        exact hcomplete.bind_error

end ScoringPorts

end EnjoyThings
