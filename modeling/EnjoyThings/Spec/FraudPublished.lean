import EnjoyThings.Spec.FraudDecisions
import EnjoyThings.Spec.Timestamps

/-!
# The orchestrator accepts what the fraud worker publishes

Two validators stand between a verdict of the model and the orchestrator: the worker's
`validate_verdict` and the orchestrator's `Validate` of the decoded event. The event goes
through Python strings, which may hold lone surrogates, and through a time that is
written with `isoformat` and read as RFC 3339. A payment ID with a surrogate never gets
as far as the producer, because it is the key of the record as well.

## Key results

- `readRequest_eq_some`, `readVerdict_eq_ok`: what the worker's checks guarantee
- `flagged_valid`, `error_valid`: the events are valid when they are decoded
- `published_accepted`: so is everything the workers publish, in every run
-/

namespace EnjoyThings

open Effect

/-! ## Strings on the way -/

namespace Py

/-- A string with a UTF-8 form is a text. -/
theorem exists_ofString {p : Str} (h : encodes p = true) : ∃ s, ofString s = p := by
  refine ⟨String.ofList (p.map fun c => Char.ofNat c.val), ?_⟩
  rw [ofString, String.toList_ofList, List.map_map]
  simp only [encodes, Bool.not_eq_true', List.any_eq_false] at h
  conv_rhs => rw [← List.map_id p]
  refine List.map_congr_left fun c hc => Fin.ext ?_
  -- what is not a surrogate is the number of a letter
  have hvalid : c.val.isValidChar := by
    have hs := h c hc
    simp only [isSurrogate, isHighSurrogate, isLowSurrogate, Bool.or_eq_true, Bool.and_eq_true,
      decide_eq_true_eq, not_or, not_and] at hs
    have hlt := c.isLt
    simp only [Nat.isValidChar]
    omega
  show (Char.ofNat c.val).toNat = c.val
  rw [Char.ofNat, dif_pos hvalid]
  rfl

end Py

namespace Go

theorem ofPython_ne_empty {p : Py.Str} (h : p ≠ []) : ofPython p ≠ "" := by
  have hdecoded : decodeCodePoints p ≠ [] := by
    fun_cases decodeCodePoints p <;> simp_all
  intro hempty
  apply hdecoded
  rw [← String.toList_ofList (l := decodeCodePoints p)]
  exact congrArg String.toList hempty

end Go

/-! ## What the checks guarantee -/

variable {s : Py.Str}

namespace FraudWorker

open Option (bind_eq_some_iff)

variable {raw : List (Py.Str × Py.Json)}

theorem requiredString_ne_nil {field : String} (h : requiredString raw field = some s) :
    s ≠ [] := by
  unfold requiredString at h
  split at h
  · split at h
    · cases h
    · cases h
      assumption
  · cases h

/-- A request that is accepted has an event ID made from its payment ID, and names a trace. -/
theorem readRequest_eq_some [Py.IsoLib] {request : FraudScoreRequest}
    (h : readRequest raw = some request) :
    request.eventID = Py.ofString "fraud.score.requested:" ++ request.paymentID ∧
      request.paymentID ≠ [] ∧ request.traceID ≠ [] := by
  simp only [readRequest, Option.bind_eq_bind, bind_eq_some_iff] at h
  obtain ⟨_, -, eventID, -, paymentID, hpayment, _, -, _, -, _, -, _, -, _, -, traceID, htrace, _,
    -, _, -, _, hevent, _, -, hrequest⟩ := h
  cases hrequest
  refine ⟨?_, requiredString_ne_nil hpayment, requiredString_ne_nil htrace⟩
  by_contra hne
  simp [guard, hne] at hevent

/-- The payload of some record is the request. -/
def Accepts [Py.IsoLib] (request : FraudScoreRequest) : Prop :=
  ∃ (B : Type) (loads : B → Except Py.Exn Py.Json) (payload : B),
    classifyTransportPayload loads payload = .ok (.valid request)

theorem Accepts.readRequest [Py.IsoLib] {request : FraudScoreRequest} (h : Accepts request) :
    ∃ raw, FraudWorker.readRequest raw = some request := by
  obtain ⟨B, loads, payload, h⟩ := h
  unfold classifyTransportPayload at h
  split at h
  · rename_i raw _
    refine ⟨raw, ?_⟩
    cases hread : FraudWorker.readRequest raw with
    | none => simp [hread] at h
    | some request' => simpa [hread] using h
  · cases h
  · cases h
  · cases h

end FraudWorker

variable {config : FraudConfig} {response : Py.Str} {verdict : FraudVerdict}

namespace Validator

open Except (bind_eq_ok refuseIf_eq_ok ofOption_eq_ok)

theorem score_eq_ok {value : Py.Json} {q : Rat} (h : score value = .ok q) : 0 ≤ q ∧ q ≤ 1 := by
  have hclamp : ∀ x : Rat, 0 ≤ min 1 (max 0 x) ∧ min 1 (max 0 x) ≤ 1 := fun x =>
    ⟨le_min (by decide) (le_max_left 0 x), min_le_left 1 _⟩
  unfold score at h
  split at h
  · split at h
    · cases h
    · split at h
      · cases h
        exact hclamp _
      · cases h
  · split at h
    · cases h
      exact hclamp _
    · cases h
  · cases h

theorem reason?_eq_some {value : Py.Json} (h : reason? value = some s) :
    Py.strip s ≠ [] := by
  unfold reason? at h
  split at h
  · split at h
    · cases h
    · rename_i hne
      cases h
      exact fun hstrip => hne (.inl hstrip)
  · cases h

theorem readVerdict_eq_ok [Py.TextLib] (h : readVerdict config response = .ok verdict) :
    0 ≤ verdict.riskScore ∧ verdict.riskScore ≤ 1 ∧ verdict.reason ≠ [] := by
  obtain ⟨_, -, h⟩ := bind_eq_ok.mp h
  obtain ⟨_, -, h⟩ := bind_eq_ok.mp h
  obtain ⟨fields, -, h⟩ := bind_eq_ok.mp h
  obtain ⟨_, -, h⟩ := bind_eq_ok.mp h
  obtain ⟨score, hscore, h⟩ := bind_eq_ok.mp h
  obtain ⟨reason, hreason, h⟩ := bind_eq_ok.mp h
  obtain ⟨_, -, h⟩ := bind_eq_ok.mp h
  obtain ⟨_, -, h⟩ := bind_eq_ok.mp h
  cases h
  obtain ⟨hlow, hhigh⟩ := score_eq_ok hscore
  exact ⟨hlow, hhigh, reason?_eq_some (ofOption_eq_ok.mp hreason)⟩

end Validator

theorem validateVerdict_verdict [Py.TextLib] {validation : ValidationResult}
    (h : validateVerdict config response = .ok validation)
    (hverdict : validation.verdict = some verdict) :
    0 ≤ verdict.riskScore ∧ verdict.riskScore ≤ 1 ∧ verdict.reason ≠ [] := by
  unfold validateVerdict at h
  split at h
  · rename_i v hread
    cases h
    cases hverdict
    exact Validator.readVerdict_eq_ok hread
  · cases h
    cases hverdict
  · cases h

/-! ## The events -/

variable {event : List (Py.Str × Py.Json)} {n : Int} {id source payment session text trace : Py.Str}
  {at_ : Time × Int}

/-- Go decodes a flag field by field. -/
theorem FraudFlagged.unmarshal_eq {action reason provider model : Py.Str} {score : Rat}
    (hversion : Py.Json.get event "schema_version" = some (.int n))
    (hid : Py.Json.get event "event_id" = some (.str id))
    (hsource : Py.Json.get event "source_event_id" = some (.str source))
    (hpayment : Py.Json.get event "payment_id" = some (.str payment))
    (hsession : Py.Json.get event "session_id" = some (.str session))
    (haction : Py.Json.get event "action" = some (.str action))
    (hscore : Py.Json.get event "risk_score" = some (.float (.finite score)))
    (hreason : Py.Json.get event "reason" = some (.str reason))
    (hprovider : Py.Json.get event "provider_id" = some (.str provider))
    (hmodel : Py.Json.get event "model_id" = some (.str model))
    (htime : Py.Json.get event "occurred_at" = some (.str text))
    (htrace : Py.Json.get event "trace_id" = some (.str trace))
    (hparse : Go.parseRFC3339 (Go.ofPython text) = some at_) :
    FraudFlagged.unmarshal event = some
      ({ schemaVersion := n, eventID := Go.ofPython id, sourceEventID := Go.ofPython source
         paymentID := Go.ofPython payment, sessionID := Go.ofPython session
         action := Go.ofPython action, riskScore := score, reason := Go.ofPython reason
         providerID := Go.ofPython provider, modelID := Go.ofPython model
         occurredAt := at_.1, traceID := Go.ofPython trace }, at_.2) := by
  simp [FraudFlagged.unmarshal, Go.intField, Go.stringField, Go.floatField, Go.timeField, hversion,
    hid, hsource, hpayment, hsession, haction, hscore, hreason, hprovider, hmodel, htime, htrace,
    hparse]

theorem FraudError.unmarshal_eq {code : Py.Str}
    (hversion : Py.Json.get event "schema_version" = some (.int n))
    (hid : Py.Json.get event "event_id" = some (.str id))
    (hsource : Py.Json.get event "source_event_id" = some (.str source))
    (hpayment : Py.Json.get event "payment_id" = some (.str payment))
    (hsession : Py.Json.get event "session_id" = some (.str session))
    (hcode : Py.Json.get event "reason_code" = some (.str code))
    (htime : Py.Json.get event "occurred_at" = some (.str text))
    (htrace : Py.Json.get event "trace_id" = some (.str trace))
    (hparse : Go.parseRFC3339 (Go.ofPython text) = some at_) :
    FraudError.unmarshal event = some
      ({ schemaVersion := n, eventID := Go.ofPython id, sourceEventID := Go.ofPython source
         paymentID := Go.ofPython payment, sessionID := Go.ofPython session
         reasonCode := Go.ofPython code, occurredAt := at_.1, traceID := Go.ofPython trace },
        at_.2) := by
  simp [FraudError.unmarshal, Go.intField, Go.stringField, Go.timeField, hversion, hid, hsource,
    hpayment, hsession, hcode, htime, htrace, hparse]

section Events

variable {clock : Py.Now} {env : WorkerEnv} {request : FraudScoreRequest} {sessionID : Py.Str}
  {published : Published}

/-- The reading of a clock is not Go's zero time. -/
theorem Py.Now.time_ne_zero (clock : Py.Now) : clock.micros * 1000 ≠ 0 := by
  have := clock.pos
  omega

/-- The key of an event that is produced is a text. -/
theorem send_key {topic : String} {key : Py.Str}
    (h : KafkaFraudPublisher.send topic key event = .ok published) : ∃ s, Py.ofString s = key := by
  obtain ⟨_, hkey, -⟩ := Except.bind_eq_ok.mp h
  exact Py.exists_ofString (by simpa using Except.refuseIf_eq_ok.mp hkey)

theorem eventID_ne_empty
    (hevent : request.eventID = Py.ofString "fraud.score.requested:" ++ request.paymentID)
    (hpayment : request.paymentID ≠ []) : Go.ofPython request.eventID ≠ "" := by
  apply Go.ofPython_ne_empty
  rw [hevent]
  exact List.append_ne_nil_of_right_ne_nil _ hpayment

variable (hevent : request.eventID = Py.ofString "fraud.score.requested:" ++ request.paymentID)
  (hpayment : request.paymentID ≠ []) (htrace : request.traceID ≠ [])
include hevent hpayment htrace

theorem flagged_valid {outcome : FraudOutcome} (hverdict : outcome.verdict = some verdict)
    (hscore : 0 ≤ verdict.riskScore) (hscore' : verdict.riskScore ≤ 1)
    (hreason : verdict.reason ≠ []) (hsession : sessionID ≠ []) (hprovider : env.providerID ≠ [])
    (hmodel : env.modelID ≠ [])
    (h : KafkaFraudPublisher.publishFlagged (env.publisher clock) request outcome sessionID =
      .ok published) :
    ∃ event, FraudFlagged.unmarshal published.event = some (event, 0) ∧ event.valid = true ∧
      Py.ofString event.paymentID = request.paymentID := by
  obtain ⟨v, hv, h⟩ := Except.bind_eq_ok.mp h
  cases hverdict.symm.trans (Except.ofOption_eq_ok.mp hv)
  obtain ⟨action, haction, h⟩ := Except.bind_eq_ok.mp h
  obtain ⟨-, hflags⟩ := Option.filter_eq_some_iff.mp (Except.ofOption_eq_ok.mp haction)
  obtain ⟨payment, hkey⟩ := send_key h
  rw [KafkaFraudPublisher.send_eq_ok h]
  have htime : Go.parseRFC3339 (Go.ofPython (Py.timestamp clock.micros)) =
      some (clock.micros * 1000, 0) := Go.parseRFC3339_timestamp clock.lt
  refine ⟨_, FraudFlagged.unmarshal_eq rfl rfl rfl rfl rfl rfl rfl rfl rfl rfl rfl rfl htime,
    ?_, ?_⟩
  · have hsource := eventID_ne_empty hevent hpayment
    have haction' : action.text = fraudActionFlag ∨ action.text = fraudActionBlock := by
      cases action with
      | allow => simp at hflags
      | flag => exact .inl rfl
      | block => exact .inr rfl
    simp [FraudFlagged.valid, WorkerEnv.publisher, Go.ofPython_ofString_append, fraudFlaggedEventID,
      fraudFlaggedTopic, hsource, Go.ofPython_ne_empty, hpayment, htrace, hreason, hsession,
      hprovider, hmodel, hscore, hscore', haction', clock.time_ne_zero]
  · show Py.ofString (Go.ofPython request.paymentID) = request.paymentID
    rw [← hkey, Go.ofPython_ofString]

theorem error_valid {code : String} (hcode : code ∈ fraudReasons)
    (h : KafkaFraudPublisher.publishError (env.publisher clock) request code sessionID =
      .ok published) :
    ∃ event, FraudError.unmarshal published.event = some (event, 0) ∧ event.valid = true := by
  obtain ⟨payment, hkey⟩ := send_key h
  rw [KafkaFraudPublisher.send_eq_ok h]
  have htime : Go.parseRFC3339 (Go.ofPython (Py.timestamp clock.micros)) =
      some (clock.micros * 1000, 0) := Go.parseRFC3339_timestamp clock.lt
  refine ⟨_, FraudError.unmarshal_eq rfl rfl rfl rfl rfl rfl rfl rfl htime, ?_⟩
  have hsource := eventID_ne_empty hevent hpayment
  -- all parts of the event ID are texts, since the payment ID is one
  have hid : Go.ofPython (Py.ofString "fraud.error:" ++ request.eventID ++ Py.ofString ":" ++
      Py.ofString code) = fraudErrorEventID (Go.ofPython request.eventID) code := by
    rw [hevent, ← hkey]
    simp only [← Py.ofString_append, Go.ofPython_ofString]
    simp [fraudErrorEventID, fraudErrorTopic, String.append_assoc]
  simp [FraudError.valid, hid, -List.append_assoc, hsource, Go.ofPython_ne_empty, hpayment, htrace,
    validFraudReason, hcode, clock.time_ne_zero]

end Events

/-- Everything the workers publish is accepted: a flag made from a verdict of the validator, and
    every error a worker publishes in any run on accepted requests. -/
theorem published_accepted [Py.TextLib] [Py.IsoLib] :
    (∀ request, FraudWorker.Accepts request → ∀ config response validation verdict outcome,
      validateVerdict config response = .ok validation → validation.verdict = some verdict →
      outcome.verdict = some verdict → outcome.Flags →
      ∀ (env : WorkerEnv) (clock : Py.Now) sessionID published, sessionID ≠ [] →
        env.providerID ≠ [] → env.modelID ≠ [] →
        KafkaFraudPublisher.publishFlagged (env.publisher clock) request outcome sessionID =
          .ok published →
        ∃ event, FraudFlagged.unmarshal published.event = some (event, 0) ∧ event.valid = true ∧
          Py.ofString event.paymentID = request.paymentID) ∧
    ∀ (U : Type) [DecidableEq U] (env : U → WorkerEnv)
      (acts : List (TeamAct U FraudScoreRequest FraudChoice (Beat U))),
      (∀ owner request, .deliver owner request ∈ acts → FraudWorker.Accepts request) →
      ∀ published ∈ (fraudRun env acts).sent, published.topic = fraudErrorTopic →
        ∃ event, FraudError.unmarshal published.event = some (event, 0) ∧ event.valid = true := by
  refine ⟨?_, ?_⟩
  · intro request haccepts config response validation verdict outcome hvalidate hverdict houtcome _
      env clock sessionID published hsession hprovider hmodel h
    obtain ⟨raw, hread⟩ := haccepts.readRequest
    obtain ⟨hevent, hpayment, htrace⟩ := FraudWorker.readRequest_eq_some hread
    obtain ⟨hscore, hscore', hreason⟩ := validateVerdict_verdict hvalidate hverdict
    exact flagged_valid hevent hpayment htrace houtcome hscore hscore' hreason hsession hprovider
      hmodel h
  · intro U _ env acts hacts published hsent htopic
    cases (fraudRun_sound hacts).sent published hsent with
    | inl h =>
      -- flags go to a topic of their own
      obtain ⟨_, _, -, hannounces⟩ := h
      rw [hannounces.topic] at htopic
      exact absurd htopic (by decide)
    | inr h =>
      obtain ⟨env, clock, request, code, sessionID, haccepts, hcode, h⟩ := h
      obtain ⟨raw, hread⟩ := haccepts.readRequest
      obtain ⟨hevent, hpayment, htrace⟩ := FraudWorker.readRequest_eq_some hread
      exact error_valid hevent hpayment htrace hcode h

/-- `str.lower` on an ASCII letter. -/
def Py.lowerAscii (c : CodePoint) : CodePoint :=
  if h : 65 ≤ c.val ∧ c.val ≤ 90 then ⟨c.val + 32, by omega⟩ else c

namespace Sample

/-- The text of an answer of the model, with its keys in order. -/
def answerText (action : String) (reason score : Py.Str) : Py.Str :=
  Py.ofString "\x7b\"action\": \"" ++ Py.ofString action ++ Py.ofString "\", \"reason\": \"" ++
    reason ++ Py.ofString "\", \"risk_score\": " ++ score ++ Py.ofString "\x7d"

/-- What such a text says. -/
def answerDocument (action : String) (reason : Py.Str) (score : Py.Json) : Py.Json :=
  .obj [(Py.ofString "action", .str (Py.ofString action)), (Py.ofString "reason", .str reason),
    (Py.ofString "risk_score", score)]

/-- A `json` that knows one document and its text. -/
@[reducible] def jsonLib (text : Py.Str) (document : Py.Json) : Py.TextLib where
  loads s := if s = text then .ok document else .error .jsonDecodeError
  dumps _ := .ok text
  lower s := s.map Py.lowerAscii

def flaggedAnswer : Py.Str :=
  answerText "flag" (Py.ofString " large ") (Py.ofString "0.75")

@[reducible] def flaggingLib : Py.TextLib :=
  jsonLib flaggedAnswer (answerDocument "flag" (Py.ofString " large ") (.float (.finite (3 / 4))))

def scoreDocument : List (Py.Str × Py.Json) :=
  [(Py.ofString "schema_version", .int 1),
    (Py.ofString "event_id", .str (Py.ofString "fraud.score.requested:p")),
    (Py.ofString "payment_id", .str (Py.ofString "p")),
    (Py.ofString "user_id", .str (Py.ofString "u")),
    (Py.ofString "from_wallet_id", .str (Py.ofString "a")),
    (Py.ofString "to_wallet_id", .str (Py.ofString "b")),
    (Py.ofString "amount_cents", .int 5),
    (Py.ofString "currency", .str (Py.ofString "USD")),
    (Py.ofString "occurred_at", .str (Py.ofString "2025-01-01T00:00:00Z")),
    (Py.ofString "trace_id", .str (Py.ofString "t"))]

def scoreRequest : FraudScoreRequest where
  schemaVersion := 1
  eventID := Py.ofString "fraud.score.requested:p"
  paymentID := Py.ofString "p"
  userID := Py.ofString "u"
  fromWalletID := Py.ofString "a"
  toWalletID := Py.ofString "b"
  amountCents := 5
  currency := Py.ofString "USD"
  occurredAt :=
    { year := 2025, month := 1, day := 1, hour := 0, minute := 0, second := 0, microsecond := 0
      utcoffset := some 0 }
  traceID := Py.ofString "t"

def flaggedVerdict : FraudVerdict where
  riskScore := 3 / 4
  action := .flag
  reason := Py.ofString "large"
  modelAction := .flag
  actionNormalized := false

def scoringWorker : WorkerEnv :=
  { providerID := Py.ofString "x", modelID := Py.ofString "m" }

end Sample

/-- A document that is accepted, a response that is flagged, and the event made of them. -/
theorem published_accepted_flag : ∃ published event,
    KafkaFraudPublisher.publishFlagged (Sample.scoringWorker.publisher { micros := 1 })
        Sample.scoreRequest { action := some .flag, verdict := some Sample.flaggedVerdict }
        (Py.ofString "s") = .ok published ∧
      FraudFlagged.unmarshal published.event = some (event, 0) ∧ event.valid = true ∧
      Py.ofString event.paymentID = Py.ofString "p" := by
  have hread : @FraudWorker.readRequest Py.extendedIso Sample.scoreDocument =
      some Sample.scoreRequest := by decide +kernel
  have haccepts : @FraudWorker.Accepts Py.extendedIso Sample.scoreRequest := by
    refine ⟨Unit, fun _ => .ok (.obj Sample.scoreDocument), (), ?_⟩
    simp only [FraudWorker.classifyTransportPayload, hread, Option.elim_some]
  have hread' : @Validator.readVerdict Sample.flaggingLib {} Sample.flaggedAnswer =
      .ok Sample.flaggedVerdict := by decide +kernel
  have hvalidate : @validateVerdict Sample.flaggingLib {} Sample.flaggedAnswer =
      .ok { verdict := some Sample.flaggedVerdict } := by
    simp only [validateVerdict, hread']
  obtain ⟨event, hevent⟩ := (@published_accepted Sample.flaggingLib Py.extendedIso).1
    Sample.scoreRequest haccepts {} Sample.flaggedAnswer _ Sample.flaggedVerdict
    { action := some .flag, verdict := some Sample.flaggedVerdict } hvalidate rfl rfl (.inl rfl)
    Sample.scoringWorker { micros := 1 } (Py.ofString "s") _ (by decide) (by decide) (by decide) rfl
  exact ⟨_, event, rfl, hevent⟩

end EnjoyThings
