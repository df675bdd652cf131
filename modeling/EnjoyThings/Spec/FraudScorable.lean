import EnjoyThings.Services.FraudEvents
import EnjoyThings.Services.Gateway
import EnjoyThings.Spec.SagaCausal
import EnjoyThings.Spec.SagaOutbox
import EnjoyThings.Spec.Timestamps

/-!
# Executed payments can be scored

A saga row keeps the fields and the trace ID of the request that created it
(`originated`), so the `fraud.score.requested` payload of a payment is made of
the fields of an accepted request. Which of these payloads the two validators
accept then depends on the trace ID alone: the gRPC server does not ask for one,
and both validators do.

## Key results

- `originated`: rows and payloads carry the fields of admitted requests
- `executed_scorable`: a payload is scorable exactly if its request has a trace ID
-/

namespace EnjoyThings

open Effect Orchestrator

variable {U : Type} [UuidLib U]

/-! ## What a row keeps of its request -/

/-- The rows were started with the same values and the same trace ID. -/
def sameOrigin (s s' : Saga) : Prop :=
  sameStartPayload s s' ∧ s.traceID = s'.traceID

theorem sameOrigin.refl (s : Saga) : sameOrigin s s :=
  ⟨.refl s, rfl⟩

theorem sameOrigin.trans {s₁ s₂ s₃ : Saga} (h : sameOrigin s₁ s₂) (h' : sameOrigin s₂ s₃) :
    sameOrigin s₁ s₃ :=
  ⟨h.1.trans h'.1, h.2.trans h'.2⟩

variable {s : Saga}

theorem sameOrigin.symm {s' : Saga} (h : sameOrigin s s') : sameOrigin s' s :=
  ⟨h.1.symm, h.2.symm⟩

/-- The `fraud.score.requested` event with the fields of a request. -/
def StartRequest.scoreEvent (req : StartRequest) (t : Time) : FraudScoreRequested :=
  { schemaVersion := 1, eventID := fraudScoreRequestedEventID req.paymentID
    paymentID := req.paymentID, userID := req.userID, fromWalletID := req.fromWalletID
    toWalletID := req.toWalletID, amountCents := req.amountCents, currency := req.currency
    occurredAt := t, traceID := req.traceID }

/-- The rows of a later world have the origin of the rows before. -/
def OriginKept (w w' : World U) : Prop :=
  ∀ paymentID row, w.saga? paymentID = some row →
    ∃ row', w'.saga? paymentID = some row' ∧ sameOrigin row' row

/-- Every row and every `fraud.score.requested` payload comes from an admitted request. -/
structure World.Originated (admits : StartRequest → Prop) (w : World U) : Prop where
  keyed : w.Keyed
  rows : ∀ s ∈ w.sagas, ∃ req, admits req ∧ sameOrigin s (startedSaga req 0)
  events : ∀ record ∈ w.db.outbox, ∀ event, record.payload = .fraudScoreRequested event →
    ∃ req, admits req ∧ event = req.scoreEvent event.occurredAt

/-- The copy has the origin of the stored row. -/
def OriginFact (f : Fact) (w : World U) : Prop :=
  ∃ row, w.saga? f.saga.paymentID = some row ∧ sameOrigin row f.saga

variable {w w' : World U} {c : Choice U} {admits : StartRequest → Prop}

variable {f : Option Fact} {o : SagaOp} {lesson : Except SagaErr o.Ret → Option Fact}

/-- Only the last stage of a start enqueues a scoring request, with the fields of its copy. -/
theorem FactMove.score_event (hm : FactMove f o lesson) {record : OutboxRecord}
    (hr : record ∈ o.events) {event : FraudScoreRequested}
    (he : record.payload = .fraudScoreRequested event) :
    ∃ s t, f = some (.row s) ∧ record = fraudScoreRecord s t := by
  cases hm with
  | @execute s hs t =>
    rcases List.mem_cons.mp hr with rfl | hr
    · cases he
    · rw [List.mem_singleton.mp hr]
      exact ⟨s, t, rfl, rfl⟩
  | announce | announceFailed | writeFlagged =>
    rw [List.mem_singleton.mp hr] at he
    cases he
  | _ => cases hr

/-- What a call of a handler leaves of the origins. -/
theorem FactMove.originKept {a : o.Ret} (hm : FactMove f o lesson) (hf : ∀ g ∈ f, OriginFact g w)
    (hrun : o.run c w = (.ok a, w')) : OriginKept w w' := by
  intro paymentID row hrow
  rcases run_row hrun hrow with hsame | ⟨s, ho, hp, hwritten⟩
  · exact ⟨row, hsame, .refl row⟩
  · refine ⟨_, hwritten, .refl row, ?_⟩
    -- the copy that is written has the trace ID of the row it came from
    obtain ⟨g, hg, hw⟩ := hm.rewrites ho
    obtain ⟨row', hrow', -, horigin⟩ := hf g hg
    rw [← hw.paymentID, hp] at hrow'
    cases hrow'.symm.trans hrow
    exact hw.traceID.trans horigin.symm

omit [UuidLib U] in
theorem OriginFact.kept {f : Fact} (hf : OriginFact f w) (h : OriginKept w w') :
    OriginFact f w' := by
  obtain ⟨row, hrow, horigin⟩ := hf
  obtain ⟨row', hrow', horigin'⟩ := h _ row hrow
  exact ⟨row', hrow', horigin'.trans horigin⟩

omit [UuidLib U] in
theorem OriginKept.trans {w₁ w₂ w₃ : World U} (h : OriginKept w₁ w₂) (h' : OriginKept w₂ w₃) :
    OriginKept w₁ w₃ := by
  intro paymentID row hrow
  obtain ⟨row₂, hrow₂, hsame⟩ := h paymentID row hrow
  obtain ⟨row₃, hrow₃, hsame'⟩ := h' paymentID row₂ hrow₂
  exact ⟨row₃, hrow₃, hsame'.trans hsame⟩

omit [UuidLib U] in
theorem OriginFact.of_mem {f : Fact} (hk : w.Keyed) (hs : s ∈ w.sagas) (hf : f.saga = s) :
    OriginFact f w := by
  subst hf
  exact ⟨_, hk.saga?_of_mem hs, .refl _⟩

omit [UuidLib U] in
/-- The request a copy comes from. -/
theorem World.Originated.request {f : Fact} (h : w.Originated admits) (hf : OriginFact f w) :
    ∃ req, admits req ∧ sameOrigin f.saga (startedSaga req 0) := by
  obtain ⟨row, hrow, horigin⟩ := hf
  obtain ⟨req, hreq, hsame⟩ := h.rows row (World.saga?_some hrow).1
  exact ⟨req, hreq, horigin.symm.trans hsame⟩

variable {req : StartRequest} {t : Time}

/-- The payload made of a copy is the one made of its request. -/
theorem fraudScoreRecord_origin (h : sameOrigin s (startedSaga req 0)) :
    (fraudScoreRecord s t).payload = .fraudScoreRequested (req.scoreEvent t) := by
  obtain ⟨⟨hp, -, hu, hfrom, hto, ha, hc⟩, ht⟩ := h
  simp only [fraudScoreRecord, StartRequest.scoreEvent, hp, hu, hfrom, hto, ha, hc, ht]
  rfl

/-- A call of a handler keeps the origins of rows and payloads. -/
theorem World.Originated.move {a : o.Ret} (h : w.Originated admits) (hm : FactMove f o lesson)
    (hf : ∀ g ∈ f, OriginFact g w) (hrun : o.run c w = (.ok a, w')) :
    w'.Originated admits where
  keyed := (run_grows h.keyed hrun).1
  rows s hs := by
    obtain ⟨r, hr, hsame⟩ := run_rows hm.ne_create hrun hs
    obtain ⟨req, hreq, horigin⟩ := h.rows r hr
    obtain ⟨row, hrow, hkept⟩ := hm.originKept hf hrun _ r (h.keyed.saga?_of_mem hr)
    -- the row of the payment after the call is `s`
    have hrow' := (run_grows h.keyed hrun).1.saga?_of_mem hs
    rw [← hsame.1] at hrow'
    cases hrow.symm.trans hrow'
    exact ⟨req, hreq, hkept.trans horigin⟩
  events record hrecord event hevent := by
    rw [run_outbox hrun] at hrecord
    rcases List.mem_append.mp hrecord with hrecord | hrecord
    · exact h.events record hrecord event hevent
    · obtain ⟨s, t, hs, rfl⟩ := hm.score_event hrecord hevent
      obtain ⟨req, hreq, horigin⟩ := h.request (hf (.row s) hs)
      have hpayload : (fraudScoreRecord s t).payload = _ := fraudScoreRecord_origin horigin
      obtain rfl := Payload.fraudScoreRequested.inj (hpayload.symm.trans hevent)
      exact ⟨req, hreq, rfl⟩

omit [UuidLib U] in
/-- So does the creation of a row for an admitted request. -/
theorem World.Originated.create {now : Time} {id : String} (h : w.Originated admits)
    (hreq : admits req) (hnew : ∀ s ∈ w.sagas, s.paymentID ≠ req.paymentID) :
    World.Originated admits
      { w with sagas := w.sagas ++ [World.newRow id now (startedSaga req t)] } where
  keyed := ⟨h.keyed.db, List.nodup_map_append_singleton h.keyed.sagas hnew⟩
  rows s hs := by
    rcases List.mem_concat_iff.mp hs with hs | rfl
    · exact h.rows s hs
    · exact ⟨req, hreq, .refl (startedSaga req t), rfl⟩
  events := h.events

/-- Rows and payloads carry the fields and the trace ID of admitted requests. -/
theorem originated (admits : StartRequest → Prop) :
    Keeping (U := U) admits (World.Originated admits) OriginKept OriginFact where
  keyed := World.Originated.keyed
  refl _ _ row hrow := ⟨row, hrow, .refl row⟩
  trans := OriginKept.trans
  stable hf _ hkept := hf.kept hkept
  stored hi hs := .of_mem hi.keyed hs rfl
  unverified hf _ := hf
  create hreq hi hnew := by
    refine ⟨hi.create hreq hnew, fun paymentID row hrow => ⟨row, ?_, .refl row⟩⟩
    unfold World.saga? at hrow ⊢
    rw [List.find?_append, hrow]
    rfl
  move hm hi hf hrun := by
    have hi' := hi.move hm hf hrun
    have hkept := hm.originKept hf hrun
    refine ⟨hi', hkept, fun g hg => .inr ?_⟩
    rcases hm.lesson_saga hrun hg with hg | ⟨g', hg', hsame⟩
    · exact .of_mem hi'.keyed hg rfl
    · obtain ⟨row, hrow⟩ := (hf g' hg').kept hkept
      rw [← hsame] at hrow
      exact ⟨row, hrow⟩

/-! ## What the validators accept -/

/-- The request the worker is to read: every field as it was sent, the time to the
    microsecond. -/
def FraudScoreRequested.request (event : FraudScoreRequested) : FraudScoreRequest :=
  { schemaVersion := event.schemaVersion, eventID := Py.ofString event.eventID
    paymentID := Py.ofString event.paymentID, userID := Py.ofString event.userID
    fromWalletID := Py.ofString event.fromWalletID, toWalletID := Py.ofString event.toWalletID
    amountCents := event.amountCents.toInt, currency := Py.ofString event.currency
    occurredAt := .utc (event.occurredAt / 1000), traceID := Py.ofString event.traceID }

/-- Both validators accept the event, and the worker reads it back field by field, however
    the payload is encoded. -/
def FraudScoreRequested.Scorable [Py.IsoLib] (event : FraudScoreRequested) : Prop :=
  event.valid = true ∧ ∀ (B : Type) (loads : B → Except Py.Exn Py.Json) (payload : B),
    loads payload = .ok (.obj event.document) →
    FraudWorker.classifyTransportPayload loads payload = .ok (.valid event.request)

/-- A time that Go and Python have in common: after the zero time, before the year 10000. -/
def CommonTime (t : Time) : Prop :=
  0 < t ∧ t / 1000000000 < Stamp.lastSecond

instance (t : Time) : Decidable (CommonTime t) :=
  inferInstanceAs (Decidable (_ ∧ _))

namespace FraudWorker

private theorem requiredString_of (raw : List (Py.Str × Py.Json)) (field : String) {text : String}
    (hne : text ≠ "") (h : Py.Json.get raw field = some (.str (Py.ofString text))) :
    requiredString raw field = some (Py.ofString text) := by
  have hlist : Py.ofString text ≠ [] := by
    simpa [Py.ofString] using hne
  simp only [requiredString, h, hlist, ↓reduceIte]

/-- The worker reads a document with all its fields as the request it was made of. -/
theorem readRequest_document [Py.IsoLib] {event : FraudScoreRequested}
    (hvalid : event.valid = true) (ht : CommonTime event.occurredAt) :
    readRequest event.document = some event.request := by
  simp only [FraudScoreRequested.valid, Bool.and_eq_true, decide_eq_true_eq] at hvalid
  obtain ⟨⟨⟨⟨⟨⟨⟨⟨⟨hschema, hid⟩, hpayment⟩, huser⟩, hfrom⟩, hto⟩, hamount⟩, hcurrency⟩, -⟩,
    htrace⟩ := hvalid
  have hone : ((Py.Json.get event.document "schema_version").any Py.Json.isOne) = true := by
    show decide ((event.schemaVersion : Int) = 1) = true
    simp [hschema]
  have heventID : event.eventID ≠ "" := by
    rw [hid]
    simp [fraudScoreRequestedEventID]
  have hint : positiveInt event.document "amount_cents" = some event.amountCents.toInt := by
    have hpos : ¬ event.amountCents.toInt ≤ 0 := by
      have := Int64.lt_iff_toInt_lt.mp hamount
      rw [Int64.toInt_zero] at this
      omega
    show (if event.amountCents.toInt ≤ 0 then none else some event.amountCents.toInt) = _
    rw [if_neg hpos]
  have htext : Go.formatRFC3339Nano event.occurredAt ≠ "" := by
    rw [Go.formatRFC3339Nano_eq]
    simp
  have hprefix : Py.ofString event.eventID =
      Py.ofString "fraud.score.requested:" ++ Py.ofString event.paymentID := by
    rw [hid, fraudScoreRequestedEventID, Py.ofString_append]
    rfl
  simp only [readRequest, hone, guard, ↓reduceIte,
    requiredString_of event.document "event_id" heventID rfl,
    requiredString_of event.document "payment_id" hpayment rfl,
    requiredString_of event.document "user_id" huser rfl,
    requiredString_of event.document "from_wallet_id" hfrom rfl,
    requiredString_of event.document "to_wallet_id" hto rfl,
    requiredString_of event.document "currency" hcurrency rfl,
    requiredString_of event.document "occurred_at" htext rfl,
    requiredString_of event.document "trace_id" htrace rfl, hint,
    Py.parseTime_formatRFC3339Nano ht.2, hprefix,
    Option.bind_eq_bind, Option.bind_some, Option.pure_def]
  simp [FraudScoreRequested.request, Py.DateTime.utc, hschema, hprefix]

end FraudWorker

/-- What the server has checked of a request it accepts is all that the Go validator asks for,
    except for the trace ID. -/
theorem StartRequest.scoreEvent_valid (hreq : SagaGrpc.startPaymentSaga req = .ok req)
    (ht : 0 < t) :
    (req.scoreEvent t).valid = true ↔ req.traceID ≠ "" := by
  simp only [SagaGrpc.startPaymentSaga, Except.bind_eq_ok, Except.refuseIf_eq_ok, not_or] at hreq
  obtain ⟨-, ⟨hpayment, -, huser, hfrom, hto, hcurrency⟩, -, hamount, -⟩ := hreq
  have hpos : 0 < req.amountCents := Int64.not_le.mp hamount
  have hne : t ≠ 0 := Nat.ne_of_gt ht
  simp only [FraudScoreRequested.valid, scoreEvent, hpayment, huser, hfrom, hto, hcurrency, hpos,
    hne, Bool.and_eq_true, decide_eq_true_eq, not_false_eq_true, ne_eq, and_self, true_and]
  exact decide_eq_true_iff

/-- The event of an accepted request is scorable exactly if the request has a trace ID. -/
theorem StartRequest.scoreEvent_scorable [Py.IsoLib]
    (hreq : SagaGrpc.startPaymentSaga req = .ok req) (ht : CommonTime t) :
    (req.scoreEvent t).Scorable ↔ req.traceID ≠ "" := by
  rw [← scoreEvent_valid hreq ht.1]
  refine ⟨And.left, fun hvalid => ⟨hvalid, fun B loads payload hpayload => ?_⟩⟩
  simp only [FraudWorker.classifyTransportPayload, hpayload]
  rw [FraudWorker.readRequest_document hvalid ht]
  rfl

omit [UuidLib U] in
theorem World.Idle.originated (h : w.Idle) : w.Originated admits where
  keyed := ⟨h.keyed, by rw [h.sagas]; exact List.nodup_nil⟩
  rows s hs := by
    rw [h.sagas] at hs
    cases hs
  events record hrecord event hevent := by
    obtain ⟨initiated, hinitiated⟩ := h.outbox record hrecord
    rw [hevent] at hinitiated
    cases hinitiated

/-! ## Every run -/

/-- However the handlers interleave, a scoring request that is enqueued carries the fields of a
    request that the server accepted, and both validators accept it exactly if that request has
    a trace ID. -/
theorem executed_scorable [Py.IsoLib] (hw : w.Idle) {acts : List (Act SagaRequest (Choice U))}
    (haccepted : ∀ req, .start (.start req) ∈ acts → SagaGrpc.startPaymentSaga req = .ok req)
    {record : OutboxRecord} {event : FraudScoreRequested}
    (hrecord : record ∈ (interleave w acts).world.db.outbox)
    (hevent : record.payload = .fraudScoreRequested event)
    (hclock : CommonTime event.occurredAt) :
    ∃ req, .start (.start req) ∈ acts ∧ event = req.scoreEvent event.occurredAt ∧
      (event.Scorable ↔ req.traceID ≠ "") := by
  have hi := ((originated fun req => .start (.start req) ∈ acts).interleave_keeps
    hw.originated (w := w) [] fun q hq req hreq => by
      rw [List.append_nil] at hq
      rwa [← hreq]).1
  obtain ⟨req, hreq, horigin⟩ := hi.events record hrecord event hevent
  refine ⟨req, hreq, horigin, ?_⟩
  rw [horigin]
  exact req.scoreEvent_scorable (haccepted req hreq) hclock

/-- The sample payment is scored. -/
theorem executed_scorable_traced :
    ∃ record ∈ (interleave Sample.world Sample.startedRun).world.db.outbox,
      ∃ event, record.payload = .fraudScoreRequested event ∧
        @FraudScoreRequested.Scorable Py.extendedIso event := by
  have hrun : ∃ record ∈ (interleave Sample.world Sample.startedRun).world.db.outbox,
      record.payload = .fraudScoreRequested (Sample.startRequest.scoreEvent 13000) := by
    decide +kernel
  have haccepted : ∀ req, .start (.start req) ∈ Sample.startedRun →
      SagaGrpc.startPaymentSaga req = .ok req := by
    intro req hreq
    rcases List.mem_cons.mp hreq with hreq | hreq
    · cases hreq
      decide +kernel
    · obtain ⟨c, -, hc⟩ := List.mem_map.mp hreq
      cases hc
  obtain ⟨record, hrecord, hevent⟩ := hrun
  obtain ⟨req, hreq, horigin, hscorable⟩ := @executed_scorable _ _ _ Py.extendedIso
    Sample.world_idle Sample.startedRun haccepted record _ hrecord hevent (by decide +kernel)
  refine ⟨record, hrecord, _, hevent, hscorable.mpr ?_⟩
  -- the trace ID of the request is the one of the event
  have htrace : req.traceID = "trace-1" := (congrArg FraudScoreRequested.traceID horigin).symm
  simp [htrace]

namespace Sample

/-- The payment with a request that has no trace ID. -/
def untraced : StartRequest :=
  { startRequest with traceID := "" }

def untracedRun : List (Act SagaRequest (Choice CanonicalUuid)) :=
  .start (.start untraced) :: steps 0 0 13

end Sample

/-- The server accepts a request without a trace ID, its payment is executed, and neither
    validator accepts the scoring request. -/
theorem untraced_not_scorable :
    SagaGrpc.startPaymentSaga Sample.untraced = .ok Sample.untraced ∧
      (((interleave Sample.world Sample.untracedRun).world.saga? (text Sample.paymentID)).map
          (·.state) = some .paymentProcessing ∧
        ∃ record ∈ (interleave Sample.world Sample.untracedRun).world.db.outbox,
          record.payload = .fraudScoreRequested (Sample.untraced.scoreEvent 13000)) ∧
      (Sample.untraced.scoreEvent 13000).valid = false ∧
      @FraudWorker.classifyTransportPayload Py.extendedIso Unit
        (fun _ => .ok (.obj (Sample.untraced.scoreEvent 13000).document)) () =
          .ok .nonRetryable := by
  refine ⟨by decide +kernel, by decide +kernel, by decide +kernel, ?_⟩
  have hread : @FraudWorker.readRequest Py.extendedIso
      (Sample.untraced.scoreEvent 13000).document = none := by decide +kernel
  simp only [FraudWorker.classifyTransportPayload, hread, Option.elim_none]

end EnjoyThings
