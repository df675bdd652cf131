import EnjoyThings.Spec.ReviewHolds
import EnjoyThings.Spec.SagaOutbox

/-!
# The deadline of a review

`ExpireFraudReviews` takes the time of the stored flag for the time at which the review
began. The two are the same in a run in which every flag says it occurred when its
handler puts the payment on hold, and in which no flag with another time reaches a
payment that is held already (`deadline_from_entry`). A flag that comes late makes the
deadline pass before its time, and a second flag moves it (`deadline_not_from_entry`).

When the review began is read off the outbox: every payment that is put on hold leaves
a `tx.paused` row with the time, in the same transaction.
-/

namespace EnjoyThings

open Effect Orchestrator

variable {U : Type} [UuidLib U] {w w' w₀ : World U} {s row : Saga} {c : Choice U}
  {paymentID : String}

/-! ## When a review began -/

/-- When the payment was put on hold, in its `tx.paused` row. -/
def OutboxRecord.pausedAt? (record : OutboxRecord) (paymentID : String) : Option Time :=
  match record.payload with
  | .txPaused event => if event.paymentID = paymentID then some event.pausedAt else none
  | _ => none

/-- When the payment was last put on hold, in the microseconds the store keeps. -/
def World.pausedAt? (w : World U) (paymentID : String) : Option Time :=
  (w.db.outbox.filterMap (·.pausedAt? paymentID)).getLast?.map pgTime

theorem pgTime_pgTime (t : Time) : pgTime (pgTime t) = pgTime t := by
  unfold pgTime
  rw [Nat.mul_div_cancel _ (by decide)]

omit [UuidLib U] in
theorem World.pausedAt?_rounded {t : Time} (h : w.pausedAt? paymentID = some t) :
    pgTime t = t := by
  obtain ⟨t', -, rfl⟩ := Option.map_eq_some_iff.mp h
  exact pgTime_pgTime t'

omit [UuidLib U] in
theorem World.pausedAt?_append {events : List OutboxRecord}
    (houtbox : w'.db.outbox = w.db.outbox ++ events)
    (hevents : events.filterMap (·.pausedAt? paymentID) = []) :
    w'.pausedAt? paymentID = w.pausedAt? paymentID := by
  rw [World.pausedAt?, houtbox, List.filterMap_append, hevents, List.append_nil, World.pausedAt?]

/-- Every stored review began when the stored flag says it occurred. -/
def World.OnTime (w : World U) : Prop :=
  ∀ paymentID row, w.saga? paymentID = some row → row.state = .fraudReview →
    row.fraudFlaggedAt ≠ 0 ∧ w.pausedAt? paymentID = some row.fraudFlaggedAt

/-- A step after which reviews are on time if they were. -/
def KeepsOnTime (w w' : World U) : Prop :=
  w.OnTime → w'.OnTime

/-! ## The other handlers -/

/-- The call takes no row into review, and a row that it leaves in review keeps the time of its
    flag. -/
def KeepsFlagTime (k : Knowledge) (o : SagaOp) : Prop :=
  o.HoldsNothing ∧ ∀ s a, o = .updateWithAudit s a → s.state = .fraudReview →
    ∀ f ∈ k.fact, s.fraudFlaggedAt = f.saga.fraudFlaggedAt

/-- The calls that write no row in review together with an audit record. -/
def SagaOp.OutOfReview : SagaOp → Prop
  | .updateWithOutboxAndAudit _ _ _ => False
  | .updateWithAudit s _ => s.state ≠ .fraudReview
  | _ => True

variable {o : SagaOp}

theorem SagaOp.OutOfReview.keepsFlagTime (h : o.OutOfReview) (k : Knowledge) :
    KeepsFlagTime k o := by
  constructor
  · cases o with
    | updateWithOutboxAndAudit => exact h.elim
    | updateWithAudit s a => exact fun _ => h
    | _ => trivial
  · rintro s a rfl hstate
    exact absurd hstate h

theorem SagaOp.Unaudited.outOfReview (h : o.Unaudited) : o.OutOfReview := by
  cases o with
  | updateWithAudit | updateWithOutboxAndAudit => exact h.elim
  | _ => trivial

variable {k : Knowledge}

theorem FactMove.keeps_flagTime {lesson : Except SagaErr o.Ret → Option Fact}
    (hm : FactMove k.fact o lesson) (ho : KeepsFlagTime k o) (hs : s ∈ o.row?)
    (hstate : s.state = .fraudReview) :
    ∃ g ∈ k.fact, g.saga.paymentID = s.paymentID ∧ g.saga.state = .fraudReview ∧
      s.fraudFlaggedAt = g.saga.fraudFlaggedAt := by
  obtain ⟨g, hg, hp, hreview⟩ := hm.keeps_review ho.1 hs hstate
  refine ⟨g, hg, hp, hreview, ?_⟩
  obtain ⟨f, listed⟩ := k
  cases hm with
  | now | audit | verify | debit | reserve | confirm | announce | cancel | compensate
  | announceFailed => cases hs
  | writeFlagged _ _ _ _ _ => exact ho.1.elim
  | writeMarked _ _ _ _ | writeDeferred _ _ _ _ _ =>
    cases hs
    exact ho.2 _ _ rfl hstate g hg
  | _ =>
    -- the other writes lead out of review
    cases hs
    cases hstate

variable {admits : StartRequest → Prop} {learn : Except SagaErr o.Ret → Knowledge} {a : o.Ret}

/-- Only the call that takes a row into review enqueues a `tx.paused` row. -/
theorem Move.pausedAt?_eq (hm : Move admits k o learn) (ho : o.HoldsNothing)
    (h : o.run c w = (.ok a, w')) (paymentID : String) :
    w'.pausedAt? paymentID = w.pausedAt? paymentID := by
  refine World.pausedAt?_append (run_outbox h) ?_
  cases hm with
  | get | create | list => rfl
  | fact hm _ =>
    cases hm with
    | writeFlagged _ _ _ _ _ => exact ho.elim
    | _ => rfl

variable {seen : Seen}

theorem Move.onTime (hm : Move admits k o learn) (ho : KeepsFlagTime k o) (hcur : Current k seen w)
    (h : o.run c w = (.ok a, w')) : KeepsOnTime w w' := by
  intro hw paymentID row' hrow' hstate
  rw [hm.pausedAt?_eq ho.1 h]
  cases hrow : w.saga? paymentID with
  | none =>
    -- a new row is not in review
    obtain ⟨s, rfl, hs⟩ := run_created h hrow hrow'
    cases hm with
    | fact hm _ => exact absurd rfl (hm.ne_create s)
    | create req t _ => cases hs.symm.trans hstate
  | some row =>
    rcases run_row h hrow with hsame | ⟨s, hs, hp, hwritten⟩
    · cases hsame.symm.trans hrow'
      exact hw _ _ hrow hstate
    · -- the copy that is written is the stored row, with the time it has there
      cases hwritten.symm.trans hrow'
      cases hm with
      | get _ | create _ _ _ | list => cases hs
      | @fact f _ lesson hm listed =>
        obtain ⟨g, hg, hgp, hgs, htime⟩ := FactMove.keeps_flagTime hm ho hs hstate
        have hstored := (hcur.fact g hg).1
        rw [hgp, hp, hrow] at hstored
        cases hstored
        obtain ⟨hne, hpaused⟩ := hw _ _ hrow hgs
        have htime' : (g.saga.overwrite s c.env.now).fraudFlaggedAt = g.saga.fraudFlaggedAt := by
          show pgTime s.fraudFlaggedAt = _
          rw [htime, World.pausedAt?_rounded hpaused]
        rw [htime']
        exact ⟨hne, hpaused⟩

/-! The programs of the other handlers make only such calls. -/

/-- The discipline of the handlers other than that of a flag. -/
abbrev unflagged : Discipline SagaOp SagaOp.Ret SagaErr Knowledge :=
  (sagaDiscipline fun _ => True).limit KeepsFlagTime

variable {α : Type}

theorem unflagged_of_only {p : SagaProg α} (h : (sagaDiscipline fun _ => True).Follows Ends p k)
    (hp : p.Only SagaOp.OutOfReview) :
    unflagged.Follows Ends p k :=
  h.limit hp fun k _ ho => ho.keepsFlagTime k

theorem auditResult_outOfReview {eventID : String} {kind : FraudAuditKind}
    {details : AuditDetails} : (auditResult s eventID kind details).Only SagaOp.OutOfReview :=
  .bind (.perform trivial) fun _ => .perform trivial

/-- A result that is put off leaves the row in review as it was flagged. -/
theorem deferPaymentResult_unflagged {result : PaymentResult}
    {details : ResultOutcome → AuditDetails} (hs : s.state = .fraudReview)
    (hp : result.paymentID = s.paymentID) :
    unflagged.Follows Ends (deferPaymentResult s result details) ⟨some (.row s), []⟩ := by
  unfold deferPaymentResult
  split
  · split
    · exact unflagged_of_only auditResult_follows auditResult_outOfReview
    · exact unflagged_of_only auditResult_follows auditResult_outOfReview
  · rename_i hd
    simp only [Prog.perform_bind]
    refine .call ⟨.fact (.now _) [], trivial, fun _ _ h => by cases h⟩ (fun t _ => ?_)
      (fun _ => trivial)
    refine .call ⟨.fact (.writeDeferred hs hd hp t _) [], ?_⟩ (fun _ _ => .done trivial)
      (fun _ => trivial)
    constructor
    · intro h
      cases h
    · intro s' a h _ f hf
      obtain ⟨rfl, -⟩ := SagaOp.updateWithAudit.inj h
      cases hf
      rfl

theorem applyPaymentCompleted_unflagged {event : PaymentCompleted} (hs : Open s) :
    unflagged.Follows Ends (applyPaymentCompleted s event) ⟨some (.row s), []⟩ :=
  unflagged_of_only (applyPaymentCompleted_follows hs) <|
    .bind (.perform trivial) fun _ => .bind (.perform trivial) fun _ =>
      .bind (.perform trivial) fun _ =>
      .bind (.bind (.perform trivial) fun _ => .perform trivial) fun _ =>
      .bind (.perform trivial) fun _ => trivial

theorem applyPaymentFailed_unflagged {event : PaymentFailed} (hs : Open s) :
    unflagged.Follows Ends (applyPaymentFailed s event) ⟨some (.row s), []⟩ :=
  unflagged_of_only (applyPaymentFailed_follows hs) <|
    .bind (.perform trivial) fun _ => .bind (.perform trivial) fun _ =>
      .bind (.perform trivial) fun _ => .bind (.perform trivial) fun _ =>
      .bind (.perform trivial) fun _ => .bind (.perform trivial) fun _ =>
      .bind (.perform trivial) fun _ => .perform trivial

theorem handlePaymentCompleted_unflagged (event : PaymentCompleted) :
    unflagged.Follows Ends (handlePaymentCompleted event) ⟨none, []⟩ := by
  simp only [handlePaymentCompleted, Prog.perform_bind]
  refine .call ⟨.get _, trivial, fun _ _ h => by cases h⟩ (fun s hs => ?_) (fun _ => trivial)
  split
  · exact unflagged_of_only auditResult_follows auditResult_outOfReview
  · exact unflagged_of_only auditResult_follows auditResult_outOfReview
  · rename_i hstate
    exact deferPaymentResult_unflagged hstate (Eq.symm hs)
  · rename_i h₁ h₂ h₃
    exact applyPaymentCompleted_unflagged ⟨h₁, h₂, h₃⟩

theorem handlePaymentFailed_unflagged (event : PaymentFailed) :
    unflagged.Follows Ends (handlePaymentFailed event) ⟨none, []⟩ := by
  simp only [handlePaymentFailed, Prog.perform_bind]
  refine .call ⟨.get _, trivial, fun _ _ h => by cases h⟩ (fun s hs => ?_) (fun _ => trivial)
  split
  · exact unflagged_of_only auditResult_follows auditResult_outOfReview
  · exact unflagged_of_only auditResult_follows auditResult_outOfReview
  · rename_i hstate
    exact deferPaymentResult_unflagged hstate (Eq.symm hs)
  · rename_i h₁ h₂ h₃
    exact applyPaymentFailed_unflagged ⟨h₂, h₁, h₃⟩

theorem applyDeferredResult_unflagged (deferred : PaymentResult) {traceID : String}
    {f : Option Fact} {l : List Saga} :
    unflagged.Follows Ends (applyDeferredResult deferred traceID) ⟨f, l⟩ := by
  have hforget : Knowledge.le ⟨f, l⟩ ⟨none, []⟩ := (Knowledge.le.forget f l).trans (.drop none l)
  unfold applyDeferredResult
  split
  · exact (handlePaymentCompleted_unflagged _).weaken hforget
  · split
    · exact (handlePaymentFailed_unflagged _).weaken hforget
    · exact .fail trivial

theorem resumeFraudReview_unflagged (decision : FraudReviewDecision) :
    unflagged.Follows Ends (resumeFraudReview decision) ⟨none, []⟩ := by
  rw [resumeFraudReview, Prog.perform_bind]
  refine .call ⟨.get _, trivial, fun _ _ h => by cases h⟩ (fun s _ => ?_) (fun _ => trivial)
  split
  · exact .fail trivial
  · rename_i hs
    rw [Prog.perform_bind]
    refine .call ⟨.fact (.now _) [], trivial, fun _ _ h => by cases h⟩ (fun t _ => ?_)
      (fun _ => trivial)
    rw [Prog.perform_bind]
    refine .call ⟨.fact (.writeResumed (Decidable.not_not.mp hs) t _) [],
      SagaOp.OutOfReview.keepsFlagTime (o := .updateWithAudit _ _) (fun h => by cases h) _⟩
      (fun s' _ => ?_) (fun _ => trivial)
    split
    · exact .done trivial
    · rename_i deferred _
      refine (applyDeferredResult_unflagged deferred).bind (fun _ _ _ => ?_) (fun _ _ _ => trivial)
      exact unflagged_of_only follows_get (.perform trivial)

theorem rejectFraudReview_outOfReview (decision : FraudReviewDecision) :
    (rejectFraudReview decision).Only SagaOp.OutOfReview := by
  refine .bind (.perform trivial) fun s => ?_
  split
  · trivial
  · exact .bind (.perform trivial) fun _ => .bind (.perform fun h => by cases h) fun _ =>
      .bind ((resumeCompensation_unaudited true).imp fun _ h => h.outOfReview) fun _ =>
        .perform trivial

variable {ttl : Int} {time : Time} {expired : Nat}

theorem expireEach_outOfReview (sagas : List Saga) {failures : List (String × SagaErr)} :
    (expireEach ttl time sagas expired failures).Only SagaOp.OutOfReview := by
  induction sagas generalizing expired failures with
  | nil => trivial
  | cons s rest ih =>
    unfold expireEach
    split
    · refine .bind (.attempt (rejectFraudReview_outOfReview _)) fun answer => ?_
      split
      · exact ih
      · exact ih
      · exact ih
    · exact ih

variable {q : SagaRequest}

theorem handler_unflagged (hq : ∀ event, q ≠ .fraudFlagged event) :
    unflagged.Follows Ends q.handler ⟨none, []⟩ := by
  have hfollows : (sagaDiscipline fun _ => True).Follows Ends q.handler ⟨none, []⟩ :=
    handler_follows q fun _ _ => trivial
  cases q with
  | fraudFlagged event => exact absurd rfl (hq event)
  | start req =>
    exact unflagged_of_only hfollows
      ((handler_unaudited (.inl ⟨req, rfl⟩)).imp fun _ h => h.outOfReview)
  | paymentCompleted event => exact handlePaymentCompleted_unflagged event
  | paymentFailed event => exact handlePaymentFailed_unflagged event
  | resumeReview decision =>
    exact (resumeFraudReview_unflagged decision).bind (fun _ _ _ => .done trivial)
      fun _ _ _ => trivial
  | rejectReview decision =>
    exact unflagged_of_only hfollows (.bind (rejectFraudReview_outOfReview decision) fun _ =>
      trivial)
  | expireReviews ttl =>
    refine unflagged_of_only hfollows (.bind ?_ fun _ => trivial)
    unfold expireFraudReviews
    split
    · trivial
    · exact .bind (.perform trivial) fun sagas =>
        .bind (.perform trivial) fun _ => expireEach_outOfReview sagas
  | resumeNonTerminal =>
    exact unflagged_of_only hfollows
      ((handler_unaudited (.inr rfl)).imp fun _ h => h.outOfReview)

theorem handler_onTime (hq : ∀ event, q ≠ .fraudFlagged event) (hk : w.Keyed) (cs : List (Choice U))
    (hw : w.OnTime) : (q.handler.runFor (sagaMachine U) cs w).OnTime := by
  have hboth : (q.handler.runFor (sagaMachine U) cs w).Keyed ∧
      KeepsOnTime w (q.handler.runFor (sagaMachine U) cs w) :=
    follows_serial (handler_unflagged hq) (fun _ h => h) (fun h h' hw => h' (h hw))
      (fun hm ho _ hcur hrun => hm.onTime ho hcur hrun) hk cs
  exact hboth.2 hw

/-! ## Flags -/

/-- A flag that puts its payment on hold says it occurred at the time its handler reads, and one
    that finds its payment on hold has the time of the stored flag. -/
def PunctualFlag (q : SagaRequest) (cs : List (Choice U)) (w : World U) : Prop :=
  match q with
  | .fraudFlagged event => ∀ row ∈ w.saga? event.paymentID,
    (row.state = .paymentProcessing → ∀ clock ∈ cs[1]?,
      pgTime event.occurredAt = pgTime clock.clock ∧ pgTime event.occurredAt ≠ 0) ∧
    (row.state = .fraudReview → pgTime event.occurredAt = row.fraudFlaggedAt)
  | _ => True

instance (q : SagaRequest) (cs : List (Choice U)) (w : World U) :
    Decidable (PunctualFlag q cs w) :=
  match q with
  | .fraudFlagged event =>
    inferInstanceAs (Decidable (∀ row ∈ w.saga? event.paymentID,
      (row.state = .paymentProcessing → ∀ clock ∈ cs[1]?, _ ∧ _) ∧ (_ → _)))
  | .start _ | .paymentCompleted _ | .paymentFailed _ | .resumeReview _ | .rejectReview _
  | .expireReviews _ | .resumeNonTerminal => .isTrue trivial

omit [UuidLib U] in
/-- A write leaves the rows of the other payments. -/
theorem World.saga?_afterWrite_of_ne (hrow : w.saga? s.paymentID = some row)
    (hne : paymentID ≠ s.paymentID) (now : Time) (events : List OutboxRecord)
    (audit : Option FraudAuditRecord) :
    (w.afterWrite now s events audit).saga? paymentID = w.saga? paymentID := by
  rw [World.saga?_write (World.write_eq hrow now events audit)]
  cases hother : w.saga? paymentID with
  | none => rfl
  | some other =>
    rw [Option.map_some, if_neg]
    rw [(World.saga?_some hother).2]
    exact hne

/-- The time of a flag with a time. -/
theorem pgTime_flagged {occurredAt : Time} (h : pgTime occurredAt ≠ 0) (time : Time) :
    pgTime (nonZeroTime occurredAt time) = pgTime occurredAt := by
  rw [nonZeroTime, if_neg]
  rintro rfl
  exact h rfl

omit [UuidLib U] in
/-- A write keeps reviews on time if it does so with its own row. -/
theorem World.OnTime.afterWrite (hw : w.OnTime) (row : Saga)
    (hrow : w.saga? s.paymentID = some row) {now : Time}
    {events : List OutboxRecord} {audit : Option FraudAuditRecord}
    (hown : s.state = .fraudReview → pgTime s.fraudFlaggedAt ≠ 0 ∧
      (w.afterWrite now s events audit).pausedAt? s.paymentID = some (pgTime s.fraudFlaggedAt))
    (hothers : ∀ p, p ≠ s.paymentID → events.filterMap (·.pausedAt? p) = []) :
    (w.afterWrite now s events audit).OnTime := by
  intro p row' hrow' hstate
  by_cases hp : p = s.paymentID
  · subst hp
    rw [World.saga?_afterWrite hrow] at hrow'
    cases hrow'
    exact hown hstate
  · rw [World.saga?_afterWrite_of_ne hrow hp] at hrow'
    rw [World.pausedAt?_append rfl (hothers p hp)]
    exact hw p row' hrow' hstate

omit [UuidLib U] in
theorem Delivered.onTime {event : FraudFlagged} {cs : List (Choice U)}
    (h : Delivered event w cs w') (hflag : PunctualFlag (.fraudFlagged event) cs w)
    (hw : w.OnTime) : w'.OnTime := by
  cases h with
  | nothing _ hsagas hdb =>
    intro paymentID row hrow hstate
    rw [World.saga?, hsagas] at hrow
    rw [World.pausedAt?, hdb]
    exact hw paymentID row hrow hstate
  | @held row hvalid hrow hstate read clock write rest =>
    -- the flag and the `tx.paused` row have one time
    obtain ⟨htime, hne⟩ := (hflag row hrow).1 hstate clock rfl
    rw [← (World.saga?_some hrow).2] at hrow
    refine hw.afterWrite row ?_ (fun _ => ?_) fun p hp => ?_
    · exact hrow
    · rw [show pgTime (withFraudMetadata row event clock.clock).fraudFlaggedAt = pgTime clock.clock
        from (pgTime_flagged hne _).trans htime]
      refine ⟨htime ▸ hne, ?_⟩
      simp [World.pausedAt?, World.afterWrite, OutboxRecord.pausedAt?, txPausedRecord,
        withFraudMetadata]
    · have hother : row.paymentID ≠ p := Ne.symm hp
      simp [OutboxRecord.pausedAt?, txPausedRecord, withFraudMetadata, hother]
  | @marked row hrow hstate read clock write rest =>
    have hflag := (hflag row hrow).2
    rw [← (World.saga?_some hrow).2] at hrow
    refine hw.afterWrite row ?_ (fun hreview => ?_) fun _ _ => rfl
    · exact hrow
    obtain ⟨hne, hbegan⟩ := hw _ _ hrow hreview
    have hsame := hflag hreview
    rw [← hsame] at hne hbegan
    rw [show pgTime (withFraudMetadata row event clock.clock).fraudFlaggedAt =
      pgTime event.occurredAt from pgTime_flagged hne _]
    exact ⟨hne, (World.pausedAt?_append rfl rfl).trans hbegan⟩

/-- In a run of punctual flags every stored review began when its flag says. -/
theorem oneAtATime_onTime (hk : w.Keyed) (hw : w.OnTime)
    {reqs : List (SagaRequest × List (Choice U))}
    (hflags : SerialMeets (sagaMachine U) SagaRequest.handler PunctualFlag reqs w) :
    (oneAtATime w reqs).Keyed ∧ (oneAtATime w reqs).OnTime := by
  refine hflags.inv (I := fun w => w.Keyed ∧ w.OnTime) (fun q cs v hflag hv => ?_) ⟨hk, hw⟩
  refine ⟨handler_keyed q hv.1 cs, ?_⟩
  by_cases hq : ∃ event, q = .fraudFlagged event
  · obtain ⟨event, rfl⟩ := hq
    exact (handleFraudFlagged_delivered event cs).onTime hflag hv.2
  · exact handler_onTime (fun event he => hq ⟨event, he⟩) hv.1 cs hv.2

/-! ## What the reaper does when no call fails -/

/-- A program whose calls are all answered. -/
abbrev Answered {α : Type} (post : Except SagaErr α → World U → Prop) (p : SagaProg α) (seen : Seen)
    (w : World U) : Prop :=
  (Contract.answering (M := sagaMachine U)).Holds (fun r _ w => post r w) p seen w

/-- The row of the payment is `row`, and the others are as in `w₀`. -/
structure Rows (w₀ : World U) (row : Saga) (w : World U) : Prop where
  own : w.saga? row.paymentID = some row
  others : ∀ paymentID, paymentID ≠ row.paymentID → w.saga? paymentID = w₀.saga? paymentID

theorem run_of_exec_ok (h : o.exec c w = (.ok a, w')) :
    o.run c w = (.ok a, w') := by
  rcases exec_outcome c o w with ⟨e, he⟩ | ⟨b, v, hrun, he | ⟨e, he⟩⟩
  · cases he.symm.trans h
  · obtain ⟨hb, rfl⟩ := Prod.mk.inj (he.symm.trans h)
    rw [hrun, hb]
  · cases he.symm.trans h

theorem Rows.elsewhere (hr : Rows w₀ row w) (ho : o.Elsewhere) (h : o.exec c w = (.ok a, w')) :
    Rows w₀ row w' := by
  have hsagas := run_sagas (run_of_exec_ok h) ho
  constructor
  · rw [World.saga?, hsagas]
    exact hr.own
  · intro paymentID hne
    rw [World.saga?, hsagas]
    exact hr.others paymentID hne

variable {post : Except SagaErr α → World U → Prop}

/-- A call that writes no row. -/
theorem Rows.call {f : o.Ret → SagaProg α} (hr : Rows w₀ row w) (ho : o.Elsewhere)
    (h : ∀ a seen w, Rows w₀ row w → Answered post (f a) seen w) :
    Answered post (.perform o >>= f) seen w :=
  .answering_call fun _ a _ hexec => h a _ _ (hr.elsewhere ho hexec)

omit [UuidLib U] in
theorem Rows.wrote {now : Time} {events : List OutboxRecord} {audit : Option FraudAuditRecord}
    {a : Saga} (hr : Rows w₀ row w) (hp : s.paymentID = row.paymentID)
    (h : w.write now s events audit = .ok (a, w')) :
    a = row.overwrite s now ∧ Rows w₀ a w' := by
  have hrow : w.saga? s.paymentID = some row := by
    rw [hp]
    exact hr.own
  obtain ⟨stored, hstored, rfl, rfl⟩ := World.write_ok h
  cases hrow.symm.trans hstored
  refine ⟨rfl, ?_, fun p hne => ?_⟩
  · have hown := World.saga?_afterWrite hrow now events audit
    rw [hp] at hown
    exact hown
  · rw [World.saga?_afterWrite_of_ne hrow (by rw [hp]; exact hne)]
    exact hr.others p hne

variable {f : Saga → SagaProg α}

theorem Rows.update (hr : Rows w₀ row w) (hp : s.paymentID = row.paymentID)
    (h : ∀ time seen w, Rows w₀ (row.overwrite s time) w →
      Answered post (f (row.overwrite s time)) seen w) :
    Answered post (Orchestrator.update s >>= f) seen w := by
  refine .answering_call fun c a w' hexec => ?_
  obtain ⟨rfl, hr'⟩ := hr.wrote hp (commit_eq_ok.mp (run_of_exec_ok hexec))
  exact h _ _ _ hr'

theorem Rows.updateWithAudit {audit : FraudAuditRecord} (hr : Rows w₀ row w)
    (hp : s.paymentID = row.paymentID) (h : ∀ time seen w, Rows w₀ (row.overwrite s time) w →
      Answered post (f (row.overwrite s time)) seen w) :
    Answered post (Orchestrator.updateWithAudit s audit >>= f) seen w := by
  refine .answering_call fun c a w' hexec => ?_
  obtain ⟨rfl, hr'⟩ := hr.wrote hp (commit_eq_ok.mp (run_of_exec_ok hexec))
  exact h _ _ _ hr'

/-- The payment has ended as a rejected review, and the others are as in `w₀`. -/
def EndsRejected {α : Type} (w₀ : World U) (paymentID : String) (r : Except SagaErr α)
    (w : World U) : Prop :=
  r.isOk = true ∧ ∃ row, row.paymentID = paymentID ∧ Rows w₀ row w ∧ row.state = .failed ∧
    row.failureCode = failureCodeFraudRejected

theorem compensateWallet_answered (hr : Rows w₀ row w)
    (hcode : row.failureCode = failureCodeFraudRejected) :
    Answered (EndsRejected w₀ row.paymentID) (compensateWallet row) seen w := by
  refine hr.call trivial fun _ _ _ hr => ?_
  refine hr.call (o := .now) trivial fun t _ _ hr => ?_
  refine hr.update rfl fun _ _ _ hr => ?_
  refine hr.call (o := .now) trivial fun _ _ _ hr => ?_
  refine hr.call (o := .now) trivial fun _ _ _ hr => ?_
  rw [← Prog.bind_pure (enqueue _)]
  refine hr.call trivial fun _ _ _ hr => ?_
  exact .answering_done ⟨rfl, _, by rfl, hr, rfl, hcode⟩

theorem resumeCompensation_answered (hr : Rows w₀ row w)
    (hcode : row.failureCode = failureCodeFraudRejected) :
    Answered (EndsRejected w₀ row.paymentID) (resumeCompensation row true) seen w := by
  refine hr.call trivial fun _ _ _ hr => ?_
  refine hr.call (o := .now) trivial fun _ _ _ hr => ?_
  refine hr.update rfl fun _ _ _ hr => ?_
  exact compensateWallet_answered hr hcode

/-- The read of a stored row. -/
theorem Rows.get (hr : Rows w₀ row w) (h : ∀ seen, Answered post (f row) seen w) :
    Answered post (getByPaymentID row.paymentID >>= f) seen w := by
  refine .answering_call fun c a w' hexec => ?_
  obtain ⟨ha, rfl⟩ := Prod.mk.inj (run_of_exec_ok hexec)
  cases hr.own.symm.trans (World.getByPaymentID_eq_ok.mp ha)
  exact h _

/-- A rejection none of whose calls fails. -/
theorem rejectFraudReview_answered {decision : FraudReviewDecision}
    (hrow : w.saga? decision.paymentID = some row) (hstate : row.state = .fraudReview) :
    Answered (EndsRejected w decision.paymentID) (rejectFraudReview decision) seen w := by
  have hp := (World.saga?_some hrow).2
  rw [← hp] at hrow ⊢
  have hr : Rows w row w := ⟨hrow, fun _ _ => rfl⟩
  unfold rejectFraudReview
  rw [← hp]
  refine hr.get fun seen => ?_
  rw [if_neg (by simp [hstate])]
  refine hr.call (o := .now) trivial fun _ _ _ hr => ?_
  refine hr.updateWithAudit rfl fun _ _ _ hr => ?_
  refine (resumeCompensation_answered hr rfl).bind (fun _ seen v _ hends => ?_)
    fun _ _ _ _ hends => ?_
  · obtain ⟨-, row', hp', hr', hend⟩ := hends
    have hp' : row'.paymentID = row.paymentID := hp'
    rw [← Prog.bind_pure (getByPaymentID row.paymentID), ← hp']
    refine hr'.get fun _ => .answering_done ⟨rfl, row', rfl, hr', hend⟩
  · cases hends.1

/-- The listed rows that are due have ended as rejected reviews, and all others are as they
    were. -/
structure Swept (due : Saga → Prop) (sagas : List Saga) (w w' : World U) : Prop where
  rejected : ∀ s ∈ sagas, due s → ∃ row, w'.saga? s.paymentID = some row ∧ row.state = .failed ∧
    row.failureCode = failureCodeFraudRejected
  others : ∀ paymentID, (∀ s ∈ sagas, due s → s.paymentID ≠ paymentID) →
    w'.saga? paymentID = w.saga? paymentID

/-- The loop over the listed rows: each of them is still stored when its turn comes. -/
theorem expireEach_answered (sagas : List Saga)
    (hstored : ∀ s ∈ sagas, w.saga? s.paymentID = some s)
    (hdistinct : (sagas.map (·.paymentID)).Nodup) :
    Answered (fun r w' => (∃ n, r = .ok (n, [])) ∧ Swept (reviewExpired ttl time) sagas w w')
      (expireEach ttl time sagas expired []) seen w := by
  induction sagas generalizing w expired seen with
  | nil =>
    exact .answering_done ⟨⟨expired, rfl⟩, fun _ hs => absurd hs List.not_mem_nil, fun _ _ => rfl⟩
  | cons s rest ih =>
    obtain ⟨hs, hrest⟩ := List.forall_mem_cons.mp hstored
    obtain ⟨hnew, hdistinct⟩ := List.nodup_cons.mp hdistinct
    have hne : ∀ r ∈ rest, r.paymentID ≠ s.paymentID := fun r hr he =>
      hnew (List.mem_map.mpr ⟨r, hr, he⟩)
    unfold expireEach
    split
    · rename_i hdue
      have hends : Answered (EndsRejected w s.paymentID) (rejectFraudReview (expiryDecision ttl s))
          seen w := rejectFraudReview_answered hs hdue.1
      have hreject : Answered (fun r w' => ∃ r', r = .ok r' ∧ EndsRejected w s.paymentID r' w')
          (rejectFraudReview (expiryDecision ttl s)).attempt seen w :=
        .attempt (hends.mono fun r _ _ _ hr => ⟨r, rfl, hr⟩)
      refine hreject.bind (fun r seen v _ hends => ?_) fun _ _ _ _ hends => ?_
      · obtain ⟨r', hr', hok, row, hp, hrows, hend⟩ := hends
        obtain rfl := Except.ok.inj hr'
        obtain ⟨a, rfl⟩ := Except.isOk_iff.mp hok
        have hrest' : ∀ r ∈ rest, v.saga? r.paymentID = some r := fun r hr => by
          rw [hrows.others _ (by rw [hp]; exact hne r hr)]
          exact hrest r hr
        refine (ih hrest' hdistinct).mono fun r _ w' _ hpost => ⟨hpost.1, ?_, ?_⟩
        · intro s' hs' hdue'
          rcases List.mem_cons.mp hs' with rfl | hs'
          · refine ⟨row, ?_, hend⟩
            rw [hpost.2.others _ fun r hr _ => hne r hr, ← hp]
            exact hrows.own
          · exact hpost.2.rejected s' hs' hdue'
        · intro p hp'
          have hps : p ≠ row.paymentID := by
            rw [hp]
            exact (hp' s List.mem_cons_self hdue).symm
          rw [hpost.2.others p fun r hr => hp' r (List.mem_cons_of_mem _ hr), hrows.others p hps]
      · obtain ⟨r', hr', -⟩ := hends
        cases hr'
    · rename_i hdue
      refine (ih hrest hdistinct).mono fun r _ w' _ hpost => ⟨hpost.1, ?_, ?_⟩
      · intro s' hs' hdue'
        rcases List.mem_cons.mp hs' with rfl | hs'
        · exact absurd hdue' hdue
        · exact hpost.2.rejected s' hs' hdue'
      · exact fun p hp => hpost.2.others p fun r hr => hp r (List.mem_cons_of_mem _ hr)

/-! ## The deadline -/

/-- The review of the payment ends in a rejection. -/
def Rejects (paymentID : String) (w w' : World U) : Prop :=
  w.Held paymentID ∧ (w'.saga? paymentID).map (fun row => (row.state, row.failureCode)) =
    some (.failed, failureCodeFraudRejected)

instance (paymentID : String) (w w' : World U) : Decidable (Rejects paymentID w w') :=
  inferInstanceAs (Decidable (_ ∧ _ = _))

/-- The reaper runs to its end. -/
def reap (ttl : Int) (cs : Nat → Choice U) (w : World U) :
    Except SagaErr (Nat × List (String × SagaErr)) × World U :=
  (expireFraudReviews ttl).eval (sagaMachine U) cs w

/-- A reaper none of whose calls fails rejects the listed reviews whose stored flag is as old as
    the deadline. -/
theorem reap_swept (httl : 0 < ttl) (hk : w.Keyed) {cs : Nat → Choice U}
    (hcalls : (expireFraudReviews ttl).NoneFails (sagaMachine U) cs w) :
    (∃ n, (reap ttl cs w).1 = .ok (n, [])) ∧
      Swept (reviewExpired ttl (cs 1).clock) w.listNonTerminal w (reap ttl cs w).2 := by
  unfold reap
  rw [expireFraudReviews, if_neg (by omega), Prog.perform_bind] at hcalls ⊢
  obtain ⟨hlist, hcalls⟩ := hcalls
  -- the listing and the clock are answered, and then the loop starts on the stored rows
  have hfault : (cs 0).fault = .none := by
    obtain ⟨sagas, hsagas⟩ := Except.isOk_iff.mp hlist
    exact fault_of_exec_ok (o := .listNonTerminal) (by simp) hsagas
  have hexec : (sagaMachine U).exec (cs 0) .listNonTerminal w = (.ok w.listNonTerminal, w) := by
    rw [sagaMachine_exec, exec_none hfault]
    rfl
  rw [Prog.eval, hexec]
  rw [hexec] at hcalls
  have hloop : Answered (fun r w' => (∃ n, r = .ok (n, [])) ∧
      Swept (reviewExpired ttl (cs 1).clock) w.listNonTerminal w w')
      (expireEach ttl (cs 1).clock w.listNonTerminal 0 []) [] w :=
    expireEach_answered _ (fun s hs => hk.saga?_of_mem (World.mem_listNonTerminal.mp hs).1)
      (World.listNonTerminal_nodup hk.sagas)
  obtain ⟨-, hpost⟩ := hloop.answering_eval hcalls.2
  exact hpost

omit [UuidLib U] in
/-- The review of a payment is rejected if it is due, and its row is left alone otherwise. -/
theorem Swept.cases (h : Swept (reviewExpired ttl time) w.listNonTerminal w w') (hk : w.Keyed)
    (paymentID : String) :
    (Rejects paymentID w w' ∧ ∃ row, w.saga? paymentID = some row ∧ reviewExpired ttl time row) ∨
      (w'.saga? paymentID = w.saga? paymentID ∧
        ∀ row ∈ w.saga? paymentID, ¬ reviewExpired ttl time row) := by
  by_cases hdue : ∃ row, w.saga? paymentID = some row ∧ reviewExpired ttl time row
  · left
    obtain ⟨row, hrow, hdue⟩ := hdue
    obtain ⟨hmem, rfl⟩ := World.saga?_some hrow
    have hlisted : row ∈ w.listNonTerminal := World.mem_listNonTerminal.mpr ⟨hmem, by
      rw [hdue.1]
      rfl⟩
    obtain ⟨row', hrow', hstate, hcode⟩ := h.rejected row hlisted hdue
    refine ⟨⟨World.held_iff.mpr ⟨row, hrow, hdue.1⟩, ?_⟩, row, hrow, hdue⟩
    rw [hrow', Option.map_some, hstate, hcode]
  · right
    refine ⟨h.others paymentID fun s hs hsdue he => hdue ⟨s, ?_, hsdue⟩, fun row hrow h =>
      hdue ⟨row, hrow, h⟩⟩
    rw [← he]
    exact hk.saga?_of_mem (World.mem_listNonTerminal.mp hs).1

omit [UuidLib U] in
/-- When a review that is on time is due. -/
theorem World.OnTime.reviewExpired_iff (h : w.OnTime) (hrow : w.saga? paymentID = some row) :
    reviewExpired ttl time row ↔
      row.state = .fraudReview ∧ ∃ t ∈ w.pausedAt? paymentID, (t : Int) ≤ time - ttl := by
  refine and_congr_right fun hstate => ?_
  obtain ⟨hne, hpaused⟩ := h paymentID row hrow hstate
  rw [reviewStartedAt, if_pos hne]
  simp [hpaused]

/-- Handlers run one at a time from tables without a review, each up to where it stops, and every
    flag is punctual. Then a reaper none of whose calls fails reports no failure, rejects exactly
    the payments that are in review and came there at or before its clock minus the time to live,
    and changes no other row. -/
theorem deadline_from_entry (hk : w.Keyed) (hnone : ∀ paymentID, ¬ w.Held paymentID)
    {reqs : List (SagaRequest × List (Choice U))}
    (hflags : SerialMeets (sagaMachine U) SagaRequest.handler PunctualFlag reqs w) {ttl : Int}
    (httl : 0 < ttl) {cs : Nat → Choice U}
    (hcalls : (expireFraudReviews ttl).NoneFails (sagaMachine U) cs (oneAtATime w reqs)) :
    (∃ n, (reap ttl cs (oneAtATime w reqs)).1 = .ok (n, [])) ∧
    ∀ paymentID,
      (Rejects paymentID (oneAtATime w reqs) (reap ttl cs (oneAtATime w reqs)).2 ↔
        (oneAtATime w reqs).Held paymentID ∧ ∃ t ∈ (oneAtATime w reqs).pausedAt? paymentID,
          (t : Int) ≤ (cs 1).clock - ttl) ∧
      (¬ Rejects paymentID (oneAtATime w reqs) (reap ttl cs (oneAtATime w reqs)).2 →
        (reap ttl cs (oneAtATime w reqs)).2.saga? paymentID =
          (oneAtATime w reqs).saga? paymentID) := by
  have hstart : w.OnTime := fun paymentID row hrow hstate =>
    absurd (World.held_iff.mpr ⟨row, hrow, hstate⟩) (hnone paymentID)
  obtain ⟨hk', htime⟩ := oneAtATime_onTime hk hstart hflags
  obtain ⟨hresult, hswept⟩ := reap_swept httl hk' hcalls
  refine ⟨hresult, fun paymentID => ?_⟩
  rcases hswept.cases hk' paymentID with ⟨hrejects, row, hrow, hdue⟩ | ⟨hsame, hdue⟩
  · have hbegan := ((htime.reviewExpired_iff hrow).mp hdue).2
    exact ⟨iff_of_true hrejects ⟨hrejects.1, hbegan⟩, fun h => absurd hrejects h⟩
  · refine ⟨iff_of_false ?_ ?_, fun _ => hsame⟩
    · -- a row that is left alone is still in review
      rintro ⟨hheld, hend⟩
      obtain ⟨row, hrow, hstate⟩ := World.held_iff.mp hheld
      rw [hsame, hrow, Option.map_some] at hend
      cases hstate.symm.trans (Prod.mk.inj (Option.some.inj hend)).1
    · rintro ⟨hheld, hbegan⟩
      obtain ⟨row, hrow, hstate⟩ := World.held_iff.mp hheld
      exact hdue row hrow ((htime.reviewExpired_iff hrow).mpr ⟨hstate, hbegan⟩)

namespace Sample

/-- A flag of the sample payment that says it occurred at `time`. -/
def flaggedAt (time : Time) : FraudFlagged :=
  { flaggedEvent with occurredAt := time }

/-- The payment is started and flagged at the time 23000, by a flag that says it occurred at
    `time`. -/
def flaggedLate (time : Time) : List (SagaRequest × List (Choice CanonicalUuid)) :=
  [(.start startRequest, choices 0 20), (.fraudFlagged (flaggedAt time), choices 20 5)]

/-- A second flag, which says it occurred at `time`, finds the payment in review. -/
def flaggedAgain (time : Time) : List (SagaRequest × List (Choice CanonicalUuid)) :=
  flaggedLate 23000 ++ [(.fraudFlagged (flaggedAt time), choices 30 5)]

/-- The choices of a reaper whose clock shows 42000. -/
def reaperChoices (n : Nat) : Choice CanonicalUuid :=
  choice (39 + n)

end Sample

/-- A punctual flag that is delivered twice: the payment is rejected once its review is old
    enough. -/
theorem deadline_from_entry_rejected :
    Rejects (text Sample.paymentID) (oneAtATime Sample.world (Sample.flaggedAgain 23000))
      (reap 19000 Sample.reaperChoices
        (oneAtATime Sample.world (Sample.flaggedAgain 23000))).2 := by
  have hnone : ∀ paymentID, ¬ Sample.world.Held paymentID := fun _ h => by cases h
  have hcalls : (expireFraudReviews 19000).NoneFails (sagaMachine CanonicalUuid)
      Sample.reaperChoices (oneAtATime Sample.world (Sample.flaggedAgain 23000)) := by
    decide +kernel
  have hdue := deadline_from_entry Sample.world_keyed hnone (by decide +kernel) (by decide) hcalls
  exact (hdue.2 (text Sample.paymentID)).1.mpr (by decide +kernel)

/-- A flag that comes late has its payment rejected before the review is old enough, and a second
    flag keeps one in review that is. -/
theorem deadline_not_from_entry :
    ((expireFraudReviews 30000).NoneFails (sagaMachine CanonicalUuid) Sample.reaperChoices
        (oneAtATime Sample.world (Sample.flaggedLate 2000)) ∧
      Rejects (text Sample.paymentID) (oneAtATime Sample.world (Sample.flaggedLate 2000))
        (reap 30000 Sample.reaperChoices
          (oneAtATime Sample.world (Sample.flaggedLate 2000))).2 ∧
      (Sample.reaperChoices 1).clock = 42000 ∧
      (oneAtATime Sample.world (Sample.flaggedLate 2000)).pausedAt? (text Sample.paymentID) =
        some 23000) ∧
    ((expireFraudReviews 15000).NoneFails (sagaMachine CanonicalUuid) Sample.reaperChoices
        (oneAtATime Sample.world (Sample.flaggedAgain 30000)) ∧
      ¬ Rejects (text Sample.paymentID)
        (oneAtATime Sample.world (Sample.flaggedAgain 30000))
        (reap 15000 Sample.reaperChoices
          (oneAtATime Sample.world (Sample.flaggedAgain 30000))).2 ∧
      (oneAtATime Sample.world (Sample.flaggedAgain 30000)).Held (text Sample.paymentID) ∧
      (oneAtATime Sample.world (Sample.flaggedAgain 30000)).pausedAt? (text Sample.paymentID) =
        some 23000) := by
  decide +kernel

end EnjoyThings
