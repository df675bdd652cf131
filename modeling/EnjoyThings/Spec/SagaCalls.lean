import EnjoyThings.Spec.SagaProtocol

/-!
# The calls the handlers make

Facts about the programs alone, whatever the calls are answered. `UpdateWithOutboxAndAudit`
is the only call that takes a row into FRAUD_REVIEW, and only `HandleFraudFlagged` makes
it. A call that writes the record of a decision (`review_resumed` or `review_rejected`)
writes a row out of review with it. Starts and restarts write no audit record with a row.
-/

namespace EnjoyThings

open Effect Orchestrator

variable {U : Type} {w : World U} {s : Saga} {paymentID eventID : String}

/-! ## Under review -/

/-- The payment is under review. -/
def World.Held (w : World U) (paymentID : String) : Prop :=
  (w.saga? paymentID).map (·.state) = some .fraudReview

instance (w : World U) (paymentID : String) : Decidable (w.Held paymentID) :=
  inferInstanceAs (Decidable (_ = _))

/-- A step takes the payment into review. -/
def Enters (paymentID : String) (w w' : World U) : Prop :=
  ¬ w.Held paymentID ∧ w'.Held paymentID

instance (paymentID : String) (w w' : World U) : Decidable (Enters paymentID w w') :=
  inferInstanceAs (Decidable (_ ∧ _))

theorem World.held_iff : w.Held paymentID ↔
    ∃ row, w.saga? paymentID = some row ∧ row.state = .fraudReview :=
  Option.map_eq_some_iff

/-! ## The calls of the handlers -/

/-- The record of a decision on a review. -/
def FraudAuditKind.decides : FraudAuditKind → Bool
  | .reviewResumed | .reviewRejected => true
  | _ => false

/-- A write with the record of a decision takes its row out of review. -/
def SagaOp.DecidesOut : SagaOp → Prop
  | .updateWithAudit s a => a.kind.decides = true → s.state ≠ .fraudReview
  | _ => True

/-- The calls of the handlers other than that of a flag. -/
def SagaOp.HoldsNothing : SagaOp → Prop
  | .updateWithOutboxAndAudit _ _ _ => False
  | o => o.DecidesOut

theorem SagaOp.HoldsNothing.decidesOut {o : SagaOp} (h : o.HoldsNothing) : o.DecidesOut := by
  cases o with
  | updateWithOutboxAndAudit => exact h.elim
  | _ => exact h

/-- The calls that write no audit record with a row. -/
def SagaOp.Unaudited : SagaOp → Prop
  | .updateWithAudit _ _ | .updateWithOutboxAndAudit _ _ _ => False
  | _ => True

theorem SagaOp.Unaudited.holdsNothing {o : SagaOp} (h : o.Unaudited) : o.HoldsNothing := by
  cases o with
  | updateWithAudit | updateWithOutboxAndAudit => exact h.elim
  | _ => trivial

/-! ## Starts and restarts -/

/-- The calls of `advance`. -/
def SagaOp.Advances : SagaOp → Prop
  | .now | .getStatus _ | .debitForSaga _ | .reserveTransfer _ => True
  | .update _ | .updateWithOutbox _ _ => True
  | _ => False

theorem advance_advances : (advance s).Only SagaOp.Advances := by
  have hfail : ∀ s, (failUnverified s).Only SagaOp.Advances := fun s =>
    .bind (.perform trivial) fun _ => .bind (.perform trivial) fun _ => trivial
  refine .bind ?_ fun s => .bind ?_ fun s => .bind ?_ fun s => ?_
  · unfold checkVerification
    split
    · refine .bind (.attempt (.perform trivial)) fun answer => ?_
      split
      · exact hfail _
      · trivial
      · split
        · exact hfail _
        · exact .bind (.perform trivial) fun _ => .perform trivial
    · trivial
  · unfold debitWallet
    split
    · exact .bind (.perform trivial) fun _ => .bind (.perform trivial) fun _ => .perform trivial
    · trivial
  · unfold reserveLedger
    split
    · exact .bind (.perform trivial) fun _ => .bind (.perform trivial) fun _ => .perform trivial
    · trivial
  · unfold executePayment
    split
    · exact .bind (.perform trivial) fun _ => .perform trivial
    · trivial

theorem advance_unaudited : (advance s).Only SagaOp.Unaudited := by
  refine advance_advances.imp fun o ho => ?_
  cases o with
  | updateWithAudit | updateWithOutboxAndAudit => exact ho
  | _ => trivial

theorem resumeCompensation_unaudited (cancelLedger : Bool) :
    (resumeCompensation s cancelLedger).Only SagaOp.Unaudited := by
  have hwallet : ∀ s, (compensateWallet s).Only SagaOp.Unaudited := fun s =>
    .bind (.perform trivial) fun _ => .bind (.perform trivial) fun _ =>
      .bind (.perform trivial) fun _ => .bind (.perform trivial) fun _ =>
      .bind (.perform trivial) fun _ => .perform trivial
  unfold resumeCompensation
  split
  · exact .bind (.perform trivial) fun _ => .bind (.perform trivial) fun _ =>
      .bind (.perform trivial) hwallet
  · exact hwallet s

theorem resumeEach_unaudited (sagas : List Saga) :
    (resumeEach sagas).Only SagaOp.Unaudited := by
  induction sagas with
  | nil => trivial
  | cons s rest ih =>
    refine .bind ?_ fun _ => ih
    unfold resumeOne
    split
    · exact .bind (.perform trivial) fun _ =>
        .bind (.bind (.perform trivial) fun _ => .perform trivial) fun _ =>
        .bind (.perform trivial) fun _ => .bind (.perform trivial) fun _ => trivial
    · exact resumeCompensation_unaudited true
    · exact resumeCompensation_unaudited false
    · trivial
    · exact .bind advance_unaudited fun _ => trivial

theorem startPaymentSaga_unaudited (req : StartRequest) :
    (startPaymentSaga req).Only SagaOp.Unaudited := by
  refine .bind (.perform trivial) fun _ => .bind (.perform trivial) fun s => ?_
  split
  · trivial
  · exact advance_unaudited

/-- Starts and restarts write no audit record with a row. -/
theorem handler_unaudited {q : SagaRequest}
    (hq : (∃ req, q = .start req) ∨ q = .resumeNonTerminal) :
    q.handler.Only SagaOp.Unaudited := by
  rcases hq with ⟨req, rfl⟩ | rfl
  · exact .bind (startPaymentSaga_unaudited req) fun _ => trivial
  · exact .bind (.perform trivial) fun sagas => resumeEach_unaudited sagas

/-! ## The other handlers -/

/-- The programs that take no row into review. -/
abbrev NoHold {α : Type} (p : SagaProg α) : Prop :=
  p.Only SagaOp.HoldsNothing

theorem auditResult_noHold {kind : FraudAuditKind} {details : AuditDetails} :
    NoHold (auditResult s eventID kind details) :=
  .bind (.perform trivial) fun _ => .perform trivial

theorem deferPaymentResult_noHold {r : PaymentResult} {details : ResultOutcome → AuditDetails} :
    NoHold (deferPaymentResult s r details) := by
  unfold deferPaymentResult
  split
  · split
    · exact auditResult_noHold
    · exact auditResult_noHold
  · exact .bind (.perform trivial) fun _ => .bind (.perform fun h => by cases h) fun _ => trivial

theorem handlePaymentCompleted_noHold (event : PaymentCompleted) :
    NoHold (handlePaymentCompleted event) := by
  refine .bind (.perform trivial) fun s => ?_
  split
  · exact auditResult_noHold
  · exact auditResult_noHold
  · exact deferPaymentResult_noHold
  · exact .bind (.perform trivial) fun _ => .bind (.perform trivial) fun _ =>
      .bind (.perform trivial) fun _ =>
      .bind (.bind (.perform trivial) fun _ => .perform trivial) fun _ =>
      .bind (.perform trivial) fun _ => trivial

theorem handlePaymentFailed_noHold (event : PaymentFailed) :
    NoHold (handlePaymentFailed event) := by
  refine .bind (.perform trivial) fun s => ?_
  split
  · exact auditResult_noHold
  · exact auditResult_noHold
  · exact deferPaymentResult_noHold
  · exact .bind (.perform trivial) fun _ => .bind (.perform trivial) fun _ =>
      .bind (.perform trivial) fun _ => .bind (.perform trivial) fun _ =>
      .bind (.perform trivial) fun _ => .bind (.perform trivial) fun _ =>
      .bind (.perform trivial) fun _ => .perform trivial

theorem resumeFraudReview_noHold (decision : FraudReviewDecision) :
    NoHold (resumeFraudReview decision) := by
  refine .bind (.perform trivial) fun s => ?_
  split
  · trivial
  · refine .bind (.perform trivial) fun _ => .bind (.perform fun _ h => by cases h) fun _ => ?_
    split
    · trivial
    · refine .bind ?_ fun _ => .perform trivial
      unfold applyDeferredResult
      split
      · exact handlePaymentCompleted_noHold _
      · split
        · exact handlePaymentFailed_noHold _
        · trivial

theorem rejectFraudReview_noHold (decision : FraudReviewDecision) :
    NoHold (rejectFraudReview decision) := by
  refine .bind (.perform trivial) fun s => ?_
  split
  · trivial
  · exact .bind (.perform trivial) fun _ => .bind (.perform fun _ h => by cases h) fun _ =>
      .bind ((resumeCompensation_unaudited true).imp fun _ h => h.holdsNothing) fun _ =>
        .perform trivial

theorem expireEach_noHold {ttl : Int} {time : Time} (sagas : List Saga) {expired : Nat}
    {failures : List (String × SagaErr)} :
    NoHold (expireEach ttl time sagas expired failures) := by
  induction sagas generalizing expired failures with
  | nil => trivial
  | cons s rest ih =>
    unfold expireEach
    split
    · refine .bind (.attempt (rejectFraudReview_noHold _)) fun answer => ?_
      split
      · exact ih
      · exact ih
      · exact ih
    · exact ih

/-- Only the handler of a flag takes rows into review. -/
theorem handler_noHold {q : SagaRequest} (hq : ∀ event, q ≠ .fraudFlagged event) :
    NoHold q.handler := by
  cases q with
  | fraudFlagged event => exact absurd rfl (hq event)
  | start req =>
    exact (handler_unaudited (.inl ⟨req, rfl⟩)).imp fun _ h => h.holdsNothing
  | paymentCompleted event => exact handlePaymentCompleted_noHold event
  | paymentFailed event => exact handlePaymentFailed_noHold event
  | resumeReview decision => exact .bind (resumeFraudReview_noHold decision) fun _ => trivial
  | rejectReview decision => exact .bind (rejectFraudReview_noHold decision) fun _ => trivial
  | expireReviews ttl =>
    refine .bind ?_ fun _ => trivial
    unfold expireFraudReviews
    split
    · trivial
    · exact .bind (.perform trivial) fun sagas =>
        .bind (.perform trivial) fun _ => expireEach_noHold sagas
  | resumeNonTerminal => exact (handler_unaudited (.inr rfl)).imp fun _ h => h.holdsNothing

theorem handleFraudFlagged_decidesOut (event : FraudFlagged) :
    (handleFraudFlagged event).Only SagaOp.DecidesOut := by
  -- the record of a flag is not that of a decision
  have hkind : ∀ state, (fraudFlaggedAuditKind state).decides = false := by
    intro state
    cases state <;> rfl
  unfold handleFraudFlagged
  split
  · refine .bind (.attempt (.perform trivial)) fun answer => ?_
    split
    · exact .bind (.perform trivial) fun _ => .perform trivial
    · trivial
    · rename_i row
      refine .bind (.perform trivial) fun time => ?_
      split
      · exact .bind (.perform trivial) fun _ => trivial
      · refine .bind (.perform fun h => ?_) fun _ => trivial
        rw [show (fraudFlaggedAudit event row time).kind.decides = false from hkind _] at h
        cases h
  · trivial

/-- Every handler takes a row out of review with the record of a decision. -/
theorem handler_decidesOut (q : SagaRequest) : q.handler.Only SagaOp.DecidesOut := by
  by_cases hq : ∃ event, q = .fraudFlagged event
  · obtain ⟨event, rfl⟩ := hq
    exact handleFraudFlagged_decidesOut event
  · exact (handler_noHold fun event he => hq ⟨event, he⟩).imp fun _ h => h.decidesOut

end EnjoyThings
