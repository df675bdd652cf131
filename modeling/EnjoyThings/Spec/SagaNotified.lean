import EnjoyThings.Spec.SagaCalls
import EnjoyThings.Spec.SagaOutbox
import EnjoyThings.Spec.SagaSerial

/-!
# The end of a payment is announced

`tx.completed` is enqueued before COMPLETED is stored, so a completed saga is always
announced. `tx.failed` is enqueued after FAILED is stored, in a commit of its own: a
handler that stops in between leaves a failed saga that no redelivery and no restart
looks at again (`failure_never_announced`). If no handler stops there, a saga that fails
after a compensation is announced as well (`terminal_announced`).
-/

namespace EnjoyThings

open Effect Orchestrator
open Sample (choices world)

variable {U : Type} [UuidLib U] {w w' : World U} {s row : Saga} {c : Choice U}
  {paymentID : String} {α β : Type}

/-! ## Programs that announce a failure -/

/-- A program that enqueues `tx.failed` for the payment, after clock readings only. -/
inductive Announcing (paymentID : String) : SagaProg α → Prop
  | clock {k : Except SagaErr Time → SagaProg α} (h : ∀ t, Announcing paymentID (k (.ok t))) :
    Announcing paymentID (.call .now k)
  | enqueue {record : OutboxRecord} {k : Except SagaErr Unit → SagaProg α}
      (htopic : record.topic = .txFailed) (hrecord : record.announcesEnd paymentID = true) :
    Announcing paymentID (.call (.enqueue record) k)

/-- A program that stores a row, after clock readings only, and then announces the failure of
    its payment. -/
inductive Finishing : SagaProg α → Prop
  | clock {k : Except SagaErr Time → SagaProg α} (h : ∀ t, Finishing (k (.ok t))) :
    Finishing (.call .now k)
  | write {s : Saga} {k : Except SagaErr Saga → SagaProg α}
      (h : ∀ s', Announcing s'.paymentID (k (.ok s'))) : Finishing (.call (.update s) k)

/-- The call that gives the debited amount back. -/
def SagaOp.refunds : SagaOp → Prop
  | .compensateDebit _ => True
  | _ => False

/-- Programs that finish every compensation they make. -/
def FinishesRefunds : SagaProg α → Prop
  | .done _ | .fail _ => True
  | .call o k => (o.refunds → ∀ a, Finishing (k (.ok a))) ∧ ∀ r, FinishesRefunds (k r)

variable {p : SagaProg α}

theorem Announcing.bind (h : Announcing paymentID p) (f : α → SagaProg β) :
    Announcing paymentID (p >>= f) := by
  induction h with
  | clock h ih => exact .clock fun t => ih t
  | enqueue htopic hrecord => exact .enqueue htopic hrecord

theorem Announcing.attempt (h : Announcing paymentID p) :
    Announcing paymentID p.attempt := by
  induction h with
  | clock h ih => exact .clock fun t => ih t
  | enqueue htopic hrecord => exact .enqueue htopic hrecord

theorem Finishing.bind (h : Finishing p) (f : α → SagaProg β) :
    Finishing (p >>= f) := by
  induction h with
  | clock h ih => exact .clock fun t => ih t
  | write h => exact .write fun s' => (h s').bind f

theorem Finishing.attempt (h : Finishing p) : Finishing p.attempt := by
  induction h with
  | clock h ih => exact .clock fun t => ih t
  | write h => exact .write fun s' => (h s').attempt

variable {o : SagaOp}

namespace FinishesRefunds

theorem bind {f : α → SagaProg β} (hp : FinishesRefunds p) (hf : ∀ a, FinishesRefunds (f a)) :
    FinishesRefunds (p >>= f) := by
  induction p with
  | done a => exact hf a
  | fail e => trivial
  | call o k ih => exact ⟨fun ho a => (hp.1 ho a).bind f, fun r => ih r (hp.2 r)⟩

theorem attempt (hp : FinishesRefunds p) : FinishesRefunds p.attempt := by
  induction p with
  | done a => trivial
  | fail e => trivial
  | call o k ih => exact ⟨fun ho a => (hp.1 ho a).attempt, fun r => ih r (hp.2 r)⟩

theorem perform (ho : ¬ o.refunds) :
    FinishesRefunds (Prog.perform o : SagaProg o.Ret) := by
  refine ⟨fun h => absurd h ho, fun r => ?_⟩
  cases r <;> trivial

theorem of_only (hp : p.Only fun o => ¬ o.refunds) : FinishesRefunds p := by
  induction p with
  | done a => trivial
  | fail e => trivial
  | call o k ih => exact ⟨fun h => absurd h hp.1, fun r => ih r (hp.2 r)⟩

/-- A compensation and what follows it. -/
theorem refund {req : WalletCompensateRequest} {f : Unit → SagaProg α}
    (h : ∀ a, Finishing (f a)) (hf : ∀ a, FinishesRefunds (f a)) :
    FinishesRefunds (compensateDebit req >>= f) := by
  rw [Prog.perform_bind]
  refine ⟨fun _ a => h a, fun r => ?_⟩
  cases r with
  | ok a => exact hf a
  | error e => trivial

theorem publishTxFailed {traceID : String} {t : Time} :
    FinishesRefunds (publishTxFailed s traceID t) :=
  .bind (.perform id) fun _ => .perform id

theorem announcing_publishTxFailed {traceID : String} {t : Time} :
    Announcing s.paymentID (Orchestrator.publishTxFailed s traceID t) :=
  .clock fun _ => .enqueue rfl (decide_eq_true rfl)

theorem resumeCompensation {cancelLedger : Bool} :
    FinishesRefunds (resumeCompensation s cancelLedger) := by
  have hwallet : ∀ s, FinishesRefunds (compensateWallet s) := by
    intro s
    refine refund (fun _ => ?_) fun _ => ?_
    · exact .clock fun _ => .write fun _ => .clock fun _ => announcing_publishTxFailed
    · exact .bind (.perform id) fun _ => .bind (.perform id) fun _ =>
        .bind (.perform id) fun _ => publishTxFailed
  unfold Orchestrator.resumeCompensation
  split
  · exact .bind (.perform id) fun _ => .bind (.perform id) fun _ => .bind (.perform id) hwallet
  · exact hwallet s

theorem advance : FinishesRefunds (advance s) := by
  refine of_only (advance_advances.imp fun o ho => ?_)
  cases o with
  | compensateDebit => exact ho.elim
  | _ => exact id

theorem resumeEach (sagas : List Saga) : FinishesRefunds (resumeEach sagas) := by
  induction sagas with
  | nil => trivial
  | cons s rest ih =>
    refine .bind ?_ fun _ => ih
    unfold resumeOne
    split
    · exact .bind (.perform id) fun _ => .bind (.bind (.perform id) fun _ => .perform id) fun _ =>
        .bind (.perform id) fun _ => .bind (.perform id) fun _ => trivial
    · exact resumeCompensation
    · exact resumeCompensation
    · trivial
    · exact .bind advance fun _ => trivial

theorem auditResult {eventID : String} {kind : FraudAuditKind} {details : AuditDetails} :
    FinishesRefunds (auditResult s eventID kind details) :=
  .bind (.perform id) fun _ => .perform id

theorem deferPaymentResult {r : PaymentResult} {details : ResultOutcome → AuditDetails} :
    FinishesRefunds (deferPaymentResult s r details) := by
  unfold Orchestrator.deferPaymentResult
  split
  · split
    · exact auditResult
    · exact auditResult
  · exact .bind (.perform id) fun _ => .bind (.perform id) fun _ => trivial

theorem handlePaymentCompleted (event : PaymentCompleted) :
    FinishesRefunds (handlePaymentCompleted event) := by
  refine .bind (.perform id) fun s => ?_
  split
  · exact auditResult
  · exact auditResult
  · exact deferPaymentResult
  · exact .bind (.perform id) fun _ => .bind (.perform id) fun _ => .bind (.perform id) fun _ =>
      .bind (.bind (.perform id) fun _ => .perform id) fun _ =>
      .bind (.perform id) fun _ => trivial

theorem handlePaymentFailed (event : PaymentFailed) :
    FinishesRefunds (handlePaymentFailed event) := by
  refine .bind (.perform id) fun s => ?_
  split
  · exact auditResult
  · exact auditResult
  · exact deferPaymentResult
  · refine .bind (.perform id) fun _ => .bind (.perform id) fun _ => .bind (.perform id) fun _ =>
      .bind (.perform id) fun _ => refund (fun _ => ?_) fun _ => ?_
    · exact .write fun _ => announcing_publishTxFailed
    · exact .bind (.perform id) fun _ => publishTxFailed

theorem resumeFraudReview (decision : FraudReviewDecision) :
    FinishesRefunds (resumeFraudReview decision) := by
  refine .bind (.perform id) fun s => ?_
  split
  · trivial
  · refine .bind (.perform id) fun _ => .bind (.perform id) fun _ => ?_
    split
    · trivial
    · refine .bind ?_ fun _ => .perform id
      unfold applyDeferredResult
      split
      · exact handlePaymentCompleted _
      · split
        · exact handlePaymentFailed _
        · trivial

theorem rejectFraudReview (decision : FraudReviewDecision) :
    FinishesRefunds (rejectFraudReview decision) := by
  refine .bind (.perform id) fun s => ?_
  split
  · trivial
  · exact .bind (.perform id) fun _ => .bind (.perform id) fun _ =>
      .bind resumeCompensation fun _ => .perform id

theorem expireEach {ttl : Int} {time : Time} (sagas : List Saga) {expired : Nat}
    {failures : List (String × SagaErr)} :
    FinishesRefunds (expireEach ttl time sagas expired failures) := by
  induction sagas generalizing expired failures with
  | nil => trivial
  | cons s rest ih =>
    unfold Orchestrator.expireEach
    split
    · refine .bind (.attempt (rejectFraudReview _)) fun answer => ?_
      split
      · exact ih
      · exact ih
      · exact ih
    · exact ih

end FinishesRefunds

/-- Every handler finishes its compensations. -/
theorem handler_finishesRefunds (q : SagaRequest) : FinishesRefunds q.handler := by
  cases q with
  | start req =>
    refine .bind (.bind (.perform id) fun _ => .bind (.perform id) fun s => ?_) fun _ => trivial
    split
    · trivial
    · exact .advance
  | paymentCompleted event => exact .handlePaymentCompleted event
  | paymentFailed event => exact .handlePaymentFailed event
  | fraudFlagged event =>
    show FinishesRefunds (handleFraudFlagged event)
    unfold handleFraudFlagged
    split
    · refine .bind (.attempt (.perform id)) fun answer => ?_
      split
      · exact .bind (.perform id) fun _ => .perform id
      · trivial
      · refine .bind (.perform id) fun _ => ?_
        split
        · exact .bind (.perform id) fun _ => trivial
        · exact .bind (.perform id) fun _ => trivial
    · trivial
  | resumeReview decision => exact .bind (.resumeFraudReview decision) fun _ => trivial
  | rejectReview decision => exact .bind (.rejectFraudReview decision) fun _ => trivial
  | expireReviews ttl =>
    refine .bind ?_ fun _ => trivial
    unfold expireFraudReviews
    split
    · trivial
    · exact .bind (.perform id) fun sagas => .bind (.perform id) fun _ => .expireEach sagas
  | resumeNonTerminal => exact .bind (.perform id) fun sagas => .resumeEach sagas

/-! ## What a handler that runs alone knows -/

/-- What is known besides the copies: in which state a copy was when a service was asked, and
    that a completion is announced. -/
def Fact.Known (w : World U) : Fact → Prop
  | .unverified s => s.state = .started
  | .announced s => w.Announced .txCompleted s.paymentID
  | .compensated s => s.state = .compensatingWallet
  | _ => True

/-- Completed sagas are announced. -/
def World.CompletedAnnounced (w : World U) : Prop :=
  ∀ row ∈ w.sagas, row.state = .completed → w.Announced .txCompleted row.paymentID

variable {a : o.Ret}

theorem Fact.Known.run {f : Fact} (h : f.Known w) (hrun : o.run c w = (.ok a, w')) :
    f.Known w' := by
  cases f with
  | announced s => exact World.Announced.run h hrun
  | _ => exact h

variable {l : Knowledge}

omit [UuidLib U] in
/-- Forgetting leaves a fact, or a copy. -/
theorem Knowledge.le.fact {k : Knowledge} (hle : k.le l) {f : Fact} (hf : l.fact = some f) :
    k.fact = some f ∨ ∃ s, f = .row s := by
  induction hle with
  | refl => exact .inl hf
  | trans _ _ ih ih' =>
    rcases ih' hf with h | h
    · exact ih h
    · exact .inr h
  | forget => cases hf
  | drop => exact .inl hf
  | take s l => exact .inr ⟨s, (Option.some.inj hf).symm⟩

variable {f : Option Fact} {r : Except SagaErr o.Ret × World U}
  {lesson : Except SagaErr o.Ret → Option Fact}

/-- What a move teaches is known. -/
theorem FactMove.lesson_known (hm : FactMove f o lesson) (hf : ∀ g ∈ f, g.Known w)
    (hr : Outcome c o w r) :
    ∀ g ∈ lesson r.1, g.Known r.2 := by
  -- what was known before is known after
  have hkeep : ∀ g ∈ f, g.Known r.2 := by
    intro g hg
    rcases hr with ⟨e, rfl⟩ | ⟨a, w', hrun, rfl | ⟨e, rfl⟩⟩
    · exact hf g hg
    · exact (hf g hg).run hrun
    · exact (hf g hg).run hrun
  intro g hg
  cases hm with
  | now | audit => exact hkeep g hg
  | @verify s hs =>
    obtain ⟨r₁, w₁⟩ := r
    cases r₁ with
    | ok result =>
      simp only [verdict, Option.mem_def, Option.some.injEq] at hg
      split at hg
      · subst hg
        trivial
      · subst hg
        exact hs
    | error e =>
      cases e with
      | verificationNotFound =>
        cases hg
        exact hs
      | _ => cases hg
  | @announce s hs traceID t t' =>
    rcases hr with ⟨e, rfl⟩ | ⟨a, w', hrun, rfl | ⟨e, rfl⟩⟩
    · cases hg
    · cases hg
      refine ⟨txCompletedRecord s traceID t t', ?_, rfl, decide_eq_true rfl⟩
      rw [run_outbox hrun]
      exact List.mem_concat_self
    · cases hg
  | compensate hs =>
    obtain ⟨r₁, w₁⟩ := r
    cases r₁ with
    | ok a =>
      cases hg
      exact hs
    | error e => cases hg
  | announceFailed => cases hg
  | debit | reserve | confirm | cancel | writeChecked | writeUnverified | writeDebited
  | writeReserved | execute | writeConfirmed | writeCompleted | writeCompensating | writeRejected
  | writeCanceled | writeFailed | writeFlagged | writeMarked | writeResumed | writeDeferred =>
    obtain ⟨r₁, w₁⟩ := r
    cases r₁ with
    | ok a =>
      cases hg
      trivial
    | error e => cases hg

/-- A handler in the middle of its run, with what it knows. -/
structure Running (k : Knowledge) (p : SagaProg Unit) (w : World U) : Prop where
  keyed : w.Keyed
  follows : (sagaDiscipline fun _ => True).Follows Ends p k
  current : Current k [] w
  known : ∀ f ∈ k.fact, f.Known w
  finishes : FinishesRefunds p
  refunded : ∀ s, k.fact = some (.compensated s) → Finishing p

omit [UuidLib U] in
theorem Running.fresh (q : SagaRequest) (hk : w.Keyed) : Running ⟨none, []⟩ q.handler w where
  keyed := hk
  follows := handler_follows q fun _ _ => trivial
  current := .fresh
  known f hf := by cases hf
  finishes := handler_finishesRefunds q
  refunded s hs := by cases hs

/-- A handler learns that the debit is compensated from the answer of the wallet service. -/
theorem FactMove.lesson_compensated (hm : FactMove f o lesson) {r : Except SagaErr o.Ret}
    (hs : lesson r = some (.compensated s)) :
    (o.refunds ∧ ∃ a, r = .ok a) ∨
      f = some (.compensated s) ∧ (o = .now ∨ ∃ audit, o = .recordFraudAudit audit) := by
  cases hm with
  | now => exact .inr ⟨hs, .inl rfl⟩
  | audit => exact .inr ⟨hs, .inr ⟨_, rfl⟩⟩
  | verify =>
    cases r with
    | ok result =>
      simp only [verdict, Option.some.injEq] at hs
      split at hs <;> cases hs
    | error e => cases e <;> cases hs
  | compensate =>
    cases r with
    | ok a => exact .inl ⟨trivial, a, rfl⟩
    | error e => cases hs
  | announceFailed => cases hs
  | debit | reserve | confirm | cancel | announce | writeChecked | writeUnverified | writeDebited
  | writeReserved | execute | writeConfirmed | writeCompleted | writeCompensating | writeRejected
  | writeCanceled | writeFailed | writeFlagged | writeMarked | writeResumed | writeDeferred =>
    cases r with
    | ok a => cases hs
    | error e => cases hs

/-- A handler about to make a call, with what it makes it from. -/
structure Moving (l : Knowledge) (o : SagaOp) (f : Except SagaErr o.Ret → SagaProg Unit)
    (w : World U) : Prop where
  move : ∃ learn, Move (fun _ => True) l o learn
  current : Current l [] w
  known : ∀ g ∈ l.fact, g.Known w
  refunded : ∀ s, l.fact = some (.compensated s) → Finishing (.call o f)

/-- A handler makes its calls from what it knows, and knows what they teach. -/
theorem Running.moving {k : Knowledge} {f : Except SagaErr o.Ret → SagaProg Unit}
    (h : Running k (.call o f) w) (c : Choice U) :
    (∃ l, Moving l o f w) ∧ ∃ k', Running k' (f (o.exec c w).1) (o.exec c w).2 := by
  obtain ⟨l, learn, hle, hmove, hfollows⟩ := h.follows
  have hcurrent : Current l [] w := h.current.mono hle
  have hknown : ∀ g ∈ l.fact, g.Known w := by
    intro g hg
    rcases hle.fact hg with hg | ⟨s, rfl⟩
    · exact h.known g hg
    · trivial
  have hrefunded : ∀ s, l.fact = some (.compensated s) → Finishing (.call o f) := by
    intro s hs
    rcases hle.fact hs with hs | ⟨s', hs'⟩
    · exact h.refunded s hs
    · cases hs'
  have houtcome := exec_outcome c o w
  refine ⟨⟨l, ⟨learn, hmove⟩, hcurrent, hknown, hrefunded⟩, learn (o.exec c w).1, ?_⟩
  refine ⟨exec_keyed h.keyed, hfollows _ (exec_answer c o w),
    hmove.current h.keyed hcurrent [] houtcome, ?_, h.finishes.2 _, ?_⟩
  · cases hmove with
    | fact hm listed => exact hm.lesson_known hknown houtcome
    | get | create =>
      intro g hg
      generalize (SagaOp.exec c _ w).1 = r at hg
      cases r with
      | ok a =>
        cases hg
        trivial
      | error e => cases hg
    | list => exact fun g hg => by cases hg
  · intro s hs
    cases hmove with
    | fact hm listed =>
      rcases hm.lesson_compensated hs with ⟨ho, a, ha⟩ | ⟨hf, rfl | ⟨audit, rfl⟩⟩
      · rw [ha]
        exact h.finishes.1 ho a
      · cases hrefunded s hf with
        | clock hclock => exact hclock _
      · cases hrefunded s hf
    | get | create =>
      generalize (SagaOp.exec c _ w).1 = r at hs
      cases r with
      | ok a => cases hs
      | error e => cases hs
    | list => cases hs

/-! ## What the writes do to terminal states -/

/-- How a handler comes to write a row: in a state that is not the first or a last one, at one
    of the ends of a payment, or in the state of its copy. -/
inductive WritesFrom (f : Option Fact) (o : SagaOp) (s : Saga) : Prop
  | onward (h₁ : s.state ≠ .started) (h₂ : s.state ≠ .completed) (h₃ : s.state ≠ .failed)
  | completed {s₀ : Saga} (hf : f = some (.announced s₀)) (hp : s.paymentID = s₀.paymentID)
      (hs : s.state = .completed)
  | unverified {s₀ : Saga} (hf : f = some (.unverified s₀)) (hp : s.paymentID = s₀.paymentID)
      (hs : s.state = .failed)
  | failed {s₀ : Saga} (hf : f = some (.compensated s₀)) (hp : s.paymentID = s₀.paymentID)
      (hs : s.state = .failed) (ho : o = .update s)
  | copied {s₀ : Saga} (hf : f = some (.row s₀)) (hp : s.paymentID = s₀.paymentID)
      (hs : s.state = s₀.state)

theorem FactMove.writesFrom (hm : FactMove f o lesson) (hs : s ∈ o.row?) :
    WritesFrom f o s := by
  cases hm with
  | now | audit | verify | debit | reserve | confirm | announce | cancel | compensate
  | announceFailed => cases hs
  | writeCompleted =>
    cases hs
    exact .completed rfl rfl rfl
  | writeUnverified =>
    cases hs
    exact .unverified rfl rfl rfl
  | writeFailed =>
    cases hs
    exact .failed rfl rfl rfl rfl
  | writeMarked | writeDeferred =>
    cases hs
    exact .copied rfl rfl rfl
  | writeChecked | writeDebited | writeReserved | execute | writeConfirmed | writeCompensating
  | writeRejected | writeCanceled | writeFlagged | writeResumed =>
    cases hs
    exact .onward (by simp) (by simp) (by simp)

/-- A call keeps the completed sagas announced. -/
theorem Moving.completedAnnounced {f : Except SagaErr o.Ret → SagaProg Unit} (h : Moving l o f w)
    (hk : w.Keyed) (hc : w.CompletedAnnounced) (hrun : o.run c w = (.ok a, w')) :
    w'.CompletedAnnounced := by
  obtain ⟨learn, hmove⟩ := h.move
  intro row hmem hstate
  have hrow' := (run_grows hk hrun).1.saga?_of_mem hmem
  cases hrow : w.saga? row.paymentID with
  | none =>
    obtain ⟨s, rfl, hs⟩ := run_created hrun hrow hrow'
    cases hmove with
    | fact hm _ => exact absurd rfl (hm.ne_create s)
    | create req t _ => cases hs.symm.trans hstate
  | some row₀ =>
    rcases run_row hrun hrow with hsame | ⟨s, hs, hp, hwritten⟩
    · obtain rfl := Option.some.inj (hsame.symm.trans hrow')
      exact (hc row₀ (World.saga?_some hrow).1 hstate).run hrun
    · have hs' : s.state = .completed := by
        rw [Option.some.inj (hrow'.symm.trans hwritten)] at hstate
        exact hstate
      refine World.Announced.run ?_ hrun
      rw [← hp]
      cases hmove with
      | fact hm _ =>
        cases hm.writesFrom hs with
        | onward _ h₂ _ => exact absurd hs' h₂
        | completed hf hps _ =>
          rw [hps]
          exact h.known _ hf
        | unverified _ _ hsf => cases hs'.symm.trans hsf
        | failed _ _ hsf _ => cases hs'.symm.trans hsf
        | copied hf hps hcopy =>
          rw [hps]
          exact hc _ (World.saga?_some (h.current.fact _ hf).1).1 (hcopy.symm.trans hs')
      | get _ | create _ _ _ | list => cases hs

/-! ## A payment that is past its start -/

/-- The payment is past its start, and if it has failed, that is announced. -/
def World.FailureAnnounced (w : World U) (paymentID : String) : Prop :=
  ∃ row, w.saga? paymentID = some row ∧ row.state ≠ .started ∧
    (row.state = .failed → w.Announced .txFailed paymentID)

/-- The write that ends a compensation. -/
def SagaOp.EndsCompensation (w : World U) : SagaOp → Prop
  | .update s => s.state = .failed ∧
      (w.saga? s.paymentID).map (·.state) = some .compensatingWallet
  | _ => False

def SagaOp.enqueues : SagaOp → Bool
  | .enqueue _ => true
  | _ => false

/-- The calls up to the next enqueue are made and arrive. -/
def Enqueues : SagaProg Unit → List (Choice U) → World U → Prop
  | .call o k, c :: cs, w => c.fault ≠ .notDelivered ∧
      (o.enqueues = true ∨ Enqueues (k (o.exec c w).1) cs (o.exec c w).2)
  | _, _, _ => False

/-- The write that ends a compensation does not arrive, or it is answered and the handler gets to
    its enqueue. -/
def Uninterrupted : SagaProg Unit → List (Choice U) → World U → Prop
  | .call o k, c :: cs, w =>
    (o.EndsCompensation w → c.fault = .notDelivered ∨
      c.fault = .none ∧ Enqueues (k (o.exec c w).1) cs (o.exec c w).2) ∧
    Uninterrupted (k (o.exec c w).1) cs (o.exec c w).2
  | _, _, _ => True

instance (w : World U) : (o : SagaOp) → Decidable (o.EndsCompensation w)
  | .update _ => inferInstanceAs (Decidable (_ ∧ _))
  | .now | .create _ | .getByPaymentID _ | .listNonTerminal | .updateWithAudit _ _
  | .updateWithOutbox _ _ | .updateWithOutboxAndAudit _ _ _ | .recordFraudAudit _ | .getStatus _
  | .debitForSaga _ | .compensateDebit _ | .reserveTransfer _ | .confirmTransfer _
  | .cancelReservation _ | .enqueue _ => .isFalse id

instance Enqueues.decidable :
    (p : SagaProg Unit) → (cs : List (Choice U)) → (w : World U) → Decidable (Enqueues p cs w)
  | .done _, _, _ | .fail _, _, _ | .call _ _, [], _ => .isFalse id
  | .call o k, c :: cs, w =>
    have := Enqueues.decidable (k (o.exec c w).1) cs (o.exec c w).2
    inferInstanceAs (Decidable (_ ∧ (_ ∨ _)))

instance Uninterrupted.decidable : (p : SagaProg Unit) → (cs : List (Choice U)) →
    (w : World U) → Decidable (Uninterrupted p cs w)
  | .done _, _, _ | .fail _, _, _ | .call _ _, [], _ => .isTrue trivial
  | .call o k, c :: cs, w =>
    have := Uninterrupted.decidable (k (o.exec c w).1) cs (o.exec c w).2
    inferInstanceAs (Decidable ((_ → _) ∧ _))

/-- The failure of the payment is stored, and the handler gets to announce it. -/
def AnnouncementDue (paymentID : String) (p : SagaProg Unit) (cs : List (Choice U))
    (w : World U) : Prop :=
  (∃ row, w.saga? paymentID = some row ∧ row.state = .failed) ∧
    Announcing paymentID p ∧ Enqueues p cs w

omit [UuidLib U] in
theorem World.FailureAnnounced.of_row (hrow : w'.saga? paymentID = some row)
    (h₁ : row.state ≠ .started) (h₂ : row.state ≠ .failed) : w'.FailureAnnounced paymentID :=
  ⟨row, hrow, h₁, fun h => absurd h h₂⟩

variable {cs : List (Choice U)}

/-- A call by a handler that runs alone leaves the failure of a payment announced, or its
    announcement due. -/
theorem Moving.failureAnnounced {f : Except SagaErr o.Ret → SagaProg Unit} (h : Moving l o f w)
    (hun : Uninterrupted (.call o f) (c :: cs) w) (hw : w.FailureAnnounced paymentID) :
    (o.exec c w).2.FailureAnnounced paymentID ∨
      AnnouncementDue paymentID (f (o.exec c w).1) cs (o.exec c w).2 := by
  obtain ⟨learn, hmove⟩ := h.move
  obtain ⟨row, hrow, hstarted, hfailed⟩ := hw
  -- the call leaves everything as it is, or takes effect
  have heffect : (o.exec c w).2 = w ∨ ∃ a w', o.run c w = (.ok a, w') ∧ (o.exec c w).2 = w' :=
    exec_world (.inl rfl) fun a w' hrun => .inr ⟨a, w', hrun, rfl⟩
  rcases heffect with hsame | ⟨a, w', hrun, hw'⟩
  · left
    rw [hsame]
    exact ⟨row, hrow, hstarted, hfailed⟩
  rcases run_row hrun hrow with hkept | ⟨s, hs, hp, hwritten⟩
  · left
    rw [hw']
    exact ⟨row, hkept, hstarted, fun hf => (hfailed hf).run hrun⟩
  subst hp
  cases hmove with
  | get _ | create _ _ _ | list => cases hs
  | fact hm _ =>
    cases hm.writesFrom hs with
    | onward h₁ _ h₃ =>
      left
      rw [hw']
      exact .of_row hwritten h₁ h₃
    | completed _ _ hstate =>
      left
      rw [hw']
      refine .of_row hwritten ?_ ?_
      all_goals
        show s.state ≠ _
        rw [hstate]
        decide
    | @unverified s₀ hf hps _ =>
      -- the stored row would be STARTED
      have hstored := (h.current.fact _ hf).1
      rw [show (Fact.unverified s₀).saga = s₀ from rfl, ← hps, hrow] at hstored
      rw [Option.some.inj hstored] at hstarted
      exact absurd (h.known _ hf) hstarted
    | @failed s₀ hf hps hstate ho =>
      subst ho
      have hstored := (h.current.fact _ hf).1
      rw [show (Fact.compensated s₀).saga = s₀ from rfl, ← hps] at hstored
      have hends : (SagaOp.update s).EndsCompensation w :=
        ⟨hstate, by rw [hstored]; exact congrArg some (h.known _ hf)⟩
      rcases hun.1 hends with hfault | ⟨hfault, henqueues⟩
      · left
        rw [exec_notDelivered (by simp) hfault]
        exact ⟨row, hrow, hstarted, hfailed⟩
      · right
        rw [exec_none hfault, hrun] at henqueues ⊢
        have hid : a.paymentID = s.paymentID :=
          (World.write_wrote (commit_eq_ok.mp hrun)).written.paymentID_eq
        refine ⟨⟨_, hwritten, hstate⟩, ?_, henqueues⟩
        cases h.refunded _ hf with
        | write hnext => exact hid ▸ hnext a
    | @copied s₀ hf hps hcopy =>
      have hstored := (h.current.fact _ hf).1
      rw [show (Fact.row s₀).saga = s₀ from rfl, ← hps, hrow] at hstored
      cases hstored
      left
      rw [hw']
      refine ⟨_, hwritten, fun hs => hstarted (hcopy.symm.trans hs), fun hs => ?_⟩
      exact (hfailed (hcopy.symm.trans hs)).run hrun

/-- The announcement that is due is made. -/
theorem AnnouncementDue.step {f : Except SagaErr o.Ret → SagaProg Unit}
    (h : AnnouncementDue paymentID (.call o f) (c :: cs) w) :
    (o.exec c w).2.FailureAnnounced paymentID ∨
      AnnouncementDue paymentID (f (o.exec c w).1) cs (o.exec c w).2 := by
  obtain ⟨⟨row, hrow, hstate⟩, hannouncing, henqueues⟩ := h
  cases hannouncing with
  | clock hnext => exact .inr ⟨⟨row, hrow, hstate⟩, hnext _, henqueues.2.resolve_left (by decide)⟩
  | enqueue htopic hrecord =>
    left
    rw [exec_delivered henqueues.1]
    refine ⟨row, hrow, by rw [hstate]; decide, fun _ => ⟨_, ?_, htopic, hrecord⟩⟩
    exact List.mem_concat_self

/-- A handler that runs alone and is not interrupted between storing a failure and announcing it
    leaves the failure announced, wherever else it stops. -/
theorem Running.failureAnnounced {k : Knowledge} {p : SagaProg Unit} (h : Running k p w)
    (hun : Uninterrupted p cs w)
    (hw : w.FailureAnnounced paymentID ∨ AnnouncementDue paymentID p cs w) :
    (p.runFor (sagaMachine U) cs w).FailureAnnounced paymentID := by
  induction cs generalizing k p w with
  | nil =>
    rw [Prog.runFor_nil]
    rcases hw with hw | ⟨-, hannouncing, henqueues⟩
    · exact hw
    · cases hannouncing with
      | clock | enqueue => exact henqueues.elim
  | cons c cs ih =>
    cases p with
    | done a =>
      rcases hw with hw | ⟨-, hannouncing, -⟩
      · exact hw
      · cases hannouncing
    | fail e =>
      rcases hw with hw | ⟨-, hannouncing, -⟩
      · exact hw
      · cases hannouncing
    | call o f =>
      obtain ⟨⟨l, hmoving⟩, k', hnext⟩ := h.moving c
      refine ih hnext hun.2 ?_
      rcases hw with hw | hdue
      · exact hmoving.failureAnnounced hun hw
      · exact hdue.step

/-- A handler that runs alone keeps the completed sagas announced, wherever it stops. -/
theorem Running.completedAnnounced {k : Knowledge} {p : SagaProg Unit} (h : Running k p w)
    (hw : w.CompletedAnnounced) :
    (p.runFor (sagaMachine U) cs w).CompletedAnnounced := by
  induction cs generalizing k p w with
  | nil => rwa [Prog.runFor_nil]
  | cons c cs ih =>
    cases p with
    | done a => exact hw
    | fail e => exact hw
    | call o f =>
      obtain ⟨⟨l, hmoving⟩, k', hnext⟩ := h.moving c
      refine ih hnext ?_
      exact exec_world hw fun _ _ hrun => hmoving.completedAnnounced h.keyed hw hrun

/-! ## Runs -/

variable {reqs : List (SagaRequest × List (Choice U))}

theorem oneAtATime_completedAnnounced (hk : w.Keyed) (hw : w.CompletedAnnounced) :
    (oneAtATime w reqs).CompletedAnnounced := by
  induction reqs generalizing w with
  | nil => exact hw
  | cons r rest ih =>
    exact ih (handler_keyed r.1 hk r.2) ((Running.fresh r.1 hk).completedAnnounced hw)

theorem oneAtATime_failureAnnounced (hk : w.Keyed)
    (hun : SerialMeets (sagaMachine U) SagaRequest.handler (Uninterrupted ·.handler) reqs w)
    (hw : w.FailureAnnounced paymentID) : (oneAtATime w reqs).FailureAnnounced paymentID := by
  induction reqs generalizing w with
  | nil => exact hw
  | cons r rest ih =>
    exact ih (handler_keyed r.1 hk r.2) hun.2
      ((Running.fresh r.1 hk).failureAnnounced hun.1 (.inl hw))

/-- From any point inside a handler's run at which the payment is past its start. -/
theorem Running.failureAnnounced_from {k : Knowledge} {p : SagaProg Unit} {cs' : List (Choice U)}
    (h : Running k p w) (hun : Uninterrupted p (cs ++ cs') w)
    (hrow : (p.runFor (sagaMachine U) cs w).saga? paymentID = some row) (h₁ : row.state ≠ .started)
    (h₂ : row.state ≠ .failed) :
    (p.runFor (sagaMachine U) (cs ++ cs') w).FailureAnnounced paymentID := by
  induction cs generalizing k p w with
  | nil =>
    rw [Prog.runFor_nil] at hrow
    exact h.failureAnnounced hun (.inl (.of_row hrow h₁ h₂))
  | cons c cs ih =>
    cases p with
    | done a => exact .of_row hrow h₁ h₂
    | fail e => exact .of_row hrow h₁ h₂
    | call o f =>
      obtain ⟨-, k', hnext⟩ := h.moving c
      exact ih hnext hun.2 hrow

/-- The end of a payment is announced: in every run of handlers one at a time, wherever each of
    them stops, a saga that is stored as COMPLETED when no handler is in progress has a
    `tx.completed` row. If no handler is interrupted between storing the end of a compensation
    and the enqueue after it, a saga that has been in COMPENSATING_WALLET at any point of the
    run, in the middle of a handler or not, and is FAILED in the end has a `tx.failed` row. -/
theorem terminal_announced (hk : w.Keyed) (hw : w.CompletedAnnounced)
    (reqs : List (SagaRequest × List (Choice U))) :
    (oneAtATime w reqs).CompletedAnnounced ∧
      (SerialMeets (sagaMachine U) SagaRequest.handler (Uninterrupted ·.handler) reqs w →
        ∀ before q cs cs' after, reqs = before ++ (q, cs ++ cs') :: after →
          ∀ paymentID row row',
            (oneAtATime w (before ++ [(q, cs)])).saga? paymentID = some row →
            row.state = .compensatingWallet →
            (oneAtATime w reqs).saga? paymentID = some row' → row'.state = .failed →
            (oneAtATime w reqs).Announced .txFailed paymentID) := by
  refine ⟨oneAtATime_completedAnnounced hk hw, ?_⟩
  rintro hun before q cs cs' after rfl paymentID row row' hrow hstate hrow' hfailed
  suffices h : (oneAtATime w (before ++ (q, cs ++ cs') :: after)).FailureAnnounced paymentID by
    obtain ⟨r, hr, -, hannounced⟩ := h
    cases hr.symm.trans hrow'
    exact hannounced hfailed
  clear hrow' hw
  induction before generalizing w with
  | nil =>
    have hhandler := (Running.fresh q hk).failureAnnounced_from hun.1 hrow
      (by rw [hstate]; decide) (by rw [hstate]; decide)
    have hrest := oneAtATime_failureAnnounced (handler_keyed q hk (cs ++ cs')) hun.2 hhandler
    exact hrest
  | cons r before ih => exact ih (handler_keyed r.1 hk r.2) hun.2 hrow

namespace Sample

/-- A payment that is started and then fails, with the choices `cs` for the failure. -/
def failing (cs : List (Choice CanonicalUuid)) :
    List (SagaRequest × List (Choice CanonicalUuid)) :=
  [(.start startRequest, choices 0 13), (.paymentFailed failedEvent, cs)]

end Sample

/-- The failure is handled to its end. -/
theorem terminal_announced_failing :
    (oneAtATime world
      (Sample.failing (choices 20 5 ++ choices 25 5))).Announced
      .txFailed (text Sample.paymentID) := by
  have hruns :
      SerialMeets (sagaMachine CanonicalUuid) SagaRequest.handler (Uninterrupted ·.handler)
        (Sample.failing (choices 20 5 ++ choices 25 5)) world ∧
      ((oneAtATime world (Sample.failing (choices 20 5))).saga?
        (text Sample.paymentID)).map (·.state) = some .compensatingWallet ∧
      ((oneAtATime world (Sample.failing (choices 20 5 ++ choices 25 5))).saga?
        (text Sample.paymentID)).map (·.state) = some .failed := by
    decide +kernel
  obtain ⟨hun, hbefore, hend⟩ := hruns
  obtain ⟨row, hrow, hstate⟩ := Option.map_eq_some_iff.mp hbefore
  obtain ⟨row', hrow', hfailed⟩ := Option.map_eq_some_iff.mp hend
  exact (terminal_announced Sample.world_keyed (fun _ h => by cases h) _).2 hun
    [(.start Sample.startRequest, choices 0 13)] _ _ _ [] rfl _ row row' hrow hstate hrow'
    hfailed

/-! ## A failure that is not announced -/

/-- From the copy of a failed row a handler reads the clock, records audits and marks the row. -/
theorem FactMove.failed_row (hm : FactMove (some (.row s)) o lesson) (hs : s.state = .failed) :
    o.events = [] ∧ (∀ s' ∈ o.row?, s'.state = .failed) ∧
      ∀ r, ∀ g ∈ lesson r, ∃ s', g = .row s' := by
  cases hm with
  | now | audit =>
    exact ⟨rfl, fun s' hs' => (by cases hs'), fun r g hg => ⟨s, (Option.some.inj hg).symm⟩⟩
  | writeMarked =>
    refine ⟨rfl, fun s' hs' => ?_, fun r g hg => ?_⟩
    · cases hs'
      exact hs
    · cases r with
      | ok a => exact ⟨a, (Option.some.inj hg).symm⟩
      | error e => cases hg
  | verify h | debit h | reserve h | execute h | announce h | cancel h | compensate h
  | writeRejected h | writeFlagged h | writeResumed h | writeDeferred h => cases hs.symm.trans h
  | confirm h | writeCompensating h => exact absurd hs h.2.1

/-- The payment has failed and that is not announced. -/
structure World.Unannounced (w : World U) (paymentID : String) : Prop where
  keyed : w.Keyed
  failed : ∃ row, w.saga? paymentID = some row ∧ row.state = .failed
  missing : ¬ w.Announced .txFailed paymentID

/-- Of the failed payment a handler knows the row only. -/
def RowOnly (paymentID : String) (k : Knowledge) (seen : Seen) (w : World U) : Prop :=
  Current k seen w ∧ ∀ f ∈ k.fact, f.saga.paymentID = paymentID → ∃ s, f = .row s

/-- A handler announces the end of the payment it works on. -/
theorem FactMove.announces (hm : FactMove f o lesson) {record : OutboxRecord}
    (hr : record ∈ o.events) (hend : record.announcesEnd paymentID = true) :
    ∃ g ∈ f, g.saga.paymentID = paymentID := by
  cases hm with
  | announce | announceFailed =>
    obtain rfl := List.mem_singleton.mp hr
    exact ⟨_, rfl, of_decide_eq_true hend⟩
  | execute =>
    simp only [SagaOp.events, List.mem_cons, List.not_mem_nil, or_false] at hr
    rcases hr with rfl | rfl <;> cases hend
  | writeFlagged =>
    obtain rfl := List.mem_singleton.mp hr
    cases hend
  | _ => cases hr

/-- What a read teaches is a copy of the row. -/
theorem mem_learn_row {f : Fact} {r : Except SagaErr Saga} (hf : f ∈ learn .row r) :
    ∃ s, f = .row s := by
  cases r with
  | ok s => exact ⟨s, (Option.some.inj hf).symm⟩
  | error e => cases hf

omit [UuidLib U] in
/-- What is known of the failed payment is its row. -/
theorem RowOnly.failed_row {k : Knowledge} {seen : Seen} (hk : RowOnly paymentID k seen w)
    (hi : w.Unannounced paymentID) {g : Fact} (hg : k.fact = some g)
    (hp : g.saga.paymentID = paymentID) : ∃ s, k.fact = some (.row s) ∧ s.state = .failed := by
  obtain ⟨s, rfl⟩ := hk.2 g hg hp
  obtain ⟨row, hrow, hstate⟩ := hi.failed
  have hstored := (hk.1.fact _ hg).1
  rw [hp, hrow] at hstored
  exact ⟨s, hg, hstate ▸ congrArg Saga.state (Option.some.inj hstored).symm⟩

/-- A call that writes no other state to the payment and does not announce its end. -/
theorem World.Unannounced.run (hi : w.Unannounced paymentID)
    (hrows : ∀ s ∈ o.row?, s.paymentID = paymentID → s.state = .failed)
    (hevents : ∀ record ∈ o.events, ¬ record.announcesEnd paymentID = true)
    (h : o.run c w = (.ok a, w')) : w'.Unannounced paymentID := by
  refine ⟨(run_grows hi.keyed h).1, ?_, ?_⟩
  · obtain ⟨row, hrow, hstate⟩ := hi.failed
    rcases run_row h hrow with hsame | ⟨s, hs, hp, hwritten⟩
    · exact ⟨row, hsame, hstate⟩
    · exact ⟨_, hwritten, hrows s hs hp⟩
  · rintro ⟨record, hr, htopic, hend⟩
    rw [run_outbox h] at hr
    rcases List.mem_append.mp hr with hr | hr
    · exact hi.missing ⟨record, hr, htopic, hend⟩
    · exact hevents record hr hend

theorem FactMove.unannounced {listed : List Saga} (hm : FactMove f o lesson) {seen : Seen}
    (hk : RowOnly paymentID ⟨f, listed⟩ seen w) (hi : w.Unannounced paymentID)
    (h : o.run c w = (.ok a, w')) : w'.Unannounced paymentID := by
  refine hi.run (fun s hs hp => ?_) (fun record hr hend => ?_) h
  · obtain ⟨g, hg, hw⟩ := hm.rewrites hs
    obtain ⟨s₀, hf, hs₀⟩ := hk.failed_row hi hg (hw.paymentID.symm.trans hp)
    obtain rfl : f = some (.row s₀) := hf
    exact (hm.failed_row hs₀).2.1 s hs
  · obtain ⟨g, hg, hgp⟩ := hm.announces hr hend
    obtain ⟨s₀, hf, hs₀⟩ := hk.failed_row hi hg hgp
    obtain rfl : f = some (.row s₀) := hf
    rw [(hm.failed_row hs₀).1] at hr
    cases hr

/-- A call that reads or creates a row leaves the failed one as it is. -/
theorem World.Unannounced.outcome (hi : w.Unannounced paymentID) (hrow : o.row? = none)
    (hevents : o.events = []) (hr : Outcome c o w r) : r.2.Unannounced paymentID := by
  have hrun : ∀ a w', o.run c w = (.ok a, w') → w'.Unannounced paymentID := fun a w' h =>
    hi.run (by simp [hrow]) (by simp [hevents]) h
  rcases hr with ⟨e, rfl⟩ | ⟨a, w', h, rfl | ⟨e, rfl⟩⟩
  · exact hi
  · exact hrun a w' h
  · exact hrun a w' h

theorem unannounced_sound (paymentID : String) :
    (sagaDiscipline fun _ => True).Sound
      (serialContract (U := U) (World.Unannounced · paymentID) fun _ _ => True)
      (RowOnly paymentID) where
  mono {k l seen w} hle hk := by
    refine ⟨hk.1.mono hle, fun f hf hp => ?_⟩
    rcases hle.fact hf with hf | h
    · exact hk.2 f hf hp
    · exact h
  stable hk hw _ := hw ▸ hk
  answers := exec_answer
  step {k o learn seen w c} hm hi hk _ := by
    have houtcome := exec_outcome c o w
    have hcurrent := hm.current hi.keyed hk.1 ((sagaMachine U).see seen o (o.exec c w).1) houtcome
    suffices h : (o.exec c w).2.Unannounced paymentID ∧ ∀ f ∈ (learn (o.exec c w).1).fact,
        f.saga.paymentID = paymentID → ∃ s, f = .row s from ⟨h.1, trivial, hcurrent, h.2⟩
    cases hm with
    | @fact f _ lesson hm listed =>
      -- a fact about the payment is learned from its row
      have hlesson : ∀ g ∈ lesson (o.exec c w).1, (∃ g' ∈ f, g'.saga.paymentID = paymentID) →
          ∃ s, g = .row s := by
        rintro g hg ⟨g', hg', hp⟩
        obtain ⟨s₀, hf, hs₀⟩ := hk.failed_row hi hg' hp
        obtain rfl : f = some (.row s₀) := hf
        exact (hm.failed_row hs₀).2.2 _ g hg
      rcases houtcome with ⟨e, he⟩ | ⟨a, w', hrun, he | ⟨e, he⟩⟩
      all_goals rw [he] at hlesson ⊢
      · refine ⟨hi, fun g hg hp => hlesson g hg ?_⟩
        obtain ⟨-, g', hg', hsame⟩ := hm.lesson_error_row hg
        exact ⟨g', hg', hsame ▸ hp⟩
      · refine ⟨hm.unannounced hk hi hrun, fun g hg hp => hlesson g hg ?_⟩
        obtain ⟨-, g', hg', hsame⟩ :=
          hm.lesson_current hi.keyed (fun g hg => (hk.1.fact g hg).1) hrun hg
        exact ⟨g', hg', hsame.symm.trans hp⟩
      · refine ⟨hm.unannounced hk hi hrun, fun g hg hp => hlesson g hg ?_⟩
        obtain ⟨-, g', hg', hsame⟩ := hm.lesson_error_row hg
        exact ⟨g', hg', hsame ▸ hp⟩
    | get _ | create _ _ _ =>
      exact ⟨hi.outcome rfl rfl houtcome, fun f hf _ => mem_learn_row hf⟩
    | list =>
      exact ⟨hi.outcome rfl rfl houtcome, fun f hf _ => by cases hf⟩

theorem handler_unannounced (q : SagaRequest) (h : w.Unannounced paymentID)
    (cs : List (Choice U)) : (q.handler.runFor (sagaMachine U) cs w).Unannounced paymentID := by
  have hfollows : (sagaDiscipline fun _ => True).Follows Ends q.handler ⟨none, []⟩ :=
    handler_follows q fun _ _ => trivial
  have hsafe : (serialContract (U := U) (World.Unannounced · paymentID) fun _ _ => True).Safe
      q.handler [] w :=
    (hfollows.holds (unannounced_sound paymentID)
      ⟨Current.fresh, fun f hf => by cases hf⟩).safe
  exact hsafe.runFor h fun _ _ _ _ _ => trivial

/-- Whatever is handled later, a failure that was not announced is never announced. -/
theorem unannounced_forever (reqs : List (SagaRequest × List (Choice U)))
    (h : w.Unannounced paymentID) : (oneAtATime w reqs).Unannounced paymentID := by
  induction reqs generalizing w with
  | nil => exact h
  | cons r rest ih => exact ih (handler_unannounced r.1 h r.2)

/-- The handler of `payment.failed` stops after it has stored FAILED: the debit is compensated,
    and whatever is redelivered or resumed later, `tx.failed` is never enqueued. -/
theorem failure_never_announced :
    ((oneAtATime world (Sample.failing (choices 20 5))).saga?
      (text Sample.paymentID)).map (·.state) = some .compensatingWallet ∧
    ∀ reqs, ¬ (oneAtATime world (Sample.failing (choices 20 7) ++ reqs)).Announced
      .txFailed (text Sample.paymentID) ∧
      ((oneAtATime world (Sample.failing (choices 20 7) ++ reqs)).saga?
        (text Sample.paymentID)).map (·.state) = some .failed := by
  have hruns :
      ((oneAtATime world (Sample.failing (choices 20 5))).saga?
        (text Sample.paymentID)).map (·.state) = some .compensatingWallet ∧
      ((oneAtATime world (Sample.failing (choices 20 7))).saga?
        (text Sample.paymentID)).map (·.state) = some .failed ∧
      ¬ (oneAtATime world (Sample.failing (choices 20 7))).Announced .txFailed
        (text Sample.paymentID) := by
    decide +kernel
  obtain ⟨hbefore, hfailed, hmissing⟩ := hruns
  refine ⟨hbefore, fun reqs => ?_⟩
  have hkeyed : (oneAtATime world (Sample.failing (choices 20 7))).Keyed :=
    handler_keyed _ (handler_keyed _ Sample.world_keyed _) _
  have hforever := unannounced_forever reqs
    ⟨hkeyed, by simpa only [Option.map_eq_some_iff] using hfailed, hmissing⟩
  exact ⟨hforever.missing, Option.map_eq_some_iff.mpr hforever.failed⟩

end EnjoyThings
