import EnjoyThings.Spec.SagaCalls
import EnjoyThings.Spec.SagaReview
import EnjoyThings.Spec.SagaSerial

/-!
# How often a flag holds a payment

A `fraud.flagged` event may be delivered any number of times. The handler holds the
payment whenever the row is in PAYMENT_PROCESSING, and only the audit record is kept
unique per event ID. So an event that comes again after a release holds the payment
again, and an event that came before the saga existed holds it without a transition
record (`flag_holds_twice`). Both need a delivery that finds the row in
PAYMENT_PROCESSING and a record of its event ID. In a run without such deliveries every
event holds its payment at most once (`flag_holds_once`).
-/

namespace EnjoyThings

open Effect Orchestrator

variable {U : Type} [UuidLib U] {w w' : World U} {s row : Saga} {c : Choice U}
  {paymentID eventID : String}

/-! ## Coming under review -/

variable {o : SagaOp}

/-- A row that another call writes in FRAUD_REVIEW comes from a copy in FRAUD_REVIEW. -/
theorem FactMove.keeps_review {f : Option Fact} {lesson : Except SagaErr o.Ret → Option Fact}
    (hm : FactMove f o lesson) (ho : o.HoldsNothing) (hs : s ∈ o.row?)
    (hstate : s.state = .fraudReview) :
    ∃ g ∈ f, g.saga.paymentID = s.paymentID ∧ g.saga.state = .fraudReview := by
  obtain ⟨g, hg, hw⟩ := hm.rewrites hs
  rcases hw.review hstate with hreview | ⟨_, _, rfl⟩
  · exact ⟨g, hg, hw.paymentID.symm, hreview⟩
  · exact ho.elim

/-- No payment comes under review. -/
def NoEntry (w w' : World U) : Prop :=
  ∀ paymentID, w'.Held paymentID → w.Held paymentID

theorem Move.noEntry {admits : StartRequest → Prop} {k : Knowledge}
    {learn : Except SagaErr o.Ret → Knowledge} {seen : Seen} {a : o.Ret}
    (hm : Move admits k o learn) (ho : o.HoldsNothing) (hcur : Current k seen w)
    (h : o.run c w = (.ok a, w')) : NoEntry w w' := by
  intro paymentID hheld
  obtain ⟨row', hrow', hstate⟩ := World.held_iff.mp hheld
  refine World.held_iff.mpr ?_
  cases hrow : w.saga? paymentID with
  | none =>
    obtain ⟨s, rfl, hs⟩ := run_created h hrow hrow'
    cases hm with
    | fact hm _ => exact absurd rfl (hm.ne_create s)
    | create req t _ => cases hs.symm.trans hstate
  | some row =>
    refine ⟨row, rfl, ?_⟩
    rcases run_row h hrow with hsame | ⟨s, hs, hp, hwritten⟩
    · cases hsame.symm.trans hrow'
      exact hstate
    · -- the copy of the call is the stored row
      cases hwritten.symm.trans hrow'
      cases hm with
      | fact hm _ =>
        obtain ⟨g, hg, hgp, hgs⟩ := hm.keeps_review ho hs hstate
        have hstored := (hcur.fact g hg).1
        rw [hgp, hp, hrow] at hstored
        rw [Option.some.inj hstored]
        exact hgs
      | get _ | create _ _ _ | list => cases hs

variable {q : SagaRequest}

/-- A handler other than that of a flag takes no payment into review, wherever it stops. -/
theorem handler_noEntry (hq : ∀ event, q ≠ .fraudFlagged event) (hk : w.Keyed)
    (cs : List (Choice U)) :
    NoEntry w (q.handler.runFor (sagaMachine U) cs w) :=
  (handler_serial (handler_noHold hq) (fun _ _ h => h) (fun h h' p hp => h p (h' p hp))
    (fun hm ho _ hcur hrun => hm.noEntry ho hcur hrun) hk cs).2

/-! ## One delivery of a flag -/

omit [UuidLib U] in
/-- A write takes its own payment into review or none. -/
theorem World.afterWrite_enters {now : Time} {events : List OutboxRecord}
    {audit : Option FraudAuditRecord} (hrow : w.saga? s.paymentID = some row)
    (h : Enters paymentID w (w.afterWrite now s events audit)) :
    paymentID = s.paymentID ∧ s.state = .fraudReview := by
  obtain ⟨row', hrow', hstate⟩ := World.held_iff.mp h.2
  rw [World.saga?_write (World.write_eq hrow now events audit)] at hrow'
  obtain ⟨r, hr, rfl⟩ := Option.map_eq_some_iff.mp hrow'
  by_cases hp : r.paymentID = s.paymentID
  · rw [if_pos hp] at hstate
    exact ⟨(World.saga?_some hr).2.symm.trans hp, hstate⟩
  · rw [if_neg hp] at hstate
    exact absurd (World.held_iff.mpr ⟨r, hr, hstate⟩) h.1

omit [UuidLib U] in
/-- A write that keeps the row out of review, or in it. -/
theorem World.afterWrite_noEntry {now : Time} {events : List OutboxRecord}
    {audit : Option FraudAuditRecord} (hrow : w.saga? s.paymentID = some row)
    (hs : s.state = .fraudReview → row.state = .fraudReview) :
    NoEntry w (w.afterWrite now s events audit) := by
  intro paymentID hheld
  by_contra hnot
  obtain ⟨rfl, hstate⟩ := World.afterWrite_enters hrow ⟨hnot, hheld⟩
  exact hnot (World.held_iff.mpr ⟨row, hrow, hs hstate⟩)

/-- What one delivery can leave, wherever it stops. The row it found is marked, or marked and held,
    with the clock reading and the transaction time of its choices. -/
inductive Delivered (event : FraudFlagged) (w : World U) : List (Choice U) → World U → Prop
  | nothing {w' : World U} (cs : List (Choice U)) (hsagas : w'.sagas = w.sagas)
      (hdb : w'.db = w.db) : Delivered event w cs w'
  | held {row : Saga} (hvalid : event.valid = true)
      (hrow : w.saga? event.paymentID = some row) (hstate : row.state = .paymentProcessing)
      (read clock write : Choice U) (cs : List (Choice U)) :
    Delivered event w (read :: clock :: write :: cs) (w.afterWrite write.env.now
      { withFraudMetadata row event clock.clock with state := .fraudReview }
      [txPausedRecord (withFraudMetadata row event clock.clock)
        (traceIDOr event.traceID row.traceID) clock.clock]
      (some (fraudFlaggedAudit event row clock.clock)))
  | marked {row : Saga} (hrow : w.saga? event.paymentID = some row)
      (hstate : row.state ≠ .paymentProcessing) (read clock write : Choice U)
      (cs : List (Choice U)) :
    Delivered event w (read :: clock :: write :: cs) (w.afterWrite write.env.now
      (withFraudMetadata row event clock.clock) []
      (some (fraudFlaggedAudit event row clock.clock)))

/-- The last call of a handler happens unless it does not arrive. -/
theorem runFor_last (ho : o ≠ .now) (c : Choice U) (cs : List (Choice U)) :
    ((Prog.perform o : SagaProg o.Ret) >>= fun _ => (pure () : SagaProg Unit)).runFor
      (sagaMachine U) (c :: cs) w = if c.fault = .notDelivered then w else (o.run c w).2 := by
  have hend : ∀ (r : Except SagaErr o.Ret) (v : World U),
      (Prog.onAnswer (fun _ => (Prog.done () : SagaProg Unit)) r).runFor (sagaMachine U) cs v =
        v := by
    intro r v
    cases r with
    | ok a => exact Prog.runFor_done ..
    | error e => exact Prog.runFor_fail ..
  rw [Prog.perform_bind, Prog.runFor_call, sagaMachine_exec, Prog.pure_eq, hend]
  cases hf : c.fault with
  | none => rw [exec_none hf]; rfl
  | notDelivered => rw [exec_notDelivered ho hf]; rfl
  | answerLost => rw [exec_answerLost ho hf]; rfl

variable {event : FraudFlagged}

theorem applyFraudFlagged_runFor (hvalid : event.valid = true)
    (hrow : w.saga? event.paymentID = some row) (read : Choice U) (cs : List (Choice U)) :
    Delivered event w (read :: cs) ((applyFraudFlagged row event).runFor (sagaMachine U) cs w) := by
  have hrow' : w.saga? row.paymentID = some row := by
    rw [(World.saga?_some hrow).2]
    exact hrow
  match cs with
  | [] => exact .nothing _ rfl rfl
  | [clock] =>
    rw [applyFraudFlagged, runFor_now, Prog.runFor_nil]
    exact .nothing _ rfl rfl
  | clock :: write :: cs =>
    rw [applyFraudFlagged, runFor_now]
    split
    · rename_i hstate
      rw [runFor_last (by simp)]
      split
      · exact .nothing _ rfl rfl
      · rw [run_updateWithOutboxAndAudit]
        · exact .held hvalid hrow hstate read clock write cs
        · exact hrow'
    · rename_i hstate
      rw [runFor_last (by simp)]
      split
      · exact .nothing _ rfl rfl
      · rw [run_updateWithAudit]
        · exact .marked hrow hstate read clock write cs
        · exact hrow'

theorem auditOrphan_runFor (event : FraudFlagged) (cs : List (Choice U)) :
    ((auditOrphan event).runFor (sagaMachine U) cs w).sagas = w.sagas ∧
      ((auditOrphan event).runFor (sagaMachine U) cs w).db = w.db := by
  -- the calls are a clock reading and an audit record
  have hcalls : (auditOrphan event).Only fun o => o = .now ∨ ∃ audit, o = .recordFraudAudit audit :=
    .bind (.perform (.inl rfl)) fun _ => .perform (.inr ⟨_, rfl⟩)
  have hstep : ∀ c o (v : World U), (o = .now ∨ ∃ audit, o = .recordFraudAudit audit) →
      v.sagas = w.sagas ∧ v.db = w.db →
      ((sagaMachine U).exec c o v).2.sagas = w.sagas ∧
        ((sagaMachine U).exec c o v).2.db = w.db := by
    rintro c o v ho ⟨hsagas, hdb⟩
    refine exec_world ⟨hsagas, hdb⟩ fun a v' hrun => ?_
    rcases ho with rfl | ⟨audit, rfl⟩
    all_goals
      cases hrun
      exact ⟨hsagas, hdb⟩
  exact hcalls.runFor hstep ⟨rfl, rfl⟩ cs

theorem handleFraudFlagged_delivered (event : FraudFlagged) (cs : List (Choice U)) :
    Delivered event w cs ((handleFraudFlagged event).runFor (sagaMachine U) cs w) := by
  unfold handleFraudFlagged
  split
  · rename_i hvalid
    rw [Prog.attempt_perform_bind]
    match cs with
    | [] => exact .nothing _ rfl rfl
    | read :: cs =>
      rw [Prog.runFor_call, sagaMachine_exec]
      -- the read changes nothing, whether or not it is answered
      have hread : ((SagaOp.getByPaymentID event.paymentID).exec read w).2 = w := by
        rcases exec_outcome read (.getByPaymentID event.paymentID) w with
          ⟨e, he⟩ | ⟨row, v, hrun, he | ⟨e, he⟩⟩
        · rw [he]
        all_goals
          obtain ⟨-, rfl⟩ := Prod.mk.inj hrun
          rw [he]
      rw [hread]
      split
      · obtain ⟨hsagas, hdb⟩ := auditOrphan_runFor (w := w) event cs
        exact .nothing _ hsagas hdb
      · rw [Prog.runFor_fail]
        exact .nothing _ rfl rfl
      · rename_i row hrow
        have hfault := fault_of_exec_ok (o := .getByPaymentID event.paymentID) (by simp) hrow
        rw [exec_none hfault] at hrow
        exact applyFraudFlagged_runFor hvalid (World.getByPaymentID_eq_ok.mp hrow) read cs
  · rw [Prog.runFor_fail]
    exact .nothing _ rfl rfl

/-- What one delivery can leave, wherever it stops: nothing comes under review and the tables are
    as they were, or the payment was in PAYMENT_PROCESSING and comes under review. -/
inductive Flagged (event : FraudFlagged) (w : World U) : World U → Prop
  | quiet {w' : World U} (hentry : NoEntry w w') (hdb : w'.db = w.db) : Flagged event w w'
  | held {row : Saga} (hvalid : event.valid = true)
      (hrow : w.saga? event.paymentID = some row) (hstate : row.state = .paymentProcessing)
      (time now : Time) :
    Flagged event w (w.afterWrite now
      { withFraudMetadata row event time with state := .fraudReview }
      [txPausedRecord (withFraudMetadata row event time) (traceIDOr event.traceID row.traceID)
        time]
      (some (fraudFlaggedAudit event row time)))

theorem handleFraudFlagged_runFor (event : FraudFlagged) (cs : List (Choice U)) :
    Flagged event w ((handleFraudFlagged event).runFor (sagaMachine U) cs w) := by
  have hdelivered := handleFraudFlagged_delivered (w := w) event cs
  revert hdelivered
  generalize (handleFraudFlagged event).runFor (sagaMachine U) cs w = w'
  intro hdelivered
  cases hdelivered with
  | nothing _ hsagas hdb =>
    refine .quiet (fun paymentID hheld => ?_) hdb
    rw [World.Held, World.saga?, hsagas] at hheld
    exact hheld
  | held hvalid hrow hstate _ _ _ _ => exact .held hvalid hrow hstate _ _
  | marked hrow hstate _ _ _ _ =>
    -- the fraud columns are set and the state is as it was
    have hp := (World.saga?_some hrow).2
    rw [← hp] at hrow
    exact .quiet (World.afterWrite_noEntry hrow id) (by simp [World.afterWrite])

/-! ## The audit records -/

/-- There is a record under the event ID. -/
def World.Recorded (w : World U) (eventID : String) : Prop :=
  ∃ a ∈ w.audits, a.eventID = eventID

variable {audit : FraudAuditRecord}

theorem mem_insertFraudAudit {audits : List FraudAuditRecord} {a : FraudAuditRecord}
    (h : a ∈ audits) (now : Time) : a ∈ insertFraudAudit audits audit now := by
  unfold insertFraudAudit
  split
  · exact h
  · exact List.mem_append_left _ h

/-- The first record of an event is kept. -/
theorem insertFraudAudit_first {audits : List FraudAuditRecord} (hid : audit.eventID ≠ "")
    (hnew : ∀ a ∈ audits, a.eventID ≠ audit.eventID) (now : Time) :
    { audit with createdAt := timeOrNow audit.createdAt now } ∈
      insertFraudAudit audits audit now := by
  have hfirst : ¬ (audit.eventID = "" ∨ audits.any (·.eventID = audit.eventID)) := by
    simpa [hid] using hnew
  rw [insertFraudAudit, if_neg hfirst]
  exact List.mem_concat_self

/-- No call takes an audit record back. -/
theorem run_audits {a : o.Ret} (h : o.run c w = (.ok a, w')) (haudit : audit ∈ w.audits) :
    audit ∈ w'.audits := by
  cases o with
  | now | getByPaymentID _ | listNonTerminal | getStatus _ | enqueue _ =>
    obtain ⟨-, rfl⟩ := Prod.mk.inj h
    exact haudit
  | recordFraudAudit _ =>
    cases h
    exact mem_insertFraudAudit haudit _
  | create s =>
    rcases World.create_ok (commit_eq_ok.mp h) with ⟨-, -, rfl⟩ | ⟨-, -, rfl⟩
    · exact haudit
    · exact haudit
  | update _ | updateWithOutbox _ _ =>
    obtain ⟨_, -, -, rfl⟩ := World.write_ok (commit_eq_ok.mp h)
    exact haudit
  | updateWithAudit _ _ | updateWithOutboxAndAudit _ _ _ =>
    obtain ⟨_, -, -, rfl⟩ := World.write_ok (commit_eq_ok.mp h)
    exact mem_insertFraudAudit haudit _
  | debitForSaga _ | compensateDebit _ | reserveTransfer _ | confirmTransfer _
  | cancelReservation _ =>
    obtain ⟨db, -, rfl⟩ := rpc_eq_ok.mp h
    exact haudit

theorem runFor_audits (haudit : audit ∈ w.audits) (cs : List (Choice U)) :
    audit ∈ (q.handler.runFor (sagaMachine U) cs w).audits := by
  have hstep : ∀ c o (v : World U), True → audit ∈ v.audits →
      audit ∈ ((sagaMachine U).exec c o v).2.audits :=
    fun c o v _ hv => exec_world hv fun _ _ hrun => run_audits hrun hv
  exact (Prog.Only.of_forall (fun _ => trivial) q.handler).runFor hstep haudit cs

theorem oneAtATime_audits (haudit : audit ∈ w.audits)
    (reqs : List (SagaRequest × List (Choice U))) : audit ∈ (oneAtATime w reqs).audits := by
  induction reqs generalizing w with
  | nil => exact haudit
  | cons r rest ih => exact ih (runFor_audits haudit r.2)

/-! ## Runs -/

/-- The sum over the deliveries of an event in a run, of what `count` says about the world before
    and after the delivery. -/
def tally (count : FraudFlagged → World U → World U → Nat) (eventID : String) :
    List (SagaRequest × List (Choice U)) → World U → Nat
  | [], _ => 0
  | (.fraudFlagged event, cs) :: rest, w =>
    (if event.eventID = eventID then
      count event w ((handleFraudFlagged event).runFor (sagaMachine U) cs w) else 0) +
      tally count eventID rest ((handleFraudFlagged event).runFor (sagaMachine U) cs w)
  | (q, cs) :: rest, w => tally count eventID rest (q.handler.runFor (sagaMachine U) cs w)

/-- How often the deliveries of an event take the payment into review. -/
def holdsBy (eventID : String) (reqs : List (SagaRequest × List (Choice U))) (w : World U) : Nat :=
  tally (fun event w w' => if Enters event.paymentID w w' then 1 else 0) eventID reqs w

/-- How many `tx.paused` rows the deliveries of an event enqueue for the payment. -/
def pausesBy (eventID : String) (reqs : List (SagaRequest × List (Choice U))) (w : World U) : Nat :=
  tally (fun event w w' =>
    w'.db.enqueued .txPaused event.paymentID - w.db.enqueued .txPaused event.paymentID) eventID
    reqs w

/-- A flag finds its payment in PAYMENT_PROCESSING only if no record has its event ID yet. -/
def FreshFlag (q : SagaRequest) (w : World U) : Prop :=
  match q with
  | .fraudFlagged event =>
    (w.saga? event.paymentID).map (·.state) = some .paymentProcessing →
      ∀ a ∈ w.audits, a.eventID ≠ event.eventID
  | _ => True

instance (q : SagaRequest) (w : World U) : Decidable (FreshFlag q w) :=
  match q with
  | .fraudFlagged _ => inferInstanceAs (Decidable (_ → ∀ a ∈ w.audits, _))
  | .start _ | .paymentCompleted _ | .paymentFailed _ | .resumeReview _ | .rejectReview _
  | .expireReviews _ | .resumeNonTerminal => .isTrue trivial

theorem FraudFlagged.eventID_ne_of_valid (h : event.valid = true) :
    event.eventID ≠ "" := by
  have hid : event.eventID = fraudFlaggedEventID event.sourceEventID := by
    simp only [FraudFlagged.valid, Bool.and_eq_true, decide_eq_true_eq] at h
    exact h.1.1.1.1.1.1.1.1.1.1.1.2
  rw [hid, fraudFlaggedEventID]
  intro hempty
  have hlength := congrArg String.length hempty
  simp [fraudFlaggedTopic] at hlength

omit [UuidLib U] in
/-- A delivery takes nothing into review and enqueues nothing, or it is the first of its event,
    records the event as a transition, and enqueues one `tx.paused` row. -/
theorem Flagged.first (h : Flagged event w w') (hfresh : FreshFlag (.fraudFlagged event) w) :
    (NoEntry w w' ∧ w'.db = w.db) ∨
      ((∀ a ∈ w.audits, a.eventID ≠ event.eventID) ∧
        (∃ a ∈ w'.audits, a.eventID = event.eventID ∧ a.kind = .transition ∧
          a.paymentID = event.paymentID) ∧
        (∀ paymentID, Enters paymentID w w' → paymentID = event.paymentID) ∧
        w'.db.enqueued .txPaused event.paymentID =
          w.db.enqueued .txPaused event.paymentID + 1) := by
  cases h with
  | quiet hentry hdb => exact .inl ⟨hentry, hdb⟩
  | held hvalid hrow hstate time now =>
    rename_i row
    right
    have hp := (World.saga?_some hrow).2
    have hnew : ∀ a ∈ w.audits, a.eventID ≠ event.eventID := hfresh (by rw [hrow]; simp [hstate])
    have hrecord := insertFraudAudit_first
      (show (fraudFlaggedAudit event row time).eventID ≠ "" from event.eventID_ne_of_valid hvalid)
      hnew now
    refine ⟨hnew, ⟨_, hrecord, rfl, ?_, hp⟩, fun paymentID h => ?_, ?_⟩
    · simp only [fraudFlaggedAudit, hstate, fraudFlaggedAuditKind]
    · rw [← hp] at hrow ⊢
      exact (World.afterWrite_enters (s := { withFraudMetadata row event time with
        state := .fraudReview }) hrow h).1
    · simp [World.afterWrite, Database.enqueued, txPausedRecord, withFraudMetadata, hp]

/-- An event that is recorded takes nothing into review any more; one that is not does so at most
    once. -/
theorem tally_le {count : FraudFlagged → World U → World U → Nat}
    (hquiet : ∀ {event w w'}, NoEntry w w' → w'.db = w.db → count event w w' = 0)
    (hheld : ∀ {event w w'}, w'.db.enqueued .txPaused event.paymentID =
      w.db.enqueued .txPaused event.paymentID + 1 → count event w w' ≤ 1)
    {reqs : List (SagaRequest × List (Choice U))}
    (hreqs : SerialObeys (sagaMachine U) SagaRequest.handler FreshFlag reqs w) :
    tally count eventID reqs w ≤ 1 ∧ (w.Recorded eventID → tally count eventID reqs w = 0) := by
  induction reqs generalizing w with
  | nil => exact ⟨Nat.zero_le 1, fun _ => rfl⟩
  | cons r rest ih =>
    obtain ⟨hfresh, hrest⟩ := hreqs
    obtain ⟨hone, hnone⟩ := ih hrest
    have hkeep : ∀ v : World U, (∀ a ∈ w.audits, a ∈ v.audits) → w.Recorded eventID →
        v.Recorded eventID := fun v hv ⟨a, ha, he⟩ => ⟨a, hv a ha, he⟩
    obtain ⟨q, cs⟩ := r
    have hlater := hkeep _ fun a ha => runFor_audits (q := q) ha cs
    cases q with
    | fraudFlagged event =>
      rw [tally]
      by_cases he : event.eventID = eventID
      · rw [if_pos he]
        rcases (handleFraudFlagged_runFor event cs).first hfresh with
          ⟨hentry, hdb⟩ | ⟨hnew, ⟨a, ha, hid, -⟩, -, hcount⟩
        · -- nothing happens
          rw [hquiet hentry hdb, Nat.zero_add]
          exact ⟨hone, fun h => hnone (hlater h)⟩
        · -- the first delivery: no later one does anything
          have hdone : tally count eventID rest
              ((handleFraudFlagged event).runFor (sagaMachine U) cs w) = 0 :=
            hnone ⟨a, ha, hid.trans he⟩
          rw [hdone, Nat.add_zero]
          exact ⟨hheld hcount, fun ⟨a, ha, hr⟩ => absurd (hr.trans he.symm) (hnew a ha)⟩
      · rw [if_neg he, Nat.zero_add]
        exact ⟨hone, fun h => hnone (hlater h)⟩
    | _ => exact ⟨hone, fun h => hnone (hlater h)⟩

/-- A request that takes a payment into review is a flag of it, and leaves the record of the
    transition. -/
theorem entry_recorded {cs : List (Choice U)} (hk : w.Keyed) (hfresh : FreshFlag q w)
    (h : Enters paymentID w (q.handler.runFor (sagaMachine U) cs w)) :
    ∃ event, q = .fraudFlagged event ∧
      ∃ a ∈ (q.handler.runFor (sagaMachine U) cs w).audits, a.eventID = event.eventID ∧
        a.kind = .transition ∧ a.paymentID = paymentID := by
  by_cases hq : ∃ event, q = .fraudFlagged event
  · obtain ⟨event, rfl⟩ := hq
    refine ⟨event, rfl, ?_⟩
    rcases (handleFraudFlagged_runFor event cs).first hfresh with
      ⟨hentry, -⟩ | ⟨-, ⟨a, ha, hid, hkind, hp⟩, hown, -⟩
    · exact absurd (hentry paymentID h.2) h.1
    · exact ⟨a, ha, hid, hkind, hp.trans (hown paymentID h).symm⟩
  · have hentry := handler_noEntry (fun event he => hq ⟨event, he⟩) hk cs
    exact absurd (hentry paymentID h.2) h.1

/-- The same for any request of a run, at the end of the run. -/
theorem entry_recorded_at_end {before after : List (SagaRequest × List (Choice U))}
    {cs : List (Choice U)} (hk : w.Keyed)
    (hreqs : SerialObeys (sagaMachine U) SagaRequest.handler FreshFlag
      (before ++ (q, cs) :: after) w)
    (h : Enters paymentID (oneAtATime w before) (oneAtATime w (before ++ [(q, cs)]))) :
    ∃ event, q = .fraudFlagged event ∧
      ∃ a ∈ (oneAtATime w (before ++ (q, cs) :: after)).audits, a.eventID = event.eventID ∧
        a.kind = .transition ∧ a.paymentID = paymentID := by
  induction before generalizing w with
  | nil =>
    obtain ⟨event, rfl, a, ha, hrest⟩ := entry_recorded hk hreqs.1 h
    have hend : a ∈ (oneAtATime w ((.fraudFlagged event, cs) :: after)).audits :=
      oneAtATime_audits ha after
    exact ⟨event, rfl, a, hend, hrest⟩
  | cons r before ih => exact ih (handler_keyed r.1 hk r.2) hreqs.2 h

/-- A fraud flag holds a payment at most once, in every run of handlers one at a time, wherever
    each of them stops, in which a flag that finds its payment in PAYMENT_PROCESSING is not
    recorded yet: its deliveries take the payment into review at most once and enqueue at most
    one `tx.paused` row, and every request that takes a payment into review is a flag that
    leaves its record as a transition. -/
theorem flag_holds_once (hk : w.Keyed) {reqs : List (SagaRequest × List (Choice U))}
    (hreqs : SerialObeys (sagaMachine U) SagaRequest.handler FreshFlag reqs w) (eventID : String) :
    holdsBy eventID reqs w ≤ 1 ∧ pausesBy eventID reqs w ≤ 1 ∧
      ∀ before q cs after, reqs = before ++ (q, cs) :: after → ∀ paymentID,
        Enters paymentID (oneAtATime w before) (oneAtATime w (before ++ [(q, cs)])) →
        ∃ event, q = .fraudFlagged event ∧
          ∃ a ∈ (oneAtATime w reqs).audits, a.eventID = event.eventID ∧ a.kind = .transition ∧
            a.paymentID = paymentID := by
  refine ⟨(tally_le (fun hentry _ => ?_) (fun _ => ?_) hreqs).1,
    (tally_le (fun _ hdb => ?_) (fun hcount => ?_) hreqs).1, ?_⟩
  · exact if_neg fun h => h.1 (hentry _ h.2)
  · split <;> omega
  · rw [hdb, Nat.sub_self]
  · rw [hcount]
    omega
  · rintro before q cs after rfl paymentID h
    exact entry_recorded_at_end hk hreqs h

namespace Sample

/-- The flag comes before the payment is started. -/
def flagFirst : List (SagaRequest × List (Choice CanonicalUuid)) :=
  [(.fraudFlagged flaggedEvent, choices 0 5), (.start startRequest, choices 10 20)]

/-- The payment is flagged and released. -/
def releasedOnce : List (SagaRequest × List (Choice CanonicalUuid)) :=
  [(.start startRequest, choices 0 20), (.fraudFlagged flaggedEvent, choices 20 5),
    (.fraudFlagged flaggedEvent, choices 30 5), (.resumeReview reviewDecision, choices 40 5)]

end Sample

/-- A flag that is delivered twice before the release and once after the end holds the payment
    once. -/
theorem flag_holds_once_released :
    holdsBy Sample.flaggedEvent.eventID (Sample.releasedOnce ++
      [(.paymentFailed Sample.failedEvent, Sample.choices 50 12),
        (.fraudFlagged Sample.flaggedEvent, Sample.choices 70 5)])
        Sample.world ≤ 1 :=
  (flag_holds_once Sample.world_keyed (by decide +kernel) _).1

/-- A flag that is delivered again after the release holds the payment again and pauses it again;
    one that was delivered before the start holds it without the record of a transition. -/
theorem flag_holds_twice :
    (holdsBy Sample.flaggedEvent.eventID (Sample.releasedOnce ++
        [(.fraudFlagged Sample.flaggedEvent, Sample.choices 60 5)]) Sample.world = 2 ∧
      pausesBy Sample.flaggedEvent.eventID (Sample.releasedOnce ++
        [(.fraudFlagged Sample.flaggedEvent, Sample.choices 60 5)]) Sample.world = 2) ∧
    Enters (text Sample.paymentID) (oneAtATime Sample.world Sample.flagFirst)
      (oneAtATime Sample.world (Sample.flagFirst ++
        [(.fraudFlagged Sample.flaggedEvent, Sample.choices 60 5)])) ∧
    ∀ a ∈ (oneAtATime Sample.world (Sample.flagFirst ++
        [(.fraudFlagged Sample.flaggedEvent, Sample.choices 60 5)])).audits,
      a.kind ≠ .transition := by
  decide +kernel

end EnjoyThings
