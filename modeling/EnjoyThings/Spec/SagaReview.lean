import EnjoyThings.Spec.SagaInvariant

/-!
# Results that wait for a review

A payment result that arrives during a fraud review is stored with the saga, and
`ResumeFraudReview` applies it. But it clears the stored result in its first write,
before the result has had any effect. Until the first write of the result's own
handler the result exists only in the memory of the call, so an error or a crash in
between loses it: `resume_keeps_result_iff` says exactly which calls do not.
-/

namespace EnjoyThings

open Effect Orchestrator

variable {U : Type} [UuidLib U] {w w' : World U} {s row : Saga} {c : Choice U}

/-! ## Stored results -/

/-- The stored result is about the payment of the row. -/
def Saga.OwnResult (s : Saga) : Prop :=
  ∀ r ∈ s.deferredPaymentJSON, r.paymentID = s.paymentID

/-- Every row stores a result of its own payment. -/
def World.OwnResults (w : World U) : Prop :=
  ∀ s ∈ w.sagas, s.OwnResult

variable {s' : Saga}

theorem Written.ownResult (h : Written s s') (hs : s.OwnResult) : s'.OwnResult := by
  obtain ⟨row, t, hp, rfl⟩ := h
  exact fun r hr => (hs r hr).trans hp.symm

variable {o : SagaOp}

/-- A row that a handler writes stores what the copy did, nothing, or the result just read. -/
theorem FactMove.writes_ownResult {f : Option Fact} {lesson : Except SagaErr o.Ret → Option Fact}
    (hm : FactMove f o lesson) (hf : ∀ g ∈ f, g.saga.OwnResult) (ho : s ∈ o.row?) :
    s.OwnResult := by
  obtain ⟨g, hg, hw⟩ := hm.rewrites ho
  intro r hr
  rcases hw.result r hr with hr | hp
  · exact (hf g hg r hr).trans hw.paymentID.symm
  · exact hp

theorem ownResults_interpretation :
    Interpretation (U := U) (fun _ => True) (fun w => w.Keyed ∧ w.OwnResults)
      (fun f _ => f.saga.OwnResult) where
  keyed hi := hi.1
  stable hf _ := hf
  stored hi hs := hi.2 _ hs
  unverified hs _ := hs
  create := by
    intro req t id now w _ hi hnew
    refine ⟨⟨hi.1.db, List.nodup_map_append_singleton hi.1.sagas hnew⟩, fun s hs => ?_⟩
    rcases List.mem_concat_iff.mp hs with hs | rfl
    · exact hi.2 s hs
    · exact fun r hr => by cases hr
  move := by
    intro f o lesson c a w w' hm hi hf hrun
    have hown : w'.OwnResults := by
      intro s hs
      rcases run_mem hm.ne_create hrun hs with hs | ⟨s', hs', hwritten⟩
      · exact hi.2 s hs
      · exact hwritten.ownResult (hm.writes_ownResult hf hs')
    refine ⟨⟨(run_grows hi.1 hrun).1, hown⟩, fun g hg => .inr ?_⟩
    rcases hm.lesson_saga hrun hg with hs | ⟨g', hg', he⟩
    · exact hown _ hs
    · rw [he]
      exact hf g' hg'

/-! ## The result and where it leads -/

/-- The terminal state a stored result leads to. `applyDeferredResult` tells it by the event ID. -/
def PaymentResult.leadsTo (r : PaymentResult) : Option SagaState :=
  if Go.hasPrefix (deferredEventID r) (topicPaymentCompleted ++ ":") then some .completed
  else if Go.hasPrefix (deferredEventID r) (topicPaymentFailed ++ ":") then some .failed
  else none

/-- The row still holds the result, or the result has begun to take effect. -/
def KeepsResult (r : PaymentResult) (row : Saga) : Prop :=
  (row.state = .fraudReview ∧ row.deferredPaymentJSON = some r) ∨
    row.state = .ledgerConfirmed ∨ row.state = .compensatingLedger ∨
    row.state = .compensatingWallet ∨ r.leadsTo = some row.state

/-- The stored row of the payment keeps the result. -/
def World.Keeps (w : World U) (paymentID : String) (r : PaymentResult) : Prop :=
  ∃ row, w.saga? paymentID = some row ∧ KeepsResult r row

/-- The clock is read, and the write of the row after it reaches the store. -/
def WriteArrives : List (Choice U) → Prop
  | _ :: write :: _ => write.fault ≠ .notDelivered
  | _ => False

/-- The calls that apply a completion: the ledger confirms the transfer, and the row is
    written. -/
def ConfirmsResult (db : Database U) (s : Saga) (traceID : String) : List (Choice U) → Prop
  | confirm :: rest =>
    confirm.fault = .none ∧
    (∃ result db', LedgerGRPCClient.confirmTransfer db confirm.env
      (ledgerConfirmRequest s traceID) = .ok (result, db')) ∧
    WriteArrives rest
  | [] => False

/-- After the review is released: the row is read again, and the first write of the result's own
    handler takes effect. -/
def AppliesResult (db : Database U) (s : Saga) (r : PaymentResult) (traceID : String) :
    List (Choice U) → Prop
  | read :: rest =>
    read.fault = .none ∧
    (r.leadsTo = some .completed ∧
        ConfirmsResult db s (traceIDOr (traceIDOr r.asCompleted.traceID traceID) s.traceID) rest ∨
      r.leadsTo = some .failed ∧ WriteArrives rest)
  | [] => False

/-- The write that releases the review does not happen, or it is answered and then the first
    write of the result's handler happens. The calls are the read of the row, the clock, and the
    write. -/
def ResumeKeeps (db : Database U) (s : Saga) (r : PaymentResult) (traceID : String) :
    List (Choice U) → Prop
  | read :: _ :: write :: rest =>
    read.fault ≠ .none ∨ write.fault = .notDelivered ∨
      write.fault = .none ∧ AppliesResult db s r traceID rest
  | _ => True

/-! ## Rows that a program leaves in some states -/

/-- The states a completion writes. -/
def Completing (state : SagaState) : Prop :=
  state = .ledgerConfirmed ∨ state = .completed

/-- The states a failure writes. -/
def Compensating (state : SagaState) : Prop :=
  state = .compensatingLedger ∨ state = .compensatingWallet ∨ state = .failed

/-- Every row a call writes for the payment has one of the states. -/
def WritesState (paymentID : String) (states : SagaState → Prop) (o : SagaOp) : Prop :=
  ∀ s ∈ o.row?, s.paymentID = paymentID → states s.state

variable {states : SagaState → Prop}

theorem WritesState.of_none {paymentID : String} (h : o.row? = none) :
    WritesState paymentID states o := by
  intro s hs
  rw [h] at hs
  cases hs

theorem WritesState.of_some {paymentID : String} (h : o.row? = some s) (hs : states s.state) :
    WritesState paymentID states o := by
  intro s' hs'
  rw [h] at hs'
  cases hs'
  exact fun _ => hs

/-- The stored row of the payment has one of the states. -/
def World.InState (w : World U) (paymentID : String) (states : SagaState → Prop) : Prop :=
  ∃ row, w.saga? paymentID = some row ∧ states row.state

theorem World.InState.run {paymentID : String} {a : o.Ret} (ho : WritesState paymentID states o)
    (h : w.InState paymentID states) (hrun : o.run c w = (.ok a, w')) :
    w'.InState paymentID states := by
  obtain ⟨row, hrow, hstate⟩ := h
  rcases run_row hrun hrow with hsame | ⟨s, hs, hp, hwritten⟩
  · exact ⟨row, hsame, hstate⟩
  · exact ⟨_, hwritten, ho s hs hp⟩

theorem World.InState.exec {paymentID : String} (c : Choice U) (o : SagaOp) (w : World U)
    (ho : WritesState paymentID states o) (h : w.InState paymentID states) :
    (o.exec c w).2.InState paymentID states := by
  exact exec_world h fun _ _ hrun => h.run ho hrun

variable {α : Type}

/-- A write of the row that reaches the store, followed by a program that keeps to the states. -/
theorem InState.runFor_update (states : SagaState → Prop) {k : Except SagaErr Saga → SagaProg α}
    (hrow : w.saga? s.paymentID = some row) (hs : states s.state)
    (hk : ∀ r, (k r).Only (WritesState s.paymentID states)) (hc : c.fault ≠ .notDelivered)
    (cs : List (Choice U)) :
    ((Prog.call (SagaOp.update s) k).runFor (sagaMachine U) (c :: cs) w).InState s.paymentID
      states := by
  have hwritten : ((SagaOp.update s).exec c w).2.InState s.paymentID states := by
    have hrun : ((SagaOp.update s).run c w).2 = w.afterWrite c.env.now s [] none := by
      simp only [SagaOp.run, World.update, World.write_eq hrow, SagaOp.run.commit]
    have hstored : (w.afterWrite c.env.now s [] none).InState s.paymentID states :=
      ⟨_, World.saga?_afterWrite hrow _ _ _, hs⟩
    cases hf : c.fault with
    | notDelivered => exact absurd hf hc
    | none =>
      rw [exec_none hf, hrun]
      exact hstored
    | answerLost =>
      rw [exec_answerLost (o := .update s) (by simp) hf, hrun]
      exact hstored
  have hstep : ∀ c o (w : World U), WritesState s.paymentID states o →
      w.InState s.paymentID states → ((sagaMachine U).exec c o w).2.InState s.paymentID states :=
    World.InState.exec
  exact (hk _).runFor hstep hwritten cs

/-! ## The two handlers on a released row -/

/-- The payment is released and nothing holds its result any more. -/
def World.Released (w : World U) (paymentID : String) : Prop :=
  w.InState paymentID (· = .paymentProcessing)

omit [UuidLib U] in
theorem World.Released.not_keeps {paymentID : String} {r : PaymentResult}
    (h : w.Released paymentID) : ¬ w.Keeps paymentID r := by
  obtain ⟨row, hrow, hstate⟩ := h
  rintro ⟨row', hrow', hkeeps⟩
  cases hrow.symm.trans hrow'
  have hterminal : r.leadsTo ≠ some .paymentProcessing := by
    unfold PaymentResult.leadsTo
    split
    · simp
    · split <;> simp
  rcases hkeeps with ⟨h, -⟩ | h | h | h | h
  · cases hstate.symm.trans h
  · cases hstate.symm.trans h
  · cases hstate.symm.trans h
  · cases hstate.symm.trans h
  · rw [hstate] at h
    exact hterminal h

/-- The clock always answers. -/
theorem runFor_now (f : Time → SagaProg α) (clock : Choice U) (cs : List (Choice U)) :
    (now >>= f).runFor (sagaMachine U) (clock :: cs) w =
      (f clock.clock).runFor (sagaMachine U) cs w := by
  rw [Prog.perform_bind]
  rfl

/-- Reading a stored row: the program goes on with it, or ends with nothing changed. -/
theorem runFor_getByPaymentID {paymentID : String} (hrow : w.saga? paymentID = some row)
    (f : Saga → SagaProg α) (read : Choice U) (cs : List (Choice U)) :
    (getByPaymentID paymentID >>= f).runFor (sagaMachine U) (read :: cs) w =
      if read.fault = .none then (f row).runFor (sagaMachine U) cs w else w := by
  have hrun : (SagaOp.getByPaymentID paymentID).run read w = (.ok row, w) := by
    simp only [SagaOp.run, World.getByPaymentID, hrow, Except.ofOption]
  rw [Prog.perform_bind, Prog.runFor_call, sagaMachine_exec]
  cases hf : read.fault with
  | none => simp [exec_none hf, hrun]
  | notDelivered => simp [exec_notDelivered (o := .getByPaymentID paymentID) (by simp) hf]
  | answerLost => simp [exec_answerLost (o := .getByPaymentID paymentID) (by simp) hf, hrun]

/-- The clock is read, a row is written, and the rest keeps to some states: the result is kept
    exactly if the write reaches the store. -/
theorem clock_write_keeps_iff {paymentID : String} {r : PaymentResult} (states : SagaState → Prop)
    (hstates : ∀ row : Saga, states row.state → KeepsResult r row) {s' : Time → Saga}
    {k : Time → Saga → SagaProg α} (hw : w.Released paymentID)
    (hs' : ∀ t, (s' t).paymentID = paymentID ∧ states (s' t).state)
    (hk : ∀ t s, (k t s).Only (WritesState paymentID states)) (cs : List (Choice U)) :
    ((now >>= fun t => update (s' t) >>= k t).runFor (sagaMachine U) cs w).Keeps paymentID r ↔
      WriteArrives cs := by
  match cs with
  | [] | [clock] =>
    -- the row is as it was
    exact iff_of_false hw.not_keeps id
  | clock :: write :: cs =>
    rw [runFor_now, Prog.perform_bind]
    obtain ⟨row, hrow, -⟩ := id hw
    obtain ⟨hp, hstate⟩ := hs' clock.clock
    by_cases hc : write.fault = .notDelivered
    · rw [Prog.runFor_call, sagaMachine_exec, exec_notDelivered (o := .update _) (by simp) hc,
        Prog.onAnswer_error, Prog.runFor_fail]
      exact iff_of_false hw.not_keeps fun h => h hc
    · refine iff_of_true ?_ hc
      have hdone := InState.runFor_update states (s := s' clock.clock)
        (k := Prog.onAnswer (k clock.clock)) (by rw [hp]; exact hrow) hstate ?_ hc cs
      · rw [hp] at hdone
        obtain ⟨row, hrow, hstate⟩ := hdone
        exact ⟨row, hrow, hstates row hstate⟩
      · intro answer
        rw [hp]
        cases answer with
        | error e => trivial
        | ok s => exact hk _ s

/-- When the ledger confirms. -/
theorem exec_confirmTransfer_ok_iff (c : Choice U) (w : World U) (req : LedgerConfirmRequest) :
    (∃ result, (SagaOp.exec c (.confirmTransfer req) w).1 = .ok result) ↔
      c.fault = .none ∧ ∃ result db',
        LedgerGRPCClient.confirmTransfer w.db c.env req = .ok (result, db') := by
  constructor
  · rintro ⟨result, h⟩
    have hf := fault_of_exec_ok (o := .confirmTransfer req) (by simp) h
    rw [exec_none hf] at h
    obtain ⟨db', hok, -⟩ := rpc_eq_ok.mp (Prod.ext h rfl)
    exact ⟨hf, result, db', hok⟩
  · rintro ⟨hf, result, db', hok⟩
    refine ⟨result, ?_⟩
    rw [exec_none hf]
    simp only [SagaOp.run, hok, SagaOp.run.rpc]

theorem applyPaymentCompleted_keeps_iff {r : PaymentResult} (hr : r.leadsTo = some .completed)
    (hrow : w.saga? row.paymentID = some row) (hstate : row.state = .paymentProcessing)
    (e : PaymentCompleted) (paymentID : String) (cs : List (Choice U)) :
    ((applyPaymentCompleted row e >>= fun _ => getByPaymentID paymentID).runFor (sagaMachine U) cs
      w).Keeps row.paymentID r ↔
      ConfirmsResult w.db row (traceIDOr e.traceID row.traceID) cs := by
  have hreleased : w.Released row.paymentID := ⟨row, hrow, hstate⟩
  match cs with
  | [] => exact iff_of_false hreleased.not_keeps id
  | confirm :: cs =>
    have hreleased' := World.InState.exec confirm (.confirmTransfer (ledgerConfirmRequest row
      (traceIDOr e.traceID row.traceID))) w (.of_none rfl) hreleased
    have hok := exec_confirmTransfer_ok_iff confirm w
      (ledgerConfirmRequest row (traceIDOr e.traceID row.traceID))
    simp only [applyPaymentCompleted, Prog.bind_assoc]
    rw [Prog.perform_bind, Prog.runFor_call, sagaMachine_exec]
    cases ha : (SagaOp.exec confirm (.confirmTransfer (ledgerConfirmRequest row
      (traceIDOr e.traceID row.traceID))) w).1 with
    | error error =>
      -- the error of the ledger ends the handler
      rw [Prog.onAnswer_error, Prog.runFor_fail]
      refine iff_of_false (World.Released.not_keeps hreleased') fun h => ?_
      obtain ⟨result, hresult⟩ := hok.mpr ⟨h.1, h.2.1⟩
      rw [ha] at hresult
      cases hresult
    | ok confirmed =>
      rw [Prog.onAnswer_ok, clock_write_keeps_iff Completing ?_ hreleased' ?_ ?_]
      · obtain ⟨hfault, hresult⟩ := hok.mp ⟨confirmed, ha⟩
        exact ⟨fun h => ⟨hfault, hresult, h⟩, fun h => h.2.2⟩
      · rintro row (hc | hc)
        · exact .inr (.inl hc)
        · exact .inr (.inr (.inr (.inr (by rw [hr, hc]))))
      · exact fun t => ⟨rfl, .inl rfl⟩
      · intro t s
        exact .bind (.bind (.perform (.of_none rfl)) fun _ => .perform (.of_none rfl)) fun _ =>
          .bind (.perform (.of_some rfl (.inr rfl))) fun _ => .perform (.of_none rfl)

theorem applyPaymentFailed_keeps_iff {r : PaymentResult} (hr : r.leadsTo = some .failed)
    (hrow : w.saga? row.paymentID = some row) (hstate : row.state = .paymentProcessing)
    (e : PaymentFailed) (paymentID : String) (cs : List (Choice U)) :
    ((applyPaymentFailed row e >>= fun _ => getByPaymentID paymentID).runFor (sagaMachine U) cs
      w).Keeps row.paymentID r ↔ WriteArrives cs := by
  simp only [applyPaymentFailed, Prog.bind_assoc]
  refine clock_write_keeps_iff Compensating ?_ ⟨row, hrow, hstate⟩ ?_ ?_ cs
  · rintro row (hc | hc | hc)
    · exact .inr (.inr (.inl hc))
    · exact .inr (.inr (.inr (.inl hc)))
    · exact .inr (.inr (.inr (.inr (by rw [hr, hc]))))
  · exact fun t => ⟨rfl, .inl rfl⟩
  · intro t s
    exact .bind (.perform (.of_none rfl)) fun _ =>
      .bind (.perform (.of_some rfl (.inr (.inl rfl)))) fun _ =>
      .bind (.perform (.of_none rfl)) fun _ =>
      .bind (.perform (.of_some rfl (.inr (.inr rfl)))) fun _ =>
      .bind (.bind (.perform (.of_none rfl)) fun _ => .perform (.of_none rfl)) fun _ =>
      .perform (.of_none rfl)

/-! ## The stored result -/

theorem PaymentResult.paymentID_asCompleted (r : PaymentResult) :
    r.asCompleted.paymentID = r.paymentID := by
  cases r <;> rfl

theorem PaymentResult.paymentID_asFailed (r : PaymentResult) :
    r.asFailed.paymentID = r.paymentID := by
  cases r <;> rfl

/-- Applying the stored result to a released row. -/
theorem applyDeferredResult_keeps_iff {r : PaymentResult} (hp : r.paymentID = row.paymentID)
    (hrow : w.saga? row.paymentID = some row) (hstate : row.state = .paymentProcessing)
    (traceID paymentID : String) (cs : List (Choice U)) :
    ((applyDeferredResult r traceID >>= fun _ => getByPaymentID paymentID).runFor (sagaMachine U)
      cs w).Keeps row.paymentID r ↔ AppliesResult w.db row r traceID cs := by
  have hreleased : w.Released row.paymentID := ⟨row, hrow, hstate⟩
  match cs with
  | [] =>
    rw [Prog.runFor_nil]
    exact iff_of_false hreleased.not_keeps id
  | read :: cs =>
    have hcompleted := r.paymentID_asCompleted.trans hp
    have hfailed := r.paymentID_asFailed.trans hp
    unfold applyDeferredResult AppliesResult
    by_cases hc : Go.hasPrefix (deferredEventID r) (topicPaymentCompleted ++ ":")
    · have hr : r.leadsTo = some .completed := if_pos hc
      rw [if_pos hc]
      simp only [handlePaymentCompleted, Prog.bind_assoc, hcompleted]
      rw [runFor_getByPaymentID hrow]
      by_cases hf : read.fault = .none
      · simp [hf, hstate, hr, applyPaymentCompleted_keeps_iff hr hrow hstate]
      · simp [hf, hreleased.not_keeps]
    · rw [if_neg hc]
      by_cases hc' : Go.hasPrefix (deferredEventID r) (topicPaymentFailed ++ ":")
      · have hr : r.leadsTo = some .failed := (if_neg hc).trans (if_pos hc')
        rw [if_pos hc']
        simp only [handlePaymentFailed, Prog.bind_assoc, hfailed]
        rw [runFor_getByPaymentID hrow]
        by_cases hf : read.fault = .none
        · simp [hf, hstate, hr, applyPaymentFailed_keeps_iff hr hrow hstate]
        · simp [hf, hreleased.not_keeps]
      · have hr : r.leadsTo = none := (if_neg hc).trans (if_neg hc')
        rw [if_neg hc', Prog.fail_bind, Prog.runFor_fail]
        simp [hr, hreleased.not_keeps]

/-- A write that releases the review, and the program after it. -/
theorem runFor_release {audit : FraudAuditRecord} (hrow : w.saga? s'.paymentID = some row)
    (f : Saga → SagaProg α) (write : Choice U) (cs : List (Choice U)) :
    (updateWithAudit s' audit >>= f).runFor (sagaMachine U) (write :: cs) w =
      match write.fault with
      | .none => (f (row.overwrite s' write.env.now)).runFor (sagaMachine U) cs
          (w.afterWrite write.env.now s' [] (some audit))
      | .notDelivered => w
      | .answerLost => w.afterWrite write.env.now s' [] (some audit) := by
  have hrun : (SagaOp.updateWithAudit s' audit).run write w =
      (.ok (row.overwrite s' write.env.now),
        w.afterWrite write.env.now s' [] (some audit)) := by
    simp only [SagaOp.run, World.updateWithAudit, World.write_eq hrow, SagaOp.run.commit]
  rw [Prog.perform_bind, Prog.runFor_call, sagaMachine_exec]
  cases hf : write.fault with
  | none => simp [exec_none hf, hrun]
  | notDelivered => simp [exec_notDelivered (o := .updateWithAudit s' audit) (by simp) hf]
  | answerLost => simp [exec_answerLost (o := .updateWithAudit s' audit) (by simp) hf, hrun]

/-- Whatever happens during `ResumeFraudReview`, the stored result is kept exactly in the calls
    that `ResumeKeeps` describes. -/
theorem resume_keeps_result_iff (hown : w.OwnResults) (hrow : w.saga? s.paymentID = some s)
    (hstate : s.state = .fraudReview) {r : PaymentResult}
    (hr : s.deferredPaymentJSON = some r) {d : FraudReviewDecision}
    (hd : d.paymentID = s.paymentID) (cs : List (Choice U)) :
    ((resumeFraudReview d).runFor (sagaMachine U) cs w).Keeps s.paymentID r ↔
      ResumeKeeps w.db s r d.traceID cs := by
  have hheld : w.Keeps s.paymentID r := ⟨s, hrow, .inl ⟨hstate, hr⟩⟩
  have hp : r.paymentID = s.paymentID := hown s (World.saga?_some hrow).1 r hr
  unfold resumeFraudReview
  rw [hd]
  match cs with
  | [] => exact iff_of_true hheld trivial
  | read :: cs =>
    rw [runFor_getByPaymentID hrow]
    by_cases hread : read.fault = .none
    · rw [if_pos hread, if_neg (not_not_intro hstate)]
      match cs with
      | [] | [clock] => exact iff_of_true hheld trivial
      | clock :: write :: cs =>
        -- the row as the release writes it
        let released : Saga := { s with state := .paymentProcessing, deferredPaymentJSON := none,
                                        updatedAt := clock.clock }
        have hrow' : w.saga? released.paymentID = some s := hrow
        have hstored := World.saga?_afterWrite hrow' write.env.now []
          (some (reviewAudit .resume .reviewResumed d s .paymentProcessing clock.clock))
        rw [runFor_now, runFor_release hrow', hr]
        cases hwrite : write.fault with
        | notDelivered => exact iff_of_true hheld (.inr (.inl hwrite))
        | answerLost =>
          have hreleased : World.Released _ s.paymentID := ⟨_, hstored, rfl⟩
          refine iff_of_false hreleased.not_keeps ?_
          simp [ResumeKeeps, hread, hwrite]
        | none =>
          have hp' : r.paymentID = (s.overwrite released write.env.now).paymentID := hp
          have hdb : ∀ (now : Time) (audit : Option FraudAuditRecord),
              (w.afterWrite now released [] audit).db = w.db := by
            simp [World.afterWrite]
          -- nothing the ledger is asked with has changed
          refine (applyDeferredResult_keeps_iff hp' hstored rfl d.traceID s.paymentID cs).trans ?_
          rw [hdb]
          have hiff : ResumeKeeps w.db s r d.traceID (read :: clock :: write :: cs) ↔
              AppliesResult w.db s r d.traceID cs := by
            simp [ResumeKeeps, hread, hwrite]
          rw [hiff]
          cases cs <;> rfl
    · rw [if_neg hread]
      match cs with
      | [] | [clock] => exact iff_of_true hheld trivial
      | clock :: write :: cs => exact iff_of_true hheld (.inl hread)

namespace Sample

def reviewDecision : FraudReviewDecision :=
  { paymentID := text paymentID, actorID := "analyst-1", reason := "", traceID := "trace-2" }

/-- The payment is under review when a result arrives. -/
def reviewed (result : SagaRequest) : World CanonicalUuid :=
  oneAtATime world [(.start startRequest, choices 0 20), (.fraudFlagged flaggedEvent, choices 20 5),
    (result, choices 30 5)]

/-- The row of the payment under review, with the failure that waits for the decision. -/
def reviewedRow : Saga :=
  ((reviewed (.paymentFailed failedEvent)).saga? (text paymentID)).getD (startedSaga startRequest 0)

theorem reviewed_ownResults (result : SagaRequest) :
    (reviewed result).Keyed ∧ (reviewed result).OwnResults :=
  ownResults_interpretation.oneAtATime_inv ⟨world_keyed, fun _ h => by cases h⟩
    fun _ _ _ _ => trivial

/-- The calls of a resume in which the ledger is not reachable. -/
def ledgerDown : List (Choice CanonicalUuid) :=
  choices 40 4 ++ [{ choice 44 with fault := .notDelivered }]

end Sample

/-- However the handlers interleave, a stored result is about the payment of its row. -/
theorem interleave_ownResults (hk : w.Keyed) (hw : w.OwnResults)
    (acts : List (Act SagaRequest (Choice U))) : (interleave w acts).world.OwnResults :=
  (ownResults_interpretation.interleave_inv ⟨hk, hw⟩ fun _ _ _ _ => trivial).2

/-- A failure is stored when its event is delivered again and a reviewer decides, call by call. -/
theorem interleave_ownResults_reviewed :
    ((Sample.reviewed (.paymentFailed Sample.failedEvent)).sagas.map (·.deferredPaymentJSON)) =
        [some (.failed Sample.failedEvent)] ∧
      (interleave (Sample.reviewed (.paymentFailed Sample.failedEvent))
        (.start (.resumeReview Sample.reviewDecision) ::
          .start (.paymentFailed Sample.failedEvent) ::
          (List.range 20).flatMap fun n => [.step 0 (Sample.choice (40 + 2 * n)),
            .step 1 (Sample.choice (41 + 2 * n))])).world.OwnResults :=
  ⟨by decide +kernel, interleave_ownResults (Sample.reviewed_ownResults _).1
    (Sample.reviewed_ownResults _).2 _⟩

/-- A failure that waits for the decision and is applied by it. -/
theorem resume_keeps_failure :
    ((resumeFraudReview Sample.reviewDecision).runFor (sagaMachine CanonicalUuid)
      (Sample.choices 40 20) (Sample.reviewed (.paymentFailed Sample.failedEvent))).Keeps
        Sample.reviewedRow.paymentID (.failed Sample.failedEvent) := by
  refine (resume_keeps_result_iff (Sample.reviewed_ownResults _).2 (by decide +kernel)
    (by decide +kernel) (by decide +kernel) (by decide +kernel) _).mpr ?_
  exact .inr (.inr ⟨rfl, rfl, .inr ⟨by decide +kernel, fun h => by cases h⟩⟩)

/-- A completion that waits for the decision is lost when the ledger cannot be reached: the row
    is back in PAYMENT_PROCESSING without it, and a restart leaves it there. -/
theorem resume_loses_completion :
    (∃ row, (Sample.reviewed (.paymentCompleted Sample.completedEvent)).saga?
        (text Sample.paymentID) = some row ∧ row.state = .fraudReview ∧
        row.deferredPaymentJSON = some (.completed Sample.completedEvent)) ∧
      ¬ ((resumeFraudReview Sample.reviewDecision).runFor (sagaMachine CanonicalUuid)
        Sample.ledgerDown (Sample.reviewed (.paymentCompleted Sample.completedEvent))).Keeps
          (text Sample.paymentID) (.completed Sample.completedEvent) ∧
      ¬ (oneAtATime (Sample.reviewed (.paymentCompleted Sample.completedEvent))
        [(.resumeReview Sample.reviewDecision, Sample.ledgerDown),
          (.resumeNonTerminal, Sample.choices 50 20)]).Keeps
          (text Sample.paymentID) (.completed Sample.completedEvent) := by
  have hlost : ∀ w : World CanonicalUuid,
      (w.saga? (text Sample.paymentID)).map (·.state) = some .paymentProcessing →
      ¬ w.Keeps (text Sample.paymentID) (.completed Sample.completedEvent) := by
    intro w h
    obtain ⟨row, hrow, hstate⟩ := Option.map_eq_some_iff.mp h
    exact World.Released.not_keeps ⟨row, hrow, hstate⟩
  refine ⟨?_, hlost _ (by decide +kernel), hlost _ (by decide +kernel)⟩
  have hheld : ((Sample.reviewed (.paymentCompleted Sample.completedEvent)).saga?
      (text Sample.paymentID)).map (fun row => (row.state, row.deferredPaymentJSON)) =
        some (.fraudReview, some (.completed Sample.completedEvent)) := by
    decide +kernel
  obtain ⟨row, hrow, heq⟩ := Option.map_eq_some_iff.mp hheld
  exact ⟨row, hrow, (Prod.mk.inj heq).1, (Prod.mk.inj heq).2⟩

end EnjoyThings
