import EnjoyThings.Spec.SagaReview
import EnjoyThings.Spec.WalletsFrame

/-!
# Which payment result wins

A payment may be delivered `payment.completed` and `payment.failed` in any number
and order, and each delivery may stop after any of its steps. All that decides the
direction of the saga is its `Standing`: the state of the row and the status of the
payment's reservation. The handlers guard the terminal states and the review only, so
there are standings in which the opposite result turns the saga around
(`second_result_wins`). `Standing.Orderly` excludes those deliveries, and then the
first result that takes effect wins (`first_result_wins`).
-/

namespace EnjoyThings

open Effect Orchestrator

variable {U : Type} [UuidLib U] {w w' : World U} {s : Saga} {c : Choice U} {paymentID : String}

/-! ## Standings -/

/-- What decides the direction of a saga. -/
structure Standing where
  state : SagaState
  reservation : Option ReservationStatus
  deriving DecidableEq

def World.standing (w : World U) (paymentID : String) : Option Standing :=
  (w.saga? paymentID).map fun row => ⟨row.state, w.reservationStatus paymentID⟩

/-- The states that may follow a state. `repeats` says whether a failure that is delivered again
    may take the saga from COMPENSATING_WALLET back to COMPENSATING_LEDGER. -/
def SagaState.Before (repeats : Bool) : SagaState → SagaState → Prop
  | .ledgerConfirmed, state => state = .ledgerConfirmed ∨ state = .completed
  | .completed, state => state = .completed
  | .compensatingLedger, state =>
    state = .compensatingLedger ∨ state = .compensatingWallet ∨ state = .failed
  | .compensatingWallet, state =>
    state = .compensatingWallet ∨ state = .failed ∨ repeats ∧ state = .compensatingLedger
  | .failed, state => state = .failed
  | _, _ => True

/-- The direction is kept: a transfer the ledger has confirmed is not compensated, and the
    states only go on towards the end they lead to. -/
structure Standing.Onward (repeats : Bool) (v v' : Standing) : Prop where
  confirmed : v.reservation = some .confirmed → v'.reservation = some .confirmed
  completes : v.reservation = some .confirmed → ¬ Compensating v.state → ¬ Compensating v'.state
  state : v.state.Before repeats v'.state

theorem SagaState.Before.refl (repeats : Bool) (state : SagaState) :
    state.Before repeats state := by
  cases state <;> simp [Before]

theorem SagaState.Before.trans {repeats : Bool} {s₁ s₂ s₃ : SagaState}
    (h : s₁.Before repeats s₂) (h' : s₂.Before repeats s₃) : s₁.Before repeats s₃ := by
  cases s₁ <;> simp only [Before] at h ⊢
  case ledgerConfirmed =>
    rcases h with rfl | rfl
    · exact h'
    · exact .inr h'
  case completed =>
    subst h
    exact h'
  case compensatingLedger =>
    rcases h with rfl | rfl | rfl
    · exact h'
    · rcases h' with h' | h' | h'
      · exact .inr (.inl h')
      · exact .inr (.inr h')
      · exact .inl h'.2
    · exact .inr (.inr h')
  case compensatingWallet =>
    rcases h with rfl | rfl | ⟨hr, rfl⟩
    · exact h'
    · exact .inr (.inl h')
    · rcases h' with h' | h' | h'
      · exact .inr (.inr ⟨hr, h'⟩)
      · exact .inl h'
      · exact .inr (.inl h')
  case failed =>
    subst h
    exact h'

theorem Standing.Onward.refl (repeats : Bool) (v : Standing) : v.Onward repeats v :=
  ⟨fun h => h, fun _ h => h, .refl repeats v.state⟩

theorem Standing.Onward.trans {repeats : Bool} {v₁ v₂ v₃ : Standing}
    (h : v₁.Onward repeats v₂) (h' : v₂.Onward repeats v₃) : v₁.Onward repeats v₃ where
  confirmed hc := h'.confirmed (h.confirmed hc)
  completes hc hn := h'.completes (h.confirmed hc) (h.completes hc hn)
  state := h.state.trans h'.state

/-- What holds between the row and the reservation once the payment is being processed. -/
def Standing.Settled : Standing → Prop
  | ⟨.paymentProcessing, _⟩ => True
  | ⟨.ledgerConfirmed, status⟩ | ⟨.completed, status⟩ => status = some .confirmed
  | ⟨.compensatingLedger, status⟩ => status ≠ some .confirmed
  | ⟨.compensatingWallet, status⟩ | ⟨.failed, status⟩ => status = some .canceled
  | _ => False

/-- The deliveries that do not turn a saga around. A completion must not come while the saga is
    compensating and the reservation still open, and a failure must not come once the ledger
    has confirmed, unless the saga is COMPLETED already. -/
def Standing.Orderly (repeats : Bool) (v : Standing) : SagaRequest → Prop
  | .paymentCompleted _ =>
    ¬ (v.state = .compensatingLedger ∧ v.reservation = some .reserved)
  | .paymentFailed _ =>
    (v.reservation = some .confirmed → v.state = .completed) ∧
      (v.state = .compensatingWallet → repeats)
  | _ => False

instance (repeats : Bool) (v : Standing) : (q : SagaRequest) → Decidable (v.Orderly repeats q)
  | .paymentCompleted _ => inferInstanceAs (Decidable (¬ _))
  | .paymentFailed _ => inferInstanceAs (Decidable (_ ∧ _))
  | .start _ | .fraudFlagged _ | .resumeReview _ | .rejectReview _ => .isFalse id
  | .expireReviews _ | .resumeNonTerminal => .isFalse id

/-! ## The standing after a call -/

/-- The calls of the two handlers that change neither the row nor a reservation. -/
def SagaOp.Quiet : SagaOp → Prop
  | .now | .getByPaymentID _ | .recordFraudAudit _ | .enqueue _ | .compensateDebit _ => True
  | _ => False

theorem World.standing_congr (hs : w'.sagas = w.sagas)
    (hr : w'.db.reservations = w.db.reservations) (paymentID : String) :
    w'.standing paymentID = w.standing paymentID := by
  have hlookup : w'.db.reservation? = w.db.reservation? := by
    funext u
    rw [Database.reservation?, hr, Database.reservation?]
  rw [World.standing, World.saga?, hs, World.reservationStatus, hlookup]
  rfl

theorem run_quiet {o : SagaOp} {a : o.Ret} (ho : o.Quiet) (h : o.run c w = (.ok a, w'))
    (paymentID : String) : w'.standing paymentID = w.standing paymentID := by
  cases o with
  | now | getByPaymentID _ | recordFraudAudit _ | enqueue _ =>
    obtain ⟨-, rfl⟩ := Prod.mk.inj h
    exact World.standing_congr rfl rfl paymentID
  | compensateDebit req =>
    obtain ⟨db, hdb, rfl⟩ := rpc_eq_ok.mp h
    obtain ⟨_, _, -, -, -, htx⟩ := WalletGRPCClient.compensateDebit_ok hdb
    refine World.standing_congr ?_ ?_ paymentID
    · rfl
    · exact (Database.compensateDebit_reservations htx).1
  | _ => exact ho.elim

theorem World.standing_some {v : Standing} (h : w.standing paymentID = some v) :
    ∃ row, w.saga? paymentID = some row ∧ row.state = v.state ∧
      w.reservationStatus paymentID = v.reservation := by
  obtain ⟨row, hrow, rfl⟩ := Option.map_eq_some_iff.mp h
  exact ⟨row, hrow, rfl, rfl⟩

theorem World.standing_of {row : Saga} {status : Option ReservationStatus}
    (hrow : w.saga? paymentID = some row) (hr : w.reservationStatus paymentID = status) :
    w.standing paymentID = some ⟨row.state, status⟩ := by
  rw [World.standing, hrow, Option.map_some, hr]

/-- A write sets the state of the standing. -/
theorem run_update_standing {v : Standing} {a : Saga} (hs : s.paymentID = paymentID)
    (hw : w.standing paymentID = some v) (h : (SagaOp.update s).run c w = (.ok a, w')) :
    w'.standing paymentID = some { v with state := s.state } := by
  obtain ⟨row, hrow, -, hr⟩ := World.standing_some hw
  obtain ⟨_, -, -, rfl⟩ := World.write_ok (commit_eq_ok.mp h)
  subst hs
  have hrow' := World.saga?_afterWrite hrow c.env.now [] none
  have hstanding := World.standing_of hrow' hr
  exact hstanding

/-- A confirm takes an open reservation, or one that is confirmed already. -/
theorem run_confirm_standing {v : Standing} {a : LedgerConfirmResult} {traceID : String}
    (hs : s.paymentID = paymentID) (hk : w.Keyed) (hw : w.standing paymentID = some v)
    (h : (SagaOp.confirmTransfer (ledgerConfirmRequest s traceID)).run c w = (.ok a, w')) :
    (v.reservation = some .reserved ∨ v.reservation = some .confirmed) ∧
      w'.standing paymentID = some { v with reservation := some .confirmed } := by
  obtain ⟨db, hdb, rfl⟩ := rpc_eq_ok.mp h
  obtain ⟨cmd, confirmation, hp, -, -, -, htx⟩ := LedgerGRPCClient.confirmTransfer_ok hdb
  obtain ⟨row, hrow, hstate, hr⟩ := World.standing_some hw
  replace hp : parse paymentID = some cmd.paymentID := hs ▸ hp
  rw [World.reservationStatus_of_parse hp] at hr
  constructor
  · obtain ⟨r, hr', -, ⟨hstatus, -⟩ | ⟨hstatus, -⟩⟩ := Database.confirmTransfer_ok htx
    · rw [← hr, hr', Option.map_some, hstatus]
      exact .inr rfl
    · rw [← hr, hr', Option.map_some, hstatus]
      exact .inl rfl
  · obtain ⟨r, hr', hstatus⟩ := Database.confirmTransfer_status hk.db htx
    rw [← hstate]
    refine World.standing_of hrow ?_
    rw [World.reservationStatus_of_parse hp, hr', Option.map_some, hstatus]

/-- A cancellation takes an open reservation, or one that is canceled already. -/
theorem run_cancel_standing {v : Standing} {a : Unit} {traceID reason : String}
    (hs : s.paymentID = paymentID) (hk : w.Keyed) (hw : w.standing paymentID = some v)
    (h : (SagaOp.cancelReservation (ledgerCancelRequest s traceID reason)).run c w = (.ok a, w')) :
    w'.standing paymentID = some { v with reservation := some .canceled } ∧
      v.reservation ≠ some .confirmed := by
  obtain ⟨db, hdb, rfl⟩ := rpc_eq_ok.mp h
  obtain ⟨cmd, o, hp, -, htx⟩ := LedgerGRPCClient.cancelReservation_ok hdb
  obtain ⟨row, hrow, hstate, hr⟩ := World.standing_some hw
  replace hp : parse paymentID = some cmd.paymentID := hs ▸ hp
  rw [World.reservationStatus_of_parse hp] at hr
  constructor
  · obtain ⟨r, hr', hstatus⟩ := Database.cancelReservation_status hk.db htx
    rw [← hstate]
    refine World.standing_of hrow ?_
    rw [World.reservationStatus_of_parse hp, hr', Option.map_some, hstatus]
  · obtain ⟨r, hr', -, ⟨hstatus, -⟩ | ⟨hstatus, -⟩⟩ := Database.cancelReservation_ok htx
    · rw [← hr, hr', Option.map_some, hstatus]
      simp
    · rw [← hr, hr', Option.map_some, hstatus]
      simp

/-! ## The handlers -/

/-- The contract of the two handlers, which run one at a time. -/
def directionContract (U : Type) [UuidLib U] (repeats : Bool) (paymentID : String) :
    Contract (sagaMachine U) :=
  .undisturbed (fun _ _ _ _ => True)
    (fun w => w.Keyed ∧ ∃ v, w.standing paymentID = some v ∧ v.Settled)
    fun w w' => ∀ v, w.standing paymentID = some v →
      ∃ v', w'.standing paymentID = some v' ∧ v.Onward repeats v'

section Handlers

variable {repeats : Bool} {α : Type} {v : Standing} {seen : Seen}

theorem directionContract_guar_refl (w : World U) :
    (directionContract U repeats paymentID).guar w w :=
  fun v hv => ⟨v, hv, .refl repeats v⟩

theorem directionContract_guar_trans {w₁ w₂ w₃ : World U}
    (h : (directionContract U repeats paymentID).guar w₁ w₂)
    (h' : (directionContract U repeats paymentID).guar w₂ w₃) :
    (directionContract U repeats paymentID).guar w₁ w₃ := by
  intro v hv
  obtain ⟨v₂, hv₂, hon⟩ := h v hv
  obtain ⟨v₃, hv₃, hon'⟩ := h' v₂ hv₂
  exact ⟨v₃, hv₃, hon.trans hon'⟩

/-- A call that takes the standing `v` to `v'`, whether or not its answer arrives. -/
theorem safe_call {o : SagaOp} {f : o.Ret → SagaProg α} (hw : w.standing paymentID = some v)
    (hstep : ∀ c a w', w.Keyed → v.Settled → o.run c w = (.ok a, w') →
      ∃ v', w'.standing paymentID = some v' ∧ v'.Settled ∧ v.Onward repeats v' ∧
        ∀ seen, (directionContract U repeats paymentID).Safe (f a) seen w') :
    (directionContract U repeats paymentID).Safe (.call o (Prog.onAnswer f)) seen w := by
  rintro _ rfl ⟨hk, u, hu, hsettled⟩ c -
  obtain rfl := Option.some.inj (hu.symm.trans hw)
  rw [sagaMachine_exec]
  rcases exec_outcome c o w with ⟨e, he⟩ | ⟨a, w', hrun, he | ⟨e, he⟩⟩
  · rw [he]
    exact ⟨⟨hk, u, hu, hsettled⟩, directionContract_guar_refl w, Contract.safe_fail e⟩
  all_goals
    obtain ⟨v', hv', hsettled', hon, hsafe⟩ := hstep c a w' hk hsettled hrun
    have hguar : (directionContract U repeats paymentID).guar w w' := by
      intro v hv
      cases hu.symm.trans hv
      exact ⟨v', hv', hon⟩
    rw [he]
  · exact ⟨⟨(run_grows hk hrun).1, v', hv', hsettled'⟩, hguar, hsafe _⟩
  · exact ⟨⟨(run_grows hk hrun).1, v', hv', hsettled'⟩, hguar, Contract.safe_fail e⟩

/-- A call that leaves the standing as it is. -/
theorem safe_quiet {o : SagaOp} {f : o.Ret → SagaProg α} (hw : w.standing paymentID = some v)
    (ho : o.Quiet) (hf : ∀ c a w', o.run c w = (.ok a, w') → w'.standing paymentID = some v →
      ∀ seen, (directionContract U repeats paymentID).Safe (f a) seen w') :
    (directionContract U repeats paymentID).Safe (.call o (Prog.onAnswer f)) seen w := by
  refine safe_call hw fun c a w' _ hsettled hrun => ?_
  have hw' := (run_quiet ho hrun paymentID).trans hw
  exact ⟨v, hw', hsettled, .refl repeats v, hf c a w' hrun hw'⟩

/-- A write of the row. -/
theorem safe_update {f : Saga → SagaProg α} (hw : w.standing paymentID = some v)
    (hs : s.paymentID = paymentID) (hsettled : Standing.Settled { v with state := s.state })
    (hon : v.Onward repeats { v with state := s.state })
    (hf : ∀ a w', a.paymentID = paymentID →
      w'.standing paymentID = some { v with state := s.state } →
      ∀ seen, (directionContract U repeats paymentID).Safe (f a) seen w') :
    (directionContract U repeats paymentID).Safe (.call (.update s) (Prog.onAnswer f)) seen w := by
  refine safe_call hw fun c a w' _ _ hrun => ?_
  have hw' := run_update_standing hs hw hrun
  refine ⟨_, hw', hsettled, hon, hf a w' ?_ hw'⟩
  obtain ⟨row, hrow, rfl, -⟩ := World.write_ok (commit_eq_ok.mp hrun)
  exact (World.saga?_some hrow).2.trans hs

/-- A quiet call that ends a handler. -/
theorem safe_quiet_last {o : SagaOp} (hw : w.standing paymentID = some v) (ho : o.Quiet) :
    (directionContract U repeats paymentID).Safe (Prog.perform o) seen w := by
  rw [Prog.perform_eq]
  exact safe_quiet hw ho fun _ a _ _ _ _ => Contract.safe_done a

theorem auditResult_safe {eventID : String} {kind : FraudAuditKind} {details : AuditDetails}
    (hw : w.standing paymentID = some v) :
    (directionContract U repeats paymentID).Safe (auditResult s eventID kind details) seen w := by
  rw [auditResult, Prog.perform_bind]
  refine safe_quiet hw trivial fun _ t w' _ hw' seen => ?_
  exact safe_quiet_last hw' trivial

/-- The confirm of a saga that is not compensating, and the writes after it. -/
theorem applyPaymentCompleted_safe (e : PaymentCompleted) (hw : w.standing paymentID = some v)
    (hs : s.paymentID = paymentID)
    (hv : v.reservation = some .reserved ∨ v.reservation = some .confirmed →
      v.state = .paymentProcessing ∨ v.state = .ledgerConfirmed) :
    (directionContract U repeats paymentID).Safe (applyPaymentCompleted s e) seen w := by
  rw [applyPaymentCompleted, Prog.perform_bind]
  refine safe_call hw fun c confirmed w₁ hk _ hrun => ?_
  obtain ⟨hopen, hw₁⟩ := run_confirm_standing hs hk hw hrun
  obtain ⟨state, status⟩ := v
  have hstate := hv hopen
  refine ⟨_, hw₁, ?_, ⟨fun _ => rfl, fun _ h => h, .refl repeats state⟩, fun seen => ?_⟩
  · rcases hstate with rfl | rfl
    · trivial
    · rfl
  rw [Prog.perform_bind]
  refine safe_quiet hw₁ trivial fun _ t w₂ _ hw₂ seen => ?_
  rw [Prog.perform_bind]
  refine safe_update hw₂ hs rfl ⟨fun h => h, fun _ _ => by simp [Compensating], ?_⟩
    fun row w₃ hrow hw₃ seen => ?_
  · rcases hstate with rfl | rfl
    · trivial
    · exact .inl rfl
  simp only [publishTxCompleted, Prog.bind_assoc]
  rw [Prog.perform_bind]
  refine safe_quiet hw₃ trivial fun _ t' w₄ _ hw₄ seen => ?_
  rw [Prog.perform_bind]
  refine safe_quiet hw₄ trivial fun _ _ w₅ _ hw₅ seen => ?_
  rw [Prog.perform_bind]
  refine safe_update hw₅ hrow rfl ⟨fun h => h, fun _ _ => by simp [Compensating], .inr rfl⟩
    fun _ _ _ _ _ => Contract.safe_done _

/-- The compensation of a saga whose transfer is not confirmed. -/
theorem applyPaymentFailed_safe (e : PaymentFailed) (hw : w.standing paymentID = some v)
    (hs : s.paymentID = paymentID) (hopen : v.reservation ≠ some .confirmed)
    (hbefore : v.state.Before repeats .compensatingLedger) :
    (directionContract U repeats paymentID).Safe (applyPaymentFailed s e) seen w := by
  obtain ⟨state, status⟩ := v
  rw [applyPaymentFailed, Prog.perform_bind]
  refine safe_quiet hw trivial fun _ t w₁ _ hw₁ seen => ?_
  rw [Prog.perform_bind]
  refine safe_update hw₁ hs hopen ⟨fun h => h, fun h => absurd h hopen, hbefore⟩
    fun row₁ w₂ hrow₁ hw₂ seen => ?_
  rw [Prog.perform_bind]
  refine safe_call hw₂ fun c _ w₃ hk _ hrun => ?_
  obtain ⟨hw₃, -⟩ := run_cancel_standing hrow₁ hk hw₂ hrun
  have hcanceled : some ReservationStatus.canceled ≠ some .confirmed := by decide
  refine ⟨_, hw₃, hcanceled, ⟨fun h => absurd h hopen, fun _ h => h, .refl repeats _⟩,
    fun seen => ?_⟩
  rw [Prog.perform_bind]
  refine safe_update hw₃ hrow₁ rfl ⟨fun h => h, fun h => absurd h hcanceled, .inr (.inl rfl)⟩
    fun row₂ w₄ hrow₂ hw₄ seen => ?_
  rw [Prog.perform_bind]
  refine safe_quiet hw₄ trivial fun _ _ w₅ _ hw₅ seen => ?_
  rw [Prog.perform_bind]
  refine safe_update hw₅ hrow₂ rfl ⟨fun h => h, fun h => absurd h hcanceled, .inr (.inl rfl)⟩
    fun row₃ w₆ _ hw₆ seen => ?_
  rw [publishTxFailed, Prog.perform_bind]
  refine safe_quiet hw₆ trivial fun _ t' w₇ _ hw₇ seen => ?_
  exact safe_quiet_last hw₇ trivial

/-- The row a handler reads first. -/
theorem run_getByPaymentID_standing {a : Saga} (hw : w.standing paymentID = some v)
    (h : (SagaOp.getByPaymentID paymentID).run c w = (.ok a, w')) :
    a.paymentID = paymentID ∧ a.state = v.state := by
  obtain ⟨row, hrow, hstate, -⟩ := World.standing_some hw
  have ha := World.getByPaymentID_eq_ok.mp (Prod.mk.inj h).1
  cases hrow.symm.trans ha
  exact ⟨(World.saga?_some hrow).2, hstate⟩

theorem handlePaymentCompleted_safe {e : PaymentCompleted} (he : e.paymentID = paymentID)
    (hw : w.standing paymentID = some v) (hsettled : v.Settled)
    (hv : v.Orderly repeats (.paymentCompleted e)) :
    (directionContract U repeats paymentID).Safe (handlePaymentCompleted e) seen w := by
  rw [handlePaymentCompleted, Prog.perform_bind, he]
  refine safe_quiet hw trivial fun c row w₁ hrun hw₁ seen => ?_
  obtain ⟨hp, hstate⟩ := run_getByPaymentID_standing hw hrun
  obtain ⟨state, status⟩ := v
  split
  · exact auditResult_safe hw₁
  · exact auditResult_safe hw₁
  · rename_i hreview
    rw [hreview] at hstate
    obtain rfl := hstate
    exact hsettled.elim
  · refine applyPaymentCompleted_safe e hw₁ hp fun hopen => ?_
    rename_i h₁ h₂ _
    rw [hstate] at h₁ h₂
    -- a saga that compensates has no reservation the ledger would confirm
    cases state with
    | paymentProcessing => exact .inl rfl
    | ledgerConfirmed => exact .inr rfl
    | compensatingLedger =>
      rcases hopen with hopen | hopen
      · exact absurd ⟨rfl, hopen⟩ hv
      · exact absurd hopen hsettled
    | compensatingWallet =>
      obtain rfl : status = some .canceled := hsettled
      rcases hopen with hopen | hopen <;> cases hopen
    | completed => exact absurd rfl h₁
    | failed => exact absurd rfl h₂
    | _ => exact hsettled.elim

theorem handlePaymentFailed_safe {e : PaymentFailed} (he : e.paymentID = paymentID)
    (hw : w.standing paymentID = some v) (hsettled : v.Settled)
    (hv : v.Orderly repeats (.paymentFailed e)) :
    (directionContract U repeats paymentID).Safe (handlePaymentFailed e) seen w := by
  rw [handlePaymentFailed, Prog.perform_bind, he]
  refine safe_quiet hw trivial fun c row w₁ hrun hw₁ seen => ?_
  obtain ⟨hp, hstate⟩ := run_getByPaymentID_standing hw hrun
  obtain ⟨state, status⟩ := v
  obtain ⟨hconfirmed, hrepeats⟩ := hv
  split
  · exact auditResult_safe hw₁
  · exact auditResult_safe hw₁
  · rename_i hreview
    rw [hreview] at hstate
    obtain rfl := hstate
    exact hsettled.elim
  · rename_i h₁ h₂ _
    rw [hstate] at h₁ h₂
    refine applyPaymentFailed_safe e hw₁ hp (fun h => h₂ (hconfirmed h)) ?_
    cases state with
    | paymentProcessing => trivial
    | ledgerConfirmed => cases hconfirmed hsettled
    | compensatingLedger => exact .inl rfl
    | compensatingWallet => exact .inr (.inr ⟨hrepeats rfl, rfl⟩)
    | completed => exact absurd rfl h₂
    | failed => exact absurd rfl h₁
    | _ => exact hsettled.elim

end Handlers

/-! ## Runs -/

/-- A delivery for the payment that finds it in a standing where it may come. -/
def Orderly (repeats : Bool) (paymentID : String) (q : SagaRequest) (w : World U) : Prop :=
  q.paymentID? = some paymentID ∧ ∀ v ∈ w.standing paymentID, v.Orderly repeats q

instance (repeats : Bool) (paymentID : String) (q : SagaRequest) (w : World U) :
    Decidable (Orderly repeats paymentID q w) :=
  inferInstanceAs (Decidable (_ ∧ _))

theorem handler_safe_of_orderly {repeats : Bool} (q : SagaRequest) (w : World U)
    (hq : Orderly repeats paymentID q w) (hi : (directionContract U repeats paymentID).inv w) :
    (directionContract U repeats paymentID).Safe q.handler [] w := by
  obtain ⟨hp, hv⟩ := hq
  obtain ⟨-, v, hw, hsettled⟩ := hi
  cases q with
  | paymentCompleted e =>
    exact handlePaymentCompleted_safe (Option.some.inj hp) hw hsettled (hv v hw)
  | paymentFailed e => exact handlePaymentFailed_safe (Option.some.inj hp) hw hsettled (hv v hw)
  | _ => exact (hv v hw).elim

/-- The direction of the payment's saga is kept between two worlds. -/
def World.KeepsDirection (repeats : Bool) (paymentID : String) (w w' : World U) : Prop :=
  ∃ v v', w.standing paymentID = some v ∧ w'.standing paymentID = some v' ∧ v.Onward repeats v'

/-- The first result that takes effect wins: however the deliveries are mixed and wherever each
    of them stops, the direction is kept from any step of the run to any later one, if every
    delivery finds the saga in a standing where it may come. -/
theorem first_result_wins (repeats : Bool) (hk : w.Keyed) {row : Saga}
    (hrow : w.saga? paymentID = some row) (hstate : row.state = .paymentProcessing)
    {reqs rest : List (SagaRequest × List (Choice U))} {q : SagaRequest}
    {cs cs' : List (Choice U)}
    (horderly : SerialObeys (sagaMachine U) SagaRequest.handler (Orderly repeats paymentID)
      (reqs ++ (q, cs ++ cs') :: rest) w) :
    World.KeepsDirection repeats paymentID (oneAtATime w (reqs ++ [(q, cs)]))
      (oneAtATime w (reqs ++ (q, cs ++ cs') :: rest)) := by
  have hi : (directionContract U repeats paymentID).inv w := by
    refine ⟨hk, _, World.standing_of hrow rfl, ?_⟩
    rw [hstate]
    trivial
  have hall : ∀ c : Choice U, (directionContract U repeats paymentID).Permitted c :=
    fun _ _ _ _ => trivial
  obtain ⟨-, v, hv, -⟩ := serial_inv (K := directionContract U repeats paymentID)
    handler_safe_of_orderly hi horderly.stop fun _ _ c _ => hall c
  obtain ⟨v', hv', hon⟩ := serial_guar_from (K := directionContract U repeats paymentID)
    directionContract_guar_refl directionContract_guar_trans handler_safe_of_orderly hi horderly
    (fun _ _ c _ => hall c) v hv
  exact ⟨v, v', hv, hv', hon⟩

namespace Sample

/-- The payment is started and waits for its result. -/
def processing : World CanonicalUuid :=
  oneAtATime world [(.start startRequest, choices 0 20)]

/-- A failure that stops once COMPENSATING_LEDGER is stored. -/
def failureStopped : SagaRequest × List (Choice CanonicalUuid) :=
  (.paymentFailed failedEvent, choices 20 3)

/-- A completion that stops once the ledger has confirmed the transfer. -/
def completionStopped : SagaRequest × List (Choice CanonicalUuid) :=
  (.paymentCompleted completedEvent, choices 20 2)

/-- A completion that runs to its end. -/
def completion : SagaRequest × List (Choice CanonicalUuid) :=
  (.paymentCompleted completedEvent, choices 40 10)

/-- A failure that runs to its end. -/
def failure : SagaRequest × List (Choice CanonicalUuid) :=
  (.paymentFailed failedEvent, choices 40 12)

theorem processing_keyed : processing.Keyed := by
  have hown : world.OwnResults := fun s hs => by cases hs
  exact (ownResults_interpretation.oneAtATime_inv ⟨world_keyed, hown⟩ fun _ _ _ _ => trivial).1

end Sample

/-- A completion that stops after the confirm, is delivered again, and is followed by a failure:
    the direction is kept from the first confirm of the second delivery on. -/
theorem first_result_wins_completion :
    World.KeepsDirection false (text Sample.paymentID)
      (oneAtATime Sample.processing ([Sample.completionStopped] ++
        [(.paymentCompleted Sample.completedEvent, Sample.choices 40 2)]))
      (oneAtATime Sample.processing ([Sample.completionStopped] ++
        (.paymentCompleted Sample.completedEvent, Sample.choices 40 2 ++ Sample.choices 42 8) ::
          [Sample.failure])) := by
  have hprocessing : (Sample.processing.saga? (text Sample.paymentID)).map (·.state) =
      some .paymentProcessing := by
    decide +kernel
  obtain ⟨row, hrow, hstate⟩ := Option.map_eq_some_iff.mp hprocessing
  have horderly : SerialObeys (sagaMachine CanonicalUuid) SagaRequest.handler
      (Orderly false (text Sample.paymentID)) ([Sample.completionStopped] ++
        (.paymentCompleted Sample.completedEvent, Sample.choices 40 2 ++ Sample.choices 42 8) ::
          [Sample.failure]) Sample.processing := by
    decide +kernel
  exact first_result_wins false Sample.processing_keyed hrow hstate horderly

/-- A saga that has begun to compensate is completed by a later completion, and one whose
    transfer is confirmed is left compensating by a later failure, for which the ledger refuses
    the cancellation. -/
theorem second_result_wins :
    (oneAtATime Sample.processing [Sample.failureStopped]).standing (text Sample.paymentID) =
      some ⟨.compensatingLedger, some .reserved⟩ ∧
    (oneAtATime Sample.processing [Sample.failureStopped, Sample.completion]).standing
      (text Sample.paymentID) = some ⟨.completed, some .confirmed⟩ ∧
    (oneAtATime Sample.processing [Sample.completionStopped]).standing (text Sample.paymentID) =
      some ⟨.paymentProcessing, some .confirmed⟩ ∧
    (oneAtATime Sample.processing [Sample.completionStopped, Sample.failure]).standing
      (text Sample.paymentID) = some ⟨.compensatingLedger, some .confirmed⟩ := by
  decide +kernel

end EnjoyThings
