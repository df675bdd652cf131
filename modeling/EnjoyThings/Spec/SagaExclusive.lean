import EnjoyThings.Spec.SagaInvariant

/-!
# A payment is settled or refunded, not both

The saga row is written blindly, so what a handler reads in it may be long out of
date. What keeps the two outcomes apart is the ledger: a reservation leaves
RESERVED once, to CONFIRMED or to CANCELED, and stays there. Every later step of
either outcome is taken only by a handler whose row was stored after that, which
`rowNeeds` expresses state by state.
-/

namespace EnjoyThings

open Effect Orchestrator

variable {U : Type} [UuidLib U] {w w' : World U} {s s' : Saga}

/-! ## The two outcomes -/

/-- Before the first payment: no saga, no wallet operation, no reservation, and only transfers
    announced. The wallets, the transfers and the ledger entries are any. -/
structure World.Idle (w : World U) : Prop where
  keyed : w.db.Keyed
  sagas : w.sagas = []
  operations : w.db.operations = []
  reservations : w.db.reservations = []
  outbox : ∀ record ∈ w.db.outbox, ∃ event, record.payload = .transactionInitiated event

/-- A compensation exists for the payment, or `tx.failed` is enqueued for it. -/
def World.Refunded (w : World U) (paymentID : String) : Prop :=
  (∃ op ∈ w.db.operations, op.operation = .compensation ∧ parse paymentID = some op.paymentID) ∨
  ∃ record ∈ w.db.outbox, ∃ event, record.payload = .txFailed event ∧ event.paymentID = paymentID

/-- The reservation of the payment is confirmed or has a transfer row, or `tx.completed` is
    enqueued for it. -/
def World.Settled (w : World U) (paymentID : String) : Prop :=
  (∃ r ∈ w.db.reservations, parse paymentID = some r.paymentID ∧
    (r.status = .confirmed ∨ ∃ t ∈ w.db.transfers, r.transferID = some t.id)) ∨
  ∃ record ∈ w.db.outbox, ∃ event, record.payload = .txCompleted event ∧
    event.paymentID = paymentID

/-! ## What the states rest on -/

/-- The reservation of the payment has the status. -/
def World.ReservationIs (w : World U) (paymentID : String) (status : ReservationStatus) : Prop :=
  ∃ u r, parse paymentID = some u ∧ w.db.reservation? u = some r ∧ r.status = status

/-- The reservation status a row in this state rests on. -/
def rowNeeds : SagaState → Option ReservationStatus
  | .ledgerConfirmed | .completed => some .confirmed
  | .compensatingWallet => some .canceled
  | _ => none

def RowRests (w : World U) (s : Saga) : Prop :=
  ∀ status ∈ rowNeeds s.state, w.ReservationIs s.paymentID status

/-- The payment an announced outcome is about, and the reservation status it rests on. -/
def Payload.outcome : Payload → Option (String × ReservationStatus)
  | .txCompleted event => some (event.paymentID, .confirmed)
  | .txFailed event => some (event.paymentID, .canceled)
  | _ => none

/-- The invariant. -/
structure World.Exclusive (w : World U) : Prop where
  keyed : w.Keyed
  compensated : ∀ op ∈ w.db.operations, op.operation = .compensation →
    ∃ r, w.db.reservation? op.paymentID = some r ∧ r.status = .canceled
  transferred : ∀ r ∈ w.db.reservations, r.transferID ≠ none → r.status = .confirmed
  rows : ∀ s ∈ w.sagas, RowRests w s
  announced : ∀ record ∈ w.db.outbox, ∀ paymentID status,
    record.payload.outcome = some (paymentID, status) → w.ReservationIs paymentID status

/-- The facts a handler can count on. -/
def ExclusiveFact : Fact → World U → Prop
  | .row s, w => RowRests w s
  | .confirmed s _, w | .announced s, w => w.ReservationIs s.paymentID .confirmed
  | .canceled s, w | .compensated s, w | .failed s, w => w.ReservationIs s.paymentID .canceled
  | .verified _, _ | .unverified _, _ | .debited _ _, _ | .reserved _ _, _ => True

theorem rowRests_of_rowNeeds_eq_none (h : rowNeeds s.state = none) : RowRests w s := by
  intro status hstatus
  rw [h] at hstatus
  cases hstatus

variable {status : ReservationStatus}

theorem rowRests_of_rowNeeds_eq_some (h : rowNeeds s.state = some status)
    (hr : w.ReservationIs s.paymentID status) :
    RowRests w s := by
  intro status' hstatus
  rw [h] at hstatus
  cases hstatus
  exact hr

theorem RowRests.written (h : RowRests w s) (hw : Written s s') : RowRests w s' := by
  obtain ⟨row, t, hpid, rfl⟩ := hw
  intro status hstatus
  show w.ReservationIs row.paymentID status
  rw [hpid]
  exact h status hstatus

variable {paymentID : String}

/-- A reservation that has left RESERVED is not changed by anyone. -/
theorem World.ReservationIs.grows (h : w.ReservationIs paymentID status) (hs : status ≠ .reserved)
    (hg : w.db.Grows w'.db) :
    w'.ReservationIs paymentID status := by
  obtain ⟨u, r, hu, hr, rfl⟩ := h
  exact ⟨u, r, hu, hg.reservation_eq hr hs, rfl⟩

theorem rowNeeds_ne_reserved {state : SagaState} (h : status ∈ rowNeeds state) :
    status ≠ .reserved := by
  rintro rfl
  cases state <;> cases h

theorem outcome_ne_reserved {payload : Payload} (h : payload.outcome = some (paymentID, status)) :
    status ≠ .reserved := by
  rintro rfl
  cases payload <;> cases h

theorem RowRests.grows (h : RowRests w s) (hg : w.db.Grows w'.db) : RowRests w' s :=
  fun status hs => (h status hs).grows (rowNeeds_ne_reserved hs) hg

theorem ExclusiveFact.grows {f : Fact} (h : ExclusiveFact f w) (hg : w.Grows w') :
    ExclusiveFact f w' := by
  cases f with
  | row s => exact RowRests.grows h hg.db
  | confirmed s _ | announced s | canceled s | compensated s | failed s =>
    exact World.ReservationIs.grows h (by decide) hg.db
  | verified s | unverified s | debited s _ | reserved s _ => trivial

/-! ## One step -/

namespace World.Exclusive

/-- A write of a row that may be written, with outbox rows that announce no outcome. -/
theorem wrote (h : w.Exclusive) {events : List OutboxRecord} (hw : w.Wrote s events s' w')
    (hs : RowRests w s) (he : ∀ record ∈ events, record.payload.outcome = none) :
    w'.Exclusive := by
  have hg := (hw.grows h.keyed).2.db
  refine ⟨(hw.grows h.keyed).1, ?_, ?_, fun r hr => ?_, fun record hrecord => ?_⟩
  · rw [hw.db]
    exact h.compensated
  · rw [hw.db]
    exact h.transferred
  · rcases hw.mem_written hr with hr | hr
    · exact (h.rows r hr).grows hg
    · exact (hs.written hr).grows hg
  · intro paymentID status hout
    rw [hw.db] at hrecord
    rcases List.mem_append.mp hrecord with hrecord | hrecord
    · exact (h.announced record hrecord paymentID status hout).grows (outcome_ne_reserved hout) hg
    · rw [he record hrecord] at hout
      cases hout

/-- A transaction of the wallet or the ledger service. -/
theorem of_db (h : w.Exclusive) {db : Database U} (hk : db.Keyed) (hg : w.db.Grows db)
    (ho : db.outbox = w.db.outbox)
    (hops : ∀ op ∈ db.operations, op ∈ w.db.operations ∨ (op.operation = .compensation →
      ∃ r, db.reservation? op.paymentID = some r ∧ r.status = .canceled))
    (ht : ∀ r ∈ db.reservations, r.transferID ≠ none → r.status = .confirmed) :
    Exclusive { w with db := db } where
  keyed := ⟨hk, h.keyed.sagas⟩
  compensated op hop hkind := by
    rcases hops op hop with hop | hnew
    · obtain ⟨r, hr, hs⟩ := h.compensated op hop hkind
      exact ⟨r, hg.reservation_eq hr (by rw [hs]; decide), hs⟩
    · exact hnew hkind
  transferred := ht
  rows s hs := (h.rows s hs).grows hg
  announced record hrecord paymentID status hout := by
    rw [ho] at hrecord
    exact (h.announced record hrecord paymentID status hout).grows (outcome_ne_reserved hout) hg

/-- An announcement of an outcome the reservation has come to. -/
theorem enqueue (h : w.Exclusive) {record : OutboxRecord}
    (hr : ∀ paymentID status, record.payload.outcome = some (paymentID, status) →
      w.ReservationIs paymentID status) : (w.enqueue record).Exclusive where
  keyed := ⟨{ h.keyed.db with }, h.keyed.sagas⟩
  compensated := h.compensated
  transferred := h.transferred
  rows := h.rows
  announced o ho := by
    rcases List.mem_concat_iff.mp ho with ho | rfl
    · exact h.announced o ho
    · exact hr

variable {env : TxEnv U} {db : Database U}

theorem debit (h : w.Exclusive) {cmd : SagaDebitCommand U} {op : SagaWalletOperation U}
    (htx : w.db.debitForSaga env cmd = .ok (op, db)) : Exclusive { w with db := db } := by
  obtain ⟨hk, hg⟩ := Database.debitForSaga_grows h.keyed.db htx
  rcases Database.debitForSaga_ok htx with ⟨-, rfl⟩ | ⟨-, wallet, -, -, -, -, -, rfl, rfl⟩
  · exact h
  · refine h.of_db hk hg rfl (fun o ho => ?_) h.transferred
    rcases List.mem_concat_iff.mp ho with ho | rfl
    · exact .inl ho
    · exact .inr fun hkind => by cases hkind

variable {r : LedgerReservation U}

/-- A compensation is made only for a canceled reservation. -/
theorem compensate (h : w.Exclusive) {cmd : SagaCompensationCommand U} {op : SagaWalletOperation U}
    (htx : w.db.compensateDebit env cmd = .ok (op, db))
    (hr : w.db.reservation? cmd.paymentID = some r) (hs : r.status = .canceled) :
    Exclusive { w with db := db } := by
  obtain ⟨hk, hg⟩ := Database.compensateDebit_grows h.keyed.db htx
  rcases Database.compensateDebit_ok htx with
    ⟨-, rfl⟩ | ⟨-, debit, wallet, -, -, -, -, -, rfl, rfl⟩
  · exact h
  · refine h.of_db hk hg rfl (fun o ho => ?_) h.transferred
    rcases List.mem_concat_iff.mp ho with ho | rfl
    · exact .inl ho
    · exact .inr fun _ => ⟨r, hr, hs⟩

theorem reserve (h : w.Exclusive) {cmd : LedgerReserveCommand U}
    (htx : w.db.reserveTransfer env cmd = .ok (r, db)) : Exclusive { w with db := db } := by
  obtain ⟨hk, hg⟩ := Database.reserveTransfer_grows h.keyed.db htx
  obtain ⟨currency, -, -, ⟨-, rfl⟩ | ⟨-, rfl, -, rfl⟩⟩ := Database.reserveTransfer_ok htx
  · exact h
  · refine h.of_db hk hg rfl (fun o ho => .inl ho) (fun o ho => ?_)
    rcases List.mem_concat_iff.mp ho with ho | rfl
    · exact h.transferred o ho
    · exact fun ht => absurd rfl ht

theorem confirm (h : w.Exclusive) {cmd : LedgerConfirmCommand U} {c : LedgerConfirmation U}
    (htx : w.db.confirmTransfer env cmd = .ok (c, db)) : Exclusive { w with db := db } := by
  obtain ⟨hk, hg⟩ := Database.confirmTransfer_grows h.keyed.db htx
  obtain ⟨r, -, -, ⟨-, -, rfl⟩ | ⟨-, source, target, -, -, -, -, -, -, rfl⟩⟩ :=
    Database.confirmTransfer_ok htx
  · exact h
  · refine h.of_db hk hg rfl (fun o ho => .inl ho) (fun r' hr' => ?_)
    obtain ⟨o, ho, rfl⟩ := List.mem_map.mp hr'
    split
    · exact fun _ => rfl
    · exact h.transferred o ho

theorem cancel (h : w.Exclusive) {cmd : LedgerCancelCommand U}
    (htx : w.db.cancelReservation env cmd = .ok (r, db)) : Exclusive { w with db := db } := by
  obtain ⟨hk, hg⟩ := Database.cancelReservation_grows h.keyed.db htx
  obtain ⟨r, hr, -, ⟨-, -, rfl⟩ | ⟨hs, -, rfl⟩⟩ := Database.cancelReservation_ok htx
  · exact h
  · refine h.of_db hk hg rfl (fun o ho => .inl ho) (fun r' hr' => ?_)
    obtain ⟨o, ho, rfl⟩ := List.mem_map.mp hr'
    split
    · -- the canceled row was still reserved, so it has no transfer
      rename_i hid
      obtain rfl := h.keyed.db.eq_of_id (Database.reservation?_some hr).1 ho hid
      intro ht
      have hc := h.transferred o ho ht
      rw [hs] at hc
      cases hc
    · exact h.transferred o ho

end World.Exclusive

/-- Every move of the protocol keeps the invariant and establishes what it teaches. -/
theorem exclusive_move {f : Option Fact} {o : SagaOp} {lesson : Except SagaErr o.Ret → Option Fact}
    {c : Choice U} {a : o.Ret} (hm : FactMove f o lesson) (hi : w.Exclusive)
    (hf : ∀ g ∈ f, ExclusiveFact g w) (hrun : o.run c w = (.ok a, w')) :
    w'.Exclusive ∧
      ∀ g ∈ lesson (.ok a), (∃ s ∈ w'.sagas, g = .row s) ∨ ExclusiveFact g w' := by
  cases hm with
  | now f =>
    cases hrun
    exact ⟨hi, fun g hg => .inr (hf g hg)⟩
  | audit f record =>
    cases hrun
    refine ⟨{ hi with keyed := { hi.keyed with } }, fun g hg => .inr ((hf g hg).grows ?_)⟩
    exact ⟨.refl _, fun s hs => ⟨s, hs, .refl s⟩, fun _ hx => hx⟩
  | @verify s hs =>
    obtain ⟨-, rfl⟩ := Prod.mk.inj hrun
    refine ⟨{ hi with keyed := { hi.keyed with } }, fun g hg => .inr ?_⟩
    cases hg
    split <;> trivial
  | writeChecked s t | writeUnverified s t | writeDebited s id t | writeReserved s id t
  | writeCompensating hs code message t | writeRejected hs reason t record
  | writeResumed hs t record =>
    have hw := World.write_wrote (commit_eq_ok.mp hrun)
    refine ⟨hi.wrote hw (rowRests_of_rowNeeds_eq_none rfl) ?_, learn_row hw⟩
    exact fun _ h => by cases h
  | execute hs t | writeFlagged hs e traceID t record =>
    have hw := World.write_wrote (commit_eq_ok.mp hrun)
    refine ⟨hi.wrote hw (rowRests_of_rowNeeds_eq_none rfl) ?_, learn_row hw⟩
    simp [paymentExecuteRecord, fraudScoreRecord, txPausedRecord, Payload.outcome]
  | @writeMarked s hs e t record | @writeDeferred s hs hd result hp t record =>
    have hw := World.write_wrote (commit_eq_ok.mp hrun)
    have hs : RowRests w s := hf _ rfl
    exact ⟨hi.wrote hw hs (fun _ h => by cases h), learn_row hw⟩
  | writeConfirmed s id t | writeCompleted s t | writeCanceled s t =>
    have hw := World.write_wrote (commit_eq_ok.mp hrun)
    refine ⟨hi.wrote hw (rowRests_of_rowNeeds_eq_some rfl (hf _ rfl)) ?_, learn_row hw⟩
    exact fun _ h => by cases h
  | writeFailed s t =>
    have hw := World.write_wrote (commit_eq_ok.mp hrun)
    have hcanceled : w.ReservationIs s.paymentID .canceled := hf _ rfl
    refine ⟨hi.wrote hw (rowRests_of_rowNeeds_eq_none rfl)
      (fun _ h => by cases h), fun g hg => .inr ?_⟩
    cases hg
    show w'.ReservationIs a.paymentID .canceled
    rw [hw.written.paymentID_eq]
    exact hcanceled.grows (by decide) (hw.grows hi.keyed).2.db
  | debit hs =>
    obtain ⟨db, hdb, rfl⟩ := rpc_eq_ok.mp hrun
    obtain ⟨_, _, _, _, -, -, -, -, htx⟩ := WalletGRPCClient.debitForSaga_ok hdb
    exact ⟨hi.debit htx, learned (.inr trivial)⟩
  | reserve hs =>
    obtain ⟨db, hdb, rfl⟩ := rpc_eq_ok.mp hrun
    obtain ⟨_, _, _, _, -, -, -, -, htx⟩ := LedgerGRPCClient.reserveTransfer_ok hdb
    exact ⟨hi.reserve htx, learned (.inr trivial)⟩
  | confirm hs traceID =>
    obtain ⟨db, hdb, rfl⟩ := rpc_eq_ok.mp hrun
    obtain ⟨cmd, _, hpid, -, -, -, htx⟩ := LedgerGRPCClient.confirmTransfer_ok hdb
    obtain ⟨r, hr, hstatus⟩ := Database.confirmTransfer_status hi.keyed.db htx
    exact ⟨hi.confirm htx, learned (.inr ⟨cmd.paymentID, r, hpid, hr, hstatus⟩)⟩
  | cancel hs traceID reason =>
    obtain ⟨db, hdb, rfl⟩ := rpc_eq_ok.mp hrun
    obtain ⟨cmd, _, hpid, -, htx⟩ := LedgerGRPCClient.cancelReservation_ok hdb
    obtain ⟨r, hr, hstatus⟩ := Database.cancelReservation_status hi.keyed.db htx
    exact ⟨hi.cancel htx, learned (.inr ⟨cmd.paymentID, r, hpid, hr, hstatus⟩)⟩
  | @compensate s hs traceID reason =>
    -- the row is COMPENSATING_WALLET, so its reservation was canceled before it was stored
    have hrow : RowRests w s := hf _ rfl
    have hcanceled := hrow .canceled (by rw [hs]; rfl)
    obtain ⟨db, hdb, rfl⟩ := rpc_eq_ok.mp hrun
    obtain ⟨cmd, _, hpid, -, -, htx⟩ := WalletGRPCClient.compensateDebit_ok hdb
    obtain ⟨u, r, hu, hr, hstatus⟩ := hcanceled
    cases hpid.symm.trans hu
    refine ⟨hi.compensate htx hr hstatus, fun g hg => .inr ?_⟩
    cases hg
    exact World.ReservationIs.grows ⟨_, r, hu, hr, hstatus⟩ (by decide)
      (Database.compensateDebit_grows hi.keyed.db htx).2
  | @announce s hs traceID t t' =>
    have hrow : RowRests w s := hf _ rfl
    have hconfirmed := hrow .confirmed (by rw [hs]; rfl)
    cases hrun
    refine ⟨hi.enqueue fun paymentID status hout => ?_, fun g hg => .inr ?_⟩
    · cases hout
      exact hconfirmed
    · cases hg
      exact hconfirmed
  | announceFailed s traceID t t' =>
    have hcanceled : w.ReservationIs s.paymentID .canceled := hf _ rfl
    cases hrun
    refine ⟨hi.enqueue fun paymentID status hout => ?_, fun g hg => ?_⟩
    · cases hout
      exact hcanceled
    · cases hg

theorem exclusive_interpretation :
    Interpretation (fun _ => True) (World.Exclusive (U := U)) ExclusiveFact where
  keyed h := h.keyed
  stable h hg := h.grows hg
  stored h hs := h.rows _ hs
  unverified _ _ := trivial
  create _ h hnew := by
    refine { h with
      keyed := ⟨h.keyed.db, List.nodup_map_append_singleton h.keyed.sagas hnew⟩
      rows := fun s hs => ?_ }
    rcases List.mem_concat_iff.mp hs with hs | rfl
    · exact h.rows s hs
    · exact rowRests_of_rowNeeds_eq_none rfl
  move := exclusive_move

/-! ## Every run -/

theorem World.Idle.exclusive (h : w.Idle) : w.Exclusive where
  keyed := ⟨h.keyed, by rw [h.sagas]; exact List.nodup_nil⟩
  compensated op hop := by
    rw [h.operations] at hop
    cases hop
  transferred r hr := by
    rw [h.reservations] at hr
    cases hr
  rows s hs := by
    rw [h.sagas] at hs
    cases hs
  announced record hrecord paymentID status hout := by
    obtain ⟨event, hevent⟩ := h.outbox record hrecord
    rw [hevent] at hout
    cases hout

/-- A refunded payment has a canceled reservation. -/
theorem World.Exclusive.refunded (h : w.Exclusive) (hr : w.Refunded paymentID) :
    w.ReservationIs paymentID .canceled := by
  rcases hr with ⟨op, hop, hkind, hpid⟩ | ⟨record, hrecord, event, hevent, rfl⟩
  · obtain ⟨r, hr, hs⟩ := h.compensated op hop hkind
    exact ⟨op.paymentID, r, hpid, hr, hs⟩
  · exact h.announced record hrecord _ _ (by rw [hevent]; rfl)

/-- A settled payment has a confirmed reservation. -/
theorem World.Exclusive.settled (h : w.Exclusive) (hs : w.Settled paymentID) :
    w.ReservationIs paymentID .confirmed := by
  rcases hs with ⟨r, hr, hpid, hs⟩ | ⟨record, hrecord, event, hevent, rfl⟩
  · refine ⟨r.paymentID, r, hpid, h.keyed.db.reservation?_of_mem hr, ?_⟩
    rcases hs with hs | ⟨t, -, ht⟩
    · exact hs
    · exact h.transferred r hr (by rw [ht]; exact Option.some_ne_none _)
  · exact h.announced record hrecord _ _ (by rw [hevent]; rfl)

/-- However any number of handlers interleave, with whatever stale rows, and wherever they
    stop: a compensation exists only for a payment whose reservation is canceled, and no
    payment is both refunded and settled. -/
theorem exclusive_outcome (hw : w.Idle) (acts : List (Act SagaRequest (Choice U))) :
    (∀ op ∈ (interleave w acts).world.db.operations, op.operation = .compensation →
      ∃ r, (interleave w acts).world.db.reservation? op.paymentID = some r ∧
        r.status = .canceled) ∧
    ∀ paymentID, ¬ ((interleave w acts).world.Refunded paymentID ∧
      (interleave w acts).world.Settled paymentID) := by
  have hi : (interleave w acts).world.Exclusive :=
    exclusive_interpretation.interleave_inv hw.exclusive fun _ _ _ _ => trivial
  refine ⟨hi.compensated, ?_⟩
  rintro paymentID ⟨hr, hs⟩
  -- the two statuses belong to one reservation
  obtain ⟨u, r, hu, hr, hcanceled⟩ := hi.refunded hr
  obtain ⟨v, o, hv, ho, hconfirmed⟩ := hi.settled hs
  cases hu.symm.trans hv
  cases hr.symm.trans ho
  rw [hcanceled] at hconfirmed
  cases hconfirmed

namespace Sample

theorem world_idle : world.Idle where
  keyed := ⟨by decide +kernel, List.nodup_nil, List.nodup_nil, List.nodup_nil, List.nodup_nil⟩
  sagas := rfl
  operations := rfl
  reservations := rfl
  outbox _ h := by cases h

/-- A payment that is started and then refused by the rail. -/
def failedRun : List (Act SagaRequest (Choice CanonicalUuid)) :=
  .start (.start startRequest) :: steps 0 0 13 ++
    .start (.paymentFailed failedEvent) :: steps 1 13 10

end Sample

/-- The refused payment is refunded, and therefore not settled. -/
theorem exclusive_outcome_failedRun :
    Sample.world.Idle ∧
      (interleave Sample.world Sample.failedRun).world.Refunded (text Sample.paymentID) ∧
      ¬ (interleave Sample.world Sample.failedRun).world.Settled (text Sample.paymentID) := by
  have hrefunded :
      (interleave Sample.world Sample.failedRun).world.Refunded (text Sample.paymentID) :=
    .inl (by decide +kernel)
  refine ⟨Sample.world_idle, hrefunded, fun hsettled => ?_⟩
  exact (exclusive_outcome Sample.world_idle Sample.failedRun).2 _ ⟨hrefunded, hsettled⟩

end EnjoyThings
