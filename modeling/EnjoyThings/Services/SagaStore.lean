import Mathlib.Data.List.Sort
import EnjoyThings.Services.Grpc

/-!
# The saga store

`internal/saga/postgres_store.go`: the tables `sagas` and
`saga_fraud_audit_records`, and the outbox rows a saga update commits with the
row. Every function is one transaction. `World` is everything the handlers of a
payment share: the saga tables, the wallet and ledger tables with the outbox, and
a record of what the verification service has answered.
-/

namespace EnjoyThings

/-- The errors of `saga/types.go`, and what reaches the orchestrator from outside:
    a gRPC status, a database error, or a call that was cut off. -/
inductive SagaErr
  | alreadyExists
  | notFound
  | unverified
  | verificationNotFound
  | notUnderReview
  | unknownDeferredResult
  | invalidFraudEvent
  | reviewTTLNotPositive
  | rpc (status : Status)
  | sql (e : SqlErr)
  | interrupted
  deriving DecidableEq, Repr

/-- `Error()` of `ErrUnverified`, which is stored with the saga. -/
def unverifiedMessage : String := "user is not verified"

/-- The state the handlers share. `answers` is a history variable. -/
structure World (U : Type) where
  sagas : List Saga := []
  audits : List FraudAuditRecord := []
  db : Database U := {}
  answers : List (VerificationRequest × VerificationResult) := []
  deriving DecidableEq

/-- A `timestamptz` keeps microseconds. -/
def pgTime (t : Time) : Time :=
  t / 1000 * 1000

/-- `COALESCE(NULLIF(t, '0001-01-01'), now())`. -/
def timeOrNow (t now : Time) : Time :=
  if pgTime t = 0 then pgTime now else pgTime t

/-- The row `updateSaga` leaves: the columns it sets from `saga`, the others as stored. -/
def Saga.overwrite (row saga : Saga) (now : Time) : Saga :=
  { row with
    state := saga.state
    lastError := saga.lastError
    traceID := saga.traceID
    walletDebitID := saga.walletDebitID
    ledgerReservationID := saga.ledgerReservationID
    transferID := saga.transferID
    failureCode := saga.failureCode
    fraudSessionID := saga.fraudSessionID
    fraudAction := saga.fraudAction
    fraudRiskScore := saga.fraudRiskScore
    fraudReason := saga.fraudReason
    fraudFlaggedAt := pgTime saga.fraudFlaggedAt
    deferredPaymentJSON := saga.deferredPaymentJSON
    updatedAt := timeOrNow saga.updatedAt now }

/-- `sameStartPayload`. -/
def sameStartPayload (left right : Saga) : Prop :=
  left.paymentID = right.paymentID ∧ left.idempotencyKey = right.idempotencyKey ∧
    left.userID = right.userID ∧ left.fromWalletID = right.fromWalletID ∧
    left.toWalletID = right.toWalletID ∧ left.amountCents = right.amountCents ∧
    left.currency = right.currency

instance (left right : Saga) : Decidable (sameStartPayload left right) :=
  inferInstanceAs (Decidable (_ ∧ _))

/-- `ORDER BY updated_at, id`. -/
def Saga.listedBefore (left right : Saga) : Prop :=
  left.updatedAt < right.updatedAt ∨ left.updatedAt = right.updatedAt ∧ left.id ≤ right.id

instance : DecidableRel Saga.listedBefore :=
  fun _ _ => inferInstanceAs (Decidable (_ ∨ _))

/-- `insertFraudAudit`: no record without an event ID, one record per event ID. -/
def insertFraudAudit (audits : List FraudAuditRecord) (audit : FraudAuditRecord) (now : Time) :
    List FraudAuditRecord :=
  if audit.eventID = "" ∨ audits.any (·.eventID = audit.eventID) then audits
  else audits ++ [{ audit with createdAt := timeOrNow audit.createdAt now }]

namespace World

variable {U : Type}

/-- The row of a payment. -/
def saga? (w : World U) (paymentID : String) : Option Saga :=
  w.sagas.find? (·.paymentID = paymentID)

/-- `PostgresStore.GetByPaymentID`. -/
def getByPaymentID (w : World U) (paymentID : String) : Except SagaErr Saga :=
  Except.ofOption .notFound (w.saga? paymentID)

/-- `PostgresStore.ListNonTerminal`. -/
def listNonTerminal (w : World U) : List Saga :=
  (w.sagas.filter fun s => !s.state.terminal).insertionSort Saga.listedBefore

/-- `findDuplicate`: by payment ID, then by user and idempotency key. -/
def findDuplicate (w : World U) (saga : Saga) : Except SagaErr Saga :=
  let byPayment := if saga.paymentID = "" then none else w.saga? saga.paymentID
  Except.ofOption .notFound <| byPayment.or <|
    w.sagas.find? fun s => s.userID = saga.userID ∧ s.idempotencyKey = saga.idempotencyKey

/-- A unique key of `sagas` that the new row would violate. -/
def conflicts (w : World U) (id : String) (saga : Saga) : Bool :=
  w.sagas.any fun s => s.id = id ∨ s.paymentID = saga.paymentID ∨
    s.userID = saga.userID ∧ s.idempotencyKey = saga.idempotencyKey

/-- The row `Create` inserts. -/
def newRow (id : String) (now : Time) (saga : Saga) : Saga :=
  { saga with id := id, fraudFlaggedAt := pgTime saga.fraudFlaggedAt
              createdAt := timeOrNow saga.createdAt now, updatedAt := timeOrNow saga.updatedAt now }

/-- `PostgresStore.Create`. -/
def create (w : World U) (id : String) (now : Time) (saga : Saga) :
    Except SagaErr (Saga × World U) :=
  if saga.amountCents ≤ 0 then .error (.sql .checkViolation)
  else if w.conflicts id saga then do
    let existing ← w.findDuplicate saga
    Except.refuseIf (¬ sameStartPayload existing saga) .alreadyExists
    .ok (existing, w)
  else .ok (newRow id now saga, { w with sagas := w.sagas ++ [newRow id now saga] })

/-- The tables a write of a row leaves. -/
def afterWrite (w : World U) (now : Time) (saga : Saga) (events : List OutboxRecord)
    (audit : Option FraudAuditRecord) : World U :=
  { w with
    sagas := w.sagas.map fun s =>
      if s.paymentID = saga.paymentID then s.overwrite saga now else s
    audits := audit.elim w.audits fun a => insertFraudAudit w.audits a now
    db := { w.db with outbox := w.db.outbox ++ events } }

/-- The transaction of `UpdateWithOutboxAndAudit`: outbox rows, audit record and saga row
    are written together or not at all. -/
def write (w : World U) (now : Time) (saga : Saga) (events : List OutboxRecord)
    (audit : Option FraudAuditRecord) : Except SagaErr (Saga × World U) :=
  match w.saga? saga.paymentID with
  | none => .error .notFound
  | some row => .ok (row.overwrite saga now, w.afterWrite now saga events audit)

/-- `PostgresStore.Update`. -/
def update (w : World U) (now : Time) (saga : Saga) : Except SagaErr (Saga × World U) :=
  w.write now saga [] none

/-- `PostgresStore.UpdateWithOutbox`. -/
def updateWithOutbox (w : World U) (now : Time) (saga : Saga) (events : List OutboxRecord) :
    Except SagaErr (Saga × World U) :=
  w.write now saga events none

/-- `PostgresStore.UpdateWithAudit`. -/
def updateWithAudit (w : World U) (now : Time) (saga : Saga) (audit : FraudAuditRecord) :
    Except SagaErr (Saga × World U) :=
  w.write now saga [] (some audit)

/-- `PostgresStore.UpdateWithOutboxAndAudit`. -/
def updateWithOutboxAndAudit (w : World U) (now : Time) (saga : Saga)
    (events : List OutboxRecord) (audit : FraudAuditRecord) : Except SagaErr (Saga × World U) :=
  w.write now saga events (some audit)

/-- `PostgresStore.RecordFraudAudit`. -/
def recordFraudAudit (w : World U) (now : Time) (audit : FraudAuditRecord) : World U :=
  { w with audits := insertFraudAudit w.audits audit now }

/-- The orchestrator's outbox, `outbox.Repository.Enqueue`. -/
def enqueue (w : World U) (record : OutboxRecord) : World U :=
  { w with db := { w.db with outbox := w.db.outbox ++ [record] } }

variable {w w' : World U} {now : Time} {saga s : Saga}

theorem saga?_some {paymentID : String} (h : w.saga? paymentID = some s) :
    s ∈ w.sagas ∧ s.paymentID = paymentID :=
  ⟨List.mem_of_find?_eq_some h, by simpa using List.find?_some h⟩

theorem getByPaymentID_eq_ok {paymentID : String} :
    w.getByPaymentID paymentID = .ok s ↔ w.saga? paymentID = some s :=
  Except.ofOption_eq_ok

theorem mem_listNonTerminal : s ∈ w.listNonTerminal ↔ s ∈ w.sagas ∧ s.state.terminal = false := by
  simp [listNonTerminal, List.mem_insertionSort]

/-- A create that goes through returns the stored row of the same payload, or adds a new row
    under keys that no stored row has. -/
theorem create_ok {id : String} (h : w.create id now saga = .ok (s, w')) :
    (s ∈ w.sagas ∧ sameStartPayload s saga ∧ w' = w) ∨
    (s = newRow id now saga ∧ (∀ o ∈ w.sagas, o.paymentID ≠ saga.paymentID) ∧
      w' = { w with sagas := w.sagas ++ [s] }) := by
  simp only [create] at h
  split at h
  · cases h
  split at h
  · simp only [Except.bind_eq_ok, Except.refuseIf_eq_ok, Decidable.not_not] at h
    obtain ⟨existing, hfind, -, hsame, h⟩ := h
    cases h
    refine .inl ⟨?_, hsame, rfl⟩
    simp only [findDuplicate, Except.ofOption_eq_ok] at hfind
    rcases Option.or_eq_some_iff.mp hfind with hp | ⟨-, hk⟩
    · split at hp
      · cases hp
      · exact (saga?_some hp).1
    · exact List.mem_of_find?_eq_some hk
  · rename_i hnew
    cases h
    refine .inr ⟨rfl, fun o ho he => hnew ?_, rfl⟩
    exact List.any_eq_true.mpr ⟨o, ho, decide_eq_true (.inr (.inl he))⟩

/-- A write to a stored row goes through. -/
theorem write_eq {row : Saga} (h : w.saga? saga.paymentID = some row) (now : Time)
    (events : List OutboxRecord) (audit : Option FraudAuditRecord) :
    w.write now saga events audit =
      .ok (row.overwrite saga now, w.afterWrite now saga events audit) := by
  simp only [write, h]

/-- A write that goes through overwrote the row of the payment and returned it. -/
theorem write_ok {events : List OutboxRecord} {audit : Option FraudAuditRecord}
    (h : w.write now saga events audit = .ok (s, w')) :
    ∃ row, w.saga? saga.paymentID = some row ∧ s = row.overwrite saga now ∧
      w' = w.afterWrite now saga events audit := by
  simp only [write] at h
  split at h
  · cases h
  · rename_i row hrow
    cases h
    exact ⟨row, hrow, rfl, rfl⟩

end World

end EnjoyThings
