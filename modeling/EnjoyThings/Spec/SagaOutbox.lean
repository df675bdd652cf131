import EnjoyThings.Spec.SagaInvariant
import EnjoyThings.Spec.WalletsFrame

/-!
# What the handlers enqueue

The outbox rows of each call (`SagaOp.events`). The wallet and ledger services add none
of their own when they are called by the orchestrator, so the outbox after a call is the
outbox before it and the rows of the call (`run_outbox`).
-/

namespace EnjoyThings

open Effect Orchestrator

variable {U : Type} [UuidLib U] {w w' : World U} {c : Choice U}

/-- A call that takes effect commits its outbox rows and no others. -/
theorem run_outbox {o : SagaOp} {a : o.Ret} (h : o.run c w = (.ok a, w')) :
    w'.db.outbox = w.db.outbox ++ o.events := by
  cases run_commits h with
  | outbox h => rw [h]
  | debit h => exact (Database.debitForSaga_reservations h).2.trans (List.append_nil _).symm
  | compensate h =>
    exact (Database.compensateDebit_reservations h).2.trans (List.append_nil _).symm
  | reserve h => exact (Database.reserveTransfer_outbox h).trans (List.append_nil _).symm
  | confirm h => exact (Database.confirmTransfer_outbox h).trans (List.append_nil _).symm
  | cancel h =>
    exact (Database.cancelReservation_keepsWallets h).2.2.trans (List.append_nil _).symm

/-- The number of outbox rows of a topic after a call. -/
theorem run_enqueued {o : SagaOp} {a : o.Ret} (h : o.run c w = (.ok a, w')) (topic : Topic)
    (key : String) :
    w'.db.enqueued topic key = w.db.enqueued topic key +
      o.events.countP fun record => record.topic = topic ∧ record.partitionKey = key := by
  rw [Database.enqueued, run_outbox h, List.countP_append]
  rfl

/-- The record announces the end of the payment. -/
def OutboxRecord.announcesEnd (record : OutboxRecord) (paymentID : String) : Bool :=
  match record.payload with
  | .txCompleted event => event.paymentID = paymentID
  | .txFailed event => event.paymentID = paymentID
  | _ => false

/-- The end of the payment is announced under the topic. -/
def World.Announced (w : World U) (topic : Topic) (paymentID : String) : Prop :=
  ∃ record ∈ w.db.outbox, record.topic = topic ∧ record.announcesEnd paymentID = true

instance (w : World U) (topic : Topic) (paymentID : String) :
    Decidable (w.Announced topic paymentID) :=
  inferInstanceAs (Decidable (∃ record ∈ w.db.outbox, _))

/-- No call takes an announcement back. -/
theorem World.Announced.run {o : SagaOp} {a : o.Ret} {topic : Topic} {paymentID : String}
    (h : w.Announced topic paymentID) (hrun : o.run c w = (.ok a, w')) :
    w'.Announced topic paymentID := by
  obtain ⟨record, hr, hrecord⟩ := h
  refine ⟨record, ?_, hrecord⟩
  rw [run_outbox hrun]
  exact List.mem_append_left _ hr

end EnjoyThings
