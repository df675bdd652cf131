import EnjoyThings.Services.Grpc
import EnjoyThings.Spec.WalletsCorrect

/-!
# What a transaction leaves

After a debit the payment has the operation that was returned, and every transaction of
`wallets.go` leaves the tables alone that it has nothing to do with.
-/

namespace EnjoyThings

open Except

variable {U : Type} [UuidLib U] {db db' : Database U} {env : TxEnv U}

namespace Database

/-! ## The wallet -/

/-- After a debit the payment has the operation it returned. -/
theorem debitForSaga_operation? {cmd : SagaDebitCommand U} {op : SagaWalletOperation U}
    (h : db.debitForSaga env cmd = .ok (op, db')) :
    db'.operation? cmd.paymentID .debit = some op := by
  rcases debitForSaga_ok h with ⟨ho, rfl⟩ | ⟨hnone, wallet, -, -, -, -, -, rfl, rfl⟩
  · exact ho
  · exact operation?_append_of_none rfl rfl rfl hnone

theorem debitForSaga_reservations {cmd : SagaDebitCommand U} {op : SagaWalletOperation U}
    (h : db.debitForSaga env cmd = .ok (op, db')) :
    db'.reservations = db.reservations ∧ db'.outbox = db.outbox := by
  rcases debitForSaga_ok h with ⟨-, rfl⟩ | ⟨-, wallet, -, -, -, -, -, -, rfl⟩
  · exact ⟨rfl, rfl⟩
  · exact ⟨rfl, rfl⟩

theorem compensateDebit_reservations {cmd : SagaCompensationCommand U}
    {op : SagaWalletOperation U} (h : db.compensateDebit env cmd = .ok (op, db')) :
    db'.reservations = db.reservations ∧ db'.outbox = db.outbox := by
  rcases compensateDebit_ok h with ⟨-, rfl⟩ | ⟨-, debit, wallet, -, -, -, -, -, -, rfl⟩
  · exact ⟨rfl, rfl⟩
  · exact ⟨rfl, rfl⟩

/-! ## The ledger -/

theorem reserveTransfer_outbox {cmd : LedgerReserveCommand U} {r : LedgerReservation U}
    (h : db.reserveTransfer env cmd = .ok (r, db')) : db'.outbox = db.outbox := by
  obtain ⟨currency, -, -, ⟨-, rfl⟩ | ⟨-, -, -, rfl⟩⟩ := reserveTransfer_ok h
  · rfl
  · rfl

theorem confirmTransfer_outbox {cmd : LedgerConfirmCommand U} {c : LedgerConfirmation U}
    (h : db.confirmTransfer env cmd = .ok (c, db')) : db'.outbox = db.outbox := by
  obtain ⟨r, -, -, ⟨-, -, rfl⟩ | ⟨-, _, _, -, -, -, -, -, -, rfl⟩⟩ := confirmTransfer_ok h
  · rfl
  · rfl

/-- A cancellation leaves the wallets, their operations and the outbox alone. -/
theorem cancelReservation_keepsWallets {cmd : LedgerCancelCommand U} {o : LedgerReservation U}
    (h : db.cancelReservation env cmd = .ok (o, db')) :
    db'.wallets = db.wallets ∧ db'.operations = db.operations ∧ db'.outbox = db.outbox := by
  obtain ⟨r, -, -, ⟨-, -, rfl⟩ | ⟨-, -, rfl⟩⟩ := cancelReservation_ok h
  · exact ⟨rfl, rfl, rfl⟩
  · exact ⟨rfl, rfl, rfl⟩

end Database

end EnjoyThings
