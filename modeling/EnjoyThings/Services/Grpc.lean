import EnjoyThings.Services.Wallets

/-!
# The wallet and ledger services over gRPC

`internal/wallet/service.go`, the servers `internal/walletgrpc` and
`internal/ledgergrpc`, and the clients of `internal/saga/grpc_clients.go` that
the orchestrator calls them with. A call goes through client, server and service
to the transaction of `Wallets`. The messages carry the fields of the client's
request types, so those types stand for them. Metadata reaches a server only if
the client attaches it.
-/

namespace EnjoyThings

/-- The `codes.Code` values the servers answer with. -/
inductive Code
  | invalidArgument
  | notFound
  | alreadyExists
  | failedPrecondition
  | internal
  | unavailable
  deriving DecidableEq, Repr

/-- A gRPC status, as `status.Error` makes it. -/
structure Status where
  code : Code
  message : String
  deriving DecidableEq, Repr

/-- Incoming metadata: keys with their values in order. -/
abbrev Metadata : Type := List (String × String)

/-- `metadata.MD.Get`. -/
def Metadata.get (md : Metadata) (key : String) : List String :=
  (md.filter (·.1 = key)).map (·.2)

def userIDMetadataKey : String := "x-user-id"

open Except (refuseIf ofOption bind_eq_ok refuseIf_eq_ok ofOption_eq_ok mapError_eq_ok)

variable {U : Type} [UuidLib U]

/-- `parseUUID` of both servers. -/
def parseUUID (U : Type) [UuidLib U] (raw field : String) : Except Status U :=
  ofOption ⟨.invalidArgument, field ++ " must be a valid UUID"⟩ (parse raw)

theorem parseUUID_eq_ok {raw field : String} {id : U} :
    parseUUID U raw field = .ok id ↔ parse raw = some id :=
  ofOption_eq_ok

/-! ## The wallet service -/

variable {db db' : Database U} {env : TxEnv U}

namespace WalletService

/-- `Service.GetWallet`. -/
def getWallet (db : Database U) (userID walletID : U) : Except RepoErr (Wallet U) := do
  let wallet ← ofOption (.domain .notFound) (db.wallet? walletID)
  refuseIf (wallet.userID ≠ userID) (.domain .notFound)
  .ok wallet

/-- The ownership check of `Service.DebitForSaga`: made only for a known user. -/
def checkOwner (db : Database U) (userID : U) (cmd : SagaDebitCommand U) : Except RepoErr Unit :=
  if userID = UuidLib.nil then .ok ()
  else do
    let wallet ← getWallet db userID cmd.fromWalletID
    refuseIf (wallet.currency ≠ cmd.currency) (.domain .currencyMismatch)

/-- `Service.DebitForSaga`. -/
def debitForSaga (db : Database U) (env : TxEnv U) (userID : U) (cmd : SagaDebitCommand U) :
    Except RepoErr (SagaWalletOperation U × Database U) := do
  refuseIf (cmd.paymentID = UuidLib.nil ∨ cmd.fromWalletID = UuidLib.nil ∨
    cmd.idempotencyKey = "") (.domain .invalidTransfer)
  refuseIf (cmd.amountCents ≤ 0) (.domain .invalidAmount)
  let currency ← (normalizeCurrency cmd.currency).mapError .domain
  checkOwner db userID { cmd with currency := currency }
  db.debitForSaga env { cmd with currency := currency }

/-- `Service.CompensateDebit`. -/
def compensateDebit (db : Database U) (env : TxEnv U) (cmd : SagaCompensationCommand U) :
    Except RepoErr (SagaWalletOperation U × Database U) := do
  refuseIf (cmd.paymentID = UuidLib.nil ∨ cmd.fromWalletID = UuidLib.nil ∨
    cmd.idempotencyKey = "") (.domain .invalidTransfer)
  refuseIf (cmd.amountCents < 0) (.domain .invalidAmount)
  let currency ← (if cmd.currency = "" then .ok "" else normalizeCurrency cmd.currency).mapError
    .domain
  db.compensateDebit env { cmd with currency := currency }

/-- A debit that goes through the service is the repository's, with the currency normalized. -/
theorem debitForSaga_ok {userID : U} {cmd : SagaDebitCommand U} {op : SagaWalletOperation U}
    (h : debitForSaga db env userID cmd = .ok (op, db')) :
    ∃ currency, normalizeCurrency cmd.currency = .ok currency ∧
      checkOwner db userID { cmd with currency := currency } = .ok () ∧
      db.debitForSaga env { cmd with currency := currency } = .ok (op, db') := by
  simp only [debitForSaga, bind_eq_ok, refuseIf_eq_ok, mapError_eq_ok] at h
  obtain ⟨-, -, -, -, currency, hcurrency, _, howner, h⟩ := h
  exact ⟨currency, hcurrency, howner, h⟩

/-- A compensation that goes through the service is the repository's. -/
theorem compensateDebit_ok {cmd : SagaCompensationCommand U} {op : SagaWalletOperation U}
    (h : compensateDebit db env cmd = .ok (op, db')) :
    ∃ currency, db.compensateDebit env { cmd with currency := currency } = .ok (op, db') := by
  simp only [compensateDebit, bind_eq_ok, refuseIf_eq_ok, mapError_eq_ok] at h
  obtain ⟨-, -, -, -, currency, -, h⟩ := h
  exact ⟨currency, h⟩

end WalletService

/-! ## The wallet server -/

namespace WalletGrpc

/-- `statusFromDomain` of the wallet server. -/
def statusFromDomain : RepoErr → Status
  | .domain .notFound => ⟨.notFound, "wallet not found"⟩
  | .domain .unsupportedCurrency => ⟨.invalidArgument, "currency is unsupported"⟩
  | .domain .invalidAmount => ⟨.invalidArgument, "amount is invalid"⟩
  | .domain .invalidTransfer => ⟨.invalidArgument, "transfer is invalid"⟩
  | .domain .currencyMismatch => ⟨.invalidArgument, "currency mismatch"⟩
  | .domain .insufficientFunds => ⟨.failedPrecondition, "insufficient funds"⟩
  | .domain .debitNotFound => ⟨.failedPrecondition, "debit not found"⟩
  | _ => ⟨.internal, "internal server error"⟩

/-- `optionalUserIDFromMetadata`: no user is the nil UUID. -/
def optionalUserIDFromMetadata (U : Type) [UuidLib U] (md : Metadata) : Except Status U :=
  match md.get userIDMetadataKey with
  | [] => .ok UuidLib.nil
  | value :: _ =>
    if value = "" then .ok UuidLib.nil else parseUUID U value userIDMetadataKey

structure DebitForSagaResponse where
  paymentID : String
  walletDebitID : String
  status : OperationStatus
  balanceAfterCents : Int64

/-- `Server.DebitForSaga`. -/
def debitForSaga (db : Database U) (env : TxEnv U) (md : Metadata) (req : WalletDebitRequest) :
    Except Status (DebitForSagaResponse × Database U) := do
  let paymentID ← parseUUID U req.paymentID "payment_id"
  let fromWalletID ← parseUUID U req.fromWalletID "from_wallet_id"
  refuseIf (req.idempotencyKey = "") ⟨.invalidArgument, "idempotency_key is required"⟩
  refuseIf (req.amountCents ≤ 0) ⟨.invalidArgument, "amount_cents must be positive"⟩
  refuseIf (req.currency = "") ⟨.invalidArgument, "currency is required"⟩
  let userID ← optionalUserIDFromMetadata U md
  let (op, db') ← (WalletService.debitForSaga db env userID
    { paymentID := paymentID, fromWalletID := fromWalletID, amountCents := req.amountCents,
      currency := req.currency, idempotencyKey := req.idempotencyKey }).mapError statusFromDomain
  .ok ({ paymentID := text op.paymentID, walletDebitID := text op.id, status := op.status,
         balanceAfterCents := op.balanceAfterCents }, db')

structure CompensateDebitResponse where
  paymentID : String
  compensationID : String
  status : OperationStatus
  balanceAfterCents : Int64

/-- `Server.CompensateDebit`. The debit ID is parsed only when there is one. -/
def compensateDebit (db : Database U) (env : TxEnv U) (req : WalletCompensateRequest) :
    Except Status (CompensateDebitResponse × Database U) := do
  let paymentID ← parseUUID U req.paymentID "payment_id"
  let fromWalletID ← parseUUID U req.fromWalletID "from_wallet_id"
  refuseIf (req.idempotencyKey = "") ⟨.invalidArgument, "idempotency_key is required"⟩
  let walletDebitID ← (if req.walletDebitID = "" then .ok UuidLib.nil
    else parseUUID U req.walletDebitID "wallet_debit_id")
  let (op, db') ← (WalletService.compensateDebit db env
    { paymentID := paymentID, fromWalletID := fromWalletID, walletDebitID := walletDebitID,
      amountCents := req.amountCents, currency := req.currency,
      idempotencyKey := req.idempotencyKey, reason := req.reason }).mapError statusFromDomain
  .ok ({ paymentID := text op.paymentID, compensationID := text op.id, status := op.status,
         balanceAfterCents := op.balanceAfterCents }, db')

end WalletGrpc

/-! ## The ledger server -/

namespace LedgerGrpc

/-- `statusFromDomain` of the ledger server. -/
def statusFromDomain : RepoErr → Status
  | .domain .alreadyExists => ⟨.alreadyExists, "reservation conflicts with existing payload"⟩
  | .domain .failedPrecondition =>
    ⟨.failedPrecondition, "reservation state does not allow this operation"⟩
  | .domain .notFound => ⟨.notFound, "wallet not found"⟩
  | .domain .invalidAmount => ⟨.invalidArgument, "amount or pagination is invalid"⟩
  | .domain .invalidTransfer => ⟨.invalidArgument, "transfer is invalid"⟩
  | .domain .unsupportedCurrency => ⟨.invalidArgument, "currency is unsupported"⟩
  | .domain .currencyMismatch => ⟨.invalidArgument, "currency mismatch"⟩
  | _ => ⟨.internal, "internal server error"⟩

structure ReservationResponse where
  paymentID : String
  ledgerReservationID : String
  status : ReservationStatus

/-- `Server.ReserveTransfer`. -/
def reserveTransfer (db : Database U) (env : TxEnv U) (req : LedgerReserveRequest) :
    Except Status (ReservationResponse × Database U) := do
  let paymentID ← parseUUID U req.paymentID "payment_id"
  let fromWalletID ← parseUUID U req.fromWalletID "from_wallet_id"
  let toWalletID ← parseUUID U req.toWalletID "to_wallet_id"
  refuseIf (req.idempotencyKey = "") ⟨.invalidArgument, "idempotency_key is required"⟩
  refuseIf (req.amountCents ≤ 0) ⟨.invalidArgument, "amount_cents must be positive"⟩
  refuseIf (req.currency = "") ⟨.invalidArgument, "currency is required"⟩
  refuseIf (fromWalletID = toWalletID)
    ⟨.invalidArgument, "from_wallet_id and to_wallet_id must differ"⟩
  let (r, db') ← (db.reserveTransfer env
    { paymentID := paymentID, idempotencyKey := req.idempotencyKey, traceID := req.traceID,
      fromWalletID := fromWalletID, toWalletID := toWalletID, amountCents := req.amountCents,
      currency := req.currency }).mapError statusFromDomain
  .ok ({ paymentID := text r.paymentID, ledgerReservationID := text r.id,
         status := r.status }, db')

structure ConfirmTransferResponse where
  paymentID : String
  transferID : String
  status : ReservationStatus
  completedAt : Time

/-- `Server.ConfirmTransfer`. -/
def confirmTransfer (db : Database U) (env : TxEnv U) (req : LedgerConfirmRequest) :
    Except Status (ConfirmTransferResponse × Database U) := do
  let paymentID ← parseUUID U req.paymentID "payment_id"
  let reservationID ← parseUUID U req.ledgerReservationID "ledger_reservation_id"
  let walletDebitID ← parseUUID U req.walletDebitID "wallet_debit_id"
  refuseIf (req.idempotencyKey = "") ⟨.invalidArgument, "idempotency_key is required"⟩
  let (c, db') ← (db.confirmTransfer env
    { paymentID := paymentID, idempotencyKey := req.idempotencyKey, traceID := req.traceID,
      ledgerReservationID := reservationID,
      walletDebitID := walletDebitID }).mapError statusFromDomain
  .ok ({ paymentID := text c.paymentID, transferID := text c.transferID, status := c.status,
         completedAt := c.completedAt }, db')

/-- `Server.CancelReservation`. -/
def cancelReservation (db : Database U) (env : TxEnv U) (req : LedgerCancelRequest) :
    Except Status (ReservationResponse × Database U) := do
  let paymentID ← parseUUID U req.paymentID "payment_id"
  let reservationID ← parseUUID U req.ledgerReservationID "ledger_reservation_id"
  refuseIf (req.idempotencyKey = "") ⟨.invalidArgument, "idempotency_key is required"⟩
  let (r, db') ← (db.cancelReservation env
    { paymentID := paymentID, idempotencyKey := req.idempotencyKey, traceID := req.traceID,
      ledgerReservationID := reservationID, reason := req.reason }).mapError statusFromDomain
  .ok ({ paymentID := text r.paymentID, ledgerReservationID := text r.id,
         status := r.status }, db')

end LedgerGrpc

/-! ## The clients of the orchestrator -/

namespace WalletGRPCClient

/-- The metadata `WalletGRPCClient` sends along: it attaches none. -/
def outgoing : Metadata := []

/-- `WalletGRPCClient.DebitForSaga`. -/
def debitForSaga (db : Database U) (env : TxEnv U) (req : WalletDebitRequest) :
    Except Status (WalletDebitResult × Database U) := do
  let (resp, db') ← WalletGrpc.debitForSaga db env outgoing req
  .ok (⟨resp.walletDebitID⟩, db')

/-- `WalletGRPCClient.CompensateDebit`. -/
def compensateDebit (db : Database U) (env : TxEnv U) (req : WalletCompensateRequest) :
    Except Status (Unit × Database U) := do
  let (_, db') ← WalletGrpc.compensateDebit db env req
  .ok ((), db')

/-- A debit call that succeeds reached the transaction with the request's values, and
    returned the ID of its operation. -/
theorem debitForSaga_ok {req : WalletDebitRequest} {r : WalletDebitResult}
    (h : debitForSaga db env req = .ok (r, db')) :
    ∃ (paymentID fromWalletID : U) (currency : String) (op : SagaWalletOperation U),
      parse req.paymentID = some paymentID ∧ parse req.fromWalletID = some fromWalletID ∧
      normalizeCurrency req.currency = .ok currency ∧ r.walletDebitID = text op.id ∧
      db.debitForSaga env
        { paymentID := paymentID, fromWalletID := fromWalletID, amountCents := req.amountCents,
          currency := currency, idempotencyKey := req.idempotencyKey } = .ok (op, db') := by
  simp only [debitForSaga, WalletGrpc.debitForSaga, bind_eq_ok, refuseIf_eq_ok, mapError_eq_ok,
    parseUUID_eq_ok] at h
  obtain ⟨resp, ⟨paymentID, hpid, fromWalletID, hfrom, -, -, -, -, -, -, userID, -, ⟨op, db₁⟩,
    hservice, hresp⟩, h⟩ := h
  obtain ⟨currency, hcurrency, -, hrepo⟩ := WalletService.debitForSaga_ok hservice
  cases hresp
  cases h
  exact ⟨paymentID, fromWalletID, currency, op, hpid, hfrom, hcurrency, rfl, hrepo⟩

/-- A compensation call that succeeds reached the transaction for the request's payment
    and wallet. -/
theorem compensateDebit_ok {req : WalletCompensateRequest}
    (h : compensateDebit db env req = .ok ((), db')) :
    ∃ (cmd : SagaCompensationCommand U) (op : SagaWalletOperation U),
      parse req.paymentID = some cmd.paymentID ∧
      parse req.fromWalletID = some cmd.fromWalletID ∧
      cmd.idempotencyKey = req.idempotencyKey ∧
      db.compensateDebit env cmd = .ok (op, db') := by
  simp only [compensateDebit, WalletGrpc.compensateDebit, bind_eq_ok, refuseIf_eq_ok,
    mapError_eq_ok, parseUUID_eq_ok] at h
  obtain ⟨resp, ⟨paymentID, hpid, fromWalletID, hfrom, -, -, walletDebitID, -, ⟨op, db₁⟩, hservice,
    hresp⟩, h⟩ := h
  obtain ⟨currency, hrepo⟩ := WalletService.compensateDebit_ok hservice
  cases hresp
  cases h
  exact ⟨_, op, hpid, hfrom, rfl, hrepo⟩

end WalletGRPCClient

namespace LedgerGRPCClient

/-- `LedgerGRPCClient.ReserveTransfer`. -/
def reserveTransfer (db : Database U) (env : TxEnv U) (req : LedgerReserveRequest) :
    Except Status (LedgerReserveResult × Database U) := do
  let (resp, db') ← LedgerGrpc.reserveTransfer db env req
  .ok (⟨resp.ledgerReservationID⟩, db')

/-- `LedgerGRPCClient.ConfirmTransfer`. -/
def confirmTransfer (db : Database U) (env : TxEnv U) (req : LedgerConfirmRequest) :
    Except Status (LedgerConfirmResult × Database U) := do
  let (resp, db') ← LedgerGrpc.confirmTransfer db env req
  .ok (⟨resp.transferID, resp.completedAt⟩, db')

/-- `LedgerGRPCClient.CancelReservation`. -/
def cancelReservation (db : Database U) (env : TxEnv U) (req : LedgerCancelRequest) :
    Except Status (Unit × Database U) := do
  let (_, db') ← LedgerGrpc.cancelReservation db env req
  .ok ((), db')

/-- A reserve call that succeeds reached the transaction with the request's values, and
    returned the ID of its reservation. -/
theorem reserveTransfer_ok {req : LedgerReserveRequest} {r : LedgerReserveResult}
    (h : reserveTransfer db env req = .ok (r, db')) :
    ∃ (paymentID fromWalletID toWalletID : U) (o : LedgerReservation U),
      parse req.paymentID = some paymentID ∧ parse req.fromWalletID = some fromWalletID ∧
      parse req.toWalletID = some toWalletID ∧ r.ledgerReservationID = text o.id ∧
      db.reserveTransfer env
        { paymentID := paymentID, idempotencyKey := req.idempotencyKey, traceID := req.traceID,
          fromWalletID := fromWalletID, toWalletID := toWalletID,
          amountCents := req.amountCents, currency := req.currency } = .ok (o, db') := by
  simp only [reserveTransfer, LedgerGrpc.reserveTransfer, bind_eq_ok, refuseIf_eq_ok,
    mapError_eq_ok, parseUUID_eq_ok] at h
  obtain ⟨resp, ⟨paymentID, hpid, fromWalletID, hfrom, toWalletID, hto, -, -, -, -, -, -, -, -,
    ⟨o, db₁⟩, hrepo, hresp⟩, h⟩ := h
  cases hresp
  cases h
  exact ⟨paymentID, fromWalletID, toWalletID, o, hpid, hfrom, hto, rfl, hrepo⟩

/-- A confirm call that succeeds reached the transaction with the request's values, and
    returned the ID of its transfer. -/
theorem confirmTransfer_ok {req : LedgerConfirmRequest} {r : LedgerConfirmResult}
    (h : confirmTransfer db env req = .ok (r, db')) :
    ∃ (cmd : LedgerConfirmCommand U) (c : LedgerConfirmation U),
      parse req.paymentID = some cmd.paymentID ∧
      parse req.ledgerReservationID = some cmd.ledgerReservationID ∧
      parse req.walletDebitID = some cmd.walletDebitID ∧
      r = ⟨text c.transferID, c.completedAt⟩ ∧ db.confirmTransfer env cmd = .ok (c, db') := by
  simp only [confirmTransfer, LedgerGrpc.confirmTransfer, bind_eq_ok, refuseIf_eq_ok,
    mapError_eq_ok, parseUUID_eq_ok] at h
  obtain ⟨resp, ⟨paymentID, hpid, reservationID, hrid, walletDebitID, hdid, -, -, ⟨c, db₁⟩, hrepo,
    hresp⟩, h⟩ := h
  cases hresp
  cases h
  exact ⟨_, c, hpid, hrid, hdid, rfl, hrepo⟩

/-- A cancel call that succeeds reached the transaction with the request's values. -/
theorem cancelReservation_ok {req : LedgerCancelRequest}
    (h : cancelReservation db env req = .ok ((), db')) :
    ∃ (cmd : LedgerCancelCommand U) (o : LedgerReservation U),
      parse req.paymentID = some cmd.paymentID ∧
      parse req.ledgerReservationID = some cmd.ledgerReservationID ∧
      db.cancelReservation env cmd = .ok (o, db') := by
  simp only [cancelReservation, LedgerGrpc.cancelReservation, bind_eq_ok, refuseIf_eq_ok,
    mapError_eq_ok, parseUUID_eq_ok] at h
  obtain ⟨resp, ⟨paymentID, hpid, reservationID, hrid, -, -, ⟨o, db₁⟩, hrepo, hresp⟩, h⟩ := h
  cases hresp
  cases h
  exact ⟨_, o, hpid, hrid, hrepo⟩

end LedgerGRPCClient

end EnjoyThings
