import EnjoyThings.ForStd.Transactions
import EnjoyThings.Services.Consumers

/-!
# Wallet and ledger transactions, statement by statement

`internal/repo/wallets.go` as its statements run: each function is a program over the
statements of `db/query` and `db/migrations`, and the statements of concurrent calls
interleave. `SELECT ... FOR UPDATE` locks the rows it finds, an insertion waits for an
uncommitted row with the same key, and everything is held until the transaction ends.
`LockWalletsForTransfer` takes its two row locks one after the other, in the order of the IDs.

A call is recorded when it returns, with the tables it started from. The foreign keys are
left out, since no row they point to is ever deleted, and so are the transactions that only
read.
-/

namespace EnjoyThings

open Effect
open Except (refuseIf ofOption bind_eq_ok refuseIf_eq_ok ofOption_eq_ok mapError_eq_ok)

variable {U : Type}

/-! ## AppendTransferEntries as one step -/

namespace Database

variable [UuidLib U]

/-- The look-up of `AppendTransferEntries` and `TransferProcessed`. -/
def transferProcessed (db : Database U) (transferID : U) : Bool :=
  db.ledgerEntries.any (·.transferID = transferID)

/-- An entry of `AppendTransferEntries`, with the balance the wallet has at that moment. -/
def transferEntry (env : TxEnv U) (id : U) (direction : Direction) (wallet : Wallet U)
    (transfer : LedgerTransfer U) : LedgerEntry U :=
  { id := id, walletID := wallet.id, transferID := transfer.transferID, direction := direction,
    amount := transfer.amountCents, balanceAfter := wallet.balance, createdAt := env.now }

def debitEntry (env : TxEnv U) (wallet : Wallet U) (transfer : LedgerTransfer U) :
    LedgerEntry U :=
  transferEntry env env.debitEntryID .debit wallet transfer

def creditEntry (env : TxEnv U) (wallet : Wallet U) (transfer : LedgerTransfer U) :
    LedgerEntry U :=
  transferEntry env env.creditEntryID .credit wallet transfer

/-- `Database.AppendTransferEntries`. An entry that is already there ends it without an error
    and without a commit. -/
def appendTransferEntries (db : Database U) (env : TxEnv U) (transfer : LedgerTransfer U) :
    Except RepoErr (Database U) := do
  refuseIf (transfer.amountCents ≤ 0) (.domain .invalidAmount)
  refuseIf (transfer.fromWalletID = transfer.toWalletID) (.domain .invalidTransfer)
  let _ ← (normalizeCurrency transfer.currency).mapError .domain
  if db.transferProcessed transfer.transferID then .ok db
  else
    let source ← ofOption (.domain .notFound) (db.wallet? transfer.fromWalletID)
    let target ← ofOption (.domain .notFound) (db.wallet? transfer.toWalletID)
    refuseIf (source.currency ≠ target.currency ∨ source.currency ≠ transfer.currency)
      (.domain .currencyMismatch)
    match db.insertLedgerEntry (debitEntry env source transfer) with
    | .error .uniqueViolation => .ok db
    | .error e => .error (.sql e)
    | .ok db₁ =>
      match db₁.insertLedgerEntry (creditEntry env target transfer) with
      | .error .uniqueViolation => .ok db
      | .error e => .error (.sql e)
      | .ok db₂ => .ok db₂

/-- A call that goes through changed nothing, or appended the two entries of a transfer that
    had none. -/
theorem appendTransferEntries_ok {db db' : Database U} {env : TxEnv U}
    {transfer : LedgerTransfer U} (h : db.appendTransferEntries env transfer = .ok db') :
    db' = db ∨
    (db.transferProcessed transfer.transferID = false ∧
      ∃ source target : Wallet U, db.wallet? transfer.fromWalletID = some source ∧
        db.wallet? transfer.toWalletID = some target ∧
        db' = { db with ledgerEntries := db.ledgerEntries ++ [debitEntry env source transfer] ++
                  [creditEntry env target transfer] }) := by
  simp only [appendTransferEntries, bind_eq_ok, refuseIf_eq_ok, mapError_eq_ok] at h
  obtain ⟨-, -, -, -, -, -, h⟩ := h
  split at h
  · exact .inl (Except.ok.inj h).symm
  · rename_i hnew
    simp only [bind_eq_ok, refuseIf_eq_ok, ofOption_eq_ok] at h
    obtain ⟨source, hsource, target, htarget, -, -, h⟩ := h
    split at h
    · exact .inl (Except.ok.inj h).symm
    · cases h
    · rename_i db₁ h₁
      split at h
      · exact .inl (Except.ok.inj h).symm
      · cases h
      · rename_i db₂ h₂
        obtain rfl := insertLedgerEntry_ok h₁
        obtain rfl := insertLedgerEntry_ok h₂
        exact .inr ⟨Bool.not_eq_true _ ▸ hnew, source, target, hsource, htarget,
          (Except.ok.inj h).symm⟩

end Database

/-! ## Locks and statements -/

/-- What a transaction can hold: the lock on a row, the entry of an uncommitted row in a unique
    index, and an ID it has drawn. -/
inductive LockKey (U : Type)
  | wallet (id : U)
  | operation (paymentID : U) (kind : OperationKind)
  | reservation (paymentID : U)
  | newOperation (paymentID : U) (kind : OperationKind)
  | newOperationKey (idempotencyKey : String) (kind : OperationKind)
  | newReservation (paymentID : U)
  | newEntry (transferID : U) (direction : Direction)
  | operationID (id : U)
  | reservationID (id : U)
  | transferID (id : U)
  | entryID (id : U)
  deriving DecidableEq

/-! What a row has in the unique indexes of its table. -/

def SagaWalletOperation.indexKeys (op : SagaWalletOperation U) : List (LockKey U) :=
  [.operationID op.id, .newOperation op.paymentID op.operation,
    .newOperationKey op.idempotencyKey op.operation]

def LedgerReservation.indexKeys (reservation : LedgerReservation U) : List (LockKey U) :=
  [.reservationID reservation.id, .newReservation reservation.paymentID]

def Transfer.indexKeys (transfer : Transfer U) : List (LockKey U) :=
  [.transferID transfer.id]

def LedgerEntry.indexKeys (entry : LedgerEntry U) : List (LockKey U) :=
  [.entryID entry.id, .newEntry entry.transferID entry.direction]

def Database.indexKeys (db : Database U) : List (LockKey U) :=
  db.operations.flatMap SagaWalletOperation.indexKeys ++
    db.reservations.flatMap LedgerReservation.indexKeys ++
    db.transfers.flatMap Transfer.indexKeys ++ db.ledgerEntries.flatMap LedgerEntry.indexKeys

/-- The updates of a reservation. -/
inductive ReservationChange (U : Type)
  | confirm (env : TxEnv U) (transferID walletDebitID : U)
  | cancel (env : TxEnv U) (reason : String)

def ReservationChange.apply : ReservationChange U → LedgerReservation U → LedgerReservation U
  | .confirm env transferID walletDebitID =>
    Database.confirmReservation env transferID walletDebitID
  | .cancel env reason => Database.cancelChange env reason

/-- The statements of `db/query` and of `wallets.go`. `snapshot` stands for the tables a call
    starts from. -/
inductive WalletStmt (U : Type)
  | snapshot
  | getOperation (paymentID : U) (kind : OperationKind)
  | getReservation (paymentID : U)
  | transferProcessed (transferID : U)
  | lockWallet (id : U)
  | lockOperation (paymentID : U) (kind : OperationKind)
  | lockReservation (paymentID : U)
  | updateWalletBalance (id : U) (balance : Int64) (now : Time)
  | insertTransfer (transfer : Transfer U)
  | insertLedgerEntry (entry : LedgerEntry U)
  | insertOperation (op : SagaWalletOperation U)
  | insertReservation (reservation : LedgerReservation U)
  | updateReservation (id : U) (change : ReservationChange U)
  | enqueue (record : OutboxRecord)

@[reducible] def WalletStmt.Ret : WalletStmt U → Type
  | .snapshot => Database U
  | .getOperation _ _ | .lockOperation _ _ => Option (SagaWalletOperation U)
  | .getReservation _ | .lockReservation _ => Option (LedgerReservation U)
  | .transferProcessed _ => Bool
  | .lockWallet _ => Option (Wallet U)
  | .updateReservation _ _ => LedgerReservation U
  | .updateWalletBalance _ _ _ | .insertTransfer _ | .insertLedgerEntry _ | .insertOperation _
  | .insertReservation _ | .enqueue _ => Unit

/-- What a call returns as its error. `down` is a statement that did not get through. -/
inductive CallErr
  | repo (e : RepoErr)
  | down
  deriving DecidableEq

namespace WalletStmt

/-- `SELECT`. -/
def select {α : Type} (find : Database U → α) : Statement (Database U) (LockKey U) CallErr α where
  awaits _ := []
  run db := .ok (find db)
  takes _ := []
  write _ db := db

/-- `SELECT ... FOR UPDATE` of one row. A row that is not there cannot be locked. -/
def selectForUpdate {α : Type} (key : LockKey U) (find : Database U → Option α) :
    Statement (Database U) (LockKey U) CallErr (Option α) where
  awaits db := if (find db).isSome then [key] else []
  run db := .ok (find db)
  takes row := if row.isSome then [key] else []
  write _ db := db

/-- `INSERT` and `UPDATE`, with the keys they hold and what the constraints of the table say. -/
def change (keys : List (LockKey U)) (check : Database U → Except SqlErr (Database U))
    (write : Database U → Database U) : Statement (Database U) (LockKey U) CallErr Unit where
  awaits _ := keys
  run db := ((check db).mapError fun e => .repo (.sql e)).map fun _ => ()
  takes _ := keys
  write _ := write

variable [UuidLib U]

/-- The update of the row with the ID, whose lock is that of its payment. -/
def changeReservation (id : U) (change : ReservationChange U) :
    Statement (Database U) (LockKey U) CallErr (LedgerReservation U) where
  awaits db := ((db.reservations.find? (·.id = id)).map fun r =>
    [.reservation r.paymentID]).getD []
  run db := (ofOption (.repo (.sql .noRows)) (db.reservations.find? (·.id = id))).map change.apply
  takes changed := [.reservation changed.paymentID]
  write changed db :=
    { db with reservations := db.reservations.map fun r =>
        if r.id = id ∧ r.paymentID = changed.paymentID then change.apply r else r }

def statement : (s : WalletStmt U) → Statement (Database U) (LockKey U) CallErr s.Ret
  | .snapshot => select id
  | .getOperation paymentID kind => select fun db => db.operation? paymentID kind
  | .getReservation paymentID => select fun db => db.reservation? paymentID
  | .transferProcessed transferID => select fun db => db.transferProcessed transferID
  | .lockWallet id => selectForUpdate (.wallet id) fun db => db.wallet? id
  | .lockOperation paymentID kind =>
    selectForUpdate (.operation paymentID kind) fun db => db.operation? paymentID kind
  | .lockReservation paymentID =>
    selectForUpdate (.reservation paymentID) fun db => db.reservation? paymentID
  | .updateWalletBalance id balance now =>
    change [.wallet id] (fun db => db.updateWalletBalance id balance now) fun db =>
      db.setBalance id balance now
  | .insertTransfer transfer =>
    change transfer.indexKeys (fun db => db.insertTransfer transfer) fun db =>
      { db with transfers := db.transfers ++ [transfer] }
  | .insertLedgerEntry entry =>
    change entry.indexKeys (fun db => db.insertLedgerEntry entry) fun db =>
      { db with ledgerEntries := db.ledgerEntries ++ [entry] }
  | .insertOperation op =>
    change op.indexKeys (fun db => db.insertOperation op) fun db =>
      { db with operations := db.operations ++ [op] }
  | .insertReservation reservation =>
    change reservation.indexKeys (fun db => db.insertReservation reservation) fun db =>
      { db with reservations := db.reservations ++ [reservation] }
  | .updateReservation id change => changeReservation id change
  | .enqueue record => change [] .ok fun db => { db with outbox := db.outbox ++ [record] }

end WalletStmt

/-- The IDs a transaction draws. -/
def TxEnv.lockKeys (env : TxEnv U) : List (LockKey U) :=
  [.operationID env.debitID, .operationID env.compensationID, .reservationID env.reservationID,
    .transferID env.transferID, .entryID env.debitEntryID, .entryID env.creditEntryID]

variable [UuidLib U]

/-- None of the IDs is in use. -/
def TxEnv.fresh (env : TxEnv U) (db : Database U) : Bool :=
  env.lockKeys.all (fun key => key ∉ db.indexKeys) && env.debitEntryID ≠ env.creditEntryID

def walletSql : Sql (WalletStmt U) WalletStmt.Ret (Database U) (LockKey U) CallErr (TxEnv U) where
  stmt := WalletStmt.statement
  ids := TxEnv.lockKeys
  fresh := TxEnv.fresh
  down := .down

/-! ## Calls and answers -/

/-- A call of the repository. `handleRecord` is the ledger consumer with the event of an outbox
    row that was there when it starts. -/
inductive WalletCall (U : Type)
  | createTransfer (userID fromWalletID toWalletID : U) (amount : Int64)
  | debitForSaga (cmd : SagaDebitCommand U)
  | compensateDebit (cmd : SagaCompensationCommand U)
  | reserveTransfer (cmd : LedgerReserveCommand U)
  | confirmTransfer (cmd : LedgerConfirmCommand U)
  | cancelReservation (cmd : LedgerCancelCommand U)
  | appendTransferEntries (transfer : LedgerTransfer U)
  | handleRecord (offset : Nat)

inductive WalletReply (U : Type)
  | transfer (transfer : Transfer U) (sourceBalance targetBalance : Int64)
  | operation (op : SagaWalletOperation U)
  | reservation (reservation : LedgerReservation U)
  | confirmation (confirmation : LedgerConfirmation U)
  | appended

/-- A call that has returned, and the tables it started from. -/
structure WalletAnswer (U : Type) where
  start : Database U
  call : WalletCall U
  result : Except CallErr (WalletReply U)

abbrev WalletOp (U : Type) : Type := TxOp (WalletStmt U) (WalletCall U) (WalletAnswer U)

abbrev WalletProg (U α : Type) : Type :=
  Prog (WalletOp U) (TxOp.Ret WalletStmt.Ret (TxEnv U)) CallErr α

/-! ## The functions of the repository -/

namespace Repo

/-- A statement of the open transaction. -/
abbrev execute (s : WalletStmt U) : WalletProg U s.Ret :=
  Prog.perform (TxOp.execute s)

/-- A statement outside of transactions. -/
abbrev query (s : WalletStmt U) : WalletProg U s.Ret :=
  Prog.perform (TxOp.query s)

abbrev commit : WalletProg U Unit :=
  Prog.perform TxOp.commit

abbrev rollback : WalletProg U Unit :=
  Prog.perform TxOp.rollback

/-- A check of the Go code. -/
def check {α : Type} (x : Except DomainErr α) : WalletProg U α :=
  Prog.onAnswer .done (x.mapError fun e => .repo (.domain e))

/-- `lockWallets`: the rows that are there, locked in the order of their IDs. -/
def lockWallets (firstID secondID : U) : WalletProg U (U → Option (Wallet U)) := do
  let lowID := if text secondID < text firstID then secondID else firstID
  let highID := if text secondID < text firstID then firstID else secondID
  let low ← execute (.lockWallet lowID)
  let high ← execute (.lockWallet highID)
  pure fun id => if id = lowID then low else if id = highID then high else none

/-- `Database.CreateTransfer`. -/
def createTransfer (outboxTopic : String) (userID fromWalletID toWalletID : U) (amount : Int64) :
    WalletProg U (Transfer U × Int64 × Int64) := do
  check (refuseIf (amount ≤ 0) .invalidAmount)
  check (refuseIf (fromWalletID = toWalletID) .invalidTransfer)
  TxOp.transaction (.createTransfer userID fromWalletID toWalletID amount) fun env => do
    let locked ← lockWallets fromWalletID toWalletID
    let source ← check (ofOption .notFound (locked fromWalletID))
    check (refuseIf (source.userID ≠ userID) .notFound)
    let target ← check (ofOption .notFound (locked toWalletID))
    check (refuseIf (source.currency ≠ target.currency) .currencyMismatch)
    let debited ← check (source.debit amount)
    let credited ← check (target.credit amount)
    execute (.updateWalletBalance debited.id debited.balance env.now)
    execute (.updateWalletBalance credited.id credited.balance env.now)
    let transfer := Database.newTransfer env fromWalletID toWalletID amount
    execute (.insertTransfer transfer)
    execute (.enqueue (Database.transferInitiated outboxTopic transfer source.currency))
    commit
    pure (transfer, debited.balance, credited.balance)

/-- An existing operation ends the transaction that finds it. -/
def returnExisting (existing : SagaWalletOperation U) : WalletProg U (SagaWalletOperation U) := do
  commit
  pure existing

/-- What `DebitForSaga` and `CompensateDebit` do with the answer of their insertion. -/
def settleOperation (op : SagaWalletOperation U) (paymentID : U) (kind : OperationKind) :
    Except CallErr Unit → WalletProg U (SagaWalletOperation U)
  | .ok _ => do
    commit
    pure op
  | .error (.repo (.sql .uniqueViolation)) => do
    rollback
    let existing ← query (.getOperation paymentID kind)
    check (ofOption .invalidTransfer existing)
  | .error e => .fail e

/-- `Database.DebitForSaga`. -/
def debitForSaga (cmd : SagaDebitCommand U) : WalletProg U (SagaWalletOperation U) := do
  check (refuseIf (cmd.paymentID = UuidLib.nil ∨ cmd.fromWalletID = UuidLib.nil ∨
    cmd.idempotencyKey = "") .invalidTransfer)
  check (refuseIf (cmd.amountCents ≤ 0) .invalidAmount)
  let _ ← check (normalizeCurrency cmd.currency)
  TxOp.transaction (.debitForSaga cmd) fun env => do
    match ← execute (.lockOperation cmd.paymentID .debit) with
    | some existing => returnExisting existing
    | none =>
      let locked ← execute (.lockWallet cmd.fromWalletID)
      match ← execute (.lockOperation cmd.paymentID .debit) with
      | some existing => returnExisting existing
      | none =>
        let wallet ← check (ofOption .notFound locked)
        check (refuseIf (wallet.currency ≠ cmd.currency) .currencyMismatch)
        let debited ← check (wallet.debit cmd.amountCents)
        execute (.updateWalletBalance debited.id debited.balance env.now)
        let op := Database.debitOperation env cmd wallet
        let created ← (execute (.insertOperation op)).attempt
        settleOperation op cmd.paymentID .debit created

/-- `Database.CompensateDebit`. -/
def compensateDebit (cmd : SagaCompensationCommand U) : WalletProg U (SagaWalletOperation U) := do
  check (refuseIf (cmd.paymentID = UuidLib.nil ∨ cmd.fromWalletID = UuidLib.nil ∨
    cmd.idempotencyKey = "") .invalidTransfer)
  check (refuseIf (cmd.amountCents < 0) .invalidAmount)
  let _ ← check (if cmd.currency = "" then .ok "" else normalizeCurrency cmd.currency)
  TxOp.transaction (.compensateDebit cmd) fun env => do
    match ← execute (.lockOperation cmd.paymentID .compensation) with
    | some existing => returnExisting existing
    | none =>
      let debit ← check (ofOption .debitNotFound (← execute (.lockOperation cmd.paymentID .debit)))
      match ← execute (.lockOperation cmd.paymentID .compensation) with
      | some existing => returnExisting existing
      | none =>
        check (refuseIf (cmd.walletDebitID ≠ UuidLib.nil ∧ cmd.walletDebitID ≠ debit.id)
          .debitNotFound)
        check (refuseIf (debit.walletID ≠ cmd.fromWalletID) .debitNotFound)
        check (refuseIf (0 < cmd.amountCents ∧ cmd.amountCents ≠ debit.amountCents) .invalidAmount)
        check (refuseIf (cmd.currency ≠ "" ∧ cmd.currency ≠ debit.currency) .currencyMismatch)
        let wallet ← check (ofOption .notFound (← execute (.lockWallet debit.walletID)))
        let credited ← check (wallet.credit debit.amountCents)
        execute (.updateWalletBalance credited.id credited.balance env.now)
        let op := Database.compensationOperation env cmd debit wallet
        let created ← (execute (.insertOperation op)).attempt
        settleOperation op cmd.paymentID .compensation created

/-- What `AppendTransferEntries` does with the answer of an insertion: an entry that is there
    already ends it without an error. -/
def unlessStored (created : Except CallErr Unit) (next : WalletProg U Unit) : WalletProg U Unit :=
  match created with
  | .ok _ => next
  | .error (.repo (.sql .uniqueViolation)) => pure ()
  | .error e => .fail e

/-- `Database.AppendTransferEntries`. -/
def appendTransferEntries (transfer : LedgerTransfer U) : WalletProg U Unit := do
  check (refuseIf (transfer.amountCents ≤ 0) .invalidAmount)
  check (refuseIf (transfer.fromWalletID = transfer.toWalletID) .invalidTransfer)
  let _ ← check (normalizeCurrency transfer.currency)
  TxOp.transaction (.appendTransferEntries transfer) fun env => do
    if ← execute (.transferProcessed transfer.transferID) then commit
    else
      let locked ← lockWallets transfer.fromWalletID transfer.toWalletID
      let source ← check (ofOption .notFound (locked transfer.fromWalletID))
      let target ← check (ofOption .notFound (locked transfer.toWalletID))
      check (refuseIf (source.currency ≠ target.currency ∨ source.currency ≠ transfer.currency)
        .currencyMismatch)
      let debited ← (execute (.insertLedgerEntry
        (Database.debitEntry env source transfer))).attempt
      unlessStored debited do
        let credited ← (execute (.insertLedgerEntry
          (Database.creditEntry env target transfer))).attempt
        unlessStored credited commit

/-- What `ReserveTransfer` returns for a reservation that is already there. -/
def sameOrRefuse (existing : LedgerReservation U) (cmd : LedgerReserveCommand U)
    (currency : String) : Except DomainErr (LedgerReservation U) := do
  refuseIf (¬ Database.sameReservationPayload existing cmd currency) .alreadyExists
  .ok existing

/-- What `ReserveTransfer` does with the answer of its insertion. -/
def settleReservation (reservation : LedgerReservation U) (cmd : LedgerReserveCommand U)
    (currency : String) : Except CallErr Unit → WalletProg U (LedgerReservation U)
  | .ok _ => do
    commit
    pure reservation
  | .error (.repo (.sql .uniqueViolation)) => do
    rollback
    match ← query (.getReservation cmd.paymentID) with
    | none => .fail (.repo (.sql .noRows))
    | some existing => check (sameOrRefuse existing cmd currency)
  | .error e => .fail e

/-- `Database.ReserveTransfer`. -/
def reserveTransfer (cmd : LedgerReserveCommand U) : WalletProg U (LedgerReservation U) := do
  check (refuseIf (cmd.paymentID = UuidLib.nil ∨ cmd.fromWalletID = UuidLib.nil ∨
    cmd.toWalletID = UuidLib.nil ∨ cmd.idempotencyKey = "") .invalidTransfer)
  check (refuseIf (cmd.amountCents ≤ 0) .invalidAmount)
  check (refuseIf (cmd.fromWalletID = cmd.toWalletID) .invalidTransfer)
  let currency ← check (normalizeCurrency cmd.currency)
  TxOp.transaction (.reserveTransfer cmd) fun env => do
    match ← execute (.lockReservation cmd.paymentID) with
    | some existing =>
      let same ← check (sameOrRefuse existing cmd currency)
      commit
      pure same
    | none =>
      let locked ← lockWallets cmd.fromWalletID cmd.toWalletID
      let source ← check (ofOption .notFound (locked cmd.fromWalletID))
      let target ← check (ofOption .notFound (locked cmd.toWalletID))
      check (refuseIf (source.currency ≠ target.currency ∨ source.currency ≠ currency)
        .currencyMismatch)
      let reservation := Database.newReservation env cmd currency
      let created ← (execute (.insertReservation reservation)).attempt
      settleReservation reservation cmd currency created

/-- `Database.ConfirmTransfer`. -/
def confirmTransfer (cmd : LedgerConfirmCommand U) : WalletProg U (LedgerConfirmation U) := do
  check (refuseIf (cmd.paymentID = UuidLib.nil ∨ cmd.ledgerReservationID = UuidLib.nil ∨
    cmd.walletDebitID = UuidLib.nil ∨ cmd.idempotencyKey = "") .invalidTransfer)
  TxOp.transaction (.confirmTransfer cmd) fun env => do
    let r ← check (ofOption .notFound (← execute (.lockReservation cmd.paymentID)))
    check (refuseIf (r.id ≠ cmd.ledgerReservationID) .failedPrecondition)
    match r.status with
    | .confirmed =>
      commit
      pure (Database.ledgerConfirmationFromReservation r)
    | .canceled => check (.error .failedPrecondition)
    | .reserved =>
      let locked ← lockWallets r.fromWalletID r.toWalletID
      let source ← check (ofOption .notFound (locked r.fromWalletID))
      let target ← check (ofOption .notFound (locked r.toWalletID))
      check (refuseIf (source.currency ≠ target.currency ∨ source.currency ≠ r.currency)
        .currencyMismatch)
      let transfer := Database.newTransfer env r.fromWalletID r.toWalletID r.amountCents
      execute (.insertTransfer transfer)
      execute (.insertLedgerEntry
        (Database.confirmEntry env env.debitEntryID .debit source r.amountCents))
      execute (.insertLedgerEntry
        (Database.confirmEntry env env.creditEntryID .credit target r.amountCents))
      let confirmed ← execute (.updateReservation r.id
        (.confirm env transfer.id cmd.walletDebitID))
      commit
      pure (Database.ledgerConfirmationFromReservation confirmed)

/-- `Database.CancelReservation`. -/
def cancelReservation (cmd : LedgerCancelCommand U) : WalletProg U (LedgerReservation U) := do
  check (refuseIf (cmd.paymentID = UuidLib.nil ∨ cmd.ledgerReservationID = UuidLib.nil ∨
    cmd.idempotencyKey = "") .invalidTransfer)
  TxOp.transaction (.cancelReservation cmd) fun env => do
    let r ← check (ofOption .notFound (← execute (.lockReservation cmd.paymentID)))
    check (refuseIf (r.id ≠ cmd.ledgerReservationID) .failedPrecondition)
    match r.status with
    | .canceled =>
      commit
      pure r
    | .confirmed => check (.error .failedPrecondition)
    | .reserved =>
      let canceled ← execute (.updateReservation r.id (.cancel env cmd.reason))
      commit
      pure canceled

/-! ## Serving calls -/

/-- A call and its return. -/
def respond {α : Type} (start : Database U) (call : WalletCall U) (reply : α → WalletReply U)
    (prog : WalletProg U α) : WalletProg U Unit := do
  let r ← prog.attempt
  Prog.perform (TxOp.answer { start := start, call := call, result := r.map reply })

/-- `HandleRecord` of the ledger consumer with an event that has been published. What it does
    with an event that does not decode is not in these tables. -/
def handleEvent (decoders : Decoders Payload) (start : Database U) :
    Option OutboxRecord → WalletProg U Unit
  | none => pure ()
  | some record =>
    match LedgerConsumer.decodeTransfer decoders record.payload with
    | .error _ => pure ()
    | .ok transfer => respond start (.appendTransferEntries transfer) (fun _ => .appended)
        (appendTransferEntries transfer)

def serve (outboxTopic : String) (decoders : Decoders Payload) (call : WalletCall U) :
    WalletProg U Unit := do
  let start ← query .snapshot
  match call with
  | .createTransfer userID fromWalletID toWalletID amount =>
    respond start call (fun r => .transfer r.1 r.2.1 r.2.2)
      (createTransfer outboxTopic userID fromWalletID toWalletID amount)
  | .debitForSaga cmd => respond start call .operation (debitForSaga cmd)
  | .compensateDebit cmd => respond start call .operation (compensateDebit cmd)
  | .reserveTransfer cmd => respond start call .reservation (reserveTransfer cmd)
  | .confirmTransfer cmd => respond start call .confirmation (confirmTransfer cmd)
  | .cancelReservation cmd => respond start call .reservation (cancelReservation cmd)
  | .appendTransferEntries transfer =>
    respond start call (fun _ => .appended) (appendTransferEntries transfer)
  | .handleRecord offset => handleEvent decoders start start.outbox[offset]?

end Repo

/-- The tables, the locks and the open transactions of the wallet and ledger services, for
    connections `P`. -/
abbrev WalletWorld (P U : Type) : Type :=
  Shared P (WalletCall U) (TxEnv U) (Database U) (LockKey U) (WalletAnswer U)

abbrev WalletTeam (P U : Type) : Type :=
  Team P (WalletOp U) (TxOp.Ret WalletStmt.Ret (TxEnv U)) CallErr (WalletWorld P U) Unit

/-- A step of a run: a connection takes a call, makes a step or breaks down. -/
abbrev WalletAct (P U : Type) : Type :=
  TeamAct P (WalletCall U) (TxChoice (TxEnv U)) Empty

def walletServices (P : Type) [DecidableEq P] (outboxTopic : String)
    (decoders : Decoders Payload) :
    Company P (WalletOp U) (TxOp.Ret WalletStmt.Ret (TxEnv U)) CallErr (WalletWorld P U) Unit
      (TxChoice (TxEnv U)) (WalletCall U) Empty :=
  Shared.company walletSql (Repo.serve outboxTopic decoders)

/-- Any number of connections, any calls and any interleaving of their statements, from tables
    `db` on. -/
def walletRun {P : Type} [DecidableEq P] (outboxTopic : String) (decoders : Decoders Payload)
    (db : Database U) (acts : List (WalletAct P U)) : WalletTeam P U :=
  (Team.idle { committed := db }).run (walletServices P outboxTopic decoders) acts

end EnjoyThings
