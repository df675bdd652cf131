import EnjoyThings.ForStd.Except
import EnjoyThings.Services.SagaTypes

/-!
# Wallets and the ledger

`internal/repo/wallets.go` over the tables of `db/migrations`. Every function is
one transaction: it returns what the Go function returns together with the
tables it commits, and an error leaves the tables as they were. The statements
enforce the constraints of the tables: primary and unique keys, and the checks
on balances and amounts. The UUIDs and the time a transaction draws are an
argument.

After each transaction stands the lemma that says everything a successful call
can have done, which is what the proofs about it use.
-/

namespace EnjoyThings

/-- The tables of the wallet and ledger services, and the outbox. -/
structure Database (U : Type) where
  wallets : List (Wallet U) := []
  transfers : List (Transfer U) := []
  ledgerEntries : List (LedgerEntry U) := []
  operations : List (SagaWalletOperation U) := []
  reservations : List (LedgerReservation U) := []
  outbox : List OutboxRecord := []
  deriving DecidableEq

/-- What one transaction draws: `gen_random_uuid()` for the row it inserts in a table, and
    `now()`. A transaction uses the IDs of the tables it inserts into. -/
structure TxEnv (U : Type) where
  sagaID : U
  debitID : U
  compensationID : U
  reservationID : U
  transferID : U
  debitEntryID : U
  creditEntryID : U
  now : Time

/-- Errors of the database itself. -/
inductive SqlErr
  | uniqueViolation
  | checkViolation
  | noRows
  deriving DecidableEq, Repr

/-- What a repository function returns as its error. -/
inductive RepoErr
  | domain (e : DomainErr)
  | sql (e : SqlErr)
  deriving DecidableEq, Repr

open Except (refuseIf ofOption bind_eq_ok refuseIf_eq_ok ofOption_eq_ok mapError_eq_ok)

namespace Database

variable {U : Type} [UuidLib U]

/-! ## Statements -/

/-- `GetWallet`, `LockWalletForUpdate` and the lookups of `lockWallets`. -/
def wallet? (db : Database U) (id : U) : Option (Wallet U) :=
  db.wallets.find? (·.id = id)

/-- `GetSagaWalletOperation`. -/
def operation? (db : Database U) (paymentID : U) (kind : OperationKind) :
    Option (SagaWalletOperation U) :=
  db.operations.find? fun op => op.paymentID = paymentID ∧ op.operation = kind

/-- `getLedgerReservationByPaymentID`. -/
def reservation? (db : Database U) (paymentID : U) : Option (LedgerReservation U) :=
  db.reservations.find? (·.paymentID = paymentID)

/-- The row `UpdateWalletBalance` writes. -/
def setBalance (db : Database U) (id : U) (balance : Int64) (now : Time) : Database U :=
  { db with wallets := db.wallets.map fun wallet =>
      if wallet.id = id then { wallet with balance := balance, updatedAt := now } else wallet }

/-- `UpdateWalletBalance`, with the check that no balance is negative. -/
def updateWalletBalance (db : Database U) (id : U) (balance : Int64) (now : Time) :
    Except SqlErr (Database U) :=
  if balance < 0 then .error .checkViolation else .ok (db.setBalance id balance now)

/-- `CreateTransfer`, the statement. -/
def insertTransfer (db : Database U) (transfer : Transfer U) : Except SqlErr (Database U) :=
  if transfer.amount ≤ 0 ∨ transfer.fromWalletID = transfer.toWalletID then
    .error .checkViolation
  else if db.transfers.any (·.id = transfer.id) then .error .uniqueViolation
  else .ok { db with transfers := db.transfers ++ [transfer] }

/-- `CreateLedgerEntry`. -/
def insertLedgerEntry (db : Database U) (entry : LedgerEntry U) : Except SqlErr (Database U) :=
  if entry.amount ≤ 0 then .error .checkViolation
  else if db.ledgerEntries.any (fun e => e.id = entry.id ∨
      e.transferID = entry.transferID ∧ e.direction = entry.direction) then
    .error .uniqueViolation
  else .ok { db with ledgerEntries := db.ledgerEntries ++ [entry] }

/-- `CreateSagaWalletOperation`. -/
def insertOperation (db : Database U) (op : SagaWalletOperation U) : Except SqlErr (Database U) :=
  if op.amountCents ≤ 0 then .error .checkViolation
  else if db.operations.any (fun o => o.id = op.id ∨ o.operation = op.operation ∧
      (o.paymentID = op.paymentID ∨ o.idempotencyKey = op.idempotencyKey)) then
    .error .uniqueViolation
  else .ok { db with operations := db.operations ++ [op] }

/-- The insertion of `ReserveTransfer`. -/
def insertReservation (db : Database U) (reservation : LedgerReservation U) :
    Except SqlErr (Database U) :=
  if reservation.amountCents ≤ 0 ∨ reservation.fromWalletID = reservation.toWalletID then
    .error .checkViolation
  else if db.reservations.any (fun r => r.id = reservation.id ∨
      r.paymentID = reservation.paymentID) then
    .error .uniqueViolation
  else .ok { db with reservations := db.reservations ++ [reservation] }

/-- The updates of `ConfirmTransfer` and `CancelReservation`, by primary key. -/
def updateReservation (db : Database U) (id : U)
    (change : LedgerReservation U → LedgerReservation U) : Database U :=
  { db with reservations := db.reservations.map fun r => if r.id = id then change r else r }

variable {op : SagaWalletOperation U}

section Statements

variable {db db' : Database U}

theorem updateWalletBalance_ok {id : U} {balance : Int64} {now : Time}
    (h : db.updateWalletBalance id balance now = .ok db') :
    0 ≤ balance ∧ db' = db.setBalance id balance now := by
  simp only [updateWalletBalance] at h
  split at h
  · cases h
  · rename_i hb
    exact ⟨Int64.not_lt.mp hb, (Except.ok.inj h).symm⟩

theorem insertTransfer_ok {transfer : Transfer U} (h : db.insertTransfer transfer = .ok db') :
    0 < transfer.amount ∧ transfer.fromWalletID ≠ transfer.toWalletID ∧
      (∀ t ∈ db.transfers, t.id ≠ transfer.id) ∧
      db' = { db with transfers := db.transfers ++ [transfer] } := by
  simp only [insertTransfer] at h
  split at h
  · cases h
  · rename_i hc
    split at h
    · cases h
    · rename_i hu
      refine ⟨Int64.not_le.mp fun ha => hc (.inl ha), fun he => hc (.inr he),
        fun t ht he => hu ?_, (Except.ok.inj h).symm⟩
      exact List.any_eq_true.mpr ⟨t, ht, decide_eq_true he⟩

theorem insertLedgerEntry_ok {entry : LedgerEntry U}
    (h : db.insertLedgerEntry entry = .ok db') :
    db' = { db with ledgerEntries := db.ledgerEntries ++ [entry] } := by
  simp only [insertLedgerEntry] at h
  split at h
  · cases h
  · split at h
    · cases h
    · exact (Except.ok.inj h).symm

theorem insertOperation_ok (h : db.insertOperation op = .ok db') :
    (∀ o ∈ db.operations, o.id ≠ op.id ∧ (o.operation = op.operation →
      o.paymentID ≠ op.paymentID ∧ o.idempotencyKey ≠ op.idempotencyKey)) ∧
      db' = { db with operations := db.operations ++ [op] } := by
  simp only [insertOperation] at h
  split at h
  · cases h
  · split at h
    · cases h
    · rename_i hu
      refine ⟨fun o ho => ?_, (Except.ok.inj h).symm⟩
      have ho' : ¬ (o.id = op.id ∨ o.operation = op.operation ∧
          (o.paymentID = op.paymentID ∨ o.idempotencyKey = op.idempotencyKey)) :=
        fun he => hu (List.any_eq_true.mpr ⟨o, ho, decide_eq_true he⟩)
      exact ⟨fun he => ho' (.inl he), fun hk =>
        ⟨fun he => ho' (.inr ⟨hk, .inl he⟩), fun he => ho' (.inr ⟨hk, .inr he⟩)⟩⟩

theorem insertReservation_ok {reservation : LedgerReservation U}
    (h : db.insertReservation reservation = .ok db') :
    (∀ r ∈ db.reservations, r.id ≠ reservation.id ∧ r.paymentID ≠ reservation.paymentID) ∧
      db' = { db with reservations := db.reservations ++ [reservation] } := by
  simp only [insertReservation] at h
  split at h
  · cases h
  · split at h
    · cases h
    · rename_i hu
      refine ⟨fun r hr => ?_, (Except.ok.inj h).symm⟩
      have hr' : ¬ (r.id = reservation.id ∨ r.paymentID = reservation.paymentID) :=
        fun he => hu (List.any_eq_true.mpr ⟨r, hr, decide_eq_true he⟩)
      exact ⟨fun he => hr' (.inl he), fun he => hr' (.inr he)⟩

theorem wallet?_some {id : U} {wallet : Wallet U} (h : db.wallet? id = some wallet) :
    wallet ∈ db.wallets ∧ wallet.id = id :=
  ⟨List.mem_of_find?_eq_some h, by simpa using List.find?_some h⟩

theorem operation?_some {paymentID : U} {kind : OperationKind}
    (h : db.operation? paymentID kind = some op) :
    op ∈ db.operations ∧ op.paymentID = paymentID ∧ op.operation = kind :=
  ⟨List.mem_of_find?_eq_some h, by simpa using List.find?_some h⟩

theorem reservation?_some {paymentID : U} {reservation : LedgerReservation U}
    (h : db.reservation? paymentID = some reservation) :
    reservation ∈ db.reservations ∧ reservation.paymentID = paymentID :=
  ⟨List.mem_of_find?_eq_some h, by simpa using List.find?_some h⟩

end Statements

/-! ## CreateTransfer -/

/-- The transfer `CreateTransfer` and `ConfirmTransfer` insert. -/
def newTransfer (env : TxEnv U) (fromWalletID toWalletID : U) (amount : Int64) : Transfer U :=
  { id := env.transferID, fromWalletID := fromWalletID, toWalletID := toWalletID, amount := amount,
    status := "completed", createdAt := env.now }

/-- The outbox row of `CreateTransfer`, with `MarshalTransactionInitiated`. An empty
    configured topic means `tx.initiated`. -/
def transferInitiated (outboxTopic : String) (transfer : Transfer U) (currency : String) :
    OutboxRecord :=
  { topic := if outboxTopic = "" then .txInitiated else .configured outboxTopic
    partitionKey := text transfer.fromWalletID
    payload := .transactionInitiated
      { transferID := text transfer.id
        fromWalletID := text transfer.fromWalletID
        toWalletID := text transfer.toWalletID
        amountCents := transfer.amount
        currency := currency
        initiatedAt := transfer.createdAt } }

/-- `Database.CreateTransfer`: the transfer and the two balances it leaves. -/
def createTransfer (db : Database U) (outboxTopic : String) (env : TxEnv U)
    (userID fromWalletID toWalletID : U) (amount : Int64) :
    Except RepoErr ((Transfer U × Int64 × Int64) × Database U) := do
  refuseIf (amount ≤ 0) (.domain .invalidAmount)
  refuseIf (fromWalletID = toWalletID) (.domain .invalidTransfer)
  let source ← ofOption (.domain .notFound) (db.wallet? fromWalletID)
  refuseIf (source.userID ≠ userID) (.domain .notFound)
  let target ← ofOption (.domain .notFound) (db.wallet? toWalletID)
  refuseIf (source.currency ≠ target.currency) (.domain .currencyMismatch)
  let debited ← (source.debit amount).mapError .domain
  let credited ← (target.credit amount).mapError .domain
  let db₁ ← (db.updateWalletBalance debited.id debited.balance env.now).mapError .sql
  let db₂ ← (db₁.updateWalletBalance credited.id credited.balance env.now).mapError .sql
  let transfer := newTransfer env fromWalletID toWalletID amount
  let db₃ ← (db₂.insertTransfer transfer).mapError .sql
  .ok ((transfer, debited.balance, credited.balance),
    { db₃ with outbox := db₃.outbox ++
        [transferInitiated outboxTopic transfer source.currency] })

variable {env : TxEnv U}

/-- A transfer that goes through moved `amount` from the source to the target. -/
theorem createTransfer_ok {db db' : Database U} {outboxTopic : String}
    {userID fromWalletID toWalletID : U} {amount : Int64} {r : Transfer U × Int64 × Int64}
    (h : db.createTransfer outboxTopic env userID fromWalletID toWalletID amount = .ok (r, db')) :
    0 < amount ∧ fromWalletID ≠ toWalletID ∧
      ∃ source target : Wallet U, db.wallet? fromWalletID = some source ∧
        db.wallet? toWalletID = some target ∧ source.userID = userID ∧
        source.currency = target.currency ∧ amount ≤ source.balance ∧
        0 ≤ source.balance - amount ∧ 0 ≤ target.balance + amount ∧
        (∀ t ∈ db.transfers, t.id ≠ env.transferID) ∧
        r.1 = newTransfer env fromWalletID toWalletID amount ∧
        db' = { (db.setBalance fromWalletID (source.balance - amount) env.now).setBalance
                  toWalletID (target.balance + amount) env.now with
                transfers := db.transfers ++ [r.1]
                outbox := db.outbox ++ [transferInitiated outboxTopic r.1 source.currency] } := by
  simp only [createTransfer, bind_eq_ok, refuseIf_eq_ok, ofOption_eq_ok, mapError_eq_ok] at h
  obtain ⟨-, hpos, -, hne, source, hsource, -, howner, target, htarget, -, hcur, debited, hdebit,
    credited, hcredit, db₁, h₁, db₂, h₂, db₃, h₃, h⟩ := h
  obtain ⟨-, hfunds, rfl⟩ := Wallet.debit_ok hdebit
  obtain ⟨-, rfl⟩ := Wallet.credit_ok hcredit
  obtain ⟨hb₁, rfl⟩ := updateWalletBalance_ok h₁
  obtain ⟨hb₂, rfl⟩ := updateWalletBalance_ok h₂
  obtain ⟨-, -, hfresh, rfl⟩ := insertTransfer_ok h₃
  cases h
  obtain rfl := (wallet?_some hsource).2
  obtain rfl := (wallet?_some htarget).2
  exact ⟨Int64.not_le.mp hpos, hne, source, target, hsource, htarget, Decidable.not_not.mp howner,
    Decidable.not_not.mp hcur, hfunds, hb₁, hb₂, hfresh, rfl, rfl⟩

/-! ## DebitForSaga -/

/-- The debit operation a command makes on a wallet. -/
def debitOperation (env : TxEnv U) (cmd : SagaDebitCommand U) (wallet : Wallet U) :
    SagaWalletOperation U :=
  { id := env.debitID, paymentID := cmd.paymentID, operation := .debit,
    idempotencyKey := cmd.idempotencyKey, walletID := wallet.id,
    amountCents := cmd.amountCents, currency := cmd.currency, status := .completed,
    balanceAfterCents := wallet.balance - cmd.amountCents, createdAt := env.now,
    updatedAt := env.now }

/-- `Database.DebitForSaga`. The second look-up after the wallet is locked sees what the
    first one saw, as a transaction is one step here. -/
def debitForSaga (db : Database U) (env : TxEnv U) (cmd : SagaDebitCommand U) :
    Except RepoErr (SagaWalletOperation U × Database U) := do
  refuseIf (cmd.paymentID = UuidLib.nil ∨ cmd.fromWalletID = UuidLib.nil ∨
    cmd.idempotencyKey = "") (.domain .invalidTransfer)
  refuseIf (cmd.amountCents ≤ 0) (.domain .invalidAmount)
  let _ ← (normalizeCurrency cmd.currency).mapError .domain
  match db.operation? cmd.paymentID .debit with
  | some existing => .ok (existing, db)
  | none =>
    let wallet ← ofOption (.domain .notFound) (db.wallet? cmd.fromWalletID)
    refuseIf (wallet.currency ≠ cmd.currency) (.domain .currencyMismatch)
    let debited ← (wallet.debit cmd.amountCents).mapError .domain
    let db₁ ← (db.updateWalletBalance debited.id debited.balance env.now).mapError .sql
    match db₁.insertOperation (debitOperation env cmd wallet) with
    | .ok db₂ => .ok (debitOperation env cmd wallet, db₂)
    | .error .uniqueViolation =>
      -- rolled back: the operation that was in the way is looked up again
      let existing ← ofOption (.domain .invalidTransfer) (db.operation? cmd.paymentID .debit)
      .ok (existing, db)
    | .error e => .error (.sql e)

/-- A debit that goes through is the stored one of the payment, or a new one that took
    the amount from the wallet. -/
theorem debitForSaga_ok {db db' : Database U} {cmd : SagaDebitCommand U}
    (h : db.debitForSaga env cmd = .ok (op, db')) :
    (db.operation? cmd.paymentID .debit = some op ∧ db' = db) ∨
    (db.operation? cmd.paymentID .debit = none ∧
      ∃ wallet : Wallet U, db.wallet? cmd.fromWalletID = some wallet ∧
        wallet.currency = cmd.currency ∧ 0 < cmd.amountCents ∧
        cmd.amountCents ≤ wallet.balance ∧ 0 ≤ wallet.balance - cmd.amountCents ∧
        op = debitOperation env cmd wallet ∧
        db' = { db.setBalance wallet.id (wallet.balance - cmd.amountCents) env.now with
                operations := db.operations ++ [op] }) := by
  simp only [debitForSaga, bind_eq_ok, refuseIf_eq_ok, mapError_eq_ok] at h
  obtain ⟨-, -, -, -, -, -, h⟩ := h
  split at h
  · rename_i existing hexisting
    cases h
    exact .inl ⟨hexisting, rfl⟩
  · rename_i hnone
    simp only [bind_eq_ok, refuseIf_eq_ok, ofOption_eq_ok, mapError_eq_ok] at h
    obtain ⟨wallet, hwallet, -, hcur, debited, hdebit, db₁, h₁, h⟩ := h
    obtain ⟨hpos, hfunds, rfl⟩ := Wallet.debit_ok hdebit
    obtain ⟨hb, rfl⟩ := updateWalletBalance_ok h₁
    split at h
    · rename_i db₂ h₂
      obtain ⟨-, rfl⟩ := insertOperation_ok h₂
      cases h
      exact .inr ⟨hnone, wallet, hwallet, Decidable.not_not.mp hcur, hpos, hfunds, hb, rfl, rfl⟩
    · -- without a stored debit the look-up after the rollback finds nothing
      rw [hnone] at h
      cases h
    · cases h

/-! ## CompensateDebit -/

/-- The compensation of a debit: the debit's amount back to its wallet. -/
def compensationOperation (env : TxEnv U) (cmd : SagaCompensationCommand U)
    (debit : SagaWalletOperation U) (wallet : Wallet U) : SagaWalletOperation U :=
  { id := env.compensationID, paymentID := cmd.paymentID, operation := .compensation,
    idempotencyKey := cmd.idempotencyKey, walletID := wallet.id,
    amountCents := debit.amountCents, currency := debit.currency, status := .completed,
    balanceAfterCents := wallet.balance + debit.amountCents, createdAt := env.now,
    updatedAt := env.now }

/-- `Database.CompensateDebit`. -/
def compensateDebit (db : Database U) (env : TxEnv U) (cmd : SagaCompensationCommand U) :
    Except RepoErr (SagaWalletOperation U × Database U) := do
  refuseIf (cmd.paymentID = UuidLib.nil ∨ cmd.fromWalletID = UuidLib.nil ∨
    cmd.idempotencyKey = "") (.domain .invalidTransfer)
  refuseIf (cmd.amountCents < 0) (.domain .invalidAmount)
  let _ ← (if cmd.currency = "" then .ok "" else normalizeCurrency cmd.currency).mapError .domain
  match db.operation? cmd.paymentID .compensation with
  | some existing => .ok (existing, db)
  | none =>
    let debit ← ofOption (.domain .debitNotFound) (db.operation? cmd.paymentID .debit)
    refuseIf (cmd.walletDebitID ≠ UuidLib.nil ∧ cmd.walletDebitID ≠ debit.id)
      (.domain .debitNotFound)
    refuseIf (debit.walletID ≠ cmd.fromWalletID) (.domain .debitNotFound)
    refuseIf (0 < cmd.amountCents ∧ cmd.amountCents ≠ debit.amountCents) (.domain .invalidAmount)
    refuseIf (cmd.currency ≠ "" ∧ cmd.currency ≠ debit.currency) (.domain .currencyMismatch)
    let wallet ← ofOption (.domain .notFound) (db.wallet? debit.walletID)
    let credited ← (wallet.credit debit.amountCents).mapError .domain
    let db₁ ← (db.updateWalletBalance credited.id credited.balance env.now).mapError .sql
    match db₁.insertOperation (compensationOperation env cmd debit wallet) with
    | .ok db₂ => .ok (compensationOperation env cmd debit wallet, db₂)
    | .error .uniqueViolation =>
      -- rolled back: the operation that was in the way is looked up again
      let existing ← ofOption (.domain .invalidTransfer)
        (db.operation? cmd.paymentID .compensation)
      .ok (existing, db)
    | .error e => .error (.sql e)

/-- A compensation that goes through is the stored one of the payment, or a new one that
    gave the amount of the payment's debit back. -/
theorem compensateDebit_ok {db db' : Database U} {cmd : SagaCompensationCommand U}
    (h : db.compensateDebit env cmd = .ok (op, db')) :
    (db.operation? cmd.paymentID .compensation = some op ∧ db' = db) ∨
    (db.operation? cmd.paymentID .compensation = none ∧
      ∃ (debit : SagaWalletOperation U) (wallet : Wallet U),
        db.operation? cmd.paymentID .debit = some debit ∧ debit.walletID = cmd.fromWalletID ∧
        db.wallet? debit.walletID = some wallet ∧ 0 < debit.amountCents ∧
        0 ≤ wallet.balance + debit.amountCents ∧
        op = compensationOperation env cmd debit wallet ∧
        db' = { db.setBalance wallet.id (wallet.balance + debit.amountCents) env.now with
                operations := db.operations ++ [op] }) := by
  simp only [compensateDebit, bind_eq_ok, refuseIf_eq_ok, mapError_eq_ok] at h
  obtain ⟨-, -, -, -, -, -, h⟩ := h
  split at h
  · rename_i existing hexisting
    cases h
    exact .inl ⟨hexisting, rfl⟩
  · rename_i hnone
    simp only [bind_eq_ok, refuseIf_eq_ok, ofOption_eq_ok, mapError_eq_ok] at h
    obtain ⟨debit, hdebit, -, -, -, hwid, -, -, -, -, wallet, hwallet, credited, hcredit,
      db₁, h₁, h⟩ := h
    obtain ⟨hpos, rfl⟩ := Wallet.credit_ok hcredit
    obtain ⟨hb, rfl⟩ := updateWalletBalance_ok h₁
    split at h
    · rename_i db₂ h₂
      obtain ⟨-, rfl⟩ := insertOperation_ok h₂
      cases h
      exact .inr ⟨hnone, debit, wallet, hdebit, Decidable.not_not.mp hwid, hwallet, hpos, hb,
        rfl, rfl⟩
    · -- without a stored compensation the look-up after the rollback finds nothing
      rw [hnone] at h
      cases h
    · cases h

/-! ## ReserveTransfer -/

/-- The reservation a command makes. -/
def newReservation (env : TxEnv U) (cmd : LedgerReserveCommand U) (currency : String) :
    LedgerReservation U :=
  { id := env.reservationID, paymentID := cmd.paymentID, idempotencyKey := cmd.idempotencyKey,
    traceID := cmd.traceID, fromWalletID := cmd.fromWalletID, toWalletID := cmd.toWalletID,
    amountCents := cmd.amountCents, currency := currency, status := .reserved,
    transferID := none, walletDebitID := none, completedAt := 0, canceledAt := 0,
    cancelReason := "", createdAt := env.now, updatedAt := env.now }

/-- `sameReservationPayload`, with the command's normalized currency. -/
def sameReservationPayload (existing : LedgerReservation U) (cmd : LedgerReserveCommand U)
    (currency : String) : Prop :=
  existing.paymentID = cmd.paymentID ∧ existing.idempotencyKey = cmd.idempotencyKey ∧
    existing.fromWalletID = cmd.fromWalletID ∧ existing.toWalletID = cmd.toWalletID ∧
    existing.amountCents = cmd.amountCents ∧ existing.currency = currency

instance (existing : LedgerReservation U) (cmd : LedgerReserveCommand U) (currency : String) :
    Decidable (sameReservationPayload existing cmd currency) :=
  inferInstanceAs (Decidable (_ ∧ _))

/-- `Database.ReserveTransfer`. -/
def reserveTransfer (db : Database U) (env : TxEnv U) (cmd : LedgerReserveCommand U) :
    Except RepoErr (LedgerReservation U × Database U) := do
  refuseIf (cmd.paymentID = UuidLib.nil ∨ cmd.fromWalletID = UuidLib.nil ∨
    cmd.toWalletID = UuidLib.nil ∨ cmd.idempotencyKey = "") (.domain .invalidTransfer)
  refuseIf (cmd.amountCents ≤ 0) (.domain .invalidAmount)
  refuseIf (cmd.fromWalletID = cmd.toWalletID) (.domain .invalidTransfer)
  let currency ← (normalizeCurrency cmd.currency).mapError .domain
  match db.reservation? cmd.paymentID with
  | some existing =>
    refuseIf (¬ sameReservationPayload existing cmd currency) (.domain .alreadyExists)
    .ok (existing, db)
  | none =>
    let source ← ofOption (.domain .notFound) (db.wallet? cmd.fromWalletID)
    let target ← ofOption (.domain .notFound) (db.wallet? cmd.toWalletID)
    refuseIf (source.currency ≠ target.currency ∨ source.currency ≠ currency)
      (.domain .currencyMismatch)
    match db.insertReservation (newReservation env cmd currency) with
    | .ok db₁ => .ok (newReservation env cmd currency, db₁)
    | .error .uniqueViolation =>
      -- rolled back: the reservation that was in the way is looked up again
      let existing ← ofOption (.sql .noRows) (db.reservation? cmd.paymentID)
      refuseIf (¬ sameReservationPayload existing cmd currency) (.domain .alreadyExists)
      .ok (existing, db)
    | .error e => .error (.sql e)

/-- A reservation that goes through has the command's payload, and is the stored one of
    the payment or a new one. -/
theorem reserveTransfer_ok {db db' : Database U} {cmd : LedgerReserveCommand U}
    {r : LedgerReservation U} (h : db.reserveTransfer env cmd = .ok (r, db')) :
    ∃ currency, normalizeCurrency cmd.currency = .ok currency ∧
      sameReservationPayload r cmd currency ∧
      ((db.reservation? cmd.paymentID = some r ∧ db' = db) ∨
       (db.reservation? cmd.paymentID = none ∧ r = newReservation env cmd currency ∧
        (∀ o ∈ db.reservations, o.id ≠ r.id) ∧
        db' = { db with reservations := db.reservations ++ [r] })) := by
  simp only [reserveTransfer, bind_eq_ok, refuseIf_eq_ok, mapError_eq_ok] at h
  obtain ⟨-, -, -, -, -, -, currency, hcurrency, h⟩ := h
  refine ⟨currency, hcurrency, ?_⟩
  split at h
  · rename_i existing hexisting
    simp only [bind_eq_ok, refuseIf_eq_ok, Decidable.not_not] at h
    obtain ⟨-, hsame, h⟩ := h
    cases h
    exact ⟨hsame, .inl ⟨hexisting, rfl⟩⟩
  · rename_i hnone
    simp only [bind_eq_ok, refuseIf_eq_ok, ofOption_eq_ok] at h
    obtain ⟨source, -, target, -, -, -, h⟩ := h
    split at h
    · rename_i db₁ h₁
      obtain ⟨hfresh, rfl⟩ := insertReservation_ok h₁
      cases h
      exact ⟨⟨rfl, rfl, rfl, rfl, rfl, rfl⟩,
        .inr ⟨hnone, rfl, fun o ho => (hfresh o ho).1, rfl⟩⟩
    · -- without a stored reservation the look-up after the rollback finds nothing
      rw [hnone] at h
      cases h
    · cases h

/-! ## ConfirmTransfer -/

/-- `uuidFromPG`: a NULL reads as the nil UUID. -/
def uuidFromPG (id : Option U) : U :=
  id.getD UuidLib.nil

/-- `ledgerConfirmationFromReservation`. -/
def ledgerConfirmationFromReservation (r : LedgerReservation U) : LedgerConfirmation U :=
  { paymentID := r.paymentID, transferID := uuidFromPG r.transferID, status := r.status,
    completedAt := r.completedAt }

/-- The columns the update of `ConfirmTransfer` sets. -/
def confirmReservation (env : TxEnv U) (transferID walletDebitID : U)
    (r : LedgerReservation U) : LedgerReservation U :=
  { r with status := .confirmed, transferID := some transferID,
           walletDebitID := some walletDebitID, completedAt := env.now, updatedAt := env.now }

/-- The debit and the credit entry of a confirmed transfer, with the balances the two
    wallets have at that moment. -/
def confirmEntry (env : TxEnv U) (id : U) (direction : Direction) (wallet : Wallet U)
    (amount : Int64) : LedgerEntry U :=
  { id := id, walletID := wallet.id, transferID := env.transferID, direction := direction,
    amount := amount, balanceAfter := wallet.balance, createdAt := env.now }

/-- `Database.ConfirmTransfer`. -/
def confirmTransfer (db : Database U) (env : TxEnv U) (cmd : LedgerConfirmCommand U) :
    Except RepoErr (LedgerConfirmation U × Database U) := do
  refuseIf (cmd.paymentID = UuidLib.nil ∨ cmd.ledgerReservationID = UuidLib.nil ∨
    cmd.walletDebitID = UuidLib.nil ∨ cmd.idempotencyKey = "") (.domain .invalidTransfer)
  let r ← ofOption (.domain .notFound) (db.reservation? cmd.paymentID)
  refuseIf (r.id ≠ cmd.ledgerReservationID) (.domain .failedPrecondition)
  match r.status with
  | .confirmed => .ok (ledgerConfirmationFromReservation r, db)
  | .canceled => .error (.domain .failedPrecondition)
  | .reserved =>
    let source ← ofOption (.domain .notFound) (db.wallet? r.fromWalletID)
    let target ← ofOption (.domain .notFound) (db.wallet? r.toWalletID)
    refuseIf (source.currency ≠ target.currency ∨ source.currency ≠ r.currency)
      (.domain .currencyMismatch)
    let transfer := newTransfer env r.fromWalletID r.toWalletID r.amountCents
    let db₁ ← (db.insertTransfer transfer).mapError .sql
    let db₂ ← (db₁.insertLedgerEntry
      (confirmEntry env env.debitEntryID .debit source r.amountCents)).mapError .sql
    let db₃ ← (db₂.insertLedgerEntry
      (confirmEntry env env.creditEntryID .credit target r.amountCents)).mapError .sql
    let change := confirmReservation env transfer.id cmd.walletDebitID
    .ok (ledgerConfirmationFromReservation (change r), db₃.updateReservation r.id change)

/-- A confirm that goes through found the reservation already confirmed, or turned it
    from reserved to confirmed and made the transfer and its two entries. No balance changes. -/
theorem confirmTransfer_ok {db db' : Database U} {cmd : LedgerConfirmCommand U}
    {c : LedgerConfirmation U} (h : db.confirmTransfer env cmd = .ok (c, db')) :
    ∃ r, db.reservation? cmd.paymentID = some r ∧ r.id = cmd.ledgerReservationID ∧
      ((r.status = .confirmed ∧ c = ledgerConfirmationFromReservation r ∧ db' = db) ∨
       (r.status = .reserved ∧
        ∃ source target : Wallet U, db.wallet? r.fromWalletID = some source ∧
          db.wallet? r.toWalletID = some target ∧ 0 < r.amountCents ∧
          r.fromWalletID ≠ r.toWalletID ∧ (∀ t ∈ db.transfers, t.id ≠ env.transferID) ∧
          c = ledgerConfirmationFromReservation
                (confirmReservation env env.transferID cmd.walletDebitID r) ∧
          db' = { db.updateReservation r.id
                    (confirmReservation env env.transferID cmd.walletDebitID) with
                  transfers := db.transfers ++
                    [newTransfer env r.fromWalletID r.toWalletID r.amountCents]
                  ledgerEntries := db.ledgerEntries ++
                    [confirmEntry env env.debitEntryID .debit source r.amountCents] ++
                    [confirmEntry env env.creditEntryID .credit target r.amountCents] })) := by
  simp only [confirmTransfer, bind_eq_ok, refuseIf_eq_ok, ofOption_eq_ok] at h
  obtain ⟨-, -, r, hr, -, hid, h⟩ := h
  refine ⟨r, hr, Decidable.not_not.mp hid, ?_⟩
  split at h
  · rename_i hs
    cases h
    exact .inl ⟨hs, rfl, rfl⟩
  · cases h
  · rename_i hs
    simp only [bind_eq_ok, refuseIf_eq_ok, ofOption_eq_ok, mapError_eq_ok] at h
    obtain ⟨source, hsource, target, htarget, -, -, db₁, h₁, db₂, h₂, db₃, h₃, h⟩ := h
    obtain ⟨hpos, hne, hfresh, rfl⟩ := insertTransfer_ok h₁
    obtain rfl := insertLedgerEntry_ok h₂
    obtain rfl := insertLedgerEntry_ok h₃
    cases h
    exact .inr ⟨hs, source, target, hsource, htarget, hpos, hne, hfresh, rfl, rfl⟩

/-! ## CancelReservation -/

/-- The columns the update of `CancelReservation` sets. -/
def cancelChange (env : TxEnv U) (reason : String) (r : LedgerReservation U) :
    LedgerReservation U :=
  { r with status := .canceled, canceledAt := env.now, cancelReason := reason,
           updatedAt := env.now }

/-- `Database.CancelReservation`. -/
def cancelReservation (db : Database U) (env : TxEnv U) (cmd : LedgerCancelCommand U) :
    Except RepoErr (LedgerReservation U × Database U) := do
  refuseIf (cmd.paymentID = UuidLib.nil ∨ cmd.ledgerReservationID = UuidLib.nil ∨
    cmd.idempotencyKey = "") (.domain .invalidTransfer)
  let r ← ofOption (.domain .notFound) (db.reservation? cmd.paymentID)
  refuseIf (r.id ≠ cmd.ledgerReservationID) (.domain .failedPrecondition)
  match r.status with
  | .canceled => .ok (r, db)
  | .confirmed => .error (.domain .failedPrecondition)
  | .reserved =>
    .ok (cancelChange env cmd.reason r, db.updateReservation r.id (cancelChange env cmd.reason))

/-- A cancellation that goes through found the reservation already canceled, or turned it
    from reserved to canceled. -/
theorem cancelReservation_ok {db db' : Database U} {cmd : LedgerCancelCommand U}
    {o : LedgerReservation U} (h : db.cancelReservation env cmd = .ok (o, db')) :
    ∃ r, db.reservation? cmd.paymentID = some r ∧ r.id = cmd.ledgerReservationID ∧
      ((r.status = .canceled ∧ o = r ∧ db' = db) ∨
       (r.status = .reserved ∧ o = cancelChange env cmd.reason r ∧
        db' = db.updateReservation r.id (cancelChange env cmd.reason))) := by
  simp only [cancelReservation, bind_eq_ok, refuseIf_eq_ok, ofOption_eq_ok] at h
  obtain ⟨-, -, r, hr, -, hid, h⟩ := h
  refine ⟨r, hr, Decidable.not_not.mp hid, ?_⟩
  split at h
  · rename_i hs
    cases h
    exact .inl ⟨hs, rfl, rfl⟩
  · cases h
  · rename_i hs
    cases h
    exact .inr ⟨hs, rfl, rfl⟩

end Database

end EnjoyThings
