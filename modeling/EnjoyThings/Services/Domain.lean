import EnjoyThings.Services.GoStd

/-!
# Business types

`internal/domain`: wallets with `Debit` and `Credit`, the currency rule, and the
commands and records of the saga's wallet operations and ledger reservations.
Amounts and balances are `int64`, so they are `Int64` here and wrap around as
they do in Go.
-/

namespace EnjoyThings

/-- `domain/errors.go`. -/
inductive DomainErr
  | currencyMismatch
  | debitNotFound
  | insufficientFunds
  | invalidAmount
  | invalidTransfer
  | notFound
  | unsupportedCurrency
  | alreadyExists
  | failedPrecondition
  deriving DecidableEq, Repr

def defaultCurrency : String := "USD"

/-- `domain.NormalizeCurrency`. -/
def normalizeCurrency (currency : String) : Except DomainErr String :=
  let upper := Go.toUpper (Go.trimSpace currency)
  let normalized := if upper = "" then defaultCurrency else upper
  if normalized ≠ defaultCurrency then .error .unsupportedCurrency else .ok normalized

/-- The only currency that comes out of normalization. -/
theorem normalizeCurrency_ok {currency normalized : String}
    (h : normalizeCurrency currency = .ok normalized) : normalized = defaultCurrency := by
  simp only [normalizeCurrency] at h
  generalize (if Go.toUpper (Go.trimSpace currency) = "" then defaultCurrency
    else Go.toUpper (Go.trimSpace currency)) = upper at h
  by_cases hu : upper = defaultCurrency
  · rw [if_neg (not_not_intro hu)] at h
    rw [← Except.ok.inj h, hu]
  · rw [if_pos hu] at h
    cases h

/-- Normalizing the normalized currency changes nothing. -/
@[simp] theorem normalizeCurrency_defaultCurrency :
    normalizeCurrency defaultCurrency = .ok defaultCurrency := by decide

structure Wallet (U : Type) where
  id : U
  userID : U
  balance : Int64
  currency : String
  createdAt : Time
  updatedAt : Time
  deriving DecidableEq

/-- `Wallet.Debit`. -/
def Wallet.debit {U : Type} (wallet : Wallet U) (amount : Int64) : Except DomainErr (Wallet U) :=
  if amount ≤ 0 then .error .invalidAmount
  else if wallet.balance < amount then .error .insufficientFunds
  else .ok { wallet with balance := wallet.balance - amount }

/-- `Wallet.Credit`. -/
def Wallet.credit {U : Type} (wallet : Wallet U) (amount : Int64) : Except DomainErr (Wallet U) :=
  if amount ≤ 0 then .error .invalidAmount
  else .ok { wallet with balance := wallet.balance + amount }

theorem Wallet.debit_ok {U : Type} {wallet debited : Wallet U} {amount : Int64}
    (h : wallet.debit amount = .ok debited) :
    0 < amount ∧ amount ≤ wallet.balance ∧
      debited = { wallet with balance := wallet.balance - amount } := by
  simp only [Wallet.debit] at h
  split at h
  · cases h
  · split at h
    · cases h
    · rename_i h₁ h₂
      exact ⟨Int64.not_le.mp h₁, Int64.not_lt.mp h₂, (Except.ok.inj h).symm⟩

theorem Wallet.credit_ok {U : Type} {wallet credited : Wallet U} {amount : Int64}
    (h : wallet.credit amount = .ok credited) :
    0 < amount ∧ credited = { wallet with balance := wallet.balance + amount } := by
  simp only [Wallet.credit] at h
  split at h
  · cases h
  · rename_i h₁
    exact ⟨Int64.not_le.mp h₁, (Except.ok.inj h).symm⟩

structure Transfer (U : Type) where
  id : U
  fromWalletID : U
  toWalletID : U
  amount : Int64
  status : String
  createdAt : Time
  deriving DecidableEq

inductive Direction
  | debit
  | credit
  deriving DecidableEq, Repr

structure LedgerEntry (U : Type) where
  id : U
  walletID : U
  transferID : U
  direction : Direction
  amount : Int64
  balanceAfter : Int64
  createdAt : Time
  deriving DecidableEq

/-- `LedgerReservationReserved` and its siblings. -/
inductive ReservationStatus
  | reserved
  | confirmed
  | canceled
  deriving DecidableEq, Repr

structure LedgerReserveCommand (U : Type) where
  paymentID : U
  idempotencyKey : String
  traceID : String
  fromWalletID : U
  toWalletID : U
  amountCents : Int64
  currency : String

structure LedgerConfirmCommand (U : Type) where
  paymentID : U
  idempotencyKey : String
  traceID : String
  ledgerReservationID : U
  walletDebitID : U

structure LedgerCancelCommand (U : Type) where
  paymentID : U
  idempotencyKey : String
  traceID : String
  ledgerReservationID : U
  reason : String

/-- A row of `ledger_transfer_reservations`; `none` and the zero time are its NULLs. -/
structure LedgerReservation (U : Type) where
  id : U
  paymentID : U
  idempotencyKey : String
  traceID : String
  fromWalletID : U
  toWalletID : U
  amountCents : Int64
  currency : String
  status : ReservationStatus
  transferID : Option U
  walletDebitID : Option U
  completedAt : Time
  canceledAt : Time
  cancelReason : String
  createdAt : Time
  updatedAt : Time
  deriving DecidableEq

structure LedgerConfirmation (U : Type) where
  paymentID : U
  transferID : U
  status : ReservationStatus
  completedAt : Time

/-- `SagaWalletOperationDebit` and `SagaWalletOperationCompensation`. -/
inductive OperationKind
  | debit
  | compensation
  deriving DecidableEq, Repr

/-- The only status the table admits. -/
inductive OperationStatus
  | completed
  deriving DecidableEq, Repr

structure SagaDebitCommand (U : Type) where
  paymentID : U
  fromWalletID : U
  amountCents : Int64
  currency : String
  idempotencyKey : String

structure SagaCompensationCommand (U : Type) where
  paymentID : U
  fromWalletID : U
  walletDebitID : U
  amountCents : Int64
  currency : String
  idempotencyKey : String
  reason : String

/-- A row of `saga_wallet_operations`. -/
structure SagaWalletOperation (U : Type) where
  id : U
  paymentID : U
  operation : OperationKind
  idempotencyKey : String
  walletID : U
  amountCents : Int64
  currency : String
  status : OperationStatus
  balanceAfterCents : Int64
  createdAt : Time
  updatedAt : Time
  deriving DecidableEq

end EnjoyThings
