import EnjoyThings.Spec.Reconcile
import EnjoyThings.Spec.SagaAgreement

/-!
# Commands that are refused for good

A wallet or ledger command of `advance` can be refused for a reason that no retry
changes: there is not enough money, a wallet does not exist, the two wallets are one,
the currency is wrong, or the payment is reserved with another payload. `advance`
hands every such error to its caller and leaves the saga in the state it was in, so
the saga is neither failed nor compensated, whichever of its two callers ran it
(`refused_saga_stays`).
-/

namespace EnjoyThings

open Effect Orchestrator

variable {U : Type} [UuidLib U] {w w' : World U} {s : Saga} {o : SagaOp}

/-! ## The reasons -/

/-- The next command of a saga is one that the wallet or the ledger refuses for good. -/
inductive Rejected (db : Database U) (s : Saga) : SagaOp → Prop
  | debitCurrency (hstate : s.state = .verificationChecked) {e : DomainErr}
      (h : normalizeCurrency s.currency = .error e) :
    Rejected db s (.debitForSaga (walletDebitRequest s))
  | debitWallet (hstate : s.state = .verificationChecked) {paymentID walletID : U}
      (hpayment : parse s.paymentID = some paymentID)
      (hnew : db.operation? paymentID .debit = none)
      (hwallet : parse s.fromWalletID = some walletID)
      -- unknown, of another currency, or without the money
      (h : ∀ wallet ∈ db.wallet? walletID,
        normalizeCurrency s.currency ≠ .ok wallet.currency ∨ wallet.balance < s.amountCents) :
    Rejected db s (.debitForSaga (walletDebitRequest s))
  | reserveSameWallet (hstate : s.state = .walletDebited) {walletID : U}
      (hsource : parse s.fromWalletID = some walletID)
      (htarget : parse s.toWalletID = some walletID) :
    Rejected db s (.reserveTransfer (ledgerReserveRequest s))
  | reserveCurrency (hstate : s.state = .walletDebited) {e : DomainErr}
      (h : normalizeCurrency s.currency = .error e) :
    Rejected db s (.reserveTransfer (ledgerReserveRequest s))
  | reserveConflict (hstate : s.state = .walletDebited) {paymentID : U}
      {r : LedgerReservation U} (hpayment : parse s.paymentID = some paymentID)
      (hstored : db.reservation? paymentID = some r)
      (h : ∀ sourceID targetID, parse s.fromWalletID = some sourceID →
        parse s.toWalletID = some targetID → ¬ (r.fromWalletID = sourceID ∧
          r.toWalletID = targetID ∧ r.amountCents = s.amountCents ∧
          normalizeCurrency s.currency = .ok r.currency)) :
    Rejected db s (.reserveTransfer (ledgerReserveRequest s))
  | reserveWallets (hstate : s.state = .walletDebited) {paymentID sourceID targetID : U}
      (hpayment : parse s.paymentID = some paymentID) (hnew : db.reservation? paymentID = none)
      (hsource : parse s.fromWalletID = some sourceID)
      (htarget : parse s.toWalletID = some targetID)
      -- one of the two is unknown, or the currencies differ
      (h : ∀ source ∈ db.wallet? sourceID, ∀ target ∈ db.wallet? targetID,
        source.currency ≠ target.currency ∨ normalizeCurrency s.currency ≠ .ok source.currency) :
    Rejected db s (.reserveTransfer (ledgerReserveRequest s))

theorem Rejected.state {db : Database U} (h : Rejected db s o) : s.state ≠ .failed := by
  cases h with
  | debitCurrency hs _ | debitWallet hs _ _ _ _ | reserveSameWallet hs _ _ | reserveCurrency hs _
  | reserveConflict hs _ _ _ | reserveWallets hs _ _ _ _ _ =>
    rw [hs]
    simp

/-- A refused debit does not go through. -/
theorem Rejected.debit_ne_ok {db db' : Database U}
    (h : Rejected db s (.debitForSaga (walletDebitRequest s))) {env : TxEnv U}
    {r : WalletDebitResult} :
    WalletGRPCClient.debitForSaga db env (walletDebitRequest s) ≠ .ok (r, db') := by
  intro hok
  obtain ⟨paymentID', walletID', currency, op, hpid, hfrom, hcurrency, -, htx⟩ :=
    WalletGRPCClient.debitForSaga_ok hok
  have hcurrency : normalizeCurrency s.currency = .ok currency := hcurrency
  cases h with
  | debitCurrency _ h =>
    rw [h] at hcurrency
    cases hcurrency
  | debitWallet _ hpayment hnew hwallet h =>
    cases hpayment.symm.trans hpid
    cases hwallet.symm.trans hfrom
    rcases Database.debitForSaga_ok htx with ⟨hstored, -⟩ | ⟨-, wallet, hw, hcur, -, hfunds, -⟩
    · rw [hnew] at hstored
      cases hstored
    · rcases h wallet hw with hne | hlow
      · exact hne (hcurrency.trans (congrArg _ hcur.symm))
      · exact absurd hfunds (Int64.not_le.mpr hlow)

/-- A refused reservation does not go through. -/
theorem Rejected.reserve_ne_ok {db db' : Database U}
    (h : Rejected db s (.reserveTransfer (ledgerReserveRequest s))) {env : TxEnv U}
    {r : LedgerReserveResult} :
    LedgerGRPCClient.reserveTransfer db env (ledgerReserveRequest s) ≠ .ok (r, db') := by
  intro hok
  obtain ⟨paymentID', sourceID', targetID', o, hpid, hfrom, hto, -, htx⟩ :=
    LedgerGRPCClient.reserveTransfer_ok hok
  have hto : parse s.toWalletID = some targetID' := hto
  obtain ⟨currency, hcurrency, ⟨-, -, hsource', htarget', hamount, hcur⟩, hcase⟩ :=
    Database.reserveTransfer_ok htx
  have hcurrency : normalizeCurrency s.currency = .ok currency := hcurrency
  cases h with
  | reserveSameWallet _ hsource htarget =>
    cases hsource.symm.trans hfrom
    cases htarget.symm.trans hto
    simp only [Database.reserveTransfer, Except.bind_eq_ok, Except.refuseIf_eq_ok] at htx
    obtain ⟨-, -, -, -, -, hne, -⟩ := htx
    exact hne trivial
  | reserveCurrency _ h =>
    rw [h] at hcurrency
    cases hcurrency
  | reserveConflict _ hpayment hstored h =>
    cases hpayment.symm.trans hpid
    rcases hcase with ⟨hfound, -⟩ | ⟨hnone, -⟩
    · cases hstored.symm.trans hfound
      exact h sourceID' targetID' hfrom hto
        ⟨hsource', htarget', hamount, hcurrency.trans (congrArg _ hcur.symm)⟩
    · rw [hstored] at hnone
      cases hnone
  | reserveWallets _ hpayment hnew hsource htarget h =>
    cases hpayment.symm.trans hpid
    cases hsource.symm.trans hfrom
    cases htarget.symm.trans hto
    obtain ⟨source, target, hs, ht, hsame, hcur'⟩ :=
      (Database.reserveTransfer_fits htx hnew).wallets
    rw [hsource'] at hs
    rw [htarget'] at ht
    rcases h source hs target ht with hne | hne
    · exact hne hsame
    · exact hne (hcurrency.trans (congrArg _ (hcur.symm.trans hcur'.symm)))

/-- A refused command reports an error and changes nothing, whatever else happens to the call. -/
theorem Rejected.exec (h : Rejected w.db s o) (c : Choice U) :
    ∃ e, o.exec c w = (.error e, w) := by
  have hnot : ∀ a v, o.run c w ≠ (.ok a, v) := by
    intro a v hrun
    cases h with
    | debitCurrency hs h =>
      obtain ⟨db, hdb, -⟩ := rpc_eq_ok.mp hrun
      exact (Rejected.debitCurrency hs h).debit_ne_ok hdb
    | debitWallet hs hp hn hw h =>
      obtain ⟨db, hdb, -⟩ := rpc_eq_ok.mp hrun
      exact (Rejected.debitWallet hs hp hn hw h).debit_ne_ok hdb
    | reserveSameWallet hs hf ht =>
      obtain ⟨db, hdb, -⟩ := rpc_eq_ok.mp hrun
      exact (Rejected.reserveSameWallet hs hf ht : Rejected w.db s _).reserve_ne_ok hdb
    | reserveCurrency hs h =>
      obtain ⟨db, hdb, -⟩ := rpc_eq_ok.mp hrun
      exact (Rejected.reserveCurrency hs h : Rejected w.db s _).reserve_ne_ok hdb
    | reserveConflict hs hp hr h =>
      obtain ⟨db, hdb, -⟩ := rpc_eq_ok.mp hrun
      exact (Rejected.reserveConflict hs hp hr h).reserve_ne_ok hdb
    | reserveWallets hs hp hn hf ht h =>
      obtain ⟨db, hdb, -⟩ := rpc_eq_ok.mp hrun
      exact (Rejected.reserveWallets hs hp hn hf ht h).reserve_ne_ok hdb
  rcases exec_outcome c o w with he | ⟨a, v, hrun, -⟩
  · exact he
  · exact absurd hrun (hnot a v)

/-! ## What the callers of `advance` do with an error -/

/-- The commands of `advance`. -/
def IsCommand : SagaOp → Prop
  | .debitForSaga _ | .reserveTransfer _ => True
  | _ => False

theorem Rejected.isCommand {db : Database U} (h : Rejected db s o) : IsCommand o := by
  cases h <;> trivial

section FailsOn

open Prog (FailsOn)

theorem checkVerification_failsOn (s : Saga) : (checkVerification s).FailsOn IsCommand := by
  unfold checkVerification
  split
  · refine FailsOn.bind (FailsOn.attempt_perform id) fun r => ?_
    have hfail : (failUnverified s).FailsOn IsCommand :=
      .bind (.perform _) fun _ => .bind (.perform _) fun _ => trivial
    cases r with
    | error e =>
      cases e with
      | verificationNotFound => exact hfail
      | _ => trivial
    | ok v =>
      dsimp only
      split
      · exact hfail
      · exact .bind (.perform _) fun _ => .perform _
  · trivial

theorem advance_failsOn (s : Saga) : (advance s).FailsOn IsCommand := by
  have hstage : ∀ (c : Prop) [Decidable c] (p : SagaProg Saga) (s : Saga), p.FailsOn IsCommand →
      (if c then p else pure s).FailsOn IsCommand := by
    intro c _ p s hp
    split
    · exact hp
    · trivial
  refine .bind (checkVerification_failsOn s) fun s => .bind ?_ fun s => .bind ?_ fun s => ?_
  · exact hstage _ _ s (.bind (.perform _) fun _ => .bind (.perform _) fun _ => .perform _)
  · exact hstage _ _ s (.bind (.perform _) fun _ => .bind (.perform _) fun _ => .perform _)
  · exact hstage _ _ s (.bind (.perform _) fun _ => .perform _)

theorem compensateWallet_failsOn (s : Saga) : (compensateWallet s).FailsOn IsCommand :=
  .bind (.perform _) fun _ => .bind (.perform _) fun _ => .bind (.perform _) fun _ =>
    .bind (.perform _) fun _ => .bind (.perform _) fun _ => .perform _

theorem resumeOne_failsOn (s : Saga) : (resumeOne s).FailsOn IsCommand := by
  unfold resumeOne
  split
  · exact .bind (.perform _) fun _ => .bind (.bind (.perform _) fun _ => .perform _) fun _ =>
      .bind (.perform _) fun _ => .bind (.perform _) fun _ => trivial
  · exact .bind (.perform _) fun _ => .bind (.perform _) fun _ => .bind (.perform _) fun s =>
      compensateWallet_failsOn s
  · exact compensateWallet_failsOn s
  · trivial
  · exact .bind (advance_failsOn s) fun _ => trivial

theorem resumeEach_failsOn (sagas : List Saga) : (resumeEach sagas).FailsOn IsCommand := by
  induction sagas with
  | nil => trivial
  | cons s rest ih => exact .bind (resumeOne_failsOn s) fun _ => ih

/-- Both callers of `advance` end with the error of a command. -/
theorem handler_failsOn {q : SagaRequest} (hq : (∃ req, q = .start req) ∨ q = .resumeNonTerminal) :
    q.handler.FailsOn IsCommand := by
  rcases hq with ⟨req, rfl⟩ | rfl
  · refine .bind (.bind (.perform _) fun _ => .bind (.perform _) fun created => ?_) fun _ => trivial
    split
    · trivial
    · exact advance_failsOn created
  · exact .bind (.perform _) fun sagas => resumeEach_failsOn sagas

end FailsOn

/-! ## Whole runs -/

/-- The saga has failed, and every debit of the payment is given back. -/
def World.FailedWhole (w : World U) (paymentID : String) : Prop :=
  (∃ row, w.saga? paymentID = some row ∧ row.state = .failed) ∧
    ∀ debit ∈ w.db.operations, debit.operation = .debit →
      parse paymentID = some debit.paymentID →
      ∃ op ∈ w.db.operations, op.operation = .compensation ∧ GivesBack op debit

/-- The next call of `advance` is the command of the saga's state. -/
theorem Rejected.advance_eq {db : Database U} (h : Rejected db s o) :
    ∃ k, advance s = .call o k := by
  cases h with
  | debitCurrency hs _ | debitWallet hs _ _ _ _ =>
    exact ⟨_, by simp [advance, checkVerification, Orchestrator.debitWallet, hs]; rfl⟩
  | reserveSameWallet hs _ _ | reserveCurrency hs _ | reserveConflict hs _ _ _
  | reserveWallets hs _ _ _ _ _ =>
    exact ⟨_, by
      simp [advance, checkVerification, Orchestrator.debitWallet, reserveLedger, hs]; rfl⟩

/-- A program that ends with the error of a refused command leaves the world it made it in. -/
theorem Rejected.eval_eq {α : Type} {p : SagaProg α} (hp : p.FailsOn IsCommand)
    (h : Rejected w'.db s o) {cs : Nat → Choice U} {n : Nat}
    {k : Except SagaErr o.Ret → SagaProg α}
    (hnext : p.residual (sagaMachine U) ((List.range n).map cs) w = (.call o k, w')) :
    (p.eval (sagaMachine U) cs w).2 = w' := by
  obtain ⟨e, he⟩ := h.exec (cs n)
  have herror : ((sagaMachine U).exec (cs n) o w').1 = .error e := congrArg Prod.fst he
  rw [hp.eval_eq hnext h.isCommand herror]
  exact congrArg Prod.snd he

theorem Rejected.not_failedWhole (h : Rejected w.db s o) (hrow : w.saga? s.paymentID = some s) :
    ¬ w.FailedWhole s.paymentID := by
  rintro ⟨⟨row, hrow', hfailed⟩, -⟩
  cases hrow.symm.trans hrow'
  exact h.state hfailed

/-- If the next command of a stored saga is refused for good, `advance` ends without failing the
    saga. So does every start or restart that comes to the command, wherever it began. -/
theorem refused_saga_stays (hrow : w.saga? s.paymentID = some s) (hrefused : Rejected w.db s o)
    (cs : Nat → Choice U) :
    ¬ ((advance s).eval (sagaMachine U) cs w).2.FailedWhole s.paymentID ∧
    ∀ (q : SagaRequest), ((∃ req, q = .start req) ∨ q = .resumeNonTerminal) →
      ∀ w₀ n k, q.handler.residual (sagaMachine U) ((List.range n).map cs) w₀ = (.call o k, w) →
        ¬ (q.handler.eval (sagaMachine U) cs w₀).2.FailedWhole s.paymentID := by
  refine ⟨?_, fun q hq w₀ n k hnext => ?_⟩
  · obtain ⟨k, hk⟩ := hrefused.advance_eq
    have hnext :
        (advance s).residual (sagaMachine U) ((List.range 0).map cs) w = (.call o k, w) := by
      rw [hk]
      rfl
    rw [hrefused.eval_eq (advance_failsOn s) hnext]
    exact hrefused.not_failedWhole hrow
  · rw [hrefused.eval_eq (handler_failsOn hq) hnext]
    exact hrefused.not_failedWhole hrow

namespace Sample

/-- A payment of more money than the payer has. -/
def overdraft : StartRequest := { startRequest with amountCents := 5000 }

/-- The world in which the payment is verified, and its debit is due. -/
def overdraftWorld : World CanonicalUuid :=
  (SagaRequest.start overdraft).handler.runFor (sagaMachine CanonicalUuid) (choices 0 5) world

/-- The row in that world. -/
def overdraftSaga : Saga :=
  (overdraftWorld.saga? (text paymentID)).getD (startedSaga overdraft 0)

theorem overdraft_stored : overdraftWorld.saga? overdraftSaga.paymentID = some overdraftSaga := by
  decide +kernel

theorem overdraft_rejected : Rejected overdraftWorld.db overdraftSaga
    (.debitForSaga (walletDebitRequest overdraftSaga)) := by
  refine .debitWallet (by decide +kernel) (by decide +kernel : parse overdraftSaga.paymentID =
    some paymentID) (by decide +kernel) (by decide +kernel : parse overdraftSaga.fromWalletID =
    some payerWallet) ?_
  decide +kernel

end Sample

theorem refused_saga_stays_overdraft :
    Sample.overdraftWorld.saga? Sample.overdraftSaga.paymentID = some Sample.overdraftSaga ∧
      ¬ ((advance Sample.overdraftSaga).eval (sagaMachine CanonicalUuid) Sample.choice
        Sample.overdraftWorld).2.FailedWhole Sample.overdraftSaga.paymentID :=
  ⟨Sample.overdraft_stored,
    (refused_saga_stays Sample.overdraft_stored Sample.overdraft_rejected Sample.choice).1⟩

/-- The start of the payment reports the insufficient funds, and the saga stays where it was. -/
theorem overdraft_not_failed :
    ((SagaRequest.start Sample.overdraft).handler.eval (sagaMachine CanonicalUuid) Sample.choice
      Sample.world).1 = .error (.rpc ⟨.failedPrecondition, "insufficient funds"⟩) ∧
    (((SagaRequest.start Sample.overdraft).handler.eval (sagaMachine CanonicalUuid) Sample.choice
      Sample.world).2.saga? (text Sample.paymentID)).map (·.state) = some .verificationChecked := by
  decide +kernel

end EnjoyThings
