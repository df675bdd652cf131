import EnjoyThings.Services.Gateway
import EnjoyThings.Spec.SagaExclusive

/-!
# Whose money a payment spends

The gateway knows the user of a payment, and the wallet service can check the owner
of a wallet. But the orchestrator's wallet client attaches no user to its calls, and
the wallet service checks owners only for users it is told about. So a debit takes
whatever wallet the body of POST /v1/transfers names. `spends_own_iff` says that
payers spend only their own money exactly if no user submits a debit of a wallet
of someone else.
-/

namespace EnjoyThings

open Effect Orchestrator

variable {U : Type} [UuidLib U] {w w' : World U} {s : Saga} {c : Choice U}

/-! ## Owners -/

namespace Database

variable {db db' : Database U} {env : TxEnv U}

/-- The wallets with their owners. -/
def owners (db : Database U) : List (U × U) :=
  db.wallets.map fun wallet => (wallet.id, wallet.userID)

theorem owners_setBalance (id : U) (balance : Int64) (now : Time) :
    (db.setBalance id balance now).owners = db.owners := by
  unfold owners setBalance
  rw [List.map_map]
  refine List.map_congr_left fun wallet _ => ?_
  simp only [Function.comp_apply]
  split <;> rfl

theorem debitForSaga_owners {cmd : SagaDebitCommand U} {op : SagaWalletOperation U}
    (h : db.debitForSaga env cmd = .ok (op, db')) : db'.owners = db.owners := by
  rcases debitForSaga_ok h with ⟨-, rfl⟩ | ⟨-, wallet, -, -, -, -, -, -, rfl⟩
  · rfl
  · exact owners_setBalance _ _ _

theorem compensateDebit_owners {cmd : SagaCompensationCommand U} {op : SagaWalletOperation U}
    (h : db.compensateDebit env cmd = .ok (op, db')) : db'.owners = db.owners := by
  rcases compensateDebit_ok h with ⟨-, rfl⟩ | ⟨-, debit, wallet, -, -, -, -, -, -, rfl⟩
  · rfl
  · exact owners_setBalance _ _ _

/-- A call of the ledger leaves the wallets alone. -/
theorem reserveTransfer_wallets {cmd : LedgerReserveCommand U} {r : LedgerReservation U}
    (h : db.reserveTransfer env cmd = .ok (r, db')) : db'.wallets = db.wallets := by
  obtain ⟨currency, -, -, ⟨-, rfl⟩ | ⟨-, -, -, rfl⟩⟩ := reserveTransfer_ok h <;> rfl

theorem confirmTransfer_wallets {cmd : LedgerConfirmCommand U} {r : LedgerConfirmation U}
    (h : db.confirmTransfer env cmd = .ok (r, db')) : db'.wallets = db.wallets := by
  obtain ⟨r, -, -, ⟨-, -, rfl⟩ | ⟨-, source, target, -, -, -, -, -, -, rfl⟩⟩ :=
    confirmTransfer_ok h <;> rfl

theorem cancelReservation_wallets {cmd : LedgerCancelCommand U} {r : LedgerReservation U}
    (h : db.cancelReservation env cmd = .ok (r, db')) : db'.wallets = db.wallets := by
  obtain ⟨r, -, -, ⟨-, -, rfl⟩ | ⟨-, -, rfl⟩⟩ := cancelReservation_ok h <;> rfl

omit [UuidLib U] in
theorem owners_congr (h : db'.wallets = db.wallets) : db'.owners = db.owners := by
  unfold owners
  rw [h]

/-- A debit operation is an old one, or has the command's payment and wallet. -/
theorem debitForSaga_debits {cmd : SagaDebitCommand U} {op o : SagaWalletOperation U}
    (h : db.debitForSaga env cmd = .ok (op, db')) (ho : o ∈ db'.operations) :
    o ∈ db.operations ∨ o.paymentID = cmd.paymentID ∧ o.walletID = cmd.fromWalletID ∧
      cmd.paymentID ≠ UuidLib.nil ∧ cmd.fromWalletID ≠ UuidLib.nil ∧
      ∃ wallet, db.wallet? cmd.fromWalletID = some wallet := by
  have hargs : ¬ (cmd.paymentID = UuidLib.nil ∨ cmd.fromWalletID = UuidLib.nil ∨
      cmd.idempotencyKey = "") := by
    simp only [debitForSaga, Except.bind_eq_ok, Except.refuseIf_eq_ok] at h
    obtain ⟨-, hargs, -⟩ := h
    exact hargs
  rcases debitForSaga_ok h with ⟨-, rfl⟩ | ⟨-, wallet, hw, -, -, -, -, rfl, rfl⟩
  · exact .inl ho
  · rcases List.mem_concat_iff.mp ho with ho | rfl
    · exact .inl ho
    · exact .inr ⟨rfl, (wallet?_some hw).2, fun he => hargs (.inl he),
        fun he => hargs (.inr (.inl he)), wallet, hw⟩

theorem compensateDebit_debits {cmd : SagaCompensationCommand U} {op o : SagaWalletOperation U}
    (h : db.compensateDebit env cmd = .ok (op, db')) (ho : o ∈ db'.operations)
    (hkind : o.operation = .debit) : o ∈ db.operations := by
  rcases compensateDebit_ok h with ⟨-, rfl⟩ | ⟨-, debit, wallet, -, -, -, -, -, rfl, rfl⟩
  · exact ho
  · rcases List.mem_concat_iff.mp ho with ho | rfl
    · exact ho
    · cases hkind

end Database

/-- No call changes who owns a wallet. -/
theorem run_owners {o : SagaOp} {a : o.Ret} (h : o.run c w = (.ok a, w')) :
    w'.db.owners = w.db.owners := by
  cases run_commits h with
  | outbox h => rw [h, Database.owners, Database.owners]
  | debit h => exact Database.debitForSaga_owners h
  | compensate h => exact Database.compensateDebit_owners h
  | reserve h => exact Database.owners_congr (Database.reserveTransfer_wallets h)
  | confirm h => exact Database.owners_congr (Database.confirmTransfer_wallets h)
  | cancel h => exact Database.owners_congr (Database.cancelReservation_wallets h)

/-- Only a debit call makes debits. -/
theorem run_debits {o : SagaOp} {a : o.Ret} (ho : ∀ req, o ≠ .debitForSaga req)
    (h : o.run c w = (.ok a, w')) {op : SagaWalletOperation U} (hop : op ∈ w'.db.operations)
    (hkind : op.operation = .debit) : op ∈ w.db.operations := by
  cases run_commits h with
  | outbox h => rwa [h] at hop
  | @debit req _ _ _ h => exact absurd rfl (ho req)
  | compensate h => exact Database.compensateDebit_debits h hop hkind
  | reserve h => rwa [Database.reserveTransfer_operations h] at hop
  | confirm h => rwa [Database.confirmTransfer_operations h] at hop
  | cancel h => rwa [Database.cancelReservation_operations h] at hop

theorem FactMove.of_debitForSaga {f : Option Fact} {req : WalletDebitRequest}
    {lesson : Except SagaErr WalletDebitResult → Option Fact}
    (hm : FactMove f (.debitForSaga req) lesson) :
    ∃ s, f = some (.row s) ∧ req = walletDebitRequest s := by
  cases hm with
  | @debit s hs => exact ⟨s, rfl, rfl⟩

/-! ## Where a debit comes from -/

/-- The request names the wallet as its source, and passes what a debit checks before it
    looks at the wallet. -/
structure Debitable (req : StartRequest) (walletID : U) : Prop where
  paymentID : ∃ paymentID : U, parse req.paymentID = some paymentID ∧ paymentID ≠ UuidLib.nil
  fromWalletID : parse req.fromWalletID = some walletID
  wallet_ne_nil : walletID ≠ UuidLib.nil
  currency : ∃ currency, normalizeCurrency req.currency = .ok currency

/-- A copy with the payload of an admitted request. -/
def Admitted (admits : StartRequest → Prop) (s : Saga) : Prop :=
  ∃ req t, admits req ∧ sameStartPayload (startedSaga req t) s

/-- Every debit goes back to an admitted request that named its wallet, and the wallets have
    the owners they had. -/
structure World.Attributed (admits : StartRequest → Prop) (owners : List (U × U))
    (w : World U) : Prop where
  keyed : w.Keyed
  kept : w.db.owners = owners
  rows : ∀ s ∈ w.sagas, Admitted admits s
  debits : ∀ op ∈ w.db.operations, op.operation = .debit →
    ∃ req, admits req ∧ parse req.paymentID = some op.paymentID ∧ Debitable req op.walletID ∧
      ∃ owner, (op.walletID, owner) ∈ owners

variable {admits : StartRequest → Prop} {owners : List (U × U)}

theorem Admitted.congr {s s' : Saga} (h : Admitted admits s) (hs : sameStartPayload s s') :
    Admitted admits s' := by
  obtain ⟨req, t, hreq, hs'⟩ := h
  exact ⟨req, t, hreq, hs'.trans hs⟩

/-- The debits after a debit call for an admitted copy. -/
theorem World.Attributed.debit (hi : w.Attributed admits owners) (hs : Admitted admits s)
    {db : Database U} {env : TxEnv U} {r : WalletDebitResult}
    (h : WalletGRPCClient.debitForSaga w.db env (walletDebitRequest s) = .ok (r, db))
    {op : SagaWalletOperation U} (hop : op ∈ db.operations) (hkind : op.operation = .debit) :
    ∃ req, admits req ∧ parse req.paymentID = some op.paymentID ∧ Debitable req op.walletID ∧
      ∃ owner, (op.walletID, owner) ∈ owners := by
  obtain ⟨paymentID, fromWalletID, currency, _, hpid, hfrom, hcurrency, -, htx⟩ :=
    WalletGRPCClient.debitForSaga_ok h
  rcases Database.debitForSaga_debits htx hop with hop | ⟨hp, hw, hpne, hwne, wallet, hwallet⟩
  · exact hi.debits op hop hkind
  · obtain ⟨req, t, hreq, hpay, -, -, hsource, -, -, hcur⟩ := hs
    have hpay : req.paymentID = s.paymentID := hpay
    have hsource : req.fromWalletID = s.fromWalletID := hsource
    have hcur : req.currency = s.currency := hcur
    refine ⟨req, hreq, ?_, ⟨⟨paymentID, ?_, hpne⟩, ?_, ?_, currency, ?_⟩, wallet.userID, ?_⟩
    · rw [hpay, hp]
      exact hpid
    · rw [hpay]
      exact hpid
    · rw [hsource, hw]
      exact hfrom
    · rw [hw]
      exact hwne
    · rw [hcur]
      exact hcurrency
    · obtain ⟨hmem, hid⟩ := Database.wallet?_some hwallet
      rw [hw, ← hi.kept, ← hid]
      exact List.mem_map.mpr ⟨wallet, hmem, rfl⟩

theorem attributed_interpretation (admits : StartRequest → Prop) (owners : List (U × U)) :
    Interpretation admits (World.Attributed admits owners) fun f _ => Admitted admits f.saga where
  keyed h := h.keyed
  stable h _ := h
  stored hi hs := hi.rows _ hs
  unverified h _ := h
  create {req t id now w} hreq hi hnew :=
    { keyed := ⟨hi.keyed.db, List.nodup_map_append_singleton hi.keyed.sagas hnew⟩
      kept := hi.kept
      rows := by
        intro s hs
        rcases List.mem_concat_iff.mp hs with hs | rfl
        · exact hi.rows s hs
        · exact ⟨req, t, hreq, rfl, rfl, rfl, rfl, rfl, rfl, rfl⟩
      debits := hi.debits }
  move {f o lesson c a w w'} hm hi hf hrun := by
    have hrows : ∀ s ∈ w'.sagas, Admitted admits s := by
      intro s hs
      obtain ⟨r, hr, hsame⟩ := run_rows hm.ne_create hrun hs
      exact (hi.rows r hr).congr hsame
    refine ⟨⟨(run_grows hi.keyed hrun).1, (run_owners hrun).trans hi.kept, hrows, ?_⟩, ?_⟩
    · intro op hop hkind
      by_cases hdebit : ∃ req, o = .debitForSaga req
      · obtain ⟨req, rfl⟩ := hdebit
        obtain ⟨s, rfl, rfl⟩ := hm.of_debitForSaga
        obtain ⟨db, hdb, rfl⟩ := rpc_eq_ok.mp hrun
        exact hi.debit (hf _ rfl) hdb hop hkind
      · exact hi.debits op (run_debits (fun req he => hdebit ⟨req, he⟩) hrun hop hkind) hkind
    · intro g hg
      rcases hm.lesson_saga hrun hg with hs | ⟨g', hg', he⟩
      · exact .inr (hrows _ hs)
      · refine .inr ?_
        rw [he]
        exact hf g' hg'

/-! ## A debit that goes through -/

/-- One wallet that can pay the amount. -/
def Database.withWallet (walletID owner : U) (amount : Int64) : Database U :=
  { wallets := [⟨walletID, owner, amount, defaultCurrency, 0, 0⟩] }

omit [UuidLib U] in
theorem World.idle_withWallet (walletID owner : U) (amount : Int64) :
    World.Idle { db := .withWallet walletID owner amount } where
  keyed := ⟨List.nodup_singleton _, List.nodup_nil, List.nodup_nil, List.nodup_nil, List.nodup_nil⟩
  sagas := rfl
  operations := rfl
  reservations := rfl
  outbox := fun _ h => by cases h

/-- A call that succeeds, for a verified user. -/
def Choice.smooth (U : Type) [UuidLib U] : Choice U :=
  { fault := .none, clock := 0
    env := { sagaID := UuidLib.nil, debitID := UuidLib.nil, compensationID := UuidLib.nil,
             reservationID := UuidLib.nil, transferID := UuidLib.nil,
             debitEntryID := UuidLib.nil, creditEntryID := UuidLib.nil, now := 0 }
    verification := .ok ⟨verificationVerified⟩ }

/-- The debit of a request goes through, whoever owns the wallet. -/
theorem Debitable.debit {req : StartRequest} {walletID : U} (h : Debitable req walletID)
    (hpos : 0 < req.amountCents) (hcur : req.currency ≠ "") (owner : U) (env : TxEnv U)
    {t : Time} (hs : sameStartPayload (startedSaga req t) s) :
    ∃ r db op, WalletGRPCClient.debitForSaga (.withWallet walletID owner req.amountCents) env
        (walletDebitRequest s) = .ok (r, db) ∧
      db.operations = [op] ∧ op.operation = .debit ∧ op.walletID = walletID ∧
      db.owners = [(walletID, owner)] := by
  obtain ⟨hpay, -, -, hsource, -, hamount, hcurrency'⟩ := hs
  obtain ⟨paymentID, hpid, hpne⟩ := h.paymentID
  obtain ⟨currency, hcurrency⟩ := h.currency
  obtain rfl := normalizeCurrency_ok hcurrency
  have hnot : ¬ req.amountCents ≤ 0 := Int64.not_le.mpr hpos
  simp only [startedSaga] at hpay hsource hamount hcurrency'
  simp [WalletGRPCClient.debitForSaga, WalletGrpc.debitForSaga, walletDebitRequest, parseUUID,
    ← hpay, ← hsource, ← hamount, ← hcurrency', hpid, h.fromWalletID, Except.ofOption, hcur, hnot,
    stepKey, WalletGRPCClient.outgoing, WalletGrpc.optionalUserIDFromMetadata, Metadata.get,
    WalletService.debitForSaga, hpne, h.wallet_ne_nil, hcurrency, Except.mapError,
    WalletService.checkOwner, Database.debitForSaga, Database.operation?, Database.withWallet,
    Database.wallet?, Wallet.debit, Database.updateWalletBalance, Database.insertOperation,
    Database.debitOperation, Database.setBalance, Database.owners]

/-- The row after the verification of a started saga. -/
def checkedRow (req : StartRequest) : Saga :=
  let row := World.newRow (text (UuidLib.nil : U)) 0 (startedSaga req 0)
  row.overwrite { row with state := .verificationChecked, updatedAt := 0 } 0

/-- Five calls of `StartPaymentSaga`: the clock, the create, the verification, the clock and
    the update. The sixth is the debit. -/
theorem start_runFor (req : StartRequest) (hpos : 0 < req.amountCents) (db : Database U) :
    (SagaRequest.start req).handler.runFor (sagaMachine U) (List.replicate 6 (.smooth U))
        { db := db } =
      (SagaOp.exec (.smooth U) (.debitForSaga (walletDebitRequest (checkedRow (U := U) req)))
        { sagas := [checkedRow (U := U) req], db := db
          answers := [({ userID := req.userID, traceID := req.traceID },
            ⟨verificationVerified⟩)] }).2 := by
  have hnot : ¬ req.amountCents ≤ 0 := Int64.not_le.mpr hpos
  simp [SagaRequest.handler, startPaymentSaga, List.replicate, Prog.runFor, sagaMachine,
    SagaOp.exec, SagaOp.run, Choice.smooth, World.create, World.conflicts, startedSaga, hnot,
    World.newRow, advance, checkVerification, SagaOp.run.commit, SagaOp.run.answered,
    World.update, World.write, World.afterWrite, World.saga?, debitWallet, Saga.overwrite,
    checkedRow]

/-- The tables after the sixth call, if the debit goes through. -/
theorem start_runFor_db {req : StartRequest} (hpos : 0 < req.amountCents) {db db' : Database U}
    {r : WalletDebitResult}
    (h : WalletGRPCClient.debitForSaga db (Choice.smooth U).env
      (walletDebitRequest (checkedRow (U := U) req)) = .ok (r, db')) :
    ((SagaRequest.start req).handler.runFor (sagaMachine U) (List.replicate 6 (.smooth U))
      { db := db }).db = db' := by
  have hfault : (Choice.smooth U).fault = .none := rfl
  rw [start_runFor req hpos]
  simp only [SagaOp.exec, hfault, SagaOp.run, h, SagaOp.run.rpc]

/-! ## Whole runs -/

omit [UuidLib U] in
theorem start_mem_single {req req' : StartRequest} {cs : List (Choice U)}
    (h : Act.start (.start req') ∈ Act.start (SagaRequest.start req) :: cs.map (.step 0)) :
    req' = req := by
  rcases List.mem_cons.mp h with h | h
  · cases h
    rfl
  · obtain ⟨c, -, hc⟩ := List.mem_map.mp h
    cases hc

/-- Every debit is of a wallet of the user whose submission made the payment. -/
def SpendsOwn (submitted : Submission U → Prop) (acts : List (Act SagaRequest (Choice U)))
    (w : World U) : Prop :=
  ∀ op ∈ w.db.operations, op.operation = .debit →
    ∃ sub req wallet, submitted sub ∧ sub.startRequest? = some req ∧
      .start (.start req) ∈ acts ∧ parse req.paymentID = some op.paymentID ∧
      w.db.wallet? op.walletID = some wallet ∧ wallet.userID = sub.userID

/-- If every debit that is submitted is of the user's own wallet, every debit that is made is. -/
theorem spendsOwn_of_owners {submitted : Submission U → Prop} {owner : U → U}
    (hown : ∀ sub req walletID, submitted sub → sub.startRequest? = some req →
      Debitable req walletID → owner walletID = sub.userID)
    (hw : w.Idle) (howner : ∀ wallet ∈ w.db.wallets, wallet.userID = owner wallet.id)
    {acts : List (Act SagaRequest (Choice U))}
    (hacts : ∀ req, .start (.start req) ∈ acts →
      ∃ sub, submitted sub ∧ sub.startRequest? = some req) :
    SpendsOwn submitted acts (interleave w acts).world := by
  have hinit : w.Attributed (fun req => .start (.start req) ∈ acts) w.db.owners :=
    { keyed := hw.exclusive.keyed
      kept := rfl
      rows := by
        rw [hw.sagas]
        exact fun s hs => by cases hs
      debits := by
        rw [hw.operations]
        exact fun op hop => by cases hop }
  have hi := (attributed_interpretation _ _).interleave_inv hinit fun q hq req hreq => hreq ▸ hq
  intro op hop hkind
  obtain ⟨req, hreq, hpid, hdebitable, u, hu⟩ := hi.debits op hop hkind
  obtain ⟨sub, hsub, hstart⟩ := hacts req hreq
  -- the wallet is still there, with the owner it had
  rw [← hi.kept] at hu
  obtain ⟨wallet, hmem, hwallet⟩ := List.mem_map.mp hu
  obtain ⟨hid, -⟩ := Prod.mk.inj hwallet
  have hinitial : (wallet.id, wallet.userID) ∈ w.db.owners := by
    rw [← hi.kept]
    exact List.mem_map.mpr ⟨wallet, hmem, rfl⟩
  obtain ⟨wallet₀, hmem₀, hwallet₀⟩ := List.mem_map.mp hinitial
  obtain ⟨hid₀, huser₀⟩ := Prod.mk.inj hwallet₀
  refine ⟨sub, req, wallet, hsub, hstart, hreq, hpid, ?_, ?_⟩
  · rw [← hid]
    exact hi.keyed.db.wallet?_of_mem hmem
  · rw [← huser₀, howner wallet₀ hmem₀, hid₀, hid]
    exact hown sub req op.walletID hsub hstart hdebitable

/-- Users spend only their own money, whatever the wallets and however the handlers interleave,
    exactly if every debitable payment that is submitted names a wallet of its user. -/
theorem spends_own_iff (owner : U → U) (submitted : Submission U → Prop) :
    (∀ w : World U, w.Idle → (∀ wallet ∈ w.db.wallets, wallet.userID = owner wallet.id) →
      ∀ acts, (∀ req, .start (.start req) ∈ acts →
          ∃ sub, submitted sub ∧ sub.startRequest? = some req) →
        SpendsOwn submitted acts (interleave w acts).world) ↔
    ∀ sub req walletID, submitted sub → sub.startRequest? = some req →
      Debitable req walletID → owner walletID = sub.userID := by
  constructor
  · intro hall sub req walletID hsub hstart hdebitable
    obtain ⟨huser, hpos, hcur⟩ := Submission.startRequest?_some hstart
    have hwallets : ∀ wallet ∈
        (Database.withWallet walletID (owner walletID) req.amountCents).wallets,
        wallet.userID = owner wallet.id := by
      intro wallet hmem
      rw [List.mem_singleton.mp hmem]
    -- the run in which nothing happens but the payment, up to the debit
    have hspends :=
      hall _ (World.idle_withWallet walletID (owner walletID) req.amountCents) hwallets
      (.start (.start req) :: (List.replicate 6 (.smooth U)).map (.step 0)) ?_
    · rw [interleave_single] at hspends
      obtain ⟨r, db, op, hdebit, hops, hkind, hwid, howners⟩ :=
        hdebitable.debit hpos hcur (owner walletID) (Choice.smooth U).env
          (s := checkedRow (U := U) req) (t := 0) ⟨rfl, rfl, rfl, rfl, rfl, rfl, rfl⟩
      have hdb := start_runFor_db hpos hdebit
      obtain ⟨sub', req', wallet, -, hstart', hmem, -, hwallet, hown⟩ :=
        hspends op (by rw [hdb, hops]; exact List.mem_singleton_self op) hkind
      -- the only submission of the run is this one, and the only wallet has its owner
      obtain rfl := start_mem_single hmem
      have hsame : sub'.userID = sub.userID :=
        text_injective ((Submission.startRequest?_some hstart').1.symm.trans huser)
      have howner : (wallet.id, wallet.userID) ∈ [(walletID, owner walletID)] := by
        rw [← howners, ← hdb]
        exact List.mem_map.mpr ⟨wallet, (Database.wallet?_some hwallet).1, rfl⟩
      rw [← hsame, ← hown, (Prod.mk.inj (List.mem_singleton.mp howner)).2]
    · intro req' hmem
      rw [start_mem_single hmem]
      exact ⟨sub, hsub, hstart⟩
  · intro hown w hw howner acts hacts
    exact spendsOwn_of_owners hown hw howner hacts

namespace Sample

/-- The payee asks for a payment from the payer's wallet. -/
def theft : Submission CanonicalUuid :=
  { userID := payee, newPaymentID := id 6, newTraceID := id 7
    request :=
      { body := .sent (some "application/json") (some
          { paymentID := text paymentID, fromWallet := text payerWallet,
            toWallet := text payeeWallet, amountCents := 300, currency := "USD" })
        idempotencyKey := "", traceID := "trace-1" } }

def theftRequest : StartRequest :=
  { startRequest with userID := text payee, idempotencyKey := text paymentID }

end Sample

/-- The payee's submission debits the payer's wallet. -/
theorem payee_spends_payers_money :
    Sample.theft.startRequest? = some Sample.theftRequest ∧
      (∃ op ∈ (interleave Sample.world (.start (.start Sample.theftRequest) ::
          Sample.steps 0 0 6)).world.db.operations,
        op.operation = .debit ∧ op.paymentID = Sample.paymentID ∧
          op.walletID = Sample.payerWallet ∧ op.amountCents = 300) ∧
      (Sample.world.db.wallet? Sample.payerWallet).map (·.userID) = some Sample.payer ∧
      Sample.theft.userID ≠ Sample.payer := by
  decide +kernel

end EnjoyThings
