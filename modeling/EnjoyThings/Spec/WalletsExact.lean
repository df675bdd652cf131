import EnjoyThings.Spec.Reconcile
import EnjoyThings.Spec.WalletsSerial

/-!
# Wallet operations happen once and balances are exact

Any number of CreateTransfer, DebitForSaga and CompensateDebit calls, with any amounts and in
any interleaving of their statements. Since their runs are serial, it is enough to look at one
atomic call at a time: it adds rows, and changes the balances by exactly the amounts of those
rows. The amounts are checked against the balance before a debit, and the column check turns
a sum that wraps around into a failed transaction.

## Key results

- `WalletCall.Step.accounted`: one call
- `wallet_operations_exact`: every run
- `debit_reply_describes`: the debit a reply is about
-/

namespace EnjoyThings

open Effect

/-- The calls that move money between wallets. -/
def WalletCall.MovesMoney {U : Type} : WalletCall U → Prop
  | .createTransfer _ _ _ _ | .debitForSaga _ | .compensateDebit _ => True
  | _ => False

namespace Database

variable {U : Type} [UuidLib U] {db db' : Database U}

/-- The amounts of the operations of one kind on a wallet. -/
def operated (db : Database U) (kind : OperationKind) (walletID : U) : Int :=
  db.operations.sumIf (fun op => op.operation = kind ∧ op.walletID = walletID)
    (·.amountCents.toInt)

/-- The balance a wallet had before all rows of the tables. -/
def opening (db : Database U) (walletID : U) : Int :=
  db.balance walletID + db.operated .debit walletID - db.operated .compensation walletID +
    db.sent walletID - db.received walletID

/-- Tables as these calls leave them: every compensation gives back the debit of its payment,
    and no balance is negative. -/
structure Accounted (db : Database U) : Prop where
  keyed : db.Keyed
  nonneg : ∀ wallet ∈ db.wallets, 0 ≤ wallet.balance
  paired : ∀ op ∈ db.operations, op.operation = .compensation →
    ∃ debit ∈ db.operations, debit.operation = .debit ∧ debit.paymentID = op.paymentID ∧
      debit.walletID = op.walletID ∧ debit.amountCents = op.amountCents ∧
      debit.currency = op.currency

/-- The same wallets, with balances that the rows account for. -/
structure SameOpening (db db' : Database U) : Prop where
  ids : db'.wallets.map (·.id) = db.wallets.map (·.id)
  opening : ∀ walletID, db'.opening walletID = db.opening walletID

theorem SameOpening.refl (db : Database U) : db.SameOpening db :=
  ⟨rfl, fun _ => rfl⟩

theorem SameOpening.trans {db₁ db₂ db₃ : Database U} (h : db₁.SameOpening db₂)
    (h' : db₂.SameOpening db₃) : db₁.SameOpening db₃ :=
  ⟨h'.ids.trans h.ids, fun id => (h'.opening id).trans (h.opening id)⟩

/-! ## One call -/

theorem setBalance_ids (id : U) (balance : Int64) (now : Time) :
    (db.setBalance id balance now).wallets.map (·.id) = db.wallets.map (·.id) := by
  apply List.map_map_key
  intro wallet
  split <;> rfl

theorem setBalance_nonneg (h : ∀ wallet ∈ db.wallets, 0 ≤ wallet.balance) {balance : Int64}
    (hb : 0 ≤ balance) (id : U) (now : Time) :
    ∀ wallet ∈ (db.setBalance id balance now).wallets, 0 ≤ wallet.balance := by
  intro wallet hmem
  obtain ⟨old, hold, rfl⟩ := List.mem_map.mp hmem
  split
  · exact hb
  · exact h old hold

omit [UuidLib U] in
/-- Operations that are paired stay so when a row is added that is paired itself. -/
theorem paired_append {op : SagaWalletOperation U} (h : ∀ o ∈ db.operations,
      o.operation = .compensation → ∃ debit ∈ db.operations, debit.operation = .debit ∧
        debit.paymentID = o.paymentID ∧ debit.walletID = o.walletID ∧
        debit.amountCents = o.amountCents ∧ debit.currency = o.currency)
    (hop : op.operation = .compensation → ∃ debit ∈ db.operations, debit.operation = .debit ∧
        debit.paymentID = op.paymentID ∧ debit.walletID = op.walletID ∧
        debit.amountCents = op.amountCents ∧ debit.currency = op.currency) :
    ∀ o ∈ db.operations ++ [op], o.operation = .compensation →
      ∃ debit ∈ db.operations ++ [op], debit.operation = .debit ∧
        debit.paymentID = o.paymentID ∧ debit.walletID = o.walletID ∧
        debit.amountCents = o.amountCents ∧ debit.currency = o.currency := by
  have hboth : ∀ o ∈ db.operations ++ [op], o.operation = .compensation →
      ∃ debit ∈ db.operations, debit.operation = .debit ∧
        debit.paymentID = o.paymentID ∧ debit.walletID = o.walletID ∧
        debit.amountCents = o.amountCents ∧ debit.currency = o.currency := by
    intro o ho
    rcases List.mem_concat_iff.mp ho with ho | rfl
    · exact h o ho
    · exact hop
  intro o ho hkind
  obtain ⟨debit, hmem, hdebit⟩ := hboth o ho hkind
  exact ⟨debit, List.mem_append_left _ hmem, hdebit⟩

/-- A debit or a compensation: one new row, and its amount on one wallet. -/
theorem Accounted.operation (h : db.Accounted) {wallet : Wallet U} {op : SagaWalletOperation U}
    {balance : Int64} {now : Time} (hw : db.wallet? wallet.id = some wallet) (hb : 0 ≤ balance)
    (hnew : db.operation? op.paymentID op.operation = none) (hwallet : op.walletID = wallet.id)
    (hexact : balance.toInt = wallet.balance.toInt +
      if op.operation = .debit then - op.amountCents.toInt else op.amountCents.toInt)
    (hpaired : op.operation = .compensation → ∃ debit ∈ db.operations,
      debit.operation = .debit ∧ debit.paymentID = op.paymentID ∧
        debit.walletID = op.walletID ∧ debit.amountCents = op.amountCents ∧
        debit.currency = op.currency) :
    Accounted { db.setBalance wallet.id balance now with operations := db.operations ++ [op] } ∧
      db.SameOpening
        { db.setBalance wallet.id balance now with operations := db.operations ++ [op] } := by
  refine ⟨⟨(h.keyed.setBalance _ _ _).append_operation hnew,
    setBalance_nonneg h.nonneg hb wallet.id now, paired_append h.paired hpaired⟩,
    setBalance_ids wallet.id balance now, fun walletID => ?_⟩
  have hbalance := balance_setBalance hw balance now walletID
  show (db.setBalance wallet.id balance now).balance walletID +
    List.sumIf (db.operations ++ [op]) _ _ - List.sumIf (db.operations ++ [op]) _ _ +
      db.sent walletID - db.received walletID = _
  rw [hbalance, List.sumIf_append_singleton, List.sumIf_append_singleton, hwallet]
  unfold opening operated
  cases hkind : op.operation <;> simp only [hkind, reduceCtorEq, ↓reduceIte, true_and, false_and]
    at hexact ⊢ <;> split <;> omega

theorem Accounted.createTransfer (h : db.Accounted) {outboxTopic : String} {env : TxEnv U}
    {userID fromWalletID toWalletID : U} {amount : Int64} {r : Transfer U × Int64 × Int64}
    (htx : db.createTransfer outboxTopic env userID fromWalletID toWalletID amount =
      .ok (r, db')) : db'.Accounted ∧ db.SameOpening db' := by
  obtain ⟨hpos, hne, source, target, hsource, htarget, -, -, hfunds, hb, hb', hfresh, hr, hdb⟩ :=
    createTransfer_ok htx
  obtain rfl := (wallet?_some hsource).2
  obtain ⟨htmem, rfl⟩ := wallet?_some htarget
  have hdebit := toInt_debit hpos hfunds
  have hcredit := toInt_credit (h.nonneg target htmem) hpos hb'
  -- the target is read before the source is written, which is another wallet
  have htarget' : (db.setBalance source.id (source.balance - amount) env.now).wallet? target.id =
      some target := by rwa [wallet?_setBalance_of_ne (Ne.symm hne)]
  have hids : ∀ t ∈ db.transfers, t.id ≠ r.1.id := by
    rw [hr]
    exact hfresh
  have htransfers : db'.transfers = db.transfers ++ [newTransfer env source.id target.id amount] :=
    by rw [hdb, hr]
  refine ⟨⟨?_, ?_, ?_⟩, ?_, fun walletID => ?_⟩
  · rw [hdb]
    exact { h.keyed with
      wallets := ((h.keyed.setBalance _ _ _).setBalance _ _ _).wallets
      transfers := (h.keyed.append_transfer hids).transfers }
  · rw [hdb]
    exact setBalance_nonneg (setBalance_nonneg h.nonneg hb _ _) hb' _ _
  · rw [hdb]
    exact h.paired
  · rw [hdb]
    exact (setBalance_ids _ _ _).trans (setBalance_ids _ _ _)
  · have hbalance : db'.balance walletID = (setBalance (db.setBalance source.id
        (source.balance - amount) env.now) target.id (target.balance + amount) env.now).balance
          walletID := by rw [hdb]; rfl
    have hreceived : db'.received walletID =
        db.received walletID + if target.id = walletID then amount.toInt else 0 :=
      received_append htransfers walletID
    have hsent : db'.sent walletID =
        db.sent walletID + if source.id = walletID then amount.toInt else 0 :=
      sent_append htransfers walletID
    have hoperated : ∀ kind, db'.operated kind walletID = db.operated kind walletID := by
      intro kind
      rw [hdb]
      rfl
    unfold opening
    rw [hreceived, hsent, hoperated, hoperated, hbalance, balance_setBalance htarget',
      balance_setBalance hsource, hdebit, hcredit]
    split_ifs <;> omega

end Database

namespace WalletCall

variable {U : Type} [UuidLib U] {db db' : Database U} {outboxTopic : String} {env : TxEnv U}

/-- One call: the rows it adds account for the balances it changes. -/
theorem Step.accounted {call : WalletCall U} (h : call.Step outboxTopic env db db')
    (hmoves : call.MovesMoney) (ha : db.Accounted) : db'.Accounted ∧ db.SameOpening db' := by
  cases call with
  | createTransfer =>
    obtain ⟨r, h⟩ := h
    exact ha.createTransfer h
  | debitForSaga cmd =>
    obtain ⟨op, h⟩ := h
    rcases Database.debitForSaga_ok h with
      ⟨-, rfl⟩ | ⟨hnew, wallet, hw, -, hpos, hfunds, hb, rfl, rfl⟩
    · exact ⟨ha, .refl _⟩
    · have hid := (Database.wallet?_some hw).2
      refine ha.operation (hid ▸ hw) hb hnew rfl ?_ fun hkind => by cases hkind
      exact Database.toInt_debit hpos hfunds
  | compensateDebit cmd =>
    obtain ⟨op, h⟩ := h
    rcases Database.compensateDebit_ok h with
      ⟨-, rfl⟩ | ⟨hnew, debit, wallet, hdebit, -, hw, hpos, hb, rfl, rfl⟩
    · exact ⟨ha, .refl _⟩
    · obtain ⟨hmem, hid⟩ := Database.wallet?_some hw
      obtain ⟨hdebitMem, hpayment, hkind⟩ := Database.operation?_some hdebit
      refine ha.operation (hid ▸ hw) hb hnew rfl ?_ fun _ => ?_
      · exact Database.toInt_credit (ha.nonneg wallet hmem) hpos hb
      · exact ⟨debit, hdebitMem, hkind, hpayment, hid.symm, rfl, rfl⟩
  | reserveTransfer | confirmTransfer | cancelReservation | appendTransferEntries
  | handleRecord => exact hmoves.elim

end WalletCall

/-! ## Runs -/

section Runs

variable {U : Type} [UuidLib U]

/-- What is so of the tables `db` of a run that started with `db₀`. -/
structure Database.Exact (db₀ db : Database U) : Prop where
  /-- A payment has at most one debit and at most one compensation. -/
  once : ∀ paymentID kind,
    (db.operations.filter fun op => op.paymentID = paymentID ∧ op.operation = kind).length ≤ 1
  /-- A compensation has the wallet, the amount and the currency of the debit. -/
  paired : ∀ op ∈ db.operations, op.operation = .compensation →
    ∃ debit ∈ db.operations, debit.operation = .debit ∧ debit.paymentID = op.paymentID ∧
      debit.walletID = op.walletID ∧ debit.amountCents = op.amountCents ∧
      debit.currency = op.currency
  nonneg : ∀ wallet ∈ db.wallets, 0 ≤ wallet.balance
  /-- A balance is the initial one and the amounts of the rows that were added since. -/
  exact : ∃ operations transfers, db.operations = db₀.operations ++ operations ∧
    db.transfers = db₀.transfers ++ transfers ∧
    ∀ wallet ∈ db.wallets, ∃ wallet₀ ∈ db₀.wallets, wallet₀.id = wallet.id ∧
      wallet.balance.toInt = wallet₀.balance.toInt
        - operations.sumIf (fun op => op.operation = .debit ∧ op.walletID = wallet.id)
            (·.amountCents.toInt)
        + operations.sumIf (fun op => op.operation = .compensation ∧ op.walletID = wallet.id)
            (·.amountCents.toInt)
        - transfers.sumIf (·.fromWalletID = wallet.id) (·.amount.toInt)
        + transfers.sumIf (·.toWalletID = wallet.id) (·.amount.toInt)

theorem Database.Accounted.exact {db₀ db : Database U} (h : db.Accounted)
    (hkeyed : db₀.Keyed) (hsame : db₀.SameOpening db) (hext : db₀.Extends db) :
    db₀.Exact db where
  once paymentID kind := by
    have honce := List.length_filter_key_le h.keyed.operations (paymentID, kind)
    simpa only [Prod.mk.injEq] using honce
  paired := h.paired
  nonneg := h.nonneg
  exact := by
    obtain ⟨operations, hoperations⟩ := hext.operations
    obtain ⟨transfers, htransfers⟩ := hext.transfers
    refine ⟨operations, transfers, hoperations.symm, htransfers.symm, fun wallet hmem => ?_⟩
    have hid : wallet.id ∈ db₀.wallets.map (·.id) := hsame.ids ▸ List.mem_map_of_mem hmem
    obtain ⟨wallet₀, hmem₀, hid₀⟩ := List.mem_map.mp hid
    refine ⟨wallet₀, hmem₀, hid₀, ?_⟩
    have hbalance : db.balance wallet.id = wallet.balance.toInt := by
      simp [Database.balance, h.keyed.wallet?_of_mem hmem]
    have hbalance₀ : db₀.balance wallet.id = wallet₀.balance.toInt := by
      rw [← hid₀]
      simp [Database.balance, hkeyed.wallet?_of_mem hmem₀]
    have hopening := hsame.opening wallet.id
    simp only [Database.opening, Database.operated, Database.sent, Database.received,
      ← hoperations, ← htransfers, List.sumIf_append, hbalance, hbalance₀] at hopening
    omega

/-- Any number of CreateTransfer, DebitForSaga and CompensateDebit calls, in any interleaving of
    their statements and with statements, commits and connections that fail. -/
theorem wallet_operations_exact {P : Type} [DecidableEq P] (outboxTopic : String)
    (decoders : Decoders Payload) (db₀ : Database U) (h₀ : db₀.Accounted)
    (acts : List (WalletAct P U)) (hcalls : ∀ p call, .deliver p call ∈ acts → call.MovesMoney) :
    db₀.Exact (walletRun outboxTopic decoders db₀ acts).world.committed := by
  have hserial := (walletRun_serial outboxTopic decoders acts h₀.keyed hcalls).serial
  have hext := walletRun_extends outboxTopic decoders [] acts h₀.keyed hcalls
  have hinv := hserial.inv (I := fun db => db.Accounted ∧ db₀.SameOpening db) ⟨h₀, .refl db₀⟩ ?_
  · exact hinv.1.exact h₀.keyed hinv.2 hext
  · intro call env db db' hcommit hdb
    -- no record was handled, so every commit is one of these calls
    rcases hcommit.requested with hmoves | ⟨offset, transfer, hmoves, -⟩
    · obtain ⟨ha, hsame⟩ := hcommit.step.accounted hmoves hdb.1
      exact ⟨ha, hdb.2.trans hsame⟩
    · exact hmoves.elim

end Runs

namespace Sample

/-- An event reads back as it was written. -/
def walletDecoders : Decoders Payload where
  txCompleted _ := .error "invalid"
  txFailed _ := .error "invalid"
  txPaused _ := .error "invalid"
  userVerified _ := .error "invalid"
  userRejected _ := .error "invalid"
  paymentCompleted _ := .error "invalid"
  paymentFailed _ := .error "invalid"
  fraudFlagged _ := .error "invalid"
  transactionInitiated payload :=
    if let .transactionInitiated event := payload then .ok event else .error "invalid"
  paymentExecute _ := .error "invalid"
  loads _ := .error .jsonDecodeError

/-- The steps `n`, ..., `n + count - 1` of a run, taken by connection `p`. -/
def walletSteps {P : Type} (p : P) (n count : Nat) : List (WalletAct P CanonicalUuid) :=
  (List.range' n count).map fun i => .step p { env := (choice i).env }

def debitCommand : SagaDebitCommand CanonicalUuid :=
  { paymentID := paymentID, fromWalletID := payerWallet, amountCents := 300,
    currency := defaultCurrency, idempotencyKey := "debit-1" }

/-- A debit of 300 and a transfer of 200 from the same wallet. The transfer begins while the debit
    is under way. -/
def debitAndTransfer : List (WalletAct Bool CanonicalUuid) :=
  [.deliver true (.debitForSaga debitCommand)] ++ walletSteps true 0 6 ++
    [.deliver false (.createTransfer payer payerWallet payeeWallet 200)] ++
    walletSteps false 6 2 ++ walletSteps true 8 4 ++ walletSteps false 12 11

theorem world_accounted : world.db.Accounted where
  keyed := ⟨by decide +kernel, by decide +kernel, by decide +kernel, by decide +kernel,
    by decide +kernel⟩
  nonneg := by decide +kernel
  paired := by simp [world]

theorem debitAndTransfer_exact : world.db.Accounted ∧
    (walletRun "" walletDecoders world.db debitAndTransfer).world.log.length = 2 ∧
    world.db.Exact (walletRun "" walletDecoders world.db debitAndTransfer).world.committed := by
  refine ⟨world_accounted, by decide +kernel, ?_⟩
  refine wallet_operations_exact "" walletDecoders world.db world_accounted debitAndTransfer ?_
  intro p call hmem
  simp only [debitAndTransfer, walletSteps, List.mem_append, List.mem_map, List.mem_singleton,
    reduceCtorEq, and_false, exists_false, or_false, TeamAct.deliver.injEq] at hmem
  rcases hmem with ⟨-, rfl⟩ | ⟨-, rfl⟩ <;> trivial

end Sample

/-! ## What a reply to a debit is about

A payment that has been debited is answered with its debit, whatever the command asks for. -/

section Replies

variable {U : Type} [UuidLib U] {db db' db₀ : Database U} {cmd cmd' : SagaDebitCommand U}

/-- The operation is what the command asks for. -/
structure SagaWalletOperation.Describes (op : SagaWalletOperation U) (cmd : SagaDebitCommand U) :
    Prop where
  paymentID : op.paymentID = cmd.paymentID
  walletID : op.walletID = cmd.fromWalletID
  amountCents : op.amountCents = cmd.amountCents
  currency : op.currency = cmd.currency

/-- Neither the debit the payment already has nor another command for it asks for something
    else. -/
structure SagaDebitCommand.Unopposed {P : Type} (cmd : SagaDebitCommand U) (db₀ : Database U)
    (acts : List (WalletAct P U)) : Prop where
  stored : ∀ op, db₀.operation? cmd.paymentID .debit = some op → op.Describes cmd
  commands : ∀ p cmd', .deliver p (.debitForSaga cmd') ∈ acts → cmd'.paymentID = cmd.paymentID →
    cmd'.fromWalletID = cmd.fromWalletID ∧ cmd'.amountCents = cmd.amountCents ∧
      cmd'.currency = cmd.currency

/-- Every debit is an initial one or what one of the commands asks for. -/
def Database.DebitedFor (req : WalletCall U → Prop) (db₀ db : Database U) : Prop :=
  ∀ paymentID op, db.operation? paymentID .debit = some op →
    db₀.operation? paymentID .debit = some op ∨
      ∃ cmd, req (.debitForSaga cmd) ∧ op.Describes cmd

theorem Database.DebitedFor.of_eq {req : WalletCall U → Prop} (h : db₀.DebitedFor req db)
    (hops : db'.operations = db.operations) : db₀.DebitedFor req db' := by
  simpa only [Database.DebitedFor, Database.operation?, hops] using h

/-- A command that is carried out adds what it asks for, and nothing else adds a debit. -/
theorem WalletCall.Step.debitedFor {outboxTopic : String} {env : TxEnv U} {call : WalletCall U}
    {req : WalletCall U → Prop} (h : call.Step outboxTopic env db db')
    (hreq : ∀ cmd, call = .debitForSaga cmd → req call) (hd : db₀.DebitedFor req db) :
    db₀.DebitedFor req db' := by
  cases call with
  | debitForSaga cmd =>
    obtain ⟨op, h⟩ := h
    rcases Database.debitForSaga_ok h with
      ⟨-, rfl⟩ | ⟨hnew, wallet, hw, -, -, -, -, hop, rfl⟩
    · exact hd
    · intro paymentID o ho
      rcases Option.or_eq_some_iff.mp (List.find?_append.symm.trans ho) with ho | ⟨-, ho⟩
      · exact hd paymentID o ho
      · -- the new row is what this command asks for
        refine .inr ⟨cmd, hreq cmd rfl, ?_⟩
        rw [List.mem_singleton.mp (List.mem_of_find?_eq_some ho), hop]
        exact ⟨rfl, (Database.wallet?_some hw).2, rfl, rfl⟩
  | compensateDebit cmd =>
    obtain ⟨op, h⟩ := h
    rcases Database.compensateDebit_ok h with
      ⟨-, rfl⟩ | ⟨hnew, debit, wallet, -, -, -, -, -, hop, rfl⟩
    · exact hd
    · intro paymentID o ho
      have hkind := (Database.operation?_some ho).2.2
      rcases Option.or_eq_some_iff.mp (List.find?_append.symm.trans ho) with ho | ⟨-, ho⟩
      · exact hd paymentID o ho
      · rw [List.mem_singleton.mp (List.mem_of_find?_eq_some ho), hop] at hkind
        cases hkind
  | createTransfer =>
    obtain ⟨r, h⟩ := h
    obtain ⟨-, -, source, target, -, -, -, -, -, -, -, -, -, rfl⟩ := Database.createTransfer_ok h
    exact hd
  | reserveTransfer cmd =>
    obtain ⟨r, h⟩ := h
    exact hd.of_eq (Database.reserveTransfer_operations h)
  | confirmTransfer cmd =>
    obtain ⟨c, h⟩ := h
    exact hd.of_eq (Database.confirmTransfer_operations h)
  | cancelReservation cmd =>
    obtain ⟨o, h⟩ := h
    exact hd.of_eq (Database.cancelReservation_operations h)
  | appendTransferEntries transfer =>
    rcases Database.appendTransferEntries_ok h with rfl | ⟨-, source, target, -, -, rfl⟩ <;>
      exact hd
  | handleRecord => exact h.elim

/-- Any number of calls in any interleaving of their statements: a reply describes a command
    that nothing opposes, and a payment that has been debited is not debited again. -/
theorem debit_reply_describes {P : Type} [DecidableEq P] (outboxTopic : String)
    (decoders : Decoders Payload) (db₀ : Database U) (hkeyed : db₀.Keyed)
    (acts : List (WalletAct P U)) :
    (∀ a ∈ (walletRun outboxTopic decoders db₀ acts).world.answers, ∀ cmd reply,
      a.call = .debitForSaga cmd → a.result = .ok reply → cmd.Unopposed db₀ acts →
        ∃ op, reply = .operation op ∧ op.Describes cmd) ∧
    Serial (fun call _ db db' => ∀ cmd, call = .debitForSaga cmd →
        (db.operation? cmd.paymentID .debit).isSome → db' = db) db₀
      (walletRun outboxTopic decoders db₀ acts).world.log
      (walletRun outboxTopic decoders db₀ acts).world.committed := by
  have hreq : ∀ p call, .deliver p call ∈ acts → ∃ p, .deliver p call ∈ acts :=
    fun p call h => ⟨p, h⟩
  have hinv := walletRun_serial outboxTopic decoders acts hkeyed hreq
  constructor
  · intro a ha cmd reply hcall hok hunopposed
    have hdebited := hinv.serial.inv
      (I := db₀.DebitedFor fun call => ∃ p, .deliver p call ∈ acts) (fun _ _ h => .inl h) ?_
    · have hreplied := (hinv.attested a ha).replied reply hok
      rw [hcall] at hreplied
      obtain ⟨op, hreply, hop⟩ := hreplied
      refine ⟨op, hreply, ?_⟩
      have hpayment := (Database.operation?_some hop).2.1
      rcases hdebited cmd.paymentID op hop with hstored | ⟨cmd', ⟨p, hmem⟩, hdescribes⟩
      · exact hunopposed.stored op hstored
      · obtain ⟨hwallet, hamount, hcurrency⟩ :=
          hunopposed.commands p cmd' hmem (hdescribes.paymentID.symm.trans hpayment)
        exact ⟨hpayment, hdescribes.walletID.trans hwallet,
          hdescribes.amountCents.trans hamount, hdescribes.currency.trans hcurrency⟩
    · intro call env db db' hcommit hdb
      refine hcommit.step.debitedFor (fun cmd hcmd => ?_) hdb
      rcases hcommit.requested with hreq | ⟨offset, transfer, -, hother, -⟩
      · exact hreq
      · cases hcmd.symm.trans hother
  · refine hinv.serial.mono (I := fun _ => True) trivial fun hcommit _ => ⟨trivial, ?_⟩
    rintro cmd rfl hsome
    obtain ⟨op, h⟩ := hcommit.step
    rcases Database.debitForSaga_ok h with ⟨-, rfl⟩ | ⟨hnone, -⟩
    · rfl
    · rw [hnone] at hsome
      cases hsome

/-- A debit that was answered with an operation of another amount. -/
def WalletAnswer.otherAmount : WalletAnswer U → Bool
  | ⟨_, .debitForSaga cmd, .ok (.operation op)⟩ => op.amountCents ≠ cmd.amountCents
  | _ => false

end Replies

namespace Sample

def otherDebitCommand : SagaDebitCommand CanonicalUuid :=
  { debitCommand with amountCents := 200, idempotencyKey := "debit-2" }

/-- A debit of 300, and then one of 200 for the same payment. -/
def debitAndOtherDebit : List (WalletAct Bool CanonicalUuid) :=
  [.deliver true (.debitForSaga debitCommand)] ++ walletSteps true 0 12 ++
    [.deliver true (.debitForSaga otherDebitCommand)] ++ walletSteps true 12 8

/-- Both commands succeed, and the second is answered with the debit of 300. -/
theorem otherDebit_not_described :
    (walletRun "" walletDecoders world.db debitAndOtherDebit).world.answers.map
        (fun a => a.result.isOk) = [true, true] ∧
    (walletRun "" walletDecoders world.db debitAndOtherDebit).world.answers.any
        WalletAnswer.otherAmount = true := by
  decide +kernel

theorem debitAndTransfer_described :
    (walletRun "" walletDecoders world.db debitAndTransfer).world.answers.map
        (fun a => a.result.isOk) = [true, true] ∧
    debitCommand.Unopposed world.db debitAndTransfer ∧
    (∀ a ∈ (walletRun "" walletDecoders world.db debitAndTransfer).world.answers, ∀ cmd reply,
      a.call = .debitForSaga cmd → a.result = .ok reply →
        cmd.Unopposed world.db debitAndTransfer →
          ∃ op, reply = .operation op ∧ op.Describes cmd) ∧
    Serial (fun call _ db db' => ∀ cmd, call = .debitForSaga cmd →
        (db.operation? cmd.paymentID .debit).isSome → db' = db) world.db
      (walletRun "" walletDecoders world.db debitAndTransfer).world.log
      (walletRun "" walletDecoders world.db debitAndTransfer).world.committed := by
  refine ⟨by decide +kernel, ⟨?_, ?_⟩, debit_reply_describes "" walletDecoders world.db
    world_accounted.keyed debitAndTransfer⟩
  · simp [world, Database.operation?]
  · intro p cmd hmem hpayment
    simp only [debitAndTransfer, walletSteps, List.mem_append, List.mem_map, List.mem_singleton,
      reduceCtorEq, and_false, exists_false, or_false, TeamAct.deliver.injEq,
      WalletCall.debitForSaga.injEq] at hmem
    obtain ⟨-, rfl⟩ := hmem
    exact ⟨rfl, rfl, rfl⟩

end Sample

end EnjoyThings
