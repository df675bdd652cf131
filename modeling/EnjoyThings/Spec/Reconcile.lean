import EnjoyThings.Spec.SagaSystem
import EnjoyThings.Spec.WalletsCorrect

/-!
# Wallets against the ledger

The accounting identity between the balances and the ledger: a balance is the
initial one, plus the transfers into the wallet, minus the transfers out of it,
minus the saga debits that are neither compensated nor confirmed. Five of the six
transactions keep it. `ConfirmTransfer` does not: it makes the transfer row of a
reservation, and no transaction ever credits the target of that row. A run
therefore stays reconciled exactly as long as it settles no reservation
(`reconciles_iff_settles_nothing`).
-/

namespace EnjoyThings

namespace Database

variable {U : Type} [UuidLib U] {db db' : Database U}

/-! ## Runs of transactions -/

/-- One call of a repository function, with what its transaction draws. -/
inductive Command (U : Type)
  | createTransfer (outboxTopic : String) (env : TxEnv U) (userID fromWalletID toWalletID : U)
      (amount : Int64)
  | debitForSaga (env : TxEnv U) (cmd : SagaDebitCommand U)
  | compensateDebit (env : TxEnv U) (cmd : SagaCompensationCommand U)
  | reserveTransfer (env : TxEnv U) (cmd : LedgerReserveCommand U)
  | confirmTransfer (env : TxEnv U) (cmd : LedgerConfirmCommand U)
  | cancelReservation (env : TxEnv U) (cmd : LedgerCancelCommand U)

/-- What is committed: an error rolls the transaction back. -/
def committed {α : Type} (db : Database U) : Except RepoErr (α × Database U) → Database U
  | .ok (_, db') => db'
  | .error _ => db

/-- The committed state after a call. -/
def apply (db : Database U) : Command U → Database U
  | .createTransfer outboxTopic env userID fromWalletID toWalletID amount =>
    db.committed (db.createTransfer outboxTopic env userID fromWalletID toWalletID amount)
  | .debitForSaga env cmd => db.committed (db.debitForSaga env cmd)
  | .compensateDebit env cmd => db.committed (db.compensateDebit env cmd)
  | .reserveTransfer env cmd => db.committed (db.reserveTransfer env cmd)
  | .confirmTransfer env cmd => db.committed (db.confirmTransfer env cmd)
  | .cancelReservation env cmd => db.committed (db.cancelReservation env cmd)

def applyAll (db : Database U) (cmds : List (Command U)) : Database U :=
  cmds.foldl apply db

omit [UuidLib U] in
/-- A call commits nothing, or what it returned. -/
theorem committed_cases {α : Type} (db : Database U) (result : Except RepoErr (α × Database U)) :
    db.committed result = db ∨ ∃ a, result = .ok (a, db.committed result) := by
  match result with
  | .ok (a, db') => exact .inr ⟨a, rfl⟩
  | .error _ => exact .inl rfl

/-! ## The accounts -/

/-- The reservation of the payment is confirmed. -/
def Confirmed (db : Database U) (paymentID : U) : Prop :=
  (db.reservation? paymentID).map (·.status) = some .confirmed

instance (db : Database U) (paymentID : U) : Decidable (db.Confirmed paymentID) :=
  inferInstanceAs (Decidable (_ = _))

/-- A debit whose payment has neither a compensation nor a confirmed reservation. -/
def Outstanding (db : Database U) (op : SagaWalletOperation U) : Prop :=
  op.operation = .debit ∧ db.operation? op.paymentID .compensation = none ∧
    ¬ db.Confirmed op.paymentID

instance (db : Database U) (op : SagaWalletOperation U) : Decidable (db.Outstanding op) :=
  inferInstanceAs (Decidable (_ ∧ _))

/-- The amounts of the outstanding debits of some of the wallets. -/
def outstanding (db : Database U) (among : U → Prop) [DecidablePred among] : Int :=
  db.operations.sumIf (fun op => db.Outstanding op ∧ among op.walletID) (·.amountCents.toInt)

/-- The amounts of the transfers into a wallet. -/
def received (db : Database U) (walletID : U) : Int :=
  db.transfers.sumIf (·.toWalletID = walletID) (·.amount.toInt)

/-- The amounts of the transfers out of a wallet. -/
def sent (db : Database U) (walletID : U) : Int :=
  db.transfers.sumIf (·.fromWalletID = walletID) (·.amount.toInt)

/-- What the ledger and the outstanding debits add up to for a wallet. -/
def due (db : Database U) (walletID : U) : Int :=
  db.received walletID - db.sent walletID - db.outstanding (· = walletID)

def balance (db : Database U) (walletID : U) : Int :=
  ((db.wallet? walletID).map (·.balance.toInt)).getD 0

/-- The money in the wallets. -/
def holdings (db : Database U) : Int :=
  (db.wallets.map (·.balance.toInt)).sum

/-- The money in the wallets and in the outstanding debits. -/
def total (db : Database U) : Int :=
  db.holdings + db.outstanding fun _ => True

/-- Every balance is what the initial one and the accounts say, and no money was made or
    lost. -/
def Reconciles (db₀ db : Database U) : Prop :=
  (∀ wallet ∈ db.wallets, wallet.balance.toInt = db₀.balance wallet.id + db.due wallet.id) ∧
    db.total = db₀.total

instance (db₀ db : Database U) : Decidable (db₀.Reconciles db) :=
  inferInstanceAs (Decidable (_ ∧ _))

/-! ## Settling -/

/-- A confirm that finds the reservation it names still reserved, and draws unused IDs. -/
def Settles (db : Database U) : Command U → Prop
  | .confirmTransfer env cmd =>
    (cmd.paymentID ≠ UuidLib.nil ∧ cmd.ledgerReservationID ≠ UuidLib.nil ∧
      cmd.walletDebitID ≠ UuidLib.nil ∧ cmd.idempotencyKey ≠ "") ∧
    (∃ r ∈ db.reservation? cmd.paymentID, r.id = cmd.ledgerReservationID ∧ r.status = .reserved) ∧
    (∀ t ∈ db.transfers, t.id ≠ env.transferID) ∧ env.debitEntryID ≠ env.creditEntryID
  | _ => False

instance (db : Database U) : (cmd : Command U) → Decidable (db.Settles cmd)
  | .confirmTransfer _ _ => inferInstanceAs (Decidable (_ ∧ _))
  | .createTransfer .. => .isFalse id
  | .debitForSaga .. => .isFalse id
  | .compensateDebit .. => .isFalse id
  | .reserveTransfer .. => .isFalse id
  | .cancelReservation .. => .isFalse id

/-! ## Amounts that do not wrap around -/

section Amounts

omit [UuidLib U] in
theorem toInt_debit {balance amount : Int64} (hpos : 0 < amount) (hfunds : amount ≤ balance) :
    (balance - amount).toInt = balance.toInt - amount.toInt := by
  have hlt := balance.toInt_lt
  rw [Int64.lt_iff_toInt_lt, Int64.toInt_zero] at hpos
  rw [Int64.le_iff_toInt_le] at hfunds
  rw [Int64.toInt_sub, Int.bmod_def]
  omega

omit [UuidLib U] in
theorem toInt_credit {balance amount : Int64} (hbalance : 0 ≤ balance) (hpos : 0 < amount)
    (hsum : 0 ≤ balance + amount) :
    (balance + amount).toInt = balance.toInt + amount.toInt := by
  have hlt := balance.toInt_lt
  have hlt' := amount.toInt_lt
  rw [Int64.lt_iff_toInt_lt, Int64.toInt_zero] at hpos
  rw [Int64.le_iff_toInt_le, Int64.toInt_zero] at hbalance
  rw [Int64.le_iff_toInt_le, Int64.toInt_zero, Int64.toInt_add, Int.bmod_def] at hsum
  rw [Int64.toInt_add, Int.bmod_def]
  omega

end Amounts

/-! ## How the accounts change -/

variable {op : SagaWalletOperation U} {t : Transfer U}

section Accounts

variable {among : U → Prop} [DecidablePred among]

/-- Only the balance of the wallet that is written changes. -/
theorem balance_setBalance {wallet : Wallet U} (hw : db.wallet? wallet.id = some wallet)
    (b : Int64) (now : Time) (walletID : U) :
    (db.setBalance wallet.id b now).balance walletID =
      db.balance walletID +
        if wallet.id = walletID then b.toInt - wallet.balance.toInt else 0 := by
  unfold balance
  by_cases hid : wallet.id = walletID
  · rw [wallet?_setBalance, if_pos hid, ← hid, hw, Option.map_some, if_pos rfl]
    simp only [Option.map_some, Option.getD_some]
    omega
  · rw [wallet?_setBalance_of_ne (Ne.symm hid), if_neg hid, Int.add_zero]

theorem holdings_setBalance (hk : db.Keyed) {wallet : Wallet U}
    (hw : db.wallet? wallet.id = some wallet) (b : Int64) (now : Time) :
    (db.setBalance wallet.id b now).holdings =
      db.holdings + (b.toInt - wallet.balance.toInt) :=
  List.sum_map_update (f := fun w : Wallet U => w.balance.toInt)
    (g := fun w : Wallet U => { w with balance := b, updatedAt := now })
    hk.wallets (wallet?_some hw).1

/-- Without a confirmed reservation on either side, the outstanding debits are those of the
    operations. -/
theorem outstanding_congr (hops : db'.operations = db.operations)
    (hno : ∀ paymentID, ¬ db.Confirmed paymentID) (hno' : ∀ paymentID, ¬ db'.Confirmed paymentID) :
    db'.outstanding among = db.outstanding among := by
  unfold outstanding
  rw [hops]
  refine List.sumIf_congr fun op _ => ?_
  simp only [Outstanding, operation?, hops, hno, hno']

/-- A new debit is outstanding. -/
theorem outstanding_debit (hops : db'.operations = db.operations ++ [op])
    (hkind : op.operation = .debit) (hnone : db.operation? op.paymentID .compensation = none)
    (hno : ∀ paymentID, ¬ db.Confirmed paymentID) (hno' : ∀ paymentID, ¬ db'.Confirmed paymentID) :
    db'.outstanding among =
      db.outstanding among + if among op.walletID then op.amountCents.toInt else 0 := by
  have hsame : ∀ paymentID,
      db'.operation? paymentID .compensation = db.operation? paymentID .compensation := by
    intro paymentID
    unfold operation?
    rw [hops, List.find?_append]
    simp [hkind]
  have hout : ∀ o, db'.Outstanding o ↔ db.Outstanding o := by
    intro o
    simp only [Outstanding, hsame, hno, hno']
  have hnew : db'.Outstanding op := (hout op).mpr ⟨hkind, hnone, hno _⟩
  unfold outstanding
  rw [hops, List.sumIf_append_singleton, List.sumIf_congr fun o _ => by rw [hout o]]
  simp only [hnew, true_and]

/-- A compensation takes the debit of its payment off the outstanding ones. -/
theorem outstanding_compensation (hk : db.Keyed) {debit : SagaWalletOperation U}
    (hops : db'.operations = db.operations ++ [op]) (hkind : op.operation = .compensation)
    (hdebit : db.operation? op.paymentID .debit = some debit)
    (hnone : db.operation? op.paymentID .compensation = none)
    (hno : ∀ paymentID, ¬ db.Confirmed paymentID) (hno' : ∀ paymentID, ¬ db'.Confirmed paymentID) :
    db'.outstanding among =
      db.outstanding among - if among debit.walletID then debit.amountCents.toInt else 0 := by
  obtain ⟨hmem, hpid, hdkind⟩ := operation?_some hdebit
  have hcomp : ∀ paymentID, db'.operation? paymentID .compensation = none ↔
      paymentID ≠ op.paymentID ∧ db.operation? paymentID .compensation = none := by
    intro paymentID
    rw [operation?_eq_none, operation?_eq_none, hops]
    constructor
    · intro h
      refine ⟨fun he => h op (by simp) hkind he.symm, fun o ho => h o (by simp [ho])⟩
    · rintro ⟨hne, h⟩ o ho
      rcases List.mem_concat_iff.mp ho with ho | rfl
      · exact h o ho
      · exact fun _ he => hne he.symm
  have hold : ∀ o, db'.Outstanding o ↔ o.paymentID ≠ op.paymentID ∧ db.Outstanding o := by
    intro o
    simp only [Outstanding, hcomp, hno, hno']
    tauto
  -- the new row is no debit, so it adds nothing
  have hnew : ¬ db'.Outstanding op := fun h => ((hold op).mp h).1 rfl
  unfold outstanding
  rw [hops, List.sumIf_append_singleton, if_neg fun h => hnew h.1, Int.add_zero]
  by_cases hamong : among debit.walletID
  · rw [if_pos hamong]
    refine List.sumIf_remove hk.operations hmem ⟨⟨hdkind, ?_, hno _⟩, hamong⟩ ?_ ?_
    · rwa [hpid]
    · exact fun h => ((hold debit).mp h.1).1 hpid
    · intro o ho hne
      -- another debit belongs to another payment
      have hother : db.Outstanding o → o.paymentID ≠ op.paymentID := by
        intro hout he
        exact hne (by rw [he, hout.1, hpid, hdkind])
      rw [hold o]
      constructor
      · exact fun h => ⟨h.1.2, h.2⟩
      · exact fun h => ⟨⟨hother h.1, h.1⟩, h.2⟩
  · rw [if_neg hamong, Int.sub_zero]
    refine List.sumIf_congr fun o ho => ?_
    rw [hold o]
    constructor
    · exact fun h => ⟨h.1.2, h.2⟩
    · rintro ⟨hout, ho'⟩
      refine ⟨⟨fun he => hamong ?_, hout⟩, ho'⟩
      have heq := hk.operation?_of_mem ho
      rw [he, hout.1, hdebit] at heq
      rw [Option.some.inj heq]
      exact ho'

theorem received_append (ht : db'.transfers = db.transfers ++ [t]) (walletID : U) :
    db'.received walletID =
      db.received walletID + if t.toWalletID = walletID then t.amount.toInt else 0 := by
  unfold received
  rw [ht, List.sumIf_append_singleton]

theorem sent_append (ht : db'.transfers = db.transfers ++ [t]) (walletID : U) : db'.sent walletID =
      db.sent walletID + if t.fromWalletID = walletID then t.amount.toInt else 0 := by
  unfold sent
  rw [ht, List.sumIf_append_singleton]

end Accounts

/-! ## What holds until a reservation is settled -/

/-- What `ReserveTransfer` checked, and a confirm checks again. -/
structure Fits (db : Database U) (r : LedgerReservation U) : Prop where
  positive : 0 < r.amountCents
  distinct : r.fromWalletID ≠ r.toWalletID
  wallets : ∃ source target : Wallet U, db.wallet? r.fromWalletID = some source ∧
    db.wallet? r.toWalletID = some target ∧ source.currency = target.currency ∧
    source.currency = r.currency

/-- The tables of a run that has settled nothing. -/
structure Unsettled (db : Database U) : Prop where
  keyed : db.Keyed
  nonneg : ∀ wallet ∈ db.wallets, 0 ≤ wallet.balance
  positive : ∀ op ∈ db.operations, 0 < op.amountCents
  paired : ∀ op ∈ db.operations, op.operation = .compensation →
    ∃ debit, db.operation? op.paymentID .debit = some debit
  unconfirmed : ∀ r ∈ db.reservations, r.status ≠ .confirmed
  fits : ∀ r ∈ db.reservations, db.Fits r
  entries : db.ledgerEntries = []

/-- A step that changes a balance by what it changes the accounts of the wallet. -/
structure Balanced (db db' : Database U) : Prop where
  account : ∀ walletID, db'.balance walletID - db'.due walletID =
    db.balance walletID - db.due walletID
  total : db'.total = db.total

theorem Balanced.refl (db : Database U) : db.Balanced db :=
  ⟨fun _ => rfl, rfl⟩

theorem Unsettled.not_confirmed (h : db.Unsettled) (paymentID : U) : ¬ db.Confirmed paymentID := by
  intro hc
  obtain ⟨r, hr, hs⟩ := Option.map_eq_some_iff.mp hc
  exact h.unconfirmed r (reservation?_some hr).1 hs

/-- A debit that is not there yet has no compensation either. -/
theorem Unsettled.no_compensation (h : db.Unsettled) {paymentID : U}
    (hnone : db.operation? paymentID .debit = none) :
    db.operation? paymentID .compensation = none := by
  rw [operation?_eq_none]
  intro op hop hkind hpid
  obtain ⟨debit, hdebit⟩ := h.paired op hop hkind
  rw [hpid, hnone] at hdebit
  cases hdebit

variable {r : LedgerReservation U}

theorem Fits.setBalance (h : db.Fits r) (id : U) (b : Int64) (now : Time) :
    (db.setBalance id b now).Fits r := by
  obtain ⟨source, target, hsource, htarget, hcur, hcur'⟩ := h.wallets
  refine { h with wallets := ?_ }
  refine ⟨_, _, by rw [wallet?_setBalance, hsource]; rfl, by rw [wallet?_setBalance, htarget]; rfl,
    ?_, ?_⟩
  · dsimp only
    split <;> split <;> exact hcur
  · dsimp only
    split <;> exact hcur'

theorem Fits.of_wallets (h : db.Fits r) (hw : db'.wallets = db.wallets) : db'.Fits r := by
  refine { h with wallets := ?_ }
  unfold wallet?
  rw [hw]
  exact h.wallets

/-- A balance that is not negative may be written. -/
theorem Unsettled.setBalance (h : db.Unsettled) (id : U) {b : Int64} (hb : 0 ≤ b) (now : Time) :
    (db.setBalance id b now).Unsettled where
  keyed := h.keyed.setBalance id b now
  nonneg wallet hw := by
    obtain ⟨o, ho, rfl⟩ := List.mem_map.mp hw
    split
    · exact hb
    · exact h.nonneg o ho
  positive := h.positive
  paired := h.paired
  unconfirmed := h.unconfirmed
  fits r hr := (h.fits r hr).setBalance id b now
  entries := h.entries

theorem Unsettled.append_operation (h : db.Unsettled)
    (hnew : db.operation? op.paymentID op.operation = none) (hpos : 0 < op.amountCents)
    (hpaired : op.operation = .compensation → ∃ debit,
      db.operation? op.paymentID .debit = some debit) :
    Unsettled { db with operations := db.operations ++ [op] } where
  keyed := h.keyed.append_operation hnew
  nonneg := h.nonneg
  positive o ho := by
    rcases List.mem_concat_iff.mp ho with ho | rfl
    · exact h.positive o ho
    · assumption
  paired o ho hkind := by
    have hdebit : ∃ debit, db.operation? o.paymentID .debit = some debit := by
      rcases List.mem_concat_iff.mp ho with ho | rfl
      · exact h.paired o ho hkind
      · exact hpaired hkind
    obtain ⟨debit, hdebit⟩ := hdebit
    exact ⟨debit, operation?_append_of_some rfl hdebit⟩
  unconfirmed := h.unconfirmed
  fits r hr := (h.fits r hr).of_wallets rfl
  entries := h.entries

/-- A transfer changes no other table, and the outbox is not looked at. -/
theorem Unsettled.append_transfer (h : db.Unsettled) (hid : ∀ o ∈ db.transfers, o.id ≠ t.id)
    (outbox : List OutboxRecord) :
    Unsettled { db with transfers := db.transfers ++ [t], outbox := outbox } where
  keyed := { h.keyed.append_transfer hid with }
  nonneg := h.nonneg
  positive := h.positive
  paired := h.paired
  unconfirmed := h.unconfirmed
  fits r hr := (h.fits r hr).of_wallets rfl
  entries := h.entries

/-! ## The transactions that keep the accounts -/

variable {cmd : LedgerConfirmCommand U}

section Transactions

variable {env : TxEnv U}

theorem createTransfer_balanced (h : db.Unsettled) {outboxTopic : String}
    {userID fromWalletID toWalletID : U} {amount : Int64} {r : Transfer U × Int64 × Int64}
    (htx : db.createTransfer outboxTopic env userID fromWalletID toWalletID amount =
      .ok (r, db')) : db'.Unsettled ∧ db.Balanced db' := by
  obtain ⟨hpos, hne, source, target, hsource, htarget, -, -, hfunds, hb, hb', hfresh, hr, hdb⟩ :=
    createTransfer_ok htx
  obtain rfl := (wallet?_some hsource).2
  obtain ⟨htmem, rfl⟩ := wallet?_some htarget
  have hdebit := toInt_debit hpos hfunds
  have hcredit := toInt_credit (h.nonneg target htmem) hpos hb'
  have hun₁ : (db.setBalance source.id (source.balance - amount) env.now).Unsettled :=
    h.setBalance _ hb _
  have hun₂ := hun₁.setBalance target.id hb' env.now
  have hun : db'.Unsettled := by
    rw [hdb, hr]
    exact hun₂.append_transfer (t := newTransfer env source.id target.id amount) hfresh _
  -- the target is read before the source is written, which is another wallet
  have htarget' : (db.setBalance source.id (source.balance - amount) env.now).wallet? target.id =
      some target := by rwa [wallet?_setBalance_of_ne (Ne.symm hne)]
  have hout : ∀ (among : U → Prop) [DecidablePred among],
      db'.outstanding among = db.outstanding among := fun among _ =>
    outstanding_congr (by rw [hdb]; rfl) h.not_confirmed hun.not_confirmed
  have htransfers : db'.transfers = db.transfers ++ [newTransfer env source.id target.id amount] :=
    by rw [hdb, hr]
  refine ⟨hun, ⟨fun walletID => ?_, ?_⟩⟩
  · have hbalance : db'.balance walletID = (setBalance (db.setBalance source.id
        (source.balance - amount) env.now) target.id (target.balance + amount) env.now).balance
          walletID := by rw [hdb]; rfl
    have hreceived : db'.received walletID =
        db.received walletID + if target.id = walletID then amount.toInt else 0 :=
      received_append htransfers walletID
    have hsent : db'.sent walletID =
        db.sent walletID + if source.id = walletID then amount.toInt else 0 :=
      sent_append htransfers walletID
    unfold due
    rw [hreceived, hsent, hout, hbalance, balance_setBalance htarget', balance_setBalance hsource,
      hdebit, hcredit]
    split_ifs <;> omega
  · have hholdings : db'.holdings = (setBalance (db.setBalance source.id
        (source.balance - amount) env.now) target.id (target.balance + amount) env.now).holdings :=
      by rw [hdb]; rfl
    unfold total
    rw [hout, hholdings, holdings_setBalance hun₁.keyed htarget',
      holdings_setBalance h.keyed hsource, hdebit, hcredit]
    omega

/-- The shape of a debit and of a compensation: one wallet and the outstanding debits of that
    wallet change by opposite amounts. -/
theorem Balanced.of_operation (h : db.Unsettled) (wallet : Wallet U) {b : Int64} {now : Time}
    (hw : db.wallet? wallet.id = some wallet)
    (hwallets : db'.wallets = (db.setBalance wallet.id b now).wallets)
    (htransfers : db'.transfers = db.transfers)
    (hout : ∀ (among : U → Prop) [DecidablePred among], db'.outstanding among =
      db.outstanding among + if among wallet.id then wallet.balance.toInt - b.toInt else 0) :
    db.Balanced db' where
  account walletID := by
    have hbalance : db'.balance walletID = (db.setBalance wallet.id b now).balance walletID := by
      unfold balance wallet?
      rw [hwallets]
    unfold due received sent
    rw [hbalance, balance_setBalance hw, hout, htransfers]
    split_ifs <;> omega
  total := by
    have hholdings : db'.holdings = (db.setBalance wallet.id b now).holdings := by
      unfold holdings
      rw [hwallets]
    unfold Database.total
    rw [hholdings, holdings_setBalance h.keyed hw, hout, if_pos trivial]
    omega

theorem debitForSaga_balanced (h : db.Unsettled) {cmd : SagaDebitCommand U}
    (htx : db.debitForSaga env cmd = .ok (op, db')) :
    db'.Unsettled ∧ db.Balanced db' := by
  rcases debitForSaga_ok htx with ⟨-, rfl⟩ | ⟨hnew, wallet, hw, -, hpos, hfunds, hb, hop, hdb⟩
  · exact ⟨h, .refl _⟩
  · have hid := (wallet?_some hw).2
    have hun : db'.Unsettled := by
      rw [hdb, hop]
      exact (h.setBalance _ hb _).append_operation hnew hpos
        fun hkind => by cases hkind
    have hdebit := toInt_debit hpos hfunds
    have hwid : op.walletID = wallet.id := by rw [hop]; rfl
    have hamount : op.amountCents = cmd.amountCents := by rw [hop]; rfl
    have hnone : db.operation? op.paymentID .compensation = none := by
      rw [hop]
      exact h.no_compensation hnew
    have hops : db'.operations = db.operations ++ [op] := by rw [hdb]
    refine ⟨hun, .of_operation h wallet (by rwa [hid]) (by rw [hdb]) (by rw [hdb]; rfl) ?_⟩
    intro among _
    rw [outstanding_debit hops (by rw [hop]; rfl) hnone h.not_confirmed hun.not_confirmed, hdebit,
      hwid, hamount]
    split_ifs <;> omega

theorem compensateDebit_balanced (h : db.Unsettled) {cmd : SagaCompensationCommand U}
    (htx : db.compensateDebit env cmd = .ok (op, db')) :
    db'.Unsettled ∧ db.Balanced db' := by
  rcases compensateDebit_ok htx with ⟨-, rfl⟩ | ⟨hnew, debit, wallet, hd, -, hw, hpos, hb, hop, hdb⟩
  · exact ⟨h, .refl _⟩
  · obtain ⟨hmem, hid⟩ := wallet?_some hw
    have hun : db'.Unsettled := by
      rw [hdb, hop]
      exact (h.setBalance _ hb _).append_operation hnew hpos fun _ => ⟨debit, hd⟩
    have hcredit := toInt_credit (h.nonneg wallet hmem) hpos hb
    have hpid : op.paymentID = cmd.paymentID := by rw [hop]; rfl
    have hops : db'.operations = db.operations ++ [op] := by rw [hdb]
    refine ⟨hun, .of_operation h wallet (by rwa [hid]) (by rw [hdb]) (by rw [hdb]; rfl) ?_⟩
    intro among _
    rw [← hpid] at hd hnew
    rw [outstanding_compensation h.keyed hops (by rw [hop]; rfl) hd hnew h.not_confirmed
      hun.not_confirmed, hcredit, hid]
    split_ifs <;> omega

/-- The shape of the ledger's steps: no balance, no transfer and no operation changes. -/
theorem Balanced.of_eq (h : db.Unsettled) (h' : db'.Unsettled)
    (hwallets : db'.wallets = db.wallets) (htransfers : db'.transfers = db.transfers)
    (hops : db'.operations = db.operations) : db.Balanced db' := by
  have hout : ∀ (among : U → Prop) [DecidablePred among],
      db'.outstanding among = db.outstanding among := fun among _ =>
    outstanding_congr hops h.not_confirmed h'.not_confirmed
  constructor
  · intro walletID
    unfold due balance received sent wallet?
    rw [hout, hwallets, htransfers]
  · unfold Database.total holdings
    rw [hout, hwallets]

/-- A new reservation passed the checks that a confirm makes. -/
theorem reserveTransfer_fits {cmd : LedgerReserveCommand U}
    (h : db.reserveTransfer env cmd = .ok (r, db')) (hnew : db.reservation? cmd.paymentID = none) :
    db.Fits r := by
  simp only [reserveTransfer, hnew, Except.bind_eq_ok, Except.refuseIf_eq_ok,
    Except.ofOption_eq_ok] at h
  obtain ⟨-, -, -, hpos, -, hne, currency, -, source, hsource, target, htarget, -, hcur, h⟩ := h
  rw [not_or, Decidable.not_not, Decidable.not_not] at hcur
  split at h
  · obtain ⟨rfl, -⟩ := Prod.mk.inj (Except.ok.inj h)
    exact ⟨Int64.not_le.mp hpos, hne, source, target, hsource, htarget, hcur.1, hcur.2⟩
  · cases h
  · cases h

theorem reserveTransfer_balanced (h : db.Unsettled) {cmd : LedgerReserveCommand U}
    (htx : db.reserveTransfer env cmd = .ok (r, db')) :
    db'.Unsettled ∧ db.Balanced db' := by
  obtain ⟨currency, -, -, ⟨-, rfl⟩ | ⟨hnew, hr, hid, rfl⟩⟩ := reserveTransfer_ok htx
  · exact ⟨h, .refl _⟩
  · have hpid : r.paymentID = cmd.paymentID := by rw [hr]; rfl
    have hun : Unsettled { db with reservations := db.reservations ++ [r] } :=
      { h with
        keyed := h.keyed.append_reservation hid (by rwa [hpid])
        unconfirmed := by
          intro o ho
          rcases List.mem_concat_iff.mp ho with ho | rfl
          · exact h.unconfirmed o ho
          · rw [hr]
            intro hstatus
            cases hstatus
        fits := by
          intro o ho
          rcases List.mem_concat_iff.mp ho with ho | rfl
          · exact (h.fits o ho).of_wallets rfl
          · exact (reserveTransfer_fits htx hnew).of_wallets rfl }
    exact ⟨hun, .of_eq h hun rfl rfl rfl⟩

theorem cancelReservation_balanced (h : db.Unsettled) {cmd : LedgerCancelCommand U}
    {o : LedgerReservation U} (htx : db.cancelReservation env cmd = .ok (o, db')) :
    db'.Unsettled ∧ db.Balanced db' := by
  obtain ⟨r, -, -, ⟨-, -, rfl⟩ | ⟨-, -, rfl⟩⟩ := cancelReservation_ok htx
  · exact ⟨h, .refl _⟩
  · have hc := keepsPayload_cancelChange env cmd.reason
    have hun : (db.updateReservation r.id (cancelChange env cmd.reason)).Unsettled :=
      { h with
        keyed := h.keyed.updateReservation r.id hc
        unconfirmed := by
          intro o ho
          obtain ⟨o', ho', rfl⟩ := List.mem_map.mp ho
          split
          · intro hstatus
            cases hstatus
          · exact h.unconfirmed o' ho'
        fits := by
          intro o ho
          obtain ⟨o', ho', rfl⟩ := List.mem_map.mp ho
          have hfits : (db.updateReservation r.id (cancelChange env cmd.reason)).Fits o' :=
            (h.fits o' ho').of_wallets rfl
          split
          · exact { hfits with }
          · exact hfits }
    exact ⟨hun, .of_eq h hun rfl rfl rfl⟩

/-! ## The confirm -/

theorem insertTransfer_of_unused (db : Database U) (transfer : Transfer U)
    (hpos : 0 < transfer.amount) (hne : transfer.fromWalletID ≠ transfer.toWalletID)
    (hunused : ∀ t ∈ db.transfers, t.id ≠ transfer.id) :
    db.insertTransfer transfer = .ok { db with transfers := db.transfers ++ [transfer] } := by
  have hcheck : ¬ (transfer.amount ≤ 0 ∨ transfer.fromWalletID = transfer.toWalletID) :=
    not_or.mpr ⟨Int64.not_le.mpr hpos, hne⟩
  unfold insertTransfer
  rw [if_neg hcheck, if_neg]
  simpa using hunused

theorem insertLedgerEntry_of_unused (db : Database U) (entry : LedgerEntry U)
    (hpos : 0 < entry.amount)
    (hunused : ∀ e ∈ db.ledgerEntries, e.id ≠ entry.id ∧
      ¬ (e.transferID = entry.transferID ∧ e.direction = entry.direction)) :
    db.insertLedgerEntry entry =
      .ok { db with ledgerEntries := db.ledgerEntries ++ [entry] } := by
  unfold insertLedgerEntry
  rw [if_neg (Int64.not_le.mpr hpos), if_neg]
  rw [List.any_eq_true]
  rintro ⟨e, he, hclash⟩
  rcases of_decide_eq_true hclash with hid | hpair
  · exact (hunused e he).1 hid
  · exact (hunused e he).2 hpair

/-- A confirm of a reserved reservation that goes through settles it. -/
theorem confirmTransfer_settles {c : LedgerConfirmation U}
    (h : db.confirmTransfer env cmd = .ok (c, db')) (hr : db.reservation? cmd.paymentID = some r)
    (hs : r.status = .reserved) :
    db.Settles (.confirmTransfer env cmd) := by
  simp only [confirmTransfer, hr, Except.bind_eq_ok, Except.refuseIf_eq_ok,
    Except.ofOption_eq_ok, Option.some.injEq, not_or] at h
  obtain ⟨-, hargs, r', rfl, -, hid, h⟩ := h
  rw [hs] at h
  simp only [Except.bind_eq_ok, Except.refuseIf_eq_ok, Except.ofOption_eq_ok,
    Except.mapError_eq_ok] at h
  obtain ⟨source, -, target, -, -, -, db₁, h₁, db₂, h₂, db₃, h₃, -⟩ := h
  obtain ⟨-, -, hfresh, -⟩ := insertTransfer_ok h₁
  refine ⟨hargs, ⟨r, hr, Decidable.not_not.mp hid, hs⟩, hfresh, fun he => ?_⟩
  -- the second entry would have the primary key of the first
  obtain rfl := insertLedgerEntry_ok h₂
  simp only [insertLedgerEntry, confirmEntry, he] at h₃
  split at h₃
  · cases h₃
  · simp at h₃

/-- Nothing else than the settling confirm makes a confirm go through. -/
theorem confirmTransfer_rolled_back (h : db.Unsettled)
    (hs : ¬ db.Settles (.confirmTransfer env cmd)) :
    db.committed (db.confirmTransfer env cmd) = db := by
  rcases committed_cases db (db.confirmTransfer env cmd) with hdb | ⟨c, htx⟩
  · exact hdb
  · obtain ⟨r, hr, -, ⟨hc, -, -⟩ | ⟨hreserved, -⟩⟩ := confirmTransfer_ok htx
    · exact absurd hc (h.unconfirmed r (reservation?_some hr).1)
    · exact absurd (confirmTransfer_settles htx hr hreserved) hs

/-- The first settling confirm goes through. -/
theorem Unsettled.confirmTransfer_goes_through (h : db.Unsettled)
    (hs : db.Settles (.confirmTransfer env cmd)) :
    ∃ c db', db.confirmTransfer env cmd = .ok (c, db') := by
  obtain ⟨⟨hpid, hrid, hdid, hkey⟩, ⟨r, hr, hid, hreserved⟩, hfresh, hne⟩ := hs
  have hfits := h.fits r (reservation?_some hr).1
  obtain ⟨source, target, hsource, htarget, hcur, hcur'⟩ := hfits.wallets
  have hargs : ¬ (cmd.paymentID = UuidLib.nil ∨ cmd.ledgerReservationID = UuidLib.nil ∨
      cmd.walletDebitID = UuidLib.nil ∨ cmd.idempotencyKey = "") := by
    rintro (he | he | he | he)
    · exact hpid he
    · exact hrid he
    · exact hdid he
    · exact hkey he
  have hcurrency : ¬ (source.currency ≠ target.currency ∨ source.currency ≠ r.currency) :=
    not_or.mpr ⟨not_not_intro hcur, not_not_intro hcur'⟩
  have h₁ := db.insertTransfer_of_unused
    (newTransfer env r.fromWalletID r.toWalletID r.amountCents) hfits.positive hfits.distinct hfresh
  have h₂ := insertLedgerEntry_of_unused
    { db with transfers := db.transfers ++
        [newTransfer env r.fromWalletID r.toWalletID r.amountCents] }
    (confirmEntry env env.debitEntryID .debit source r.amountCents) hfits.positive
    (by simp [h.entries])
  have h₃ := insertLedgerEntry_of_unused
    { db with
      transfers := db.transfers ++ [newTransfer env r.fromWalletID r.toWalletID r.amountCents]
      ledgerEntries := db.ledgerEntries ++
        [confirmEntry env env.debitEntryID .debit source r.amountCents] }
    (confirmEntry env env.creditEntryID .credit target r.amountCents) hfits.positive
    (by simp [h.entries, confirmEntry, hne])
  refine ⟨ledgerConfirmationFromReservation
    (confirmReservation env env.transferID cmd.walletDebitID r), updateReservation { db with
      transfers := db.transfers ++ [newTransfer env r.fromWalletID r.toWalletID r.amountCents]
      ledgerEntries := db.ledgerEntries ++
        [confirmEntry env env.debitEntryID .debit source r.amountCents] ++
        [confirmEntry env env.creditEntryID .credit target r.amountCents] } r.id
    (confirmReservation env env.transferID cmd.walletDebitID), ?_⟩
  simp only [confirmTransfer, Except.bind_eq_ok, Except.refuseIf_eq_ok, Except.ofOption_eq_ok]
  refine ⟨(), hargs, r, hr, (), not_not_intro hid, ?_⟩
  rw [hreserved]
  simp only [Except.bind_eq_ok, Except.refuseIf_eq_ok, Except.ofOption_eq_ok,
    Except.mapError_eq_ok]
  exact ⟨source, hsource, target, htarget, (), hcurrency, _, h₁, _, h₂, _, h₃, rfl⟩

end Transactions

/-! ## Runs -/

theorem Balanced.trans {db₁ db₂ db₃ : Database U} (h : db₁.Balanced db₂) (h' : db₂.Balanced db₃) :
    db₁.Balanced db₃ :=
  ⟨fun walletID => (h'.account walletID).trans (h.account walletID), h'.total.trans h.total⟩

/-- A call that settles nothing keeps the accounts. -/
theorem Unsettled.apply (h : db.Unsettled) {cmd : Command U} (hs : ¬ db.Settles cmd) :
    (db.apply cmd).Unsettled ∧ db.Balanced (db.apply cmd) := by
  have hstep : ∀ {α : Type} {result : Except RepoErr (α × Database U)},
      (∀ {a db'}, result = .ok (a, db') → db'.Unsettled ∧ db.Balanced db') →
      (db.committed result).Unsettled ∧ db.Balanced (db.committed result) := by
    intro α result hok
    rcases committed_cases db result with hdb | ⟨a, hresult⟩
    · rw [hdb]
      exact ⟨h, .refl db⟩
    · exact hok hresult
  cases cmd with
  | createTransfer => exact hstep (createTransfer_balanced h)
  | debitForSaga => exact hstep (debitForSaga_balanced h)
  | compensateDebit => exact hstep (compensateDebit_balanced h)
  | reserveTransfer => exact hstep (reserveTransfer_balanced h)
  | cancelReservation => exact hstep (cancelReservation_balanced h)
  | confirmTransfer env cmd =>
    have hdb : db.apply (.confirmTransfer env cmd) = db := confirmTransfer_rolled_back h hs
    rw [hdb]
    exact ⟨h, .refl db⟩

/-- The tables before the first transaction: wallets only. -/
structure Fresh (db : Database U) : Prop where
  wallets : (db.wallets.map (·.id)).Nodup
  nonneg : ∀ wallet ∈ db.wallets, 0 ≤ wallet.balance
  operations : db.operations = []
  reservations : db.reservations = []
  transfers : db.transfers = []
  entries : db.ledgerEntries = []

variable {db₀ : Database U}

theorem Fresh.unsettled (h : db₀.Fresh) : db₀.Unsettled where
  keyed :=
    { wallets := h.wallets
      operations := by simp [h.operations]
      reservationIDs := by simp [h.reservations]
      reservations := by simp [h.reservations]
      transfers := by simp [h.transfers] }
  nonneg := h.nonneg
  positive := by simp [h.operations]
  paired := by simp [h.operations]
  unconfirmed := by simp [h.reservations]
  fits := by simp [h.reservations]
  entries := h.entries

theorem Fresh.due_eq_zero (h : db₀.Fresh) (walletID : U) :
    db₀.due walletID = 0 := by
  simp [due, received, sent, outstanding, h.transfers, h.operations]

theorem Balanced.reconciles (hb : db₀.Balanced db) (h : db₀.Fresh) (hk : db.Keyed) :
    db₀.Reconciles db := by
  refine ⟨fun wallet hw => ?_, hb.total⟩
  have haccount := hb.account wallet.id
  have hbalance : db.balance wallet.id = wallet.balance.toInt := by
    rw [balance, hk.wallet?_of_mem hw]
    rfl
  rw [h.due_eq_zero, hbalance] at haccount
  omega

/-- A confirm puts a transfer into the target's account, and no money into its wallet. -/
theorem Unsettled.due_lt_of_confirmTransfer (h : db.Unsettled) {env : TxEnv U}
    {c : LedgerConfirmation U} (htx : db.confirmTransfer env cmd = .ok (c, db')) :
    ∃ target ∈ db.wallets, target ∈ db'.wallets ∧ db.due target.id < db'.due target.id := by
  obtain ⟨r, hr, -, ⟨hc, -⟩ | ⟨-, source, target, -, htarget, hpos, hne, -, -, hdb⟩⟩ :=
    confirmTransfer_ok htx
  · exact absurd hc (h.unconfirmed r (reservation?_some hr).1)
  · obtain ⟨hmem, hid⟩ := wallet?_some htarget
    have htransfers : db'.transfers =
        db.transfers ++ [newTransfer env r.fromWalletID r.toWalletID r.amountCents] := by
      rw [hdb]
    have hreceived : db'.received target.id = db.received target.id + r.amountCents.toInt :=
      (received_append htransfers _).trans (congrArg (db.received _ + ·) (if_pos hid.symm))
    have hsent : db'.sent target.id = db.sent target.id + 0 :=
      (sent_append htransfers _).trans
        (congrArg (db.sent _ + ·) (if_neg fun he => hne (he.trans hid)))
    -- a confirmed reservation can only end debits
    have hout : db'.outstanding (· = target.id) ≤ db.outstanding (· = target.id) := by
      have hops : db'.operations = db.operations := by rw [hdb]; rfl
      unfold outstanding
      rw [hops]
      refine List.sumIf_le (fun op _ hop => ⟨⟨hop.1.1, ?_, h.not_confirmed _⟩, hop.2⟩) ?_
      · have hnone := hop.1.2.1
        rwa [operation?, hops] at hnone
      · intro op hop
        exact Int.le_of_lt (Int64.lt_iff_toInt_lt.mp (h.positive op hop))
    refine ⟨target, hmem, by rw [hdb]; exact hmem, ?_⟩
    rw [Int64.lt_iff_toInt_lt, Int64.toInt_zero] at hpos
    unfold due
    omega

theorem Unsettled.not_reconciles_of_settles (h : db.Unsettled) {cmd : Command U}
    (hr : db₀.Reconciles db) (hs : db.Settles cmd) : ¬ db₀.Reconciles (db.apply cmd) := by
  cases cmd with
  | confirmTransfer env cmd =>
    intro hr'
    obtain ⟨c, db', htx⟩ := h.confirmTransfer_goes_through hs
    have hdb : db.apply (.confirmTransfer env cmd) = db' := by
      show db.committed _ = db'
      rw [htx]
      rfl
    obtain ⟨target, hmem, hmem', hdue⟩ := h.due_lt_of_confirmTransfer htx
    rw [hdb] at hr'
    have hbefore := hr.1 target hmem
    have hafter := hr'.1 target hmem'
    omega
  | createTransfer => exact hs.elim
  | debitForSaga => exact hs.elim
  | compensateDebit => exact hs.elim
  | reserveTransfer => exact hs.elim
  | cancelReservation => exact hs.elim

/-- From a state that is reconciled and has settled nothing, a run stays reconciled exactly as
    long as it settles nothing. -/
theorem Unsettled.run_reconciles_iff (hfresh : db₀.Fresh) (cmds : List (Command U))
    (h : db.Unsettled) (hb : db₀.Balanced db) :
    (∀ n, db₀.Reconciles (db.applyAll (cmds.take n))) ↔
      ∀ n cmd, cmds[n]? = some cmd → ¬ (db.applyAll (cmds.take n)).Settles cmd := by
  induction cmds generalizing db with
  | nil =>
    constructor
    · intro _ n cmd hn
      cases hn
    · intro _ n
      rw [List.take_nil]
      exact hb.reconciles hfresh h.keyed
  | cons cmd cmds ih =>
    by_cases hs : db.Settles cmd
    · -- the first call is the one that breaks the books
      constructor
      · intro hall
        exact absurd (hall 1) (h.not_reconciles_of_settles (hb.reconciles hfresh h.keyed) hs)
      · intro hnone
        exact absurd hs (hnone 0 cmd rfl)
    · obtain ⟨h', hb'⟩ := h.apply hs
      have hrest := ih h' (hb.trans hb')
      constructor
      · intro hall n
        cases n with
        | zero =>
          rintro _ ⟨⟩
          exact hs
        | succ n => exact hrest.mp (fun m => hall (m + 1)) n
      · intro hnone n
        cases n with
        | zero => exact hb.reconciles hfresh h.keyed
        | succ n => exact hrest.mpr (fun m => hnone (m + 1)) n

/-- A run of the six transactions reconciles in every state exactly if no confirm in it settles
    a reservation. -/
theorem reconciles_iff_settles_nothing {db₀ : Database U} (hfresh : db₀.Fresh)
    (cmds : List (Command U)) :
    (∀ n, db₀.Reconciles (db₀.applyAll (cmds.take n))) ↔
      ∀ n cmd, cmds[n]? = some cmd → ¬ (db₀.applyAll (cmds.take n)).Settles cmd :=
  Unsettled.run_reconciles_iff hfresh cmds hfresh.unsettled (.refl db₀)

end Database

namespace Sample

open Database (Command)
open Orchestrator (stepKey)

/-- The transactions of a payment that completes, with the orchestrator's payloads. -/
def settlement : List (Command CanonicalUuid) :=
  [ .debitForSaga (choice 0).env
      { paymentID := paymentID, fromWalletID := payerWallet, amountCents := 300,
        currency := defaultCurrency, idempotencyKey := stepKey (text paymentID) "debit-wallet" },
    .reserveTransfer (choice 1).env
      { paymentID := paymentID, idempotencyKey := stepKey (text paymentID) "reserve-ledger",
        traceID := "trace-1", fromWalletID := payerWallet, toWalletID := payeeWallet,
        amountCents := 300, currency := defaultCurrency },
    .confirmTransfer (choice 2).env
      { paymentID := paymentID, idempotencyKey := stepKey (text paymentID) "confirm-ledger",
        traceID := "trace-1", ledgerReservationID := (choice 1).env.reservationID,
        walletDebitID := (choice 0).env.debitID } ]

theorem world_fresh : world.db.Fresh :=
  ⟨by decide +kernel, by decide +kernel, rfl, rfl, rfl, rfl⟩

/-- Up to the confirm the payment reconciles. -/
theorem reconciles_before_confirm : world.db.Fresh ∧
    ∀ n, world.db.Reconciles (world.db.applyAll ((settlement.take 2).take n)) := by
  refine ⟨world_fresh, (Database.reconciles_iff_settles_nothing world_fresh _).mpr ?_⟩
  intro n cmd hn
  match n with
  | 0 =>
    cases hn
    exact fun h => h
  | 1 =>
    cases hn
    exact fun h => h
  | n + 2 => cases hn

/-- After the confirm the ledger has a transfer into a wallet that is still empty. -/
theorem confirmed_payment_unreconciled :
    ¬ world.db.Reconciles (world.db.applyAll settlement) := by
  decide +kernel

end Sample

end EnjoyThings
