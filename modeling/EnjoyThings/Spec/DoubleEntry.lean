import EnjoyThings.Spec.WalletsExact

/-!
# Every booked transfer has two entries

Each transfer has either no ledger entry, or exactly one debit entry on its source wallet and
one credit entry on its target, both with its amount. `ConfirmTransfer` makes the transfer
with its entries. The entries of a transfer of `CreateTransfer` are appended by the ledger
consumer, which may be handed the event any number of times and concurrently: the pair is
written by one transaction, and a second one finds it.

## Key results

- `WalletCall.Step.doubleEntry`: one call
- `transfers_booked_twice_or_not`: every run
- `entries_record_balance`: the balance an entry is written with
-/

namespace EnjoyThings

open Effect

namespace Database

variable {U : Type} [UuidLib U] {db db' : Database U} {t : Transfer U}

/-! ## The entries of a transfer -/

/-- The entries of a transfer in one direction. -/
def entriesOf (db : Database U) (transferID : U) (direction : Direction) : List (LedgerEntry U) :=
  db.ledgerEntries.filter fun e => e.transferID = transferID ∧ e.direction = direction

/-- One debit entry on the source wallet and one credit entry on the target. -/
def Booked (db : Database U) (t : Transfer U) : Prop :=
  ∃ debit credit, db.entriesOf t.id .debit = [debit] ∧ db.entriesOf t.id .credit = [credit] ∧
    debit.walletID = t.fromWalletID ∧ credit.walletID = t.toWalletID ∧
    debit.amount = t.amount ∧ credit.amount = t.amount

/-- No entry at all. -/
def Unbooked (db : Database U) (t : Transfer U) : Prop :=
  ∀ e ∈ db.ledgerEntries, e.transferID ≠ t.id

structure DoubleEntry (db : Database U) : Prop where
  keyed : db.Keyed
  /-- An entry belongs to a transfer. -/
  owned : ∀ e ∈ db.ledgerEntries, ∃ t ∈ db.transfers, t.id = e.transferID
  booked : ∀ t ∈ db.transfers, db.Unbooked t ∨ db.Booked t

theorem entriesOf_append_pair {debit credit : LedgerEntry U}
    (h : db'.ledgerEntries = db.ledgerEntries ++ [debit] ++ [credit]) (transferID : U)
    (direction : Direction) :
    db'.entriesOf transferID direction = db.entriesOf transferID direction ++
      [debit, credit].filter fun e => e.transferID = transferID ∧ e.direction = direction := by
  rw [entriesOf, h, List.append_assoc, List.filter_append]
  rfl

theorem entriesOf_of_unbooked (h : db.Unbooked t) (direction : Direction) :
    db.entriesOf t.id direction = [] := by
  rw [entriesOf, List.filter_eq_nil_iff]
  intro e he hmatch
  exact h e he (of_decide_eq_true hmatch).1

/-- Entries that stay as they are. -/
theorem Booked.of_eq (h : db.Booked t) (hes : db'.ledgerEntries = db.ledgerEntries) :
    db'.Booked t := by
  unfold Booked entriesOf at h ⊢
  rwa [hes]

/-! ## A new pair of entries -/

/-- The two entries of a transfer that had none. -/
structure NewPair (db db' : Database U) (t : Transfer U) : Prop where
  unbooked : db.Unbooked t
  entries : ∃ debit credit, db'.ledgerEntries = db.ledgerEntries ++ [debit] ++ [credit] ∧
    (debit.transferID = t.id ∧ debit.direction = .debit ∧ debit.walletID = t.fromWalletID ∧
      debit.amount = t.amount) ∧
    (credit.transferID = t.id ∧ credit.direction = .credit ∧ credit.walletID = t.toWalletID ∧
      credit.amount = t.amount)

theorem NewPair.booked (h : db.NewPair db' t) : db'.Booked t := by
  obtain ⟨debit, credit, hes, hdebit, hcredit⟩ := h.entries
  refine ⟨debit, credit, ?_, ?_, hdebit.2.2.1, hcredit.2.2.1, hdebit.2.2.2, hcredit.2.2.2⟩ <;>
    rw [entriesOf_append_pair hes, entriesOf_of_unbooked h.unbooked] <;>
    simp [hdebit, hcredit]

/-- The entries of the other transfers stay. -/
theorem NewPair.other (h : db.NewPair db' t) {o : Transfer U} (hne : o.id ≠ t.id) :
    (db.Unbooked o → db'.Unbooked o) ∧ (db.Booked o → db'.Booked o) := by
  obtain ⟨debit, credit, hes, hdebit, hcredit⟩ := h.entries
  constructor
  · intro ho e he
    rw [hes] at he
    simp only [List.mem_append, List.mem_singleton] at he
    rcases he with (he | rfl) | rfl
    · exact ho e he
    · exact fun hid => hne (hid.symm.trans hdebit.1)
    · exact fun hid => hne (hid.symm.trans hcredit.1)
  · rintro ⟨d, c, hd, hc, hrest⟩
    refine ⟨d, c, ?_, ?_, hrest⟩ <;> rw [entriesOf_append_pair hes] <;>
      simp [*, Ne.symm hne]

theorem DoubleEntry.newPair (h : db.DoubleEntry) (hk : db'.Keyed) (hpair : db.NewPair db' t)
    (ht : t ∈ db'.transfers)
    (hts : ∀ o ∈ db'.transfers, o ∈ db.transfers ∨ o = t)
    (hsub : db.transfers ⊆ db'.transfers) : db'.DoubleEntry where
  keyed := hk
  owned e he := by
    obtain ⟨debit, credit, hes, hdebit, hcredit⟩ := hpair.entries
    rw [hes] at he
    simp only [List.mem_append, List.mem_singleton] at he
    rcases he with (he | rfl) | rfl
    · obtain ⟨o, ho, hid⟩ := h.owned e he
      exact ⟨o, hsub ho, hid⟩
    · exact ⟨t, ht, hdebit.1.symm⟩
    · exact ⟨t, ht, hcredit.1.symm⟩
  booked o ho := by
    by_cases hid : o.id = t.id
    · -- the ID is a key
      rw [List.inj_on_of_nodup_map hk.transfers ho ht hid]
      exact .inr hpair.booked
    · have hold : o ∈ db.transfers := (hts o ho).resolve_right fun he => hid (he ▸ rfl)
      exact (h.booked o hold).imp (hpair.other hid).1 (hpair.other hid).2

/-- A transfer with a new ID has no entries. -/
theorem DoubleEntry.unbooked_of_fresh (h : db.DoubleEntry)
    (hfresh : ∀ o ∈ db.transfers, o.id ≠ t.id) : db.Unbooked t := by
  intro e he hid
  obtain ⟨o, ho, hoid⟩ := h.owned e he
  exact hfresh o ho (hoid.trans hid)

/-- The same transfers and entries. -/
theorem DoubleEntry.of_eq (h : db.DoubleEntry) (hk : db'.Keyed)
    (hts : db'.transfers = db.transfers) (hes : db'.ledgerEntries = db.ledgerEntries) :
    db'.DoubleEntry where
  keyed := hk
  owned := by rw [hes, hts]; exact h.owned
  booked o ho := by
    rw [hts] at ho
    refine (h.booked o ho).imp (fun hu => ?_) fun hb => hb.of_eq hes
    unfold Unbooked
    rwa [hes]

/-- A new transfer, whose entries come later. -/
theorem DoubleEntry.newTransfer (h : db.DoubleEntry) (hk : db'.Keyed)
    (hfresh : ∀ o ∈ db.transfers, o.id ≠ t.id) (hts : db'.transfers = db.transfers ++ [t])
    (hes : db'.ledgerEntries = db.ledgerEntries) : db'.DoubleEntry where
  keyed := hk
  owned e he := by
    rw [hes] at he
    obtain ⟨o, ho, hid⟩ := h.owned e he
    exact ⟨o, hts ▸ List.mem_append_left _ ho, hid⟩
  booked o ho := by
    have hunbooked : ∀ o, db.Unbooked o → db'.Unbooked o := by
      intro o hu
      unfold Unbooked
      rwa [hes]
    rw [hts] at ho
    rcases List.mem_append.mp ho with ho | ho
    · exact (h.booked o ho).imp (hunbooked o) fun hb => hb.of_eq hes
    · rw [List.mem_singleton.mp ho]
      exact .inl (hunbooked t (h.unbooked_of_fresh hfresh))

/-! ## Published transfers -/

end Database

/-- The transfer an event is about. -/
structure LedgerTransfer.Of {U : Type} (transfer : LedgerTransfer U) (t : Transfer U) :
    Prop where
  id : t.id = transfer.transferID
  source : t.fromWalletID = transfer.fromWalletID
  target : t.toWalletID = transfer.toWalletID
  amount : t.amount = transfer.amountCents

namespace Database

variable {U : Type} [UuidLib U] {db db' : Database U} {t : Transfer U}
  {decoders : Decoders Payload}

/-- Every event in the outbox that the ledger consumer accepts is about a transfer. -/
def Published (decoders : Decoders Payload) (db : Database U) : Prop :=
  ∀ record ∈ db.outbox, ∀ transfer : LedgerTransfer U,
    LedgerConsumer.decodeTransfer decoders record.payload = .ok transfer →
      ∃ t ∈ db.transfers, transfer.Of t

/-- The consumer reads the transfer that `CreateTransfer` wrote. -/
theorem decodeTransfer_transferInitiated
    (hdecoders : ∀ event, decoders.transactionInitiated (.transactionInitiated event) = .ok event)
    {outboxTopic currency : String} {transfer : LedgerTransfer U}
    (h : LedgerConsumer.decodeTransfer decoders
      (transferInitiated outboxTopic t currency).payload = .ok transfer) : transfer.Of t := by
  simp only [LedgerConsumer.decodeTransfer, LedgerConsumer.parseRequiredUUID, transferInitiated,
    hdecoders, Except.bind_eq_ok, Except.mapError_eq_ok,
    Except.refuseIf_eq_ok, Except.ofOption_eq_ok] at h
  obtain ⟨event, hevent, transferID, hid, source, hsource, target, htarget, -, -, -, -, currency,
    -, -, -, h⟩ := h
  cases hevent
  rw [UuidLib.parse_text] at hid hsource htarget
  cases hid
  cases hsource
  cases htarget
  cases h
  exact ⟨rfl, rfl, rfl, rfl⟩

theorem Published.of_extends (h : db.Published decoders) (hts : db.transfers ⊆ db'.transfers)
    (hout : db'.outbox = db.outbox) : db'.Published decoders := by
  intro record hrecord transfer hdecode
  rw [hout] at hrecord
  obtain ⟨t, ht, hof⟩ := h record hrecord transfer hdecode
  exact ⟨t, hts ht, hof⟩

end Database

/-! ## One call -/

namespace WalletCall

variable {U : Type} [UuidLib U] {db db' : Database U} {outboxTopic : String} {env : TxEnv U}
  {decoders : Decoders Payload}

theorem Step.doubleEntry {call : WalletCall U} (h : call.Step outboxTopic env db db')
    (hd : db.DoubleEntry)
    (happend : ∀ transfer, call = .appendTransferEntries transfer →
      ∃ t ∈ db.transfers, transfer.Of t) : db'.DoubleEntry := by
  have hk' := (h.extends hd.keyed).1
  cases call with
  | createTransfer =>
    obtain ⟨r, h⟩ := h
    obtain ⟨-, -, source, target, -, -, -, -, -, -, -, hfresh, hr, rfl⟩ :=
      Database.createTransfer_ok h
    refine hd.newTransfer hk' (t := r.1) ?_ rfl rfl
    rw [hr]
    exact hfresh
  | debitForSaga =>
    obtain ⟨op, h⟩ := h
    rcases Database.debitForSaga_ok h with ⟨-, rfl⟩ | ⟨-, wallet, -, -, -, -, -, -, rfl⟩
    · exact hd
    · exact hd.of_eq hk' rfl rfl
  | compensateDebit =>
    obtain ⟨op, h⟩ := h
    rcases Database.compensateDebit_ok h with
      ⟨-, rfl⟩ | ⟨-, debit, wallet, -, -, -, -, -, -, rfl⟩
    · exact hd
    · exact hd.of_eq hk' rfl rfl
  | reserveTransfer =>
    obtain ⟨r, h⟩ := h
    obtain ⟨currency, -, -, ⟨-, rfl⟩ | ⟨-, -, -, rfl⟩⟩ := Database.reserveTransfer_ok h
    · exact hd
    · exact hd.of_eq hk' rfl rfl
  | confirmTransfer cmd =>
    obtain ⟨c, h⟩ := h
    obtain ⟨r, hr, -, ⟨-, -, rfl⟩ | ⟨hs, source, target, hsource, htarget, -, -, hfresh, -, rfl⟩⟩ :=
      Database.confirmTransfer_ok h
    · exact hd
    · refine hd.newPair (t := Database.newTransfer env r.fromWalletID r.toWalletID r.amountCents)
        hk' ⟨hd.unbooked_of_fresh hfresh, _, _, rfl, ?_, ?_⟩ ?_ ?_ (List.subset_append_left _ _)
      · exact ⟨rfl, rfl, (Database.wallet?_some hsource).2, rfl⟩
      · exact ⟨rfl, rfl, (Database.wallet?_some htarget).2, rfl⟩
      · exact List.mem_append_right _ List.mem_cons_self
      · simp
  | cancelReservation cmd =>
    obtain ⟨o, h⟩ := h
    obtain ⟨r, hr, -, ⟨-, -, rfl⟩ | ⟨hs, -, rfl⟩⟩ := Database.cancelReservation_ok h
    · exact hd
    · exact hd.of_eq hk' rfl rfl
  | appendTransferEntries transfer =>
    rcases Database.appendTransferEntries_ok h with
      rfl | ⟨hnew, source, target, hsource, htarget, rfl⟩
    · exact hd
    · obtain ⟨t, ht, hof⟩ := happend transfer rfl
      have hunbooked : db.Unbooked t := by
        intro e he hid
        rw [Database.transferProcessed, List.any_eq_false] at hnew
        exact hnew e he (decide_eq_true (hid.trans hof.id))
      refine hd.newPair (t := t) hk' ⟨hunbooked, _, _, rfl, ?_, ?_⟩ ht (fun o ho => .inl ho)
        fun _ ho => ho
      · exact ⟨hof.id.symm, rfl, (Database.wallet?_some hsource).2.trans hof.source.symm,
          hof.amount.symm⟩
      · exact ⟨hof.id.symm, rfl, (Database.wallet?_some htarget).2.trans hof.target.symm,
          hof.amount.symm⟩
  | handleRecord => exact h.elim

theorem Step.published {call : WalletCall U} (h : call.Step outboxTopic env db db')
    (hdecoders : ∀ event, decoders.transactionInitiated (.transactionInitiated event) = .ok event)
    (hk : db.Keyed) (hp : db.Published decoders) : db'.Published decoders := by
  have hts := (h.extends hk).2.transfers.subset
  cases call with
  | createTransfer =>
    obtain ⟨r, h⟩ := h
    obtain ⟨-, -, source, target, -, -, -, -, -, -, -, -, -, rfl⟩ := Database.createTransfer_ok h
    intro record hrecord transfer hdecode
    rcases List.mem_concat_iff.mp hrecord with hrecord | rfl
    · obtain ⟨t, ht, hof⟩ := hp record hrecord transfer hdecode
      exact ⟨t, hts ht, hof⟩
    · exact ⟨r.1, List.mem_append_right _ List.mem_cons_self,
        Database.decodeTransfer_transferInitiated hdecoders hdecode⟩
  | debitForSaga =>
    obtain ⟨op, h⟩ := h
    rcases Database.debitForSaga_ok h with ⟨-, rfl⟩ | ⟨-, wallet, -, -, -, -, -, -, rfl⟩ <;>
      exact hp
  | compensateDebit =>
    obtain ⟨op, h⟩ := h
    rcases Database.compensateDebit_ok h with
      ⟨-, rfl⟩ | ⟨-, debit, wallet, -, -, -, -, -, -, rfl⟩ <;> exact hp
  | reserveTransfer =>
    obtain ⟨r, h⟩ := h
    obtain ⟨currency, -, -, ⟨-, rfl⟩ | ⟨-, -, -, rfl⟩⟩ := Database.reserveTransfer_ok h <;>
      exact hp
  | confirmTransfer cmd =>
    obtain ⟨c, h⟩ := h
    obtain ⟨r, hr, -, ⟨-, -, rfl⟩ | ⟨hs, source, target, -, -, -, -, -, -, rfl⟩⟩ :=
      Database.confirmTransfer_ok h
    · exact hp
    · exact hp.of_extends hts rfl
  | cancelReservation cmd =>
    obtain ⟨o, h⟩ := h
    obtain ⟨r, hr, -, ⟨-, -, rfl⟩ | ⟨hs, -, rfl⟩⟩ := Database.cancelReservation_ok h <;> exact hp
  | appendTransferEntries transfer =>
    rcases Database.appendTransferEntries_ok h with rfl | ⟨-, source, target, -, -, rfl⟩ <;>
      exact hp
  | handleRecord => exact h.elim

end WalletCall

/-! ## Runs -/

/-- Any number of calls, and of records of the outbox handed to the ledger consumer, in any
    interleaving of their statements and with statements, commits and connections that fail. -/
theorem transfers_booked_twice_or_not {U P : Type} [UuidLib U] [DecidableEq P]
    (outboxTopic : String) (decoders : Decoders Payload)
    (hdecoders : ∀ event, decoders.transactionInitiated (.transactionInitiated event) = .ok event)
    (db₀ : Database U) (hd₀ : db₀.DoubleEntry) (hp₀ : db₀.Published decoders)
    (acts : List (WalletAct P U))
    (hcalls : ∀ p transfer, .deliver p (.appendTransferEntries transfer) ∉ acts) :
    (∀ t ∈ (walletRun outboxTopic decoders db₀ acts).world.committed.transfers,
      (walletRun outboxTopic decoders db₀ acts).world.committed.Unbooked t ∨
        (walletRun outboxTopic decoders db₀ acts).world.committed.Booked t) ∧
    ∀ a ∈ (walletRun outboxTopic decoders db₀ acts).world.answers, ∀ transfer reply,
      a.call = .appendTransferEntries transfer → a.result = .ok reply →
        ∃ t ∈ (walletRun outboxTopic decoders db₀ acts).world.committed.transfers,
          transfer.transferID = t.id ∧
            (walletRun outboxTopic decoders db₀ acts).world.committed.Booked t := by
  have hreq : ∀ p call, .deliver p call ∈ acts → ∀ transfer,
      call ≠ .appendTransferEntries transfer :=
    fun p call hmem transfer hcall => hcalls p transfer (hcall ▸ hmem)
  have hinv := walletRun_serial outboxTopic decoders acts hd₀.keyed hreq
  have hboth := hinv.serial.inv (I := fun db => db.DoubleEntry ∧ db.Published decoders)
    ⟨hd₀, hp₀⟩ ?_
  · obtain ⟨hd, -⟩ := hboth
    refine ⟨hd.booked, fun a ha transfer reply hcall hok => ?_⟩
    have hreplied := (hinv.attested a ha).replied reply hok
    rw [hcall] at hreplied
    -- some entry of the transfer is there, so it is booked
    obtain ⟨e, he, hid⟩ := List.any_eq_true.mp hreplied
    obtain ⟨t, ht, htid⟩ := hd.owned e he
    have htransfer : transfer.transferID = t.id := (of_decide_eq_true hid).symm.trans htid.symm
    refine ⟨t, ht, htransfer, (hd.booked t ht).resolve_left fun hu => ?_⟩
    exact hu e he htid.symm
  · intro call env db db' hcommit hdb
    refine ⟨hcommit.step.doubleEntry hdb.1 fun transfer hcall => ?_,
      hcommit.step.published hdecoders hdb.1.keyed hdb.2⟩
    -- the only events that are appended are those of the outbox
    rcases hcommit.requested with hreq | ⟨offset, transfer', -, hcall', record, hmem, hdecode⟩
    · exact absurd hcall (hreq transfer)
    · cases hcall.symm.trans hcall'
      exact hdb.2 record hmem transfer hdecode

namespace Sample

/-- A transfer whose event is handed to two consumers at the same time. -/
def transferAndAppend : List (WalletAct Bool CanonicalUuid) :=
  [.deliver true (.createTransfer payer payerWallet payeeWallet 200)] ++ walletSteps true 0 12 ++
    [.deliver true (.handleRecord 0), .deliver false (.handleRecord 0)] ++
    walletSteps true 12 3 ++ walletSteps false 15 3 ++ walletSteps true 18 9 ++
    walletSteps false 27 9

theorem world_doubleEntry : world.db.DoubleEntry where
  keyed := world_accounted.keyed
  owned := by simp [world]
  booked := by simp [world]

/-- One of the two consumers appends the entries, and both return without an error. -/
theorem transferAndAppend_booked :
    (walletRun "" walletDecoders world.db transferAndAppend).world.answers.map
        (fun a => a.result.isOk) = [true, true, true] ∧
    (∀ t ∈ (walletRun "" walletDecoders world.db transferAndAppend).world.committed.transfers,
      (walletRun "" walletDecoders world.db transferAndAppend).world.committed.Unbooked t ∨
        (walletRun "" walletDecoders world.db transferAndAppend).world.committed.Booked t) ∧
    ∀ a ∈ (walletRun "" walletDecoders world.db transferAndAppend).world.answers,
      ∀ transfer reply, a.call = .appendTransferEntries transfer → a.result = .ok reply →
        ∃ t ∈ (walletRun "" walletDecoders world.db transferAndAppend).world.committed.transfers,
          transfer.transferID = t.id ∧
            (walletRun "" walletDecoders world.db transferAndAppend).world.committed.Booked t := by
  refine ⟨by decide +kernel, transfers_booked_twice_or_not "" walletDecoders (fun _ => rfl) world.db
    world_doubleEntry (by simp [Database.Published, world]) transferAndAppend fun p transfer => ?_⟩
  simp [transferAndAppend, walletSteps]

end Sample

/-! ## The balance of an entry

The event of a transfer does not carry the balances it led to. An entry is written with the
balance its wallet has at that moment, which other transfers may have changed since. -/

section Balances

variable {U : Type} [UuidLib U] {db db' : Database U}

def Database.balance? (db : Database U) (walletID : U) : Option Int64 :=
  (db.wallet? walletID).map Wallet.balance

/-- The entries of `db'` that `db` does not have are written with the balances of `db`, and no
    wallet is changed with them. -/
def Database.RecordsBalances (db db' : Database U) : Prop :=
  ∀ e ∈ db'.ledgerEntries, e ∉ db.ledgerEntries →
    db'.wallets = db.wallets ∧ db.balance? e.walletID = some e.balanceAfter

theorem Database.RecordsBalances.of_eq (hes : db'.ledgerEntries = db.ledgerEntries) :
    db.RecordsBalances db' := by
  intro e he hnew
  rw [hes] at he
  exact absurd he hnew

/-- Two entries for two wallets, as `AppendTransferEntries` and `ConfirmTransfer` write them. -/
theorem Database.RecordsBalances.pair {debit credit : LedgerEntry U} {source target : Wallet U}
    {fromWalletID toWalletID : U}
    (hes : db'.ledgerEntries = db.ledgerEntries ++ [debit] ++ [credit])
    (hwallets : db'.wallets = db.wallets) (hsource : db.wallet? fromWalletID = some source)
    (htarget : db.wallet? toWalletID = some target)
    (hdebit : debit.walletID = source.id) (hdebit' : debit.balanceAfter = source.balance)
    (hcredit : credit.walletID = target.id) (hcredit' : credit.balanceAfter = target.balance) :
    db.RecordsBalances db' := by
  intro e he hnew
  refine ⟨hwallets, ?_⟩
  rw [hes] at he
  simp only [List.mem_append, List.mem_singleton] at he
  rcases he with (he | rfl) | rfl
  · exact absurd he hnew
  · rw [hdebit, hdebit', (wallet?_some hsource).2, balance?, hsource]
    rfl
  · rw [hcredit, hcredit', (wallet?_some htarget).2, balance?, htarget]
    rfl

theorem WalletCall.Step.recordsBalances {outboxTopic : String} {env : TxEnv U}
    {call : WalletCall U} (h : call.Step outboxTopic env db db') : db.RecordsBalances db' := by
  cases call with
  | createTransfer =>
    obtain ⟨r, h⟩ := h
    obtain ⟨-, -, source, target, -, -, -, -, -, -, -, -, -, rfl⟩ := Database.createTransfer_ok h
    exact .of_eq rfl
  | debitForSaga =>
    obtain ⟨op, h⟩ := h
    rcases Database.debitForSaga_ok h with ⟨-, rfl⟩ | ⟨-, wallet, -, -, -, -, -, -, rfl⟩ <;>
      exact .of_eq rfl
  | compensateDebit =>
    obtain ⟨op, h⟩ := h
    rcases Database.compensateDebit_ok h with
      ⟨-, rfl⟩ | ⟨-, debit, wallet, -, -, -, -, -, -, rfl⟩ <;> exact .of_eq rfl
  | reserveTransfer =>
    obtain ⟨r, h⟩ := h
    obtain ⟨currency, -, -, ⟨-, rfl⟩ | ⟨-, -, -, rfl⟩⟩ := Database.reserveTransfer_ok h <;>
      exact .of_eq rfl
  | confirmTransfer cmd =>
    obtain ⟨c, h⟩ := h
    obtain ⟨r, -, -, ⟨-, -, rfl⟩ | ⟨-, source, target, hsource, htarget, -, -, -, -, rfl⟩⟩ :=
      Database.confirmTransfer_ok h
    · exact .of_eq rfl
    · exact .pair rfl rfl hsource htarget rfl rfl rfl rfl
  | cancelReservation cmd =>
    obtain ⟨o, h⟩ := h
    obtain ⟨r, -, -, ⟨-, -, rfl⟩ | ⟨-, -, rfl⟩⟩ := Database.cancelReservation_ok h <;>
      exact .of_eq rfl
  | appendTransferEntries transfer =>
    rcases Database.appendTransferEntries_ok h with
      rfl | ⟨-, source, target, hsource, htarget, rfl⟩
    · exact .of_eq rfl
    · exact .pair rfl rfl hsource htarget rfl rfl rfl rfl
  | handleRecord => exact h.elim

/-- The tables between the commits of a run, whatever is called and consumed, in any order and
    with any delay: an entry has the balance its wallet has when the entry is committed. That is
    the balance after an earlier transaction, such as the one that made the entry's transfer, if no
    transaction between the two changed it. -/
theorem entries_record_balance {P : Type} [DecidableEq P] (outboxTopic : String)
    (decoders : Decoders Payload) (db₀ : Database U) (hkeyed : db₀.Keyed)
    (acts : List (WalletAct P U)) :
    let world := (walletRun outboxTopic decoders db₀ acts).world
    ∃ dbs : Nat → Database U, dbs 0 = db₀ ∧ dbs world.log.length = world.committed ∧
      (∀ k (call : WalletCall U) env, world.log[k]? = some (call, env) →
        call.Step outboxTopic env (dbs k) (dbs (k + 1))) ∧
      ∀ k < world.log.length, ∀ e ∈ (dbs (k + 1)).ledgerEntries, e ∉ (dbs k).ledgerEntries →
        (dbs (k + 1)).balance? e.walletID = some e.balanceAfter ∧
        ∀ i ≤ k, (∀ j, i < j → j < k →
            (dbs (j + 1)).balance? e.walletID = (dbs j).balance? e.walletID) →
          (dbs (i + 1)).balance? e.walletID = some e.balanceAfter := by
  intro world
  have hinv := walletRun_serial outboxTopic decoders acts hkeyed
    fun p call (_ : .deliver p call ∈ acts) => trivial
  obtain ⟨dbs, hfirst, hlast, hcommits⟩ := hinv.serial.states
  refine ⟨dbs, hfirst, hlast, fun k call env hk => (hcommits k call env hk).step, ?_⟩
  intro k hk e he hnew
  obtain ⟨hwallets, hbalance⟩ :=
    (hcommits k _ _ (List.getElem?_eq_getElem hk)).step.recordsBalances e he hnew
  have hafter : (dbs (k + 1)).balance? e.walletID = (dbs k).balance? e.walletID := by
    rw [Database.balance?, Database.wallet?, hwallets]
    rfl
  refine ⟨hafter.trans hbalance, fun i hi hsame => ?_⟩
  -- back from the entry to the transaction after which nothing changed the balance
  have hback : ∀ n, i + 1 + n ≤ k →
      (dbs (i + 1 + n)).balance? e.walletID = (dbs (i + 1)).balance? e.walletID := by
    intro n
    induction n with
    | zero => exact fun _ => rfl
    | succ n ih =>
      exact fun hn => (hsame (i + 1 + n) (by omega) (by omega)).trans (ih (by omega))
  rcases Nat.lt_or_eq_of_le hi with hlt | rfl
  · have hlast := hback (k - (i + 1)) (by omega)
    rw [Nat.add_sub_cancel' hlt] at hlast
    exact hlast.symm.trans hbalance
  · exact hafter.trans hbalance

end Balances

namespace Sample

/-- A transfer and its entries: they have the balances it led to. -/
theorem transferAndAppend_balances : world.db.Keyed ∧
    (walletRun "" walletDecoders world.db transferAndAppend).world.log.length = 2 ∧
    ∃ dbs : Nat → Database CanonicalUuid, dbs 0 = world.db ∧
      dbs 2 = (walletRun "" walletDecoders world.db transferAndAppend).world.committed ∧
      ∀ e ∈ (dbs 2).ledgerEntries, e ∉ (dbs 1).ledgerEntries →
        (dbs 1).balance? e.walletID = some e.balanceAfter := by
  have hlog : (walletRun "" walletDecoders world.db transferAndAppend).world.log.length = 2 := by
    decide +kernel
  obtain ⟨dbs, hfirst, hlast, -, hentries⟩ := entries_record_balance "" walletDecoders world.db
    world_accounted.keyed transferAndAppend
  rw [hlog] at hlast hentries
  refine ⟨world_accounted.keyed, hlog, dbs, hfirst, hlast, fun e he hnew => ?_⟩
  exact (hentries 1 (by omega) e he hnew).2 0 (by omega) fun j h h' => by omega

/-- A transfer of 200. -/
def firstTransfer : List (WalletAct Bool CanonicalUuid) :=
  [.deliver true (.createTransfer payer payerWallet payeeWallet 200)] ++ walletSteps true 0 12

/-- A second transfer of 100, and only then the event of the first one is consumed. -/
def secondTransfer : List (WalletAct Bool CanonicalUuid) :=
  [.deliver true (.createTransfer payer payerWallet payeeWallet 100)] ++ walletSteps true 12 12 ++
    [.deliver true (.handleRecord 0)] ++ walletSteps true 24 12

/-- The first transfer left the wallets with 800 and 200, and its entries say 700 and 300. -/
theorem delayed_entries_differ :
    (walletRun "" walletDecoders world.db firstTransfer).world.committed.wallets.map
        (·.balance) = [800, 200] ∧
    (walletRun "" walletDecoders world.db
        (firstTransfer ++ secondTransfer)).world.committed.ledgerEntries.map
          (fun e => (some e.transferID, e.balanceAfter)) =
      [((walletRun "" walletDecoders world.db
          firstTransfer).world.committed.transfers.head?.map (·.id), 700),
        ((walletRun "" walletDecoders world.db
          firstTransfer).world.committed.transfers.head?.map (·.id), 300)] := by
  decide +kernel

end Sample

end EnjoyThings
