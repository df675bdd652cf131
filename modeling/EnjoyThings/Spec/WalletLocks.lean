import EnjoyThings.ForStd.Serializable
import EnjoyThings.Services.WalletSessions
import EnjoyThings.Spec.WalletsCorrect

/-!
# What the locks of the wallet and ledger services protect

The lock on a wallet or a reservation protects the row, and the entry of an uncommitted row
in a unique index keeps its keys free of other rows. Every statement writes only under the
locks it takes. With the transactions as single steps (`WalletCall.Commits`) and with what
an answer attests, this is the protocol the programs of `wallets.go` are checked against.

## Key results

- `insertOperation_iff`, ...: an insertion goes through if its index keys are free
- `WalletCall.Commits.evolves`: a committed call only adds to the tables
- `walletProtocol`: the protocol
-/

namespace EnjoyThings

open Effect

variable {U : Type}

/-! ## Index keys -/

variable {id paymentID : U}

namespace Database

variable {db db' : Database U} {key : LockKey U}

theorem mem_indexKeys : key ∈ db.indexKeys ↔
    (∃ op ∈ db.operations, key ∈ op.indexKeys) ∨ (∃ r ∈ db.reservations, key ∈ r.indexKeys) ∨
      (∃ t ∈ db.transfers, key ∈ t.indexKeys) ∨ ∃ e ∈ db.ledgerEntries, key ∈ e.indexKeys := by
  simp only [indexKeys, List.mem_append, List.mem_flatMap, or_assoc]

/-- The keys of all tables, each as a row of its own table has it. -/
theorem mem_indexKeys_iff_row : key ∈ db.indexKeys ↔
    (∃ op ∈ db.operations, key = .operationID op.id ∨
      key = .newOperation op.paymentID op.operation ∨
      key = .newOperationKey op.idempotencyKey op.operation) ∨
    (∃ r ∈ db.reservations, key = .reservationID r.id ∨ key = .newReservation r.paymentID) ∨
    (∃ t ∈ db.transfers, key = .transferID t.id) ∨
    ∃ e ∈ db.ledgerEntries, key = .entryID e.id ∨ key = .newEntry e.transferID e.direction := by
  simp only [mem_indexKeys, SagaWalletOperation.indexKeys, LedgerReservation.indexKeys,
    Transfer.indexKeys, LedgerEntry.indexKeys, List.mem_cons, List.not_mem_nil, or_false]

@[simp] theorem operationID_mem :
    .operationID id ∈ db.indexKeys ↔ ∃ op ∈ db.operations, op.id = id := by
  simp [mem_indexKeys_iff_row, eq_comm]

variable {kind : OperationKind}

@[simp] theorem newOperation_mem :
    .newOperation paymentID kind ∈ db.indexKeys ↔
      ∃ op ∈ db.operations, op.paymentID = paymentID ∧ op.operation = kind := by
  simp [mem_indexKeys_iff_row, eq_comm]

@[simp] theorem newOperationKey_mem {idempotencyKey : String} :
    .newOperationKey idempotencyKey kind ∈ db.indexKeys ↔
      ∃ op ∈ db.operations, op.idempotencyKey = idempotencyKey ∧ op.operation = kind := by
  simp [mem_indexKeys_iff_row, eq_comm]

@[simp] theorem reservationID_mem :
    .reservationID id ∈ db.indexKeys ↔ ∃ r ∈ db.reservations, r.id = id := by
  simp [mem_indexKeys_iff_row, eq_comm]

@[simp] theorem newReservation_mem :
    .newReservation paymentID ∈ db.indexKeys ↔ ∃ r ∈ db.reservations, r.paymentID = paymentID := by
  simp [mem_indexKeys_iff_row, eq_comm]

@[simp] theorem transferID_mem :
    .transferID id ∈ db.indexKeys ↔ ∃ t ∈ db.transfers, t.id = id := by
  simp [mem_indexKeys_iff_row, eq_comm]

@[simp] theorem entryID_mem :
    .entryID id ∈ db.indexKeys ↔ ∃ e ∈ db.ledgerEntries, e.id = id := by
  simp [mem_indexKeys_iff_row, eq_comm]

@[simp] theorem newEntry_mem {transferID : U} {direction : Direction} :
    .newEntry transferID direction ∈ db.indexKeys ↔
      ∃ e ∈ db.ledgerEntries, e.transferID = transferID ∧ e.direction = direction := by
  simp [mem_indexKeys_iff_row, eq_comm]

/-- More rows, more keys. -/
theorem indexKeys_subset (hops : db.operations ⊆ db'.operations)
    (hrs : db.reservations ⊆ db'.reservations) (hts : db.transfers ⊆ db'.transfers)
    (hes : db.ledgerEntries ⊆ db'.ledgerEntries) : db.indexKeys ⊆ db'.indexKeys := by
  intro key hkey
  rw [mem_indexKeys] at hkey ⊢
  rcases hkey with ⟨op, hop, h⟩ | ⟨r, hr, h⟩ | ⟨t, ht, h⟩ | ⟨e, he, h⟩
  · exact .inl ⟨op, hops hop, h⟩
  · exact .inr (.inl ⟨r, hrs hr, h⟩)
  · exact .inr (.inr (.inl ⟨t, hts ht, h⟩))
  · exact .inr (.inr (.inr ⟨e, hes he, h⟩))

variable {e : LedgerEntry U}

theorem mem_indexKeys_append_entry :
    key ∈ ({ db with ledgerEntries := db.ledgerEntries ++ [e] } : Database U).indexKeys ↔
      key ∈ db.indexKeys ∨ key ∈ e.indexKeys := by
  simp only [indexKeys, List.flatMap_append, List.flatMap_singleton, List.mem_append]
  tauto

variable {t : Transfer U}

theorem mem_indexKeys_append_transfer :
    key ∈ ({ db with transfers := db.transfers ++ [t] } : Database U).indexKeys ↔
      key ∈ db.indexKeys ∨ key ∈ t.indexKeys := by
  simp only [indexKeys, List.flatMap_append, List.flatMap_singleton, List.mem_append]
  tauto

/-- The keys of an entry and of a transfer are different ones. -/
theorem entry_notMem_append_transfer (h : ∀ key ∈ e.indexKeys, key ∉ db.indexKeys) :
    ∀ key ∈ e.indexKeys,
      key ∉ ({ db with transfers := db.transfers ++ [t] } : Database U).indexKeys := by
  intro key hkey hmem
  rcases mem_indexKeys_append_transfer.mp hmem with hmem | hmem
  · exact h key hkey hmem
  · simp only [LedgerEntry.indexKeys, Transfer.indexKeys, List.mem_cons, List.not_mem_nil,
      or_false] at hkey hmem
    grind

variable [UuidLib U]

theorem operation?_of_free (h : .newOperation paymentID kind ∉ db.indexKeys) :
    db.operation? paymentID kind = none := by
  rw [operation?_eq_none]
  intro op hop hkind hpayment
  exact h (newOperation_mem.mpr ⟨op, hop, hpayment, hkind⟩)

theorem reservation?_of_free (h : .newReservation paymentID ∉ db.indexKeys) :
    db.reservation? paymentID = none := by
  rw [reservation?_eq_none]
  intro r hr hpayment
  exact h (newReservation_mem.mpr ⟨r, hr, hpayment⟩)

/-- There are two directions, so a transfer without either entry is unprocessed. -/
theorem transferProcessed_of_free {transferID : U}
    (h : ∀ direction, .newEntry transferID direction ∉ db.indexKeys) :
    db.transferProcessed transferID = false := by
  rw [transferProcessed, List.any_eq_false]
  intro e he hid
  exact h e.direction (newEntry_mem.mpr ⟨e, he, of_decide_eq_true hid, rfl⟩)

theorem updateWalletBalance_iff {balance : Int64} {now : Time} :
    db.updateWalletBalance id balance now = .ok (db.setBalance id balance now) ↔ 0 ≤ balance := by
  rw [updateWalletBalance, ← Int64.not_lt]
  split <;> simp [*]

theorem insertOperation_iff {op : SagaWalletOperation U} :
    db.insertOperation op = .ok { db with operations := db.operations ++ [op] } ↔
      0 < op.amountCents ∧ ∀ key ∈ op.indexKeys, key ∉ db.indexKeys := by
  simp only [insertOperation, SagaWalletOperation.indexKeys, List.forall_mem_cons, operationID_mem,
    newOperation_mem, newOperationKey_mem, ← Int64.not_le]
  split
  · simp [*]
  · split <;> rename_i hany <;> simp only [List.any_eq_true, decide_eq_true_eq] at hany <;> grind

variable {r : LedgerReservation U}

theorem insertReservation_iff :
    db.insertReservation r = .ok { db with reservations := db.reservations ++ [r] } ↔
      (0 < r.amountCents ∧ r.fromWalletID ≠ r.toWalletID) ∧
        ∀ key ∈ r.indexKeys, key ∉ db.indexKeys := by
  simp only [insertReservation, LedgerReservation.indexKeys, List.forall_mem_cons,
    reservationID_mem, newReservation_mem, ← Int64.not_le]
  split
  · rename_i hcheck
    simp only [reduceCtorEq, false_iff]
    tauto
  · split <;> rename_i hany <;> simp only [List.any_eq_true, decide_eq_true_eq] at hany <;> grind

theorem insertTransfer_iff :
    db.insertTransfer t = .ok { db with transfers := db.transfers ++ [t] } ↔
      (0 < t.amount ∧ t.fromWalletID ≠ t.toWalletID) ∧
        ∀ key ∈ t.indexKeys, key ∉ db.indexKeys := by
  simp only [insertTransfer, Transfer.indexKeys, List.forall_mem_cons, transferID_mem,
    ← Int64.not_le]
  split
  · rename_i hcheck
    simp only [reduceCtorEq, false_iff]
    tauto
  · split <;> rename_i hany <;> simp only [List.any_eq_true, decide_eq_true_eq] at hany <;> grind

theorem insertLedgerEntry_iff :
    db.insertLedgerEntry e = .ok { db with ledgerEntries := db.ledgerEntries ++ [e] } ↔
      0 < e.amount ∧ ∀ key ∈ e.indexKeys, key ∉ db.indexKeys := by
  simp only [insertLedgerEntry, LedgerEntry.indexKeys, List.forall_mem_cons, entryID_mem,
    newEntry_mem, ← Int64.not_le]
  split
  · simp [*]
  · split <;> rename_i hany <;> simp only [List.any_eq_true, decide_eq_true_eq] at hany <;> grind

/-- The second entry of a transaction, with another ID and the other direction. -/
theorem insertLedgerEntry_second {e' : LedgerEntry U} (hid : e.id ≠ e'.id)
    (hdirection : e.direction ≠ e'.direction) (hpos : 0 < e'.amount)
    (hfree : ∀ key ∈ e'.indexKeys, key ∉ db.indexKeys) :
    insertLedgerEntry { db with ledgerEntries := db.ledgerEntries ++ [e] } e' =
      .ok { db with ledgerEntries := db.ledgerEntries ++ [e] ++ [e'] } := by
  refine insertLedgerEntry_iff.mpr ⟨hpos, fun key hkey hmem => ?_⟩
  rcases mem_indexKeys_append_entry.mp hmem with hmem | hmem
  · exact hfree key hkey hmem
  · simp only [LedgerEntry.indexKeys, List.mem_cons, List.not_mem_nil, or_false] at hkey hmem
    grind

theorem insertLedgerEntry_unique (h : db.insertLedgerEntry e = .error .uniqueViolation) :
    ∃ o ∈ db.ledgerEntries, o.id = e.id ∨ o.transferID = e.transferID ∧
      o.direction = e.direction := by
  simp only [insertLedgerEntry] at h
  split at h
  · cases h
  · split at h
    · rename_i hany
      simpa using hany
    · cases h

/-! ## How the tables evolve -/

/-- Rows are only added, and a reservation is only confirmed or canceled. -/
structure Extends (db db' : Database U) : Prop extends Grows db db' where
  idempotencyKey : ∀ {paymentID r r'}, db.reservation? paymentID = some r →
    db'.reservation? paymentID = some r' → r'.idempotencyKey = r.idempotencyKey
  operations : db.operations <+: db'.operations
  transfers : db.transfers <+: db'.transfers
  ledgerEntries : db.ledgerEntries <+: db'.ledgerEntries
  outbox : db.outbox <+: db'.outbox

theorem Extends.refl (db : Database U) : db.Extends db where
  toGrows := .refl db
  idempotencyKey h h' := by rw [Option.some.inj (h.symm.trans h')]
  operations := List.prefix_rfl
  transfers := List.prefix_rfl
  ledgerEntries := List.prefix_rfl
  outbox := List.prefix_rfl

theorem Extends.trans {db₁ db₂ db₃ : Database U} (h : db₁.Extends db₂) (h' : db₂.Extends db₃) :
    db₁.Extends db₃ where
  toGrows := h.toGrows.trans h'.toGrows
  idempotencyKey hr hr' := by
    obtain ⟨r₂, hr₂, -⟩ := h.reservation hr
    exact (h'.idempotencyKey hr₂ hr').trans (h.idempotencyKey hr hr₂)
  operations := h.operations.trans h'.operations
  transfers := h.transfers.trans h'.transfers
  ledgerEntries := h.ledgerEntries.trans h'.ledgerEntries
  outbox := h.outbox.trans h'.outbox

/-- Tables whose reservations stay as they are, with more rows in the others. -/
theorem Extends.of_appended (hgrows : db.Grows db') (hr : db.reservations <+: db'.reservations)
    (hops : db.operations <+: db'.operations) (hts : db.transfers <+: db'.transfers)
    (hes : db.ledgerEntries <+: db'.ledgerEntries) (hout : db.outbox <+: db'.outbox) :
    db.Extends db' where
  toGrows := hgrows
  idempotencyKey {paymentID r r'} h h' := by
    obtain ⟨rs, hrs⟩ := hr
    have hfound : db'.reservation? paymentID = some r := by
      unfold reservation? at h ⊢
      rw [← hrs, List.find?_append, h, Option.some_or]
    rw [Option.some.inj (hfound.symm.trans h')]
  operations := hops
  transfers := hts
  ledgerEntries := hes
  outbox := hout

variable {change : LedgerReservation U → LedgerReservation U}

/-- An update that keeps the idempotency key of the reservation it changes. -/
theorem Extends.of_update (hk : db.Keyed) (hc : KeepsPayload change)
    (hkey : ∀ r, (change r).idempotencyKey = r.idempotencyKey)
    (hr : db.reservation? paymentID = some r) (hs : r.status = .reserved) {ts : List (Transfer U)}
    {es : List (LedgerEntry U)} (hts : db.transfers <+: ts) (hes : db.ledgerEntries <+: es) :
    db.Extends { db.updateReservation r.id change with transfers := ts, ledgerEntries := es } where
  toGrows := (Grows.of_update hk hc hr hs).trans (.of_eq rfl rfl)
  idempotencyKey {u o o'} ho ho' := by
    have hlook := (hk.reservation?_update hc hr u).symm.trans ho'
    split at hlook
    · rename_i hu
      rw [hu, hr] at ho
      rw [← Option.some.inj hlook, ← Option.some.inj ho]
      exact hkey r
    · rw [Option.some.inj (ho.symm.trans hlook)]
  operations := List.prefix_rfl
  transfers := hts
  ledgerEntries := hes
  outbox := List.prefix_rfl

/-- The update of the one row with the ID, whose payment is given too. -/
theorem Keyed.map_update (hk : db.Keyed) (hr : r ∈ db.reservations)
    (change : LedgerReservation U → LedgerReservation U) :
    (db.reservations.map fun o =>
      if o.id = r.id ∧ o.paymentID = r.paymentID then change o else o) =
      (db.updateReservation r.id change).reservations := by
  refine List.map_congr_left fun o ho => ?_
  by_cases hid : o.id = r.id
  · rw [hk.eq_of_id hr ho hid]
    simp
  · simp [hid]

theorem Keyed.reservation?_changed (hk : db.Keyed) (hc : KeepsPayload change)
    (hr : db.reservation? paymentID = some r) (h : db'.reservations = db.reservations.map fun o =>
      if o.id = r.id ∧ o.paymentID = r.paymentID then change o else o) :
    db'.reservation? paymentID = some (change r) := by
  rw [reservation?, h, hk.map_update (reservation?_some hr).1]
  exact (hk.reservation?_update hc hr paymentID).trans (if_pos rfl)

end Database

/-! ## Calls as single steps -/

variable {call : WalletCall U}

namespace WalletCall

variable [UuidLib U] {db db' : Database U} {outboxTopic : String} {env : TxEnv U}

/-- What a call does to the tables if it commits, as one step. A record that is handled makes a
    transaction of `AppendTransferEntries`. -/
def Step (outboxTopic : String) (env : TxEnv U) (db db' : Database U) : WalletCall U → Prop
  | .createTransfer userID fromWalletID toWalletID amount => ∃ r,
    db.createTransfer outboxTopic env userID fromWalletID toWalletID amount = .ok (r, db')
  | .debitForSaga cmd => ∃ op, db.debitForSaga env cmd = .ok (op, db')
  | .compensateDebit cmd => ∃ op, db.compensateDebit env cmd = .ok (op, db')
  | .reserveTransfer cmd => ∃ r, db.reserveTransfer env cmd = .ok (r, db')
  | .confirmTransfer cmd => ∃ c, db.confirmTransfer env cmd = .ok (c, db')
  | .cancelReservation cmd => ∃ r, db.cancelReservation env cmd = .ok (r, db')
  | .appendTransferEntries transfer => db.appendTransferEntries env transfer = .ok db'
  | .handleRecord _ => False

/-- Every call keeps the keys and only adds to the tables. -/
theorem Step.extends (h : call.Step outboxTopic env db db') (hk : db.Keyed) :
    db'.Keyed ∧ db.Extends db' := by
  cases call with
  | createTransfer =>
    obtain ⟨r, h⟩ := h
    obtain ⟨-, -, source, target, -, -, -, -, -, -, -, hfresh, hr, rfl⟩ :=
      Database.createTransfer_ok h
    have hids : ∀ t ∈ db.transfers, t.id ≠ r.1.id := by
      rw [hr]
      exact hfresh
    refine ⟨{ hk with
      wallets := ((hk.setBalance _ _ _).setBalance _ _ _).wallets
      transfers := (hk.append_transfer hids).transfers }, ?_⟩
    exact .of_appended (.of_eq rfl rfl) List.prefix_rfl List.prefix_rfl (List.prefix_append _ _)
      List.prefix_rfl (List.prefix_append _ _)
  | debitForSaga =>
    obtain ⟨op, h⟩ := h
    obtain ⟨hk', hgrows⟩ := Database.debitForSaga_grows hk h
    refine ⟨hk', ?_⟩
    rcases Database.debitForSaga_ok h with ⟨-, rfl⟩ | ⟨-, wallet, -, -, -, -, -, -, rfl⟩
    · exact .refl _
    · exact .of_appended hgrows List.prefix_rfl (List.prefix_append _ _) List.prefix_rfl
        List.prefix_rfl List.prefix_rfl
  | compensateDebit =>
    obtain ⟨op, h⟩ := h
    obtain ⟨hk', hgrows⟩ := Database.compensateDebit_grows hk h
    refine ⟨hk', ?_⟩
    rcases Database.compensateDebit_ok h with
      ⟨-, rfl⟩ | ⟨-, debit, wallet, -, -, -, -, -, -, rfl⟩
    · exact .refl _
    · exact .of_appended hgrows List.prefix_rfl (List.prefix_append _ _) List.prefix_rfl
        List.prefix_rfl List.prefix_rfl
  | reserveTransfer =>
    obtain ⟨r, h⟩ := h
    obtain ⟨hk', hgrows⟩ := Database.reserveTransfer_grows hk h
    refine ⟨hk', ?_⟩
    obtain ⟨currency, -, -, ⟨-, rfl⟩ | ⟨-, -, -, rfl⟩⟩ := Database.reserveTransfer_ok h
    · exact .refl _
    · exact .of_appended hgrows (List.prefix_append _ _) List.prefix_rfl List.prefix_rfl
        List.prefix_rfl List.prefix_rfl
  | confirmTransfer cmd =>
    obtain ⟨c, h⟩ := h
    refine ⟨(Database.confirmTransfer_grows hk h).1, ?_⟩
    obtain ⟨r, hr, -, ⟨-, -, rfl⟩ | ⟨hs, source, target, -, -, -, -, -, -, rfl⟩⟩ :=
      Database.confirmTransfer_ok h
    · exact .refl _
    · refine .of_update hk (Database.keepsPayload_confirmReservation env _ _) (fun _ => rfl) hr hs
        (List.prefix_append _ _) ?_
      rw [List.append_assoc]
      exact List.prefix_append _ _
  | cancelReservation cmd =>
    obtain ⟨o, h⟩ := h
    refine ⟨(Database.cancelReservation_grows hk h).1, ?_⟩
    obtain ⟨r, hr, -, ⟨-, -, rfl⟩ | ⟨hs, -, rfl⟩⟩ := Database.cancelReservation_ok h
    · exact .refl _
    · exact .of_update hk (Database.keepsPayload_cancelChange env _) (fun _ => rfl) hr hs
        List.prefix_rfl List.prefix_rfl
  | appendTransferEntries =>
    rcases Database.appendTransferEntries_ok h with rfl | ⟨-, source, target, -, -, rfl⟩
    · exact ⟨hk, .refl _⟩
    · refine ⟨{ hk with }, .of_appended (.of_eq rfl rfl) List.prefix_rfl List.prefix_rfl
        List.prefix_rfl ?_ List.prefix_rfl⟩
      rw [List.append_assoc]
      exact List.prefix_append _ _
  | handleRecord => exact h.elim

end WalletCall

/-! ## What a lock protects -/

section Locks

variable [UuidLib U] {db db' : Database U} {key : LockKey U}

/-- What stays as it is while a transaction holds the lock: the row that is locked, and that no
    row has the key in an index. -/
structure LockKey.Keeps (key : LockKey U) (db db' : Database U) : Prop where
  free : key ∉ db.indexKeys → key ∉ db'.indexKeys
  wallet : ∀ {id wallet}, key = .wallet id → db.wallet? id = some wallet →
    db'.wallet? id = some wallet
  reservation : ∀ {paymentID r}, key = .reservation paymentID →
    db.reservation? paymentID = some r → db'.reservation? paymentID = some r

namespace LockKey.Keeps

theorem refl (key : LockKey U) (db : Database U) : key.Keeps db db :=
  ⟨id, fun _ h => h, fun _ h => h⟩

theorem trans {db₁ db₂ db₃ : Database U} (h : key.Keeps db₁ db₂) (h' : key.Keeps db₂ db₃) :
    key.Keeps db₁ db₃ :=
  ⟨fun hf => h'.free (h.free hf), fun hk hw => h'.wallet hk (h.wallet hk hw),
    fun hk hr => h'.reservation hk (h.reservation hk hr)⟩

/-- A new row takes its own keys only. -/
theorem of_append {keys : List (LockKey U)} (hnot : key ∉ keys)
    (hkeys : ∀ k ∈ db'.indexKeys, k ∈ db.indexKeys ∨ k ∈ keys) (hw : db'.wallets = db.wallets)
    (hr : db.reservations <+: db'.reservations) :
    key.Keeps db db' where
  free hfree hmem := (hkeys key hmem).elim hfree hnot
  wallet _ h := by rwa [Database.wallet?, hw]
  reservation _ h := by
    obtain ⟨rs, hrs⟩ := hr
    unfold Database.reservation? at h ⊢
    rw [← hrs, List.find?_append, h, Option.some_or]

theorem setBalance (hnot : key ≠ .wallet id) (balance : Int64) (now : Time) :
    key.Keeps db (db.setBalance id balance now) where
  free h := h
  wallet {walletID wallet} hkey h := by
    have hne : walletID ≠ id := fun he => hnot (he ▸ hkey)
    rwa [Database.wallet?_setBalance_of_ne hne]
  reservation _ h := h

/-- An update of the reservation of one payment. -/
theorem changeReservation (hnot : key ≠ .reservation paymentID) (change : ReservationChange U) :
    key.Keeps db { db with reservations := db.reservations.map fun r =>
      if r.id = id ∧ r.paymentID = paymentID then change.apply r else r } where
  free h := by
    have hkeys : ∀ r : LedgerReservation U,
        (if r.id = id ∧ r.paymentID = paymentID then change.apply r else r).indexKeys =
          r.indexKeys := by
      intro r
      split
      · cases change <;> rfl
      · rfl
    simpa only [Database.indexKeys, List.flatMap_map, hkeys] using h
  wallet _ h := h
  reservation {u r} hkey h := by
    have hne : u ≠ paymentID := fun he => hnot (he ▸ hkey)
    unfold Database.reservation? at h ⊢
    rw [List.find?_map]
    have hsame : ((fun r : LedgerReservation U => decide (r.paymentID = u)) ∘ fun r =>
        if r.id = id ∧ r.paymentID = paymentID then change.apply r else r) =
          fun r => decide (r.paymentID = u) := by
      funext r
      simp only [Function.comp_apply]
      split
      · cases change <;> rfl
      · rfl
    rw [hsame, h, Option.map_some, if_neg]
    have hfound : r.paymentID = u := by simpa using List.find?_some h
    exact fun hboth => hne (hfound.symm.trans hboth.2)

end LockKey.Keeps

namespace WalletStmt

omit [UuidLib U] in
/-- A change goes through if the constraints of the table allow it. -/
theorem change_run {keys : List (LockKey U)} {check : Database U → Except SqlErr (Database U)}
    {write : Database U → Database U} {a : Unit} :
    (change keys check write).run db = .ok a ↔ ∃ db', check db = .ok db' := by
  simp only [change, Except.map_eq_ok, Except.mapError_eq_ok, and_true]

variable {s : WalletStmt U} {a : s.Ret}

/-- The locks a statement takes are among those it waits for. -/
theorem takes_awaits (h : s.statement.run db = .ok a) :
    ∀ key ∈ s.statement.takes a, key ∈ s.statement.awaits db := by
  cases s with
  | lockWallet | lockOperation | lockReservation =>
    cases h
    exact fun _ hkey => hkey
  | updateReservation id change =>
    intro key hkey
    simp only [statement, changeReservation, Except.map_eq_ok, Except.ofOption_eq_ok] at h
    obtain ⟨r, hr, rfl⟩ := h
    have hpayment : (change.apply r).paymentID = r.paymentID := by cases change <;> rfl
    simpa [statement, changeReservation, hr, hpayment] using hkey
  | snapshot | getOperation | getReservation | transferProcessed =>
    exact fun _ hkey => hkey
  | updateWalletBalance | insertTransfer | insertLedgerEntry | insertOperation
  | insertReservation | enqueue => exact fun _ hkey => hkey

/-- A statement writes only what it has locked. -/
theorem writes_taken (hnot : key ∉ s.statement.takes a) (db : Database U) :
    key.Keeps db (s.statement.write a db) := by
  cases s with
  | snapshot | getOperation | getReservation | transferProcessed | lockWallet
  | lockOperation | lockReservation => exact .refl key db
  | updateWalletBalance id balance now =>
    exact .setBalance (fun he => hnot (List.mem_singleton.mpr he)) balance now
  | updateReservation id change =>
    exact .changeReservation (fun he => hnot (List.mem_singleton.mpr he)) change
  | enqueue => exact .of_append List.not_mem_nil (fun _ => .inl) rfl List.prefix_rfl
  | insertTransfer | insertLedgerEntry | insertOperation =>
    refine .of_append hnot (fun k hk => ?_) rfl List.prefix_rfl
    simp only [statement, change, Database.indexKeys, List.flatMap_append, List.flatMap_singleton,
      List.mem_append] at hk ⊢
    tauto
  | insertReservation =>
    refine .of_append hnot (fun k hk => ?_) rfl (List.prefix_append _ _)
    simp only [statement, change, Database.indexKeys, List.flatMap_append, List.flatMap_singleton,
      List.mem_append] at hk ⊢
    tauto

end WalletStmt

end Locks

/-! ## What an answer attests -/

section Answers

variable [UuidLib U] {db db' : Database U}

/-- The checks `ReserveTransfer` makes of its arguments. -/
structure LedgerReserveCommand.Accepted (cmd : LedgerReserveCommand U) (currency : String) :
    Prop where
  named : ¬ (cmd.paymentID = UuidLib.nil ∨ cmd.fromWalletID = UuidLib.nil ∨
    cmd.toWalletID = UuidLib.nil ∨ cmd.idempotencyKey = "")
  positive : 0 < cmd.amountCents
  distinct : cmd.fromWalletID ≠ cmd.toWalletID
  currency : normalizeCurrency cmd.currency = .ok currency

/-- What `ReserveTransfer` returns if the payment has the reservation `r` already: what has
    become of it if the payload is the same, and an error if not. -/
def LedgerReserveCommand.Repeats (cmd : LedgerReserveCommand U) (r : LedgerReservation U)
    (currency : String) (result : Except CallErr (WalletReply U)) : Prop :=
  if Database.sameReservationPayload r cmd currency then
    ∃ r', result = .ok (.reservation r') ∧ Database.Later r r'
  else result = .error (.repo (.domain .alreadyExists))

namespace WalletCall

/-- What the reply to a call says about the tables from then on. -/
def Replied (db : Database U) (reply : WalletReply U) : WalletCall U → Prop
  | .createTransfer _ _ _ _ => ∃ t b c, reply = .transfer t b c ∧ t ∈ db.transfers
  | .debitForSaga cmd => ∃ op, reply = .operation op ∧
    db.operation? cmd.paymentID .debit = some op
  | .compensateDebit cmd => ∃ op, reply = .operation op ∧
    db.operation? cmd.paymentID .compensation = some op
  | .reserveTransfer cmd => ∃ r r', reply = .reservation r ∧
    db.reservation? cmd.paymentID = some r' ∧ Database.Later r r'
  | .confirmTransfer cmd => ∃ r,
    reply = .confirmation (Database.ledgerConfirmationFromReservation r) ∧
    db.reservation? cmd.paymentID = some r ∧ r.status = .confirmed
  | .cancelReservation cmd => ∃ r, reply = .reservation r ∧
    db.reservation? cmd.paymentID = some r ∧ r.status = .canceled
  | .appendTransferEntries transfer => db.transferProcessed transfer.transferID = true
  | .handleRecord _ => False

theorem Replied.extends {reply : WalletReply U} (h : call.Replied db reply)
    (hext : db.Extends db') : call.Replied db' reply := by
  cases call with
  | createTransfer =>
    obtain ⟨t, b, c, rfl, ht⟩ := h
    exact ⟨t, b, c, rfl, hext.transfers.subset ht⟩
  | debitForSaga | compensateDebit =>
    obtain ⟨op, rfl, hop⟩ := h
    exact ⟨op, rfl, hext.operation hop⟩
  | reserveTransfer =>
    obtain ⟨r, r', rfl, hr, hlater⟩ := h
    obtain ⟨r'', hr', hlater'⟩ := hext.reservation hr
    exact ⟨r, r'', rfl, hr', hlater.trans hlater'⟩
  | confirmTransfer =>
    obtain ⟨r, rfl, hr, hs⟩ := h
    exact ⟨r, rfl, hext.reservation_eq hr (by simp [hs]), hs⟩
  | cancelReservation =>
    obtain ⟨r, rfl, hr, hs⟩ := h
    exact ⟨r, rfl, hext.reservation_eq hr (by simp [hs]), hs⟩
  | appendTransferEntries transfer =>
    obtain ⟨e, he, heq⟩ := List.any_eq_true.mp h
    exact List.any_eq_true.mpr ⟨e, hext.ledgerEntries.subset he, heq⟩
  | handleRecord => exact h

end WalletCall

/-- What a call that has returned attests about the tables from then on. -/
structure WalletAnswer.Holds (a : WalletAnswer U) (db : Database U) : Prop where
  since : a.start.Extends db
  replied : ∀ reply, a.result = .ok reply → a.call.Replied db reply
  repeated : ∀ cmd r currency, a.call = .reserveTransfer cmd →
    a.start.reservation? cmd.paymentID = some r → cmd.Accepted currency →
    a.result = .error .down ∨ cmd.Repeats r currency a.result

end Answers

/-! ## The protocol -/

section Protocol

variable [UuidLib U]

/-- A call that was made, or the one a record of the outbox leads to. -/
def WalletCall.Requested (decoders : Decoders Payload) (req : WalletCall U → Prop)
    (db : Database U) (call : WalletCall U) : Prop :=
  req call ∨ ∃ offset transfer, req (.handleRecord offset) ∧
    call = .appendTransferEntries transfer ∧
    ∃ record ∈ db.outbox, LedgerConsumer.decodeTransfer decoders record.payload = .ok transfer

/-- A commit is the step of a call that was requested. -/
structure WalletCall.Commits (outboxTopic : String) (decoders : Decoders Payload)
    (req : WalletCall U → Prop) (call : WalletCall U) (env : TxEnv U) (db db' : Database U) :
    Prop where
  requested : call.Requested decoders req db
  step : call.Step outboxTopic env db db'

/-- What the programs of the wallet and ledger services are checked against. -/
def walletProtocol (outboxTopic : String) (decoders : Decoders Payload)
    (req : WalletCall U → Prop) :
    Protocol (walletSql (U := U)) (WalletCall U) (WalletAnswer U) where
  Valid := Database.Keyed
  Keeps := LockKey.Keeps
  Evolves := Database.Extends
  Commits := WalletCall.Commits outboxTopic decoders req
  Attests := WalletAnswer.Holds
  keeps_refl := .refl
  keeps_trans := .trans
  evolves_refl := .refl
  evolves_trans := .trans
  commits_valid h hk := h.step.extends hk
  attests_evolves h hext :=
    ⟨h.since.trans hext, fun reply hr => (h.replied reply hr).extends hext, h.repeated⟩
  takes_awaits h := WalletStmt.takes_awaits h
  writes_taken _ db _ hnot := WalletStmt.writes_taken hnot db

end Protocol

end EnjoyThings
