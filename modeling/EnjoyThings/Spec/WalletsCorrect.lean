import EnjoyThings.ForStd.List
import EnjoyThings.Services.Wallets

/-!
# What the wallet and ledger transactions keep

Two facts hold of all six transactions: the keys of the tables stay keys
(`Keyed`), and the tables only grow (`Grows`), in the sense that operations are
never changed and that a reservation keeps its payload and leaves RESERVED at
most once. Everything the saga proofs need to know about a service's memory
follows from these.
-/

namespace EnjoyThings

namespace Database

variable {U : Type} [UuidLib U] {db db' : Database U}

/-! ## Keys -/

/-- The primary and unique keys of the tables. -/
structure Keyed (db : Database U) : Prop where
  wallets : (db.wallets.map (·.id)).Nodup
  operations : (db.operations.map fun op => (op.paymentID, op.operation)).Nodup
  reservationIDs : (db.reservations.map (·.id)).Nodup
  reservations : (db.reservations.map (·.paymentID)).Nodup
  transfers : (db.transfers.map (·.id)).Nodup

theorem Keyed.wallet?_of_mem (h : db.Keyed) {wallet : Wallet U} (hw : wallet ∈ db.wallets) :
    db.wallet? wallet.id = some wallet :=
  List.find?_key_of_mem h.wallets hw

variable {r : LedgerReservation U}

theorem Keyed.reservation?_of_mem (h : db.Keyed) (hr : r ∈ db.reservations) :
    db.reservation? r.paymentID = some r :=
  List.find?_key_of_mem h.reservations hr

variable {op : SagaWalletOperation U}

theorem Keyed.operation?_of_mem (h : db.Keyed) (ho : op ∈ db.operations) :
    db.operation? op.paymentID op.operation = some op := by
  have hfind := List.find?_key_of_mem h.operations ho
  simpa only [operation?, Prod.mk.injEq] using hfind

variable {o : LedgerReservation U}

omit [UuidLib U] in
/-- A reservation is determined by its ID. -/
theorem Keyed.eq_of_id (h : db.Keyed) (hr : r ∈ db.reservations) (ho : o ∈ db.reservations)
    (hid : o.id = r.id) : o = r :=
  List.inj_on_of_nodup_map h.reservationIDs ho hr hid

/-! ## Look-ups after a statement -/

variable {change : LedgerReservation U → LedgerReservation U}

section Lookup

variable {paymentID : U} {kind : OperationKind}

theorem wallet?_setBalance (id : U) (b : Int64) (now : Time) (walletID : U) :
    (db.setBalance id b now).wallet? walletID = (db.wallet? walletID).map fun wallet =>
      if wallet.id = id then { wallet with balance := b, updatedAt := now } else wallet := by
  unfold wallet? setBalance
  rw [List.find?_map]
  congr 2
  funext wallet
  by_cases hid : wallet.id = id <;> simp [hid]

theorem wallet?_setBalance_of_ne {id walletID : U} (hne : walletID ≠ id) (b : Int64)
    (now : Time) : (db.setBalance id b now).wallet? walletID = db.wallet? walletID := by
  rw [wallet?_setBalance]
  cases hw : db.wallet? walletID with
  | none => rfl
  | some wallet =>
    have hid : wallet.id ≠ id := fun he => hne ((wallet?_some hw).2.symm.trans he)
    rw [Option.map_some, if_neg hid]

theorem operation?_append_of_some {o : SagaWalletOperation U}
    (hops : db'.operations = db.operations ++ [op]) (h : db.operation? paymentID kind = some o) :
    db'.operation? paymentID kind = some o := by
  unfold operation? at h ⊢
  rw [hops, List.find?_append, h]
  rfl

theorem operation?_append_of_none {paymentID : U} {kind : OperationKind}
    (hp : op.paymentID = paymentID) (hkind : op.operation = kind)
    (ho : db'.operations = db.operations ++ [op]) (hnone : db.operation? paymentID kind = none) :
    db'.operation? paymentID kind = some op := by
  unfold operation? at hnone ⊢
  rw [ho, List.find?_append, hnone, Option.none_or]
  exact List.find?_cons_of_pos (by simp [hp, hkind])

theorem reservation?_append_of_some (hr : db'.reservations = db.reservations ++ [r])
    (h : db.reservation? paymentID = some o) :
    db'.reservation? paymentID = some o := by
  unfold reservation? at h ⊢
  rw [hr, List.find?_append, h]
  rfl

theorem reservation?_append_of_none (hr : db'.reservations = db.reservations ++ [r])
    (h : db.reservation? r.paymentID = none) :
    db'.reservation? r.paymentID = some r := by
  unfold reservation? at h ⊢
  rw [hr, List.find?_append, h]
  simp

theorem reservation?_updateReservation {id : U}
    (hchange : ∀ r, (change r).paymentID = r.paymentID) :
    (db.updateReservation id change).reservation? paymentID =
      (db.reservation? paymentID).map fun r => if r.id = id then change r else r := by
  unfold reservation? updateReservation
  rw [List.find?_map]
  congr 2
  funext r
  by_cases hr : r.id = id
  · simp [hr, hchange]
  · simp [hr]

theorem operation?_eq_none : db.operation? paymentID kind = none ↔
    ∀ op ∈ db.operations, op.operation = kind → op.paymentID ≠ paymentID := by
  unfold operation?
  rw [List.find?_eq_none]
  constructor
  · intro h op hop hkind hpid
    exact h op hop (by simp [hkind, hpid])
  · intro h op hop hp
    simp only [decide_eq_true_eq] at hp
    exact h op hop hp.2 hp.1

theorem reservation?_eq_none : db.reservation? paymentID = none ↔
    ∀ r ∈ db.reservations, r.paymentID ≠ paymentID := by
  unfold reservation?
  rw [List.find?_eq_none]
  simp

end Lookup

/-! ## Growth -/

/-- A reservation later in its life: the same payload, and nothing changes any more once it
    is confirmed or canceled. -/
structure Later (r r' : LedgerReservation U) : Prop where
  id : r'.id = r.id
  fromWalletID : r'.fromWalletID = r.fromWalletID
  toWalletID : r'.toWalletID = r.toWalletID
  amountCents : r'.amountCents = r.amountCents
  currency : r'.currency = r.currency
  settled : r.status ≠ .reserved → r' = r

omit [UuidLib U] in
theorem Later.refl (r : LedgerReservation U) : Later r r :=
  ⟨rfl, rfl, rfl, rfl, rfl, fun _ => rfl⟩

omit [UuidLib U] in
theorem Later.trans {r₁ r₂ r₃ : LedgerReservation U} (h : Later r₁ r₂) (h' : Later r₂ r₃) :
    Later r₁ r₃ where
  id := h'.id.trans h.id
  fromWalletID := h'.fromWalletID.trans h.fromWalletID
  toWalletID := h'.toWalletID.trans h.toWalletID
  amountCents := h'.amountCents.trans h.amountCents
  currency := h'.currency.trans h.currency
  settled hs := by
    obtain rfl := h.settled hs
    exact h'.settled hs

/-- The tables keep every operation, and every reservation in a later form. -/
structure Grows (db db' : Database U) : Prop where
  operation : ∀ {paymentID kind op}, db.operation? paymentID kind = some op →
    db'.operation? paymentID kind = some op
  reservation : ∀ {paymentID r}, db.reservation? paymentID = some r →
    ∃ r', db'.reservation? paymentID = some r' ∧ Later r r'

theorem Grows.refl (db : Database U) : db.Grows db :=
  ⟨id, fun {_ r} h => ⟨r, h, .refl r⟩⟩

theorem Grows.trans {db₁ db₂ db₃ : Database U} (h : db₁.Grows db₂) (h' : db₂.Grows db₃) :
    db₁.Grows db₃ where
  operation ho := h'.operation (h.operation ho)
  reservation hr := by
    obtain ⟨r₂, hr₂, hl⟩ := h.reservation hr
    obtain ⟨r₃, hr₃, hl'⟩ := h'.reservation hr₂
    exact ⟨r₃, hr₃, hl.trans hl'⟩

/-- A reservation that is confirmed or canceled stays what it is. -/
theorem Grows.reservation_eq (h : db.Grows db') {paymentID : U}
    (hr : db.reservation? paymentID = some r) (hs : r.status ≠ .reserved) :
    db'.reservation? paymentID = some r := by
  obtain ⟨r', hr', hl⟩ := h.reservation hr
  rw [hr', hl.settled hs]

/-- Tables with the same operations and reservations. -/
theorem Grows.of_eq (ho : db'.operations = db.operations)
    (hr : db'.reservations = db.reservations) : db.Grows db' where
  operation h := by rwa [operation?, ho]
  reservation {_ r} h := ⟨r, by rwa [reservation?, hr], .refl r⟩

/-- A new operation beside the stored ones. -/
theorem Grows.of_append_operation (ho : db'.operations = db.operations ++ [op])
    (hr : db'.reservations = db.reservations) :
    db.Grows db' where
  operation h := operation?_append_of_some ho h
  reservation {_ r} h := ⟨r, by rwa [reservation?, hr], .refl r⟩

/-- A new reservation beside the stored ones. -/
theorem Grows.of_append_reservation (ho : db'.operations = db.operations)
    (hr : db'.reservations = db.reservations ++ [r]) :
    db.Grows db' where
  operation h := by rwa [operation?, ho]
  reservation {_ o} h := ⟨o, reservation?_append_of_some hr h, .refl o⟩

/-- The columns an update of a reservation leaves alone. -/
structure KeepsPayload (change : LedgerReservation U → LedgerReservation U) : Prop where
  id : ∀ r, (change r).id = r.id
  paymentID : ∀ r, (change r).paymentID = r.paymentID
  fromWalletID : ∀ r, (change r).fromWalletID = r.fromWalletID
  toWalletID : ∀ r, (change r).toWalletID = r.toWalletID
  amountCents : ∀ r, (change r).amountCents = r.amountCents
  currency : ∀ r, (change r).currency = r.currency

omit [UuidLib U] in
theorem keepsPayload_confirmReservation (env : TxEnv U) (transferID walletDebitID : U) :
    KeepsPayload (confirmReservation env transferID walletDebitID) :=
  ⟨fun _ => rfl, fun _ => rfl, fun _ => rfl, fun _ => rfl, fun _ => rfl, fun _ => rfl⟩

omit [UuidLib U] in
theorem keepsPayload_cancelChange (env : TxEnv U) (reason : String) :
    KeepsPayload (cancelChange env reason) :=
  ⟨fun _ => rfl, fun _ => rfl, fun _ => rfl, fun _ => rfl, fun _ => rfl, fun _ => rfl⟩

/-- The look-ups after an update of one reservation, which is found by its payment. -/
theorem Keyed.reservation?_update (hk : db.Keyed) {paymentID : U} (hc : KeepsPayload change)
    (hr : db.reservation? paymentID = some r) (u : U) :
    (db.updateReservation r.id change).reservation? u =
      if u = paymentID then some (change r) else db.reservation? u := by
  rw [reservation?_updateReservation hc.paymentID]
  split
  · rename_i hu
    rw [hu, hr, Option.map_some, if_pos rfl]
  · rename_i hu
    cases ho : db.reservation? u with
    | none => rfl
    | some o =>
      -- the IDs are keys too, so the other payment's reservation is another row
      have hid : o.id ≠ r.id := by
        intro hid
        have ho' := reservation?_some ho
        have hr' := reservation?_some hr
        rw [hk.eq_of_id hr'.1 ho'.1 hid] at ho'
        exact hu (ho'.2.symm.trans hr'.2)
      rw [Option.map_some, if_neg hid]

/-- An update of a reservation that is still reserved. -/
theorem Grows.of_update (hk : db.Keyed) {paymentID : U} (hc : KeepsPayload change)
    (hr : db.reservation? paymentID = some r) (hs : r.status = .reserved) :
    db.Grows (db.updateReservation r.id change) where
  operation h := h
  reservation {u o} ho := by
    rw [hk.reservation?_update hc hr]
    split
    · rename_i hu
      obtain rfl : r = o := Option.some.inj (by rw [← hr, ← ho, hu])
      exact ⟨change r, rfl, hc.id r, hc.fromWalletID r, hc.toWalletID r, hc.amountCents r,
        hc.currency r, fun hn => absurd hs hn⟩
    · exact ⟨o, ho, .refl o⟩

/-! ## Keys after a transaction -/

theorem Keyed.setBalance (hk : db.Keyed) (id : U) (balance : Int64) (now : Time) :
    (db.setBalance id balance now).Keyed := by
  refine { hk with wallets := ?_ }
  show (List.map _ (List.map _ _)).Nodup
  rw [List.map_map_key]
  · exact hk.wallets
  · intro wallet
    split <;> rfl

theorem Keyed.append_operation (hk : db.Keyed)
    (hnew : db.operation? op.paymentID op.operation = none) :
    Keyed { db with operations := db.operations ++ [op] } := by
  refine { hk with operations := List.nodup_map_append_singleton hk.operations ?_ }
  intro o ho hkey
  obtain ⟨hpid, hkind⟩ := Prod.mk.inj hkey
  exact operation?_eq_none.mp hnew o ho hkind hpid

theorem Keyed.append_reservation (hk : db.Keyed) (hid : ∀ o ∈ db.reservations, o.id ≠ r.id)
    (hnew : db.reservation? r.paymentID = none) :
    Keyed { db with reservations := db.reservations ++ [r] } :=
  { hk with
    reservationIDs := List.nodup_map_append_singleton hk.reservationIDs hid
    reservations := List.nodup_map_append_singleton hk.reservations
      (reservation?_eq_none.mp hnew) }

omit [UuidLib U] in
theorem Keyed.append_transfer (hk : db.Keyed) {t : Transfer U}
    (hid : ∀ o ∈ db.transfers, o.id ≠ t.id) :
    Keyed { db with transfers := db.transfers ++ [t] } :=
  { hk with transfers := List.nodup_map_append_singleton hk.transfers hid }

theorem Keyed.updateReservation (hk : db.Keyed) (id : U) (hc : KeepsPayload change) :
    (db.updateReservation id change).Keyed := by
  refine { hk with reservationIDs := ?_, reservations := ?_ }
  · show (List.map _ (List.map _ _)).Nodup
    rw [List.map_map_key]
    · exact hk.reservationIDs
    · intro r
      split
      · exact hc.id r
      · rfl
  · show (List.map _ (List.map _ _)).Nodup
    rw [List.map_map_key]
    · exact hk.reservations
    · intro r
      split
      · exact hc.paymentID r
      · rfl

/-! ## The transactions -/

section Transactions

variable {env : TxEnv U}

theorem debitForSaga_grows (hk : db.Keyed) {cmd : SagaDebitCommand U}
    (h : db.debitForSaga env cmd = .ok (op, db')) :
    db'.Keyed ∧ db.Grows db' := by
  rcases debitForSaga_ok h with ⟨-, rfl⟩ | ⟨hnew, wallet, -, -, -, -, -, rfl, rfl⟩
  · exact ⟨hk, .refl _⟩
  · exact ⟨(hk.setBalance _ _ _).append_operation hnew, .of_append_operation rfl rfl⟩

theorem compensateDebit_grows (hk : db.Keyed) {cmd : SagaCompensationCommand U}
    (h : db.compensateDebit env cmd = .ok (op, db')) :
    db'.Keyed ∧ db.Grows db' := by
  rcases compensateDebit_ok h with ⟨-, rfl⟩ | ⟨hnew, debit, wallet, -, -, -, -, -, rfl, rfl⟩
  · exact ⟨hk, .refl _⟩
  · exact ⟨(hk.setBalance _ _ _).append_operation hnew, .of_append_operation rfl rfl⟩

theorem reserveTransfer_grows (hk : db.Keyed) {cmd : LedgerReserveCommand U}
    (h : db.reserveTransfer env cmd = .ok (r, db')) :
    db'.Keyed ∧ db.Grows db' := by
  obtain ⟨currency, -, -, ⟨-, rfl⟩ | ⟨hnew, rfl, hid, rfl⟩⟩ := reserveTransfer_ok h
  · exact ⟨hk, .refl _⟩
  · exact ⟨hk.append_reservation hid hnew, .of_append_reservation rfl rfl⟩

variable {cmd : LedgerConfirmCommand U} {c : LedgerConfirmation U}

theorem confirmTransfer_grows (hk : db.Keyed) (h : db.confirmTransfer env cmd = .ok (c, db')) :
    db'.Keyed ∧ db.Grows db' := by
  obtain ⟨r, hr, -, ⟨-, -, rfl⟩ | ⟨hs, source, target, -, -, -, -, hid, -, rfl⟩⟩ :=
    confirmTransfer_ok h
  · exact ⟨hk, .refl _⟩
  · have hc := keepsPayload_confirmReservation env env.transferID cmd.walletDebitID
    have hk' := (hk.updateReservation r.id hc).append_transfer
      (t := newTransfer env r.fromWalletID r.toWalletID r.amountCents) hid
    exact ⟨{ hk' with }, (Grows.of_update hk hc hr hs).trans (.of_eq rfl rfl)⟩

theorem cancelReservation_grows (hk : db.Keyed) {cmd : LedgerCancelCommand U}
    (h : db.cancelReservation env cmd = .ok (o, db')) :
    db'.Keyed ∧ db.Grows db' := by
  obtain ⟨r, hr, -, ⟨-, -, rfl⟩ | ⟨hs, -, rfl⟩⟩ := cancelReservation_ok h
  · exact ⟨hk, .refl _⟩
  · have hc := keepsPayload_cancelChange env cmd.reason
    exact ⟨hk.updateReservation r.id hc, .of_update hk hc hr hs⟩

/-- After a confirm the reservation of the payment is confirmed, under the ID that was given. -/
theorem confirmTransfer_status (hk : db.Keyed) (h : db.confirmTransfer env cmd = .ok (c, db')) :
    ∃ r, db'.reservation? cmd.paymentID = some r ∧ r.status = .confirmed := by
  obtain ⟨r, hr, -, ⟨hs, -, rfl⟩ | ⟨hs, source, target, -, -, -, -, -, -, rfl⟩⟩ :=
    confirmTransfer_ok h
  · exact ⟨r, hr, hs⟩
  · refine ⟨confirmReservation env env.transferID cmd.walletDebitID r, ?_, rfl⟩
    have hc := keepsPayload_confirmReservation env env.transferID cmd.walletDebitID
    exact (hk.reservation?_update hc hr cmd.paymentID).trans (if_pos rfl)

/-- After a cancellation the reservation of the payment is canceled. -/
theorem cancelReservation_status (hk : db.Keyed) {cmd : LedgerCancelCommand U}
    (h : db.cancelReservation env cmd = .ok (o, db')) :
    ∃ r, db'.reservation? cmd.paymentID = some r ∧ r.status = .canceled := by
  obtain ⟨r, hr, -, ⟨hs, -, rfl⟩ | ⟨hs, -, rfl⟩⟩ := cancelReservation_ok h
  · exact ⟨r, hr, hs⟩
  · refine ⟨cancelChange env cmd.reason r, ?_, rfl⟩
    exact (hk.reservation?_update (keepsPayload_cancelChange env cmd.reason) hr _).trans
      (if_pos rfl)

/-! The ledger leaves the wallet operations alone. -/

theorem reserveTransfer_operations {cmd : LedgerReserveCommand U}
    (h : db.reserveTransfer env cmd = .ok (r, db')) : db'.operations = db.operations := by
  obtain ⟨currency, -, -, ⟨-, rfl⟩ | ⟨-, rfl, -, rfl⟩⟩ := reserveTransfer_ok h <;> rfl

theorem confirmTransfer_operations (h : db.confirmTransfer env cmd = .ok (c, db')) :
    db'.operations = db.operations := by
  obtain ⟨r, -, -, ⟨-, -, rfl⟩ | ⟨-, source, target, -, -, -, -, -, -, rfl⟩⟩ :=
    confirmTransfer_ok h <;> rfl

theorem cancelReservation_operations {cmd : LedgerCancelCommand U}
    (h : db.cancelReservation env cmd = .ok (o, db')) : db'.operations = db.operations := by
  obtain ⟨r, -, -, ⟨-, -, rfl⟩ | ⟨-, -, rfl⟩⟩ := cancelReservation_ok h <;> rfl

end Transactions

end Database

end EnjoyThings
