import EnjoyThings.Spec.DoubleEntry

/-!
# The lifecycle of a reservation

A reservation is made once for a payment, and then either confirmed or canceled. The update
of the status has no condition of its own: what makes it one-way is the lock on the row, which
is held from the look at the status to the commit. Two first reservations of one payment have
no row to lock, and the unique index lets one of them through.

## Key results

- `WalletCall.Step.lifecycle`: one call
- `reservations_one_way`: every run
-/

namespace EnjoyThings

open Effect

/-- The calls on reservations. -/
def WalletCall.OnReservation {U : Type} : WalletCall U → Prop
  | .reserveTransfer _ | .confirmTransfer _ | .cancelReservation _ => True
  | _ => False

namespace Database

variable {U : Type} [UuidLib U] {db db' db₀ : Database U} {r : LedgerReservation U}
  {t : Transfer U}

/-! ## Reservations and their transfers -/

/-- The transfers made for a reservation. -/
def transfersOf (db : Database U) (r : LedgerReservation U) : List (Transfer U) :=
  db.transfers.filter fun t => r.transferID = some t.id

/-- One transfer was made for the reservation, with its wallets, its amount and two entries. -/
def PaidOut (db : Database U) (r : LedgerReservation U) : Prop :=
  ∃ t, db.transfersOf r = [t] ∧ t.fromWalletID = r.fromWalletID ∧
    t.toWalletID = r.toWalletID ∧ t.amount = r.amountCents ∧ db.Booked t

/-- Tables whose reservations have a transfer exactly when they are confirmed, each its own. -/
structure Lifecycle (db : Database U) : Prop where
  doubleEntry : db.DoubleEntry
  paid : ∀ r ∈ db.reservations, r.status = .confirmed → db.PaidOut r
  unpaid : ∀ r ∈ db.reservations, r.status ≠ .confirmed → r.transferID = none
  own : ∀ r ∈ db.reservations, ∀ o ∈ db.reservations, ∀ id, r.transferID = some id →
    o.transferID = some id → r = o

theorem PaidOut.transferID (h : db.PaidOut r) :
    ∃ t ∈ db.transfers, r.transferID = some t.id := by
  obtain ⟨t, ht, -⟩ := h
  have hmem : t ∈ db.transfersOf r := ht ▸ List.mem_cons_self
  exact ⟨t, (List.mem_filter.mp hmem).1, of_decide_eq_true (List.mem_filter.mp hmem).2⟩

theorem PaidOut.of_eq (h : db.PaidOut r) (hts : db'.transfers = db.transfers)
    (hes : db'.ledgerEntries = db.ledgerEntries) : db'.PaidOut r := by
  obtain ⟨t, ht, hfrom, hto, hamount, hbooked⟩ := h
  refine ⟨t, ?_, hfrom, hto, hamount, hbooked.of_eq hes⟩
  rw [transfersOf, hts]
  exact ht

/-- A transfer ID a reservation has is that of a transfer. -/
theorem Lifecycle.transferID_mem (h : db.Lifecycle) (hr : r ∈ db.reservations) {id : U}
    (hid : r.transferID = some id) : ∃ t ∈ db.transfers, t.id = id := by
  have hconfirmed : r.status = .confirmed := by
    by_contra hs
    rw [h.unpaid r hr hs] at hid
    cases hid
  obtain ⟨t, ht, htid⟩ := (h.paid r hr hconfirmed).transferID
  exact ⟨t, ht, Option.some.inj (htid.symm.trans hid)⟩

/-- A reservation has a transfer if and only if it is confirmed. -/
theorem Lifecycle.confirmed_iff (h : db.Lifecycle) (hr : r ∈ db.reservations) :
    r.status = .confirmed ↔ db.PaidOut r := by
  refine ⟨h.paid r hr, fun hpaid => ?_⟩
  by_contra hs
  obtain ⟨t, -, hid⟩ := hpaid.transferID
  rw [h.unpaid r hr hs] at hid
  cases hid

/-! ## One call -/

/-- A new reservation. -/
theorem Lifecycle.reserve (h : db.Lifecycle) (hk : db'.Keyed) (hs : r.status = .reserved)
    (hid : r.transferID = none) (hrs : db'.reservations = db.reservations ++ [r])
    (hts : db'.transfers = db.transfers) (hes : db'.ledgerEntries = db.ledgerEntries) :
    db'.Lifecycle := by
  have hcases : ∀ o ∈ db'.reservations, o ∈ db.reservations ∨ o = r := by
    intro o ho
    simpa [hrs] using ho
  refine ⟨h.doubleEntry.of_eq hk hts hes, fun o ho hconfirmed => ?_, fun o ho hopen => ?_, ?_⟩
  · rcases hcases o ho with ho | rfl
    · exact (h.paid o ho hconfirmed).of_eq hts hes
    · rw [hs] at hconfirmed
      cases hconfirmed
  · rcases hcases o ho with ho | rfl
    · exact h.unpaid o ho hopen
    · exact hid
  · -- the new one has no transfer to share
    intro o ho o' ho' id hoid hoid'
    rcases hcases o ho with ho | rfl
    · rcases hcases o' ho' with ho' | rfl
      · exact h.own o ho o' ho' id hoid hoid'
      · rw [hid] at hoid'
        cases hoid'
    · rw [hid] at hoid
      cases hoid

/-- A row of the updated table, and the row it was. -/
theorem mem_updateReservation {change : LedgerReservation U → LedgerReservation U}
    (hk : db.Keyed) (hr : r ∈ db.reservations) {o : LedgerReservation U}
    (ho : o ∈ (db.updateReservation r.id change).reservations) :
    o = change r ∨ o ∈ db.reservations ∧ o ≠ r := by
  obtain ⟨old, hold, rfl⟩ := List.mem_map.mp ho
  by_cases hid : old.id = r.id
  · rw [hk.eq_of_id hr hold hid]
    exact .inl (if_pos rfl)
  · rw [if_neg hid]
    exact .inr ⟨hold, fun he => hid (he ▸ rfl)⟩

/-- A reservation that is canceled. -/
theorem Lifecycle.cancel (h : db.Lifecycle) {env : TxEnv U} {reason : String}
    (hk : (db.updateReservation r.id (cancelChange env reason)).Keyed)
    (hr : r ∈ db.reservations) (hs : r.status = .reserved) :
    (db.updateReservation r.id (cancelChange env reason)).Lifecycle := by
  have hnone : (cancelChange env reason r).transferID = none :=
    h.unpaid r hr (by simp [hs])
  have hcases : ∀ o ∈ (db.updateReservation r.id (cancelChange env reason)).reservations,
      o = cancelChange env reason r ∨ o ∈ db.reservations ∧ o ≠ r :=
    fun _ ho => mem_updateReservation h.doubleEntry.keyed hr ho
  refine ⟨h.doubleEntry.of_eq hk rfl rfl, fun o ho hconfirmed => ?_, fun o ho hopen => ?_, ?_⟩
  · rcases hcases o ho with rfl | ⟨ho, -⟩
    · cases hconfirmed
    · exact (h.paid o ho hconfirmed).of_eq rfl rfl
  · rcases hcases o ho with rfl | ⟨ho, -⟩
    · exact hnone
    · exact h.unpaid o ho hopen
  · intro o ho o' ho' id hoid hoid'
    rcases hcases o ho with rfl | ⟨ho, -⟩
    · rw [hnone] at hoid
      cases hoid
    · rcases hcases o' ho' with rfl | ⟨ho', -⟩
      · rw [hnone] at hoid'
        cases hoid'
      · exact h.own o ho o' ho' id hoid hoid'

/-- A reservation that is confirmed, with its transfer and the two entries. -/
theorem Lifecycle.confirm (h : db.Lifecycle) (hd : db'.DoubleEntry)
    {change : LedgerReservation U → LedgerReservation U} (hr : r ∈ db.reservations)
    (hpair : db.NewPair db' t) (hfresh : ∀ o ∈ db.transfers, o.id ≠ t.id)
    (hts : db'.transfers = db.transfers ++ [t])
    (hrs : db'.reservations = (db.updateReservation r.id change).reservations)
    (hs : (change r).status = .confirmed) (hid : (change r).transferID = some t.id)
    (hfrom : t.fromWalletID = (change r).fromWalletID)
    (hto : t.toWalletID = (change r).toWalletID) (hamount : t.amount = (change r).amountCents) :
    db'.Lifecycle := by
  have hcases : ∀ o ∈ db'.reservations, o = change r ∨ o ∈ db.reservations ∧ o ≠ r := by
    intro o ho
    rw [hrs] at ho
    exact mem_updateReservation h.doubleEntry.keyed hr ho
  -- the ID of the new transfer is not that of another reservation's
  have hother : ∀ o ∈ db.reservations, o.transferID ≠ some t.id := by
    intro o ho hoid
    obtain ⟨t', ht', hid'⟩ := h.transferID_mem ho hoid
    exact hfresh t' ht' hid'
  refine ⟨hd, fun o ho hconfirmed => ?_, fun o ho hopen => ?_, ?_⟩
  · rcases hcases o ho with rfl | ⟨ho, -⟩
    · refine ⟨t, ?_, hfrom, hto, hamount, hpair.booked⟩
      have hold : (db.transfers.filter fun o => (change r).transferID = some o.id) = [] := by
        rw [List.filter_eq_nil_iff]
        intro o ho hmatch
        rw [hid] at hmatch
        exact hfresh o ho (Option.some.inj (of_decide_eq_true hmatch)).symm
      rw [transfersOf, hts, List.filter_append, hold]
      simp [hid]
    · obtain ⟨t', ht', hfrom', hto', hamount', hbooked'⟩ := h.paid o ho hconfirmed
      have hmem : t' ∈ db.transfersOf o := ht' ▸ List.mem_cons_self
      have hne : t'.id ≠ t.id := hfresh t' (List.mem_filter.mp hmem).1
      refine ⟨t', ?_, hfrom', hto', hamount', (hpair.other hne).2 hbooked'⟩
      rw [transfersOf, hts, List.filter_append]
      simpa [hother o ho, transfersOf] using ht'
  · rcases hcases o ho with rfl | ⟨ho, -⟩
    · exact absurd hs hopen
    · exact h.unpaid o ho hopen
  · intro o ho o' ho' id hoid hoid'
    rcases hcases o ho with rfl | ⟨ho, -⟩
    · rcases hcases o' ho' with rfl | ⟨ho', -⟩
      · rfl
      · exact absurd (hoid'.trans (hoid.symm.trans hid)) (hother o' ho')
    · rcases hcases o' ho' with rfl | ⟨ho', -⟩
      · exact absurd (hoid.trans (hoid'.symm.trans hid)) (hother o ho)
      · exact h.own o ho o' ho' id hoid hoid'

/-- The transfers of `db` that `db₀` does not have were made for reservations. -/
def MadeFor (db₀ db : Database U) : Prop :=
  ∀ t ∈ db.transfers, t ∈ db₀.transfers ∨ ∃ r ∈ db.reservations, r.transferID = some t.id

end Database

namespace WalletCall

variable {U : Type} [UuidLib U] {db db' db₀ : Database U} {outboxTopic : String} {env : TxEnv U}

theorem Step.lifecycle {call : WalletCall U} (h : call.Step outboxTopic env db db')
    (hon : call.OnReservation) (hl : db.Lifecycle) : db'.Lifecycle := by
  have hk := hl.doubleEntry.keyed
  have hk' := (h.extends hk).1
  have hd' := h.doubleEntry hl.doubleEntry fun transfer hcall => by
    rw [hcall] at hon
    exact hon.elim
  cases call with
  | reserveTransfer =>
    obtain ⟨r, h⟩ := h
    obtain ⟨currency, -, -, ⟨-, rfl⟩ | ⟨-, hr, -, rfl⟩⟩ := Database.reserveTransfer_ok h
    · exact hl
    · exact hl.reserve hk' (r := r) (by rw [hr]; rfl) (by rw [hr]; rfl) rfl rfl rfl
  | confirmTransfer cmd =>
    obtain ⟨c, h⟩ := h
    obtain ⟨r, hr, -, ⟨-, -, rfl⟩ | ⟨hs, source, target, hsource, htarget, -, -, hfresh, -, rfl⟩⟩ :=
      Database.confirmTransfer_ok h
    · exact hl
    · refine hl.confirm (t := Database.newTransfer env r.fromWalletID r.toWalletID r.amountCents)
        hd' (Database.reservation?_some hr).1
        ⟨hl.doubleEntry.unbooked_of_fresh hfresh, _, _, rfl, ?_, ?_⟩ hfresh rfl rfl rfl rfl rfl rfl
        rfl
      · exact ⟨rfl, rfl, (Database.wallet?_some hsource).2, rfl⟩
      · exact ⟨rfl, rfl, (Database.wallet?_some htarget).2, rfl⟩
  | cancelReservation cmd =>
    obtain ⟨o, h⟩ := h
    obtain ⟨r, hr, -, ⟨-, -, rfl⟩ | ⟨hs, -, rfl⟩⟩ := Database.cancelReservation_ok h
    · exact hl
    · exact hl.cancel hk' (Database.reservation?_some hr).1 hs
  | createTransfer | debitForSaga | compensateDebit | appendTransferEntries
  | handleRecord => exact hon.elim

/-- Transfers are only made for reservations, whose IDs of them stay. -/
theorem Step.madeFor {call : WalletCall U} (h : call.Step outboxTopic env db db')
    (hon : call.OnReservation) (hl : db.Lifecycle) (hm : db₀.MadeFor db) : db₀.MadeFor db' := by
  have hk := hl.doubleEntry.keyed
  cases call with
  | reserveTransfer =>
    obtain ⟨r, h⟩ := h
    obtain ⟨currency, -, -, ⟨-, rfl⟩ | ⟨-, hr, -, rfl⟩⟩ := Database.reserveTransfer_ok h
    · exact hm
    · intro t ht
      refine (hm t ht).imp_right fun ⟨o, ho, hid⟩ => ?_
      exact ⟨o, List.mem_append_left _ ho, hid⟩
  | confirmTransfer cmd =>
    obtain ⟨c, h⟩ := h
    obtain ⟨r, hr, -, ⟨-, -, rfl⟩ | ⟨hs, source, target, -, -, -, -, -, -, rfl⟩⟩ :=
      Database.confirmTransfer_ok h
    · exact hm
    · intro t ht
      have hrmem := (Database.reservation?_some hr).1
      rcases List.mem_concat_iff.mp ht with ht | rfl
      · refine (hm t ht).imp_right fun ⟨o, ho, hid⟩ => ⟨o, ?_, hid⟩
        -- a reservation that has a transfer is not the one that is being confirmed
        refine List.mem_map.mpr ⟨o, ho, if_neg fun he => ?_⟩
        rw [hk.eq_of_id hrmem ho he, hl.unpaid r hrmem (by simp [hs])] at hid
        cases hid
      · exact .inr ⟨_, List.mem_map_of_mem hrmem, by rw [if_pos rfl]; rfl⟩
  | cancelReservation cmd =>
    obtain ⟨o, h⟩ := h
    obtain ⟨r, hr, -, ⟨-, -, rfl⟩ | ⟨hs, -, rfl⟩⟩ := Database.cancelReservation_ok h
    · exact hm
    · intro t ht
      refine (hm t ht).imp_right fun ⟨o, ho, hid⟩ => ⟨_, List.mem_map_of_mem ho, ?_⟩
      split <;> exact hid
  | createTransfer | debitForSaga | compensateDebit | appendTransferEntries
  | handleRecord => exact hon.elim

/-- What a call may find when it commits: a reservation that is there already is left alone by
    another one of the payment, a canceled one is not confirmed and a confirmed one not canceled. -/
def Permitted (db db' : Database U) : WalletCall U → Prop
  | .reserveTransfer cmd => (db.reservation? cmd.paymentID).isSome → db' = db
  | .confirmTransfer cmd => ∃ r, db.reservation? cmd.paymentID = some r ∧ r.status ≠ .canceled
  | .cancelReservation cmd => ∃ r, db.reservation? cmd.paymentID = some r ∧ r.status ≠ .confirmed
  | _ => True

theorem Step.permitted {call : WalletCall U} (h : call.Step outboxTopic env db db') :
    call.Permitted db db' := by
  cases call with
  | reserveTransfer =>
    obtain ⟨r, h⟩ := h
    obtain ⟨currency, -, -, ⟨-, rfl⟩ | ⟨hnone, -, -, -⟩⟩ := Database.reserveTransfer_ok h
    · exact fun _ => rfl
    · intro hsome
      rw [hnone] at hsome
      cases hsome
  | confirmTransfer cmd =>
    obtain ⟨c, h⟩ := h
    obtain ⟨r, hr, -, ⟨hs, -, -⟩ | ⟨hs, -⟩⟩ := Database.confirmTransfer_ok h <;>
      exact ⟨r, hr, by simp [hs]⟩
  | cancelReservation cmd =>
    obtain ⟨o, h⟩ := h
    obtain ⟨r, hr, -, ⟨hs, -, -⟩ | ⟨hs, -, -⟩⟩ := Database.cancelReservation_ok h <;>
      exact ⟨r, hr, by simp [hs]⟩
  | createTransfer | debitForSaga | compensateDebit | appendTransferEntries
  | handleRecord => trivial

end WalletCall

/-! ## Runs -/

section Runs

variable {U : Type} [UuidLib U]

/-- The reservations of `db` are still there, with the same wallets, amount and currency. -/
def Database.OneWay (db db' : Database U) : Prop :=
  ∀ r ∈ db.reservations, ∃ r' ∈ db'.reservations, r'.paymentID = r.paymentID ∧
    r'.fromWalletID = r.fromWalletID ∧ r'.toWalletID = r.toWalletID ∧
    r'.amountCents = r.amountCents ∧ r'.currency = r.currency ∧
    (r'.status = r.status ∨
      r.status = .reserved ∧ (r'.status = .confirmed ∨ r'.status = .canceled))

theorem Database.Extends.oneWay {db db' : Database U} (h : db.Extends db') (hk : db.Keyed) :
    db.OneWay db' := by
  intro r hr
  obtain ⟨r', hr', hlater⟩ := h.reservation (hk.reservation?_of_mem hr)
  obtain ⟨hmem, hpayment⟩ := Database.reservation?_some hr'
  refine ⟨r', hmem, hpayment, hlater.fromWalletID, hlater.toWalletID, hlater.amountCents,
    hlater.currency, ?_⟩
  by_cases hs : r.status = .reserved
  · rw [hs]
    cases r'.status <;> simp
  · rw [hlater.settled hs]
    exact .inl rfl

/-- The tables of a run on reservations that started with `db₀`. -/
structure Database.Exclusive (db₀ db : Database U) : Prop where
  once : ∀ paymentID, (db.reservations.filter (·.paymentID = paymentID)).length ≤ 1
  /-- A reservation is confirmed if and only if it has its transfer, which is no other's. -/
  confirmed : ∀ r ∈ db.reservations, r.status = .confirmed ↔ db.PaidOut r
  own : ∀ r ∈ db.reservations, ∀ o ∈ db.reservations, ∀ id, r.transferID = some id →
    o.transferID = some id → r = o
  made : db₀.MadeFor db

/-- What the calls on reservations have returned. -/
structure WalletAnswers.OneWay (answers : List (WalletAnswer U)) : Prop where
  confirmed : ∀ a ∈ answers, ∀ b ∈ answers, ∀ cmd cmd' c c', a.call = .confirmTransfer cmd →
    b.call = .confirmTransfer cmd' → cmd.paymentID = cmd'.paymentID →
    a.result = .ok (.confirmation c) → b.result = .ok (.confirmation c') →
    c.transferID = c'.transferID
  confirmCanceled : ∀ a ∈ answers, ∀ cmd r, a.call = .confirmTransfer cmd →
    a.start.reservation? cmd.paymentID = some r → r.status = .canceled →
    ∃ e, a.result = .error e
  cancelConfirmed : ∀ a ∈ answers, ∀ cmd r, a.call = .cancelReservation cmd →
    a.start.reservation? cmd.paymentID = some r → r.status = .confirmed →
    ∃ e, a.result = .error e
  repeated : ∀ a ∈ answers, ∀ cmd r currency, a.call = .reserveTransfer cmd →
    a.start.reservation? cmd.paymentID = some r → cmd.Accepted currency →
    a.result = .error .down ∨ cmd.Repeats r currency a.result

theorem WalletAnswers.oneWay {answers : List (WalletAnswer U)} {db : Database U}
    (h : ∀ a ∈ answers, a.Holds db) : WalletAnswers.OneWay answers where
  confirmed a ha b hb cmd cmd' c c' hacall hbcall hpayment haok hbok := by
    have hareplied := (h a ha).replied _ haok
    have hbreplied := (h b hb).replied _ hbok
    rw [hacall] at hareplied
    rw [hbcall] at hbreplied
    obtain ⟨r, hr, hstored, -⟩ := hareplied
    obtain ⟨r', hr', hstored', -⟩ := hbreplied
    -- both were answered with the row of the payment
    rw [hpayment] at hstored
    cases hstored.symm.trans hstored'
    rw [WalletReply.confirmation.inj hr, WalletReply.confirmation.inj hr']
  confirmCanceled a ha cmd r hcall hstart hs := by
    cases hresult : a.result with
    | error e => exact ⟨e, rfl⟩
    | ok reply =>
      have hreplied := (h a ha).replied reply hresult
      rw [hcall] at hreplied
      obtain ⟨r', -, hstored, hs'⟩ := hreplied
      have hsame := (h a ha).since.reservation_eq hstart (by simp [hs])
      rw [← Option.some.inj (hsame.symm.trans hstored), hs] at hs'
      cases hs'
  cancelConfirmed a ha cmd r hcall hstart hs := by
    cases hresult : a.result with
    | error e => exact ⟨e, rfl⟩
    | ok reply =>
      have hreplied := (h a ha).replied reply hresult
      rw [hcall] at hreplied
      obtain ⟨r', -, hstored, hs'⟩ := hreplied
      have hsame := (h a ha).since.reservation_eq hstart (by simp [hs])
      rw [← Option.some.inj (hsame.symm.trans hstored), hs] at hs'
      cases hs'
  repeated a ha := (h a ha).repeated

/-- Any number of ReserveTransfer, ConfirmTransfer and CancelReservation calls, in any
    interleaving of their statements and with statements, commits and connections that fail. -/
theorem reservations_one_way {P : Type} [DecidableEq P] (outboxTopic : String)
    (decoders : Decoders Payload) (db₀ : Database U) (h₀ : db₀.Lifecycle)
    (acts acts' : List (WalletAct P U))
    (hcalls : ∀ p call, .deliver p call ∈ acts ++ acts' → call.OnReservation) :
    db₀.Exclusive (walletRun outboxTopic decoders db₀ acts).world.committed ∧
    (walletRun outboxTopic decoders db₀ acts).world.committed.OneWay
      (walletRun outboxTopic decoders db₀ (acts ++ acts')).world.committed ∧
    Serial (fun call _ db db' => call.Permitted db db') db₀
      (walletRun outboxTopic decoders db₀ acts).world.log
      (walletRun outboxTopic decoders db₀ acts).world.committed ∧
    WalletAnswers.OneWay (walletRun outboxTopic decoders db₀ acts).world.answers := by
  have hinv := walletRun_serial outboxTopic decoders acts h₀.doubleEntry.keyed
    fun p call hmem => hcalls p call (List.mem_append_left _ hmem)
  have hboth := hinv.serial.inv (I := fun db => db.Lifecycle ∧ db₀.MadeFor db)
    ⟨h₀, fun t ht => .inl ht⟩ ?_
  · obtain ⟨hl, hmade⟩ := hboth
    have hk := hl.doubleEntry.keyed
    refine ⟨⟨fun paymentID => List.length_filter_key_le hk.reservations paymentID,
      fun r hr => hl.confirmed_iff hr, hl.own, hmade⟩, ?_, ?_, WalletAnswers.oneWay hinv.attested⟩
    · have hext := walletRun_extends outboxTopic decoders acts acts' h₀.doubleEntry.keyed hcalls
      exact hext.oneWay hk
    · exact hinv.serial.mono (I := fun _ => True) trivial
        fun hcommit _ => ⟨trivial, hcommit.step.permitted⟩
  · intro call env db db' hcommit hdb
    -- no record was handled, so every commit is one of these calls
    rcases hcommit.requested with hon | ⟨offset, transfer, hon, -⟩
    · exact ⟨hcommit.step.lifecycle hon hdb.1, hcommit.step.madeFor hon hdb.1 hdb.2⟩
    · exact hon.elim

end Runs

namespace Sample

def reserveCommand : LedgerReserveCommand CanonicalUuid :=
  { paymentID := paymentID, idempotencyKey := "reserve-1", traceID := "trace-1",
    fromWalletID := payerWallet, toWalletID := payeeWallet, amountCents := 300,
    currency := defaultCurrency }

/-- The second step of the run draws the ID of the reservation. -/
def confirmCommand : LedgerConfirmCommand CanonicalUuid :=
  { paymentID := paymentID, idempotencyKey := "confirm-1", traceID := "trace-1",
    ledgerReservationID := (choice 1).env.reservationID, walletDebitID := id 6 }

def cancelCommand : LedgerCancelCommand CanonicalUuid :=
  { paymentID := paymentID, idempotencyKey := "cancel-1", traceID := "trace-1",
    ledgerReservationID := (choice 1).env.reservationID, reason := "expired" }

/-- A reservation, and then a confirmation that has looked at it when a cancellation comes. -/
def reserveConfirmCancel : List (WalletAct Bool CanonicalUuid) :=
  [.deliver true (.reserveTransfer reserveCommand)] ++ walletSteps true 0 10 ++
    [.deliver true (.confirmTransfer confirmCommand),
      .deliver false (.cancelReservation cancelCommand)] ++
    walletSteps true 10 3 ++ walletSteps false 13 2 ++ walletSteps true 15 10 ++
    walletSteps false 25 6

theorem world_lifecycle : world.db.Lifecycle where
  doubleEntry := world_doubleEntry
  paid := by simp [world]
  unpaid := by simp [world]
  own := by simp [world]

/-- The confirmation goes through, and the cancellation that comes in between fails. -/
theorem reserveConfirmCancel_one_way :
    (walletRun "" walletDecoders world.db reserveConfirmCancel).world.answers.map
        (fun a => a.result.isOk) = [true, true, false] ∧
    world.db.Exclusive
      (walletRun "" walletDecoders world.db reserveConfirmCancel).world.committed ∧
    (walletRun "" walletDecoders world.db reserveConfirmCancel).world.committed.OneWay
      (walletRun "" walletDecoders world.db (reserveConfirmCancel ++ [])).world.committed ∧
    Serial (fun call _ db db' => call.Permitted db db') world.db
      (walletRun "" walletDecoders world.db reserveConfirmCancel).world.log
      (walletRun "" walletDecoders world.db reserveConfirmCancel).world.committed ∧
    WalletAnswers.OneWay
      (walletRun "" walletDecoders world.db reserveConfirmCancel).world.answers := by
  refine ⟨by decide +kernel, reservations_one_way "" walletDecoders world.db world_lifecycle
    reserveConfirmCancel [] fun p call hmem => ?_⟩
  simp only [reserveConfirmCancel, walletSteps, List.mem_append, List.mem_map, List.mem_cons,
    List.not_mem_nil, reduceCtorEq, and_false, exists_false, or_false,
    TeamAct.deliver.injEq] at hmem
  rcases hmem with ⟨-, rfl⟩ | ⟨-, rfl⟩ | ⟨-, rfl⟩ <;> trivial

end Sample

end EnjoyThings
