import EnjoyThings.Spec.SagaExclusive

/-!
# The causal order of a payment

Verification comes before the debit, the debit before the reservation and the
reservation before `payment.execute`. The stages are told apart by the state
column only, and handlers overwrite it with stale values. But a row never claims
a stage whose prerequisite is not there: `Stage` says what the state of a copy
promises, and operations, reservations and answers stay once they are there.

Payment IDs are assumed to be canonical, because two spellings of one UUID are two
sagas for the orchestrator and one payment for the other services.
-/

namespace EnjoyThings

open Effect Orchestrator

variable {U : Type} [UuidLib U] {w w' : World U} {s s' : Saga}

/-- A canonical text is the text of what it parses to. -/
theorem Canonical.eq_text {t : String} {u : U} (h : Canonical U t) (hu : parse t = some u) :
    t = text u :=
  h.eq_of_parse ⟨u, rfl⟩ hu (UuidLib.parse_text u)

/-! ## Prerequisites -/

/-- A debit with the source wallet, the amount and the currency of the saga. -/
structure DebitFor (s : Saga) (op : SagaWalletOperation U) : Prop where
  operation : op.operation = .debit
  paymentID : parse s.paymentID = some op.paymentID
  walletID : parse s.fromWalletID = some op.walletID
  amountCents : op.amountCents = s.amountCents
  currency : normalizeCurrency s.currency = .ok op.currency

/-- A reservation with the wallets, the amount and the currency of the saga. -/
structure ReservationFor (s : Saga) (r : LedgerReservation U) : Prop where
  paymentID : parse s.paymentID = some r.paymentID
  fromWalletID : parse s.fromWalletID = some r.fromWalletID
  toWalletID : parse s.toWalletID = some r.toWalletID
  amountCents : r.amountCents = s.amountCents
  currency : normalizeCurrency s.currency = .ok r.currency

/-- Verification has answered that the user is verified. -/
def World.Verified (w : World U) (userID : String) : Prop :=
  ∃ x ∈ w.answers, x.1.userID = userID ∧ x.2.status = verificationVerified

/-- The debit for the saga is there, under the ID. -/
def World.Debited (w : World U) (s : Saga) (id : String) : Prop :=
  ∃ op, w.db.operation? op.paymentID .debit = some op ∧ DebitFor s op ∧ id = text op.id

/-- The reservation for the saga is there, under the ID. -/
def World.Reserved (w : World U) (s : Saga) (id : String) : Prop :=
  ∃ r, w.db.reservation? r.paymentID = some r ∧ ReservationFor s r ∧ id = text r.id

/-- The copy has the payload the saga was started with. -/
def World.Started (w : World U) (s : Saga) : Prop :=
  ∃ r ∈ w.sagas, sameStartPayload r s

/-- What the state of a copy promises. -/
def Stage (w : World U) (s : Saga) : Prop :=
  match s.state with
  | .verificationChecked => w.Verified s.userID
  | .walletDebited => w.Debited s s.walletDebitID
  | .ledgerReserved => w.Debited s s.walletDebitID ∧ w.Reserved s s.ledgerReservationID
  | _ => True

theorem DebitFor.congr {op : SagaWalletOperation U} (h : DebitFor s op)
    (hs : sameStartPayload s' s) : DebitFor s' op := by
  obtain ⟨h₁, -, -, h₄, -, h₆, h₇⟩ := hs
  exact ⟨h.operation, h₁ ▸ h.paymentID, h₄ ▸ h.walletID, h₆ ▸ h.amountCents, h₇ ▸ h.currency⟩

theorem ReservationFor.congr {r : LedgerReservation U} (h : ReservationFor s r)
    (hs : sameStartPayload s' s) : ReservationFor s' r := by
  obtain ⟨h₁, -, -, h₄, h₅, h₆, h₇⟩ := hs
  exact ⟨h₁ ▸ h.paymentID, h₄ ▸ h.fromWalletID, h₅ ▸ h.toWalletID, h₆ ▸ h.amountCents,
    h₇ ▸ h.currency⟩

theorem World.Verified.grows {userID : String} (h : w.Verified userID) (hg : w.Grows w') :
    w'.Verified userID := by
  obtain ⟨x, hx, h⟩ := h
  exact ⟨x, hg.answers x hx, h⟩

theorem World.Debited.grows {id : String} (h : w.Debited s id) (hg : w.db.Grows w'.db)
    (hs : sameStartPayload s' s) : w'.Debited s' id := by
  obtain ⟨op, hop, hfor, hid⟩ := h
  exact ⟨op, hg.operation hop, hfor.congr hs, hid⟩

theorem World.Reserved.grows {id : String} (h : w.Reserved s id) (hg : w.db.Grows w'.db)
    (hs : sameStartPayload s' s) : w'.Reserved s' id := by
  obtain ⟨r, hr, hfor, hid⟩ := h
  obtain ⟨r', hr', hl⟩ := hg.reservation hr
  have hpid : r'.paymentID = r.paymentID := (Database.reservation?_some hr').2
  have hfor' := hfor.congr hs
  refine ⟨r', by rw [hpid]; exact hr', ⟨?_, ?_, ?_, ?_, ?_⟩, by rw [hl.id]; exact hid⟩
  · rw [hpid]
    exact hfor'.paymentID
  · rw [hl.fromWalletID]
    exact hfor'.fromWalletID
  · rw [hl.toWalletID]
    exact hfor'.toWalletID
  · rw [hl.amountCents]
    exact hfor'.amountCents
  · rw [hl.currency]
    exact hfor'.currency

theorem World.Started.grows (h : w.Started s) (hg : w.Grows w') : w'.Started s := by
  obtain ⟨r, hr, hs⟩ := h
  obtain ⟨r', hr', hs'⟩ := hg.sagas r hr
  exact ⟨r', hr', hs'.trans hs⟩

/-- The promise holds for every row with the same payload, state and IDs. -/
theorem Stage.grows (h : Stage w s) (hg : w.Grows w') (hs : sameStartPayload s' s)
    (hstate : s'.state = s.state) (hdebit : s'.walletDebitID = s.walletDebitID)
    (hres : s'.ledgerReservationID = s.ledgerReservationID) : Stage w' s' := by
  unfold Stage at h ⊢
  rw [hstate, hdebit, hres]
  cases hst : s.state with
  | verificationChecked =>
    rw [hst] at h
    have hu : s'.userID = s.userID := hs.2.2.1
    rw [hu]
    exact World.Verified.grows h hg
  | walletDebited =>
    rw [hst] at h
    exact World.Debited.grows h hg.db hs
  | ledgerReserved =>
    rw [hst] at h
    exact ⟨World.Debited.grows h.1 hg.db hs, World.Reserved.grows h.2 hg.db hs⟩
  | _ => trivial

/-! ## The invariant -/

/-- How many of the outbox rows ask the rail to execute the payment. -/
def executeCount (records : List OutboxRecord) (paymentID : String) : Nat :=
  records.countP fun record =>
    match record.payload with
    | .paymentExecute event => event.paymentID = paymentID
    | _ => false

/-- How many of the outbox rows ask for a fraud score of the payment. -/
def scoreCount (records : List OutboxRecord) (paymentID : String) : Nat :=
  records.countP fun record =>
    match record.payload with
    | .fraudScoreRequested event => event.paymentID = paymentID
    | _ => false

structure World.Causal (w : World U) : Prop where
  keyed : w.Keyed
  canonical : ∀ s ∈ w.sagas, Canonical U s.paymentID
  debits : ∀ op ∈ w.db.operations, op.operation = .debit →
    ∃ s, w.Started s ∧ DebitFor s op ∧ w.Verified s.userID
  reservations : ∀ r ∈ w.db.reservations,
    ∃ s id, w.Started s ∧ parse s.paymentID = some r.paymentID ∧ w.Debited s id
  executes : ∀ record ∈ w.db.outbox, ∀ event, record.payload = .paymentExecute event →
    ∃ s, w.Started s ∧ s.paymentID = event.paymentID ∧ w.Debited s event.walletDebitID ∧
      w.Reserved s event.ledgerReservationID
  scores : ∀ paymentID, executeCount w.db.outbox paymentID = scoreCount w.db.outbox paymentID
  rows : ∀ s ∈ w.sagas, Stage w s

/-- The facts a handler can count on. -/
def CausalFact : Fact → World U → Prop
  | .row s, w => w.Started s ∧ Stage w s
  | .verified s, w => w.Started s ∧ w.Verified s.userID
  | .debited s id, w => w.Started s ∧ w.Debited s id
  | .reserved s id, w => w.Started s ∧ w.Debited s s.walletDebitID ∧ w.Reserved s id
  | .unverified s, w | .confirmed s _, w | .announced s, w => w.Started s
  | .canceled s, w | .compensated s, w | .failed s, w => w.Started s

theorem CausalFact.grows {f : Fact} (h : CausalFact f w) (hg : w.Grows w') : CausalFact f w' := by
  cases f with
  | row s => exact ⟨h.1.grows hg, h.2.grows hg (.refl s) rfl rfl rfl⟩
  | verified s => exact ⟨h.1.grows hg, h.2.grows hg⟩
  | debited s id => exact ⟨h.1.grows hg, h.2.grows hg.db (.refl s)⟩
  | reserved s id =>
    exact ⟨h.1.grows hg, h.2.1.grows hg.db (.refl s), h.2.2.grows hg.db (.refl s)⟩
  | unverified s | confirmed s _ | announced s | canceled s | compensated s | failed s =>
    exact World.Started.grows h hg

omit [UuidLib U] in
theorem World.started_of_mem (hs : s ∈ w.sagas) : w.Started s :=
  ⟨s, hs, .refl s⟩

namespace World.Causal

/-- What is new in a world that has grown needs its prerequisites in the world before. -/
theorem grows (h : w.Causal) (hk : w'.Keyed) (hg : w.Grows w')
    (hc : ∀ s ∈ w'.sagas, Canonical U s.paymentID)
    (hops : ∀ op ∈ w'.db.operations, op ∈ w.db.operations ∨ (op.operation = .debit →
      ∃ s, w.Started s ∧ DebitFor s op ∧ w.Verified s.userID))
    (hres : ∀ r ∈ w'.db.reservations, (∃ o ∈ w.db.reservations, o.paymentID = r.paymentID) ∨
      ∃ s id, w.Started s ∧ parse s.paymentID = some r.paymentID ∧ w.Debited s id)
    (hout : ∀ record ∈ w'.db.outbox, record ∈ w.db.outbox ∨
      ∀ event, record.payload = .paymentExecute event →
        ∃ s, w.Started s ∧ s.paymentID = event.paymentID ∧ w.Debited s event.walletDebitID ∧
          w.Reserved s event.ledgerReservationID)
    (hscores : ∀ paymentID,
      executeCount w'.db.outbox paymentID = scoreCount w'.db.outbox paymentID)
    (hrows : ∀ s ∈ w'.sagas, s ∈ w.sagas ∨ Stage w' s) : w'.Causal where
  keyed := hk
  canonical := hc
  debits op hop hkind := by
    have hold : ∃ s, w.Started s ∧ DebitFor s op ∧ w.Verified s.userID := by
      rcases hops op hop with hop | hnew
      · exact h.debits op hop hkind
      · exact hnew hkind
    obtain ⟨s, hs, hfor, hv⟩ := hold
    exact ⟨s, hs.grows hg, hfor, hv.grows hg⟩
  reservations r hr := by
    have hold : ∃ s id, w.Started s ∧ parse s.paymentID = some r.paymentID ∧ w.Debited s id := by
      rcases hres r hr with ⟨o, ho, hpid⟩ | hnew
      · rw [← hpid]
        exact h.reservations o ho
      · exact hnew
    obtain ⟨s, id, hs, hpid, hd⟩ := hold
    exact ⟨s, id, hs.grows hg, hpid, hd.grows hg.db (.refl s)⟩
  executes record hrecord event hevent := by
    have hold : ∃ s, w.Started s ∧ s.paymentID = event.paymentID ∧
        w.Debited s event.walletDebitID ∧ w.Reserved s event.ledgerReservationID := by
      rcases hout record hrecord with hrecord | hnew
      · exact h.executes record hrecord event hevent
      · exact hnew event hevent
    obtain ⟨s, hs, hpid, hd, hr⟩ := hold
    exact ⟨s, hs.grows hg, hpid, hd.grows hg.db (.refl s), hr.grows hg.db (.refl s)⟩
  scores := hscores
  rows s hs := by
    rcases hrows s hs with hs | hs
    · exact (h.rows s hs).grows hg (.refl s) rfl rfl rfl
    · exact hs

/-- A write of a row whose state promises what is there. -/
theorem wrote (h : w.Causal) {events : List OutboxRecord} (hw : w.Wrote s events s' w')
    (hs : w.Started s) (hstage : Stage w s)
    (hevents : ∀ record ∈ events, ∀ event, record.payload = .paymentExecute event →
      s.paymentID = event.paymentID ∧ w.Debited s event.walletDebitID ∧
        w.Reserved s event.ledgerReservationID)
    (hscores : ∀ paymentID, executeCount events paymentID = scoreCount events paymentID) :
    w'.Causal := by
  obtain ⟨hk, hg⟩ := hw.grows h.keyed
  refine h.grows hk hg (fun r hr => ?_) (fun op hop => ?_) (fun r hr => ?_)
    (fun record hrecord => ?_) (fun paymentID => ?_) (fun r hr => ?_)
  · rcases hw.rows r hr with hr | ⟨row, hrow, t, -, rfl⟩
    · exact h.canonical r hr
    · exact h.canonical row hrow
  · rw [hw.db] at hop
    exact .inl hop
  · rw [hw.db] at hr
    exact .inl ⟨r, hr, rfl⟩
  · rw [hw.db] at hrecord
    rcases List.mem_append.mp hrecord with hrecord | hrecord
    · exact .inl hrecord
    · exact .inr fun event hevent => ⟨s, hs, hevents record hrecord event hevent⟩
  · have hold := h.scores paymentID
    have hnew := hscores paymentID
    simp only [executeCount, scoreCount] at hold hnew ⊢
    rw [hw.db, List.countP_append, List.countP_append, hold, hnew]
  · rcases hw.rows r hr with hr | ⟨row, hrow, t, hpid, rfl⟩
    · exact .inl hr
    · -- the copy has the payload of the row it overwrites
      obtain ⟨r₀, hr₀, hsame⟩ := hs
      obtain rfl := h.keyed.eq_of_paymentID hr₀ hrow (hsame.1.trans hpid.symm)
      exact .inr (hstage.grows hg hsame rfl rfl rfl)

/-- Copies of sagas of one payment have one payload. -/
theorem samePayload (h : w.Causal) {u : U} (hs : w.Started s) (hs' : w.Started s')
    (hu : parse s.paymentID = some u) (hu' : parse s'.paymentID = some u) :
    sameStartPayload s s' := by
  obtain ⟨r, hr, hsame⟩ := hs
  obtain ⟨r', hr', hsame'⟩ := hs'
  have hpid : r.paymentID = r'.paymentID :=
    (h.canonical r hr).eq_of_parse (h.canonical r' hr') (hsame.1 ▸ hu) (hsame'.1 ▸ hu')
  obtain rfl := h.keyed.eq_of_paymentID hr hr' hpid
  exact hsame.symm.trans hsame'

/-- A transaction of the wallet or the ledger service. -/
theorem of_db (h : w.Causal) {db : Database U} (hk : db.Keyed) (hg : w.db.Grows db)
    (ho : db.outbox = w.db.outbox)
    (hops : ∀ op ∈ db.operations, op ∈ w.db.operations ∨ (op.operation = .debit →
      ∃ s, w.Started s ∧ DebitFor s op ∧ w.Verified s.userID))
    (hres : ∀ r ∈ db.reservations, (∃ o ∈ w.db.reservations, o.paymentID = r.paymentID) ∨
      ∃ s id, w.Started s ∧ parse s.paymentID = some r.paymentID ∧ w.Debited s id) :
    Causal { w with db := db } := by
  refine h.grows ⟨hk, h.keyed.sagas⟩ (.of_db hg) h.canonical hops hres (fun record hrecord => ?_)
    (fun paymentID => ?_) (fun s hs => .inl hs)
  · exact .inl (ho ▸ hrecord)
  · show executeCount db.outbox paymentID = scoreCount db.outbox paymentID
    rw [ho]
    exact h.scores paymentID

variable {env : TxEnv U} {db : Database U}

/-- The debit of a saga whose user is verified. -/
theorem debit (h : w.Causal) (hs : w.Started s) (hv : w.Verified s.userID)
    {r : WalletDebitResult}
    (hdb : WalletGRPCClient.debitForSaga w.db env (walletDebitRequest s) = .ok (r, db)) :
    Causal { w with db := db } ∧ World.Debited { w with db := db } s r.walletDebitID := by
  obtain ⟨u, fromWalletID, currency, op, hu, hfrom, hcurrency, hid, htx⟩ :=
    WalletGRPCClient.debitForSaga_ok hdb
  obtain ⟨hk, hg⟩ := Database.debitForSaga_grows h.keyed.db htx
  rcases Database.debitForSaga_ok htx with ⟨hop, rfl⟩ | ⟨-, wallet, hwallet, -, -, -, -, rfl, rfl⟩
  · -- the stored debit was made for a saga of the same payment
    obtain ⟨hmem, hpid, hkind⟩ := Database.operation?_some hop
    obtain ⟨s', hs', hfor, -⟩ := h.debits op hmem hkind
    have hsame := h.samePayload hs hs' hu (hfor.paymentID.trans (congrArg some hpid))
    exact ⟨h, op, by rw [hpid]; exact hop, hfor.congr hsame, hid⟩
  · have hwalletID := (Database.wallet?_some hwallet).2
    have hfor : DebitFor s (Database.debitOperation env
        { paymentID := u, fromWalletID := fromWalletID, amountCents := s.amountCents,
          currency := currency, idempotencyKey := stepKey s.paymentID "debit-wallet" } wallet) :=
      ⟨rfl, hu, hfrom.trans (congrArg some hwalletID.symm), rfl, hcurrency⟩
    refine ⟨h.of_db hk hg rfl (fun o ho => ?_) (fun o ho => .inl ⟨o, ho, rfl⟩), _,
      hk.operation?_of_mem List.mem_concat_self, hfor, hid⟩
    rcases List.mem_concat_iff.mp ho with ho | rfl
    · exact .inl ho
    · exact .inr fun _ => ⟨s, hs, hfor, hv⟩

/-- The reservation of a saga whose debit is there. -/
theorem reserve (h : w.Causal) (hs : w.Started s) {id : String} (hd : w.Debited s id)
    {r : LedgerReserveResult}
    (hdb : LedgerGRPCClient.reserveTransfer w.db env (ledgerReserveRequest s) = .ok (r, db)) :
    Causal { w with db := db } ∧ World.Reserved { w with db := db } s r.ledgerReservationID := by
  obtain ⟨u, fromWalletID, toWalletID, o, hu, hfrom, hto, hid, htx⟩ :=
    LedgerGRPCClient.reserveTransfer_ok hdb
  obtain ⟨hk, hg⟩ := Database.reserveTransfer_grows h.keyed.db htx
  obtain ⟨currency, hcurrency, ⟨hpid, -, hf, ht, ha, hc⟩, hcase⟩ := Database.reserveTransfer_ok htx
  have hfor : ReservationFor s o :=
    ⟨hu.trans (congrArg some hpid.symm), hfrom.trans (congrArg some hf.symm),
      hto.trans (congrArg some ht.symm), ha, hcurrency.trans (congrArg Except.ok hc.symm)⟩
  rcases hcase with ⟨ho, rfl⟩ | ⟨-, rfl, -, rfl⟩
  · exact ⟨h, o, by rw [hpid]; exact ho, hfor, hid⟩
  · refine ⟨h.of_db hk hg rfl (fun op hop => .inl hop) (fun o ho => ?_), _,
      hk.reservation?_of_mem List.mem_concat_self, hfor, hid⟩
    rcases List.mem_concat_iff.mp ho with ho | rfl
    · exact .inl ⟨o, ho, rfl⟩
    · exact .inr ⟨s, id, hs, hu, hd⟩

theorem compensate (h : w.Causal) {cmd : SagaCompensationCommand U}
    {op : SagaWalletOperation U} (htx : w.db.compensateDebit env cmd = .ok (op, db)) :
    Causal { w with db := db } := by
  obtain ⟨hk, hg⟩ := Database.compensateDebit_grows h.keyed.db htx
  rcases Database.compensateDebit_ok htx with
    ⟨-, rfl⟩ | ⟨-, debit, wallet, -, -, -, -, -, rfl, rfl⟩
  · exact h
  · refine h.of_db hk hg rfl (fun o ho => ?_) (fun o ho => .inl ⟨o, ho, rfl⟩)
    rcases List.mem_concat_iff.mp ho with ho | rfl
    · exact .inl ho
    · exact .inr fun hkind => by cases hkind

theorem confirm (h : w.Causal) {cmd : LedgerConfirmCommand U} {c : LedgerConfirmation U}
    (htx : w.db.confirmTransfer env cmd = .ok (c, db)) : Causal { w with db := db } := by
  obtain ⟨hk, hg⟩ := Database.confirmTransfer_grows h.keyed.db htx
  obtain ⟨r, -, -, ⟨-, -, rfl⟩ | ⟨-, source, target, -, -, -, -, -, -, rfl⟩⟩ :=
    Database.confirmTransfer_ok htx
  · exact h
  · refine h.of_db hk hg rfl (fun op hop => .inl hop) (fun o ho => ?_)
    obtain ⟨o', ho', rfl⟩ := List.mem_map.mp ho
    refine .inl ⟨o', ho', ?_⟩
    split <;> rfl

theorem cancel (h : w.Causal) {cmd : LedgerCancelCommand U} {r : LedgerReservation U}
    (htx : w.db.cancelReservation env cmd = .ok (r, db)) : Causal { w with db := db } := by
  obtain ⟨hk, hg⟩ := Database.cancelReservation_grows h.keyed.db htx
  obtain ⟨r, -, -, ⟨-, -, rfl⟩ | ⟨-, -, rfl⟩⟩ := Database.cancelReservation_ok htx
  · exact h
  · refine h.of_db hk hg rfl (fun op hop => .inl hop) (fun o ho => ?_)
    obtain ⟨o', ho', rfl⟩ := List.mem_map.mp ho
    refine .inl ⟨o', ho', ?_⟩
    split <;> rfl

/-- An outbox row that is neither `payment.execute` nor `fraud.score.requested`. -/
theorem enqueue (h : w.Causal) {record : OutboxRecord}
    (hexecute : ∀ event, record.payload ≠ .paymentExecute event)
    (hscores : ∀ paymentID, executeCount [record] paymentID = scoreCount [record] paymentID) :
    (w.enqueue record).Causal := by
  refine h.grows ⟨{ h.keyed.db with }, h.keyed.sagas⟩ (.of_db (.of_eq rfl rfl)) h.canonical
    (fun _ hop => .inl hop) (fun r hr => .inl ⟨r, hr, rfl⟩) (fun o ho => ?_) (fun paymentID => ?_)
    (fun _ hs => .inl hs)
  · rcases List.mem_concat_iff.mp ho with ho | rfl
    · exact .inl ho
    · exact .inr fun event hevent => absurd hevent (hexecute event)
  · have hold := h.scores paymentID
    have hnew := hscores paymentID
    simp only [executeCount, scoreCount, World.enqueue] at hold hnew ⊢
    rw [List.countP_append, List.countP_append, hold, hnew]

end World.Causal

/-- Every move of the protocol keeps the invariant and establishes what it teaches. -/
theorem causal_move {f : Option Fact} {o : SagaOp} {lesson : Except SagaErr o.Ret → Option Fact}
    {c : Choice U} {a : o.Ret} (hm : FactMove f o lesson) (hi : w.Causal)
    (hf : ∀ g ∈ f, CausalFact g w) (hrun : o.run c w = (.ok a, w')) :
    w'.Causal ∧ ∀ g ∈ lesson (.ok a), (∃ s ∈ w'.sagas, g = .row s) ∨ CausalFact g w' := by
  have hgrow := run_grows hi.keyed hrun
  cases hm with
  | now f =>
    cases hrun
    exact ⟨hi, fun g hg => .inr (hf g hg)⟩
  | audit f record =>
    cases hrun
    exact ⟨{ hi with keyed := hgrow.1 }, fun g hg => .inr ((hf g hg).grows hgrow.2)⟩
  | @verify s hs =>
    have hrow : CausalFact (.row s) w := hf _ rfl
    obtain ⟨hanswer, rfl⟩ := Prod.mk.inj hrun
    refine ⟨hi.grows hgrow.1 hgrow.2 hi.canonical (fun _ h => .inl h)
      (fun r hr => .inl ⟨r, hr, rfl⟩) (fun _ h => .inl h) hi.scores (fun _ h => .inl h),
      fun g hg => .inr ?_⟩
    cases hg
    have hanswer : c.verification = .ok a := hanswer
    split
    · rename_i hv
      refine ⟨hrow.1, ({ userID := s.userID, traceID := s.traceID }, a),
        List.mem_append_right _ ?_, rfl, hv⟩
      rw [hanswer]
      exact List.mem_singleton_self _
    · exact hrow.1
  | writeChecked s t =>
    have hw := World.write_wrote (commit_eq_ok.mp hrun)
    obtain ⟨hs, hv⟩ : CausalFact (.verified s) w := hf _ rfl
    exact ⟨hi.wrote hw hs hv (fun _ h => by cases h) (fun _ => rfl), learn_row hw⟩
  | writeDebited s id t =>
    have hw := World.write_wrote (commit_eq_ok.mp hrun)
    obtain ⟨hs, hd⟩ : CausalFact (.debited s id) w := hf _ rfl
    refine ⟨hi.wrote hw hs ?_ (fun _ h => by cases h) (fun _ => rfl), learn_row hw⟩
    exact hd.grows (.refl _) (.refl s)
  | writeReserved s id t =>
    have hw := World.write_wrote (commit_eq_ok.mp hrun)
    obtain ⟨hs, hd, hr⟩ : CausalFact (.reserved s id) w := hf _ rfl
    refine ⟨hi.wrote hw hs ?_ (fun _ h => by cases h) (fun _ => rfl), learn_row hw⟩
    exact ⟨hd.grows (.refl _) (.refl s), hr.grows (.refl _) (.refl s)⟩
  | @execute s hs t =>
    have hw := World.write_wrote (commit_eq_ok.mp hrun)
    obtain ⟨hstarted, hstage⟩ : CausalFact (.row s) w := hf _ rfl
    simp only [Stage, hs] at hstage
    refine ⟨hi.wrote hw hstarted trivial (fun record hrecord event hevent => ?_)
      (fun paymentID => ?_), learn_row hw⟩
    · simp only [List.mem_cons, List.not_mem_nil, or_false] at hrecord
      rcases hrecord with rfl | rfl
      · obtain rfl := Payload.paymentExecute.inj hevent
        exact ⟨rfl, hstage.1.grows (.refl _) (.refl s), hstage.2.grows (.refl _) (.refl s)⟩
      · cases hevent
    · by_cases hp : s.paymentID = paymentID <;>
        simp [executeCount, scoreCount, paymentExecuteRecord, fraudScoreRecord, hp]
  | writeUnverified s t | writeConfirmed s id t | writeCompleted s t | writeCanceled s t =>
    have hw := World.write_wrote (commit_eq_ok.mp hrun)
    have hs : w.Started s := hf _ rfl
    exact ⟨hi.wrote hw hs trivial (fun _ h => by cases h) (fun _ => rfl),
      learn_row hw⟩
  | @writeCompensating s hs code message t | @writeRejected s hs reason t record
  | @writeResumed s hs t record =>
    have hw := World.write_wrote (commit_eq_ok.mp hrun)
    have hrow : CausalFact (.row s) w := hf _ rfl
    exact ⟨hi.wrote hw hrow.1 trivial (fun _ h => by cases h) (fun _ => rfl),
      learn_row hw⟩
  | @writeFlagged s hs e traceID t record =>
    have hw := World.write_wrote (commit_eq_ok.mp hrun)
    have hrow : CausalFact (.row s) w := hf _ rfl
    refine ⟨hi.wrote hw hrow.1 trivial (fun record hrecord event hevent => ?_) (fun _ => rfl),
      learn_row hw⟩
    rw [List.mem_singleton.mp hrecord] at hevent
    cases hevent
  | @writeMarked s hs e t record | @writeDeferred s hs hd result hp t record =>
    have hw := World.write_wrote (commit_eq_ok.mp hrun)
    have hrow : CausalFact (.row s) w := hf _ rfl
    refine ⟨hi.wrote hw hrow.1 ?_ (fun _ h => by cases h) (fun _ => rfl),
      learn_row hw⟩
    exact hrow.2.grows (.refl w) (.refl s) rfl rfl rfl
  | writeFailed s t =>
    have hw := World.write_wrote (commit_eq_ok.mp hrun)
    have hs : w.Started s := hf _ rfl
    refine ⟨hi.wrote hw hs trivial (fun _ h => by cases h) (fun _ => rfl),
      fun g hg => .inr ?_⟩
    cases hg
    exact World.started_of_mem hw.mem
  | @debit s hs =>
    obtain ⟨hstarted, hstage⟩ : CausalFact (.row s) w := hf _ rfl
    simp only [Stage, hs] at hstage
    obtain ⟨db, hdb, rfl⟩ := rpc_eq_ok.mp hrun
    obtain ⟨hi', hd⟩ := hi.debit hstarted hstage hdb
    exact ⟨hi', learned (.inr ⟨hstarted, hd⟩)⟩
  | @reserve s hs =>
    obtain ⟨hstarted, hstage⟩ : CausalFact (.row s) w := hf _ rfl
    simp only [Stage, hs] at hstage
    obtain ⟨db, hdb, rfl⟩ := rpc_eq_ok.mp hrun
    obtain ⟨hi', hr⟩ := hi.reserve hstarted hstage hdb
    exact ⟨hi', learned (.inr ⟨hstarted, hstage.grows hgrow.2.db (.refl s), hr⟩)⟩
  | @confirm s hs traceID =>
    have hrow : CausalFact (.row s) w := hf _ rfl
    obtain ⟨db, hdb, rfl⟩ := rpc_eq_ok.mp hrun
    obtain ⟨_, _, -, -, -, -, htx⟩ := LedgerGRPCClient.confirmTransfer_ok hdb
    exact ⟨hi.confirm htx, learned (.inr hrow.1)⟩
  | @cancel s hs traceID reason =>
    have hrow : CausalFact (.row s) w := hf _ rfl
    obtain ⟨db, hdb, rfl⟩ := rpc_eq_ok.mp hrun
    obtain ⟨_, _, -, -, htx⟩ := LedgerGRPCClient.cancelReservation_ok hdb
    exact ⟨hi.cancel htx, learned (.inr hrow.1)⟩
  | @compensate s hs traceID reason =>
    have hrow : CausalFact (.row s) w := hf _ rfl
    obtain ⟨db, hdb, rfl⟩ := rpc_eq_ok.mp hrun
    obtain ⟨_, _, -, -, -, htx⟩ := WalletGRPCClient.compensateDebit_ok hdb
    exact ⟨hi.compensate htx, learned (.inr hrow.1)⟩
  | @announce s hs traceID t t' =>
    have hrow : CausalFact (.row s) w := hf _ rfl
    cases hrun
    exact ⟨hi.enqueue (fun _ h => by cases h) (fun _ => rfl), learned (.inr hrow.1)⟩
  | announceFailed s traceID t t' =>
    cases hrun
    exact ⟨hi.enqueue (fun _ h => by cases h) (fun _ => rfl),
      fun g hg => by cases hg⟩

theorem causal_interpretation :
    Interpretation (fun req => Canonical U req.paymentID) (World.Causal (U := U)) CausalFact where
  keyed h := h.keyed
  stable h hg := h.grows hg
  stored h hs := ⟨World.started_of_mem hs, h.rows _ hs⟩
  unverified h _ := h.1
  create {req t id now w} hid h hnew := by
    refine h.grows ⟨h.keyed.db, List.nodup_map_append_singleton h.keyed.sagas hnew⟩
      ⟨.refl _, fun s hs => ⟨s, List.mem_append_left _ hs, .refl s⟩, fun _ hx => hx⟩
      (fun s hs => ?_) (fun _ hop => .inl hop) (fun r hr => .inl ⟨r, hr, rfl⟩)
      (fun _ hr => .inl hr) h.scores (fun s hs => ?_)
    · rcases List.mem_concat_iff.mp hs with hs | rfl
      · exact h.canonical s hs
      · exact hid
    · rcases List.mem_concat_iff.mp hs with hs | rfl
      · exact .inl hs
      · exact .inr trivial
  move := causal_move

/-! ## Every run -/

theorem World.Idle.causal (h : w.Idle) : w.Causal where
  keyed := h.exclusive.keyed
  canonical s hs := by
    rw [h.sagas] at hs
    cases hs
  debits op hop := by
    rw [h.operations] at hop
    cases hop
  reservations r hr := by
    rw [h.reservations] at hr
    cases hr
  executes record hrecord event hevent := by
    obtain ⟨e, he⟩ := h.outbox record hrecord
    rw [he] at hevent
    cases hevent
  scores paymentID := by
    have hnone : ∀ p : OutboxRecord → Bool,
        (∀ record, p record = true → ∀ e, record.payload ≠ .transactionInitiated e) →
        w.db.outbox.countP p = 0 := by
      intro p hp
      refine List.countP_eq_zero.mpr fun record hrecord hpr => ?_
      obtain ⟨e, he⟩ := h.outbox record hrecord
      exact hp record hpr e he
    rw [executeCount, scoreCount, hnone, hnone]
    · rintro record hp e he
      rw [he] at hp
      cases hp
    · rintro record hp e he
      rw [he] at hp
      cases hp
  rows s hs := by
    rw [h.sagas] at hs
    cases hs

/-- The stored saga of a payment, from any copy of it. -/
theorem World.Causal.saga (h : w.Causal) (hs : w.Started s) :
    ∃ r, w.saga? s.paymentID = some r ∧ sameStartPayload r s ∧ Canonical U r.paymentID := by
  obtain ⟨r, hr, hsame⟩ := hs
  refine ⟨r, ?_, hsame, h.canonical r hr⟩
  rw [← hsame.1]
  exact h.keyed.saga?_of_mem hr

/-- However the handlers interleave and wherever they stop: a debit exists only after the
    saga's user was verified, a reservation only beside the saga's debit, and `payment.execute`
    only beside its reservation, with the IDs of the two. A fraud score is asked for as often as
    the execution. -/
theorem causal_order (hw : w.Idle) (acts : List (Act SagaRequest (Choice U)))
    (hids : ∀ q, .start q ∈ acts → ∀ id ∈ q.paymentID?, Canonical U id) :
    (∀ op ∈ (interleave w acts).world.db.operations, op.operation = .debit →
      ∃ s, (interleave w acts).world.saga? (text op.paymentID) = some s ∧
        (interleave w acts).world.Verified s.userID) ∧
    (∀ r ∈ (interleave w acts).world.db.reservations,
      ∃ s, (interleave w acts).world.saga? (text r.paymentID) = some s ∧
        ∃ op ∈ (interleave w acts).world.db.operations, DebitFor s op) ∧
    (∀ record ∈ (interleave w acts).world.db.outbox, ∀ event,
      record.payload = .paymentExecute event →
      ∃ s, (interleave w acts).world.saga? event.paymentID = some s ∧
        (∃ r ∈ (interleave w acts).world.db.reservations,
          ReservationFor s r ∧ event.ledgerReservationID = text r.id) ∧
        ∃ op ∈ (interleave w acts).world.db.operations,
          DebitFor s op ∧ event.walletDebitID = text op.id) ∧
    ∀ paymentID, scoreCount (interleave w acts).world.db.outbox paymentID =
      executeCount (interleave w acts).world.db.outbox paymentID := by
  have hi : (interleave w acts).world.Causal :=
    causal_interpretation.interleave_inv hw.causal fun q hq req hreq =>
      hids q hq req.paymentID (by rw [hreq]; rfl)
  refine ⟨fun op hop hkind => ?_, fun r hr => ?_, fun record hrecord event hevent => ?_,
    fun paymentID => (hi.scores paymentID).symm⟩
  · obtain ⟨s, hs, hfor, hv⟩ := hi.debits op hop hkind
    obtain ⟨r, hr, hsame, hcanonical⟩ := hi.saga hs
    have hpid : s.paymentID = text op.paymentID :=
      (hsame.1 ▸ hcanonical).eq_text hfor.paymentID
    have huser : r.userID = s.userID := hsame.2.2.1
    exact ⟨r, hpid ▸ hr, huser ▸ hv⟩
  · obtain ⟨s, id, hs, hpid, op, hop, hfor, -⟩ := hi.reservations r hr
    obtain ⟨o, ho, hsame, hcanonical⟩ := hi.saga hs
    have htext : s.paymentID = text r.paymentID := (hsame.1 ▸ hcanonical).eq_text hpid
    exact ⟨o, htext ▸ ho, op, (Database.operation?_some hop).1, hfor.congr hsame⟩
  · obtain ⟨s, hs, hpid, ⟨op, hop, hfor, hdebit⟩, r, hr, hres, hreservation⟩ :=
      hi.executes record hrecord event hevent
    obtain ⟨o, ho, hsame, -⟩ := hi.saga hs
    exact ⟨o, hpid ▸ ho,
      ⟨r, (Database.reservation?_some hr).1, hres.congr hsame, hreservation⟩,
      op, (Database.operation?_some hop).1, hfor.congr hsame, hdebit⟩

namespace Sample

/-- A payment that is started and reaches PAYMENT_PROCESSING. -/
def startedRun : List (Act SagaRequest (Choice CanonicalUuid)) :=
  .start (.start startRequest) :: steps 0 0 13

theorem startedRun_canonical (q : SagaRequest) (hq : .start q ∈ startedRun) :
    ∀ id ∈ q.paymentID?, Canonical CanonicalUuid id := by
  intro id hid
  rcases List.mem_cons.mp hq with hq | hq
  · cases hq
    exact ⟨paymentID, (Option.some.inj hid).symm⟩
  · obtain ⟨c, -, hc⟩ := List.mem_map.mp hq
    cases hc

end Sample

/-- One request to the rail, and therefore one to the fraud service. -/
theorem causal_order_startedRun :
    Sample.world.Idle ∧
      executeCount (interleave Sample.world Sample.startedRun).world.db.outbox
        (text Sample.paymentID) = 1 ∧
      scoreCount (interleave Sample.world Sample.startedRun).world.db.outbox
        (text Sample.paymentID) = 1 := by
  have hexecute : executeCount (interleave Sample.world Sample.startedRun).world.db.outbox
      (text Sample.paymentID) = 1 := by decide +kernel
  have horder := causal_order Sample.world_idle Sample.startedRun Sample.startedRun_canonical
  exact ⟨Sample.world_idle, hexecute, (horder.2.2.2 _).trans hexecute⟩

end EnjoyThings
