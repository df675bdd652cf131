import EnjoyThings.Services.Gateway
import EnjoyThings.Spec.SagaCausal
import EnjoyThings.Spec.WalletsFrame

/-!
# Sagas and their debits

A saga row is found by the text of its payment ID, a wallet operation by the UUID
the text parses to. The gateway checks that the text parses and passes it on as
it is, so two texts of one UUID make two sagas and share one debit
(`debits_differ_iff`).

## Key results

- `run_identified`: operations have IDs of their own
- `debits_differ_iff`: two sagas get different debits exactly if their payment IDs
  parse to different UUIDs
-/

namespace EnjoyThings

open Effect Orchestrator Except

variable {U : Type} [UuidLib U] {w w' : World U} {c : Choice U}

/-! ## The IDs of operations -/

namespace Database

variable {db db' : Database U} {env : TxEnv U} {op : SagaWalletOperation U}

/-- The primary key of the operations. -/
def Identified (db : Database U) : Prop :=
  (db.operations.map (·.id)).Nodup

omit [UuidLib U] in
theorem Identified.eq_of_id (h : db.Identified) {o : SagaWalletOperation U}
    (hop : op ∈ db.operations) (ho : o ∈ db.operations) (hid : o.id = op.id) : o = op :=
  List.inj_on_of_nodup_map h ho hop hid

/-- An insert that goes through has an ID of its own. -/
theorem Identified.insert {db₁ : Database U} (h : db.Identified)
    (hinsert : db₁.insertOperation op = .ok db') (hops : db₁.operations = db.operations) :
    db'.Identified := by
  obtain ⟨hnew, rfl⟩ := insertOperation_ok hinsert
  rw [hops] at hnew
  unfold Identified
  rw [hops]
  exact List.nodup_map_append_singleton h fun o ho => (hnew o ho).1

theorem debitForSaga_identified (h : db.Identified) {cmd : SagaDebitCommand U}
    (htx : db.debitForSaga env cmd = .ok (op, db')) : db'.Identified := by
  simp only [debitForSaga, bind_eq_ok, refuseIf_eq_ok, mapError_eq_ok] at htx
  obtain ⟨-, -, -, -, -, -, htx⟩ := htx
  split at htx
  · cases htx
    exact h
  simp only [bind_eq_ok, refuseIf_eq_ok, ofOption_eq_ok, mapError_eq_ok] at htx
  obtain ⟨_, -, _, -, _, -, db₁, h₁, htx⟩ := htx
  obtain ⟨-, rfl⟩ := updateWalletBalance_ok h₁
  split at htx
  · rename_i db₂ h₂
    cases htx
    exact h.insert h₂ rfl
  · simp only [bind_eq_ok] at htx
    obtain ⟨_, -, htx⟩ := htx
    cases htx
    exact h
  · cases htx

theorem compensateDebit_identified (h : db.Identified) {cmd : SagaCompensationCommand U}
    (htx : db.compensateDebit env cmd = .ok (op, db')) : db'.Identified := by
  simp only [compensateDebit, bind_eq_ok, refuseIf_eq_ok, mapError_eq_ok] at htx
  obtain ⟨-, -, -, -, -, -, htx⟩ := htx
  split at htx
  · cases htx
    exact h
  simp only [bind_eq_ok, refuseIf_eq_ok, ofOption_eq_ok, mapError_eq_ok] at htx
  obtain ⟨_, -, _, -, _, -, _, -, _, -, _, -, _, -, db₁, h₁, htx⟩ := htx
  obtain ⟨-, rfl⟩ := updateWalletBalance_ok h₁
  split at htx
  · rename_i db₂ h₂
    cases htx
    exact h.insert h₂ rfl
  · simp only [bind_eq_ok] at htx
    obtain ⟨_, -, htx⟩ := htx
    cases htx
    exact h
  · cases htx

omit [UuidLib U] in
theorem Identified.congr (h : db.Identified) (hops : db'.operations = db.operations) :
    db'.Identified := by
  rwa [Identified, hops]

end Database

/-- Every call keeps the IDs of operations apart. -/
theorem run_identified {o : SagaOp} {a : o.Ret} (h : w.db.Identified)
    (hrun : o.run c w = (.ok a, w')) : w'.db.Identified := by
  cases run_commits hrun with
  | outbox hdb => exact h.congr (by rw [hdb])
  | debit htx => exact Database.debitForSaga_identified h htx
  | compensate htx => exact Database.compensateDebit_identified h htx
  | reserve htx => exact h.congr (Database.reserveTransfer_operations htx)
  | confirm htx => exact h.congr (Database.confirmTransfer_operations htx)
  | cancel htx => exact h.congr (Database.cancelReservation_operations htx)

/-- However a call ends, keys and IDs are kept and the world grows. -/
theorem exec_keeps (c : Choice U) (o : SagaOp) (w : World U) (h : w.Keyed ∧ w.db.Identified) :
    ((o.exec c w).2.Keyed ∧ (o.exec c w).2.db.Identified) ∧ w.Grows (o.exec c w).2 := by
  refine exec_world ⟨h, .refl w⟩ fun a w' hrun => ?_
  have hgrows := run_grows h.1 hrun
  exact ⟨⟨hgrows.1, run_identified h.2 hrun⟩, hgrows.2⟩

/-- So do pools, whatever their programs are. -/
theorem pool_keeps {P : Pool SagaOp SagaOp.Ret SagaErr (World U) Seen}
    (h : P.world.Keyed ∧ P.world.db.Identified) (acts : List (Act SagaRequest (Choice U))) :
    ((P.run (sagaMachine U) SagaRequest.handler [] acts).world.Keyed ∧
      (P.run (sagaMachine U) SagaRequest.handler [] acts).world.db.Identified) ∧
    P.world.Grows (P.run (sagaMachine U) SagaRequest.handler [] acts).world :=
  Pool.run_keeps (I := fun w : World U => w.Keyed ∧ w.db.Identified) World.Grows.refl
    World.Grows.trans exec_keeps h acts

/-! ## The debit of a saga -/

/-- A `DebitForSaga` call that answers, for a saga that an accepted POST /v1/transfers has
    created. -/
structure SagaDebit (w : World U) (r : WalletDebitResult) (w' : World U) where
  submission : Submission U
  request : StartRequest
  accepted : submission.startRequest? = some request
  row : Saga
  stored : row ∈ w.sagas
  created : sameStartPayload row (startedSaga request 0)
  choice : Choice U
  answered : (SagaOp.debitForSaga (walletDebitRequest row)).exec choice w = (.ok r, w')

namespace SagaDebit

/-- The call returns the stored debit of the UUID. -/
theorem operation {r : WalletDebitResult} (d : SagaDebit w r w') :
    ∃ id op, parse d.request.paymentID = some id ∧ r.walletDebitID = text op.id ∧
      w'.db.operation? id .debit = some op := by
  rcases exec_outcome d.choice (.debitForSaga (walletDebitRequest d.row)) w with
    ⟨e, he⟩ | ⟨a, v, hrun, he | ⟨e, he⟩⟩
  · cases d.answered.symm.trans he
  · obtain ⟨hr, rfl⟩ := Prod.mk.inj (d.answered.symm.trans he)
    cases hr
    obtain ⟨db, hdb, rfl⟩ := rpc_eq_ok.mp hrun
    obtain ⟨id, _, _, op, hid, -, -, hop, htx⟩ := WalletGRPCClient.debitForSaga_ok hdb
    have hpayment : d.row.paymentID = d.request.paymentID := d.created.1
    refine ⟨id, op, ?_, hop, Database.debitForSaga_operation? htx⟩
    rw [← hpayment]
    exact hid
  · cases d.answered.symm.trans he

theorem keeps {r : WalletDebitResult} (d : SagaDebit w r w') (h : w.Keyed ∧ w.db.Identified) :
    (w'.Keyed ∧ w'.db.Identified) ∧ w.Grows w' := by
  have hexec := exec_keeps d.choice (.debitForSaga (walletDebitRequest d.row)) w h
  rwa [d.answered] at hexec

end SagaDebit

/-- The keys before the first payment. -/
theorem World.Idle.keyed_identified (h : w.Idle) : w.Keyed ∧ w.db.Identified := by
  refine ⟨h.causal.keyed, ?_⟩
  rw [Database.Identified, h.operations]
  exact List.nodup_nil

/-- Two sagas of accepted requests, one of them debited first and the other one after any
    further calls of any programs, get different debits exactly if their payment IDs parse to
    different UUIDs. -/
theorem debits_differ_iff {w v v' : World U} (hw : w.Idle)
    {acts acts' : List (Act SagaRequest (Choice U))} {r r' : WalletDebitResult}
    (first : SagaDebit (interleave w acts).world r v)
    {P : Pool SagaOp SagaOp.Ret SagaErr (World U) Seen} (hP : P.world = v)
    (second : SagaDebit (P.run (sagaMachine U) SagaRequest.handler [] acts').world r' v') :
    r.walletDebitID ≠ r'.walletDebitID ↔
      (parse first.request.paymentID : Option U) ≠ parse second.request.paymentID := by
  subst hP
  -- what the first call has stored is there after the second one
  have hkeeps : v'.db.Identified ∧ P.world.Grows v' := by
    have h₁ := (pool_keeps (P := .idle w) hw.keyed_identified acts).1
    have h₂ := (first.keeps h₁).1
    have h₃ := pool_keeps h₂ acts'
    have h₄ := second.keeps h₃.1
    exact ⟨h₄.1.2, h₃.2.trans h₄.2⟩
  obtain ⟨id, op, hid, hop, hfirst⟩ := first.operation
  obtain ⟨id', op', hid', hop', hsecond⟩ := second.operation
  have hstored : v'.db.operation? id .debit = some op := hkeeps.2.db.operation hfirst
  rw [hop, hop', hid, hid', not_iff_not]
  constructor
  · intro htext
    have hids : op'.id = op.id := by
      have hparse := congrArg (parse (U := U)) htext
      rw [UuidLib.parse_text, UuidLib.parse_text] at hparse
      exact (Option.some.inj hparse).symm
    have hsame := hkeeps.1.eq_of_id (Database.operation?_some hstored).1
      (Database.operation?_some hsecond).1 hids
    rw [← (Database.operation?_some hstored).2.1, ← (Database.operation?_some hsecond).2.1, hsame]
  · intro hparse
    cases hparse
    rw [Option.some.inj (hstored.symm.trans hsecond)]

namespace Sample

/-- A user asks for a payment of 300 under a payment ID. -/
def post (user : CanonicalUuid) (paymentID : String) (source target : CanonicalUuid) :
    Submission CanonicalUuid :=
  { userID := user, newPaymentID := id 6, newTraceID := id 7
    request :=
      { body := .sent (some "application/json") (some
          { paymentID := paymentID, fromWallet := text source, toWallet := text target
            amountCents := 300, currency := "USD" })
        idempotencyKey := "", traceID := "trace-1" } }

/-- The request of `post`. -/
def posted (user : CanonicalUuid) (paymentID : String) (source target : CanonicalUuid) :
    StartRequest :=
  { paymentID := paymentID, idempotencyKey := paymentID, traceID := "trace-1"
    userID := text user, fromWalletID := text source, toWalletID := text target
    amountCents := 300, currency := "USD" }

/-- The row of a payment that has been started. -/
def row (w : World CanonicalUuid) (req : StartRequest) : Saga :=
  (w.saga? req.paymentID).getD (startedSaga req 0)

/-- The debit call for a payment that has been started. -/
def debitCall (w : World CanonicalUuid) (req : StartRequest) (n : Nat) :
    Except SagaErr WalletDebitResult × World CanonicalUuid :=
  (SagaOp.debitForSaga (walletDebitRequest (row w req))).exec (choice n) w

/-- What has to be evaluated for a debit of the sample. -/
theorem exists_sagaDebit (w : World CanonicalUuid) (sub : Submission CanonicalUuid)
    (req : StartRequest) (n : Nat)
    (h : sub.startRequest? = some req ∧ row w req ∈ w.sagas ∧
      sameStartPayload (row w req) (startedSaga req 0) ∧ (debitCall w req n).1.isOk = true) :
    ∃ r, ∃ d : SagaDebit w r (debitCall w req n).2, d.request = req := by
  obtain ⟨haccepted, hstored, hcreated, hok⟩ := h
  cases hr : (debitCall w req n).1 with
  | error e =>
    rw [hr] at hok
    cases hok
  | ok r => exact ⟨r, ⟨sub, req, haccepted, _, hstored, hcreated, choice n, Prod.ext hr rfl⟩, rfl⟩

/-- Two payments of the payer, each of them before its debit. -/
def firstRequest : StartRequest :=
  posted payer (text paymentID) payerWallet payeeWallet

def secondRequest : StartRequest :=
  posted payer (text (id 8)) payerWallet payeeWallet

def beforeFirst : List (Act SagaRequest (Choice CanonicalUuid)) :=
  .start (.start firstRequest) :: steps 0 0 5

def beforeSecond : List (Act SagaRequest (Choice CanonicalUuid)) :=
  .start (.start secondRequest) :: steps 0 20 5

end Sample

/-- Two payments of one payer have a debit each. -/
theorem debits_differ_payments :
    ∃ (r r' : WalletDebitResult) (v v' : World CanonicalUuid)
      (first : SagaDebit (interleave Sample.world Sample.beforeFirst).world r v)
      (second : SagaDebit (interleave v Sample.beforeSecond).world r' v'),
      first.request = Sample.firstRequest ∧ second.request = Sample.secondRequest ∧
        r.walletDebitID ≠ r'.walletDebitID := by
  obtain ⟨r, first, hfirst⟩ := Sample.exists_sagaDebit
    (interleave Sample.world Sample.beforeFirst).world
    (Sample.post Sample.payer (text Sample.paymentID) Sample.payerWallet Sample.payeeWallet)
    Sample.firstRequest 5 (by decide +kernel)
  obtain ⟨r', second, hsecond⟩ := Sample.exists_sagaDebit
    (interleave (Sample.debitCall (interleave Sample.world Sample.beforeFirst).world
      Sample.firstRequest 5).2 Sample.beforeSecond).world
    (Sample.post Sample.payer (text (Sample.id 8)) Sample.payerWallet Sample.payeeWallet)
    Sample.secondRequest 25 (by decide +kernel)
  refine ⟨r, r', _, _, first, second, hfirst, hsecond, ?_⟩
  have hiff := debits_differ_iff Sample.world_idle first rfl second
  rw [hfirst, hsecond] at hiff
  exact hiff.mpr (by decide +kernel)

namespace Sample

/-- The payee, who has no money, asks for a payment under another text of the UUID. -/
def respelled : StartRequest :=
  posted payee ("urn:uuid:" ++ text paymentID) payeeWallet payerWallet

/-- The payer's payment up to its debit, then the payee's. -/
def bothDebited : List (Act SagaRequest (Choice CanonicalUuid)) :=
  .start (.start firstRequest) :: steps 0 0 8 ++ .start (.start respelled) :: steps 1 20 8

end Sample

/-- Both payments are accepted, there are two sagas, and both go on with the payer's debit. -/
theorem respelled_payment_shares_debit :
    (Sample.post Sample.payee ("urn:uuid:" ++ text Sample.paymentID) Sample.payeeWallet
        Sample.payerWallet).startRequest? = some Sample.respelled ∧
      (interleave Sample.world Sample.bothDebited).world.sagas.map
        (fun s => (s.paymentID, s.state, s.walletDebitID)) =
        [(text Sample.paymentID, .walletDebited, text (Sample.id 115)),
          ("urn:uuid:" ++ text Sample.paymentID, .walletDebited, text (Sample.id 115))] := by
  decide +kernel

end EnjoyThings
