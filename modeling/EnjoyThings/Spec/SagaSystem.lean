import EnjoyThings.ForStd.Discipline
import EnjoyThings.Services.Orchestrator

/-!
# The saga system

The machine the handlers run on, and what one call can do. `Outcome` sums up the
faults: a call either leaves the world alone and reports an error, or takes
effect, whether or not its answer arrives. Each kind of call has one lemma that
says what it does when it takes effect, and the proofs about runs use only
those.
-/

namespace EnjoyThings

open Effect

variable {U : Type} [UuidLib U]

/-- The copies of saga rows a handler has got from the store, newest first. -/
abbrev Seen : Type := List Saga

/-- What a handler remembers of an answer: every copy of a row in it. -/
def Seen.see (seen : Seen) : (o : SagaOp) → Except SagaErr o.Ret → Seen
  | .create _, .ok s | .getByPaymentID _, .ok s | .update _, .ok s => s :: seen
  | .updateWithOutbox _ _, .ok s | .updateWithAudit _ _, .ok s => s :: seen
  | .updateWithOutboxAndAudit _ _ _, .ok s => s :: seen
  | .listNonTerminal, .ok l => List.append l seen
  | _, _ => seen

/-- The orchestrator's surroundings. -/
def sagaMachine (U : Type) [UuidLib U] :
    Machine SagaOp SagaOp.Ret SagaErr (World U) Seen (Choice U) where
  exec := SagaOp.exec
  see := Seen.see

@[simp] theorem sagaMachine_exec (c : Choice U) (o : SagaOp) (w : World U) :
    (sagaMachine U).exec c o w = o.exec c w := rfl

/-- Every way the handlers of any requests can interleave, from a world `w`. -/
def interleave (w : World U) (acts : List (Act SagaRequest (Choice U))) :
    Pool SagaOp SagaOp.Ret SagaErr (World U) Seen :=
  (Pool.idle w).run (sagaMachine U) SagaRequest.handler [] acts

/-- An interleaving of a single handler. -/
theorem interleave_single (w : World U) (q : SagaRequest) (cs : List (Choice U)) :
    (interleave w (.start q :: cs.map (.step 0))).world =
      q.handler.runFor (sagaMachine U) cs w :=
  Pool.run_single (sagaMachine U) SagaRequest.handler [] [] q.handler w cs

/-- Requests handled one at a time, each up to where its choices end. -/
def oneAtATime (w : World U) (reqs : List (SagaRequest × List (Choice U))) : World U :=
  serial (sagaMachine U) SagaRequest.handler reqs w

/-! ## What can be seen of a payment -/

/-- The status of the payment's reservation. -/
def World.reservationStatus (w : World U) (paymentID : String) : Option ReservationStatus :=
  ((parse paymentID : Option U).bind w.db.reservation?).map (·.status)

theorem World.reservationStatus_of_parse {w : World U} {paymentID : String} {u : U}
    (h : parse paymentID = some u) :
    w.reservationStatus paymentID = (w.db.reservation? u).map (·.status) := by
  rw [World.reservationStatus, h, Option.bind_some]

/-- The number of outbox rows of a topic under a key. -/
def Database.enqueued (db : Database U) (topic : Topic) (key : String) : Nat :=
  db.outbox.countP fun record => record.topic = topic ∧ record.partitionKey = key

/-! ## A sample system

Two wallets, their owners and one payment between them, for runs on concrete input. -/

namespace Sample

/-- A UUID for each number. -/
def id (n : Nat) : CanonicalUuid :=
  (parse ("00000000-0000-4000-8000-" ++ Go.padded 12 n)).getD UuidLib.nil

def payer : CanonicalUuid := id 1
def payee : CanonicalUuid := id 2
def payerWallet : CanonicalUuid := id 3
def payeeWallet : CanonicalUuid := id 4
def paymentID : CanonicalUuid := id 5

def wallet (walletID owner : CanonicalUuid) (balance : Int64) : Wallet CanonicalUuid :=
  { id := walletID, userID := owner, balance := balance, currency := defaultCurrency,
    createdAt := 1000, updatedAt := 1000 }

/-- Nothing has been paid yet. -/
def world : World CanonicalUuid :=
  { db := { wallets := [wallet payerWallet payer 1000, wallet payeeWallet payee 0] } }

def startRequest : StartRequest :=
  { paymentID := text paymentID, idempotencyKey := "key-1", traceID := "trace-1",
    userID := text payer, fromWalletID := text payerWallet, toWalletID := text payeeWallet,
    amountCents := 300, currency := defaultCurrency }

def completedEvent : PaymentCompleted :=
  { eventID := topicPaymentCompleted ++ ":" ++ text paymentID, paymentID := text paymentID,
    idempotencyKey := "key-1", traceID := "trace-1", processorPaymentID := "rail-1",
    status := "completed", completedAt := 2000, occurredAt := 2000 }

def failedEvent : PaymentFailed :=
  { eventID := topicPaymentFailed ++ ":" ++ text paymentID, paymentID := text paymentID,
    idempotencyKey := "key-1", traceID := "trace-1", failureCode := "declined",
    failureMessage := "declined by the rail", failedAt := 2000, occurredAt := 2000 }

def flaggedEvent : FraudFlagged :=
  { schemaVersion := 1, eventID := fraudFlaggedEventID "score-1", sourceEventID := "score-1",
    paymentID := text paymentID, sessionID := "session-1", action := fraudActionFlag,
    riskScore := 1, reason := "velocity", providerID := "provider-1", modelID := "model-1",
    occurredAt := 2000, traceID := "trace-1" }

/-- The `n`-th call of a run in which nothing goes wrong. -/
def choice (n : Nat) : Choice CanonicalUuid :=
  { fault := .none, clock := 1000 * (n + 2)
    env := { sagaID := id (100 + 3 * n), debitID := id (100 + 3 * n),
             compensationID := id (100 + 3 * n), reservationID := id (100 + 3 * n),
             transferID := id (100 + 3 * n), debitEntryID := id (101 + 3 * n),
             creditEntryID := id (102 + 3 * n), now := 1000 * (n + 2) }
    verification := .ok ⟨verificationVerified⟩ }

/-- The choices of the calls `n`, ..., `n + count - 1`. -/
def choices (n count : Nat) : List (Choice CanonicalUuid) :=
  (List.range' n count).map choice

/-- The steps `n`, ..., `n + count - 1` of a run, taken by thread `i`. -/
def steps (i n count : Nat) : List (Act SagaRequest (Choice CanonicalUuid)) :=
  (choices n count).map (.step i)

end Sample

/-- A call leaves the world alone and fails, or takes effect and then answers or loses its
    answer. -/
def Outcome (c : Choice U) (o : SagaOp) (w : World U) (r : Except SagaErr o.Ret × World U) :
    Prop :=
  (∃ e, r = (.error e, w)) ∨
    ∃ a w', o.run c w = (.ok a, w') ∧ (r = (.ok a, w') ∨ ∃ e, r = (.error e, w'))

section Run

variable {α : Type} {c : Choice U} {w w' : World U}

omit [UuidLib U] in
@[simp] theorem commit_eq_ok {x : Except SagaErr (α × World U)} {a : α} :
    SagaOp.run.commit w x = (.ok a, w') ↔ x = .ok (a, w') := by
  cases x with
  | error e => simp [SagaOp.run.commit]
  | ok p => simp [SagaOp.run.commit, Prod.ext_iff]

omit [UuidLib U] in
@[simp] theorem rpc_eq_ok {x : Except Status (α × Database U)} {a : α} :
    SagaOp.run.rpc w x = (.ok a, w') ↔ ∃ db, x = .ok (a, db) ∧ w' = { w with db := db } := by
  cases x with
  | error e => simp [SagaOp.run.rpc]
  | ok p => simp [SagaOp.run.rpc, Prod.ext_iff, and_assoc, eq_comm]

/-- A call that reports an error of its own has no effect. -/
theorem run_error {o : SagaOp} {e : SagaErr} (h : (o.run c w).1 = .error e) :
    (o.run c w).2 = w := by
  have hcommit : ∀ {β : Type} (x : Except SagaErr (β × World U)) (e : SagaErr),
      (SagaOp.run.commit w x).1 = .error e → (SagaOp.run.commit w x).2 = w := by
    intro β x e hx
    cases x with
    | error => rfl
    | ok p => cases hx
  have hrpc : ∀ {β : Type} (x : Except Status (β × Database U)) (e : SagaErr),
      (SagaOp.run.rpc w x).1 = .error e → (SagaOp.run.rpc w x).2 = w := by
    intro β x e hx
    cases x with
    | error => rfl
    | ok p => cases hx
  cases o with
  | now | listNonTerminal | recordFraudAudit audit | enqueue record => cases h
  | getByPaymentID paymentID => rfl
  | create _ | update _ | updateWithOutbox _ _ | updateWithAudit _ _
  | updateWithOutboxAndAudit _ _ _ => exact hcommit _ e h
  | debitForSaga _ | compensateDebit _ | reserveTransfer _ | confirmTransfer _
  | cancelReservation _ => exact hrpc _ e h
  | getStatus req =>
    simp only [SagaOp.run] at h ⊢
    simp [h, SagaOp.run.answered]

theorem run_outcome (c : Choice U) (o : SagaOp) (w : World U) : Outcome c o w (o.run c w) := by
  cases hr : (o.run c w).1 with
  | error e => exact .inl ⟨e, Prod.ext hr (run_error hr)⟩
  | ok a => exact .inr ⟨a, (o.run c w).2, Prod.ext hr rfl, .inl (Prod.ext hr rfl)⟩

/-! Single calls, with the fault spelled out. -/

theorem exec_none {o : SagaOp} (h : c.fault = .none) : o.exec c w = o.run c w := by
  cases o <;> simp only [SagaOp.exec, SagaOp.run, h]

theorem exec_notDelivered {o : SagaOp} (ho : o ≠ .now) (h : c.fault = .notDelivered) :
    o.exec c w = (.error .interrupted, w) := by
  cases o <;> first | exact absurd rfl ho | simp only [SagaOp.exec, h]

theorem exec_answerLost {o : SagaOp} (ho : o ≠ .now) (h : c.fault = .answerLost) :
    o.exec c w = (.error .interrupted, (o.run c w).2) := by
  cases o <;> first | exact absurd rfl ho | simp only [SagaOp.exec, h]

/-- A call that arrives has its effect, whether or not it is answered. -/
theorem exec_delivered {o : SagaOp} (h : c.fault ≠ .notDelivered) :
    (o.exec c w).2 = (o.run c w).2 := by
  cases hf : c.fault with
  | none => rw [exec_none hf]
  | notDelivered => exact absurd hf h
  | answerLost => cases o <;> simp only [SagaOp.exec, SagaOp.run, hf]

/-- What one call can do, whatever the fault. -/
theorem exec_outcome (c : Choice U) (o : SagaOp) (w : World U) : Outcome c o w (o.exec c w) := by
  by_cases hnow : o = .now
  · subst hnow
    exact run_outcome c .now w
  cases hf : c.fault with
  | none =>
    rw [exec_none hf]
    exact run_outcome c o w
  | notDelivered =>
    rw [exec_notDelivered hnow hf]
    exact .inl ⟨.interrupted, rfl⟩
  | answerLost =>
    rw [exec_answerLost hnow hf]
    -- the call has failed at its target, or only its answer is lost
    rcases run_outcome c o w with ⟨e, he⟩ | ⟨a, v, ha, -⟩
    · exact .inl ⟨.interrupted, by rw [he]⟩
    · exact .inr ⟨a, v, ha, .inr ⟨.interrupted, by rw [ha]⟩⟩

/-- What holds before a call and after it takes effect holds however it ends. -/
@[elab_as_elim] theorem exec_world {motive : World U → Prop} {o : SagaOp} (h : motive w)
    (hrun : ∀ a w', o.run c w = (.ok a, w') → motive w') : motive (o.exec c w).2 := by
  rcases exec_outcome c o w with ⟨e, he⟩ | ⟨a, w', ha, he | ⟨e, he⟩⟩
  · rwa [he]
  all_goals
    rw [he]
    exact hrun a w' ha

/-- Only a call without a fault answers. -/
theorem fault_of_exec_ok {o : SagaOp} (ho : o ≠ .now) {a : o.Ret}
    (h : (o.exec c w).1 = .ok a) : c.fault = .none := by
  cases hf : c.fault with
  | none => rfl
  | notDelivered =>
    rw [exec_notDelivered ho hf] at h
    cases h
  | answerLost =>
    rw [exec_answerLost ho hf] at h
    cases h

end Run

/-! ## What answers look like -/

/-- The row a call writes over the stored one. -/
def SagaOp.row? : SagaOp → Option Saga
  | .update s | .updateWithOutbox s _ | .updateWithAudit s _ => some s
  | .updateWithOutboxAndAudit s _ _ => some s
  | _ => none

/-- A row the store returns for a write: the written columns, and the payment's own. -/
def Written (s s' : Saga) : Prop :=
  ∃ (row : Saga) (time : Time), row.paymentID = s.paymentID ∧ s' = row.overwrite s time

/-- What the answers of a call have in common. -/
def Answer : (o : SagaOp) → Except SagaErr o.Ret → Prop
  | .create s, .ok s' => sameStartPayload s' s
  | .getByPaymentID paymentID, .ok s => s.paymentID = paymentID
  | .listNonTerminal, .ok l => ∀ s ∈ (show List Saga from l), s.state.terminal = false
  | .update s, .ok s' | .updateWithOutbox s _, .ok s' => Written s s'
  | .updateWithAudit s _, .ok s' | .updateWithOutboxAndAudit s _ _, .ok s' => Written s s'
  | _, _ => True

theorem exec_answer (c : Choice U) (o : SagaOp) (w : World U) : Answer o (o.exec c w).1 := by
  rcases exec_outcome c o w with ⟨e, he⟩ | ⟨a, w', ha, hr | ⟨e, hr⟩⟩
  · rw [he]
    cases o <;> trivial
  · rw [hr]
    cases o with
    | create s =>
      rcases World.create_ok (commit_eq_ok.mp ha) with ⟨-, hs, -⟩ | ⟨rfl, -, -⟩
      · exact hs
      · exact ⟨rfl, rfl, rfl, rfl, rfl, rfl, rfl⟩
    | getByPaymentID paymentID =>
      obtain ⟨hs, -⟩ := Prod.mk.inj ha
      exact (World.saga?_some (World.getByPaymentID_eq_ok.mp hs)).2
    | listNonTerminal =>
      obtain ⟨hl, -⟩ := Prod.mk.inj ha
      cases hl
      exact fun s hs => (World.mem_listNonTerminal.mp hs).2
    | update s | updateWithOutbox s _ | updateWithAudit s _ | updateWithOutboxAndAudit s _ _ =>
      obtain ⟨row, hrow, rfl, -⟩ := World.write_ok (commit_eq_ok.mp ha)
      exact ⟨row, c.env.now, (World.saga?_some hrow).2, rfl⟩
    | _ => trivial
  · rw [hr]
    cases o <;> trivial

end EnjoyThings
