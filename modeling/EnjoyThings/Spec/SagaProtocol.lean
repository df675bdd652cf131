import EnjoyThings.Spec.SagaSystem

/-!
# The protocol of the handlers

What a handler knows about its payment, and which calls it makes with what
knowledge. `Fact` is the knowledge: a copy of the row, or a copy together with
the answer of another service that is not stored yet. `FactMove` lists every
call a handler makes on its payment, with the fact it is made from. The handlers
of `Orchestrator` are shown to make no other calls (`handler_follows`), so that
an invariant of the system only has to be checked against the moves.
-/

namespace EnjoyThings

open Effect Orchestrator

/-- What a handler knows, beyond the calls it has still to make. -/
inductive Fact
  /-- a copy of the row -/
  | row (s : Saga)
  /-- the user of the STARTED copy was found to be verified -/
  | verified (s : Saga)
  /-- the user of the STARTED copy was found not to be verified -/
  | unverified (s : Saga)
  /-- the wallet was debited for the VERIFICATION_CHECKED copy -/
  | debited (s : Saga) (walletDebitID : String)
  /-- the ledger reserved the transfer of the WALLET_DEBITED copy -/
  | reserved (s : Saga) (ledgerReservationID : String)
  /-- the ledger confirmed the transfer of the copy -/
  | confirmed (s : Saga) (transferID : String)
  /-- `tx.completed` is enqueued for the LEDGER_CONFIRMED copy -/
  | announced (s : Saga)
  /-- the reservation of the COMPENSATING_LEDGER copy is canceled -/
  | canceled (s : Saga)
  /-- the debit of the COMPENSATING_WALLET copy is compensated -/
  | compensated (s : Saga)
  /-- the row is FAILED after a compensation and `tx.failed` is due -/
  | failed (s : Saga)

/-- The copy a fact is about. -/
def Fact.saga : Fact → Saga
  | .row s | .verified s | .unverified s | .debited s _ | .reserved s _ => s
  | .confirmed s _ | .announced s | .canceled s | .compensated s | .failed s => s

/-- The fact an answer teaches; an error teaches nothing. -/
def learn {α : Type} (f : α → Fact) : Except SagaErr α → Option Fact
  | .ok a => some (f a)
  | .error _ => none

/-- The one fact that an answer teaches. -/
theorem learned {P : Fact → Prop} {f : Fact} (h : P f) : ∀ g ∈ some f, P g := by
  rintro _ ⟨⟩
  exact h

/-- What the answer of the verification service teaches about a STARTED copy. -/
def verdict (s : Saga) : Except SagaErr VerificationResult → Option Fact
  | .ok result => some (if result.status = verificationVerified then .verified s else .unverified s)
  | .error .verificationNotFound => some (.unverified s)
  | .error _ => none

/-- A copy that a payment result is applied to: neither terminal nor under review. -/
def Open (s : Saga) : Prop :=
  s.state ≠ .completed ∧ s.state ≠ .failed ∧ s.state ≠ .fraudReview

/-- The calls on a payment, each with the fact it is made from and the fact it teaches. -/
inductive FactMove : Option Fact → (o : SagaOp) → (Except SagaErr o.Ret → Option Fact) → Prop
  | now (f : Option Fact) : FactMove f .now fun _ => f
  | audit (f : Option Fact) (a : FraudAuditRecord) : FactMove f (.recordFraudAudit a) fun _ => f
  | verify {s : Saga} (h : s.state = .started) :
    FactMove (some (.row s)) (.getStatus { userID := s.userID, traceID := s.traceID }) (verdict s)
  | writeChecked (s : Saga) (t : Time) :
    FactMove (some (.verified s))
      (.update { s with state := .verificationChecked, updatedAt := t }) (learn .row)
  | writeUnverified (s : Saga) (t : Time) :
    FactMove (some (.unverified s))
      (.update { s with state := .failed, lastError := unverifiedMessage, updatedAt := t })
      (learn .row)
  | debit {s : Saga} (h : s.state = .verificationChecked) :
    FactMove (some (.row s)) (.debitForSaga (walletDebitRequest s))
      (learn fun r => .debited s r.walletDebitID)
  | writeDebited (s : Saga) (id : String) (t : Time) :
    FactMove (some (.debited s id))
      (.update { s with state := .walletDebited, walletDebitID := id, updatedAt := t }) (learn .row)
  | reserve {s : Saga} (h : s.state = .walletDebited) :
    FactMove (some (.row s)) (.reserveTransfer (ledgerReserveRequest s))
      (learn fun r => .reserved s r.ledgerReservationID)
  | writeReserved (s : Saga) (id : String) (t : Time) :
    FactMove (some (.reserved s id))
      (.update { s with state := .ledgerReserved, ledgerReservationID := id, updatedAt := t })
      (learn .row)
  | execute {s : Saga} (h : s.state = .ledgerReserved) (t : Time) :
    FactMove (some (.row s))
      (.updateWithOutbox { s with state := .paymentProcessing, updatedAt := t }
        [paymentExecuteRecord s t, fraudScoreRecord s t]) (learn .row)
  | confirm {s : Saga} (h : Open s) (traceID : String) :
    FactMove (some (.row s)) (.confirmTransfer (ledgerConfirmRequest s traceID))
      (learn fun r => .confirmed s r.transferID)
  | writeConfirmed (s : Saga) (id : String) (t : Time) :
    FactMove (some (.confirmed s id))
      (.update { s with state := .ledgerConfirmed, transferID := id, updatedAt := t }) (learn .row)
  | announce {s : Saga} (h : s.state = .ledgerConfirmed) (traceID : String) (t t' : Time) :
    FactMove (some (.row s)) (.enqueue (txCompletedRecord s traceID t t'))
      (learn fun _ => .announced s)
  | writeCompleted (s : Saga) (t : Time) :
    FactMove (some (.announced s)) (.update { s with state := .completed, updatedAt := t })
      (learn .row)
  | writeCompensating {s : Saga} (h : Open s) (code message : String) (t : Time) :
    FactMove (some (.row s))
      (.update { s with state := .compensatingLedger, failureCode := code, lastError := message,
                        updatedAt := t }) (learn .row)
  | writeRejected {s : Saga} (h : s.state = .fraudReview) (reason : String) (t : Time)
      (a : FraudAuditRecord) :
    FactMove (some (.row s))
      (.updateWithAudit { s with state := .compensatingLedger,
                                 failureCode := failureCodeFraudRejected, lastError := reason,
                                 updatedAt := t } a) (learn .row)
  | cancel {s : Saga} (h : s.state = .compensatingLedger) (traceID reason : String) :
    FactMove (some (.row s)) (.cancelReservation (ledgerCancelRequest s traceID reason))
      (learn fun _ => .canceled s)
  | writeCanceled (s : Saga) (t : Time) :
    FactMove (some (.canceled s)) (.update { s with state := .compensatingWallet, updatedAt := t })
      (learn .row)
  | compensate {s : Saga} (h : s.state = .compensatingWallet) (traceID reason : String) :
    FactMove (some (.row s)) (.compensateDebit (walletCompensateRequest s traceID reason))
      (learn fun _ => .compensated s)
  | writeFailed (s : Saga) (t : Time) :
    FactMove (some (.compensated s)) (.update { s with state := .failed, updatedAt := t })
      (learn .failed)
  | announceFailed (s : Saga) (traceID : String) (t t' : Time) :
    FactMove (some (.failed s)) (.enqueue (txFailedRecord s traceID t t')) fun _ => none
  | writeFlagged {s : Saga} (h : s.state = .paymentProcessing) (e : FraudFlagged)
      (traceID : String) (t : Time) (a : FraudAuditRecord) :
    FactMove (some (.row s))
      (.updateWithOutboxAndAudit { withFraudMetadata s e t with state := .fraudReview }
        [txPausedRecord (withFraudMetadata s e t) traceID t] a) (learn .row)
  | writeMarked {s : Saga} (h : s.state ≠ .paymentProcessing) (e : FraudFlagged) (t : Time)
      (a : FraudAuditRecord) :
    FactMove (some (.row s)) (.updateWithAudit (withFraudMetadata s e t) a) (learn .row)
  | writeResumed {s : Saga} (h : s.state = .fraudReview) (t : Time) (a : FraudAuditRecord) :
    FactMove (some (.row s))
      (.updateWithAudit { s with state := .paymentProcessing, deferredPaymentJSON := none,
                                 updatedAt := t } a) (learn .row)
  | writeDeferred {s : Saga} (h : s.state = .fraudReview) (hd : s.deferredPaymentJSON = none)
      {result : PaymentResult} (hp : result.paymentID = s.paymentID) (t : Time)
      (a : FraudAuditRecord) :
    FactMove (some (.row s))
      (.updateWithAudit { s with deferredPaymentJSON := some result, updatedAt := t } a)
      (learn .row)

variable {f : Option Fact}

/-- No move on a payment creates one. -/
theorem FactMove.ne_create {o : SagaOp} {lesson : Except SagaErr o.Ret → Option Fact}
    (hm : FactMove f o lesson) (s : Saga) :
    o ≠ .create s := by
  rintro rfl
  cases hm

/-- What the row `s` that a call writes has of the copy `r` it is made from. Only a flag takes a
    payment into review, and only a result of the payment is stored. -/
structure SagaOp.Rewrites (o : SagaOp) (r s : Saga) : Prop where
  paymentID : s.paymentID = r.paymentID
  traceID : s.traceID = r.traceID
  result : ∀ result ∈ s.deferredPaymentJSON,
    result ∈ r.deferredPaymentJSON ∨ result.paymentID = s.paymentID
  review : s.state = .fraudReview →
    r.state = .fraudReview ∨ ∃ events audit, o = .updateWithOutboxAndAudit s events audit

/-- Every row that a handler writes is made from its copy. -/
theorem FactMove.rewrites {o : SagaOp} {lesson : Except SagaErr o.Ret → Option Fact} {s : Saga}
    (hm : FactMove f o lesson) (hs : s ∈ o.row?) : ∃ g ∈ f, o.Rewrites g.saga s := by
  cases hm with
  | now | audit | verify | debit | reserve | confirm | announce | cancel | compensate
  | announceFailed => cases hs
  | writeFlagged =>
    cases hs
    exact ⟨_, rfl, rfl, rfl, fun _ h => .inl h, fun _ => .inr ⟨_, _, rfl⟩⟩
  | writeMarked =>
    cases hs
    exact ⟨_, rfl, rfl, rfl, fun _ h => .inl h, fun h => .inl h⟩
  | writeDeferred _ _ hp =>
    cases hs
    refine ⟨_, rfl, rfl, rfl, fun result h => .inr ?_, fun h => .inl h⟩
    cases h
    exact hp
  | writeResumed =>
    cases hs
    exact ⟨_, rfl, rfl, rfl, fun _ h => (by cases h), fun h => by cases h⟩
  | _ =>
    -- the other writes lead out of review and leave the stored result
    cases hs
    exact ⟨_, rfl, rfl, rfl, fun _ h => .inl h, fun h => by cases h⟩

/-- What a handler knows at one point: a fact about the payment it works on, and the copies
    of a listing it has still to work on. -/
structure Knowledge where
  fact : Option Fact
  listed : List Saga

/-- The rows a listing returns. -/
def listedRows : Except SagaErr (List Saga) → List Saga
  | .ok l => l
  | .error _ => []

/-- The calls of the handlers. `admits` says which payments may be started. -/
inductive Move (admits : StartRequest → Prop) :
    Knowledge → (o : SagaOp) → (Except SagaErr o.Ret → Knowledge) → Prop
  | fact {f : Option Fact} {o : SagaOp} {lesson : Except SagaErr o.Ret → Option Fact}
      (h : FactMove f o lesson) (listed : List Saga) :
    Move admits ⟨f, listed⟩ o fun r => ⟨lesson r, listed⟩
  | get (paymentID : String) :
    Move admits ⟨none, []⟩ (.getByPaymentID paymentID) fun r => ⟨learn .row r, []⟩
  | create (req : StartRequest) (t : Time) (h : admits req) :
    Move admits ⟨none, []⟩ (.create (startedSaga req t)) fun r => ⟨learn .row r, []⟩
  | list : Move admits ⟨none, []⟩ .listNonTerminal fun r => ⟨none, listedRows r⟩

/-- Forgetting: the fact, the rest of the listing, or that a copy came from the listing. -/
inductive Knowledge.le : Knowledge → Knowledge → Prop
  | refl (k : Knowledge) : le k k
  | trans {k l m : Knowledge} (h : le k l) (h' : le l m) : le k m
  | forget (f : Option Fact) (listed : List Saga) : le ⟨f, listed⟩ ⟨none, listed⟩
  | drop (f : Option Fact) (listed : List Saga) : le ⟨f, listed⟩ ⟨f, []⟩
  | take (s : Saga) (listed : List Saga) : le ⟨none, s :: listed⟩ ⟨some (.row s), listed⟩

/-- The discipline of the handlers. -/
def sagaDiscipline (admits : StartRequest → Prop) :
    Discipline SagaOp SagaOp.Ret SagaErr Knowledge where
  move := Move admits
  answer := Answer
  le := Knowledge.le
  le_refl := .refl
  le_trans := .trans

/-! ## The handlers follow the protocol -/

section Follows

variable {admits : StartRequest → Prop} {s : Saga} {l : List Saga}

/-- The handler is done with its payment and still has the rest of its listing. -/
def Keeps (l : List Saga) {α : Type} : Except SagaErr α → Knowledge → Prop :=
  fun _ k => k.listed = l

/-- As `Keeps`, and the row the handler goes on with is a copy it knows. -/
def KeepsRow (l : List Saga) : Except SagaErr Saga → Knowledge → Prop :=
  fun r k => k.listed = l ∧ ∀ s, r = .ok s → k.fact = some (.row s)

/-- An error hands no row on. -/
theorem keepsRow_error {e : SagaErr} : KeepsRow l (.error e) ⟨f, l⟩ :=
  ⟨rfl, fun _ h => by cases h⟩

/-- A write that is the last call of a stage hands its row on. -/
theorem follows_write (s' : Saga) (h : FactMove f (.update s') (learn .row)) :
    (sagaDiscipline admits).Follows (KeepsRow l) (update s') ⟨f, l⟩ := by
  refine .perform (.fact h l) fun r _ => ⟨rfl, ?_⟩
  rintro s rfl
  rfl

/-- A payment of a user who is not verified is failed. -/
theorem failUnverified_follows :
    (sagaDiscipline admits).Follows (KeepsRow l) (failUnverified s) ⟨some (.unverified s), l⟩ := by
  simp only [failUnverified, Prog.perform_bind]
  refine .call (.fact (.now _) l) (fun t _ => ?_) (fun _ => keepsRow_error)
  refine .call (.fact (.writeUnverified s t) l) (fun _ _ => ?_) (fun _ => keepsRow_error)
  exact .fail keepsRow_error

/-- STARTED: the verification service is asked, and what it says is written. -/
theorem checkVerification_follows :
    (sagaDiscipline admits).Follows (KeepsRow l) (checkVerification s) ⟨some (.row s), l⟩ := by
  unfold checkVerification
  split
  · rename_i hs
    simp only [Prog.attempt_perform_bind]
    refine ⟨_, _, .refl _, .fact (.verify hs) l, fun r hr => ?_⟩
    clear hr
    -- the program and the fact it learns make the same distinction
    dsimp only
    split
    · exact failUnverified_follows
    · exact .fail keepsRow_error
    · rename_i result
      by_cases hv : result.status = verificationVerified
      · simp only [hv, ne_eq, not_true_eq_false, ↓reduceIte, Prog.perform_bind, verdict]
        refine .call (.fact (.now _) l) (fun t _ => ?_) (fun _ => keepsRow_error)
        exact follows_write _ (.writeChecked s t)
      · simp only [hv, ne_eq, not_false_eq_true, ↓reduceIte, verdict]
        exact failUnverified_follows
  · exact .done ⟨rfl, fun _ h => by cases h; rfl⟩

/-- VERIFICATION_CHECKED: the wallet is debited, and the ID of the debit is stored. -/
theorem debitWallet_follows :
    (sagaDiscipline admits).Follows (KeepsRow l) (debitWallet s) ⟨some (.row s), l⟩ := by
  unfold debitWallet
  split
  · rename_i hs
    simp only [Prog.perform_bind]
    refine .call (.fact (.debit hs) l) (fun r _ => ?_) (fun _ => keepsRow_error)
    refine .call (.fact (.now _) l) (fun t _ => ?_) (fun _ => keepsRow_error)
    exact follows_write _ (.writeDebited s r.walletDebitID t)
  · exact .done ⟨rfl, fun _ h => by cases h; rfl⟩

/-- WALLET_DEBITED: the ledger reserves, and the ID of the reservation is stored. -/
theorem reserveLedger_follows :
    (sagaDiscipline admits).Follows (KeepsRow l) (reserveLedger s) ⟨some (.row s), l⟩ := by
  unfold reserveLedger
  split
  · rename_i hs
    simp only [Prog.perform_bind]
    refine .call (.fact (.reserve hs) l) (fun r _ => ?_) (fun _ => keepsRow_error)
    refine .call (.fact (.now _) l) (fun t _ => ?_) (fun _ => keepsRow_error)
    exact follows_write _ (.writeReserved s r.ledgerReservationID t)
  · exact .done ⟨rfl, fun _ h => by cases h; rfl⟩

/-- LEDGER_RESERVED: the write and both requests to other services are one transaction. -/
theorem executePayment_follows :
    (sagaDiscipline admits).Follows (KeepsRow l) (executePayment s) ⟨some (.row s), l⟩ := by
  unfold executePayment
  split
  · rename_i hs
    simp only [Prog.perform_bind]
    refine .call (.fact (.now _) l) (fun t _ => ?_) (fun _ => keepsRow_error)
    refine .perform (.fact (.execute hs t) l) fun r _ => ⟨rfl, ?_⟩
    rintro s rfl
    rfl
  · exact .done ⟨rfl, fun _ h => by cases h; rfl⟩

/-- A stage that hands its row on, followed by what goes on with the row. -/
theorem Follows.stage {α : Type} {p : SagaProg Saga} {q : Saga → SagaProg α}
    {post : Except SagaErr α → Knowledge → Prop}
    (hp : (sagaDiscipline admits).Follows (KeepsRow l) p ⟨f, l⟩)
    (hq : ∀ s, (sagaDiscipline admits).Follows post (q s) ⟨some (.row s), l⟩)
    (herr : ∀ e f, post (.error e) ⟨f, l⟩) :
    (sagaDiscipline admits).Follows post (p >>= q) ⟨f, l⟩ := by
  refine hp.bind ?_ ?_
  · rintro s ⟨f', l'⟩ ⟨rfl, hf⟩
    obtain rfl := hf s rfl
    exact hq s
  · rintro e ⟨f', l'⟩ ⟨rfl, -⟩
    exact herr e f'

/-- The stages of a payment, each with the row the one before it has returned. -/
theorem advance_follows :
    (sagaDiscipline admits).Follows (KeepsRow l) (advance s) ⟨some (.row s), l⟩ := by
  unfold advance
  refine Follows.stage checkVerification_follows (fun s => ?_) (fun _ _ => keepsRow_error)
  refine Follows.stage debitWallet_follows (fun s => ?_) (fun _ _ => keepsRow_error)
  refine Follows.stage reserveLedger_follows (fun s => ?_) (fun _ _ => keepsRow_error)
  exact executePayment_follows

variable {traceID : String} {t : Time}

/-- `tx.failed` is enqueued for a row that is FAILED. -/
theorem publishTxFailed_follows :
    (sagaDiscipline admits).Follows (Keeps l) (publishTxFailed s traceID t)
      ⟨some (.failed s), l⟩ := by
  simp only [publishTxFailed, Prog.perform_bind]
  refine .call (.fact (.now _) l) (fun t' _ => ?_) (fun _ => rfl)
  exact .perform (.fact (.announceFailed s traceID t t') l) fun _ _ => rfl

/-- COMPENSATING_WALLET: the debit is given back, then the failure written and announced. -/
theorem compensateWallet_follows (hs : s.state = .compensatingWallet) :
    (sagaDiscipline admits).Follows (Keeps l) (compensateWallet s) ⟨some (.row s), l⟩ := by
  simp only [compensateWallet, Prog.perform_bind]
  refine .call (.fact (.compensate hs _ _) l) (fun _ _ => ?_) (fun _ => rfl)
  refine .call (.fact (.now _) l) (fun t _ => ?_) (fun _ => rfl)
  refine .call (.fact (.writeFailed s t) l) (fun s' _ => ?_) (fun _ => rfl)
  refine .call (.fact (.now _) l) (fun t' _ => ?_) (fun _ => rfl)
  exact publishTxFailed_follows

/-- A write returns the state that was written. -/
theorem Written.state_eq {s s' : Saga} (h : Written s s') : s'.state = s.state := by
  obtain ⟨row, t, -, rfl⟩ := h
  rfl

/-- A write returns the row of the payment it was for. -/
theorem Written.paymentID_eq {s s' : Saga} (h : Written s s') : s'.paymentID = s.paymentID := by
  obtain ⟨row, t, hpid, rfl⟩ := h
  exact hpid

/-- COMPENSATING_LEDGER: the reservation is canceled before the debit is given back. -/
theorem resumeCompensation_follows (hs : s.state = .compensatingLedger) :
    (sagaDiscipline admits).Follows (Keeps l) (resumeCompensation s true) ⟨some (.row s), l⟩ := by
  simp only [resumeCompensation, ↓reduceIte, Prog.perform_bind]
  refine .call (.fact (.cancel hs _ _) l) (fun _ _ => ?_) (fun _ => rfl)
  refine .call (.fact (.now _) l) (fun t _ => ?_) (fun _ => rfl)
  refine .call (.fact (.writeCanceled s t) l) (fun s' hs' => ?_) (fun _ => rfl)
  exact compensateWallet_follows (Written.state_eq hs')

/-- Once `tx.completed` is enqueued, the row is completed. -/
theorem publishTxCompleted_follows {q : SagaProg Unit} (hs : s.state = .ledgerConfirmed)
    (hq : (sagaDiscipline admits).Follows (Keeps l) q ⟨some (.announced s), l⟩) :
    (sagaDiscipline admits).Follows (Keeps l) (publishTxCompleted s traceID t >>= fun _ => q)
      ⟨some (.row s), l⟩ := by
  simp only [publishTxCompleted, Prog.perform_bind, Prog.call_bind]
  refine ⟨_, _, .refl _, .fact (.now _) l, fun r _ => ?_⟩
  cases r with
  | error e => exact .fail rfl
  | ok t' =>
    simp only [Prog.onAnswer_ok, Prog.perform_bind]
    exact .call (.fact (.announce hs traceID t t') l) (fun _ _ => hq) (fun _ => rfl)

/-- COMPLETED is written after the announcement. -/
theorem writeCompleted_follows :
    (sagaDiscipline admits).Follows (Keeps l)
      (update { s with state := .completed, updatedAt := t } >>= fun _ => pure ())
      ⟨some (.announced s), l⟩ := by
  simp only [Prog.perform_bind]
  exact .call (.fact (.writeCompleted s t) l) (fun _ _ => .done rfl) (fun _ => rfl)

/-- A restart goes on with a copy where its state says. -/
theorem resumeOne_follows :
    (sagaDiscipline admits).Follows (Keeps l) (resumeOne s) ⟨some (.row s), l⟩ := by
  unfold resumeOne
  split
  · rename_i hs
    rw [Prog.perform_bind]
    refine .call (.fact (.now _) l) (fun t _ => ?_) (fun _ => rfl)
    refine publishTxCompleted_follows hs ?_
    rw [Prog.perform_bind]
    refine .call (.fact (.now _) l) (fun t' _ => ?_) (fun _ => rfl)
    exact writeCompleted_follows
  · rename_i hs
    exact resumeCompensation_follows hs
  · rename_i hs
    exact compensateWallet_follows hs
  · exact .done rfl
  · exact Follows.stage advance_follows (fun _ => .done rfl) (fun _ _ => rfl)

/-- The whole handler: nothing is said about what it knows in the end. -/
def Ends {α : Type} : Except SagaErr α → Knowledge → Prop :=
  fun _ _ => True

/-- The loop of a restart takes one copy of the listing after the other. -/
theorem resumeEach_follows (sagas : List Saga) :
    (sagaDiscipline admits).Follows Ends (resumeEach sagas) ⟨none, sagas⟩ := by
  induction sagas with
  | nil => exact .done trivial
  | cons s rest ih =>
    -- the copy of the listing is what is known of its payment
    refine Discipline.Follows.weaken ?_ (.take s rest)
    refine resumeOne_follows.bind ?_ (fun _ _ _ => trivial)
    rintro u ⟨f, l⟩ rfl
    exact ih.weaken (.forget f l)

/-- A restart knows its listing, and nothing else. -/
theorem resumeNonTerminal_follows :
    (sagaDiscipline admits).Follows Ends resumeNonTerminal ⟨none, []⟩ := by
  simp only [resumeNonTerminal, Prog.perform_bind]
  exact .call .list (fun sagas _ => resumeEach_follows sagas) (fun _ => trivial)

/-- A start creates the row, and advances it if it is STARTED. -/
theorem startPaymentSaga_follows {req : StartRequest} (h : admits req) :
    (sagaDiscipline admits).Follows Ends (startPaymentSaga req) ⟨none, []⟩ := by
  simp only [startPaymentSaga, Prog.perform_bind]
  refine .call (.fact (.now _) []) (fun t _ => ?_) (fun _ => trivial)
  refine .call (.create req t h) (fun s _ => ?_) (fun _ => trivial)
  split
  · exact .done trivial
  · exact advance_follows.mono fun _ _ _ => trivial

/-- A result that is not applied leaves an audit record. -/
theorem auditResult_follows {eventID : String} {kind : FraudAuditKind} {details : AuditDetails} :
    (sagaDiscipline admits).Follows Ends (auditResult s eventID kind details) ⟨f, []⟩ := by
  simp only [auditResult, Prog.perform_bind]
  refine .call (.fact (.now _) []) (fun t _ => ?_) (fun _ => trivial)
  exact .perform (.fact (.audit _ _) []) fun _ _ => trivial

/-- Under review the first result is stored, and any other leaves an audit record. -/
theorem deferPaymentResult_follows {result : PaymentResult}
    {details : ResultOutcome → AuditDetails} (hs : s.state = .fraudReview)
    (hp : result.paymentID = s.paymentID) :
    (sagaDiscipline admits).Follows Ends (deferPaymentResult s result details)
      ⟨some (.row s), []⟩ := by
  unfold deferPaymentResult
  split
  · split
    · exact auditResult_follows
    · exact auditResult_follows
  · rename_i hd
    simp only [Prog.perform_bind]
    refine .call (.fact (.now _) []) (fun t _ => ?_) (fun _ => trivial)
    exact .call (.fact (.writeDeferred hs hd hp t _) []) (fun _ _ => .done trivial)
      (fun _ => trivial)

/-- A payment that went through: confirm, store the transfer, announce, complete. -/
theorem applyPaymentCompleted_follows {e : PaymentCompleted} (hs : Open s) :
    (sagaDiscipline admits).Follows Ends (applyPaymentCompleted s e) ⟨some (.row s), []⟩ := by
  rw [applyPaymentCompleted, Prog.perform_bind]
  refine .call (.fact (.confirm hs _) []) (fun r _ => ?_) (fun _ => trivial)
  rw [Prog.perform_bind]
  refine .call (.fact (.now _) []) (fun t _ => ?_) (fun _ => trivial)
  rw [Prog.perform_bind]
  refine .call (.fact (.writeConfirmed s r.transferID t) []) (fun s' hs' => ?_) (fun _ => trivial)
  exact (publishTxCompleted_follows (Written.state_eq hs') writeCompleted_follows).mono
    fun _ _ _ => trivial

/-- A payment that failed is undone, at the ledger first. -/
theorem applyPaymentFailed_follows {e : PaymentFailed} (hs : Open s) :
    (sagaDiscipline admits).Follows Ends (applyPaymentFailed s e) ⟨some (.row s), []⟩ := by
  simp only [applyPaymentFailed, Prog.perform_bind]
  refine .call (.fact (.now _) []) (fun t _ => ?_) (fun _ => trivial)
  -- every write returns the row in the state that the next call is made in
  refine .call (.fact (.writeCompensating hs _ _ t) []) (fun s₁ h₁ => ?_) (fun _ => trivial)
  refine .call (.fact (.cancel (Written.state_eq h₁) _ _) []) (fun _ _ => ?_) (fun _ => trivial)
  refine .call (.fact (.writeCanceled s₁ t) []) (fun s₂ h₂ => ?_) (fun _ => trivial)
  refine .call (.fact (.compensate (Written.state_eq h₂) _ _) []) (fun _ _ => ?_)
    (fun _ => trivial)
  refine .call (.fact (.writeFailed s₂ t) []) (fun s₃ _ => ?_) (fun _ => trivial)
  exact publishTxFailed_follows.mono fun _ _ _ => trivial

/-- A result is applied, stored under review, or recorded, as the state of the row says. -/
theorem handlePaymentCompleted_follows {e : PaymentCompleted} :
    (sagaDiscipline admits).Follows Ends (handlePaymentCompleted e) ⟨none, []⟩ := by
  simp only [handlePaymentCompleted, Prog.perform_bind]
  refine .call (.get _) (fun s hs => ?_) (fun _ => trivial)
  split
  · exact auditResult_follows
  · exact auditResult_follows
  · rename_i hstate
    exact deferPaymentResult_follows hstate (Eq.symm hs)
  · rename_i h₁ h₂ h₃
    exact applyPaymentCompleted_follows ⟨h₁, h₂, h₃⟩

theorem handlePaymentFailed_follows {e : PaymentFailed} :
    (sagaDiscipline admits).Follows Ends (handlePaymentFailed e) ⟨none, []⟩ := by
  simp only [handlePaymentFailed, Prog.perform_bind]
  refine .call (.get _) (fun s hs => ?_) (fun _ => trivial)
  split
  · exact auditResult_follows
  · exact auditResult_follows
  · rename_i hstate
    exact deferPaymentResult_follows hstate (Eq.symm hs)
  · rename_i h₁ h₂ h₃
    exact applyPaymentFailed_follows ⟨h₂, h₁, h₃⟩

/-- A flag holds a payment that is processed, and marks any other row. -/
theorem handleFraudFlagged_follows {e : FraudFlagged} :
    (sagaDiscipline admits).Follows Ends (handleFraudFlagged e) ⟨none, []⟩ := by
  unfold handleFraudFlagged
  split
  · simp only [Prog.attempt_perform_bind]
    refine ⟨_, _, .refl _, .get _, fun r _ => ?_⟩
    dsimp only
    split
    · -- a flag of a payment that has no saga
      simp only [auditOrphan, Prog.perform_bind]
      refine .call (.fact (.now _) []) (fun t _ => ?_) (fun _ => trivial)
      exact .perform (.fact (.audit _ _) []) fun _ _ => trivial
    · exact .fail trivial
    · simp only [applyFraudFlagged, Prog.perform_bind]
      refine .call (.fact (.now _) []) (fun t _ => ?_) (fun _ => trivial)
      split
      · rename_i hs
        exact .call (.fact (.writeFlagged hs e _ t _) []) (fun _ _ => .done trivial)
          (fun _ => trivial)
      · rename_i hs
        exact .call (.fact (.writeMarked hs e t _) []) (fun _ _ => .done trivial)
          (fun _ => trivial)
  · exact .fail trivial

/-- A stored result goes the way it would have gone without the review. -/
theorem applyDeferredResult_follows {result : PaymentResult} :
    (sagaDiscipline admits).Follows Ends (applyDeferredResult result traceID) ⟨none, []⟩ := by
  unfold applyDeferredResult
  split
  · exact handlePaymentCompleted_follows
  · split
    · exact handlePaymentFailed_follows
    · exact .fail trivial

variable {k : Knowledge}

/-- After a handler another read may follow. -/
theorem follows_get {paymentID : String} :
    (sagaDiscipline admits).Follows Ends (getByPaymentID paymentID) k := by
  obtain ⟨f, l⟩ := k
  refine Discipline.Follows.weaken ?_ ((Knowledge.le.forget f l).trans (.drop none l))
  exact .perform (.get _) fun _ _ => trivial

/-- The row leaves the review before the stored result is applied to it. -/
theorem resumeFraudReview_follows {d : FraudReviewDecision} :
    (sagaDiscipline admits).Follows Ends (resumeFraudReview d) ⟨none, []⟩ := by
  rw [resumeFraudReview, Prog.perform_bind]
  refine .call (.get _) (fun s _ => ?_) (fun _ => trivial)
  split
  · exact .fail trivial
  · rename_i hs
    rw [Prog.perform_bind]
    refine .call (.fact (.now _) []) (fun t _ => ?_) (fun _ => trivial)
    rw [Prog.perform_bind]
    refine .call (.fact (.writeResumed (Decidable.not_not.mp hs) t _) []) (fun s' _ => ?_)
      (fun _ => trivial)
    split
    · exact .done trivial
    · -- the handler of the result reads the row again
      refine (applyDeferredResult_follows.weaken (.forget _ _)).bind ?_ (fun _ _ _ => trivial)
      exact fun _ _ _ => follows_get

/-- A rejection is written with its audit record, and then compensates. -/
theorem rejectFraudReview_follows {d : FraudReviewDecision} :
    (sagaDiscipline admits).Follows Ends (rejectFraudReview d) ⟨none, []⟩ := by
  rw [rejectFraudReview, Prog.perform_bind]
  refine .call (.get _) (fun s _ => ?_) (fun _ => trivial)
  split
  · exact .fail trivial
  · rename_i hs
    rw [Prog.perform_bind]
    refine .call (.fact (.now _) []) (fun t _ => ?_) (fun _ => trivial)
    rw [Prog.perform_bind]
    refine .call (.fact (.writeRejected (Decidable.not_not.mp hs) _ t _) []) (fun s' hs' => ?_)
      (fun _ => trivial)
    refine (resumeCompensation_follows (Written.state_eq hs')).bind ?_ (fun _ _ _ => trivial)
    exact fun _ _ _ => follows_get

/-- The reaper decides on fresh reads, so it needs nothing of its listing but the IDs. -/
theorem expireEach_follows {ttl : Int} (sagas : List Saga) {n : Nat}
    {failures : List (String × SagaErr)} :
    (sagaDiscipline admits).Follows Ends (expireEach ttl t sagas n failures) k := by
  induction sagas generalizing k n failures with
  | nil => exact .done trivial
  | cons s rest ih =>
    unfold expireEach
    split
    · obtain ⟨f, l⟩ := k
      refine Discipline.Follows.weaken ?_ ((Knowledge.le.forget f l).trans (.drop none l))
      have hreject : (sagaDiscipline admits).Follows Ends
          (rejectFraudReview (expiryDecision ttl s)).attempt ⟨none, []⟩ :=
        .attempt rejectFraudReview_follows
      refine hreject.bind ?_ (fun _ _ _ => trivial)
      rintro r k -
      -- whatever became of this payment, the next one is tried
      split
      · exact ih
      · exact ih
      · exact ih
    · exact ih

/-- The reaper lists once, and reads the clock once. -/
theorem expireFraudReviews_follows {ttl : Int} :
    (sagaDiscipline admits).Follows Ends (expireFraudReviews ttl) ⟨none, []⟩ := by
  unfold expireFraudReviews
  split
  · exact .fail trivial
  · simp only [Prog.perform_bind]
    refine .call .list (fun sagas _ => ?_) (fun _ => trivial)
    refine .call (.fact (.now _) _) (fun t _ => ?_) (fun _ => trivial)
    exact expireEach_follows sagas

/-- Dropping the result of a handler. -/
theorem Follows.discard {α : Type} {p : SagaProg α} (h : (sagaDiscipline admits).Follows Ends p k) :
    (sagaDiscipline admits).Follows Ends (p >>= fun _ => pure ()) k :=
  h.bind (fun _ _ _ => .done trivial) fun _ _ _ => trivial

/-- Every handler makes only the calls of the protocol, if only admitted payments are started. -/
theorem handler_follows (q : SagaRequest) (h : ∀ req, q = .start req → admits req) :
    (sagaDiscipline admits).Follows Ends q.handler ⟨none, []⟩ := by
  cases q with
  | start req => exact Follows.discard (startPaymentSaga_follows (h _ rfl))
  | paymentCompleted e => exact handlePaymentCompleted_follows
  | paymentFailed e => exact handlePaymentFailed_follows
  | fraudFlagged e => exact handleFraudFlagged_follows
  | resumeReview d => exact Follows.discard resumeFraudReview_follows
  | rejectReview d => exact Follows.discard rejectFraudReview_follows
  | expireReviews ttl => exact Follows.discard expireFraudReviews_follows
  | resumeNonTerminal => exact resumeNonTerminal_follows

end Follows

end EnjoyThings
