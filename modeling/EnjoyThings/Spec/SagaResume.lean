import EnjoyThings.Spec.SagaInvariant

/-!
# A restart with several sagas

`ResumeNonTerminal` works through the sagas the store lists and returns at the first
error, so a saga that cannot be resumed keeps those after it from being looked at.
Here every saga has answers of its own for the calls it makes (`Assignment`), whichever
sagas come before it. A saga's run reads and writes no row but its own
(`resumeOne_on`), so that it ends the same wherever it stands in the list, provided it
is reached: `each_resumed_as_alone`.

## Key results

- `resumeOne_passes`: which answers let `resumeOne` return without an error
- `resumeEach_row`: the row of a saga that is reached is the one it has when it is alone
- `each_resumed_as_alone`: all sagas are reached and end as alone exactly if every one
  but the last is resumed without an error
-/

namespace EnjoyThings

open Effect Orchestrator
open SagaOp (exec run)

variable {U : Type} [UuidLib U] {w v : World U} {s row : Saga} {paymentID : String}

/-! ## Answers of the other services -/

/-- What the surroundings decide about one call when the other services answer as they like:
    the fault of a store or outbox call, the clock, and the answer of a call to each service. -/
structure Script (U : Type) where
  choice : Choice U
  debit : Except SagaErr WalletDebitResult
  compensation : Except SagaErr Unit
  reservation : Except SagaErr LedgerReserveResult
  confirmation : Except SagaErr LedgerConfirmResult
  cancellation : Except SagaErr Unit

/-- One call: the store and the outbox do what they do, the other services answer by script. -/
def SagaOp.scripted (c : Script U) : (o : SagaOp) → World U → Except SagaErr o.Ret × World U
  | .getStatus _, w => (c.choice.verification, w)
  | .debitForSaga _, w => (c.debit, w)
  | .compensateDebit _, w => (c.compensation, w)
  | .reserveTransfer _, w => (c.reservation, w)
  | .confirmTransfer _, w => (c.confirmation, w)
  | .cancelReservation _, w => (c.cancellation, w)
  | o, w => o.exec c.choice w

def scriptMachine (U : Type) [UuidLib U] :
    Machine SagaOp SagaOp.Ret SagaErr (World U) Seen (Script U) where
  exec := SagaOp.scripted
  see := Seen.see

/-- The answers each saga gets, for the calls it makes one after the other. The listing itself
    arrives. -/
structure Assignment (U : Type) where
  listing : Script U
  calls : String → Nat → Script U
  listed : listing.choice.fault = .none

/-- The answers of the loop over `sagas`: those of each saga, in the order in which the loop
    comes to them. -/
def Assignment.loop (A : Assignment U) : List Saga → World U → Nat → Script U
  | [], _ => fun _ => A.listing
  | s :: rest, w =>
    splice ((resumeOne s).calls (scriptMachine U) (A.calls s.paymentID) w) (A.calls s.paymentID)
      (A.loop rest ((resumeOne s).eval (scriptMachine U) (A.calls s.paymentID) w).2)

/-- `ResumeNonTerminal` when every saga gets its own answers. -/
def Assignment.resume (A : Assignment U) (w : World U) : Except SagaErr Unit × World U :=
  resumeNonTerminal.eval (scriptMachine U)
    (splice 1 (fun _ => A.listing) (A.loop w.listNonTerminal w)) w

/-- `resumeOne` is called for the saga after `before`: the loop over `before` returns. -/
def Assignment.Reaches (A : Assignment U) (before : List Saga) (w : World U) : Prop :=
  ((resumeEach before).eval (scriptMachine U) (A.loop before w) w).1 = .ok ()

/-! ## The calls on one payment -/

/-- The call neither reads nor writes the row of another payment. -/
def SagaOp.On (paymentID : String) : SagaOp → Prop
  | .update s | .updateWithOutbox s _ => s.paymentID = paymentID
  | .create _ | .getByPaymentID _ | .listNonTerminal | .updateWithAudit _ _ => False
  | .updateWithOutboxAndAudit _ _ _ | .recordFraudAudit _ => False
  | .now | .getStatus _ | .debitForSaga _ | .compensateDebit _ | .reserveTransfer _ => True
  | .confirmTransfer _ | .cancelReservation _ | .enqueue _ => True

/-- Programs that stay with one payment. -/
def onPayment (paymentID : String) : Discipline SagaOp SagaOp.Ret SagaErr Unit where
  move _ o _ := o.On paymentID
  answer := Answer
  le _ _ := True
  le_refl _ := trivial
  le_trans _ _ := trivial

/-- The row a stage hands on is still that of the payment. -/
def HandsOn (paymentID : String) : Except SagaErr Saga → Unit → Prop :=
  fun r _ => ∀ s, r = .ok s → s.paymentID = paymentID

theorem handsOn_error {e : SagaErr} {k : Unit} : HandsOn paymentID (.error e) k :=
  fun _ h => by cases h

/-- A call of the payment whose error ends the program. -/
theorem call_on {α : Type} {o : SagaOp} {f : o.Ret → SagaProg α}
    {post : Except SagaErr α → Unit → Prop} (ho : o.On paymentID)
    (hok : ∀ a, Answer o (.ok a) → (onPayment paymentID).Follows post (f a) ())
    (herr : ∀ e, post (.error e) ()) :
    (onPayment paymentID).Follows post (.call o (Prog.onAnswer f)) () := by
  have hmove : (onPayment paymentID).move () o fun _ => () := ho
  exact .call hmove hok herr

/-- The last call of a program. -/
theorem perform_on {o : SagaOp} {post : Except SagaErr o.Ret → Unit → Prop} (ho : o.On paymentID)
    (h : ∀ r, Answer o r → post r ()) : (onPayment paymentID).Follows post (Prog.perform o) () := by
  have hmove : (onPayment paymentID).move () o fun _ => () := ho
  exact .perform hmove h

theorem update_on (hs : s.paymentID = paymentID) :
    (onPayment paymentID).Follows (HandsOn paymentID) (update s) () := by
  refine perform_on hs fun r hr => ?_
  rintro s' rfl
  exact (Written.paymentID_eq hr).trans hs

theorem failUnverified_on (hs : s.paymentID = paymentID) :
    (onPayment paymentID).Follows (HandsOn paymentID) (failUnverified s) () := by
  simp only [failUnverified, Prog.perform_bind]
  refine call_on trivial (fun t _ => ?_) fun _ => handsOn_error
  exact call_on hs (fun _ _ => .fail handsOn_error) fun _ => handsOn_error

theorem checkVerification_on (hs : s.paymentID = paymentID) :
    (onPayment paymentID).Follows (HandsOn paymentID) (checkVerification s) () := by
  unfold checkVerification
  split
  · have hmove : (onPayment paymentID).move ()
        (.getStatus { userID := s.userID, traceID := s.traceID }) fun _ => () := trivial
    simp only [Prog.attempt_perform_bind]
    refine ⟨(), _, trivial, hmove, fun r _ => ?_⟩
    dsimp only
    split
    · exact failUnverified_on hs
    · exact .fail handsOn_error
    · split
      · exact failUnverified_on hs
      · rw [Prog.perform_bind]
        exact call_on trivial (fun t _ => update_on hs) fun _ => handsOn_error
  · exact .done fun _ h => by cases h; exact hs

theorem debitWallet_on (hs : s.paymentID = paymentID) :
    (onPayment paymentID).Follows (HandsOn paymentID) (debitWallet s) () := by
  unfold debitWallet
  split
  · simp only [Prog.perform_bind]
    refine call_on trivial (fun r _ => ?_) fun _ => handsOn_error
    exact call_on trivial (fun t _ => update_on hs) fun _ => handsOn_error
  · exact .done fun _ h => by cases h; exact hs

theorem reserveLedger_on (hs : s.paymentID = paymentID) :
    (onPayment paymentID).Follows (HandsOn paymentID) (reserveLedger s) () := by
  unfold reserveLedger
  split
  · simp only [Prog.perform_bind]
    refine call_on trivial (fun r _ => ?_) fun _ => handsOn_error
    exact call_on trivial (fun t _ => update_on hs) fun _ => handsOn_error
  · exact .done fun _ h => by cases h; exact hs

theorem executePayment_on (hs : s.paymentID = paymentID) :
    (onPayment paymentID).Follows (HandsOn paymentID) (executePayment s) () := by
  unfold executePayment
  split
  · simp only [Prog.perform_bind]
    refine call_on trivial (fun t _ => ?_) fun _ => handsOn_error
    refine perform_on hs fun r hr => ?_
    rintro s' rfl
    exact (Written.paymentID_eq hr).trans hs
  · exact .done fun _ h => by cases h; exact hs

theorem advance_on (hs : s.paymentID = paymentID) :
    (onPayment paymentID).Follows (HandsOn paymentID) (advance s) () := by
  unfold advance
  refine (checkVerification_on hs).bind (fun s _ h => ?_) fun _ _ _ => handsOn_error
  refine (debitWallet_on (h s rfl)).bind (fun s _ h => ?_) fun _ _ _ => handsOn_error
  refine (reserveLedger_on (h s rfl)).bind (fun s _ h => ?_) fun _ _ _ => handsOn_error
  exact executePayment_on (h s rfl)

theorem compensateWallet_on (hs : s.paymentID = paymentID) :
    (onPayment paymentID).Follows (fun _ _ => True) (compensateWallet s) () := by
  simp only [compensateWallet, publishTxFailed, Prog.perform_bind]
  refine call_on trivial (fun _ _ => ?_) fun _ => trivial
  refine call_on trivial (fun t _ => ?_) fun _ => trivial
  refine call_on hs (fun s' _ => ?_) fun _ => trivial
  refine call_on trivial (fun t' _ => ?_) fun _ => trivial
  refine call_on trivial (fun t'' _ => ?_) fun _ => trivial
  exact perform_on trivial fun _ _ => trivial

theorem publishTxCompleted_on {traceID : String} {t : Time} :
    (onPayment paymentID).Follows (fun _ _ => True) (publishTxCompleted s traceID t) () := by
  simp only [publishTxCompleted, Prog.perform_bind]
  refine call_on trivial (fun t' _ => ?_) fun _ => trivial
  exact perform_on trivial fun _ _ => trivial

/-- A restart stays with the payment of the saga it resumes. -/
theorem resumeOne_on (s : Saga) :
    (onPayment s.paymentID).Follows (fun _ _ => True) (resumeOne s) () := by
  unfold resumeOne
  split
  · simp only [Prog.perform_bind]
    refine call_on trivial (fun t _ => ?_) fun _ => trivial
    refine publishTxCompleted_on.bind (fun _ _ _ => ?_) fun _ _ _ => trivial
    refine call_on trivial (fun t' _ => ?_) fun _ => trivial
    exact call_on rfl (fun _ _ => .done trivial) fun _ => trivial
  · simp only [resumeCompensation, ↓reduceIte, Prog.perform_bind]
    refine call_on trivial (fun _ _ => ?_) fun _ => trivial
    refine call_on trivial (fun t _ => ?_) fun _ => trivial
    exact call_on rfl (fun s' hs' => compensateWallet_on ((Written.paymentID_eq hs').trans rfl))
      fun _ => trivial
  · exact compensateWallet_on rfl
  · exact .done trivial
  · exact (advance_on rfl).bind (fun _ _ _ => .done trivial) fun _ _ _ => trivial

/-! ## What a call sees of the world -/

omit [UuidLib U] in
/-- A write depends on the row of its payment only, and changes no other. -/
theorem World.write_same {now : Time} {events : List OutboxRecord}
    (h : w.saga? s.paymentID = v.saga? s.paymentID) :
    (run.commit w (w.write now s events none)).1 =
      (run.commit v (v.write now s events none)).1 ∧
    (run.commit w (w.write now s events none)).2.saga? s.paymentID =
      (run.commit v (v.write now s events none)).2.saga? s.paymentID := by
  cases hrow : w.saga? s.paymentID with
  | none => simp [World.write, ← h, hrow, run.commit]
  | some row =>
    rw [World.write_eq hrow, World.write_eq (h ▸ hrow)]
    refine ⟨rfl, ?_⟩
    show (w.afterWrite ..).saga? _ = (v.afterWrite ..).saga? _
    rw [World.saga?_afterWrite hrow, World.saga?_afterWrite (h ▸ hrow)]

omit [UuidLib U] in
theorem World.write_other {now : Time} {events : List OutboxRecord}
    (hne : paymentID ≠ s.paymentID) :
    (run.commit w (w.write now s events none)).2.saga? paymentID = w.saga? paymentID := by
  cases hrow : w.saga? s.paymentID with
  | none => simp [World.write, hrow, run.commit]
  | some row =>
    have hwrite := World.write_eq hrow now events none
    rw [hwrite]
    show (w.afterWrite now s events none).saga? paymentID = _
    rw [World.saga?_write hwrite]
    cases hother : w.saga? paymentID with
    | none => rfl
    | some r =>
      rw [Option.map_some, if_neg]
      rw [(World.saga?_some hother).2]
      exact hne

/-- A call on a payment does the same in worlds with the same row of the payment. -/
theorem scripted_same {o : SagaOp} (ho : o.On paymentID) (c : Script U)
    (h : w.saga? paymentID = v.saga? paymentID) :
    (o.scripted c w).1 = (o.scripted c v).1 ∧
      (o.scripted c w).2.saga? paymentID = (o.scripted c v).2.saga? paymentID := by
  cases o with
  | create _ | getByPaymentID _ | listNonTerminal | updateWithAudit _ _
  | updateWithOutboxAndAudit _ _ _ | recordFraudAudit _ => exact ho.elim
  | now | getStatus _ | debitForSaga _ | compensateDebit _ | reserveTransfer _
  | confirmTransfer _ | cancelReservation _ => exact ⟨rfl, h⟩
  | enqueue record =>
    simp only [SagaOp.scripted, exec]
    cases c.choice.fault <;> exact ⟨rfl, h⟩
  | update s | updateWithOutbox s _ =>
    obtain rfl : s.paymentID = paymentID := ho
    simp only [SagaOp.scripted, exec]
    cases c.choice.fault with
    | none => exact World.write_same h
    | notDelivered => exact ⟨rfl, h⟩
    | answerLost => exact ⟨rfl, (World.write_same h).2⟩

/-- A call on a payment leaves the rows of the others alone. -/
theorem scripted_other {o : SagaOp} {other : String} (ho : o.On paymentID) (c : Script U)
    (hne : other ≠ paymentID) : (o.scripted c w).2.saga? other = w.saga? other := by
  cases o with
  | create _ | getByPaymentID _ | listNonTerminal | updateWithAudit _ _
  | updateWithOutboxAndAudit _ _ _ | recordFraudAudit _ => exact ho.elim
  | now | getStatus _ | debitForSaga _ | compensateDebit _ | reserveTransfer _
  | confirmTransfer _ | cancelReservation _ => rfl
  | enqueue record =>
    simp only [SagaOp.scripted, exec]
    cases c.choice.fault <;> rfl
  | update s | updateWithOutbox s _ =>
    obtain rfl : s.paymentID = paymentID := ho
    simp only [SagaOp.scripted, exec]
    cases c.choice.fault with
    | none => exact World.write_other hne
    | notDelivered => rfl
    | answerLost => exact World.write_other hne

theorem scripted_answer (c : Script U) (o : SagaOp) (w : World U) :
    Answer o (o.scripted c w).1 := by
  cases o with
  | getStatus _ | debitForSaga _ | compensateDebit _ | reserveTransfer _ | confirmTransfer _
  | cancelReservation _ => simp only [Answer]
  | _ => exact exec_answer c.choice _ w

/-- `resumeOne` gives the same result and the same row wherever the row is the same. -/
theorem resumeOne_same (a : Nat → Script U) (h : w.saga? s.paymentID = v.saga? s.paymentID) :
    ((resumeOne s).eval (scriptMachine U) a w).1 = ((resumeOne s).eval (scriptMachine U) a v).1 ∧
    ((resumeOne s).eval (scriptMachine U) a w).2.saga? s.paymentID =
      ((resumeOne s).eval (scriptMachine U) a v).2.saga? s.paymentID := by
  have hrelated := (resumeOne_on s).eval_related (M := scriptMachine U)
    (R := fun w v => w.saga? s.paymentID = v.saga? s.paymentID) scripted_answer
  exact hrelated (fun ho => scripted_same ho _) a h

/-- `resumeOne` leaves the rows of other payments alone. -/
theorem resumeOne_other (a : Nat → Script U) (hne : paymentID ≠ s.paymentID) :
    ((resumeOne s).eval (scriptMachine U) a w).2.saga? paymentID = w.saga? paymentID := by
  have hkept := (resumeOne_on s).eval_inv (M := scriptMachine U)
    (I := fun v => v.saga? paymentID = w.saga? paymentID) scripted_answer
  exact hkept (fun ho hv => (scripted_other ho _ hne).trans hv) a rfl

/-! ## Which sagas are resumed without an error -/

/-- A store or outbox call is answered. -/
def Script.stores (c : Script U) : Bool := c.choice.fault = .none

/-- The user is found to be verified. -/
def Script.verifies (c : Script U) : Bool :=
  match c.choice.verification with
  | .ok result => result.status = verificationVerified
  | .error _ => false

/-- The answers that let a saga be resumed without an error, by the state of its row: those of
    the calls `resumeOne` makes in that state, which are counted from 0 and of which the missing
    ones read the clock. -/
def Resumes (a : Nat → Script U) : SagaState → Prop
  | .started => (a 0).verifies ∧ (a 2).stores ∧ (a 3).debit.isOk ∧ (a 5).stores ∧
      (a 6).reservation.isOk ∧ (a 8).stores ∧ (a 10).stores
  | .verificationChecked => (a 0).debit.isOk ∧ (a 2).stores ∧ (a 3).reservation.isOk ∧
      (a 5).stores ∧ (a 7).stores
  | .walletDebited => (a 0).reservation.isOk ∧ (a 2).stores ∧ (a 4).stores
  | .ledgerReserved => (a 1).stores
  | .ledgerConfirmed => (a 2).stores ∧ (a 4).stores
  | .compensatingLedger => (a 0).cancellation.isOk ∧ (a 2).stores ∧ (a 3).compensation.isOk ∧
      (a 5).stores ∧ (a 8).stores
  | .compensatingWallet => (a 0).compensation.isOk ∧ (a 2).stores ∧ (a 5).stores
  | .paymentProcessing | .fraudReview | .completed | .failed => True

instance (a : Nat → Script U) : (state : SagaState) → Decidable (Resumes a state)
  | .started | .verificationChecked | .walletDebited | .ledgerConfirmed | .compensatingLedger
  | .compensatingWallet => inferInstanceAs (Decidable (_ ∧ _))
  | .ledgerReserved => inferInstanceAs (Decidable (_ = true))
  | .paymentProcessing | .fraudReview | .completed | .failed => .isTrue trivial

/-- The program returns without an error. -/
def Passes {α : Type} (p : SagaProg α) (a : Nat → Script U) (w : World U) : Prop :=
  (p.eval (scriptMachine U) a w).1.isOk

section Passes

variable {α : Type} {a : Nat → Script U}

@[simp] theorem passes_done (x : α) : Passes (.done x) a w := rfl

@[simp] theorem not_passes_fail (e : SagaErr) : ¬ Passes (.fail e : SagaProg α) a w :=
  Bool.false_ne_true

theorem passes_look {o : SagaOp} {k : Except SagaErr o.Ret → SagaProg α} :
    Passes (.call o k) a w ↔ Passes (k (o.scripted (a 0) w).1) (fun n => a (n + 1))
      (o.scripted (a 0) w).2 := Iff.rfl

/-- A program goes on with the answer of its first call, if that is not an error. -/
theorem passes_call {o : SagaOp} {f : o.Ret → SagaProg α} :
    Passes (.call o (Prog.onAnswer f)) a w ↔ ∃ x, (o.scripted (a 0) w).1 = .ok x ∧
      Passes (f x) (fun n => a (n + 1)) (o.scripted (a 0) w).2 := by
  rw [passes_look]
  cases (o.scripted (a 0) w).1 with
  | ok x => simp
  | error e => simp

theorem passes_now {f : Time → SagaProg α} : Passes (.call .now (Prog.onAnswer f)) a w ↔
    Passes (f (a 0).choice.clock) (fun n => a (n + 1)) w := Iff.rfl

/-- A write to the stored row, when what comes after it passes with the row it leaves. -/
theorem passes_update {f : Saga → SagaProg α} {p : Prop} (hrow : w.saga? s.paymentID = some row)
    (hrest : ∀ s' v, s'.state = s.state → v.saga? s'.paymentID = some s' →
      (Passes (f s') (fun n => a (n + 1)) v ↔ p)) :
    Passes (.call (.update s) (Prog.onAnswer f)) a w ↔ (a 0).stores ∧ p := by
  have hwrite := World.write_eq hrow (a 0).choice.env.now [] none
  have hleft : (w.afterWrite (a 0).choice.env.now s [] none).saga? row.paymentID = _ :=
    (World.saga?_some hrow).2 ▸ World.saga?_afterWrite hrow ..
  rw [passes_call]
  cases hf : (a 0).choice.fault with
  | none =>
    simpa [SagaOp.scripted, exec, hf, run, World.update, hwrite, run.commit,
      Script.stores] using hrest (row.overwrite s _) _ rfl hleft
  | notDelivered => simp [SagaOp.scripted, exec, hf, Script.stores]
  | answerLost => simp [SagaOp.scripted, exec, hf, Script.stores]

theorem passes_enqueue {record : OutboxRecord} {f : Unit → SagaProg α} :
    Passes (.call (.enqueue record) (Prog.onAnswer f)) a w ↔ (a 0).stores ∧
      Passes (f ()) (fun n => a (n + 1)) (w.enqueue record) := by
  rw [passes_call]
  cases hf : (a 0).choice.fault with
  | none =>
    simp only [SagaOp.scripted, exec, hf, run, Script.stores, decide_true, true_and]
    constructor
    · rintro ⟨_, h⟩
      exact h
    · intro h
      exact ⟨(), h⟩
  | notDelivered => simp [SagaOp.scripted, exec, hf, Script.stores]
  | answerLost => simp [SagaOp.scripted, exec, hf, Script.stores]

/-- A call to another service, when what comes after it does not depend on the answer. -/
theorem passes_service {o : SagaOp} {f : o.Ret → SagaProg α} {p : Prop}
    (hquiet : (o.scripted (a 0) w).2 = w) (hrest : ∀ x, Passes (f x) (fun n => a (n + 1)) w ↔ p) :
    Passes (.call o (Prog.onAnswer f)) a w ↔ (o.scripted (a 0) w).1.isOk ∧ p := by
  rw [passes_call, hquiet]
  cases (o.scripted (a 0) w).1 with
  | ok x => simp [hrest, Except.isOk, Except.toBool]
  | error e => simp [Except.isOk, Except.toBool]

/-! The stages, from the last one to the first. -/

theorem passes_updateWithOutbox {events : List OutboxRecord}
    (hrow : w.saga? s.paymentID = some row) :
    Passes (updateWithOutbox s events) a w ↔ (a 0).stores := by
  have hwrite := World.write_eq hrow (a 0).choice.env.now events none
  show Passes (Prog.perform _) _ _ ↔ _
  rw [Prog.perform_eq, passes_call]
  cases hf : (a 0).choice.fault with
  | none =>
    simp [SagaOp.scripted, exec, hf, run, World.updateWithOutbox, hwrite,
      run.commit, Script.stores]
  | notDelivered => simp [SagaOp.scripted, exec, hf, Script.stores]
  | answerLost => simp [SagaOp.scripted, exec, hf, Script.stores]

theorem executePayment_passes (hs : s.state = .ledgerReserved)
    (hrow : w.saga? s.paymentID = some row) : Passes (executePayment s) a w ↔ (a 1).stores := by
  rw [executePayment, if_pos hs, Prog.perform_bind, passes_now]
  exact passes_updateWithOutbox hrow

theorem reserveLedger_passes (hs : s.state = .walletDebited)
    (hrow : w.saga? s.paymentID = some row) :
    Passes (reserveLedger s >>= executePayment) a w ↔
      (a 0).reservation.isOk ∧ (a 2).stores ∧ (a 4).stores := by
  simp only [reserveLedger, if_pos hs, Prog.perform_bind, Prog.call_onAnswer_bind]
  refine passes_service rfl fun x => passes_now.trans ?_
  exact passes_update hrow fun s' v hs' hv => executePayment_passes hs' hv

theorem debitWallet_passes (hs : s.state = .verificationChecked)
    (hrow : w.saga? s.paymentID = some row) :
    Passes (debitWallet s >>= fun s => reserveLedger s >>= executePayment) a w ↔
      (a 0).debit.isOk ∧ (a 2).stores ∧ (a 3).reservation.isOk ∧ (a 5).stores ∧ (a 7).stores := by
  simp only [debitWallet, if_pos hs, Prog.perform_bind, Prog.call_onAnswer_bind]
  refine passes_service rfl fun x => passes_now.trans ?_
  exact passes_update hrow fun s' v hs' hv => reserveLedger_passes hs' hv

theorem not_passes_failUnverified {f : Saga → SagaProg α} :
    ¬ Passes (failUnverified s >>= f) a w := by
  simp only [failUnverified, Prog.perform_bind, Prog.call_onAnswer_bind, Prog.fail_bind]
  intro h
  obtain ⟨t, -, h⟩ := passes_call.mp h
  obtain ⟨s', -, h⟩ := passes_call.mp h
  exact not_passes_fail _ h

theorem checkVerification_passes (hs : s.state = .started)
    (hrow : w.saga? s.paymentID = some row) :
    Passes (checkVerification s >>= fun s => debitWallet s >>= fun s =>
        reserveLedger s >>= executePayment) a w ↔
      (a 0).verifies ∧ (a 2).stores ∧ (a 3).debit.isOk ∧ (a 5).stores ∧
        (a 6).reservation.isOk ∧ (a 8).stores ∧ (a 10).stores := by
  simp only [checkVerification, if_pos hs, Prog.attempt_perform_bind, Prog.call_bind]
  rw [passes_look]
  simp only [SagaOp.scripted, Script.verifies]
  cases hv : (a 0).choice.verification with
  | error e =>
    simp only [Bool.false_eq_true, false_and, iff_false]
    cases e with
    | verificationNotFound => exact not_passes_failUnverified
    | _ => exact not_passes_fail _
  | ok result =>
    by_cases hverified : result.status = verificationVerified
    · simp only [hverified, ne_eq, not_true_eq_false, ↓reduceIte, decide_true, true_and,
        Prog.perform_bind, Prog.call_onAnswer_bind]
      refine passes_now.trans ?_
      exact passes_update hrow fun s' v hs' hv => debitWallet_passes hs' hv
    · simp only [hverified, ne_eq, not_false_eq_true, ↓reduceIte, decide_false,
        Bool.false_eq_true, false_and, iff_false]
      exact not_passes_failUnverified

/-- A stage does nothing with a row in another state. -/
theorem checkVerification_skip (hs : s.state ≠ .started) : checkVerification s = .done s :=
  if_neg hs

theorem debitWallet_skip (hs : s.state ≠ .verificationChecked) : debitWallet s = .done s :=
  if_neg hs

theorem reserveLedger_skip (hs : s.state ≠ .walletDebited) : reserveLedger s = .done s :=
  if_neg hs

theorem executePayment_skip (hs : s.state ≠ .ledgerReserved) : executePayment s = .done s :=
  if_neg hs

theorem compensateWallet_passes (hrow : w.saga? s.paymentID = some row) :
    Passes (compensateWallet s) a w ↔
      (a 0).compensation.isOk ∧ (a 2).stores ∧ (a 5).stores := by
  simp only [compensateWallet, publishTxFailed, Prog.perform_bind]
  refine passes_service rfl fun x => passes_now.trans ?_
  refine passes_update hrow fun s' v _ _ => passes_now.trans (passes_now.trans ?_)
  show Passes (Prog.perform _) _ _ ↔ _
  rw [Prog.perform_eq, passes_enqueue]
  exact and_iff_left (passes_done ())

theorem passes_discard {p : SagaProg α} :
    Passes (p >>= fun _ => pure ()) a w ↔ Passes p a w := by
  induction p generalizing a w with
  | done x => exact iff_of_true (passes_done ()) (passes_done x)
  | fail e => exact iff_of_false (not_passes_fail e) (not_passes_fail e)
  | call o k ih => exact ih _

/-- Whether `resumeOne` returns without an error is decided by the answers of its calls. -/
theorem resumeOne_passes (hrow : w.saga? s.paymentID = some row) :
    Passes (resumeOne s) a w ↔ Resumes a s.state := by
  unfold resumeOne
  cases hs : s.state with
  | ledgerConfirmed =>
    simp only [publishTxCompleted, Prog.perform_bind, Prog.call_onAnswer_bind]
    refine passes_now.trans (passes_now.trans (passes_enqueue.trans ?_))
    refine and_congr_right fun _ => passes_now.trans ?_
    rw [← and_true ((a 4).stores = true)]
    exact passes_update hrow fun s' v _ _ => iff_true_intro (passes_done ())
  | compensatingLedger =>
    simp only [resumeCompensation, ↓reduceIte, Prog.perform_bind]
    refine passes_service rfl fun _ => passes_now.trans ?_
    exact passes_update hrow fun s' v _ hv => compensateWallet_passes hv
  | compensatingWallet => exact compensateWallet_passes hrow
  | paymentProcessing => exact iff_of_true (passes_done ()) trivial
  | started => exact passes_discard.trans (checkVerification_passes hs hrow)
  | verificationChecked =>
    rw [passes_discard, advance, checkVerification_skip (by simp [hs])]
    exact debitWallet_passes hs hrow
  | walletDebited =>
    rw [passes_discard, advance, checkVerification_skip (by simp [hs]), Prog.done_bind,
      debitWallet_skip (by simp [hs])]
    exact reserveLedger_passes hs hrow
  | ledgerReserved =>
    rw [passes_discard, advance, checkVerification_skip (by simp [hs]), Prog.done_bind,
      debitWallet_skip (by simp [hs]), Prog.done_bind, reserveLedger_skip (by simp [hs])]
    exact executePayment_passes hs hrow
  | fraudReview | completed | failed =>
    rw [passes_discard, advance, checkVerification_skip (by simp [hs]), Prog.done_bind,
      debitWallet_skip (by simp [hs]), Prog.done_bind, reserveLedger_skip (by simp [hs]),
      Prog.done_bind, executePayment_skip (by simp [hs])]
    exact iff_of_true (passes_done s) trivial

end Passes

/-! ## The loop -/

variable {A : Assignment U} {sagas : List Saga}

/-- The loop goes on after a saga that is resumed without an error. -/
theorem resumeEach_cons_ok {v : World U}
    (h : (resumeOne s).eval (scriptMachine U) (A.calls s.paymentID) w = (.ok (), v)) :
    (resumeEach (s :: sagas)).eval (scriptMachine U) (A.loop (s :: sagas) w) w =
      (resumeEach sagas).eval (scriptMachine U) (A.loop sagas v) v := by
  have hloop := Prog.eval_bind_splice_ok h (fun _ => resumeEach sagas) (A.loop sagas v)
  rw [Assignment.loop, h]
  exact hloop

/-- The loop ends with the first error. -/
theorem resumeEach_cons_error {v : World U} {e : SagaErr}
    (h : (resumeOne s).eval (scriptMachine U) (A.calls s.paymentID) w = (.error e, v)) :
    (resumeEach (s :: sagas)).eval (scriptMachine U) (A.loop (s :: sagas) w) w = (.error e, v) := by
  have hloop := Prog.eval_bind_splice_error h (fun _ => resumeEach sagas) (A.loop sagas v)
  rw [Assignment.loop, h]
  exact hloop

/-- The rows are stored, each for a payment of its own. -/
structure Listed (sagas : List Saga) (w : World U) : Prop where
  stored : ∀ s ∈ sagas, w.saga? s.paymentID = some s
  distinct : (sagas.map (·.paymentID)).Nodup

omit [UuidLib U] in
theorem Listed.ne (h : Listed (s :: sagas) w) {r : Saga} (hr : r ∈ sagas) :
    r.paymentID ≠ s.paymentID := fun he =>
  (List.nodup_cons.mp h.distinct).1 (List.mem_map.mpr ⟨r, hr, he⟩)

/-- Once a saga is resumed, the others are as they were listed. -/
theorem Listed.tail (h : Listed (s :: sagas) w) (a : Nat → Script U) :
    Listed sagas ((resumeOne s).eval (scriptMachine U) a w).2 where
  stored r hr := by
    rw [resumeOne_other a (h.ne hr)]
    exact h.stored r (List.mem_cons_of_mem s hr)
  distinct := (List.nodup_cons.mp h.distinct).2

/-- A saga that is not in the list is left as it is. -/
theorem resumeEach_other (hnew : ∀ s ∈ sagas, paymentID ≠ s.paymentID) :
    ((resumeEach sagas).eval (scriptMachine U) (A.loop sagas w) w).2.saga? paymentID =
      w.saga? paymentID := by
  induction sagas generalizing w with
  | nil => rfl
  | cons s sagas ih =>
    obtain ⟨hs, hsagas⟩ := List.forall_mem_cons.mp hnew
    have hother := resumeOne_other (w := w) (A.calls s.paymentID) hs
    cases h : (resumeOne s).eval (scriptMachine U) (A.calls s.paymentID) w with
    | mk r v =>
      rw [h] at hother
      cases r with
      | ok u => rw [resumeEach_cons_ok h, ih hsagas, hother]
      | error e => rw [resumeEach_cons_error h, hother]

/-- The loop over sagas that are all resumed without an error returns, and no other does. -/
theorem reaches_iff (h : Listed sagas w) :
    A.Reaches sagas w ↔ ∀ s ∈ sagas, Resumes (A.calls s.paymentID) s.state := by
  induction sagas generalizing w with
  | nil => exact iff_of_true rfl (List.forall_mem_nil _)
  | cons s sagas ih =>
    have hpasses := resumeOne_passes (a := A.calls s.paymentID) (h.stored s List.mem_cons_self)
    have htail := h.tail (A.calls s.paymentID)
    rw [List.forall_mem_cons, ← hpasses, Assignment.Reaches]
    cases hrun : (resumeOne s).eval (scriptMachine U) (A.calls s.paymentID) w with
    | mk r v =>
      rw [hrun] at htail
      cases r with
      | ok u =>
        rw [resumeEach_cons_ok hrun, ← ih htail]
        simp [Passes, hrun, Except.isOk, Except.toBool, Assignment.Reaches]
      | error e =>
        rw [resumeEach_cons_error hrun]
        simp [Passes, hrun, Except.isOk, Except.toBool]

/-- The row `resumeOne` leaves in a world in which the saga is stored. -/
theorem resumeEach_single (s : Saga) (w : World U) :
    ((resumeEach [s]).eval (scriptMachine U) (A.loop [s] w) w).2 =
      ((resumeOne s).eval (scriptMachine U) (A.calls s.paymentID) w).2 := by
  cases h : (resumeOne s).eval (scriptMachine U) (A.calls s.paymentID) w with
  | mk r v =>
    cases r with
    | ok u => exact congrArg Prod.snd (resumeEach_cons_ok h)
    | error e => exact congrArg Prod.snd (resumeEach_cons_error h)

/-- If the loop comes to its last saga, every saga ends with the row it has when it is resumed
    in any other world in which it is stored. -/
theorem resumeEach_row (h : Listed sagas w) (hreaches : A.Reaches sagas.dropLast w) {v : World U}
    (hs : s ∈ sagas) (hv : v.saga? s.paymentID = some s) :
    ((resumeEach sagas).eval (scriptMachine U) (A.loop sagas w) w).2.saga? s.paymentID =
      ((resumeEach [s]).eval (scriptMachine U) (A.loop [s] v) v).2.saga? s.paymentID := by
  rw [resumeEach_single]
  induction sagas generalizing w with
  | nil => cases hs
  | cons r sagas ih =>
    have hsame : ∀ {u : World U}, u.saga? s.paymentID = some s →
        ((resumeOne s).eval (scriptMachine U) (A.calls s.paymentID) u).2.saga? s.paymentID =
          ((resumeOne s).eval (scriptMachine U) (A.calls s.paymentID) v).2.saga? s.paymentID :=
      fun hu => (resumeOne_same _ (hu.trans hv.symm)).2
    cases sagas with
    | nil =>
      obtain rfl := List.mem_singleton.mp hs
      rw [resumeEach_single]
      exact hsame (h.stored s hs)
    | cons r' sagas =>
      have htail := h.tail (A.calls r.paymentID)
      rw [List.dropLast_cons_cons, Assignment.Reaches] at hreaches
      cases hrun : (resumeOne r).eval (scriptMachine U) (A.calls r.paymentID) w with
      | mk res u =>
        rw [hrun] at htail
        cases res with
        | error e =>
          rw [resumeEach_cons_error hrun] at hreaches
          cases hreaches
        | ok _ =>
          rw [resumeEach_cons_ok hrun] at hreaches ⊢
          rcases List.mem_cons.mp hs with rfl | hs
          · -- the sagas after it do not touch its row again
            rw [resumeEach_other fun q hq => (h.ne hq).symm, ← hsame (h.stored s hs), hrun]
          · exact ih htail hreaches hs

/-! ## The restart -/

/-- `ResumeNonTerminal` is the loop over the listed rows. -/
theorem Assignment.resume_eq (A : Assignment U) (w : World U) :
    A.resume w = (resumeEach w.listNonTerminal).eval (scriptMachine U)
      (A.loop w.listNonTerminal w) w := by
  have hlist : SagaOp.listNonTerminal.scripted A.listing w = (.ok w.listNonTerminal, w) := by
    simp only [SagaOp.scripted, exec, A.listed, run]
  rw [Assignment.resume, resumeNonTerminal, Prog.perform_bind, Prog.eval, splice_succ, splice_zero]
  show (Prog.onAnswer resumeEach (SagaOp.listNonTerminal.scripted A.listing w).1).eval _ _
    (SagaOp.listNonTerminal.scripted A.listing w).2 = _
  rw [hlist]
  rfl

/-- The store with one saga only. -/
def World.only (w : World U) (s : Saga) : World U := { w with sagas := [s] }

omit [UuidLib U] in
theorem World.only_saga? (w : World U) (s : Saga) : (w.only s).saga? s.paymentID = some s := by
  simp [World.only, World.saga?]

omit [UuidLib U] in
theorem World.only_listNonTerminal (w : World U) (hs : s.state.terminal = false) :
    (w.only s).listNonTerminal = [s] := by
  simp [World.only, World.listNonTerminal, hs]

omit [UuidLib U] in
theorem Listed.listNonTerminal (hk : w.Keyed) : Listed w.listNonTerminal w :=
  ⟨fun _ hs => hk.saga?_of_mem (World.mem_listNonTerminal.mp hs).1,
    World.listNonTerminal_nodup hk.sagas⟩

/-- A restart resumes every listed saga, and each of them ends with the row it has when it is
    the only one in the store, exactly if every listed saga but the last one is resumed without
    an error. Each saga gets the same answers in both runs. -/
theorem each_resumed_as_alone (hk : w.Keyed) (A : Assignment U) :
    ((∀ before s rest, w.listNonTerminal = before ++ s :: rest → A.Reaches before w) ∧
      ∀ s ∈ w.listNonTerminal, (A.resume w).2.saga? s.paymentID =
        (A.resume (w.only s)).2.saga? s.paymentID) ↔
    ∀ s ∈ w.listNonTerminal.dropLast, Resumes (A.calls s.paymentID) s.state := by
  have hlisted : Listed w.listNonTerminal w := .listNonTerminal hk
  have hsub : ∀ before rest, w.listNonTerminal = before ++ rest → Listed before w := by
    intro before rest h
    rw [h] at hlisted
    refine ⟨fun s hs => hlisted.stored s (List.mem_append_left _ hs), ?_⟩
    exact (List.nodup_append.mp (List.map_append ▸ hlisted.distinct)).1
  constructor
  · rintro ⟨hreaches, -⟩
    rcases List.eq_nil_or_concat w.listNonTerminal with hnil | ⟨before, s, h⟩
    · simp [hnil]
    · rw [List.concat_eq_append] at h
      rw [h, List.dropLast_concat, ← reaches_iff (hsub _ _ h)]
      exact hreaches before s [] h
  · intro hresumes
    refine ⟨fun before s rest h => ?_, fun s hs => ?_⟩
    · rw [reaches_iff (hsub _ _ h)]
      refine fun r hr => hresumes r ?_
      rw [h, List.dropLast_append_of_ne_nil (List.cons_ne_nil s rest)]
      exact List.mem_append_left _ hr
    · have hlast := List.dropLast_append_getLast (List.ne_nil_of_mem hs)
      rw [A.resume_eq w, A.resume_eq (w.only s),
        World.only_listNonTerminal w (World.mem_listNonTerminal.mp hs).2]
      exact resumeEach_row hlisted ((reaches_iff (hsub _ _ hlast.symm)).mpr hresumes) hs
        (World.only_saga? w s)

namespace Sample

/-- Two sagas: one that has to be verified yet, and a later one whose transfer is reserved. -/
def waiting : World CanonicalUuid :=
  { world with
    sagas := [{ startedSaga startRequest 1000 with id := "saga-1" },
      { startedSaga { startRequest with paymentID := text (id 6), idempotencyKey := "key-2" } 2000
          with id := "saga-2", state := .ledgerReserved }] }

/-- Answers with nothing wrong. -/
def script (n : Nat) : Script CanonicalUuid :=
  { choice := choice n, debit := .ok ⟨text (id 7)⟩, compensation := .ok (),
    reservation := .ok ⟨text (id 8)⟩, confirmation := .ok ⟨text (id 9), 2000⟩,
    cancellation := .ok () }

/-- What a call to a service that cannot be reached reports. -/
def down : SagaErr := .rpc ⟨.unavailable, "connection refused"⟩

/-- The verification service answers the first saga by `verification`. -/
def answers (verification : Except SagaErr VerificationResult) : Assignment CanonicalUuid :=
  { listing := script 0
    calls := fun payment n => { script (n + 1) with
      choice := { choice (n + 1) with
        verification := if payment = text Sample.paymentID then verification
          else .ok ⟨verificationVerified⟩ } }
    listed := rfl }

end Sample

/-- Both sagas are resumed when the user of the first is verified. -/
theorem each_resumed_as_alone_verified :
    Sample.waiting.Keyed ∧ Sample.waiting.listNonTerminal.length = 2 ∧
      ∀ s ∈ Sample.waiting.listNonTerminal,
        ((Sample.answers (.ok ⟨verificationVerified⟩)).resume Sample.waiting).2.saga? s.paymentID =
          ((Sample.answers (.ok ⟨verificationVerified⟩)).resume
            (Sample.waiting.only s)).2.saga? s.paymentID := by
  have hkeyed : Sample.waiting.Keyed := ⟨Sample.world_keyed.db, by decide +kernel⟩
  refine ⟨hkeyed, by decide +kernel, ?_⟩
  refine ((each_resumed_as_alone hkeyed (Sample.answers (.ok ⟨verificationVerified⟩))).mpr ?_).2
  decide +kernel

/-- The verification service is down for the first saga: the restart ends there, and the second
    one, which needs no other service, stays in LEDGER_RESERVED instead of going on to
    PAYMENT_PROCESSING. -/
theorem first_error_blocks_the_rest :
    ((Sample.answers (.error Sample.down)).resume Sample.waiting).1 = .error Sample.down ∧
    (((Sample.answers (.error Sample.down)).resume Sample.waiting).2.saga?
      (text (Sample.id 6))).map (·.state) = some .ledgerReserved ∧
    ∃ s ∈ Sample.waiting.listNonTerminal, s.paymentID = text (Sample.id 6) ∧
      (((Sample.answers (.error Sample.down)).resume (Sample.waiting.only s)).2.saga?
        (text (Sample.id 6))).map (·.state) = some .paymentProcessing := by
  decide +kernel

end EnjoyThings
