import EnjoyThings.Spec.SagaCalls
import EnjoyThings.Spec.SagaReview

/-!
# One decision per hold

`ResumeFraudReview` and `RejectFraudReview` read the row, see that it is in
FRAUD_REVIEW, and write their decision in a transaction of its own that does not look
at the state again. Two of them that both read before either writes both succeed
(`two_decisions_on_a_hold`). If a decision is only written while the row is still under
review, there is at most one per hold, and a caller that writes none is told
ErrNotUnderReview (`one_decision_per_hold`).
-/

namespace EnjoyThings

open Effect Orchestrator

variable {U : Type} [UuidLib U] {w w' : World U} {s row : Saga} {c : Choice U}
  {paymentID : String}

/-- The record of a decision on the payment that a call writes, if it takes effect. -/
def SagaOp.decisionOn (paymentID : String) (c : Choice U) (w : World U) :
    SagaOp → Option FraudAuditRecord
  | .updateWithAudit s a =>
    if a.kind.decides = true ∧ s.paymentID = paymentID ∧ (w.saga? paymentID).isSome = true ∧
      c.fault ≠ .notDelivered then some a else none
  | _ => none

/-- The record of a decision on the payment that an act writes. -/
def decisionBy (paymentID : String) (P : Pool SagaOp SagaOp.Ret SagaErr (World U) Seen) :
    Act SagaRequest (Choice U) → Option FraudAuditRecord
  | .step i c =>
    match P.threads[i]? with
    | some (_, .call o _) => o.decisionOn paymentID c P.world
    | _ => none
  | _ => none

/-- The decisions on the payment written since it last came under review, after those in
    `written`. -/
def decisionsSince (paymentID : String) (P : Pool SagaOp SagaOp.Ret SagaErr (World U) Seen)
    (written : List FraudAuditRecord) :
    List (Act SagaRequest (Choice U)) → List FraudAuditRecord
  | [] => written
  | a :: acts =>
    decisionsSince paymentID (P.act (sagaMachine U) SagaRequest.handler [] a)
      (if Enters paymentID P.world (P.act (sagaMachine U) SagaRequest.handler [] a).world then []
        else written ++ (decisionBy paymentID P a).toList) acts

/-- The decisions on the payment's current hold at the end of a run. -/
def decisionsOnHold (paymentID : String) (w : World U) (acts : List (Act SagaRequest (Choice U))) :
    List FraudAuditRecord :=
  decisionsSince paymentID (Pool.idle w) [] acts

/-! ## Decisions on rows under review -/

/-- A decision is written while the row is under review. -/
def TimelyDecision (w : World U) : SagaOp → Prop
  | .updateWithAudit s a => a.kind.decides = true → w.Held s.paymentID
  | _ => True

instance (w : World U) : (o : SagaOp) → Decidable (TimelyDecision w o)
  | .updateWithAudit _ _ => inferInstanceAs (Decidable (_ → _))
  | .now | .create _ | .getByPaymentID _ | .listNonTerminal | .update _ | .updateWithOutbox _ _
  | .updateWithOutboxAndAudit _ _ _ | .recordFraudAudit _ | .getStatus _ | .debitForSaga _
  | .compensateDebit _ | .reserveTransfer _ | .confirmTransfer _ | .cancelReservation _
  | .enqueue _ => .isTrue trivial

/-- What decisions ask of a run. -/
def decisionContract (U : Type) [UuidLib U] : Contract (sagaMachine U) :=
  .undisturbed (fun _ o w _ => TimelyDecision w o) (fun _ => True) (fun _ _ => True)

/-- Every decision of the run is written while the row is under review. -/
def TimelyDecisions (w : World U) (acts : List (Act SagaRequest (Choice U))) : Prop :=
  (Pool.idle w).Obeys (decisionContract U) SagaRequest.handler [] (fun _ => True) acts

instance (w : World U) (acts : List (Act SagaRequest (Choice U))) :
    Decidable (TimelyDecisions w acts) :=
  have : ∀ seen o w c, Decidable ((decisionContract U).allow seen o w c) :=
    fun _ o w _ => inferInstanceAs (Decidable (TimelyDecision w o))
  inferInstanceAs (Decidable ((Pool.idle w).Obeys _ _ _ _ acts))

variable {o : SagaOp}

/-- A decision takes the row out of review. -/
theorem SagaOp.decisionOn_leaves (hout : o.DecidesOut)
    (h : (o.decisionOn paymentID c w).isSome = true) : ¬ (o.exec c w).2.Held paymentID := by
  cases o with
  | updateWithAudit s a =>
    by_cases hd : a.kind.decides = true ∧ s.paymentID = paymentID ∧
        (w.saga? paymentID).isSome = true ∧ c.fault ≠ .notDelivered
    · obtain ⟨hkind, rfl, hrow, hfault⟩ := hd
      obtain ⟨row, hrow⟩ := Option.isSome_iff_exists.mp hrow
      have hworld : ((SagaOp.updateWithAudit s a).exec c w).2 =
          w.afterWrite c.env.now s [] (some a) :=
        (exec_delivered hfault).trans (run_updateWithAudit hrow)
      rw [hworld, World.Held, World.saga?_afterWrite hrow]
      intro hheld
      exact hout hkind (Option.some.inj hheld)
    · rw [SagaOp.decisionOn, if_neg hd] at h
      cases h
  | _ => cases h

omit [UuidLib U] in
/-- A decision is written on a row that was under review. -/
theorem SagaOp.decisionOn_held (htimely : TimelyDecision w o)
    (h : (o.decisionOn paymentID c w).isSome = true) : w.Held paymentID := by
  cases o with
  | updateWithAudit s a =>
    by_cases hd : a.kind.decides = true ∧ s.paymentID = paymentID ∧
        (w.saga? paymentID).isSome = true ∧ c.fault ≠ .notDelivered
    · obtain ⟨hkind, rfl, -⟩ := hd
      exact htimely hkind
    · rw [SagaOp.decisionOn, if_neg hd] at h
      cases h
  | _ => cases h

variable {P : Pool SagaOp SagaOp.Ret SagaErr (World U) Seen}

/-- An act that writes a decision finds the payment under review and leaves it out of review. -/
theorem decisionBy_held (hthreads : ∀ t ∈ P.threads, t.2.Only SagaOp.DecidesOut)
    {a : Act SagaRequest (Choice U)} (ha : P.Permits (decisionContract U) (fun _ => True) a)
    (h : (decisionBy paymentID P a).isSome = true) :
    P.world.Held paymentID ∧
      ¬ (P.act (sagaMachine U) SagaRequest.handler [] a).world.Held paymentID := by
  cases a with
  | start q => cases h
  | crash i => cases h
  | step i c =>
    simp only [decisionBy] at h
    split at h
    · rename_i g o k hi
      have hallow : (decisionContract U).AllowsNext P.world c P.threads[i]? := ha
      rw [hi] at hallow
      rw [Pool.act_step hi]
      exact ⟨SagaOp.decisionOn_held hallow h,
        SagaOp.decisionOn_leaves (hthreads _ (List.mem_of_getElem? hi)).1 h⟩
    · cases h

variable {acts : List (Act SagaRequest (Choice U))}

/-- Decisions on rows under review: at most one per hold, and none while the row is still held. -/
theorem decisionsSince_le (hthreads : ∀ t ∈ P.threads, t.2.Only SagaOp.DecidesOut)
    (hacts : P.Obeys (decisionContract U) SagaRequest.handler [] (fun _ => True) acts)
    {written : List FraudAuditRecord} (hone : written.length ≤ 1)
    (hheld : P.world.Held paymentID → written = []) :
    (decisionsSince paymentID P written acts).length ≤ 1 := by
  induction acts generalizing P written with
  | nil => exact hone
  | cons a acts ih =>
    obtain ⟨ha, hacts⟩ := hacts
    rw [decisionsSince]
    apply ih (Pool.act_only handler_decidesOut hthreads a) hacts
    · split
      · exact Nat.zero_le 1
      · cases hd : decisionBy paymentID P a with
        | none => simpa using hone
        | some record =>
          have hwas := (decisionBy_held hthreads ha (by rw [hd]; rfl)).1
          simp [hheld hwas]
    · intro hnow
      split
      · rfl
      · rename_i hentry
        -- still under review: no decision was written, before or now
        have hwas : P.world.Held paymentID := by
          by_contra hnot
          exact hentry ⟨hnot, hnow⟩
        cases hd : decisionBy paymentID P a with
        | none => simpa using hheld hwas
        | some record =>
          exact absurd hnow (decisionBy_held hthreads ha (by rw [hd]; rfl)).2

/-! ## What a caller is told -/

/-- A caller that is about to call for a decision, and what it does with the answer. -/
inductive Calls (decision : FraudReviewDecision) :
    SagaProg Unit → (Except SagaErr Saga → SagaProg Unit) → Prop
  | resume (k : Except SagaErr Saga → SagaProg Unit) :
    Calls decision ((resumeFraudReview decision).attempt >>= k) k
  | reject (k : Except SagaErr Saga → SagaProg Unit) :
    Calls decision ((rejectFraudReview decision).attempt >>= k) k

/-- A program that, called for a decision on the payment, still has at most `n` steps to make
    before it has written its decision or goes on with `p₀`. -/
inductive Pending (paymentID : String) (p₀ : SagaProg Unit) : Nat → SagaProg Unit → Prop
  | refused (n : Nat) : Pending paymentID p₀ n p₀
  | read {n : Nat} {k : Except SagaErr Saga → SagaProg Unit}
      (h : ∀ s, s.paymentID = paymentID → Pending paymentID p₀ n (k (.ok s))) :
    Pending paymentID p₀ (n + 1) (.call (.getByPaymentID paymentID) k)
  | clock {n : Nat} {k : Except SagaErr Time → SagaProg Unit}
      (h : ∀ t, Pending paymentID p₀ n (k (.ok t))) : Pending paymentID p₀ (n + 1) (.call .now k)
  | write {n : Nat} {s : Saga} {a : FraudAuditRecord} {k : Except SagaErr Saga → SagaProg Unit}
      (hs : s.paymentID = paymentID) (ha : a.kind.decides = true) :
    Pending paymentID p₀ (n + 1) (.call (.updateWithAudit s a) k)

theorem Calls.pending {decision : FraudReviewDecision} {p : SagaProg Unit}
    {k : Except SagaErr Saga → SagaProg Unit} (h : Calls decision p k) :
    Pending decision.paymentID (k (.error .notUnderReview)) 3 p := by
  cases h with
  | resume =>
    refine .read fun s hs => ?_
    show Pending _ _ _ (Prog.attempt (if s.state ≠ .fraudReview then _ else _) >>= k)
    split
    · exact .refused _
    · exact .clock fun t => .write hs rfl
  | reject =>
    refine .read fun s hs => ?_
    show Pending _ _ _ (Prog.attempt (if s.state ≠ .fraudReview then _ else _) >>= k)
    split
    · exact .refused _
    · exact .clock fun t => .write hs rfl

/-- Rows stay. -/
theorem exec_isSome (o : SagaOp) (h : (w.saga? paymentID).isSome = true) :
    ((o.exec c w).2.saga? paymentID).isSome = true := by
  obtain ⟨row, hrow⟩ := Option.isSome_iff_exists.mp h
  refine exec_world h fun a w' hrun => ?_
  rcases run_row hrun hrow with hsame | ⟨s, -, -, hwritten⟩
  · rw [hsame]
    rfl
  · rw [hwritten]
    rfl

theorem act_isSome (a : Act SagaRequest (Choice U)) (h : (P.world.saga? paymentID).isSome = true) :
    ((P.act (sagaMachine U) SagaRequest.handler [] a).world.saga? paymentID).isSome = true := by
  cases a with
  | start q => exact h
  | crash i => exact h
  | step i c =>
    simp only [Pool.act]
    split
    · exact exec_isSome _ h
    · exact h

variable {p₀ : SagaProg Unit}

/-- One step of a caller on the way to its decision: it writes the decision, or is one step
    further. -/
theorem Pending.step {n : Nat} {k : Except SagaErr o.Ret → SagaProg Unit}
    (h : Pending paymentID p₀ (n + 1) (.call o k)) (hne : p₀ ≠ .call o k)
    (hrow : (w.saga? paymentID).isSome = true) (hfault : c.fault = .none) :
    (o.decisionOn paymentID c w).isSome = true ∨ Pending paymentID p₀ n (k (o.exec c w).1) := by
  obtain ⟨row, hsome⟩ := Option.isSome_iff_exists.mp hrow
  cases h with
  | refused => exact absurd rfl hne
  | read h =>
    right
    have hget : ((SagaOp.getByPaymentID paymentID).exec c w).1 = .ok row := by
      rw [exec_none hfault]
      exact World.getByPaymentID_eq_ok.mpr hsome
    rw [hget]
    exact h row (World.saga?_some hsome).2
  | clock h =>
    right
    rw [exec_none hfault]
    exact h _
  | write hs ha =>
    left
    rw [SagaOp.decisionOn, if_pos ⟨ha, hs, hrow, by rw [hfault]; decide⟩]
    rfl

/-- In a run, the thread `i` writes a decision on the payment, or it comes to go on with `p₀`. -/
def DecidesOr (paymentID : String) (p₀ : SagaProg Unit) (i : Nat)
    (P : Pool SagaOp SagaOp.Ret SagaErr (World U) Seen)
    (acts : List (Act SagaRequest (Choice U))) : Prop :=
  (∃ mid c rest, acts = mid ++ .step i c :: rest ∧
    (decisionBy paymentID (P.run (sagaMachine U) SagaRequest.handler [] mid)
      (.step i c)).isSome = true) ∨
  ∃ mid rest, acts = mid ++ rest ∧
    ((P.run (sagaMachine U) SagaRequest.handler [] mid).threads[i]?).map (·.2) = some p₀

theorem DecidesOr.cons {i : Nat} {a : Act SagaRequest (Choice U)}
    (h : DecidesOr paymentID p₀ i (P.act (sagaMachine U) SagaRequest.handler [] a) acts) :
    DecidesOr paymentID p₀ i P (a :: acts) := by
  rcases h with ⟨mid, c, rest, rfl, h⟩ | ⟨mid, rest, rfl, h⟩
  · exact .inl ⟨a :: mid, c, rest, rfl, h⟩
  · exact .inr ⟨a :: mid, rest, rfl, h⟩

/-- A caller that goes on writes its decision, or goes on as one that is refused. -/
theorem Pending.run {p : SagaProg Unit} {n i : Nat} {seen : Seen}
    (hi : P.threads[i]? = some (seen, p)) (hp : Pending paymentID p₀ n p)
    (hrow : (P.world.saga? paymentID).isSome = true) (hcrash : ∀ j, .crash j ∉ acts)
    (hfault : ∀ c, .step i c ∈ acts → c.fault = .none) (hsteps : n ≤ acts.countP (Act.isStepOf i)) :
    DecidesOr paymentID p₀ i P acts := by
  induction acts generalizing P n seen p with
  | nil =>
    obtain rfl : n = 0 := Nat.le_zero.mp hsteps
    cases hp with
    | refused => exact .inr ⟨[], [], rfl, by simp [hi]⟩
  | cons a acts ih =>
    by_cases hdone : p₀ = p
    · exact .inr ⟨[], a :: acts, rfl, by simp [hi, hdone]⟩
    have hcrash' : ∀ j, .crash j ∉ acts := fun j hj => hcrash j (List.mem_cons_of_mem a hj)
    have hfault' : ∀ c, .step i c ∈ acts → c.fault = .none := fun c hc =>
      hfault c (List.mem_cons_of_mem a hc)
    have hrow' := act_isSome a hrow
    by_cases hown : ∃ c, a = .step i c
    · obtain ⟨c, rfl⟩ := hown
      -- a program that is not `p₀` yet is about to make a call
      obtain ⟨m, o, k, rfl, rfl⟩ : ∃ m o k, n = m + 1 ∧ p = .call o k := by
        cases hp with
        | refused => exact absurd rfl hdone
        | read | clock | write => exact ⟨_, _, _, rfl, rfl⟩
      rcases hp.step hdone hrow (hfault c List.mem_cons_self) with hdecided | hnext
      · refine .inl ⟨[], c, acts, rfl, ?_⟩
        rw [Pool.run_nil, decisionBy, hi]
        exact hdecided
      · refine (ih (Pool.act_step_self hi c) hnext hrow' hcrash' hfault' ?_).cons
        simpa [List.countP_cons, Act.isStepOf] using hsteps
    · have hother : ∀ c, a ≠ .step i c := fun c hc => hown ⟨c, hc⟩
      have hlive : ∀ j, a ≠ .crash j := fun j hj => hcrash j (hj ▸ List.mem_cons_self)
      refine (ih (Pool.act_other hi hother hlive) hp hrow' hcrash' hfault' ?_).cons
      have hnot : Act.isStepOf i a = false := by
        cases a with
        | step j c =>
          by_cases hj : j = i
          · exact absurd (hj ▸ rfl) (hother c)
          · simp [Act.isStepOf, hj]
        | _ => rfl
      simpa [List.countP_cons, hnot] using hsteps

/-- One decision per hold: in every interleaving of handlers of any payments in which decisions
    are written on rows under review, at most one decision on a payment is written between one
    entry into review and the next, and a caller that makes its three steps without a fault of
    the store has then written its decision or been told ErrNotUnderReview. -/
theorem one_decision_per_hold {acts : List (Act SagaRequest (Choice U))}
    (hacts : TimelyDecisions w acts) (paymentID : String) :
    (decisionsOnHold paymentID w acts).length ≤ 1 ∧
      ∀ before after, acts = before ++ after →
        ∀ i seen p k decision, (interleave w before).threads[i]? = some (seen, p) →
          Calls decision p k → decision.paymentID = paymentID →
          ((interleave w before).world.saga? paymentID).isSome = true →
          (∀ j, .crash j ∉ after) → (∀ c, .step i c ∈ after → c.fault = .none) →
          3 ≤ after.countP (Act.isStepOf i) →
          DecidesOr paymentID (k (.error .notUnderReview)) i (interleave w before) after := by
  refine ⟨?_, ?_⟩
  · exact decisionsSince_le (fun t ht => by cases ht) hacts (Nat.zero_le 1)
      fun _ => rfl
  · rintro before after - i seen p k decision hi hcalls rfl hrow hcrash hfault hsteps
    exact hcalls.pending.run hi hrow hcrash hfault hsteps

namespace Sample

/-- The payment is under review, and two operators decide on it: one releases it, the other
    rejects it. -/
def twoOperators : List (Act SagaRequest (Choice CanonicalUuid)) :=
  .start (.start startRequest) :: steps 0 0 13 ++
    .start (.fraudFlagged flaggedEvent) :: steps 1 13 3 ++
    [.start (.resumeReview reviewDecision), .start (.rejectReview reviewDecision)]

end Sample

/-- The second operator reads the row after the first has decided. -/
theorem one_decision_per_hold_inTurn :
    (decisionsOnHold (text Sample.paymentID) Sample.world
      (Sample.twoOperators ++ Sample.steps 2 20 3 ++ Sample.steps 3 30 3)).length ≤ 1 :=
  (one_decision_per_hold (by decide +kernel) _).1

/-- Both operators read the row before either decides: the hold is released and rejected. -/
theorem two_decisions_on_a_hold :
    (decisionsOnHold (text Sample.paymentID) Sample.world
      (Sample.twoOperators ++ Sample.steps 2 20 1 ++ Sample.steps 3 30 1 ++ Sample.steps 2 21 2 ++
        Sample.steps 3 31 2)).map (·.kind) = [.reviewResumed, .reviewRejected] ∧
    (interleave Sample.world
      (Sample.twoOperators ++ Sample.steps 2 20 1 ++ Sample.steps 3 30 1 ++ Sample.steps 2 21 2 ++
        Sample.steps 3 31 2)).world.audits.map (·.kind) =
      [.transition, .reviewResumed, .reviewRejected] := by
  decide +kernel

end EnjoyThings
