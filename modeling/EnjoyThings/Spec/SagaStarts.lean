import EnjoyThings.Spec.SagaCalls
import EnjoyThings.Spec.SagaOutbox
import EnjoyThings.Spec.SagaTerminal

/-!
# Starts and restarts of one payment

Every `StartPaymentSaga` call and every restart advances its own copy of the row
through VERIFICATION_CHECKED, WALLET_DEBITED, LEDGER_RESERVED and PAYMENT_PROCESSING. The
services recognise a repeated command, but the row is written by payment ID alone, so
two callers that hold the STARTED row both go all the way: the second takes the stored
state back and enqueues `payment.execute` and `fraud.score.requested` again
(`second_start_executes_again`). If rows are only written from copies that have the
stored state, the state moves forward only and each event is enqueued at most once
(`starts_act_once`).
-/

namespace EnjoyThings

open Effect Orchestrator

variable {U : Type} [UuidLib U] {w w' : World U} {s row : Saga} {c : Choice U}
  {paymentID : String}

/-- The position of a state in the order in which a start goes through the states. The states
    a start does not pass come after them. -/
def SagaState.stage : SagaState → Nat
  | .started => 0
  | .verificationChecked => 1
  | .walletDebited => 2
  | .ledgerReserved => 3
  | .paymentProcessing => 4
  | _ => 5

theorem SagaState.stage_le (state : SagaState) : state.stage ≤ 5 := by
  cases state <;> decide

/-- How far the payment has come; a payment without a row is at the beginning. -/
def World.stage (w : World U) (paymentID : String) : Nat :=
  (w.saga? paymentID).elim 0 (·.state.stage)

/-- A row is written by a handler whose newest copy of it has the stored state. -/
def UpToDate (seen : Seen) (o : SagaOp) (w : World U) : Prop :=
  ∀ s ∈ o.row?, ∀ row ∈ w.saga? s.paymentID,
    (seen.newest s.paymentID).map (·.state) = some row.state

instance (seen : Seen) (o : SagaOp) (w : World U) : Decidable (UpToDate seen o w) :=
  inferInstanceAs (Decidable (∀ s ∈ o.row?, ∀ row ∈ w.saga? s.paymentID, _))

/-- The two events a start enqueues, at most once each and only with PAYMENT_PROCESSING. -/
structure World.ExecutedOnce (paymentID : String) (w : World U) : Prop where
  keyed : w.Keyed
  none : w.stage paymentID < 4 → ∀ topic ∈ [Topic.paymentExecute, .fraudScoreRequested],
    w.db.enqueued topic paymentID = 0
  once : ∀ topic ∈ [Topic.paymentExecute, .fraudScoreRequested],
    w.db.enqueued topic paymentID ≤ 1

/-- What starts and restarts keep if rows are written from copies with the stored state. -/
def startContract (U : Type) [UuidLib U] (paymentID : String) : Contract (sagaMachine U) where
  allow seen o w _ := UpToDate seen o w
  inv := World.ExecutedOnce paymentID
  rely _ _ := True
  guar w w' := w.stage paymentID ≤ w'.stage paymentID
  rely_refl _ := trivial
  rely_trans _ _ := trivial

/-! ## The copy a fact is about -/

/-- The state in which a handler asks a service is the state of the copy it goes on from. -/
def Fact.Standing : Fact → Prop
  | .verified s => s.state = .started
  | .debited s _ => s.state = .verificationChecked
  | .reserved s _ => s.state = .walletDebited
  | _ => True

/-- The newest copy has the state of the copy the fact is about. -/
def Copied (seen : Seen) (f : Fact) : Prop :=
  (seen.newest f.saga.paymentID).map (·.state) = some f.saga.state ∧ f.Standing

variable {seen : Seen}

theorem Copied.of_newest (h : seen.newest s.paymentID = some s) :
    Copied seen (.row s) :=
  ⟨by rw [show (Fact.row s).saga = s from rfl, h]; rfl, trivial⟩

theorem Copied.cons (s : Saga) (seen : Seen) : Copied (s :: seen) (.row s) :=
  .of_newest (List.find?_cons_of_pos (by simp))

variable {f : Option Fact} {o : SagaOp} {lesson : Except SagaErr o.Ret → Option Fact}

theorem FactMove.copied (hm : FactMove f o lesson) (hf : ∀ g ∈ f, Copied seen g)
    (r : Except SagaErr o.Ret) :
    ∀ g ∈ lesson r, Copied (seen.see o r) g := by
  intro g hg
  cases hm with
  | now | audit => exact hf g hg
  | @verify s hs =>
    have hrow := hf _ rfl
    cases r with
    | ok result =>
      simp only [verdict, Option.mem_def, Option.some.injEq] at hg
      split at hg
      · subst hg
        exact ⟨hrow.1, hs⟩
      · subst hg
        exact ⟨hrow.1, trivial⟩
    | error e =>
      cases e with
      | verificationNotFound =>
        cases hg
        exact ⟨hrow.1, trivial⟩
      | _ => cases hg
  | debit hs | reserve hs =>
    cases r with
    | ok a =>
      cases hg
      exact ⟨(hf _ rfl).1, hs⟩
    | error e => cases hg
  | announce hs | cancel hs | compensate hs | confirm hs =>
    cases r with
    | ok a =>
      cases hg
      exact ⟨(hf _ rfl).1, trivial⟩
    | error e => cases hg
  | announceFailed => cases hg
  | writeChecked | writeUnverified | writeDebited | writeReserved | execute | writeConfirmed
  | writeCompleted | writeCompensating | writeRejected | writeCanceled | writeFlagged
  | writeMarked | writeResumed | writeDeferred =>
    cases r with
    | ok a =>
      cases hg
      exact .cons a seen
    | error e => cases hg
  | writeFailed =>
    cases r with
    | ok a =>
      cases hg
      exact ⟨(Copied.cons a seen).1, trivial⟩
    | error e => cases hg

/-- What a handler knows about its copies. -/
def CopiesKnown (k : Knowledge) (seen : Seen) (w : World U) : Prop :=
  CopiesSeen k seen w ∧ ∀ f ∈ k.fact, Copied seen f

variable {k : Knowledge}

omit [UuidLib U] in
theorem CopiesKnown.mono {l : Knowledge} (hle : k.le l) (hk : CopiesKnown k seen w) :
    CopiesKnown l seen w := by
  refine ⟨hk.1.mono hle, ?_⟩
  induction hle with
  | refl => exact hk.2
  | trans hkl _ ih ih' => exact ih' ⟨hk.1.mono hkl, ih hk⟩
  | forget f l => exact fun f hf => by cases hf
  | drop f l => exact hk.2
  | take s l =>
    intro f hf
    cases hf
    exact .of_newest (hk.1.listed s List.mem_cons_self)

variable {admits : StartRequest → Prop} {learn : Except SagaErr o.Ret → Knowledge}

theorem Move.copiesKnown (hm : Move admits k o learn) (hi : (w.sagas.map (·.paymentID)).Nodup)
    (hk : CopiesKnown k seen w) {r : Except SagaErr o.Ret × World U} (hr : Outcome c o w r)
    (ha : Answer o r.1) :
    CopiesKnown (learn r.1) (seen.see o r.1) r.2 := by
  refine ⟨hm.copiesSeen hi hk.1 hr ha, ?_⟩
  cases hm with
  | fact hm listed => exact hm.copied hk.2 r.1
  | get | create =>
    intro f hf
    cases hr₁ : r.1 with
    | ok s =>
      rw [hr₁] at hf
      cases hf
      exact .cons s seen
    | error e =>
      rw [hr₁] at hf
      cases hf
  | list => exact fun f hf => by cases hf

/-! ## One step -/

/-- A row is written forward from the newest copy. -/
theorem FactMove.stage_le (hm : FactMove f o lesson) (ho : o.Unaudited)
    (hf : ∀ g ∈ f, Copied seen g) (hs : s ∈ o.row?) {state : SagaState}
    (hcopy : (seen.newest s.paymentID).map (·.state) = some state) :
    state.stage ≤ s.state.stage := by
  -- the copy a fact is about has the state
  have hsame : ∀ g ∈ f, g.saga.paymentID = s.paymentID → state = g.saga.state ∧ g.Standing := by
    intro g hg hp
    obtain ⟨hnewest, hstanding⟩ := hf g hg
    rw [hp, hcopy] at hnewest
    exact ⟨Option.some.inj hnewest, hstanding⟩
  cases hm with
  | now | audit | verify | debit | reserve | confirm | announce | cancel | compensate
  | announceFailed => cases hs
  | writeRejected | writeFlagged | writeMarked | writeResumed | writeDeferred => exact ho.elim
  | writeChecked | writeDebited | writeReserved =>
    cases hs
    obtain ⟨heq, hstanding⟩ := hsame _ rfl rfl
    rw [heq.trans hstanding]
    simp [SagaState.stage]
  | execute hstate =>
    cases hs
    obtain ⟨heq, -⟩ := hsame _ rfl rfl
    rw [heq.trans hstate]
    simp [SagaState.stage]
  | writeUnverified | writeConfirmed | writeCompleted | writeCompensating | writeCanceled
  | writeFailed =>
    cases hs
    exact state.stage_le

/-- Only the step into PAYMENT_PROCESSING enqueues the two events. -/
theorem FactMove.executes (hm : FactMove f o lesson) :
    (∃ s t, s.state = .ledgerReserved ∧ f = some (.row s) ∧
      o = .updateWithOutbox { s with state := .paymentProcessing, updatedAt := t }
        [paymentExecuteRecord s t, fraudScoreRecord s t]) ∨
    ∀ record ∈ o.events, record.topic ∉ [Topic.paymentExecute, .fraudScoreRequested] := by
  cases hm with
  | execute hs t => exact .inl ⟨_, t, hs, rfl, rfl⟩
  | announce | announceFailed | writeFlagged =>
    right
    intro record hr
    rw [List.mem_singleton.mp hr]
    simp [txCompletedRecord, txFailedRecord, txPausedRecord]
  | _ => exact .inr fun record hr => by cases hr

theorem Move.executes (hm : Move admits k o learn) :
    (∃ s t, s.state = .ledgerReserved ∧ k.fact = some (.row s) ∧
      o = .updateWithOutbox { s with state := .paymentProcessing, updatedAt := t }
        [paymentExecuteRecord s t, fraudScoreRecord s t]) ∨
    ∀ record ∈ o.events, record.topic ∉ [Topic.paymentExecute, .fraudScoreRequested] := by
  cases hm with
  | fact hm listed => exact hm.executes
  | get | create | list => exact .inr fun record hr => by cases hr

omit [UuidLib U] in
theorem World.stage_of_row (h : w.saga? paymentID = some row) :
    w.stage paymentID = row.state.stage := by
  rw [World.stage, h]
  rfl

/-- The stage of the payment does not go back in a step. -/
theorem run_stage_le {a : o.Ret} (h : o.run c w = (.ok a, w'))
    (hs : ∀ s ∈ o.row?, ∀ row ∈ w.saga? s.paymentID, row.state.stage ≤ s.state.stage) :
    w.stage paymentID ≤ w'.stage paymentID := by
  cases hrow : w.saga? paymentID with
  | none =>
    rw [World.stage, hrow]
    exact Nat.zero_le _
  | some row =>
    rw [World.stage_of_row hrow]
    rcases run_row h hrow with hsame | ⟨s, ho, rfl, hwritten⟩
    · rw [World.stage_of_row hsame]
    · rw [World.stage_of_row hwritten]
      exact hs s ho row hrow

/-- A move from an up-to-date copy goes forward and enqueues the events once. -/
theorem Move.executedOnce (hm : Move admits k o learn) (ho : o.Unaudited)
    (hk : CopiesKnown k seen w) (hallow : UpToDate seen o w) (hi : w.ExecutedOnce paymentID)
    {a : o.Ret} (h : o.run c w = (.ok a, w')) :
    w'.ExecutedOnce paymentID ∧ w.stage paymentID ≤ w'.stage paymentID := by
  have hkeyed := (run_grows hi.keyed h).1
  have hforward : ∀ s ∈ o.row?, ∀ row ∈ w.saga? s.paymentID,
      row.state.stage ≤ s.state.stage := by
    intro s hs row hrow
    cases hm with
    | fact hm listed => exact hm.stage_le ho hk.2 hs (hallow s hs row hrow)
    | get | create | list => cases hs
  have hstage : w.stage paymentID ≤ w'.stage paymentID := run_stage_le h hforward
  refine ⟨?_, hstage⟩
  -- nothing of the payment is enqueued
  have hsame : (∀ topic ∈ [Topic.paymentExecute, .fraudScoreRequested], ∀ record ∈ o.events,
      record.topic = topic → record.partitionKey ≠ paymentID) → w'.ExecutedOnce paymentID := by
    intro hnone
    have hcount : ∀ topic ∈ [Topic.paymentExecute, .fraudScoreRequested],
        w'.db.enqueued topic paymentID = w.db.enqueued topic paymentID := by
      intro topic ht
      rw [run_enqueued h, List.countP_eq_zero.mpr, Nat.add_zero]
      intro record hr
      simpa using hnone topic ht record hr
    refine ⟨hkeyed, fun hlt topic ht => ?_, fun topic ht => ?_⟩
    · rw [hcount topic ht]
      exact hi.none (Nat.lt_of_le_of_lt hstage hlt) topic ht
    · rw [hcount topic ht]
      exact hi.once topic ht
  rcases hm.executes with ⟨s, t, hs, hfact, rfl⟩ | hother
  · by_cases hp : s.paymentID = paymentID
    · -- the stored row is in LEDGER_RESERVED, so nothing was enqueued before
      subst hp
      obtain ⟨row, hrow, -, rfl⟩ := World.write_ok (commit_eq_ok.mp h)
      have hstored : row.state = .ledgerReserved := by
        have hcopy := hallow _ rfl row hrow
        have hknown := (hk.2 _ hfact).1
        rw [show (Fact.row s).saga = s from rfl] at hknown
        exact (Option.some.inj (hcopy.symm.trans hknown)).trans hs
      have hbefore := hi.none (by rw [World.stage_of_row hrow, hstored]; decide)
      have hafter := World.stage_of_row
        (World.saga?_afterWrite hrow c.env.now
          [paymentExecuteRecord s t, fraudScoreRecord s t] none)
      refine ⟨hkeyed, fun hlt => ?_, fun topic ht => ?_⟩
      · exact absurd hlt (by rw [hafter]; simp [Saga.overwrite, SagaState.stage])
      · rw [run_enqueued h, hbefore topic ht]
        simp only [SagaOp.events, List.mem_cons, List.not_mem_nil, or_false] at ht ⊢
        rcases ht with rfl | rfl <;> simp [paymentExecuteRecord, fraudScoreRecord]
    · apply hsame
      intro topic _ record hr _
      simp only [SagaOp.events, List.mem_cons, List.not_mem_nil, or_false] at hr
      rcases hr with rfl | rfl <;> exact hp
  · exact hsame fun topic ht record hr he => absurd (he ▸ ht) (hother record hr)

/-! ## Every run -/

/-- A request that starts payments or continues started ones. -/
def SagaRequest.isStart : SagaRequest → Bool
  | .start _ | .resumeNonTerminal => true
  | _ => false

/-- A run of starts and restarts in which rows are written from copies with the stored state. -/
def UpToDateStarts (paymentID : String) (w : World U)
    (acts : List (Act SagaRequest (Choice U))) : Prop :=
  (Pool.idle w).Obeys (startContract U paymentID) SagaRequest.handler []
    (fun q => q.isStart = true) acts

instance (paymentID : String) (w : World U) (acts : List (Act SagaRequest (Choice U))) :
    Decidable (UpToDateStarts paymentID w acts) :=
  have : ∀ seen o w c, Decidable ((startContract U paymentID).allow seen o w c) :=
    fun seen o w _ => inferInstanceAs (Decidable (UpToDate seen o w))
  inferInstanceAs (Decidable ((Pool.idle w).Obeys _ _ _ _ acts))

theorem start_sound (admits : StartRequest → Prop) (paymentID : String) :
    ((sagaDiscipline admits).restrict SagaOp.Unaudited).Sound (startContract U paymentID)
      CopiesKnown where
  mono := .mono
  stable hk _ _ := ⟨{ hk.1 with }, hk.2⟩
  answers := exec_answer
  step {k o learn seen w c} hm hi hk hallow := by
    have hseen := hm.1.copiesKnown hi.keyed.sagas hk (exec_outcome c o w) (exec_answer c o w)
    have hstep : (o.exec c w).2.ExecutedOnce paymentID ∧
        w.stage paymentID ≤ (o.exec c w).2.stage paymentID :=
      exec_world ⟨hi, Nat.le_refl _⟩ fun _ _ hrun => hm.1.executedOnce hm.2 hk hallow hi hrun
    exact ⟨hstep.1, hstep.2, hseen⟩

theorem handler_start_safe (paymentID : String) (q : SagaRequest) (w : World U)
    (hq : q.isStart = true) (_ : w.ExecutedOnce paymentID) :
    (startContract U paymentID).Safe q.handler [] w := by
  have honly : q.handler.Only SagaOp.Unaudited := by
    apply handler_unaudited
    cases q with
    | start req => exact .inl ⟨req, rfl⟩
    | resumeNonTerminal => exact .inr rfl
    | _ => cases hq
  have hfollows : (sagaDiscipline fun _ => True).Follows Ends q.handler ⟨none, []⟩ :=
    handler_follows q fun _ _ => trivial
  refine ((hfollows.restrict honly).holds (start_sound _ paymentID) ?_).safe
  exact ⟨⟨fun f hf => absurd hf (Option.not_mem_none f), fun _ hs => absurd hs List.not_mem_nil,
    List.nodup_nil⟩, fun f hf => by cases hf⟩

omit [UuidLib U] in
/-- A payment that has not been started. -/
theorem World.ExecutedOnce.of_new (hk : w.Keyed)
    (hnone : ∀ topic ∈ [Topic.paymentExecute, .fraudScoreRequested],
      w.db.enqueued topic paymentID = 0) : w.ExecutedOnce paymentID :=
  ⟨hk, fun _ => hnone, fun topic ht => (hnone topic ht).trans_le (Nat.zero_le 1)⟩

/-- Concurrent starts and restarts act once: in every interleaving of them in which rows are
    written from copies with the stored state, at most one `payment.execute` and one
    `fraud.score.requested` row is ever enqueued for a payment, and its stored state does not
    go back from any point of the run to any later one. -/
theorem starts_act_once (hw : w.ExecutedOnce paymentID)
    {before after : List (Act SagaRequest (Choice U))}
    (hacts : UpToDateStarts paymentID w (before ++ after)) :
    (interleave w (before ++ after)).world.db.enqueued .paymentExecute paymentID ≤ 1 ∧
      (interleave w (before ++ after)).world.db.enqueued .fraudScoreRequested paymentID ≤ 1 ∧
      (interleave w before).world.stage paymentID ≤
        (interleave w (before ++ after)).world.stage paymentID := by
  obtain ⟨hbefore, hafter⟩ := Pool.Obeys.split hacts
  have hsafe := handler_start_safe (U := U) paymentID
  have hpool : (interleave w before).Sound (startContract U paymentID) :=
    Pool.Sound.run (fun _ _ => trivial) hsafe
      ⟨hw, fun _ ht => by cases ht⟩ hbefore
  have hend : (interleave w (before ++ after)).world.ExecutedOnce paymentID :=
    Pool.run_inv (K := startContract U paymentID) (fun _ _ => trivial) hsafe hw hacts
  refine ⟨hend.once _ (by simp), hend.once _ (by simp), ?_⟩
  have hguar := Pool.run_guar (fun _ => Nat.le_refl _) Nat.le_trans (fun _ _ => trivial) hsafe
    hpool hafter
  unfold interleave at hguar ⊢
  rw [Pool.run_append]
  exact hguar

namespace Sample

/-- Two starts of the same payment, of which both have got the STARTED row, and the first has
    gone on to its end. -/
def startedTwice : List (Act SagaRequest (Choice CanonicalUuid)) :=
  .start (.start startRequest) :: .start (.start startRequest) :: steps 0 0 2 ++ steps 1 2 2 ++
    steps 0 4 11

end Sample

/-- The second start comes after the first, and a restart after both. -/
theorem starts_act_once_inTurn :
    (interleave Sample.world ((.start (.start Sample.startRequest) :: Sample.steps 0 0 13) ++
      (.start (.start Sample.startRequest) :: Sample.steps 1 20 3 ++
        .start .resumeNonTerminal :: Sample.steps 2 30 3))).world.db.enqueued .paymentExecute
          (text Sample.paymentID) ≤ 1 :=
  (starts_act_once (.of_new Sample.world_keyed (by decide +kernel)) (by decide +kernel)).1

/-- The second start goes on with the STARTED row after the first has come to
    PAYMENT_PROCESSING: it takes the stored state back, and both events are enqueued twice. -/
theorem second_start_executes_again :
    (interleave Sample.world Sample.startedTwice).world.stage (text Sample.paymentID) = 4 ∧
    (interleave Sample.world (Sample.startedTwice ++ Sample.steps 1 20 3)).world.stage
      (text Sample.paymentID) = 1 ∧
    (interleave Sample.world (Sample.startedTwice ++ Sample.steps 1 20 11)).world.db.enqueued
      .paymentExecute (text Sample.paymentID) = 2 ∧
    (interleave Sample.world (Sample.startedTwice ++ Sample.steps 1 20 11)).world.db.enqueued
      .fraudScoreRequested (text Sample.paymentID) = 2 := by
  decide +kernel

end EnjoyThings
