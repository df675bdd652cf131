import EnjoyThings.Spec.FraudSessions
import EnjoyThings.Spec.ScoringGraph

/-!
# What the fraud workers decide

The programs of the workers follow `sessionDiscipline`: the graph comes to an outcome
without a look at the table, `invoke` leaves the session decided as it returns, and the
worker writes and publishes nothing but that. With what the calls of a worker do to the
table, this makes every run of workers keep `FraudWorld.Sound`, whatever fails.

## Key results

- `FraudWorker.deliver_follows`: a worker completes, publishes and commits only what it knows
- `sessionDiscipline_sound`: whatever the others do, what it knows is so
- `outcome_decided_once`: an outcome that is stored stays
- `commit_only_announced`: a request is committed when its result is safe
-/

namespace EnjoyThings

open Effect

/-! ## What the workers do -/

section Programs

variable {request : FraudScoreRequest} {k : Grasp} {α β : Type}

variable (request) in
/-- The program makes only calls that teach nothing, and returns what `Q` says. -/
abbrev Steady (Q : α → Prop) (p : FraudProg α) (k : Grasp) : Prop :=
  (sessionDiscipline request).Follows (fun r l => l = k ∧ ∀ a, r = .ok a → Q a) p k

namespace Steady

variable {Q : α → Prop} {p : FraudProg α}

theorem pure {a : α} (h : Q a) : Steady request Q (Pure.pure a : FraudProg α) k := by
  refine .done ⟨rfl, ?_⟩
  rintro _ ⟨rfl⟩
  exact h

theorem perform {o : FraudOp} (h : o.Quiet) :
    Steady request (fun _ => True) (Prog.perform o : FraudProg o.Ret) k := by
  refine Discipline.Follows.perform (D := sessionDiscipline request) (k := k) ⟨?_, rfl⟩
    fun r _ => ⟨?_, fun _ _ => trivial⟩
  · cases o <;> first | exact trivial | cases h
  · cases o <;> first | rfl | cases h

theorem bind {R : β → Prop} {f : α → FraudProg β} (h : Steady request Q p k)
    (hf : ∀ a, Q a → Steady request R (f a) k) : Steady request R (p >>= f) k := by
  refine Discipline.Follows.bind h ?_ ?_
  · rintro a _ ⟨rfl, ha⟩
    exact hf a (ha a rfl)
  · rintro e _ ⟨rfl, -⟩
    exact ⟨rfl, by simp⟩

theorem attempt (h : Steady request Q p k) :
    Steady request (fun r => ∀ a, r = .ok a → Q a) p.attempt k := by
  refine Discipline.Follows.attempt (h.mono ?_)
  rintro r _ ⟨rfl, hr⟩
  refine ⟨rfl, ?_⟩
  rintro _ ⟨rfl⟩
  exact hr

end Steady

namespace FraudGraph

variable {session : FraudSession}

theorem audit_steady (node : String) (fields : List (Py.Str × Py.Json)) :
    Steady request (fun _ => True) (audit session node fields) k :=
  .perform trivial

theorem enrichTransaction_steady (config : FraudConfig) :
    Steady request (fun _ => True) (enrichTransaction config request session) k := by
  refine (Steady.perform (o := .enrich _ _ _ _) trivial).bind fun enrichment _ => ?_
  exact (audit_steady _ _).bind fun _ _ => .pure trivial

variable [Py.TextLib] {env : WorkerEnv}

/-- An outcome of the validator has no reason code. -/
theorem validate_steady (config : FraudConfig) (response : Py.Str) (attempt : Int) :
    Steady request (fun r => ∀ outcome, r = .ok outcome → outcome.Coded)
      (validate config session response attempt) k := by
  unfold validate
  cases validateVerdict config response with
  | error e => exact .fail ⟨rfl, by simp⟩
  | ok validation =>
    dsimp only
    cases validation.verdict with
    | none => exact (audit_steady _ _).bind fun _ _ => .pure (by simp)
    | some verdict =>
      refine (audit_steady _ _).bind fun _ _ => .pure ?_
      rintro _ ⟨rfl⟩
      simp [FraudOutcome.Coded]

theorem judge_steady (messages : List ChatMessage) (attempt : Int) :
    Steady request (fun r => ∀ outcome, r = .ok outcome → outcome.Coded)
      (judge env session messages attempt) k := by
  have hfail : ∀ code ∈ fraudReasons, ∀ outcome,
      (.ok (failOpen code) : Except ValidationResult FraudOutcome) = .ok outcome →
        outcome.Coded := by
    rintro code hcode _ ⟨rfl⟩
    exact failOpen_coded hcode
  have hguard : Steady request (fun _ => True) (inputGuard env.config session messages attempt) k :=
    (audit_steady _ _).bind fun _ _ => .pure trivial
  have hcall : Steady request (fun _ => True) (callLlm env session messages attempt) k :=
    (Steady.perform (o := .ask _) trivial).bind fun _ _ =>
      (audit_steady _ _).bind fun _ _ => .pure trivial
  refine hguard.bind fun accepted _ => ?_
  cases accepted with
  | false => exact .pure (hfail _ (by decide))
  | true =>
    refine hcall.bind fun response _ => ?_
    cases response with
    | none => exact .pure (hfail _ (by decide))
    | some response => exact validate_steady _ _ _

theorem judgeTwice_steady (facts : SanitizedTransactionFacts) :
    Steady request FraudOutcome.Coded (judgeTwice env session facts) k := by
  have hprompt : Steady request (fun _ => True) (buildPrompt session facts) k :=
    (audit_steady _ _).bind fun _ _ => .pure trivial
  have hretry : ∀ validation,
      Steady request (fun _ => True) (retryPrompt session facts validation) k := fun validation =>
    (audit_steady _ _).bind fun _ _ => .pure trivial
  refine hprompt.bind fun messages _ => (judge_steady _ _).bind fun first hfirst => ?_
  cases first with
  | ok outcome => exact .pure (hfirst outcome rfl)
  | error validation =>
    refine (hretry _).bind fun messages _ => (judge_steady _ _).bind fun second hsecond => ?_
    cases second with
    | ok outcome => exact .pure (hsecond outcome rfl)
    | error _ => exact .pure (failOpen_coded (by decide))

/-- The graph comes to an outcome without a look at the table. -/
theorem assess_steady : Steady request FraudOutcome.Coded (assess env request session) k := by
  refine (audit_steady _ _).bind fun _ _ => ?_
  refine (enrichTransaction_steady env.config).attempt.bind fun facts _ => ?_
  cases facts with
  | ok facts => exact judgeTwice_steady facts
  | error _ => exact .pure (failOpen_coded (by decide))

end FraudGraph

/-- After a claim the worker knows the session as it was returned. -/
theorem claimSession_follows : (sessionDiscipline request).Follows
    (fun r l => ∀ session, r = .ok session → l = k.learn (.claim request.eventID) (.ok session))
    (FraudStore.claimSession request) k := by
  refine Discipline.Follows.bind (Steady.perform (o := .insertSession _ _) trivial) ?_ ?_
  · rintro _ _ ⟨rfl, -⟩
    refine Discipline.Follows.perform (D := sessionDiscipline request) ⟨rfl, rfl⟩ ?_
    rintro _ - session rfl
    rfl
  · simp

/-- A completion with an outcome that may be written. -/
theorem completeSession_follows {session : FraudSession} {outcome : FraudOutcome}
    (hknown : session.sessionID ∈ k.sessions)
    (hstanding : k.standing = .opened ∧ outcome.Coded ∨ k.standing = .decided outcome) :
    (sessionDiscipline request).Follows (fun r l => ∀ completed, r = .ok completed →
        l = k.learn (.complete session.sessionID outcome) (.ok completed))
      (FraudStore.completeSession session outcome) k := by
  refine Discipline.Follows.perform (D := sessionDiscipline request) ⟨⟨hknown, hstanding⟩, rfl⟩ ?_
  rintro _ - completed rfl
  rfl

/-- An outcome of the graph is the outcome of the session. -/
theorem invoke_follows [Py.TextLib] {env : WorkerEnv} : (sessionDiscipline request).Follows
    (fun r l => ∀ outcome, r = .ok outcome → l.standing = .decided outcome ∧
      k.sessions ⊆ l.sessions) (FraudGraph.invoke env request) k := by
  have hcreate : (sessionDiscipline request).Follows
      (fun r l => ∀ session, r = .ok session →
        l = k.learn (.claim request.eventID) (.ok session))
      (FraudGraph.createSession request) k := by
    refine claimSession_follows.bind (fun session l hl => ?_) (by simp)
    cases hl session rfl
    refine ((FraudGraph.audit_steady _ _).bind fun _ _ =>
      Steady.pure (Q := (· = session)) rfl).mono ?_
    rintro r _ ⟨rfl, hr⟩ s rfl
    cases hr s rfl
    rfl
  rw [FraudGraph.invoke_eq]
  refine hcreate.bind (fun session l hl => ?_) (by simp)
  cases hl session rfl
  have hold : k.sessions ⊆ (k.learn (.claim request.eventID) (.ok session)).sessions :=
    List.subset_cons_self _ _
  cases hdecided : session.decided with
  | some outcome =>
    refine .done ?_
    rintro _ ⟨rfl⟩
    refine ⟨?_, hold⟩
    simp [Grasp.learn, hdecided]
  | none =>
    refine Discipline.Follows.bind FraudGraph.assess_steady ?_ (by simp)
    rintro outcome _ ⟨rfl, hcoded⟩
    refine Discipline.Follows.bind (FraudGraph.audit_steady _ _) ?_ (by simp)
    rintro _ _ ⟨rfl, -⟩
    refine (completeSession_follows List.mem_cons_self (.inl ⟨?_, hcoded outcome rfl⟩)).bind ?_
      (by simp)
    · simp [Grasp.learn, hdecided]
    · intro completed l hl
      cases hl completed rfl
      refine .done ?_
      rintro _ ⟨rfl⟩
      exact ⟨rfl, fun _ h => List.mem_cons_of_mem _ (hold h)⟩

/-- The graph returns the outcome of the session, or fails open. -/
theorem score_follows [Py.TextLib] {env : WorkerEnv} : (sessionDiscipline request).Follows
    (fun r l => ∀ outcome, r = .ok outcome → outcome.reasonCode ≠ some "audit_failed" →
      l.standing = .decided outcome ∧ k.sessions ⊆ l.sessions)
    (FraudGraph.score env request) k := by
  have hattempt : (sessionDiscipline request).Follows
      (fun r l => ∀ outcome, r = .ok (.ok outcome) → l.standing = .decided outcome ∧
        k.sessions ⊆ l.sessions) (FraudGraph.invoke env request).attempt k :=
    .attempt (invoke_follows.mono fun r l h outcome hr => h outcome (Except.ok.inj hr))
  refine hattempt.bind ?_ ?_
  · intro r l h
    cases r with
    | ok outcome =>
      refine .done ?_
      rintro _ ⟨rfl⟩ -
      exact h outcome rfl
    | error e =>
      refine .done ?_
      rintro _ ⟨rfl⟩ haudit
      exact absurd rfl haudit
  · simp

variable (request) in
/-- The program decides on a commit only when the session is decided and announced. -/
abbrev Cautious (p : FraudProg ConsumerDecision) (k : Grasp) : Prop :=
  (sessionDiscipline request).Follows (fun r l => r = .ok .commit → l.Ready) p k

namespace FraudWorker

variable {session : FraudSession} {outcome : FraudOutcome}

theorem finish_steady (session : Option FraudSession) (heartbeat : Bool)
    (decision : ConsumerDecision) :
    Steady request (· = decision) (finish session heartbeat decision) k := by
  have hrelease : Steady request (· = decision) (finish session false decision) k := by
    cases session with
    | none => exact .pure rfl
    | some session =>
      exact (Steady.perform (o := .releaseLease _) trivial).attempt.bind fun _ _ => .pure rfl
  cases heartbeat with
  | false => exact hrelease
  | true => exact (Steady.perform (o := .cancelHeartbeat) trivial).bind fun _ _ => hrelease

theorem finish_cautious {session : Option FraudSession} {heartbeat : Bool}
    {decision : ConsumerDecision} (h : decision = .commit → k.Ready) :
    Cautious request (finish session heartbeat decision) k := by
  refine (finish_steady session heartbeat decision).mono ?_
  rintro r _ ⟨rfl, hr⟩ rfl
  exact h (hr _ rfl).symm

/-- Errors may be published whatever is known, if the code is a known one. -/
theorem publishError_steady {code : String} (hcode : code ∈ fraudReasons ∨ ∃ outcome,
      k.standing = .decided outcome ∧ outcome.reasonCode = some code) :
    Steady request (fun _ => True) (publishError request code session) k :=
  Discipline.Follows.perform (D := sessionDiscipline request) ⟨⟨rfl, hcode⟩, rfl⟩
    fun _ _ => ⟨rfl, fun _ _ => trivial⟩

theorem retryAfterError_cautious {code : String} (hcode : code ∈ fraudReasons) :
    Cautious request (retryAfterError request code session) k := by
  refine Discipline.Follows.bind (publishError_steady (.inl hcode)).attempt ?_ (by simp)
  rintro _ _ ⟨rfl, -⟩
  exact finish_cautious (by simp)

theorem markAndCommit_cautious (hknown : session.sessionID ∈ k.sessions) (hready : k.Ready) :
    Cautious request (markAndCommit session) k := by
  have hmark : Steady request (fun _ => True) (FraudStore.markPublished session) k :=
    Discipline.Follows.perform (D := sessionDiscipline request) ⟨⟨hknown, hready⟩, rfl⟩
      fun _ _ => ⟨rfl, fun _ _ => trivial⟩
  refine Discipline.Follows.bind hmark.attempt ?_ (by simp)
  rintro r _ ⟨rfl, -⟩
  cases r with
  | ok _ => exact finish_cautious fun _ => hready
  | error _ => exact finish_cautious (by simp)

theorem publishFlagged_follows (hstanding : k.standing = .decided outcome) :
    (sessionDiscipline request).Follows
      (fun r l => r = .ok () → l = { k with announced := true })
      (publishFlagged request outcome session) k := by
  refine Discipline.Follows.perform (D := sessionDiscipline request) ⟨⟨rfl, hstanding⟩, rfl⟩ ?_
  rintro _ - rfl
  rfl

/-- A decided session is published from what is known about it. -/
theorem publishOutcome_cautious (hknown : session.sessionID ∈ k.sessions)
    (hstanding : k.standing = .decided outcome)
    (hannounced : session.outputPublished = true → k.announced = true) :
    Cautious request (publishOutcome request session outcome) k := by
  unfold publishOutcome
  by_cases hpublished : session.outputPublished
  · rw [if_pos hpublished]
    exact finish_cautious fun _ => ⟨outcome, hstanding, fun _ => hannounced hpublished⟩
  rw [if_neg hpublished]
  by_cases hflags : outcome.action = some .flag ∨ outcome.action = some .block
  · rw [if_pos hflags]
    -- only an acknowledged flag goes on to the commit
    have hattempt : (sessionDiscipline request).Follows
        (fun r l => r = .ok (.ok ()) → l = { k with announced := true })
        (publishFlagged request outcome session).attempt k :=
      .attempt ((publishFlagged_follows hstanding).mono fun r l h hr => h (Except.ok.inj hr))
    refine hattempt.bind ?_ (by simp)
    intro r l hl
    cases r with
    | error e => exact retryAfterError_cautious (by decide)
    | ok u =>
      cases hl rfl
      exact markAndCommit_cautious hknown ⟨outcome, hstanding, fun _ => rfl⟩
  · rw [if_neg hflags]
    have hready : k.Ready := ⟨outcome, hstanding, fun h => absurd h hflags⟩
    cases hreason : outcome.reasonCode with
    | none => exact finish_cautious fun _ => hready
    | some code =>
      refine Discipline.Follows.bind
        (publishError_steady (.inr ⟨outcome, hstanding, hreason⟩)).attempt ?_ (by simp)
      rintro _ _ ⟨rfl, -⟩
      exact markAndCommit_cautious hknown hready

variable [Py.TextLib] {env : WorkerEnv}

theorem scoreSession_cautious (hknown : session.sessionID ∈ k.sessions) :
    Cautious request (scoreSession (FraudGraph.score env request) request session) k := by
  have hscore : (sessionDiscipline request).Follows
      (fun r l => ∀ outcome, r = .ok (.ok outcome) → outcome.reasonCode ≠ some "audit_failed" →
        l.standing = .decided outcome ∧ k.sessions ⊆ l.sessions)
      (FraudGraph.score env request).attempt k :=
    .attempt (score_follows.mono fun r l h outcome hr => h outcome (Except.ok.inj hr))
  refine Discipline.Follows.bind (Steady.perform (o := .startHeartbeat _) trivial) ?_ (by simp)
  rintro _ _ ⟨rfl, -⟩
  refine hscore.bind (fun scored l hl => ?_) (by simp)
  obtain _ | outcome := scored
  · exact finish_cautious (by simp)
  refine Discipline.Follows.bind (Steady.perform (o := .cancelHeartbeat) trivial).attempt ?_
    (by simp)
  rintro r l ⟨rfl, -⟩
  cases r with
  | error _ => exact finish_cautious (by simp)
  | ok _ =>
    by_cases haudit : outcome.reasonCode = some "audit_failed"
    · simp only [haudit, ↓reduceIte]
      exact retryAfterError_cautious (by decide)
    simp only [haudit, ↓reduceIte]
    -- the graph has left the session decided, so the same outcome may be written again
    obtain ⟨hstanding, hsessions⟩ := hl outcome rfl haudit
    have hattempt : (sessionDiscipline request).Follows
        (fun r m => ∀ completed, r = .ok (.ok completed) →
          m = l.learn (.complete session.sessionID outcome) (.ok completed))
        (FraudStore.completeSession session outcome).attempt l :=
      .attempt ((completeSession_follows (hsessions hknown) (.inr hstanding)).mono
        fun r m h completed hr => h completed (Except.ok.inj hr))
    refine hattempt.bind ?_ (by simp)
    intro r m hm
    cases r with
    | error _ => exact retryAfterError_cautious (by decide)
    | ok completed =>
      cases hm completed rfl
      exact publishOutcome_cautious List.mem_cons_self rfl id

theorem handleRequest_cautious : Cautious request (handleRequest env request) k := by
  have hattempt : (sessionDiscipline request).Follows
      (fun r l => ∀ session, r = .ok (.ok session) →
        l = k.learn (.claim request.eventID) (.ok session))
      (FraudStore.claimSession request).attempt k :=
    .attempt (claimSession_follows.mono fun r l h session hr => h session (Except.ok.inj hr))
  refine hattempt.bind ?_ (by simp)
  intro r l hl
  cases r with
  | error _ => exact finish_cautious (by simp)
  | ok session =>
    cases hl session rfl
    cases hdecided : session.decided with
    | some outcome =>
      simp only [hdecided]
      exact publishOutcome_cautious List.mem_cons_self (by simp [Grasp.learn, hdecided]) id
    | none =>
      simp only [hdecided]
      exact scoreSession_cautious List.mem_cons_self

/-- What a worker does for a request follows the discipline. -/
theorem deliver_follows :
    (sessionDiscipline request).Follows (fun _ _ => True) (deliver env request) {} := by
  refine handleRequest_cautious.bind (fun decision l hl => ?_) (fun _ _ _ => trivial)
  refine Discipline.Follows.perform (D := sessionDiscipline request) ⟨⟨rfl, ?_⟩, rfl⟩
    fun _ _ => trivial
  rintro rfl
  exact hl rfl

end FraudWorker

end Programs

/-! ## Runs -/

section Runs

variable {U : Type} [DecidableEq U] [Py.TextLib] {env : U → WorkerEnv}
  {admits : FraudScoreRequest → Prop}

/-- A fault loses the answer, or also the call; the rest is what the call teaches. -/
theorem sessionDiscipline_sound {request : FraudScoreRequest} (hadmits : admits request)
    (owner : U) :
    (sessionDiscipline request).Sound ((sessionTerms env admits).contract owner)
      (fun k _ w => k.Holds owner request.eventID w) where
  mono := by
    rintro k _ _ w rfl hk
    exact hk
  stable hk hrely _ := hk.kept hrely rfl
  answers _ _ _ := trivial
  step {k o learn _ w c} hmove hi hk _ := by
    obtain ⟨hmove, rfl⟩ := hmove
    obtain ⟨hsound, hkept, hlearns, herror⟩ :
        Teaches (env owner) owner request c k w admits o := hmove.teaches hadmits hi hk
    show (o.exec (env owner) owner c w).2.Sound admits ∧
      w.Kept (· ≠ owner) (o.exec (env owner) owner c w).2 ∧
      (k.learn o (o.exec (env owner) owner c w).1).Holds owner request.eventID
        (o.exec (env owner) owner c w).2
    unfold FraudOp.exec
    cases c.fault with
    | none => exact ⟨hsound, hkept, hlearns⟩
    | notDelivered =>
      by_cases hremote : o.remote
      · simp only [hremote, ↓reduceIte]
        exact ⟨hi, .refl w, hk.error o .failed⟩
      · simp only [hremote, Bool.false_eq_true, ↓reduceIte]
        exact ⟨hsound, hkept, hlearns⟩
    | answerLost =>
      by_cases hremote : o.remote
      · simp only [hremote, ↓reduceIte]
        exact ⟨hsound, hkept, herror .failed⟩
      · simp only [hremote, Bool.false_eq_true, ↓reduceIte]
        exact ⟨hsound, hkept, hlearns⟩

/-- A worker that handles a request keeps the terms. -/
theorem deliver_safe (owner : U) (request : FraudScoreRequest) (w : FraudWorld U)
    (hadmits : admits request) (_ : w.Sound admits) :
    ((sessionTerms env admits).contract owner).Safe (FraudWorker.deliver (env owner) request) ()
      w := by
  refine (FraudWorker.deliver_follows.holds (sessionDiscipline_sound hadmits owner) ?_).mono
    fun _ _ _ _ _ => trivial
  exact ⟨by simp, by simp, by simp⟩

variable {acts : List (TeamAct U FraudScoreRequest FraudChoice (Beat U))}

theorem fraudRun_kept (hadmits : ∀ owner request, .deliver owner request ∈ acts → admits request) :
    (sessionTerms env admits).Kept ((Team.idle {}).run (fraudWorkers env) acts) := by
  have hempty : FraudWorld.Sound admits ({} : FraudWorld U) :=
    ⟨by simp, by simp, by simp, by simp, by simp⟩
  exact Team.run_inv (K := sessionTerms env admits) deliver_safe hempty hadmits

/-- What the workers share holds in every state. -/
theorem fraudRun_sound (hadmits : ∀ owner request, .deliver owner request ∈ acts → admits request) :
    (fraudRun env acts).Sound admits :=
  (fraudRun_kept hadmits).inv

/-- Whatever happens later, the completed sessions are kept. -/
theorem fraudRun_later (acts acts' : List (TeamAct U FraudScoreRequest FraudChoice (Beat U))) :
    (fraudRun env acts).Kept (fun _ => False) (fraudRun env (acts ++ acts')) := by
  unfold fraudRun
  rw [Team.run_append]
  refine (Team.run_moves (K := sessionTerms env fun _ => True) deliver_safe
    .refl .trans (fun _ _ _ h => h.mono fun _ h => h.elim) (fun beat w hi => ?_)
    (fun owner w hi => ?_) (fraudRun_kept fun _ _ _ => trivial) fun _ _ _ => trivial).2
  · exact (hi.beat _ _ _ _).2.mono fun _ h => h.elim
  · exact (hi.setHeartbeat owner .stopped).2.mono fun _ h => h.elim

/-- One act changes a session beyond its lease only if it is a step under the lease. -/
theorem fraudRun_act {act : TeamAct U FraudScoreRequest FraudChoice (Beat U)} {r r' : SessionRow U}
    (hr : r ∈ (fraudRun env acts).rows) (hr' : r' ∈ (fraudRun env (acts ++ [act])).rows)
    (hsession : r'.sessionID = r.sessionID) :
    r.SameButLease r' ∨ ∃ owner c, act = .step owner c ∧ r.LeasedTo owner c.now := by
  have hsound : (fraudRun env acts).Sound fun _ => True := fraudRun_sound fun _ _ _ => trivial
  have hsame : r' ∈ (fraudRun env acts).rows → r.SameButLease r' := by
    intro hmem
    rw [hsound.session_unique hmem hr hsession]
    rfl
  unfold fraudRun at hr' hr hsound hsame
  rw [Team.run_append] at hr'
  change r' ∈ (Team.act (fraudWorkers env) _ act).world.rows at hr'
  rcases Team.act_world (fraudWorkers env) ((Team.idle {}).run (fraudWorkers env) acts) act with
    heq | ⟨owner, c, o, rfl, heq⟩ | ⟨owner, rfl, heq⟩ | ⟨beat, rfl, heq⟩ <;> rw [heq] at hr'
  · exact .inl (hsame hr')
  · by_cases hlease : r.LeasedTo owner c.now
    · exact .inr ⟨owner, c, rfl, hlease⟩
    · exact .inl (exec_sameButLease hsound o hr hr' hsession hlease)
  · exact .inl (hsame hr')
  · exact .inl (beat_sameButLease hsound hr hr' hsession)

/-- The outcome of a session is decided once. Beyond its lease a session changes only by a step
    of a worker that has an unexpired lease on it. A completed session keeps its outcome in
    every later state, and every later claim returns it, wherever the others are when the two
    statements of the claim run. -/
theorem outcome_decided_once (env : U → WorkerEnv)
    (acts : List (TeamAct U FraudScoreRequest FraudChoice (Beat U))) :
    (∀ act, ∀ r ∈ (fraudRun env acts).rows, ∀ r' ∈ (fraudRun env (acts ++ [act])).rows,
      r'.sessionID = r.sessionID →
        r.SameButLease r' ∨ ∃ owner c, act = .step owner c ∧ r.LeasedTo owner c.now) ∧
    ∀ r ∈ (fraudRun env acts).rows, r.completedAt.isSome →
      (∀ later, ∃ r' ∈ (fraudRun env (acts ++ later)).rows, r'.sessionID = r.sessionID ∧
        r'.completedAt.isSome ∧ r'.outcome = r.outcome) ∧
      ∀ owner request cs (later : Nat → List (TeamAct U FraudScoreRequest FraudChoice (Beat U))),
        request.eventID = r.sourceEventID →
        let answer := (FraudStore.claimSession request).answered (fraudMachine (env owner) owner)
          cs fun n => fraudRun env (acts ++ later n)
        (∀ session, answer = .ok session →
          session.completed = true ∧ session.outcome = some r.outcome) ∧
        ((∀ n, (cs n).fault = .none) → ∃ session, answer = .ok session) := by
  refine ⟨fun act r hr r' hr' hsession => fraudRun_act hr hr' hsession, fun r hr hc => ⟨?_, ?_⟩⟩
  · intro later
    obtain ⟨r', hr', hkept⟩ := (fraudRun_later acts later).rows r hr
    obtain ⟨hc', ho⟩ := hkept.decided hc
    exact ⟨r', hr', hkept.session, hc', ho⟩
  · intro owner request cs later hrequest
    have hrow : ∀ n, ∃ r' ∈ (fraudRun env (acts ++ later n)).rows,
        r'.sourceEventID = request.eventID ∧ r'.completedAt.isSome ∧ r'.outcome = r.outcome := by
      intro n
      obtain ⟨r', hr', hkept⟩ := (fraudRun_later acts (later n)).rows r hr
      obtain ⟨hc', ho⟩ := hkept.decided hc
      exact ⟨r', hr', hkept.event.trans hrequest.symm, hc', ho⟩
    obtain ⟨r₀, hr₀, hevent₀, -⟩ := hrow 0
    obtain ⟨r₁, hr₁, hevent₁, hc₁, ho₁⟩ := hrow 1
    have hsound : (fraudRun env (acts ++ later 1)).Sound fun _ => True :=
      fraudRun_sound fun _ _ _ => trivial
    obtain ⟨hreturns, hok⟩ := claim_completed (c := cs 1)
      hsound hr₁ hc₁
    rw [hevent₁, ho₁] at hreturns
    rw [hevent₁] at hok
    -- the first statement finds the session, and the answer is that of the second
    simp only [FraudStore.claimSession, Prog.answered_perform_bind, Prog.answered_perform]
    refine ⟨fun session hanswer => ?_, fun hfaults => ?_⟩
    · obtain ⟨_, -, hclaim⟩ := Except.bind_eq_ok.mp hanswer
      exact hreturns session hclaim
    · obtain ⟨session, hclaim⟩ := hok (hfaults 1)
      refine ⟨session, Except.bind_eq_ok.mpr ⟨(), ?_, hclaim⟩⟩
      exact insertSession_again (hfaults 0) hr₀ hevent₀

/-- A request is committed only when its session is completed and a flag is acknowledged as it
    is stored, and no flag is sent for a session that is not completed. -/
theorem commit_only_announced (env : U → WorkerEnv)
    (acts : List (TeamAct U FraudScoreRequest FraudChoice (Beat U))) :
    (∀ eventID, (eventID, ConsumerDecision.commit) ∈ (fraudRun env acts).decisions →
      ∃ outcome, (fraudRun env acts).Decided eventID outcome ∧
        (outcome.Flags → (fraudRun env acts).Announced eventID outcome)) ∧
    ∀ event ∈ (fraudRun env acts).sent, event.topic = fraudFlaggedTopic →
      ∃ eventID outcome, (fraudRun env acts).Decided eventID outcome ∧
        event.Announces eventID outcome := by
  have hsound : (fraudRun env acts).Sound fun _ => True := fraudRun_sound fun _ _ _ => trivial
  refine ⟨hsound.commits, fun event hsent htopic => ?_⟩
  cases hsound.sent event hsent with
  | inl h => exact h
  | inr h =>
    -- errors go to a topic of their own
    obtain ⟨env, clock, request, code, sessionID, -, -, hevent⟩ := h
    obtain ⟨rfl⟩ := KafkaFraudPublisher.send_eq_ok hevent
    exact absurd (show fraudErrorTopic = fraudFlaggedTopic from htopic) (by decide)

end Runs

end EnjoyThings
