import EnjoyThings.Services.FraudWorker
import EnjoyThings.Spec.FraudPublished

/-!
# Joining a heartbeat that has failed

`_handle_request` turns every exception into a retry, and its `finally` releases the
lease. The heartbeat task is joined in both places. A task that has failed raises its
exception each time it is awaited: the first time into the `except`, and the second time
out of the `finally`, past the decision, to the runner that has no handler for it.

## Key results

- `request_decided_iff`: the handler returns exactly if no join finds a failed task
-/

namespace EnjoyThings

open Effect

/-! ## A worker whose heartbeat runs between its calls -/

/-- What may happen between two calls of a worker: a turn of its heartbeat task, or a change that
    others make to the table. -/
inductive Meanwhile (U : Type)
  | beat (fault : Fault) (now : Time)
  | others (rows : List (SessionRow U))

section

variable {U : Type} [DecidableEq U] (env : WorkerEnv) (owner : U)

def FraudWorld.meanwhile (w : FraudWorld U) : Meanwhile U → FraudWorld U
  | .beat fault now => w.beat env owner fault now
  | .others rows => { w with rows := rows }

/-- The world in which a call is made. -/
def FraudWorld.after (w : FraudWorld U) (events : List (Meanwhile U)) : FraudWorld U :=
  events.foldl (FraudWorld.meanwhile env owner) w

/-- What answers the calls of a worker, with what happens before each of them. -/
def heartbeatMachine : Machine FraudOp FraudOp.Ret FraudErr (FraudWorld U) Unit
    (List (Meanwhile U) × FraudChoice) where
  exec c o w := FraudOp.exec env owner c.2 o (w.after env owner c.1)
  see _ _ _ := ()

/-- The heartbeat task has not failed when it is joined. -/
def JoinedWhole (o : FraudOp) (c : List (Meanwhile U) × FraudChoice) (w : FraudWorld U) : Prop :=
  o = .cancelHeartbeat → (w.after env owner c.1).heartbeats owner ≠ .broken

variable {env owner}

/-- A task that has failed stays so. -/
theorem FraudWorld.after_broken {w : FraudWorld U} (h : w.heartbeats owner = .broken)
    (events : List (Meanwhile U)) : (w.after env owner events).heartbeats owner = .broken := by
  induction events generalizing w with
  | nil => exact h
  | cons event events ih =>
    apply ih
    cases event with
    | beat fault now => simp only [FraudWorld.meanwhile, FraudWorld.beat, h]
    | others rows => exact h

/-- A join is not broken from outside, so the task alone decides how it ends. -/
theorem exec_cancelHeartbeat (c : List (Meanwhile U) × FraudChoice) (w : FraudWorld U) :
    (heartbeatMachine env owner).exec c .cancelHeartbeat w =
      if (w.after env owner c.1).heartbeats owner = .broken then
        (.error .lost, w.after env owner c.1)
      else (.ok (), (w.after env owner c.1).setHeartbeat owner .stopped) := by
  show FraudOp.exec env owner c.2 .cancelHeartbeat (w.after env owner c.1) = _
  unfold FraudOp.exec
  cases c.2.fault <;> rfl

/-- A task can always be created. -/
theorem exec_startHeartbeat (c : List (Meanwhile U) × FraudChoice) (sessionID : Py.Str)
    (w : FraudWorld U) :
    (heartbeatMachine env owner).exec c (.startHeartbeat sessionID) w =
      (.ok (), (w.after env owner c.1).setHeartbeat owner (.running sessionID)) := by
  show FraudOp.exec env owner c.2 (.startHeartbeat sessionID) (w.after env owner c.1) = _
  unfold FraudOp.exec
  cases c.2.fault <;> rfl

end

/-! ## Programs that join a heartbeat -/

variable {α β : Type}

/-- A program that raises if the heartbeat has failed: all it does is to join it. -/
inductive Doomed : FraudProg α → Prop
  | fail (e : FraudErr) : Doomed (.fail e)
  | join {k : Except FraudErr Unit → FraudProg α} (h : Doomed (k (.error .lost))) :
    Doomed (.call .cancelHeartbeat k)

/-- A program that handles every error but that of a join, and raises after one of those. -/
inductive Joins : FraudProg α → Prop
  | done (a : α) : Joins (.done a)
  | call {o : FraudOp} {k : Except FraudErr o.Ret → FraudProg α} (ho : o ≠ .cancelHeartbeat)
    (h : ∀ r, Joins (k r)) : Joins (.call o k)
  | start {sessionID : Py.Str} {k : Except FraudErr Unit → FraudProg α}
    (hok : Joins (k (.ok ()))) : Joins (.call (.startHeartbeat sessionID) k)
  | join {k : Except FraudErr Unit → FraudProg α} (hok : Joins (k (.ok ())))
    (herror : Doomed (k (.error .lost))) : Joins (.call .cancelHeartbeat k)

theorem Doomed.bind {p : FraudProg α} (h : Doomed p) (f : α → FraudProg β) : Doomed (p >>= f) := by
  induction h with
  | fail e => exact .fail e
  | join _ ih => exact .join ih

theorem Joins.bind {p : FraudProg α} {f : α → FraudProg β} (h : Joins p)
    (hf : ∀ a, Joins (f a)) : Joins (p >>= f) := by
  induction h with
  | done a => exact hf a
  | call ho _ ih => exact .call ho ih
  | start _ ih => exact .start ih
  | join _ herror ih => exact .join ih (herror.bind f)

/-- What is attempted raises nothing. -/
theorem Joins.attempt {p : FraudProg α} (h : p.Only (· ≠ .cancelHeartbeat)) : Joins p.attempt := by
  induction p with
  | done a => exact .done _
  | fail e => exact .done _
  | call o k ih => exact .call h.1 fun r => ih r (h.2 r)

section

variable {U : Type} [DecidableEq U] {env : WorkerEnv} {owner : U}

theorem Doomed.eval {p : FraudProg α} (h : Doomed p) (cs : Nat → List (Meanwhile U) × FraudChoice)
    {w : FraudWorld U} (hbroken : w.heartbeats owner = .broken) :
    ∃ e, (p.eval (heartbeatMachine env owner) cs w).1 = .error e := by
  induction h generalizing cs w with
  | fail e => exact ⟨e, rfl⟩
  | join _ ih =>
    have hafter := @FraudWorld.after_broken _ _ env owner _ hbroken (cs 0).1
    rw [Prog.eval, exec_cancelHeartbeat, if_pos hafter]
    exact ih _ hafter

/-- Such a program returns exactly if no join finds a failed task. -/
theorem Joins.eval_iff {p : FraudProg α} (h : Joins p)
    (cs : Nat → List (Meanwhile U) × FraudChoice) (w : FraudWorld U) :
    (∃ a, (p.eval (heartbeatMachine env owner) cs w).1 = .ok a) ↔
      p.Meets (heartbeatMachine env owner) (JoinedWhole env owner) cs w := by
  induction h generalizing cs w with
  | done a => exact iff_of_true ⟨a, rfl⟩ trivial
  | call ho _ ih =>
    rw [Prog.eval, Prog.Meets, ih]
    exact (and_iff_right fun hcancel => absurd hcancel ho).symm
  | start _ ih =>
    rw [Prog.eval, Prog.Meets, exec_startHeartbeat, ih]
    exact (and_iff_right fun hcancel => by cases hcancel).symm
  | join _ herror ih =>
    rw [Prog.eval, Prog.Meets, exec_cancelHeartbeat]
    by_cases hbroken : (w.after env owner (cs 0).1).heartbeats owner = .broken
    · rw [if_pos hbroken]
      refine iff_of_false ?_ fun hmeets => hmeets.1 rfl hbroken
      rintro ⟨a, ha⟩
      obtain ⟨e, he⟩ := @Doomed.eval _ _ _ env owner _ herror (fun n => cs (n + 1)) _ hbroken
      rw [he] at ha
      cases ha
    · rw [if_neg hbroken, ih]
      exact (and_iff_right fun _ => hbroken).symm

end

/-! ## The handler -/

namespace FraudWorker

/-- A single call in a `try` of its own. -/
theorem joins_attempt_perform {o : FraudOp} {f : Except FraudErr o.Ret → FraudProg α}
    (ho : o ≠ .cancelHeartbeat) (hf : ∀ r, Joins (f r)) :
    Joins ((Prog.perform o).attempt >>= f) := by
  rw [Prog.attempt_perform_bind]
  exact .call ho hf

theorem joins_release (session : Option FraudSession) (decision : ConsumerDecision) :
    Joins (finish session false decision) := by
  unfold finish
  cases session with
  | none => exact .done decision
  | some session => exact joins_attempt_perform (by simp) fun _ => .done decision

/-- The `finally` with a task that is still set. -/
theorem joins_finish (session : FraudSession) (decision : ConsumerDecision) :
    Joins (finish (some session) true decision) := by
  refine .join ?_ (.fail _)
  exact joins_attempt_perform (by simp) fun _ => .done decision

theorem doomed_finish (session : FraudSession) (decision : ConsumerDecision) :
    Doomed (finish (some session) true decision) :=
  .join (.fail _)

theorem joins_retryAfterError (request : FraudScoreRequest) (reasonCode : String)
    (session : FraudSession) : Joins (retryAfterError request reasonCode session) :=
  joins_attempt_perform (by simp) fun _ => joins_release _ _

theorem joins_markAndCommit (session : FraudSession) : Joins (markAndCommit session) := by
  refine joins_attempt_perform (by simp) fun r => ?_
  cases r with
  | error e => exact joins_release _ _
  | ok session => exact joins_release _ _

theorem joins_publishOutcome (request : FraudScoreRequest) (session : FraudSession)
    (outcome : FraudOutcome) : Joins (publishOutcome request session outcome) := by
  unfold publishOutcome
  split
  · exact joins_release _ _
  · split
    · refine joins_attempt_perform (by simp) fun r => ?_
      cases r with
      | error e => exact joins_retryAfterError _ _ _
      | ok _ => exact joins_markAndCommit session
    · split
      · exact joins_release _ _
      · exact joins_attempt_perform (by simp) fun _ => joins_markAndCommit session

theorem joins_scoreSession {score : FraudProg FraudOutcome}
    (hscore : score.Only (· ≠ .cancelHeartbeat)) (request : FraudScoreRequest)
    (session : FraudSession) : Joins (scoreSession score request session) := by
  refine .start ((Joins.attempt hscore).bind fun r => ?_)
  cases r with
  | error e => exact joins_finish session .retry
  | ok outcome =>
    show Joins (cancelHeartbeat.attempt >>= _)
    unfold cancelHeartbeat
    rw [Prog.attempt_perform_bind]
    -- a task that has failed is joined again in the `finally`
    refine .join ?_ (doomed_finish session .retry)
    show Joins (if outcome.reasonCode = some "audit_failed" then _ else _)
    split
    · exact joins_retryAfterError _ _ _
    · refine joins_attempt_perform (by simp) fun r => ?_
      cases r with
      | error e => exact joins_retryAfterError _ _ _
      | ok completed => exact joins_publishOutcome _ _ _

theorem joins_handleWith {score : FraudProg FraudOutcome}
    (hscore : score.Only (· ≠ .cancelHeartbeat)) (request : FraudScoreRequest) :
    Joins (handleWith score request) := by
  unfold handleWith
  have hclaim : (FraudStore.claimSession request).Only (· ≠ FraudOp.cancelHeartbeat) :=
    (Prog.Only.perform (by simp)).bind fun _ => .perform (by simp)
  refine (Joins.attempt hclaim).bind fun r => ?_
  cases r with
  | error e => exact joins_release _ _
  | ok session =>
    dsimp only
    split
    · exact joins_publishOutcome _ _ _
    · exact joins_scoreSession hscore request session

end FraudWorker

/-! ### The calls of the graph -/

namespace FraudGraph

/-- A program that does not join the heartbeat. -/
abbrev Unjoined (p : FraudProg α) : Prop := p.Only (· ≠ FraudOp.cancelHeartbeat)

theorem unjoined_audit (session : FraudSession) (node : String)
    (fields : List (Py.Str × Py.Json)) : Unjoined (audit session node fields) :=
  .perform (by simp)

/-- A node that ends with its audit event. -/
theorem unjoined_noted {session : FraudSession} {node : String} {fields : List (Py.Str × Py.Json)}
    {a : α} : Unjoined (do audit session node fields; pure a) :=
  (unjoined_audit session node fields).bind fun _ => trivial

variable [Py.TextLib] (env : WorkerEnv) (request : FraudScoreRequest) (session : FraudSession)

theorem unjoined_judge (messages : List ChatMessage) (attempt : Int) :
    Unjoined (judge env session messages attempt) := by
  refine Prog.Only.bind unjoined_noted fun accepted => ?_
  split
  · refine Prog.Only.bind ?_ fun response => ?_
    · exact Prog.Only.bind (.perform (by simp)) fun _ => unjoined_noted
    · cases response with
      | none => trivial
      | some response =>
        show Unjoined (validate env.config session response attempt)
        unfold validate
        split
        · trivial
        · split
          · exact unjoined_noted
          · exact unjoined_noted
  · trivial

theorem unjoined_judgeTwice (facts : SanitizedTransactionFacts) :
    Unjoined (judgeTwice env session facts) := by
  refine Prog.Only.bind unjoined_noted fun messages => ?_
  refine Prog.Only.bind (unjoined_judge env session messages 1) fun r => ?_
  cases r with
  | ok outcome => trivial
  | error validation =>
    refine Prog.Only.bind unjoined_noted fun messages => ?_
    refine Prog.Only.bind (unjoined_judge env session messages 2) fun r => ?_
    cases r <;> trivial

theorem unjoined_score : Unjoined (score env request) := by
  have hcreate : Unjoined (createSession request) :=
    ((Prog.Only.perform (by simp)).bind fun _ => .perform (by simp)).bind fun _ => unjoined_noted
  have henrich (session : FraudSession) : Unjoined (enrichTransaction env.config request session) :=
    (Prog.Only.perform (by simp)).bind fun _ => unjoined_noted
  have hassess (session : FraudSession) : Unjoined (assess env request session) := by
    refine (unjoined_audit session _ _).bind fun _ => (henrich session).attempt.bind fun r => ?_
    cases r with
    | error e => trivial
    | ok facts => exact unjoined_judgeTwice env session facts
  have hinvoke : Unjoined (invoke env request) := by
    rw [invoke_eq]
    refine hcreate.bind fun session => ?_
    cases session.decided with
    | some outcome => trivial
    | none =>
      exact (hassess session).bind fun outcome => (unjoined_audit session _ _).bind fun _ =>
        (Prog.Only.perform (by simp)).bind fun _ => trivial
  refine hinvoke.attempt.bind fun r => ?_
  cases r <;> trivial

end FraudGraph

/-- Whatever fails of the claim, the scoring, the completion, the publication, the marking and the
    release, and whenever the heartbeat task runs and fails: the handler returns a decision exactly
    if no join of the task finds that it has failed. With the graph it is `_handle_request`. -/
theorem request_decided_iff [Py.TextLib] {U : Type} [DecidableEq U] (env : WorkerEnv) (owner : U)
    (request : FraudScoreRequest) :
    (FraudWorker.handleRequest env request =
        FraudWorker.handleWith (FraudGraph.score env request) request ∧
      (FraudGraph.score env request).Only (· ≠ .cancelHeartbeat)) ∧
    ∀ (score : FraudProg FraudOutcome), score.Only (· ≠ .cancelHeartbeat) →
      ∀ (cs : Nat → List (Meanwhile U) × FraudChoice) (w : FraudWorld U),
        (∃ decision, ((FraudWorker.handleWith score request).eval (heartbeatMachine env owner)
          cs w).1 = .ok decision) ↔
        (FraudWorker.handleWith score request).Meets (heartbeatMachine env owner)
          (JoinedWhole env owner) cs w :=
  ⟨⟨rfl, FraudGraph.unjoined_score env request⟩,
    fun _ hscore cs w => (FraudWorker.joins_handleWith hscore request).eval_iff cs w⟩

/-- One renewal that does not reach the database, while the graph scores. -/
theorem failed_renewal_raises :
    ((@FraudWorker.handleRequest Sample.flaggingLib Sample.scoringWorker Sample.scoreRequest).eval
      (heartbeatMachine Sample.scoringWorker ())
      (fun n => (if n = 5 then [.beat .notDelivered 0] else [], {})) {}).1 = .error .lost := by
  decide +kernel

/-- A renewal that works while the graph scores, and a completion that does not arrive. -/
theorem request_decided_renewed :
    (FraudWorker.handleWith (@FraudGraph.score Sample.flaggingLib Sample.scoringWorker
        Sample.scoreRequest) Sample.scoreRequest).Meets
      (heartbeatMachine Sample.scoringWorker ()) (JoinedWhole Sample.scoringWorker ())
      (fun n => (if n = 5 then [.beat .none 5] else [],
        { fault := if n = 11 then .notDelivered else .none })) {} :=
  ((@request_decided_iff Sample.flaggingLib Unit _ Sample.scoringWorker () Sample.scoreRequest).2
    _ (@FraudGraph.unjoined_score Sample.flaggingLib _ _) _ {}).mp ⟨.retry, by decide +kernel⟩

end EnjoyThings
