import EnjoyThings.ForStd.Discipline
import EnjoyThings.ForStd.List
import EnjoyThings.Services.PaymentProcessor

/-!
# One verdict per payment

`MarkCompleted` and `MarkFailed` write the status of an attempt whatever it is.
Two calls that overlap and hear different answers of the rail reach both verdicts
(`two_verdicts`). Such a mark over the opposite verdict is the only way: in every
interleaving without one, a verdict is kept and nothing else is announced
(`one_verdict`).

## Key results

- `handleExecute_follows`: a call announces only a verdict that it has read or stored
- `one_verdict`: calls that interleave in any order reach one verdict per payment
-/

namespace EnjoyThings

open Effect Processor

/-- The verdict an event announces. -/
def PaymentResult.verdict : PaymentResult → AttemptStatus
  | .completed _ => .completed
  | .failed _ => .failed

namespace ProcessorWorld

/-- The attempt of the payment has the status. -/
def HasStatus (w : ProcessorWorld) (paymentID : String) (status : AttemptStatus) : Prop :=
  (w.attempt? paymentID).map (·.status) = some status

instance (w : ProcessorWorld) (paymentID : String) (status : AttemptStatus) :
    Decidable (w.HasStatus paymentID status) :=
  inferInstanceAs (Decidable (_ = _))

/-- Every event announces the verdict that is stored. -/
def Agreed (w : ProcessorWorld) : Prop :=
  ∀ record ∈ w.outbox, w.HasStatus record.payload.paymentID record.payload.verdict

/-- No verdict is changed. -/
def VerdictKept (w w' : ProcessorWorld) : Prop :=
  ∀ paymentID status, status ≠ .pending → w.HasStatus paymentID status →
    w'.HasStatus paymentID status

/-- An attempt has one status. -/
theorem HasStatus.unique {w : ProcessorWorld} {paymentID : String} {status status' : AttemptStatus}
    (h : w.HasStatus paymentID status) (h' : w.HasStatus paymentID status') : status = status' :=
  Option.some.inj (h.symm.trans h')

/-- Statuses are in the table of attempts. -/
theorem HasStatus.of_attempts {w w' : ProcessorWorld} {paymentID : String} {status : AttemptStatus}
    (hw : w'.attempts = w.attempts) (h : w.HasStatus paymentID status) :
    w'.HasStatus paymentID status := by
  unfold HasStatus attempt? at h ⊢
  rwa [hw]

/-- A read finds the attempt with its status. -/
theorem getByPaymentID_ok {w : ProcessorWorld} {paymentID : String} {row : Attempt}
    (h : w.getByPaymentID paymentID = .ok row) :
    w.HasStatus paymentID row.status ∧ row.paymentID = paymentID := by
  have hrow : w.attempt? paymentID = some row := Except.ofOption_eq_ok.mp h
  refine ⟨by rw [HasStatus, hrow]; rfl, ?_⟩
  simpa using List.find?_some hrow

/-! ## What the statements do to statuses -/

/-- An insert that goes through adds a pending attempt and leaves the others. -/
theorem insertPending_ok {w w' : ProcessorWorld} {id : String} {now time : Time} {row : Attempt}
    {command : PaymentExecute} (h : w.insertPending id now command time = .ok (row, w')) :
    row.paymentID = command.paymentID ∧ row.status = .pending ∧
      w'.HasStatus command.paymentID .pending ∧ w'.outbox = w.outbox ∧
      ∀ paymentID status, w.HasStatus paymentID status → w'.HasStatus paymentID status := by
  unfold insertPending at h
  split at h
  · cases h
  split at h
  · cases h
  rename_i hnew
  cases h
  have hnone : w.attempt? command.paymentID = none := by
    rw [attempt?, List.find?_eq_none]
    intro a ha he
    exact hnew (List.any_eq_true.mpr ⟨a, ha, he⟩)
  refine ⟨rfl, rfl, ?_, rfl, fun paymentID status hstatus => ?_⟩
  · unfold HasStatus attempt? at *
    rw [List.find?_append, hnone]
    simp [newAttempt]
  · unfold HasStatus attempt? at *
    obtain ⟨a, ha, rfl⟩ := Option.map_eq_some_iff.mp hstatus
    rw [List.find?_append, ha]
    rfl

/-- An update of the row of a payment, seen from every payment. -/
theorem updateAttempt_ok {w w' : ProcessorWorld} {paymentID : String} {set : Attempt → Attempt}
    {row : Attempt} (h : w.updateAttempt paymentID set = .ok (row, w'))
    (hset : ∀ a, (set a).paymentID = a.paymentID) :
    row.paymentID = paymentID ∧ w'.outbox = w.outbox ∧
      (∃ a, w.attempt? paymentID = some a ∧ row = set a ∧ w'.attempt? paymentID = some row) ∧
      ∀ other status, other ≠ paymentID → w.HasStatus other status →
        w'.HasStatus other status := by
  unfold updateAttempt at h
  split at h
  · cases h
  rename_i a ha
  cases h
  have hid : a.paymentID = paymentID := by simpa using List.find?_some ha
  -- a lookup after the update is the lookup before it, then the update
  have hfind : ∀ p, (w.attempts.map fun a => if a.paymentID = paymentID then set a else a).find?
      (·.paymentID = p) =
        (w.attempt? p).map fun a => if a.paymentID = paymentID then set a else a := by
    intro p
    rw [List.find?_map, attempt?]
    congr 2
    funext b
    by_cases hb : b.paymentID = paymentID <;> simp [hb, hset]
  refine ⟨(hset a).trans hid, rfl, ⟨a, ha, rfl, ?_⟩, fun other status hne hstatus => ?_⟩
  · rw [attempt?, hfind, ha, Option.map_some, if_pos hid]
  · obtain ⟨b, hb, rfl⟩ := Option.map_eq_some_iff.mp hstatus
    have hother : b.paymentID = other := by simpa using List.find?_some hb
    rw [HasStatus, attempt?, hfind, hb, Option.map_some, if_neg (hother ▸ hne)]
    rfl

theorem VerdictKept.refl (w : ProcessorWorld) : w.VerdictKept w :=
  fun _ _ _ h => h

theorem VerdictKept.trans {u v w : ProcessorWorld} (h : u.VerdictKept v) (h' : v.VerdictKept w) :
    u.VerdictKept w :=
  fun paymentID status hne hu => h' paymentID status hne (h paymentID status hne hu)

/-- Events go on agreeing with verdicts that are kept. -/
theorem Agreed.of_kept {w w' : ProcessorWorld} (h : w.Agreed) (houtbox : w'.outbox = w.outbox)
    (hkept : w.VerdictKept w') : w'.Agreed := by
  intro record hrecord
  rw [houtbox] at hrecord
  refine hkept _ _ ?_ (h record hrecord)
  cases record.payload <;> simp [PaymentResult.verdict]

/-- An attempt that is marked has the status of the mark. -/
theorem mark_ok {w w' : ProcessorWorld} {paymentID : String} {set : Attempt → Attempt}
    {row : Attempt} {status : AttemptStatus} (h : w.updateAttempt paymentID set = .ok (row, w'))
    (hset : ∀ a, (set a).paymentID = a.paymentID) (hstatus : ∀ a, (set a).status = status) :
    w'.HasStatus paymentID status := by
  obtain ⟨-, -, ⟨a, -, rfl, hrow⟩, -⟩ := updateAttempt_ok h hset
  rw [HasStatus, hrow, Option.map_some, hstatus]

/-- A mark that does not go over the opposite verdict keeps all verdicts. -/
theorem mark_kept {w w' : ProcessorWorld} {paymentID : String} {set : Attempt → Attempt}
    {row : Attempt} {status opposite : AttemptStatus}
    (h : w.updateAttempt paymentID set = .ok (row, w'))
    (hset : ∀ a, (set a).paymentID = a.paymentID) (hstatus : ∀ a, (set a).status = status)
    (hverdicts : ∀ st, st = .pending ∨ st = status ∨ st = opposite)
    (hopposite : ¬ w.HasStatus paymentID opposite) : w.VerdictKept w' := by
  intro p st hne hst
  by_cases hp : p = paymentID
  · subst hp
    rcases hverdicts st with rfl | rfl | rfl
    · exact absurd rfl hne
    · exact mark_ok h hset hstatus
    · exact absurd hst hopposite
  · exact (updateAttempt_ok h hset).2.2.2 p st hp hst

/-- The start of an attempt changes no status. -/
theorem started_ok {w w' : ProcessorWorld} {paymentID : String} {attemptCount : Nat}
    {time now : Time} {row : Attempt}
    (h : w.updateAttempt paymentID (started attemptCount time now) = .ok (row, w')) :
    w'.outbox = w.outbox ∧ ∀ p st, w.HasStatus p st → w'.HasStatus p st := by
  obtain ⟨-, houtbox, ⟨a, ha, rfl, hrow⟩, hothers⟩ := updateAttempt_ok h fun _ => rfl
  refine ⟨houtbox, fun p st hst => ?_⟩
  by_cases hp : p = paymentID
  · subst hp
    rw [HasStatus, ha] at hst
    rw [HasStatus, hrow]
    exact hst
  · exact hothers p st hp hst

end ProcessorWorld

/-! ## What a call knows -/

/-- The status a call is sure of, and the payment it is about. -/
abbrev StatusKnown : Type :=
  Option (String × AttemptStatus)

/-- A verdict is announced when it is known. -/
def VerdictMove (k : StatusKnown) : ProcessorOp → Prop
  | .enqueue record => k = some (record.payload.paymentID, record.payload.verdict)
  | _ => True

/-- What an answer teaches. -/
def StatusKnown.learn (k : StatusKnown) :
    (o : ProcessorOp) → Except ProcessorErr o.Ret → StatusKnown
  | .now, _ | .charge _, _ | .sleep _, _ | .enqueue _, _ | .markAttemptStarted _ _ _, _ => k
  | .insertPending command _, .ok _ => some (command.paymentID, .pending)
  | .getByPaymentID paymentID, .ok attempt => some (paymentID, attempt.status)
  | .markCompleted paymentID _ _, .ok _ => some (paymentID, .completed)
  | .markFailed paymentID _ _, .ok _ => some (paymentID, .failed)
  | _, .error _ => none

/-- What the answers of a call have in common. -/
def AttemptAnswer : (o : ProcessorOp) → Except ProcessorErr o.Ret → Prop
  | .insertPending command _, .ok attempt =>
    attempt.paymentID = command.paymentID ∧ attempt.status = .pending
  | .getByPaymentID paymentID, .ok attempt | .markAttemptStarted paymentID _ _, .ok attempt
  | .markCompleted paymentID _ _, .ok attempt | .markFailed paymentID _ _, .ok attempt =>
    attempt.paymentID = paymentID
  | _, _ => True

/-- A call keeps to what it knows, or forgets it. -/
def verdictDiscipline : Discipline ProcessorOp ProcessorOp.Ret ProcessorErr StatusKnown where
  move k o learn := VerdictMove k o ∧ learn = k.learn o
  answer := AttemptAnswer
  le k l := l = k ∨ l = none
  le_refl _ := .inl rfl
  le_trans := by
    rintro k l m (rfl | rfl) (rfl | rfl) <;> simp

/-- The program only announces verdicts it knows. -/
abbrev KeepsVerdicts {α : Type} (p : ProcessorProg α) (k : StatusKnown) : Prop :=
  verdictDiscipline.Follows (fun _ _ => True) p k

/-- A call, and what comes after it. -/
theorem KeepsVerdicts.step {α : Type} {k : StatusKnown} {o : ProcessorOp}
    {f : o.Ret → ProcessorProg α} (hmove : VerdictMove k o)
    (h : ∀ a, AttemptAnswer o (.ok a) → KeepsVerdicts (f a) (k.learn o (.ok a))) :
    KeepsVerdicts (.perform o >>= f) k := by
  rw [Prog.perform_bind]
  exact .call ⟨hmove, rfl⟩ h fun _ => trivial

theorem KeepsVerdicts.now {α : Type} {k : StatusKnown} {f : Time → ProcessorProg α}
    (h : ∀ t, KeepsVerdicts (f t) k) : KeepsVerdicts (now >>= f) k :=
  .step trivial fun t _ => h t

theorem KeepsVerdicts.orNow {α : Type} {k : StatusKnown} {f : Time → ProcessorProg α} {t : Time}
    (h : ∀ t, KeepsVerdicts (f t) k) : KeepsVerdicts (orNow t >>= f) k := by
  unfold Processor.orNow
  split
  · exact .now h
  · exact h t

private theorem enqueue_follows {k : StatusKnown} {record : ResultRecord}
    (h : k = some (record.payload.paymentID, record.payload.verdict)) :
    KeepsVerdicts (enqueue record) k :=
  .perform ⟨h, rfl⟩ fun _ _ => trivial

private theorem publishCompleted_follows {attempt : Attempt} :
    KeepsVerdicts (publishCompleted attempt) (some (attempt.paymentID, .completed)) := by
  unfold publishCompleted
  apply KeepsVerdicts.orNow
  intro time
  apply KeepsVerdicts.now
  intro occurredAt
  exact enqueue_follows rfl

private theorem publishFailed_follows {attempt : Attempt} :
    KeepsVerdicts (publishFailed attempt) (some (attempt.paymentID, .failed)) := by
  unfold publishFailed
  apply KeepsVerdicts.orNow
  intro time
  apply KeepsVerdicts.now
  intro occurredAt
  exact enqueue_follows rfl

private theorem recordCompleted_follows {k : StatusKnown} {current : Attempt}
    {result : RailResult} : KeepsVerdicts (recordCompleted current result) k := by
  unfold recordCompleted
  apply KeepsVerdicts.orNow
  intro completedAt
  apply KeepsVerdicts.now
  intro time
  refine .step (o := .markCompleted _ _ _) trivial fun attempt hattempt => ?_
  have hid : attempt.paymentID = current.paymentID := hattempt
  show KeepsVerdicts _ (some (current.paymentID, .completed))
  rw [← hid]
  exact publishCompleted_follows

private theorem recordFailed_follows {k : StatusKnown} {current : Attempt}
    {failure : RailFailure} : KeepsVerdicts (recordFailed current failure) k := by
  unfold recordFailed
  apply KeepsVerdicts.now
  intro time
  refine .step (o := .markFailed _ _ _) trivial fun attempt hattempt => ?_
  have hid : attempt.paymentID = current.paymentID := hattempt
  show KeepsVerdicts _ (some (current.paymentID, .failed))
  rw [← hid]
  exact publishFailed_follows

/-- The loop, by induction on the passes that are left. -/
private theorem attemptFrom_follows {k : StatusKnown} {paymentID : String} (backoffs : List Nat)
    (remaining nextAttempt : Nat) :
    KeepsVerdicts (attemptFrom backoffs paymentID remaining nextAttempt) k := by
  induction remaining generalizing nextAttempt with
  | zero => exact .done trivial
  | succ remaining ih =>
    unfold attemptFrom
    apply KeepsVerdicts.now
    intro time
    refine .step (o := .markAttemptStarted _ _ _) trivial fun current _ => ?_
    refine .step (o := .charge _) trivial fun answer _ => ?_
    cases answer with
    | ok result => exact recordCompleted_follows
    | error err =>
      by_cases hretry : (classifyRailFailure err).retryable = false
      · simp only [hretry, ↓reduceIte]
        exact recordFailed_follows
      by_cases hlast : nextAttempt = backoffs.length + 1
      · simp only [hretry, hlast, ↓reduceIte]
        exact recordFailed_follows
      · simp only [hretry, hlast, ↓reduceIte]
        exact .step (o := .sleep _) trivial fun _ _ => ih (nextAttempt + 1)

/-- `CreatePending` returns an attempt whose status is known. -/
private theorem createPending_follows {k : StatusKnown} (command : PaymentExecute) (time : Time) :
    verdictDiscipline.Follows
      (fun r k => ∀ attempt, r = .ok attempt → k = some (attempt.paymentID, attempt.status))
      (createPending command time) k := by
  unfold createPending insertPending
  rw [Prog.attempt_perform_bind]
  refine ⟨k, _, .inl rfl, ⟨trivial, rfl⟩, fun r hr => ?_⟩
  match r with
  | .ok attempt =>
    refine .done fun attempt' heq => ?_
    cases heq
    rw [hr.1, hr.2]
    rfl
  | .error .notFound =>
    refine .perform ⟨trivial, rfl⟩ fun r hr attempt heq => ?_
    subst heq
    rw [show attempt.paymentID = command.paymentID from hr]
    rfl
  | .error (.invalidCommand _) | .error (.sql _) | .error .interrupted =>
    exact .fail fun attempt heq => by cases heq

/-- A call announces only a verdict that it has read or stored. -/
theorem handleExecute_follows {k : StatusKnown} (backoffs : List Nat) (command : PaymentExecute) :
    KeepsVerdicts (handleExecute backoffs command) k := by
  unfold handleExecute validateCommand
  split
  · exact .fail trivial
  refine .now fun time => (createPending_follows command time).bind (fun attempt l hl => ?_)
    fun _ _ _ => trivial
  rw [hl attempt rfl]
  cases hstatus : attempt.status with
  | completed => exact publishCompleted_follows
  | failed => exact publishFailed_follows
  | pending => exact attemptFrom_follows backoffs _ _

/-! ## What a call does -/

/-- A statement that answers has gone through. -/
theorem ProcessorOp.commit_ok {w w' : ProcessorWorld}
    {x : Except ProcessorErr (Attempt × ProcessorWorld)} {a : Attempt} :
    run.commit w x = (.ok a, w') ↔ x = .ok (a, w') := by
  cases x with
  | error e => simp [run.commit]
  | ok p => simp [run.commit, Prod.ext_iff]

private theorem ProcessorOp.commit_outcome {w : ProcessorWorld}
    (x : Except ProcessorErr (Attempt × ProcessorWorld)) :
    (∃ e, run.commit w x = (.error e, w)) ∨ ∃ a w', run.commit w x = (.ok a, w') := by
  cases x with
  | error e => exact .inl ⟨e, rfl⟩
  | ok p => exact .inr ⟨p.1, p.2, rfl⟩

/-- A call that reaches its target fails and changes nothing, or answers. -/
theorem ProcessorOp.run_outcome (c : ProcessorChoice) (o : ProcessorOp) (w : ProcessorWorld) :
    (∃ e, o.run c w = (.error e, w)) ∨ ∃ a w', o.run c w = (.ok a, w') := by
  cases o with
  | now | charge _ | sleep _ | enqueue _ => exact .inr ⟨_, _, rfl⟩
  | getByPaymentID paymentID =>
    simp only [run]
    cases w.getByPaymentID paymentID with
    | error e => exact .inl ⟨e, rfl⟩
    | ok a => exact .inr ⟨a, w, rfl⟩
  | insertPending _ _ | markAttemptStarted _ _ _ | markCompleted _ _ _ | markFailed _ _ _ =>
    exact commit_outcome _

/-- What one call can do, whatever the fault: nothing, or its effect with or without the
    answer. -/
theorem ProcessorOp.exec_outcome (c : ProcessorChoice) (o : ProcessorOp) (w : ProcessorWorld) :
    (∃ e, o.exec c w = (.error e, w)) ∨ ∃ a w', o.run c w = (.ok a, w') ∧
      (o.exec c w = (.ok a, w') ∨ ∃ e, o.exec c w = (.error e, w')) := by
  rcases o.run_outcome c w with ⟨e, he⟩ | ⟨a, w', h⟩
  · -- reading the clock and charging answer always
    cases o <;> first | cases he | skip
    all_goals cases hf : c.fault <;> simp only [exec, hf, he] <;> exact .inl ⟨_, rfl⟩
  · cases o with
    | now | charge _ => exact .inr ⟨a, w', h, .inl h⟩
    | _ =>
      cases hf : c.fault with
      | none => exact .inr ⟨a, w', h, .inl (by simp only [exec, hf, h])⟩
      | notDelivered => exact .inl ⟨.interrupted, by simp only [exec, hf]⟩
      | answerLost => exact .inr ⟨a, w', h, .inr ⟨.interrupted, by simp only [exec, hf, h]⟩⟩

/-- The answers are about the payment that was asked for. -/
theorem ProcessorOp.run_answer {c : ProcessorChoice} {o : ProcessorOp} {w w' : ProcessorWorld}
    {a : o.Ret} (h : o.run c w = (.ok a, w')) : AttemptAnswer o (.ok a) := by
  have hupdate : ∀ {paymentID : String} {set : Attempt → Attempt} {a : Attempt},
      run.commit w (w.updateAttempt paymentID set) = (.ok a, w') →
      (∀ a, (set a).paymentID = a.paymentID) → a.paymentID = paymentID :=
    fun h hset => (ProcessorWorld.updateAttempt_ok (commit_ok.mp h) hset).1
  cases o with
  | now | charge _ | sleep _ | enqueue _ => trivial
  | getByPaymentID paymentID =>
    exact (ProcessorWorld.getByPaymentID_ok (Prod.mk.inj h).1).2
  | insertPending command time =>
    have hinsert := ProcessorWorld.insertPending_ok (commit_ok.mp h)
    exact ⟨hinsert.1, hinsert.2.1⟩
  | markAttemptStarted _ _ _ | markCompleted _ _ _ | markFailed _ _ _ =>
    exact hupdate h fun _ => rfl

/-- The same whatever the fault. -/
theorem ProcessorOp.exec_answer (c : ProcessorChoice) (o : ProcessorOp) (w : ProcessorWorld) :
    AttemptAnswer o (o.exec c w).1 := by
  rcases o.exec_outcome c w with ⟨e, he⟩ | ⟨a, w', hrun, he | ⟨e, he⟩⟩
  · rw [he]
    cases o <;> trivial
  · rw [he]
    exact ProcessorOp.run_answer hrun
  · rw [he]
    cases o <;> trivial

/-- A verdict that is known is stored. -/
def StatusKnown.Holds (k : StatusKnown) (w : ProcessorWorld) : Prop :=
  ∀ x ∈ k, x.2 ≠ .pending → w.HasStatus x.1 x.2

/-- What a statement has left behind is known. -/
theorem StatusKnown.holds_some {w : ProcessorWorld} {paymentID : String} {status : AttemptStatus}
    (h : w.HasStatus paymentID status) : Holds (some (paymentID, status)) w := by
  rintro x ⟨⟩ -
  exact h

theorem StatusKnown.holds_none {w : ProcessorWorld} : Holds none w := by
  simp [Holds]

/-- Verdicts that are kept stay known. -/
theorem StatusKnown.Holds.kept {k : StatusKnown} {w w' : ProcessorWorld} (h : k.Holds w)
    (hkept : w.VerdictKept w') : k.Holds w' :=
  fun x hx hne => hkept x.1 x.2 hne (h x hx hne)

/-- An error teaches nothing. -/
theorem StatusKnown.Holds.learn_error {k : StatusKnown} {w : ProcessorWorld} {o : ProcessorOp}
    (hk : k.Holds w) (e : ProcessorErr) : (k.learn o (.error e)).Holds w := by
  cases o <;> first | exact hk | exact holds_none

/-- The call does not mark an attempt that has the opposite verdict. -/
def ProcessorWorld.Unopposed (w : ProcessorWorld) : ProcessorOp → Prop
  | .markCompleted paymentID _ _ => ¬ w.HasStatus paymentID .failed
  | .markFailed paymentID _ _ => ¬ w.HasStatus paymentID .completed
  | _ => True

instance (w : ProcessorWorld) : (o : ProcessorOp) → Decidable (w.Unopposed o)
  | .markCompleted paymentID _ _ => inferInstanceAs (Decidable (¬ w.HasStatus paymentID .failed))
  | .markFailed paymentID _ _ => inferInstanceAs (Decidable (¬ w.HasStatus paymentID .completed))
  | .now | .insertPending _ _ | .getByPaymentID _ | .markAttemptStarted _ _ _ | .charge _
  | .sleep _ | .enqueue _ => .isTrue trivial

/-- An unopposed call keeps the verdicts. -/
theorem ProcessorWorld.Unopposed.kept {c : ProcessorChoice} {o : ProcessorOp}
    {w w' : ProcessorWorld} {a : o.Ret} (hallow : w.Unopposed o)
    (h : o.run c w = (.ok a, w')) : w.VerdictKept w' := by
  cases o with
  | now | charge _ | sleep _ =>
    cases h
    exact .refl w
  | getByPaymentID paymentID =>
    obtain ⟨-, rfl⟩ := Prod.mk.inj h
    exact .refl w
  | insertPending command time =>
    have hinsert := ProcessorWorld.insertPending_ok (ProcessorOp.commit_ok.mp h)
    exact fun p st _ hst => hinsert.2.2.2.2 p st hst
  | markAttemptStarted paymentID attemptCount time =>
    have hstarted := ProcessorWorld.started_ok (ProcessorOp.commit_ok.mp h)
    exact fun p st _ hst => hstarted.2 p st hst
  | markCompleted paymentID result time =>
    exact ProcessorWorld.mark_kept (ProcessorOp.commit_ok.mp h) (fun _ => rfl) (fun _ => rfl)
      (fun st => by cases st <;> simp) hallow
  | markFailed paymentID failure time =>
    exact ProcessorWorld.mark_kept (ProcessorOp.commit_ok.mp h) (fun _ => rfl) (fun _ => rfl)
      (fun st => by cases st <;> simp) hallow
  | enqueue record =>
    cases h
    exact fun p st _ hst => hst.of_attempts rfl

/-- A call that keeps the verdicts keeps events in agreement with them, if the one it enqueues
    agrees. -/
theorem ProcessorWorld.Agreed.run {c : ProcessorChoice} {o : ProcessorOp} {w w' : ProcessorWorld}
    {a : o.Ret} (hi : w.Agreed) (hkept : w.VerdictKept w') (h : o.run c w = (.ok a, w'))
    (hnew : ∀ record, o = .enqueue record →
      w.HasStatus record.payload.paymentID record.payload.verdict) : w'.Agreed := by
  cases o with
  | now | charge _ | sleep _ | getByPaymentID _ =>
    obtain ⟨-, rfl⟩ := Prod.mk.inj h
    exact hi
  | insertPending command time =>
    exact hi.of_kept (ProcessorWorld.insertPending_ok (ProcessorOp.commit_ok.mp h)).2.2.2.1 hkept
  | markAttemptStarted _ _ _ | markCompleted _ _ _ | markFailed _ _ _ =>
    have hupdate := ProcessorWorld.updateAttempt_ok (ProcessorOp.commit_ok.mp h) fun _ => rfl
    exact hi.of_kept hupdate.2.1 hkept
  | enqueue record =>
    cases h
    intro r hr
    rcases List.mem_concat_iff.mp hr with hr | rfl
    · exact (hi r hr).of_attempts rfl
    · exact (hnew r rfl).of_attempts rfl

/-- The verdict of an event is the one the call knows. -/
theorem VerdictMove.announced {k : StatusKnown} {w : ProcessorWorld} {record : ResultRecord}
    (hmove : VerdictMove k (.enqueue record)) (hk : k.Holds w) :
    w.HasStatus record.payload.paymentID record.payload.verdict := by
  refine hk _ hmove ?_
  cases record.payload <;> simp [PaymentResult.verdict]

/-- What a call teaches holds after it, whether or not the answer arrives. -/
theorem StatusKnown.Holds.learn {c : ProcessorChoice} {o : ProcessorOp} {w w' : ProcessorWorld}
    {k : StatusKnown} {a : o.Ret} (hk : k.Holds w') (h : o.run c w = (.ok a, w')) :
    (k.learn o (.ok a)).Holds w' := by
  cases o with
  | now | charge _ | sleep _ | enqueue _ | markAttemptStarted _ _ _ => exact hk
  | getByPaymentID paymentID =>
    obtain ⟨ha, rfl⟩ := Prod.mk.inj h
    exact holds_some (ProcessorWorld.getByPaymentID_ok ha).1
  | insertPending command time =>
    exact holds_some (ProcessorWorld.insertPending_ok (ProcessorOp.commit_ok.mp h)).2.2.1
  | markCompleted _ _ _ | markFailed _ _ _ =>
    exact holds_some (ProcessorWorld.mark_ok (ProcessorOp.commit_ok.mp h) (fun _ => rfl)
      fun _ => rfl)

/-! ## Calls that interleave -/

/-- Every call keeps the verdicts and relies on the others for the same, as long as none marks
    an attempt that has the opposite one. -/
def verdictContract : Contract processorMachine where
  allow _ o w _ := w.Unopposed o
  inv := ProcessorWorld.Agreed
  rely := ProcessorWorld.VerdictKept
  guar := ProcessorWorld.VerdictKept
  rely_refl := .refl
  rely_trans := .trans

theorem verdictDiscipline_sound :
    verdictDiscipline.Sound verdictContract fun k _ w => StatusKnown.Holds k w where
  mono hle hk := by
    rcases hle with rfl | rfl
    · exact hk
    · exact StatusKnown.holds_none
  stable hk hrely _ := hk.kept hrely
  answers c o w := o.exec_answer c w
  step {k o learn _ w c} hmove hi hk hallow := by
    obtain ⟨hmove, rfl⟩ := hmove
    show ((o.exec c w).2).Agreed ∧ w.VerdictKept (o.exec c w).2 ∧
      (k.learn o (o.exec c w).1).Holds (o.exec c w).2
    rcases o.exec_outcome c w with ⟨e, he⟩ | ⟨a, w', hrun, he⟩
    · rw [he]
      exact ⟨hi, .refl w, hk.learn_error e⟩
    · have hkept := hallow.kept hrun
      have hagreed := hi.run hkept hrun fun record ho => by
        subst ho
        exact VerdictMove.announced hmove hk
      rcases he with he | ⟨e, he⟩
      · rw [he]
        exact ⟨hagreed, hkept, (hk.kept hkept).learn hrun⟩
      · rw [he]
        exact ⟨hagreed, hkept, (hk.kept hkept).learn_error e⟩

/-- The tables after an interleaving of calls. -/
def executeInterleaved (backoffs : List Nat) (w : ProcessorWorld)
    (acts : List (Act PaymentExecute ProcessorChoice)) : ProcessorWorld :=
  ((Pool.idle w).run processorMachine (handleExecute backoffs) () acts).world

/-- No step of the run marks an attempt that has the opposite verdict by then. -/
def NoOpposedMark (backoffs : List Nat) (w : ProcessorWorld)
    (acts : List (Act PaymentExecute ProcessorChoice)) : Prop :=
  (Pool.idle w).Obeys verdictContract (handleExecute backoffs) () (fun _ => True) acts

instance (backoffs : List Nat) (w : ProcessorWorld)
    (acts : List (Act PaymentExecute ProcessorChoice)) :
    Decidable (NoOpposedMark backoffs w acts) :=
  have : ∀ g o w c, Decidable (verdictContract.allow g o w c) := fun _ o w _ =>
    inferInstanceAs (Decidable (w.Unopposed o))
  inferInstanceAs (Decidable (Pool.Obeys ..))

/-- Calls that interleave in any order and may stop anywhere reach one verdict per payment, if
    none marks an attempt over the opposite verdict: from any point of the run to any later one
    no verdict changes, and the two results are never both enqueued. -/
theorem one_verdict {backoffs : List Nat} {w : ProcessorWorld} (hw : w.outbox = [])
    {before after : List (Act PaymentExecute ProcessorChoice)}
    (hacts : NoOpposedMark backoffs w (before ++ after)) (paymentID : String) :
    (∀ status, status ≠ .pending →
      (executeInterleaved backoffs w before).HasStatus paymentID status →
      (executeInterleaved backoffs w (before ++ after)).HasStatus paymentID status) ∧
    ∀ record ∈ (executeInterleaved backoffs w (before ++ after)).outbox,
      ∀ record' ∈ (executeInterleaved backoffs w (before ++ after)).outbox,
        record.payload.paymentID = record'.payload.paymentID →
          record.payload.verdict = record'.payload.verdict := by
  have hagreed : w.Agreed := by
    intro record hrecord
    rw [hw] at hrecord
    cases hrecord
  have hsafe : ∀ command w, True → verdictContract.inv w →
      verdictContract.Safe (handleExecute backoffs command) () w := fun command w _ _ =>
    ((handleExecute_follows backoffs command).holds verdictDiscipline_sound
      StatusKnown.holds_none).safe
  constructor
  · intro status hne hstatus
    obtain ⟨hbefore, hafter⟩ := Pool.Obeys.split hacts
    have hidle : (Pool.idle w).Sound verdictContract := ⟨hagreed, fun _ ht => by cases ht⟩
    have hpool := Pool.Sound.run (fun _ hkept => hkept) hsafe hidle hbefore
    have hkept := Pool.run_guar ProcessorWorld.VerdictKept.refl ProcessorWorld.VerdictKept.trans
      (fun _ hkept => hkept) hsafe hpool hafter
    rw [executeInterleaved, Pool.run_append]
    exact hkept paymentID status hne hstatus
  · intro record hrecord record' hrecord' hsame
    have hi : (executeInterleaved backoffs w (before ++ after)).Agreed :=
      Pool.run_inv (fun _ hkept => hkept) hsafe hagreed hacts
    have hstatus := hi record hrecord
    rw [hsame] at hstatus
    exact hstatus.unique (hi record' hrecord')

namespace Sample

def executeCommand : PaymentExecute :=
  { eventID := "payment.execute:payment-1", paymentID := "payment-1", idempotencyKey := "key-1"
    traceID := "trace-1", fromWalletID := "wallet-1", toWalletID := "wallet-2"
    amountCents := 300, currency := "USD", ledgerReservationID := "reservation-1"
    walletDebitID := "debit-1", occurredAt := 1000 }

def backoffs : List Nat := [1000000000, 3000000000, 9000000000]

/-- The `n`-th call of a run in which only the rail's answer is open. -/
def processorChoice (rail : Except RailErr RailResult) (n : Nat) : ProcessorChoice :=
  { fault := .none, clock := 1000 * (n + 2), id := "attempt-1", dbNow := 1000 * (n + 2)
    rail := rail }

def charged : Except RailErr RailResult :=
  .ok { processorPaymentID := "rail-1", completedAt := 2000 }

def declined : Except RailErr RailResult :=
  .error (.railError { code := "declined", message := "declined by the rail", retryable := false })

/-- The choices of `count` calls with the same answer of the rail. -/
def processorChoices (rail : Except RailErr RailResult) (count : Nat) : List ProcessorChoice :=
  (List.range count).map (processorChoice rail)

/-- Two deliveries of one command that both read the pending attempt. -/
def bothPending : List (Act PaymentExecute ProcessorChoice) :=
  [.start executeCommand, .start executeCommand] ++
    (processorChoices charged 2).map (.step 0) ++ (processorChoices declined 3).map (.step 1)

/-- The rail takes the charge of the first delivery, whose call runs to its end. -/
def chargedFirst : List (Act PaymentExecute ProcessorChoice) :=
  bothPending ++ (processorChoices charged 7).map (.step 0)

end Sample

/-- Two overlapping deliveries whose charges both go through: the attempt stays completed. -/
theorem one_verdict_charged_twice :
    (executeInterleaved Sample.backoffs {} Sample.chargedFirst).HasStatus "payment-1" .completed ∧
      (executeInterleaved Sample.backoffs {} (Sample.chargedFirst ++
        (Sample.processorChoices Sample.charged 7).map (.step 1))).HasStatus
          "payment-1" .completed := by
  have hcompleted : (executeInterleaved Sample.backoffs {} Sample.chargedFirst).HasStatus
      "payment-1" .completed := by decide +kernel
  have hacts : NoOpposedMark Sample.backoffs {} (Sample.chargedFirst ++
      (Sample.processorChoices Sample.charged 7).map (.step 1)) := by decide +kernel
  exact ⟨hcompleted, (one_verdict rfl hacts "payment-1").1 .completed (by decide) hcompleted⟩

/-- Two overlapping deliveries: the second one's charge is declined, so the completed attempt
    becomes a failed one and both results are enqueued. -/
theorem two_verdicts :
    (executeInterleaved Sample.backoffs {} Sample.chargedFirst).HasStatus "payment-1" .completed ∧
      (executeInterleaved Sample.backoffs {} (Sample.chargedFirst ++
        (Sample.processorChoices Sample.declined 7).map (.step 1))).HasStatus
          "payment-1" .failed ∧
      (executeInterleaved Sample.backoffs {} (Sample.chargedFirst ++
        (Sample.processorChoices Sample.declined 7).map (.step 1))).outbox.map
          (fun record => (record.topic, record.partitionKey)) =
        [("payment.completed", "payment-1"), ("payment.failed", "payment-1")] := by
  decide +kernel

end EnjoyThings
