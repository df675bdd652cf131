import EnjoyThings.Services.HttpRail
import EnjoyThings.Spec.ProcessorVerdict

/-!
# The retry loop of the payment processor

`processPending` charges with the number of the attempt that it stores first, so that a
call which crashes leaves the number of its last charge behind, and the next one goes on
from there. `Held` is what a call knows about its payment from one statement to the next,
`chargeDiscipline` says what it does with which knowledge, and `RailWorld.Exact` is what
every history of calls keeps, wherever they stop.

## Key results

- `handleExecute_charges`: a call charges what it has read as pending, as it has read it
- `chargeDiscipline_sound`: what a call knows is so, and every call keeps `Exact`
-/

namespace EnjoyThings

open Effect Processor

/-- The charge that the fields of a command ask for. -/
def PaymentExecute.chargeRequest (command : PaymentExecute) : RailChargeRequest :=
  { paymentID := command.paymentID, idempotencyKey := command.idempotencyKey
    traceID := command.traceID, amountCents := command.amountCents, currency := command.currency
    ledgerReservationID := command.ledgerReservationID
    walletDebitID := command.walletDebitID }

/-- The topic of a verdict. -/
def AttemptStatus.topic : AttemptStatus → String
  | .completed => topicPaymentCompleted
  | .failed | .pending => topicPaymentFailed

/-! ## What a call knows -/

/-- What a call knows about its payment. -/
inductive Held
  | nothing
  | status (paymentID : String) (status : AttemptStatus)
  | started (row : Attempt)
  | answered (paymentID : String) (answer : Except RailErr RailResult)
  | announced (paymentID : String) (status : AttemptStatus)

namespace Held

/-- The calls, with at most `limit` attempts. -/
def Move (limit : Nat) (k : Held) : ProcessorOp → Prop
  | .markAttemptStarted paymentID n _ => 1 ≤ n ∧ n ≤ limit ∧
      (k = .status paymentID .pending ∨ ∃ e, k = .answered paymentID (.error e))
  | .charge request => ∃ row, k = .started row ∧ request = chargeRequest row
  | .markCompleted paymentID _ _ => ∃ result, k = .answered paymentID (.ok result)
  | .markFailed paymentID _ _ => ∃ e, k = .answered paymentID (.error e)
  | .enqueue record => k = .status record.payload.paymentID record.payload.verdict ∧
      record.topic = record.payload.verdict.topic
  | _ => True

/-- What an answer teaches. -/
def learn (k : Held) : (o : ProcessorOp) → Except ProcessorErr o.Ret → Held
  | .now, _ | .sleep _, _ => k
  | .insertPending command _, .ok _ => .status command.paymentID .pending
  | .getByPaymentID paymentID, .ok row => .status paymentID row.status
  | .markAttemptStarted _ _ _, .ok row => .started row
  | .charge request, .ok answer => .answered request.paymentID answer
  | .markCompleted paymentID _ _, .ok _ => .status paymentID .completed
  | .markFailed paymentID _ _, .ok _ => .status paymentID .failed
  | .enqueue record, .ok _ => .announced record.payload.paymentID record.payload.verdict
  | _, .error _ => .nothing

end Held

def chargeDiscipline (limit : Nat) : Discipline ProcessorOp ProcessorOp.Ret ProcessorErr Held where
  move k o learn := k.Move limit o ∧ learn = k.learn o
  answer := AttemptAnswer
  le k l := l = k
  le_refl _ := rfl
  le_trans := by
    rintro k _ _ rfl rfl
    rfl

variable {paymentID : String}

section Follows

variable {limit : Nat} {k : Held} {α : Type} {post : Except ProcessorErr α → Held → Prop}

/-- One call, and what comes after it. The postcondition has nothing to say about errors. -/
theorem chargeDiscipline_step {o : ProcessorOp} {f : o.Ret → ProcessorProg α}
    (herr : ∀ e l, post (.error e) l) (hmove : k.Move limit o)
    (h : ∀ a, AttemptAnswer o (.ok a) →
      (chargeDiscipline limit).Follows post (f a) (k.learn o (.ok a))) :
    (chargeDiscipline limit).Follows post (.perform o >>= f) k := by
  rw [Prog.perform_bind]
  exact .call ⟨hmove, rfl⟩ h fun e => herr e _

theorem chargeDiscipline_orNow {t : Time} {f : Time → ProcessorProg α}
    (herr : ∀ e l, post (.error e) l)
    (h : ∀ t, (chargeDiscipline limit).Follows post (f t) k) :
    (chargeDiscipline limit).Follows post (orNow t >>= f) k := by
  unfold Processor.orNow
  split
  · exact chargeDiscipline_step (o := .now) herr trivial fun t _ => h t
  · exact h t

/-- A call that returns has announced a verdict. -/
def Announces (paymentID : String) (r : Except ProcessorErr Unit) (l : Held) : Prop :=
  r = .ok () → ∃ status, status ≠ .pending ∧ l = .announced paymentID status

theorem Announces.error (e : ProcessorErr) (l : Held) :
    Announces paymentID (.error e) l := by
  simp [Announces]

theorem publishCompleted_charges {attempt : Attempt} :
    (chargeDiscipline limit).Follows (Announces attempt.paymentID) (publishCompleted attempt)
      (.status attempt.paymentID .completed) := by
  unfold publishCompleted
  refine chargeDiscipline_orNow .error fun completedAt => ?_
  refine chargeDiscipline_step (o := .now) .error trivial fun occurredAt _ => ?_
  refine Discipline.Follows.perform (D := chargeDiscipline limit) ⟨⟨rfl, rfl⟩, rfl⟩ ?_
  rintro _ - rfl
  exact ⟨.completed, by decide, rfl⟩

theorem publishFailed_charges {attempt : Attempt} :
    (chargeDiscipline limit).Follows (Announces attempt.paymentID) (publishFailed attempt)
      (.status attempt.paymentID .failed) := by
  unfold publishFailed
  refine chargeDiscipline_orNow .error fun failedAt => ?_
  refine chargeDiscipline_step (o := .now) .error trivial fun occurredAt _ => ?_
  refine Discipline.Follows.perform (D := chargeDiscipline limit) ⟨⟨rfl, rfl⟩, rfl⟩ ?_
  rintro _ - rfl
  exact ⟨.failed, by decide, rfl⟩

theorem recordCompleted_charges {current : Attempt} {result result' : RailResult} :
    (chargeDiscipline limit).Follows (Announces current.paymentID) (recordCompleted current result)
      (.answered current.paymentID (.ok result')) := by
  unfold recordCompleted
  refine chargeDiscipline_orNow .error fun completedAt => ?_
  refine chargeDiscipline_step (o := .now) .error trivial fun time _ => ?_
  refine chargeDiscipline_step (o := .markCompleted _ _ _) .error ⟨_, rfl⟩ fun row hrow => ?_
  show (chargeDiscipline limit).Follows _ _ (.status current.paymentID .completed)
  rw [← (show row.paymentID = current.paymentID from hrow)]
  exact publishCompleted_charges

theorem recordFailed_charges {current : Attempt} {failure : RailFailure} {e : RailErr} :
    (chargeDiscipline limit).Follows (Announces current.paymentID) (recordFailed current failure)
      (.answered current.paymentID (.error e)) := by
  unfold recordFailed
  refine chargeDiscipline_step (o := .now) .error trivial fun time _ => ?_
  refine chargeDiscipline_step (o := .markFailed _ _ _) .error ⟨_, rfl⟩ fun row hrow => ?_
  show (chargeDiscipline limit).Follows _ _ (.status current.paymentID .failed)
  rw [← (show row.paymentID = current.paymentID from hrow)]
  exact publishFailed_charges

/-- By induction on the passes that are left. A pass begins with a pending attempt or with a
    charge that is to be tried again, and the last one does not come back here. -/
theorem attemptFrom_charges (backoffs : List Nat) {remaining next : Nat} (hpos : 1 ≤ next)
    (hremaining : next + remaining = backoffs.length + 2) (hnext : next ≤ backoffs.length + 1)
    (hk : k = .status paymentID .pending ∨ ∃ e, k = .answered paymentID (.error e)) :
    (chargeDiscipline (backoffs.length + 1)).Follows (Announces paymentID)
      (attemptFrom backoffs paymentID remaining next) k := by
  induction remaining generalizing next k with
  | zero => omega
  | succ remaining ih =>
    unfold attemptFrom
    refine chargeDiscipline_step (o := .now) .error trivial fun time _ => ?_
    refine chargeDiscipline_step (o := .markAttemptStarted _ _ _) .error ⟨hpos, hnext, hk⟩
      fun current hcurrent => ?_
    have hid : current.paymentID = paymentID := hcurrent
    refine chargeDiscipline_step (o := .charge _) .error ⟨current, rfl, rfl⟩ fun answer _ => ?_
    show (chargeDiscipline _).Follows _ _ (.answered current.paymentID answer)
    cases answer with
    | ok result => exact hid ▸ recordCompleted_charges
    | error e =>
      by_cases hretry : (classifyRailFailure e).retryable = false
      · simp only [hretry, ↓reduceIte]
        exact hid ▸ recordFailed_charges
      by_cases hlast : next = backoffs.length + 1
      · simp only [hretry, hlast, ↓reduceIte]
        exact hid ▸ recordFailed_charges
      · simp only [hretry, hlast, ↓reduceIte]
        refine chargeDiscipline_step (o := .sleep _) .error trivial fun _ _ => ?_
        exact ih (by omega) (by omega) (by omega) (.inr ⟨e, by rw [← hid]; rfl⟩)

/-- The row that `CreatePending` returns is known. -/
theorem createPending_charges (command : PaymentExecute) (time : Time) :
    (chargeDiscipline limit).Follows
      (fun r l => ∀ row, r = .ok row → l = .status command.paymentID row.status ∧
        row.paymentID = command.paymentID) (createPending command time) k := by
  unfold createPending insertPending
  rw [Prog.attempt_perform_bind]
  refine ⟨k, _, rfl, ⟨trivial, rfl⟩, fun r hr => ?_⟩
  match r with
  | .ok row =>
    refine .done fun row' heq => ?_
    cases heq
    rw [hr.2]
    exact ⟨rfl, hr.1⟩
  | .error .notFound =>
    refine Discipline.Follows.perform (D := chargeDiscipline limit) ⟨trivial, rfl⟩ ?_
    rintro _ hr row rfl
    exact ⟨rfl, hr⟩
  | .error (.invalidCommand _) | .error (.sql _) | .error .interrupted => exact .fail (by simp)

/-- A call charges what it has read as pending, as it has read it. -/
theorem handleExecute_charges (backoffs : List Nat) (command : PaymentExecute) :
    (chargeDiscipline (backoffs.length + 1)).Follows (Announces command.paymentID)
      (handleExecute backoffs command) k := by
  unfold handleExecute validateCommand
  split
  · exact .fail (.error _ _)
  refine chargeDiscipline_step (o := .now) .error trivial fun time _ => ?_
  refine (createPending_charges command time).bind (fun row l hl => ?_) fun e l _ => .error e l
  obtain ⟨rfl, hid⟩ := hl row rfl
  rw [← hid]
  cases hstatus : row.status with
  | completed => exact publishCompleted_charges
  | failed => exact publishFailed_charges
  | pending =>
    apply attemptFrom_charges backoffs _ _ _ (.inl rfl) <;> omega

end Follows

/-! ## What the statements do to the rows -/

namespace ProcessorWorld

variable {w w' : ProcessorWorld} {row : Attempt}

/-- An insert that goes through adds the row of a payment that had none. -/
theorem insertPending_rows {id : String} {now time : Time} {command : PaymentExecute}
    (h : w.insertPending id now command time = .ok (row, w')) :
    row = newAttempt id now command time ∧ w'.attempts = w.attempts ++ [row] ∧
      w.attempt? command.paymentID = none := by
  unfold insertPending at h
  split at h
  · cases h
  split at h
  · cases h
  rename_i hnew
  cases h
  refine ⟨rfl, rfl, ?_⟩
  rw [attempt?, List.find?_eq_none]
  intro a ha he
  exact hnew (List.any_eq_true.mpr ⟨a, ha, he⟩)

/-- A row after an update is a row from before it, changed if it is the payment's. -/
theorem mem_updateAttempt {set : Attempt → Attempt}
    (h : w.updateAttempt paymentID set = .ok (row, w')) {r' : Attempt} (hr' : r' ∈ w'.attempts) :
    ∃ r ∈ w.attempts, r' = r ∨ r' = set r := by
  unfold updateAttempt at h
  split at h
  · cases h
  cases h
  obtain ⟨r, hr, rfl⟩ := List.mem_map.mp hr'
  refine ⟨r, hr, ?_⟩
  split
  · exact .inr rfl
  · exact .inl rfl

theorem HasStatus.isSome {status : AttemptStatus} (h : w.HasStatus paymentID status) :
    (w.attempt? paymentID).isSome := by
  obtain ⟨a, ha, -⟩ := Option.map_eq_some_iff.mp h
  simp [ha]

theorem attempt?_isSome_iff :
    (w.attempt? paymentID).isSome ↔ ∃ status, w.HasStatus paymentID status := by
  constructor
  · intro h
    obtain ⟨a, ha⟩ := Option.isSome_iff_exists.mp h
    exact ⟨a.status, by simp [HasStatus, ha]⟩
  · rintro ⟨status, h⟩
    exact h.isSome

end ProcessorWorld

/-! ## What every history of calls keeps -/

namespace RailWorld

variable {A : Type}

/-- The first command that was accepted for the payment. -/
def first (w : RailWorld A) (paymentID : String) : Option PaymentExecute :=
  w.accepted.find? (·.paymentID = paymentID)

/-- The request is for what the first command asked for. -/
def Asked (w : RailWorld A) (request : RailChargeRequest) : Prop :=
  ∃ command, w.first request.paymentID = some command ∧ request = command.chargeRequest

/-- A charge of a pending attempt, with the number of the attempt. -/
structure Charged (limit : Nat) (w : RailWorld A) (charge : Charge A) : Prop where
  asked : w.Asked charge.request
  stored : ∃ row, charge.row = some row ∧ row.status = .pending ∧ 1 ≤ row.attemptCount ∧
    row.attemptCount ≤ limit

structure Exact (limit : Nat) (w : RailWorld A) : Prop where
  counts : ∀ row ∈ w.tables.attempts, row.attemptCount ≤ limit
  rows : ∀ row ∈ w.tables.attempts, w.Asked (chargeRequest row)
  accepted : ∀ command ∈ w.accepted, (w.tables.attempt? command.paymentID).isSome
  charges : ∀ charge ∈ w.charges, w.Charged limit charge

/-- A payment with a verdict keeps it, and is not charged any more. -/
def Settled (w w' : RailWorld A) : Prop :=
  ∀ paymentID status, status ≠ .pending → w.tables.HasStatus paymentID status →
    w'.tables.HasStatus paymentID status ∧
      w'.charges.filter (·.request.paymentID = paymentID) =
        w.charges.filter (·.request.paymentID = paymentID)

variable {limit : Nat} {w w' w'' : RailWorld A}

theorem Settled.refl (w : RailWorld A) : w.Settled w :=
  fun _ _ _ h => ⟨h, rfl⟩

theorem Settled.trans (h : w.Settled w') (h' : w'.Settled w'') : w.Settled w'' := by
  intro paymentID status hne hstatus
  obtain ⟨hstatus', hcharges⟩ := h paymentID status hne hstatus
  obtain ⟨hstatus'', hcharges'⟩ := h' paymentID status hne hstatus'
  exact ⟨hstatus'', hcharges'.trans hcharges⟩

variable {more : List PaymentExecute}

/-- The first command stays the first when others come after it. -/
theorem Asked.grow {request : RailChargeRequest} (h : w.Asked request)
    (hmore : w'.accepted = w.accepted ++ more) : w'.Asked request := by
  obtain ⟨command, hfirst, hrequest⟩ := h
  refine ⟨command, ?_, hrequest⟩
  unfold first at hfirst ⊢
  rw [hmore, List.find?_append, hfirst]
  rfl

theorem Charged.grow {charge : Charge A} (h : w.Charged limit charge)
    (hmore : w'.accepted = w.accepted ++ more) :
    w'.Charged limit charge :=
  ⟨h.asked.grow hmore, h.stored⟩

/-- A step that adds commands for payments with a row, and keeps the payments that have one. -/
theorem Exact.step (h : w.Exact limit) {new : List (Charge A)}
    (haccepted : w'.accepted = w.accepted ++ more) (hcharges : w'.charges = w.charges ++ new)
    (hmore : ∀ command ∈ more, (w'.tables.attempt? command.paymentID).isSome)
    (hkept : ∀ paymentID, (w.tables.attempt? paymentID).isSome →
      (w'.tables.attempt? paymentID).isSome)
    (hrows : ∀ row' ∈ w'.tables.attempts, row'.attemptCount ≤ limit ∧
      ((∃ row ∈ w.tables.attempts, chargeRequest row' = chargeRequest row) ∨
        w'.Asked (chargeRequest row'))) (hnew : ∀ charge ∈ new, w'.Charged limit charge) :
    w'.Exact limit := by
  refine ⟨fun row' hrow' => (hrows row' hrow').1, fun row' hrow' => ?_, ?_, ?_⟩
  · cases (hrows row' hrow').2 with
    | inl hold =>
      obtain ⟨row, hrow, heq⟩ := hold
      rw [heq]
      exact (h.rows row hrow).grow haccepted
    | inr hasked => exact hasked
  · intro command hcommand
    rw [haccepted] at hcommand
    cases List.mem_append.mp hcommand with
    | inl hold => exact hkept _ (h.accepted command hold)
    | inr hadded => exact hmore command hadded
  · intro charge hcharge
    rw [hcharges] at hcharge
    cases List.mem_append.mp hcharge with
    | inl hold => exact (h.charges charge hold).grow haccepted
    | inr hadded => exact hnew charge hadded

end RailWorld

/-! ## What a call does -/

section Calls

variable {A : Type} {read : A → Except RailErr RailResult} {limit : Nat} {k : Held}
  {w : RailWorld A} {tables : ProcessorWorld} {c : RailChoice A} {o : ProcessorOp}

variable (read) in
/-- What is known holds. -/
def Held.Holds (w : RailWorld A) : Held → Prop
  | .nothing => True
  | .status paymentID verdict => w.tables.HasStatus paymentID verdict
  | .started row => w.tables.attempt? row.paymentID = some row ∧ row.status = .pending ∧
      1 ≤ row.attemptCount
  | .answered paymentID answer => w.tables.HasStatus paymentID .pending ∧
      ∃ before charge, w.charges = before ++ [charge] ∧ charge.request.paymentID = paymentID ∧
        read charge.answer = answer
  | .announced paymentID verdict => w.tables.HasStatus paymentID verdict ∧
      ∃ record ∈ w.tables.outbox, record.payload.paymentID = paymentID ∧
        record.payload.verdict = verdict ∧ record.topic = verdict.topic

/-- The world after a call that leaves the tables behind. -/
def RailWorld.after (w : RailWorld A) (tables : ProcessorWorld) (answer : A) (o : ProcessorOp) :
    RailWorld A :=
  { tables := tables
    accepted := w.accepted ++ RailWorld.accepting tables o
    charges := w.charges ++ RailWorld.charging w.tables answer o }

theorem railMachine_exec (c : RailChoice A) (o : ProcessorOp) (w : RailWorld A) :
    (railMachine read).exec c o w = ((o.exec (c.seen read) w.tables).1,
      w.after (o.exec (c.seen read) w.tables).2 c.answer o) :=
  rfl

/-- A command that is accepted has a row. -/
theorem RailWorld.accepting_isSome {command : PaymentExecute}
    (h : command ∈ RailWorld.accepting tables o) :
    (tables.attempt? command.paymentID).isSome := by
  cases o with
  | insertPending command' time =>
    simp only [RailWorld.accepting] at h
    by_cases hsome : (tables.attempt? command'.paymentID).isSome
    · rw [if_pos hsome] at h
      cases List.mem_singleton.mp h
      exact hsome
    · rw [if_neg hsome] at h
      cases h
  | _ => cases h

variable {answer : A}

/-- A step that makes no charge and leaves every payment and every row as they are, or gives them
    another status. -/
theorem RailWorld.Exact.uncharged (h : w.Exact limit)
    (ho : RailWorld.charging w.tables answer o = [])
    (hkept : ∀ paymentID, (w.tables.attempt? paymentID).isSome →
      (tables.attempt? paymentID).isSome)
    (hrows : ∀ row' ∈ tables.attempts, row'.attemptCount ≤ limit ∧
      ((∃ row ∈ w.tables.attempts, chargeRequest row' = chargeRequest row) ∨
        (w.after tables answer o).Asked (chargeRequest row'))) :
    (w.after tables answer o).Exact limit :=
  h.step rfl (congrArg (w.charges ++ ·) ho) (fun _ => accepting_isSome) hkept hrows (by simp)

/-- Nothing is charged when nothing changes. -/
theorem RailWorld.after_unchanged (h : w.Exact limit)
    (ho : RailWorld.charging w.tables answer o = []) (hrows : tables.attempts = w.tables.attempts) :
    (w.after tables answer o).Exact limit ∧ w.Settled (w.after tables answer o) := by
  have hattempt : ∀ paymentID, tables.attempt? paymentID = w.tables.attempt? paymentID := by
    intro paymentID
    rw [ProcessorWorld.attempt?, hrows, ProcessorWorld.attempt?]
  refine ⟨h.uncharged ho (fun paymentID => by rw [hattempt]; exact id) fun row' hrow' => ?_, ?_⟩
  · rw [hrows] at hrow'
    exact ⟨h.counts row' hrow', .inl ⟨row', hrow', rfl⟩⟩
  · intro paymentID status _ hstatus
    refine ⟨hstatus.of_attempts hrows, ?_⟩
    simp [RailWorld.after, ho]

/-- An update of the row of a payment that is pending. -/
theorem RailWorld.after_update (h : w.Exact limit) {set : Attempt → Attempt} {row : Attempt}
    (ho : RailWorld.charging w.tables answer o = [])
    (hupdate : w.tables.updateAttempt paymentID set = .ok (row, tables))
    (hpending : w.tables.HasStatus paymentID .pending)
    (hrequest : ∀ a, chargeRequest (set a) = chargeRequest a)
    (hcount : ∀ a, a.attemptCount ≤ limit → (set a).attemptCount ≤ limit) :
    (w.after tables answer o).Exact limit ∧ w.Settled (w.after tables answer o) := by
  have hset : ∀ a, (set a).paymentID = a.paymentID := fun a =>
    congrArg RailChargeRequest.paymentID (hrequest a)
  obtain ⟨-, -, ⟨a, -, -, hrow⟩, hothers⟩ := ProcessorWorld.updateAttempt_ok hupdate hset
  refine ⟨h.uncharged ho (fun other hother => ?_) fun row' hrow' => ?_, ?_⟩
  · by_cases hsame : other = paymentID
    · simp [hsame, hrow]
    · obtain ⟨status, hstatus⟩ := ProcessorWorld.attempt?_isSome_iff.mp hother
      exact (hothers other status hsame hstatus).isSome
  · obtain ⟨r, hr, heq⟩ := ProcessorWorld.mem_updateAttempt hupdate hrow'
    cases heq with
    | inl heq =>
      rw [heq]
      exact ⟨h.counts r hr, .inl ⟨r, hr, rfl⟩⟩
    | inr heq =>
      rw [heq]
      exact ⟨hcount r (h.counts r hr), .inl ⟨r, hr, hrequest r⟩⟩
  · intro other status hne hstatus
    have hnot : other ≠ paymentID := by
      rintro rfl
      exact hne (hstatus.unique hpending)
    refine ⟨hothers other status hnot hstatus, ?_⟩
    simp [RailWorld.after, ho]

/-- A call that only reads leaves everything as it is. -/
theorem RailWorld.after_read (haccepting : RailWorld.accepting w.tables o = [])
    (ho : RailWorld.charging w.tables answer o = []) : w.after w.tables answer o = w := by
  rw [RailWorld.after, haccepting, ho, List.append_nil, List.append_nil]

/-- What a call does that reaches its target, with an answer and without one. -/
theorem Held.Move.run {a : o.Ret} (hmove : k.Move limit o) (hi : w.Exact limit)
    (hk : k.Holds read w) (hrun : o.run (c.seen read) w.tables = (.ok a, tables)) :
    (w.after tables c.answer o).Exact limit ∧ w.Settled (w.after tables c.answer o) ∧
      (k.learn o (.ok a)).Holds read (w.after tables c.answer o) ∧
      ∀ e, (k.learn o (.error e)).Holds read (w.after tables c.answer o) := by
  cases o with
  | now =>
    cases hrun
    rw [RailWorld.after_read rfl rfl]
    exact ⟨hi, .refl w, hk, fun _ => hk⟩
  | sleep backoff =>
    cases hrun
    rw [RailWorld.after_read rfl rfl]
    exact ⟨hi, .refl w, hk, fun _ => hk⟩
  | getByPaymentID paymentID =>
    obtain ⟨hget, rfl⟩ := Prod.mk.inj hrun
    rw [RailWorld.after_read rfl rfl]
    exact ⟨hi, .refl w, (ProcessorWorld.getByPaymentID_ok hget).1, fun _ => trivial⟩
  | insertPending command time =>
    have hinsert := ProcessorOp.commit_ok.mp hrun
    obtain ⟨-, -, hpending, -, hkept⟩ := ProcessorWorld.insertPending_ok hinsert
    obtain ⟨rfl, hattempts, hnone⟩ := ProcessorWorld.insertPending_rows hinsert
    refine ⟨hi.uncharged rfl (fun paymentID hsome => ?_) fun row' hrow' => ?_, ?_, hpending,
      fun _ => trivial⟩
    · obtain ⟨status, hstatus⟩ := ProcessorWorld.attempt?_isSome_iff.mp hsome
      exact (hkept paymentID status hstatus).isSome
    · rw [hattempts, List.mem_append, List.mem_singleton] at hrow'
      cases hrow' with
      | inl hold => exact ⟨hi.counts row' hold, .inl ⟨row', hold, rfl⟩⟩
      | inr hnew =>
        subst hnew
        refine ⟨Nat.zero_le _, .inr ⟨command, ?_, rfl⟩⟩
        -- no command for the payment was accepted before, since the payment had no row
        have hfirst : w.accepted.find? (·.paymentID = command.paymentID) = none := by
          rw [List.find?_eq_none]
          intro earlier hmem hsame
          have hsome := hi.accepted earlier hmem
          rw [of_decide_eq_true hsame, hnone] at hsome
          cases hsome
        show (w.accepted ++ RailWorld.accepting tables _).find? (·.paymentID = command.paymentID) =
          some command
        rw [RailWorld.accepting, if_pos hpending.isSome, List.find?_append, hfirst]
        simp
    · intro paymentID status _ hstatus
      exact ⟨hkept paymentID status hstatus, by simp [RailWorld.after, RailWorld.charging]⟩
  | markAttemptStarted paymentID n time =>
    have hupdate := ProcessorOp.commit_ok.mp hrun
    obtain ⟨hpos, hlimit, hknown⟩ := hmove
    have hpending : w.tables.HasStatus paymentID .pending := by
      rcases hknown with rfl | ⟨e, rfl⟩
      · exact hk
      · exact hk.1
    obtain ⟨hexact, hsettled⟩ :
        (w.after tables c.answer (.markAttemptStarted paymentID n time)).Exact limit ∧ _ :=
      RailWorld.after_update hi rfl hupdate hpending (fun _ => rfl) fun _ _ => hlimit
    obtain ⟨hid, -, ⟨row, hrow, rfl, hstored⟩, -⟩ :=
      ProcessorWorld.updateAttempt_ok hupdate fun _ => rfl
    have hstatus : row.status = .pending := by
      have hsame := hpending
      rw [ProcessorWorld.HasStatus, hrow] at hsame
      exact Option.some.inj hsame
    refine ⟨hexact, hsettled, ⟨?_, hstatus, hpos⟩, fun _ => trivial⟩
    rw [← hid] at hstored
    exact hstored
  | charge request =>
    cases hrun
    obtain ⟨row, rfl, rfl⟩ := hmove
    obtain ⟨hrow, hstatus, hpos⟩ := hk
    have hmem : row ∈ w.tables.attempts := List.mem_of_find?_eq_some hrow
    have hpending : w.tables.HasStatus row.paymentID .pending := by
      rw [ProcessorWorld.HasStatus, hrow, Option.map_some, hstatus]
    refine ⟨hi.step rfl rfl (by simp [RailWorld.accepting]) (fun _ => id) (fun row' hrow' =>
      ⟨hi.counts row' hrow', .inl ⟨row', hrow', rfl⟩⟩) ?_, ?_,
      ⟨hpending, w.charges, _, rfl, rfl, rfl⟩,
      fun _ => trivial⟩
    · intro charge hcharge
      cases List.mem_singleton.mp hcharge
      exact ⟨(hi.rows row hmem).grow rfl, row, hrow, hstatus, hpos, hi.counts row hmem⟩
    · intro paymentID status hne hother
      refine ⟨hother, ?_⟩
      have hnot : row.paymentID ≠ paymentID := by
        rintro rfl
        exact hne (hother.unique hpending)
      simp [RailWorld.after, RailWorld.charging, chargeRequest, hnot]
  | markCompleted paymentID result time =>
    have hupdate := ProcessorOp.commit_ok.mp hrun
    obtain ⟨_, rfl⟩ := hmove
    obtain ⟨hexact, hsettled⟩ :
        (w.after tables c.answer (.markCompleted paymentID result time)).Exact limit ∧ _ :=
      RailWorld.after_update hi rfl hupdate hk.1 (fun _ => rfl) fun _ h => h
    exact ⟨hexact, hsettled, ProcessorWorld.mark_ok hupdate (fun _ => rfl) fun _ => rfl,
      fun _ => trivial⟩
  | markFailed paymentID failure time =>
    have hupdate := ProcessorOp.commit_ok.mp hrun
    obtain ⟨_, rfl⟩ := hmove
    obtain ⟨hexact, hsettled⟩ :
        (w.after tables c.answer (.markFailed paymentID failure time)).Exact limit ∧ _ :=
      RailWorld.after_update hi rfl hupdate hk.1 (fun _ => rfl) fun _ h => h
    exact ⟨hexact, hsettled, ProcessorWorld.mark_ok hupdate (fun _ => rfl) fun _ => rfl,
      fun _ => trivial⟩
  | enqueue record =>
    cases hrun
    obtain ⟨rfl, htopic⟩ := hmove
    obtain ⟨hexact, hsettled⟩ :
        (w.after { w.tables with outbox := w.tables.outbox ++ [record] } c.answer
          (.enqueue record)).Exact limit ∧ _ := RailWorld.after_unchanged hi rfl rfl
    refine ⟨hexact, hsettled, ⟨hk.of_attempts rfl, record, ?_, rfl, rfl, htopic⟩, fun _ => trivial⟩
    exact List.mem_append_right _ (List.mem_singleton_self record)

/-- What one call does, whatever the fault. -/
theorem Held.Move.exec (hmove : k.Move limit o) (hi : w.Exact limit) (hk : k.Holds read w) :
    ((railMachine read).exec c o w).2.Exact limit ∧ w.Settled ((railMachine read).exec c o w).2 ∧
      (k.learn o ((railMachine read).exec c o w).1).Holds read
        ((railMachine read).exec c o w).2 := by
  rw [railMachine_exec]
  rcases o.exec_outcome (c.seen read) w.tables with ⟨e, he⟩ | ⟨a, tables, hrun, he | ⟨e, he⟩⟩
  · -- nothing has happened, so the call is none that charges
    have ho : RailWorld.charging w.tables c.answer o = [] := by
      cases o with
      | charge request => cases he
      | _ => rfl
    obtain ⟨hexact, hsettled⟩ : (w.after w.tables c.answer o).Exact limit ∧ _ :=
      RailWorld.after_unchanged hi ho rfl
    rw [he]
    refine ⟨hexact, hsettled, ?_⟩
    cases o with
    | now => cases he
    | sleep backoff =>
      rw [RailWorld.after_read rfl rfl]
      exact hk
    | _ => exact trivial
  · obtain ⟨hexact, hsettled, hlearns, -⟩ := hmove.run hi hk hrun
    rw [he]
    exact ⟨hexact, hsettled, hlearns⟩
  · obtain ⟨hexact, hsettled, -, herror⟩ := hmove.run hi hk hrun
    rw [he]
    exact ⟨hexact, hsettled, herror e⟩

variable (read limit) in
/-- Nothing comes between the calls of one handler. -/
def chargeContract : Contract (railMachine read) :=
  .undisturbed (fun _ _ _ _ => True) (RailWorld.Exact limit) RailWorld.Settled

theorem chargeDiscipline_sound :
    (chargeDiscipline limit).Sound (chargeContract read limit) fun k _ w => k.Holds read w where
  mono := by
    rintro k _ _ w rfl hk
    exact hk
  stable hk hrely _ := by
    obtain rfl := hrely
    exact hk
  answers c o w := ProcessorOp.exec_answer (c.seen read) o w.tables
  step hmove hi hk _ := by
    obtain ⟨hmove, rfl⟩ := hmove
    exact hmove.exec hi hk

end Calls

end EnjoyThings
