import EnjoyThings.Spec.ChargeLoop

/-!
# An undisturbed call of the payment processor

A call that nothing stops charges until an answer settles the payment. `Concluded` is
what is left after the verdict is stored and enqueued, and `Played` is what the loop
has done when it ends: the charges it has made, with consecutive numbers, all but the
last one answered with a failure that is worth another try.

## Key results

- `attemptFrom_played`: the loop, by induction on the passes that are left
- `retry_loop_exact`: the specification of `HandleExecute`
-/

namespace EnjoyThings

open Effect Processor

section Undisturbed

variable {A : Type} {read : A → Except RailErr RailResult} {w w' : RailWorld A} {c : RailChoice A}
  {row : Attempt}

/-- A failure that is worth another try. -/
def Retryable (answer : Except RailErr RailResult) : Prop :=
  ∃ e, answer = .error e ∧ (classifyRailFailure e).retryable = true

/-- The verdict on the attempt is stored and enqueued, and nothing is charged. -/
structure Concluded (w w' : RailWorld A) (row : Attempt) (status : AttemptStatus) : Prop where
  charges : w'.charges = w.charges
  stored : ∃ row', w'.tables.attempt? row.paymentID = some row' ∧ row'.status = status ∧
    row'.attemptCount = row.attemptCount
  record : ∃ record, w'.tables.outbox = w.tables.outbox ++ [record] ∧
    record.topic = status.topic ∧ record.payload.paymentID = row.paymentID ∧
    record.payload.verdict = status

/-- What is done when the loop that begins with attempt `first` ends. -/
structure Played (read : A → Except RailErr RailResult) (maxAttempts : Nat) (paymentID : String)
    (first : Nat) (w w' : RailWorld A) (made : List (Charge A)) : Prop where
  charges : w'.charges = w.charges ++ made
  numbers : made.map (·.row.map (·.attemptCount)) = (List.range' first made.length).map some
  bound : first + made.length ≤ maxAttempts + 1
  retried : ∀ charge ∈ made.dropLast, Retryable (read charge.answer)
  settled : ∃ last status row record, made.getLast? = some last ∧
    (status = .completed ∧ (∃ result, read last.answer = .ok result) ∨
      status = .failed ∧ (∃ e, read last.answer = .error e ∧
        ((classifyRailFailure e).retryable = true → first + made.length = maxAttempts + 1))) ∧
    w'.tables.attempt? paymentID = some row ∧ row.status = status ∧
    row.attemptCount + 1 = first + made.length ∧
    w'.tables.outbox = w.tables.outbox ++ [record] ∧ record.topic = status.topic ∧
    record.payload.paymentID = paymentID ∧ record.payload.verdict = status

variable (read) in
/-- A triple about a program whose calls all go through. -/
abbrev Smoothly {α : Type} (post : Except ProcessorErr α → RailWorld A → Prop)
    (p : ProcessorProg α) (w : RailWorld A) : Prop :=
  (Contract.alone (M := railMachine read) (·.fault = .none)).Holds (fun r _ w => post r w) p () w

variable {α : Type} {post : Except ProcessorErr α → RailWorld A → Prop}

/-- A call that goes through. -/
theorem smoothly_run {o : ProcessorOp} {f : o.Ret → ProcessorProg α}
    (h : ∀ c : RailChoice A, c.fault = .none → ∃ a tables,
      o.run (c.seen read) w.tables = (.ok a, tables) ∧
        Smoothly read post (f a) (w.after tables c.answer o)) :
    Smoothly read post (.perform o >>= f) w := by
  refine .alone_call fun c hc => ?_
  obtain ⟨a, tables, hrun, hrest⟩ := h c hc
  refine ⟨a, w.after tables c.answer o, ?_, hrest⟩
  have hexec : o.exec (c.seen read) w.tables = (.ok a, tables) := by
    have hfault : (c.seen read).fault = .none := hc
    cases o with
    | now => exact hrun
    | charge => exact hrun
    | _ => simpa only [ProcessorOp.exec, hfault] using hrun
  rw [railMachine_exec, hexec]

theorem smoothly_now {f : Time → ProcessorProg α} (h : ∀ t, Smoothly read post (f t) w) :
    Smoothly read post (now >>= f) w := by
  refine smoothly_run (o := .now) fun c _ => ⟨_, _, rfl, ?_⟩
  rw [RailWorld.after_read rfl rfl]
  exact h _

theorem smoothly_orNow {t : Time} {f : Time → ProcessorProg α}
    (h : ∀ t, Smoothly read post (f t) w) :
    Smoothly read post (orNow t >>= f) w := by
  unfold Processor.orNow
  split
  · exact smoothly_now h
  · exact h t

/-- An update finds the row of its payment. -/
theorem ProcessorWorld.updateAttempt_eq {w : ProcessorWorld} {paymentID : String} {row : Attempt}
    (h : w.attempt? paymentID = some row) (set : Attempt → Attempt) :
    w.updateAttempt paymentID set = .ok (set row, { w with
      attempts := w.attempts.map fun a => if a.paymentID = paymentID then set a else a }) := by
  simp only [updateAttempt, h]

/-- The last call of a program. -/
theorem smoothly_enqueue {record : ResultRecord}
    {post : Except ProcessorErr Unit → RailWorld A → Prop}
    (h : ∀ answer, post (.ok ()) (w.after { w.tables with outbox := w.tables.outbox ++ [record] }
      answer (.enqueue record))) : Smoothly read post (enqueue record) w := by
  rw [← Prog.bind_pure (enqueue record)]
  exact smoothly_run (o := .enqueue record) fun c _ => ⟨_, _, rfl, .alone_done (h c.answer)⟩

variable {paymentID : String} {attempt : Attempt}

variable {v : RailWorld A}

/-- The attempt that a mark has returned is announced. -/
theorem publishCompleted_concludes (hcharges : v.charges = w.charges)
    (houtbox : v.tables.outbox = w.tables.outbox)
    (hrow : v.tables.attempt? row.paymentID = some attempt)
    (hid : attempt.paymentID = row.paymentID) (hstatus : attempt.status = .completed)
    (hcount : attempt.attemptCount = row.attemptCount) :
    Smoothly read (fun r w' => r = .ok () ∧ Concluded w w' row .completed)
      (publishCompleted attempt) v := by
  refine smoothly_orNow fun completedAt => smoothly_now fun occurredAt => ?_
  refine smoothly_enqueue fun answer => ⟨rfl, ?_, ⟨attempt, hrow, hstatus, hcount⟩, ?_⟩
  · exact (List.append_nil _).trans hcharges
  · exact ⟨_, congrArg (· ++ [_]) houtbox, rfl, hid, rfl⟩

theorem publishFailed_concludes (hcharges : v.charges = w.charges)
    (houtbox : v.tables.outbox = w.tables.outbox)
    (hrow : v.tables.attempt? row.paymentID = some attempt)
    (hid : attempt.paymentID = row.paymentID) (hstatus : attempt.status = .failed)
    (hcount : attempt.attemptCount = row.attemptCount) :
    Smoothly read (fun r w' => r = .ok () ∧ Concluded w w' row .failed)
      (publishFailed attempt) v := by
  refine smoothly_orNow fun failedAt => smoothly_now fun occurredAt => ?_
  refine smoothly_enqueue fun answer => ⟨rfl, ?_, ⟨attempt, hrow, hstatus, hcount⟩, ?_⟩
  · exact (List.append_nil _).trans hcharges
  · exact ⟨_, congrArg (· ++ [_]) houtbox, rfl, hid, rfl⟩

theorem recordCompleted_concludes (hrow : w.tables.attempt? row.paymentID = some row)
    (result : RailResult) :
    Smoothly read (fun r w' => r = .ok () ∧ Concluded w w' row .completed)
      (recordCompleted row result) w := by
  refine smoothly_orNow fun completedAt => smoothly_now fun time => ?_
  refine smoothly_run (o := .markCompleted _ _ _) fun c _ => ?_
  have hupdate := ProcessorWorld.updateAttempt_eq hrow
    (ProcessorWorld.completed { result with completedAt := completedAt } time c.dbNow)
  obtain ⟨hid, houtbox, ⟨_, -, -, hstored⟩, -⟩ :=
    ProcessorWorld.updateAttempt_ok hupdate fun _ => rfl
  refine ⟨_, _, ProcessorOp.commit_ok.mpr hupdate, ?_⟩
  exact publishCompleted_concludes (List.append_nil _) houtbox hstored hid rfl rfl

theorem recordFailed_concludes (hrow : w.tables.attempt? row.paymentID = some row)
    (failure : RailFailure) :
    Smoothly read (fun r w' => r = .ok () ∧ Concluded w w' row .failed)
      (recordFailed row failure) w := by
  refine smoothly_now fun time => smoothly_run (o := .markFailed _ _ _) fun c _ => ?_
  have hupdate := ProcessorWorld.updateAttempt_eq hrow
    (ProcessorWorld.failed failure time c.dbNow)
  obtain ⟨hid, houtbox, ⟨_, -, -, hstored⟩, -⟩ :=
    ProcessorWorld.updateAttempt_ok hupdate fun _ => rfl
  refine ⟨_, _, ProcessorOp.commit_ok.mpr hupdate, ?_⟩
  exact publishFailed_concludes (List.append_nil _) houtbox hstored hid rfl rfl

variable {next : Nat}

/-- A charge that is answered and what follows it. -/
theorem Played.single {maxAttempts : Nat} {charge : Charge A} {status : AttemptStatus}
    (hid : row.paymentID = paymentID) (hcount : row.attemptCount = next)
    (hrow : charge.row = some row) (hcharges : v.charges = w.charges ++ [charge])
    (houtbox : v.tables.outbox = w.tables.outbox) (hnext : next ≤ maxAttempts)
    (hconcluded : Concluded v w' row status)
    (hanswer : status = .completed ∧ (∃ result, read charge.answer = .ok result) ∨
      status = .failed ∧ ∃ e, read charge.answer = .error e ∧
        ((classifyRailFailure e).retryable = true → next = maxAttempts)) :
    Played read maxAttempts paymentID next w w' [charge] := by
  obtain ⟨row', hrow', hstatus, hcount'⟩ := hconcluded.stored
  obtain ⟨record, hrecord, htopic, hpayment, hverdict⟩ := hconcluded.record
  refine ⟨hconcluded.charges.trans hcharges, ?_, by simpa using hnext, by simp,
    charge, status, row', record, rfl, ?_, hid ▸ hrow', hstatus, ?_, houtbox ▸ hrecord, htopic,
    hid ▸ hpayment, hverdict⟩
  · simp [hrow, hcount]
  · rcases hanswer with hok | ⟨hstatus, e, he, hlast⟩
    · exact .inl hok
    · exact .inr ⟨hstatus, e, he, fun hretry => by simp [hlast hretry]⟩
  · simp [hcount', hcount]

/-- A charge that is tried again, and the rest of the loop. -/
theorem Played.cons {maxAttempts : Nat} {charge : Charge A} {made : List (Charge A)}
    (hcount : row.attemptCount = next) (hrow : charge.row = some row)
    (hcharges : v.charges = w.charges ++ [charge]) (houtbox : v.tables.outbox = w.tables.outbox)
    (hretry : Retryable (read charge.answer))
    (h : Played read maxAttempts paymentID (next + 1) v w' made) :
    Played read maxAttempts paymentID next w w' (charge :: made) := by
  obtain ⟨last, status, row', record, hlast, hanswer, hrow', hstatus, hcount', houtbox', hrest⟩ :=
    h.settled
  have hne : made ≠ [] := by
    rintro rfl
    cases hlast
  have hlength : next + (charge :: made).length = next + 1 + made.length := by
    rw [List.length_cons]
    omega
  refine ⟨?_, ?_, ?_, ?_, last, status, row', record, ?_, ?_, hrow', hstatus, ?_, ?_, hrest⟩
  · rw [h.charges, hcharges, List.append_assoc]
    rfl
  · rw [List.map_cons, h.numbers, List.length_cons, List.range'_succ, List.map_cons, hrow]
    simp [hcount]
  · rw [hlength]
    exact h.bound
  · intro charge' hcharge'
    rw [List.dropLast_cons_of_ne_nil hne, List.mem_cons] at hcharge'
    cases hcharge' with
    | inl heq => exact heq ▸ hretry
    | inr hmem => exact h.retried charge' hmem
  · rw [List.getLast?_cons_of_ne_nil hne]
    exact hlast
  · rw [hlength]
    exact hanswer
  · rw [hlength]
    exact hcount'
  · rw [← houtbox]
    exact houtbox'

/-- The loop, by induction on the passes that are left: each of them stores its number, charges,
    and ends the loop or leaves one pass less. -/
theorem attemptFrom_played (backoffs : List Nat) {remaining : Nat}
    (hremaining : next + remaining = backoffs.length + 2) (hnext : next ≤ backoffs.length + 1)
    (hrow : (w.tables.attempt? paymentID).isSome) :
    Smoothly read (fun r w' => r = .ok () ∧ ∃ made,
      Played read (backoffs.length + 1) paymentID next w w' made)
      (attemptFrom backoffs paymentID remaining next) w := by
  induction remaining generalizing next w with
  | zero => omega
  | succ remaining ih =>
    unfold attemptFrom
    refine smoothly_now fun time => smoothly_run (o := .markAttemptStarted _ _ _) fun c _ => ?_
    obtain ⟨old, hold⟩ := Option.isSome_iff_exists.mp hrow
    have hupdate := ProcessorWorld.updateAttempt_eq hold
      (ProcessorWorld.started next time c.dbNow)
    obtain ⟨hid, houtbox, ⟨_, -, -, hstored⟩, -⟩ :=
      ProcessorWorld.updateAttempt_ok hupdate fun _ => rfl
    refine ⟨_, _, ProcessorOp.commit_ok.mpr hupdate, ?_⟩
    generalize hcurrent : ProcessorWorld.started next time c.dbNow old = current at *
    have hcount : current.attemptCount = next := by rw [← hcurrent]; rfl
    refine smoothly_run (o := .charge _) fun c' _ => ⟨_, _, rfl, ?_⟩
    -- the charge is the only thing that is new
    generalize hv : RailWorld.after (RailWorld.after w _ c.answer _) _ c'.answer _ = v
    obtain ⟨charge, hcharges, hchargerow, hanswer, hrow', houtbox'⟩ :
        ∃ charge : Charge A, v.charges = w.charges ++ [charge] ∧ charge.row = some current ∧
          charge.answer = c'.answer ∧ v.tables.attempt? current.paymentID = some current ∧
          v.tables.outbox = w.tables.outbox := by
      rw [← hv]
      refine ⟨{ request := chargeRequest current, row := some current, answer := c'.answer }, ?_,
        rfl,
        rfl, hid ▸ hstored, houtbox⟩
      simp [RailWorld.after, RailWorld.charging, chargeRequest, hid, hstored]
    have hread : (c'.seen read).rail = read charge.answer := congrArg read hanswer.symm
    have hend : ∀ status {p : ProcessorProg Unit},
        Smoothly read (fun r w' => r = .ok () ∧ Concluded v w' current status) p v →
        (status = .completed ∧ (∃ result, read charge.answer = .ok result) ∨
          status = .failed ∧ ∃ e, read charge.answer = .error e ∧
            ((classifyRailFailure e).retryable = true → next = backoffs.length + 1)) →
        Smoothly read (fun r w' => r = .ok () ∧ ∃ made,
          Played read (backoffs.length + 1) paymentID next w w' made) p v := by
      intro status p hp hstatus
      refine hp.mono fun r _ w' _ h => ⟨h.1, [charge], ?_⟩
      exact .single hid hcount hchargerow hcharges houtbox' hnext h.2 hstatus
    cases hcharge : read charge.answer with
    | ok result =>
      simp only [hread, hcharge]
      exact hend .completed (recordCompleted_concludes hrow' result) (.inl ⟨rfl, result, hcharge⟩)
    | error e =>
      simp only [hread, hcharge]
      by_cases hretry : (classifyRailFailure e).retryable = false
      · rw [if_pos hretry]
        exact hend .failed (recordFailed_concludes hrow' _)
          (.inr ⟨rfl, e, hcharge, fun h => by rw [hretry] at h; cases h⟩)
      by_cases hlast : next = backoffs.length + 1
      · rw [if_neg hretry, if_pos hlast]
        exact hend .failed (recordFailed_concludes hrow' _) (.inr ⟨rfl, e, hcharge, fun _ => hlast⟩)
      · rw [if_neg hretry, if_neg hlast]
        refine smoothly_run (o := .sleep _) fun c'' _ => ⟨_, _, rfl, ?_⟩
        rw [RailWorld.after_read rfl rfl]
        refine (ih (by omega) (by omega) (by rw [← hid, hrow']; rfl)).mono ?_
        rintro r _ w' - ⟨hr, made, hmade⟩
        refine ⟨hr, charge :: made,
          .cons hcount hchargerow hcharges houtbox' ⟨e, hcharge, ?_⟩ hmade⟩
        simpa using hretry

/-- `CreatePending` goes through and returns the row of the payment, which may be new. -/
theorem createPending_smooth {command : PaymentExecute} (hamount : ¬ command.amountCents ≤ 0)
    (time : Time) :
    Smoothly read (fun r v => ∃ row, r = .ok row ∧ v.charges = w.charges ∧
      v.tables.outbox = w.tables.outbox ∧ v.tables.attempt? command.paymentID = some row ∧
      (w.tables.attempt? command.paymentID = some row ∨
        w.tables.attempt? command.paymentID = none ∧ row.status = .pending ∧
          row.attemptCount = 0)) (createPending command time) w := by
  unfold createPending insertPending
  rw [Prog.attempt_perform_bind]
  rintro _ rfl - c hc
  refine ⟨trivial, trivial, ?_⟩
  have hfault : (c.seen read).fault = .none := hc
  rw [railMachine_exec]
  simp only [ProcessorOp.exec, hfault, ProcessorOp.run]
  by_cases hany : w.tables.attempts.any (·.paymentID = command.paymentID)
  · -- the payment has a row, which the select returns
    simp only [ProcessorWorld.insertPending, if_neg hamount, if_pos hany, ProcessorOp.run.commit]
    rw [← Prog.bind_pure (getByPaymentID command.paymentID)]
    refine smoothly_run (o := .getByPaymentID _) fun c' _ => ?_
    obtain ⟨old, hmem, hold⟩ := List.any_eq_true.mp hany
    obtain ⟨row, hrow⟩ : ∃ row, w.tables.attempt? command.paymentID = some row :=
      Option.isSome_iff_exists.mp (List.find?_isSome.mpr ⟨old, hmem, hold⟩)
    have hget : w.tables.getByPaymentID command.paymentID = .ok row :=
      Except.ofOption_eq_ok.mpr hrow
    refine ⟨row, w.tables, Prod.ext hget rfl, .alone_done ⟨row, rfl, ?_, rfl, hrow, .inl hrow⟩⟩
    simp [RailWorld.after, RailWorld.charging]
  · -- the insert adds one
    have hinsert : w.tables.insertPending c.id c.dbNow command time = .ok
        (ProcessorWorld.newAttempt c.id c.dbNow command time, { w.tables with
          attempts := w.tables.attempts ++
            [ProcessorWorld.newAttempt c.id c.dbNow command time] }) := by
      simp only [ProcessorWorld.insertPending, if_neg hamount, if_neg hany]
    obtain ⟨-, -, hnone⟩ := ProcessorWorld.insertPending_rows hinsert
    have hid : (c.seen read).id = c.id ∧ (c.seen read).dbNow = c.dbNow := ⟨rfl, rfl⟩
    simp only [hid, hinsert, ProcessorOp.run.commit]
    refine .alone_done ⟨_, rfl, ?_, rfl, ?_, .inr ⟨hnone, rfl, rfl⟩⟩
    · simp [RailWorld.after, RailWorld.charging]
    · unfold ProcessorWorld.attempt? at hnone ⊢
      simp only [RailWorld.after]
      rw [List.find?_append, hnone]
      simp [ProcessorWorld.newAttempt]

/-- A call for a payment that is new or pending. -/
theorem handleExecute_played (backoffs : List Nat) {command : PaymentExecute}
    (hvalid : invalidCommand? command = none)
    (hpending : ∀ row, w.tables.attempt? command.paymentID = some row → row.status = .pending) :
    Smoothly read (fun r w' => r = .ok () ∧ ∃ made, Played read (backoffs.length + 1)
        command.paymentID (min ((w.tables.attempt? command.paymentID).elim 0 (·.attemptCount) + 1)
          (backoffs.length + 1)) w w' made) (handleExecute backoffs command) w := by
  have hamount : ¬ command.amountCents ≤ 0 := by
    intro hle
    simp only [invalidCommand?, hle, ↓reduceIte] at hvalid
    split at hvalid
    · cases hvalid
    · split at hvalid <;> cases hvalid
  unfold handleExecute validateCommand
  rw [hvalid]
  refine smoothly_now fun time => (createPending_smooth hamount time).bind ?_ ?_
  · rintro row _ v - ⟨row', hrow', hcharges, houtbox, hstored, hfrom⟩
    cases hrow'
    have hstatus : row.status = .pending := by
      rcases hfrom with hold | ⟨-, hnew, -⟩
      · exact hpending row hold
      · exact hnew
    have hcount : (w.tables.attempt? command.paymentID).elim 0 (·.attemptCount) =
        row.attemptCount := by
      rcases hfrom with hold | ⟨hnone, -, hzero⟩
      · rw [hold]
        rfl
      · rw [hnone, hzero]
        rfl
    have hid : row.paymentID = command.paymentID := by simpa using List.find?_some hstored
    simp only [hstatus, processPending, hid, hcount]
    refine (attemptFrom_played backoffs (by omega) (by omega) (by simp [hstored])).mono ?_
    rintro r _ w' - ⟨hr, made, hplayed⟩
    obtain ⟨last, status, row', record, hlast, hanswer, hrest⟩ := hplayed.settled
    refine ⟨hr, made, ⟨hcharges ▸ hplayed.charges, hplayed.numbers, hplayed.bound,
      hplayed.retried, last, status, row', record, hlast, hanswer, ?_⟩⟩
    rw [houtbox] at hrest
    exact hrest
  · rintro e _ v - ⟨row, hrow, -⟩
    cases hrow

end Undisturbed

/-! ## The specification -/

section Runs

variable {A : Type} (read : A → Except RailErr RailResult) (backoffs : List Nat)

theorem chargeContract_holds (command : PaymentExecute) (w : RailWorld A) :
    (chargeContract read (backoffs.length + 1)).Holds
      (fun r _ w => ∃ l, Announces command.paymentID r l ∧ l.Holds read w)
      (handleExecute backoffs command) () w :=
  (handleExecute_charges backoffs command (k := .nothing)).holds chargeDiscipline_sound trivial

theorem handleExecute_safe (command : PaymentExecute) (w : RailWorld A) (_ : True)
    (_ : (chargeContract read (backoffs.length + 1)).inv w) :
    (chargeContract read (backoffs.length + 1)).Safe (handleExecute backoffs command) () w :=
  (chargeContract_holds read backoffs command w).safe

theorem RailWorld.Exact.empty (limit : Nat) : ({} : RailWorld A).Exact limit :=
  ⟨by simp, by simp, by simp, by simp⟩

theorem chargeInTurn_exact (calls : List (PaymentExecute × List (RailChoice A))) :
    (chargeInTurn read backoffs calls).Exact (backoffs.length + 1) :=
  serial_inv (handleExecute_safe read backoffs) (.empty _) (.of_forall fun _ _ => trivial)
    fun _ _ _ _ _ _ _ => trivial

/-- The retry loop. An undisturbed call for a payment that is new or pending returns, and has
    charged and settled it as `Played` says. In every history of calls that run one at a time
    and stop anywhere, counts are bounded, charges are for the first command that was accepted,
    a call that returns has announced a verdict, and a payment with a verdict keeps it and is
    not charged. -/
theorem retry_loop_exact :
    (∀ (w : RailWorld A) command, invalidCommand? command = none →
      (∀ row, w.tables.attempt? command.paymentID = some row → row.status = .pending) →
      ∀ cs : Nat → RailChoice A, (∀ n, (cs n).fault = .none) → ∃ w' made,
        (handleExecute backoffs command).eval (railMachine read) cs w = (.ok (), w') ∧
        Played read (backoffs.length + 1) command.paymentID
          (min ((w.tables.attempt? command.paymentID).elim 0 (·.attemptCount) + 1)
            (backoffs.length + 1)) w w' made) ∧
    ∀ calls : List (PaymentExecute × List (RailChoice A)),
      (∀ row ∈ (chargeInTurn read backoffs calls).tables.attempts,
        row.attemptCount ≤ backoffs.length + 1) ∧
      (∀ charge ∈ (chargeInTurn read backoffs calls).charges, ∃ command,
        (chargeInTurn read backoffs calls).first charge.request.paymentID = some command ∧
          charge.request = command.chargeRequest) ∧
      (∀ command cs w', (handleExecute backoffs command).eval (railMachine read) cs
          (chargeInTurn read backoffs calls) = (.ok (), w') →
        ∃ status, status ≠ .pending ∧ w'.tables.HasStatus command.paymentID status ∧
          ∃ record ∈ w'.tables.outbox, record.payload.paymentID = command.paymentID ∧
            record.payload.verdict = status ∧ record.topic = status.topic) ∧
      ∀ command cs cs' rest paymentID status, status ≠ .pending →
        (chargeInTurn read backoffs (calls ++ [(command, cs)])).tables.HasStatus paymentID status →
        (chargeInTurn read backoffs (calls ++ (command, cs ++ cs') :: rest)).tables.HasStatus
            paymentID status ∧
          (chargeInTurn read backoffs (calls ++ (command, cs ++ cs') :: rest)).charges.filter
              (·.request.paymentID = paymentID) =
            (chargeInTurn read backoffs (calls ++ [(command, cs)])).charges.filter
              (·.request.paymentID = paymentID) := by
  refine ⟨fun w command hvalid hpending cs hcs => ?_, fun calls => ⟨?_, ?_, ?_, ?_⟩⟩
  · obtain ⟨-, hr, made, hplayed⟩ := (handleExecute_played backoffs hvalid hpending).alone_eval hcs
    exact ⟨_, made, Prod.ext hr rfl, hplayed⟩
  · exact (chargeInTurn_exact read backoffs calls).counts
  · exact fun charge hcharge =>
      ((chargeInTurn_exact read backoffs calls).charges charge hcharge).asked
  · intro command cs w' heval
    obtain ⟨-, hends⟩ := (chargeContract_holds read backoffs command _).eval
      (chargeInTurn_exact read backoffs calls) fun n => (fun _ _ _ => trivial :
        (chargeContract read (backoffs.length + 1)).Permitted (cs n))
    rw [heval] at hends
    obtain ⟨-, l, hannounces, hl⟩ := hends
    obtain ⟨status, hne, rfl⟩ := hannounces rfl
    exact ⟨status, hne, hl⟩
  · intro command cs cs' rest
    exact serial_guar_from RailWorld.Settled.refl RailWorld.Settled.trans
      (handleExecute_safe read backoffs) (.empty _) (.of_forall fun _ _ => trivial)
      fun _ _ _ _ _ _ _ => trivial

end Runs

end EnjoyThings
