import EnjoyThings.Spec.RetryLoop

/-!
# Charges the rail has accepted

A payment fails on a terminal answer, or on the last of its attempts. `HTTPRail.Charge`
also takes a 2xx response for a terminal failure when it cannot read the body, so that a
charge the rail has accepted is reported as failed (`accepted_charge_failed`), while the
same trouble before the header of the response is worth another try. Apart from that,
an accepted charge can only be followed by a failure of its payment if the call that made
it stops before it is stored and the rail refuses the repeated charge.

## Key results

- `Held.Move.run_failed`: only `MarkFailed` makes a payment a failed one
- `accepted_not_failed`: what holds as long as the rail answers as it should
-/

namespace EnjoyThings

open Effect Processor

/-! ## Conditions on the rail -/

/-- The body of a 2xx response can be read, and names the payment at the processor. -/
def HttpAnswer.Readable : HttpAnswer → Prop
  | .response r => 200 ≤ r.statusCode ∧ r.statusCode < 300 →
      (r.success.any (·.processorPaymentID ≠ "")) = true
  | .unsent _ | .unanswered _ => True

instance : DecidablePred HttpAnswer.Readable
  | .response _ => inferInstanceAs (Decidable (_ → _))
  | .unsent _ | .unanswered _ => .isTrue trivial

theorem HTTPRail.charge_accepted {answer : HttpAnswer} (h : answer.Accepted)
    (hreadable : answer.Readable) : ∃ result, HTTPRail.charge answer = .ok result := by
  cases answer with
  | unsent message => cases h
  | unanswered message => cases h
  | response r =>
    have hbody := hreadable h
    cases hsuccess : r.success with
    | none => simp [hsuccess] at hbody
    | some result =>
      have hne : result.processorPaymentID ≠ "" := by simpa [hsuccess] using hbody
      refine ⟨result, ?_⟩
      have hstatus : 200 ≤ r.statusCode ∧ r.statusCode < 300 := h
      rw [HTTPRail.charge, if_pos hstatus, hsuccess, HTTPRail.readSuccess, if_neg hne]

namespace RailWorld

/-- The rail has accepted a charge of the payment. -/
def Taken (w : RailWorld HttpAnswer) (paymentID : String) : Prop :=
  ∃ charge ∈ w.charges, charge.request.paymentID = paymentID ∧ charge.answer.Accepted

instance (w : RailWorld HttpAnswer) (paymentID : String) : Decidable (w.Taken paymentID) :=
  inferInstanceAs (Decidable (∃ charge ∈ w.charges, _))

end RailWorld

/-- The rail answers a charge with a body that can be read if it accepts it, and it accepts the
    charge of a payment that it has accepted before. -/
def Honoured (w : RailWorld HttpAnswer) (answer : HttpAnswer) : ProcessorOp → Prop
  | .charge request => answer.Readable ∧ (w.Taken request.paymentID → answer.Accepted)
  | _ => True

instance (w : RailWorld HttpAnswer) (answer : HttpAnswer) : DecidablePred (Honoured w answer)
  | .charge _ => inferInstanceAs (Decidable (_ ∧ _))
  | .now | .insertPending _ _ | .getByPaymentID _ | .markAttemptStarted _ _ _ => .isTrue trivial
  | .markCompleted _ _ _ | .markFailed _ _ _ | .sleep _ | .enqueue _ => .isTrue trivial

/-! ## Which payments fail -/

namespace ProcessorWorld

variable {w w' : ProcessorWorld} {row : Attempt} {paymentID other : String}

theorem insertPending_other {id : String} {now time : Time} {command : PaymentExecute}
    (h : w.insertPending id now command time = .ok (row, w')) (hne : other ≠ command.paymentID) :
    w'.attempt? other = w.attempt? other := by
  obtain ⟨rfl, hattempts, -⟩ := insertPending_rows h
  have hnot : (newAttempt id now command time).paymentID ≠ other := fun heq => hne heq.symm
  rw [attempt?, hattempts, List.find?_append, attempt?]
  simp [hnot]

theorem updateAttempt_other {set : Attempt → Attempt}
    (h : w.updateAttempt paymentID set = .ok (row, w'))
    (hset : ∀ a, (set a).paymentID = a.paymentID) (hne : other ≠ paymentID) :
    w'.attempt? other = w.attempt? other := by
  unfold updateAttempt at h
  split at h
  · cases h
  cases h
  unfold attempt?
  induction w.attempts with
  | nil => rfl
  | cons a rest ih =>
    rw [List.map_cons]
    by_cases ha : a.paymentID = paymentID
    · have hnot : a.paymentID ≠ other := fun heq => hne (heq.symm.trans ha)
      simpa [ha, hset, hnot, List.find?_cons, hne.symm] using ih
    · by_cases ho : a.paymentID = other
      · simp [ho, hne]
      · simpa [ha, ho, List.find?_cons] using ih

end ProcessorWorld

section Calls

variable {A : Type} {read : A → Except RailErr RailResult} {limit : Nat} {k : Held}
  {w : RailWorld A} {tables : ProcessorWorld} {c : RailChoice A} {o : ProcessorOp}

/-- Only `MarkFailed` makes a payment a failed one. -/
theorem Held.Move.run_failed {a : o.Ret} {paymentID : String} (hmove : k.Move limit o)
    (hi : w.Exact limit) (hk : k.Holds read w)
    (hrun : o.run (c.seen read) w.tables = (.ok a, tables))
    (hfailed : tables.HasStatus paymentID .failed) :
    w.tables.HasStatus paymentID .failed ∨
      ∃ failure time, o = .markFailed paymentID failure time := by
  obtain ⟨-, -, hlearns, -⟩ := hmove.run hi hk hrun
  cases o with
  | now | sleep _ | charge _ | getByPaymentID _ =>
    obtain ⟨-, rfl⟩ := Prod.mk.inj hrun
    exact .inl hfailed
  | enqueue record =>
    cases hrun
    exact .inl (hfailed.of_attempts rfl)
  | insertPending command time =>
    by_cases hsame : paymentID = command.paymentID
    · subst hsame
      cases hfailed.unique hlearns
    · rw [ProcessorWorld.HasStatus, ProcessorWorld.insertPending_other
        (ProcessorOp.commit_ok.mp hrun) hsame] at hfailed
      exact .inl hfailed
  | markAttemptStarted other n time =>
    have hupdate := ProcessorOp.commit_ok.mp hrun
    by_cases hsame : paymentID = other
    · -- the attempt that is started is pending
      subst hsame
      have hid := (ProcessorWorld.updateAttempt_ok hupdate fun _ => rfl).1
      obtain ⟨hrow, hpending, -⟩ := hlearns
      rw [hid] at hrow
      rw [ProcessorWorld.HasStatus, show tables.attempt? paymentID = some a from hrow,
        Option.map_some, hpending] at hfailed
      cases hfailed
    · rw [ProcessorWorld.HasStatus,
        ProcessorWorld.updateAttempt_other hupdate (fun _ => rfl) hsame] at hfailed
      exact .inl hfailed
  | markCompleted other result time =>
    by_cases hsame : paymentID = other
    · subst hsame
      cases hfailed.unique hlearns
    · rw [ProcessorWorld.HasStatus, ProcessorWorld.updateAttempt_other
        (ProcessorOp.commit_ok.mp hrun) (fun _ => rfl) hsame] at hfailed
      exact .inl hfailed
  | markFailed other failure time =>
    by_cases hsame : paymentID = other
    · exact .inr ⟨failure, time, by rw [hsame]⟩
    · rw [ProcessorWorld.HasStatus, ProcessorWorld.updateAttempt_other
        (ProcessorOp.commit_ok.mp hrun) (fun _ => rfl) hsame] at hfailed
      exact .inl hfailed

/-- Events that are enqueued announce the verdict that is stored. -/
theorem Held.Move.run_agreed {a : o.Ret} (hmove : k.Move limit o) (hi : w.Exact limit)
    (hk : k.Holds read w) (hagreed : w.tables.Agreed)
    (hrun : o.run (c.seen read) w.tables = (.ok a, tables)) : tables.Agreed := by
  obtain ⟨-, hsettled, hlearns, -⟩ := hmove.run hi hk hrun
  have hkept : w.tables.VerdictKept tables := fun p status hne hstatus =>
    (hsettled p status hne hstatus).1
  refine hagreed.run hkept hrun fun record ho => ?_
  subst ho
  cases hrun
  exact hlearns.1.of_attempts rfl

end Calls

/-! ## Histories -/

section Histories

variable {limit : Nat} {k : Held} {w : RailWorld HttpAnswer} {c : RailChoice HttpAnswer}
  {o : ProcessorOp}

/-- No charge of a failed payment was accepted. -/
structure RailWorld.Refused (limit : Nat) (w : RailWorld HttpAnswer) : Prop where
  exact : w.Exact limit
  agreed : w.tables.Agreed
  failed : ∀ paymentID, w.tables.HasStatus paymentID .failed → ¬ w.Taken paymentID

/-- What is known holds, and no charge was accepted before one that failed. -/
def Held.Refuses (k : Held) (w : RailWorld HttpAnswer) : Prop :=
  k.Holds HTTPRail.charge w ∧ ∀ paymentID e, k = .answered paymentID (.error e) →
    ¬ w.Taken paymentID

theorem RailWorld.taken_iff_filter {paymentID : String} : w.Taken paymentID ↔
    ∃ charge ∈ w.charges.filter (·.request.paymentID = paymentID), charge.answer.Accepted := by
  simp only [Taken, List.mem_filter, decide_eq_true_eq, and_assoc]

/-- A payment with a verdict is not charged. -/
theorem RailWorld.Settled.taken {w' : RailWorld HttpAnswer} (h : w.Settled w')
    {paymentID : String} {status : AttemptStatus} (hne : status ≠ .pending)
    (hstatus : w.tables.HasStatus paymentID status) : w'.Taken paymentID → w.Taken paymentID := by
  intro htaken
  rw [taken_iff_filter, (h paymentID status hne hstatus).2] at htaken
  exact taken_iff_filter.mpr htaken

theorem RailWorld.taken_after {tables : ProcessorWorld} {answer : HttpAnswer} {paymentID : String}
    (ho : RailWorld.charging w.tables answer o = []) :
    (w.after tables answer o).Taken paymentID ↔ w.Taken paymentID := by
  simp only [Taken, RailWorld.after, ho, List.append_nil]

/-- A charge that fails was not accepted, nor was any before it. -/
theorem charge_refused {request : RailChargeRequest} {tables : ProcessorWorld}
    {answer : HttpAnswer} {e : RailErr} (hhonoured : Honoured w answer (.charge request))
    (he : HTTPRail.charge answer = .error e) :
    ¬ (w.after tables answer (.charge request)).Taken request.paymentID := by
  have hanswer : ¬ answer.Accepted := by
    intro haccepted
    obtain ⟨result, hok⟩ := HTTPRail.charge_accepted haccepted hhonoured.1
    rw [he] at hok
    cases hok
  rintro ⟨charge, hmem, hpayment, haccepted⟩
  cases List.mem_append.mp hmem with
  | inl hold => exact hanswer (hhonoured.2 ⟨charge, hold, hpayment, haccepted⟩)
  | inr hnew =>
    cases List.mem_singleton.mp hnew
    exact hanswer haccepted

/-- What is learned of a charge that fails. -/
theorem Held.Refuses.learn (hk : k.Refuses w) (hhonoured : Honoured w c.answer o)
    {tables : ProcessorWorld} {paymentID : String} {e : RailErr}
    (hlearn : k.learn o (o.exec (c.seen HTTPRail.charge) w.tables).1 =
      .answered paymentID (.error e)) : ¬ (w.after tables c.answer o).Taken paymentID := by
  cases o with
  | now =>
    rw [RailWorld.taken_after rfl]
    exact hk.2 paymentID e hlearn
  | sleep backoff =>
    rw [RailWorld.taken_after rfl]
    exact hk.2 paymentID e hlearn
  | charge request =>
    obtain ⟨rfl, he⟩ := Held.answered.inj hlearn
    exact charge_refused hhonoured he
  | _ =>
    -- the other calls teach nothing about charges
    generalize (ProcessorOp.exec _ _ w.tables).1 = r at hlearn
    cases r <;> cases hlearn

def refusedContract (limit : Nat) : Contract (railMachine HTTPRail.charge) :=
  .undisturbed (fun _ o w c => Honoured w c.answer o) (RailWorld.Refused limit) fun _ _ => True

theorem Held.Move.refused (hmove : k.Move limit o) (hi : w.Refused limit) (hk : k.Refuses w) :
    ((railMachine HTTPRail.charge).exec c o w).2.Refused limit := by
  obtain ⟨hexact, hsettled, -⟩ := hmove.exec (c := c) hi.exact hk.1
  rw [railMachine_exec] at hexact hsettled ⊢
  -- either nothing has happened, or what the call does when it reaches its target
  have htables : (o.exec (c.seen HTTPRail.charge) w.tables).2 = w.tables ∨
      ∃ a, o.run (c.seen HTTPRail.charge) w.tables =
        (.ok a, (o.exec (c.seen HTTPRail.charge) w.tables).2) := by
    rcases o.exec_outcome (c.seen HTTPRail.charge) w.tables with
      ⟨e, he⟩ | ⟨a, tables, hrun, he | ⟨e, he⟩⟩
    · exact .inl (by rw [he])
    · exact .inr ⟨a, by rw [he, hrun]⟩
    · exact .inr ⟨a, by rw [he, hrun]⟩
  refine ⟨hexact, ?_, fun paymentID hfailed => ?_⟩
  · rcases htables with hsame | ⟨a, hrun⟩
    · show ProcessorWorld.Agreed (o.exec (c.seen HTTPRail.charge) w.tables).2
      rw [hsame]
      exact hi.agreed
    · exact hmove.run_agreed hi.exact hk.1 hi.agreed hrun
  · have hbefore : w.tables.HasStatus paymentID .failed ∨
        ∃ failure time, o = .markFailed paymentID failure time := by
      rcases htables with hsame | ⟨a, hrun⟩
      · exact .inl (hsame ▸ hfailed)
      · exact hmove.run_failed hi.exact hk.1 hrun hfailed
    rcases hbefore with hold | ⟨failure, time, rfl⟩
    · exact fun htaken => hi.failed paymentID hold (hsettled.taken (by decide) hold htaken)
    · obtain ⟨e, rfl⟩ := hmove
      rw [RailWorld.taken_after rfl]
      exact hk.2 paymentID e rfl

theorem refusedContract_sound : (chargeDiscipline limit).Sound (refusedContract limit)
    fun k _ w => k.Refuses w where
  mono := by
    rintro k _ _ w rfl hk
    exact hk
  stable hk hrely _ := by
    obtain rfl := hrely
    exact hk
  answers c o w := o.exec_answer (c.seen HTTPRail.charge) w.tables
  step {k o learn _ w c} hmove hi hk hhonoured := by
    obtain ⟨hmove, rfl⟩ := hmove
    refine ⟨hmove.refused hi hk, trivial, (hmove.exec hi.exact hk.1).2.2, ?_⟩
    exact fun paymentID e hlearn => hk.learn hhonoured hlearn

end Histories

/-- No accepted charge is reported as failed, as long as the rail answers every charge with a
    body that can be read if it accepts it, and accepts a charge again. -/
theorem accepted_not_failed (backoffs : List Nat)
    (calls : List (PaymentExecute × List (RailChoice HttpAnswer)))
    (hrail : SerialAlong (railMachine HTTPRail.charge) (handleExecute backoffs)
      (fun o w c _ => Honoured w c.answer o) calls {}) :
    ∀ record ∈ (chargeInTurn HTTPRail.charge backoffs calls).tables.outbox,
      record.payload.verdict = .failed →
      ∀ charge ∈ (chargeInTurn HTTPRail.charge backoffs calls).charges,
        charge.request.paymentID = record.payload.paymentID → ¬ charge.answer.Accepted := by
  have hempty : ({} : RailWorld HttpAnswer).Refused (backoffs.length + 1) := by
    refine ⟨.empty _, by simp [ProcessorWorld.Agreed], ?_⟩
    rintro paymentID - ⟨charge, hmem, -⟩
    cases hmem
  have hsafe : ∀ command w, (refusedContract (backoffs.length + 1)).inv w →
      (refusedContract (backoffs.length + 1)).Safe (handleExecute backoffs command) () w :=
    fun command w _ => ((handleExecute_charges backoffs command (k := .nothing)).holds
      refusedContract_sound ⟨trivial, by simp⟩).safe
  have hrefused : (chargeInTurn HTTPRail.charge backoffs calls).Refused (backoffs.length + 1) :=
    serial_inv_along (fun _ _ _ _ hhonoured _ => hhonoured) hsafe hempty hrail
  intro record hrecord hverdict charge hcharge hpayment haccepted
  have hstatus := hrefused.agreed record hrecord
  rw [hverdict] at hstatus
  exact hrefused.failed _ hstatus ⟨charge, hcharge, hpayment, haccepted⟩

namespace Sample

/-- Choices in which the rail gives each charge the same answer. -/
def railChoices (answer : HttpAnswer) (count : Nat) : List (RailChoice HttpAnswer) :=
  (List.range count).map fun n =>
    { clock := 1000 * (n + 2), id := "attempt-1", dbNow := 1000 * (n + 2), answer := answer }

/-- The rail takes the charge, and its response breaks off. -/
def brokenOff : HttpAnswer := .response { statusCode := 200, statusText := "OK" }

def notFound : HttpAnswer := .response { statusCode := 404, statusText := "Not Found" }

end Sample

/-- A 4xx answer fails the payment, and no charge of it was accepted. -/
theorem accepted_not_failed_refused :
    SerialAlong (railMachine HTTPRail.charge) (handleExecute Sample.backoffs)
        (fun o w c _ => Honoured w c.answer o)
        [(Sample.executeCommand, Sample.railChoices Sample.notFound 9)] {} ∧
      ∃ record ∈ (chargeInTurn HTTPRail.charge Sample.backoffs
          [(Sample.executeCommand, Sample.railChoices Sample.notFound 9)]).tables.outbox,
        record.payload.verdict = .failed ∧
        ∀ charge ∈ (chargeInTurn HTTPRail.charge Sample.backoffs
            [(Sample.executeCommand, Sample.railChoices Sample.notFound 9)]).charges,
          charge.request.paymentID = record.payload.paymentID → ¬ charge.answer.Accepted := by
  have hrail : SerialAlong (railMachine HTTPRail.charge) (handleExecute Sample.backoffs)
      (fun o w c _ => Honoured w c.answer o)
      [(Sample.executeCommand, Sample.railChoices Sample.notFound 9)] {} := by decide +kernel
  have hfailed : ∃ record ∈ (chargeInTurn HTTPRail.charge Sample.backoffs
      [(Sample.executeCommand, Sample.railChoices Sample.notFound 9)]).tables.outbox,
      record.payload.verdict = .failed := by decide +kernel
  obtain ⟨record, hrecord, hverdict⟩ := hfailed
  exact ⟨hrail, record, hrecord, hverdict,
    accepted_not_failed Sample.backoffs _ hrail record hrecord hverdict⟩

/-- The rail answers a charge with 200, but its response breaks off: the payment fails. -/
theorem accepted_charge_failed :
    ∃ record ∈ (chargeInTurn HTTPRail.charge Sample.backoffs
        [(Sample.executeCommand, Sample.railChoices Sample.brokenOff 9)]).tables.outbox,
      record.payload.verdict = .failed ∧
      ∃ charge ∈ (chargeInTurn HTTPRail.charge Sample.backoffs
          [(Sample.executeCommand, Sample.railChoices Sample.brokenOff 9)]).charges,
        charge.request.paymentID = record.payload.paymentID ∧ charge.answer.Accepted := by
  decide +kernel

end EnjoyThings
