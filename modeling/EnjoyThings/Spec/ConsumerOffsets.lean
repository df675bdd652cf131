import EnjoyThings.ForStd.Discipline
import EnjoyThings.Services.Consumers
import EnjoyThings.Spec.Timestamps

/-!
# Which records the committed offset passes

A record is settled once its handler has succeeded or it has been written to the
dead-letter topic of its topic. Every consumer commits a record only after it has settled
it, but the commit moves the offset past all the records before it as well, and after an
error the consumers go on with the next record. So the offset stays behind every record
that is not settled as long as no record succeeds while an earlier one is waiting.

What a consumer knows is the offset up to which the partition is settled
(`offsetDiscipline`); it is allowed to commit that offset and no other.

## Key results

- `session_careful`: every consumer commits only what it knows to be settled
- `committed_settled`: in an orderly run the committed offset passes settled records only
-/

namespace EnjoyThings

open Effect

/-! ## Settled records -/

namespace ConsumerWorld

variable {B : Type}

/-- The record has been handled, or is in the dead-letter topic of its topic. -/
def Settled (w : ConsumerWorld B) (record : ConsumedRecord B) : Prop :=
  record.offset ∈ w.handled ∨
    ∃ p ∈ w.parked, p.1 = DeadLetter.topicFor record.topic ∧ p.2.toConsumedRecord = record

instance [DecidableEq B] (w : ConsumerWorld B) (record : ConsumedRecord B) :
    Decidable (w.Settled record) :=
  inferInstanceAs (Decidable (_ ∨ _))

/-- Nothing that is settled is taken back. -/
def Keeps (w w' : ConsumerWorld B) : Prop :=
  ∀ record, w.Settled record → w'.Settled record

theorem keeps_handle (w : ConsumerWorld B) (offset : Nat) :
    w.Keeps { w with handled := w.handled ++ [offset] } := by
  intro record h
  cases h with
  | inl h => exact .inl (List.mem_append_left _ h)
  | inr h => exact .inr h

theorem keeps_publish (w : ConsumerWorld B) (letter : String × DeadLetter B) :
    w.Keeps { w with parked := w.parked ++ [letter] } := by
  intro record h
  cases h with
  | inl h => exact .inl h
  | inr h =>
    obtain ⟨p, hp, hletter⟩ := h
    exact .inr ⟨p, List.mem_append_left _ hp, hletter⟩

end ConsumerWorld

namespace Partition

variable {service : ConsumerService} {B : Type} (partition : Partition service B)

/-- Offsets count the records. -/
theorem getElem?_records {record : ConsumedRecord B} (h : record ∈ partition.records) :
    partition.records[record.offset]? = some record := by
  obtain ⟨i, hi, rfl⟩ := List.mem_iff_getElem.mp h
  have hoffset : (partition.records[i]).offset = i := by simp [records, Partition.record]
  rw [hoffset]
  exact List.getElem?_eq_getElem hi

theorem record_unique {r r' : ConsumedRecord B} (h : r ∈ partition.records)
    (h' : r' ∈ partition.records) (heq : r.offset = r'.offset) : r = r' := by
  have hr := partition.getElem?_records h
  rw [heq, partition.getElem?_records h'] at hr
  exact (Option.some.inj hr).symm

theorem topic_of_mem {record : ConsumedRecord B} (h : record ∈ partition.records) :
    record.topic = partition.topic := by
  obtain ⟨i, hi, rfl⟩ := List.mem_iff_getElem.mp h
  simp [records, Partition.record]

/-- All records up to the offset are settled. -/
def SettledTo (w : ConsumerWorld B) (offset : Nat) : Prop :=
  ∀ record ∈ partition.records, record.offset ≤ offset → w.Settled record

/-- All records before the offset are settled. -/
def SettledBefore (w : ConsumerWorld B) (offset : Nat) : Prop :=
  ∀ record ∈ partition.records, record.offset < offset → w.Settled record

instance [DecidableEq B] (w : ConsumerWorld B) (offset : Nat) :
    Decidable (partition.SettledBefore w offset) :=
  inferInstanceAs (Decidable (∀ _ ∈ _, _ → _))

variable {partition} {w w' : ConsumerWorld B} {offset : Nat}

theorem SettledBefore.keeps (h : partition.SettledBefore w offset) (hk : w.Keeps w') :
    partition.SettledBefore w' offset :=
  fun record hr ho => hk record (h record hr ho)

/-- The records before the offset and the one at it. -/
theorem SettledBefore.to (h : partition.SettledBefore w offset)
    (hat : ∀ record ∈ partition.records, record.offset = offset → w.Settled record) :
    partition.SettledTo w offset := by
  intro record hr ho
  by_cases heq : record.offset = offset
  · exact hat record hr heq
  · exact h record hr (by omega)

theorem SettledTo.before_succ (h : partition.SettledTo w offset) :
    partition.SettledBefore w (offset + 1) :=
  fun record hr ho => h record hr (by omega)

end Partition

/-! ## What a consumer knows -/

section Discipline

variable {service : ConsumerService} {U B : Type} (partition : Partition service B)

/-- What an answer teaches: with the record at an offset handled or parked, the partition is
    settled up to there, as far as it was settled before. -/
def settledBy (known : Option Nat) :
    (o : ConsumerOp U B) → Except ConsumerErr o.Ret → Option Nat
  | .handle offset _, .ok _ => some offset
  | .publish _ letter, .ok _ => some letter.offset
  | .commit _, _ => known
  | _, _ => none

/-- Records of the partition are parked in the right topic, and only what is known to be settled
    is committed. -/
def CallsKnowing (known : Option Nat) : ConsumerOp U B → Prop
  | .poll | .handle _ _ => True
  | .publish topic letter =>
    letter.toConsumedRecord ∈ partition.records ∧ topic = DeadLetter.topicFor letter.topic
  | .commit offset => known = some offset

def offsetDiscipline : Discipline (ConsumerOp U B) ConsumerOp.Ret ConsumerErr (Option Nat) where
  move known o learn := CallsKnowing partition known o ∧ learn = settledBy known o
  answer
    | .poll, .ok records => records ⊆ partition.records
    | _, _ => True
  le known known' := known' = none ∨ known' = known
  le_refl _ := .inr rfl
  le_trans := by
    rintro k l m (rfl | rfl) (rfl | rfl) <;> simp

/-- The handler of a record succeeds, or its dead letter is written, only when no earlier record
    of the partition is waiting. -/
def ConsumerOp.Orderly : ConsumerOp U B → ConsumerWorld B → Fault → Prop
  | .handle offset _, w, .none => partition.SettledBefore w offset
  | .publish _ letter, w, .none => partition.SettledBefore w letter.offset
  | _, _, _ => True

instance [DecidableEq B] : (o : ConsumerOp U B) → (w : ConsumerWorld B) → (fault : Fault) →
    Decidable (o.Orderly partition w fault)
  | .handle offset _, w, .none => inferInstanceAs (Decidable (partition.SettledBefore w offset))
  | .publish _ letter, w, .none =>
    inferInstanceAs (Decidable (partition.SettledBefore w letter.offset))
  | .handle _ _, _, .notDelivered | .handle _ _, _, .answerLost => .isTrue trivial
  | .publish _ _, _, .notDelivered | .publish _ _, _, .answerLost => .isTrue trivial
  | .poll, _, _ | .commit _, _, _ => .isTrue trivial

/-- The offset has passed settled records only. -/
def offsetContract : Contract (consumerMachine U partition) :=
  .undisturbed (fun _ o w fault => o.Orderly partition w fault)
    (fun w => partition.SettledBefore w w.committed) fun _ _ => True

variable {partition}

/-- A handler that succeeds in its turn. -/
theorem Partition.SettledBefore.handled {w : ConsumerWorld B} {offset : Nat}
    (h : partition.SettledBefore w offset) :
    partition.SettledTo { w with handled := w.handled ++ [offset] } offset := by
  apply (h.keeps (w.keeps_handle offset)).to
  intro record _ ho
  exact .inl (by simp [ho])

/-- A dead letter that is written in its turn. -/
theorem Partition.SettledBefore.parked {w : ConsumerWorld B} {letter : DeadLetter B}
    (h : partition.SettledBefore w letter.offset)
    (hmem : letter.toConsumedRecord ∈ partition.records) :
    partition.SettledTo
      { w with parked := w.parked ++ [(DeadLetter.topicFor letter.topic, letter)] }
      letter.offset := by
  apply (h.keeps (w.keeps_publish _)).to
  intro record hr ho
  -- offsets are unique, so it is the record of the letter
  have heq : letter.toConsumedRecord = record := partition.record_unique hmem hr ho.symm
  exact .inr ⟨(DeadLetter.topicFor letter.topic, letter), by simp, by rw [← heq], heq⟩

theorem offsetDiscipline_sound :
    (offsetDiscipline (U := U) partition).Sound (offsetContract partition)
      fun known _ w => ∀ offset, known = some offset → partition.SettledTo w offset where
  mono := by
    rintro k l _ w (rfl | rfl) hk
    · simp
    · exact hk
  stable := by
    rintro k _ w _ hk rfl _
    exact hk
  answers fault o w := by
    cases o <;> cases fault <;>
      simp [offsetDiscipline, consumerMachine, ConsumerOp.exec, ConsumerOp.run,
        Partition.recordsFrom]
  step {known o learn _ w fault} hmove hi hk hallow := by
    obtain ⟨hmay, rfl⟩ := hmove
    have hnothing : ∀ w offset, none = some offset → partition.SettledTo w offset := by simp
    cases o with
    | poll => cases fault <;> exact ⟨hi, trivial, hnothing _⟩
    | handle offset call =>
      cases fault with
      | none =>
        refine ⟨hi.keeps (w.keeps_handle offset), trivial, ?_⟩
        rintro _ ⟨rfl⟩
        exact Partition.SettledBefore.handled hallow
      | notDelivered => exact ⟨hi, trivial, hnothing _⟩
      | answerLost => exact ⟨hi, trivial, hnothing _⟩
    | publish topic letter =>
      obtain ⟨hmem, rfl⟩ := hmay
      cases fault with
      | none =>
        refine ⟨hi.keeps (w.keeps_publish _), trivial, ?_⟩
        rintro _ ⟨rfl⟩
        exact Partition.SettledBefore.parked hallow hmem
      | notDelivered => exact ⟨hi, trivial, hnothing _⟩
      | answerLost => exact ⟨hi.keeps (w.keeps_publish _), trivial, hnothing _⟩
    | commit offset =>
      -- the offset moves past records that are known to be settled
      have hcommit : partition.SettledBefore w (offset + 1) := (hk offset hmay).before_succ
      cases fault with
      | none => exact ⟨hcommit, trivial, hk⟩
      | notDelivered => exact ⟨hi, trivial, hk⟩
      | answerLost => exact ⟨hcommit, trivial, hk⟩

end Discipline

/-! ## The consumers -/

section Programs

variable {service : ConsumerService} {U B : Type} {partition : Partition service B}
  {record : ConsumedRecord B} {known : Option Nat}

variable (partition) in
/-- The program commits only what it knows to be settled. -/
abbrev Careful {α : Type} (p : ConsumerProg U B α) (known : Option Nat) : Prop :=
  (offsetDiscipline partition).Follows (fun _ _ => True) p known

namespace Consumer

theorem commit_careful : Careful partition (U := U) (commit record) (some record.offset) :=
  .perform ⟨rfl, rfl⟩ fun _ _ => trivial

theorem handle_commit_careful (call : AppCall U) :
    Careful partition (do handle record call; commit record) known := by
  unfold handle
  rw [Prog.perform_bind]
  exact .call ⟨trivial, rfl⟩ (fun _ _ => commit_careful) fun _ => trivial

theorem deadLetter_careful (hmem : record ∈ partition.records) (cause : String) :
    Careful partition (U := U) (deadLetter record cause) known := by
  unfold deadLetter park
  rw [Prog.perform_bind]
  exact .call ⟨⟨hmem, rfl⟩, rfl⟩ (fun _ _ => commit_careful) fun _ => trivial

theorem settle_careful (hmem : record ∈ partition.records) (result : Except String (AppCall U)) :
    Careful partition (settle record result) known := by
  cases result with
  | error cause => exact deadLetter_careful hmem cause
  | ok call => exact handle_commit_careful call

/-- By induction on the records: an error of one leaves nothing known for the next. -/
theorem run_careful {handleRecord : ConsumedRecord B → ConsumerProg U B Unit}
    (hrecord : ∀ record ∈ partition.records, ∀ known,
      Careful partition (handleRecord record) known)
    {records : List (ConsumedRecord B)} (hmem : records ⊆ partition.records) :
    Careful partition (run handleRecord records) known := by
  induction records generalizing known with
  | nil => exact .done trivial
  | cons record records ih =>
    obtain ⟨hr, hrest⟩ := List.cons_subset.mp hmem
    have hattempt : Careful partition (handleRecord record).attempt known :=
      .attempt (hrecord record hr known)
    exact hattempt.bind (fun _ _ _ => ih hrest) fun _ _ _ => trivial

end Consumer

/-- What the payment processor gets are commands that decode and validate; the other consumers
    park what they cannot read. -/
def ConsumerService.Reads (decoders : Decoders B) : ConsumerService → ConsumedRecord B → Prop
  | .paymentProcessor, record => (ProcessorConsumer.command? decoders record.value).isSome
  | _, _ => True

variable (decoders : Decoders B)

/-- A record of a subscribed topic is never committed unread. -/
theorem SagaConsumer.handleRecord_careful (hmem : record ∈ partition.records)
    (htopic : record.topic ∈ SagaConsumer.topics) :
    Careful partition (U := U) (SagaConsumer.handleRecord decoders record) known := by
  unfold SagaConsumer.handleRecord
  by_cases h₁ : record.topic = topicPaymentCompleted
  · rw [if_pos h₁]
    exact Consumer.settle_careful hmem _
  rw [if_neg h₁]
  by_cases h₂ : record.topic = topicPaymentFailed
  · rw [if_pos h₂]
    exact Consumer.settle_careful hmem _
  rw [if_neg h₂]
  have h₃ : record.topic = fraudFlaggedTopic := by
    simpa [SagaConsumer.topics, h₁, h₂] using htopic
  rw [if_pos h₃]
  exact Consumer.settle_careful hmem _

theorem LedgerConsumer.handleRecord_careful [UuidLib U] (hmem : record ∈ partition.records) :
    Careful partition (U := U) (LedgerConsumer.handleRecord decoders record) known :=
  Consumer.settle_careful hmem _

theorem ProcessorConsumer.handleRecord_careful (htopic : record.topic = topicPaymentExecute)
    (hreads : (ProcessorConsumer.command? decoders record.value).isSome) :
    Careful partition (U := U) (ProcessorConsumer.handleRecord decoders record) known := by
  obtain ⟨command, hcommand⟩ := Option.isSome_iff_exists.mp hreads
  unfold ProcessorConsumer.handleRecord
  rw [if_pos htopic, hcommand]
  exact Consumer.handle_commit_careful _

theorem NotificationConsumer.handleRecord_careful (hmem : record ∈ partition.records)
    (htopic : record.topic ∈ Notification.supportedTopics) :
    Careful partition (U := U) (NotificationConsumer.handleRecord decoders record) known := by
  unfold NotificationConsumer.handleRecord
  rw [if_pos htopic]
  exact Consumer.settle_careful hmem _

namespace KafkaWorkerRunner

/-- The decision to commit is made with the record handled. -/
theorem handlePayload_follows [Py.IsoLib] :
    (offsetDiscipline partition).Follows
      (fun r known => r = .ok .commit → known = some record.offset)
      (handlePayload (U := U) decoders record) known := by
  unfold handlePayload
  split
  · exact .fail (by simp)
  · exact .done (by simp)
  · unfold Consumer.handle
    rw [Prog.attempt_perform_bind]
    refine ⟨known, _, .inr rfl, ⟨trivial, rfl⟩, fun r _ => ?_⟩
    cases r with
    | ok _ => exact .done fun _ => rfl
    | error _ => exact .done (by simp)

theorem deadLetter_follows (hmem : record ∈ partition.records) :
    (offsetDiscipline partition).Follows
      (fun r known => r = .ok true → known = some record.offset)
      (deadLetter (U := U) record) known := by
  unfold deadLetter Consumer.park
  rw [Prog.attempt_perform_bind]
  refine ⟨known, _, .inr rfl, ⟨⟨hmem, rfl⟩, rfl⟩, fun r _ => ?_⟩
  cases r with
  | ok _ => exact .done fun _ => rfl
  | error _ => exact .done (by simp)

theorem handleRecord_careful [Py.IsoLib] (hmem : record ∈ partition.records) :
    Careful partition (U := U) (handleRecord decoders record) known := by
  apply (handlePayload_follows decoders).bind _ fun _ _ _ => trivial
  intro decision known hdecision
  cases decision with
  | commit =>
    rw [hdecision rfl]
    exact Consumer.commit_careful
  | retry => exact .done trivial
  | deadLetter =>
    apply (deadLetter_follows hmem).bind _ fun _ _ _ => trivial
    intro parked known hparked
    cases parked with
    | true =>
      rw [hparked rfl]
      exact Consumer.commit_careful
    | false => exact .done trivial

theorem run_careful [Py.IsoLib] {records : List (ConsumedRecord B)}
    (hmem : records ⊆ partition.records) :
    Careful partition (U := U) (run decoders records) known := by
  induction records generalizing known with
  | nil => exact .done trivial
  | cons record records ih =>
    obtain ⟨hr, hrest⟩ := List.cons_subset.mp hmem
    have hrecord : Careful partition (U := U) (handleRecord decoders record) known :=
      handleRecord_careful decoders hr
    exact hrecord.bind (fun _ _ _ => ih hrest) fun _ _ _ => trivial

end KafkaWorkerRunner

variable [UuidLib U] [Py.IsoLib]

theorem loop_careful (hreads : ∀ record ∈ partition.records, service.Reads decoders record)
    {records : List (ConsumedRecord B)} (hmem : records ⊆ partition.records) :
    Careful partition (U := U) (service.loop decoders records) known := by
  have htopic : ∀ record ∈ partition.records, record.topic ∈ service.topics := fun record hr => by
    rw [partition.topic_of_mem hr]
    exact partition.subscribed
  cases service with
  | saga =>
    exact Consumer.run_careful (fun record hr known =>
      SagaConsumer.handleRecord_careful decoders hr (htopic record hr)) hmem
  | ledger topic =>
    exact Consumer.run_careful (fun record hr known =>
      LedgerConsumer.handleRecord_careful decoders hr) hmem
  | paymentProcessor =>
    exact Consumer.run_careful (fun record hr known =>
      ProcessorConsumer.handleRecord_careful decoders (List.mem_singleton.mp (htopic record hr))
        (hreads record hr)) hmem
  | notification =>
    exact Consumer.run_careful (fun record hr known =>
      NotificationConsumer.handleRecord_careful decoders hr (htopic record hr)) hmem
  | fraudWorker topic => exact KafkaWorkerRunner.run_careful decoders hmem

theorem session_careful (hreads : ∀ record ∈ partition.records, service.Reads decoders record) :
    Careful partition (U := U) (service.session decoders) known := by
  unfold ConsumerService.session
  rw [Prog.perform_bind]
  exact .call ⟨trivial, rfl⟩ (fun records hrecords => loop_careful decoders hreads hrecords)
    fun _ => trivial

end Programs

/-! ## Runs -/

section Runs

variable {service : ConsumerService} (U : Type) {B : Type} [UuidLib U] [Py.IsoLib]
  (decoders : Decoders B) (partition : Partition service B)

/-- The partition after sessions that each stop anywhere, from a group that has committed
    nothing. -/
def consuming (sessions : List (List Fault)) : ConsumerWorld B :=
  serial (consumerMachine U partition) (fun _ : Unit => service.session decoders)
    (sessions.map fun faults => ((), faults)) {}

/-- Every call of the sessions is orderly. -/
def OrderlySessions (sessions : List (List Fault)) : Prop :=
  SerialAlong (consumerMachine U partition) (fun _ : Unit => service.session decoders)
    (fun o w fault _ => o.Orderly partition w fault)
    (sessions.map fun faults => ((), faults)) {}

instance [DecidableEq B] (sessions : List (List Fault)) :
    Decidable (OrderlySessions U decoders partition sessions) :=
  inferInstanceAs (Decidable (SerialAlong _ _ _ _ _))

variable {partition}

theorem consuming_settled (hreads : ∀ record ∈ partition.records, service.Reads decoders record)
    {sessions : List (List Fault)} (horderly : OrderlySessions U decoders partition sessions) :
    partition.SettledBefore (consuming U decoders partition sessions)
      (consuming U decoders partition sessions).committed := by
  let contract : Contract (consumerMachine U partition) := offsetContract partition
  have hsafe : ∀ (_ : Unit) w, contract.inv w →
      contract.Safe (service.session decoders) () w := by
    intro _ w _
    exact ((session_careful decoders hreads).holds offsetDiscipline_sound
      (k := none) (by simp)).safe
  have hstart : contract.inv {} := fun _ _ h => absurd h (Nat.not_lt_zero _)
  exact serial_inv_along (fun _ _ _ _ h _ => h) hsafe hstart horderly

/-- In every state that orderly sessions of a consumer reach, whatever fails and wherever each
    session stops, the committed offset has passed only records that were handled or
    dead-lettered, and a session that starts there is given every other record again. -/
theorem committed_settled (hreads : ∀ record ∈ partition.records, service.Reads decoders record)
    {sessions : List (List Fault)} (horderly : OrderlySessions U decoders partition sessions) :
    ∀ record ∈ partition.records,
      (record.offset < (consuming U decoders partition sessions).committed →
        (consuming U decoders partition sessions).Settled record) ∧
      (¬ (consuming U decoders partition sessions).Settled record →
        ∃ records, ((consumerMachine U partition).exec .none .poll
          (consuming U decoders partition sessions)).1 = .ok records ∧ record ∈ records) := by
  intro record hmem
  have hpassed := consuming_settled U decoders hreads horderly record hmem
  refine ⟨hpassed, fun hwaiting => ⟨_, rfl, ?_⟩⟩
  apply List.mem_filter.mpr
  refine ⟨hmem, decide_eq_true ?_⟩
  have hnot : ¬ record.offset < (consuming U decoders partition sessions).committed :=
    fun h => hwaiting (hpassed h)
  show (consuming U decoders partition sessions).committed ≤ record.offset
  omega

end Runs

namespace Sample

/-- Every value is the result `payment.completed` of one payment and no command. -/
def decoders : Decoders Unit where
  txCompleted _ := .error "invalid"
  txFailed _ := .error "invalid"
  txPaused _ := .error "invalid"
  userVerified _ := .error "invalid"
  userRejected _ := .error "invalid"
  paymentCompleted _ := .ok
    { eventID := "event-1", paymentID := "payment-1", idempotencyKey := "key-1"
      traceID := "trace-1", processorPaymentID := "rail-1", status := "completed"
      completedAt := 2000, occurredAt := 2000 }
  paymentFailed _ := .error "invalid"
  fraudFlagged _ := .error "invalid"
  transactionInitiated _ := .error "invalid"
  paymentExecute _ := .error "invalid"
  loads _ := .error .jsonDecodeError

/-- Two results in one partition. -/
def results : Partition .saga Unit :=
  { topic := topicPaymentCompleted, subscribed := by decide, entries := [((), ()), ((), ())] }

/-- A command that does not decode. -/
def commands : Partition .paymentProcessor Unit :=
  { topic := topicPaymentExecute, subscribed := by decide, entries := [((), ())] }

/-- The first result fails and the session ends there; the next session handles both. -/
def restarted : List (List Fault) :=
  [[.none, .notDelivered], [.none, .none, .none, .none, .none]]

/-- The first result fails and the session goes on with the second. -/
def wentOn : List (List Fault) :=
  [[.none, .notDelivered, .none, .none]]

/-- The partition after the sessions. -/
def consumed {service : ConsumerService} (partition : Partition service Unit)
    (sessions : List (List Fault)) : ConsumerWorld Unit :=
  @consuming service CanonicalUuid Unit _ Py.extendedIso decoders partition sessions

end Sample

theorem committed_settled_restarted :
    (Sample.consumed Sample.results Sample.restarted).committed = 2 ∧
      ∀ record ∈ Sample.results.records, record.offset < 2 →
        (Sample.consumed Sample.results Sample.restarted).Settled record := by
  have hcommitted : (Sample.consumed Sample.results Sample.restarted).committed = 2 := by
    decide +kernel
  have horderly : @OrderlySessions .saga CanonicalUuid Unit _ Py.extendedIso Sample.decoders
      Sample.results Sample.restarted := by
    decide +kernel
  refine ⟨hcommitted, fun record hmem hoffset => ?_⟩
  have hsettled := @committed_settled .saga CanonicalUuid Unit _ Py.extendedIso Sample.decoders
    Sample.results (fun _ _ => trivial) Sample.restarted horderly record hmem
  apply hsettled.1
  show record.offset < (Sample.consumed Sample.results Sample.restarted).committed
  rw [hcommitted]
  exact hoffset

/-- The first result of a partition fails, the second is handled and committed, and the next
    session is not given the first one again. The payment processor commits a command that it
    cannot read. -/
theorem failed_record_passed :
    (∃ record ∈ Sample.results.records,
      record.offset < (Sample.consumed Sample.results Sample.wentOn).committed ∧
      ¬ (Sample.consumed Sample.results Sample.wentOn).Settled record ∧
      record ∉ Sample.results.recordsFrom
        (Sample.consumed Sample.results Sample.wentOn).committed) ∧
    ∃ record ∈ Sample.commands.records,
      record.offset < (Sample.consumed Sample.commands [[.none, .none]]).committed ∧
      ¬ (Sample.consumed Sample.commands [[.none, .none]]).Settled record := by
  decide +kernel

end EnjoyThings
