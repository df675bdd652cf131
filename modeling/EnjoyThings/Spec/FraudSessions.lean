import EnjoyThings.ForStd.Discipline
import EnjoyThings.ForStd.List
import EnjoyThings.Services.FraudWorker

/-!
# Sessions are decided once

Any number of workers share the table of sessions. A worker may claim an incomplete
session only when nobody else has a lease on it, but a completed one at any time, and
`complete_session` does not look whether the session is completed already. What keeps
the outcome is the lease: a worker that has read a session as incomplete knows that it
still is, as long as the row says that the lease is its own, because nobody can complete
a session under somebody else's lease and nobody can hand a lease to another worker.

`Grasp` is what a worker knows about the session of its request, `sessionDiscipline` says
which calls it makes with what knowledge, and `sessionTerms` is what the workers grant
each other.

## Key results

- `Grasp.Move.teaches`: a call that a worker may make keeps what the workers share, and
  teaches what it says
- `exec_sameButLease`: only the worker with the lease changes a session
-/

namespace EnjoyThings

open Effect

/-! ## Outcomes and events -/

namespace FraudOutcome

/-- The outcome is announced to the orchestrator as a flag. -/
def Flags (outcome : FraudOutcome) : Prop :=
  outcome.action = some .flag ∨ outcome.action = some .block

/-- A reason code is one that the orchestrator knows. -/
def Coded (outcome : FraudOutcome) : Prop :=
  ∀ code, outcome.reasonCode = some code → code ∈ fraudReasons

end FraudOutcome

theorem failOpen_coded {code : String} (h : code ∈ fraudReasons) :
    (FraudGraph.failOpen code).Coded := by
  rintro _ ⟨rfl⟩
  exact h

theorem fraudReasons_stored : ∀ code ∈ fraudReasons,
    String.ofList (code.toList.take 100) = code ∧ code ≠ "" := by
  decide

variable {outcome : FraudOutcome}

/-- What `complete_session` writes is read back as it was. -/
theorem SessionRow.complete_outcome {U : Type} (row : SessionRow U) (h : outcome.Coded)
    (now : Time) : (row.complete outcome now).outcome = outcome := by
  obtain ⟨action, verdict, reasonCode⟩ := outcome
  have haction : fraudAction (action.elim "fail_open" FraudAction.text) = action := by
    cases action with
    | none => rfl
    | some action => cases action <;> rfl
  have hreason : (if String.ofList ((reasonCode.getD "").toList.take 100) = "" then none
      else some (String.ofList ((reasonCode.getD "").toList.take 100))) = reasonCode := by
    cases reasonCode with
    | none => rfl
    | some code =>
      obtain ⟨hstored, hne⟩ := fraudReasons_stored code (h code rfl)
      rw [Option.getD_some, hstored, if_neg hne]
  simp only [SessionRow.outcome, SessionRow.complete, haction]
  exact congrArg (FraudOutcome.mk action verdict) hreason

/-- The event announces the outcome of the session with the event ID. -/
structure Published.Announces (event : Published) (eventID : Py.Str) (outcome : FraudOutcome) :
    Prop where
  topic : event.topic = fraudFlaggedTopic
  id : Py.Json.get event.event "event_id" =
    some (.str (Py.ofString "fraud.flagged:" ++ eventID))
  content : ∃ action verdict, outcome.action = some action ∧ outcome.verdict = some verdict ∧
    Py.Json.get event.event "action" = some (.str (Py.ofString action.text)) ∧
    Py.Json.get event.event "risk_score" = some (.float (.finite verdict.riskScore)) ∧
    Py.Json.get event.event "reason" = some (.str verdict.reason)

variable {sessionID : Py.Str}

namespace KafkaFraudPublisher

open Except (bind_eq_ok ofOption_eq_ok)

theorem send_eq_ok {topic : String} {key : Py.Str} {event : List (Py.Str × Py.Json)}
    {published : Published} (h : send topic key event = .ok published) :
    published = { topic := topic, key := key, event := event } := by
  obtain ⟨_, -, h⟩ := bind_eq_ok.mp h
  exact (Except.ok.inj h).symm

theorem publishFlagged_announces {env : PublisherEnv} {request : FraudScoreRequest}
    {event : Published} (h : publishFlagged env request outcome sessionID = .ok event) :
    event.Announces request.eventID outcome := by
  obtain ⟨verdict, hverdict, h⟩ := bind_eq_ok.mp h
  obtain ⟨action, haction, h⟩ := bind_eq_ok.mp h
  rw [send_eq_ok h]
  have hsome := (Option.filter_eq_some_iff.mp (ofOption_eq_ok.mp haction)).1
  exact ⟨rfl, rfl, action, verdict, hsome, ofOption_eq_ok.mp hverdict, rfl, rfl, rfl⟩

end KafkaFraudPublisher

/-! ## Rows over time -/

section Rows

variable {U : Type} {B B' : U → Prop} {r r' r'' : SessionRow U} {w w' w'' : FraudWorld U}

/-- A completed row keeps its outcome, and none of the owners in `B` comes by the lease of a
    completed row. -/
structure RowKept (B : U → Prop) (r r' : SessionRow U) : Prop where
  session : r'.sessionID = r.sessionID
  event : r'.sourceEventID = r.sourceEventID
  decided : r.completedAt.isSome → r'.completedAt.isSome ∧ r'.outcome = r.outcome
  lease : ∀ b, B b → r'.leaseOwner = some b → r'.completedAt.isSome →
    r.leaseOwner = some b ∧ r.completedAt.isSome

theorem RowKept.refl (r : SessionRow U) : RowKept B r r :=
  ⟨rfl, rfl, fun h => ⟨h, rfl⟩, fun _ _ h h' => ⟨h, h'⟩⟩

theorem RowKept.trans (h : RowKept B r r') (h' : RowKept B r' r'') : RowKept B r r'' where
  session := h'.session.trans h.session
  event := h'.event.trans h.event
  decided hc := by
    obtain ⟨hc', ho'⟩ := h.decided hc
    obtain ⟨hc'', ho''⟩ := h'.decided hc'
    exact ⟨hc'', ho''.trans ho'⟩
  lease b hb hl hc := by
    obtain ⟨hl', hc'⟩ := h'.lease b hb hl hc
    exact h.lease b hb hl' hc'

theorem RowKept.mono (hB : ∀ b, B' b → B b) (h : RowKept B r r') : RowKept B' r r' :=
  ⟨h.session, h.event, h.decided, fun b hb => h.lease b (hB b hb)⟩

/-- No row is lost, and none changes more than `RowKept` says. -/
structure FraudWorld.Kept (B : U → Prop) (w w' : FraudWorld U) : Prop where
  rows : ∀ r ∈ w.rows, ∃ r' ∈ w'.rows, RowKept B r r'
  acknowledged : w.acknowledged ⊆ w'.acknowledged

namespace FraudWorld.Kept

theorem refl (w : FraudWorld U) : w.Kept B w :=
  ⟨fun r hr => ⟨r, hr, .refl r⟩, List.Subset.refl _⟩

theorem trans (h : w.Kept B w') (h' : w'.Kept B w'') : w.Kept B w'' := by
  refine ⟨fun r hr => ?_, List.Subset.trans h.acknowledged h'.acknowledged⟩
  obtain ⟨r', hr', hk⟩ := h.rows r hr
  obtain ⟨r'', hr'', hk'⟩ := h'.rows r' hr'
  exact ⟨r'', hr'', hk.trans hk'⟩

theorem mono (hB : ∀ b, B' b → B b) (h : w.Kept B w') : w.Kept B' w' := by
  refine ⟨fun r hr => ?_, h.acknowledged⟩
  obtain ⟨r', hr', hk⟩ := h.rows r hr
  exact ⟨r', hr', hk.mono hB⟩

/-- Only what is not in the table changes. -/
theorem of_rows (hrows : w'.rows = w.rows) (hack : w.acknowledged ⊆ w'.acknowledged) :
    w.Kept B w' :=
  ⟨fun r hr => ⟨r, hrows ▸ hr, .refl r⟩, hack⟩

end FraudWorld.Kept

namespace FraudWorld

/-- An event of the broker announces the outcome. -/
def Announced (w : FraudWorld U) (eventID : Py.Str) (outcome : FraudOutcome) : Prop :=
  ∃ event ∈ w.acknowledged, event.Announces eventID outcome

/-- The session of the event is completed with the outcome. -/
def Decided (w : FraudWorld U) (eventID : Py.Str) (outcome : FraudOutcome) : Prop :=
  ∃ r ∈ w.rows, r.sourceEventID = eventID ∧ r.completedAt.isSome ∧ r.outcome = outcome

/-- The session of the event is completed, and a flag has been announced. -/
def Safe (w : FraudWorld U) (eventID : Py.Str) : Prop :=
  ∃ outcome, w.Decided eventID outcome ∧ (outcome.Flags → w.Announced eventID outcome)

theorem Announced.kept {eventID : Py.Str} (h : w.Announced eventID outcome) (hk : w.Kept B w') :
    w'.Announced eventID outcome := by
  obtain ⟨event, hmem, ha⟩ := h
  exact ⟨event, hk.acknowledged hmem, ha⟩

theorem Decided.kept {eventID : Py.Str} (h : w.Decided eventID outcome) (hk : w.Kept B w') :
    w'.Decided eventID outcome := by
  obtain ⟨r, hr, rfl, hc, rfl⟩ := h
  obtain ⟨r', hr', hrow⟩ := hk.rows r hr
  obtain ⟨hc', ho⟩ := hrow.decided hc
  exact ⟨r', hr', hrow.event, hc', ho⟩

theorem Safe.kept {eventID : Py.Str} (h : w.Safe eventID) (hk : w.Kept B w') :
    w'.Safe eventID := by
  obtain ⟨outcome, hd, ha⟩ := h
  exact ⟨outcome, hd.kept hk, fun hf => (ha hf).kept hk⟩

/-- What was handed to the producer: the flag of a completed session, or an error with one of
    the known codes about a request that came in. -/
def Accounted (admits : FraudScoreRequest → Prop) (w : FraudWorld U) (event : Published) : Prop :=
  (∃ eventID outcome, w.Decided eventID outcome ∧ event.Announces eventID outcome) ∨
    ∃ (env : WorkerEnv) (clock : Py.Now) (request : FraudScoreRequest) (code : String)
      (sessionID : Py.Str), admits request ∧ code ∈ fraudReasons ∧
      KafkaFraudPublisher.publishError (env.publisher clock) request code sessionID = .ok event

theorem Accounted.kept {admits : FraudScoreRequest → Prop} {event : Published}
    (h : w.Accounted admits event) (hk : w.Kept B w') : w'.Accounted admits event := by
  cases h with
  | inl h =>
    obtain ⟨eventID, outcome, hd, ha⟩ := h
    exact .inl ⟨eventID, outcome, hd.kept hk, ha⟩
  | inr h => exact .inr h

/-- What the rows of a table have in common. -/
structure RowSound (w : FraudWorld U) (r : SessionRow U) : Prop where
  coded : r.completedAt.isSome → r.outcome.Coded
  published : r.outputPublished = true →
    r.completedAt.isSome ∧ (r.outcome.Flags → w.Announced r.sourceEventID r.outcome)

/-- What holds in every state. -/
structure Sound (admits : FraudScoreRequest → Prop) (w : FraudWorld U) : Prop where
  sessions : (w.rows.map (·.sessionID)).Nodup
  events : (w.rows.map (·.sourceEventID)).Nodup
  rows : ∀ r ∈ w.rows, w.RowSound r
  sent : ∀ event ∈ w.sent, w.Accounted admits event
  commits : ∀ eventID, (eventID, ConsumerDecision.commit) ∈ w.decisions → w.Safe eventID

theorem Sound.session_unique {admits : FraudScoreRequest → Prop} (h : w.Sound admits)
    (hr : r ∈ w.rows) (hr' : r' ∈ w.rows) (heq : r.sessionID = r'.sessionID) : r = r' :=
  List.inj_on_of_nodup_map h.sessions hr hr' heq

theorem Sound.event_unique {admits : FraudScoreRequest → Prop} (h : w.Sound admits)
    (hr : r ∈ w.rows) (hr' : r' ∈ w.rows) (heq : r.sourceEventID = r'.sourceEventID) : r = r' :=
  List.inj_on_of_nodup_map h.events hr hr' heq

theorem RowSound.kept {r : SessionRow U} (h : w.RowSound r)
    (hack : w.acknowledged ⊆ w'.acknowledged) : w'.RowSound r := by
  refine ⟨h.coded, fun hp => ?_⟩
  obtain ⟨hc, ha⟩ := h.published hp
  refine ⟨hc, fun hf => ?_⟩
  obtain ⟨event, hmem, hann⟩ := ha hf
  exact ⟨event, hack hmem, hann⟩

variable {admits : FraudScoreRequest → Prop}

/-- Everything but the rows may grow by what is accounted for. -/
theorem Sound.grow (h : w.Sound admits) (hrows : w'.rows = w.rows)
    (hack : w.acknowledged ⊆ w'.acknowledged)
    (hsent : ∀ event ∈ w'.sent, event ∈ w.sent ∨ w.Accounted admits event)
    (hdecisions : ∀ eventID, (eventID, ConsumerDecision.commit) ∈ w'.decisions →
      (eventID, ConsumerDecision.commit) ∈ w.decisions ∨ w.Safe eventID) :
    w'.Sound admits ∧ w.Kept B w' := by
  have hkept : w.Kept B w' := .of_rows hrows hack
  refine ⟨⟨?_, ?_, ?_, fun event hmem => ?_, fun eventID hmem => ?_⟩, hkept⟩
  · rw [hrows]
    exact h.sessions
  · rw [hrows]
    exact h.events
  · rw [hrows]
    exact fun r hr => (h.rows r hr).kept hack
  · cases hsent event hmem with
    | inl hold => exact (h.sent event hold).kept hkept
    | inr hnew => exact hnew.kept hkept
  · cases hdecisions eventID hmem with
    | inl hold => exact (h.commits eventID hold).kept hkept
    | inr hnew => exact hnew.kept hkept

/-- A table whose rows are the old ones, changed one by one. -/
theorem Sound.changed (h : w.Sound admits) {g : SessionRow U → SessionRow U}
    (hrows : w'.rows = w.rows.map g) (hack : w'.acknowledged = w.acknowledged)
    (hsent : w'.sent = w.sent) (hdecisions : w'.decisions = w.decisions)
    (hg : ∀ r ∈ w.rows, RowKept B r (g r) ∧ w.RowSound (g r)) :
    w'.Sound admits ∧ w.Kept B w' := by
  have hsubset : w.acknowledged ⊆ w'.acknowledged := by rw [hack]; exact List.Subset.refl _
  have hkept : w.Kept B w' := by
    refine ⟨fun r hr => ⟨g r, ?_, (hg r hr).1⟩, hsubset⟩
    rw [hrows]
    exact List.mem_map_of_mem hr
  have hsessions : w'.rows.map (·.sessionID) = w.rows.map (·.sessionID) := by
    rw [hrows, List.map_map]
    exact List.map_congr_left fun r hr => (hg r hr).1.session
  have hevents : w'.rows.map (·.sourceEventID) = w.rows.map (·.sourceEventID) := by
    rw [hrows, List.map_map]
    exact List.map_congr_left fun r hr => (hg r hr).1.event
  refine ⟨⟨hsessions ▸ h.sessions, hevents ▸ h.events, fun r' hr' => ?_, ?_, ?_⟩, hkept⟩
  · rw [hrows] at hr'
    obtain ⟨r, hr, rfl⟩ := List.mem_map.mp hr'
    exact (hg r hr).2.kept hsubset
  · rw [hsent]
    exact fun event hmem => (h.sent event hmem).kept hkept
  · rw [hdecisions]
    exact fun eventID hmem => (h.commits eventID hmem).kept hkept

variable {P : SessionRow U → Prop} {f : SessionRow U → SessionRow U}

/-- An `UPDATE` whose effect on the rows it finds is a permitted one. -/
theorem Sound.update (h : w.Sound admits) [DecidablePred P]
    (hf : ∀ r ∈ w.rows, P r → RowKept B r (f r) ∧ w.RowSound (f r)) :
    (w.update P f).2.Sound admits ∧ w.Kept B (w.update P f).2 := by
  refine h.changed rfl rfl rfl rfl fun r hr => ?_
  by_cases hP : P r
  · rw [if_pos hP]
    exact hf r hr hP
  · rw [if_neg hP]
    exact ⟨.refl r, h.rows r hr⟩

/-- The row an `UPDATE` returns is a row it found, as it is afterwards. -/
theorem update_eq_ok [DecidablePred P] {row : SessionRow U} (h : (w.update P f).1 = .ok row) :
    ∃ r ∈ w.rows, P r ∧ row = f r ∧ row ∈ (w.update P f).2.rows := by
  obtain ⟨r, hfind, rfl⟩ := Option.map_eq_some_iff.mp (Except.ofOption_eq_ok.mp h)
  have hmem := List.mem_of_find?_eq_some hfind
  have hP : P r := by simpa using List.find?_some hfind
  refine ⟨r, hmem, hP, rfl, ?_⟩
  have himage := List.mem_map_of_mem (f := fun row => if P row then f row else row) hmem
  simp only [if_pos hP] at himage
  exact himage

/-- A new session is in nobody's hands. -/
theorem Sound.insertSession (h : w.Sound admits) (freshID eventID paymentID : Py.Str) (now : Time) :
    (w.insertSession freshID eventID paymentID now).2.Sound admits ∧
      w.Kept B (w.insertSession freshID eventID paymentID now).2 := by
  unfold FraudWorld.insertSession
  by_cases hevent : w.rows.any (·.sourceEventID = eventID)
  · rw [if_pos hevent]
    exact ⟨h, .refl w⟩
  rw [if_neg hevent]
  by_cases hsession : w.rows.any (·.sessionID = freshID)
  · rw [if_pos hsession]
    exact ⟨h, .refl w⟩
  rw [if_neg hsession]
  simp only [List.any_eq_true, decide_eq_true_eq, not_exists, not_and] at hevent hsession
  generalize hnew : ({ sessionID := freshID, sourceEventID := eventID, paymentID := paymentID
                       startedAt := now } : SessionRow U) = new
  have hkept : w.Kept B { w with rows := w.rows ++ [new] } :=
    ⟨fun r hr => ⟨r, List.mem_append_left _ hr, .refl r⟩, List.Subset.refl _⟩
  refine ⟨⟨?_, ?_, ?_, fun event hmem => (h.sent event hmem).kept hkept,
    fun eventID hmem => (h.commits eventID hmem).kept hkept⟩, hkept⟩
  · apply List.nodup_map_append_singleton h.sessions
    rw [← hnew]
    exact hsession
  · apply List.nodup_map_append_singleton h.events
    rw [← hnew]
    exact hevent
  · intro r hr
    rw [List.mem_append, List.mem_singleton] at hr
    rcases hr with hr | rfl
    · exact (h.rows r hr).kept (List.Subset.refl _)
    · subst hnew
      exact ⟨fun hc => by simp at hc, fun hp => by simp at hp⟩

/-- An event that is accounted for is handed to the producer. -/
theorem Sound.publish (h : w.Sound admits) {event : Except Py.Exn Published}
    (hevent : ∀ e, event = .ok e → w.Accounted admits e) (fault : Fault) :
    (w.publish fault event).2.Sound admits ∧
      w.Kept B (w.publish fault event).2 := by
  cases event with
  | error e => exact ⟨h, .refl w⟩
  | ok event =>
    have hsent : ∀ e ∈ w.sent ++ [event], e ∈ w.sent ∨ w.Accounted admits e := by
      intro e he
      cases List.mem_append.mp he with
      | inl hold => exact .inl hold
      | inr hnew => exact .inr (List.mem_singleton.mp hnew ▸ hevent event rfl)
    cases fault with
    | none =>
      exact h.grow rfl (List.subset_append_left _ _) hsent fun _ h => .inl h
    | notDelivered =>
      exact h.grow rfl (List.Subset.refl _) hsent fun _ h => .inl h
    | answerLost =>
      exact h.grow rfl (List.Subset.refl _) hsent fun _ h => .inl h

/-- What is published with an answer is acknowledged. -/
theorem publish_acknowledged {fault : Fault} {event : Except Py.Exn Published} {u : Unit}
    (h : (w.publish fault event).1 = .ok u) :
    ∃ e, event = .ok e ∧ e ∈ (w.publish fault event).2.acknowledged := by
  cases event with
  | error e => cases h
  | ok event =>
    cases fault with
    | none => exact ⟨event, rfl, List.mem_concat_self⟩
    | notDelivered => cases h
    | answerLost => cases h

/-- The row of a session after an `UPDATE` of rows. -/
theorem Sound.updated (h : w.Sound admits) [DecidablePred P] (hr : r ∈ w.rows)
    (hr' : r' ∈ (w.update P f).2.rows) (hsession : r'.sessionID = r.sessionID)
    (hf : ∀ r, (f r).sessionID = r.sessionID) :
    r' = if P r then f r else r := by
  obtain ⟨q, hq, rfl⟩ := List.mem_map.mp hr'
  have heq : q = r := by
    apply h.session_unique hq hr
    rw [← hsession]
    by_cases hP : P q
    · rw [if_pos hP, hf]
    · rw [if_neg hP]
  rw [heq]

theorem publish_rows (w : FraudWorld U) (fault : Fault) (event : Except Py.Exn Published) :
    (w.publish fault event).2.rows = w.rows := by
  unfold FraudWorld.publish
  split <;> rfl

/-- A new row has a session ID of its own. -/
theorem mem_insertSession {freshID eventID paymentID : Py.Str} {now : Time}
    (h : r' ∈ (w.insertSession freshID eventID paymentID now).2.rows) :
    r' ∈ w.rows ∨ ∀ r ∈ w.rows, r.sessionID ≠ r'.sessionID := by
  unfold FraudWorld.insertSession at h
  by_cases hevent : w.rows.any (·.sourceEventID = eventID)
  · rw [if_pos hevent] at h
    exact .inl h
  rw [if_neg hevent] at h
  by_cases hfresh : w.rows.any (·.sessionID = freshID)
  · rw [if_pos hfresh] at h
    exact .inl h
  rw [if_neg hfresh, List.mem_append, List.mem_singleton] at h
  cases h with
  | inl hold => exact .inl hold
  | inr hnew =>
    subst hnew
    simp only [List.any_eq_true, decide_eq_true_eq, not_exists, not_and] at hfresh
    exact .inr hfresh

end FraudWorld

end Rows

/-! ## What a worker knows -/

/-- What a worker knows about how far the session of its request is. -/
inductive SessionStanding
  | unknown
  | opened
  | decided (outcome : FraudOutcome)

/-- What a worker knows: IDs of the session of its request, how far the session is, and whether
    its outcome is announced. -/
structure Grasp where
  sessions : List Py.Str := []
  standing : SessionStanding := .unknown
  announced : Bool := false

namespace Grasp

/-- The session is decided, and announced if it has to be. -/
def Ready (k : Grasp) : Prop :=
  ∃ outcome, k.standing = .decided outcome ∧ (outcome.Flags → k.announced = true)

/-- The calls a worker makes for a request. -/
def Move (request : FraudScoreRequest) (k : Grasp) : FraudOp → Prop
  | .claim eventID => eventID = request.eventID
  | .complete sessionID outcome => sessionID ∈ k.sessions ∧
      (k.standing = .opened ∧ outcome.Coded ∨ k.standing = .decided outcome)
  | .markPublished sessionID => sessionID ∈ k.sessions ∧ k.Ready
  | .publishFlagged req outcome _ => req = request ∧ k.standing = .decided outcome
  | .publishError req code _ => req = request ∧
      (code ∈ fraudReasons ∨ ∃ outcome, k.standing = .decided outcome ∧
        outcome.reasonCode = some code)
  | .decide eventID decision => eventID = request.eventID ∧ (decision = .commit → k.Ready)
  | _ => True

/-- What is left when the answer to a claim or a completion is lost. -/
def forget (k : Grasp) : Grasp :=
  { sessions := k.sessions }

/-- What an answer teaches. -/
def learn (k : Grasp) : (o : FraudOp) → Except FraudErr o.Ret → Grasp
  | .claim _, .ok session =>
    { sessions := session.sessionID :: k.sessions
      standing := session.decided.elim .opened .decided
      announced := session.outputPublished }
  | .claim _, .error _ | .complete _ _, .error _ => k.forget
  | .complete _ outcome, .ok session =>
    { sessions := session.sessionID :: k.sessions, standing := .decided outcome
      announced := session.outputPublished }
  | .publishFlagged _ _ _, .ok _ => { k with announced := true }
  | _, _ => k

variable {U : Type}

/-- What is known is so, for the worker with the lease owner and the session of the event. -/
structure Holds (k : Grasp) (owner : U) (eventID : Py.Str) (w : FraudWorld U) : Prop where
  sessions : ∀ sessionID ∈ k.sessions, ∃ r ∈ w.rows, r.sourceEventID = eventID ∧
    r.sessionID = sessionID
  opened : k.standing = .opened → ∃ r ∈ w.rows, r.sourceEventID = eventID ∧
    (r.leaseOwner = some owner → r.completedAt = none)
  decided : ∀ outcome, k.standing = .decided outcome → w.Decided eventID outcome ∧
    (k.announced = true → outcome.Flags → w.Announced eventID outcome)

variable {k : Grasp} {owner : U} {eventID : Py.Str} {w w' : FraudWorld U} {B : U → Prop}

theorem Holds.forget (h : k.Holds owner eventID w) (hk : w.Kept B w') :
    k.forget.Holds owner eventID w' := by
  refine ⟨fun sessionID hmem => ?_, by simp [Grasp.forget], by simp [Grasp.forget]⟩
  obtain ⟨r, hr, hevent, hsession⟩ := h.sessions sessionID hmem
  obtain ⟨r', hr', hrow⟩ := hk.rows r hr
  exact ⟨r', hr', hrow.event.trans hevent, hrow.session.trans hsession⟩

/-- Knowledge survives every change that does not give the worker a completed session. -/
theorem Holds.kept (h : k.Holds owner eventID w) (hk : w.Kept B w') (hB : B owner) :
    k.Holds owner eventID w' := by
  refine ⟨(h.forget hk).sessions, fun hopened => ?_, fun outcome hdecided => ?_⟩
  · obtain ⟨r, hr, hevent, hopen⟩ := h.opened hopened
    obtain ⟨r', hr', hrow⟩ := hk.rows r hr
    refine ⟨r', hr', hrow.event.trans hevent, fun hlease => ?_⟩
    -- a completed row under the own lease was one before
    by_contra hsome
    obtain ⟨hlease', hcompleted⟩ :=
      hrow.lease owner hB hlease (Option.isSome_iff_ne_none.mpr hsome)
    rw [hopen hlease'] at hcompleted
    cases hcompleted
  · obtain ⟨hd, ha⟩ := h.decided outcome hdecided
    exact ⟨hd.kept hk, fun hann hf => (ha hann hf).kept hk⟩

/-- The row of a session the worker knows is the row of its event. -/
theorem Holds.row_eq {admits : FraudScoreRequest → Prop} (hk : k.Holds owner eventID w)
    (hi : w.Sound admits) {r r' : SessionRow U} (hr : r ∈ w.rows)
    (hsession : r.sessionID ∈ k.sessions) (hr' : r' ∈ w.rows)
    (hevent : r'.sourceEventID = eventID) : r' = r := by
  obtain ⟨known, hknown, hevent', hsession'⟩ := hk.sessions _ hsession
  rw [hi.event_unique hr' hknown (hevent.trans hevent'.symm)]
  exact hi.session_unique hknown hr hsession'

/-- A call that fails teaches nothing. -/
theorem Holds.error (h : k.Holds owner eventID w) (o : FraudOp) (e : FraudErr) :
    (k.learn o (.error e)).Holds owner eventID w := by
  have hforget : k.forget.Holds owner eventID w := h.forget (B := fun _ => True) (.refl w)
  cases o with
  | claim => exact hforget
  | complete => exact hforget
  | _ => exact h

/-- The standing that a session which is read from a row teaches. -/
theorem standing_toSession (row : SessionRow U) :
    row.toSession.decided.elim SessionStanding.opened SessionStanding.decided =
      if row.completedAt.isSome then .decided row.outcome else .opened := by
  unfold SessionRow.toSession FraudSession.decided
  by_cases hc : row.completedAt.isSome <;> simp [hc]

end Grasp

def sessionDiscipline (request : FraudScoreRequest) :
    Discipline FraudOp FraudOp.Ret FraudErr Grasp where
  move k o learn := k.Move request o ∧ learn = k.learn o
  answer _ _ := True
  le k l := l = k
  le_refl _ := rfl
  le_trans := by
    rintro k _ _ rfl rfl
    rfl

/-! ## What the workers grant each other -/

section Terms

variable {U : Type} [DecidableEq U]

theorem FraudWorld.Sound.setHeartbeat {admits : FraudScoreRequest → Prop} {w : FraudWorld U}
    (h : w.Sound admits) (owner : U) (heartbeat : Heartbeat) :
    (w.setHeartbeat owner heartbeat).Sound admits ∧
      w.Kept (fun _ => True) (w.setHeartbeat owner heartbeat) :=
  h.grow rfl (List.Subset.refl _) (fun _ h => .inl h) fun _ h => .inl h

/-- The heartbeat of a worker changes nothing but the end of a lease on an open session. -/
theorem FraudWorld.Sound.beat {admits : FraudScoreRequest → Prop} {w : FraudWorld U}
    (h : w.Sound admits) (env : WorkerEnv) (owner : U) (fault : Fault) (now : Time) :
    (w.beat env owner fault now).Sound admits ∧
      w.Kept (fun _ => True) (w.beat env owner fault now) := by
  unfold FraudWorld.beat
  cases w.heartbeats owner with
  | stopped => exact ⟨h, .refl w⟩
  | broken => exact ⟨h, .refl w⟩
  | running sessionID =>
    have hrenew : (w.renewLease env owner sessionID now).2.Sound admits ∧
        w.Kept (fun _ => True) (w.renewLease env owner sessionID now).2 := by
      refine h.update fun r hr hP => ⟨⟨rfl, rfl, fun hc => ⟨hc, rfl⟩, ?_⟩, ?_⟩
      · exact fun b _ hl hc => ⟨hl, hc⟩
      · exact ⟨(h.rows r hr).coded, (h.rows r hr).published⟩
    dsimp only
    generalize w.renewLease env owner sessionID now = answer at hrenew ⊢
    obtain ⟨result, w'⟩ := answer
    cases fault with
    | none =>
      cases result with
      | ok row => exact hrenew
      | error e => exact h.setHeartbeat owner .broken
    | notDelivered => exact h.setHeartbeat owner .broken
    | answerLost =>
      obtain ⟨hsound, hkept⟩ := hrenew.1.setHeartbeat owner .broken
      exact ⟨hsound, hrenew.2.trans hkept⟩

def sessionTerms [Py.TextLib] (env : U → WorkerEnv) (admits : FraudScoreRequest → Prop) :
    (fraudWorkers env).Terms where
  inv := FraudWorld.Sound admits
  rely owner := FraudWorld.Kept (· = owner)
  guar owner := FraudWorld.Kept (· ≠ owner)
  rely_refl _ := .refl
  rely_trans _ := .trans
  relies hne := .mono fun b hb => hb ▸ hne.symm
  drift beat {w} h := by
    obtain ⟨hsound, hkept⟩ := h.beat (env beat.owner) beat.owner beat.fault beat.now
    exact ⟨hsound, fun _ => hkept.mono fun _ _ => trivial⟩
  crash owner {w} h := by
    obtain ⟨hsound, hkept⟩ := h.setHeartbeat owner .stopped
    exact ⟨hsound, fun _ _ => hkept.mono fun _ _ => trivial⟩

end Terms

/-! ## What the calls of a worker do -/

section Moves

variable {U : Type} [DecidableEq U] {admits : FraudScoreRequest → Prop} {env : WorkerEnv}
  {owner : U} {request : FraudScoreRequest} {c : FraudChoice} {k : Grasp} {w : FraudWorld U}

variable (env owner request c k w) in
/-- The call keeps what the workers share, and teaches what it says, with an answer and without
    one. -/
def Teaches (admits : FraudScoreRequest → Prop) (o : FraudOp) : Prop :=
  (o.run env owner c w).2.Sound admits ∧ w.Kept (· ≠ owner) (o.run env owner c w).2 ∧
    (k.learn o (o.run env owner c w).1).Holds owner request.eventID (o.run env owner c w).2 ∧
    ∀ e, (k.learn o (.error e)).Holds owner request.eventID (o.run env owner c w).2

variable {o : FraudOp}

/-- A call that teaches nothing and gives nobody a lease. -/
theorem Teaches.of_quiet (hk : k.Holds owner request.eventID w) (hlearn : ∀ r, k.learn o r = k)
    (hsound : (o.run env owner c w).2.Sound admits)
    (hkept : w.Kept (fun _ => True) (o.run env owner c w).2) :
    Teaches env owner request c k w admits o := by
  have hholds := hk.kept hkept trivial
  refine ⟨hsound, hkept.mono fun _ _ => trivial, ?_, fun e => ?_⟩
  · rw [hlearn]
    exact hholds
  · rw [hlearn]
    exact hholds

theorem claim_teaches (hi : w.Sound admits) (hk : k.Holds owner request.eventID w) :
    Teaches env owner request c k w admits (.claim request.eventID) := by
  -- the lease goes to the worker itself
  obtain ⟨hsound, hkept⟩ : _ ∧ w.Kept (· ≠ owner) (w.update
      (fun row => row.sourceEventID = request.eventID ∧ row.Claimable owner c.now)
      (·.lease owner (env.leaseEnd c.now))).2 := by
    refine hi.update fun r hr _ => ⟨⟨rfl, rfl, fun hc => ⟨hc, rfl⟩, ?_⟩, ?_⟩
    · exact fun b hb hl _ => absurd (Option.some.inj hl).symm hb
    · exact ⟨(hi.rows r hr).coded, (hi.rows r hr).published⟩
  refine ⟨hsound, hkept, ?_, fun e => hk.forget hkept⟩
  cases hanswer : (w.update
      (fun row => row.sourceEventID = request.eventID ∧ row.Claimable owner c.now)
      (·.lease owner (env.leaseEnd c.now))).1 with
  | error e =>
    simp only [FraudOp.run, returning, hanswer]
    exact hk.forget hkept
  | ok row =>
    obtain ⟨r, -, ⟨hevent, -⟩, rfl, hmem⟩ := FraudWorld.update_eq_ok hanswer
    have hrow := hsound.rows _ hmem
    simp only [FraudOp.run, returning, hanswer]
    refine ⟨fun sessionID hsession => ?_, fun hopened => ?_, fun outcome hdecided => ?_⟩
    · cases List.mem_cons.mp hsession with
      | inl heq => exact ⟨_, hmem, hevent, heq.symm⟩
      | inr hold => exact (hk.forget hkept).sessions sessionID hold
    · refine ⟨_, hmem, hevent, fun _ => ?_⟩
      have hstanding := (Grasp.standing_toSession _).symm.trans hopened
      split at hstanding
      · cases hstanding
      · rename_i hopen
        exact Option.not_isSome_iff_eq_none.mp hopen
    · have hstanding := (Grasp.standing_toSession _).symm.trans hdecided
      split at hstanding
      · rename_i hcompleted
        cases hstanding
        exact ⟨⟨_, hmem, hevent, hcompleted, rfl⟩, fun hpublished hflags =>
          hevent ▸ (hrow.published hpublished).2 hflags⟩
      · cases hstanding

theorem complete_teaches (hi : w.Sound admits) (hk : k.Holds owner request.eventID w)
    (hmove : k.Move request (.complete sessionID outcome)) :
    Teaches env owner request c k w admits (.complete sessionID outcome) := by
  obtain ⟨hknown, hstanding⟩ := hmove
  -- a row that the worker completes is open, or decided as it is decided again
  have hagain : ∀ r ∈ w.rows, r.sessionID = sessionID → r.leaseOwner = some owner →
      outcome.Coded ∧ (r.completedAt.isSome → r.outcome = outcome) := by
    rintro r hr rfl hlease
    cases hstanding with
    | inl h =>
      obtain ⟨hopened, hcoded⟩ := h
      obtain ⟨r', hr', hevent, hopen⟩ := hk.opened hopened
      rw [hk.row_eq hi hr hknown hr' hevent] at hopen
      refine ⟨hcoded, fun hc => ?_⟩
      rw [hopen hlease] at hc
      cases hc
    | inr hdecided =>
      obtain ⟨⟨r', hr', hevent, hc, ho⟩, -⟩ := hk.decided outcome hdecided
      rw [hk.row_eq hi hr hknown hr' hevent] at hc ho
      exact ⟨ho ▸ (hi.rows r hr).coded hc, fun _ => ho⟩
  have hstep : ∀ r ∈ w.rows, r.sessionID = sessionID ∧ r.LeasedTo owner c.now →
      RowKept (· ≠ owner) r (r.complete outcome c.now) ∧
        w.RowSound (r.complete outcome c.now) := by
    rintro r hr ⟨hsession, hlease, -⟩
    obtain ⟨hcoded, hsame⟩ := hagain r hr hsession hlease
    have houtcome := r.complete_outcome hcoded c.now
    refine ⟨⟨rfl, rfl, fun hc => ⟨rfl, ?_⟩, ?_⟩, ⟨fun _ => ?_, fun hp => ⟨rfl, fun hf => ?_⟩⟩⟩
    · rw [houtcome, hsame hc]
    · exact fun b hb hl _ => absurd (Option.some.inj (hlease.symm.trans hl)).symm hb
    · rw [houtcome]
      exact hcoded
    · obtain ⟨hc, ha⟩ := (hi.rows r hr).published hp
      rw [houtcome, ← hsame hc] at hf ⊢
      exact ha hf
  obtain ⟨hsound, hkept⟩ := hi.update hstep
  refine ⟨hsound, hkept, ?_, fun e => hk.forget hkept⟩
  cases hanswer : (w.update (fun row => row.sessionID = sessionID ∧ row.LeasedTo owner c.now)
      (·.complete outcome c.now)).1 with
  | error e =>
    simp only [FraudOp.run, returning, hanswer]
    exact hk.forget hkept
  | ok row =>
    obtain ⟨r, hr, ⟨hsession, hlease, -⟩, rfl, hmem⟩ := FraudWorld.update_eq_ok hanswer
    have hrow := hsound.rows _ hmem
    have houtcome := r.complete_outcome (hagain r hr hsession hlease).1 c.now
    obtain ⟨known, hmem', hevent', hsession'⟩ := hk.sessions sessionID hknown
    have hevent : r.sourceEventID = request.eventID := by
      rw [hi.session_unique hr hmem' (hsession.trans hsession'.symm)]
      exact hevent'
    simp only [FraudOp.run, returning, hanswer]
    refine ⟨fun id hsessions => ?_, (fun hopened => nomatch hopened), fun o hdecided => ?_⟩
    · cases List.mem_cons.mp hsessions with
      | inl heq => exact ⟨_, hmem, hevent, heq.symm⟩
      | inr hold => exact (hk.forget hkept).sessions id hold
    · cases hdecided
      refine ⟨⟨_, hmem, hevent, rfl, houtcome⟩, fun hpublished hflags => ?_⟩
      have ha := (hrow.published hpublished).2
      rw [houtcome] at ha
      exact hevent ▸ ha hflags

theorem markPublished_teaches (hi : w.Sound admits) (hk : k.Holds owner request.eventID w)
    (hmove : k.Move request (.markPublished sessionID)) :
    Teaches env owner request c k w admits (.markPublished sessionID) := by
  obtain ⟨hknown, outcome, hdecided, hannounced⟩ := hmove
  obtain ⟨⟨r', hr', hevent, hc, ho⟩, ha⟩ := hk.decided outcome hdecided
  obtain ⟨hsound, hkept⟩ : _ ∧ w.Kept (fun _ => True) (w.update
      (fun row => row.sessionID = sessionID ∧ row.LeasedTo owner c.now)
      ({ · with outputPublished := true })).2 := by
    refine hi.update fun r hr hP => ⟨⟨rfl, rfl, fun hc => ⟨hc, rfl⟩, fun _ _ hl hc => ⟨hl, hc⟩⟩, ?_⟩
    refine ⟨(hi.rows r hr).coded, fun _ => ?_⟩
    -- the row is the one of the request, which is decided
    have heq : r' = r := hk.row_eq hi hr (hP.1 ▸ hknown) hr' hevent
    subst heq
    refine ⟨hc, fun hflags => ?_⟩
    have hflags' : outcome.Flags := ho ▸ hflags
    show w.Announced r'.sourceEventID r'.outcome
    rw [hevent, ho]
    exact ha (hannounced hflags') hflags'
  exact .of_quiet hk (fun _ => rfl) hsound hkept

theorem publishFlagged_teaches (hi : w.Sound admits) (hk : k.Holds owner request.eventID w)
    (hstanding : k.standing = .decided outcome) :
    Teaches env owner request c k w admits (.publishFlagged request outcome sessionID) := by
  obtain ⟨hdecided, -⟩ := hk.decided outcome hstanding
  generalize hevent : KafkaFraudPublisher.publishFlagged (env.publisher c.clock) request outcome
    sessionID = event
  have hannounces : ∀ e, event = .ok e → e.Announces request.eventID outcome := by
    rintro e rfl
    exact KafkaFraudPublisher.publishFlagged_announces hevent
  obtain ⟨hsound, hkept⟩ : _ ∧ w.Kept (fun _ => True) _ := hi.publish
    (fun e he => .inl ⟨request.eventID, outcome, hdecided, hannounces e he⟩) c.fault
  have hholds := hk.kept hkept trivial
  unfold Teaches
  simp only [FraudOp.run, hevent]
  refine ⟨hsound, hkept.mono fun _ _ => trivial, ?_, fun e => hholds⟩
  cases hanswer : (w.publish c.fault event).1 with
  | error e => exact hholds
  | ok u =>
    obtain ⟨e, he, hmem⟩ := FraudWorld.publish_acknowledged hanswer
    refine ⟨hholds.sessions, hholds.opened, fun o ho => ?_⟩
    cases hstanding.symm.trans ho
    exact ⟨hdecided.kept hkept, fun _ _ => ⟨e, hmem, hannounces e he⟩⟩

theorem publishError_teaches {code : String} (hadmits : admits request) (hi : w.Sound admits)
    (hk : k.Holds owner request.eventID w)
    (hmove : k.Move request (.publishError request code sessionID)) :
    Teaches env owner request c k w admits (.publishError request code sessionID) := by
  have hcode : code ∈ fraudReasons := by
    cases hmove.2 with
    | inl h => exact h
    | inr h =>
      obtain ⟨outcome, hstanding, hreason⟩ := h
      obtain ⟨⟨r, hr, -, hc, rfl⟩, -⟩ := hk.decided outcome hstanding
      exact (hi.rows r hr).coded hc code hreason
  obtain ⟨hsound, hkept⟩ := hi.publish
    (fun e he => .inr ⟨env, c.clock, request, code, sessionID, hadmits, hcode, he⟩) c.fault
  exact .of_quiet hk (fun _ => rfl) hsound hkept

theorem decide_teaches {decision : ConsumerDecision} (hi : w.Sound admits)
    (hk : k.Holds owner request.eventID w) (hready : decision = .commit → k.Ready) :
    Teaches env owner request c k w admits (.decide request.eventID decision) := by
  have hdecisions : ∀ eventID, (eventID, ConsumerDecision.commit) ∈
      w.decisions ++ [(request.eventID, decision)] →
      (eventID, ConsumerDecision.commit) ∈ w.decisions ∨ w.Safe eventID := by
    intro eventID hmem
    cases List.mem_append.mp hmem with
    | inl hold => exact .inl hold
    | inr hnew =>
      obtain ⟨rfl, hcommit⟩ := Prod.mk.inj (List.mem_singleton.mp hnew)
      obtain ⟨outcome, hstanding, hannounced⟩ := hready hcommit.symm
      obtain ⟨hd, ha⟩ := hk.decided outcome hstanding
      exact .inr ⟨outcome, hd, fun hf => ha (hannounced hf) hf⟩
  obtain ⟨hsound, hkept⟩ : _ ∧ w.Kept (fun _ => True)
      { w with decisions := w.decisions ++ [(request.eventID, decision)] } :=
    hi.grow rfl (List.Subset.refl _) (fun _ h => .inl h) hdecisions
  exact .of_quiet hk (fun _ => rfl) hsound hkept

/-- The calls that teach nothing. -/
def FraudOp.Quiet : FraudOp → Prop
  | .claim _ | .complete _ _ | .markPublished _ => False
  | .publishFlagged _ _ _ | .publishError _ _ _ => False
  | .decide _ _ => False
  | _ => True

theorem quiet_teaches (hquiet : o.Quiet) (hi : w.Sound admits)
    (hk : k.Holds owner request.eventID w) : Teaches env owner request c k w admits o := by
  cases o with
  | insertSession eventID paymentID =>
    obtain ⟨hsound, hkept⟩ := hi.insertSession c.freshID eventID paymentID c.now
    exact .of_quiet hk (fun _ => rfl) hsound hkept
  | append sessionID node fields =>
    obtain ⟨hsound, hkept⟩ : _ ∧ w.Kept (fun _ => True) (w.update
        (fun row => row.sessionID = sessionID ∧ row.LeasedTo owner c.now)
        (·.append (auditEvent node c.clock fields))).2 := by
      refine hi.update fun r hr _ => ⟨⟨rfl, rfl, fun hc => ⟨hc, rfl⟩, ?_⟩, ?_⟩
      · exact fun b _ hl hc => ⟨hl, hc⟩
      · exact ⟨(hi.rows r hr).coded, (hi.rows r hr).published⟩
    exact .of_quiet hk (fun _ => rfl) hsound hkept
  | releaseLease sessionID =>
    obtain ⟨hsound, hkept⟩ : _ ∧ w.Kept (fun _ => True) (w.update
        (fun row => row.sessionID = sessionID ∧ row.leaseOwner = some owner)
        ({ · with leaseOwner := none, leaseExpiresAt := none })).2 := by
      refine hi.update fun r hr _ => ⟨⟨rfl, rfl, fun hc => ⟨hc, rfl⟩, ?_⟩, ?_⟩
      · exact fun b _ hl _ => nomatch hl
      · exact ⟨(hi.rows r hr).coded, (hi.rows r hr).published⟩
    exact .of_quiet hk (fun _ => rfl) hsound hkept
  | startHeartbeat sessionID =>
    obtain ⟨hsound, hkept⟩ := hi.setHeartbeat owner (.running sessionID)
    exact .of_quiet hk (fun _ => rfl) hsound hkept
  | cancelHeartbeat =>
    have hstopped : (FraudOp.cancelHeartbeat.run env owner c w).2.Sound admits ∧
        w.Kept (fun _ => True) (FraudOp.cancelHeartbeat.run env owner c w).2 := by
      unfold FraudOp.run
      by_cases hbroken : w.heartbeats owner = .broken
      · rw [if_pos hbroken]
        exact ⟨hi, .refl w⟩
      · rw [if_neg hbroken]
        exact hi.setHeartbeat owner .stopped
    exact .of_quiet hk (fun _ => rfl) hstopped.1 hstopped.2
  | enrich walletID limit userID traceID => exact .of_quiet hk (fun _ => rfl) hi (.refl w)
  | ask messages => exact .of_quiet hk (fun _ => rfl) hi (.refl w)
  | claim | complete | markPublished | publishFlagged | publishError | decide => cases hquiet

/-- Every call of a worker teaches what it says. -/
theorem Grasp.Move.teaches (hmove : k.Move request o) (hadmits : admits request)
    (hi : w.Sound admits) (hk : k.Holds owner request.eventID w) :
    Teaches env owner request c k w admits o := by
  cases o with
  | claim eventID =>
    cases (hmove : eventID = request.eventID)
    exact claim_teaches hi hk
  | complete sessionID outcome => exact complete_teaches hi hk hmove
  | markPublished sessionID => exact markPublished_teaches hi hk hmove
  | publishFlagged req outcome sessionID =>
    cases hmove.1
    exact publishFlagged_teaches hi hk hmove.2
  | publishError req code sessionID =>
    cases hmove.1
    exact publishError_teaches hadmits hi hk hmove
  | decide eventID decision =>
    cases hmove.1
    exact decide_teaches hi hk hmove.2
  | _ => exact quiet_teaches trivial hi hk

/-- The rows differ in the lease only. -/
def SessionRow.SameButLease (r r' : SessionRow U) : Prop :=
  r' = { r with leaseOwner := r'.leaseOwner, leaseExpiresAt := r'.leaseExpiresAt }

/-- A call changes a row beyond its lease only under the lease of the caller. -/
theorem run_sameButLease (h : w.Sound admits) (o : FraudOp) {r r' : SessionRow U} (hr : r ∈ w.rows)
    (hr' : r' ∈ (o.run env owner c w).2.rows) (hsession : r'.sessionID = r.sessionID)
    (hlease : ¬ r.LeasedTo owner c.now) : r.SameButLease r' := by
  have hsame : r' ∈ w.rows → r.SameButLease r' := by
    intro hmem
    rw [h.session_unique hmem hr hsession]
    rfl
  -- the statements that ask for the lease do not find the row
  have hasks : ∀ sessionID f,
      r' ∈ (w.update (fun row => row.sessionID = sessionID ∧ row.LeasedTo owner c.now) f).2.rows →
      (∀ r : SessionRow U, (f r).sessionID = r.sessionID) → r.SameButLease r' := by
    intro sessionID f hmem hf
    rw [h.updated hr hmem hsession hf, if_neg fun hP => hlease hP.2]
    rfl
  cases o with
  | insertSession eventID paymentID =>
    cases FraudWorld.mem_insertSession hr' with
    | inl hold => exact hsame hold
    | inr hnew => exact absurd hsession.symm (hnew r hr)
  | claim eventID =>
    rw [h.updated hr hr' hsession fun _ => rfl]
    split <;> rfl
  | append sessionID node fields => exact hasks sessionID _ hr' fun _ => rfl
  | complete sessionID outcome => exact hasks sessionID _ hr' fun _ => rfl
  | markPublished sessionID => exact hasks sessionID _ hr' fun _ => rfl
  | releaseLease sessionID =>
    rw [h.updated hr hr' hsession fun _ => rfl]
    split <;> rfl
  | cancelHeartbeat =>
    apply hsame
    simp only [FraudOp.run] at hr'
    split at hr' <;> exact hr'
  | publishFlagged req outcome sessionID => exact hsame (FraudWorld.publish_rows w _ _ ▸ hr')
  | publishError req code sessionID => exact hsame (FraudWorld.publish_rows w _ _ ▸ hr')
  | startHeartbeat sessionID => exact hsame hr'
  | enrich walletID limit userID traceID => exact hsame hr'
  | ask messages => exact hsame hr'
  | decide eventID decision => exact hsame hr'

theorem exec_sameButLease (h : w.Sound admits) (o : FraudOp) {r r' : SessionRow U}
    (hr : r ∈ w.rows) (hr' : r' ∈ (o.exec env owner c w).2.rows)
    (hsession : r'.sessionID = r.sessionID) (hlease : ¬ r.LeasedTo owner c.now) :
    r.SameButLease r' := by
  have hrun : r' ∈ (o.run env owner c w).2.rows → r.SameButLease r' := fun hmem =>
    run_sameButLease h o hr hmem hsession hlease
  unfold FraudOp.exec at hr'
  split at hr'
  · exact hrun hr'
  · split at hr'
    · rw [h.session_unique hr' hr hsession]
      rfl
    · exact hrun hr'
  · split at hr' <;> exact hrun hr'

theorem beat_sameButLease (h : w.Sound admits) {fault : Fault} {now : Time} {r r' : SessionRow U}
    (hr : r ∈ w.rows) (hr' : r' ∈ (w.beat env owner fault now).rows)
    (hsession : r'.sessionID = r.sessionID) : r.SameButLease r' := by
  have hsame : r' ∈ w.rows → r.SameButLease r' := by
    intro hmem
    rw [h.session_unique hmem hr hsession]
    rfl
  have hrenew : ∀ sessionID, r' ∈ (w.renewLease env owner sessionID now).2.rows →
      r.SameButLease r' := by
    intro sessionID hmem
    rw [h.updated hr hmem hsession fun _ => rfl]
    split <;> rfl
  unfold FraudWorld.beat at hr'
  cases hbeat : w.heartbeats owner with
  | running sessionID =>
    simp only [hbeat] at hr'
    split at hr'
    · exact hrenew sessionID hr'
    · exact hsame hr'
    · exact hsame hr'
    · exact hrenew sessionID hr'
  | stopped =>
    simp only [hbeat] at hr'
    exact hsame hr'
  | broken =>
    simp only [hbeat] at hr'
    exact hsame hr'

/-- The first statement of a claim finds the session that is there. -/
theorem insertSession_again {r : SessionRow U} {eventID paymentID : Py.Str}
    (hfault : c.fault = .none)
    (hr : r ∈ w.rows) (hevent : r.sourceEventID = eventID) :
    ((FraudOp.insertSession eventID paymentID).exec env owner c w).1 = .ok () := by
  have hany : w.rows.any (·.sourceEventID = eventID) := by
    rw [List.any_eq_true]
    exact ⟨r, hr, by simpa using hevent⟩
  simp only [FraudOp.exec, hfault, FraudOp.run, FraudWorld.insertSession, if_pos hany]

/-- A claim of a completed session returns its outcome, whoever makes it. -/
theorem claim_completed (h : w.Sound admits) {r : SessionRow U}
    (hr : r ∈ w.rows) (hc : r.completedAt.isSome) :
    (∀ session, ((FraudOp.claim r.sourceEventID).exec env owner c w).1 = .ok session →
      session.completed = true ∧ session.outcome = some r.outcome) ∧
    (c.fault = .none → ∃ session,
      ((FraudOp.claim r.sourceEventID).exec env owner c w).1 = .ok session) := by
  have hfind : w.rows.find? (fun row =>
      row.sourceEventID = r.sourceEventID ∧ row.Claimable owner c.now) = some r := by
    have hclaimable : r.sourceEventID = r.sourceEventID ∧ r.Claimable owner c.now := ⟨rfl, .inl hc⟩
    cases hrow : w.rows.find? fun row =>
        row.sourceEventID = r.sourceEventID ∧ row.Claimable owner c.now with
    | none => exact absurd (decide_eq_true hclaimable) (List.find?_eq_none.mp hrow r hr)
    | some row =>
      have hP : row.sourceEventID = r.sourceEventID ∧ row.Claimable owner c.now := by
        simpa using List.find?_some hrow
      rw [h.event_unique (List.mem_of_find?_eq_some hrow) hr hP.1]
  have hrun : ((FraudOp.claim r.sourceEventID).run env owner c w).1 =
      .ok (r.lease owner (env.leaseEnd c.now)).toSession := by
    simp only [FraudOp.run, returning, FraudWorld.update, hfind]
    rfl
  unfold FraudOp.exec
  cases c.fault with
  | none =>
    simp only [hrun]
    refine ⟨?_, fun _ => ⟨_, rfl⟩⟩
    rintro _ ⟨rfl⟩
    exact ⟨hc, if_pos hc⟩
  | notDelivered => simp [FraudOp.remote]
  | answerLost => simp [FraudOp.remote]

end Moves

end EnjoyThings
