import EnjoyThings.Spec.SagaCausal

/-!
# Terminal sagas and stale writes

`updateSaga` writes by payment ID alone, so a handler that read the row before it
became COMPLETED or FAILED can write an earlier state over it. `reopens` is such a
run: a `fraud.flagged` delivery that read PAYMENT_PROCESSING puts a completed saga
under review. Stale writes are the only way: in a run in which every write over a
terminal row comes from a handler whose own copy has that state, terminal rows keep
their state (`terminal_kept`).
-/

namespace EnjoyThings

open Effect Orchestrator

variable {U : Type} [UuidLib U] {w w' : World U} {s : Saga}

/-- The newest copy of the payment's row a handler has got. -/
def Seen.newest (seen : Seen) (paymentID : String) : Option Saga :=
  seen.find? (·.paymentID = paymentID)

/-- A write over a terminal row comes from a handler whose newest copy of the row has the
    state that is stored. -/
def NotStale (seen : Seen) (o : SagaOp) (w : World U) : Prop :=
  ∀ s ∈ o.row?, ∀ row ∈ w.saga? s.paymentID, row.state.terminal = true →
    (seen.newest s.paymentID).map (·.state) = some row.state

instance (seen : Seen) (o : SagaOp) (w : World U) : Decidable (NotStale seen o w) :=
  inferInstanceAs (Decidable (∀ s ∈ o.row?, ∀ row ∈ w.saga? s.paymentID, _ → _))

/-- Terminal rows keep their state. -/
def TerminalKept (w w' : World U) : Prop :=
  ∀ paymentID row, w.saga? paymentID = some row → row.state.terminal = true →
    ∃ row', w'.saga? paymentID = some row' ∧ row'.state = row.state

/-- What terminal rows ask of a run. -/
def terminalContract (U : Type) [UuidLib U] : Contract (sagaMachine U) where
  allow seen o w _ := NotStale seen o w
  inv := World.Keyed
  rely _ _ := True
  guar := TerminalKept
  rely_refl _ := trivial
  rely_trans _ _ := trivial

/-- No step of the run writes over a terminal row from a copy with another state. -/
def NoStaleWrite (w : World U) (acts : List (Act SagaRequest (Choice U))) : Prop :=
  (Pool.idle w).Obeys (terminalContract U) SagaRequest.handler [] (fun _ => True) acts

instance (w : World U) (acts : List (Act SagaRequest (Choice U))) :
    Decidable (NoStaleWrite w acts) :=
  have : ∀ seen o w c, Decidable ((terminalContract U).allow seen o w c) :=
    fun seen o w _ => inferInstanceAs (Decidable (NotStale seen o w))
  inferInstanceAs (Decidable ((Pool.idle w).Obeys _ _ _ _ acts))

/-! ## What one call does to terminal rows -/

omit [UuidLib U] in
theorem TerminalKept.refl (w : World U) : TerminalKept w w :=
  fun _ row hrow _ => ⟨row, hrow, rfl⟩

omit [UuidLib U] in
theorem TerminalKept.trans {w₁ w₂ w₃ : World U} (h : TerminalKept w₁ w₂)
    (h' : TerminalKept w₂ w₃) : TerminalKept w₁ w₃ := by
  intro paymentID row hrow hterminal
  obtain ⟨row₂, hrow₂, hs⟩ := h paymentID row hrow hterminal
  obtain ⟨row₃, hrow₃, hs'⟩ := h' paymentID row₂ hrow₂ (hs ▸ hterminal)
  exact ⟨row₃, hrow₃, hs'.trans hs⟩

variable {c : Choice U} {o : SagaOp}

variable {a : o.Ret}

theorem run_terminalKept (h : o.run c w = (.ok a, w'))
    (hs : ∀ s row, o.row? = some s → w.saga? s.paymentID = some row →
      row.state.terminal = true → s.state = row.state) : TerminalKept w w' := by
  intro paymentID row hrow hterminal
  rcases run_row h hrow with hsame | ⟨s, ho, rfl, hwritten⟩
  · exact ⟨row, hsame, rfl⟩
  · exact ⟨_, hwritten, hs s row ho hrow hterminal⟩

/-! ## What a handler has seen -/

/-- A handler has a newest copy of the row, with the state it goes on from. Facts that follow
    a call to another service come from a copy that was not terminal. -/
def FactSeen (seen : Seen) : Fact → Prop
  | .row s => ∃ copy, seen.newest s.paymentID = some copy ∧ copy.state = s.state
  | .failed _ => True
  | f => ∃ copy, seen.newest f.saga.paymentID = some copy ∧ copy.state.terminal = false

/-- What a handler knows about the copies it has got. -/
structure CopiesSeen (k : Knowledge) (seen : Seen) (_ : World U) : Prop where
  fact : ∀ f ∈ k.fact, FactSeen seen f ∧ f.saga.paymentID ∉ k.listed.map (·.paymentID)
  listed : ∀ s ∈ k.listed, seen.newest s.paymentID = some s
  distinct : (k.listed.map (·.paymentID)).Nodup

theorem Open.not_terminal (h : Open s) : s.state.terminal = false := by
  obtain ⟨h₁, h₂, -⟩ := h
  cases hs : s.state with
  | completed => exact absurd hs h₁
  | failed => exact absurd hs h₂
  | _ => rfl

variable {seen : Seen}

theorem FactSeen.of_row (h : FactSeen seen (.row s)) (hs : s.state.terminal = false) :
    ∃ copy, seen.newest s.paymentID = some copy ∧ copy.state.terminal = false := by
  obtain ⟨copy, hcopy, hstate⟩ := h
  exact ⟨copy, hcopy, hstate ▸ hs⟩

variable {f : Option Fact} {lesson : Except SagaErr o.Ret → Option Fact}

/-- From a terminal copy a handler only writes the state of the copy. -/
theorem FactMove.writes_seen (hm : FactMove f o lesson) (hf : ∀ g ∈ f, FactSeen seen g)
    (ho : o.row? = some s) {copy : Saga} (hcopy : seen.newest s.paymentID = some copy)
    (hterminal : copy.state.terminal = true) :
    s.state = copy.state := by
  -- a copy that is not terminal is not the newest one
  have hother : (∃ c, seen.newest s.paymentID = some c ∧ c.state.terminal = false) →
      s.state = copy.state := by
    rintro ⟨c, hc, hn⟩
    cases hc.symm.trans hcopy
    rw [hterminal] at hn
    cases hn
  cases hm with
  | now | audit | verify | debit | reserve | confirm | announce | cancel | compensate
  | announceFailed => cases ho
  | writeChecked r t | writeUnverified r t | writeDebited r id t | writeReserved r id t
  | writeConfirmed r id t | writeCompleted r t | writeCanceled r t | writeFailed r t =>
    cases ho
    exact hother (hf _ rfl)
  | execute hs t | writeRejected hs reason t a | writeFlagged hs e traceID t a
  | writeResumed hs t a | writeDeferred hs hd hp t a =>
    cases ho
    exact hother ((hf _ rfl).of_row (by rw [hs]; rfl))
  | writeCompensating hs code message t =>
    cases ho
    exact hother ((hf _ rfl).of_row hs.not_terminal)
  | writeMarked hs e t a =>
    cases ho
    obtain ⟨c, hc, hstate⟩ := hf _ rfl
    cases hc.symm.trans hcopy
    exact hstate.symm

variable {k : Knowledge}

variable {admits : StartRequest → Prop} {learn : Except SagaErr o.Ret → Knowledge}

/-- A handler that knows what it has seen leaves terminal rows alone. -/
theorem Move.terminalKept (hm : Move admits k o learn) (hk : CopiesSeen k seen w)
    (hallow : NotStale seen o w) (h : o.run c w = (.ok a, w')) : TerminalKept w w' := by
  refine run_terminalKept h fun s row ho hrow hterminal => ?_
  cases hm with
  | fact hm listed =>
    obtain ⟨copy, hcopy, hstate⟩ := Option.map_eq_some_iff.mp (hallow s ho row hrow hterminal)
    rw [← hstate]
    exact hm.writes_seen (fun g hg => (hk.fact g hg).1) ho hcopy (hstate ▸ hterminal)
  | get _ | create _ _ _ | list => cases ho

/-- What an answer changes about the copies: the lesson is a fact about the same payment that
    the handler has seen, and the newest copies of other payments are the same. -/
structure Sees (seen seen' : Seen) (f lesson : Option Fact) : Prop where
  fact : ∀ g ∈ lesson, FactSeen seen' g
  same : ∀ g ∈ lesson, ∃ g₀ ∈ f, g.saga.paymentID = g₀.saga.paymentID
  other : ∀ paymentID, (∀ g ∈ f, g.saga.paymentID ≠ paymentID) →
    seen'.newest paymentID = seen.newest paymentID

theorem Sees.nothing (seen : Seen) (f : Option Fact) : Sees seen seen f none where
  fact g hg := by cases hg
  same g hg := by cases hg
  other _ _ := rfl

variable {g : Fact}

theorem Sees.one {f : Fact} (h : FactSeen seen g) (hs : g.saga = f.saga) :
    Sees seen seen (some f) (some g) where
  fact g' hg' := by
    cases hg'
    exact h
  same g' hg' := by
    cases hg'
    exact ⟨f, rfl, by rw [hs]⟩
  other _ _ := rfl

/-- The row a write returns is the newest copy. -/
theorem Sees.write {f : Fact} {a : Saga} (hw : Written s a) (hs : s.paymentID = f.saga.paymentID)
    (hg : g = .row a ∨ g = .failed a) :
    Sees seen (a :: seen) (some f) (some g) where
  fact g' hg' := by
    cases hg'
    rcases hg with rfl | rfl
    · exact ⟨a, List.find?_cons_of_pos (by simp), rfl⟩
    · trivial
  same g' hg' := by
    cases hg'
    refine ⟨f, rfl, ?_⟩
    rcases hg with rfl | rfl <;> exact hw.paymentID_eq.trans hs
  other paymentID hp := by
    have hne : a.paymentID ≠ paymentID := by
      rw [hw.paymentID_eq, hs]
      exact hp f rfl
    exact List.find?_cons_of_neg (by simpa using hne)

theorem FactMove.sees (hm : FactMove f o lesson) (hf : ∀ g ∈ f, FactSeen seen g)
    (r : Except SagaErr o.Ret) (ha : Answer o r) :
    Sees seen (seen.see o r) f (lesson r) := by
  cases hm with
  | now f | audit f record => exact ⟨hf, fun g hg => ⟨g, hg, rfl⟩, fun _ _ => rfl⟩
  | @verify s hs =>
    have hrow := (hf _ rfl).of_row (by rw [hs]; rfl)
    cases r with
    | ok result =>
      simp only [verdict]
      split
      · exact .one hrow rfl
      · exact .one hrow rfl
    | error e =>
      cases e with
      | verificationNotFound => exact .one hrow rfl
      | _ => exact .nothing seen _
  | debit hs | reserve hs | announce hs traceID t t' | cancel hs traceID reason
  | compensate hs traceID reason =>
    cases r with
    | ok a => exact .one ((hf _ rfl).of_row (by rw [hs]; rfl)) rfl
    | error e => exact .nothing seen _
  | confirm hs traceID =>
    cases r with
    | ok a => exact .one ((hf _ rfl).of_row hs.not_terminal) rfl
    | error e => exact .nothing seen _
  | announceFailed s traceID t t' => exact .nothing seen _
  | writeChecked s t | writeUnverified s t | writeDebited s id t | writeReserved s id t
  | execute hs t | writeConfirmed s id t | writeCompleted s t | writeCompensating hs code message t
  | writeRejected hs reason t record | writeCanceled s t | writeFlagged hs e traceID t record
  | writeMarked hs e t record | writeResumed hs t record | writeDeferred hs hd hp t record =>
    cases r with
    | ok a => exact .write ha rfl (.inl rfl)
    | error e => exact .nothing seen _
  | writeFailed s t =>
    cases r with
    | ok a => exact .write ha rfl (.inr rfl)
    | error e => exact .nothing seen _

/-- The knowledge of a handler after an answer. -/
theorem Move.copiesSeen (hm : Move admits k o learn) (hi : (w.sagas.map (·.paymentID)).Nodup)
    (hk : CopiesSeen k seen w) {r : Except SagaErr o.Ret × World U} (hr : Outcome c o w r)
    (ha : Answer o r.1) :
    CopiesSeen (learn r.1) (seen.see o r.1) r.2 := by
  have hnothing : ∀ (seen : Seen) (w : World U), CopiesSeen ⟨none, []⟩ seen w := fun _ _ =>
    ⟨fun f hf => absurd hf (Option.not_mem_none f), fun _ hs => absurd hs List.not_mem_nil,
      List.nodup_nil⟩
  have hrow : ∀ (s : Saga) (seen : Seen) (w : World U),
      CopiesSeen ⟨some (.row s), []⟩ (s :: seen) w := fun s seen w =>
    ⟨fun f hf => by
      cases hf
      exact ⟨⟨s, List.find?_cons_of_pos (by simp), rfl⟩, List.not_mem_nil⟩,
      fun _ hs => absurd hs List.not_mem_nil, List.nodup_nil⟩
  cases hm with
  | @fact f _ lesson hm listed =>
    have hsees := hm.sees (fun g hg => (hk.fact g hg).1) r.1 ha
    refine ⟨fun g hg => ⟨hsees.fact g hg, ?_⟩, fun s hs => ?_, hk.distinct⟩
    · obtain ⟨g₀, hg₀, hp⟩ := hsees.same g hg
      rw [hp]
      exact (hk.fact g₀ hg₀).2
    · refine (hsees.other s.paymentID fun g hg he => ?_).trans (hk.listed s hs)
      exact (hk.fact g hg).2 (he ▸ List.mem_map_of_mem hs)
  | get paymentID | create req t h =>
    cases hr₁ : r.1 with
    | ok s => exact hrow s seen r.2
    | error e => exact hnothing seen r.2
  | list =>
    rcases hr with ⟨e, rfl⟩ | ⟨l, w', hrun, rfl | ⟨e, rfl⟩⟩
    · exact hnothing seen w
    · cases hrun
      have hdistinct := World.listNonTerminal_nodup hi
      refine ⟨fun f hf => absurd hf (Option.not_mem_none f), fun s hs => ?_, hdistinct⟩
      show List.find? _ (w.listNonTerminal ++ seen) = some s
      rw [List.find?_append, List.find?_key_of_mem hdistinct hs]
      rfl
    · exact hnothing seen w'

/-! ## Every run -/

omit [UuidLib U] in
theorem CopiesSeen.mono {l : Knowledge} (hle : k.le l) (hk : CopiesSeen k seen w) :
    CopiesSeen l seen w := by
  induction hle with
  | refl => exact hk
  | trans _ _ ih ih' => exact ih' (ih hk)
  | forget f l => exact { hk with fact := fun f hf => by cases hf }
  | drop f l =>
    exact ⟨fun g hg => ⟨(hk.fact g hg).1, List.not_mem_nil⟩,
      fun _ hs => absurd hs List.not_mem_nil, List.nodup_nil⟩
  | take s l =>
    obtain ⟨hs, hl⟩ := List.forall_mem_cons.mp hk.listed
    obtain ⟨hnew, hdistinct⟩ := List.nodup_cons.mp hk.distinct
    refine ⟨fun f hf => ?_, hl, hdistinct⟩
    cases hf
    exact ⟨⟨s, hs, rfl⟩, hnew⟩

theorem terminal_sound (admits : StartRequest → Prop) :
    (sagaDiscipline admits).Sound (terminalContract U) CopiesSeen where
  mono := .mono
  stable hk _ _ := { hk with }
  answers := exec_answer
  step {k o learn seen w c} hm hi hk hallow := by
    have hseen := hm.copiesSeen hi.sagas hk (exec_outcome c o w) (exec_answer c o w)
    have hkept : TerminalKept w (o.exec c w).2 :=
      exec_world (.refl w) fun _ _ hrun => hm.terminalKept hk hallow hrun
    exact ⟨exec_keyed hi, hkept, hseen⟩

/-- In a run without stale writes over terminal rows, a saga that is COMPLETED or FAILED at any
    point keeps that state at every later point. -/
theorem terminal_kept (hw : w.Keyed) {before after : List (Act SagaRequest (Choice U))}
    (hacts : NoStaleWrite w (before ++ after)) {paymentID : String} {row : Saga}
    (hrow : (interleave w before).world.saga? paymentID = some row)
    (hterminal : row.state.terminal = true) :
    ∃ row', (interleave w (before ++ after)).world.saga? paymentID = some row' ∧
      row'.state = row.state := by
  have hsafe : ∀ (q : SagaRequest) (w : World U), True → w.Keyed →
      (terminalContract U).Safe q.handler [] w := by
    intro q w _ _
    have hfollows : (sagaDiscipline fun _ => True).Follows Ends q.handler ⟨none, []⟩ :=
      handler_follows q fun _ _ => trivial
    refine (hfollows.holds (terminal_sound _) ?_).safe
    exact ⟨fun f hf => absurd hf (Option.not_mem_none f), fun _ hs => absurd hs List.not_mem_nil,
      List.nodup_nil⟩
  obtain ⟨hbefore, hafter⟩ := Pool.Obeys.split hacts
  have hpool : (interleave w before).Sound (terminalContract U) :=
    Pool.Sound.run (fun _ _ => trivial) hsafe
      ⟨hw, fun _ ht => by cases ht⟩ hbefore
  have hkept := Pool.run_guar TerminalKept.refl TerminalKept.trans (fun _ _ => trivial) hsafe
    hpool hafter
  unfold interleave at hkept ⊢
  rw [Pool.run_append]
  exact hkept paymentID row hrow hterminal

namespace Sample

/-- The payment is started, a flag is delivered and reads the row, and the rail completes the
    payment before the handler of the flag goes on. -/
def completedBeforeFlag : List (Act SagaRequest (Choice CanonicalUuid)) :=
  .start (.start startRequest) :: steps 0 0 13 ++
    .start (.fraudFlagged flaggedEvent) :: steps 1 13 1 ++
    .start (.paymentCompleted completedEvent) :: steps 2 14 7

/-- The payment is completed, and then the flag is delivered. -/
def flagAfterCompleted : List (Act SagaRequest (Choice CanonicalUuid)) :=
  .start (.start startRequest) :: steps 0 0 13 ++
    .start (.paymentCompleted completedEvent) :: steps 1 13 7

end Sample

/-- A flag that reads the completed row leaves it completed. -/
theorem terminal_kept_flagAfterCompleted :
    NoStaleWrite Sample.world (Sample.flagAfterCompleted ++
      .start (.fraudFlagged Sample.flaggedEvent) :: Sample.steps 2 20 3) ∧
    ∃ row, (interleave Sample.world (Sample.flagAfterCompleted ++
      .start (.fraudFlagged Sample.flaggedEvent) :: Sample.steps 2 20 3)).world.saga?
        (text Sample.paymentID) = some row ∧ row.state = .completed := by
  have hstale : NoStaleWrite Sample.world (Sample.flagAfterCompleted ++
      .start (.fraudFlagged Sample.flaggedEvent) :: Sample.steps 2 20 3) := by decide +kernel
  have hcompleted : ((interleave Sample.world Sample.flagAfterCompleted).world.saga?
      (text Sample.paymentID)).map (·.state) = some .completed := by decide +kernel
  obtain ⟨row, hrow, hstate⟩ := Option.map_eq_some_iff.mp hcompleted
  obtain ⟨row', hrow', hkept⟩ := terminal_kept Sample.world_idle.exclusive.keyed hstale hrow
    (by rw [hstate]; rfl)
  exact ⟨hstale, row', hrow', hkept.trans hstate⟩

/-- The handler of the flag puts the completed saga under review. -/
theorem completed_reopens :
    ((interleave Sample.world Sample.completedBeforeFlag).world.saga?
      (text Sample.paymentID)).map (·.state) = some .completed ∧
    ((interleave Sample.world (Sample.completedBeforeFlag ++ Sample.steps 1 21 2)).world.saga?
      (text Sample.paymentID)).map (·.state) = some .fraudReview := by
  decide +kernel

end EnjoyThings
