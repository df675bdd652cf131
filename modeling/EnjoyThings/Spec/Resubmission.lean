import EnjoyThings.Services.Gateway
import EnjoyThings.Spec.SagaCausal

/-!
# Sending a payment again

A POST /v1/transfers that names its payment meets the row of the first one and is
accepted again. Without a payment ID the gateway draws a new one for each request,
so the second request meets the row of the first one by user and idempotency key,
and is refused because its payment ID is another one (`resubmission_iff`).

A row that has left STARTED is what the second request needs. No handler moves a
row back on purpose, but a `fraud.flagged` handler writes the copy it has read, so
the runs are those in which no STARTED copy is written over such a row
(`SagaOp.Forward`).

## Key results

- `start_holds`: what a start that returns leaves behind
- `resubmission_iff`: the second request is accepted exactly if it names its payment
-/

namespace EnjoyThings

open Effect Orchestrator

variable {U : Type} [UuidLib U] {w w' : World U} {c : Choice U}

/-! ## Rows that go forward -/

/-- The call writes no STARTED copy over a row that has left STARTED. -/
def SagaOp.Forward (o : SagaOp) (w : World U) : Prop :=
  ∀ s ∈ o.row?, s.state = .started → ∀ row ∈ w.saga? s.paymentID, row.state = .started

instance (o : SagaOp) (w : World U) : Decidable (o.Forward w) :=
  inferInstanceAs (Decidable (∀ s ∈ o.row?, s.state = .started → _))

/-- Rows keep their payloads and do not come back to STARTED. -/
def World.Onward (w w' : World U) : Prop :=
  ∀ paymentID row, w.saga? paymentID = some row → ∃ row', w'.saga? paymentID = some row' ∧
    sameStartPayload row' row ∧ (row.state ≠ .started → row'.state ≠ .started)

omit [UuidLib U] in
theorem World.Onward.refl (w : World U) : w.Onward w :=
  fun _ row hrow => ⟨row, hrow, .refl row, fun h => h⟩

omit [UuidLib U] in
theorem World.Onward.trans {w₁ w₂ w₃ : World U} (h : w₁.Onward w₂) (h' : w₂.Onward w₃) :
    w₁.Onward w₃ := by
  intro paymentID row hrow
  obtain ⟨row₂, hrow₂, hsame, hstate⟩ := h paymentID row hrow
  obtain ⟨row₃, hrow₃, hsame', hstate'⟩ := h' paymentID row₂ hrow₂
  exact ⟨row₃, hrow₃, hsame'.trans hsame, fun hne => hstate' (hstate hne)⟩

/-- A call that goes forward, whatever program makes it. -/
theorem run_onward {o : SagaOp} {a : o.Ret} (hforward : o.Forward w)
    (h : o.run c w = (.ok a, w')) : w.Onward w' := by
  intro paymentID row hrow
  rcases run_row h hrow with hsame | ⟨s, ho, rfl, hwritten⟩
  · exact ⟨row, hsame, .refl row, fun h => h⟩
  · refine ⟨_, hwritten, .refl row, fun hne hstarted => hne ?_⟩
    exact hforward s ho hstarted row hrow

/-- The contract of every program whose calls go forward. -/
def onwardContract (U : Type) [UuidLib U] : Contract (sagaMachine U) where
  allow _ o w _ := o.Forward w
  inv := World.Keyed
  rely := World.Onward
  guar := World.Onward
  rely_refl := .refl
  rely_trans := .trans

instance (g : Seen) (o : SagaOp) (w : World U) (c : Choice U) :
    Decidable ((onwardContract U).allow g o w c) :=
  inferInstanceAs (Decidable (o.Forward w))

theorem onward_step {g : Seen} {o : SagaOp} (hk : w.Keyed)
    (hallow : (onwardContract U).allow g o w c) :
    (o.exec c w).2.Keyed ∧ w.Onward (o.exec c w).2 := by
  exact exec_world ⟨hk, .refl w⟩ fun a w' hrun =>
    ⟨(run_grows hk hrun).1, run_onward hallow hrun⟩

/-! ## What a start leaves behind -/

/-- The payment of the request has a row with its payload that has left STARTED. -/
def World.Accepted (w : World U) (req : StartRequest) : Prop :=
  ∃ row, w.saga? req.paymentID = some row ∧ sameStartPayload row (startedSaga req 0) ∧
    row.state ≠ .started

omit [UuidLib U] in
theorem World.Accepted.onward {req : StartRequest} (h : w.Accepted req) (hw : w.Onward w') :
    w'.Accepted req := by
  obtain ⟨row, hrow, hsame, hstate⟩ := h
  obtain ⟨row', hrow', hsame', hstate'⟩ := hw _ row hrow
  exact ⟨row', hrow', hsame'.trans hsame, hstate' hstate⟩

/-- What onward steps keep holds at the end of every program, whatever it calls. -/
theorem holds_of_onward {α : Type} {A : World U → Prop} (hA : ∀ {w w'}, A w → w.Onward w' → A w')
    (p : SagaProg α) (g : Seen) (h : A w) :
    (onwardContract U).Holds (fun _ _ w => A w) p g w := by
  induction p generalizing g w with
  | done a => exact fun w' hr _ => hA h hr
  | fail e => exact fun w' hr _ => hA h hr
  | call o k ih =>
    intro w' hr hk c hallow
    obtain ⟨hk', honward⟩ := onward_step (c := c) (g := g) hk hallow
    exact ⟨hk', honward, ih _ _ (hA (hA h hr) honward)⟩

/-- If the program returns, `A` holds. -/
def OnReturn (A : World U → Prop) {α : Type} : Except SagaErr α → Seen → World U → Prop :=
  fun r _ w => ∀ a, r = .ok a → A w

/-- A call whose error ends the program, and what comes after it. -/
theorem holds_call {α : Type} {A : World U → Prop} {o : SagaOp} {f : o.Ret → SagaProg α} {g : Seen}
    (h : ∀ c v a v', w.Onward v → v.Keyed → o.run c v = (.ok a, v') →
      ∀ g, (onwardContract U).Holds (OnReturn A) (f a) g v') :
    (onwardContract U).Holds (OnReturn A) (.call o (Prog.onAnswer f)) g w := by
  intro v hv hk c hallow
  obtain ⟨hk', honward⟩ := onward_step (c := c) (g := g) hk hallow
  refine ⟨hk', honward, ?_⟩
  show (onwardContract U).Holds _ (Prog.onAnswer f (o.exec c v).1) _ (o.exec c v).2
  rcases exec_outcome c o v with ⟨e, he⟩ | ⟨a, v', hrun, he | ⟨e, he⟩⟩
  · rw [he]
    exact fun _ _ _ _ hr => by cases hr
  · rw [he]
    exact h c v a v' hv hk hrun _
  · rw [he]
    exact fun _ _ _ _ hr => by cases hr

theorem failUnverified_holds {A : World U → Prop} {s : Saga} {g : Seen} :
    (onwardContract U).Holds (OnReturn A) (failUnverified s) g w := by
  simp only [failUnverified, Prog.perform_bind]
  apply holds_call
  intro c v t v' _ _ _ g
  apply holds_call
  intro c v s' v' _ _ _ g
  exact fun _ _ _ _ hr => by cases hr

/-- The payment of the request has a row with its payload. -/
def World.Stored (w : World U) (req : StartRequest) : Prop :=
  ∃ row, w.saga? req.paymentID = some row ∧ sameStartPayload row (startedSaga req 0)

omit [UuidLib U] in
theorem World.Stored.onward {req : StartRequest} (h : w.Stored req) (hw : w.Onward w') :
    w'.Stored req := by
  obtain ⟨row, hrow, hsame⟩ := h
  obtain ⟨row', hrow', hsame', -⟩ := hw _ row hrow
  exact ⟨row', hrow', hsame'.trans hsame⟩

/-- The first write of a start takes the row out of STARTED. -/
theorem update_accepted {req : StartRequest} {s s' : Saga} (hstored : w.Stored req)
    (h : (SagaOp.update s).run c w = (.ok s', w')) (hs : s.paymentID = req.paymentID)
    (hstate : s.state ≠ .started) : w'.Accepted req := by
  obtain ⟨row, hrow, hsame⟩ := hstored
  have hwrite := World.saga?_write (commit_eq_ok.mp h) req.paymentID
  rw [hrow, Option.map_some, if_pos ((World.saga?_some hrow).2.trans hs.symm)] at hwrite
  exact ⟨_, hwrite, hsame, hstate⟩

theorem checkVerification_onward {req : StartRequest} {s : Saga} {g : Seen} (hstored : w.Stored req)
    (hs : s.paymentID = req.paymentID) (hstate : s.state = .started) :
    (onwardContract U).Holds (OnReturn (World.Accepted · req)) (checkVerification s) g w := by
  simp only [checkVerification, hstate, ↓reduceIte, Prog.attempt_perform_bind]
  intro v hv hk c hallow
  obtain ⟨hk', honward⟩ := onward_step (c := c) (g := g) hk hallow
  refine ⟨hk', honward, ?_⟩
  have hstored' := (hstored.onward hv).onward honward
  dsimp only
  split
  · exact failUnverified_holds
  · exact fun _ _ _ _ hr => by cases hr
  split
  · exact failUnverified_holds
  · rw [Prog.perform_bind]
    apply holds_call
    intro c₁ v₁ t v₁' hv₁ _ hnow g
    unfold update
    rw [Prog.perform_eq]
    apply holds_call
    intro c₂ v₂ s' v₂' hv₂ _ hupdate g
    cases hnow
    have haccepted : v₂'.Accepted req :=
      update_accepted ((hstored'.onward hv₁).onward hv₂) hupdate hs (by simp)
    exact fun v₃ hv₃ _ _ _ => haccepted.onward hv₃

/-- A start that returns leaves a row with the payload of its request that has left STARTED. -/
theorem start_holds (req : StartRequest) (g : Seen) :
    (onwardContract U).Holds (OnReturn (World.Accepted · req)) (startPaymentSaga req) g w := by
  simp only [startPaymentSaga, Prog.perform_bind]
  apply holds_call
  intro c₁ v₁ t v₁' _ _ _ g
  apply holds_call
  intro c₂ v₂ s v₂' _ hk hcreate g
  have hstored : v₂'.saga? req.paymentID = some s ∧ sameStartPayload s (startedSaga req 0) := by
    rcases World.create_ok (commit_eq_ok.mp hcreate) with ⟨hs, hsame, rfl⟩ | ⟨rfl, hnew, rfl⟩
    · have hp : s.paymentID = req.paymentID := hsame.1
      exact ⟨hp ▸ hk.saga?_of_mem hs, hsame⟩
    · refine ⟨?_, .refl (startedSaga req t)⟩
      have hnone : v₂.saga? req.paymentID = none :=
        List.find?_eq_none.mpr fun o ho he => hnew o ho (of_decide_eq_true he)
      unfold World.saga? at hnone ⊢
      rw [List.find?_append, hnone]
      simp [World.newRow, startedSaga]
  split
  · rename_i hstate
    exact fun v hv _ _ _ => World.Accepted.onward ⟨s, hstored.1, hstored.2, hstate⟩ hv
  · rename_i hstate
    have hverified := checkVerification_onward (g := g) ⟨s, hstored⟩ hstored.2.1 (not_not.mp hstate)
    refine hverified.bind (fun a g v _ haccepted => ?_) fun e g v _ _ a hr => by cases hr
    -- whatever the later stages do, the row stays out of STARTED
    exact (holds_of_onward World.Accepted.onward _ g (haccepted a rfl)).mono
      fun _ _ _ _ h _ _ => h

/-- What a handler that returns has established. -/
def SagaRequest.Established (q : SagaRequest) (w : World U) : Prop :=
  ∀ req, q = .start req → w.Accepted req

theorem handler_holds (q : SagaRequest) (w : World U) :
    (onwardContract U).Holds (OnReturn q.Established) q.handler [] w := by
  by_cases hq : ∃ req, q = .start req
  · obtain ⟨req, rfl⟩ := hq
    refine (start_holds req []).bind (fun s g v _ haccepted => ?_) fun e g v _ _ a hr => by cases hr
    intro v' hv _ _ _ req' hreq
    cases hreq
    exact (haccepted s rfl).onward hv
  · refine (holds_of_onward (A := fun _ => True) (fun _ _ => trivial) _ [] trivial).mono ?_
    exact fun _ _ _ _ _ _ _ req hreq => absurd ⟨req, hreq⟩ hq

/-- The run writes no STARTED copy over a row that has left STARTED. -/
def GoesForward (w : World U) (acts : List (Act SagaRequest (Choice U))) : Prop :=
  (Pool.idle w).Obeys (onwardContract U) SagaRequest.handler [] (fun _ => True) acts

instance (w : World U) (acts : List (Act SagaRequest (Choice U))) :
    Decidable (GoesForward w acts) :=
  inferInstanceAs (Decidable (Pool.Obeys _ _ _ _ _ _))

/-- A payment whose start has returned has its row, whatever has happened since. -/
theorem accepted_of_returned {acts : List (Act SagaRequest (Choice U))} {req : StartRequest}
    (hk : w.Keyed) (hacts : GoesForward w acts)
    (hret : (interleave w acts).Returned (requestsOf acts) (.start req)) :
    (interleave w acts).world.Accepted req := by
  obtain ⟨-, g, hpost⟩ := Pool.run_returned (K := onwardContract U) (fun _ h => h)
    (fun q w _ _ => handler_holds q w) hk hacts hret
  exact hpost () rfl req rfl

/-! ## The second request -/

/-- The body names the payment. -/
def HttpRequest.NamesPayment (r : HttpRequest) : Prop :=
  ∃ mediaType body, r.body = .sent mediaType (some body) ∧ body.paymentID ≠ ""

section Gateway

open Except (refuseIf_eq_ok bind_eq_ok ofOption_eq_ok)

variable {userID newPaymentID newTraceID : U} {r : HttpRequest} {req : StartRequest}

/-- The payment ID of the request: that of the body, or the new one. -/
def requestPaymentID (newPaymentID : U) (body : TransferBody) : String :=
  if body.paymentID = "" then text newPaymentID else body.paymentID

/-- What the gateway makes of a body that passes its checks. -/
def requestFor (userID newPaymentID newTraceID : U) (r : HttpRequest) (body : TransferBody) :
    StartRequest :=
  { paymentID := requestPaymentID newPaymentID body
    idempotencyKey := if Go.trimSpace r.idempotencyKey = "" then requestPaymentID newPaymentID body
      else Go.trimSpace r.idempotencyKey
    traceID := Gateway.requestTraceID r newTraceID, userID := text userID
    fromWalletID := body.fromWallet, toWalletID := body.toWallet
    amountCents := body.amountCents, currency := Go.toUpper body.currency }

/-- The checks that do not depend on the payment ID. -/
def TransferBody.Passes (U : Type) [UuidLib U] (body : TransferBody) : Prop :=
  (parse body.fromWallet : Option U) ≠ none ∧ (parse body.toWallet : Option U) ≠ none ∧
    ¬ (body.amountCents ≤ 0 ∨ body.currency = "" ∨ body.fromWallet = body.toWallet)

/-- Which requests come through the gateway, and as what. -/
theorem startPayment_eq_ok :
    Gateway.startPayment userID newPaymentID newTraceID r = .ok req ↔
      ∃ body, r.body = .sent (some "application/json") (some body) ∧
        (parse (requestPaymentID newPaymentID body) : Option U) ≠ none ∧ body.Passes U ∧
        req = requestFor userID newPaymentID newTraceID r body := by
  have hdecode : ∀ body, (Gateway.rejectNonJSONContentType r.body = .ok () ∧
      Gateway.decodeBody r.body = .ok body) ↔
        r.body = .sent (some "application/json") (some body) := by
    intro body
    cases r.body with
    | noBody => simp [Gateway.decodeBody]
    | sent mediaType document =>
      simp [Gateway.rejectNonJSONContentType, Gateway.decodeBody, refuseIf_eq_ok, ofOption_eq_ok]
  simp only [Gateway.startPayment, bind_eq_ok, refuseIf_eq_ok, Gateway.checkUUID]
  constructor
  · rintro ⟨_, hmedia, body, hbody, _, hpayment, _, hfrom, _, hto, _, hfields, hreq⟩
    exact ⟨body, (hdecode body).mp ⟨hmedia, hbody⟩, hpayment, ⟨hfrom, hto, hfields⟩,
      (Except.ok.inj hreq).symm⟩
  · rintro ⟨body, hbody, hpayment, ⟨hfrom, hto, hfields⟩, rfl⟩
    obtain ⟨hmedia, hdecoded⟩ := (hdecode body).mpr hbody
    exact ⟨(), hmedia, body, hdecoded, (), hpayment, (), hfrom, (), hto, (), hfields, rfl⟩

theorem startPaymentSaga_eq_ok {req' : StartRequest} :
    SagaGrpc.startPaymentSaga req = .ok req' ↔
      (req.paymentID ≠ "" ∧ req.idempotencyKey ≠ "" ∧ req.userID ≠ "" ∧ req.fromWalletID ≠ "" ∧
        req.toWalletID ≠ "" ∧ req.currency ≠ "") ∧ 0 < req.amountCents ∧ req' = req := by
  simp only [SagaGrpc.startPaymentSaga, bind_eq_ok, refuseIf_eq_ok, not_or, exists_const,
    Int64.not_le, Except.ok.injEq, eq_comm (a := req')]

variable {sub sub' : Submission U}

/-- The request of a submission that gets to the orchestrator. -/
theorem startRequest?_eq_some :
    sub.startRequest? = some req ↔
      Gateway.startPayment sub.userID sub.newPaymentID sub.newTraceID sub.request = .ok req ∧
        SagaGrpc.startPaymentSaga req = .ok req := by
  simp only [Submission.startRequest?, Option.bind_eq_bind, Option.bind_eq_some_iff,
    Except.toOption_eq_some]
  constructor
  · rintro ⟨req', hstart, hserver⟩
    obtain rfl := (startPaymentSaga_eq_ok.mp hserver).2.2
    exact ⟨hstart, hserver⟩
  · exact fun h => ⟨req, h⟩

/-- The same request again, if it names its payment: only the trace ID may be another one. -/
theorem startRequest?_again (hnames : sub.request.NamesPayment)
    (huser : sub'.userID = sub.userID) (hrequest : sub'.request = sub.request)
    (h : sub.startRequest? = some req) :
    ∃ req', sub'.startRequest? = some req' ∧ sameStartPayload (startedSaga req 0)
      (startedSaga req' 0) := by
  obtain ⟨hstart, hserver⟩ := startRequest?_eq_some.mp h
  obtain ⟨body, hbody, hpayment, hpasses, rfl⟩ := startPayment_eq_ok.mp hstart
  obtain ⟨mediaType, body', hbody', hne⟩ := hnames
  obtain rfl : body' = body := by
    rw [hbody] at hbody'
    injection hbody' with _ hb
    exact (Option.some.inj hb).symm
  have hid : ∀ id : U, requestPaymentID id body' = body'.paymentID := fun id => if_neg hne
  refine ⟨requestFor sub'.userID sub'.newPaymentID sub'.newTraceID sub'.request body', ?_, ?_⟩
  · refine startRequest?_eq_some.mpr ⟨startPayment_eq_ok.mpr ⟨body', hrequest ▸ hbody, ?_, hpasses,
      rfl⟩, startPaymentSaga_eq_ok.mpr ?_⟩
    · rw [hid] at hpayment ⊢
      exact hpayment
    · have hchecks := startPaymentSaga_eq_ok.mp hserver
      simp only [requestFor, hid, huser, hrequest] at hchecks ⊢
      exact ⟨hchecks.1, hchecks.2.1, trivial⟩
  · simp only [sameStartPayload, startedSaga, requestFor, hid, huser, hrequest, and_self]

/-- Without a payment ID in the body, the request has the one the gateway draws, and the key of
    the header if there is one. -/
theorem startRequest?_unnamed (hnames : ¬ sub.request.NamesPayment)
    (hkey : Go.trimSpace sub.request.idempotencyKey ≠ "") (h : sub.startRequest? = some req) :
    req.paymentID = text sub.newPaymentID ∧ req.userID = text sub.userID ∧
      req.idempotencyKey = Go.trimSpace sub.request.idempotencyKey := by
  obtain ⟨hstart, -⟩ := startRequest?_eq_some.mp h
  obtain ⟨body, hbody, -, -, rfl⟩ := startPayment_eq_ok.mp hstart
  have hempty : body.paymentID = "" := by
    by_contra hne
    exact hnames ⟨_, body, hbody, hne⟩
  refine ⟨if_pos hempty, rfl, if_neg hkey⟩

end Gateway

/-! ## The store on the second request -/

omit [UuidLib U] in
/-- A request with the payload of a stored row gets that row. -/
theorem create_again {id : String} {now : Time} {s row : Saga}
    (hrow : w.saga? s.paymentID = some row)
    (hsame : sameStartPayload row s) (hamount : 0 < s.amountCents) (hid : s.paymentID ≠ "") :
    w.create id now s = .ok (row, w) := by
  have hconflict : w.conflicts id s = true :=
    List.any_eq_true.mpr ⟨row, (World.saga?_some hrow).1,
      decide_eq_true (.inr (.inl (World.saga?_some hrow).2))⟩
  have hfound : w.findDuplicate s = .ok row := by
    simp [World.findDuplicate, hid, hrow, Except.ofOption]
  simp only [World.create, Int64.not_le.mpr hamount, hconflict, ↓reduceIte, hfound]
  simp [hsame, Except.refuseIf, bind, Except.bind]

omit [UuidLib U] in
/-- A request with the user and key of a stored row and a payment ID of its own is refused. -/
theorem create_conflict {id : String} {now : Time} {s row : Saga}
    (hnew : ∀ r ∈ w.sagas, r.paymentID ≠ s.paymentID) (hrow : row ∈ w.sagas)
    (huser : row.userID = s.userID) (hkey : row.idempotencyKey = s.idempotencyKey)
    {a : Saga × World U} : w.create id now s ≠ .ok a := by
  intro h
  obtain ⟨s', w'⟩ := a
  rcases World.create_ok h with ⟨hs', hsame, -⟩ | ⟨-, -, hadded⟩
  · exact hnew s' hs' hsame.1
  · -- a row is only added if there is no conflict
    have hconflict : w.conflicts id s = true :=
      List.any_eq_true.mpr ⟨row, hrow, decide_eq_true (.inr (.inr ⟨huser, hkey⟩))⟩
    simp only [World.create, hconflict, ↓reduceIte] at h
    split at h
    · cases h
    simp only [Except.bind_eq_ok] at h
    obtain ⟨existing, -, -, -, hsame⟩ := h
    cases hsame
    have hlen := congrArg (fun v : World U => v.sagas.length) hadded
    simp at hlen

/-- A start is its create and what comes after it. -/
theorem start_eval {cs : Nat → Choice U} (hcs : ∀ n, (cs n).fault = .none) (req : StartRequest) :
    (startPaymentSaga req).eval (sagaMachine U) cs w =
      (Prog.onAnswer (fun created : Saga =>
          if created.state ≠ .started then pure created else advance created)
        (SagaOp.run.commit w
          (w.create (text (cs 1).env.sagaID) (cs 1).env.now (startedSaga req (cs 0).clock))).1).eval
        (sagaMachine U) (fun n => cs (n + 2))
        (SagaOp.run.commit w
          (w.create (text (cs 1).env.sagaID) (cs 1).env.now (startedSaga req (cs 0).clock))).2 := by
  have hcreate : ∀ s : Saga, (SagaOp.create s).exec (cs 1) w =
      SagaOp.run.commit w (w.create (text (cs 1).env.sagaID) (cs 1).env.now s) :=
    fun s => exec_none (hcs 1)
  simp only [startPaymentSaga, Prog.perform_bind, Prog.eval, sagaMachine_exec]
  rw [← hcreate]
  rfl

/-! ## Sending a payment again -/

/-- Once a POST /v1/transfers with an idempotency key has been accepted, the identical request
    is accepted again, with the same payment and no further saga, exactly if it names its
    payment. In between any handlers run, as long as none writes a STARTED copy over a row
    that has left STARTED, and the gateway draws payment IDs that no saga has. -/
theorem resubmission_iff (hk : w.Keyed) {acts : List (Act SagaRequest (Choice U))}
    (hacts : GoesForward w acts) {first second : Submission U} {req : StartRequest}
    (hfirst : first.startRequest? = some req)
    (haccepted : (interleave w acts).Returned (requestsOf acts) (.start req))
    (huser : second.userID = first.userID) (hrequest : second.request = first.request)
    (hkey : Go.trimSpace first.request.idempotencyKey ≠ "")
    (hfresh : ∀ s ∈ (interleave w acts).world.sagas, s.paymentID ≠ text second.newPaymentID)
    {cs : Nat → Choice U} (hcs : ∀ n, (cs n).fault = .none) :
    (∃ req' row, second.startRequest? = some req' ∧
      (startPaymentSaga req').eval (sagaMachine U) cs (interleave w acts).world =
        (.ok row, (interleave w acts).world) ∧ row.paymentID = req.paymentID) ↔
      first.request.NamesPayment := by
  obtain ⟨row, hrow, hsame, hstate⟩ := accepted_of_returned hk hacts haccepted
  generalize (interleave w acts).world = v at hrow hfresh ⊢
  constructor
  · rintro ⟨req', row', hsecond, heval, -⟩
    by_contra hnames
    obtain ⟨hid, huser', hkey'⟩ := startRequest?_unnamed hnames hkey hfirst
    obtain ⟨hid₂, huser₂, hkey₂⟩ :=
      startRequest?_unnamed (hrequest ▸ hnames) (hrequest ▸ hkey) hsecond
    -- the row of the first request has the user and the key of the second one
    rw [start_eval hcs] at heval
    cases hcreate : v.create (text (cs 1).env.sagaID) (cs 1).env.now
        (startedSaga req' (cs 0).clock) with
    | ok a =>
      refine create_conflict (fun r hr => ?_) (World.saga?_some hrow).1 ?_ ?_ hcreate
      · show r.paymentID ≠ req'.paymentID
        rw [hid₂]
        exact hfresh r hr
      · show row.userID = req'.userID
        rw [huser₂, huser, ← huser']
        exact hsame.2.2.1
      · show row.idempotencyKey = req'.idempotencyKey
        rw [hkey₂, hrequest, ← hkey']
        exact hsame.2.1
    | error e =>
      rw [hcreate] at heval
      cases heval
  · intro hnames
    obtain ⟨req', hsecond, hpayload⟩ := startRequest?_again hnames huser hrequest hfirst
    refine ⟨req', row, hsecond, ?_, hsame.1⟩
    have hserver := startPaymentSaga_eq_ok.mp (startRequest?_eq_some.mp hsecond).2
    have hid : req.paymentID = req'.paymentID := hpayload.1
    have hcreate : v.create (text (cs 1).env.sagaID) (cs 1).env.now
        (startedSaga req' (cs 0).clock) = .ok (row, v) := by
      refine create_again ?_ (hsame.trans hpayload) hserver.2.1 hserver.1.1
      show v.saga? req'.paymentID = some row
      rw [← hid]
      exact hrow
    rw [start_eval hcs, hcreate]
    simp only [SagaOp.run.commit, Prog.onAnswer_ok, ne_eq, hstate, not_false_eq_true, ↓reduceIte]
    rfl

namespace Sample

/-- The first thread of a run has returned. -/
def firstReturned (acts : List (Act SagaRequest (Choice CanonicalUuid))) : Bool :=
  match (interleave world acts).threads with
  | (_, .done ()) :: _ => true
  | _ => false

theorem returned_of_firstReturned {q : SagaRequest}
    {acts : List (Act SagaRequest (Choice CanonicalUuid))}
    (h : firstReturned (.start q :: acts) = true)
    (hq : (requestsOf (.start q :: acts))[0]? = some q) :
    (interleave world (.start q :: acts)).Returned (requestsOf (.start q :: acts)) q := by
  unfold firstReturned at h
  split at h
  · rename_i g rest hthreads
    exact ⟨0, g, hq, by rw [hthreads]; rfl⟩
  · cases h

/-- A POST with an idempotency key. The gateway draws the `n`-th payment ID for it if it names
    none. -/
def keyed (paymentID : String) (n : Nat) : Submission CanonicalUuid :=
  { userID := payer, newPaymentID := id n, newTraceID := id 7
    request :=
      { body := .sent (some "application/json") (some
          { paymentID := paymentID, fromWallet := text payerWallet, toWallet := text payeeWallet
            amountCents := 300, currency := "USD" })
        idempotencyKey := "key-1", traceID := "trace-1" } }

end Sample

/-- The sample payment is accepted, and accepted again. -/
theorem resubmission_named :
    ∃ req' row, (Sample.keyed (text Sample.paymentID) 8).startRequest? = some req' ∧
      (startPaymentSaga req').eval (sagaMachine CanonicalUuid) Sample.choice
        (interleave Sample.world Sample.startedRun).world =
          (.ok row, (interleave Sample.world Sample.startedRun).world) ∧
      row.paymentID = Sample.startRequest.paymentID := by
  have hfirst : (Sample.keyed (text Sample.paymentID) 8).startRequest? =
      some Sample.startRequest := by decide +kernel
  have hrun : GoesForward Sample.world Sample.startedRun ∧
      Sample.firstReturned Sample.startedRun = true ∧
      ∀ s ∈ (interleave Sample.world Sample.startedRun).world.sagas,
        s.paymentID ≠ text (Sample.id 8) := by decide +kernel
  exact (resubmission_iff Sample.world_keyed hrun.1 hfirst
    (Sample.returned_of_firstReturned hrun.2.1 rfl) rfl rfl (by decide +kernel) hrun.2.2
    fun _ => rfl).mpr ⟨_, _, rfl, by decide +kernel⟩

/-- The same POST twice without a payment ID: the first one is accepted and runs to its end, the
    second one is refused as a conflict. -/
theorem unnamed_resubmission_conflicts :
    (Sample.keyed "" 5).startRequest? = some Sample.startRequest ∧
      (Sample.keyed "" 8).startRequest? =
        some { Sample.startRequest with paymentID := text (Sample.id 8) } ∧
      Sample.firstReturned Sample.startedRun = true ∧
      ((startPaymentSaga { Sample.startRequest with paymentID := text (Sample.id 8) }).eval
        (sagaMachine CanonicalUuid) Sample.choice
        (interleave Sample.world Sample.startedRun).world).1 = .error .alreadyExists := by
  decide +kernel

end EnjoyThings
