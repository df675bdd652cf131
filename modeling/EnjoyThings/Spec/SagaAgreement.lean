import EnjoyThings.Spec.SagaExclusive

/-!
# Terminal states agree with wallet and ledger

When the handlers of a payment run one at a time, the copy a handler works with is
the stored row (`Exact`), wherever earlier handlers have stopped. A saga that is
still STARTED has then no debit, so that giving it up as unverified loses nothing,
and FAILED after a compensation is stored only once the compensation is there.
What COMPLETED rests on holds for interleaved handlers already (`World.Exclusive`).
-/

namespace EnjoyThings

open Effect Orchestrator

variable {U : Type} [UuidLib U] {w w' : World U} {s s' : Saga} {paymentID : String}

/-- No wallet debit exists for the payment. -/
def World.NoDebit (w : World U) (paymentID : String) : Prop :=
  ∀ op ∈ w.db.operations, op.operation = .debit → parse paymentID ≠ some op.paymentID

/-- A compensation exists for the payment. -/
def World.HasCompensation (w : World U) (paymentID : String) : Prop :=
  ∃ op ∈ w.db.operations, op.operation = .compensation ∧ parse paymentID = some op.paymentID

/-- The compensation gives back what the debit took. -/
structure GivesBack (compensation debit : SagaWalletOperation U) : Prop where
  operation : debit.operation = .debit
  paymentID : debit.paymentID = compensation.paymentID
  walletID : compensation.walletID = debit.walletID
  amountCents : compensation.amountCents = debit.amountCents

/-- The invariant of a payment whose handlers run one at a time. -/
structure World.Agreed (paymentID : String) (w : World U) : Prop where
  keyed : w.Keyed
  only : ∀ s ∈ w.sagas, s.paymentID = paymentID
  matched : ∀ op ∈ w.db.operations, op.operation = .compensation →
    ∃ debit ∈ w.db.operations, GivesBack op debit
  undebited : (∀ s ∈ w.sagas, s.state = .started) → w.NoDebit paymentID
  failed : ∀ s ∈ w.sagas, s.state = .failed → w.NoDebit paymentID ∨ w.HasCompensation paymentID

/-- The facts a handler can count on, beside that its copy is the stored row. -/
def AgreedFact : Fact → World U → Prop
  | .verified s, _ | .unverified s, _ => s.state = .started
  | .compensated s, w => w.HasCompensation s.paymentID
  | _, _ => True

/-- The copy a handler works with is the stored row, and there is no other row. -/
structure Exact (k : Knowledge) (_ : Seen) (w : World U) : Prop where
  fact : ∀ f ∈ k.fact, k.listed = [] ∧ w.sagas = [f.saga] ∧ AgreedFact f w
  listed : k.listed = [] ∨ ∃ s, k.listed = [s] ∧ w.sagas = [s]

namespace World.Agreed

/-- The payment has at most one row. -/
theorem eq_singleton (h : w.Agreed paymentID) (hs : s ∈ w.sagas) : w.sagas = [s] := by
  have hkeys := h.keyed.sagas
  have honly := h.only
  generalize w.sagas = sagas at hs hkeys honly
  match sagas with
  | [] => cases hs
  | [r] => rw [List.mem_singleton.mp hs]
  | r :: r' :: rest =>
    have hr := honly r List.mem_cons_self
    have hr' := honly r' (List.mem_cons_of_mem _ List.mem_cons_self)
    simp [hr, hr'] at hkeys

/-- A write keeps the invariant if what STARTED and FAILED promise holds for the new row. -/
theorem write (h : w.Agreed paymentID) {r : Saga} (hr : w.sagas = [r]) {now : Time}
    {events : List OutboxRecord} {audit : Option FraudAuditRecord}
    (hw : w.write now s events audit = .ok (s', w'))
    (hstarted : s.state = .started → w.NoDebit paymentID)
    (hfailed : s.state = .failed → w.NoDebit paymentID ∨ w.HasCompensation paymentID) :
    w'.Agreed paymentID ∧ w'.sagas = [s'] := by
  have hwrote := World.write_wrote hw
  have hops : w'.db.operations = w.db.operations := by rw [hwrote.db]
  have hsagas : w'.sagas = [s'] := by
    obtain ⟨row, hrow, rfl, rfl⟩ := World.write_ok hw
    obtain ⟨hmem, hpid⟩ := World.saga?_some hrow
    rw [hr] at hmem
    obtain rfl := List.mem_singleton.mp hmem
    simp [World.afterWrite, hr, hpid]
  have hnodebit : w.NoDebit paymentID → w'.NoDebit paymentID := by
    unfold NoDebit
    rw [hops]
    exact id
  have hcompensation : w.HasCompensation paymentID → w'.HasCompensation paymentID := by
    unfold HasCompensation
    rw [hops]
    exact id
  have hstate : s'.state = s.state := hwrote.written.state_eq
  refine ⟨⟨(hwrote.grows h.keyed).1, ?_, ?_, ?_, ?_⟩, hsagas⟩
  · rw [hsagas]
    intro o ho
    rw [List.mem_singleton.mp ho, hwrote.written.paymentID_eq]
    obtain ⟨row, hrow, -⟩ := World.write_ok hw
    obtain ⟨hmem, hpid⟩ := World.saga?_some hrow
    rw [← hpid]
    exact h.only row hmem
  · rw [hops]
    exact h.matched
  · rw [hsagas]
    intro hs
    exact hnodebit (hstarted (hstate ▸ hs s' (List.mem_singleton_self _)))
  · rw [hsagas]
    intro o ho hof
    rw [List.mem_singleton.mp ho, hstate] at hof
    rcases hfailed hof with hn | hc
    · exact .inl (hnodebit hn)
    · exact .inr (hcompensation hc)

/-- A step that changes neither the row nor the wallet operations. -/
theorem of_operations (h : w.Agreed paymentID) (hk : w'.Keyed) (hs : w'.sagas = w.sagas)
    (ho : w'.db.operations = w.db.operations) : w'.Agreed paymentID := by
  refine ⟨hk, ?_, ?_, ?_, ?_⟩
  · rw [hs]
    exact h.only
  · rw [ho]
    exact h.matched
  · unfold NoDebit
    rw [hs, ho]
    exact h.undebited
  · unfold NoDebit HasCompensation
    rw [hs, ho]
    exact h.failed

variable {env : TxEnv U} {db : Database U}

/-- A debit is made for a row that is neither STARTED nor FAILED. -/
theorem debit {op : SagaWalletOperation U} (h : w.Agreed paymentID) (hr : w.sagas = [s])
    (hs : s.state = .verificationChecked) {cmd : SagaDebitCommand U}
    (htx : w.db.debitForSaga env cmd = .ok (op, db)) :
    Agreed paymentID { w with db := db } := by
  have hk := (Database.debitForSaga_grows h.keyed.db htx).1
  rcases Database.debitForSaga_ok htx with ⟨-, rfl⟩ | ⟨-, wallet, -, -, -, -, -, rfl, rfl⟩
  · exact h
  · refine ⟨⟨hk, h.keyed.sagas⟩, h.only, fun o ho hkind => ?_, fun hall => ?_, fun o ho hof => ?_⟩
    · rcases List.mem_concat_iff.mp ho with ho | rfl
      · obtain ⟨debit, hdebit, hback⟩ := h.matched o ho hkind
        exact ⟨debit, List.mem_append_left _ hdebit, hback⟩
      · cases hkind
    · have hstarted := hall s (hr ▸ List.mem_singleton_self s)
      rw [hs] at hstarted
      cases hstarted
    · have hmem : o ∈ w.sagas := ho
      rw [hr] at hmem
      rw [List.mem_singleton.mp hmem, hs] at hof
      cases hof

/-- A compensation gives back the debit of its payment. -/
theorem compensate {op : SagaWalletOperation U} (h : w.Agreed paymentID)
    {cmd : SagaCompensationCommand U} (htx : w.db.compensateDebit env cmd = .ok (op, db))
    (hpid : parse paymentID = some cmd.paymentID) :
    Agreed paymentID { w with db := db } ∧
      HasCompensation { w with db := db } paymentID := by
  have hk := (Database.compensateDebit_grows h.keyed.db htx).1
  rcases Database.compensateDebit_ok htx with
    ⟨hop, rfl⟩ | ⟨-, debit, wallet, hdebit, -, hwallet, -, -, rfl, rfl⟩
  · obtain ⟨hmem, hp, hkind⟩ := Database.operation?_some hop
    exact ⟨h, op, hmem, hkind, hpid.trans (congrArg some hp.symm)⟩
  · obtain ⟨hmem, hp, hkind⟩ := Database.operation?_some hdebit
    have hnew : Database.compensationOperation env cmd debit wallet ∈
        w.db.operations ++ [Database.compensationOperation env cmd debit wallet] :=
      List.mem_concat_self
    refine ⟨⟨⟨hk, h.keyed.sagas⟩, h.only, fun o ho hkind' => ?_, fun hall => ?_,
      fun _ _ _ => .inr ⟨_, hnew, rfl, hpid⟩⟩, _, hnew, rfl, hpid⟩
    · rcases List.mem_concat_iff.mp ho with ho | rfl
      · obtain ⟨d, hd, hback⟩ := h.matched o ho hkind'
        exact ⟨d, List.mem_append_left _ hd, hback⟩
      · exact ⟨debit, List.mem_append_left _ hmem, hkind, hp,
          (Database.wallet?_some hwallet).2, rfl⟩
    · intro o ho ho'
      rcases List.mem_concat_iff.mp ho with ho | rfl
      · exact h.undebited hall o ho ho'
      · cases ho'

end World.Agreed

variable {f : Fact}

theorem AgreedFact.of_operations (h : AgreedFact f w) (ho : w'.db.operations = w.db.operations) :
    AgreedFact f w' := by
  cases f with
  | verified s | unverified s => exact h
  | compensated s =>
    obtain ⟨op, hop, h⟩ := h
    exact ⟨op, ho ▸ hop, h⟩
  | _ => trivial

variable {o : SagaOp} {c : Choice U} {a : o.Ret}

/-- Every move of the protocol keeps the invariant, and the copy is the stored row again. -/
theorem agreed_move {f : Option Fact} {lesson : Except SagaErr o.Ret → Option Fact}
    (hm : FactMove f o lesson) (hi : w.Agreed paymentID)
    (hf : ∀ g ∈ f, w.sagas = [g.saga] ∧ AgreedFact g w) (hrun : o.run c w = (.ok a, w')) :
    w'.Agreed paymentID ∧ ∀ g ∈ lesson (.ok a), w'.sagas = [g.saga] ∧ AgreedFact g w' := by
  have hk := (run_grows hi.keyed hrun).1
  cases hm with
  | now f =>
    cases hrun
    exact ⟨hi, hf⟩
  | audit f record =>
    cases hrun
    exact ⟨hi.of_operations hk rfl rfl, fun g hg => ⟨(hf g hg).1, (hf g hg).2.of_operations rfl⟩⟩
  | @verify s hs =>
    obtain ⟨hrow, -⟩ := hf _ rfl
    obtain ⟨-, rfl⟩ := Prod.mk.inj hrun
    refine ⟨hi.of_operations hk rfl rfl, fun g hg => ?_⟩
    cases hg
    split
    · exact ⟨hrow, hs⟩
    · exact ⟨hrow, hs⟩
  | @writeMarked s hs e t record | @writeDeferred s hs hd result hp t record =>
    obtain ⟨hrow, -⟩ := hf _ rfl
    -- the state stays what it is, and so does what it promises
    obtain ⟨hi', hsagas⟩ := hi.write hrow (commit_eq_ok.mp hrun)
      (fun h => hi.undebited fun o ho => by
        rw [hrow] at ho
        rw [List.mem_singleton.mp ho]
        exact h)
      (fun h => hi.failed s (hrow ▸ List.mem_singleton_self s) h)
    exact ⟨hi', learned ⟨hsagas, trivial⟩⟩
  | writeUnverified s t =>
    obtain ⟨hrow, hstarted⟩ := hf _ rfl
    have hnodebit : w.NoDebit paymentID := hi.undebited fun o ho => by
      rw [hrow] at ho
      rw [List.mem_singleton.mp ho]
      exact hstarted
    obtain ⟨hi', hsagas⟩ := hi.write hrow (commit_eq_ok.mp hrun) (fun h => by cases h)
      (fun _ => .inl hnodebit)
    exact ⟨hi', learned ⟨hsagas, trivial⟩⟩
  | writeFailed s t =>
    obtain ⟨hrow, hcompensation⟩ := hf _ rfl
    have hpid : s.paymentID = paymentID := hi.only s (hrow ▸ List.mem_singleton_self s)
    obtain ⟨hi', hsagas⟩ := hi.write hrow (commit_eq_ok.mp hrun) (fun h => by cases h)
      (fun _ => .inr (hpid ▸ hcompensation))
    exact ⟨hi', learned ⟨hsagas, trivial⟩⟩
  | @debit s hs =>
    obtain ⟨hrow, -⟩ := hf _ rfl
    obtain ⟨db, hdb, rfl⟩ := rpc_eq_ok.mp hrun
    obtain ⟨_, _, _, _, -, -, -, -, htx⟩ := WalletGRPCClient.debitForSaga_ok hdb
    exact ⟨hi.debit hrow hs htx, learned ⟨hrow, trivial⟩⟩
  | @compensate s hs traceID reason =>
    obtain ⟨hrow, -⟩ := hf _ rfl
    have hpid : s.paymentID = paymentID := hi.only s (hrow ▸ List.mem_singleton_self s)
    obtain ⟨db, hdb, rfl⟩ := rpc_eq_ok.mp hrun
    obtain ⟨cmd, _, hcmd, -, -, htx⟩ := WalletGRPCClient.compensateDebit_ok hdb
    obtain ⟨hi', hcompensation⟩ := hi.compensate htx (hpid ▸ hcmd)
    refine ⟨hi', fun g hg => ?_⟩
    cases hg
    refine ⟨hrow, ?_⟩
    show World.HasCompensation _ s.paymentID
    rw [hpid]
    exact hcompensation
  | reserve hs =>
    obtain ⟨hrow, -⟩ := hf _ rfl
    obtain ⟨db, hdb, rfl⟩ := rpc_eq_ok.mp hrun
    obtain ⟨_, _, _, _, -, -, -, -, htx⟩ := LedgerGRPCClient.reserveTransfer_ok hdb
    exact ⟨hi.of_operations hk rfl (Database.reserveTransfer_operations htx),
      learned ⟨hrow, trivial⟩⟩
  | confirm hs traceID =>
    obtain ⟨hrow, -⟩ := hf _ rfl
    obtain ⟨db, hdb, rfl⟩ := rpc_eq_ok.mp hrun
    obtain ⟨_, _, -, -, -, -, htx⟩ := LedgerGRPCClient.confirmTransfer_ok hdb
    exact ⟨hi.of_operations hk rfl (Database.confirmTransfer_operations htx),
      learned ⟨hrow, trivial⟩⟩
  | cancel hs traceID reason =>
    obtain ⟨hrow, -⟩ := hf _ rfl
    obtain ⟨db, hdb, rfl⟩ := rpc_eq_ok.mp hrun
    obtain ⟨_, _, -, -, htx⟩ := LedgerGRPCClient.cancelReservation_ok hdb
    exact ⟨hi.of_operations hk rfl (Database.cancelReservation_operations htx),
      learned ⟨hrow, trivial⟩⟩
  | announce hs traceID t t' =>
    obtain ⟨hrow, -⟩ := hf _ rfl
    cases hrun
    exact ⟨hi.of_operations hk rfl rfl, learned ⟨hrow, trivial⟩⟩
  | announceFailed s traceID t t' =>
    cases hrun
    exact ⟨hi.of_operations hk rfl rfl, fun g hg => by cases hg⟩
  | _ =>
    -- the other writes lead to a state that says nothing about operations
    obtain ⟨hrow, -⟩ := hf _ rfl
    obtain ⟨hi', hsagas⟩ := hi.write hrow (commit_eq_ok.mp hrun) (fun h => by cases h)
      (fun h => by cases h)
    exact ⟨hi', learned ⟨hsagas, trivial⟩⟩

/-! ## Exact copies -/

/-- The contract of a handler that runs alone. -/
def agreedContract (U : Type) [UuidLib U] (paymentID : String) : Contract (sagaMachine U) where
  allow _ _ _ _ := True
  inv := World.Agreed paymentID
  rely := Eq
  guar _ _ := True
  rely_refl := Eq.refl
  rely_trans := Eq.trans

variable {seen : Seen}

theorem Exact.nothing : Exact ⟨none, []⟩ seen w :=
  ⟨fun f hf => absurd hf (Option.not_mem_none f), .inl rfl⟩

theorem Exact.one (hs : w.sagas = [f.saga]) (hf : AgreedFact f w) :
    Exact ⟨some f, []⟩ seen w := by
  refine ⟨fun g hg => ?_, .inl rfl⟩
  cases hg
  exact ⟨rfl, hs, hf⟩

variable {k : Knowledge}

theorem Exact.mono {l : Knowledge} (hle : k.le l) (hk : Exact k seen w) :
    Exact l seen w := by
  induction hle with
  | refl => exact hk
  | trans _ _ ih ih' => exact ih' (ih hk)
  | forget f l => exact ⟨fun f hf => absurd hf (Option.not_mem_none f), hk.listed⟩
  | drop f l => exact ⟨fun g hg => ⟨rfl, (hk.fact g hg).2⟩, .inl rfl⟩
  | take s l =>
    rcases hk.listed with hl | ⟨r, hl, hr⟩
    · cases hl
    · obtain ⟨rfl, rfl⟩ := List.cons.inj hl
      exact .one hr trivial

omit [UuidLib U] in
/-- A listing of the only row. -/
theorem World.listNonTerminal_singleton (h : w.sagas = [s]) :
    w.listNonTerminal = [] ∨ w.listNonTerminal = [s] := by
  unfold World.listNonTerminal
  rw [h]
  by_cases hs : s.state.terminal = true <;> simp [hs]

variable {learn : Except SagaErr o.Ret → Knowledge}

/-- A call that took effect keeps the invariant, and the copy it returns is the stored row. -/
theorem Exact.effect (hm : Move (fun req => req.paymentID = paymentID) k o learn) (seen' : Seen)
    (hi : w.Agreed paymentID) (hk : Exact k seen w) (hrun : o.run c w = (.ok a, w')) :
    w'.Agreed paymentID ∧ Exact (learn (.ok a)) seen' w' := by
  cases hm with
  | @fact f _ lesson hm listed =>
    obtain ⟨hi', hlesson⟩ := agreed_move hm hi (fun g hg => (hk.fact g hg).2) hrun
    refine ⟨hi', ?_⟩
    cases f with
    | none =>
      cases hm with
      | now | audit =>
        cases hrun
        exact ⟨fun f hf => absurd hf (Option.not_mem_none f), hk.listed⟩
    | some f =>
      obtain ⟨rfl, -⟩ := hk.fact f rfl
      exact ⟨fun g hg => ⟨rfl, hlesson g hg⟩, .inl rfl⟩
  | get id =>
    obtain ⟨hs, rfl⟩ := Prod.mk.inj hrun
    have hs := World.saga?_some (World.getByPaymentID_eq_ok.mp hs)
    exact ⟨hi, .one (f := .row a) (hi.eq_singleton hs.1) trivial⟩
  | create req t hid =>
    rcases World.create_ok (commit_eq_ok.mp hrun) with ⟨hs, -, rfl⟩ | ⟨rfl, hnew, rfl⟩
    · exact ⟨hi, .one (f := .row a) (hi.eq_singleton hs) trivial⟩
    · -- there was no row, and a payment without a row has no debit
      have hempty : w.sagas = [] := by
        refine List.eq_nil_iff_forall_not_mem.mpr fun o ho => hnew o ho ?_
        exact (hi.only o ho).trans hid.symm
      have hnodebit : w.NoDebit paymentID := hi.undebited fun o ho => by
        rw [hempty] at ho
        cases ho
      have hk := (run_grows hi.keyed hrun).1
      refine ⟨⟨hk, fun o ho => ?_, hi.matched, fun _ => hnodebit, fun _ _ _ => .inl hnodebit⟩,
        .one (f := .row _) (by rw [hempty]; rfl) trivial⟩
      rcases List.mem_concat_iff.mp ho with ho | rfl
      · exact hi.only o ho
      · exact hid
  | list =>
    cases hrun
    refine ⟨hi, fun f hf => absurd hf (Option.not_mem_none f), ?_⟩
    match hsagas : w.sagas with
    | [] => exact .inl (by unfold listedRows World.listNonTerminal; rw [hsagas]; rfl)
    | r :: rest =>
      have hr := hi.eq_singleton (hsagas ▸ List.mem_cons_self : r ∈ w.sagas)
      rcases World.listNonTerminal_singleton hr with hl | hl
      · exact .inl hl
      · exact .inr ⟨r, hl, hsagas ▸ hr⟩

/-- What is known after a call that reports an error, with the effect of the call or without. -/
theorem Exact.error (hm : Move (fun req => req.paymentID = paymentID) k o learn) {seen' : Seen}
    (hk : Exact k seen w) (e : SagaErr) (hw : w' = w ∨ ∃ a, o.run c w = (.ok a, w')) :
    Exact (learn (.error e)) seen' w' := by
  cases hm with
  | @fact f _ lesson hm listed =>
    cases hm with
    | now | audit =>
      have hsame : w'.sagas = w.sagas ∧ w'.db.operations = w.db.operations := by
        rcases hw with rfl | ⟨a, hrun⟩
        · exact ⟨rfl, rfl⟩
        · cases hrun
          exact ⟨rfl, rfl⟩
      refine ⟨fun g hg => ?_, hsame.1 ▸ hk.listed⟩
      obtain ⟨hl, hs, hf⟩ := hk.fact g hg
      exact ⟨hl, hsame.1 ▸ hs, hf.of_operations hsame.2⟩
    | @verify s hs =>
      have hsame : w'.sagas = w.sagas := by
        rcases hw with rfl | ⟨a, hrun⟩
        · rfl
        · obtain ⟨-, rfl⟩ := Prod.mk.inj hrun
          rfl
      obtain ⟨rfl, hrow, -⟩ := hk.fact _ rfl
      cases e with
      | verificationNotFound => exact .one (f := .unverified s) (hsame ▸ hrow) hs
      | _ => exact .nothing
    | _ =>
      obtain ⟨rfl, -⟩ := hk.fact _ rfl
      exact .nothing
  | get _ | create _ _ _ | list => exact .nothing

theorem agreed_sound :
    (sagaDiscipline fun req => req.paymentID = paymentID).Sound (agreedContract U paymentID)
      Exact where
  mono := .mono
  stable hk hw _ := hw ▸ hk
  answers := exec_answer
  step {k o learn seen w c} hm hi hk _ := by
    have houtcome : ∀ {r : Except SagaErr o.Ret × World U}, Outcome c o w r →
        r.2.Agreed paymentID ∧ True ∧ Exact (learn r.1) (seen.see o r.1) r.2 := by
      rintro r (⟨e, rfl⟩ | ⟨a, w', hrun, rfl | ⟨e, rfl⟩⟩)
      · exact ⟨hi, trivial, .error hm hk e (c := c) (.inl rfl)⟩
      · obtain ⟨hi', hk'⟩ := Exact.effect hm (seen.see o (.ok a)) hi hk hrun
        exact ⟨hi', trivial, hk'⟩
      · obtain ⟨hi', -⟩ := Exact.effect hm seen hi hk hrun
        exact ⟨hi', trivial, .error hm hk e (.inr ⟨a, hrun⟩)⟩
    exact houtcome (exec_outcome c o w)

/-! ## Every sequence of requests -/

theorem World.Idle.agreed (h : w.Idle) : w.Agreed paymentID where
  keyed := h.exclusive.keyed
  only s hs := by
    rw [h.sagas] at hs
    cases hs
  matched op hop := by
    rw [h.operations] at hop
    cases hop
  undebited _ op hop := by
    rw [h.operations] at hop
    cases hop
  failed s hs := by
    rw [h.sagas] at hs
    cases hs

/-- The handlers of one payment run one at a time, in any order and number, and each may stop
    anywhere. A COMPLETED saga then has a confirmed reservation and no compensation. A FAILED
    saga has no debit, or a compensation of the debited wallet and amount. -/
theorem terminal_agreement (hw : w.Idle) {reqs : List (SagaRequest × List (Choice U))}
    (hreqs : ∀ r ∈ reqs, ∀ id ∈ r.1.paymentID?, id = paymentID) {row : Saga}
    (hrow : (oneAtATime w reqs).saga? paymentID = some row) :
    (row.state = .completed →
      (oneAtATime w reqs).ReservationIs paymentID .confirmed ∧
        ¬ (oneAtATime w reqs).HasCompensation paymentID) ∧
    (row.state = .failed →
      (oneAtATime w reqs).NoDebit paymentID ∨
        ∃ op ∈ (oneAtATime w reqs).db.operations, op.operation = .compensation ∧
          parse paymentID = some op.paymentID ∧
          ∃ debit ∈ (oneAtATime w reqs).db.operations, GivesBack op debit) := by
  have hexclusive : (oneAtATime w reqs).Exclusive :=
    exclusive_interpretation.oneAtATime_inv hw.exclusive fun _ _ _ _ => trivial
  have hsafe : ∀ (q : SagaRequest) (w : World U), (∀ id ∈ q.paymentID?, id = paymentID) →
      w.Agreed paymentID → (agreedContract U paymentID).Safe q.handler [] w := fun q _ hq _ =>
    ((handler_follows q fun req hreq => hq req.paymentID (by rw [hreq]; rfl)).holds agreed_sound
      Exact.nothing).safe
  have hagreed : (oneAtATime w reqs).Agreed paymentID :=
    serial_inv (K := agreedContract U paymentID) hsafe hw.agreed (.of_forall hreqs)
      fun _ _ _ _ _ _ _ => trivial
  obtain ⟨hmem, hpid⟩ := World.saga?_some hrow
  refine ⟨fun hcompleted => ?_, fun hfailed => ?_⟩
  · have hconfirmed : (oneAtATime w reqs).ReservationIs paymentID .confirmed := by
      rw [← hpid]
      exact hexclusive.rows row hmem .confirmed (by rw [hcompleted]; rfl)
    refine ⟨hconfirmed, fun ⟨op, hop, hkind, hp⟩ => ?_⟩
    -- a compensation needs the same reservation to be canceled
    obtain ⟨r, hr, hcanceled⟩ := hexclusive.compensated op hop hkind
    obtain ⟨u, o, hu, ho, hstatus⟩ := hconfirmed
    cases hp.symm.trans hu
    cases hr.symm.trans ho
    rw [hcanceled] at hstatus
    cases hstatus
  · rcases hagreed.failed row hmem hfailed with hnodebit | ⟨op, hop, hkind, hp⟩
    · exact .inl hnodebit
    · exact .inr ⟨op, hop, hkind, hp, hagreed.matched op hop hkind⟩

namespace Sample

/-- The start stops after the debit, a restart finishes it, and the rail refuses the payment. -/
def failedRequests : List (SagaRequest × List (Choice CanonicalUuid)) :=
  [(.start startRequest, choices 0 6), (.resumeNonTerminal, choices 6 9),
    (.paymentFailed failedEvent, choices 15 10)]

theorem failedRequests_paymentID :
    ∀ r ∈ failedRequests, ∀ id ∈ r.1.paymentID?, id = text Sample.paymentID := by
  decide +kernel

end Sample

/-- The refused payment is FAILED, has a debit, and gives it back. -/
theorem terminal_agreement_failedRequests :
    Sample.world.Idle ∧ ∃ op ∈ (oneAtATime Sample.world Sample.failedRequests).db.operations,
      op.operation = .compensation ∧
      ∃ debit ∈ (oneAtATime Sample.world Sample.failedRequests).db.operations,
        GivesBack op debit := by
  have hstate : ((oneAtATime Sample.world Sample.failedRequests).saga?
      (text Sample.paymentID)).map (·.state) = some .failed := by decide +kernel
  have hdebit : ¬ ∀ op ∈ (oneAtATime Sample.world Sample.failedRequests).db.operations,
      op.operation = .debit → parse (text Sample.paymentID) ≠ some op.paymentID := by
    decide +kernel
  obtain ⟨row, hrow, hfailed⟩ := Option.map_eq_some_iff.mp hstate
  have hagree := terminal_agreement Sample.world_idle Sample.failedRequests_paymentID hrow
  rcases hagree.2 hfailed with hnone | ⟨op, hop, hkind, -, hback⟩
  · exact absurd hnone hdebit
  · exact ⟨Sample.world_idle, op, hop, hkind, hback⟩

end EnjoyThings
