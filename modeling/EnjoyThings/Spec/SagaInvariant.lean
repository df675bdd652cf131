import EnjoyThings.Spec.SagaProtocol
import EnjoyThings.Spec.WalletsCorrect

/-!
# Invariants of interleaved handlers

Whatever the handlers do, the world only grows: tables as in `Database.Grows`,
saga rows with the payload they were started with, and the answers of the
verification service. A fact that survives growth can therefore not be made false
by another handler, however stale the copies are that either of them works with.
`Interpretation` collects what is left to prove for an invariant that rests on
such facts: what a single move of the protocol does to it.

## Key results

- `run_commits`: what a call does to the tables of the wallet and the ledger
- `run_grows`: every call lets the world grow
- `Interpretation.interleave_inv`: the invariant holds in every reachable state
- `Interpretation.oneAtATime_inv`: the same for handlers that run one at a time
-/

namespace EnjoyThings

open Effect

variable {U : Type} [UuidLib U] {s s' : Saga}

/-! ## Growth of the world -/

/-- The keys of the saga table and of the wallet and ledger tables. -/
structure World.Keyed (w : World U) : Prop where
  db : w.db.Keyed
  sagas : (w.sagas.map (·.paymentID)).Nodup

theorem Sample.world_keyed : Sample.world.Keyed := by
  refine ⟨⟨?_, ?_, ?_, ?_, ?_⟩, ?_⟩ <;> decide +kernel

omit [UuidLib U] in
/-- A saga is determined by its payment. -/
theorem World.Keyed.eq_of_paymentID {w : World U} (h : w.Keyed) {r s : Saga} (hr : r ∈ w.sagas)
    (hs : s ∈ w.sagas) (he : r.paymentID = s.paymentID) : r = s :=
  List.inj_on_of_nodup_map h.sagas hr hs he

omit [UuidLib U] in
theorem World.Keyed.saga?_of_mem {w : World U} (h : w.Keyed) (hs : s ∈ w.sagas) :
    w.saga? s.paymentID = some s :=
  List.find?_key_of_mem h.sagas hs

omit [UuidLib U] in
/-- A listing has one row per payment. -/
theorem World.listNonTerminal_nodup {w : World U} (h : (w.sagas.map (·.paymentID)).Nodup) :
    (w.listNonTerminal.map (·.paymentID)).Nodup := by
  have hperm : w.listNonTerminal.Perm (w.sagas.filter fun s => !s.state.terminal) :=
    List.perm_insertionSort _ _
  rw [(hperm.map _).nodup_iff]
  exact h.sublist (List.filter_sublist.map _)

/-- What no handler takes back. -/
structure World.Grows (w w' : World U) : Prop where
  db : w.db.Grows w'.db
  sagas : ∀ s ∈ w.sagas, ∃ s' ∈ w'.sagas, sameStartPayload s' s
  answers : ∀ x ∈ w.answers, x ∈ w'.answers

theorem sameStartPayload.refl (s : Saga) : sameStartPayload s s :=
  ⟨rfl, rfl, rfl, rfl, rfl, rfl, rfl⟩

theorem sameStartPayload.trans {s₁ s₂ s₃ : Saga} (h : sameStartPayload s₁ s₂)
    (h' : sameStartPayload s₂ s₃) : sameStartPayload s₁ s₃ := by
  obtain ⟨h₁, h₂, h₃, h₄, h₅, h₆, h₇⟩ := h
  obtain ⟨h₁', h₂', h₃', h₄', h₅', h₆', h₇'⟩ := h'
  exact ⟨h₁.trans h₁', h₂.trans h₂', h₃.trans h₃', h₄.trans h₄', h₅.trans h₅', h₆.trans h₆',
    h₇.trans h₇'⟩

theorem sameStartPayload.symm (h : sameStartPayload s s') : sameStartPayload s' s := by
  obtain ⟨h₁, h₂, h₃, h₄, h₅, h₆, h₇⟩ := h
  exact ⟨h₁.symm, h₂.symm, h₃.symm, h₄.symm, h₅.symm, h₆.symm, h₇.symm⟩

theorem World.Grows.refl (w : World U) : w.Grows w :=
  ⟨.refl _, fun s hs => ⟨s, hs, .refl s⟩, fun _ hx => hx⟩

theorem World.Grows.trans {w₁ w₂ w₃ : World U} (h : w₁.Grows w₂) (h' : w₂.Grows w₃) :
    w₁.Grows w₃ where
  db := h.db.trans h'.db
  sagas s hs := by
    obtain ⟨s₂, hs₂, hp⟩ := h.sagas s hs
    obtain ⟨s₃, hs₃, hp'⟩ := h'.sagas s₂ hs₂
    exact ⟨s₃, hs₃, hp'.trans hp⟩
  answers x hx := h'.answers x (h.answers x hx)

/-- The outbox rows a call commits. -/
def SagaOp.events : SagaOp → List OutboxRecord
  | .updateWithOutbox _ events | .updateWithOutboxAndAudit _ events _ => events
  | .enqueue record => [record]
  | _ => []

variable {c : Choice U} {w w' : World U}

/-- The world a write of a row leaves. -/
structure World.Wrote (w : World U) (s : Saga) (events : List OutboxRecord) (s' : Saga)
    (w' : World U) : Prop where
  mem : s' ∈ w'.sagas
  written : Written s s'
  rows : ∀ r ∈ w'.sagas, r ∈ w.sagas ∨
    ∃ row ∈ w.sagas, ∃ t, row.paymentID = s.paymentID ∧ r = row.overwrite s t
  kept : ∀ r ∈ w.sagas, ∃ r' ∈ w'.sagas, sameStartPayload r' r
  keys : w'.sagas.map (·.paymentID) = w.sagas.map (·.paymentID)
  db : w'.db = { w.db with outbox := w.db.outbox ++ events }
  answers : w'.answers = w.answers

variable {events : List OutboxRecord}

omit [UuidLib U] in
theorem World.write_wrote {now : Time} {audit : Option FraudAuditRecord}
    (h : w.write now s events audit = .ok (s', w')) :
    w.Wrote s events s' w' := by
  obtain ⟨row, hrow, rfl, rfl⟩ := World.write_ok h
  obtain ⟨hmem, hpid⟩ := World.saga?_some hrow
  refine ⟨?_, ⟨row, now, hpid, rfl⟩, fun r hr => ?_, fun r hr => ?_, ?_, rfl, rfl⟩
  · exact List.mem_map.mpr ⟨row, hmem, if_pos hpid⟩
  · obtain ⟨o, ho, rfl⟩ := List.mem_map.mp hr
    by_cases hp : o.paymentID = s.paymentID
    · rw [if_pos hp]
      exact .inr ⟨o, ho, now, hp, rfl⟩
    · rw [if_neg hp]
      exact .inl ho
  · refine ⟨_, List.mem_map_of_mem hr, ?_⟩
    by_cases hp : r.paymentID = s.paymentID
    · rw [if_pos hp]
      exact sameStartPayload.refl r
    · rw [if_neg hp]
      exact sameStartPayload.refl r
  · refine List.map_map_key fun r => ?_
    split <;> rfl

omit [UuidLib U] in
/-- The rows after a write, looked up by payment. -/
theorem World.saga?_write {now : Time} {audit : Option FraudAuditRecord}
    (h : w.write now s events audit = .ok (s', w')) (paymentID : String) :
    w'.saga? paymentID = (w.saga? paymentID).map fun r =>
      if r.paymentID = s.paymentID then r.overwrite s now else r := by
  obtain ⟨row, -, -, rfl⟩ := World.write_ok h
  unfold World.saga? World.afterWrite
  rw [List.find?_map]
  congr 2
  funext r
  by_cases hr : r.paymentID = s.paymentID
  · simp [hr, Saga.overwrite]
  · simp [hr]

variable {row : Saga}

omit [UuidLib U] in
/-- The row of the payment after a write to it. -/
theorem World.saga?_afterWrite (h : w.saga? s.paymentID = some row) (now : Time)
    (events : List OutboxRecord) (audit : Option FraudAuditRecord) :
    (w.afterWrite now s events audit).saga? s.paymentID = some (row.overwrite s now) := by
  rw [World.saga?_write (World.write_eq h now events audit), h, Option.map_some,
    if_pos (World.saga?_some h).2]

omit [UuidLib U] in
/-- Every row of the payment is what was written. -/
theorem World.Wrote.mem_written (h : w.Wrote s events s' w') {r : Saga} (hr : r ∈ w'.sagas) :
    r ∈ w.sagas ∨ Written s r := by
  rcases h.rows r hr with hr | ⟨row, -, t, hp, rfl⟩
  · exact .inl hr
  · exact .inr ⟨row, t, hp, rfl⟩

theorem World.Wrote.grows (h : w.Wrote s events s' w') (hk : w.Keyed) : w'.Keyed ∧ w.Grows w' := by
  refine ⟨⟨?_, ?_⟩, ?_, h.kept, fun x hx => ?_⟩
  · rw [h.db]
    exact { hk.db with }
  · rw [h.keys]
    exact hk.sagas
  · rw [h.db]
    exact .of_eq rfl rfl
  · rwa [h.answers]

omit [UuidLib U] in
/-- What a write of a row teaches. -/
theorem learn_row {means : Fact → World U → Prop} {s' : Saga} (hw : w.Wrote s events s' w') :
    ∀ f ∈ learn .row (.ok s'), (∃ r ∈ w'.sagas, f = .row r) ∨ means f w' :=
  fun _ hf => .inl ⟨s', hw.mem, (Option.some.inj hf).symm⟩

/-- Growth of the tables alone. -/
theorem World.Grows.of_db {db : Database U} (h : w.db.Grows db) : w.Grows { w with db := db } :=
  { World.Grows.refl w with db := h }

variable {o : SagaOp} {a : o.Ret}

/-- What a call that takes effect does to the tables of the services: it adds its outbox rows,
    or is one transaction of the wallet or of the ledger. -/
inductive SagaOp.Commits (env : TxEnv U) (db : Database U) : SagaOp → Database U → Prop
  | outbox {o : SagaOp} {db' : Database U}
      (h : db' = { db with outbox := db.outbox ++ o.events }) : Commits env db o db'
  | debit {req : WalletDebitRequest} {cmd : SagaDebitCommand U} {op : SagaWalletOperation U}
      {db' : Database U} (h : db.debitForSaga env cmd = .ok (op, db')) :
    Commits env db (.debitForSaga req) db'
  | compensate {req : WalletCompensateRequest} {cmd : SagaCompensationCommand U}
      {op : SagaWalletOperation U} {db' : Database U}
      (h : db.compensateDebit env cmd = .ok (op, db')) : Commits env db (.compensateDebit req) db'
  | reserve {req : LedgerReserveRequest} {cmd : LedgerReserveCommand U} {r : LedgerReservation U}
      {db' : Database U} (h : db.reserveTransfer env cmd = .ok (r, db')) :
    Commits env db (.reserveTransfer req) db'
  | confirm {req : LedgerConfirmRequest} {cmd : LedgerConfirmCommand U} {r : LedgerConfirmation U}
      {db' : Database U} (h : db.confirmTransfer env cmd = .ok (r, db')) :
    Commits env db (.confirmTransfer req) db'
  | cancel {req : LedgerCancelRequest} {cmd : LedgerCancelCommand U} {r : LedgerReservation U}
      {db' : Database U} (h : db.cancelReservation env cmd = .ok (r, db')) :
    Commits env db (.cancelReservation req) db'

theorem run_commits (h : o.run c w = (.ok a, w')) : o.Commits c.env w.db w'.db := by
  cases o with
  | now | getByPaymentID _ | listNonTerminal | recordFraudAudit _ | getStatus _ | enqueue _ =>
    obtain ⟨-, rfl⟩ := Prod.mk.inj h
    exact .outbox (by simp [SagaOp.events, World.recordFraudAudit, World.enqueue])
  | create s =>
    rcases World.create_ok (commit_eq_ok.mp h) with ⟨-, -, rfl⟩ | ⟨-, -, rfl⟩ <;>
      exact .outbox (by simp [SagaOp.events])
  | update _ | updateWithOutbox _ _ | updateWithAudit _ _ | updateWithOutboxAndAudit _ _ _ =>
    exact .outbox (World.write_wrote (commit_eq_ok.mp h)).db
  | debitForSaga _ =>
    obtain ⟨db, hdb, rfl⟩ := rpc_eq_ok.mp h
    obtain ⟨_, _, _, _, -, -, -, -, htx⟩ := WalletGRPCClient.debitForSaga_ok hdb
    exact .debit htx
  | compensateDebit _ =>
    obtain ⟨db, hdb, rfl⟩ := rpc_eq_ok.mp h
    obtain ⟨_, _, -, -, -, htx⟩ := WalletGRPCClient.compensateDebit_ok hdb
    exact .compensate htx
  | reserveTransfer _ =>
    obtain ⟨db, hdb, rfl⟩ := rpc_eq_ok.mp h
    obtain ⟨_, _, _, _, -, -, -, -, htx⟩ := LedgerGRPCClient.reserveTransfer_ok hdb
    exact .reserve htx
  | confirmTransfer _ =>
    obtain ⟨db, hdb, rfl⟩ := rpc_eq_ok.mp h
    obtain ⟨_, _, -, -, -, -, htx⟩ := LedgerGRPCClient.confirmTransfer_ok hdb
    exact .confirm htx
  | cancelReservation _ =>
    obtain ⟨db, hdb, rfl⟩ := rpc_eq_ok.mp h
    obtain ⟨_, _, -, -, htx⟩ := LedgerGRPCClient.cancelReservation_ok hdb
    exact .cancel htx

theorem SagaOp.Commits.grows {env : TxEnv U} {db db' : Database U} (h : o.Commits env db db')
    (hk : db.Keyed) : db'.Keyed ∧ db.Grows db' := by
  cases h with
  | outbox h =>
    rw [h]
    exact ⟨{ hk with }, .of_eq rfl rfl⟩
  | debit h => exact Database.debitForSaga_grows hk h
  | compensate h => exact Database.compensateDebit_grows hk h
  | reserve h => exact Database.reserveTransfer_grows hk h
  | confirm h => exact Database.confirmTransfer_grows hk h
  | cancel h => exact Database.cancelReservation_grows hk h

/-- Every call that takes effect lets the world grow and keeps the keys of the tables. -/
theorem run_grows (hk : w.Keyed) (h : o.run c w = (.ok a, w')) :
    w'.Keyed ∧ w.Grows w' := by
  cases o with
  | now | getByPaymentID paymentID | listNonTerminal =>
    obtain ⟨-, rfl⟩ := Prod.mk.inj h
    exact ⟨hk, .refl _⟩
  | create s =>
    rcases World.create_ok (commit_eq_ok.mp h) with ⟨-, -, rfl⟩ | ⟨rfl, hnew, rfl⟩
    · exact ⟨hk, .refl _⟩
    · exact ⟨⟨hk.db, List.nodup_map_append_singleton hk.sagas hnew⟩, .refl _,
        fun s hs => ⟨s, List.mem_append_left _ hs, .refl s⟩, fun _ hx => hx⟩
  | update s | updateWithOutbox s events | updateWithAudit s audit
  | updateWithOutboxAndAudit s events audit =>
    exact (World.write_wrote (commit_eq_ok.mp h)).grows hk
  | recordFraudAudit audit =>
    cases h
    exact ⟨{ hk with }, .refl _, fun s hs => ⟨s, hs, .refl s⟩, fun _ hx => hx⟩
  | getStatus req =>
    obtain ⟨-, rfl⟩ := Prod.mk.inj h
    exact ⟨{ hk with }, .refl _, fun s hs => ⟨s, hs, .refl s⟩,
      fun _ hx => List.mem_append_left _ hx⟩
  | enqueue record =>
    cases h
    exact ⟨⟨{ hk.db with }, hk.sagas⟩, .of_db (.of_eq rfl rfl)⟩
  | debitForSaga _ | compensateDebit _ | reserveTransfer _ | confirmTransfer _
  | cancelReservation _ =>
    obtain ⟨hk', hg⟩ := (run_commits h).grows hk.db
    obtain ⟨db, -, rfl⟩ := rpc_eq_ok.mp h
    exact ⟨⟨hk', hk.sagas⟩, .of_db hg⟩

theorem exec_keyed (hk : w.Keyed) : (o.exec c w).2.Keyed :=
  exec_world hk fun _ _ h => (run_grows hk h).1

/-- The call writes or creates no row. -/
def SagaOp.Elsewhere : SagaOp → Prop
  | .create _ | .update _ | .updateWithOutbox _ _ => False
  | .updateWithAudit _ _ | .updateWithOutboxAndAudit _ _ _ => False
  | _ => True

theorem run_sagas (h : o.run c w = (.ok a, w')) (ho : o.Elsewhere) : w'.sagas = w.sagas := by
  cases o with
  | create _ | update _ | updateWithOutbox _ _ | updateWithAudit _ _
  | updateWithOutboxAndAudit _ _ _ => exact ho.elim
  | now | getByPaymentID _ | listNonTerminal | recordFraudAudit _ | getStatus _ | enqueue _ =>
    obtain ⟨-, rfl⟩ := Prod.mk.inj h
    rfl
  | debitForSaga _ | compensateDebit _ | reserveTransfer _ | confirmTransfer _
  | cancelReservation _ =>
    obtain ⟨db, -, rfl⟩ := rpc_eq_ok.mp h
    rfl

variable {paymentID : String}

/-- A call that writes no row leaves the stored ones as they are. -/
theorem run_saga? (ho : o.row? = none) (h : o.run c w = (.ok a, w'))
    (hs : w.saga? paymentID = some s) : w'.saga? paymentID = some s := by
  cases o with
  | update _ | updateWithOutbox _ _ | updateWithAudit _ _ | updateWithOutboxAndAudit _ _ _ =>
    cases ho
  | create s =>
    rcases World.create_ok (commit_eq_ok.mp h) with ⟨-, -, rfl⟩ | ⟨-, -, rfl⟩
    · exact hs
    · unfold World.saga? at hs ⊢
      rw [List.find?_append, hs]
      rfl
  | _ =>
    rw [World.saga?, run_sagas h trivial]
    exact hs

/-- A write of a stored row that takes effect. -/
theorem run_updateWithOutboxAndAudit {audit : FraudAuditRecord}
    (hrow : w.saga? s.paymentID = some row) :
    ((SagaOp.updateWithOutboxAndAudit s events audit).run c w).2 =
      w.afterWrite c.env.now s events (some audit) := by
  simp only [SagaOp.run, World.updateWithOutboxAndAudit, World.write_eq hrow, SagaOp.run.commit]

theorem run_updateWithAudit {audit : FraudAuditRecord} (hrow : w.saga? s.paymentID = some row) :
    ((SagaOp.updateWithAudit s audit).run c w).2 =
      w.afterWrite c.env.now s [] (some audit) := by
  simp only [SagaOp.run, World.updateWithAudit, World.write_eq hrow, SagaOp.run.commit]

/-- A call leaves the row of a payment alone, or overwrites it with the row it writes. -/
theorem run_row (h : o.run c w = (.ok a, w')) (hrow : w.saga? paymentID = some row) :
    w'.saga? paymentID = some row ∨ ∃ s ∈ o.row?, s.paymentID = paymentID ∧
      w'.saga? paymentID = some (row.overwrite s c.env.now) := by
  cases ho : o.row? with
  | none => exact .inl (run_saga? ho h hrow)
  | some s =>
    have hwrite : w'.saga? paymentID = (w.saga? paymentID).map fun r =>
        if r.paymentID = s.paymentID then r.overwrite s c.env.now else r := by
      cases o with
      | update r | updateWithOutbox r _ | updateWithAudit r _ | updateWithOutboxAndAudit r _ _ =>
        cases ho
        exact World.saga?_write (commit_eq_ok.mp h) paymentID
      | _ => cases ho
    rw [hwrite, hrow, Option.map_some]
    by_cases hp : row.paymentID = s.paymentID
    · rw [if_pos hp]
      exact .inr ⟨s, rfl, hp.symm.trans (World.saga?_some hrow).2, rfl⟩
    · rw [if_neg hp]
      exact .inl rfl

/-- The payload a stored row was started with does not change, and only a create adds rows. -/
theorem run_rows (ho : ∀ s, o ≠ .create s) (h : o.run c w = (.ok a, w')) (hs : s ∈ w'.sagas) :
    ∃ r ∈ w.sagas, sameStartPayload r s := by
  cases o with
  | create s => exact absurd rfl (ho s)
  | update _ | updateWithOutbox _ _ | updateWithAudit _ _ | updateWithOutboxAndAudit _ _ _ =>
    rcases (World.write_wrote (commit_eq_ok.mp h)).rows s hs with hs | ⟨row, hrow, t, -, rfl⟩
    · exact ⟨s, hs, .refl s⟩
    · exact ⟨row, hrow, sameStartPayload.refl row⟩
  | _ =>
    rw [run_sagas h trivial] at hs
    exact ⟨s, hs, .refl s⟩

/-- A row that was not there before a call was created by it. -/
theorem run_created (h : o.run c w = (.ok a, w')) (hnone : w.saga? paymentID = none)
    (hrow : w'.saga? paymentID = some row) :
    ∃ s, o = .create s ∧ row.state = s.state := by
  have hmem := World.saga?_some hrow
  have hnew : ∀ r ∈ w.sagas, r.paymentID ≠ paymentID := fun r hr he => by
    have hnone' := List.find?_eq_none.mp hnone r hr
    exact hnone' (by simpa using he)
  by_cases ho : ∃ s, o = .create s
  · obtain ⟨s, rfl⟩ := ho
    refine ⟨s, rfl, ?_⟩
    rcases World.create_ok (commit_eq_ok.mp h) with ⟨-, -, rfl⟩ | ⟨rfl, -, rfl⟩
    · exact absurd hmem.2 (hnew row hmem.1)
    · rcases List.mem_append.mp hmem.1 with hr | hr
      · exact absurd hmem.2 (hnew row hr)
      · rw [List.mem_singleton.mp hr]
        rfl
  · obtain ⟨r, hr, hsame⟩ := run_rows (fun s hs => ho ⟨s, hs⟩) h hmem.1
    exact absurd (hsame.1.trans hmem.2) (hnew r hr)

/-- The rows after a call other than a create: those before it, and the one it writes. -/
theorem run_mem (ho : ∀ s, o ≠ .create s) (h : o.run c w = (.ok a, w')) (hs : s' ∈ w'.sagas) :
    s' ∈ w.sagas ∨ ∃ s ∈ o.row?, Written s s' := by
  cases o with
  | create s => exact absurd rfl (ho s)
  | update s | updateWithOutbox s _ | updateWithAudit s _ | updateWithOutboxAndAudit s _ _ =>
    rcases (World.write_wrote (commit_eq_ok.mp h)).mem_written hs with hs | hs
    · exact .inl hs
    · exact .inr ⟨s, rfl, hs⟩
  | _ =>
    rw [run_sagas h trivial] at hs
    exact .inl hs

/-! ## Facts that survive growth -/

/-- What a move teaches is about a stored row, or about the copy it was made from. -/
theorem FactMove.lesson_saga {f : Option Fact} {lesson : Except SagaErr o.Ret → Option Fact}
    (hm : FactMove f o lesson) (h : o.run c w = (.ok a, w')) {g : Fact} (hg : g ∈ lesson (.ok a)) :
    g.saga ∈ w'.sagas ∨ ∃ g' ∈ f, g.saga = g'.saga := by
  cases hm with
  | now | audit => exact .inr ⟨g, hg, rfl⟩
  | verify hs =>
    cases hg
    refine .inr ⟨_, rfl, ?_⟩
    split <;> rfl
  | debit hs | reserve hs | confirm hs _ | announce hs _ _ _ | cancel hs _ _ | compensate hs _ _ =>
    cases hg
    exact .inr ⟨_, rfl, rfl⟩
  | announceFailed _ _ _ _ => cases hg
  | _ =>
    cases hg
    exact .inl (World.write_wrote (commit_eq_ok.mp h)).mem

/-- What the error of a call teaches: nothing, what was known before, or that the user of a
    STARTED copy is not verified. -/
theorem FactMove.lesson_error {f : Option Fact} {lesson : Except SagaErr o.Ret → Option Fact}
    (h : FactMove f o lesson) (e : SagaErr) :
    lesson (.error e) = none ∨ lesson (.error e) = f ∨
      ∃ s, s.state = .started ∧ f = some (.row s) ∧ lesson (.error e) = some (.unverified s) := by
  cases h with
  | now | audit => exact .inr (.inl rfl)
  | @verify s hs =>
    cases e with
    | verificationNotFound => exact .inr (.inr ⟨s, hs, rfl, rfl⟩)
    | _ => exact .inl rfl
  | _ => exact .inl rfl

/-- An invariant `inv` with a meaning of the facts that no growth takes back: stored rows are
    facts, and every move that takes effect keeps `inv` and makes true what it teaches. -/
structure Interpretation (admits : StartRequest → Prop) (inv : World U → Prop)
    (means : Fact → World U → Prop) : Prop where
  keyed : ∀ {w}, inv w → w.Keyed
  stable : ∀ {f w w'}, means f w → w.Grows w' → means f w'
  stored : ∀ {s w}, inv w → s ∈ w.sagas → means (.row s) w
  unverified : ∀ {s w}, means (.row s) w → s.state = .started → means (.unverified s) w
  create : ∀ {req t id now w}, admits req → inv w →
    (∀ s ∈ w.sagas, s.paymentID ≠ req.paymentID) →
    inv { w with sagas := w.sagas ++ [World.newRow id now (Orchestrator.startedSaga req t)] }
  move : ∀ {f o lesson c a w w'}, FactMove f o lesson → inv w → (∀ g ∈ f, means g w) →
    o.run c w = (.ok a, w') →
    inv w' ∧ ∀ g ∈ lesson (.ok a), (∃ s ∈ w'.sagas, g = .row s) ∨ means g w'

/-- As `Interpretation`, with a relation `kept` between the worlds of a run that the meaning of
    the facts may count on and that every move has to keep. -/
structure Keeping (admits : StartRequest → Prop) (inv : World U → Prop)
    (kept : World U → World U → Prop) (means : Fact → World U → Prop) : Prop where
  keyed : ∀ {w}, inv w → w.Keyed
  refl : ∀ w, kept w w
  trans : ∀ {u v w}, kept u v → kept v w → kept u w
  stable : ∀ {f w w'}, means f w → w.Grows w' → kept w w' → means f w'
  stored : ∀ {s w}, inv w → s ∈ w.sagas → means (.row s) w
  unverified : ∀ {s w}, means (.row s) w → s.state = .started → means (.unverified s) w
  create : ∀ {req t id now w}, admits req → inv w →
    (∀ s ∈ w.sagas, s.paymentID ≠ req.paymentID) →
    let w' := { w with sagas := w.sagas ++
      [World.newRow id now (Orchestrator.startedSaga req t)] }
    inv w' ∧ kept w w'
  move : ∀ {f o lesson c a w w'}, FactMove f o lesson → inv w → (∀ g ∈ f, means g w) →
    o.run c w = (.ok a, w') →
    inv w' ∧ kept w w' ∧ ∀ g ∈ lesson (.ok a), (∃ s ∈ w'.sagas, g = .row s) ∨ means g w'

namespace Keeping

variable {admits : StartRequest → Prop} {inv : World U → Prop}
  {kept : World U → World U → Prop} {means : Fact → World U → Prop}

/-- The contract of every handler: keep the invariant, and count on growth and on what is
    kept. -/
def contract (h : Keeping admits inv kept means) : Contract (sagaMachine U) where
  allow _ _ _ _ := True
  inv := inv
  rely w w' := w.Grows w' ∧ kept w w'
  guar w w' := w.Grows w' ∧ kept w w'
  rely_refl w := ⟨.refl w, h.refl w⟩
  rely_trans hr hr' := ⟨hr.1.trans hr'.1, h.trans hr.2 hr'.2⟩

/-- A handler knows a fact, and that the copies it has listed were stored rows. -/
def knows (means : Fact → World U → Prop) (k : Knowledge) (_ : Seen) (w : World U) : Prop :=
  (∀ f ∈ k.fact, means f w) ∧ ∀ s ∈ k.listed, means (.row s) w

variable {g : Seen} {k : Knowledge}

theorem knows_stable (h : Keeping admits inv kept means) (g' : Seen) (hk : knows means k g w)
    (hw : w.Grows w') (hkept : kept w w') : knows means k g' w' :=
  ⟨fun f hf => h.stable (hk.1 f hf) hw hkept, fun s hs => h.stable (hk.2 s hs) hw hkept⟩

omit [UuidLib U] in
theorem knows.mono {l : Knowledge} (hle : k.le l) (hk : knows means k g w) :
    knows means l g w := by
  induction hle with
  | refl => exact hk
  | trans _ _ ih ih' => exact ih' (ih hk)
  | forget f l => exact ⟨fun f hf => absurd hf (Option.not_mem_none f), hk.2⟩
  | drop f l => exact ⟨hk.1, fun _ hs => by cases hs⟩
  | take s l =>
    obtain ⟨hs, hl⟩ := List.forall_mem_cons.mp hk.2
    refine ⟨fun f hf => ?_, hl⟩
    cases hf
    exact hs

omit [UuidLib U] in
/-- A handler that starts knows nothing. -/
theorem knows_nothing : knows means ⟨none, []⟩ g w :=
  ⟨fun f hf => absurd hf (Option.not_mem_none f), fun _ hs => by cases hs⟩

omit [UuidLib U] in
/-- A handler that has got one row knows that row. -/
theorem knows_row (hs : means (.row s) w) : knows means ⟨some (.row s), []⟩ g w := by
  refine ⟨fun f hf => ?_, fun _ hs => by cases hs⟩
  cases hf
  exact hs

variable {learn : Except SagaErr o.Ret → Knowledge}

/-- What a move that takes effect does, whether or not its answer arrives. -/
theorem effect (h : Keeping admits inv kept means) (g' : Seen) (hm : Move admits k o learn)
    (hi : inv w) (hk : knows means k g w) (hrun : o.run c w = (.ok a, w')) :
    inv w' ∧ kept w w' ∧ knows means (learn (.ok a)) g' w' := by
  have hgrow := (run_grows (h.keyed hi) hrun).2
  cases hm with
  | fact hm listed =>
    obtain ⟨hi', hkept, hlesson⟩ := h.move hm hi hk.1 hrun
    refine ⟨hi', hkept, fun f hf => ?_, (h.knows_stable g hk hgrow hkept).2⟩
    rcases hlesson f hf with ⟨s, hs, rfl⟩ | hf
    · exact h.stored hi' hs
    · exact hf
  | get paymentID =>
    obtain ⟨hs, rfl⟩ := Prod.mk.inj hrun
    have hs := World.saga?_some (World.getByPaymentID_eq_ok.mp hs)
    exact ⟨hi, h.refl w, knows_row (h.stored hi hs.1)⟩
  | create req t hid =>
    have hrow : inv w' ∧ kept w w' ∧ a ∈ w'.sagas := by
      rcases World.create_ok (commit_eq_ok.mp hrun) with ⟨hs, -, rfl⟩ | ⟨rfl, hnew, rfl⟩
      · exact ⟨hi, h.refl _, hs⟩
      · obtain ⟨hi', hkept⟩ := h.create hid hi hnew
        exact ⟨hi', hkept, List.mem_concat_self⟩
    exact ⟨hrow.1, hrow.2.1, knows_row (h.stored hrow.1 hrow.2.2)⟩
  | list =>
    cases hrun
    refine ⟨hi, h.refl w, fun f hf => absurd hf (Option.not_mem_none f), fun s hs => ?_⟩
    exact h.stored hi (World.mem_listNonTerminal.mp hs).1

/-- What is known after a call that reports an error. -/
theorem knows_error (h : Keeping admits inv kept means) (hm : Move admits k o learn) (e : SagaErr)
    (hk : knows means k g w) : knows means (learn (.error e)) g w := by
  cases hm with
  | @fact _ _ lesson hm listed =>
    refine ⟨fun f (hf : f ∈ lesson (.error e)) => ?_, hk.2⟩
    rcases hm.lesson_error e with he | he | ⟨s, hs, rfl, he⟩
    · rw [he] at hf
      cases hf
    · rw [he] at hf
      exact hk.1 f hf
    · rw [he] at hf
      cases hf
      exact h.unverified (hk.1 _ rfl) hs
  | get _ | create _ _ _ | list => exact knows_nothing

/-- What a move does, whatever the fault. -/
theorem outcome (h : Keeping admits inv kept means) {g' : Seen} (hm : Move admits k o learn)
    (hi : inv w) (hk : knows means k g w) {r : Except SagaErr o.Ret × World U}
    (hr : Outcome c o w r) :
    inv r.2 ∧ (w.Grows r.2 ∧ kept w r.2) ∧ knows means (learn r.1) g' r.2 := by
  rcases hr with ⟨e, rfl⟩ | ⟨a, w', hrun, hr⟩
  · exact ⟨hi, ⟨.refl w, h.refl w⟩, knows_error h hm e hk⟩
  · have hgrow := (run_grows (h.keyed hi) hrun).2
    obtain ⟨hi', hkept, hk'⟩ := effect h g' hm hi hk hrun
    rcases hr with rfl | ⟨e, rfl⟩
    · exact ⟨hi', ⟨hgrow, hkept⟩, hk'⟩
    · exact ⟨hi', ⟨hgrow, hkept⟩, knows_error h hm e (h.knows_stable g' hk hgrow hkept)⟩

theorem sound (h : Keeping admits inv kept means) :
    (sagaDiscipline admits).Sound h.contract (knows means) where
  mono := knows.mono
  stable hk hw _ := h.knows_stable _ hk hw.1 hw.2
  answers := exec_answer
  step hm hi hk _ := outcome h hm hi hk (exec_outcome _ _ _)

/-- Every handler keeps the invariant, whatever the others do. -/
theorem handler_safe (h : Keeping admits inv kept means) (q : SagaRequest) (w : World U)
    (hq : ∀ req, q = .start req → admits req) (_ : inv w) : h.contract.Safe q.handler [] w :=
  ((handler_follows q hq).holds h.sound knows_nothing).safe

/-- However the handlers interleave and wherever they stop, the invariant holds and what was
    to be kept is kept from any point to any later one. -/
theorem interleave_keeps (h : Keeping admits inv kept means) (hi : inv w)
    {acts : List (Act SagaRequest (Choice U))} (acts' : List (Act SagaRequest (Choice U)))
    (hids : ∀ q, .start q ∈ acts ++ acts' → ∀ req, q = .start req → admits req) :
    inv (interleave w acts).world ∧
      kept (interleave w acts).world (interleave w (acts ++ acts')).world := by
  have hobeys : (Pool.idle w).Obeys h.contract SagaRequest.handler []
      (fun q => ∀ req, q = .start req → admits req) (acts ++ acts') :=
    .of_starts (fun _ _ _ _ => trivial) hids
  have hsound : ((Pool.idle w).run (sagaMachine U) SagaRequest.handler [] acts).Sound h.contract :=
    Pool.Sound.run (fun _ hg => hg) h.handler_safe ⟨hi, fun _ ht => by cases ht⟩
      hobeys.split.1
  have hguar := Pool.run_guar h.contract.rely_refl h.contract.rely_trans (fun _ hg => hg)
    h.handler_safe hsound hobeys.split.2
  rw [← Pool.run_append] at hguar
  exact ⟨hsound.inv, hguar.2⟩

end Keeping

namespace Interpretation

variable {admits : StartRequest → Prop} {inv : World U → Prop} {means : Fact → World U → Prop}

/-- An interpretation counts on growth alone. -/
theorem keeping (h : Interpretation admits inv means) :
    Keeping admits inv (fun _ _ => True) means where
  keyed := h.keyed
  refl _ := trivial
  trans _ _ := trivial
  stable hf hw _ := h.stable hf hw
  stored := h.stored
  unverified := h.unverified
  create hreq hi hnew := ⟨h.create hreq hi hnew, trivial⟩
  move hm hi hf hrun := by
    obtain ⟨hi', hlesson⟩ := h.move hm hi hf hrun
    exact ⟨hi', trivial, hlesson⟩

/-- However the handlers interleave and wherever they stop, the invariant holds. -/
theorem interleave_inv (h : Interpretation admits inv means) (hi : inv w)
    {acts : List (Act SagaRequest (Choice U))}
    (hids : ∀ q, .start q ∈ acts → ∀ req, q = .start req → admits req) :
    inv (interleave w acts).world :=
  (h.keeping.interleave_keeps hi [] (by simpa using hids)).1

/-- The same for handlers that run one at a time. -/
theorem oneAtATime_inv (h : Interpretation admits inv means) (hi : inv w)
    {reqs : List (SagaRequest × List (Choice U))}
    (hids : ∀ r ∈ reqs, ∀ req, r.1 = .start req → admits req) : inv (oneAtATime w reqs) :=
  serial_inv (K := h.keeping.contract) h.keeping.handler_safe hi (.of_forall hids)
    fun _ _ _ _ _ _ _ => trivial

end Interpretation

end EnjoyThings
