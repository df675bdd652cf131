import EnjoyThings.Spec.WalletLocks

/-!
# The wallet and ledger transactions are serial

Every function of `wallets.go` commits what its atomic version in `Services.Wallets` makes of
the tables at the moment of the commit, however its statements interleave with those of other
calls. What a transaction has seen and locked is a `View`; a program is checked statement by
statement, and at its commit the view has to determine the outcome of the atomic function.

## Key results

- `Session.Inside.lockWallet`, `attempt`, `commit`, ...: rules for the statements
- `Repo.debitForSaga_follows`, ...: the functions of the repository
- `walletRun_serial`: every run is serial, and every answer holds
-/

namespace EnjoyThings

open Effect
open Database (confirmEntry creditEntry debitEntry indexKeys_subset insertLedgerEntry_iff
  insertTransfer_iff newReservation newTransfer reservation?_some sameReservationPayload
  transferEntry updateWalletBalance_iff wallet?_some)
open Protocol (ends_of follows_done follows_fail follows_of_fact follows_weaken nothing)

variable {U α β : Type} [UuidLib U]

/-! ## What a transaction has seen -/

/-- Rows a transaction has seen and index keys it has found free. -/
structure View (U : Type) where
  wallets : List (Wallet U) := []
  operations : List (SagaWalletOperation U) := []
  reservations : List (LedgerReservation U) := []
  processed : List U := []
  free : List (LockKey U) := []

/-- The tables are as the view says. -/
structure View.Of (v : View U) (db : Database U) : Prop where
  wallet : ∀ w ∈ v.wallets, db.wallet? w.id = some w
  operation : ∀ op ∈ v.operations, db.operation? op.paymentID op.operation = some op
  reservation : ∀ r ∈ v.reservations, db.reservation? r.paymentID = some r
  processed : ∀ id ∈ v.processed, db.transferProcessed id = true
  free : ∀ key ∈ v.free, key ∉ db.indexKeys

/-- The locks that keep a view up to date. Operations and ledger entries never change. -/
structure View.LockedBy (v : View U) (locks : List (LockKey U)) : Prop where
  wallet : ∀ w ∈ v.wallets, .wallet w.id ∈ locks
  reservation : ∀ r ∈ v.reservations, .reservation r.paymentID ∈ locks
  free : ∀ key ∈ v.free, key ∈ locks

variable {id paymentID : U} {op : SagaWalletOperation U} {kind : OperationKind}
  {r : LedgerReservation U}

namespace View

variable {v : View U} {locks : List (LockKey U)}

omit [UuidLib U] in
theorem LockedBy.mono (h : v.LockedBy locks) {locks' : List (LockKey U)} (hsub : locks ⊆ locks') :
    v.LockedBy locks' :=
  ⟨fun w hw => hsub (h.wallet w hw), fun r hr => hsub (h.reservation r hr),
    fun key hkey => hsub (h.free key hkey)⟩

omit [UuidLib U] in
theorem LockedBy.append (h : v.LockedBy locks) (keys : List (LockKey U)) :
    v.LockedBy (locks ++ keys) :=
  h.mono (List.subset_append_left locks keys)

theorem Of.nil (db : Database U) : ({} : View U).Of db :=
  ⟨by simp, by simp, by simp, by simp, by simp⟩

theorem Of.wallet_cons {db : Database U} (h : v.Of db) {w : Wallet U}
    (hw : db.wallet? id = some w) : ({ v with wallets := w :: v.wallets } : View U).Of db := by
  have hid := (wallet?_some hw).2
  refine { h with wallet := List.forall_mem_cons.mpr ⟨?_, h.wallet⟩ }
  rwa [hid]

theorem Of.operation_cons {db : Database U} (h : v.Of db)
    (hop : db.operation? paymentID kind = some op) :
    ({ v with operations := op :: v.operations } : View U).Of db := by
  obtain ⟨-, hpayment, hkind⟩ := Database.operation?_some hop
  refine { h with operation := List.forall_mem_cons.mpr ⟨?_, h.operation⟩ }
  rwa [hpayment, hkind]

theorem Of.reservation_cons {db : Database U} (h : v.Of db)
    (hr : db.reservation? paymentID = some r) :
    ({ v with reservations := r :: v.reservations } : View U).Of db := by
  have hpayment := (reservation?_some hr).2
  refine { h with reservation := List.forall_mem_cons.mpr ⟨?_, h.reservation⟩ }
  rwa [hpayment]

variable {keys : List (LockKey U)}

theorem Of.free_append {db : Database U} (h : v.Of db) (hkeys : ∀ key ∈ keys, key ∉ db.indexKeys) :
    ({ v with free := v.free ++ keys } : View U).Of db :=
  { h with free := List.forall_mem_append.mpr ⟨h.free, hkeys⟩ }

omit [UuidLib U] in
theorem LockedBy.free_append (h : v.LockedBy locks) {taken : List (LockKey U)}
    (hsub : keys ⊆ taken) :
    ({ v with free := v.free ++ keys } : View U).LockedBy (locks ++ taken) := by
  have happend := h.append taken
  refine { happend with free := List.forall_mem_append.mpr ⟨happend.free, fun key hkey => ?_⟩ }
  exact List.mem_append_right locks (hsub hkey)

end View

/-! ## Calls in the making -/

/-- A call that is being served, and what it started from. -/
structure Session (U : Type) [UuidLib U] where
  outboxTopic : String
  decoders : Decoders Payload
  req : WalletCall U → Prop
  start : Database U
  call : WalletCall U
  requested : call.Requested decoders req start

variable {entry : LedgerEntry U}

variable {call : WalletCall U} {balance : Int64}

namespace Session

variable (s : Session U)

abbrev protocol : Protocol (walletSql (U := U)) (WalletCall U) (WalletAnswer U) :=
  walletProtocol s.outboxTopic s.decoders s.req

def answer (reply : α → WalletReply U) (result : Except CallErr α) : WalletAnswer U :=
  { start := s.start, call := s.call, result := result.map reply }

/-- What is known about the tables with a view. -/
structure Sees (v : View U) (db : Database U) : Prop where
  keyed : db.Keyed
  since : s.start.Extends db
  view : v.Of db

/-- The program does what it should before its transaction begins and after it is over. -/
structure Outside (reply : α → WalletReply U) (p : WalletProg U α) : Prop where
  follows : s.protocol.discipline.Follows (s.protocol.Ends (s.answer reply)) p
    { facts := s.Sees {} }

/-- The program does what it should inside its transaction, with these writes and this view. -/
structure Inside (env : TxEnv U) (reply : α → WalletReply U) (writes : Database U → Database U)
    (v : View U) (p : WalletProg U α) : Prop where
  follows : ∀ locks, v.LockedBy locks →
    s.protocol.discipline.Follows (s.protocol.Ends (s.answer reply)) p
      { tx := some { call := s.call, env := env, writes := writes, locks := locks }
        facts := s.Sees v }

/-- What a result means for the reservation the payment had when the call started. -/
def Repeats (result : Except CallErr (WalletReply U)) : Prop :=
  ∀ cmd r currency, s.call = .reserveTransfer cmd → s.start.reservation? cmd.paymentID = some r →
    cmd.Accepted currency → result = .error .down ∨ cmd.Repeats r currency result

variable {s} {v : View U} {db : Database U} {env : TxEnv U} {reply : α → WalletReply U}
  {writes : Database U → Database U}

theorem Sees.stable {locks : List (LockKey U)} (hv : v.LockedBy locks) :
    s.protocol.Stable locks (s.Sees v) := by
  intro db db' hk hmoves h
  have hext : db.Extends db' := hmoves.evolves
  refine ⟨hk, h.since.trans hext, fun w hw => ?_, fun op hop => ?_, fun r hr => ?_,
    fun id hid => ?_, fun key hkey => ?_⟩
  · exact (hmoves.keeps _ (hv.wallet w hw)).wallet rfl (h.view.wallet w hw)
  · exact hext.operation (h.view.operation op hop)
  · exact (hmoves.keeps _ (hv.reservation r hr)).reservation rfl (h.view.reservation r hr)
  · obtain ⟨e, he, heq⟩ := List.any_eq_true.mp (h.view.processed id hid)
    exact List.any_eq_true.mpr ⟨e, hext.ledgerEntries.subset he, heq⟩
  · exact (hmoves.keeps key (hv.free key hkey)).free (h.view.free key hkey)

variable {e : CallErr}

/-- An error attests what it means for a reservation that was there. -/
theorem Sees.error (h : s.Sees v db) (he : s.Repeats (.error e)) :
    (s.answer reply (.error e)).Holds db := by
  refine ⟨h.since, fun _ hr => ?_, he⟩
  cases hr

theorem repeats_down : s.Repeats (.error .down) :=
  fun _ _ _ _ _ _ => .inl rfl

theorem repeats_of_ne (h : ∀ cmd, s.call ≠ .reserveTransfer cmd)
    (result : Except CallErr (WalletReply U)) : s.Repeats result :=
  fun cmd _ _ hcall _ _ => absurd hcall (h cmd)

/-! ## Rules for the statements -/

section Rules

variable {x : Except DomainErr α}

/-- A check of the Go code. -/
theorem follows_check {post : Except CallErr β → Known (WalletCall U) (TxEnv U) (Database U)
      (LockKey U) → Prop} {k : Known (WalletCall U) (TxEnv U) (Database U) (LockKey U)}
    {f : α → WalletProg U β} (hok : ∀ a, x = .ok a → s.protocol.discipline.Follows post (f a) k)
    (herr : ∀ e, x = .error e → post (.error (.repo (.domain e))) k) :
    s.protocol.discipline.Follows post (Repo.check x >>= f) k := by
  cases x with
  | ok a => exact hok a rfl
  | error e => exact .fail (herr e rfl)

theorem Outside.check {reply : β → WalletReply U} {f : α → WalletProg U β}
    (hok : ∀ a, x = .ok a → s.Outside reply (f a))
    (herr : ∀ e, x = .error e → s.Repeats (.error (.repo (.domain e)))) :
    s.Outside reply (Repo.check x >>= f) :=
  ⟨follows_check (fun a ha => (hok a ha).follows)
    fun e he => ends_of fun _ h => h.error (herr e he)⟩

theorem Inside.check {reply : β → WalletReply U} {f : α → WalletProg U β}
    (hok : ∀ a, x = .ok a → s.Inside env reply writes v (f a))
    (herr : ∀ e, x = .error e → s.Repeats (.error (.repo (.domain e)))) :
    s.Inside env reply writes v (Repo.check x >>= f) := by
  refine ⟨fun locks hv => ?_⟩
  exact follows_check (fun a ha => (hok a ha).follows locks hv)
    fun e he => ends_of fun _ h => h.error (herr e he)

theorem Inside.fail (he : s.Repeats (.error e)) :
    s.Inside env reply writes v (.fail e) := by
  refine ⟨fun locks hv => ?_⟩
  exact follows_fail fun _ h => h.error he

/-- The transaction of the call, which begins with its IDs unused. -/
theorem Outside.transaction {body : TxEnv U → WalletProg U α} (hcall : s.call = call)
    (hbody : ∀ env, env.debitEntryID ≠ env.creditEntryID →
      s.Inside env reply (fun db => db) { free := env.lockKeys } (body env)) :
    s.Outside reply (TxOp.transaction call body) := by
  subst hcall
  refine ⟨?_⟩
  refine Protocol.follows_transaction (Sees.stable ⟨by simp, by simp, by simp⟩)
    (fun db h => h.error repeats_down) fun env => ?_
  refine follows_of_fact (C := env.debitEntryID ≠ env.creditEntryID) ?_ fun hids => ?_
  · rintro db ⟨-, -, hfresh⟩
    exact of_decide_eq_true (Bool.and_eq_true_iff.mp hfresh).2
  · refine follows_weaken (ψ := s.Sees { free := env.lockKeys }) ?_
      ((hbody env hids).follows env.lockKeys ⟨by simp, by simp, fun _ h => h⟩)
    rintro db ⟨-, h, hfresh⟩
    refine ⟨h.keyed, h.since, { View.Of.nil db with free := fun key hkey => ?_ }⟩
    have hall := List.all_eq_true.mp (Bool.and_eq_true_iff.mp hfresh).1 key hkey
    exact of_decide_eq_true hall

variable {st : WalletStmt U} {f : st.Ret → WalletProg U α}

/-- A statement that reads, before anything is written. -/
theorem Inside.read {find : Database U → st.Ret} (hrun : ∀ db, st.statement.run db = .ok (find db))
    (hwrite : ∀ a, st.statement.write a = fun db => db) (hok : ∀ a locks, v.LockedBy locks →
      s.protocol.discipline.Follows (s.protocol.Ends (s.answer reply)) (f a)
        { tx := some { call := s.call, env := env, writes := fun db => db,
                       locks := locks ++ st.statement.takes a }
          facts := fun db => s.Sees v db ∧ find db = a }) :
    s.Inside env reply (fun db => db) v (Repo.execute st >>= f) := by
  refine ⟨fun locks hv => ?_⟩
  refine Protocol.follows_execute (ψ := fun a db => s.Sees v db ∧ find db = a)
    (Sees.stable hv) (fun a db _ h ha => ⟨h, ?_⟩) (fun a => ?_) ?_
  · exact Except.ok.inj ((hrun db).symm.trans ha)
  · have hafter := hok a locks hv
    simp only [Held.after, walletSql, hwrite a]
    exact hafter
  · rintro e db - h (rfl | he)
    · exact h.error repeats_down
    · cases (hrun db).symm.trans he

/-- `SELECT ... FOR UPDATE` of a wallet. -/
theorem Inside.lockWallet {f : Option (Wallet U) → WalletProg U α}
    (hnone : s.Inside env reply (fun db => db) v (f none)) (hsome : ∀ w, w.id = id →
      s.Inside env reply (fun db => db) { v with wallets := w :: v.wallets } (f (some w))) :
    s.Inside env reply (fun db => db) v (Repo.execute (.lockWallet id) >>= f) := by
  refine .read (fun _ => rfl) (fun _ => rfl) fun row locks hv => ?_
  cases row with
  | none => exact follows_weaken (fun db h => h.1) (hnone.follows _ (hv.append _))
  | some w =>
    refine follows_of_fact (C := w.id = id)
      (fun db h => (wallet?_some h.2).2) fun hid => ?_
    refine follows_weaken (fun db h => ⟨h.1.keyed, h.1.since, h.1.view.wallet_cons h.2⟩)
      ((hsome w hid).follows _ ?_)
    have happend := hv.append [LockKey.wallet id]
    refine { happend with wallet := List.forall_mem_cons.mpr ⟨?_, happend.wallet⟩ }
    rw [hid]
    exact List.mem_append_right _ List.mem_cons_self

/-- The same for a program that looks at the row later. -/
theorem Inside.bind_lockWallet {f : Option (Wallet U) → WalletProg U α}
    (hok : ∀ row wallets, (∀ w, row = some w → w ∈ wallets ∧ w.id = id) →
      s.Inside env reply (fun db => db) { v with wallets := wallets } (f row)) :
    s.Inside env reply (fun db => db) v (Repo.execute (.lockWallet id) >>= f) := by
  refine .lockWallet (hok none _ (by simp)) fun w hw => hok (some w) _ ?_
  rintro _ ⟨rfl⟩
  exact ⟨List.mem_cons_self, hw⟩

/-- `SELECT ... FOR UPDATE` of an operation, whose row never changes anyway. -/
theorem Inside.lockOperation {f : Option (SagaWalletOperation U) → WalletProg U α}
    (hnone : s.Inside env reply (fun db => db) v (f none))
    (hsome : ∀ op, op.paymentID = paymentID → op.operation = kind →
      s.Inside env reply (fun db => db) { v with operations := op :: v.operations } (f (some op))) :
    s.Inside env reply (fun db => db) v (Repo.execute (.lockOperation paymentID kind) >>= f) := by
  refine .read (fun _ => rfl) (fun _ => rfl) fun row locks hv => ?_
  cases row with
  | none => exact follows_weaken (fun db h => h.1) (hnone.follows _ (hv.append _))
  | some op =>
    refine follows_of_fact (C := op.paymentID = paymentID ∧ op.operation = kind)
      (fun db h => (Database.operation?_some h.2).2) fun hop => ?_
    refine follows_weaken
      (fun db h => ⟨h.1.keyed, h.1.since, h.1.view.operation_cons h.2⟩)
      ((hsome op hop.1 hop.2).follows _ { hv.append _ with })

/-- `SELECT ... FOR UPDATE` of a reservation. If there is none, there was none at the start, and
    one that was there at the start is found in a later form. -/
theorem Inside.lockReservation {f : Option (LedgerReservation U) → WalletProg U α}
    (hnone : s.start.reservation? paymentID = none → s.Inside env reply (fun db => db) v (f none))
    (hsome : ∀ r, r.paymentID = paymentID →
      (∀ r₀, s.start.reservation? paymentID = some r₀ →
        Database.Later r₀ r ∧ r.idempotencyKey = r₀.idempotencyKey) →
      s.Inside env reply (fun db => db) { v with reservations := r :: v.reservations }
        (f (some r))) :
    s.Inside env reply (fun db => db) v (Repo.execute (.lockReservation paymentID) >>= f) := by
  refine .read (fun _ => rfl) (fun _ => rfl) fun row locks hv => ?_
  cases row with
  | none =>
    refine follows_of_fact (C := s.start.reservation? paymentID = none) (fun db h => ?_)
      fun hstart => follows_weaken (fun db h => h.1)
        ((hnone hstart).follows _ (hv.append _))
    cases hstart : s.start.reservation? paymentID with
    | none => rfl
    | some r =>
      obtain ⟨r', hr', -⟩ := h.1.since.reservation hstart
      cases h.2.symm.trans hr'
  | some r =>
    refine follows_of_fact (C := r.paymentID = paymentID)
      (fun db h => (reservation?_some h.2).2) fun hpayment => ?_
    refine follows_of_fact (fun db h r₀ hr₀ => ?_) fun hlater =>
      follows_weaken
        (fun db h => ⟨h.1.keyed, h.1.since, h.1.view.reservation_cons h.2⟩)
        ((hsome r hpayment hlater).follows _ ?_)
    · obtain ⟨r', hr', hlater⟩ := h.1.since.reservation hr₀
      cases h.2.symm.trans hr'
      exact ⟨hlater, h.1.since.idempotencyKey hr₀ hr'⟩
    have happend := hv.append [LockKey.reservation paymentID]
    refine { happend with reservation := List.forall_mem_cons.mpr ⟨?_, happend.reservation⟩ }
    rw [hpayment]
    exact List.mem_append_right _ List.mem_cons_self

theorem Inside.transferProcessed {f : Bool → WalletProg U α}
    (hno : s.Inside env reply (fun db => db) v (f false))
    (hyes : s.Inside env reply (fun db => db) { v with processed := id :: v.processed } (f true)) :
    s.Inside env reply (fun db => db) v (Repo.execute (.transferProcessed id) >>= f) := by
  refine .read (fun _ => rfl) (fun _ => rfl) fun found locks hv => ?_
  cases found with
  | false => exact follows_weaken (fun db h => h.1) (hno.follows _ (hv.append _))
  | true =>
    refine follows_weaken (fun db h => ⟨h.1.keyed, h.1.since, ?_⟩)
      (hyes.follows _ { hv.append _ with })
    exact { h.1.view with processed := List.forall_mem_cons.mpr ⟨h.2, h.1.view.processed⟩ }

/-- `lockWallets`. -/
theorem Inside.lockWallets {firstID secondID : U} {f : (U → Option (Wallet U)) → WalletProg U α}
    (hok : ∀ (rows : U → Option (Wallet U)) (wallets : List (Wallet U)),
      (∀ id w, rows id = some w → w ∈ wallets ∧ w.id = id) →
      s.Inside env reply (fun db => db) { v with wallets := wallets } (f rows)) :
    s.Inside env reply (fun db => db) v (Repo.lockWallets firstID secondID >>= f) := by
  unfold Repo.lockWallets
  simp only [Prog.bind_assoc, Prog.pure_eq, Prog.done_bind]
  generalize (if text secondID < text firstID then secondID else firstID) = lowID
  generalize (if text secondID < text firstID then firstID else secondID) = highID
  refine .lockWallet ?_ fun low hlow => ?_
  · refine .lockWallet (hok _ _ ?_) fun high hhigh => hok _ _ ?_
    · intro id w hw
      simp at hw
    · intro id w hw
      split at hw
      · cases hw
      · split at hw <;> cases hw
        simp [*]
  · refine .lockWallet (hok _ _ ?_) fun high hhigh => hok _ _ ?_
    · intro id w hw
      split at hw
      · cases hw
        simp [*]
      · split at hw <;> cases hw
    · intro id w hw
      split at hw
      · cases hw
        simp [*]
      · split at hw <;> cases hw
        simp [*]

variable {C : Prop} {F : List (LockKey U)} {W : Database U → Database U}

/-- A statement that writes: it checks `C`, finds the keys `F` free and makes the change `W`. -/
theorem Inside.attempt {f : Except CallErr st.Ret → WalletProg U α}
    (hrun : ∀ a db, st.statement.run db = .ok a → C ∧ ∀ key ∈ F, key ∉ db.indexKeys)
    (htakes : ∀ a, F ⊆ st.statement.takes a) (hwrite : ∀ a, st.statement.write a = W)
    (hkeys : ∀ db, db.indexKeys ⊆ (writes db).indexKeys)
    (hok : ∀ a, C → s.Inside env reply (fun db => W (writes db)) { v with free := v.free ++ F }
      (f (.ok a))) (herr : ∀ e locks, v.LockedBy locks →
      s.protocol.discipline.Follows (s.protocol.Ends (s.answer reply)) (f (.error e))
        { tx := some { call := s.call, env := env, writes := writes, locks := locks }
          facts := fun db => s.Sees v db ∧
            (e = .down ∨ st.statement.run (writes db) = .error e) }) :
    s.Inside env reply writes v ((Repo.execute st).attempt >>= f) := by
  refine ⟨fun locks hv => ?_⟩
  refine Protocol.follows_attempt
    (ψ := fun a db => C ∧ s.Sees { v with free := v.free ++ F } db)
    (Sees.stable hv) (fun a db _ h ha => ?_) (fun a => ?_) fun e => ?_
  · obtain ⟨hC, hfree⟩ := hrun a _ ha
    exact ⟨hC, h.keyed, h.since,
      h.view.free_append fun key hkey hmem => hfree key hkey (hkeys db hmem)⟩
  · simp only [Held.after, walletSql, hwrite a]
    refine follows_of_fact (C := C) (fun db h => h.1) fun hC => ?_
    exact follows_weaken (fun db h => h.2)
      ((hok a hC).follows _ (hv.free_append (htakes a)))
  · exact follows_weaken (fun db h => ⟨h.2.1, h.2.2⟩) (herr e locks hv)

/-- A statement whose error ends the program. -/
theorem Inside.of_attempt
    (h : s.Inside env reply writes v ((Repo.execute st).attempt >>= Prog.onAnswer f)) :
    s.Inside env reply writes v (Repo.execute st >>= f) := by
  simpa only [Repo.execute, Prog.attempt_perform_bind, Prog.perform_bind] using h

/-- The same with an error that ends the program. -/
theorem Inside.execute
    (hrun : ∀ a db, st.statement.run db = .ok a → C ∧ ∀ key ∈ F, key ∉ db.indexKeys)
    (htakes : ∀ a, F ⊆ st.statement.takes a) (hwrite : ∀ a, st.statement.write a = W)
    (hkeys : ∀ db, db.indexKeys ⊆ (writes db).indexKeys)
    (hok : ∀ a, C → s.Inside env reply (fun db => W (writes db)) { v with free := v.free ++ F }
      (f a)) (herr : ∀ e, s.Repeats (.error e)) :
    s.Inside env reply writes v (Repo.execute st >>= f) :=
  .of_attempt (.attempt hrun htakes hwrite hkeys hok fun e _ _ =>
    follows_fail fun _ h => h.1.error (herr e))

theorem Inside.updateWalletBalance {now : Time} {f : Unit → WalletProg U α}
    (hkeys : ∀ db, db.indexKeys ⊆ (writes db).indexKeys) (hok : 0 ≤ balance →
      s.Inside env reply (fun db => (writes db).setBalance id balance now) v (f ()))
    (herr : ∀ e, s.Repeats (.error e)) :
    s.Inside env reply writes v (Repo.execute (.updateWalletBalance id balance now) >>= f) := by
  refine .execute (C := 0 ≤ balance) (F := []) ?_ (fun _ => List.nil_subset _) (fun _ => rfl)
    hkeys (fun _ hb => ?_) herr
  · intro a db hrun
    obtain ⟨db', h⟩ := WalletStmt.change_run.mp hrun
    exact ⟨(Database.updateWalletBalance_ok h).1, by simp⟩
  · simpa only [List.append_nil] using hok hb

theorem Inside.insertTransfer {t : Transfer U} {f : Unit → WalletProg U α}
    (hkeys : ∀ db, db.indexKeys ⊆ (writes db).indexKeys)
    (hok : 0 < t.amount ∧ t.fromWalletID ≠ t.toWalletID →
      s.Inside env reply
        (fun db => { writes db with transfers := (writes db).transfers ++ [t] })
        { v with free := v.free ++ t.indexKeys } (f ()))
    (herr : ∀ e, s.Repeats (.error e)) :
    s.Inside env reply writes v (Repo.execute (.insertTransfer t) >>= f) := by
  refine .execute ?_ (fun _ => List.Subset.refl _) (fun _ => rfl) hkeys (fun _ => hok) herr
  intro a db hrun
  obtain ⟨db', h⟩ := WalletStmt.change_run.mp hrun
  obtain ⟨-, -, -, rfl⟩ := Database.insertTransfer_ok h
  exact insertTransfer_iff.mp h

/-- The insertion of an entry, whatever the program does with its answer. -/
theorem Inside.insertLedgerEntry {f : Except CallErr Unit → WalletProg U α}
    (hkeys : ∀ db, db.indexKeys ⊆ (writes db).indexKeys)
    (hok : 0 < entry.amount → s.Inside env reply
      (fun db => { writes db with ledgerEntries := (writes db).ledgerEntries ++ [entry] })
      { v with free := v.free ++ entry.indexKeys } (f (.ok ())))
    (herr : ∀ e locks, v.LockedBy locks →
      s.protocol.discipline.Follows (s.protocol.Ends (s.answer reply)) (f (.error e))
        { tx := some { call := s.call, env := env, writes := writes, locks := locks }
          facts := fun db => s.Sees v db ∧ (e = .down ∨
            (WalletStmt.insertLedgerEntry entry).statement.run (writes db) = .error e) }) :
    s.Inside env reply writes v
      ((Repo.execute (.insertLedgerEntry entry)).attempt >>= f) := by
  refine .attempt ?_ (fun _ => List.Subset.refl _) (fun _ => rfl) hkeys (fun _ => hok) herr
  intro a db hrun
  obtain ⟨db', h⟩ := WalletStmt.change_run.mp hrun
  obtain rfl := Database.insertLedgerEntry_ok h
  exact insertLedgerEntry_iff.mp h

theorem Inside.insertOperation {f : Except CallErr Unit → WalletProg U α}
    (hkeys : ∀ db, db.indexKeys ⊆ (writes db).indexKeys)
    (hok : 0 < op.amountCents → s.Inside env reply
      (fun db => { writes db with operations := (writes db).operations ++ [op] })
      { v with free := v.free ++ op.indexKeys } (f (.ok ())))
    (herr : ∀ e, s.Inside env reply writes v (f (.error e))) :
    s.Inside env reply writes v ((Repo.execute (.insertOperation op)).attempt >>= f) := by
  refine .attempt ?_ (fun _ => List.Subset.refl _) (fun _ => rfl) hkeys (fun _ => hok)
    fun e locks hv => follows_weaken (fun db h => h.1) ((herr e).follows locks hv)
  intro a db hrun
  obtain ⟨db', h⟩ := WalletStmt.change_run.mp hrun
  obtain ⟨-, rfl⟩ := Database.insertOperation_ok h
  exact Database.insertOperation_iff.mp h

theorem Inside.insertReservation {f : Except CallErr Unit → WalletProg U α}
    (hkeys : ∀ db, db.indexKeys ⊆ (writes db).indexKeys)
    (hok : 0 < r.amountCents ∧ r.fromWalletID ≠ r.toWalletID → s.Inside env reply
      (fun db => { writes db with reservations := (writes db).reservations ++ [r] })
      { v with free := v.free ++ r.indexKeys } (f (.ok ())))
    (herr : ∀ e, s.Inside env reply writes v (f (.error e))) :
    s.Inside env reply writes v ((Repo.execute (.insertReservation r)).attempt >>= f) := by
  refine .attempt ?_ (fun _ => List.Subset.refl _) (fun _ => rfl) hkeys (fun _ => hok)
    fun e locks hv => follows_weaken (fun db h => h.1) ((herr e).follows locks hv)
  intro a db hrun
  obtain ⟨db', h⟩ := WalletStmt.change_run.mp hrun
  obtain ⟨-, rfl⟩ := Database.insertReservation_ok h
  exact Database.insertReservation_iff.mp h

theorem Inside.enqueue {record : OutboxRecord} {f : Unit → WalletProg U α}
    (hkeys : ∀ db, db.indexKeys ⊆ (writes db).indexKeys)
    (hok : s.Inside env reply
      (fun db => { writes db with outbox := (writes db).outbox ++ [record] }) v (f ()))
    (herr : ∀ e, s.Repeats (.error e)) :
    s.Inside env reply writes v (Repo.execute (.enqueue record) >>= f) := by
  refine .execute (C := True) (F := []) (fun _ _ _ => ⟨trivial, by simp⟩)
    (fun _ => List.nil_subset _) (fun _ => rfl) hkeys (fun _ _ => ?_) herr
  simpa only [List.append_nil] using hok

/-- The update of a reservation that the transaction has locked. -/
theorem Inside.updateReservation {change : ReservationChange U}
    {f : LedgerReservation U → WalletProg U α} (hr : r ∈ v.reservations)
    (hwrites : ∀ db, (writes db).reservations = db.reservations)
    (hok : s.Inside env reply (fun db => { writes db with
        reservations := (writes db).reservations.map fun o =>
          if o.id = r.id ∧ o.paymentID = r.paymentID then change.apply o else o }) v
      (f (change.apply r))) (herr : ∀ e, s.Repeats (.error e)) :
    s.Inside env reply writes v (Repo.execute (.updateReservation r.id change) >>= f) := by
  refine ⟨fun locks hv => ?_⟩
  have hpayment : (change.apply r).paymentID = r.paymentID := by cases change <;> rfl
  refine Protocol.follows_execute (ψ := fun a db => s.Sees v db ∧ a = change.apply r)
    (Sees.stable hv) (fun a db _ h hrun => ⟨h, ?_⟩) (fun a => ?_) fun e db _ h _ => h.error (herr e)
  · -- the ID is a key, so the row that is found is the locked one
    simp only [walletSql, WalletStmt.statement, WalletStmt.changeReservation, Except.map_eq_ok,
      Except.ofOption_eq_ok, hwrites] at hrun
    obtain ⟨o, ho, rfl⟩ := hrun
    have hmem := (reservation?_some (h.view.reservation r hr)).1
    have hid : o.id = r.id := by simpa using List.find?_some ho
    rw [h.keyed.eq_of_id hmem (List.mem_of_find?_eq_some ho) hid]
  · refine follows_of_fact (C := a = change.apply r) (fun db h => h.2) ?_
    rintro rfl
    have hafter := hok.follows (locks ++ [.reservation r.paymentID]) (hv.append _)
    refine follows_weaken (fun db h => h.1) ?_
    simp only [Held.after, walletSql, WalletStmt.statement, WalletStmt.changeReservation, hpayment]
    exact hafter

/-- A commit at which the view determines what the atomic function does. -/
theorem Inside.commit {a : α}
    (hstep : ∀ db, s.Sees v db → s.call.Step s.outboxTopic env db (writes db))
    (hreply : ∀ db, s.Sees v db → s.call.Replied (writes db) (reply a))
    (hrepeats : s.Repeats (.ok (reply a))) :
    s.Inside env reply writes v (Repo.commit >>= fun _ => pure a) := by
  refine ⟨fun locks hv => ?_⟩
  have hcommits : ∀ db, db.Keyed → s.Sees v db → s.protocol.Commits s.call env db (writes db) := by
    intro db _ h
    refine ⟨?_, hstep db h⟩
    rcases s.requested with hreq | ⟨offset, transfer, hreq, hcall, record, hmem, hdecode⟩
    · exact .inl hreq
    · exact .inr ⟨offset, transfer, hreq, hcall, record, h.since.outbox.subset hmem, hdecode⟩
  refine Protocol.follows_commit (ψ := (s.answer reply (.ok a)).Holds) (Sees.stable hv) hcommits
    (fun db hk h => ?_) (follows_done fun _ h => h) fun db _ h => h.error repeats_down
  refine ⟨h.since.trans ((hstep db h).extends h.keyed).2, ?_, hrepeats⟩
  rintro _ ⟨rfl⟩
  exact hreply db h

/-- A commit at the end of a program that returns nothing. -/
theorem Inside.commit_unit {reply : Unit → WalletReply U}
    (hstep : ∀ db, s.Sees v db → s.call.Step s.outboxTopic env db (writes db))
    (hreply : ∀ db, s.Sees v db → s.call.Replied (writes db) (reply ()))
    (hrepeats : s.Repeats (.ok (reply ()))) : s.Inside env reply writes v Repo.commit := by
  have hcommit : s.Inside env reply writes v (Repo.commit >>= pure) :=
    .commit hstep hreply hrepeats
  rwa [Prog.bind_pure] at hcommit

theorem Inside.rollback {f : Unit → WalletProg U α} (h : s.Outside reply (f ())) :
    s.Inside env reply writes v (Repo.rollback >>= f) := by
  refine ⟨fun locks hv => ?_⟩
  refine Protocol.follows_rollback (follows_weaken (fun db hdb => ?_) h.follows)
  exact ⟨hdb.keyed, hdb.since, .nil db⟩

/-- A statement that reads after the transaction is over. -/
theorem Outside.query {find : Database U → st.Ret}
    (hrun : ∀ db, st.statement.run db = .ok (find db))
    (hok : ∀ a, s.protocol.discipline.Follows (s.protocol.Ends (s.answer reply)) (f a)
      { facts := fun db => s.Sees {} db ∧ find db = a }) :
    s.Outside reply (Repo.query st >>= f) := by
  refine ⟨?_⟩
  refine Protocol.follows_query (ψ := fun a db => s.Sees {} db ∧ find db = a)
    (Sees.stable ⟨by simp, by simp, by simp⟩) (fun a db _ h ha => ⟨h, ?_⟩) hok ?_
  · exact Except.ok.inj ((hrun db).symm.trans ha)
  · rintro e db - h (rfl | he)
    · exact h.error repeats_down
    · cases (hrun db).symm.trans he

end Rules

end Session

/-! ## The functions of the repository -/

namespace Repo

open Session
open Except (bind_eq_ok refuseIf_eq_ok ofOption_eq_ok mapError_eq_ok)

variable {s : Session U}

theorem createTransfer_follows {userID fromWalletID toWalletID : U} {amount : Int64}
    (hcall : s.call = .createTransfer userID fromWalletID toWalletID amount) :
    s.Outside (fun r => .transfer r.1 r.2.1 r.2.2)
      (createTransfer s.outboxTopic userID fromWalletID toWalletID amount) := by
  have hany : ∀ result, s.Repeats result := repeats_of_ne fun cmd => by simp [hcall]
  unfold createTransfer
  refine .check (fun _ hpos => ?_) fun _ _ => hany _
  refine .check (fun _ hne => ?_) fun _ _ => hany _
  refine .transaction hcall fun env _ => ?_
  refine .lockWallets fun rows wallets hrows => ?_
  refine .check (fun source hsource => ?_) fun _ _ => hany _
  refine .check (fun _ howner => ?_) fun _ _ => hany _
  refine .check (fun target htarget => ?_) fun _ _ => hany _
  refine .check (fun _ hcurrency => ?_) fun _ _ => hany _
  refine .check (fun debited hdebit => ?_) fun _ _ => hany _
  refine .check (fun credited hcredit => ?_) fun _ _ => hany _
  refine .updateWalletBalance (fun _ _ h => h) (fun hdebited => ?_) fun _ => hany _
  refine .updateWalletBalance (fun _ _ h => h) (fun hcredited => ?_) fun _ => hany _
  refine .insertTransfer (fun _ _ h => h) (fun hchecked => ?_) fun _ => hany _
  refine .enqueue (fun db => ?_) ?_ fun _ => hany _
  · exact indexKeys_subset (fun _ h => h) (fun _ h => h)
      (List.subset_append_left _ _) fun _ h => h
  simp only [refuseIf_eq_ok, ofOption_eq_ok] at hpos hne hsource howner htarget hcurrency
  obtain ⟨hsourceMem, rfl⟩ := hrows _ _ hsource
  obtain ⟨htargetMem, rfl⟩ := hrows _ _ htarget
  refine .commit (fun db h => ?_) (fun db h => ?_) (hany _)
  · rw [hcall]
    refine ⟨(newTransfer env source.id target.id amount, debited.balance,
      credited.balance), ?_⟩
    simp only [Database.createTransfer, bind_eq_ok, refuseIf_eq_ok, ofOption_eq_ok, mapError_eq_ok]
    refine ⟨(), hpos, (), hne, source, h.view.wallet _ hsourceMem, (), howner, target,
      h.view.wallet _ htargetMem, (), hcurrency, debited, hdebit, credited, hcredit, _,
      updateWalletBalance_iff.mpr hdebited, _,
      updateWalletBalance_iff.mpr hcredited, _,
      insertTransfer_iff.mpr ⟨hchecked, fun key hkey => ?_⟩, rfl⟩
    exact h.view.free key (List.mem_append_right _ hkey)
  · rw [hcall]
    exact ⟨_, _, _, rfl, List.mem_append_right _ List.mem_cons_self⟩

/-- An operation that was there already. -/
theorem returnExisting_follows {env : TxEnv U} {v : View U} {existing : SagaWalletOperation U}
    (hany : ∀ result, s.Repeats result)
    (hstep : ∀ db, s.Sees v db → s.call.Step s.outboxTopic env db db)
    (hreply : ∀ db, s.Sees v db → s.call.Replied db (.operation existing)) :
    s.Inside env .operation (fun db => db) v (returnExisting existing) :=
  .commit hstep hreply (hany _)

/-- The end of `DebitForSaga` and `CompensateDebit`, if the insertion did not go through. -/
theorem settleOperation_error {env : TxEnv U} {v : View U} {writes : Database U → Database U}
    (hany : ∀ result, s.Repeats result)
    (hreply : ∀ (db : Database U) (existing : SagaWalletOperation U),
      db.operation? paymentID kind = some existing → s.call.Replied db (.operation existing))
    (e : CallErr) :
    s.Inside env .operation writes v (settleOperation op paymentID kind (.error e)) := by
  unfold settleOperation
  split
  · contradiction
  · refine .rollback (.query (fun _ => rfl) fun existing => ?_)
    cases existing with
    | none => exact follows_fail fun db h => h.1.error (hany _)
    | some existing =>
      refine follows_done fun db h => ⟨h.1.since, ?_, hany _⟩
      rintro _ ⟨rfl⟩
      exact hreply db existing h.2
  · exact .fail (hany _)

/-- Their end if it did: no row had the keys of the new one up to the commit. -/
theorem settleOperation_ok {env : TxEnv U} {v : View U} {walletID : U}
    (hany : ∀ result, s.Repeats result) (hreply : ∀ (db : Database U) (op : SagaWalletOperation U),
      db.operation? paymentID kind = some op → s.call.Replied db (.operation op))
    (hpayment : op.paymentID = paymentID) (hkind : op.operation = kind) (hpos : 0 < op.amountCents)
    (hstep : ∀ db, s.Sees { v with free := v.free ++ op.indexKeys } db →
      db.operation? paymentID kind = none →
      (db.setBalance walletID balance env.now).insertOperation op =
        .ok { db.setBalance walletID balance env.now with operations := db.operations ++ [op] } →
      s.call.Step s.outboxTopic env db
        { db.setBalance walletID balance env.now with operations := db.operations ++ [op] }) :
    s.Inside env .operation
      (fun db => { db.setBalance walletID balance env.now with
        operations := db.operations ++ [op] })
      { v with free := v.free ++ op.indexKeys } (settleOperation op paymentID kind (.ok ())) := by
  subst hpayment hkind
  have hfree : ∀ db, s.Sees { v with free := v.free ++ op.indexKeys } db →
      ∀ key ∈ op.indexKeys, key ∉ db.indexKeys :=
    fun db h key hkey => h.view.free key (List.mem_append_right _ hkey)
  have hnew : ∀ db, s.Sees { v with free := v.free ++ op.indexKeys } db →
      db.operation? op.paymentID op.operation = none := by
    intro db h
    apply Database.operation?_of_free
    exact hfree db h _ (by simp [SagaWalletOperation.indexKeys])
  refine .commit (fun db h => hstep db h (hnew db h) ?_) (fun db h => hreply _ _ ?_) (hany _)
  · exact Database.insertOperation_iff.mpr ⟨hpos, hfree db h⟩
  · exact Database.operation?_append_of_none rfl rfl rfl (hnew db h)

theorem debitForSaga_follows {cmd : SagaDebitCommand U} (hcall : s.call = .debitForSaga cmd) :
    s.Outside .operation (debitForSaga cmd) := by
  have hany : ∀ result, s.Repeats result := repeats_of_ne fun cmd => by simp [hcall]
  have hreply : ∀ (db : Database U) (op : SagaWalletOperation U),
      db.operation? cmd.paymentID .debit = some op → s.call.Replied db (.operation op) := by
    intro db op hop
    rw [hcall]
    exact ⟨op, rfl, hop⟩
  unfold debitForSaga
  refine .check (fun _ hnamed => ?_) fun _ _ => hany _
  refine .check (fun _ hpos => ?_) fun _ _ => hany _
  refine .check (fun currency hcurrency => ?_) fun _ _ => hany _
  simp only [refuseIf_eq_ok] at hnamed hpos
  -- a stored debit ends the call, whichever look-up finds it
  have hexisting : ∀ (env : TxEnv U) (v : View U) (op : SagaWalletOperation U),
      op.paymentID = cmd.paymentID → op.operation = .debit → op ∈ v.operations →
      s.Inside env .operation (fun db => db) v (returnExisting op) := by
    intro env v op hpayment hkind hmem
    have hfound : ∀ db, s.Sees v db → db.operation? cmd.paymentID .debit = some op := by
      intro db h
      rw [← hpayment, ← hkind]
      exact h.view.operation op hmem
    refine returnExisting_follows hany (fun db h => ?_) fun db h => hreply db op (hfound db h)
    rw [hcall]
    refine ⟨op, ?_⟩
    simp only [Database.debitForSaga, bind_eq_ok, refuseIf_eq_ok, mapError_eq_ok]
    refine ⟨(), hnamed, (), hpos, currency, hcurrency, ?_⟩
    rw [hfound db h]
  refine .transaction hcall fun env _ => ?_
  refine .lockOperation ?_ fun op hpayment hkind =>
    hexisting env _ op hpayment hkind List.mem_cons_self
  refine .bind_lockWallet fun locked wallets hlocked => ?_
  refine .lockOperation ?_ fun op hpayment hkind =>
    hexisting env _ op hpayment hkind List.mem_cons_self
  refine .check (fun wallet hwallet => ?_) fun _ _ => hany _
  refine .check (fun _ hsame => ?_) fun _ _ => hany _
  refine .check (fun debited hdebit => ?_) fun _ _ => hany _
  refine .updateWalletBalance (fun _ _ h => h) (fun hdebited => ?_) fun _ => hany _
  refine .insertOperation (fun _ _ h => h) (fun hchecked => ?_)
    (settleOperation_error hany hreply)
  simp only [refuseIf_eq_ok, ofOption_eq_ok] at hwallet hsame
  obtain ⟨hmem, hid⟩ := hlocked wallet hwallet
  refine settleOperation_ok hany hreply rfl rfl hchecked fun db h hnew hinsert => ?_
  rw [hcall]
  refine ⟨Database.debitOperation env cmd wallet, ?_⟩
  simp only [Database.debitForSaga, bind_eq_ok, refuseIf_eq_ok, mapError_eq_ok]
  refine ⟨(), hnamed, (), hpos, currency, hcurrency, ?_⟩
  rw [hnew]
  simp only [bind_eq_ok, refuseIf_eq_ok, ofOption_eq_ok, mapError_eq_ok]
  refine ⟨wallet, hid ▸ h.view.wallet _ hmem, (), hsame, debited, hdebit, _,
    updateWalletBalance_iff.mpr hdebited, ?_⟩
  rw [hinsert]

theorem compensateDebit_follows {cmd : SagaCompensationCommand U}
    (hcall : s.call = .compensateDebit cmd) : s.Outside .operation (compensateDebit cmd) := by
  have hany : ∀ result, s.Repeats result := repeats_of_ne fun cmd => by simp [hcall]
  have hreply : ∀ (db : Database U) (op : SagaWalletOperation U),
      db.operation? cmd.paymentID .compensation = some op →
      s.call.Replied db (.operation op) := by
    intro db op hop
    rw [hcall]
    exact ⟨op, rfl, hop⟩
  unfold compensateDebit
  refine .check (fun _ hnamed => ?_) fun _ _ => hany _
  refine .check (fun _ hpos => ?_) fun _ _ => hany _
  refine .check (fun currency hcurrency => ?_) fun _ _ => hany _
  simp only [refuseIf_eq_ok] at hnamed hpos
  have hexisting : ∀ (env : TxEnv U) (v : View U) (op : SagaWalletOperation U),
      op.paymentID = cmd.paymentID → op.operation = .compensation → op ∈ v.operations →
      s.Inside env .operation (fun db => db) v (returnExisting op) := by
    intro env v op hpayment hkind hmem
    have hfound : ∀ db, s.Sees v db → db.operation? cmd.paymentID .compensation = some op := by
      intro db h
      rw [← hpayment, ← hkind]
      exact h.view.operation op hmem
    refine returnExisting_follows hany (fun db h => ?_) fun db h => hreply db op (hfound db h)
    rw [hcall]
    refine ⟨op, ?_⟩
    simp only [Database.compensateDebit, bind_eq_ok, refuseIf_eq_ok, mapError_eq_ok]
    refine ⟨(), hnamed, (), hpos, currency, hcurrency, ?_⟩
    rw [hfound db h]
  refine .transaction hcall fun env _ => ?_
  refine .lockOperation ?_ fun op hpayment hkind =>
    hexisting env _ op hpayment hkind List.mem_cons_self
  refine .lockOperation ?_ fun debit hpayment hkind => ?_
  · exact .check (fun _ hnone => by cases hnone) fun _ _ => hany _
  refine .check (fun found hfound => ?_) fun _ _ => hany _
  cases hfound
  refine .lockOperation ?_ fun op hpayment' hkind' =>
    hexisting env _ op hpayment' hkind' List.mem_cons_self
  refine .check (fun _ hid => ?_) fun _ _ => hany _
  refine .check (fun _ hwallet => ?_) fun _ _ => hany _
  refine .check (fun _ hamount => ?_) fun _ _ => hany _
  refine .check (fun _ hsame => ?_) fun _ _ => hany _
  refine .lockWallet ?_ fun wallet hwalletID => ?_
  · exact .check (fun _ hnone => by cases hnone) fun _ _ => hany _
  refine .check (fun found hfound => ?_) fun _ _ => hany _
  cases hfound
  refine .check (fun credited hcredit => ?_) fun _ _ => hany _
  refine .updateWalletBalance (fun _ _ h => h) (fun hcredited => ?_) fun _ => hany _
  refine .insertOperation (fun _ _ h => h) (fun hchecked => ?_)
    (settleOperation_error hany hreply)
  simp only [refuseIf_eq_ok] at hid hwallet hamount hsame
  refine settleOperation_ok hany hreply rfl rfl hchecked fun db h hnew hinsert => ?_
  have hdebit : db.operation? cmd.paymentID .debit = some debit := by
    rw [← hpayment, ← hkind]
    exact h.view.operation debit List.mem_cons_self
  rw [hcall]
  refine ⟨Database.compensationOperation env cmd debit wallet, ?_⟩
  simp only [Database.compensateDebit, bind_eq_ok, refuseIf_eq_ok, mapError_eq_ok]
  refine ⟨(), hnamed, (), hpos, currency, hcurrency, ?_⟩
  rw [hnew]
  simp only [bind_eq_ok, refuseIf_eq_ok, ofOption_eq_ok, mapError_eq_ok]
  refine ⟨debit, hdebit, (), hid, (), hwallet, (), hamount, (), hsame, wallet,
    hwalletID ▸ h.view.wallet _ List.mem_cons_self, credited, hcredit, _,
    updateWalletBalance_iff.mpr hcredited, ?_⟩
  rw [hinsert]

/-- An insertion of an entry that runs into another one. The IDs are fresh, so the transfer has
    an entry. -/
theorem processed_of_unique {v : View U} {db : Database U} (h : s.Sees v db)
    {writes : Database U → Database U} (hid : .entryID entry.id ∈ v.free)
    (hwrites : ∀ o ∈ (writes db).ledgerEntries, o ∈ db.ledgerEntries ∨
      o.id ≠ entry.id ∧ o.direction ≠ entry.direction)
    (hrun : (WalletStmt.insertLedgerEntry entry).statement.run (writes db) =
      .error (.repo (.sql .uniqueViolation))) :
    db.transferProcessed entry.transferID = true := by
  simp only [WalletStmt.statement, WalletStmt.change] at hrun
  cases hinsert : (writes db).insertLedgerEntry entry with
  | ok db' =>
    rw [hinsert] at hrun
    cases hrun
  | error e =>
    rw [hinsert] at hrun
    cases hrun
    obtain ⟨o, ho, hsame⟩ := Database.insertLedgerEntry_unique hinsert
    rcases hwrites o ho with ho | hne
    · have hnot := h.view.free _ hid
      rw [Database.entryID_mem] at hnot
      obtain hsame | ⟨hsame, -⟩ := hsame
      · exact absurd ⟨o, ho, hsame⟩ hnot
      · exact List.any_eq_true.mpr ⟨o, ho, decide_eq_true hsame⟩
    · obtain hsame | ⟨-, hsame⟩ := hsame
      · exact absurd hsame hne.1
      · exact absurd hsame hne.2

/-- One of the two insertions of `AppendTransferEntries`. -/
theorem unlessStored_follows {transfer : LedgerTransfer U}
    (hcall : s.call = .appendTransferEntries transfer) {env : TxEnv U} {v : View U}
    {writes : Database U → Database U} {next : WalletProg U Unit}
    (htransfer : entry.transferID = transfer.transferID) (hid : .entryID entry.id ∈ v.free)
    (hwrites : ∀ db, ∀ o ∈ (writes db).ledgerEntries, o ∈ db.ledgerEntries ∨
      o.id ≠ entry.id ∧ o.direction ≠ entry.direction)
    (hkeys : ∀ db, db.indexKeys ⊆ (writes db).indexKeys)
    (hok : 0 < entry.amount → s.Inside env (fun _ => .appended)
      (fun db => { writes db with ledgerEntries := (writes db).ledgerEntries ++ [entry] })
      { v with free := v.free ++ entry.indexKeys } next) :
    s.Inside env (fun _ => .appended) writes v
      ((execute (.insertLedgerEntry entry)).attempt >>= fun r => unlessStored r next) := by
  have hany : ∀ result, s.Repeats result := repeats_of_ne fun cmd => by simp [hcall]
  refine .insertLedgerEntry hkeys hok fun e locks hv => ?_
  by_cases he : e = .repo (.sql .uniqueViolation)
  · subst he
    refine follows_done fun db h => ⟨h.1.since, ?_, hany _⟩
    rintro _ ⟨rfl⟩
    show s.call.Replied db .appended
    rw [hcall]
    show db.transferProcessed transfer.transferID = true
    rw [← htransfer]
    exact processed_of_unique h.1 hid (hwrites db) (h.2.resolve_left (by simp))
  · have hfail : unlessStored (.error e) next = .fail e := by
      unfold unlessStored
      split <;> simp_all
    rw [hfail]
    exact follows_fail fun db h => h.1.error (hany _)

theorem appendTransferEntries_follows {transfer : LedgerTransfer U}
    (hcall : s.call = .appendTransferEntries transfer) :
    s.Outside (fun _ => .appended) (appendTransferEntries transfer) := by
  have hany : ∀ result, s.Repeats result := repeats_of_ne fun cmd => by simp [hcall]
  unfold appendTransferEntries
  refine .check (fun _ hpos => ?_) fun _ _ => hany _
  refine .check (fun _ hne => ?_) fun _ _ => hany _
  refine .check (fun currency hcurrency => ?_) fun _ _ => hany _
  simp only [refuseIf_eq_ok] at hpos hne
  refine .transaction hcall fun env hids => ?_
  refine .transferProcessed ?_ ?_
  · simp only [Bool.false_eq_true, ↓reduceIte]
    refine .lockWallets fun rows wallets hrows => ?_
    refine .check (fun source hsource => ?_) fun _ _ => hany _
    refine .check (fun target htarget => ?_) fun _ _ => hany _
    refine .check (fun _ hsame => ?_) fun _ _ => hany _
    simp only [refuseIf_eq_ok, ofOption_eq_ok] at hsource htarget hsame
    obtain ⟨hsourceMem, hsourceID⟩ := hrows _ _ hsource
    obtain ⟨htargetMem, htargetID⟩ := hrows _ _ htarget
    refine unlessStored_follows hcall rfl ?_ (fun _ _ => .inl) (fun _ _ h => h) fun hdebit => ?_
    · simp [debitEntry, transferEntry, TxEnv.lockKeys]
    refine unlessStored_follows hcall rfl ?_ (fun db o ho => ?_) (fun db => ?_) fun hcredit => ?_
    · simp [creditEntry, transferEntry, TxEnv.lockKeys]
    · -- the other row of this transaction has another ID and the other direction
      rcases List.mem_concat_iff.mp ho with ho | rfl
      · exact .inl ho
      · exact .inr ⟨hids, by simp [debitEntry, creditEntry,
          transferEntry]⟩
    · exact indexKeys_subset (fun _ h => h) (fun _ h => h) (fun _ h => h)
        (List.subset_append_left _ _)
    refine .commit_unit (fun db h => ?_) (fun db h => ?_) (hany _)
    · have hdebitFree : ∀ key ∈ (debitEntry env source transfer).indexKeys,
          key ∉ db.indexKeys := fun key hkey => h.view.free key (by simp [hkey])
      have hcreditFree : ∀ key ∈ (creditEntry env target transfer).indexKeys,
          key ∉ db.indexKeys := fun key hkey => h.view.free key (by simp [hkey])
      have hnew : db.transferProcessed transfer.transferID = false := by
        refine Database.transferProcessed_of_free fun direction => ?_
        cases direction with
        | debit => exact hdebitFree _ (by simp [LedgerEntry.indexKeys, debitEntry,
            transferEntry])
        | credit => exact hcreditFree _ (by simp [LedgerEntry.indexKeys, creditEntry,
            transferEntry])
      have hinsert := insertLedgerEntry_iff.mpr ⟨hdebit, hdebitFree⟩
      have hinsert' := Database.insertLedgerEntry_second
        (show (debitEntry env source transfer).id ≠
          (creditEntry env target transfer).id from hids)
        (by simp [debitEntry, creditEntry, transferEntry]) hcredit
        hcreditFree
      rw [hcall]
      simp only [WalletCall.Step, Database.appendTransferEntries, bind_eq_ok, refuseIf_eq_ok,
        mapError_eq_ok]
      refine ⟨(), hpos, (), hne, currency, hcurrency, ?_⟩
      rw [if_neg (by simp [hnew])]
      simp only [bind_eq_ok, refuseIf_eq_ok, ofOption_eq_ok]
      refine ⟨source, hsourceID ▸ h.view.wallet _ hsourceMem, target,
        htargetID ▸ h.view.wallet _ htargetMem, (), hsame, ?_⟩
      rw [hinsert]
      simp only
      rw [hinsert']
    · rw [hcall]
      simp [WalletCall.Replied, Database.transferProcessed, debitEntry,
        transferEntry]
  · simp only [↓reduceIte]
    refine .commit_unit (fun db h => ?_) (fun db h => ?_) (hany _)
    · rw [hcall]
      have hprocessed := h.view.processed _ List.mem_cons_self
      simp only [WalletCall.Step, Database.appendTransferEntries, bind_eq_ok, refuseIf_eq_ok,
        mapError_eq_ok]
      refine ⟨(), hpos, (), hne, currency, hcurrency, ?_⟩
      rw [if_pos hprocessed]
    · rw [hcall]
      exact h.view.processed _ List.mem_cons_self

variable {cmd : LedgerReserveCommand U} {currency : String}

theorem sameOrRefuse_pos {existing : LedgerReservation U}
    (h : sameReservationPayload existing cmd currency) :
    sameOrRefuse existing cmd currency = .ok existing := by
  simp [sameOrRefuse, h]

theorem sameOrRefuse_neg {existing : LedgerReservation U}
    (h : ¬ sameReservationPayload existing cmd currency) :
    sameOrRefuse existing cmd currency = .error .alreadyExists := by
  simp [sameOrRefuse, h]

omit [UuidLib U] in
/-- A reservation in a later form has the same payload. -/
theorem samePayload_later {r' : LedgerReservation U} (hlater : Database.Later r r')
    (hkey : r'.idempotencyKey = r.idempotencyKey) (hpayment : r'.paymentID = r.paymentID) :
    sameReservationPayload r' cmd currency ↔
      sameReservationPayload r cmd currency := by
  simp only [sameReservationPayload, hlater.fromWalletID, hlater.toWalletID,
    hlater.amountCents, hlater.currency, hkey, hpayment]

/-- The end of `ReserveTransfer`, if its insertion did not go through. -/
theorem settleReservation_error {env : TxEnv U} {v : View U} {writes : Database U → Database U}
    (hcall : s.call = .reserveTransfer cmd) (hany : ∀ result, s.Repeats result)
    (r : LedgerReservation U) (currency : String) (e : CallErr) :
    s.Inside env .reservation writes v (settleReservation r cmd currency (.error e)) := by
  unfold settleReservation
  split
  · contradiction
  · refine .rollback (.query (fun _ => rfl) fun existing => ?_)
    cases existing with
    | none => exact follows_fail fun db h => h.1.error (hany _)
    | some existing =>
      by_cases hsame : sameReservationPayload existing cmd currency
      · simp only [sameOrRefuse_pos hsame]
        refine follows_done fun db h => ⟨h.1.since, ?_, hany _⟩
        rintro _ ⟨rfl⟩
        show s.call.Replied db (.reservation existing)
        rw [hcall]
        exact ⟨existing, existing, rfl, h.2, .refl existing⟩
      · simp only [sameOrRefuse_neg hsame]
        exact follows_fail fun db h => h.1.error (hany _)
  · exact .fail (hany _)

theorem reserveTransfer_follows (hcall : s.call = .reserveTransfer cmd) :
    s.Outside .reservation (reserveTransfer cmd) := by
  -- what the arguments do not pass, and what was not reserved at the start, may end anyhow
  have hrefused : (∀ currency, ¬ cmd.Accepted currency) → ∀ result, s.Repeats result := by
    intro hnot result cmd' r currency hcmd _ haccepted
    cases hcall.symm.trans hcmd
    exact absurd haccepted (hnot currency)
  have habsent : s.start.reservation? cmd.paymentID = none → ∀ result, s.Repeats result := by
    intro hnone result cmd' r currency hcmd hstart _
    cases hcall.symm.trans hcmd
    cases hnone.symm.trans hstart
  unfold reserveTransfer
  refine .check (fun _ hnamed => ?_) fun e he => hrefused (fun _ h => ?_) _
  rotate_left
  · rw [Except.refuseIf_neg h.named] at he
    cases he
  refine .check (fun _ hpos => ?_) fun e he => hrefused (fun _ h => ?_) _
  rotate_left
  · rw [Except.refuseIf_neg (Int64.not_le.mpr h.positive)] at he
    cases he
  refine .check (fun _ hne => ?_) fun e he => hrefused (fun _ h => ?_) _
  rotate_left
  · rw [Except.refuseIf_neg h.distinct] at he
    cases he
  refine .check (fun currency hcurrency => ?_) fun e he => hrefused (fun _ h => ?_) _
  rotate_left
  · cases he.symm.trans h.currency
  simp only [refuseIf_eq_ok] at hnamed hpos hne
  refine .transaction hcall fun env _ => ?_
  refine .lockReservation (fun hstart => ?_) fun existing hpayment hlater => ?_
  · have hany := habsent hstart
    refine .lockWallets fun rows wallets hrows => ?_
    refine .check (fun source hsource => ?_) fun _ _ => hany _
    refine .check (fun target htarget => ?_) fun _ _ => hany _
    refine .check (fun _ hsame => ?_) fun _ _ => hany _
    simp only [refuseIf_eq_ok, ofOption_eq_ok] at hsource htarget hsame
    obtain ⟨hsourceMem, hsourceID⟩ := hrows _ _ hsource
    obtain ⟨htargetMem, htargetID⟩ := hrows _ _ htarget
    refine .insertReservation (fun _ _ h => h) (fun hchecked => ?_)
      (settleReservation_error hcall hany _ currency)
    have hfree : ∀ db, s.Sees { wallets := wallets, free := env.lockKeys ++
        (newReservation env cmd currency).indexKeys } db →
        ∀ key ∈ (newReservation env cmd currency).indexKeys, key ∉ db.indexKeys :=
      fun db h key hkey => h.view.free key (List.mem_append_right _ hkey)
    have hnew : ∀ db, s.Sees { wallets := wallets, free := env.lockKeys ++
        (newReservation env cmd currency).indexKeys } db →
        db.reservation? cmd.paymentID = none := by
      intro db h
      apply Database.reservation?_of_free
      exact hfree db h _ (by simp [LedgerReservation.indexKeys, newReservation])
    refine .commit (fun db h => ?_) (fun db h => ?_) (hany _)
    · have hinsert := Database.insertReservation_iff.mpr ⟨hchecked, hfree db h⟩
      rw [hcall]
      refine ⟨newReservation env cmd currency, ?_⟩
      simp only [Database.reserveTransfer, bind_eq_ok, refuseIf_eq_ok, mapError_eq_ok]
      refine ⟨(), hnamed, (), hpos, (), hne, currency, hcurrency, ?_⟩
      rw [hnew db h]
      simp only [bind_eq_ok, refuseIf_eq_ok, ofOption_eq_ok]
      refine ⟨source, hsourceID ▸ h.view.wallet _ hsourceMem, target,
        htargetID ▸ h.view.wallet _ htargetMem, (), hsame, ?_⟩
      rw [hinsert]
    · rw [hcall]
      exact ⟨_, _, rfl, Database.reservation?_append_of_none
        (r := newReservation env cmd currency) rfl (hnew db h), .refl _⟩
  · have hfound : ∀ db, s.Sees { reservations := [existing], free := env.lockKeys } db →
        db.reservation? cmd.paymentID = some existing :=
      fun db h => hpayment ▸ h.view.reservation existing List.mem_cons_self
    -- the payload is that of the reservation at the start
    have hpayload : ∀ r, s.start.reservation? cmd.paymentID = some r →
        (sameReservationPayload existing cmd currency ↔
          sameReservationPayload r cmd currency) := by
      intro r hr
      obtain ⟨hl, hkey⟩ := hlater r hr
      exact samePayload_later hl hkey (hpayment.trans (reservation?_some hr).2.symm)
    have hrepeats : ∀ result, (∀ r, s.start.reservation? cmd.paymentID = some r →
        cmd.Repeats r currency result) → s.Repeats result := by
      intro result h cmd' r currency' hcmd hr haccepted
      cases hcall.symm.trans hcmd
      cases hcurrency.symm.trans haccepted.currency
      exact .inr (h r hr)
    by_cases hsame : sameReservationPayload existing cmd currency
    · simp only [sameOrRefuse_pos hsame]
      refine .commit (fun db h => ?_) (fun db h => ?_) (hrepeats _ fun r hr => ?_)
      · rw [hcall]
        refine ⟨existing, ?_⟩
        simp only [Database.reserveTransfer, bind_eq_ok, refuseIf_eq_ok, mapError_eq_ok]
        refine ⟨(), hnamed, (), hpos, (), hne, currency, hcurrency, ?_⟩
        rw [hfound db h]
        simp [hsame]
      · rw [hcall]
        exact ⟨existing, existing, rfl, hfound db h, .refl existing⟩
      · rw [LedgerReserveCommand.Repeats, if_pos ((hpayload r hr).mp hsame)]
        exact ⟨existing, rfl, (hlater r hr).1⟩
    · simp only [sameOrRefuse_neg hsame]
      refine .check (fun _ h => by cases h) fun e he => hrepeats _ fun r hr => ?_
      cases he
      rw [LedgerReserveCommand.Repeats, if_neg (mt (hpayload r hr).mpr hsame)]

theorem confirmTransfer_follows {cmd : LedgerConfirmCommand U}
    (hcall : s.call = .confirmTransfer cmd) : s.Outside .confirmation (confirmTransfer cmd) := by
  have hany : ∀ result, s.Repeats result := repeats_of_ne fun cmd => by simp [hcall]
  have hreply : ∀ (db : Database U) (r : LedgerReservation U),
      db.reservation? cmd.paymentID = some r → r.status = .confirmed →
      s.call.Replied db (.confirmation (Database.ledgerConfirmationFromReservation r)) := by
    intro db r hr hs
    rw [hcall]
    exact ⟨r, rfl, hr, hs⟩
  unfold confirmTransfer
  refine .check (fun _ hnamed => ?_) fun _ _ => hany _
  refine .transaction hcall fun env hids => ?_
  refine .lockReservation (fun _ => ?_) fun r hpayment _ => ?_
  · exact .check (fun _ hnone => by cases hnone) fun _ _ => hany _
  refine .check (fun found hfound => ?_) fun _ _ => hany _
  cases hfound
  refine .check (fun _ hid => ?_) fun _ _ => hany _
  simp only [refuseIf_eq_ok] at hnamed hid
  have hstored : ∀ {v : View U} db, r ∈ v.reservations → s.Sees v db →
      db.reservation? cmd.paymentID = some r :=
    fun db hmem h => hpayment ▸ h.view.reservation r hmem
  split
  · rename_i hs
    refine .commit (fun db h => ?_) (fun db h => ?_) (hany _)
    · rw [hcall]
      refine ⟨Database.ledgerConfirmationFromReservation r, ?_⟩
      simp only [Database.confirmTransfer, bind_eq_ok, refuseIf_eq_ok, ofOption_eq_ok]
      refine ⟨(), hnamed, r, hstored db List.mem_cons_self h, (), hid, ?_⟩
      rw [hs]
    · exact hreply db r (hstored db List.mem_cons_self h) hs
  · exact .fail (hany _)
  · rename_i hs
    refine .lockWallets fun rows wallets hrows => ?_
    refine .check (fun source hsource => ?_) fun _ _ => hany _
    refine .check (fun target htarget => ?_) fun _ _ => hany _
    refine .check (fun _ hsame => ?_) fun _ _ => hany _
    simp only [refuseIf_eq_ok, ofOption_eq_ok] at hsource htarget hsame
    obtain ⟨hsourceMem, hsourceID⟩ := hrows _ _ hsource
    obtain ⟨htargetMem, htargetID⟩ := hrows _ _ htarget
    refine .insertTransfer (fun _ _ h => h) (fun hchecked => ?_) fun _ => hany _
    refine .of_attempt (.insertLedgerEntry (fun db => ?_) (fun hdebit => ?_)
      fun e _ _ => follows_fail fun _ h => h.1.error (hany _))
    · exact indexKeys_subset (fun _ h => h) (fun _ h => h)
        (List.subset_append_left _ _) fun _ h => h
    refine .of_attempt (.insertLedgerEntry (fun db => ?_) (fun hcredit => ?_)
      fun e _ _ => follows_fail fun _ h => h.1.error (hany _))
    · exact indexKeys_subset (fun _ h => h) (fun _ h => h)
        (List.subset_append_left _ _) (List.subset_append_left _ _)
    refine .updateReservation List.mem_cons_self (fun _ => rfl) ?_ fun _ => hany _
    refine .commit (fun db h => ?_) (fun db h => ?_) (hany _)
    · have hfree := h.view.free
      simp only [List.mem_append] at hfree
      have hinsert := insertTransfer_iff.mpr
        ⟨hchecked, fun key hkey => hfree key (.inl (.inl (.inr hkey)))⟩
      have hinsertDebit := insertLedgerEntry_iff.mpr ⟨hdebit,
        Database.entry_notMem_append_transfer
          (t := newTransfer env r.fromWalletID r.toWalletID r.amountCents)
          fun key hkey => hfree key (.inl (.inr hkey))⟩
      have hinsertCredit := Database.insertLedgerEntry_second
        (show (confirmEntry env env.debitEntryID .debit source r.amountCents).id ≠
          (confirmEntry env env.creditEntryID .credit target r.amountCents).id from hids)
        (by simp [confirmEntry]) hcredit
        (Database.entry_notMem_append_transfer
          (t := newTransfer env r.fromWalletID r.toWalletID r.amountCents)
          fun key hkey => hfree key (.inr hkey))
      have hmem := (reservation?_some (h.view.reservation r List.mem_cons_self)).1
      rw [hcall]
      refine ⟨Database.ledgerConfirmationFromReservation
        (Database.confirmReservation env env.transferID cmd.walletDebitID r), ?_⟩
      simp only [Database.confirmTransfer, bind_eq_ok, refuseIf_eq_ok, ofOption_eq_ok]
      refine ⟨(), hnamed, r, hstored db List.mem_cons_self h, (), hid, ?_⟩
      rw [hs]
      simp only [bind_eq_ok, refuseIf_eq_ok, ofOption_eq_ok, mapError_eq_ok]
      refine ⟨source, hsourceID ▸ h.view.wallet _ hsourceMem, target,
        htargetID ▸ h.view.wallet _ htargetMem, (), hsame, _, hinsert, _, hinsertDebit, _,
        hinsertCredit, ?_⟩
      rw [h.keyed.map_update hmem]
      rfl
    · have hc := Database.keepsPayload_confirmReservation env env.transferID cmd.walletDebitID
      exact hreply _ _ (h.keyed.reservation?_changed hc (hstored db List.mem_cons_self h) rfl) rfl

theorem cancelReservation_follows {cmd : LedgerCancelCommand U}
    (hcall : s.call = .cancelReservation cmd) :
    s.Outside .reservation (cancelReservation cmd) := by
  have hany : ∀ result, s.Repeats result := repeats_of_ne fun cmd => by simp [hcall]
  have hreply : ∀ (db : Database U) (r : LedgerReservation U),
      db.reservation? cmd.paymentID = some r → r.status = .canceled →
      s.call.Replied db (.reservation r) := by
    intro db r hr hs
    rw [hcall]
    exact ⟨r, rfl, hr, hs⟩
  unfold cancelReservation
  refine .check (fun _ hnamed => ?_) fun _ _ => hany _
  refine .transaction hcall fun env _ => ?_
  refine .lockReservation (fun _ => ?_) fun r hpayment _ => ?_
  · exact .check (fun _ hnone => by cases hnone) fun _ _ => hany _
  refine .check (fun found hfound => ?_) fun _ _ => hany _
  cases hfound
  refine .check (fun _ hid => ?_) fun _ _ => hany _
  simp only [refuseIf_eq_ok] at hnamed hid
  have hstored : ∀ db, s.Sees { reservations := [r], free := env.lockKeys } db →
      db.reservation? cmd.paymentID = some r :=
    fun db h => hpayment ▸ h.view.reservation r List.mem_cons_self
  split
  · rename_i hs
    refine .commit (fun db h => ?_) (fun db h => hreply db r (hstored db h) hs) (hany _)
    rw [hcall]
    refine ⟨r, ?_⟩
    simp only [Database.cancelReservation, bind_eq_ok, refuseIf_eq_ok, ofOption_eq_ok]
    refine ⟨(), hnamed, r, hstored db h, (), hid, ?_⟩
    rw [hs]
  · exact .fail (hany _)
  · rename_i hs
    refine .updateReservation List.mem_cons_self (fun _ => rfl) ?_ fun _ => hany _
    refine .commit (fun db h => ?_) (fun db h => ?_) (hany _)
    · have hmem := (reservation?_some (h.view.reservation r List.mem_cons_self)).1
      rw [hcall]
      refine ⟨Database.cancelChange env cmd.reason r, ?_⟩
      simp only [Database.cancelReservation, bind_eq_ok, refuseIf_eq_ok, ofOption_eq_ok]
      refine ⟨(), hnamed, r, hstored db h, (), hid, ?_⟩
      rw [hs, h.keyed.map_update hmem]
      rfl
    · have hc := Database.keepsPayload_cancelChange env cmd.reason
      exact hreply _ _ (h.keyed.reservation?_changed hc (hstored db h) rfl) rfl

/-! ## Serving calls -/

/-- A call that follows the protocol, and its answer. -/
theorem respond_follows {reply : α → WalletReply U} {p : WalletProg U α}
    (h : s.Outside reply p) :
    s.protocol.discipline.Follows (fun _ _ => True) (respond s.start s.call reply p)
      { facts := s.Sees {} } :=
  Protocol.follows_answer h.follows

theorem serve_follows {outboxTopic : String} {decoders : Decoders Payload}
    {req : WalletCall U → Prop} (hreq : req call) :
    (walletProtocol outboxTopic decoders req).discipline.Follows (fun _ _ => True)
      (serve outboxTopic decoders call) nothing := by
  unfold serve
  rw [query, Prog.perform_bind]
  refine .call (.query rfl) (fun start _ => ?_) fun _ => trivial
  -- the session of the call, or of the one a record leads to
  have hsession : ∀ s : Session U, s.start = start → s.outboxTopic = outboxTopic →
      s.decoders = decoders → s.req = req → ∀ {p : WalletProg U Unit},
      s.protocol.discipline.Follows (fun _ _ => True) p { facts := s.Sees {} } →
      (walletProtocol outboxTopic decoders req).discipline.Follows (fun _ _ => True) p
        ((walletProtocol outboxTopic decoders req).afterQuery nothing .snapshot
          (.ok start)) := by
    rintro s rfl rfl rfl rfl p h
    refine follows_weaken ?_ h
    rintro db ⟨hnow, hrun⟩
    obtain rfl : db = s.start := Except.ok.inj (hrun.resolve_left (by simp))
    exact ⟨hnow.valid, .refl _, .nil _⟩
  have hcall : ∀ {α : Type} (call : WalletCall U) (hcall : call.Requested decoders req start)
      {reply : α → WalletReply U} {p : WalletProg U α},
      (⟨outboxTopic, decoders, req, start, call, hcall⟩ : Session U).Outside reply p →
      (walletProtocol outboxTopic decoders req).discipline.Follows (fun _ _ => True)
        (respond start call reply p)
        ((walletProtocol outboxTopic decoders req).afterQuery nothing .snapshot
          (.ok start)) :=
    fun call hcall _ _ h =>
      hsession ⟨outboxTopic, decoders, req, start, call, hcall⟩ rfl rfl rfl rfl (respond_follows h)
  cases call with
  | createTransfer => exact hcall _ (.inl hreq) (createTransfer_follows rfl)
  | debitForSaga => exact hcall _ (.inl hreq) (debitForSaga_follows rfl)
  | compensateDebit => exact hcall _ (.inl hreq) (compensateDebit_follows rfl)
  | reserveTransfer => exact hcall _ (.inl hreq) (reserveTransfer_follows rfl)
  | confirmTransfer => exact hcall _ (.inl hreq) (confirmTransfer_follows rfl)
  | cancelReservation => exact hcall _ (.inl hreq) (cancelReservation_follows rfl)
  | appendTransferEntries => exact hcall _ (.inl hreq) (appendTransferEntries_follows rfl)
  | handleRecord offset =>
    show Discipline.Follows _ _ (handleEvent decoders start start.outbox[offset]?) _
    cases hrecord : start.outbox[offset]? with
    | none => exact .done trivial
    | some record =>
      unfold handleEvent
      simp only
      split
      · exact .done trivial
      · rename_i transfer hdecode
        have hmem := List.mem_of_getElem? hrecord
        exact hcall _ (.inr ⟨offset, transfer, hreq, rfl, record, hmem, hdecode⟩)
          (appendTransferEntries_follows rfl)

end Repo

/-! ## Runs -/

section Runs

variable {P : Type} [DecidableEq P] (outboxTopic : String) (decoders : Decoders Payload)
  {req : WalletCall U → Prop} {db : Database U} (acts acts' : List (WalletAct P U))

/-- Every run is serial: the committed tables are what the atomic functions make of the initial
    ones, in the order of the commits, and every answer holds. -/
theorem walletRun_serial (hkeyed : db.Keyed)
    (hreq : ∀ p call, .deliver p call ∈ acts → req call) :
    (walletProtocol outboxTopic decoders req).Inv db
      (walletRun outboxTopic decoders db acts).world :=
  Protocol.run_serial (fun _ h => Repo.serve_follows h) hkeyed hreq

/-- Along a run rows are only added, and reservations only confirmed or canceled. -/
theorem walletRun_extends (hkeyed : db.Keyed)
    (hreq : ∀ p call, .deliver p call ∈ acts ++ acts' → req call) :
    (walletRun outboxTopic decoders db acts).world.committed.Extends
      (walletRun outboxTopic decoders db (acts ++ acts')).world.committed :=
  Protocol.run_evolves (I := walletProtocol outboxTopic decoders req)
    (fun _ h => Repo.serve_follows h) hkeyed hreq

end Runs

end EnjoyThings
