import EnjoyThings.Spec.SagaInvariant

/-!
# Handlers that run one at a time

When nothing comes between the calls of a handler, the copies it works with are the
stored rows (`Current`). What holds of every move made with current copies then
holds of every handler (`limit_sound`).
-/

namespace EnjoyThings

open Effect Orchestrator

variable {U : Type} [UuidLib U] {w w' : World U} {s : Saga} {c : Choice U}

/-- The copies a handler has are the stored rows. The row it works on is not among those it has
    still to work on. -/
structure Current (k : Knowledge) (_ : Seen) (w : World U) : Prop where
  fact : ∀ f ∈ k.fact, w.saga? f.saga.paymentID = some f.saga ∧
    f.saga.paymentID ∉ k.listed.map (·.paymentID)
  listed : ∀ s ∈ k.listed, w.saga? s.paymentID = some s
  distinct : (k.listed.map (·.paymentID)).Nodup

namespace Current

variable {seen : Seen}

omit [UuidLib U] in
theorem nothing {l : List Saga} (hl : ∀ s ∈ l, w.saga? s.paymentID = some s)
    (hd : (l.map (·.paymentID)).Nodup) : Current ⟨none, l⟩ seen w :=
  ⟨fun f hf => absurd hf (Option.not_mem_none f), hl, hd⟩

omit [UuidLib U] in
theorem fresh : Current ⟨none, []⟩ seen w :=
  nothing (List.forall_mem_nil _) List.nodup_nil

omit [UuidLib U] in
theorem one (hs : w.saga? s.paymentID = some s) : Current ⟨some (.row s), []⟩ seen w := by
  refine ⟨fun f hf => ?_, List.forall_mem_nil _, List.nodup_nil⟩
  cases hf
  exact ⟨hs, List.not_mem_nil⟩

omit [UuidLib U] in
theorem mono {k l : Knowledge} (hle : k.le l) (hk : Current k seen w) : Current l seen w := by
  induction hle with
  | refl => exact hk
  | trans _ _ ih ih' => exact ih' (ih hk)
  | forget f l => exact nothing hk.listed hk.distinct
  | drop f l =>
    exact ⟨fun g hg => ⟨(hk.fact g hg).1, List.not_mem_nil⟩, List.forall_mem_nil _,
      List.nodup_nil⟩
  | take s l =>
    obtain ⟨hs, hl⟩ := List.forall_mem_cons.mp hk.listed
    obtain ⟨hnew, hdistinct⟩ := List.nodup_cons.mp hk.distinct
    refine ⟨fun f hf => ?_, hl, hdistinct⟩
    cases hf
    exact ⟨hs, hnew⟩

end Current

/-! ## Moves on current copies -/

variable {f : Option Fact} {o : SagaOp} {lesson : Except SagaErr o.Ret → Option Fact}

/-- An error teaches nothing new about the row, and not after a write. -/
theorem FactMove.lesson_error_row (hm : FactMove f o lesson) {e : SagaErr} {g : Fact}
    (hg : g ∈ lesson (.error e)) : o.row? = none ∧ ∃ g' ∈ f, g.saga = g'.saga := by
  cases hm with
  | now | audit => exact ⟨rfl, g, hg, rfl⟩
  | verify hs =>
    refine ⟨rfl, ?_⟩
    cases e with
    | verificationNotFound =>
      cases hg
      exact ⟨_, rfl, rfl⟩
    | _ => cases hg
  | _ => cases hg

/-- After an answer the copy is the stored row, if it was before. -/
theorem FactMove.lesson_current {a : o.Ret} (hm : FactMove f o lesson) (hk : w.Keyed)
    (hf : ∀ g ∈ f, w.saga? g.saga.paymentID = some g.saga) (h : o.run c w = (.ok a, w')) {g : Fact}
    (hg : g ∈ lesson (.ok a)) :
    w'.saga? g.saga.paymentID = some g.saga ∧ ∃ g' ∈ f, g.saga.paymentID = g'.saga.paymentID := by
  cases hm with
  | now | audit => exact ⟨run_saga? rfl h (hf g hg), g, hg, rfl⟩
  | verify hs =>
    cases hg
    refine ⟨?_, _, rfl, ?_⟩
    · split <;> exact run_saga? rfl h (hf (.row _) rfl)
    · split <;> rfl
  | debit hs | reserve hs | confirm hs _ | announce hs _ _ _ | cancel hs _ _ | compensate hs _ _ =>
    cases hg
    exact ⟨run_saga? rfl h (hf (.row _) rfl), _, rfl, rfl⟩
  | announceFailed _ _ _ _ => cases hg
  | _ =>
    have hwrote := World.write_wrote (commit_eq_ok.mp h)
    cases hg
    exact ⟨(hwrote.grows hk).1.saga?_of_mem hwrote.mem, _, rfl, hwrote.written.paymentID_eq⟩

/-- A move leaves the rows the handler has still to work on alone. -/
theorem FactMove.listed_current {a : o.Ret} (hm : FactMove f o lesson) (h : o.run c w = (.ok a, w'))
    (hs : w.saga? s.paymentID = some s) (hne : ∀ g ∈ f, g.saga.paymentID ≠ s.paymentID) :
    w'.saga? s.paymentID = some s := by
  rcases run_row h hs with hs | ⟨s', hs', hp, -⟩
  · exact hs
  · obtain ⟨g, hg, hw⟩ := hm.rewrites hs'
    exact absurd (hw.paymentID.symm.trans hp) (hne g hg)

/-- What a handler knows after a call. -/
theorem Move.current {admits : StartRequest → Prop} {k : Knowledge}
    {learn : Except SagaErr o.Ret → Knowledge} (hm : Move admits k o learn) (hk : w.Keyed)
    {seen : Seen} (hcur : Current k seen w) (seen' : Seen) {r : Except SagaErr o.Ret × World U}
    (hr : Outcome c o w r) : Current (learn r.1) seen' r.2 := by
  cases hm with
  | @fact f _ lesson hm listed =>
    have hnew : ∀ s ∈ listed, ∀ g ∈ f, g.saga.paymentID ≠ s.paymentID := fun s hs g hg he =>
      (hcur.fact g hg).2 (he ▸ List.mem_map_of_mem hs)
    rcases hr with ⟨e, rfl⟩ | ⟨a, w', hrun, rfl | ⟨e, rfl⟩⟩
    · refine ⟨fun g hg => ?_, hcur.listed, hcur.distinct⟩
      obtain ⟨-, g', hg', he⟩ := hm.lesson_error_row hg
      rw [he]
      exact hcur.fact g' hg'
    · refine ⟨fun g hg => ?_, fun s hs => ?_, hcur.distinct⟩
      · obtain ⟨hrow, g', hg', he⟩ := hm.lesson_current hk (fun g hg => (hcur.fact g hg).1) hrun hg
        exact ⟨hrow, he ▸ (hcur.fact g' hg').2⟩
      · exact hm.listed_current hrun (hcur.listed s hs) (hnew s hs)
    · -- the answer is lost: what is still known was not written
      refine ⟨fun g hg => ?_, fun s hs => ?_, hcur.distinct⟩
      · obtain ⟨hquiet, g', hg', he⟩ := hm.lesson_error_row hg
        rw [he]
        exact ⟨run_saga? hquiet hrun (hcur.fact g' hg').1, (hcur.fact g' hg').2⟩
      · exact hm.listed_current hrun (hcur.listed s hs) (hnew s hs)
  | get paymentID =>
    rcases hr with ⟨e, rfl⟩ | ⟨a, w', hrun, rfl | ⟨e, rfl⟩⟩
    · exact .fresh
    · obtain ⟨hs, rfl⟩ := Prod.mk.inj hrun
      have hrow := World.getByPaymentID_eq_ok.mp hs
      have hp := (World.saga?_some hrow).2
      exact .one (hp.symm ▸ hrow)
    · exact .fresh
  | create req t h =>
    rcases hr with ⟨e, rfl⟩ | ⟨a, w', hrun, rfl | ⟨e, rfl⟩⟩
    · exact .fresh
    · have hmem : a ∈ w'.sagas := by
        rcases World.create_ok (commit_eq_ok.mp hrun) with ⟨hs, -, rfl⟩ | ⟨rfl, -, rfl⟩
        · exact hs
        · exact List.mem_concat_self
      exact .one ((run_grows hk hrun).1.saga?_of_mem hmem)
    · exact .fresh
  | list =>
    rcases hr with ⟨e, rfl⟩ | ⟨a, w', hrun, rfl | ⟨e, rfl⟩⟩
    · exact .fresh
    · cases hrun
      exact .nothing (fun s hs => hk.saga?_of_mem (World.mem_listNonTerminal.mp hs).1)
        (World.listNonTerminal_nodup hk.sagas)
    · exact .fresh

/-! ## One at a time -/

/-- The contract of a handler that runs alone. -/
abbrev serialContract (inv : World U → Prop) (guar : World U → World U → Prop) :
    Contract (sagaMachine U) :=
  .undisturbed (fun _ _ _ _ => True) inv guar

variable {guar : World U → World U → Prop}

/-- If every call with `R` on current copies keeps to `guar`, so does every handler that makes
    only such calls. -/
theorem limit_sound {admits : StartRequest → Prop} {R : Knowledge → SagaOp → Prop}
    (hrefl : ∀ w, guar w w)
    (hmove : ∀ {k o learn seen c a w w'}, Move admits k o learn → R k o → w.Keyed →
      Current k seen w → o.run c w = (.ok a, w') → guar w w') :
    ((sagaDiscipline admits).limit R).Sound (serialContract World.Keyed guar) Current where
  mono := Current.mono
  stable hk hw _ := hw ▸ hk
  answers := exec_answer
  step {k o learn seen w c} hm hi hk _ := by
    have hguar : guar w (o.exec c w).2 :=
      exec_world (hrefl w) fun _ _ hrun => hmove hm.1 hm.2 hi hk hrun
    exact ⟨exec_keyed hi, hguar, hm.1.current hi hk _ (exec_outcome c o w)⟩

/-- What a program does up to where it stops. -/
theorem follows_serial {α : Type} {p : SagaProg α} {R : Knowledge → SagaOp → Prop}
    (hp : ((sagaDiscipline fun _ => True).limit R).Follows Ends p ⟨none, []⟩)
    (hrefl : ∀ w, guar w w) (htrans : ∀ {u v w}, guar u v → guar v w → guar u w)
    (hmove : ∀ {k o learn seen c a w w'}, Move (fun _ => True) k o learn → R k o → w.Keyed →
      Current k seen w → o.run c w = (.ok a, w') → guar w w')
    (hk : w.Keyed) (cs : List (Choice U)) :
    (p.runFor (sagaMachine U) cs w).Keyed ∧ guar w (p.runFor (sagaMachine U) cs w) := by
  have hsafe : (serialContract World.Keyed guar).Safe p [] w :=
    (hp.holds (limit_sound hrefl hmove) Current.fresh).safe
  have hcs : ∀ c ∈ [] ++ cs, (serialContract World.Keyed guar).Permitted c :=
    fun _ _ _ _ _ => trivial
  have hguar := hsafe.runFor_guar hrefl htrans hk [] hcs
  rw [Prog.runFor_nil] at hguar
  exact ⟨hsafe.runFor hk hcs, hguar⟩

/-- The same for a handler that makes only calls with `P`. -/
theorem handler_serial {q : SagaRequest} {P : SagaOp → Prop} (hq : q.handler.Only P)
    (hrefl : ∀ w, guar w w) (htrans : ∀ {u v w}, guar u v → guar v w → guar u w)
    (hmove : ∀ {k o learn seen c a w w'}, Move (fun _ => True) k o learn → P o → w.Keyed →
      Current k seen w → o.run c w = (.ok a, w') → guar w w')
    (hk : w.Keyed) (cs : List (Choice U)) :
    (q.handler.runFor (sagaMachine U) cs w).Keyed ∧
      guar w (q.handler.runFor (sagaMachine U) cs w) :=
  follows_serial ((handler_follows q fun _ _ => trivial).limit hq fun _ _ h => h) hrefl htrans
    hmove hk cs

/-- A handler keeps the keys of the tables, wherever it stops. -/
theorem handler_keyed (q : SagaRequest) (hk : w.Keyed) (cs : List (Choice U)) :
    (q.handler.runFor (sagaMachine U) cs w).Keyed := by
  have hall : q.handler.Only fun _ => True := .of_forall (fun _ => trivial) _
  have hboth : _ ∧ True :=
    handler_serial hall (fun _ => trivial) (fun _ _ => trivial) (fun _ _ _ _ _ => trivial) hk cs
  exact hboth.1

end EnjoyThings
