import Mathlib.Algebra.Ring.Int.Defs
import EnjoyThings.ForStd.Discipline
import EnjoyThings.Services.Outbox

/-!
# The outbox neither loses nor invents events

Any number of publishers work on one outbox while transactions enqueue rows, and each of
them may fail or crash at any call. Two publishers can hold the same event, since a claim
locks its rows for its own statement only, so the invariant ties a mark to an event that
has been produced by whichever publisher: a publisher marks what it has itself produced,
and what has been produced stays so.

## Key results

- `OutboxWorld.Sound.txStep`: a transaction step keeps the invariant
- `publisherDiscipline_sound`: so does a publisher that marks only what it has produced
- `outbox_delivery`: in every state reached, marks, claims and produced events are as they
  should be
-/

namespace EnjoyThings

open Effect

/-- The same row, up to when it was claimed and published. -/
structure OutboxRow.Same (e r : OutboxRow) : Prop where
  id : e.id = r.id
  record : e.record = r.record
  createdAt : e.createdAt = r.createdAt
  tx : e.tx = r.tx

theorem OutboxRow.Same.refl (e : OutboxRow) : e.Same e := ⟨rfl, rfl, rfl, rfl⟩

theorem OutboxRow.Same.trans {a b c : OutboxRow} (h : a.Same b) (h' : b.Same c) : a.Same c :=
  ⟨h.id.trans h'.id, h.record.trans h'.record, h.createdAt.trans h'.createdAt, h.tx.trans h'.tx⟩

theorem OutboxRow.Same.symm {a b : OutboxRow} (h : a.Same b) : b.Same a :=
  ⟨h.id.symm, h.record.symm, h.createdAt.symm, h.tx.symm⟩

namespace OutboxWorld

variable {w w' : OutboxWorld} {e r : OutboxRow} {t : OpenTx} {tx : Nat}

/-- The event is a row whose transaction has committed. -/
def Committed (w : OutboxWorld) (e : OutboxRow) : Prop := ∃ r ∈ w.rows, e.Same r

/-- The event has been produced. -/
def Produced (w : OutboxWorld) (e : OutboxRow) : Prop := ∃ e' ∈ w.produced, e'.Same e

/-- No two rows have the same ID, committed or not. -/
structure Distinct (w : OutboxWorld) : Prop where
  rows : (w.rows.map (·.id)).Nodup
  opened : ∀ t ∈ w.opened, (t.rows.map (·.id)).Nodup
  apart : ∀ t ∈ w.opened, ∀ r ∈ t.rows, ∀ r' ∈ w.rows, r.id ≠ r'.id
  openedApart : ∀ t ∈ w.opened, ∀ t' ∈ w.opened, t.tx ≠ t'.tx →
    ∀ r ∈ t.rows, ∀ r' ∈ t'.rows, r.id ≠ r'.id

/-- A row knows its transaction, and no number is used twice. -/
structure Numbered (w : OutboxWorld) : Prop where
  rows : ∀ r ∈ w.rows, r.tx < w.nextTx ∧ r.tx ∉ w.rolledBack ∧ ∀ t ∈ w.opened, r.tx ≠ t.tx
  opened : ∀ t ∈ w.opened, t.tx < w.nextTx ∧ t.tx ∉ w.rolledBack
  inserted : ∀ t ∈ w.opened, ∀ r ∈ t.rows, r.tx = t.tx ∧ r.publishedAt = none
  rolledBack : ∀ n ∈ w.rolledBack, n < w.nextTx

/-- What holds in every state of the outbox. -/
structure Sound (w : OutboxWorld) : Prop where
  distinct : w.Distinct
  numbered : w.Numbered
  marked : ∀ r ∈ w.rows, r.publishedAt ≠ none → w.Produced r
  real : ∀ e ∈ w.produced, w.Committed e

/-- No committed row and no produced event goes away. -/
structure Grows (w w' : OutboxWorld) : Prop where
  committed : ∀ e, w.Committed e → w'.Committed e
  produced : ∀ e ∈ w.produced, e ∈ w'.produced

theorem Grows.refl (w : OutboxWorld) : w.Grows w := ⟨fun _ h => h, fun _ h => h⟩

theorem Grows.trans {u v w : OutboxWorld} (h : u.Grows v) (h' : v.Grows w) : u.Grows w :=
  ⟨fun e he => h'.committed e (h.committed e he), fun e he => h'.produced e (h.produced e he)⟩

theorem Committed.mono (h : w.Committed e) (hrows : ∀ r ∈ w.rows, r ∈ w'.rows) :
    w'.Committed e := by
  obtain ⟨r, hr, hsame⟩ := h
  exact ⟨r, hrows r hr, hsame⟩

/-- Two committed rows with one ID are one row. -/
theorem Distinct.eq_of_id (h : w.Distinct) {r' : OutboxRow} (hr : r ∈ w.rows) (hr' : r' ∈ w.rows)
    (hid : r.id = r'.id) : r = r' :=
  List.inj_on_of_nodup_map h.rows hr hr' hid

theorem sound_empty : ({} : OutboxWorld).Sound where
  distinct := ⟨List.nodup_nil, by simp, by simp, by simp⟩
  numbered := ⟨by simp, by simp, by simp, by simp⟩
  marked := by simp
  real := by simp

/-! ## Transaction steps -/

theorem tx?_some (h : w.tx? tx = some t) : t ∈ w.opened ∧ t.tx = tx :=
  ⟨List.mem_of_find?_eq_some h, by simpa using List.find?_some h⟩

theorem mem_without : t ∈ w.without tx ↔ t ∈ w.opened ∧ t.tx ≠ tx := by
  simp [without]

/-- A step that keeps the committed rows and the produced events keeps what ties them. -/
theorem Sound.of_same (h : w.Sound) (hrows : w'.rows = w.rows)
    (hproduced : w'.produced = w.produced) (hdistinct : w'.Distinct) (hnumbered : w'.Numbered) :
    w'.Sound ∧ w.Grows w' := by
  refine ⟨⟨hdistinct, hnumbered, ?_, ?_⟩, ⟨?_, ?_⟩⟩
  · intro r hr hpublished
    unfold Produced
    rw [hproduced]
    exact h.marked r (hrows ▸ hr) hpublished
  · intro e he
    exact (h.real e (hproduced ▸ he)).mono fun r hr => hrows ▸ hr
  · intro e he
    exact he.mono fun r hr => hrows ▸ hr
  · intro e he
    exact hproduced ▸ he

theorem Sound.start (h : w.Sound) (time : Time) :
    (w.txStep (.start time)).Sound ∧ w.Grows (w.txStep (.start time)) := by
  -- the new transaction has no rows, and a number that nobody has had
  have hopened : ∀ t ∈ (w.txStep (.start time)).opened,
      t ∈ w.opened ∨ t = { tx := w.nextTx, start := time } := by
    intro t ht
    simpa [txStep] using ht
  refine h.of_same rfl rfl ?_ ?_
  · refine ⟨h.distinct.rows, ?_, ?_, ?_⟩
    · intro t ht
      rcases hopened t ht with ht | rfl
      · exact h.distinct.opened t ht
      · exact List.nodup_nil
    · intro t ht r hr
      rcases hopened t ht with ht | rfl
      · exact h.distinct.apart t ht r hr
      · cases hr
    · intro t ht t' ht' hne r hr r' hr'
      rcases hopened t ht with ht | rfl
      · rcases hopened t' ht' with ht' | rfl
        · exact h.distinct.openedApart t ht t' ht' hne r hr r' hr'
        · cases hr'
      · cases hr
  · refine ⟨?_, ?_, ?_, ?_⟩
    · intro r hr
      obtain ⟨hlt, hback, hopen⟩ := h.numbered.rows r hr
      refine ⟨Nat.lt_succ_of_lt hlt, hback, fun t ht => ?_⟩
      rcases hopened t ht with ht | rfl
      · exact hopen t ht
      · exact Nat.ne_of_lt hlt
    · intro t ht
      rcases hopened t ht with ht | rfl
      · obtain ⟨hlt, hback⟩ := h.numbered.opened t ht
        exact ⟨Nat.lt_succ_of_lt hlt, hback⟩
      · exact ⟨Nat.lt_succ_self _, fun hback => Nat.lt_irrefl _ (h.numbered.rolledBack _ hback)⟩
    · intro t ht r hr
      rcases hopened t ht with ht | rfl
      · exact h.numbered.inserted t ht r hr
      · cases hr
    · intro n hn
      exact Nat.lt_succ_of_lt (h.numbered.rolledBack n hn)

theorem Sound.rollback (h : w.Sound) (ht : t ∈ w.opened) :
    (w.rollback t.tx).Sound ∧ w.Grows (w.rollback t.tx) := by
  have hopened : ∀ o ∈ (w.rollback t.tx).opened, o ∈ w.opened ∧ o.tx ≠ t.tx :=
    fun o ho => mem_without.mp ho
  have hback : ∀ n, n ∈ (w.rollback t.tx).rolledBack ↔ n ∈ w.rolledBack ∨ n = t.tx := by
    intro n
    simp [OutboxWorld.rollback]
  refine h.of_same rfl rfl ?_ ?_
  · refine ⟨h.distinct.rows, ?_, ?_, ?_⟩
    · exact fun o ho => h.distinct.opened o (hopened o ho).1
    · exact fun o ho => h.distinct.apart o (hopened o ho).1
    · exact fun o ho o' ho' => h.distinct.openedApart o (hopened o ho).1 o' (hopened o' ho').1
  · refine ⟨?_, ?_, ?_, ?_⟩
    · intro r hr
      obtain ⟨hlt, hnot, hopen⟩ := h.numbered.rows r hr
      refine ⟨hlt, fun hmem => ?_, fun o ho => hopen o (hopened o ho).1⟩
      rcases (hback r.tx).mp hmem with hmem | heq
      · exact hnot hmem
      · exact hopen t ht heq
    · intro o ho
      obtain ⟨hmem, hne⟩ := hopened o ho
      obtain ⟨hlt, hnot⟩ := h.numbered.opened o hmem
      refine ⟨hlt, fun hmem' => ?_⟩
      rcases (hback o.tx).mp hmem' with hmem' | heq
      · exact hnot hmem'
      · exact hne heq
    · exact fun o ho => h.numbered.inserted o (hopened o ho).1
    · intro n hn
      rcases (hback n).mp hn with hn | rfl
      · exact h.numbered.rolledBack n hn
      · exact (h.numbered.opened t ht).1

/-- The open transactions after an insert: the rows of one have a new row at the end. -/
theorem mem_inserted {id : Nat} {record : OutboxRecord} {o : OpenTx}
    (ho : o ∈ w.opened.map fun o =>
      if o.tx = t.tx then { o with rows := o.rows ++ [newRow t id record] } else o) :
    ∃ o₀ ∈ w.opened, o.tx = o₀.tx ∧
      ∀ r ∈ o.rows, r ∈ o₀.rows ∨ o.tx = t.tx ∧ r = newRow t id record := by
  obtain ⟨o₀, ho₀, rfl⟩ := List.mem_map.mp ho
  refine ⟨o₀, ho₀, ?_, fun r hr => ?_⟩
  · split <;> rfl
  · by_cases htx : o₀.tx = t.tx
    · rw [if_pos htx] at hr ⊢
      rcases List.mem_append.mp hr with hr | hr
      · exact .inl hr
      · exact .inr ⟨htx, List.mem_singleton.mp hr⟩
    · rw [if_neg htx] at hr
      exact .inl hr

theorem Sound.insert (h : w.Sound) (ht : t ∈ w.opened) (id : Nat) (record : OutboxRecord) :
    (w.insert t id record).Sound ∧ w.Grows (w.insert t id record) := by
  unfold OutboxWorld.insert
  split
  · exact h.rollback ht
  split
  · exact ⟨h, .refl w⟩
  rename_i hrows hopen
  have hnew : ∀ r ∈ w.rows, id ≠ r.id := by
    intro r hr heq
    exact hrows (List.any_eq_true.mpr ⟨r, hr, decide_eq_true heq.symm⟩)
  have hnewOpen : ∀ o ∈ w.opened, ∀ r ∈ o.rows, id ≠ r.id := by
    intro o ho r hr heq
    refine hopen (List.any_eq_true.mpr ⟨o, ho, ?_⟩)
    exact List.any_eq_true.mpr ⟨r, hr, decide_eq_true heq.symm⟩
  refine h.of_same rfl rfl ⟨h.distinct.rows, ?_, ?_, ?_⟩ ⟨?_, ?_, ?_, h.numbered.rolledBack⟩
  · intro o ho
    obtain ⟨o₀, ho₀, rfl⟩ := List.mem_map.mp ho
    by_cases htx : o₀.tx = t.tx
    · rw [if_pos htx, List.map_append]
      refine List.nodup_append.mpr ⟨h.distinct.opened o₀ ho₀, List.nodup_singleton _, ?_⟩
      intro a ha b hb
      obtain ⟨r, hr, rfl⟩ := List.mem_map.mp ha
      obtain rfl : b = id := List.mem_singleton.mp hb
      exact (hnewOpen o₀ ho₀ r hr).symm
    · rw [if_neg htx]
      exact h.distinct.opened o₀ ho₀
  · intro o ho r hr
    obtain ⟨o₀, ho₀, -, hold⟩ := mem_inserted ho
    rcases hold r hr with hr | ⟨-, rfl⟩
    · exact h.distinct.apart o₀ ho₀ r hr
    · exact hnew
  · intro o ho o' ho' hne r hr r' hr'
    obtain ⟨o₀, ho₀, htx, hold⟩ := mem_inserted ho
    obtain ⟨o₁, ho₁, htx', hold'⟩ := mem_inserted ho'
    rcases hold r hr with hr | ⟨hot, rfl⟩
    · rcases hold' r' hr' with hr' | ⟨-, rfl⟩
      · exact h.distinct.openedApart o₀ ho₀ o₁ ho₁ (htx ▸ htx' ▸ hne) r hr r' hr'
      · exact (hnewOpen o₀ ho₀ r hr).symm
    · rcases hold' r' hr' with hr' | ⟨hot', -⟩
      · exact hnewOpen o₁ ho₁ r' hr'
      · exact absurd (hot.trans hot'.symm) hne
  · intro r hr
    obtain ⟨hlt, hnot, hapart⟩ := h.numbered.rows r hr
    refine ⟨hlt, hnot, fun o ho => ?_⟩
    obtain ⟨o₀, ho₀, htx, -⟩ := mem_inserted ho
    exact htx ▸ hapart o₀ ho₀
  · intro o ho
    obtain ⟨o₀, ho₀, htx, -⟩ := mem_inserted ho
    exact htx ▸ h.numbered.opened o₀ ho₀
  · intro o ho r hr
    obtain ⟨o₀, ho₀, htx, hold⟩ := mem_inserted ho
    rcases hold r hr with hr | ⟨hot, rfl⟩
    · exact htx ▸ h.numbered.inserted o₀ ho₀ r hr
    · exact ⟨hot.symm, rfl⟩

theorem Sound.commit (h : w.Sound) (ht : t ∈ w.opened) :
    ({ w with rows := w.rows ++ t.rows, opened := w.without t.tx } : OutboxWorld).Sound ∧
      w.Grows { w with rows := w.rows ++ t.rows, opened := w.without t.tx } := by
  have hkept : ∀ {e}, w.Committed e →
      OutboxWorld.Committed { w with rows := w.rows ++ t.rows, opened := w.without t.tx } e :=
    fun he => he.mono fun r hr => List.mem_append_left _ hr
  refine ⟨⟨⟨?_, ?_, ?_, ?_⟩, ⟨?_, ?_, ?_, h.numbered.rolledBack⟩, ?_, ?_⟩, ⟨fun e he => hkept he,
    fun e he => he⟩⟩
  · rw [List.map_append]
    refine List.nodup_append.mpr ⟨h.distinct.rows, h.distinct.opened t ht, ?_⟩
    intro a ha b hb
    obtain ⟨r, hr, rfl⟩ := List.mem_map.mp ha
    obtain ⟨r', hr', rfl⟩ := List.mem_map.mp hb
    exact (h.distinct.apart t ht r' hr' r hr).symm
  · exact fun o ho => h.distinct.opened o (mem_without.mp ho).1
  · intro o ho r hr r' hr'
    obtain ⟨ho, hne⟩ := mem_without.mp ho
    rcases List.mem_append.mp hr' with hr' | hr'
    · exact h.distinct.apart o ho r hr r' hr'
    · exact h.distinct.openedApart o ho t ht hne r hr r' hr'
  · exact fun o ho o' ho' =>
      h.distinct.openedApart o (mem_without.mp ho).1 o' (mem_without.mp ho').1
  · intro r hr
    rcases List.mem_append.mp hr with hr | hr
    · obtain ⟨hlt, hnot, hapart⟩ := h.numbered.rows r hr
      exact ⟨hlt, hnot, fun o ho => hapart o (mem_without.mp ho).1⟩
    · -- a row of the transaction that commits now
      obtain ⟨htx, -⟩ := h.numbered.inserted t ht r hr
      obtain ⟨hlt, hnot⟩ := h.numbered.opened t ht
      rw [htx]
      exact ⟨hlt, hnot, fun o ho => (mem_without.mp ho).2.symm⟩
  · exact fun o ho => h.numbered.opened o (mem_without.mp ho).1
  · exact fun o ho => h.numbered.inserted o (mem_without.mp ho).1
  · intro r hr hpublished
    rcases List.mem_append.mp hr with hr | hr
    · exact h.marked r hr hpublished
    · exact absurd (h.numbered.inserted t ht r hr).2 hpublished
  · exact fun e he => hkept (h.real e he)

theorem Sound.txStep (h : w.Sound) (step : TxStep) :
    (w.txStep step).Sound ∧ w.Grows (w.txStep step) := by
  cases step with
  | start time => exact h.start time
  | insert tx id record =>
    cases htx : w.tx? tx with
    | none => simpa [OutboxWorld.txStep, htx] using ⟨h, .refl w⟩
    | some t => simpa [OutboxWorld.txStep, htx] using h.insert (tx?_some htx).1 id record
  | commit tx =>
    cases htx : w.tx? tx with
    | none => simpa [OutboxWorld.txStep, htx] using ⟨h, .refl w⟩
    | some t =>
      obtain ⟨ht, rfl⟩ := tx?_some htx
      simpa [OutboxWorld.txStep, htx] using h.commit ht
  | rollback tx =>
    cases htx : w.tx? tx with
    | none => simpa [OutboxWorld.txStep, htx] using ⟨h, .refl w⟩
    | some t =>
      obtain ⟨ht, rfl⟩ := tx?_some htx
      simpa [OutboxWorld.txStep, htx] using h.rollback ht

/-- Any steps of any transactions. -/
theorem Sound.txSteps (h : w.Sound) (steps : List TxStep) :
    (w.txSteps steps).Sound ∧ w.Grows (w.txSteps steps) := by
  induction steps generalizing w with
  | nil => exact ⟨h, .refl w⟩
  | cons step steps ih =>
    obtain ⟨hstep, hgrows⟩ := h.txStep step
    obtain ⟨hrest, hgrows'⟩ := ih hstep
    exact ⟨hrest, hgrows.trans hgrows'⟩

/-! ## The statements of a publisher -/

/-- A statement that changes when rows were claimed or published, and marks only rows whose
    event has been produced. -/
theorem Sound.mapRows (h : w.Sound) {f : OutboxRow → OutboxRow} (hf : ∀ r : OutboxRow, r.Same (f r))
    (hmarked : ∀ r ∈ w.rows, (f r).publishedAt ≠ none → w.Produced r) :
    ({ w with rows := w.rows.map f } : OutboxWorld).Sound ∧
      w.Grows { w with rows := w.rows.map f } := by
  have hids : (w.rows.map f).map (·.id) = w.rows.map (·.id) := by
    rw [List.map_map]
    exact List.map_congr_left fun r _ => (hf r).id.symm
  have hkept : ∀ {e}, w.Committed e →
      OutboxWorld.Committed { w with rows := w.rows.map f } e := by
    rintro e ⟨r, hr, hsame⟩
    exact ⟨f r, List.mem_map_of_mem hr, hsame.trans (hf r)⟩
  refine ⟨⟨⟨?_, h.distinct.opened, ?_, h.distinct.openedApart⟩, ⟨?_, h.numbered.opened,
    h.numbered.inserted, h.numbered.rolledBack⟩, ?_, fun e he => hkept (h.real e he)⟩,
    ⟨fun e he => hkept he, fun e he => he⟩⟩
  · show ((w.rows.map f).map (·.id)).Nodup
    rw [hids]
    exact h.distinct.rows
  · intro t ht r hr r' hr'
    obtain ⟨r₀, hr₀, rfl⟩ := List.mem_map.mp hr'
    rw [← (hf r₀).id]
    exact h.distinct.apart t ht r hr r₀ hr₀
  · intro r hr
    obtain ⟨r₀, hr₀, rfl⟩ := List.mem_map.mp hr
    rw [← (hf r₀).tx]
    exact h.numbered.rows r₀ hr₀
  · intro r hr hpublished
    obtain ⟨r₀, hr₀, rfl⟩ := List.mem_map.mp hr
    obtain ⟨e, he, hsame⟩ := hmarked r₀ hr₀ hpublished
    exact ⟨e, he, hsame.trans (hf r₀)⟩

theorem Sound.claimed (h : w.Sound) (ids : List Nat) (now : Time) :
    (w.claimed ids now).Sound ∧ w.Grows (w.claimed ids now) := by
  apply h.mapRows
  · intro r
    split <;> exact ⟨rfl, rfl, rfl, rfl⟩
  · intro r hr hpublished
    apply h.marked r hr
    split at hpublished <;> exact hpublished

/-- Marking is sound once the event has been produced, by whichever publisher. -/
theorem Sound.markPublished (h : w.Sound) (he : e ∈ w.produced) (now : Time) :
    (w.markPublished e.id now).Sound ∧ w.Grows (w.markPublished e.id now) := by
  apply h.mapRows
  · intro r
    split <;> exact ⟨rfl, rfl, rfl, rfl⟩
  · intro r hr hpublished
    by_cases hid : r.id = e.id
    · -- the row with the ID is the one the event was claimed from
      obtain ⟨r₀, hr₀, hsame⟩ := h.real e he
      obtain rfl := h.distinct.eq_of_id hr hr₀ (hid.trans hsame.id)
      exact ⟨e, he, hsame⟩
    · rw [if_neg hid] at hpublished
      exact h.marked r hr hpublished

theorem Sound.produce (h : w.Sound) (he : w.Committed e) :
    ({ w with produced := w.produced ++ [e] } : OutboxWorld).Sound ∧
      w.Grows { w with produced := w.produced ++ [e] } := by
  refine ⟨⟨⟨h.distinct.rows, h.distinct.opened, h.distinct.apart, h.distinct.openedApart⟩,
    ⟨h.numbered.rows, h.numbered.opened, h.numbered.inserted, h.numbered.rolledBack⟩, ?_, ?_⟩,
    ⟨fun _ h => h, fun _ h => List.mem_append_left _ h⟩⟩
  · intro r hr hpublished
    obtain ⟨e', he', hsame⟩ := h.marked r hr hpublished
    exact ⟨e', List.mem_append_left _ he', hsame⟩
  · intro e' he'
    rcases List.mem_append.mp he' with he' | he'
    · exact h.real e' he'
    · rw [List.mem_singleton.mp he']
      exact he

/-- The rows a claim can return: committed ones that are not published. -/
theorem mem_selected {skipped : List Nat} {limit : Nat} (hr : r ∈ w.selected skipped limit) :
    r ∈ w.rows ∧ r.publishedAt = none := by
  have hmem := List.mem_of_mem_take hr
  rw [List.mem_insertionSort, List.mem_filter] at hmem
  exact ⟨hmem.1, (of_decide_eq_true hmem.2).1⟩

end OutboxWorld

/-! ## What a publisher knows -/

/-- The events a publisher has claimed, and those it has produced. -/
structure Holding where
  claimed : List OutboxRow := []
  produced : List OutboxRow := []

namespace Holding

/-- An event is produced once it is claimed, and marked once it is produced. -/
def Move (k : Holding) : PublisherOp → Prop
  | .claim _ => True
  | .produce e => e ∈ k.claimed
  | .mark id => ∃ e ∈ k.produced, e.id = id

/-- What an answer teaches. -/
def learn (k : Holding) : (o : PublisherOp) → Except PublisherErr o.Ret → Holding
  | .claim _, .ok events => { k with claimed := events }
  | .produce e, .ok _ => { k with produced := e :: k.produced }
  | .mark _, .ok _ => k
  | _, .error _ => k

/-- What is known is so. -/
structure Holds (k : Holding) (w : OutboxWorld) : Prop where
  claimed : ∀ e ∈ k.claimed, w.Committed e
  produced : ∀ e ∈ k.produced, e ∈ w.produced

theorem Holds.grows {k : Holding} {w w' : OutboxWorld} (h : k.Holds w) (hg : w.Grows w') :
    k.Holds w' :=
  ⟨fun e he => hg.committed e (h.claimed e he), fun e he => hg.produced e (h.produced e he)⟩

end Holding

def publisherDiscipline :
    Discipline PublisherOp PublisherOp.Ret PublisherErr Holding where
  move k o learn := k.Move o ∧ learn = k.learn o
  answer _ _ := True
  le k l := l.claimed ⊆ k.claimed ∧ l.produced ⊆ k.produced
  le_refl _ := ⟨List.Subset.refl _, List.Subset.refl _⟩
  le_trans h h' := ⟨List.Subset.trans h'.1 h.1, List.Subset.trans h'.2 h.2⟩

/-- Publishers rely on each other not to take anything away. -/
def outboxContract : Contract publisherMachine where
  allow _ _ _ _ := True
  inv := OutboxWorld.Sound
  rely := OutboxWorld.Grows
  guar := OutboxWorld.Grows
  rely_refl := .refl
  rely_trans := .trans

/-- A move that arrives keeps the invariant and teaches what it says. -/
theorem Holding.Move.run {k : Holding} {o : PublisherOp} {w : OutboxWorld} (c : PublisherChoice)
    (hmove : k.Move o) (h : w.Sound) (hk : k.Holds w) :
    (o.run c w).2.Sound ∧ w.Grows (o.run c w).2 ∧
      (k.learn o (o.run c w).1).Holds (o.run c w).2 := by
  cases o with
  | claim limit =>
    simp only [PublisherOp.run]
    split
    · exact ⟨h, .refl w, hk⟩
    obtain ⟨hsound, hgrows⟩ :=
      h.claimed ((w.selected c.skipped limit.toNatClampNeg).map (·.id)) c.now
    refine ⟨hsound, hgrows, ⟨fun e he => ?_, (hk.grows hgrows).produced⟩⟩
    -- whatever the order of the answer, its rows are the selected ones
    have hmem := (c.order_perm _).mem_iff.mp he
    obtain ⟨r, hr, rfl⟩ := List.mem_map.mp hmem
    apply hgrows.committed
    exact ⟨r, (OutboxWorld.mem_selected hr).1, ⟨rfl, rfl, rfl, rfl⟩⟩
  | produce e =>
    obtain ⟨hsound, hgrows⟩ := h.produce (hk.claimed e hmove)
    refine ⟨hsound, hgrows, ⟨(hk.grows hgrows).claimed, fun e' he' => ?_⟩⟩
    rcases List.mem_cons.mp he' with rfl | he'
    · exact List.mem_concat_self
    · exact (hk.grows hgrows).produced e' he'
  | mark id =>
    obtain ⟨e, he, rfl⟩ := hmove
    obtain ⟨hsound, hgrows⟩ := h.markPublished (hk.produced e he) c.now
    exact ⟨hsound, hgrows, hk.grows hgrows⟩

theorem publisherDiscipline_sound :
    publisherDiscipline.Sound outboxContract fun k _ w => k.Holds w where
  mono hle hk := ⟨fun e he => hk.claimed e (hle.1 he), fun e he => hk.produced e (hle.2 he)⟩
  stable hk hrely _ := hk.grows hrely
  answers _ _ _ := trivial
  step {k o learn _ w c} hmove hi hk _ := by
    obtain ⟨hmove, rfl⟩ := hmove
    obtain ⟨htxs, hgrows⟩ := OutboxWorld.Sound.txSteps hi c.txs
    obtain ⟨hsound, hgrows', hlearned⟩ := hmove.run c htxs (hk.grows hgrows)
    show (o.exec c w).2.Sound ∧ w.Grows (o.exec c w).2 ∧
      (k.learn o (o.exec c w).1).Holds (o.exec c w).2
    unfold PublisherOp.exec
    -- without an answer the publisher knows what it knew before
    have herror : ∀ e, k.learn o (.error e) = k := fun e => by cases o <;> rfl
    cases c.fault with
    | none => exact ⟨hsound, hgrows.trans hgrows', hlearned⟩
    | notDelivered =>
      rw [herror]
      exact ⟨htxs, hgrows, hk.grows hgrows⟩
    | answerLost =>
      rw [herror]
      exact ⟨hsound, hgrows.trans hgrows', hk.grows (hgrows.trans hgrows')⟩

/-! ## Publishers -/

namespace Publisher

/-- The program marks only what it has produced, and produces only what it has claimed. -/
abbrev Careful {α : Type} (p : PublisherProg α) (k : Holding) : Prop :=
  publisherDiscipline.Follows (fun _ _ => True) p k

/-- By induction on the events that are left, which are all claimed. -/
theorem publishEach_careful {events : List OutboxRow} {k : Holding} (hclaimed : events ⊆ k.claimed)
    (published : Nat) : Careful (publishEach published events) k := by
  induction events generalizing k published with
  | nil => exact .done trivial
  | cons event events ih =>
    obtain ⟨hevent, hevents⟩ := List.cons_subset.mp hclaimed
    unfold publishEach
    rw [Prog.perform_bind]
    refine .call ⟨hevent, rfl⟩ (fun _ _ => ?_) fun _ => trivial
    rw [Prog.perform_bind]
    have hproduced : ∃ e ∈ event :: k.produced, e.id = event.id := ⟨event, List.mem_cons_self, rfl⟩
    refine .call ⟨hproduced, rfl⟩ (fun _ _ => ?_) fun _ => trivial
    exact ih (k := { k with produced := event :: k.produced }) hevents (published + 1)

theorem publishBatch_careful (batchSize : Int64) (k : Holding) :
    Careful (publishBatch batchSize) k := by
  unfold publishBatch claimUnpublished
  rw [Prog.perform_bind]
  refine .call ⟨trivial, rfl⟩ (fun events _ => ?_) fun _ => trivial
  exact publishEach_careful (List.Subset.refl events) 0

theorem run_careful (batchSize : Int64) (ticks : Nat) (k : Holding) :
    Careful (run batchSize ticks) k := by
  induction ticks generalizing k with
  | zero => exact .done trivial
  | succ ticks ih =>
    have hbatch : publisherDiscipline.Follows (fun _ _ => True)
        (publishBatch (configuredBatchSize batchSize)).attempt k :=
      .attempt (publishBatch_careful _ k)
    exact hbatch.bind (fun _ l _ => ih l) fun _ _ _ => trivial

end Publisher

/-- A publisher with its batch size, for a number of ticks. -/
structure PublisherStart where
  batchSize : Int64
  ticks : Nat

/-- The outbox after publishers and transactions have worked on it in any order, each publisher
    up to any of its calls. -/
def publishing (acts : List (Act PublisherStart PublisherChoice)) (txs : List TxStep) :
    OutboxWorld :=
  ((Pool.idle {}).run publisherMachine (fun q => Publisher.run q.batchSize q.ticks) ()
    acts).world.txSteps txs

theorem publishing_sound (acts : List (Act PublisherStart PublisherChoice)) (txs : List TxStep) :
    (publishing acts txs).Sound := by
  have hsafe : ∀ (q : PublisherStart) w, True → outboxContract.inv w →
      outboxContract.Safe (Publisher.run q.batchSize q.ticks) () w := by
    intro q w _ _
    have hnothing : Holding.Holds {} w := ⟨by simp, by simp⟩
    exact ((Publisher.run_careful q.batchSize q.ticks {}).holds publisherDiscipline_sound
      hnothing).safe
  have hobeys : (Pool.idle {}).Obeys outboxContract
      (fun q : PublisherStart => Publisher.run q.batchSize q.ticks) () (fun _ => True) acts :=
    .of_starts (fun _ _ _ _ => trivial) fun _ _ => trivial
  have hpool := Pool.run_inv (fun _ h => h) hsafe OutboxWorld.sound_empty hobeys
  exact (OutboxWorld.Sound.txSteps hpool txs).1

/-! ## What a claim returns -/

namespace OutboxWorld

variable {w : OutboxWorld} {r : OutboxRow}

/-- The rows that are not published yet. -/
def unpublished (w : OutboxWorld) : List OutboxRow :=
  w.rows.filter fun r => r.publishedAt = none

/-- With no locks in the way and room for all of them, the claim selects every unpublished row. -/
theorem mem_selected_of_unpublished {limit : Nat} (hr : r ∈ w.rows) (hnone : r.publishedAt = none)
    (hlimit : w.unpublished.length ≤ limit) : r ∈ w.selected [] limit := by
  have hall : w.rows.filter (fun r => r.publishedAt = none ∧ r.id ∉ ([] : List Nat)) =
      w.unpublished := by
    simp [unpublished]
  unfold selected
  rw [hall, List.take_of_length_le]
  · rw [List.mem_insertionSort]
    exact List.mem_filter.mpr ⟨hr, decide_eq_true hnone⟩
  · rw [List.length_insertionSort]
    exact hlimit

end OutboxWorld

/-- A batch size below 2^31 gets through the conversion as it is. -/
theorem toInt32_batchSize {batchSize : Int64} (hpos : 1 ≤ batchSize.toInt)
    (hlt : batchSize.toInt < 2 ^ 31) :
    (if batchSize < 1 then 1 else batchSize).toInt32.toInt = batchSize.toInt := by
  have hnot : ¬ batchSize < 1 := by
    rw [Int64.lt_iff_toInt_lt]
    show ¬ batchSize.toInt < 1
    omega
  rw [if_neg hnot, Int64.toInt_toInt32]
  apply Int.bmod_eq_of_le <;> omega

/-- The answer of `ClaimUnpublished` when nothing goes wrong and nobody else holds locks. -/
theorem claimUnpublished_returns {w : OutboxWorld} {r : OutboxRow} {batchSize : Int64}
    (hr : r ∈ w.rows) (hnone : r.publishedAt = none)
    (hsize : (w.unpublished.length : Int) ≤ batchSize.toInt) (hlt : batchSize.toInt < 2 ^ 31)
    (cs : Nat → PublisherChoice) (hfault : (cs 0).fault = .none) (htxs : (cs 0).txs = [])
    (hskipped : (cs 0).skipped = []) :
    ∃ events, ((Publisher.claimUnpublished batchSize).eval publisherMachine cs w).1 = .ok events ∧
      ∃ e ∈ events, e.Same r := by
  have hmem : r ∈ w.unpublished := List.mem_filter.mpr ⟨hr, decide_eq_true hnone⟩
  have hpos : 1 ≤ batchSize.toInt := by
    have := List.length_pos_of_mem hmem
    omega
  have hlimit := toInt32_batchSize hpos hlt
  generalize hl : (if batchSize < 1 then 1 else batchSize).toInt32 = limit at hlimit
  have hnonneg : ¬ limit < 0 := by
    rw [Int32.lt_iff_toInt_lt]
    show ¬ limit.toInt < 0
    omega
  have hroom : w.unpublished.length ≤ limit.toNatClampNeg := by
    rw [← Int32.toNat_toInt]
    omega
  have hclaim : Publisher.claimUnpublished batchSize = Prog.perform (PublisherOp.claim limit) := by
    rw [← hl]
    rfl
  have hexec : publisherMachine.exec (cs 0) (PublisherOp.claim limit) w =
      (PublisherOp.claim limit).run (cs 0) w := by
    show PublisherOp.exec (cs 0) (PublisherOp.claim limit) w = _
    simp only [PublisherOp.exec, hfault, htxs]
    rfl
  rw [hclaim, Prog.eval_perform, hexec]
  simp only [PublisherOp.run, hnonneg, ↓reduceIte, hskipped]
  refine ⟨_, rfl, { r with claimedAt := some (cs 0).now }, ?_, ⟨rfl, rfl, rfl, rfl⟩⟩
  apply ((cs 0).order_perm _).mem_iff.mpr
  exact List.mem_map_of_mem (OutboxWorld.mem_selected_of_unpublished hr hnone hroom)

/-- In every state that publishers and transactions reach from an empty outbox: a row is marked
    only if its event has been produced; while it is not marked, a claim that has room for all
    unpublished rows returns it, unless a lock or a fault is in the way; and what has been
    produced is a committed row, none of a transaction that was rolled back. -/
theorem outbox_delivery (acts : List (Act PublisherStart PublisherChoice)) (txs : List TxStep) :
    (∀ row ∈ (publishing acts txs).rows, row.publishedAt ≠ none →
      ∃ e ∈ (publishing acts txs).produced, e.id = row.id ∧ e.record = row.record) ∧
    (∀ row ∈ (publishing acts txs).rows, row.publishedAt = none → ∀ (batchSize : Int64)
      (cs : Nat → PublisherChoice),
      ((publishing acts txs).unpublished.length : Int) ≤ batchSize.toInt →
      batchSize.toInt < 2 ^ 31 → (cs 0).fault = .none → (cs 0).txs = [] → (cs 0).skipped = [] →
      ∃ events, ((Publisher.claimUnpublished batchSize).eval publisherMachine cs
          (publishing acts txs)).1 = .ok events ∧
        ∃ e ∈ events, e.id = row.id ∧ e.record = row.record) ∧
    ∀ e ∈ (publishing acts txs).produced, e.tx ∉ (publishing acts txs).rolledBack ∧
      ∃ row ∈ (publishing acts txs).rows, e.id = row.id ∧ e.record = row.record := by
  have hsound := publishing_sound acts txs
  refine ⟨?_, ?_, ?_⟩
  · intro row hrow hpublished
    obtain ⟨e, he, hsame⟩ := hsound.marked row hrow hpublished
    exact ⟨e, he, hsame.id, hsame.record⟩
  · intro row hrow hnone batchSize cs hsize hlt hfault htxs hskipped
    obtain ⟨events, hevents, e, he, hsame⟩ :=
      claimUnpublished_returns hrow hnone hsize hlt cs hfault htxs hskipped
    exact ⟨events, hevents, e, he, hsame.id, hsame.record⟩
  · intro e he
    obtain ⟨row, hrow, hsame⟩ := hsound.real e he
    refine ⟨?_, row, hrow, hsame.id, hsame.record⟩
    rw [hsame.tx]
    exact (hsound.numbered.rows row hrow).2.1

namespace Sample

/-- The event of a transfer out of one wallet. -/
def initiated (transferID : String) : OutboxRecord :=
  { topic := .txInitiated, partitionKey := "wallet-1"
    payload := .transactionInitiated
      { transferID := transferID, fromWalletID := "wallet-1", toWalletID := "wallet-2"
        amountCents := 300, currency := "USD", initiatedAt := 1 } }

end Sample

-- a transaction commits a row before the claim, and one tick of a publisher marks it
example :
    (publishing [.start ⟨10, 1⟩,
      .step 0 { txs := [.start 5, .insert 0 7 (Sample.initiated "transfer-1"), .commit 0] },
      .step 0 {}, .step 0 { now := 9 }] []).rows.map (·.publishedAt) = [some 9] := by
  decide +kernel

end EnjoyThings
