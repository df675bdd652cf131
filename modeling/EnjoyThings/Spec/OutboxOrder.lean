import EnjoyThings.ForStd.List
import EnjoyThings.Spec.OutboxDelivery

/-!
# In which order events are produced

One publisher works on the outbox while transactions enqueue rows. A claim takes the
unpublished rows in the order of their creation time, which is the start of their
transaction, and then of their random IDs. Neither is the order in which transactions
commit, and the rows of a claim come back in any order. `key_order` says what it takes for
the events of a key to be produced in the order of their commits: that the three orders
agree. Two transfers out of one wallet whose transactions overlap are enough for them to
differ (`late_commit_overtakes`).

## Key results

- `queued_claim`: what has to come before a claimed event is produced or claimed before it
- `key_order`: the events of a key are produced in the order of their commits
-/

namespace EnjoyThings

open Effect

namespace OutboxRow

variable {a b c : OutboxRow}

/-- Events of one topic and partition key. -/
def SameKey (a b : OutboxRow) : Prop :=
  a.record.topic = b.record.topic ∧ a.record.partitionKey = b.record.partitionKey

/-- Strictly first in `ORDER BY created_at, id`. -/
def Ahead (a b : OutboxRow) : Prop :=
  a.createdAt < b.createdAt ∨ a.createdAt = b.createdAt ∧ a.id < b.id

instance (a b : OutboxRow) : Decidable (a.SameKey b) := inferInstanceAs (Decidable (_ ∧ _))

instance (a b : OutboxRow) : Decidable (a.Ahead b) := inferInstanceAs (Decidable (_ ∨ _))

theorem Ahead.not_before (h : a.Ahead b) : ¬ b.before a := by
  unfold Ahead at h
  unfold before
  simp only [Time] at *
  omega

theorem Ahead.asymm (h : a.Ahead b) : ¬ b.Ahead a := by
  unfold Ahead at *
  simp only [Time] at *
  omega

theorem Ahead.irrefl : ¬ a.Ahead a := fun h => h.asymm h

theorem SameKey.symm (h : a.SameKey b) : b.SameKey a := ⟨h.1.symm, h.2.symm⟩

theorem before_trans (h : a.before b) (h' : b.before c) : a.before c := by
  unfold before at *
  simp only [Time] at *
  omega

theorem before_total (a b : OutboxRow) : a.before b ∨ b.before a := by
  unfold before
  simp only [Time]
  omega

instance : IsTrans OutboxRow before := ⟨fun _ _ _ => before_trans⟩

instance : Std.Total before := ⟨before_total⟩

/-- The order looks at nothing a claim or a mark changes. -/
theorem Same.ahead_iff {a' b' : OutboxRow} (ha : a.Same a') (hb : b.Same b') :
    a.Ahead b ↔ a'.Ahead b' := by
  unfold Ahead
  rw [ha.createdAt, ha.id, hb.createdAt, hb.id]

theorem Same.sameKey_iff {a' b' : OutboxRow} (ha : a.Same a') (hb : b.Same b') :
    a.SameKey b ↔ a'.SameKey b' := by
  unfold SameKey
  rw [ha.record, hb.record]

end OutboxRow

namespace OutboxWorld

variable {w : OutboxWorld} {e r : OutboxRow} {events : List OutboxRow}

/-- Rows of one key are committed in the order in which a claim takes them. -/
def InOrder (w : OutboxWorld) : Prop :=
  w.rows.Pairwise fun a b => a.SameKey b → a.Ahead b

/-- Whenever an event is produced, those of its key that were committed before it have been
    produced already. -/
def KeyOrder (w : OutboxWorld) : Prop :=
  ∀ pre e post, w.produced = pre ++ e :: post → ∀ a b, [a, b].Sublist w.rows → e.Same b →
    a.SameKey b → ∃ e' ∈ pre, e'.Same a

/-- The events a publisher still has to produce: what is ahead of one of them has been produced
    or stands before it. -/
def Queued (w : OutboxWorld) (events : List OutboxRow) : Prop :=
  ∀ pre e post, events = pre ++ e :: post → w.Committed e ∧
    ∀ r ∈ w.rows, r.SameKey e → r.Ahead e → w.Produced r ∨ ∃ e' ∈ pre, e'.Same r

/-- What holds between the calls of a single publisher. -/
structure Ordered (w : OutboxWorld) (events : List OutboxRow) : Prop where
  sound : w.Sound
  inOrder : w.InOrder
  keyOrder : w.KeyOrder
  queued : w.Queued events

theorem queued_nil : w.Queued [] := by
  intro pre e post h
  cases pre <;> cases h

/-! ## Transaction steps -/

/-- The commit of a transaction comes after the commits of all rows of the same key that a claim
    takes first, and the transaction inserted its own rows in that order. -/
def OrderlyStep (w : OutboxWorld) : TxStep → Prop
  | .commit tx => ∀ t ∈ w.tx? tx, (t.rows.Pairwise fun a b => a.SameKey b → a.Ahead b) ∧
      ∀ a ∈ w.rows, ∀ b ∈ t.rows, a.SameKey b → a.Ahead b
  | _ => True

def OrderlySteps : OutboxWorld → List TxStep → Prop
  | _, [] => True
  | w, step :: steps => w.OrderlyStep step ∧ OrderlySteps (w.txStep step) steps

instance (w : OutboxWorld) : (step : TxStep) → Decidable (w.OrderlyStep step)
  | .commit tx => inferInstanceAs (Decidable (∀ t ∈ w.tx? tx, _))
  | .start _ | .insert _ _ _ | .rollback _ => .isTrue trivial

instance OrderlySteps.decidable :
    (steps : List TxStep) → (w : OutboxWorld) → Decidable (OrderlySteps w steps)
  | [], _ => .isTrue trivial
  | step :: steps, w =>
    have := OrderlySteps.decidable steps (w.txStep step)
    inferInstanceAs (Decidable (w.OrderlyStep step ∧ _))

theorem insert_rows (t : OpenTx) (id : Nat) (record : OutboxRecord) :
    (w.insert t id record).rows = w.rows ∧ (w.insert t id record).produced = w.produced := by
  unfold insert
  split
  · exact ⟨rfl, rfl⟩
  · split <;> exact ⟨rfl, rfl⟩

/-- Only a commit changes what others see, and it adds the rows of its transaction at the end. -/
theorem txStep_rows (w : OutboxWorld) (step : TxStep) :
    (w.txStep step).produced = w.produced ∧
      ((w.txStep step).rows = w.rows ∨ ∃ tx t, step = .commit tx ∧ w.tx? tx = some t ∧
        (w.txStep step).rows = w.rows ++ t.rows) := by
  cases step with
  | start time => exact ⟨rfl, .inl rfl⟩
  | insert tx id record =>
    simp only [txStep]
    cases w.tx? tx with
    | none => exact ⟨rfl, .inl rfl⟩
    | some t => exact ⟨(insert_rows t id record).2, .inl (insert_rows t id record).1⟩
  | commit tx =>
    simp only [txStep]
    cases htx : w.tx? tx with
    | none => exact ⟨rfl, .inl rfl⟩
    | some t => exact ⟨rfl, .inr ⟨tx, t, rfl, htx, rfl⟩⟩
  | rollback tx =>
    simp only [txStep]
    cases w.tx? tx with
    | none => exact ⟨rfl, .inl rfl⟩
    | some t => exact ⟨rfl, .inl rfl⟩

theorem Ordered.of_same {w' : OutboxWorld} (h : w.Ordered events) (hsound : w'.Sound)
    (hrows : w'.rows = w.rows) (hproduced : w'.produced = w.produced) : w'.Ordered events := by
  obtain ⟨-, hin, hkey, hqueued⟩ := h
  refine ⟨hsound, ?_, ?_, ?_⟩
  · unfold InOrder
    rw [hrows]
    exact hin
  · unfold KeyOrder
    rw [hrows, hproduced]
    exact hkey
  · unfold Queued Committed Produced
    rw [hrows, hproduced]
    exact hqueued

/-- The rows of a transaction that commits in order, at the end of the committed ones. -/
theorem Ordered.commit {w' : OutboxWorld} {t : OpenTx} (h : w.Ordered events) (hsound : w'.Sound)
    (ht : t ∈ w.opened) (hrows : w'.rows = w.rows ++ t.rows) (hproduced : w'.produced = w.produced)
    (hinner : t.rows.Pairwise fun a b => a.SameKey b → a.Ahead b)
    (hafter : ∀ a ∈ w.rows, ∀ b ∈ t.rows, a.SameKey b → a.Ahead b) : w'.Ordered events := by
  refine ⟨hsound, ?_, ?_, ?_⟩
  · unfold InOrder
    rw [hrows]
    exact List.pairwise_append.mpr ⟨h.inOrder, hinner, hafter⟩
  · intro pre e post hsplit a b hab hsame hkey
    rw [hproduced] at hsplit
    rw [hrows] at hab
    -- a produced event was committed before, so it is no row of this transaction
    have hold : b ∉ t.rows := by
      intro hb
      have he : e ∈ w.produced := by
        rw [hsplit]
        exact List.mem_append_right _ List.mem_cons_self
      obtain ⟨b₀, hb₀, hsame₀⟩ := h.sound.real e he
      exact h.sound.distinct.apart t ht b hb b₀ hb₀ (hsame.id.symm.trans hsame₀.id)
    exact h.keyOrder pre e post hsplit a b (List.pair_sublist_of_append hab hold) hsame hkey
  · intro pre e post hsplit
    obtain ⟨hcommitted, hahead⟩ := h.queued pre e post hsplit
    refine ⟨hcommitted.mono fun r hr => ?_, fun r hr hkey hr' => ?_⟩
    · rw [hrows]
      exact List.mem_append_left _ hr
    · unfold Produced
      rw [hproduced]
      rw [hrows] at hr
      rcases List.mem_append.mp hr with hr | hr
      · exact hahead r hr hkey hr'
      · -- a row that commits now is not ahead of one that was committed when it was claimed
        obtain ⟨b, hb, hsame⟩ := hcommitted
        have hkey' : b.SameKey r := ((OutboxRow.Same.sameKey_iff (.refl r) hsame).mp hkey).symm
        have hr'' := (OutboxRow.Same.ahead_iff (.refl r) hsame).mp hr'
        exact absurd (hafter b hb r hr hkey') hr''.asymm

theorem Ordered.txStep (h : w.Ordered events) {step : TxStep} (ho : w.OrderlyStep step) :
    (w.txStep step).Ordered events := by
  have hsound := (h.sound.txStep step).1
  obtain ⟨hproduced, hrows | ⟨tx, t, rfl, htx, hrows⟩⟩ := w.txStep_rows step
  · exact h.of_same hsound hrows hproduced
  · obtain ⟨hinner, hafter⟩ := ho t htx
    exact h.commit hsound (tx?_some htx).1 hrows hproduced hinner hafter

theorem Ordered.txSteps (h : w.Ordered events) {steps : List TxStep}
    (ho : OrderlySteps w steps) : (w.txSteps steps).Ordered events := by
  induction steps generalizing w with
  | nil => exact h
  | cons step steps ih => exact ih (h.txStep ho.1) ho.2

/-! ## The calls of the publisher -/

/-- A claim or a mark changes no row's place. -/
theorem Ordered.mapRows (h : w.Ordered events) {f : OutboxRow → OutboxRow}
    (hf : ∀ r : OutboxRow, r.Same (f r))
    (hsound : ({ w with rows := w.rows.map f } : OutboxWorld).Sound) :
    ({ w with rows := w.rows.map f } : OutboxWorld).Ordered events := by
  refine ⟨hsound, ?_, ?_, ?_⟩
  · show (w.rows.map f).Pairwise _
    rw [List.pairwise_map]
    apply h.inOrder.imp
    intro a b hab hkey
    apply (OutboxRow.Same.ahead_iff (hf a) (hf b)).mp
    exact hab ((OutboxRow.Same.sameKey_iff (hf a) (hf b)).mpr hkey)
  · intro pre e post hsplit a b hab hsame hkey
    obtain ⟨a₀, b₀, hl, rfl, rfl⟩ := List.pair_sublist_map hab
    have hkey' := (OutboxRow.Same.sameKey_iff (hf a₀) (hf b₀)).mpr hkey
    obtain ⟨e', he', hsame'⟩ := h.keyOrder pre e post hsplit a₀ b₀ hl
      (hsame.trans (hf b₀).symm) hkey'
    exact ⟨e', he', hsame'.trans (hf a₀)⟩
  · intro pre e post hsplit
    obtain ⟨⟨b, hb, hsame⟩, hahead⟩ := h.queued pre e post hsplit
    refine ⟨⟨f b, List.mem_map_of_mem hb, hsame.trans (hf b)⟩, fun r hr hkey hr' => ?_⟩
    obtain ⟨r₀, hr₀, rfl⟩ := List.mem_map.mp hr
    have hkey₀ := (OutboxRow.Same.sameKey_iff (hf r₀) (.refl e)).mpr hkey
    have hahead₀ := (OutboxRow.Same.ahead_iff (hf r₀) (.refl e)).mpr hr'
    rcases hahead r₀ hr₀ hkey₀ hahead₀ with ⟨e', he', hsame'⟩ | ⟨e', he', hsame'⟩
    · exact .inl ⟨e', he', hsame'.trans (hf r₀)⟩
    · exact .inr ⟨e', he', hsame'.trans (hf r₀)⟩

/-- The first of the queued events is produced. -/
theorem Ordered.produce (h : w.Ordered (e :: events)) :
    ({ w with produced := w.produced ++ [e] } : OutboxWorld).Ordered events := by
  obtain ⟨hcommitted, hfirst⟩ := h.queued [] e events rfl
  have hproduced : ∀ {r}, w.Produced r →
      OutboxWorld.Produced { w with produced := w.produced ++ [e] } r := by
    rintro r ⟨e', he', hsame⟩
    exact ⟨e', List.mem_append_left _ he', hsame⟩
  refine ⟨(h.sound.produce hcommitted).1, h.inOrder, ?_, ?_⟩
  · intro pre e' post hsplit a b hab hsame hkey
    rcases List.eq_nil_or_concat post with rfl | ⟨post', x, rfl⟩
    · -- the new event: everything committed before it is ahead of it, so it has been produced
      obtain ⟨rfl, hlast⟩ := List.append_inj' (show w.produced ++ [e] = pre ++ [e'] from hsplit) rfl
      obtain rfl := List.singleton_inj.mp hlast
      have hahead := List.pairwise_iff_forall_sublist.mp h.inOrder hab hkey
      have hkey' := (OutboxRow.Same.sameKey_iff (.refl a) hsame).mpr hkey
      have hahead' := (OutboxRow.Same.ahead_iff (.refl a) hsame).mpr hahead
      have ha : a ∈ w.rows := hab.subset List.mem_cons_self
      rcases hfirst a ha hkey' hahead' with hdone | ⟨_, hnil, -⟩
      · exact hdone
      · cases hnil
    · have hold : w.produced = pre ++ e' :: post' := by
        rw [List.concat_eq_append] at hsplit
        have hassoc : w.produced ++ [e] = (pre ++ e' :: post') ++ [x] := by
          rw [List.append_assoc]
          exact hsplit
        exact (List.append_inj' hassoc rfl).1
      exact h.keyOrder pre e' post' hold a b hab hsame hkey
  · intro pre e' post hsplit
    obtain ⟨hcommitted', hahead⟩ := h.queued (e :: pre) e' post (by rw [hsplit]; rfl)
    refine ⟨hcommitted', fun r hr hkey hr' => ?_⟩
    rcases hahead r hr hkey hr' with hdone | ⟨e₁, he₁, hsame⟩
    · exact .inl (hproduced hdone)
    · rcases List.mem_cons.mp he₁ with rfl | he₁
      · exact .inl ⟨e₁, List.mem_concat_self, hsame⟩
      · exact .inr ⟨e₁, he₁, hsame⟩

theorem Ordered.forget (h : w.Ordered events) : w.Ordered [] :=
  ⟨h.sound, h.inOrder, h.keyOrder, queued_nil⟩

/-- What is ahead of a claimed row has been published, and so produced, or is claimed before it:
    the claim takes the first rows of the sorted list. -/
theorem queued_claim (h : w.Sound) {g : OutboxRow → OutboxRow} (hg : ∀ r : OutboxRow, r.Same (g r))
    (limit : Nat) : w.Queued ((w.selected [] limit).map g) := by
  intro pre e post hsplit
  obtain ⟨first, rest, hselected, rfl, hrest⟩ := List.map_eq_append_iff.mp hsplit
  obtain ⟨e₀, last, rfl, rfl, rfl⟩ := List.map_eq_cons_iff.mp hrest
  have hmem : e₀ ∈ w.selected [] limit := by
    rw [hselected]
    exact List.mem_append_right _ List.mem_cons_self
  refine ⟨⟨e₀, (mem_selected hmem).1, (hg e₀).symm⟩, fun r hr hkey hahead => ?_⟩
  have hahead' : r.Ahead e₀ := (OutboxRow.Same.ahead_iff (.refl r) (hg e₀)).mpr hahead
  by_cases hnone : r.publishedAt = none
  · right
    -- the row is in the sorted list that the claim is the beginning of
    have hall : r ∈ first ++ e₀ :: last ++ ((w.rows.filter fun r => r.publishedAt = none ∧
        r.id ∉ ([] : List Nat)).insertionSort OutboxRow.before).drop limit := by
      rw [← hselected, selected, List.take_append_drop, List.mem_insertionSort, List.mem_filter]
      exact ⟨hr, by simp [hnone]⟩
    have hsorted : (first ++ e₀ :: last ++ ((w.rows.filter fun r => r.publishedAt = none ∧
        r.id ∉ ([] : List Nat)).insertionSort OutboxRow.before).drop limit).Pairwise
        OutboxRow.before := by
      rw [← hselected, selected, List.take_append_drop]
      exact List.pairwise_insertionSort _ _
    rw [List.append_assoc] at hall hsorted
    rcases List.mem_append.mp hall with hfirst | hlater
    · exact ⟨g r, List.mem_map_of_mem hfirst, (hg r).symm⟩
    · rw [List.cons_append] at hlater hsorted
      rcases List.mem_cons.mp hlater with rfl | hlater
      · exact absurd hahead' OutboxRow.Ahead.irrefl
      · have hbefore := (List.pairwise_cons.mp (List.pairwise_append.mp hsorted).2.1).1 r hlater
        exact absurd hbefore hahead'.not_before
  · exact .inl (h.marked r hr hnone)

end OutboxWorld

/-! ## A single publisher -/

/-- The rows a claim returns, as its CTE orders them. -/
def claimAnswer (c : PublisherChoice) (limit : Int32) (w : OutboxWorld) : List OutboxRow :=
  (w.selected c.skipped limit.toNatClampNeg).map fun r => { r with claimedAt := some c.now }

/-- `UPDATE ... RETURNING` keeps the order of the rows it takes from the CTE. -/
def PublisherChoice.KeepsOrder (c : PublisherChoice) (w : OutboxWorld) : PublisherOp → Prop
  | .claim limit => c.order (claimAnswer c limit w) = claimAnswer c limit w
  | _ => True

instance (c : PublisherChoice) (w : OutboxWorld) : (o : PublisherOp) → Decidable (c.KeepsOrder w o)
  | .claim _ => inferInstanceAs (Decidable (_ = _))
  | .produce _ | .mark _ => .isTrue trivial

/-- The condition on a call: the transactions before it commit in order, no row is locked by
    somebody else, and a claim returns its rows in order. -/
def PublisherChoice.Orderly (c : PublisherChoice) (o : PublisherOp) (w : OutboxWorld) : Prop :=
  OutboxWorld.OrderlySteps w c.txs ∧ c.skipped = [] ∧ c.KeepsOrder (w.txSteps c.txs) o

instance PublisherChoice.Orderly.decidable (c : PublisherChoice) (o : PublisherOp)
    (w : OutboxWorld) : Decidable (c.Orderly o w) :=
  inferInstanceAs (Decidable (_ ∧ _))

/-- What a single publisher knows: what it holds, and what it still has to produce. -/
structure Progress where
  held : Holding := {}
  queue : List OutboxRow := []

namespace Progress

/-- Events are produced in the order of the queue. -/
def Move (k : Progress) : PublisherOp → Prop
  | .claim _ => True
  | .produce e => e ∈ k.held.claimed ∧ ∃ events, k.queue = e :: events
  | .mark id => ∃ e ∈ k.held.produced, e.id = id

/-- After an error nothing is left to do: the batch ends. -/
def next (queue : List OutboxRow) : (o : PublisherOp) → Except PublisherErr o.Ret → List OutboxRow
  | .claim _, .ok events => events
  | .produce _, .ok _ => queue.tail
  | .mark _, .ok _ => queue
  | _, .error _ => []

def learn (k : Progress) (o : PublisherOp) (r : Except PublisherErr o.Ret) : Progress :=
  { held := k.held.learn o r, queue := next k.queue o r }

theorem Move.held {k : Progress} {o : PublisherOp} (h : k.Move o) : k.held.Move o := by
  cases o with
  | claim _ => trivial
  | produce e => exact h.1
  | mark id => exact h

theorem next_error (queue : List OutboxRow) (o : PublisherOp) (e : PublisherErr) :
    next queue o (.error e) = [] := by
  cases o <;> rfl

/-- A call that arrives leaves the rows in order, and the queue is what is left of it. -/
theorem Move.run {k : Progress} {o : PublisherOp} {w : OutboxWorld} {c : PublisherChoice}
    (hmove : k.Move o) (hskipped : c.skipped = []) (horder : c.KeepsOrder w o)
    (hk : k.held.Holds w) (h : w.Ordered k.queue) :
    (o.run c w).2.Ordered (next k.queue o (o.run c w).1) := by
  have hsound := (hmove.held.run c h.sound hk).1
  cases o with
  | claim limit =>
    simp only [PublisherOp.run] at hsound ⊢
    split
    · exact h.forget
    · rename_i hlimit
      rw [if_neg hlimit] at hsound
      have hanswer : c.order (claimAnswer c limit w) = claimAnswer c limit w := horder
      have hqueued : w.Queued (claimAnswer c limit w) := by
        unfold claimAnswer
        rw [hskipped]
        apply OutboxWorld.queued_claim h.sound
        exact fun r => ⟨rfl, rfl, rfl, rfl⟩
      have hclaimed : w.Ordered (claimAnswer c limit w) :=
        ⟨h.sound, h.inOrder, h.keyOrder, hqueued⟩
      show OutboxWorld.Ordered _ (c.order (claimAnswer c limit w))
      rw [hanswer]
      refine hclaimed.mapRows (fun r => ?_) hsound
      split <;> exact ⟨rfl, rfl, rfl, rfl⟩
  | produce e =>
    obtain ⟨-, events, hqueue⟩ := hmove
    rw [hqueue] at h
    show OutboxWorld.Ordered _ k.queue.tail
    rw [hqueue]
    exact h.produce
  | mark id =>
    refine h.mapRows (fun r => ?_) hsound
    split <;> exact ⟨rfl, rfl, rfl, rfl⟩

end Progress

def orderDiscipline : Discipline PublisherOp PublisherOp.Ret PublisherErr Progress where
  move k o learn := k.Move o ∧ learn = k.learn o
  answer _ _ := True
  le k l := publisherDiscipline.le k.held l.held ∧ (l.queue = k.queue ∨ l.queue = [])
  le_refl k := ⟨publisherDiscipline.le_refl k.held, .inl rfl⟩
  le_trans := by
    rintro k l m ⟨hkl, hq⟩ ⟨hlm, hq'⟩
    refine ⟨publisherDiscipline.le_trans hkl hlm, ?_⟩
    rcases hq' with hq' | hq'
    · rw [hq']
      exact hq
    · exact .inr hq'

/-- Nobody but the publisher works on the outbox, apart from the transactions. -/
def orderContract : Contract publisherMachine :=
  .undisturbed (fun _ o w c => c.Orderly o w) (fun w => w.Ordered []) fun _ _ => True

theorem orderDiscipline_sound :
    orderDiscipline.Sound orderContract fun k _ w => k.held.Holds w ∧ w.Ordered k.queue where
  mono hle hk := by
    refine ⟨publisherDiscipline_sound.mono (g := ()) hle.1 hk.1, ?_⟩
    rcases hle.2 with hqueue | hqueue
    · rw [hqueue]
      exact hk.2
    · rw [hqueue]
      exact hk.2.forget
  stable hk hrely _ := by
    obtain rfl := hrely
    exact hk
  answers _ _ _ := trivial
  step {k o learn g w c} hmove _ hk hallow := by
    obtain ⟨hmove, rfl⟩ := hmove
    obtain ⟨htxs, hskipped, horder⟩ := hallow
    have hafter := hk.2.txSteps htxs
    have hgrows := (hk.2.sound.txSteps c.txs).2
    have hrun := hmove.run hskipped horder (hk.1.grows hgrows) hafter
    obtain ⟨-, -, hheld⟩ := publisherDiscipline_sound.step (g := g) (c := c) ⟨hmove.held, rfl⟩
      hk.2.sound hk.1 trivial
    have hordered : (o.exec c w).2.Ordered (Progress.next k.queue o (o.exec c w).1) := by
      unfold PublisherOp.exec
      cases c.fault with
      | none => exact hrun
      | notDelivered =>
        rw [Progress.next_error]
        exact hafter.forget
      | answerLost =>
        rw [Progress.next_error]
        exact hrun.forget
    exact ⟨hordered.forget, trivial, hheld, hordered⟩

namespace Publisher

abbrev Queues {α : Type} (p : PublisherProg α) (k : Progress) : Prop :=
  orderDiscipline.Follows (fun _ _ => True) p k

/-- By induction on the queue, which is what the loop still has to do. -/
theorem publishEach_queues {events : List OutboxRow} {k : Progress} (hqueue : k.queue = events)
    (hclaimed : events ⊆ k.held.claimed) (published : Nat) :
    Queues (publishEach published events) k := by
  induction events generalizing k published with
  | nil => exact .done trivial
  | cons event events ih =>
    obtain ⟨hevent, hevents⟩ := List.cons_subset.mp hclaimed
    unfold publishEach
    rw [Prog.perform_bind]
    refine .call ⟨⟨hevent, events, hqueue⟩, rfl⟩ (fun _ _ => ?_) fun _ => trivial
    rw [Prog.perform_bind]
    have hproduced : ∃ e ∈ event :: k.held.produced, e.id = event.id :=
      ⟨event, List.mem_cons_self, rfl⟩
    refine .call ⟨hproduced, rfl⟩ (fun _ _ => ?_) fun _ => trivial
    refine ih ?_ ?_ (published + 1)
    · show k.queue.tail = events
      rw [hqueue]
      rfl
    · exact hevents

theorem publishBatch_queues (batchSize : Int64) (k : Progress) :
    Queues (publishBatch batchSize) k := by
  unfold publishBatch claimUnpublished
  rw [Prog.perform_bind]
  refine .call ⟨trivial, rfl⟩ (fun events _ => ?_) fun _ => trivial
  exact publishEach_queues (k := k.learn (.claim _) (.ok events)) rfl (List.Subset.refl events) 0

theorem run_queues (batchSize : Int64) (ticks : Nat) (k : Progress) :
    Queues (run batchSize ticks) k := by
  induction ticks generalizing k with
  | zero => exact .done trivial
  | succ ticks ih =>
    have hbatch : orderDiscipline.Follows (fun _ _ => True)
        (publishBatch (configuredBatchSize batchSize)).attempt k :=
      .attempt (publishBatch_queues _ k)
    exact hbatch.bind (fun _ l _ => ih l) fun _ _ _ => trivial

end Publisher

/-- The outbox after the calls of a single publisher, from an empty one. -/
def publishedBy (batchSize : Int64) (ticks : Nat) (cs : List PublisherChoice) : OutboxWorld :=
  (Publisher.run batchSize ticks).runFor publisherMachine cs {}

/-- Every call of the publisher meets the condition. -/
def OrderlyRun (batchSize : Int64) (ticks : Nat) (cs : List PublisherChoice) : Prop :=
  (Publisher.run batchSize ticks).Along publisherMachine (fun o w c _ => c.Orderly o w) cs {}

instance (batchSize : Int64) (ticks : Nat) (cs : List PublisherChoice) :
    Decidable (OrderlyRun batchSize ticks cs) :=
  inferInstanceAs (Decidable (Prog.Along ..))

/-- A single publisher produces the events of a key in the order in which they were committed,
    whatever fails, while transactions commit in the order in which claims take their rows and
    claims return them in that order. -/
theorem key_order {batchSize : Int64} {ticks : Nat} {cs : List PublisherChoice}
    (h : OrderlyRun batchSize ticks cs) : (publishedBy batchSize ticks cs).KeyOrder := by
  have hempty : ({} : OutboxWorld).Ordered [] := by
    refine ⟨OutboxWorld.sound_empty, List.Pairwise.nil, ?_, OutboxWorld.queued_nil⟩
    intro pre e post hsplit
    cases pre <;> cases hsplit
  have hsafe : orderContract.Safe (Publisher.run batchSize ticks) () {} :=
    ((Publisher.run_queues batchSize ticks {}).holds orderDiscipline_sound
      ⟨⟨by simp, by simp⟩, hempty⟩).safe
  have hinv : OutboxWorld.Ordered (publishedBy batchSize ticks cs) [] := by
    apply hsafe.runFor_along hempty
    exact Prog.Along.imp (fun _ _ _ _ hc _ => hc) h
  exact hinv.keyOrder

namespace Sample

/-- Two transfers out of one wallet, one after the other. -/
def oneByOne : List TxStep :=
  [.start 1, .insert 0 7 (initiated "transfer-1"), .commit 0,
    .start 2, .insert 1 8 (initiated "transfer-2"), .commit 1]

/-- Two transfers out of one wallet: the first one to start waits for the wallet until the
    second one has committed. -/
def overlapping : List TxStep :=
  [.start 1, .start 2, .insert 1 8 (initiated "transfer-2"), .commit 1,
    .insert 0 7 (initiated "transfer-1"), .commit 0]

/-- The calls of a tick that publishes two rows, after the transactions. -/
def tick (txs : List TxStep) : List PublisherChoice := [{ txs := txs }, {}, {}, {}, {}]

end Sample

/-- Transfers one after the other are produced one after the other. -/
theorem key_order_one_by_one :
    OrderlyRun 100 1 (Sample.tick Sample.oneByOne) ∧
      (publishedBy 100 1 (Sample.tick Sample.oneByOne)).produced.map (·.id) = [7, 8] ∧
      (publishedBy 100 1 (Sample.tick Sample.oneByOne)).KeyOrder := by
  have horderly : OrderlyRun 100 1 (Sample.tick Sample.oneByOne) := by decide +kernel
  exact ⟨horderly, by decide +kernel, key_order horderly⟩

/-- The transfer that committed first is produced second, though nothing fails, no lock is in
    the way and the claim returns its rows in order. -/
theorem late_commit_overtakes :
    (publishedBy 100 1 (Sample.tick Sample.overlapping)).rows.map (·.id) = [8, 7] ∧
      (publishedBy 100 1 (Sample.tick Sample.overlapping)).produced.map (·.id) = [7, 8] ∧
      ¬ (publishedBy 100 1 (Sample.tick Sample.overlapping)).KeyOrder := by
  refine ⟨by decide +kernel, by decide +kernel, fun hkey => ?_⟩
  obtain ⟨pre, e, post, hproduced, a, b, hrows, hsame, hsameKey, hnil⟩ :
      ∃ pre e post, (publishedBy 100 1 (Sample.tick Sample.overlapping)).produced =
        pre ++ e :: post ∧ ∃ a b, [a, b] = (publishedBy 100 1
          (Sample.tick Sample.overlapping)).rows ∧ e.Same b ∧ a.SameKey b ∧ pre = [] :=
    ⟨[], _, _, rfl, _, _, rfl, ⟨rfl, rfl, rfl, rfl⟩, ⟨rfl, rfl⟩, rfl⟩
  obtain ⟨e', he', -⟩ := hkey pre e post hproduced a b (by rw [hrows]) hsame hsameKey
  rw [hnil] at he'
  cases he'

end EnjoyThings
