import EnjoyThings.ForStd.Discipline
import EnjoyThings.Services.Redrive
import EnjoyThings.Spec.DeadLetterReplay

/-!
# The redrive command loses no dead letter

A dead letter is decided once a replay of it was acknowledged by its source topic or it
was discarded. The runs of the command share the offsets of one group, and partitions
move between them at any time. A run hands itself records from where the committed
offset was, or from where its last poll ended, and it decides each record before it
goes on to the next; so all records before the one it commits are decided, whoever has
decided them.

## Key results

- `fetchRecords_inOrder`: what a poll returns, in the order of the partitions
- `run_careful`: a run commits a record only after it has decided it and what comes before
- `redrive_passes_decided`: the committed offsets pass decided records only, and a list
  moves none of them
-/

namespace EnjoyThings

open Effect

/-! ## Records in the order of their partitions -/

variable {c : Coordinates}

section

variable {B : Type} {finished finished' : Coordinates → Prop}

/-- Of every record, those before it in its partition are done or come earlier. -/
def InOrder (finished : Coordinates → Prop) : List (ConsumedRecord B) → Prop
  | [] => True
  | r :: records => (∀ offset < r.offset, finished (r.partition, offset)) ∧
      InOrder (fun c => finished c ∨ c = r.coordinates) records

theorem InOrder.mono (himp : ∀ c, finished c → finished' c) {records : List (ConsumedRecord B)}
    (h : InOrder finished records) : InOrder finished' records := by
  induction records generalizing finished finished' with
  | nil => trivial
  | cons r records ih =>
    refine ⟨fun offset hlt => himp _ (h.1 offset hlt), ih (fun c => ?_) h.2⟩
    exact Or.imp_left (himp c)

theorem InOrder.append {records records' : List (ConsumedRecord B)}
    (h : InOrder finished records)
    (h' : InOrder (fun c => finished c ∨ c ∈ records.map ConsumedRecord.coordinates) records') :
    InOrder finished (records ++ records') := by
  induction records generalizing finished with
  | nil => exact h'.mono fun c hc => by simpa using hc
  | cons r records ih =>
    refine ⟨h.1, ih h.2 (h'.mono fun c hc => ?_)⟩
    simpa [or_assoc] using hc

/-- Everything before the positions is done. -/
def Covers (finished : Coordinates → Prop) (positions : Int32 → Option Nat) : Prop :=
  ∀ partition n, positions partition = some n → ∀ offset < n, finished (partition, offset)

variable {topic : String} {partition : Int32}

theorem recordsOf_cons (start : Nat) (entry : B × B) (entries : List (B × B)) :
    recordsOf topic partition start (entry :: entries) =
      { topic := topic, partition := partition, offset := start, key := entry.1
        value := entry.2 } :: recordsOf topic partition (start + 1) entries := by
  simp [recordsOf, List.mapIdx_cons, Nat.add_assoc, Nat.add_comm 1]

variable {start : Nat} {entries : List (B × B)}

theorem mem_coordinates_recordsOf :
    c ∈ (recordsOf topic partition start entries).map ConsumedRecord.coordinates ↔
      c.1 = partition ∧ start ≤ c.2 ∧ c.2 < start + entries.length := by
  obtain ⟨q, offset⟩ := c
  induction entries generalizing start with
  | nil => simp [recordsOf]
  | cons entry entries ih =>
    rw [recordsOf_cons, List.map_cons, List.mem_cons, ih]
    simp only [ConsumedRecord.coordinates, Prod.mk.injEq, List.length_cons]
    constructor
    · rintro (⟨rfl, rfl⟩ | ⟨rfl, h⟩) <;> exact ⟨rfl, by omega⟩
    · rintro ⟨rfl, h⟩
      by_cases heq : offset = start
      · exact .inl ⟨rfl, heq⟩
      · exact .inr ⟨rfl, by omega⟩

theorem recordsOf_inOrder (h : ∀ offset < start, finished (partition, offset)) :
    InOrder finished (recordsOf topic partition start entries) := by
  induction entries generalizing start finished with
  | nil => trivial
  | cons entry entries ih =>
    rw [recordsOf_cons]
    refine ⟨h, ih fun offset hlt => ?_⟩
    by_cases heq : offset = start
    · exact .inr (by rw [heq]; rfl)
    · exact .inl (h offset (by omega))

variable {log : Int32 → List (B × B)}

theorem recordsOf_logged {count : Nat} {r : ConsumedRecord B}
    (h : r ∈ recordsOf topic partition start (((log partition).drop start).take count)) :
    (log r.partition)[r.offset]? = some (r.key, r.value) := by
  simp only [recordsOf, List.mem_mapIdx] at h
  obtain ⟨i, hi, rfl⟩ := h
  simp only [List.length_take, List.length_drop] at hi
  have hlt : start + i < (log partition).length := by omega
  simp [List.getElem?_eq_getElem hlt]

/-- What a poll returns comes in order, and what lies before the new positions is done or among
    the records. -/
theorem fetchRecords_inOrder (fetched : List (Int32 × Nat)) {positions : Int32 → Option Nat}
    (h : Covers finished positions) :
    InOrder finished (fetchRecords topic log positions fetched).1 ∧
      Covers (fun c => finished c ∨
          c ∈ (fetchRecords topic log positions fetched).1.map ConsumedRecord.coordinates)
        (fetchRecords topic log positions fetched).2 ∧
      ∀ r ∈ (fetchRecords topic log positions fetched).1,
        (log r.partition)[r.offset]? = some (r.key, r.value) := by
  induction fetched generalizing positions finished with
  | nil =>
    exact ⟨trivial, fun q n hn offset hlt => .inl (h q n hn offset hlt), by simp [fetchRecords]⟩
  | cons request rest ih =>
    obtain ⟨partition, count⟩ := request
    cases hp : positions partition with
    | none =>
      simp only [fetchRecords, hp]
      exact ih h
    | some start =>
      simp only [fetchRecords, hp]
      have hbefore := h partition start hp
      have hcovers : Covers
          (fun c => finished c ∨ c ∈ (recordsOf topic partition start
            (((log partition).drop start).take count)).map ConsumedRecord.coordinates)
          (Function.update positions partition
            (some (start + (((log partition).drop start).take count).length))) := by
        intro q n hn offset hlt
        by_cases hq : q = partition
        · subst hq
          rw [Function.update_self] at hn
          cases hn
          by_cases hstart : offset < start
          · exact .inl (hbefore offset hstart)
          · exact .inr (mem_coordinates_recordsOf.mpr ⟨rfl, by omega, hlt⟩)
        · rw [Function.update_of_ne hq] at hn
          exact .inl (h q n hn offset hlt)
      obtain ⟨horder, hcover, hlogged⟩ := ih hcovers
      refine ⟨(recordsOf_inOrder hbefore).append horder, fun q n hn offset hlt => ?_,
        fun r hr => ?_⟩
      · have := hcover q n hn offset hlt
        simpa [or_assoc] using this
      · rcases List.mem_append.mp hr with hr | hr
        · exact recordsOf_logged hr
        · exact hlogged r hr

end

/-! ## Decided records -/

variable {decision : RedriveDecision}

namespace RedriveWorld

variable {P B : Type} [Base64Lib] [JsonTextLib B] {w w' : RedriveWorld P B}

/-- A replay of the record at the coordinates was acknowledged by its source topic. -/
def Redriven (w : RedriveWorld P B) (c : Coordinates) : Prop :=
  ∃ e ∈ w.produced, e.1.coordinates = c ∧ (w.log c.1)[c.2]? = some (e.1.key, e.1.value) ∧
    ∃ payload override, DeadLetterPayload.decode e.1.value = .ok payload ∧
      e.2 = replay e.1 payload override

/-- The record at the coordinates was put back on its source topic or discarded. -/
def Decided (w : RedriveWorld P B) (c : Coordinates) : Prop :=
  w.Redriven c ∨ c ∈ w.discarded

/-- Records stay where they are, and nothing that is decided is taken back. -/
structure Grows (w w' : RedriveWorld P B) : Prop where
  log : ∀ q (offset : Nat) entry, (w.log q)[offset]? = some entry → (w'.log q)[offset]? = some entry
  produced : w.produced ⊆ w'.produced
  discarded : w.discarded ⊆ w'.discarded

omit [Base64Lib] [JsonTextLib B] in
theorem Grows.refl (w : RedriveWorld P B) : w.Grows w :=
  ⟨fun _ _ _ h => h, List.Subset.refl _, List.Subset.refl _⟩

omit [Base64Lib] [JsonTextLib B] in
theorem Grows.trans {w'' : RedriveWorld P B} (h : w.Grows w') (h' : w'.Grows w'') :
    w.Grows w'' :=
  ⟨fun q offset entry he => h'.log q offset entry (h.log q offset entry he),
    List.Subset.trans h.produced h'.produced, List.Subset.trans h.discarded h'.discarded⟩

theorem Grows.decided (h : w.Grows w') (hc : w.Decided c) : w'.Decided c := by
  cases hc with
  | inl hc =>
    obtain ⟨e, he, hcoordinates, hlog, hreplay⟩ := hc
    exact .inl ⟨e, h.produced he, hcoordinates, h.log _ _ _ hlog, hreplay⟩
  | inr hc => exact .inr (h.discarded hc)

/-- The offsets pass decided records only, and what lies before a member's position is decided
    or was handed to the member. -/
structure Guarded (w : RedriveWorld P B) : Prop where
  committed : ∀ q, ∀ offset < w.committed q, w.Decided (q, offset)
  positions : ∀ p, Covers (fun c => w.Decided c ∨ c ∈ w.handed p) (w.positions p)

/-- Of what the member was handed, the records are left, in order. -/
structure Pending (w : RedriveWorld P B) (p : P) (records : List (ConsumedRecord B)) : Prop where
  handed : ∀ c ∈ w.handed p, w.Decided c ∨ c ∈ records.map ConsumedRecord.coordinates
  ordered : InOrder w.Decided records
  logged : ∀ r ∈ records, (w.log r.partition)[r.offset]? = some (r.key, r.value)

theorem Pending.grows {p : P} {records : List (ConsumedRecord B)} (h : w.Pending p records)
    (hg : w.Grows w') (hhanded : w'.handed p = w.handed p) : w'.Pending p records where
  handed c hc := by
    rw [hhanded] at hc
    exact (h.handed c hc).imp_left hg.decided
  ordered := h.ordered.mono fun _ => hg.decided
  logged r hr := hg.log _ _ _ (h.logged r hr)

/-- The first record is decided, and the others are left. -/
theorem Pending.tail {p : P} {r : ConsumedRecord B} {records : List (ConsumedRecord B)}
    (h : w.Pending p (r :: records)) (hr : w.Decided r.coordinates) : w.Pending p records where
  handed c hc := by
    rcases h.handed c hc with hd | hmem
    · exact .inl hd
    · rcases List.mem_cons.mp hmem with rfl | hmem
      · exact .inl hr
      · exact .inr hmem
  ordered := h.ordered.2.mono fun c hc => hc.elim id fun heq => heq ▸ hr
  logged r' hr' := h.logged r' (List.mem_cons_of_mem _ hr')

/-! ### What the calls do -/

variable [DecidableEq P]

omit [Base64Lib] [JsonTextLib B] [DecidableEq P] in
theorem grows_commitRecords (w : RedriveWorld P B) (decision : RedriveDecision)
    (parked : ConsumedRecord B) : w.Grows (w.commitRecords decision parked) := by
  refine ⟨fun _ _ _ h => h, List.Subset.refl _, ?_⟩
  cases decision <;> simp [commitRecords]

omit [DecidableEq P] in
/-- A record that is decided when its offset is committed, as all those before it are. -/
theorem Guarded.commitRecords (h : w.Guarded) {p : P} {parked : ConsumedRecord B}
    {records : List (ConsumedRecord B)} (hpending : w.Pending p (parked :: records))
    (hdecided : (w.commitRecords decision parked).Decided parked.coordinates) :
    (w.commitRecords decision parked).Guarded := by
  have hgrows := w.grows_commitRecords decision parked
  constructor
  · intro q offset hlt
    by_cases hq : q = parked.partition
    · subst hq
      simp only [RedriveWorld.commitRecords, Function.update_self] at hlt
      by_cases heq : offset = parked.offset
      · exact heq ▸ hdecided
      · exact hgrows.decided (hpending.ordered.1 offset (by omega))
    · simp only [RedriveWorld.commitRecords, Function.update_of_ne hq] at hlt
      exact hgrows.decided (h.committed q offset hlt)
  · intro p q n hn offset hlt
    exact (h.positions p q n hn offset hlt).imp_left hgrows.decided

omit [Base64Lib] [JsonTextLib B] in
theorem grows_newClient (w : RedriveWorld P B) (p : P) : w.Grows (w.newClient p) :=
  ⟨fun _ _ _ h => h, List.Subset.refl _, List.Subset.refl _⟩

/-- A new member was handed nothing. -/
theorem newClient_pending (w : RedriveWorld P B) (p : P) : (w.newClient p).Pending p [] :=
  ⟨by simp [newClient], trivial, by simp⟩

theorem Guarded.newClient (h : w.Guarded) (p : P) : (w.newClient p).Guarded := by
  refine ⟨h.committed, fun q => ?_⟩
  by_cases hq : q = p
  · subst hq
    simp [RedriveWorld.newClient, Covers]
  · intro q' n hn offset hlt
    simp only [RedriveWorld.newClient, Function.update_of_ne hq] at hn ⊢
    exact h.positions q q' n hn offset hlt

/-- A poll of a member that has decided everything it was handed. -/
theorem Pending.poll {topic : String} {p : P} (hw : w.Guarded) (h : w.Pending p [])
    (fetched : List (Int32 × Nat)) :
    (w.poll topic p fetched).2.Pending p (w.poll topic p fetched).1 := by
  have hcovers : Covers w.Decided (w.positions p) := fun q n hn offset hlt =>
    (hw.positions p q n hn offset hlt).elim id fun hmem => (h.handed _ hmem).elim id (by simp)
  obtain ⟨horder, -, hlogged⟩ := @fetchRecords_inOrder _ _ topic w.log fetched _ hcovers
  refine ⟨fun c hc => ?_, horder, hlogged⟩
  simp only [RedriveWorld.poll, Function.update_self] at hc ⊢
  rcases List.mem_append.mp hc with hc | hc
  · exact .inl ((h.handed c hc).elim id (by simp))
  · exact .inr hc

theorem Guarded.poll (h : w.Guarded) (topic : String) (p : P) (fetched : List (Int32 × Nat)) :
    (w.poll topic p fetched).2.Guarded := by
  refine ⟨h.committed, fun q => ?_⟩
  by_cases hq : q = p
  · subst hq
    obtain ⟨-, hcovers, -⟩ := @fetchRecords_inOrder _ _ topic w.log fetched _ (h.positions q)
    intro q' n hn offset hlt
    simp only [RedriveWorld.poll, Function.update_self] at hn ⊢
    rw [List.mem_append, ← or_assoc]
    exact hcovers q' n hn offset hlt
  · intro q' n hn offset hlt
    simp only [RedriveWorld.poll, Function.update_of_ne hq] at hn ⊢
    exact h.positions q q' n hn offset hlt

theorem Guarded.setPosition (h : w.Guarded) {p : P} {q : Int32} {position : Option Nat}
    (hposition : ∀ n ∈ position, ∀ offset < n, w.Decided (q, offset)) :
    (w.setPosition p q position).Guarded := by
  refine ⟨h.committed, fun p' q' n hn offset hlt => ?_⟩
  by_cases hp : p' = p
  · subst hp
    simp only [RedriveWorld.setPosition, Function.update_self] at hn
    by_cases hq : q' = q
    · subst hq
      rw [Function.update_self] at hn
      exact .inl (hposition n hn offset hlt)
    · rw [Function.update_of_ne hq] at hn
      exact h.positions p' q' n hn offset hlt
  · simp only [RedriveWorld.setPosition, Function.update_of_ne hp] at hn
    exact h.positions p' q' n hn offset hlt

/-- What happens besides decides nothing, and a new position is a committed offset. -/
theorem Guarded.happen (h : w.Guarded) (event : RedriveEvent P B) :
    (w.happen event).Guarded ∧ w.Grows (w.happen event) ∧ (w.happen event).handed = w.handed := by
  cases event with
  | park q entry =>
    have hgrows : w.Grows (w.happen (.park q entry)) := by
      refine ⟨fun q' offset e he => ?_, List.Subset.refl _, List.Subset.refl _⟩
      by_cases hq : q' = q
      · subst hq
        simp only [RedriveWorld.happen, Function.update_self]
        rw [List.getElem?_append_left (List.getElem?_eq_some_iff.mp he).1]
        exact he
      · simpa only [RedriveWorld.happen, Function.update_of_ne hq] using he
    refine ⟨⟨fun q' offset hlt => hgrows.decided (h.committed q' offset hlt), ?_⟩, hgrows, rfl⟩
    intro p q' n hn offset hlt
    exact (h.positions p q' n hn offset hlt).imp_left hgrows.decided
  | assign p q =>
    refine ⟨h.setPosition fun n hn => ?_, ⟨fun _ _ _ h => h, fun _ h => h, fun _ h => h⟩, rfl⟩
    cases hn
    exact h.committed q
  | revoke p q =>
    refine ⟨h.setPosition fun n hn => ?_, ⟨fun _ _ _ h => h, fun _ h => h, fun _ h => h⟩, rfl⟩
    cases hn

end RedriveWorld

/-! ## What a run knows -/

/-- What a run knows: nothing, which records it has left, or that it has also replayed the
    first of them. -/
inductive RedriveKnowledge (B : Type)
  | nothing
  | pending (records : List (ConsumedRecord B))
  | replayed (parked : ConsumedRecord B) (records : List (ConsumedRecord B))

namespace RedriveKnowledge

variable {B : Type}

/-- What is left after a record is decided. -/
def rest : RedriveKnowledge B → RedriveKnowledge B
  | .pending (_ :: records) | .replayed _ records => .pending records
  | .nothing | .pending [] => .nothing

/-- What an answer teaches. -/
def learn (known : RedriveKnowledge B) :
    (o : RedriveOp B) → Except RedriveErr o.Ret → RedriveKnowledge B
  | .newClient, .ok _ => .pending []
  | .poll, .ok records =>
    match known with
    | .pending [] => .pending records
    | _ => .nothing
  | .produce _ _, .ok _ =>
    match known with
    | .pending (parked :: records) => .replayed parked records
    | _ => .nothing
  | .commitRecords _ _, .ok _ => known.rest
  | _, .error _ => .nothing

variable [Base64Lib] [JsonTextLib B]

/-- The next record is replayed as it decodes, and it is committed when it was replayed or is
    discarded. A list commits nothing. -/
def MayCall (action : RedriveAction) (known : RedriveKnowledge B) : RedriveOp B → Prop
  | .newClient | .poll => True
  | .produce parked record => ∃ records payload override, known = .pending (parked :: records) ∧
      DeadLetterPayload.decode parked.value = .ok payload ∧
      record = replay parked payload override
  | .commitRecords .discarded parked => action ≠ .list ∧
      ∃ records, known = .pending (parked :: records)
  | .commitRecords .redriven parked => action ≠ .list ∧
      ∃ records, known = .replayed parked records

/-- What the knowledge of a member says about the world. -/
def Knows {P : Type} (w : RedriveWorld P B) (p : P) : RedriveKnowledge B → Prop
  | .nothing => True
  | .pending records => w.Pending p records
  | .replayed parked records =>
    w.Pending p (parked :: records) ∧ w.Decided parked.coordinates

end RedriveKnowledge

section

variable {P B : Type} [DecidableEq P] [Base64Lib] [JsonTextLib B]

variable (B) in
def redriveDiscipline (action : RedriveAction) :
    Discipline (RedriveOp B) RedriveOp.Ret RedriveErr (RedriveKnowledge B) where
  move known o learn := known.MayCall action o ∧ learn = known.learn o
  answer _ _ := True
  le known known' := known' = .nothing ∨ known' = known
  le_refl _ := .inr rfl
  le_trans := by
    rintro k l m (rfl | rfl) (rfl | rfl) <;> simp

/-- The runs rely on each other to take back no decision and to leave their own records alone. -/
def redriveTerms (topic : String) (opts : P → RedriveOptions) :
    (redriveRuns (B := B) topic opts).Terms where
  inv w := w.Guarded
  rely p w w' := w.Grows w' ∧ w'.handed p = w.handed p
  guar p w w' := w.Grows w' ∧ (∀ q, p ≠ q → w'.handed q = w.handed q) ∧
    ((opts p).action = .list → w'.committed = w.committed)
  rely_refl p w := ⟨.refl w, rfl⟩
  rely_trans p _ _ _ h h' := ⟨h.1.trans h'.1, h'.2.trans h.2⟩
  relies hpq h := ⟨h.1, h.2.1 _ hpq⟩
  drift event {w} h := by
    obtain ⟨hguarded, hgrows, hhanded⟩ := h.happen event
    exact ⟨hguarded, fun q => ⟨hgrows, congrFun hhanded q⟩⟩
  crash p {w} h := ⟨h, fun q _ => ⟨.refl w, rfl⟩⟩

omit [DecidableEq P] in
theorem RedriveKnowledge.Knows.grows {p : P} {w w' : RedriveWorld P B}
    {known : RedriveKnowledge B} (h : known.Knows w p) (hg : w.Grows w')
    (hhanded : w'.handed p = w.handed p) : known.Knows w' p := by
  cases known with
  | nothing => trivial
  | pending records => exact RedriveWorld.Pending.grows h hg hhanded
  | replayed parked records =>
    exact ⟨RedriveWorld.Pending.grows h.1 hg hhanded, hg.decided h.2⟩

omit [DecidableEq P] in
/-- A commit that the discipline allows. -/
theorem commit_sound {p : P} {w : RedriveWorld P B} {action : RedriveAction}
    {known : RedriveKnowledge B} {parked : ConsumedRecord B}
    (hmay : known.MayCall action (.commitRecords decision parked)) (hw : w.Guarded)
    (hk : known.Knows w p) :
    (w.commitRecords decision parked).Guarded ∧
      known.rest.Knows (w.commitRecords decision parked) p := by
  have hgrows := w.grows_commitRecords decision parked
  -- the record is decided with the commit, or it was before
  obtain ⟨records, hpending, hdecided, hrest⟩ : ∃ records, w.Pending p (parked :: records) ∧
      (w.commitRecords decision parked).Decided parked.coordinates ∧
      known.rest = .pending records := by
    cases decision with
    | discarded =>
      obtain ⟨-, records, rfl⟩ := hmay
      exact ⟨records, hk, .inr (by simp [RedriveWorld.commitRecords]), rfl⟩
    | redriven =>
      obtain ⟨-, records, rfl⟩ := hmay
      exact ⟨records, hk.1, hgrows.decided hk.2, rfl⟩
  refine ⟨hw.commitRecords hpending hdecided, ?_⟩
  rw [hrest]
  exact (hpending.grows hgrows rfl).tail hdecided

omit [DecidableEq P] in
/-- A replay that the discipline allows. -/
theorem produce_sound {p : P} {w w' : RedriveWorld P B} {action : RedriveAction}
    {known : RedriveKnowledge B} {parked : ConsumedRecord B} {record : ReplayedRecord}
    (hmay : known.MayCall action (.produce parked record)) (hw : w.Guarded)
    (hk : known.Knows w p)
    (heq : w' = { w with produced := w.produced ++ [(parked, record)] }) :
    w'.Guarded ∧ w.Grows w' ∧ (known.learn (.produce parked record) (.ok ())).Knows w' p := by
  have hgrows : w.Grows w' := by
    subst heq
    exact ⟨fun _ _ _ h => h, List.subset_append_left _ _, List.Subset.refl _⟩
  obtain ⟨records, payload, override, rfl, hdecode, rfl⟩ := hmay
  have hlogged := hgrows.log _ _ _ (hk.logged parked List.mem_cons_self)
  have hredriven : w'.Decided parked.coordinates := by
    refine .inl ⟨(parked, replay parked payload override), ?_, rfl, hlogged, payload, override,
      hdecode, rfl⟩
    simp [heq]
  have hhanded : w'.handed = w.handed := by rw [heq]
  refine ⟨⟨?_, ?_⟩, hgrows, hk.grows hgrows (congrFun hhanded p), hredriven⟩
  · intro q offset hlt
    rw [heq] at hlt
    exact hgrows.decided (hw.committed q offset hlt)
  · intro q
    have hpositions : w'.positions = w.positions := by rw [heq]
    rw [hpositions, hhanded]
    exact fun q' n hn offset hlt => (hw.positions q q' n hn offset hlt).imp_left hgrows.decided

theorem redriveDiscipline_sound (topic : String) (opts : P → RedriveOptions) (p : P) :
    (redriveDiscipline B (opts p).action).Sound ((redriveTerms topic opts).contract p)
      fun known _ w => known.Knows w p where
  mono := by
    rintro k l _ w (rfl | rfl) hk
    · trivial
    · exact hk
  stable hk hr _ := hk.grows hr.1 hr.2
  answers _ _ _ := trivial
  step {known o learn _ w c} hmove hw hk _ := by
    obtain ⟨hmay, rfl⟩ := hmove
    -- a call that fails leaves the world as it is, except for a commit whose answer is lost
    have hfailed : ∀ o : RedriveOp B, w.Guarded ∧ ((redriveTerms topic opts).guar p w w) ∧
        (known.learn o (.error .failed)).Knows w p := by
      intro o
      refine ⟨hw, ⟨.refl w, fun _ _ => rfl, fun _ => rfl⟩, ?_⟩
      cases o <;> trivial
    cases o with
    | newClient =>
      by_cases hf : c.fault = .none
      · simp only [redriveRuns, RedriveOp.exec, hf, ↓reduceIte]
        exact ⟨hw.newClient p, ⟨w.grows_newClient p, fun q hq => Function.update_of_ne hq.symm _ _,
          fun _ => rfl⟩, w.newClient_pending p⟩
      · simp only [redriveRuns, RedriveOp.exec, hf, ↓reduceIte]
        exact hfailed .newClient
    | poll =>
      by_cases hf : c.fault = .none
      · simp only [redriveRuns, RedriveOp.exec, hf, ↓reduceIte]
        refine ⟨hw.poll _ p _, ⟨⟨fun _ _ _ h => h, fun _ h => h, fun _ h => h⟩,
          fun q hq => Function.update_of_ne hq.symm _ _, fun _ => rfl⟩, ?_⟩
        match known, hk with
        | .pending [], hk => exact RedriveWorld.Pending.poll hw hk _
        | .pending (_ :: _), _ | .nothing, _ | .replayed _ _, _ => trivial
      · simp only [redriveRuns, RedriveOp.exec, hf, ↓reduceIte]
        exact hfailed .poll
    | produce parked record =>
      by_cases hf : c.fault = .none
      · simp only [redriveRuns, RedriveOp.exec, hf, ↓reduceIte]
        obtain ⟨hguarded, hgrows, hknows⟩ := produce_sound hmay hw hk rfl
        exact ⟨hguarded, ⟨hgrows, fun _ _ => rfl, fun _ => rfl⟩, hknows⟩
      · simp only [redriveRuns, RedriveOp.exec, hf, ↓reduceIte]
        exact hfailed (.produce parked record)
    | commitRecords decision parked =>
      obtain ⟨hguarded, hknows⟩ := commit_sound hmay hw hk
      have hmoves : (opts p).action ≠ .list := by
        cases decision <;> exact hmay.1
      have hguar : (redriveTerms topic opts).guar p w (w.commitRecords decision parked) :=
        ⟨w.grows_commitRecords decision parked, fun _ _ => rfl, fun hlist => absurd hlist hmoves⟩
      cases hf : c.fault with
      | none =>
        simp only [redriveRuns, RedriveOp.exec, hf]
        exact ⟨hguarded, hguar, hknows⟩
      | notDelivered =>
        simp only [redriveRuns, RedriveOp.exec, hf]
        exact hfailed (.commitRecords decision parked)
      | answerLost =>
        simp only [redriveRuns, RedriveOp.exec, hf]
        exact ⟨hguarded, hguar, trivial⟩

end

/-! ## The runs -/

section

variable {B : Type} [Base64Lib] [JsonTextLib B] {action : RedriveAction}

/-- What a run knows of the records it has left. A list decides nothing and needs to know
    nothing. -/
def RedriveKnowledge.left (action : RedriveAction) (records : List (ConsumedRecord B)) :
    RedriveKnowledge B :=
  if action = .list then .nothing else .pending records

theorem decide_careful (parked : ConsumedRecord B) (records : List (ConsumedRecord B))
    (override : Option Bytes) :
    (redriveDiscipline B action).Follows
      (fun r known => r = .ok () → known = .left action records)
      (Redrive.decide action parked override) (.left action (parked :: records)) := by
  cases action with
  | list => exact .done fun _ => rfl
  | discard =>
    refine .perform ⟨⟨by decide, records, rfl⟩, rfl⟩ fun r _ => ?_
    rintro rfl
    rfl
  | redrive =>
    unfold Redrive.decide
    cases hdecode : DeadLetterPayload.decode parked.value with
    | error cause => exact .fail (by simp)
    | ok payload =>
      simp only [Prog.perform_bind]
      refine .call ⟨⟨records, payload, override, rfl, hdecode, rfl⟩, rfl⟩ (fun _ _ => ?_) (by simp)
      refine .perform ⟨⟨by decide, records, rfl⟩, rfl⟩ fun r _ => ?_
      rintro rfl
      rfl

/-- By induction on the records of a poll: the run has none of them left, or it has seen as many
    as it may. -/
theorem decideAll_careful (opts : RedriveOptions) (records : List (ConsumedRecord B))
    (seen : Nat) :
    (redriveDiscipline B opts.action).Follows
      (fun r known => ∀ n, r = .ok n → known = .left opts.action [] ∨
        (opts.max ≠ 0 ∧ opts.max ≤ n))
      (Redrive.decideAll opts records seen) (.left opts.action records) := by
  induction records generalizing seen with
  | nil => exact .done fun _ _ => .inl rfl
  | cons parked records ih =>
    unfold Redrive.decideAll
    by_cases hmax : opts.max ≠ 0 ∧ opts.max ≤ seen
    · rw [if_pos hmax]
      refine .done fun n hn => .inr ?_
      cases hn
      exact hmax
    · rw [if_neg hmax]
      refine (decide_careful parked records opts.override).bind (fun _ known hknown => ?_) ?_
      · rw [hknown rfl]
        exact ih (seen + 1)
      · simp

theorem pollLoop_careful (opts : RedriveOptions) (polls seen : Nat) :
    (redriveDiscipline B opts.action).Follows (fun _ _ => True)
      (Redrive.pollLoop opts polls seen) (.left opts.action []) := by
  induction polls generalizing seen with
  | zero => exact .done trivial
  | succ polls ih =>
    unfold Redrive.pollLoop
    by_cases hmore : opts.max = 0 ∨ seen < opts.max
    · rw [if_pos hmore, Prog.perform_bind]
      refine .call ⟨trivial, rfl⟩ (fun records _ => ?_) fun _ => trivial
      by_cases hempty : records.isEmpty
      · rw [if_pos hempty]
        exact .done trivial
      · rw [if_neg hempty]
        have hleft : (RedriveKnowledge.left opts.action []).learn (.poll : RedriveOp B)
            (.ok records) = .left opts.action records := by
          unfold RedriveKnowledge.left
          split <;> rfl
        rw [hleft]
        refine (decideAll_careful opts records seen).bind (fun n known hknown => ?_)
          fun _ _ _ => trivial
        rcases hknown n rfl with rfl | hmax
        · exact ih n
        · -- the loop ends, as the run has seen enough
          cases polls with
          | zero => exact .done trivial
          | succ polls =>
            unfold Redrive.pollLoop
            rw [if_neg (by omega)]
            exact .done trivial
    · rw [if_neg hmore]
      exact .done trivial

/-- A run commits a record only after it has decided it and all that comes before it. -/
theorem run_careful (opts : RedriveOptions) (polls : Nat) :
    (redriveDiscipline B opts.action).Follows (fun _ _ => True) (Redrive.run opts polls)
      .nothing := by
  unfold Redrive.run
  rw [Prog.perform_bind]
  refine .call ⟨trivial, rfl⟩ (fun _ _ => ?_) fun _ => trivial
  have hleft : (redriveDiscipline B opts.action).le
      (RedriveKnowledge.nothing.learn (.newClient : RedriveOp B) (.ok ()))
      (.left opts.action []) := by
    unfold RedriveKnowledge.left
    split
    · exact .inl rfl
    · exact .inr rfl
  exact ((pollLoop_careful opts polls 0).weaken hleft).bind (fun _ _ _ => .done trivial)
    fun _ _ _ => trivial

end

end EnjoyThings
