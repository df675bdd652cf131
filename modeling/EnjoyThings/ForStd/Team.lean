import Mathlib.Logic.Function.Basic
import EnjoyThings.ForStd.RelyGuarantee

/-!
# Teams of parties

Parties that work on one world, each with its own machine and with at most one program
at a time: a party that is idle takes a request, runs the program for it step by step,
and is idle again when the program ends or the party crashes. The steps of different
parties interleave in any order, and the world also moves by itself.

Other than in a `Pool`, what a party relies on may differ from party to party, so that
a party may rely on what only its own steps can do.

## Key results

- `Team.run_inv`: every run keeps the invariant the parties share
- `Team.run_moves`: every run moves the world along a relation that covers all steps
-/

namespace Effect

variable {P Op : Type} {Ret : Op → Type} {ε W G C Q E : Type}

/-- What the parties do with requests, and what happens besides: `drift` is a step the world
    takes by itself, and `crash` is what the crash of a party does to the world. -/
structure Company (P Op : Type) (Ret : Op → Type) (ε W G C Q E : Type) where
  machine : P → Machine Op Ret ε W G C
  handle : P → Q → Prog Op Ret ε Unit
  fresh : G
  drift : E → W → W
  crash : P → W → W

/-- The world and the program of each party. -/
structure Team (P Op : Type) (Ret : Op → Type) (ε W G : Type) where
  world : W
  running : P → Option (G × Prog Op Ret ε Unit)

inductive TeamAct (P Q C E : Type)
  | deliver (p : P) (q : Q)
  | step (p : P) (c : C)
  | crash (p : P)
  | drift (e : E)

namespace Team

/-- Nobody has anything to do. -/
def idle (w : W) : Team P Op Ret ε W G :=
  { world := w, running := fun _ => none }

variable [DecidableEq P]

/-- The party runs the program, or none. -/
def set (T : Team P Op Ret ε W G) (p : P) (thread : Option (G × Prog Op Ret ε Unit)) :
    Team P Op Ret ε W G :=
  { T with running := Function.update T.running p thread }

/-- One step of a party in its thread. -/
def advance (S : Company P Op Ret ε W G C Q E) (T : Team P Op Ret ε W G) (p : P) (c : C) :
    Option (G × Prog Op Ret ε Unit) → Team P Op Ret ε W G
  | some (g, .call o k) =>
    let r := (S.machine p).exec c o T.world
    { T.set p (some ((S.machine p).see g o r.1, k r.1)) with world := r.2 }
  | some (_, .done _) | some (_, .fail _) => T.set p none
  | none => T

def act (S : Company P Op Ret ε W G C Q E) (T : Team P Op Ret ε W G) :
    TeamAct P Q C E → Team P Op Ret ε W G
  | .deliver p q => if (T.running p).isNone then T.set p (some (S.fresh, S.handle p q)) else T
  | .step p c => T.advance S p c (T.running p)
  | .crash p => { T.set p none with world := S.crash p T.world }
  | .drift e => { T with world := S.drift e T.world }

def run (S : Company P Op Ret ε W G C Q E) (T : Team P Op Ret ε W G)
    (acts : List (TeamAct P Q C E)) : Team P Op Ret ε W G :=
  acts.foldl (Team.act S) T

theorem run_append (S : Company P Op Ret ε W G C Q E) (T : Team P Op Ret ε W G)
    (acts acts' : List (TeamAct P Q C E)) : T.run S (acts ++ acts') = (T.run S acts).run S acts' :=
  List.foldl_append

/-- What an act can do to the world. -/
theorem act_world (S : Company P Op Ret ε W G C Q E) (T : Team P Op Ret ε W G)
    (a : TeamAct P Q C E) :
    (T.act S a).world = T.world ∨
      (∃ p c o, a = .step p c ∧ (T.act S a).world = ((S.machine p).exec c o T.world).2) ∨
      (∃ p, a = .crash p ∧ (T.act S a).world = S.crash p T.world) ∨
      ∃ e, a = .drift e ∧ (T.act S a).world = S.drift e T.world := by
  cases a with
  | deliver p q =>
    simp only [Team.act]
    split <;> exact .inl rfl
  | step p c =>
    simp only [Team.act]
    cases T.running p with
    | none => exact .inl rfl
    | some thread =>
      obtain ⟨g, prog⟩ := thread
      cases prog with
      | done _ => exact .inl rfl
      | fail _ => exact .inl rfl
      | call o k => exact .inr (.inl ⟨p, c, o, rfl, rfl⟩)
  | crash p => exact .inr (.inr (.inl ⟨p, rfl, rfl⟩))
  | drift e => exact .inr (.inr (.inr ⟨e, rfl, rfl⟩))

end Team

/-- A contract for every party, with the invariant they share. The steps of one party are steps
    the others rely on, and so is what happens besides. -/
structure Company.Terms (S : Company P Op Ret ε W G C Q E) where
  inv : W → Prop
  rely : P → W → W → Prop
  guar : P → W → W → Prop
  rely_refl : ∀ p w, rely p w w
  rely_trans : ∀ p {u v w}, rely p u v → rely p v w → rely p u w
  relies : ∀ {p q w w'}, p ≠ q → guar p w w' → rely q w w'
  drift : ∀ e {w}, inv w → inv (S.drift e w) ∧ ∀ q, rely q w (S.drift e w)
  crash : ∀ p {w}, inv w → inv (S.crash p w) ∧ ∀ q, p ≠ q → rely q w (S.crash p w)

namespace Company.Terms

variable {S : Company P Op Ret ε W G C Q E} (K : S.Terms)

/-- The contract of one party, under any choice. -/
def contract (p : P) : Contract (S.machine p) where
  allow _ _ _ _ := True
  inv := K.inv
  rely := K.rely p
  guar := K.guar p
  rely_refl := K.rely_refl p
  rely_trans := K.rely_trans p

/-- The invariant holds, and every program that runs meets its contract. -/
structure Kept (T : Team P Op Ret ε W G) : Prop where
  inv : K.inv T.world
  safe : ∀ p g prog, T.running p = some (g, prog) → (K.contract p).Safe prog g T.world

variable {K}

theorem Kept.idle {w : W} (h : K.inv w) : K.Kept (Team.idle w) :=
  ⟨h, by simp [Team.idle]⟩

variable [DecidableEq P] {req : Q → Prop}

/-- A party starts or ends while the world stands still or moves by itself. -/
theorem Kept.set {T : Team P Op Ret ε W G} (h : K.Kept T) (p : P) {w : W} (hi : K.inv w)
    (hrely : ∀ q, p ≠ q → K.rely q T.world w) {thread : Option (G × Prog Op Ret ε Unit)}
    (hsafe : ∀ g prog, thread = some (g, prog) → (K.contract p).Safe prog g w) :
    K.Kept { T.set p thread with world := w } := by
  refine ⟨hi, fun q g prog hq => ?_⟩
  by_cases hpq : q = p
  · subst hpq
    apply hsafe
    rw [← hq]
    exact (Function.update_self q thread T.running).symm
  · have hq' : T.running q = some (g, prog) := by
      rw [← hq]
      exact (Function.update_of_ne hpq _ _).symm
    exact Contract.Holds.stable (h.safe q g prog hq') (hrely q (Ne.symm hpq))

/-- One step of a thread keeps the terms and is a `guar` step of its party. -/
theorem Kept.advance {T : Team P Op Ret ε W G} (h : K.Kept T) (p : P) (c : C) :
    K.Kept (T.advance S p c (T.running p)) ∧
      (K.guar p T.world (T.advance S p c (T.running p)).world ∨
        (T.advance S p c (T.running p)).world = T.world) := by
  have hstays : K.Kept (T.set p none) :=
    h.set p h.inv (fun q _ => K.rely_refl q _) (by simp)
  cases hp : T.running p with
  | none => exact ⟨h, .inr rfl⟩
  | some thread =>
    obtain ⟨g, prog⟩ := thread
    cases prog with
    | done a => exact ⟨hstays, .inr rfl⟩
    | fail e => exact ⟨hstays, .inr rfl⟩
    | call o k =>
      obtain ⟨hinv, hguar, hnext⟩ :=
        h.safe p g _ hp T.world (K.rely_refl p _) h.inv c trivial
      refine ⟨⟨hinv, fun q g' prog hq => ?_⟩, .inl hguar⟩
      -- the party itself goes on, and the others rely on its step
      by_cases hpq : q = p
      · subst hpq
        have hthread := (Function.update_self q _ T.running).symm.trans hq
        cases hthread
        exact hnext
      · have hq' : T.running q = some (g', prog) := by
          rw [← hq]
          exact (Function.update_of_ne hpq _ _).symm
        exact Contract.Holds.stable (h.safe q g' prog hq') (K.relies (Ne.symm hpq) hguar)

variable (hsafe : ∀ p q w, req q → K.inv w → (K.contract p).Safe (S.handle p q) S.fresh w)
include hsafe

/-- One act keeps the terms and moves the world along any relation that covers all steps. -/
theorem Kept.act {R : W → W → Prop} (hrefl : ∀ w, R w w)
    (hguar : ∀ p {w w'}, K.guar p w w' → R w w') (hdrift : ∀ e {w}, K.inv w → R w (S.drift e w))
    (hcrash : ∀ p {w}, K.inv w → R w (S.crash p w)) {T : Team P Op Ret ε W G} (h : K.Kept T)
    (a : TeamAct P Q C E) (hreq : ∀ p q, a = .deliver p q → req q) :
    K.Kept (T.act S a) ∧ R T.world (T.act S a).world := by
  cases a with
  | deliver p q =>
    by_cases hidle : (T.running p).isNone
    · simp only [Team.act, hidle, ↓reduceIte]
      refine ⟨h.set p h.inv (fun q _ => K.rely_refl q _) ?_, hrefl _⟩
      rintro _ _ ⟨rfl⟩
      exact hsafe p q _ (hreq p q rfl) h.inv
    · simp only [Team.act, hidle, Bool.false_eq_true, ↓reduceIte]
      exact ⟨h, hrefl _⟩
  | step p c =>
    obtain ⟨hkept, hmoved⟩ := h.advance p c
    refine ⟨hkept, ?_⟩
    cases hmoved with
    | inl hg => exact hguar p hg
    | inr heq =>
      show R T.world (T.advance S p c (T.running p)).world
      rw [heq]
      exact hrefl _
  | crash p =>
    obtain ⟨hi, hrely⟩ := K.crash p h.inv
    exact ⟨h.set p hi hrely (by simp), hcrash p h.inv⟩
  | drift e =>
    obtain ⟨hi, hrely⟩ := K.drift e h.inv
    refine ⟨⟨hi, fun q g prog hq => ?_⟩, hdrift e h.inv⟩
    exact Contract.Holds.stable (h.safe q g prog hq) (hrely q)

end Company.Terms

namespace Team

variable {S : Company P Op Ret ε W G C Q E} {K : S.Terms} [DecidableEq P] {req : Q → Prop}

/-- From any state that keeps the terms a run moves the world along a relation that covers all
    steps, and keeps the terms. -/
theorem run_moves (hsafe : ∀ p q w, req q → K.inv w → (K.contract p).Safe (S.handle p q) S.fresh w)
    {R : W → W → Prop} (hrefl : ∀ w, R w w) (htrans : ∀ {u v w}, R u v → R v w → R u w)
    (hguar : ∀ p {w w'}, K.guar p w w' → R w w') (hdrift : ∀ e {w}, K.inv w → R w (S.drift e w))
    (hcrash : ∀ p {w}, K.inv w → R w (S.crash p w)) {T : Team P Op Ret ε W G} (h : K.Kept T)
    {acts : List (TeamAct P Q C E)} (hreq : ∀ p q, .deliver p q ∈ acts → req q) :
    K.Kept (T.run S acts) ∧ R T.world (T.run S acts).world := by
  induction acts generalizing T with
  | nil => exact ⟨h, hrefl _⟩
  | cons a acts ih =>
    obtain ⟨hkept, hmoved⟩ := h.act hsafe hrefl hguar hdrift hcrash a
      fun p q ha => hreq p q (ha ▸ List.mem_cons_self)
    obtain ⟨hkept', hmoved'⟩ := ih hkept fun p q hmem => hreq p q (List.mem_cons_of_mem _ hmem)
    exact ⟨hkept', htrans hmoved hmoved'⟩

/-- Every run of a team that starts idle keeps the invariant. -/
theorem run_inv (hsafe : ∀ p q w, req q → K.inv w → (K.contract p).Safe (S.handle p q) S.fresh w)
    {w : W} (hw : K.inv w) {acts : List (TeamAct P Q C E)}
    (hreq : ∀ p q, .deliver p q ∈ acts → req q) : K.Kept ((Team.idle w).run S acts) :=
  (run_moves hsafe (R := fun _ _ => True) (fun _ => trivial) (fun _ _ => trivial)
    (fun _ _ _ _ => trivial) (fun _ _ _ => trivial) (fun _ _ _ => trivial) (.idle hw) hreq).1

end Team

end Effect
