import EnjoyThings.ForStd.Discipline
import EnjoyThings.ForStd.Transactions

/-!
# When interleaved transactions are serial

A `Protocol` is what a lock protects (`Keeps`), how the tables may evolve, what the commit
of a call is as one step on the tables (`Commits`), and what an answer attests about the
tables. Programs are checked against it one at a time: what a party knows is a predicate on
the tables (`Known`), which the others may only change along what they are allowed to, and
at its commit the party has to know that its writes make up the step of its call.

Then every run is serial: the committed tables are what the commits make of the initial
tables, one after the other and each as a single step, and every answer that has been given
holds.

## Key results

- `Protocol.follows_execute`, `follows_commit`, ...: rules for programs
- `Protocol.sound`: knowledge survives the steps of the others
- `Protocol.run_serial`: runs of such programs are serial
-/

namespace Effect

variable {P S Q E D K A ε α β : Type} {R : S → Type}

/-- The tables a log of commits leads to, each commit as one step. -/
inductive Serial (Commits : Q → E → D → D → Prop) (d₀ : D) : List (Q × E) → D → Prop
  | nil : Serial Commits d₀ [] d₀
  | snoc {log : List (Q × E)} {q : Q} {e : E} {d d' : D} (h : Serial Commits d₀ log d)
      (hstep : Commits q e d d') : Serial Commits d₀ (log ++ [(q, e)]) d'

variable {Commits : Q → E → D → D → Prop} {d : D} {log : List (Q × E)}

/-- What every commit keeps holds of the tables in the end. -/
theorem Serial.inv {d₀ : D} (h : Serial Commits d₀ log d) {I : D → Prop} (hI : I d₀)
    (hstep : ∀ {q e d d'}, Commits q e d d' → I d → I d') : I d := by
  induction h with
  | nil => exact hI
  | snoc _ hc ih => exact hstep hc ih

/-- Commits may be seen for what each of them does to tables that are as they should be. -/
theorem Serial.mono {Commits' : Q → E → D → D → Prop} {d₀ : D} (h : Serial Commits d₀ log d)
    {I : D → Prop} (hI : I d₀)
    (hstep : ∀ {q e d d'}, Commits q e d d' → I d → I d' ∧ Commits' q e d d') :
    Serial Commits' d₀ log d := by
  have hboth : I d ∧ Serial Commits' d₀ log d := by
    induction h with
    | nil => exact ⟨hI, .nil⟩
    | snoc _ hc ih => exact ⟨(hstep hc ih.1).1, ih.2.snoc (hstep hc ih.1).2⟩
  exact hboth.2

/-- The tables between the commits, the `k`-th commit leading from `ds k` to `ds (k + 1)`. -/
theorem Serial.states {d₀ : D} (h : Serial Commits d₀ log d) :
    ∃ ds : Nat → D, ds 0 = d₀ ∧ ds log.length = d ∧
      ∀ k q e, log[k]? = some (q, e) → Commits q e (ds k) (ds (k + 1)) := by
  induction h with
  | nil => exact ⟨fun _ => d₀, rfl, rfl, by simp⟩
  | @snoc log q e d d' _ hstep ih =>
    obtain ⟨ds, hfirst, hlast, hds⟩ := ih
    have hend : ¬ log.length + 1 ≤ log.length := by omega
    refine ⟨fun n => if n ≤ log.length then ds n else d', by simpa using hfirst, ?_, ?_⟩
    · simp only [List.length_append, List.length_singleton, if_neg hend]
    intro k q' e' hk
    rcases Nat.lt_trichotomy k log.length with hlt | rfl | hgt
    · rw [List.getElem?_append_left hlt] at hk
      simp only [if_pos (Nat.le_of_lt hlt), if_pos (Nat.succ_le_of_lt hlt)]
      exact hds k q' e' hk
    · rw [List.getElem?_concat_length] at hk
      cases hk
      simpa only [if_pos (Nat.le_refl _), if_neg hend, hlast] using hstep
    · rw [List.getElem?_eq_none (by rw [List.length_append]; exact hgt)] at hk
      cases hk

/-- What the parties agree on. `Evolves` is what any commit may do to the tables, and `Keeps`
    what it leaves alone when another transaction holds the lock. -/
structure Protocol (M : Sql S R D K ε E) (Q A : Type) where
  Valid : D → Prop
  Keeps : K → D → D → Prop
  Evolves : D → D → Prop
  Commits : Q → E → D → D → Prop
  Attests : A → D → Prop
  keeps_refl : ∀ k d, Keeps k d d
  keeps_trans : ∀ {k d₁ d₂ d₃}, Keeps k d₁ d₂ → Keeps k d₂ d₃ → Keeps k d₁ d₃
  evolves_refl : ∀ d, Evolves d d
  evolves_trans : ∀ {d₁ d₂ d₃}, Evolves d₁ d₂ → Evolves d₂ d₃ → Evolves d₁ d₃
  commits_valid : ∀ {q e d d'}, Commits q e d d' → Valid d → Valid d' ∧ Evolves d d'
  attests_evolves : ∀ {a d d'}, Attests a d → Evolves d d' → Attests a d'
  takes_awaits : ∀ {s d a}, (M.stmt s).run d = .ok a →
    ∀ k ∈ (M.stmt s).takes a, k ∈ (M.stmt s).awaits d
  writes_taken : ∀ {s d a}, (M.stmt s).run d = .ok a →
    ∀ d' k, k ∉ (M.stmt s).takes a → Keeps k d' ((M.stmt s).write a d')

/-- An open transaction with the locks it holds. -/
structure Held (Q E D K : Type) extends Tx Q E D where
  locks : List K

/-- What a party knows: its open transaction, if it has one, and something that was so at its
    last step. -/
structure Known (Q E D K : Type) where
  tx : Option (Held Q E D K) := none
  facts : D → Prop

/-- The transaction after a statement that returned `a`. -/
def Held.after (M : Sql S R D K ε E) (t : Held Q E D K) (s : S) (a : R s) : Held Q E D K :=
  { t with
    writes := (M.stmt s).write a ∘ t.writes
    locks := t.locks ++ (M.stmt s).takes a }

namespace Protocol

variable {M : Sql S R D K ε E} (I : Protocol M Q A)

/-- What the others may do while a party holds some locks. -/
structure Moves (locks : List K) (d d' : D) : Prop where
  evolves : I.Evolves d d'
  keeps : ∀ k ∈ locks, I.Keeps k d d'

/-- What the knowledge means for the tables as they are now. -/
structure Now (k : Known Q E D K) (d : D) : Prop where
  valid : I.Valid d
  facts : ∃ d₀, k.facts d₀ ∧ I.Moves ((k.tx.map Held.locks).getD []) d₀ d

/-- A predicate that holds for as long as the locks are held. -/
def Stable (locks : List K) (φ : D → Prop) : Prop :=
  ∀ d d', I.Valid d' → I.Moves locks d d' → φ d → φ d'

variable {I}

theorem Moves.refl (locks : List K) (d : D) : I.Moves locks d d :=
  ⟨I.evolves_refl d, fun k _ => I.keeps_refl k d⟩

theorem Moves.trans {locks : List K} {d₁ d₂ d₃ : D} (h : I.Moves locks d₁ d₂)
    (h' : I.Moves locks d₂ d₃) : I.Moves locks d₁ d₃ :=
  ⟨I.evolves_trans h.evolves h'.evolves,
    fun k hk => I.keeps_trans (h.keeps k hk) (h'.keeps k hk)⟩

/-- Outside a transaction there is nothing but the evolution of the tables to rely on. -/
theorem Now.close {k : Known Q E D K} (h : I.Now k d) : I.Now { facts := k.facts } d := by
  obtain ⟨d₀, hφ, hmoves⟩ := h.facts
  exact ⟨h.valid, d₀, hφ, hmoves.evolves, by simp⟩

variable {l : Known Q E D K}

/-- Knowledge that is so right now. -/
theorem Now.of_facts {k : Known Q E D K} (h : I.Now k d) (hl : l.facts d) : I.Now l d :=
  ⟨h.valid, d, hl, Moves.refl _ d⟩

/-! ## The moves of a party -/

/-- What is known after a statement on its own. -/
def afterQuery (I : Protocol M Q A) (k : Known Q E D K) (s : S) (r : Except ε (R s)) :
    Known Q E D K :=
  { facts := fun d => I.Now k d ∧ (r = .error M.down ∨ (M.stmt s).run d = r) }

def afterBegin (I : Protocol M Q A) (k : Known Q E D K) (q : Q) : Except ε E → Known Q E D K
  | .ok e =>
    { tx := some { call := q, env := e, writes := id, locks := M.ids e }
      facts := fun d => I.Now k d ∧ M.fresh e d = true }
  | .error _ => k

def afterExecute (I : Protocol M Q A) (t : Held Q E D K) (k : Known Q E D K) (s : S) :
    Except ε (R s) → Known Q E D K
  | .ok a =>
    { tx := some (t.after M s a)
      facts := fun d => I.Now k d ∧ (M.stmt s).run (t.writes d) = .ok a }
  | .error e =>
    { k with
      facts := fun d => I.Now k d ∧
        (e = M.down ∨ (M.stmt s).run (t.writes d) = .error e) }

/-- A commit whose answer is lost may have taken effect. -/
def afterCommit (I : Protocol M Q A) (t : Held Q E D K) (k : Known Q E D K) :
    Except ε Unit → Known Q E D K
  | .ok _ => { facts := fun d' => ∃ d, I.Now k d ∧ d' = t.writes d }
  | .error _ => { facts := fun d' => ∃ d, I.Now k d ∧ (d' = d ∨ d' = t.writes d) }

/-- Which steps a party may take. A commit has to be the step of its call, and an answer has to
    be so. Where a party cannot get, it may do anything. -/
inductive Move (I : Protocol M Q A) :
    Known Q E D K → (o : TxOp S Q A) → (Except ε (o.Ret R E) → Known Q E D K) → Prop
  | query {k : Known Q E D K} {s : S} (h : k.tx = none) : Move I k (.query s) (I.afterQuery k s)
  | begin {k : Known Q E D K} {q : Q} (h : k.tx = none) : Move I k (.begin q) (I.afterBegin k q)
  | execute {k : Known Q E D K} {t : Held Q E D K} {s : S} (h : k.tx = some t) :
      Move I k (.execute s) (I.afterExecute t k s)
  | commit {k : Known Q E D K} {t : Held Q E D K} (h : k.tx = some t)
      (hcommit : ∀ d, I.Now k d → I.Commits t.call t.env d (t.writes d)) :
      Move I k .commit (I.afterCommit t k)
  | rollback {k : Known Q E D K} : Move I k .rollback fun _ => { facts := k.facts }
  | answer {k : Known Q E D K} {a : A} (h : ∀ d, I.Now k d → I.Attests a d) :
      Move I k (.answer a) fun _ => k
  | absurd {k : Known Q E D K} {o : TxOp S Q A}
      {learn : Except ε (o.Ret R E) → Known Q E D K} (h : ∀ d, ¬ I.Now k d) : Move I k o learn

/-- What all answers of an operation have in common. -/
def Answer (M : Sql S R D K ε E) : (o : TxOp S Q A) → Except ε (o.Ret R E) → Prop
  | .query _, _ | .execute _, _ => True
  | .begin _, r => ∀ e, r = .error e → e = M.down
  | .commit, r => ∀ e, r = .error e → e = M.down
  | .rollback, r => r = .ok ()
  | .answer _, r => r = .ok ()

def discipline (I : Protocol M Q A) :
    Discipline (TxOp S Q A) (TxOp.Ret R E) ε (Known Q E D K) where
  move := I.Move
  answer := Answer M
  le k l := (∀ d, I.Now k d → I.Now l d) ∧ (l.tx = none ∨ l.tx = k.tx)
  le_refl _ := ⟨fun _ h => h, .inr rfl⟩
  le_trans := by
    rintro k l m ⟨hkl, hl⟩ ⟨hlm, hm⟩
    refine ⟨fun d hd => hlm d (hkl d hd), ?_⟩
    rcases hm with hm | hm
    · exact .inl hm
    · rw [hm]
      exact hl

/-! ## Rules for programs

A program is checked against the answer `g r` its call gives if it ends in `r`. The facts of a
rule are stable under the locks that are held, so that they hold of the tables as they are. -/

variable {q : Q}

section Rules

variable {tx : Option (Held Q E D K)} {t : Held Q E D K} {s : S} {φ : D → Prop}
  {g : Except ε α → A}

theorem Now.fact (h : I.Now { tx := tx, facts := φ } d)
    (hφ : I.Stable ((tx.map Held.locks).getD []) φ) : φ d := by
  obtain ⟨d₀, hd₀, hmoves⟩ := h.facts
  exact hφ d₀ d h.valid hmoves hd₀

variable (I) in
/-- The program ends with a result whose answer is so, and stays so. -/
def Ends (g : Except ε α → A) (r : Except ε α) (k : Known Q E D K) : Prop :=
  ∀ d, I.Now { facts := k.facts } d → I.Attests (g r) d

theorem ends_of {r : Except ε α} (h : ∀ d, φ d → I.Attests (g r) d) :
    I.Ends g r { tx := tx, facts := φ } := by
  intro d hd
  obtain ⟨d₀, hφ, hmoves⟩ := hd.facts
  exact I.attests_evolves (h d₀ hφ) hmoves.evolves

variable {post : Except ε α → Known Q E D K → Prop}

/-- Facts that follow from what is known are known. -/
theorem follows_weaken {p : Prog (TxOp S Q A) (TxOp.Ret R E) ε α} {ψ : D → Prop}
    (hfacts : ∀ d, φ d → ψ d) (h : I.discipline.Follows post p { tx := tx, facts := ψ }) :
    I.discipline.Follows post p { tx := tx, facts := φ } := by
  refine h.weaken ⟨fun d hd => ?_, .inr rfl⟩
  obtain ⟨d₀, hφ, hd₀⟩ := hd.facts
  exact ⟨hd.valid, d₀, hfacts d₀ hφ, hd₀⟩

/-- Nothing has to be checked where the program cannot get. -/
theorem follows_absurd {p : Prog (TxOp S Q A) (TxOp.Ret R E) ε α} (h : ∀ d, ¬ φ d) :
    I.discipline.Follows (I.Ends g) p { tx := tx, facts := φ } := by
  have hnever : ∀ d, ¬ I.Now { tx := tx, facts := φ } d := by
    rintro d ⟨-, d₀, hφ, -⟩
    exact h d₀ hφ
  induction p with
  | done a => exact .done (ends_of fun d hd => (h d hd).elim)
  | fail e => exact .fail (ends_of fun d hd => (h d hd).elim)
  | call o f ih => exact ⟨_, _, I.discipline.le_refl _, .absurd hnever, fun r _ => ih r⟩

/-- What the facts say beyond the tables may be assumed. -/
theorem follows_of_fact {C : Prop} {p : Prog (TxOp S Q A) (TxOp.Ret R E) ε α}
    (hC : ∀ d, φ d → C) (h : C → I.discipline.Follows (I.Ends g) p { tx := tx, facts := φ }) :
    I.discipline.Follows (I.Ends g) p { tx := tx, facts := φ } := by
  by_cases hc : C
  · exact h hc
  · exact follows_absurd fun d hd => hc (hC d hd)

theorem follows_done {a : α} (h : ∀ d, φ d → I.Attests (g (.ok a)) d) :
    I.discipline.Follows (I.Ends g) (.done a) { tx := tx, facts := φ } :=
  .done (ends_of h)

theorem follows_fail {e : ε} (h : ∀ d, φ d → I.Attests (g (.error e)) d) :
    I.discipline.Follows (I.Ends g) (.fail e) { tx := tx, facts := φ } :=
  .fail (ends_of h)

variable {ψ : R s → D → Prop}

/-- A statement on its own. -/
theorem follows_query {f : R s → Prog (TxOp S Q A) (TxOp.Ret R E) ε α} (hφ : I.Stable [] φ)
    (hψ : ∀ a d, I.Valid d → φ d → (M.stmt s).run d = .ok a → ψ a d)
    (hok : ∀ a, I.discipline.Follows (I.Ends g) (f a) { facts := ψ a })
    (herr : ∀ e d, I.Valid d → φ d → (e = M.down ∨ (M.stmt s).run d = .error e) →
      I.Attests (g (.error e)) d) :
    I.discipline.Follows (I.Ends g) (Prog.perform (TxOp.query s) >>= f) { facts := φ } := by
  rw [Prog.perform_bind]
  refine .call (.query rfl) (fun a _ => follows_weaken ?_ (hok a)) fun e => ends_of ?_
  · rintro d ⟨hd, hrun⟩
    simp only [reduceCtorEq, false_or] at hrun
    exact hψ a d hd.valid (hd.fact hφ) hrun
  · rintro d ⟨hd, hrun⟩
    simp only [Except.error.injEq] at hrun
    exact herr e d hd.valid (hd.fact hφ) hrun

/-- A statement of the open transaction whose answer the program looks at. -/
theorem follows_attempt {f : Except ε (R s) → Prog (TxOp S Q A) (TxOp.Ret R E) ε α}
    (hφ : I.Stable t.locks φ)
    (hψ : ∀ a d, I.Valid d → φ d → (M.stmt s).run (t.writes d) = .ok a → ψ a d)
    (hok : ∀ a, I.discipline.Follows (I.Ends g) (f (.ok a))
      { tx := some (t.after M s a), facts := ψ a })
    (herr : ∀ e, I.discipline.Follows (I.Ends g) (f (.error e))
      { tx := some t, facts := fun d => I.Valid d ∧ φ d ∧
          (e = M.down ∨ (M.stmt s).run (t.writes d) = .error e) }) :
    I.discipline.Follows (I.Ends g) ((Prog.perform (TxOp.execute s)).attempt >>= f)
      { tx := some t, facts := φ } := by
  rw [Prog.attempt_perform_bind]
  refine ⟨_, _, I.discipline.le_refl _, .execute rfl, fun r _ => ?_⟩
  cases r with
  | ok a =>
    refine follows_weaken ?_ (hok a)
    rintro d ⟨hd, hrun⟩
    exact hψ a d hd.valid (hd.fact hφ) hrun
  | error e =>
    refine follows_weaken ?_ (herr e)
    rintro d ⟨hd, hrun⟩
    exact ⟨hd.valid, hd.fact hφ, hrun⟩

/-- A statement of the open transaction whose error ends the program. -/
theorem follows_execute {f : R s → Prog (TxOp S Q A) (TxOp.Ret R E) ε α} (hφ : I.Stable t.locks φ)
    (hψ : ∀ a d, I.Valid d → φ d → (M.stmt s).run (t.writes d) = .ok a → ψ a d)
    (hok : ∀ a, I.discipline.Follows (I.Ends g) (f a)
      { tx := some (t.after M s a), facts := ψ a })
    (herr : ∀ e d, I.Valid d → φ d → (e = M.down ∨ (M.stmt s).run (t.writes d) = .error e) →
      I.Attests (g (.error e)) d) :
    I.discipline.Follows (I.Ends g) (Prog.perform (TxOp.execute s) >>= f)
      { tx := some t, facts := φ } := by
  rw [Prog.perform_bind]
  refine .call (.execute rfl) (fun a _ => follows_weaken ?_ (hok a)) fun e => ends_of ?_
  · rintro d ⟨hd, hrun⟩
    exact hψ a d hd.valid (hd.fact hφ) hrun
  · rintro d ⟨hd, hrun⟩
    exact herr e d hd.valid (hd.fact hφ) hrun

variable {f : Unit → Prog (TxOp S Q A) (TxOp.Ret R E) ε α}

/-- A commit that is the step of its call. -/
theorem follows_commit {ψ : D → Prop} (hφ : I.Stable t.locks φ)
    (hcommit : ∀ d, I.Valid d → φ d → I.Commits t.call t.env d (t.writes d))
    (hψ : ∀ d, I.Valid d → φ d → ψ (t.writes d))
    (hok : I.discipline.Follows (I.Ends g) (f ()) { facts := ψ })
    (herr : ∀ d, I.Valid d → φ d → I.Attests (g (.error M.down)) d) :
    I.discipline.Follows (I.Ends g) (Prog.perform TxOp.commit >>= f)
      { tx := some t, facts := φ } := by
  rw [Prog.perform_bind]
  refine ⟨_, _, I.discipline.le_refl _,
    .commit rfl fun d hd => hcommit d hd.valid (hd.fact hφ), fun r hr => ?_⟩
  cases r with
  | ok u =>
    refine follows_weaken ?_ hok
    rintro _ ⟨d, hd, rfl⟩
    exact hψ d hd.valid (hd.fact hφ)
  | error e =>
    obtain rfl := hr e rfl
    refine follows_fail ?_
    rintro _ ⟨d, hd, rfl | rfl⟩
    · exact herr _ hd.valid (hd.fact hφ)
    · exact I.attests_evolves (herr d hd.valid (hd.fact hφ))
        (I.commits_valid (hcommit d hd.valid (hd.fact hφ)) hd.valid).2

theorem follows_rollback (h : I.discipline.Follows post (f ()) { facts := φ }) :
    I.discipline.Follows post (Prog.perform TxOp.rollback >>= f) { tx := tx, facts := φ } := by
  rw [Prog.perform_bind]
  refine ⟨_, _, I.discipline.le_refl _, .rollback, fun r hr => ?_⟩
  obtain rfl := hr
  exact h

/-- The result of a program that is caught. -/
theorem follows_caught {p : Prog (TxOp S Q A) (TxOp.Ret R E) ε α} {k : Known Q E D K}
    {f : Except ε α → Prog (TxOp S Q A) (TxOp.Ret R E) ε β}
    {post : Except ε β → Known Q E D K → Prop} (hp : I.discipline.Follows (I.Ends g) p k)
    (h : ∀ r l, I.Ends g r l → I.discipline.Follows post (f r) l) :
    I.discipline.Follows post (p.attempt >>= f) k := by
  have hcaught : I.discipline.Follows (fun r l => ∃ r', r = .ok r' ∧ I.Ends g r' l) p.attempt k :=
    .attempt (hp.mono fun r l hr => ⟨r, rfl, hr⟩)
  refine hcaught.bind ?_ ?_
  · rintro r l ⟨r', ⟨rfl⟩, hr⟩
    exact h r l hr
  · rintro e l ⟨r', he, -⟩
    cases he

/-- A transaction whose body ends well ends well. -/
theorem follows_transaction {body : E → Prog (TxOp S Q A) (TxOp.Ret R E) ε α} (hφ : I.Stable [] φ)
    (hdown : ∀ d, φ d → I.Attests (g (.error M.down)) d)
    (hbody : ∀ e, I.discipline.Follows (I.Ends g) (body e)
      { tx := some { call := q, env := e, writes := id, locks := M.ids e }
        facts := fun d => I.Valid d ∧ φ d ∧ M.fresh e d = true }) :
    I.discipline.Follows (I.Ends g) (TxOp.transaction q body) { facts := φ } := by
  unfold TxOp.transaction
  rw [Prog.perform_bind]
  refine ⟨_, _, I.discipline.le_refl _, .begin rfl, fun r hr => ?_⟩
  cases r with
  | error e =>
    obtain rfl := hr e rfl
    exact follows_fail hdown
  | ok e =>
    have hstart := follows_weaken (φ := fun d => I.Now { facts := φ } d ∧ M.fresh e d = true)
      (fun d hd => ⟨hd.1.valid, hd.1.fact hφ, hd.2⟩) (hbody e)
    refine follows_caught hstart fun r l hr => ?_
    apply follows_rollback
    -- what was known when the body ended is not forgotten
    cases r with
    | ok a => exact .done hr
    | error e => exact .fail hr

/-- A call that returns to its caller. -/
theorem follows_answer {p : Prog (TxOp S Q A) (TxOp.Ret R E) ε α} {k : Known Q E D K}
    (h : I.discipline.Follows (I.Ends g) p k) :
    I.discipline.Follows (fun _ _ => True)
      (p.attempt >>= fun r => Prog.perform (TxOp.answer (g r))) k :=
  follows_caught h fun _ _ hr => .perform (.answer fun d hd => hr d hd.close) fun _ _ => trivial

end Rules

/-! ## What the parties keep -/

/-- The committed tables are those of the log, and every transaction writes only under its own
    locks. -/
structure Inv (I : Protocol M Q A) (d₀ : D) (w : Shared P Q E D K A) : Prop where
  valid : I.Valid w.committed
  serial : Serial I.Commits d₀ w.log w.committed
  attested : ∀ a ∈ w.answers, I.Attests a w.committed
  locked : ∀ p t, w.tx p = some t → ∀ key, w.holder key ≠ some p → ∀ d, I.Keeps key d (t.writes d)

theorem Inv.initial {d₀ : D} (h : I.Valid d₀) :
    I.Inv d₀ ({ committed := d₀ } : Shared P Q E D K A) :=
  ⟨h, .nil, by simp, by simp⟩

/-- What the steps of the others leave to a party. -/
structure Rely (I : Protocol M Q A) (p : P) (w w' : Shared P Q E D K A) : Prop where
  tx : w'.tx p = w.tx p
  holder : ∀ key, w'.holder key = some p ↔ w.holder key = some p
  evolves : I.Evolves w.committed w'.committed
  keeps : ∀ key, w.holder key = some p → I.Keeps key w.committed w'.committed

theorem Rely.refl (p : P) (w : Shared P Q E D K A) : I.Rely p w w :=
  ⟨rfl, fun _ => Iff.rfl, I.evolves_refl _, fun _ _ => I.keeps_refl _ _⟩

variable {w₁ w₂ w₃ : Shared P Q E D K A}

theorem Rely.trans {p : P} (h : I.Rely p w₁ w₂) (h' : I.Rely p w₂ w₃) : I.Rely p w₁ w₃ where
  tx := h'.tx.trans h.tx
  holder key := (h'.holder key).trans (h.holder key)
  evolves := I.evolves_trans h.evolves h'.evolves
  keeps key hkey := I.keeps_trans (h.keeps key hkey) (h'.keeps key ((h.holder key).mpr hkey))

/-- What a step of `p` leaves to everybody else. -/
structure Guar (I : Protocol M Q A) (p : P) (w w' : Shared P Q E D K A) : Prop where
  evolves : I.Evolves w.committed w'.committed
  others : ∀ q, p ≠ q → I.Rely q w w'

theorem Guar.trans {p : P} (h : I.Guar p w₁ w₂) (h' : I.Guar p w₂ w₃) : I.Guar p w₁ w₃ :=
  ⟨I.evolves_trans h.evolves h'.evolves, fun q hq => (h.others q hq).trans (h'.others q hq)⟩

/-- What knowledge means in a world. -/
structure Knows (I : Protocol M Q A) (p : P) (k : Known Q E D K) (w : Shared P Q E D K A) :
    Prop where
  now : I.Now k w.committed
  tx : ∀ t, k.tx = some t → w.tx p = some t.toTx
  holder : ∀ t, k.tx = some t → ∀ key, w.holder key = some p ↔ key ∈ t.locks

theorem Knows.stable {p : P} {k : Known Q E D K} {w w' : Shared P Q E D K A}
    (h : I.Knows p k w) (hr : I.Rely p w w') (hv : I.Valid w'.committed) : I.Knows p k w' := by
  obtain ⟨d₀, hφ, hmoves⟩ := h.now.facts
  refine ⟨⟨hv, d₀, hφ, hmoves.trans ⟨hr.evolves, ?_⟩⟩, fun t ht => hr.tx.trans (h.tx t ht),
    fun t ht key => ?_⟩
  · -- the locks of the open transaction protect what they protect
    intro key hkey
    cases ht : k.tx with
    | none => simp [ht] at hkey
    | some t =>
      simp only [ht, Option.map_some, Option.getD_some] at hkey
      exact hr.keeps key ((h.holder t ht key).mpr hkey)
  · exact (hr.holder key).trans (h.holder t ht key)

/-- What a step of a party does, if the party may take it with what it knows. -/
def Stepped (I : Protocol M Q A) (d₀ : D) (p : P) (w : Shared P Q E D K A) (l : Known Q E D K)
    (w' : Shared P Q E D K A) : Prop :=
  I.Inv d₀ w' ∧ I.Guar p w w' ∧ I.Knows p l w'

/-- A step that changes nothing. -/
theorem Stepped.still {d₀ : D} {p : P} {w : Shared P Q E D K A} (h : I.Inv d₀ w)
    (hl : I.Knows p l w) :
    I.Stepped d₀ p w l w :=
  ⟨h, ⟨I.evolves_refl _, fun q _ => .refl q w⟩, hl⟩

section Steps

variable [DecidableEq P] {p : P} {w : Shared P Q E D K A} {d₀ : D} {k : Known Q E D K}
  {t : Held Q E D K} {c : TxChoice E}

/-- The end of a transaction without a commit. -/
theorem close_guar : I.Guar p w (w.close p) := by
  refine ⟨I.evolves_refl _, fun q hq => ?_⟩
  exact ⟨Shared.close_tx_of_ne (Ne.symm hq), Shared.close_holder_of_ne (Ne.symm hq),
    I.evolves_refl _, fun _ _ => I.keeps_refl _ _⟩

theorem Inv.close (h : I.Inv d₀ w) : I.Inv d₀ (w.close p) := by
  refine ⟨h.valid, h.serial, h.attested, fun q t ht key hkey => ?_⟩
  by_cases hq : q = p
  · rw [hq, Shared.close_tx_self] at ht
    cases ht
  · rw [Shared.close_tx_of_ne hq] at ht
    exact h.locked q t ht key fun hh => hkey ((Shared.close_holder_of_ne hq key).mpr hh)

/-- A commit that is the step of its call. -/
theorem publish_guar (h : I.Inv d₀ w) {t : Tx Q E D} (ht : w.tx p = some t)
    (hc : I.Commits t.call t.env w.committed (t.writes w.committed)) :
    I.Inv d₀ (w.publish p t) ∧ I.Guar p w (w.publish p t) := by
  obtain ⟨hvalid, hevolves⟩ := I.commits_valid hc h.valid
  have hclose := h.close (p := p)
  refine ⟨⟨hvalid, h.serial.snoc hc, fun a ha => I.attests_evolves (h.attested a ha) hevolves,
    hclose.locked⟩, hevolves, fun q hq => ?_⟩
  refine ⟨Shared.close_tx_of_ne (Ne.symm hq), Shared.close_holder_of_ne (Ne.symm hq), hevolves,
    fun key hkey => ?_⟩
  -- a lock of another party is not one of the committing transaction
  refine h.locked p t ht key (fun hp => hq ?_) _
  rw [hkey] at hp
  exact (Option.some.inj hp).symm

theorem finish_stepped (h : I.Inv d₀ w) (hk : I.Knows p k w) (htx : k.tx = some t)
    (hcommit : ∀ d, I.Now k d → I.Commits t.call t.env d (t.writes d)) :
    I.Stepped d₀ p w (I.afterCommit t k (w.finish M p c t.toTx).1) (w.finish M p c t.toTx).2 := by
  obtain ⟨hinv, hguar⟩ := publish_guar h (hk.tx t htx) (hcommit _ hk.now)
  cases hloss : c.loss with
  | none =>
    simp only [Shared.finish, hloss]
    refine ⟨hinv, hguar, ⟨hinv.valid, _, ⟨_, hk.now, rfl⟩, Moves.refl _ _⟩, ?_, ?_⟩ <;>
      simp [afterCommit]
  | request =>
    simp only [Shared.finish, hloss]
    refine .still h ⟨⟨h.valid, _, ⟨_, hk.now, .inl rfl⟩, Moves.refl _ _⟩, ?_, ?_⟩ <;>
      simp [afterCommit]
  | answer =>
    simp only [Shared.finish, hloss]
    refine ⟨hinv, hguar, ⟨hinv.valid, _, ⟨_, hk.now, .inr rfl⟩, Moves.refl _ _⟩, ?_, ?_⟩ <;>
      simp [afterCommit]

variable [DecidableEq K]

variable {keys : List K}

/-- A transaction that takes locks nobody else holds, and writes under its locks. -/
theorem setTx_guar (hfree : ∀ key ∈ keys, ∀ q, w.holder key = some q → q = p) (t : Tx Q E D) :
    I.Guar p w ((w.take p keys).setTx p t) := by
  refine ⟨I.evolves_refl _, fun q hq => ?_⟩
  exact ⟨Shared.setTx_tx_of_ne (Ne.symm hq) t, Shared.take_holder_of_ne (Ne.symm hq) hfree,
    I.evolves_refl _, fun _ _ => I.keeps_refl _ _⟩

theorem Inv.setTx (h : I.Inv d₀ w) (hfree : ∀ key ∈ keys, ∀ q, w.holder key = some q → q = p)
    {t : Tx Q E D}
    (ht : ∀ key, key ∉ keys → w.holder key ≠ some p → ∀ d, I.Keeps key d (t.writes d)) :
    I.Inv d₀ ((w.take p keys).setTx p t) := by
  refine ⟨h.valid, h.serial, h.attested, fun q t' ht' key hkey => ?_⟩
  by_cases hq : q = p
  · subst hq
    rw [Shared.setTx_tx_self] at ht'
    cases ht'
    have hnot := mt (Shared.take_holder_self key).mpr hkey
    exact ht key (fun hmem => hnot (.inl hmem)) fun hh => hnot (.inr hh)
  · rw [Shared.setTx_tx_of_ne hq] at ht'
    refine h.locked q t' ht' key fun hh => hkey ?_
    exact (Shared.take_holder_of_ne hq hfree key).mpr hh

theorem start_stepped (h : I.Inv d₀ w) (hk : I.Knows p k w) (htx : k.tx = none) :
    I.Stepped d₀ p w (I.afterBegin k q (w.start M p c q).1) (w.start M p c q).2 := by
  have hclosed : I.Knows p k (w.close p) :=
    ⟨hk.now, fun t ht => by simp [htx] at ht, fun t ht => by simp [htx] at ht⟩
  simp only [Shared.start]
  split
  · exact ⟨h.close, close_guar, hclosed⟩
  · rename_i hbegin
    simp only [not_or, Bool.not_eq_true, Bool.not_eq_false] at hbegin
    obtain ⟨-, hblocked, hfresh⟩ := hbegin
    have hfree := Shared.blocked_eq_false.mp hblocked
    refine ⟨h.close.setTx hfree fun key _ _ d => I.keeps_refl key d, ?_, ?_, ?_, ?_⟩
    · exact close_guar.trans (setTx_guar hfree _)
    · exact hk.now.of_facts ⟨hk.now, hfresh⟩
    · rintro t ⟨rfl⟩
      exact Shared.setTx_tx_self _
    · rintro t ⟨rfl⟩ key
      refine (Shared.take_holder_self key).trans ?_
      simp [Shared.close_holder_self key]

theorem perform_stepped {s : S} (h : I.Inv d₀ w) (hk : I.Knows p k w) (htx : k.tx = some t) :
    I.Stepped d₀ p w (I.afterExecute t k s (w.perform M p c s t.toTx).1)
      (w.perform M p c s t.toTx).2 := by
  have hopen := hk.tx t htx
  have hholder := hk.holder t htx
  -- after an error the transaction is as it was
  have hfail : ∀ e, (e = M.down ∨ (M.stmt s).run (t.writes w.committed) = .error e) →
      I.Stepped d₀ p w (I.afterExecute t k s (.error e)) w := fun e he =>
    .still h ⟨hk.now.of_facts ⟨hk.now, he⟩, hk.tx, hk.holder⟩
  simp only [Shared.perform]
  split
  · exact hfail _ (.inl rfl)
  · rename_i hgo
    simp only [not_or, Bool.not_eq_true] at hgo
    have hawaits := Shared.blocked_eq_false.mp hgo.2
    split
    · rename_i e he
      exact hfail e (.inr he)
    · rename_i a ha
      have hfree : ∀ key ∈ (M.stmt s).takes a, ∀ q, w.holder key = some q → q = p :=
        fun key hkey => hawaits key (I.takes_awaits ha key hkey)
      refine ⟨h.setTx hfree fun key hkey hh d => ?_, setTx_guar hfree _, ?_, ?_, ?_⟩
      · -- neither the earlier writes nor this one touch what is not locked
        exact I.keeps_trans (h.locked p _ hopen key hh d) (I.writes_taken ha _ key hkey)
      · exact hk.now.of_facts ⟨hk.now, ha⟩
      · rintro t' ⟨rfl⟩
        exact Shared.setTx_tx_self _
      · rintro t' ⟨rfl⟩ key
        refine (Shared.take_holder_self key).trans ?_
        rw [hholder key]
        simp [Held.after, or_comm]

/-- One step of a party, whatever the operation. -/
theorem exec_stepped {o : TxOp S Q A} {learn : Except ε (o.Ret R E) → Known Q E D K}
    (hmove : I.Move k o learn) (h : I.Inv d₀ w) (hk : I.Knows p k w) :
    I.Stepped d₀ p w (learn (w.exec M p c o).1) (w.exec M p c o).2 := by
  cases hmove with
  | query htx =>
    refine .still h ⟨hk.now.of_facts ⟨hk.now, ?_⟩, by simp [afterQuery],
      by simp [afterQuery]⟩
    simp only [Shared.exec]
    split
    · exact .inr rfl
    · exact .inl rfl
  | begin htx => exact start_stepped h hk htx
  | execute htx =>
    simp only [Shared.exec, hk.tx _ htx]
    exact perform_stepped h hk htx
  | commit htx hcommit =>
    simp only [Shared.exec, hk.tx _ htx]
    exact finish_stepped h hk htx hcommit
  | rollback => exact ⟨h.close, close_guar, hk.now.close, by simp, by simp⟩
  | answer ha =>
    refine ⟨⟨h.valid, h.serial, ?_, h.locked⟩, ⟨I.evolves_refl _, fun q _ => ?_⟩, hk.now, hk.tx,
      hk.holder⟩
    · intro a hmem
      rcases List.mem_append.mp hmem with hmem | hmem
      · exact h.attested a hmem
      · rw [List.mem_singleton.mp hmem]
        exact ha _ hk.now
    · exact ⟨rfl, fun _ => Iff.rfl, I.evolves_refl _, fun _ _ => I.keeps_refl _ _⟩
  | absurd hnever => exact (hnever _ hk.now).elim

end Steps

/-! ## Runs -/

section Runs

variable [DecidableEq P] [DecidableEq K]

/-- The terms on which the parties work, from the initial tables `d₀` on. -/
def terms (I : Protocol M Q A) (d₀ : D) (handle : Q → Prog (TxOp S Q A) (TxOp.Ret R E) ε Unit) :
    (Shared.company (P := P) M handle).Terms where
  inv := I.Inv d₀
  rely := I.Rely
  guar := I.Guar
  rely_refl := Rely.refl
  rely_trans _ _ _ _ h h' := h.trans h'
  relies hpq h := h.others _ hpq
  drift e := e.elim
  crash _ _ h := ⟨h.close, close_guar.others⟩

variable {d₀ : D} {handle : Q → Prog (TxOp S Q A) (TxOp.Ret R E) ε Unit}

theorem sound (p : P) :
    I.discipline.Sound ((I.terms (P := P) d₀ handle).contract p) fun k _ w => I.Knows p k w where
  mono := by
    rintro k l - w ⟨hnow, htx⟩ hk
    refine ⟨hnow _ hk.now, fun t ht => ?_, fun t ht => ?_⟩
    · rcases htx with htx | htx
      · simp [htx] at ht
      · exact hk.tx t (htx ▸ ht)
    · rcases htx with htx | htx
      · simp [htx] at ht
      · exact hk.holder t (htx ▸ ht)
  stable hk hr hi := hk.stable hr hi.valid
  answers c o w := by
    cases o with
    | query s => trivial
    | execute s => trivial
    | rollback => rfl
    | answer a => rfl
    | begin q =>
      intro e he
      simp only [Shared.company, Shared.machine, Shared.exec, Shared.start] at he
      split at he <;> cases he
      rfl
    | commit =>
      intro e he
      simp only [Shared.company, Shared.machine, Shared.exec] at he
      split at he
      · cases he
        rfl
      · unfold Shared.finish at he
        split at he <;> cases he <;> rfl
  step hmove hi hk _ := exec_stepped hmove hi hk

variable {req : Q → Prop} {acts : List (TeamAct P Q (TxChoice E) Empty)}

/-- A party that knows nothing and has no transaction. -/
def nothing : Known Q E D K :=
  { facts := fun _ => True }

theorem handle_safe {p : P} {w : Shared P Q E D K A} (hi : I.Inv d₀ w)
    (hfollows : I.discipline.Follows (fun _ _ => True) (handle q) nothing) :
    ((I.terms d₀ handle).contract p).Safe (handle q) () w := by
  refine (hfollows.holds (sound p) ⟨⟨hi.valid, ?_⟩, ?_, ?_⟩).safe
  · exact ⟨_, trivial, Moves.refl _ _⟩
  · simp [nothing]
  · simp [nothing]

/-- Every run of programs that follow the protocol is serial. -/
theorem run_serial
    (hfollows : ∀ q, req q → I.discipline.Follows (fun _ _ => True) (handle q) nothing)
    (hvalid : I.Valid d₀) (hreq : ∀ p q, .deliver p q ∈ acts → req q) :
    I.Inv d₀ ((Team.idle { committed := d₀ }).run (Shared.company M handle) acts).world := by
  refine (Team.run_inv (K := I.terms d₀ handle) ?_ (Inv.initial hvalid) hreq).inv
  exact fun p q w hq hi => handle_safe hi (hfollows q hq)

/-- Along a run the tables evolve. -/
theorem run_evolves
    (hfollows : ∀ q, req q → I.discipline.Follows (fun _ _ => True) (handle q) nothing)
    (hvalid : I.Valid d₀) {acts' : List (TeamAct P Q (TxChoice E) Empty)}
    (hreq : ∀ p q, .deliver p q ∈ acts ++ acts' → req q) :
    I.Evolves ((Team.idle { committed := d₀ }).run (Shared.company M handle) acts).world.committed
      ((Team.idle { committed := d₀ }).run (Shared.company M handle)
        (acts ++ acts')).world.committed := by
  have hsafe : ∀ (p : P) q w, req q → (I.terms d₀ handle).inv w →
      ((I.terms d₀ handle).contract p).Safe (handle q) () w :=
    fun p q w hq hi => handle_safe hi (hfollows q hq)
  have hkept := Team.run_inv (K := I.terms (P := P) d₀ handle) hsafe (Inv.initial hvalid)
    fun p q hmem => hreq p q (List.mem_append_left acts' hmem)
  rw [Team.run_append]
  exact (Team.run_moves (R := fun w w' => I.Evolves w.committed w'.committed) hsafe
    (fun w => I.evolves_refl _) (fun h h' => I.evolves_trans h h') (fun p _ _ h => h.evolves)
    (fun e => e.elim) (fun p w _ => I.evolves_refl _) hkept
    fun p q hmem => hreq p q (List.mem_append_right acts hmem)).2

end Runs

end Protocol

end Effect
