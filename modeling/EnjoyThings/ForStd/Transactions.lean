import EnjoyThings.ForStd.Team

/-!
# Transactions under READ COMMITTED

Parties that share tables through transactions, one statement at a time. A statement sees
what is committed and what its own transaction has written, waits for the locks that other
transactions hold, and keeps the locks it takes until its transaction ends. A commit makes
all the writes of a transaction visible at once, and a rollback forgets them.

A statement that has to wait is one whose step does not come yet: it sees the tables as they
are when nobody is in its way any more. If the step comes earlier the statement fails, as one
does that is canceled, times out or is chosen to end a deadlock. A statement that fails has
done nothing.

A transaction draws the identifiers it may need when it begins. They are not in use, and
their keys are locked like the keys of rows that are being inserted.

## Contents

- `Statement`, `Sql`: what a statement waits for, returns, locks and writes
- `Shared`: the committed tables, the open transactions and the locks
- `Shared.exec`, `TxOp.transaction`: one step of a party, and a transaction with its
  deferred rollback
-/

namespace Effect

/-- What a statement does with the tables `D` its transaction sees. It waits for `awaits`, and
    if it returns, it `takes` locks and writes. -/
structure Statement (D K ε α : Type) where
  awaits : D → List K
  run : D → Except ε α
  takes : α → List K
  write : α → D → D

/-- The statements of a database, the keys of the identifiers a transaction draws, when those
    are unused, and the error of a statement that does not get through. -/
structure Sql (S : Type) (R : S → Type) (D K ε E : Type) where
  stmt : (s : S) → Statement D K ε (R s)
  ids : E → List K
  fresh : E → D → Bool
  down : ε

/-- An open transaction: the call it belongs to, what it has drawn and what it has written. -/
structure Tx (Q E D : Type) where
  call : Q
  env : E
  writes : D → D

/-- The tables, the open transaction of each party and the holder of each lock. The log has the
    call and the draw of every commit, and `answers` what the calls have returned. -/
structure Shared (P Q E D K A : Type) where
  committed : D
  tx : P → Option (Tx Q E D) := fun _ => none
  holder : K → Option P := fun _ => none
  log : List (Q × E) := []
  answers : List A := []

/-- `query` is a statement on its own, `execute` one of the open transaction. -/
inductive TxOp (S Q A : Type)
  | query (s : S)
  | begin (q : Q)
  | execute (s : S)
  | commit
  | rollback
  | answer (a : A)

abbrev TxOp.Ret {S Q A : Type} (R : S → Type) (E : Type) : TxOp S Q A → Type
  | .query s | .execute s => R s
  | .begin _ => E
  | .commit | .rollback | .answer _ => Unit

/-- What gets lost of a step: nothing, the request before it takes effect, or the answer. -/
inductive Loss
  | none
  | request
  | answer
  deriving DecidableEq, Repr

/-- What the surroundings decide about a step. -/
structure TxChoice (E : Type) where
  loss : Loss := .none
  env : E

variable {P S Q E D K A ε : Type} {R : S → Type}

namespace Shared

/-! ## Locks -/

section Take

variable [DecidableEq K] {w : Shared P Q E D K A} {p q : P} {keys : List K}

def take (w : Shared P Q E D K A) (p : P) (keys : List K) : Shared P Q E D K A :=
  { w with holder := fun key => if key ∈ keys then some p else w.holder key }

theorem take_holder_self (key : K) :
    (w.take p keys).holder key = some p ↔ key ∈ keys ∨ w.holder key = some p := by
  simp only [take]
  split <;> simp [*]

/-- Locks that nobody else holds are taken from nobody. -/
theorem take_holder_of_ne (h : q ≠ p) (hfree : ∀ key ∈ keys, ∀ q, w.holder key = some q → q = p)
    (key : K) : (w.take p keys).holder key = some q ↔ w.holder key = some q := by
  simp only [take]
  split
  · rename_i hkey
    constructor
    · intro hp
      cases hp
      exact absurd rfl h
    · intro hq
      exact absurd (hfree key hkey q hq) h
  · rfl

end Take

section Close

variable [DecidableEq P] {w : Shared P Q E D K A} {p q : P}

/-- Somebody else holds one of the locks. -/
def blocked (w : Shared P Q E D K A) (p : P) (keys : List K) : Bool :=
  keys.any fun key => (w.holder key).any (· ≠ p)

theorem blocked_eq_false {keys : List K} :
    w.blocked p keys = false ↔ ∀ key ∈ keys, ∀ q, w.holder key = some q → q = p := by
  simp only [blocked, List.any_eq_false, Option.any_eq_true, decide_eq_true_eq, not_exists,
    not_and, not_not]

/-- The transaction of the party is over, and with it its locks. -/
def close (w : Shared P Q E D K A) (p : P) : Shared P Q E D K A :=
  { w with
    tx := Function.update w.tx p none
    holder := fun key => if w.holder key = some p then none else w.holder key }

@[simp] theorem close_tx_self : (w.close p).tx p = none := by
  simp [close]

theorem close_tx_of_ne (h : q ≠ p) : (w.close p).tx q = w.tx q := by
  simp [close, h]

theorem close_holder_self (key : K) : (w.close p).holder key ≠ some p := by
  simp only [close]
  split
  · simp
  · assumption

theorem close_holder_of_ne (h : q ≠ p) (key : K) :
    (w.close p).holder key = some q ↔ w.holder key = some q := by
  simp only [close]
  split
  · rename_i hp
    rw [hp]
    simp [Ne.symm h]
  · rfl

def setTx (w : Shared P Q E D K A) (p : P) (t : Tx Q E D) : Shared P Q E D K A :=
  { w with tx := Function.update w.tx p (some t) }

@[simp] theorem setTx_tx_self (t : Tx Q E D) : (w.setTx p t).tx p = some t := by
  simp [setTx]

theorem setTx_tx_of_ne (h : q ≠ p) (t : Tx Q E D) : (w.setTx p t).tx q = w.tx q := by
  simp [setTx, h]

end Close

/-! ## Steps -/

variable [DecidableEq P] [DecidableEq K]

/-- The party begins a transaction, on a connection where none is open. -/
def start (M : Sql S R D K ε E) (p : P) (c : TxChoice E) (q : Q) (w : Shared P Q E D K A) :
    Except ε E × Shared P Q E D K A :=
  if c.loss ≠ .none ∨ (w.close p).blocked p (M.ids c.env) = true ∨
      M.fresh c.env w.committed = false then
    (.error M.down, w.close p)
  else (.ok c.env, ((w.close p).take p (M.ids c.env)).setTx p ⟨q, c.env, id⟩)

/-- A statement of an open transaction. -/
def perform (M : Sql S R D K ε E) (p : P) (c : TxChoice E) (s : S) (t : Tx Q E D)
    (w : Shared P Q E D K A) : Except ε (R s) × Shared P Q E D K A :=
  if c.loss ≠ .none ∨ w.blocked p ((M.stmt s).awaits (t.writes w.committed)) = true then
    (.error M.down, w)
  else
    match (M.stmt s).run (t.writes w.committed) with
    | .error e => (.error e, w)
    | .ok a => (.ok a, (w.take p ((M.stmt s).takes a)).setTx p
        { t with writes := (M.stmt s).write a ∘ t.writes })

/-- The writes of an open transaction become visible, and its locks are released. -/
def publish (w : Shared P Q E D K A) (p : P) (t : Tx Q E D) : Shared P Q E D K A :=
  { w.close p with
    committed := t.writes w.committed
    log := w.log ++ [(t.call, t.env)] }

def finish (M : Sql S R D K ε E) (p : P) (c : TxChoice E) (t : Tx Q E D)
    (w : Shared P Q E D K A) : Except ε Unit × Shared P Q E D K A :=
  match c.loss with
  | .none => (.ok (), w.publish p t)
  | .request => (.error M.down, w)
  | .answer => (.error M.down, w.publish p t)

/-- One step of a party. -/
def exec (M : Sql S R D K ε E) (p : P) (c : TxChoice E) :
    (o : TxOp S Q A) → Shared P Q E D K A →
      Except ε (o.Ret R E) × Shared P Q E D K A
  | .query s, w => (if c.loss = .none then (M.stmt s).run w.committed else .error M.down, w)
  | .begin q, w => w.start M p c q
  | .execute s, w =>
    match w.tx p with
    | none => (.error M.down, w)
    | some t => w.perform M p c s t
  | .commit, w =>
    match w.tx p with
    | none => (.error M.down, w)
    | some t => w.finish M p c t
  | .rollback, w => (.ok (), w.close p)
  | .answer a, w => (.ok (), { w with answers := w.answers ++ [a] })

def machine (M : Sql S R D K ε E) (p : P) :
    Machine (TxOp S Q A) (TxOp.Ret R E) ε (Shared P Q E D K A) Unit (TxChoice E) where
  exec := exec M p
  see g _ _ := g

/-- Parties that handle calls. A connection that breaks down is rolled back by the database. -/
def company (M : Sql S R D K ε E) (handle : Q → Prog (TxOp S Q A) (TxOp.Ret R E) ε Unit) :
    Company P (TxOp S Q A) (TxOp.Ret R E) ε (Shared P Q E D K A) Unit (TxChoice E) Q Empty where
  machine := machine M
  handle _ := handle
  fresh := ()
  drift e := e.elim
  crash p w := w.close p

end Shared

/-! ## Transactions as programs -/

/-- `body` inside a transaction, with the rollback that is deferred to its end. After a commit
    there is nothing left to roll back. -/
def TxOp.transaction {α : Type} (q : Q) (body : E → Prog (TxOp S Q A) (TxOp.Ret R E) ε α) :
    Prog (TxOp S Q A) (TxOp.Ret R E) ε α := do
  let env ← Prog.perform (TxOp.begin q)
  let r ← (body env).attempt
  Prog.perform TxOp.rollback
  Prog.onAnswer .done r

end Effect
