import Mathlib.Data.List.Basic

/-!
# Effect programs and their runs

A program that talks to its surroundings one operation at a time, the machine
that answers the operations, and the two ways such programs are run here:

- one program at a time, each of which may stop after any of its steps
  (`Prog.runFor`, `serial`);
- a pool of programs whose steps interleave in any order (`Pool.run`).

Everything that is left to the surroundings (an answer, a fault, a fresh
identifier, a clock reading) is one `choice` per step, so a run is a list of
choices and can be evaluated.
-/

namespace Effect

/-- A program over the operations `Op`. An operation `o` is answered by a
    `Ret o` or by an error, and the program goes on with the answer. -/
inductive Prog (Op : Type) (Ret : Op → Type) (ε : Type) (α : Type) where
  | done (a : α)
  | fail (e : ε)
  | call (o : Op) (k : Except ε (Ret o) → Prog Op Ret ε α)

namespace Prog

variable {Op : Type} {Ret : Op → Type} {ε α β : Type}

/-- Run `p`, then `f` on its result. An error of `p` ends the whole program. -/
def bind : Prog Op Ret ε α → (α → Prog Op Ret ε β) → Prog Op Ret ε β
  | .done a, f => f a
  | .fail e, _ => .fail e
  | .call o k, f => .call o fun r => (k r).bind f

instance : Monad (Prog Op Ret ε) where
  pure := .done
  bind := Prog.bind

/-- Call one operation and return its answer, or fail with its error. -/
def perform (o : Op) : Prog Op Ret ε (Ret o) :=
  .call o fun
    | .ok a => .done a
    | .error e => .fail e

/-- Return the error of `p` as a value instead of failing with it. -/
def attempt : Prog Op Ret ε α → Prog Op Ret ε (Except ε α)
  | .done a => .done (.ok a)
  | .fail e => .done (.error e)
  | .call o k => .call o fun r => (k r).attempt

/-- How a program continues with the answer of an operation it does not guard. -/
def onAnswer (f : α → Prog Op Ret ε β) : Except ε α → Prog Op Ret ε β
  | .ok a => f a
  | .error e => .fail e

@[simp] theorem onAnswer_ok (f : α → Prog Op Ret ε β) (a : α) :
    onAnswer f (.ok a) = f a := rfl

@[simp] theorem onAnswer_error (f : α → Prog Op Ret ε β) (e : ε) :
    onAnswer f (.error e) = .fail e := rfl

@[simp] theorem pure_eq (a : α) : (pure a : Prog Op Ret ε α) = .done a := rfl

@[simp] theorem done_bind (a : α) (f : α → Prog Op Ret ε β) :
    (.done a : Prog Op Ret ε α) >>= f = f a := rfl

@[simp] theorem fail_bind (e : ε) (f : α → Prog Op Ret ε β) :
    (.fail e : Prog Op Ret ε α) >>= f = .fail e := rfl

@[simp] theorem call_bind (o : Op) (k : Except ε (Ret o) → Prog Op Ret ε α)
    (f : α → Prog Op Ret ε β) :
    (.call o k : Prog Op Ret ε α) >>= f = .call o fun r => k r >>= f := rfl

/-- Sequencing is associative, by induction on the first program. -/
theorem bind_assoc {γ : Type} (p : Prog Op Ret ε α) (f : α → Prog Op Ret ε β)
    (g : β → Prog Op Ret ε γ) : p >>= f >>= g = p >>= fun a => f a >>= g := by
  induction p with
  | done a => rfl
  | fail e => rfl
  | call o k ih =>
    show Prog.call o _ = Prog.call o _
    congr 1
    funext r
    exact ih r

/-- Returning the result adds nothing. -/
theorem bind_pure (p : Prog Op Ret ε α) : p >>= pure = p := by
  induction p with
  | done a => rfl
  | fail e => rfl
  | call o k ih =>
    show Prog.call o _ = Prog.call o _
    congr 1
    funext r
    exact ih r

/-- The normal form of a call: the operation and what goes on with its answer. -/
@[simp] theorem perform_bind (o : Op) (f : Ret o → Prog Op Ret ε β) :
    (perform o : Prog Op Ret ε (Ret o)) >>= f = .call o (onAnswer f) := by
  show Prog.call o _ = Prog.call o _
  congr 1
  funext r
  cases r <;> rfl

/-- What comes after an unguarded call moves behind its answer. -/
theorem call_onAnswer_bind {γ : Type} (o : Op) (f : Ret o → Prog Op Ret ε β)
    (g : β → Prog Op Ret ε γ) :
    (.call o (onAnswer f) : Prog Op Ret ε β) >>= g = .call o (onAnswer fun a => f a >>= g) := by
  show Prog.call o _ = Prog.call o _
  congr 1
  funext r
  cases r <;> rfl

/-- A single call in normal form. -/
theorem perform_eq (o : Op) :
    (perform o : Prog Op Ret ε (Ret o)) = .call o (onAnswer .done) := by
  unfold perform
  congr 1
  funext r
  cases r <;> rfl

/-- What comes after a guarded call is given its error as well. -/
@[simp] theorem attempt_perform_bind (o : Op) (f : Except ε (Ret o) → Prog Op Ret ε β) :
    (perform o : Prog Op Ret ε (Ret o)).attempt >>= f = .call o f := by
  show Prog.call o _ = Prog.call o _
  congr 1
  funext r
  cases r <;> rfl

end Prog

/-- What answers the operations: `exec` performs one operation under a choice
    of the surroundings, and `see` is what the calling program remembers of
    the answer. -/
structure Machine (Op : Type) (Ret : Op → Type) (ε W G C : Type) where
  exec : C → (o : Op) → W → Except ε (Ret o) × W
  see : G → (o : Op) → Except ε (Ret o) → G

variable {Op : Type} {Ret : Op → Type} {ε W G C Q α β : Type}

/-! ## One program at a time -/

/-- The world after the steps of `p` for which there is a choice. The program
    stops where the choices end, as if it had crashed there. -/
def Prog.runFor (M : Machine Op Ret ε W G C) : List C → Prog Op Ret ε α → W → W
  | c :: cs, .call o k, w => (k (M.exec c o w).1).runFor M cs (M.exec c o w).2
  | _, _, w => w

section RunFor

variable (M : Machine Op Ret ε W G C) (w : W)

@[simp] theorem Prog.runFor_nil (p : Prog Op Ret ε α) : p.runFor M [] w = w := by
  cases p <;> rfl

@[simp] theorem Prog.runFor_done (cs : List C) (a : α) :
    (.done a : Prog Op Ret ε α).runFor M cs w = w := by
  cases cs <;> rfl

@[simp] theorem Prog.runFor_fail (cs : List C) (e : ε) :
    (.fail e : Prog Op Ret ε α).runFor M cs w = w := by
  cases cs <;> rfl

/-- One step uses one choice up. -/
theorem Prog.runFor_call (c : C) (cs : List C) (o : Op) (k : Except ε (Ret o) → Prog Op Ret ε α) :
    (Prog.call o k).runFor M (c :: cs) w =
      (k (M.exec c o w).1).runFor M cs (M.exec c o w).2 := rfl

end RunFor

/-- What is left of `p` after the steps for which there is a choice, and the world it is
    left in. -/
def Prog.residual (M : Machine Op Ret ε W G C) :
    List C → Prog Op Ret ε α → W → Prog Op Ret ε α × W
  | c :: cs, .call o k, w => (k (M.exec c o w).1).residual M cs (M.exec c o w).2
  | _, p, w => (p, w)

/-- The result and the world when `p` runs to its end, with a choice for every step. -/
def Prog.eval (M : Machine Op Ret ε W G C) :
    Prog Op Ret ε α → (Nat → C) → W → Except ε α × W
  | .done a, _, w => (.ok a, w)
  | .fail e, _, w => (.error e, w)
  | .call o k, cs, w =>
    (k (M.exec (cs 0) o w).1).eval M (fun n => cs (n + 1)) (M.exec (cs 0) o w).2

/-- A single operation. -/
theorem Prog.eval_perform (M : Machine Op Ret ε W G C) (o : Op) (cs : Nat → C) (w : W) :
    (Prog.perform o).eval M cs w = M.exec (cs 0) o w := by
  rw [Prog.perform_eq, Prog.eval]
  cases hr : (M.exec (cs 0) o w).1 with
  | ok a => exact Prod.ext hr.symm rfl
  | error e => exact Prod.ext hr.symm rfl

/-- A run to the end goes through every residual on the way. -/
theorem Prog.eval_residual (M : Machine Op Ret ε W G C) (p : Prog Op Ret ε α) (cs : Nat → C)
    (w : W) (n : Nat) :
    p.eval M cs w = (p.residual M ((List.range n).map cs) w).1.eval M (fun m => cs (n + m))
      (p.residual M ((List.range n).map cs) w).2 := by
  induction n generalizing p cs w with
  | zero => cases p <;> simp [residual]
  | succ n ih =>
    cases p with
    | done a => simp [residual, List.range_succ_eq_map, eval]
    | fail e => simp [residual, List.range_succ_eq_map, eval]
    | call o k =>
      -- the first choice answers the call, the rest is for what follows
      have hrest := ih (k (M.exec (cs 0) o w).1) (fun m => cs (m + 1)) (M.exec (cs 0) o w).2
      simpa [residual, List.range_succ_eq_map, eval, Function.comp_def, Nat.add_right_comm]
        using hrest

/-- The result of `p` when others move the world between its calls: the `n`th call finds the
    world `ws n`. -/
def Prog.answered (M : Machine Op Ret ε W G C) :
    Prog Op Ret ε α → (Nat → C) → (Nat → W) → Except ε α
  | .done a, _, _ => .ok a
  | .fail e, _, _ => .error e
  | .call o k, cs, ws =>
    (k (M.exec (cs 0) o (ws 0)).1).answered M (fun n => cs (n + 1)) fun n => ws (n + 1)

/-- A call is answered in the world it finds. -/
theorem Prog.answered_perform (M : Machine Op Ret ε W G C) (o : Op) (cs : Nat → C)
    (ws : Nat → W) : (Prog.perform o).answered M cs ws = (M.exec (cs 0) o (ws 0)).1 := by
  rw [Prog.perform_eq, Prog.answered]
  cases hr : (M.exec (cs 0) o (ws 0)).1 <;> rfl

/-- What comes after a call finds the worlds after it. -/
theorem Prog.answered_perform_bind (M : Machine Op Ret ε W G C) (o : Op)
    (f : Ret o → Prog Op Ret ε α) (cs : Nat → C) (ws : Nat → W) :
    (Prog.perform o >>= f).answered M cs ws =
      (M.exec (cs 0) o (ws 0)).1 >>= fun a =>
        (f a).answered M (fun n => cs (n + 1)) fun n => ws (n + 1) := by
  rw [Prog.perform_bind, Prog.answered]
  cases (M.exec (cs 0) o (ws 0)).1 <;> rfl

/-- No call of a run to the end fails. -/
def Prog.NoneFails (M : Machine Op Ret ε W G C) : Prog Op Ret ε α → (Nat → C) → W → Prop
  | .done _, _, _ | .fail _, _, _ => True
  | .call o k, cs, w => (M.exec (cs 0) o w).1.isOk = true ∧
      (k (M.exec (cs 0) o w).1).NoneFails M (fun n => cs (n + 1)) (M.exec (cs 0) o w).2

instance Prog.decidableNoneFails (M : Machine Op Ret ε W G C) :
    (p : Prog Op Ret ε α) → (cs : Nat → C) → (w : W) → Decidable (p.NoneFails M cs w)
  | .done _, _, _ | .fail _, _, _ => .isTrue trivial
  | .call o k, cs, w =>
    have := Prog.decidableNoneFails M (k (M.exec (cs 0) o w).1) (fun n => cs (n + 1))
      (M.exec (cs 0) o w).2
    inferInstanceAs (Decidable (_ = true ∧ _))

/-- Every call of a run to the end meets `cond`, which is about the operation, the choice and the
    world it is called in. -/
def Prog.Meets (M : Machine Op Ret ε W G C) (cond : Op → C → W → Prop) :
    Prog Op Ret ε α → (Nat → C) → W → Prop
  | .done _, _, _ | .fail _, _, _ => True
  | .call o k, cs, w => cond o (cs 0) w ∧
      (k (M.exec (cs 0) o w).1).Meets M cond (fun n => cs (n + 1)) (M.exec (cs 0) o w).2

/-! ## Programs that run to their end -/

/-- How many calls a run to the end makes. -/
def Prog.calls (M : Machine Op Ret ε W G C) : Prog Op Ret ε α → (Nat → C) → W → Nat
  | .done _, _, _ | .fail _, _, _ => 0
  | .call o k, cs, w =>
    (k (M.exec (cs 0) o w).1).calls M (fun n => cs (n + 1)) (M.exec (cs 0) o w).2 + 1

/-- The choices `cs` for the first `n` calls and `ds` for those after them. -/
def splice (n : Nat) (cs ds : Nat → C) (m : Nat) : C :=
  if m < n then cs m else ds (m - n)

theorem splice_zero (cs ds : Nat → C) : splice 0 cs ds = ds := by
  funext m
  simp [splice]

/-- The first of the choices is used up. -/
theorem splice_succ (n : Nat) (cs ds : Nat → C) :
    (fun m => splice (n + 1) cs ds (m + 1)) = splice n (fun m => cs (m + 1)) ds := by
  funext m
  simp [splice]

theorem splice_const (n : Nat) (c : C) : splice n (fun _ => c) (fun _ => c) = fun _ => c := by
  funext m
  simp [splice]

variable {p : Prog Op Ret ε α} {cs : Nat → C} {v : W}

/-- `p` and what comes after it run with choices of their own, if `p` returns. -/
theorem Prog.eval_bind_splice_ok {M : Machine Op Ret ε W G C} {w : W} {a : α}
    (h : p.eval M cs w = (.ok a, v)) (f : α → Prog Op Ret ε β) (ds : Nat → C) :
    (p >>= f).eval M (splice (p.calls M cs w) cs ds) w = (f a).eval M ds v := by
  induction p generalizing cs w with
  | done b =>
    cases h
    rw [Prog.calls, splice_zero]
    rfl
  | fail e => cases h
  | call o k ih =>
    rw [Prog.calls, Prog.call_bind, Prog.eval, splice_succ]
    exact ih _ h

variable {e : ε}

/-- An error of `p` ends the whole program, and `ds` is not used. -/
theorem Prog.eval_bind_splice_error {M : Machine Op Ret ε W G C} {w : W}
    (h : p.eval M cs w = (.error e, v)) (f : α → Prog Op Ret ε β) (ds : Nat → C) :
    (p >>= f).eval M (splice (p.calls M cs w) cs ds) w = (.error e, v) := by
  induction p generalizing cs w with
  | done b => cases h
  | fail e' =>
    cases h
    rfl
  | call o k ih =>
    rw [Prog.calls, Prog.call_bind, Prog.eval, splice_succ]
    exact ih _ h

/-- `p` and what comes after it run under one choice, if `p` returns. -/
theorem Prog.eval_bind_const {M : Machine Op Ret ε W G C} {c : C} {w : W} {a : α}
    (h : p.eval M (fun _ => c) w = (.ok a, v)) (f : α → Prog Op Ret ε β) :
    (p >>= f).eval M (fun _ => c) w = (f a).eval M (fun _ => c) v := by
  have hsplice := Prog.eval_bind_splice_ok h f fun _ => c
  rwa [splice_const] at hsplice

/-- The same for an error. -/
theorem Prog.eval_bind_const_error {M : Machine Op Ret ε W G C} {c : C} {w : W}
    (h : p.eval M (fun _ => c) w = (.error e, v)) (f : α → Prog Op Ret ε β) :
    (p >>= f).eval M (fun _ => c) w = (.error e, v) := by
  have hsplice := Prog.eval_bind_splice_error h f fun _ => c
  rwa [splice_const] at hsplice

/-- A program whose error is looked at returns. -/
theorem Prog.eval_attempt (M : Machine Op Ret ε W G C) (p : Prog Op Ret ε α) (cs : Nat → C)
    (w : W) : p.attempt.eval M cs w = (.ok (p.eval M cs w).1, (p.eval M cs w).2) := by
  induction p generalizing cs w with
  | done a => rfl
  | fail e => rfl
  | call o k ih => exact ih _ _ _

/-- The world after a sequence of requests, each handled by its program up to
    where its own choices end, before the next one starts. -/
def serial (M : Machine Op Ret ε W G C) (handle : Q → Prog Op Ret ε Unit) :
    List (Q × List C) → W → W
  | [], w => w
  | (q, cs) :: rest, w => serial M handle rest ((handle q).runFor M cs w)

/-- Every call of a run meets `cond`, which is about the operation, the world it is called in,
    its choice and the choices after it. -/
def Prog.Along (M : Machine Op Ret ε W G C) (cond : Op → W → C → List C → Prop) :
    List C → Prog Op Ret ε α → W → Prop
  | c :: cs, .call o k, w =>
    cond o w c cs ∧ (k (M.exec c o w).1).Along M cond cs (M.exec c o w).2
  | _, _, _ => True

/-- A run that meets a condition meets every weaker one. -/
theorem Prog.Along.imp {M : Machine Op Ret ε W G C} {cond cond' : Op → W → C → List C → Prop}
    (himp : ∀ o w c cs, cond o w c cs → cond' o w c cs) {cs : List C} {w : W}
    (h : p.Along M cond cs w) : p.Along M cond' cs w := by
  induction p generalizing cs w with
  | done a => cases cs <;> trivial
  | fail e => cases cs <;> trivial
  | call o k ih =>
    cases cs with
    | nil => trivial
    | cons c cs => exact ⟨himp o w c cs h.1, ih _ h.2⟩

instance Prog.decidableAlong (M : Machine Op Ret ε W G C) (cond : Op → W → C → List C → Prop)
    [∀ o w c cs, Decidable (cond o w c cs)] :
    (cs : List C) → (p : Prog Op Ret ε α) → (w : W) → Decidable (p.Along M cond cs w)
  | c :: cs, .call o k, w =>
    have := Prog.decidableAlong M cond cs (k (M.exec c o w).1) (M.exec c o w).2
    inferInstanceAs (Decidable (cond o w c cs ∧ _))
  | [], .call _ _, _ | [], .done _, _ | [], .fail _, _ => .isTrue trivial
  | _ :: _, .done _, _ | _ :: _, .fail _, _ => .isTrue trivial

/-- Every call of every program of a sequence meets `cond`. -/
def SerialAlong (M : Machine Op Ret ε W G C) (handle : Q → Prog Op Ret ε Unit)
    (cond : Op → W → C → List C → Prop) : List (Q × List C) → W → Prop
  | [], _ => True
  | (q, cs) :: rest, w =>
    (handle q).Along M cond cs w ∧ SerialAlong M handle cond rest ((handle q).runFor M cs w)

instance SerialAlong.decidable (M : Machine Op Ret ε W G C) (handle : Q → Prog Op Ret ε Unit)
    (cond : Op → W → C → List C → Prop) [∀ o w c cs, Decidable (cond o w c cs)] :
    (reqs : List (Q × List C)) → (w : W) → Decidable (SerialAlong M handle cond reqs w)
  | [], _ => .isTrue trivial
  | (q, cs) :: rest, w =>
    have := SerialAlong.decidable M handle cond rest ((handle q).runFor M cs w)
    inferInstanceAs (Decidable ((handle q).Along M cond cs w ∧ _))

/-! ## Programs that stop at an error -/

/-- An error of an operation with `P` ends the program. -/
def Prog.FailsOn (P : Op → Prop) : Prog Op Ret ε α → Prop
  | .done _ | .fail _ => True
  | .call o k => (P o → ∀ e, k (.error e) = .fail e) ∧ ∀ r, (k r).FailsOn P

variable {o : Op}

namespace Prog.FailsOn

variable {P : Op → Prop}

theorem perform (o : Op) : (Prog.perform o : Prog Op Ret ε (Ret o)).FailsOn P := by
  refine ⟨fun _ _ => rfl, fun r => ?_⟩
  cases r <;> trivial

/-- Only an operation without `P` may be guarded. -/
theorem attempt_perform (h : ¬ P o) :
    (Prog.perform o : Prog Op Ret ε (Ret o)).attempt.FailsOn P := by
  refine ⟨fun hP => absurd hP h, fun r => ?_⟩
  cases r <;> trivial

theorem bind {f : α → Prog Op Ret ε β} (hp : p.FailsOn P) (hf : ∀ a, (f a).FailsOn P) :
    (p >>= f).FailsOn P := by
  induction p with
  | done a => exact hf a
  | fail e => trivial
  | call o k ih =>
    refine ⟨fun hP e => ?_, fun r => ih r (hp.2 r)⟩
    -- an error that ends `p` ends what comes after it
    show k (.error e) >>= f = .fail e
    rw [hp.1 hP e]
    rfl

/-- What is left of a run stops at the same errors. -/
theorem residual {M : Machine Op Ret ε W G C} (hp : p.FailsOn P) (cs : List C) (w : W) :
    (p.residual M cs w).1.FailsOn P := by
  induction cs generalizing p w with
  | nil => cases p <;> exact hp
  | cons c cs ih =>
    cases p with
    | done _ | fail _ => trivial
    | call o k => exact ih (hp.2 _) _

/-- If a run comes to an operation with `P` that reports an error, it ends there. -/
theorem eval_eq {M : Machine Op Ret ε W G C} (hp : p.FailsOn P) {w w' : W} {n : Nat}
    {k : Except ε (Ret o) → Prog Op Ret ε α}
    (hnext : p.residual M ((List.range n).map cs) w = (.call o k, w')) (ho : P o)
    (he : (M.exec (cs n) o w').1 = .error e) :
    p.eval M cs w = (.error e, (M.exec (cs n) o w').2) := by
  have hrest := hp.residual (M := M) ((List.range n).map cs) w
  rw [hnext] at hrest
  rw [eval_residual M p cs w n, hnext]
  show (k (M.exec (cs n) o w').1).eval M _ _ = _
  rw [he, hrest.1 ho e]
  rfl

end Prog.FailsOn

/-! ## Programs that only make some of the operations -/

/-- Whatever the answers, the program only makes operations with `P`. -/
def Prog.Only (P : Op → Prop) : Prog Op Ret ε α → Prop
  | .done _ | .fail _ => True
  | .call o k => P o ∧ ∀ r, (k r).Only P

namespace Prog.Only

variable {P : Op → Prop}

theorem perform (h : P o) : (Prog.perform o : Prog Op Ret ε (Ret o)).Only P := by
  refine ⟨h, fun r => ?_⟩
  cases r <;> trivial

theorem bind {f : α → Prog Op Ret ε β} (hp : p.Only P) (hf : ∀ a, (f a).Only P) :
    (p >>= f).Only P := by
  induction p with
  | done a => exact hf a
  | fail e => trivial
  | call o k ih => exact ⟨hp.1, fun r => ih r (hp.2 r)⟩

theorem of_forall (h : ∀ o, P o) (p : Prog Op Ret ε α) : p.Only P := by
  induction p with
  | done _ | fail _ => trivial
  | call o k ih => exact ⟨h o, ih⟩

theorem attempt (hp : p.Only P) : p.attempt.Only P := by
  induction p with
  | done _ | fail _ => trivial
  | call o k ih => exact ⟨hp.1, fun r => ih r (hp.2 r)⟩

theorem imp {P' : Op → Prop} (hp : p.Only P) (h : ∀ o, P o → P' o) :
    p.Only P' := by
  induction p with
  | done _ | fail _ => trivial
  | call o k ih => exact ⟨h o hp.1, fun r => ih r (hp.2 r)⟩

/-- What every operation with `P` keeps, a program of such operations keeps. -/
theorem runFor {M : Machine Op Ret ε W G C} (hp : p.Only P) {inv : W → Prop}
    (hstep : ∀ c o w, P o → inv w → inv (M.exec c o w).2) {w : W} (hi : inv w) (cs : List C) :
    inv (p.runFor M cs w) := by
  induction cs generalizing p w with
  | nil => cases p <;> exact hi
  | cons c cs ih =>
    cases p with
    | done _ | fail _ => exact hi
    | call o k => exact ih (hp.2 _) (hstep c o w hp.1 hi)

end Prog.Only

/-! ## A pool of programs -/

/-- One act of the scheduler: start the handler of a request, let a thread make
    its next step, or let it crash. -/
inductive Act (Q C : Type) where
  | start (q : Q)
  | step (i : Nat) (c : C)
  | crash (i : Nat)

/-- The act is a step of the thread `i`. -/
def Act.isStepOf (i : Nat) : Act Q C → Bool
  | .step j _ => j = i
  | _ => false

/-- The shared world and the threads, each with what it remembers. -/
structure Pool (Op : Type) (Ret : Op → Type) (ε W G : Type) where
  world : W
  threads : List (G × Prog Op Ret ε Unit)

/-- The effect of one act. Acts on a thread that is not there or has ended do nothing. -/
def Pool.act (M : Machine Op Ret ε W G C) (handle : Q → Prog Op Ret ε Unit) (fresh : G)
    (P : Pool Op Ret ε W G) : Act Q C → Pool Op Ret ε W G
  | .start q => { P with threads := P.threads ++ [(fresh, handle q)] }
  | .crash i => { P with threads := P.threads.eraseIdx i }
  | .step i c =>
    match P.threads[i]? with
    | some (g, .call o k) =>
      { world := (M.exec c o P.world).2
        threads := P.threads.set i (M.see g o (M.exec c o P.world).1, k (M.exec c o P.world).1) }
    | _ => P

/-- The pool after a list of acts. -/
def Pool.run (M : Machine Op Ret ε W G C) (handle : Q → Prog Op Ret ε Unit) (fresh : G)
    (P : Pool Op Ret ε W G) (acts : List (Act Q C)) : Pool Op Ret ε W G :=
  acts.foldl (Pool.act M handle fresh) P

/-- The pool in which nothing has been started yet. -/
def Pool.idle (w : W) : Pool Op Ret ε W G := { world := w, threads := [] }

@[simp] theorem Pool.run_nil (M : Machine Op Ret ε W G C) (handle : Q → Prog Op Ret ε Unit)
    (fresh : G) (P : Pool Op Ret ε W G) : P.run M handle fresh [] = P := rfl

/-- A run goes on from where it stands. -/
theorem Pool.run_append (M : Machine Op Ret ε W G C) (handle : Q → Prog Op Ret ε Unit)
    (fresh : G) (P : Pool Op Ret ε W G) (as bs : List (Act Q C)) :
    P.run M handle fresh (as ++ bs) = (P.run M handle fresh as).run M handle fresh bs := by
  simp only [Pool.run, List.foldl_append]

/-- A pool of one program runs as the program does. -/
theorem Pool.run_single (M : Machine Op Ret ε W G C) (handle : Q → Prog Op Ret ε Unit)
    (fresh g : G) (p : Prog Op Ret ε Unit) (w : W) (cs : List C) :
    ((⟨w, [(g, p)]⟩ : Pool Op Ret ε W G).run M handle fresh (cs.map (.step 0))).world =
      p.runFor M cs w := by
  induction cs generalizing g p w with
  | nil => cases p <;> rfl
  | cons c cs ih =>
    cases p with
    -- a program that has ended makes no step
    | done a => exact (ih g (.done a) w).trans (by cases cs <;> rfl)
    | fail e => exact (ih g (.fail e) w).trans (by cases cs <;> rfl)
    | call o k => exact ih _ (k (M.exec c o w).1) (M.exec c o w).2

variable {handle : Q → Prog Op Ret ε Unit} {fresh : G} {i : Nat}

/-- A step of a thread that has not ended. -/
theorem Pool.act_step {M : Machine Op Ret ε W G C} {g : G} {P : Pool Op Ret ε W G}
    {k : Except ε (Ret o) → Prog Op Ret ε Unit} (h : P.threads[i]? = some (g, .call o k)) (c : C) :
    P.act M handle fresh (.step i c) =
      { world := (M.exec c o P.world).2
        threads := P.threads.set i
          (M.see g o (M.exec c o P.world).1, k (M.exec c o P.world).1) } := by
  simp only [Pool.act, h]

/-- The thread that made the step remembers the answer and goes on with it. -/
theorem Pool.act_step_self {M : Machine Op Ret ε W G C} {g : G} {P : Pool Op Ret ε W G}
    {k : Except ε (Ret o) → Prog Op Ret ε Unit} (h : P.threads[i]? = some (g, .call o k)) (c : C) :
    (P.act M handle fresh (.step i c)).threads[i]? =
      some (M.see g o (M.exec c o P.world).1, k (M.exec c o P.world).1) := by
  obtain ⟨hi, -⟩ := List.getElem?_eq_some_iff.mp h
  rw [Pool.act_step h]
  exact List.getElem?_set_self hi

/-- A thread stays as it is while others start or step. -/
theorem Pool.act_other {M : Machine Op Ret ε W G C} {P : Pool Op Ret ε W G}
    {t : G × Prog Op Ret ε Unit} {a : Act Q C} (h : P.threads[i]? = some t)
    (hstep : ∀ c, a ≠ .step i c) (hcrash : ∀ j, a ≠ .crash j) :
    (P.act M handle fresh a).threads[i]? = some t := by
  cases a with
  | start q =>
    obtain ⟨hi, -⟩ := List.getElem?_eq_some_iff.mp h
    exact (List.getElem?_append_left hi).trans h
  | crash j => exact absurd rfl (hcrash j)
  | step j c =>
    -- a step writes back the thread that made it, and no other
    have hne : j ≠ i := fun hj => hstep c (by rw [hj])
    simp only [Pool.act]
    split
    · exact (List.getElem?_set_ne hne).trans h
    · exact h

/-- What the handlers' programs only do, the threads of a pool only do. -/
theorem Pool.act_only {M : Machine Op Ret ε W G C} {P : Op → Prop}
    (hhandle : ∀ q, (handle q).Only P) {pool : Pool Op Ret ε W G}
    (h : ∀ t ∈ pool.threads, t.2.Only P) (a : Act Q C) :
    ∀ t ∈ (pool.act M handle fresh a).threads, t.2.Only P := by
  intro t ht
  cases a with
  | start q =>
    rcases List.mem_append.mp ht with ht | ht
    · exact h t ht
    · rw [List.mem_singleton.mp ht]
      exact hhandle q
  | crash i => exact h t (List.mem_of_mem_eraseIdx ht)
  | step i c =>
    simp only [Pool.act] at ht
    split at ht
    · -- what is left of a thread is part of what it was
      rename_i g o k hi
      rcases List.mem_or_eq_of_mem_set ht with ht | rfl
      · exact h t ht
      · exact (h _ (List.mem_of_getElem? hi)).2 _
    · exact h t ht

/-- What every operation keeps and how it moves the world, a pool keeps and does, whatever its
    programs are. -/
theorem Pool.run_keeps {M : Machine Op Ret ε W G C} {I : W → Prop} {R : W → W → Prop}
    (hrefl : ∀ w, R w w) (htrans : ∀ {u v w}, R u v → R v w → R u w)
    (hstep : ∀ c o w, I w → I (M.exec c o w).2 ∧ R w (M.exec c o w).2) {P : Pool Op Ret ε W G}
    (hi : I P.world) (acts : List (Act Q C)) :
    I (P.run M handle fresh acts).world ∧ R P.world (P.run M handle fresh acts).world := by
  induction acts generalizing P with
  | nil => exact ⟨hi, hrefl _⟩
  | cons a acts ih =>
    -- only steps touch the world
    have hact : I (P.act M handle fresh a).world ∧ R P.world (P.act M handle fresh a).world := by
      cases a with
      | start q => exact ⟨hi, hrefl _⟩
      | crash i => exact ⟨hi, hrefl _⟩
      | step i c =>
        simp only [Pool.act]
        split
        · exact hstep c _ _ hi
        · exact ⟨hi, hrefl _⟩
    obtain ⟨hi', hR⟩ := ih hact.1
    exact ⟨hi', htrans hact.2 hR⟩

end Effect
