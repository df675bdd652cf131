import EnjoyThings.ForStd.RelyGuarantee

/-!
# Programs that follow a discipline

A `Discipline` says which operations a party may call, given what it knows, and
what it learns from the answers. It speaks about the program only: `Follows` is
checked once per program, without any world. An interpretation of the knowledge
in a world (`Discipline.Sound`) then turns every program that follows the
discipline into one that meets a contract, so that each invariant of the system
is proved per kind of move and not per program.

## Key results

- `Follows.bind`, `Follows.call`: how programs follow a discipline step by step
- `Follows.holds`: a program that follows the discipline meets every contract the
  discipline is sound for
- `Follows.eval_related`: it gives the same result in worlds its moves cannot tell apart
-/

namespace Effect

variable {Op : Type} {Ret : Op → Type} {ε W G C K α β : Type}

/-- Which operations may be called with what knowledge. `answer` is what the answers of an
    operation have in common, and `le` is forgetting. -/
structure Discipline (Op : Type) (Ret : Op → Type) (ε K : Type) where
  move : K → (o : Op) → (Except ε (Ret o) → K) → Prop
  answer : (o : Op) → Except ε (Ret o) → Prop
  le : K → K → Prop
  le_refl : ∀ k, le k k
  le_trans : ∀ {k l m}, le k l → le l m → le k m

namespace Discipline

variable (D : Discipline Op Ret ε K)

/-- From knowledge `k` the program makes only moves of the discipline and ends in `post`. -/
def Follows (post : Except ε α → K → Prop) : Prog Op Ret ε α → K → Prop
  | .done a, k => ∃ l, D.le k l ∧ post (.ok a) l
  | .fail e, k => ∃ l, D.le k l ∧ post (.error e) l
  | .call o f, k => ∃ l learn, D.le k l ∧ D.move l o learn ∧
      ∀ r, D.answer o r → Follows post (f r) (learn r)

variable {D} {post post' : Except ε α → K → Prop} {p : Prog Op Ret ε α} {k l : K}

theorem Follows.weaken (h : D.Follows post p l) (hle : D.le k l) : D.Follows post p k := by
  cases p with
  | done a =>
    obtain ⟨m, hm, h⟩ := h
    exact ⟨m, D.le_trans hle hm, h⟩
  | fail e =>
    obtain ⟨m, hm, h⟩ := h
    exact ⟨m, D.le_trans hle hm, h⟩
  | call o f =>
    obtain ⟨m, learn, hm, h⟩ := h
    exact ⟨m, learn, D.le_trans hle hm, h⟩

theorem Follows.mono (h : D.Follows post p k) (himp : ∀ r k, post r k → post' r k) :
    D.Follows post' p k := by
  induction p generalizing k with
  | done a =>
    obtain ⟨m, hm, h⟩ := h
    exact ⟨m, hm, himp _ _ h⟩
  | fail e =>
    obtain ⟨m, hm, h⟩ := h
    exact ⟨m, hm, himp _ _ h⟩
  | call o f ih =>
    obtain ⟨m, learn, hm, hmove, h⟩ := h
    exact ⟨m, learn, hm, hmove, fun r hr => ih r (h r hr)⟩

theorem Follows.done {a : α} (h : post (.ok a) k) : D.Follows post (.done a) k :=
  ⟨k, D.le_refl k, h⟩

theorem Follows.fail {e : ε} (h : post (.error e) k) : D.Follows post (.fail e) k :=
  ⟨k, D.le_refl k, h⟩

/-- An operation whose error ends the program. -/
theorem Follows.call {o : Op} {f : Ret o → Prog Op Ret ε α} {learn : Except ε (Ret o) → K}
    (hmove : D.move k o learn)
    (hok : ∀ a, D.answer o (.ok a) → D.Follows post (f a) (learn (.ok a)))
    (herr : ∀ e, post (.error e) (learn (.error e))) :
    D.Follows post (.call o (Prog.onAnswer f)) k := by
  refine ⟨k, learn, D.le_refl k, hmove, fun r hr => ?_⟩
  cases r with
  | ok a => exact hok a hr
  | error e => exact .fail (herr e)

/-- The last operation of a program. -/
theorem Follows.perform {o : Op} {post : Except ε (Ret o) → K → Prop}
    {learn : Except ε (Ret o) → K} (hmove : D.move k o learn)
    (h : ∀ r, D.answer o r → post r (learn r)) :
    D.Follows post (Prog.perform o) k := by
  refine ⟨k, learn, D.le_refl k, hmove, fun r hr => ?_⟩
  cases r with
  | ok a => exact .done (h _ hr)
  | error e => exact .fail (h _ hr)

theorem Follows.bind {f : α → Prog Op Ret ε β} {post' : Except ε β → K → Prop}
    (h : D.Follows post p k)
    (hok : ∀ a l, post (.ok a) l → D.Follows post' (f a) l)
    (herr : ∀ e l, post (.error e) l → post' (.error e) l) :
    D.Follows post' (p >>= f) k := by
  induction p generalizing k with
  | done a =>
    obtain ⟨m, hm, h⟩ := h
    exact (hok a m h).weaken hm
  | fail e =>
    obtain ⟨m, hm, h⟩ := h
    exact ⟨m, hm, herr e m h⟩
  | call o g ih =>
    obtain ⟨m, learn, hm, hmove, h⟩ := h
    exact ⟨m, learn, hm, hmove, fun r hr => ih r (h r hr)⟩

theorem Follows.attempt {post : Except ε (Except ε α) → K → Prop}
    (h : D.Follows (fun r k => post (.ok r) k) p k) : D.Follows post p.attempt k := by
  induction p generalizing k with
  | done a => exact h
  | fail e => exact h
  | call o g ih =>
    obtain ⟨m, learn, hm, hmove, h⟩ := h
    exact ⟨m, learn, hm, hmove, fun r hr => ih r (h r hr)⟩

/-- The moves of the discipline whose operation has `P`. -/
def restrict (D : Discipline Op Ret ε K) (P : Op → Prop) : Discipline Op Ret ε K :=
  { D with move := fun k o learn => D.move k o learn ∧ P o }

/-- A program that only makes operations with `P` follows the discipline with those. -/
theorem Follows.restrict {P : Op → Prop} (h : D.Follows post p k) (hp : p.Only P) :
    (D.restrict P).Follows post p k := by
  induction p generalizing k with
  | done a => exact h
  | fail e => exact h
  | call o f ih =>
    obtain ⟨m, learn, hm, hmove, hrest⟩ := h
    exact ⟨m, learn, hm, ⟨hmove, hp.1⟩, fun r hr => ih r (hrest r hr) (hp.2 r)⟩

/-- A program that follows a discipline follows every one that allows its moves. -/
theorem Follows.allowed {D' : Discipline Op Ret ε K} (h : D.Follows post p k)
    (hmove : ∀ {k o learn}, D.move k o learn → D'.move k o learn)
    (hanswer : ∀ {o r}, D'.answer o r → D.answer o r) (hle : ∀ {k l}, D.le k l → D'.le k l) :
    D'.Follows post p k := by
  induction p generalizing k with
  | done a =>
    obtain ⟨m, hm, h⟩ := h
    exact ⟨m, hle hm, h⟩
  | fail e =>
    obtain ⟨m, hm, h⟩ := h
    exact ⟨m, hle hm, h⟩
  | call o f ih =>
    obtain ⟨m, learn, hm, hmove', hrest⟩ := h
    exact ⟨m, learn, hle hm, hmove hmove', fun r hr => ih r (hrest r (hanswer hr))⟩

/-- The moves of the discipline whose operation has `R` with the knowledge it is made from. -/
def limit (D : Discipline Op Ret ε K) (R : K → Op → Prop) : Discipline Op Ret ε K :=
  { D with move := fun k o learn => D.move k o learn ∧ R k o }

/-- A program whose operations have `R` whatever is known. -/
theorem Follows.limit {P : Op → Prop} {R : K → Op → Prop} (h : D.Follows post p k)
    (hp : p.Only P) (himp : ∀ k o, P o → R k o) : (D.limit R).Follows post p k :=
  (h.restrict hp).allowed (fun hm => ⟨hm.1, himp _ _ hm.2⟩) id id

/-- What knowledge means in a world, and that every move keeps the contract and teaches
    what it says. -/
structure Sound (D : Discipline Op Ret ε K) {M : Machine Op Ret ε W G C} (S : Contract M)
    (knows : K → G → W → Prop) : Prop where
  mono : ∀ {k l g w}, D.le k l → knows k g w → knows l g w
  stable : ∀ {k g w w'}, knows k g w → S.rely w w' → S.inv w' → knows k g w'
  answers : ∀ c o w, D.answer o (M.exec c o w).1
  step : ∀ {k o learn g w c}, D.move k o learn → S.inv w → knows k g w → S.allow g o w c →
    S.inv (M.exec c o w).2 ∧ S.guar w (M.exec c o w).2 ∧
    knows (learn (M.exec c o w).1) (M.see g o (M.exec c o w).1) (M.exec c o w).2

/-- A program that follows the discipline meets the contract. -/
theorem Follows.holds {M : Machine Op Ret ε W G C} {S : Contract M} {knows : K → G → W → Prop}
    (hD : D.Sound S knows) (h : D.Follows post p k) {g : G} {w : W} (hk : knows k g w) :
    S.Holds (fun r g w => ∃ l, post r l ∧ knows l g w) p g w := by
  induction p generalizing k g w with
  | done a =>
    intro w' hr hi
    obtain ⟨m, hm, h⟩ := h
    exact ⟨m, h, hD.mono hm (hD.stable hk hr hi)⟩
  | fail e =>
    intro w' hr hi
    obtain ⟨m, hm, h⟩ := h
    exact ⟨m, h, hD.mono hm (hD.stable hk hr hi)⟩
  | call o f ih =>
    intro w' hr hi c hc
    obtain ⟨m, learn, hm, hmove, h⟩ := h
    obtain ⟨h₁, h₂, h₃⟩ := hD.step hmove hi (hD.mono hm (hD.stable hk hr hi)) hc
    exact ⟨h₁, h₂, ih _ (h _ (hD.answers c o w')) h₃⟩

/-! ## Programs that follow a discipline to their end -/

section Eval

/-- Two worlds that the moves of the discipline cannot tell apart give the same result. -/
theorem Follows.eval_related {M : Machine Op Ret ε W G C} {R : W → W → Prop}
    (hanswer : ∀ c o w, D.answer o (M.exec c o w).1)
    (hstep : ∀ {k o learn c w v}, D.move k o learn → R w v →
      (M.exec c o w).1 = (M.exec c o v).1 ∧ R (M.exec c o w).2 (M.exec c o v).2)
    (h : D.Follows post p k) (cs : Nat → C) {w v : W} (hR : R w v) :
    (p.eval M cs w).1 = (p.eval M cs v).1 ∧ R (p.eval M cs w).2 (p.eval M cs v).2 := by
  induction p generalizing k cs w v with
  | done a => exact ⟨rfl, hR⟩
  | fail e => exact ⟨rfl, hR⟩
  | call o f ih =>
    obtain ⟨l, learn, -, hmove, hrest⟩ := h
    obtain ⟨hsame, hR'⟩ := hstep (c := cs 0) hmove hR
    have hnext := hrest (M.exec (cs 0) o w).1 (hanswer (cs 0) o w)
    simp only [Prog.eval, ← hsame]
    exact ih _ hnext _ hR'

/-- What every move of the discipline keeps, a program that follows it keeps to its end. -/
theorem Follows.eval_inv {M : Machine Op Ret ε W G C} {I : W → Prop}
    (hanswer : ∀ c o w, D.answer o (M.exec c o w).1)
    (hstep : ∀ {k o learn c w}, D.move k o learn → I w → I (M.exec c o w).2)
    (h : D.Follows post p k) (cs : Nat → C) {w : W} (hi : I w) : I (p.eval M cs w).2 := by
  induction p generalizing k cs w with
  | done a => exact hi
  | fail e => exact hi
  | call o f ih =>
    obtain ⟨l, learn, -, hmove, hrest⟩ := h
    exact ih _ (hrest _ (hanswer (cs 0) o w)) _ (hstep hmove hi)

end Eval

end Discipline

end Effect
