import EnjoyThings.ForStd.Except
import EnjoyThings.ForStd.Prog

/-!
# Rely/guarantee reasoning for effect programs

A `Contract` says what every state of a run keeps (`inv`), what a program may
assume of the steps of the others between two of its own (`rely`) and what it
promises of its own steps (`guar`). `Contract.Holds` is the triple for one
program, by recursion on the program. Because `inv` has to hold after every
single step, a program that stops anywhere leaves a state with `inv`, so the
same triple covers crashes.

## Key results

- `Holds.bind`: triples compose along `>>=`
- `serial_inv` / `serial_guar`: programs that run one at a time and may stop anywhere
- `Pool.run_inv` / `Pool.run_guar`: pools of programs that interleave in any order
- `Holds.eval`: what a program that runs to its end returns and leaves behind
-/

namespace Effect

variable {Op : Type} {Ret : Op → Type} {ε W G C Q α β : Type}

/-- What a run keeps, what a program relies on and what it guarantees. `allow`
    restricts the steps a run may take, given what the program remembers. -/
structure Contract (M : Machine Op Ret ε W G C) where
  allow : G → Op → W → C → Prop
  inv : W → Prop
  rely : W → W → Prop
  guar : W → W → Prop
  rely_refl : ∀ w, rely w w
  rely_trans : ∀ {u v w}, rely u v → rely v w → rely u w

variable {cs cs' : List C}

namespace Contract

variable {M : Machine Op Ret ε W G C}

/-- A program with nothing in between its steps. -/
def undisturbed (allow : G → Op → W → C → Prop) (inv : W → Prop) (guar : W → W → Prop) :
    Contract M where
  allow := allow
  inv := inv
  rely := Eq
  guar := guar
  rely_refl _ := rfl
  rely_trans := Eq.trans

variable (K : Contract M)

/-- From a world `w`, every step of the program keeps `inv` and is a `guar`
    step, whatever `rely` steps come between, and the program ends in `post`. -/
def Holds (post : Except ε α → G → W → Prop) : Prog Op Ret ε α → G → W → Prop
  | .done a, g, w => ∀ w', K.rely w w' → K.inv w' → post (.ok a) g w'
  | .fail e, g, w => ∀ w', K.rely w w' → K.inv w' → post (.error e) g w'
  | .call o k, g, w => ∀ w', K.rely w w' → K.inv w' → ∀ c, K.allow g o w' c →
      K.inv (M.exec c o w').2 ∧ K.guar w' (M.exec c o w').2 ∧
      Holds post (k (M.exec c o w').1) (M.see g o (M.exec c o w').1) (M.exec c o w').2

/-- The triple without a condition on the result. -/
def Safe (p : Prog Op Ret ε α) (g : G) (w : W) : Prop :=
  K.Holds (fun _ _ _ => True) p g w

variable {K} {post post' : Except ε α → G → W → Prop} {p : Prog Op Ret ε α} {g : G} {w w' : W}

/-- A triple survives the steps of the others. -/
theorem Holds.stable (h : K.Holds post p g w) (hr : K.rely w w') : K.Holds post p g w' := by
  cases p with
  | done a => exact fun v hv hi => h v (K.rely_trans hr hv) hi
  | fail e => exact fun v hv hi => h v (K.rely_trans hr hv) hi
  | call o k => exact fun v hv hi => h v (K.rely_trans hr hv) hi

/-- The postcondition may be weakened. -/
theorem Holds.mono (h : K.Holds post p g w)
    (himp : ∀ r g w, K.inv w → post r g w → post' r g w) : K.Holds post' p g w := by
  induction p generalizing g w with
  | done a => exact fun v hv hi => himp _ _ _ hi (h v hv hi)
  | fail e => exact fun v hv hi => himp _ _ _ hi (h v hv hi)
  | call o k ih =>
    intro v hv hi c hc
    obtain ⟨h₁, h₂, h₃⟩ := h v hv hi c hc
    exact ⟨h₁, h₂, ih _ h₃⟩

/-- Every triple is in particular safe. -/
theorem Holds.safe (h : K.Holds post p g w) : K.Safe p g w :=
  h.mono fun _ _ _ _ _ => trivial

/-- A triple that holds in every world with `inv` the others may leave behind holds here. -/
theorem Holds.of_rely (h : ∀ v, K.rely w v → K.inv v → K.Holds post p g v) :
    K.Holds post p g w := by
  cases p with
  | done a => exact fun v hv hi => h v hv hi v (K.rely_refl v) hi
  | fail e => exact fun v hv hi => h v hv hi v (K.rely_refl v) hi
  | call o k => exact fun v hv hi => h v hv hi v (K.rely_refl v) hi

theorem safe_done (a : α) : K.Safe (.done a) g w :=
  fun _ _ _ => trivial

theorem safe_fail (e : ε) : K.Safe (.fail e : Prog Op Ret ε α) g w :=
  fun _ _ _ => trivial

/-- Triples compose along `>>=`: what the first program ends in is where the second starts. -/
theorem Holds.bind {f : α → Prog Op Ret ε β} {post' : Except ε β → G → W → Prop}
    (h : K.Holds post p g w)
    (hok : ∀ a g w, K.inv w → post (.ok a) g w → K.Holds post' (f a) g w)
    (herr : ∀ e g w, K.inv w → post (.error e) g w → post' (.error e) g w) :
    K.Holds post' (p >>= f) g w := by
  induction p generalizing g w with
  | done a => exact .of_rely fun v hv hi => hok a g v hi (h v hv hi)
  | fail e => exact fun v hv hi => herr e g v hi (h v hv hi)
  | call o k ih =>
    intro v hv hi c hc
    obtain ⟨h₁, h₂, h₃⟩ := h v hv hi c hc
    exact ⟨h₁, h₂, ih _ h₃⟩

/-- Catching the error of a program changes nothing about its steps. -/
theorem Holds.attempt {post : Except ε (Except ε α) → G → W → Prop}
    (h : K.Holds (fun r g w => post (.ok r) g w) p g w) : K.Holds post p.attempt g w := by
  induction p generalizing g w with
  | done a => exact h
  | fail e => exact h
  | call o k ih =>
    intro v hv hi c hc
    obtain ⟨h₁, h₂, h₃⟩ := h v hv hi c hc
    exact ⟨h₁, h₂, ih _ h₃⟩

/-! ## Programs that run one at a time -/

/-- Choices that are allowed at every step. -/
def Permitted (K : Contract M) (c : C) : Prop :=
  ∀ g o w, K.allow g o w c

/-- A safe program that stops anywhere leaves a world with `inv`. -/
theorem Safe.runFor (h : K.Safe p g w) (hi : K.inv w) (hcs : ∀ c ∈ cs, K.Permitted c) :
    K.inv (p.runFor M cs w) := by
  induction p generalizing g w cs with
  | done a => cases cs <;> exact hi
  | fail e => cases cs <;> exact hi
  | call o k ih =>
    cases cs with
    | nil => exact hi
    | cons c cs =>
      obtain ⟨hc, hcs⟩ := List.forall_mem_cons.mp hcs
      obtain ⟨h₁, -, h₃⟩ := h w (K.rely_refl w) hi c (hc _ _ _)
      exact ih _ h₃ h₁ hcs

/-- The same when each choice is allowed in the world it is made in. -/
theorem Safe.runFor_along (h : K.Safe p g w) (hi : K.inv w)
    (hcs : p.Along M (fun o w c _ => ∀ g, K.allow g o w c) cs w) : K.inv (p.runFor M cs w) := by
  induction p generalizing g w cs with
  | done a => cases cs <;> exact hi
  | fail e => cases cs <;> exact hi
  | call o k ih =>
    cases cs with
    | nil => exact hi
    | cons c cs =>
      obtain ⟨h₁, -, h₃⟩ := h w (K.rely_refl w) hi c (hcs.1 g)
      exact ih _ h₃ h₁ hcs.2

/-- From any step of a safe program to any later one the world moves by `guar` steps. -/
theorem Safe.runFor_guar (hrefl : ∀ w, K.guar w w)
    (htrans : ∀ {u v w}, K.guar u v → K.guar v w → K.guar u w) (h : K.Safe p g w) (hi : K.inv w)
    (cs : List C) (hcs : ∀ c ∈ cs ++ cs', K.Permitted c) :
    K.guar (p.runFor M cs w) (p.runFor M (cs ++ cs') w) := by
  induction p generalizing g w cs cs' with
  | done a => simpa using hrefl w
  | fail e => simpa using hrefl w
  | call o k ih =>
    cases cs with
    | nil =>
      cases cs' with
      | nil => exact hrefl w
      | cons c cs' =>
        obtain ⟨hc, hcs'⟩ := List.forall_mem_cons.mp hcs
        obtain ⟨h₁, h₂, h₃⟩ := h w (K.rely_refl w) hi c (hc _ _ _)
        have hrest := ih _ h₃ h₁ [] hcs'
        rw [Prog.runFor_nil] at hrest ⊢
        exact htrans h₂ hrest
    | cons c cs =>
      obtain ⟨hc, hcs⟩ := List.forall_mem_cons.mp hcs
      obtain ⟨h₁, -, h₃⟩ := h w (K.rely_refl w) hi c (hc _ _ _)
      exact ih _ h₃ h₁ cs hcs

/-- A program that runs to its end keeps `inv` and ends in its postcondition. -/
theorem Holds.eval (h : K.Holds post p g w) (hi : K.inv w) {cs : Nat → C}
    (hcs : ∀ n, K.Permitted (cs n)) :
    K.inv (p.eval M cs w).2 ∧ ∃ g', post (p.eval M cs w).1 g' (p.eval M cs w).2 := by
  induction p generalizing g w cs with
  | done a => exact ⟨hi, g, h w (K.rely_refl w) hi⟩
  | fail e => exact ⟨hi, g, h w (K.rely_refl w) hi⟩
  | call o k ih =>
    obtain ⟨h₁, -, h₃⟩ := h w (K.rely_refl w) hi (cs 0) (hcs 0 _ _ _)
    exact ih _ h₃ h₁ fun n => hcs (n + 1)

/-! ## Programs that run alone -/

/-- A program with nothing in between its steps and choices from `allow`, about which only its
    end is of interest. -/
def alone (allow : C → Prop) : Contract M :=
  .undisturbed (fun _ _ _ c => allow c) (fun _ => True) fun _ _ => True

variable {allow : C → Prop}

/-- A call that is answered under every allowed choice. -/
theorem Holds.alone_call {o : Op} {f : Ret o → Prog Op Ret ε α}
    (h : ∀ c, allow c → ∃ a w', M.exec c o w = (.ok a, w') ∧
      (alone allow : Contract M).Holds post (f a) (M.see g o (.ok a)) w') :
    (alone allow : Contract M).Holds post (Prog.perform o >>= f) g w := by
  rw [Prog.perform_bind]
  rintro _ rfl - c hc
  obtain ⟨a, w', hexec, hrest⟩ := h c hc
  rw [hexec]
  exact ⟨trivial, trivial, hrest⟩

theorem Holds.alone_done {a : α} (h : post (.ok a) g w) :
    (alone allow : Contract M).Holds post (.done a) g w := by
  rintro _ rfl -
  exact h

theorem Holds.alone_eval (h : (alone allow : Contract M).Holds post p g w) {cs : Nat → C}
    (hcs : ∀ n, allow (cs n)) :
    ∃ g', post (p.eval M cs w).1 g' (p.eval M cs w).2 :=
  (h.eval trivial fun n _ _ _ => hcs n).2

/-! ## Programs none of whose calls fails -/

/-- A program with nothing in between its steps, as long as its calls are answered. -/
def answering : Contract M :=
  .undisturbed (fun _ o w c => (M.exec c o w).1.isOk = true) (fun _ => True) fun _ _ => True

theorem Holds.answering_call {o : Op} {f : Ret o → Prog Op Ret ε α}
    (h : ∀ c a w', M.exec c o w = (.ok a, w') →
      (answering : Contract M).Holds post (f a) (M.see g o (.ok a)) w') :
    (answering : Contract M).Holds post (Prog.perform o >>= f) g w := by
  rw [Prog.perform_bind]
  rintro _ rfl - c hc
  obtain ⟨a, ha⟩ := Except.isOk_iff.mp hc
  rw [ha]
  exact ⟨trivial, trivial, h c a _ (Prod.ext ha rfl)⟩

theorem Holds.answering_done {a : α} (h : post (.ok a) g w) :
    (answering : Contract M).Holds post (.done a) g w := by
  rintro _ rfl -
  exact h

theorem Holds.answering_eval (h : (answering : Contract M).Holds post p g w) {cs : Nat → C}
    (hcs : p.NoneFails M cs w) : ∃ g', post (p.eval M cs w).1 g' (p.eval M cs w).2 := by
  induction p generalizing g w cs with
  | done a => exact ⟨g, h w rfl trivial⟩
  | fail e => exact ⟨g, h w rfl trivial⟩
  | call o k ih => exact ih _ (h w rfl trivial (cs 0) hcs.1).2.2 hcs.2

end Contract

/-- Each request of a sequence meets `cond` in the world it is handled in. -/
def SerialObeys (M : Machine Op Ret ε W G C) (handle : Q → Prog Op Ret ε Unit)
    (cond : Q → W → Prop) : List (Q × List C) → W → Prop
  | [], _ => True
  | (q, cs) :: rest, w => cond q w ∧ SerialObeys M handle cond rest ((handle q).runFor M cs w)

instance SerialObeys.decidable (M : Machine Op Ret ε W G C) (handle : Q → Prog Op Ret ε Unit)
    (cond : Q → W → Prop) [∀ q w, Decidable (cond q w)] :
    (reqs : List (Q × List C)) → (w : W) → Decidable (SerialObeys M handle cond reqs w)
  | [], _ => .isTrue trivial
  | (q, cs) :: rest, w =>
    have := SerialObeys.decidable M handle cond rest ((handle q).runFor M cs w)
    inferInstanceAs (Decidable (cond q w ∧ _))

/-- Each request of a sequence, with its choices, meets `cond` in the world it is handled in. -/
def SerialMeets (M : Machine Op Ret ε W G C) (handle : Q → Prog Op Ret ε Unit)
    (cond : Q → List C → W → Prop) : List (Q × List C) → W → Prop
  | [], _ => True
  | (q, cs) :: rest, w =>
    cond q cs w ∧ SerialMeets M handle cond rest ((handle q).runFor M cs w)

instance SerialMeets.decidable (M : Machine Op Ret ε W G C) (handle : Q → Prog Op Ret ε Unit)
    (cond : Q → List C → W → Prop) [∀ q cs w, Decidable (cond q cs w)] :
    (reqs : List (Q × List C)) → (w : W) → Decidable (SerialMeets M handle cond reqs w)
  | [], _ => .isTrue trivial
  | (q, cs) :: rest, w =>
    have := SerialMeets.decidable M handle cond rest ((handle q).runFor M cs w)
    inferInstanceAs (Decidable (cond q cs w ∧ _))

/-- What every handler keeps whose request meets `cond`, the sequence keeps. -/
theorem SerialMeets.inv {M : Machine Op Ret ε W G C} {handle : Q → Prog Op Ret ε Unit}
    {cond : Q → List C → W → Prop} {I : W → Prop}
    (hstep : ∀ q cs w, cond q cs w → I w → I ((handle q).runFor M cs w))
    {reqs : List (Q × List C)} {w : W} (h : SerialMeets M handle cond reqs w) (hi : I w) :
    I (serial M handle reqs w) := by
  induction reqs generalizing w with
  | nil => exact hi
  | cons r rest ih => exact ih h.2 (hstep r.1 r.2 w h.1 hi)

variable {q : Q}

section Serial

variable {M : Machine Op Ret ε W G C} {K : Contract M} {handle : Q → Prog Op Ret ε Unit}
  {cond : Q → W → Prop} {fresh : G} {w : W} {reqs : List (Q × List C)}

/-- A condition on the requests alone. -/
theorem SerialObeys.of_forall {cond : Q → Prop} (h : ∀ r ∈ reqs, cond r.1) :
    SerialObeys M handle (fun q _ => cond q) reqs w := by
  induction reqs generalizing w with
  | nil => trivial
  | cons r rest ih =>
    obtain ⟨hr, hrest⟩ := List.forall_mem_cons.mp h
    exact ⟨hr, ih hrest⟩

/-- A sequence of requests that stops earlier, which may be in the middle of one. -/
theorem SerialObeys.stop {rest : List (Q × List C)}
    (h : SerialObeys M handle cond (reqs ++ (q, cs') :: rest) w) :
    SerialObeys M handle cond (reqs ++ [(q, cs)]) w := by
  induction reqs generalizing w with
  | nil => exact ⟨h.1, trivial⟩
  | cons r reqs ih => exact ⟨h.1, ih h.2⟩

/-- Requests whose handlers are safe keep `inv`, wherever each of them stops. -/
theorem serial_inv (hsafe : ∀ q w, cond q w → K.inv w → K.Safe (handle q) fresh w)
    (hi : K.inv w) (hreq : SerialObeys M handle cond reqs w)
    (hcs : ∀ r ∈ reqs, ∀ c ∈ r.2, K.Permitted c) : K.inv (serial M handle reqs w) := by
  induction reqs generalizing w with
  | nil => exact hi
  | cons r rest ih =>
    obtain ⟨hc, hreq⟩ := hreq
    obtain ⟨hr, hcs⟩ := List.forall_mem_cons.mp hcs
    exact ih ((hsafe r.1 w hc hi).runFor hi hr) hreq hcs

/-- The same when each choice is allowed in the world it is made in. -/
theorem serial_inv_along {allowed : Op → W → C → List C → Prop}
    (hallowed : ∀ o w c cs, allowed o w c cs → ∀ g, K.allow g o w c)
    (hsafe : ∀ q w, K.inv w → K.Safe (handle q) fresh w) (hi : K.inv w)
    (hcs : SerialAlong M handle allowed reqs w) : K.inv (serial M handle reqs w) := by
  induction reqs generalizing w with
  | nil => exact hi
  | cons r rest ih =>
    have hfirst := (hsafe r.1 w hi).runFor_along hi (hcs.1.imp hallowed)
    exact ih hfirst hcs.2

/-- Requests whose handlers are safe change the world by `guar` steps only. -/
theorem serial_guar (hrefl : ∀ w, K.guar w w)
    (htrans : ∀ {u v w}, K.guar u v → K.guar v w → K.guar u w)
    (hsafe : ∀ q w, cond q w → K.inv w → K.Safe (handle q) fresh w)
    (hi : K.inv w) (hreq : SerialObeys M handle cond reqs w)
    (hcs : ∀ r ∈ reqs, ∀ c ∈ r.2, K.Permitted c) : K.guar w (serial M handle reqs w) := by
  induction reqs generalizing w with
  | nil => exact hrefl w
  | cons r rest ih =>
    obtain ⟨hc, hreq⟩ := hreq
    obtain ⟨hr, hcs⟩ := List.forall_mem_cons.mp hcs
    have hsafe₁ := hsafe r.1 w hc hi
    have hguar := hsafe₁.runFor_guar hrefl htrans hi [] hr
    rw [Prog.runFor_nil] at hguar
    exact htrans hguar (ih (hsafe₁.runFor hi hr) hreq hcs)

/-- From any point of a sequence of requests, which may be in the middle of one, to its end the
    world moves by `guar` steps. -/
theorem serial_guar_from (hrefl : ∀ w, K.guar w w)
    (htrans : ∀ {u v w}, K.guar u v → K.guar v w → K.guar u w)
    (hsafe : ∀ q w, cond q w → K.inv w → K.Safe (handle q) fresh w) (hi : K.inv w)
    {rest : List (Q × List C)} (hreq : SerialObeys M handle cond (reqs ++ (q, cs ++ cs') :: rest) w)
    (hcs : ∀ r ∈ reqs ++ (q, cs ++ cs') :: rest, ∀ c ∈ r.2, K.Permitted c) :
    K.guar (serial M handle (reqs ++ [(q, cs)]) w)
      (serial M handle (reqs ++ (q, cs ++ cs') :: rest) w) := by
  induction reqs generalizing w with
  | nil =>
    obtain ⟨hc, hreq⟩ := hreq
    obtain ⟨hr, hcs⟩ := List.forall_mem_cons.mp hcs
    have hsafe₁ := hsafe q w hc hi
    exact htrans (hsafe₁.runFor_guar hrefl htrans hi cs hr)
      (serial_guar hrefl htrans hsafe (hsafe₁.runFor hi hr) hreq hcs)
  | cons r reqs ih =>
    obtain ⟨hc, hreq⟩ := hreq
    obtain ⟨hr, hcs⟩ := List.forall_mem_cons.mp hcs
    exact ih ((hsafe r.1 w hc hi).runFor hi hr) hreq hcs

end Serial

/-! ## Programs that interleave -/

/-- The next operation of a thread, if it has one, is allowed. -/
def Contract.AllowsNext {M : Machine Op Ret ε W G C} (K : Contract M) (w : W) (c : C) :
    Option (G × Prog Op Ret ε Unit) → Prop
  | some (g, .call o _) => K.allow g o w c
  | _ => True

instance {M : Machine Op Ret ε W G C} (K : Contract M)
    [∀ g o w c, Decidable (K.allow g o w c)] (w : W) (c : C) :
    (t : Option (G × Prog Op Ret ε Unit)) → Decidable (K.AllowsNext w c t)
  | some (g, .call o _) => inferInstanceAs (Decidable (K.allow g o w c))
  | some (_, .done _) | some (_, .fail _) | none => .isTrue trivial

/-- An act a run may take: a request that may be made, or a step that is allowed. -/
def Pool.Permits {M : Machine Op Ret ε W G C} (K : Contract M) (req : Q → Prop)
    (P : Pool Op Ret ε W G) : Act Q C → Prop
  | .start q => req q
  | .crash _ => True
  | .step i c => K.AllowsNext P.world c P.threads[i]?

instance {M : Machine Op Ret ε W G C} (K : Contract M)
    [∀ g o w c, Decidable (K.allow g o w c)] (req : Q → Prop) [DecidablePred req]
    (P : Pool Op Ret ε W G) : (a : Act Q C) → Decidable (P.Permits K req a)
  | .start q => inferInstanceAs (Decidable (req q))
  | .crash _ => .isTrue trivial
  | .step i c => inferInstanceAs (Decidable (K.AllowsNext P.world c P.threads[i]?))

/-- Every act of a run is permitted in the pool it is taken in. -/
def Pool.Obeys {M : Machine Op Ret ε W G C} (K : Contract M) (handle : Q → Prog Op Ret ε Unit)
    (fresh : G) (req : Q → Prop) : Pool Op Ret ε W G → List (Act Q C) → Prop
  | _, [] => True
  | P, a :: acts => P.Permits K req a ∧ (P.act M handle fresh a).Obeys K handle fresh req acts

instance Pool.decidableObeys {M : Machine Op Ret ε W G C} (K : Contract M)
    [∀ g o w c, Decidable (K.allow g o w c)] (handle : Q → Prog Op Ret ε Unit) (fresh : G)
    (req : Q → Prop) [DecidablePred req] :
    (acts : List (Act Q C)) → (P : Pool Op Ret ε W G) → Decidable (P.Obeys K handle fresh req acts)
  | [], _ => .isTrue trivial
  | a :: acts, P =>
    have := Pool.decidableObeys K handle fresh req acts (P.act M handle fresh a)
    inferInstanceAs (Decidable (P.Permits K req a ∧ _))

variable {acts : List (Act Q C)}

section Interleave

variable {M : Machine Op Ret ε W G C} {K : Contract M} {handle : Q → Prog Op Ret ε Unit}
  {req : Q → Prop} {fresh : G} {P : Pool Op Ret ε W G}

/-- The shared world has `inv`, and every thread is safe in it. -/
structure Pool.Sound (K : Contract M) (P : Pool Op Ret ε W G) : Prop where
  inv : K.inv P.world
  safe : ∀ t ∈ P.threads, K.Safe t.2 t.1 P.world

/-- One act keeps the pool sound and moves the world by at most one `guar` step. -/
theorem Pool.Sound.act (hgr : ∀ {v w}, K.inv v → K.guar v w → K.rely v w)
    (hsafe : ∀ q w, req q → K.inv w → K.Safe (handle q) fresh w)
    (h : P.Sound K) {a : Act Q C} (ha : P.Permits K req a) :
    (P.act M handle fresh a).Sound K ∧
      ((P.act M handle fresh a).world = P.world ∨
        K.guar P.world (P.act M handle fresh a).world) := by
  cases a with
  | start q =>
    refine ⟨⟨h.inv, fun t ht => ?_⟩, .inl rfl⟩
    rcases List.mem_append.mp ht with ht | ht
    · exact h.safe t ht
    · rw [List.mem_singleton.mp ht]
      exact hsafe q P.world ha h.inv
  | crash i => exact ⟨⟨h.inv, fun t ht => h.safe t (List.mem_of_mem_eraseIdx ht)⟩, .inl rfl⟩
  | step i c =>
    simp only [Pool.act]
    split
    · rename_i g o k hi
      have hallow : K.AllowsNext P.world c P.threads[i]? := ha
      rw [hi] at hallow
      have hstep := h.safe _ (List.mem_of_getElem? hi) P.world (K.rely_refl _) h.inv c hallow
      obtain ⟨h₁, h₂, h₃⟩ := hstep
      refine ⟨⟨h₁, fun t ht => ?_⟩, .inr h₂⟩
      -- the stepping thread goes on as its triple says, the others rely on the step
      rcases List.mem_or_eq_of_mem_set ht with ht | rfl
      · exact (h.safe t ht).stable (hgr h.inv h₂)
      · exact h₃
    · exact ⟨h, .inl rfl⟩

/-- Every pool a run reaches is sound. -/
theorem Pool.Sound.run (hgr : ∀ {v w}, K.inv v → K.guar v w → K.rely v w)
    (hsafe : ∀ q w, req q → K.inv w → K.Safe (handle q) fresh w) (h : P.Sound K)
    (hacts : P.Obeys K handle fresh req acts) :
    (P.run M handle fresh acts).Sound K := by
  induction acts generalizing P with
  | nil => exact h
  | cons a acts ih => exact ih (h.act hgr hsafe hacts.1).1 hacts.2

/-- Every world an interleaved run reaches has `inv`. -/
theorem Pool.run_inv (hgr : ∀ {v w}, K.inv v → K.guar v w → K.rely v w)
    (hsafe : ∀ q w, req q → K.inv w → K.Safe (handle q) fresh w) {w : W} (hi : K.inv w)
    (hacts : (Pool.idle w).Obeys K handle fresh req acts) :
    K.inv ((Pool.idle w).run M handle fresh acts).world :=
  (Pool.Sound.run hgr hsafe ⟨hi, fun _ ht => by cases ht⟩ hacts).inv

/-- From any point of an interleaved run to any later one the world moves by `guar` steps. -/
theorem Pool.run_guar (hrefl : ∀ w, K.guar w w)
    (htrans : ∀ {u v w}, K.guar u v → K.guar v w → K.guar u w)
    (hgr : ∀ {v w}, K.inv v → K.guar v w → K.rely v w)
    (hsafe : ∀ q w, req q → K.inv w → K.Safe (handle q) fresh w) (h : P.Sound K)
    (hacts : P.Obeys K handle fresh req acts) :
    K.guar P.world (P.run M handle fresh acts).world := by
  induction acts generalizing P with
  | nil => exact hrefl _
  | cons a acts ih =>
    obtain ⟨hs, hw⟩ := h.act hgr hsafe hacts.1
    have hrest := ih hs hacts.2
    rcases hw with hw | hw
    · rwa [hw] at hrest
    · exact htrans hw hrest

/-- Without a restriction on steps, a run obeys the contract if its requests may be made. -/
theorem Pool.Obeys.of_starts (hallow : ∀ g o w c, K.allow g o w c)
    (hreq : ∀ q, .start q ∈ acts → req q) : P.Obeys K handle fresh req acts := by
  induction acts generalizing P with
  | nil => trivial
  | cons a acts ih =>
    refine ⟨?_, ih fun q hq => hreq q (List.mem_cons_of_mem a hq)⟩
    cases a with
    | start q => exact hreq q List.mem_cons_self
    | crash i => trivial
    | step i c =>
      show K.AllowsNext P.world c P.threads[i]?
      match P.threads[i]? with
      | some (g, .call o _) => exact hallow g o P.world c
      | some (_, .done _) | some (_, .fail _) | none => trivial

/-- A run that obeys the contract does so up to any point and from there on. -/
theorem Pool.Obeys.split {as bs : List (Act Q C)} (h : P.Obeys K handle fresh req (as ++ bs)) :
    P.Obeys K handle fresh req as ∧ (P.run M handle fresh as).Obeys K handle fresh req bs := by
  induction as generalizing P with
  | nil => exact ⟨trivial, h⟩
  | cons a as ih => exact ⟨⟨h.1, (ih h.2).1⟩, (ih h.2).2⟩

end Interleave

/-! ## What a program that has returned has established -/

/-- The requests of the threads of a pool, in the order of the threads. -/
def Act.track (qs : List Q) : Act Q C → List Q
  | .start q => qs ++ [q]
  | .crash i => qs.eraseIdx i
  | .step _ _ => qs

/-- The requests of the threads after a run from the idle pool. -/
def requestsOf (acts : List (Act Q C)) : List Q :=
  acts.foldl Act.track []

/-- A thread that handles `q` has returned. -/
def Pool.Returned (P : Pool Op Ret ε W G) (qs : List Q) (q : Q) : Prop :=
  ∃ (i : Nat) (g : G), qs[i]? = some q ∧ P.threads[i]? = some (g, .done ())

section Returned

variable {M : Machine Op Ret ε W G C} {K : Contract M} {handle : Q → Prog Op Ret ε Unit}
  {req : Q → Prop} {fresh : G} {P : Pool Op Ret ε W G} {qs : List Q}
  {post : Q → Except ε Unit → G → W → Prop}

/-- Every thread goes on to the postcondition of the request it handles. -/
structure Pool.Meets (K : Contract M) (post : Q → Except ε Unit → G → W → Prop)
    (P : Pool Op Ret ε W G) (qs : List Q) : Prop where
  inv : K.inv P.world
  length : qs.length = P.threads.length
  holds : ∀ (i : Nat) q t, qs[i]? = some q → P.threads[i]? = some t →
    K.Holds (post q) t.2 t.1 P.world

/-- One act keeps the threads on their way to their postconditions. -/
theorem Pool.Meets.act (hgr : ∀ {v w}, K.inv v → K.guar v w → K.rely v w)
    (hholds : ∀ q w, req q → K.inv w → K.Holds (post q) (handle q) fresh w)
    (h : P.Meets K post qs) {a : Act Q C} (ha : P.Permits K req a) :
    (P.act M handle fresh a).Meets K post (a.track qs) := by
  cases a with
  | start q =>
    refine ⟨h.inv, by simp [Act.track, Pool.act, h.length], fun i q' t hq ht => ?_⟩
    by_cases hi : i < qs.length
    · rw [Act.track, List.getElem?_append_left hi] at hq
      have hi' : i < P.threads.length := h.length ▸ hi
      simp only [Pool.act, List.getElem?_append_left hi'] at ht
      exact h.holds i q' t hq ht
    · -- the new thread is the last one of both lists
      have hlen : P.threads.length ≤ i := by rw [← h.length]; omega
      rw [Act.track, List.getElem?_append_right (by omega)] at hq
      simp only [Pool.act, List.getElem?_append_right hlen] at ht
      obtain rfl := List.mem_singleton.mp (List.mem_of_getElem? hq)
      obtain rfl := List.mem_singleton.mp (List.mem_of_getElem? ht)
      exact hholds q' P.world ha h.inv
  | crash i =>
    refine ⟨h.inv, by simp [Act.track, Pool.act, List.length_eraseIdx, h.length], ?_⟩
    intro j q t hq ht
    simp only [Act.track, Pool.act, List.getElem?_eraseIdx] at hq ht
    split at hq
    · rename_i hj
      rw [if_pos hj] at ht
      exact h.holds j q t hq ht
    · rename_i hj
      rw [if_neg hj] at ht
      exact h.holds (j + 1) q t hq ht
  | step i c =>
    simp only [Pool.act, Act.track]
    split
    · rename_i g o k hi
      have hallow : K.AllowsNext P.world c P.threads[i]? := ha
      rw [hi] at hallow
      obtain ⟨hlt, -⟩ := List.getElem?_eq_some_iff.mp hi
      obtain ⟨q₀, hq⟩ : ∃ q, qs[i]? = some q :=
        ⟨_, List.getElem?_eq_getElem (h.length ▸ hlt)⟩
      obtain ⟨h₁, h₂, h₃⟩ :=
        h.holds i _ _ hq hi P.world (K.rely_refl _) h.inv c hallow
      refine ⟨h₁, by simp [h.length], fun j q t hq' ht => ?_⟩
      by_cases hj : j = i
      · subst hj
        rw [List.getElem?_set_self hlt] at ht
        cases ht
        cases hq.symm.trans hq'
        exact h₃
      · rw [List.getElem?_set_ne (Ne.symm hj)] at ht
        exact (h.holds j q t hq' ht).stable (hgr h.inv h₂)
    · exact h

/-- A request whose thread has returned has established its postcondition, and no later step
    of the others has broken it. -/
theorem Pool.run_returned (hgr : ∀ {v w}, K.inv v → K.guar v w → K.rely v w)
    (hholds : ∀ q w, req q → K.inv w → K.Holds (post q) (handle q) fresh w) {w : W} (hi : K.inv w)
    (hacts : (Pool.idle w).Obeys K handle fresh req acts)
    (hq : ((Pool.idle w).run M handle fresh acts).Returned (requestsOf acts) q) :
    K.inv ((Pool.idle w).run M handle fresh acts).world ∧
      ∃ g, post q (.ok ()) g ((Pool.idle w).run M handle fresh acts).world := by
  have hmeets : ∀ (acts : List (Act Q C)) (P : Pool Op Ret ε W G) (qs : List Q),
      P.Meets K post qs → P.Obeys K handle fresh req acts →
      (P.run M handle fresh acts).Meets K post (acts.foldl Act.track qs) := by
    intro acts
    induction acts with
    | nil => exact fun P qs h _ => h
    | cons a acts ih => exact fun P qs h hacts => ih _ _ (h.act hgr hholds hacts.1) hacts.2
  have hrun := hmeets acts (.idle w) [] ⟨hi, rfl, fun i q t hq _ => by simp at hq⟩ hacts
  obtain ⟨i, g, hqs, ht⟩ := hq
  exact ⟨hrun.inv, g, hrun.holds i q _ hqs ht _ (K.rely_refl _) hrun.inv⟩

end Returned

end Effect
