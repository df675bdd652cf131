import Mathlib.Init

/-!
# Fallible functions written as a sequence of checks

`refuseIf` and `ofOption` are the two ways a sequence of checks stops, and the
lemmas below read a successful run back: which checks passed, what was found and
what the last call returned.
-/

namespace Except

variable {ε ε' α β : Type}

/-- Stop with `e` if `c` holds. -/
def refuseIf (c : Prop) [Decidable c] (e : ε) : Except ε Unit :=
  if c then .error e else .ok ()

/-- Stop with `e` if there is no value. -/
def ofOption (e : ε) : Option α → Except ε α
  | none => .error e
  | some a => .ok a

variable {x : Except ε α} {f : α → Except ε β}

theorem bind_eq_ok {b : β} :
    (x >>= f) = .ok b ↔ ∃ a, x = .ok a ∧ f a = .ok b := by
  cases x with
  | error e => simp [bind, Except.bind]
  | ok a => simp [bind, Except.bind]

variable {e : ε}

theorem bind_eq_error :
    (x >>= f) = .error e ↔ x = .error e ∨ ∃ a, x = .ok a ∧ f a = .error e := by
  cases x with
  | error e => simp [bind, Except.bind]
  | ok a => simp [bind, Except.bind]

variable {a : α}

@[simp] theorem ok_bind : ((.ok a : Except ε α) >>= f) = f a := rfl

@[simp] theorem error_bind :
    ((.error e : Except ε α) >>= f) = .error e := rfl

variable {c : Prop}

theorem refuseIf_eq_ok [Decidable c] {u : Unit} :
    refuseIf c e = .ok u ↔ ¬ c := by
  by_cases hc : c <;> simp [refuseIf, hc]

@[simp] theorem refuseIf_pos [Decidable c] (h : c) :
    refuseIf c e = .error e := if_pos h

@[simp] theorem refuseIf_neg [Decidable c] (h : ¬ c) :
    refuseIf c e = .ok () := if_neg h

theorem ofOption_eq_ok {o : Option α} : ofOption e o = .ok a ↔ o = some a := by
  cases o <;> simp [ofOption]

theorem mapError_eq_ok {f : ε → ε'} :
    x.mapError f = .ok a ↔ x = .ok a := by
  cases x with
  | error e =>
    show (Except.error (f e) : Except ε' α) = .ok a ↔ _
    simp
  | ok b =>
    show (Except.ok b : Except ε' α) = .ok a ↔ _
    simp

theorem map_eq_ok {f : α → β} {b : β} :
    x.map f = .ok b ↔ ∃ a, x = .ok a ∧ f a = b := by
  cases x <;> simp [Except.map]

theorem toOption_eq_some : x.toOption = some a ↔ x = .ok a := by
  cases x <;> simp [Except.toOption]

theorem isOk_iff : x.isOk = true ↔ ∃ a, x = .ok a := by
  cases x with
  | error e => simp [Except.isOk, Except.toBool]
  | ok a => simp [Except.isOk, Except.toBool]

end Except
