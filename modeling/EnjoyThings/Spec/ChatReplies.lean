import EnjoyThings.Services.ChatStream

/-!
# The replies of the chat service

`stream_reply` hands every delta on as it comes, and calls the port again after a
timeout. What an attempt yielded before its timeout is not taken back, so a reply is the
concatenation of all attempts that were made (`streamFrom_spec`).

## Key results

- `reply_one_attempt_iff`: a reply is the text of one attempt, if and only if no attempt
  that is made again has yielded anything
-/

namespace EnjoyThings

/-- The iterator ends with a timeout. -/
def DeltaStream.TimesOut (s : DeltaStream) : Prop :=
  ∃ message, s.raised = some (.timeout message)

namespace ChatService

variable {attempt : Nat → DeltaStream}

/-- The reply of a loop that starts with attempt `first` and makes `more` attempts after it. -/
structure Reply.Made (r : Reply) (attempt : Nat → DeltaStream) (first more : Nat) : Prop where
  attempts : r.attempts = more + 1
  retried : ∀ n, first ≤ n → n < first + more → (attempt n).TimesOut
  deltas : r.deltas = (List.range' first (more + 1)).flatMap fun n => (attempt n).deltas
  raised : r.raised = none ↔ (attempt (first + more)).raised = none

theorem Reply.Made.cons {r : Reply} {n more : Nat} (h : r.Made attempt (n + 1) more)
    (htimeout : (attempt n).TimesOut) :
    Reply.Made { deltas := (attempt n).deltas ++ r.deltas, raised := r.raised
                 attempts := r.attempts + 1 } attempt n (more + 1) where
  attempts := congrArg (· + 1) h.attempts
  retried m hn hm := by
    by_cases heq : m = n
    · rw [heq]
      exact htimeout
    · exact h.retried m (by omega) (by omega)
  deltas := by rw [h.deltas, List.range'_succ (n := more + 1), List.flatMap_cons]
  raised := by rw [h.raised, show n + 1 + more = n + (more + 1) by omega]

/-- The attempts of the loop: each but the last one has timed out, and the last one has not,
    unless there is none left. -/
theorem streamFrom_spec (attempt : Nat → DeltaStream) (left n : Nat)
    (hn : n + left = maxTimeoutAttempts) :
    ∃ more ≤ left, (streamFrom attempt n (left + 1)).Made attempt n more ∧
      (more < left → ¬ (attempt (n + more)).TimesOut) := by
  -- an attempt that ends the loop
  have hlast : ∀ (r : Reply) (n left : Nat), r.attempts = 1 → r.deltas = (attempt n).deltas →
      (r.raised = none ↔ (attempt n).raised = none) →
      (0 < left → ¬ (attempt n).TimesOut) →
      ∃ more ≤ left, r.Made attempt n more ∧ (more < left → ¬ (attempt (n + more)).TimesOut) := by
    intro r n left hattempts hdeltas hraised htimeout
    refine ⟨0, Nat.zero_le _, ⟨hattempts, fun m _ _ => by omega, ?_, hraised⟩, htimeout⟩
    rw [hdeltas]
    simp
  induction left generalizing n with
  | zero =>
    unfold streamFrom
    split
    · rename_i message htimeout
      rw [if_pos (show n = maxTimeoutAttempts from hn)]
      exact hlast _ n 0 rfl rfl (by simp [htimeout]) (fun h => absurd h (Nat.lt_irrefl 0))
    · exact hlast _ n 0 rfl rfl Iff.rfl (fun h => absurd h (Nat.lt_irrefl 0))
  | succ left ih =>
    unfold streamFrom
    split
    · rename_i message htimeout
      obtain ⟨more, hle, hmade, hstops⟩ := ih (n + 1) (by omega)
      rw [if_neg (by omega)]
      refine ⟨more + 1, by omega, hmade.cons ⟨message, htimeout⟩, fun hlt => ?_⟩
      have hstop := hstops (by omega)
      rwa [show n + 1 + more = n + (more + 1) by omega] at hstop
    · rename_i hother
      refine hlast _ n _ rfl rfl Iff.rfl fun _ htimeout => ?_
      obtain ⟨message, hmessage⟩ := htimeout
      exact hother message hmessage

/-- The reply is the text of the last attempt made, which has finished if the reply has. There
    are at most three attempts, and each but the last one has timed out. -/
structure Reply.OneAttempt (r : Reply) (attempt : Nat → DeltaStream) : Prop where
  deltas : r.deltas = (attempt r.attempts).deltas
  finished : r.raised = none ↔ (attempt r.attempts).raised = none
  made : 1 ≤ r.attempts ∧ r.attempts ≤ 3
  retried : ∀ n, 1 ≤ n → n < r.attempts → (attempt n).TimesOut

/-- A reply is the text of one attempt, if and only if no attempt has yielded anything before a
    timeout after which there is another one. -/
theorem reply_one_attempt_iff (port : LLMPort) (message : Py.Str) :
    (streamReply port message).OneAttempt (port (request message)) ↔
      ∀ n, 1 ≤ n → n < maxTimeoutAttempts →
        (∀ m, 1 ≤ m → m ≤ n → (port (request message) m).TimesOut) →
        (port (request message) n).deltas = [] := by
  obtain ⟨more, hle, hmade, hstops⟩ := streamFrom_spec (port (request message)) 2 1 rfl
  replace hmade : (streamReply port message).Made (port (request message)) 1 more := hmade
  have hattempts : (streamReply port message).attempts = 1 + more := by
    rw [Nat.add_comm]
    exact hmade.attempts
  have hdeltas : (streamReply port message).deltas =
      ((List.range' 1 more).flatMap fun n => (port (request message) n).deltas) ++
        (port (request message) (1 + more)).deltas := by
    have hconcat := hmade.deltas
    rw [List.range'_concat, List.flatMap_append] at hconcat
    simpa using hconcat
  -- the attempts after which there is another one are those before the last
  have hearly : ∀ n, 1 ≤ n → n < maxTimeoutAttempts →
      (∀ m, 1 ≤ m → m ≤ n → (port (request message) m).TimesOut) → n < 1 + more := by
    intro n hn hlt htimeouts
    by_contra hge
    have hlimit : n < 3 := hlt
    exact hstops (by omega) (htimeouts (1 + more) (by omega) (by omega))
  constructor
  · intro h n hn hlt htimeouts
    have hone := h.deltas
    rw [hattempts, hdeltas, List.append_left_eq_self, List.flatMap_eq_nil_iff] at hone
    exact hone n (List.mem_range'_1.mpr ⟨hn, hearly n hn hlt htimeouts⟩)
  · intro h
    refine ⟨?_, ?_, by omega, fun n hn hlt => hmade.retried n hn (by omega)⟩
    · rw [hattempts, hdeltas, List.append_left_eq_self, List.flatMap_eq_nil_iff]
      intro n hn
      obtain ⟨hn, hlt⟩ := List.mem_range'_1.mp hn
      exact h n hn (show n < 3 by omega) fun m hm hmn => hmade.retried m hm (by omega)
    · rw [hattempts]
      exact hmade.raised

/-- A model that times out in the middle of its reply, and answers in full when it is asked
    again. -/
def stutteringPort : LLMPort := fun _ n =>
  if n = 1 then { deltas := [⟨Py.ofString "Hel"⟩], raised := some (.timeout "request timed out") }
  else { deltas := [⟨Py.ofString "Hello"⟩], raised := none }

/-- The reply is then `HelHello`, and nothing is raised. -/
theorem stuttering_reply :
    (streamReply stutteringPort []).raised = none ∧
      (streamReply stutteringPort []).deltas.flatMap (·.content) = Py.ofString "HelHello" ∧
      ¬ (streamReply stutteringPort []).OneAttempt (stutteringPort (request [])) := by
  refine ⟨by decide, by decide, fun h => ?_⟩
  have hlength : (streamReply stutteringPort []).deltas.length =
      (stutteringPort (request []) (streamReply stutteringPort []).attempts).deltas.length :=
    congrArg List.length h.deltas
  exact absurd hlength (by decide)

end ChatService

end EnjoyThings
