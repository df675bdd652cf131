import Mathlib.Data.List.Basic

/-!
# Frames ended by a separator

A reader that collects its input in a buffer, cuts off the frames that end with a
separator and keeps the rest for the next piece. What it has cut off after some
pieces depends on their concatenation only (`frames_append`), wherever the cuts
between the pieces are, also inside a separator.
-/

namespace Framing

variable {α : Type} [DecidableEq α]

/-- The first position of `sep`. -/
def find (sep : List α) : List α → Option Nat
  | [] => if sep = [] then some 0 else none
  | a :: l => if sep <+: a :: l then some 0 else (find sep l).map (· + 1)

/-- The frames of a buffer and what is left of it, for at most the given number of frames. -/
def drain (sep : List α) : Nat → List α → List (List α) × List α
  | 0, l => ([], l)
  | n + 1, l =>
    match find sep l with
    | none => ([], l)
    | some i =>
      (l.take i :: (drain sep n (l.drop (i + sep.length))).1,
        (drain sep n (l.drop (i + sep.length))).2)

/-- All frames of a buffer and what is left of it. -/
def frames (sep l : List α) : List (List α) × List α :=
  drain sep l.length l

variable {sep : List α}

/-- A separator that is found stands there. -/
theorem find_bound {l : List α} {i : Nat} (h : find sep l = some i) :
    i + sep.length ≤ l.length := by
  induction l generalizing i with
  | nil =>
    simp only [find] at h
    split at h
    · rename_i hsep
      cases h
      simp [hsep]
    · cases h
  | cons a l ih =>
    simp only [find] at h
    split at h
    · rename_i hpre
      cases h
      have hlen := hpre.length_le
      omega
    · obtain ⟨j, hj, rfl⟩ := Option.map_eq_some_iff.mp h
      have hlen := ih hj
      simp only [List.length_cons]
      omega

/-- What is found in a buffer is found at the same place when the buffer has grown. -/
theorem find_append {l : List α} {i : Nat} (h : find sep l = some i) (more : List α) :
    find sep (l ++ more) = some i := by
  induction l generalizing i with
  | nil =>
    simp only [find] at h
    split at h
    · rename_i hsep
      subst hsep
      cases more with
      | nil => simpa [find] using h
      | cons b more => simpa [find] using h
    · cases h
  | cons a l ih =>
    simp only [find, List.cons_append] at h ⊢
    split at h
    · rename_i hpre
      have hgrown : sep <+: a :: (l ++ more) := hpre.trans (List.prefix_append (a :: l) more)
      rw [if_pos hgrown]
      exact h
    · rename_i hpre
      obtain ⟨j, hj, rfl⟩ := Option.map_eq_some_iff.mp h
      -- an earlier occurrence would lie in the old buffer, since the one found does
      have hnew : ¬ sep <+: a :: (l ++ more) := by
        intro hnew
        have hbound := find_bound hj
        have hlen : sep.length ≤ (a :: l).length := by
          simp only [List.length_cons]
          omega
        exact hpre (List.prefix_of_prefix_length_le hnew (List.prefix_append (a :: l) more) hlen)
      rw [if_neg hnew, ih hj]
      rfl

/-- More rounds than the buffer has elements change nothing. -/
theorem drain_eq (hsep : sep ≠ []) {n m : Nat} {l : List α} (hn : l.length ≤ n)
    (hm : l.length ≤ m) : drain sep n l = drain sep m l := by
  have hpos : 0 < sep.length := List.length_pos_of_ne_nil hsep
  have hnil : find sep ([] : List α) = none := by simp [find, hsep]
  induction n generalizing m l with
  | zero =>
    obtain rfl := List.length_eq_zero_iff.mp (Nat.le_zero.mp hn)
    cases m with
    | zero => rfl
    | succ m => simp only [drain, hnil]
  | succ n ih =>
    cases m with
    | zero =>
      obtain rfl := List.length_eq_zero_iff.mp (Nat.le_zero.mp hm)
      simp only [drain, hnil]
    | succ m =>
      simp only [drain]
      cases hi : find sep l with
      | none => rfl
      | some i =>
        have hlen : (l.drop (i + sep.length)).length + 1 ≤ l.length := by
          have hbound := find_bound hi
          rw [List.length_drop]
          omega
        simp only
        rw [ih (m := m) (by omega) (by omega)]

theorem frames_of_none {l : List α} (h : find sep l = none) : frames sep l = ([], l) := by
  unfold frames
  cases l with
  | nil => rfl
  | cons a l => simp only [List.length_cons, drain, h]

/-- One frame is cut off. -/
theorem frames_of_some (hsep : sep ≠ []) {l : List α} {i : Nat} (h : find sep l = some i) :
    frames sep l = (l.take i :: (frames sep (l.drop (i + sep.length))).1,
      (frames sep (l.drop (i + sep.length))).2) := by
  have hpos : 0 < sep.length := List.length_pos_of_ne_nil hsep
  have hbound := find_bound h
  have hfuel : frames sep l = drain sep (l.length - 1 + 1) l := by
    rw [frames]
    congr 1
    omega
  rw [hfuel]
  simp only [drain, h, frames]
  have hlen : (l.drop (i + sep.length)).length ≤ l.length - 1 := by
    rw [List.length_drop]
    omega
  rw [drain_eq hsep hlen (Nat.le_refl _)]

/-- What is left has no frame in it. -/
theorem find_rest (hsep : sep ≠ []) (l : List α) : find sep (frames sep l).2 = none := by
  induction hlen : l.length using Nat.strongRecOn generalizing l with
  | ind n ih =>
    cases hi : find sep l with
    | none =>
      rw [frames_of_none hi]
      exact hi
    | some i =>
      have hpos : 0 < sep.length := List.length_pos_of_ne_nil hsep
      have hbound := find_bound hi
      rw [frames_of_some hsep hi]
      exact ih _ (by rw [List.length_drop]; omega) (l.drop (i + sep.length)) rfl

/-- The frames of a buffer that has grown: those of the old buffer, and those of what was left of
    it together with the new piece. -/
theorem frames_append (hsep : sep ≠ []) (l more : List α) :
    frames sep (l ++ more) = ((frames sep l).1 ++ (frames sep ((frames sep l).2 ++ more)).1,
      (frames sep ((frames sep l).2 ++ more)).2) := by
  induction hlen : l.length using Nat.strongRecOn generalizing l with
  | ind n ih =>
    cases hi : find sep l with
    | none => rw [frames_of_none hi, List.nil_append]
    | some i =>
      have hpos : 0 < sep.length := List.length_pos_of_ne_nil hsep
      have hbound := find_bound hi
      have hrest := ih (l.drop (i + sep.length)).length (by rw [List.length_drop]; omega)
        (l.drop (i + sep.length)) rfl
      rw [frames_of_some hsep (find_append hi more), frames_of_some hsep hi,
        List.take_append_of_le_length (by omega), List.drop_append_of_le_length hbound, hrest,
        List.cons_append]

/-- A frame without a part of the separator in it comes first. -/
theorem find_frame {a : α} {l : List α} (hl : a ∉ l) (n : Nat) (more : List α) :
    find (List.replicate (n + 1) a) (l ++ (List.replicate (n + 1) a ++ more)) = some l.length := by
  induction l with
  | nil =>
    have hpre : List.replicate (n + 1) a <+: List.replicate (n + 1) a ++ more :=
      List.prefix_append _ more
    rw [List.nil_append]
    simp only [List.replicate_succ, List.cons_append, find] at hpre ⊢
    rw [if_pos hpre]
    rfl
  | cons b l ih =>
    obtain ⟨hne, hl⟩ := List.ne_and_not_mem_of_not_mem_cons hl
    have hpre : ¬ List.replicate (n + 1) a <+: b :: (l ++ (List.replicate (n + 1) a ++ more)) := by
      rw [List.replicate_succ, List.cons_prefix_cons]
      exact fun h => hne h.1
    rw [List.cons_append, find, if_neg hpre, ih hl]
    rfl

end Framing
