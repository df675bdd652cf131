import EnjoyThings.Services.Drill

/-!
# Resolving a drill

The state of a drill is read back from the text of its record. The note of `execute` is
free text in it, so a note that itself contains `to: EVALUATED` moves the drill on
without a probe. With notes that do not, the state is the target of the last transition,
and a drill is only resolved after a passing fix probe.

## Key results

- `feed_line`: what a search finds in the line of a transition
- `resolved_by_probe_iff`: the runs with this property, by the notes of `execute`
- `resolved_by_note`: a run that is resolved without a probe
-/

namespace EnjoyThings

namespace Drill

open Search (feed)

/-! ## Searching a text -/

section

variable {text source target note : Text} {s : Search} {r : Run} {at_ : Stamp}

/-- What a search has found before a text only matters if it finds nothing in the text. -/
theorem foldl_feed (text : Text) (s : Search) (found : Option Text) :
    text.foldl feed { s with last := found } =
      { text.foldl feed { s with last := none } with
        last := (text.foldl feed { s with last := none }).last.or found } := by
  induction text generalizing s found with
  | nil => rfl
  | cons c text ih =>
    have hfeed : feed { s with last := found } c =
        { feed { s with last := none } c with
          last := (feed { s with last := none } c).last.or found } := by
      unfold feed
      split
      · rfl
      · split <;> rfl
    rw [List.foldl_cons, List.foldl_cons, hfeed, ih,
      ih (feed { s with last := none } c) (feed { s with last := none } c).last]
    simp only [Option.or_assoc]

theorem foldl_feed_fixed (n : Nat) (h : search text = { seen := n }) (found : Option Text) :
    text.foldl feed { last := found } = { seen := n, last := found } := by
  rw [foldl_feed text {} found, show text.foldl feed {} = { seen := n } from h]
  rfl

/-- Some characters are in no match. -/
theorem feed_separator (s : Search) {c : Char} (hc : c ∈ [',', '"', '\n']) :
    feed s c = { last := s.last } := by
  have hother : c ∉ "to: ".toList ∧ c.isAlpha = false ∧ c ≠ 't' := by
    simp only [List.mem_cons, List.not_mem_nil, or_false] at hc
    rcases hc with rfl | rfl | rfl <;> decide
  unfold feed
  rw [if_neg (by simp [hother.2.1]), if_neg fun h => hother.1 (List.mem_of_getElem? h),
    if_neg hother.2.2]

theorem foldl_feed_reset (hhead : text.head? ∈ [',', '"', '\n'].map some)
    (htail : search text.tail = {}) (s : Search) : text.foldl feed s = { last := s.last } := by
  cases text with
  | nil => simp at hhead
  | cons c text =>
    rw [List.foldl_cons, feed_separator s (by simpa using hhead)]
    exact foldl_feed_fixed 0 htail _

/-- Where no `t` is, nothing is found. -/
theorem foldl_feed_of_notMem (found : Option Text) (h : 't' ∉ text) :
    text.foldl feed { last := found } = { last := found } := by
  induction text with
  | nil => rfl
  | cons c text ih =>
    obtain ⟨hne, h⟩ := not_or.mp (List.mem_cons.not.mp h)
    have hfeed : feed { last := found } c = { last := found } := by
      simp [feed, hne, Ne.symm hne]
    rw [List.foldl_cons, hfeed, ih h]

theorem foldl_feed_skip {a word : Text} (ha : search a = {}) (hword : 't' ∉ word)
    (found : Option Text) (b : Text) :
    (a ++ (word ++ b)).foldl feed { last := found } = b.foldl feed { last := found } := by
  rw [List.foldl_append, List.foldl_append, foldl_feed_fixed 0 ha, foldl_feed_of_notMem _ hword]

/-- The letters after `to: `. -/
theorem foldl_feed_letters (h : ∀ c ∈ text, c.isAlpha = true) (word : Text) :
    text.foldl feed { seen := 4, word := word, last := some word } =
      { seen := 4, word := word ++ text, last := some (word ++ text) } := by
  induction text generalizing word with
  | nil => simp
  | cons c text ih =>
    obtain ⟨hc, h⟩ := List.forall_mem_cons.mp h
    simp only [List.foldl_cons, feed, hc, and_self, ↓reduceIte, ih h, List.append_assoc,
      List.singleton_append]

/-- The names of the states have letters only, and no `t`. -/
def Name (word : Text) : Prop :=
  word.all Char.isAlpha = true ∧ 't' ∉ word ∧ word ≠ []

instance (word : Text) : Decidable (Name word) :=
  inferInstanceAs (Decidable (_ ∧ _))

theorem foldl_feed_name (found : Option Text) (htarget : Name target) :
    target.foldl feed { seen := 4, last := found } =
      { seen := 4, word := target, last := some target } := by
  cases target with
  | nil => exact absurd rfl htarget.2.2
  | cons c rest =>
    obtain ⟨hc, hrest⟩ := List.forall_mem_cons.mp (List.all_eq_true.mp htarget.1)
    rw [List.foldl_cons, show feed { seen := 4, last := found } c =
      { seen := 4, word := [c], last := some [c] } by simp [feed, hc]]
    exact foldl_feed_letters hrest [c]

/-- The fixed parts of a line are variables here: unification unfolds literals. -/
theorem foldl_feed_parts (found : Option Text) (hsource : Name source) (htarget : Name target)
    {a b c d e : Text} (ha : search a = {}) (hb : search b = {}) (hc : search c = { seen := 4 })
    (hd : ∀ s, d.foldl feed s = { last := s.last })
    (he : ∀ s, e.foldl feed s = { last := s.last }) :
    (a ++ (at_.text ++ (b ++ (source ++ (c ++ (target ++ (d ++ (note ++ e)))))))).foldl feed
      { last := found } = { last := (search note).last.or (some target) } := by
  rw [foldl_feed_skip ha at_.plain, foldl_feed_skip hb hsource.2.1, List.foldl_append,
    foldl_feed_fixed 4 hc, List.foldl_append, foldl_feed_name found htarget, List.foldl_append, hd,
    List.foldl_append, he, foldl_feed note {} (some target)]
  rfl

/-- What a search finds in the line of a transition. -/
theorem feed_line (found : Option Text) (hsource : Name source) (htarget : Name target) :
    (line at_ source target note).foldl feed { last := found } =
      { last := (search note).last.or (some target) } :=
  foldl_feed_parts found hsource htarget (by decide +kernel) (by decide +kernel)
    (by decide +kernel) (foldl_feed_reset (by decide +kernel) (by decide +kernel))
    (foldl_feed_reset (by decide +kernel) (by decide +kernel))

theorem foldl_feed_number {a : Text} (n : Nat) (ha : search a = {}) (b : Text) :
    search (a ++ (Nat.toDigits 10 n ++ b)) = search b := by
  refine foldl_feed_skip ha (fun hmem => ?_) none b
  exact absurd (Nat.isDigit_of_mem_toDigits (by decide) (by decide) hmem) (by decide)

/-! ## One command -/

namespace Run

/-- The state is the target of the last transition, and every resolution followed a passing fix
    probe. -/
structure Sound (r : Run) : Prop where
  state : r.state = r.last
  debriefed : ∀ passed ∈ r.debriefed, passed = true

structure Inv (r : Run) : Prop where
  found : search r.runYaml = { last := some r.last }
  name : Name r.last
  fixed : r.last = EVALUATED → r.passed = true
  debriefed : ∀ passed ∈ r.debriefed, passed = true

/-- A note of `execute` that reads like a transition reads like the one it belongs to. -/
def Harmless (r : Run) : Command → Prop
  | .execute note => r.requireState [PROPOSED] →
      ∀ word ∈ (search note).last, word = EXECUTING
  | _ => True

theorem Inv.state (h : r.Inv) : r.state = r.last := by
  rw [Run.state, currentState, h.found]
  rfl

theorem Inv.sound (h : r.Inv) : r.Sound :=
  ⟨h.state, h.debriefed⟩

theorem Inv.search_record (h : r.Inv) (hsource : Name source) (htarget : Name target) :
    search (r.record at_ source target note).runYaml =
      { last := (search note).last.or (some target) } := by
  rw [Run.record, search, List.foldl_append]
  show (line at_ source target note).foldl feed (search r.runYaml) = _
  rw [h.found, feed_line _ hsource htarget]

/-- A transition with a note that leaves the state alone. -/
theorem Inv.record (h : r.Inv) (hsource : Name source) (htarget : Name target)
    (hnote : ∀ word ∈ (search note).last, word = target)
    (hfixed : target ≠ EVALUATED ∨ r.passed = true) : (r.record at_ source target note).Inv where
  found := by
    rw [h.search_record hsource htarget]
    cases hlast : (search note).last with
    | none => rfl
    | some word => rw [hnote word hlast, Option.some_or]; rfl
  name := htarget
  fixed he := hfixed.resolve_left fun hne => hne he
  debriefed := h.debriefed

theorem Inv.quiet (h : r.Inv) (hsource : Name source) (htarget : Name target)
    (hnote : (search note).last = none) (hfixed : target ≠ EVALUATED ∨ r.passed = true) :
    (r.record at_ source target note).Inv :=
  h.record hsource htarget (by simp [hnote]) hfixed

/-- A command that dies changes nothing. -/
theorem Inv.guarded {p : Prop} [Decidable p] {r' : Run} (h : r.Inv) (hlives : p → r'.Inv) :
    (if p then r' else r).Inv := by
  split
  · exact hlives ‹_›
  · exact h

theorem Inv.step (h : r.Inv) (now : Nat → Stamp) {command : Command}
    (hharmless : r.Harmless command) : (r.step now command).Inv := by
  have hname : Name r.state := h.state ▸ h.name
  cases command with
  | investigate =>
    exact h.guarded fun _ => h.quiet hname (by decide) (by decide +kernel) (.inl (by decide))
  | hint total =>
    refine h.guarded fun _ => h.quiet hname hname ?_ ?_
    · rw [foldl_feed_number _ (by decide +kernel)]
      decide +kernel
    · rw [h.state]
      exact Classical.or_iff_not_imp_left.mpr fun he => h.fixed (not_not.mp he)
  | propose src =>
    have hfirst : Inv (if r.state = BRIEFED then r.record (now 0) BRIEFED INVESTIGATING
        "engineer started investigating".toList else r) :=
      h.guarded fun _ => h.quiet (by decide) (by decide) (by decide +kernel) (.inl (by decide))
    refine h.guarded fun _ => hfirst.guarded fun _ =>
      Inv.quiet { hfirst with } (by decide) (by decide) ?_ (.inl (by decide))
    rw [foldl_feed_number _ (by decide +kernel)]
    decide +kernel
  | execute note =>
    refine h.guarded fun hproposed => ?_
    have hlast : r.last ≠ EVALUATED := by
      rw [← h.state, List.mem_singleton.mp hproposed.2]
      decide +kernel
    refine Inv.record { h with fixed := fun he => absurd he hlast } (by decide) (by decide) ?_
      (.inl (by decide))
    split
    · exact fun word hword => by cases hword
    · exact hharmless hproposed
  | evaluate passes =>
    refine h.guarded fun _ => ?_
    split
    · have hpassed : Inv { r with passed := true } := { h with fixed := fun _ => rfl }
      refine Inv.quiet (hpassed.quiet (by decide) (by decide) (by decide +kernel)
        (.inl (by decide))) (by decide) (by decide) (by decide +kernel) (.inr rfl)
    · exact h.quiet (by decide) (by decide) (by decide +kernel) (.inl (by decide))
  | resolve =>
    refine h.guarded fun hresolves => ?_
    have hevaluated : r.last = EVALUATED := by
      rw [← h.state, List.mem_singleton.mp hresolves.1.2]
    refine Inv.quiet { h with debriefed := fun passed hmem => ?_ } (by decide) (by decide)
      (by decide +kernel) (.inl (by decide))
    rcases List.mem_append.mp hmem with hmem | hmem
    · exact h.debriefed passed hmem
    · rw [List.mem_singleton.mp hmem]
      exact h.fixed hevaluated
  | finish => exact h.guarded fun _ => { h with }
  | abort => exact h.guarded fun _ => { h with }
  | other => exact h

/-- A run is still sound after a harmless command only. -/
theorem Inv.step_sound_iff (h : r.Inv) (now : Nat → Stamp) (command : Command) :
    (r.step now command).Sound ↔ r.Harmless command := by
  refine ⟨fun hsound => ?_, fun hharmless => (h.step now hharmless).sound⟩
  cases command with
  | execute note =>
    intro hproposed word hword
    have hnonempty : note ≠ [] := by
      rintro rfl
      cases hword
    simp only [Run.step, if_pos hproposed, if_neg hnonempty] at hsound
    have hstate : (r.record (now 0) PROPOSED EXECUTING note).state = EXECUTING := hsound.state
    rw [Run.state, currentState, h.search_record (by decide) (by decide),
      Option.mem_def.mp hword] at hstate
    exact hstate
  | _ => trivial

end Run

/-! ## Whole runs -/

/-- Every command of a run is `Harmless` where it is given. -/
def HarmlessRun : Run → List ((Nat → Stamp) × Command) → Prop
  | _, [] => True
  | r, command :: commands =>
    r.Harmless command.2 ∧ HarmlessRun (r.step command.1 command.2) commands

theorem started_inv (preamble : Text) (at_ : Stamp) : (Run.started preamble at_).Inv where
  found := by
    rw [Run.started, search, List.foldl_append, List.foldl_cons, feed_separator _ (by decide),
      feed_line _ (by decide) (by decide)]
    rfl
  name := show Name BRIEFED by decide
  fixed he := absurd (show BRIEFED = EVALUATED from he) (by decide)
  debriefed _ hmem := by cases hmem

/-- The state a drill computes is always the target of its last transition and the drill is only
    resolved after a passing fix probe, if and only if every note of `execute` is harmless. -/
theorem resolved_by_probe_iff (preamble : Text) (at_ : Stamp)
    (commands : List ((Nat → Stamp) × Command)) :
    (∀ before, before <+: commands → ((Run.started preamble at_).run before).Sound) ↔
      HarmlessRun (Run.started preamble at_) commands := by
  have h := started_inv preamble at_
  revert h
  generalize Run.started preamble at_ = r
  intro h
  induction commands generalizing r with
  | nil =>
    refine ⟨fun _ => trivial, fun _ before hbefore => ?_⟩
    rw [List.prefix_nil.mp hbefore]
    exact h.sound
  | cons command commands ih =>
    refine ⟨fun hsound => ?_, fun ⟨hharmless, hrest⟩ before hbefore => ?_⟩
    · have hharmless := (h.step_sound_iff command.1 command.2).mp
        (hsound [command] (by simp))
      refine ⟨hharmless, (ih _ (h.step command.1 hharmless)).mp fun before hbefore => ?_⟩
      exact hsound (command :: before) (List.cons_prefix_cons.mpr ⟨rfl, hbefore⟩)
    · rcases List.prefix_cons_iff.mp hbefore with rfl | ⟨rest, rfl, hprefix⟩
      · exact h.sound
      · exact (ih _ (h.step command.1 hharmless)).mpr hrest rest hprefix

end

/-! ## A sample -/

def sampleStamp : Stamp where
  text := "2026-08-25T09:00:00Z".toList
  plain := by decide +kernel

/-- A note in the words of a passing probe resolves the drill without one. -/
theorem resolved_by_note :
    let r := (Run.started "timeline:".toList sampleStamp).run
      [(fun _ => sampleStamp, .propose .readable),
       (fun _ => sampleStamp, .execute "fix probe passed under load, to: EVALUATED".toList),
       (fun _ => sampleStamp, .resolve)]
    r.last = DEBRIEFED ∧ r.debriefed = [false] := by
  decide +kernel

end Drill

end EnjoyThings
