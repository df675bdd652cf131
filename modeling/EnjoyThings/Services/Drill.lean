import Mathlib.Data.List.Infix

/-!
# The drill script

The run record of `drills/bin/drill`: `record` appends a line for a transition to
`run.yaml`, and `current_state` searches that text for the state. Each command is one step
of a run that has been started.
-/

namespace EnjoyThings

namespace Drill

abbrev Text : Type := List Char

/-! ## The record -/

/-- How far a search for `to: [A-Za-z]+` has come: how much of `to: ` has just been read, the
    letters after it, and the letters of the last match. -/
structure Search where
  seen : Nat := 0
  word : Text := []
  last : Option Text := none
  deriving DecidableEq

/-- One more character. `to: ` begins again at a `t` only, and a match goes on over all letters. -/
def Search.feed (s : Search) (c : Char) : Search :=
  if s.seen = 4 ∧ c.isAlpha then { s with word := s.word ++ [c], last := some (s.word ++ [c]) }
  else if "to: ".toList[s.seen]? = some c then { seen := s.seen + 1, last := s.last }
  else { seen := if c = 't' then 1 else 0, last := s.last }

def search (text : Text) : Search :=
  text.foldl Search.feed {}

/-- `current_state`: the state in the last match of the `grep`. -/
def currentState (runYaml : Text) : Text :=
  (search runYaml).last.getD "NONE".toList

/-- What `now` prints: digits, `-`, `:`, `T` and `Z`. -/
structure Stamp where
  text : Text
  plain : 't' ∉ text

/-- The line of `record`. The arguments go into it as they are. -/
def line (at_ : Stamp) (source target note : Text) : Text :=
  "  - \x7bat: ".toList ++ (at_.text ++ (", from: ".toList ++ (source ++ (", to: ".toList ++
    (target ++ (", note: \"".toList ++ (note ++ "\"\x7d\n".toList)))))))

def BRIEFED : Text := "BRIEFED".toList
def INVESTIGATING : Text := "INVESTIGATING".toList
def PROPOSED : Text := "PROPOSED".toList
def EXECUTING : Text := "EXECUTING".toList
def EVALUATED : Text := "EVALUATED".toList
def DEBRIEFED : Text := "DEBRIEFED".toList

/-- A started run. The last three fields are its history: the target of the last transition,
    whether the fix probe has passed since the last `execute`, and that at each transition to
    `DEBRIEFED`. -/
structure Run where
  runYaml : Text
  active : Bool := true
  proposals : Nat := 0
  last : Text
  passed : Bool := false
  debriefed : List Bool := []

namespace Run

def state (r : Run) : Text :=
  currentState r.runYaml

/-- `record`. -/
def record (r : Run) (at_ : Stamp) (source target note : Text) : Run :=
  { r with runYaml := r.runYaml ++ line at_ source target note, last := target }

/-- `require_state`, which dies without a run too. -/
def requireState (r : Run) (states : List Text) : Prop :=
  r.active ∧ r.state ∈ states

instance (r : Run) (states : List Text) : Decidable (r.requireState states) :=
  inferInstanceAs (Decidable (_ ∧ _))

/-- `teardown`. The two lines it adds to the record are never read. -/
def teardown (r : Run) : Run :=
  { r with active := false }

end Run

/-! ## The commands -/

/-- The argument of `propose`. -/
inductive Proposal
  | missing
  | noSuchFile
  | readable
  deriving DecidableEq

/-- The commands with their arguments, the number of tiers in `hints.md` and the outcome of the fix
    probe. `other` stands for those that leave the record alone. -/
inductive Command
  | investigate
  | hint (total : Nat)
  | propose (src : Proposal)
  | execute (note : Text)
  | evaluate (passes : Bool)
  | resolve
  | finish
  | abort
  | other

namespace Run

/-- `grep -c 'hint tier '`. -/
def shown (r : Run) : Nat :=
  (r.runYaml.splitOn '\n').countP fun line => decide ("hint tier ".toList <:+: line)

/-- One command, with the times it reads. A command that dies leaves what it has recorded. -/
def step (r : Run) (now : Nat → Stamp) : Command → Run
  | .investigate =>
    if r.requireState [BRIEFED, EVALUATED] then
      r.record (now 0) r.state INVESTIGATING "engineer started investigating".toList
    else r
  | .hint total =>
    if r.active ∧ r.shown < total then
      r.record (now 0) r.state r.state
        ("hint tier ".toList ++ (Nat.toDigits 10 (r.shown + 1) ++ " revealed".toList))
    else r
  | .propose src =>
    if src ≠ .missing ∧ r.requireState [BRIEFED, INVESTIGATING] then
      let r' := if r.state = BRIEFED then
        r.record (now 0) BRIEFED INVESTIGATING "engineer started investigating".toList else r
      if src = .readable then
        { r' with proposals := r.proposals + 1 }.record (now 1) INVESTIGATING PROPOSED
          ("proposal ".toList ++ (Nat.toDigits 10 (r.proposals + 1) ++ " recorded".toList))
      else r'
    else r
  | .execute note =>
    if r.requireState [PROPOSED] then
      { r with passed := false }.record (now 0) PROPOSED EXECUTING
        (if note = [] then "executor begins".toList else note)
    else r
  | .evaluate passes =>
    if r.requireState [EXECUTING] then
      if passes then
        { r with passed := true }.record (now 0) EXECUTING EXECUTING "probe fix: pass".toList
          |>.record (now 1) EXECUTING EVALUATED "fix probe passed under load".toList
      else r.record (now 0) EXECUTING EXECUTING "probe fix: fail".toList
    else r
  | .resolve =>
    if r.requireState [EVALUATED] ∧ "fix probe passed under load".toList <:+: r.runYaml then
      { r with debriefed := r.debriefed ++ [r.passed] }.record (now 0) EVALUATED DEBRIEFED
        "resolved".toList
    else r
  | .finish => if r.requireState [DEBRIEFED] then r.teardown else r
  | .abort => if r.active then r.teardown else r
  | .other => r

/-- The run after a list of commands. -/
def run (r : Run) (commands : List ((Nat → Stamp) × Command)) : Run :=
  commands.foldl (fun r command => r.step command.1 command.2) r

/-- The run `start` leaves behind, after a text of whole lines. -/
def started (preamble : Text) (at_ : Stamp) : Run :=
  { runYaml := preamble ++ '\n' :: line at_ "NONE".toList BRIEFED "engineer paged".toList
    last := BRIEFED }

end Run

end Drill

end EnjoyThings
