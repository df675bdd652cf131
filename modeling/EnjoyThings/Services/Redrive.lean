import EnjoyThings.ForStd.Team
import EnjoyThings.Services.DeadLetters

/-!
# The redrive command

`run`, `pollOnce` and `decide` of `cmd/dlq-redrive`: an operator lists the dead letters
of a topic, puts them back or discards them. All runs are members of one consumer
group. The group's committed offsets, the positions from which the members fetch and
the dead-letter topic are the world; a member that is assigned a partition starts at
the committed offset, and partitions may move at any time.

The command line is read into `RedriveOptions`; what is printed is left out.
-/

namespace EnjoyThings

open Effect

/-! ## The command -/

inductive RedriveAction
  | list
  | redrive
  | discard
  deriving DecidableEq

/-- What `parseOptions` returns, with the contents of the value file. A replacement is for
    exactly one record. `max = 0` stands for every pending record. -/
structure RedriveOptions where
  action : RedriveAction
  max : Nat := 0
  override : Option Bytes := none
  once : override ≠ none → action = .redrive ∧ max = 1 := by decide

/-- What the operator has decided about a record when its offset is committed. -/
inductive RedriveDecision
  | redriven
  | discarded
  deriving DecidableEq

/-- The calls of a run. `produce` has the parked record the replayed one is made from. -/
inductive RedriveOp (B : Type)
  | newClient
  | poll
  | produce (parked : ConsumedRecord B) (replayed : ReplayedRecord)
  | commitRecords (decision : RedriveDecision) (parked : ConsumedRecord B)

@[reducible] def RedriveOp.Ret {B : Type} : RedriveOp B → Type
  | .poll => List (ConsumedRecord B)
  | .newClient | .produce _ _ | .commitRecords _ _ => Unit

/-- A run ends with an error of a call or with one of its own. -/
inductive RedriveErr
  | failed
  | undecodable (message : String)
  deriving DecidableEq

abbrev RedriveProg (B α : Type) : Type := Prog (RedriveOp B) RedriveOp.Ret RedriveErr α

namespace Redrive

variable {B : Type} [Base64Lib] [JsonTextLib B]

/-- The error of a redrive whose dead letter does not decode. -/
def undecodable (parked : ConsumedRecord B) (cause : String) : String :=
  "cannot redrive " ++ parked.topic ++ "/" ++ Go.decimal parked.partition.toInt ++ "/" ++
    Go.decimal parked.offset ++ ": " ++ cause ++ " (discard it, or fix the payload by hand)"

/-- `decide`. -/
def decide (action : RedriveAction) (parked : ConsumedRecord B) (override : Option Bytes) :
    RedriveProg B Unit :=
  match action with
  | .list => pure ()
  | .discard => Prog.perform (RedriveOp.commitRecords .discarded parked)
  | .redrive =>
    match DeadLetterPayload.decode parked.value with
    | .error cause => .fail (.undecodable (undecodable parked cause))
    | .ok payload => do
      Prog.perform (RedriveOp.produce parked (replay parked payload override))
      Prog.perform (RedriveOp.commitRecords .redriven parked)

/-- The records of one poll, up to `max` in all, given how many were seen before. -/
def decideAll (opts : RedriveOptions) : List (ConsumedRecord B) → Nat → RedriveProg B Nat
  | [], seen => pure seen
  | parked :: records, seen =>
    if opts.max ≠ 0 ∧ opts.max ≤ seen then pure seen
    else do
      decide opts.action parked opts.override
      decideAll opts records (seen + 1)

/-- The loop of `run`, for a number of polls after which the run is interrupted. A quiet wait
    ends it. -/
def pollLoop (opts : RedriveOptions) : Nat → Nat → RedriveProg B Nat
  | 0, seen => pure seen
  | polls + 1, seen =>
    if opts.max = 0 ∨ seen < opts.max then do
      let records ← Prog.perform RedriveOp.poll
      if records.isEmpty then pure seen
      else
        let seen ← decideAll opts records seen
        pollLoop opts polls seen
    else pure seen

/-- `run`. -/
def run (opts : RedriveOptions) (polls : Nat) : RedriveProg B Unit := do
  Prog.perform RedriveOp.newClient
  let _ ← pollLoop opts polls 0

end Redrive

/-! ## The group -/

/-- Where a record of the dead-letter topic is. -/
abbrev Coordinates : Type := Int32 × Nat

def ConsumedRecord.coordinates {B : Type} (record : ConsumedRecord B) : Coordinates :=
  (record.partition, record.offset)

/-- The partitions of the dead-letter topic with keys and values, the offsets of the group and
    the positions of its members. What members were handed, which replays were acknowledged and
    which records were discarded are history variables. -/
structure RedriveWorld (P B : Type) where
  log : Int32 → List (B × B)
  committed : Int32 → Nat := fun _ => 0
  positions : P → Int32 → Option Nat := fun _ _ => none
  handed : P → List Coordinates := fun _ => []
  produced : List (ConsumedRecord B × ReplayedRecord) := []
  discarded : List Coordinates := []

/-- The fault of a call, and how many records of which partitions a poll returns. -/
structure RedriveChoice where
  fault : Fault := .none
  fetched : List (Int32 × Nat) := []

/-- What happens besides: a record is parked, or a partition is assigned or taken away. -/
inductive RedriveEvent (P B : Type)
  | park (partition : Int32) (entry : B × B)
  | assign (p : P) (partition : Int32)
  | revoke (p : P) (partition : Int32)

/-- Records of a partition from an offset on. -/
def recordsOf {B : Type} (topic : String) (partition : Int32) (start : Nat)
    (entries : List (B × B)) : List (ConsumedRecord B) :=
  entries.mapIdx fun i entry =>
    { topic := topic, partition := partition, offset := start + i, key := entry.1
      value := entry.2 }

/-- What a member with the positions is handed, and its positions after it. -/
def fetchRecords {B : Type} (topic : String) (log : Int32 → List (B × B)) :
    (Int32 → Option Nat) → List (Int32 × Nat) →
      List (ConsumedRecord B) × (Int32 → Option Nat)
  | positions, [] => ([], positions)
  | positions, (partition, count) :: rest =>
    match positions partition with
    | none => fetchRecords topic log positions rest
    | some start =>
      let entries := ((log partition).drop start).take count
      let next := fetchRecords topic log
        (Function.update positions partition (some (start + entries.length))) rest
      (recordsOf topic partition start entries ++ next.1, next.2)

namespace RedriveWorld

variable {P B : Type} [DecidableEq P] (w : RedriveWorld P B)

/-- A new member of the group has no partitions yet. -/
def newClient (p : P) : RedriveWorld P B :=
  { w with
    positions := Function.update w.positions p fun _ => none
    handed := Function.update w.handed p [] }

def poll (topic : String) (p : P) (fetched : List (Int32 × Nat)) :
    List (ConsumedRecord B) × RedriveWorld P B :=
  let r := fetchRecords topic w.log (w.positions p) fetched
  (r.1, { w with
    positions := Function.update w.positions p r.2
    handed := Function.update w.handed p (w.handed p ++ r.1.map ConsumedRecord.coordinates) })

/-- `CommitRecords`: the offset of the partition is the one after the record. -/
def commitRecords (decision : RedriveDecision) (parked : ConsumedRecord B) :
    RedriveWorld P B :=
  { w with
    committed := Function.update w.committed parked.partition (parked.offset + 1)
    discarded := if decision = .discarded then w.discarded ++ [parked.coordinates]
      else w.discarded }

def setPosition (p : P) (partition : Int32) (position : Option Nat) : RedriveWorld P B :=
  { w with
    positions := Function.update w.positions p
      (Function.update (w.positions p) partition position) }

/-- What happens besides. -/
def happen : RedriveEvent P B → RedriveWorld P B
  | .park partition entry =>
    { w with log := Function.update w.log partition (w.log partition ++ [entry]) }
  | .assign p partition => w.setPosition p partition (some (w.committed partition))
  | .revoke p partition => w.setPosition p partition none

end RedriveWorld

section

variable {P B : Type} [DecidableEq P]

/-- One call of a run. A replay counts as produced when it is acknowledged; a commit whose
    answer is lost has happened. -/
def RedriveOp.exec (topic : String) (p : P) (c : RedriveChoice) :
    (o : RedriveOp B) → RedriveWorld P B → Except RedriveErr o.Ret × RedriveWorld P B
  | .newClient, w =>
    if c.fault = .none then (.ok (), w.newClient p) else (.error .failed, w)
  | .poll, w =>
    if c.fault = .none then
      (.ok (w.poll topic p c.fetched).1, (w.poll topic p c.fetched).2)
    else (.error .failed, w)
  | .produce parked replayed, w =>
    if c.fault = .none then
      (.ok (), { w with produced := w.produced ++ [(parked, replayed)] })
    else (.error .failed, w)
  | .commitRecords decision parked, w =>
    match c.fault with
    | .none => (.ok (), w.commitRecords decision parked)
    | .notDelivered => (.error .failed, w)
    | .answerLost => (.error .failed, w.commitRecords decision parked)

/-- Any number of runs of the command on the dead letters of one topic. A request starts a run
    that is interrupted after a number of polls. -/
def redriveRuns [Base64Lib] [JsonTextLib B] (topic : String) (opts : P → RedriveOptions) :
    Company P (RedriveOp B) RedriveOp.Ret RedriveErr (RedriveWorld P B) Unit RedriveChoice Nat
      (RedriveEvent P B) where
  machine p := { exec := RedriveOp.exec (DeadLetter.topicFor topic) p, see := fun _ _ _ => () }
  handle p polls := Redrive.run (opts p) polls
  fresh := ()
  drift event w := w.happen event
  crash _ w := w

/-- The state after runs of the command on a dead-letter topic that no member of the group has
    read before. -/
def redriveTeam [Base64Lib] [JsonTextLib B] (topic : String) (opts : P → RedriveOptions)
    (log : Int32 → List (B × B)) (acts : List (TeamAct P Nat RedriveChoice (RedriveEvent P B))) :
    Team P (RedriveOp B) RedriveOp.Ret RedriveErr (RedriveWorld P B) Unit :=
  (Team.idle { log := log }).run (redriveRuns topic opts) acts

end

end EnjoyThings
