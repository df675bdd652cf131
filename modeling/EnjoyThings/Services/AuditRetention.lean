import EnjoyThings.Services.SagaStore

/-!
# The retention of fraud audit records

The sweep of `internal/saga/retention.go` and the statement behind it,
`DeleteFraudAuditBefore` of `postgres_store.go`. The sweep deletes in batches until one
is not full. Nothing else writes the two tables meanwhile.
-/

namespace EnjoyThings

variable {U : Type} [DecidableEq U]

/-- A row of `saga_fraud_audit_records`. -/
structure AuditRow (U : Type) extends FraudAuditRecord where
  id : U
  deriving DecidableEq

/-- The tables of the statement, with the unique keys of the migrations. -/
structure AuditTables (U : Type) where
  audits : List (AuditRow U)
  sagas : List Saga
  ids : (audits.map (·.id)).Nodup
  payments : (sagas.map (·.paymentID)).Nodup

/-- The order in which the server comes upon rows, which decides between those of one time. -/
structure Scan (α : Type) where
  arrange : List α → List α
  perm : ∀ rows, (arrange rows).Perm rows

namespace AuditTables

/-- `LEFT JOIN sagas ON sagas.payment_id = audit.payment_id`. -/
def joined (t : AuditTables U) : List (AuditRow U × Option Saga) :=
  t.audits.flatMap fun audit =>
    let matching := t.sagas.filter (·.paymentID = audit.paymentID)
    if matching = [] then [(audit, none)] else matching.map fun saga => (audit, some saga)

/-- The `WHERE` clause. -/
def old (before : Time) (row : AuditRow U × Option Saga) : Bool :=
  row.1.createdAt < pgTime before && row.2.all (·.state.terminal)

/-- The rows of the sub-select. -/
def selected (t : AuditTables U) (scan : Scan (AuditRow U × Option Saga)) (before : Time)
    (limit : Nat) : List (AuditRow U × Option Saga) :=
  ((scan.arrange (t.joined.filter (old before))).insertionSort
    fun left right => left.1.createdAt ≤ right.1.createdAt).take limit

/-- `DeleteFraudAuditBefore`: the rows affected, and the tables after it. -/
def deleteFraudAuditBefore (t : AuditTables U) (scan : Scan (AuditRow U × Option Saga))
    (before : Time) (limit : Nat) : Nat × AuditTables U :=
  let ids := (t.selected scan before limit).map (·.1.id)
  ((t.audits.filter (·.id ∈ ids)).length,
    { t with audits := t.audits.filter (·.id ∉ ids)
             ids := t.ids.sublist (List.filter_sublist.map _) })

end AuditTables

/-- What `Sweep` reads of `FraudAuditSweeperConfig`. -/
structure FraudAuditSweeperConfig where
  retention : Int
  batchSize : Nat

/-- How the `DELETE` of a batch ends for the sweep. One that fails has deleted nothing, but when
    only its answer is lost the rows are gone. -/
inductive BatchEnding
  | answered
  | failed (err : SagaErr)
  | answerLost (err : SagaErr)
  deriving DecidableEq

def BatchEnding.err : BatchEnding → Option SagaErr
  | .answered => none
  | .failed err | .answerLost err => some err

/-- What one batch meets. -/
structure BatchEnv (U : Type) where
  scan : Scan (AuditRow U × Option Saga)
  ending : BatchEnding

/-- What `Sweep` returns, and the tables after it. -/
structure SweepResult (U : Type) where
  deleted : Nat
  err : Option SagaErr
  tables : AuditTables U

namespace FraudAuditSweeper

variable (batchSize : Nat) (before : Time) (batches : Nat → BatchEnv U)

/-- The loop of `Sweep` from a batch on, `none` if it has not ended after so many batches. -/
def sweepFrom : Nat → Nat → Nat → AuditTables U → Option (SweepResult U)
  | 0, _, _, _ => none
  | fuel + 1, n, deleted, t =>
    let (count, t') := t.deleteFraudAuditBefore (batches n).scan before batchSize
    match (batches n).ending with
    | .answered =>
      if count < batchSize then some { deleted := deleted + count, err := none, tables := t' }
      else sweepFrom fuel (n + 1) (deleted + count) t'
    | .failed err => some { deleted := deleted, err := some err, tables := t }
    | .answerLost err => some { deleted := deleted, err := some err, tables := t' }

/-- `Now().Add(-Retention)`, and the zero time for what lies before it. -/
def cutoff (cfg : FraudAuditSweeperConfig) (now : Time) : Time :=
  (now - cfg.retention).toNat

/-- `Sweep`. -/
def sweep (cfg : FraudAuditSweeperConfig) (now : Time) (batches : Nat → BatchEnv U)
    (fuel : Nat) (t : AuditTables U) : Option (SweepResult U) :=
  if cfg.retention ≤ 0 then some { deleted := 0, err := none, tables := t }
  else sweepFrom cfg.batchSize (cutoff cfg now) batches fuel 0 0 t

end FraudAuditSweeper

end EnjoyThings
