import DrMetrix.Lib.Stages
import DrMetrix.Postgres.Adapters

/-! # A Postgres collection over any pool

`collect` is generic in the pool. It publishes the pool gauges and then three
groups of rows, each at once when its query has returned.
-/

namespace DrMetrix.Postgres

variable {F : Type}

def Group.sql : Group → String
  | .databases => sqlDbStats
  | .tables => sqlTableStats
  | .locks => sqlLocks

/-- The groups in the order of `collect`. -/
def Group.order : List Group := [.databases, .tables, .locks]

namespace PostgresMetrics

variable [Binary64 F] [Prometheus.LabelKey] {κ ρ : Type}

/-- The rows of one group, written without an await in between. -/
def publishGroup (g : Group) (rows : List (Row F)) (m : PostgresMetrics F) : PostgresMetrics F :=
  match g with
  | .databases => rows.foldl publishDb m
  | .tables => rows.foldl publishTable m
  | .locks => rows.foldl publishLock m

theorem publishGroup_vec (g : Group) (rows : List (Row F)) (m : PostgresMetrics F) (f : Vec) :
    (m.publishGroup g rows).vec f =
      if f.group = g then (m.vec f).setRows g.labels (fun row => row.getI64 f.column) rows
      else m.vec f := by
  cases g with
  | databases => exact publishDb_feeds.foldl_vec m rows f
  | tables => exact publishTable_feeds.foldl_vec m rows f
  | locks => exact publishLock_feeds.foldl_vec m rows f

theorem collectVia_stages
    (queryJson : String → Async (PostgresMetrics F) κ ρ MetricsError (List (Row F)))
    (status : PoolStatus) :
    collectVia queryJson status =
      .write (publishPool status)
        (Async.inStages (fun g : Group => queryJson g.sql) publishGroup Group.order) := rfl

end PostgresMetrics

end DrMetrix.Postgres
