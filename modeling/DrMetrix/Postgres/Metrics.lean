import DrMetrix.Core.Subsystem
import DrMetrix.Lib.Async
import DrMetrix.Postgres.Json

/-! # The Postgres collector -/

namespace DrMetrix.Postgres

open Prometheus

def sqlDbStats : String :=
  "\nSELECT datname, numbackends, xact_commit, xact_rollback,\n       blks_hit, blks_read, pg_database_size(datname) AS size_bytes\nFROM pg_stat_database WHERE datname IS NOT NULL"

def sqlTableStats : String :=
  "\nSELECT schemaname, relname, seq_scan, idx_scan, n_live_tup, n_dead_tup\nFROM pg_stat_user_tables"

def sqlLocks : String :=
  "\nSELECT mode, COUNT(*) AS cnt FROM pg_locks WHERE granted = true GROUP BY mode"

structure PoolStatus where
  maxSize : UInt32
  available : UInt32
  inUse : UInt32

structure PostgresMetrics (F : Type) where
  poolActive : IntGauge
  poolIdle : IntGauge
  poolMax : IntGauge
  dbNumbackends : IntGaugeVec
  dbXactCommit : IntGaugeVec
  dbXactRollback : IntGaugeVec
  dbBlksHit : IntGaugeVec
  dbBlksRead : IntGaugeVec
  dbSizeBytes : IntGaugeVec
  tableSeqScan : IntGaugeVec
  tableIdxScan : IntGaugeVec
  tableLiveTup : IntGaugeVec
  tableDeadTup : IntGaugeVec
  lockCount : IntGaugeVec
  queryDurationSeconds : HistogramVec F
  rowsReturned : HistogramVec F

/-- A reply of `query_json`. -/
abbrev Reply (F : Type) := Except MetricsError (List (Row F))

namespace PostgresMetrics

variable {F : Type}

def new (config : CollectorConfig) : Except MetricsError (PostgresMetrics F) := do
  let gauge := gauge "postgres" config.ns
  let gaugeVec (name help : String) (labels : List String) : Except MetricsError IntGaugeVec :=
    metricVec "postgres" config.ns name help labels
  let poolActive ← gauge "pool_active" "Active pool connections"
  let poolIdle ← gauge "pool_idle" "Idle pool connections"
  let poolMax ← gauge "pool_max" "Maximum pool size"
  let dbNumbackends ← gaugeVec "db_numbackends" "Active backends per database" ["database"]
  let dbXactCommit ← gaugeVec "db_xact_commit_total" "Committed transactions (snapshot)"
    ["database"]
  let dbXactRollback ← gaugeVec "db_xact_rollback_total" "Rolled-back transactions (snapshot)"
    ["database"]
  let dbBlksHit ← gaugeVec "db_blks_hit_total" "Buffer hits (snapshot)" ["database"]
  let dbBlksRead ← gaugeVec "db_blks_read_total" "Disk blocks read (snapshot)" ["database"]
  let dbSizeBytes ← gaugeVec "db_size_bytes" "Database size in bytes" ["database"]
  let tableSeqScan ← gaugeVec "table_seq_scan_total" "Sequential scans (snapshot)"
    ["schema", "table"]
  let tableIdxScan ← gaugeVec "table_idx_scan_total" "Index scans (snapshot)" ["schema", "table"]
  let tableLiveTup ← gaugeVec "table_live_tup" "Estimated live rows" ["schema", "table"]
  let tableDeadTup ← gaugeVec "table_dead_tup" "Estimated dead rows" ["schema", "table"]
  let lockCount ← gaugeVec "lock_count" "Active locks by mode" ["mode"]
  let queryDurationSeconds ← metricVec "postgres" config.ns "query_duration_seconds"
    "Application query duration" ["query"]
  let rowsReturned ← metricVec "postgres" config.ns "rows_returned"
    "Rows returned per application query" ["query"]
  return {
    poolActive, poolIdle, poolMax, dbNumbackends, dbXactCommit, dbXactRollback, dbBlksHit,
    dbBlksRead, dbSizeBytes, tableSeqScan, tableIdxScan, tableLiveTup, tableDeadTup, lockCount,
    queryDurationSeconds, rowsReturned }

/-- The descriptors in the order of `register`. -/
def descs (m : PostgresMetrics F) : List Desc :=
  [m.poolActive.desc, m.poolIdle.desc, m.poolMax.desc, m.dbNumbackends.desc,
    m.dbXactCommit.desc, m.dbXactRollback.desc, m.dbBlksHit.desc, m.dbBlksRead.desc,
    m.dbSizeBytes.desc, m.tableSeqScan.desc, m.tableIdxScan.desc, m.tableLiveTup.desc,
    m.tableDeadTup.desc, m.lockCount.desc, m.queryDurationSeconds.desc, m.rowsReturned.desc]

def register (m : PostgresMetrics F) : RegisterM Unit := registerAll m.descs

def collector (m : PostgresMetrics F) : MetricsCollector where
  name := "postgres"
  register := m.register

/-! ## Collecting -/

def publishPool (status : PoolStatus) (m : PostgresMetrics F) : PostgresMetrics F :=
  { m with
    poolActive := m.poolActive.set (Int64.ofNat status.inUse.toNat)
    poolIdle := m.poolIdle.set (Int64.ofNat status.available.toNat)
    poolMax := m.poolMax.set (Int64.ofNat status.maxSize.toNat) }

section
variable [Binary64 F] [LabelKey]

def observeQuery (m : PostgresMetrics F) (name : String) (durationSecs rowCount : F) :
    PostgresMetrics F :=
  { m with
    queryDurationSeconds := m.queryDurationSeconds.observe [name] durationSecs
    rowsReturned := m.rowsReturned.observe [name] rowCount }

def publishDb (m : PostgresMetrics F) (row : Row F) : PostgresMetrics F :=
  let db := row.getStr "datname"
  { m with
    dbNumbackends := m.dbNumbackends.set [db] (row.getI64 "numbackends")
    dbXactCommit := m.dbXactCommit.set [db] (row.getI64 "xact_commit")
    dbXactRollback := m.dbXactRollback.set [db] (row.getI64 "xact_rollback")
    dbBlksHit := m.dbBlksHit.set [db] (row.getI64 "blks_hit")
    dbBlksRead := m.dbBlksRead.set [db] (row.getI64 "blks_read")
    dbSizeBytes := m.dbSizeBytes.set [db] (row.getI64 "size_bytes") }

def publishTable (m : PostgresMetrics F) (row : Row F) : PostgresMetrics F :=
  let schema := row.getStr "schemaname"
  let table := row.getStr "relname"
  { m with
    tableSeqScan := m.tableSeqScan.set [schema, table] (row.getI64 "seq_scan")
    tableIdxScan := m.tableIdxScan.set [schema, table] (row.getI64 "idx_scan")
    tableLiveTup := m.tableLiveTup.set [schema, table] (row.getI64 "n_live_tup")
    tableDeadTup := m.tableDeadTup.set [schema, table] (row.getI64 "n_dead_tup") }

def publishLock (m : PostgresMetrics F) (row : Row F) : PostgresMetrics F :=
  let mode := row.getStr "mode"
  { m with lockCount := m.lockCount.set [mode] (row.getI64 "cnt") }

/-- `collect` with the `query_json` of some pool, whose status was read at its start. -/
def collectVia {κ ρ : Type}
    (queryJson : String → Async (PostgresMetrics F) κ ρ MetricsError (List (Row F)))
    (status : PoolStatus) : Async (PostgresMetrics F) κ ρ MetricsError Unit := do
  Async.modify (publishPool status)
  let dbRows ← queryJson sqlDbStats
  Async.modify fun m => dbRows.foldl publishDb m
  let tableRows ← queryJson sqlTableStats
  Async.modify fun m => tableRows.foldl publishTable m
  let lockRows ← queryJson sqlLocks
  Async.modify fun m => lockRows.foldl publishLock m

/-- `collect` over a pool which answers each query at once with its rows or an error. -/
def collect : PoolStatus → Async (PostgresMetrics F) String (Reply F) MetricsError Unit :=
  collectVia Async.request

end

/-- The metric names in the order of `register`. -/
def names : List String :=
  ["pool_active", "pool_idle", "pool_max", "db_numbackends", "db_xact_commit_total",
    "db_xact_rollback_total", "db_blks_hit_total", "db_blks_read_total", "db_size_bytes",
    "table_seq_scan_total", "table_idx_scan_total", "table_live_tup", "table_dead_tup",
    "lock_count", "query_duration_seconds", "rows_returned"]

/-- Every metric has its qualified name, and none has a constant label. -/
theorem new_identities {config : CollectorConfig} {m : PostgresMetrics F}
    (h : new config = .ok m) : m.descs.map Desc.identity =
      names.map fun name => (qualifier "postgres" config.ns ++ name, []) := by
  simp only [new, bind_eq_ok, pure_eq_ok] at h
  obtain ⟨m1, h1, m2, h2, m3, h3, m4, h4, m5, h5, m6, h6, m7, h7, m8, h8, m9, h9, m10, h10, m11,
    h11, m12, h12, m13, h13, m14, h14, m15, h15, m16, h16, rfl⟩ := h
  have inSub : "postgres" ≠ "" := by decide
  have ofVec : ∀ {V : Type} {name help : String} {labels : List String} {v : MetricVec V},
      name ≠ "" → metricVec "postgres" config.ns name help labels = .ok v →
        v.desc.identity = (qualifier "postgres" config.ns ++ name, []) :=
    fun named made => (metricVec_ok inSub named made).1
  simp only [descs, names, List.map_cons, List.map_nil, List.cons.injEq, and_true]
  exact ⟨(gauge_ok inSub (by decide) h1).1, (gauge_ok inSub (by decide) h2).1,
    (gauge_ok inSub (by decide) h3).1, ofVec (by decide) h4, ofVec (by decide) h5,
    ofVec (by decide) h6, ofVec (by decide) h7, ofVec (by decide) h8, ofVec (by decide) h9,
    ofVec (by decide) h10, ofVec (by decide) h11, ofVec (by decide) h12, ofVec (by decide) h13,
    ofVec (by decide) h14, ofVec (by decide) h15, ofVec (by decide) h16⟩

theorem new_names {config : CollectorConfig} {m : PostgresMetrics F} (h : new config = .ok m) :
    m.descs.map Desc.fqName = names.map (qualifier "postgres" config.ns ++ ·) :=
  names_of_identities (new_identities h)

/-- A collector never conflicts with itself. -/
theorem new_independent {config : CollectorConfig} {m : PostgresMetrics F}
    (h : new config = .ok m) : ConflictFree.Independent Desc.Conflicts m.descs := by
  apply Registry.independent_of_names
  rw [new_names h]
  exact qualified_nodup "postgres" config.ns (by decide)

end PostgresMetrics

end DrMetrix.Postgres
