import DrMetrix.Core.Subsystem
import DrMetrix.Lib.Async
import DrMetrix.Redis.InfoParser

/-! # The Redis collector -/

namespace DrMetrix.Redis

open Prometheus

structure RedisMetrics (F : Type) where
  poolConnections : IntGauge
  connectedClients : IntGauge
  blockedClients : IntGauge
  usedMemoryBytes : IntGauge
  usedMemoryRss : IntGauge
  memFragmentationRatio : Gauge F
  keyspaceHits : IntGauge
  keyspaceMisses : IntGauge
  evictedKeys : IntGauge
  totalCommandsProcessed : IntGauge
  dbKeys : IntGaugeVec
  dbExpires : IntGaugeVec
  replicationOffset : IntGauge
  connectedSlaves : IntGauge
  commandDurationSeconds : HistogramVec F

/-- The one request of a collection. -/
inductive RedisQuery where
  | infoAll
  deriving DecidableEq

/-- `format!("db{db_idx}")`. -/
def dbLabel (dbIdx : UInt32) : String := "db" ++ toString dbIdx

namespace RedisMetrics

variable {F : Type} [Binary64 F]

def new (config : CollectorConfig) : Except MetricsError (RedisMetrics F) := do
  let gauge := gauge "redis" config.ns
  let poolConnections ← gauge "pool_connections" "Number of connected pool clients"
  let connectedClients ← gauge "connected_clients" "Number of connected Redis clients"
  let blockedClients ← gauge "blocked_clients" "Number of blocked Redis clients"
  let usedMemoryBytes ← gauge "used_memory_bytes" "Redis used memory in bytes"
  let usedMemoryRss ← gauge "used_memory_rss_bytes" "Redis RSS memory in bytes"
  let memFragmentationRatio ← fgauge "redis" config.ns "mem_fragmentation_ratio"
    "Redis memory fragmentation ratio"
  let keyspaceHits ← gauge "keyspace_hits_total" "Redis keyspace hits (snapshot)"
  let keyspaceMisses ← gauge "keyspace_misses_total" "Redis keyspace misses (snapshot)"
  let evictedKeys ← gauge "evicted_keys_total" "Redis evicted keys (snapshot)"
  let totalCommandsProcessed ← gauge "commands_processed_total"
    "Total Redis commands processed (snapshot)"
  let dbKeys ← metricVec "redis" config.ns "db_keys" "Number of keys per database" ["db"]
  let dbExpires ← metricVec "redis" config.ns "db_expires" "Number of expiring keys per database"
    ["db"]
  let replicationOffset ← gauge "replication_offset" "Redis master replication offset"
  let connectedSlaves ← gauge "connected_slaves" "Number of connected Redis replicas"
  let commandDurationSeconds ← metricVec "redis" config.ns "command_duration_seconds"
    "Application-level Redis command duration" ["cmd"]
  return {
    poolConnections, connectedClients, blockedClients, usedMemoryBytes, usedMemoryRss,
    memFragmentationRatio, keyspaceHits, keyspaceMisses, evictedKeys, totalCommandsProcessed,
    dbKeys, dbExpires, replicationOffset, connectedSlaves, commandDurationSeconds }

/-- The descriptors in the order of `register`. -/
def descs (m : RedisMetrics F) : List Desc :=
  [m.poolConnections.desc, m.connectedClients.desc, m.blockedClients.desc,
    m.usedMemoryBytes.desc, m.usedMemoryRss.desc, m.memFragmentationRatio.desc,
    m.keyspaceHits.desc, m.keyspaceMisses.desc, m.evictedKeys.desc,
    m.totalCommandsProcessed.desc, m.dbKeys.desc, m.dbExpires.desc, m.replicationOffset.desc,
    m.connectedSlaves.desc, m.commandDurationSeconds.desc]

def register (m : RedisMetrics F) : RegisterM Unit := registerAll m.descs

def collector (m : RedisMetrics F) : MetricsCollector where
  name := "redis"
  register := m.register

section
variable [LabelKey]

def observeCommand (m : RedisMetrics F) (cmd : String) (durationSecs : F) : RedisMetrics F :=
  { m with commandDurationSeconds := m.commandDurationSeconds.observe [cmd] durationSecs }

def publishScalars (info : RedisInfo F) (m : RedisMetrics F) : RedisMetrics F :=
  { m with
    connectedClients := m.connectedClients.set info.connectedClients
    blockedClients := m.blockedClients.set info.blockedClients
    usedMemoryBytes := m.usedMemoryBytes.set info.usedMemory
    usedMemoryRss := m.usedMemoryRss.set info.usedMemoryRss
    memFragmentationRatio := m.memFragmentationRatio.set info.memFragmentationRatio
    keyspaceHits := m.keyspaceHits.set info.keyspaceHits
    keyspaceMisses := m.keyspaceMisses.set info.keyspaceMisses
    evictedKeys := m.evictedKeys.set info.evictedKeys
    totalCommandsProcessed := m.totalCommandsProcessed.set info.totalCommandsProcessed
    replicationOffset := m.replicationOffset.set info.replicationOffset
    connectedSlaves := m.connectedSlaves.set info.connectedSlaves }

/-- The body of the keyspace loop. -/
def publishEntry (m : RedisMetrics F) (entry : UInt32 × Int64 × Int64) : RedisMetrics F :=
  { m with
    dbKeys := m.dbKeys.set [dbLabel entry.1] entry.2.1
    dbExpires := m.dbExpires.set [dbLabel entry.1] entry.2.2 }

def publish (info : RedisInfo F) (m : RedisMetrics F) : RedisMetrics F :=
  info.keyspace.foldl publishEntry (m.publishScalars info)

/-- `collect`, with `self.pool.size()` read at its start. -/
def collect (poolSize : UInt64) :
    Async (RedisMetrics F) RedisQuery (Except String String) MetricsError Unit := do
  Async.modify fun m => { m with poolConnections := m.poolConnections.set poolSize.toInt64 }
  let raw ← .await .infoAll fun reply => Async.liftExcept (reply.mapError .database)
  Async.modify (publish (RedisInfo.parseInfo raw.toList))

end

/-- The metric names in the order of `register`. -/
def names : List String :=
  ["pool_connections", "connected_clients", "blocked_clients", "used_memory_bytes",
    "used_memory_rss_bytes", "mem_fragmentation_ratio", "keyspace_hits_total",
    "keyspace_misses_total", "evicted_keys_total", "commands_processed_total", "db_keys",
    "db_expires", "replication_offset", "connected_slaves", "command_duration_seconds"]

/-- Every metric has its qualified name, and none has a constant label. -/
theorem new_identities {config : CollectorConfig} {m : RedisMetrics F}
    (h : new config = .ok m) : m.descs.map Desc.identity =
      names.map fun name => (qualifier "redis" config.ns ++ name, []) := by
  simp only [new, bind_eq_ok, pure_eq_ok] at h
  obtain ⟨m1, h1, m2, h2, m3, h3, m4, h4, m5, h5, m6, h6, m7, h7, m8, h8, m9, h9, m10, h10, m11,
    h11, m12, h12, m13, h13, m14, h14, m15, h15, rfl⟩ := h
  have inSub : "redis" ≠ "" := by decide
  have ofGauge : ∀ {name help : String} {g : IntGauge}, name ≠ "" →
      gauge "redis" config.ns name help = .ok g →
        g.desc.identity = (qualifier "redis" config.ns ++ name, []) :=
    fun named made => (gauge_ok inSub named made).1
  simp only [descs, names, List.map_cons, List.map_nil, List.cons.injEq, and_true]
  exact ⟨ofGauge (by decide) h1, ofGauge (by decide) h2, ofGauge (by decide) h3,
    ofGauge (by decide) h4, ofGauge (by decide) h5, (fgauge_ok inSub (by decide) h6).1,
    ofGauge (by decide) h7, ofGauge (by decide) h8, ofGauge (by decide) h9,
    ofGauge (by decide) h10, (metricVec_ok inSub (by decide) h11).1,
    (metricVec_ok inSub (by decide) h12).1, ofGauge (by decide) h13, ofGauge (by decide) h14,
    (metricVec_ok inSub (by decide) h15).1⟩

theorem new_names {config : CollectorConfig} {m : RedisMetrics F} (h : new config = .ok m) :
    m.descs.map Desc.fqName = names.map (qualifier "redis" config.ns ++ ·) :=
  names_of_identities (new_identities h)

/-- A collector never conflicts with itself. -/
theorem new_independent {config : CollectorConfig} {m : RedisMetrics F} (h : new config = .ok m) :
    ConflictFree.Independent Desc.Conflicts m.descs := by
  apply Registry.independent_of_names
  rw [new_names h]
  exact qualified_nodup "redis" config.ns (by decide)

end RedisMetrics

end DrMetrix.Redis
