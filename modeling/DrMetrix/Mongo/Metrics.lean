import DrMetrix.Core.Subsystem
import DrMetrix.Lib.Async
import DrMetrix.Mongo.Bson

/-! # The Mongo collector

A collection overwrites the gauges of every section which the reply contains.
The two megabyte-to-byte conversions multiply twice, and what an overflow does
depends on the build.
-/

namespace DrMetrix.Mongo

open Prometheus

structure MongoMetrics (F : Type) where
  connectionsCurrent : IntGauge
  connectionsAvailable : IntGauge
  connectionsTotal : IntGauge
  opcounters : IntGaugeVec
  bytesIn : IntGauge
  bytesOut : IntGauge
  requestsIn : IntGauge
  residentMemoryBytes : IntGauge
  virtualMemoryBytes : IntGauge
  wtCacheBytesInUse : IntGauge
  wtCacheBytesMax : IntGauge
  wtCacheDirtyBytes : IntGauge
  opDurationSeconds : HistogramVec F

/-- The one request of a collection. -/
inductive MongoQuery where
  | serverStatus
  deriving DecidableEq

namespace MongoMetrics

variable {F : Type}

def new (config : CollectorConfig) : Except MetricsError (MongoMetrics F) := do
  let gauge := gauge "mongo" config.ns
  let connectionsCurrent ← gauge "connections_current" "Current MongoDB connections"
  let connectionsAvailable ← gauge "connections_available" "Available MongoDB connections"
  let connectionsTotal ← gauge "connections_total" "Total MongoDB connections created"
  let opcounters ← metricVec "mongo" config.ns "opcounters_total"
    "MongoDB operation counters (snapshot)" ["op"]
  let bytesIn ← gauge "network_bytes_in_total" "Network bytes received"
  let bytesOut ← gauge "network_bytes_out_total" "Network bytes sent"
  let requestsIn ← gauge "network_requests_total" "Network requests received"
  let residentMemoryBytes ← gauge "resident_memory_bytes" "Resident memory usage in bytes"
  let virtualMemoryBytes ← gauge "virtual_memory_bytes" "Virtual memory usage in bytes"
  let wtCacheBytesInUse ← gauge "wt_cache_bytes_in_use" "WiredTiger cache bytes currently in use"
  let wtCacheBytesMax ← gauge "wt_cache_bytes_max" "WiredTiger cache maximum bytes"
  let wtCacheDirtyBytes ← gauge "wt_cache_dirty_bytes" "WiredTiger cache dirty bytes"
  let opDurationSeconds ← metricVec "mongo" config.ns "op_duration_seconds"
    "Application-level MongoDB operation duration" ["op"]
  return {
    connectionsCurrent, connectionsAvailable, connectionsTotal, opcounters, bytesIn, bytesOut,
    requestsIn, residentMemoryBytes, virtualMemoryBytes, wtCacheBytesInUse, wtCacheBytesMax,
    wtCacheDirtyBytes, opDurationSeconds }

/-- The descriptors in the order of `register`. -/
def descs (m : MongoMetrics F) : List Desc :=
  [m.connectionsCurrent.desc, m.connectionsAvailable.desc, m.connectionsTotal.desc,
    m.opcounters.desc, m.bytesIn.desc, m.bytesOut.desc, m.requestsIn.desc,
    m.residentMemoryBytes.desc, m.virtualMemoryBytes.desc, m.wtCacheBytesInUse.desc,
    m.wtCacheBytesMax.desc, m.wtCacheDirtyBytes.desc, m.opDurationSeconds.desc]

def register (m : MongoMetrics F) : RegisterM Unit := registerAll m.descs

def collector (m : MongoMetrics F) : MetricsCollector where
  name := "mongo"
  register := m.register

def observeOp [Binary64 F] [LabelKey] (m : MongoMetrics F) (op : String) (durationSecs : F) :
    MongoMetrics F :=
  { m with opDurationSeconds := m.opDurationSeconds.observe [op] durationSecs }

/-! ## Collecting -/

section

def publishConnections (doc : Document) (m : MongoMetrics F) : MongoMetrics F :=
  match doc.getDocument "connections" with
  | .ok conns =>
      { m with
        connectionsCurrent := m.connectionsCurrent.set (conns.i64OrZero "current")
        connectionsAvailable := m.connectionsAvailable.set (conns.i64OrZero "available")
        connectionsTotal := m.connectionsTotal.set (conns.i64OrZero "totalCreated") }
  | .error _ => m

def ops : List String := ["insert", "query", "update", "delete", "getmore", "command"]

def publishOpcounters [LabelKey] (doc : Document) (m : MongoMetrics F) : MongoMetrics F :=
  match doc.getDocument "opcounters" with
  | .ok counters =>
      { m with opcounters := m.opcounters.setRows (fun op => [op]) counters.i64OrZero ops }
  | .error _ => m

def publishNetwork (doc : Document) (m : MongoMetrics F) : MongoMetrics F :=
  match doc.getDocument "network" with
  | .ok net =>
      { m with
        bytesIn := m.bytesIn.set (net.i64OrZero "bytesIn")
        bytesOut := m.bytesOut.set (net.i64OrZero "bytesOut")
        requestsIn := m.requestsIn.set (net.i64OrZero "numRequests") }
  | .error _ => m

def publishCache (doc : Document) (m : MongoMetrics F) : MongoMetrics F :=
  match doc.getDocument "wiredTiger" with
  | .ok wt =>
      match wt.getDocument "cache" with
      | .ok cache =>
          { m with
            wtCacheBytesInUse :=
              m.wtCacheBytesInUse.set (cache.i64OrZero "bytes currently in the cache")
            wtCacheBytesMax := m.wtCacheBytesMax.set (cache.i64OrZero "maximum bytes configured")
            wtCacheDirtyBytes :=
              m.wtCacheDirtyBytes.set (cache.i64OrZero "tracked dirty bytes in the cache") }
      | .error _ => m
  | .error _ => m

/-- The product leaves the `i64` range. -/
def Overflows (a b : Int64) : Prop := a.toInt * b.toInt < -2 ^ 63 ∨ 2 ^ 63 ≤ a.toInt * b.toInt

instance (a b : Int64) : Decidable (Overflows a b) :=
  inferInstanceAs (Decidable (_ ∨ _))

/-- `a * b`: an overflow panics in a build with overflow checks and wraps in
    every other build. -/
def times {κ ρ ε : Type} (overflowChecks : Bool) (a b : Int64) :
    Async (MongoMetrics F) κ ρ ε Int64 :=
  if overflowChecks ∧ Overflows a b then .panic else pure (a * b)

/-- `a * 1024 * 1024`. -/
def inBytes {κ ρ ε : Type} (overflowChecks : Bool) (megabytes : Int64) :
    Async (MongoMetrics F) κ ρ ε Int64 := do
  let kilobytes ← times overflowChecks megabytes 1024
  times overflowChecks kilobytes 1024

def publishMemory {κ ρ ε : Type} (overflowChecks : Bool) (doc : Document) :
    Async (MongoMetrics F) κ ρ ε Unit :=
  match doc.getDocument "mem" with
  | .ok mem => do
      let resident ← inBytes overflowChecks (mem.i64OrZero "resident")
      Async.modify fun m => { m with residentMemoryBytes := m.residentMemoryBytes.set resident }
      let virtual ← inBytes overflowChecks (mem.i64OrZero "virtual")
      Async.modify fun m => { m with virtualMemoryBytes := m.virtualMemoryBytes.set virtual }
  | .error _ => pure ()

variable [LabelKey]

/-- What follows the reply. -/
def publishReply {κ ρ ε : Type} (overflowChecks : Bool) (doc : Document) :
    Async (MongoMetrics F) κ ρ ε Unit := do
  Async.modify (publishConnections doc)
  Async.modify (publishOpcounters doc)
  Async.modify (publishNetwork doc)
  publishMemory overflowChecks doc
  Async.modify (publishCache doc)

def collect (overflowChecks : Bool) :
    Async (MongoMetrics F) MongoQuery (Except String Document) MetricsError Unit := do
  let doc ← .await .serverStatus fun reply => Async.liftExcept (reply.mapError .database)
  publishReply overflowChecks doc

/-- Once the reply is there, nothing is awaited and nothing returns an error. -/
theorem publishReply_settles {κ ρ ε : Type} (overflowChecks : Bool) (doc : Document) :
    (publishReply overflowChecks doc : Async (MongoMetrics F) κ ρ ε Unit).Settles := by
  have multiplies : ∀ a b, (times overflowChecks a b : Async (MongoMetrics F) κ ρ ε _).Settles := by
    intro a b
    unfold times
    split <;> trivial
  have converts : ∀ v, (inBytes overflowChecks v : Async (MongoMetrics F) κ ρ ε _).Settles :=
    fun v => (multiplies v 1024).bind fun kilobytes => multiplies kilobytes 1024
  have memory : (publishMemory overflowChecks doc : Async (MongoMetrics F) κ ρ ε Unit).Settles := by
    unfold publishMemory
    split
    · exact (converts _).bind fun _ => (converts _).bind fun _ => trivial
    · trivial
  exact memory.bind fun _ => trivial

theorem collect_reply (overflowChecks : Bool) (m : MongoMetrics F) (doc : Document)
    (replies : List (Except String Document)) :
    (collect overflowChecks).exec m (.ok doc :: replies) =
      (publishReply overflowChecks doc :
        Async (MongoMetrics F) MongoQuery _ MetricsError Unit).exec m replies := rfl

/-- A collection reads one reply. -/
theorem collect_one_reply (overflowChecks : Bool) (m : MongoMetrics F) (doc : Document)
    (replies : List (Except String Document)) :
    (collect overflowChecks).exec m (.ok doc :: replies) =
      (collect overflowChecks).exec m [.ok doc] :=
  (publishReply_settles overflowChecks doc).exec_replies m replies []

end

/-- The metric names in the order of `register`. -/
def names : List String :=
  ["connections_current", "connections_available", "connections_total", "opcounters_total",
    "network_bytes_in_total", "network_bytes_out_total", "network_requests_total",
    "resident_memory_bytes", "virtual_memory_bytes", "wt_cache_bytes_in_use",
    "wt_cache_bytes_max", "wt_cache_dirty_bytes", "op_duration_seconds"]

/-- Every metric has its qualified name, and none has a constant label. -/
theorem new_identities {config : CollectorConfig} {m : MongoMetrics F}
    (h : new config = .ok m) : m.descs.map Desc.identity =
      names.map fun name => (qualifier "mongo" config.ns ++ name, []) := by
  simp only [new, bind_eq_ok, pure_eq_ok] at h
  obtain ⟨m1, h1, m2, h2, m3, h3, m4, h4, m5, h5, m6, h6, m7, h7, m8, h8, m9, h9, m10, h10, m11,
    h11, m12, h12, m13, h13, rfl⟩ := h
  have inSub : "mongo" ≠ "" := by decide
  have ofGauge : ∀ {name help : String} {g : IntGauge}, name ≠ "" →
      gauge "mongo" config.ns name help = .ok g →
        g.desc.identity = (qualifier "mongo" config.ns ++ name, []) :=
    fun named made => (gauge_ok inSub named made).1
  simp only [descs, names, List.map_cons, List.map_nil, List.cons.injEq, and_true]
  exact ⟨ofGauge (by decide) h1, ofGauge (by decide) h2, ofGauge (by decide) h3,
    (metricVec_ok inSub (by decide) h4).1, ofGauge (by decide) h5, ofGauge (by decide) h6,
    ofGauge (by decide) h7, ofGauge (by decide) h8, ofGauge (by decide) h9,
    ofGauge (by decide) h10, ofGauge (by decide) h11, ofGauge (by decide) h12,
    (metricVec_ok inSub (by decide) h13).1⟩

theorem new_names {config : CollectorConfig} {m : MongoMetrics F} (h : new config = .ok m) :
    m.descs.map Desc.fqName = names.map (qualifier "mongo" config.ns ++ ·) :=
  names_of_identities (new_identities h)

/-- A collector never conflicts with itself. -/
theorem new_independent {config : CollectorConfig} {m : MongoMetrics F} (h : new config = .ok m) :
    ConflictFree.Independent Desc.Conflicts m.descs := by
  apply Registry.independent_of_names
  rw [new_names h]
  exact qualified_nodup "mongo" config.ns (by decide)

end MongoMetrics

end DrMetrix.Mongo
