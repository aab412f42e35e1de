import DrMetrix.Core.Requests
import DrMetrix.Mongo.Metrics
import DrMetrix.Postgres.Collection
import DrMetrix.Redis.Metrics

/-! # The requests of the three collectors

Whatever a backend answers, and wherever a collection stops, it is asked the
same questions in the same order. A collection fails with nothing but a database
error.
-/

namespace DrMetrix

open Postgres Redis Mongo

variable {F : Type}

def MetricsError.IsDatabase (e : MetricsError) : Prop := ∃ text, e = .database text

theorem isDatabase_of_mapError {α : Type} {x : Except String α} {e : MetricsError}
    (h : x.mapError .database = .error e) : e.IsDatabase := by
  cases x with
  | ok value => cases h
  | error text =>
      cases h
      exact ⟨text, rfl⟩

/-! ## Postgres -/

namespace Postgres

variable {σ : Type} (libraries : Libraries F)

/-- The requests of one `query_json`. -/
def Adapter.script : Adapter → String → List PoolRequest
  | .deadpool, sql => [.connection, .statement (wrap sql)]
  | .r2d2, sql | .seaOrm, sql => [.statement (wrap sql)]

theorem Agrees.isDatabase {α : Type} {x : Except MetricsError α} {o : Option α}
    (agrees : Agrees x o) {e : MetricsError} (failed : x = .error e) : e.IsDatabase := by
  subst failed
  cases o with
  | none =>
      obtain ⟨text, same⟩ := agrees
      exact ⟨text, Except.error.inj same⟩
  | some a => cases agrees

theorem Adapter.queryJson_follows (adapter : Adapter) (sql : String) :
    (adapter.queryJson libraries sql : Async σ _ _ _ _).Follows MetricsError.IsDatabase
      (adapter.script sql) := by
  have asks : ∀ request, (backend request : Async σ _ _ _ _).Follows MetricsError.IsDatabase
      [request] :=
    fun request => ⟨[], rfl, fun reply => Async.follows_liftExcept fun e => isDatabase_of_mapError⟩
  have loads : ∀ cells, (Async.liftExcept ((load libraries.namedRowGet cells).mapError .database) :
      Async σ PoolRequest PoolReply _ _).Follows MetricsError.IsDatabase [] :=
    fun cells => Async.follows_liftExcept fun e => isDatabase_of_mapError
  have parses : ∀ rows, (Async.liftExcept (parseRows libraries rows) :
      Async σ PoolRequest PoolReply _ _).Follows MetricsError.IsDatabase [] :=
    fun rows => Async.follows_liftExcept fun e => (parseRows_agrees libraries rows).isDatabase
  cases adapter with
  | deadpool =>
      exact (asks .connection).bind fun _ => (asks _).bind fun cells =>
        (loads cells).bind parses
  | r2d2 => exact (asks _).bind fun cells => (loads cells).bind parses
  | seaOrm =>
      exact (asks _).bind fun cells => Async.follows_liftExcept fun e =>
        (Adapter.decoded_agrees libraries .seaOrm cells).isDatabase

/-- Three queries, one after the other. -/
def Adapter.collectScript (adapter : Adapter) : List PoolRequest :=
  Group.order.flatMap fun g => adapter.script g.sql

theorem PostgresMetrics.collectVia_follows [Binary64 F] [Prometheus.LabelKey] (adapter : Adapter)
    (status : PoolStatus) :
    (collectVia (adapter.queryJson libraries) status).Follows MetricsError.IsDatabase
      adapter.collectScript := by
  rw [collectVia_stages]
  exact Async.Follows.stages (fun g => adapter.queryJson_follows libraries g.sql) Group.order

end Postgres

/-! ## Redis and Mongo -/

theorem Redis.RedisMetrics.collect_follows [Binary64 F] [Prometheus.LabelKey] (poolSize : UInt64) :
    (collect poolSize : Async (RedisMetrics F) _ _ _ _).Follows MetricsError.IsDatabase
      [.infoAll] := by
  refine ⟨[], rfl, fun reply => ?_⟩
  exact (Async.follows_liftExcept fun e => isDatabase_of_mapError).bind fun raw =>
    Async.follows_modify _

theorem Mongo.MongoMetrics.collect_follows [Prometheus.LabelKey] (overflowChecks : Bool) :
    (collect overflowChecks : Async (MongoMetrics F) _ _ _ _).Follows MetricsError.IsDatabase
      [.serverStatus] := by
  refine ⟨[], rfl, fun reply => ?_⟩
  exact (Async.follows_liftExcept fun e => isDatabase_of_mapError).bind fun doc =>
    (publishReply_settles overflowChecks doc).follows _

/-! ## The loops -/

section
variable [Binary64 F] [Prometheus.LabelKey]

/-- All sessions of all loops keep to the script of their collector, which bounds
    the load on the backend, and their errors are database errors. -/
structure LoopsScripted (libraries : Libraries F) : Prop where
  postgres : ∀ (adapter : Adapter) (m : PostgresMetrics F) (began interval : Nat)
    (actions : List (TaskAction PoolStatus PoolReply))
    (s : CollectTask PoolStatus (PostgresMetrics F) PoolRequest PoolReply MetricsError),
    let collect (status : PoolStatus) : Async (PostgresMetrics F) PoolRequest PoolReply _ _ :=
      PostgresMetrics.collectVia (adapter.queryJson libraries) status
    Transition.run (CollectTask.step collect) (CollectTask.spawn m began interval) actions = some s →
      Scripted adapter.collectScript MetricsError.IsDatabase collect began interval
        (sessions actions) s
  redis : ∀ (m : RedisMetrics F) (began interval : Nat)
    (actions : List (TaskAction UInt64 (Except String String)))
    (s : CollectTask UInt64 (RedisMetrics F) RedisQuery (Except String String) MetricsError),
    Transition.run (CollectTask.step RedisMetrics.collect) (CollectTask.spawn m began interval)
        actions = some s →
      Scripted [.infoAll] MetricsError.IsDatabase RedisMetrics.collect began interval
        (sessions actions) s
  mongo : ∀ (overflowChecks : Bool) (m : MongoMetrics F) (began interval : Nat)
    (actions : List (TaskAction Unit (Except String Document)))
    (s : CollectTask Unit (MongoMetrics F) MongoQuery (Except String Document) MetricsError),
    let collect (_ : Unit) : Async (MongoMetrics F) MongoQuery (Except String Document) _ _ :=
      MongoMetrics.collect overflowChecks
    Transition.run (CollectTask.step collect) (CollectTask.spawn m began interval) actions = some s →
      Scripted [.serverStatus] MetricsError.IsDatabase collect began interval (sessions actions) s

theorem collectors_scripted (libraries : Libraries F) : LoopsScripted libraries where
  postgres adapter _ _ _ _ _ h :=
    CollectTask.spawnCollectLoop_scripted (PostgresMetrics.collectVia_follows libraries adapter) h
  redis _ _ _ _ _ h := CollectTask.spawnCollectLoop_scripted RedisMetrics.collect_follows h
  mongo overflowChecks _ _ _ _ _ h :=
    CollectTask.spawnCollectLoop_scripted (fun _ => MongoMetrics.collect_follows overflowChecks) h

end

end DrMetrix
