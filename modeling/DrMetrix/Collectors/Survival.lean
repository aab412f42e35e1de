import DrMetrix.Axum.Supervision
import DrMetrix.Mongo.MemoryOverflow
import DrMetrix.Postgres.Interchange
import DrMetrix.Redis.Metrics

/-! # What can end a loop

The three collectors in one application. Whatever their backends answer, a loop
dies of nothing but a zero interval, or of the memory conversion of the Mongo
collector in a build with overflow checks.
-/

namespace DrMetrix

open Transition Axum Prometheus Postgres Redis Mongo

variable {F : Type}

/-! ## One loop -/

section
variable {ι σ κ ρ ε : Type} {collect : ι → Async σ κ ρ ε Unit} {state : σ} {began interval : Nat}
  {actions : List (TaskAction ι ρ)} {s : CollectTask ι σ κ ρ ε}

end

/-! ## The collectors -/

section
variable (libraries : Libraries F)

variable [Binary64 F] [LabelKey]

end

namespace Mongo.MongoMetrics

variable [LabelKey]

end Mongo.MongoMetrics

/-! ## All loops of an application -/

deriving instance DecidableEq for Adapter

/-- The collectors of the workspace; a Postgres collector has a pool type. -/
inductive Library where
  | postgres (pool : Adapter)
  | redis
  | mongo
  deriving DecidableEq

def Library.kind [Binary64 F] [LabelKey] (libraries : Libraries F) (overflowChecks : Bool) :
    Library → CollectorKind
  | .postgres pool =>
      { Env := PoolStatus
        State := PostgresMetrics F
        Request := PoolRequest
        Reply := PoolReply
        collect := fun status => PostgresMetrics.collectVia (pool.queryJson libraries) status }
  | .redis =>
      { Env := UInt64
        State := RedisMetrics F
        Request := RedisQuery
        Reply := Except String String
        collect := RedisMetrics.collect }
  | .mongo =>
      { Env := Unit
        State := MongoMetrics F
        Request := MongoQuery
        Reply := Except String Document
        collect := fun _ => MongoMetrics.collect overflowChecks }

section
variable [Binary64 F] [LabelKey]

end

attribute [local instance] LabelKey.tuples

end DrMetrix
