import DrMetrix.Collectors.Interruption
import DrMetrix.Core.Observations
import DrMetrix.Prometheus.Ledger

/-! # Observations beside the collectors

`observe_query`, `observe_command` and `observe_op` are called on clones of a
registered collector while its loop collects. They update histograms which no
collection touches.
-/

namespace DrMetrix

open Prometheus Postgres Redis Mongo

variable {F : Type} [Binary64 F] [LabelKey]

/-! ## Postgres -/

namespace Postgres.PostgresMetrics

/-- The two updates of `observe_query`, each of which is atomic. -/
inductive QueryUpdate (F : Type) where
  | duration (name : String) (durationSecs : F)
  | rows (name : String) (rowCount : F)

def QueryUpdate.observe : QueryUpdate F → HistogramVec F × HistogramVec F →
    HistogramVec F × HistogramVec F
  | .duration name durationSecs, h => (h.1.observe [name] durationSecs, h.2)
  | .rows name rowCount, h => (h.1, h.2.observe [name] rowCount)

def QueryUpdate.duration? : QueryUpdate F → Option (LabelValues × F)
  | .duration name durationSecs => some ([name], durationSecs)
  | .rows .. => none

def QueryUpdate.rows? : QueryUpdate F → Option (LabelValues × F)
  | .duration .. => none
  | .rows name rowCount => some ([name], rowCount)

def histogramPart : StatePart (PostgresMetrics F) (HistogramVec F × HistogramVec F) where
  get := histograms
  put h m := { m with queryDurationSeconds := h.1, rowsReturned := h.2 }
  get_put _ _ := rfl
  put_put _ _ _ := rfl
  put_get _ := rfl

theorem observeQuery_updates (m : PostgresMetrics F) (name : String) (durationSecs rowCount : F) :
    m.observeQuery name durationSecs rowCount =
      applyAll (fun o => histogramPart.update (QueryUpdate.observe o))
        [.duration name durationSecs, .rows name rowCount] m := rfl

theorem observe_all (updates : List (QueryUpdate F)) (h : HistogramVec F × HistogramVec F) :
    applyAll QueryUpdate.observe updates h =
      (h.1.observeAll (updates.filterMap QueryUpdate.duration?),
        h.2.observeAll (updates.filterMap QueryUpdate.rows?)) := by
  induction updates generalizing h with
  | nil => rfl
  | cons o updates ih =>
      cases o with
      | duration => exact ih _
      | rows => exact ih _

theorem publishGroup_put (g : Group) (rows : List (Row F)) (m : PostgresMetrics F)
    (h : HistogramVec F × HistogramVec F) :
    (histogramPart.put h m).publishGroup g rows = histogramPart.put h (m.publishGroup g rows) := by
  cases g with
  | databases | tables | locks => exact List.foldl_hom _ fun m row => rfl

theorem collectVia_avoids (libraries : Libraries F) (adapter : Adapter) (status : PoolStatus) :
    histogramPart.Avoids (collectVia (adapter.queryJson libraries) status) := by
  intro h
  rw [collectVia_stages]
  refine ⟨fun m => rfl, ?_⟩
  apply Async.inStages_commutes
  · exact fun g => (adapter.queryJson_frames libraries id g.sql).commutes _
  · exact fun g rows m => publishGroup_put g rows m h

end Postgres.PostgresMetrics

/-! ## Redis -/

namespace Redis.RedisMetrics

def histogramPart : StatePart (RedisMetrics F) (HistogramVec F) where
  get := commandDurationSeconds
  put h m := { m with commandDurationSeconds := h }
  get_put _ _ := rfl
  put_put _ _ _ := rfl
  put_get _ := rfl

omit [Binary64 F] in
theorem publish_put (info : RedisInfo F) (m : RedisMetrics F) (h : HistogramVec F) :
    publish info (histogramPart.put h m) = histogramPart.put h (publish info m) := by
  have entries : ∀ n : RedisMetrics F, info.keyspace.foldl publishEntry (histogramPart.put h n) =
      histogramPart.put h (info.keyspace.foldl publishEntry n) :=
    fun n => List.foldl_hom _ fun m entry => rfl
  exact entries (m.publishScalars info)

theorem collect_avoids (poolSize : UInt64) :
    histogramPart.Avoids (collect poolSize : Async (RedisMetrics F) _ _ _ _) := by
  intro h
  refine ⟨fun m => rfl, fun reply => ?_⟩
  apply (Async.commutes_liftExcept _ _).bind
  intro raw
  exact Async.commutes_modify fun m => publish_put _ m h

end Redis.RedisMetrics

/-! ## Mongo -/

namespace Mongo.MongoMetrics

def histogramPart : StatePart (MongoMetrics F) (HistogramVec F) where
  get := opDurationSeconds
  put h m := { m with opDurationSeconds := h }
  get_put _ _ := rfl
  put_put _ _ _ := rfl
  put_get _ := rfl

omit [Binary64 F] [LabelKey] in
theorem publishMemory_avoids {κ ρ ε : Type} (overflowChecks : Bool) (doc : Document) :
    histogramPart.Avoids (publishMemory overflowChecks doc : Async (MongoMetrics F) κ ρ ε Unit) := by
  intro h
  have multiplies : ∀ a b, (times overflowChecks a b : Async (MongoMetrics F) κ ρ ε _).Commutes
      (histogramPart.put h) := by
    intro a b
    unfold times
    split <;> trivial
  have converts : ∀ v, (inBytes overflowChecks v : Async (MongoMetrics F) κ ρ ε _).Commutes
      (histogramPart.put h) :=
    fun v => (multiplies v 1024).bind fun kilobytes => multiplies kilobytes 1024
  unfold publishMemory
  split
  · exact (converts _).bind fun resident => ⟨fun m => rfl, (converts _).bind fun virtual =>
      ⟨fun m => rfl, trivial⟩⟩
  · trivial

omit [Binary64 F] in
theorem collect_avoids (overflowChecks : Bool) :
    histogramPart.Avoids (collect overflowChecks : Async (MongoMetrics F) _ _ _ _) := by
  intro h reply
  apply (Async.commutes_liftExcept _ _).bind
  intro doc
  refine ⟨?connections, ?opcounters, ?network, (publishMemory_avoids overflowChecks doc h).bind
    fun _ => Async.commutes_modify ?cache⟩
  case connections =>
    intro m
    unfold publishConnections
    split <;> rfl
  case opcounters =>
    intro m
    unfold publishOpcounters
    split <;> rfl
  case network =>
    intro m
    unfold publishNetwork
    split <;> rfl
  case cache =>
    intro m
    unfold publishCache
    split
    · split <;> rfl
    · rfl

end Mongo.MongoMetrics

theorem observe_named (updates : List (String × F)) (h : HistogramVec F) :
    applyAll (fun (o : String × F) (h : HistogramVec F) => h.observe [o.1] o.2) updates h =
      h.observeAll (updates.map fun o => ([o.1], o.2)) := by
  rw [applyAll, HistogramVec.observeAll, List.foldl_map]

/-! ## Side by side -/

/-- Seen from its backend and by its phase, the task runs as it does alone. -/
structure CollectTask.RunsAs {ι σ κ ρ ε : Type} (s alone : CollectTask ι σ κ ρ ε) : Prop where
  phase : s.phase.Same alone.phase
  starts : s.starts = alone.starts
  collections : s.collections.map Collection.log = alone.collections.map Collection.log

/-- The collectors in use: for each interleaving of the loop with observations,
    the loop runs as it does alone, every gauge shows what it would show then, and
    every histogram has what was observed, also between two writes. -/
structure UsedBeside (libraries : Libraries F) : Prop where
  postgres : ∀ (adapter : Adapter) (m : PostgresMetrics F) (now interval : Nat)
    (as : List (SharedAction PoolStatus PoolReply (PostgresMetrics.QueryUpdate F)))
    (s : CollectTask PoolStatus (PostgresMetrics F) PoolRequest PoolReply MetricsError),
    let collect (status : PoolStatus) : Async (PostgresMetrics F) PoolRequest PoolReply _ _ :=
      PostgresMetrics.collectVia (adapter.queryJson libraries) status
    Transition.run (sharedStep collect fun o => PostgresMetrics.histogramPart.update o.observe)
      (CollectTask.spawn m now interval) as = some s →
    ∃ alone, Transition.run (CollectTask.step collect) (CollectTask.spawn m now interval)
        (as.filterMap SharedAction.loop?) = some alone ∧ s.RunsAs alone ∧
      s.state = { alone.state with
        queryDurationSeconds := m.queryDurationSeconds.observeAll
          ((as.filterMap SharedAction.update?).filterMap PostgresMetrics.QueryUpdate.duration?)
        rowsReturned := m.rowsReturned.observeAll
          ((as.filterMap SharedAction.update?).filterMap PostgresMetrics.QueryUpdate.rows?) }
  redis : ∀ (m : RedisMetrics F) (now interval : Nat)
    (as : List (SharedAction UInt64 (Except String String) (String × F)))
    (s : CollectTask UInt64 (RedisMetrics F) RedisQuery (Except String String) MetricsError),
    Transition.run (sharedStep RedisMetrics.collect fun o m => m.observeCommand o.1 o.2)
      (CollectTask.spawn m now interval) as = some s →
    ∃ alone, Transition.run (CollectTask.step RedisMetrics.collect)
        (CollectTask.spawn m now interval) (as.filterMap SharedAction.loop?) = some alone ∧
      s.RunsAs alone ∧ s.state = { alone.state with
        commandDurationSeconds := m.commandDurationSeconds.observeAll
          ((as.filterMap SharedAction.update?).map fun o => ([o.1], o.2)) }
  mongo : ∀ (overflowChecks : Bool) (m : MongoMetrics F) (now interval : Nat)
    (as : List (SharedAction Unit (Except String Document) (String × F)))
    (s : CollectTask Unit (MongoMetrics F) MongoQuery (Except String Document) MetricsError),
    let collect (_ : Unit) : Async (MongoMetrics F) MongoQuery (Except String Document) _ _ :=
      MongoMetrics.collect overflowChecks
    Transition.run (sharedStep collect fun o m => m.observeOp o.1 o.2)
      (CollectTask.spawn m now interval) as = some s →
    ∃ alone, Transition.run (CollectTask.step collect) (CollectTask.spawn m now interval)
        (as.filterMap SharedAction.loop?) = some alone ∧ s.RunsAs alone ∧
      s.state = { alone.state with
        opDurationSeconds := m.opDurationSeconds.observeAll
          ((as.filterMap SharedAction.update?).map fun o => ([o.1], o.2)) }

theorem collectors_used_beside (libraries : Libraries F) : UsedBeside libraries where
  postgres adapter m now interval as s := by
    intro collect h
    obtain ⟨alone, ran, beside⟩ := CollectTask.run_beside
      (PostgresMetrics.collectVia_avoids libraries adapter) (CollectTask.spawn_idle m now interval) h
    refine ⟨alone, ran, ⟨beside.phase, beside.starts, beside.collections⟩, ?_⟩
    rw [beside.state, PostgresMetrics.observe_all]
    rfl
  redis m now interval as s := by
    intro h
    change Transition.run (sharedStep RedisMetrics.collect fun (o : String × F) =>
      RedisMetrics.histogramPart.update fun h => h.observe [o.1] o.2) _ as = some s at h
    obtain ⟨alone, ran, beside⟩ := CollectTask.run_beside RedisMetrics.collect_avoids
      (CollectTask.spawn_idle m now interval) h
    refine ⟨alone, ran, ⟨beside.phase, beside.starts, beside.collections⟩, ?_⟩
    rw [beside.state, observe_named]
    rfl
  mongo overflowChecks m now interval as s := by
    intro collect h
    change Transition.run (sharedStep collect fun (o : String × F) =>
      MongoMetrics.histogramPart.update fun h => h.observe [o.1] o.2) _ as = some s at h
    obtain ⟨alone, ran, beside⟩ := CollectTask.run_beside
      (fun _ => MongoMetrics.collect_avoids overflowChecks) (CollectTask.spawn_idle m now interval) h
    refine ⟨alone, ran, ⟨beside.phase, beside.starts, beside.collections⟩, ?_⟩
    rw [beside.state, observe_named]
    rfl

end DrMetrix
